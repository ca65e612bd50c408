import CssFragments.Json.Basic
import CssFragments.Number.Hex
import CssFragments.Number.Scaled

/-! # Reading JSON

Reading takes two passes over lists, each by a machine that makes one step for each element. The
first turns characters into tokens, the second builds the value from the tokens, with the lists and
objects that are still open on a stack.

* `Json.Lexer.step`, `Json.tokens?`: characters to tokens.
* `Json.Builder.step`, `Json.build?`: tokens to a value.
* `Json.read?`: both. If a name occurs twice in an object, the last value counts. -/

namespace CssFragments

namespace Json

/-- A piece of JSON text. -/
inductive Token where
  /-- A bracket, brace, comma or colon. -/
  | mark (c : Char)
  /-- A quoted text, unescaped. -/
  | text (s : String)
  /-- A number or a word, as it is written. -/
  | bare (t : Text)

/-! ## Characters to tokens -/

namespace Lexer

/-- What the characters read so far are the beginning of. Characters are kept last first. -/
inductive State where
  /-- Between tokens. -/
  | between
  /-- Inside a quoted text. -/
  | quoted (chars : Text)
  /-- After a backslash in a quoted text. -/
  | escaped (chars : Text)
  /-- Inside a code unit of four hexadecimal digits, of which `left` are to come; a high surrogate
  may have been read before it. -/
  | unit (chars : Text) (left value : Nat) (high : Option Nat)
  /-- After a high surrogate. -/
  | surrogate (chars : Text) (high : Nat)
  /-- After a high surrogate and a backslash. -/
  | surrogateEscape (chars : Text) (high : Nat)
  /-- Inside a number or word. -/
  | bare (chars : Text)

/-- Separates tokens without being one. -/
def isSpace (c : Char) : Bool := c == ' ' || c == '\n' || c == '\r' || c == '\t'

/-- Is a token by itself. -/
def isMark (c : Char) : Bool := "[]\x7b\x7d,:".toList.contains c

/-- What an escape of one letter stands for. -/
def escape? : Char → Option Char
  | '"' => some '"'
  | '\\' => some '\\'
  | '/' => some '/'
  | 'b' => some '\x08'
  | 'f' => some '\x0c'
  | 'n' => some '\n'
  | 'r' => some '\r'
  | 't' => some '\t'
  | _ => none

/-- The state after a complete code unit: a pair of surrogates is one character, and neither stands
alone. -/
def finishUnit? (chars : Text) (value : Nat) : Option Nat → Option State
  | none =>
    if 0xD800 ≤ value ∧ value < 0xDC00 then some (.surrogate chars value)
    else if 0xDC00 ≤ value ∧ value < 0xE000 then none
    else some (.quoted (Char.ofNat value :: chars))
  | some high =>
    if 0xDC00 ≤ value ∧ value < 0xE000 then
      some (.quoted (Char.ofNat (0x10000 + (high - 0xD800) * 0x400 + (value - 0xDC00)) :: chars))
    else none

/-- One character between tokens. -/
def begin? (tokens : List Token) (c : Char) : State × List Token :=
  if isSpace c then (.between, tokens)
  else if isMark c then (.between, .mark c :: tokens)
  else if c = '"' then (.quoted [], tokens)
  else (.bare [c], tokens)

/-- Reads one character; the tokens are kept last first. -/
def step (s : State × List Token) (c : Char) : Option (State × List Token) :=
  match s with
  | (.between, tokens) => some (begin? tokens c)
  | (.quoted chars, tokens) =>
    if c = '"' then some (.between, .text (String.ofList chars.reverse) :: tokens)
    else if c = '\\' then some (.escaped chars, tokens)
    else if c.toNat < 32 then none
    else some (.quoted (c :: chars), tokens)
  | (.escaped chars, tokens) =>
    if c = 'u' then some (.unit chars 4 0 none, tokens)
    else (escape? c).map fun d => (.quoted (d :: chars), tokens)
  | (.unit chars left value high, tokens) => do
    let value := 16 * value + (← Hex.digit? c)
    if left ≤ 1 then (finishUnit? chars value high).map (·, tokens)
    else some (.unit chars (left - 1) value high, tokens)
  | (.surrogate chars high, tokens) =>
    if c = '\\' then some (.surrogateEscape chars high, tokens) else none
  | (.surrogateEscape chars high, tokens) =>
    if c = 'u' then some (.unit chars 4 0 (some high), tokens) else none
  | (.bare chars, tokens) =>
    if isSpace c || isMark c || c == '"' then some (begin? (.bare chars.reverse :: tokens) c)
    else some (.bare (c :: chars), tokens)

/-- The tokens, if the text does not end inside one. -/
def finish? : State × List Token → Option (List Token)
  | (.between, tokens) => some tokens.reverse
  | (.bare chars, tokens) => some (Token.bare chars.reverse :: tokens).reverse
  | _ => none

end Lexer

/-- The tokens of a text. -/
def tokens? (t : Text) : Option (List Token) :=
  (t.foldlM Lexer.step (.between, [])).bind Lexer.finish?

/-! ## Numbers and words -/

/-- Whether a whole number is kept as one; larger ones are numbers of 64 bits. -/
def fits (n : Int) : Bool := -9223372036854775808 ≤ n && n < 18446744073709551616

/-- A number of 64 bits with its sign, unless it is too large. -/
def signedDouble? (negative : Bool) (s : Scaled) : Option Json :=
  s.toDouble?.map fun x => .double (if negative then -x else x)

/-- Reads an exponent after its mark; without the mark it is zero. -/
def exponent? : Text → Option Int
  | [] => some 0
  | c :: t => if c == 'e' || c == 'E' then Decimal.readExponent? t else none

/-- Reads a number: digits without a leading zero, then a fraction and an exponent if they are
there. Without both it is a whole number, unless it is too large or the negative zero. -/
def number? (t : Text) : Option Json :=
  let (negative, rest) := match t with
    | '-' :: r => (true, r)
    | r => (false, r)
  let whole := rest.takeWhile Char.isDigit
  if whole.isEmpty || (whole.head? == some '0' && whole.length > 1) then none
  else
    match rest.dropWhile Char.isDigit with
    | [] =>
      let n := Decimal.ofDigits whole
      let signed : Int := if negative then -n else n
      if fits signed && !(negative && n == 0) then some (.integer signed)
      else signedDouble? negative (.ofWhole whole)
    | '.' :: after =>
      let fraction := after.takeWhile Char.isDigit
      if fraction.isEmpty then none
      else do
        let exponent ← exponent? (after.dropWhile Char.isDigit)
        signedDouble? negative (((Scaled.ofWhole whole).fraction fraction).shift exponent)
    | after => do
      let exponent ← exponent? after
      signedDouble? negative ((Scaled.ofWhole whole).shift exponent)

/-- Reads a number or a word. -/
def bare? (t : Text) : Option Json :=
  match String.ofList t with
  | "null" => some .null
  | "true" => some (.bool true)
  | "false" => some (.bool false)
  | _ => number? t

/-! ## Tokens to a value -/

namespace Builder

/-- A list or object that is not closed yet, with its items or members so far, last first. -/
inductive Open where
  /-- A list. -/
  | array (items : List Json)
  /-- An object, and the name of the member whose value comes next. -/
  | object (members : List (String × Json)) (name : String)

/-- What may come next. -/
inductive Phase where
  /-- A value. -/
  | value
  /-- A value, or the end of a list that is still empty. -/
  | first
  /-- A comma, or the end of the innermost list or object. -/
  | after
  /-- A name. -/
  | name
  /-- A name, or the end of an object that is still empty. -/
  | firstName
  /-- The colon after a name. -/
  | colon
  /-- Nothing: the value is complete. -/
  | done (v : Json)

/-- What is open, innermost first, and what may come next. -/
structure State where
  stack : List Open
  phase : Phase

/-- Puts a finished value where it belongs. -/
def place (v : Json) : List Open → State
  | [] => ⟨[], .done v⟩
  | .array items :: s => ⟨.array (v :: items) :: s, .after⟩
  | .object members name :: s => ⟨.object (insert name v members) name :: s, .after⟩

/-- A token where a value may come. -/
def value? (stack : List Open) : Token → Option State
  | .mark '[' => some ⟨.array [] :: stack, .first⟩
  | .mark '\x7b' => some ⟨.object [] "" :: stack, .firstName⟩
  | .mark _ => none
  | .text s => some (place (.string s) stack)
  | .bare t => (bare? t).map (place · stack)

/-- The innermost list or object ends. -/
def close? : List Open → Char → Option State
  | .array items :: s, ']' => some (place (.array items.reverse) s)
  | .object members _ :: s, '\x7d' => some (place (.object members) s)
  | _, _ => none

/-- A token where a name comes. -/
def name? : List Open → Token → Option State
  | .object members _ :: s, .text name => some ⟨.object members name :: s, .colon⟩
  | _, _ => none

/-- Reads one token. -/
def step (s : State) (token : Token) : Option State :=
  match s.phase, token with
  | .value, _ => value? s.stack token
  | .first, .mark ']' => close? s.stack ']'
  | .first, _ => value? s.stack token
  | .firstName, .mark '\x7d' => close? s.stack '\x7d'
  | .firstName, _ => name? s.stack token
  | .name, _ => name? s.stack token
  | .colon, .mark ':' => some ⟨s.stack, .value⟩
  | .after, .mark ',' =>
    match s.stack with
    | .array _ :: _ => some ⟨s.stack, .value⟩
    | .object .. :: _ => some ⟨s.stack, .name⟩
    | [] => none
  | .after, .mark c => close? s.stack c
  | _, _ => none

end Builder

/-- The value that the tokens spell. -/
def build? (tokens : List Token) : Option Json :=
  match tokens.foldlM Builder.step ⟨[], .value⟩ with
  | some ⟨_, .done v⟩ => some v
  | _ => none

/-- Reads a whole text as one value. -/
def read? (s : String) : Option Json := (tokens? s.toList).bind build?

end Json

end CssFragments
