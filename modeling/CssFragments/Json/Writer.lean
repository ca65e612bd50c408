import CssFragments.Json.Basic
import CssFragments.Number.Single

/-! # Writing JSON

The text of a value, on one line. A number has the fewest digits that read back in its own
precision, and one that is not whole keeps a fraction also if it is zero, so that its kind can be
read off.

* `Json.writeString`: a text between quotes.
* `Json.write`: the text of a value. -/

namespace CssFragments

namespace Json

/-- Four hexadecimal digits. -/
def fourDigits (n : Nat) : Text :=
  let digits := Nat.toDigits 16 n
  List.replicate (4 - digits.length) '0' ++ digits

/-- How a character is written between quotes: quotes, backslashes and controls are escaped. -/
def writeChar (c : Char) : Text :=
  if c = '"' then ['\\', '"']
  else if c = '\\' then ['\\', '\\']
  else if c = '\n' then ['\\', 'n']
  else if c = '\r' then ['\\', 'r']
  else if c = '\t' then ['\\', 't']
  else if c.toNat < 32 then ['\\', 'u'] ++ fourDigits c.toNat
  else [c]

/-- A text between quotes. -/
def writeString (s : String) : String :=
  String.ofList ('"' :: s.toList.flatMap writeChar ++ ['"'])

mutual

/-- The text of a value. -/
def write : Json → String
  | .null => "null"
  | .bool b => if b then "true" else "false"
  | .integer n => toString n
  | .double x => Double.render x
  | .single x => (BinaryValue.ofSingle x).render Double.style
  | .string s => writeString s
  | .array items => "[" ++ ",".intercalate (writeItems items) ++ "]"
  | .object members => "\x7b" ++ ",".intercalate (writeMembers members) ++ "\x7d"
termination_by structural j => j

/-- The texts of the items of a list. -/
def writeItems : List Json → List String
  | [] => []
  | v :: rest => write v :: writeItems rest
termination_by structural items => items

/-- The text of a member of an object. -/
def writeMember : String × Json → String
  | (k, v) => writeString k ++ ":" ++ write v
termination_by structural m => m

/-- The texts of the members of an object. -/
def writeMembers : List (String × Json) → List String
  | [] => []
  | m :: rest => writeMember m :: writeMembers rest
termination_by structural members => members

end

end Json

end CssFragments
