/-! # JSON values

The values that clients and the server exchange. Whole numbers and numbers of 64 and 32 bits are
kept apart, since a whole number is not accepted where another one stands and conversely.

* `Json.get?`, `Json.insert`: the members of an object; a name occurs once.
* the views `Json.string?`, `Json.nat?`, …: a value of a given kind, if it is one. -/

namespace CssFragments

/-- A JSON value. -/
inductive Json where
  /-- The value that stands for none. -/
  | null
  /-- A truth value. -/
  | bool (b : Bool)
  /-- A number written without fraction and exponent. -/
  | integer (n : Int)
  /-- A number of 64 bits. -/
  | double (x : Float)
  /-- A number of 32 bits. -/
  | single (x : Float32)
  /-- A text. -/
  | string (s : String)
  /-- A list of values. -/
  | array (items : List Json)
  /-- Values by name. -/
  | object (members : List (String × Json))

namespace Json

/-! ## Members -/

/-- The value under a name in a list of members. -/
def lookup (name : String) : List (String × Json) → Option Json
  | [] => none
  | (k, v) :: rest => if k = name then some v else lookup name rest

/-- Puts a value under a name, in the place of an earlier one. -/
def insert (name : String) (value : Json) : List (String × Json) → List (String × Json)
  | [] => [(name, value)]
  | (k, v) :: rest => if k = name then (name, value) :: rest else (k, v) :: insert name value rest

/-- The value under a name, if this is an object that has it. -/
def get? (j : Json) (name : String) : Option Json :=
  match j with
  | .object members => lookup name members
  | _ => none

/-- The value under a name, where `null` counts as absent. -/
def given? (j : Json) (name : String) : Option Json :=
  match j.get? name with
  | some .null => none
  | v => v

/-! ## Views -/

/-- The truth value, if this is one. -/
def bool? : Json → Option Bool
  | .bool b => some b
  | _ => none

/-- The whole number, if this is one. -/
def int? : Json → Option Int
  | .integer n => some n
  | _ => none

/-- The whole number that is not negative, if this is one. -/
def nat? : Json → Option Nat
  | .integer (.ofNat n) => some n
  | _ => none

/-- The text, if this is one. -/
def string? : Json → Option String
  | .string s => some s
  | _ => none

/-- The items, if this is a list. -/
def array? : Json → Option (List Json)
  | .array items => some items
  | _ => none

/-- The members, if this is an object. -/
def members? : Json → Option (List (String × Json))
  | .object members => some members
  | _ => none

/-- The number, rounded to 32 bits, if this is one. -/
def single? : Json → Option Float32
  | .integer n => some (Float.ofInt n).toFloat32
  | .double x => some x.toFloat32
  | .single x => some x
  | _ => none

/-! ## Construction -/

/-- A natural number as a value. -/
def ofNat (n : Nat) : Json := .integer n

/-- A value, or `null` for none. -/
def ofOption (o : Option Json) : Json := o.getD .null

/-- An object of the members that are present. -/
def ofMembers (members : List (String × Option Json)) : Json :=
  .object (members.filterMap fun m => m.2.map (m.1, ·))

end Json

end CssFragments
