import CssFragments.Json.Basic
import CssFragments.Number.Single
import CssFragments.Settings.Basic
import CssFragments.Text.Quoted

/-! # Reading settings

Settings come as an object whose members are named, or as a list of their values in a fixed order.
What is not given keeps its standard value. They may stand in the section of a larger object that is
named for this server.

* `Settings.Error`: what can be wrong with them.
* `Settings.ofJson`: the settings that a value gives. -/

namespace CssFragments

namespace Settings

/-! ## Errors -/

/-- What was expected where something else was found. -/
inductive Wanted where
  /-- All settings. -/
  | settings
  /-- The settings of the checks. -/
  | lint
  /-- A truth value. -/
  | boolean
  /-- A number of seconds. -/
  | seconds
  /-- The level of a check. -/
  | level
  /-- An object with one member. -/
  | singleMember
  /-- The value that stands for none. -/
  | nothing
deriving DecidableEq

/-- What was expected, in words. -/
def Wanted.describe : Wanted → String
  | .settings => "struct Settings"
  | .lint => "struct LintSettings"
  | .boolean => "a boolean"
  | .seconds => "u64"
  | .level => "string or map"
  | .singleMember => "map with a single key"
  | .nothing => "unit"

/-- What is wrong with settings. -/
inductive Error where
  /-- A value of the wrong kind. -/
  | wrongKind (found : Json) (wanted : Wanted)
  /-- A value of the right kind that is not possible. -/
  | wrongValue (found : Json) (wanted : Wanted)
  /-- More values in a list than there are settings. -/
  | tooMany (count : Nat)
  /-- A name that is not that of a level. -/
  | unknownLevel (name : String)

/-- What was found, in words. -/
def describeFound : Json → String
  | .null => "null"
  | .bool b => "boolean `" ++ (if b then "true" else "false") ++ "`"
  | .integer n => "integer `" ++ toString n ++ "`"
  | .double x => "floating point `" ++ Double.render x ++ "`"
  | .single x => "floating point `" ++ Single.render x ++ "`"
  | .string s => "string " ++ String.ofList (Text.quoted s.toList)
  | .array _ => "sequence"
  | .object _ => "map"

/-- The error in words. -/
def Error.message : Error → String
  | .wrongKind found wanted =>
    "Invalid settings: invalid type: " ++ describeFound found ++ ", expected " ++ wanted.describe
  | .wrongValue found wanted =>
    "Invalid settings: invalid value: " ++ describeFound found ++ ", expected " ++ wanted.describe
  | .tooMany count =>
    "Invalid settings: invalid length " ++ toString count ++ ", expected fewer elements in array"
  | .unknownLevel name =>
    "Invalid settings: unknown variant `" ++ name ++
      "`, expected one of `ignore`, `warning`, `error`"

/-! ## Single settings -/

/-- Reads a truth value. -/
def readBool : Json → Except Error Bool
  | .bool b => .ok b
  | j => .error (.wrongKind j .boolean)

/-- Reads a number of seconds. -/
def readSeconds : Json → Except Error Nat
  | .integer (.ofNat n) => .ok n
  | .integer (.negSucc n) => .error (.wrongValue (.integer (.negSucc n)) .seconds)
  | j => .error (.wrongKind j .seconds)

/-- Reads the name of a level. -/
def readLevelName (name : String) : Except Error RuleLevel :=
  match RuleLevel.ofName? name with
  | some l => .ok l
  | none => .error (.unknownLevel name)

/-- Reads a level: its name, or an object whose one member has that name and no value. -/
def readLevel : Json → Except Error RuleLevel
  | .string name => readLevelName name
  | .object [(name, value)] => do
    let level ← readLevelName name
    match value with
    | .null => return level
    | other => .error (.wrongKind other .nothing)
  | .object members => .error (.wrongValue (.object members) .singleMember)
  | j => .error (.wrongKind j .level)

/-- Reads a setting that may be absent. -/
def readOr {α : Type} (standard : α) (read : Json → Except Error α) :
    Option Json → Except Error α
  | none => .ok standard
  | some j => read j

/-- Checks that a list has no more values than there are settings. -/
def checkLength (limit : Nat) (items : List Json) : Except Error Unit :=
  if items.length ≤ limit then .ok () else .error (.tooMany items.length)

/-! ## All settings -/

/-- Reads the settings of the checks. -/
def readLint : Json → Except Error RuleLevel
  | .object members =>
    readOr standard.unknownProperties readLevel (Json.lookup "unknownProperties" members)
  | .array items => do
    let level ← readOr standard.unknownProperties readLevel items[0]?
    checkLength 1 items
    return level
  | j => .error (.wrongKind j .lint)

/-- Reads settings by name. The checks come first, then the other settings. -/
def readMembers (members : List (String × Json)) : Except Error Settings := do
  let level ← readOr standard.unknownProperties readLint (Json.lookup "lint" members)
  let validate ← readOr standard.validate readBool (Json.lookup "validate" members)
  let idleSeconds ←
    readOr standard.idleSeconds readSeconds (Json.lookup "workerIdleTimeoutSecs" members)
  return ⟨validate, level, idleSeconds⟩

/-- Reads settings in their fixed order. -/
def readItems (items : List Json) : Except Error Settings := do
  let validate ← readOr standard.validate readBool items[0]?
  let level ← readOr standard.unknownProperties readLint items[1]?
  let idleSeconds ← readOr standard.idleSeconds readSeconds items[2]?
  checkLength 3 items
  return ⟨validate, level, idleSeconds⟩

/-- Reads settings that stand in no section. -/
def readSection : Json → Except Error Settings
  | .null => .ok standard
  | .object members => readMembers members
  | .array items => readItems items
  | j => .error (.wrongKind j .settings)

/-- The name of the section that settings may stand in. -/
def sectionName : String := "cssInJs"

/-- The settings that a value gives, in a section or not; none are the standard ones
(`Settings.from_value`). -/
def ofJson (j : Json) : Except Error Settings := readSection ((j.get? sectionName).getD j)

end Settings

end CssFragments
