import CssFragments.Text.Blank

/-! # Levels of the journal

Every record of the journal has a level, and the journal keeps the records up to a given one.

* `Level`: how much a record matters.
* `Verbosity.ofSetting`: what is kept, by the value of the environment variable that says so. -/

namespace CssFragments

/-- How much a record matters, most first. -/
inductive Level where
  | error
  | warn
  | info
  | debug
  | trace
deriving DecidableEq

namespace Level

/-- All levels, most important first. -/
def all : List Level := [.error, .warn, .info, .debug, .trace]

/-- The name of a level. -/
def name : Level → String
  | .error => "ERROR"
  | .warn => "WARN"
  | .info => "INFO"
  | .debug => "DEBUG"
  | .trace => "TRACE"

/-- How many levels are more important. -/
def rank : Level → Nat
  | .error => 0
  | .warn => 1
  | .info => 2
  | .debug => 3
  | .trace => 4

/-- The level of a given name, in any case. -/
def ofName? (name : Text) : Option Level :=
  let name := String.ofList name.toUpper
  all.find? fun l => l.name == name

end Level

/-- The least important level that is kept, if any is. -/
structure Verbosity where
  least : Option Level
deriving DecidableEq

namespace Verbosity

/-- The verbosity that holds unless something else is asked for. -/
def standard : Verbosity := ⟨some .info⟩

/-- Whether records of a level are kept. -/
def keeps (v : Verbosity) (l : Level) : Bool :=
  match v.least with
  | none => false
  | some least => l.rank ≤ least.rank

/-- The name of a verbosity. -/
def name (v : Verbosity) : String :=
  match v.least with
  | none => "OFF"
  | some l => l.name

/-- The verbosity of a given name, in any case. -/
def ofName? (name : Text) : Option Verbosity :=
  if String.ofList name.toUpper = "OFF" then some ⟨none⟩
  else (Level.ofName? name).map (⟨some ·⟩)

/-- The verbosity that the environment asks for; white space around its name does not matter, and
without a known name the standard one holds (`level_from_env`). -/
def ofSetting (value : Option String) : Verbosity :=
  (value.bind fun v => ofName? (Text.trim v.toList)).getD standard

end Verbosity

end CssFragments
