import CssFragments.Sheet.Diagnosis

/-! # Settings

What a client can set.

* `RuleLevel`: how a check reports.
* `Settings`: all settings; a client gives those that differ from the standard ones.
* `Settings.describe`: the settings in the words of the journal. -/

namespace CssFragments

/-- How a check reports what it finds (`RuleLevel`). -/
inductive RuleLevel where
  /-- Not at all. -/
  | ignore
  /-- As a warning. -/
  | warning
  /-- As an error. -/
  | error
deriving DecidableEq

namespace RuleLevel

/-- The severity of what is reported (`RuleLevel.severity`). -/
def severity : RuleLevel → Option Severity
  | .ignore => none
  | .warning => some .warning
  | .error => some .error

/-- The name of a level. -/
def name : RuleLevel → String
  | .ignore => "ignore"
  | .warning => "warning"
  | .error => "error"

/-- The level of a name. -/
def ofName? (s : String) : Option RuleLevel :=
  if s = "ignore" then some .ignore
  else if s = "warning" then some .warning
  else if s = "error" then some .error
  else none

/-- A name stands for one level. -/
@[simp] theorem ofName?_name (l : RuleLevel) : ofName? l.name = some l := by
  cases l <;> rfl

/-- The level in the words of the journal. -/
def describe : RuleLevel → String
  | .ignore => "Ignore"
  | .warning => "Warning"
  | .error => "Error"

end RuleLevel

/-- What a client can set (`Settings`). -/
structure Settings where
  /-- Whether diagnostics are published. -/
  validate : Bool
  /-- How properties that are not known are reported. -/
  unknownProperties : RuleLevel
  /-- After how many seconds without a question the analysis service is given up. -/
  idleSeconds : Nat
deriving DecidableEq

namespace Settings

/-- The settings that hold unless a client sets others (`Settings.default`). -/
def standard : Settings := ⟨true, .warning, 120⟩

/-- The checks that are made (`Settings.lint_options`). -/
def lint (s : Settings) : Lint := ⟨s.unknownProperties.severity⟩

/-- The settings in the words of the journal. -/
def describe (s : Settings) : String :=
  "Settings \x7b validate: " ++ (if s.validate then "true" else "false") ++
    ", lint: LintSettings \x7b unknown_properties: " ++ s.unknownProperties.describe ++
    " \x7d, worker_idle_timeout_secs: " ++ toString s.idleSeconds ++ " \x7d"

end Settings

end CssFragments
