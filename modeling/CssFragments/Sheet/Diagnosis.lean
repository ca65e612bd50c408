import CssFragments.Color.Basic
import CssFragments.Editor.Diagnostic
import CssFragments.Property.Table
import CssFragments.Sheet.Basic

/-! # What is wrong with a stylesheet

Syntax errors are the nodes that the parser could not make sense of or had to put in. A declaration
without such a node sets a known property, and a color in hexadecimal notation has the right number
of digits.

* `Lint`: which checks beyond the syntax are made.
* `Sheet.diagnoseNode`, `Sheet.diagnostics`: all that is wrong, in the order of the text. -/

namespace CssFragments

/-- Which checks are made beyond the syntax (`LintOptions`). -/
structure Lint where
  /-- How bad it is to set a property that is not known; none turns the check off. -/
  unknownProperties : Option Severity
deriving DecidableEq

namespace Lint

/-- The checks that are made unless something else is asked for. -/
def standard : Lint := ⟨some .warning⟩

end Lint

namespace Sheet

/-- The name under which the checks report. -/
def source : String := "css"

/-! ## Syntax errors -/

/-- The end of a line, without the carriage returns there (`find_line_end_position`). -/
def lineEnd (s : Sheet) (line : Nat) : Position :=
  let content := ((s.text.splitOn '\n')[line]?).getD []
  ⟨line, (content.reverse.dropWhile (· == '\r')).length⟩

/-- The range of a node, up to the end of its first line (`single_line_range`). -/
def firstLineRange (s : Sheet) (i : NodeInfo) : Range :=
  let r := s.rangeOf i
  if r.start.line < r.stop.line then ⟨r.start, s.lineEnd r.start.line⟩ else r

/-- The report of a node that the parser could not make sense of, with the beginning of its text
(`add_syntax_error`). -/
def syntaxError (s : Sheet) (i : NodeInfo) : Diagnostic :=
  let text := (s.textOf i).firstLine.trim
  .plain (s.firstLineRange i) .error "syntax-error" source
    (if text.isEmpty then "Syntax error" else "Syntax error: " ++ String.ofList text)

/-- The report of a node that the parser had to put in. -/
def missingNode (s : Sheet) (i : NodeInfo) : Diagnostic :=
  .plain (s.rangeOf i) .error "syntax-error" source ("'" ++ i.kind ++ "' expected")

/-! ## Checks beyond the syntax -/

/-- The first child, if it is the name of a property. -/
def propertyOf? : List Node → Option NodeInfo
  | n :: _ => if n.kind = "property_name" then some n.info else none
  | [] => none

/-- The report of a declaration that sets a property that is not known (`validate_declaration`). -/
def unknownProperty (s : Sheet) (lint : Lint) (children : List Node) : List Diagnostic :=
  match lint.unknownProperties, propertyOf? children with
  | some severity, some property =>
    let name := s.textOf property
    if Property.isUnchecked name || (Property.find? name).isSome then []
    else [.plain (s.rangeOf property) severity "unknown-property" source
      ("Unknown property: '" ++ String.ofList name ++ "'")]
  | _, _ => []

/-- The report of a color in hexadecimal notation that is none (`validate_color_value`). -/
def invalidColor (s : Sheet) (i : NodeInfo) : List Diagnostic :=
  let text := s.textOf i
  if (Color.ofHex? text).isSome then []
  else [.plain (s.rangeOf i) .error "invalid-color" source
    ("Invalid hex color: '" ++ String.ofList text ++ "'")]

/-! ## All reports -/

mutual

/-- What is wrong with a node and what is below it (`walk_node`). Nothing is reported below a syntax
error, and a declaration is checked only if nothing is wrong below it. -/
def diagnoseNode (s : Sheet) (lint : Lint) : Node → List Diagnostic
  | .node i cs =>
    if i.kind = "ERROR" then [s.syntaxError i]
    else if i.missing then [s.missingNode i]
    else
      let inner := diagnoseNodes s lint cs
      if i.kind = "declaration" then
        inner ++ if inner.isEmpty then s.unknownProperty lint cs else []
      else if i.kind = "color_value" then inner ++ s.invalidColor i
      else inner

/-- What is wrong with several nodes. -/
def diagnoseNodes (s : Sheet) (lint : Lint) : List Node → List Diagnostic
  | [] => []
  | n :: rest => diagnoseNode s lint n ++ diagnoseNodes s lint rest

end

/-- What is wrong with a stylesheet (`CssDiagnostics.analyze`). -/
def diagnostics (s : Sheet) (lint : Lint) : List Diagnostic := s.diagnoseNode lint s.tree.root

end Sheet

end CssFragments
