import CssFragments.Sheet.Completion
import CssFragments.Sheet.Explanation
import CssFragments.Sheet.Outline
import CssFragments.Sheet.Palette
import CssFragments.Sheet.Reference
import CssFragments.Sheet.Region

/-! # Analyzers

An analyzer answers questions about complete stylesheets.

* `Analyzer`: which documents it can parse, and its answers.
* `Analyzer.css`: the analyzer for stylesheets, over a given parser.
* `Analyzer.bare`: the analyzer that has nothing to say. -/

namespace CssFragments

/-- Answers questions about complete stylesheets (`StylesheetAnalyzer`). -/
structure Analyzer where
  /-- Whether the parser makes a tree of a document. -/
  parses : Document → Bool
  /-- The answer to a question about a document. -/
  answer : Document → (op : Operation) → op.Argument → Except Failure op.Answer

/-- The first results, up to a limit if there is one. -/
def upToLimit {α : Type} : Option Nat → List α → List α
  | none, results => results
  | some n, results => results.take n

namespace Sheet

/-- The answer to a question about a stylesheet under an address. -/
def answer (s : Sheet) (uri : String) (lint : Lint) :
    (op : Operation) → op.Argument → Except Failure op.Answer
  | .validate, _ => .ok (s.diagnostics lint)
  | .complete, p => Failure.guard (s.complete p)
  | .hover, p => s.hover? p
  | .highlights, p => .ok (s.highlights p)
  | .definition, p => .ok (s.definition? uri p)
  | .references, (p, withDefinitions) => .ok (s.references uri p withDefinitions)
  | .prepareRename, p => .ok (s.renameRange? p)
  | .rename, (p, name) => .ok (s.rename? uri p name)
  | .symbols, _ => .ok s.outline
  | .colors, _ => .ok s.colors
  | .presentations, (color, range) => .ok (presentations color range)
  | .folding, limit => .ok (upToLimit limit s.folds)
  | .selection, ps => .ok (s.selections ps)

end Sheet

/-- A parser for stylesheets (`CssParser`). -/
abbrev Parser := Text → Option Tree

namespace Analyzer

/-- The answer about a document that has no tree: there is nothing to fold, and all else fails. -/
def unparsed (d : Document) : (op : Operation) → op.Argument → Except Failure op.Answer
  | .folding, limit => .ok (Operation.nothing .folding limit)
  | _, _ => .error (.unparsed d.uri d.version)

/-- The analyzer for stylesheets (`CssAnalyzer`). -/
def css (parse : Parser) (lint : Lint) : Analyzer where
  parses d := (parse d.text).isSome
  answer d op arg :=
    match parse d.text with
    | some tree => (Sheet.mk d.text tree).answer d.uri lint op arg
    | none => unparsed d op arg

/-- The analyzer that parses everything and has nothing to say. -/
def bare : Analyzer where
  parses _ := true
  answer _ op arg := .ok (op.nothing arg)

end Analyzer

end CssFragments
