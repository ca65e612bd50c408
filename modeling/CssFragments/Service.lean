import CssFragments.Analyzer
import CssFragments.Frame.Results
import CssFragments.Frame.StrayBrace

/-! # The language service for fragments

A service answers questions about fragments. It puts a fragment into a frame, asks an analyzer about
the stylesheet that this makes, and moves the answer back into the fragment.

* `Framed.enter`: the question in the coordinates of the stylesheet.
* `Framed.leave`: the answer in the coordinates of the fragment.
* `Service.question`: what the analyzer is asked, if it is asked at all.
* `Service.ask`: the answer. -/

namespace CssFragments

namespace Framed

/-! ## There -/

/-- The argument of a question, moved into the stylesheet. All folds are asked for, since a limit
counts those in the fragment. -/
def enter (f : Framed) : (op : Operation) → op.Argument → Except Overflow op.Argument
  | .validate, u => .ok u
  | .complete, p => f.shift.enter p
  | .hover, p => f.shift.enter p
  | .highlights, p => f.shift.enter p
  | .definition, p => f.shift.enter p
  | .references, (p, withDefinitions) => (f.shift.enter p).map (·, withDefinitions)
  | .prepareRename, p => f.shift.enter p
  | .rename, (p, name) => (f.shift.enter p).map (·, name)
  | .symbols, u => .ok u
  | .colors, u => .ok u
  | .presentations, (color, range) => (f.shift.enterRange range).map (color, ·)
  | .folding, _ => .ok none
  | .selection, ps => ps.mapM f.shift.enter

/-! ## And back -/

/-- The report of a closing brace that closes the rule of the frame (`stray_brace_diagnostic`). -/
def strayBrace (p : Position) : Diagnostic :=
  .plain ⟨p, ⟨p.line, p.character + 1⟩⟩ .error "syntax-error" "css-in-js"
    "Unexpected '\x7d': no open block to close"

/-- Whether a diagnostic starts behind the fragment. -/
def startsAfter (f : Framed) (d : Diagnostic) : Bool := f.shift.locate d.range.start = .after

/-- Diagnostics of the fragment (`StyledLanguageService.validate`). A stray closing brace is
reported at its place, and what the analyzer says about the closing of the frame is then left
out. -/
def diagnostics (f : Framed) (ds : List Diagnostic) : List Diagnostic :=
  let uri := f.fragment.uri
  match f.fragment.text.strayBrace? with
  | none => f.shift.diagnostics uri ds
  | some p =>
    (f.shift.diagnostics uri (ds.filter (! f.startsAfter ·)) ++ [strayBrace p]).mergeSort
      fun a b => a.range.start ≤ b.range.start

/-- The answer to a question, moved back into the fragment. -/
def leave (f : Framed) : (op : Operation) → op.Argument → op.Answer → op.Answer
  | .validate, _, ds => f.diagnostics ds
  | .complete, _, l => f.shift.completionList l
  | .hover, _, h => h.map f.shift.hover
  | .highlights, _, hs => hs.filterMap f.shift.highlight?
  | .definition, _, l => l.bind (f.shift.location? f.fragment.uri)
  | .references, _, ls => ls.filterMap (f.shift.location? f.fragment.uri)
  | .prepareRename, _, r => r.bind f.shift.leaveRange?
  | .rename, _, w => w.map (f.shift.workspaceEdit f.fragment.uri)
  | .symbols, _, ss => f.shift.symbols ss
  | .colors, _, cs => cs.filterMap f.shift.colorInformation?
  | .presentations, _, ps => ps.map f.shift.colorPresentation
  | .folding, limit, fs => upToLimit limit (fs.filterMap f.shift.foldingRange?)
  | .selection, ps, rs => f.shift.selectionRanges ps rs

end Framed

/-- Answers questions about fragments with an analyzer for complete stylesheets
(`StyledLanguageService`). -/
structure Service where
  analyzer : Analyzer
  frame : Frame

namespace Service

/-- What the analyzer is asked: nothing about what can be typed into an empty fragment. Only folds
are asked for without parsing first (`StyledLanguageService.parse`). -/
def question (s : Service) (d : Document) (op : Operation) (arg : op.Argument) :
    Except Failure (Option op.Argument) :=
  let f : Framed := ⟨s.frame, d⟩
  if op = .complete ∧ d.text.isEmpty then .ok none
  else if op ≠ .folding ∧ s.analyzer.parses f.sheet = false then
    .error (.unparsed d.uri d.version)
  else (Failure.guard (f.enter op arg)).map some

/-- The answer to a question about a fragment: `leave (analyzer (enter arg))` for each of the
operations of `StyledLanguageService`. -/
def ask (s : Service) (d : Document) (op : Operation) (arg : op.Argument) :
    Except Failure op.Answer := do
  let f : Framed := ⟨s.frame, d⟩
  match ← s.question d op arg with
  | none => return op.nothing arg
  | some arg' => return f.leave op arg (← s.analyzer.answer f.sheet op arg')

end Service

end CssFragments
