import CssFragments.Service

/-! # Answers of the service

What a service answers, by what its analyzer answers.

* `Service.ask_eq`: into the stylesheet, to the analyzer and back.
* `Service.ask_of_answer`: the answer of the analyzer, moved back into the fragment.
* `Analyzer.parses_css_of_parse`, `Analyzer.answer_css_of_parse`: the analyzer for stylesheets
  answers by the tree. -/

namespace CssFragments

/-- A stylesheet that has a tree can be parsed. -/
theorem Analyzer.parses_css_of_parse {parse : Parser} {d : Document} {tree : Tree} (lint : Lint)
    (h : parse d.text = some tree) : (css parse lint).parses d :=
  Option.isSome_iff_exists.mpr ⟨tree, h⟩

/-- A stylesheet that has a tree is answered for by its tree. -/
theorem Analyzer.answer_css_of_parse {parse : Parser} {d : Document} {tree : Tree} (lint : Lint)
    (h : parse d.text = some tree) (op : Operation) (arg : op.Argument) :
    (css parse lint).answer d op arg = (Sheet.mk d.text tree).answer d.uri lint op arg := by
  simp only [css, h]

namespace Service

variable {s : Service} {d : Document}

/-- **From the question to the answer.** If the stylesheet can be parsed, the argument is entered,
the analyzer answers, and the answer leaves. Only what can be typed into an empty fragment is not
asked. -/
theorem ask_eq {op : Operation} (hop : op = .complete → d.text ≠ [])
    (hparses : s.analyzer.parses (Framed.mk s.frame d).sheet) (arg : op.Argument) :
    s.ask d op arg =
      (Failure.guard ((Framed.mk s.frame d).enter op arg)).bind fun arg' =>
        (s.analyzer.answer (Framed.mk s.frame d).sheet op arg').map
          ((Framed.mk s.frame d).leave op arg) := by
  have hempty : ¬ (op = .complete ∧ d.text.isEmpty) := by
    rintro ⟨hcomplete, hnil⟩
    exact hop hcomplete (List.isEmpty_iff.mp hnil)
  rw [ask, question, if_neg hempty, if_neg (by simp [hparses])]
  cases (Framed.mk s.frame d).enter op arg with
  | error o => rfl
  | ok arg' =>
    show ((s.analyzer.answer (Framed.mk s.frame d).sheet op arg').bind fun a =>
        .ok ((Framed.mk s.frame d).leave op arg a)) =
      (s.analyzer.answer (Framed.mk s.frame d).sheet op arg').map
        ((Framed.mk s.frame d).leave op arg)
    cases s.analyzer.answer (Framed.mk s.frame d).sheet op arg' <;> rfl

/-- Nothing is offered for an empty fragment. -/
theorem ask_complete_of_nil (h : d.text = []) (p : Position) :
    s.ask d .complete p = .ok .empty := by
  rw [ask, question, if_pos ⟨rfl, List.isEmpty_iff.mpr h⟩]
  rfl

/-- A question about a fragment whose stylesheet can be parsed is answered as the analyzer answers
it. -/
theorem ask_of_answer {op : Operation} {arg arg' : op.Argument} {answer : op.Answer}
    (hop : op ≠ .complete) (hparses : s.analyzer.parses (Framed.mk s.frame d).sheet)
    (harg : (Framed.mk s.frame d).enter op arg = .ok arg')
    (hanswer : s.analyzer.answer (Framed.mk s.frame d).sheet op arg' = .ok answer) :
    s.ask d op arg = .ok ((Framed.mk s.frame d).leave op arg answer) := by
  rw [ask_eq (fun h => absurd h hop) hparses, harg]
  show (s.analyzer.answer (Framed.mk s.frame d).sheet op arg').map _ = _
  rw [hanswer]
  rfl

/-- A fragment whose stylesheet can be parsed and checked is checked. -/
theorem ask_validate_of_answer {diagnostics : List Diagnostic}
    (hparses : s.analyzer.parses (Framed.mk s.frame d).sheet)
    (hanswer : s.analyzer.answer (Framed.mk s.frame d).sheet .validate () = .ok diagnostics) :
    s.ask d .validate () = .ok ((Framed.mk s.frame d).diagnostics diagnostics) :=
  ask_of_answer (by decide) hparses rfl hanswer

end Service

end CssFragments
