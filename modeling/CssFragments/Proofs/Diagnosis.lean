import CssFragments.Proofs.Tree.WellFormed
import CssFragments.Sheet.Diagnosis
import Mathlib.Data.List.Basic

/-! # What a check changes

Whether a declaration is checked depends on what is reported below it, and the reports of the check
are among that. All the same the check changes no other report: what it adds below a declaration can
only keep it from adding something to the declaration itself, and how bad its reports are does not
change where there are any.

* `Diagnostic.HasCode`, `Diagnostic.regraded`: the code of a diagnostic, and a diagnostic whose
  severity follows the check.
* `Node.IsFault`, `Sheet.faultReport`: the nodes that are syntax errors, and what is reported there.
* `Sheet.ownReports`: what is reported of any other node itself, by what is reported below it.
* `Sheet.diagnoseNode_of_isFault`, `Sheet.diagnoseNode_of_not_isFault`: one step of the diagnosis.
* `Sheet.diagnoseNode_off`, `Sheet.diagnoseNode_regraded`: what is left without the check, and what
  its severity changes.
* `Sheet.diagnostics_lint_confined`: all that the check changes. -/

namespace CssFragments

/-! ## Codes -/

namespace Diagnostic

/-- The code of a diagnostic is the given name. -/
def HasCode (d : Diagnostic) (name : String) : Prop := d.code = some (.name name)

instance (d : Diagnostic) (name : String) : Decidable (d.HasCode name) :=
  inferInstanceAs (Decidable (d.code = some (.name name)))

@[simp] theorem hasCode_plain {range : Range} {severity : Severity}
    {code source message name : String} :
    (plain range severity code source message).HasCode name ↔ code = name := by
  simp [HasCode, plain]

/-- A diagnostic that is as bad as given, if it is about a property that is not known. -/
def regraded (severity : Severity) (d : Diagnostic) : Diagnostic :=
  if d.HasCode "unknown-property" then { d with severity := some severity } else d

theorem regraded_plain_of_ne {range : Range} {severity severity' : Severity}
    {code source message : String} (h : code ≠ "unknown-property") :
    (plain range severity code source message).regraded severity' =
      plain range severity code source message :=
  if_neg (hasCode_plain.not.mpr h)

end Diagnostic

/-- The parser could not make sense of the node, or had to put it in. -/
def Node.IsFault (n : Node) : Prop := n.kind = "ERROR" ∨ n.info.missing = true

instance : DecidablePred Node.IsFault := fun n =>
  inferInstanceAs (Decidable (n.kind = "ERROR" ∨ n.info.missing = true))

namespace Sheet

variable {s : Sheet} {lint : Lint} {n : Node}

/-- The report of a syntax error. -/
def faultReport (s : Sheet) (i : NodeInfo) : Diagnostic :=
  if i.kind = "ERROR" then s.syntaxError i else s.missingNode i

@[simp] theorem hasCode_faultReport {i : NodeInfo} {name : String} :
    (s.faultReport i).HasCode name ↔ "syntax-error" = name := by
  rw [faultReport]
  split <;> exact Diagnostic.hasCode_plain

theorem regraded_faultReport (i : NodeInfo) (severity : Severity) :
    (s.faultReport i).regraded severity = s.faultReport i := by
  rw [faultReport]
  split <;> exact Diagnostic.regraded_plain_of_ne (by decide)

/-- The check reports at most one thing of a declaration. -/
theorem unknownProperty_eq (s : Sheet) (lint : Lint) (cs : List Node) :
    s.unknownProperty lint cs = [] ∨
      ∃ range severity message, s.unknownProperty lint cs =
        [.plain range severity "unknown-property" source message] := by
  unfold unknownProperty
  split
  · dsimp only
    split
    · exact .inl rfl
    · exact .inr ⟨_, _, _, rfl⟩
  · exact .inl rfl

theorem hasCode_of_mem_unknownProperty {cs : List Node} {d : Diagnostic}
    (h : d ∈ s.unknownProperty lint cs) : d.HasCode "unknown-property" := by
  rcases s.unknownProperty_eq lint cs with hnil | ⟨range, severity, message, hone⟩
  · rw [hnil] at h
    cases h
  · rw [hone, List.mem_singleton] at h
    rw [h, Diagnostic.hasCode_plain]

theorem hasCode_of_mem_invalidColor {i : NodeInfo} {d : Diagnostic} (h : d ∈ s.invalidColor i) :
    d.HasCode "invalid-color" := by
  unfold invalidColor at h
  dsimp only at h
  split at h
  · cases h
  · rw [List.mem_singleton] at h
    rw [h, Diagnostic.hasCode_plain]

/-- A diagnostic has one code. -/
theorem eq_of_hasCode {d : Diagnostic} {name name' : String} (h : d.HasCode name)
    (h' : d.HasCode name') : name = name' := by
  unfold Diagnostic.HasCode at h h'
  simpa [h] using h'

/-! ## One step of the diagnosis -/

/-- What is reported of a node that is no syntax error, given what is reported below it. -/
def ownReports (s : Sheet) (lint : Lint) (n : Node) (below : List Diagnostic) : List Diagnostic :=
  if n.kind = "declaration" then
    if below.isEmpty then s.unknownProperty lint n.children else []
  else if n.kind = "color_value" then s.invalidColor n.info
  else []

/-- A node itself is reported under one of two codes. -/
theorem hasCode_of_mem_ownReports {below : List Diagnostic} {d : Diagnostic}
    (h : d ∈ s.ownReports lint n below) :
    d.HasCode "unknown-property" ∨ d.HasCode "invalid-color" := by
  unfold ownReports at h
  split at h
  · split at h
    · exact .inl (hasCode_of_mem_unknownProperty h)
    · cases h
  · split at h
    · exact .inr (hasCode_of_mem_invalidColor h)
    · cases h

theorem diagnoseNodes_eq_flatMap (s : Sheet) (lint : Lint) (ns : List Node) :
    s.diagnoseNodes lint ns = ns.flatMap (s.diagnoseNode lint) := by
  induction ns with
  | nil => rfl
  | cons n rest ih => rw [diagnoseNodes, ih, List.flatMap_cons]

/-- **A syntax error** is reported, and nothing below it. -/
theorem diagnoseNode_of_isFault (h : n.IsFault) :
    s.diagnoseNode lint n = [s.faultReport n.info] := by
  obtain ⟨i, cs⟩ := n
  change i.kind = "ERROR" ∨ i.missing = true at h
  rw [diagnoseNode, faultReport, Node.info]
  by_cases herror : i.kind = "ERROR"
  · rw [if_pos herror, if_pos herror]
  · rw [if_neg herror, if_neg herror, if_pos (h.resolve_left herror)]

/-- **Any other node** is reported after what is below it. -/
theorem diagnoseNode_of_not_isFault (h : ¬ n.IsFault) :
    let below := n.children.flatMap (s.diagnoseNode lint)
    s.diagnoseNode lint n = below ++ s.ownReports lint n below := by
  obtain ⟨i, cs⟩ := n
  change ¬ (i.kind = "ERROR" ∨ i.missing = true) at h
  obtain ⟨herror, hmissing⟩ := not_or.mp h
  intro below
  have hbelow : s.diagnoseNodes lint cs = below := s.diagnoseNodes_eq_flatMap lint cs
  rw [diagnoseNode, if_neg herror, if_neg hmissing, hbelow, ownReports, Node.kind, Node.info]
  by_cases hdeclaration : i.kind = "declaration"
  · rw [if_pos hdeclaration, if_pos hdeclaration]
    rfl
  · rw [if_neg hdeclaration, if_neg hdeclaration]
    by_cases hcolor : i.kind = "color_value"
    · rw [if_pos hcolor, if_pos hcolor]
    · rw [if_neg hcolor, if_neg hcolor, List.append_nil]

/-! ## With and without the check -/

/-- Without the check, the nodes themselves are reported as with it, less what it reports. -/
theorem filter_ownReports (below below' : List Diagnostic) :
    (s.ownReports lint n below).filter (¬ ·.HasCode "unknown-property") =
      s.ownReports ⟨none⟩ n below' := by
  unfold ownReports
  split
  · have hoff : s.unknownProperty ⟨none⟩ n.children = [] := rfl
    rw [hoff, ite_self]
    refine List.filter_eq_nil_iff.mpr fun d hd hcode => of_decide_eq_true hcode ?_
    split at hd
    · exact hasCode_of_mem_unknownProperty hd
    · cases hd
  · split
    · refine List.filter_eq_self.mpr fun d hd => decide_eq_true fun hcode => ?_
      exact absurd (eq_of_hasCode (hasCode_of_mem_invalidColor hd) hcode) (by decide)
    · rfl

/-- **Without the check** there are the same reports, less those of the check. -/
theorem diagnoseNode_off (s : Sheet) (lint : Lint) (n : Node) :
    (s.diagnoseNode lint n).filter (¬ ·.HasCode "unknown-property") =
      s.diagnoseNode ⟨none⟩ n := by
  induction n with
  | node i cs ih =>
    by_cases hfault : (Node.node i cs).IsFault
    · rw [diagnoseNode_of_isFault hfault, diagnoseNode_of_isFault hfault]
      exact List.filter_eq_self.mpr (by simp)
    · rw [diagnoseNode_of_not_isFault hfault, diagnoseNode_of_not_isFault hfault,
        List.filter_append, List.filter_flatMap, Node.children, List.flatMap_congr ih,
        filter_ownReports]

theorem unknownProperty_regraded (a b : Severity) (cs : List Node) :
    s.unknownProperty ⟨some b⟩ cs = (s.unknownProperty ⟨some a⟩ cs).map (·.regraded b) := by
  unfold unknownProperty
  cases propertyOf? cs with
  | none => rfl
  | some property =>
    dsimp only
    split
    · rfl
    · rw [List.map_singleton, Diagnostic.regraded, if_pos (Diagnostic.hasCode_plain.mpr rfl)]
      rfl

theorem ownReports_regraded (a b : Severity) (below : List Diagnostic) :
    s.ownReports ⟨some b⟩ n (below.map (·.regraded b)) =
      (s.ownReports ⟨some a⟩ n below).map (·.regraded b) := by
  unfold ownReports
  split
  · rw [List.isEmpty_map]
    split
    · exact unknownProperty_regraded a b n.children
    · rfl
  · split
    · have hkeep : ∀ d ∈ s.invalidColor n.info, d.regraded b = d := by
        refine fun d hd => if_neg fun hcode => ?_
        exact absurd (eq_of_hasCode (hasCode_of_mem_invalidColor hd) hcode) (by decide)
      rw [List.map_congr_left hkeep, List.map_id']
    · rfl

/-- **The severity of the check** is that of its reports, and changes nothing else. -/
theorem diagnoseNode_regraded (s : Sheet) (a b : Severity) (n : Node) :
    s.diagnoseNode ⟨some b⟩ n = (s.diagnoseNode ⟨some a⟩ n).map (·.regraded b) := by
  induction n with
  | node i cs ih =>
    by_cases hfault : (Node.node i cs).IsFault
    · rw [diagnoseNode_of_isFault hfault, diagnoseNode_of_isFault hfault, List.map_singleton,
        regraded_faultReport]
    · rw [diagnoseNode_of_not_isFault hfault, diagnoseNode_of_not_isFault hfault, List.map_append,
        ← ownReports_regraded, List.map_flatMap, Node.children, List.flatMap_congr ih]

/-- **The check changes nothing but its own reports.** Less these, the diagnostics of a stylesheet
are the same with any check; without it there are none of these; and how bad they are is all that
two checks can differ in. -/
theorem diagnostics_lint_confined (s : Sheet) :
    (∀ lint lint' : Lint,
        (s.diagnostics lint).filter (¬ ·.HasCode "unknown-property") =
          (s.diagnostics lint').filter (¬ ·.HasCode "unknown-property")) ∧
      (∀ d ∈ s.diagnostics ⟨none⟩, ¬ d.HasCode "unknown-property") ∧
      ∀ a b : Severity,
        s.diagnostics ⟨some b⟩ = (s.diagnostics ⟨some a⟩).map (·.regraded b) := by
  refine ⟨fun lint lint' => ?_, fun d hd => ?_, fun a b => ?_⟩
  · exact (s.diagnoseNode_off lint _).trans (s.diagnoseNode_off lint' _).symm
  · have hoff := s.diagnoseNode_off ⟨none⟩ s.tree.root
    exact of_decide_eq_true (List.filter_eq_self.mp hoff d hd)
  · exact s.diagnoseNode_regraded a b s.tree.root

end Sheet

end CssFragments
