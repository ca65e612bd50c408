import CssFragments.Proofs.Frame.Clamp
import CssFragments.Proofs.Service

/-! # Diagnostics of a fragment

A client is shown what an analyzer finds wrong with the stylesheet, cut to the fragment, and a
closing brace of the fragment that closes the rule of the frame.

* `BraceScan.exists_append_of_find?`: what the scan finds is a closing brace.
* `Shift.cutDiagnostic`, `Shift.diagnostics_eq`: which diagnostics are kept, and what is cut.
* `filter_mergeSort_key`: diagnostics that start at one place stay in their order.
* `Service.ask_validate_cut`: what the client is shown. -/

namespace CssFragments

/-! ## Stray braces -/

namespace BraceScan

/-- Only a closing brace that closes no block ends the scan. -/
theorem step_eq_none_iff {s : State} {c : Char} :
    step s c = none ↔ s.mode = .code ∧ c = '\x7d' ∧ s.depth = 0 := by
  obtain ⟨mode, depth, last⟩ := s
  cases mode with
  | code =>
    -- a brace is no asterisk, quote or opening brace, so its own branch is reached
    simp only [step]
    grind
  | comment =>
    simp only [step]
    split <;> simp
  | quoted quote =>
    simp only [step]
    split <;> simp

/-- What the scan finds is a closing brace, at the position where it stands. -/
theorem exists_append_of_find? {s : State} {p q : Position} {t : Text} (h : find? s p t = some q) :
    ∃ u v : Text, t = u ++ '\x7d' :: v ∧ u.positionFrom p = q := by
  induction t generalizing s p with
  | nil => cases h
  | cons c t ih =>
    rw [find?] at h
    split at h
    · next hstep =>
      obtain ⟨-, rfl, -⟩ := step_eq_none_iff.mp hstep
      exact ⟨[], t, rfl, Option.some.inj h⟩
    · obtain ⟨u, v, rfl, hq⟩ := ih h
      exact ⟨c :: u, v, rfl, hq⟩

end BraceScan

/-- A stray brace is a closing brace of the text, and the position behind it is one of the text. -/
theorem Text.exists_append_of_strayBrace? {t : Text} {p : Position} (h : t.strayBrace? = some p) :
    (∃ u v : Text, t = u ++ '\x7d' :: v ∧ u.endPosition = p) ∧
      (⟨p.line, p.character + 1⟩ : Position) ≤ t.endPosition := by
  obtain ⟨u, v, rfl, rfl⟩ := BraceScan.exists_append_of_find? h
  refine ⟨⟨u, v, rfl, rfl⟩, ?_⟩
  have hbrace : (u ++ ['\x7d']).endPosition =
      ⟨u.endPosition.line, u.endPosition.character + 1⟩ := by
    rw [endPosition, positionFrom_append]
    exact Position.advance_of_ne u.endPosition (by decide : '\x7d' ≠ '\n')
  rw [← endPosition, ← hbrace]
  exact endPosition_le_of_isPrefix ⟨v, by simp⟩

/-! ## Cut diagnostics -/

namespace Shift

/-- Further places, cut to the fragment if they are in its document. Those that end in the opening
are left out. -/
def cutRelated (s : Shift) (uri : String) (is : List RelatedInformation) :
    List RelatedInformation :=
  (is.filter fun i => i.location.uri ≠ uri ∨ s.locate i.location.range.stop ≠ .before).map fun i =>
    if i.location.uri = uri then
      { i with location := { i.location with range := s.cut i.location.range } }
    else i

/-- A diagnostic that is cut to the fragment, with the further places that it names. -/
def cutDiagnostic (s : Shift) (uri : String) (d : Diagnostic) : Diagnostic :=
  { d with range := s.cut d.range, related := d.related.map (s.cutRelated uri) }

/-- What keeps some elements and changes those is a filter and a map. -/
theorem filterMap_eq_map_filter {α β : Type} {f : α → Option β} {p : α → Prop} [DecidablePred p]
    {g : α → β} (h : ∀ a, f a = if p a then some (g a) else none) (as : List α) :
    as.filterMap f = (as.filter fun a => p a).map g := by
  rw [← List.filterMap_eq_map, List.filterMap_filter]
  congr 1
  funext a
  simp [h a]

theorem filterMap_relatedInformation? (s : Shift) (uri : String) (is : List RelatedInformation) :
    is.filterMap (s.relatedInformation? uri) = s.cutRelated uri is := by
  refine filterMap_eq_map_filter (fun i => ?_) is
  by_cases huri : i.location.uri = uri
  · by_cases hstop : s.locate i.location.range.stop = .before <;>
      simp [relatedInformation?, clampRange?_eq, huri, hstop]
  · simp [relatedInformation?, huri]

/-- One diagnostic is left out if it ends in the opening, and else it is cut. -/
theorem diagnostic?_eq (s : Shift) (uri : String) (d : Diagnostic) :
    s.diagnostic? uri d =
      if s.locate d.range.stop ≠ .before then some (s.cutDiagnostic uri d) else none := by
  rw [diagnostic?, clampRange?_eq, funext (s.filterMap_relatedInformation? uri)]
  by_cases hstop : s.locate d.range.stop = .before <;> simp [hstop, cutDiagnostic]

/-- **Diagnostics are cut.** In their order, all that do not end in the opening are kept. -/
theorem diagnostics_eq (s : Shift) (uri : String) (ds : List Diagnostic) :
    s.diagnostics uri ds =
      (ds.filter fun d => s.locate d.range.stop ≠ .before).map (s.cutDiagnostic uri) :=
  filterMap_eq_map_filter (s.diagnostic?_eq uri) ds

end Shift

/-! ## Sorting by position -/

section Sorting

variable {α : Type} (key : α → Position)

theorem keyLe_trans (a b c : α) (hab : decide (key a ≤ key b) = true)
    (hbc : decide (key b ≤ key c) = true) : decide (key a ≤ key c) = true := by
  rw [decide_eq_true_eq] at *
  exact le_trans hab hbc

theorem keyLe_total (a b : α) : (decide (key a ≤ key b) || decide (key b ≤ key a)) = true := by
  rw [Bool.or_eq_true, decide_eq_true_eq, decide_eq_true_eq]
  exact le_total _ _

theorem pairwise_mergeSort_key (l : List α) :
    (l.mergeSort fun a b => key a ≤ key b).Pairwise fun a b => key a ≤ key b :=
  (List.pairwise_mergeSort (keyLe_trans key) (keyLe_total key) l).imp of_decide_eq_true

/-- **Sorting is stable.** What has one position stays in its order. -/
theorem filter_mergeSort_key (l : List α) (p : Position) :
    ((l.mergeSort fun a b => key a ≤ key b).filter fun a => key a = p) =
      l.filter fun a => key a = p := by
  -- the elements in question are a sorted part of the list, so they are one of the sorted list
  have hsorted :
      (l.filter fun a => key a = p).Pairwise fun a b => decide (key a ≤ key b) = true := by
    refine List.pairwise_of_forall_mem_list fun a ha b hb => ?_
    rw [List.mem_filter, decide_eq_true_eq] at ha hb
    rw [decide_eq_true_eq, ha.2, hb.2]
  have hsublist :=
    List.sublist_mergeSort (keyLe_trans key) (keyLe_total key) hsorted List.filter_sublist
  have hfilter := hsublist.filter fun a => decide (key a = p)
  simp only [List.filter_filter, Bool.and_self] at hfilter
  exact (hfilter.eq_of_length ((List.mergeSort_perm l _).filter _).length_eq.symm).symm

end Sorting

/-! ## What the client is shown -/

namespace Framed

/-- What is reported of a fragment with a stray brace at `p`: the diagnostics that neither start in
the closing nor end in the opening, then the brace. -/
def reports (f : Framed) (ds : List Diagnostic) (p : Position) : List Diagnostic :=
  (ds.filter fun d => f.shift.locate d.range.start ≠ .after ∧
      f.shift.locate d.range.stop ≠ .before).map (f.shift.cutDiagnostic f.fragment.uri) ++
    [strayBrace p]

theorem diagnostics_of_strayBrace? {f : Framed} {p : Position}
    (h : f.fragment.text.strayBrace? = some p) (ds : List Diagnostic) :
    f.diagnostics ds = (f.reports ds p).mergeSort fun a b => a.range.start ≤ b.range.start := by
  have hkept : (f.shift.diagnostics f.fragment.uri (ds.filter (! f.startsAfter ·))) ++
      [strayBrace p] = f.reports ds p := by
    rw [Shift.diagnostics_eq, List.filter_filter, reports]
    congr 3
    funext d
    simp [startsAfter, Bool.and_comm]
  rw [diagnostics, h, ← hkept]

/-- The range of a diagnostic that was cut, and that of a stray brace, is in the fragment. -/
theorem range_le_contentEnd {f : Framed} {ds : List Diagnostic} {d : Diagnostic}
    (h : d ∈ f.diagnostics ds) :
    d.range.start ≤ f.contentEnd ∧ d.range.stop ≤ f.contentEnd := by
  have hcut (ds : List Diagnostic) (h : d ∈ ds.map (f.shift.cutDiagnostic f.fragment.uri)) :
      d.range.start ≤ f.contentEnd ∧ d.range.stop ≤ f.contentEnd := by
    obtain ⟨d', -, rfl⟩ := List.mem_map.mp h
    exact ⟨f.shift.clampStart_le_contentEnd _, f.shift.clampStart_le_contentEnd _⟩
  cases hbrace : f.fragment.text.strayBrace? with
  | none =>
    rw [diagnostics, hbrace, Shift.diagnostics_eq] at h
    exact hcut _ h
  | some p =>
    rw [diagnostics_of_strayBrace? hbrace, List.mem_mergeSort, reports, List.mem_append,
      List.mem_singleton] at h
    rcases h with h | rfl
    · exact hcut _ h
    · have hstop := (Text.exists_append_of_strayBrace? hbrace).2
      refine ⟨le_trans ?_ hstop, hstop⟩
      exact Position.le_def.mpr (.inr ⟨rfl, Nat.le_succ _⟩)

end Framed

/-- **What a client is shown.** If an analyzer finds something wrong with the stylesheet, whatever
the ranges, the service reports it in the fragment, and a range that does not end before it starts
does not do so there. Without a stray brace these are, in their order, the diagnostics that do not
end in the opening, each cut to the fragment. With a stray brace, which is a closing brace of the
fragment, these are sorted by their starts, where equal ones stay in their order and the brace comes
last; those that start in the closing are left out. -/
theorem Service.ask_validate_cut {s : Service} {d : Document} {ds : List Diagnostic}
    (hparses : s.analyzer.parses (Framed.mk s.frame d).sheet)
    (hanswer : s.analyzer.answer (Framed.mk s.frame d).sheet .validate () = .ok ds) :
    let f : Framed := ⟨s.frame, d⟩
    ∃ result, s.ask d .validate () = .ok result ∧
      (∀ x ∈ result, .origin ≤ x.range.start ∧ x.range.start ≤ d.text.endPosition ∧
        .origin ≤ x.range.stop ∧ x.range.stop ≤ d.text.endPosition) ∧
      (∀ x : Diagnostic, x.range.start ≤ x.range.stop →
        (f.shift.cutDiagnostic d.uri x).range.start ≤ (f.shift.cutDiagnostic d.uri x).range.stop) ∧
      (d.text.strayBrace? = none → result =
        (ds.filter fun x => f.shift.locate x.range.stop ≠ .before).map
          (f.shift.cutDiagnostic d.uri)) ∧
      ∀ p, d.text.strayBrace? = some p →
        (∃ u v : Text, d.text = u ++ '\x7d' :: v ∧ u.endPosition = p) ∧
        (Framed.strayBrace p).range = ⟨p, ⟨p.line, p.character + 1⟩⟩ ∧
        (result.Pairwise fun a b => a.range.start ≤ b.range.start) ∧
        result.Perm (f.reports ds p) ∧
        ∀ q, (result.filter fun x => x.range.start = q) =
          (f.reports ds p).filter fun x => x.range.start = q := by
  intro f
  refine ⟨f.diagnostics ds, ask_validate_of_answer hparses hanswer, fun x hx => ?_, fun x hx => ?_,
    fun hnone => ?_, fun p hp => ?_⟩
  · obtain ⟨hstart, hstop⟩ := Framed.range_le_contentEnd hx
    exact ⟨Position.origin_le _, hstart, Position.origin_le _, hstop⟩
  · exact (f.shift.cut_within_content hx).start_le_stop
  · rw [Framed.diagnostics, hnone]
    exact f.shift.diagnostics_eq d.uri ds
  · rw [Framed.diagnostics_of_strayBrace? (f := f) hp ds]
    refine ⟨(Text.exists_append_of_strayBrace? hp).1, rfl, ?_, List.mergeSort_perm _ _, fun q => ?_⟩
    · exact pairwise_mergeSort_key (fun x : Diagnostic => x.range.start) _
    · exact filter_mergeSort_key (fun x : Diagnostic => x.range.start) _ q

/-- An analyzer that parses everything, finds the given diagnostics in it and has nothing else to
say. -/
def Analyzer.reporting (ds : List Diagnostic) : Analyzer where
  parses _ := true
  answer _
    | .validate, _ => .ok ds
    | op, arg => .ok (op.nothing arg)

/-- A diagnostic with a range and a message. -/
def Diagnostic.sample (range : Range) (message : String) : Diagnostic :=
  .plain range .error "syntax-error" "css" message

/-- Of four diagnostics, the one in the opening and the one in the closing are left out. One that
starts in the opening is cut and comes first; one that starts at the brace comes before it. -/
theorem Service.ask_validate_cut_sample :
    let ds : List Diagnostic := [.sample ⟨⟨2, 0⟩, ⟨2, 2⟩⟩ "at the brace",
      .sample ⟨⟨0, 0⟩, ⟨0, 5⟩⟩ "in the opening", .sample ⟨⟨0, 6⟩, ⟨1, 1⟩⟩ "across",
      .sample ⟨⟨3, 0⟩, ⟨3, 1⟩⟩ "in the closing"]
    let brace := Framed.strayBrace ⟨1, 0⟩
    ∃ result,
      (Service.mk (.reporting ds) .standard).ask ⟨"untitled:1", 1, ['a', '\n', '\x7d', 'b']⟩
        .validate () = .ok result ∧
      (result.Pairwise fun a b => a.range.start ≤ b.range.start) ∧
      result.Perm
        [.sample ⟨⟨1, 0⟩, ⟨1, 2⟩⟩ "at the brace", .sample ⟨⟨0, 0⟩, ⟨0, 1⟩⟩ "across", brace] ∧
      (result.filter fun x => x.range.start = ⟨1, 0⟩) =
        [.sample ⟨⟨1, 0⟩, ⟨1, 2⟩⟩ "at the brace", brace] := by
  intro ds brace
  obtain ⟨result, hask, -, -, -, hbrace⟩ :=
    ask_validate_cut (s := ⟨.reporting ds, .standard⟩)
      (d := ⟨"untitled:1", 1, ['a', '\n', '\x7d', 'b']⟩) rfl rfl
  obtain ⟨-, -, hsorted, hperm, hstable⟩ := hbrace ⟨1, 0⟩ rfl
  exact ⟨result, hask, hsorted, hperm, hstable ⟨1, 0⟩⟩

end CssFragments
