import CssFragments.Proofs.Session.Markers
import Mathlib.Data.List.Induction

/-! # Checks that are put off, document by document

All documents share one numbering of tickets, and the times of tickets come in any order. Seen from
one document, this is a single slot: it holds the check that was put off last, until that check is
made or dropped, and what happens to other documents does not show.

* `Deferral`, `Move`: a check that was put off, and what can happen to such checks.
* `Docket`: a session, with the tickets that it issued and the checks that it made.
* `Slot`: what there is to say about one document; `Slot.pending_run` and `Slot.not_pending_run` are
  the two things that can become of a check.
* `Docket.seen_run`: each document sees a slot, which makes the moves of that document only.
* `Docket.checked_run`: which checks are made. -/

namespace CssFragments

/-- A check that was put off, by its document and by the number of checks of that document that were
put off before it. -/
structure Deferral where
  uri : String
  index : Nat
deriving DecidableEq

/-- What can happen to checks that are put off. -/
inductive Move where
  /-- The check of a document is put off. -/
  | schedule (uri : String)
  /-- The check of a document is dropped. -/
  | cancel (uri : String)
  /-- The time of a check has come. -/
  | fire (d : Deferral)
deriving DecidableEq

namespace Move

/-- The document that a move is about. -/
def uri : Move → String
  | schedule uri => uri
  | cancel uri => uri
  | fire d => d.uri

/-- After the move, no earlier check of the document counts any more. -/
def Supersedes (uri : String) (m : Move) : Prop := m = schedule uri ∨ m = cancel uri

instance (uri : String) (m : Move) : Decidable (m.Supersedes uri) :=
  inferInstanceAs (Decidable (m = schedule uri ∨ m = cancel uri))

theorem uri_of_supersedes {uri : String} {m : Move} (h : m.Supersedes uri) : m.uri = uri := by
  rcases h with rfl | rfl <;> rfl

/-- The check of a document that is put off next after some moves. -/
def next (pre : List Move) (uri : String) : Deferral := ⟨uri, pre.count (.schedule uri)⟩

end Move

/-! ## One document -/

/-- The checks of one document, by their indices. -/
structure Slot where
  /-- How many were put off. -/
  count : Nat
  /-- The one that counts. -/
  pending : Option Nat
  /-- Those that were made, oldest first. -/
  checked : List Nat

namespace Slot

/-- No check was put off. -/
def empty : Slot := ⟨0, none, []⟩

/-- The slot after a move of its document. -/
def step (s : Slot) : Move → Slot
  | .schedule _ => ⟨s.count + 1, some s.count, s.checked⟩
  | .cancel _ => ⟨s.count, none, s.checked⟩
  | .fire d => if s.pending = some d.index then ⟨s.count, none, s.checked ++ [d.index]⟩ else s

/-- The slot after several moves of its document. -/
def run (s : Slot) (ms : List Move) : Slot := ms.foldl step s

@[simp] theorem run_nil (s : Slot) : s.run [] = s := rfl

@[simp] theorem run_cons (s : Slot) (m : Move) (ms : List Move) :
    s.run (m :: ms) = (s.step m).run ms := rfl

theorem run_append (s : Slot) (ms ms' : List Move) : s.run (ms ++ ms') = (s.run ms).run ms' :=
  List.foldl_append

theorem step_fire_self {s : Slot} {d : Deferral} (h : s.pending = some d.index) :
    s.step (.fire d) = ⟨s.count, none, s.checked ++ [d.index]⟩ := if_pos h

theorem step_fire_of_ne {s : Slot} {d : Deferral} (h : s.pending ≠ some d.index) :
    s.step (.fire d) = s := if_neg h

/-- Only checks that were put off can count or be made, and what was made counts no more. -/
structure Sound (s : Slot) : Prop where
  pending_lt : ∀ k, s.pending = some k → k < s.count
  pending_notMem : ∀ k, s.pending = some k → k ∉ s.checked
  checked_lt : ∀ k ∈ s.checked, k < s.count
  nodup : s.checked.Nodup

theorem sound_empty : empty.Sound := by
  refine ⟨fun k hk => ?_, fun k hk => ?_, fun k hk => ?_, List.nodup_nil⟩
  · cases hk
  · cases hk
  · cases hk

theorem Sound.step {s : Slot} (h : s.Sound) (m : Move) : (s.step m).Sound := by
  cases m with
  | schedule uri =>
    refine ⟨fun k hk => ?_, fun k hk hmem => ?_, fun k hk => ?_, h.nodup⟩
    · obtain rfl := Option.some.inj hk
      exact Nat.lt_succ_self _
    · obtain rfl := Option.some.inj hk
      exact Nat.lt_irrefl _ (h.checked_lt _ hmem)
    · exact Nat.lt_succ_of_lt (h.checked_lt k hk)
  | cancel uri =>
    refine ⟨fun k hk => ?_, fun k hk => ?_, h.checked_lt, h.nodup⟩
    · cases hk
    · cases hk
  | fire d =>
    by_cases hd : s.pending = some d.index
    · rw [step_fire_self hd]
      refine ⟨fun k hk => ?_, fun k hk => ?_, fun k hk => ?_, ?_⟩
      · cases hk
      · cases hk
      · rcases List.mem_append.mp hk with hk | hk
        · exact h.checked_lt k hk
        · obtain rfl := List.mem_singleton.mp hk
          exact h.pending_lt _ hd
      · refine List.nodup_append.mpr ⟨h.nodup, by simp, ?_⟩
        rintro a ha b hb rfl
        obtain rfl := List.mem_singleton.mp hb
        exact h.pending_notMem _ hd ha
    · rw [step_fire_of_ne hd]
      exact h

theorem Sound.run {s : Slot} (h : s.Sound) (ms : List Move) : (s.run ms).Sound := by
  induction ms generalizing s with
  | nil => exact h
  | cons m ms ih => exact ih (h.step m)

/-- As many checks were put off as there are moves that do so. -/
theorem count_run {ms : List Move} {uri : String} (h : ∀ m ∈ ms, m.uri = uri) (s : Slot) :
    (s.run ms).count = s.count + ms.count (.schedule uri) := by
  induction ms generalizing s with
  | nil => rfl
  | cons m ms ih =>
    obtain ⟨hm, hms⟩ := List.forall_mem_cons.mp h
    rw [run_cons, ih hms]
    cases m with
    | schedule u =>
      obtain rfl : u = uri := hm
      rw [List.count_cons_self]
      simp only [step]
      omega
    | cancel u => rw [List.count_cons_of_ne (by simp)]; rfl
    | fire d =>
      rw [List.count_cons_of_ne (by simp)]
      simp only [step]
      split <;> rfl

/-- A check that was put off before and does not count will never count again. It is made no more
than it was. -/
theorem not_pending_run {s : Slot} {k : Nat} (hlt : k < s.count) (h : s.pending ≠ some k)
    (ms : List Move) :
    (s.run ms).pending ≠ some k ∧ (k ∈ (s.run ms).checked ↔ k ∈ s.checked) := by
  induction ms generalizing s with
  | nil => exact ⟨h, Iff.rfl⟩
  | cons m ms ih =>
    rw [run_cons]
    cases m with
    | schedule u =>
      have hne : some s.count ≠ some k := fun heq => by
        have := Option.some.inj heq
        omega
      exact ih (s := s.step (.schedule u)) (Nat.lt_succ_of_lt hlt) hne
    | cancel u => exact ih (s := s.step (.cancel u)) hlt (Option.some_ne_none k).symm
    | fire d =>
      by_cases hd : s.pending = some d.index
      · have hk : k ≠ d.index := by
          rintro rfl
          exact h hd
        have hstep := ih (s := s.step (.fire d)) (by rwa [step_fire_self hd])
          (by rw [step_fire_self hd]; exact (Option.some_ne_none k).symm)
        rw [step_fire_self hd] at hstep ⊢
        refine ⟨hstep.1, hstep.2.trans ?_⟩
        simp [hk]
      · rw [step_fire_of_ne hd]
        exact ih hlt h

/-- **A check whose time has not come.** It is not made, and it counts as long as nothing supersedes
it. -/
theorem pending_run {s : Slot} {d : Deferral} {ms : List Move} (hs : s.Sound)
    (h : s.pending = some d.index) (hall : ∀ m ∈ ms, m.uri = d.uri) (hfire : .fire d ∉ ms) :
    d.index ∉ (s.run ms).checked ∧
      ((s.run ms).pending = some d.index ↔ ∀ m ∈ ms, ¬ m.Supersedes d.uri) := by
  induction ms with
  | nil => exact ⟨hs.pending_notMem _ h, by simpa using h⟩
  | cons m ms ih =>
    obtain ⟨hm, hms⟩ := List.forall_mem_cons.mp hall
    obtain ⟨hne, hrest⟩ := not_or.mp (mt List.mem_cons.mpr hfire)
    rw [run_cons, List.forall_mem_cons]
    -- once it is superseded, the check counts no more, whatever follows
    have hsuper (hm' : m.Supersedes d.uri) (hlt : d.index < (s.step m).count)
        (hpending : (s.step m).pending ≠ some d.index) (hchecked : (s.step m).checked = s.checked) :
        d.index ∉ ((s.step m).run ms).checked ∧ (((s.step m).run ms).pending = some d.index ↔
          ¬ m.Supersedes d.uri ∧ ∀ m' ∈ ms, ¬ m'.Supersedes d.uri) := by
      obtain ⟨hnot, hiff⟩ := not_pending_run hlt hpending ms
      refine ⟨?_, iff_of_false hnot fun hnone => hnone.1 hm'⟩
      rw [hiff, hchecked]
      exact hs.pending_notMem _ h
    have hlt := hs.pending_lt _ h
    cases m with
    | schedule u =>
      obtain rfl : u = d.uri := hm
      refine hsuper (.inl rfl) (Nat.lt_succ_of_lt hlt) (fun heq => ?_) rfl
      have := Option.some.inj heq
      omega
    | cancel u =>
      obtain rfl : u = d.uri := hm
      exact hsuper (.inr rfl) hlt (Option.some_ne_none _).symm rfl
    | fire d' =>
      have hd : s.pending ≠ some d'.index := by
        rw [h]
        intro heq
        have hindex : d.index = d'.index := Option.some.inj heq
        have huri : d.uri = d'.uri := hm.symm
        exact hne (congrArg Move.fire (by rw [Deferral.mk.injEq]; exact ⟨huri, hindex⟩))
      rw [step_fire_of_ne hd]
      have hnot : ¬ (Move.fire d').Supersedes d.uri := by simp [Move.Supersedes]
      simpa only [hnot, not_false_eq_true, true_and] using ih hms hrest

end Slot

namespace Session

/-- When its time comes, a ticket is used and its timer is done with. -/
theorem fire_frame (s : Session) (t : Ticket) :
    (s.fire t).debounce = s.debounce.redeem t ∧
      (s.fire t).timers = s.timers.filter fun timer => timer.ticket != t := by
  rw [fire_eq]
  split
  · obtain ⟨-, hdebounce, htimers, -, -⟩ := (s.spend t).validate_frame t.uri
    exact ⟨hdebounce, htimers⟩
  · exact ⟨rfl, rfl⟩

/-- A check that is to come stays so when the time of another ticket comes. -/
theorem Pending.fire {s : Session} {uri : String} {t : Ticket} (h : s.Pending uri)
    (hne : s.debounce.current? uri ≠ some t) : (s.fire t).Pending uri := by
  have hspend := h.of_sameFor (sameFor_spend hne)
  obtain ⟨hdebounce, htimers⟩ := s.fire_frame t
  rw [Pending, hdebounce, htimers]
  exact hspend

end Session

/-! ## All documents -/

/-- A session, with the tickets that it issued and the checks that it made. -/
structure Docket where
  session : Session
  /-- The tickets of all checks that were put off, oldest first. -/
  tickets : List Ticket
  /-- The checks that were made when their time came, oldest first. -/
  checked : List Deferral

namespace Docket

/-- A session in which no check was put off yet; all else about it may be as it is. -/
def new (s : Session) : Docket := ⟨{ s with debounce := .empty, timers := [] }, [], []⟩

/-- The ticket of a check, if it was put off. -/
def ticket? (r : Docket) (d : Deferral) : Option Ticket :=
  (r.tickets.filter fun t => t.uri = d.uri)[d.index]?

/-- The docket after a move. Time cannot come for a check that was not put off. -/
def step (r : Docket) : Move → Docket
  | .schedule uri =>
    { r with
      session := r.session.schedule uri
      tickets := r.tickets ++ [r.session.debounce.next uri] }
  | .cancel uri => { r with session := r.session.cancel uri }
  | .fire d =>
    match r.ticket? d with
    | none => r
    | some t =>
      { r with
        session := r.session.fire t
        checked := if r.session.debounce.isCurrent t then r.checked ++ [d] else r.checked }

/-- The docket after several moves. -/
def run (r : Docket) (ms : List Move) : Docket := ms.foldl step r

theorem run_append (r : Docket) (ms ms' : List Move) : r.run (ms ++ ms') = (r.run ms).run ms' :=
  List.foldl_append

/-! ### Tickets -/

/-- The ticket of a check bears the address of its document. -/
theorem uri_of_ticket? {r : Docket} {d : Deferral} {t : Ticket} (h : r.ticket? d = some t) :
    t.uri = d.uri := by
  simpa using (List.mem_filter.mp (List.mem_of_getElem? h)).2

/-- No number was given twice, and none that is still to be given. -/
structure Numbered (r : Docket) : Prop where
  nodup : r.tickets.Nodup
  number_le : ∀ t ∈ r.tickets, t.number ≤ r.session.debounce.issued

theorem numbered_new (s : Session) : (new s).Numbered :=
  ⟨List.nodup_nil, fun t ht => by cases ht⟩

/-- A move issues at most one ticket. -/
theorem issued_step (r : Docket) (m : Move) :
    (r.step m).session.debounce.issued ≤ r.session.debounce.issued + 1 := by
  cases m with
  | schedule uri => exact Nat.le_refl _
  | cancel uri => exact Nat.le_succ _
  | fire d =>
    rw [Docket.step]
    split
    · exact Nat.le_succ _
    · next t _ =>
      rw [(r.session.fire_frame t).1, Debounce.issued_redeem]
      exact Nat.le_succ _

theorem Numbered.step {r : Docket} (h : r.Numbered) (m : Move) : (r.step m).Numbered := by
  cases m with
  | schedule uri =>
    refine ⟨List.nodup_append.mpr ⟨h.nodup, by simp, ?_⟩, fun t ht => ?_⟩
    · rintro t ht t' ht' rfl
      obtain rfl := List.mem_singleton.mp ht'
      exact Nat.not_succ_le_self _ (h.number_le _ ht)
    · rcases List.mem_append.mp ht with ht | ht
      · exact Nat.le_succ_of_le (h.number_le t ht)
      · obtain rfl := List.mem_singleton.mp ht
        exact Nat.le_refl _
  | cancel uri => exact ⟨h.nodup, h.number_le⟩
  | fire d =>
    rw [Docket.step]
    split
    · exact h
    · next t _ =>
      refine ⟨h.nodup, fun t' ht' => ?_⟩
      rw [(r.session.fire_frame t).1, Debounce.issued_redeem]
      exact h.number_le t' ht'

/-- Different checks have different tickets. -/
theorem Numbered.index_inj {r : Docket} (h : r.Numbered) {uri : String} {j k : Nat} {t : Ticket}
    (hj : r.ticket? ⟨uri, j⟩ = some t) (hk : r.ticket? ⟨uri, k⟩ = some t) : j = k := by
  obtain ⟨hlt, -⟩ := List.getElem?_eq_some_iff.mp hj
  exact (List.getElem?_inj hlt (h.nodup.filter _)).mp (hj.trans hk.symm)

/-! ### What one document sees -/

/-- A document sees a slot: as many tickets were issued for it as checks were put off, the ticket
that counts is that of the pending check, and the same checks were made. -/
structure Seen (r : Docket) (uri : String) (s : Slot) : Prop where
  count : (r.tickets.filter fun t => t.uri = uri).length = s.count
  pending : r.session.debounce.current? uri = s.pending.bind fun k => r.ticket? ⟨uri, k⟩
  checked : (r.checked.filter fun d => d.uri = uri) = s.checked.map (Deferral.mk uri)

theorem seen_new (s : Session) (uri : String) : (new s).Seen uri .empty := ⟨rfl, rfl, rfl⟩

variable {r : Docket} {uri : String} {s : Slot}

/-- Moves of other documents do not show. -/
theorem Seen.step_of_ne (h : r.Seen uri s) {m : Move} (hm : m.uri ≠ uri) :
    (r.step m).Seen uri s := by
  cases m with
  | schedule u =>
    have hu : ¬ u = uri := hm
    have htickets : ((r.step (.schedule u)).tickets.filter fun t => t.uri = uri) =
        r.tickets.filter fun t => t.uri = uri := by
      simp [Docket.step, Debounce.next, hu]
    refine ⟨by rw [htickets, h.count], ?_, h.checked⟩
    simp only [ticket?, htickets]
    exact (Debounce.current?_schedule_of_ne _ (Ne.symm hu)).trans h.pending
  | cancel u =>
    exact ⟨h.count, (Debounce.current?_cancel_of_ne _ (Ne.symm hm)).trans h.pending, h.checked⟩
  | fire d =>
    have hd : ¬ d.uri = uri := hm
    rw [Docket.step]
    split
    · exact h
    · next t ht =>
      refine ⟨h.count, ?_, ?_⟩
      · have hne : uri ≠ t.uri := by
          rw [uri_of_ticket? ht]
          exact Ne.symm hd
        show (r.session.fire t).debounce.current? uri = _
        rw [(r.session.fire_frame t).1, Debounce.current?_redeem_of_ne _ hne]
        exact h.pending
      · rw [← h.checked]
        split
        · simp [hd]
        · rfl

/-- A check that was put off has a ticket. -/
theorem Seen.exists_ticket {d : Deferral} (h : r.Seen d.uri s) (hlt : d.index < s.count) :
    ∃ t, r.ticket? d = some t := by
  rw [← h.count] at hlt
  exact ⟨_, List.getElem?_eq_getElem hlt⟩

/-- A ticket counts exactly if its check is the pending one. -/
theorem Seen.isCurrent_iff {d : Deferral} (h : r.Seen d.uri s) (hr : r.Numbered) {t : Ticket}
    (ht : r.ticket? d = some t) : r.session.debounce.isCurrent t ↔ s.pending = some d.index := by
  rw [Debounce.isCurrent_iff, uri_of_ticket? ht, h.pending, Option.bind_eq_some_iff]
  constructor
  · rintro ⟨j, hj, htj⟩
    rw [hj, hr.index_inj htj ht]
  · exact fun hk => ⟨d.index, hk, ht⟩

/-- Moves of the document are those of the slot. -/
theorem Seen.step_self (h : r.Seen uri s) (hr : r.Numbered) (hs : s.Sound) {m : Move}
    (hm : m.uri = uri) : (r.step m).Seen uri (s.step m) := by
  cases m with
  | schedule u =>
    obtain rfl : u = uri := hm
    have htickets : ((r.step (.schedule u)).tickets.filter fun t => t.uri = u) =
        (r.tickets.filter fun t => t.uri = u) ++ [r.session.debounce.next u] := by
      simp [Docket.step, Debounce.next]
    refine ⟨?_, ?_, h.checked⟩
    · rw [htickets, List.length_append, h.count]
      rfl
    · -- the new ticket stands behind those that were issued before
      show (r.session.debounce.schedule u).current? u =
        ((r.step (.schedule u)).tickets.filter fun t => t.uri = u)[s.count]?
      rw [htickets, ← h.count, List.getElem?_concat_length, Debounce.current?_schedule_self]
  | cancel u =>
    obtain rfl : u = uri := hm
    exact ⟨h.count, Debounce.current?_cancel_self _ u, h.checked⟩
  | fire d =>
    obtain rfl : d.uri = uri := hm
    rw [Docket.step]
    split
    · next ht =>
      have hne : s.pending ≠ some d.index := by
        intro hk
        obtain ⟨t, ht'⟩ := h.exists_ticket (hs.pending_lt _ hk)
        cases ht.symm.trans ht'
      rw [Slot.step_fire_of_ne hne]
      exact h
    · next t ht =>
      have hiff := h.isCurrent_iff hr ht
      by_cases hcur : r.session.debounce.isCurrent t
      · rw [if_pos hcur, Slot.step_fire_self (hiff.mp hcur)]
        refine ⟨h.count, ?_, ?_⟩
        · show (r.session.fire t).debounce.current? d.uri = none
          rw [(r.session.fire_frame t).1, Debounce.redeem_of_isCurrent hcur, uri_of_ticket? ht,
            Debounce.current?_cancel_self]
        · simp [h.checked]
      · rw [if_neg hcur, Slot.step_fire_of_ne (mt hiff.mpr hcur)]
        refine ⟨h.count, ?_, h.checked⟩
        show (r.session.fire t).debounce.current? d.uri = _
        rw [(r.session.fire_frame t).1, Debounce.redeem_of_not_isCurrent hcur]
        exact h.pending

/-- **What one document sees.** All that happens to other documents can be left out. -/
theorem Seen.run (h : r.Seen uri s) (hr : r.Numbered) (hs : s.Sound) (ms : List Move) :
    (r.run ms).Seen uri (s.run (ms.filter fun m => m.uri = uri)) ∧ (r.run ms).Numbered := by
  induction ms generalizing r s with
  | nil => exact ⟨h, hr⟩
  | cons m ms ih =>
    by_cases hm : m.uri = uri
    · rw [List.filter_cons_of_pos (by simpa using hm)]
      exact ih (h.step_self hr hs hm) (hr.step m) (hs.step m)
    · rw [List.filter_cons_of_neg (by simpa using hm)]
      exact ih (h.step_of_ne hm) (hr.step m) hs

theorem seen_run (s : Session) (uri : String) (ms : List Move) :
    ((new s).run ms).Seen uri (Slot.empty.run (ms.filter fun m => m.uri = uri)) ∧
      ((new s).run ms).Numbered :=
  (seen_new s uri).run (numbered_new s) Slot.sound_empty ms

/-- A check was made exactly if the slot says so. -/
theorem Seen.mem_checked_iff {d : Deferral} (h : r.Seen d.uri s) :
    d ∈ r.checked ↔ d.index ∈ s.checked := by
  have hmem : d ∈ (r.checked.filter fun d' => d'.uri = d.uri) ↔ d.index ∈ s.checked := by
    rw [h.checked, List.mem_map]
    exact ⟨fun ⟨k, hk, heq⟩ => heq ▸ hk, fun hk => ⟨d.index, hk, rfl⟩⟩
  simpa using hmem

/-- **What becomes of a check.** As long as its time has not come, a check is not made, and it
counts exactly if nothing superseded it since it was put off. -/
theorem exists_seen_run_schedule (s : Session) {uri : String} {pre mid : List Move}
    (hfire : .fire (Move.next pre uri) ∉ mid) :
    ∃ slot : Slot, slot.Sound ∧ ((new s).run (pre ++ .schedule uri :: mid)).Seen uri slot ∧
      (Move.next pre uri).index < slot.count ∧ (Move.next pre uri).index ∉ slot.checked ∧
      (slot.pending = some (Move.next pre uri).index ↔ ∀ m ∈ mid, ¬ m.Supersedes uri) := by
  have hall (ms : List Move) : ∀ m ∈ ms.filter fun m => m.uri = uri, m.uri = uri := by simp
  obtain ⟨hseen, -⟩ := seen_run s uri (pre ++ .schedule uri :: mid)
  have hfilter : ((pre ++ .schedule uri :: mid).filter fun m => m.uri = uri) =
      (pre.filter fun m => m.uri = uri) ++ .schedule uri :: mid.filter fun m => m.uri = uri := by
    simp [Move.uri]
  rw [hfilter, Slot.run_append, Slot.run_cons] at hseen
  -- the check takes the index that the slot has counted up to
  have hcount : (Move.next pre uri).index =
      (Slot.empty.run (pre.filter fun m => m.uri = uri)).count := by
    rw [Slot.count_run (hall pre), List.count_filter (by simp [Move.uri])]
    exact (Nat.zero_add _).symm
  have hsound := (Slot.sound_empty.run (pre.filter fun m => m.uri = uri)).step (.schedule uri)
  generalize Slot.empty.run (pre.filter fun m => m.uri = uri) = slot at hseen hcount hsound
  obtain ⟨hnot, hiff⟩ := Slot.pending_run hsound (congrArg some hcount.symm) (hall mid)
    fun hmem => hfire (List.mem_filter.mp hmem).1
  refine ⟨_, hsound.run _, hseen, ?_, hnot, hiff.trans ?_⟩
  · rw [hcount, Slot.count_run (hall mid)]
    exact Nat.lt_of_lt_of_le (Nat.lt_succ_self _) (Nat.le_add_right _ _)
  · refine ⟨fun h m hm hs => h m ?_ hs, fun h m hm => h m (List.mem_filter.mp hm).1⟩
    exact List.mem_filter.mpr ⟨hm, by simpa using Move.uri_of_supersedes hs⟩

/-- **A check is made exactly if nothing superseded it before its time came.** What happens later
plays no part. -/
theorem mem_checked_run_fire (s : Session) {uri : String} {pre mid : List Move}
    (hfire : .fire (Move.next pre uri) ∉ mid) (post : List Move) :
    Move.next pre uri ∈ ((new s).run
        (pre ++ .schedule uri :: (mid ++ .fire (Move.next pre uri) :: post))).checked ↔
      ∀ m ∈ mid, ¬ m.Supersedes uri := by
  obtain ⟨slot, hsound, hseen, hlt, hnot, hiff⟩ := exists_seen_run_schedule s hfire
  obtain ⟨-, hr⟩ := seen_run s uri (pre ++ .schedule uri :: mid)
  generalize hd : Move.next pre uri = d at *
  obtain rfl : d.uri = uri := by rw [← hd]; rfl
  obtain ⟨hend, -⟩ := hseen.run hr hsound (.fire d :: post)
  rw [← run_append, List.append_assoc, List.cons_append,
    List.filter_cons_of_pos (by simp [Move.uri]), Slot.run_cons] at hend
  rw [hend.mem_checked_iff, ← hiff]
  by_cases hpending : slot.pending = some d.index
  · have hmade := (Slot.not_pending_run (s := ⟨slot.count, none, slot.checked ++ [d.index]⟩) hlt
      (Option.some_ne_none _).symm (post.filter fun m => m.uri = d.uri)).2
    rw [Slot.step_fire_self hpending, hmade]
    exact iff_of_true (List.mem_append_right _ List.mem_cons_self) hpending
  · rw [Slot.step_fire_of_ne hpending, (Slot.not_pending_run hlt hpending _).2]
    exact iff_of_false hnot hpending

/-- A check whose time has not come was not made. -/
theorem notMem_checked_run (s : Session) {uri : String} {pre mid : List Move}
    (hfire : .fire (Move.next pre uri) ∉ mid) :
    Move.next pre uri ∉ ((new s).run (pre ++ .schedule uri :: mid)).checked := by
  obtain ⟨slot, -, hseen, -, hnot, -⟩ := exists_seen_run_schedule s hfire
  exact mt (Seen.mem_checked_iff (d := Move.next pre uri) hseen).mp hnot

/-- No check is made twice. -/
theorem nodup_checked_run (s : Session) (ms : List Move) : ((new s).run ms).checked.Nodup := by
  refine List.nodup_iff_count.mpr fun d => ?_
  have hslot := (Slot.sound_empty.run (ms.filter fun m => m.uri = d.uri)).nodup
  have hnodup : (((new s).run ms).checked.filter fun d' => d'.uri = d.uri).Nodup := by
    rw [(seen_run s d.uri ms).1.checked]
    exact List.Pairwise.map _ (fun j k hne heq => hne (Deferral.mk.inj heq).2) hslot
  have hcount := List.nodup_iff_count.mp hnodup d
  rwa [List.count_filter (by simp)] at hcount

/-- No ticket has a larger number than there were moves, so words of `2 ^ 64` values are enough for
the numbers of all runs with fewer moves. -/
theorem number_le_length (s : Session) (ms : List Move) :
    ∀ t ∈ ((new s).run ms).tickets, t.number ≤ ms.length := by
  have hissued : ((new s).run ms).session.debounce.issued ≤ ms.length := by
    induction ms using List.reverseRecOn with
    | nil => exact Nat.le_refl 0
    | append_singleton ms m ih =>
      rw [run_append, List.length_append]
      exact Nat.le_trans (issued_step _ m) (Nat.succ_le_succ ih)
  exact fun t ht => Nat.le_trans ((seen_run s t.uri ms).2.number_le t ht) hissued

/-! ### Timers -/

/-- Each ticket that counts waits for its time. -/
def Waits (r : Docket) : Prop :=
  ∀ uri, r.session.debounce.current? uri ≠ none → r.session.Pending uri

theorem Waits.step (h : r.Waits) (m : Move) : (r.step m).Waits := by
  intro uri hsome
  cases m with
  | schedule u =>
    by_cases hu : uri = u
    · subst hu
      exact r.session.pending_schedule uri
    · have hs : Session.SameFor uri r.session (r.session.schedule u) := Session.sameFor_schedule hu
      exact (h uri (hs.ticket ▸ hsome)).of_sameFor hs
  | cancel u =>
    by_cases hu : uri = u
    · subst hu
      exact absurd (Debounce.current?_cancel_self _ uri) hsome
    · have hs : Session.SameFor uri r.session (r.session.cancel u) := Session.sameFor_cancel hu
      exact (h uri (hs.ticket ▸ hsome)).of_sameFor hs
  | fire d =>
    rw [Docket.step] at hsome ⊢
    split at hsome
    · exact h uri hsome
    · next t _ =>
      obtain ⟨hdebounce, -⟩ := r.session.fire_frame t
      rw [hdebounce] at hsome
      have hne : r.session.debounce.current? uri ≠ some t := by
        intro hcur
        obtain rfl := Debounce.uri_of_current? hcur
        rw [Debounce.redeem_of_isCurrent (Debounce.isCurrent_iff.mpr hcur)] at hsome
        exact hsome (Debounce.current?_cancel_self _ _)
      exact (h uri ((Session.sameFor_spend hne).ticket ▸ hsome)).fire hne

theorem waits_run (s : Session) (ms : List Move) : ((new s).run ms).Waits := by
  induction ms using List.reverseRecOn with
  | nil => exact fun uri hsome => absurd rfl hsome
  | append_singleton ms m ih =>
    rw [run_append]
    exact ih.step m

/-- No ticket counts any more when the times of all have come. -/
theorem current_eq_nil (s : Session) {ms : List Move} (h : ((new s).run ms).session.timers = []) :
    ((new s).run ms).session.debounce.current = [] := by
  refine List.eq_nil_iff_forall_not_mem.mpr fun t ht => ?_
  have hsome : ((new s).run ms).session.debounce.current? t.uri ≠ none := by
    intro hnone
    simpa using List.find?_eq_none.mp hnone t ht
  obtain ⟨-, -, timer, htimer, -⟩ := waits_run s ms t.uri hsome
  rw [h] at htimer
  cases htimer

/-- When no ticket counts any more, the check that was put off last was made, unless it was
dropped. -/
theorem mem_checked_run_of_current_eq_nil (s : Session) {uri : String} {pre post : List Move}
    (hpost : ∀ m ∈ post, ¬ m.Supersedes uri)
    (h : ((new s).run (pre ++ .schedule uri :: post)).session.debounce.current = []) :
    Move.next pre uri ∈ ((new s).run (pre ++ .schedule uri :: post)).checked := by
  by_cases hfire : .fire (Move.next pre uri) ∈ post
  · obtain ⟨a, b, rfl, ha⟩ := List.eq_append_cons_of_mem hfire
    exact (mem_checked_run_fire s ha b).mpr fun m hm => hpost m (by simp [hm])
  · -- otherwise it would still count
    obtain ⟨slot, -, hseen, hlt, -, hiff⟩ := exists_seen_run_schedule s hfire
    obtain ⟨t, ht⟩ := Seen.exists_ticket (d := Move.next pre uri) hseen hlt
    have hcur := (Seen.isCurrent_iff (d := Move.next pre uri) hseen (seen_run s uri _).2 ht).mpr
      (hiff.mpr hpost)
    rw [Debounce.isCurrent_iff, Debounce.current?, h] at hcur
    cases hcur

/-! ## Which checks are made -/

/-- **Debouncing neither loses nor doubles a check.** When the time of a check comes, it is made
exactly if no other check of its document was put off and none was dropped since; it is made at most
once; what happens to other documents changes nothing about it. When all timers have run out, no
ticket counts any more, and of each document the check that was put off last was made, unless it was
dropped; those before it whose time had not come by then were not. The number of a ticket is at most
the number of moves, so that a counter of 64 bits holds those of all runs with fewer than `2 ^ 64`
moves. -/
theorem checked_run (s : Session) :
    (∀ (uri : String) (pre mid post : List Move),
      let d := Move.next pre uri
      let r := (new s).run (pre ++ .schedule uri :: mid)
      .fire d ∉ mid →
        (d ∈ ((new s).run (pre ++ .schedule uri :: (mid ++ .fire d :: post))).checked ↔
          ∀ m ∈ mid, ¬ m.Supersedes uri) ∧
        ∃ t, r.ticket? d = some t ∧ (r.step (.fire d)).session =
          if ∀ m ∈ mid, ¬ m.Supersedes uri then (r.session.spend t).validate uri
          else r.session.spend t) ∧
    (∀ ms, ((new s).run ms).checked.Nodup) ∧
    (∀ (uri : String) (ms ms' : List Move),
      (ms.filter fun m => m.uri = uri) = (ms'.filter fun m => m.uri = uri) →
        (((new s).run ms).checked.filter fun d => d.uri = uri) =
          ((new s).run ms').checked.filter fun d => d.uri = uri) ∧
    (∀ ms, ∀ t ∈ ((new s).run ms).tickets, t.number ≤ ms.length) ∧
    ∀ ms, ((new s).run ms).session.timers = [] →
      ((new s).run ms).session.debounce.current = [] ∧
      ∀ (uri : String) (pre post : List Move), ms = pre ++ .schedule uri :: post →
        (∀ m ∈ post, ¬ m.Supersedes uri) →
        Move.next pre uri ∈ ((new s).run ms).checked ∧
        ∀ pre' mid, pre = pre' ++ .schedule uri :: mid →
          .fire (Move.next pre' uri) ∉ mid →
          Move.next pre' uri ∉ ((new s).run ms).checked := by
  refine ⟨?_, nodup_checked_run s, ?_, number_le_length s, ?_⟩
  · intro uri pre mid post d r hfire
    refine ⟨mem_checked_run_fire s hfire post, ?_⟩
    obtain ⟨slot, -, hseen, hlt, -, hiff⟩ := exists_seen_run_schedule s hfire
    obtain ⟨t, ht⟩ := Seen.exists_ticket (r := r) (d := d) hseen hlt
    refine ⟨t, ht, ?_⟩
    have hcur := (Seen.isCurrent_iff (d := d) hseen (seen_run s uri _).2 ht).trans hiff
    have hstep : (r.step (.fire d)).session = r.session.fire t := by
      rw [step, ht]
    rw [hstep, Session.fire_eq, uri_of_ticket? ht]
    simp only [r, hcur]
    rfl
  · intro uri ms ms' h
    rw [(seen_run s uri ms).1.checked, (seen_run s uri ms').1.checked, h]
  · intro ms htimers
    have hnil := current_eq_nil s htimers
    refine ⟨hnil, ?_⟩
    rintro uri pre post rfl hpost
    constructor
    · exact mem_checked_run_of_current_eq_nil s hpost hnil
    · rintro pre mid rfl hmid
      rw [List.append_assoc, List.cons_append]
      by_cases hfire : .fire (Move.next pre uri) ∈ post
      · -- its time came after the later check was put off
        obtain ⟨a, b, rfl, ha⟩ := List.eq_append_cons_of_mem hfire
        have hfire' : .fire (Move.next pre uri) ∉ mid ++ .schedule uri :: a := by
          simp [hmid, ha]
        have hiff := mem_checked_run_fire s hfire' b
        rw [List.append_assoc, List.cons_append] at hiff
        rw [hiff]
        exact fun hall => hall (.schedule uri) (by simp) (.inl rfl)
      · exact notMem_checked_run s (by simp [hmid, hfire])

/-- The check of `a` is put off twice and that of `b` is dropped; then the times of all three come,
the first ones first. -/
def burst : List Move :=
  [.schedule "a", .schedule "b", .schedule "a", .cancel "b", .fire ⟨"a", 0⟩, .fire ⟨"b", 0⟩,
    .fire ⟨"a", 1⟩]

/-- Of the three checks only the second one of `a` is made, as if there were no `b`, and the client
is told once that nothing is wrong with `a`. -/
theorem checked_run_burst :
    let s := ((Session.new ⟨.bare, .standard⟩ 0).openDocument ⟨"a", 1, []⟩).2
    (⟨"a", 1⟩ ∈ ((new s).run burst).checked ↔
      ∀ m ∈ [Move.cancel "b", .fire ⟨"a", 0⟩, .fire ⟨"b", 0⟩], ¬ m.Supersedes "a") ∧
    (⟨"a", 0⟩ ∈ ((new s).run burst).checked ↔
      ∀ m ∈ [Move.schedule "b", .schedule "a", .cancel "b"], ¬ m.Supersedes "a") ∧
    ((new s).run burst).checked.Nodup ∧
    (((new s).run burst).checked.filter fun d => d.uri = "a") =
      (((new s).run [.schedule "a", .schedule "a", .fire ⟨"a", 0⟩, .fire ⟨"a", 1⟩]).checked.filter
        fun d => d.uri = "a") ∧
    ((new s).run burst).session.timers = [] ∧
    ((new s).run burst).session.debounce.current = [] ∧
    (⟨"a", 1⟩ ∈ ((new s).run burst).checked ∧ ⟨"a", 0⟩ ∉ ((new s).run burst).checked) ∧
    ((new s).run burst).session.notices = [(0, .markers "a" [] 1)] ∧
    ∀ t ∈ ((new s).run burst).tickets, t.number ≤ 7 := by
  intro s
  obtain ⟨hmade, hnodup, hother, hnumber, hdone⟩ := checked_run s
  have hfirst : Move.next [] "a" = ⟨"a", 0⟩ := rfl
  have hsecond : Move.next [.schedule "a", .schedule "b"] "a" = ⟨"a", 1⟩ := by decide
  have htimers : ((new s).run burst).session.timers = [] := by decide +kernel
  obtain ⟨hcurrent, hlast⟩ := hdone burst htimers
  obtain ⟨hmade₁, hnot₀⟩ := hlast "a" [.schedule "a", .schedule "b"]
    [.cancel "b", .fire ⟨"a", 0⟩, .fire ⟨"b", 0⟩, .fire ⟨"a", 1⟩] rfl (by decide)
  have hiff₁ := (hmade "a" [.schedule "a", .schedule "b"]
    [.cancel "b", .fire ⟨"a", 0⟩, .fire ⟨"b", 0⟩] [] (by decide)).1
  have hiff₀ := (hmade "a" [] [.schedule "b", .schedule "a", .cancel "b"]
    [.fire ⟨"b", 0⟩, .fire ⟨"a", 1⟩] (by decide)).1
  have hnot := hnot₀ [] [.schedule "b"] rfl (by decide)
  rw [hsecond] at hiff₁ hmade₁
  rw [hfirst] at hiff₀ hnot
  exact ⟨hiff₁, hiff₀, hnodup burst, hother "a" burst _ (by decide), htimers, hcurrent,
    ⟨hmade₁, hnot⟩, rfl, hnumber burst⟩

end Docket

end CssFragments
