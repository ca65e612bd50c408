import CssFragments.Session.Basic

/-! # What a session holds about one document

The parts of a session are asked by address: the store for the state of a document, the debounce for
the ticket of its check, the notices for what the client was told last. These are the answers after
each operation.

* `Store.mem_uris_iff`: the listed addresses are those of the open documents.
* `Debounce.redeem_of_isCurrent`, `Debounce.redeem_of_not_isCurrent`: the use of tickets.
* `foldl_eq_latest`: what remains of the steps of a run.
* `Worker.offered`, `Worker.plan_offered_reap`, `Worker.plan_offered_restart`: which service is
  handed out, and by which plan it is built.
* `Session.validate_eq`: a check, by the service that is handed out.
* `Session.last?`: what the client was told last about a document. -/

namespace CssFragments

namespace Store

/-- A document is found under its own address. -/
theorem uri_of_get? {s : Store} {uri : String} {d : Document} (h : s.get? uri = some d) :
    d.uri = uri := by
  simpa using List.find?_some h

/-- The listed addresses are those of the open documents. -/
theorem mem_uris_iff {s : Store} {uri : String} : uri ∈ s.uris ↔ (s.get? uri).isSome := by
  rw [uris, List.mem_mergeSort, get?, List.find?_isSome]
  simp

end Store

namespace Debounce

/-- The ticket of a document bears its address. -/
theorem uri_of_current? {d : Debounce} {uri : String} {t : Ticket} (h : d.current? uri = some t) :
    t.uri = uri := by
  simpa using List.find?_some h

theorem isCurrent_iff {d : Debounce} {t : Ticket} : d.isCurrent t ↔ d.current? t.uri = some t := by
  rw [isCurrent, beq_iff_eq]

/-- Using a ticket that counts withdraws it. -/
theorem redeem_of_isCurrent {d : Debounce} {t : Ticket} (h : d.isCurrent t) :
    d.redeem t = d.cancel t.uri := if_pos h

/-- Using a ticket that does not count changes nothing. -/
theorem redeem_of_not_isCurrent {d : Debounce} {t : Ticket} (h : ¬ d.isCurrent t) :
    d.redeem t = d := if_neg h

@[simp] theorem issued_redeem (d : Debounce) (t : Ticket) : (d.redeem t).issued = d.issued := by
  unfold redeem
  split <;> rfl

/-- Tickets of other documents stay. -/
theorem current?_redeem_of_ne (d : Debounce) {t : Ticket} {uri : String} (h : uri ≠ t.uri) :
    (d.redeem t).current? uri = d.current? uri := by
  unfold redeem
  split
  · exact d.current?_cancel_of_ne h
  · rfl

end Debounce

/-- **What a run says last.** A part of a state that a step sets or leaves alone is, after several
steps, what they said last. -/
theorem foldl_eq_latest {β ε α : Type} {get : β → α} {step : β → ε → β} {f : ε → Option α}
    (h : ∀ b e, get (step b e) = (f e).getD (get b)) (b : β) (es : List ε) :
    get (es.foldl step b) = (es.filterMap f).getLast?.getD (get b) := by
  induction es generalizing b with
  | nil => rfl
  | cons e es ih =>
    rw [List.foldl_cons, ih, h]
    cases he : f e with
    | none => rw [List.filterMap_cons_none he, Option.getD_none]
    | some a =>
      rw [List.filterMap_cons_some he, List.getLast?_cons]
      simp

namespace Worker

variable {σ : Type}

/-- The service that is handed out next: the one that is held, or else the one that is built
then. -/
def offered (w : Worker σ) : Running σ := w.service.getD ⟨w.built, w.plan⟩

theorem fst_acquire (w : Worker σ) (clock : Nat) : (w.acquire clock).1 = w.offered := by
  unfold acquire offered
  cases w.service <;> rfl

/-- What was handed out is held. -/
theorem service_acquire (w : Worker σ) (clock : Nat) :
    (w.acquire clock).2.service = some w.offered := by
  unfold acquire offered
  cases w.service <;> rfl

/-- Asking for the service does not change which one is handed out. -/
theorem offered_acquire (w : Worker σ) (clock : Nat) : (w.acquire clock).2.offered = w.offered := by
  rw [offered, service_acquire, Option.getD_some]

theorem plan_acquire (w : Worker σ) (clock : Nat) : (w.acquire clock).2.plan = w.plan := by
  unfold acquire
  split <;> rfl

theorem plan_reap (w : Worker σ) (clock : Nat) : (w.reap clock).2.plan = w.plan := by
  unfold reap
  split <;> rfl

/-- If the service follows the plan, then also after an idle one was given up. -/
theorem plan_offered_reap {w : Worker σ} (h : w.offered.plan = w.plan) (clock : Nat) :
    (w.reap clock).2.offered.plan = w.plan := by
  unfold reap
  split
  · rfl
  · exact h

/-- After the plan changed, the service follows the new one. -/
theorem plan_offered_restart (w : Worker σ) (plan : σ) (timeout : Nat) :
    (w.restart plan timeout).offered.plan = plan := rfl

end Worker

/-! ## The last notice -/

/-- Whether a notice is about a document. -/
def Notice.concerns (uri : String) : Notice → Bool
  | .markers u _ _ => u == uri
  | .cleared u => u == uri
  | .message _ => false

namespace Session

theorem fst_acquire (s : Session) : s.acquire.1 = s.worker.offered := s.worker.fst_acquire s.clock

/-- A check asks the service that is handed out. -/
theorem validate_eq (s : Session) (uri : String) :
    s.validate uri =
      match s.store.get? uri with
      | none => s
      | some d =>
        if s.enabled then s.acquire.2.publish d (s.worker.offered.plan.ask d .validate ())
        else s.tell (.cleared uri) := by
  rw [← fst_acquire]
  rfl

/-- What the client was told last about a document. -/
def last? (s : Session) (uri : String) : Option Notice :=
  (s.notices.map (·.2)).reverse.find? (·.concerns uri)

/-- A new notice is the last one for the document it is about. -/
theorem last?_tell_of_concerns {s : Session} {n : Notice} {uri : String} (h : n.concerns uri) :
    (s.tell n).last? uri = some n := by
  simp [last?, tell, h]

/-- A new notice does not count for other documents. -/
theorem last?_tell_of_not_concerns {s : Session} {n : Notice} {uri : String}
    (h : ¬ n.concerns uri) : (s.tell n).last? uri = s.last? uri := by
  simp [last?, tell, h]

end Session

end CssFragments
