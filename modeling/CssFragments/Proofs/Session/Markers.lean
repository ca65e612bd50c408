import CssFragments.Proofs.Session.Basic
import CssFragments.Session.Time

/-! # Markers of open documents

What a client sees of a document has to be what is wrong with its latest state, unless a check of it
is still to come. This is said here for one document of a session, and for each operation of a
session it is shown what the operation does to it.

* `Session.Shown`: the client sees what is wrong with a state of a document.
* `Session.Pending`: a check of a document is to come.
* `Session.Sound`: one of the two holds for an open document; a closed one shows nothing.
* `Session.SameFor`: two sessions do not differ in what decides about a document.
* `Session.pending_schedule`, `Session.sound_close`, `Session.sound_fire`: the operations that
  differ.
* `Session.InOrder`: all documents are in order, and the service follows one plan. -/

namespace CssFragments

namespace Session

variable {s s' : Session} {plan : Service} {opened opened' : String → Prop} {uri : String}

/-- The client was last told what a service finds wrong with the document, at its version; or
nothing, if what is found is not published. -/
def Shown (s : Session) (plan : Service) (uri : String) (d : Document) : Prop :=
  if s.enabled then
    ∃ diagnostics, plan.ask d .validate () = .ok diagnostics ∧
      s.last? uri = some (.markers uri diagnostics d.version)
  else s.last? uri = some (.cleared uri)

/-- A ticket for the document counts, and its time has not come. -/
def Pending (s : Session) (uri : String) : Prop :=
  ∃ t, s.debounce.current? uri = some t ∧ ∃ timer ∈ s.timers, timer.ticket = t

/-- The markers of a document are in order: a ticket counts only for an open document and waits for
its time; without a ticket an open document is shown as it is, and nothing is shown any more for one
that was opened and closed. -/
structure Sound (s : Session) (plan : Service) (opened : String → Prop) (uri : String) : Prop where
  isOpen_of_ticket : ∀ t, s.debounce.current? uri = some t → (s.store.get? uri).isSome
  waits : ∀ t, s.debounce.current? uri = some t → ∃ timer ∈ s.timers, timer.ticket = t
  shown : ∀ d, s.store.get? uri = some d → s.debounce.current? uri = none → s.Shown plan uri d
  cleared : opened uri → s.store.get? uri = none → s.last? uri = some (.cleared uri)

/-- An open document whose check is to come is in order, whatever the client was told. -/
theorem Sound.of_pending (hopen : (s.store.get? uri).isSome) (h : s.Pending uri) :
    s.Sound plan opened uri := by
  obtain ⟨t, ht, htimer⟩ := h
  constructor
  · exact fun _ _ => hopen
  · intro t' ht'
    obtain rfl : t = t' := Option.some.inj (ht.symm.trans ht')
    exact htimer
  · intro d _ hnone
    rw [ht] at hnone
    cases hnone
  · intro _ hnone
    rw [hnone] at hopen
    cases hopen

/-! ## Operations on something else -/

/-- Two sessions that hold the same about a document: its state, its ticket, a timer for that
ticket, and the last notice. -/
structure SameFor (uri : String) (s s' : Session) : Prop where
  document : s'.store.get? uri = s.store.get? uri
  ticket : s'.debounce.current? uri = s.debounce.current? uri
  timer : ∀ t, s.debounce.current? uri = some t → (∃ timer ∈ s.timers, timer.ticket = t) →
    ∃ timer ∈ s'.timers, timer.ticket = t
  last : s'.last? uri = s.last? uri
  enabled : s'.enabled = s.enabled

@[refl] theorem SameFor.refl (uri : String) (s : Session) : SameFor uri s s :=
  ⟨rfl, rfl, fun _ _ h => h, rfl, rfl⟩

theorem SameFor.trans {s'' : Session} (h : SameFor uri s s') (h' : SameFor uri s' s'') :
    SameFor uri s s'' where
  document := h'.document.trans h.document
  ticket := h'.ticket.trans h.ticket
  timer t ht htimer := h'.timer t (h.ticket.trans ht) (h.timer t ht htimer)
  last := h'.last.trans h.last
  enabled := h'.enabled.trans h.enabled

/-- What is in order stays so where nothing about it changes. -/
theorem Sound.of_sameFor (h : s.Sound plan opened uri) (hs : SameFor uri s s')
    (hopened : opened' uri → opened uri) : s'.Sound plan opened' uri := by
  constructor
  · intro t ht
    rw [hs.document]
    exact h.isOpen_of_ticket t (hs.ticket ▸ ht)
  · intro t ht
    rw [hs.ticket] at ht
    exact hs.timer t ht (h.waits t ht)
  · intro d hd hnone
    rw [hs.document] at hd
    rw [hs.ticket] at hnone
    have hshown := h.shown d hd hnone
    rwa [Shown, ← hs.enabled, ← hs.last] at hshown
  · intro ho hnone
    rw [hs.document] at hnone
    rw [hs.last]
    exact h.cleared (hopened ho) hnone

theorem sameFor_note (records : List Record) : SameFor uri s (s.note records) :=
  ⟨rfl, rfl, fun _ _ h => h, rfl, rfl⟩

theorem sameFor_acquire : SameFor uri s s.acquire.2 := ⟨rfl, rfl, fun _ _ h => h, rfl, rfl⟩

theorem sameFor_reap : SameFor uri s s.reap := ⟨rfl, rfl, fun _ _ h => h, rfl, rfl⟩

theorem sameFor_startReaping : SameFor uri s s.startReaping :=
  ⟨rfl, rfl, fun _ _ h => h, rfl, rfl⟩

/-- Notices about other documents do not count. -/
theorem sameFor_tell {n : Notice} (h : ¬ n.concerns uri) : SameFor uri s (s.tell n) :=
  ⟨rfl, rfl, fun _ _ htimer => htimer, last?_tell_of_not_concerns h, rfl⟩

theorem sameFor_openDocument {d : Document} (h : uri ≠ d.uri) :
    SameFor uri s (s.openDocument d).2 :=
  ⟨s.store.get?_insert_of_ne d h, rfl, fun _ _ htimer => htimer, rfl, rfl⟩

theorem sameFor_closeDocument {other : String} (h : uri ≠ other) :
    SameFor uri s (s.closeDocument other).2 :=
  ⟨s.store.get?_erase_of_ne h, rfl, fun _ _ htimer => htimer, rfl, rfl⟩

theorem sameFor_cancel {other : String} (h : uri ≠ other) : SameFor uri s (s.cancel other) :=
  ⟨rfl, s.debounce.current?_cancel_of_ne h, fun _ _ htimer => htimer, rfl, rfl⟩

theorem sameFor_schedule {other : String} (h : uri ≠ other) : SameFor uri s (s.schedule other) where
  document := rfl
  ticket := s.debounce.current?_schedule_of_ne h
  timer := by
    rintro t - ⟨timer, hmem, rfl⟩
    exact ⟨timer, List.mem_append_left _ hmem, rfl⟩
  last := rfl
  enabled := rfl

/-- What is found wrong with another document is not about this one. -/
theorem sameFor_publish {d : Document} (h : uri ≠ d.uri)
    (found : Except Failure (List Diagnostic)) : SameFor uri s (s.publish d found) := by
  cases found with
  | ok diagnostics =>
    exact sameFor_tell (by simpa [Notice.concerns] using fun heq : d.uri = uri => h heq.symm)
  | error e =>
    rw [publish]
    split
    · exact sameFor_note _
    · exact .refl uri s

/-- Checking another document publishes nothing about this one. -/
theorem sameFor_validate {other : String} (h : uri ≠ other) : SameFor uri s (s.validate other) := by
  rw [validate_eq]
  split
  · exact .refl uri s
  · next d hd =>
    have hne : ¬ other = uri := fun heq => h heq.symm
    split
    · exact sameFor_acquire.trans (sameFor_publish (by rwa [Store.uri_of_get? hd]) _)
    · exact sameFor_tell (by simp [Notice.concerns, hne])

/-! ## Checks that are put off -/

/-- A check that is put off is to come. -/
theorem pending_schedule (s : Session) (uri : String) : (s.schedule uri).Pending uri :=
  ⟨s.debounce.next uri, s.debounce.current?_schedule_self uri,
    ⟨s.now + delay, s.debounce.next uri⟩, List.mem_append_right _ List.mem_cons_self, rfl⟩

/-- A check that is to come stays so where nothing about its document changes. -/
theorem Pending.of_sameFor (h : s.Pending uri) (hs : SameFor uri s s') : s'.Pending uri := by
  obtain ⟨t, ht, htimer⟩ := h
  exact ⟨t, hs.ticket.trans ht, hs.timer t ht htimer⟩

/-- Checks to come stay so when others are put off, or they themselves once more. -/
theorem Pending.schedule (h : s.Pending uri) (other : String) : (s.schedule other).Pending uri := by
  by_cases heq : uri = other
  · subst heq
    exact s.pending_schedule uri
  · exact h.of_sameFor (sameFor_schedule heq)

/-- To put off a check changes no document. -/
@[simp] theorem store_foldl_schedule (uris : List String) (s : Session) :
    (uris.foldl schedule s).store = s.store := by
  induction uris generalizing s with
  | nil => rfl
  | cons u uris ih => exact ih (s.schedule u)

theorem sameFor_foldl_schedule {uris : List String} (h : uri ∉ uris) (s : Session) :
    SameFor uri s (uris.foldl schedule s) := by
  induction uris generalizing s with
  | nil => exact .refl uri s
  | cons u uris ih =>
    rw [List.mem_cons, not_or] at h
    obtain ⟨hne, hrest⟩ := h
    exact (sameFor_schedule hne).trans (ih hrest (s.schedule u))

/-- The checks of several documents are all to come after they were put off. -/
theorem pending_foldl_schedule {uris : List String} (h : uri ∈ uris) (s : Session) :
    (uris.foldl schedule s).Pending uri := by
  -- what is pending stays so in the rest of the list
  have hkeep (us : List String) (s : Session) (hs : s.Pending uri) :
      (us.foldl schedule s).Pending uri := by
    induction us generalizing s with
    | nil => exact hs
    | cons u us ih => exact ih (s.schedule u) (hs.schedule u)
  induction uris generalizing s with
  | nil => cases h
  | cons u uris ih =>
    rcases List.mem_cons.mp h with rfl | hmem
    · exact hkeep uris _ (s.pending_schedule uri)
    · exact ih hmem (s.schedule u)

/-! ## Closing -/

/-- After a document was closed, nothing is shown for it and nothing is to come. -/
theorem sound_close (s : Session) (plan : Service) (opened : String → Prop) (uri : String) :
    (((s.closeDocument uri).2.cancel uri).tell (.cleared uri)).Sound plan opened uri := by
  have hstore : (s.store.erase uri).2.get? uri = none := s.store.get?_erase_self uri
  have hticket : (s.debounce.cancel uri).current? uri = none := s.debounce.current?_cancel_self uri
  constructor
  · intro t ht
    cases hticket.symm.trans ht
  · intro t ht
    cases hticket.symm.trans ht
  · intro d hd
    cases hstore.symm.trans hd
  · exact fun _ _ => last?_tell_of_concerns (by simp [Notice.concerns])

/-! ## Checks whose time has come -/

/-- To publish adds to the notices or to the journal, and changes nothing else. -/
theorem publish_frame (s : Session) (d : Document) (found : Except Failure (List Diagnostic)) :
    ∃ notices journal, s.publish d found = { s with notices := notices, journal := journal } := by
  cases found with
  | ok diagnostics => exact ⟨_, _, rfl⟩
  | error e =>
    rw [publish]
    split
    · exact ⟨_, _, rfl⟩
    · exact ⟨_, _, rfl⟩

/-- A check changes no document, ticket or timer, and not whether what is found is published; it may
ask for the service. -/
theorem validate_frame (s : Session) (uri : String) :
    (s.validate uri).store = s.store ∧ (s.validate uri).debounce = s.debounce ∧
      (s.validate uri).timers = s.timers ∧ (s.validate uri).enabled = s.enabled ∧
      ((s.validate uri).worker = s.worker ∨ (s.validate uri).worker = s.acquire.2.worker) := by
  rw [validate_eq]
  split
  · exact ⟨rfl, rfl, rfl, rfl, .inl rfl⟩
  · next d _ =>
    split
    · obtain ⟨notices, journal, hpublish⟩ :=
        s.acquire.2.publish_frame d (s.worker.offered.plan.ask d .validate ())
      rw [hpublish]
      exact ⟨rfl, rfl, rfl, rfl, .inr rfl⟩
    · exact ⟨rfl, rfl, rfl, rfl, .inl rfl⟩

/-- After a check that gives an answer, the document is shown as it is. -/
theorem shown_validate {d : Document} (hd : s.store.get? uri = some d)
    (hplan : s.worker.offered.plan = plan)
    (hask : ∃ diagnostics, plan.ask d .validate () = .ok diagnostics) :
    (s.validate uri).Shown plan uri d := by
  obtain ⟨diagnostics, hok⟩ := hask
  rw [Shown, (s.validate_frame uri).2.2.2.1, validate_eq, hd]
  simp only [hplan, hok]
  by_cases henabled : s.enabled
  · rw [if_pos henabled, if_pos henabled]
    refine ⟨diagnostics, rfl, ?_⟩
    rw [publish, last?_tell_of_concerns (by simp [Notice.concerns, Store.uri_of_get? hd]),
      Store.uri_of_get? hd]
  · rw [if_neg henabled, if_neg henabled]
    exact last?_tell_of_concerns (by simp [Notice.concerns])

/-- The session without a ticket and its timer. -/
def spend (s : Session) (t : Ticket) : Session :=
  { s with
    debounce := s.debounce.redeem t
    timers := s.timers.filter fun timer => timer.ticket != t }

theorem fire_eq (s : Session) (t : Ticket) :
    s.fire t = if s.debounce.isCurrent t then (s.spend t).validate t.uri else s.spend t := rfl

/-- A ticket that is not the one of a document can be spent without regard to the document. -/
theorem sameFor_spend {t : Ticket} (h : s.debounce.current? uri ≠ some t) :
    SameFor uri s (s.spend t) where
  document := rfl
  ticket := by
    show (s.debounce.redeem t).current? uri = _
    by_cases hc : s.debounce.isCurrent t
    · have hne : uri ≠ t.uri := by
        rintro rfl
        exact h (Debounce.isCurrent_iff.mp hc)
      rw [Debounce.redeem_of_isCurrent hc, Debounce.current?_cancel_of_ne _ hne]
    · rw [Debounce.redeem_of_not_isCurrent hc]
  timer := by
    rintro t' ht' ⟨timer, hmem, rfl⟩
    have hne : timer.ticket ≠ t := by
      rintro rfl
      exact h ht'
    exact ⟨timer, List.mem_filter.mpr ⟨hmem, by simpa using hne⟩, rfl⟩
  last := rfl
  enabled := rfl

/-- **Firing keeps markers in order.** A ticket that counts is exchanged for a check of the latest
state; one that does not count changes nothing. -/
theorem sound_fire (h : s.Sound plan opened uri) (hplan : s.worker.offered.plan = plan)
    (hask : ∀ d, ∃ diagnostics, plan.ask d .validate () = .ok diagnostics) (t : Ticket) :
    (s.fire t).Sound plan opened uri := by
  rw [fire_eq]
  by_cases hc : s.debounce.current? uri = some t
  · -- the ticket is the one of this document, which is open by the invariant
    obtain rfl : t.uri = uri := Debounce.uri_of_current? hc
    have hcur : s.debounce.isCurrent t := Debounce.isCurrent_iff.mpr hc
    have hticket : (s.spend t).debounce.current? t.uri = none := by
      show (s.debounce.redeem t).current? t.uri = none
      rw [Debounce.redeem_of_isCurrent hcur, Debounce.current?_cancel_self]
    obtain ⟨d, hd⟩ := Option.isSome_iff_exists.mp (h.isOpen_of_ticket t hc)
    obtain ⟨hstore, hdebounce, -, -, -⟩ := (s.spend t).validate_frame t.uri
    rw [if_pos hcur]
    constructor
    · intro t' ht'
      rw [hdebounce, hticket] at ht'
      cases ht'
    · intro t' ht'
      rw [hdebounce, hticket] at ht'
      cases ht'
    · intro d' hd' _
      rw [hstore] at hd'
      exact shown_validate hd' hplan (hask d')
    · intro _ hnone
      rw [hstore] at hnone
      cases hd.symm.trans hnone
  · -- the ticket is an old one, or that of another document
    have hs : SameFor uri s (s.spend t) := sameFor_spend hc
    by_cases hcur : s.debounce.isCurrent t
    · have hne : uri ≠ t.uri := by
        rintro rfl
        exact hc (Debounce.isCurrent_iff.mp hcur)
      rw [if_pos hcur]
      exact h.of_sameFor (hs.trans (sameFor_validate hne)) id
    · rw [if_neg hcur]
      exact h.of_sameFor hs id

/-! ## The plan of the service -/

/-- The service that is handed out next and those that are built follow one plan. -/
def Follows (s : Session) (plan : Service) : Prop :=
  s.worker.offered.plan = plan ∧ s.worker.plan = plan

theorem Follows.acquire (h : s.Follows plan) : s.acquire.2.Follows plan := by
  obtain ⟨hservice, hplan⟩ := h
  exact ⟨by rw [← hservice]; exact congrArg _ (s.worker.offered_acquire s.clock),
    by rw [← hplan]; exact s.worker.plan_acquire s.clock⟩

theorem Follows.reap (h : s.Follows plan) : s.reap.Follows plan := by
  obtain ⟨hservice, hplan⟩ := h
  subst hplan
  exact ⟨Worker.plan_offered_reap hservice s.clock, s.worker.plan_reap s.clock⟩

theorem Follows.validate (h : s.Follows plan) (uri : String) : (s.validate uri).Follows plan := by
  obtain ⟨-, -, -, -, hworker⟩ := s.validate_frame uri
  rcases hworker with hworker | hworker
  · rw [Follows, hworker]
    exact h
  · rw [Follows, hworker]
    exact h.acquire

/-- To put off checks has nothing to do with the plan or with what is published. -/
theorem follows_foldl_schedule (uris : List String) (h : s.Follows plan) :
    (uris.foldl schedule s).Follows plan ∧ (uris.foldl schedule s).enabled = s.enabled := by
  induction uris generalizing s with
  | nil => exact ⟨h, rfl⟩
  | cons u uris ih => exact ih (s := s.schedule u) h

theorem Follows.fire (h : s.Follows plan) (t : Ticket) : (s.fire t).Follows plan := by
  rw [fire_eq]
  have hspend : (s.spend t).Follows plan := h
  split
  · exact hspend.validate t.uri
  · exact hspend

/-! ## Sessions in order -/

/-- A session whose documents are all in order, under a plan and a choice whether what is found is
published. -/
structure InOrder (s : Session) (plan : Service) (enabled : Bool) (opened : String → Prop) :
    Prop where
  enabled_eq : s.enabled = enabled
  follows : s.Follows plan
  sound : ∀ uri, s.Sound plan opened uri

variable {enabled : Bool}

/-- At the beginning, no document is open and none was. -/
theorem inOrder_new (plan : Service) (timeout : Nat) :
    (Session.new plan timeout).InOrder plan true fun _ => False where
  enabled_eq := rfl
  follows := ⟨rfl, rfl⟩
  sound uri := by
    refine ⟨fun t ht => ?_, fun t ht => ?_, fun d hd => ?_, False.elim⟩
    · cases ht
    · cases ht
    · cases hd

/-- A session that differs for no document is in order if it follows the same plan. -/
theorem InOrder.of_sameFor (h : s.InOrder plan enabled opened) (hfollows : s'.Follows plan)
    (hs : ∀ uri, SameFor uri s s') : s'.InOrder plan enabled opened where
  enabled_eq := (hs "").enabled.trans h.enabled_eq
  follows := hfollows
  sound uri := (h.sound uri).of_sameFor (hs uri) id

/-- Fewer documents may count as opened. -/
theorem InOrder.mono (h : s.InOrder plan enabled opened)
    (hopened : ∀ uri, opened' uri → opened uri) : s.InOrder plan enabled opened' where
  enabled_eq := h.enabled_eq
  follows := h.follows
  sound uri := (h.sound uri).of_sameFor (SameFor.refl uri s) (hopened uri)

theorem InOrder.note (h : s.InOrder plan enabled opened) (records : List Record) :
    (s.note records).InOrder plan enabled opened :=
  h.of_sameFor h.follows fun _ => sameFor_note records

theorem InOrder.message (h : s.InOrder plan enabled opened) (text : String) :
    (s.tell (.message text)).InOrder plan enabled opened :=
  h.of_sameFor h.follows fun _ => sameFor_tell (by simp [Notice.concerns])

theorem InOrder.acquire (h : s.InOrder plan enabled opened) :
    s.acquire.2.InOrder plan enabled opened :=
  h.of_sameFor h.follows.acquire fun _ => sameFor_acquire

theorem InOrder.reap (h : s.InOrder plan enabled opened) : s.reap.InOrder plan enabled opened :=
  h.of_sameFor h.follows.reap fun _ => sameFor_reap

/-- The clocks play no part. -/
theorem InOrder.elapse (h : s.InOrder plan enabled opened) (now clock : Nat) :
    InOrder { s with now := now, clock := clock } plan enabled opened :=
  h.of_sameFor h.follows fun _ => ⟨rfl, rfl, fun _ _ htimer => htimer, rfl, rfl⟩

theorem InOrder.startReaping (h : s.InOrder plan enabled opened) :
    s.startReaping.InOrder plan enabled opened :=
  h.of_sameFor (Follows.reap (s := { s with reapers := s.reapers ++ [s.now] }) h.follows)
    fun _ => sameFor_startReaping

/-! ## What happens to documents -/

/-- **A new state of a document.** It is not shown yet, but a check of it is to come. -/
theorem InOrder.openDocument (h : s.InOrder plan enabled opened) (d : Document)
    (records : List Record) :
    (((s.openDocument d).2.note records).schedule d.uri).InOrder plan enabled
      fun uri => opened uri ∨ d.uri = uri where
  enabled_eq := h.enabled_eq
  follows := h.follows
  sound uri := by
    by_cases heq : uri = d.uri
    · subst heq
      refine Sound.of_pending ?_ (pending_schedule _ d.uri)
      show ((s.store.insert d).2.get? d.uri).isSome
      rw [Store.get?_insert_self, Option.isSome_some]
    · refine (h.sound uri).of_sameFor ?_ fun ho => ho.resolve_right fun h' => heq h'.symm
      exact ((sameFor_openDocument heq).trans (sameFor_note records)).trans (sameFor_schedule heq)

/-- An edit of an open document is like opening it in its new state. -/
theorem eq_of_changeDocument? {changes : List Change} {version : Int}
    {d : Document} (h : s.changeDocument? uri changes version = some (d, s')) :
    d.uri = uri ∧ ∃ records, s' = (s.openDocument d).2.note records := by
  rw [changeDocument?, Store.change?, Option.map_map, Option.map_eq_some_iff] at h
  obtain ⟨old, hold, heq⟩ := h
  obtain ⟨rfl, rfl⟩ := Prod.mk.inj heq
  have huri : old.uri = uri := Store.uri_of_get? hold
  exact ⟨huri, s.store.changeRecords uri version, rfl⟩

/-- A document that is closed leaves the others as they are. -/
theorem InOrder.closeDocument (h : s.InOrder plan enabled opened) (uri : String) :
    (((s.closeDocument uri).2.cancel uri).tell (.cleared uri)).InOrder plan enabled opened where
  enabled_eq := h.enabled_eq
  follows := h.follows
  sound other := by
    by_cases heq : other = uri
    · subst heq
      exact s.sound_close plan opened other
    · refine (h.sound other).of_sameFor ?_ id
      refine ((sameFor_closeDocument heq).trans (sameFor_cancel heq)).trans (sameFor_tell ?_)
      simpa [Notice.concerns] using fun h' : uri = other => heq h'.symm

/-! ## Time -/

theorem enabled_fire (s : Session) (t : Ticket) : (s.fire t).enabled = s.enabled := by
  rw [fire_eq]
  split
  · exact ((s.spend t).validate_frame t.uri).2.2.2.1
  · rfl

section Answers

variable (hask : ∀ d, ∃ diagnostics, plan.ask d .validate () = .ok diagnostics)
include hask

/-- **One step of time.** When the time of any ticket comes, all documents stay in order. -/
theorem InOrder.fire (h : s.InOrder plan enabled opened) (t : Ticket) :
    (s.fire t).InOrder plan enabled opened where
  enabled_eq := (s.enabled_fire t).trans h.enabled_eq
  follows := h.follows.fire t
  sound uri := sound_fire (h.sound uri) h.follows.1 hask t

theorem InOrder.keep (h : s.InOrder plan enabled opened) (a : Appointment) :
    (s.keep a).InOrder plan enabled opened := by
  have htime := h.elapse a.time s.clock
  cases htask : a.task with
  | reap =>
    rw [Session.keep, htask]
    exact htime.reap
  | check t =>
    rw [Session.keep, htask]
    exact htime.fire hask t

/-- Whatever is due, and in whatever order, documents stay in order while time passes. -/
theorem InOrder.advance (h : s.InOrder plan enabled opened) (time : Nat) :
    (s.advance time).InOrder plan enabled opened := by
  -- the agenda was made up before; no appointment on it has to be right for this
  have hfold (as : List Appointment) (s : Session) (h : s.InOrder plan enabled opened) :
      (as.foldl Session.keep s).InOrder plan enabled opened := by
    induction as generalizing s with
    | nil => exact h
    | cons a as ih => exact ih (s.keep a) (h.keep hask a)
  exact (hfold _ s h).elapse _ _

end Answers

/-! ## Another plan -/

/-- For a closed document neither the plan counts nor whether what is found is published. -/
theorem Sound.of_closed {plan' : Service} (h : s.Sound plan opened uri)
    (hclosed : s.store.get? uri = none) (hstore : s'.store.get? uri = none)
    (hticket : s'.debounce.current? uri = s.debounce.current? uri)
    (hlast : s'.last? uri = s.last? uri) : s'.Sound plan' opened uri := by
  have hnone (t : Ticket) : s.debounce.current? uri ≠ some t := by
    intro ht
    have hopen := h.isOpen_of_ticket t ht
    rw [hclosed] at hopen
    cases hopen
  refine ⟨fun t ht => ?_, fun t ht => ?_, fun d hd => ?_, fun ho _ => ?_⟩
  · exact absurd (hticket.symm.trans ht) (hnone t)
  · exact absurd (hticket.symm.trans ht) (hnone t)
  · cases hstore.symm.trans hd
  · rw [hlast]
    exact h.cleared ho hclosed

/-- **Another plan.** After it changed, checks of all open documents are put off, so that each is to
come. -/
theorem InOrder.restart {plan' : Service} {enabled' : Bool} (h : s.InOrder plan enabled opened)
    (timeout : Nat) (records : List Record) :
    let s' := Session.note { s.restart plan' timeout with enabled := enabled' } records
    (s'.store.uris.foldl Session.schedule s').InOrder plan' enabled' opened := by
  intro s'
  have hrestarted : s'.Follows plan' := ⟨s.worker.plan_offered_restart plan' timeout, rfl⟩
  obtain ⟨hfollows, henabled⟩ := follows_foldl_schedule s'.store.uris hrestarted
  refine ⟨henabled, hfollows, fun uri => ?_⟩
  -- an open document is among those whose checks are put off; a closed one is left alone
  by_cases hopen : (s'.store.get? uri).isSome
  · refine Sound.of_pending ?_ (pending_foldl_schedule (Store.mem_uris_iff.mpr hopen) s')
    rwa [store_foldl_schedule]
  · have hs : SameFor uri s' (s'.store.uris.foldl Session.schedule s') :=
      sameFor_foldl_schedule (fun hmem => hopen (Store.mem_uris_iff.mp hmem)) s'
    have hclosed : s'.store.get? uri = none := Option.not_isSome_iff_eq_none.mp hopen
    exact (h.sound uri).of_closed hclosed (hs.document.trans hclosed) hs.ticket hs.last

end Session

end CssFragments
