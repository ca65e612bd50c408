import CssFragments.Proofs.Session.Basic

/-! # The life of a service

The keeper of a service is asked for it, looks after it and is given other plans, in any order and
at any times. What it says, what it holds, the plan, the timeout and the time of the last question
are set by different calls, but they never drift apart: what the keeper does is a matter of the plan
and the timeout that it was given last, the last time it was asked for the service, and whether the
service was given up since.

* `Worker.Call`, `Worker.run`: what can be asked of the keeper, one thing after another.
* `Worker.trace`: each call of a run with the keeper that it found.
* `Worker.Call.GivesUp`: a call that leaves no service behind.
* `Worker.Call.latest`: what the calls of a run said last.
* `Worker.Settled`: what the keeper says is true of what it holds; `Worker.Settled.step` and
  `Worker.Settled.run` keep it so.
* `Worker.isSome_service_run_iff`: when a service is held.
* `Worker.offered_run_iff`: how long the same service is handed out.
* `Worker.lifecycle_run`: all of this for the keeper of a service that nobody has asked for yet. -/

namespace CssFragments

namespace Worker

/-- What can be asked of the keeper of a service. -/
inductive Call (σ : Type) where
  /-- To hand out the service. -/
  | acquire (clock : Nat)
  /-- To look after the service. -/
  | reap (clock : Nat)
  /-- To build services by another plan. -/
  | restart (plan : σ) (timeout : Nat)

variable {σ α : Type}

namespace Call

/-- Whether the service is asked for. -/
def isAcquire : Call σ → Bool
  | acquire _ => true
  | _ => false

/-- When the service is asked for. -/
def used? : Call σ → Option Nat
  | acquire clock => some clock
  | _ => none

/-- The plan that is given. -/
def plan? : Call σ → Option σ
  | restart plan _ => some plan
  | _ => none

/-- The timeout that is given. -/
def timeout? : Call σ → Option Nat
  | restart _ timeout => some timeout
  | _ => none

/-- What the last of some calls said, of those that said anything. -/
def latest (f : Call σ → Option α) (cs : List (Call σ)) : Option α := (cs.filterMap f).getLast?

/-- A keeper to whom the call is made gives its service up. -/
def GivesUp (w : Worker σ) : Call σ → Prop
  | acquire _ => False
  | reap clock => (w.reap clock).1
  | restart _ _ => True

instance (w : Worker σ) : (c : Call σ) → Decidable (c.GivesUp w)
  | acquire _ => inferInstanceAs (Decidable False)
  | reap clock => inferInstanceAs (Decidable ((w.reap clock).1 = true))
  | restart _ _ => inferInstanceAs (Decidable True)

end Call

/-- The keeper after a call. -/
def step (w : Worker σ) : Call σ → Worker σ
  | .acquire clock => (w.acquire clock).2
  | .reap clock => (w.reap clock).2
  | .restart plan timeout => w.restart plan timeout

/-- The keeper after several calls. -/
def run (w : Worker σ) (cs : List (Call σ)) : Worker σ := cs.foldl step w

/-- The calls of a run, each with the keeper that it was made to. -/
def trace (w : Worker σ) : List (Call σ) → List (Worker σ × Call σ)
  | [] => []
  | c :: cs => (w, c) :: (w.step c).trace cs

@[simp] theorem run_nil (w : Worker σ) : w.run [] = w := rfl

@[simp] theorem run_cons (w : Worker σ) (c : Call σ) (cs : List (Call σ)) :
    w.run (c :: cs) = (w.step c).run cs := rfl

@[simp] theorem trace_nil (w : Worker σ) : w.trace [] = [] := rfl

@[simp] theorem trace_cons (w : Worker σ) (c : Call σ) (cs : List (Call σ)) :
    w.trace (c :: cs) = (w, c) :: (w.step c).trace cs := rfl

/-! ## One call -/

theorem fst_reap (w : Worker σ) (clock : Nat) : (w.reap clock).1 = w.isIdle clock := by
  unfold reap
  split <;> simp_all

/-- **What is held after a call.** It is what was handed out, or what was held before and was not
given up. -/
theorem service_step (w : Worker σ) (c : Call σ) :
    (w.step c).service =
      if c.GivesUp w then none
      else if c.isAcquire then some w.offered
      else w.service := by
  cases c with
  | acquire clock => exact w.service_acquire clock
  | reap clock =>
    by_cases h : w.isIdle clock <;> simp [step, reap, Call.isAcquire, Call.GivesUp, h]
  | restart plan timeout => rfl

/-- The same service is handed out after a call, unless it is given up. -/
theorem offered_step {w : Worker σ} {c : Call σ} (h : ¬ c.GivesUp w) :
    (w.step c).offered = w.offered := by
  cases c with
  | acquire clock => exact w.offered_acquire clock
  | reap clock =>
    have hidle : ¬ w.isIdle clock := by rwa [Call.GivesUp, fst_reap] at h
    rw [step, reap, if_neg hidle]
  | restart plan timeout => exact absurd trivial h

theorem plan_step (w : Worker σ) (c : Call σ) : (w.step c).plan = c.plan?.getD w.plan := by
  cases c with
  | acquire clock => exact w.plan_acquire clock
  | reap clock => exact w.plan_reap clock
  | restart plan timeout => rfl

theorem timeout_step (w : Worker σ) (c : Call σ) :
    (w.step c).timeout = c.timeout?.getD w.timeout := by
  cases c with
  | acquire clock =>
    rw [step, acquire]
    split <;> rfl
  | reap clock =>
    rw [step, reap]
    split <;> rfl
  | restart plan timeout => rfl

theorem lastUsed_step (w : Worker σ) (c : Call σ) :
    (w.step c).lastUsed = c.used?.getD w.lastUsed := by
  cases c with
  | acquire clock =>
    rw [step, acquire]
    split <;> rfl
  | reap clock =>
    rw [step, reap]
    split <;> rfl
  | restart plan timeout => rfl

/-- A service is built exactly if it is asked for and none is held. -/
theorem built_step (w : Worker σ) (c : Call σ) :
    (w.step c).built = w.built + if c.isAcquire && w.service.isNone then 1 else 0 := by
  cases c with
  | acquire clock =>
    rw [step, acquire]
    split <;> simp_all [Call.isAcquire]
  | reap clock =>
    rw [step, reap]
    split <;> simp [Call.isAcquire]
  | restart plan timeout => rfl

/-! ## What is said and what is held -/

/-- What the keeper says is true of what it holds: its state is active exactly if it holds a
service, and that one was built before, by the plan that counts now. -/
structure Settled (w : Worker σ) : Prop where
  active_iff : w.state = .active ↔ w.service.isSome
  number_lt : ∀ r, w.service = some r → r.number < w.built
  plan_eq : ∀ r, w.service = some r → r.plan = w.plan

theorem settled_new (plan : σ) (timeout clock : Nat) : (new plan timeout clock).Settled := by
  refine ⟨by simp [new], fun r hr => ?_, fun r hr => ?_⟩
  · cases hr
  · cases hr

/-- **One call.** The fields that say something and those that hold something are set together. -/
theorem Settled.step {w : Worker σ} (h : w.Settled) (c : Call σ) : (w.step c).Settled := by
  cases c with
  | acquire clock =>
    rw [Worker.step, acquire]
    split
    · exact ⟨h.active_iff, h.number_lt, h.plan_eq⟩
    · -- the service that is built is the first one with its number
      refine ⟨by simp, fun r hr => ?_, fun r hr => ?_⟩
      · obtain rfl := Option.some.inj hr
        exact Nat.lt_succ_self w.built
      · obtain rfl := Option.some.inj hr
        rfl
  | reap clock =>
    rw [Worker.step, reap]
    split
    · refine ⟨by simp, fun r hr => ?_, fun r hr => ?_⟩
      · cases hr
      · cases hr
    · exact h
  | restart plan timeout =>
    refine ⟨by simp [Worker.step, restart], fun r hr => ?_, fun r hr => ?_⟩
    · cases hr
    · cases hr

/-- **A run.** Whatever is asked of it in whatever order, a keeper says what is true. -/
theorem Settled.run {w : Worker σ} (h : w.Settled) (cs : List (Call σ)) : (w.run cs).Settled := by
  induction cs generalizing w with
  | nil => exact h
  | cons c cs ih => exact ih (h.step c)

/-- The service that is handed out follows the plan. -/
theorem Settled.plan_offered {w : Worker σ} (h : w.Settled) : w.offered.plan = w.plan := by
  rw [offered]
  cases hservice : w.service with
  | none => rfl
  | some r => exact h.plan_eq r hservice

theorem Settled.isNone_eq {w : Worker σ} (h : w.Settled) :
    w.service.isNone = (w.state != .active) := by
  rw [Bool.eq_iff_iff, bne_iff_ne, ne_eq, h.active_iff]
  simp

/-- As many services are built as are asked for while the state is not active. -/
theorem Settled.built_run {w : Worker σ} (h : w.Settled) (cs : List (Call σ)) :
    (w.run cs).built =
      w.built + (w.trace cs).countP fun x => x.2.isAcquire && x.1.state != .active := by
  induction cs generalizing w with
  | nil => rfl
  | cons c cs ih =>
    rw [run_cons, ih (h.step c), built_step, trace_cons, List.countP_cons, h.isNone_eq]
    dsimp only
    omega

/-! ## Whether a service is held -/

/-- Without being asked for it, nobody builds a service. -/
theorem service_run_of_not_isAcquire {w : Worker σ} (h : w.service = none)
    {cs : List (Call σ)} (hcs : ∀ c ∈ cs, ¬ c.isAcquire) : (w.run cs).service = none := by
  induction cs generalizing w with
  | nil => exact h
  | cons c cs ih =>
    obtain ⟨hc, hrest⟩ := List.forall_mem_cons.mp hcs
    refine ih ?_ hrest
    rw [service_step, if_neg hc, h, ite_self]

/-- **When a service is held.** It was held and nothing gave it up, or it was asked for and nothing
gave it up since. -/
theorem isSome_service_run_iff (w : Worker σ) (cs : List (Call σ)) :
    (w.run cs).service.isSome ↔
      (w.service.isSome ∧ ∀ x ∈ w.trace cs, ¬ x.2.GivesUp x.1) ∨
      ∃ pre clock post, cs = pre ++ .acquire clock :: post ∧
        ∀ x ∈ ((w.run pre).acquire clock).2.trace post, ¬ x.2.GivesUp x.1 := by
  induction cs generalizing w with
  | nil => simp
  | cons c cs ih =>
    rw [run_cons, ih, trace_cons, List.forall_mem_cons, service_step]
    constructor
    · rintro (⟨hsome, hquiet⟩ | ⟨pre, clock, post, rfl, hquiet⟩)
      · split at hsome
        · cases hsome
        · next hkept =>
          cases c with
          | acquire clock => exact .inr ⟨[], clock, cs, rfl, hquiet⟩
          | reap clock => exact .inl ⟨hsome, hkept, hquiet⟩
          | restart plan timeout => exact absurd trivial hkept
      · exact .inr ⟨c :: pre, clock, post, rfl, hquiet⟩
    · rintro (⟨hsome, hkept, hquiet⟩ | ⟨pre, clock, post, hcs, hquiet⟩)
      · refine .inl ⟨?_, hquiet⟩
        rw [if_neg hkept]
        split
        · rfl
        · exact hsome
      · -- the call that counts is the first one, or one of the others
        rcases List.cons_eq_append_iff.mp hcs with ⟨rfl, hcs⟩ | ⟨pre, rfl, rfl⟩
        · obtain ⟨rfl, rfl⟩ := List.cons_eq_cons.mp hcs
          exact .inl ⟨rfl, hquiet⟩
        · exact .inr ⟨pre, clock, post, rfl, hquiet⟩

/-! ## Which service is handed out -/

/-- Services that are built later have larger numbers than one that was given up. -/
theorem le_number_offered_run {w : Worker σ} {k : Nat} (hbuilt : k ≤ w.built)
    (hoffered : k ≤ w.offered.number) (cs : List (Call σ)) : k ≤ (w.run cs).offered.number := by
  induction cs generalizing w with
  | nil => exact hoffered
  | cons c cs ih =>
    have hbuilt' : k ≤ (w.step c).built := by
      rw [built_step]
      omega
    refine ih hbuilt' ?_
    by_cases hc : c.GivesUp w
    · -- the next one will be the first that is built from now on
      rw [offered, service_step, if_pos hc]
      exact hbuilt'
    · rw [offered_step hc]
      exact hoffered

/-- **The same service is handed out** as long as nothing gives it up, and no longer. -/
theorem offered_run_iff {w : Worker σ} (hw : w.Settled) (h : w.service.isSome)
    (cs : List (Call σ)) :
    (w.run cs).offered = w.offered ↔ ∀ x ∈ w.trace cs, ¬ x.2.GivesUp x.1 := by
  induction cs generalizing w with
  | nil => simp
  | cons c cs ih =>
    rw [run_cons, trace_cons, List.forall_mem_cons]
    by_cases hc : c.GivesUp w
    · -- all services from now on have larger numbers than the one that is given up
      refine iff_of_false (fun heq => ?_) fun hkept => hkept.1 hc
      obtain ⟨r, hr⟩ := Option.isSome_iff_exists.mp h
      have hlt := hw.number_lt r hr
      have hstep : w.built ≤ (w.step c).built := by
        rw [built_step]
        omega
      have hle := le_number_offered_run hstep
        (by rw [offered, service_step, if_pos hc]; exact hstep) cs
      rw [heq, offered, hr, Option.getD_some] at hle
      omega
    · have hsome : (w.step c).service.isSome := by
        rw [service_step, if_neg hc]
        split
        · rfl
        · exact h
      rw [← offered_step hc, ih (hw.step c) hsome]
      exact ⟨fun hkept => ⟨hc, hkept⟩, fun hkept => hkept.2⟩

/-! ## Whole runs -/

/-- **When a service is given up.** The state must be active, and the time since the service was
last asked for must be at least the timeout that was given last. A clock that was set back counts as
no time. -/
theorem isIdle_run_iff (plan : σ) (timeout clock : Nat) (cs : List (Call σ)) (now : Nat) :
    ((new plan timeout clock).run cs).isIdle now ↔
      ((new plan timeout clock).run cs).state = .active ∧
        ∃ t, Call.latest Call.used? cs = some t ∧
          (Call.latest Call.timeout? cs).getD timeout ≤ now - t := by
  have htimeout := foldl_eq_latest timeout_step (new plan timeout clock) cs
  have hused := foldl_eq_latest lastUsed_step (new plan timeout clock) cs
  rw [← run] at htimeout hused
  rw [isIdle, Bool.and_eq_true, beq_iff_eq, decide_eq_true_iff, htimeout, hused, Call.latest,
    Call.latest]
  refine and_congr_right fun hactive => ?_
  cases hlatest : (cs.filterMap Call.used?).getLast? with
  | some t => simp [new]
  | none =>
    -- there would be no service that was never asked for
    have hnone : ∀ c ∈ cs, ¬ c.isAcquire := by
      intro c hc hacquire
      have hnil := List.filterMap_eq_nil_iff.mp (List.getLast?_eq_none_iff.mp hlatest) c hc
      cases c <;> cases hacquire
      cases hnil
    rw [((settled_new plan timeout clock).run cs).active_iff,
      service_run_of_not_isAcquire rfl hnone] at hactive
    cases hactive

/-- **The life of a service over whole runs.** After any calls at any times:
the state is active exactly if a service is held, and that is so exactly if the service was asked
for and nothing gave it up since;
who asks for the service is handed one that is held from then on, and it was built by the plan that
was given last;
who asks again is handed the same one exactly if nothing gave it up in between;
as many services were built as were asked for while the state was not active;
looking after the service gives it up, and says so, exactly if the state is active and the time
since it was last asked for is at least the timeout that was given last;
and once that happened, it does not happen again before the service is asked for. -/
theorem lifecycle_run (plan : σ) (timeout clock : Nat) (cs : List (Call σ)) :
    let start := new plan timeout clock
    let w := start.run cs
    (w.state = .active ↔ w.service.isSome) ∧
    (w.service.isSome ↔ ∃ pre t post, cs = pre ++ .acquire t :: post ∧
      ∀ x ∈ ((start.run pre).acquire t).2.trace post, ¬ x.2.GivesUp x.1) ∧
    (∀ t, (w.acquire t).2.service = some (w.acquire t).1 ∧
      (w.acquire t).1.plan = (Call.latest Call.plan? cs).getD plan) ∧
    (∀ t mid t', (((w.acquire t).2.run mid).acquire t').1 = (w.acquire t).1 ↔
      ∀ x ∈ (w.acquire t).2.trace mid, ¬ x.2.GivesUp x.1) ∧
    (w.built = (start.trace cs).countP fun x => x.2.isAcquire && x.1.state != .active) ∧
    (∀ now, ((w.reap now).1 ↔ w.state = .active ∧ ∃ t, Call.latest Call.used? cs = some t ∧
        (Call.latest Call.timeout? cs).getD timeout ≤ now - t) ∧
      (w.reap now).2 = if (w.reap now).1 then { w with state := .idleExpired, service := none }
        else w) ∧
    (∀ now rest, (w.reap now).1 → (∀ c ∈ rest, ¬ c.isAcquire) →
      ∀ now', ¬ (((w.reap now).2.run rest).reap now').1) := by
  intro start w
  have hstart : start.Settled := settled_new plan timeout clock
  have hw : w.Settled := hstart.run cs
  refine ⟨hw.active_iff, ?_, fun t => ⟨?_, ?_⟩, fun t mid t' => ?_, ?_, fun now => ⟨?_, ?_⟩, ?_⟩
  · -- at the start there is no service
    refine (start.isSome_service_run_iff cs).trans (or_iff_right ?_)
    rintro ⟨hsome, -⟩
    cases hsome
  · rw [service_acquire, fst_acquire]
  · rw [fst_acquire, hw.plan_offered]
    exact foldl_eq_latest plan_step start cs
  · have hacquired : (w.acquire t).2.Settled := hw.step (.acquire t)
    rw [fst_acquire, fst_acquire, ← offered_acquire w t,
      offered_run_iff hacquired (by rw [service_acquire]; rfl)]
  · exact (hstart.built_run cs).trans (Nat.zero_add _)
  · rw [fst_reap]
    exact isIdle_run_iff plan timeout clock cs now
  · unfold reap
    split <;> rfl
  · intro now rest hreaped hrest now' hagain
    have hgone : (w.reap now).2.service = none :=
      (w.service_step (.reap now)).trans (if_pos hreaped)
    have hlater : ((w.reap now).2.run rest).Settled := (hw.step (.reap now)).run rest
    rw [fst_reap, isIdle, Bool.and_eq_true, beq_iff_eq, hlater.active_iff,
      service_run_of_not_isAcquire hgone hrest] at hagain
    cases hagain.1

/-- The service is asked for at the times 5 and 10, looked after too early and then in time, asked
for again, and once more after the plan was changed. -/
def errands : List (Call Nat) :=
  [.acquire 5, .acquire 10, .reap 39, .reap 40, .acquire 60, .restart 7 3, .acquire 61]

/-- With a timeout of 30, a service that was asked for at the time 10 is given up from the time 40
on, and only once. Who asks for it at the time 20 delays this. In the whole run, three services are
built, and the last one follows the new plan. -/
theorem lifecycle_run_errands :
    let w := (new 1 30 0).run [.acquire 5, .acquire 10]
    let last := (new 1 30 0).run errands
    (w.state = .active ∧ w.service.isSome) ∧ (w.reap 40).1 ∧ ¬ (w.reap 39).1 ∧
      (∀ now, ¬ (((w.reap 40).2.run [.reap 50, .restart 7 3]).reap now).1) ∧
      (((w.acquire 20).2.run [.reap 40]).acquire 41).1 = (w.acquire 20).1 ∧
      (((w.acquire 20).2.run [.reap 50]).acquire 51).1 ≠ (w.acquire 20).1 ∧
      (last.acquire 62).1.plan = 7 ∧ last.built = 3 := by
  intro w last
  obtain ⟨hstate, hheld, -, hsame, -, hreap, honce⟩ :=
    lifecycle_run 1 30 0 [.acquire 5, .acquire 10]
  obtain ⟨-, -, hplan, -, hbuilt, -, -⟩ := lifecycle_run 1 30 0 errands
  have hsome := hheld.mpr ⟨[.acquire 5], 10, [], rfl, by decide⟩
  have hactive := hstate.mpr hsome
  have hreap40 := (hreap 40).1.mpr ⟨hactive, 10, rfl, by decide⟩
  refine ⟨⟨hactive, hsome⟩, hreap40, mt (hreap 39).1.mp ?_, honce 40 _ hreap40 (by decide),
    (hsame 20 [.reap 40] 41).mpr (by decide), mt (hsame 20 [.reap 50] 51).mp (by decide),
    (hplan 62).2, hbuilt⟩
  rintro ⟨-, t, ht, hle⟩
  obtain rfl := Option.some.inj ht
  exact absurd hle (by decide)

end Worker

end CssFragments
