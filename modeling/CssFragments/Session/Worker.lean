import CssFragments.Journal.Source

/-! # The keeper of the analysis service

The analysis service is built when it is first needed. It is given up after some time without a
question, and when the plan by which it was built changes; then the next question builds another
one.

* `WorkerState`: what the keeper says about its service.
* `Worker`: the keeper. What it says, what it holds, and when it was last asked are set one by one.
* `Worker.acquire`: hands out the service, built if none is held.
* `Worker.reap`: gives up a service that was idle for too long.
* `Worker.restart`: gives up the service and changes the plan.

Times are in milliseconds. -/

namespace CssFragments

/-- A service that was built by a plan, with its number among all that were built. -/
structure Running (σ : Type) where
  number : Nat
  plan : σ
deriving DecidableEq

/-- What the keeper says about its service (`WorkerState`). -/
inductive WorkerState where
  /-- None was built since the plan changed. -/
  | unstarted
  /-- There is one. -/
  | active
  /-- The last one was given up after it had been idle. -/
  | idleExpired
deriving DecidableEq

/-- The state in the words of the journal. -/
def WorkerState.describe : WorkerState → String
  | unstarted => "Unstarted"
  | active => "Active"
  | idleExpired => "IdleExpired"

/-- The keeper of a service (`WorkerInner`). -/
structure Worker (σ : Type) where
  state : WorkerState
  /-- The service that is held. -/
  service : Option (Running σ)
  /-- By what the next service is built. -/
  plan : σ
  /-- How long a service may be idle. -/
  timeout : Nat
  /-- When the service was last asked for. -/
  lastUsed : Nat
  /-- How many services were built. -/
  built : Nat
deriving DecidableEq

namespace Worker

variable {σ : Type}

/-- The keeper of a service that nobody has asked for yet (`ServiceWorker.new`). -/
def new (plan : σ) (timeout clock : Nat) : Worker σ :=
  ⟨.unstarted, none, plan, timeout, clock, 0⟩

/-- Hands out the service that is held. If none is, one is built by the plan and held from then on
(`ServiceWorker.acquire`). -/
def acquire (w : Worker σ) (clock : Nat) : Running σ × Worker σ :=
  match w.service with
  | some r => (r, { w with lastUsed := clock })
  | none =>
    let r : Running σ := ⟨w.built, w.plan⟩
    (r, { w with state := .active, service := some r, lastUsed := clock, built := w.built + 1 })

/-- What the journal says when the service is asked for. -/
def acquireRecords (w : Worker σ) : List Record :=
  match w.service with
  | some _ => []
  | none =>
    [⟨.info, Journal.worker, "Starting analysis service (was " ++ w.state.describe ++ ")"⟩]

/-- Whether the service was idle for too long, by what the keeper says. A clock that was set back
counts as no time. -/
def isIdle (w : Worker σ) (clock : Nat) : Bool :=
  w.state == .active && w.timeout ≤ clock - w.lastUsed

/-- Gives up a service that was idle for too long, and tells whether it did
(`ServiceWorker.reap_idle`). -/
def reap (w : Worker σ) (clock : Nat) : Bool × Worker σ :=
  if w.isIdle clock then (true, { w with state := .idleExpired, service := none }) else (false, w)

/-- What the journal says when the service is looked after. -/
def reapRecords (w : Worker σ) (clock : Nat) : List Record :=
  if w.isIdle clock then [⟨.info, Journal.worker, "Stopping idle analysis service"⟩] else []

/-- Gives up the service and builds future ones by another plan (`ServiceWorker.restart`). -/
def restart (w : Worker σ) (plan : σ) (timeout : Nat) : Worker σ :=
  { w with state := .unstarted, service := none, plan := plan, timeout := timeout }

/-- What the journal says when the plan changes. -/
def restartRecords (w : Worker σ) : List Record :=
  if w.service.isSome then [⟨.info, Journal.worker, "Restarting analysis service"⟩] else []

end Worker

end CssFragments
