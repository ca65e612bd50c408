import CssFragments.Service
import CssFragments.Session.Debounce
import CssFragments.Session.Store
import CssFragments.Session.Worker

/-! # Sessions

A session knows the open documents and keeps the analysis service. It checks a document when no edit
was made for a while, and publishes what it finds.

* `Notice`: what the client is told without asking.
* `Session.schedule`, `Session.cancel`: put a check off, or drop it.
* `Session.validate`: checks a document now.
* `Session.fire`: what happens when the time of a check has come.

Each operation adds to the notices and to the journal of the session. Times are in milliseconds. -/

namespace CssFragments

/-- What the client is told without asking (`MarkerHost`). -/
inductive Notice where
  /-- What is wrong with a version of a document. -/
  | markers (uri : String) (diagnostics : List Diagnostic) (version : Int)
  /-- Nothing is said about a document any more. -/
  | cleared (uri : String)
  /-- A message for the user. -/
  | message (text : String)

/-- A check that is to be made at a time, unless its ticket no longer counts by then. -/
structure Timer where
  due : Nat
  ticket : Ticket
deriving DecidableEq

/-- The state of a session. -/
structure Session where
  store : Store
  worker : Worker Service
  debounce : Debounce
  /-- Whether what is found is published. -/
  enabled : Bool
  /-- The checks whose time has not come, in the order in which they were put off. -/
  timers : List Timer
  /-- Since when the service is looked after. -/
  reapers : List Nat
  /-- The time by which checks are put off. -/
  now : Nat
  /-- The time by which the service is idle. -/
  clock : Nat
  /-- What the client was told, and when, oldest first. -/
  notices : List (Nat × Notice)
  /-- What was noted, oldest first. -/
  journal : List Record

namespace Session

/-- A session with a plan for the service and the time that it may be idle. -/
def new (service : Service) (timeout : Nat) : Session where
  store := .empty
  worker := .new service timeout 0
  debounce := .empty
  enabled := true
  timers := []
  reapers := []
  now := 0
  clock := 0
  notices := []
  journal := []

/-- Notes something in the journal. -/
def note (s : Session) (records : List Record) : Session :=
  { s with journal := s.journal ++ records }

/-- Tells the client something. -/
def tell (s : Session) (notice : Notice) : Session :=
  { s with notices := s.notices ++ [(s.now, notice)] }

/-- Forgets what was told and noted so far. -/
def flush (s : Session) : Session := { s with notices := [], journal := [] }

/-! ## Documents -/

/-- Opens a document and gives it back. -/
def openDocument (s : Session) (d : Document) : Document × Session :=
  let (d, store) := s.store.insert d
  (d, { s with store := store })

/-- Edits a document, if it is open, and gives the edited one back. -/
def changeDocument? (s : Session) (uri : String) (changes : List Change) (version : Int) :
    Option (Document × Session) :=
  (s.store.change? uri changes version).map fun (d, store) =>
    (d, { s with store := store }.note (s.store.changeRecords uri version))

/-- Closes a document, and tells whether it was open. -/
def closeDocument (s : Session) (uri : String) : Bool × Session :=
  let (wasOpen, store) := s.store.erase uri
  (wasOpen, { s with store := store })

/-! ## The service -/

/-- Asks for the service (`ServiceWorker.acquire`). -/
def acquire (s : Session) : Running Service × Session :=
  let (running, worker) := s.worker.acquire s.clock
  (running, { s with worker := worker }.note s.worker.acquireRecords)

/-- Gives up the service if it was idle for too long (`ServiceWorker.reap_idle`). -/
def reap (s : Session) : Session :=
  { s with worker := (s.worker.reap s.clock).2 }.note (s.worker.reapRecords s.clock)

/-- Gives up the service and builds future ones by another plan (`ServiceWorker.restart`). -/
def restart (s : Session) (service : Service) (timeout : Nat) : Session :=
  { s with worker := s.worker.restart service timeout }.note s.worker.restartRecords

/-- From now on, the service is looked after regularly, and at once (`spawn_reaper`). -/
def startReaping (s : Session) : Session := { s with reapers := s.reapers ++ [s.now] }.reap

/-! ## Checks -/

/-- How long a check is put off. -/
def delay : Nat := 500

/-- Puts off the check of a document, also one that was put off before
(`ValidationScheduler.schedule`). -/
def schedule (s : Session) (uri : String) : Session :=
  { s with
    debounce := s.debounce.schedule uri
    timers := s.timers ++ [⟨s.now + delay, s.debounce.next uri⟩] }

/-- Drops the check of a document (`ValidationScheduler.cancel`). -/
def cancel (s : Session) (uri : String) : Session := { s with debounce := s.debounce.cancel uri }

/-- Publishes what is wrong with a document, or notes why that is not known. A failure that is not
reported ends the check without a word. -/
def publish (s : Session) (d : Document) : Except Failure (List Diagnostic) → Session
  | .ok diagnostics => s.tell (.markers d.uri diagnostics d.version)
  | .error e =>
    if e.isReported then
      s.note [⟨.error, Journal.validation, "Validation of " ++ d.uri ++ " failed: " ++ e.message⟩]
    else s

/-- Checks a document, if it is open, and publishes what is found
(`ValidationScheduler.validate_now`). -/
def validate (s : Session) (uri : String) : Session :=
  match s.store.get? uri with
  | none => s
  | some d =>
    if s.enabled then
      let (running, s) := s.acquire
      s.publish d (running.plan.ask d .validate ())
    else s.tell (.cleared uri)

/-- The time of a ticket has come (`take_if_current`): the ticket is used up, and its document is
checked (`validate_now`) if the ticket still counts. -/
def fire (s : Session) (t : Ticket) : Session :=
  let rest := { s with
    debounce := s.debounce.redeem t
    timers := s.timers.filter fun timer => timer.ticket != t }
  if s.debounce.isCurrent t then rest.validate t.uri else rest

end Session

end CssFragments
