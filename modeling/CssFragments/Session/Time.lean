import CssFragments.Session.Basic

/-! # The passing of time

As time passes, checks become due, and the service is looked after every half minute. What is due at
one time is done in the order of addresses, after the service was looked after.

* `Task`: what can be due.
* `Session.agenda`: what is due until a given time, in order.
* `Session.advance`: the session after all that was done. -/

namespace CssFragments

/-- What can be due. -/
inductive Task where
  /-- Looking after the service. -/
  | reap
  /-- A check that was put off. -/
  | check (ticket : Ticket)
deriving DecidableEq

/-- The address by which tasks of one time are ordered. -/
def Task.uri : Task → String
  | reap => ""
  | check t => t.uri

/-- A task and its time. -/
structure Appointment where
  time : Nat
  task : Task
deriving DecidableEq

/-- By time, then by address. -/
def Appointment.precedes (a b : Appointment) : Bool :=
  a.time < b.time || (a.time == b.time && decide (a.task.uri ≤ b.task.uri))

namespace Session

/-- How long the service is left alone. -/
def reapInterval : Nat := 30000

/-- The times after `now` until `target` at which the service is looked after, if that began at
`start`. -/
def reapTimes (start now target : Nat) : List Nat :=
  let past := (now - start) / reapInterval
  let count := (target - start) / reapInterval - past
  (List.range count).map fun k => start + (past + k + 1) * reapInterval

/-- What is due until a given time, in order. -/
def agenda (s : Session) (target : Nat) : List Appointment :=
  let reaps := s.reapers.flatMap fun start => reapTimes start s.now target
  let checks := s.timers.filter fun timer => timer.due ≤ target
  let appointments : List Appointment :=
    (reaps.map fun time => ⟨time, .reap⟩) ++
      checks.map fun timer => ⟨timer.due, .check timer.ticket⟩
  appointments.mergeSort Appointment.precedes

/-- Does what is due. -/
def perform (s : Session) : Task → Session
  | .reap => s.reap
  | .check t => s.fire t

/-- Goes on to the time of a task and does it. -/
def keep (s : Session) (a : Appointment) : Session := { s with now := a.time }.perform a.task

/-- Lets time pass. -/
def advance (s : Session) (time : Nat) : Session :=
  let target := s.now + time
  { (s.agenda target).foldl keep s with now := target }

end Session

end CssFragments
