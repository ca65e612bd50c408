/-! # Putting off until edits pause

A document is checked some time after an edit, unless a later edit puts the check off again. Each
edit issues a ticket; when its time has come, a ticket counts only if it is still the current one
for its document.

* `Ticket`: a check that was put off.
* `Debounce.schedule`, `Debounce.cancel`: issue a ticket, or withdraw the current one.
* `Debounce.isCurrent`, `Debounce.redeem`: whether a ticket counts, and its use. -/

namespace CssFragments

/-- A check that was put off: its document, and its number among all that were (`generation`). -/
structure Ticket where
  uri : String
  number : Nat
deriving DecidableEq

/-- The tickets that count, at most one for each document, and the number of those issued
(`ValidationScheduler`). -/
structure Debounce where
  /-- How many tickets were issued (`next_generation`), at most one for each move of a run. -/
  issued : Nat
  /-- The tickets that count (`pending`). -/
  current : List Ticket
deriving DecidableEq

namespace Debounce

/-- No ticket was issued. -/
def empty : Debounce := ⟨0, []⟩

/-- The ticket that counts for a document. -/
def current? (d : Debounce) (uri : String) : Option Ticket :=
  d.current.find? fun t => t.uri == uri

/-- Withdraws the ticket of a document (`ValidationScheduler.cancel`). -/
def cancel (d : Debounce) (uri : String) : Debounce :=
  { d with current := d.current.filter fun t => t.uri != uri }

/-- The ticket that is issued next, if it is for a given document. -/
def next (d : Debounce) (uri : String) : Ticket := ⟨uri, d.issued + 1⟩

/-- Issues the next ticket, in the place of an earlier one for the same document
(`ValidationScheduler.schedule`). -/
def schedule (d : Debounce) (uri : String) : Debounce :=
  ⟨d.issued + 1, d.next uri :: (d.cancel uri).current⟩

/-- Whether a ticket counts. -/
def isCurrent (d : Debounce) (t : Ticket) : Bool := d.current? t.uri == some t

/-- Uses a ticket (`take_if_current`). One that no longer counts changes nothing. -/
def redeem (d : Debounce) (t : Ticket) : Debounce :=
  if d.isCurrent t then d.cancel t.uri else d

/-! ## What counts afterwards -/

@[simp] theorem current?_cancel_self (d : Debounce) (uri : String) :
    (d.cancel uri).current? uri = none := by
  simp [current?, cancel]

theorem current?_cancel_of_ne (d : Debounce) {uri other : String} (h : other ≠ uri) :
    (d.cancel uri).current? other = d.current? other := by
  simp only [current?, cancel, List.find?_filter]
  congr 1
  funext t
  by_cases ht : t.uri = other <;> simp [ht, h]

@[simp] theorem current?_schedule_self (d : Debounce) (uri : String) :
    (d.schedule uri).current? uri = some (d.next uri) := by
  simp [current?, schedule, next]

theorem current?_schedule_of_ne (d : Debounce) {uri other : String} (h : other ≠ uri) :
    (d.schedule uri).current? other = d.current? other := by
  rw [← current?_cancel_of_ne d h]
  simp [current?, schedule, next, Ne.symm h]

end Debounce

end CssFragments
