import CssFragments.Proofs.Frame.Results
import CssFragments.Proofs.Outline
import Mathlib.Data.Nat.Count

/-! # What moves up in an outline

Entries outside the fragment are left out of an outline, at any level, and what is below them takes
their place. To say where the others are afterwards, all entries are numbered in the order in which
they are listed.

* `Symbol.Row`, `Symbol.rows`: the entries with their numbers and with those above them.
* `Shift.selects_symbolInfo?`: which entries are kept, and what changes about them.
* `Shift.rowsFrom_symbols`: where the entries are that are kept.
* `Shift.symbols_hoisted`: nothing is lost, and each entry is below the nearest one that is kept. -/

namespace CssFragments

namespace Symbol

/-! ## Numbered entries -/

/-- An entry of an outline with its number, and with the numbers of the entries above it, innermost
first. -/
structure Row where
  number : Nat
  info : SymbolInfo
  above : List Nat

mutual

/-- An entry and all entries below it, numbered from `k` on. -/
def rowsOf (k : Nat) (above : List Nat) : Symbol → List Row
  | node i children => ⟨k, i, above⟩ :: rowsBelow (k + 1) (k :: above) children
termination_by structural n => n

/-- The entries below an entry, if they are listed. -/
def rowsBelow (k : Nat) (above : List Nat) : Option (List Symbol) → List Row
  | none => []
  | some children => rowsFrom k above children
termination_by structural children => children

/-- All entries of an outline, numbered from `k` on in the order of the listing. -/
def rowsFrom (k : Nat) (above : List Nat) : List Symbol → List Row
  | [] => []
  | n :: rest => rowsOf k above n ++ rowsFrom (k + n.listingOf.length) above rest
termination_by structural ns => ns

end

/-- All entries of an outline with their numbers. -/
def rows (ss : List Symbol) : List Row := rowsFrom 0 [] ss

/-- The number of the entry right above. -/
def Row.parent? (r : Row) : Option Nat := r.above.head?

/-- Induction over outlines from the first entry on: over what is below it, and what follows. -/
theorem outline_induction {motive : List Symbol → Prop} (nil : motive [])
    (cons : ∀ i children rest, motive (children.getD []) → motive rest →
      motive (.node i children :: rest)) (ss : List Symbol) : motive ss := by
  have hlist (cs : List Symbol) (h : ∀ c ∈ cs, ∀ rest, motive rest → motive (c :: rest)) :
      motive cs := by
    induction cs with
    | nil => exact nil
    | cons c cs ih =>
      obtain ⟨hc, hcs⟩ := List.forall_mem_cons.mp h
      exact hc cs (ih hcs)
  have hentry (n : Symbol) : ∀ rest, motive rest → motive (n :: rest) := by
    induction n with
    | node i children ih => exact fun rest hrest => cons i children rest (hlist _ ih) hrest
  exact hlist ss fun n _ => hentry n

theorem rowsBelow_eq (k : Nat) (above : List Nat) (children : Option (List Symbol)) :
    rowsBelow k above children = rowsFrom k above (children.getD []) := by
  cases children <;> rfl

theorem listing_cons (i : SymbolInfo) (children : Option (List Symbol)) (rest : List Symbol) :
    listing (.node i children :: rest) = i :: (listing (children.getD []) ++ listing rest) := by
  rw [listing, listingOf, listingBelow_eq, List.cons_append]

theorem rowsFrom_cons (k : Nat) (above : List Nat) (i : SymbolInfo)
    (children : Option (List Symbol)) (rest : List Symbol) :
    rowsFrom k above (.node i children :: rest) =
      ⟨k, i, above⟩ :: (rowsFrom (k + 1) (k :: above) (children.getD []) ++
        rowsFrom (k + 1 + (listing (children.getD [])).length) above rest) := by
  rw [rowsFrom, rowsOf, rowsBelow_eq, listingOf, listingBelow_eq, List.length_cons,
    Nat.add_right_comm, List.cons_append]
  rfl

theorem rowsFrom_append (k : Nat) (above : List Nat) (ss ss' : List Symbol) :
    rowsFrom k above (ss ++ ss') =
      rowsFrom k above ss ++ rowsFrom (k + (listing ss).length) above ss' := by
  induction ss generalizing k with
  | nil => rfl
  | cons n rest ih =>
    rw [List.cons_append, rowsFrom, rowsFrom, ih, List.append_assoc, listing, List.length_append,
      Nat.add_assoc]

/-- The numbers count the entries of the listing. -/
theorem map_rowsFrom (k : Nat) (above : List Nat) (ss : List Symbol) :
    (rowsFrom k above ss).map (fun r => (r.info, r.number)) = (listing ss).zipIdx k := by
  induction ss using outline_induction generalizing k above with
  | nil => rfl
  | cons i children rest ihchildren ihrest =>
    rw [rowsFrom_cons, listing_cons, List.map_cons, List.map_append, ihchildren, ihrest,
      List.zipIdx_cons, List.zipIdx_append]

end Symbol

/-! ## Entries in a frame -/

namespace Shift

/-- Both ranges of an entry were moved, and nothing else of it. -/
structure InfoMoves (s : Shift) (i i' : SymbolInfo) : Prop where
  range : s.leaveRange? i.range = some i'.range
  selectionRange : s.leaveRange? i.selectionRange = some i'.selectionRange
  unchanged : i' = { i with range := i'.range, selectionRange := i'.selectionRange }

/-- Whether both ranges of an entry are in the fragment. -/
def holdsInfo (s : Shift) (i : SymbolInfo) : Bool := s.holds i.range && s.holds i.selectionRange

/-- **Entries.** An entry is kept exactly if the fragment holds both its ranges. -/
theorem selects_symbolInfo? (s : Shift) : Selects s.holdsInfo s.InfoMoves s.symbolInfo? := by
  refine selects_iff.mpr fun i => ⟨fun h => ?_, fun h => ?_⟩
  · obtain ⟨hrange, hselection⟩ := Bool.and_eq_true_iff.mp h
    obtain ⟨range, hr, -⟩ := s.selects_leaveRange?.of_pos hrange
    obtain ⟨selectionRange, hs, -⟩ := s.selects_leaveRange?.of_pos hselection
    exact ⟨{ i with range := range, selectionRange := selectionRange },
      by simp [symbolInfo?, hr, hs], hr, hs, rfl⟩
  · by_cases hrange : s.holds i.range
    · have hselection : ¬ s.holds i.selectionRange := fun hs => h (by simp [holdsInfo, hrange, hs])
      simp [symbolInfo?, s.selects_leaveRange?.of_neg hselection]
    · simp [symbolInfo?, s.selects_leaveRange?.of_neg hrange]

/-- The numbers of the entries of an outline that are kept. -/
def Kept (s : Shift) (ss : List Symbol) (k : Nat) : Prop :=
  ∃ i ∈ (Symbol.listing ss)[k]?, s.holdsInfo i

instance (s : Shift) (ss : List Symbol) : DecidablePred (s.Kept ss) := fun k =>
  inferInstanceAs (Decidable (∃ i ∈ (Symbol.listing ss)[k]?, s.holdsInfo i))

theorem rowsFrom_hoist_some (k : Nat) (above : List Nat) (i : SymbolInfo)
    (children : Option (List Symbol)) :
    Symbol.rowsFrom k above (hoist (some i) children) =
      ⟨k, i, above⟩ :: Symbol.rowsFrom (k + 1) (k :: above) (children.getD []) := by
  rw [hoist, Symbol.rowsFrom_cons, Symbol.rowsFrom, List.append_nil]

/-- An entry of the fragment with its new number and with the new numbers of those above it that are
kept. -/
def moveRow? (s : Shift) (kept : Nat → Prop) [DecidablePred kept] (r : Symbol.Row) :
    Option Symbol.Row :=
  (s.symbolInfo? r.info).map fun i =>
    ⟨Nat.count kept r.number, i, (r.above.filter kept).map (Nat.count kept)⟩

theorem symbols_cons (s : Shift) (i : SymbolInfo) (children : Option (List Symbol))
    (rest : List Symbol) :
    s.symbols (.node i children :: rest) =
      hoist (s.symbolInfo? i) (s.symbolsBelow children) ++ s.symbols rest := by
  rw [symbols, symbol]

/-- As many new numbers are given as there are entries that are kept. -/
theorem count_add_length {s : Shift} {kept : Nat → Prop} [DecidablePred kept] {k : Nat}
    {is : List SymbolInfo} (h : ∀ x ∈ is.zipIdx k, kept x.2 ↔ s.holdsInfo x.1) :
    Nat.count kept (k + is.length) = Nat.count kept k + (is.filterMap s.symbolInfo?).length := by
  induction is generalizing k with
  | nil => rfl
  | cons i is ih =>
    rw [List.zipIdx_cons, List.forall_mem_cons] at h
    obtain ⟨hi, his⟩ := h
    have hlength : k + (i :: is).length = k + 1 + is.length := by
      rw [List.length_cons]
      omega
    rw [hlength, ih his, Nat.count_succ]
    by_cases hkept : kept k
    · obtain ⟨i', hi', -⟩ := s.selects_symbolInfo?.of_pos (hi.mp hkept)
      rw [if_pos hkept, List.filterMap_cons_some hi', List.length_cons]
      omega
    · have hi' := s.selects_symbolInfo?.of_neg (mt hi.mpr hkept)
      rw [if_neg hkept, List.filterMap_cons_none hi', Nat.add_zero]

/-- **Where the entries are that are kept.** If it is known by their numbers which ones are kept,
those above an entry are the ones that are kept of those that were above it. -/
theorem rowsFrom_symbols (s : Shift) (kept : Nat → Prop) [DecidablePred kept] (k : Nat)
    (above : List Nat) (ss : List Symbol)
    (h : ∀ x ∈ (Symbol.listing ss).zipIdx k, kept x.2 ↔ s.holdsInfo x.1) :
    Symbol.rowsFrom (Nat.count kept k) ((above.filter kept).map (Nat.count kept)) (s.symbols ss) =
      (Symbol.rowsFrom k above ss).filterMap (s.moveRow? kept) := by
  induction ss using Symbol.outline_induction generalizing k above with
  | nil => rfl
  | cons i children rest ihchildren ihrest =>
    rw [Symbol.listing_cons, List.zipIdx_cons, List.zipIdx_append, List.forall_mem_cons,
      List.forall_mem_append] at h
    obtain ⟨hi, hchildren, hrest⟩ := h
    have hrows := ihchildren (k + 1) (k :: above) hchildren
    have hrows' := ihrest _ above hrest
    rw [count_add_length hchildren, ← listing_symbols] at hrows'
    rw [Symbol.rowsFrom_cons, symbols_cons, Symbol.rowsFrom_append, Symbol.listing_hoist,
      getD_symbolsBelow, List.length_append, ← Nat.add_assoc]
    by_cases hkept : kept k
    · -- the entry has a new number, and it is above what was below it
      obtain ⟨i', hi', -⟩ := s.selects_symbolInfo?.of_pos (hi.mp hkept)
      have hmove : s.moveRow? kept ⟨k, i, above⟩ =
          some ⟨Nat.count kept k, i', (above.filter kept).map (Nat.count kept)⟩ := by
        simp [moveRow?, hi']
      rw [Nat.count_succ, if_pos hkept] at hrows hrows'
      rw [List.filter_cons_of_pos (by simpa using hkept), List.map_cons] at hrows
      rw [hi', rowsFrom_hoist_some, getD_symbolsBelow, hrows, List.filterMap_cons_some hmove,
        List.filterMap_append, ← hrows']
      rfl
    · -- what was below the entry takes its place
      have hi' := s.selects_symbolInfo?.of_neg (mt hi.mpr hkept)
      have hmove : s.moveRow? kept ⟨k, i, above⟩ = none := by simp [moveRow?, hi']
      rw [Nat.count_succ, if_neg hkept, Nat.add_zero] at hrows hrows'
      rw [List.filter_cons_of_neg (by simpa using hkept)] at hrows
      rw [hi', hoist, getD_symbolsBelow, hrows, List.filterMap_cons_none hmove,
        List.filterMap_append, ← hrows']
      rfl

/-- **Nothing is lost when entries move up.** The rows of an outline are its listing with numbers.
An entry is kept exactly if both its ranges are in the fragment; these are moved, and nothing else
of it changes. The listing of what is left is the old one without the others, in its order. The new
number of an entry is how many are kept before it, and the entry right above it is the nearest one
that was above it and is kept; if there is none, it is at the top. -/
theorem symbols_hoisted (s : Shift) (ss : List Symbol) :
    (∀ ss, (Symbol.rows ss).map (fun r => (r.info, r.number)) = (Symbol.listing ss).zipIdx) ∧
    Selects s.holdsInfo s.InfoMoves s.symbolInfo? ∧
    Symbol.listing (s.symbols ss) = (Symbol.listing ss).filterMap s.symbolInfo? ∧
    (Symbol.rows (s.symbols ss)).map (fun r => (r.number, r.info, r.parent?)) =
      (Symbol.rows ss).filterMap fun r => (s.symbolInfo? r.info).map fun i =>
        (Nat.count (s.Kept ss) r.number, i,
          (r.above.find? (s.Kept ss ·)).map (Nat.count (s.Kept ss))) := by
  refine ⟨Symbol.map_rowsFrom 0 [], s.selects_symbolInfo?, s.listing_symbols ss, ?_⟩
  have hkept : ∀ x ∈ (Symbol.listing ss).zipIdx, s.Kept ss x.2 ↔ s.holdsInfo x.1 := by
    intro x hx
    rw [List.mem_zipIdx_iff_getElem?] at hx
    simp [Kept, hx]
  have hrows := s.rowsFrom_symbols (s.Kept ss) 0 [] ss hkept
  rw [Nat.count_zero] at hrows
  rw [Symbol.rows, show Symbol.rowsFrom 0 [] (s.symbols ss) = _ from hrows, List.map_filterMap]
  congr 1
  funext r
  simp [moveRow?, Symbol.Row.parent?, List.head?_filter, Function.comp_def]

end Shift

end CssFragments
