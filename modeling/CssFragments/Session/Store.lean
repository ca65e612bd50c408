import CssFragments.Journal.Source
import CssFragments.Text.Edit

/-! # Open documents

The documents that a client has open, by their addresses, each in its latest state.

* `Store.get?`: the latest state of a document.
* `Store.insert`, `Store.change?`, `Store.erase`: opening, editing and closing, each with what it
  gives back.
* `Store.uris`: the addresses of the open documents, in order.
* `Store.changeRecords`: what the journal says about an edit. -/

namespace CssFragments

/-- The open documents; an address occurs once (`DocumentStore`). -/
structure Store where
  documents : List Document
deriving DecidableEq

namespace Store

/-- No document is open. -/
def empty : Store := ⟨[]⟩

/-- The latest state of a document, if it is open (`DocumentStore.get_document`). -/
def get? (s : Store) (uri : String) : Option Document := s.documents.find? fun d => d.uri == uri

/-- Whether a document is open (`DocumentStore.is_open`). -/
def isOpen (s : Store) (uri : String) : Bool := (s.get? uri).isSome

/-- The documents with other addresses. -/
def without (s : Store) (uri : String) : List Document := s.documents.filter fun d => d.uri != uri

/-- Opens a document, in the place of one with the same address, and gives it back
(`DocumentStore.open_document`). -/
def insert (s : Store) (d : Document) : Document × Store := (d, ⟨d :: s.without d.uri⟩)

/-- Edits a document, if it is open, and gives the edited one back
(`DocumentStore.update_document`). -/
def change? (s : Store) (uri : String) (changes : List Change) (version : Int) :
    Option (Document × Store) :=
  (s.get? uri).map fun d => s.insert (d.edit changes version)

/-- Closes a document, and tells whether it was open (`DocumentStore.close_document`). -/
def erase (s : Store) (uri : String) : Bool × Store := (s.isOpen uri, ⟨s.without uri⟩)

/-- The addresses of the open documents, in order (`DocumentStore.document_uris`). -/
def uris (s : Store) : List String := (s.documents.map (·.uri)).mergeSort

/-! ## What is found afterwards -/

@[simp] theorem get?_empty (uri : String) : empty.get? uri = none := rfl

@[simp] theorem get?_erase_self (s : Store) (uri : String) : (s.erase uri).2.get? uri = none := by
  simp [get?, erase, without]

theorem get?_erase_of_ne (s : Store) {uri other : String} (h : other ≠ uri) :
    (s.erase uri).2.get? other = s.get? other := by
  simp only [get?, erase, without, List.find?_filter]
  congr 1
  funext d
  by_cases hd : d.uri = other <;> simp [hd, h]

@[simp] theorem get?_insert_self (s : Store) (d : Document) :
    (s.insert d).2.get? d.uri = some d := by
  simp [get?, insert]

theorem get?_insert_of_ne (s : Store) (d : Document) {other : String} (h : other ≠ d.uri) :
    (s.insert d).2.get? other = s.get? other := by
  rw [← get?_erase_of_ne s h]
  simp [get?, insert, erase, Ne.symm h]

/-! ## The journal -/

/-- A version has to grow; an edit that does not let it is noted. -/
def changeRecords (s : Store) (uri : String) (version : Int) : List Record :=
  match s.get? uri with
  | none => []
  | some d =>
    if version ≤ d.version then
      [⟨.warn, Journal.store,
        "Version of " ++ uri ++ " went from " ++ toString d.version ++ " to " ++ toString version⟩]
    else []

end Store

end CssFragments
