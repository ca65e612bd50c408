import CssFragments.Text.Basic

/-! # Documents and their edits

A document is the text an editor shows, under its address and version. An edit replaces a range of
the text, or all of it.

* `Change.apply`: one edit; a range whose end precedes its start inserts at the start.
* `Document.edit`: a list of edits, each made on what the ones before it left. -/

namespace CssFragments

/-- The state of one document: its address, the version the editor gave it, and its text
(`DocumentSnapshot`). -/
structure Document where
  uri : String
  version : Int
  text : Text
deriving DecidableEq

/-- New text for a range, or for the whole document if no range is given. -/
structure Change where
  range : Option Range
  text : Text
deriving DecidableEq

/-- The text after one edit (`apply_changes`): `t[..i] ++ text ++ t[j..]` for a range from `i` to
`j`, where `j` is moved to `i` if it comes before it. -/
def Change.apply (change : Change) (t : Text) : Text :=
  match change.range with
  | none => change.text
  | some r =>
    let i := t.indexAt r.start
    let j := max (t.indexAt r.stop) i
    t.take i ++ change.text ++ t.drop j

/-- The text after all edits, made one after the other. -/
def Change.applyAll (changes : List Change) (t : Text) : Text :=
  changes.foldl (fun t change => change.apply t) t

@[simp] theorem Change.applyAll_nil (t : Text) : Change.applyAll [] t = t := rfl

@[simp] theorem Change.applyAll_cons (change : Change) (changes : List Change) (t : Text) :
    Change.applyAll (change :: changes) t = Change.applyAll changes (change.apply t) := rfl

/-- The document after edits that bring it to a new version (`DocumentSnapshot.apply_changes`). -/
def Document.edit (d : Document) (changes : List Change) (version : Int) : Document :=
  { d with version := version, text := Change.applyAll changes d.text }

end CssFragments
