import CssFragments.Proofs.Session.Basic
import Mathlib.Data.List.Induction

/-! # What a store remembers of a document

Documents are opened, edited and closed in any order, also such that are open already and such that
are not. Seen from one document, most of this does not show: a store knows the document as it was
last opened, with the edits that were made to it since, and nothing after it was closed.

* `Store.Action`, `Store.run`: what is done with documents, one thing after another.
* `Store.reply`: what is answered to each.
* `Document.replay`: a document after several edits.
* `Store.Action.OpenSince`: how a document was last opened, and what was done since.
* `Store.get?_step`: an action does something to one document only.
* `Store.get?_run_iff`: what is known of a document.
* `Store.run_replays`: all of this for a store that was empty before. -/

namespace CssFragments

/-! ## Edits, one after another -/

/-- An edit of a document: the changes to its text and the version that they lead to. -/
structure Update where
  changes : List Change
  version : Int
deriving DecidableEq

/-- A document after updates. Each of them changes the text that the ones before it left, and the
last one gives the version. -/
def Document.replay (d : Document) (us : List Update) : Document where
  uri := d.uri
  version := (us.getLast?.map Update.version).getD d.version
  text := us.foldl (fun t u => Change.applyAll u.changes t) d.text

@[simp] theorem Document.replay_nil (d : Document) : d.replay [] = d := rfl

@[simp] theorem Document.replay_singleton (d : Document) (u : Update) :
    d.replay [u] = d.edit u.changes u.version := rfl

theorem Document.replay_append (d : Document) (us vs : List Update) :
    d.replay (us ++ vs) = (d.replay us).replay vs := by
  cases hlast : vs.getLast? <;> simp [replay, List.getLast?_append, hlast]

namespace Store

/-! ## Actions -/

/-- What is done with documents. -/
inductive Action where
  /-- A document is opened. -/
  | insert (d : Document)
  /-- A document is edited. -/
  | change (uri : String) (u : Update)
  /-- A document is closed. -/
  | erase (uri : String)
deriving DecidableEq

/-- What is answered to an action. -/
inductive Reply where
  /-- The document as it is now, unless it is not open. -/
  | document (d : Option Document)
  /-- Whether there was a document to close. -/
  | closed (wasOpen : Bool)
deriving DecidableEq

namespace Action

/-- The document that an action is about. -/
def uri : Action → String
  | insert d => d.uri
  | change uri _ => uri
  | erase uri => uri

/-- Whether an action opens or closes a document, so that what was done to it before is void. -/
def Resets (uri : String) : Action → Prop
  | insert d => d.uri = uri
  | change _ _ => False
  | erase other => other = uri

instance (uri : String) : (a : Action) → Decidable (a.Resets uri)
  | insert d => inferInstanceAs (Decidable (d.uri = uri))
  | change _ _ => inferInstanceAs (Decidable False)
  | erase other => inferInstanceAs (Decidable (other = uri))

theorem uri_of_resets {uri : String} {a : Action} (h : a.Resets uri) : a.uri = uri := by
  cases a with
  | insert d => exact h
  | change _ _ => cases h
  | erase other => exact h

/-- The update of a document that an action is. -/
def update? (uri : String) : Action → Option Update
  | change other u => if other = uri then some u else none
  | _ => none

/-- What an action makes of its document. -/
def effect : Action → Option Document → Option Document
  | insert d, _ => some d
  | change _ u, d => d.map (·.edit u.changes u.version)
  | erase _, _ => none

/-- The document `uri` was last opened as `opened`, it was not closed since, and `post` is what was
done since, to this document and to others. -/
structure OpenSince (as : List Action) (uri : String) (opened : Document) (post : List Action) :
    Prop where
  uri_eq : opened.uri = uri
  eq_append : ∃ pre, as = pre ++ insert opened :: post
  not_resets : ∀ a ∈ post, ¬ a.Resets uri

end Action

/-- The store after an action. An edit of a document that is not open has no effect. -/
def step (s : Store) : Action → Store
  | .insert d => (s.insert d).2
  | .change uri u => ((s.change? uri u.changes u.version).map Prod.snd).getD s
  | .erase uri => (s.erase uri).2

/-- What is answered to an action. -/
def reply (s : Store) : Action → Reply
  | .insert d => .document (some (s.insert d).1)
  | .change uri u => .document ((s.change? uri u.changes u.version).map Prod.fst)
  | .erase uri => .closed (s.erase uri).1

/-- The store after several actions. -/
def run (s : Store) (as : List Action) : Store := as.foldl step s

theorem run_append_singleton (s : Store) (as : List Action) (a : Action) :
    s.run (as ++ [a]) = (s.run as).step a := by
  rw [run, List.foldl_append]
  rfl

/-! ## One action -/

/-- Nothing is edited exactly if the document is not open. -/
theorem change?_eq_none_iff {s : Store} {uri : String} {changes : List Change} {version : Int} :
    s.change? uri changes version = none ↔ s.get? uri = none := Option.map_eq_none_iff

/-- An edited document is given back and found again under its address, and the others are as they
were. -/
theorem get?_of_change? {s s' : Store} {uri : String} {changes : List Change} {version : Int}
    {d : Document} (h : s.change? uri changes version = some (d, s')) :
    (s.get? uri).map (·.edit changes version) = some d ∧ s'.get? uri = some d ∧
      ∀ other, other ≠ uri → s'.get? other = s.get? other := by
  obtain ⟨old, hget, heq⟩ := Option.map_eq_some_iff.mp h
  obtain ⟨rfl, rfl⟩ := Prod.mk.inj heq
  have huri : (old.edit changes version).uri = uri := by
    show old.uri = uri
    exact uri_of_get? hget
  have hself := s.get?_insert_self (old.edit changes version)
  rw [huri] at hself
  exact ⟨by rw [hget]; rfl, hself, fun other hother => s.get?_insert_of_ne _ (huri ▸ hother)⟩

/-- **An action does something to its own document**, and only to that. -/
theorem get?_step (s : Store) (a : Action) (uri : String) :
    (s.step a).get? uri = if a.uri = uri then a.effect (s.get? uri) else s.get? uri := by
  cases a with
  | insert d =>
    by_cases h : d.uri = uri
    · rw [Action.uri, if_pos h, ← h]
      exact s.get?_insert_self d
    · rw [Action.uri, if_neg h]
      exact s.get?_insert_of_ne d (Ne.symm h)
  | change other u =>
    rw [Action.uri, step]
    cases hchange : s.change? other u.changes u.version with
    | none =>
      -- there is no such document before, and none after
      have hnone : s.get? other = none := change?_eq_none_iff.mp hchange
      rw [Option.map_none, Option.getD_none]
      split
      · next h => rw [← h, hnone]; rfl
      · rfl
    | some edited =>
      obtain ⟨hedited, hself, hother⟩ := get?_of_change? hchange
      rw [Option.map_some, Option.getD_some]
      split
      · next h =>
        subst h
        exact hself.trans hedited.symm
      · next h => exact hother uri (Ne.symm h)
  | erase other =>
    by_cases h : other = uri
    · rw [Action.uri, if_pos h, ← h]
      exact s.get?_erase_self other
    · rw [Action.uri, if_neg h]
      exact s.get?_erase_of_ne (Ne.symm h)

/-- What is answered to an edit. -/
theorem reply_change (s : Store) (uri : String) (u : Update) :
    s.reply (.change uri u) = .document ((s.get? uri).map (·.edit u.changes u.version)) := by
  rw [reply]
  cases hchange : s.change? uri u.changes u.version with
  | none => rw [change?_eq_none_iff.mp hchange]; rfl
  | some edited => rw [(get?_of_change? hchange).1, Option.map_some]

/-- What is answered to an action depends on its document only. -/
theorem reply_congr {s s' : Store} {a : Action} (h : s.get? a.uri = s'.get? a.uri) :
    s.reply a = s'.reply a := by
  cases a with
  | insert d => rfl
  | change uri u => rw [reply_change, reply_change, show s.get? uri = s'.get? uri from h]
  | erase uri =>
    rw [reply, reply, erase, erase, isOpen, isOpen, show s.get? uri = s'.get? uri from h]

/-! ## Addresses -/

/-- No two documents of the store have one address. -/
def Keyed (s : Store) : Prop := (s.documents.map (·.uri)).Nodup

theorem Keyed.erase {s : Store} (h : s.Keyed) (uri : String) : (s.erase uri).2.Keyed :=
  h.sublist (List.filter_sublist.map _)

/-- A document that is opened takes the place of one with its address. -/
theorem Keyed.insert {s : Store} (h : s.Keyed) (d : Document) : (s.insert d).2.Keyed := by
  refine List.nodup_cons.mpr ⟨?_, h.erase d.uri⟩
  simp [without]

theorem Keyed.step {s : Store} (h : s.Keyed) (a : Action) : (s.step a).Keyed := by
  cases a with
  | insert d => exact h.insert d
  | change uri u =>
    rw [Store.step, change?]
    cases s.get? uri with
    | none => exact h
    | some d => exact h.insert _
  | erase uri => exact h.erase uri

theorem Keyed.run {s : Store} (h : s.Keyed) (as : List Action) : (s.run as).Keyed := by
  induction as generalizing s with
  | nil => exact h
  | cons a as ih => exact ih (h.step a)

/-- Each address is listed once. -/
theorem Keyed.nodup_uris {s : Store} (h : s.Keyed) : s.uris.Nodup :=
  (List.mergeSort_perm _ _).nodup_iff.mpr h

/-! ## Since a document was opened -/

namespace Action

variable {as post : List Action} {a : Action} {uri : String} {opened : Document}

/-- **One action more.** It opened the document itself, or the document was open before, and it is
the last of what was done since. -/
theorem openSince_append_singleton_iff :
    OpenSince (as ++ [a]) uri opened post ↔
      (a = insert opened ∧ opened.uri = uri ∧ post = []) ∨
        (¬ a.Resets uri ∧ ∃ post', post = post' ++ [a] ∧ OpenSince as uri opened post') := by
  constructor
  · rintro ⟨huri, ⟨pre, happend⟩, hpost⟩
    rcases List.eq_nil_or_concat post with rfl | ⟨post', b, rfl⟩
    · obtain ⟨-, hlast⟩ := List.append_inj' happend rfl
      exact .inl ⟨List.head_eq_of_cons_eq hlast, huri, rfl⟩
    · rw [List.concat_eq_append] at happend hpost ⊢
      rw [← List.cons_append, ← List.append_assoc] at happend
      obtain ⟨rfl, hlast⟩ := List.append_inj' happend rfl
      obtain rfl := List.head_eq_of_cons_eq hlast
      obtain ⟨hpost', ha⟩ := List.forall_mem_append.mp hpost
      exact .inr ⟨ha a List.mem_cons_self, post', rfl, huri, ⟨pre, rfl⟩, hpost'⟩
  · rintro (⟨rfl, huri, rfl⟩ | ⟨ha, post', rfl, huri, ⟨pre, rfl⟩, hpost⟩)
    · exact ⟨huri, ⟨as, rfl⟩, List.forall_mem_nil _⟩
    · refine ⟨huri, ⟨pre, by simp⟩, ?_⟩
      exact List.forall_mem_append.mpr ⟨hpost, List.forall_mem_singleton.mpr ha⟩

end Action

/-- An action that does not open or close a document updates it, or does nothing to it. -/
theorem get?_step_of_not_resets (s : Store) {a : Action} {uri : String} (h : ¬ a.Resets uri) :
    (s.step a).get? uri =
      (s.get? uri).map (·.replay ([a].filterMap (Action.update? uri))) := by
  rw [get?_step]
  cases a with
  | insert d =>
    have hother : d.uri ≠ uri := h
    simp [Action.uri, Action.update?, hother, List.filterMap_cons]
  | change other u =>
    by_cases hother : other = uri
    · simp [Action.uri, Action.effect, Action.update?, hother]
    · simp [Action.uri, Action.update?, hother]
  | erase other =>
    have hother : other ≠ uri := h
    simp [Action.uri, Action.update?, hother, List.filterMap_cons]

/-- **What is known of a document** is a replay: it is as it was last opened, after the updates that
were made to it since. -/
theorem get?_run_iff (as : List Action) (uri : String) (d : Document) :
    (empty.run as).get? uri = some d ↔
      ∃ opened post, Action.OpenSince as uri opened post ∧
        d = opened.replay (post.filterMap (Action.update? uri)) := by
  induction as using List.reverseRecOn generalizing d with
  | nil =>
    refine iff_of_false (by rw [run, List.foldl_nil, get?_empty]; simp) ?_
    rintro ⟨opened, post, ⟨-, ⟨pre, happend⟩, -⟩, -⟩
    simp at happend
  | append_singleton as a ih =>
    rw [run_append_singleton]
    simp only [Action.openSince_append_singleton_iff]
    by_cases hresets : a.Resets uri
    · -- what was done before is void
      rw [get?_step, if_pos (Action.uri_of_resets hresets)]
      cases a with
      | insert opened =>
        simp only [Action.effect, Option.some.injEq, Action.insert.injEq, hresets,
          not_true_eq_false, false_and, or_false]
        constructor
        · rintro rfl
          exact ⟨opened, [], ⟨rfl, hresets, rfl⟩, rfl⟩
        · rintro ⟨_, _, ⟨rfl, -, rfl⟩, rfl⟩
          rfl
      | change other u => exact absurd hresets id
      | erase other => simp [Action.effect, hresets]
    · rw [get?_step_of_not_resets _ hresets, Option.map_eq_some_iff]
      constructor
      · rintro ⟨d, hget, rfl⟩
        obtain ⟨opened, post, hopen, rfl⟩ := (ih d).mp hget
        refine ⟨opened, post ++ [a], .inr ⟨hresets, post, rfl, hopen⟩, ?_⟩
        rw [List.filterMap_append, Document.replay_append]
      · rintro ⟨opened, post, ⟨rfl, huri, -⟩ | ⟨-, post, rfl, hopen⟩, rfl⟩
        · exact absurd huri hresets
        · refine ⟨_, (ih _).mpr ⟨opened, post, hopen, rfl⟩, ?_⟩
          rw [List.filterMap_append, Document.replay_append]

/-- A document is open exactly if the last that opened or closed it opened it. -/
theorem isOpen_run_iff (as : List Action) (uri : String) :
    (empty.run as).isOpen uri ↔ ∃ opened post, Action.OpenSince as uri opened post := by
  rw [isOpen, Option.isSome_iff_exists]
  simp only [get?_run_iff]
  constructor
  · rintro ⟨d, opened, post, hopen, -⟩
    exact ⟨opened, post, hopen⟩
  · rintro ⟨opened, post, hopen⟩
    exact ⟨_, opened, post, hopen, rfl⟩

/-! ## Whole runs -/

/-- **A store replays what is done with each document.** After any actions on any documents:
a document is open exactly if the last that opened or closed it opened it, and then it is as it was
opened, after the updates that were made to it since;
an edit of a document that is not open is answered with nothing and changes nothing, and other edits
are answered with the edited document;
the answer to closing a document is whether it was open, and it is not open after that;
the addresses of the open documents are listed once each;
and no action changes what is answered about another document. -/
theorem run_replays (as : List Action) :
    let s := empty.run as
    (∀ uri d, s.get? uri = some d ↔ ∃ opened post, Action.OpenSince as uri opened post ∧
      d = opened.replay (post.filterMap (Action.update? uri))) ∧
    (∀ uri, s.isOpen uri ↔ ∃ opened post, Action.OpenSince as uri opened post) ∧
    (∀ uri u, ¬ s.isOpen uri →
      s.reply (.change uri u) = .document none ∧ s.step (.change uri u) = s) ∧
    (∀ uri u d, s.get? uri = some d →
      s.reply (.change uri u) = .document (some (d.edit u.changes u.version))) ∧
    (∀ uri, s.reply (.erase uri) = .closed (s.isOpen uri) ∧ ¬ (s.step (.erase uri)).isOpen uri) ∧
    (s.uris.Nodup ∧ ∀ uri, uri ∈ s.uris ↔ s.isOpen uri) ∧
    (∀ a uri, a.uri ≠ uri → (s.step a).get? uri = s.get? uri ∧
      (s.step a).isOpen uri = s.isOpen uri ∧ (uri ∈ (s.step a).uris ↔ uri ∈ s.uris) ∧
      ∀ b : Action, b.uri = uri → (s.step a).reply b = s.reply b) := by
  intro s
  refine ⟨get?_run_iff as, isOpen_run_iff as, ?_, ?_, fun uri => ⟨rfl, ?_⟩,
    ⟨?_, fun _ => mem_uris_iff⟩, ?_⟩
  · intro uri u hclosed
    have hnone : s.get? uri = none := by simpa [isOpen] using hclosed
    constructor
    · rw [reply_change, hnone, Option.map_none]
    · rw [step, change?_eq_none_iff.mpr hnone, Option.map_none, Option.getD_none]
  · intro uri u d hget
    rw [reply_change, hget, Option.map_some]
  · rw [step, isOpen, get?_erase_self]
    exact Bool.false_ne_true
  · have hempty : empty.Keyed := List.nodup_nil
    exact (hempty.run as).nodup_uris
  · intro a uri ha
    have hget : (s.step a).get? uri = s.get? uri := by rw [get?_step, if_neg ha]
    refine ⟨hget, ?_, ?_, ?_⟩
    · rw [isOpen, hget, isOpen]
    · rw [mem_uris_iff, hget, mem_uris_iff]
    · rintro b rfl
      exact reply_congr hget

/-- What is done with `a` before it is opened for the second time: it is opened and edited, while
`b` is opened and closed. -/
def earlierVisits : List Action :=
  [.insert ⟨"a", 1, "x".toList⟩, .insert ⟨"b", 1, "y".toList⟩,
    .change "a" ⟨[⟨none, "z".toList⟩], 2⟩, .erase "b"]

/-- What is done after that: `b`, which is closed, is edited, and so is `a`. -/
def laterVisits : List Action :=
  [.change "b" ⟨[⟨none, "w".toList⟩], 2⟩,
    .change "a" ⟨[⟨some ⟨⟨0, 3⟩, ⟨0, 3⟩⟩, "!".toList⟩], 6⟩]

/-- What `a` was before it was opened again is forgotten, and edits of `b` come too late. -/
theorem run_replays_visits :
    let s := empty.run (earlierVisits ++ .insert ⟨"a", 5, "red".toList⟩ :: laterVisits)
    s.get? "a" = some ⟨"a", 6, "red!".toList⟩ ∧ s.isOpen "a" ∧
      ¬ s.isOpen "b" ∧
      (∀ u, s.reply (.change "b" u) = .document none ∧ s.step (.change "b" u) = s) ∧
      s.reply (.change "a" ⟨[], 7⟩) = .document (some ⟨"a", 7, "red!".toList⟩) ∧
      s.uris.Nodup ∧ "a" ∈ s.uris ∧
      (s.step (.insert ⟨"b", 3, []⟩)).get? "a" = some ⟨"a", 6, "red!".toList⟩ := by
  intro s
  obtain ⟨hget, hopen, hclosed, hchange, -, huris, hother⟩ :=
    run_replays (earlierVisits ++ .insert ⟨"a", 5, "red".toList⟩ :: laterVisits)
  have hsince : Action.OpenSince (earlierVisits ++ .insert ⟨"a", 5, "red".toList⟩ :: laterVisits)
      "a" ⟨"a", 5, "red".toList⟩ laterVisits := ⟨rfl, ⟨earlierVisits, rfl⟩, by decide⟩
  have ha : s.get? "a" = some ⟨"a", 6, "red!".toList⟩ :=
    (hget "a" _).mpr ⟨_, _, hsince, by decide⟩
  have hb : ¬ s.isOpen "b" := by decide
  refine ⟨ha, (hopen "a").mpr ⟨_, _, hsince⟩, hb, fun u => hclosed "b" u hb,
    hchange "a" ⟨[], 7⟩ _ ha, huris.1, ?_, ?_⟩
  · exact (huris.2 "a").mpr ((hopen "a").mpr ⟨_, _, hsince⟩)
  · exact (hother (.insert ⟨"b", 3, []⟩) "a" (by decide)).1.trans ha

end Store

end CssFragments
