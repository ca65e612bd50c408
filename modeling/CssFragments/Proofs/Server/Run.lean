import CssFragments.Proofs.Service
import CssFragments.Proofs.Session.Markers
import CssFragments.Server.Respond

/-! # Runs of the server

A server takes messages and lets time pass, in any order. After every run, what the client sees of
its documents is what is wrong with them now, unless a check is still to come.

* `Event`, `Server.step`, `Server.run`: what can happen, one thing after another.
* `Server.Consistent`: the session of a server is in order under its settings.
* `Server.Consistent.step`, `Server.Consistent.run`: it stays so.
* `Server.markers_run`: what this means for the client. -/

namespace CssFragments

/-- Whether a notification opens a document. -/
def Notification.Opens (uri : String) : Notification → Prop
  | .opened d => d.uri = uri
  | _ => False

/-- What can happen to a server. -/
inductive Event where
  /-- The client lets the server know something. -/
  | notification (n : Notification)
  /-- The client wants an answer. -/
  | request (r : Request)
  /-- The service is looked after. -/
  | reap
  /-- The time of a ticket has come. Tickets may come in any order, and more than once. -/
  | fire (t : Ticket)
  /-- The clocks show another time. -/
  | clocks (now clock : Nat)
  /-- Time passes, and what is due is done. -/
  | advance (time : Nat)

/-- The settings that an event makes count: those of a configuration or of a greeting, if they can
be read. -/
def Event.settings? : Event → Option Settings
  | .notification (.configured settings) => (Settings.ofJson settings).toOption
  | .request (.greet (some settings) _) => (Settings.ofJson settings).toOption
  | _ => none

/-- Whether an event opens a document. -/
def Event.Opens (uri : String) : Event → Prop
  | .notification n => n.Opens uri
  | _ => False

namespace Server

/-- The server after an event. -/
def step (s : Server) : Event → Server
  | .notification n => s.receive n
  | .request r => (s.respond r).2
  | .reap => s.update (·.reap)
  | .fire t => s.update (·.fire t)
  | .clocks now clock => s.update fun session => { session with now := now, clock := clock }
  | .advance time => s.advance time

/-- The server after several events. -/
def run (s : Server) (es : List Event) : Server := es.foldl step s

/-- The session is in order under the settings that count now. -/
structure Consistent (s : Server) (parse : Parser) (opened : String → Prop) : Prop where
  parse_eq : s.parse = parse
  inOrder : s.session.InOrder (service parse s.settings) s.settings.validate opened

variable {s : Server} {parse : Parser} {opened opened' : String → Prop}

/-- A new server has no document to be inconsistent about. -/
theorem consistent_new (parse : Parser) : (Server.new parse).Consistent parse fun _ => False :=
  ⟨rfl, Session.inOrder_new _ _⟩

/-- Fewer documents may count as opened. -/
theorem Consistent.mono (h : s.Consistent parse opened)
    (hopened : ∀ uri, opened' uri → opened uri) : s.Consistent parse opened' :=
  ⟨h.parse_eq, h.inOrder.mono hopened⟩

/-- What opens no document adds nothing to those that were opened. -/
theorem Consistent.opens_none {opens : String → Prop} (h : s.Consistent parse opened)
    (hnone : ∀ uri, ¬ opens uri) : s.Consistent parse fun uri => opened uri ∨ opens uri :=
  h.mono fun uri ho => ho.resolve_right (hnone uri)

theorem Consistent.note (h : s.Consistent parse opened) (level : Level) (message : String) :
    (s.note level message).Consistent parse opened :=
  ⟨h.parse_eq, h.inOrder.note _⟩

/-! ## Settings -/

/-- That settings change is at most noted. -/
theorem noteChange_eq (s : Server) (settings : Settings) :
    ∃ records, s.noteChange settings = s.update (·.note records) := by
  unfold noteChange
  split
  · refine ⟨[], ?_⟩
    simp [update, Session.note]
  · exact ⟨_, rfl⟩

/-- **Settings.** The service for new settings is another one, so all open documents are checked
again. -/
theorem Consistent.apply (h : s.Consistent parse opened) (settings : Settings) :
    (s.apply settings).Consistent parse opened := by
  obtain ⟨hparse, hs⟩ := h
  subst hparse
  obtain ⟨records, hrecords⟩ := noteChange_eq
    (s.update fun session =>
      { session.restart (service s.parse settings) (idleTime settings) with
        enabled := settings.validate }) settings
  rw [Server.apply]
  simp only [hrecords]
  exact ⟨rfl, hs.restart (idleTime settings) records⟩

theorem Consistent.configure (h : s.Consistent parse opened) (complaint : String)
    (settings : Json) : (s.configure complaint settings).Consistent parse opened := by
  unfold Server.configure
  split
  · exact h.apply _
  · exact h.note _ _

theorem settings_configure (s : Server) (complaint : String) (settings : Json) :
    (s.configure complaint settings).settings =
      (Settings.ofJson settings).toOption.getD s.settings := by
  unfold Server.configure
  cases Settings.ofJson settings <;> rfl

theorem settings_settle (s : Server) (d : Document) (op : Operation)
    (answer : Except Failure op.Answer) : (s.settle d op answer).2.settings = s.settings := by
  cases answer with
  | ok a => rfl
  | error e =>
    rw [settle]
    split <;> rfl

theorem settings_ask (s : Server) (uri : String) (op : Operation) (arg : op.Argument) :
    (s.ask uri op arg).2.settings = s.settings := by
  unfold ask
  split
  · rfl
  · exact settings_settle _ _ op _

/-- An event makes other settings count, or leaves those that do. -/
theorem settings_step (s : Server) (e : Event) :
    (s.step e).settings = e.settings?.getD s.settings := by
  cases e with
  | notification n =>
    cases n with
    | greeted => rfl
    | opened d => rfl
    | changed uri changes version =>
      rw [step, receive]
      split <;> rfl
    | closed uri => rfl
    | configured settings => exact s.settings_configure _ settings
  | request r =>
    cases r with
    | greet settings foldLimit =>
      cases settings with
      | none => rfl
      | some settings => exact s.settings_configure _ settings
    | ask uri op arg => exact s.settings_ask uri op arg
    | shutdown => rfl
  | reap => rfl
  | fire t => rfl
  | clocks now clock => rfl
  | advance time => rfl

/-! ## Messages -/

/-- Notifications keep a server consistent. Only one of them opens a document. -/
theorem Consistent.receive (h : s.Consistent parse opened) (n : Notification) :
    (s.receive n).Consistent parse fun uri => opened uri ∨ n.Opens uri := by
  cases n with
  | greeted =>
    refine Consistent.opens_none ?_ fun _ => id
    exact ⟨h.parse_eq, h.inOrder.startReaping.message _⟩
  | opened d => exact ⟨h.parse_eq, h.inOrder.openDocument d _⟩
  | changed uri changes version =>
    refine Consistent.opens_none ?_ fun _ => id
    rw [Server.receive]
    split
    · next d session hsession =>
      -- the document was open before, so that it is not one more that was opened
      obtain ⟨rfl, records, rfl⟩ := Session.eq_of_changeDocument? hsession
      exact ⟨h.parse_eq, (h.inOrder.openDocument d records).mono fun _ => Or.inl⟩
    · exact h.note _ _
  | closed uri =>
    refine Consistent.opens_none ?_ fun _ => id
    exact ⟨h.parse_eq, (h.inOrder.closeDocument uri).note _⟩
  | configured settings =>
    refine Consistent.opens_none ?_ fun _ => id
    exact h.configure _ settings

theorem Consistent.settle (h : s.Consistent parse opened) (d : Document) (op : Operation)
    (answer : Except Failure op.Answer) : (s.settle d op answer).2.Consistent parse opened := by
  cases answer with
  | ok a => exact h
  | error e =>
    rw [Server.settle]
    split
    · exact h.note _ _
    · exact h

theorem Consistent.ask (h : s.Consistent parse opened) (uri : String) (op : Operation)
    (arg : op.Argument) : (s.ask uri op arg).2.Consistent parse opened := by
  unfold Server.ask
  split
  · exact h.note _ _
  · have hacquire : { s with session := s.session.acquire.2 }.Consistent parse opened :=
      ⟨h.parse_eq, h.inOrder.acquire⟩
    exact hacquire.settle _ _ _

/-- Answers keep a server consistent. -/
theorem Consistent.respond (h : s.Consistent parse opened) (r : Request) :
    (s.respond r).2.Consistent parse opened := by
  cases r with
  | greet settings foldLimit =>
    cases settings with
    | none => exact ⟨h.parse_eq, h.inOrder⟩
    | some settings =>
      obtain ⟨hparse, hs⟩ := h.configure "Ignoring initialization options: " settings
      exact ⟨hparse, hs⟩
  | ask uri op arg => exact h.ask uri op arg
  | shutdown => exact h

/-! ## Runs -/

/-- If every stylesheet has a tree, every document can be checked. -/
theorem exists_diagnostics (hparse : ∀ text, (parse text).isSome) (settings : Settings)
    (d : Document) :
    ∃ diagnostics, (service parse settings).ask d .validate () = .ok diagnostics := by
  let f : Framed := ⟨.standard, d⟩
  obtain ⟨tree, htree⟩ := Option.isSome_iff_exists.mp (hparse f.sheet.text)
  have hanswer : (service parse settings).analyzer.answer f.sheet .validate () =
      .ok ((Sheet.mk f.sheet.text tree).diagnostics settings.lint) :=
    Analyzer.answer_css_of_parse settings.lint htree .validate ()
  exact ⟨_, Service.ask_validate_of_answer (hparse f.sheet.text) hanswer⟩

section Parsed

variable (hparse : ∀ text, (parse text).isSome)
include hparse

/-- **One step.** Whatever happens, a server stays consistent. -/
theorem Consistent.step (h : s.Consistent parse opened) (e : Event) :
    (s.step e).Consistent parse fun uri => opened uri ∨ e.Opens uri := by
  have hask := exists_diagnostics hparse s.settings
  cases e with
  | notification n => exact h.receive n
  | request r => exact (h.respond r).opens_none fun _ => id
  | reap =>
    refine Consistent.opens_none ?_ fun _ => id
    exact ⟨h.parse_eq, h.inOrder.reap⟩
  | fire t =>
    refine Consistent.opens_none ?_ fun _ => id
    exact ⟨h.parse_eq, h.inOrder.fire hask t⟩
  | clocks now clock =>
    refine Consistent.opens_none ?_ fun _ => id
    exact ⟨h.parse_eq, h.inOrder.elapse now clock⟩
  | advance time =>
    refine Consistent.opens_none ?_ fun _ => id
    exact ⟨h.parse_eq, h.inOrder.advance hask time⟩

/-- **A run.** Whatever happens in whatever order, a server stays consistent. -/
theorem Consistent.run (h : s.Consistent parse opened) (es : List Event) :
    (s.run es).Consistent parse fun uri => opened uri ∨ ∃ e ∈ es, e.Opens uri := by
  induction es generalizing s opened with
  | nil => exact h.mono fun uri ho => by simpa using ho
  | cons e es ih =>
    refine (ih (h.step hparse e)).mono fun uri ho => ?_
    simpa [or_assoc] using ho

end Parsed

/-- **Markers are up to date when no check is to come.** After every run of a server, the settings
that count are those of the last configuration or greeting that could be read, or the standard ones.
A check is to come only for open documents, and its timer is running. An open document without one
is shown as it is now, under the settings that count now, and nothing is shown of a document that is
closed. -/
theorem markers_run {parse : Parser} (hparse : ∀ text, (parse text).isSome) (es : List Event) :
    let s := (Server.new parse).run es
    s.settings = (es.filterMap Event.settings?).getLast?.getD .standard ∧
    (∀ uri t, s.session.debounce.current? uri = some t →
      s.session.store.isOpen uri ∧ ∃ timer ∈ s.session.timers, timer.ticket = t) ∧
    (∀ uri d, s.session.store.get? uri = some d → s.session.debounce.current? uri = none →
      if s.settings.validate then
        ∃ diagnostics, (service parse s.settings).ask d .validate () = .ok diagnostics ∧
          s.session.last? uri = some (.markers uri diagnostics d.version)
      else s.session.last? uri = some (.cleared uri)) ∧
    ∀ uri, (∃ e ∈ es, e.Opens uri) → s.session.store.isOpen uri = false →
      s.session.last? uri = some (.cleared uri) := by
  intro s
  obtain ⟨-, henabled, -, hsound⟩ := (consistent_new parse).run hparse es
  refine ⟨foldl_eq_latest settings_step (Server.new parse) es, fun uri t ht => ⟨?_, ?_⟩,
    fun uri d hd hnone => ?_, fun uri hopened hclosed => ?_⟩
  · exact (hsound uri).isOpen_of_ticket t ht
  · exact (hsound uri).waits t ht
  · have hshown := (hsound uri).shown d hd hnone
    rwa [Session.Shown, henabled] at hshown
  · exact (hsound uri).cleared (Or.inr hopened) (by simpa [Store.isOpen] using hclosed)

/-- The tree of the stylesheet around the fragment `;`. -/
def semicolonTree : Tree where
  root :=
    .node ⟨"stylesheet", true, false, true, 0, 11⟩
      [.node ⟨"rule_set", true, false, true, 0, 11⟩
        [.node ⟨"selectors", true, false, false, 0, 5⟩
          [.node ⟨"pseudo_class_selector", true, false, false, 0, 5⟩
            [.node ⟨":", false, false, false, 0, 1⟩ [],
              .node ⟨"class_name", true, false, false, 1, 5⟩ []]],
          .node ⟨"block", true, false, true, 6, 11⟩
            [.node ⟨"\x7b", false, false, false, 6, 7⟩ [],
              .node ⟨"ERROR", true, false, true, 8, 9⟩ [.node ⟨";", false, false, false, 8, 9⟩ []],
              .node ⟨"\x7d", false, false, false, 10, 11⟩ []]]]
  pins := []

/-- Settings that can be read, and report unknown properties as errors. -/
def strictSettings : Json := .object [("lint", .object [("unknownProperties", .string "error")])]

/-- A run with the fragment `;` under three addresses: `a` is edited, then the settings change
twice, but the second ones cannot be read, and `a` is checked; `b` is closed before its check; and
the check of `c` is to come. The tickets of `a` before its last one do not count. -/
def semicolonRun : List Event :=
  [.notification (.opened ⟨"a", 1, []⟩),
    .notification (.changed "a" [⟨some ⟨⟨0, 0⟩, ⟨0, 0⟩⟩, [';']⟩] 2), .fire ⟨"a", 1⟩,
    .notification (.configured strictSettings), .notification (.configured (.bool true)),
    .fire ⟨"a", 2⟩, .fire ⟨"a", 3⟩,
    .notification (.opened ⟨"b", 1, [';']⟩), .notification (.closed "b"), .fire ⟨"b", 4⟩,
    .notification (.opened ⟨"c", 1, [';']⟩)]

/-- All that is promised occurs in one run. -/
theorem markers_run_semicolon :
    let parse : Parser := fun _ => some semicolonTree
    let s := (Server.new parse).run semicolonRun
    (∀ text, (parse text).isSome) ∧
    s.settings = ⟨true, .error, 120⟩ ∧
    (s.session.debounce.current? "c" = some ⟨"c", 5⟩ ∧
      s.session.store.isOpen "c" ∧ ∃ timer ∈ s.session.timers, timer.ticket = ⟨"c", 5⟩) ∧
    (∃ diagnostics,
      (service parse ⟨true, .error, 120⟩).ask ⟨"a", 2, [';']⟩ .validate () = .ok diagnostics ∧
        s.session.last? "a" = some (.markers "a" diagnostics 2)) ∧
    s.session.last? "b" = some (.cleared "b") := by
  intro parse s
  have hparse (text : Text) : (parse text).isSome := rfl
  obtain ⟨hsettings, hpending, hshown, hcleared⟩ := markers_run hparse semicolonRun
  have hc : s.session.debounce.current? "c" = some ⟨"c", 5⟩ := by decide +kernel
  have ha : s.session.store.get? "a" = some ⟨"a", 2, [';']⟩ := by decide +kernel
  have hnone : s.session.debounce.current? "a" = none := by decide +kernel
  have hb : s.session.store.isOpen "b" = false := by decide +kernel
  have hstrict : s.settings = ⟨true, .error, 120⟩ := hsettings.trans (by decide +kernel)
  refine ⟨hparse, hstrict, ⟨hc, hpending "c" ⟨"c", 5⟩ hc⟩, ?_, ?_⟩
  · have hmarkers := hshown "a" ⟨"a", 2, [';']⟩ ha hnone
    rwa [hstrict, if_pos rfl] at hmarkers
  · exact hcleared "b" ⟨.notification (.opened ⟨"b", 1, [';']⟩), by simp [semicolonRun], rfl⟩ hb

end Server

end CssFragments
