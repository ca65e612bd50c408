import CssFragments.Server.Message
import CssFragments.Session.Time
import CssFragments.Settings.Read

/-! # The language server

The server takes the messages of a client in a session. A question that has no answer is noted in
the journal and answered as if there were nothing to say.

* `Server.apply`: makes settings count.
* `Server.receive`: takes a notification.
* `Server.ask`: answers a question about a document. -/

namespace CssFragments

/-- The state of a server (`StyledLanguageServer`). -/
structure Server where
  session : Session
  /-- The parser for stylesheets. -/
  parse : Parser
  settings : Settings
  /-- How many folds the client can take. -/
  foldLimit : Option Nat

namespace Server

/-- The service for fragments that makes the checks which settings ask for. -/
def service (parse : Parser) (settings : Settings) : Service :=
  ⟨.css parse settings.lint, .standard⟩

/-- How long the service may be idle, in milliseconds. -/
def idleTime (settings : Settings) : Nat := settings.idleSeconds * 1000

/-- A server that has received no message. -/
def new (parse : Parser) : Server where
  session := .new (service parse .standard) (idleTime .standard)
  parse := parse
  settings := .standard
  foldLimit := none

/-- Lets the session change. -/
def update (s : Server) (f : Session → Session) : Server := { s with session := f s.session }

/-- Notes something in the journal. -/
def note (s : Server) (level : Level) (message : String) : Server :=
  s.update fun session => session.note [⟨level, Journal.server, message⟩]

/-! ## Settings -/

/-- Notes that settings change, if they do. -/
def noteChange (s : Server) (settings : Settings) : Server :=
  if s.settings = settings then s
  else
    s.note .info
      ("Settings changed from " ++ s.settings.describe ++ " to " ++ settings.describe)

/-- Makes settings count: the service is built anew, and all open documents are checked
(`apply_settings`). -/
def apply (s : Server) (settings : Settings) : Server :=
  let restarted := s.update fun session =>
    { session.restart (service s.parse settings) (idleTime settings) with
      enabled := settings.validate }
  { restarted.noteChange settings with settings := settings }.update fun session =>
    session.store.uris.foldl Session.schedule session

/-- Makes the settings that a client sent count (`did_change_configuration`). If they cannot be
read, all stays as it is, and the complaint is noted. -/
def configure (s : Server) (complaint : String) (settings : Json) : Server :=
  match Settings.ofJson settings with
  | .ok settings => s.apply settings
  | .error e => s.note .warn (complaint ++ e.message)

/-! ## Notifications -/

/-- Takes a notification (`did_open`, `did_change`, `did_close`, `did_change_configuration`). -/
def receive (s : Server) : Notification → Server
  | .greeted =>
    s.update fun session =>
      session.startReaping.tell (.message "CSS-in-JS Language Server initialized")
  | .opened d =>
    let s := s.update fun session => (session.openDocument d).2
    (s.note .info ("Opened document: " ++ d.uri)).update (·.schedule d.uri)
  | .changed uri changes version =>
    match s.session.changeDocument? uri changes version with
    | some (_, session) => s.update fun _ => session.schedule uri
    | none => s.note .warn ("[did_change] Change for unknown document: " ++ uri)
  | .closed uri =>
    (s.update fun session => ((session.closeDocument uri).2.cancel uri).tell (.cleared uri)).note
      .info ("Closed document: " ++ uri)
  | .configured settings => s.configure "Keeping previous settings: " settings

/-! ## Questions -/

/-- What the service is asked: as many folds as the client can take, and else what the client
asks. -/
def argument (s : Server) : (op : Operation) → op.Argument → op.Argument
  | .folding, _ => s.foldLimit
  | _, arg => arg

/-- The answer of the service, if there is one; a failure that the service reports is noted. Any
other failure is nobody's to handle, and the client gets no response. -/
def settle (s : Server) (d : Document) (op : Operation) :
    Except Failure op.Answer → Except Failure (Option op.Answer) × Server
  | .ok answer => (.ok (some answer), s)
  | .error e =>
    if e.isReported then
      (.ok none, s.note .warn ("[" ++ op.journalName ++ "] Failed for " ++ d.uri ++ " (version " ++
        toString d.version ++ "): " ++ e.message))
    else (.error e, s)

/-- Answers a question about a document, if it is open and the service has an answer
(`with_service`). -/
def ask (s : Server) (uri : String) (op : Operation) (arg : op.Argument) :
    Except Failure (Option op.Answer) × Server :=
  match s.session.store.get? uri with
  | none => (.ok none, s.note .warn ("[" ++ op.journalName ++ "] Document not found: " ++ uri))
  | some d =>
    let (running, session) := s.session.acquire
    { s with session := session }.settle d op (running.plan.ask d op (s.argument op arg))

/-! ## Time -/

/-- Lets time pass, in milliseconds. -/
def advance (s : Server) (time : Nat) : Server := s.update (·.advance time)

end Server

end CssFragments
