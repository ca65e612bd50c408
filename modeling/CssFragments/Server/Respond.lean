import CssFragments.Server.Basic
import CssFragments.Wire.Write

/-! # Responses

What a client gets back for a request.

* `Operation.responseJson`: the answer to a question, or what stands for none.
* `Server.capabilities`: what the server can do.
* `Server.respond`: the response to a request. -/

namespace CssFragments

namespace Operation

/-- A list, with `null` for an empty one. -/
def nonemptyJson {α : Type} (f : α → Json) : List α → Json
  | [] => .null
  | xs => .list f xs

/-- The response to a question. Where there is nothing to offer, to highlight or to refer to, the
response is `null`. Colors are always a list. -/
def responseJson : (op : Operation) → Option op.Answer → Json
  | .complete, none => .null
  | .complete, some l => if l.items.isEmpty then .null else l.toJson
  | .highlights, hs => nonemptyJson Highlight.toJson (hs.getD [])
  | .references, ls => nonemptyJson Location.toJson (ls.getD [])
  | .colors, cs => .list ColorInformation.toJson (cs.getD [])
  | .presentations, ps => .list ColorPresentation.toJson (ps.getD [])
  | op, answer => .ofOption (answer.map op.answerJson)

end Operation

namespace Server

/-- What the server can do: it takes edits as they are made and answers all operations. -/
def capabilities : Json :=
  let offered := Json.bool true
  .object
    [("textDocumentSync", .ofNat 2),
      ("completionProvider", .object
        [("resolveProvider", .bool false),
          ("triggerCharacters", .array [.string ":", .string "-", .string "("])]),
      ("hoverProvider", offered), ("documentHighlightProvider", offered),
      ("definitionProvider", offered), ("referencesProvider", offered),
      ("renameProvider", .object [("prepareProvider", offered)]),
      ("documentSymbolProvider", offered), ("colorProvider", offered),
      ("foldingRangeProvider", offered), ("selectionRangeProvider", offered)]

/-- The response to the greeting. -/
def greeting : Json :=
  .object [("capabilities", capabilities),
    ("serverInfo", .object [("name", .string Journal.serverName), ("version", .string "0.1.0")])]

/-- Makes the settings of a greeting count, if there are any. -/
def configureFirst (s : Server) : Option Json → Server
  | some settings => s.configure "Ignoring initialization options: " settings
  | none => s

/-- The response to a request, unless a failure that nobody handles came in between. -/
def respond (s : Server) : Request → Except Failure Json × Server
  | .greet settings foldLimit =>
    (.ok greeting, { s.configureFirst settings with foldLimit := foldLimit })
  | .ask uri op arg =>
    let (answer, s) := s.ask uri op arg
    (answer.map op.responseJson, s)
  | .shutdown => (.ok .null, s)

end Server

end CssFragments
