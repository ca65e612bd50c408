import CssFragments.Journal.Record

/-! # Sources of the journal

Each part of the server writes records under a name of its own, below the name of the server.

* `Journal.serverName`: the name of the server.
* `Journal.store`, `Journal.worker`, `Journal.validation`, `Journal.server`: the parts. -/

namespace CssFragments

namespace Journal

/-- The name of the server. -/
def serverName : String := "css_in_js_language_server"

/-- The open documents. -/
def store : String := serverName ++ "::lsp::document_manager"

/-- The keeper of the analysis service. -/
def worker : String := serverName ++ "::lsp::worker"

/-- The checks that follow edits. -/
def validation : String := serverName ++ "::lsp::validation"

/-- The answers to requests. -/
def server : String := serverName ++ "::lsp::server"

end Journal

end CssFragments
