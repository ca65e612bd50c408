import CssFragments.Journal.Level

/-! # Records of the journal

* `Record`: one thing that happened, with the part of the server that it happened in.
* `Record.lines`: how it is written.
* `Journal.path`: where the journal of a session lies. -/

namespace CssFragments

/-- One thing that happened. -/
structure Record where
  level : Level
  source : String
  message : String
deriving DecidableEq

namespace Record

/-- The first line of a record: the level in five columns, the source in brackets, the message
(`FileLogger.format_line`). -/
def text (r : Record) : String :=
  let name := r.level.name
  let padding := String.ofList (List.replicate (5 - name.length) ' ')
  name ++ padding ++ " [" ++ r.source ++ "] " ++ r.message

/-- A line without the carriage return that ends it. -/
def withoutReturn (line : Text) : Text :=
  match line.getLast? with
  | some '\r' => line.dropLast
  | _ => line

/-- The lines that a record takes in the journal. -/
def lines (r : Record) : List String :=
  (r.text.toList.splitOn '\n').map fun line => String.ofList (withoutReturn line)

end Record

namespace Journal

/-- The lines of the records that are kept. -/
def lines (v : Verbosity) (records : List Record) : List String :=
  (records.filter fun r => v.keeps r.level).flatMap Record.lines

/-- A path below another one. -/
def join (directory name : String) : String :=
  match directory.toList.getLast? with
  | none | some '/' => directory ++ name
  | _ => directory ++ "/" ++ name

/-- Where user data lies: the given directory if its path is absolute, else one below the home
directory. -/
def dataDirectory (given : Option String) (home : String) : String :=
  match given with
  | some d => if d.toList.head? == some '/' then d else join home ".local/share"
  | none => join home ".local/share"

/-- Where the journal of a session lies (`log_file_path`). -/
def path (given : Option String) (home : String) : String :=
  join (join (dataDirectory given home) "CssInJs") "css_in_js_language_server.log"

end Journal

end CssFragments
