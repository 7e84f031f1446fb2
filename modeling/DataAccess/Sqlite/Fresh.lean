import DataAccess.Config.Backend
import DataAccess.Dialogue.Recorded
import DataAccess.Sql.Store

/-!
A SQLite database that holds nothing yet: which paths it opens under, and how it answers the first
statements.
-/

namespace DataAccess

namespace Sqlite

/-- A path by its names, from the root. Empty names and single dots do not count, and two dots take
the name before them away. -/
def pathNames (current : List String) (path : String) : List String :=
  let start := if Text.startsWith path.toList ['/'] then [] else current
  (Text.split '/' path).foldl (fun names name =>
    if name = "" ∨ name = "." then names
    else if name = ".." then names.dropLast
    else names ++ [name]) start

/-- The paths of databases that are kept in memory, or in a file that nobody sees. -/
def isUnseen (path : String) : Bool := path = ":memory:" || path = ""

/-- Whether a new database opens under a path: it is the name of a file in a directory. -/
def opens (isDirectory : List String → Bool) (current : List String) (path : String) : Bool :=
  let names := pathNames current path
  isUnseen path || (isDirectory names.dropLast && !isDirectory names)

/-- The name between double quotes at the start of a text, and what follows. -/
def quotedName? : List Char → Option (List Char × List Char)
  | '\x22' :: rest => go rest
  | _ => none
where
  go : List Char → Option (List Char × List Char)
    | [] => none
    | '\x22' :: '\x22' :: rest => (go rest).map fun (name, after) => ('\x22' :: name, after)
    | '\x22' :: rest => some ([], rest)
    | c :: rest => (go rest).map fun (name, after) => (c :: name, after)

/-- What a new database has against a statement. A table can be made if it has columns and its name
is not reserved; there is no table to change. -/
def complaint? (sql : String) : Option String :=
  match (Text.dropStart? "CREATE TABLE ".toList sql.toList).bind quotedName? with
  | some (name, after) =>
    if Text.startsWith (name.map Text.lowerChar) "sqlite_".toList then
      some s!"object name reserved for internal use: {String.ofList name}"
    else if after = " ()".toList then
      some s!"near \")\": syntax error in {sql} at offset {sql.utf8ByteSize - 1}"
    else none
  | none =>
    match (Text.dropStart? "DELETE FROM ".toList sql.toList).bind quotedName? with
    | some (name, _) => some s!"no such table: {String.ofList name}"
    | none => none

/-- The answer of a new database. Its catalog is empty, and so are all rows. -/
def answerFresh (now : Timestamp) : (r : SqlRequest) → r.Answer
  | .query _ => .ok []
  | .execute q =>
    match complaint? q.sql with
    | some complaint => .error (.queryExecution complaint)
    | none => .ok ⟨0, none⟩
  | .insertReturning .. => .error (.unsupported "executor" "RETURNING INTO")
  | .now => now

/-- The result of a dialogue with a new database, and what is logged meanwhile. -/
def runFresh {α : Type} (settings : EngineSettings) (label : String) (now : Timestamp)
    (dialogue : StoreDialogue α) : Except EngineError α × List LogEntry :=
  let store : SqlStore := ⟨.sqlite, settings⟩
  let (result, record) := Recorded.run (fun _ => (none : Option Unit))
    (fun r (_ : Unit) => (answerFresh now r, ())) (dialogue.interpret (store.answer label)) ()
  (result, record.log)

end Sqlite

namespace BackendConfig

/-- Why a backend cannot be connected: it is not part of this program, or its database does not open. -/
def refusal? (opens : String → Bool) : BackendConfig → Option EngineError
  | sqlite path =>
    if opens path then none
    else
      some (.connection s!"Failed to open SQLite database {path}: unable to open database file")
  | c =>
    let tick := "\x60"
    some (.config (s!"{c.backend} support is not compiled in; rebuild with "
      ++ tick ++ "--features " ++ c.backend ++ tick))

/-- What is logged when a database has been opened. -/
def openingLog : BackendConfig → List LogEntry
  | sqlite path =>
    [⟨.info, .sqlite, s!"Opened SQLite database {path}"⟩, ⟨.info, .query, "Using sqlite backend"⟩]
  | _ => []

end BackendConfig

end DataAccess
