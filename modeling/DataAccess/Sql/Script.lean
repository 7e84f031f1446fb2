import DataAccess.Engine.Json
import DataAccess.Sql.Store

/-!
An executor that follows a script, for trying a store without a database. The catalog is answered
from given rows, every other statement by the next prepared reply; after the last one replies are
empty.
-/

namespace DataAccess

namespace SqlValue

def kind : SqlValue → String
  | null => "null"
  | bool _ => "bool"
  | int _ => "int"
  | float _ => "float"
  | text _ => "text"

/-- The value with its kind before it. -/
def tagged (v : SqlValue) : Json := .array [.string v.kind, v.toJson]

end SqlValue

namespace CompiledQuery

def toJson (q : CompiledQuery) : Json :=
  .object [("sql", .string q.sql), ("params", .array (q.params.map SqlValue.tagged))]

end CompiledQuery

/-- What a catalog tells about one table. -/
structure CatalogRows where
  columns : List Record
  forward : List Record
  backward : List Record
  deriving DecidableEq, Repr, Inhabited

namespace CatalogRows

def empty : CatalogRows := ⟨[], [], []⟩

/-- The rows of a table, or the refusal to tell them. -/
def ofJson? (value : Json) : Option (Except EngineError CatalogRows) := do
  let fields ← value.asObject?
  let rows (name : String) : Option (List Record) :=
    Json.Decode.fieldOr? fields name [] Json.Decode.rows?
  match (fields.get? "error").bind Json.asString? with
  | some message => return .error (.queryExecution message)
  | none => return .ok ⟨← rows "columns", ← rows "forward", ← rows "backward"⟩

end CatalogRows

namespace EngineError

/-- A refusal of a given kind: of the connection, or else of the statement. -/
def refusal (kind : Option String) (message : String) : EngineError :=
  if kind = some "Connection" then .connection message else .queryExecution message

end EngineError

/-- A prepared answer; each statement uses the parts that it asks for. -/
structure SqlReply where
  refusal : Option EngineError
  rows : List Record
  execution : Execution
  returned : Option Json
  deriving DecidableEq, Repr, Inhabited

namespace SqlReply

def empty : SqlReply := ⟨none, [], ⟨0, none⟩, none⟩

def ofJson? (value : Json) : Option SqlReply := do
  let fields ← value.asObject?
  let text (name : String) : Option String := (fields.get? name).bind Json.asString?
  let rows ← Json.Decode.fieldOr? fields "rows" [] Json.Decode.rows?
  let affected ← Json.Decode.fieldOr? fields "affected" 0 (Json.Decode.word? 64)
  let lastInsertId := (fields.get? "last_insert_id").bind Json.asSigned?
  return {
    refusal := (text "error").map (EngineError.refusal (text "kind"))
    rows, execution := ⟨affected, lastInsertId⟩, returned := fields.get? "value" }

/-- The reply's refusal, or the part of it that is asked for. -/
def part {α : Type} (reply : SqlReply) (value : α) : Except EngineError α :=
  match reply.refusal with
  | some error => .error error
  | none => .ok value

end SqlReply

structure SqlScript where
  now : Timestamp
  catalog : String → Except EngineError CatalogRows
  replies : List SqlReply

namespace SqlScript

/-- The next reply, and the script without it. -/
def next (s : SqlScript) : SqlReply × SqlScript :=
  match s.replies with
  | [] => (.empty, s)
  | reply :: rest => (reply, { s with replies := rest })

end SqlScript

namespace SqlDialect

/-- The part of a catalog that a statement reads for a table: its mark, and its rows. -/
def catalogPart? (d : SqlDialect) (sql : String) :
    Option (String × (CatalogRows → List Record)) :=
  if sql = d.catalog.columns then some ("@columns", (·.columns))
  else if sql = d.catalog.forwardKeys then some ("@forward", (·.forward))
  else if sql = d.catalog.backwardKeys then some ("@backward", (·.backward))
  else none

/-- A statement, or the mark of a catalog statement. -/
def markOf (d : SqlDialect) (sql : String) : String :=
  match d.catalogPart? sql with
  | some (mark, _) => mark
  | none => if sql = d.catalog.tables then "@tables" else sql

end SqlDialect

namespace SqlRequest

/-- The request as data; the clock is not worth a record. -/
def toJson? (d : SqlDialect) : SqlRequest → Option Json :=
  let entry (call : String) (q : CompiledQuery) : Json :=
    .object [("call", .string call), ("sql", .string (d.markOf q.sql)),
      ("params", .array (q.params.map SqlValue.tagged))]
  fun
    | query q => some (entry "query" q)
    | execute q => some (entry "execute" q)
    | insertReturning q column => some (entry ("insert_returning " ++ column) q)
    | now => none

end SqlRequest

namespace SqlScript

/-- The table that a catalog statement is bound to. -/
def boundTable : List SqlValue → String
  | .text table :: _ => table
  | _ => ""

def answerQuery (d : SqlDialect) (q : CompiledQuery) (s : SqlScript) :
    Except EngineError (List Record) × SqlScript :=
  match d.catalogPart? q.sql with
  | some (_, rows) => ((s.catalog (boundTable q.params)).map rows, s)
  | none => let (reply, s) := s.next; (reply.part reply.rows, s)

def answer (d : SqlDialect) : (r : SqlRequest) → SqlScript → r.Answer × SqlScript
  | .query q, s => answerQuery d q s
  | .execute _, s => let (reply, s) := s.next; (reply.part reply.execution, s)
  | .insertReturning .., s => let (reply, s) := s.next; (reply.part reply.returned, s)
  | .now, s => (s.now, s)

end SqlScript

end DataAccess
