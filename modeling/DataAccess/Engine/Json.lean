import DataAccess.Engine.Request
import DataAccess.Query.Json

/-!
Requests, responses and permission rules as JSON. A request is its verb and its fields in one
object; a response is read by its kind.
-/

namespace DataAccess

namespace Json.Decode

def record? : Json → Option Record := asObject?

def rows? : Json → Option (List Record) := list? asObject?

end Json.Decode

namespace Request

/-- The request of a verb. The id of a uniqueness check may be absent, which is not a null id. -/
def ofJson? (value : Json) : Option Request := do
  let fields ← value.asObject?
  let table := Json.Decode.field? fields "table" Json.Decode.string?
  let data := Json.Decode.field? fields "data" Json.Decode.record?
  let params := Json.Decode.fieldOr? fields "params" [] Params.ofJson?
  let id := (fields.get? "id").getD .null
  match ← Json.Decode.field? fields "verb" Json.Decode.string? with
  | "create" => return .create (← table) (← data)
  | "find" => return .find (← table) (← params)
  | "find_many" => return .findMany (← table) (← params)
  | "update" => return .update (← table) id (← data)
  | "delete" => return .delete (← table) id
  | "unique" => return .unique (← table) (← data) (fields.get? "id")
  | "truncate" => return .truncate (← table)
  | "create_table" => return .createTable (← Json.Decode.field? fields "schema" Schema.ofJson?)
  | "check_connection" => return .checkConnection
  | "list_tables" => return .listTables
  | _ => none

end Request

namespace Access

def ofName? (s : String) : Option Access := all.find? fun access => access.name == s

end Access

namespace Restriction

def toJson (r : Restriction) : Json := .object [("column", .string r.column), ("value", r.value)]

def ofJson? (value : Json) : Option Restriction := do
  let fields ← value.asObject?
  let column ← Json.Decode.field? fields "column" Json.Decode.string?
  return ⟨column, (fields.get? "value").getD .null⟩

end Restriction

namespace Outcome

/-- A word for a plain outcome, an object for a restriction. -/
def ofJson? : Json → Option Outcome
  | .string "allow" => some .allow
  | .string "deny" => some .deny
  | value => (Restriction.ofJson? value).map .restricted

end Outcome

namespace PermissionRule

def ofJson? (value : Json) : Option PermissionRule := do
  let fields ← value.asObject?
  let identity ← Json.Decode.maybe? fields "identity" Json.Decode.string?
  let table ← Json.Decode.field? fields "table" Json.Decode.string?
  let access ← Json.Decode.maybe? fields "access" (Json.Decode.named? Access.ofName?)
  let outcome ← Json.Decode.field? fields "outcome" Outcome.ofJson?
  return ⟨identity, table, access, outcome⟩

end PermissionRule

namespace PageLinks

def ofJson? (value : Json) : Option PageLinks := do
  let fields ← Json.Decode.members? ["current", "prev", "next", "first", "last"] value
  let current ← Json.Decode.field? fields "current" Json.Decode.string?
  let prev ← Json.Decode.maybe? fields "prev" Json.Decode.string?
  let next ← Json.Decode.maybe? fields "next" Json.Decode.string?
  let first ← Json.Decode.field? fields "first" Json.Decode.string?
  let last ← Json.Decode.field? fields "last" Json.Decode.string?
  return ⟨current, prev, next, first, last⟩

end PageLinks

namespace PageInfo

def ofJson? (value : Json) : Option PageInfo := do
  let fields ← Json.Decode.members? ["total", "page"] value
  let total ← Json.Decode.field? fields "total" (Json.Decode.word? 64)
  let page ← Json.Decode.field? fields "page" PageLinks.ofJson?
  return ⟨total, page⟩

end PageInfo

namespace Page

def ofJson? (value : Json) : Option Page := do
  let fields ← Json.Decode.members? ["limit", "offset", "total", "pagination", "data"] value
  let limit ← Json.Decode.field? fields "limit" (Json.Decode.word? 64)
  let offset ← Json.Decode.field? fields "offset" (Json.Decode.word? 64)
  let total ← Json.Decode.field? fields "total" (Json.Decode.word? 64)
  let pagination ← Json.Decode.field? fields "pagination" PageInfo.ofJson?
  let data ← Json.Decode.field? fields "data" Json.Decode.rows?
  return ⟨limit, offset, total, pagination, data⟩

end Page

namespace UniqueVerdict

def ofJson? (value : Json) : Option UniqueVerdict := do
  let fields ← Json.Decode.members? ["valid", "message"] value
  let valid ← Json.Decode.field? fields "valid" Json.Decode.bool?
  let message ← Json.Decode.maybe? fields "message" Json.Decode.string?
  return ⟨valid, message⟩

end UniqueVerdict

namespace Response

/-- The kind under which a response is read. -/
def kind : Response → String
  | record _ => "record"
  | found _ => "found"
  | page _ => "page"
  | deleted _ => "deleted"
  | unique _ => "unique"
  | done _ => "done"
  | tables _ => "tables"

def deletedOfJson? (value : Json) : Option Nat := do
  let fields ← Json.Decode.members? ["deleted"] value
  Json.Decode.field? fields "deleted" (Json.Decode.word? 64)

/-- The response of a kind. A read that missed is null. -/
def ofJson? (kind : String) (value : Json) : Option Response :=
  match kind with
  | "record" => value.asObject?.map .record
  | "found" => (Json.Decode.nullable? Json.Decode.record? value).map .found
  | "page" => (Page.ofJson? value).map .page
  | "deleted" => (deletedOfJson? value).map .deleted
  | "unique" => (UniqueVerdict.ofJson? value).map .unique
  | "done" => value.asBool?.map .done
  | "tables" => (Json.Decode.list? Json.Decode.string? value).map .tables
  | _ => none

end Response

end DataAccess
