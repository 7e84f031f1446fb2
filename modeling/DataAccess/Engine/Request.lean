import DataAccess.Permission
import DataAccess.Query.Page
import DataAccess.Store.Call

/-!
The requests of the engine and its responses.
-/

namespace DataAccess

inductive Request
  | create (table : String) (data : Record)
  | find (table : String) (params : Params)
  | findMany (table : String) (params : Params)
  | update (table : String) (id : Json) (data : Record)
  | delete (table : String) (id : Json)
  | unique (table : String) (data : Record) (id : Option Json)
  | truncate (table : String)
  | createTable (schema : Schema)
  | checkConnection
  | listTables
  deriving Repr, Inhabited

namespace Request

def verb : Request → String
  | create .. => "create"
  | find .. => "find"
  | findMany .. => "find_many"
  | update .. => "update"
  | delete .. => "delete"
  | unique .. => "unique"
  | truncate _ => "truncate"
  | createTable _ => "create_table"
  | checkConnection => "check_connection"
  | listTables => "list_tables"

def table? : Request → Option String
  | create table _ | find table _ | findMany table _ | update table _ _ | delete table _
  | unique table _ _ | truncate table => some table
  | createTable schema => some schema.table
  | checkConnection | listTables => none

/-- The access that a request needs to its table. -/
def access? : Request → Option Access
  | find .. | findMany .. | unique .. => some .read
  | create .. | createTable _ => some .create
  | update .. => some .update
  | delete .. | truncate _ => some .delete
  | checkConnection | listTables => none

end Request

/-- One page of rows, the count of all of them, and the way to other pages. -/
structure Page where
  limit : Nat
  offset : Nat
  total : Nat
  pagination : PageInfo
  data : List Record
  deriving DecidableEq, Repr, Inhabited

inductive Response
  | record (row : Record)
  | found (row : Option Record)
  | page (page : Page)
  | deleted (count : Nat)
  | unique (verdict : UniqueVerdict)
  | done (success : Bool)
  | tables (names : List String)
  deriving DecidableEq, Repr, Inhabited

namespace Json

def ofOptionString : Option String → Json
  | some s => .string s
  | none => .null

end Json

namespace PageInfo

def toJson (info : PageInfo) : Json :=
  .object
    [("total", .nat info.total),
      ("page", .object
        [("current", .string info.page.current), ("prev", .ofOptionString info.page.prev),
          ("next", .ofOptionString info.page.next), ("first", .string info.page.first),
          ("last", .string info.page.last)])]

end PageInfo

namespace UniqueVerdict

def toJson (v : UniqueVerdict) : Json :=
  .object
    (("valid", .bool v.valid) :: match v.message with
      | some message => [("message", .string message)]
      | none => [])

end UniqueVerdict

namespace Response

/-- The response as data, fields in the order in which they are told. A miss is an empty object. -/
def toJson : Response → Json
  | record row => .object row
  | found row => .object (row.getD [])
  | page p =>
    .object
      [("limit", .nat p.limit), ("offset", .nat p.offset), ("total", .nat p.total),
        ("pagination", p.pagination.toJson), ("data", .array (p.data.map .object))]
  | deleted count => .object [("deleted", .nat count)]
  | unique verdict => verdict.toJson
  | done success => .bool success
  | tables names => .array (names.map .string)

end Response

end DataAccess
