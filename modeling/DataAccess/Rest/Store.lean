import DataAccess.Engine.Settings
import DataAccess.Query.Relations
import DataAccess.Rest.Metadata
import DataAccess.Store.Call
import DataAccess.Text.Described

/-!
A store behind a service of records. The service lists records in pages, each naming the next by a
token; limits and offsets are applied to the whole list. Links are expanded by fetching the linked
records by their ids.
-/

namespace DataAccess

inductive RestMethod
  | get
  | post
  | patch
  | delete
  deriving DecidableEq, Repr, Inhabited

namespace RestMethod

def name : RestMethod → String
  | get => "GET"
  | post => "POST"
  | patch => "PATCH"
  | delete => "DELETE"

end RestMethod

inductive RestRequest
  | send (method : RestMethod) (path : String) (query : List (String × String)) (body : Option Json)
  | now
  deriving Repr, Inhabited

abbrev RestRequest.Answer : RestRequest → Type
  | send .. => Except EngineError Json
  | now => Timestamp

abbrev RestDialogue := Dialogue RestRequest RestRequest.Answer

structure RestStore where
  base : String
  settings : EngineSettings
  /-- How many pages of one list are read before the list counts as endless. -/
  pageBudget : Nat
  deriving DecidableEq, Repr, Inhabited

/-- What a list asks for. -/
structure ListQuery where
  formula : Option Formula
  sort : List SortCondition
  fields : List String
  maxRecords : Option Nat
  deriving DecidableEq, Repr, Inhabited

namespace ListQuery

def all : ListQuery := ⟨none, [], [], none⟩

def number (n : Nat) : String := String.ofList (Decimal.digitChars n)

/-- Records in one page; the service allows no more. -/
def pageSize : Nat := 100

def sortWord : SortDirection → String
  | .ascending => "asc"
  | .descending => "desc"

/-- The parameters of the sort entries, counted from `index`. -/
def sortParams : Nat → List SortCondition → List (String × String)
  | _, [] => []
  | index, s :: rest =>
    (s!"sort[{number index}][field]", s.column)
      :: (s!"sort[{number index}][direction]", sortWord s.direction) :: sortParams (index + 1) rest

def params (q : ListQuery) : List (String × String) :=
  [("pageSize", number pageSize)]
    ++ (match q.formula with
      | some f => [("filterByFormula", f.text)]
      | none => [])
    ++ sortParams 0 (q.sort.filter fun s => !isRelationReference s.column)
    ++ q.fields.map (fun field => ("fields[]", field))
    ++ (match q.maxRecords with
      | some n => [("maxRecords", number n)]
      | none => [])

end ListQuery

namespace RestStore

/-- The value under a key of an object. -/
def member? (value : Json) (key : String) : Option Json :=
  (value.asObject?).bind fun fields => Record.get? fields key

/-- A record of the service as one flat row, its id among the fields. -/
def flatten (record : Json) : Record :=
  let id : Record := [(Formula.recordId, (member? record "id").getD .null)]
  match member? record "fields" with
  | some (.object fields) => fields.foldl (fun row entry => row.insert entry.1 entry.2) id
  | _ => id

/-- A payload value as the service takes it: dates in the inbound layout, one link as a list. -/
def fieldValue (column : Column) (value : Json) : Json :=
  let dated : Json :=
    match column.type, value with
    | .date, .string s =>
      match Timestamp.read? s with
      | some t => .string t.inbound
      | none => value
    | _, _ => value
  match dated with
  | .string _ => if column.foreignKey then .array [dated] else dated
  | _ => dated

/-- The fields of a payload. The record id is never written. -/
def payload (schema : Schema) (data : Record) : Except EngineError Record :=
  (data.filter fun entry => entry.1 != Formula.recordId).mapM fun (name, value) =>
    match schema.column? name with
    | none => .error (.columnNotFound schema.table name)
    | some column =>
      (Coercion.outbound column Formula.capabilities value).map fun value =>
        (name, fieldValue column value)

/-- The record ids that a field of links holds. -/
def linkedIds : Option Json → List Json
  | some (.array items) => items.filter fun item => !item.isNull
  | some .null | none => []
  | some other => [other]

def tablePath (s : RestStore) (table : String) : String := s!"v0/{s.base}/{table}"

def recordPath (s : RestStore) (table : String) (id : Json) : String :=
  s!"{s.tablePath table}/{id.shown}"

def metaPath (s : RestStore) : String := s!"v0/meta/bases/{s.base}/tables"

def debug (label text : String) : RestDialogue Unit :=
  Dialogue.log .debug .rest s!"[{label}] airtable: {text}"

def send (method : RestMethod) (path : String) (query : List (String × String))
    (body : Option Json) : RestDialogue Json :=
  (Dialogue.request (RestRequest.send method path query body)).bind fun answer =>
    Dialogue.ofExcept answer

/-- Sends a request whose failure is logged under the name of the operation. -/
def logged (label operation detail : String) (method : RestMethod) (path : String)
    (query : List (String × String)) (body : Option Json) : RestDialogue Json := do
  match ← Dialogue.request (RestRequest.send method path query body) with
  | .ok value => .done value
  | .error error =>
    Dialogue.log .error .rest
      s!"[{label}] airtable {operation} failed: {error.message}\n  {detail}"
    .fail error

def tables (s : RestStore) : RestDialogue (List TableMeta) := do
  let body ← send .get s.metaPath [] none
  match TableMeta.tables? body with
  | some tables => return tables
  | none => .fail (.queryExecution "unexpected tables payload: not a list of tables")

/-- The records of one page. -/
def pageRecords (body : Json) : List Record :=
  match member? body "records" with
  | some (.array items) => items.map flatten
  | _ => []

/-- The token of the next page. -/
def nextToken? (body : Json) : Option String := (member? body "offset").bind Json.asString?

/-- Reads page after page, until one names no next page. -/
def listPages (label path : String) (params : List (String × String)) :
    Nat → Option String → RestDialogue (List Record)
  | 0, _ => .fail (.queryExecution s!"{path} has too many pages")
  | budget + 1, token => do
    let paged := match token with
      | some token => params ++ [("offset", token)]
      | none => params
    let body ← logged label "list" path .get path paged none
    match nextToken? body with
    | none => return pageRecords body
    | some token =>
      let rest ← listPages label path params budget (some token)
      return pageRecords body ++ rest

def shownParams (params : List (String × String)) : String :=
  "[" ++ Text.join ", "
    (params.map fun (key, value) => "(" ++ Text.described key ++ ", " ++ Text.described value ++ ")")
    ++ "]"

def list (s : RestStore) (label table : String) (q : ListQuery) : RestDialogue (List Record) := do
  let path := s.tablePath table
  debug label s!"GET {path} {shownParams q.params}"
  listPages label path q.params s.pageBudget none

/-- Selected fields other than the record id; none of them means all fields. -/
def selectedFields (fields : List String) : List String := fields.filter (· ≠ Formula.recordId)

/-- The fields to list: those asked for, and the link fields of the relations. -/
def listedFields (options : FindOptions) : List String :=
  let fields := selectedFields options.fields
  if fields.isEmpty then []
  else
    options.relations.foldl (fun fields r =>
      if fields.contains r.relation.orgColumn then fields else fields ++ [r.relation.orgColumn])
      fields

def listQuery (options : FindOptions) : Except EngineError ListQuery :=
  (Formula.ofPredicates options.schema options.filters).map fun formula =>
    ⟨formula, options.sort, listedFields options, none⟩

def fetchLinked (s : RestStore) (label : String) (request : RelationRequest) (ids : List Json) :
    RestDialogue (List Record) := do
  match request.schema? with
  | none => return []
  | some schema =>
    let formula ← Dialogue.ofExcept
      (Formula.ofPredicates schema [⟨request.relation.column, .isIn, some (.array ids)⟩])
    let rows ← s.list label schema.table
      ⟨formula, [], selectedFields request.fields, some s.settings.maxLimit⟩
    return rows.map (Coercion.schemaRowInbound schema)

/-- The linked rows of a row; a failing fetch counts as none. -/
def linkedRows (s : RestStore) (label : String) (row : Record) (request : RelationRequest) :
    RestDialogue (List Record) := do
  let ids := linkedIds (row.get? request.relation.orgColumn)
  if ids.isEmpty then return []
  else
    match ← (s.fetchLinked label request ids).attempt with
    | .ok rows => return rows
    | .error error =>
      Dialogue.log .warn .rest
        s!"[{label}] relation lookup {request.table} failed: {error.message}"
      return []

def expandLinks (s : RestStore) (label : String) (row : Record) :
    List RelationRequest → RestDialogue Record
  | [] => return row
  | request :: rest => do
    let related ← s.linkedRows label row request
    expandLinks s label (row.insert request.table (.array (related.map .object))) rest

def expandAll (s : RestStore) (label : String) (requests : List RelationRequest) :
    List Record → RestDialogue (List Record)
  | [] => return []
  | row :: rest => do
    let row ← s.expandLinks label row requests
    let rows ← expandAll s label requests rest
    return row :: rows

/-- The records to ask for at most; without a limit all of them. -/
def maxRecords (options : FindOptions) : Option Nat :=
  if 0 < options.limit then some (min (options.offset + options.limit) greatestCount) else none

/-- One page of rows, cut out of the list. -/
def fetch (s : RestStore) (label : String) (options : FindOptions) : RestDialogue (List Record) := do
  let q ← Dialogue.ofExcept (listQuery options)
  let rows ← s.list label options.table { q with maxRecords := maxRecords options }
  let page := (rows.drop options.offset).take options.limit
  s.expandAll label options.relations (page.map (Coercion.schemaRowInbound options.schema))

def findOne (s : RestStore) (label : String) (options : FindOptions) :
    RestDialogue (Option Record) := do
  let rows ← s.fetch label { options with limit := 1, offset := 0 }
  return rows.head?

def countRows (s : RestStore) (label : String) (options : FindOptions) : RestDialogue Nat := do
  let q ← Dialogue.ofExcept (listQuery options)
  let rows ← s.list label options.table { q with sort := [] }
  return rows.length

def findById (s : RestStore) (label : String) (schema : Schema) (id : Json) :
    RestDialogue Record := do
  let path := s.recordPath schema.table id
  debug label s!"GET {path}"
  let body ← logged label "get" path .get path [] none
  return Coercion.schemaRowInbound schema (flatten body)

def getSchema (s : RestStore) (table : String) : RestDialogue Schema := do
  let tables ← s.tables
  match TableMeta.find? tables table with
  | some found => return found.schema tables
  | none => .fail (.schemaNotFound table)

def checkConnection (s : RestStore) (label : String) : RestDialogue Bool := do
  match ← s.tables.attempt with
  | .ok _ => return true
  | .error error =>
    Dialogue.log .warn .rest s!"[{label}] airtable connection check failed: {error.message}"
    return false

def listTables (s : RestStore) : RestDialogue (List String) := do
  let tables ← s.tables
  return tables.map (·.name)

def writeBody (fields : Record) : Json :=
  .object [("fields", .object fields), ("typecast", .bool true)]

def createOne (s : RestStore) (label : String) (schema : Schema) (data : Record) :
    RestDialogue Record := do
  let body := writeBody (← Dialogue.ofExcept (payload schema data))
  let path := s.tablePath schema.table
  debug label s!"POST {path} {body.compact}"
  let created ← logged label "create" path .post path [] (some body)
  return Coercion.schemaRowInbound schema (flatten created)

def updateOne (s : RestStore) (label : String) (schema : Schema) (id : Json) (data : Record) :
    RestDialogue Record := do
  let fields ← Dialogue.ofExcept (payload schema data)
  if fields.isEmpty then s.findById label schema id
  else
    let body := writeBody fields
    let path := s.recordPath schema.table id
    debug label s!"PATCH {path} {body.compact}"
    let updated ← logged label "update" path .patch path [] (some body)
    return Coercion.schemaRowInbound schema (flatten updated)

def deleteOne (s : RestStore) (label : String) (schema : Schema) (id : Json)
    (stamp : Option String) : RestDialogue Nat := do
  match stamp with
  | some column =>
    let now ← Dialogue.request RestRequest.now
    let row ← s.updateOne label schema id [(column, .string (Timestamp.outbound now))]
    return if row.isEmpty then 0 else 1
  | none =>
    let path := s.recordPath schema.table id
    debug label s!"DELETE {path}"
    let body ← logged label "delete" path .delete path [] none
    let deleted := ((member? body "deleted").bind Json.asBool?).getD false
    return deleted.toNat

/-- The list that finds a duplicate: the value, in a record other than the one of the id. -/
def duplicateQuery (schema : Schema) (column : Column) (value : Json) (id : Option Json) :
    Except EngineError ListQuery :=
  let others := match id with
    | some id => [⟨Formula.recordId, .notEquals, some id⟩]
    | none => []
  (Formula.ofPredicates schema (.equals column.field value :: others)).map fun formula =>
    ⟨formula, [], [column.field], some 1⟩

/-- Looks for duplicates in the unique columns, one after the other. -/
def checkColumns (s : RestStore) (label : String) (schema : Schema) (data : Record)
    (id : Option Json) : List Column → RestDialogue UniqueVerdict
  | [] => return .unique
  | column :: rest => do
    match (data.get? column.field).filter fun value => !value.isNull with
    | none => checkColumns s label schema data id rest
    | some value =>
      let q ← Dialogue.ofExcept (duplicateQuery schema column value id)
      let rows ← s.list label schema.table q
      if rows.isEmpty then checkColumns s label schema data id rest
      else return .duplicate column.field value

/-- The id of the table that a column of a new table links to. -/
def linkedTableId? (tables : List TableMeta) (schema : Schema) (column : Column) : Option String :=
  ((schema.relations.filter fun r => r.orgColumn == column.field).findSome? fun r =>
    TableMeta.find? tables r.table).map (·.id)

def createTable (s : RestStore) (label : String) (schema : Schema) : RestDialogue Bool := do
  let tables ← s.tables
  let columns := schema.columns.filter fun c => c.field != Formula.recordId
  let fields := columns.map fun c => c.fieldDefinition (linkedTableId? tables schema c)
  if fields.isEmpty then
    .fail (.invalidValue "columns" "at least one field besides the record id" schema.table)
  else
    let body := Json.object [("fields", .array fields), ("name", .string schema.table)]
    debug label s!"POST {s.metaPath} {body.compact}"
    let _ ← logged label "create table" schema.table .post s.metaPath [] (some body)
    return true

/-- Records in one request of deletion; the service allows no more. -/
def deleteBatch : Nat := 10

/-- Cuts a list into pieces of a length, at most `fuel` of them. -/
def chunks {α : Type} (length : Nat) : Nat → List α → List (List α)
  | 0, _ => []
  | _, [] => []
  | fuel + 1, xs => xs.take length :: chunks length fuel (xs.drop length)

def deleteRecords (label path : String) : List (List String) → RestDialogue Unit
  | [] => return ()
  | ids :: rest => do
    debug label s!"DELETE {path} ({ids.length} records)"
    let _ ← logged label "truncate" path .delete path (ids.map fun id => ("records[]", id)) none
    deleteRecords label path rest

def truncate (s : RestStore) (label table : String) : RestDialogue Unit := do
  let rows ← s.list label table .all
  let ids := rows.filterMap fun row => (row.get? Formula.recordId).bind Json.asString?
  deleteRecords label (s.tablePath table) (chunks deleteBatch ids.length ids)

/-- The dialogue by which a call is carried out. -/
def carryOut (s : RestStore) (label : String) : (c : StoreCall) → RestDialogue c.Result
  | .getSchema table => s.getSchema table
  | .checkConnection => s.checkConnection label
  | .listTables => s.listTables
  | .createOne schema data => s.createOne label schema data
  | .findOne options => s.findOne label options
  | .findMany options => s.fetch label options
  | .countRows options => s.countRows label options
  | .updateOne schema id data => s.updateOne label schema id data
  | .deleteOne schema id stamp => s.deleteOne label schema id stamp
  | .uniqueCheck schema data id => s.checkColumns label schema data id schema.uniqueColumns
  | .createTable schema => s.createTable label schema
  | .truncate table => s.truncate label table

/-- The dialogue that answers a call. -/
def answer (s : RestStore) (label : String) (c : StoreCall) : RestDialogue c.Answer :=
  (s.carryOut label c).attempt

end RestStore

end DataAccess
