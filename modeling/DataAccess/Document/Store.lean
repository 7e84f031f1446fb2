import DataAccess.Document.Filter
import DataAccess.Document.Inference
import DataAccess.Engine.Settings
import DataAccess.Query.Relations
import DataAccess.Store.Call
import DataAccess.Text.Described

/-!
A store of documents. Collections have no catalog, and relations are read by lookups alone.
-/

namespace DataAccess

/-- A read of a collection. No projection means whole documents, a limit of zero no limit. -/
structure DocumentQuery where
  collection : String
  filter : Record
  projection : List String
  sort : List (String × Int)
  skip : Nat
  limit : Nat
  deriving DecidableEq, Repr, Inhabited

namespace DocumentQuery

def all (collection : String) : DocumentQuery := ⟨collection, [], [], [], 0, 0⟩

def shownKey (key : String × Int) : String :=
  "(" ++ Text.described key.1 ++ ", " ++ String.ofList (Decimal.intChars key.2) ++ ")"

def shown (q : DocumentQuery) : String :=
  let filter := (Json.object q.filter).compact
  let sort := "[" ++ Text.join ", " (q.sort.map shownKey) ++ "]"
  s!"find {q.collection} filter={filter} sort={sort} skip={q.skip} limit={q.limit}"

end DocumentQuery

inductive DocumentRequest
  | ping
  | listCollections
  | find (query : DocumentQuery)
  | count (collection : String) (filter : Record)
  /-- Gives back the id of the stored document. -/
  | insertOne (collection : String) (document : Record)
  /-- Sets fields of the first match; gives back how many matched. -/
  | updateOne (collection : String) (filter set : Record)
  | deleteOne (collection : String) (filter : Record)
  | deleteMany (collection : String) (filter : Record)
  | createCollection (name : String)
  | now
  deriving Repr, Inhabited

namespace DocumentRequest

abbrev Result : DocumentRequest → Type
  | ping => Unit
  | listCollections => List String
  | find _ => List Record
  | count .. => Nat
  | insertOne .. => Json
  | updateOne .. => Nat
  | deleteOne .. => Nat
  | deleteMany .. => Nat
  | createCollection _ => Unit
  | now => Timestamp

abbrev Answer (r : DocumentRequest) : Type := Except EngineError r.Result

end DocumentRequest

abbrev DocumentDialogue := Dialogue DocumentRequest DocumentRequest.Answer

structure DocumentStore where
  name : String
  settings : EngineSettings
  deriving DecidableEq, Repr, Inhabited

namespace DocumentStore

def request (r : DocumentRequest) : DocumentDialogue r.Result :=
  (Dialogue.request r).bind fun answer => Dialogue.ofExcept answer

/-- A request whose failure is logged under the name of the operation. -/
def logged (s : DocumentStore) (label operation detail : String) (r : DocumentRequest) :
    DocumentDialogue r.Result := do
  match ← Dialogue.request r with
  | .ok value => .done value
  | .error error =>
    Dialogue.log .error .document
      s!"[{label}] {s.name} {operation} failed: {error.message}\n  {detail}"
    .fail error

def debug (s : DocumentStore) (label text : String) : DocumentDialogue Unit :=
  Dialogue.log .debug .document s!"[{label}] {s.name}: {text}"

/-- The fields to fetch: those asked for, and the join columns of the relations. -/
def projection (options : FindOptions) : List String :=
  if options.fields.isEmpty then []
  else
    options.relations.foldl (fun fields r =>
      if fields.contains r.relation.orgColumn then fields else fields ++ [r.relation.orgColumn])
      options.fields

def query (options : FindOptions) : Except EngineError DocumentQuery :=
  (Document.filter options.schema options.filters).map fun filter =>
    { collection := options.table
      filter
      projection := projection options
      sort := Document.sortKeys options.sort
      skip := options.offset
      limit := options.limit }

def callerRow (schema : Schema) (document : Record) : Record :=
  Coercion.schemaRowInbound schema (Document.surfaceRecord document)

def fetchRows (s : DocumentStore) (label : String) (options : FindOptions) :
    DocumentDialogue (List Record) := do
  let q ← Dialogue.ofExcept (query options)
  s.debug label q.shown
  let documents ← s.logged label "find" q.shown (.find q)
  return documents.map (callerRow options.schema)

/-- The rows of a read with their relations. A lookup reads no relations of its own. -/
def fetch (s : DocumentStore) (label : String) (options : FindOptions) :
    DocumentDialogue (List Record) := do
  let rows ← s.fetchRows label options
  if options.relations.isEmpty then return rows
  else Relations.expand label options rows s.settings.maxLimit false (s.fetchRows label)

def findOne (s : DocumentStore) (label : String) (options : FindOptions) :
    DocumentDialogue (Option Record) := do
  let rows ← s.fetch label { options with limit := 1, offset := 0 }
  return rows.head?

def keyFilter (schema : Schema) (key : String) (id : Json) : Except EngineError Record :=
  Document.filter schema [.equals key id]

def findByKey (s : DocumentStore) (label : String) (schema : Schema) (key : String) (id : Json) :
    DocumentDialogue Record := do
  let row ← s.findOne label { FindOptions.ofSchema schema with filters := [.equals key id] }
  return row.getD []

/-- The declared links; a registry that cannot be read declares none. -/
def readRegistry (s : DocumentStore) (label : String) (collections : List String) :
    DocumentDialogue (List Record) := do
  if collections.contains s.settings.relationRegistry then
    match ← Dialogue.request (.find (.all s.settings.relationRegistry)) with
    | .ok entries => return entries
    | .error error =>
      Dialogue.log .warn .document s!"[{label}] relation registry unreadable: {error.message}"
      return []
  else return []

def getSchema (s : DocumentStore) (label collection : String) : DocumentDialogue Schema := do
  let collections ← request .listCollections
  if !collections.contains collection then .fail (.schemaNotFound collection)
  else
    let sampleQuery := { DocumentQuery.all collection with limit := 1 }
    s.debug label sampleQuery.shown
    let samples ← request (.find sampleQuery)
    let registry ← s.readRegistry label collections
    match samples.head? with
    | some sample => return Document.inferSchema collection sample collections registry
    | none => return Document.emptySchema collection collections registry

def checkConnection (s : DocumentStore) (label : String) : DocumentDialogue Bool := do
  match ← Dialogue.request DocumentRequest.ping with
  | .ok _ => return true
  | .error error =>
    Dialogue.log .warn .document s!"[{label}] {s.name} connection check failed: {error.message}"
    return false

/-- The collections, without the registry of relations. -/
def listTables (s : DocumentStore) : DocumentDialogue (List String) := do
  let collections ← request .listCollections
  return collections.filter (· ≠ s.settings.relationRegistry)

/-- A document without a key of null, so that the store makes one. -/
def dropNullKey (key : String) (document : Record) : Record :=
  if (document.get? key).any Json.isNull then document.erase key else document

def createOne (s : DocumentStore) (label : String) (schema : Schema) (data : Record) :
    DocumentDialogue Record := do
  let key ← Dialogue.ofExcept schema.key
  let document ← Dialogue.ofExcept (Document.ofRecord schema data)
  s.debug label s!"insert into {schema.table}"
  let id ← s.logged label "insert" schema.table (.insertOne schema.table (dropNullKey key document))
  s.findByKey label schema key (Document.surface id)

def countRows (s : DocumentStore) (label : String) (options : FindOptions) :
    DocumentDialogue Nat := do
  let filter ← Dialogue.ofExcept (Document.filter options.schema options.filters)
  s.debug label s!"count {options.table} filter={(Json.object filter).compact}"
  s.logged label "count" options.table (.count options.table filter)

def updateOne (s : DocumentStore) (label : String) (schema : Schema) (id : Json) (data : Record) :
    DocumentDialogue Record := do
  let key ← Dialogue.ofExcept schema.key
  let set ← Dialogue.ofExcept (Document.ofRecord schema (data.erase key))
  if !set.isEmpty then
    let filter ← Dialogue.ofExcept (keyFilter schema key id)
    s.debug label
      s!"update {schema.table} filter={(Json.object filter).compact} set={(Json.object set).compact}"
    let _ ← s.logged label "update" schema.table (.updateOne schema.table filter set)
  s.findByKey label schema key id

def deleteOne (s : DocumentStore) (label : String) (schema : Schema) (id : Json)
    (stamp : Option String) : DocumentDialogue Nat := do
  let key ← Dialogue.ofExcept schema.key
  match stamp with
  | some column =>
    let now ← request .now
    let row ← s.updateOne label schema id [(column, .string (Timestamp.outbound now))]
    return if row.isEmpty then 0 else 1
  | none =>
    let filter ← Dialogue.ofExcept (keyFilter schema key id)
    s.debug label s!"delete from {schema.table} filter={(Json.object filter).compact}"
    s.logged label "delete" schema.table (.deleteOne schema.table filter)

/-- The predicates of a duplicate: the value, in a document other than the one of the key. -/
def duplicatePredicates (schema : Schema) (column : Column) (value : Json) (id : Option Json) :
    List Predicate :=
  .equals column.field value :: match id, schema.primaryKey with
    | some id, some key => [⟨key, .notEquals, some id⟩]
    | _, _ => []

/-- Looks for duplicates in the unique columns, one after the other. -/
def checkColumns (s : DocumentStore) (label : String) (schema : Schema) (data : Record)
    (id : Option Json) : List Column → DocumentDialogue UniqueVerdict
  | [] => return .unique
  | column :: rest => do
    match (data.get? column.field).filter fun value => !value.isNull with
    | none => checkColumns s label schema data id rest
    | some value =>
      let filter ← Dialogue.ofExcept
        (Document.filter schema (duplicatePredicates schema column value id))
      let total ← request (.count schema.table filter)
      if 0 < total then
        Dialogue.log .debug .document
          s!"[{label}] duplicate {schema.table}.{column.field} = {value.compact}"
        return .duplicate column.field value
      else checkColumns s label schema data id rest

def createTable (s : DocumentStore) (label : String) (schema : Schema) : DocumentDialogue Bool := do
  s.debug label s!"create collection {schema.table}"
  request (.createCollection schema.table)
  return true

def truncate (s : DocumentStore) (label collection : String) : DocumentDialogue Unit := do
  s.debug label s!"delete all from {collection}"
  let _ ← request (.deleteMany collection [])
  return ()

/-- The dialogue by which a call is carried out. -/
def carryOut (s : DocumentStore) (label : String) : (c : StoreCall) → DocumentDialogue c.Result
  | .getSchema table => s.getSchema label table
  | .checkConnection => s.checkConnection label
  | .listTables => s.listTables
  | .createOne schema data => s.createOne label schema data
  | .findOne options => s.findOne label options
  | .findMany options => s.fetch label options
  | .countRows options => s.countRows label options
  | .updateOne schema id data => s.updateOne label schema id data
  | .deleteOne schema id stamp => s.deleteOne label schema id stamp
  | .uniqueCheck schema data id => s.checkColumns label schema data id schema.uniqueColumns
  | .createTable schema => s.createTable label schema
  | .truncate table => s.truncate label table

/-- The dialogue that answers a call. -/
def answer (s : DocumentStore) (label : String) (c : StoreCall) : DocumentDialogue c.Answer :=
  (s.carryOut label c).attempt

end DocumentStore

end DataAccess
