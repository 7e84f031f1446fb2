import DataAccess.Engine.Settings
import DataAccess.Sql.Definition
import DataAccess.Sql.Introspection
import DataAccess.Sql.Write
import DataAccess.Store.Call

/-!
A store behind SQL. Every call to the store becomes statements in the store's dialect, which an
executor runs.
-/

namespace DataAccess

/-- The outcome of a statement that returns no rows. -/
structure Execution where
  affected : Nat
  lastInsertId : Option Int
  deriving DecidableEq, Repr, Inhabited

inductive SqlRequest
  | query (statement : CompiledQuery)
  | execute (statement : CompiledQuery)
  /-- An insertion that gives back the value of a column. -/
  | insertReturning (statement : CompiledQuery) (column : String)
  | now
  deriving Repr, Inhabited

abbrev SqlRequest.Answer : SqlRequest → Type
  | query _ => Except EngineError (List Record)
  | execute _ => Except EngineError Execution
  | insertReturning .. => Except EngineError (Option Json)
  | now => Timestamp

abbrev SqlDialogue := Dialogue SqlRequest SqlRequest.Answer

structure SqlStore where
  dialect : SqlDialect
  settings : EngineSettings
  deriving DecidableEq, Repr, Inhabited

namespace SqlStore

def announce (s : SqlStore) (label : String) (q : CompiledQuery) : SqlDialogue Unit :=
  Dialogue.log .debug .sql s!"[{label}] {s.dialect.name}: {q.shown}"

/-- The value of an answer; a failure is logged with its statement. -/
def expect {α : Type} (s : SqlStore) (label : String) (q : CompiledQuery) :
    Except EngineError α → SqlDialogue α
  | .ok value => .done value
  | .error error => do
    Dialogue.log .error .sql
      s!"[{label}] {s.dialect.name} statement failed: {error.message}\n  sql: {q.sql}\n  params: {q.shownParams}"
    .fail error

def runQuery (s : SqlStore) (label : String) (q : CompiledQuery) : SqlDialogue (List Record) := do
  s.announce label q
  s.expect label q (← Dialogue.request (.query q))

def runExecute (s : SqlStore) (label : String) (q : CompiledQuery) : SqlDialogue Execution := do
  s.announce label q
  s.expect label q (← Dialogue.request (.execute q))

def runInsertReturning (s : SqlStore) (label : String) (q : CompiledQuery) (column : String) :
    SqlDialogue (Option Json) := do
  s.announce label q
  s.expect label q (← Dialogue.request (.insertReturning q column))

/-- The rows of a read, relations to one row still under dotted names if they are joined. -/
def fetchRows (s : SqlStore) (label : String) (options : FindOptions) : SqlDialogue (List Record) := do
  let q ← Dialogue.ofExcept (s.dialect.selectQuery options s.settings.joinRelations true)
  let rows ← s.runQuery label q
  return rows.map fun row => Coercion.rowInbound options (row.erase Select.rowNumberColumn)

/-- The rows of a read with their relations. A lookup reads no relations of its own. -/
def fetch (s : SqlStore) (label : String) (options : FindOptions) : SqlDialogue (List Record) := do
  let rows ← s.fetchRows label options
  if options.relations.isEmpty then return rows
  else
    let joined := s.settings.joinRelations
    let rows := if joined then Relations.unflatten options rows else rows
    Relations.expand label options rows s.settings.maxLimit joined (s.fetchRows label)

def findOne (s : SqlStore) (label : String) (options : FindOptions) :
    SqlDialogue (Option Record) := do
  let rows ← s.fetch label { options with limit := 1, offset := 0 }
  return rows.head?

/-- The count in the first row. -/
def runCount (s : SqlStore) (label : String) (q : CompiledQuery) : SqlDialogue Nat := do
  let rows ← s.runQuery label q
  let cell := rows.head?.bind fun row => row.get? Source.totalColumn
  match cell.bind Cell.integer? with
  | some (.ofNat total) => return total
  | _ =>
    let shown := match cell with
      | some value => value.compact
      | none => "no row"
    .fail (.queryExecution s!"Count query returned no usable {Source.totalColumn}: {shown}")

def countRows (s : SqlStore) (label : String) (options : FindOptions) : SqlDialogue Nat := do
  let q ← Dialogue.ofExcept (s.dialect.countQuery options s.settings.joinRelations)
  s.runCount label q

def findByKey (s : SqlStore) (label : String) (schema : Schema) (key : String) (id : Json) :
    SqlDialogue Record := do
  let row ← s.findOne label { FindOptions.ofSchema schema with filters := [.equals key id] }
  return row.getD []

/-- The key in a row that an insertion gave back: under its name, or else the first value. -/
def keyOfRow (key : String) (row : Record) : Option Json :=
  match row.get? key with
  | some value => some value
  | none => row.values.head?

def generatedKey (s : SqlStore) (label : String) (q : CompiledQuery) (key : String) :
    SqlDialogue (Option Json) := do
  match s.dialect.identityReturn with
  | .returning | .scopeIdentity =>
    let rows ← s.runQuery label q
    return rows.head?.bind (keyOfRow key)
  | .lastInsertId =>
    let execution ← s.runExecute label q
    return execution.lastInsertId.map .int
  | .returningInto => s.runInsertReturning label q key

/-- A key as the store holds it. -/
def boundKey (s : SqlStore) (schema : Schema) (key : String) (id : Json) : Except EngineError Json :=
  match schema.column? key with
  | some column => Coercion.outbound column s.dialect.capabilities id
  | none => .ok id

def getSchema (s : SqlStore) (label table : String) : SqlDialogue Schema := do
  let catalog := s.dialect.catalog
  let columns ← s.runQuery label (SqlDialect.catalogQuery catalog.columns table)
  if columns.isEmpty then .fail (.schemaNotFound table)
  else
    let forward ← s.runQuery label (SqlDialect.catalogQuery catalog.forwardKeys table)
    let backward ← s.runQuery label (SqlDialect.catalogQuery catalog.backwardKeys table)
    let schema ← Dialogue.ofExcept (Introspection.schema s.dialect table columns forward backward)
    Dialogue.log .trace .catalog
      s!"catalog {table}: {schema.columns.length} columns, {schema.relations.length} relations"
    return schema

def checkConnection (s : SqlStore) (label : String) : SqlDialogue Bool := do
  match ← (s.runQuery label (.ofText s.dialect.ping)).attempt with
  | .ok _ => return true
  | .error error =>
    Dialogue.log .warn .sql
      s!"[{label}] {s.dialect.name} connection check failed: {error.message}"
    return false

def listTables (s : SqlStore) (label : String) : SqlDialogue (List String) := do
  let rows ← s.runQuery label (.ofText s.dialect.catalog.tables)
  return rows.filterMap fun row => (row.get? "table_name").bind Cell.text?

def createOne (s : SqlStore) (label : String) (schema : Schema) (data : Record) :
    SqlDialogue Record := do
  let key ← Dialogue.ofExcept schema.key
  let data ← Dialogue.ofExcept (Coercion.recordOutbound schema s.dialect.capabilities data)
  let given := (data.get? key).filter fun id => !id.isNull
  let id ← match given with
    | some id => do
      let _ ← s.runExecute label (s.dialect.insertQuery schema key data false)
      pure id
    | none => do
      match ← s.generatedKey label (s.dialect.insertQuery schema key data true) key with
      | some id => pure id
      | none => .fail (.queryExecution s!"insert into {schema.table} returned no {key}")
  s.findByKey label schema key id

def updateOne (s : SqlStore) (label : String) (schema : Schema) (id : Json) (data : Record) :
    SqlDialogue Record := do
  let key ← Dialogue.ofExcept schema.key
  let data ← Dialogue.ofExcept
    (Coercion.recordOutbound schema s.dialect.capabilities (data.erase key))
  let id ← Dialogue.ofExcept (s.boundKey schema key id)
  if !data.isEmpty then
    let _ ← s.runExecute label (s.dialect.updateQuery schema key data id)
  s.findByKey label schema key id

def deleteOne (s : SqlStore) (label : String) (schema : Schema) (id : Json)
    (stamp : Option String) : SqlDialogue Nat := do
  let key ← Dialogue.ofExcept schema.key
  match stamp with
  | some column =>
    let now ← Dialogue.request SqlRequest.now
    let row ← s.updateOne label schema id [(column, .string (Timestamp.outbound now))]
    return if row.isEmpty then 0 else 1
  | none =>
    let id ← Dialogue.ofExcept (s.boundKey schema key id)
    let execution ← s.runExecute label (s.dialect.deleteQuery schema key id)
    return execution.affected

/-- Looks for duplicates in the unique columns, one after the other. -/
def checkColumns (s : SqlStore) (label : String) (schema : Schema) (data : Record)
    (exclude : Option (String × Json)) : List Column → SqlDialogue UniqueVerdict
  | [] => return .unique
  | column :: rest => do
    match (data.get? column.field).filter fun value => !value.isNull with
    | none => checkColumns s label schema data exclude rest
    | some value =>
      let bound ← Dialogue.ofExcept (Coercion.outbound column s.dialect.capabilities value)
      let total ← s.runCount label (s.dialect.duplicatesQuery schema column bound exclude)
      if 0 < total then
        Dialogue.log .debug .sql
          s!"[{label}] duplicate {schema.table}.{column.field} = {value.compact}"
        return .duplicate column.field value
      else checkColumns s label schema data exclude rest

/-- The row that is not its own duplicate: the one of a given key, if the schema declares a key. -/
def excluded (s : SqlStore) (schema : Schema) (id : Option Json) :
    Except EngineError (Option (String × Json)) :=
  match id, schema.primaryKey with
  | some id, some key => (s.boundKey schema key id).map fun id => some (key, id)
  | _, _ => .ok none

def uniqueCheck (s : SqlStore) (label : String) (schema : Schema) (data : Record)
    (id : Option Json) : SqlDialogue UniqueVerdict := do
  let exclude ← Dialogue.ofExcept (s.excluded schema id)
  s.checkColumns label schema data exclude schema.uniqueColumns

def runAll (s : SqlStore) (label : String) : List CompiledQuery → SqlDialogue Unit
  | [] => return ()
  | q :: rest => do
    let _ ← s.runExecute label q
    runAll s label rest

def createTable (s : SqlStore) (label : String) (schema : Schema) : SqlDialogue Bool := do
  s.runAll label (s.dialect.createTable schema)
  return true

def truncate (s : SqlStore) (label table : String) : SqlDialogue Unit := do
  let _ ← s.runExecute label (.ofText (s.dialect.truncate table))
  return ()

/-- The dialogue by which a call is carried out. -/
def carryOut (s : SqlStore) (label : String) : (c : StoreCall) → SqlDialogue c.Result
  | .getSchema table => s.getSchema label table
  | .checkConnection => s.checkConnection label
  | .listTables => s.listTables label
  | .createOne schema data => s.createOne label schema data
  | .findOne options => s.findOne label options
  | .findMany options => s.fetch label options
  | .countRows options => s.countRows label options
  | .updateOne schema id data => s.updateOne label schema id data
  | .deleteOne schema id stamp => s.deleteOne label schema id stamp
  | .uniqueCheck schema data id => s.uniqueCheck label schema data id
  | .createTable schema => s.createTable label schema
  | .truncate table => s.truncate label table

/-- The dialogue that answers a call. -/
def answer (s : SqlStore) (label : String) (c : StoreCall) : SqlDialogue c.Answer :=
  (s.carryOut label c).attempt

end SqlStore

end DataAccess
