import DataAccess.Engine.Request
import DataAccess.Engine.Settings
import DataAccess.Query.Reading
import DataAccess.Query.Relations

/-!
The engine: requests answered by conversing with a store. Permissions are settled before the store
hears of a request; a restriction becomes one more condition of a read, a fixed value of a new
record, and a look at the row before any other write.
-/

namespace DataAccess

/-- Who asks, for log lines. -/
def requestLabel (requestId : Option String) : String := requestId.getD "-"

namespace Engine

/-- Asks for the schema of a relation's table and attaches it. -/
def attach (label : String) (schema : Schema) (related : List (String × String))
    (requested : RequestedRelation) : StoreDialogue RelationRequest := do
  match schema.relation? requested.table with
  | none => .fail (.relationNotFound schema.table requested.table)
  | some relation =>
    let relatedSchema ← StoreDialogue.call (.getSchema relation.table)
    Dialogue.log .debug .relations
      s!"[{label}] attached relation {relation.orgTable}.{relation.orgColumn} -> {relation.table}.{relation.column}"
    return {
      relation := { relation with schema := some relatedSchema }
      join := requested.join
      fields := (related.filter fun pair => pair.1 == relation.table).map (·.2) }

/-- Attaches every requested relation once. -/
def attachAll (label : String) (schema : Schema) (related : List (String × String)) :
    List RequestedRelation → List RelationRequest → StoreDialogue (List RelationRequest)
  | [], attached => return attached
  | requested :: rest, attached =>
    if attached.any fun r => r.table == requested.table then
      attachAll label schema related rest attached
    else do
      let request ← attach label schema related requested
      attachAll label schema related rest (attached ++ [request])

def resolveRelations (label : String) (schema : Schema) (requested : List RequestedRelation)
    (related : List (String × String)) : StoreDialogue (List RelationRequest) :=
  attachAll label schema related requested []

/-- What a request reads, before its relations are attached. -/
def readOptions (settings : EngineSettings) (schema : Schema) (params : Params) :
    Except EngineError (FindOptions × List RequestedRelation × List (String × String)) := do
  let filters ← Reading.filters schema params
  let sort ← match params.get? "sort" with
    | some raw => Reading.sort schema raw
    | none => .ok []
  let fields ← match params.get? "fields" with
    | some raw => Reading.fields schema raw
    | none => .ok ⟨[], []⟩
  let requested ← match params.get? "relations" with
    | some raw => Reading.relations schema raw
    | none => .ok []
  let position ← settings.pageLimits.position params
  let options : FindOptions :=
    { schema, fields := fields.base, filters, relations := [], sort
      limit := position.limit, offset := position.offset }
  return (options, requested, fields.related)

/-- The requested relations, and those that only dotted references name. -/
def addReferenced (requested : List RequestedRelation) (tables : List String) :
    List RequestedRelation :=
  tables.foldl (fun requested table =>
    if requested.any fun r => Text.equalIgnoringCase r.table table then requested
    else requested ++ [⟨table, .inner⟩]) requested

/-- Turns request parameters into a checked read. -/
def prepareFind (settings : EngineSettings) (label table : String) (params : Params) :
    StoreDialogue FindOptions := do
  let schema ← StoreDialogue.call (.getSchema table)
  let (options, requested, related) ← Dialogue.ofExcept (readOptions settings schema params)
  let relations ← resolveRelations label schema
    (addReferenced requested (Relations.referenced options)) related
  let options := { options with relations }
  Dialogue.ofExcept (Validation.checkFind options)
  return options

/-- Counts first; no rows are fetched of none. -/
def findPage (options : FindOptions) : StoreDialogue Page := do
  let total ← StoreDialogue.call (.countRows options)
  let data ← if total = 0 then pure [] else StoreDialogue.call (.findMany options)
  return {
    limit := options.limit, offset := options.offset, total, data
    pagination := PageInfo.ofPosition options.limit options.offset total }

/-- A restricted write needs a row of the key that the restriction shows. -/
def checkVisible (schema : Schema) (id : Json) :
    Option Restriction → StoreDialogue Unit
  | none => return ()
  | some restriction => do
    let key ← Dialogue.ofExcept schema.key
    let options :=
      { FindOptions.ofSchema schema with filters := [.equals key id, restriction.predicate] }
    match ← StoreDialogue.call (.findOne options) with
    | some _ => return ()
    | none => .fail (.permissionDenied schema.table)

/-- The column to stamp in place of a deletion, if the table has it. -/
def stampColumn (settings : EngineSettings) (schema : Schema) : Option String :=
  settings.softDeleteColumn.filter schema.hasColumn

def answer (settings : EngineSettings) (label : String) (restriction : Option Restriction) :
    Request → StoreDialogue Response
  | .create table data => do
    let schema ← StoreDialogue.call (.getSchema table)
    let row ← StoreDialogue.call (.createOne schema (Restriction.force restriction data))
    return .record row
  | .find table params => do
    let options ← prepareFind settings label table params
    let options := { options with filters := Restriction.addTo restriction options.filters }
    return .found (← StoreDialogue.call (.findOne options))
  | .findMany table params => do
    let options ← prepareFind settings label table params
    let options := { options with filters := Restriction.addTo restriction options.filters }
    return .page (← findPage options)
  | .update table id data => do
    let schema ← StoreDialogue.call (.getSchema table)
    checkVisible schema id restriction
    let data := match restriction with
      | some r => data.erase r.column
      | none => data
    return .record (← StoreDialogue.call (.updateOne schema id data))
  | .delete table id => do
    let schema ← StoreDialogue.call (.getSchema table)
    checkVisible schema id restriction
    return .deleted (← StoreDialogue.call (.deleteOne schema id (stampColumn settings schema)))
  | .unique table data id => do
    let schema ← StoreDialogue.call (.getSchema table)
    return .unique (← StoreDialogue.call (.uniqueCheck schema data id))
  | .truncate table => do
    if restriction.isSome then .fail (.permissionDenied table)
    else
      StoreDialogue.call (.truncate table)
      return .done true
  | .createTable schema => do
    if restriction.isSome then .fail (.permissionDenied schema.table)
    else return .done (← StoreDialogue.call (.createTable schema))
  | .checkConnection => return .done (← StoreDialogue.call .checkConnection)
  | .listTables => return .tables (← StoreDialogue.call .listTables)

def execute (settings : EngineSettings) (label : String) (restriction : Option Restriction)
    (request : Request) : StoreDialogue Response := do
  Dialogue.log .debug .query s!"[{label}] perform {request.verb}"
  answer settings label restriction request

/-- Answers a request without asking for permission. -/
def perform (settings : EngineSettings) (requestId : Option String) (request : Request) :
    StoreDialogue Response :=
  execute settings (requestLabel requestId) none request

/-- What a source lets an identity do with a request. -/
def permission (label : String) (source : PermissionSource) (identity : String)
    (request : Request) : StoreDialogue (Option Restriction) :=
  match request.table?, request.access? with
  | some table, some access => do
    let outcome ← Dialogue.ofExcept (source identity table access)
    Dialogue.log .debug .query
      s!"[{label}] {identity} {request.verb} on {table}: {outcome.described}"
    Dialogue.ofExcept (outcome.restriction table)
  | _, _ => return none

/-- Answers a request on behalf of an identity. -/
def performAuthorized (settings : EngineSettings) (requestId : Option String)
    (source : PermissionSource) (identity : String) (request : Request) :
    StoreDialogue Response := do
  let label := requestLabel requestId
  let restriction ← permission label source identity request
  execute settings label restriction request

end Engine

end DataAccess
