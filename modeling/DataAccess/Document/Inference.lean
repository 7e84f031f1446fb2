import DataAccess.Document.Value
import DataAccess.Sql.Value

/-!
Schemas of collections. One document shows the fields and their types; a field with an object id
points at the collection that its name suggests, and a registry may declare further links.
-/

namespace DataAccess

namespace Document

/-- The field that every document is known by. -/
def idField : String := "_id"

/-- The type of a value, and its native name. -/
def typeOf : Json → ColumnType × String
  | .null => (.unknown, "null")
  | .bool _ => (.boolean, "bool")
  | .number _ => (.number, "number")
  | .string _ => (.string, "string")
  | .array _ => (.json, "array")
  | .object fields =>
    if Record.contains fields "$oid" then (.string, objectId)
    else if Record.contains fields "$date" then (.date, "date")
    else if Record.contains fields "$numberLong" || Record.contains fields "$numberDecimal" then
      (.number, "number")
    else (.json, "object")

/-- The name of a field without the ending of a reference. -/
def referenceBase (field : String) : String :=
  let chars := field.toList
  let base := match Text.dropEnd? "_id".toList chars with
    | some base => base
    | none => (Text.dropEnd? "Id".toList chars).getD chars
  Text.lower (String.ofList base)

/-- The collection whose name, in one or in many, a field bears. -/
def referenced? (field : String) (collections : List String) : Option String :=
  let base := referenceBase field
  if base = "" then none
  else collections.find? fun c => Text.lower c == base || Text.lower c == base ++ "s"

/-- A link from a document of the registry, told from the side of the collection. -/
def registryLink? (collection : String) (entry : Record) : Option Relation := do
  let table ← (entry.get? "table").bind Cell.text?
  let column ← (entry.get? "column").bind Cell.text?
  let orgTable ← (entry.get? "org_table").bind Cell.text?
  let orgColumn ← (entry.get? "org_column").bind Cell.text?
  let relation := Relation.link table column orgTable orgColumn
  if orgTable = collection then some relation
  else if table = collection then some relation.reversed
  else none

/-- The column of a field, and the link that its name suggests. -/
def inferColumn (collection : String) (collections : List String) (field : String) (value : Json) :
    Column × Option Relation :=
  let (type, native) := typeOf value
  let column := (Column.ofType field type).withNativeType native
  if field = idField then ({ column with primaryKey := true, nullable := false }, none)
  else if native = objectId then
    match (referenced? field collections).filter (· ≠ collection) with
    | some target => (column.asForeign, some (Relation.link target idField collection field))
    | none => (column, none)
  else (column, none)

/-- Adds a link, and flags its column if the link is to an id. -/
def addLink (schema : Schema) (r : Relation) : Schema :=
  let flag (c : Column) : Column := { c with foreignKey := c.foreignKey || r.column == idField }
  Schema.addRelation { schema with columns := Column.changeFirst r.orgColumn flag schema.columns } r

/-- Primary columns first, else in the order of the fields. -/
def keysFirst (columns : List Column) : List Column :=
  columns.filter (·.primaryKey) ++ columns.filter fun c => !c.primaryKey

/-- The schema that one document shows. -/
def inferSchema (collection : String) (sample : Record) (collections : List String)
    (registry : List Record) : Schema :=
  let inferred := sample.map fun (field, value) => inferColumn collection collections field value
  let links := inferred.filterMap (·.2) ++ registry.filterMap (registryLink? collection)
  links.foldl addLink (Schema.ofColumns collection (keysFirst (inferred.map (·.1))))

/-- The schema of a collection without documents: its id alone. -/
def emptySchema (collection : String) (collections : List String) (registry : List Record) :
    Schema :=
  let id := { (Column.ofType idField .string).withNativeType objectId with
    primaryKey := true, nullable := false }
  (inferSchema collection [] collections registry).relations.foldl Schema.addRelation
    (Schema.ofColumns collection [id])

end Document

end DataAccess
