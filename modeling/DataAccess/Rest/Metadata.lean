import DataAccess.Json.Decode
import DataAccess.Rest.Formula

/-!
Tables as the service describes them, their schemas, and the descriptions of new fields.
-/

namespace DataAccess

structure FieldMeta where
  id : String
  name : String
  type : String
  options : Option Json
  deriving DecidableEq, Repr, Inhabited

structure TableMeta where
  id : String
  name : String
  primaryFieldId : Option String
  fields : List FieldMeta
  deriving DecidableEq, Repr, Inhabited

namespace FieldMeta

open Json.Decode in
def ofJson? (value : Json) : Option FieldMeta := do
  let fields ← members? ["id", "name", "type", "options"] value
  let id ← field? fields "id" string?
  let name ← field? fields "name" string?
  let type ← field? fields "type" string?
  let options ← maybe? fields "options" value?
  return { id, name, type, options }

def option? (f : FieldMeta) (key : String) : Option Json :=
  match f.options with
  | some (.object fields) => Record.get? fields key
  | _ => none

/-- The named choices of a selection. -/
def choices (f : FieldMeta) : List String :=
  match f.option? "choices" with
  | some (.array choices) =>
    choices.filterMap fun choice =>
      ((choice.asObject?).bind fun fields => Record.get? fields "name").bind Json.asString?
  | _ => []

end FieldMeta

namespace TableMeta

open Json.Decode in
def ofJson? (value : Json) : Option TableMeta := do
  let fields ← members? ["id", "name", "primaryFieldId", "fields"] value
  let id ← field? fields "id" string?
  let name ← field? fields "name" string?
  let primaryFieldId ← maybe? fields "primaryFieldId" string?
  let columns ← fieldOr? fields "fields" [] (list? FieldMeta.ofJson?)
  return { id, name, primaryFieldId, fields := columns }

/-- The tables of a payload. -/
def tables? (payload : Json) : Option (List TableMeta) := do
  let fields ← Json.Decode.members? ["tables"] payload
  Json.Decode.field? fields "tables" (Json.Decode.list? ofJson?)

/-- The table of that name, or else of that id. -/
def find? (tables : List TableMeta) (name : String) : Option TableMeta :=
  match tables.find? fun t => t.name == name with
  | some t => some t
  | none => tables.find? fun t => t.id == name

def stringTypes : List String :=
  ["singleLineText", "multilineText", "richText", "email", "url", "phoneNumber", "barcode"]

def numberTypes : List String :=
  ["number", "currency", "percent", "rating", "duration", "autoNumber", "count"]

def dateTypes : List String := ["date", "dateTime", "createdTime", "lastModifiedTime"]

def jsonTypes : List String :=
  ["multipleRecordLinks", "multipleSelects", "multipleAttachments", "multipleLookupValues", "rollup",
    "formula", "singleCollaborator", "multipleCollaborators", "createdBy", "lastModifiedBy"]

def columnType (type : String) : ColumnType :=
  if stringTypes.contains type then .string
  else if numberTypes.contains type then .number
  else if type = "checkbox" then .boolean
  else if dateTypes.contains type then .date
  else if type = "singleSelect" then .enum
  else if jsonTypes.contains type then .json
  else .unknown

/-- The native type of record ids. -/
def recordIdType : String := "recordId"

def idColumn : Column :=
  ((Column.ofType Formula.recordId .string).asPrimary).withNativeType recordIdType

/-- The table that a field of links points at. -/
def linked? (tables : List TableMeta) (f : FieldMeta) : Option TableMeta :=
  match f.option? "linkedTableId" with
  | some (.string id) => tables.find? fun t => t.id == id
  | _ => none

/-- The column of a field, and its link if it holds links to a known table. -/
def column (t : TableMeta) (tables : List TableMeta) (f : FieldMeta) : Column × Option Relation :=
  let column := (Column.ofType f.name (columnType f.type)).withNativeType f.type
  if f.type = "singleSelect" then (column.withEnumValues f.choices, none)
  else if f.type = "multipleRecordLinks" then
    match linked? tables f with
    | some other =>
      (column.asForeign, some (Relation.link other.name Formula.recordId t.name f.name))
    | none => (column, none)
  else if f.type = "autoNumber" then
    ({ column with extra := { column.extra with autoIncrement := true } }, none)
  else (column, none)

/-- The schema of a table; the record id is its key. -/
def schema (t : TableMeta) (tables : List TableMeta) : Schema :=
  let columns := t.fields.map (column t tables)
  (columns.filterMap (·.2)).foldl Schema.addRelation
    (Schema.ofColumns t.name (idColumn :: columns.map (·.1)))

end TableMeta

namespace Column

def describedField (c : Column) (type : String) (options : Option Json) : Json :=
  .object ([("name", .string c.field)]
    ++ (match options with
      | some options => [("options", options)]
      | none => [])
    ++ [("type", .string type)])

/-- How a new field is described to the service; with the id of a linked table it holds links. -/
def fieldDefinition (c : Column) (linkedTableId : Option String) : Json :=
  match linkedTableId with
  | some id =>
    c.describedField "multipleRecordLinks" (some (.object [("linkedTableId", .string id)]))
  | none =>
    match c.type with
    | .string =>
      if c.extra.length.any (255 < ·) then c.describedField "multilineText" none
      else c.describedField "singleLineText" none
    | .number => c.describedField "number" (some (.object [("precision", .nat 8)]))
    | .boolean =>
      c.describedField "checkbox"
        (some (.object [("color", .string "greenBright"), ("icon", .string "check")]))
    | .date =>
      c.describedField "dateTime"
        (some (.object
          [("dateFormat", .object [("name", .string "iso")]),
            ("timeFormat", .object [("name", .string "24hour")]),
            ("timeZone", .string "utc")]))
    | .enum =>
      let choices := c.extra.enumValues.map fun v => Json.object [("name", .string v)]
      c.describedField "singleSelect" (some (.object [("choices", .array choices)]))
    | .json | .unknown => c.describedField "multilineText" none

end Column

end DataAccess
