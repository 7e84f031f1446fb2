import DataAccess.Json.Decode
import DataAccess.Json.Reader
import DataAccess.Schema.Basic

/-!
Schemas as JSON. They are written with their fields in a fixed order; absent members of a column's
extra data are left out. A reader takes fields in any order and passes over others.
-/

namespace DataAccess

namespace ColumnExtra

def toJson (e : ColumnExtra) : Json :=
  .object
    ((match e.length with
        | some n => [("length", .nat n)]
        | none => [])
      ++ (if e.autoIncrement then [("auto_increment", .bool true)] else [])
      ++ (if e.enumValues.isEmpty then []
        else [("enum_values", .array (e.enumValues.map .string))])
      ++ (match e.nativeType with
        | some native => [("native_type", .string native)]
        | none => []))

def members : List String := ["length", "auto_increment", "enum_values", "native_type"]

def ofJson? (value : Json) : Option ColumnExtra := do
  let fields ← Json.Decode.members? members value
  let length ← Json.Decode.maybe? fields "length" (Json.Decode.word? 32)
  let autoIncrement ← Json.Decode.fieldOr? fields "auto_increment" false Json.Decode.bool?
  let enumValues ←
    Json.Decode.fieldOr? fields "enum_values" [] (Json.Decode.list? Json.Decode.string?)
  let nativeType ← Json.Decode.maybe? fields "native_type" Json.Decode.string?
  return ⟨length, autoIncrement, enumValues, nativeType⟩

end ColumnExtra

namespace Column

def toJson (c : Column) : Json :=
  .object
    ([("field", .string c.field), ("type", .string c.type.name), ("nullable", .bool c.nullable),
        ("required", .bool c.required), ("primary_key", .bool c.primaryKey),
        ("unique_key", .bool c.uniqueKey), ("foreign_key", .bool c.foreignKey)]
      ++ (match c.default with
        | some value => [("default", value)]
        | none => [])
      ++ [("extra", c.extra.toJson)])

def members : List String :=
  ["field", "type", "nullable", "required", "primary_key", "unique_key", "foreign_key", "default",
    "extra"]

/-- What is asked of a text: all but fields that are not known. -/
def asked : Json.Asked :=
  .fields (members.map fun name =>
    (name, if name = "extra" then .names ColumnExtra.members else .whole))

/-- A flag that is not given is off. -/
def flag? (fields : List (String × Json)) (name : String) : Option Bool :=
  Json.Decode.fieldOr? fields name false Json.Decode.bool?

def ofJson? (value : Json) : Option Column := do
  let fields ← Json.Decode.members? members value
  let field ← Json.Decode.field? fields "field" Json.Decode.string?
  let type ← Json.Decode.field? fields "type" (Json.Decode.named? ColumnType.ofName?)
  let nullable ← flag? fields "nullable"
  let required ← flag? fields "required"
  let primaryKey ← flag? fields "primary_key"
  let uniqueKey ← flag? fields "unique_key"
  let foreignKey ← flag? fields "foreign_key"
  let default ← Json.Decode.maybe? fields "default" Json.Decode.value?
  let extra ← Json.Decode.fieldOr? fields "extra" ColumnExtra.empty ColumnExtra.ofJson?
  return ⟨field, type, nullable, required, primaryKey, uniqueKey, foreignKey, default, extra⟩

end Column

namespace Schema

mutual

def toJson : Schema → Json
  | ⟨table, primaryKey, columns, relations⟩ =>
    .object
      [("table", .string table),
        ("primary_key", match primaryKey with
          | some key => .string key
          | none => .null),
        ("columns", .array (columns.map Column.toJson)),
        ("relations", .array (relationsToJson relations))]

def relationsToJson : List (RelationTo Schema) → List Json
  | [] => []
  | r :: rest => relationToJson r :: relationsToJson rest

def relationToJson : RelationTo Schema → Json
  | ⟨table, column, orgTable, orgColumn, schema⟩ =>
    .object
      ([("table", .string table), ("column", .string column), ("org_table", .string orgTable),
          ("org_column", .string orgColumn)]
        ++ attachedFields schema)

/-- The field of an attached schema; without one there is no field. -/
def attachedFields : Option Schema → List (String × Json)
  | none => []
  | some schema => [("schema", toJson schema)]

end

def members : List String := ["table", "primary_key", "columns", "relations"]

def relationMembers : List String := ["table", "column", "org_table", "org_column", "schema"]

/-- What is asked of a text with at most `depth` schemas inside each other. -/
def askedNested : Nat → Json.Asked
  | 0 => .whole
  | depth + 1 =>
    let relation : Json.Asked := .fields (relationMembers.map fun name =>
      (name, if name = "schema" then askedNested depth else .whole))
    .fields [("table", .whole), ("primary_key", .whole), ("columns", .items Column.asked),
      ("relations", .items relation)]

/-- What is asked of a text: all but fields that are not known, at every depth that a text can have. -/
def asked : Json.Asked := askedNested Json.Reader.depthLimit

/-- A relation, its schema read by the given reader. -/
def relationWith? (schema? : Json → Option Schema) (value : Json) : Option Relation := do
  let fields ← Json.Decode.members? relationMembers value
  let table ← Json.Decode.field? fields "table" Json.Decode.string?
  let column ← Json.Decode.field? fields "column" Json.Decode.string?
  let orgTable ← Json.Decode.field? fields "org_table" Json.Decode.string?
  let orgColumn ← Json.Decode.field? fields "org_column" Json.Decode.string?
  let schema ← Json.Decode.maybe? fields "schema" schema?
  return ⟨table, column, orgTable, orgColumn, schema⟩

/-- A schema with at most `depth` schemas inside each other. -/
def readNested? : Nat → Json → Option Schema
  | 0, _ => none
  | depth + 1, value => do
    let fields ← Json.Decode.members? members value
    let table ← Json.Decode.field? fields "table" Json.Decode.string?
    let primaryKey ← Json.Decode.maybe? fields "primary_key" Json.Decode.string?
    let columns ← Json.Decode.field? fields "columns" (Json.Decode.list? Column.ofJson?)
    let relations ← Json.Decode.fieldOr? fields "relations" []
      (Json.Decode.list? (relationWith? (readNested? depth)))
    return ⟨table, primaryKey, columns, relations⟩

def ofJson? (value : Json) : Option Schema := readNested? (value.depth + 1) value

end Schema

namespace Relation

def toJson (r : Relation) : Json := Schema.relationToJson r

def ofJson? (value : Json) : Option Relation := Schema.relationWith? Schema.ofJson? value

end Relation

end DataAccess
