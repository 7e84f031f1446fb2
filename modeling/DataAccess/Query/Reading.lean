import DataAccess.Coercion
import DataAccess.Query.Params

/-!
Request parameters read against a schema, and the check of what was read. A dotted reference needs a
known relation here; its column is checked once the related schema is attached.
-/

namespace DataAccess

/-- A relation named in a request. -/
structure RequestedRelation where
  table : String
  join : JoinType
  deriving DecidableEq, Repr, Inhabited

namespace Reading

/-- Column and operator of a key `column[operator]`; a bare column stands for equality. -/
def key (text : String) : Except EngineError (String × Operator) :=
  match Text.splitOnceChars '[' text.toList with
  | some (column, rest) => do
    let inner := (Text.dropEnd? [']'] rest).getD rest
    let operator ← Operator.ofName (String.ofList (Text.trimChars inner))
    return (String.ofList (Text.trimChars column), operator)
  | none => .ok (Text.trim text, .equals)

def checkRelation (schema : Schema) (table : String) : Except EngineError Unit :=
  if (schema.relation? table).isSome then .ok ()
  else .error (.relationNotFound schema.table table)

def checkReference (schema : Schema) (reference : String) : Except EngineError Unit :=
  match splitReference? reference with
  | some (table, _) => checkRelation schema table
  | none =>
    if schema.hasColumn reference then .ok ()
    else .error (.columnNotFound schema.table reference)

def filter (schema : Schema) (pair : String × String) : Except EngineError Predicate := do
  let (column, operator) ← key pair.1
  checkReference schema column
  return ⟨column, operator, if operator.takesValue then some (.string pair.2) else none⟩

def filters (schema : Schema) (params : Params) : Except EngineError (List Predicate) :=
  params.conditions.mapM (filter schema)

/-- The parts of a list between commas, without blanks around them and without empty ones. -/
def entries (raw : String) : List String :=
  ((Text.split ',' raw).map Text.trim).filter (· ≠ "")

/-- A column and a direction after the last dot; a bare column sorts upwards. -/
def sortEntry (schema : Schema) (entry : String) : Except EngineError SortCondition := do
  let (column, direction) ← match Text.splitLast '.' entry with
    | some (column, word) =>
      match SortDirection.ofName word with
      | .ok direction => .ok (column, direction)
      | .error _ => .error (.invalidSort entry)
    | none => .ok (entry, .ascending)
  checkReference schema column
  return ⟨column, direction⟩

def sort (schema : Schema) (raw : String) : Except EngineError (List SortCondition) :=
  (entries raw).mapM (sortEntry schema)

/-- The selected fields: those of the table, and those of relations with their table. -/
structure Fields where
  base : List String
  related : List (String × String)
  deriving DecidableEq, Repr, Inhabited

def Fields.ofList : List String → Fields
  | [] => ⟨[], []⟩
  | field :: rest =>
    let fields := ofList rest
    match splitReference? field with
    | some pair => { fields with related := pair :: fields.related }
    | none => { fields with base := field :: fields.base }

def fields (schema : Schema) (raw : String) : Except EngineError Fields := do
  let names := entries raw
  names.forM (checkReference schema)
  return Fields.ofList names

/-- A related table and a join after a colon; a bare table is joined inside. -/
def relationEntry (schema : Schema) (entry : String) : Except EngineError RequestedRelation := do
  let (table, join) ← match Text.splitOnce ':' entry with
    | some (table, word) => (JoinType.ofName word).map fun join => (Text.trim table, join)
    | none => .ok (entry, .inner)
  checkRelation schema table
  return ⟨table, join⟩

def relations (schema : Schema) (raw : String) : Except EngineError (List RequestedRelation) :=
  (entries raw).mapM (relationEntry schema)

end Reading

namespace Validation

/-- Whether a column of that type can be compared with the value. -/
def fits (type : ColumnType) (value : Json) : Bool :=
  match type, value with
  | _, .null => true
  | .number, .number _ => true
  | .number, .string s => (Coercion.number? s).isSome
  | .number, _ => false
  | .boolean, value => (Coercion.boolean? value).isSome
  | .date, .string s => (Timestamp.read? s).isSome
  | .date, .number _ => true
  | .date, _ => false
  | _, _ => true

def checkValue (column : Column) (value : Json) : Except EngineError Unit :=
  if fits column.type value then .ok ()
  else .error (.invalidValue column.field column.type.name value.shown)

/-- Checks the values of a condition against its column. Patterns compare texts and always pass. -/
def checkPredicate (column : Column) (p : Predicate) : Except EngineError Unit :=
  match p.operator with
  | .like | .notLike | .search | .null | .notNull => .ok ()
  | .isIn | .notIn => p.listValues.forM (checkValue column)
  | .equals | .notEquals | .lt | .lte | .gt | .gte =>
    match p.value with
    | some value => checkValue column value
    | none => .ok ()

def resolve (options : FindOptions) (reference : String) : Except EngineError Column :=
  match options.column? reference with
  | some column => .ok column
  | none =>
    match splitReference? reference with
    | some (table, column) => .error (.columnNotFound table column)
    | none => .error (.columnNotFound options.table reference)

def checkFilter (options : FindOptions) (p : Predicate) : Except EngineError Unit := do
  checkPredicate (← resolve options p.column) p

def checkRelatedField (request : RelationRequest) (field : String) : Except EngineError Unit :=
  match request.schema? with
  | some schema =>
    if schema.hasColumn field then .ok () else .error (.columnNotFound request.table field)
  | none => .ok ()

/-- Every reference names a column, and every value fits its column. -/
def checkFind (options : FindOptions) : Except EngineError Unit := do
  options.filters.forM (checkFilter options)
  options.sort.forM fun s => (resolve options s.column).map fun _ => ()
  options.fields.forM fun field => (resolve options field).map fun _ => ()
  options.relations.forM fun request => request.fields.forM (checkRelatedField request)

end Validation

end DataAccess
