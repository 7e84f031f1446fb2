import DataAccess.Document.Value
import DataAccess.Text.Like

/-!
Filter documents. A condition on a field is the value that the field equals, or an object of
operators; several conditions are joined under `$and`.
-/

namespace DataAccess

namespace Document

def textOf : Option Json → String
  | some .null | none => ""
  | some value => value.shown

def clause (operator : String) (value : Json) : Json := .object [(operator, value)]

/-- An order comparison, which needs a value. -/
def ordered (column : Column) (operator : String) (value : Option Json) : Except EngineError Json :=
  match value with
  | some .null | none => .error (.invalidValue column.field "a value" "null")
  | some value => (ofValue column value).map (clause operator)

def likeClause (value : Option Json) : Json :=
  clause "$regex" (.string (Like.toRegex (textOf value)))

/-- The condition that a predicate puts on its field. -/
def condition (column : Column) (p : Predicate) : Except EngineError Json :=
  match p.operator with
  | .equals =>
    match p.value with
    | some value => ofValue column value
    | none => .ok .null
  | .notEquals => (ofValue column (p.value.getD .null)).map (clause "$ne")
  | .lt => ordered column "$lt" p.value
  | .lte => ordered column "$lte" p.value
  | .gt => ordered column "$gt" p.value
  | .gte => ordered column "$gte" p.value
  | .like => .ok (likeClause p.value)
  | .notLike => .ok (clause "$not" (likeClause p.value))
  | .search =>
    .ok (.object [("$options", .string "i"), ("$regex", .string (Like.literalRegex (textOf p.value)))])
  | .isIn => (p.listValues.mapM (ofValue column)).map fun items => clause "$in" (.array items)
  | .notIn => (p.listValues.mapM (ofValue column)).map fun items => clause "$nin" (.array items)
  | .null => .ok .null
  | .notNull => .ok (clause "$ne" .null)

/-- The filter of one predicate, which is on a field of the collection itself. -/
def predicateFilter (schema : Schema) (p : Predicate) : Except EngineError Record :=
  if p.isRelation then .error (.unsupported "document store" "filters on related collections")
  else
    match schema.column? p.column with
    | none => .error (.columnNotFound schema.table p.column)
    | some column => (condition column p).map fun c => [(p.column, c)]

def joinFilters : List Record → Record
  | [] => []
  | [filter] => filter
  | filters => [("$and", .array (filters.map .object))]

def filter (schema : Schema) (predicates : List Predicate) : Except EngineError Record :=
  (predicates.mapM (predicateFilter schema)).map joinFilters

/-- The fields to sort by and their directions; those of related collections are dropped. -/
def sortKeys (sort : List SortCondition) : List (String × Int) :=
  (sort.filter fun s => !isRelationReference s.column).map fun s =>
    (s.column, match s.direction with
      | .ascending => 1
      | .descending => -1)

/-- Whether a string starts with the mark of operators. -/
def isOperatorKey (key : String) : Bool := key.toList.head? == some '$'

end Document

end DataAccess
