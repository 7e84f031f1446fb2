import DataAccess.Query.Find
import DataAccess.Query.Params
import DataAccess.Schema.Json

/-!
Reads as JSON: conditions, sort entries, relation requests and their options. Names of operators,
directions and joins are exact here.
-/

namespace DataAccess

namespace Operator

def ofExactName? (s : String) : Option Operator := all.find? fun op => op.name == s

end Operator

namespace Predicate

def toJson (p : Predicate) : Json :=
  .object
    (("column", .string p.column) :: ("operator", .string p.operator.name) :: match p.value with
      | some value => [("value", value)]
      | none => [])

/-- A condition whose value is null is told apart from one without a value. -/
def ofJson? (value : Json) : Option Predicate := do
  let fields ← Json.Decode.members? ["column", "operator", "value"] value
  let column ← Json.Decode.field? fields "column" Json.Decode.string?
  let operator ← Json.Decode.field? fields "operator" (Json.Decode.named? Operator.ofExactName?)
  let value ← Json.Decode.fieldOr? fields "value" none fun v => (Json.Decode.value? v).map some
  return ⟨column, operator, value⟩

end Predicate

namespace SortDirection

def ofExactName? (s : String) : Option SortDirection :=
  [ascending, descending].find? fun direction => direction.name == s

end SortDirection

namespace SortCondition

def toJson (s : SortCondition) : Json :=
  .object [("column", .string s.column), ("direction", .string s.direction.name)]

def ofJson? (value : Json) : Option SortCondition := do
  let fields ← Json.Decode.members? ["column", "direction"] value
  let column ← Json.Decode.field? fields "column" Json.Decode.string?
  let direction ←
    Json.Decode.field? fields "direction" (Json.Decode.named? SortDirection.ofExactName?)
  return ⟨column, direction⟩

end SortCondition

namespace JoinType

def ofExactName? (s : String) : Option JoinType := all.find? fun join => join.name == s

end JoinType

namespace RelationRequest

def toJson (r : RelationRequest) : Json :=
  .object
    [("relation", r.relation.toJson), ("join", .string r.join.name),
      ("fields", .array (r.fields.map .string))]

/-- Without a join the inner one is meant, without fields all of them. -/
def ofJson? (value : Json) : Option RelationRequest := do
  let fields ← Json.Decode.members? ["relation", "join", "fields"] value
  let relation ← Json.Decode.field? fields "relation" Relation.ofJson?
  let join ← Json.Decode.fieldOr? fields "join" .inner (Json.Decode.named? JoinType.ofExactName?)
  let names ← Json.Decode.fieldOr? fields "fields" [] (Json.Decode.list? Json.Decode.string?)
  return ⟨relation, join, names⟩

end RelationRequest

namespace FindOptions

def toJson (o : FindOptions) : Json :=
  .object
    [("schema", o.schema.toJson), ("fields", .array (o.fields.map .string)),
      ("filters", .array (o.filters.map Predicate.toJson)),
      ("relations", .array (o.relations.map RelationRequest.toJson)),
      ("sort", .array (o.sort.map SortCondition.toJson)), ("limit", .nat o.limit),
      ("offset", .nat o.offset)]

def members : List String :=
  ["schema", "fields", "filters", "relations", "sort", "limit", "offset"]

def ofJson? (value : Json) : Option FindOptions := do
  let fields ← Json.Decode.members? members value
  let schema ← Json.Decode.field? fields "schema" Schema.ofJson?
  let names ← Json.Decode.fieldOr? fields "fields" [] (Json.Decode.list? Json.Decode.string?)
  let filters ←
    Json.Decode.fieldOr? fields "filters" [] (Json.Decode.list? Predicate.ofJson?)
  let relations ←
    Json.Decode.fieldOr? fields "relations" [] (Json.Decode.list? RelationRequest.ofJson?)
  let sort ← Json.Decode.fieldOr? fields "sort" [] (Json.Decode.list? SortCondition.ofJson?)
  let limit ← Json.Decode.fieldOr? fields "limit" defaultLimit (Json.Decode.word? 64)
  let offset ← Json.Decode.fieldOr? fields "offset" 0 (Json.Decode.word? 64)
  return ⟨schema, names, filters, relations, sort, limit, offset⟩

end FindOptions

namespace Params

def pair? : Json → Option (String × String)
  | .array [.string key, .string value] => some (key, value)
  | _ => none

def toJson (params : List (String × String)) : Json :=
  .array (params.map fun (key, value) => .array [.string key, .string value])

/-- Parameters as a list of pairs. -/
def ofJson? (value : Json) : Option Params := Json.Decode.list? pair? value

end Params

end DataAccess
