import DataAccess.Query.Predicate
import DataAccess.Schema.Basic

/-!
What a read asks for: fields, filters, relations, sort and page. An empty list of fields means all.
-/

namespace DataAccess

inductive JoinType
  | inner
  | left
  | right
  deriving DecidableEq, Repr, Inhabited

namespace JoinType

def all : List JoinType := [.inner, .left, .right]

def name : JoinType → String
  | inner => "INNER"
  | left => "LEFT"
  | right => "RIGHT"

def clause : JoinType → String
  | inner => "INNER JOIN"
  | left => "LEFT JOIN"
  | right => "RIGHT JOIN"

/-- The join of that name in any letter case. The error shows the name in lower case. -/
def ofName (s : String) : Except EngineError JoinType :=
  match all.find? fun join => Text.lower join.name == Text.lower s with
  | some join => .ok join
  | none => .error (.invalidValue "join" "inner, left or right" (Text.lower s))

end JoinType

/-- The columns that a list of fields selects, in the order of the list. -/
def Schema.select (s : Schema) (fields : List String) : List Column :=
  if fields.isEmpty then s.columns else fields.filterMap s.column?

/-- A relation that the caller wants expanded, and the fields of the related rows. -/
structure RelationRequest where
  relation : Relation
  join : JoinType
  fields : List String
  deriving Repr, Inhabited

namespace RelationRequest

def table (r : RelationRequest) : String := r.relation.table

def schema? (r : RelationRequest) : Option Schema := r.relation.schema

/-- Whether the join column is the related table's key, so that at most one row matches. -/
def isToOne (r : RelationRequest) : Bool :=
  match r.schema? with
  | some schema => schema.primaryKey == some r.relation.column
  | none => true

def projected (r : RelationRequest) : List Column :=
  match r.schema? with
  | some schema => schema.select r.fields
  | none => []

end RelationRequest

structure FindOptions where
  schema : Schema
  fields : List String
  filters : List Predicate
  relations : List RelationRequest
  sort : List SortCondition
  limit : Nat
  offset : Nat
  deriving Repr, Inhabited

namespace FindOptions

def defaultLimit : Nat := 20

def ofSchema (schema : Schema) : FindOptions :=
  ⟨schema, [], [], [], [], defaultLimit, 0⟩

def table (o : FindOptions) : String := o.schema.table

def projected (o : FindOptions) : List Column := o.schema.select o.fields

def request? (o : FindOptions) (table : String) : Option RelationRequest :=
  o.relations.find? fun r => r.table == table

/-- The column that a plain or dotted reference names. -/
def column? (o : FindOptions) (reference : String) : Option Column :=
  match splitReference? reference with
  | some (table, column) => do
    let request ← o.request? table
    let schema ← request.schema?
    schema.column? column
  | none => o.schema.column? reference

end FindOptions

/-- The largest value of a count, a limit or an offset. -/
def greatestCount : Nat := 18446744073709551615

end DataAccess
