import DataAccess.Error
import DataAccess.Json.Basic
import DataAccess.Text.Blank
import DataAccess.Text.Case
import DataAccess.Text.Split

/-!
Conditions on rows, sort entries, and references to columns. A reference with a dot names a column
of a related table.
-/

namespace DataAccess

inductive Operator
  | equals
  | notEquals
  | lt
  | lte
  | gt
  | gte
  | like
  | notLike
  | isIn
  | notIn
  | null
  | notNull
  | search
  deriving DecidableEq, Repr, Inhabited

namespace Operator

def all : List Operator :=
  [.equals, .notEquals, .lt, .lte, .gt, .gte, .like, .notLike, .isIn, .notIn, .null, .notNull,
    .search]

def name : Operator → String
  | equals => "equals"
  | notEquals => "not_equals"
  | lt => "lt"
  | lte => "lte"
  | gt => "gt"
  | gte => "gte"
  | like => "like"
  | notLike => "not_like"
  | isIn => "in"
  | notIn => "not_in"
  | null => "null"
  | notNull => "not_null"
  | search => "search"

def takesValue : Operator → Bool
  | null | notNull => false
  | _ => true

def takesList : Operator → Bool
  | isIn | notIn => true
  | _ => false

/-- The operator of that name in any letter case. -/
def ofName (s : String) : Except EngineError Operator :=
  match all.find? fun op => Text.equalIgnoringCase op.name s with
  | some op => .ok op
  | none => .error (.operatorNotFound s)

end Operator

/-- The table and the column of a reference with a dot, cut at the first one. -/
def splitReference? (reference : String) : Option (String × String) :=
  Text.splitOnce '.' reference

def isRelationReference (reference : String) : Bool := reference.toList.contains '.'

structure Predicate where
  column : String
  operator : Operator
  value : Option Json
  deriving DecidableEq, Repr, Inhabited

namespace Predicate

def equals (column : String) (value : Json) : Predicate := ⟨column, .equals, some value⟩

def isRelation (p : Predicate) : Bool := isRelationReference p.column

/-- The values of a list operator: the items of an array, the parts of a text between commas that
are not blank, or the one value there is. -/
def listValues (p : Predicate) : List Json :=
  match p.value with
  | some (.array items) => items
  | some (.string s) =>
    (((Text.split ',' s).map Text.trim).filter (· ≠ "")).map .string
  | some .null | none => []
  | some other => [other]

end Predicate

inductive SortDirection
  | ascending
  | descending
  deriving DecidableEq, Repr, Inhabited

namespace SortDirection

def name : SortDirection → String
  | ascending => "ASC"
  | descending => "DESC"

def ofName (s : String) : Except EngineError SortDirection :=
  if Text.lower s = "asc" then .ok ascending
  else if Text.lower s = "desc" then .ok descending
  else .error (.invalidSort s)

end SortDirection

structure SortCondition where
  column : String
  direction : SortDirection
  deriving DecidableEq, Repr, Inhabited

end DataAccess
