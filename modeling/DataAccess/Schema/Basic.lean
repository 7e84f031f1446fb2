import DataAccess.Error
import DataAccess.Schema.Column
import DataAccess.Text.Case

/-!
Tables and the links between them. A relation is read from the side that owns it: its join condition
is `orgTable.orgColumn = table.column`. It carries the related table's schema once it is requested.
-/

namespace DataAccess

structure RelationTo (σ : Type) where
  table : String
  column : String
  orgTable : String
  orgColumn : String
  schema : Option σ
  deriving Repr, Inhabited

structure Schema where
  table : String
  primaryKey : Option String
  columns : List Column
  relations : List (RelationTo Schema)
  deriving Repr, Inhabited

abbrev Relation := RelationTo Schema

namespace Relation

def link (table column orgTable orgColumn : String) : Relation :=
  ⟨table, column, orgTable, orgColumn, none⟩

/-- The same link seen from the related table. -/
def reversed (r : Relation) : Relation := link r.orgTable r.orgColumn r.table r.column

/-- Whether two relations are one link; attached schemas do not count. -/
def sameLink (a b : Relation) : Bool :=
  a.table == b.table && a.column == b.column && a.orgTable == b.orgTable
    && a.orgColumn == b.orgColumn

end Relation

/-- Changes the first column of a name. -/
def Column.changeFirst (field : String) (change : Column → Column) : List Column → List Column
  | [] => []
  | c :: rest => if c.field = field then change c :: rest else c :: changeFirst field change rest

namespace Schema

/-- A schema without relations, keyed by its first primary column. -/
def ofColumns (table : String) (columns : List Column) : Schema :=
  { table, columns, relations := []
    primaryKey := (columns.find? (·.primaryKey)).map (·.field) }

/-- Adds a relation unless its link is there. -/
def addRelation (s : Schema) (r : Relation) : Schema :=
  if s.relations.any (Relation.sameLink · r) then s else { s with relations := s.relations ++ [r] }

def column? (s : Schema) (field : String) : Option Column :=
  s.columns.find? fun c => c.field == field

def hasColumn (s : Schema) (field : String) : Bool := (s.column? field).isSome

/-- The first relation to a table of that name, or else of that name in another letter case. -/
def relation? (s : Schema) (table : String) : Option Relation :=
  match s.relations.find? fun r => r.table == table with
  | some r => some r
  | none => s.relations.find? fun r => Text.equalIgnoringCase r.table table

def uniqueColumns (s : Schema) : List Column := s.columns.filter (·.uniqueKey)

def fieldNames (s : Schema) : List String := s.columns.map (·.field)

/-- The key that writes go by: the first primary column, or else the declared key. -/
def key? (s : Schema) : Option String :=
  match s.columns.find? (·.primaryKey) with
  | some c => some c.field
  | none => s.primaryKey

def key (s : Schema) : Except EngineError String :=
  match s.key? with
  | some field => .ok field
  | none => .error (.primaryKeyMissing s.table)

end Schema

end DataAccess
