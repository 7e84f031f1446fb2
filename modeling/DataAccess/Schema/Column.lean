import DataAccess.Json.Basic

/-!
Columns and their canonical types.
-/

namespace DataAccess

inductive ColumnType
  | string
  | number
  | boolean
  | date
  | json
  | enum
  | unknown
  deriving DecidableEq, Repr, Inhabited

namespace ColumnType

def all : List ColumnType := [.string, .number, .boolean, .date, .json, .enum, .unknown]

def name : ColumnType → String
  | string => "STRING"
  | number => "NUMBER"
  | boolean => "BOOLEAN"
  | date => "DATE"
  | json => "JSON"
  | enum => "ENUM"
  | unknown => "UNKNOWN"

def ofName? (s : String) : Option ColumnType := all.find? fun type => type.name == s

end ColumnType

/-- What a store says of a column beyond its canonical type. -/
structure ColumnExtra where
  length : Option Nat
  autoIncrement : Bool
  enumValues : List String
  nativeType : Option String
  deriving DecidableEq, Repr, Inhabited

def ColumnExtra.empty : ColumnExtra := ⟨none, false, [], none⟩

structure Column where
  field : String
  type : ColumnType
  nullable : Bool
  required : Bool
  primaryKey : Bool
  uniqueKey : Bool
  foreignKey : Bool
  default : Option Json
  extra : ColumnExtra
  deriving DecidableEq, Repr, Inhabited

namespace Column

/-- A nullable column without a key. -/
def ofType (field : String) (type : ColumnType) : Column :=
  ⟨field, type, true, false, false, false, false, none, .empty⟩

/-- The column as a primary key that the store generates. -/
def asPrimary (c : Column) : Column :=
  { c with primaryKey := true, nullable := false, extra := { c.extra with autoIncrement := true } }

def asUnique (c : Column) : Column := { c with uniqueKey := true }

def asRequired (c : Column) : Column := { c with required := true, nullable := false }

def asForeign (c : Column) : Column := { c with foreignKey := true }

def withDefault (c : Column) (value : Json) : Column := { c with default := some value }

def withLength (c : Column) (length : Nat) : Column :=
  { c with extra := { c.extra with length := some length } }

def withEnumValues (c : Column) (values : List String) : Column :=
  { c with extra := { c.extra with enumValues := values } }

def withNativeType (c : Column) (native : String) : Column :=
  { c with extra := { c.extra with nativeType := some native } }

end Column

end DataAccess
