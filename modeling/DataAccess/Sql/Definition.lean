import DataAccess.Sql.Statement

/-!
Tables as SQL definitions. Values occur here as literals, which are escaped.
-/

namespace DataAccess

/-- Whether a column is a primary key that the store generates. -/
def Column.isGeneratedKey (c : Column) : Bool :=
  c.primaryKey && c.extra.autoIncrement && c.type == .number

/-- Whether a column holds keys, its own or another table's. -/
def Column.holdsKeys (c : Column) : Bool := c.primaryKey || c.foreignKey

/-- The enum values as literals with commas between them. -/
def Column.enumLiterals (c : Column) : String :=
  Text.join ", " (c.extra.enumValues.map Text.literal)

namespace SqlDialect

/-- A value as a literal. -/
def literal (d : SqlDialect) : Json → String
  | .null => "NULL"
  | .bool b =>
    if d.capabilities.nativeBoolean then (if b then "TRUE" else "FALSE") else (if b then "1" else "0")
  | .number n => n.text
  | .string s => Text.literal s
  | other => Text.literal other.compact

def sized (type : String) (column : Column) : String :=
  type ++ "(" ++ String.ofList (Decimal.digitChars (column.extra.length.getD 255)) ++ ")"

def enumTypeName (table : String) (column : Column) : String := s!"{table}_{column.field}_enum"

/-- The type with which a column is declared. -/
def declaredType (d : SqlDialect) (table : String) (c : Column) : String :=
  match d, c.type with
  | mysql, .string => sized "VARCHAR" c
  | mysql, .number => if c.holdsKeys then "INT" else "DOUBLE"
  | mysql, .boolean => "TINYINT(1)"
  | mysql, .date => "DATETIME"
  | mysql, .json => "JSON"
  | mysql, .enum => "ENUM(" ++ c.enumLiterals ++ ")"
  | mysql, .unknown => "TEXT"
  | postgres, .string => sized "VARCHAR" c
  | postgres, .number =>
    if c.isGeneratedKey then "SERIAL" else if c.holdsKeys then "INTEGER" else "DOUBLE PRECISION"
  | postgres, .boolean => "BOOLEAN"
  | postgres, .date => "TIMESTAMP"
  | postgres, .json => "JSONB"
  | postgres, .enum => d.quote (enumTypeName table c)
  | postgres, .unknown => "TEXT"
  | mssql, .string | mssql, .enum => sized "NVARCHAR" c
  | mssql, .number => if c.holdsKeys then "INT" else "FLOAT"
  | mssql, .boolean => "BIT"
  | mssql, .date => "DATETIME2"
  | mssql, .json | mssql, .unknown => "NVARCHAR(MAX)"
  | oracle, .string | oracle, .enum => sized "VARCHAR2" c
  | oracle, .number => if c.holdsKeys then "NUMBER(10)" else "NUMBER"
  | oracle, .boolean => "NUMBER(1)"
  | oracle, .date => "TIMESTAMP"
  | oracle, .json | oracle, .unknown => "CLOB"
  | sqlite, .string | sqlite, .enum | sqlite, .unknown => "TEXT"
  | sqlite, .number => if c.holdsKeys then "INTEGER" else "REAL"
  | sqlite, .boolean => "BOOLEAN"
  | sqlite, .date => "DATETIME"
  | sqlite, .json => "JSON"

def spaced (word : Option String) : String :=
  match word with
  | some word => " " ++ word
  | none => ""

/-- The clause of a column: name, type, default, nullability and key, with a word after the type and
one at the end. -/
def columnClause (d : SqlDialect) (c : Column) (type : String) (afterType atEnd : Option String) :
    String :=
  d.quote c.field ++ " " ++ type ++ spaced afterType
    ++ (match c.default with
      | some value => " DEFAULT " ++ d.literal value
      | none => "")
    ++ (if c.primaryKey || !c.nullable then " NOT NULL" else "")
    ++ (if c.primaryKey then " PRIMARY KEY" else if c.uniqueKey then " UNIQUE" else "")
    ++ spaced atEnd

/-- The words that make a key generated: after the type, and at the end. -/
def generationWords : SqlDialect → Option String × Option String
  | mysql => (some "AUTO_INCREMENT", none)
  | mssql => (some "IDENTITY(1,1)", none)
  | sqlite => (none, some "AUTOINCREMENT")
  | postgres | oracle => (none, none)

def columnDefinition (d : SqlDialect) (table : String) (c : Column) : String :=
  let words := if c.isGeneratedKey then d.generationWords else (none, none)
  d.columnClause c (d.declaredType table c) words.1 words.2

/-- Whether enum columns are held to their values by a check. -/
def checksEnums : SqlDialect → Bool
  | mssql | oracle | sqlite => true
  | mysql | postgres => false

/-- Whether foreign keys are added to a table once it exists. -/
def altersForeignKeys : SqlDialect → Bool
  | sqlite => false
  | mysql | postgres | mssql | oracle => true

/-- What must exist before a table. -/
def beforeTable (d : SqlDialect) (s : Schema) : List String :=
  match d with
  | postgres =>
    (s.columns.filter fun c => c.type == .enum).map fun c =>
      "CREATE TYPE " ++ d.quote (enumTypeName s.table c) ++ " AS ENUM (" ++ c.enumLiterals ++ ")"
  | _ => []

/-- What must follow a table. -/
def afterTable (d : SqlDialect) (s : Schema) : List String :=
  match d, s.columns.find? (·.isGeneratedKey) with
  | oracle, some c =>
    let table := d.quote s.table
    let sequence := d.quote s!"{s.table}_{c.field}_seq"
    let trigger := d.quote s!"{s.table}_{c.field}_trg"
    let column := d.quote c.field
    [s!"CREATE SEQUENCE {sequence} START WITH 1 INCREMENT BY 1",
      s!"CREATE OR REPLACE TRIGGER {trigger} BEFORE INSERT ON {table} FOR EACH ROW "
        ++ s!"WHEN (NEW.{column} IS NULL) "
        ++ s!"BEGIN SELECT {sequence}.NEXTVAL INTO :NEW.{column} FROM DUAL; END;"]
  | _, _ => []

def enumChecks (d : SqlDialect) (s : Schema) : List String :=
  if d.checksEnums then
    (s.columns.filter fun c => !c.extra.enumValues.isEmpty).map fun c =>
      "CONSTRAINT " ++ d.quote s!"ck_{s.table}_{c.field}" ++ " CHECK (" ++ d.quote c.field
        ++ " IN (" ++ c.enumLiterals ++ "))"
  else []

/-- The relations that become foreign keys: those of a column of the table that is flagged as one. -/
def foreignKeys (s : Schema) : List Relation :=
  s.relations.filter fun r =>
    r.orgTable == s.table && (s.column? r.orgColumn).any fun c => c.foreignKey

def references (d : SqlDialect) (r : Relation) : String :=
  "FOREIGN KEY (" ++ d.quote r.orgColumn ++ ") REFERENCES " ++ d.quote r.table ++ "("
    ++ d.quote r.column ++ ")"

/-- The statements that create a table, in order. -/
def createTable (d : SqlDialect) (s : Schema) : List CompiledQuery :=
  let foreign := foreignKeys s
  let inner := if d.altersForeignKeys then [] else foreign.map d.references
  let definitions := s.columns.map (d.columnDefinition s.table) ++ d.enumChecks s ++ inner
  let alterations :=
    if d.altersForeignKeys then
      foreign.map fun r =>
        "ALTER TABLE " ++ d.quote s.table ++ " ADD CONSTRAINT "
          ++ d.quote s!"fk_{s.table}_{r.orgColumn}" ++ " " ++ d.references r
    else []
  let create := "CREATE TABLE " ++ d.quote s.table ++ " (" ++ Text.join ", " definitions ++ ")"
  (d.beforeTable s ++ create :: d.afterTable s ++ alterations).map .ofText

end SqlDialect

end DataAccess
