import DataAccess.Sql.Select

/-!
Writes as SQL, of values that are coerced already, and the counts that look for duplicates.
-/

namespace DataAccess

namespace SqlDialect

/-- A value to bind for a field of a table. -/
def fieldValue (schema : Schema) (field : String) (value : Json) : Piece :=
  .value (schema.column? field) (.ofJson value)

/-- An insertion that leaves every column to its default. -/
def emptyInsert (d : SqlDialect) (table key : String) : Statement :=
  match d with
  | mysql => [.code "INSERT INTO ", .name table, .code " () VALUES ()"]
  | oracle =>
    [.code "INSERT INTO ", .name table, .code " (", .name key, .code ") VALUES (NULL)"]
  | postgres | mssql | sqlite => [.code "INSERT INTO ", .name table, .code " DEFAULT VALUES"]

/-- What makes an insertion give back the generated key. -/
def identitySuffix (d : SqlDialect) (key : String) : Statement :=
  match d.identityReturn with
  | .returning => [.code " RETURNING ", .name key]
  | .scopeIdentity => [.code "; SELECT SCOPE_IDENTITY() AS ", .name key]
  | .returningInto => [.code " RETURNING ", .name key, .code " INTO ", .out]
  | .lastInsertId => []

def insertPieces (d : SqlDialect) (schema : Schema) (key : String) (data : Record)
    (returnIdentity : Bool) : Statement :=
  let body :=
    if data.isEmpty then d.emptyInsert schema.table key
    else
      [.code "INSERT INTO ", .name schema.table, .code " ("]
        ++ Statement.separated ", " (data.map fun entry => [.name entry.1])
        ++ .code ") VALUES ("
        :: Statement.separated ", " (data.map fun entry => [fieldValue schema entry.1 entry.2])
        ++ [.code ")"]
  body ++ (if returnIdentity then d.identitySuffix key else [])

def updatePieces (schema : Schema) (key : String) (data : Record) (id : Json) : Statement :=
  [.code "UPDATE ", .name schema.table, .code " SET "]
    ++ Statement.separated ", "
      (data.map fun entry =>
        [.name entry.1, .code " = ", fieldValue schema entry.1 entry.2])
    ++ [.code " WHERE ", .name key, .code " = ", fieldValue schema key id]

def deletePieces (schema : Schema) (key : String) (id : Json) : Statement :=
  [.code "DELETE FROM ", .name schema.table, .code " WHERE ", .name key, .code " = ",
    fieldValue schema key id]

/-- Counts the rows that hold a value in a column, other than the row of a key. -/
def duplicatesPieces (schema : Schema) (column : Column) (value : Json)
    (exclude : Option (String × Json)) : Statement :=
  [.code "SELECT COUNT(*) AS ", .name Source.totalColumn, .code " FROM ", .name schema.table,
    .code " WHERE ", .name column.field, .code " = ", .value (some column) (.ofJson value)]
    ++ match exclude with
      | some (key, id) => [.code " AND ", .name key, .code " <> ", fieldValue schema key id]
      | none => []

def insertQuery (d : SqlDialect) (schema : Schema) (key : String) (data : Record)
    (returnIdentity : Bool) : CompiledQuery :=
  Statement.compile d (d.insertPieces schema key data returnIdentity)

def updateQuery (d : SqlDialect) (schema : Schema) (key : String) (data : Record) (id : Json) :
    CompiledQuery :=
  Statement.compile d (updatePieces schema key data id)

def deleteQuery (d : SqlDialect) (schema : Schema) (key : String) (id : Json) : CompiledQuery :=
  Statement.compile d (deletePieces schema key id)

def duplicatesQuery (d : SqlDialect) (schema : Schema) (column : Column) (value : Json)
    (exclude : Option (String × Json)) : CompiledQuery :=
  Statement.compile d (duplicatesPieces schema column value exclude)

end SqlDialect

end DataAccess
