import DataAccess.Text.Described
import DataAccess.Text.Split

/-!
The errors of the engine. A validation error is caused by the request; the others come from the
store, its connection or its configuration.
-/

namespace DataAccess

inductive EngineError
  | schemaNotFound (table : String)
  | columnNotFound (table column : String)
  | operatorNotFound (operator : String)
  | invalidSort (value : String)
  | invalidValue (column expected value : String)
  | relationNotFound (table relation : String)
  | primaryKeyMissing (table : String)
  | duplicateRecord (column : String)
  | permissionDenied (table : String)
  | invalidCursor (message : String)
  | connection (message : String)
  | queryExecution (message : String)
  | unsupported (backend operation : String)
  | config (message : String)
  deriving DecidableEq, Repr, Inhabited

namespace EngineError

def message : EngineError → String
  | schemaNotFound table => s!"Schema not found for table '{table}'"
  | columnNotFound table column => s!"Column '{column}' not found in table '{table}'"
  | operatorNotFound operator => s!"Operator '{operator}' is not supported"
  | invalidSort value => s!"Invalid sort '{value}': expected column.asc or column.desc"
  | invalidValue column expected value =>
    s!"Invalid value for column '{column}': expected {expected}, got '{value}'"
  | relationNotFound table relation => s!"Relation '{relation}' not found on table '{table}'"
  | primaryKeyMissing table => s!"Table '{table}' has no primary key"
  | duplicateRecord column => s!"Duplicate value for unique column '{column}'"
  | permissionDenied table => s!"Access to table '{table}' denied"
  | invalidCursor message => s!"Invalid pagination cursor: {message}"
  | connection message => s!"Connection failed: {message}"
  | queryExecution message => s!"Query failed: {message}"
  | unsupported backend operation => s!"{backend} does not support {operation}"
  | config message => s!"Configuration error: {message}"

/-- Whether the request itself, not the store, causes the error. -/
def isValidation : EngineError → Bool
  | schemaNotFound .. | columnNotFound .. | operatorNotFound .. | invalidSort .. | invalidValue ..
  | relationNotFound .. | primaryKeyMissing .. | invalidCursor .. => true
  | duplicateRecord .. | permissionDenied .. | connection .. | queryExecution .. | unsupported ..
  | config .. => false

def name : EngineError → String
  | schemaNotFound .. => "SchemaNotFound"
  | columnNotFound .. => "ColumnNotFound"
  | operatorNotFound .. => "OperatorNotFound"
  | invalidSort .. => "InvalidSort"
  | invalidValue .. => "InvalidValue"
  | relationNotFound .. => "RelationNotFound"
  | primaryKeyMissing .. => "PrimaryKeyMissing"
  | duplicateRecord .. => "DuplicateRecord"
  | permissionDenied .. => "PermissionDenied"
  | invalidCursor .. => "InvalidCursor"
  | connection .. => "Connection"
  | queryExecution .. => "QueryExecution"
  | unsupported .. => "Unsupported"
  | config .. => "Config"

/-- What the error tells, each part under its name. -/
def details : EngineError → List (String × String)
  | schemaNotFound table | primaryKeyMissing table | permissionDenied table => [("table", table)]
  | columnNotFound table column => [("table", table), ("column", column)]
  | operatorNotFound operator => [("operator", operator)]
  | invalidSort value => [("value", value)]
  | invalidValue column expected value =>
    [("column", column), ("expected", expected), ("value", value)]
  | relationNotFound table relation => [("table", table), ("relation", relation)]
  | duplicateRecord column => [("column", column)]
  | invalidCursor message | connection message | queryExecution message | config message =>
    [("message", message)]
  | unsupported backend operation => [("backend", backend), ("operation", operation)]

/-- The error as diagnostics show it: its name and its details, texts in quotes. -/
def described (e : EngineError) : String :=
  let details := e.details.map fun (name, text) => name ++ ": " ++ Text.described text
  e.name ++ " \x7b " ++ Text.join ", " details ++ " \x7d"

/-- The error of a name, its details looked up by theirs. -/
def ofDetails? (name : String) (detail : String → Option String) : Option EngineError :=
  match name with
  | "SchemaNotFound" => do return schemaNotFound (← detail "table")
  | "ColumnNotFound" => do return columnNotFound (← detail "table") (← detail "column")
  | "OperatorNotFound" => do return operatorNotFound (← detail "operator")
  | "InvalidSort" => do return invalidSort (← detail "value")
  | "InvalidValue" => do
    return invalidValue (← detail "column") (← detail "expected") (← detail "value")
  | "RelationNotFound" => do return relationNotFound (← detail "table") (← detail "relation")
  | "PrimaryKeyMissing" => do return primaryKeyMissing (← detail "table")
  | "DuplicateRecord" => do return duplicateRecord (← detail "column")
  | "PermissionDenied" => do return permissionDenied (← detail "table")
  | "InvalidCursor" => do return invalidCursor (← detail "message")
  | "Connection" => do return connection (← detail "message")
  | "QueryExecution" => do return queryExecution (← detail "message")
  | "Unsupported" => do return unsupported (← detail "backend") (← detail "operation")
  | "Config" => do return config (← detail "message")
  | _ => none

end EngineError

end DataAccess
