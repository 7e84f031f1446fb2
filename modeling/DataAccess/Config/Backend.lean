import DataAccess.Json.Decode

/-!
The backends that can be configured, with what each needs to connect.
-/

namespace DataAccess

inductive BackendConfig
  | mysql (url : String)
  | postgres (url : String)
  /-- A connection string of keys and values. -/
  | mssql (connectionString : String)
  | oracle (username password connectString : String)
  | mongodb (uri database : String)
  | airtable (apiKey baseId endpoint : String)
  | sqlite (path : String)
  deriving DecidableEq, Repr, Inhabited

namespace BackendConfig

def defaultEndpoint : String := "https://api.airtable.com"

/-- The backend's name. -/
def backend : BackendConfig → String
  | mysql _ => "mysql"
  | postgres _ => "postgres"
  | mssql _ => "mssql"
  | oracle .. => "oracle"
  | mongodb .. => "mongodb"
  | airtable .. => "airtable"
  | sqlite _ => "sqlite"

/-- What the backend needs, each value under its name. -/
def settings : BackendConfig → List (String × String)
  | mysql url | postgres url => [("url", url)]
  | mssql connectionString => [("connection_string", connectionString)]
  | oracle username password connectString =>
    [("username", username), ("password", password), ("connect_string", connectString)]
  | mongodb uri database => [("uri", uri), ("database", database)]
  | airtable apiKey baseId endpoint =>
    [("api_key", apiKey), ("base_id", baseId), ("endpoint", endpoint)]
  | sqlite path => [("path", path)]

/-- One object: the backend's name under `type`, and what it needs. -/
def toJson (c : BackendConfig) : Json :=
  .object (("type", .string c.backend) :: c.settings.map fun (name, value) => (name, .string value))

/-- The configuration of a backend from fields, each standing at most once. -/
def ofFields? (backend : String) (fields : List (String × Json)) : Option BackendConfig :=
  let text (name : String) : Option String := Json.Decode.field? fields name Json.Decode.string?
  match backend with
  | "mysql" => do return .mysql (← text "url")
  | "postgres" => do return .postgres (← text "url")
  | "mssql" => do return .mssql (← text "connection_string")
  | "oracle" => do
    return .oracle (← text "username") (← text "password") (← text "connect_string")
  | "mongodb" => do return .mongodb (← text "uri") (← text "database")
  | "airtable" => do
    let endpoint ← Json.Decode.fieldOr? fields "endpoint" defaultEndpoint Json.Decode.string?
    return .airtable (← text "api_key") (← text "base_id") endpoint
  | "sqlite" => do return .sqlite (← text "path")
  | _ => none

/-- The names of what a backend needs, in the order in which a list gives the values. -/
def settingNames : String → List String
  | "mssql" => ["connection_string"]
  | "oracle" => ["username", "password", "connect_string"]
  | "mongodb" => ["uri", "database"]
  | "airtable" => ["api_key", "base_id", "endpoint"]
  | "sqlite" => ["path"]
  | _ => ["url"]

/-- The backend's name and what it needs, by names or as a list. -/
def ofJson? : Json → Option BackendConfig
  | .object fields => do
    let backend ← Json.Decode.field? fields "type" Json.Decode.string?
    ofFields? backend fields
  | .array (.string backend :: values) => do
    let fields ← Json.Decode.members? (settingNames backend) (.array values)
    ofFields? backend fields
  | _ => none

end BackendConfig

end DataAccess
