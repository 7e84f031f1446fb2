import DataAccess.Config.Backend
import DataAccess.Error
import DataAccess.Number.Reader
import DataAccess.Text.Blank
import DataAccess.Text.Case
import DataAccess.Text.Percent
import DataAccess.Text.Split

/-!
Backends from URLs and file names. A URL is cut at its separators before escapes are decoded.
-/

namespace DataAccess

/-- The parts of `user:password@host:port/path`. -/
structure UrlParts where
  user : String
  password : String
  host : String
  port : Option Nat
  path : String
  deriving DecidableEq, Repr, Inhabited

namespace UrlParts

/-- The text before the first separator and the text after it; without one, all and nothing. -/
def cut (separator : Char) (s : String) : String × String :=
  (Text.splitOnce separator s).getD (s, "")

/-- A number of 16 bits. -/
def readPort? (s : String) : Option Nat :=
  (Decimal.readNat? s.toList).filter (· < 65536)

/-- Host and port. A colon with nothing behind it belongs to the host. -/
def hostAndPort (s : String) : Except EngineError (String × Option Nat) :=
  match Text.splitLast ':' s with
  | some (host, port) =>
    if port = "" then .ok (s, none)
    else
      match readPort? port with
      | some n => .ok (host, some n)
      | none => .error (.config s!"Invalid port '{port}'")
  | none => .ok (s, none)

/-- Reads what follows the scheme. Everything from the first question mark on is left out. -/
def read (rest : String) : Except EngineError UrlParts := do
  let (authority, path) := cut '/' (cut '?' rest).1
  let (credentials, address) := (Text.splitLast '@' authority).getD ("", authority)
  let (user, password) := cut ':' credentials
  let (host, port) ← hostAndPort address
  return {
    user := Percent.decode user, password := Percent.decode password
    host, port
    path := Percent.decode path }

end UrlParts

namespace BackendConfig

/-- A port in decimal digits. -/
def portText (port : Option Nat) (usual : Nat) : String :=
  String.ofList (Decimal.digitChars (port.getD usual))

/-- The keys and values of a connection string. -/
def ofMssqlParts (p : UrlParts) : BackendConfig :=
  let port := portText p.port 1433
  let database := if p.path = "" then "" else s!";database={p.path}"
  .mssql
    (s!"server=tcp:{p.host},{port};user={p.user};password={p.password};TrustServerCertificate=true"
      ++ database)

def ofOracleParts (p : UrlParts) : BackendConfig :=
  let port := portText p.port 1521
  .oracle p.user p.password s!"//{p.host}:{port}/{p.path}"

def ofAirtableParts (p : UrlParts) : Except EngineError BackendConfig :=
  if p.user = "" ∨ p.host = "" then
    .error (.config "Airtable URL must look like airtable://api_key@base_id")
  else .ok (.airtable p.user p.host defaultEndpoint)

/-- A backend from a URL, its scheme in lower case and what follows the scheme. -/
def ofScheme (url scheme rest : String) : Except EngineError BackendConfig :=
  if scheme = "mysql" ∨ scheme = "mariadb" then .ok (.mysql s!"mysql://{rest}")
  else if scheme = "postgres" ∨ scheme = "postgresql" then .ok (.postgres url)
  else if scheme = "mssql" ∨ scheme = "sqlserver" then (UrlParts.read rest).map ofMssqlParts
  else if scheme = "oracle" then (UrlParts.read rest).map ofOracleParts
  else if scheme = "mongodb" ∨ scheme = "mongodb+srv" then
    (UrlParts.read rest).map fun p => .mongodb url (if p.path = "" then "test" else p.path)
  else if scheme = "airtable" then (UrlParts.read rest).bind ofAirtableParts
  else if scheme = "sqlite" then .ok (.sqlite rest)
  else .error (.config s!"Unsupported database scheme '{scheme}'")

def memoryPath : String := ":memory:"

/-- The endings of database files. -/
def fileEndings : List String := [".db", ".sqlite", ".sqlite3"]

/-- Scheme and rest of a URL. -/
def splitScheme? (url : String) : Option (String × String) :=
  (Text.splitAtText "://".toList url.toList).map fun (scheme, rest) =>
    (String.ofList scheme, String.ofList rest)

/-- A backend from a URL or the name of a database file. -/
def ofUrl (text : String) : Except EngineError BackendConfig :=
  let url := Text.trim text
  if url = memoryPath ∨ url = "sqlite::memory:" then .ok (.sqlite memoryPath)
  else
    match splitScheme? url with
    | some (scheme, rest) => ofScheme url (Text.lower scheme) rest
    | none =>
      if fileEndings.any fun ending => (Text.dropEnd? ending.toList url.toList).isSome then
        .ok (.sqlite url)
      else .error (.config s!"Unrecognised database URL '{url}'")

end BackendConfig

end DataAccess
