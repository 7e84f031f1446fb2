import DataAccess.CommandLine.Command

/-!
Help texts. The long form gives every argument a paragraph of its own, the short form one line or two;
both list the same arguments in the same order.
-/

namespace DataAccess

namespace CommandLine

def programName : String := "datasource_engine"

def versionText : String := programName ++ " 0.1.0\n"

namespace OptionName

/-- The name of the option's value. -/
def valueName (o : OptionName) : String :=
  String.ofList (Text.replaceChar '-' ['_'] (Text.upper o.long).toList)

/-- The option with its value. -/
def shape (o : OptionName) : String :=
  "--" ++ o.long ++ if o.takesValue then " <" ++ o.valueName ++ ">" else ""

/-- The first line of what an option does. -/
def summary (level : Level) (long : Bool) : OptionName → String
  | databaseUrl => "Connection URL of the backend"
  | format => "Output format"
  | logLevel =>
    "Log filter, e.g. \x60debug\x60 or \x60datasource_engine=trace\x60 (defaults to RUST_LOG, then info)"
  | requestId => "Request id prefixed to every log line of this invocation"
  | fields => "Comma-separated columns to return (dotted names select relation columns)"
  | relations =>
    "Comma-separated related tables to attach, optionally \x60table:inner|left|right\x60"
  | sort => "Comma-separated sort directives, e.g. \x60name.asc,createdAt.desc\x60"
  | limit => "Page size (clamped to the configured maximum)"
  | offset => "Number of records to skip"
  | page => "Cursor from a previous response; overrides --limit and --offset"
  | data =>
    match level with
    | some .update => "Changed columns as a JSON object"
    | some .unique => "Candidate values as a JSON object"
    | _ => "Record as a JSON object"
  | id => "Primary key of the record being edited, excluded from the check"
  | yes => "Confirm the removal; nothing is deleted without it"
  | help => if long then "Print help (see a summary with '-h')" else "Print help (see more with '--help')"
  | version => "Print version"

/-- What only the long help tells. -/
def detail : OptionName → List String
  | databaseUrl =>
    ["          ",
      "          If not specified, the database is taken from: 1. .datasource_engine.json (current directory) 2. the DATABASE_URL environment variable"]
  | format =>
    ["          ", "          [default: table]", "", "          Possible values:",
      "          - table: Human-readable table format", "          - json:  JSON format",
      "          - toon:  Token-efficient toon format"]
  | _ => []

/-- What the short help adds to the summary. -/
def remark : OptionName → String
  | format => " [default: table] [possible values: table, json, toon]"
  | _ => ""

def lines (level : Level) (long : Bool) (o : OptionName) : List String :=
  let letter := match o.short? with
    | some c => "  -" ++ String.ofList [c] ++ ", "
    | none => "      "
  let text := "          " ++ o.summary level long
  (letter ++ o.shape) :: if long then text :: o.detail else [text ++ o.remark]

end OptionName

namespace Place

/-- The place as usage shows it. -/
def shape : Place → String
  | table => "<TABLE>"
  | id => "<ID>"
  | filter => "[FILTER]..."
  | file => "<FILE>"

def summary : Place → String
  | table => "Table or collection name"
  | id => "Primary key of the record"
  | filter => "Filters as \x60column=value\x60 or \x60column[operator]=value\x60"
  | file => "Path to the JSON schema definition"

end Place

/-- A text filled up with blanks to a width, and two more. -/
def padded (width : Nat) (s : String) : String :=
  s ++ String.ofList (List.replicate (width + 2 - s.length) ' ')

/-- Names with a line about each, in two columns. -/
def columns (entries : List (String × String)) : List String :=
  let width := (entries.map fun e => e.1.length).foldl max 0
  entries.map fun (name, line) => "  " ++ padded width name ++ line

namespace CommandName

def summary : CommandName → String
  | check => "Check that the backend is reachable"
  | tables => "List the tables or collections of the backend"
  | schema => "Show the introspected schema of a table"
  | find => "Fetch the first record matching the filters"
  | findMany => "Fetch one page of records matching the filters"
  | create => "Insert one record"
  | update => "Update one record by primary key"
  | delete => "Delete one record by primary key (soft delete when configured)"
  | unique => "Check a payload against the table's unique columns"
  | truncate => "Remove every record of a table"
  | createTable => "Create a table from a JSON schema definition"

/-- Command lines that show the use of the command. -/
def examples : CommandName → List String
  | check => ["check", "--database-url postgres://app@localhost/shop check"]
  | tables => ["tables", "tables -o json"]
  | schema => ["schema customers", "schema orders -o json"]
  | find =>
    ["find customers id=7", "find customers 'email[like]=%@acme.com' -f id,email",
      "find orders id=12 -r customers -f id,customers.name"]
  | findMany =>
    ["find-many customers                        # First page",
      "find-many customers vip=true -s name.asc   # Filtered and sorted",
      "find-many orders 'total[gte]=100' -l 50    # Operator filter, 50 per page",
      "find-many orders --page eyJsaW1pdCI6...    # Continue from a cursor",
      "find-many orders -r customers -f id,customers.name"]
  | create =>
    ["create customers -d '\x7b\"name\": \"Acme\", \"vip\": true\x7d'",
      "create orders --data '\x7b\"customerId\": 7, \"total\": 99.5\x7d' -o json"]
  | update =>
    ["update customers 7 -d '\x7b\"vip\": false\x7d'",
      "update customers 5f1d7e2a9b1c4a0012345678 --data '\x7b\"name\": \"Acme Corp\"\x7d'"]
  | delete => ["delete customers 7"]
  | unique =>
    ["unique customers -d '\x7b\"email\": \"ops@acme.com\"\x7d'",
      "unique customers -d '\x7b\"email\": \"ops@acme.com\"\x7d' --id 7   # Ignore record 7"]
  | truncate => ["truncate audit_log --yes"]
  | createTable =>
    ["create-table schemas/customers.json",
      "schema customers -o json > customers.json   # Copy a table definition",
      "--database-url sqlite://copy.db create-table customers.json"]

def exampleLines (c : CommandName) : List String :=
  "Examples:" :: c.examples.map (fun line => "  " ++ programName ++ " " ++ line)
    ++ if c = delete then [s!"  SOFT_DELETE_COLUMN=deletedAt {programName} delete customers 7"] else []

/-- The options in the order in which help lists them. -/
def listed : CommandName → List OptionName
  | find => [.databaseUrl, .fields, .format, .relations, .logLevel, .sort, .requestId, .help]
  | findMany =>
    [.databaseUrl, .fields, .format, .relations, .logLevel, .sort, .limit, .requestId, .offset, .page,
      .help]
  | create | update => [.data, .databaseUrl, .format, .logLevel, .requestId, .help]
  | unique => [.data, .databaseUrl, .id, .format, .logLevel, .requestId, .help]
  | truncate => [.databaseUrl, .yes, .format, .logLevel, .requestId, .help]
  | check | tables | schema | delete | createTable =>
    [.databaseUrl, .format, .logLevel, .requestId, .help]

def usage (c : CommandName) : String :=
  let required := if c.ownOptions.contains .data then [OptionName.data.shape] else []
  Text.join " " (["Usage:", programName, c.name, "[OPTIONS]"] ++ required ++ c.places.map Place.shape)

end CommandName

/-- Entries one after the other, with an empty line between them in the long form. -/
def spaced (long : Bool) (entries : List (List String)) : List String :=
  if long then (entries.intersperse [""]).flatten else entries.flatten

def optionLines (level : Level) (long : Bool) (options : List OptionName) : List String :=
  "Options:" :: spaced long (options.map (OptionName.lines level long))

def placeLines (long : Bool) (places : List Place) : List String :=
  if places.isEmpty then []
  else
    let entries :=
      if long then spaced true (places.map fun p => ["  " ++ p.shape, "          " ++ p.summary])
      else columns (places.map fun p => (p.shape, p.summary))
    "Arguments:" :: entries ++ [""]

def helpSummary : String := "Print this message or the help of the given subcommand(s)"

def programLines (long : Bool) : List String :=
  ["Backend-agnostic data-access engine: one query contract compiled for SQL dialects, document stores and REST-backed tables",
    "", s!"Usage: {programName} [OPTIONS] <COMMAND>", "", "Commands:"]
    ++ columns ((CommandName.all.map fun c => (c.name, c.summary)) ++ [("help", helpSummary)])
    ++ "" :: optionLines none long (Level.options none)

def commandLines (c : CommandName) (long : Bool) : List String :=
  [c.summary, "", c.usage, ""] ++ placeLines long c.places ++ optionLines (some c) long c.listed
    ++ "" :: c.exampleLines

def helpLines (topic : Topic) (long : Bool) : List String :=
  match topic with
  | .program => programLines long
  | .command c => commandLines c long
  | .help =>
    [helpSummary, "", s!"Usage: {programName} help [COMMAND]...", "", "Arguments:",
      "  [COMMAND]...  Print help for the subcommand(s)"]

def helpText (topic : Topic) (long : Bool) : String :=
  Text.join "\n" (helpLines topic long) ++ "\n"

namespace Stop

/-- What is told to someone whose arguments cannot be used. -/
def message : Stop → String
  | help topic long => helpText topic long
  | version => versionText
  | nothingGiven => helpText .program false
  | commandMissing => "a command is missing"
  | unknownCommand => "there is no such command"
  | unknownArgument => "there is an unexpected argument"
  | invalidValue => "a value is missing or is not allowed"
  | unreadableValue => "a value cannot be read"
  | unexpectedValue => "a flag takes no value"
  | repeatedOption => "an option is given twice"
  | missingArgument => "a required argument is missing"

end Stop

end CommandLine

end DataAccess
