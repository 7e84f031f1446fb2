import DataAccess.Engine.Request
import DataAccess.Output.Grid
import DataAccess.Output.Toon
import DataAccess.Schema.Json

/-!
Responses and schemas as text, in one of three formats.
-/

namespace DataAccess

inductive OutputFormat
  | table
  | json
  | toon
  deriving DecidableEq, Repr, Inhabited

namespace OutputFormat

def all : List OutputFormat := [.table, .json, .toon]

def name : OutputFormat → String
  | table => "table"
  | json => "json"
  | toon => "toon"

def ofName? (s : String) : Option OutputFormat := all.find? fun format => format.name == s

/-- Writes a value that has a table and a JSON form. -/
def write (format : OutputFormat) (table : List String) (value : Json) : String :=
  match format with
  | .table => Text.join "\n" table
  | .json => value.pretty
  | .toon => Toon.text value.normalize

end OutputFormat

namespace Page

def count (n : Nat) : String := String.ofList (Decimal.digitChars n)

def linkLine (name : String) : Option String → List String
  | some link => [s!"{name}: {link}"]
  | none => []

def tableLines (p : Page) : List String :=
  let summary :=
    s!"Showing {count p.data.length} of {count p.total} record(s) (limit {count p.limit}, offset {count p.offset})"
  if p.data.isEmpty then [summary, "", "No records found."]
  else
    summary :: "" :: Grid.ofRecords p.data
      ++ "" :: linkLine "prev" p.pagination.page.prev
      ++ linkLine "next" p.pagination.page.next
      ++ [s!"last: {p.pagination.page.last}"]

end Page

namespace Response

def tableLines : Response → List String
  | record row => "Record:" :: Grid.recordLines row
  | found (some row) => "Found:" :: Grid.recordLines row
  | found none => ["No record found."]
  | page p => p.tableLines
  | deleted n => [s!"Deleted {Page.count n} record(s)."]
  | unique verdict =>
    match verdict.valid, verdict.message with
    | false, some message => [s!"Duplicate: {message}"]
    | _, _ => ["Unique: no conflicting record."]
  | done success => [if success then "OK" else "FAILED"]
  | tables names =>
    if names.isEmpty then ["No tables found."]
    else s!"Tables ({Page.count names.length}):" :: names.map fun name => s!"  {name}"

def write (response : Response) (format : OutputFormat) : String :=
  format.write response.tableLines response.toJson

end Response

namespace Column

/-- The most telling key flag of a column. -/
def keyMark (c : Column) : String :=
  if c.primaryKey then "PRI" else if c.uniqueKey then "UNI" else if c.foreignKey then "MUL" else ""

def extraText (c : Column) : String :=
  Text.join " "
    ((if c.extra.autoIncrement then ["auto_increment"] else [])
      ++ (match c.extra.length with
        | some n => [s!"length {Page.count n}"]
        | none => [])
      ++ (if c.extra.enumValues.isEmpty then []
        else ["[" ++ Text.join ", " c.extra.enumValues ++ "]"]))

def tableRow (c : Column) : List String :=
  [c.field, c.type.name, if c.nullable then "YES" else "NO", c.keyMark,
    (c.default.map Grid.cell).getD "", c.extraText]

end Column

namespace Schema

def tableHeaders : List String := ["field", "type", "null", "key", "default", "extra"]

def tableLines (s : Schema) : List String :=
  let key := s.primaryKey.getD "none"
  s!"Table: {s.table} (primary key: {key})" :: ""
    :: Grid.lines tableHeaders (s.columns.map Column.tableRow)
    ++ if s.relations.isEmpty then []
      else
        "" :: "Relations:" :: s.relations.map fun r =>
          s!"  {r.orgTable}.{r.orgColumn} -> {r.table}.{r.column}"

def write (s : Schema) (format : OutputFormat) : String := format.write s.tableLines s.toJson

end Schema

end DataAccess
