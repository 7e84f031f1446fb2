import DataAccess.Coercion
import DataAccess.Text.Quoted

/-!
The SQL dialects and what differs between them in every statement: quotes, placeholders, pattern
conditions, pages and generated keys.
-/

namespace DataAccess

inductive SqlDialect
  | mysql
  | postgres
  | mssql
  | oracle
  | sqlite
  deriving DecidableEq, Repr, Inhabited

/-- How a page of rows is cut out. -/
inductive PaginationStyle
  | limitOffset
  | offsetFetch
  | rowNumber
  deriving DecidableEq, Repr, Inhabited

/-- How the generated key of a new row is learnt. -/
inductive IdentityReturn
  | returning
  | lastInsertId
  | scopeIdentity
  | returningInto
  deriving DecidableEq, Repr, Inhabited

namespace SqlDialect

def all : List SqlDialect := [.mysql, .postgres, .mssql, .oracle, .sqlite]

def name : SqlDialect → String
  | mysql => "mysql"
  | postgres => "postgres"
  | mssql => "mssql"
  | oracle => "oracle"
  | sqlite => "sqlite"

def capabilities : SqlDialect → Capabilities
  | postgres => ⟨true, false⟩
  | _ => ⟨false, false⟩

def paginationStyle : SqlDialect → PaginationStyle
  | mysql | postgres | sqlite => .limitOffset
  | mssql => .offsetFetch
  | oracle => .rowNumber

def identityReturn : SqlDialect → IdentityReturn
  | postgres => .returning
  | mysql | sqlite => .lastInsertId
  | mssql => .scopeIdentity
  | oracle => .returningInto

/-- The quotes around an identifier. -/
def openQuote : SqlDialect → Char
  | mysql => '\x60'
  | mssql => '['
  | postgres | oracle | sqlite => '\x22'

def closeQuote : SqlDialect → Char
  | mysql => '\x60'
  | mssql => ']'
  | postgres | oracle | sqlite => '\x22'

def quote (d : SqlDialect) (identifier : String) : String :=
  Text.quoteIdentifier identifier d.openQuote d.closeQuote

/-- A type name that needs no quotes in a cast. -/
def isPlainTypeName (native : String) : Bool :=
  native ≠ "" && native.toList.all fun c => ('a' ≤ c && c ≤ 'z') || ('0' ≤ c && c ≤ '9') || c = '_'

/-- The type to which a text is cast so that it can be compared with a column. -/
def castType (d : SqlDialect) (column : Column) : String :=
  let plain := column.extra.nativeType.filter isPlainTypeName
  match column.type with
  | .enum => (column.extra.nativeType.map d.quote).getD "text"
  | .number => plain.getD "numeric"
  | .boolean => plain.getD "boolean"
  | .date => plain.getD "timestamp"
  | .json => plain.getD "jsonb"
  | .string | .unknown => plain.getD "text"

/-- The placeholder of the parameter at a position, counted from one, that is compared with a column
or written to it. -/
def placeholder (d : SqlDialect) (index : Nat) (column : Option Column) : String :=
  match d with
  | mysql | sqlite => "?"
  | postgres =>
    match column with
    | some column => s!"${index}::{d.castType column}"
    | none => s!"${index}"
  | mssql => s!"@P{index}"
  | oracle =>
    if column.any fun c => c.type == .date then s!"TO_TIMESTAMP(:{index}, 'YYYY-MM-DD HH24:MI:SS')"
    else s!":{index}"

/-- The characters that stand for others in a pattern. -/
def wildcards : SqlDialect → List Char
  | mssql => ['%', '_', '[']
  | _ => ['%', '_']

/-- What is written around and between the two sides of a pattern condition. -/
structure LikeFrame where
  before : String
  between : String
  after : String

def likeFrame (d : SqlDialect) (negate ignoringCase : Bool) : LikeFrame :=
  let negation := if negate then "NOT " else ""
  match d with
  | postgres => ⟨"", "::text " ++ negation ++ (if ignoringCase then "ILIKE " else "LIKE "), ""⟩
  | oracle =>
    if ignoringCase then ⟨"UPPER(", s!") {negation}LIKE UPPER(", ")"⟩
    else ⟨"", s!" {negation}LIKE ", ""⟩
  | mysql | mssql | sqlite => ⟨"", s!" {negation}LIKE ", ""⟩

def like (d : SqlDialect) (expression placeholder : String) (negate ignoringCase : Bool) : String :=
  let frame := d.likeFrame negate ignoringCase
  frame.before ++ expression ++ frame.between ++ placeholder ++ frame.after

/-- The native types that come back as they are; others are selected as text. -/
def readableTypes : List String :=
  ["bool", "int2", "int4", "int8", "float4", "float8", "text", "varchar", "bpchar", "name", "json",
    "jsonb", "timestamp", "timestamptz", "date"]

/-- What is written after a selected column. -/
def selectSuffix (d : SqlDialect) (column : Column) : String :=
  match d, column.extra.nativeType with
  | postgres, some native => if readableTypes.contains native then "" else "::text"
  | _, _ => ""

/-- A statement that any working connection answers. -/
def ping : SqlDialect → String
  | oracle => "SELECT 1 FROM DUAL"
  | _ => "SELECT 1"

def truncate (d : SqlDialect) (table : String) : String :=
  match d with
  | mssql | sqlite => s!"DELETE FROM {d.quote table}"
  | _ => s!"TRUNCATE TABLE {d.quote table}"

end SqlDialect

end DataAccess
