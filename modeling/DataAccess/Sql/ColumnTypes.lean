import DataAccess.Sql.Dialect

/-!
Canonical types of native types. The name of a native type counts without its arguments and in any
letter case.
-/

namespace DataAccess

namespace SqlDialect

def booleanTypes : List String := ["bool", "boolean", "bit"]

def jsonTypes : List String := ["json", "jsonb"]

def dateTypes : List String :=
  ["date", "datetime", "datetime2", "smalldatetime", "datetimeoffset", "timestamp", "timestamptz",
    "time", "timetz"]

def numberTypes : List String :=
  ["int", "int2", "int4", "int8", "integer", "smallint", "tinyint", "mediumint", "bigint", "serial",
    "bigserial", "smallserial", "numeric", "decimal", "real", "double", "double precision", "float",
    "float4", "float8", "number", "binary_float", "binary_double", "money", "smallmoney", "year"]

def stringTypes : List String :=
  ["char", "varchar", "nchar", "nvarchar", "varchar2", "nvarchar2", "bpchar", "text", "tinytext",
    "mediumtext", "longtext", "ntext", "clob", "nclob", "character", "character varying", "uuid",
    "uniqueidentifier", "name", "citext", "string"]

/-- The name of a native type before its arguments. -/
def baseType (native : String) : String :=
  String.ofList (Text.trimChars ((Text.trimChars (Text.lower native).toList).takeWhile (· ≠ '(')))

/-- The canonical type of a name that most catalogs share. -/
def canonicalType (native : String) : ColumnType :=
  let base := baseType native
  if booleanTypes.contains base then .boolean
  else if jsonTypes.contains base then .json
  else if base = "enum" then .enum
  else if dateTypes.contains base || Text.startsWith base.toList "timestamp".toList then .date
  else if numberTypes.contains base then .number
  else if stringTypes.contains base then .string
  else .unknown

/-- The canonical type of a catalog column, from its bare type name and its whole declaration, both
in lower case. -/
def columnType (d : SqlDialect) (native full : String) : ColumnType :=
  match d with
  | mysql =>
    if Text.startsWith full.toList "tinyint(1)".toList then .boolean else canonicalType native
  | postgres =>
    match canonicalType native with
    | .unknown => canonicalType full
    | known => known
  | oracle => if full = "number(1)" then .boolean else canonicalType native
  | mssql | sqlite => canonicalType native

end SqlDialect

end DataAccess
