import DataAccess.Sql.CatalogStatements
import DataAccess.Sql.ColumnTypes
import DataAccess.Sql.Statement

/-!
Schemas from the rows of a catalog.
-/

namespace DataAccess

namespace Introspection

def cell (row : Record) (name : String) : Json := (row.get? name).getD .null

/-- The members of an enum in a fragment: a type, a list of literals or the body of a check. A check
of a range describes none, nor does a list with an empty member. -/
def enumMembers (fragment : String) : List String :=
  let chars := fragment.toList
  if chars.contains '<' || chars.contains '>' then []
  else
    let members := Text.literals fragment
    if members.contains "" then [] else members

/-- Removes parentheses around the whole text, as many as `fuel`, with the blanks inside them. -/
def stripParens : Nat → List Char → List Char
  | 0, s => s
  | fuel + 1, s =>
    match s with
    | '(' :: rest =>
      match Text.dropEnd? [')'] rest with
      | some inner => stripParens fuel (Text.trimChars inner)
      | none => s
    | _ => s

/-- The value of a default expression: the first literal of a text that begins with one, a number,
or else the expression itself. -/
def defaultValue? (raw : String) : Option Json :=
  let trimmed := Text.trimChars raw.toList
  let text := stripParens trimmed.length trimmed
  let whole := String.ofList text
  if text.isEmpty || Text.equalIgnoringCase whole "null" || Text.startsWith text "NULL::".toList then
    none
  else if Text.startsWith text ['\x27'] then (Text.literals whole).head?.map .string
  else
    match Coercion.number? whole with
    | some n => some (.number n)
    | none => some (.string whole)

/-- The length that a catalog declares, if it is a positive integer of 32 bits. A text is none. -/
def length? (value : Json) : Option Nat :=
  match value.asSigned? with
  | some n => if 0 < n ∧ n < 4294967296 then some n.toNat else none
  | none => none

def column? (d : SqlDialect) (row : Record) : Option Column :=
  (Cell.text? (cell row "field")).map fun field =>
    let native := Cell.textOr "" (cell row "native_type")
    let full := Text.lower (Cell.textOr "" (cell row "column_type"))
    let members := ((Cell.text? (cell row "enum_values")).map enumMembers).getD []
    let key := Text.upper (Cell.textOr "" (cell row "key_type"))
    let generated := Text.occursIn "auto_increment".toList
      (Text.lower (Cell.textOr "" (cell row "extra"))).toList
    let nullable := (Cell.truth? (cell row "is_nullable")).getD true
    let default :=
      if generated then none else (Cell.text? (cell row "default_value")).bind defaultValue?
    { field
      type := if members.isEmpty then d.columnType (Text.lower native) full else .enum
      nullable
      required := !nullable && default.isNone && !generated
      primaryKey := key == "PRI"
      uniqueKey := key == "UNI"
      foreignKey := false
      default
      extra :=
        { length := length? (cell row "char_length")
          autoIncrement := generated
          enumValues := members
          nativeType := if native = "" then none else some native } }

/-- A row of keys is told from the side of the table that is read. -/
def relation? (table : String) (row : Record) : Option Relation := do
  let orgColumn ← Cell.text? (cell row "org_column")
  let refTable ← Cell.text? (cell row "ref_table")
  let refColumn ← Cell.text? (cell row "ref_column")
  return Relation.link refTable refColumn table orgColumn

/-- Assembles a schema; a table without columns does not exist. -/
def schema (d : SqlDialect) (table : String) (columnRows forwardRows backwardRows : List Record) :
    Except EngineError Schema :=
  let columns := columnRows.filterMap (column? d)
  if columns.isEmpty then .error (.schemaNotFound table)
  else
    let forward := forwardRows.filterMap (relation? table)
    let backward := backwardRows.filterMap (relation? table)
    let flagged := forward.foldl (fun columns r => Column.changeFirst r.orgColumn Column.asForeign columns) columns
    .ok ((forward ++ backward).foldl Schema.addRelation (Schema.ofColumns table flagged))

end Introspection

namespace SqlDialect

def catalog : SqlDialect → CatalogStatements
  | mysql => .mysql
  | postgres => .postgres
  | mssql => .mssql
  | oracle => .oracle
  | sqlite => .sqlite

/-- A catalog statement for a table. -/
def catalogQuery (statement table : String) : CompiledQuery := ⟨statement, [.text table]⟩

end SqlDialect

end DataAccess
