import DataAccess.Sql.Dialect
import DataAccess.Sql.Value

/-!
Statements as pieces. A value is a piece with its column, so the text can only hold its placeholder;
rendering numbers the values from left to right and lists them in the same order.
-/

namespace DataAccess

inductive Piece
  /-- Keywords, signs and numbers of the statement itself. -/
  | code (text : String)
  /-- An identifier to be quoted. -/
  | name (identifier : String)
  /-- A value to be bound, and the column that it is compared with or written to. -/
  | value (column : Option Column) (value : SqlValue)
  /-- The place where a value comes out. -/
  | out
  deriving DecidableEq, Repr, Inhabited

abbrev Statement := List Piece

namespace Statement

/-- The values in order. -/
def values : Statement → List SqlValue
  | [] => []
  | .value _ v :: rest => v :: values rest
  | _ :: rest => values rest

/-- The texts of the pieces, `next` being the number of the next placeholder. -/
def texts (d : SqlDialect) : Nat → Statement → List String
  | _, [] => []
  | next, .code text :: rest => text :: texts d next rest
  | next, .name identifier :: rest => d.quote identifier :: texts d next rest
  | next, .value column _ :: rest => d.placeholder next column :: texts d (next + 1) rest
  | next, .out :: rest => d.placeholder next none :: texts d (next + 1) rest

def compile (d : SqlDialect) (s : Statement) : CompiledQuery :=
  ⟨String.join (texts d 1 s), values s⟩

/-- Lists of pieces with a separator between them. -/
def separated (separator : String) : List Statement → Statement
  | [] => []
  | [s] => s
  | s :: rest => s ++ .code separator :: separated separator rest

/-- `table.column`, both quoted. -/
def qualified (table column : String) : Statement := [.name table, .code ".", .name column]

end Statement

end DataAccess
