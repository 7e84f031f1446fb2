import DataAccess.Coercion
import DataAccess.Text.Like
import DataAccess.Text.Quoted

/-!
Conditions as formulas. A formula is a list of pieces: text of its own, references to fields, and
string literals, which alone hold text of the caller.
-/

namespace DataAccess

inductive FormulaPiece
  | code (text : String)
  | field (name : String)
  | literal (text : String)
  deriving DecidableEq, Repr, Inhabited

abbrev Formula := List FormulaPiece

namespace FormulaPiece

def chars : FormulaPiece → List Char
  | code text => text.toList
  | field name => '\x7b' :: name.toList ++ ['\x7d']
  | literal text => '\x27' :: Text.escapeFor '\x27' text.toList ++ ['\x27']

end FormulaPiece

namespace Formula

def text (f : Formula) : String := String.ofList (f.flatMap FormulaPiece.chars)

/-- The column of record ids, which every table has. -/
def recordId : String := "id"

/-- Records hold truth values and nested values as they are. -/
def capabilities : Capabilities := ⟨true, true⟩

def code (text : String) : Formula := [.code text]

def reference (column : Column) : Formula :=
  if column.field = recordId ∧ column.primaryKey then code "RECORD_ID()" else [.field column.field]

/-- Formulas between separators. -/
def separated (separator : String) : List Formula → Formula
  | [] => []
  | [f] => f
  | f :: rest => f ++ .code separator :: separated separator rest

def negated (f : Formula) : Formula := code "NOT(" ++ f ++ code ")"

/-- A coerced value as a formula. -/
def ofValue : Json → Formula
  | .null => code "BLANK()"
  | .bool b => code (if b then "TRUE()" else "FALSE()")
  | .number n => code n.text
  | .string s => [.literal s]
  | other => [.literal other.compact]

def value (column : Column) (value : Json) : Except EngineError Formula :=
  (Coercion.outbound column capabilities value).map ofValue

def textOf : Option Json → String
  | some .null | none => ""
  | some value => value.shown

inductive Comparison
  | equal
  | notEqual
  | less
  | lessOrEqual
  | greater
  | greaterOrEqual
  deriving DecidableEq, Repr, Inhabited

def Comparison.sign : Comparison → String
  | equal => " = "
  | notEqual => " != "
  | less => " < "
  | lessOrEqual => " <= "
  | greater => " > "
  | greaterOrEqual => " >= "

/-- A call of a function on a field and a date. -/
def onDate (function : String) (field date : Formula) (last : String) : Formula :=
  code (function ++ "(") ++ field ++ code ", DATETIME_PARSE(" ++ date ++ code (")" ++ last ++ ")")

def sameSecond (field date : Formula) : Formula := onDate "IS_SAME" field date ", 'second'"

def compareDate (comparison : Comparison) (field date : Formula) : Formula :=
  match comparison with
  | .equal => sameSecond field date
  | .notEqual => negated (sameSecond field date)
  | .less => onDate "IS_BEFORE" field date ""
  | .greater => onDate "IS_AFTER" field date ""
  | .lessOrEqual => negated (onDate "IS_AFTER" field date "")
  | .greaterOrEqual => negated (onDate "IS_BEFORE" field date "")

/-- A comparison, which needs a value. -/
def compared (column : Column) (p : Predicate) (comparison : Comparison) :
    Except EngineError Formula :=
  match p.value with
  | none | some .null => .error (.invalidValue column.field "a value" "null")
  | some v =>
    (value column v).map fun bound =>
      if column.type = .date then compareDate comparison (reference column) bound
      else reference column ++ .code comparison.sign :: bound

def isBlank (column : Column) : Formula := reference column ++ code " = BLANK()"

def isNullValue : Option Json → Bool
  | none | some .null => true
  | some _ => false

def matchesPattern (column : Column) (p : Predicate) : Formula :=
  code "REGEX_MATCH(" ++ reference column ++ code " & '', "
    ++ [.literal (Like.toRegex (textOf p.value)), .code ")"]

def contains (column : Column) (p : Predicate) : Formula :=
  [.code "SEARCH(LOWER(", .literal (textOf p.value), .code "), LOWER("] ++ reference column
    ++ code " & ''))"

/-- Equality with one of several values. -/
def anyOf (column : Column) (values : List Json) : Except EngineError Formula :=
  (values.mapM (value column)).map fun items =>
    code "OR(" ++ separated ", " (items.map fun item => reference column ++ .code " = " :: item)
      ++ code ")"

def condition (column : Column) (p : Predicate) : Except EngineError Formula :=
  match p.operator with
  | .equals => if isNullValue p.value then .ok (isBlank column) else compared column p .equal
  | .notEquals =>
    if isNullValue p.value then .ok (negated (isBlank column)) else compared column p .notEqual
  | .lt => compared column p .less
  | .lte => compared column p .lessOrEqual
  | .gt => compared column p .greater
  | .gte => compared column p .greaterOrEqual
  | .like => .ok (matchesPattern column p)
  | .notLike => .ok (negated (matchesPattern column p))
  | .search => .ok (contains column p)
  | .isIn =>
    if p.listValues.isEmpty then .ok (code "FALSE()") else anyOf column p.listValues
  | .notIn =>
    if p.listValues.isEmpty then .ok (code "TRUE()")
    else (anyOf column p.listValues).map negated
  | .null => .ok (isBlank column)
  | .notNull => .ok (negated (isBlank column))

/-- The formula of one predicate, which is on a column of the table itself. -/
def ofPredicate (schema : Schema) (p : Predicate) : Except EngineError Formula :=
  if p.isRelation then .error (.unsupported "airtable" "filters on linked tables")
  else
    match schema.column? p.column with
    | none => .error (.columnNotFound schema.table p.column)
    | some column => condition column p

def joinAll : List Formula → Option Formula
  | [] => none
  | [f] => some f
  | formulas => some (code "AND(" ++ separated ", " formulas ++ code ")")

/-- The formula of several predicates; none of no predicate. -/
def ofPredicates (schema : Schema) (predicates : List Predicate) :
    Except EngineError (Option Formula) :=
  (predicates.mapM (ofPredicate schema)).map joinAll

end Formula

end DataAccess
