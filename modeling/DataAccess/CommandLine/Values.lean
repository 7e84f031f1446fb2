import DataAccess.Json.Reader
import DataAccess.Number.Reader
import DataAccess.Query.Params

/-!
Values that arguments hold as text.
-/

namespace DataAccess

namespace CommandLine

/-- Why a text is not a record. -/
inductive RecordMistake
  | notJson
  | notObject (value : Json)
  deriving DecidableEq, Repr, Inhabited

namespace RecordMistake

def message : RecordMistake → String
  | notJson => "invalid JSON: not a value"
  | notObject value => s!"expected a JSON object, got {value.compact}"

end RecordMistake

/-- A record as a JSON object. -/
def recordValue (text : String) : Except RecordMistake Record :=
  match Json.read? text with
  | some (.object fields) => .ok fields
  | some value => .error (.notObject value)
  | none => .error .notJson

/-- An id is a number if it is written the way that number is, and a text otherwise. -/
def idValue (text : String) : Json :=
  match Decimal.readSigned? text.toList with
  | some n => if Decimal.intChars n = text.toList then .int n else .string text
  | none => .string text

def countValue? (text : String) : Option Nat := Decimal.readWord? text.toList

/-- What the options of a read add to its filters. -/
structure ReadDirectives where
  fields : Option String
  relations : Option String
  sort : Option String
  deriving DecidableEq, Repr, Inhabited

namespace ReadDirectives

def entry (key : String) : Option String → Params
  | some value => [(key, value)]
  | none => []

/-- The parameters of the filters, and the directives after them, so that these decide. -/
def params (d : ReadDirectives) (filters : List String) : Except EngineError Params := do
  return (← Params.ofArguments filters) ++ entry "fields" d.fields
    ++ entry "relations" d.relations ++ entry "sort" d.sort

end ReadDirectives

end CommandLine

end DataAccess
