import DataAccess.Coercion

/-!
Values bound to a statement, and cells of a result read leniently: a store may give a number or a
truth value as text.
-/

namespace DataAccess

inductive SqlValue
  | null
  | bool (value : Bool)
  | int (value : Int)
  | float (value : Binary64)
  | text (value : String)
  deriving DecidableEq, Repr, Inhabited

namespace Cell

def text? : Json → Option String
  | .null => none
  | .string s => some s
  | other => some other.compact

def textOr (fallback : String) (value : Json) : String := (text? value).getD fallback

/-- The fraction of a float is cut off, and what is too large moves to the nearest end. -/
def integerOf (x : Binary64) : Int := x.saturate Json.Number.leastInt Json.Number.greatestSigned

def integer? : Json → Option Int
  | .number n => some (n.toSigned?.getD (integerOf n.toBinary64))
  | .string s =>
    let chars := Text.trimChars s.toList
    match Decimal.readSigned? chars with
    | some n => some n
    | none => (Binary64.read? chars).map integerOf
  | .bool b => some b.toNat
  | _ => none

def float? : Json → Option Binary64
  | .number n => some n.toBinary64
  | .string s => Binary64.read? (Text.trimChars s.toList)
  | _ => none

def truth? : Json → Option Bool
  | .bool b => some b
  | .number n => n.toSigned?.map (· != 0)
  | .string s =>
    let word := Text.upper (Text.trim s)
    if word ∈ ["YES", "Y", "TRUE", "T", "1"] then some true
    else if word ∈ ["NO", "N", "FALSE", "F", "0", ""] then some false
    else none
  | _ => none

def kind : Json → String
  | .null => "null"
  | .bool _ => "bool"
  | .number _ => "number"
  | .string _ => "string"
  | .array _ => "array"
  | .object _ => "object"

end Cell

namespace SqlValue

/-- A structured value is bound as its text, an integer beyond 64 signed bits as a float. -/
def ofJson : Json → SqlValue
  | .null => null
  | .bool b => bool b
  | .number n =>
    match n.toSigned? with
    | some i => int i
    | none => float n.toBinary64
  | .string s => text s
  | other => text other.compact

def toJson : SqlValue → Json
  | null => .null
  | bool b => .bool b
  | int i => .int i
  | float x => .float x
  | text s => .string s

/-- The text under which a driver that binds only texts binds the value. -/
def text? : SqlValue → Option String
  | null => none
  | bool b => some (if b then "true" else "false")
  | int i => some (String.ofList (Decimal.intChars i))
  | float x => some (String.ofList (x.text .plain))
  | text s => some s

/-- Only numbers and truth values are read as such; text is not searched for a number. -/
def integer? : SqlValue → Option Int
  | int i => some i
  | _ => none

def float? (v : SqlValue) : Option Binary64 := Cell.float? v.toJson

def truth? (v : SqlValue) : Option Bool := Cell.truth? v.toJson

/-- The value as log lines show it. -/
def shown : SqlValue → String
  | null => "NULL"
  | text s => s!"'{s}'"
  | other => other.text?.getD ""

end SqlValue

/-- A statement ready to run: its text and the values of its placeholders, in order. -/
structure CompiledQuery where
  sql : String
  params : List SqlValue
  deriving DecidableEq, Repr, Inhabited

namespace CompiledQuery

def ofText (sql : String) : CompiledQuery := ⟨sql, []⟩

def shownParams (q : CompiledQuery) : String :=
  "[" ++ Text.join ", " (q.params.map (·.shown)) ++ "]"

def shown (q : CompiledQuery) : String :=
  if q.params.isEmpty then q.sql else s!"{q.sql} -- params: {q.shownParams}"

end CompiledQuery

end DataAccess
