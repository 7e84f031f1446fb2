import DataAccess.Json.Reader
import DataAccess.Json.Shown
import DataAccess.Number.Reader
import DataAccess.Query.Find
import DataAccess.Time.Reader

/-!
Values on their way to a store and back. Outbound coercion shapes a value for binding against a
column and refuses what the column's type cannot hold; inbound coercion shapes a fetched value and
keeps what it cannot read.
-/

namespace DataAccess

/-- What a store holds without an encoding. -/
structure Capabilities where
  nativeBoolean : Bool
  nativeJson : Bool
  deriving DecidableEq, Repr, Inhabited

namespace Coercion

/-- A timestamp in text, in milliseconds, or in either under the key `$date`. -/
def timestamp? : Json → Option Timestamp
  | .string s => Timestamp.read? s
  | .number n => n.toSigned?.bind Timestamp.ofMillis?
  | .object fields => inDate? fields
  | _ => none
where
  inDate? : List (String × Json) → Option Timestamp
    | [] => none
    | (name, value) :: rest => if name = "$date" then timestamp? value else inDate? rest

/-- A truth value, one or zero as a number, or a word for one of them. -/
def boolean? : Json → Option Bool
  | .bool b => some b
  | .number n =>
    let x := n.toBinary64
    if x.sameValue (Binary64.ofNat 1) then some true
    else if x.isZero then some false
    else none
  | .string s =>
    let word := Text.lower (Text.trim s)
    if word ∈ ["true", "1", "t", "yes"] then some true
    else if word ∈ ["false", "0", "f", "no"] then some false
    else none
  | _ => none

/-- Floats without a fraction become integers below this magnitude. -/
def exactBound : Nat := 9007199254740992

def normalizeFloat (x : Binary64) : Json.Number :=
  match x.toInt? with
  | some n => if n.natAbs < exactBound then .int n else .float x
  | none => .float x

/-- A number in text: an integer of 64 bits, or else the nearest finite float. -/
def number? (s : String) : Option Json.Number :=
  let text := Text.trimChars s.toList
  match Decimal.readSigned? text with
  | some n => some (.int n)
  | none =>
    match Binary64.read? text with
    | some x => if x.isFinite then some (normalizeFloat x) else none
    | none => none

def invalid (column : Column) (expected : String) (value : Json) : EngineError :=
  .invalidValue column.field expected value.shown

def orInvalid {α : Type} (column : Column) (expected : String) (value : Json) :
    Option α → Except EngineError α
  | some x => .ok x
  | none => .error (invalid column expected value)

/-- A truth value as a store holds it: itself, or one and zero. -/
def boolValue (caps : Capabilities) (b : Bool) : Json :=
  if caps.nativeBoolean then .bool b else .nat b.toNat

def enumValue (column : Column) (value : Json) : Except EngineError Json :=
  let allowed := column.extra.enumValues
  if allowed.isEmpty || allowed.contains value.shown then .ok (.string value.shown)
  else .error (invalid column ("one of " ++ Text.join ", " allowed) value)

/-- Shapes a value for binding against a column. -/
def outbound (column : Column) (caps : Capabilities) (value : Json) : Except EngineError Json :=
  if value.isNull then .ok .null
  else
    match column.type with
    | .boolean =>
      (orInvalid column "BOOLEAN" value (boolean? value)).map (boolValue caps)
    | .date =>
      (orInvalid column "DATE" value (timestamp? value)).map fun t => .string t.outbound
    | .number =>
      match value with
      | .number _ => .ok value
      | .string s => (orInvalid column "NUMBER" value (number? s)).map .number
      | .bool b => .ok (.nat b.toNat)
      | _ => .error (invalid column "NUMBER" value)
    | .json =>
      match value with
      | .object _ | .array _ => .ok (if caps.nativeJson then value else .string value.compact)
      | _ => .ok value
    | .enum => enumValue column value
    | .string | .unknown => .ok value

/-- Shapes a fetched value of a type. -/
def inbound (type : ColumnType) (value : Json) : Json :=
  match type, value with
  | _, .null => .null
  | .boolean, value => ((boolean? value).map .bool).getD value
  | .date, value => ((timestamp? value).map fun t => .string t.inbound).getD value
  | .number, .string s => ((number? s).map .number).getD (.string s)
  | .number, .number (.float x) => .number (normalizeFloat x)
  | .json, .string s =>
    match Json.read? s with
    | some (.object fields) => .object fields
    | some (.array items) => .array items
    | _ => .string s
  | _, value => value

/-- Shapes every field of a payload; a field without a column is an error. -/
def recordOutbound (schema : Schema) (caps : Capabilities) (record : Record) :
    Except EngineError Record :=
  record.mapM fun (name, value) =>
    match schema.column? name with
    | none => .error (.columnNotFound schema.table name)
    | some column => (outbound column caps value).map fun value => (name, value)

def inboundAs (column : Option Column) (value : Json) : Json :=
  match column with
  | some column => inbound column.type value
  | none => value

/-- Shapes a fetched row; a dotted name goes by the schema of its relation. -/
def rowInbound (options : FindOptions) (row : Record) : Record :=
  row.map fun (name, value) => (name, inboundAs (options.column? name) value)

/-- Shapes a fetched row of one table. -/
def schemaRowInbound (schema : Schema) (row : Record) : Record :=
  row.map fun (name, value) => (name, inboundAs (schema.column? name) value)

end Coercion

end DataAccess
