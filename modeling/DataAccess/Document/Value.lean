import DataAccess.Coercion

/-!
Values of documents. An object id is an object with the key `$oid`, a timestamp one with `$date`;
callers see the id's digits and the timestamp's text.
-/

namespace DataAccess

namespace Document

/-- The native type of object ids. -/
def objectId : String := "objectId"

/-- Documents hold truth values and nested values as they are. -/
def capabilities : Capabilities := ⟨true, true⟩

def isObjectId (s : String) : Bool := s.toList.length == 24 && s.toList.all Hex.isDigit

def oid (digits : String) : Json := .object [("$oid", .string digits)]

def date (t : Timestamp) : Json := .object [("$date", .string t.inbound)]

/-- Shapes a caller's value for storage in a column or comparison with it. -/
def ofValue (column : Column) (value : Json) : Except EngineError Json :=
  if column.extra.nativeType = some objectId then
    let invalid : Except EngineError Json :=
      .error (Coercion.invalid column "a 24 character hex object id" value)
    match value with
    | .null => .ok .null
    | .string s => if isObjectId s then .ok (oid (Text.lower s)) else invalid
    | .object fields => if Record.contains fields "$oid" then .ok value else invalid
    | _ => invalid
  else
    (Coercion.outbound column capabilities value).map fun coerced =>
      if column.type = .date then
        match (coerced.asString?).bind Timestamp.read? with
        | some t => date t
        | none => coerced
      else coerced

/-- Shapes a payload. A field without a column stays as it is. -/
def ofRecord (schema : Schema) (record : Record) : Except EngineError Record :=
  record.mapM fun (name, value) =>
    match schema.column? name with
    | some column => (ofValue column value).map fun value => (name, value)
    | none => .ok (name, value)

/-- The text of a date under its key: a timestamp with an offset, or milliseconds. Anything else
stays. -/
def surfaceDate (value : Json) : Json :=
  let parsed := match value with
    | .string s => Timestamp.readStrict? s.toList
    | .object fields =>
      match Record.get? fields "$numberLong" with
      | some (.string s) => (Decimal.readSigned? s.toList).bind Timestamp.ofMillis?
      | _ => none
    | .number n => n.toSigned?.bind Timestamp.ofMillis?
    | _ => none
  match parsed with
  | some t => .string t.inbound
  | none => value

/-- The value of an object whose one key is a wrapper's. -/
def unwrap? (key : String) (value : Json) : Option Json :=
  match key, value with
  | "$oid", .string s => some (.string s)
  | "$date", value => some (surfaceDate value)
  | "$numberLong", .string s | "$numberDecimal", .string s =>
    some (((Coercion.number? s).map .number).getD (.string s))
  | _, _ => none

mutual

/-- Replaces the wrappers of ids, dates and long numbers by what callers see. -/
def surface : Json → Json
  | .object [(key, value)] =>
    match unwrap? key value with
    | some unwrapped => unwrapped
    | none => .object [(key, surface value)]
  | .object fields => .object (surfaceFields fields)
  | .array items => .array (surfaceItems items)
  | other => other

def surfaceItems : List Json → List Json
  | [] => []
  | item :: rest => surface item :: surfaceItems rest

def surfaceFields : List (String × Json) → List (String × Json)
  | [] => []
  | (key, value) :: rest => (key, surface value) :: surfaceFields rest

end

def surfaceRecord (record : Record) : Record := surfaceFields record

end Document

end DataAccess
