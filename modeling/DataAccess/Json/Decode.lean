import DataAccess.Json.Basic

/-!
Reading typed data from JSON values. A field stands at most once, and names that are not asked for
are passed over.
-/

namespace DataAccess

namespace Json

namespace Decode

/-- The fields of an object; an array gives them in the order of the names, the last ones absent if it
is short. -/
def members? (names : List String) : Json → Option (List (String × Json))
  | .object fields => some fields
  | .array items => if items.length ≤ names.length then some (names.zip items) else none
  | _ => none

/-- The value of a field that may be absent; none if it stands twice. -/
def optional? (fields : List (String × Json)) (name : String) : Option (Option Json) :=
  match fields.filter fun field => field.1 == name with
  | [] => some none
  | [(_, value)] => some (some value)
  | _ => none

def required? (fields : List (String × Json)) (name : String) : Option Json :=
  (optional? fields name).bind id

/-- A value, or a fallback if the field is absent. -/
def fieldOr? {α : Type} (fields : List (String × Json)) (name : String) (fallback : α)
    (read : Json → Option α) : Option α :=
  match optional? fields name with
  | none => none
  | some none => some fallback
  | some (some value) => read value

def field? {α : Type} (fields : List (String × Json)) (name : String) (read : Json → Option α) :
    Option α :=
  (required? fields name).bind read

/-- A value or null. -/
def nullable? {α : Type} (read : Json → Option α) : Json → Option (Option α)
  | .null => some none
  | value => (read value).map some

/-- A value that may be null or absent. -/
def maybe? {α : Type} (fields : List (String × Json)) (name : String) (read : Json → Option α) :
    Option (Option α) :=
  fieldOr? fields name none (nullable? read)

def list? {α : Type} (read : Json → Option α) : Json → Option (List α)
  | .array items => items.mapM read
  | _ => none

/-- An integer below a power of two, written without a fraction. -/
def word? (bits : Nat) : Json → Option Nat
  | .number (.int n) => if 0 ≤ n ∧ n < twoTo bits then some n.toNat else none
  | _ => none

def string? : Json → Option String := asString?

def bool? : Json → Option Bool := asBool?

/-- Any value, its objects sorted. -/
def value? (value : Json) : Option Json := some value.normalize

/-- One of a set of names: as a string, or as the one field of an object, over null. -/
def named? {α : Type} (ofName : String → Option α) : Json → Option α
  | .string name => ofName name
  | .object [(name, .null)] => ofName name
  | _ => none

end Decode

end Json

end DataAccess
