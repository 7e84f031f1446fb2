import DataAccess.Number.Decimal

/-!
JSON values. A number is an integer or a binary float, and the two kinds never meet. An object is a
list of fields; values that leave a reader or a constructor have their fields sorted by name, each
name once.
-/

namespace DataAccess

namespace Json

/-- `int` is for integers of 64 bits, signed or unsigned; any other number is a float. -/
inductive Number
  | int (value : Int)
  | float (value : Binary64)
  deriving DecidableEq, Repr, Inhabited

namespace Number

def leastInt : Int := -9223372036854775808

def greatestSigned : Int := 9223372036854775807

def greatestInt : Int := 18446744073709551615

/-- An integer outside 64 bits becomes the nearest float. -/
def ofInt (n : Int) : Number :=
  if leastInt ≤ n ∧ n ≤ greatestInt then .int n else .float (Binary64.ofInt n)

def toBinary64 : Number → Binary64
  | int n => Binary64.ofInt n
  | float x => x

/-- The value as a signed integer of 64 bits, if it is one. -/
def toSigned? : Number → Option Int
  | int n => if n ≤ greatestSigned then some n else none
  | float _ => none

/-- Equality within a kind. -/
def same : Number → Number → Bool
  | int a, int b => a == b
  | float x, float y => x.sameValue y
  | _, _ => false

def chars : Number → List Char
  | int n => Decimal.intChars n
  | float x => if x.isFinite then x.text .data else ['n', 'u', 'l', 'l']

def text (n : Number) : String := String.ofList n.chars

end Number

end Json

inductive Json
  | null
  | bool (value : Bool)
  | number (value : Json.Number)
  | string (value : String)
  | array (items : List Json)
  | object (fields : List (String × Json))
  deriving Repr, Inhabited

/-- The fields of an object, sorted by name. -/
abbrev Record := List (String × Json)

namespace Json

def int (n : Int) : Json := .number (.int n)

def nat (n : Nat) : Json := .number (.int n)

def float (x : Binary64) : Json := if x.isFinite then .number (.float x) else .null

def isNull : Json → Bool
  | null => true
  | _ => false

def asString? : Json → Option String
  | string s => some s
  | _ => none

def asBool? : Json → Option Bool
  | bool b => some b
  | _ => none

def asObject? : Json → Option Record
  | object fields => some fields
  | _ => none

def asSigned? : Json → Option Int
  | number n => n.toSigned?
  | _ => none

mutual

/-- Whether two values are equal: numbers within their kind, objects field by field. -/
def same : Json → Json → Bool
  | null, null => true
  | bool a, bool b => a == b
  | number a, number b => a.same b
  | string a, string b => a == b
  | array a, array b => sameItems a b
  | object a, object b => sameFields a b
  | _, _ => false

def sameItems : List Json → List Json → Bool
  | [], [] => true
  | a :: as, b :: bs => same a b && sameItems as bs
  | _, _ => false

def sameFields : List (String × Json) → List (String × Json) → Bool
  | [], [] => true
  | (k, a) :: as, (l, b) :: bs => k == l && same a b && sameFields as bs
  | _, _ => false

end

mutual

def decideEq : (a b : Json) → Decidable (a = b)
  | null, null => isTrue rfl
  | bool a, bool b => if h : a = b then isTrue (h ▸ rfl) else isFalse (by simp [h])
  | number a, number b => if h : a = b then isTrue (h ▸ rfl) else isFalse (by simp [h])
  | string a, string b => if h : a = b then isTrue (h ▸ rfl) else isFalse (by simp [h])
  | array a, array b =>
    match decideItemsEq a b with
    | isTrue h => isTrue (h ▸ rfl)
    | isFalse h => isFalse (by simp [h])
  | object a, object b =>
    match decideFieldsEq a b with
    | isTrue h => isTrue (h ▸ rfl)
    | isFalse h => isFalse (by simp [h])
  | null, bool _ | null, number _ | null, string _ | null, array _ | null, object _
  | bool _, null | bool _, number _ | bool _, string _ | bool _, array _ | bool _, object _
  | number _, null | number _, bool _ | number _, string _ | number _, array _ | number _, object _
  | string _, null | string _, bool _ | string _, number _ | string _, array _ | string _, object _
  | array _, null | array _, bool _ | array _, number _ | array _, string _ | array _, object _
  | object _, null | object _, bool _ | object _, number _ | object _, string _
  | object _, array _ => isFalse (by simp)

def decideItemsEq : (a b : List Json) → Decidable (a = b)
  | [], [] => isTrue rfl
  | [], _ :: _ | _ :: _, [] => isFalse (by simp)
  | a :: as, b :: bs =>
    match decideEq a b, decideItemsEq as bs with
    | isTrue h, isTrue hs => isTrue (by rw [h, hs])
    | isFalse h, _ => isFalse (by simp [h])
    | _, isFalse hs => isFalse (by simp [hs])

def decideFieldsEq : (a b : List (String × Json)) → Decidable (a = b)
  | [], [] => isTrue rfl
  | [], _ :: _ | _ :: _, [] => isFalse (by simp)
  | (k, a) :: as, (l, b) :: bs =>
    if hk : k = l then
      match decideEq a b, decideFieldsEq as bs with
      | isTrue h, isTrue hs => isTrue (by rw [hk, h, hs])
      | isFalse h, _ => isFalse (by simp [h])
      | _, isFalse hs => isFalse (by simp [hs])
    else isFalse (by simp [hk])

end

instance : DecidableEq Json := decideEq

mutual

/-- How many arrays and objects lie inside each other. -/
def depth : Json → Nat
  | array items => depthOfItems items + 1
  | object fields => depthOfFields fields + 1
  | _ => 0

def depthOfItems : List Json → Nat
  | [] => 0
  | item :: rest => max (depth item) (depthOfItems rest)

def depthOfFields : List (String × Json) → Nat
  | [] => 0
  | (_, value) :: rest => max (depth value) (depthOfFields rest)

end

/-- The value of the first field of that name. -/
def field? (fields : List (String × Json)) (name : String) : Option Json :=
  (fields.find? fun entry => entry.1 == name).map (·.2)

end Json

namespace Record

/-- The value under a name. -/
def get? (record : Record) (name : String) : Option Json := Json.field? record name

def contains (record : Record) (name : String) : Bool := (record.get? name).isSome

/-- Sets the value under a name and keeps the names sorted. -/
def insert : Record → String → Json → Record
  | [], name, value => [(name, value)]
  | (key, old) :: rest, name, value =>
    if name < key then (name, value) :: (key, old) :: rest
    else if name = key then (name, value) :: rest
    else (key, old) :: insert rest name value

def erase (record : Record) (name : String) : Record :=
  record.filter fun entry => entry.1 != name

def keys (record : Record) : List String := record.map (·.1)

def values (record : Record) : List Json := record.map (·.2)

/-- A record of the given fields; of two with one name the later counts. -/
def ofFields (fields : List (String × Json)) : Record :=
  fields.foldl (fun record entry => insert record entry.1 entry.2) []

/-- Names sorted, each once. -/
def Sorted (record : Record) : Prop := record.keys.Pairwise (· < ·)

end Record

namespace Json

mutual

/-- The value with the fields of every object sorted; of two with one name the later counts. -/
def normalize : Json → Json
  | array items => .array (normalizeItems items)
  | object fields => .object (Record.ofFields (normalizeFields fields))
  | other => other

def normalizeItems : List Json → List Json
  | [] => []
  | item :: rest => normalize item :: normalizeItems rest

def normalizeFields : List (String × Json) → List (String × Json)
  | [] => []
  | (name, value) :: rest => (name, normalize value) :: normalizeFields rest

end

end Json

end DataAccess
