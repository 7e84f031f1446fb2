import DataAccess.Proofs.Json.Record

/-!
# Values that can be held

Integers have 64 bits, floats are finite, and the names of an object are sorted, each once. Every
value that a reader or a caller makes is of this kind. A value with sorted names is its own normal
form.
-/

namespace DataAccess

theorem Binary64.sameValue_self {x : Binary64} (h : x.isFinite = true) : x.sameValue x = true := by
  cases x with
  | finite negative significand exponent => simp [sameValue, compare?]
  | infinite _ | nan => cases h

namespace Json

def Number.isWellFormed : Number → Bool
  | int n => decide (leastInt ≤ n ∧ n ≤ greatestInt)
  | float x => x.isFinite

mutual

/-- The numbers of a value, in the order of its text. -/
def numbers : Json → List Number
  | number n => [n]
  | array items => numbersOfItems items
  | object fields => numbersOfFields fields
  | _ => []

def numbersOfItems : List Json → List Number
  | [] => []
  | item :: rest => numbers item ++ numbersOfItems rest

def numbersOfFields : List (String × Json) → List Number
  | [] => []
  | (_, value) :: rest => numbers value ++ numbersOfFields rest

end

mutual

/-- Whether the names of every object are sorted, each once. -/
def isSorted : Json → Bool
  | array items => areSorted items
  | object fields => decide (Record.Sorted fields) && areFieldsSorted fields
  | _ => true

def areSorted : List Json → Bool
  | [] => true
  | item :: rest => isSorted item && areSorted rest

def areFieldsSorted : List (String × Json) → Bool
  | [] => true
  | (_, value) :: rest => isSorted value && areFieldsSorted rest

end

def isWellFormed (v : Json) : Bool := v.isSorted && v.numbers.all Number.isWellFormed

mutual

theorem normalize_of_isSorted : ∀ {v : Json}, v.isSorted = true → normalize v = v
  | null, _ | bool _, _ | number _, _ | string _, _ => by rw [normalize]; all_goals simp
  | array items, h => by
      rw [isSorted] at h
      rw [normalize, normalizeItems_of_areSorted h]
  | object fields, h => by
      rw [isSorted, Bool.and_eq_true, decide_eq_true_iff] at h
      rw [normalize, normalizeFields_of_areFieldsSorted h.2, h.1.ofFields_eq]

theorem normalizeItems_of_areSorted :
    ∀ {items : List Json}, areSorted items = true → normalizeItems items = items
  | [], _ => rfl
  | item :: rest, h => by
      rw [areSorted, Bool.and_eq_true] at h
      rw [normalizeItems, normalize_of_isSorted h.1, normalizeItems_of_areSorted h.2]

theorem normalizeFields_of_areFieldsSorted :
    ∀ {fields : List (String × Json)}, areFieldsSorted fields = true →
      normalizeFields fields = fields
  | [], _ => rfl
  | (name, value) :: rest, h => by
      rw [areFieldsSorted, Bool.and_eq_true] at h
      rw [normalizeFields, normalize_of_isSorted h.1, normalizeFields_of_areFieldsSorted h.2]

end

end Json

end DataAccess
