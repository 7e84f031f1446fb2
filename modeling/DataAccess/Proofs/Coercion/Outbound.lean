import DataAccess.Coercion
import DataAccess.Proofs.Results

/-!
# What a store is given

Each way in which a value is shaped for a column, with what it takes. Whatever is bound was bound in
one of these ways.
-/

namespace DataAccess

/-- Null, a truth value, a number or a text. -/
def Json.isScalar : Json → Bool
  | .array _ | .object _ => false
  | _ => true

namespace Coercion

theorem eq_some_of_orInvalid {α : Type} {column : Column} {expected : String} {value : Json}
    {result : Option α} {x : α} (h : orInvalid column expected value result = .ok x) :
    result = some x := by
  cases result with
  | none => cases h
  | some y => exact congrArg some (Except.ok.inj h)

theorem enumValue_eq_ok {column : Column} {value coerced : Json}
    (h : enumValue column value = .ok coerced) : coerced = .string value.shown := by
  unfold enumValue at h
  dsimp only at h
  split at h
  · exact (Except.ok.inj h).symm
  · cases h

/-- What a value becomes when it is shaped for a column. -/
inductive Coerces (column : Column) (caps : Capabilities) (value : Json) : Json → Prop
  | null (hvalue : value.isNull = true) : Coerces column caps value .null
  | boolean (htype : column.type = .boolean) {b : Bool} (hread : boolean? value = some b) :
      Coerces column caps value (boolValue caps b)
  | date (htype : column.type = .date) {t : Timestamp} (hread : timestamp? value = some t) :
      Coerces column caps value (.string t.outbound)
  | number (htype : column.type = .number) {n : Json.Number} (hvalue : value = .number n) :
      Coerces column caps value (.number n)
  | numeral (htype : column.type = .number) {s : String} {n : Json.Number}
      (hvalue : value = .string s) (hread : number? s = some n) :
      Coerces column caps value (.number n)
  | bit (htype : column.type = .number) {b : Bool} (hvalue : value = .bool b) :
      Coerces column caps value (.nat b.toNat)
  | text (htype : column.type = .json) (hvalue : value.isScalar = false)
      (hnative : caps.nativeJson = false) : Coerces column caps value (.string value.compact)
  | json (htype : column.type = .json) (hplain : value.isScalar = true ∨ caps.nativeJson = true) :
      Coerces column caps value value
  | enum (htype : column.type = .enum) (hallowed : enumValue column value = .ok (.string value.shown)) :
      Coerces column caps value (.string value.shown)
  | plain (htype : column.type = .string ∨ column.type = .unknown) : Coerces column caps value value

variable {column : Column} {caps : Capabilities} {value coerced : Json}

theorem outbound_json (htype : column.type = .json) (caps : Capabilities) (value : Json) :
    outbound column caps value =
      .ok (if value.isScalar = true ∨ caps.nativeJson = true then value
        else .string value.compact) := by
  cases value with
  | null => rfl -- Null is bound before the type of the column is asked for.
  | bool _ | number _ | string _ | array _ | object _ =>
      simp [outbound, Json.isScalar, Json.isNull, htype]

theorem coerces_of_outbound (h : outbound column caps value = .ok coerced) :
    Coerces column caps value coerced := by
  have hjson := h
  unfold outbound at h
  split at h
  next hnull =>
    obtain rfl := Except.ok.inj h
    exact .null hnull
  split at h
  next htype =>
    obtain ⟨b, hread, rfl⟩ := exists_of_map_eq_ok h
    exact .boolean htype (eq_some_of_orInvalid hread)
  next htype =>
    obtain ⟨t, hread, rfl⟩ := exists_of_map_eq_ok h
    exact .date htype (eq_some_of_orInvalid hread)
  next htype =>
    split at h
    · obtain rfl := Except.ok.inj h
      exact .number htype rfl
    · obtain ⟨n, hread, rfl⟩ := exists_of_map_eq_ok h
      exact .numeral htype rfl (eq_some_of_orInvalid hread)
    · obtain rfl := Except.ok.inj h
      exact .bit htype rfl
    · cases h
  next htype =>
    rw [outbound_json htype] at hjson
    obtain rfl := Except.ok.inj hjson
    by_cases hplain : value.isScalar = true ∨ caps.nativeJson = true
    · rw [if_pos hplain]
      exact .json htype hplain
    · rw [if_neg hplain]
      obtain ⟨hvalue, hnative⟩ := not_or.mp hplain
      exact .text htype (eq_false_of_ne_true hvalue) (eq_false_of_ne_true hnative)
  next htype =>
    obtain rfl := enumValue_eq_ok h
    exact .enum htype h
  next htype =>
    obtain rfl := Except.ok.inj h
    exact .plain (.inl htype)
  next htype =>
    obtain rfl := Except.ok.inj h
    exact .plain (.inr htype)

end Coercion

end DataAccess
