import DataAccess.Proofs.Coercion.Outbound
import DataAccess.Proofs.Time.Written

/-!
# Coercion twice

A coerced value is coerced to itself, in both directions. What a store is given is fixed by coercing it
for a store again; what a caller is given is fixed by coercing it for a caller again.
-/

namespace DataAccess

namespace Timestamp

/-- The layout of callers forgets what is below a millisecond. -/
theorem inbound_wholeMillis (t : Timestamp) :
    { t with nano := t.nano / 1000000 * 1000000 }.inbound = t.inbound := by
  have hmillis : t.nano / 1000000 * 1000000 / 1000000 = t.nano / 1000000 :=
    Nat.mul_div_cancel _ (by decide)
  simp only [inbound, hmillis, dateChars, clockChars]

end Timestamp

namespace Coercion

mutual

/-- However deep a timestamp lies under `$date`, it is one of a day that exists. -/
theorem valid_timestamp? {t : Timestamp} :
    ∀ {value : Json}, timestamp? value = some t → t.Valid
  | .string s, h => Timestamp.valid_read? (by rwa [timestamp?] at h)
  | .number n, h => by
      rw [timestamp?] at h
      obtain ⟨millis, -, hmillis⟩ := Option.bind_eq_some_iff.mp h
      exact Timestamp.valid_ofMillis? hmillis
  | .object fields, h => by
      rw [timestamp?] at h
      exact valid_inDate? h
  | .null, h => by cases h
  | .bool b, h => by cases h
  | .array items, h => by cases h

theorem valid_inDate? {t : Timestamp} :
    ∀ {fields : Record}, timestamp?.inDate? fields = some t → t.Valid
  | [], h => by cases h
  | (name, value) :: rest, h => by
      rw [timestamp?.inDate?] at h
      split at h
      · exact valid_timestamp? h
      · exact valid_inDate? h

end

/-! ### Values that are their own coercion -/

theorem boolean?_nat (b : Bool) : boolean? (.nat b.toNat) = some b := by
  cases b <;> decide +kernel

theorem boolean?_boolValue (caps : Capabilities) (b : Bool) :
    boolean? (boolValue caps b) = some b := by
  unfold boolValue
  split
  · rfl
  · exact boolean?_nat b

theorem timestamp?_outbound {t : Timestamp} (h : t.Valid) :
    timestamp? (.string t.outbound) = some { t with nano := 0 } := by
  rw [timestamp?, Timestamp.read?_outbound h]

/-- An allowed word is its own text. -/
theorem enumValue_of_enumValue {column : Column} {value coerced : Json}
    (h : enumValue column value = .ok coerced) : enumValue column coerced = .ok coerced := by
  unfold enumValue at h
  dsimp only at h
  split at h
  next hallowed =>
    obtain rfl := Except.ok.inj h
    have hshown : (Json.string value.shown).shown = value.shown := rfl
    simp only [enumValue, hshown]
    exact if_pos hallowed
  next _ => cases h

/-! ### Outbound -/

section Outbound

variable {column : Column} {caps : Capabilities}

theorem outbound_boolValue (htype : column.type = .boolean) (b : Bool) :
    outbound column caps (boolValue caps b) = .ok (boolValue caps b) := by
  have hnull : (boolValue caps b).isNull = false := by
    unfold boolValue
    split <;> rfl
  simp only [outbound, hnull, htype, Bool.false_eq_true, if_false, boolean?_boolValue]
  rfl

theorem outbound_timestamp (htype : column.type = .date) {t : Timestamp} (h : t.Valid) :
    outbound column caps (.string t.outbound) = .ok (.string t.outbound) := by
  have hnull : (Json.string t.outbound).isNull = false := rfl
  rw [outbound, hnull, htype]
  simp only [Bool.false_eq_true, if_false, timestamp?_outbound h]
  rfl

theorem outbound_number (htype : column.type = .number) (n : Json.Number) :
    outbound column caps (.number n) = .ok (.number n) := by
  have hnull : (Json.number n).isNull = false := rfl
  rw [outbound, hnull, htype]
  rfl

theorem outbound_json_of_plain (htype : column.type = .json) {value : Json}
    (hplain : value.isScalar = true ∨ caps.nativeJson = true) :
    outbound column caps value = .ok value := by
  rw [outbound_json htype, if_pos hplain]

theorem outbound_enum (htype : column.type = .enum) {value coerced : Json}
    (h : enumValue column value = .ok coerced) : outbound column caps coerced = .ok coerced := by
  have hnull : coerced.isNull = false := by
    unfold enumValue at h
    dsimp only at h
    split at h
    · obtain rfl := Except.ok.inj h
      rfl
    · cases h
  simp only [outbound, hnull, htype, Bool.false_eq_true, if_false]
  exact enumValue_of_enumValue h

/-- **Outbound coercion is idempotent.** -/
theorem outbound_outbound {value coerced : Json} (h : outbound column caps value = .ok coerced) :
    outbound column caps coerced = .ok coerced := by
  cases coerces_of_outbound h with
  | null _ => rfl
  | boolean htype _ => exact outbound_boolValue htype _
  | date htype hread => exact outbound_timestamp htype (valid_timestamp? hread)
  | number htype _ | numeral htype _ _ | bit htype _ => exact outbound_number htype _
  | text htype _ _ => exact outbound_json_of_plain htype (.inl rfl)
  | json htype hplain => exact outbound_json_of_plain htype hplain
  | enum htype hallowed => exact outbound_enum htype hallowed
  | plain _ => exact h

end Outbound

/-! ### Inbound -/

theorem inbound_boolean (value : Json) :
    inbound .boolean value = ((boolean? value).map .bool).getD value := by
  cases value <;> rfl

theorem inbound_date (value : Json) :
    inbound .date value = ((timestamp? value).map fun t => .string t.inbound).getD value := by
  cases value <;> rfl

/-- What callers are given for a timestamp is read as the same milliseconds, or, with a signed year, is
not read at all. -/
theorem inbound_date_inbound {t : Timestamp} (h : t.Valid) :
    inbound .date (.string t.inbound) = .string t.inbound := by
  rw [inbound_date, timestamp?]
  by_cases hplain : t.HasPlainYear
  · rw [Timestamp.read?_inbound h hplain]
    simp only [Option.map_some, Option.getD_some, Timestamp.inbound_wholeMillis]
  · rw [Timestamp.read?_inbound_signed h hplain]
    rfl

theorem eq_of_normalizeFloat {x y : Binary64} (h : normalizeFloat x = .float y) : x = y := by
  unfold normalizeFloat at h
  split at h
  · split at h
    · cases h
    · exact Json.Number.float.inj h
  · exact Json.Number.float.inj h

/-- A float that is kept has a fraction, or is too large to become an integer. -/
theorem inbound_normalizeFloat (x : Binary64) :
    inbound .number (.number (normalizeFloat x)) = .number (normalizeFloat x) := by
  cases hnumber : normalizeFloat x with
  | int n => rfl
  | float y =>
      obtain rfl := eq_of_normalizeFloat hnumber
      rw [inbound, hnumber]

theorem inbound_number? {s : String} {n : Json.Number} (h : number? s = some n) :
    inbound .number (.number n) = .number n := by
  unfold number? at h
  dsimp only at h
  split at h
  · obtain rfl := Option.some.inj h
    rfl
  split at h
  case h_2 => cases h
  split at h
  · obtain rfl := Option.some.inj h
    exact inbound_normalizeFloat _
  · cases h

/-- **Inbound coercion is idempotent.** -/
theorem inbound_inbound (type : ColumnType) (value : Json) :
    inbound type (inbound type value) = inbound type value := by
  cases type with
  | boolean =>
      rw [inbound_boolean value]
      cases hread : boolean? value with
      | none => rw [Option.map_none, Option.getD_none, inbound_boolean, hread]; rfl
      | some b => rfl
  | date =>
      rw [inbound_date value]
      cases hread : timestamp? value with
      | none => rw [Option.map_none, Option.getD_none, inbound_date, hread]; rfl
      | some t => exact inbound_date_inbound (valid_timestamp? hread)
  | number =>
      cases value with
      | string s =>
          cases hread : number? s with
          | none => simp only [inbound, hread, Option.map_none, Option.getD_none]
          | some n =>
              simpa only [inbound, hread, Option.map_some, Option.getD_some]
                using inbound_number? hread
      | number n =>
          cases n with
          | int n => rfl
          | float x => exact inbound_normalizeFloat x
      | null | bool | array | object => rfl
  | json =>
      cases value with
      | string s =>
          cases hread : Json.read? s with
          | none => simp only [inbound, hread]
          | some value => cases value <;> simp only [inbound, hread]
      | null | bool | number | array | object => rfl
  | string | unknown | enum => cases value <;> rfl

/-- **A coerced value is coerced to itself**, for a store under every column and all capabilities, and
for a caller under every type. -/
theorem coerced_twice :
    (∀ (column : Column) (caps : Capabilities) (value coerced : Json),
      outbound column caps value = .ok coerced → outbound column caps coerced = .ok coerced) ∧
    ∀ (type : ColumnType) (value : Json),
      inbound type (inbound type value) = inbound type value :=
  ⟨fun _ _ _ _ h => outbound_outbound h, inbound_inbound⟩

/-- A leap second under two `$date`, with an offset that moves it into the next year. -/
theorem coerced_twice_leapSecond :
    outbound (.ofType "at" .date) ⟨false, false⟩
        (.object [("$date", .object [("$date", .string "2016-12-31T22:59:60.25-01:30")])]) =
      .ok (.string "2017-01-01 00:29:60") ∧
    outbound (.ofType "at" .date) ⟨false, false⟩ (.string "2017-01-01 00:29:60") =
      .ok (.string "2017-01-01 00:29:60") := by
  have hread : outbound (.ofType "at" .date) ⟨false, false⟩
      (.object [("$date", .object [("$date", .string "2016-12-31T22:59:60.25-01:30")])]) =
        .ok (.string "2017-01-01 00:29:60") :=
    eq_ok_of_toOption_eq_some (by decide +kernel)
  exact ⟨hread, coerced_twice.1 _ _ _ _ hread⟩

end Coercion

end DataAccess
