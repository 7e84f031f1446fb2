import DataAccess.Proofs.Coercion.Outbound
import DataAccess.Proofs.Json.Reread

/-!
# Values of JSON columns

A store that has no JSON of its own holds arrays and objects as text. What is fetched is what was
stored, except where the two kinds of text meet: a string that was itself the text of an array or an
object is taken for one, and the floats of a structure are those that the reader makes of their text.
-/

namespace DataAccess

namespace Coercion

/-- The values that a JSON column gives back. Integers need no mention: their text is always read as
what it writes. -/
structure ReadsBack (caps : Capabilities) (value : Json) : Prop where
  notText : ∀ s inner, value = .string s → Json.read? s = some inner → inner.isScalar = true
  floats : value.isScalar = false → caps.nativeJson = false →
    ∀ x : Binary64, .float x ∈ value.numbers → (Json.Number.float x).reread? = some (.float x)

variable {column : Column} {caps : Capabilities} {value coerced : Json}

theorem inbound_json_string (s : String) :
    inbound .json (.string s) =
      ((Json.read? s).filter fun inner => !inner.isScalar).getD (.string s) := by
  rw [inbound]
  cases Json.read? s with
  | none => rfl
  | some inner => cases inner <;> rfl

theorem inbound_json_of_ne_string (h : ∀ s, value ≠ .string s) : inbound .json value = value := by
  cases value with
  | string s => exact absurd rfl (h s)
  | null | bool _ | number _ | array _ | object _ => rfl

/-- An array or an object comes of a text only as what the reader makes of the text. -/
theorem inbound_json_eq_structure (hvalue : value.isScalar = false) (s : String) :
    inbound .json (.string s) = value ↔ Json.read? s = some value := by
  rw [inbound_json_string]
  constructor
  · intro h
    cases hkept : (Json.read? s).filter fun inner => !inner.isScalar with
    | none =>
        obtain rfl : Json.string s = value := by rwa [hkept] at h
        cases hvalue
    | some kept =>
        obtain rfl : kept = value := by rwa [hkept] at h
        exact (Option.filter_eq_some_iff.mp hkept).1
  · intro h
    rw [h, Option.filter_some, hvalue]
    rfl

theorem inbound_json_eq_string (s : String) :
    inbound .json (.string s) = .string s ↔
      ∀ inner, Json.read? s = some inner → inner.isScalar = true := by
  constructor
  · intro h inner hread
    cases hinner : inner.isScalar with
    | true => rfl
    | false =>
        obtain rfl : Json.string s = inner :=
          h.symm.trans ((inbound_json_eq_structure hinner s).mpr hread)
        cases hinner
  · intro h
    rw [inbound_json_string]
    cases hread : Json.read? s with
    | none => rfl
    | some inner =>
        rw [Option.filter_some, h inner hread]
        rfl

theorem inbound_compact_iff (hvalue : value.isWellFormed = true) (hdepth : value.depth ≤ 127)
    (hstructure : value.isScalar = false) (hnative : caps.nativeJson = false) :
    inbound .json (.string value.compact) = value ↔ ReadsBack caps value := by
  have hlimit : value.depth < Json.Reader.depthLimit := Nat.lt_succ_of_le hdepth
  rw [inbound_json_eq_structure hstructure, Json.read?_compact_iff_floats hvalue hlimit]
  constructor
  · intro hfloats
    refine ⟨?_, fun _ _ => hfloats⟩
    rintro s inner rfl -
    cases hstructure
  · exact fun hback => hback.floats hstructure hnative

theorem inbound_plain_iff (hplain : value.isScalar = true ∨ caps.nativeJson = true) :
    inbound .json value = value ↔ ReadsBack caps value := by
  constructor
  · intro h
    refine ⟨?_, fun hstructure hnative => ?_⟩
    · rintro s inner rfl hread
      exact (inbound_json_eq_string s).mp h inner hread
    · simp [hstructure, hnative] at hplain
  · intro hback
    by_cases hstring : ∃ s, value = .string s
    · obtain ⟨s, rfl⟩ := hstring
      apply (inbound_json_eq_string s).mpr
      exact fun inner hread => hback.notText s inner rfl hread
    · apply inbound_json_of_ne_string
      exact fun s heq => hstring ⟨s, heq⟩

/-- **What a JSON column stores is what is fetched** for exactly the values that read back. -/
theorem json_column_round_trip (htype : column.type = .json) (hvalue : value.isWellFormed = true)
    (hdepth : value.depth ≤ 127) (h : outbound column caps value = .ok coerced) :
    inbound .json coerced = value ↔ ReadsBack caps value := by
  rw [outbound_json htype] at h
  obtain rfl := Except.ok.inj h
  by_cases hplain : value.isScalar = true ∨ caps.nativeJson = true
  · rw [if_pos hplain]
    exact inbound_plain_iff hplain
  · rw [if_neg hplain]
    obtain ⟨hstructure, hnative⟩ := not_or.mp hplain
    exact inbound_compact_iff hvalue hdepth (eq_false_of_ne_true hstructure)
      (eq_false_of_ne_true hnative)

/-- A string that holds JSON comes back inside an array, and a tenth comes back as a tenth. -/
theorem json_column_round_trip_nested :
    outbound (.ofType "data" .json) ⟨false, false⟩
        (.object [("a\n", .array [.int (-7), .string "[1,2]"]),
          ("ratio", .number (.float (.finite false 7205759403792794 (-56))))]) =
      .ok (.string "\x7b\"a\\n\":[-7,\"[1,2]\"],\"ratio\":0.1\x7d") ∧
    inbound .json (.string "\x7b\"a\\n\":[-7,\"[1,2]\"],\"ratio\":0.1\x7d") =
      .object [("a\n", .array [.int (-7), .string "[1,2]"]),
        ("ratio", .number (.float (.finite false 7205759403792794 (-56))))] := by
  have hbound : outbound (.ofType "data" .json) ⟨false, false⟩
      (.object [("a\n", .array [.int (-7), .string "[1,2]"]),
        ("ratio", .number (.float (.finite false 7205759403792794 (-56))))]) =
      .ok (.string "\x7b\"a\\n\":[-7,\"[1,2]\"],\"ratio\":0.1\x7d") :=
    eq_ok_of_toOption_eq_some (by decide +kernel)
  refine ⟨hbound, (json_column_round_trip rfl (by decide +kernel) (by decide) hbound).mpr ⟨?_, ?_⟩⟩
  · rintro s inner ⟨⟩
  · intro _ _ x hx
    have htenth : x = .finite false 7205759403792794 (-56) := by
      simpa [Json.numbers, Json.numbersOfItems, Json.numbersOfFields, Json.int] using hx
    rw [htenth]
    decide +kernel

/-- A string that is the text of an array comes back as the array. What the reader makes of `1.1e30`
is written as another decimal, and of that the reader makes the next float. -/
theorem json_column_not_returned :
    (outbound (.ofType "data" .json) ⟨false, false⟩ (.string "[1,2]") = .ok (.string "[1,2]") ∧
      inbound .json (.string "[1,2]") = .array [.int 1, .int 2] ∧
      Json.array [.int 1, .int 2] ≠ .string "[1,2]") ∧
    outbound (.ofType "data" .json) ⟨false, false⟩
        (.object [("x", .number (.float (.finite false 7815970093361101 47)))]) =
      .ok (.string "\x7b\"x\":1.0999999999999999e+30\x7d") ∧
    inbound .json (.string "\x7b\"x\":1.0999999999999999e+30\x7d") =
      .object [("x", .number (.float (.finite false 7815970093361102 47)))] ∧
    Json.object [("x", .number (.float (.finite false 7815970093361102 47)))] ≠
      .object [("x", .number (.float (.finite false 7815970093361101 47)))] :=
  ⟨⟨eq_ok_of_toOption_eq_some (by decide +kernel), by decide +kernel, by decide⟩,
    eq_ok_of_toOption_eq_some (by decide +kernel), by decide +kernel, by decide +kernel⟩

end Coercion

end DataAccess
