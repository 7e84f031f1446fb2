import DataAccess.Text.Case

/-!
# Letter case

A text in lower case stays as it is in lower case. The characters of a text are those of its lower case,
or letters in upper case that stand for them.
-/

namespace DataAccess

namespace Text

/-- What holds of the letters in upper case holds of each of them. -/
theorem of_isUpper {P : Char → Prop} (h : ∀ n < 26, P (Char.ofNat (65 + n))) {c : Char}
    (hc : 'A' ≤ c ∧ c ≤ 'Z') : P c := by
  have hleast : 65 ≤ c.toNat := hc.1
  have hgreatest : c.toNat ≤ 90 := hc.2
  have hletter := h (c.toNat - 65) (by omega)
  rwa [Nat.add_sub_cancel' hleast, Char.ofNat_toNat] at hletter

theorem lowerChar_lowerChar (c : Char) : lowerChar (lowerChar c) = lowerChar c := by
  by_cases h : 'A' ≤ c ∧ c ≤ 'Z'
  · exact of_isUpper (P := fun c => lowerChar (lowerChar c) = lowerChar c) (by decide) h
  · have hsame : lowerChar c = c := if_neg h
    rw [hsame, hsame]

theorem lower_eq_empty_iff {s : String} : lower s = "" ↔ s = "" := by
  rw [lower, String.ofList_eq_empty_iff, List.map_eq_nil_iff, String.toList_eq_nil_iff]

theorem lower_lower (s : String) : lower (lower s) = lower s := by
  rw [lower, lower, String.toList_ofList, List.map_map]
  exact congrArg String.ofList (List.map_congr_left fun c _ => lowerChar_lowerChar c)

/-- What holds of the letters in upper case, and of a character in lower case, holds of it. -/
theorem of_lowerChar {P : Char → Prop} (h : ∀ n < 26, P (Char.ofNat (65 + n))) {c : Char}
    (hc : P (lowerChar c)) : P c := by
  by_cases hupper : 'A' ≤ c ∧ c ≤ 'Z'
  · exact of_isUpper h hupper
  · rwa [lowerChar, if_neg hupper] at hc

/-- A text in another letter case has the same characters, up to letter case. -/
theorem lowerChar_mem_of_lower_eq {s t : String} (h : lower s = lower t) {c : Char}
    (hc : c ∈ s.toList) : lowerChar c ∈ (lower t).toList := by
  rw [← h, lower, String.toList_ofList]
  exact List.mem_map_of_mem hc

end Text

end DataAccess
