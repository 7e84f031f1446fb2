import DataAccess.Json.Numeral
import DataAccess.Proofs.Number.Digits

/-!
# Numbers read back

A JSON reader makes a number of its own text. An integer of 64 bits it reads as it was written; of a
float it may make a neighbour.
-/

namespace DataAccess

open Json

namespace Json.Numeral

/-- Digits whose value fits into a word are all taken. -/
theorem fillWord_eq {digits : List Char} (h : Decimal.valueOf digits ≤ greatestWord) :
    fillWord 0 digits = (Decimal.valueOf digits, []) := by
  have hfold : ∀ word,
      digits.foldl (fun n c => 10 * n + (Decimal.digitValue? c).getD 0) word ≤ greatestWord →
        fillWord word digits =
          (digits.foldl (fun n c => 10 * n + (Decimal.digitValue? c).getD 0) word, []) ∧
        word ≤ digits.foldl (fun n c => 10 * n + (Decimal.digitValue? c).getD 0) word := by
    clear h
    induction digits with
    | nil => exact fun word _ => ⟨rfl, Nat.le_refl word⟩
    | cons c rest ih =>
        intro word hword
        rw [List.foldl_cons] at hword ⊢
        obtain ⟨hrest, hle⟩ := ih _ hword
        rw [fillWord, if_neg (by omega), hrest]
        exact ⟨rfl, by omega⟩
  exact (hfold 0 h).1

theorem digits?_digitChars (n : Nat) :
    digits? (Decimal.digitChars n) = some (Decimal.digitChars n, []) := by
  have hdigits := Decimal.takeWhile_isDigit_append []
    (fun c (hc : c ∈ Decimal.digitChars n) => Decimal.isDigit_of_mem_digitChars hc) (by simp)
  rw [List.append_nil] at hdigits
  rw [digits?, hdigits.1, hdigits.2]
  cases hchars : Decimal.digitChars n with
  | nil => exact absurd hchars (Decimal.digitChars_ne_nil n)
  | cons c rest => rfl

theorem unsigned?_digitChars (negative : Bool) (n : Nat) :
    unsigned? negative (Decimal.digitChars n) =
      some ⟨negative, Decimal.digitChars n, none, none⟩ := by
  have hwhole : whole? (Decimal.digitChars n) = some (Decimal.digitChars n, []) := by
    rw [whole?, digits?_digitChars]
    split
    next _ _ _ hzero =>
      obtain ⟨hzero, -⟩ := Prod.mk.inj (Option.some.inj hzero)
      cases Decimal.digitChars_zero_cons hzero
    next _ _ => rfl
  rw [unsigned?, hwhole]
  rfl

theorem read?_digitChars (n : Nat) :
    read? (Decimal.digitChars n) = some ⟨false, Decimal.digitChars n, none, none⟩ := by
  rw [read?, unsigned?_digitChars]
  intro rest
  exact Decimal.digitChars_ne_cons rfl

theorem value?_digitChars {n : Nat} (h : n ≤ greatestWord) :
    value? ⟨false, Decimal.digitChars n, none, none⟩ = some (.int n) := by
  have hvalue := Decimal.valueOf_digitChars n
  rw [value?, fillWord_eq (by rwa [hvalue]), hvalue]
  rfl

theorem value?_negative {n : Nat} (hpos : 0 < n) (h : n ≤ 9223372036854775808) :
    value? ⟨true, Decimal.digitChars n, none, none⟩ = some (.int (-(n : Int))) := by
  have hvalue := Decimal.valueOf_digitChars n
  have hword : n ≤ greatestWord := Nat.le_trans h (by decide)
  have hbounds : Number.leastInt ≤ -(n : Int) ∧ -(n : Int) ≤ Number.greatestInt := by
    have hleast : Number.leastInt = -9223372036854775808 := rfl
    have hgreatest : Number.greatestInt = 18446744073709551615 := rfl
    omega
  rw [value?, fillWord_eq (by rwa [hvalue]), hvalue]
  simp only [if_true, Nat.ne_of_gt hpos, if_false, Number.ofInt, if_pos hbounds]

end Json.Numeral

namespace Json.Number

/-- What a reader makes of the text of a number. -/
def reread? (n : Number) : Option Number := (Numeral.read? n.chars).bind Numeral.value?

theorem chars_negSucc (n : Nat) :
    (int (Int.negSucc n)).chars = '-' :: Decimal.digitChars (n + 1) := by
  have hneg : Int.negSucc n < 0 := Int.negSucc_lt_zero n
  rw [chars, Decimal.intChars, if_pos hneg]
  rfl

theorem chars_ofNat (n : Nat) : (int (Int.ofNat n)).chars = Decimal.digitChars n := by
  have hnonneg : ¬Int.ofNat n < 0 := Int.not_lt.mpr (Int.natCast_nonneg n)
  rw [chars, Decimal.intChars, if_neg hnonneg]
  rfl

/-- **Integers of 64 bits are read back.** -/
theorem reread?_int {n : Int} (h : leastInt ≤ n ∧ n ≤ greatestInt) :
    (int n).reread? = some (int n) := by
  have hleast : leastInt = -9223372036854775808 := rfl
  have hgreatest : greatestInt = 18446744073709551615 := rfl
  cases n with
  | ofNat n =>
      have hword : n ≤ Numeral.greatestWord := by
        have hgreatestWord : Numeral.greatestWord = 18446744073709551615 := rfl
        simp only [Int.ofNat_eq_natCast] at h
        omega
      rw [reread?, chars_ofNat, Numeral.read?_digitChars, Option.bind_some,
        Numeral.value?_digitChars hword]
      rfl
  | negSucc n =>
      have hword : n + 1 ≤ 9223372036854775808 := by omega
      rw [reread?, chars_negSucc, Numeral.read?, Numeral.unsigned?_digitChars, Option.bind_some,
        Numeral.value?_negative (Nat.succ_pos n) hword]
      rfl

end Json.Number

end DataAccess
