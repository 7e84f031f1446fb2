import DataAccess.Text.Hex

/-!
# Hexadecimal digits

The digits that are written are read back, and what holds of the digits in both cases holds of whatever
is read as one.
-/

namespace DataAccess

namespace Hex

theorem digit?_char {n : Nat} (h : n < 16) : digit? (char n) = some n := by
  have hdigits : ∀ n < 16, digit? (char n) = some n := by decide
  exact hdigits n h

/-- What holds of the ten digits and of the six letters in either case holds of every digit. -/
theorem of_isDigit {P : Char → Prop} (hdigit : ∀ n < 10, P (Char.ofNat (48 + n)))
    (hlower : ∀ n < 6, P (Char.ofNat (97 + n))) (hupper : ∀ n < 6, P (Char.ofNat (65 + n)))
    {c : Char} (hc : isDigit c) : P c := by
  have hrange : ∀ {a b : Char}, a ≤ c ∧ c ≤ b →
      (∀ n < b.toNat + 1 - a.toNat, P (Char.ofNat (a.toNat + n))) → P c := by
    intro a b hbounds h
    have hleast : a.toNat ≤ c.toNat := hbounds.1
    have hgreatest : c.toNat ≤ b.toNat := hbounds.2
    have hletter := h (c.toNat - a.toNat) (by omega)
    rwa [Nat.add_sub_cancel' hleast, Char.ofNat_toNat] at hletter
  unfold isDigit digit? at hc
  split at hc
  next hbounds => exact hrange hbounds hdigit
  split at hc
  next hbounds => exact hrange hbounds hlower
  split at hc
  next hbounds => exact hrange hbounds hupper
  · cases hc

theorem toNat_lt_of_isDigit {c : Char} (hc : isDigit c) : c.toNat < 0x80 :=
  of_isDigit (P := fun c => c.toNat < 0x80) (by decide) (by decide) (by decide) hc

end Hex

end DataAccess
