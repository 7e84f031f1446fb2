import DataAccess.Text.Base64
import DataAccess.Text.Blank

/-!
# Texts that travel as base64

Base64 gives back the bytes that it was made from, whatever their number and hence its padding. Base64
text holds no white space.
-/

namespace DataAccess

namespace Base64

/-! ### The alphabet -/

theorem valueOf?_charOf {n : Nat} (h : n < 64) : valueOf? (charOf n) = some n := by
  have hall : ∀ n ∈ List.range 64, valueOf? (charOf n) = some n := by decide +kernel
  exact hall n (List.mem_range.mpr h)

theorem charOf_ne_pad {n : Nat} (h : n < 64) : charOf n ≠ '=' := by
  have hall : ∀ n ∈ List.range 64, charOf n ≠ '=' := by decide +kernel
  exact hall n (List.mem_range.mpr h)

theorem isBlank_charOf {n : Nat} (h : n < 64) : Text.isBlank (charOf n) = false := by
  have hall : ∀ n ∈ List.range 64, Text.isBlank (charOf n) = false := by decide +kernel
  exact hall n (List.mem_range.mpr h)

/-! ### Reading back -/

/-- Four characters of which the last is no padding stand for three bytes. -/
theorem decode?_cons {d : Char} (hd : d ≠ '=') (a b c : Char) (rest : List Char) :
    decode? (a :: b :: c :: d :: rest) = (do
      let a ← valueOf? a
      let b ← valueOf? b
      let c ← valueOf? c
      let d ← valueOf? d
      let n := ((a * 64 + b) * 64 + c) * 64 + d
      let bytes ← decode? rest
      return (n / 65536).toUInt8 :: (n / 256).toUInt8 :: n.toUInt8 :: bytes) := by
  cases rest with
  | nil => simp [decode?, hd]
  | cons e rest => simp [decode?]

/-- One character of padding leaves two bytes. -/
theorem decode?_pad {c : Char} (hc : c ≠ '=') (a b : Char) :
    decode? [a, b, c, '='] = (do
      let a ← valueOf? a
      let b ← valueOf? b
      let c ← valueOf? c
      let n := (a * 64 + b) * 64 + c
      if n % 4 = 0 then some [(n / 1024).toUInt8, (n / 4).toUInt8] else none) := by
  rw [decode?]
  exact hc

theorem toUInt8_of_mod {n : Nat} {byte : UInt8} (h : n % 256 = byte.toNat) : n.toUInt8 = byte :=
  UInt8.toNat_inj.mp (by simpa using h)

theorem decode?_encode (bytes : List UInt8) : decode? (encode bytes) = some bytes := by
  fun_induction encode bytes with
  | case1 => rfl
  | case2 a n =>
      have ha : a.toNat < 256 := a.toNat_lt
      have hbyte : (n / 64 * 64 + n % 64) / 16 = a.toNat := by omega
      have hpad : (n / 64 * 64 + n % 64) % 16 = 0 := by omega
      have hmod : a.toNat % 256 = a.toNat := Nat.mod_eq_of_lt ha
      simp [decode?, valueOf?_charOf (show n / 64 < 64 by omega),
        valueOf?_charOf (show n % 64 < 64 by omega), hpad, hbyte, toUInt8_of_mod hmod]
  | case3 a b n =>
      have ha : a.toNat < 256 := a.toNat_lt
      have hb : b.toNat < 256 := b.toNat_lt
      have hjoin : (n / 4096 * 64 + n / 64 % 64) * 64 + n % 64 = n := by omega
      have hpad : n % 4 = 0 := by omega
      have hfirst : n / 1024 % 256 = a.toNat := by omega
      have hsecond : n / 4 % 256 = b.toNat := by omega
      rw [decode?_pad (charOf_ne_pad (by omega)), valueOf?_charOf (show n / 4096 < 64 by omega),
        valueOf?_charOf (show n / 64 % 64 < 64 by omega),
        valueOf?_charOf (show n % 64 < 64 by omega)]
      simp only [Option.bind_eq_bind, Option.bind_some, hjoin, hpad, if_true,
        toUInt8_of_mod hfirst, toUInt8_of_mod hsecond]
  | case4 a b c rest n ih =>
      have ha : a.toNat < 256 := a.toNat_lt
      have hb : b.toNat < 256 := b.toNat_lt
      have hc : c.toNat < 256 := c.toNat_lt
      have hjoin :
          ((n / 262144 * 64 + n / 4096 % 64) * 64 + n / 64 % 64) * 64 + n % 64 = n := by omega
      have hfirst : n / 65536 % 256 = a.toNat := by omega
      have hsecond : n / 256 % 256 = b.toNat := by omega
      have hthird : n % 256 = c.toNat := by omega
      rw [decode?_cons (charOf_ne_pad (by omega)), valueOf?_charOf (show n / 262144 < 64 by omega),
        valueOf?_charOf (show n / 4096 % 64 < 64 by omega),
        valueOf?_charOf (show n / 64 % 64 < 64 by omega),
        valueOf?_charOf (show n % 64 < 64 by omega), ih]
      simp only [Option.bind_eq_bind, Option.bind_some, hjoin, toUInt8_of_mod hfirst,
        toUInt8_of_mod hsecond, toUInt8_of_mod hthird]
      rfl

theorem encode_ne_nil {bytes : List UInt8} (h : bytes ≠ []) : encode bytes ≠ [] := by
  fun_cases encode bytes <;> simp_all

theorem isBlank_of_mem_encode {bytes : List UInt8} {c : Char} (h : c ∈ encode bytes) :
    Text.isBlank c = false := by
  fun_induction encode bytes with
  | case1 => cases h
  | case2 a n =>
      have ha : a.toNat < 256 := a.toNat_lt
      simp only [List.mem_cons, List.not_mem_nil, or_false] at h
      rcases h with rfl | rfl | rfl | rfl
      · exact isBlank_charOf (by omega)
      · exact isBlank_charOf (by omega)
      · rfl
      · rfl
  | case3 a b n =>
      have ha : a.toNat < 256 := a.toNat_lt
      have hb : b.toNat < 256 := b.toNat_lt
      simp only [List.mem_cons, List.not_mem_nil, or_false] at h
      rcases h with rfl | rfl | rfl | rfl
      · exact isBlank_charOf (by omega)
      · exact isBlank_charOf (by omega)
      · exact isBlank_charOf (by omega)
      · rfl
  | case4 a b c rest n ih =>
      have ha : a.toNat < 256 := a.toNat_lt
      have hb : b.toNat < 256 := b.toNat_lt
      have hc : c.toNat < 256 := c.toNat_lt
      simp only [List.mem_cons] at h
      rcases h with rfl | rfl | rfl | rfl | h
      · exact isBlank_charOf (by omega)
      · exact isBlank_charOf (by omega)
      · exact isBlank_charOf (by omega)
      · exact isBlank_charOf (by omega)
      · exact ih h

end Base64

end DataAccess
