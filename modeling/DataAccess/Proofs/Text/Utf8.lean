import DataAccess.Text.Utf8

/-!
# UTF-8 read back

A reader that repairs texts gives back every text from its bytes, whatever bytes stand behind it. Bytes
that are no text lose nothing but themselves: each unit that is read takes one byte and, behind it, only
bytes that begin no character.
-/

namespace DataAccess

namespace Utf8

/-! ### Well-formed sequences -/

theorem toNat_toUInt8 {n : Nat} (h : n < 256) : n.toUInt8.toNat = n := by
  rw [Nat.toUInt8, UInt8.toNat_ofNat']
  exact Nat.mod_eq_of_lt h

theorem between_iff {least most : Nat} {b : UInt8} :
    between least most b = true ↔ least ≤ b.toNat ∧ b.toNat ≤ most := by
  rw [between, decide_eq_true_iff]

theorem toNat_tail (m : Nat) : (0x80 + m % 64).toUInt8.toNat = 0x80 + m % 64 :=
  toNat_toUInt8 (by omega)

theorem tailBits_tail (m : Nat) : tailBits (0x80 + m % 64).toUInt8 = m % 64 := by
  rw [tailBits, toNat_tail]
  omega

theorem isTail_tail (m : Nat) : isTail (0x80 + m % 64).toUInt8 = true := by
  rw [isTail, between_iff, toNat_tail]
  omega

section Sequences

variable {a b c d : UInt8} (rest : List UInt8)

theorem units_one (ha : tailLength? a.toNat = some 0) :
    units (a :: rest) = some (Char.ofNat a.toNat) :: units rest := by
  rw [units, ha]
  rfl

theorem units_two (ha : tailLength? a.toNat = some 1)
    (hb : between (secondRange a.toNat).1 (secondRange a.toNat).2 b = true) :
    units (a :: b :: rest) = some (Char.ofNat (a.toNat % 32 * 64 + tailBits b)) :: units rest := by
  rw [units, ha]
  simp only [hb, Bool.not_true, Bool.false_eq_true, if_false, if_true]

theorem units_three (ha : tailLength? a.toNat = some 2)
    (hb : between (secondRange a.toNat).1 (secondRange a.toNat).2 b = true) (hc : isTail c = true) :
    units (a :: b :: c :: rest) =
      some (Char.ofNat ((a.toNat % 16 * 64 + tailBits b) * 64 + tailBits c)) :: units rest := by
  rw [units, ha]
  simp only [hb, hc, Bool.not_true, Bool.false_eq_true, if_false, if_true]
  rfl

theorem units_four (ha : tailLength? a.toNat = some 3)
    (hb : between (secondRange a.toNat).1 (secondRange a.toNat).2 b = true) (hc : isTail c = true)
    (hd : isTail d = true) :
    units (a :: b :: c :: d :: rest) =
      some (Char.ofNat (((a.toNat % 8 * 64 + tailBits b) * 64 + tailBits c) * 64 + tailBits d)) ::
        units rest := by
  rw [units, ha]
  simp only [hb, hc, hd, Bool.not_true, Bool.false_eq_true, if_false]
  rfl

end Sequences

/-! ### Characters -/

theorem units_encodeChar_append (c : Char) (rest : List UInt8) :
    units (encodeChar c ++ rest) = some c :: units rest := by
  have hvalid : c.toNat < 0xD800 ∨ 0xDFFF < c.toNat ∧ c.toNat < 0x110000 := c.valid
  have hchar : Char.ofNat c.toNat = c := Char.ofNat_toNat c
  unfold encodeChar
  generalize c.toNat = n at hvalid hchar ⊢
  dsimp only
  by_cases hone : n < 0x80
  · have hfirst : n.toUInt8.toNat = n := toNat_toUInt8 (by omega)
    rw [if_pos hone, List.singleton_append, units_one]
    · rw [hfirst, hchar]
    · rw [hfirst, tailLength?, if_pos hone]
  rw [if_neg hone]
  by_cases htwo : n < 0x800
  · have hfirst : (0xC0 + n / 64).toUInt8.toNat = 0xC0 + n / 64 := toNat_toUInt8 (by omega)
    rw [if_pos htwo, List.cons_append, List.singleton_append, units_two]
    · rw [hfirst, tailBits_tail, show (0xC0 + n / 64) % 32 * 64 + n % 64 = n by omega, hchar]
    · rw [hfirst, tailLength?, if_neg (by omega), if_pos (by omega)]
    · rw [between_iff, hfirst, toNat_tail, secondRange, if_neg (by omega), if_neg (by omega),
        if_neg (by omega), if_neg (by omega)]
      omega
  rw [if_neg htwo]
  by_cases hthree : n < 0x10000
  · have hfirst : (0xE0 + n / 4096).toUInt8.toNat = 0xE0 + n / 4096 := toNat_toUInt8 (by omega)
    rw [if_pos hthree, List.cons_append, List.cons_append, List.singleton_append, units_three]
    · rw [hfirst, tailBits_tail, tailBits_tail,
        show ((0xE0 + n / 4096) % 16 * 64 + n / 64 % 64) * 64 + n % 64 = n by omega, hchar]
    · rw [hfirst, tailLength?, if_neg (by omega), if_neg (by omega), if_pos (by omega)]
    · -- Shorter forms begin with E0 and surrogates with ED.
      rw [between_iff, hfirst, toNat_tail, secondRange]
      split
      · dsimp only
        omega
      split
      · dsimp only
        omega
      rw [if_neg (by omega), if_neg (by omega)]
      dsimp only
      omega
    · exact isTail_tail _
  · have hfirst : (0xF0 + n / 262144).toUInt8.toNat = 0xF0 + n / 262144 := toNat_toUInt8 (by omega)
    rw [if_neg hthree, List.cons_append, List.cons_append, List.cons_append, List.singleton_append,
      units_four]
    · rw [hfirst, tailBits_tail, tailBits_tail, tailBits_tail,
        show (((0xF0 + n / 262144) % 8 * 64 + n / 4096 % 64) * 64 + n / 64 % 64) * 64 + n % 64 = n by
          omega, hchar]
    · rw [hfirst, tailLength?, if_neg (by omega), if_neg (by omega), if_neg (by omega),
        if_pos (by omega)]
    · -- Shorter forms begin with F0, and F4 begins what lies beyond the last character.
      rw [between_iff, hfirst, toNat_tail, secondRange, if_neg (by omega), if_neg (by omega)]
      split
      · dsimp only
        omega
      split
      · dsimp only
        omega
      dsimp only
      omega
    · exact isTail_tail _
    · exact isTail_tail _

theorem units_encode (text : List Char) : units (encode text) = text.map some := by
  induction text with
  | nil => rw [encode, List.flatMap_nil, units, List.map_nil]
  | cons c rest ih =>
      rw [encode] at ih
      rw [encode, List.flatMap_cons, units_encodeChar_append, ih, List.map_cons]

theorem decodeLossy_encode (text : List Char) : decodeLossy (encode text) = text := by
  rw [decodeLossy, units_encode, List.map_map]
  exact List.map_id text

/-- The bytes of a character: itself in ASCII, or else a first byte above all tails, and tails. -/
theorem encodeChar_cases (c : Char) :
    c.toNat < 0x80 ∧ encodeChar c = [c.toNat.toUInt8] ∨
      ∃ first tails, encodeChar c = first :: tails ∧ 0xC0 ≤ first.toNat ∧
        ∀ b ∈ tails, isTail b = true := by
  have hlast : c.toNat < 0x110000 := by
    have hvalid : c.toNat < 0xD800 ∨ 0xDFFF < c.toNat ∧ c.toNat < 0x110000 := c.valid
    omega
  unfold encodeChar
  generalize c.toNat = n at hlast ⊢
  dsimp only
  by_cases hone : n < 0x80
  · exact .inl ⟨hone, if_pos hone⟩
  right
  rw [if_neg hone]
  by_cases htwo : n < 0x800
  · refine ⟨_, _, if_pos htwo, ?_, ?_⟩
    · rw [toNat_toUInt8 (by omega)]
      omega
    · exact List.forall_mem_singleton.mpr (isTail_tail n)
  rw [if_neg htwo]
  by_cases hthree : n < 0x10000
  · refine ⟨_, _, if_pos hthree, ?_, ?_⟩
    · rw [toNat_toUInt8 (by omega)]
      omega
    · simp only [List.forall_mem_cons, isTail_tail, true_and]
      exact List.forall_mem_nil _
  · refine ⟨_, _, if_neg hthree, ?_, ?_⟩
    · rw [toNat_toUInt8 (by omega)]
      omega
    · simp only [List.forall_mem_cons, isTail_tail, true_and]
      exact List.forall_mem_nil _

/-! ### What a unit takes -/

theorem secondRange_bounds (first : Nat) :
    0x80 ≤ (secondRange first).1 ∧ (secondRange first).2 ≤ 0xBF := by
  rw [secondRange]
  repeat' split
  all_goals decide

theorem isTail_of_between {first least most : Nat} {b : UInt8}
    (hrange : secondRange first = (least, most)) (h : ¬(!between least most b) = true) :
    isTail b = true := by
  have hbounds := secondRange_bounds first
  rw [hrange] at hbounds
  rw [Bool.not_eq_true', Bool.not_eq_false, between_iff] at h
  rw [isTail, between_iff]
  dsimp only at hbounds
  omega

theorem isTail_of_not {b : UInt8} (h : ¬(!isTail b) = true) : isTail b = true := by
  rwa [Bool.not_eq_true', Bool.not_eq_false] at h

/-- A unit takes the first byte and then tails only. -/
theorem exists_units {bytes : List UInt8} (hne : bytes ≠ []) :
    ∃ first taken rest u, bytes = first :: (taken ++ rest) ∧ units bytes = u :: units rest ∧
      ∀ b ∈ taken, isTail b = true := by
  have hnil : units [] = [] := by rw [units]
  fun_cases units bytes with
  | case1 => exact absurd rfl hne
  | case2 a rest => exact ⟨a, [], rest, none, rfl, rfl, List.forall_mem_nil _⟩
  | case3 a rest => exact ⟨a, [], rest, _, rfl, rfl, List.forall_mem_nil _⟩
  | case4 a => exact ⟨a, [], [], none, rfl, by rw [hnil], List.forall_mem_nil _⟩
  | case5 a _ _ _ b rest => exact ⟨a, [], b :: rest, none, rfl, rfl, List.forall_mem_nil _⟩
  | case6 a b rest _ _ hrange hb =>
      refine ⟨a, [b], rest, _, rfl, rfl, ?_⟩
      simpa using isTail_of_between hrange hb
  | case7 a _ _ _ b _ _ hrange hb =>
      refine ⟨a, [b], [], none, rfl, by rw [hnil], ?_⟩
      simpa using isTail_of_between hrange hb
  | case8 a _ _ _ b _ _ hrange hb _ c rest =>
      refine ⟨a, [b], c :: rest, none, rfl, rfl, ?_⟩
      simpa using isTail_of_between hrange hb
  | case9 a b _ _ hrange hb c rest hc =>
      refine ⟨a, [b, c], rest, _, rfl, rfl, ?_⟩
      simpa using ⟨isTail_of_between hrange hb, isTail_of_not hc⟩
  | case10 a _ _ _ b _ _ hrange hb _ c hc =>
      refine ⟨a, [b, c], [], none, rfl, by rw [hnil], ?_⟩
      simpa using ⟨isTail_of_between hrange hb, isTail_of_not hc⟩
  | case11 a _ _ _ b _ _ hrange hb _ c hc _ d rest =>
      refine ⟨a, [b, c], d :: rest, none, rfl, rfl, ?_⟩
      simpa using ⟨isTail_of_between hrange hb, isTail_of_not hc⟩
  | case12 a _ _ _ b _ _ hrange hb _ c hc _ d rest hd =>
      refine ⟨a, [b, c, d], rest, _, rfl, rfl, ?_⟩
      simpa using ⟨isTail_of_between hrange hb, isTail_of_not hc, isTail_of_not hd⟩

end Utf8

end DataAccess
