import DataAccess.Number.Reader
import DataAccess.Text.Blank

/-!
# Digits read back

The digits of a natural number write that number, with zeros in front or without, and begin with a
zero only when they are a single zero.
-/

namespace DataAccess

namespace Decimal

theorem isDigit_eq (c : Char) : isDigit c = c.isDigit := rfl

/-- What holds of the ten digits holds of every digit. -/
theorem of_isDigit {P : Char → Prop} (h : ∀ n < 10, P (Char.ofNat (48 + n))) {c : Char}
    (hc : isDigit c = true) : P c := by
  rw [isDigit, Bool.and_eq_true, decide_eq_true_iff, decide_eq_true_iff] at hc
  have hleast : 48 ≤ c.toNat := hc.1
  have hgreatest : c.toNat ≤ 57 := hc.2
  have hdigit := h (c.toNat - 48) (by omega)
  rwa [Nat.add_sub_cancel' hleast, Char.ofNat_toNat] at hdigit

theorem isBlank_of_isDigit {c : Char} (h : isDigit c = true) : Text.isBlank c = false :=
  of_isDigit (P := fun c => Text.isBlank c = false) (by decide) h

theorem isDigit_of_mem_digitChars {n : Nat} {c : Char} (h : c ∈ digitChars n) : isDigit c = true :=
  (isDigit_eq c).trans (Nat.isDigit_of_mem_toDigits (by decide) (by decide) h)

theorem digitChars_ne_nil (n : Nat) : digitChars n ≠ [] := Nat.toDigits_ne_nil

/-! ### Their value -/

theorem getD_digitValue? {c : Char} (h : isDigit c = true) :
    (digitValue? c).getD 0 = c.toNat - '0'.toNat := by
  rw [isDigit, Bool.and_eq_true, decide_eq_true_iff, decide_eq_true_iff] at h
  rw [digitValue?, if_pos h]
  rfl

theorem valueOf_eq_ofDigitChars {digits : List Char} (h : ∀ c ∈ digits, isDigit c = true) :
    valueOf digits = Nat.ofDigitChars 10 digits 0 := by
  have hfold : ∀ start, digits.foldl (fun n c => 10 * n + (digitValue? c).getD 0) start =
      Nat.ofDigitChars 10 digits start := by
    induction digits with
    | nil => exact fun start => rfl
    | cons c rest ih =>
        intro start
        rw [List.foldl_cons, Nat.ofDigitChars_cons, getD_digitValue? (h c List.mem_cons_self)]
        exact ih (fun d hd => h d (List.mem_cons_of_mem c hd)) _
  exact hfold 0

theorem valueOf_digitChars (n : Nat) : valueOf (digitChars n) = n := by
  rw [valueOf_eq_ofDigitChars fun c hc => isDigit_of_mem_digitChars hc]
  exact Nat.ofDigitChars_toDigits (by decide) (by decide)

theorem valueOf_zeros_append (count : Nat) (digits : List Char) :
    valueOf (List.replicate count '0' ++ digits) = valueOf digits := by
  induction count with
  | zero => rfl
  | succ count ih => exact ih

theorem tenTo_succ (n : Nat) : tenTo (n + 1) = 10 * tenTo n := Nat.mul_comm _ 10

theorem tenTo_mul_tenTo (m n : Nat) : tenTo m * tenTo n = tenTo (m + n) := (Nat.pow_add 10 m n).symm

theorem getD_digitValue?_le (c : Char) : (digitValue? c).getD 0 ≤ 9 := by
  rw [digitValue?]
  split
  next h =>
    have hle : c.toNat ≤ '9'.toNat := h.2
    have hzero : '0'.toNat = 48 := rfl
    have hnine : '9'.toNat = 57 := rfl
    rw [Option.getD_some]
    omega
  next _ => exact Nat.zero_le 9

theorem valueOf_lt (digits : List Char) : valueOf digits < tenTo digits.length := by
  have hfold : ∀ start, digits.foldl (fun n c => 10 * n + (digitValue? c).getD 0) start <
      (start + 1) * tenTo digits.length := by
    induction digits with
    | nil =>
        intro start
        have hone : tenTo 0 = 1 := rfl
        simp [hone]
    | cons c rest ih =>
        intro start
        have hdigit := getD_digitValue?_le c
        rw [List.foldl_cons, List.length_cons, tenTo_succ]
        calc rest.foldl _ (10 * start + (digitValue? c).getD 0)
            < (10 * start + (digitValue? c).getD 0 + 1) * tenTo rest.length := ih _
          _ ≤ ((start + 1) * 10) * tenTo rest.length := Nat.mul_le_mul_right _ (by omega)
          _ = (start + 1) * (10 * tenTo rest.length) := Nat.mul_assoc _ _ _
  have hzero := hfold 0
  rwa [Nat.zero_add, Nat.one_mul] at hzero

/-- Digits with a zero in front are more than the number needs, unless they are the zero alone. -/
theorem digitChars_zero_cons {n : Nat} {rest : List Char} (h : digitChars n = '0' :: rest) :
    rest = [] := by
  by_cases hrest : rest.length = 0
  · exact List.length_eq_zero_iff.mp hrest
  have hvalue : n = valueOf rest := by
    have hzero : valueOf ('0' :: rest) = valueOf rest := valueOf_zeros_append 1 rest
    rw [← hzero, ← h, valueOf_digitChars]
  have hshort : (digitChars n).length ≤ rest.length := by
    refine (Nat.length_toDigits_le_iff (by decide) (Nat.pos_of_ne_zero hrest)).mpr ?_
    rw [hvalue]
    exact valueOf_lt rest
  rw [h, List.length_cons] at hshort
  omega

theorem length_digitChars_le {n count : Nat} (hcount : 0 < count) (h : n < tenTo count) :
    (digitChars n).length ≤ count :=
  (Nat.length_toDigits_le_iff (by decide) hcount).mpr h

/-! ### Their order -/

theorem valueOf_append {digits others : List Char} (hdigits : ∀ c ∈ digits, isDigit c = true)
    (hothers : ∀ c ∈ others, isDigit c = true) :
    valueOf (digits ++ others) = valueOf digits * tenTo others.length + valueOf others := by
  have hboth : ∀ c ∈ digits ++ others, isDigit c = true := fun c hc =>
    (List.mem_append.mp hc).elim (hdigits c) (hothers c)
  rw [valueOf_eq_ofDigitChars hboth, valueOf_eq_ofDigitChars hdigits,
    valueOf_eq_ofDigitChars hothers, Nat.ofDigitChars_append, Nat.ofDigitChars_eq_ofDigitChars_zero,
    Nat.mul_comm]
  rfl

theorem valueOf_cons {c : Char} {digits : List Char} (h : ∀ d ∈ c :: digits, isDigit d = true) :
    valueOf (c :: digits) = (c.toNat - '0'.toNat) * tenTo digits.length + valueOf digits := by
  have hfirst : ∀ d ∈ [c], isDigit d = true := fun d hd =>
    h d (List.mem_singleton.mp hd ▸ List.mem_cons_self)
  have hsingle : valueOf [c] = c.toNat - '0'.toNat :=
    (Nat.zero_add _).trans (getD_digitValue? (h c List.mem_cons_self))
  rw [← List.singleton_append, valueOf_append hfirst fun d hd => h d (List.mem_cons_of_mem c hd),
    hsingle]

/-- Equally many digits are in the order of their values, in front of anything. -/
theorem digits_append_lt_iff {digits others : List Char} (hlength : digits.length = others.length)
    (hdigits : ∀ c ∈ digits, isDigit c = true) (hothers : ∀ c ∈ others, isDigit c = true)
    (s t : List Char) :
    digits ++ s < others ++ t ↔
      valueOf digits < valueOf others ∨ valueOf digits = valueOf others ∧ s < t := by
  induction digits generalizing others with
  | nil =>
      obtain rfl := List.eq_nil_of_length_eq_zero hlength.symm
      simp
  | cons c digits ih =>
      cases others with
      | nil => cases hlength
      | cons e others =>
          have hshorter : digits.length = others.length := Nat.succ.inj hlength
          have hrest := ih hshorter (fun d hd => hdigits d (List.mem_cons_of_mem c hd))
            fun d hd => hothers d (List.mem_cons_of_mem e hd)
          have hc := hdigits c List.mem_cons_self
          have he := hothers e List.mem_cons_self
          rw [isDigit, Bool.and_eq_true, decide_eq_true_iff, decide_eq_true_iff] at hc he
          have hcode : 48 ≤ c.toNat ∧ 48 ≤ e.toNat := ⟨hc.1, he.1⟩
          have hless : c < e ↔ c.toNat < e.toNat := Iff.rfl
          have hsame : c = e ↔ c.toNat = e.toNat := Char.toNat_inj.symm
          have hzero : '0'.toNat = 48 := rfl
          have hvalue := valueOf_lt digits
          have hvalue' := valueOf_lt others
          rw [List.cons_append, List.cons_append, List.cons_lt_cons_iff, hrest, hless, hsame,
            valueOf_cons hdigits, valueOf_cons hothers, hzero]
          rw [hshorter] at hvalue ⊢
          -- The first digits decide unless they are the same: the others are below one unit of theirs.
          rcases Nat.lt_trichotomy c.toNat e.toNat with hlt | heq | hgt
          · have hunit : (c.toNat - 48 + 1) * tenTo others.length ≤
                (e.toNat - 48) * tenTo others.length := Nat.mul_le_mul_right _ (by omega)
            rw [Nat.succ_mul] at hunit
            omega
          · simp only [heq, Nat.lt_irrefl, false_or, true_and, Nat.add_lt_add_iff_left,
              Nat.add_left_cancel_iff]
          · have hunit : (e.toNat - 48 + 1) * tenTo others.length ≤
                (c.toNat - 48) * tenTo others.length := Nat.mul_le_mul_right _ (by omega)
            rw [Nat.succ_mul] at hunit
            omega

/-! ### Reading them -/

theorem takeWhile_isDigit_append {digits : List Char} (rest : List Char)
    (h : ∀ c ∈ digits, isDigit c = true) (hrest : ∀ c ∈ rest.head?, isDigit c = false) :
    (digits ++ rest).takeWhile isDigit = digits ∧ (digits ++ rest).dropWhile isDigit = rest := by
  have hstop : rest.takeWhile isDigit = [] ∧ rest.dropWhile isDigit = rest := by
    cases rest with
    | nil => exact ⟨rfl, rfl⟩
    | cons c rest => simp [hrest c rfl]
  rw [List.takeWhile_append_of_pos h, List.dropWhile_append_of_pos h, hstop.1, hstop.2,
    List.append_nil]
  exact ⟨rfl, rfl⟩

theorem allDigits_digitChars (n : Nat) : allDigits (digitChars n) = true := by
  rw [allDigits, Bool.and_eq_true, Bool.not_eq_true', List.isEmpty_eq_false_iff]
  exact ⟨digitChars_ne_nil n, List.all_eq_true.mpr fun c hc => isDigit_of_mem_digitChars hc⟩

/-- No digits begin with a sign. -/
theorem digitChars_ne_cons {n : Nat} {c : Char} {rest : List Char} (hc : isDigit c = false) :
    digitChars n ≠ c :: rest := by
  intro h
  have hdigit : isDigit c = true := isDigit_of_mem_digitChars (h ▸ List.mem_cons_self)
  rw [hc] at hdigit
  cases hdigit

theorem readNat?_digitChars (n : Nat) : readNat? (digitChars n) = some n := by
  unfold readNat?
  split
  next rest hsign => exact absurd hsign (digitChars_ne_cons rfl)
  next _ _ => simp only [allDigits_digitChars, valueOf_digitChars, if_true]

theorem readWord?_digitChars {n : Nat} (h : n < 18446744073709551616) :
    readWord? (digitChars n) = some n := by
  rw [readWord?, readNat?_digitChars, Option.filter_some, if_pos (by simpa using h)]

end Decimal

end DataAccess
