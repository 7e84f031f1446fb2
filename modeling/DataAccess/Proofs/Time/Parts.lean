import DataAccess.Proofs.Time.Written
import Mathlib.Data.List.Basic

/-!
# Parts of a timestamp

What stands in front of the rest of a text: a number, a field, a year, a date, a fraction, an offset.
Each reader of a part takes it exactly where it stands.
-/

namespace DataAccess

namespace Timestamp

/-- A number in front of a rest, of at least `least` and at most `most` digits and as many as stand
there. -/
def Number (least most : Nat) (s : List Char) (n : Nat) (rest : List Char) : Prop :=
  ∃ digits, s = digits ++ rest ∧ (∀ c ∈ digits, Decimal.isDigit c = true) ∧
    least ≤ digits.length ∧ digits.length ≤ most ∧
    (digits.length = most ∨ ∀ c ∈ rest.head?, Decimal.isDigit c = false) ∧
    Decimal.valueOf digits = n

def AfterBlanks (s rest : List Char) : Prop :=
  ∃ blanks, s = blanks ++ rest ∧ ∀ c ∈ blanks, Text.isBlank c = true

/-- A number of one or two digits, after blanks. -/
def Field (s : List Char) (n : Nat) (rest : List Char) : Prop :=
  ∃ s', AfterBlanks s s' ∧ Number 1 2 s' n rest

/-- A year of at most four digits, or of any count of them behind a sign. -/
inductive Year : List Char → Int → List Char → Prop
  | plain {s rest : List Char} {n : Nat} (h : Number 1 4 s n rest) : Year s n rest
  | plus {s rest : List Char} {n : Nat} (h : Number 1 s.length s n rest) : Year ('+' :: s) n rest
  | minus {s rest : List Char} {n : Nat} (h : Number 1 s.length s n rest) :
      Year ('-' :: s) (-(n : Int)) rest

/-- A loose date: year, month and day with hyphens between them. -/
inductive Date : List Char → Int → Nat → Nat → List Char → Prop
  | mk {s s₁ s₂ s₃ rest : List Char} {year : Int} {month day : Nat} (hblanks : AfterBlanks s s₁)
      (hyear : Year s₁ year ('-' :: s₂)) (hmonth : Field s₂ month ('-' :: s₃))
      (hday : Field s₃ day rest) : Date s year month day rest

/-- The nanoseconds of the digits behind a point, without what is below one of them. -/
inductive Fraction : List Char → Nat → List Char → Prop
  | none {s : List Char} (hpoint : s.head? ≠ some '.') : Fraction s 0 s
  | point {digits rest : List Char} (hne : digits ≠ [])
      (hdigits : ∀ c ∈ digits, Decimal.isDigit c = true)
      (hrest : ∀ c ∈ rest.head?, Decimal.isDigit c = false) :
      Fraction ('.' :: (digits ++ rest))
        (Decimal.valueOf digits * tenTo 9 / tenTo digits.length) rest

/-- An offset in minutes: a letter for zero, or a sign with hours and minutes. -/
inductive Zone : List Char → Int → Prop
  | zero {c : Char} (hletter : c = 'Z' ∨ c = 'z') : Zone [c] 0
  | ahead {s s' : List Char} {hours minutes : Nat} (hhours : Number 2 2 s hours (':' :: s'))
      (hminutes : Number 2 2 s' minutes []) (hclock : hours < 24 ∧ minutes < 60) :
      Zone ('+' :: s) (hours * 60 + minutes : Nat)
  | behind {sign : Char} {s s' : List Char} {hours minutes : Nat} (hsign : sign = '-' ∨ sign = '−')
      (hhours : Number 2 2 s hours (':' :: s')) (hminutes : Number 2 2 s' minutes [])
      (hclock : hours < 24 ∧ minutes < 60) : Zone (sign :: s) (-(hours * 60 + minutes : Nat))

/-- What stands between a loose date and the clock. Blanks are those in front of the hour. -/
inductive Gap : DateEnd → List Char → List Char → Prop
  | blanks {s : List Char} : Gap .blanks s s
  | letter {s : List Char} : Gap .letter ('T' :: s) s

section Parts

variable {least most n : Nat} {s s' rest : List Char} {c : Char}

theorem isDigit_of_head?_dropWhile :
    ∀ c ∈ (s.dropWhile Decimal.isDigit).head?, Decimal.isDigit c = false := by
  intro c hc
  have hstop := List.head?_dropWhile_not Decimal.isDigit s
  rwa [hc] at hstop

theorem takeDigits?_eq_some_iff :
    takeDigits? least most s = some (n, rest) ↔ Number least most s n rest := by
  constructor
  · intro h
    rw [takeDigits?, ← List.take_takeWhile] at h
    have hsplit := List.takeWhile_append_dropWhile (p := Decimal.isDigit) (l := s)
    have hstop := isDigit_of_head?_dropWhile (s := s)
    have hrun : ∀ c ∈ s.takeWhile Decimal.isDigit, Decimal.isDigit c = true :=
      List.all_eq_true.mp List.all_takeWhile
    generalize s.takeWhile Decimal.isDigit = run at h hsplit hrun
    generalize s.dropWhile Decimal.isDigit = tail at hsplit hstop
    split at h
    · cases h
    next hleast =>
      obtain ⟨rfl, rfl⟩ := Prod.mk.inj (Option.some.inj h)
      rw [← hsplit]
      -- Either the whole run of digits is taken, or it is cut at the greatest count.
      by_cases hshort : run.length ≤ most
      · rw [List.take_of_length_le hshort] at hleast ⊢
        rw [List.drop_left]
        exact ⟨run, rfl, hrun, by omega, hshort, .inr hstop, rfl⟩
      · have hlength : (run.take most).length = most := by
          rw [List.length_take]
          omega
        refine ⟨run.take most, ?_, fun c hc => hrun c (List.mem_of_mem_take hc), by omega,
          Nat.le_of_eq hlength, .inl hlength, rfl⟩
        rw [hlength, List.drop_append_of_le_length (by omega), ← List.append_assoc,
          List.take_append_drop]
  · rintro ⟨digits, rfl, hdigits, hleast, hmost, hend, rfl⟩
    exact takeDigits?_append hdigits hleast hmost hend

theorem takeChar?_eq_some_iff : takeChar? c s = some rest ↔ s = c :: rest := by
  cases s with
  | nil => simp [takeChar?]
  | cons d s => simp [takeChar?, eq_comm]

/-- A number begins with a digit. -/
theorem Number.head? (h : Number least most s n rest) (hleast : 0 < least) :
    ∀ c ∈ s.head?, Decimal.isDigit c = true := by
  obtain ⟨digits, rfl, hdigits, hlength, -⟩ := h
  cases digits with
  | nil => exact absurd hlength (Nat.not_le_of_lt hleast)
  | cons c digits =>
      rintro _ ⟨⟩
      exact hdigits c List.mem_cons_self

theorem afterBlanks_trimLeft (s : List Char) : AfterBlanks s (Text.trimLeft s) :=
  ⟨s.takeWhile Text.isBlank, List.takeWhile_append_dropWhile.symm,
    List.all_eq_true.mp List.all_takeWhile⟩

theorem AfterBlanks.trimLeft_eq (h : AfterBlanks s rest)
    (hrest : ∀ c ∈ rest.head?, Text.isBlank c = false) : Text.trimLeft s = rest := by
  obtain ⟨blanks, rfl, hblanks⟩ := h
  exact Text.trimLeft_append hblanks hrest

theorem trimLeft_trimLeft (s : List Char) : Text.trimLeft (Text.trimLeft s) = Text.trimLeft s := by
  refine Text.trimLeft_of_head fun c hc => ?_
  have hstop := List.head?_dropWhile_not Text.isBlank s
  rwa [show (s.dropWhile Text.isBlank).head? = some c from hc] at hstop

theorem takeField?_eq_some_iff : takeField? s = some (n, rest) ↔ Field s n rest := by
  constructor
  · exact fun h => ⟨_, afterBlanks_trimLeft s, takeDigits?_eq_some_iff.mp h⟩
  · rintro ⟨s', hblanks, hnumber⟩
    have hhead := hnumber.head? Nat.one_pos
    rw [takeField?, hblanks.trimLeft_eq fun c hc => Decimal.isBlank_of_isDigit (hhead c hc)]
    exact takeDigits?_eq_some_iff.mpr hnumber

theorem takeYear?_eq_some_iff {year : Int} :
    takeYear? s = some (year, rest) ↔ ∃ s', AfterBlanks s s' ∧ Year s' year rest := by
  constructor
  · intro h
    refine ⟨_, afterBlanks_trimLeft s, ?_⟩
    rw [takeYear?] at h
    split at h
    all_goals
      obtain ⟨⟨n, tail⟩, hnumber, hyear⟩ := Option.map_eq_some_iff.mp h
      obtain ⟨rfl, rfl⟩ := Prod.mk.inj hyear
      have hread := takeDigits?_eq_some_iff.mp hnumber
    next hsign => exact hsign ▸ .minus hread
    next hsign => exact hsign ▸ .plus hread
    next => exact .plain hread
  · rintro ⟨s', hblanks, hyear⟩
    rw [takeYear?]
    cases hyear with
    | @plain _ _ n h =>
        have hhead := h.head? Nat.one_pos
        rw [hblanks.trimLeft_eq fun c hc => Decimal.isBlank_of_isDigit (hhead c hc)]
        split
        next => cases hhead _ rfl
        next => cases hhead _ rfl
        next => rw [takeDigits?_eq_some_iff.mpr h, Option.map_some]
    | plus h =>
        rw [hblanks.trimLeft_eq (by rintro _ ⟨⟩; rfl)]
        simp only [takeDigits?_eq_some_iff.mpr h, Option.map_some]
    | minus h =>
        rw [hblanks.trimLeft_eq (by rintro _ ⟨⟩; rfl)]
        simp only [takeDigits?_eq_some_iff.mpr h, Option.map_some]

theorem takeDate?_eq_some_iff {year : Int} {month day : Nat} :
    takeDate? s = some ((year, month, day), rest) ↔ Date s year month day rest := by
  constructor
  · intro h
    rw [takeDate?] at h
    obtain ⟨⟨year, s₁⟩, hyear, h⟩ := Option.bind_eq_some_iff.mp h
    obtain ⟨s₂, hhyphen, h⟩ := Option.bind_eq_some_iff.mp h
    obtain ⟨⟨month, s₃⟩, hmonth, h⟩ := Option.bind_eq_some_iff.mp h
    obtain ⟨s₄, hhyphen', h⟩ := Option.bind_eq_some_iff.mp h
    obtain ⟨⟨day, s₅⟩, hday, h⟩ := Option.bind_eq_some_iff.mp h
    cases Option.some.inj h
    obtain rfl := takeChar?_eq_some_iff.mp hhyphen
    obtain rfl := takeChar?_eq_some_iff.mp hhyphen'
    obtain ⟨s', hblanks, hyear⟩ := takeYear?_eq_some_iff.mp hyear
    exact .mk hblanks hyear (takeField?_eq_some_iff.mp hmonth) (takeField?_eq_some_iff.mp hday)
  · rintro ⟨hblanks, hyear, hmonth, hday⟩
    rw [takeDate?]
    refine (bind_of_eq_some (takeYear?_eq_some_iff.mpr ⟨_, hblanks, hyear⟩) _).trans ?_
    refine (bind_of_eq_some (takeChar?_self '-' _) _).trans ?_
    refine (bind_of_eq_some (takeField?_eq_some_iff.mpr hmonth) _).trans ?_
    refine (bind_of_eq_some (takeChar?_self '-' _) _).trans ?_
    exact bind_of_eq_some (takeField?_eq_some_iff.mpr hday) _

/-- The digits after the ninth say nothing of whole nanoseconds. -/
theorem valueOf_take_nine {digits : List Char} (h : ∀ c ∈ digits, Decimal.isDigit c = true) :
    Decimal.valueOf (digits.take 9) * tenTo (9 - (digits.take 9).length) =
      Decimal.valueOf digits * tenTo 9 / tenTo digits.length := by
  have hpos : ∀ count, 0 < tenTo count := fun count => Nat.pow_pos (by decide)
  by_cases hshort : digits.length ≤ 9
  · have hscale : tenTo 9 = tenTo (9 - digits.length) * tenTo digits.length := by
      rw [Decimal.tenTo_mul_tenTo, Nat.sub_add_cancel hshort]
    rw [List.take_of_length_le hshort, hscale, ← Nat.mul_assoc,
      Nat.mul_div_cancel _ (hpos digits.length)]
  · have hkept : (digits.take 9).length = 9 := by
      rw [List.length_take]
      omega
    have hlength : digits.length = (digits.drop 9).length + 9 := by
      rw [List.length_drop]
      omega
    have hvalue : Decimal.valueOf digits =
        Decimal.valueOf (digits.take 9) * tenTo (digits.drop 9).length +
          Decimal.valueOf (digits.drop 9) := by
      rw [← Decimal.valueOf_append (fun c hc => h c (List.mem_of_mem_take hc))
        (fun c hc => h c (List.mem_of_mem_drop hc)), List.take_append_drop]
    rw [hkept, hlength, ← Decimal.tenTo_mul_tenTo, Nat.mul_div_mul_right _ _ (hpos 9), hvalue,
      Nat.mul_comm _ (tenTo (digits.drop 9).length), Nat.mul_add_div (hpos _),
      Nat.div_eq_of_lt (Decimal.valueOf_lt _)]
    exact Nat.mul_one _

theorem takeOptionalFraction?_eq_some_iff :
    takeOptionalFraction? s = some (n, rest) ↔ Fraction s n rest := by
  constructor
  · intro h
    unfold takeOptionalFraction? at h
    split at h
    next s =>
      rw [takeFraction?] at h
      have hsplit := List.takeWhile_append_dropWhile (p := Decimal.isDigit) (l := s)
      have hstop := isDigit_of_head?_dropWhile (s := s)
      have hrun : ∀ c ∈ s.takeWhile Decimal.isDigit, Decimal.isDigit c = true :=
        List.all_eq_true.mp List.all_takeWhile
      generalize s.takeWhile Decimal.isDigit = run at h hsplit hrun
      generalize s.dropWhile Decimal.isDigit = tail at h hsplit hstop
      dsimp only at h
      split at h
      · cases h
      next hsome =>
        obtain ⟨rfl, rfl⟩ := Prod.mk.inj (Option.some.inj h)
        rw [← hsplit, valueOf_take_nine hrun]
        exact .point (fun hnil => hsome (hnil ▸ rfl)) hrun hstop
    next hnone =>
      obtain ⟨rfl, rfl⟩ := Prod.mk.inj (Option.some.inj h)
      refine .none fun hpoint => ?_
      obtain ⟨tail, rfl⟩ := List.head?_eq_some_iff.mp hpoint
      exact hnone tail rfl
  · intro h
    cases h with
    | none hpoint =>
        unfold takeOptionalFraction?
        split
        next => exact absurd rfl hpoint
        next => rfl
    | @point digits _ hne hdigits hrest =>
        obtain ⟨htaken, hdropped⟩ := Decimal.takeWhile_isDigit_append rest hdigits hrest
        have hsome : ¬digits.isEmpty = true := fun hempty => hne (List.isEmpty_iff.mp hempty)
        rw [takeOptionalFraction?, takeFraction?, htaken, hdropped]
        dsimp only
        rw [if_neg hsome, valueOf_take_nine hdigits]

theorem isDigit_iff_digitValue? :
    Decimal.isDigit c = true ↔ ∃ x, Decimal.digitValue? c = some x := by
  rw [Decimal.isDigit, Bool.and_eq_true, decide_eq_true_iff, decide_eq_true_iff,
    Decimal.digitValue?]
  split
  next h => simp [h]
  next h => simp [h]

theorem number_two_iff :
    Number 2 2 s n rest ↔ ∃ a b x y, s = a :: b :: rest ∧ Decimal.digitValue? a = some x ∧
      Decimal.digitValue? b = some y ∧ n = 10 * x + y := by
  have hvalue : ∀ {a b : Char} {x y : Nat}, Decimal.digitValue? a = some x →
      Decimal.digitValue? b = some y → Decimal.valueOf [a, b] = 10 * x + y := by
    intro a b x y ha hb
    simp [Decimal.valueOf, ha, hb]
  constructor
  · rintro ⟨digits, rfl, hdigits, hleast, hmost, -, rfl⟩
    obtain ⟨a, b, rfl⟩ := List.length_eq_two.mp (Nat.le_antisymm hmost hleast)
    obtain ⟨x, hx⟩ := isDigit_iff_digitValue?.mp (hdigits a (by simp))
    obtain ⟨y, hy⟩ := isDigit_iff_digitValue?.mp (hdigits b (by simp))
    exact ⟨a, b, x, y, rfl, hx, hy, hvalue hx hy⟩
  · rintro ⟨a, b, x, y, rfl, hx, hy, rfl⟩
    refine ⟨[a, b], rfl, ?_, Nat.le_refl 2, Nat.le_refl 2, .inl rfl, hvalue hx hy⟩
    intro c hc
    rcases List.mem_pair.mp hc with rfl | rfl
    · exact isDigit_iff_digitValue?.mpr ⟨x, hx⟩
    · exact isDigit_iff_digitValue?.mpr ⟨y, hy⟩

theorem offsetSign?_eq_some_iff {negative : Bool} :
    offsetSign? c = some negative ↔
      c = '+' ∧ negative = false ∨ (c = '-' ∨ c = '−') ∧ negative = true := by
  have hminus : c.toNat = 0x2212 ↔ c = '−' := Char.toNat_inj (c := c) (d := '−')
  simp only [offsetSign?, hminus]
  by_cases hplus : c = '+'
  · subst hplus
    cases negative <;> decide
  by_cases hsign : c = '-' ∨ c = '−'
  · simp [hplus, hsign, eq_comm]
  · simp [hplus, hsign]

theorem offset?_of_sign {sign : Char} {negative : Bool} {hours minutes : Nat}
    (hsign : offsetSign? sign = some negative) (hhours : Number 2 2 s hours (':' :: s'))
    (hminutes : Number 2 2 s' minutes []) (hclock : hours < 24 ∧ minutes < 60) :
    offset? (sign :: s) =
      some (if negative then -((hours * 60 + minutes : Nat) : Int)
        else (hours * 60 + minutes : Nat)) := by
  obtain ⟨a, b, x, y, rfl, hx, hy, rfl⟩ := number_two_iff.mp hhours
  obtain ⟨c, d, z, w, rfl, hz, hw, rfl⟩ := number_two_iff.mp hminutes
  have hsmall : ¬(60 ≤ 10 * z + w ∨ 24 ≤ 10 * x + y) := by omega
  simp only [offset?, hsign, hx, hy, hz, hw, Option.bind_eq_bind, Option.bind_some, if_neg hsmall]
  rfl

theorem offset?_eq_some_iff {offset : Int} : offset? s = some offset ↔ Zone s offset := by
  constructor
  · intro h
    unfold offset? at h
    split at h
    next c =>
      split at h
      next hletter =>
        obtain rfl := Option.some.inj h
        exact .zero hletter
      next => cases h
    next sign a b c d =>
      obtain ⟨negative, hsign, h⟩ := Option.bind_eq_some_iff.mp h
      obtain ⟨x, hx, h⟩ := Option.bind_eq_some_iff.mp h
      obtain ⟨y, hy, h⟩ := Option.bind_eq_some_iff.mp h
      obtain ⟨z, hz, h⟩ := Option.bind_eq_some_iff.mp h
      obtain ⟨w, hw, h⟩ := Option.bind_eq_some_iff.mp h
      have hhours : Number 2 2 (a :: b :: ':' :: c :: d :: []) (10 * x + y) (':' :: c :: d :: []) :=
        number_two_iff.mpr ⟨a, b, x, y, rfl, hx, hy, rfl⟩
      have hminutes : Number 2 2 (c :: d :: []) (10 * z + w) [] :=
        number_two_iff.mpr ⟨c, d, z, w, rfl, hz, hw, rfl⟩
      dsimp only at h
      split at h
      · cases h
      next hlarge =>
        have hclock : 10 * x + y < 24 ∧ 10 * z + w < 60 := by omega
        obtain rfl := Option.some.inj h
        rcases offsetSign?_eq_some_iff.mp hsign with ⟨rfl, rfl⟩ | ⟨hminus, rfl⟩
        · exact .ahead hhours hminutes hclock
        · exact .behind hminus hhours hminutes hclock
    next => cases h
  · intro h
    cases h with
    | zero hletter => exact if_pos hletter
    | ahead hhours hminutes hclock =>
        have hpositive := offsetSign?_eq_some_iff.mpr (.inl ⟨rfl, rfl⟩)
        exact offset?_of_sign hpositive hhours hminutes hclock
    | behind hsign hhours hminutes hclock =>
        have hnegative := offsetSign?_eq_some_iff.mpr (.inr ⟨hsign, rfl⟩)
        exact offset?_of_sign hnegative hhours hminutes hclock

theorem Gap.take?_iff {dateEnd : DateEnd} :
    (∃ s', dateEnd.take? s = some s' ∧ takeField? s' = some (n, rest)) ↔
      ∃ s', Gap dateEnd s s' ∧ Field s' n rest := by
  cases dateEnd with
  | blanks =>
      -- The hour skips the blanks in front of it anyway.
      have hagain : takeField? (Text.trimLeft s) = takeField? s := by
        rw [takeField?, trimLeft_trimLeft, takeField?]
      constructor
      · rintro ⟨s', hgap, hfield⟩
        obtain rfl := Option.some.inj hgap
        exact ⟨s, .blanks, takeField?_eq_some_iff.mp (hagain ▸ hfield)⟩
      · rintro ⟨_, ⟨⟩, hfield⟩
        exact ⟨_, rfl, hagain.trans (takeField?_eq_some_iff.mpr hfield)⟩
  | letter =>
      constructor
      · rintro ⟨s', hgap, hfield⟩
        obtain rfl := takeChar?_eq_some_iff.mp hgap
        exact ⟨s', .letter, takeField?_eq_some_iff.mp hfield⟩
      · rintro ⟨_, ⟨⟩, hfield⟩
        exact ⟨_, takeChar?_self 'T' _, takeField?_eq_some_iff.mpr hfield⟩

end Parts

end Timestamp

end DataAccess
