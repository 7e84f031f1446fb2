import DataAccess.Proofs.Text.Blank
import DataAccess.Proofs.Time.Valid

/-!
# Timestamps read back

In the layout of stores a timestamp is read back to the second, for every year. In the layout of
callers it is read back to the millisecond if its year has four digits, and is no spelling of a
timestamp if its year has a sign.
-/

namespace DataAccess

namespace Timestamp

/-! ### Digits of a layout -/

section Padded

variable {width n : Nat}

theorem isDigit_of_mem_padded {c : Char} (h : c ∈ padded width n) : Decimal.isDigit c = true := by
  rw [padded] at h
  rcases List.mem_append.mp h with hzero | hdigit
  · rw [List.eq_of_mem_replicate hzero]
    rfl
  · exact Decimal.isDigit_of_mem_digitChars hdigit

theorem valueOf_padded (width n : Nat) : Decimal.valueOf (padded width n) = n := by
  rw [padded, Decimal.valueOf_zeros_append, Decimal.valueOf_digitChars]

theorem padded_ne_nil (width n : Nat) : padded width n ≠ [] := by
  rw [padded]
  exact List.append_ne_nil_of_right_ne_nil _ (Decimal.digitChars_ne_nil n)

theorem length_padded (hwidth : 0 < width) (h : n < tenTo width) :
    (padded width n).length = width := by
  have hlength := Decimal.length_digitChars_le hwidth h
  rw [padded, List.length_append, List.length_replicate]
  omega

theorem isDigit_of_head?_padded {rest : List Char} :
    ∀ c ∈ (padded width n ++ rest).head?, Decimal.isDigit c = true := by
  intro c hc
  rw [List.head?_append, List.head?_eq_some_head (padded_ne_nil width n), Option.some_or] at hc
  obtain rfl := Option.some.inj hc
  exact isDigit_of_mem_padded (List.head_mem _)

theorem padded_append_ne_cons {c : Char} {rest tail : List Char} (hc : Decimal.isDigit c = false) :
    padded width n ++ rest ≠ c :: tail := by
  intro h
  have hmem : c ∈ (padded width n ++ rest).head? := by
    rw [h]
    rfl
  have hdigit := isDigit_of_head?_padded c hmem
  rw [hc] at hdigit
  cases hdigit

theorem trimLeft_padded (width n : Nat) (rest : List Char) :
    Text.trimLeft (padded width n ++ rest) = padded width n ++ rest :=
  Text.trimLeft_of_head fun c hc => Decimal.isBlank_of_isDigit (isDigit_of_head?_padded c hc)

end Padded

section Digits

variable {least most : Nat} {digits rest : List Char}

/-- Digits are taken up to the greatest count, or to the first other character. -/
theorem takeDigits?_append (hdigits : ∀ c ∈ digits, Decimal.isDigit c = true)
    (hleast : least ≤ digits.length) (hmost : digits.length ≤ most)
    (hend : digits.length = most ∨ ∀ c ∈ rest.head?, Decimal.isDigit c = false) :
    takeDigits? least most (digits ++ rest) = some (Decimal.valueOf digits, rest) := by
  have htaken : ((digits ++ rest).take most).takeWhile Decimal.isDigit = digits := by
    rw [List.take_append, List.take_of_length_le hmost]
    refine (Decimal.takeWhile_isDigit_append _ hdigits ?_).1
    rcases hend with hfull | hend
    · simp [hfull]
    · intro c hc
      rw [List.head?_take] at hc
      split at hc
      · cases hc
      · exact hend c hc
  rw [takeDigits?, htaken, if_neg (by omega), List.drop_left]

theorem takeDigits?_eq_none {s : List Char} (hleast : 0 < least)
    (h : ∀ c ∈ s.head?, Decimal.isDigit c = false) : takeDigits? least most s = none := by
  have hnone : (s.take most).takeWhile Decimal.isDigit = [] := by
    cases s with
    | nil => simp
    | cons c rest =>
        cases most with
        | zero => rfl
        | succ most => simp [h c rfl]
  rw [takeDigits?, hnone]
  exact if_pos hleast

theorem takeDigits?_padded {width n : Nat} (hwidth : 0 < width) (h : n < tenTo width)
    (hleast : least ≤ width) (rest : List Char) :
    takeDigits? least width (padded width n ++ rest) = some (n, rest) := by
  have hlength := length_padded hwidth h
  rw [takeDigits?_append (fun c hc => isDigit_of_mem_padded hc) (by omega) (by omega)
    (.inl hlength), valueOf_padded]

theorem takeField?_padded {n : Nat} (h : n < 100) (rest : List Char) :
    takeField? (padded 2 n ++ rest) = some (n, rest) := by
  rw [takeField?, trimLeft_padded]
  exact takeDigits?_padded (by decide) h (by decide) rest

theorem takeChar?_self (c : Char) (rest : List Char) : takeChar? c (c :: rest) = some rest := by
  rw [takeChar?, if_pos rfl]

end Digits

/-- A reader goes on with what its first part has read. -/
theorem bind_of_eq_some {α β : Type} {x : Option α} {a : α} (h : x = some a) (next : α → Option β) :
    (x >>= next) = next a := by
  rw [h]
  rfl

/-! ### The parts of a layout -/

section Written

variable {t : Timestamp}

/-- A year that is written without a sign. -/
def HasPlainYear (t : Timestamp) : Prop := 0 ≤ t.year ∧ t.year ≤ 9999

theorem Valid.bounds (h : t.Valid) :
    t.month < 100 ∧ t.day < 100 ∧ t.hour < 100 ∧ t.minute < 100 ∧ t.second < 100 := by
  have hdate := validDate_iff.mp h.date
  have htime := validTime_iff.mp h.time
  have hday := daysInMonth_bounds t.year t.month
  omega

/-- Behind a sign every digit belongs to the year. -/
theorem takeDigits?_padded_year (n : Nat) (rest : List Char) :
    takeDigits? 1 (padded 4 n ++ '-' :: rest).length (padded 4 n ++ '-' :: rest) =
      some (n, '-' :: rest) := by
  have hpositive := List.length_pos_iff.mpr (padded_ne_nil 4 n)
  rw [takeDigits?_append (fun c hc => isDigit_of_mem_padded hc) hpositive (by simp)
    (.inr (by rintro _ ⟨⟩; rfl)), valueOf_padded]

theorem takeYear?_minus (n : Nat) (rest : List Char) :
    takeYear? ('-' :: (padded 4 n ++ '-' :: rest)) = some (-(n : Int), '-' :: rest) := by
  have htrim : Text.trimLeft ('-' :: (padded 4 n ++ '-' :: rest)) =
      '-' :: (padded 4 n ++ '-' :: rest) := Text.trimLeft_of_head (by rintro _ ⟨⟩; rfl)
  rw [takeYear?, htrim]
  simp only [takeDigits?_padded_year, Option.map_some]

theorem takeYear?_plus (n : Nat) (rest : List Char) :
    takeYear? ('+' :: (padded 4 n ++ '-' :: rest)) = some ((n : Int), '-' :: rest) := by
  have htrim : Text.trimLeft ('+' :: (padded 4 n ++ '-' :: rest)) =
      '+' :: (padded 4 n ++ '-' :: rest) := Text.trimLeft_of_head (by rintro _ ⟨⟩; rfl)
  rw [takeYear?, htrim]
  simp only [takeDigits?_padded_year, Option.map_some]

theorem takeYear?_padded {n : Nat} (h : n < tenTo 4) (rest : List Char) :
    takeYear? (padded 4 n ++ rest) = some ((n : Int), rest) := by
  rw [takeYear?, trimLeft_padded]
  split
  next _ hsign => exact absurd hsign (padded_append_ne_cons rfl)
  next _ hsign => exact absurd hsign (padded_append_ne_cons rfl)
  next _ =>
    rw [takeDigits?_padded (by decide) h (by decide)]
    rfl

theorem takeYear?_yearChars (year : Int) (rest : List Char) :
    takeYear? (yearChars year ++ '-' :: rest) = some (year, '-' :: rest) := by
  unfold yearChars
  by_cases hplain : 0 ≤ year ∧ year ≤ 9999
  · have hfour : year.toNat < tenTo 4 := by
      have hten : tenTo 4 = 10000 := rfl
      omega
    rw [if_pos hplain, takeYear?_padded hfour, Int.toNat_of_nonneg hplain.1]
  by_cases hnegative : year < 0
  · have hyear : -(year.natAbs : Int) = year := by omega
    rw [if_neg hplain, if_pos hnegative, List.cons_append, takeYear?_minus, hyear]
  · have hyear : (year.natAbs : Int) = year := by omega
    rw [if_neg hplain, if_neg hnegative, List.cons_append, takeYear?_plus, hyear]

/-- The date of a layout is read, whatever follows it. -/
theorem takeDate?_dateChars (h : t.Valid) (rest : List Char) :
    takeDate? (t.dateChars ++ rest) = some ((t.year, t.month, t.day), rest) := by
  obtain ⟨hmonth, hday, -⟩ := h.bounds
  have hlayout : t.dateChars ++ rest =
      yearChars t.year ++ '-' :: (padded 2 t.month ++ '-' :: (padded 2 t.day ++ rest)) := by
    simp only [dateChars, List.append_assoc, List.cons_append]
  rw [hlayout, takeDate?]
  refine (bind_of_eq_some (takeYear?_yearChars t.year _) _).trans ?_
  refine (bind_of_eq_some (takeChar?_self '-' _) _).trans ?_
  refine (bind_of_eq_some (takeField?_padded hmonth _) _).trans ?_
  refine (bind_of_eq_some (takeChar?_self '-' _) _).trans ?_
  exact bind_of_eq_some (takeField?_padded hday _) _

theorem yearChars_of_plain (h : t.HasPlainYear) : yearChars t.year = padded 4 t.year.toNat :=
  if_pos h

theorem yearChars_of_signed (h : ¬t.HasPlainYear) :
    ∃ sign digits, yearChars t.year = sign :: digits ∧ Decimal.isDigit sign = false ∧
      Text.isBlank sign = false := by
  have hsigned : yearChars t.year = (if t.year < 0 then '-' else '+') :: padded 4 t.year.natAbs :=
    if_neg h
  rw [hsigned]
  split
  · exact ⟨'-', _, rfl, rfl, rfl⟩
  · exact ⟨'+', _, rfl, rfl, rfl⟩

/-- A layout with a plain year begins as the strict spelling does. -/
theorem readStrict?_dateChars (h : t.Valid) (hplain : t.HasPlainYear) (mark : Char)
    (hmark : isDateEnd mark = true) (rest : List Char) :
    readStrict? (t.dateChars ++ mark :: (t.clockChars ++ rest)) = (do
      let (nano, s) ← takeOptionalFraction? rest
      let offset ← offset? s
      let civil ← ofFields? t.year t.month t.day t.hour t.minute t.second nano
      return civil.minusMinutes offset) := by
  obtain ⟨hmonth, hday, hhour, hminute, hsecond⟩ := h.bounds
  have hfour : ∀ rest, takeDigits? 4 4 (padded 4 t.year.toNat ++ rest) =
      some (t.year.toNat, rest) := by
    have hlt : t.year.toNat < tenTo 4 := by
      have hten : tenTo 4 = 10000 := rfl
      have hgreatest := hplain.2
      omega
    exact fun rest => takeDigits?_padded (by decide) hlt (by decide) rest
  have htwo : ∀ n < 100, ∀ rest, takeDigits? 2 2 (padded 2 n ++ rest) = some (n, rest) :=
    fun n hn rest => takeDigits?_padded (by decide) hn (by decide) rest
  have hyear : (t.year.toNat : Int) = t.year := Int.toNat_of_nonneg hplain.1
  have hlayout : t.dateChars ++ mark :: (t.clockChars ++ rest) =
      padded 4 t.year.toNat ++ '-' :: (padded 2 t.month ++ '-' :: (padded 2 t.day ++ mark ::
        (padded 2 t.hour ++ ':' :: (padded 2 t.minute ++ ':' :: (padded 2 t.second ++ rest))))) := by
    simp only [dateChars, clockChars, yearChars_of_plain hplain, List.append_assoc,
      List.cons_append]
  rw [hlayout, readStrict?]
  refine (bind_of_eq_some (hfour _) _).trans ?_
  refine (bind_of_eq_some (takeChar?_self '-' _) _).trans ?_
  refine (bind_of_eq_some (htwo _ hmonth _) _).trans ?_
  refine (bind_of_eq_some (takeChar?_self '-' _) _).trans ?_
  refine (bind_of_eq_some (htwo _ hday _) _).trans ?_
  dsimp only
  rw [if_pos hmark, hyear]
  refine (bind_of_eq_some rfl _).trans ?_
  refine (bind_of_eq_some (htwo _ hhour _) _).trans ?_
  refine (bind_of_eq_some (takeChar?_self ':' _) _).trans ?_
  refine (bind_of_eq_some (htwo _ hminute _) _).trans ?_
  refine (bind_of_eq_some (takeChar?_self ':' _) _).trans ?_
  exact bind_of_eq_some (htwo _ hsecond _) _

theorem readStrict?_signed (hsigned : ¬t.HasPlainYear) (rest : List Char) :
    readStrict? (t.dateChars ++ rest) = none := by
  obtain ⟨sign, digits, hyear, hsign, -⟩ := yearChars_of_signed hsigned
  have hnone : takeDigits? 4 4 (t.dateChars ++ rest) = none := by
    refine takeDigits?_eq_none (by decide) ?_
    rw [dateChars, hyear]
    simpa using hsign
  rw [readStrict?, hnone]
  rfl

/-- A loose spelling, from the date and what stands behind it on. -/
theorem readLoose?_dateChars (h : t.Valid) (dateEnd : DateEnd) (withSeconds : Bool)
    (rest : List Char) :
    readLoose? dateEnd withSeconds (t.dateChars ++ rest) = (do
      let s ← dateEnd.take? rest
      let (hour, s) ← takeField? s
      let s ← takeChar? ':' s
      let (minute, s) ← takeField? s
      let ((second, nano), s) ←
        if withSeconds then do
          let s ← takeChar? ':' s
          let (second, s) ← takeField? s
          let (nano, s) ← takeOptionalFraction? s
          some ((second, nano), s)
        else some ((0, 0), s)
      if s.isEmpty then ofFields? t.year t.month t.day hour minute second nano else none) := by
  rw [readLoose?, takeDate?_dateChars h]
  rfl

theorem ofFields?_eq (h : t.Valid) (nano : Nat) :
    ofFields? t.year t.month t.day t.hour t.minute t.second nano = some { t with nano } := by
  rw [ofFields?, h.date, h.time]
  rfl

theorem isBlank_of_head?_dateChars {rest : List Char} :
    ∀ c ∈ (t.dateChars ++ rest).head?, Text.isBlank c = false := by
  by_cases hplain : t.HasPlainYear
  · intro c hc
    simp only [dateChars, yearChars_of_plain hplain, List.append_assoc] at hc
    exact Decimal.isBlank_of_isDigit (isDigit_of_head?_padded c hc)
  · obtain ⟨sign, digits, hyear, -, hsign⟩ := yearChars_of_signed hplain
    rw [dateChars, hyear]
    simpa using hsign

theorem isBlank_of_getLast?_clockChars {front : List Char} :
    ∀ c ∈ (front ++ t.clockChars).getLast?, Text.isBlank c = false := by
  intro c hc
  have hsplit : front ++ t.clockChars =
      (front ++ padded 2 t.hour ++ ':' :: padded 2 t.minute ++ [':']) ++ padded 2 t.second := by
    simp [clockChars]
  have hlast := List.getLast?_eq_some_getLast (padded_ne_nil 2 t.second)
  rw [hsplit, List.getLast?_append, hlast, Option.some_or] at hc
  obtain rfl := Option.some.inj hc
  exact Decimal.isBlank_of_isDigit (isDigit_of_mem_padded (List.getLast_mem _))

/-! ### Reading what was written -/

theorem readLoose?_outbound (h : t.Valid) :
    readLoose? .blanks true (t.dateChars ++ ' ' :: t.clockChars) = some { t with nano := 0 } := by
  obtain ⟨-, -, hhour, hminute, hsecond⟩ := h.bounds
  have hblank : Text.trimLeft ([' '] ++ t.clockChars) = t.clockChars := by
    refine Text.trimLeft_append (by simp [Text.isBlank]) fun c hc => ?_
    rw [clockChars, List.append_assoc] at hc
    exact Decimal.isBlank_of_isDigit (isDigit_of_head?_padded c hc)
  have hlast : takeField? (padded 2 t.second) = some (t.second, []) := by
    have hfield := takeField?_padded hsecond []
    rwa [List.append_nil] at hfield
  rw [readLoose?_dateChars h, DateEnd.take?, ← List.singleton_append, hblank]
  simp only [clockChars, List.append_assoc, List.cons_append, takeField?_padded hhour,
    takeChar?_self, takeField?_padded hminute, hlast, takeOptionalFraction?, if_true,
    Option.bind_eq_bind, Option.bind_some, List.isEmpty_nil, ofFields?_eq h]

/-- **Stores' layout.** A timestamp in the layout of stores is read back to the second. -/
theorem read?_outbound (h : t.Valid) : read? t.outbound = some { t with nano := 0 } := by
  have htrim : Text.trimChars (t.dateChars ++ ' ' :: t.clockChars) =
      t.dateChars ++ ' ' :: t.clockChars := by
    refine Text.trimChars_of_ends isBlank_of_head?_dateChars ?_
    have hlast : ∀ c ∈ (t.dateChars ++ [' '] ++ t.clockChars).getLast?, Text.isBlank c = false :=
      isBlank_of_getLast?_clockChars
    rwa [List.append_assoc] at hlast
  have hstrict : readStrict? (t.dateChars ++ ' ' :: t.clockChars) = none := by
    by_cases hplain : t.HasPlainYear
    · have hread := readStrict?_dateChars h hplain ' ' rfl []
      rw [List.append_nil] at hread
      rw [hread]
      rfl
    · exact readStrict?_signed hplain _
  rw [read?, outbound, String.toList_ofList, htrim, hstrict, readLoose?_outbound h]
  rfl

/-- The layout of callers, behind the clock. -/
def inboundEnd (t : Timestamp) : List Char := '.' :: padded 3 (t.nano / 1000000) ++ ['Z']

theorem toList_inbound (t : Timestamp) :
    t.inbound.toList = t.dateChars ++ 'T' :: (t.clockChars ++ t.inboundEnd) := by
  simp [inbound, inboundEnd]

theorem takeOptionalFraction?_inboundEnd (h : t.Valid) :
    takeOptionalFraction? t.inboundEnd = some (t.nano / 1000000 * 1000000, ['Z']) := by
  have hmillis : t.nano / 1000000 < tenTo 3 := by
    have hnano := h.nano
    have hnine : tenTo 9 = 1000000000 := rfl
    have hthree : tenTo 3 = 1000 := rfl
    omega
  have hlength := length_padded (by decide) hmillis
  obtain ⟨htaken, hdropped⟩ := Decimal.takeWhile_isDigit_append ['Z']
    (fun c (hc : c ∈ padded 3 (t.nano / 1000000)) => isDigit_of_mem_padded hc) (by rintro _ ⟨⟩; rfl)
  have hsome : (padded 3 (t.nano / 1000000)).isEmpty = false :=
    List.isEmpty_eq_false_iff.mpr (padded_ne_nil _ _)
  have hkept : (padded 3 (t.nano / 1000000)).take 9 = padded 3 (t.nano / 1000000) :=
    List.take_of_length_le (by omega)
  have hscale : tenTo (9 - 3) = 1000000 := rfl
  rw [inboundEnd, List.cons_append, takeOptionalFraction?, takeFraction?, htaken, hdropped, hsome]
  simp only [Bool.false_eq_true, if_false, hkept, valueOf_padded, hlength, hscale]

/-- The letter in front of the clock is no blank. -/
theorem readLoose?_inbound_blanks (h : t.Valid) (withSeconds : Bool) (rest : List Char) :
    readLoose? .blanks withSeconds (t.dateChars ++ 'T' :: rest) = none := by
  have hletter : Text.trimLeft ('T' :: rest) = 'T' :: rest :=
    Text.trimLeft_of_head (by rintro _ ⟨⟩; rfl)
  have hfield : takeField? ('T' :: rest) = none := by
    rw [takeField?, hletter]
    exact takeDigits?_eq_none (by decide) (by rintro _ ⟨⟩; rfl)
  rw [readLoose?_dateChars h, DateEnd.take?, hletter]
  simp only [hfield, Option.bind_eq_bind, Option.bind_some, Option.bind_none]

/-- The loose spellings end before the mark of no offset. -/
theorem readLoose?_inbound_letter (h : t.Valid) (withSeconds : Bool) :
    readLoose? .letter withSeconds (t.dateChars ++ 'T' :: (t.clockChars ++ t.inboundEnd)) =
      none := by
  obtain ⟨-, -, hhour, hminute, hsecond⟩ := h.bounds
  rw [readLoose?_dateChars h, DateEnd.take?, takeChar?_self]
  cases withSeconds <;>
    simp only [clockChars, List.append_assoc, List.cons_append, takeField?_padded hhour,
      takeField?_padded hminute, takeField?_padded hsecond, takeChar?_self,
      takeOptionalFraction?_inboundEnd h, if_true, Bool.false_eq_true, if_false, List.isEmpty_cons,
      Option.bind_eq_bind, Option.bind_some]

theorem readDate?_inbound (h : t.Valid) (c : Char) (rest : List Char) :
    readDate? (t.dateChars ++ c :: rest) = none := by
  rw [readDate?, takeDate?_dateChars h]
  rfl

theorem trimChars_inbound (t : Timestamp) :
    Text.trimChars t.inbound.toList =
      t.dateChars ++ 'T' :: (t.clockChars ++ t.inboundEnd) := by
  rw [toList_inbound]
  refine Text.trimChars_of_ends isBlank_of_head?_dateChars ?_
  have hsplit : t.dateChars ++ 'T' :: (t.clockChars ++ t.inboundEnd) =
      (t.dateChars ++ 'T' :: (t.clockChars ++ '.' :: padded 3 (t.nano / 1000000))) ++ ['Z'] := by
    simp [inboundEnd]
  intro c hc
  rw [hsplit, List.getLast?_append, List.getLast?_singleton, Option.some_or] at hc
  obtain rfl := Option.some.inj hc
  rfl

theorem readStrict?_inbound (h : t.Valid) (hplain : t.HasPlainYear) :
    readStrict? t.inbound.toList = some { t with nano := t.nano / 1000000 * 1000000 } := by
  have hcut : ({ t with nano := t.nano / 1000000 * 1000000 } : Timestamp).Valid :=
    ⟨h.date, h.time, Nat.lt_of_le_of_lt (Nat.div_mul_le_self _ _) h.nano⟩
  have hzone : offset? ['Z'] = some 0 := rfl
  rw [toList_inbound]
  simp only [readStrict?_dateChars h hplain 'T' rfl,
    takeOptionalFraction?_inboundEnd h, hzone, ofFields?_eq h, Option.bind_eq_bind,
    Option.bind_some, minusMinutes_zero hcut]
  rfl

/-- **Callers' layout.** A timestamp in the layout of callers is read back to the millisecond, if its
year has no sign. -/
theorem read?_inbound (h : t.Valid) (hplain : t.HasPlainYear) :
    read? t.inbound = some { t with nano := t.nano / 1000000 * 1000000 } := by
  rw [read?, trimChars_inbound, ← toList_inbound, readStrict?_inbound h hplain]
  rfl

/-- Only the strict spelling ends in the mark of no offset, and it has no signs. -/
theorem read?_inbound_signed (h : t.Valid) (hsigned : ¬t.HasPlainYear) :
    read? t.inbound = none := by
  rw [read?, trimChars_inbound, readStrict?_signed hsigned, readLoose?_inbound_blanks h,
    readLoose?_inbound_letter h true, readLoose?_inbound_blanks h,
    readLoose?_inbound_letter h false, readDate?_inbound h]
  rfl

end Written

end Timestamp

end DataAccess
