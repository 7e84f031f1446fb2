import DataAccess.Proofs.Time.Calendar
import DataAccess.Proofs.Time.Written

/-!
# Instants

A timestamp stands for an instant of universal time. Timestamps in one layout with plain years are in
the order of their instants, as texts, down to the unit that the layout keeps: numbers of a fixed count
of digits are in the order of their values.
-/

namespace DataAccess

/-- A minute since the start of 1970, a second of it and a fraction of the second. Second 60 is a leap
second, so it comes after the others of its minute. -/
structure Instant where
  minute : Int
  second : Nat
  nano : Nat
  deriving DecidableEq, Repr

namespace Instant

instance : LT Instant where
  lt a b := a.minute < b.minute ∨
    a.minute = b.minute ∧ (a.second < b.second ∨ a.second = b.second ∧ a.nano < b.nano)

variable {a b : Instant}

theorem lt_iff : a < b ↔ a.minute < b.minute ∨
    a.minute = b.minute ∧ (a.second < b.second ∨ a.second = b.second ∧ a.nano < b.nano) :=
  Iff.rfl

theorem lt_irrefl (a : Instant) : ¬a < a := by
  rw [lt_iff]
  omega

theorem eq_of_not_lt (hless : ¬a < b) (hmore : ¬b < a) : a = b := by
  obtain ⟨minute, second, nano⟩ := a
  obtain ⟨minute', second', nano'⟩ := b
  rw [lt_iff] at hless hmore
  rw [mk.injEq]
  dsimp only at hless hmore
  omega

/-- Texts that are in the order of instants are equal where these are. -/
theorem eq_iff_of_lt_iff {s s' : String} (hless : s < s' ↔ a < b) (hmore : s' < s ↔ b < a) :
    s = s' ↔ a = b := by
  constructor
  · rintro rfl
    exact eq_of_not_lt (String.lt_irrefl s ∘ hless.mpr) (String.lt_irrefl s ∘ hmore.mpr)
  · rintro rfl
    have hnotLess := lt_irrefl a ∘ hless.mp
    have hnotMore := lt_irrefl a ∘ hmore.mp
    exact String.le_antisymm (String.not_lt.mp hnotMore) (String.not_lt.mp hnotLess)

/-- The last whole second that is not after an instant. -/
def wholeSecond (a : Instant) : Instant := { a with nano := 0 }

/-- The last whole millisecond that is not after an instant. -/
def wholeMilli (a : Instant) : Instant := { a with nano := a.nano / 1000000 * 1000000 }

/-- An instant so many minutes earlier. -/
def earlier (a : Instant) (minutes : Int) : Instant := { a with minute := a.minute - minutes }

/-- An instant of the years that are written without a sign. -/
def HasPlainYear (a : Instant) : Prop :=
  Timestamp.daysOf 0 1 1 * 1440 ≤ a.minute ∧ a.minute < Timestamp.daysOf 10000 1 1 * 1440

end Instant

namespace Timestamp

def instant (t : Timestamp) : Instant :=
  ⟨daysOf t.year t.month t.day * 1440 + (t.hour * 60 + t.minute : Nat), t.second, t.nano⟩

section Instants

variable {t u : Timestamp}

/-- An offset is taken off the instant, whatever days, months and years it leads over. -/
theorem instant_minusMinutes (h : t.Valid) {minutes : Int}
    (hminutes : -1440 < minutes ∧ minutes < 1440) :
    (t.minusMinutes minutes).instant = t.instant.earlier minutes := by
  obtain ⟨hhour, hminute, -⟩ := validTime_iff.mp h.time
  have hclock : ∀ total : Int, 0 ≤ total →
      ((total.toNat / 60 * 60 + total.toNat % 60 : Nat) : Int) = total := by omega
  unfold minusMinutes
  dsimp only
  split
  next hbefore =>
    have hday := daysOf_dayBefore h.date
    simp only [instant, Instant.earlier, hday, Instant.mk.injEq, and_true]
    rw [hclock _ (by omega)]
    omega
  split
  next hafter =>
    have hday := daysOf_dayAfter h.date
    simp only [instant, Instant.earlier, hday, Instant.mk.injEq, and_true]
    rw [hclock _ (by omega)]
    omega
  next =>
    simp only [instant, Instant.earlier, Instant.mk.injEq, and_true]
    rw [hclock _ (by omega)]
    omega

/-- Timestamps are in the order of their instants field by field. -/
theorem instant_lt_iff (ht : t.Valid) (hu : u.Valid) :
    t.instant < u.instant ↔
      t.year < u.year ∨ t.year = u.year ∧ (t.month < u.month ∨ t.month = u.month ∧
        (t.day < u.day ∨ t.day = u.day ∧ (t.hour < u.hour ∨ t.hour = u.hour ∧
          (t.minute < u.minute ∨ t.minute = u.minute ∧
            (t.second < u.second ∨ t.second = u.second ∧ t.nano < u.nano))))) := by
  have hless := daysOf_lt_iff ht.date hu.date
  have hmore := daysOf_lt_iff hu.date ht.date
  obtain ⟨hhour, hminute, -⟩ := validTime_iff.mp ht.time
  obtain ⟨hhour', hminute', -⟩ := validTime_iff.mp hu.time
  rw [Instant.lt_iff]
  dsimp only [instant]
  omega

theorem eq_of_instant_eq (ht : t.Valid) (hu : u.Valid) (h : t.instant = u.instant) : t = u := by
  have hless := instant_lt_iff ht hu
  have hmore := instant_lt_iff hu ht
  rw [h] at hless hmore
  simp only [Instant.lt_irrefl, false_iff] at hless hmore
  obtain ⟨year, month, day, hour, minute, second, nano⟩ := t
  obtain ⟨year', month', day', hour', minute', second', nano'⟩ := u
  rw [mk.injEq]
  dsimp only at hless hmore
  omega

/-- An instant is in a plain year if its timestamp is. -/
theorem hasPlainYear_instant (h : t.Valid) : t.instant.HasPlainYear ↔ t.HasPlainYear := by
  have hfirst : validDate 0 1 1 = true := by decide
  have hend : validDate 10000 1 1 = true := by decide
  have hstart := daysOf_lt_iff h.date hfirst
  have hstop := daysOf_lt_iff h.date hend
  obtain ⟨-, -, hmonth, -, hday, -⟩ := validDate_iff.mp h.date
  obtain ⟨hhour, hminute, -⟩ := validTime_iff.mp h.time
  unfold Instant.HasPlainYear HasPlainYear instant
  dsimp only
  omega

end Instants

/-! ### Texts -/

section Texts

theorem padded_append_lt_iff {width n k : Nat} (hwidth : 0 < width) (hn : n < tenTo width)
    (hk : k < tenTo width) (s s' : List Char) :
    padded width n ++ s < padded width k ++ s' ↔ n < k ∨ n = k ∧ s < s' := by
  have hlength : (padded width n).length = (padded width k).length := by
    rw [length_padded hwidth hn, length_padded hwidth hk]
  have horder := Decimal.digits_append_lt_iff hlength (fun c hc => isDigit_of_mem_padded hc)
    (fun c hc => isDigit_of_mem_padded hc) s s'
  rwa [valueOf_padded, valueOf_padded] at horder

variable {t u : Timestamp}

/-- Layouts with plain years are in the order of their whole seconds, and then of what follows these. -/
theorem layout_lt_iff (ht : t.Valid) (hu : u.Valid) (htyear : t.HasPlainYear)
    (huyear : u.HasPlainYear) (mark : Char) (s s' : List Char) :
    t.dateChars ++ mark :: (t.clockChars ++ s) < u.dateChars ++ mark :: (u.clockChars ++ s') ↔
      t.instant.wholeSecond < u.instant.wholeSecond ∨
        t.instant.wholeSecond = u.instant.wholeSecond ∧ s < s' := by
  have htwo : ∀ {n k : Nat}, n < 100 → k < 100 → ∀ s s' : List Char,
      padded 2 n ++ s < padded 2 k ++ s' ↔ n < k ∨ n = k ∧ s < s' :=
    fun hn hk => padded_append_lt_iff (by decide) hn hk
  have hfour : ∀ s s' : List Char, padded 4 t.year.toNat ++ s < padded 4 u.year.toNat ++ s' ↔
      t.year.toNat < u.year.toNat ∨ t.year.toNat = u.year.toNat ∧ s < s' := by
    have hten : tenTo 4 = 10000 := rfl
    obtain ⟨-, ht'⟩ := htyear
    obtain ⟨-, hu'⟩ := huyear
    exact padded_append_lt_iff (by decide) (by omega) (by omega)
  have hwhole : ∀ {v : Timestamp}, v.Valid → ({ v with nano := 0 } : Timestamp).Valid :=
    fun hv => ⟨hv.date, hv.time, show 0 < tenTo 9 by decide⟩
  have hless : t.instant.wholeSecond < u.instant.wholeSecond ↔ _ :=
    instant_lt_iff (hwhole ht) (hwhole hu)
  have hmore : u.instant.wholeSecond < t.instant.wholeSecond ↔ _ :=
    instant_lt_iff (hwhole hu) (hwhole ht)
  have hsame : t.instant.wholeSecond = u.instant.wholeSecond ↔
      t.year = u.year ∧ t.month = u.month ∧ t.day = u.day ∧ t.hour = u.hour ∧
        t.minute = u.minute ∧ t.second = u.second := by
    constructor
    · intro h
      have hfields : ({ t with nano := 0 } : Timestamp) = { u with nano := 0 } :=
        eq_of_instant_eq (hwhole ht) (hwhole hu) h
      simpa using hfields
    · rintro ⟨h1, h2, h3, h4, h5, h6⟩
      simp only [instant, Instant.wholeSecond, h1, h2, h3, h4, h5, h6]
  obtain ⟨hmonth, hday, hhour, hminute, hsecond⟩ := ht.bounds
  obtain ⟨hmonth', hday', hhour', hminute', hsecond'⟩ := hu.bounds
  simp only [dateChars, clockChars, yearChars_of_plain htyear, yearChars_of_plain huyear,
    List.append_assoc, List.cons_append, hfour, htwo hmonth hmonth', htwo hday hday',
    htwo hhour hhour', htwo hminute hminute', htwo hsecond hsecond', List.cons_lt_cons_self, hless,
    hsame]
  obtain ⟨hyear, -⟩ := htyear
  obtain ⟨hyear', -⟩ := huyear
  -- What follows the clock counts only where all fields agree; `omega` is to see the fields alone.
  by_cases hend : s < s'
  · simp only [hend, and_true]
    omega
  · simp only [hend, and_false, or_false]
    omega

theorem inboundEnd_lt_iff (ht : t.Valid) (hu : u.Valid) :
    t.inboundEnd < u.inboundEnd ↔ t.nano / 1000000 < u.nano / 1000000 := by
  have hmillis : ∀ {v : Timestamp}, v.Valid → v.nano / 1000000 < tenTo 3 := by
    intro v hv
    have hnano : v.nano < 1000000000 := hv.nano
    have hthree : tenTo 3 = 1000 := rfl
    omega
  have horder := padded_append_lt_iff (by decide) (hmillis ht) (hmillis hu) ['Z'] ['Z']
  have hirrefl : ¬['Z'] < ['Z'] := List.lt_irrefl _
  rw [inboundEnd, inboundEnd, List.cons_append, List.cons_append, List.cons_lt_cons_self, horder]
  simp only [hirrefl, and_false, or_false]

section Plain

variable (ht : t.Valid) (hu : u.Valid) (htyear : t.HasPlainYear) (huyear : u.HasPlainYear)

include ht hu htyear huyear

theorem outbound_lt_iff :
    t.outbound < u.outbound ↔ t.instant.wholeSecond < u.instant.wholeSecond := by
  have horder := layout_lt_iff ht hu htyear huyear ' ' [] []
  have hirrefl : ¬([] : List Char) < [] := List.lt_irrefl _
  simp only [List.append_nil, hirrefl, and_false, or_false] at horder
  rw [String.lt_iff, outbound, outbound, String.toList_ofList, String.toList_ofList, horder]

theorem inbound_lt_iff :
    t.inbound < u.inbound ↔ t.instant.wholeMilli < u.instant.wholeMilli := by
  rw [String.lt_iff, toList_inbound, toList_inbound, layout_lt_iff ht hu htyear huyear,
    inboundEnd_lt_iff ht hu, Instant.lt_iff, Instant.lt_iff]
  simp only [Instant.wholeSecond, Instant.wholeMilli, Instant.mk.injEq, and_true]
  dsimp only [instant]
  omega

theorem outbound_eq_iff :
    t.outbound = u.outbound ↔ t.instant.wholeSecond = u.instant.wholeSecond :=
  Instant.eq_iff_of_lt_iff (outbound_lt_iff ht hu htyear huyear)
    (outbound_lt_iff hu ht huyear htyear)

theorem inbound_eq_iff : t.inbound = u.inbound ↔ t.instant.wholeMilli = u.instant.wholeMilli :=
  Instant.eq_iff_of_lt_iff (inbound_lt_iff ht hu htyear huyear)
    (inbound_lt_iff hu ht huyear htyear)

end Plain

end Texts

end Timestamp

end DataAccess
