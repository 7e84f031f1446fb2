import DataAccess.Proofs.Time.Valid

/-!
# Days of the calendar

A count of days since a fixed date goes up by one from each date to the next, over the ends of months
and of years. So it orders dates by year, then month, then day.
-/

namespace DataAccess

namespace Timestamp

/-! ### Months -/

section Months

variable {year : Int} {month : Nat}

theorem isLeapYear_iff :
    isLeapYear year = true ↔ year % 4 = 0 ∧ (year % 100 ≠ 0 ∨ year % 400 = 0) := by
  simp [isLeapYear]

/-- Years are counted from March, so a leap day is the last day of a year. -/
theorem daysOf_march (year : Int) :
    daysOf year 3 1 = daysOf year 2 1 + (if isLeapYear year then 29 else 28) := by
  simp only [daysOf, isLeapYear_iff]
  simp
  omega

theorem daysOf_nextMonth (year : Int) (hfirst : 1 ≤ month) (hlast : month < 12) :
    daysOf year (month + 1) 1 = daysOf year month 1 + daysInMonth year month := by
  by_cases hfebruary : month = 2
  · subst hfebruary
    rw [daysOf_march, daysInMonth, if_pos rfl]
    split <;> rfl
  · have hmonths : month = 1 ∨ month = 3 ∨ month = 4 ∨ month = 5 ∨ month = 6 ∨ month = 7 ∨
        month = 8 ∨ month = 9 ∨ month = 10 ∨ month = 11 := by omega
    rcases hmonths with rfl | rfl | rfl | rfl | rfl | rfl | rfl | rfl | rfl | rfl
    all_goals
      simp only [daysOf, daysInMonth]
      simp
      omega

theorem daysOf_nextYear (year : Int) :
    daysOf (year + 1) 1 1 = daysOf year 12 1 + daysInMonth year 12 := by
  simp only [daysOf, daysInMonth]
  simp
  omega

/-- The day with which a month begins, for months that are counted on over the years. -/
def monthStart (count : Int) : Int := daysOf (count / 12) ((count % 12).toNat + 1) 1

theorem monthStart_succ (count : Int) :
    monthStart (count + 1) =
      monthStart count + daysInMonth (count / 12) ((count % 12).toNat + 1) := by
  by_cases hend : count % 12 = 11
  · have hyear : (count + 1) / 12 = count / 12 + 1 := by omega
    have hmonth : (count + 1) % 12 = 0 := by omega
    rw [monthStart, monthStart, hyear, hmonth, hend]
    exact daysOf_nextYear (count / 12)
  · have hyear : (count + 1) / 12 = count / 12 := by omega
    have hmonth : ((count + 1) % 12).toNat = (count % 12).toNat + 1 := by omega
    rw [monthStart, monthStart, hyear, hmonth]
    exact daysOf_nextMonth (count / 12) (by omega) (by omega)

/-- Each month has a day, so months that follow begin at least as many days later. -/
theorem monthStart_add_le (count : Int) (n : Nat) :
    monthStart count + n ≤ monthStart (count + n) := by
  induction n with
  | zero => simp
  | succ n ih =>
      have hnext := monthStart_succ (count + n)
      have hlength := daysInMonth_bounds ((count + n) / 12) (((count + n) % 12).toNat + 1)
      rw [Int.natCast_succ, ← Int.add_assoc, ← Int.add_assoc]
      omega

theorem monthStart_mono {count count' : Int} (h : count ≤ count') :
    monthStart count ≤ monthStart count' := by
  obtain ⟨n, rfl⟩ := Int.le.dest h
  have hlater := monthStart_add_le count n
  omega

end Months

/-! ### Days -/

section Days

variable {year year' : Int} {month month' day day' : Nat}

theorem daysOf_eq_add (year : Int) (month : Nat) (hday : 1 ≤ day) :
    daysOf year month day = daysOf year month 1 + (day - 1 : Nat) := by
  unfold daysOf
  dsimp only
  omega

/-- A date lies in its month. -/
theorem daysOf_bounds (h : validDate year month day = true) :
    let count := 12 * year + (month - 1 : Nat)
    daysOf year month day = monthStart count + (day - 1 : Nat) ∧
      daysOf year month day < monthStart (count + 1) := by
  intro count
  obtain ⟨-, -, hfirst, hlast, hday, hend⟩ := validDate_iff.mp h
  have hyear : count / 12 = year := by omega
  have hmonth : (count % 12).toNat + 1 = month := by omega
  have hstart : monthStart count = daysOf year month 1 := by rw [monthStart, hyear, hmonth]
  have hnext : monthStart (count + 1) = daysOf year month 1 + daysInMonth year month := by
    rw [monthStart_succ, hstart, hyear, hmonth]
  rw [daysOf_eq_add year month hday, hstart, hnext]
  omega

/-- Days are in the order of their dates. -/
theorem daysOf_lt_iff (h : validDate year month day = true)
    (h' : validDate year' month' day' = true) :
    daysOf year month day < daysOf year' month' day' ↔
      year < year' ∨ year = year' ∧ (month < month' ∨ month = month' ∧ day < day') := by
  obtain ⟨hday, hend⟩ := daysOf_bounds h
  obtain ⟨hday', hend'⟩ := daysOf_bounds h'
  obtain ⟨-, -, hfirst, hlast, hone, -⟩ := validDate_iff.mp h
  obtain ⟨-, -, hfirst', hlast', hone', -⟩ := validDate_iff.mp h'
  generalize hcount : 12 * year + (month - 1 : Nat) = count at hday hend
  generalize hcount' : 12 * year' + (month' - 1 : Nat) = count' at hday' hend'
  -- A date of an earlier month ends before the next month begins, so only dates of one month are left.
  rcases Int.lt_trichotomy count count' with hlt | heq | hgt
  · have hmonths := monthStart_mono (show count + 1 ≤ count' from hlt)
    omega
  · subst heq
    omega
  · have hmonths := monthStart_mono (show count' + 1 ≤ count from hgt)
    omega

theorem daysOf_dayAfter (h : validDate year month day = true) :
    daysOf (dayAfter year month day).1 (dayAfter year month day).2.1
      (dayAfter year month day).2.2 = daysOf year month day + 1 := by
  obtain ⟨-, -, hfirst, hlast, hday, hend⟩ := validDate_iff.mp h
  have hsplit := daysOf_eq_add year month hday
  by_cases hinside : day < daysInMonth year month
  · have hnext := daysOf_eq_add year month (show 1 ≤ day + 1 by omega)
    simp only [dayAfter, if_pos hinside]
    omega
  by_cases hmonth : month < 12
  · have hnext := daysOf_nextMonth year hfirst hmonth
    simp only [dayAfter, if_neg hinside, if_pos hmonth]
    omega
  · obtain rfl : month = 12 := by omega
    have hnext := daysOf_nextYear year
    simp only [dayAfter, if_neg hinside, if_neg hmonth]
    omega

/-- So one date fixes the count. -/
example : daysOf 1970 1 1 = 0 := by decide

theorem daysOf_dayBefore (h : validDate year month day = true) :
    daysOf (dayBefore year month day).1 (dayBefore year month day).2.1
      (dayBefore year month day).2.2 = daysOf year month day - 1 := by
  obtain ⟨-, -, hfirst, hlast, hday, -⟩ := validDate_iff.mp h
  have hsplit := daysOf_eq_add year month hday
  by_cases hinside : 1 < day
  · have hprevious := daysOf_eq_add year month (show 1 ≤ day - 1 by omega)
    simp only [dayBefore, if_pos hinside]
    omega
  by_cases hmonth : 1 < month
  · have hnext := daysOf_nextMonth year (show 1 ≤ month - 1 by omega) (by omega)
    have hlength := (daysInMonth_bounds year (month - 1)).1
    have hprevious := daysOf_eq_add year (month - 1) hlength
    rw [Nat.sub_add_cancel hfirst] at hnext
    simp only [dayBefore, if_neg hinside, if_pos hmonth]
    omega
  · obtain rfl : month = 1 := by omega
    have hnext := daysOf_nextYear (year - 1)
    have hprevious := daysOf_eq_add (year - 1) 12 (show 1 ≤ 31 by decide)
    have hlength : daysInMonth (year - 1) 12 = 31 := rfl
    rw [Int.sub_add_cancel, hlength] at hnext
    simp only [dayBefore, if_neg hinside, if_neg hmonth]
    omega

end Days

end Timestamp

end DataAccess
