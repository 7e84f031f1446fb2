import DataAccess.Proofs.Number.Digits
import DataAccess.Time.Reader

/-!
# Timestamps that exist

Every timestamp that is read, in any spelling, is a time of a day that exists.
-/

namespace DataAccess

namespace Timestamp

/-- A time of a day that exists, in a year of the supported range. -/
structure Valid (t : Timestamp) : Prop where
  date : validDate t.year t.month t.day = true
  time : validTime t.hour t.minute t.second = true
  nano : t.nano < tenTo 9

section Valid

variable {t : Timestamp}

theorem Valid.of_ofFields? {year : Int} {month day hour minute second nano : Nat}
    (hnano : nano < tenTo 9) (h : ofFields? year month day hour minute second nano = some t) :
    t.Valid := by
  rw [ofFields?] at h
  split at h
  next hvalid =>
    rw [Bool.and_eq_true] at hvalid
    obtain rfl := Option.some.inj h
    exact ⟨hvalid.1, hvalid.2, hnano⟩
  next _ => cases h

theorem valid_ofMillis? {millis : Int} (h : ofMillis? millis = some t) : t.Valid := by
  have hnano : (millis % 1000).toNat * 1000000 < tenTo 9 := by
    have hlt : millis % 1000 < 1000 := Int.emod_lt_of_pos millis (by decide)
    have hten : tenTo 9 = 1000000000 := rfl
    omega
  exact .of_ofFields? hnano h

theorem takeFraction?_lt {s rest : List Char} {nano : Nat}
    (h : takeFraction? s = some (nano, rest)) : nano < tenTo 9 := by
  rw [takeFraction?] at h
  dsimp only at h
  split at h
  · cases h
  · obtain ⟨rfl, -⟩ := Prod.mk.inj (Option.some.inj h)
    generalize hkept : (s.takeWhile Decimal.isDigit).take 9 = kept
    have hlength : kept.length ≤ 9 := by
      rw [← hkept, List.length_take]
      exact Nat.min_le_left _ _
    have hscale : tenTo kept.length * tenTo (9 - kept.length) = tenTo 9 := by
      rw [Decimal.tenTo_mul_tenTo, Nat.add_sub_cancel' hlength]
    calc Decimal.valueOf kept * tenTo (9 - kept.length)
        < tenTo kept.length * tenTo (9 - kept.length) :=
          Nat.mul_lt_mul_of_pos_right (Decimal.valueOf_lt kept) (Nat.pow_pos (by decide))
      _ = tenTo 9 := hscale

theorem takeOptionalFraction?_lt {s rest : List Char} {nano : Nat}
    (h : takeOptionalFraction? s = some (nano, rest)) : nano < tenTo 9 := by
  unfold takeOptionalFraction? at h
  split at h
  · exact takeFraction?_lt h
  · obtain ⟨rfl, -⟩ := Prod.mk.inj (Option.some.inj h)
    decide

/-! ### Offsets -/

theorem validDate_iff {year : Int} {month day : Nat} :
    validDate year month day = true ↔ leastYear ≤ year ∧ year ≤ greatestYear ∧ 1 ≤ month ∧
      month ≤ 12 ∧ 1 ≤ day ∧ day ≤ daysInMonth year month :=
  decide_eq_true_iff

theorem validTime_iff {hour minute second : Nat} :
    validTime hour minute second = true ↔ hour ≤ 23 ∧ minute ≤ 59 ∧ second ≤ 60 :=
  decide_eq_true_iff

theorem daysInMonth_bounds (year : Int) (month : Nat) :
    1 ≤ daysInMonth year month ∧ daysInMonth year month ≤ 31 := by
  unfold daysInMonth
  split
  · split <;> decide
  · split <;> decide

theorem validDate_dayBefore {year : Int} {month day : Nat} (h : validDate year month day = true)
    (hyear : leastYear < year) :
    validDate (dayBefore year month day).1 (dayBefore year month day).2.1
      (dayBefore year month day).2.2 = true := by
  rw [validDate_iff] at h ⊢
  by_cases hday : 1 < day
  · simp only [dayBefore, if_pos hday]
    omega
  by_cases hmonth : 1 < month
  · have hlast := daysInMonth_bounds year (month - 1)
    simp only [dayBefore, if_neg hday, if_pos hmonth]
    omega
  · have hdecember : daysInMonth (year - 1) 12 = 31 := rfl
    simp only [dayBefore, if_neg hday, if_neg hmonth, hdecember]
    omega

theorem validDate_dayAfter {year : Int} {month day : Nat} (h : validDate year month day = true)
    (hyear : year < greatestYear) :
    validDate (dayAfter year month day).1 (dayAfter year month day).2.1
      (dayAfter year month day).2.2 = true := by
  rw [validDate_iff] at h ⊢
  by_cases hday : day < daysInMonth year month
  · simp only [dayAfter, if_pos hday]
    omega
  by_cases hmonth : month < 12
  · have hlast := daysInMonth_bounds year (month + 1)
    simp only [dayAfter, if_neg hday, if_pos hmonth]
    omega
  · have hjanuary := daysInMonth_bounds (year + 1) 1
    simp only [dayAfter, if_neg hday, if_neg hmonth]
    omega

theorem offset?_bounds {s : List Char} {offset : Int} (h : offset? s = some offset) :
    -1440 < offset ∧ offset < 1440 := by
  unfold offset? at h
  split at h
  · split at h
    · obtain rfl := Option.some.inj h
      decide
    · cases h
  · obtain ⟨negative, -, h⟩ := Option.bind_eq_some_iff.mp h
    obtain ⟨a, -, h⟩ := Option.bind_eq_some_iff.mp h
    obtain ⟨b, -, h⟩ := Option.bind_eq_some_iff.mp h
    obtain ⟨c, -, h⟩ := Option.bind_eq_some_iff.mp h
    obtain ⟨d, -, h⟩ := Option.bind_eq_some_iff.mp h
    dsimp only at h
    split at h
    · cases h
    next hsmall =>
      obtain rfl := Option.some.inj h
      split <;> omega
  · cases h

/-- An offset of less than a day moves a year of four digits within the range. -/
theorem Valid.minusMinutes (h : t.Valid) (hyear : 0 ≤ t.year ∧ t.year ≤ 9999) {minutes : Int}
    (hminutes : -1440 < minutes ∧ minutes < 1440) : (t.minusMinutes minutes).Valid := by
  have htime := validTime_iff.mp h.time
  have hleast : leastYear < t.year := Int.lt_of_lt_of_le (by decide) hyear.1
  have hgreatest : t.year < greatestYear := Int.lt_of_le_of_lt hyear.2 (by decide)
  have hclock : ∀ total : Int, 0 ≤ total → total < 1440 →
      validTime (total.toNat / 60) (total.toNat % 60) t.second = true := by
    intro total hzero hday
    rw [validTime_iff]
    omega
  unfold Timestamp.minusMinutes
  dsimp only
  split
  · exact ⟨validDate_dayBefore h.date hleast, hclock _ (by omega) (by omega), h.nano⟩
  split
  · exact ⟨validDate_dayAfter h.date hgreatest, hclock _ (by omega) (by omega), h.nano⟩
  · exact ⟨h.date, hclock _ (by omega) (by omega), h.nano⟩

theorem minusMinutes_zero (h : t.Valid) : t.minusMinutes 0 = t := by
  have htime := validTime_iff.mp h.time
  have hhour : (t.hour * 60 + t.minute) / 60 = t.hour := by omega
  have hminute : (t.hour * 60 + t.minute) % 60 = t.minute := by omega
  rw [Timestamp.minusMinutes, if_neg (by omega), if_neg (by omega)]
  simp only [Int.sub_zero, Int.toNat_natCast, hhour, hminute]

/-! ### Spellings -/

theorem takeDigits?_lt {least most : Nat} {s rest : List Char} {n : Nat}
    (h : takeDigits? least most s = some (n, rest)) : n < tenTo most := by
  rw [takeDigits?] at h
  split at h
  · cases h
  · obtain ⟨rfl, -⟩ := Prod.mk.inj (Option.some.inj h)
    refine Nat.lt_of_lt_of_le (Decimal.valueOf_lt _) (Nat.pow_le_pow_right (by decide) ?_)
    exact Nat.le_trans (List.takeWhile_sublist _).length_le (List.length_take_le _ _)

theorem valid_readStrict? {s : List Char} (h : readStrict? s = some t) : t.Valid := by
  rw [readStrict?] at h
  obtain ⟨⟨year, s⟩, hyear, h⟩ := Option.bind_eq_some_iff.mp h
  obtain ⟨s, -, h⟩ := Option.bind_eq_some_iff.mp h
  obtain ⟨⟨month, s⟩, -, h⟩ := Option.bind_eq_some_iff.mp h
  obtain ⟨s, -, h⟩ := Option.bind_eq_some_iff.mp h
  obtain ⟨⟨day, s⟩, -, h⟩ := Option.bind_eq_some_iff.mp h
  dsimp only at h
  split at h
  case h_2 => cases h
  split at h
  case isFalse => cases h
  obtain ⟨s, -, h⟩ := Option.bind_eq_some_iff.mp h
  obtain ⟨⟨hour, s⟩, -, h⟩ := Option.bind_eq_some_iff.mp h
  obtain ⟨s, -, h⟩ := Option.bind_eq_some_iff.mp h
  obtain ⟨⟨minute, s⟩, -, h⟩ := Option.bind_eq_some_iff.mp h
  obtain ⟨s, -, h⟩ := Option.bind_eq_some_iff.mp h
  obtain ⟨⟨second, s⟩, -, h⟩ := Option.bind_eq_some_iff.mp h
  obtain ⟨⟨nano, s⟩, hnano, h⟩ := Option.bind_eq_some_iff.mp h
  obtain ⟨offset, hoffset, h⟩ := Option.bind_eq_some_iff.mp h
  obtain ⟨civil, hcivil, h⟩ := Option.bind_eq_some_iff.mp h
  obtain rfl := Option.some.inj h
  have hfour : year < tenTo 4 := takeDigits?_lt hyear
  have hvalid : civil.Valid := .of_ofFields? (takeOptionalFraction?_lt hnano) hcivil
  have hcivilYear : civil.year = year := by
    rw [ofFields?] at hcivil
    split at hcivil
    · rw [← Option.some.inj hcivil]
    · cases hcivil
  have hten : tenTo 4 = 10000 := rfl
  exact hvalid.minusMinutes (by omega) (offset?_bounds hoffset)

theorem valid_readLoose? {dateEnd : DateEnd} {withSeconds : Bool} {s : List Char}
    (h : readLoose? dateEnd withSeconds s = some t) : t.Valid := by
  rw [readLoose?] at h
  obtain ⟨⟨date, s⟩, -, h⟩ := Option.bind_eq_some_iff.mp h
  obtain ⟨s, -, h⟩ := Option.bind_eq_some_iff.mp h
  obtain ⟨⟨hour, s⟩, -, h⟩ := Option.bind_eq_some_iff.mp h
  obtain ⟨s, -, h⟩ := Option.bind_eq_some_iff.mp h
  obtain ⟨⟨minute, s⟩, -, h⟩ := Option.bind_eq_some_iff.mp h
  dsimp only at h
  split at h
  · obtain ⟨s, -, h⟩ := Option.bind_eq_some_iff.mp h
    obtain ⟨⟨second, s⟩, -, h⟩ := Option.bind_eq_some_iff.mp h
    obtain ⟨⟨nano, s⟩, hnano, h⟩ := Option.bind_eq_some_iff.mp h
    obtain ⟨clock, hclock, h⟩ := Option.bind_eq_some_iff.mp h
    obtain rfl := Option.some.inj hclock
    dsimp only at h
    split at h
    · exact .of_ofFields? (takeOptionalFraction?_lt hnano) h
    · cases h
  · obtain ⟨clock, hclock, h⟩ := Option.bind_eq_some_iff.mp h
    obtain rfl := Option.some.inj hclock
    dsimp only at h
    split at h
    · exact .of_ofFields? (by decide) h
    · cases h

theorem valid_readDate? {s : List Char} (h : readDate? s = some t) : t.Valid := by
  rw [readDate?] at h
  obtain ⟨⟨date, s⟩, -, h⟩ := Option.bind_eq_some_iff.mp h
  dsimp only at h
  split at h
  · exact .of_ofFields? (by decide) h
  · cases h

theorem valid_read? {text : String} (h : read? text = some t) : t.Valid := by
  rw [read?] at h
  simp only [Option.orElse_eq_orElse, Option.orElse_eq_or, Option.or_eq_some_iff] at h
  rcases h with h | ⟨-, h | ⟨-, h | ⟨-, h | ⟨-, h | ⟨-, h⟩⟩⟩⟩⟩
  · exact valid_readStrict? h
  · exact valid_readLoose? h
  · exact valid_readLoose? h
  · exact valid_readLoose? h
  · exact valid_readLoose? h
  · exact valid_readDate? h

end Valid

end Timestamp

end DataAccess
