import DataAccess.Number.Decimal

/-!
Timestamps without an offset, in the proleptic Gregorian calendar. Second 60 is a leap second; it is
kept, not carried into the next minute.
-/

namespace DataAccess

structure Timestamp where
  year : Int
  month : Nat
  day : Nat
  hour : Nat
  minute : Nat
  second : Nat
  nano : Nat
  deriving DecidableEq, Repr, Inhabited

namespace Timestamp

def isLeapYear (year : Int) : Bool :=
  year % 4 == 0 && (year % 100 != 0 || year % 400 == 0)

def daysInMonth (year : Int) (month : Nat) : Nat :=
  if month = 2 then (if isLeapYear year then 29 else 28)
  else if month = 4 ∨ month = 6 ∨ month = 9 ∨ month = 11 then 30
  else 31

def leastYear : Int := -262143

def greatestYear : Int := 262142

/-- Whether a date exists and its year is within the supported range. -/
def validDate (year : Int) (month day : Nat) : Bool :=
  decide (leastYear ≤ year ∧ year ≤ greatestYear ∧ 1 ≤ month ∧ month ≤ 12 ∧ 1 ≤ day
    ∧ day ≤ daysInMonth year month)

def validTime (hour minute second : Nat) : Bool :=
  decide (hour ≤ 23 ∧ minute ≤ 59 ∧ second ≤ 60)

def ofFields? (year : Int) (month day hour minute second nano : Nat) : Option Timestamp :=
  if validDate year month day && validTime hour minute second then
    some ⟨year, month, day, hour, minute, second, nano⟩
  else none

/-- The date before a date. -/
def dayBefore (year : Int) (month day : Nat) : Int × Nat × Nat :=
  if 1 < day then (year, month, day - 1)
  else if 1 < month then (year, month - 1, daysInMonth year (month - 1))
  else (year - 1, 12, 31)

/-- The date after a date. -/
def dayAfter (year : Int) (month day : Nat) : Int × Nat × Nat :=
  if day < daysInMonth year month then (year, month, day + 1)
  else if month < 12 then (year, month + 1, 1)
  else (year + 1, 1, 1)

/-- The timestamp `minutes` earlier, for less than a day. -/
def minusMinutes (t : Timestamp) (minutes : Int) : Timestamp :=
  let total : Int := (t.hour * 60 + t.minute : Nat) - minutes
  let (date, total) :=
    if total < 0 then (dayBefore t.year t.month t.day, total + 1440)
    else if 1440 ≤ total then (dayAfter t.year t.month t.day, total - 1440)
    else ((t.year, t.month, t.day), total)
  { t with
    year := date.1, month := date.2.1, day := date.2.2
    hour := total.toNat / 60, minute := total.toNat % 60 }

/-- Days of a date since 1970-01-01, counting years from March. -/
def daysOf (year : Int) (month day : Nat) : Int :=
  let y := if month ≤ 2 then year - 1 else year
  let era := y / 400
  let yearOfEra := y % 400
  let shifted : Int := if 2 < month then month - 3 else month + 9
  let dayOfYear := (153 * shifted + 2) / 5 + day - 1
  let dayOfEra := yearOfEra * 365 + yearOfEra / 4 - yearOfEra / 100 + dayOfYear
  era * 146097 + dayOfEra - 719468

/-- The date that stands a number of days after 1970-01-01. -/
def dateOf (days : Int) : Int × Nat × Nat :=
  let z := days + 719468
  let era := z / 146097
  let dayOfEra := z % 146097
  let yearOfEra := (dayOfEra - dayOfEra / 1460 + dayOfEra / 36524 - dayOfEra / 146096) / 365
  let dayOfYear := dayOfEra - (365 * yearOfEra + yearOfEra / 4 - yearOfEra / 100)
  let shifted := (5 * dayOfYear + 2) / 153
  let day := dayOfYear - (153 * shifted + 2) / 5 + 1
  let month := if shifted < 10 then shifted + 3 else shifted - 9
  let year := yearOfEra + era * 400
  (if month ≤ 2 then year + 1 else year, month.toNat, day.toNat)

/-- The timestamp of a count of milliseconds since the start of 1970. -/
def ofMillis? (millis : Int) : Option Timestamp :=
  let seconds := millis / 1000
  let (year, month, day) := dateOf (seconds / 86400)
  let rest := (seconds % 86400).toNat
  ofFields? year month day (rest / 3600) (rest / 60 % 60) (rest % 60)
    ((millis % 1000).toNat * 1000000)

/-- Seconds since the start of 1970. -/
def seconds (t : Timestamp) : Int :=
  daysOf t.year t.month t.day * 86400 + (t.hour * 3600 + t.minute * 60 + t.second : Nat)

/-- A natural number in at least `width` digits. -/
def padded (width n : Nat) : List Char :=
  let digits := Decimal.digitChars n
  List.replicate (width - digits.length) '0' ++ digits

/-- Four digits; outside `0 .. 9999` a sign comes first. -/
def yearChars (year : Int) : List Char :=
  if 0 ≤ year ∧ year ≤ 9999 then padded 4 year.toNat
  else (if year < 0 then '-' else '+') :: padded 4 year.natAbs

def dateChars (t : Timestamp) : List Char :=
  yearChars t.year ++ '-' :: padded 2 t.month ++ '-' :: padded 2 t.day

def clockChars (t : Timestamp) : List Char :=
  padded 2 t.hour ++ ':' :: padded 2 t.minute ++ ':' :: padded 2 t.second

/-- The layout that stores are given: a blank between date and time, whole seconds. -/
def outbound (t : Timestamp) : String :=
  String.ofList (t.dateChars ++ ' ' :: t.clockChars)

/-- The layout that callers are given: milliseconds, cut not rounded, and the mark of no offset. -/
def inbound (t : Timestamp) : String :=
  String.ofList
    (t.dateChars ++ 'T' :: t.clockChars ++ '.' :: padded 3 (t.nano / 1000000) ++ ['Z'])

/-- The layout that keeps every digit. -/
def exact (t : Timestamp) : String :=
  String.ofList (t.dateChars ++ 'T' :: t.clockChars ++ '.' :: padded 9 t.nano)

end Timestamp

end DataAccess
