import DataAccess.Text.Blank
import DataAccess.Time.Timestamp

/-!
The spellings of a timestamp. The strict one has fixed widths and an offset; the loose ones have
none, and allow short numbers, blanks before a number, and signed years. A text is read by the first
spelling that fits it.
-/

namespace DataAccess

namespace Timestamp

/-- At least `least` and at most `most` digits. -/
def takeDigits? (least most : Nat) (s : List Char) : Option (Nat × List Char) :=
  let digits := (s.take most).takeWhile Decimal.isDigit
  if digits.length < least then none
  else some (Decimal.valueOf digits, s.drop digits.length)

def takeChar? (c : Char) : List Char → Option (List Char)
  | d :: rest => if d = c then some rest else none
  | [] => none

/-- The digits after a point, as nanoseconds; those after the ninth are dropped. -/
def takeFraction? (s : List Char) : Option (Nat × List Char) :=
  let digits := s.takeWhile Decimal.isDigit
  if digits.isEmpty then none
  else
    let kept := digits.take 9
    some (Decimal.valueOf kept * tenTo (9 - kept.length), s.dropWhile Decimal.isDigit)

/-- A fraction if a point follows. -/
def takeOptionalFraction? : List Char → Option (Nat × List Char)
  | '.' :: rest => takeFraction? rest
  | s => some (0, s)

/-- A sign of an offset: plus, hyphen or the minus sign. -/
def offsetSign? (c : Char) : Option Bool :=
  if c = '+' then some false
  else if c = '-' ∨ c.toNat = 0x2212 then some true
  else none

/-- An offset in minutes, below a day; the letter `z` is none. -/
def offset? : List Char → Option Int
  | [c] => if c = 'Z' ∨ c = 'z' then some 0 else none
  | sign :: a :: b :: ':' :: c :: d :: [] => do
    let negative ← offsetSign? sign
    let a ← Decimal.digitValue? a
    let b ← Decimal.digitValue? b
    let c ← Decimal.digitValue? c
    let d ← Decimal.digitValue? d
    let hours := 10 * a + b
    let minutes := 10 * c + d
    if 60 ≤ minutes ∨ 24 ≤ hours then none
    else
      let total : Int := (hours * 60 + minutes : Nat)
      return if negative then -total else total
  | _ => none

def isDateEnd (c : Char) : Bool := c = 'T' || c = 't' || c = ' '

/-- Fixed widths and an offset, moved to offset zero. -/
def readStrict? (s : List Char) : Option Timestamp := do
  let (year, s) ← takeDigits? 4 4 s
  let s ← takeChar? '-' s
  let (month, s) ← takeDigits? 2 2 s
  let s ← takeChar? '-' s
  let (day, s) ← takeDigits? 2 2 s
  let s ← match s with
    | c :: rest => if isDateEnd c then some rest else none
    | [] => none
  let (hour, s) ← takeDigits? 2 2 s
  let s ← takeChar? ':' s
  let (minute, s) ← takeDigits? 2 2 s
  let s ← takeChar? ':' s
  let (second, s) ← takeDigits? 2 2 s
  let (nano, s) ← takeOptionalFraction? s
  let offset ← offset? s
  let civil ← ofFields? year month day hour minute second nano
  return civil.minusMinutes offset

/-- A number of at most two digits, after blanks. -/
def takeField? (s : List Char) : Option (Nat × List Char) := takeDigits? 1 2 (Text.trimLeft s)

/-- All digits of a signed year, or at most four of an unsigned one, after blanks. -/
def takeYear? (s : List Char) : Option (Int × List Char) :=
  match Text.trimLeft s with
  | '-' :: rest => (takeDigits? 1 rest.length rest).map fun (n, rest) => (-(n : Int), rest)
  | '+' :: rest => (takeDigits? 1 rest.length rest).map fun (n, rest) => ((n : Int), rest)
  | s => (takeDigits? 1 4 s).map fun (n, rest) => ((n : Int), rest)

/-- The date of the loose spellings. -/
def takeDate? (s : List Char) : Option ((Int × Nat × Nat) × List Char) := do
  let (year, s) ← takeYear? s
  let s ← takeChar? '-' s
  let (month, s) ← takeField? s
  let s ← takeChar? '-' s
  let (day, s) ← takeField? s
  return ((year, month, day), s)

/-- What stands between date and time in a loose spelling. -/
inductive DateEnd
  | blanks
  | letter

def DateEnd.take? : DateEnd → List Char → Option (List Char)
  | blanks, s => some (Text.trimLeft s)
  | letter, s => takeChar? 'T' s

/-- A loose spelling, with seconds and an optional fraction or without either. -/
def readLoose? (dateEnd : DateEnd) (withSeconds : Bool) (s : List Char) : Option Timestamp := do
  let ((year, month, day), s) ← takeDate? s
  let s ← dateEnd.take? s
  let (hour, s) ← takeField? s
  let s ← takeChar? ':' s
  let (minute, s) ← takeField? s
  let ((second, nano), s) ←
    if withSeconds then do
      let s ← takeChar? ':' s
      let (second, s) ← takeField? s
      let (nano, s) ← takeOptionalFraction? s
      some ((second, nano), s)
    else some ((0, 0), s)
  if s.isEmpty then ofFields? year month day hour minute second nano else none

/-- A date alone, at midnight. -/
def readDate? (s : List Char) : Option Timestamp := do
  let ((year, month, day), s) ← takeDate? s
  if s.isEmpty then ofFields? year month day 0 0 0 0 else none

/-- Reads a timestamp in any spelling, without the blanks around it. -/
def read? (text : String) : Option Timestamp :=
  let s := Text.trimChars text.toList
  (readStrict? s)
    <|> (readLoose? .blanks true s)
    <|> (readLoose? .letter true s)
    <|> (readLoose? .blanks false s)
    <|> (readLoose? .letter false s)
    <|> (readDate? s)

end Timestamp

end DataAccess
