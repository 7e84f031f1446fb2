import DataAccess.Number.Decimal

/-!
Numbers written as whole texts. Integers may carry a sign and have no blanks; decimals may lack the
digits on one side of the point, and are rounded to the nearest float.
-/

namespace DataAccess

namespace Decimal

def allDigits (s : List Char) : Bool := !s.isEmpty && s.all isDigit

/-- A natural number, with an optional plus sign. -/
def readNat? (s : List Char) : Option Nat :=
  let digits := match s with
    | '+' :: rest => rest
    | s => s
  if allDigits digits then some (valueOf digits) else none

/-- An integer with an optional sign. -/
def readInt? (s : List Char) : Option Int :=
  match s with
  | '-' :: rest => if allDigits rest then some (-(valueOf rest : Int)) else none
  | s => (readNat? s).map fun n => (n : Int)

/-- An integer of 64 bits with a sign. -/
def readSigned? (s : List Char) : Option Int :=
  (readInt? s).filter fun n => decide (-9223372036854775808 ≤ n ∧ n < 9223372036854775808)

/-- A natural number of 64 bits. -/
def readWord? (s : List Char) : Option Nat :=
  (readNat? s).filter fun n => decide (n < 18446744073709551616)

/-- The exponent after its mark: a sign and at least one digit, then nothing. -/
def readExponent? (s : List Char) : Option Int :=
  match s with
  | '-' :: rest => if allDigits rest then some (-(valueOf rest : Int)) else none
  | s => (readNat? s).map fun n => (n : Int)

/-- A magnitude: digits with at most one point among them, and an optional exponent. -/
def readMagnitude? (negative : Bool) (s : List Char) : Option Binary64 :=
  let whole := s.takeWhile isDigit
  let afterWhole := s.dropWhile isDigit
  let (places, rest) := match afterWhole with
    | '.' :: rest => (rest.takeWhile isDigit, rest.dropWhile isDigit)
    | rest => ([], rest)
  if whole.isEmpty && places.isEmpty then none
  else
    let number (exponent : Int) :=
      Binary64.ofDecimal negative (valueOf (whole ++ places)) (exponent - places.length)
    match rest with
    | [] => some (number 0)
    | c :: rest => if c = 'e' ∨ c = 'E' then (readExponent? rest).map number else none

end Decimal

namespace Binary64

/-- A name of a value that is not a decimal, in lower case. -/
def ofName? (negative : Bool) (name : List Char) : Option Binary64 :=
  if name = "inf".toList ∨ name = "infinity".toList then some (.infinite negative)
  else if name = "nan".toList then some .nan
  else none

def readUnsigned? (negative : Bool) (s : List Char) : Option Binary64 :=
  match ofName? negative (s.map Char.toLower) with
  | some x => some x
  | none => Decimal.readMagnitude? negative s

/-- A float with an optional sign: a decimal, or the name of infinity or of no number. -/
def read? : List Char → Option Binary64
  | '-' :: rest => readUnsigned? true rest
  | '+' :: rest => readUnsigned? false rest
  | s => readUnsigned? false s

end Binary64

end DataAccess
