import DataAccess.Number.Binary64

/-!
Decimal texts. A positive binary number has a shortest decimal: the least count of digits for which
some decimal rounds to it, and of those the nearest to it. A layout says how the digits are written.
-/

namespace DataAccess

/-- The decimal `digits * 10 ^ exponent`. -/
structure Decimal where
  digits : Nat
  exponent : Int
  deriving DecidableEq, Repr, Inhabited

namespace Decimal

def digitChars (n : Nat) : List Char := Nat.toDigits 10 n

def intChars (n : Int) : List Char :=
  if n < 0 then '-' :: digitChars n.natAbs else digitChars n.natAbs

def digitValue? (c : Char) : Option Nat :=
  if '0' ≤ c ∧ c ≤ '9' then some (c.toNat - '0'.toNat) else none

def isDigit (c : Char) : Bool := '0' ≤ c && c ≤ '9'

/-- The number a run of digits writes; other characters count as zero. -/
def valueOf (digits : List Char) : Nat :=
  digits.foldl (fun n c => 10 * n + (digitValue? c).getD 0) 0

/-- The least `n` with `10 ^ n` above a positive ratio, starting from an estimate that is at most
one away. -/
def settle (num den : Nat) (guess : Int) : Int :=
  let reaches (e : Int) : Bool :=
    if e < 0 then decide (den ≤ num * tenTo (-e).toNat) else decide (den * tenTo e.toNat ≤ num)
  if reaches (guess + 1) then guess + 1 else if reaches guess then guess else guess - 1

/-- The greatest `n` with `10 ^ n ≤ num / den`. -/
def leadingExponent (num den : Nat) : Int :=
  settle num den (((num.log2 : Int) - (den.log2 : Int)) * 30103 / 100000)

/-- The multiples of `10 ^ exponent` next to `num / den`: the greatest below or at it, in units. -/
def gridFloor (num den : Nat) (exponent : Int) : Nat :=
  if exponent < 0 then num * tenTo (-exponent).toNat / den
  else num / (den * tenTo exponent.toNat)

/-- How `units * 10 ^ exponent` compares with `num / den`. -/
def compareGrid (units : Nat) (exponent : Int) (num den : Nat) : Ordering :=
  if exponent < 0 then compare (units * den) (num * tenTo (-exponent).toNat)
  else compare (units * den * tenTo exponent.toNat) num

/-- The decimals that round to one binary number: an interval with its ends, over one denominator. -/
structure Interval where
  low : Nat
  value : Nat
  high : Nat
  den : Nat
  closed : Bool

namespace Interval

/-- The ends are halfway to the neighbours; below a power of two the lower neighbour is nearer. -/
def ofFinite (significand : Nat) (exponent : Int) : Interval :=
  let lower := if significand = twoTo 52 ∧ Binary64.leastExponent < exponent then 1 else 2
  let scale := exponent - 2
  let unit := if scale < 0 then 1 else twoTo scale.toNat
  { low := (4 * significand - lower) * unit
    value := 4 * significand * unit
    high := (4 * significand + 2) * unit
    den := if scale < 0 then twoTo (-scale).toNat else 1
    closed := significand % 2 = 0 }

def contains (i : Interval) (units : Nat) (exponent : Int) : Bool :=
  let above := compareGrid units exponent i.low i.den
  let below := compareGrid units exponent i.high i.den
  (above == .gt || (i.closed && above == .eq)) && (below == .lt || (i.closed && below == .eq))

/-- Of the two grid points around the value, the one inside the interval that is nearer. -/
def hit? (i : Interval) (exponent : Int) : Option Nat :=
  let floor := gridFloor i.value i.den exponent
  match i.contains floor exponent, i.contains (floor + 1) exponent with
  | true, false => some floor
  | false, true => some (floor + 1)
  | false, false => none
  | true, true =>
    match compareGrid (2 * floor + 1) exponent (2 * i.value) i.den with
    | .gt => some floor
    | .lt => some (floor + 1)
    | .eq => some (if floor % 2 = 0 then floor else floor + 1)

/-- The first hit on grids that grow finer, at most `fuel` of them. -/
def search (i : Interval) : Nat → Int → Decimal
  | 0, exponent => ⟨gridFloor i.value i.den exponent, exponent⟩
  | fuel + 1, exponent =>
    match i.hit? exponent with
    | some units => ⟨units, exponent⟩
    | none => i.search fuel (exponent - 1)

end Interval

/-- Trailing zeros moved into the exponent, at most `fuel` of them. -/
def strip : Nat → Nat → Int → Decimal
  | 0, digits, exponent => ⟨digits, exponent⟩
  | fuel + 1, digits, exponent =>
    if digits ≠ 0 ∧ digits % 10 = 0 then strip fuel (digits / 10) (exponent + 1) else ⟨digits, exponent⟩

/-- The shortest decimal of a finite magnitude. Seventeen digits always suffice. -/
def shortest (significand : Nat) (exponent : Int) : Decimal :=
  if significand = 0 then ⟨0, 0⟩
  else
    let interval := Interval.ofFinite significand exponent
    let found := interval.search 17 (leadingExponent interval.value interval.den)
    strip 20 found.digits found.exponent

/-- How a decimal is written: which powers of ten of the first digit are positional, and whether a
whole number keeps its point. -/
structure Layout where
  positional : Int → Bool
  keepsPoint : Bool

/-- Digits and point, without an exponent. -/
def positionalChars (keepsPoint : Bool) (d : Decimal) : List Char :=
  let digits := digitChars d.digits
  let length : Int := digits.length
  if 0 ≤ d.exponent then
    digits ++ List.replicate d.exponent.toNat '0' ++ (if keepsPoint then ['.', '0'] else [])
  else if -d.exponent < length then
    let whole := (length + d.exponent).toNat
    digits.take whole ++ '.' :: digits.drop whole
  else
    '0' :: '.' :: List.replicate (-d.exponent - length).toNat '0' ++ digits

/-- One digit before the point, and the power of ten with its sign. -/
def scientificChars (d : Decimal) : List Char :=
  let digits := digitChars d.digits
  let power : Int := d.exponent + digits.length - 1
  let mantissa := match digits with
    | [] => ['0']
    | [c] => [c]
    | c :: rest => c :: '.' :: rest
  mantissa ++ 'e' :: (if power < 0 then '-' else '+') :: digitChars power.natAbs

namespace Layout

def write (layout : Layout) (d : Decimal) : List Char :=
  let power : Int := d.exponent + (digitChars d.digits).length - 1
  if layout.positional power then positionalChars layout.keepsPoint d else scientificChars d

/-- In data a float keeps its point, and is positional from `1e-5` up to, not including, `1e16`. -/
def data : Layout := ⟨fun power => decide (-5 ≤ power ∧ power < 16), true⟩

/-- In prose a float has no exponent, and no point when it is whole. -/
def plain : Layout := ⟨fun _ => true, false⟩

end Layout

end Decimal

namespace Binary64

/-- The text of a number; one that is not finite is named. -/
def text (layout : Decimal.Layout) : Binary64 → List Char
  | finite negative significand exponent =>
    (if negative then ['-'] else []) ++ layout.write (Decimal.shortest significand exponent)
  | infinite negative => (if negative then ['-'] else []) ++ ['i', 'n', 'f']
  | nan => ['N', 'a', 'N']

end Binary64

end DataAccess
