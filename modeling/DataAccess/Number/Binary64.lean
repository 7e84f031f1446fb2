import DataAccess.Number.Power

/-!
Binary floating-point numbers of 53 significant bits, kept as exact integers. Every operation is
defined on the integers and rounds once, to the nearest number, a tie going to the even significand.
-/

namespace DataAccess

/-- A finite number is `± significand * 2 ^ exponent`. In numbers built here the significand is
below `2 ^ 53`, and at least `2 ^ 52` unless the exponent is the least one, `-1074`. -/
inductive Binary64
  | finite (negative : Bool) (significand : Nat) (exponent : Int)
  | infinite (negative : Bool)
  | nan
  deriving DecidableEq, Repr, Inhabited

namespace Binary64

def leastExponent : Int := -1074

def greatestExponent : Int := 971

def zero (negative : Bool) : Binary64 := .finite negative 0 leastExponent

/-- The integer nearest to `num / den`, a tie going to the even one. -/
def roundDiv (num den : Nat) : Nat :=
  let quotient := num / den
  let rest := 2 * (num % den)
  if rest < den then quotient
  else if den < rest then quotient + 1
  else if quotient % 2 = 0 then quotient else quotient + 1

/-- `num / den` in units of `2 ^ exponent`, rounded. -/
def roundScaled (num den : Nat) (exponent : Int) : Nat :=
  if exponent < 0 then roundDiv (num * twoTo (-exponent).toNat) den
  else roundDiv num (den * twoTo exponent.toNat)

/-- `2 ^ 53 * 2 ^ exponent ≤ num / den`. -/
def reachesTop (num den : Nat) (exponent : Int) : Bool :=
  if exponent + 53 < 0 then decide (den ≤ num * twoTo (-(exponent + 53)).toNat)
  else decide (den * twoTo (exponent + 53).toNat ≤ num)

/-- The exponent at which the significand of `num / den` has 53 bits, or the least exponent. -/
def exponentOf (num den : Nat) : Int :=
  let guess : Int := (num.log2 : Int) - (den.log2 : Int) - 53
  let normal := if reachesTop num den guess then guess + 1 else guess
  max normal leastExponent

/-- The number nearest to `± num / den`. -/
def ofRatio (negative : Bool) (num den : Nat) : Binary64 :=
  if num = 0 ∨ den = 0 then zero negative
  else
    let exponent := exponentOf num den
    let significand := roundScaled num den exponent
    let carried := if significand = twoTo 53 then (twoTo 52, exponent + 1) else (significand, exponent)
    if greatestExponent < carried.2 then .infinite negative
    else .finite negative carried.1 carried.2

def ofNat (n : Nat) : Binary64 := ofRatio false n 1

def ofInt (n : Int) : Binary64 := ofRatio (decide (n < 0)) n.natAbs 1

/-- The number nearest to `± digits * 10 ^ exponent`. Magnitudes that are certain to overflow or
to vanish are decided by their count of digits. -/
def ofDecimal (negative : Bool) (digits : Nat) (exponent : Int) : Binary64 :=
  if digits = 0 then zero negative
  else
    let magnitude : Int := (Nat.toDigits 10 digits).length + exponent
    if 400 < magnitude then .infinite negative
    else if magnitude < -400 then zero negative
    else if exponent < 0 then ofRatio negative digits (tenTo (-exponent).toNat)
    else ofRatio negative (digits * tenTo exponent.toNat) 1

def isZero : Binary64 → Bool
  | finite _ significand _ => significand == 0
  | _ => false

def isFinite : Binary64 → Bool
  | finite .. => true
  | _ => false

def neg : Binary64 → Binary64
  | finite negative significand exponent => .finite (!negative) significand exponent
  | infinite negative => .infinite (!negative)
  | nan => .nan

/-- A finite magnitude as a ratio of naturals, the denominator positive. -/
def magnitudeRatio (significand : Nat) (exponent : Int) : Nat × Nat :=
  if exponent < 0 then (significand, twoTo (-exponent).toNat)
  else (significand * twoTo exponent.toNat, 1)

/-- The product of two finite numbers, rounded once. -/
def mul : Binary64 → Binary64 → Binary64
  | finite n₁ s₁ e₁, finite n₂ s₂ e₂ =>
    let ratio := magnitudeRatio (s₁ * s₂) (e₁ + e₂)
    ofRatio (n₁ != n₂) ratio.1 ratio.2
  | infinite n₁, finite n₂ s₂ _ => if s₂ = 0 then .nan else .infinite (n₁ != n₂)
  | finite n₁ s₁ _, infinite n₂ => if s₁ = 0 then .nan else .infinite (n₁ != n₂)
  | infinite n₁, infinite n₂ => .infinite (n₁ != n₂)
  | _, _ => .nan

/-- The quotient of two finite numbers, rounded once. -/
def div : Binary64 → Binary64 → Binary64
  | finite n₁ s₁ e₁, finite n₂ s₂ e₂ =>
    if s₂ = 0 then (if s₁ = 0 then .nan else .infinite (n₁ != n₂))
    else
      let ratio := magnitudeRatio s₁ (e₁ - e₂)
      ofRatio (n₁ != n₂) ratio.1 (ratio.2 * s₂)
  | infinite n₁, finite n₂ _ _ => .infinite (n₁ != n₂)
  | finite n₁ _ _, infinite n₂ => zero (n₁ != n₂)
  | _, _ => .nan

def signed (negative : Bool) (n : Nat) : Int := if negative then -(n : Int) else n

/-- The order of two values; the zeros are equal, and `nan` has no place. -/
def compare? : Binary64 → Binary64 → Option Ordering
  | finite n₁ s₁ e₁, finite n₂ s₂ e₂ =>
    let least := min e₁ e₂
    some (compare (signed n₁ (s₁ * twoTo (e₁ - least).toNat)) (signed n₂ (s₂ * twoTo (e₂ - least).toNat)))
  | finite .., infinite negative => some (if negative then .gt else .lt)
  | infinite negative, finite .. => some (if negative then .lt else .gt)
  | infinite n₁, infinite n₂ =>
    some (if n₁ = n₂ then .eq else if n₁ then .lt else .gt)
  | _, _ => none

/-- Equality of values: the two zeros are equal, and `nan` equals nothing. -/
def sameValue (x y : Binary64) : Bool := compare? x y == some .eq

/-- The integer part, toward zero; only a finite number has one. -/
def truncate? : Binary64 → Option Int
  | finite negative significand exponent =>
    some <| if exponent < 0 then signed negative (significand / twoTo (-exponent).toNat)
    else signed negative (significand * twoTo exponent.toNat)
  | _ => none

/-- The integer that a number with no fraction equals. -/
def toInt? : Binary64 → Option Int
  | finite negative significand exponent =>
    if 0 ≤ exponent then some (signed negative (significand * twoTo exponent.toNat))
    else
      let unit := twoTo (-exponent).toNat
      if significand % unit = 0 then some (signed negative (significand / unit)) else none
  | _ => none

/-- The integer part moved into `least .. greatest`; `nan` becomes zero. -/
def saturate (least greatest : Int) : Binary64 → Int
  | nan => 0
  | infinite negative => if negative then least else greatest
  | x => max least (min greatest ((truncate? x).getD 0))

end Binary64

end DataAccess
