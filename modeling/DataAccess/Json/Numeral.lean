import DataAccess.Json.Basic

/-!
Numbers as JSON writes them: a zero stands alone before the point, and a point or an exponent has at
least one digit. A number with a fraction or an exponent is its leading digits, as many as fit 64
bits, times or divided by a power of ten in float arithmetic; this can be one place away from the
nearest float.
-/

namespace DataAccess

namespace Json

structure Exponent where
  negative : Bool
  digits : List Char

/-- A number by its parts. -/
structure Numeral where
  negative : Bool
  whole : List Char
  fraction : Option (List Char)
  exponent : Option Exponent

namespace Numeral

def greatestWord : Nat := 18446744073709551615

/-- Takes leading digits into a word; gives the word and the digits that no longer fit. -/
def fillWord : Nat → List Char → Nat × List Char
  | word, [] => (word, [])
  | word, c :: rest =>
    let next := 10 * word + (Decimal.digitValue? c).getD 0
    if greatestWord < next then (word, c :: rest) else fillWord next rest

def greatestPower : Nat := 308

def powerOfTen (n : Nat) : Binary64 := Binary64.ofNat (tenTo n)

/-- `x * 10 ^ exponent`, by one operation for each 308 powers; none when it overflows. -/
def scale : Nat → Binary64 → Int → Option Binary64
  | 0, x, _ => some x
  | fuel + 1, x, exponent =>
    if exponent.natAbs ≤ greatestPower then
      if 0 ≤ exponent then
        let product := x.mul (powerOfTen exponent.natAbs)
        if product.isFinite then some product else none
      else some (x.div (powerOfTen exponent.natAbs))
    else if x.isZero then some x
    else if 0 ≤ exponent then none
    else scale fuel (x.div (powerOfTen greatestPower)) (exponent + greatestPower)

def greatestExponent : Nat := 2147483647

/-- The number, unless it is beyond the floats. -/
def value? (n : Numeral) : Option Number :=
  let (word, dropped) := fillWord 0 n.whole
  match n.fraction, n.exponent, dropped with
  | none, none, [] =>
    if n.negative then
      if word = 0 then some (.float (Binary64.zero true))
      else some (.ofInt (-(word : Int)))
    else some (.int word)
  | _, _, _ =>
    let places := n.fraction.getD []
    let (word, unused) := fillWord word places
    let shift : Int := dropped.length - (places.length - unused.length : Nat)
    let signed (x : Binary64) : Number := .float (if n.negative then x.neg else x)
    match n.exponent with
    | none => (scale 8 (Binary64.ofNat word) shift).map signed
    | some exponent =>
      let power := Decimal.valueOf exponent.digits
      if greatestExponent < power then
        if word ≠ 0 ∧ !exponent.negative then none else some (signed (Binary64.zero false))
      else
        let power : Int := if exponent.negative then -(power : Int) else power
        (scale 8 (Binary64.ofNat word) (shift + power)).map signed

/-- At least one digit, and what follows the digits. -/
def digits? (s : List Char) : Option (List Char × List Char) :=
  match s.takeWhile Decimal.isDigit with
  | [] => none
  | digits => some (digits, s.dropWhile Decimal.isDigit)

/-- The digits before the point: a zero stands alone. -/
def whole? (s : List Char) : Option (List Char × List Char) :=
  match digits? s with
  | some ('0' :: _ :: _, _) => none
  | other => other

def fraction? : List Char → Option (Option (List Char) × List Char)
  | '.' :: rest => (digits? rest).map fun (digits, rest) => (some digits, rest)
  | s => some (none, s)

def exponent? : List Char → Option (Option Exponent × List Char)
  | [] => some (none, [])
  | c :: rest =>
    if c = 'e' ∨ c = 'E' then
      let (negative, rest) := match rest with
        | '+' :: rest => (false, rest)
        | '-' :: rest => (true, rest)
        | rest => (false, rest)
      (digits? rest).map fun (digits, rest) => (some ⟨negative, digits⟩, rest)
    else some (none, c :: rest)

def unsigned? (negative : Bool) (s : List Char) : Option Numeral := do
  let (whole, s) ← whole? s
  let (fraction, s) ← fraction? s
  let (exponent, s) ← exponent? s
  if s.isEmpty then some ⟨negative, whole, fraction, exponent⟩ else none

/-- Reads a whole text. -/
def read? : List Char → Option Numeral
  | '-' :: rest => unsigned? true rest
  | s => unsigned? false s

end Numeral

end Json

end DataAccess
