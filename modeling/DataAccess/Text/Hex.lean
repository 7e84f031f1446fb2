/-!
Hexadecimal digits. They are written in lower case and read in either.
-/

namespace DataAccess

namespace Hex

def digit? (c : Char) : Option Nat :=
  if '0' ≤ c ∧ c ≤ '9' then some (c.toNat - '0'.toNat)
  else if 'a' ≤ c ∧ c ≤ 'f' then some (c.toNat - 'a'.toNat + 10)
  else if 'A' ≤ c ∧ c ≤ 'F' then some (c.toNat - 'A'.toNat + 10)
  else none

def isDigit (c : Char) : Bool := (digit? c).isSome

def char (n : Nat) : Char := "0123456789abcdef".toList.getD n '0'

/-- The digits of a number, without leading zeros. -/
def digits (n : Nat) : List Char := Nat.toDigits 16 n

/-- The digits of a number with zeros in front up to a width. -/
def padded (width n : Nat) : List Char :=
  List.replicate (width - (digits n).length) '0' ++ digits n

/-- Two digits for each byte. -/
def encode (bytes : List UInt8) : List Char :=
  bytes.flatMap fun b => [char (b.toNat / 16), char (b.toNat % 16)]

def decode? : List Char → Option (List UInt8)
  | [] => some []
  | [_] => none
  | high :: low :: rest => do
    let high ← digit? high
    let low ← digit? low
    let bytes ← decode? rest
    return (high * 16 + low).toUInt8 :: bytes

end Hex

end DataAccess
