/-!
Base64 with the standard alphabet. Padding is mandatory and the unused bits are zero, so a byte
sequence has one text.
-/

namespace DataAccess

namespace Base64

def alphabet : List Char :=
  "ABCDEFGHIJKLMNOPQRSTUVWXYZabcdefghijklmnopqrstuvwxyz0123456789+/".toList

def charOf (n : Nat) : Char := alphabet.getD n 'A'

def valueOf? (c : Char) : Option Nat := alphabet.findIdx? (· == c)

def encode : List UInt8 → List Char
  | [] => []
  | [a] =>
    let n := a.toNat * 16
    [charOf (n / 64), charOf (n % 64), '=', '=']
  | [a, b] =>
    let n := (a.toNat * 256 + b.toNat) * 4
    [charOf (n / 4096), charOf (n / 64 % 64), charOf (n % 64), '=']
  | a :: b :: c :: rest =>
    let n := (a.toNat * 256 + b.toNat) * 256 + c.toNat
    charOf (n / 262144) :: charOf (n / 4096 % 64) :: charOf (n / 64 % 64) :: charOf (n % 64)
      :: encode rest

def decode? : List Char → Option (List UInt8)
  | [] => some []
  | [a, b, '=', '='] => do
    let a ← valueOf? a
    let b ← valueOf? b
    let n := a * 64 + b
    if n % 16 = 0 then some [(n / 16).toUInt8] else none
  | [a, b, c, '='] => do
    let a ← valueOf? a
    let b ← valueOf? b
    let c ← valueOf? c
    let n := (a * 64 + b) * 64 + c
    if n % 4 = 0 then some [(n / 1024).toUInt8, (n / 4).toUInt8] else none
  | a :: b :: c :: d :: rest => do
    let a ← valueOf? a
    let b ← valueOf? b
    let c ← valueOf? c
    let d ← valueOf? d
    let n := ((a * 64 + b) * 64 + c) * 64 + d
    let bytes ← decode? rest
    return (n / 65536).toUInt8 :: (n / 256).toUInt8 :: n.toUInt8 :: bytes
  | _ => none

end Base64

end DataAccess
