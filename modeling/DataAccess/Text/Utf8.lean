/-!
UTF-8. A malformed sequence is as long as its longest part that could begin a character, and at
least one byte; a reader that repairs texts puts one replacement character for each.
-/

namespace DataAccess

namespace Utf8

def encodeChar (c : Char) : List UInt8 :=
  let n := c.toNat
  if n < 0x80 then [n.toUInt8]
  else if n < 0x800 then [(0xC0 + n / 64).toUInt8, (0x80 + n % 64).toUInt8]
  else if n < 0x10000 then
    [(0xE0 + n / 4096).toUInt8, (0x80 + n / 64 % 64).toUInt8, (0x80 + n % 64).toUInt8]
  else
    [(0xF0 + n / 262144).toUInt8, (0x80 + n / 4096 % 64).toUInt8, (0x80 + n / 64 % 64).toUInt8,
      (0x80 + n % 64).toUInt8]

def encode (s : List Char) : List UInt8 := s.flatMap encodeChar

def between (least most : Nat) (b : UInt8) : Bool := decide (least ≤ b.toNat ∧ b.toNat ≤ most)

def isTail (b : UInt8) : Bool := between 0x80 0xBF b

/-- The second bytes that a first byte of a longer character allows. -/
def secondRange (first : Nat) : Nat × Nat :=
  if first = 0xE0 then (0xA0, 0xBF)
  else if first = 0xED then (0x80, 0x9F)
  else if first = 0xF0 then (0x90, 0xBF)
  else if first = 0xF4 then (0x80, 0x8F)
  else (0x80, 0xBF)

/-- How many bytes follow a first byte; none for a byte that begins no character. -/
def tailLength? (first : Nat) : Option Nat :=
  if first < 0x80 then some 0
  else if 0xC2 ≤ first ∧ first ≤ 0xDF then some 1
  else if 0xE0 ≤ first ∧ first ≤ 0xEF then some 2
  else if 0xF0 ≤ first ∧ first ≤ 0xF4 then some 3
  else none

def tailBits (b : UInt8) : Nat := b.toNat % 64

/-- The characters of a text, and `none` for each malformed sequence. -/
def units : List UInt8 → List (Option Char)
  | [] => []
  | a :: rest =>
    match tailLength? a.toNat with
    | none => none :: units rest
    | some 0 => some (Char.ofNat a.toNat) :: units rest
    | some tails =>
      match rest with
      | [] => [none]
      | b :: rest =>
        let (least, most) := secondRange a.toNat
        if !between least most b then none :: units (b :: rest)
        else if tails = 1 then
          some (Char.ofNat (a.toNat % 32 * 64 + tailBits b)) :: units rest
        else
          match rest with
          | [] => [none]
          | c :: rest =>
            if !isTail c then none :: units (c :: rest)
            else if tails = 2 then
              some (Char.ofNat ((a.toNat % 16 * 64 + tailBits b) * 64 + tailBits c)) :: units rest
            else
              match rest with
              | [] => [none]
              | d :: rest =>
                if !isTail d then none :: units (d :: rest)
                else
                  some (Char.ofNat
                    (((a.toNat % 8 * 64 + tailBits b) * 64 + tailBits c) * 64 + tailBits d))
                    :: units rest
termination_by bytes => bytes.length

def replacement : Char := '\ufffd'

/-- The text with one replacement character for each malformed sequence. -/
def decodeLossy (bytes : List UInt8) : List Char := (units bytes).map (·.getD replacement)

end Utf8

end DataAccess
