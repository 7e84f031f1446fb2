import DataAccess.Text.Hex
import DataAccess.Text.Utf8

/-!
Percent escapes of bytes in texts. Whatever is not an escape stands for itself.
-/

namespace DataAccess

namespace Percent

def sign : UInt8 := 0x25

def digit? (b : UInt8) : Option Nat := Hex.digit? (Char.ofNat b.toNat)

/-- The byte that two digits write. A plus sign may stand in place of the first. -/
def byte? (high low : UInt8) : Option UInt8 :=
  match digit? low with
  | none => none
  | some l =>
    if high = 0x2B then some l.toUInt8 else (digit? high).map fun h => (16 * h + l).toUInt8

/-- Replaces every escape by its byte. -/
def unescape : List UInt8 → List UInt8
  | b :: high :: low :: rest =>
    if b = sign then
      match byte? high low with
      | some byte => byte :: unescape rest
      | none => b :: unescape (high :: low :: rest)
    else b :: unescape (high :: low :: rest)
  | short => short

def decodeChars (s : List Char) : List Char := Utf8.decodeLossy (unescape (Utf8.encode s))

/-- Bytes that are not well-formed afterwards show as replacement characters. -/
def decode (s : String) : String := String.ofList (decodeChars s.toList)

end Percent

end DataAccess
