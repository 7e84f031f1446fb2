import DataAccess.Sql.Value
import DataAccess.Text.Hex
import DataAccess.Text.Utf8

/-!
Values of a SQLite database: how they are bound, how they come back, and which of them are keys.
-/

namespace DataAccess

namespace Sqlite

/-- A value as it is stored. There are no truth values, so one becomes zero or one. -/
def bind : SqlValue → SqlValue
  | .bool b => .int b.toNat
  | value => value

/-- Bytes come back as their digits. -/
def readBlob (bytes : List UInt8) : Json := .string (String.ofList (Hex.encode bytes))

/-- Text comes back as text, whatever is not in its encoding replaced. -/
def readText (bytes : List UInt8) : Json := .string (String.ofList (Utf8.decodeLossy bytes))

/-- The blanks that may surround a number in a text. -/
def isBlank (c : Char) : Bool := c = ' ' || ('\t' ≤ c && c ≤ '\r')

def trim (s : List Char) : List Char :=
  ((s.dropWhile isBlank).reverse.dropWhile isBlank).reverse

/-- The integer that a float equals. Both ends of 64 bits are too near to others to be one. -/
def keyOfFloat? (x : Binary64) : Option Int :=
  x.toInt?.filter fun n => decide (Json.Number.leastInt < n ∧ n ≤ Json.Number.greatestSigned)

/-- A decimal with an optional sign. -/
def decimal? : List Char → Option Binary64
  | '-' :: rest => Decimal.readMagnitude? true rest
  | '+' :: rest => Decimal.readMagnitude? false rest
  | s => Decimal.readMagnitude? false s

/-- A text is a key if it is an integer, or a decimal that equals one. -/
def keyOfText? (s : List Char) : Option Int :=
  match Decimal.readSigned? (trim s) with
  | some n => some n
  | none => (decimal? (trim s)).bind keyOfFloat?

/-- The integer key that a value stands for. -/
def key? (value : SqlValue) : Option Int :=
  match bind value with
  | .int n => some n
  | .float x => keyOfFloat? x
  | .text s => keyOfText? s.toList
  | .null | .bool _ => none

end Sqlite

end DataAccess
