import DataAccess.Json.Numeral
import DataAccess.Text.Hex

/-!
The tokens of JSON text. Texts and numbers are told apart by their form alone: a text with half of a
surrogate pair or with malformed bytes, and a number beyond the floats, are tokens without a value,
which only a reader that needs the value refuses. Raw control characters in a text are refused.
-/

namespace DataAccess

namespace Json

/-- What a text holds: `code` is an escaped number of 16 bits, maybe half of a surrogate pair. -/
inductive Piece
  | char (c : Char)
  | code (unit : Nat)
  | malformed
  deriving DecidableEq, Repr, Inhabited

namespace Piece

def isHigh (unit : Nat) : Bool := decide (0xD800 ≤ unit ∧ unit < 0xDC00)

def isLow (unit : Nat) : Bool := decide (0xDC00 ≤ unit ∧ unit < 0xE000)

/-- The character of a surrogate pair. -/
def pairChar (high low : Nat) : Char := Char.ofNat (0x10000 + (high - 0xD800) * 0x400 + (low - 0xDC00))

/-- The characters of pieces that stand the last first, before the characters of `text`. -/
def join? : List Piece → List Char → Option (List Char)
  | [], text => some text
  | .char c :: rest, text => join? rest (c :: text)
  | .malformed :: _, _ => none
  | .code low :: .code high :: rest, text =>
    if isLow low then
      if isHigh high then join? rest (pairChar high low :: text) else none
    else if isHigh low then none
    else join? (.code high :: rest) (Char.ofNat low :: text)
  | .code unit :: rest, text =>
    if isLow unit ∨ isHigh unit then none else join? rest (Char.ofNat unit :: text)

end Piece

inductive Token
  | openList
  | closeList
  | openObject
  | closeObject
  | comma
  | colon
  | null
  | bool (value : Bool)
  | number (value : Option Number)
  | text (value : Option String)
  deriving DecidableEq, Repr, Inhabited

namespace Token

def isBlank (c : Char) : Bool := c = ' ' || c = '\n' || c = '\t' || c = '\r'

/-- The tokens of one character. -/
def mark? : Char → Option Token
  | '[' => some openList
  | ']' => some closeList
  | '\x7b' => some openObject
  | '\x7d' => some closeObject
  | ',' => some comma
  | ':' => some colon
  | _ => none

/-- The token of characters that stand between blanks, marks and quotes. -/
def ofBare? (s : List Char) : Option Token :=
  if s = ['n', 'u', 'l', 'l'] then some null
  else if s = ['t', 'r', 'u', 'e'] then some (bool true)
  else if s = ['f', 'a', 'l', 's', 'e'] then some (bool false)
  else (Numeral.read? s).map fun n => number n.value?

def ofPieces (reversed : List Piece) : Token :=
  text ((Piece.join? reversed []).map String.ofList)

def escaped? : Char → Option Char
  | '"' => some '"'
  | '\\' => some '\\'
  | '/' => some '/'
  | 'b' => some '\x08'
  | 'f' => some '\x0c'
  | 'n' => some '\n'
  | 'r' => some '\r'
  | 't' => some '\t'
  | _ => none

/-- Where in a text a scanner is. What it has begun is kept with the last part first. -/
inductive Mode
  | gap
  | bare (chars : List Char)
  | text (pieces : List Piece)
  /-- Behind a backslash. -/
  | escape (pieces : List Piece)
  /-- Behind `\u` and some digits, which write `value`. -/
  | unit (pieces : List Piece) (digits value : Nat)
  deriving DecidableEq, Repr, Inhabited

/-- A scanner between two characters: the tokens that are complete, the last first. -/
structure Scan where
  tokens : List Token
  mode : Mode
  deriving DecidableEq, Repr, Inhabited

namespace Scan

/-- Begins a token. -/
def start (tokens : List Token) (c : Char) : Scan :=
  if isBlank c then ⟨tokens, .gap⟩
  else if c = '"' then ⟨tokens, .text []⟩
  else match mark? c with
    | some token => ⟨token :: tokens, .gap⟩
    | none => ⟨tokens, .bare [c]⟩

def isBare (c : Char) : Bool := !isBlank c && c ≠ '"' && (mark? c).isNone

/-- Takes a character, or a malformed sequence of bytes. -/
def step? (scan : Scan) : Option Char → Option Scan
  | none =>
    match scan.mode with
    | .text pieces => some { scan with mode := .text (.malformed :: pieces) }
    | _ => none
  | some c =>
    match scan.mode with
    | .gap => some (start scan.tokens c)
    | .bare chars =>
      if isBare c then some { scan with mode := .bare (c :: chars) }
      else (ofBare? chars.reverse).map fun token => start (token :: scan.tokens) c
    | .text pieces =>
      if c = '"' then some ⟨ofPieces pieces :: scan.tokens, .gap⟩
      else if c = '\\' then some { scan with mode := .escape pieces }
      else if c < ' ' then none
      else some { scan with mode := .text (.char c :: pieces) }
    | .escape pieces =>
      if c = 'u' then some { scan with mode := .unit pieces 0 0 }
      else (escaped? c).map fun c => { scan with mode := .text (.char c :: pieces) }
    | .unit pieces digits value =>
      (Hex.digit? c).map fun digit =>
        if digits < 3 then { scan with mode := .unit pieces (digits + 1) (16 * value + digit) }
        else { scan with mode := .text (.code (16 * value + digit) :: pieces) }

/-- The tokens at the end of the text. -/
def finish? (scan : Scan) : Option (List Token) :=
  match scan.mode with
  | .gap => some scan.tokens.reverse
  | .bare chars => (ofBare? chars.reverse).map fun token => (token :: scan.tokens).reverse
  | _ => none

end Scan

/-- The tokens of a text, which may have malformed parts. -/
def scan? (text : List (Option Char)) : Option (List Token) :=
  (text.foldlM Scan.step? ⟨[], .gap⟩).bind Scan.finish?

end Token

end Json

end DataAccess
