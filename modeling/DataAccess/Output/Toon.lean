import DataAccess.Json.Basic
import DataAccess.Text.Blank
import DataAccess.Text.Folding
import DataAccess.Text.Split
import DataAccess.Text.Word

/-!
Token-oriented notation: indented fields, arrays with their lengths, and uniform arrays of flat
objects as tables. Strings and keys have quotes only where they could be read as something else.
-/

namespace DataAccess

namespace Toon

/-- Digits with an optional sign, fraction and exponent. -/
def isNumberLike (s : List Char) : Bool :=
  let unsigned := match s with
    | '-' :: rest => rest
    | s => s
  let afterWhole := unsigned.dropWhile Text.isDecimal
  let startsWithDigit (s : List Char) : Bool := s.head?.any Text.isDecimal
  let afterFraction := match afterWhole with
    | '.' :: rest => if startsWithDigit rest then rest.dropWhile Text.isDecimal else '.' :: rest
    | rest => rest
  let atEnd := match afterFraction with
    | [] => true
    | 'e' :: rest =>
      let digits := match rest with
        | '+' :: digits => digits
        | '-' :: digits => digits
        | digits => digits
      startsWithDigit digits && digits.all Text.isDecimal
    | _ => false
  startsWithDigit unsigned && atEnd

/-- The characters that force quotes wherever they stand. -/
def isReserved (c : Char) : Bool := ":\"\\[]\x7b\x7d,\n\r\t".toList.contains c

/-- Whether a string can stand without quotes. -/
def isBare (s : List Char) : Bool :=
  !s.isEmpty && Text.trimChars s == s
    && !(["true".toList, "false".toList, "null".toList].contains s)
    && !isNumberLike s && !s.any isReserved && !Text.startsWith s ['-', ' ']

def escapeChar (c : Char) : List Char :=
  if c = '\\' then ['\\', '\\']
  else if c = '\x22' then ['\\', '\x22']
  else if c = '\n' then ['\\', 'n']
  else if c = '\r' then ['\\', 'r']
  else if c = '\t' then ['\\', 't']
  else [c]

def quoted (s : List Char) : List Char := '\x22' :: s.flatMap escapeChar ++ ['\x22']

def stringText (s : String) : String :=
  if isBare s.toList then s else String.ofList (quoted s.toList)

/-- Whether a key can stand without quotes: a letter or an underscore, then word characters and
dots. -/
def isBareKey (s : List Char) : Bool :=
  match s with
  | [] => false
  | c :: rest =>
    (('A' ≤ c && c ≤ 'Z') || ('a' ≤ c && c ≤ 'z') || c == '_')
      && rest.all fun d => Text.isWordChar d || d == '.'

def keyText (key : String) : String :=
  if isBareKey key.toList then key else String.ofList (quoted key.toList)

/-- Whole numbers below this magnitude are written as integers. -/
def wholeBound : Nat := 1000000000000000

/-- The text of a number as the nearest float. -/
def numberText (n : Json.Number) : String :=
  let x := n.toBinary64
  match x.toInt? with
  | some i =>
    String.ofList (if i.natAbs < wholeBound then Decimal.intChars i else x.text .plain)
  | none => String.ofList (x.text .plain)

/-- The text of a value that holds no others. -/
def scalarText : Json → String
  | .null => "null"
  | .bool b => if b then "true" else "false"
  | .number n => numberText n
  | .string s => stringText s
  | .array _ | .object _ => ""

def isScalar : Json → Bool
  | .array _ | .object _ => false
  | _ => true

def isScalarArray : Json → Bool
  | .array items => items.all isScalar
  | _ => false

def isObject : Json → Bool
  | .object _ => true
  | _ => false

/-- The field names of every object of an array, if they are the same and all values are scalars. -/
def tableKeys? : List Json → Option (List String)
  | .object (field :: fields) :: rest =>
    let keys := Record.keys (field :: fields)
    let fits (item : Json) : Bool :=
      match item with
      | .object row => Record.keys row == keys && row.all fun entry => isScalar entry.2
      | _ => false
    if (Json.object (field :: fields) :: rest).all fits then some keys else none
  | _ => none

def countText (n : Nat) : String := String.ofList (Decimal.digitChars n)

/-- `key[n]:`. -/
def header (key : String) (items : List Json) : String := s!"{key}[{countText items.length}]:"

/-- The head of an array and its scalars on one line. -/
def inline (key : String) (items : List Json) : String :=
  if items.isEmpty then header key items
  else header key items ++ " " ++ Text.join "," (items.map scalarText)

/-- The head of a table, with the keys of its columns. -/
def tableHeader (key : String) (items : List Json) (keys : List String) : String :=
  s!"{key}[{countText items.length}]" ++ "\x7b" ++ Text.join "," (keys.map keyText) ++ "\x7d:"

def line (depth : Nat) (text : String) : String :=
  String.ofList (List.replicate (2 * depth) ' ') ++ text

/-- The rows of a table. -/
def rowLines (depth : Nat) (items : List Json) : List String :=
  items.map fun item =>
    match item with
    | .object row => line depth (Text.join "," (row.map fun entry => scalarText entry.2))
    | _ => line depth ""

def itemLine (depth : Nat) (item : Json) : String :=
  line depth ("- " ++ match item with
    | .array items => inline "" items
    | other => scalarText other)

mutual

def fieldLines (depth : Nat) (key : String) : Json → List String
  | .array items => arrayLines depth key items
  | .object fields => line depth (key ++ ":") :: fieldsLines (depth + 1) fields
  | scalar => [line depth (key ++ ": " ++ scalarText scalar)]

def fieldsLines (depth : Nat) : List (String × Json) → List String
  | [] => []
  | (key, value) :: rest => fieldLines depth (keyText key) value ++ fieldsLines depth rest

def arrayLines (depth : Nat) (key : String) : List Json → List String
  | [] => [line depth (header key [])]
  | item :: rest =>
    let items := item :: rest
    if items.all isScalar then [line depth (inline key items)]
    else if items.all isScalarArray then
      line depth (header key items) :: items.map (itemLine (depth + 1))
    else
      match tableKeys? items with
      | some keys => line depth (tableHeader key items keys) :: rowLines (depth + 1) items
      | none =>
        line depth (header key items) :: itemLines (depth + 1) item ++ itemsLines (depth + 1) rest

def itemsLines (depth : Nat) : List Json → List String
  | [] => []
  | item :: rest => itemLines depth item ++ itemsLines depth rest

/-- An item after a dash. An array that is not all scalars has no line. -/
def itemLines (depth : Nat) : Json → List String
  | .array items => if items.all isScalar then [itemLine depth (.array items)] else []
  | .object [] => [line depth "-"]
  | .object ((key, value) :: rest) =>
    firstLines depth (keyText key) value ++ fieldsLines (depth + 1) rest
  | scalar => [itemLine depth scalar]

/-- The first field of an object after a dash. -/
def firstLines (depth : Nat) (key : String) : Json → List String
  | .array items =>
    if items.all isScalar then [line depth ("- " ++ inline key items)]
    else
      match tableKeys? items with
      | some keys => line depth ("- " ++ tableHeader key items keys) :: rowLines (depth + 1) items
      | none =>
        line depth ("- " ++ header key items)
          :: if items.all isObject then itemsLines (depth + 1) items
            else arrayLines (depth + 1) "" items
  | .object fields => line depth ("- " ++ key ++ ":") :: fieldsLines (depth + 2) fields
  | scalar => [line depth ("- " ++ key ++ ": " ++ scalarText scalar)]

end

def lines : Json → List String
  | .array items => arrayLines 0 "" items
  | .object fields => fieldsLines 0 fields
  | scalar => [scalarText scalar]

/-- The notation of a value, fields in the order in which the value holds them. -/
def text (value : Json) : String := Text.join "\n" (lines value)

end Toon

end DataAccess
