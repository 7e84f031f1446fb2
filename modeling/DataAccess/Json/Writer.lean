import DataAccess.Json.Basic
import DataAccess.Text.Hex

/-!
JSON text: compact, or indented by two blanks. Fields are written in the order in which the value
holds them.
-/

namespace DataAccess

namespace Json

/-- The short escapes, and `\u00xx` for the other control characters; all else stands for itself. -/
def escapeChar (c : Char) : List Char :=
  if c = '"' then ['\\', '"']
  else if c = '\\' then ['\\', '\\']
  else if c = '\n' then ['\\', 'n']
  else if c = '\r' then ['\\', 'r']
  else if c = '\t' then ['\\', 't']
  else if c.toNat = 8 then ['\\', 'b']
  else if c.toNat = 12 then ['\\', 'f']
  else if c.toNat < 32 then
    ['\\', 'u', '0', '0', Hex.char (c.toNat / 16), Hex.char (c.toNat % 16)]
  else [c]

def quoteChars (s : String) : List Char := '"' :: s.toList.flatMap escapeChar ++ ['"']

mutual

def compactChars : Json → List Char
  | null => ['n', 'u', 'l', 'l']
  | bool true => ['t', 'r', 'u', 'e']
  | bool false => ['f', 'a', 'l', 's', 'e']
  | number n => n.chars
  | string s => quoteChars s
  | array [] => ['[', ']']
  | array (item :: rest) => '[' :: compactChars item ++ compactItems rest
  | object [] => ['\x7b', '\x7d']
  | object ((name, value) :: rest) =>
    '\x7b' :: quoteChars name ++ ':' :: compactChars value ++ compactFields rest

def compactItems : List Json → List Char
  | [] => [']']
  | item :: rest => ',' :: compactChars item ++ compactItems rest

def compactFields : List (String × Json) → List Char
  | [] => ['\x7d']
  | (name, value) :: rest =>
    ',' :: quoteChars name ++ ':' :: compactChars value ++ compactFields rest

end

def compact (value : Json) : String := String.ofList value.compactChars

def lineAt (depth : Nat) : List Char := '\n' :: List.replicate (2 * depth) ' '

mutual

def prettyChars (depth : Nat) : Json → List Char
  | array [] => ['[', ']']
  | array (item :: rest) =>
    '[' :: lineAt (depth + 1) ++ prettyChars (depth + 1) item ++ prettyItems depth rest
  | object [] => ['\x7b', '\x7d']
  | object ((name, value) :: rest) =>
    '\x7b' :: lineAt (depth + 1) ++ quoteChars name ++ ':' :: ' ' :: prettyChars (depth + 1) value
      ++ prettyFields depth rest
  | scalar => compactChars scalar

def prettyItems (depth : Nat) : List Json → List Char
  | [] => lineAt depth ++ [']']
  | item :: rest =>
    ',' :: lineAt (depth + 1) ++ prettyChars (depth + 1) item ++ prettyItems depth rest

def prettyFields (depth : Nat) : List (String × Json) → List Char
  | [] => lineAt depth ++ ['\x7d']
  | (name, value) :: rest =>
    ',' :: lineAt (depth + 1) ++ quoteChars name ++ ':' :: ' ' :: prettyChars (depth + 1) value
      ++ prettyFields depth rest

end

/-- The text with one field or item on a line. -/
def pretty (value : Json) : String := String.ofList (prettyChars 0 value)

end Json

end DataAccess
