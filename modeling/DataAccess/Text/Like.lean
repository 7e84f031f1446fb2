/-!
Patterns of `LIKE` as regular expressions: a percent sign stands for any text, an underscore for any
character, and every other character for itself.
-/

namespace DataAccess

namespace Like

/-- The characters that have a meaning of their own in a regular expression. -/
def metaChars : List Char := "\\.+*?()|[]\x7b\x7d^$#&-~".toList

def escapeChar (c : Char) : List Char := if c ∈ metaChars then ['\\', c] else [c]

/-- A text as an expression that matches it alone. -/
def escape (s : List Char) : List Char := s.flatMap escapeChar

def patternChar (c : Char) : List Char :=
  if c = '%' then ['.', '*'] else if c = '_' then ['.'] else escapeChar c

/-- The expression for a pattern, tied to both ends of the text. -/
def toRegex (pattern : String) : String :=
  String.ofList ('^' :: pattern.toList.flatMap patternChar ++ ['$'])

def literalRegex (text : String) : String := String.ofList (escape text.toList)

end Like

end DataAccess
