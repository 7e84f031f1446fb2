/-!
Quoted texts. An identifier or a literal doubles its closing quote; a formula string escapes its
quote with a backslash.
-/

namespace DataAccess

namespace Text

/-- The inside of a string that `quote` delimits and in which a backslash escapes. -/
def escapeFor (quote : Char) : List Char → List Char
  | [] => []
  | c :: rest =>
    (if c = '\\' then ['\\', '\\']
    else if c = quote then ['\\', c]
    else if c = '\n' then ['\\', 'n']
    else if c = '\r' then ['\\', 'r']
    else if c = '\t' then ['\\', 't']
    else [c]) ++ escapeFor quote rest

/-- Every `close` written twice. -/
def doubled (close : Char) : List Char → List Char
  | [] => []
  | c :: rest => if c = close then close :: c :: doubled close rest else c :: doubled close rest

/-- A text between `opener` and `close`, its closing characters doubled. -/
def enclosed (opener close : Char) (s : List Char) : List Char :=
  opener :: doubled close s ++ [close]

def quoteIdentifier (name : String) (opener close : Char) : String :=
  String.ofList (enclosed opener close name.toList)

/-- A text as a literal between single quotes. -/
def literal (s : String) : String := String.ofList (enclosed '\x27' '\x27' s.toList)

/-- Reads past an opening quote: the text up to the first quote that is not doubled, and what follows
it. A text that ends first closes the literal. -/
def takeLiteral : List Char → List Char × List Char
  | [] => ([], [])
  | '\x27' :: '\x27' :: rest =>
    let (text, rest) := takeLiteral rest
    ('\x27' :: text, rest)
  | c :: rest =>
    if c = '\x27' then ([], rest)
    else
      let (text, rest) := takeLiteral rest
      (c :: text, rest)

theorem takeLiteral_length (s : List Char) : (takeLiteral s).2.length ≤ s.length := by
  fun_induction takeLiteral s with
  | case1 => exact Nat.le_refl _
  | case2 rest text after hread ih =>
      rw [hread] at ih
      simp only [List.length_cons] at ih ⊢
      omega
  | case3 rest hquote => exact Nat.le_succ _
  | case4 c rest hquote hc text after hread ih =>
      rw [hread] at ih
      exact Nat.le_succ_of_le ih

/-- The contents of the literals in a fragment, in order. -/
def literalsIn : List Char → List (List Char)
  | [] => []
  | c :: rest =>
    if c = '\x27' then (takeLiteral rest).1 :: literalsIn (takeLiteral rest).2
    else literalsIn rest
termination_by s => s.length
decreasing_by
  · have := takeLiteral_length rest
    simp only [List.length_cons]
    omega
  · simp

def literals (fragment : String) : List String :=
  (literalsIn fragment.toList).map String.ofList

end Text

end DataAccess
