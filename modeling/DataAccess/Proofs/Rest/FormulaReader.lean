import DataAccess.Text.Quoted

/-!
# Reading the text of a formula

A reader that knows single quotes and the escapes between them, and nothing of how formulas are made.
It goes through a text once and tells its code, character by character, and its literals. A text with
a literal that has no end, an escape that is none, or a plain character that has to be escaped is not
read at all.

A text that is read by itself is read the same in front of any other text, so the tokens of a text
are those of its parts. Between quotes the reader undoes what escaping does to a text, whatever the
text is.
-/

namespace DataAccess

namespace FormulaText

inductive Token
  | code (c : Char)
  | literal (text : String)
  deriving DecidableEq, Repr

/-- Where the reader is: in code, in a literal, or behind a backslash in a literal. -/
inductive Mode
  | code
  | inside (text : List Char)
  | escape (text : List Char)

/-- What a backslash and a character stand for. -/
def escaped? (c : Char) : Option Char :=
  if c = '\\' ∨ c = '\x27' then some c
  else if c = 'n' then some '\n'
  else if c = 'r' then some '\r'
  else if c = 't' then some '\t'
  else none

/-- The line ends and tabs, which a literal holds only as escapes. -/
def isControl (c : Char) : Bool := c = '\n' || c = '\r' || c = '\t'

def step : Mode → Char → Option (List Token × Mode)
  | .code, c => some (if c = '\x27' then ([], .inside []) else ([.code c], .code))
  | .inside text, c =>
    if c = '\x27' then some ([.literal (String.ofList text)], .code)
    else if c = '\\' then some ([], .escape text)
    else if isControl c then none
    else some ([], .inside (text ++ [c]))
  | .escape text, c => (escaped? c).map fun plain => ([], .inside (text ++ [plain]))

def scan : Mode → List Char → Option (List Token)
  | .code, [] => some []
  | .inside _, [] | .escape _, [] => none
  | mode, c :: rest => (step mode c).bind fun next => (scan next.2 rest).map (next.1 ++ ·)

/-- The code and the literals of a text. -/
def tokens? (formula : String) : Option (List Token) := scan .code formula.toList

/-- The texts of the literals. -/
def literals (tokens : List Token) : List String :=
  tokens.filterMap fun
    | .code _ => none
    | .literal text => some text

/-- A token without the text of a literal. -/
def Token.outside : Token → Token
  | code c => code c
  | literal _ => literal ""

/-- What stands outside the literals, and where the literals stand. -/
def outside (tokens : List Token) : List Token := tokens.map Token.outside

/-! ### Texts and their parts -/

/-- What a text is read as, whatever follows it. -/
def Reads (text : List Char) (tokens : List Token) : Prop :=
  ∀ rest, scan .code (text ++ rest) = (scan .code rest).map (tokens ++ ·)

variable {text more : List Char} {tokens others : List Token}

theorem reads_nil : Reads [] [] := by
  intro rest
  simp

theorem Reads.append (h : Reads text tokens) (hmore : Reads more others) :
    Reads (text ++ more) (tokens ++ others) := by
  intro rest
  rw [List.append_assoc, h, hmore, Option.map_map]
  congr 1
  funext after
  exact (List.append_assoc tokens others after).symm

theorem Reads.scan_eq (h : Reads text tokens) : scan .code text = some tokens := by
  have htext := h []
  simpa [scan] using htext

theorem scan_cons (mode : Mode) (c : Char) (rest : List Char) :
    scan mode (c :: rest) =
      (step mode c).bind fun next => (scan next.2 rest).map (next.1 ++ ·) := by
  cases mode <;> rfl

/-- A text that is read to its end, so that the reader is back in code there. -/
theorem scan_append {mode : Mode} (h : scan mode text = some tokens) (rest : List Char) :
    scan mode (text ++ rest) = (scan .code rest).map (tokens ++ ·) := by
  induction text generalizing mode tokens with
  | nil =>
      cases mode with
      | code =>
          obtain rfl := Option.some.inj h
          exact reads_nil rest
      | inside _ | escape _ => cases h
  | cons c text ih =>
      rw [scan_cons] at h
      obtain ⟨next, hnext, h⟩ := Option.bind_eq_some_iff.mp h
      obtain ⟨after, hafter, rfl⟩ := Option.map_eq_some_iff.mp h
      rw [List.cons_append, scan_cons, hnext, Option.bind_some, ih hafter, Option.map_map]
      congr 1
      funext last
      exact (List.append_assoc next.1 after last).symm

theorem reads_of_scan (h : scan .code text = some tokens) : Reads text tokens := scan_append h

/-! ### Code and literals -/

theorem reads_plain (h : '\x27' ∉ text) : Reads text (text.map .code) := by
  induction text with
  | nil => exact reads_nil
  | cons c text ih =>
      obtain ⟨hc, hmore⟩ := List.ne_and_not_mem_of_not_mem_cons h
      have hfirst : Reads [c] [.code c] := by
        intro rest
        rw [List.cons_append, List.nil_append, scan_cons, step, if_neg hc.symm]
        rfl
      exact hfirst.append (ih hmore)

/-- Between quotes an escaped text is read as that text. -/
theorem scan_inside (before : List Char) (s rest : List Char) :
    scan (.inside before) (Text.escapeFor '\x27' s ++ '\x27' :: rest) =
      (scan .code rest).map (.literal (String.ofList (before ++ s)) :: ·) := by
  induction s generalizing before with
  | nil =>
      rw [Text.escapeFor, List.nil_append, List.append_nil]
      rfl
  | cons c s ih =>
      have hmore := ih (before ++ [c])
      rw [List.append_assoc, List.singleton_append] at hmore
      -- An escape takes two steps, which add the character that it stands for.
      have hescape : ∀ sign : Char, escaped? sign = some c →
          scan (.inside before) ('\\' :: sign :: (Text.escapeFor '\x27' s ++ '\x27' :: rest)) =
            (scan .code rest).map (.literal (String.ofList (before ++ c :: s)) :: ·) := by
        intro sign hsign
        have hslash : step (.inside before) '\\' = some ([], .escape before) := rfl
        rw [← hmore, scan_cons, hslash, Option.bind_some, scan_cons, step, hsign]
        simp
      rw [Text.escapeFor]
      split
      next hc => exact hescape '\\' (by rw [hc]; rfl)
      split
      next hc => exact hescape c (by rw [hc]; rfl)
      split
      next hc => exact hescape 'n' (by rw [hc]; rfl)
      split
      next hc => exact hescape 'r' (by rw [hc]; rfl)
      split
      next hc => exact hescape 't' (by rw [hc]; rfl)
      next hslash hquote hline hreturn htab =>
        have hplain : isControl c = false := by simp [isControl, hline, hreturn, htab]
        rw [← hmore, List.singleton_append, List.cons_append, scan_cons, step, if_neg hquote,
          if_neg hslash, hplain]
        simp

theorem reads_literal (s : List Char) :
    Reads ('\x27' :: Text.escapeFor '\x27' s ++ ['\x27']) [.literal (String.ofList s)] := by
  intro rest
  have hsplit : '\x27' :: Text.escapeFor '\x27' s ++ ['\x27'] ++ rest =
      '\x27' :: (Text.escapeFor '\x27' s ++ '\x27' :: rest) := by simp
  rw [hsplit, scan_cons, step, if_pos rfl, Option.bind_some, scan_inside, Option.map_map]
  rfl

/-! ### Parts of the tokens -/

theorem literals_append (tokens others : List Token) :
    literals (tokens ++ others) = literals tokens ++ literals others := List.filterMap_append

theorem outside_append (tokens others : List Token) :
    outside (tokens ++ others) = outside tokens ++ outside others := List.map_append

theorem literals_map_code (text : List Char) : literals (text.map .code) = [] := by
  rw [literals, List.filterMap_map]
  exact List.filterMap_eq_nil_iff.mpr fun _ _ => rfl

end FormulaText

end DataAccess
