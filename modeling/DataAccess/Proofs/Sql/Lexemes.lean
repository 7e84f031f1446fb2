import DataAccess.Sql.Statement

/-!
# Lexemes of a statement

A reader of statement texts that knows a dialect's quotes: it goes through a text once and tells its
words, its quoted names, its literals and its signs. A quote stands twice inside its own text. That a
dialect may read a backslash in a literal as an escape is not looked at here.

What a text is read as does not depend on what follows it, if that does not go on with its last word
or quote. So the lexemes of a text are those of its parts.
-/

namespace DataAccess

namespace SqlLexer

/-- What stands between quotes. -/
inductive Quoted
  | name
  | literal
  deriving DecidableEq, Repr

inductive Lexeme
  | word (text : String)
  | quoted (kind : Quoted) (text : String)
  | sign (c : Char)
  deriving DecidableEq, Repr

/-- Where the reader is. After a quote that closes a text the text may go on with a second quote. -/
inductive Mode
  | code (word : List Char)
  | inside (kind : Quoted) (text : List Char)
  | closing (kind : Quoted) (text : List Char)

def isWordChar (c : Char) : Bool := c.isAlphanum || c = '_'

/-- The word that the characters read so far make, if there are any. -/
def pending (word : List Char) : List Lexeme :=
  if word.isEmpty then [] else [.word (String.ofList word)]

/-- What a character that belongs to no word and opens no text is read as. Blanks only separate. -/
def signs (c : Char) : List Lexeme := if c.isWhitespace then [] else [.sign c]

/-- What ends with the text. A text that is not closed is none. -/
def finish : Mode → List Lexeme
  | .code word => pending word
  | .inside _ _ => []
  | .closing kind text => [.quoted kind (String.ofList text)]

variable (d : SqlDialect)

def closeOf : Quoted → Char
  | .name => d.closeQuote
  | .literal => '\x27'

def opened? (c : Char) : Option Quoted :=
  if c = d.openQuote then some .name else if c = '\x27' then some .literal else none

def codeStep (word : List Char) (c : Char) : List Lexeme × Mode :=
  if isWordChar c then ([], .code (word ++ [c]))
  else
    match opened? d c with
    | some kind => (pending word, .inside kind [])
    | none => (pending word ++ signs c, .code [])

def step : Mode → Char → List Lexeme × Mode
  | .code word, c => codeStep d word c
  | .inside kind text, c =>
    if c = closeOf d kind then ([], .closing kind text) else ([], .inside kind (text ++ [c]))
  | .closing kind text, c =>
    if c = closeOf d kind then ([], .inside kind (text ++ [c]))
    else (finish (.closing kind text) ++ (codeStep d [] c).1, (codeStep d [] c).2)

def scan : Mode → List Char → List Lexeme
  | mode, [] => finish mode
  | mode, c :: rest => (step d mode c).1 ++ scan (step d mode c).2 rest

def lexemes (sql : String) : List Lexeme := scan d (.code []) sql.toList

variable {d} {rest : List Char}

/-! ### What follows a text -/

/-- Signs that no dialect quotes with. -/
def separators : List Char := [' ', ',', '(', ')', '.']

/-- A text that goes on with no word and no quote. -/
def Separated (rest : List Char) : Prop := ∀ c, rest.head? = some c → c ∈ separators

theorem separated_nil : Separated [] := nofun

theorem separated_cons {c : Char} (h : c ∈ separators) (rest : List Char) : Separated (c :: rest) :=
  fun _ hc => Option.some.inj hc ▸ h

theorem Separated.append {text : List Char} (htext : Separated text) (hrest : Separated rest) :
    Separated (text ++ rest) := by
  cases text with
  | nil => exact hrest
  | cons c text => exact separated_cons (htext c rfl) _

/-- A text that begins with a separator. -/
def isApart (text : String) : Bool := text.toList.head?.any separators.contains

theorem separated_append {first : String} (h : isApart first = true) (second : String) :
    Separated (first ++ second).toList := by
  rw [isApart, Option.any_eq_true] at h
  obtain ⟨c, hc, hseparator⟩ := h
  obtain ⟨text, htext⟩ := List.head?_eq_some_iff.mp hc
  rw [String.toList_append, htext]
  exact separated_cons (List.contains_iff_mem.mp hseparator) _

theorem separated_of_isApart {text : String} (h : isApart text = true) : Separated text.toList :=
  (String.append_empty (s := text)) ▸ separated_append h ""

theorem codeStep_of_separator {c : Char} (h : c ∈ separators) (word : List Char) :
    codeStep d word c = (pending word ++ signs c, .code []) := by
  have hcode : separators.all (fun c => !isWordChar c && (opened? d c).isNone) = true := by
    cases d <;> decide
  have hc := List.all_eq_true.mp hcode c h
  rw [Bool.and_eq_true, Bool.not_eq_true', Option.isNone_iff_eq_none] at hc
  rw [codeStep, if_neg (Bool.eq_false_iff.mp hc.1), hc.2]

theorem ne_closeOf_of_separator {c : Char} (h : c ∈ separators) (kind : Quoted) :
    c ≠ closeOf d kind := by
  have hclose : separators.contains (closeOf d kind) = false := by
    cases kind <;> cases d <;> decide
  rintro rfl
  rw [List.contains_iff_mem.mpr h] at hclose
  cases hclose

theorem scan_word (h : Separated rest) (word : List Char) :
    scan d (.code word) rest = pending word ++ scan d (.code []) rest := by
  cases rest with
  | nil => exact (List.append_nil _).symm
  | cons c rest =>
      have hstep := codeStep_of_separator (d := d) (h c rfl)
      rw [scan, scan, step, step, hstep word, hstep []]
      exact List.append_assoc ..

theorem scan_closing (h : Separated rest) (kind : Quoted) (text : List Char) :
    scan d (.closing kind text) rest =
      .quoted kind (String.ofList text) :: scan d (.code []) rest := by
  cases rest with
  | nil => rfl
  | cons c rest =>
      rw [scan, step, if_neg (ne_closeOf_of_separator (h c rfl) kind)]
      rfl

/-! ### Texts in front of a rest -/

/-- The lexemes of a text in front of anything that does not go on with its last one. -/
def Lexes (d : SqlDialect) (text : String) (ls : List Lexeme) : Prop :=
  ∀ rest, Separated rest → scan d (.code []) (text.toList ++ rest) = ls ++ scan d (.code []) rest

/-- The lexemes of a text in front of anything. -/
def Opens (d : SqlDialect) (text : String) (ls : List Lexeme) : Prop :=
  ∀ rest, scan d (.code []) (text.toList ++ rest) = ls ++ scan d (.code []) rest

section Texts

variable {first second : String} {ls ms : List Lexeme}

theorem Lexes.lexemes_eq (h : Lexes d first ls) : lexemes d first = ls := by
  have hwhole := h [] separated_nil
  rw [List.append_nil] at hwhole
  exact hwhole.trans (List.append_nil ls)

theorem Opens.append (h : Opens d first ls) (hsecond : Lexes d second ms) :
    Lexes d (first ++ second) (ls ++ ms) := by
  intro rest hrest
  rw [String.toList_append, List.append_assoc, h, hsecond rest hrest, List.append_assoc]

theorem Lexes.append (h : Lexes d first ls) (hseparated : Separated second.toList)
    (hsecond : Lexes d second ms) : Lexes d (first ++ second) (ls ++ ms) := by
  intro rest hrest
  rw [String.toList_append, List.append_assoc, h _ (hseparated.append hrest), hsecond rest hrest,
    List.append_assoc]

end Texts

/-! ### Quoted texts -/

theorem scan_doubled (h : Separated rest) (kind : Quoted) (text more : List Char) :
    scan d (.inside kind text) (Text.doubled (closeOf d kind) more ++ closeOf d kind :: rest) =
      .quoted kind (String.ofList (text ++ more)) :: scan d (.code []) rest := by
  -- Each step adds one character to the text read so far, also where its quote stands twice.
  induction more generalizing text with
  | nil =>
      rw [Text.doubled, List.nil_append, scan, step, if_pos rfl, List.append_nil]
      exact scan_closing h kind text
  | cons c more ih =>
      have hnext := ih (text ++ [c])
      rw [List.append_assoc, List.singleton_append] at hnext
      rw [Text.doubled]
      by_cases hclose : c = closeOf d kind
      · subst hclose
        simp only [List.cons_append, scan, step, if_true, List.nil_append]
        exact hnext
      · rw [if_neg hclose]
        simp only [List.cons_append, scan, step, hclose, if_false, List.nil_append]
        exact hnext

theorem lexes_enclosed {opener : Char} {kind : Quoted} (hopener : opened? d opener = some kind)
    (hword : isWordChar opener = false) (text : String) :
    Lexes d (String.ofList (Text.enclosed opener (closeOf d kind) text.toList))
      [.quoted kind text] := by
  intro rest hrest
  rw [String.toList_ofList, Text.enclosed, List.append_assoc, List.singleton_append,
    List.cons_append, scan, step, codeStep, if_neg (Bool.eq_false_iff.mp hword), hopener]
  dsimp only
  rw [scan_doubled hrest, List.nil_append, String.ofList_toList]
  rfl

theorem lexes_quote (name : String) : Lexes d (d.quote name) [.quoted .name name] := by
  have hopened : opened? d d.openQuote = some .name := if_pos rfl
  have hword : isWordChar d.openQuote = false := by cases d <;> rfl
  exact lexes_enclosed hopened hword name

theorem lexes_literal (v : String) : Lexes d (Text.literal v) [.quoted .literal v] := by
  have hopened : opened? d '\x27' = some .literal := by cases d <;> rfl
  exact lexes_enclosed hopened rfl v

/-! ### Code -/

/-- The characters that open or close something in some dialect. -/
def quoteChars : List Char := ['\x60', '\x22', '[', ']', '\x27']

def isCode (c : Char) : Bool := !quoteChars.contains c

/-- The lexemes of a text of code behind the beginning of a word, and the word that it ends with. -/
def run : List Char → List Char → List Lexeme × List Char
  | word, [] => ([], word)
  | word, c :: text =>
    if isWordChar c then run (word ++ [c]) text
    else (pending word ++ signs c ++ (run [] text).1, (run [] text).2)

/-- The lexemes of a text of code. -/
def codeLexemes (text : List Char) : List Lexeme := (run [] text).1 ++ pending (run [] text).2

theorem opened?_of_isCode {c : Char} (h : isCode c = true) : opened? d c = none := by
  simp only [isCode, quoteChars, Bool.not_eq_true', List.contains_eq_mem, List.mem_cons,
    List.not_mem_nil, or_false, decide_eq_false_iff_not, not_or] at h
  cases d <;> simp [opened?, SqlDialect.openQuote, h]

theorem scan_run {text : List Char} (h : text.all isCode = true) (word rest : List Char) :
    scan d (.code word) (text ++ rest) =
      (run word text).1 ++ scan d (.code (run word text).2) rest := by
  induction text generalizing word with
  | nil => rfl
  | cons c text ih =>
      rw [List.all_cons, Bool.and_eq_true] at h
      rw [List.cons_append, scan, step, codeStep, run]
      by_cases hword : isWordChar c = true
      · rw [if_pos hword, if_pos hword]
        exact ih h.2 (word ++ [c])
      · rw [if_neg hword, if_neg hword, opened?_of_isCode h.1]
        dsimp only
        rw [ih h.2 []]
        exact (List.append_assoc ..).symm

section Code

variable {text : String} {ls : List Lexeme} (h : text.toList.all isCode = true)
  (hls : codeLexemes text.toList = ls)

include h hls

theorem lexes_code : Lexes d text ls := by
  intro rest hrest
  rw [← hls, scan_run h, scan_word hrest, codeLexemes, List.append_assoc]

/-- A text of code that ends with no word is read alike in front of anything. -/
theorem opens_code (hend : (run [] text.toList).2 = []) : Opens d text ls := by
  intro rest
  rw [← hls, scan_run h, codeLexemes, hend, pending, List.isEmpty_nil, if_pos rfl, List.append_nil]

end Code

end SqlLexer

end DataAccess
