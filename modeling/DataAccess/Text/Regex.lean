import DataAccess.Text.Blank
import DataAccess.Text.Folding
import DataAccess.Text.Word

/-!
Regular expressions and the texts that they match. A match may begin and end anywhere unless the
expression says otherwise; the end of the text is no line break.
-/

namespace DataAccess

/-- A part of a class of characters. -/
inductive CharItem
  | range (first last : Char)
  | digit (negated : Bool)
  | word (negated : Bool)
  | blank (negated : Bool)
  deriving DecidableEq, Repr, Inhabited

structure CharClass where
  negated : Bool
  /-- Whether characters that differ in case alone count as one. -/
  ignoringCase : Bool
  items : List CharItem
  deriving DecidableEq, Repr, Inhabited

namespace CharItem

def contains (c : Char) : CharItem → Bool
  | range first last => decide (first ≤ c ∧ c ≤ last)
  | digit negated => Text.isDecimal c != negated
  | word negated => Text.isWordChar c != negated
  | blank negated => Text.isBlank c != negated

end CharItem

namespace CharClass

/-- The class of one character. -/
def single (ignoringCase : Bool) (c : Char) : CharClass := ⟨false, ignoringCase, [.range c c]⟩

/-- Every character but the line feed. -/
def anyInLine : CharClass := ⟨true, false, [.range '\n' '\n']⟩

/-- Every character. -/
def any : CharClass := ⟨true, false, []⟩

def holds (k : CharClass) (c : Char) : Bool := k.items.any (CharItem.contains c)

/-- Whether a character is in a class. -/
def contains (k : CharClass) (c : Char) : Bool :=
  let held := if k.ignoringCase then (Text.caseVariants c).any k.holds || k.holds c else k.holds c
  held != k.negated

end CharClass

/-- A condition on a place between two characters. -/
inductive TextEdge
  | textStart
  | textEnd
  | lineStart
  | lineEnd
  /-- A word begins or ends here. -/
  | word (negated : Bool)
  deriving DecidableEq, Repr, Inhabited

/-- Whether the condition holds between the character before, if there is one, and the rest. -/
def TextEdge.holds (before : Option Char) (rest : List Char) : TextEdge → Bool
  | textStart => before.isNone
  | textEnd => rest.isEmpty
  | lineStart => before.all (· == '\n')
  | lineEnd => rest.head?.all (· == '\n')
  | word negated => (before.any Text.isWordChar != rest.head?.any Text.isWordChar) != negated

inductive Regex
  | empty
  | char (k : CharClass)
  | edge (e : TextEdge)
  | seq (first second : Regex)
  | alt (first second : Regex)
  | star (inner : Regex)
  deriving DecidableEq, Repr, Inhabited

namespace Regex

/-- The character that stands before the rest of a text. -/
def before? (text rest : List Char) : Option Char :=
  if rest.length < text.length then text[text.length - rest.length - 1]? else none

/-- Repeats a step, at least never and each time on a shorter rest, until the rest satisfies `next`. -/
def repeated (step : List Char → (List Char → Bool) → Bool) (next : List Char → Bool) :
    Nat → List Char → Bool
  | 0, s => next s
  | fuel + 1, s =>
    next s || step s fun rest => decide (rest.length < s.length) && repeated step next fuel rest

/-- Whether the expression matches some beginning of `s`, a rest of `text`, so that what follows
satisfies `next`. -/
def accepts (text : List Char) : Regex → List Char → (List Char → Bool) → Bool
  | empty, s, next => next s
  | char _, [], _ => false
  | char k, c :: rest, next => k.contains c && next rest
  | edge e, s, next => e.holds (before? text s) s && next s
  | seq first second, s, next =>
    accepts text first s fun rest => accepts text second rest next
  | alt first second, s, next => accepts text first s next || accepts text second s next
  | star inner, s, next => repeated (fun s next => accepts text inner s next) next s.length s

/-- Whether the expression matches at the beginning of some rest of `s`. -/
def acceptsFrom (text : List Char) (r : Regex) : List Char → Bool
  | [] => accepts text r [] fun _ => true
  | c :: rest => accepts text r (c :: rest) (fun _ => true) || acceptsFrom text r rest

/-- Whether the expression matches anywhere in a text. -/
def occursIn (r : Regex) (text : List Char) : Bool := acceptsFrom text r text

def plus (r : Regex) : Regex := .seq r (.star r)

def optional (r : Regex) : Regex := .alt r .empty

/-- The expression `n` times. -/
def times (r : Regex) : Nat → Regex
  | 0 => .empty
  | n + 1 => .seq r (times r n)

/-- The expression at most `n` times. -/
def atMost (r : Regex) : Nat → Regex
  | 0 => .empty
  | n + 1 => optional (.seq r (atMost r n))

end Regex

end DataAccess
