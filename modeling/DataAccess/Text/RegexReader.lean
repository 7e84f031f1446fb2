import DataAccess.Number.Decimal
import DataAccess.Text.Hex
import DataAccess.Text.Regex
import DataAccess.Text.Split

/-!
Reads regular expressions: literals and escapes, classes, groups, flags, edges, alternatives and
repetitions. Classes inside classes and classes by name are not read.
-/

namespace DataAccess

/-- What an expression can be told of its parts. -/
structure RegexFlags where
  ignoringCase : Bool
  /-- Whether the marks of start and end are those of lines. -/
  multiLine : Bool
  /-- Whether a dot stands for a line feed too. -/
  dotAll : Bool
  deriving DecidableEq, Repr, Inhabited

namespace RegexFlags

def plain : RegexFlags := ⟨false, false, false⟩

/-- Switches the flag of a letter. Some letters change no answer here, and cannot always be off. -/
def set? (on : Bool) (flags : RegexFlags) (letter : Char) : Option RegexFlags :=
  if letter = 'i' then some { flags with ignoringCase := on }
  else if letter = 'm' then some { flags with multiLine := on }
  else if letter = 's' then some { flags with dotAll := on }
  else if letter = 'U' ∨ (letter = 'u' ∧ on) then some flags
  else none

/-- Letters to switch on, and after a hyphen letters to switch off, each once, up to a mark. -/
def read? (flags : RegexFlags) (s : List Char) : Option (RegexFlags × List Char) :=
  let letters := s.takeWhile fun c => c != ':' && c != ')'
  let (on, off) := (Text.splitOnceChars '-' letters).getD (letters, [])
  if letters.eraseDups.length < letters.length ∨ letters.getLast? = some '-' then none
  else
    ((on.foldlM (set? true) flags).bind fun flags => off.foldlM (set? false) flags).map fun flags =>
      (flags, s.drop letters.length)

end RegexFlags

namespace Regex

/-- A character by its number: in braces, or in exactly `width` digits. -/
def numbered? (width : Nat) (s : List Char) : Option (Char × List Char) := do
  let (digits, rest) ← match s with
    | '\x7b' :: rest => Text.splitOnceChars '\x7d' rest
    | s => if s.length < width then none else some (s.take width, s.drop width)
  let values ← digits.mapM Hex.digit?
  let n := values.foldl (fun n digit => 16 * n + digit) 0
  if values.isEmpty ∨ ¬ n.isValidChar then none else some (Char.ofNat n, rest)

/-- What a letter or a sign after a backslash stands for, inside a class and outside. -/
def escaped? (c : Char) : Option CharItem :=
  let only (d : Char) : Option CharItem := some (.range d d)
  if c = 'd' then some (.digit false)
  else if c = 'D' then some (.digit true)
  else if c = 'w' then some (.word false)
  else if c = 'W' then some (.word true)
  else if c = 's' then some (.blank false)
  else if c = 'S' then some (.blank true)
  else if c = 'n' then only '\n'
  else if c = 'r' then only '\r'
  else if c = 't' then only '\t'
  else if c = 'f' then only '\x0c'
  else if c = 'v' then only '\x0b'
  else if c = 'a' then only '\x07'
  else if c.isAlphanum || c = '<' || c = '>' || c.toNat ≥ 0x80 then none
  else only c

/-- What stands after a backslash. -/
def escape? : List Char → Option (CharItem × List Char)
  | 'x' :: rest => (numbered? 2 rest).map fun (c, rest) => (.range c c, rest)
  | 'u' :: rest => (numbered? 4 rest).map fun (c, rest) => (.range c c, rest)
  | 'U' :: rest => (numbered? 8 rest).map fun (c, rest) => (.range c c, rest)
  | c :: rest => (escaped? c).map fun item => (item, rest)
  | [] => none

/-- The next member of a class: a character or an escape. -/
def member? : List Char → Option (CharItem × List Char)
  | '\\' :: rest => escape? rest
  | c :: rest => some (.range c c, rest)
  | [] => none

/-- The members from one character to another. -/
def span? : CharItem → CharItem → Option CharItem
  | .range a b, .range c d => if a = b ∧ c = d ∧ a ≤ c then some (.range a c) else none
  | _, _ => none

/-- The members of a class up to its bracket. -/
def members : Nat → List Char → Option (List CharItem × List Char)
  | 0, _ => none
  | fuel + 1, s =>
    match s with
    | ']' :: rest => some ([], rest)
    | '[' :: _ | '&' :: '&' :: _ | '-' :: '-' :: _ | '~' :: '~' :: _ => none
    | s =>
      match member? s with
      | none => none
      | some (first, '-' :: rest) =>
        if rest.head? = some ']' ∨ rest.head? = some '-' then
          cons first (members fuel ('-' :: rest))
        else
          match member? rest with
          | none => none
          | some (last, rest) => (span? first last).bind fun item => cons item (members fuel rest)
      | some (first, rest) => cons first (members fuel rest)
where
  cons (item : CharItem) (more : Option (List CharItem × List Char)) :
      Option (List CharItem × List Char) :=
    more.map fun (items, rest) => (item :: items, rest)

/-- A class after its opening bracket. A bracket that comes first stands for itself. -/
def class? (flags : RegexFlags) (s : List Char) : Option (Regex × List Char) :=
  let (negated, s) := match s with
    | '^' :: rest => (true, rest)
    | s => (false, s)
  let found := match s with
    | ']' :: rest => members.cons (.range ']' ']') (members s.length rest)
    | s => members (s.length + 1) s
  found.map fun (items, rest) => (.char ⟨negated, flags.ignoringCase, items⟩, rest)

/-- The greatest count of a bounded repetition. -/
def greatestCount : Nat := 1000

/-- The repetition written after an opening brace: least and greatest count. -/
def bounds? (s : List Char) : Option ((Nat × Option Nat) × List Char) :=
  let least := s.takeWhile Decimal.isDigit
  let rest := s.dropWhile Decimal.isDigit
  if least.isEmpty then none
  else
    let n := Decimal.valueOf least
    match rest with
    | '\x7d' :: rest => if n ≤ greatestCount then some ((n, some n), rest) else none
    | ',' :: '\x7d' :: rest => if n ≤ greatestCount then some ((n, none), rest) else none
    | ',' :: rest =>
      let most := rest.takeWhile Decimal.isDigit
      match most, rest.dropWhile Decimal.isDigit with
      | _ :: _, '\x7d' :: rest =>
        let m := Decimal.valueOf most
        if n ≤ m ∧ m ≤ greatestCount then some ((n, some m), rest) else none
      | _, _ => none
    | _ => none

/-- Drops the mark that makes a repetition prefer short matches; it changes no answer here. -/
def dropLazy : List Char → List Char
  | '?' :: rest => rest
  | s => s

/-- The repetitions after an expression. -/
def repeats : Nat → Regex → List Char → Option (Regex × List Char)
  | 0, _, _ => none
  | fuel + 1, r, s =>
    match s with
    | '*' :: rest => repeats fuel (.star r) (dropLazy rest)
    | '+' :: rest => repeats fuel r.plus (dropLazy rest)
    | '?' :: rest => repeats fuel r.optional (dropLazy rest)
    | '\x7b' :: rest =>
      match bounds? rest with
      | none => none
      | some ((least, some most), rest) =>
        repeats fuel (.seq (r.times least) (r.atMost (most - least))) (dropLazy rest)
      | some ((least, none), rest) => repeats fuel (.seq (r.times least) (.star r)) (dropLazy rest)
    | s => some (r, s)

/-- Flags that hold from here to the end of the group. -/
def flagsHere? (flags : RegexFlags) : List Char → Option (RegexFlags × List Char)
  | '(' :: '?' :: c :: rest =>
    match flags.read? (c :: rest) with
    | some (flags, ')' :: rest) => if c = ')' then none else some (flags, rest)
    | _ => none
  | _ => none

/-- The rest after the name of a group. -/
def afterName? (s : List Char) : Option (List Char) :=
  match Text.splitOnceChars '>' s with
  | some (c :: name, rest) =>
    let fits (d : Char) : Bool := d.isAlphanum || ['_', '.', '[', ']'].contains d
    if (c.isAlpha || c = '_') && name.all fits then some rest else none
  | _ => none

/-- The start of a group, and the flags inside it. -/
def groupStart? (flags : RegexFlags) : List Char → Option (RegexFlags × List Char)
  | '(' :: '?' :: 'P' :: '<' :: rest => (afterName? rest).map fun rest => (flags, rest)
  | '(' :: '?' :: '<' :: rest => (afterName? rest).map fun rest => (flags, rest)
  | '(' :: '?' :: rest =>
    match flags.read? rest with
    | some (flags, ':' :: rest) => some (flags, rest)
    | _ => none
  | '(' :: rest => some (flags, rest)
  | _ => none

/-- The edges that a letter after a backslash stands for. -/
def edge? (c : Char) : Option TextEdge :=
  if c = 'A' then some .textStart
  else if c = 'z' then some .textEnd
  else if c = 'b' then some (.word false)
  else if c = 'B' then some (.word true)
  else none

/-- An edge, a dot, a class, an escape or a character. -/
def simple? (flags : RegexFlags) : List Char → Option (Regex × List Char)
  | '[' :: rest => class? flags rest
  | '.' :: rest => some (.char (if flags.dotAll then .any else .anyInLine), rest)
  | '^' :: rest => some (.edge (if flags.multiLine then .lineStart else .textStart), rest)
  | '$' :: rest => some (.edge (if flags.multiLine then .lineEnd else .textEnd), rest)
  | '\\' :: c :: rest =>
    match edge? c with
    | some e => some (.edge e, rest)
    | none =>
      (escape? (c :: rest)).map fun (item, rest) => (.char ⟨false, flags.ignoringCase, [item]⟩, rest)
  | c :: rest =>
    if c ∈ ['*', '+', '?', '\x7b', '\\', '(', ')', '|'] then none
    else some (.char (.single flags.ignoringCase c), rest)
  | [] => none

mutual

/-- Alternatives, up to a closing bracket or the end. -/
def alternatives : Nat → RegexFlags → List Char → Option (Regex × List Char)
  | 0, _, _ => none
  | fuel + 1, flags, s =>
    match sequence fuel flags s with
    | none => none
    | some (first, flags, '|' :: rest) =>
      (alternatives fuel flags rest).map fun (second, rest) => (.alt first second, rest)
    | some (first, _, rest) => some (first, rest)

/-- Expressions one after the other, and the flags at their end. -/
def sequence : Nat → RegexFlags → List Char → Option (Regex × RegexFlags × List Char)
  | 0, _, _ => none
  | fuel + 1, flags, s =>
    match s with
    | [] => some (.empty, flags, [])
    | c :: _ =>
      if c = '|' ∨ c = ')' then some (.empty, flags, s)
      else
        match flagsHere? flags s with
        | some (flags, rest) => sequence fuel flags rest
        | none =>
          match atom fuel flags s with
          | none => none
          | some (first, rest) =>
            match repeats fuel first rest with
            | none => none
            | some (first, rest) =>
              (sequence fuel flags rest).map fun (second, flags, rest) =>
                (.seq first second, flags, rest)

/-- A group or a simple expression. -/
def atom : Nat → RegexFlags → List Char → Option (Regex × List Char)
  | 0, _, _ => none
  | fuel + 1, flags, s =>
    match groupStart? flags s with
    | none => simple? flags s
    | some (inside, rest) =>
      match alternatives fuel inside rest with
      | some (inner, ')' :: rest) => some (inner, rest)
      | _ => none

end

/-- The expression that a whole text writes. -/
def read? (flags : RegexFlags) (s : List Char) : Option Regex :=
  match alternatives (4 * s.length + 4) flags s with
  | some (r, []) => some r
  | _ => none

end Regex

end DataAccess
