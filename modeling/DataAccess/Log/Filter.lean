import DataAccess.Log
import DataAccess.Number.Reader
import DataAccess.Text.Blank
import DataAccess.Text.Case
import DataAccess.Text.Split
import DataAccess.Text.Word

/-!
Filters of the log. A filter is a list of directives between commas; each names a level, a target, or
a target with a level. The most specific directive whose target begins the target of an entry decides
about it, and an entry that no directive concerns is dropped.
-/

namespace DataAccess

namespace LogArea

/-- The name under which directives know the area. -/
def target : LogArea → String
  | query => "datasource_engine::query"
  | relations => "datasource_engine::relations"
  | sql => "datasource_engine::db::sql"
  | catalog => "datasource_engine::db::sql::catalog"
  | document => "datasource_engine::db::document"
  | rest => "datasource_engine::db::rest"
  | sqlite => "datasource_engine::db::sqlite"

end LogArea

/-- How much passes: nothing, or a level and all that is graver. -/
structure LogThreshold where
  level : Option LogLevel
  deriving DecidableEq, Repr, Inhabited

namespace LogThreshold

def off : LogThreshold := ⟨none⟩

def upTo (level : LogLevel) : LogThreshold := ⟨some level⟩

/-- All thresholds in the order of their numbers. -/
def all : List LogThreshold :=
  [off, upTo .error, upTo .warn, upTo .info, upTo .debug, upTo .trace]

def name (t : LogThreshold) : String :=
  match t.level with
  | some level => Text.lower level.name
  | none => "off"

def passes (t : LogThreshold) (level : LogLevel) : Bool :=
  t.level.any fun most => level.rank ≤ most.rank

/-- A threshold by its number, or by its name in any letter case. -/
def ofChars? (s : List Char) : Option LogThreshold :=
  match (Decimal.readNat? s).bind fun n => all[n]? with
  | some t => some t
  | none => all.find? fun t => Text.equalIgnoringCase t.name (String.ofList s)

/-- What stands after a sign of equality; nothing there stands for everything. -/
def ofSetting? (s : List Char) : Option LogThreshold :=
  if s.isEmpty then some (upTo .trace) else ofChars? s

end LogThreshold

/-- A directive. An empty target begins every target. Entries lie outside all spans, so a directive
with a span concerns none. -/
structure LogDirective where
  target : List Char
  span : Option (List Char)
  fields : List (List Char)
  threshold : LogThreshold
  deriving DecidableEq, Repr, Inhabited

namespace LogDirective

/-- What stands before the first of two characters, and what begins with it. -/
def cutAt (a b : Char) (s : List Char) : List Char × List Char :=
  (s.takeWhile fun c => c != a && c != b, s.dropWhile fun c => c != a && c != b)

/-- What follows the closing bracket of a span: nothing, or a threshold. -/
def afterSpan? (target : List Char) (span : Option (List Char)) (fields : List (List Char)) :
    List Char → Option LogDirective
  | [] => some ⟨target, span, fields, .upTo .trace⟩
  | '=' :: rest => (LogThreshold.ofSetting? rest).map fun t => ⟨target, span, fields, t⟩
  | _ => none

/-- The inside of square brackets and what follows: a span, fields in braces, or both. -/
def ofSpan? (target s : List Char) : Option LogDirective :=
  match cutAt ']' '\x7b' s with
  | (name, ']' :: rest) => afterSpan? target (some name) [] rest
  | (name, '\x7b' :: rest) =>
    match Text.splitOnceChars '\x7d' rest with
    | some (inside, ']' :: after) =>
      let fields := Text.splitChars ',' inside
      if fields.any List.isEmpty then none
      else afterSpan? target (if name.isEmpty then none else some name) fields after
    | _ => none
  | _ => none

/-- A single word is a threshold, or else a target of which everything passes. -/
def ofWord (word : List Char) : LogDirective :=
  match LogThreshold.ofChars? word with
  | some t => ⟨[], none, [], t⟩
  | none => ⟨word, none, [], .upTo .trace⟩

def startsWord (c : Char) : Bool := Text.isWordChar c || c == '-' || c == ':'

def ofChars? (s : List Char) : Option LogDirective :=
  match s with
  | [] => none
  | '[' :: rest => ofSpan? [] rest
  | c :: _ =>
    if !startsWord c then none
    else
      match cutAt '=' '[' s with
      | (word, '=' :: rest) =>
        (LogThreshold.ofSetting? rest).map fun t => ⟨word, none, [], t⟩
      | (word, '[' :: rest) => ofSpan? word rest
      | (word, _) => some (ofWord word)

/-- The fields that every entry has. -/
def entryFields : List String :=
  ["message", "log.target", "log.module_path", "log.file", "log.line"]

def concerns (d : LogDirective) (entry : LogEntry) : Bool :=
  d.span.isNone && Text.startsWith entry.area.target.toList d.target
    && d.fields.all fun field => entryFields.contains (String.ofList field)

/-- Whether two directives are about the same entries, so that the later replaces the other. -/
def sameScope (a b : LogDirective) : Bool :=
  a.target == b.target && a.span == b.span && a.fields == b.fields

def specificity (d : LogDirective) : Nat × Nat :=
  ((String.ofList d.target).utf8ByteSize, d.fields.length)

/-- The longer target goes first, then the one with more fields, then the later in the alphabet. -/
def precedes (a b : LogDirective) : Bool :=
  let (m, k) := a.specificity
  let (n, l) := b.specificity
  if m != n then n < m
  else if k != l then l < k
  else decide (String.ofList b.target < String.ofList a.target)

/-- What stands in brackets: the span, and its fields in braces. -/
def spanText (d : LogDirective) : String :=
  if d.span.isNone && d.fields.isEmpty then ""
  else
    let fields :=
      if d.fields.isEmpty then ""
      else "\x7b" ++ Text.join "," (d.fields.map String.ofList) ++ "\x7d"
    "[" ++ String.ofList (d.span.getD []) ++ fields ++ "]"

def text (d : LogDirective) : String :=
  let scope := String.ofList d.target ++ d.spanText
  if scope = "" then d.threshold.name else scope ++ "=" ++ d.threshold.name

end LogDirective

structure LogFilter where
  directives : List LogDirective
  deriving DecidableEq, Repr, Inhabited

namespace LogFilter

/-- Puts a directive in its place among those that are sorted by how specific they are. -/
def place (d : LogDirective) : List LogDirective → List LogDirective
  | [] => [d]
  | e :: rest =>
    if d.sameScope e then d :: rest
    else if d.precedes e then d :: e :: rest
    else e :: place d rest

/-- The filter that a text describes. Parts that are empty are passed over. -/
def ofText? (s : String) : Option LogFilter := do
  let parts := (Text.splitChars ',' s.toList).filter fun part => !part.isEmpty
  let directives ← parts.mapM fun part => LogDirective.ofChars? (Text.trimChars part)
  return ⟨directives.foldl (fun placed d => place d placed) []⟩

/-- The usual filter. -/
def standard : LogFilter := ⟨[⟨[], none, [], .upTo .info⟩]⟩

/-- The filter of the environment; one that cannot be read counts as none. -/
def ofEnvironment (value : Option String) : LogFilter := (value.bind ofText?).getD standard

def text (f : LogFilter) : String := Text.join "," (f.directives.map LogDirective.text)

def passes (f : LogFilter) (entry : LogEntry) : Bool :=
  (f.directives.find? fun d => d.concerns entry).any fun d => d.threshold.passes entry.level

end LogFilter

end DataAccess
