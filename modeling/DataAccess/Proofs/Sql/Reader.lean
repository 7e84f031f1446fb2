import DataAccess.Sql.Statement

/-!
# Reading the text of a statement

A reader that knows a dialect's quotes and placeholders, and nothing of how statements are made. It
goes through a text once, skips literals, and tells the names and the placeholders in their order.
-/

namespace DataAccess

namespace SqlText

/-- What a statement refers to: a name of its own, a name after a dot, the name of a type after a
cast, or the placeholder of a value with its number if it shows one. -/
inductive Token
  | name (identifier : String)
  | member (identifier : String)
  | type (identifier : String)
  | mark (index : Option Nat)
  deriving DecidableEq, Repr

/-- What stands directly before a character of code. -/
inductive Lead
  | plain
  | dot
  | colon
  | cast
  deriving DecidableEq, Repr

def Lead.after (lead : Lead) (c : Char) : Lead :=
  if c = '.' then .dot else if c = ':' then (if lead = .colon then .cast else .colon) else .plain

def Lead.token : Lead → String → Token
  | plain, identifier | colon, identifier => .name identifier
  | dot, identifier => .member identifier
  | cast, identifier => .type identifier

/-- Where the reader is. After a quote that closes a name the name may go on with a second quote. -/
inductive Mode
  | code (lead : Lead)
  | name (lead : Lead) (text : List Char)
  | closing (lead : Lead) (text : List Char)
  | literal
  | sign
  | digits (text : List Char)

/-- What ends with the text, or before a character that does not go on with it. -/
def finish : Mode → List Token
  | .closing lead text => [lead.token (String.ofList text)]
  | .digits (c :: text) => [.mark (some (Nat.ofDigitChars 10 (c :: text) 0))]
  | _ => []

variable (d : SqlDialect)

/-- The start of a placeholder: the whole of it, or the sign before its number. -/
def placeholderStart? (c : Char) : Option (List Token × Mode) :=
  match d with
  | .mysql | .sqlite => if c = '?' then some ([.mark none], .code .plain) else none
  | .postgres => if c = '$' then some ([], .digits []) else none
  | .mssql => if c = '@' then some ([], .sign) else none
  | .oracle => if c = ':' then some ([], .digits []) else none

def codeStep (lead : Lead) (c : Char) : List Token × Mode :=
  if c = d.openQuote then ([], .name lead [])
  else if c = '\x27' then ([], .literal)
  else (placeholderStart? d c).getD ([], .code (lead.after c))

/-- Ends what a mode holds and goes on with code. -/
def settledStep (mode : Mode) (c : Char) : List Token × Mode :=
  (finish mode ++ (codeStep d .plain c).1, (codeStep d .plain c).2)

def step : Mode → Char → List Token × Mode
  | .code lead, c => codeStep d lead c
  | .name lead text, c =>
    if c = d.closeQuote then ([], .closing lead text) else ([], .name lead (text ++ [c]))
  | .closing lead text, c =>
    if c = d.closeQuote then ([], .name lead (text ++ [c]))
    else settledStep d (.closing lead text) c
  | .literal, c => ([], if c = '\x27' then .code .plain else .literal)
  | .sign, c => if c = 'P' then ([], .digits []) else settledStep d .sign c
  | .digits text, c =>
    if c.isDigit then ([], .digits (text ++ [c])) else settledStep d (.digits text) c

def scan : Mode → List Char → List Token
  | mode, [] => finish mode
  | mode, c :: rest => (step d mode c).1 ++ scan (step d mode c).2 rest

/-- The names and the placeholders of a text. -/
def tokens (sql : String) : List Token := scan d (.code .plain) sql.toList

/-! ### What the tokens say -/

/-- The placeholders in their order. -/
def marks : List Token → List (Option Nat)
  | [] => []
  | .mark index :: rest => index :: marks rest
  | _ :: rest => marks rest

/-- The names before the first placeholder. -/
def namesBefore : List Token → List String
  | .name identifier :: rest | .member identifier :: rest => identifier :: namesBefore rest
  | .type _ :: rest => namesBefore rest
  | _ => []

/-- The column that was named last, as the list of the names that dots join. -/
def follow (reference : List String) : Token → List String
  | .name identifier => [identifier]
  | .member identifier => reference ++ [identifier]
  | .type _ | .mark _ => reference

/-- The placeholders, each with the column that was named last before it. -/
def owners : List String → List Token → List (Option Nat × List String)
  | _, [] => []
  | reference, .mark index :: rest => (index, reference) :: owners reference rest
  | reference, t :: rest => owners (follow reference t) rest

theorem map_fst_owners (reference : List String) (tokens : List Token) :
    (owners reference tokens).map (·.1) = marks tokens := by
  induction tokens generalizing reference with
  | nil => rfl
  | cons t rest ih => cases t <;> simp [owners, marks, ih]

/-! ### Names -/

variable {d} {lead : Lead} {rest : List Char}

/-- A text that goes on with neither a name nor a number before it. -/
def Breaks (d : SqlDialect) (rest : List Char) : Prop :=
  ∀ c, rest.head? = some c → c ≠ d.closeQuote ∧ c.isDigit = false

theorem scan_closing (h : Breaks d rest) (text : List Char) :
    scan d (.closing lead text) rest =
      lead.token (String.ofList text) :: scan d (.code .plain) rest := by
  cases rest with
  | nil => rfl
  | cons c rest =>
      have hclose := (h c rfl).1
      rw [scan, step, if_neg hclose]
      rfl

theorem scan_doubled (h : Breaks d rest) (text name : List Char) :
    scan d (.name lead text) (Text.doubled d.closeQuote name ++ d.closeQuote :: rest) =
      lead.token (String.ofList (text ++ name)) :: scan d (.code .plain) rest := by
  -- Each step adds one character to the name read so far, also where the text has a quote twice.
  induction name generalizing text with
  | nil =>
      rw [Text.doubled, List.nil_append, scan, step, if_pos rfl, List.append_nil]
      exact scan_closing h text
  | cons c name ih =>
      have hnext := ih (text ++ [c])
      rw [List.append_assoc, List.singleton_append] at hnext
      rw [Text.doubled]
      by_cases hclose : c = d.closeQuote
      · subst hclose
        simp only [List.cons_append, scan, step, if_true, List.nil_append]
        exact hnext
      · rw [if_neg hclose]
        simp only [List.cons_append, scan, step, hclose, if_false, List.nil_append]
        exact hnext

theorem scan_quote (h : Breaks d rest) (identifier : String) :
    scan d (.code lead) ((d.quote identifier).toList ++ rest) =
      lead.token identifier :: scan d (.code .plain) rest := by
  have hdoubled : scan d (.name lead [])
        (Text.doubled d.closeQuote identifier.toList ++ d.closeQuote :: rest) =
      lead.token identifier :: scan d (.code .plain) rest := by
    rw [scan_doubled h, List.nil_append, String.ofList_toList]
  rw [SqlDialect.quote, Text.quoteIdentifier, String.toList_ofList, Text.enclosed, List.append_assoc,
    List.singleton_append, List.cons_append, scan, step, codeStep, if_pos rfl, List.nil_append]
  exact hdoubled

/-! ### Code -/

/-- The characters that start or end something in some dialect. -/
def signs : List Char := ['\x60', '\x22', '[', ']', '\x27', '?', '$', '@', ':', '.']

def isPlain (c : Char) : Bool := !signs.contains c

theorem codeStep_of_isPlain {c : Char} (h : isPlain c = true) (lead : Lead) :
    codeStep d lead c = ([], .code .plain) := by
  simp only [isPlain, signs, Bool.not_eq_true', List.contains_eq_mem, List.mem_cons, List.not_mem_nil,
    or_false, decide_eq_false_iff_not, not_or] at h
  cases d <;> simp [codeStep, SqlDialect.openQuote, placeholderStart?, Lead.after, h]

/-- A text without names and placeholders. -/
def Silent (d : SqlDialect) (text : List Char) : Prop :=
  ∀ rest, scan d (.code .plain) (text ++ rest) = scan d (.code .plain) rest

theorem scan_cons_of_isPlain {c : Char} (h : isPlain c = true) (lead : Lead) (rest : List Char) :
    scan d (.code lead) (c :: rest) = scan d (.code .plain) rest := by
  rw [scan, step, codeStep_of_isPlain h, List.nil_append]

theorem silent_of_isPlain {text : List Char} (h : text.all isPlain = true) : Silent d text := by
  intro rest
  induction text with
  | nil => rfl
  | cons c text ih =>
      rw [List.all_cons, Bool.and_eq_true] at h
      rw [List.cons_append, scan_cons_of_isPlain h.1]
      exact ih h.2

/-- Characters of a class that no sign belongs to. -/
theorem isPlain_of_signs_not {among : Char → Bool} (hsigns : signs.all (!among ·) = true) {c : Char}
    (h : among c = true) : isPlain c = true := by
  rw [isPlain, Bool.not_eq_true', List.contains_eq_mem, decide_eq_false_iff_not]
  intro hsign
  have hnot := List.all_eq_true.mp hsigns c hsign
  rw [h] at hnot
  cases hnot

theorem isPlain_of_isDigit {c : Char} (h : c.isDigit = true) : isPlain c = true :=
  isPlain_of_signs_not (by decide) h

/-! ### Placeholders -/

theorem scan_digits (h : Breaks d rest) {text : List Char} (htext : text ≠ []) :
    scan d (.digits text) rest =
      .mark (some (Nat.ofDigitChars 10 text 0)) :: scan d (.code .plain) rest := by
  obtain ⟨first, more, rfl⟩ := List.exists_cons_of_ne_nil htext
  cases rest with
  | nil => rfl
  | cons c rest =>
      have hdigit := (h c rfl).2
      rw [scan, step, hdigit]
      rfl

theorem scan_digits_append (text digits rest : List Char)
    (hdigits : ∀ c ∈ digits, c.isDigit = true) :
    scan d (.digits text) (digits ++ rest) = scan d (.digits (text ++ digits)) rest := by
  induction digits generalizing text with
  | nil => rw [List.append_nil, List.nil_append]
  | cons c digits ih =>
      have hnext := ih (text ++ [c]) fun c hc => hdigits c (List.mem_cons_of_mem _ hc)
      rw [List.cons_append, scan, step, if_pos (hdigits c List.mem_cons_self), List.nil_append,
        hnext, List.append_assoc, List.singleton_append]

theorem scan_number (h : Breaks d rest) (n : Nat) :
    scan d (.digits []) (n.repr.toList ++ rest) =
      .mark (some n) :: scan d (.code .plain) rest := by
  have hdigits : ∀ c ∈ Nat.toDigits 10 n, c.isDigit = true := fun c hc =>
    Nat.isDigit_of_mem_toDigits (by decide) (by decide) hc
  rw [Nat.toList_repr, scan_digits_append [] _ _ hdigits, List.nil_append,
    scan_digits h Nat.toDigits_ne_nil, Nat.ofDigitChars_toDigits (by decide) (by decide)]

/-- The number that the placeholder of a position shows. -/
def shownIndex (d : SqlDialect) (n : Nat) : Option Nat :=
  match d with
  | .mysql | .sqlite => none
  | .postgres | .mssql | .oracle => some n

/-- The type that a placeholder is cast to, if it has to be quoted. -/
def quotedType? (d : SqlDialect) (column : Option Column) : Option String :=
  match d, column with
  | .postgres, some c => if c.type = .enum then c.extra.nativeType else none
  | _, _ => none

def placeholderTokens (d : SqlDialect) (n : Nat) (column : Option Column) : List Token :=
  .mark (shownIndex d n) :: ((quotedType? d column).map .type).toList

/-- A text that is code and not empty. -/
def IsCode (text : String) : Prop := text.toList ≠ [] ∧ text.toList.all isPlain = true

theorem isCode_of_isPlainTypeName {native : String}
    (h : SqlDialect.isPlainTypeName native = true) : IsCode native := by
  rw [SqlDialect.isPlainTypeName, Bool.and_eq_true, decide_eq_true_eq, List.all_eq_true] at h
  obtain ⟨hne, hall⟩ := h
  have hsigns : signs.all (fun sign =>
      !(('a' ≤ sign && sign ≤ 'z') || ('0' ≤ sign && sign ≤ '9') || sign = '_')) = true := by decide
  refine ⟨fun hnil => hne (String.toList_eq_nil_iff.mp hnil), List.all_eq_true.mpr ?_⟩
  exact fun c hc => isPlain_of_signs_not hsigns (hall c hc)

theorem castType_cases (column : Column) :
    (∃ native, quotedType? .postgres (some column) = some native ∧
      SqlDialect.postgres.castType column = SqlDialect.postgres.quote native) ∨
    (quotedType? .postgres (some column) = none ∧ IsCode (SqlDialect.postgres.castType column)) := by
  have hplain : ∀ fallback : String, IsCode fallback →
      IsCode ((column.extra.nativeType.filter SqlDialect.isPlainTypeName).getD fallback) := by
    intro fallback hfallback
    cases hfilter : column.extra.nativeType.filter SqlDialect.isPlainTypeName with
    | none => exact hfallback
    | some native => exact isCode_of_isPlainTypeName (Option.filter_eq_some_iff.mp hfilter).2
  rw [quotedType?, SqlDialect.castType]
  cases column.type with
  | enum =>
      cases column.extra.nativeType with
      | none => exact .inr ⟨rfl, by decide, by decide⟩
      | some native => exact .inl ⟨native, rfl, rfl⟩
  | number => exact .inr ⟨rfl, hplain "numeric" ⟨by decide, by decide⟩⟩
  | boolean => exact .inr ⟨rfl, hplain "boolean" ⟨by decide, by decide⟩⟩
  | date => exact .inr ⟨rfl, hplain "timestamp" ⟨by decide, by decide⟩⟩
  | json => exact .inr ⟨rfl, hplain "jsonb" ⟨by decide, by decide⟩⟩
  | string | unknown => exact .inr ⟨rfl, hplain "text" ⟨by decide, by decide⟩⟩

theorem scan_cast (h : Breaks .postgres rest) (column : Column) :
    scan .postgres (.code .plain)
        ("::".toList ++ ((SqlDialect.postgres.castType column).toList ++ rest)) =
      ((quotedType? .postgres (some column)).map .type).toList ++
        scan .postgres (.code .plain) rest := by
  have hcast : ∀ text, scan .postgres (.code .plain) ("::".toList ++ text) =
      scan .postgres (.code .cast) text := fun _ => rfl
  rw [hcast]
  rcases castType_cases column with ⟨native, hquoted, htype⟩ | ⟨hquoted, hne, hall⟩
  · rw [hquoted, htype]
    exact scan_quote h native
  · -- The first character of a bare type ends what the colons began.
    obtain ⟨c, text, htext⟩ := List.exists_cons_of_ne_nil hne
    rw [htext] at hall
    have hsilent := silent_of_isPlain (d := .postgres) hall rest
    rw [List.all_cons, Bool.and_eq_true] at hall
    rw [List.cons_append, scan_cons_of_isPlain hall.1] at hsilent
    rw [hquoted, htext, List.cons_append, scan_cons_of_isPlain hall.1]
    exact hsilent

theorem scan_numbered (sign : String)
    (hsign : ∀ text, scan d (.code .plain) (sign.toList ++ text) = scan d (.digits []) text)
    (h : Breaks d rest) (n : Nat) :
    scan d (.code .plain) ((sign ++ n.repr).toList ++ rest) =
      .mark (some n) :: scan d (.code .plain) rest := by
  rw [String.toList_append, List.append_assoc, hsign]
  exact scan_number h n

/-- A placeholder is read as such, with its number, in front of a text that does not go on with it. -/
theorem scan_placeholder (h : Breaks d rest) (n : Nat) (column : Option Column) :
    scan d (.code .plain) ((d.placeholder n column).toList ++ rest) =
      placeholderTokens d n column ++ scan d (.code .plain) rest := by
  cases d with
  | mysql =>
      rw [SqlDialect.placeholder]
      rfl
  | sqlite =>
      rw [SqlDialect.placeholder]
      rfl
  | mssql =>
      have htext : SqlDialect.placeholder .mssql n column = "@P" ++ n.repr := rfl
      rw [htext, scan_numbered "@P" (fun _ => rfl) h]
      rfl
  | postgres =>
    have hsign : ∀ text, scan .postgres (.code .plain) ("$".toList ++ text) =
        scan .postgres (.digits []) text := fun _ => rfl
    cases column with
    | none =>
        have htext : SqlDialect.placeholder .postgres n none = "$" ++ n.repr := rfl
        rw [htext, scan_numbered "$" hsign h]
        rfl
    | some column =>
        have htext : SqlDialect.placeholder .postgres n (some column) =
            "$" ++ n.repr ++ "::" ++ SqlDialect.postgres.castType column := rfl
        have hbreaks : Breaks .postgres
            ("::".toList ++ ((SqlDialect.postgres.castType column).toList ++ rest)) := by
          rintro c ⟨⟩
          decide
        rw [htext, String.toList_append, String.toList_append, List.append_assoc, List.append_assoc,
          scan_numbered "$" hsign hbreaks, scan_cast h column]
        rfl
  | oracle =>
      have hsign : ∀ text, scan .oracle (.code .plain) (":".toList ++ text) =
          scan .oracle (.digits []) text := fun _ => rfl
      by_cases hdate : (column.any fun c => c.type == .date) = true
      · have htext : SqlDialect.placeholder .oracle n column =
            "TO_TIMESTAMP(" ++ (":" ++ n.repr) ++ ", 'YYYY-MM-DD HH24:MI:SS')" := by
          rw [SqlDialect.placeholder, if_pos hdate, ← String.append_assoc]
          rfl
        have hbreaks : Breaks .oracle (", 'YYYY-MM-DD HH24:MI:SS')".toList ++ rest) := by
          rintro c ⟨⟩
          decide
        have hlead : Silent .oracle "TO_TIMESTAMP(".toList := silent_of_isPlain (by decide)
        have hformat : Silent .oracle ", 'YYYY-MM-DD HH24:MI:SS')".toList := fun _ => rfl
        rw [htext, String.toList_append, String.toList_append, List.append_assoc, List.append_assoc,
          hlead, scan_numbered ":" hsign hbreaks, hformat]
        rfl
      · have htext : SqlDialect.placeholder .oracle n column = ":" ++ n.repr := by
          rw [SqlDialect.placeholder, if_neg hdate]
          rfl
        rw [htext, scan_numbered ":" hsign h]
        rfl

end SqlText

end DataAccess

