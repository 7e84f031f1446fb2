import DataAccess.Proofs.Sql.Reader

/-!
# The values of a statement and the columns they belong to

The pieces of a statement say in advance how its text is read: each value belongs to the column that
was named last before it. What pieces say is put together from what their parts say.
-/

namespace DataAccess

open SqlText

/-- A value to bind, and the column that it belongs to as the list of the names that dots join. -/
structure Slot where
  reference : List String
  value : SqlValue
  deriving DecidableEq, Repr

namespace Slot

/-- The placeholders of slots, the first of which has the number `n`, and their columns. -/
def numbered (d : SqlDialect) : Nat → List Slot → List (Option Nat × List String)
  | _, [] => []
  | n, slot :: rest => (shownIndex d n, slot.reference) :: numbered d (n + 1) rest

theorem length_numbered (d : SqlDialect) (n : Nat) (slots : List Slot) :
    (numbered d n slots).length = slots.length := by
  induction slots generalizing n with
  | nil => rfl
  | cons slot rest ih => rw [numbered, List.length_cons, List.length_cons, ih]

theorem map_fst_numbered (d : SqlDialect) (n : Nat) (slots : List Slot) :
    (numbered d n slots).map (·.1) = (List.range' n slots.length).map (shownIndex d) := by
  induction slots generalizing n with
  | nil => rfl
  | cons slot rest ih =>
      rw [numbered, List.map_cons, ih, List.length_cons, List.range'_succ, List.map_cons]

end Slot

namespace Statement

/-- The text of a statement, `next` being the number of the next placeholder. -/
def chars (d : SqlDialect) (next : Nat) (s : Statement) : List Char :=
  (texts d next s).flatMap String.toList

theorem toList_compile (d : SqlDialect) (s : Statement) :
    (compile d s).sql.toList = chars d 1 s := by
  rw [compile, String.toList_join, chars]

theorem values_append (s t : Statement) : values (s ++ t) = values s ++ values t := by
  induction s with
  | nil => rfl
  | cons p rest ih => cases p <;> simp [values, ih]

/-- The names before the first value. -/
def leadingNames : Statement → List String
  | .code _ :: rest => leadingNames rest
  | .name identifier :: rest => identifier :: leadingNames rest
  | _ => []

variable {d : SqlDialect} {n : Nat} {rest : Statement}

theorem chars_code (text : String) :
    chars d n (.code text :: rest) = text.toList ++ chars d n rest := rfl

theorem chars_name (identifier : String) :
    chars d n (.name identifier :: rest) = (d.quote identifier).toList ++ chars d n rest := rfl

theorem chars_value (column : Option Column) (value : SqlValue) :
    chars d n (.value column value :: rest) =
      (d.placeholder n column).toList ++ chars d (n + 1) rest := rfl

/-- A name, a dot and another name. -/
theorem scan_qualified {table column : String} {text : List Char}
    (h : Breaks d (chars d n rest ++ text)) :
    scan d (.code .plain)
        (chars d n (.name table :: .code "." :: .name column :: rest) ++ text) =
      .name table :: .member column :: scan d (.code .plain) (chars d n rest ++ text) := by
  have hdot : ∀ more, scan d (.code .plain) (".".toList ++ more) = scan d (.code .dot) more := by
    cases d <;> exact fun _ => rfl
  have hbreaks : Breaks d (".".toList ++ ((d.quote column).toList ++ (chars d n rest ++ text))) := by
    rintro c ⟨⟩
    cases d <;> decide
  rw [chars_name, chars_code, chars_name]
  simp only [List.append_assoc]
  rw [scan_quote hbreaks, hdot, scan_quote h]
  rfl

/-! ### Statements that may follow a name or a value -/

/-- The quotes that close a name in some dialect. -/
def closingQuotes : List Char := ['\x60', '\x22', ']']

/-- A text whose first character goes on with neither a name nor a number. -/
def starts (text : String) : Bool :=
  text.toList.head?.any fun c => !closingQuotes.contains c && !c.isDigit

/-- A statement whose text goes on with neither a name nor a number before it. -/
def Opens (d : SqlDialect) (s : Statement) : Prop := ∀ n, Breaks d (chars d n s)

theorem breaks_of_starts {text : String} (h : starts text = true) (rest : List Char) :
    Breaks d (text.toList ++ rest) := by
  rw [starts] at h
  cases htext : text.toList with
  | nil =>
      rw [htext] at h
      cases h
  | cons first more =>
      rw [htext] at h
      simp only [List.head?_cons, Option.any_some, Bool.and_eq_true, Bool.not_eq_true',
        closingQuotes, List.contains_eq_mem, List.mem_cons, List.not_mem_nil, or_false,
        decide_eq_false_iff_not, not_or] at h
      rintro c ⟨⟩
      refine ⟨?_, h.2⟩
      cases d <;> simp [SqlDialect.closeQuote, h.1]

theorem breaks_append {first second : List Char} (hfirst : Breaks d first)
    (hsecond : Breaks d second) : Breaks d (first ++ second) := by
  cases first with
  | nil => exact hsecond
  | cons c rest => exact hfirst

theorem opens_nil : Opens d [] := by
  rintro n c ⟨⟩

theorem opens_code {text : String} (h : starts text = true) (rest : Statement) :
    Opens d (.code text :: rest) :=
  fun n => breaks_of_starts h (chars d n rest)

theorem opens_singleton_code {text : String} (h : text = "" ∨ starts text = true) :
    Opens d [.code text] := by
  rcases h with rfl | h
  · rintro n c ⟨⟩
  · exact opens_code h []

/-- How many placeholders a statement has. -/
def width : Statement → Nat
  | [] => 0
  | .code _ :: rest | .name _ :: rest => width rest
  | .value .. :: rest | .out :: rest => width rest + 1

theorem chars_append (d : SqlDialect) (n : Nat) (s t : Statement) :
    chars d n (s ++ t) = chars d n s ++ chars d (n + width s) t := by
  induction s generalizing n with
  | nil => rfl
  | cons p rest ih =>
      have hnext : n + (width rest + 1) = n + 1 + width rest := by omega
      simp only [chars] at ih
      cases p <;> simp [chars, texts, width, ih, hnext]

theorem Opens.append {s t : Statement} (hs : Opens d s) (ht : Opens d t) : Opens d (s ++ t) := by
  intro n
  rw [chars_append]
  exact breaks_append (hs n) (ht _)

end Statement

open Statement

/-! ### What pieces say -/

/-- Pieces that, read after a column was named, bind the values of some slots, each of which belongs
to the column that was named last, and leave another column as the last one. -/
inductive Binds (d : SqlDialect) : List String → Statement → List Slot → List String → Prop
  | nil (reference : List String) : Binds d reference [] [] reference
  | code {reference after : List String} {text : String} {rest : Statement} {slots : List Slot}
    (hsilent : Silent d text.toList) (h : Binds d reference rest slots after) :
    Binds d reference (.code text :: rest) slots after
  | name {reference after : List String} {identifier : String} {rest : Statement}
    {slots : List Slot} (hopens : Opens d rest) (h : Binds d [identifier] rest slots after) :
    Binds d reference (.name identifier :: rest) slots after
  | qualified {reference after : List String} {table column : String} {rest : Statement}
    {slots : List Slot} (hopens : Opens d rest) (h : Binds d [table, column] rest slots after) :
    Binds d reference (.name table :: .code "." :: .name column :: rest) slots after
  | value {reference after : List String} {column : Option Column} {value : SqlValue}
    {rest : Statement} {slots : List Slot} (hopens : Opens d rest)
    (h : Binds d reference rest slots after) :
    Binds d reference (.value column value :: rest) (⟨reference, value⟩ :: slots) after

namespace Binds

variable {d : SqlDialect} {reference middle after : List String} {s t : Statement}
  {slots more : List Slot}

theorem plain {text : String} (hplain : text.toList.all isPlain = true)
    (h : Binds d reference s slots after) : Binds d reference (.code text :: s) slots after :=
  .code (silent_of_isPlain hplain) h

theorem append (hs : Binds d reference s slots middle) (ht : Binds d middle t more after)
    (hopens : Opens d t) : Binds d reference (s ++ t) (slots ++ more) after := by
  induction hs with
  | nil => exact ht
  | code hsilent _ ih => exact .code hsilent (ih ht)
  | name hrest _ ih => exact .name (hrest.append hopens) (ih ht)
  | qualified hrest _ ih => exact .qualified (hrest.append hopens) (ih ht)
  | value hrest _ ih => exact .value (hrest.append hopens) (ih ht)

theorem values_eq (h : Binds d reference s slots after) : values s = slots.map (·.value) := by
  induction h with
  | nil => rfl
  | code _ _ ih | name _ _ ih | qualified _ _ ih => exact ih
  | value _ _ ih => exact congrArg (_ :: ·) ih

theorem width_eq (h : Binds d reference s slots after) : width s = slots.length := by
  induction h with
  | nil => rfl
  | code _ _ ih | name _ _ ih | qualified _ _ ih => exact ih
  | value _ _ ih => exact congrArg (· + 1) ih

/-- The text of the pieces is read as the pieces say, whatever it goes on with. -/
theorem owners_scan (h : Binds d reference s slots after) (n : Nat) {text : List Char}
    (htext : Breaks d text) :
    owners reference (scan d (.code .plain) (chars d n s ++ text)) =
      Slot.numbered d n slots ++ owners after (scan d (.code .plain) text) := by
  induction h generalizing n with
  | nil => rfl
  | code hsilent _ ih =>
      rw [chars_code, List.append_assoc, hsilent]
      exact ih n
  | name hopens _ ih =>
      rw [chars_name, List.append_assoc, scan_quote (breaks_append (hopens n) htext)]
      exact ih n
  | qualified hopens _ ih =>
      rw [scan_qualified (breaks_append (hopens n) htext)]
      exact ih n
  | @value reference _ column _ rest _ hopens _ ih =>
      rw [chars_value, List.append_assoc,
        scan_placeholder (breaks_append (hopens (n + 1)) htext), placeholderTokens, List.cons_append,
        owners, Slot.numbered, List.cons_append]
      -- The type of a cast is quoted like a name, but it is not the column of what follows.
      have htype : ∀ tokens,
          owners reference (((quotedType? d column).map Token.type).toList ++ tokens) =
            owners reference tokens := by
        intro tokens
        cases quotedType? d column <;> rfl
      rw [htype, ih (n + 1)]

theorem namesBefore_scan (h : Binds d reference s slots after) (hslots : slots ≠ []) (n : Nat)
    {text : List Char} (htext : Breaks d text) :
    namesBefore (scan d (.code .plain) (chars d n s ++ text)) = leadingNames s := by
  induction h generalizing n with
  | nil => exact absurd rfl hslots
  | code hsilent _ ih =>
      rw [chars_code, List.append_assoc, hsilent]
      exact ih hslots n
  | name hopens _ ih =>
      rw [chars_name, List.append_assoc, scan_quote (breaks_append (hopens n) htext)]
      exact congrArg (_ :: ·) (ih hslots n)
  | qualified hopens _ ih =>
      rw [scan_qualified (breaks_append (hopens n) htext)]
      exact congrArg (_ :: _ :: ·) (ih hslots n)
  | value hopens _ ih =>
      rw [chars_value, List.append_assoc, scan_placeholder (breaks_append (hopens (n + 1)) htext)]
      rfl

theorem marks_scan (h : Binds d reference s slots after) (n : Nat) {text : List Char}
    (htext : Breaks d text) :
    marks (scan d (.code .plain) (chars d n s ++ text)) =
      (List.range' n slots.length).map (shownIndex d) ++ marks (scan d (.code .plain) text) := by
  rw [← map_fst_owners reference, h.owners_scan n htext, List.map_append, Slot.map_fst_numbered,
    map_fst_owners]

end Binds

/-! ### Pieces that name their columns -/

/-- Pieces that name the column of every value they bind, whatever was named before them. -/
def Owns (d : SqlDialect) (s : Statement) (slots : List Slot) : Prop :=
  ∀ reference, ∃ after, Binds d reference s slots after

namespace Owns

variable {d : SqlDialect} {s t rest : Statement} {slots more : List Slot}

theorem nil : Owns d [] [] := fun reference => ⟨reference, .nil reference⟩

theorem append (hs : Owns d s slots) (ht : Owns d t more) (hopens : Opens d t) :
    Owns d (s ++ t) (slots ++ more) := by
  intro reference
  obtain ⟨middle, hs⟩ := hs reference
  obtain ⟨after, ht⟩ := ht middle
  exact ⟨after, hs.append ht hopens⟩

theorem code {text : String} (hsilent : Silent d text.toList) (h : Owns d rest slots) :
    Owns d (.code text :: rest) slots := by
  intro reference
  obtain ⟨after, h⟩ := h reference
  exact ⟨after, .code hsilent h⟩

theorem plain {text : String} (hplain : text.toList.all isPlain = true) (h : Owns d rest slots) :
    Owns d (.code text :: rest) slots :=
  .code (silent_of_isPlain hplain) h

theorem name (identifier : String) (hopens : Opens d rest) (h : Owns d rest slots) :
    Owns d (.name identifier :: rest) slots := by
  intro reference
  obtain ⟨after, h⟩ := h [identifier]
  exact ⟨after, .name hopens h⟩

theorem qualified (table column : String) (hopens : Opens d rest) (h : Owns d rest slots) :
    Owns d (.name table :: .code "." :: .name column :: rest) slots := by
  intro reference
  obtain ⟨after, h⟩ := h [table, column]
  exact ⟨after, .qualified hopens h⟩

/-- Pieces that end in code. -/
theorem append_code {text : String} (h : Owns d s slots) (hstarts : starts text = true)
    (hsilent : Silent d text.toList) : Owns d (s ++ [.code text]) slots := by
  have happend := h.append (code hsilent nil) (opens_code hstarts [])
  rwa [List.append_nil] at happend

variable {α : Type} {pieces : α → Statement}

theorem separated (separator : String) (hstarts : starts separator = true)
    (hplain : separator.toList.all isPlain = true) (own : α → List Slot) (l : List α)
    (h : ∀ x ∈ l, Owns d (pieces x) (own x)) :
    Owns d (Statement.separated separator (l.map pieces)) (l.flatMap own) := by
  induction l with
  | nil => exact nil
  | cons first rest ih =>
      have hfirst := h first List.mem_cons_self
      have hrest := ih fun x hx => h x (List.mem_cons_of_mem first hx)
      cases rest with
      | nil => simpa [Statement.separated] using hfirst
      | cons second rest => exact hfirst.append (plain hplain hrest) (opens_code hstarts _)

/-- A list of pieces that bind nothing. -/
theorem separated_nil (separator : String) (hstarts : starts separator = true)
    (hplain : separator.toList.all isPlain = true) (l : List α)
    (h : ∀ x ∈ l, Owns d (pieces x) []) :
    Owns d (Statement.separated separator (l.map pieces)) [] := by
  have hall := separated separator hstarts hplain (fun _ => []) l h
  rwa [List.flatMap_eq_nil_iff.mpr fun _ _ => rfl] at hall

theorem flatMap (own : α → List Slot) (l : List α)
    (h : ∀ x ∈ l, Owns d (pieces x) (own x) ∧ Opens d (pieces x)) :
    Owns d (l.flatMap pieces) (l.flatMap own) ∧ Opens d (l.flatMap pieces) := by
  induction l with
  | nil => exact ⟨nil, opens_nil⟩
  | cons first rest ih =>
      obtain ⟨hfirst, hopens⟩ := h first List.mem_cons_self
      obtain ⟨hrest, hopensRest⟩ := ih fun x hx => h x (List.mem_cons_of_mem first hx)
      exact ⟨hfirst.append hrest hopensRest, hopens.append hopensRest⟩

end Owns

end DataAccess
