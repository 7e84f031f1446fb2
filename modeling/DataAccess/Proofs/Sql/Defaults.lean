import DataAccess.Proofs.Sql.EnumMembers
import DataAccess.Proofs.Text.Parentheses

/-!
# Defaults read from a catalog

A catalog tells a default as an expression, with blanks and parentheses around it. The literal of a text
gives that text back, whatever stands in it. Other expressions are kept as they are without the
parentheses that enclose them, with two exceptions. Parentheses are taken off as long as there is one
at either end, also where the two do not belong together, so `((1)+(2))` is kept as `1)+(2`. And an
expression that begins with `NULL::` is taken for the null value under a cast, also where it goes on.
-/

namespace DataAccess

namespace Introspection

/-! ### Parentheses that are taken off -/

/-- An expression as it is looked at: without blanks and parentheses around it. -/
def stripped (s : List Char) : List Char :=
  stripParens (Text.trimChars s).length (Text.trimChars s)

/-- The default that a stripped expression tells. -/
def defaultOf? (text : List Char) : Option Json :=
  if text.isEmpty || Text.equalIgnoringCase (String.ofList text) "null" ||
      Text.startsWith text "NULL::".toList then none
  else if Text.startsWith text ['\x27'] then
    (Text.literals (String.ofList text)).head?.map .string
  else
    match Coercion.number? (String.ofList text) with
    | some n => some (.number n)
    | none => some (.string (String.ofList text))

theorem defaultValue?_eq (raw : String) :
    defaultValue? raw = defaultOf? (stripped raw.toList) := by
  cases hnumber : Coercion.number? (String.ofList (stripped raw.toList)) <;>
    simp only [stripped] at hnumber <;>
    simp only [defaultValue?, defaultOf?, stripped, hnumber]

section Stripped

open Text (parenthesized Wrapped Trimmed trimChars)

variable {s text before after : List Char}

theorem stripParens_parenthesized (fuel : Nat) (s : List Char) :
    stripParens (fuel + 1) (parenthesized s) = stripParens fuel (trimChars s) := by
  rw [parenthesized, stripParens, Text.dropEnd?_append]

theorem stripParens_of_bare (h : ∀ s, text ≠ parenthesized s) (fuel : Nat) :
    stripParens fuel text = text := by
  cases fuel with
  | zero => rfl
  | succ fuel =>
      unfold stripParens
      split
      next rest =>
        split
        next inner hinner =>
          exact absurd (congrArg ('(' :: ·) (Text.dropEnd?_eq_some_iff.mp hinner)) (h inner)
        next => rfl
      next => rfl

/-- Any fuel that covers the text takes the same parentheses off. -/
theorem stripParens_of_le (fuel fuel' : Nat) (hfuel : text.length ≤ fuel)
    (hfuel' : text.length ≤ fuel') : stripParens fuel text = stripParens fuel' text := by
  induction fuel generalizing fuel' text with
  | zero =>
      obtain rfl := List.length_eq_zero_iff.mp (Nat.le_zero.mp hfuel)
      have hbare : ∀ s, [] ≠ parenthesized s := fun s => List.cons_ne_nil _ _ |>.symm
      rw [stripParens_of_bare hbare, stripParens_of_bare hbare]
  | succ fuel ih =>
      by_cases hpair : ∃ s, text = parenthesized s
      · obtain ⟨s, rfl⟩ := hpair
        have hshorter := Text.length_trimChars_le s
        simp only [parenthesized, List.length_cons, List.length_append, List.length_nil] at hfuel hfuel'
        obtain ⟨more, rfl⟩ : ∃ more, fuel' = more + 1 := ⟨fuel' - 1, by omega⟩
        rw [stripParens_parenthesized, stripParens_parenthesized]
        exact ih more (by omega) (by omega)
      · have hbare : ∀ s, text ≠ parenthesized s := fun s heq => hpair ⟨s, heq⟩
        rw [stripParens_of_bare hbare, stripParens_of_bare hbare]

theorem trimmed_parenthesized (s : List Char) : Trimmed (parenthesized s) := by
  constructor
  · intro c hc
    obtain rfl := Option.some.inj hc
    decide
  · intro c hc
    rw [parenthesized, ← List.cons_append, List.getLast?_append] at hc
    obtain rfl := Option.some.inj hc
    decide

theorem stripped_parenthesized (s : List Char) : stripped (parenthesized s) = stripped s := by
  obtain ⟨hfirst, hlast⟩ := trimmed_parenthesized s
  have hlength : (parenthesized s).length = s.length + 1 + 1 := Text.length_parenthesized s
  rw [stripped, Text.trimChars_of_ends hfirst hlast, hlength, stripParens_parenthesized, stripped]
  have hshorter := Text.length_trimChars_le s
  exact stripParens_of_le _ _ (by omega) (Nat.le_refl _)

theorem stripped_of_wrapped (h : Wrapped text s) : stripped s = stripped text := by
  induction h with
  | bare => rfl
  | blanks hbefore hafter _ ih => rw [stripped, Text.trimChars_between hbefore hafter, ← stripped, ih]
  | pair _ ih => rw [stripped_parenthesized, ih]

theorem stripped_of_bare (htrimmed : Trimmed text) (hbare : ∀ s, text ≠ parenthesized s) :
    stripped text = text := by
  rw [stripped, Text.trimChars_of_ends htrimmed.1 htrimmed.2, stripParens_of_bare hbare]

theorem length_stripParens_le (fuel : Nat) (s : List Char) :
    (stripParens fuel s).length ≤ s.length := by
  induction fuel generalizing s with
  | zero => exact Nat.le_refl _
  | succ fuel ih =>
      by_cases hpair : ∃ inner, s = parenthesized inner
      · obtain ⟨inner, rfl⟩ := hpair
        calc (stripParens (fuel + 1) (parenthesized inner)).length
            = (stripParens fuel (trimChars inner)).length := by rw [stripParens_parenthesized]
          _ ≤ (trimChars inner).length := ih _
          _ ≤ inner.length := Text.length_trimChars_le inner
          _ ≤ (parenthesized inner).length := by
            rw [Text.length_parenthesized]
            omega
      · have hbare : ∀ inner, s ≠ parenthesized inner := fun inner heq => hpair ⟨inner, heq⟩
        exact Nat.le_of_eq (congrArg List.length (stripParens_of_bare hbare (fuel + 1)))

theorem length_stripped_le (s : List Char) : (stripped s).length ≤ s.length :=
  Nat.le_trans (length_stripParens_le _ _) (Text.length_trimChars_le s)

end Stripped

/-! ### Rows of a catalog -/

/-- Whether a catalog says of a column that its values are generated. -/
def isGenerated (row : Record) : Bool :=
  Text.occursIn "auto_increment".toList
    (Text.lower (Cell.textOr "" (cell row "extra"))).toList

/-- A row that tells a default gives the column at its place this default. -/
theorem exists_default_of_row {d : SqlDialect} {field raw : String} {row : Record}
    (hfield : Cell.text? (cell row "field") = some field)
    (hraw : cell row "default_value" = .string raw) (hgenerated : isGenerated row = false)
    (table : String) (before after forward backward : List Record) :
    ∃ (s : Schema) (c : Column), schema d table (before ++ row :: after) forward backward = .ok s ∧
      s.columns[(before.filterMap (column? d)).length]? = some c ∧ c.field = field ∧
      c.default = defaultValue? raw := by
  obtain ⟨read, hread, hname, hdefault⟩ : ∃ read, column? d row = some read ∧ read.field = field ∧
      read.default = defaultValue? raw := by
    rw [column?, hfield, Option.map_some]
    refine ⟨_, rfl, rfl, ?_⟩
    dsimp only
    rw [← isGenerated, hgenerated, hraw]
    rfl
  obtain ⟨s, hs, hplace⟩ := exists_column_of_row hread table before after forward backward
  obtain ⟨c, hc, hsame⟩ := Option.map_eq_some_iff.mp hplace
  exact ⟨s, c, hs, hc, (congrArg Column.field hsame).trans hname,
    (congrArg Column.default hsame).trans hdefault⟩

/-! ### Literals -/

section Literals

variable {v : String} {text rest : List Char}

/-- The literal of a text, under a cast if there is one. -/
def castLiteral (d : SqlDialect) (v : String) (cast : Option String) : List Char :=
  (d.literal (.string v)).toList ++ (cast.map fun type => "::".toList ++ type.toList).getD []

theorem startsWith_singleton (c : Char) (s : List Char) :
    Text.startsWith s [c] = true ↔ s.head? = some c := by
  cases s with
  | nil => simp [Text.startsWith, Text.dropStart?]
  | cons d s =>
      by_cases h : c = d
      · simp [Text.startsWith, Text.dropStart?, h]
      · simp [Text.startsWith, Text.dropStart?, h, Ne.symm h]

theorem toList_literal (v : String) :
    (Text.literal v).toList = '\x27' :: (Text.doubled '\x27' v.toList ++ ['\x27']) := by
  rw [Text.literal, String.toList_ofList, Text.enclosed, List.cons_append]

/-- A literal ends in no blank, so only what follows it is trimmed. -/
theorem exists_trimRight_literal (v : String) (more : List Char) :
    ∃ rest, Text.trimRight ((Text.literal v).toList ++ more) = (Text.literal v).toList ++ rest ∧
      rest <+: more := by
  obtain ⟨after, hafter, hsplit⟩ := Text.exists_trimRight ((Text.literal v).toList ++ more)
  rcases List.append_eq_append_iff.mp hsplit with ⟨rest, htrim, hmore⟩ | ⟨cut, hliteral, hcut⟩
  · exact ⟨rest, htrim, hmore ▸ List.prefix_append rest after⟩
  · rcases List.eq_nil_or_concat cut with rfl | ⟨init, last, rfl⟩
    · rw [List.append_nil] at hliteral
      exact ⟨[], hliteral.symm.trans (List.append_nil _).symm, List.nil_prefix⟩
    · -- The quote at the end of the literal would be among the blanks behind.
      have hlast := congrArg List.getLast? hliteral
      rw [toList_literal, ← List.cons_append, List.getLast?_append, List.concat_eq_append,
        ← List.append_assoc, List.getLast?_append] at hlast
      have hquote : last = '\x27' := (Option.some.inj hlast).symm
      have hblank := hafter last (by rw [hcut]; simp)
      rw [hquote] at hblank
      exact absurd hblank (by decide)

theorem stripped_castLiteral (d : SqlDialect) (v : String) (cast : Option String) :
    ∃ rest, stripped (castLiteral d v cast) = (Text.literal v).toList ++ rest ∧
      rest.head? ≠ some '\x27' := by
  obtain ⟨more, hmore, hhead⟩ : ∃ more, castLiteral d v cast = (Text.literal v).toList ++ more ∧
      more.head? ≠ some '\x27' := by
    refine ⟨_, rfl, ?_⟩
    cases cast with
    | none => exact nofun
    | some type => simp
  obtain ⟨rest, htrim, hprefix⟩ := exists_trimRight_literal v more
  have hfirst : ∀ c ∈ ((Text.literal v).toList ++ more).head?, Text.isBlank c = false := by
    rw [toList_literal]
    intro c hc
    obtain rfl := Option.some.inj hc
    decide
  have hbare : ∀ s, (Text.literal v).toList ++ rest ≠ Text.parenthesized s := by
    rw [toList_literal]
    intro s heq
    exact absurd (List.cons.inj heq).1 (by decide)
  refine ⟨rest, ?_, fun hrest => hhead ?_⟩
  · rw [hmore, stripped, Text.trimChars, Text.trimLeft_of_head hfirst, htrim,
      stripParens_of_bare hbare]
  · obtain ⟨tail, rfl⟩ := hprefix
    rw [List.head?_append, hrest]
    rfl

theorem quote_ne_null (more : List Char) :
    Text.equalIgnoringCase (String.ofList ('\x27' :: more)) "null" = false := by
  rw [Text.equalIgnoringCase, beq_eq_false_iff_ne]
  intro heq
  have hchars := congrArg String.toList heq
  rw [Text.lower, Text.lower, String.toList_ofList, String.toList_ofList, String.toList_ofList,
    List.map_cons] at hchars
  exact absurd (List.cons.inj hchars).1 (by decide)

theorem defaultOf?_literal (hrest : rest.head? ≠ some '\x27') :
    defaultOf? ((Text.literal v).toList ++ rest) = some (.string v) := by
  have hhead : ((Text.literal v).toList ++ rest).head? = some '\x27' := by
    rw [toList_literal]
    rfl
  have hliterals : Text.literals (String.ofList ((Text.literal v).toList ++ rest)) =
      v :: (Text.literalsIn rest).map String.ofList := by
    rw [Text.literals, String.toList_ofList, Text.literalsIn_literal hrest, List.map_cons,
      String.ofList_toList]
  obtain ⟨more, hmore⟩ := List.head?_eq_some_iff.mp hhead
  have hother : ((((Text.literal v).toList ++ rest).isEmpty ||
      Text.equalIgnoringCase (String.ofList ((Text.literal v).toList ++ rest)) "null") ||
        Text.startsWith ((Text.literal v).toList ++ rest) "NULL::".toList) = false := by
    rw [hmore, quote_ne_null]
    simp [Text.startsWith, Text.dropStart?]
  rw [defaultOf?, hother, if_neg Bool.false_ne_true, if_pos ((startsWith_singleton _ _).mpr hhead),
    hliterals]
  rfl

end Literals

/-- **Texts as defaults.** The literal of any text, under a cast or not, with any number of parentheses
and blanks around it, gives the column at the place of its row that text as its default. -/
theorem string_default_kept (d : SqlDialect) (v : String) (cast : Option String) (raw : String)
    (hraw : Text.Wrapped (castLiteral d v cast) raw.toList) (table field : String) (row : Record)
    (before after forward backward : List Record)
    (hfield : Cell.text? (cell row "field") = some field)
    (hdefault : cell row "default_value" = .string raw) (hgenerated : isGenerated row = false) :
    ∃ (s : Schema) (c : Column), schema d table (before ++ row :: after) forward backward = .ok s ∧
      s.columns[(before.filterMap (column? d)).length]? = some c ∧ c.field = field ∧
      c.default = some (.string v) := by
  obtain ⟨s, c, hs, hc, hname, hvalue⟩ := exists_default_of_row (d := d) hfield hdefault hgenerated
    table before after forward backward
  obtain ⟨rest, hstripped, hrest⟩ := stripped_castLiteral d v cast
  refine ⟨s, c, hs, hc, hname, ?_⟩
  calc c.default = defaultOf? (stripped raw.toList) := hvalue.trans (defaultValue?_eq raw)
    _ = defaultOf? (stripped (castLiteral d v cast)) := by rw [stripped_of_wrapped hraw]
    _ = defaultOf? ((Text.literal v).toList ++ rest) := by rw [hstripped]
    _ = some (.string v) := defaultOf?_literal hrest

/-- A text that looks like the null value, with a quote and parentheses in it and blanks at its ends. -/
theorem string_default_kept_null :
    let raw := "( ('NULL)::x it''s ( '::text)\n)"
    let row : Record := [("default_value", .string raw), ("field", .string "state")]
    Text.Wrapped (castLiteral .postgres "NULL)::x it\x27s ( " (some "text")) raw.toList ∧
    ∃ (s : Schema) (c : Column), schema .postgres "orders" [row] [] [] = .ok s ∧
      s.columns[0]? = some c ∧ c.field = "state" ∧
      c.default = some (.string "NULL)::x it\x27s ( ") := by
  intro raw row
  have hraw : raw.toList = Text.parenthesized ([' '] ++
      Text.parenthesized (castLiteral .postgres "NULL)::x it\x27s ( " (some "text")) ++ ['\n']) := by
    decide
  have hwrapped : Text.Wrapped (castLiteral .postgres "NULL)::x it\x27s ( " (some "text"))
      raw.toList := by
    rw [hraw]
    exact .pair (.blanks (List.forall_mem_singleton.mpr rfl) (List.forall_mem_singleton.mpr rfl)
      (.pair .bare))
  exact ⟨hwrapped, string_default_kept .postgres _ _ raw hwrapped "orders" "state" row [] [] [] [] rfl
    rfl (by decide)⟩

/-! ### Other expressions -/

section Expressions

variable {text : List Char}

theorem length_takeLiteral_le (s : List Char) : (Text.takeLiteral s).1.length ≤ s.length := by
  fun_induction Text.takeLiteral s with
  | case1 => exact Nat.le_refl _
  | case2 rest text after hread ih =>
      rw [hread] at ih
      simp only [List.length_cons] at ih ⊢
      omega
  | case3 rest hquote => exact Nat.zero_le _
  | case4 c rest hquote hc text after hread ih =>
      rw [hread] at ih
      exact Nat.succ_le_succ ih

theorem length_le_of_mem_literalsIn {s w : List Char} (h : w ∈ Text.literalsIn s) :
    w.length ≤ s.length := by
  fun_induction Text.literalsIn s with
  | case1 => cases h
  | case2 rest ih =>
      rcases List.mem_cons.mp h with rfl | hmore
      · exact Nat.le_succ_of_le (length_takeLiteral_le rest)
      · have hrest := Text.takeLiteral_length rest
        have hw := ih hmore
        rw [List.length_cons]
        omega
  | case3 c rest hc ih => exact Nat.le_succ_of_le (ih h)

/-- No default is longer than the expression that tells it. -/
theorem length_le_of_defaultOf? {v : List Char}
    (h : defaultOf? text = some (.string (String.ofList v))) : v.length ≤ text.length := by
  rw [defaultOf?] at h
  split at h
  · cases h
  · split at h
    · obtain ⟨w, hw, hv⟩ := Option.map_eq_some_iff.mp h
      obtain ⟨chars, hchars, rfl⟩ := List.mem_map.mp (List.mem_of_mem_head? hw)
      rw [String.toList_ofList] at hchars
      obtain rfl := String.ofList_injective (Json.string.inj hv)
      exact length_le_of_mem_literalsIn hchars
    · split at h
      · cases h
      · obtain rfl := String.ofList_injective (Json.string.inj (Option.some.inj h))
        exact Nat.le_refl _

theorem defaultOf?_eq_self_iff (hne : text ≠ [])
    (hnull : Text.equalIgnoringCase (String.ofList text) "null" = false)
    (hquote : text.head? ≠ some '\x27') (hnumber : Coercion.number? (String.ofList text) = none) :
    defaultOf? text = some (.string (String.ofList text)) ↔
      Text.startsWith text "NULL::".toList = false := by
  have hfull : text.isEmpty = false := by rwa [List.isEmpty_eq_false_iff]
  rw [defaultOf?, hfull, hnull, Bool.false_or, Bool.false_or]
  cases hcast : Text.startsWith text "NULL::".toList with
  | true => exact iff_of_false nofun nofun
  | false =>
      rw [if_neg Bool.false_ne_true, if_neg fun h => hquote ((startsWith_singleton _ _).mp h), hnumber]
      exact iff_of_true rfl rfl

/-- A text with a parenthesis at either end, whether the two belong together or not. -/
def HasParensAtEnds (text : List Char) : Prop := text.head? = some '(' ∧ text.getLast? = some ')'

theorem hasParensAtEnds_iff : HasParensAtEnds text ↔ ∃ inner, text = Text.parenthesized inner := by
  constructor
  · rintro ⟨hfirst, hlast⟩
    obtain ⟨more, rfl⟩ := List.head?_eq_some_iff.mp hfirst
    rcases List.eq_nil_or_concat more with rfl | ⟨inner, last, rfl⟩
    · exact absurd (Option.some.inj hlast) (by decide)
    · rw [List.concat_eq_append, ← List.cons_append, List.getLast?_append] at hlast
      obtain rfl := Option.some.inj hlast
      exact ⟨inner, by rw [List.concat_eq_append, Text.parenthesized]⟩
  · rintro ⟨inner, rfl⟩
    refine ⟨rfl, ?_⟩
    rw [Text.parenthesized, ← List.cons_append, List.getLast?_append]
    rfl

theorem length_stripped_lt (h : HasParensAtEnds text) : (stripped text).length < text.length := by
  obtain ⟨inner, rfl⟩ := hasParensAtEnds_iff.mp h
  calc (stripped (Text.parenthesized inner)).length
      = (stripped inner).length := by rw [stripped_parenthesized]
    _ ≤ inner.length := length_stripped_le inner
    _ < (Text.parenthesized inner).length := by
      rw [Text.length_parenthesized]
      omega

end Expressions

/-- **Expressions as defaults.** From every expression whose parentheses match those that enclose all of
it can be taken off. If what is left is neither empty, nor the null value, nor a number and begins with
no literal, it is the default of the column, exactly if it has not a parenthesis at either end and does
not begin as the null value under a cast. -/
theorem expression_default_kept_iff (d : SqlDialect) (e : String) :
    ((∃ text, Text.Unwrapped text e.toList) ↔ Text.Balanced e.toList) ∧
    ∀ text, Text.Unwrapped text e.toList → text ≠ [] →
      Text.equalIgnoringCase (String.ofList text) "null" = false → text.head? ≠ some '\x27' →
      Coercion.number? (String.ofList text) = none →
      ∀ (table field : String) (row : Record) (before after forward backward : List Record),
        Cell.text? (cell row "field") = some field → cell row "default_value" = .string e →
        isGenerated row = false →
        ∃ (s : Schema) (c : Column),
          schema d table (before ++ row :: after) forward backward = .ok s ∧
          s.columns[(before.filterMap (column? d)).length]? = some c ∧ c.field = field ∧
          (c.default = some (.string (String.ofList text)) ↔
            ¬HasParensAtEnds text ∧ Text.startsWith text "NULL::".toList = false) := by
  refine ⟨Text.exists_unwrapped_iff e.toList, ?_⟩
  intro text h hne hnull hquote hnumber table field row before after forward backward hfield hdefault
    hgenerated
  obtain ⟨s, c, hs, hc, hname, hvalue⟩ := exists_default_of_row (d := d) hfield hdefault hgenerated
    table before after forward backward
  refine ⟨s, c, hs, hc, hname, ?_⟩
  rw [hvalue, defaultValue?_eq, stripped_of_wrapped h.wrapped]
  by_cases hends : HasParensAtEnds text
  · -- What is stripped is shorter, and no default is longer than the text that tells it.
    refine iff_of_false (fun hkept => ?_) fun hboth => hboth.1 hends
    have hshorter := length_stripped_lt hends
    have hlength := length_le_of_defaultOf? hkept
    omega
  · have hbare : ∀ inner, text ≠ Text.parenthesized inner := fun inner heq =>
      hends (hasParensAtEnds_iff.mpr ⟨inner, heq⟩)
    rw [stripped_of_bare h.trimmed hbare, defaultOf?_eq_self_iff hne hnull hquote hnumber,
      and_iff_right hends]

/-- A call with a literal in which a parenthesis stands, in two pairs that enclose all of it. -/
theorem expression_default_kept_call :
    let e := "( (lower(code) || ')') )"
    let row : Record := [("default_value", .string e), ("field", .string "label")]
    Text.Unwrapped "lower(code) || ')'".toList e.toList ∧
    ∃ (s : Schema) (c : Column), schema .sqlite "items" [row] [] [] = .ok s ∧
      s.columns[0]? = some c ∧ c.field = "label" ∧
      c.default = some (.string "lower(code) || ')'") := by
  intro e row
  have he : e.toList = Text.parenthesized
      ([' '] ++ Text.parenthesized "lower(code) || ')'".toList ++ [' ']) := by decide
  have hunwrapped : Text.Unwrapped "lower(code) || ')'".toList e.toList := by
    refine ⟨?_, by decide, by decide, ?_⟩
    · rw [he]
      exact .pair (.blanks (List.forall_mem_singleton.mpr rfl) (List.forall_mem_singleton.mpr rfl)
        (.pair .bare))
    · intro inner _ heq
      exact absurd (List.cons.inj heq).1 (by decide)
  obtain ⟨s, c, hs, hc, hfield, hiff⟩ := (expression_default_kept_iff .sqlite e).2 _ hunwrapped
    (by decide) (by decide +kernel) (by decide) (by decide +kernel) "items" "label" row [] [] [] [] rfl
    rfl (by decide)
  refine ⟨hunwrapped, s, c, hs, hc, hfield, hiff.mpr ⟨?_, by decide⟩⟩
  exact fun hends => absurd hends.1 (by decide)

/-- Two sums in parentheses: the first is closed before the second is opened, but the ends are cut off,
and what is kept is no longer balanced. -/
theorem sum_default_cut :
    let row : Record := [("default_value", .string "((1)+(2))"), ("field", .string "total")]
    Text.Unwrapped "(1)+(2)".toList "((1)+(2))".toList ∧
    ∃ (s : Schema) (c : Column), schema .mssql "orders" [row] [] [] = .ok s ∧
      s.columns[0]? = some c ∧ c.default = some (.string "1)+(2") ∧
      ¬Text.Balanced "1)+(2".toList := by
  intro row
  have hunwrapped : Text.Unwrapped "(1)+(2)".toList "((1)+(2))".toList := by
    refine ⟨?_, by decide, by decide, ?_⟩
    · have hpair : "((1)+(2))".toList = Text.parenthesized "(1)+(2)".toList := by decide
      rw [hpair]
      exact .pair .bare
    · intro inner hinner heq
      have hends : "(1)+(2)".toList = Text.parenthesized "1)+(2".toList := by decide
      rw [hends, Text.parenthesized, Text.parenthesized, List.cons_inj_right,
        List.append_cancel_right_eq] at heq
      rw [← heq] at hinner
      exact absurd hinner (by decide)
  have hfield : Cell.text? (cell row "field") = some "total" := rfl
  have hraw : cell row "default_value" = .string "((1)+(2))" := rfl
  obtain ⟨s, c, hs, hc, -, hdefault⟩ := exists_default_of_row (d := .mssql) hfield hraw (by decide)
    "orders" [] [] [] []
  have hcut : defaultValue? "((1)+(2))" = some (.string "1)+(2") := by decide +kernel
  exact ⟨hunwrapped, s, c, hs, hc, hdefault.trans hcut, by decide⟩

end Introspection

end DataAccess
