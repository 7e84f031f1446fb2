import DataAccess.Proofs.Sql.Catalog
import DataAccess.Proofs.Text.Quoted
import DataAccess.Sql.Definition

/-!
# Enums read from a catalog

The members of an enum are read back, in their order, from the type that declares them and from the
check that a table is created with. They are lost if an angle bracket stands anywhere in the fragment:
it is then taken for the check of a range, also where the bracket belongs to a member or to the name
of the column.
-/

namespace DataAccess

namespace SqlDialect

/-- What the check of an enum column asks for. -/
def checkBody (d : SqlDialect) (c : Column) : String :=
  d.quote c.field ++ " IN (" ++ c.enumLiterals ++ ")"

/-- The clause that holds an enum column to its values. -/
def checkClause (d : SqlDialect) (table : String) (c : Column) : String :=
  "CONSTRAINT " ++ d.quote s!"ck_{table}_{c.field}" ++ " CHECK (" ++ d.checkBody c ++ ")"

variable {d : SqlDialect} {s : Schema} {c : Column}

theorem checkClause_mem_enumChecks (hchecks : d.checksEnums = true) (hc : c ∈ s.columns)
    (hvalues : c.extra.enumValues ≠ []) : d.checkClause s.table c ∈ d.enumChecks s := by
  rw [enumChecks, if_pos hchecks]
  refine List.mem_map.mpr ⟨c, List.mem_filter.mpr ⟨hc, ?_⟩, ?_⟩
  · rw [Bool.not_eq_true', List.isEmpty_eq_false_iff]
    exact hvalues
  · have hend : ")" ++ ")" = "))" := rfl
    simp only [checkClause, checkBody, ← hend, String.append_assoc]

theorem checkClause_infix_createTable (hchecks : d.checksEnums = true) (hc : c ∈ s.columns)
    (hvalues : c.extra.enumValues ≠ []) :
    ∃ q ∈ d.createTable s, (d.checkClause s.table c).toList <:+: q.sql.toList := by
  have hclause := checkClause_mem_enumChecks hchecks hc hvalues
  unfold createTable
  dsimp only
  refine ⟨_, List.mem_map_of_mem (List.mem_append_left _ (List.mem_append_right _
    List.mem_cons_self)), ?_⟩
  rw [CompiledQuery.ofText, String.toList_append, String.toList_append]
  refine List.IsInfix.trans ?_
    ((List.suffix_append _ _).isInfix.trans (List.prefix_append _ _).isInfix)
  exact Text.infix_join ", " (List.mem_append_left _ (List.mem_append_right _ hclause))

end SqlDialect

/-! ### Fragments -/

/-- A fragment that tells an enum of some values, and the names that stand in it. -/
inductive DescribesEnum (d : SqlDialect) (vs : List String) : List String → String → Prop
  | type {separator : String} (hseparator : separator = "," ∨ separator = ", ") :
      DescribesEnum d vs [] ("enum(" ++ Text.join separator (vs.map Text.literal) ++ ")")
  | check {c : Column} (hvalues : c.extra.enumValues = vs) (hname : '\x27' ∉ c.field.toList) :
      DescribesEnum d vs [c.field] (d.checkBody c)

section Fragments

variable {d : SqlDialect} {vs names : List String} {fragment : String} {bracket : Char}

theorem mem_join_literals {separator : String} (hseparator : bracket ∉ separator.toList)
    (hquote : bracket ≠ '\x27') :
    bracket ∈ (Text.join separator (vs.map Text.literal)).toList ↔ ∃ v ∈ vs, bracket ∈ v.toList := by
  have hliteral : ∀ v : String, bracket ∈ (Text.literal v).toList ↔ bracket ∈ v.toList := by
    intro v
    simp [Text.literal, Text.enclosed, Text.mem_doubled, hquote]
  induction vs with
  | nil => simp [Text.join]
  | cons v vs ih =>
      cases vs with
      | nil =>
          rw [List.map_singleton, Text.join_singleton, hliteral]
          simp
      | cons w vs =>
          rw [List.map_cons] at ih
          rw [List.map_cons, List.map_cons, Text.toList_join_cons_cons, List.mem_append,
            List.mem_append, hliteral, or_iff_right hseparator]
          simp [ih]

theorem mem_quote_iff {name : String} (hopen : bracket ≠ d.openQuote) (hclose : bracket ≠ d.closeQuote) :
    bracket ∈ (d.quote name).toList ↔ bracket ∈ name.toList := by
  simp [SqlDialect.quote, Text.quoteIdentifier, Text.enclosed, Text.mem_doubled, hopen, hclose]

/-- Around the literals of a fragment stand signs without quotes and brackets, and its names. -/
theorem DescribesEnum.split (h : DescribesEnum d vs names fragment) :
    ∃ (before after : List Char) (separator : String),
      fragment.toList = before ++ ((Text.join separator (vs.map Text.literal)).toList ++ after) ∧
      separator.toList ≠ [] ∧ (∀ c ∈ separator.toList ++ after, c = ',' ∨ c = ' ' ∨ c = ')') ∧
      '\x27' ∉ before ∧
      ∀ bracket : Char, bracket = '<' ∨ bracket = '>' →
        (bracket ∈ before ↔ ∃ name ∈ names, bracket ∈ name.toList) := by
  cases h with
  | @type separator hseparator =>
      refine ⟨"enum(".toList, ")".toList, separator, by simp, ?_, ?_, by decide, ?_⟩
      · rcases hseparator with rfl | rfl <;> decide
      · rcases hseparator with rfl | rfl <;> simp
      · rintro bracket (rfl | rfl) <;> simp
  | @check c hvalues hname =>
      refine ⟨(d.quote c.field).toList ++ " IN (".toList, ")".toList, ", ", ?_, by decide, by simp,
        ?_, ?_⟩
      · simp [SqlDialect.checkBody, Column.enumLiterals, hvalues]
      · rw [List.mem_append, not_or, mem_quote_iff (by cases d <;> decide) (by cases d <;> decide)]
        exact ⟨hname, by decide⟩
      · intro bracket hbracket
        have hplain : bracket ∉ " IN (".toList ∧ bracket ≠ d.openQuote ∧ bracket ≠ d.closeQuote := by
          rcases hbracket with rfl | rfl <;> cases d <;> decide
        rw [List.mem_append, mem_quote_iff hplain.2.1 hplain.2.2, or_iff_left hplain.1]
        simp

theorem DescribesEnum.literals_eq (h : DescribesEnum d vs names fragment) :
    Text.literals fragment = vs := by
  obtain ⟨before, after, separator, hfragment, hne, hsigns, hbefore, -⟩ := h.split
  have hsign : ∀ c ∈ separator.toList ++ after, c ≠ '\x27' := by
    intro c hc
    rcases hsigns c hc with rfl | rfl | rfl <;> decide
  have hseparator : '\x27' ∉ separator.toList := fun hc =>
    hsign _ (List.mem_append_left _ hc) rfl
  have hafter : '\x27' ∉ after := fun hc => hsign _ (List.mem_append_right _ hc) rfl
  have hmap : String.ofList ∘ String.toList = id := funext fun s => String.ofList_toList
  rw [Text.literals, hfragment, Text.literalsIn_join hne hseparator hbefore hafter, List.map_map,
    hmap, List.map_id]

theorem DescribesEnum.mem_iff (h : DescribesEnum d vs names fragment)
    (hbracket : bracket = '<' ∨ bracket = '>') :
    bracket ∈ fragment.toList ↔ ∃ w ∈ names ++ vs, bracket ∈ w.toList := by
  obtain ⟨before, after, separator, hfragment, -, hsigns, -, hbefore⟩ := h.split
  have hsign : ∀ c ∈ separator.toList ++ after, c ≠ bracket := by
    intro c hc
    rcases hsigns c hc with rfl | rfl | rfl <;> rcases hbracket with rfl | rfl <;> decide
  have hseparator : bracket ∉ separator.toList := fun hc =>
    hsign _ (List.mem_append_left _ hc) rfl
  have hafter : bracket ∉ after := fun hc => hsign _ (List.mem_append_right _ hc) rfl
  have hquote : bracket ≠ '\x27' := by rcases hbracket with rfl | rfl <;> decide
  rw [hfragment, List.mem_append, List.mem_append, hbefore bracket hbracket,
    mem_join_literals hseparator hquote]
  simp [hafter, or_and_right, exists_or]

end Fragments

/-! ### Columns -/

namespace Introspection

section Members

variable {d : SqlDialect} {vs names : List String} {fragment : String}

theorem contains_brackets_iff (h : DescribesEnum d vs names fragment) :
    (fragment.toList.contains '<' || fragment.toList.contains '>') = true ↔
      ¬∀ w ∈ names ++ vs, '<' ∉ w.toList ∧ '>' ∉ w.toList := by
  rw [Bool.or_eq_true, List.contains_iff_mem, List.contains_iff_mem, h.mem_iff (.inl rfl),
    h.mem_iff (.inr rfl)]
  constructor
  · rintro (⟨w, hw, hmem⟩ | ⟨w, hw, hmem⟩) hplain
    · exact (hplain w hw).1 hmem
    · exact (hplain w hw).2 hmem
  · intro hsome
    simp only [Classical.not_forall] at hsome
    obtain ⟨w, hw, hmem⟩ := hsome
    by_cases hless : '<' ∈ w.toList
    · exact .inl ⟨w, hw, hless⟩
    · exact .inr ⟨w, hw, Classical.not_not.mp fun hmore => hmem ⟨hless, hmore⟩⟩

theorem enumMembers_eq (h : DescribesEnum d vs names fragment) (hempty : "" ∉ vs)
    (hplain : ∀ w ∈ names ++ vs, '<' ∉ w.toList ∧ '>' ∉ w.toList) : enumMembers fragment = vs := by
  have hbrackets : ¬(fragment.toList.contains '<' || fragment.toList.contains '>') = true :=
    fun hsome => (contains_brackets_iff h).mp hsome hplain
  have hfull : ¬vs.contains "" = true := fun hmem => hempty (List.contains_iff_mem.mp hmem)
  unfold enumMembers
  dsimp only
  rw [if_neg hbrackets, h.literals_eq, if_neg hfull]

theorem enumMembers_eq_nil (h : DescribesEnum d vs names fragment)
    (hsome : ¬∀ w ∈ names ++ vs, '<' ∉ w.toList ∧ '>' ∉ w.toList) : enumMembers fragment = [] := by
  unfold enumMembers
  dsimp only
  rw [if_pos ((contains_brackets_iff h).mpr hsome)]

end Members

section Rows

variable {d : SqlDialect} {field fragment : String} {row : Record}

theorem column?_of_fragment (hfield : Cell.text? (cell row "field") = some field)
    (hfragment : cell row "enum_values" = .string fragment) :
    ∃ c, column? d row = some c ∧ c.field = field ∧ c.extra.enumValues = enumMembers fragment ∧
      (enumMembers fragment ≠ [] → c.type = .enum) := by
  have hmembers : ((Cell.text? (cell row "enum_values")).map enumMembers).getD [] =
      enumMembers fragment := by
    rw [hfragment]
    rfl
  rw [column?, hfield, Option.map_some]
  refine ⟨_, rfl, rfl, hmembers, fun hne => ?_⟩
  dsimp only
  rw [hmembers, if_neg]
  rwa [List.isEmpty_iff]

/-- A row that names a field gives the column at its place, but for its flag of a foreign key. -/
theorem exists_column_of_row {c : Column} (hc : column? d row = some c) (table : String)
    (before after forward backward : List Record) :
    ∃ s, schema d table (before ++ row :: after) forward backward = .ok s ∧
      (s.columns[(before.filterMap (column? d)).length]?).map Column.unlinked = some c.unlinked := by
  have hcolumns : (before ++ row :: after).filterMap (column? d) =
      before.filterMap (column? d) ++ c :: after.filterMap (column? d) := by
    rw [List.filterMap_append, List.filterMap_cons_some hc]
  have hsome : ∃ s, schema d table (before ++ row :: after) forward backward = .ok s := by
    unfold schema
    dsimp only
    rw [hcolumns, if_neg (by simp)]
    exact ⟨_, rfl⟩
  obtain ⟨s, hs⟩ := hsome
  have hsame := congrArg Schema.columns (unlinked_schema hs)
  simp only [Schema.unlinked, Schema.ofColumns, hcolumns] at hsame
  refine ⟨s, hs, ?_⟩
  rw [← List.getElem?_map, hsame, List.map_append, List.getElem?_append_right (by simp),
    List.length_map, Nat.sub_self]
  rfl

end Rows

/-- **Members of an enum.** A created table holds an enum column to its values by a clause of its
own. A row whose fragment is the body of such a clause, or the type that lists the values, gives an enum
column with these values in their order, unless an angle bracket stands in a value or in the name that
the clause is about. -/
theorem enum_members_kept_iff (d : SqlDialect) :
    (∀ (s : Schema) (c : Column), d.checksEnums = true → c ∈ s.columns → c.extra.enumValues ≠ [] →
      ∃ q ∈ d.createTable s, (d.checkClause s.table c).toList <:+: q.sql.toList) ∧
    ∀ (vs names : List String) (fragment : String), vs ≠ [] → "" ∉ vs →
      DescribesEnum d vs names fragment →
      ∀ (table field : String) (row : Record) (before after forward backward : List Record),
        Cell.text? (cell row "field") = some field → cell row "enum_values" = .string fragment →
        ∃ (s : Schema) (c : Column),
          schema d table (before ++ row :: after) forward backward = .ok s ∧
          s.columns[(before.filterMap (column? d)).length]? = some c ∧ c.field = field ∧
          ((c.type = .enum ∧ c.extra.enumValues = vs) ↔
            ∀ w ∈ names ++ vs, '<' ∉ w.toList ∧ '>' ∉ w.toList) := by
  refine ⟨fun s c hchecks hc hvalues => SqlDialect.checkClause_infix_createTable hchecks hc hvalues,
    ?_⟩
  intro vs names fragment hne hempty h table field row before after forward backward hfield hfragment
  obtain ⟨read, hread, hname, hmembers, htype⟩ := column?_of_fragment (d := d) hfield hfragment
  obtain ⟨s, hs, hplace⟩ := exists_column_of_row hread table before after forward backward
  obtain ⟨c, hc, hsame⟩ := Option.map_eq_some_iff.mp hplace
  have hcfield : c.field = field := (congrArg Column.field hsame).trans hname
  have hctype : c.type = read.type := by
    rw [← show c.unlinked.type = c.type from rfl, hsame]
    rfl
  have hcvalues : c.extra.enumValues = enumMembers fragment :=
    (congrArg (·.extra.enumValues) hsame).trans hmembers
  refine ⟨s, c, hs, hc, hcfield, ?_⟩
  rw [hctype, hcvalues]
  constructor
  · intro hkept
    -- With a bracket no member is left, and there was one.
    by_cases hplain : ∀ w ∈ names ++ vs, '<' ∉ w.toList ∧ '>' ∉ w.toList
    · exact hplain
    · exact absurd (hkept.2.symm.trans (enumMembers_eq_nil h hplain)) hne
  · intro hplain
    have hall := enumMembers_eq h hempty hplain
    exact ⟨htype (hall ▸ hne), hall⟩

/-- Sizes with a quote, with commas and with a parenthesis. -/
def sizeColumn : Column :=
  (Column.ofType "size" .enum).withEnumValues ["it\x27s big", "small, or so", "(none)"]

/-- The sizes come back from the check that the table of shirts is created with. -/
theorem enum_members_kept_size :
    let body := SqlDialect.sqlite.checkBody sizeColumn
    let row : Record := [("enum_values", .string body), ("field", .string "size")]
    (∃ q ∈ SqlDialect.sqlite.createTable (Schema.ofColumns "shirts" [sizeColumn]),
      (SqlDialect.sqlite.checkClause "shirts" sizeColumn).toList <:+: q.sql.toList) ∧
    ∃ (s : Schema) (c : Column), schema .sqlite "shirts" [row] [] [] = .ok s ∧
      s.columns[0]? = some c ∧ c.field = "size" ∧ c.type = .enum ∧
      c.extra.enumValues = ["it\x27s big", "small, or so", "(none)"] := by
  intro body row
  obtain ⟨hcreated, hread⟩ := enum_members_kept_iff .sqlite
  refine ⟨hcreated (Schema.ofColumns "shirts" [sizeColumn]) sizeColumn rfl List.mem_cons_self
    (by decide), ?_⟩
  obtain ⟨s, c, hs, hc, hfield, hiff⟩ := hread sizeColumn.extra.enumValues ["size"] body (by decide)
    (by decide) (.check rfl (by decide)) "shirts" "size" row [] [] [] [] rfl rfl
  obtain ⟨htype, hvalues⟩ := hiff.mpr (by decide)
  exact ⟨s, c, hs, hc, hfield, htype, hvalues⟩

/-- Ages below and from eighteen, as the type of a column. -/
theorem bracketed_members_lost :
    let vs := ["<18", "18+"]
    let fragment := "enum('<18','18+')"
    let row : Record := [("column_type", .string fragment), ("enum_values", .string fragment),
      ("field", .string "age"), ("native_type", .string "enum")]
    DescribesEnum .mysql vs [] fragment ∧
    ∃ (s : Schema) (c : Column), schema .mysql "visitors" [row] [] [] = .ok s ∧
      s.columns = [c] ∧ c.field = "age" ∧ c.extra.enumValues = [] ∧ c.extra.enumValues ≠ vs := by
  intro vs fragment row
  refine ⟨DescribesEnum.type (.inl rfl), _, _, rfl, rfl, rfl, ?_, ?_⟩
  · decide +kernel
  · decide +kernel

end Introspection

end DataAccess
