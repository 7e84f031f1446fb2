import DataAccess.Proofs.Json.Tokens
import DataAccess.Proofs.Sql.Lexemes
import DataAccess.Proofs.Text.Quoted
import DataAccess.Sql.Definition

/-!
# The keys that a table is created with

What the lexemes of a statement declare: a primary key, a foreign key with what it refers to, the name
of a constraint. The statements that create a table declare a primary key for each column that is
flagged as one, a named check for each enum column where the dialect has checks, and the foreign keys
of the schema, each with a name where the dialect adds them to a table that exists.
-/

namespace DataAccess

namespace SqlLexer

/-! ### Clauses -/

/-- What a statement declares of the keys and the constraints of a table. -/
inductive KeyClause
  | primary
  | foreign (column table key : String)
  | constraint (name : String)
  deriving DecidableEq, Repr

/-- A foreign key behind its first words. -/
def reference? : List Lexeme → Option KeyClause
  | first :: .quoted .name column :: second :: third :: .quoted .name table :: fourth ::
      .quoted .name key :: fifth :: _ =>
    if [first, second, third, fourth, fifth] =
        [.sign '(', .sign ')', .word "REFERENCES", .sign '(', .sign ')'] then
      some (.foreign column table key)
    else none
  | _ => none

/-- The clause that some lexemes begin with. -/
def clauseAt? : List Lexeme → Option KeyClause
  | .word first :: .word second :: rest =>
    if first = "PRIMARY" ∧ second = "KEY" then some .primary
    else if first = "FOREIGN" ∧ second = "KEY" then reference? rest
    else none
  | .word first :: .quoted .name name :: _ =>
    if first = "CONSTRAINT" then some (.constraint name) else none
  | _ => none

/-- The clauses of some lexemes in their order. -/
def declared : List Lexeme → List KeyClause
  | [] => []
  | l :: rest => (clauseAt? (l :: rest)).toList ++ declared rest

/-- The clauses of the text of a statement. -/
def keyClauses (d : SqlDialect) (sql : String) : List KeyClause := declared (lexemes d sql)

/-- Whether a lexeme may begin a clause. -/
def beginsClause (l : Lexeme) : Bool :=
  [.word "PRIMARY", .word "FOREIGN", .word "CONSTRAINT"].contains l

theorem clauseAt?_eq_none {l : Lexeme} (h : beginsClause l = false) (rest : List Lexeme) :
    clauseAt? (l :: rest) = none := by
  simp only [beginsClause, List.contains_eq_mem, List.mem_cons, List.not_mem_nil, or_false,
    decide_eq_false_iff_not, not_or] at h
  unfold clauseAt?
  split
  · simp_all
  · simp_all
  · rfl

theorem declared_append_of_plain {ls : List Lexeme} (h : ∀ l ∈ ls, beginsClause l = false)
    (rest : List Lexeme) : declared (ls ++ rest) = declared rest := by
  induction ls with
  | nil => rfl
  | cons l ls ih =>
      rw [List.cons_append, declared, clauseAt?_eq_none (h l List.mem_cons_self)]
      exact ih fun l hl => h l (List.mem_cons_of_mem _ hl)

/-! ### Texts -/

/-- A text that declares some clauses in front of anything that does not go on with it. -/
def Declares (d : SqlDialect) (text : String) (cs : List KeyClause) : Prop :=
  ∃ ls, Lexes d text ls ∧ ∀ rest, declared (ls ++ rest) = cs ++ declared rest

/-- A text of code in which no clause begins. -/
def isPlainCode (text : String) : Bool :=
  text.toList.all isCode && (codeLexemes text.toList).all (!beginsClause ·)

/-- A text of code in which no clause begins and that ends with no word. -/
def isLead (text : String) : Bool := isPlainCode text && (run [] text.toList).2.isEmpty

section Texts

variable {d : SqlDialect} {first second text : String} {cs others : List KeyClause}
  {ls : List Lexeme}

theorem Declares.keyClauses_eq (h : Declares d text cs) : keyClauses d text = cs := by
  obtain ⟨ls, hls, hdeclared⟩ := h
  have hwhole := hdeclared []
  rw [List.append_nil] at hwhole
  rw [keyClauses, hls.lexemes_eq, hwhole]
  exact List.append_nil cs

theorem Lexes.declares_nil (h : Lexes d text ls) (hplain : ∀ l ∈ ls, beginsClause l = false) :
    Declares d text [] :=
  ⟨ls, h, declared_append_of_plain hplain⟩

theorem Declares.append (h : Declares d first cs) (hseparated : Separated second.toList)
    (hsecond : Declares d second others) : Declares d (first ++ second) (cs ++ others) := by
  obtain ⟨ls, hls, hdeclared⟩ := h
  obtain ⟨ms, hms, hothers⟩ := hsecond
  refine ⟨ls ++ ms, hls.append hseparated hms, fun rest => ?_⟩
  rw [List.append_assoc, hdeclared, hothers, List.append_assoc]

theorem Declares.append_nil (h : Declares d first cs) (hseparated : Separated second.toList)
    (hsecond : Declares d second []) : Declares d (first ++ second) cs :=
  List.append_nil cs ▸ h.append hseparated hsecond

/-- A text whose lexemes are one clause. -/
theorem Lexes.declares_singleton {l : Lexeme} {clause : KeyClause} (h : Lexes d text (l :: ls))
    (hclause : ∀ rest, clauseAt? (l :: (ls ++ rest)) = some clause)
    (hplain : ∀ m ∈ ls, beginsClause m = false) : Declares d text [clause] := by
  refine ⟨_, h, fun rest => ?_⟩
  rw [List.cons_append, declared, hclause, declared_append_of_plain hplain]
  rfl

theorem plain_of_isPlainCode (h : isPlainCode text = true) :
    text.toList.all isCode = true ∧ ∀ l ∈ codeLexemes text.toList, beginsClause l = false := by
  obtain ⟨hcode, hplain⟩ := (Bool.and_eq_true _ _).mp h
  refine ⟨hcode, fun l hl => ?_⟩
  rw [← Bool.not_eq_true']
  exact List.all_eq_true.mp hplain l hl

theorem declares_code (h : isPlainCode text = true) : Declares d text [] :=
  (lexes_code (plain_of_isPlainCode h).1 rfl).declares_nil (plain_of_isPlainCode h).2

/-- Code that ends with no word changes nothing of what is declared behind it. -/
theorem Declares.behind (hsecond : Declares d second cs) (h : isLead first = true) :
    Declares d (first ++ second) cs := by
  rw [isLead, Bool.and_eq_true, List.isEmpty_iff] at h
  obtain ⟨hcode, hplain⟩ := plain_of_isPlainCode h.1
  obtain ⟨ms, hms, hdeclared⟩ := hsecond
  refine ⟨_, (opens_code hcode rfl h.2).append hms, fun rest => ?_⟩
  rw [List.append_assoc, declared_append_of_plain hplain, hdeclared]

theorem declares_quote (name : String) : Declares d (d.quote name) [] :=
  (lexes_quote name).declares_nil (by simp [beginsClause])

/-- A quoted name behind code changes nothing of what is declared behind it. -/
theorem Declares.named (hsecond : Declares d second cs) (hseparated : Separated second.toList)
    (name : String) (h : isLead first = true) : Declares d (first ++ (d.quote name ++ second)) cs :=
  ((declares_quote name).append hseparated hsecond).behind h

theorem declares_literal (v : String) : Declares d (Text.literal v) [] :=
  (lexes_literal v).declares_nil (by simp [beginsClause])

/-- Texts that declare some clauses together, each of them its own. -/
inductive DeclareAll (d : SqlDialect) : List String → List KeyClause → Prop
  | nil : DeclareAll d [] []
  | cons {text : String} {texts : List String} {cs others : List KeyClause} (h : Declares d text cs)
      (hmore : DeclareAll d texts others) : DeclareAll d (text :: texts) (cs ++ others)

namespace DeclareAll

variable {texts more : List String}

theorem flatMap_keyClauses (h : DeclareAll d texts cs) : texts.flatMap (keyClauses d) = cs := by
  induction h with
  | nil => rfl
  | cons h _ ih => rw [List.flatMap_cons, h.keyClauses_eq, ih]

theorem append (h : DeclareAll d texts cs) (hmore : DeclareAll d more others) :
    DeclareAll d (texts ++ more) (cs ++ others) := by
  induction h with
  | nil => exact hmore
  | cons h _ ih =>
      rw [List.append_assoc]
      exact .cons h ih

theorem map {α : Type} {f : α → String} {g : α → List KeyClause} {l : List α}
    (h : ∀ a ∈ l, Declares d (f a) (g a)) : DeclareAll d (l.map f) (l.flatMap g) := by
  induction l with
  | nil => exact .nil
  | cons a l ih =>
      rw [List.map_cons, List.flatMap_cons]
      exact .cons (h a List.mem_cons_self) (ih fun b hb => h b (List.mem_cons_of_mem a hb))

theorem of_nil (h : ∀ text ∈ texts, Declares d text []) : DeclareAll d texts [] := by
  induction texts with
  | nil => exact .nil
  | cons text texts ih =>
      obtain ⟨htext, htexts⟩ := List.forall_mem_cons.mp h
      exact .cons htext (ih htexts)

theorem join (h : DeclareAll d texts cs) : Declares d (Text.join ", " texts) cs := by
  induction h with
  | nil => exact declares_code (by decide)
  | @cons text texts cs others h hmore ih =>
      cases hmore with
      | nil =>
          rw [Text.join_singleton, List.append_nil]
          exact h
      | cons =>
          rw [Text.join, String.intercalate_cons_cons, String.append_assoc]
          exact h.append (separated_append (by decide) _) (ih.behind (by decide))

end DeclareAll

/-! ### Numbers -/

/-- A character of code that is no capital letter. -/
def isSmall (c : Char) : Bool := isCode c && !c.isUpper

theorem not_beginsClause_of_small {word : List Char} (h : ∀ c ∈ word, isSmall c = true) :
    beginsClause (.word (String.ofList word)) = false := by
  rw [Bool.eq_false_iff]
  intro hbegins
  -- Each first word of a clause has a capital letter.
  have hcapital : ∀ first ∈ ["PRIMARY", "FOREIGN", "CONSTRAINT"], 'R' ∈ first.toList := by decide
  have hfirst : String.ofList word ∈ ["PRIMARY", "FOREIGN", "CONSTRAINT"] := by
    simpa [beginsClause] using hbegins
  have hmem := hcapital _ hfirst
  rw [String.toList_ofList] at hmem
  exact absurd (h 'R' hmem) (by decide)

theorem plain_pending {word : List Char} (h : ∀ c ∈ word, isSmall c = true) :
    ∀ l ∈ pending word, beginsClause l = false := by
  intro l hl
  rw [pending] at hl
  split at hl
  · cases hl
  · rw [List.mem_singleton.mp hl]
    exact not_beginsClause_of_small h

theorem plain_run {text : List Char} (h : ∀ c ∈ text, isSmall c = true) {word : List Char}
    (hword : ∀ c ∈ word, isSmall c = true) :
    ∀ l ∈ (run word text).1 ++ pending (run word text).2, beginsClause l = false := by
  induction text generalizing word with
  | nil =>
      rw [run, List.nil_append]
      exact plain_pending hword
  | cons c text ih =>
      obtain ⟨hc, htext⟩ := List.forall_mem_cons.mp h
      rw [run]
      split
      · refine ih htext fun b hb => ?_
        rcases List.mem_append.mp hb with hb | hb
        · exact hword b hb
        · exact List.mem_singleton.mp hb ▸ hc
      · intro l hl
        rw [List.append_assoc, List.mem_append, List.mem_append] at hl
        rcases hl with (hl | hl) | hl
        · exact plain_pending hword l hl
        · rw [signs] at hl
          split at hl
          · cases hl
          · rw [List.mem_singleton.mp hl]
            simp [beginsClause]
        · exact ih htext (List.forall_mem_nil _) l hl

theorem declares_small (h : ∀ c ∈ text.toList, isSmall c = true) : Declares d text [] := by
  have hcode : text.toList.all isCode = true :=
    List.all_eq_true.mpr fun c hc => ((Bool.and_eq_true _ _).mp (h c hc)).1
  exact (lexes_code hcode rfl).declares_nil (plain_run h (List.forall_mem_nil _))

theorem isSmall_of_isNumeric {c : Char} (h : Json.Token.isNumeric c = true) : isSmall c = true := by
  rw [Json.Token.isNumeric, Bool.or_eq_true, List.contains_iff_mem] at h
  rcases h with hdigit | hsign
  · exact Decimal.of_isDigit (P := fun c => isSmall c = true) (by decide) hdigit
  · have hsigns : "-+.e".toList.all isSmall = true := by decide
    exact List.all_eq_true.mp hsigns c hsign

theorem declares_digits (n : Nat) : Declares d (String.ofList (Decimal.digitChars n)) [] := by
  refine declares_small fun c hc => isSmall_of_isNumeric ?_
  rw [String.toList_ofList] at hc
  exact Json.Token.isNumeric_of_mem_digitChars hc

theorem declares_number (n : Json.Number) : Declares d n.text [] := by
  cases n with
  | int n =>
      refine declares_small fun c hc => isSmall_of_isNumeric ?_
      rw [Json.Number.text, String.toList_ofList] at hc
      exact Json.Token.isNumeric_of_mem_intChars hc
  | float x =>
      by_cases hfinite : x.isFinite = true
      · refine declares_small fun c hc => isSmall_of_isNumeric ?_
        rw [Json.Number.text, String.toList_ofList] at hc
        exact Json.Token.isNumeric_of_mem_chars (n := .float x) hfinite hc
      · rw [Json.Number.text, Json.Number.chars, if_neg hfinite]
        exact declares_code (by decide)

theorem declares_value (v : Json) : Declares d (d.literal v) [] := by
  cases v with
  | null =>
      change Declares d "NULL" []
      exact declares_code (by decide)
  | bool b =>
      rw [SqlDialect.literal]
      split
      · cases b <;> exact declares_code (by decide)
      · cases b <;> exact declares_code (by decide)
  | number n => exact declares_number n
  | string s => exact declares_literal s
  | array items => exact declares_literal _
  | object fields => exact declares_literal _

end Texts

/-! ### Columns -/

section Columns

variable {d : SqlDialect} {c : Column} {type : String}

theorem declares_sized (htype : isLead (type ++ "(") = true) :
    Declares d (SqlDialect.sized type c) [] := by
  have hdigits := (declares_digits (d := d) (c.extra.length.getD 255)).behind htype
  exact hdigits.append (separated_of_isApart (by decide)) (declares_code (by decide))

theorem declares_enumLiterals (c : Column) : Declares d c.enumLiterals [] :=
  (DeclareAll.of_nil (List.forall_mem_map.mpr fun v _ => declares_literal v)).join

/-- The literals of an enum between two texts of code. -/
theorem declares_enumeration (c : Column) {before after : String} (hbefore : isLead before = true)
    (hafter : isPlainCode after = true) (hapart : isApart after = true) :
    Declares d (before ++ (c.enumLiterals ++ after)) [] :=
  ((declares_enumLiterals c).append_nil (separated_of_isApart hapart) (declares_code hafter)).behind
    hbefore

/-- No type declares a key: each is a word, a size, a name or the literals of an enum. -/
theorem declares_declaredType (d : SqlDialect) (table : String) (c : Column) :
    Declares d (d.declaredType table c) [] := by
  have henum : Declares d ("ENUM(" ++ c.enumLiterals ++ ")") [] := by
    rw [String.append_assoc]
    exact declares_enumeration c (by decide) (by decide) (by decide)
  have hsized : ∀ type ∈ ["VARCHAR", "NVARCHAR", "VARCHAR2"],
      Declares d (SqlDialect.sized type c) [] := by
    simp only [List.forall_mem_cons]
    exact ⟨declares_sized (by decide), declares_sized (by decide), declares_sized (by decide), nofun⟩
  unfold SqlDialect.declaredType
  repeat' split
  -- A word is compared with a size as they stand, so that no type is unfolded.
  all_goals with_reducible first
    | exact declares_code (by decide)
    | exact hsized _ (by decide)
    | exact declares_quote _
    | exact henum

theorem declares_spaced {word : Option String} (h : ∀ text, word = some text → Declares d text []) :
    Declares d (SqlDialect.spaced word) [] := by
  cases word with
  | none => exact declares_code (by decide)
  | some text => exact (h text rfl).behind (by decide)

theorem separated_spaced (word : Option String) : Separated (SqlDialect.spaced word).toList := by
  cases word with
  | none => exact separated_nil
  | some text => simp [SqlDialect.spaced, Separated, separators]

theorem declares_primaryKey : Declares d " PRIMARY KEY" [.primary] := by
  have hlexes : Lexes d " PRIMARY KEY" [.word "PRIMARY", .word "KEY"] :=
    lexes_code (by decide) (by decide)
  exact hlexes.declares_singleton (fun rest => rfl) (by decide)

/-- What a column says of the primary key. -/
def columnClauses (c : Column) : List KeyClause := if c.primaryKey then [.primary] else []

theorem declares_keyWords (c : Column) :
    Declares d (if c.primaryKey then " PRIMARY KEY" else if c.uniqueKey then " UNIQUE" else "")
      (columnClauses c) := by
  rw [columnClauses]
  split
  · exact declares_primaryKey
  · split <;> exact declares_code (by decide)

theorem declares_defaultWords (default : Option Json) :
    Declares d (match default with
      | some value => " DEFAULT " ++ d.literal value
      | none => "") [] := by
  cases default with
  | none =>
      change Declares d "" []
      exact declares_code (by decide)
  | some value => exact (declares_value value).behind (by decide)

/-- A column with a type, and words around it, that declare nothing declares a primary key if it is
flagged as one. -/
theorem declares_columnClause {afterType atEnd : Option String} (htype : Declares d type [])
    (hafter : ∀ text, afterType = some text → Declares d text [])
    (hatEnd : ∀ text, atEnd = some text → Declares d text []) :
    Declares d (d.columnClause c type afterType atEnd) (columnClauses c) := by
  have hname : Declares d (d.quote c.field ++ " " ++ type) [] := by
    rw [String.append_assoc]
    exact (declares_quote c.field).append (separated_append (by decide) _)
      (htype.behind (by decide))
  have hdefault := (hname.append_nil (separated_spaced afterType) (declares_spaced hafter)).append_nil
    (by cases c.default <;> simp [Separated, separators]) (declares_defaultWords c.default)
  have hnull : Declares d (if c.primaryKey || !c.nullable then " NOT NULL" else "") [] := by
    split <;> exact declares_code (by decide)
  have hkey := (hdefault.append_nil (by split <;> simp [Separated, separators]) hnull).append
    (by repeat' split
        all_goals simp [Separated, separators]) (declares_keyWords c)
  exact hkey.append_nil (separated_spaced atEnd) (declares_spaced hatEnd)

theorem declares_columnDefinition (d : SqlDialect) (table : String) (c : Column) :
    Declares d (d.columnDefinition table c) (columnClauses c) := by
  have hwords : ∀ text, d.generationWords.1 = some text ∨ d.generationWords.2 = some text →
      Declares d text [] := by
    intro text htext
    refine declares_code ?_
    revert text
    cases d <;> simp [SqlDialect.generationWords] <;> decide
  unfold SqlDialect.columnDefinition
  dsimp only
  split
  · exact declares_columnClause (declares_declaredType d table c) (fun text h => hwords text (.inl h))
      fun text h => hwords text (.inr h)
  · exact declares_columnClause (declares_declaredType d table c) nofun nofun

end Columns

/-! ### Constraints and foreign keys -/

section Constraints

variable {d : SqlDialect}

theorem declares_constraint (name : String) :
    Declares d ("CONSTRAINT " ++ d.quote name) [.constraint name] := by
  have hword : Opens d "CONSTRAINT " [.word "CONSTRAINT"] :=
    opens_code (by decide) (by decide) (by decide)
  have hlexes := hword.append (lexes_quote name)
  exact hlexes.declares_singleton (fun rest => rfl) (by simp [beginsClause])

/-- The clause that a relation becomes. -/
def foreignClause (r : Relation) : KeyClause := .foreign r.orgColumn r.table r.column

theorem declares_references (d : SqlDialect) (r : Relation) :
    Declares d (d.references r) [foreignClause r] := by
  have hforeign : Opens d "FOREIGN KEY (" [.word "FOREIGN", .word "KEY", .sign '('] :=
    opens_code (by decide) (by decide) (by decide)
  have hreferences : Opens d ") REFERENCES " [.sign ')', .word "REFERENCES"] :=
    opens_code (by decide) (by decide) (by decide)
  have hopen : Opens d "(" [.sign '('] := opens_code (by decide) (by decide) (by decide)
  have hclose : Lexes d ")" [.sign ')'] := lexes_code (by decide) (by decide)
  have hkey := hopen.append ((lexes_quote r.column).append (separated_of_isApart (by decide)) hclose)
  have htable := hreferences.append
    ((lexes_quote r.table).append (separated_append (by decide) _) hkey)
  have hwhole := hforeign.append
    ((lexes_quote r.orgColumn).append (separated_append (by decide) _) htable)
  have hclause : ∀ rest, clauseAt? (.word "FOREIGN" :: (.word "KEY" :: .sign '(' ::
      .quoted .name r.orgColumn :: .sign ')' :: .word "REFERENCES" :: .quoted .name r.table ::
      .sign '(' :: .quoted .name r.column :: .sign ')' :: rest)) = some (foreignClause r) := by
    intro rest
    rw [clauseAt?, if_neg (by decide), if_pos ⟨rfl, rfl⟩, reference?, if_pos rfl]
    rfl
  unfold SqlDialect.references
  simp only [String.append_assoc]
  refine hwhole.declares_singleton hclause ?_
  simp [beginsClause]

end Constraints

/-! ### Statements -/

theorem declareAll_beforeTable (d : SqlDialect) (s : Schema) : DeclareAll d (d.beforeTable s) [] := by
  unfold SqlDialect.beforeTable
  split
  · refine DeclareAll.of_nil (List.forall_mem_map.mpr fun c _ => ?_)
    have henum : Declares .postgres (" AS ENUM (" ++ (c.enumLiterals ++ ")")) [] :=
      declares_enumeration c (by decide) (by decide) (by decide)
    simp only [String.append_assoc]
    exact henum.named (separated_append (by decide) _) _ (by decide)
  · exact .nil

theorem declareAll_afterTable (d : SqlDialect) (s : Schema) : DeclareAll d (d.afterTable s) [] := by
  unfold SqlDialect.afterTable
  split
  next c _ =>
    have hstart : Declares .oracle " START WITH 1 INCREMENT BY 1" [] := declares_code (by decide)
    have hend : Declares .oracle " FROM DUAL; END;" [] := declares_code (by decide)
    simp only [toString, String.append_assoc]
    refine DeclareAll.of_nil (List.forall_mem_cons.mpr ⟨?_, List.forall_mem_singleton.mpr ?_⟩)
    · exact hstart.named (separated_of_isApart (by decide)) _ (by decide)
    · refine Declares.named ?_ (separated_append (by decide) _) _ (by decide)
      refine Declares.named ?_ (separated_append (by decide) _) _ (by decide)
      refine Declares.behind ?_ (by decide)
      refine Declares.named ?_ (separated_append (by decide) _) _ (by decide)
      refine Declares.behind ?_ (by decide)
      refine Declares.named ?_ (separated_append (by decide) _) _ (by decide)
      exact hend.named (separated_of_isApart (by decide)) _ (by decide)
  · exact .nil

/-- The name of the check of an enum column. -/
def checkName (s : Schema) (c : Column) : String := s!"ck_{s.table}_{c.field}"

/-- The name of the foreign key that a relation becomes. -/
def foreignName (s : Schema) (r : Relation) : String := s!"fk_{s.table}_{r.orgColumn}"

/-- The columns with a check of their own. -/
def checkedColumns (d : SqlDialect) (s : Schema) : List Column :=
  if d.checksEnums then s.columns.filter fun c => !c.extra.enumValues.isEmpty else []

theorem declares_check (d : SqlDialect) (name : String) (c : Column) :
    Declares d ("CONSTRAINT " ++ d.quote name ++ " CHECK (" ++ d.quote c.field ++ " IN ("
      ++ c.enumLiterals ++ "))") [.constraint name] := by
  have hvalues : Declares d (" IN (" ++ (c.enumLiterals ++ "))")) [] :=
    declares_enumeration c (by decide) (by decide) (by decide)
  have hcheck :
      Declares d (" CHECK (" ++ (d.quote c.field ++ (" IN (" ++ (c.enumLiterals ++ "))")))) [] :=
    hvalues.named (separated_append (by decide) _) c.field (by decide)
  have hwhole := (declares_constraint name).append_nil (separated_append (by decide) _) hcheck
  simp only [String.append_assoc] at hwhole ⊢
  exact hwhole

/-- What the check of a column declares. -/
def checkClauses (s : Schema) (c : Column) : List KeyClause := [.constraint (checkName s c)]

theorem declareAll_enumChecks (d : SqlDialect) (s : Schema) :
    DeclareAll d (d.enumChecks s) ((checkedColumns d s).flatMap (checkClauses s)) := by
  unfold SqlDialect.enumChecks checkedColumns
  split
  · exact .map fun c _ => declares_check d (checkName s c) c
  · exact .nil

/-- What a relation that becomes a foreign key declares. -/
def foreignClauses (d : SqlDialect) (s : Schema) (r : Relation) : List KeyClause :=
  if d.altersForeignKeys then [.constraint (foreignName s r), foreignClause r] else [foreignClause r]

theorem declares_alteration (d : SqlDialect) (s : Schema) (r : Relation) :
    Declares d ("ALTER TABLE " ++ d.quote s.table ++ " ADD CONSTRAINT " ++ d.quote (foreignName s r)
      ++ " " ++ d.references r) [.constraint (foreignName s r), foreignClause r] := by
  have hreferences : Declares d (" " ++ d.references r) [foreignClause r] :=
    (declares_references d r).behind (by decide)
  have hadd : Declares d
      (" ADD " ++ ("CONSTRAINT " ++ d.quote (foreignName s r) ++ (" " ++ d.references r)))
      [.constraint (foreignName s r), foreignClause r] :=
    ((declares_constraint _).append (separated_append (by decide) _) hreferences).behind (by decide)
  have hwhole : Declares d ("ALTER TABLE " ++ (d.quote s.table ++ (" ADD " ++
      ("CONSTRAINT " ++ d.quote (foreignName s r) ++ (" " ++ d.references r)))))
      [.constraint (foreignName s r), foreignClause r] :=
    hadd.named (separated_append (by decide) _) _ (by decide)
  have hwords : " ADD CONSTRAINT " = " ADD " ++ "CONSTRAINT " := rfl
  rw [hwords]
  simp only [String.append_assoc] at hwhole ⊢
  exact hwhole

/-- The clauses that the statements which create a table declare. -/
def tableClauses (d : SqlDialect) (s : Schema) : List KeyClause :=
  s.columns.flatMap columnClauses ++ (checkedColumns d s).flatMap (checkClauses s) ++
    (SqlDialect.foreignKeys s).flatMap (foreignClauses d s)

theorem declares_create (d : SqlDialect) (table : String) {definitions : List String}
    {cs : List KeyClause} (h : DeclareAll d definitions cs) :
    Declares d ("CREATE TABLE " ++ d.quote table ++ " (" ++ Text.join ", " definitions ++ ")") cs := by
  have hclose : Declares d ")" [] := declares_code (by decide)
  have hbody : Declares d (" (" ++ (Text.join ", " definitions ++ ")")) cs :=
    (h.join.append_nil (separated_of_isApart (by decide)) hclose).behind (by decide)
  have hwhole : Declares d ("CREATE TABLE " ++ (d.quote table ++ (" (" ++
      (Text.join ", " definitions ++ ")")))) cs :=
    hbody.named (separated_append (by decide) _) table (by decide)
  simp only [String.append_assoc] at hwhole ⊢
  exact hwhole

/-- **Clauses of a created table.** A primary key for each column that is flagged as one, a named check
for each enum column where there are checks, and the foreign keys of the schema. -/
theorem declareAll_createTable (d : SqlDialect) (s : Schema) :
    DeclareAll d ((d.createTable s).map (·.sql)) (tableClauses d s) := by
  have hcolumns : DeclareAll d (s.columns.map (d.columnDefinition s.table))
      (s.columns.flatMap columnClauses) :=
    .map fun c _ => declares_columnDefinition d s.table c
  have hdefinitions := hcolumns.append (declareAll_enumChecks d s)
  have hmap : ∀ texts : List String, (texts.map CompiledQuery.ofText).map (·.sql) = texts := by
    intro texts
    rw [List.map_map]
    exact List.map_id texts
  have hbefore := declareAll_beforeTable d s
  have hafter := declareAll_afterTable d s
  unfold SqlDialect.createTable tableClauses foreignClauses
  dsimp only
  rw [hmap]
  cases d.altersForeignKeys with
  | true =>
      have halterations := DeclareAll.map fun r (_ : r ∈ SqlDialect.foreignKeys s) =>
        declares_alteration d s r
      have hcreate := declares_create d s.table (hdefinitions.append .nil)
      have hall := (hbefore.append (.cons hcreate hafter)).append halterations
      simp only [List.append_nil, List.nil_append] at hall
      simp only [if_true, List.append_nil]
      exact hall
  | false =>
      have hinner := DeclareAll.map fun r (_ : r ∈ SqlDialect.foreignKeys s) => declares_references d r
      have hcreate := declares_create d s.table (hdefinitions.append hinner)
      have hall := hbefore.append (.cons hcreate hafter)
      simp only [List.append_nil, List.nil_append] at hall
      simp only [Bool.false_eq_true, if_false, List.append_nil]
      exact hall

end SqlLexer

end DataAccess
