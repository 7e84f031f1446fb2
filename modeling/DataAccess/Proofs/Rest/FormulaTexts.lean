import DataAccess.Proofs.Json.Tokens
import DataAccess.Proofs.Query.Reference
import DataAccess.Proofs.Rest.FormulaReader
import DataAccess.Proofs.Rest.Membership
import Mathlib.Data.List.Forall2

/-!
# Texts stay in their literals

A formula is read piece by piece: its code, the references to fields, and the literals, of which each
is read as the text that it was made of. So whatever texts conditions compare with, the literals say
these texts and no others, and the rest of the formula does not depend on them.

That needs nothing of the texts, but it needs the names of fields, which are written as they are: a
quote in a name opens a literal. Braces in a name are code to the reader.
-/

namespace DataAccess

/-! ### Formulas piece by piece -/

namespace FormulaPiece

def tokens : FormulaPiece → List FormulaText.Token
  | code text => (FormulaText.tokens? text).getD []
  | field name => ('\x7b' :: name.toList ++ ['\x7d']).map .code
  | literal text => [.literal text]

/-- Code that ends outside literals, and names without quotes. -/
def IsWhole : FormulaPiece → Prop
  | code text => (FormulaText.tokens? text).isSome = true
  | field name => '\x27' ∉ name.toList
  | literal _ => True

theorem reads_chars {p : FormulaPiece} (h : p.IsWhole) : FormulaText.Reads p.chars p.tokens := by
  cases p with
  | code text =>
      obtain ⟨found, hfound⟩ := Option.isSome_iff_exists.mp h
      rw [tokens, hfound]
      exact FormulaText.reads_of_scan hfound
  | field name =>
      have hname : '\x27' ∉ name.toList := h
      exact FormulaText.reads_plain (by simpa [chars] using hname)
  | literal text =>
      have hread := FormulaText.reads_literal text.toList
      rwa [String.ofList_toList] at hread

end FormulaPiece

namespace Formula

def tokens (f : Formula) : List FormulaText.Token := f.flatMap FormulaPiece.tokens

def literals (f : Formula) : List String := FormulaText.literals f.tokens

def outside (f : Formula) : List FormulaText.Token := FormulaText.outside f.tokens

def IsWhole (f : Formula) : Prop := ∀ p ∈ f, p.IsWhole

variable {f g : Formula} {schema : Schema} {column : Column} {p q : Predicate} {v w : Json}

theorem tokens?_text (h : f.IsWhole) : FormulaText.tokens? f.text = some f.tokens := by
  have hread : FormulaText.Reads (f.flatMap FormulaPiece.chars) f.tokens := by
    induction f with
    | nil => exact FormulaText.reads_nil
    | cons p f ih =>
        obtain ⟨hp, hf⟩ := List.forall_mem_cons.mp h
        exact (FormulaPiece.reads_chars hp).append (ih hf)
  rw [FormulaText.tokens?, text, String.toList_ofList]
  exact hread.scan_eq

theorem tokens_append (f g : Formula) : (f ++ g).tokens = f.tokens ++ g.tokens :=
  List.flatMap_append

@[simp]
theorem literals_append (f g : Formula) : literals (f ++ g) = literals f ++ literals g := by
  rw [literals, tokens_append, FormulaText.literals_append, literals, literals]

@[simp]
theorem literals_code_cons (text : String) (f : Formula) :
    literals (.code text :: f) = literals (code text) ++ literals f := literals_append (code text) f

@[simp]
theorem literals_literal_cons (text : String) (f : Formula) :
    literals (.literal text :: f) = text :: literals f := literals_append [.literal text] f

@[simp]
theorem literals_nil : literals [] = [] := rfl

@[simp]
theorem outside_append (f g : Formula) : outside (f ++ g) = outside f ++ outside g := by
  rw [outside, tokens_append, FormulaText.outside_append, outside, outside]

theorem outside_cons (p : FormulaPiece) (f : Formula) : outside (p :: f) = outside [p] ++ outside f :=
  outside_append [p] f

@[simp]
theorem outside_literal (text : String) : outside [.literal text] = [.literal ""] := rfl

theorem isWhole_append (hf : f.IsWhole) (hg : g.IsWhole) : IsWhole (f ++ g) :=
  List.forall_mem_append.mpr ⟨hf, hg⟩

theorem isWhole_code {text : String} (h : (FormulaText.tokens? text).isSome = true) :
    (code text).IsWhole := List.forall_mem_singleton.mpr h

theorem isWhole_code_cons {text : String} (h : (FormulaText.tokens? text).isSome = true)
    (hf : f.IsWhole) : IsWhole (.code text :: f) := List.forall_mem_cons.mpr ⟨h, hf⟩

theorem tokens?_plain {text : String} (h : '\x27' ∉ text.toList) :
    FormulaText.tokens? text = some (text.toList.map .code) := (FormulaText.reads_plain h).scan_eq

theorem literals_plain {text : String} (h : '\x27' ∉ text.toList) : literals (code text) = [] := by
  rw [literals, tokens, code, List.flatMap_singleton, FormulaPiece.tokens, tokens?_plain h]
  exact FormulaText.literals_map_code _

/-! ### Fields, values and lists -/

theorem isWhole_reference (h : '\x27' ∉ column.field.toList) : (reference column).IsWhole := by
  rw [reference]
  split
  · exact isWhole_code rfl
  · exact List.forall_mem_singleton.mpr h

@[simp]
theorem literals_reference (column : Column) : literals (reference column) = [] := by
  rw [reference]
  split
  · rfl
  · rw [literals, tokens, List.flatMap_singleton]
    exact FormulaText.literals_map_code _

/-- The texts that a value is quoted as: its own, or that of a nested value. -/
def quotedTexts : Json → List String
  | .null | .bool _ | .number _ => []
  | v => [v.shown]

theorem not_mem_text (n : Json.Number) : '\x27' ∉ n.text.toList := by
  rw [Json.Number.text, String.toList_ofList]
  intro hquote
  cases n with
  | int n => cases Json.Token.isNumeric_of_mem_intChars hquote
  | float x =>
      by_cases hfinite : x.isFinite = true
      · cases Json.Token.isNumeric_of_mem_chars (n := .float x) hfinite hquote
      · rw [Json.Number.chars, if_neg hfinite] at hquote
        exact absurd hquote (by decide)

theorem isWhole_ofValue (v : Json) : (ofValue v).IsWhole := by
  have hliteral : ∀ text, IsWhole [.literal text] := fun _ => List.forall_mem_singleton.mpr trivial
  cases v with
  | null => exact isWhole_code rfl
  | bool b => cases b <;> exact isWhole_code rfl
  | number n => exact isWhole_code (by rw [tokens?_plain (not_mem_text n)]; rfl)
  | string s => exact hliteral s
  | array _ | object _ => exact hliteral _

theorem literals_ofValue (v : Json) : literals (ofValue v) = quotedTexts v := by
  cases v with
  | null => rfl
  | bool b => cases b <;> rfl
  | number n => exact literals_plain (not_mem_text n)
  | string _ | array _ | object _ => rfl

/-- The texts that a value is quoted as once it is shaped for a column. -/
def valueTexts (column : Column) (v : Json) : List String :=
  match Coercion.outbound column capabilities v with
  | .ok coerced => quotedTexts coerced
  | .error _ => []

theorem value_eq_ok (h : value column v = .ok f) : f.IsWhole ∧ literals f = valueTexts column v := by
  obtain ⟨coerced, hcoerced, rfl⟩ := exists_of_map_eq_ok h
  refine ⟨isWhole_ofValue coerced, ?_⟩
  rw [literals_ofValue, valueTexts, hcoerced]

theorem separated_cons_cons (separator : String) (f g : Formula) (gs : List Formula) :
    separated separator (f :: g :: gs) = f ++ .code separator :: separated separator (g :: gs) := rfl

theorem isWhole_separated {separator : String} {fs : List Formula}
    (hseparator : (FormulaText.tokens? separator).isSome = true) (h : ∀ f ∈ fs, f.IsWhole) :
    (separated separator fs).IsWhole := by
  induction fs with
  | nil => exact nofun
  | cons f fs ih =>
      obtain ⟨hf, hrest⟩ := List.forall_mem_cons.mp h
      cases fs with
      | nil => exact hf
      | cons g gs => exact isWhole_append hf (isWhole_code_cons hseparator (ih hrest))

theorem literals_separated {separator : String} (hseparator : literals (code separator) = [])
    (fs : List Formula) : literals (separated separator fs) = fs.flatMap literals := by
  induction fs with
  | nil => rfl
  | cons f fs ih =>
      cases fs with
      | nil => simp [separated]
      | cons g gs =>
          rw [separated_cons_cons, literals_append, literals_code_cons, ih, hseparator,
            List.nil_append, List.flatMap_cons (x := f)]

theorem outside_separated (separator : String) {fs gs : List Formula}
    (h : fs.map outside = gs.map outside) :
    outside (separated separator fs) = outside (separated separator gs) := by
  induction fs generalizing gs with
  | nil =>
      obtain rfl := List.map_eq_nil_iff.mp h.symm
      rfl
  | cons f fs ih =>
      obtain ⟨g, gs, rfl, hg, hgs⟩ := List.map_eq_cons_iff.mp h.symm
      have hrest := ih hgs.symm
      cases fs with
      | nil =>
          obtain rfl := List.map_eq_nil_iff.mp hgs
          exact hg.symm
      | cons f' fs =>
          obtain ⟨g', gs, rfl, -, -⟩ := List.map_eq_cons_iff.mp hgs
          rw [separated_cons_cons, separated_cons_cons, outside_append, outside_append, outside_cons,
            outside_cons _ (separated _ _), hg, hrest]

/-! ### Conditions -/

/-- The texts of the value that a condition compares with. -/
def comparedTexts (column : Column) (p : Predicate) : List String :=
  p.value.toList.flatMap (valueTexts column)

/-- The unit in which a date is compared for equality. -/
def unitTexts (column : Column) (p : Predicate) : List String :=
  if column.type = .date ∧ isNullValue p.value = false then ["second"] else []

/-- The texts of the literals of a condition: those of its values, its pattern as a regular expression,
or its search term, and the constants that stand beside them. -/
def said (column : Column) (p : Predicate) : List String :=
  match p.operator with
  | .equals | .notEquals => comparedTexts column p ++ unitTexts column p
  | .lt | .lte | .gt | .gte => comparedTexts column p
  | .like | .notLike => ["", Like.toRegex (textOf p.value)]
  | .search => [textOf p.value, ""]
  | .isIn | .notIn => p.listValues.flatMap (valueTexts column)
  | .null | .notNull => []

theorem isWhole_negated (h : f.IsWhole) : (negated f).IsWhole :=
  isWhole_append (isWhole_append (isWhole_code rfl) h) (isWhole_code rfl)

@[simp]
theorem literals_negated (f : Formula) : literals (negated f) = literals f := by
  have hopen : literals (code "NOT(") = [] := rfl
  have hclose : literals (code ")") = [] := rfl
  simp [negated, hopen, hclose]

theorem outside_negated (h : outside f = outside g) : outside (negated f) = outside (negated g) := by
  simp only [negated, outside_append, h]

theorem isWhole_isBlank (h : '\x27' ∉ column.field.toList) : (isBlank column).IsWhole :=
  isWhole_append (isWhole_reference h) (isWhole_code rfl)

@[simp]
theorem literals_isBlank (column : Column) : literals (isBlank column) = [] := by
  have hsign : literals (code " = BLANK()") = [] := rfl
  simp [isBlank, hsign]

theorem isWhole_matchesPattern (h : '\x27' ∉ column.field.toList) (p : Predicate) :
    (matchesPattern column p).IsWhole := by
  have hlast : IsWhole [.literal (Like.toRegex (textOf p.value)), .code ")"] :=
    List.forall_mem_cons.mpr ⟨trivial, isWhole_code rfl⟩
  exact isWhole_append (isWhole_append (isWhole_append (isWhole_code rfl) (isWhole_reference h))
    (isWhole_code rfl)) hlast

@[simp]
theorem literals_matchesPattern (column : Column) (p : Predicate) :
    literals (matchesPattern column p) = ["", Like.toRegex (textOf p.value)] := by
  have hopen : literals (code "REGEX_MATCH(") = [] := rfl
  have hmiddle : literals (code " & '', ") = [""] := rfl
  have hclose : literals (code ")") = [] := rfl
  simp [matchesPattern, hopen, hmiddle, hclose]

theorem isWhole_contains (h : '\x27' ∉ column.field.toList) (p : Predicate) :
    (contains column p).IsWhole := by
  have hfirst : IsWhole [.code "SEARCH(LOWER(", .literal (textOf p.value), .code "), LOWER("] :=
    isWhole_code_cons rfl (List.forall_mem_cons.mpr ⟨trivial, isWhole_code rfl⟩)
  exact isWhole_append (isWhole_append hfirst (isWhole_reference h)) (isWhole_code rfl)

@[simp]
theorem literals_contains (column : Column) (p : Predicate) :
    literals (contains column p) = [textOf p.value, ""] := by
  have hopen : literals (code "SEARCH(LOWER(") = [] := rfl
  have hmiddle : literals (code "), LOWER(") = [] := rfl
  have hclose : literals (code " & ''))") = [""] := rfl
  simp [contains, hopen, hmiddle, hclose]

/-- Equality and its negation, which compare dates in a unit of time. -/
def Comparison.isEquality : Comparison → Bool
  | equal | notEqual => true
  | _ => false

theorem isWhole_compareDate (comparison : Comparison) (hf : f.IsWhole) (hg : g.IsWhole) :
    (compareDate comparison f g).IsWhole := by
  have hcall : ∀ function last : String,
      (FormulaText.tokens? (function ++ "(")).isSome = true →
      (FormulaText.tokens? (")" ++ last ++ ")")).isSome = true →
        (onDate function f g last).IsWhole := fun function last hfunction hlast =>
    isWhole_append (isWhole_append (isWhole_append (isWhole_append (isWhole_code hfunction) hf)
      (isWhole_code rfl)) hg) (isWhole_code hlast)
  cases comparison with
  | equal => exact hcall _ _ rfl rfl
  | notEqual => exact isWhole_negated (hcall _ _ rfl rfl)
  | less => exact hcall _ _ rfl rfl
  | lessOrEqual => exact isWhole_negated (hcall _ _ rfl rfl)
  | greater => exact hcall _ _ rfl rfl
  | greaterOrEqual => exact isWhole_negated (hcall _ _ rfl rfl)

theorem literals_compareDate (comparison : Comparison) (hf : literals f = []) (g : Formula) :
    literals (compareDate comparison f g) =
      literals g ++ if comparison.isEquality then ["second"] else [] := by
  have hcall : ∀ (function last : String) (unit : List String),
      literals (code (function ++ "(")) = [] → literals (code (")" ++ last ++ ")")) = unit →
        literals (onDate function f g last) = literals g ++ unit := by
    intro function last unit hfunction hlast
    have hparse : literals (code ", DATETIME_PARSE(") = [] := rfl
    simp only [onDate, literals_append, hfunction, hf, hparse, hlast, List.nil_append]
  cases comparison with
  | equal => exact hcall _ _ _ rfl rfl
  | notEqual => exact (literals_negated _).trans (hcall _ _ _ rfl rfl)
  | less => exact hcall _ _ _ rfl rfl
  | lessOrEqual => exact (literals_negated _).trans (hcall _ _ _ rfl rfl)
  | greater => exact hcall _ _ _ rfl rfl
  | greaterOrEqual => exact (literals_negated _).trans (hcall _ _ _ rfl rfl)

theorem outside_compareDate (comparison : Comparison) (field : Formula)
    (h : outside f = outside g) :
    outside (compareDate comparison field f) = outside (compareDate comparison field g) := by
  cases comparison <;>
    simp only [compareDate, sameSecond, negated, onDate, outside_append, h]

theorem literals_sign (comparison : Comparison) : literals (code comparison.sign) = [] := by
  cases comparison <;> rfl

/-! ### What a condition says -/

/-- A formula that is read to its end and whose literals say these texts. -/
def Says (f : Formula) (texts : List String) : Prop := f.IsWhole ∧ literals f = texts

theorem Says.negated {texts : List String} (h : f.Says texts) : (Formula.negated f).Says texts :=
  ⟨isWhole_negated h.1, (literals_negated f).trans h.2⟩

section Condition

variable (hname : '\x27' ∉ column.field.toList)

include hname

theorem says_isBlank : (isBlank column).Says [] :=
  ⟨isWhole_isBlank hname, literals_isBlank column⟩

/-- A comparison that compiles has a value, and the literals of that value. -/
theorem says_compared {comparison : Comparison} (h : compared column p comparison = .ok f) :
    f.Says (comparedTexts column p ++
      if comparison.isEquality then unitTexts column p else []) := by
  rw [compared] at h
  split at h
  next => cases h
  next => cases h
  next v hnull hvalue =>
    have hsome : isNullValue p.value = false := by
      rw [hvalue]
      cases v with
      | null => exact absurd rfl hnull
      | _ => rfl
    obtain ⟨bound, hbound, rfl⟩ := exists_of_map_eq_ok h
    obtain ⟨hwhole, hliterals⟩ := value_eq_ok hbound
    have htexts : comparedTexts column p = literals bound := by
      rw [comparedTexts, hvalue, Option.toList_some, List.flatMap_singleton, hliterals]
    rw [htexts]
    by_cases hdate : column.type = .date
    · have hunit : unitTexts column p = ["second"] := if_pos ⟨hdate, hsome⟩
      rw [if_pos hdate, hunit]
      exact ⟨isWhole_compareDate comparison (isWhole_reference hname) hwhole,
        literals_compareDate comparison (literals_reference column) bound⟩
    · have hunit : unitTexts column p = [] := if_neg fun h => hdate h.1
      rw [if_neg hdate, hunit, ite_self, List.append_nil]
      refine ⟨isWhole_append (isWhole_reference hname) (isWhole_code_cons ?_ hwhole), ?_⟩
      · cases comparison <;> rfl
      · simp [literals_sign]

/-- Equality and its negation test for null, or compare with a value. -/
theorem says_equality {comparison : Comparison} {test : Formula} (htest : test.Says [])
    (hequality : comparison.isEquality = true)
    (h : (if isNullValue p.value then .ok test else compared column p comparison) = .ok f) :
    f.Says (comparedTexts column p ++ unitTexts column p) := by
  by_cases hnull : isNullValue p.value = true
  · rw [if_pos hnull] at h
    obtain rfl := Except.ok.inj h
    have hnone : comparedTexts column p = [] := by
      rw [comparedTexts]
      cases hvalue : p.value with
      | none => rfl
      | some v =>
          rw [hvalue] at hnull
          cases v with
          | null => rfl
          | _ => cases hnull
    rw [hnone, unitTexts, hnull, if_neg (by simp)]
    exact htest
  · rw [if_neg hnull] at h
    have hsays := says_compared hname h
    rwa [hequality, if_pos rfl] at hsays

theorem says_order {comparison : Comparison} (horder : comparison.isEquality = false)
    (h : compared column p comparison = .ok f) : f.Says (comparedTexts column p) := by
  have hsays := says_compared hname h
  rwa [horder, if_neg Bool.false_ne_true, List.append_nil] at hsays

theorem says_anyOf {values : List Json} (h : anyOf column values = .ok f) :
    f.Says (values.flatMap (valueTexts column)) := by
  obtain ⟨items, hitems, rfl⟩ := exists_of_map_eq_ok h
  constructor
  · refine isWhole_append (isWhole_append (isWhole_code rfl) (isWhole_separated rfl ?_))
      (isWhole_code rfl)
    intro part hpart
    obtain ⟨item, hitem, rfl⟩ := List.mem_map.mp hpart
    obtain ⟨v, -, hv⟩ := exists_of_mem_mapM hitems hitem
    exact isWhole_append (isWhole_reference hname) (isWhole_code_cons rfl (value_eq_ok hv).1)
  · have hopen : literals (code "OR(") = [] := rfl
    have hclose : literals (code ")") = [] := rfl
    have hcomma : literals (code ", ") = [] := rfl
    have hequal : literals (code " = ") = [] := rfl
    have htexts : items.map literals = values.map (valueTexts column) :=
      map_eq_of_mapM_eq_ok (fun _ _ _ hv => (value_eq_ok hv).2) hitems
    simp only [literals_append, hopen, hclose, literals_separated hcomma, List.nil_append,
      List.append_nil, List.flatMap_map, literals_reference, literals_code_cons, hequal]
    rw [List.flatMap_def, List.flatMap_def, htexts]

/-- A list without values is decided at once. -/
theorem says_list (text : String) (wrap : Formula → Formula) (htext : (code text).Says [])
    (hwrap : ∀ {g : Formula} {texts : List String}, g.Says texts → (wrap g).Says texts)
    (h : (if p.listValues.isEmpty then .ok (code text)
      else (anyOf column p.listValues).map wrap) = .ok f) :
    f.Says (p.listValues.flatMap (valueTexts column)) := by
  by_cases hempty : p.listValues.isEmpty = true
  · rw [if_pos hempty] at h
    obtain rfl := Except.ok.inj h
    rwa [List.isEmpty_iff.mp hempty]
  · rw [if_neg hempty] at h
    obtain ⟨g, hg, rfl⟩ := exists_of_map_eq_ok h
    exact hwrap (says_anyOf hname hg)

theorem says_condition (h : condition column p = .ok f) : f.Says (said column p) := by
  have hblank := says_isBlank hname
  have hpattern : (matchesPattern column p).Says ["", Like.toRegex (textOf p.value)] :=
    ⟨isWhole_matchesPattern hname p, literals_matchesPattern column p⟩
  rw [condition] at h
  rw [said]
  cases hop : p.operator <;> simp only [hop] at h ⊢
  case equals => exact says_equality hname hblank rfl h
  case notEquals => exact says_equality hname hblank.negated rfl h
  case lt | lte | gt | gte => exact says_order hname rfl h
  case like => exact Except.ok.inj h ▸ hpattern
  case notLike => exact Except.ok.inj h ▸ hpattern.negated
  case search =>
    obtain rfl := Except.ok.inj h
    exact ⟨isWhole_contains hname p, literals_contains column p⟩
  case isIn =>
    refine says_list hname "FALSE()" id ⟨isWhole_code rfl, rfl⟩ id ?_
    rw [← h]
    cases anyOf column p.listValues <;> rfl
  case notIn => exact says_list hname "TRUE()" negated ⟨isWhole_code rfl, rfl⟩ Says.negated h
  case null => exact Except.ok.inj h ▸ hblank
  case notNull => exact Except.ok.inj h ▸ hblank.negated

end Condition

/-- The texts that the literals of a formula say of a condition. -/
def saidOf (schema : Schema) (p : Predicate) : List String :=
  match schema.column? p.column with
  | some column => said column p
  | none => []

theorem says_ofPredicate (hname : '\x27' ∉ p.column.toList) (h : ofPredicate schema p = .ok f) :
    f.Says (saidOf schema p) := by
  obtain ⟨hown, column, hcolumn⟩ := column_of_ofPredicate h
  rw [saidOf, hcolumn]
  have hfield : column.field = p.column := (Schema.column?_eq_some hcolumn).2
  have hcondition := ofPredicate_of_column hown hcolumn p.operator p.value
  exact says_condition (hfield ▸ hname) (hcondition.symm.trans h)

theorem says_joinAll {fs : List Formula} (hwhole : ∀ f ∈ fs, f.IsWhole)
    (h : joinAll fs = some f) : f.Says (fs.flatMap literals) := by
  match fs with
  | [] => cases h
  | [g] =>
      obtain rfl := Option.some.inj h
      exact ⟨List.forall_mem_singleton.mp hwhole, (List.flatMap_singleton _ _).symm⟩
  | g :: g' :: gs =>
      obtain rfl := Option.some.inj h
      have hopen : literals (code "AND(") = [] := rfl
      have hclose : literals (code ")") = [] := rfl
      have hcomma : literals (code ", ") = [] := rfl
      refine ⟨isWhole_append (isWhole_append (isWhole_code rfl) (isWhole_separated rfl hwhole))
        (isWhole_code rfl), ?_⟩
      rw [literals_append, literals_append, literals_separated hcomma, hopen, hclose,
        List.nil_append, List.append_nil]

theorem says_ofPredicates {ps : List Predicate} (hnames : ∀ p ∈ ps, '\x27' ∉ p.column.toList)
    (h : ofPredicates schema ps = .ok (some f)) : f.Says (ps.flatMap (saidOf schema)) := by
  obtain ⟨fs, hfs, hjoin⟩ := exists_of_map_eq_ok h
  have hwhole : ∀ g ∈ fs, g.IsWhole := fun g hg => by
    obtain ⟨p, hp, hcompiled⟩ := exists_of_mem_mapM hfs hg
    exact (says_ofPredicate (hnames p hp) hcompiled).1
  have htexts : fs.map literals = ps.map (saidOf schema) :=
    map_eq_of_mapM_eq_ok (fun p hp _ hcompiled => (says_ofPredicate (hnames p hp) hcompiled).2) hfs
  have hsays := says_joinAll hwhole hjoin
  rwa [List.flatMap_def, htexts, ← List.flatMap_def] at hsays

/-! ### Conditions with other texts -/

end Formula

/-- Values that are the same but for their texts. -/
inductive Json.TextVariant : Json → Json → Prop
  | same (v : Json) : TextVariant v v
  | text (s t : String) : TextVariant (.string s) (.string t)
  | array {items others : List Json} (h : List.Forall₂ TextVariant items others) :
      TextVariant (.array items) (.array others)

/-- Conditions that are the same but for the texts that a column of texts is compared with. Lists have
equally many values. -/
structure Predicate.TextVariant (schema : Schema) (p q : Predicate) : Prop where
  column : p.column = q.column
  operator : p.operator = q.operator
  value : p.value = q.value ∨
    (∃ c, schema.column? p.column = some c ∧ c.type = .string) ∧
      ∃ v w, p.value = some v ∧ q.value = some w ∧ v.TextVariant w
  count : p.operator.takesList = true → p.listValues.length = q.listValues.length

namespace Formula

variable {f g : Formula} {schema : Schema} {column : Column} {p q : Predicate} {v w : Json}

theorem outside_ofValue (h : v.TextVariant w) : outside (ofValue v) = outside (ofValue w) := by
  cases h <;> rfl

theorem isNullValue_variant (h : v.TextVariant w) : isNullValue (some v) = isNullValue (some w) := by
  cases h <;> rfl

theorem value_of_string (htype : column.type = .string) (v : Json) :
    value column v = .ok (ofValue v) := by
  cases v <;> simp [value, Coercion.outbound, Json.isNull, htype, Except.map]

/-- The values of lists that are the same but for their texts. -/
theorem forall₂_listValues (hp : p.value = some v) (hq : q.value = some w) (h : v.TextVariant w)
    (hcount : p.listValues.length = q.listValues.length) :
    List.Forall₂ Json.TextVariant p.listValues q.listValues := by
  have hrefl : ∀ l : List Json, List.Forall₂ Json.TextVariant l l := fun l =>
    List.forall₂_same.mpr fun v _ => .same v
  cases h with
  | same v =>
      have hvalues : p.listValues = q.listValues := by
        rw [Predicate.listValues, Predicate.listValues, hp, hq]
      rw [hvalues]
      exact hrefl _
  | text s t =>
      refine List.forall₂_iff_get.mpr ⟨hcount, ?_⟩
      rw [Predicate.listValues, Predicate.listValues, hp, hq]
      intro i hi hj
      simp only [List.get_eq_getElem, List.getElem_map]
      exact .text _ _
  | array h =>
      rw [Predicate.listValues, Predicate.listValues, hp, hq]
      exact h

theorem mapM_map_congr {ε α β γ : Type} {f : α → Except ε β} {k : β → γ} {l l' : List α}
    (h : List.Forall₂ (fun a b => (f a).map k = (f b).map k) l l') :
    (l.mapM f).map (List.map k) = (l'.mapM f).map (List.map k) := by
  rw [← mapM_map, ← mapM_map]
  induction h with
  | nil => rfl
  | cons hfirst _ ih => rw [List.mapM_cons, List.mapM_cons, hfirst, ih]

theorem outside_anyOf {values others : List Json}
    (h : (values.mapM (value column)).map (List.map outside) =
      (others.mapM (value column)).map (List.map outside)) :
    (anyOf column values).map outside = (anyOf column others).map outside := by
  refine map_map_congr h fun items items' hitems => ?_
  have hsigned : (items.map fun item => reference column ++ .code " = " :: item).map outside =
      (items'.map fun item => reference column ++ .code " = " :: item).map outside := by
    have hmap : ∀ items : List Formula,
        (items.map fun item => reference column ++ .code " = " :: item).map outside =
          (items.map outside).map fun o => outside (reference column) ++ (outside (code " = ") ++ o) := by
      intro items
      simp only [List.map_map]
      refine List.map_congr_left fun item _ => ?_
      exact outside_append _ _
    rw [hmap, hmap, hitems]
  rw [outside_append, outside_append, outside_append, outside_append,
    outside_separated ", " hsigned]

theorem outside_compared {comparison : Comparison} (hp : p.value = some v) (hq : q.value = some w)
    (hnull : isNullValue (some v) = isNullValue (some w))
    (h : (value column v).map outside = (value column w).map outside) :
    (compared column p comparison).map outside = (compared column q comparison).map outside := by
  have hvalue : ∀ {p : Predicate} {v : Json}, p.value = some v → isNullValue (some v) = false →
      compared column p comparison = (value column v).map fun bound =>
        if column.type = .date then compareDate comparison (reference column) bound
        else reference column ++ .code comparison.sign :: bound := by
    intro p v hp hv
    rw [compared, hp]
    cases v with
    | null => cases hv
    | _ => rfl
  have hnone : ∀ {p : Predicate} {v : Json}, p.value = some v → isNullValue (some v) = true →
      compared column p comparison = .error (.invalidValue column.field "a value" "null") := by
    intro p v hp hv
    rw [compared, hp]
    cases v with
    | null => rfl
    | _ => cases hv
  cases hv : isNullValue (some v) with
  | true => rw [hnone hp hv, hnone hq (hnull ▸ hv)]
  | false =>
      rw [hvalue hp hv, hvalue hq (hnull ▸ hv)]
      refine map_map_congr h fun f g hfg => ?_
      by_cases hdate : column.type = .date
      · rw [if_pos hdate, if_pos hdate]
        exact outside_compareDate comparison _ hfg
      · rw [if_neg hdate, if_neg hdate, outside_append, outside_append, outside_cons, outside_cons _ g,
          hfg]

/-- Outside its literals a condition does not depend on the texts that it compares with. -/
theorem outside_condition (hoperator : p.operator = q.operator) (htype : column.type = .string)
    (hp : p.value = some v) (hq : q.value = some w) (h : v.TextVariant w)
    (hcount : p.operator.takesList = true → p.listValues.length = q.listValues.length) :
    (condition column p).map outside = (condition column q).map outside := by
  have hvalue : ∀ {v w : Json}, v.TextVariant w →
      (value column v).map outside = (value column w).map outside := by
    intro v w h
    rw [value_of_string htype, value_of_string htype]
    exact congrArg Except.ok (outside_ofValue h)
  have hnull : isNullValue p.value = isNullValue q.value := by
    rw [hp, hq, isNullValue_variant h]
  have hcompared : ∀ comparison, (compared column p comparison).map outside =
      (compared column q comparison).map outside := fun _ =>
    outside_compared hp hq (isNullValue_variant h) (hvalue h)
  have hpattern : outside (matchesPattern column p) = outside (matchesPattern column q) := by
    rw [matchesPattern, matchesPattern, outside_append, outside_append _ (.literal _ :: _)]
    rfl
  have hcontains : outside (contains column p) = outside (contains column q) := by
    rw [contains, contains]
    simp only [outside_append]
    rfl
  have hlist : p.operator.takesList = true →
      p.listValues.isEmpty = q.listValues.isEmpty ∧
        (anyOf column p.listValues).map outside = (anyOf column q.listValues).map outside := by
    intro hop
    have hvalues := forall₂_listValues hp hq h (hcount hop)
    refine ⟨?_, outside_anyOf (mapM_map_congr (hvalues.imp fun _ _ => hvalue))⟩
    rw [Bool.eq_iff_iff, List.isEmpty_iff_length_eq_zero, List.isEmpty_iff_length_eq_zero, hcount hop]
  rw [condition, condition, ← hoperator, ← hnull]
  cases hop : p.operator <;> simp only
  case equals | notEquals =>
    split
    · rfl
    · exact hcompared _
  case lt | lte | gt | gte => exact hcompared _
  case like => exact congrArg Except.ok hpattern
  case notLike => exact congrArg Except.ok (outside_negated hpattern)
  case search => exact congrArg Except.ok hcontains
  case isIn =>
    obtain ⟨hempty, hany⟩ := hlist (by rw [hop]; rfl)
    rw [hempty]
    split
    · rfl
    · exact hany
  case notIn =>
    obtain ⟨hempty, hany⟩ := hlist (by rw [hop]; rfl)
    rw [hempty]
    split
    · rfl
    · exact map_map_congr hany fun _ _ => outside_negated

theorem outside_ofPredicate (h : p.TextVariant schema q) :
    (ofPredicate schema p).map outside = (ofPredicate schema q).map outside := by
  rcases h.value with hsame | ⟨⟨column, hcolumn, htype⟩, v, w, hp, hq, hvariant⟩
  · have heq : p = q := by
      obtain ⟨name, operator, value⟩ := p
      obtain rfl : name = q.column := h.column
      obtain rfl : operator = q.operator := h.operator
      obtain rfl : value = q.value := hsame
      rfl
    rw [heq]
  · have hrelation : q.isRelation = p.isRelation := by
      rw [Predicate.isRelation, Predicate.isRelation, h.column]
    rw [ofPredicate, ofPredicate, hrelation, ← h.column, hcolumn]
    split
    · rfl
    · exact outside_condition h.operator htype hp hq hvariant h.count

theorem outside_joinAll {fs gs : List Formula} (h : fs.map outside = gs.map outside) :
    (joinAll fs).map outside = (joinAll gs).map outside := by
  match fs with
  | [] =>
      obtain rfl := List.map_eq_nil_iff.mp h.symm
      rfl
  | [f] =>
      obtain ⟨g, gs, rfl, hg, hgs⟩ := List.map_eq_cons_iff.mp h.symm
      obtain rfl := List.map_eq_nil_iff.mp hgs
      exact congrArg some hg.symm
  | f :: f' :: fs =>
      obtain ⟨g, gs, rfl, -, hgs⟩ := List.map_eq_cons_iff.mp h.symm
      obtain ⟨g', gs, rfl, -, -⟩ := List.map_eq_cons_iff.mp hgs
      have hall := outside_separated ", " h
      refine congrArg some ?_
      rw [outside_append, outside_append, hall, ← outside_append, ← outside_append]

/-- What the formula of several conditions is outside its literals. -/
def outline (schema : Schema) (ps : List Predicate) :
    Except EngineError (Option (Option (List FormulaText.Token))) :=
  (ofPredicates schema ps).map (Option.map fun f =>
    (FormulaText.tokens? f.text).map FormulaText.outside)

theorem outline_eq {ps : List Predicate} (hnames : ∀ p ∈ ps, '\x27' ∉ p.column.toList) :
    outline schema ps = ((ofPredicates schema ps).map (Option.map outside)).map (Option.map some) := by
  rw [outline]
  cases hps : ofPredicates schema ps with
  | error e => rfl
  | ok f =>
      cases f with
      | none => rfl
      | some f =>
          have htokens := tokens?_text (says_ofPredicates hnames hps).1
          simp [Except.map, htokens, outside]

/-- **Texts stay in their literals.** If no name of a column has a quote, then the formula of several
conditions is read as code and whole literals, and the literals say the coerced texts of the values,
the regular expressions of the patterns and the search terms, in their order. Conditions that differ
only in the texts that columns of texts are compared with have formulas that differ only inside their
literals. -/
theorem texts_stay_in_literals (schema : Schema) (ps : List Predicate)
    (hnames : ∀ p ∈ ps, '\x27' ∉ p.column.toList) :
    (∀ f, ofPredicates schema ps = .ok (some f) →
      ∃ tokens, FormulaText.tokens? f.text = some tokens ∧
        FormulaText.literals tokens = ps.flatMap (saidOf schema)) ∧
    ∀ qs, List.Forall₂ (Predicate.TextVariant schema) ps qs → outline schema qs = outline schema ps := by
  constructor
  · intro f hf
    obtain ⟨hwhole, hliterals⟩ := says_ofPredicates hnames hf
    exact ⟨f.tokens, tokens?_text hwhole, hliterals⟩
  · intro qs hvariant
    have hothers : ∀ q ∈ qs, '\x27' ∉ q.column.toList := by
      induction hvariant with
      | nil => exact nofun
      | cons hfirst _ ih =>
          obtain ⟨hname, hmore⟩ := List.forall_mem_cons.mp hnames
          exact List.forall_mem_cons.mpr ⟨hfirst.column ▸ hname, ih hmore⟩
    have hformulas := mapM_map_congr (hvariant.imp fun _ _ => outside_ofPredicate)
    rw [outline_eq hnames, outline_eq hothers]
    refine congrArg (Except.map (Option.map some)) ?_
    exact (map_map_congr hformulas fun _ _ => outside_joinAll).symm

/-- Guests with a name, and with the day since when they are guests. -/
def guests : Schema :=
  Schema.ofColumns "Guests" [Column.ofType "Name" .string, Column.ofType "Since" .date]

/-- A backslash before the closing quote, quotes around code, and a line end in a pattern. -/
theorem texts_stay_in_literals_guests :
    let since : Predicate := .equals "Since" (.string "2024-01-01")
    let ps : List Predicate := [⟨"Name", .isIn, some (.array [.string "a\\", .string "', TRUE(), '"])⟩,
      ⟨"Name", .like, some (.string "50%'\n")⟩, since]
    let qs : List Predicate := [⟨"Name", .isIn, some (.array [.string "a", .string ""])⟩,
      ⟨"Name", .like, some (.string "%")⟩, since]
    (∀ p ∈ ps, '\x27' ∉ p.column.toList) ∧ List.Forall₂ (Predicate.TextVariant guests) ps qs ∧
    ∃ f tokens, ofPredicates guests ps = .ok (some f) ∧ FormulaText.tokens? f.text = some tokens ∧
      FormulaText.literals tokens =
        ["a\\", "', TRUE(), '", "", "^50.*'\n$", "2024-01-01 00:00:00", "second"] ∧
      outline guests qs = outline guests ps := by
  intro since ps qs
  have hnames : ∀ p ∈ ps, '\x27' ∉ p.column.toList := by decide
  have hname : ∃ c, guests.column? "Name" = some c ∧ c.type = .string := ⟨_, rfl, rfl⟩
  have hvariant : List.Forall₂ (Predicate.TextVariant guests) ps qs := by
    refine .cons ⟨rfl, rfl, .inr ⟨hname, _, _, rfl, rfl, .array ?_⟩, fun _ => rfl⟩
      (.cons ⟨rfl, rfl, .inr ⟨hname, _, _, rfl, rfl, .text _ _⟩, nofun⟩
        (.cons ⟨rfl, rfl, .inl rfl, fun _ => rfl⟩ .nil))
    exact .cons (.text _ _) (.cons (.text _ _) .nil)
  obtain ⟨f, hf⟩ : ∃ f, ofPredicates guests ps = .ok (some f) := by
    have hsome : (ofPredicates guests ps).toOption.join.isSome = true := by decide +kernel
    obtain ⟨f, hf⟩ := Option.isSome_iff_exists.mp hsome
    exact ⟨f, eq_ok_of_toOption_eq_some (Option.join_eq_some_iff.mp hf)⟩
  obtain ⟨hread, houtline⟩ := texts_stay_in_literals guests ps hnames
  obtain ⟨tokens, htokens, hliterals⟩ := hread f hf
  refine ⟨hnames, hvariant, f, tokens, hf, htokens, hliterals.trans ?_, houtline qs hvariant⟩
  decide +kernel

end Formula

end DataAccess
