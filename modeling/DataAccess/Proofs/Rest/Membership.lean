import DataAccess.Proofs.Results
import DataAccess.Proofs.Text.Quoted
import DataAccess.Rest.Formula

/-!
# Membership in formulas

Membership in a list is compiled apart from equality with each of its values. Both compile for the
same values, and the formula of membership is a disjunction of the formulas of equality, unless the
column holds dates: dates are compared for equality by a function, and in a list by the sign that
compares them with a text.
-/

namespace DataAccess

theorem mapM_map {ε α β γ : Type} (f : α → Except ε β) (g : β → γ) (l : List α) :
    l.mapM (fun a => (f a).map g) = (l.mapM f).map (List.map g) := by
  induction l with
  | nil => rfl
  | cons first rest ih =>
      rw [List.mapM_cons, List.mapM_cons, ih]
      cases f first with
      | error error => rfl
      | ok b => cases rest.mapM f <;> rfl

namespace Formula

/-! ### Texts of formulas -/

theorem text_append (f g : Formula) : (f ++ g).text = f.text ++ g.text := by
  rw [text, List.flatMap_append, String.ofList_append]
  rfl

theorem text_code (s : String) : (code s).text = s := by
  simp [text, code, FormulaPiece.chars]

theorem text_separated (separator : String) (fs : List Formula) :
    (separated separator fs).text = Text.join separator (fs.map text) := by
  induction fs with
  | nil => rfl
  | cons f fs ih =>
      cases fs with
      | nil => rw [separated, List.map_singleton, Text.join_singleton]
      | cons g gs =>
          have hcode : FormulaPiece.code separator :: separated separator (g :: gs) =
              code separator ++ separated separator (g :: gs) := rfl
          apply String.toList_injective
          rw [separated, hcode, text_append, text_append, text_code, ih, List.map_cons, List.map_cons,
            List.map_cons, Text.toList_join_cons_cons, String.toList_append, String.toList_append]
          exact nofun

/-- The formulas of equality with each of several values. -/
def equalities (schema : Schema) (name : String) (values : List Json) :
    Except EngineError (List Formula) :=
  values.mapM fun v => ofPredicate schema (.equals name v)

/-- The text of a condition that one of several formulas holds. -/
def disjunction (fs : List Formula) : String := "OR(" ++ Text.join ", " (fs.map text) ++ ")"

/-! ### Equality by its sign and by a function -/

variable {schema : Schema} {column : Column}

/-- A field, the sign of equality and a value. -/
def signed (column : Column) (bound : Formula) : Formula :=
  reference column ++ .code " = " :: bound

/-- Membership among compiled values. -/
def membership (column : Column) (bounds : List Formula) : Formula :=
  code "OR(" ++ separated ", " (bounds.map (signed column)) ++ code ")"

/-- Equality with a compiled value. -/
def equality (column : Column) (bound : Formula) : Formula :=
  if column.type = .date then sameSecond (reference column) bound else signed column bound

theorem condition_equals (name : String) {v : Json} (hv : v ≠ .null) :
    condition column (.equals name v) = (value column v).map (equality column) := by
  cases v with
  | null => exact absurd rfl hv
  | _ => rfl

theorem text_membership (bounds : List Formula) :
    (membership column bounds).text = disjunction (bounds.map (signed column)) := by
  rw [membership, text_append, text_append, text_code, text_code, text_separated, disjunction]

/-- A disjunction shows the first character of its first formula. -/
theorem toList_disjunction_cons (f : Formula) (fs : List Formula) :
    ∃ more, (disjunction (f :: fs)).toList = "OR(".toList ++ (f.text.toList ++ more) := by
  obtain ⟨more, hmore⟩ : ∃ more,
      (Text.join ", " ((f :: fs).map text)).toList = f.text.toList ++ more := by
    cases fs with
    | nil => exact ⟨[], by rw [List.map_singleton, Text.join_singleton, List.append_nil]⟩
    | cons g gs => exact ⟨_, Text.toList_join_cons_cons ", " f.text g.text (gs.map text)⟩
  refine ⟨more ++ ")".toList, ?_⟩
  rw [disjunction, String.toList_append, String.toList_append, hmore]
  simp only [List.append_assoc]

theorem head_text_signed (column : Column) (bound : Formula) :
    ∃ c rest, (signed column bound).text.toList = c :: rest ∧ c ≠ 'I' := by
  rw [signed, text_append, String.toList_append]
  unfold reference
  split
  · exact ⟨'R', _, rfl, by decide⟩
  · have hfield : (text [.field column.field]).toList =
        '\x7b' :: (column.field.toList ++ ['\x7d']) := by
      simp [text, FormulaPiece.chars]
    exact ⟨'\x7b', _, by rw [hfield, List.cons_append], by decide⟩

theorem head_text_sameSecond (field bound : Formula) :
    ∃ rest, (sameSecond field bound).text.toList = 'I' :: rest := by
  have hcall : sameSecond field bound = code "IS_SAME(" ++
      (field ++ code ", DATETIME_PARSE(" ++ bound ++ code "), 'second')") := by
    rw [sameSecond, onDate]
    simp only [List.append_assoc]
    rfl
  rw [hcall, text_append, text_code, String.toList_append]
  exact ⟨_, rfl⟩

/-- The two ways of writing equality differ from the first character on. -/
theorem disjunction_signed_eq_iff {bounds : List Formula} (hne : bounds ≠ []) :
    disjunction (bounds.map (signed column)) = disjunction (bounds.map (equality column)) ↔
      column.type ≠ .date := by
  constructor
  · intro heq hdate
    obtain ⟨bound, others, rfl⟩ := List.exists_cons_of_ne_nil hne
    have hequality : equality column bound = sameSecond (reference column) bound := if_pos hdate
    obtain ⟨more, hsigned⟩ :=
      toList_disjunction_cons (signed column bound) (others.map (signed column))
    obtain ⟨more', hsame⟩ :=
      toList_disjunction_cons (equality column bound) (others.map (equality column))
    obtain ⟨c, rest, hc, hother⟩ := head_text_signed column bound
    obtain ⟨rest', hI⟩ := head_text_sameSecond (reference column) bound
    rw [List.map_cons, List.map_cons] at heq
    rw [heq, hsame, hequality, hI, hc] at hsigned
    exact hother (List.cons.inj (List.append_cancel_left hsigned)).1.symm
  · intro htype
    have hequality : equality column = signed column := funext fun bound => if_neg htype
    rw [hequality]

/-! ### Predicates -/

theorem ofPredicate_of_column {name : String} (hown : isRelationReference name = false)
    (hcolumn : schema.column? name = some column) (operator : Operator) (value : Option Json) :
    ofPredicate schema ⟨name, operator, value⟩ = condition column ⟨name, operator, value⟩ := by
  rw [ofPredicate, Predicate.isRelation, hown, hcolumn]
  rfl

theorem column_of_ofPredicate {p : Predicate} {f : Formula} (h : ofPredicate schema p = .ok f) :
    isRelationReference p.column = false ∧ ∃ column, schema.column? p.column = some column := by
  rw [ofPredicate, Predicate.isRelation] at h
  split at h
  next => cases h
  next hown =>
    split at h
    next => cases h
    next column hcolumn => exact ⟨Bool.eq_false_iff.mpr hown, column, hcolumn⟩

theorem equalities_eq (name : String) {values : List Json} (hnull : .null ∉ values)
    (hown : isRelationReference name = false) (hcolumn : schema.column? name = some column) :
    equalities schema name values =
      (values.mapM (value column)).map (List.map (equality column)) := by
  rw [equalities, ← mapM_map]
  refine mapM_congr fun v hv => ?_
  have hvalue : v ≠ .null := fun h => hnull (h ▸ hv)
  exact (ofPredicate_of_column hown hcolumn _ _).trans (condition_equals name hvalue)

/-- The formula of membership and that of its negation, from the compiled values. -/
theorem ofPredicate_memberships {p : Predicate} (hne : p.listValues ≠ [])
    (hown : isRelationReference p.column = false)
    (hcolumn : schema.column? p.column = some column) :
    ofPredicate schema { p with operator := .isIn } =
        (p.listValues.mapM (value column)).map (membership column) ∧
      ofPredicate schema { p with operator := .notIn } =
        ((p.listValues.mapM (value column)).map (membership column)).map negated := by
  have hfull : ¬p.listValues.isEmpty = true := by
    rwa [List.isEmpty_iff]
  exact ⟨(ofPredicate_of_column hown hcolumn _ _).trans (if_neg hfull),
    (ofPredicate_of_column hown hcolumn _ _).trans (if_neg hfull)⟩

theorem exists_isIn_iff {p : Predicate} (hne : p.listValues ≠ []) (hnull : .null ∉ p.listValues) :
    (∃ f, ofPredicate schema { p with operator := .isIn } = .ok f) ↔
      ∃ fs, equalities schema p.column p.listValues = .ok fs := by
  constructor
  · rintro ⟨f, hf⟩
    obtain ⟨hown, column, hcolumn⟩ := column_of_ofPredicate hf
    rw [(ofPredicate_memberships hne hown hcolumn).1] at hf
    obtain ⟨bounds, hbounds, -⟩ := exists_of_map_eq_ok hf
    refine ⟨bounds.map (equality column), ?_⟩
    rw [equalities_eq p.column hnull hown hcolumn, hbounds]
    rfl
  · rintro ⟨fs, hfs⟩
    -- The list has a value, and already its equality needs the column.
    obtain ⟨v, hv⟩ := List.exists_mem_of_ne_nil _ hne
    obtain ⟨own, -, hequal⟩ := exists_mem_of_mapM hfs hv
    obtain ⟨hown, column, hcolumn⟩ := column_of_ofPredicate hequal
    rw [equalities_eq p.column hnull hown hcolumn] at hfs
    obtain ⟨bounds, hbounds, -⟩ := exists_of_map_eq_ok hfs
    refine ⟨membership column bounds, (ofPredicate_memberships hne hown hcolumn).1.trans ?_⟩
    rw [hbounds]
    rfl

/-- **Membership.** A condition that a column is in a list compiles exactly if equality with each value
of the list does, and its negation is its formula negated. The formula is the disjunction of the
equalities exactly if the column holds no dates. -/
theorem membership_is_disjunction_iff (schema : Schema) (p : Predicate) (hne : p.listValues ≠ [])
    (hnull : Json.null ∉ p.listValues) :
    ((∃ f, ofPredicate schema { p with operator := .isIn } = .ok f) ↔
      ∃ fs, equalities schema p.column p.listValues = .ok fs) ∧
    ∀ f, ofPredicate schema { p with operator := .isIn } = .ok f →
      ∃ (column : Column) (fs : List Formula) (g : Formula),
        schema.column? p.column = some column ∧
        equalities schema p.column p.listValues = .ok fs ∧
        (f.text = disjunction fs ↔ column.type ≠ .date) ∧
        ofPredicate schema { p with operator := .notIn } = .ok g ∧
        g.text = "NOT(" ++ f.text ++ ")" := by
  refine ⟨exists_isIn_iff hne hnull, fun f hf => ?_⟩
  obtain ⟨fs, hfs⟩ := (exists_isIn_iff hne hnull).mp ⟨f, hf⟩
  obtain ⟨hown, column, hcolumn⟩ := column_of_ofPredicate hf
  obtain ⟨hin, hnot⟩ := ofPredicate_memberships hne hown hcolumn
  rw [hin] at hf
  obtain ⟨bounds, hbounds, rfl⟩ := exists_of_map_eq_ok hf
  have hsome : bounds ≠ [] := by
    obtain ⟨v, hv⟩ := List.exists_mem_of_ne_nil _ hne
    obtain ⟨bound, hbound, -⟩ := exists_mem_of_mapM hbounds hv
    exact List.ne_nil_of_mem hbound
  obtain rfl : fs = bounds.map (equality column) := by
    rw [equalities_eq p.column hnull hown hcolumn, hbounds] at hfs
    exact (Except.ok.inj hfs).symm
  refine ⟨column, _, negated (membership column bounds), hcolumn, hfs, ?_, ?_, ?_⟩
  · rw [text_membership]
    exact disjunction_signed_eq_iff hsome
  · rw [hnot, hf]
    rfl
  · rw [negated, text_append, text_append, text_code, text_code]

/-- Customers with a count, and with the day since when they are customers. -/
def customers : Schema :=
  Schema.ofColumns "Customers" [Column.ofType "Orders" .number, Column.ofType "Since" .date]

theorem membership_is_disjunction_orders :
    let p : Predicate := ⟨"Orders", .isIn, some (.array [.int 1, .string "2.50"])⟩
    p.listValues ≠ [] ∧ Json.null ∉ p.listValues ∧
    ∃ f fs g, ofPredicate customers p = .ok f ∧
      equalities customers "Orders" [.int 1, .string "2.50"] = .ok fs ∧ f.text = disjunction fs ∧
      f.text = "OR(\x7bOrders\x7d = 1, \x7bOrders\x7d = 2.5)" ∧
      ofPredicate customers { p with operator := .notIn } = .ok g ∧
      g.text = "NOT(OR(\x7bOrders\x7d = 1, \x7bOrders\x7d = 2.5))" := by
  intro p
  have hne : p.listValues ≠ [] := by decide
  have hnull : Json.null ∉ p.listValues := by decide
  obtain ⟨f, hf, htext⟩ : ∃ f, ofPredicate customers p = .ok f ∧
      f.text = "OR(\x7bOrders\x7d = 1, \x7bOrders\x7d = 2.5)" := by
    have hsome : ((ofPredicate customers p).toOption.map text) =
        some "OR(\x7bOrders\x7d = 1, \x7bOrders\x7d = 2.5)" := by decide +kernel
    obtain ⟨f, hf, htext⟩ := Option.map_eq_some_iff.mp hsome
    exact ⟨f, eq_ok_of_toOption_eq_some hf, htext⟩
  obtain ⟨column, fs, g, hcolumn, hfs, hiff, hg, hnot⟩ :=
    (membership_is_disjunction_iff customers p hne hnull).2 f hf
  obtain rfl := Option.some.inj hcolumn
  refine ⟨hne, hnull, f, fs, g, hf, hfs, hiff.mpr (by decide), htext, hg, ?_⟩
  rw [hnot, htext]
  rfl

/-- In a list a date is compared with the field as a text, and not as a date. -/
theorem membership_of_date :
    ∃ f fs, ofPredicate customers ⟨"Since", .isIn, some (.array [.string "2024-01-01"])⟩ = .ok f ∧
      equalities customers "Since" [.string "2024-01-01"] = .ok fs ∧
      f.text = "OR(\x7bSince\x7d = '2024-01-01 00:00:00')" ∧
      disjunction fs =
        "OR(IS_SAME(\x7bSince\x7d, DATETIME_PARSE('2024-01-01 00:00:00'), 'second'))" ∧
      f.text ≠ disjunction fs := by
  refine ⟨_, _, rfl, rfl, ?_, ?_, ?_⟩
  · decide +kernel
  · decide +kernel
  · decide +kernel

end Formula

end DataAccess
