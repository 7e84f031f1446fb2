import DataAccess.Proofs.Document.Filter

/-!
# Conjunctions and complements

A filter lets through what each of its predicates lets through alone, so neither their order nor
their repetition matters. An operator and its negation are compiled from one shaped value and share
the documents out between them, those without the field too. A column under the name that filters
reserve for conjunctions is the exception: a list of filters is expected there, so that both
conditions let nothing through.
-/

namespace DataAccess

/-- The operator of the opposite meaning. -/
def Operator.negated? : Operator → Option Operator
  | .equals => some .notEquals
  | .like => some .notLike
  | .isIn => some .notIn
  | .null => some .notNull
  | _ => none

namespace Document

variable {schema : Schema}

/-! ### Conjunctions -/

theorem filter_eq_ok_of_mapM {predicates : List Predicate} {filters : List Record}
    (h : predicates.mapM (predicateFilter schema) = .ok filters) :
    filter schema predicates = .ok (joinFilters filters) := by
  rw [filter, h]
  rfl

theorem matchesFilter_iff_forall {predicates : List Predicate} {compiled : Record}
    (h : filter schema predicates = .ok compiled) (d : Record) :
    matchesFilter d compiled = true ↔
      ∀ p ∈ predicates, ∀ own, filter schema [p] = .ok own → matchesFilter d own = true := by
  obtain ⟨filters, hfilters, rfl⟩ := exists_of_map_eq_ok h
  rw [matchesFilter_joinFilters, List.all_eq_true]
  simp only [filter_singleton]
  constructor
  · intro hall p hp own hown
    obtain ⟨compiled, hmem, hcompiled⟩ := exists_mem_of_mapM hfilters hp
    obtain rfl := Except.ok.inj (hown.symm.trans hcompiled)
    exact hall own hmem
  · intro hall own hmem
    obtain ⟨p, hp, hown⟩ := exists_of_mem_mapM hfilters hmem
    exact hall p hp own hown

/-- Predicates compile together exactly if each of them compiles alone. -/
theorem exists_filter_eq_ok_iff {predicates : List Predicate} :
    (∃ compiled, filter schema predicates = .ok compiled) ↔
      ∀ p ∈ predicates, ∃ own, filter schema [p] = .ok own := by
  simp only [filter_singleton]
  constructor
  · rintro ⟨compiled, h⟩ p hp
    obtain ⟨filters, hfilters, -⟩ := exists_of_map_eq_ok h
    obtain ⟨own, -, hown⟩ := exists_mem_of_mapM hfilters hp
    exact ⟨own, hown⟩
  · intro h
    obtain ⟨filters, hfilters⟩ := exists_mapM_eq_ok h
    exact ⟨_, filter_eq_ok_of_mapM hfilters⟩

/-! ### Complements -/

theorem holds_clause {operator : String} (hkey : isOperatorKey operator = true)
    (hoid : operator ≠ "$oid") (hdate : operator ≠ "$date") (value : Option Json) (operand : Json) :
    holds value (clause operator operand) =
      holdsAll value (regexOptions [(operator, operand)]) [(operator, operand)] := by
  have hobject : isOperatorObject [(operator, operand)] = true := by
    simp [isOperatorObject, Record.contains, Record.get?_cons, hkey, hoid, hdate,
      show Record.get? [] "$oid" = none from rfl, show Record.get? [] "$date" = none from rfl]
  rw [clause, holds_of_isOperatorObject hobject]

theorem holds_ne (value : Option Json) (operand : Json) :
    holds value (clause "$ne" operand) = !equal value operand := by
  rw [holds_clause (by decide) (by decide) (by decide), holdsAll, holdsAll, Bool.and_true]

theorem holds_not (value : Option Json) (condition : Json) :
    holds value (clause "$not" condition) = !holds value condition := by
  rw [holds_clause (by decide) (by decide) (by decide), holdsAll, holdsAll, Bool.and_true]

theorem holds_in (value : Option Json) (items : Json) :
    holds value (clause "$in" items) = isAmong value items := by
  rw [holds_clause (by decide) (by decide) (by decide), holdsAll, holdsAll, Bool.and_true]

theorem holds_nin (value : Option Json) (items : Json) :
    holds value (clause "$nin" items) = !isAmong value items := by
  rw [holds_clause (by decide) (by decide) (by decide), holdsAll, holdsAll, Bool.and_true]

/-- One condition holds of a field where another does not. -/
def Complements (negative positive : Json) : Prop :=
  ∀ value, holds value negative = !holds value positive

/-- The conditions of an operator and of its negation are both refused, for the same reason, or
they share the values out between them. -/
theorem condition_negated (column : Column) {operator negated : Operator}
    (hnegated : operator.negated? = some negated) (name : String) (value : Option Json)
    (hvalue : operator = .equals → ∀ v ∈ value, isOperators v = false) :
    ResultsAlike Complements (condition column ⟨name, negated, value⟩)
      (condition column ⟨name, operator, value⟩) := by
  cases operator with
  | equals =>
      obtain rfl := Option.some.inj hnegated
      -- No value is compared with as null is.
      cases value with
      | none =>
          rw [condition, condition]
          simp only [Option.getD_none, ofValue_null]
          refine .ok fun field => ?_
          rw [holds_ne, holds_of_not_isOperators rfl]
      | some v =>
          rw [condition, condition]
          simp only [Option.getD_some]
          cases hshaped : ofValue column v with
          | error error => exact .error error
          | ok expected =>
              have hplain : isOperators expected = false := by
                cases hoperators : isOperators expected with
                | false => rfl
                | true =>
                    obtain ⟨rfl, -⟩ := isOperators_ofValue hshaped hoperators
                    rw [hvalue rfl expected rfl] at hoperators
                    cases hoperators
              refine .ok fun field => ?_
              rw [holds_ne, holds_of_not_isOperators hplain]
  | like =>
      obtain rfl := Option.some.inj hnegated
      exact .ok fun field => holds_not field _
  | isIn =>
      obtain rfl := Option.some.inj hnegated
      rw [condition, condition]
      have hlist : Predicate.listValues ⟨name, .notIn, value⟩ =
          Predicate.listValues ⟨name, .isIn, value⟩ := rfl
      simp only [hlist]
      cases (Predicate.listValues ⟨name, .isIn, value⟩).mapM (ofValue column) with
      | error error => exact .error error
      | ok items =>
          refine .ok fun field => ?_
          rw [holds_nin, holds_in]
  | null =>
      obtain rfl := Option.some.inj hnegated
      refine .ok fun field => ?_
      rw [holds_ne, holds_of_not_isOperators rfl]
  | notEquals | lt | lte | gt | gte | notLike | notIn | notNull | search => cases hnegated

theorem predicateFilter_negated {name : String} (hname : name ≠ "$and")
    {operator negated : Operator} (hnegated : operator.negated? = some negated)
    (value : Option Json) (hvalue : operator = .equals → ∀ v ∈ value, isOperators v = false) :
    ResultsAlike (fun negative positive => ∀ d, matchesFilter d negative = !matchesFilter d positive)
      (predicateFilter schema ⟨name, negated, value⟩)
      (predicateFilter schema ⟨name, operator, value⟩) := by
  have hboth : Predicate.isRelation ⟨name, negated, value⟩ =
      Predicate.isRelation ⟨name, operator, value⟩ := rfl
  rw [predicateFilter, predicateFilter, hboth]
  by_cases hrelation : Predicate.isRelation ⟨name, operator, value⟩ = true
  · rw [if_pos hrelation, if_pos hrelation]
    exact .error _
  rw [if_neg hrelation, if_neg hrelation]
  dsimp only
  cases schema.column? name with
  | none => exact .error _
  | some column =>
      refine (condition_negated column hnegated name value hvalue).map ?_
      intro negative positive hcomplements d
      rw [matchesFilter_singleton hname, matchesFilter_singleton hname]
      exact hcomplements _

/-- **What filters mean.** Predicates that compile together compile alone, and a document matches
their filter exactly if it matches the filter of each of them; so some of them in any order, or more
than once, let through at least as much. On a column under any but the reserved name, an operator and
its negation compile for the same values, and a document matches one filter exactly if it does not
match the other. A value that is read as operators is none to be equal to. -/
theorem filter_means (schema : Schema) :
    (∀ predicates compiled, filter schema predicates = .ok compiled →
      (∀ p ∈ predicates, ∃ own, filter schema [p] = .ok own) ∧
      (∀ d, matchesFilter d compiled = true ↔
        ∀ p ∈ predicates, ∀ own, filter schema [p] = .ok own → matchesFilter d own = true) ∧
      ∀ fewer, (∀ p ∈ fewer, p ∈ predicates) → ∃ wider, filter schema fewer = .ok wider ∧
        ∀ d, matchesFilter d compiled = true → matchesFilter d wider = true) ∧
    ∀ (name : String) (operator negated : Operator) (value : Option Json), name ≠ "$and" →
      operator.negated? = some negated →
      (operator = .equals → ∀ v ∈ value, isOperators v = false) →
      ResultsAlike (fun negative positive => ∀ d, matchesFilter d negative = true ↔
          ¬matchesFilter d positive = true)
        (filter schema [⟨name, negated, value⟩]) (filter schema [⟨name, operator, value⟩]) := by
  refine ⟨fun predicates compiled h => ?_, fun name operator negated value hname hnegated hvalue => ?_⟩
  · have halone := exists_filter_eq_ok_iff.mp ⟨compiled, h⟩
    refine ⟨halone, matchesFilter_iff_forall h, fun fewer hfewer => ?_⟩
    obtain ⟨wider, hwider⟩ := exists_filter_eq_ok_iff.mpr fun p hp => halone p (hfewer p hp)
    refine ⟨wider, hwider, fun d hd => (matchesFilter_iff_forall hwider d).mpr fun p hp => ?_⟩
    exact (matchesFilter_iff_forall h d).mp hd p (hfewer p hp)
  · rw [filter_singleton, filter_singleton]
    refine (predicateFilter_negated hname hnegated value hvalue).mono ?_
    intro negative positive _ hcomplements d
    rw [hcomplements d, Bool.not_eq_true', Bool.not_eq_true]

/-- Who is born on a day and who is not, whether a document has the field or not. -/
theorem filter_means_born :
    let schema := Schema.ofColumns "users" [.ofType "born" .date, .ofType "name" .string]
    let predicates : List Predicate :=
      [.equals "born" (.string "2001-02-03"), ⟨"name", .like, some (.string "A%")⟩]
    let day := Json.object [("$date", .string "2001-02-03T00:00:00.000Z")]
    let compiled : Record :=
      [("$and", .array [.object [("born", day)], .object [("name", clause "$regex" (.string "^A.*$"))]])]
    filter schema predicates = .ok compiled ∧
      (∀ d, matchesFilter d compiled = true ↔
        ∀ p ∈ predicates, ∀ own, filter schema [p] = .ok own → matchesFilter d own = true) ∧
      filter schema [.equals "born" (.string "2001-02-03")] = .ok [("born", day)] ∧
      filter schema [⟨"born", .notEquals, some (.string "2001-02-03")⟩] =
        .ok [("born", clause "$ne" day)] ∧
      ∀ d, matchesFilter d [("born", clause "$ne" day)] = true ↔
        ¬matchesFilter d [("born", day)] = true := by
  intro schema predicates day compiled
  have hcompiled : filter schema predicates = .ok compiled :=
    eq_ok_of_toOption_eq_some (by decide +kernel)
  have hequals : filter schema [.equals "born" (.string "2001-02-03")] = .ok [("born", day)] :=
    eq_ok_of_toOption_eq_some (by decide +kernel)
  have hnegated : filter schema [⟨"born", .notEquals, some (.string "2001-02-03")⟩] =
      .ok [("born", clause "$ne" day)] :=
    eq_ok_of_toOption_eq_some (by decide +kernel)
  obtain ⟨hconjunction, hcomplement⟩ := filter_means schema
  have halike := hcomplement "born" .equals .notEquals (some (.string "2001-02-03")) (by decide) rfl
    (by rintro _ _ ⟨⟩; rfl)
  rw [hnegated] at halike
  change ResultsAlike _ _ (filter schema [.equals "born" (.string "2001-02-03")]) at halike
  rw [hequals] at halike
  refine ⟨hcompiled, (hconjunction predicates compiled hcompiled).2.1, hequals, hnegated, ?_⟩
  cases halike with
  | ok hdivides => exact hdivides

/-- A field under the reserved name neither equals a value nor differs from it. -/
theorem neither_under_reserved_name :
    ∃ (schema : Schema) (value : Json) (positive negative d : Record),
      value.isScalar = true ∧ schema.hasColumn "$and" = true ∧
      filter schema [⟨"$and", .equals, some value⟩] = .ok positive ∧
      filter schema [⟨"$and", .notEquals, some value⟩] = .ok negative ∧
      matchesFilter d positive = false ∧ matchesFilter d negative = false :=
  ⟨.ofColumns "accounts" [.ofType "$and" .number], .int 2, _, _, [("$and", .int 1)],
    rfl, by decide, rfl, rfl, by decide, by decide⟩

end Document

end DataAccess
