import DataAccess.Document.Match
import DataAccess.Proofs.Coercion.Outbound
import DataAccess.Proofs.Dialogue.Simulation
import DataAccess.Proofs.Json.Record

/-!
# Filters and what they let through

Joined filters let through what each of them does, so one more condition of a read is one more
conjunct of its filter.
-/

namespace DataAccess

namespace Document

theorem matchesEach_map_object (d : Record) (filters : List Record) :
    matchesEach d (filters.map .object) = filters.all (matchesFilter d) := by
  induction filters with
  | nil => rfl
  | cons first rest ih => rw [List.map_cons, matchesEach, ih, List.all_cons]

theorem matchesFilter_joinFilters (d : Record) (filters : List Record) :
    matchesFilter d (joinFilters filters) = filters.all (matchesFilter d) := by
  match filters with
  | [] => rfl
  | [filter] => simp [joinFilters]
  | first :: second :: rest =>
    have hjoin : joinFilters (first :: second :: rest) =
        [("$and", .array ((first :: second :: rest).map .object))] := rfl
    rw [hjoin, matchesFilter, matchesFilter, if_pos rfl, matchesClauses, matchesEach_map_object,
      Bool.and_true]

variable {schema : Schema} {p : Predicate} {visible : Record}

theorem filter_singleton (schema : Schema) (p : Predicate) :
    filter schema [p] = predicateFilter schema p := by
  rw [filter, List.mapM_cons, List.mapM_nil]
  cases predicateFilter schema p <;> rfl

theorem filter_pair {p p' : Predicate} {joined : Record} (h : filter schema [p, p'] = .ok joined) :
    ∃ first second, filter schema [p] = .ok first ∧ filter schema [p'] = .ok second ∧
      joined = joinFilters [first, second] := by
  rw [filter, List.mapM_cons, List.mapM_cons, List.mapM_nil] at h
  obtain ⟨filters, hfilters, hjoined⟩ := exists_of_map_eq_ok h
  obtain ⟨first, hfirst, hrest⟩ := exists_of_bind_eq_ok hfilters
  obtain ⟨tail, htail, hcons⟩ := exists_of_bind_eq_ok hrest
  obtain ⟨second, hsecond, hnil⟩ := exists_of_bind_eq_ok htail
  obtain rfl := Except.ok.inj hnil
  obtain rfl := Except.ok.inj hcons
  refine ⟨first, second, ?_, ?_, hjoined.symm⟩
  · rw [filter_singleton, hfirst]
  · rw [filter_singleton, hsecond]

/-- A last condition that can be read changes no error, and narrows the filter by its own. -/
theorem filter_append (own : List Predicate) (hvisible : filter schema [p] = .ok visible) :
    ResultsAlike
      (fun narrowed filter => ∀ d,
        matchesFilter d narrowed = (matchesFilter d filter && matchesFilter d visible))
      (filter schema (own ++ [p])) (filter schema own) := by
  rw [filter_singleton] at hvisible
  rw [filter, filter, List.mapM_append]
  cases own.mapM (predicateFilter schema) with
  | error error => exact .error error
  | ok filters =>
      have happend : [p].mapM (predicateFilter schema) = .ok [visible] := by
        rw [List.mapM_cons, hvisible]
        rfl
      rw [happend]
      refine .ok fun d => ?_
      rw [matchesFilter_joinFilters, matchesFilter_joinFilters, List.all_append]
      simp

theorem filter_append_eq_ok {own : List Predicate} {narrowed : Record}
    (h : filter schema (own ++ [p]) = .ok narrowed) :
    ∃ visible, filter schema [p] = .ok visible ∧
      ∀ d, matchesFilter d narrowed = true → matchesFilter d visible = true := by
  have hvisible : ∃ visible, filter schema [p] = .ok visible := by
    obtain ⟨filters, hfilters, -⟩ := exists_of_map_eq_ok h
    rw [List.mapM_append] at hfilters
    obtain ⟨_, -, hrest⟩ := exists_of_bind_eq_ok hfilters
    obtain ⟨last, hlast, -⟩ := exists_of_bind_eq_ok hrest
    exact ⟨joinFilters last, by rw [filter, hlast]; rfl⟩
  obtain ⟨visible, hvisible⟩ := hvisible
  have hnarrowed := filter_append own hvisible
  rw [h] at hnarrowed
  cases hfilter : filter schema own with
  | error error =>
      rw [hfilter] at hnarrowed
      cases hnarrowed
  | ok filter =>
      rw [hfilter] at hnarrowed
      cases hnarrowed with
      | ok hmatch =>
          refine ⟨visible, hvisible, fun d hd => ?_⟩
          rw [hmatch, Bool.and_eq_true] at hd
          exact hd.2

/-! ### Conditions of equality -/

/-- An object that is read as operators where a value is compared with. -/
def isOperators : Json → Bool
  | .object fields => isOperatorObject fields
  | _ => false

theorem isOperators_of_isScalar {c : Json} (h : c.isScalar = true) : isOperators c = false := by
  cases c with
  | object fields => cases h
  | _ => rfl

theorem holds_of_not_isOperators {c : Json} (h : isOperators c = false) (value : Option Json) :
    holds value c = equal value c := by
  cases c with
  | object fields =>
      have hoperator : isOperatorObject fields = false := h
      rw [holds, hoperator]
      rfl
  | _ => rw [holds]; simp

theorem holds_of_isOperatorObject {fields : Record} (h : isOperatorObject fields = true)
    (value : Option Json) :
    holds value (.object fields) = holdsAll value (regexOptions fields) fields := by
  rw [holds, if_pos h]

theorem isOperators_oid (digits : String) : isOperators (oid digits) = false := by
  simp [oid, isOperators, isOperatorObject, Record.contains, Record.get?_cons]

theorem isOperators_date (t : Timestamp) : isOperators (date t) = false := by
  simp [date, isOperators, isOperatorObject, Record.contains, Record.get?_cons]

/-- The types of columns that take an object as it is. -/
def keepsObjects : ColumnType → Bool
  | .string | .json | .unknown => true
  | .number | .boolean | .date | .enum => false

theorem outbound_cases {column : Column} {value coerced : Json}
    (h : Coercion.outbound column capabilities value = .ok coerced) :
    coerced.isScalar = true ∨ coerced = value ∧ keepsObjects column.type = true := by
  cases Coercion.coerces_of_outbound h with
  | null _ | boolean _ _ | date _ _ | numeral _ _ _ | text _ _ _ | enum _ _ => exact .inl rfl
  | number _ _ | bit _ _ => exact .inl rfl
  | json htype _ => exact .inr ⟨rfl, by rw [htype]; rfl⟩
  | plain htype =>
      refine .inr ⟨rfl, ?_⟩
      rcases htype with htype | htype <;> rw [htype] <;> rfl

/-- Only an object that is read as operators is shaped into one, and only for a column that takes
objects as they are. -/
theorem isOperators_ofValue {column : Column} {value expected : Json}
    (h : ofValue column value = .ok expected) (hoperators : isOperators expected = true) :
    expected = value ∧ column.extra.nativeType ≠ some objectId ∧
      keepsObjects column.type = true := by
  have hno : ∀ c : Json, c = expected → isOperators c = false → False := by
    rintro c rfl hc
    rw [hc] at hoperators
    cases hoperators
  rw [ofValue] at h
  split at h
  next _ =>
    exfalso
    dsimp only at h
    split at h
    · exact hno .null (Except.ok.inj h) rfl
    · split at h
      · exact hno _ (Except.ok.inj h) (isOperators_oid _)
      · cases h
    · split at h
      next hoid => exact hno _ (Except.ok.inj h) (by simp [isOperators, isOperatorObject, hoid])
      next _ => cases h
    · cases h
  next hnative =>
    obtain ⟨coerced, hcoerced, hshaped⟩ := exists_of_map_eq_ok h
    have hsame : coerced = expected := by
      split at hshaped
      · split at hshaped
        · exact (hno _ hshaped (isOperators_date _)).elim
        · exact hshaped
      · exact hshaped
    subst hsame
    rcases outbound_cases hcoerced with hscalar | ⟨hvalue, htype⟩
    · exact (hno _ rfl (isOperators_of_isScalar hscalar)).elim
    · exact ⟨hvalue, hnative, htype⟩

theorem ofValue_null (column : Column) : ofValue column .null = .ok .null := by
  have houtbound : Coercion.outbound column capabilities .null = .ok .null := rfl
  rw [ofValue, houtbound]
  by_cases hnative : column.extra.nativeType = some objectId
  · rw [if_pos hnative]
  · rw [if_neg hnative]
    by_cases htype : column.type = .date <;> simp [Except.map, htype, Json.asString?]

theorem ofValue_object {column : Column} {fields : Record}
    (hnative : column.extra.nativeType ≠ some objectId) (htype : keepsObjects column.type = true) :
    ofValue column (.object fields) = .ok (.object fields) := by
  have houtbound : Coercion.outbound column capabilities (.object fields) = .ok (.object fields) := by
    cases hcolumn : column.type with
    | string | json | unknown =>
        rw [Coercion.outbound, hcolumn]
        rfl
    | number | boolean | date | enum =>
        rw [hcolumn] at htype
        cases htype
  have hdate : column.type ≠ .date := by
    intro hdate
    rw [hdate] at htype
    cases htype
  rw [ofValue, if_neg hnative, houtbound]
  simp only [Except.map, if_neg hdate]

/-- A scalar is compared with a key as it is shaped, and never read as operators. -/
theorem holds_ofValue {column : Column} {id expected : Json} (hid : id.isScalar = true)
    (h : ofValue column id = .ok expected) (value : Option Json) :
    holds value expected = equal value expected := by
  refine holds_of_not_isOperators ?_ value
  cases hoperators : isOperators expected with
  | false => rfl
  | true =>
      obtain ⟨rfl, -⟩ := isOperators_ofValue h hoperators
      rw [isOperators_of_isScalar hid] at hoperators
      cases hoperators

theorem predicateFilter_equals_eq_ok {key : String} {id : Json} {own : Record}
    (h : predicateFilter schema (.equals key id) = .ok own) :
    ∃ column expected, schema.column? key = some column ∧ ofValue column id = .ok expected ∧
      own = [(key, expected)] := by
  rw [predicateFilter] at h
  split at h
  · cases h
  split at h
  · cases h
  next column hcolumn =>
    obtain ⟨expected, hexpected, rfl⟩ := exists_of_map_eq_ok h
    exact ⟨column, expected, hcolumn, hexpected, rfl⟩

theorem matchesFilter_singleton {name : String} (hname : name ≠ "$and") (d : Record) (c : Json) :
    matchesFilter d [(name, c)] = holds (d.get? name) c := by
  rw [matchesFilter, matchesFilter, if_neg hname, Bool.and_true]

end Document

end DataAccess
