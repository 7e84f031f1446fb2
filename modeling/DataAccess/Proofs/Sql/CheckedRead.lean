import DataAccess.Proofs.Coercion.Outbound
import DataAccess.Query.Reading
import DataAccess.Sql.Select

/-!
# Reads that passed the check

The check of a read looks at references, and at numbers, truth values and dates; what is bound to a
statement is coerced once more. The two agree but for what the check leaves to the compiler. It lets
every word pass that is compared with a column of choices, and it lets null pass everywhere, though
nothing can be before or after null. Of a number it does not ask whether it is a date.
-/

namespace DataAccess

/-- An operator that asks what comes first. -/
def Operator.isOrdering : Operator → Bool
  | .lt | .lte | .gt | .gte => true
  | _ => false

def Comparison.isOrdering : Comparison → Bool
  | .equal | .notEqual => false
  | _ => true

namespace Predicate

/-- The values that a column is compared with. Patterns are compared with texts. -/
def comparedValues (p : Predicate) : List Json :=
  match p.operator with
  | .like | .notLike | .search | .null | .notNull => []
  | .isIn | .notIn => p.listValues
  | .equals | .notEquals | .lt | .lte | .gt | .gte => p.value.toList

/-- Whether there is a value, and it is not null. -/
def hasValue (p : Predicate) : Bool :=
  match p.value with
  | none | some .null => false
  | some _ => true

end Predicate

/-- Whether a column of choices has the value among its choices. Null always is. -/
def Column.offers (column : Column) (value : Json) : Bool :=
  match column.type with
  | .enum =>
    value.isNull || column.extra.enumValues.isEmpty || column.extra.enumValues.contains value.shown
  | _ => true

/-- Whether a number for a column of dates is a moment in milliseconds. -/
def Column.dates (column : Column) (value : Json) : Bool :=
  match column.type, value with
  | .date, .number n => (n.toSigned?.bind Timestamp.ofMillis?).isSome
  | _, _ => true

/-! ### One value -/

namespace Coercion

variable {column : Column} {caps : Capabilities}

theorem exists_map_orInvalid {α β : Type} {expected : String} {value : Json} {result : Option α}
    (f : α → β) (h : result.isSome = true) :
    ∃ b, (orInvalid column expected value result).map f = .ok b := by
  obtain ⟨x, rfl⟩ := Option.isSome_iff_exists.mp h
  exact ⟨f x, rfl⟩

theorem exists_enumValue_iff {value : Json} :
    (∃ w, enumValue column value = .ok w) ↔ (column.extra.enumValues.isEmpty ||
      column.extra.enumValues.contains value.shown) = true := by
  rw [enumValue]
  split
  next hallowed => exact iff_of_true ⟨_, rfl⟩ hallowed
  next hallowed => exact iff_of_false (by rintro ⟨w, ⟨⟩⟩) hallowed

/-- A date that passes the check is read, if it is not a number, or a number of a moment. -/
theorem isSome_timestamp? {value : Json} (htype : column.type = .date) (hnull : value.isNull = false)
    (hfits : Validation.fits .date value = true) (hdates : column.dates value = true) :
    (timestamp? value).isSome = true := by
  cases value with
  | null => cases hnull
  | string s =>
      rw [timestamp?]
      exact hfits
  | number n =>
      simp only [Column.dates, htype] at hdates
      rw [timestamp?]
      exact hdates
  | bool _ | array _ | object _ => cases hfits

/-- A value that passes the check of its type is taken by its column, if that offers it. -/
theorem exists_outbound_iff (caps : Capabilities) {value : Json}
    (hfits : Validation.fits column.type value = true) (hdates : column.dates value = true) :
    (∃ w, outbound column caps value = .ok w) ↔ column.offers value = true := by
  cases hnull : value.isNull with
  | true =>
      refine iff_of_true ⟨.null, ?_⟩ ?_
      · unfold outbound
        exact if_pos hnull
      · rw [Column.offers, hnull]
        split <;> simp
  | false =>
    cases htype : column.type with
    | enum =>
        simp only [outbound, Column.offers, hnull, htype, Bool.false_eq_true, if_false,
          Bool.false_or]
        exact exists_enumValue_iff
    -- Every other column takes what passed the check.
    | boolean =>
        rw [htype] at hfits
        simp only [outbound, Column.offers, hnull, htype, Bool.false_eq_true, if_false, iff_true]
        refine exists_map_orInvalid _ ?_
        cases value with
        | null => cases hnull
        | _ => exact hfits
    | date =>
        rw [htype] at hfits
        simp only [outbound, Column.offers, hnull, htype, Bool.false_eq_true, if_false, iff_true]
        exact exists_map_orInvalid _ (isSome_timestamp? htype hnull hfits hdates)
    | number =>
        rw [htype] at hfits
        simp only [outbound, Column.offers, hnull, htype, Bool.false_eq_true, if_false, iff_true]
        cases value with
        | null => cases hnull
        | number n => exact ⟨_, rfl⟩
        | string s => exact exists_map_orInvalid _ hfits
        | bool _ | array _ | object _ => cases hfits
    | json =>
        rw [outbound_json htype, Column.offers, htype]
        simp
    | string | unknown =>
        simp only [outbound, Column.offers, hnull, htype, Bool.false_eq_true, if_false, iff_true]
        exact ⟨_, rfl⟩

end Coercion

namespace Validation

theorem fits_of_checkValue {column : Column} {value : Json} (h : checkValue column value = .ok ()) :
    fits column.type value = true := by
  rw [checkValue] at h
  split at h
  next hfits => exact hfits
  next _ => cases h

/-- The check of a condition is the check of the values that it compares with. -/
theorem checkPredicate_eq (column : Column) (p : Predicate) :
    checkPredicate column p = p.comparedValues.forM (checkValue column) := by
  obtain ⟨name, operator, value⟩ := p
  cases operator with
  | like | notLike | search | null | notNull | isIn | notIn => rfl
  | equals | notEquals | lt | lte | gt | gte =>
      cases value with
      | none => rfl
      | some value =>
          change checkValue column value = checkValue column value >>= fun _ => .ok ()
          cases checkValue column value <;> rfl

theorem fits_of_checkPredicate {column : Column} {p : Predicate}
    (h : checkPredicate column p = .ok ()) :
    ∀ value ∈ p.comparedValues, fits column.type value = true := by
  rw [checkPredicate_eq, forM_eq_ok_iff] at h
  exact fun value hvalue => fits_of_checkValue (h value hvalue)

/-- A condition that passes the check is on a column that takes its values. -/
theorem exists_column_of_checkFilter {o : FindOptions} {p : Predicate}
    (h : checkFilter o p = .ok ()) :
    ∃ column, o.column? p.column = some column ∧
      ∀ value ∈ p.comparedValues, fits column.type value = true := by
  obtain ⟨column, hresolve, hcheck⟩ := exists_of_bind_eq_ok h
  refine ⟨column, ?_, fits_of_checkPredicate hcheck⟩
  rw [resolve] at hresolve
  split at hresolve
  next found hfound =>
    obtain rfl := Except.ok.inj hresolve
    exact hfound
  next _ => split at hresolve <;> cases hresolve

theorem checkFilter_of_checkFind {o : FindOptions} (h : checkFind o = .ok ()) :
    ∀ p ∈ o.filters, checkFilter o p = .ok () := by
  obtain ⟨_, hfilters, -⟩ := exists_of_bind_eq_ok h
  exact forM_eq_ok_iff.mp hfilters

end Validation

/-! ### One condition -/

namespace SqlRead

variable {caps : Capabilities} {o : FindOptions} {column : Column}

theorem exists_bound_iff {value : Json} (hfits : Validation.fits column.type value = true)
    (hdates : column.dates value = true) :
    (∃ v, bound caps (some column) value = .ok v) ↔ column.offers value = true := by
  rw [← Coercion.exists_outbound_iff caps hfits hdates, bound]
  exact exists_map_iff

theorem compared_of_ne_null {name : String} {operator : Operator} {value : Json} (ref : ColumnRef)
    (column : Option Column) (comparison : Comparison) (hnull : value ≠ .null) :
    compared caps ⟨name, operator, some value⟩ ref column comparison =
      (bound caps column value).map (.compare ref comparison) := by
  cases value with
  | null => exact absurd rfl hnull
  | _ => rfl

/-- Null is equal to something or not, but neither before nor after anything. -/
theorem exists_compared_iff {p : Predicate} (ref : ColumnRef) (comparison : Comparison)
    (hfits : ∀ value ∈ p.value.toList, Validation.fits column.type value = true)
    (hdates : ∀ value ∈ p.value.toList, column.dates value = true) :
    (∃ c, compared caps p ref (some column) comparison = .ok c) ↔
      (comparison.isOrdering = true → p.hasValue = true) ∧
        ∀ value ∈ p.value.toList, column.offers value = true := by
  obtain ⟨name, operator, value⟩ := p
  cases value with
  | none => cases comparison <;> simp [compared, Comparison.isOrdering, Predicate.hasValue]
  | some value =>
      by_cases hnull : value = .null
      · subst hnull
        have hoffers : column.offers .null = true := by
          rw [Column.offers]
          split <;> rfl
        cases comparison <;> simp [compared, Comparison.isOrdering, Predicate.hasValue, hoffers]
      · have hvalue : Predicate.hasValue ⟨name, operator, some value⟩ = true := by
          cases value with
          | null => exact absurd rfl hnull
          | _ => rfl
        rw [compared_of_ne_null ref (some column) comparison hnull, exists_map_iff,
          exists_bound_iff (hfits value (by simp)) (hdates value (by simp)), hvalue]
        simp

/-- A list is compared with value by value, and an empty one not at all. -/
theorem exists_listed_iff (ref : ColumnRef) (negated : Bool) {values : List Json}
    (hfits : ∀ value ∈ values, Validation.fits column.type value = true)
    (hdates : ∀ value ∈ values, column.dates value = true) :
    (∃ c, (if values.isEmpty then .ok (.always negated)
      else (values.mapM (bound caps (some column))).map (.isIn ref negated) :
        Except EngineError Condition) = .ok c) ↔ ∀ value ∈ values, column.offers value = true := by
  split
  next hempty => simp [List.isEmpty_iff.mp hempty]
  next _ =>
    rw [exists_map_iff, exists_mapM_iff]
    exact forall₂_congr fun value hvalue =>
      exists_bound_iff (hfits value hvalue) (hdates value hvalue)

theorem exists_condition_iff {p : Predicate} (hcolumn : o.column? p.column = some column)
    (hfits : ∀ value ∈ p.comparedValues, Validation.fits column.type value = true)
    (hdates : ∀ value ∈ p.comparedValues, column.dates value = true) :
    (∃ c, condition caps o p = .ok c) ↔
      (p.operator.isOrdering = true → p.hasValue = true) ∧
        ∀ value ∈ p.comparedValues, column.offers value = true := by
  rw [condition, hcolumn]
  rw [Predicate.comparedValues] at hfits hdates ⊢
  cases hoperator : p.operator with
  | like | notLike | search | null | notNull => simp [Operator.isOrdering]
  | isIn | notIn =>
      simp only [hoperator] at hfits hdates ⊢
      rw [exists_listed_iff _ _ hfits hdates]
      simp [Operator.isOrdering]
  | equals | notEquals | lt | lte | gt | gte =>
      simp only [hoperator] at hfits hdates ⊢
      exact exists_compared_iff _ _ hfits hdates

/-- A source is compiled if each of its conditions is. -/
theorem exists_source_iff {joinAll : Bool} :
    (∃ s, source caps o joinAll = .ok s) ↔ ∀ p ∈ o.filters, ∃ c, condition caps o p = .ok c := by
  rw [source, exists_map_iff, exists_mapM_iff]
  exact forall₂_congr fun p _ => exists_map_iff

end SqlRead

namespace SqlDialect

variable {d : SqlDialect} {o : FindOptions} {joinAll paginate : Bool}

theorem exists_selectQuery_iff :
    (∃ q, d.selectQuery o joinAll paginate = .ok q) ↔
      ∀ p ∈ o.filters, ∃ c, SqlRead.condition d.capabilities o p = .ok c := by
  rw [selectQuery, exists_map_iff, SqlRead.select, exists_map_iff,
    SqlRead.exists_source_iff]

theorem exists_countQuery_iff :
    (∃ q, d.countQuery o joinAll = .ok q) ↔
      ∀ p ∈ o.filters, ∃ c, SqlRead.condition d.capabilities o p = .ok c := by
  rw [countQuery, exists_map_iff, SqlRead.exists_source_iff]

/-- **A checked read can be compiled**, in every dialect, with joins or lookups, as rows and as a count:
each of its values that passed the check of its type is taken by the column, if a column of choices
offers it, and if an operator of order has a value at all. Numbers that are compared with dates have to
be moments in milliseconds. -/
theorem checked_read_compiles_iff (d : SqlDialect) (o : FindOptions) (joinAll paginate : Bool)
    (hcheck : Validation.checkFind o = .ok ())
    (hdates : ∀ p ∈ o.filters, ∀ column, o.column? p.column = some column →
      ∀ value ∈ p.comparedValues, column.dates value = true) :
    ((∃ q, d.selectQuery o joinAll paginate = .ok q) ∧ ∃ q, d.countQuery o joinAll = .ok q) ↔
      ∀ p ∈ o.filters, (p.operator.isOrdering = true → p.hasValue = true) ∧
        ∀ column, o.column? p.column = some column →
          ∀ value ∈ p.comparedValues, column.offers value = true := by
  rw [exists_selectQuery_iff, exists_countQuery_iff, and_self]
  refine forall₂_congr fun p hp => ?_
  obtain ⟨column, hcolumn, hfits⟩ :=
    Validation.exists_column_of_checkFilter (Validation.checkFilter_of_checkFind hcheck p hp)
  rw [SqlRead.exists_condition_iff hcolumn hfits (hdates p hp column hcolumn), hcolumn]
  simp

/-! ### Orders of customers -/

/-- Orders with a state to choose, a date and a customer, under some conditions. -/
def ordersWhere (filters : List Predicate) : FindOptions :=
  let customers : Schema := .ofColumns "customers" [.ofType "id" .number, .ofType "since" .date]
  let orders : Schema := .ofColumns "orders"
    [.ofType "id" .number, (Column.ofType "state" .enum).withEnumValues ["open", "closed"],
      .ofType "placed" .date, .ofType "customer" .number]
  { FindOptions.ofSchema orders with
    filters
    relations := [⟨{ Relation.link "customers" "id" "orders" "customer" with schema := some customers },
      .inner, []⟩] }

/-- Closed orders since a moment in 2001, of customers of some days. -/
theorem checked_read_compiles_closed :
    let o := ordersWhere [.equals "state" (.string "closed"),
      ⟨"placed", .gte, some (.int 1000000000000)⟩,
      ⟨"customers.since", .isIn, some (.string "1999-12-31, 2000-02-29")⟩]
    Validation.checkFind o = .ok () ∧
      ∀ (d : SqlDialect) (joinAll : Bool), (∃ q, d.selectQuery o joinAll true = .ok q) ∧
        ∃ q, d.countQuery o joinAll = .ok q := by
  intro o
  have hcheck : Validation.checkFind o = .ok () := eq_ok_of_toOption_eq_some (by decide +kernel)
  refine ⟨hcheck, fun d joinAll => (checked_read_compiles_iff d o joinAll true hcheck ?_).mpr ?_⟩
  · have hmoments : ∀ p ∈ o.filters, ∀ column ∈ o.column? p.column,
        ∀ value ∈ p.comparedValues, column.dates value = true := by decide +kernel
    exact hmoments
  · have hoffered : ∀ p ∈ o.filters, (p.operator.isOrdering = true → p.hasValue = true) ∧
        ∀ column ∈ o.column? p.column, ∀ value ∈ p.comparedValues, column.offers value = true := by
      decide +kernel
    exact hoffered

/-- A condition on orders that the check lets pass although no statement can be made of it. -/
def PassesInVain (p : Predicate) : Prop :=
  Validation.checkFind (ordersWhere [p]) = .ok () ∧
    (∀ q, SqlDialect.sqlite.selectQuery (ordersWhere [p]) true true ≠ .ok q) ∧
    ∀ q, SqlDialect.sqlite.countQuery (ordersWhere [p]) true ≠ .ok q

theorem passesInVain {p : Predicate} (h : (Validation.checkFind (ordersWhere [p])).toOption = some () ∧
    (SqlDialect.sqlite.selectQuery (ordersWhere [p]) true true).toOption = none ∧
    (SqlDialect.sqlite.countQuery (ordersWhere [p]) true).toOption = none) : PassesInVain p := by
  obtain ⟨hcheck, hselect, hcount⟩ := h
  refine ⟨eq_ok_of_toOption_eq_some hcheck, fun q hq => ?_, fun q hq => ?_⟩
  · rw [hq] at hselect
    cases hselect
  · rw [hq] at hcount
    cases hcount

/-- Three checks that are passed in vain: of a state that no order is in, of what is before null, and of
a number that is no date. -/
theorem checked_read_refused :
    PassesInVain (.equals "state" (.string "lost")) ∧ PassesInVain ⟨"id", .lt, some .null⟩ ∧
      PassesInVain (.equals "placed" (.int 9223372036854775807)) :=
  ⟨passesInVain (by decide +kernel), passesInVain (by decide +kernel), passesInVain (by decide +kernel)⟩

end SqlDialect

end DataAccess
