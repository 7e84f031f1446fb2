import DataAccess.Proofs.Json.Record
import DataAccess.Proofs.Sql.Catalog
import DataAccess.Sql.Select

/-!
# Relations to one row

A relation is to one row if its column is the first primary column of the related table. The rows of a
table differ in all its primary columns together, so a relation to one row has at most one row for
each value if there is no other primary column. With two of them it may have many, and a join then
repeats the parent row for each.
-/

namespace DataAccess

/-! ### Rows of a join -/

namespace Join

/-- The related rows that meet the condition of a join with a parent row. A null meets none. -/
def matching (j : Join) (related : List Record) (parent : Record) : List Record :=
  match parent.get? j.left.column with
  | none | some .null => []
  | some value => related.filter fun row => row.get? j.right.column == some value

/-- The rows of a join, each with the parent row and the related row that it is made of. -/
def rows (j : Join) (parents related : List Record) : List (Option Record × Option Record) :=
  let pairs (parent : Record) := (j.matching related parent).map fun row => (some parent, some row)
  match j.type with
  | .inner => parents.flatMap pairs
  | .left => parents.flatMap fun parent =>
      if (j.matching related parent).isEmpty then [(some parent, none)] else pairs parent
  | .right => parents.flatMap pairs ++
      (related.filter fun row => parents.all fun parent => !(j.matching related parent).contains row).map
        fun row => (none, some row)

/-- The parent rows in a join, as often as they come. -/
def parentRows (j : Join) (parents related : List Record) : List Record :=
  (j.rows parents related).filterMap (·.1)

/-- How many rows a parent row has in a join. -/
def copies (j : Join) (related : List Record) (parent : Record) : Nat :=
  if j.type = .left then max 1 (j.matching related parent).length
  else (j.matching related parent).length

theorem filterMap_pairs {β : Type} (parent : Record) (related : List β) :
    (related.map fun row => (some parent, some row)).filterMap (·.1) =
      List.replicate related.length parent := by
  rw [List.filterMap_map, ← List.map_const']
  exact congrFun List.filterMap_eq_map' related

theorem parentRows_eq (j : Join) (parents related : List Record) :
    j.parentRows parents related =
      parents.flatMap fun parent => List.replicate (j.copies related parent) parent := by
  rw [parentRows, rows]
  cases htype : j.type with
  | inner =>
      dsimp only
      rw [List.filterMap_flatMap]
      simp only [filterMap_pairs, copies, htype, reduceCtorEq, if_false]
  | left =>
      dsimp only
      rw [List.filterMap_flatMap]
      refine congrArg (parents.flatMap ·) (funext fun parent => ?_)
      rw [copies, if_pos htype]
      cases hmatching : j.matching related parent with
      | nil => rfl
      | cons first rest =>
          rw [List.isEmpty_cons, if_neg Bool.false_ne_true, filterMap_pairs, List.length_cons,
            Nat.max_eq_right (Nat.le_add_left 1 _)]
  | right =>
      have hunmatched : ∀ unmatched : List Record,
          (unmatched.map fun row => ((none : Option Record), some row)).filterMap (·.1) = [] := by
        intro unmatched
        rw [List.filterMap_map]
        exact List.filterMap_eq_nil_iff.mpr fun row _ => rfl
      dsimp only
      rw [List.filterMap_append, hunmatched, List.append_nil, List.filterMap_flatMap]
      simp only [filterMap_pairs, copies, htype, reduceCtorEq, if_false]

theorem flatMap_sublist {α : Type} {f : α → List α} (h : ∀ a, (f a).Sublist [a]) (l : List α) :
    (l.flatMap f).Sublist l := by
  induction l with
  | nil => exact .slnil
  | cons first rest ih =>
      rw [List.flatMap_cons]
      exact (h first).append ih

/-- If every parent row matches at most one related row, a join repeats none. -/
theorem parentRows_sublist {j : Join} {related : List Record}
    (h : ∀ parent, (j.matching related parent).length ≤ 1) (parents : List Record) :
    (j.parentRows parents related).Sublist parents := by
  rw [parentRows_eq]
  refine flatMap_sublist (fun parent => ?_) parents
  have hcopies : j.copies related parent ≤ 1 := by
    rw [copies]
    split
    · exact Nat.max_le.mpr ⟨Nat.le_refl 1, h parent⟩
    · exact h parent
  exact (List.replicate_sublist_replicate parent).mpr hcopies

theorem matching_eq_self {j : Join} {related : List Record} {parent : Record} (value : Json)
    (hvalue : value ≠ .null) (hparent : parent.get? j.left.column = some value)
    (hrelated : ∀ row ∈ related, row.get? j.right.column = some value) :
    j.matching related parent = related := by
  rw [matching]
  split
  next hnone => rw [hnone] at hparent; cases hparent
  next hnull => exact absurd (Option.some.inj (hparent.symm.trans hnull)) hvalue
  next own hown =>
    obtain rfl := Option.some.inj (hparent.symm.trans hown)
    exact List.filter_eq_self.mpr fun row hrow => beq_iff_eq.mpr (hrelated row hrow)

/-- A parent row that some related rows match comes once for each of them. -/
theorem parentRows_singleton {j : Join} {related : List Record} {parent : Record}
    (h : j.matching related parent = related) (hne : related ≠ []) :
    j.parentRows [parent] related = List.replicate related.length parent := by
  rw [parentRows_eq, List.flatMap_singleton, copies, h,
    Nat.max_eq_right (List.length_pos_iff.mpr hne), ite_self]

end Join

/-! ### Keys -/

/-- No two rows agree on all columns of some names. -/
def KeysDiffer (names : List String) (rows : List Record) : Prop :=
  rows.Pairwise fun a b => ∃ name ∈ names, a.get? name ≠ b.get? name

theorem KeysDiffer.length_filter_le {names : List String} {rows : List Record}
    (h : KeysDiffer names rows) {column : String} (hsingle : ∀ name ∈ names, name = column)
    (value : Json) : (rows.filter fun row => row.get? column == some value).length ≤ 1 := by
  have hdiffer : (rows.filter fun row => row.get? column == some value).Pairwise
      fun a b => ∃ name ∈ names, a.get? name ≠ b.get? name := h.filter _
  have hvalue : ∀ row ∈ rows.filter fun row => row.get? column == some value,
      row.get? column = some value :=
    fun row hrow => eq_of_beq (List.mem_filter.mp hrow).2
  generalize rows.filter (fun row => row.get? column == some value) = found at hdiffer hvalue
  match found with
  | [] | [_] => simp
  | a :: b :: rest =>
      obtain ⟨name, hname, hne⟩ := (List.pairwise_cons.mp hdiffer).1 b List.mem_cons_self
      obtain rfl := hsingle name hname
      exact absurd ((hvalue a List.mem_cons_self).trans (hvalue b (by simp)).symm) hne

/-! ### Joins of a relation to one row -/

namespace Schema

/-- A row with a value for every column, told by its name. -/
def rowOf (s : Schema) (value : String → Json) : Record :=
  s.columns.map fun c => (c.field, value c.field)

theorem keys_rowOf (s : Schema) (value : String → Json) : (s.rowOf value).keys = s.fieldNames := by
  rw [Record.keys, rowOf, List.map_map]
  rfl

theorem get?_rowOf {s : Schema} {name : String} (h : name ∈ s.fieldNames) (value : String → Json) :
    (s.rowOf value).get? name = some (value name) := by
  rw [fieldNames] at h
  rw [rowOf]
  generalize s.columns = columns at h
  induction columns with
  | nil => cases h
  | cons first rest ih =>
      rw [List.map_cons, Record.get?_cons]
      split
      next heq => rw [heq]
      next hne =>
          rw [List.map_cons, List.mem_cons] at h
          exact ih (h.resolve_left (Ne.symm hne))

/-- Rows may agree on a column that is not the only one of the key. -/
theorem exists_rows_alike {s : Schema} {key : List String} {column other : String}
    (hcolumn : column ∈ s.fieldNames) (hfield : other ∈ s.fieldNames) (hother : other ∈ key)
    (hne : other ≠ column) :
    ∃ rows : List Record, rows.length = 2 ∧ KeysDiffer key rows ∧
      ∀ row ∈ rows, row.keys = s.fieldNames ∧ row.get? column = some (.int 0) := by
  let row (n : Int) : Record := s.rowOf fun name => if name = other then .int n else .int 0
  have hrow : ∀ n, (row n).keys = s.fieldNames ∧ (row n).get? column = some (.int 0) := by
    intro n
    refine ⟨keys_rowOf s _, ?_⟩
    rw [get?_rowOf hcolumn, if_neg (Ne.symm hne)]
  refine ⟨[row 0, row 1], rfl, List.pairwise_pair.mpr ⟨other, hother, ?_⟩, ?_⟩
  · rw [get?_rowOf hfield, get?_rowOf hfield, if_pos rfl, if_pos rfl]
    decide
  · simp [hrow]

end Schema

namespace Relations

/-- **A relation to one row** is one whose column is the first of the related table's key. If the key
is that column, no value of it is in two rows, and a join repeats no parent row. If the key has another
column, then the related table can hold rows of which a join repeats the parent row. -/
theorem toOne_matches_key (d : SqlDialect) (table : String)
    (columnRows forwardRows backwardRows : List Record) (s : Schema) (r : RelationRequest)
    (hs : Introspection.schema d table columnRows forwardRows backwardRows = .ok s)
    (hr : r.schema? = some s) :
    let key := Introspection.keyNames d columnRows
    (r.isToOne = true ↔ key.head? = some r.relation.column) ∧
    ((∀ name ∈ key, name = r.relation.column) → ∀ rows, KeysDiffer key rows →
      (∀ value, (rows.filter fun row => row.get? r.relation.column == some value).length ≤ 1) ∧
      ∀ o joinAll, ∀ j ∈ SqlRead.joins o joinAll, j.right = ⟨r.table, r.relation.column⟩ →
        ∀ parents, (j.parentRows parents rows).Sublist parents) ∧
    (r.isToOne = true → ∀ other ∈ key, other ≠ r.relation.column →
      ∃ rows parent, (∀ row ∈ rows, row.keys = s.fieldNames) ∧ KeysDiffer key rows ∧
        ∀ o, r ∈ o.relations → ∃ j ∈ SqlRead.joins o true,
          j.right = ⟨r.table, r.relation.column⟩ ∧
          j.parentRows [parent] rows = [parent, parent]) := by
  intro key
  have htoOne : r.isToOne = true ↔ key.head? = some r.relation.column := by
    simp only [RelationRequest.isToOne, hr, Introspection.primaryKey_schema hs, beq_iff_eq, key]
  refine ⟨htoOne, fun hsingle rows hdiffer => ?_, fun hone other hother hne => ?_⟩
  · have hvalue := fun value => hdiffer.length_filter_le hsingle value
    refine ⟨hvalue, fun o joinAll j _ hright => Join.parentRows_sublist fun parent => ?_⟩
    rw [Join.matching, hright]
    split
    · exact Nat.zero_le 1
    · exact Nat.zero_le 1
    · exact hvalue _
  · have hcolumn : r.relation.column ∈ s.fieldNames :=
      Introspection.mem_fieldNames_of_mem_keyNames hs (List.mem_of_head? (htoOne.mp hone))
    obtain ⟨rows, hlength, hdiffer, hrows⟩ := Schema.exists_rows_alike hcolumn
      (Introspection.mem_fieldNames_of_mem_keyNames hs hother) hother hne
    refine ⟨rows, [(r.relation.orgColumn, .int 0)], fun row hrow => (hrows row hrow).1, hdiffer,
      fun o hmem => ?_⟩
    refine ⟨_, List.mem_map_of_mem (List.mem_filter.mpr ⟨hmem, by rw [hone]; rfl⟩), rfl, ?_⟩
    rw [Join.parentRows_singleton, hlength]
    · rfl
    · refine Join.matching_eq_self (.int 0) (by decide) ?_ fun row hrow => (hrows row hrow).2
      rw [Record.get?_cons, if_pos rfl]
    · exact List.ne_nil_of_length_pos (hlength ▸ Nat.zero_lt_two)

/-- A relation of sales to a table of some schema. -/
def ofSales (orgColumn table column : String) (schema : Schema) : RelationRequest :=
  ⟨{ Relation.link table column "sales" orgColumn with schema := some schema }, .left, []⟩

/-- Customers are keyed by one column. -/
theorem toOne_matches_customer :
    let columnRows : List Record :=
      [[("field", .string "id"), ("key_type", .string "PRI")], [("field", .string "name")]]
    let customers : List Record :=
      [[("id", .int 1), ("name", .string "Ada")], [("id", .int 2), ("name", .string "Ada")]]
    ∃ s, Introspection.schema .sqlite "customers" columnRows [] [] = .ok s ∧
      (ofSales "customer" "customers" "id" s).isToOne = true ∧
      KeysDiffer (Introspection.keyNames .sqlite columnRows) customers ∧
      ∀ value, (customers.filter fun row => row.get? "id" == some value).length ≤ 1 := by
  intro columnRows customers
  have hkey : Introspection.keyNames .sqlite columnRows = ["id"] := by decide +kernel
  obtain ⟨s, hs⟩ : ∃ s, Introspection.schema .sqlite "customers" columnRows [] [] = .ok s := ⟨_, rfl⟩
  have hdiffer : KeysDiffer (Introspection.keyNames .sqlite columnRows) customers := by
    rw [hkey]
    exact List.pairwise_pair.mpr ⟨"id", by decide, by decide⟩
  obtain ⟨htoOne, hone, -⟩ := toOne_matches_key .sqlite "customers" columnRows [] [] s
    (ofSales "customer" "customers" "id" s) hs rfl
  refine ⟨s, hs, htoOne.mpr (by rw [hkey]; rfl), hdiffer, ?_⟩
  refine (hone ?_ customers hdiffer).1
  rw [hkey]
  exact List.forall_mem_singleton.mpr rfl

/-- The lines of a sale are keyed by the sale and a number, yet the relation of a sale to its lines is
to one row, and a join of them repeats the sale. -/
theorem toOne_repeats_sale :
    ∃ (columnRows forwardRows lines : List Record) (s : Schema) (o : FindOptions)
      (r : RelationRequest) (j : Join) (sale : Record),
      Introspection.schema .sqlite "lines" columnRows forwardRows [] = .ok s ∧
      r ∈ o.relations ∧ r.schema? = some s ∧ r.isToOne = true ∧
      (∀ row ∈ lines, row.keys = s.fieldNames) ∧
      KeysDiffer (Introspection.keyNames .sqlite columnRows) lines ∧
      (lines.filter fun row => row.get? r.relation.column == some (.int 1)).length = 2 ∧
      SqlRead.joins o true = [j] ∧
      j.rows [sale] lines = lines.map fun row => (some sale, some row) := by
  let columnRows : List Record :=
    [[("field", .string "sale"), ("key_type", .string "PRI")],
      [("field", .string "number"), ("key_type", .string "PRI")], [("field", .string "item")]]
  let forwardRows : List Record :=
    [[("org_column", .string "sale"), ("ref_table", .string "sales"), ("ref_column", .string "id")]]
  let lines : List Record :=
    [[("sale", .int 1), ("number", .int 1), ("item", .string "ink")],
      [("sale", .int 1), ("number", .int 2), ("item", .string "pen")]]
  have hkey : Introspection.keyNames .sqlite columnRows = ["sale", "number"] := by decide +kernel
  obtain ⟨s, hs⟩ : ∃ s, Introspection.schema .sqlite "lines" columnRows forwardRows [] = .ok s :=
    ⟨_, rfl⟩
  have htoOne : (ofSales "id" "lines" "sale" s).isToOne = true := by
    have hprimary : s.primaryKey = some "sale" := by
      rw [Introspection.primaryKey_schema hs, hkey]
      rfl
    exact beq_iff_eq.mpr hprimary
  refine ⟨columnRows, forwardRows, lines, s,
    { FindOptions.ofSchema (.ofColumns "sales" [(Column.ofType "id" .number).asPrimary]) with
      relations := [ofSales "id" "lines" "sale" s] },
    ofSales "id" "lines" "sale" s, ⟨.left, "lines", ⟨"sales", "id"⟩, ⟨"lines", "sale"⟩⟩,
    [("id", .int 1)], hs, List.mem_singleton_self _, rfl, htoOne, ?_, ?_, rfl, ?_, rfl⟩
  · rw [Introspection.fieldNames_schema hs]
    decide +kernel
  · rw [hkey]
    exact List.pairwise_pair.mpr ⟨"number", by decide, by decide⟩
  · rw [SqlRead.joins, List.filter_cons, htoOne]
    rfl

end Relations

end DataAccess
