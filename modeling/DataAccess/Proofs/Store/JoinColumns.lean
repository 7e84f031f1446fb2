import DataAccess.Document.Store
import DataAccess.Proofs.Sql.Scope
import DataAccess.Rest.Store

/-!
# Join columns of looked up relations

A relation that is looked up for a row needs the row's value of its join column. A read that lists its
fields fetches the column all the same: each store adds the columns that the list leaves out, and a
column that several relations share is added once.
-/

namespace DataAccess

/-! ### Selected columns -/

namespace SqlRead

variable {o : FindOptions} {joinAll : Bool} {column : Column}

theorem count_projected (hfields : o.fields.isEmpty = false) (homitted : column.field ∉ o.fields) :
    (o.projected.map (selectedFrom o.table)).count (selectedFrom o.table column) = 0 := by
  rw [List.count_eq_zero]
  intro hmem
  obtain ⟨own, hown, heq⟩ := List.mem_map.mp hmem
  obtain rfl : own = column := congrArg Selected.column heq
  exact homitted ((mem_select hown).2 hfields)

theorem selectedJoined_ne_selectedFrom (r : RelationRequest) (own column : Column) (table : String) :
    selectedJoined r own ≠ selectedFrom table column := by
  intro heq
  obtain rfl : own = column := congrArg Selected.column heq
  have hname : r.table ++ "." ++ own.field = own.field := congrArg Selected.outName heq
  have hlength := congrArg String.length hname
  simp only [String.length_append] at hlength
  have hdot : ".".length = 1 := rfl
  omega

/-- A relation adds the column of the table itself that is its key to add, and no other. -/
theorem count_relationItems (hcolumn : o.schema.column? column.field = some column)
    {entry : RelationRequest × Option String}
    (hjoined : isJoined joinAll entry.1 = true → entry.2 = none) :
    (relationItems o joinAll entry).count (selectedFrom o.table column) =
      if entry.2 = some column.field then 1 else 0 := by
  rw [relationItems]
  split
  next htrue =>
    rw [hjoined htrue, if_neg (by simp), List.count_eq_zero]
    intro hmem
    obtain ⟨own, -, heq⟩ := List.mem_map.mp hmem
    exact selectedJoined_ne_selectedFrom entry.1 own column o.table heq
  next _ =>
    by_cases hkey : entry.2 = some column.field
    · rw [hkey, Option.bind_some, hcolumn, if_pos rfl]
      exact List.count_singleton_self
    · rw [if_neg hkey, List.count_eq_zero]
      split
      next own hown =>
        intro hmem
        obtain rfl : column = own := congrArg Selected.column (List.mem_singleton.mp hmem)
        obtain ⟨key, hsome, hfound⟩ := Option.bind_eq_some_iff.mp hown
        exact hkey (hsome.trans (congrArg some (Schema.column?_eq_some hfound).2.symm))
      next _ => exact List.not_mem_nil

/-- The join columns of the relations that are looked up. -/
def lookedUp (joinAll : Bool) (relations : List RelationRequest) : List String :=
  (relations.filter fun r => !isJoined joinAll r).map (·.relation.orgColumn)

theorem mem_lookedUp_cons (r : RelationRequest) (rest : List RelationRequest) (key : String) :
    key ∈ lookedUp joinAll (r :: rest) ↔
      isJoined joinAll r = false ∧ key = r.relation.orgColumn ∨ key ∈ lookedUp joinAll rest := by
  rw [lookedUp, List.filter_cons]
  cases isJoined joinAll r with
  | true => simp [lookedUp]
  | false => simp [lookedUp]

/-- The relations that are looked up add a join column once, unless it is found already. -/
theorem count_lookupItems (hcolumn : o.schema.column? column.field = some column)
    (hfields : o.fields.isEmpty = false) (homitted : column.field ∉ o.fields)
    (relations : List RelationRequest) (found : List String) :
    ((lookupKeys o joinAll relations found).flatMap (relationItems o joinAll)).count
        (selectedFrom o.table column) =
      if column.field ∈ lookedUp joinAll relations ∧ column.field ∉ found then 1 else 0 := by
  induction relations generalizing found with
  | nil => simp [lookupKeys, lookedUp]
  | cons r rest ih =>
      rw [lookupKeys]
      split
      next hskip =>
        rw [List.flatMap_cons, List.count_append, count_relationItems hcolumn fun _ => rfl, ih,
          if_neg (by simp), Nat.zero_add]
        have hself : ¬ ((isJoined joinAll r = false ∧ column.field = r.relation.orgColumn) ∧
            column.field ∉ found) := by
          rintro ⟨⟨hlookup, hkey⟩, hfound⟩
          simp [hlookup, hfields, ← hkey, homitted, hfound] at hskip
        simp only [mem_lookedUp_cons, or_and_right, hself, false_or]
      next hadd =>
        simp only [Bool.or_eq_true, not_or, Bool.not_eq_true, List.contains_eq_mem,
          decide_eq_false_iff_not] at hadd
        obtain ⟨⟨⟨hlookup, -⟩, -⟩, hfound⟩ := hadd
        rw [List.flatMap_cons, List.count_append, ih,
          count_relationItems hcolumn fun hjoined => absurd hjoined (by simp [hlookup])]
        by_cases hkey : column.field = r.relation.orgColumn
        · simp [mem_lookedUp_cons, hkey, hfound, hlookup]
        · simp [mem_lookedUp_cons, hkey, Ne.symm hkey]

/-- A read selects the join column of a relation that is looked up, and once if its fields leave the
column out. -/
theorem selects_joinColumn {r : RelationRequest} (hr : r ∈ Relations.pending o joinAll)
    (hcolumn : o.schema.column? r.relation.orgColumn = some column) :
    selectedFrom o.table column ∈ items o joinAll ∧
      (o.fields ≠ [] → r.relation.orgColumn ∉ o.fields →
        (items o joinAll).count (selectedFrom o.table column) = 1) := by
  obtain ⟨hmem, hname⟩ := Schema.column?_eq_some hcolumn
  rw [← hname] at hcolumn ⊢
  have hlookedUp : column.field ∈ lookedUp joinAll o.relations := hname ▸ List.mem_map_of_mem hr
  have hadded : o.fields ≠ [] → column.field ∉ o.fields →
      (items o joinAll).count (selectedFrom o.table column) = 1 := by
    intro hfields homitted
    have hsome : o.fields.isEmpty = false := List.isEmpty_eq_false_iff.mpr hfields
    rw [items, List.count_append, count_projected hsome homitted,
      count_lookupItems hcolumn hsome homitted, if_pos ⟨hlookedUp, List.not_mem_nil⟩]
  refine ⟨?_, hadded⟩
  by_cases hasked : o.fields = [] ∨ column.field ∈ o.fields
  · exact List.mem_append_left _ (List.mem_map_of_mem (Schema.mem_select_of_column? hcolumn hasked))
  · rw [not_or] at hasked
    exact List.count_pos_iff.mp (hadded hasked.1 hasked.2 ▸ Nat.one_pos)

end SqlRead

/-! ### Listed fields -/

/-- A list of fields has the join column of a relation after the join columns are added, and once if it
left the column out. -/
theorem joinColumn_foldl {relations : List RelationRequest} {r : RelationRequest} (hr : r ∈ relations)
    (fields : List String) :
    let listed := relations.foldl (fun fields r =>
      if fields.contains r.relation.orgColumn then fields else fields ++ [r.relation.orgColumn]) fields
    r.relation.orgColumn ∈ listed ∧
      (r.relation.orgColumn ∉ fields → listed.count r.relation.orgColumn = 1) := by
  intro listed
  obtain ⟨added, hadded, -, hnodup, hall⟩ :=
    Engine.exists_foldl_new fields (relations.map (·.relation.orgColumn))
  have hlisted : listed = fields ++ added := List.foldl_map.symm.trans hadded
  have hmem := hall _ (List.mem_map_of_mem hr)
  rw [hlisted]
  refine ⟨hmem, fun hmissing => ?_⟩
  have hnew := (List.mem_append.mp hmem).resolve_left hmissing
  rw [List.count_append, List.count_eq_zero.mpr hmissing, hnodup.count, if_pos hnew]

theorem DocumentStore.projection_joinColumn {o : FindOptions} {r : RelationRequest}
    (hr : r ∈ o.relations) :
    (projection o = [] ∨ r.relation.orgColumn ∈ projection o) ∧
      (o.fields ≠ [] → r.relation.orgColumn ∉ o.fields →
        (projection o).count r.relation.orgColumn = 1) := by
  rw [projection]
  split
  next hempty => exact ⟨.inl rfl, fun hsome => absurd (List.isEmpty_iff.mp hempty) hsome⟩
  next _ =>
    obtain ⟨hmem, hcount⟩ := joinColumn_foldl hr o.fields
    exact ⟨.inr hmem, fun _ => hcount⟩

namespace RestStore

theorem listedFields_joinColumn {o : FindOptions} {r : RelationRequest} (hr : r ∈ o.relations) :
    (listedFields o = [] ∨ r.relation.orgColumn ∈ listedFields o) ∧
      (o.fields ≠ [] → r.relation.orgColumn ∉ o.fields →
        (listedFields o).count r.relation.orgColumn = 1 ∨
          listedFields o = [] ∧ ∀ field ∈ o.fields, field = Formula.recordId) := by
  rw [listedFields]
  split
  next hempty =>
    refine ⟨.inl rfl, fun _ _ => .inr ⟨rfl, fun field hfield => ?_⟩⟩
    have hnone := List.filter_eq_nil_iff.mp (List.isEmpty_iff.mp hempty) field hfield
    simpa using hnone
  next _ =>
    obtain ⟨hmem, hcount⟩ := joinColumn_foldl hr (selectedFields o.fields)
    refine ⟨.inr hmem, fun _ hmissing => .inl (hcount fun hlisted => hmissing ?_)⟩
    exact (List.mem_filter.mp hlisted).1

/-- The fields that the parameters of a list ask for. None means all. -/
def askedFields (params : List (String × String)) : List String :=
  (params.filter fun param => param.1 == "fields[]").map (·.2)

theorem askedFields_append (params more : List (String × String)) :
    askedFields (params ++ more) = askedFields params ++ askedFields more := by
  rw [askedFields, List.filter_append, List.map_append]
  rfl

theorem askedFields_cons_of_ne {name : String} (h : name ≠ "fields[]") (value : String)
    (rest : List (String × String)) : askedFields ((name, value) :: rest) = askedFields rest := by
  simp [askedFields, h]

theorem askedFields_fieldParams (fields : List String) :
    askedFields (fields.map fun field => ("fields[]", field)) = fields := by
  rw [askedFields, List.filter_eq_self.mpr, List.map_map]
  · exact List.map_id fields
  · intro param hparam
    obtain ⟨field, -, rfl⟩ := List.mem_map.mp hparam
    rfl

theorem askedFields_sortParams (index : Nat) (sort : List SortCondition) :
    askedFields (ListQuery.sortParams index sort) = [] := by
  have hname : ∀ middle tail : String,
      toString "sort[" ++ toString middle ++ toString tail ≠ "fields[]" := by
    intro middle tail heq
    have hchars := congrArg String.toList (show "sort[" ++ middle ++ tail = "fields[]" from heq)
    simp at hchars
  induction sort generalizing index with
  | nil => rfl
  | cons first rest ih =>
      rw [ListQuery.sortParams, askedFields_cons_of_ne (hname _ _),
        askedFields_cons_of_ne (hname _ _), ih]

/-- The parameters of a list ask for its fields. -/
theorem askedFields_params (q : ListQuery) : askedFields q.params = q.fields := by
  obtain ⟨formula, sort, fields, maximum⟩ := q
  have hsize : askedFields [("pageSize", ListQuery.number ListQuery.pageSize)] = [] := rfl
  simp only [ListQuery.params, askedFields_append, hsize, askedFields_sortParams,
    askedFields_fieldParams]
  cases formula with
  | none => cases maximum <;> exact List.append_nil fields
  | some f => cases maximum <;> exact List.append_nil fields

end RestStore

/-- Tasks with their names, their owners and the notes of their owners. -/
def tasksWithOwners : FindOptions :=
  { FindOptions.ofSchema (.ofColumns "tasks" [(Column.ofType "id" .string).asPrimary,
      .ofType "name" .string, .ofType "owner" .string]) with
    fields := ["name"]
    relations :=
      [⟨{ Relation.link "users" "id" "tasks" "owner" with
          schema := some (.ofColumns "users" [(Column.ofType "id" .string).asPrimary]) }, .left, []⟩,
        ⟨{ Relation.link "notes" "author" "tasks" "owner" with
          schema := some (.ofColumns "notes" [(Column.ofType "id" .string).asPrimary,
            .ofType "author" .string]) }, .left, []⟩] }

end DataAccess
