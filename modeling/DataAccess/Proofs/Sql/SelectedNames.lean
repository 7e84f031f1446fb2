import DataAccess.Proofs.Query.Reference
import DataAccess.Sql.Select

/-!
# The names that selected columns come back under

A column of the table itself comes back under its name, and one of a joined table under the table's
name and its own. Columns that are added for lookups never share a name with those that are asked for.
So names clash if a column is asked for or told of twice, or if a dotted name is met twice, and only
then; without joins there are no dotted names.
-/

namespace DataAccess

namespace SqlRead

variable {o : FindOptions} {joinAll : Bool}

/-! ### The columns that are selected -/

theorem mem_select {s : Schema} {fields : List String} {c : Column} (h : c ∈ s.select fields) :
    c ∈ s.columns ∧ (fields.isEmpty = false → c.field ∈ fields) := by
  rw [Schema.select] at h
  split at h
  next hempty =>
    refine ⟨h, fun hsome => ?_⟩
    rw [hempty] at hsome
    cases hsome
  next _ =>
    obtain ⟨field, hfield, hc⟩ := List.mem_filterMap.mp h
    obtain ⟨hmem, rfl⟩ := Schema.column?_eq_some hc
    exact ⟨hmem, fun _ => hfield⟩

theorem nodup_select {s : Schema} {fields : List String} (hcolumns : s.fieldNames.Nodup)
    (hfields : fields.Nodup) : ((s.select fields).map (·.field)).Nodup := by
  rw [Schema.select]
  split
  · exact hcolumns
  · rw [List.nodup_iff_pairwise_ne, List.pairwise_map]
    rw [List.nodup_iff_pairwise_ne] at hfields
    refine hfields.filterMap _ fun field field' hne c hc c' hc' => ?_
    rw [(Schema.column?_eq_some hc).2, (Schema.column?_eq_some hc').2]
    exact hne

theorem fst_lookupKeys (o : FindOptions) (joinAll : Bool) (relations : List RelationRequest)
    (found : List String) :
    (lookupKeys o joinAll relations found).map (·.1) = relations := by
  induction relations generalizing found with
  | nil => rfl
  | cons r rest ih =>
      rw [lookupKeys]
      split
      · rw [List.map_cons, ih]
      · rw [List.map_cons, ih]

/-- A join column is fetched for lookups if its relation is not joined and the fields leave it out, and
once. -/
theorem key_of_mem_lookupKeys {relations : List RelationRequest} {found : List String}
    {entry : RelationRequest × Option String} {key : String}
    (hentry : entry ∈ lookupKeys o joinAll relations found) (hkey : entry.2 = some key) :
    isJoined joinAll entry.1 = false ∧ o.fields.isEmpty = false ∧ key ∉ o.fields ∧ key ∉ found := by
  induction relations generalizing found with
  | nil => cases hentry
  | cons r rest ih =>
      rw [lookupKeys] at hentry
      split at hentry
      next _ =>
        rcases List.mem_cons.mp hentry with rfl | hentry
        · cases hkey
        · exact ih hentry
      next hneeded =>
        simp only [Bool.or_eq_true, not_or, Bool.not_eq_true, List.contains_eq_mem,
          decide_eq_false_iff_not] at hneeded
        obtain ⟨⟨⟨hlookup, hsome⟩, hfields⟩, hfound⟩ := hneeded
        rcases List.mem_cons.mp hentry with rfl | hentry
        · obtain rfl := Option.some.inj hkey
          exact ⟨hlookup, hsome, hfields, hfound⟩
        · obtain ⟨hlookup, hsome, hfields, hfound⟩ := ih hentry
          exact ⟨hlookup, hsome, hfields, fun hmem => hfound (List.mem_cons_of_mem _ hmem)⟩

theorem pairwise_lookupKeys (o : FindOptions) (joinAll : Bool) (relations : List RelationRequest)
    (found : List String) :
    (lookupKeys o joinAll relations found).Pairwise fun entry entry' =>
      ∀ key, entry.2 = some key → entry'.2 ≠ some key := by
  induction relations generalizing found with
  | nil => exact .nil
  | cons r rest ih =>
      rw [lookupKeys]
      split
      · refine List.pairwise_cons.mpr ⟨?_, ih found⟩
        rintro entry hentry key hkey
        cases hkey
      · refine List.pairwise_cons.mpr ⟨?_, ih _⟩
        rintro entry hentry _ ⟨⟩ hkey
        exact (key_of_mem_lookupKeys hentry hkey).2.2.2 List.mem_cons_self

/-! ### The names by what they are of -/

/-- The name of the column that an entry adds for its lookups. -/
def lookupName? (o : FindOptions) (entry : RelationRequest × Option String) : Option String :=
  (entry.2.bind o.schema.column?).map (·.field)

/-- The names of the columns that are added for lookups. -/
def lookupNames (o : FindOptions) (joinAll : Bool) : List String :=
  (lookupKeys o joinAll o.relations []).filterMap (lookupName? o)

/-- The dotted names of a relation's columns. -/
def dottedNames (r : RelationRequest) : List String :=
  (r.projected.map (·.field)).map (r.table ++ "." ++ ·)

/-- The names of the columns of joined tables. -/
def joinedNames (o : FindOptions) (joinAll : Bool) : List String :=
  (o.relations.filter (isJoined joinAll)).flatMap dottedNames

theorem lookupName?_eq_some {entry : RelationRequest × Option String} {name : String}
    (h : lookupName? o entry = some name) : entry.2 = some name ∧ name ∈ o.schema.fieldNames := by
  obtain ⟨column, hcolumn, rfl⟩ := Option.map_eq_some_iff.mp h
  obtain ⟨key, hkey, hfound⟩ := Option.bind_eq_some_iff.mp hcolumn
  obtain ⟨hmem, rfl⟩ := Schema.column?_eq_some hfound
  exact ⟨hkey, List.mem_map_of_mem hmem⟩

theorem outNames_relationItems (entry : RelationRequest × Option String) :
    (relationItems o joinAll entry).map (·.outName) =
      if isJoined joinAll entry.1 then dottedNames entry.1 else (lookupName? o entry).toList := by
  rw [relationItems]
  split
  · rw [dottedNames, List.map_map, List.map_map]
    rfl
  · rw [lookupName?]
    split
    next column hcolumn =>
      rw [hcolumn]
      rfl
    next hnone =>
      rw [hnone]
      rfl

/-- What relations add comes back under names for lookups and under dotted ones. -/
theorem perm_outNames_flatMap {entries : List (RelationRequest × Option String)}
    (hjoined : ∀ entry ∈ entries, isJoined joinAll entry.1 = true → entry.2 = none) :
    ((entries.flatMap (relationItems o joinAll)).map (·.outName)).Perm
      (entries.filterMap (lookupName? o) ++
        ((entries.map (·.1)).filter (isJoined joinAll)).flatMap dottedNames) := by
  induction entries with
  | nil => exact .refl _
  | cons entry rest ih =>
      obtain ⟨hentry, hrest⟩ := List.forall_mem_cons.mp hjoined
      rw [List.flatMap_cons, List.map_append, outNames_relationItems, List.filterMap_cons,
        List.map_cons, List.filter_cons]
      by_cases hown : isJoined joinAll entry.1 = true
      · have hnone : lookupName? o entry = none := by
          rw [lookupName?, hentry hown]
          rfl
        rw [if_pos hown, if_pos hown, hnone, List.flatMap_cons]
        exact ((ih hrest).append_left _).trans (List.perm_append_comm_assoc _ _ _)
      · rw [if_neg hown, if_neg hown]
        cases lookupName? o entry with
        | none => exact ih hrest
        | some name => exact (ih hrest).cons name

theorem perm_outNames (o : FindOptions) (joinAll : Bool) :
    ((items o joinAll).map (·.outName)).Perm
      (o.projected.map (·.field) ++ (lookupNames o joinAll ++ joinedNames o joinAll)) := by
  have hjoined : ∀ entry ∈ lookupKeys o joinAll o.relations [],
      isJoined joinAll entry.1 = true → entry.2 = none := by
    intro entry hentry hown
    cases hkey : entry.2 with
    | none => rfl
    | some key =>
        rw [(key_of_mem_lookupKeys hentry hkey).1] at hown
        cases hown
  have hadded := perm_outNames_flatMap (o := o) hjoined
  rw [fst_lookupKeys] at hadded
  have hown : (o.projected.map (selectedFrom o.table)).map (·.outName) = o.projected.map (·.field) :=
    List.map_map
  rw [items, List.map_append, hown]
  exact hadded.append_left _

/-- The columns for lookups have names of their own, which are not asked for. -/
theorem nodup_lookupNames (o : FindOptions) (joinAll : Bool) :
    (lookupNames o joinAll).Nodup ∧ ∀ name ∈ lookupNames o joinAll,
      name ∈ o.schema.fieldNames ∧ name ∉ o.projected.map (·.field) := by
  constructor
  · rw [lookupNames, List.nodup_iff_pairwise_ne]
    refine (pairwise_lookupKeys o joinAll o.relations []).filterMap _ ?_
    rintro entry entry' hkeys name hname name' hname' rfl
    exact hkeys name (lookupName?_eq_some hname).1 (lookupName?_eq_some hname').1
  · intro name hname
    obtain ⟨entry, hentry, hname⟩ := List.mem_filterMap.mp hname
    obtain ⟨hkey, hcolumn⟩ := lookupName?_eq_some hname
    obtain ⟨-, hsome, hout, -⟩ := key_of_mem_lookupKeys hentry hkey
    refine ⟨hcolumn, fun hprojected => hout ?_⟩
    obtain ⟨column, hmem, rfl⟩ := List.mem_map.mp hprojected
    exact (mem_select hmem).2 hsome

/-- No name is met twice among the columns that are asked for, nor among those of joined tables, nor
among both. -/
structure NamesApart (o : FindOptions) (joinAll : Bool) : Prop where
  own : (o.projected.map (·.field)).Nodup
  joined : (joinedNames o joinAll).Nodup
  apart : ∀ name ∈ joinedNames o joinAll,
    name ∉ o.projected.map (·.field) ∧ name ∉ lookupNames o joinAll

theorem nodup_outNames_iff (o : FindOptions) (joinAll : Bool) :
    ((items o joinAll).map (·.outName)).Nodup ↔ NamesApart o joinAll := by
  obtain ⟨hlookups, hothers⟩ := nodup_lookupNames o joinAll
  rw [(perm_outNames o joinAll).nodup_iff, List.nodup_append, List.nodup_append]
  constructor
  · rintro ⟨hown, ⟨-, hjoined, hadded⟩, hapart⟩
    refine ⟨hown, hjoined, fun name hname => ⟨fun hmem => ?_, fun hmem => ?_⟩⟩
    · exact hapart name hmem name (List.mem_append_right _ hname) rfl
    · exact hadded name hmem name hname rfl
  · rintro ⟨hown, hjoined, hapart⟩
    refine ⟨hown, ⟨hlookups, hjoined, ?_⟩, ?_⟩
    · rintro name hname _ hother rfl
      exact (hapart name hother).2 hname
    · rintro name hname _ hother rfl
      rcases List.mem_append.mp hother with hother | hother
      · exact (hothers name hother).2 hname
      · exact (hapart name hother).1 hname

/-! ### Names without dots -/

/-- A dotted name of a table without a dot is read back as the table's. -/
theorem splitReference?_of_mem_dottedNames {r : RelationRequest} {name : String}
    (htable : isRelationReference r.table = false) (h : name ∈ dottedNames r) :
    ∃ column, splitReference? name = some (r.table, column) := by
  obtain ⟨column, -, rfl⟩ := List.mem_map.mp h
  exact ⟨column, splitReference?_append htable column⟩

/-- Names are told apart if what they are made from has no dots and is not met twice. -/
theorem namesApart_of_undotted (hfields : o.fields.Nodup) (hown : o.schema.fieldNames.Nodup)
    (hcolumns : ∀ name ∈ o.schema.fieldNames, isRelationReference name = false)
    (htables : ∀ r ∈ o.relations, isRelationReference r.table = false)
    (hrelated : ∀ r ∈ o.relations, (r.projected.map (·.field)).Nodup)
    (hdistinct : (o.relations.map (·.table)).Nodup) : NamesApart o joinAll := by
  refine ⟨nodup_select hown hfields, ?_, ?_⟩
  · have hpairs : (o.relations.filter (isJoined joinAll)).Pairwise fun r r' => r.table ≠ r'.table := by
      rw [List.nodup_iff_pairwise_ne, List.pairwise_map] at hdistinct
      exact hdistinct.filter _
    rw [joinedNames, List.nodup_iff_pairwise_ne, List.pairwise_flatMap]
    refine ⟨fun r hr => nodup_map_dotted (hrelated r (List.mem_filter.mp hr).1) r.table, ?_⟩
    refine hpairs.imp_of_mem ?_
    rintro r r' hr hr' hne name hname _ hname' rfl
    obtain ⟨column, hsplit⟩ :=
      splitReference?_of_mem_dottedNames (htables r (List.mem_filter.mp hr).1) hname
    obtain ⟨column', hsplit'⟩ :=
      splitReference?_of_mem_dottedNames (htables r' (List.mem_filter.mp hr').1) hname'
    exact hne (Prod.mk.inj (Option.some.inj (hsplit.symm.trans hsplit'))).1
  · intro name hname
    obtain ⟨r, hr, hname⟩ := List.mem_flatMap.mp hname
    obtain ⟨column, hsplit⟩ :=
      splitReference?_of_mem_dottedNames (htables r (List.mem_filter.mp hr).1) hname
    have hplain : name ∉ o.schema.fieldNames := fun hmem => by
      rw [splitReference?_eq_none_iff.mpr (hcolumns name hmem)] at hsplit
      cases hsplit
    refine ⟨fun hmem => ?_, fun hmem => hplain ((nodup_lookupNames o joinAll).2 name hmem).1⟩
    obtain ⟨own, hown, rfl⟩ := List.mem_map.mp hmem
    exact hplain (List.mem_map_of_mem (mem_select hown).1)

end SqlRead

end DataAccess
