import DataAccess.Proofs.Document.Unlinked
import DataAccess.Sql.Introspection

/-!
# Schemas from the rows of a catalog

The columns of a schema are those that the catalog has rows for, and its key is the first of them that
is flagged as primary. The rows of keys flag foreign columns and add links, told from the side of the
table.
-/

namespace DataAccess

theorem Column.map_unlinked_foldl_asForeign (links : List Relation) (columns : List Column) :
    (links.foldl (fun columns r => changeFirst r.orgColumn asForeign columns) columns).map unlinked =
      columns.map unlinked := by
  induction links generalizing columns with
  | nil => rfl
  | cons first rest ih =>
      have hforeign : ∀ c : Column, c.asForeign.unlinked = c.unlinked := fun c => rfl
      rw [List.foldl_cons, ih, map_unlinked_changeFirst _ hforeign]

theorem Column.find?_changeFirst {change : Column → Column} (hchange : ∀ c, (change c).field = c.field)
    (name field : String) (columns : List Column) :
    (changeFirst name change columns).find? (fun c => c.field == field) =
      (columns.find? fun c => c.field == field).map fun c => if name = field then change c else c := by
  induction columns with
  | nil => rfl
  | cons c rest ih =>
      rw [changeFirst, List.find?_cons]
      by_cases hname : c.field = name
      · rw [if_pos hname, List.find?_cons, hchange, hname]
        by_cases hown : name = field
        · simp [hown]
        · simp [hown, beq_eq_false_iff_ne.mpr hown]
      · rw [if_neg hname, List.find?_cons, ih]
        by_cases hown : c.field = field
        · have hother : name ≠ field := fun h => hname (hown.trans h.symm)
          simp [hown, hother]
        · rw [beq_eq_false_iff_ne.mpr hown]

/-- The column with the flag that a link gives it. -/
def Column.flagged (flags : Relation → Bool) (r : Relation) (c : Column) : Column :=
  { c with foreignKey := c.foreignKey || flags r }

theorem Column.flagged_true (r : Relation) : flagged (fun _ => true) r = asForeign := by
  funext c
  rw [flagged, Bool.or_true]
  rfl

/-- A column is flagged as foreign from the start or by a link of its own. -/
theorem Column.any_foreignKey_foldl (flags : Relation → Bool) (links : List Relation)
    (columns : List Column) (field : String) :
    ((links.foldl (fun columns r => changeFirst r.orgColumn (flagged flags r) columns) columns).find?
        fun c => c.field == field).any (·.foreignKey) =
      (columns.find? fun c => c.field == field).any fun c =>
        c.foreignKey || links.any fun r => r.orgColumn == field && flags r := by
  induction links generalizing columns with
  | nil => simp
  | cons first rest ih =>
      have hfield : ∀ c, (flagged flags first c).field = c.field := fun c => rfl
      rw [List.foldl_cons, ih, find?_changeFirst hfield, Option.any_map, List.any_cons]
      refine congrArg (Option.any · _) (funext fun c => ?_)
      by_cases hname : first.orgColumn = field
      · simp [hname, flagged, Bool.or_assoc]
      · simp [hname, beq_eq_false_iff_ne.mpr hname]

/-- Relations that carry no schemas are one link only if they are the same. -/
theorem Relation.sameLink_iff {a b : Relation} (ha : a.schema = none) (hb : b.schema = none) :
    a.sameLink b = true ↔ a = b := by
  obtain ⟨table, column, orgTable, orgColumn, schema⟩ := a
  obtain ⟨table', column', orgTable', orgColumn', schema'⟩ := b
  obtain rfl : schema = none := ha
  obtain rfl : schema' = none := hb
  simp [sameLink, and_assoc]

namespace Schema

/-- The relations carry no schemas. -/
def IsBare (s : Schema) : Prop := ∀ r ∈ s.relations, r.schema = none

theorem addRelation_cases {s : Schema} {r : Relation} (hs : s.IsBare) (hr : r.schema = none) :
    (r ∈ s.relations ∧ s.addRelation r = s) ∨
      (r ∉ s.relations ∧ s.addRelation r = { s with relations := s.relations ++ [r] }) := by
  have hknown : s.relations.any (Relation.sameLink · r) = true ↔ r ∈ s.relations := by
    rw [List.any_eq_true]
    constructor
    · rintro ⟨own, hown, hsame⟩
      exact (Relation.sameLink_iff (hs own hown) hr).mp hsame ▸ hown
    · exact fun hmem => ⟨r, hmem, (Relation.sameLink_iff hr hr).mpr rfl⟩
  rw [addRelation]
  by_cases hmem : r ∈ s.relations
  · exact .inl ⟨hmem, if_pos (hknown.mpr hmem)⟩
  · exact .inr ⟨hmem, if_neg fun h => hmem (hknown.mp h)⟩

/-- Links that are added one by one are all there in the end, each once. -/
theorem relations_foldl_addRelation {links : List Relation} (hlinks : ∀ r ∈ links, r.schema = none)
    {s : Schema} (hs : s.IsBare) (hnodup : s.relations.Nodup) :
    (∀ r, r ∈ (links.foldl addRelation s).relations ↔ r ∈ s.relations ∨ r ∈ links) ∧
      (links.foldl addRelation s).relations.Nodup := by
  induction links generalizing s with
  | nil => exact ⟨fun r => by simp, hnodup⟩
  | cons first rest ih =>
      obtain ⟨hfirst, hrest⟩ := List.forall_mem_cons.mp hlinks
      rw [List.foldl_cons]
      rcases addRelation_cases hs hfirst with ⟨hmem, hsame⟩ | ⟨hnew, hadded⟩
      · obtain ⟨hall, hend⟩ := ih hrest hs hnodup
        rw [hsame]
        refine ⟨fun r => (hall r).trans ?_, hend⟩
        have hknown : r = first → r ∈ s.relations := fun h => h ▸ hmem
        rw [List.mem_cons, ← or_assoc, or_iff_left_of_imp hknown]
      · have hbare : IsBare { s with relations := s.relations ++ [first] } := fun r hr =>
          (List.mem_append.mp hr).elim (hs r) fun h => List.mem_singleton.mp h ▸ hfirst
        have hdistinct : (s.relations ++ [first]).Nodup :=
          List.nodup_append.mpr ⟨hnodup, by simp, fun a ha b hb hab =>
            hnew (List.mem_singleton.mp hb ▸ hab ▸ ha)⟩
        obtain ⟨hall, hend⟩ := ih hrest hbare hdistinct
        rw [hadded]
        refine ⟨fun r => (hall r).trans ?_, hend⟩
        rw [List.mem_append, List.mem_singleton, List.mem_cons, or_assoc]

theorem columns_foldl_addRelation (links : List Relation) (s : Schema) :
    (links.foldl addRelation s).columns = s.columns := by
  induction links generalizing s with
  | nil => rfl
  | cons first rest ih =>
      rw [List.foldl_cons, ih, addRelation]
      split <;> rfl

theorem unlinked_ofColumns (table : String) (columns : List Column) :
    (ofColumns table columns).unlinked = ofColumns table (columns.map Column.unlinked) := by
  have hprimary : ((·.primaryKey) ∘ Column.unlinked) = fun c : Column => c.primaryKey := rfl
  rw [ofColumns, ofColumns, unlinked, List.find?_map, hprimary, Option.map_map]
  rfl

theorem mem_relations_foldl {relations : List Relation} {s : Schema} {r : Relation}
    (h : r ∈ (relations.foldl addRelation s).relations) : r ∈ s.relations ∨ r ∈ relations := by
  induction relations generalizing s with
  | nil => exact .inl h
  | cons first rest ih =>
      rcases ih h with hmem | hmem
      · rw [addRelation] at hmem
        split at hmem
        · exact .inl hmem
        · rcases List.mem_append.mp hmem with hmem | hmem
          · exact .inl hmem
          · exact .inr (List.mem_singleton.mp hmem ▸ List.mem_cons_self)
      · exact .inr (List.mem_cons_of_mem first hmem)

end Schema

namespace Introspection

theorem exists_link_of_relation? {table : String} {row : Record} {r : Relation}
    (h : relation? table row = some r) :
    ∃ refTable refColumn orgColumn, r = Relation.link refTable refColumn table orgColumn := by
  rw [relation?] at h
  obtain ⟨orgColumn, -, h⟩ := Option.bind_eq_some_iff.mp h
  obtain ⟨refTable, -, h⟩ := Option.bind_eq_some_iff.mp h
  obtain ⟨refColumn, -, h⟩ := Option.bind_eq_some_iff.mp h
  exact ⟨refTable, refColumn, orgColumn, (Option.some.inj h).symm⟩

theorem orgTable_of_relation? {table : String} {row : Record} {r : Relation}
    (h : relation? table row = some r) : r.orgTable = table := by
  obtain ⟨refTable, refColumn, orgColumn, rfl⟩ := exists_link_of_relation? h
  rfl

theorem schema_of_relation? {table : String} {row : Record} {r : Relation}
    (h : relation? table row = some r) : r.schema = none := by
  obtain ⟨refTable, refColumn, orgColumn, rfl⟩ := exists_link_of_relation? h
  rfl

theorem foreignKey_of_column? {d : SqlDialect} {row : Record} {c : Column}
    (h : column? d row = some c) : c.foreignKey = false := by
  rw [column?] at h
  obtain ⟨field, -, rfl⟩ := Option.map_eq_some_iff.mp h
  rfl

/-- The names of the columns that a catalog flags as primary. -/
def keyNames (d : SqlDialect) (columnRows : List Record) : List String :=
  ((columnRows.filterMap (column? d)).filter (·.primaryKey)).map (·.field)

section Rows

variable {d : SqlDialect} {table : String} {columnRows forwardRows backwardRows : List Record}
  {s : Schema} (h : schema d table columnRows forwardRows backwardRows = .ok s)

include h

theorem exists_of_schema : ∃ (columns : List Column) (relations : List Relation),
    columns.map Column.unlinked = (columnRows.filterMap (column? d)).map Column.unlinked ∧
      (∀ r ∈ relations, r.orgTable = table) ∧
        s = relations.foldl Schema.addRelation (Schema.ofColumns table columns) := by
  rw [schema] at h
  dsimp only at h
  split at h
  · cases h
  · refine ⟨_, _, Column.map_unlinked_foldl_asForeign _ _, fun r hr => ?_, (Except.ok.inj h).symm⟩
    rcases List.mem_append.mp hr with hr | hr
    all_goals
      obtain ⟨row, -, hrow⟩ := List.mem_filterMap.mp hr
      exact orgTable_of_relation? hrow

/-- The rows of keys flag foreign columns and add links, and nothing else. -/
theorem unlinked_schema :
    s.unlinked = (Schema.ofColumns table (columnRows.filterMap (column? d))).unlinked := by
  obtain ⟨columns, relations, hcolumns, -, rfl⟩ := exists_of_schema h
  rw [Document.unlinked_foldl Document.unlinked_addRelation, Schema.unlinked_ofColumns, hcolumns,
    Schema.unlinked_ofColumns]

theorem orgTable_of_schema : s.table = table ∧ ∀ r ∈ s.relations, r.orgTable = table := by
  refine ⟨Schema.table_eq_of_unlinked_eq (unlinked_schema h), fun r hr => ?_⟩
  obtain ⟨columns, relations, -, hsides, rfl⟩ := exists_of_schema h
  rcases Schema.mem_relations_foldl hr with hr | hr
  · cases hr
  · exact hsides r hr

theorem primaryKey_schema : s.primaryKey = (keyNames d columnRows).head? := by
  have hkey := congrArg Schema.primaryKey (unlinked_schema h)
  rw [keyNames, List.head?_map, List.head?_filter]
  exact hkey

theorem keyNames_schema :
    (s.columns.filter (·.primaryKey)).map (·.field) = keyNames d columnRows := by
  have hkeys := congrArg (fun s => (s.columns.filter (·.primaryKey)).map (·.field)) (unlinked_schema h)
  simp only [Schema.unlinked, Schema.ofColumns, List.filter_map, List.map_map] at hkeys
  exact hkeys

theorem fieldNames_schema :
    s.fieldNames = (columnRows.filterMap (column? d)).map (·.field) := by
  have hcolumns := congrArg (fun s => s.columns.map (·.field)) (unlinked_schema h)
  simp only [Schema.unlinked, List.map_map] at hcolumns
  exact hcolumns

theorem mem_fieldNames_of_mem_keyNames {name : String} (hname : name ∈ keyNames d columnRows) :
    name ∈ s.fieldNames := by
  rw [fieldNames_schema h]
  exact (List.filter_sublist.map _).subset hname

theorem eq_of_schema : s = (forwardRows.filterMap (relation? table) ++
      backwardRows.filterMap (relation? table)).foldl Schema.addRelation
    (Schema.ofColumns table ((forwardRows.filterMap (relation? table)).foldl
      (fun columns r => Column.changeFirst r.orgColumn Column.asForeign columns)
      (columnRows.filterMap (column? d)))) := by
  unfold schema at h
  dsimp only at h
  split at h
  · cases h
  · exact (Except.ok.inj h).symm

/-- The relations of a schema are the links of the rows of keys, each once. -/
theorem relations_schema :
    (∀ r, r ∈ s.relations ↔
      r ∈ forwardRows.filterMap (relation? table) ∨ r ∈ backwardRows.filterMap (relation? table)) ∧
    s.relations.Nodup := by
  have hlinks : ∀ r ∈ forwardRows.filterMap (relation? table) ++
      backwardRows.filterMap (relation? table), r.schema = none := by
    intro r hr
    rw [← List.filterMap_append] at hr
    obtain ⟨row, -, hrow⟩ := List.mem_filterMap.mp hr
    exact schema_of_relation? hrow
  obtain ⟨hall, hnodup⟩ := Schema.relations_foldl_addRelation hlinks (s := Schema.ofColumns table _)
    nofun List.nodup_nil
  rw [eq_of_schema h]
  refine ⟨fun r => (hall r).trans ?_, hnodup⟩
  simp [Schema.ofColumns]

/-- A column is flagged as foreign if the rows tell a link of its own. -/
theorem foreignKey_schema (field : String) :
    (s.column? field).any (·.foreignKey) = true ↔
      field ∈ s.fieldNames ∧ ∃ r ∈ forwardRows.filterMap (relation? table), r.orgColumn = field := by
  have hflags := Column.any_foreignKey_foldl (fun _ => true)
    (forwardRows.filterMap (relation? table)) (columnRows.filterMap (column? d)) field
  simp only [Column.flagged_true, Bool.and_true] at hflags
  rw [fieldNames_schema h, Schema.column?, eq_of_schema h, Schema.columns_foldl_addRelation,
    Schema.ofColumns, hflags, Option.any_eq_true, List.mem_map]
  constructor
  · rintro ⟨c, hc, hflag⟩
    obtain ⟨row, -, hrow⟩ := List.mem_filterMap.mp (List.mem_of_find?_eq_some hc)
    rw [foreignKey_of_column? hrow, Bool.false_or, List.any_eq_true] at hflag
    obtain ⟨r, hr, hown⟩ := hflag
    have hfield := List.find?_some hc
    exact ⟨⟨c, List.mem_of_find?_eq_some hc, beq_iff_eq.mp hfield⟩, r, hr, beq_iff_eq.mp hown⟩
  · rintro ⟨⟨c, hc, rfl⟩, r, hr, hown⟩
    have hsome : ((columnRows.filterMap (column? d)).find? fun b => b.field == c.field).isSome = true :=
      List.find?_isSome.mpr ⟨c, hc, beq_iff_eq.mpr rfl⟩
    obtain ⟨found, hfound⟩ := Option.isSome_iff_exists.mp hsome
    refine ⟨found, hfound, ?_⟩
    rw [Bool.or_eq_true, List.any_eq_true]
    exact .inr ⟨r, hr, beq_iff_eq.mpr hown⟩

end Rows

end Introspection

end DataAccess
