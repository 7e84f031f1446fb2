import DataAccess.Proofs.Json.Record
import DataAccess.Proofs.Query.Reference
import DataAccess.Proofs.Sql.Catalog
import DataAccess.Proofs.Text.Case
import DataAccess.Proofs.Text.Split
import DataAccess.Rest.Metadata

/-!
# The links of the schemas that stores make

A catalog, a document with a registry, and the description of a table are read into schemas. Every key
row, every field of record links, every object id that refers to another collection and every entry of
the registry becomes a link, and nothing else does. The links are told from the side of the table, each
once and without a schema, and the columns of keys are flagged. What a registry declares is told on
both of its sides.
-/

namespace DataAccess

namespace Relation

/-- The relations are told from the side of the table, each once and without a schema. -/
structure ToldFrom (table : String) (relations : List Relation) : Prop where
  own : ∀ r ∈ relations, r.orgTable = table
  bare : ∀ r ∈ relations, r.schema = none
  once : relations.Nodup
  distinct : relations.Pairwise fun a b => a.sameLink b = false

variable {table : String} {links : List Relation}

theorem pairwise_sameLink {relations : List Relation} (hbare : ∀ r ∈ relations, r.schema = none)
    (hnodup : relations.Nodup) : relations.Pairwise fun a b => a.sameLink b = false := by
  refine List.Pairwise.imp_of_mem ?_ (List.nodup_iff_pairwise_ne.mp hnodup)
  intro a b ha hb hne
  rw [Bool.eq_false_iff]
  exact fun hsame => hne ((sameLink_iff (hbare a ha) (hbare b hb)).mp hsame)

theorem toldFrom_foldl_addRelation (hown : ∀ r ∈ links, r.orgTable = table)
    (hbare : ∀ r ∈ links, r.schema = none) {s : Schema} (hs : s.relations = []) :
    ToldFrom table (links.foldl Schema.addRelation s).relations ∧
      ∀ r, r ∈ (links.foldl Schema.addRelation s).relations ↔ r ∈ links := by
  have hempty : s.IsBare := by rw [Schema.IsBare, hs]; exact nofun
  obtain ⟨hall, hnodup⟩ := Schema.relations_foldl_addRelation hbare hempty (hs ▸ List.nodup_nil)
  have hmem : ∀ r, r ∈ (links.foldl Schema.addRelation s).relations ↔ r ∈ links := by
    intro r
    rw [hall r, hs]
    exact or_iff_right List.not_mem_nil
  have hbareAll : ∀ r ∈ (links.foldl Schema.addRelation s).relations, r.schema = none :=
    fun r hr => hbare r ((hmem r).mp hr)
  exact ⟨⟨fun r hr => hown r ((hmem r).mp hr), hbareAll, hnodup,
    pairwise_sameLink hbareAll hnodup⟩, hmem⟩

end Relation

namespace Schema

/-- A column of that name is flagged as foreign. -/
def HasForeign (s : Schema) (field : String) : Prop :=
  ∃ c ∈ s.columns, c.field = field ∧ c.foreignKey = true

/-- If the relation starts from a column of the table, a column of that name is flagged. -/
def Flags (s : Schema) (r : Relation) : Prop :=
  s.hasColumn r.orgColumn = true → s.HasForeign r.orgColumn

/-- The schema of a table has these links and no others, told from its side, and flags the columns of
those that are keys. -/
structure Shows (s : Schema) (table : String) (links keys : Relation → Prop) : Prop where
  named : s.table = table
  told : Relation.ToldFrom table s.relations
  mem_iff : ∀ r, r ∈ s.relations ↔ links r
  flags : ∀ r, keys r → s.Flags r

theorem flags_of_any {s : Schema} {r : Relation}
    (h : s.hasColumn r.orgColumn = true → (s.column? r.orgColumn).any (·.foreignKey) = true) :
    s.Flags r := by
  intro hcolumn
  obtain ⟨c, hc, hflag⟩ := (Option.any_eq_true _ _).mp (h hcolumn)
  obtain ⟨hmem, hfield⟩ := column?_eq_some hc
  exact ⟨c, hmem, hfield, hflag⟩

end Schema

/-! ### Catalogs -/

namespace Introspection

/-- The row of a key names its column and the column of another table that it refers to. -/
def KeyLink (table : String) (row : Record) (r : Relation) : Prop :=
  ∃ orgColumn refTable refColumn, Cell.text? (cell row "org_column") = some orgColumn ∧
    Cell.text? (cell row "ref_table") = some refTable ∧
    Cell.text? (cell row "ref_column") = some refColumn ∧
    r = Relation.link refTable refColumn table orgColumn

theorem relation?_eq_some_iff {table : String} {row : Record} {r : Relation} :
    relation? table row = some r ↔ KeyLink table row r := by
  constructor
  · intro h
    obtain ⟨orgColumn, horg, h⟩ := Option.bind_eq_some_iff.mp h
    obtain ⟨refTable, htable, h⟩ := Option.bind_eq_some_iff.mp h
    obtain ⟨refColumn, hcolumn, h⟩ := Option.bind_eq_some_iff.mp h
    exact ⟨orgColumn, refTable, refColumn, horg, htable, hcolumn, (Option.some.inj h).symm⟩
  · rintro ⟨orgColumn, refTable, refColumn, horg, htable, hcolumn, rfl⟩
    rw [relation?, horg, htable, hcolumn]
    rfl

theorem mem_filterMap_relation? {table : String} {rows : List Record} {r : Relation} :
    r ∈ rows.filterMap (relation? table) ↔ ∃ row ∈ rows, KeyLink table row r := by
  rw [List.mem_filterMap]
  exact exists_congr fun row => and_congr_right fun _ => relation?_eq_some_iff

variable {d : SqlDialect} {table : String} {columnRows forwardRows backwardRows : List Record}
  {s : Schema} (h : schema d table columnRows forwardRows backwardRows = .ok s)

include h

theorem toldFrom_schema : Relation.ToldFrom table s.relations := by
  obtain ⟨hall, hnodup⟩ := relations_schema h
  have hbare : ∀ r ∈ s.relations, r.schema = none := by
    intro r hr
    rcases (hall r).mp hr with hr | hr
    all_goals
      obtain ⟨row, -, hrow⟩ := List.mem_filterMap.mp hr
      exact schema_of_relation? hrow
  exact ⟨(orgTable_of_schema h).2, hbare, hnodup, Relation.pairwise_sameLink hbare hnodup⟩

theorem flags_schema {r : Relation} (hr : r ∈ forwardRows.filterMap (relation? table)) :
    s.Flags r := by
  refine Schema.flags_of_any fun hcolumn => (foreignKey_schema h r.orgColumn).mpr ⟨?_, r, hr, rfl⟩
  obtain ⟨c, hc⟩ := Option.isSome_iff_exists.mp hcolumn
  obtain ⟨hmem, hfield⟩ := Schema.column?_eq_some hc
  exact List.mem_map.mpr ⟨c, hmem, hfield⟩

/-- The rows of keys of both directions are the links, and those of its own keys are flagged. -/
theorem shows_schema : s.Shows table
    (fun r => ∃ row ∈ forwardRows ++ backwardRows, KeyLink table row r)
    (fun r => ∃ row ∈ forwardRows, KeyLink table row r) := by
  refine ⟨(orgTable_of_schema h).1, toldFrom_schema h, fun r => ?_, fun r hr => ?_⟩
  · rw [(relations_schema h).1 r, ← List.mem_append, ← List.filterMap_append, mem_filterMap_relation?]
  · exact flags_schema h (mem_filterMap_relation?.mpr hr)

end Introspection

/-! ### Descriptions of tables -/

/-- A field of record links points at the first table that has the id. -/
def FieldMeta.PointsAt (f : FieldMeta) (tables : List TableMeta) (other : TableMeta) : Prop :=
  f.type = "multipleRecordLinks" ∧ ∃ id, f.option? "linkedTableId" = some (.string id) ∧
    tables.find? (fun t => t.id == id) = some other

namespace TableMeta

/-- A field of the table links it to the records of another. -/
def RecordLink (t : TableMeta) (tables : List TableMeta) (r : Relation) : Prop :=
  ∃ f ∈ t.fields, ∃ other, f.PointsAt tables other ∧
    r = Relation.link other.name Formula.recordId t.name f.name

variable {t : TableMeta} {tables : List TableMeta}

theorem linked?_eq_some_iff {f : FieldMeta} {other : TableMeta} :
    linked? tables f = some other ↔ ∃ id, f.option? "linkedTableId" = some (.string id) ∧
      tables.find? (fun t => t.id == id) = some other := by
  rw [linked?]
  split
  next id hid => simp [hid]
  next hnone => exact iff_of_false nofun fun ⟨id, hid, _⟩ => hnone id hid

theorem column_of_pointsAt {f : FieldMeta} {other : TableMeta} (h : f.PointsAt tables other) :
    (column t tables f).1.foreignKey = true ∧
      (column t tables f).2 = some (Relation.link other.name Formula.recordId t.name f.name) := by
  obtain ⟨htype, hlinked⟩ := h
  have hselect : ¬ f.type = "singleSelect" := by
    rw [htype]
    decide
  unfold column
  dsimp only
  rw [if_neg hselect, if_pos htype, linked?_eq_some_iff.mpr hlinked]
  exact ⟨rfl, rfl⟩

theorem field_column (t : TableMeta) (tables : List TableMeta) (f : FieldMeta) :
    (column t tables f).1.field = f.name := by
  unfold column
  dsimp only
  split
  · rfl
  split
  · split <;> rfl
  · split <;> rfl

theorem link_column_iff {f : FieldMeta} {r : Relation} :
    (column t tables f).2 = some r ↔
      ∃ other, f.PointsAt tables other ∧
        r = Relation.link other.name Formula.recordId t.name f.name := by
  constructor
  · intro h
    unfold column at h
    dsimp only at h
    split at h
    next => cases h
    next =>
      split at h
      next htype =>
        split at h
        next other hother =>
          exact ⟨other, ⟨htype, linked?_eq_some_iff.mp hother⟩, (Option.some.inj h).symm⟩
        next => cases h
      next => split at h <;> cases h
  · rintro ⟨other, hother, rfl⟩
    exact (column_of_pointsAt hother).2

theorem mem_links_iff {r : Relation} :
    r ∈ (t.fields.map (column t tables)).filterMap (·.2) ↔ t.RecordLink tables r := by
  rw [List.filterMap_map, List.mem_filterMap]
  exact exists_congr fun f => and_congr_right fun _ => link_column_iff

theorem table_schema (t : TableMeta) (tables : List TableMeta) : (schema t tables).table = t.name :=
  congrArg Schema.table (Document.unlinked_foldl Document.unlinked_addRelation _ _)

/-- A field of record links has a column that is flagged. -/
theorem hasForeign_schema {r : Relation} (hr : t.RecordLink tables r) :
    (schema t tables).HasForeign r.orgColumn := by
  obtain ⟨f, hf, other, hother, rfl⟩ := hr
  refine ⟨(column t tables f).1, ?_, field_column t tables f, (column_of_pointsAt hother).1⟩
  rw [schema, Schema.columns_foldl_addRelation]
  exact List.mem_cons_of_mem _ (List.mem_map_of_mem (List.mem_map_of_mem hf))

/-- The links of a table are those of its fields, and all of them are flagged. -/
theorem shows_schema (t : TableMeta) (tables : List TableMeta) :
    (schema t tables).Shows t.name (t.RecordLink tables) (t.RecordLink tables) := by
  have hlinks : ∀ r ∈ (t.fields.map (column t tables)).filterMap (·.2),
      r.orgTable = t.name ∧ r.schema = none := by
    intro r hr
    obtain ⟨f, -, other, -, rfl⟩ := mem_links_iff.mp hr
    exact ⟨rfl, rfl⟩
  obtain ⟨htold, hmem⟩ := Relation.toldFrom_foldl_addRelation (fun r hr => (hlinks r hr).1)
    (fun r hr => (hlinks r hr).2)
    (s := Schema.ofColumns t.name (idColumn :: (t.fields.map (column t tables)).map (·.1))) rfl
  exact ⟨table_schema t tables, htold, fun r => (hmem r).trans mem_links_iff,
    fun r hr _ => hasForeign_schema hr⟩

end TableMeta

/-! ### Documents and registries -/

namespace Document

variable {collection : String} {collections : List String} {registry : List Record}

theorem relations_addLink (s : Schema) (r : Relation) :
    (addLink s r).relations = (s.addRelation r).relations := by
  rw [addLink, Schema.addRelation, Schema.addRelation]
  split <;> rfl

/-- The flags that links give do not change which links there are. -/
theorem relations_foldl_addLink (links : List Relation) {a b : Schema} (h : a.relations = b.relations) :
    (links.foldl addLink a).relations = (links.foldl Schema.addRelation b).relations := by
  induction links generalizing a b with
  | nil => exact h
  | cons first rest ih =>
      refine ih ?_
      rw [relations_addLink, Schema.addRelation, Schema.addRelation, h]
      split
      · exact h
      · rfl

theorem columns_foldl_addLink (links : List Relation) (s : Schema) :
    (links.foldl addLink s).columns = links.foldl (fun columns r =>
      Column.changeFirst r.orgColumn (Column.flagged (·.column == idField) r) columns) s.columns := by
  induction links generalizing s with
  | nil => rfl
  | cons first rest ih =>
      have hcolumns : (addLink s first).columns =
          Column.changeFirst first.orgColumn (Column.flagged (·.column == idField) first) s.columns := by
        rw [addLink, Schema.addRelation]
        split <;> rfl
      rw [List.foldl_cons, List.foldl_cons, ih, hcolumns]

theorem flags_foldl_addLink {links : List Relation} {r : Relation} (hr : r ∈ links)
    (hid : r.column = idField) (s : Schema) : (links.foldl addLink s).Flags r := by
  refine Schema.flags_of_any fun hcolumn => ?_
  -- Links change flags only, so the column was there before the first of them.
  rw [← Schema.hasColumn_unlinked, unlinked_foldl unlinked_addLink, Schema.hasColumn_unlinked] at hcolumn
  obtain ⟨c, hc⟩ := Option.isSome_iff_exists.mp hcolumn
  have hown : (links.any fun q => q.orgColumn == r.orgColumn && q.column == idField) = true :=
    List.any_eq_true.mpr ⟨r, hr, by simp [hid]⟩
  rw [Schema.column?] at hc
  rw [Schema.column?, columns_foldl_addLink, Column.any_foreignKey_foldl, hc, Option.any_some, hown,
    Bool.or_true]

/-- The value is an object id in its extended form. -/
def IsObjectId (value : Json) : Prop :=
  ∃ fields, value = .object fields ∧ Record.contains fields "$oid" = true

theorem snd_typeOf_eq_iff {value : Json} : (typeOf value).2 = objectId ↔ IsObjectId value := by
  constructor
  · intro h
    cases value with
    | object fields =>
        refine ⟨fields, rfl, ?_⟩
        rw [typeOf] at h
        split at h
        next hoid => exact hoid
        next =>
          split at h
          · exact absurd h (by decide)
          split at h
          · exact absurd h (by decide)
          · exact absurd h (by decide)
    | _ =>
        rw [typeOf] at h
        exact absurd h (by decide)
  · rintro ⟨fields, rfl, hoid⟩
    rw [typeOf, if_pos hoid]

/-- The stem of a field's name stands before the ending of a reference, if it has one. -/
def Stem (field stem : String) : Prop :=
  field = stem ++ "_id" ∨ field = stem ++ "Id" ∨
    field = stem ∧ ∀ other, field ≠ other ++ "_id" ∧ field ≠ other ++ "Id"

/-- A field is named for a collection, for one of its documents or for many, in any letter case. -/
def NamedFor (field target : String) : Prop :=
  ∃ stem, Stem field stem ∧ stem ≠ "" ∧
    (Text.lower target = Text.lower stem ∨ Text.lower target = Text.lower stem ++ "s")

/-- A field other than the id holds an object id, and the first of the collections that it is named for
is another one. -/
structure Refers (collection : String) (collections : List String) (field : String) (value : Json)
    (target : String) : Prop where
  notId : field ≠ idField
  objectId : IsObjectId value
  named : NamedFor field target
  first : ∃ before after, collections = before ++ target :: after ∧ ∀ c ∈ before, ¬ NamedFor field c
  other : target ≠ collection

theorem eq_append_iff {field stem : String} (ending : String) :
    field = stem ++ ending ↔ Text.dropEnd? ending.toList field.toList = some stem.toList := by
  rw [Text.dropEnd?_eq_some_iff, ← String.toList_inj, String.toList_append]

theorem dropEnd?_eq_none {field ending : String} (h : ∀ other, field ≠ other ++ ending) :
    Text.dropEnd? ending.toList field.toList = none := by
  rw [Option.eq_none_iff_forall_ne_some]
  intro inner hinner
  refine h (String.ofList inner) ((eq_append_iff ending).mpr ?_)
  rw [hinner, String.toList_ofList]

theorem Stem.referenceBase_eq {field stem : String} (h : Stem field stem) :
    referenceBase field = Text.lower stem := by
  rcases h with h | rfl | ⟨rfl, hplain⟩
  · simp only [referenceBase, (eq_append_iff "_id").mp h, String.ofList_toList]
  · -- The two endings differ in their first letter.
    have hnone : Text.dropEnd? "_id".toList (stem ++ "Id").toList = none := by
      simp [Text.dropEnd?, Text.dropStart?]
    simp only [referenceBase, hnone, (eq_append_iff "Id").mp rfl, Option.getD_some,
      String.ofList_toList]
  · simp only [referenceBase, dropEnd?_eq_none fun other => (hplain other).1,
      dropEnd?_eq_none fun other => (hplain other).2, Option.getD_none, String.ofList_toList]

theorem exists_stem (field : String) : ∃ stem, Stem field stem := by
  by_cases hsnake : ∃ stem, field = stem ++ "_id"
  · exact hsnake.imp fun _ => .inl
  by_cases hcamel : ∃ stem, field = stem ++ "Id"
  · exact hcamel.imp fun _ h => .inr (.inl h)
  rw [not_exists] at hsnake hcamel
  exact ⟨field, .inr (.inr ⟨rfl, fun other => ⟨hsnake other, hcamel other⟩⟩)⟩

theorem namedFor_iff {field target : String} :
    NamedFor field target ↔ referenceBase field ≠ "" ∧
      (Text.lower target = referenceBase field ∨ Text.lower target = referenceBase field ++ "s") := by
  constructor
  · rintro ⟨stem, hstem, hsome, htarget⟩
    rw [hstem.referenceBase_eq]
    exact ⟨mt Text.lower_eq_empty_iff.mp hsome, htarget⟩
  · rintro ⟨hsome, htarget⟩
    obtain ⟨stem, hstem⟩ := exists_stem field
    rw [hstem.referenceBase_eq] at hsome htarget
    exact ⟨stem, hstem, mt Text.lower_eq_empty_iff.mpr hsome, htarget⟩

theorem referenced?_eq_some_iff {field target : String} :
    referenced? field collections = some target ↔ NamedFor field target ∧
      ∃ before after, collections = before ++ target :: after ∧
        ∀ c ∈ before, ¬ NamedFor field c := by
  rw [referenced?]
  split
  next hempty =>
    exact iff_of_false nofun fun ⟨hnamed, _⟩ => (namedFor_iff.mp hnamed).1 hempty
  next hsome =>
    rw [List.find?_eq_some_iff_append]
    simp [namedFor_iff, hsome]

theorem link_inferColumn_iff {field : String} {value : Json} {r : Relation} :
    (inferColumn collection collections field value).2 = some r ↔
      ∃ target, Refers collection collections field value target ∧
        r = Relation.link target idField collection field := by
  unfold inferColumn
  dsimp only
  split
  next hid => exact iff_of_false nofun fun ⟨_, hrefers, _⟩ => hrefers.notId hid
  next hid =>
    split
    next hnative =>
      cases htarget : (referenced? field collections).filter (· ≠ collection) with
      | none =>
          rw [Option.filter_eq_none_iff] at htarget
          exact iff_of_false nofun fun ⟨target, hrefers, _⟩ =>
            htarget target (referenced?_eq_some_iff.mpr ⟨hrefers.named, hrefers.first⟩)
              (decide_eq_true hrefers.other)
      | some target =>
          obtain ⟨hfound, hother⟩ := Option.filter_eq_some_iff.mp htarget
          constructor
          · intro h
            obtain ⟨hnamed, hfirst⟩ := referenced?_eq_some_iff.mp hfound
            exact ⟨target, ⟨hid, snd_typeOf_eq_iff.mp hnative, hnamed, hfirst,
              of_decide_eq_true hother⟩, (Option.some.inj h).symm⟩
          · rintro ⟨target', hrefers, rfl⟩
            have hfound' := referenced?_eq_some_iff.mpr ⟨hrefers.named, hrefers.first⟩
            rw [Option.some.inj (hfound.symm.trans hfound')]
    next hnative =>
      exact iff_of_false nofun fun ⟨_, hrefers, _⟩ =>
        hnative (snd_typeOf_eq_iff.mpr hrefers.objectId)

/-- A field of the document links the collection to another. -/
def FieldLink (collection : String) (sample : Record) (collections : List String) (r : Relation) :
    Prop :=
  ∃ field value target, (field, value) ∈ sample ∧ Refers collection collections field value target ∧
    r = Relation.link target idField collection field

/-- The link that a document of the registry declares. -/
def declared? (entry : Record) : Option Relation := do
  let table ← (entry.get? "table").bind Cell.text?
  let column ← (entry.get? "column").bind Cell.text?
  let orgTable ← (entry.get? "org_table").bind Cell.text?
  let orgColumn ← (entry.get? "org_column").bind Cell.text?
  return Relation.link table column orgTable orgColumn

theorem schema_of_declared? {entry : Record} {link : Relation} (h : declared? entry = some link) :
    link.schema = none := by
  rw [declared?] at h
  obtain ⟨table, -, h⟩ := Option.bind_eq_some_iff.mp h
  obtain ⟨column, -, h⟩ := Option.bind_eq_some_iff.mp h
  obtain ⟨orgTable, -, h⟩ := Option.bind_eq_some_iff.mp h
  obtain ⟨orgColumn, -, h⟩ := Option.bind_eq_some_iff.mp h
  obtain rfl := Option.some.inj h
  rfl

/-- An entry of the registry links the collection to another, or to itself, on either side. -/
def RegistryLink (collection : String) (entry : Record) (r : Relation) : Prop :=
  ∃ link, declared? entry = some link ∧
    (link.orgTable = collection ∧ r = link ∨
      link.orgTable ≠ collection ∧ link.table = collection ∧ r = link.reversed)

theorem registryLink?_eq (collection : String) (entry : Record) :
    registryLink? collection entry = (declared? entry).bind fun link =>
      if link.orgTable = collection then some link
      else if link.table = collection then some link.reversed
      else none := by
  simp only [registryLink?, declared?, Option.bind_eq_bind, Option.bind_assoc]
  rfl

theorem registryLink?_eq_some_iff {entry : Record} {r : Relation} :
    registryLink? collection entry = some r ↔ RegistryLink collection entry r := by
  rw [registryLink?_eq, Option.bind_eq_some_iff]
  refine exists_congr fun link => and_congr_right fun _ => ?_
  by_cases hown : link.orgTable = collection
  · simp [hown, eq_comm]
  · by_cases hother : link.table = collection
    · simp [hown, hother, eq_comm]
    · simp [hown, hother]

theorem registryLink_told {entry : Record} {r : Relation} (h : RegistryLink collection entry r) :
    r.orgTable = collection ∧ r.schema = none := by
  obtain ⟨link, hlink, ⟨hown, rfl⟩ | ⟨-, hother, rfl⟩⟩ := h
  · exact ⟨hown, schema_of_declared? hlink⟩
  · exact ⟨hother, rfl⟩

/-- The links of a collection, by the fields of its document or by the registry. -/
def Link (collection : String) (sample : Record) (collections : List String) (registry : List Record)
    (r : Relation) : Prop :=
  FieldLink collection sample collections r ∨ ∃ entry ∈ registry, RegistryLink collection entry r

/-- The links that a schema is inferred from: those of the fields, and those of the registry. -/
def linksOf (collection : String) (sample : Record) (collections : List String)
    (registry : List Record) : List Relation :=
  (sample.map fun (field, value) => inferColumn collection collections field value).filterMap (·.2) ++
    registry.filterMap (registryLink? collection)

theorem mem_linksOf {sample : Record} {r : Relation} :
    r ∈ linksOf collection sample collections registry ↔
      Link collection sample collections registry r := by
  rw [linksOf, List.mem_append, List.filterMap_map, List.mem_filterMap, List.mem_filterMap]
  refine or_congr ?_ ?_
  · constructor
    · rintro ⟨⟨field, value⟩, hmem, hlink⟩
      obtain ⟨target, hrefers, hr⟩ := link_inferColumn_iff.mp hlink
      exact ⟨field, value, target, hmem, hrefers, hr⟩
    · rintro ⟨field, value, target, hmem, hrefers, hr⟩
      exact ⟨(field, value), hmem, link_inferColumn_iff.mpr ⟨target, hrefers, hr⟩⟩
  · exact exists_congr fun entry => and_congr_right fun _ => registryLink?_eq_some_iff

theorem links_inferSchema (collection : String) (sample : Record) (collections : List String)
    (registry : List Record) :
    Relation.ToldFrom collection (inferSchema collection sample collections registry).relations ∧
      ∀ r, r ∈ (inferSchema collection sample collections registry).relations ↔
        r ∈ linksOf collection sample collections registry := by
  have htold : ∀ r ∈ linksOf collection sample collections registry,
      r.orgTable = collection ∧ r.schema = none := by
    intro r hr
    rcases mem_linksOf.mp hr with ⟨field, value, target, -, -, rfl⟩ | ⟨entry, -, hlink⟩
    · exact ⟨rfl, rfl⟩
    · exact registryLink_told hlink
  have hrelations : (inferSchema collection sample collections registry).relations =
      ((linksOf collection sample collections registry).foldl Schema.addRelation
        (Schema.ofColumns collection [])).relations :=
    relations_foldl_addLink _ rfl
  rw [hrelations]
  exact Relation.toldFrom_foldl_addRelation (fun r hr => (htold r hr).1) (fun r hr => (htold r hr).2)
    rfl

/-- The links of a collection are those of the fields and those of the registry. Those to an id are
flagged. -/
theorem shows_inferSchema (collection : String) (sample : Record) (collections : List String)
    (registry : List Record) :
    (inferSchema collection sample collections registry).Shows collection
      (Link collection sample collections registry)
      (fun r => Link collection sample collections registry r ∧ r.column = idField) := by
  obtain ⟨htold, hmem⟩ := links_inferSchema collection sample collections registry
  exact ⟨table_inferSchema _ _ _ _, htold, fun r => (hmem r).trans mem_linksOf,
    fun r hr => flags_foldl_addLink (mem_linksOf.mpr hr.1) hr.2 _⟩

/-- A field that refers to another collection has a column that is flagged. -/
theorem hasForeign_inferSchema {sample : Record} {r : Relation}
    (hr : FieldLink collection sample collections r) :
    (inferSchema collection sample collections registry).HasForeign r.orgColumn := by
  have hlink := hr
  obtain ⟨field, value, target, hmem, -, rfl⟩ := hr
  refine (shows_inferSchema collection sample collections registry).flags _ ⟨.inl hlink, rfl⟩ ?_
  rw [hasColumn_inferSchema]
  have hnamed : sample.get? field ≠ none := fun hnone =>
    Record.get?_eq_none_iff.mp hnone (List.mem_map_of_mem hmem)
  exact Option.isSome_iff_ne_none.mpr hnamed

/-- A link between two collections is told by both, each from its own side. -/
theorem declared_on_both_sides {entry : Record} {link : Relation} (hentry : entry ∈ registry)
    (hlink : declared? entry = some link) (hsides : link.table ≠ link.orgTable)
    (sample sample' : Record) (collections collections' : List String) :
    link ∈ (inferSchema link.orgTable sample collections registry).relations ∧
      link.reversed ∈ (inferSchema link.table sample' collections' registry).relations := by
  constructor
  · exact ((shows_inferSchema _ _ _ _).mem_iff link).mpr
      (.inr ⟨entry, hentry, link, hlink, .inl ⟨rfl, rfl⟩⟩)
  · exact ((shows_inferSchema _ _ _ _).mem_iff link.reversed).mpr
      (.inr ⟨entry, hentry, link, hlink, .inr ⟨hsides.symm, rfl, rfl⟩⟩)

end Document

/-! ### Every source -/

/-- **Every link is told from the side of the table, once, and those of keys are flagged**, whether a
catalog, the description of a table, or a document and a registry is read. The links of a catalog are
its rows of keys, those of a description its fields of record links, and those of a collection the
object ids that refer to another and the entries of the registry. A catalog without columns is refused.
A link that a registry declares between two collections is told by both, whatever else there is in
them. -/
theorem introspected_links :
    (∀ d table columnRows forwardRows backwardRows,
      (columnRows.filterMap (Introspection.column? d) = [] ∧
          Introspection.schema d table columnRows forwardRows backwardRows =
            .error (.schemaNotFound table)) ∨
        ∃ s, Introspection.schema d table columnRows forwardRows backwardRows = .ok s ∧
          s.Shows table
            (fun r => ∃ row ∈ forwardRows ++ backwardRows, Introspection.KeyLink table row r)
            (fun r => ∃ row ∈ forwardRows, Introspection.KeyLink table row r)) ∧
    (∀ (t : TableMeta) tables,
      (t.schema tables).Shows t.name (t.RecordLink tables) (t.RecordLink tables) ∧
        ∀ r, t.RecordLink tables r → (t.schema tables).HasForeign r.orgColumn) ∧
    (∀ collection sample collections registry s,
      s = Document.inferSchema collection sample collections registry →
        s.Shows collection (Document.Link collection sample collections registry)
            (fun r => Document.Link collection sample collections registry r ∧
              r.column = Document.idField) ∧
          ∀ r, Document.FieldLink collection sample collections r → s.HasForeign r.orgColumn) ∧
    ∀ registry, ∀ entry ∈ registry, ∀ link, Document.declared? entry = some link →
      link.table ≠ link.orgTable → ∀ sample sample' collections collections',
        link ∈ (Document.inferSchema link.orgTable sample collections registry).relations ∧
          link.reversed ∈
            (Document.inferSchema link.table sample' collections' registry).relations := by
  refine ⟨fun d table columnRows forwardRows backwardRows => ?_,
    fun t tables => ⟨TableMeta.shows_schema t tables, fun r => TableMeta.hasForeign_schema⟩, ?_, ?_⟩
  · cases hcolumns : columnRows.filterMap (Introspection.column? d) with
    | nil =>
        refine .inl ⟨rfl, ?_⟩
        rw [Introspection.schema, hcolumns]
        rfl
    | cons first rest =>
        obtain ⟨s, hs⟩ : ∃ s,
            Introspection.schema d table columnRows forwardRows backwardRows = .ok s := by
          rw [Introspection.schema, hcolumns]
          exact ⟨_, rfl⟩
        exact .inr ⟨s, hs, Introspection.shows_schema hs⟩
  · rintro collection sample collections registry _ rfl
    exact ⟨Document.shows_inferSchema collection sample collections registry,
      fun r => Document.hasForeign_inferSchema⟩
  · intro registry entry hentry link hlink hsides
    exact Document.declared_on_both_sides hentry hlink hsides

/-- A registry with one link. -/
def customerRegistry : List Record :=
  [[("table", .string "orders"), ("column", .string "customerRef"), ("org_table", .string "customers"),
    ("org_column", .string "code")]]

/-- Customers as the service describes them. -/
def customersTable : TableMeta := ⟨"tbl1", "Customers", none, [⟨"fld1", "Name", "singleLineText", none⟩]⟩

/-- Orders, with a field of links to customers. -/
def ordersTable : TableMeta :=
  ⟨"tbl2", "Orders", none, [⟨"fld2", "Customer", "multipleRecordLinks",
    some (.object [("linkedTableId", .string "tbl1")])⟩]⟩

theorem recordLink_orders :
    ordersTable.RecordLink [ordersTable, customersTable]
      (Relation.link "Customers" "id" "Orders" "Customer") :=
  ⟨_, List.mem_cons_self, customersTable, ⟨rfl, "tbl1", rfl, rfl⟩, rfl⟩

theorem fieldLink_orders :
    Document.FieldLink "orders" [("customerId", .object [("$oid", .string "65f0")])] ["customers"]
      (Relation.link "customers" "_id" "orders" "customerId") :=
  ⟨"customerId", _, "customers", List.mem_cons_self,
    ⟨by decide, ⟨_, rfl, rfl⟩, ⟨"customer", .inr (.inl rfl), by decide, .inr rfl⟩,
      ⟨[], [], rfl, nofun⟩, by decide⟩, rfl⟩

/-- Orders link to customers by a field of links, by an object id, and through the registry. -/
theorem introspected_links_orders :
    (Relation.link "Customers" "id" "Orders" "Customer" ∈
        (ordersTable.schema [ordersTable, customersTable]).relations ∧
      (ordersTable.schema [ordersTable, customersTable]).HasForeign "Customer") ∧
    (Document.inferSchema "orders" [("customerId", .object [("$oid", .string "65f0")])] ["customers"]
      []).HasForeign "customerId" ∧
    Relation.link "orders" "customerRef" "customers" "code" ∈
        (Document.inferSchema "customers" [("_id", .null), ("code", .string "C1")] []
          customerRegistry).relations ∧
      Relation.link "customers" "code" "orders" "customerRef" ∈
        (Document.inferSchema "orders" [("customerRef", .string "C1")] ["customers"]
          customerRegistry).relations :=
  ⟨⟨((introspected_links.2.1 ordersTable _).1.mem_iff _).mpr recordLink_orders,
      (introspected_links.2.1 ordersTable _).2 _ recordLink_orders⟩,
    (introspected_links.2.2.1 "orders" _ _ [] _ rfl).2 _ fieldLink_orders,
    introspected_links.2.2.2 customerRegistry _ List.mem_cons_self
      (Relation.link "orders" "customerRef" "customers" "code") rfl (by decide) _ _ _ _⟩

end DataAccess
