import DataAccess.Document.Store
import DataAccess.Query.Reading

/-!
# Schemas without their links

The links of a collection are declared by the documents of another, so they may change when its own
documents do not. What a document store reads, and what it checks of a read, does not depend on the
links of a related schema: it is the same once they are taken out.
-/

namespace DataAccess

/-! ### Taking out links -/

def Column.unlinked (c : Column) : Column := { c with foreignKey := false }

def Schema.unlinked (s : Schema) : Schema :=
  { s with columns := s.columns.map Column.unlinked, relations := [] }

def RelationRequest.unlinked (q : RelationRequest) : RelationRequest :=
  { q with relation := { q.relation with schema := q.relation.schema.map Schema.unlinked } }

def FindOptions.unlinked (o : FindOptions) : FindOptions :=
  { o with relations := o.relations.map RelationRequest.unlinked }

/-- Reads that are the same without links are the same but for their relations. -/
theorem FindOptions.eq_of_unlinked_eq {o o' : FindOptions} (h : o.unlinked = o'.unlinked) :
    o' = { o with relations := o'.relations } := by
  obtain ⟨schema, fields, filters, relations, sort, limit, offset⟩ := o
  obtain ⟨schema', fields', filters', relations', sort', limit', offset'⟩ := o'
  simp only [unlinked, mk.injEq] at h ⊢
  simp [h]

theorem Schema.table_eq_of_unlinked_eq {a b : Schema} (h : a.unlinked = b.unlinked) :
    a.table = b.table := by
  rw [← show a.unlinked.table = a.table from rfl, h]
  rfl

theorem Schema.column?_unlinked (s : Schema) (field : String) :
    s.unlinked.column? field = (s.column? field).map Column.unlinked := by
  rw [column?, unlinked, List.find?_map]
  rfl

theorem Schema.hasColumn_unlinked (s : Schema) (field : String) :
    s.unlinked.hasColumn field = s.hasColumn field := by
  rw [hasColumn, column?_unlinked, Option.isSome_map, hasColumn]

theorem Schema.key?_unlinked (s : Schema) : s.unlinked.key? = s.key? := by
  rw [key?, key?, unlinked, List.find?_map]
  have hprimary : ((·.primaryKey) ∘ Column.unlinked) = fun c : Column => c.primaryKey := rfl
  rw [hprimary]
  cases s.columns.find? (·.primaryKey) <;> rfl

/-! ### Filters and rows -/

namespace Document

theorem predicateFilter_unlinked (s : Schema) (p : Predicate) :
    predicateFilter s.unlinked p = predicateFilter s p := by
  rw [predicateFilter, predicateFilter, Schema.column?_unlinked]
  cases s.column? p.column <;> rfl

theorem filter_unlinked (s : Schema) (predicates : List Predicate) :
    filter s.unlinked predicates = filter s predicates := by
  rw [filter, filter, funext (predicateFilter_unlinked s)]

end Document

theorem DocumentStore.callerRow_unlinked (s : Schema) (document : Record) :
    callerRow s.unlinked document = callerRow s document := by
  rw [callerRow, callerRow, Coercion.schemaRowInbound, Coercion.schemaRowInbound]
  refine List.map_congr_left fun ⟨name, value⟩ _ => ?_
  dsimp only
  rw [Schema.column?_unlinked]
  cases s.column? name <;> rfl

theorem DocumentStore.projection_unlinked (o : FindOptions) :
    projection o.unlinked = projection o := by
  rw [projection, projection, FindOptions.unlinked, List.foldl_map]
  rfl

/-! ### Checks -/

theorem FindOptions.request?_unlinked (o : FindOptions) (table : String) :
    o.unlinked.request? table = (o.request? table).map RelationRequest.unlinked := by
  rw [request?, unlinked, List.find?_map]
  rfl

theorem RelationRequest.schema?_unlinked (q : RelationRequest) :
    q.unlinked.schema? = q.schema?.map Schema.unlinked := rfl

theorem FindOptions.column?_unlinked (o : FindOptions) (reference : String) :
    (o.unlinked.column? reference).map Column.unlinked =
      (o.column? reference).map Column.unlinked := by
  rw [column?, column?]
  cases splitReference? reference with
  | none => rfl
  | some pair =>
      obtain ⟨table, column⟩ := pair
      simp only [request?_unlinked]
      cases o.request? table with
      | none => rfl
      | some q =>
          simp only [Option.map_some, Option.bind_eq_bind, Option.bind_some,
            RelationRequest.schema?_unlinked]
          cases q.schema? with
          | none => rfl
          | some s =>
              simp only [Option.map_some, Option.bind_some, Schema.column?_unlinked,
                Option.map_map]
              rfl

namespace Validation

theorem resolve_unlinked (o : FindOptions) (reference : String) :
    (resolve o.unlinked reference).map Column.unlinked =
      (resolve o reference).map Column.unlinked := by
  have hcolumn := o.column?_unlinked reference
  rw [resolve, resolve]
  cases hleft : o.unlinked.column? reference with
  | none =>
    cases hright : o.column? reference with
    | none => rfl
    | some c => simp [hleft, hright] at hcolumn
  | some c =>
    cases hright : o.column? reference with
    | none => simp [hleft, hright] at hcolumn
    | some c' =>
        rw [hleft, hright] at hcolumn
        exact congrArg Except.ok (Option.some.inj hcolumn)

theorem checkPredicate_unlinked (c : Column) (p : Predicate) :
    checkPredicate c.unlinked p = checkPredicate c p := rfl

/-- A check of a reference that forgets links is the same before and after they are taken out. -/
theorem resolve_bind_unlinked {α : Type} (o : FindOptions) (reference : String)
    (check : Column → Except EngineError α) (hcheck : ∀ c : Column, check c.unlinked = check c) :
    (resolve o.unlinked reference >>= check) = (resolve o reference >>= check) := by
  have hmap : ∀ x : Except EngineError Column, (x >>= check) = (x.map Column.unlinked >>= check) := by
    intro x
    cases x with
    | error error => rfl
    | ok c => exact (hcheck c).symm
  rw [hmap, resolve_unlinked, ← hmap]

theorem checkFilter_unlinked (o : FindOptions) (p : Predicate) :
    checkFilter o.unlinked p = checkFilter o p :=
  resolve_bind_unlinked o p.column (checkPredicate · p) fun c => checkPredicate_unlinked c p

theorem resolve_map_unlinked (o : FindOptions) (reference : String) :
    ((resolve o.unlinked reference).map fun _ => ()) = (resolve o reference).map fun _ => () :=
  resolve_bind_unlinked o reference (fun _ => .ok ()) fun _ => rfl

theorem checkRelatedField_unlinked (q : RelationRequest) (field : String) :
    checkRelatedField q.unlinked field = checkRelatedField q field := by
  rw [checkRelatedField, checkRelatedField, RelationRequest.schema?_unlinked]
  cases q.schema? with
  | none => rfl
  | some s =>
      simp only [Option.map_some, Schema.hasColumn_unlinked]
      rfl

theorem checkFind_unlinked (o : FindOptions) : checkFind o.unlinked = checkFind o := by
  have hrelations : (fun q : RelationRequest => q.unlinked.fields.forM (checkRelatedField q.unlinked)) =
      fun q => q.fields.forM (checkRelatedField q) := by
    funext q
    rw [funext (checkRelatedField_unlinked q)]
    rfl
  rw [checkFind, checkFind, funext (checkFilter_unlinked o),
    funext fun sort : SortCondition => resolve_map_unlinked o sort.column,
    funext (resolve_map_unlinked o)]
  simp only [FindOptions.unlinked, List.forM_eq_forM, List.forM_map] at hrelations ⊢
  rw [hrelations]

end Validation

/-! ### Inferred schemas -/

theorem Column.map_unlinked_changeFirst (field : String) {change : Column → Column}
    (hchange : ∀ c, (change c).unlinked = c.unlinked) (columns : List Column) :
    (changeFirst field change columns).map unlinked = columns.map unlinked := by
  induction columns with
  | nil => rfl
  | cons first rest ih =>
      rw [changeFirst]
      split
      · rw [List.map_cons, hchange, List.map_cons]
      · rw [List.map_cons, ih, List.map_cons]

namespace Document

theorem unlinked_addRelation (s : Schema) (r : Relation) :
    (s.addRelation r).unlinked = s.unlinked := by
  rw [Schema.addRelation]
  split <;> rfl

theorem unlinked_addLink (s : Schema) (r : Relation) : (addLink s r).unlinked = s.unlinked := by
  rw [addLink, unlinked_addRelation]
  simp only [Schema.unlinked]
  rw [Column.map_unlinked_changeFirst]
  intro c
  rfl

theorem unlinked_foldl {add : Schema → Relation → Schema}
    (hadd : ∀ s r, (add s r).unlinked = s.unlinked) (links : List Relation) (s : Schema) :
    (links.foldl add s).unlinked = s.unlinked := by
  induction links generalizing s with
  | nil => rfl
  | cons first rest ih => rw [List.foldl_cons, ih, hadd]

/-- The registry declares links and nothing else. -/
theorem unlinked_inferSchema (collection : String) (sample : Record) (collections : List String)
    (registry : List Record) :
    (inferSchema collection sample collections registry).unlinked =
      (inferSchema collection sample collections []).unlinked := by
  rw [inferSchema, inferSchema, unlinked_foldl unlinked_addLink, unlinked_foldl unlinked_addLink]

theorem unlinked_emptySchema (collection : String) (collections : List String)
    (registry : List Record) :
    (emptySchema collection collections registry).unlinked =
      (emptySchema collection collections []).unlinked := by
  rw [emptySchema, emptySchema, unlinked_foldl unlinked_addRelation,
    unlinked_foldl unlinked_addRelation]

theorem table_inferSchema (collection : String) (sample : Record) (collections : List String)
    (registry : List Record) :
    (inferSchema collection sample collections registry).table = collection :=
  congrArg Schema.table (unlinked_foldl unlinked_addLink _ _)

theorem table_emptySchema (collection : String) (collections : List String)
    (registry : List Record) : (emptySchema collection collections registry).table = collection :=
  congrArg Schema.table (unlinked_foldl unlinked_addRelation _ _)

/-! ### Columns of inferred schemas -/

theorem field_inferColumn (collection : String) (collections : List String) (field : String)
    (value : Json) : (inferColumn collection collections field value).1.field = field := by
  unfold inferColumn
  dsimp only
  split
  · rfl
  split
  · split <;> rfl
  · rfl

theorem mem_keysFirst {columns : List Column} {c : Column} :
    c ∈ keysFirst columns ↔ c ∈ columns := by
  cases hkey : c.primaryKey <;> simp [keysFirst, hkey]

theorem hasColumn_ofColumns_keysFirst (collection : String) (columns : List Column)
    (field : String) :
    (Schema.ofColumns collection (keysFirst columns)).hasColumn field =
      columns.any fun c => c.field == field := by
  rw [Schema.hasColumn, Schema.column?, Bool.eq_iff_iff, List.find?_isSome, List.any_eq_true]
  exact exists_congr fun c => and_congr_left fun _ => mem_keysFirst

/-- The columns of an inferred schema are the fields of the document. -/
theorem hasColumn_inferSchema (collection : String) (sample : Record) (collections : List String)
    (registry : List Record) (field : String) :
    (inferSchema collection sample collections registry).hasColumn field =
      sample.contains field := by
  rw [← Schema.hasColumn_unlinked, inferSchema, unlinked_foldl unlinked_addLink,
    Schema.hasColumn_unlinked, hasColumn_ofColumns_keysFirst, List.any_map, List.any_map]
  simp only [Function.comp_def, field_inferColumn]
  rw [Record.contains, Record.get?, Json.field?, Option.isSome_map, Bool.eq_iff_iff,
    List.find?_isSome, List.any_eq_true]

/-! ### Keys of inferred schemas -/

theorem primaryKey_inferColumn {collection field : String} {collections : List String} {value : Json}
    (h : (inferColumn collection collections field value).1.primaryKey = true) :
    (inferColumn collection collections field value).1.field = idField := by
  rw [field_inferColumn]
  by_cases hfield : field = idField
  · exact hfield
  unfold inferColumn at h
  dsimp only at h
  rw [if_neg hfield] at h
  split at h
  · split at h <;> cases h
  · cases h

theorem key?_ofColumns {collection key : String} {columns : List Column}
    (hcolumns : ∀ c ∈ columns, c.primaryKey = true → c.field = idField)
    (h : (Schema.ofColumns collection columns).key? = some key) : key = idField := by
  rw [Schema.key?, Schema.ofColumns] at h
  dsimp only at h
  cases hfind : columns.find? (·.primaryKey) with
  | none =>
      rw [hfind] at h
      cases h
  | some c =>
      rw [hfind] at h
      obtain rfl := Option.some.inj h
      exact hcolumns c (List.mem_of_find?_eq_some hfind) (List.find?_some hfind)

theorem hasColumn_ofColumns_of_key? {collection key : String} {columns : List Column}
    (h : (Schema.ofColumns collection columns).key? = some key) :
    (Schema.ofColumns collection columns).hasColumn key = true := by
  rw [Schema.key?, Schema.ofColumns] at h
  dsimp only at h
  cases hfind : columns.find? (·.primaryKey) with
  | none =>
      rw [hfind] at h
      cases h
  | some c =>
      rw [hfind] at h
      obtain rfl := Option.some.inj h
      rw [Schema.hasColumn, Schema.column?, List.find?_isSome]
      exact ⟨c, List.mem_of_find?_eq_some hfind, beq_self_eq_true c.field⟩

/-- The key of a collection is the id of its documents, if its first document has one. -/
theorem key?_inferSchema {collection key : String} {sample : Record} {collections : List String}
    {registry : List Record}
    (h : (inferSchema collection sample collections registry).key? = some key) : key = idField := by
  rw [← Schema.key?_unlinked, inferSchema, unlinked_foldl unlinked_addLink, Schema.key?_unlinked] at h
  refine key?_ofColumns ?_ h
  intro c hc
  have hinferred : ∃ entry ∈ sample, (inferColumn collection collections entry.1 entry.2).1 = c := by
    simpa using mem_keysFirst.mp hc
  obtain ⟨entry, -, rfl⟩ := hinferred
  exact primaryKey_inferColumn

theorem key?_emptySchema {collection key : String} {collections : List String}
    {registry : List Record} (h : (emptySchema collection collections registry).key? = some key) :
    key = idField := by
  rw [← Schema.key?_unlinked, emptySchema, unlinked_foldl unlinked_addRelation,
    Schema.key?_unlinked] at h
  refine key?_ofColumns ?_ h
  intro c hc _
  obtain rfl := List.mem_singleton.mp hc
  rfl

end Document

end DataAccess
