import DataAccess.Proofs.Engine.Preparation
import DataAccess.Proofs.Sql.Catalog
import DataAccess.Proofs.Sql.SelectedNames
import DataAccess.Proofs.Sql.ValueIndependence

/-!
# The scopes of a read

Tables stand in a read under their own names. A read that was prepared from the schemas of a catalog
qualifies columns by tables that stand where they are used. A table stands in it once unless a relation
that is joined, or looked through, leads back to the table that is read, or two that are joined lead to
one table. The latter takes two spellings of a relation.
-/

namespace DataAccess

/-! ### Tables and the columns they qualify -/

namespace Condition

/-- The columns that a condition is on. -/
def refs : Condition → List ColumnRef
  | always _ => []
  | isNull ref _ | isIn ref .. | like ref .. | contains ref _ | compare ref .. => [ref]

end Condition

namespace Requirement

/-- The table that a requirement introduces for itself. -/
def inner : Requirement → List String
  | ofRow _ => []
  | ofSomeRelated related .. => [related.table]

def refs : Requirement → List ColumnRef
  | ofRow condition => condition.refs
  | ofSomeRelated related parent condition => related :: parent :: condition.refs

end Requirement

namespace Source

/-- The tables that are introduced for the whole of a read. -/
def tables (s : Source) : List String := s.table :: s.joins.map (·.table)

/-- Every column is qualified by a table in scope. A join sees its own table and those before it, a
requirement those of the read and the one it introduces. -/
structure Scoped (s : Source) : Prop where
  joins : ∀ before j after, s.joins = before ++ j :: after → ∀ ref ∈ [j.left, j.right],
    ref.table ∈ s.table :: (before ++ [j]).map (·.table)
  requirements : ∀ r ∈ s.requirements, ∀ ref ∈ r.refs, ref.table ∈ r.inner ++ s.tables

/-- No table is introduced twice where both could be meant. -/
structure Apart (s : Source) : Prop where
  tables : s.tables.Nodup
  inner : ∀ r ∈ s.requirements, ∀ table ∈ r.inner, table ∉ s.tables

end Source

/-- Selected columns and order are qualified by tables of the read. -/
structure Select.Scoped (s : Select) : Prop where
  source : s.source.Scoped
  items : ∀ item ∈ s.items, item.ref.table ∈ s.source.tables
  order : ∀ term ∈ s.order, term.ref.table ∈ s.source.tables

/-! ### The scope of every column -/

namespace SqlRead

variable {caps : Capabilities} {o : FindOptions} {joinAll : Bool}

/-- The relations that a read joins: those to one row, all of them or those that a reference names. -/
def joinedRelations (o : FindOptions) (joinAll : Bool) : List RelationRequest :=
  o.relations.filter fun r => r.isToOne && (joinAll || (Relations.referenced o).contains r.table)

theorem mem_joinedRelations {r : RelationRequest} :
    r ∈ joinedRelations o joinAll ↔
      r ∈ o.relations ∧ r.isToOne = true ∧ (joinAll = true ∨ r.table ∈ Relations.referenced o) := by
  rw [joinedRelations, List.mem_filter, Bool.and_eq_true, Bool.or_eq_true, List.contains_iff_mem]

theorem map_table_joins (o : FindOptions) (joinAll : Bool) :
    (joins o joinAll).map (·.table) = (joinedRelations o joinAll).map (·.table) :=
  List.map_map

theorem table_of_mem_joins {j : Join} (h : j ∈ joins o joinAll) :
    ∃ r ∈ o.relations, j.table = r.table ∧ j.left.table = r.relation.orgTable ∧
      j.right.table = r.table := by
  obtain ⟨r, hr, rfl⟩ := List.mem_map.mp h
  exact ⟨r, (List.mem_filter.mp hr).1, rfl, rfl, rfl⟩

theorem mem_tables_joins {r : RelationRequest} (hr : r ∈ o.relations) (htoOne : r.isToOne = true)
    (h : joinAll = true ∨ r.table ∈ Relations.referenced o) :
    r.table ∈ (joins o joinAll).map (·.table) := by
  rw [map_table_joins]
  exact List.mem_map_of_mem (mem_joinedRelations.mpr ⟨hr, htoOne, h⟩)

theorem exists_of_toMany? {reference : String} {q : RelationRequest}
    (h : toMany? o reference = some q) :
    q ∈ o.relations ∧ q.isToOne = false ∧
      ∃ column, splitReference? reference = some (q.table, column) := by
  rw [toMany?] at h
  cases hsplit : splitReference? reference with
  | none =>
      rw [hsplit] at h
      cases h
  | some pair =>
      obtain ⟨table, column⟩ := pair
      rw [hsplit] at h
      obtain ⟨hq, hmany⟩ := Option.filter_eq_some_iff.mp h
      obtain ⟨hmem, rfl⟩ := FindOptions.request?_eq_some hq
      exact ⟨hmem, by simpa using hmany, column, rfl⟩

theorem refs_of_condition {p : Predicate} {c : Condition} (h : condition caps o p = .ok c) :
    ∀ ref ∈ c.refs, ref = columnRef o p.column := by
  have hcompared : ∀ comparison, compared caps p (columnRef o p.column) (o.column? p.column)
      comparison = .ok c → ∀ ref ∈ c.refs, ref = columnRef o p.column := by
    intro comparison h
    rcases compared_cases h with ⟨-, rfl⟩ | ⟨-, value, rfl⟩
    · exact fun ref href => List.mem_singleton.mp href
    · exact fun ref href => List.mem_singleton.mp href
  rw [condition] at h
  dsimp only at h
  split at h
  all_goals
    first
    | exact hcompared _ h
    | obtain rfl := Except.ok.inj h
      exact fun ref href => List.mem_singleton.mp href
    | split at h
      · obtain rfl := Except.ok.inj h
        intro ref href
        cases href
      · obtain ⟨values, -, rfl⟩ := exists_of_map_eq_ok h
        exact fun ref href => List.mem_singleton.mp href

/-- A condition is on a column of the table itself, of a table that is joined, or of the table that it
introduces. -/
theorem scoped_requirement {p : Predicate} {r : Requirement} {column : Column}
    (hcolumn : o.column? p.column = some column) (hp : p ∈ o.filters)
    (h : requirement caps o p = .ok r) :
    ∀ ref ∈ r.refs, ref.table ∈ r.inner ++ o.table :: (joins o joinAll).map (·.table) := by
  obtain ⟨c, hc, rfl⟩ := exists_of_map_eq_ok h
  have hrefs := refs_of_condition hc
  cases hmany : toMany? o p.column with
  | some q =>
      obtain ⟨-, -, column, hsplit⟩ := exists_of_toMany? hmany
      intro ref href
      rcases List.mem_cons.mp href with rfl | href
      · simp [Requirement.inner]
      rcases List.mem_cons.mp href with rfl | href
      · simp
      · rw [hrefs ref href, columnRef, hsplit]
        simp [Requirement.inner]
  | none =>
      intro ref href
      rw [hrefs ref href, columnRef]
      cases hsplit : splitReference? p.column with
      | none => simp
      | some pair =>
          obtain ⟨table, name⟩ := pair
          obtain ⟨q, hq⟩ := FindOptions.exists_request_of_column? hsplit hcolumn
          obtain ⟨hmem, rfl⟩ := FindOptions.request?_eq_some hq
          have htoOne : q.isToOne = true := by
            rw [toMany?, hsplit] at hmany
            simpa [hq] using hmany
          have hreferenced : q.table ∈ Relations.referenced o := by
            rw [Engine.mem_referenced, Engine.mem_tablesOf]
            exact ⟨p.column, by simp [List.mem_map_of_mem hp], name, hsplit⟩
          exact List.mem_append_right _ (List.mem_cons_of_mem _
            (mem_tables_joins hmem htoOne (.inr hreferenced)))

theorem table_of_mem_items {item : Selected} (h : item ∈ items o joinAll) :
    item.ref.table ∈ o.table :: (joins o joinAll).map (·.table) := by
  rcases List.mem_append.mp h with h | h
  · obtain ⟨column, -, rfl⟩ := List.mem_map.mp h
    exact List.mem_cons_self
  · obtain ⟨entry, hentry, hitem⟩ := List.mem_flatMap.mp h
    have hrelation : entry.1 ∈ o.relations := by
      rw [← fst_lookupKeys o joinAll o.relations []]
      exact List.mem_map_of_mem hentry
    rw [relationItems] at hitem
    split at hitem
    next hjoined =>
      rw [isJoined, Bool.and_eq_true] at hjoined
      obtain ⟨column, -, rfl⟩ := List.mem_map.mp hitem
      exact List.mem_cons_of_mem _ (mem_tables_joins hrelation hjoined.2 (.inl hjoined.1))
    next _ =>
      split at hitem
      · rw [List.mem_singleton.mp hitem]
        exact List.mem_cons_self
      · cases hitem

/-- A read is well scoped if its conditions name columns and its relations are told from its own
side. -/
theorem scoped_source {s : Source}
    (hfilters : ∀ p ∈ o.filters, ∃ column, o.column? p.column = some column)
    (hsides : ∀ r ∈ o.relations, r.relation.orgTable = o.table)
    (h : source caps o joinAll = .ok s) :
    s.Scoped ∧ s.tables = o.table :: (joins o joinAll).map (·.table) := by
  obtain ⟨requirements, hrequirements, rfl⟩ := exists_of_map_eq_ok h
  refine ⟨⟨?_, ?_⟩, rfl⟩
  · intro before j after hsplit ref href
    have hj : j ∈ joins o joinAll := by
      have hmem : j ∈ before ++ j :: after := by simp
      rwa [← hsplit] at hmem
    obtain ⟨r, hr, htable, hleft, hright⟩ := table_of_mem_joins hj
    rcases List.mem_cons.mp href with rfl | href
    · rw [hleft, hsides r hr]
      exact List.mem_cons_self
    · rw [List.mem_singleton.mp href, hright, ← htable]
      simp
  · intro r hr
    obtain ⟨p, hp, hrequirement⟩ := exists_of_mem_mapM hrequirements hr
    obtain ⟨column, hcolumn⟩ := hfilters p hp
    exact scoped_requirement hcolumn hp hrequirement

/-! ### Tables that stand in a read once -/

/-- A filter looks through a relation to many rows for some row. -/
def LookedThrough (o : FindOptions) (r : RelationRequest) : Prop :=
  r.isToOne = false ∧
    ∃ p ∈ o.filters, ∃ column, splitReference? p.column = some (r.table, column)

/-- No relation that is joined or looked through leads back to the table, and no two that are joined
lead to one. -/
structure TablesApart (o : FindOptions) (joinAll : Bool) : Prop where
  self : ∀ r ∈ o.relations, r ∈ joinedRelations o joinAll ∨ LookedThrough o r → r.table ≠ o.table
  once : ((joinedRelations o joinAll).map (·.table)).Nodup

theorem tablesApart_of_nodup (hself : ∀ r ∈ o.relations, r.table ≠ o.table)
    (hdistinct : (o.relations.map (·.table)).Nodup) (joinAll : Bool) : TablesApart o joinAll :=
  ⟨fun r hr _ => hself r hr, hdistinct.sublist (List.filter_sublist.map _)⟩

theorem inner_of_requirement {p : Predicate} {r : Requirement}
    (h : requirement caps o p = .ok r) : r.inner = (toMany? o p.column).toList.map (·.table) := by
  obtain ⟨c, -, rfl⟩ := exists_of_map_eq_ok h
  cases toMany? o p.column <;> rfl

theorem exists_toMany?_of_lookedThrough {r : RelationRequest} (hr : r ∈ o.relations)
    (hkind : ∀ q ∈ o.relations, q.table = r.table → q.isToOne = r.isToOne)
    (h : LookedThrough o r) :
    ∃ p ∈ o.filters, ∃ q, toMany? o p.column = some q ∧ q.table = r.table := by
  obtain ⟨hmany, p, hp, column, hsplit⟩ := h
  have hsome : (o.request? r.table).isSome = true :=
    List.find?_isSome.mpr ⟨r, hr, beq_self_eq_true r.table⟩
  obtain ⟨q, hq⟩ := Option.isSome_iff_exists.mp hsome
  obtain ⟨hmem, htable⟩ := FindOptions.request?_eq_some hq
  refine ⟨p, hp, q, ?_, htable⟩
  rw [toMany?, hsplit]
  refine Option.filter_eq_some_iff.mpr ⟨hq, ?_⟩
  rw [hkind q hmem htable, hmany]
  rfl

/-- A read has its tables apart exactly if the relations that it uses do not bring them together. -/
theorem apart_source_iff {s : Source}
    (hkind : ∀ r ∈ o.relations, ∀ q ∈ o.relations, q.table = r.table → q.isToOne = r.isToOne)
    (h : source caps o joinAll = .ok s) : s.Apart ↔ TablesApart o joinAll := by
  obtain ⟨requirements, hrequirements, rfl⟩ := exists_of_map_eq_ok h
  have htables : Source.tables ⟨o.table, joins o joinAll, requirements⟩ =
      o.table :: (joinedRelations o joinAll).map (·.table) :=
    congrArg (o.table :: ·) (map_table_joins o joinAll)
  constructor
  · rintro ⟨hnodup, hinner⟩
    rw [htables] at hnodup
    obtain ⟨hself, honce⟩ := List.nodup_cons.mp hnodup
    refine ⟨fun r hr huse heq => ?_, honce⟩
    rcases huse with hjoined | hlooked
    · exact hself (List.mem_map.mpr ⟨r, hjoined, heq⟩)
    · obtain ⟨p, hp, q, hq, htable⟩ := exists_toMany?_of_lookedThrough hr (hkind r hr) hlooked
      obtain ⟨requirement, hmem, hrequirement⟩ := exists_mem_of_mapM hrequirements hp
      refine hinner requirement hmem o.table ?_ (htables ▸ List.mem_cons_self)
      rw [inner_of_requirement hrequirement, hq, ← heq, ← htable]
      exact List.mem_cons_self
  · rintro ⟨hself, honce⟩
    refine ⟨?_, fun requirement hmem table htable hthere => ?_⟩
    · rw [htables]
      refine List.nodup_cons.mpr ⟨fun hmem => ?_, honce⟩
      obtain ⟨r, hr, heq⟩ := List.mem_map.mp hmem
      exact hself r (mem_joinedRelations.mp hr).1 (.inl hr) heq
    · obtain ⟨p, hp, hrequirement⟩ := exists_of_mem_mapM hrequirements hmem
      rw [inner_of_requirement hrequirement] at htable
      obtain ⟨q, hq, rfl⟩ := List.mem_map.mp htable
      obtain ⟨hmem, hmany, column, hsplit⟩ := exists_of_toMany? (Option.mem_toList.mp hq)
      rw [htables] at hthere
      rcases List.mem_cons.mp hthere with heq | hthere
      · exact hself q hmem (.inr ⟨hmany, p, hp, column, hsplit⟩) heq
      · -- A table that is looked through for some row is joined only by a relation to one row.
        obtain ⟨r, hr, heq⟩ := List.mem_map.mp hthere
        obtain ⟨hr, htoOne, -⟩ := mem_joinedRelations.mp hr
        rw [← hkind r hr q hmem heq.symm, hmany] at htoOne
        cases htoOne

end SqlRead

/-! ### Reads of a catalog -/

namespace Engine

/-- The names that a read goes by are plain: no field is asked for twice, no table has a column twice,
and no name that a dotted one is made from has a dot. -/
structure PlainNames (params : Params) (o : FindOptions) : Prop where
  fields : (namedFields params).Nodup
  columns : o.schema.fieldNames.Nodup
  related : ∀ r ∈ o.relations, ∀ s, r.schema? = some s → s.fieldNames.Nodup
  undotted : ∀ name ∈ o.schema.fieldNames, isRelationReference name = false
  undottedTables : ∀ r ∈ o.relations, isRelationReference r.table = false

/-- Of the relations that parameters ask for, those that lead to one table are named alike. -/
def RelationsNamedAlike (schema : Schema) (params : Params) : Prop :=
  ∀ requested, directive (Reading.relations schema) [] (params.get? "relations") = .ok requested →
    requested.Pairwise (SpelledAlike schema)

variable {catalog : String → Except EngineError Schema} {settings : EngineSettings}
  {table : String} {params : Params} {o : FindOptions}

theorem spelledAlike_of_lower_ne {schema : Schema} {first later : RequestedRelation}
    (h : Text.lower first.table ≠ Text.lower later.table) : SpelledAlike schema first later := by
  intro r r' hr hr' heq
  refine absurd ?_ h
  rw [← (Schema.relation?_eq_some hr).2, heq, (Schema.relation?_eq_some hr').2]

/-- The relations of a read lead to different tables exactly if those that are asked for are named
alike. -/
theorem nodup_tables_iff_of_prepared (h : prepared catalog settings table params = .ok o) :
    (o.relations.map (·.table)).Nodup ↔ RelationsNamedAlike o.schema params := by
  obtain ⟨schema, own, requested, related, relations, -, hread, hrelations, rfl, -⟩ :=
    exists_of_prepared h
  obtain ⟨filters, sort, fields, position, -, -, -, hrequested, -, rfl, -⟩ :=
    exists_of_readOptions hread
  obtain ⟨added, hadded, -, hfresh, hdistinct, -⟩ :=
    exists_addReferenced requested (Relations.referenced
      ⟨schema, fields.base, filters, [], sort, position.limit, position.offset⟩)
  rw [hadded] at hrelations
  constructor
  · intro hnodup requested' hrequested'
    obtain rfl := Except.ok.inj (hrequested.symm.trans hrequested')
    exact (List.pairwise_append.mp
      (pairwise_spelledAlike (List.forall_mem_nil _) hrelations hnodup).2).1
  · intro hnamed
    -- What only references name differs from the rest in more than letter case, so that two names can
    -- lead to one table only if both are asked for.
    have hspelled : (requested ++ added).Pairwise (SpelledAlike schema) := by
      refine List.pairwise_append.mpr ⟨hnamed requested hrequested, ?_, ?_⟩
      · rw [List.nodup_iff_pairwise_ne, List.pairwise_map] at hdistinct
        exact hdistinct.imp spelledAlike_of_lower_ne
      · exact fun q hq q' hq' => spelledAlike_of_lower_ne (hfresh q hq q' hq')
    have hnone : ∀ r ∈ ([] : List RelationRequest), ∃ q, attached catalog schema related q = .ok r ∧
        ∀ later ∈ requested ++ added, SpelledAlike schema q later := nofun
    have hstart : (([] : List RelationRequest).map (·.table)).Nodup := List.nodup_nil
    exact nodup_attachedAll hstart hnone hspelled hrelations

theorem exists_relation_of_prepared (h : prepared catalog settings table params = .ok o)
    {r : RelationRequest} (hr : r ∈ o.relations) :
    ∃ relation, o.schema.relation? r.table = some relation ∧
      ∃ relatedSchema, catalog r.table = .ok relatedSchema ∧
        r.relation = { relation with schema := some relatedSchema } ∧
        r.fields = ((Reading.Fields.ofList (namedFields params)).related.filter fun pair =>
          pair.1 == r.table).map (·.2) := by
  obtain ⟨schema, own, requested, related, relations, -, hread, hrelations, rfl, -⟩ :=
    exists_of_prepared h
  obtain ⟨filters, sort, fields, position, -, -, hfields, -, -, rfl, rfl⟩ :=
    exists_of_readOptions hread
  obtain ⟨new, rfl, hnew, -⟩ := resolved_of_attachedAll hrelations
  obtain ⟨q, -, hq⟩ := hnew r hr
  obtain ⟨relation, relatedSchema, hfound, hcatalog, rfl⟩ := exists_of_attached hq
  rw [← eq_ofList_of_directive hfields]
  exact ⟨relation, Schema.relation?_table hfound, relatedSchema, hcatalog, rfl, rfl⟩

/-- Relations to one table are one relation, however often it is there. -/
theorem relation_eq_of_prepared (h : prepared catalog settings table params = .ok o)
    {r q : RelationRequest} (hr : r ∈ o.relations) (hq : q ∈ o.relations) (heq : q.table = r.table) :
    q.relation = r.relation := by
  obtain ⟨relation, hrelation, related, hrelated, hr, -⟩ := exists_relation_of_prepared h hr
  obtain ⟨relation', hrelation', related', hrelated', hq, -⟩ := exists_relation_of_prepared h hq
  rw [heq] at hrelation' hrelated'
  obtain rfl := Option.some.inj (hrelation.symm.trans hrelation')
  obtain rfl := Except.ok.inj (hrelated.symm.trans hrelated')
  exact hq.trans hr.symm

theorem fields_of_prepared (h : prepared catalog settings table params = .ok o) :
    o.fields = (Reading.Fields.ofList (namedFields params)).base := by
  obtain ⟨schema, own, requested, related, relations, -, hread, -, rfl, -⟩ := exists_of_prepared h
  obtain ⟨filters, sort, fields, position, -, -, hfields, -, -, rfl, -⟩ :=
    exists_of_readOptions hread
  rw [← eq_ofList_of_directive hfields]

theorem schema_of_prepared (h : prepared catalog settings table params = .ok o) :
    catalog table = .ok o.schema := by
  obtain ⟨schema, own, requested, related, relations, hschema, hread, -, rfl, -⟩ :=
    exists_of_prepared h
  obtain ⟨filters, sort, fields, position, -, -, -, -, -, rfl, -⟩ := exists_of_readOptions hread
  exact hschema

theorem checkFind_of_prepared (h : prepared catalog settings table params = .ok o) :
    Validation.checkFind o = .ok () := by
  obtain ⟨schema, own, requested, related, relations, -, -, -, rfl, hcheck⟩ := exists_of_prepared h
  exact hcheck

theorem namesApart_of_prepared (h : prepared catalog settings table params = .ok o)
    (hnamed : RelationsNamedAlike o.schema params) (hplain : PlainNames params o) (joinAll : Bool) :
    SqlRead.NamesApart o joinAll := by
  refine SqlRead.namesApart_of_undotted ?_ hplain.columns hplain.undotted hplain.undottedTables ?_
    ((nodup_tables_iff_of_prepared h).mpr hnamed)
  · rw [fields_of_prepared h, base_ofList]
    exact hplain.fields.sublist List.filter_sublist
  · intro r hr
    obtain ⟨relation, -, relatedSchema, -, hrelation, hfields⟩ := exists_relation_of_prepared h hr
    have hschema : r.schema? = some relatedSchema := by
      rw [RelationRequest.schema?, hrelation]
    rw [RelationRequest.projected, hschema]
    refine SqlRead.nodup_select (hplain.related r hr relatedSchema hschema) ?_
    rw [hfields]
    exact nodup_related_ofList hplain.fields r.table

end Engine

namespace SqlRead

open Engine

/-- **Reads are well scoped.** In the statements of a read and of its count that were prepared from a
catalog every column is qualified by a table in its scope. No table is introduced twice in a scope
exactly if no relation that is joined or looked through leads back to the table itself and no two that
are joined lead to one table, for which a relation has to be asked for by two spellings. The columns
that come back are told apart by their names exactly if nothing is selected twice and no dotted name is
met twice, as it is where names are plain. -/
theorem prepared_scoped {σ : Type} (responder : Dialogue.Responder StoreCall StoreCall.Answer σ)
    (catalog : String → Except EngineError Schema) (d : SqlDialect) (settings : EngineSettings)
    (label table : String) (params : Params) (columnRows forwardRows backwardRows : List Record)
    (schema : Schema) (o : FindOptions) (joinAll : Bool) (state : σ)
    (hcatalog : FromCatalog responder catalog)
    (hbuilt : Introspection.schema d table columnRows forwardRows backwardRows = .ok schema)
    (hschema : catalog table = .ok schema)
    (hprepared : ((prepareFind settings label table params).run responder state).1 = .ok o) :
    (∀ paginate q, d.selectQuery o joinAll paginate = .ok q → ∃ s,
      select d.capabilities o joinAll paginate = .ok s ∧ q = Statement.compile d (s.pieces d) ∧
      s.Scoped ∧ (s.source.Apart ↔ TablesApart o joinAll) ∧
      ((s.items.map (·.outName)).Nodup ↔ NamesApart o joinAll)) ∧
    (∀ q, d.countQuery o joinAll = .ok q → ∃ s,
      source d.capabilities o joinAll = .ok s ∧ q = Statement.compile d (s.countPieces d) ∧
      s.Scoped ∧ (s.Apart ↔ TablesApart o joinAll)) ∧
    ((o.relations.map (·.table)).Nodup ↔ RelationsNamedAlike schema params) ∧
    (RelationsNamedAlike schema params → PlainNames params o → NamesApart o joinAll) := by
  rw [fst_run_prepareFind hcatalog] at hprepared
  obtain rfl := Except.ok.inj (hschema.symm.trans (schema_of_prepared hprepared))
  obtain ⟨htable, hsides⟩ := Introspection.orgTable_of_schema hbuilt
  have hown : ∀ r ∈ o.relations, r.relation.orgTable = o.table := by
    intro r hr
    obtain ⟨relation, hrelation, _, -, heq, -⟩ := exists_relation_of_prepared hprepared hr
    rw [heq]
    exact (hsides relation (Schema.relation?_eq_some hrelation).1).trans htable.symm
  have hkind : ∀ r ∈ o.relations, ∀ q ∈ o.relations, q.table = r.table → q.isToOne = r.isToOne := by
    intro r hr q hq heq
    rw [RelationRequest.isToOne, RelationRequest.isToOne, RelationRequest.schema?,
      RelationRequest.schema?, relation_eq_of_prepared hprepared hr hq heq]
  have hfilters := (exists_column_of_checkFind (checkFind_of_prepared hprepared)).1
  refine ⟨?_, ?_, nodup_tables_iff_of_prepared hprepared,
    fun hnamed hplain => namesApart_of_prepared hprepared hnamed hplain joinAll⟩
  · intro paginate q hq
    obtain ⟨s, hs, rfl⟩ := exists_of_map_eq_ok hq
    refine ⟨s, hs, rfl, ?_⟩
    obtain ⟨source, hsource, rfl⟩ := exists_of_map_eq_ok hs
    obtain ⟨hscoped, htables⟩ := scoped_source hfilters hown hsource
    refine ⟨⟨hscoped, ?_, ?_⟩, apart_source_iff hkind hsource, nodup_outNames_iff o joinAll⟩
    · intro item hitem
      rw [htables]
      exact table_of_mem_items hitem
    · intro term hterm
      obtain ⟨entry, -, rfl⟩ := List.mem_map.mp hterm
      rw [htables]
      exact List.mem_cons_self
  · intro q hq
    obtain ⟨source, hsource, rfl⟩ := exists_of_map_eq_ok hq
    exact ⟨source, hsource, rfl, (scoped_source hfilters hown hsource).1,
      apart_source_iff hkind hsource⟩

end SqlRead

/-! ### A catalog of employees -/

namespace Introspection

def columnRow (field type key : String) : Record :=
  [("field", .string field), ("key_type", .string key), ("native_type", .string type)]

def keyRow (orgColumn refTable refColumn : String) : Record :=
  [("org_column", .string orgColumn), ("ref_column", .string refColumn),
    ("ref_table", .string refTable)]

/-- Employees have a manager and a department, and may have more columns. -/
def employees (more : List Record) : Except EngineError Schema :=
  schema .sqlite "employees"
    ([columnRow "id" "integer" "PRI", columnRow "manager" "integer" "",
      columnRow "department" "integer" ""] ++ more)
    [keyRow "manager" "employees" "id", keyRow "department" "departments" "id"]
    [keyRow "id" "employees" "manager"]

def departments : Except EngineError Schema :=
  schema .sqlite "departments" [columnRow "id" "integer" "PRI", columnRow "name" "text" ""] []
    [keyRow "id" "employees" "department"]

def staff (more : List Record) : List Schema :=
  [employees more, departments].filterMap Except.toOption

/-- A table of an id and texts. -/
def texts (table : String) (columns : List String) (forwardRows backwardRows : List Record) :
    Except EngineError Schema :=
  schema .sqlite table
    (columnRow "id" "integer" "PRI" :: columns.map fun column => columnRow column "text" "")
    forwardRows backwardRows

def known (tables : List (Except EngineError Schema)) : List Schema :=
  tables.filterMap Except.toOption

end Introspection

namespace SqlRead

open Engine Introspection

/-- What parameters ask of employees. -/
def prepareStaff (more : List Record) (params : Params) : Except EngineError FindOptions :=
  StoreCall.runWith (staff more) (prepareFind .standard "-" "employees" params)

/-- Employees with their departments, by the name of the department. -/
def inSales : Params := [("departments.name", "Sales"), ("relations", "departments")]

theorem plainNames_inSales {o : FindOptions}
    (hcolumns : o.schema.fieldNames = ["id", "manager", "department"])
    (hrelations : o.relations.map (fun r => (r.table, r.schema?.map (·.fieldNames))) =
      [("departments", some ["id", "name"])]) :
    (∀ r ∈ o.relations, r.table = "departments") ∧ PlainNames inSales o := by
  have honly : ∀ r ∈ o.relations, r.table = "departments" ∧
      r.schema?.map (·.fieldNames) = some ["id", "name"] := by
    intro r hr
    have hmem := List.mem_map_of_mem (f := fun r : RelationRequest =>
      (r.table, r.schema?.map (·.fieldNames))) hr
    rw [hrelations, List.mem_singleton] at hmem
    exact Prod.mk.inj hmem
  refine ⟨fun r hr => (honly r hr).1, by decide, by rw [hcolumns]; decide, ?_,
    by rw [hcolumns]; decide, fun r hr => (honly r hr).1 ▸ by decide⟩
  intro r hr s hs
  have hown : s.fieldNames = ["id", "name"] := by
    simpa [hs] using (honly r hr).2
  rw [hown]
  decide

/-- Employees of a department by its name, in one join. -/
theorem prepared_scoped_inSales :
    ∃ (schema : Schema) (o : FindOptions) (q total : CompiledQuery),
      employees [] = .ok schema ∧ prepareStaff [] inSales = .ok o ∧
      SqlDialect.sqlite.selectQuery o true true = .ok q ∧
      SqlDialect.sqlite.countQuery o true = .ok total ∧
      (∃ s : Select, q = Statement.compile .sqlite (s.pieces .sqlite) ∧ s.Scoped ∧
        s.source.Apart ∧ (s.items.map (·.outName)).Nodup) ∧
      ∃ s : Source, total = Statement.compile .sqlite (s.countPieces .sqlite) ∧ s.Scoped ∧
        s.Apart := by
  obtain ⟨schema, hschema⟩ : ∃ schema, employees [] = .ok schema := ⟨_, rfl⟩
  have hrequested : (employees []).toOption.map (fun schema =>
      (directive (Reading.relations schema) [] (inSales.get? "relations")).toOption) =
        some (some [⟨"departments", .inner⟩]) := by
    decide +kernel
  generalize hprepared : prepareStaff [] inSales = prepared
  have hread : (prepared.toOption.map fun o =>
      (o.table :: o.schema.fieldNames,
        o.relations.map fun r => (r.table, r.schema?.map (·.fieldNames)),
        (SqlDialect.sqlite.selectQuery o true true).toOption.isSome,
        (SqlDialect.sqlite.countQuery o true).toOption.isSome)) =
      some (["employees", "id", "manager", "department"], [("departments", some ["id", "name"])],
        true, true) := by
    rw [← hprepared]
    decide +kernel
  cases prepared with
  | error error => cases hread
  | ok o =>
      obtain ⟨hcolumns, hread⟩ := Prod.mk.inj (Option.some.inj hread)
      obtain ⟨htable, hcolumns⟩ := List.cons.inj hcolumns
      obtain ⟨hrelations, hread⟩ := Prod.mk.inj hread
      obtain ⟨hselect, hcount⟩ := Prod.mk.inj hread
      obtain ⟨q, hq⟩ := Option.isSome_iff_exists.mp hselect
      obtain ⟨total, htotal⟩ := Option.isSome_iff_exists.mp hcount
      have hq := eq_ok_of_toOption_eq_some hq
      have htotal := eq_ok_of_toOption_eq_some htotal
      obtain ⟨hdepartments, hplain⟩ := plainNames_inSales hcolumns hrelations
      have hself : ∀ r ∈ o.relations, r.table ≠ o.table :=
        fun r hr => by rw [hdepartments r hr, htable]; decide
      have hnamed : RelationsNamedAlike schema inSales := by
        intro requested hdirective
        rw [hschema] at hrequested
        have hasked := eq_ok_of_toOption_eq_some (Option.some.inj hrequested)
        rw [Except.ok.inj (hdirective.symm.trans hasked)]
        exact List.pairwise_singleton _ _
      obtain ⟨hselected, hcounted, hdistinct, hnames⟩ := prepared_scoped (knowing (staff []))
        (catalogOf (staff [])) .sqlite .standard "-" "employees" inSales _ _ _ schema o true ()
        (fromCatalog_knowing _) hschema hschema hprepared
      have htables : TablesApart o true := tablesApart_of_nodup hself (hdistinct.mpr hnamed) true
      obtain ⟨s, -, hcompiled, hscoped, hapart, hnodup⟩ := hselected true q hq
      obtain ⟨s', -, hcompiled', hscoped', hapart'⟩ := hcounted total htotal
      exact ⟨schema, o, q, total, hschema, rfl, hq, htotal,
        ⟨s, hcompiled, hscoped, hapart.mpr htables, hnodup.mpr (hnames hnamed hplain)⟩,
        ⟨s', hcompiled', hscoped', hapart'.mpr htables⟩⟩

/-- The tables of the read that parameters ask for, and those that its requirements introduce. -/
def tablesAsked (schemas : List Schema) (table : String) (params : Params) (joinAll : Bool) :
    Option (List String × List String) := do
  let o ← (StoreCall.runWith schemas (prepareFind .standard "-" table params)).toOption
  let s ← (source SqlDialect.sqlite.capabilities o joinAll).toOption
  return (s.tables, s.requirements.flatMap (·.inner))

/-- The names under which the columns of the read come back. -/
def namesAsked (schemas : List Schema) (table : String) (params : Params) : Option (List String) := do
  let o ← (StoreCall.runWith schemas (prepareFind .standard "-" table params)).toOption
  let s ← (select SqlDialect.sqlite.capabilities o true true).toOption
  return s.items.map (·.outName)

/-- A table is joined to itself, also where the same relation could be looked up; it is looked through
for some row of itself; and another is joined twice, under two spellings. Names clash for a field that
is asked for twice, for a table or a joined table with a column twice, for a column that is named like
one of a joined table, and for two tables one of which is named like a column of the other. -/
theorem tables_and_names_clash :
    tablesAsked (staff []) "employees" [("relations", "employees")] true =
        some (["employees", "employees"], []) ∧
    tablesAsked (staff []) "employees" [("relations", "employees")] false =
        some (["employees"], []) ∧
    tablesAsked (staff []) "employees" [("employees.id", "1")] false =
        some (["employees", "employees"], []) ∧
    tablesAsked (known [texts "tasks" ["parent"] [] [keyRow "id" "tasks" "parent"]]) "tasks"
        [("tasks.parent", "1")] true = some (["tasks"], ["tasks"]) ∧
    tablesAsked (staff []) "employees" [("relations", "departments,DEPARTMENTS")] true =
        some (["employees", "departments", "departments"], []) ∧
    namesAsked (staff []) "employees" [("relations", "departments,DEPARTMENTS")] =
        some ["id", "manager", "department", "departments.id", "departments.name", "departments.id",
          "departments.name"] ∧
    namesAsked (staff []) "employees" [("fields", "id,id")] = some ["id", "id"] ∧
    namesAsked (staff [columnRow "id" "integer" ""]) "employees" [] =
        some ["id", "manager", "department", "id"] ∧
    namesAsked (known [texts "orders" ["customer"] [keyRow "customer" "customers" "id"] [],
        texts "customers" ["name", "name"] [] []]) "orders" [("relations", "customers")] =
        some ["id", "customer", "customers.id", "customers.name", "customers.name"] ∧
    namesAsked (staff [columnRow "departments.id" "integer" ""]) "employees"
        [("relations", "departments")] =
        some ["id", "manager", "department", "departments.id", "departments.id",
          "departments.name"] ∧
    namesAsked (known [texts "orders" ["a", "b"] [keyRow "a" "s" "id", keyRow "b" "s.t" "id"] [],
        texts "s" ["t.name"] [] [], texts "s.t" ["name"] [] []]) "orders" [("relations", "s,s.t")] =
        some ["id", "a", "b", "s.id", "s.t.name", "s.t.id", "s.t.name"] := by
  decide +kernel

end SqlRead

end DataAccess
