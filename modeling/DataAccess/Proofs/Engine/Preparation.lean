import DataAccess.Proofs.Engine.Pages
import DataAccess.Proofs.Query.Reference
import DataAccess.Store.Catalog

/-!
# How a read is prepared

To prepare a read the engine asks for schemas and for nothing else. If they come from a catalog, then
the read is a function of the catalog: what the parameters say of it, with the relations that they
ask for and those that only dotted references name, each with the schema of its table.
-/

namespace DataAccess

open Dialogue

theorem Text.equalIgnoringCase_iff {a b : String} :
    equalIgnoringCase a b = true ↔ lower a = lower b := beq_iff_eq

/-- A relation that is found is one of the schema's, under the name up to letter case. -/
theorem Schema.relation?_eq_some {s : Schema} {name : String} {r : Relation}
    (h : s.relation? name = some r) :
    r ∈ s.relations ∧ Text.lower r.table = Text.lower name := by
  rw [relation?] at h
  split at h
  next hfind =>
    obtain rfl := Option.some.inj h
    have hname := List.find?_some hfind
    exact ⟨List.mem_of_find?_eq_some hfind, congrArg Text.lower (beq_iff_eq.mp hname)⟩
  next _ =>
    have hname := List.find?_some h
    exact ⟨List.mem_of_find?_eq_some h, Text.equalIgnoringCase_iff.mp hname⟩

/-- A relation that is found under any name is found under that of its table. -/
theorem Schema.relation?_table {s : Schema} {name : String} {r : Relation}
    (h : s.relation? name = some r) : s.relation? r.table = some r := by
  have hfind : s.relations.find? (fun own => own.table == r.table) = some r := by
    rw [relation?] at h
    split at h
    next hfind =>
      obtain rfl := Option.some.inj h
      have hname := List.find?_some hfind
      rw [beq_iff_eq.mp hname]
      exact hfind
    next _ =>
      obtain ⟨hname, before, after, hsplit, hbefore⟩ := List.find?_eq_some_iff_append.mp h
      refine List.find?_eq_some_iff_append.mpr ⟨beq_self_eq_true _, before, after, hsplit, ?_⟩
      -- A table of the same name would have been found under the other as well.
      intro own hown
      rw [Bool.not_eq_true']
      refine beq_eq_false_iff_ne.mpr fun heq => ?_
      have hother := hbefore own hown
      rw [heq, hname] at hother
      cases hother
  rw [relation?, hfind]

namespace Engine

/-! ### Relations from a catalog -/

/-- The schemas that a store gives are those of a catalog, whatever it was asked before. -/
def FromCatalog {σ : Type} (responder : Responder StoreCall StoreCall.Answer σ)
    (catalog : String → Except EngineError Schema) : Prop :=
  ∀ name state, (responder.answer (.getSchema name) state).1 = catalog name

/-- A list of schemas as a catalog. -/
def catalogOf (schemas : List Schema) (table : String) : Except EngineError Schema :=
  StoreCall.answerFrom schemas (.getSchema table)

/-- A store that knows a list of schemas. -/
def knowing (schemas : List Schema) : Responder StoreCall StoreCall.Answer Unit :=
  ⟨fun call state => (StoreCall.answerFrom schemas call, state), fun _ state => state⟩

theorem fromCatalog_knowing (schemas : List Schema) :
    FromCatalog (knowing schemas) (catalogOf schemas) := fun _ _ => rfl

section Catalog

variable (catalog : String → Except EngineError Schema) (schema : Schema)
  (related : List (String × String))

/-- The relation that a name leads to, with the schema that the catalog has of its table. -/
def attached (requested : RequestedRelation) : Except EngineError RelationRequest :=
  match schema.relation? requested.table with
  | none => .error (.relationNotFound schema.table requested.table)
  | some relation => (catalog relation.table).map fun relatedSchema =>
    { relation := { relation with schema := some relatedSchema }
      join := requested.join
      fields := (related.filter fun pair => pair.1 == relation.table).map (·.2) }

/-- The relations that names lead to, after those that are there; a name that one of these bears
leads to no other. -/
def attachedAll : List RequestedRelation → List RelationRequest →
    Except EngineError (List RelationRequest)
  | [], before => .ok before
  | requested :: rest, before =>
    if before.any fun r => r.table == requested.table then attachedAll rest before
    else do
      let request ← attached catalog schema related requested
      attachedAll rest (before ++ [request])

end Catalog

/-- The read that parameters ask for, with the schemas of a catalog. -/
def prepared (catalog : String → Except EngineError Schema) (settings : EngineSettings)
    (table : String) (params : Params) : Except EngineError FindOptions := do
  let schema ← catalog table
  let (options, requested, related) ← readOptions settings schema params
  let relations ← attachedAll catalog schema related
    (addReferenced requested (Relations.referenced options)) []
  let options := { options with relations }
  Validation.checkFind options
  return options

section Run

variable {catalog : String → Except EngineError Schema} {schema : Schema}
  {related : List (String × String)} {label : String} {σ : Type}
  {responder : Responder StoreCall StoreCall.Answer σ} (hcatalog : FromCatalog responder catalog)

include hcatalog

theorem fst_run_getSchema (name : String) (state : σ) :
    ((StoreDialogue.call (.getSchema name)).run responder state).1 = catalog name := by
  rw [StoreDialogue.call, run_bind]
  exact (congrArg Prod.fst (run_ofExcept _ _ _)).trans (hcatalog name state)

theorem fst_run_attach (requested : RequestedRelation) (state : σ) :
    ((attach label schema related requested).run responder state).1 =
      attached catalog schema related requested := by
  rw [attach, attached]
  cases schema.relation? requested.table with
  | none => rfl
  | some relation =>
      dsimp only
      let request (relatedSchema : Schema) : RelationRequest :=
        { relation := { relation with schema := some relatedSchema }
          join := requested.join
          fields := (related.filter fun pair => pair.1 == relation.table).map (·.2) }
      rw [bind_eq_bind, fst_run_bind responder (fun own => .ok (request own)) fun _ _ => rfl,
        fst_run_getSchema hcatalog]
      cases catalog relation.table <;> rfl

theorem fst_run_attachAll (requested : List RequestedRelation) (before : List RelationRequest)
    (state : σ) :
    ((attachAll label schema related requested before).run responder state).1 =
      attachedAll catalog schema related requested before := by
  induction requested generalizing before state with
  | nil => rfl
  | cons first rest ih =>
      rw [attachAll, attachedAll]
      split
      · exact ih before state
      · rw [bind_eq_bind, fst_run_bind responder _ fun request state => ih (before ++ [request]) state,
          fst_run_attach hcatalog]

/-- **A read is a function of the catalog.** -/
theorem fst_run_prepareFind (settings : EngineSettings) (table : String) (params : Params)
    (state : σ) :
    ((prepareFind settings label table params).run responder state).1 =
      prepared catalog settings table params := by
  have hchecked : ∀ (o : FindOptions) (state : σ),
      (((Dialogue.ofExcept (Validation.checkFind o) : StoreDialogue Unit).bind fun _ => .done o).run
        responder state).1 = (Validation.checkFind o >>= fun _ => .ok o) := by
    intro o state
    rw [fst_run_bind responder (fun _ => .ok o) fun _ _ => rfl, run_ofExcept]
  rw [prepareFind, prepared, bind_eq_bind, fst_run_bind responder _ fun schema state => ?_,
    fst_run_getSchema hcatalog]
  rw [bind_eq_bind, fst_run_bind responder _ fun read state => ?_, run_ofExcept]
  obtain ⟨options, requested, related⟩ := read
  dsimp only
  rw [bind_eq_bind, resolveRelations, fst_run_bind responder _ fun relations state => ?_,
    fst_run_attachAll hcatalog]
  exact hchecked _ state

end Run

/-- A relation that was attached is one of the schema's, with the schema that the store gave of its
table. -/
theorem exists_of_run_attach {schema : Schema} {related : List (String × String)} {label : String}
    {σ : Type} {responder : Responder StoreCall StoreCall.Answer σ} {state after : σ}
    {q : RequestedRelation} {r : RelationRequest}
    (h : (attach label schema related q).run responder state = (.ok r, after)) :
    ∃ relation own middle entry, schema.relation? q.table = some relation ∧
      (StoreDialogue.call (.getSchema relation.table)).run responder state = (.ok own, middle) ∧
      after = responder.note entry middle ∧
      r = { relation := { relation with schema := some own }
            join := q.join
            fields := (related.filter fun pair => pair.1 == relation.table).map (·.2) } := by
  rw [attach] at h
  cases hrelation : schema.relation? q.table with
  | none =>
      rw [hrelation] at h
      cases h
  | some relation =>
      rw [hrelation] at h
      obtain ⟨own, middle, hown, h⟩ := exists_of_run_bind_eq_ok _ h
      obtain ⟨hr, rfl⟩ := Prod.mk.inj h
      exact ⟨relation, own, middle, _, rfl, hown, rfl, (Except.ok.inj hr).symm⟩

/-! ### Parts of a read -/

theorem exists_of_readOptions {settings : EngineSettings} {schema : Schema} {params : Params}
    {own : FindOptions} {requested : List RequestedRelation} {related : List (String × String)}
    (h : readOptions settings schema params = .ok (own, requested, related)) :
    ∃ filters sort fields position, Reading.filters schema params = .ok filters ∧
      directive (Reading.sort schema) [] (params.get? "sort") = .ok sort ∧
      directive (Reading.fields schema) ⟨[], []⟩ (params.get? "fields") = .ok fields ∧
      directive (Reading.relations schema) [] (params.get? "relations") = .ok requested ∧
      settings.pageLimits.position params = .ok position ∧
      own = ⟨schema, fields.base, filters, [], sort, position.limit, position.offset⟩ ∧
      related = fields.related := by
  rw [readOptions_eq, readAtStart] at h
  obtain ⟨⟨start, rest⟩, hstart, h⟩ := exists_of_bind_eq_ok h
  obtain ⟨position, hposition, h⟩ := exists_of_bind_eq_ok h
  obtain ⟨filters, hfilters, hstart⟩ := exists_of_bind_eq_ok hstart
  obtain ⟨sort, hsort, hstart⟩ := exists_of_bind_eq_ok hstart
  obtain ⟨fields, hfields, hstart⟩ := exists_of_bind_eq_ok hstart
  obtain ⟨named, hnamed, hstart⟩ := exists_of_bind_eq_ok hstart
  obtain ⟨rfl, hrest⟩ := Prod.mk.inj (Except.ok.inj hstart)
  obtain ⟨rfl, hown⟩ := Prod.mk.inj (Except.ok.inj h)
  obtain ⟨rfl, rfl⟩ := Prod.mk.inj (hrest.trans hown)
  exact ⟨filters, sort, fields, position, hfilters, hsort, hfields, hnamed, hposition, rfl, rfl⟩

/-- The fields that parameters name. -/
def namedFields (params : Params) : List String :=
  (params.get? "fields").elim [] Reading.entries

theorem eq_ofList_of_directive {schema : Schema} {params : Params} {fields : Reading.Fields}
    (h : directive (Reading.fields schema) ⟨[], []⟩ (params.get? "fields") = .ok fields) :
    fields = Reading.Fields.ofList (namedFields params) := by
  rw [namedFields]
  cases hraw : params.get? "fields" with
  | none =>
      rw [hraw] at h
      exact (Except.ok.inj h).symm
  | some raw =>
      rw [hraw] at h
      obtain ⟨_, -, h⟩ := exists_of_bind_eq_ok h
      exact (Except.ok.inj h).symm

theorem base_ofList (names : List String) :
    (Reading.Fields.ofList names).base =
      names.filter fun name => (splitReference? name).isNone := by
  induction names with
  | nil => rfl
  | cons first rest ih =>
      rw [Reading.Fields.ofList, List.filter_cons]
      cases splitReference? first with
      | none => exact congrArg (first :: ·) ih
      | some pair => exact ih

theorem related_ofList (names : List String) :
    (Reading.Fields.ofList names).related = names.filterMap splitReference? := by
  induction names with
  | nil => rfl
  | cons first rest ih =>
      rw [Reading.Fields.ofList, List.filterMap_cons]
      cases splitReference? first with
      | none => exact ih
      | some pair => exact congrArg (pair :: ·) ih

theorem splitReference?_of_mem_base {names : List String} {field : String}
    (h : field ∈ (Reading.Fields.ofList names).base) : splitReference? field = none := by
  rw [base_ofList] at h
  simpa using (List.mem_filter.mp h).2

theorem splitReference?_of_mem_fields {settings : EngineSettings} {schema : Schema} {params : Params}
    {own : FindOptions} {rest : List RequestedRelation × List (String × String)}
    (h : readOptions settings schema params = .ok (own, rest)) {field : String}
    (hfield : field ∈ own.fields) : splitReference? field = none := by
  obtain ⟨requested, related⟩ := rest
  obtain ⟨filters, sort, fields, position, -, -, hfields, -, -, rfl, -⟩ := exists_of_readOptions h
  change field ∈ fields.base at hfield
  rw [eq_ofList_of_directive hfields] at hfield
  exact splitReference?_of_mem_base hfield

theorem nodup_related_ofList {names : List String} (h : names.Nodup) (table : String) :
    (((Reading.Fields.ofList names).related.filter fun pair => pair.1 == table).map (·.2)).Nodup := by
  have hpairs : (names.filterMap splitReference?).Pairwise (· ≠ ·) := by
    rw [List.nodup_iff_pairwise_ne] at h
    refine h.filterMap _ ?_
    rintro name name' hne ⟨own, column⟩ hsplit _ hsplit' rfl
    exact hne ((splitReference?_eq_some_iff.mp hsplit).1.trans
      (splitReference?_eq_some_iff.mp hsplit').1.symm)
  rw [related_ofList, List.nodup_iff_pairwise_ne, List.pairwise_map]
  refine (hpairs.filter _).imp_of_mem ?_
  rintro ⟨own, column⟩ ⟨own', column'⟩ hmem hmem' hne heq
  have hown := beq_iff_eq.mp (List.mem_filter.mp hmem).2
  have hown' := beq_iff_eq.mp (List.mem_filter.mp hmem').2
  exact hne (Prod.ext (hown.trans hown'.symm) heq)

theorem exists_of_prepared {catalog : String → Except EngineError Schema}
    {settings : EngineSettings} {table : String} {params : Params} {o : FindOptions}
    (h : prepared catalog settings table params = .ok o) :
    ∃ schema own requested related relations, catalog table = .ok schema ∧
      readOptions settings schema params = .ok (own, requested, related) ∧
      attachedAll catalog schema related
        (addReferenced requested (Relations.referenced own)) [] = .ok relations ∧
      o = { own with relations } ∧ Validation.checkFind o = .ok () := by
  rw [prepared] at h
  obtain ⟨schema, hschema, h⟩ := exists_of_bind_eq_ok h
  obtain ⟨⟨own, requested, related⟩, hread, h⟩ := exists_of_bind_eq_ok h
  obtain ⟨relations, hrelations, h⟩ := exists_of_bind_eq_ok h
  obtain ⟨_, hcheck, h⟩ := exists_of_bind_eq_ok h
  obtain rfl := Except.ok.inj h
  exact ⟨schema, own, requested, related, relations, hschema, hread, hrelations, rfl, hcheck⟩

/-! ### Relations that are attached -/

section Attached

variable {catalog : String → Except EngineError Schema} {schema : Schema}
  {related : List (String × String)} {requested : List RequestedRelation}
  {before result : List RelationRequest}

theorem exists_of_attached {q : RequestedRelation} {r : RelationRequest}
    (h : attached catalog schema related q = .ok r) :
    ∃ relation relatedSchema, schema.relation? q.table = some relation ∧
      catalog relation.table = .ok relatedSchema ∧
      r = { relation := { relation with schema := some relatedSchema }
            join := q.join
            fields := (related.filter fun pair => pair.1 == relation.table).map (·.2) } := by
  rw [attached] at h
  cases hrelation : schema.relation? q.table with
  | none =>
      rw [hrelation] at h
      cases h
  | some relation =>
      rw [hrelation] at h
      obtain ⟨relatedSchema, hschema, rfl⟩ := exists_of_map_eq_ok h
      exact ⟨relation, relatedSchema, rfl, hschema, rfl⟩

theorem lower_table_of_attached {q : RequestedRelation} {r : RelationRequest}
    (h : attached catalog schema related q = .ok r) :
    Text.lower r.table = Text.lower q.table := by
  obtain ⟨relation, relatedSchema, hrelation, -, rfl⟩ := exists_of_attached h
  exact (Schema.relation?_eq_some hrelation).2

/-- What names add to the relations that are there: each is what a name leads to, and for every name
there is a relation of exactly that table or the one that the name leads to. -/
def Resolved (leads : RequestedRelation → RelationRequest → Prop)
    (requested : List RequestedRelation) (before result : List RelationRequest) : Prop :=
  ∃ new, result = before ++ new ∧ (∀ r ∈ new, ∃ q ∈ requested, leads q r) ∧
    ∀ q ∈ requested, ∃ r ∈ result, r.table = q.table ∨ leads q r

section Resolved

variable {leads : RequestedRelation → RelationRequest → Prop} {first : RequestedRelation}
  {rest : List RequestedRelation}

theorem Resolved.refl (before : List RelationRequest) : Resolved leads [] before before :=
  ⟨[], (List.append_nil _).symm, nofun, nofun⟩

theorem Resolved.skip (hthere : before.any (·.table == first.table) = true)
    (h : Resolved leads rest before result) : Resolved leads (first :: rest) before result := by
  obtain ⟨new, rfl, hnew, hall⟩ := h
  obtain ⟨r, hr, hname⟩ := List.any_eq_true.mp hthere
  refine ⟨new, rfl, fun r hr => ?_, List.forall_mem_cons.mpr ⟨?_, hall⟩⟩
  · obtain ⟨q, hq, hleads⟩ := hnew r hr
    exact ⟨q, List.mem_cons_of_mem first hq, hleads⟩
  · exact ⟨r, List.mem_append_left new hr, .inl (beq_iff_eq.mp hname)⟩

theorem Resolved.add {r : RelationRequest} (hleads : leads first r)
    (h : Resolved leads rest (before ++ [r]) result) :
    Resolved leads (first :: rest) before result := by
  obtain ⟨new, rfl, hnew, hall⟩ := h
  refine ⟨r :: new, by simp, List.forall_mem_cons.mpr ⟨?_, fun r' hr' => ?_⟩,
    List.forall_mem_cons.mpr ⟨?_, hall⟩⟩
  · exact ⟨first, List.mem_cons_self, hleads⟩
  · obtain ⟨q, hq, hleads'⟩ := hnew r' hr'
    exact ⟨q, List.mem_cons_of_mem first hq, hleads'⟩
  · exact ⟨r, by simp, .inr hleads⟩

end Resolved

theorem resolved_of_attachedAll
    (h : attachedAll catalog schema related requested before = .ok result) :
    Resolved (fun q r => attached catalog schema related q = .ok r) requested before result := by
  induction requested generalizing before with
  | nil =>
      obtain rfl := Except.ok.inj h
      exact .refl _
  | cons first rest ih =>
      rw [attachedAll] at h
      split at h
      next hthere => exact (ih h).skip hthere
      next _ =>
        obtain ⟨r, hr, h⟩ := exists_of_bind_eq_ok h
        exact (ih h).add hr

theorem attachedAll_append (first second : List RequestedRelation) (before : List RelationRequest) :
    attachedAll catalog schema related (first ++ second) before =
      attachedAll catalog schema related first before >>=
        attachedAll catalog schema related second := by
  induction first generalizing before with
  | nil => rfl
  | cons q rest ih =>
      rw [List.cons_append, attachedAll, attachedAll]
      split
      · exact ih before
      · cases attached catalog schema related q with
        | error error => rfl
        | ok r => exact ih (before ++ [r])

/-- Names that differ from each other and from the tables that are there are attached one by one. -/
theorem attachedAll_of_fresh
    (hfresh : ∀ q ∈ requested, ∀ r ∈ before, Text.lower r.table ≠ Text.lower q.table)
    (hdistinct : (requested.map fun q => Text.lower q.table).Nodup) :
    attachedAll catalog schema related requested before =
      (requested.mapM (attached catalog schema related)).map (before ++ ·) := by
  induction requested generalizing before with
  | nil => exact congrArg Except.ok (List.append_nil _).symm
  | cons first rest ih =>
      obtain ⟨hfirst, hrest⟩ := List.nodup_cons.mp hdistinct
      have hnone : (before.any fun r => r.table == first.table) = false := by
        rw [List.any_eq_false]
        intro r hr hname
        exact hfresh first List.mem_cons_self r hr (congrArg Text.lower (beq_iff_eq.mp hname))
      rw [attachedAll, hnone, List.mapM_cons]
      cases hattached : attached catalog schema related first with
      | error error => rfl
      | ok r =>
          have hlater : ∀ q ∈ rest, ∀ r' ∈ before ++ [r], Text.lower r'.table ≠ Text.lower q.table := by
            intro q hq r' hr'
            rcases List.mem_append.mp hr' with hr' | hr'
            · exact hfresh q (List.mem_cons_of_mem first hq) r' hr'
            · rw [List.mem_singleton.mp hr', lower_table_of_attached hattached]
              intro heq
              exact hfirst (List.mem_map.mpr ⟨q, hq, heq.symm⟩)
          refine (ih hlater hrest).trans ?_
          change Except.map _ _ = Except.map _ (rest.mapM _ >>= fun others => .ok (r :: others))
          cases rest.mapM (attached catalog schema related) with
          | error error => rfl
          | ok others => exact congrArg Except.ok (by simp)

/-- If two names lead to the same table, the later is spelled as the table is. -/
def SpelledAlike (schema : Schema) (first later : RequestedRelation) : Prop :=
  ∀ r r', schema.relation? first.table = some r → schema.relation? later.table = some r' →
    r.table = r'.table → later.table = r'.table

theorem nodup_attachedAll (hnodup : (before.map (·.table)).Nodup)
    (hbefore : ∀ r ∈ before, ∃ q, attached catalog schema related q = .ok r ∧
      ∀ later ∈ requested, SpelledAlike schema q later)
    (hspelled : requested.Pairwise (SpelledAlike schema))
    (h : attachedAll catalog schema related requested before = .ok result) :
    (result.map (·.table)).Nodup := by
  induction requested generalizing before with
  | nil =>
      obtain rfl := Except.ok.inj h
      exact hnodup
  | cons first rest ih =>
      obtain ⟨hfirst, hrest⟩ := List.pairwise_cons.mp hspelled
      have hlater : ∀ r ∈ before, ∃ q, attached catalog schema related q = .ok r ∧
          ∀ later ∈ rest, SpelledAlike schema q later := by
        intro r hr
        obtain ⟨q, hq, hspelled⟩ := hbefore r hr
        exact ⟨q, hq, fun later hmem => hspelled later (List.mem_cons_of_mem first hmem)⟩
      rw [attachedAll] at h
      split at h
      · exact ih hnodup hlater hrest h
      next hnone =>
        obtain ⟨r, hr, h⟩ := exists_of_bind_eq_ok h
        refine ih ?_ ?_ hrest h
        · rw [List.map_append, List.map_singleton, List.nodup_append]
          refine ⟨hnodup, List.pairwise_singleton _ _, ?_⟩
          rintro name hname _ hlast rfl
          obtain ⟨r', hr', heq⟩ := List.mem_map.mp hname
          have htable : r'.table = r.table := heq.trans (List.mem_singleton.mp hlast)
          -- The name of the new relation would be that of the table that is there.
          obtain ⟨q, hq, hspelled⟩ := hbefore r' hr'
          obtain ⟨relation', _, hfound', -, rfl⟩ := exists_of_attached hq
          obtain ⟨relation, _, hfound, -, rfl⟩ := exists_of_attached hr
          have hsame := hspelled first List.mem_cons_self _ _ hfound' hfound htable
          exact hnone (List.any_eq_true.mpr ⟨_, hr', beq_iff_eq.mpr (htable.trans hsame.symm)⟩)
        · intro r' hr'
          rcases List.mem_append.mp hr' with hr' | hr'
          · exact hlater r' hr'
          · rw [List.mem_singleton.mp hr']
            exact ⟨first, hr, hfirst⟩

/-- If every table is there once in the end, then whatever leads to one that was there before is
spelled as it is. -/
theorem pairwise_spelledAlike
    (hbefore : ∀ r ∈ before, ∃ own, schema.relation? r.table = some own ∧ own.table = r.table)
    (h : attachedAll catalog schema related requested before = .ok result)
    (hnodup : (result.map (·.table)).Nodup) :
    (∀ r ∈ before, ∀ q ∈ requested, ∀ own, schema.relation? q.table = some own →
      r.table = own.table → q.table = own.table) ∧ requested.Pairwise (SpelledAlike schema) := by
  induction requested generalizing before with
  | nil => exact ⟨fun _ _ => List.forall_mem_nil _, .nil⟩
  | cons first rest ih =>
      rw [attachedAll] at h
      split at h
      next hthere =>
        obtain ⟨hnamed, hpairs⟩ := ih hbefore h
        obtain ⟨r, hr, hname⟩ := List.any_eq_true.mp hthere
        have hname : r.table = first.table := beq_iff_eq.mp hname
        have hleads : ∀ own, schema.relation? first.table = some own → first.table = own.table := by
          intro own hown
          obtain ⟨own', hown', htable⟩ := hbefore r hr
          rw [hname, hown] at hown'
          obtain rfl := Option.some.inj hown'
          exact (htable.trans hname).symm
        refine ⟨fun r' hr' => List.forall_mem_cons.mpr
          ⟨fun own hown _ => hleads own hown, hnamed r' hr'⟩, List.pairwise_cons.mpr ⟨?_, hpairs⟩⟩
        intro later hlater own own' hown hown' heq
        exact hnamed r hr later hlater own' hown' ((hname.trans (hleads own hown)).trans heq)
      next _ =>
        obtain ⟨r, hr, h⟩ := exists_of_bind_eq_ok h
        obtain ⟨own, _, hown, -, hattached⟩ := exists_of_attached hr
        have htable : r.table = own.table := congrArg RelationRequest.table hattached
        have hlast : ∃ own, schema.relation? r.table = some own ∧ own.table = r.table :=
          ⟨own, htable ▸ Schema.relation?_table hown, htable.symm⟩
        have hmem : r ∈ before ++ [r] := List.mem_append_right _ List.mem_cons_self
        obtain ⟨hnamed, hpairs⟩ := ih (List.forall_mem_append.mpr
          ⟨hbefore, List.forall_mem_singleton.mpr hlast⟩) h
        obtain ⟨new, rfl, -⟩ := resolved_of_attachedAll h
        have hnew : ∀ r' ∈ before, r'.table ≠ r.table := by
          rw [List.map_append, List.map_append, List.append_assoc] at hnodup
          intro r' hr' heq
          exact (List.nodup_append.mp hnodup).2.2 _ (List.mem_map_of_mem hr') _ List.mem_cons_self heq
        refine ⟨fun r' hr' => List.forall_mem_cons.mpr
          ⟨fun own' hown' heq => ?_, hnamed r' (List.mem_append_left _ hr')⟩,
          List.pairwise_cons.mpr ⟨fun later hlater own' other hown' hother heq => ?_, hpairs⟩⟩
        · obtain rfl := Option.some.inj (hown.symm.trans hown')
          exact absurd (heq.trans htable.symm) (hnew r' hr')
        · obtain rfl := Option.some.inj (hown.symm.trans hown')
          exact hnamed r hmem later hlater other hother (htable.trans heq)

end Attached

/-! ### Relations that only references name -/

/-- Names that are put after those that are there already, each once. -/
theorem exists_foldl_new (names more : List String) :
    ∃ added, more.foldl
        (fun names name => if names.contains name then names else names ++ [name]) names =
          names ++ added ∧
      (∀ name ∈ added, name ∈ more ∧ name ∉ names) ∧ added.Nodup ∧
        ∀ name ∈ more, name ∈ names ++ added := by
  induction more generalizing names with
  | nil => exact ⟨[], (List.append_nil _).symm, nofun, List.nodup_nil, nofun⟩
  | cons first rest ih =>
      rw [List.foldl_cons]
      split
      next hthere =>
        obtain ⟨added, hadded, hof, hnodup, hall⟩ := ih names
        refine ⟨added, hadded, fun name h => ?_, hnodup, List.forall_mem_cons.mpr ⟨?_, hall⟩⟩
        · exact ⟨List.mem_cons_of_mem first (hof name h).1, (hof name h).2⟩
        · exact List.mem_append_left added (List.contains_iff_mem.mp hthere)
      next hnew =>
        obtain ⟨added, hadded, hof, hnodup, hall⟩ := ih (names ++ [first])
        rw [List.append_assoc] at hadded hall
        refine ⟨first :: added, hadded, List.forall_mem_cons.mpr ⟨⟨List.mem_cons_self, ?_⟩, ?_⟩,
          List.nodup_cons.mpr ⟨fun h => ?_, hnodup⟩, List.forall_mem_cons.mpr ⟨by simp, hall⟩⟩
        · exact fun h => hnew (List.contains_iff_mem.mpr h)
        · exact fun name h => ⟨List.mem_cons_of_mem first (hof name h).1,
            fun hthere => (hof name h).2 (List.mem_append_left _ hthere)⟩
        · exact (hof first h).2 (by simp)

/-- The tables of dotted references. -/
def tablesOf (references : List String) : List String :=
  references.filterMap fun reference => (splitReference? reference).map (·.1)

theorem mem_tablesOf {references : List String} {table : String} :
    table ∈ tablesOf references ↔
      ∃ reference ∈ references, ∃ column, splitReference? reference = some (table, column) := by
  simp [tablesOf]

theorem tablesOf_append (first second : List String) :
    tablesOf (first ++ second) = tablesOf first ++ tablesOf second := List.filterMap_append

theorem tablesOf_eq_nil {references : List String}
    (h : ∀ reference ∈ references, splitReference? reference = none) : tablesOf references = [] := by
  rw [tablesOf, List.filterMap_eq_nil_iff]
  intro reference hreference
  rw [h reference hreference]
  rfl

theorem mem_referenced {o : FindOptions} {table : String} :
    table ∈ Relations.referenced o ↔
      table ∈ tablesOf (o.filters.map (·.column) ++ o.sort.map (·.column) ++ o.fields) := by
  obtain ⟨added, hadded, hof, -, hall⟩ := exists_foldl_new []
    (tablesOf (o.filters.map (·.column) ++ o.sort.map (·.column) ++ o.fields))
  rw [Relations.referenced]
  change table ∈ (tablesOf _).foldl _ [] ↔ _
  rw [hadded]
  exact ⟨fun h => (hof table h).1, hall table⟩

/-- The tables that a sort names come after those that are named without it. -/
theorem exists_referenced_sort {o : FindOptions} (hsort : o.sort = [])
    (hfields : ∀ field ∈ o.fields, splitReference? field = none) (sort : List SortCondition) :
    ∃ added, Relations.referenced { o with sort } = Relations.referenced o ++ added ∧
      ∀ table ∈ added, table ∈ tablesOf (sort.map (·.column)) := by
  have hplain : tablesOf o.fields = [] := tablesOf_eq_nil hfields
  obtain ⟨added, hadded, hof, -⟩ :=
    exists_foldl_new (Relations.referenced o) (tablesOf (sort.map (·.column)))
  refine ⟨added, ?_, fun table h => (hof table h).1⟩
  rw [← hadded, Relations.referenced, Relations.referenced]
  change (tablesOf _).foldl _ [] = (tablesOf _).foldl _ ((tablesOf _).foldl _ [])
  simp only [tablesOf_append, hplain, hsort, ← List.foldl_append]
  simp [tablesOf]

/-- What `addReferenced` adds: names of tables that no name before them bears in any letter case. -/
theorem exists_addReferenced (requested : List RequestedRelation) (tables : List String) :
    ∃ added, addReferenced requested tables = requested ++ added ∧
      (∀ q ∈ added, q.table ∈ tables) ∧
      (∀ q ∈ requested, ∀ q' ∈ added, Text.lower q.table ≠ Text.lower q'.table) ∧
      (added.map fun q => Text.lower q.table).Nodup ∧
      ∀ table ∈ tables, ∃ q ∈ requested ++ added, Text.lower q.table = Text.lower table := by
  induction tables generalizing requested with
  | nil => exact ⟨[], (List.append_nil _).symm, nofun, nofun, List.nodup_nil, nofun⟩
  | cons first rest ih =>
      rw [addReferenced, List.foldl_cons, ← addReferenced]
      split
      next hthere =>
        obtain ⟨added, hadded, hof, hfresh, hnodup, hall⟩ := ih requested
        obtain ⟨q, hq, hname⟩ := List.any_eq_true.mp hthere
        refine ⟨added, hadded, fun q hq => List.mem_cons_of_mem first (hof q hq), hfresh, hnodup,
          List.forall_mem_cons.mpr ⟨?_, hall⟩⟩
        exact ⟨q, List.mem_append_left added hq, Text.equalIgnoringCase_iff.mp hname⟩
      next hnone =>
        obtain ⟨added, hadded, hof, hfresh, hnodup, hall⟩ := ih (requested ++ [⟨first, .inner⟩])
        rw [List.append_assoc] at hadded hall
        have hself : ∀ q' ∈ added, Text.lower first ≠ Text.lower q'.table :=
          hfresh ⟨first, .inner⟩ (by simp)
        refine ⟨⟨first, .inner⟩ :: added, hadded, ?_, ?_, ?_, List.forall_mem_cons.mpr ⟨?_, hall⟩⟩
        · exact List.forall_mem_cons.mpr ⟨List.mem_cons_self,
            fun q hq => List.mem_cons_of_mem first (hof q hq)⟩
        · intro q hq
          refine List.forall_mem_cons.mpr ⟨fun heq => ?_, hfresh q (List.mem_append_left _ hq)⟩
          exact hnone (List.any_eq_true.mpr ⟨q, hq, Text.equalIgnoringCase_iff.mpr heq⟩)
        · refine List.nodup_cons.mpr ⟨fun hmem => ?_, hnodup⟩
          obtain ⟨q', hq', heq⟩ := List.mem_map.mp hmem
          exact hself q' hq' heq.symm
        · exact ⟨⟨first, .inner⟩, by simp, rfl⟩

/-! ### What a check has found -/

theorem exists_column_of_resolve {o : FindOptions} {reference : String} {column : Column}
    (h : Validation.resolve o reference = .ok column) : o.column? reference = some column := by
  rw [Validation.resolve] at h
  split at h
  next own hown =>
    rw [hown, Except.ok.inj h]
  next _ => split at h <;> cases h

/-- Every reference of a read that was checked names a column. -/
theorem exists_column_of_checkFind {o : FindOptions} (h : Validation.checkFind o = .ok ()) :
    (∀ p ∈ o.filters, ∃ column, o.column? p.column = some column) ∧
      ∀ s ∈ o.sort, ∃ column, o.column? s.column = some column := by
  rw [Validation.checkFind] at h
  obtain ⟨_, hfilters, h⟩ := exists_of_bind_eq_ok h
  obtain ⟨_, hsort, -⟩ := exists_of_bind_eq_ok h
  refine ⟨fun p hp => ?_, fun s hs => ?_⟩
  · obtain ⟨column, hcolumn, -⟩ := exists_of_bind_eq_ok (forM_eq_ok_iff.mp hfilters p hp)
    exact ⟨column, exists_column_of_resolve hcolumn⟩
  · obtain ⟨column, hcolumn, -⟩ := exists_of_map_eq_ok (forM_eq_ok_iff.mp hsort s hs)
    exact ⟨column, exists_column_of_resolve hcolumn⟩

end Engine

end DataAccess
