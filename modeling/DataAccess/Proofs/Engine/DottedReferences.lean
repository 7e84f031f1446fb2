import DataAccess.Proofs.Engine.Preparation

/-!
# Dotted references of a prepared read

A dotted filter or sort names an attached relation and a column of its schema, or the read is
refused. A dotted field narrows every attached relation of exactly its table, but it attaches none: a
field of a relation that no other name leads to is left out without a word, and nobody looks whether
its column exists.
-/

namespace DataAccess

open Dialogue

/-- A table that a relation leads to is found under its own name. -/
theorem Schema.exists_relation?_of_mem {s : Schema} {r : Relation} (h : r ∈ s.relations) :
    ∃ own, s.relation? r.table = some own ∧ own.table = r.table := by
  rw [relation?]
  cases hfind : s.relations.find? fun own => own.table == r.table with
  | some own =>
      have hname := List.find?_some hfind
      exact ⟨own, rfl, beq_iff_eq.mp hname⟩
  | none => exact absurd (beq_self_eq_true _) (List.find?_eq_none.mp hfind r h)

namespace Engine

/-! ### Attaching from a store that may change -/

section Attached

variable {schema : Schema} {related : List (String × String)} {label : String} {σ : Type}
  {responder : Responder StoreCall StoreCall.Answer σ} {state after : σ}

/-- The relation that a name leads to, with whatever the store gave as the schema of its table. -/
def LeadsTo (schema : Schema) (related : List (String × String)) (q : RequestedRelation)
    (r : RelationRequest) : Prop :=
  ∃ own : Schema, attached (fun _ => .ok own) schema related q = .ok r

theorem LeadsTo.exists_relation {q : RequestedRelation} {r : RelationRequest}
    (h : LeadsTo schema related q r) :
    ∃ relation, schema.relation? q.table = some relation ∧ relation.table = r.table := by
  obtain ⟨own, hattached⟩ := h
  obtain ⟨relation, _, hrelation, -, rfl⟩ := exists_of_attached hattached
  exact ⟨relation, hrelation, rfl⟩

theorem LeadsTo.exists_relation_table {q : RequestedRelation} {r : RelationRequest}
    (h : LeadsTo schema related q r) :
    ∃ relation, schema.relation? r.table = some relation ∧ relation.table = r.table := by
  obtain ⟨relation, hrelation, htable⟩ := h.exists_relation
  rw [← htable]
  exact Schema.exists_relation?_of_mem (Schema.relation?_eq_some hrelation).1

/-- What is attached has a schema and the fields that are named under its table. -/
theorem LeadsTo.schema_and_fields {q : RequestedRelation} {r : RelationRequest}
    (h : LeadsTo schema related q r) : r.schema?.isSome = true ∧
      r.fields = (related.filter fun pair => pair.1 == r.table).map (·.2) := by
  obtain ⟨own, hattached⟩ := h
  obtain ⟨relation, _, -, -, rfl⟩ := exists_of_attached hattached
  exact ⟨rfl, rfl⟩

theorem leadsTo_of_run_attach {q : RequestedRelation} {r : RelationRequest}
    (h : (attach label schema related q).run responder state = (.ok r, after)) :
    LeadsTo schema related q r := by
  obtain ⟨relation, own, _, _, hrelation, -, -, rfl⟩ := exists_of_run_attach h
  refine ⟨own, ?_⟩
  rw [attached, hrelation]
  rfl

theorem resolved_of_run_attachAll {requested : List RequestedRelation}
    {before result : List RelationRequest}
    (h : (attachAll label schema related requested before).run responder state =
      (.ok result, after)) :
    Resolved (LeadsTo schema related) requested before result := by
  induction requested generalizing before state with
  | nil =>
      obtain ⟨rfl, -⟩ := eq_of_run_done _ h
      exact .refl _
  | cons first rest ih =>
      rw [attachAll] at h
      split at h
      next hthere => exact (ih h).skip hthere
      next _ =>
        obtain ⟨r, middle, hr, h⟩ := exists_of_run_bind_eq_ok _ h
        exact (ih h).add (leadsTo_of_run_attach hr)

end Attached

/-! ### What becomes of a reference -/

/-- The names of the relations that parameters ask for. -/
def requestedNames (schema : Schema) (params : Params) : List String :=
  match directive (Reading.relations schema) [] (params.get? "relations") with
  | .ok requested => requested.map (·.table)
  | .error _ => []

/-- The names that lead a read to its relations: those that are asked for, and the tables of dotted
filters and sorts. -/
def relationNames (params : Params) (o : FindOptions) : List String :=
  requestedNames o.schema params ++ tablesOf (o.filters.map (·.column) ++ o.sort.map (·.column))

/-- A field of a relation that was checked is a column of the relation's schema. -/
theorem hasColumn_of_checkFind {o : FindOptions} (h : Validation.checkFind o = .ok ())
    {r : RelationRequest} (hr : r ∈ o.relations) {own : Schema} (hown : r.schema? = some own)
    {field : String} (hfield : field ∈ r.fields) : own.hasColumn field = true := by
  rw [Validation.checkFind] at h
  obtain ⟨_, -, h⟩ := exists_of_bind_eq_ok h
  obtain ⟨_, -, h⟩ := exists_of_bind_eq_ok h
  obtain ⟨_, -, h⟩ := exists_of_bind_eq_ok h
  have hchecked := forM_eq_ok_iff.mp (forM_eq_ok_iff.mp h r hr) field hfield
  simp only [Validation.checkRelatedField, hown] at hchecked
  split at hchecked
  next hcolumn => exact hcolumn
  next _ => cases hchecked

section Prepared

variable {settings : EngineSettings} {label table : String} {params : Params} {o : FindOptions}
  {σ : Type} {responder : Responder StoreCall StoreCall.Answer σ} {state after : σ}

/-- What a prepared read takes from its parameters. -/
theorem readings_of_run_prepareFind
    (h : (prepareFind settings label table params).run responder state = (.ok o, after)) :
    Reading.filters o.schema params = .ok o.filters ∧
      directive (Reading.sort o.schema) [] (params.get? "sort") = .ok o.sort := by
  obtain ⟨own, requested, related, _, -, hread, -, ho, -⟩ := exists_of_run_prepareFind h
  obtain ⟨filters, sort, fields, position, hfilters, hsort, -, -, -, rfl, -⟩ :=
    exists_of_readOptions hread
  rw [ho]
  exact ⟨hfilters, hsort⟩

/-- Every dotted filter and sort of a prepared read names a relation of it and a column there. -/
theorem exists_request_of_run_prepareFind
    (h : (prepareFind settings label table params).run responder state = (.ok o, after))
    {reference name column : String}
    (hreference : reference ∈ o.filters.map (·.column) ++ o.sort.map (·.column))
    (hsplit : splitReference? reference = some (name, column)) :
    ∃ r own, o.request? name = some r ∧ r.schema? = some own ∧ own.hasColumn column = true := by
  obtain ⟨_, _, _, _, -, -, -, -, hcheck⟩ := exists_of_run_prepareFind h
  obtain ⟨hfilters, hsort⟩ := exists_column_of_checkFind hcheck
  have hcolumn : ∃ found, o.column? reference = some found := by
    rcases List.mem_append.mp hreference with hmem | hmem
    · obtain ⟨p, hp, rfl⟩ := List.mem_map.mp hmem
      exact hfilters p hp
    · obtain ⟨s, hs, rfl⟩ := List.mem_map.mp hmem
      exact hsort s hs
  obtain ⟨found, hfound⟩ := hcolumn
  rw [FindOptions.column?, hsplit] at hfound
  obtain ⟨r, hr, hfound⟩ := Option.bind_eq_some_iff.mp hfound
  obtain ⟨own, hown, hfound⟩ := Option.bind_eq_some_iff.mp hfound
  exact ⟨r, own, hr, hown, Option.isSome_iff_exists.mpr ⟨found, hfound⟩⟩

/-- Every relation of a prepared read is one that a name leads to. -/
theorem leadsTo_of_run_prepareFind
    (h : (prepareFind settings label table params).run responder state = (.ok o, after))
    {r : RelationRequest} (hr : r ∈ o.relations) :
    ∃ q, q.table ∈ relationNames params o ∧
      LeadsTo o.schema ((namedFields params).filterMap splitReference?) q r := by
  obtain ⟨own, requested, related, _, -, hread, hattached, ho, -⟩ := exists_of_run_prepareFind h
  obtain ⟨filters, sort, fields, position, -, -, hfields, hrequested, -, hown, rfl⟩ :=
    exists_of_readOptions hread
  obtain rfl := eq_ofList_of_directive hfields
  rw [related_ofList] at hattached
  obtain ⟨new, hnew, hleads, -⟩ := resolved_of_run_attachAll hattached
  rw [List.nil_append] at hnew
  obtain ⟨q, hq, hqr⟩ := hleads r (hnew ▸ hr)
  refine ⟨q, ?_, hqr⟩
  obtain ⟨added, hadded, hof, -⟩ := exists_addReferenced requested (Relations.referenced own)
  rw [hadded] at hq
  rw [relationNames, requestedNames, hrequested]
  rcases List.mem_append.mp hq with hq | hq
  · exact List.mem_append_left _ (List.mem_map_of_mem hq)
  · refine List.mem_append_right _ ?_
    have htable := mem_referenced.mp (hof q hq)
    rw [tablesOf_append _ own.fields] at htable
    have hplain : tablesOf own.fields = [] := by
      refine tablesOf_eq_nil fun field hfield => ?_
      rw [hown] at hfield
      exact splitReference?_of_mem_base hfield
    rw [hplain, List.append_nil] at htable
    rw [ho]
    exact htable

/-- No name that leads to a relation is lost. -/
theorem exists_relation_of_run_prepareFind
    (h : (prepareFind settings label table params).run responder state = (.ok o, after))
    {name : String} (hname : name ∈ relationNames params o) :
    ∃ r ∈ o.relations, ∃ relation,
      o.schema.relation? name = some relation ∧ relation.table = r.table := by
  rcases List.mem_append.mp hname with hname | hname
  · obtain ⟨own, requested, related, _, -, hread, hattached, -, -⟩ := exists_of_run_prepareFind h
    obtain ⟨filters, sort, fields, position, -, -, -, hrequested, -, -, -⟩ :=
      exists_of_readOptions hread
    rw [requestedNames, hrequested] at hname
    obtain ⟨q, hq, rfl⟩ := List.mem_map.mp hname
    obtain ⟨added, hadded, -⟩ := exists_addReferenced requested (Relations.referenced own)
    obtain ⟨new, hnew, hleads, hall⟩ := resolved_of_run_attachAll hattached
    rw [hadded] at hall
    obtain ⟨r, hr, htable | hqr⟩ := hall q (List.mem_append_left added hq)
    · obtain ⟨_, -, hr'⟩ := leadsTo_of_run_prepareFind h hr
      obtain ⟨relation, hrelation, hsame⟩ := hr'.exists_relation_table
      exact ⟨r, hr, relation, htable ▸ hrelation, hsame⟩
    · obtain ⟨relation, hrelation, hsame⟩ := hqr.exists_relation
      exact ⟨r, hr, relation, hrelation, hsame⟩
  · obtain ⟨reference, hreference, column, hsplit⟩ := mem_tablesOf.mp hname
    obtain ⟨r, _, hrequest, -, -⟩ := exists_request_of_run_prepareFind h hreference hsplit
    obtain ⟨hr, rfl⟩ := FindOptions.request?_eq_some hrequest
    obtain ⟨_, -, hleads⟩ := leadsTo_of_run_prepareFind h hr
    obtain ⟨relation, hrelation, hsame⟩ := hleads.exists_relation_table
    exact ⟨r, hr, relation, hrelation, hsame⟩

/-- A dotted field is fetched from every attached relation of its table. -/
theorem mem_projected_of_run_prepareFind
    (h : (prepareFind settings label table params).run responder state = (.ok o, after))
    {entry name column : String} (hentry : entry ∈ namedFields params)
    (hsplit : splitReference? entry = some (name, column)) {r : RelationRequest}
    (hr : r ∈ o.relations) (hname : r.table = name) : column ∈ r.projected.map (·.field) := by
  obtain ⟨_, _, _, _, -, -, -, -, hcheck⟩ := exists_of_run_prepareFind h
  obtain ⟨q, -, hleads⟩ := leadsTo_of_run_prepareFind h hr
  obtain ⟨hattached, hfields⟩ := hleads.schema_and_fields
  obtain ⟨own, hown⟩ := Option.isSome_iff_exists.mp hattached
  have hfield : column ∈ r.fields := by
    rw [hfields]
    refine List.mem_map.mpr ⟨(name, column), List.mem_filter.mpr ⟨?_, beq_iff_eq.mpr hname.symm⟩, rfl⟩
    exact List.mem_filterMap.mpr ⟨entry, hentry, hsplit⟩
  rw [RelationRequest.projected, hown]
  obtain ⟨column, hcolumn⟩ :=
    Option.isSome_iff_exists.mp (hasColumn_of_checkFind hcheck hr hown hfield)
  rw [← (Schema.column?_eq_some hcolumn).2]
  exact List.mem_map_of_mem (Schema.mem_select_of_column? hcolumn (.inr hfield))

/-- **What becomes of a dotted reference.** A dotted filter or sort of a prepared read names an
attached relation and a column of its schema. A dotted field is fetched from every attached relation
of its table, and there is one exactly if a name other than that of the field leads to the table. -/
theorem dotted_references {σ : Type} (responder : Responder StoreCall StoreCall.Answer σ)
    (settings : EngineSettings) (label table : String) (params : Params) (o : FindOptions)
    (state after : σ)
    (h : (prepareFind settings label table params).run responder state = (.ok o, after)) :
    (Reading.filters o.schema params = .ok o.filters ∧
      directive (Reading.sort o.schema) [] (params.get? "sort") = .ok o.sort) ∧
    (∀ reference ∈ o.filters.map (·.column) ++ o.sort.map (·.column), ∀ name column,
      splitReference? reference = some (name, column) →
      ∃ r own, o.request? name = some r ∧ r.schema? = some own ∧ own.hasColumn column = true) ∧
    ∀ entry ∈ namedFields params, ∀ name column, splitReference? entry = some (name, column) →
      (∀ r ∈ o.relations, r.table = name → column ∈ r.projected.map (·.field)) ∧
      ((∃ r ∈ o.relations, r.table = name) ↔ ∃ asked ∈ relationNames params o, ∃ relation,
        o.schema.relation? asked = some relation ∧ relation.table = name) := by
  refine ⟨readings_of_run_prepareFind h, fun reference hreference name column hsplit =>
    exists_request_of_run_prepareFind h hreference hsplit, fun entry hentry name column hsplit =>
    ⟨fun r hr hname => mem_projected_of_run_prepareFind h hentry hsplit hr hname, ?_, ?_⟩⟩
  · rintro ⟨r, hr, rfl⟩
    obtain ⟨q, hq, hleads⟩ := leadsTo_of_run_prepareFind h hr
    exact ⟨q.table, hq, hleads.exists_relation⟩
  · rintro ⟨asked, hasked, relation, hrelation, rfl⟩
    obtain ⟨r, hr, found, hfound, hsame⟩ := exists_relation_of_run_prepareFind h hasked
    obtain rfl := Option.some.inj (hrelation.symm.trans hfound)
    exact ⟨r, hr, hsame.symm⟩

end Prepared

/-- Orders, each of a customer. -/
def ordersAndCustomers : List Schema :=
  [(Schema.ofColumns "orders"
      [(Column.ofType "id" .number).asPrimary, Column.ofType "customer" .number]).addRelation
      (.link "customers" "id" "orders" "customer"),
    Schema.ofColumns "customers"
      [(Column.ofType "id" .number).asPrimary, Column.ofType "name" .string]]

def prepareOrders (params : Params) : Except EngineError FindOptions :=
  StoreCall.runWith ordersAndCustomers (prepareFind .standard "-" "orders" params)

/-- Orders by the name of their customer, which is fetched too. -/
def byCustomer : Params := [("customers.name[like]", "A%"), ("fields", "id,customers.name")]

/-- A dotted field is fetched, a filter on its table having attached the relation. -/
theorem dotted_references_customers :
    ∃ o, prepareOrders byCustomer = .ok o ∧
      (∃ r own, o.request? "customers" = some r ∧ r.schema? = some own ∧
        own.hasColumn "name" = true) ∧
      (∀ r ∈ o.relations, r.table = "customers" → "name" ∈ r.projected.map (·.field)) ∧
      ∃ r ∈ o.relations, r.table = "customers" := by
  obtain ⟨o, ho⟩ : ∃ o, prepareOrders byCustomer = .ok o := ⟨_, rfl⟩
  have hread : (prepareOrders byCustomer).toOption.map (fun o =>
      (o.filters.map (·.column) ++ o.sort.map (·.column), relationNames byCustomer o,
        (o.schema.relation? "customers").map (·.table))) =
      some (["customers.name"], ["customers"], some "customers") := by
    decide +kernel
  rw [ho] at hread
  obtain ⟨hreferences, hread⟩ := Prod.mk.inj (Option.some.inj hread)
  obtain ⟨hnames, hrelation⟩ := Prod.mk.inj hread
  obtain ⟨relation, hrelation, htable⟩ := Option.map_eq_some_iff.mp hrelation
  obtain ⟨-, hsorted, hfields⟩ := dotted_references (knowing ordersAndCustomers) .standard "-" "orders"
    byCustomer o () () (Prod.ext ho rfl)
  obtain ⟨hprojected, hattached⟩ := hfields "customers.name" (by decide +kernel) "customers" "name"
    (by decide)
  exact ⟨o, ho, hsorted "customers.name" (by rw [hreferences]; decide) "customers" "name" (by decide),
    hprojected, hattached.mpr ⟨"customers", by rw [hnames]; decide, relation, hrelation, htable⟩⟩

/-- A dotted field that is alone in naming a relation is left out, even if its column does not exist,
and so is one whose table is spelled in another letter case. -/
theorem dotted_fields_left_out :
    (prepareOrders [("fields", "id,customers.name")]).toOption.map (·.relations.map (·.table)) =
      some [] ∧
    (prepareOrders [("fields", "id,customers.size")]).toOption.map (·.relations.map (·.table)) =
      some [] ∧
    (prepareOrders [("relations", "customers"), ("fields", "customers.id,Customers.name")]).toOption.map
      (·.relations.map fun r => (r.table, r.projected.map (·.field))) = some [("customers", ["id"])] := by
  decide +kernel

end Engine

end DataAccess
