import DataAccess.Proofs.Dialogue.Simulation
import DataAccess.Proofs.Document.Inference
import DataAccess.Proofs.Engine.Authorization

/-!
# Restricted reads

A restricted read of a document store is the read without the restriction of what the restriction
shows. The two runs are compared call by call: both only read, and what they read is alike.
-/

namespace DataAccess

open Dialogue

namespace DocumentStore

variable {s : DocumentStore} {now : Timestamp} {label : String} {m m' : DocumentMemory}

theorem run_call (c : StoreCall) (m : DocumentMemory) :
    (StoreDialogue.call c).run (s.responder now label) m =
      (s.carryOut label c).run (DocumentMemory.responder now) m := by
  rw [StoreDialogue.call, run_bind]
  exact run_ofExcept _ _ _

theorem run_getSchema_call (table : String) (m : DocumentMemory) :
    (StoreDialogue.call (.getSchema table)).run (s.responder now label) m =
      (s.inferred m table, m) := by
  rw [run_call]
  exact s.run_getSchema m table

theorem call_alike (c c' : StoreCall) {R : c.Result → c'.Result → Prop}
    (h : ReadAlike (DocumentMemory.responder now) m m' R (s.carryOut label c)
      (s.carryOut label c')) :
    ReadAlike (s.responder now label) m m' R (StoreDialogue.call c) (StoreDialogue.call c') := by
  refine ⟨?_, ?_, ?_⟩
  · rw [run_call, run_call]
    exact h.results
  · rw [run_call]
    exact h.state
  · rw [run_call]
    exact h.state'

theorem debug_bind_alike {α β : Type} {R : α → β → Prop} (text text' : String)
    {next : Unit → DocumentDialogue α} {next' : Unit → DocumentDialogue β}
    (h : ReadAlike (DocumentMemory.responder now) m m' R (next ()) (next' ())) :
    ReadAlike (DocumentMemory.responder now) m m' R (s.debug label text >>= next)
      (s.debug label text' >>= next') :=
  ReadAlike.note DocumentMemory.quiet_responder _ _ h

theorem logged_find_alike {operation operation' detail detail' : String} {q q' : DocumentQuery}
    (h : m.find q = m'.find q') :
    ReadAlike (DocumentMemory.responder now) m m' Eq
      (s.logged label operation detail (.find q)) (s.logged label operation' detail' (.find q')) :=
  ReadAlike.of_run (.ok (m.find q)) (.ok (m'.find q')) rfl rfl (.ok h)

end DocumentStore

/-! ### The visible part of a memory -/

/-- What a restriction shows of a table: the restriction's condition can be read, and the memory is
cut down to the documents that match it, which leaves the schema of the table as it is. -/
structure Shows (s : DocumentStore) (table : String) (r : Restriction) (schema : Schema)
    (visible : Record) (m : DocumentMemory) : Prop where
  inferred : s.inferred m table = .ok schema
  condition : Document.filter schema [r.predicate] = .ok visible
  inferred_visiblePart : s.inferred (m.visiblePart table visible) table = .ok schema

/-- Requests for relations that differ at most in the links of the related schemas, which are the
schemas of the related tables. -/
def RelationsAlike (relations relations' : List RelationRequest) : Prop :=
  relations.map RelationRequest.unlinked = relations'.map RelationRequest.unlinked ∧
    ∀ q ∈ relations, ∀ related, q.schema? = some related → related.table = q.table

/-- Reads of a schema that differ at most in the links of the related schemas. -/
structure OptionsAlike (schema : Schema) (o o' : FindOptions) : Prop where
  unlinked : o.unlinked = o'.unlinked
  of_schema : o.schema = schema
  relations : RelationsAlike o.relations o'.relations

namespace Shows

variable {s : DocumentStore} {now : Timestamp} {label : String} {table : String} {r : Restriction}
  {schema : Schema} {visible : Record} {m : DocumentMemory}

theorem table_eq (h : Shows s table r schema visible m) : schema.table = table :=
  (DocumentStore.infers_of_inferred h.inferred).table_eq

/-! ### Schemas and relations -/

theorem getSchema_alike (h : Shows s table r schema visible m) :
    ReadAlike (s.responder now label) m (m.visiblePart table visible)
      (fun a b => a = schema ∧ b = schema) (StoreDialogue.call (.getSchema table))
      (StoreDialogue.call (.getSchema table)) := by
  refine DocumentStore.call_alike (.getSchema table) (.getSchema table)
    (ReadAlike.of_run _ _ (s.run_getSchema m table)
      (s.run_getSchema (m.visiblePart table visible) table) ?_)
  rw [h.inferred, h.inferred_visiblePart]
  exact .ok ⟨rfl, rfl⟩

/-- Schemas of other tables may differ in their links, for the registry may be the table itself. -/
theorem related_getSchema_alike (h : Shows s table r schema visible m) (other : String) :
    ReadAlike (s.responder now label) m (m.visiblePart table visible)
      (fun a b => a.unlinked = b.unlinked ∧ a.table = other)
      (StoreDialogue.call (.getSchema other)) (StoreDialogue.call (.getSchema other)) := by
  refine DocumentStore.call_alike (.getSchema other) (.getSchema other)
    (ReadAlike.of_run _ _ (s.run_getSchema m other)
      (s.run_getSchema (m.visiblePart table visible) other) ?_)
  have hunlinked : (s.inferred m other).map Schema.unlinked =
      (s.inferred (m.visiblePart table visible) other).map Schema.unlinked := by
    by_cases hother : other = table
    · rw [hother, h.inferred, h.inferred_visiblePart]
    · exact DocumentStore.unlinked_inferred_congr (m.names_visiblePart table visible).symm
        (DocumentMemory.documents_visiblePart_of_ne hother).symm
  exact (ResultsAlike.of_map_eq hunlinked).mono fun a b ha hab =>
    ⟨hab, (DocumentStore.infers_of_inferred ha).table_eq⟩

theorem attach_alike (h : Shows s table r schema visible m) (tag : String)
    (related : List (String × String)) (requested : RequestedRelation) :
    ReadAlike (s.responder now label) m (m.visiblePart table visible)
      (fun q q' => q.unlinked = q'.unlinked ∧
        ∀ related, q.schema? = some related → related.table = q.table)
      (Engine.attach tag schema related requested) (Engine.attach tag schema related requested) := by
  rw [Engine.attach]
  cases schema.relation? requested.table with
  | none => exact ReadAlike.fail _
  | some relation =>
      refine (h.related_getSchema_alike relation.table).bind fun a b _ hab => ?_
      refine ReadAlike.note DocumentStore.quiet_responder _ _ (ReadAlike.done ⟨?_, ?_⟩)
      · simp only [RelationRequest.unlinked, Option.map_some, hab.1]
      · rintro _ ⟨⟩
        exact hab.2

theorem attachAll_alike (h : Shows s table r schema visible m) (tag : String)
    (related : List (String × String)) (requested : List RequestedRelation)
    {attached attached' : List RelationRequest} (hattached : RelationsAlike attached attached') :
    ReadAlike (s.responder now label) m (m.visiblePart table visible) RelationsAlike
      (Engine.attachAll tag schema related requested attached)
      (Engine.attachAll tag schema related requested attached') := by
  induction requested generalizing attached attached' with
  | nil => exact ReadAlike.done hattached
  | cons first rest ih =>
      have hany : (attached.any fun q => q.table == first.table) =
          attached'.any fun q => q.table == first.table := by
        have hmap : ∀ relations : List RelationRequest,
            (relations.any fun q => q.table == first.table) =
              (relations.map RelationRequest.unlinked).any fun q => q.table == first.table :=
          fun relations => by
            rw [List.any_map]
            rfl
        rw [hmap, hattached.1, ← hmap]
      rw [Engine.attachAll, Engine.attachAll, hany]
      split
      · exact ih hattached
      refine (h.attach_alike tag related first).bind fun q q' _ hq => ih ⟨?_, ?_⟩
      · rw [List.map_append, List.map_append, hattached.1, List.map_singleton, hq.1,
          List.map_singleton]
      · intro other hother
        rcases List.mem_append.mp hother with hother | hother
        · exact hattached.2 other hother
        · obtain rfl := List.mem_singleton.mp hother
          exact hq.2

theorem prepareFind_alike (h : Shows s table r schema visible m) (settings : EngineSettings)
    (tag : String) (params : Params) :
    ReadAlike (s.responder now label) m (m.visiblePart table visible) (OptionsAlike schema)
      (Engine.prepareFind settings tag table params)
      (Engine.prepareFind settings tag table params) := by
  rw [Engine.prepareFind]
  refine h.getSchema_alike.bind fun a b _ hab => ?_
  rw [hab.1, hab.2]
  cases hread : Engine.readOptions settings schema params with
  | error error => exact ReadAlike.fail error
  | ok read =>
      obtain ⟨options, requested, related⟩ := read
      have hschema := (Engine.readOptions_ok hread).1
      refine (h.attachAll_alike tag related _ ⟨rfl, by simp⟩).bind
        fun relations relations' _ hrelations => ?_
      have hunlinked : ({ options with relations := relations } : FindOptions).unlinked =
          ({ options with relations := relations' } : FindOptions).unlinked := by
        simp only [FindOptions.unlinked, hrelations.1]
      -- Links are not checked, so both sides pass or fail the same check.
      have hcheck : Validation.checkFind { options with relations := relations } =
          Validation.checkFind { options with relations := relations' } := by
        rw [← Validation.checkFind_unlinked, hunlinked, Validation.checkFind_unlinked]
      dsimp only
      rw [hcheck]
      cases Validation.checkFind { options with relations := relations' } with
      | error error => exact ReadAlike.fail error
      | ok _ => exact ReadAlike.done ⟨hunlinked, hschema, hrelations⟩

/-! ### Rows of the table -/

theorem query_alike (h : Shows s table r schema visible m) {o o' : FindOptions}
    (ho : OptionsAlike schema o o') :
    ResultsAlike (fun q q' => m.find q = (m.visiblePart table visible).find q')
      (DocumentStore.query { o with filters := Restriction.addTo (some r) o.filters })
      (DocumentStore.query o') := by
  have hprojection : DocumentStore.projection o = DocumentStore.projection o' := by
    rw [← DocumentStore.projection_unlinked, ho.unlinked, DocumentStore.projection_unlinked]
  have htable : o.table = table := by rw [FindOptions.table, ho.of_schema, h.table_eq]
  have hfilter := Document.filter_append o.filters h.condition
  rw [← ho.of_schema] at hfilter
  rw [FindOptions.eq_of_unlinked_eq ho.unlinked] at hprojection ⊢
  refine hfilter.map fun narrowed filter hnarrowed => ?_
  rw [← hprojection]
  exact DocumentMemory.find_visiblePart htable rfl hnarrowed

theorem fetchRows_alike (h : Shows s table r schema visible m) {o o' : FindOptions}
    (ho : OptionsAlike schema o o') :
    ReadAlike (DocumentMemory.responder now) m (m.visiblePart table visible) Eq
      (s.fetchRows label { o with filters := Restriction.addTo (some r) o.filters })
      (s.fetchRows label o') := by
  have hschema : o'.schema = o.schema := by rw [FindOptions.eq_of_unlinked_eq ho.unlinked]
  refine (ReadAlike.ofExcept (h.query_alike ho)).bind fun q q' _ hfind => ?_
  refine DocumentStore.debug_bind_alike _ _ ?_
  refine (DocumentStore.logged_find_alike hfind).bind fun rows rows' _ hrows => ReadAlike.done ?_
  rw [hrows, hschema]

theorem countRows_alike (h : Shows s table r schema visible m) {o o' : FindOptions}
    (ho : OptionsAlike schema o o') :
    ReadAlike (DocumentMemory.responder now) m (m.visiblePart table visible) Eq
      (s.countRows label { o with filters := Restriction.addTo (some r) o.filters })
      (s.countRows label o') := by
  have htable : o.table = table := by rw [FindOptions.table, ho.of_schema, h.table_eq]
  have hfilter := Document.filter_append o.filters h.condition
  rw [← ho.of_schema] at hfilter
  rw [FindOptions.eq_of_unlinked_eq ho.unlinked]
  refine (ReadAlike.ofExcept hfilter).bind fun narrowed filter _ hnarrowed => ?_
  refine DocumentStore.debug_bind_alike _ _ ?_
  refine ReadAlike.of_run (.ok (m.count o.table narrowed))
    (.ok ((m.visiblePart table visible).count o.table filter)) rfl rfl (.ok ?_)
  rw [← htable]
  exact DocumentMemory.count_visiblePart hnarrowed

/-! ### Rows of related tables -/

/-- A lookup of another table finds the same, for it reads no links. -/
theorem lookup_alike {a b : Schema} (hunlinked : a.unlinked = b.unlinked) (htable : a.table ≠ table)
    (fields : List String) (filters : List Predicate) (limit : Nat) :
    ReadAlike (DocumentMemory.responder now) m (m.visiblePart table visible) Eq
      (s.fetchRows label { FindOptions.ofSchema a with fields, filters, limit })
      (s.fetchRows label { FindOptions.ofSchema b with fields, filters, limit }) := by
  have hquery :
      DocumentStore.query { FindOptions.ofSchema a with fields, filters, limit } =
        DocumentStore.query { FindOptions.ofSchema b with fields, filters, limit } := by
    have hfilter : Document.filter a filters = Document.filter b filters := by
      rw [← Document.filter_unlinked, hunlinked, Document.filter_unlinked]
    simp only [DocumentStore.query, FindOptions.ofSchema, FindOptions.table, hfilter,
      Schema.table_eq_of_unlinked_eq hunlinked]
    rfl
  have hrow : DocumentStore.callerRow a = DocumentStore.callerRow b := by
    funext document
    rw [← DocumentStore.callerRow_unlinked, hunlinked, DocumentStore.callerRow_unlinked]
  rw [DocumentStore.fetchRows, DocumentStore.fetchRows, ← hquery]
  cases hread : DocumentStore.query { FindOptions.ofSchema a with fields, filters, limit } with
  | error error => exact ReadAlike.fail error
  | ok q =>
      obtain ⟨filter, -, rfl⟩ := exists_of_map_eq_ok hread
      refine DocumentStore.debug_bind_alike _ _ ?_
      refine (DocumentStore.logged_find_alike
        (DocumentMemory.find_visiblePart_of_ne htable)).bind fun rows rows' _ hrows => ?_
      refine ReadAlike.done ?_
      rw [hrows]
      exact congrArg (rows'.map ·) hrow

theorem relatedRows_alike {q q' : RelationRequest} (hunlinked : q.unlinked = q'.unlinked)
    (hof : ∀ related, q.schema? = some related → related.table = q.table) (hne : q.table ≠ table)
    (limit : Nat) (row : Record) :
    ReadAlike (DocumentMemory.responder now) m (m.visiblePart table visible) Eq
      (Relations.relatedRows label limit (s.fetchRows label) row q)
      (Relations.relatedRows label limit (s.fetchRows label) row q') := by
  have hcolumn : q'.relation.orgColumn = q.relation.orgColumn :=
    congrArg (fun q => q.relation.orgColumn) hunlinked.symm
  have hlookup : (q'.fields, q'.relation.column) = (q.fields, q.relation.column) :=
    congrArg (fun q => (q.fields, q.relation.column)) hunlinked.symm
  obtain ⟨hfields, hjoin⟩ := Prod.mk.inj hlookup
  have hschemas : q.schema?.map Schema.unlinked = q'.schema?.map Schema.unlinked :=
    congrArg RelationRequest.schema? hunlinked
  rw [Relations.relatedRows, Relations.relatedRows, hcolumn]
  split
  · exact ReadAlike.done rfl
  · exact ReadAlike.done rfl
  next key _ _ =>
    simp only [Relations.lookupOptions, hfields, hjoin]
    cases hq : q.schema? with
    | none =>
      cases hq' : q'.schema? with
      | none => exact ReadAlike.done rfl
      | some b => simp [hq, hq'] at hschemas
    | some a =>
      cases hq' : q'.schema? with
      | none => simp [hq, hq'] at hschemas
      | some b =>
          rw [hq, hq'] at hschemas
          have hab : a.unlinked = b.unlinked := Option.some.inj hschemas
          have htable : a.table ≠ table := by rw [hof a hq]; exact hne
          refine (lookup_alike hab htable _ _ _).attempt.bind fun x x' _ hx => ?_
          rw [hx.eq]
          cases x' with
          | ok rows => exact ReadAlike.done rfl
          | error error => exact ReadAlike.note DocumentMemory.quiet_responder _ _ (ReadAlike.done rfl)

theorem expandRow_alike {relations relations' : List RelationRequest}
    (hrelations : RelationsAlike relations relations') (hne : ∀ q ∈ relations, q.table ≠ table)
    (limit : Nat) (row : Record) :
    ReadAlike (DocumentMemory.responder now) m (m.visiblePart table visible) Eq
      (Relations.expandRow label limit (s.fetchRows label) row relations)
      (Relations.expandRow label limit (s.fetchRows label) row relations') := by
  induction relations generalizing relations' row with
  | nil =>
      obtain rfl := List.map_eq_nil_iff.mp hrelations.1.symm
      exact ReadAlike.done rfl
  | cons q rest ih =>
      cases relations' with
      | nil => exact absurd hrelations.1 (by simp)
      | cons q' rest' =>
          obtain ⟨hq, hrest⟩ := List.cons.inj hrelations.1
          have htable : q.table = q'.table := congrArg (fun q => q.relation.table) hq
          rw [Relations.expandRow, Relations.expandRow]
          refine (relatedRows_alike hq (hrelations.2 q List.mem_cons_self)
            (hne q List.mem_cons_self) limit row).bind fun rows rows' _ hrows => ?_
          rw [hrows, htable]
          exact ih ⟨hrest, fun p hp => hrelations.2 p (List.mem_cons_of_mem q hp)⟩
            (fun p hp => hne p (List.mem_cons_of_mem q hp)) _

theorem expandRows_alike {relations relations' : List RelationRequest}
    (hrelations : RelationsAlike relations relations') (hne : ∀ q ∈ relations, q.table ≠ table)
    (limit : Nat) (rows : List Record) :
    ReadAlike (DocumentMemory.responder now) m (m.visiblePart table visible) Eq
      (Relations.expandRows label limit (s.fetchRows label) relations rows)
      (Relations.expandRows label limit (s.fetchRows label) relations' rows) := by
  induction rows with
  | nil => exact ReadAlike.done rfl
  | cons row rest ih =>
      refine (expandRow_alike hrelations hne limit row).bind fun first first' _ hfirst => ?_
      refine ih.bind fun rows rows' _ hrows => ReadAlike.done ?_
      rw [hfirst, hrows]

end Shows

theorem OptionsAlike.first {schema : Schema} {o o' : FindOptions} (h : OptionsAlike schema o o') :
    OptionsAlike schema { o with limit := 1, offset := 0 } { o' with limit := 1, offset := 0 } :=
  ⟨congrArg (fun o => { o with limit := 1, offset := 0 }) h.unlinked, h.of_schema, h.relations⟩

namespace Shows

variable {s : DocumentStore} {now : Timestamp} {label : String} {table : String} {r : Restriction}
  {schema : Schema} {visible : Record} {m : DocumentMemory} {o o' : FindOptions}

theorem fetch_alike (h : Shows s table r schema visible m) (ho : OptionsAlike schema o o')
    (hne : ∀ q ∈ o.relations, q.table ≠ table) :
    ReadAlike (DocumentMemory.responder now) m (m.visiblePart table visible) Eq
      (s.fetch label { o with filters := Restriction.addTo (some r) o.filters })
      (s.fetch label o') := by
  rw [DocumentStore.fetch_eq, DocumentStore.fetch_eq]
  refine (h.fetchRows_alike ho).bind fun rows rows' _ hrows => ?_
  rw [hrows]
  exact expandRows_alike ho.relations hne _ _

theorem findOne_alike (h : Shows s table r schema visible m) (ho : OptionsAlike schema o o')
    (hne : ∀ q ∈ o.relations, q.table ≠ table) :
    ReadAlike (DocumentMemory.responder now) m (m.visiblePart table visible) Eq
      (s.findOne label { o with filters := Restriction.addTo (some r) o.filters })
      (s.findOne label o') := by
  refine (h.fetch_alike ho.first hne).bind fun rows rows' _ hrows => ReadAlike.done ?_
  rw [hrows]

theorem findPage_alike (h : Shows s table r schema visible m) (ho : OptionsAlike schema o o')
    (hne : ∀ q ∈ o.relations, q.table ≠ table) :
    ReadAlike (s.responder now label) m (m.visiblePart table visible) Eq
      (Engine.findPage { o with filters := Restriction.addTo (some r) o.filters })
      (Engine.findPage o') := by
  have hlimit : (o'.limit, o'.offset) = (o.limit, o.offset) := by
    rw [FindOptions.eq_of_unlinked_eq ho.unlinked]
  obtain ⟨hlimit, hoffset⟩ := Prod.mk.inj hlimit
  rw [Engine.findPage, Engine.findPage]
  refine (DocumentStore.call_alike (.countRows _) (.countRows o') (h.countRows_alike ho)).bind
    fun total total' _ htotal => ?_
  rw [htotal]
  dsimp only
  split
  · refine ReadAlike.done ?_
    rw [hlimit, hoffset]
  · refine (DocumentStore.call_alike (.findMany _) (.findMany o') (h.fetch_alike ho hne)).bind
      fun data data' _ hdata => ReadAlike.done ?_
    rw [hdata, hlimit, hoffset]

/-- Both verbs that read prepare the read first, and neither attaches a relation to the table. -/
theorem answer_alike (h : Shows s table r schema visible m) (settings : EngineSettings)
    (tag : String) (params : Params) {request : Request}
    (hrequest : request = .find table params ∨ request = .findMany table params)
    (hrelations : ∀ options,
      (s.serve now label (Engine.prepareFind settings tag table params) m).1 = .ok options →
        ∀ q ∈ options.relations, q.table ≠ table) :
    ReadAlike (s.responder now label) m (m.visiblePart table visible) Eq
      (Engine.answer settings tag (some r) request) (Engine.answer settings tag none request) := by
  rcases hrequest with rfl | rfl
  · refine (h.prepareFind_alike settings tag params).bind fun o o' hrun ho => ?_
    have hne := hrelations o (by rw [DocumentStore.serve_eq_run, hrun])
    refine (DocumentStore.call_alike (.findOne _) (.findOne o') (h.findOne_alike ho hne)).bind
      fun row row' _ hrow => ReadAlike.done ?_
    rw [hrow]
  · refine (h.prepareFind_alike settings tag params).bind fun o o' hrun ho => ?_
    have hne := hrelations o (by rw [DocumentStore.serve_eq_run, hrun])
    refine (h.findPage_alike ho hne).bind fun page page' _ hpage => ReadAlike.done ?_
    rw [hpage]

end Shows

/-- **Restricted reads see the visible part.** A restriction is given on a table whose schema is the
same with and without the documents that the restriction hides. If no relation that the read attaches
leads back to the table, a restricted read of one row or of a page ends in exactly what the same read
ends in, without a restriction, on the store from which the hidden documents are gone. -/
theorem DocumentStore.restricted_read_eq (s : DocumentStore) (now : Timestamp) (label : String)
    (settings : EngineSettings) (requestId : Option String) (source : PermissionSource)
    (identity table : String) (params : Params) (request : Request) (r : Restriction)
    (schema : Schema) (visible : Record) (m : DocumentMemory)
    (hrequest : request = .find table params ∨ request = .findMany table params)
    (hsource : source identity table .read = .ok (.restricted r))
    (hshows : Shows s table r schema visible m)
    (hrelations : ∀ options,
      (s.serve now label
          (Engine.prepareFind settings (requestLabel requestId) table params) m).1 = .ok options →
        ∀ q ∈ options.relations, q.table ≠ table) :
    (s.serve now label
        (Engine.performAuthorized settings requestId source identity request) m).1 =
      (s.serve now label (Engine.perform settings requestId request)
        (m.visiblePart table visible)).1 := by
  have houtcome : Engine.outcome? source identity request = some (.ok (.restricted r)) := by
    rcases hrequest with rfl | rfl <;> exact congrArg some hsource
  obtain ⟨first, second, hperform⟩ :=
    Engine.performAuthorized_restricted settings requestId houtcome
  rw [DocumentStore.serve_eq_run, DocumentStore.serve_eq_run, hperform]
  exact (hshows.answer_alike settings (requestLabel requestId) params hrequest hrelations).results.eq

/-- A reader who is held to own accounts finds the second. -/
theorem DocumentStore.restricted_read_eq_accounts :
    (DocumentStore.serve ⟨"documents", .standard⟩ default "-"
        (Engine.performAuthorized .standard none
          (fun _ _ _ => .ok (.restricted ⟨"owner", .string "u1"⟩)) "u1" (.find "accounts" []))
        .accounts).1 =
      .ok (.found (some [("_id", .string "a2"), ("owner", .string "u1")])) := by
  refine (restricted_read_eq ⟨"documents", .standard⟩ default "-" .standard none
    (fun _ _ _ => .ok (.restricted ⟨"owner", .string "u1"⟩)) "u1" "accounts" []
    (.find "accounts" []) ⟨"owner", .string "u1"⟩ _ [("owner", .string "u1")] .accounts (.inl rfl) rfl
    ⟨rfl, rfl, rfl⟩ ?_).trans rfl
  intro options hoptions
  obtain rfl := Except.ok.inj hoptions
  intro q hq
  cases hq

end DataAccess
