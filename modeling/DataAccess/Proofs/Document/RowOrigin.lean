import DataAccess.Proofs.Document.Reads
import DataAccess.Proofs.Document.RestrictedRead
import DataAccess.Proofs.Engine.Preparation

/-!
# Where the rows of a read come from

A read on behalf of an identity asks for permission once, for the table of the request. Each of its
rows is then a document of that table, one that the restriction shows if there is one. The rows
nested under it are documents of the tables that the relations of its schema lead to, whatever the
source would say of these.
-/

namespace DataAccess

open Dialogue

/-- The rows that a response holds, without those nested in them. -/
def Response.rows : Response → List Record
  | .record row => [row]
  | .found row => row.toList
  | .page p => p.data
  | _ => []

/-- What an outcome lets an identity see of the documents of a schema. -/
def Outcome.Permits (schema : Schema) : Outcome → Record → Prop
  | .allow, _ => True
  | .deny, _ => False
  | .restricted r, d =>
    ∃ visible, Document.filter schema [r.predicate] = .ok visible ∧
      Document.matchesFilter d visible = true

namespace DocumentStore

variable {s : DocumentStore} {now : Timestamp} {label : String} {m m' : DocumentMemory}

/-! ### Relations that are attached -/

/-- A requested relation is one of a schema's, with the schema of its table. -/
def Attached (s : DocumentStore) (m : DocumentMemory) (schema : Schema) (q : RelationRequest) :
    Prop :=
  ∃ relation ∈ schema.relations, ∃ related, s.inferred m relation.table = .ok related ∧
    q.relation = { relation with schema := some related }

theorem Attached.table_eq {schema related : Schema} {q : RelationRequest}
    (h : Attached s m schema q) (hrelated : q.schema? = some related) : related.table = q.table := by
  obtain ⟨relation, -, own, hown, heq⟩ := h
  rw [RelationRequest.schema?, heq] at hrelated
  obtain rfl := Option.some.inj hrelated
  rw [RelationRequest.table, heq]
  exact (infers_of_inferred hown).table_eq

theorem attached_of_run_attach {tag : String} {schema : Schema} {related : List (String × String)}
    {requested : RequestedRelation} {q : RelationRequest}
    (h : (Engine.attach tag schema related requested).run (s.responder now label) m = (.ok q, m')) :
    m' = m ∧ Attached s m schema q := by
  obtain ⟨relation, own, _, _, hrelation, hown, rfl, rfl⟩ := Engine.exists_of_run_attach h
  rw [run_getSchema_call] at hown
  obtain ⟨hinferred, rfl⟩ := Prod.mk.inj hown
  exact ⟨rfl, relation, (Schema.relation?_eq_some hrelation).1, own, hinferred, rfl⟩

theorem attached_of_run_attachAll {tag : String} {schema : Schema}
    {related : List (String × String)} {requested : List RequestedRelation}
    {attached relations : List RelationRequest}
    (hattached : ∀ q ∈ attached, Attached s m schema q)
    (h : (Engine.attachAll tag schema related requested attached).run (s.responder now label) m =
      (.ok relations, m')) :
    m' = m ∧ ∀ q ∈ relations, Attached s m schema q := by
  induction requested generalizing attached with
  | nil =>
      obtain ⟨rfl, rfl⟩ := eq_of_run_done _ h
      exact ⟨rfl, hattached⟩
  | cons first rest ih =>
      rw [Engine.attachAll] at h
      split at h
      · exact ih hattached h
      obtain ⟨q, middle, hq, hrest⟩ := exists_of_run_bind_eq_ok _ h
      obtain ⟨rfl, hown⟩ := attached_of_run_attach hq
      refine ih ?_ hrest
      intro p hp
      rcases List.mem_append.mp hp with hp | hp
      · exact hattached p hp
      · rw [List.mem_singleton.mp hp]
        exact hown

theorem attached_of_run_prepareFind {settings : EngineSettings} {tag table : String}
    {params : Params} {o : FindOptions}
    (h : (Engine.prepareFind settings tag table params).run (s.responder now label) m =
      (.ok o, m')) :
    m' = m ∧ s.inferred m table = .ok o.schema ∧ ∀ q ∈ o.relations, Attached s m o.schema q := by
  obtain ⟨_, _, _, middle, hschema, -, hrelations, -, -⟩ := Engine.exists_of_run_prepareFind h
  rw [run_getSchema_call] at hschema
  obtain ⟨hinferred, rfl⟩ := Prod.mk.inj hschema
  obtain ⟨rfl, hattached⟩ := attached_of_run_attachAll (by simp) hrelations
  exact ⟨rfl, hinferred, hattached⟩

/-! ### Rows with the rows nested in them -/

/-- A row shows a document: it is the caller's form of the document or of some of its fields. -/
def ShowsDocument (schema : Schema) (d row : Record) : Prop :=
  ∃ fields, row = callerRow schema (DocumentMemory.project fields d)

/-- A nested row shows a document of the relation's table, one that meets the join condition. -/
def Related (m : DocumentMemory) (q : RelationRequest) (key : Json) (row : Record) : Prop :=
  ∃ schema, q.schema? = some schema ∧
    ∃ joined, Document.filter schema [.equals q.relation.column key] = .ok joined ∧
      ∃ d ∈ m.documents q.table, Document.matchesFilter d joined = true ∧ ShowsDocument schema d row

/-- One row comes from another by nesting related rows in it, relation by relation. -/
inductive Expanded (m : DocumentMemory) : List RelationRequest → Record → Record → Prop
  | nil (row : Record) : Expanded m [] row row
  | cons {q : RelationRequest} {rest : List RelationRequest} {row expanded : Record}
    {related : List Record}
    (hrelated : ∀ nested ∈ related, ∃ key, row.get? q.relation.orgColumn = some key ∧
      Related m q key nested)
    (hrest : Expanded m rest (row.insert q.table (.array (related.map .object))) expanded) :
    Expanded m (q :: rest) row expanded

theorem related_of_mem_relatedRows {limit : Nat} {row nested : Record} {q : RelationRequest}
    (htable : ∀ related, q.schema? = some related → related.table = q.table)
    (h : nested ∈ relatedRows m limit row q) :
    ∃ key, row.get? q.relation.orgColumn = some key ∧ Related m q key nested := by
  rw [relatedRows] at h
  split at h
  · cases h
  · cases h
  next key _ hkey =>
    refine ⟨key, hkey, ?_⟩
    cases hschema : q.schema? with
    | none =>
        simp [Relations.lookupOptions, hschema] at h
    | some related =>
        simp only [Relations.lookupOptions, hschema, Option.map_some] at h
        split at h
        next found hfound =>
          obtain ⟨joined, hjoined, d, hd, hmatch, hrow⟩ := mem_rows hfound h
          have hmem : d ∈ m.documents q.table := by
            rw [← htable related hschema]
            exact hd
          exact ⟨related, hschema, joined, hjoined, d, hmem, hmatch, _, hrow⟩
        next _ => cases h

theorem expanded_withRelated {relations : List RelationRequest}
    (htables : ∀ q ∈ relations, ∀ related, q.schema? = some related → related.table = q.table)
    (limit : Nat) (row : Record) : Expanded m relations row (withRelated m limit row relations) := by
  -- A relation's key is read from the row as the relations before it left it.
  induction relations generalizing row with
  | nil => exact .nil row
  | cons q rest ih =>
      rw [withRelated]
      have hq := htables q List.mem_cons_self
      have hrest := fun p hp => htables p (List.mem_cons_of_mem q hp)
      exact .cons (fun nested hnested => related_of_mem_relatedRows hq hnested) (ih hrest _)

/-- A row of a read shows a document that the read's filter lets through. -/
theorem mem_expanded {o : FindOptions} {found : List Record} {row : Record}
    (hattached : ∀ q ∈ o.relations, Attached s m o.schema q) (hfound : s.expanded m o = .ok found)
    (hrow : row ∈ found) :
    ∃ filter, Document.filter o.schema o.filters = .ok filter ∧ ∃ d ∈ m.documents o.table,
      Document.matchesFilter d filter = true ∧
        ∃ own, ShowsDocument o.schema d own ∧ Expanded m o.relations own row := by
  obtain ⟨rows, hrows, rfl⟩ := exists_of_map_eq_ok hfound
  obtain ⟨own, hown, rfl⟩ := List.mem_map.mp hrow
  obtain ⟨filter, hfilter, d, hd, hmatch, hshown⟩ := mem_rows hrows hown
  have htables : ∀ q ∈ o.relations, ∀ related, q.schema? = some related →
      related.table = q.table := fun q hq _ hrelated => (hattached q hq).table_eq hrelated
  exact ⟨filter, hfilter, d, hd, hmatch, own, ⟨_, hshown⟩, expanded_withRelated htables _ own⟩

/-! ### Rows of responses -/

theorem data_of_run_findPage {o : FindOptions} {page : Page}
    (h : (Engine.findPage o).run (s.responder now label) m = (.ok page, m')) :
    page.data = [] ∨ s.expanded m o = .ok page.data := by
  rw [Engine.findPage] at h
  obtain ⟨total, middle, hcount, hrest⟩ := exists_of_run_bind_eq_ok _ h
  rw [run_call] at hcount
  obtain ⟨-, rfl⟩ := Prod.mk.inj ((run_countRows m o).symm.trans hcount)
  by_cases htotal : total = 0
  · simp only [htotal, if_true] at hrest
    obtain ⟨hpage, -⟩ := Prod.mk.inj hrest
    obtain rfl := Except.ok.inj hpage
    exact .inl rfl
  · simp only [htotal, if_false] at hrest
    obtain ⟨data, middle, hdata, hdone⟩ := exists_of_run_bind_eq_ok _ hrest
    rw [run_call] at hdata
    obtain ⟨hexpanded, -⟩ := Prod.mk.inj ((run_fetch _ o).symm.trans hdata)
    obtain ⟨hpage, -⟩ := Prod.mk.inj hdone
    obtain rfl := Except.ok.inj hpage
    exact .inr hexpanded

/-- Whatever restriction a read is answered under, its rows are those of one fetch. -/
theorem exists_fetch_of_answer {settings : EngineSettings} {tag table : String} {params : Params}
    {request : Request} {restriction : Option Restriction} {response : Response}
    (hrequest : request = .find table params ∨ request = .findMany table params)
    (h : (Engine.answer settings tag restriction request).run (s.responder now label) m =
      (.ok response, m')) :
    ∃ o : FindOptions, s.inferred m table = .ok o.schema ∧
      (∀ q ∈ o.relations, Attached s m o.schema q) ∧
        ∀ row ∈ response.rows, ∃ own found, o.filters = Restriction.addTo restriction own ∧
          s.expanded m o = .ok found ∧ row ∈ found := by
  rcases hrequest with rfl | rfl
  · rw [Engine.answer] at h
    obtain ⟨o, middle, hprepared, hrest⟩ := exists_of_run_bind_eq_ok _ h
    obtain ⟨rfl, hschema, hattached⟩ := attached_of_run_prepareFind hprepared
    obtain ⟨row?, middle, hfound, hdone⟩ := exists_of_run_bind_eq_ok _ hrest
    rw [run_call] at hfound
    obtain ⟨hfirst, -⟩ := Prod.mk.inj ((run_findOne _ _).symm.trans hfound)
    obtain ⟨found, hexpanded, rfl⟩ := exists_of_map_eq_ok hfirst
    obtain ⟨hresponse, -⟩ := Prod.mk.inj hdone
    obtain rfl := Except.ok.inj hresponse
    let narrowed := { o with filters := Restriction.addTo restriction o.filters, limit := 1, offset := 0 }
    refine ⟨narrowed, hschema, hattached, fun row hrow => ⟨o.filters, found, rfl, hexpanded, ?_⟩⟩
    exact List.mem_of_head? (Option.mem_toList.mp hrow)
  · rw [Engine.answer] at h
    obtain ⟨o, middle, hprepared, hrest⟩ := exists_of_run_bind_eq_ok _ h
    obtain ⟨rfl, hschema, hattached⟩ := attached_of_run_prepareFind hprepared
    obtain ⟨page, middle, hpage, hdone⟩ := exists_of_run_bind_eq_ok _ hrest
    obtain ⟨hresponse, -⟩ := Prod.mk.inj hdone
    obtain rfl := Except.ok.inj hresponse
    let narrowed := { o with filters := Restriction.addTo restriction o.filters }
    refine ⟨narrowed, hschema, hattached, fun row hrow => ⟨o.filters, page.data, rfl, ?_, hrow⟩⟩
    rcases data_of_run_findPage hpage with hnone | hexpanded
    · rw [Response.rows, hnone] at hrow
      cases hrow
    · exact hexpanded

/-- **Where rows come from.** If a read of a table on behalf of an identity is answered, then the
source does not deny the table, and every row is a document of the table that the source's outcome
permits, with rows nested in it. The nested rows are documents of the tables of relations that the
schema of the table has. What the source says of any other table has no part in this: it is asked for
this one alone. -/
theorem authorized_rows (s : DocumentStore) (now : Timestamp) (label : String)
    (settings : EngineSettings) (requestId : Option String) (source : PermissionSource)
    (identity table : String) (params : Params) (request : Request) (response : Response)
    (m : DocumentMemory)
    (hrequest : request = .find table params ∨ request = .findMany table params)
    (hresponse : (s.serve now label
      (Engine.performAuthorized settings requestId source identity request) m).1 = .ok response) :
    (∃ schema relations outcome, s.inferred m table = .ok schema ∧
      (∀ q ∈ relations, Attached s m schema q) ∧
      source identity table .read = .ok outcome ∧ outcome ≠ .deny ∧
      ∀ row ∈ response.rows, ∃ d ∈ m.documents table, outcome.Permits schema d ∧
        ∃ own, ShowsDocument schema d own ∧ Expanded m relations own row) ∧
    ∀ source' : PermissionSource, source' identity table .read = source identity table .read →
      Engine.performAuthorized settings requestId source' identity request =
        Engine.performAuthorized settings requestId source identity request := by
  have hasked : ∀ any : PermissionSource,
      Engine.outcome? any identity request = some (any identity table .read) := by
    rcases hrequest with rfl | rfl <;> exact fun _ => rfl
  have htable : request.table? = some table := by
    rcases hrequest with rfl | rfl <;> rfl
  refine ⟨?_, fun source' hsame => Engine.performAuthorized_congr settings requestId ?_⟩
  · rw [serve_eq_run] at hresponse
    obtain ⟨outcome, restriction, houtcome, hrestriction, hanswer⟩ :=
      Engine.exists_outcome_of_run_eq_ok quiet_responder htable (hasked source)
        (Prod.ext hresponse rfl)
    obtain ⟨o, hschema, hattached, hrows⟩ := exists_fetch_of_answer hrequest hanswer
    refine ⟨o.schema, o.relations, outcome, hschema, hattached, houtcome, ?_, ?_⟩
    · rintro rfl
      cases hrestriction
    · intro row hrow
      obtain ⟨own, found, hfilters, hfound, hmem⟩ := hrows row hrow
      obtain ⟨filter, hfilter, d, hd, hmatch, hshown⟩ := mem_expanded hattached hfound hmem
      have hcollection : o.table = table := (infers_of_inferred hschema).table_eq
      refine ⟨d, hcollection ▸ hd, ?_, hshown⟩
      cases outcome with
      | allow => trivial
      | deny => cases hrestriction
      | restricted r =>
          obtain rfl := Except.ok.inj hrestriction
          rw [hfilters] at hfilter
          obtain ⟨visible, hvisible, hnarrows⟩ := Document.filter_append_eq_ok hfilter
          exact ⟨visible, hvisible, hnarrows d hmatch⟩
  · rw [hasked, hasked, hsame]

/-- Orders that are linked with their customers. -/
def linkedOrders : DocumentMemory :=
  ⟨[("orders", [[("_id", .string "o1"), ("customer", .string "c1")]]),
    ("customers", [[("_id", .string "c1"), ("name", .string "Acme")]]),
    ("_relations", [[("column", .string "_id"), ("org_column", .string "customer"),
      ("org_table", .string "orders"), ("table", .string "customers")]])], 0⟩

/-- A reader of the orders of one customer. -/
theorem authorized_rows_orders :
    ∃ (source : PermissionSource) (row nested : Record),
      source "u1" "orders" .read = .ok (.restricted ⟨"customer", .string "c1"⟩) ∧
      (serve ⟨"documents", .standard⟩ default "-"
        (Engine.performAuthorized .standard none source "u1"
          (.find "orders" [("relations", "customers")])) linkedOrders).1 = .ok (.found (some row)) ∧
      row.get? "customers" = some (.array [.object nested]) ∧
      ∃ schema visible relations own, ∃ d ∈ linkedOrders.documents "orders",
        Document.filter schema [.equals "customer" (.string "c1")] = .ok visible ∧
        Document.matchesFilter d visible = true ∧
        ShowsDocument schema d own ∧ Expanded linkedOrders relations own row := by
  let source : PermissionSource :=
    PermissionRule.source [⟨none, "orders", none, .restricted ⟨"customer", .string "c1"⟩⟩]
  let nested : Record := [("_id", .string "c1"), ("name", .string "Acme")]
  let row : Record := [("_id", .string "o1"), ("customer", .string "c1"),
    ("customers", .array [.object nested])]
  have hresponse : (serve ⟨"documents", .standard⟩ default "-"
      (Engine.performAuthorized .standard none source "u1"
        (.find "orders" [("relations", "customers")])) linkedOrders).1 = .ok (.found (some row)) :=
    eq_ok_of_toOption_eq_some (by decide +kernel)
  refine ⟨source, row, nested, rfl, hresponse, by decide, ?_⟩
  obtain ⟨⟨schema, relations, outcome, -, -, houtcome, -, hrows⟩, -⟩ := authorized_rows
    ⟨"documents", .standard⟩ default "-" .standard none source "u1" "orders"
    [("relations", "customers")] (.find "orders" [("relations", "customers")]) _ linkedOrders
    (.inl rfl) hresponse
  obtain rfl := Except.ok.inj houtcome
  obtain ⟨d, hd, ⟨visible, hvisible, hmatch⟩, own, hshown, hexpanded⟩ :=
    hrows row (List.mem_singleton.mpr rfl)
  exact ⟨schema, visible, relations, own, d, hd, hvisible, hmatch, hshown, hexpanded⟩

/-- A reader who is denied every table but the orders is shown a customer. -/
theorem nested_row_of_denied_table :
    ∃ (source : PermissionSource) (row nested : Record),
      (∀ table, table ≠ "orders" → source "u1" table .read = .ok .deny) ∧
      (serve ⟨"documents", .standard⟩ default "-"
        (Engine.performAuthorized .standard none source "u1"
          (.find "orders" [("relations", "customers")])) linkedOrders).1 = .ok (.found (some row)) ∧
      row.get? "customers" = some (.array [.object nested]) ∧
      nested ∈ linkedOrders.documents "customers" ∧ nested ∉ linkedOrders.documents "orders" := by
  refine ⟨PermissionRule.source [⟨none, "orders", none, .allow⟩],
    [("_id", .string "o1"), ("customer", .string "c1"),
      ("customers", .array [.object [("_id", .string "c1"), ("name", .string "Acme")]])],
    [("_id", .string "c1"), ("name", .string "Acme")], ?_, ?_, ?_, ?_, ?_⟩
  · intro table htable
    simp [PermissionRule.source, PermissionRule.applies, Ne.symm htable]
  · exact eq_ok_of_toOption_eq_some (by decide +kernel)
  · decide
  · decide
  · decide

end DocumentStore

end DataAccess
