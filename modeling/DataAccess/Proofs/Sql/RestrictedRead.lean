import DataAccess.Proofs.Dialogue.Requests
import DataAccess.Proofs.Engine.Authorization
import DataAccess.Proofs.Sql.ReadForm
import DataAccess.Proofs.Sql.Scope
import DataAccess.Sql.Store

/-!
# Restricted reads as statements

A restricted read of a table becomes statements that read the table where the restriction holds, and
lookups of rows that are related to those rows. A lookup is not restricted, not even where a relation
leads back to the table; nor does a restriction become a condition on the counts of a uniqueness
check.
-/

namespace DataAccess

open Dialogue

/-- A statement that reads from the catalog of the dialect. -/
def SqlDialect.IsCatalog (d : SqlDialect) (q : CompiledQuery) : Prop :=
  ∃ table, q ∈ [catalogQuery d.catalog.columns table, catalogQuery d.catalog.forwardKeys table,
    catalogQuery d.catalog.backwardKeys table]

namespace SqlStore

/-- To ask for the rows of certain statements and for nothing else. -/
def Queries (Q : CompiledQuery → Prop) : SqlRequest → Prop
  | .query q => Q q
  | _ => False

variable {s : SqlStore} {label : String} {Q : CompiledQuery → Prop}

theorem exists_of_queries {r : SqlRequest} (h : Queries Q r) : ∃ q, r = .query q ∧ Q q := by
  cases r with
  | query q => exact ⟨q, rfl, h⟩
  | _ => cases h

/-! ### The statements of each call -/

theorem keepsTo_runQuery {q : CompiledQuery} (h : Q q) : (s.runQuery label q).KeepsTo (Queries Q) := by
  refine ⟨h, fun answer => ?_⟩
  cases answer <;> exact trivial

theorem keepsTo_getSchema (table : String) (h : ∀ q, s.dialect.IsCatalog q → Q q) :
    (s.getSchema label table).KeepsTo (Queries Q) := by
  have hcatalog : ∀ q ∈ [SqlDialect.catalogQuery s.dialect.catalog.columns table,
      SqlDialect.catalogQuery s.dialect.catalog.forwardKeys table,
      SqlDialect.catalogQuery s.dialect.catalog.backwardKeys table],
      (s.runQuery label q).KeepsTo (Queries Q) := fun q hq => keepsTo_runQuery (h q ⟨table, hq⟩)
  refine (hcatalog _ (by simp)).bind fun columns => ?_
  split
  · exact trivial
  refine (hcatalog _ (by simp)).bind fun forward => (hcatalog _ (by simp)).bind fun backward => ?_
  exact keepsTo_ofExcept_bind fun _ _ => trivial

theorem keepsTo_fetchRows {o : FindOptions}
    (h : ∀ q, s.dialect.ReadsOptions o s.settings.joinRelations q → Q q) :
    (s.fetchRows label o).KeepsTo (Queries Q) :=
  keepsTo_ofExcept_bind fun q hq =>
    (keepsTo_runQuery (h q (SqlDialect.readsOptions_selectQuery hq))).bind fun _ => trivial

/-- The statements that look up rows of a relation. -/
def LooksUpFor (s : SqlStore) (request : RelationRequest) (q : CompiledQuery) : Prop :=
  ∃ schema key, request.schema? = some schema ∧ key ≠ .null ∧
    s.dialect.LooksUp schema request.relation.column key q

theorem keepsTo_relatedRows {request : RelationRequest} (limit : Nat) (row : Record)
    (h : ∀ q, s.LooksUpFor request q → Q q) :
    (Relations.relatedRows label limit (s.fetchRows label) row request).KeepsTo (Queries Q) := by
  rw [Relations.relatedRows]
  split
  · exact trivial
  · exact trivial
  next key hnull _ =>
    split
    · exact trivial
    next o ho =>
      have hlookup : (s.fetchRows label o).KeepsTo (Queries Q) := keepsTo_fetchRows fun q hq => by
        obtain ⟨schema, hschema, hlooks⟩ := SqlDialect.looksUp_of_readsOptions ho hq
        exact h q ⟨schema, key, hschema, hnull, hlooks⟩
      refine hlookup.attempt.bind fun rows => ?_
      cases rows <;> exact trivial

theorem keepsTo_expandRow {requests : List RelationRequest} (limit : Nat) (row : Record)
    (h : ∀ request ∈ requests, ∀ q, s.LooksUpFor request q → Q q) :
    (Relations.expandRow label limit (s.fetchRows label) row requests).KeepsTo (Queries Q) := by
  induction requests generalizing row with
  | nil => exact trivial
  | cons first rest ih =>
      exact (keepsTo_relatedRows limit row (h first List.mem_cons_self)).bind fun related =>
        ih _ fun request hrequest => h request (List.mem_cons_of_mem first hrequest)

theorem keepsTo_expandRows {requests : List RelationRequest} (limit : Nat) (rows : List Record)
    (h : ∀ request ∈ requests, ∀ q, s.LooksUpFor request q → Q q) :
    (Relations.expandRows label limit (s.fetchRows label) requests rows).KeepsTo (Queries Q) := by
  induction rows with
  | nil => exact trivial
  | cons row rest ih =>
      exact (keepsTo_expandRow limit row h).bind fun _ => ih.bind fun _ => trivial

/-- A read asks for its own rows, and for rows related to them. -/
theorem keepsTo_fetch {o : FindOptions}
    (hown : ∀ q, s.dialect.ReadsOptions o s.settings.joinRelations q → Q q)
    (hlookup : ∀ request ∈ o.relations, ∀ q, s.LooksUpFor request q → Q q) :
    (s.fetch label o).KeepsTo (Queries Q) := by
  refine (keepsTo_fetchRows hown).bind fun rows => ?_
  split
  · exact trivial
  rw [Relations.expand]
  split
  · exact trivial
  · refine keepsTo_expandRows _ _ fun request hrequest => hlookup request ?_
    exact (List.mem_filter.mp hrequest).1

theorem keepsTo_runCount {q : CompiledQuery} (h : Q q) : (s.runCount label q).KeepsTo (Queries Q) := by
  refine (keepsTo_runQuery h).bind fun rows => ?_
  dsimp only
  split <;> exact trivial

theorem keepsTo_countRows {o : FindOptions}
    (h : ∀ q, s.dialect.ReadsOptions o s.settings.joinRelations q → Q q) :
    (s.countRows label o).KeepsTo (Queries Q) :=
  keepsTo_ofExcept_bind fun q hq => keepsTo_runCount (h q (SqlDialect.readsOptions_countQuery hq))

/-- The counts for some columns, under the conditions that the caller of the check has to tell. -/
theorem keepsTo_checkColumns {schema : Schema} {data : Record} {exclude : Option (String × Json)}
    {columns : List Column}
    (h : ∀ column ∈ columns, ∀ value bound, data.get? column.field = some value →
      value.isNull = false → Coercion.outbound column s.dialect.capabilities value = .ok bound →
        Q (s.dialect.duplicatesQuery schema column bound exclude)) :
    (s.checkColumns label schema data exclude columns).KeepsTo (Queries Q) := by
  induction columns with
  | nil => exact trivial
  | cons column rest ih =>
      obtain ⟨hcolumn, hrest⟩ := List.forall_mem_cons.mp h
      rw [checkColumns]
      split
      · exact ih hrest
      next value hvalue =>
        obtain ⟨hvalue, hnull⟩ := Option.filter_eq_some_iff.mp hvalue
        refine keepsTo_ofExcept_bind fun bound hbound => ?_
        refine (keepsTo_runCount (hcolumn value bound hvalue (by simpa using hnull) hbound)).bind
          fun total => ?_
        split
        · exact trivial
        · exact ih hrest

theorem keepsTo_uniqueCheck {schema : Schema} {data : Record} (id : Option Json)
    (h : ∀ q, s.dialect.CountsHolders schema data q → Q q) :
    (s.uniqueCheck label schema data id).KeepsTo (Queries Q) :=
  keepsTo_ofExcept_bind fun exclude _ => keepsTo_checkColumns
    fun _ hcolumn _ _ hvalue hnull hbound => h _
      (SqlDialect.countsHolders_duplicatesQuery exclude hcolumn hvalue hnull hbound)

/-! ### What a restriction leaves of a read -/

section Restricted

variable {σ : Type} (s : SqlStore) (label : String)
  (executor : Responder SqlRequest SqlRequest.Answer σ)

/-- The store as what answers calls; each is carried out by statements. -/
def responder : Responder StoreCall StoreCall.Answer σ := .carrying executor (s.carryOut label)

variable (past : List (Exchange StoreCall σ))

/-- Among these calls the store was asked for the schema of a table and told this one. -/
def Told (table : String) (schema : Schema) : Prop :=
  Answered (s.responder label executor) past (.getSchema table) (.ok schema)

/-- A relation of a schema, with the schema that the store told of its table. -/
def Attaches (schema : Schema) (q : RelationRequest) : Prop :=
  ∃ relation ∈ schema.relations, ∃ related, s.Told label executor past relation.table related ∧
    q.relation = { relation with schema := some related }

variable (request : Request) (r : Restriction)

/-- The calls of a restricted read. -/
def RestrictedCall : StoreCall → Prop
  | .getSchema _ => True
  | .findOne o | .findMany o | .countRows o =>
    ∃ table params, (request = .find table params ∨ request = .findMany table params) ∧
      s.Told label executor past table o.schema ∧ .equals r.column r.value ∈ o.filters ∧
      ∀ q ∈ o.relations, s.Attaches label executor past o.schema q
  | .uniqueCheck schema data _ =>
    ∃ table id, request = .unique table data id ∧ s.Told label executor past table schema
  | _ => False

/-- The statements of a restricted read: those of the catalog, those that read the table where the
restriction holds, lookups by relations of the table, and for a uniqueness check the counts of rows
with a value of the payload. -/
inductive RestrictedStatement (q : CompiledQuery) : Prop
  | catalog (h : s.dialect.IsCatalog q)
  | own {table : String} {params : Params} {schema : Schema}
      (hrequest : request = .find table params ∨ request = .findMany table params)
      (hschema : s.Told label executor past table schema)
      (h : s.dialect.ReadsWhere table r.column (schema.column? r.column) r.value q)
  | lookup {table : String} {params : Params} {schema related : Schema} {relation : Relation}
      {key : Json} (hrequest : request = .find table params ∨ request = .findMany table params)
      (hschema : s.Told label executor past table schema) (hrelation : relation ∈ schema.relations)
      (hrelated : s.Told label executor past relation.table related)
      (htable : related.table = relation.table) (hkey : key ≠ .null)
      (h : s.dialect.LooksUp related relation.column key q)
  | count {table : String} {data : Record} {id : Option Json} {schema : Schema}
      (hrequest : request = .unique table data id)
      (hschema : s.Told label executor past table schema) (htable : schema.table = table)
      (h : s.dialect.CountsHolders schema data q)

variable {s label executor past request r}

theorem RestrictedStatement.append {more : List (Exchange StoreCall σ)} {q : CompiledQuery}
    (h : s.RestrictedStatement label executor past request r q) :
    s.RestrictedStatement label executor (past ++ more) request r q := by
  cases h with
  | catalog h => exact .catalog h
  | own hrequest hschema h => exact .own hrequest hschema.append h
  | lookup hrequest hschema hrelation hrelated htable hkey h =>
      exact .lookup hrequest hschema.append hrelation hrelated.append htable hkey h
  | count hrequest hschema htable h => exact .count hrequest hschema.append htable h

theorem table_of_told {table : String} {schema : Schema}
    (h : s.Told label executor past table schema) : schema.table = table := by
  obtain ⟨state, -, h⟩ := h
  have hrun : (s.getSchema label table).run executor state =
      (.ok schema, ((s.getSchema label table).run executor state).2) := Prod.ext h rfl
  rw [getSchema] at hrun
  obtain ⟨columns, _, -, hrun⟩ := exists_of_run_bind_eq_ok _ hrun
  split at hrun
  · cases hrun
  obtain ⟨forward, _, -, hrun⟩ := exists_of_run_bind_eq_ok _ hrun
  obtain ⟨backward, _, -, hrun⟩ := exists_of_run_bind_eq_ok _ hrun
  obtain ⟨told, _, htold, hrun⟩ := exists_of_run_bind_eq_ok _ hrun
  rw [run_ofExcept] at htold
  obtain rfl : told = schema := Except.ok.inj (congrArg Prod.fst hrun)
  exact (Introspection.orgTable_of_schema (congrArg Prod.fst htold)).1

theorem attaches_of_attached {schema : Schema} {q : RelationRequest}
    (h : Engine.Attached (s.responder label executor) past schema q) :
    s.Attaches label executor past schema q := by
  obtain ⟨name, relation, related, hrelation, hanswered, hq⟩ := h
  exact ⟨relation, (Schema.relation?_eq_some hrelation).1, related, hanswered, hq⟩

theorem Attaches.append {more : List (Exchange StoreCall σ)} {schema : Schema} {q : RelationRequest}
    (h : s.Attaches label executor past schema q) :
    s.Attaches label executor (past ++ more) schema q := by
  obtain ⟨relation, hrelation, related, htold, hq⟩ := h
  exact ⟨relation, hrelation, related, htold.append, hq⟩

/-- Under a restriction a read makes these calls and no others. -/
theorem answer_follows (settings : EngineSettings) (tag : String)
    (haccess : request.access? = some .read) (state : σ) :
    Follows (s.responder label executor)
      (fun past e => s.RestrictedCall label executor past request r e.request) (fun _ _ _ => True)
      (Engine.answer settings tag (some r) request) [] state := by
  have hprepared : ∀ table params,
      (request = .find table params ∨ request = .findMany table params) →
      Follows (s.responder label executor)
        (fun past e => s.RestrictedCall label executor past request r e.request)
        (fun past _ result => ∀ options, result = .ok options → ∀ more,
          s.RestrictedCall label executor (past ++ more) request r
            (.findOne { options with filters := Restriction.addTo (some r) options.filters }))
        (Engine.prepareFind settings tag table params) [] state := by
    intro table params hrequest
    refine (Engine.prepareFind_attaches (fun _ _ _ => trivial) settings tag table params).mono ?_
    intro past state' result hresult options hoptions more
    obtain ⟨hanswered, -, hrelations⟩ := hresult options hoptions
    exact ⟨table, params, hrequest, hanswered.append, List.mem_append_right _ List.mem_cons_self,
      fun q hq => (attaches_of_attached (hrelations q hq)).append⟩
  cases request with
  | find table params =>
      rw [Engine.answer, bind_eq_bind, follows_bind]
      refine (hprepared table params (.inl rfl)).mono ?_
      intro past state' result hresult
      refine AfterOk.of_cases (fun options hoptions => ?_) fun _ _ => trivial
      have hcall := hresult options hoptions []
      rw [List.append_nil] at hcall
      exact StoreDialogue.follows_call_bind hcall (fun _ _ _ => trivial) fun _ _ => trivial
  | findMany table params =>
      rw [Engine.answer, bind_eq_bind, follows_bind]
      refine (hprepared table params (.inr rfl)).mono ?_
      intro past state' result hresult
      refine AfterOk.of_cases (fun options hoptions => ?_) fun _ _ => trivial
      rw [bind_eq_bind, follows_bind]
      refine (Engine.findPage_follows (fun more _ => hresult options hoptions more) fun more _ =>
        hresult options hoptions more).mono ?_
      intro _ _ _ _
      exact AfterOk.of_cases (fun _ _ => trivial) fun _ _ => trivial
  | unique table data id =>
      refine StoreDialogue.follows_call_bind trivial ?_ fun _ _ => trivial
      intro schema after hanswered
      exact StoreDialogue.follows_call_bind ⟨table, id, rfl, hanswered⟩
        (fun _ _ _ => trivial) fun _ _ => trivial
  | _ => cases haccess

theorem own_of_readsOptions {o : FindOptions} {table : String} {params : Params} {q : CompiledQuery}
    (hplain : splitReference? r.column = none)
    (hrequest : request = .find table params ∨ request = .findMany table params)
    (hschema : s.Told label executor past table o.schema)
    (hfilter : .equals r.column r.value ∈ o.filters)
    (h : s.dialect.ReadsOptions o s.settings.joinRelations q) :
    s.RestrictedStatement label executor past request r q := by
  have hreads := SqlDialect.readsWhere_of_readsOptions h hfilter hplain
  rw [FindOptions.table, table_of_told hschema] at hreads
  exact .own hrequest hschema hreads

theorem lookup_of_looksUpFor {q : RelationRequest} {schema : Schema} {table : String} {params : Params}
    {statement : CompiledQuery}
    (hrequest : request = .find table params ∨ request = .findMany table params)
    (hschema : s.Told label executor past table schema)
    (hrelation : s.Attaches label executor past schema q) (h : s.LooksUpFor q statement) :
    s.RestrictedStatement label executor past request r statement := by
  obtain ⟨relation, hmem, related, hrelated, hq⟩ := hrelation
  obtain ⟨schema', key, hschema', hkey, hlooks⟩ := h
  rw [RelationRequest.schema?, hq] at hschema'
  obtain rfl := Option.some.inj hschema'
  rw [hq] at hlooks
  exact .lookup hrequest hschema hmem hrelated (table_of_told hrelated) hkey hlooks

/-- A call of a restricted read is carried out by its statements. -/
theorem keepsTo_carryOut {c : StoreCall} (hplain : splitReference? r.column = none)
    (h : s.RestrictedCall label executor past request r c) :
    (s.carryOut label c).KeepsTo (Queries (s.RestrictedStatement label executor past request r)) := by
  cases c with
  | getSchema table => exact keepsTo_getSchema table fun q hq => .catalog hq
  | findOne o =>
      obtain ⟨table, params, hrequest, hschema, hfilter, hrelations⟩ := h
      refine KeepsTo.bind (keepsTo_fetch ?_ ?_) fun _ => trivial
      · exact fun q hq => own_of_readsOptions (o := { o with limit := 1, offset := 0 }) hplain hrequest
          hschema hfilter hq
      · exact fun q hq statement hlooks =>
          lookup_of_looksUpFor hrequest hschema (hrelations q hq) hlooks
  | findMany o =>
      obtain ⟨table, params, hrequest, hschema, hfilter, hrelations⟩ := h
      refine keepsTo_fetch ?_ ?_
      · exact fun q hq => own_of_readsOptions hplain hrequest hschema hfilter hq
      · exact fun q hq statement hlooks =>
          lookup_of_looksUpFor hrequest hschema (hrelations q hq) hlooks
  | countRows o =>
      obtain ⟨table, params, hrequest, hschema, hfilter, -⟩ := h
      exact keepsTo_countRows fun q hq => own_of_readsOptions hplain hrequest hschema hfilter hq
  | uniqueCheck schema data id =>
      obtain ⟨table, given, hrequest, hschema⟩ := h
      exact keepsTo_uniqueCheck id fun q hq =>
        .count hrequest hschema (table_of_told hschema) hq
  | _ => cases h

theorem transcript_interpret_answer {α : Type} (d : StoreDialogue α) (state : σ) :
    (d.interpret (s.answer label)).transcript executor state =
      (d.transcript (s.responder label executor) state).flatMap fun e =>
        (s.carryOut label e.request).transcript executor e.state :=
  transcript_interpret executor (s.carryOut label) d state

end Restricted

/-- **Statements of a restricted read.** On any SQL store, whatever its executor answers, a read that a
restriction applies to sends catalog queries, statements that read the table where the column of the
restriction equals its value, lookups of rows related to the rows of these, and for a uniqueness check
counts of rows with a value of the payload. So it ends alike on two executors that answer these
statements alike. -/
theorem restricted_statements {σ : Type} (s : SqlStore) (label : String)
    (executor : Responder SqlRequest SqlRequest.Answer σ) (settings : EngineSettings)
    (requestId : Option String) (source : PermissionSource) (identity : String) (request : Request)
    {r : Restriction} (haccess : request.access? = some .read)
    (houtcome : Engine.outcome? source identity request = some (.ok (.restricted r)))
    (hplain : splitReference? r.column = none) (state : σ) :
    let d := Engine.performAuthorized settings requestId source identity request
    let calls := d.transcript (s.responder label executor) state
    (∀ e ∈ (d.interpret (s.answer label)).transcript executor state,
      ∃ q, e.request = .query q ∧ s.RestrictedStatement label executor calls request r q) ∧
    ∀ executor' : Responder SqlRequest SqlRequest.Answer σ, executor'.note = executor.note →
      (∀ q, s.RestrictedStatement label executor calls request r q →
        executor'.answer (.query q) = executor.answer (.query q)) →
      (d.interpret (s.answer label)).run executor' state =
        (d.interpret (s.answer label)).run executor state := by
  intro d calls
  have hfollows : Follows (s.responder label executor)
      (fun past e => s.RestrictedCall label executor past request r e.request) (fun _ _ _ => True)
      d [] state := by
    obtain ⟨first, second, hd⟩ := Engine.performAuthorized_restricted settings requestId houtcome
    change Follows _ _ _ (Engine.performAuthorized settings requestId source identity request) [] state
    rw [hd]
    exact answer_follows settings (requestLabel requestId) haccess _
  have hstatements : ∀ e ∈ (d.interpret (s.answer label)).transcript executor state,
      ∃ q, e.request = .query q ∧ s.RestrictedStatement label executor calls request r q := by
    intro e he
    rw [transcript_interpret_answer] at he
    obtain ⟨call, hcall, he⟩ := List.mem_flatMap.mp he
    obtain ⟨before, after, hsplit⟩ := List.append_of_mem hcall
    have hkeeps := keepsTo_carryOut hplain (hfollows.rule_of_transcript hsplit)
    obtain ⟨q, hq, hstatement⟩ := exists_of_queries (hkeeps.of_mem_transcript he)
    have hcalls : calls = before ++ call :: after := hsplit
    rw [hcalls]
    exact ⟨q, hq, hstatement.append⟩
  refine ⟨hstatements, fun executor' hnote hanswer => run_congr hnote fun e he => ?_⟩
  obtain ⟨q, hq, hstatement⟩ := hstatements e he
  rw [hq, hanswer q hstatement]

/-! ### Employees behind a restriction -/

section Employees

open Introspection

/-- An executor with prepared rows: each statement is answered by the next. -/
def prepared : Responder SqlRequest SqlRequest.Answer (List (List Record)) where
  answer request replies :=
    match request with
    | .query _ => (.ok (replies.headD []), replies.tail)
    | .execute _ => (.ok default, replies)
    | .insertReturning _ _ => (.ok none, replies)
    | .now => (default, replies)
  note _ replies := replies

/-- The statements whose rows a dialogue asks for. -/
def queries {α : Type} (s : SqlStore) (replies : List (List Record)) (d : StoreDialogue α) :
    List CompiledQuery :=
  ((d.interpret (s.answer "-")).transcript prepared replies).filterMap fun e =>
    match e.request with
    | .query q => some q
    | _ => none

/-- What the catalog says of employees, who have other employees as managers. -/
def employeesCatalog : List (List Record) :=
  [[columnRow "id" "integer" "PRI", columnRow "email" "text" "UNI", columnRow "manager" "integer" "",
      columnRow "owner" "text" "", columnRow "team.name" "text" ""],
    [keyRow "manager" "employees" "id"], []]

def employee : Record := [("id", .int 2), ("manager", .int 1), ("total", .int 0)]

/-- A store that looks related rows up. -/
def lookingUp : SqlStore := ⟨.sqlite, { EngineSettings.standard with joinRelations := false }⟩

def restrictedTo (r : Restriction) : PermissionSource := fun _ _ _ => .ok (.restricted r)

/-- The statements of a request on behalf of an identity that a restriction applies to. -/
def restrictedQueries (r : Restriction) (request : Request) (replies : List (List Record)) :
    List CompiledQuery :=
  lookingUp.queries replies
    (Engine.performAuthorized .standard none (restrictedTo r) "u1" request)

def owned : Restriction := ⟨"owner", .string "u1"⟩

/-- An employee with the manager. -/
def withManager : Request :=
  .find "employees" [("fields", "id,employees.id"), ("relations", "employees")]

def managerReplies : List (List Record) :=
  employeesCatalog ++ employeesCatalog ++ [[employee], [employee]]

/-- An employee's id and manager, read where the restriction holds. -/
def ownEmployee : CompiledQuery where
  sql := "SELECT \"employees\".\"id\" AS \"id\", \"employees\".\"manager\" AS \"manager\" " ++
    "FROM \"employees\" WHERE \"employees\".\"owner\" = ? LIMIT 1 OFFSET 0"
  params := [.text "u1"]

/-- An employee is read where the restriction holds, and the manager is looked up. -/
theorem restricted_statements_withManager :
    withManager.access? = some .read ∧ splitReference? owned.column = none ∧
      ownEmployee ∈ restrictedQueries owned withManager managerReplies ∧
      ∃ calls, ∀ e ∈ ((Engine.performAuthorized .standard none (restrictedTo owned) "u1"
          withManager).interpret (lookingUp.answer "-")).transcript prepared managerReplies,
        ∃ q, e.request = .query q ∧
          lookingUp.RestrictedStatement "-" prepared calls withManager owned q := by
  have hplain : splitReference? owned.column = none := by decide +kernel
  exact ⟨rfl, hplain, by decide +kernel, _, (restricted_statements lookingUp "-" prepared .standard none
    (restrictedTo owned) "u1" withManager rfl rfl hplain managerReplies).1⟩

/-- A read of employees under a restriction on a column of theirs leads to this statement. It reads
employees, not the catalog, and not where the restriction holds: the column is not even named in it. -/
structure LeavesOut (r : Restriction) (request : Request) (replies : List (List Record))
    (q : CompiledQuery) : Prop where
  read : request.access? = some .read ∧ request.table? = some "employees"
  column : ∃ schema, ((lookingUp.getSchema "-" "employees").run prepared replies).1 = .ok schema ∧
    schema.hasColumn r.column = true
  sent : q ∈ restrictedQueries r request replies
  table : " FROM \"employees\" WHERE ".toList <:+: q.sql.toList
  other : ¬ SqlDialect.sqlite.IsCatalog q
  unnamed : ¬ (SqlDialect.sqlite.quote r.column).toList <:+: q.sql.toList
  free : ∀ column, ¬ SqlDialect.sqlite.ReadsWhere "employees" r.column column r.value q

theorem leavesOut {r : Restriction} {request : Request} {replies : List (List Record)}
    {q : CompiledQuery}
    (hread : request.access? = some .read ∧ request.table? = some "employees")
    (hcolumn : ∃ schema ∈ ((lookingUp.getSchema "-" "employees").run prepared replies).1.toOption,
      schema.hasColumn r.column = true)
    (hsent : q ∈ restrictedQueries r request replies)
    (htable : " FROM \"employees\" WHERE ".toList <:+: q.sql.toList)
    (hother : q.sql ∉ [SqlDialect.sqlite.catalog.columns, SqlDialect.sqlite.catalog.forwardKeys,
      SqlDialect.sqlite.catalog.backwardKeys])
    (hunnamed : ¬ (SqlDialect.sqlite.quote r.column).toList <:+: q.sql.toList) :
    LeavesOut r request replies q := by
  refine ⟨hread, ?_, hsent, htable, ?_, hunnamed, fun column h => hunnamed h.infix_sql⟩
  · obtain ⟨schema, hschema, hhas⟩ := hcolumn
    exact ⟨schema, eq_ok_of_toOption_eq_some hschema, hhas⟩
  · rintro ⟨table, hcatalog⟩
    refine hother ?_
    simpa [SqlDialect.catalogQuery] using List.mem_map_of_mem (f := (·.sql)) hcatalog

/-- The manager is looked up by the key alone. -/
def managerLookup : CompiledQuery where
  sql := "SELECT \"employees\".\"id\" AS \"id\" FROM \"employees\" " ++
    "WHERE \"employees\".\"id\" = ? LIMIT 1000 OFFSET 0"
  params := [.int 1]

/-- All employees with an address are counted. -/
def addressCount : CompiledQuery where
  sql := "SELECT COUNT(*) AS \"total\" FROM \"employees\" WHERE \"email\" = ?"
  params := [.text "b"]

/-- A name with a dot is taken for a column of another table. -/
def otherTeam : CompiledQuery where
  sql := "SELECT \"employees\".\"id\" AS \"id\" FROM \"employees\" " ++
    "WHERE \"team\".\"name\" = ? LIMIT 1 OFFSET 0"
  params := [.text "red"]

/-- Three statements that leave the restriction out: the lookup of a row of the table itself, the count
of a uniqueness check, and a read under a restriction on a column with a dot in its name. -/
theorem restriction_left_out :
    LeavesOut owned withManager managerReplies managerLookup ∧
      LeavesOut owned (.unique "employees" [("email", .string "b")] none)
        (employeesCatalog ++ [[employee]]) addressCount ∧
      LeavesOut ⟨"team.name", .string "red"⟩ (.find "employees" [("fields", "id")])
        (employeesCatalog ++ [[employee]]) otherTeam := by
  refine ⟨leavesOut ⟨rfl, rfl⟩ ?_ ?_ ?_ ?_ ?_, leavesOut ⟨rfl, rfl⟩ ?_ ?_ ?_ ?_ ?_,
    leavesOut ⟨rfl, rfl⟩ ?_ ?_ ?_ ?_ ?_⟩
  all_goals decide +kernel

end Employees

end SqlStore

end DataAccess
