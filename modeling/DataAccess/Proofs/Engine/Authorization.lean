import DataAccess.Engine.Basic
import DataAccess.Proofs.Dialogue.Transcript
import DataAccess.Proofs.Json.Record
import DataAccess.Proofs.Results
import DataAccess.Store.Catalog

/-!
# What an identity makes the store do

A request that is turned away never reaches the store. Under a restriction every call that does
reach it is admitted by the restriction, whatever the store answers: reads end in the restriction's
condition, new records carry its value, and other writes come after a look at their row.
-/

namespace DataAccess

open Dialogue

namespace StoreDialogue

variable {σ : Type} {responder : Responder StoreCall StoreCall.Answer σ}
  {rule : List (Exchange StoreCall σ) → Exchange StoreCall σ → Prop}

/-- A call is carried out where it stands. -/
theorem interpret_call {Inner : Type} {InnerAnswer : Inner → Type}
    (carryOut : (c : StoreCall) → Dialogue Inner InnerAnswer c.Result) (c : StoreCall) :
    (call c).interpret (fun c => (carryOut c).attempt) = carryOut c := by
  rw [call, interpret_bind]
  have hrequest : (Dialogue.request c).interpret (fun c => (carryOut c).attempt) =
      (carryOut c).attempt := bind_done _
  rw [hrequest]
  simp only [interpret_ofExcept]
  exact bind_attempt_ofExcept _

theorem follows_call_bind {α : Type} {c : StoreCall}
    {post : List (Exchange StoreCall σ) → σ → Except EngineError α → Prop}
    {next : c.Result → StoreDialogue α} {past : List (Exchange StoreCall σ)} {state : σ}
    (hrule : rule past ⟨c, state⟩)
    (hok : ∀ value after, Answered responder (past ++ [⟨c, state⟩]) c (.ok value) →
      Follows responder rule post (next value) (past ++ [⟨c, state⟩]) after)
    (herror : ∀ error after, post (past ++ [⟨c, state⟩]) after (.error error)) :
    Follows responder rule post ((call c).bind next) past state := by
  refine follows_request_bind hrule ?_ herror
  intro value hvalue
  refine hok value _ ?_
  rw [← hvalue]
  exact answered_last responder past c state

end StoreDialogue

namespace Engine

/-! ### Requests turned away -/

/-- What a source says of a request that asks for access to a table. -/
def outcome? (source : PermissionSource) (identity : String) (request : Request) :
    Option (Except EngineError Outcome) :=
  match request.table?, request.access? with
  | some table, some access => some (source identity table access)
  | _, _ => none

/-- The error that keeps a request from the store: that of a source which fails, or the denial of
the table. Emptying and making tables are denied to a restricted identity as well. -/
def refusal? (source : PermissionSource) (identity : String) (request : Request) :
    Option EngineError :=
  match outcome? source identity request, request.table? with
  | some (.error error), _ => some error
  | some (.ok .deny), some table => some (.permissionDenied table)
  | some (.ok (.restricted _)), some table =>
    match request with
    | .truncate _ | .createTable _ => some (.permissionDenied table)
    | _ => none
  | _, _ => none

theorem permission_eq (label : String) (source : PermissionSource) (identity : String)
    (request : Request) {result : Except EngineError Outcome}
    (h : outcome? source identity request = some result) :
    ∃ (table : String) (entry : Outcome → LogEntry), request.table? = some table ∧
      permission label source identity request =
        (Dialogue.ofExcept result).bind fun outcome =>
          .note (entry outcome) (Dialogue.ofExcept (outcome.restriction table)) := by
  cases htable : request.table? with
  | none => simp [outcome?, htable] at h
  | some table =>
    cases haccess : request.access? with
    | none => simp [outcome?, htable, haccess] at h
    | some access =>
      simp only [outcome?, htable, haccess, Option.some.injEq] at h
      subst h
      refine ⟨table, fun outcome => ⟨.debug, .query,
        s!"[{label}] {identity} {request.verb} on {table}: {outcome.described}"⟩, rfl, ?_⟩
      simp only [permission, htable, haccess]
      rfl

/-- Under a restriction a request is executed with it, after two log entries. -/
theorem performAuthorized_restricted (settings : EngineSettings) (requestId : Option String)
    {source : PermissionSource} {identity : String} {request : Request} {r : Restriction}
    (h : outcome? source identity request = some (.ok (.restricted r))) :
    ∃ first second, performAuthorized settings requestId source identity request =
      .note first (.note second (answer settings (requestLabel requestId) (some r) request)) := by
  obtain ⟨table, entry, -, hpermission⟩ :=
    permission_eq (requestLabel requestId) source identity request h
  simp only [performAuthorized, hpermission]
  exact ⟨_, _, rfl⟩

/-- A request on behalf of an identity ends before the store is asked, or is executed. -/
theorem run_performAuthorized_cases {σ : Type} {responder : Responder StoreCall StoreCall.Answer σ}
    (hquiet : responder.Quiet) (settings : EngineSettings) (requestId : Option String)
    {source : PermissionSource} {identity : String} {request : Request} (state : σ)
    {result : Except EngineError Outcome} (h : outcome? source identity request = some result) :
    ((performAuthorized settings requestId source identity request).run responder state).2 = state ∨
      ∃ restriction,
        (performAuthorized settings requestId source identity request).run responder state =
          (answer settings (requestLabel requestId) restriction request).run responder state := by
  obtain ⟨table, entry, -, hpermission⟩ :=
    permission_eq (requestLabel requestId) source identity request h
  simp only [performAuthorized, hpermission]
  cases result with
  | error error => exact .inl rfl
  | ok outcome =>
    cases outcome with
    | deny => exact .inl (hquiet _ _)
    | allow =>
        refine .inr ⟨none, ?_⟩
        have hrun : (execute settings (requestLabel requestId) none request).run responder state =
            (answer settings (requestLabel requestId) none request).run responder state :=
          congrArg _ (hquiet _ _)
        rw [← hrun]
        exact congrArg _ (hquiet _ _)
    | restricted r =>
        refine .inr ⟨some r, ?_⟩
        have hrun : (execute settings (requestLabel requestId) (some r) request).run responder state =
            (answer settings (requestLabel requestId) (some r) request).run responder state :=
          congrArg _ (hquiet _ _)
        rw [← hrun]
        exact congrArg _ (hquiet _ _)

/-- A response comes from an outcome that is no denial, and is the answer under its restriction. -/
theorem exists_outcome_of_run_eq_ok {σ : Type} {responder : Responder StoreCall StoreCall.Answer σ}
    (hquiet : responder.Quiet) {settings : EngineSettings} {requestId : Option String}
    {source : PermissionSource} {identity table : String} {request : Request} {response : Response}
    {state after : σ} {result : Except EngineError Outcome} (htable : request.table? = some table)
    (houtcome : outcome? source identity request = some result)
    (h : (performAuthorized settings requestId source identity request).run responder state =
      (.ok response, after)) :
    ∃ outcome restriction, result = .ok outcome ∧ outcome.restriction table = .ok restriction ∧
      (answer settings (requestLabel requestId) restriction request).run responder state =
        (.ok response, after) := by
  obtain ⟨name, entry, hname, hpermission⟩ :=
    permission_eq (requestLabel requestId) source identity request houtcome
  obtain rfl : name = table := Option.some.inj (hname.symm.trans htable)
  simp only [performAuthorized, hpermission] at h
  obtain ⟨restriction, middle, hsettled, hexecuted⟩ := exists_of_run_bind_eq_ok _ h
  obtain ⟨outcome, first, hresult, hnoted⟩ := exists_of_run_bind_eq_ok _ hsettled
  rw [run_ofExcept] at hresult
  obtain ⟨rfl, rfl⟩ := Prod.mk.inj hresult
  rw [run, run_ofExcept, hquiet] at hnoted
  obtain ⟨hrestriction, rfl⟩ := Prod.mk.inj hnoted
  refine ⟨outcome, restriction, rfl, hrestriction, ?_⟩
  rw [← hexecuted]
  exact (congrArg _ (hquiet _ _)).symm

/-- A source is asked once for a request, and nothing else of it counts. -/
theorem performAuthorized_congr (settings : EngineSettings) (requestId : Option String)
    {source source' : PermissionSource} {identity : String} {request : Request}
    (h : outcome? source identity request = outcome? source' identity request) :
    performAuthorized settings requestId source identity request =
      performAuthorized settings requestId source' identity request := by
  have hpermission : permission (requestLabel requestId) source identity request =
      permission (requestLabel requestId) source' identity request := by
    rw [permission, permission]
    rw [outcome?, outcome?] at h
    split
    next table access htable haccess =>
      rw [htable, haccess] at h
      rw [Option.some.inj h]
    next _ => rfl
  rw [performAuthorized, performAuthorized, hpermission]

section Transcript

variable {σ : Type} (responder : Responder StoreCall StoreCall.Answer σ)

theorem run_of_refusal (settings : EngineSettings) (requestId : Option String)
    (source : PermissionSource) (identity : String) (request : Request) (state : σ)
    {error : EngineError} (h : refusal? source identity request = some error) :
    (performAuthorized settings requestId source identity request).transcript responder state = [] ∧
      ((performAuthorized settings requestId source identity request).run responder state).1 =
        .error error := by
  cases houtcome : outcome? source identity request with
  | none => simp [refusal?, houtcome] at h
  | some result =>
    obtain ⟨table, entry, htable, hpermission⟩ :=
      permission_eq (requestLabel requestId) source identity request houtcome
    simp only [performAuthorized, hpermission]
    rw [refusal?, houtcome, htable] at h
    cases result with
    | error failure =>
        obtain rfl := Option.some.inj h
        exact ⟨rfl, rfl⟩
    | ok outcome =>
      cases outcome with
      | allow => simp at h
      | deny =>
          obtain rfl := Option.some.inj h
          exact ⟨rfl, rfl⟩
      | restricted r =>
        cases request with
        | truncate name =>
            obtain rfl := Option.some.inj htable
            obtain rfl := Option.some.inj h
            exact ⟨rfl, rfl⟩
        | createTable schema =>
            obtain rfl := Option.some.inj htable
            obtain rfl := Option.some.inj h
            exact ⟨rfl, rfl⟩
        | _ => simp at h

/-! ### Calls under a restriction -/

variable (r : Restriction) (past : List (Exchange StoreCall σ))

/-- A read of the rows that a restriction shows: the schema is the store's, the request's own
conditions come first, and the condition of the restriction is the last. -/
structure Narrowed (table : String) (params : Params) (options : FindOptions) : Prop where
  of_schema : Answered responder past (.getSchema table) (.ok options.schema)
  filters : ∃ own, Reading.filters options.schema params = .ok own ∧
    options.filters = own ++ [.equals r.column r.value]

/-- A look at the row of an id, as far as the restriction shows it. -/
structure Look (schema : Schema) (id : Json) (options : FindOptions) : Prop where
  of_schema : options.schema = schema
  filters : ∃ key, schema.key = .ok key ∧
    options.filters = [.equals key id, .equals r.column r.value]

/-- What precedes a restricted write: the store gave the schema of the table, and a look at the row
of the id found one. -/
structure Seen (table : String) (schema : Schema) (id : Json) : Prop where
  of_schema : Answered responder past (.getSchema table) (.ok schema)
  row : ∃ options row, Look r schema id options ∧
    Answered responder past (.findOne options) (.ok (some row))

/-- The calls that a request may lead to under a restriction, given the exchanges before them. -/
def Admits (request : Request) : StoreCall → Prop
  | .getSchema _ => True
  | .findOne options =>
    (∃ table params, request = .find table params ∧ Narrowed responder r past table params options) ∨
      ∃ table id schema, (request = .delete table id ∨ ∃ data, request = .update table id data) ∧
        Answered responder past (.getSchema table) (.ok schema) ∧ Look r schema id options
  | .findMany options | .countRows options =>
    ∃ table params, request = .findMany table params ∧ Narrowed responder r past table params options
  | .createOne schema data =>
    ∃ table own, request = .create table own ∧
      Answered responder past (.getSchema table) (.ok schema) ∧
      data = Record.insert own r.column r.value ∧ Record.get? data r.column = some r.value
  | .updateOne schema id data =>
    ∃ table own, request = .update table id own ∧ Seen responder r past table schema id ∧
      data = Record.erase own r.column ∧ Record.get? data r.column = none
  | .deleteOne schema id _ =>
    ∃ table, request = .delete table id ∧ Seen responder r past table schema id
  | .uniqueCheck schema data id =>
    ∃ table, request = .unique table data id ∧
      Answered responder past (.getSchema table) (.ok schema)
  | .checkConnection | .listTables | .createTable _ | .truncate _ => False

end Transcript

/-! ### Following the rule -/

section Follow

variable {σ : Type} {responder : Responder StoreCall StoreCall.Answer σ}
  {rule : List (Exchange StoreCall σ) → Exchange StoreCall σ → Prop}
  {past : List (Exchange StoreCall σ)} {state : σ}

/-- A relation of a schema, with what the store gave as the schema of its table. -/
def Attached (responder : Responder StoreCall StoreCall.Answer σ)
    (past : List (Exchange StoreCall σ)) (schema : Schema) (q : RelationRequest) : Prop :=
  ∃ name relation relatedSchema, schema.relation? name = some relation ∧
    Answered responder past (.getSchema relation.table) (.ok relatedSchema) ∧
    q.relation = { relation with schema := some relatedSchema }

theorem Attached.append {schema : Schema} {q : RelationRequest}
    {more : List (Exchange StoreCall σ)} (h : Attached responder past schema q) :
    Attached responder (past ++ more) schema q := by
  obtain ⟨name, relation, relatedSchema, hrelation, hanswered, hq⟩ := h
  exact ⟨name, relation, relatedSchema, hrelation, hanswered.append, hq⟩

theorem attachAll_follows (hschema : ∀ past table state, rule past ⟨.getSchema table, state⟩)
    (label : String) (schema : Schema) (related : List (String × String))
    (requested : List RequestedRelation) {attached : List RelationRequest}
    (hattached : ∀ q ∈ attached, Attached responder past schema q) :
    Follows responder rule
      (fun past' _ result => ∀ relations, result = .ok relations →
        ∀ q ∈ relations, Attached responder past' schema q)
      (attachAll label schema related requested attached) past state := by
  -- The schemas asked for so far are among the exchanges of those still to come.
  induction requested generalizing attached past state with
  | nil =>
      intro relations hrelations
      obtain rfl := Except.ok.inj hrelations
      exact hattached
  | cons first rest ih =>
      rw [attachAll]
      split
      · exact ih hattached
      rw [bind_eq_bind, follows_bind, attach]
      cases hrelation : schema.relation? first.table with
      | none =>
          intro relations hrelations
          cases hrelations
      | some relation =>
          refine StoreDialogue.follows_call_bind (hschema _ _ _) ?_ (by simp [AfterOk])
          intro relatedSchema after hanswered
          refine ih fun q hq => ?_
          rcases List.mem_append.mp hq with hq | hq
          · exact (hattached q hq).append
          · rw [List.mem_singleton.mp hq]
            exact ⟨first.table, relation, relatedSchema, hrelation, hanswered, rfl⟩

theorem readOptions_ok {settings : EngineSettings} {schema : Schema} {params : Params}
    {options : FindOptions} {requested : List RequestedRelation} {related : List (String × String)}
    (h : readOptions settings schema params = .ok (options, requested, related)) :
    options.schema = schema ∧ Reading.filters schema params = .ok options.filters := by
  rw [readOptions] at h
  obtain ⟨filters, hfilters, h⟩ := exists_of_bind_eq_ok h
  -- Each directive is read or has a default; neither touches the schema or the conditions.
  dsimp only at h
  split at h
  all_goals
    obtain ⟨sort, -, h⟩ := exists_of_bind_eq_ok h
    split at h
  all_goals
    obtain ⟨fields, -, h⟩ := exists_of_bind_eq_ok h
    split at h
  all_goals
    obtain ⟨named, -, h⟩ := exists_of_bind_eq_ok h
    obtain ⟨position, -, h⟩ := exists_of_bind_eq_ok h
    obtain ⟨rfl, -⟩ := Prod.mk.inj (Except.ok.inj h)
    exact ⟨rfl, hfilters⟩

theorem prepareFind_attaches (hschema : ∀ past table state, rule past ⟨.getSchema table, state⟩)
    (settings : EngineSettings) (label table : String) (params : Params) :
    Follows responder rule
      (fun past' _ result => ∀ options, result = .ok options →
        Answered responder past' (.getSchema table) (.ok options.schema) ∧
          Reading.filters options.schema params = .ok options.filters ∧
          ∀ q ∈ options.relations, Attached responder past' options.schema q)
      (prepareFind settings label table params) past state := by
  rw [prepareFind]
  refine StoreDialogue.follows_call_bind (hschema _ _ _) ?_ (by simp)
  intro schema after hanswered
  rw [bind_eq_bind, follows_bind, follows_ofExcept]
  refine AfterOk.of_cases ?_ (by simp)
  rintro ⟨options, requested, related⟩ hread
  obtain ⟨hschema', hfilters⟩ := readOptions_ok hread
  simp only
  rw [bind_eq_bind, follows_bind, resolveRelations]
  refine ((attachAll_follows hschema label schema related _ (List.forall_mem_nil _)).grows).mono ?_
  rintro past' state' result ⟨hattached, more, rfl⟩
  refine AfterOk.of_cases ?_ (by simp)
  intro relations hrelations
  rw [bind_eq_bind, follows_bind, follows_ofExcept]
  refine AfterOk.of_cases ?_ (by simp)
  intro _ _ prepared hprepared
  obtain rfl := Except.ok.inj hprepared
  subst hschema'
  exact ⟨hanswered.append, hfilters, hattached relations hrelations⟩

theorem prepareFind_follows (hschema : ∀ past table state, rule past ⟨.getSchema table, state⟩)
    (settings : EngineSettings) (label table : String) (params : Params) :
    Follows responder rule
      (fun past' _ result => ∀ options, result = .ok options →
        Answered responder past' (.getSchema table) (.ok options.schema) ∧
          Reading.filters options.schema params = .ok options.filters)
      (prepareFind settings label table params) past state := by
  refine (prepareFind_attaches hschema settings label table params).mono ?_
  intro past' state' result h options hoptions
  obtain ⟨hanswered, hfilters, -⟩ := h options hoptions
  exact ⟨hanswered, hfilters⟩

theorem findPage_follows {options : FindOptions}
    (hcount : ∀ more state, rule (past ++ more) ⟨.countRows options, state⟩)
    (hrows : ∀ more state, rule (past ++ more) ⟨.findMany options, state⟩) :
    Follows responder rule (fun _ _ _ => True) (findPage options) past state := by
  rw [findPage]
  refine StoreDialogue.follows_call_bind (by simpa using hcount [] state) ?_ fun _ _ => trivial
  intro total after _
  by_cases htotal : total = 0
  · simp only [htotal, if_true]
    exact trivial
  · simp only [htotal, if_false]
    exact StoreDialogue.follows_call_bind (hrows _ _) (fun _ _ _ => trivial) fun _ _ => trivial

end Follow

section Restricted

variable {σ : Type} {responder : Responder StoreCall StoreCall.Answer σ} {r : Restriction}
  {past : List (Exchange StoreCall σ)} {state : σ}

/-- The rule of a restriction for the calls of one request. -/
abbrev Admitted (responder : Responder StoreCall StoreCall.Answer σ) (r : Restriction)
    (request : Request) (past : List (Exchange StoreCall σ)) (e : Exchange StoreCall σ) : Prop :=
  Admits responder r past request e.request

theorem narrowed_addTo {table : String} {params : Params} {options : FindOptions}
    (h : Answered responder past (.getSchema table) (.ok options.schema) ∧
      Reading.filters options.schema params = .ok options.filters) :
    Narrowed responder r past table params
      { options with filters := Restriction.addTo (some r) options.filters } :=
  ⟨h.1, options.filters, h.2, rfl⟩

/-- Going on after the look at a row of a restricted write has found one. -/
theorem checkVisible_follows {request : Request} {table : String} {schema : Schema} {id : Json}
    (hrequest : request = .delete table id ∨ ∃ data, request = .update table id data)
    (hschema : Answered responder past (.getSchema table) (.ok schema)) :
    Follows responder (Admitted responder r request)
      (fun past' _ result => result = .ok () → Seen responder r past' table schema id)
      (checkVisible schema id (some r)) past state := by
  rw [checkVisible, bind_eq_bind, follows_bind, follows_ofExcept]
  refine AfterOk.of_cases ?_ (by simp)
  intro key hkey
  have hlook : Look r schema id
      { FindOptions.ofSchema schema with filters := [.equals key id, r.predicate] } :=
    ⟨rfl, key, hkey, rfl⟩
  refine StoreDialogue.follows_call_bind (Or.inr ⟨table, id, schema, hrequest, hschema, hlook⟩) ?_
    (by simp)
  intro found after hanswered
  cases found with
  | none =>
      intro h
      cases h
  | some row => exact fun _ => ⟨hschema.append, _, row, hlook, hanswered⟩

/-- Under a restriction every verb keeps to the calls that it admits. -/
theorem answer_follows (settings : EngineSettings) (label : String) (request : Request)
    (htable : request.table? ≠ none) :
    Follows responder (Admitted responder r request) (fun _ _ _ => True)
      (answer settings label (some r) request) [] state := by
  have hschemas : ∀ past table (state : σ), Admitted responder r request past
      ⟨.getSchema table, state⟩ := fun _ _ _ => trivial
  cases request with
  | create table data =>
      refine StoreDialogue.follows_call_bind trivial ?_ fun _ _ => trivial
      intro schema after hanswered
      refine StoreDialogue.follows_call_bind ?_ (fun _ _ _ => trivial) fun _ _ => trivial
      exact ⟨table, data, rfl, hanswered, rfl, Record.get?_insert_self data r.column r.value⟩
  | find table params =>
      rw [answer, bind_eq_bind, follows_bind]
      refine (prepareFind_follows hschemas settings label table params).mono ?_
      intro past' state' result hresult
      refine AfterOk.of_cases ?_ fun _ _ => trivial
      intro options hoptions
      have hnarrowed := narrowed_addTo (r := r) (hresult options hoptions)
      exact StoreDialogue.follows_call_bind (Or.inl ⟨table, params, rfl, hnarrowed⟩)
        (fun _ _ _ => trivial) fun _ _ => trivial
  | findMany table params =>
      rw [answer, bind_eq_bind, follows_bind]
      refine (prepareFind_follows hschemas settings label table params).mono ?_
      intro past' state' result hresult
      refine AfterOk.of_cases ?_ fun _ _ => trivial
      intro options hoptions
      have hnarrowed : ∀ more, Narrowed responder r (past' ++ more) table params
          { options with filters := Restriction.addTo (some r) options.filters } := fun more =>
        narrowed_addTo ⟨(hresult options hoptions).1.append, (hresult options hoptions).2⟩
      rw [bind_eq_bind, follows_bind]
      refine (findPage_follows (fun more _ => ⟨table, params, rfl, hnarrowed more⟩)
        fun more _ => ⟨table, params, rfl, hnarrowed more⟩).mono ?_
      intro _ _ _ _
      exact AfterOk.of_cases (fun _ _ => trivial) fun _ _ => trivial
  | update table id data =>
      refine StoreDialogue.follows_call_bind trivial ?_ fun _ _ => trivial
      intro schema after hanswered
      rw [bind_eq_bind, follows_bind]
      refine (checkVisible_follows (Or.inr ⟨data, rfl⟩) hanswered).mono ?_
      intro past' state' result hseen
      refine AfterOk.of_cases ?_ fun _ _ => trivial
      intro _ hresult
      refine StoreDialogue.follows_call_bind ?_ (fun _ _ _ => trivial) fun _ _ => trivial
      exact ⟨table, data, rfl, hseen hresult, rfl, Record.get?_erase_self data r.column⟩
  | delete table id =>
      refine StoreDialogue.follows_call_bind trivial ?_ fun _ _ => trivial
      intro schema after hanswered
      rw [bind_eq_bind, follows_bind]
      refine (checkVisible_follows (Or.inl rfl) hanswered).mono ?_
      intro past' state' result hseen
      refine AfterOk.of_cases ?_ fun _ _ => trivial
      intro _ hresult
      exact StoreDialogue.follows_call_bind ⟨table, rfl, hseen hresult⟩ (fun _ _ _ => trivial)
        fun _ _ => trivial
  | unique table data id =>
      refine StoreDialogue.follows_call_bind trivial ?_ fun _ _ => trivial
      intro schema after hanswered
      exact StoreDialogue.follows_call_bind ⟨table, rfl, hanswered⟩ (fun _ _ _ => trivial)
        fun _ _ => trivial
  | truncate table => exact trivial
  | createTable schema => exact trivial
  | checkConnection => exact absurd rfl htable
  | listTables => exact absurd rfl htable

end Restricted

/-- **Permissions confine what the store is asked.** Against any store, in any state: a request that
is turned away ends in its error, and the store hears nothing; and under a restriction every call of
the run is one that the restriction admits after the exchanges before it. -/
theorem performAuthorized_confined {σ : Type} (settings : EngineSettings)
    (requestId : Option String) (source : PermissionSource) (identity : String) (request : Request)
    (responder : Responder StoreCall StoreCall.Answer σ) (state : σ) :
    (∀ error, refusal? source identity request = some error →
      (performAuthorized settings requestId source identity request).transcript responder state = [] ∧
        ((performAuthorized settings requestId source identity request).run responder state).1 =
          .error error) ∧
      ∀ r, outcome? source identity request = some (.ok (.restricted r)) →
        ∀ before e after,
          (performAuthorized settings requestId source identity request).transcript responder state =
              before ++ e :: after →
            Admits responder r before request e.request := by
  refine ⟨fun error h => run_of_refusal responder settings requestId source identity request state h,
    ?_⟩
  intro r houtcome before e after hsplit
  obtain ⟨first, second, hperform⟩ := performAuthorized_restricted settings requestId houtcome
  have htable : request.table? ≠ none := fun hnone => by simp [outcome?, hnone] at houtcome
  have hfollows : Follows responder (Admitted responder r request) (fun _ _ _ => True)
      (performAuthorized settings requestId source identity request) [] state := by
    rw [hperform]
    exact answer_follows settings (requestLabel requestId) request htable
  simpa using hfollows.rule_of_transcript hsplit

/-- A table of accounts that shows one row to every read of one row. -/
def accountsResponder : Responder StoreCall StoreCall.Answer Unit where
  answer
    | .findOne _, state => (.ok (some [("_id", .string "a1")]), state)
    | c, state =>
      (StoreCall.answerFrom
        [.ofColumns "accounts" [(Column.ofType "_id" .string).asPrimary]] c, state)
  note _ state := state

/-- A restricted deletion reaches the table, and is the third call. -/
theorem performAuthorized_confined_delete :
    ∃ before e, before.length = 2 ∧
      (performAuthorized .standard none (fun _ _ _ => .ok (.restricted ⟨"owner", .string "u1"⟩)) "u1"
          (.delete "accounts" (.string "a1"))).transcript accountsResponder () = before ++ [e] ∧
        Admits accountsResponder ⟨"owner", .string "u1"⟩ before (.delete "accounts" (.string "a1"))
          e.request :=
  ⟨_, _, rfl, rfl,
    (performAuthorized_confined .standard none
      (fun _ _ _ => .ok (.restricted ⟨"owner", .string "u1"⟩)) "u1"
      (.delete "accounts" (.string "a1")) accountsResponder ()).2
        ⟨"owner", .string "u1"⟩ rfl [_, _] _ [] rfl⟩

end Engine

end DataAccess
