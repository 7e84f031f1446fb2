import DataAccess.Proofs.Coercion.Idempotence
import DataAccess.Proofs.Dialogue.Blame
import DataAccess.Proofs.Sql.CheckedRead
import DataAccess.Proofs.Sql.RestrictedRead

/-!
# Writes that are refused

An error that blames a request is found before the request has written anything. A write is followed by
a look at its row, whose key is coerced once more; that the look is not refused rests on coercion being
idempotent, and where the key was generated on the column taking it.
-/

namespace DataAccess

open Dialogue

/-! ### Statements that write -/

/-- Whether a statement, by how it begins, is one of those that write rows. -/
def CompiledQuery.IsWrite (q : CompiledQuery) : Prop :=
  ∃ verb ∈ ["INSERT", "UPDATE", "DELETE"], verb.toList <+: q.sql.toList

namespace CompiledQuery

theorem not_isWrite_of_select {q : CompiledQuery} (h : "SELECT".toList <+: q.sql.toList) :
    ¬ q.IsWrite := by
  rintro ⟨verb, hverb, hprefix⟩
  -- Of two beginnings of a text one begins with the other.
  have hclash : ∀ verb ∈ ["INSERT", "UPDATE", "DELETE"],
      ¬ verb.toList <+: "SELECT".toList ∧ ¬ "SELECT".toList <+: verb.toList := by decide
  rcases List.prefix_or_prefix_of_prefix hprefix h with hclose | hclose
  · exact (hclash verb hverb).1 hclose
  · exact (hclash verb hverb).2 hclose

end CompiledQuery

namespace Statement

theorem prefix_sql_compile {d : SqlDialect} {text : String} {rest : Statement} {start : List Char}
    (h : start <+: text.toList) : start <+: (compile d (.code text :: rest)).sql.toList := by
  rw [toList_compile, chars_code]
  exact h.trans (List.prefix_append _ _)

end Statement

namespace SqlDialect

variable (d : SqlDialect) (schema : Schema) (key : String)

theorem isWrite_insertQuery (data : Record) (returnIdentity : Bool) :
    (d.insertQuery schema key data returnIdentity).IsWrite := by
  refine ⟨"INSERT", by decide, ?_⟩
  have hbegins : "INSERT".toList <+: "INSERT INTO ".toList := by decide
  rw [insertQuery, insertPieces]
  split
  · cases d <;> exact Statement.prefix_sql_compile hbegins
  · exact Statement.prefix_sql_compile hbegins

theorem isWrite_updateQuery (data : Record) (id : Json) :
    (d.updateQuery schema key data id).IsWrite :=
  ⟨"UPDATE", by decide, Statement.prefix_sql_compile (by decide)⟩

theorem isWrite_deleteQuery (id : Json) : (d.deleteQuery schema key id).IsWrite :=
  ⟨"DELETE", by decide, Statement.prefix_sql_compile (by decide)⟩

variable {d}

theorem not_isWrite_selectQuery {o : FindOptions} {joinAll paginate : Bool} {q : CompiledQuery}
    (h : d.selectQuery o joinAll paginate = .ok q) : ¬ q.IsWrite := by
  obtain ⟨s, -, rfl⟩ := exists_of_map_eq_ok h
  refine CompiledQuery.not_isWrite_of_select ?_
  rw [Select.pieces]
  split
  · exact Statement.prefix_sql_compile (by decide)
  rw [Select.paged]
  cases d.paginationStyle with
  | limitOffset => exact Statement.prefix_sql_compile (by decide)
  | offsetFetch => exact Statement.prefix_sql_compile (by decide)
  | rowNumber => exact Statement.prefix_sql_compile (by decide +kernel)

theorem select_prefix_catalog (d : SqlDialect) :
    "SELECT".toList <+: d.catalog.columns.toList ∧ "SELECT".toList <+: d.catalog.forwardKeys.toList ∧
      "SELECT".toList <+: d.catalog.backwardKeys.toList := by
  -- The first piece of each text is enough.
  have hfirst : ∀ {first rest : List Char},
      "SELECT".toList <+: first → "SELECT".toList <+: first ++ rest :=
    fun h => h.trans (List.prefix_append _ _)
  cases d
  case' mysql => unfold catalog CatalogStatements.mysql
  case' postgres => unfold catalog CatalogStatements.postgres
  case' mssql => unfold catalog CatalogStatements.mssql
  case' oracle => unfold catalog CatalogStatements.oracle
  case' sqlite => unfold catalog CatalogStatements.sqlite
  all_goals
    simp only [String.toList_append, List.append_assoc]
    exact ⟨hfirst (by decide +kernel), hfirst (by decide +kernel), hfirst (by decide +kernel)⟩

theorem not_isWrite_catalog {q : CompiledQuery} (h : d.IsCatalog q) : ¬ q.IsWrite := by
  obtain ⟨table, hq⟩ := h
  obtain ⟨hcolumns, hforward, hbackward⟩ := select_prefix_catalog d
  refine CompiledQuery.not_isWrite_of_select ?_
  simp only [List.mem_cons, List.not_mem_nil, or_false] at hq
  obtain rfl | rfl | rfl := hq
  · exact hcolumns
  · exact hforward
  · exact hbackward

end SqlDialect

/-! ### Requests for which nothing is written -/

/-- Whether a request of a store sends a statement that writes rows. -/
def SqlRequest.IsWrite : SqlRequest → Prop
  | query q | execute q | insertReturning q _ => q.IsWrite
  | now => False

/-- A request for which no row is written. -/
def SqlRequest.Spares (r : SqlRequest) : Prop := ¬ r.IsWrite

namespace SqlStore

variable {σ : Type} {s : SqlStore} {label : String}
  {executor : Responder SqlRequest SqlRequest.Answer σ} {state : σ}

/-- An executor does not blame the request for its own failures. -/
structure Impartial (executor : Responder SqlRequest SqlRequest.Answer σ) : Prop where
  query : ∀ q state error, (executor.answer (.query q) state).1 = .error error →
    error.isValidation = false
  execute : ∀ q state error, (executor.answer (.execute q) state).1 = .error error →
    error.isValidation = false
  insertReturning : ∀ q column state error,
    (executor.answer (.insertReturning q column) state).1 = .error error → error.isValidation = false

/-- Each key that an insertion of such a record may generate is one that its column takes. -/
def TakesGenerated (s : SqlStore) (label : String)
    (executor : Responder SqlRequest SqlRequest.Answer σ) (schema : Schema) : Prop :=
  ∀ key, schema.key = .ok key → ∀ data state id,
    ((s.generatedKey label (s.dialect.insertQuery schema key data true) key).run executor state).1 =
        .ok (some id) →
      ∃ bound, s.boundKey schema key id = .ok bound

/-- Keys that the executor generates are taken by the key columns of the tables that it tells of. -/
def GeneratesKeys (s : SqlStore) (label : String)
    (executor : Responder SqlRequest SqlRequest.Answer σ) : Prop :=
  ∀ table state schema, ((s.getSchema label table).run executor state).1 = .ok schema →
    s.TakesGenerated label executor schema

/-! ### Reads -/

/-- A read without relations is one statement. -/
theorem fetch_of_relations_eq_nil {o : FindOptions} (h : o.relations = []) :
    s.fetch label o = s.fetchRows label o := by
  rw [fetch, h]
  exact bind_done _

theorem keepsTo_reads {α : Type} {d : SqlDialogue α} {Q : CompiledQuery → Prop}
    (h : d.KeepsTo (Queries Q)) (hQ : ∀ q, Q q → ¬ q.IsWrite) : d.KeepsTo SqlRequest.Spares := by
  refine h.mono fun r hr => ?_
  obtain ⟨q, rfl, hq⟩ := exists_of_queries hr
  exact hQ q hq

theorem getSchema_reads (table : String) : (s.getSchema label table).KeepsTo SqlRequest.Spares :=
  keepsTo_reads (keepsTo_getSchema table fun _ hq => hq) fun _ => SqlDialect.not_isWrite_catalog

theorem findOne_reads {o : FindOptions} (h : o.relations = []) :
    (s.findOne label o).KeepsTo SqlRequest.Spares := by
  have hrows : s.fetch label { o with limit := 1, offset := 0 } = s.fetchRows label _ :=
    fetch_of_relations_eq_nil h
  rw [findOne, hrows]
  refine KeepsTo.bind ?_ fun _ => trivial
  exact keepsTo_ofExcept_bind fun q hq =>
    (keepsTo_reads (keepsTo_runQuery rfl) fun _ hsent =>
      hsent ▸ SqlDialect.not_isWrite_selectQuery hq).bind fun _ => trivial

/-! ### What follows a write -/

/-- A key that its column takes can be looked up. -/
theorem exists_selectQuery_of_boundKey (joinAll : Bool) {schema : Schema} {key : String} {id : Json}
    (h : ∃ bound, s.boundKey schema key id = .ok bound) :
    ∃ q, s.dialect.selectQuery { FindOptions.ofSchema schema with
      filters := [.equals key id], limit := 1, offset := 0 } joinAll true = .ok q := by
  rw [SqlDialect.exists_selectQuery_iff]
  intro p hp
  obtain rfl := List.mem_singleton.mp hp
  rw [SqlRead.condition]
  by_cases hnull : id = .null
  · subst hnull
    exact ⟨_, rfl⟩
  rw [Predicate.equals, SqlRead.compared_of_ne_null _ _ _ hnull, exists_map_iff, FindOptions.column?]
  cases splitReference? key with
  | some pair => exact ⟨_, rfl⟩ -- A name with a dot leads nowhere, for there are no relations.
  | none =>
      change ∃ v, SqlRead.bound s.dialect.capabilities (schema.column? key) id = .ok v
      rw [boundKey] at h
      cases hcolumn : schema.column? key with
      | none => exact ⟨_, rfl⟩
      | some column =>
          rw [hcolumn] at h
          exact exists_map_iff.mpr h

/-- A coerced key is one that its column takes. -/
theorem boundKey_boundKey {schema : Schema} {key : String} {id bound : Json}
    (h : s.boundKey schema key id = .ok bound) : s.boundKey schema key bound = .ok bound := by
  rw [boundKey] at h ⊢
  split at h
  · exact Coercion.outbound_outbound h
  · rfl

theorem exists_boundKey_of_recordOutbound {schema : Schema} {key : String} {data bound : Record}
    {id : Json} (h : Coercion.recordOutbound schema s.dialect.capabilities data = .ok bound)
    (hid : bound.get? key = some id) : ∃ again, s.boundKey schema key id = .ok again := by
  obtain ⟨entry, hfind, rfl⟩ := Option.map_eq_some_iff.mp hid
  obtain rfl : entry.1 = key := by simpa using List.find?_some hfind
  obtain ⟨⟨name, value⟩, -, hentry⟩ := exists_of_mem_mapM h (List.mem_of_find?_eq_some hfind)
  dsimp only at hentry
  split at hentry
  · cases hentry
  next column hcolumn =>
    obtain ⟨w, hw, rfl⟩ := exists_of_map_eq_ok hentry
    rw [boundKey, hcolumn]
    exact ⟨w, Coercion.outbound_outbound hw⟩

theorem blameless_expect {α : Type} {q : CompiledQuery} {answer : Except EngineError α}
    (h : ∀ error, answer = .error error → error.isValidation = false) :
    (s.expect label q answer).Blameless executor state := by
  cases answer with
  | ok value => exact blameless_done value
  | error first =>
      intro error herror
      obtain rfl := Except.error.inj herror
      exact h _ rfl

section Impartial

variable (h : Impartial executor)
include h

theorem blameless_runQuery (q : CompiledQuery) : (s.runQuery label q).Blameless executor state :=
  blameless_expect (h.query q _)

theorem blameless_runExecute (q : CompiledQuery) : (s.runExecute label q).Blameless executor state :=
  blameless_expect (h.execute q _)

theorem blameless_generatedKey (q : CompiledQuery) (key : String) :
    (s.generatedKey label q key).Blameless executor state := by
  rw [generatedKey]
  split
  · exact (blameless_runQuery h q).bind fun _ _ _ => blameless_done _
  · exact (blameless_runQuery h q).bind fun _ _ _ => blameless_done _
  · exact (blameless_runExecute h q).bind fun _ _ _ => blameless_done _
  · exact blameless_expect (h.insertReturning q key _)

/-- The look at the row of a key that its column takes is not refused. -/
theorem blameless_findByKey {schema : Schema} {key : String} {id : Json}
    (hkey : ∃ bound, s.boundKey schema key id = .ok bound) :
    (s.findByKey label schema key id).Blameless executor state := by
  obtain ⟨q, hq⟩ := exists_selectQuery_of_boundKey s.settings.joinRelations hkey
  have hrows : s.fetchRows label { FindOptions.ofSchema schema with
      filters := [.equals key id], limit := 1, offset := 0 } =
        (s.runQuery label q).bind fun rows => .done (rows.map fun row => Coercion.rowInbound
          { FindOptions.ofSchema schema with filters := [.equals key id], limit := 1, offset := 0 }
            (row.erase Select.rowNumberColumn)) := by
    rw [fetchRows, hq]
    rfl
  rw [findByKey, findOne, fetch_of_relations_eq_nil rfl, hrows]
  exact (((blameless_runQuery h q).bind fun _ _ _ => blameless_done _).bind
    fun _ _ _ => blameless_done _).bind fun _ _ _ => blameless_done _

/-! ### Writes -/

theorem createOne_blamesAfter {schema : Schema} (hkeys : s.TakesGenerated label executor schema)
    (data : Record) :
    (s.createOne label schema data).BlamesAfter SqlRequest.Spares executor state := by
  refine blamesAfter_ofExcept_bind fun key hkey => blamesAfter_ofExcept_bind fun bound hbound =>
    Blameless.blamesAfter ?_
  -- Everything that the request can be blamed for has been found here.
  dsimp only
  split
  next id hid =>
    exact (blameless_runExecute h _).bind fun _ _ _ => blameless_findByKey h
      (exists_boundKey_of_recordOutbound hbound (Option.filter_eq_some_iff.mp hid).1)
  next =>
    refine (blameless_generatedKey h _ key).bind fun generated _ hgenerated => ?_
    cases generated with
    | some id =>
        exact blameless_findByKey h (hkeys key hkey bound _ id (congrArg Prod.fst hgenerated))
    | none =>
        intro error herror
        obtain rfl := Except.error.inj herror
        rfl

theorem updateOne_blamesAfter (schema : Schema) (id : Json) (data : Record) :
    (s.updateOne label schema id data).BlamesAfter SqlRequest.Spares executor state := by
  refine blamesAfter_ofExcept_bind fun key hkey => blamesAfter_ofExcept_bind fun bound _ =>
    blamesAfter_ofExcept_bind fun id hid => Blameless.blamesAfter ?_
  have hfind : ∀ after, (s.findByKey label schema key id).Blameless executor after :=
    fun _ => blameless_findByKey h ⟨id, boundKey_boundKey hid⟩
  -- Without anything to set only the look is left.
  dsimp only
  split
  · exact (blameless_runExecute h _).bind fun _ after _ => hfind after
  · exact hfind _

theorem deleteOne_blamesAfter (schema : Schema) (id : Json) (stamp : Option String) :
    (s.deleteOne label schema id stamp).BlamesAfter SqlRequest.Spares executor state := by
  refine blamesAfter_ofExcept_bind fun key _ => ?_
  cases stamp with
  | some column =>
      have hnow : (Dialogue.request SqlRequest.now : SqlDialogue Timestamp).KeepsTo SqlRequest.Spares :=
        ⟨not_false, fun _ => trivial⟩
      exact hnow.blamesAfter_bind fun _ _ _ =>
        (updateOne_blamesAfter h schema _ _).bind fun _ _ => blameless_done _
  | none =>
      exact blamesAfter_ofExcept_bind fun id _ =>
        ((blameless_runExecute h _).bind fun _ _ _ => blameless_done _).blamesAfter

end Impartial

/-! ### Requests -/

theorem interpret_call (c : StoreCall) :
    (StoreDialogue.call c).interpret (s.answer label) = s.carryOut label c :=
  StoreDialogue.interpret_call (s.carryOut label) c

theorem permission_reads (tag : String) (source : PermissionSource) (identity : String)
    (request : Request) :
    ((Engine.permission tag source identity request).interpret (s.answer label)).KeepsTo
      SqlRequest.Spares := by
  rw [Engine.permission]
  split
  · rw [bind_eq_bind, interpret_bind, interpret_ofExcept]
    refine keepsTo_ofExcept_bind fun outcome _ => ?_
    cases outcome <;> exact trivial
  · exact trivial

theorem checkVisible_reads (schema : Schema) (id : Json) (restriction : Option Restriction) :
    ((Engine.checkVisible schema id restriction).interpret (s.answer label)).KeepsTo
      SqlRequest.Spares := by
  cases restriction with
  | none => exact trivial
  | some r =>
      rw [Engine.checkVisible, bind_eq_bind, interpret_bind, interpret_ofExcept]
      refine keepsTo_ofExcept_bind fun key _ => ?_
      rw [bind_eq_bind, interpret_bind, interpret_call]
      refine KeepsTo.bind (findOne_reads rfl) fun row => ?_
      cases row <;> exact trivial

/-- The part of an update or a deletion that comes before its write. -/
theorem look_blamesAfter (table : String) (id : Json) (restriction : Option Restriction)
    {next : Schema → StoreDialogue Response}
    (hnext : ∀ schema after, ((next schema).interpret (s.answer label)).BlamesAfter
      SqlRequest.Spares executor after) :
    ((StoreDialogue.call (.getSchema table) >>= fun schema =>
      Engine.checkVisible schema id restriction >>= fun _ => next schema).interpret
        (s.answer label)).BlamesAfter SqlRequest.Spares executor state := by
  rw [bind_eq_bind, interpret_bind, interpret_call]
  refine (getSchema_reads table).blamesAfter_bind fun schema _ _ => ?_
  rw [bind_eq_bind, interpret_bind]
  exact (checkVisible_reads schema id restriction).blamesAfter_bind fun _ after _ =>
    hnext schema after

/-- Under any restriction, or none. -/
theorem execute_blamesAfter (h : Impartial executor) (hkeys : s.GeneratesKeys label executor)
    (settings : EngineSettings) (tag : String) (restriction : Option Restriction) {request : Request}
    (hverb : request.verb ∈ ["create", "update", "delete"]) (state : σ) :
    ((Engine.execute settings tag restriction request).interpret (s.answer label)).BlamesAfter
      SqlRequest.Spares executor state := by
  rw [Engine.execute, bind_eq_bind, interpret_bind]
  refine KeepsTo.blamesAfter_bind trivial fun _ after _ => ?_
  cases request with
  | create table data =>
      rw [Engine.answer, bind_eq_bind, interpret_bind, interpret_call]
      -- The keys that the schema's column takes are those of the schema that was read.
      refine (getSchema_reads table).blamesAfter_bind fun schema _ hschema => ?_
      rw [bind_eq_bind, interpret_bind, interpret_call]
      exact (createOne_blamesAfter h (hkeys table _ schema (congrArg Prod.fst hschema)) _).bind
        fun _ _ => blameless_done _
  | update table id data =>
      refine look_blamesAfter table id restriction fun schema _ => ?_
      rw [bind_eq_bind, interpret_bind, interpret_call]
      exact (updateOne_blamesAfter h schema id _).bind fun _ _ => blameless_done _
  | delete table id =>
      refine look_blamesAfter table id restriction fun schema _ => ?_
      rw [bind_eq_bind, interpret_bind, interpret_call]
      exact (deleteOne_blamesAfter h schema id _).bind fun _ _ => blameless_done _
  | _ => simp [Request.verb] at hverb

/-- **A request that is blamed has written nothing.** On any SQL store a creation, an update or a
deletion, of either kind and under any restriction, that ends in an error for which the request is to
blame has sent no statement that writes rows. The executor has to fail for reasons of its own only, and
to generate keys that their columns take. -/
theorem refused_writes_nothing {σ : Type} (s : SqlStore) (label : String)
    {executor : Responder SqlRequest SqlRequest.Answer σ} (himpartial : Impartial executor)
    (hkeys : s.GeneratesKeys label executor) (settings : EngineSettings) (requestId : Option String)
    (source : PermissionSource) (identity : String) {request : Request}
    (hverb : request.verb ∈ ["create", "update", "delete"]) (state : σ) :
    ∀ d ∈ [Engine.perform settings requestId request,
        Engine.performAuthorized settings requestId source identity request],
      ∀ error, ((d.interpret (s.answer label)).run executor state).1 = .error error →
        error.isValidation = true →
          ∀ e ∈ (d.interpret (s.answer label)).transcript executor state, ¬ e.request.IsWrite := by
  intro d hd
  obtain rfl | rfl : d = _ ∨ d = _ := by simpa using hd
  · exact execute_blamesAfter himpartial hkeys settings _ none hverb state
  · refine (?_ : BlamesAfter SqlRequest.Spares executor _ state)
    rw [Engine.performAuthorized, bind_eq_bind, interpret_bind]
    exact (permission_reads _ source identity request).blamesAfter_bind fun restriction after _ =>
      execute_blamesAfter himpartial hkeys settings _ restriction hverb after

/-! ### A column that employees do not have -/

section Counting

open Introspection

def countedRows : List Record := [columnRow "id" "integer" "PRI", columnRow "name" "text" ""]

/-- An executor that tells everyone of the same two columns, and counts the keys. -/
def counting : Responder SqlRequest SqlRequest.Answer Int where
  answer request last :=
    match request with
    | .query _ => (.ok countedRows, last)
    | .execute _ => (.ok ⟨1, some (last + 1)⟩, last + 1)
    | .insertReturning _ _ => (.ok (some (.int (last + 1))), last + 1)
    | .now => (default, last)
  note _ last := last

theorem impartial_counting : Impartial counting := ⟨nofun, nofun, nofun⟩

/-- What the rows say: a number is the key, and there is a text. -/
def countedColumns : List Column :=
  [{ Column.ofType "id" .number with
      primaryKey := true, extra := { ColumnExtra.empty with nativeType := some "integer" } },
    { Column.ofType "name" .string with
      extra := { ColumnExtra.empty with nativeType := some "text" } }]

theorem schema_countedRows (table : String) :
    Introspection.schema .sqlite table countedRows countedRows countedRows =
      .ok (.ofColumns table countedColumns) := by
  have hcolumns : countedRows.filterMap (column? .sqlite) = countedColumns := by decide +kernel
  rw [Introspection.schema, hcolumns]
  rfl

/-- Whatever table is asked for has a number for its key, and the keys are numbers. -/
theorem generatesKeys_counting : lookingUp.GeneratesKeys "-" counting := by
  intro table state schema hschema key hkey data last id hid
  have htold : Introspection.schema .sqlite table countedRows countedRows countedRows = .ok schema :=
    hschema
  rw [schema_countedRows] at htold
  obtain rfl := Except.ok.inj htold
  obtain rfl : "id" = key := Except.ok.inj hkey
  obtain rfl : .int (last + 1) = id := Option.some.inj (Except.ok.inj hid)
  exact ⟨.int (last + 1), rfl⟩

/-- Employees have no age. -/
theorem refused_writes_nothing_age :
    let d := Engine.perform .standard none (.create "employees" [("age", .int 30)])
    let statements := (d.interpret (lookingUp.answer "-")).transcript counting 0
    ((d.interpret (lookingUp.answer "-")).run counting 0).1 =
        .error (.columnNotFound "employees" "age") ∧
      ∀ e ∈ statements, ¬ e.request.IsWrite := by
  intro d statements
  have hrun : ((d.interpret (lookingUp.answer "-")).run counting 0).1 =
      .error (.columnNotFound "employees" "age") := by
    rfl
  have hverb : (Request.create "employees" [("age", .int 30)]).verb ∈
      ["create", "update", "delete"] := by decide
  exact ⟨hrun, refused_writes_nothing lookingUp "-" impartial_counting generatesKeys_counting .standard
    none (fun _ _ _ => .ok .allow) "u1" hverb 0 d List.mem_cons_self _ hrun rfl⟩

end Counting

end SqlStore

end DataAccess
