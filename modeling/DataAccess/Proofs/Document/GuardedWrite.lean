import DataAccess.Proofs.Dialogue.Transcript
import DataAccess.Proofs.Document.Inference
import DataAccess.Proofs.Engine.Authorization

/-!
# What a write asks of its documents

To update or delete a row a document store asks for one write at most. The write goes by the key of
the row alone; under a restriction it comes after a look that found a document of the key and of the
restriction. Nothing is said of what answers, so others may be heard between any two requests.
-/

namespace DataAccess

open Dialogue

namespace DocumentRequest

def isWrite : DocumentRequest → Bool
  | insertOne .. | updateOne .. | deleteOne .. | deleteMany .. | createCollection _ => true
  | ping | listCollections | find _ | count .. | now => false

end DocumentRequest

theorem DocumentMemory.answer_of_not_isWrite {r : DocumentRequest} (h : r.isWrite = false)
    (now : Timestamp) (m : DocumentMemory) : (answer now r m).2 = m := by
  cases r <;> first | rfl | cases h

namespace DocumentStore

variable {σ : Type}

def Reads (past : List (Exchange DocumentRequest σ)) : Prop :=
  ∀ e ∈ past, e.request.isWrite = false

theorem Reads.append {past more : List (Exchange DocumentRequest σ)} (hpast : Reads past)
    (hmore : Reads more) : Reads (past ++ more) := by
  intro e he
  rcases List.mem_append.mp he with he | he
  · exact hpast e he
  · exact hmore e he

theorem reads_nil : Reads ([] : List (Exchange DocumentRequest σ)) := by
  intro e he
  cases he

theorem reads_singleton {e : Exchange DocumentRequest σ} (h : e.request.isWrite = false) :
    Reads [e] := by
  intro other hother
  obtain rfl := List.mem_singleton.mp hother
  exact h

/-- The look at the documents of a key that a restriction shows. -/
def ownQuery (table : String) (own visible : Record) : DocumentQuery :=
  { DocumentQuery.all table with filter := Document.joinFilters [own, visible], limit := 1 }

/-- A look that was made among some exchanges, of a key and a restriction, and found a document. -/
structure Checked (responder : Responder DocumentRequest DocumentRequest.Answer σ)
    (schema : Schema) (r : Restriction) (own visible : Record)
    (past early : List (Exchange DocumentRequest σ)) (seen : σ)
    (between : List (Exchange DocumentRequest σ)) : Prop where
  shown : Document.filter schema [r.predicate] = .ok visible
  split : past = early ++ ⟨.find (ownQuery schema.table own visible), seen⟩ :: between
  found : ∃ d rest,
    (responder.answer (.find (ownQuery schema.table own visible)) seen).1 = .ok (d :: rest)

/-- A write of a request to the documents of a key: it sets neither the key nor, in an update, the
column of the restriction, and removes a document only in a deletion. -/
inductive Keyed (request : Request) (restriction : Option Restriction) (table key : String)
    (own : Record) : DocumentRequest → Prop
  | update (set : Record) (hkey : ∀ entry ∈ set, entry.1 ≠ key)
      (hcolumn : ∀ name id data r, request = .update name id data → restriction = some r →
        ∀ entry ∈ set, entry.1 ≠ r.column) :
      Keyed request restriction table key own (.updateOne table own set)
  | delete (name : String) (id : Json) (hrequest : request = .delete name id) :
      Keyed request restriction table key own (.deleteOne table own)

/-- A write by the key of an id, the first of its run, and under a restriction after a look. -/
structure Guarded (responder : Responder DocumentRequest DocumentRequest.Answer σ)
    (request : Request) (restriction : Option Restriction) (schema : Schema) (id : Json)
    (past : List (Exchange DocumentRequest σ)) (write : DocumentRequest) : Prop where
  keyed : ∃ key own, schema.key = .ok key ∧ keyFilter schema key id = .ok own ∧
    Keyed request restriction schema.table key own write ∧
    ∀ r, restriction = some r → ∃ visible early seen between,
      Checked responder schema r own visible past early seen between
  alone : Reads past

/-- Reads, and the one write of a request, given what is known of the schema. -/
def Guards (responder : Responder DocumentRequest DocumentRequest.Answer σ)
    (known : Schema → Prop) (request : Request) (restriction : Option Restriction) (id : Json)
    (past : List (Exchange DocumentRequest σ)) (e : Exchange DocumentRequest σ) : Prop :=
  e.request.isWrite = true → ∃ schema, known schema ∧
    Guarded responder request restriction schema id past e.request

theorem Keyed.touches {request : Request} {restriction : Option Restriction} {table key : String}
    {own : Record} {write : DocumentRequest}
    (h : Keyed request restriction table key own write) (now : Timestamp) (m : DocumentMemory) :
    m.Touches (DocumentMemory.answer now write m).2 table fun d after =>
      Document.matchesFilter d own = true ∧
        ∀ name id data, request = .update name id data → ∃ d', after = some d' ∧
          d'.get? key = d.get? key ∧
          ∀ r, restriction = some r → d'.get? r.column = d.get? r.column := by
  cases h with
  | update set hkey hcolumn =>
      refine (m.touches_updateFirst table own set).mono ?_
      rintro d after _ ⟨hd, rfl⟩
      refine ⟨hd, fun name id data hrequest => ⟨_, rfl, DocumentMemory.get?_setFields hkey d, ?_⟩⟩
      intro r hr
      exact DocumentMemory.get?_setFields (hcolumn name id data r hrequest hr) d
  | delete name id hrequest =>
      refine (m.touches_deleteFirst table own).mono ?_
      rintro d after _ ⟨hd, -⟩
      refine ⟨hd, fun name' id' data hupdate => ?_⟩
      rw [hrequest] at hupdate
      cases hupdate

theorem guards_of_read {responder : Responder DocumentRequest DocumentRequest.Answer σ}
    {known : Schema → Prop} {request : Request} {restriction : Option Restriction} {id : Json}
    (past : List (Exchange DocumentRequest σ)) (e : Exchange DocumentRequest σ)
    (h : e.request.isWrite = false) : Guards responder known request restriction id past e := by
  intro hwrite
  rw [h] at hwrite
  cases hwrite

variable {responder : Responder DocumentRequest DocumentRequest.Answer σ}
  {rule : List (Exchange DocumentRequest σ) → Exchange DocumentRequest σ → Prop}
  {past : List (Exchange DocumentRequest σ)} {state : σ} {s : DocumentStore} {label : String}
  {α : Type} {post : List (Exchange DocumentRequest σ) → σ → Except EngineError α → Prop}

/-! ### Requests and log entries -/

theorem follows_debug_bind (hquiet : responder.Quiet) {text : String}
    {next : Unit → DocumentDialogue α}
    (h : Follows responder rule post (next ()) past state) :
    Follows responder rule post (s.debug label text >>= next) past state := by
  have hnote : Follows responder rule post (next ()) past
      (responder.note ⟨.debug, .document, s!"[{label}] {s.name}: {text}"⟩ state) := by
    rw [hquiet]
    exact h
  exact hnote

theorem follows_logged_bind {operation detail : String} {r : DocumentRequest}
    {next : r.Result → DocumentDialogue α} (hrule : rule past ⟨r, state⟩)
    (hok : ∀ value, (responder.answer r state).1 = .ok value →
      Follows responder rule post (next value) (past ++ [⟨r, state⟩])
        (responder.answer r state).2)
    (herror : ∀ error after, post (past ++ [⟨r, state⟩]) after (.error error)) :
    Follows responder rule post (s.logged label operation detail r >>= next) past state := by
  refine ⟨hrule, ?_⟩
  cases hanswer : (responder.answer r state).1 with
  | ok value => exact hok value hanswer
  | error error => exact herror error _

/-! ### Reads -/

theorem fetchRows_follows (hquiet : responder.Quiet)
    (hread : ∀ past e, e.request.isWrite = false → rule past e) (o : FindOptions) :
    Follows responder rule
      (fun past' _ result => ∀ rows, result = .ok rows → ∃ q documents,
        query o = .ok q ∧ past' = past ++ [⟨.find q, state⟩] ∧
          (responder.answer (.find q) state).1 = .ok documents ∧
          rows = documents.map (callerRow o.schema))
      (s.fetchRows label o) past state := by
  rw [fetchRows, bind_eq_bind, follows_bind, follows_ofExcept]
  refine AfterOk.of_cases ?_ (by simp)
  intro q hq
  refine follows_debug_bind hquiet ?_
  refine follows_logged_bind (hread _ _ rfl) ?_ (by simp)
  intro documents hdocuments rows hrows
  obtain rfl := Except.ok.inj hrows
  exact ⟨q, documents, hq, rfl, hdocuments, rfl⟩

/-- A look without relations is one request, and finds a row only if there is a document. -/
theorem findOne_follows (hquiet : responder.Quiet)
    (hread : ∀ past e, e.request.isWrite = false → rule past e) (o : FindOptions)
    (hrelations : o.relations = []) :
    Follows responder rule
      (fun past' _ result => ∀ row, result = .ok (some row) → ∃ q d rest,
        query { o with limit := 1, offset := 0 } = .ok q ∧ past' = past ++ [⟨.find q, state⟩] ∧
          (responder.answer (.find q) state).1 = .ok (d :: rest))
      (s.findOne label o) past state := by
  have hfetch : s.fetch label { o with limit := 1, offset := 0 } =
      s.fetchRows label { o with limit := 1, offset := 0 } := by
    rw [fetch_eq, hrelations]
    exact (congrArg _ (funext fun rows => Relations.expandRows_nil _ _ _ rows)).trans (bind_done _)
  rw [findOne, hfetch, bind_eq_bind, follows_bind]
  refine (fetchRows_follows hquiet hread _).mono ?_
  intro past' state' result hresult
  refine AfterOk.of_cases ?_ (by simp)
  rintro rows hrows row hrow
  obtain ⟨q, documents, hq, hpast, hanswer, hmap⟩ := hresult rows hrows
  cases documents with
  | nil =>
      rw [hmap] at hrow
      cases hrow
  | cons d rest => exact ⟨q, d, rest, hq, hpast, hanswer⟩

theorem findByKey_follows (hquiet : responder.Quiet)
    (hread : ∀ past e, e.request.isWrite = false → rule past e) (schema : Schema) (key : String)
    (id : Json) :
    Follows responder rule (fun _ _ _ => True) (s.findByKey label schema key id) past state := by
  rw [findByKey, bind_eq_bind, follows_bind]
  refine (findOne_follows hquiet hread _ rfl).mono ?_
  intro past' state' result _
  exact AfterOk.of_cases (fun _ _ => trivial) fun _ _ => trivial

theorem readRegistry_follows
    (hread : ∀ past e, e.request.isWrite = false → rule past e) (collections : List String)
    (hpast : Reads past) :
    Follows responder rule (fun past' _ _ => Reads past') (s.readRegistry label collections) past
      state := by
  rw [readRegistry]
  split
  · refine ⟨hread _ _ rfl, ?_⟩
    have hreads : Reads (past ++ [⟨.find (.all s.settings.relationRegistry), state⟩]) :=
      hpast.append (reads_singleton rfl)
    cases (responder.answer (.find (.all s.settings.relationRegistry)) state).1 with
    | ok entries => exact hreads
    | error error => exact hreads
  · exact hpast

theorem getSchema_follows (hquiet : responder.Quiet)
    (hread : ∀ past e, e.request.isWrite = false → rule past e) (collection : String)
    (hpast : Reads past) :
    Follows responder rule
      (fun past' _ result => ∀ schema, result = .ok schema →
        Document.Infers collection schema ∧ Reads past')
      (s.getSchema label collection) past state := by
  rw [getSchema]
  refine follows_request_bind (hread _ _ rfl) ?_ (by simp)
  intro collections _
  split
  · intro schema h
    cases h
  refine follows_debug_bind hquiet ?_
  refine follows_request_bind (hread _ _ rfl) ?_ (by simp)
  intro samples _
  have hreads := (hpast.append (reads_singleton (e := ⟨.listCollections, state⟩) rfl)).append
    (reads_singleton (e := ⟨.find { DocumentQuery.all collection with limit := 1 },
      (responder.answer .listCollections state).2⟩) rfl)
  rw [bind_eq_bind, follows_bind]
  refine (readRegistry_follows hread collections hreads).mono ?_
  intro past' state' result hpast'
  refine AfterOk.of_cases ?_ (by simp)
  intro registry _
  cases samples.head? with
  | none =>
      intro schema hschema
      obtain rfl := Except.ok.inj hschema
      exact ⟨⟨_, _, .inl rfl⟩, hpast'⟩
  | some sample =>
      intro schema hschema
      obtain rfl := Except.ok.inj hschema
      exact ⟨⟨_, _, .inr ⟨sample, rfl⟩⟩, hpast'⟩

/-! ### The write -/

theorem interpret_call (c : StoreCall) :
    (StoreDialogue.call c).interpret (s.answer label) = s.carryOut label c :=
  StoreDialogue.interpret_call (s.carryOut label) c

/-- What an update asks: at most the write of a set without the key, before it looks at the row. -/
theorem updateOne_follows (hquiet : responder.Quiet)
    (hread : ∀ past e, e.request.isWrite = false → rule past e) (schema : Schema) (id : Json)
    (data : Record)
    (hwrite : ∀ key own set, schema.key = .ok key → keyFilter schema key id = .ok own →
      Document.ofRecord schema (data.erase key) = .ok set →
        rule past ⟨.updateOne schema.table own set, state⟩) :
    Follows responder rule (fun _ _ _ => True) (s.updateOne label schema id data) past state := by
  rw [updateOne, bind_eq_bind, follows_bind, follows_ofExcept]
  refine AfterOk.of_cases ?_ fun _ _ => trivial
  intro key hkey
  rw [bind_eq_bind, follows_bind, follows_ofExcept]
  refine AfterOk.of_cases ?_ fun _ _ => trivial
  intro set hset
  dsimp only
  split
  · rw [bind_eq_bind, follows_bind, follows_ofExcept]
    refine AfterOk.of_cases ?_ fun _ _ => trivial
    intro own hown
    refine follows_debug_bind hquiet ?_
    refine follows_logged_bind (hwrite key own set hkey hown hset) ?_ fun _ _ => trivial
    intro _ _
    exact findByKey_follows hquiet hread schema key id
  · exact findByKey_follows hquiet hread schema key id

theorem deleteOne_follows (hquiet : responder.Quiet)
    (hread : ∀ past e, e.request.isWrite = false → rule past e) (schema : Schema) (id : Json)
    (stamp : Option String)
    (hupdate : ∀ more state' key own column value set, Reads more → schema.key = .ok key →
      keyFilter schema key id = .ok own →
      Document.ofRecord schema (Record.erase [(column, value)] key) = .ok set →
        rule (past ++ more) ⟨.updateOne schema.table own set, state'⟩)
    (hdelete : ∀ key own, schema.key = .ok key → keyFilter schema key id = .ok own →
      rule past ⟨.deleteOne schema.table own, state⟩) :
    Follows responder rule (fun _ _ _ => True) (s.deleteOne label schema id stamp) past state := by
  rw [deleteOne, bind_eq_bind, follows_bind, follows_ofExcept]
  refine AfterOk.of_cases ?_ fun _ _ => trivial
  intro key hkey
  cases stamp with
  | none =>
      dsimp only
      rw [bind_eq_bind, follows_bind, follows_ofExcept]
      refine AfterOk.of_cases ?_ fun _ _ => trivial
      intro own hown
      refine follows_debug_bind hquiet ?_
      rw [← bind_done (s.logged _ _ _ _)]
      exact follows_logged_bind (hdelete key own hkey hown) (fun _ _ => trivial) fun _ _ => trivial
  | some column =>
      dsimp only
      refine follows_request_bind (hread _ _ rfl) ?_ fun _ _ => trivial
      intro now _
      rw [bind_eq_bind, follows_bind]
      refine (updateOne_follows hquiet hread schema id _ ?_).mono ?_
      · intro key own set hkey hown hset
        exact hupdate _ _ key own column _ set (reads_singleton rfl) hkey hown hset
      · intro _ _ _ _
        exact AfterOk.of_cases (fun _ _ => trivial) fun _ _ => trivial

/-! ### The look before it -/

theorem query_pair {schema : Schema} {p p' : Predicate} {q : DocumentQuery}
    (h : query { FindOptions.ofSchema schema with filters := [p, p'], limit := 1, offset := 0 } =
      .ok q) :
    ∃ own visible, Document.filter schema [p] = .ok own ∧
      Document.filter schema [p'] = .ok visible ∧ q = ownQuery schema.table own visible := by
  obtain ⟨joined, hjoined, rfl⟩ := exists_of_map_eq_ok h
  obtain ⟨own, visible, hown, hvisible, rfl⟩ := Document.filter_pair hjoined
  exact ⟨own, visible, hown, hvisible, rfl⟩

/-- What a look leaves for the write that comes after it. -/
def Looked (responder : Responder DocumentRequest DocumentRequest.Answer σ)
    (restriction : Option Restriction) (schema : Schema) (id : Json)
    (past : List (Exchange DocumentRequest σ)) : Prop :=
  Reads past ∧ ∀ r, restriction = some r → ∃ key own visible early seen, schema.key = .ok key ∧
    keyFilter schema key id = .ok own ∧ Checked responder schema r own visible past early seen []

theorem Looked.guards {known : Schema → Prop} {request : Request}
    {restriction : Option Restriction} {schema : Schema} {id : Json} {key : String} {own : Record}
    {write : DocumentRequest} {more : List (Exchange DocumentRequest σ)}
    (h : Looked responder restriction schema id past) (hknown : known schema)
    (hkey : schema.key = .ok key) (hown : keyFilter schema key id = .ok own)
    (hkeyed : Keyed request restriction schema.table key own write) (hmore : Reads more) :
    Guards responder known request restriction id (past ++ more) ⟨write, state⟩ := by
  intro _
  refine ⟨schema, hknown, ⟨key, own, hkey, hown, hkeyed, ?_⟩, h.1.append hmore⟩
  intro r hr
  obtain ⟨key', own', visible, early, seen, hkey', hown', hchecked⟩ := h.2 r hr
  obtain rfl := Except.ok.inj (hkey'.symm.trans hkey)
  obtain rfl := Except.ok.inj (hown'.symm.trans hown)
  refine ⟨visible, early, seen, more, hchecked.shown, ?_, hchecked.found⟩
  rw [hchecked.split]
  simp

theorem checkVisible_interpret_follows (hquiet : responder.Quiet)
    (hread : ∀ past e, e.request.isWrite = false → rule past e) (schema : Schema) (id : Json)
    (restriction : Option Restriction) (hpast : Reads past) :
    Follows responder rule
      (fun past' _ result => result = .ok () → Looked responder restriction schema id past')
      ((Engine.checkVisible schema id restriction).interpret (s.answer label)) past state := by
  cases restriction with
  | none =>
      intro _
      refine ⟨hpast, ?_⟩
      intro r hr
      cases hr
  | some r =>
      rw [Engine.checkVisible, bind_eq_bind, interpret_bind, interpret_ofExcept, follows_bind,
        follows_ofExcept]
      refine AfterOk.of_cases ?_ (by simp)
      intro key hkey
      rw [bind_eq_bind, interpret_bind, interpret_call, follows_bind]
      refine (findOne_follows hquiet hread _ rfl).mono ?_
      intro past' state' result hresult
      refine AfterOk.of_cases ?_ (by simp)
      intro found hfound
      cases found with
      | none =>
          intro h
          cases h
      | some row =>
          intro _
          obtain ⟨q, d, rest, hq, rfl, hanswer⟩ := hresult row hfound
          obtain ⟨own, visible, hown, hvisible, rfl⟩ := query_pair hq
          refine ⟨hpast.append (reads_singleton rfl), ?_⟩
          rintro _ ⟨⟩
          exact ⟨key, own, visible, past, state, hkey, hown, hvisible, rfl, d, rest, hanswer⟩

/-! ### The requests of an update or a deletion -/

theorem ne_of_mem_ofRecord {schema : Schema} {record set : Record} {name : String}
    (hset : Document.ofRecord schema record = .ok set) (h : ∀ entry ∈ record, entry.1 ≠ name) :
    ∀ entry ∈ set, entry.1 ≠ name := by
  induction record generalizing set with
  | nil =>
      obtain rfl := Except.ok.inj hset
      intro entry hentry
      cases hentry
  | cons first rest ih =>
      rw [Document.ofRecord, List.mapM_cons] at hset
      obtain ⟨head, hhead, hset⟩ := exists_of_bind_eq_ok hset
      obtain ⟨tail, htail, hset⟩ := exists_of_bind_eq_ok hset
      obtain rfl := Except.ok.inj hset
      have hname : head.1 = first.1 := by
        dsimp only at hhead
        split at hhead
        · obtain ⟨value, -, rfl⟩ := exists_of_map_eq_ok hhead
          rfl
        · obtain rfl := Except.ok.inj hhead
          rfl
      intro entry hentry
      rcases List.mem_cons.mp hentry with rfl | hentry
      · rw [hname]
        exact h first List.mem_cons_self
      · exact ih htail (fun other hother => h other (List.mem_cons_of_mem first hother)) entry hentry

/-- The part of an update or a deletion that comes before its write. -/
theorem look_follows (hquiet : responder.Quiet) {known : Schema → Prop} {table : String} {id : Json}
    {restriction : Option Restriction}
    (hread : ∀ past e, e.request.isWrite = false → rule past e)
    (hschema : Follows responder rule
      (fun past' _ result => ∀ schema, result = .ok schema → known schema ∧ Reads past')
      (s.getSchema label table) [] state)
    {next : Schema → StoreDialogue Response}
    (hnext : ∀ schema past' state', known schema → Looked responder restriction schema id past' →
      Follows responder rule (fun _ _ _ => True) ((next schema).interpret (s.answer label)) past'
        state') :
    Follows responder rule (fun _ _ _ => True)
      ((StoreDialogue.call (.getSchema table) >>= fun schema =>
        Engine.checkVisible schema id restriction >>= fun _ => next schema).interpret
          (s.answer label)) [] state := by
  rw [bind_eq_bind, interpret_bind, interpret_call, follows_bind]
  refine hschema.mono ?_
  intro past' state' result hresult
  refine AfterOk.of_cases ?_ fun _ _ => trivial
  intro schema hok
  obtain ⟨hknown, hreads⟩ := hresult schema hok
  rw [bind_eq_bind, interpret_bind, follows_bind]
  refine (checkVisible_interpret_follows hquiet hread schema id restriction hreads).mono ?_
  intro past'' state'' result' hlooked
  refine AfterOk.of_cases ?_ fun _ _ => trivial
  intro _ hok'
  exact hnext schema past'' state'' hknown (hlooked hok')

/-- Every request of an update or a deletion is a read or its one guarded write. -/
theorem answer_interpret_follows (hquiet : responder.Quiet) (known : Schema → Prop)
    (settings : EngineSettings) (tag : String) (restriction : Option Restriction) (table : String)
    (id : Json) (request : Request)
    (hrequest : request = .delete table id ∨ ∃ data, request = .update table id data)
    (hschema : Follows responder (Guards responder known request restriction id)
      (fun past' _ result => ∀ schema, result = .ok schema → known schema ∧ Reads past')
      (s.getSchema label table) [] state) :
    Follows responder (Guards responder known request restriction id) (fun _ _ _ => True)
      ((Engine.answer settings tag restriction request).interpret (s.answer label)) [] state := by
  rcases hrequest with rfl | ⟨data, rfl⟩
  · refine look_follows hquiet guards_of_read hschema ?_
    intro schema past' state' hknown hlooked
    rw [bind_eq_bind, interpret_bind, interpret_call, follows_bind]
    refine (deleteOne_follows hquiet guards_of_read schema id _ ?_ ?_).mono fun _ _ _ _ =>
      AfterOk.of_cases (fun _ _ => trivial) fun _ _ => trivial
    · intro more state'' key own column value set hmore hkey hown hset
      refine hlooked.guards hknown hkey hown (.update set ?_ ?_) hmore
      · exact ne_of_mem_ofRecord hset fun entry hentry => (Record.ne_of_mem_erase hentry).2
      · intro name id' data r hupdate
        cases hupdate
    · intro key own hkey hown
      have hguards : Guards responder known (.delete table id) restriction id (past' ++ [])
          ⟨.deleteOne schema.table own, state'⟩ :=
        hlooked.guards hknown hkey hown (.delete table id rfl) reads_nil
      rwa [List.append_nil] at hguards
  · refine look_follows hquiet guards_of_read hschema ?_
    intro schema past' state' hknown hlooked
    rw [bind_eq_bind, interpret_bind, interpret_call, follows_bind]
    refine (updateOne_follows hquiet guards_of_read schema id _ ?_).mono fun _ _ _ _ =>
      AfterOk.of_cases (fun _ _ => trivial) fun _ _ => trivial
    intro key own set hkey hown hset
    have hguards : Guards responder known (.update table id data) restriction id (past' ++ [])
        ⟨.updateOne schema.table own set, state'⟩ := by
      refine hlooked.guards hknown hkey hown (.update set ?_ ?_) reads_nil
      · exact ne_of_mem_ofRecord hset fun entry hentry => (Record.ne_of_mem_erase hentry).2
      · rintro name id' data' r _ rfl
        exact ne_of_mem_ofRecord hset fun entry hentry =>
          (Record.ne_of_mem_erase (Record.ne_of_mem_erase hentry).1).2
    rwa [List.append_nil] at hguards

/-- A write of a restricted request is guarded, whatever answers and wherever in the run it is. -/
theorem guarded_of_transcript (hquiet : responder.Quiet) (settings : EngineSettings)
    (requestId : Option String) {source : PermissionSource} {identity table : String} {id : Json}
    {request : Request} {r : Restriction}
    {before after : List (Exchange DocumentRequest σ)} {e : Exchange DocumentRequest σ}
    (hrequest : request = .delete table id ∨ ∃ data, request = .update table id data)
    (houtcome : Engine.outcome? source identity request = some (.ok (.restricted r)))
    (hsplit : ((Engine.performAuthorized settings requestId source identity request).interpret
      (s.answer label)).transcript responder state = before ++ e :: after)
    (hwrite : e.request.isWrite = true) :
    ∃ schema, Document.Infers table schema ∧
      Guarded responder request (some r) schema id before e.request := by
  obtain ⟨first, second, hperform⟩ :=
    Engine.performAuthorized_restricted settings requestId houtcome
  have hfollows : Follows responder
      (Guards responder (Document.Infers table) request (some r) id) (fun _ _ _ => True)
      ((Engine.performAuthorized settings requestId source identity request).interpret
        (s.answer label)) [] state := by
    rw [hperform, interpret, interpret]
    change Follows _ _ _ _ _ (responder.note second (responder.note first state))
    rw [hquiet, hquiet]
    exact answer_interpret_follows hquiet _ settings _ (some r) table id request hrequest
      (getSchema_follows hquiet guards_of_read table reads_nil)
  exact hfollows.rule_of_transcript hsplit hwrite

end DocumentStore

end DataAccess
