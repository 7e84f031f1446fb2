import DataAccess.Proofs.Document.GuardedWrite

/-!
# Confined writes

An update or a deletion of a row changes or removes one document at most, whatever becomes of the
request: the one whose key is the id. Under a restriction that document was one that the restriction
shows, and an update leaves it so.
-/

namespace DataAccess

open Dialogue

namespace DocumentStore

variable {s : DocumentStore} {now : Timestamp} {label : String} {m : DocumentMemory}
  {table : String} {id : Json} {request : Request} {restriction : Option Restriction}

/-- How a store compares the keys of a table with an id: its documents bear the key of the inferred
schema, which is compared with the compiled value. -/
structure ComparesKey (s : DocumentStore) (m : DocumentMemory) (table : String) (id : Json)
    (schema : Schema) (key : String) (expected : Json) : Prop where
  of_inferred : s.inferred m table = .ok schema
  of_key : schema.key = .ok key
  compiled : keyFilter schema key id = .ok [(key, expected)]

/-- What becomes of the document of an id. -/
def Written (s : DocumentStore) (m : DocumentMemory) (table : String) (id : Json)
    (request : Request) (d : Record) (after : Option Record) : Prop :=
  ∃ schema key expected, ComparesKey s m table id schema key expected ∧
    Document.equal (d.get? key) expected = true ∧
    ∀ name id data, request = .update name id data →
      ∃ d', after = some d' ∧ d'.get? key = d.get? key

/-- A document that a restriction shows, and an update that keeps what the restriction is about.
Under the one name that filters reserve the condition is no condition on a field. -/
def ShownWritten (s : DocumentStore) (m : DocumentMemory) (table : String) (request : Request)
    (r : Restriction) (d : Record) (after : Option Record) : Prop :=
  ∃ schema visible, s.inferred m table = .ok schema ∧
    Document.filter schema [r.predicate] = .ok visible ∧
    Document.matchesFilter d visible = true ∧
    ∀ name id data, request = .update name id data →
      ∃ d', after = some d' ∧ d'.get? r.column = d.get? r.column ∧
        (r.column ≠ "$and" → Document.matchesFilter d' visible = true)

/-! ### One write and its memory -/

theorem replay_reads {past : List (Exchange DocumentRequest DocumentMemory)} (h : Reads past)
    (m : DocumentMemory) : replay (DocumentMemory.responder now) m past = m := by
  induction past with
  | nil => rfl
  | cons first rest ih =>
      have hfirst : (DocumentMemory.answer now first.request m).2 = m :=
        DocumentMemory.answer_of_not_isWrite (h first List.mem_cons_self) now m
      have hrest := ih fun e he => h e (List.mem_cons_of_mem first he)
      unfold replay
      rw [List.foldl_cons]
      exact (congrArg (replay (DocumentMemory.responder now) · rest) hfirst).trans hrest

theorem state_of_reads {α : Type} {d : DocumentDialogue α}
    {before after : List (Exchange DocumentRequest DocumentMemory)}
    {e : Exchange DocumentRequest DocumentMemory}
    (hsplit : d.transcript (DocumentMemory.responder now) m = before ++ e :: after)
    (hreads : Reads before) : e.state = m :=
  (state_eq_replay (fun _ _ => rfl) hsplit).trans (replay_reads hreads m)

/-- A run whose writes come after reads alone has one write at most. -/
theorem run_cases {α : Type} {d : DocumentDialogue α}
    {rule : List (Exchange DocumentRequest DocumentMemory) →
      Exchange DocumentRequest DocumentMemory → Prop}
    (hrule : ∀ before e after,
      d.transcript (DocumentMemory.responder now) m = before ++ e :: after → rule before e)
    (halone : ∀ past e, rule past e → e.request.isWrite = true → Reads past) :
    (d.run (DocumentMemory.responder now) m).2 = m ∨
      ∃ past e, rule past e ∧ e.request.isWrite = true ∧ (∀ other ∈ past, other.state = m) ∧
        (d.run (DocumentMemory.responder now) m).2 = (DocumentMemory.answer now e.request m).2 := by
  have hquiet : (DocumentMemory.responder now).Quiet := fun _ _ => rfl
  rw [run_eq_replay hquiet]
  by_cases hreads : Reads (d.transcript (DocumentMemory.responder now) m)
  · exact .inl (replay_reads hreads m)
  right
  unfold Reads at hreads
  simp only [Classical.not_forall, Bool.not_eq_false] at hreads
  obtain ⟨e, hmem, hwrite⟩ := hreads
  obtain ⟨before, after, hsplit⟩ := List.append_of_mem hmem
  have hbefore : Reads before := halone before e (hrule before e after hsplit) hwrite
  have hafter : Reads after := by
    intro later hlater
    obtain ⟨first, last, rfl⟩ := List.append_of_mem hlater
    by_cases hlaterWrite : later.request.isWrite = true
    -- A second write would come after reads alone, and the first is not one.
    · have hguard := hrule (before ++ e :: first) later last (by simp [hsplit])
      have hreadsBoth := halone _ _ hguard hlaterWrite e (by simp)
      rw [hwrite] at hreadsBoth
      cases hreadsBoth
    · simpa using hlaterWrite
  refine ⟨before, e, hrule before e after hsplit, hwrite, ?_, ?_⟩
  · intro other hother
    obtain ⟨first, last, rfl⟩ := List.append_of_mem hother
    have hother : d.transcript (DocumentMemory.responder now) m =
        first ++ other :: (last ++ e :: after) := by simp [hsplit]
    exact state_of_reads hother fun x hx => hbefore x (by simp [hx])
  · rw [hsplit, replay_append, replay_reads hbefore]
    exact replay_reads hafter _

theorem getSchema_follows_inferred (now : Timestamp) (label table : String)
    {rule : List (Exchange DocumentRequest DocumentMemory) →
      Exchange DocumentRequest DocumentMemory → Prop}
    (hread : ∀ past e, e.request.isWrite = false → rule past e) :
    Follows (DocumentMemory.responder now) rule
      (fun past' _ result => ∀ schema, result = .ok schema →
        s.inferred m table = .ok schema ∧ Reads past')
      (s.getSchema label table) [] m := by
  refine ((getSchema_follows (fun _ _ => rfl) hread table reads_nil).with_run).mono ?_
  rintro past' state' result ⟨hresult, hrun⟩ schema rfl
  rw [run_getSchema] at hrun
  exact ⟨(congrArg Prod.fst hrun).symm, (hresult schema rfl).2⟩

/-- An undisturbed update or deletion leaves the memory as it is, or as its one write makes it. -/
theorem serve_answer_cases (now : Timestamp) (label : String) (settings : EngineSettings)
    (tag : String) (restriction : Option Restriction)
    (hrequest : request = .delete table id ∨ ∃ data, request = .update table id data) :
    (s.serve now label (Engine.answer settings tag restriction request) m).2 = m ∨
      ∃ schema past write, s.inferred m table = .ok schema ∧
        Guarded (DocumentMemory.responder now) request restriction schema id past write ∧
        (∀ e ∈ past, e.state = m) ∧
        (s.serve now label (Engine.answer settings tag restriction request) m).2 =
          (DocumentMemory.answer now write m).2 := by
  have hquiet : (DocumentMemory.responder now).Quiet := fun _ _ => rfl
  have hfollows := answer_interpret_follows DocumentMemory.quiet_responder
    (fun schema => s.inferred m table = .ok schema) settings tag restriction table id request hrequest
    (getSchema_follows_inferred now label table guards_of_read)
  refine (run_cases (fun _ _ _ hsplit => hfollows.rule_of_transcript hsplit) ?_).imp_right ?_
  · intro past e hguards hwrite
    obtain ⟨schema, -, hguarded⟩ := hguards hwrite
    exact hguarded.alone
  · rintro ⟨past, e, hguards, hwrite, hstates, hrun⟩
    obtain ⟨schema, hinferred, hguarded⟩ := hguards hwrite
    exact ⟨schema, past, e.request, hinferred, hguarded, hstates, hrun⟩

/-! ### The document of an id -/

theorem keyFilter_eq_ok {schema : Schema} {key : String} {own : Record}
    (hinferred : s.inferred m table = .ok schema) (hkey : schema.key = .ok key)
    (hid : id.isScalar = true) (hown : keyFilter schema key id = .ok own) :
    ∃ expected, own = [(key, expected)] ∧
      ∀ d, Document.matchesFilter d own = Document.equal (d.get? key) expected := by
  rw [keyFilter, Document.filter_singleton] at hown
  obtain ⟨column, expected, -, hexpected, rfl⟩ := Document.predicateFilter_equals_eq_ok hown
  have hname : key ≠ "$and" := by
    rw [(infers_of_inferred hinferred).key_eq hkey]
    decide
  refine ⟨expected, rfl, fun d => ?_⟩
  rw [Document.matchesFilter_singleton hname, Document.holds_ofValue hid hexpected]

theorem matchesFilter_of_get?_eq {schema : Schema} {r : Restriction} {visible d d' : Record}
    (hvisible : Document.filter schema [r.predicate] = .ok visible) (hname : r.column ≠ "$and")
    (hget : d'.get? r.column = d.get? r.column) :
    Document.matchesFilter d' visible = Document.matchesFilter d visible := by
  rw [Document.filter_singleton] at hvisible
  obtain ⟨column, expected, -, -, rfl⟩ := Document.predicateFilter_equals_eq_ok hvisible
  rw [Document.matchesFilter_singleton hname, Document.matchesFilter_singleton hname, hget]

theorem serve_answer_touches (now : Timestamp) (label : String) (settings : EngineSettings)
    (tag : String) (restriction : Option Restriction)
    (hrequest : request = .delete table id ∨ ∃ data, request = .update table id data)
    (hid : id.isScalar = true)
    (hunique : ∀ schema key expected, ComparesKey s m table id schema key expected →
      ((m.documents table).filter fun d => Document.equal (d.get? key) expected).length ≤ 1) :
    m.Touches (s.serve now label (Engine.answer settings tag restriction request) m).2 table
      fun d after => Written s m table id request d after ∧
        ∀ r, restriction = some r → ShownWritten s m table request r d after := by
  rcases serve_answer_cases now label settings tag restriction hrequest with
    hsame | ⟨schema, past, write, hinferred, hguarded, hstates, hrun⟩
  · exact .inl hsame
  obtain ⟨key, own, hkey, hown, hkeyed, hchecks⟩ := hguarded.keyed
  have htable : schema.table = table := (infers_of_inferred hinferred).table_eq
  subst htable
  obtain ⟨expected, hcompiled, hmatches⟩ := keyFilter_eq_ok hinferred hkey hid hown
  have hcompares : ComparesKey s m schema.table id schema key expected := by
    rw [hcompiled] at hown
    exact ⟨hinferred, hkey, hown⟩
  rw [hrun]
  refine (hkeyed.touches now m).mono ?_
  rintro d after hd ⟨hmatch, hupdate⟩
  refine ⟨⟨schema, key, expected, hcompares, ?_, ?_⟩, ?_⟩
  · rw [← hmatches]
    exact hmatch
  · intro name id' data hname
    obtain ⟨d', hafter, hkept, -⟩ := hupdate name id' data hname
    exact ⟨d', hafter, hkept⟩
  intro r hr
  obtain ⟨visible, early, seen, between, hchecked⟩ := hchecks r hr
  -- The look was at this memory, so it found the document that is written to.
  have hseen : seen = m := by
    refine hstates ⟨.find (ownQuery schema.table own visible), seen⟩ ?_
    rw [hchecked.split]
    exact List.mem_append_right early List.mem_cons_self
  obtain ⟨found, rest, hfound⟩ := hchecked.found
  rw [hseen] at hfound
  obtain ⟨hmem, hboth⟩ := DocumentMemory.mem_of_find_first (Except.ok.inj hfound)
  rw [Document.matchesFilter_joinFilters] at hboth
  have hown' : Document.matchesFilter found own = true ∧
      Document.matchesFilter found visible = true := by simpa using hboth
  have hsame : found = d := by
    refine DocumentMemory.eq_of_length_le_one (hunique schema key expected hcompares) hmem ?_ hd ?_
    · rw [← hmatches]
      exact hown'.1
    · rw [← hmatches]
      exact hmatch
  subst hsame
  refine ⟨schema, visible, hinferred, hchecked.shown, hown'.2, ?_⟩
  intro name id' data hname
  obtain ⟨d', hafter, -, hcolumn⟩ := hupdate name id' data hname
  refine ⟨d', hafter, hcolumn r hr, fun hreserved => ?_⟩
  rw [matchesFilter_of_get?_eq hchecked.shown hreserved (hcolumn r hr)]
  exact hown'.2

/-- **Writes are confined.** At most one document of a table has the key that a scalar id stands for.
An update or a deletion of the row of that id changes or removes no other document and keeps the
order of all of them, on anyone's behalf, whether it succeeds or fails. If it is restricted, then the
restriction shows the document beforehand; and an update keeps the document's key and its value in
the column of the restriction, so that the restriction still shows it unless the column bears the
name that filters reserve for conjunctions. -/
theorem write_confined (s : DocumentStore) (now : Timestamp) (label : String)
    (settings : EngineSettings) (requestId : Option String) (source : PermissionSource)
    (identity table : String) (id : Json) (request : Request) (m : DocumentMemory)
    (hrequest : request = .delete table id ∨ ∃ data, request = .update table id data)
    (hid : id.isScalar = true)
    (hunique : ∀ schema key expected, ComparesKey s m table id schema key expected →
      ((m.documents table).filter fun d => Document.equal (d.get? key) expected).length ≤ 1) :
    m.Touches (s.serve now label (Engine.perform settings requestId request) m).2 table
        (Written s m table id request) ∧
      m.Touches (s.serve now label
          (Engine.performAuthorized settings requestId source identity request) m).2 table
        (Written s m table id request) ∧
      ∀ r, Engine.outcome? source identity request = some (.ok (.restricted r)) →
        m.Touches (s.serve now label
            (Engine.performAuthorized settings requestId source identity request) m).2 table
          fun d after => Written s m table id request d after ∧
            ShownWritten s m table request r d after := by
  have hanswer := fun restriction => serve_answer_touches now label settings
    (requestLabel requestId) restriction hrequest hid hunique
  refine ⟨?_, ?_, ?_⟩
  · have hperform : (Engine.perform settings requestId request).run (s.responder now label) m =
        (Engine.answer settings (requestLabel requestId) none request).run (s.responder now label) m :=
      rfl
    rw [serve_eq_run, hperform, ← serve_eq_run]
    exact (hanswer none).mono fun d after _ h => h.1
  · have houtcome : ∃ result, Engine.outcome? source identity request = some result := by
      rcases hrequest with rfl | ⟨data, rfl⟩ <;> exact ⟨_, rfl⟩
    obtain ⟨result, houtcome⟩ := houtcome
    rcases Engine.run_performAuthorized_cases quiet_responder settings requestId m houtcome with
      hsame | ⟨restriction, hrun⟩
    · refine .inl ?_
      rw [serve_eq_run]
      exact hsame
    · rw [serve_eq_run, hrun, ← serve_eq_run]
      exact (hanswer restriction).mono fun d after _ h => h.1
  · intro r hr
    obtain ⟨first, second, hperform⟩ := Engine.performAuthorized_restricted settings requestId hr
    have hrun : (Engine.performAuthorized settings requestId source identity request).run
        (s.responder now label) m = (Engine.answer settings (requestLabel requestId) (some r)
          request).run (s.responder now label) m := by
      rw [hperform]
      rfl
    rw [serve_eq_run, hrun, ← serve_eq_run]
    exact (hanswer (some r)).mono fun d after _ h => ⟨h.1, h.2 r rfl⟩

theorem write_confined_accounts :
    DocumentMemory.accounts.Touches
      (serve ⟨"documents", .standard⟩ default "-"
        (Engine.performAuthorized .standard none
          (fun _ _ _ => .ok (.restricted ⟨"owner", .string "u1"⟩)) "u1"
          (.update "accounts" (.string "a2") [("owner", .string "u2"), ("title", .string "new")]))
        .accounts).2 "accounts" fun d after =>
      Written ⟨"documents", .standard⟩ .accounts "accounts" (.string "a2")
          (.update "accounts" (.string "a2") [("owner", .string "u2"), ("title", .string "new")])
          d after ∧
        ShownWritten ⟨"documents", .standard⟩ .accounts "accounts"
          (.update "accounts" (.string "a2") [("owner", .string "u2"), ("title", .string "new")])
          ⟨"owner", .string "u1"⟩ d after := by
  refine (write_confined ⟨"documents", .standard⟩ default "-" .standard none
    (fun _ _ _ => .ok (.restricted ⟨"owner", .string "u1"⟩)) "u1" "accounts" (.string "a2") _ .accounts
    (.inr ⟨_, rfl⟩) rfl ?_).2.2 _ rfl
  rintro schema key expected ⟨hinferred, hkey, hown⟩
  obtain rfl := Except.ok.inj hinferred
  obtain rfl := Except.ok.inj hkey
  obtain ⟨hentry, -⟩ := List.cons.inj (Except.ok.inj hown)
  obtain ⟨-, hexpected⟩ := Prod.mk.inj hentry
  have hexpected : expected = .string "a2" := hexpected.symm
  rw [hexpected]
  decide

/-- A condition under the reserved name is about other fields, which an update may change. -/
theorem update_leaves_restriction :
    ∃ (m : DocumentMemory) (r : Restriction) (schema : Schema) (visible d d' : Record),
      inferred ⟨"documents", .standard⟩ m "accounts" = .ok schema ∧
      Document.filter schema [r.predicate] = .ok visible ∧
      m.documents "accounts" = [d] ∧ Document.matchesFilter d visible = true ∧
      (serve ⟨"documents", .standard⟩ default "-"
        (Engine.performAuthorized .standard none (fun _ _ _ => .ok (.restricted r)) "u1"
          (.update "accounts" (.string "a1") [("owner", .string "u2")])) m).2.documents "accounts" =
        [d'] ∧
      Document.matchesFilter d' visible = false := by
  refine ⟨⟨[("accounts", [[("$and", .array [.object [("owner", .string "u1")]]),
    ("_id", .string "a1"), ("owner", .string "u1")]])], 0⟩,
    ⟨"$and", .array [.object [("owner", .string "u1")]]⟩, _, _, _, _, rfl, rfl, rfl, ?_, rfl, ?_⟩
  · decide
  · decide

end DocumentStore

end DataAccess
