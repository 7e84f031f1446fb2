import DataAccess.Proofs.Dialogue.Transcript
import DataAccess.Proofs.Json.Record
import DataAccess.Rest.Store

/-!
# Emptying a table of a service

All pages of the table are listed, and the ids of their records are sent off in small batches, in the
order of the list and each once. A record is known by what its row shows under `id`, and there a field
of that name hides the id of the record: such a record stays, and another may go in its place.
-/

namespace DataAccess

open Dialogue

namespace RestStore

/-! ### Records and the ids of their rows -/

/-- The records of one page. -/
def listed (body : Json) : List Json :=
  match member? body "records" with
  | some (.array items) => items
  | _ => []

/-- The fields of a record of the service. -/
def fieldsOf (record : Json) : Record :=
  match member? record "fields" with
  | some (.object fields) => fields
  | _ => []

/-- The id that the service gave to a record. -/
def ownId? (record : Json) : Option String := (member? record "id").bind Json.asString?

/-- What a row shows as its id: the field of that name, if there is one, before the record's own. -/
def shownId? (record : Json) : Option String :=
  match Record.get? (fieldsOf record).reverse Formula.recordId with
  | some value => value.asString?
  | none => ownId? record

theorem pageRecords_eq (body : Json) : pageRecords body = (listed body).map flatten := by
  rw [pageRecords, listed]
  cases member? body "records" with
  | none => rfl
  | some value => cases value <;> rfl

theorem flatten_eq (record : Json) :
    flatten record =
      Record.setAll [(Formula.recordId, (member? record "id").getD .null)] (fieldsOf record) := by
  rw [flatten, fieldsOf]
  cases member? record "fields" with
  | none => rfl
  | some value => cases value <;> rfl

theorem id_of_flatten (record : Json) :
    ((flatten record).get? Formula.recordId).bind Json.asString? = shownId? record := by
  rw [flatten_eq, Record.get?_setAll_reverse, shownId?, ownId?]
  cases Record.get? (fieldsOf record).reverse Formula.recordId with
  | some value => rfl
  | none =>
      rw [Option.none_or, Record.get?_cons, if_pos rfl]
      cases member? record "id" <;> rfl

/-- Without a field named like the id, a row shows the id of its record. -/
theorem shownId?_eq_ownId? {record : Json} (h : Formula.recordId ∉ (fieldsOf record).keys) :
    shownId? record = ownId? record := by
  have hnone : Record.get? (fieldsOf record).reverse Formula.recordId = none := by
    rw [Record.get?_eq_none_iff, Record.keys, List.map_reverse, List.mem_reverse]
    exact h
  rw [shownId?, hnone]

theorem map_filterMap_shownId? {records : List Json}
    (h : ∀ record ∈ records, (ownId? record).isSome ∧ Formula.recordId ∉ (fieldsOf record).keys) :
    (records.filterMap shownId?).map some = records.map ownId? := by
  induction records with
  | nil => rfl
  | cons record rest ih =>
      obtain ⟨hid, hfree⟩ := h record List.mem_cons_self
      obtain ⟨id, hid⟩ := Option.isSome_iff_exists.mp hid
      have hshown : shownId? record = some id := (shownId?_eq_ownId? hfree).trans hid
      rw [List.filterMap_cons_some hshown, List.map_cons, List.map_cons, hid,
        ih fun other hother => h other (List.mem_cons_of_mem record hother)]

/-- The ids that rows show. -/
def rowIds (rows : List Record) : List String :=
  rows.filterMap fun row => (row.get? Formula.recordId).bind Json.asString?

theorem rowIds_pageRecords (bodies : List Json) :
    rowIds (bodies.flatMap pageRecords) = (bodies.flatMap listed).filterMap shownId? := by
  rw [rowIds, List.filterMap_flatMap, List.filterMap_flatMap]
  congr 1
  funext body
  rw [pageRecords_eq, List.filterMap_map]
  exact congrArg (List.filterMap · _) (funext id_of_flatten)

/-! ### Batches -/

theorem flatten_chunks {α : Type} {length fuel : Nat} {xs : List α} (hlength : 0 < length)
    (hfuel : xs.length ≤ fuel) : (chunks length fuel xs).flatten = xs := by
  induction fuel generalizing xs with
  | zero =>
      obtain rfl := List.eq_nil_of_length_eq_zero (Nat.le_zero.mp hfuel)
      rfl
  | succ fuel ih =>
      cases xs with
      | nil => rfl
      | cons x xs =>
          have hrest : ((x :: xs).drop length).length ≤ fuel := by
            rw [List.length_drop]
            omega
          rw [chunks, List.flatten_cons, ih hrest, List.take_append_drop]
          exact List.cons_ne_nil x xs

theorem length_of_mem_chunks {α : Type} {length fuel : Nat} {xs chunk : List α}
    (hlength : 0 < length) (h : chunk ∈ chunks length fuel xs) :
    1 ≤ chunk.length ∧ chunk.length ≤ length := by
  induction fuel generalizing xs with
  | zero => cases xs <;> cases h
  | succ fuel ih =>
      cases xs with
      | nil => cases h
      | cons x xs =>
          rcases List.mem_cons.mp h with rfl | h
          · rw [List.length_take, List.length_cons]
            omega
          · exact ih h

/-- The ids as they are sent off. -/
def batches (ids : List String) : List (List String) := chunks deleteBatch ids.length ids

theorem flatten_batches (ids : List String) : (batches ids).flatten = ids :=
  flatten_chunks (by decide) (Nat.le_refl _)

theorem length_of_mem_batches {ids batch : List String} (h : batch ∈ batches ids) :
    1 ≤ batch.length ∧ batch.length ≤ 10 :=
  length_of_mem_chunks (by decide) h

/-! ### What a service is sent -/

/-- The parameters with which a page is asked for; a token names a later page. -/
def pageParams (params : List (String × String)) : Option String → List (String × String)
  | some token => params ++ [("offset", token)]
  | none => params

/-- The request that deletes the records of some ids. -/
def deletion (path : String) (ids : List String) : RestRequest :=
  .send .delete path (ids.map fun id => ("records[]", id)) none

section Service

variable {σ : Type} (transport : Responder RestRequest RestRequest.Answer σ) (path : String)

/-- The pages of a list from one token on. Each is told without a failure, and the last names no other
page. -/
inductive Pages (params : List (String × String)) : Option String → σ → List Json → σ → Prop
  | last {token : Option String} {state after : σ} {body : Json}
      (hbody : transport.answer (.send .get path (pageParams params token) none) state =
        (.ok body, after))
      (hlast : nextToken? body = none) : Pages params token state [body] after
  | more {token : Option String} {state middle after : σ} {body : Json} {next : String}
      {rest : List Json}
      (hbody : transport.answer (.send .get path (pageParams params token) none) state =
        (.ok body, middle))
      (hnext : nextToken? body = some next) (hrest : Pages params (some next) middle rest after) :
      Pages params token state (body :: rest) after

variable {transport path} (label : String) {params : List (String × String)} {state after : σ}

/-- A request that succeeds, and what is done with its value. -/
theorem run_logged_bind {α : Type} {operation detail : String} {method : RestMethod}
    {query : List (String × String)} {body : Option Json} {value : Json}
    (h : transport.answer (.send method path query body) state = (.ok value, after))
    (next : Json → RestDialogue α) :
    ((logged label operation detail method path query body).bind next).run transport state =
        (next value).run transport after ∧
      ((logged label operation detail method path query body).bind next).transcript transport
          state =
        ⟨.send method path query body, state⟩ :: (next value).transcript transport after := by
  rw [logged, bind_eq_bind, request, Dialogue.bind, Dialogue.bind, Dialogue.run, transcript, h]
  exact ⟨rfl, rfl⟩

theorem listPages_succ (label path : String) (params : List (String × String)) (budget : Nat)
    (token : Option String) :
    listPages label path params (budget + 1) token =
      (logged label "list" path .get path (pageParams params token) none).bind fun body =>
        match nextToken? body with
        | none => .done (pageRecords body)
        | some token =>
          (listPages label path params budget (some token)).bind fun rest =>
            .done (pageRecords body ++ rest) := by
  cases token <;> rfl

theorem run_listPages {budget : Nat} {token : Option String} {bodies : List Json}
    (h : Pages transport path params token state bodies after) (hbudget : bodies.length ≤ budget) :
    (listPages label path params budget token).run transport state =
        (.ok (bodies.flatMap pageRecords), after) ∧
      ∀ e ∈ (listPages label path params budget token).transcript transport state,
        ∃ query, e.request = .send .get path query none := by
  induction h generalizing budget with
  | @last token state after body hbody hlast =>
      cases budget with
      | zero => cases hbudget
      | succ budget =>
          obtain ⟨hrun, hasked⟩ := run_logged_bind label hbody _
          rw [listPages_succ, hrun, hasked, hlast]
          simp [Dialogue.run, transcript]
  | @more token state middle after body next rest hbody hnext hpages ih =>
      cases budget with
      | zero => cases hbudget
      | succ budget =>
          obtain ⟨hrest, hgets⟩ := ih (Nat.le_of_succ_le_succ hbudget)
          obtain ⟨hrun, hasked⟩ := run_logged_bind label hbody _
          obtain ⟨hlater, hlaterAsked⟩ :=
            run_transcript_bind transport hrest fun rows => .done (pageRecords body ++ rows)
          rw [listPages_succ, hrun, hasked, hnext]
          simp only [hlater, hlaterAsked, Dialogue.run, transcript, List.append_nil,
            List.flatMap_cons, List.mem_cons]
          refine ⟨trivial, ?_⟩
          rintro e (rfl | he)
          · exact ⟨_, rfl⟩
          · exact hgets e he

theorem deleteRecords_cons (label path : String) (ids : List String) (rest : List (List String)) :
    ∃ entry, deleteRecords label path (ids :: rest) =
      .note entry ((logged label "truncate" path .delete path
        (ids.map fun id => ("records[]", id)) none).bind fun _ => deleteRecords label path rest) :=
  ⟨_, rfl⟩

theorem run_deleteRecords
    (hdelete : ∀ ids state, ∃ body after, transport.answer (deletion path ids) state = (.ok body, after))
    (batches : List (List String)) (state : σ) :
    ((deleteRecords label path batches).run transport state).1 = .ok () ∧
      ((deleteRecords label path batches).transcript transport state).map (·.request) =
        batches.map (deletion path) := by
  induction batches generalizing state with
  | nil => exact ⟨rfl, rfl⟩
  | cons ids rest ih =>
      obtain ⟨entry, hcons⟩ := deleteRecords_cons label path ids rest
      obtain ⟨body, after, hanswer⟩ := hdelete ids (transport.note entry state)
      obtain ⟨hrun, hasked⟩ := run_logged_bind label hanswer _
      obtain ⟨hrest, hrestAsked⟩ := ih after
      rw [hcons, Dialogue.run, transcript, hrun, hasked, List.map_cons, hrestAsked, List.map_cons]
      exact ⟨hrest, rfl⟩

theorem run_truncate {s : RestStore} {table : String} {bodies : List Json} (hquiet : transport.Quiet)
    (hpages : Pages transport (s.tablePath table) ListQuery.all.params none state bodies after)
    (hbudget : bodies.length ≤ s.pageBudget)
    (hdelete : ∀ ids state, ∃ body after,
      transport.answer (deletion (s.tablePath table) ids) state = (.ok body, after)) :
    ((s.truncate label table).run transport state).1 = .ok () ∧
      ∃ gets : List RestRequest,
        (∀ r ∈ gets, ∃ query, r = .send .get (s.tablePath table) query none) ∧
          ((s.truncate label table).transcript transport state).map (·.request) =
            gets ++ (batches ((bodies.flatMap listed).filterMap shownId?)).map
              (deletion (s.tablePath table)) := by
  obtain ⟨entry, htruncate⟩ : ∃ entry, s.truncate label table =
      .note entry ((listPages label (s.tablePath table) ListQuery.all.params s.pageBudget none).bind
        fun rows => deleteRecords label (s.tablePath table) (batches (rowIds rows))) := ⟨_, rfl⟩
  obtain ⟨hlist, hgets⟩ := run_listPages label hpages hbudget
  obtain ⟨hrun, hasked⟩ := run_transcript_bind transport hlist fun rows =>
    deleteRecords label (s.tablePath table) (batches (rowIds rows))
  rw [rowIds_pageRecords] at hrun hasked
  obtain ⟨hdone, hdeletions⟩ := run_deleteRecords label hdelete
    (batches ((bodies.flatMap listed).filterMap shownId?)) after
  rw [htruncate, Dialogue.run, transcript, hquiet, hrun, hasked, List.map_append, hdeletions]
  refine ⟨hdone, _, ?_, rfl⟩
  intro r hr
  obtain ⟨e, he, rfl⟩ := List.mem_map.mp hr
  exact hgets e he

/-- **What emptying a table deletes.** If the pages of a table come to an end and no call fails, the
table is listed and the ids that the rows of its records show are sent off: in the order of the list,
each once, one to ten in a request. These are the ids of all records if no record has a field of that
name. -/
theorem truncate_deletes {s : RestStore} {table : String} {bodies : List Json}
    (hquiet : transport.Quiet)
    (hpages : Pages transport (s.tablePath table) ListQuery.all.params none state bodies after)
    (hbudget : bodies.length ≤ s.pageBudget)
    (hdelete : ∀ ids state, ∃ body after,
      transport.answer (deletion (s.tablePath table) ids) state = (.ok body, after)) :
    ((s.truncate label table).run transport state).1 = .ok () ∧
      ∃ (gets : List RestRequest) (sent : List (List String)),
        ((s.truncate label table).transcript transport state).map (·.request) =
            gets ++ sent.map (deletion (s.tablePath table)) ∧
          (∀ r ∈ gets, ∃ query, r = .send .get (s.tablePath table) query none) ∧
          (∀ ids ∈ sent, 1 ≤ ids.length ∧ ids.length ≤ 10) ∧
          sent.flatten = (bodies.flatMap listed).filterMap shownId? ∧
          ((∀ record ∈ bodies.flatMap listed,
              (ownId? record).isSome ∧ Formula.recordId ∉ (fieldsOf record).keys) →
            sent.flatten.map some = (bodies.flatMap listed).map ownId?) := by
  obtain ⟨hdone, gets, hgets, hasked⟩ := run_truncate label hquiet hpages hbudget hdelete
  refine ⟨hdone, gets, _, hasked, hgets, fun ids hids => length_of_mem_batches hids,
    flatten_batches _, fun hown => ?_⟩
  rw [flatten_batches]
  exact map_filterMap_shownId? hown

end Service

/-! ### Two tables -/

/-- A record of a service with its fields. -/
def recordOf (id : String) (fields : Record) : Json :=
  .object [("id", .string id), ("fields", .object fields)]

/-- A page of records and the token of the page after it. -/
def pageOf (records : List Json) : Option String → Json
  | some token => .object [("records", .array records), ("offset", .string token)]
  | none => .object [("records", .array records)]

/-- A service that tells one page to a request without a token, and another to one with a token. -/
def twoPages (first second : Json) : Responder RestRequest RestRequest.Answer Unit where
  answer request _ :=
    match request with
    | .send .get _ query _ => (.ok (if query.any (·.1 == "offset") then second else first), ())
    | .send _ _ _ _ => (.ok (.object []), ())
    | .now => (default, ())
  note _ state := state

theorem pages_twoPages (path : String) {first second : Json} {token : String}
    (hfirst : nextToken? first = some token) (hsecond : nextToken? second = none) :
    Pages (twoPages first second) path ListQuery.all.params none () [first, second] () := by
  have hbegin : (ListQuery.all.params.any (·.1 == "offset")) = false := by decide +kernel
  have hend : Pages (twoPages first second) path ListQuery.all.params (some token) () [second] () := by
    refine .last ?_ hsecond
    simp [twoPages, pageParams]
  refine .more ?_ hfirst hend
  simp only [twoPages, pageParams, hbegin, Bool.false_eq_true, if_false]

/-- Two pages with a record each, told one after the other and deleted in one request or two. -/
theorem truncate_deletes_two_pages :
    let s : RestStore := ⟨"app", .standard, 2⟩
    let transport := twoPages (pageOf [recordOf "rec1" [("Name", .string "one")]] (some "next"))
      (pageOf [recordOf "rec2" [("Name", .string "two")]] none)
    ∃ (gets : List RestRequest) (sent : List (List String)),
      ((s.truncate "main" "Notes").transcript transport ()).map (·.request) =
          gets ++ sent.map (deletion (s.tablePath "Notes")) ∧
        (∀ ids ∈ sent, 1 ≤ ids.length ∧ ids.length ≤ 10) ∧ sent.flatten = ["rec1", "rec2"] := by
  intro s transport
  have hquiet : transport.Quiet := fun _ _ => rfl
  have hfirst : nextToken? (pageOf [recordOf "rec1" [("Name", .string "one")]] (some "next")) =
      some "next" := by decide +kernel
  have hsecond : nextToken? (pageOf [recordOf "rec2" [("Name", .string "two")]] none) = none := by
    decide +kernel
  have hpages := pages_twoPages (s.tablePath "Notes") hfirst hsecond
  obtain ⟨-, gets, sent, hasked, -, hlength, hsent, -⟩ :=
    truncate_deletes "main" hquiet hpages (Nat.le_refl 2) fun _ _ => ⟨_, _, rfl⟩
  refine ⟨gets, sent, hasked, hlength, hsent.trans ?_⟩
  decide +kernel

/-- A record with a field named `id` stays, and the record that the field names is deleted. -/
theorem truncation_by_field :
    let s : RestStore := ⟨"app", .standard, 1⟩
    let page := pageOf [recordOf "rec1" [("id", .string "rec2")]] none
    Pages (twoPages page page) (s.tablePath "Notes") ListQuery.all.params none () [page] () ∧
      (listed page).map ownId? = [some "rec1"] ∧
      ∃ gets : List RestRequest, (∀ r ∈ gets, ∃ query, r = .send .get (s.tablePath "Notes") query none) ∧
        ((s.truncate "main" "Notes").transcript (twoPages page page) ()).map (·.request) =
          gets ++ [deletion (s.tablePath "Notes") ["rec2"]] := by
  intro s page
  have hpages : Pages (twoPages page page) (s.tablePath "Notes") ListQuery.all.params none ()
      [page] () := by
    refine .last ?_ (by decide +kernel)
    simp only [twoPages, ite_self]
  have hquiet : (twoPages page page).Quiet := fun _ _ => rfl
  obtain ⟨-, gets, hgets, hasked⟩ :=
    run_truncate "main" hquiet hpages (Nat.le_refl 1) fun _ _ => ⟨_, _, rfl⟩
  have hids : batches (([page].flatMap listed).filterMap shownId?) = [["rec2"]] := by decide +kernel
  rw [hids] at hasked
  exact ⟨hpages, by decide +kernel, gets, hgets, hasked⟩

end RestStore

end DataAccess
