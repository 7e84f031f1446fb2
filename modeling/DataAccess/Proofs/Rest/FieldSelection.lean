import DataAccess.Proofs.Coercion.Rows
import DataAccess.Proofs.Rest.Truncation
import DataAccess.Proofs.Store.JoinColumns

/-!
# Rows of selected fields

A read names its fields in the parameters of its lists. A service that tells no field but those named
narrows the rows of the read, and the lists of linked records narrow the rows under the names of their
tables. The record id is no field of a service: it stands in every row and is not named to the service.
So a list of fields that has nothing but the id names none, and to name none is to ask for all.
-/

namespace DataAccess

open Dialogue

namespace RestStore

/-! ### Lists of fields -/

/-- Whether a list has a field that a service can be asked for. -/
def NamesField (fields : List String) : Prop := ∃ field ∈ fields, field ≠ Formula.recordId

theorem mem_selectedFields {fields : List String} {field : String} :
    field ∈ selectedFields fields ↔ field ∈ fields ∧ field ≠ Formula.recordId := by
  simp [selectedFields]

theorem selectedFields_eq_nil_iff {fields : List String} :
    selectedFields fields = [] ↔ ¬NamesField fields := by
  rw [List.eq_nil_iff_forall_not_mem, NamesField, not_exists]
  exact forall_congr' fun field => not_congr mem_selectedFields

theorem listedFields_eq_nil {o : FindOptions} (h : ¬NamesField o.fields) : listedFields o = [] := by
  rw [listedFields, selectedFields_eq_nil_iff.mpr h]
  rfl

/-- The fields of a read, and the join columns that they leave out. -/
theorem listedFields_eq_append {o : FindOptions} (h : NamesField o.fields) :
    ∃ added, listedFields o = selectedFields o.fields ++ added ∧
      ∀ field ∈ added, field ∈ o.relations.map (·.relation.orgColumn) := by
  have hsome : (selectedFields o.fields).isEmpty = false := by
    rw [List.isEmpty_eq_false_iff]
    exact fun hnil => selectedFields_eq_nil_iff.mp hnil h
  obtain ⟨added, hadded, hof, -⟩ :=
    Engine.exists_foldl_new (selectedFields o.fields) (o.relations.map (·.relation.orgColumn))
  refine ⟨added, ?_, fun field hfield => (hof field hfield).1⟩
  rw [listedFields, hsome]
  exact List.foldl_map.symm.trans hadded

/-! ### Rows of a list -/

/-- Whether a row has no keys but the record id and some names. -/
def KeysAmong (names : List String) (row : Record) : Prop :=
  ∀ key ∈ row.keys, key = Formula.recordId ∨ key ∈ names

theorem KeysAmong.mono {names more : List String} {row : Record} (h : KeysAmong names row)
    (hmore : ∀ name ∈ names, name = Formula.recordId ∨ name ∈ more) : KeysAmong more row := by
  intro key hkey
  rcases h key hkey with hid | hname
  · exact .inl hid
  · exact hmore key hname

theorem KeysAmong.inbound {names : List String} {row : Record} (h : KeysAmong names row)
    (schema : Schema) : KeysAmong names (Coercion.schemaRowInbound schema row) := by
  rw [KeysAmong, Coercion.keys_schemaRowInbound]
  exact h

theorem KeysAmong.insert {names : List String} {row : Record} (h : KeysAmong names row)
    (name : String) (value : Json) : KeysAmong (name :: names) (row.insert name value) := by
  intro key hkey
  rcases Record.mem_keys_insert.mp hkey with rfl | hkey
  · exact .inr (List.mem_cons_self ..)
  · exact (h key hkey).imp_right (List.mem_cons_of_mem name)

theorem keysAmong_flatten {names : List String} {record : Json}
    (h : ∀ name ∈ (fieldsOf record).keys, name ∈ names) : KeysAmong names (flatten record) := by
  intro key hkey
  rw [flatten_eq, Record.mem_keys_setAll] at hkey
  rcases hkey with hfield | hid
  · exact .inr (h key hfield)
  · exact .inl (List.mem_singleton.mp hid)

section Service

variable {σ : Type} {transport : Responder RestRequest RestRequest.Answer σ}

/-- A service that tells of a record no fields but those that a query names, if it names any. -/
def Narrows (transport : Responder RestRequest RestRequest.Answer σ) : Prop :=
  ∀ (path : String) (query : List (String × String)) (state : σ) (body : Json),
    (transport.answer (.send .get path query none) state).1 = .ok body →
      askedFields query ≠ [] →
        ∀ record ∈ listed body, ∀ name ∈ (fieldsOf record).keys, name ∈ askedFields query

variable {s : RestStore} {label : String} {state after : σ}

theorem answer_of_run_logged {operation detail path : String} {method : RestMethod}
    {query : List (String × String)} {body : Option Json} {value : Json}
    (h : (logged label operation detail method path query body).run transport state =
      (.ok value, after)) :
    transport.answer (.send method path query body) state = (.ok value, after) := by
  rw [logged, request, bind_eq_bind, Dialogue.bind, Dialogue.run] at h
  generalize transport.answer (.send method path query body) state = result at h ⊢
  obtain ⟨answer, middle⟩ := result
  cases answer with
  | ok told => exact h
  | error error => cases h

/-- Every row of a list is a record of an answer to one of its requests. -/
theorem exists_record_of_run_listPages {path : String} {params : List (String × String)} {budget : Nat}
    {token : Option String} {rows : List Record} {row : Record}
    (h : (listPages label path params budget token).run transport state = (.ok rows, after))
    (hrow : row ∈ rows) :
    ∃ token before body record,
      (transport.answer (.send .get path (pageParams params token) none) before).1 = .ok body ∧
        record ∈ listed body ∧ row = flatten record := by
  induction budget generalizing token state after rows with
  | zero => cases h
  | succ budget ih =>
      rw [listPages_succ] at h
      obtain ⟨body, middle, hbody, h⟩ := exists_of_run_bind_eq_ok _ h
      have hown : row ∈ pageRecords body → ∃ token before body record,
          (transport.answer (.send .get path (pageParams params token) none) before).1 = .ok body ∧
            record ∈ listed body ∧ row = flatten record := by
        intro hpage
        rw [pageRecords_eq] at hpage
        obtain ⟨record, hrecord, rfl⟩ := List.mem_map.mp hpage
        exact ⟨token, state, body, record, congrArg Prod.fst (answer_of_run_logged hbody), hrecord, rfl⟩
      split at h
      next _ =>
        obtain ⟨rfl, -⟩ := eq_of_run_done _ h
        exact hown hrow
      next next _ =>
        obtain ⟨rest, last, hrest, h⟩ := exists_of_run_bind_eq_ok _ h
        obtain ⟨rfl, -⟩ := eq_of_run_done _ h
        rcases List.mem_append.mp hrow with hpage | hlater
        · exact hown hpage
        · exact ih hrest hlater

theorem askedFields_pageParams (q : ListQuery) (token : Option String) :
    askedFields (pageParams q.params token) = q.fields := by
  cases token with
  | none => exact askedFields_params q
  | some token =>
      rw [pageParams, askedFields_append, askedFields_params]
      exact List.append_nil q.fields

/-- A list that names fields has rows of these fields. -/
theorem keysAmong_of_run_list (hnarrows : Narrows transport) {table : String} {q : ListQuery}
    {rows : List Record} (hfields : q.fields ≠ [])
    (h : (s.list label table q).run transport state = (.ok rows, after)) :
    ∀ row ∈ rows, KeysAmong q.fields row := by
  intro row hrow
  obtain ⟨entry, hlist⟩ : ∃ entry, s.list label table q =
      .note entry (listPages label (s.tablePath table) q.params s.pageBudget none) := ⟨_, rfl⟩
  rw [hlist, Dialogue.run] at h
  obtain ⟨token, before, body, record, hbody, hrecord, rfl⟩ := exists_record_of_run_listPages h hrow
  apply keysAmong_flatten
  have hasked := askedFields_pageParams q token
  rw [← hasked] at hfields ⊢
  exact hnarrows _ _ _ _ hbody hfields record hrecord

/-! ### Linked rows -/

/-- Rows that a request links to a row; if the request names a field, they have its fields only. -/
def LinkedBy (r : RelationRequest) (linked : List Record) : Prop :=
  NamesField r.fields → ∀ row ∈ linked, KeysAmong r.fields row

theorem linkedBy_nil (r : RelationRequest) : LinkedBy r [] := fun _ => List.forall_mem_nil _

theorem linkedBy_of_run_fetchLinked (hnarrows : Narrows transport) {r : RelationRequest}
    {ids : List Json} {linked : List Record}
    (h : (s.fetchLinked label r ids).run transport state = (.ok linked, after)) :
    LinkedBy r linked := by
  rw [fetchLinked] at h
  split at h
  next _ =>
    obtain ⟨rfl, -⟩ := eq_of_run_done _ h
    exact linkedBy_nil r
  next schema _ =>
    obtain ⟨formula, middle, -, h⟩ := exists_of_run_bind_eq_ok _ h
    obtain ⟨rows, last, hrows, h⟩ := exists_of_run_bind_eq_ok _ h
    obtain ⟨rfl, -⟩ := eq_of_run_done _ h
    intro hfields row hrow
    obtain ⟨told, htold, rfl⟩ := List.mem_map.mp hrow
    have hnamed : selectedFields r.fields ≠ [] := fun hnil => selectedFields_eq_nil_iff.mp hnil hfields
    have hkeys := keysAmong_of_run_list hnarrows hnamed hrows told htold
    apply KeysAmong.inbound
    exact hkeys.mono fun name hname => .inr (mem_selectedFields.mp hname).1

/-- A failing lookup links no rows. -/
theorem linkedBy_of_run_linkedRows (hnarrows : Narrows transport) {row : Record} {r : RelationRequest}
    {linked : List Record}
    (h : (s.linkedRows label row r).run transport state = (.ok linked, after)) :
    LinkedBy r linked := by
  rw [linkedRows] at h
  split at h
  next _ =>
    obtain ⟨rfl, -⟩ := eq_of_run_done _ h
    exact linkedBy_nil r
  next _ =>
    obtain ⟨result, middle, hresult, h⟩ := exists_of_run_bind_eq_ok _ h
    rw [run_attempt] at hresult
    obtain ⟨hfetched, rfl⟩ := Prod.mk.inj hresult
    cases result with
    | ok rows =>
        obtain ⟨rfl, -⟩ := eq_of_run_done _ h
        exact linkedBy_of_run_fetchLinked hnarrows (Prod.ext (Except.ok.inj hfetched) rfl)
    | error error =>
        obtain ⟨-, logged, -, h⟩ := exists_of_run_bind_eq_ok transport h
        obtain ⟨rfl, -⟩ := eq_of_run_done _ h
        exact linkedBy_nil r

/-! ### Expanded rows -/

/-- Expanding the links of a request sets its linked rows under the name of its table. -/
theorem exists_of_run_expandLinks_cons {row expanded : Record} {r : RelationRequest}
    {rest : List RelationRequest}
    (h : (s.expandLinks label row (r :: rest)).run transport state = (.ok expanded, after)) :
    ∃ linked middle, (s.linkedRows label row r).run transport state = (.ok linked, middle) ∧
      (s.expandLinks label (row.insert r.table (.array (linked.map .object))) rest).run transport
        middle = (.ok expanded, after) :=
  exists_of_run_bind_eq_ok _ h

theorem keysAmong_of_run_expandLinks {requests : List RelationRequest} {names : List String}
    {row expanded : Record} (hrow : KeysAmong names row)
    (h : (s.expandLinks label row requests).run transport state = (.ok expanded, after)) :
    KeysAmong (names ++ requests.map (·.table)) expanded := by
  induction requests generalizing names row state with
  | nil =>
      obtain ⟨rfl, -⟩ := eq_of_run_done _ h
      exact hrow.mono fun name hname => .inr (List.mem_append_left _ hname)
  | cons r rest ih =>
      obtain ⟨linked, middle, -, h⟩ := exists_of_run_expandLinks_cons h
      refine (ih (hrow.insert r.table _) h).mono fun name hname => .inr ?_
      simp only [List.cons_append, List.mem_cons, List.mem_append, List.map_cons] at hname ⊢
      exact or_left_comm.mp hname

/-- A key that is no table of the requests keeps its value. -/
theorem get?_of_run_expandLinks {requests : List RelationRequest} {row expanded : Record}
    {name : String} (hname : ∀ r ∈ requests, r.table ≠ name)
    (h : (s.expandLinks label row requests).run transport state = (.ok expanded, after)) :
    expanded.get? name = row.get? name := by
  induction requests generalizing row state with
  | nil =>
      obtain ⟨rfl, -⟩ := eq_of_run_done _ h
      rfl
  | cons r rest ih =>
      obtain ⟨linked, middle, -, h⟩ := exists_of_run_expandLinks_cons h
      rw [ih (fun later hlater => hname later (List.mem_cons_of_mem r hlater)) h]
      apply Record.get?_insert_of_ne
      exact Ne.symm (hname r (List.mem_cons_self ..))

/-- What a row shows under the tables of its relations: the rows that a request links to it, and of
several requests of one table those of the last. -/
def ShowsLinks (requests : List RelationRequest) (row : Record) : Prop :=
  ∀ earlier r later, requests = earlier ++ r :: later → (∀ other ∈ later, other.table ≠ r.table) →
    ∃ linked : List Record,
      row.get? r.table = some (.array (linked.map .object)) ∧ LinkedBy r linked

theorem showsLinks_of_run_expandLinks (hnarrows : Narrows transport) {requests : List RelationRequest}
    {row expanded : Record}
    (h : (s.expandLinks label row requests).run transport state = (.ok expanded, after)) :
    ShowsLinks requests expanded := by
  intro earlier r later hsplit hlast
  induction earlier generalizing requests row state with
  | nil =>
      subst hsplit
      obtain ⟨linked, middle, hlinked, h⟩ := exists_of_run_expandLinks_cons h
      refine ⟨linked, ?_, linkedBy_of_run_linkedRows hnarrows hlinked⟩
      rw [get?_of_run_expandLinks hlast h, Record.get?_insert_self]
  | cons first earlier ih =>
      subst hsplit
      obtain ⟨linked, middle, -, h⟩ := exists_of_run_expandLinks_cons h
      exact ih h rfl

theorem exists_of_run_expandAll {requests : List RelationRequest} {rows expanded : List Record}
    {row : Record} (h : (s.expandAll label requests rows).run transport state = (.ok expanded, after))
    (hrow : row ∈ expanded) :
    ∃ own ∈ rows, ∃ before last,
      (s.expandLinks label own requests).run transport before = (.ok row, last) := by
  induction rows generalizing state expanded with
  | nil =>
      obtain ⟨rfl, -⟩ := eq_of_run_done _ h
      cases hrow
  | cons own rest ih =>
      rw [expandAll] at h
      obtain ⟨first, middle, hfirst, h⟩ := exists_of_run_bind_eq_ok _ h
      obtain ⟨others, last, hothers, h⟩ := exists_of_run_bind_eq_ok _ h
      obtain ⟨rfl, rfl⟩ := eq_of_run_done _ h
      rcases List.mem_cons.mp hrow with rfl | hrow
      · exact ⟨own, List.mem_cons_self .., state, middle, hfirst⟩
      · obtain ⟨other, hother, hrun⟩ := ih hothers hrow
        exact ⟨other, List.mem_cons_of_mem own hother, hrun⟩

/-! ### Rows of a read -/

/-- The keys that a read with a list of fields may show besides the record id. -/
def shownKeys (o : FindOptions) : List String :=
  o.fields ++ o.relations.map (·.relation.orgColumn) ++ o.relations.map (·.table)

/-- A row whose keys, and those of its linked rows, are those that were selected. -/
structure Selected (o : FindOptions) (row : Record) : Prop where
  own : NamesField o.fields → KeysAmong (shownKeys o) row
  linked : ShowsLinks o.relations row

theorem fields_of_listQuery {o : FindOptions} {q : ListQuery} (h : listQuery o = .ok q) :
    q.fields = listedFields o := by
  obtain ⟨formula, -, rfl⟩ := exists_of_map_eq_ok h
  rfl

/-- The rows that a read lists, before their links are expanded. -/
theorem keysAmong_of_listQuery (hnarrows : Narrows transport) {o : FindOptions} {q : ListQuery}
    {bound : Option Nat} {told : List Record} (hfields : NamesField o.fields)
    (hquery : listQuery o = .ok q)
    (h : (s.list label o.table { q with maxRecords := bound }).run transport state =
      (.ok told, after)) :
    ∀ row ∈ told, KeysAmong (o.fields ++ o.relations.map (·.relation.orgColumn)) row := by
  intro row hrow
  obtain ⟨added, hadded, hof⟩ := listedFields_eq_append hfields
  have hlisted : q.fields = selectedFields o.fields ++ added := (fields_of_listQuery hquery).trans hadded
  have hnamed : q.fields ≠ [] := by
    rw [hlisted]
    intro hnil
    exact selectedFields_eq_nil_iff.mp (List.append_eq_nil_iff.mp hnil).1 hfields
  have hkeys := keysAmong_of_run_list (q := { q with maxRecords := bound }) hnarrows hnamed h row hrow
  apply hkeys.mono
  intro name hname
  change name ∈ q.fields at hname
  rw [hlisted] at hname
  right
  rcases List.mem_append.mp hname with hselected | hjoin
  · exact List.mem_append_left _ (mem_selectedFields.mp hselected).1
  · exact List.mem_append_right _ (hof name hjoin)

theorem selected_of_run_fetch (hnarrows : Narrows transport) {o : FindOptions} {rows : List Record}
    (h : (s.fetch label o).run transport state = (.ok rows, after)) : ∀ row ∈ rows, Selected o row := by
  intro row hrow
  rw [fetch] at h
  obtain ⟨q, middle, hquery, h⟩ := exists_of_run_bind_eq_ok _ h
  obtain ⟨told, last, htold, h⟩ := exists_of_run_bind_eq_ok _ h
  rw [run_ofExcept] at hquery
  obtain ⟨own, hown, before, later, hexpanded⟩ := exists_of_run_expandAll h hrow
  obtain ⟨page, hpage, rfl⟩ := List.mem_map.mp hown
  have hmem : page ∈ told := List.mem_of_mem_drop (List.mem_of_mem_take hpage)
  refine ⟨fun hfields => ?_, showsLinks_of_run_expandLinks hnarrows hexpanded⟩
  have hkeys := keysAmong_of_listQuery hnarrows hfields (Prod.mk.inj hquery).1 htold page hmem
  exact keysAmong_of_run_expandLinks (hkeys.inbound o.schema) hexpanded

theorem fetch_eq_of_not_namesField {o : FindOptions} (h : ¬NamesField o.fields) :
    s.fetch label o = s.fetch label { o with fields := [] } := by
  have hquery : listQuery o = listQuery { o with fields := [] } := by
    rw [listQuery, listQuery, listedFields_eq_nil h]
    rfl
  rw [fetch, fetch, hquery]
  rfl

theorem fetchLinked_eq_of_not_namesField {r : RelationRequest} (h : ¬NamesField r.fields)
    (ids : List Json) : s.fetchLinked label r ids = s.fetchLinked label { r with fields := [] } ids := by
  rw [fetchLinked, fetchLinked, selectedFields_eq_nil_iff.mpr h]
  rfl

/-- **What selected fields leave of a row.** Of a service that tells no fields but those it is asked
for, a read whose list names a field returns rows with no keys but these fields, the record id, the
join columns of its relations and the names of their tables, and a relation whose list names a field
links rows with no keys but these fields and the record id. A list that has only the id, or nothing,
narrows nothing: the read, or the lookup, is the one that asks for all fields. -/
theorem rows_of_selected_fields (hnarrows : Narrows transport) (s : RestStore) (label : String)
    (o : FindOptions) (state : σ) :
    (∀ rows after, (s.fetch label o).run transport state = (.ok rows, after) →
      ∀ row ∈ rows, Selected o row) ∧
    (∀ row after, (s.findOne label o).run transport state = (.ok (some row), after) →
      Selected o row) ∧
    (¬NamesField o.fields →
      s.fetch label o = s.fetch label { o with fields := [] } ∧
        s.findOne label o = s.findOne label { o with fields := [] }) ∧
    ∀ r ids, ¬NamesField r.fields →
      s.fetchLinked label r ids = s.fetchLinked label { r with fields := [] } ids := by
  refine ⟨fun rows after h => selected_of_run_fetch hnarrows h, fun row after h => ?_,
    fun hnone => ⟨fetch_eq_of_not_namesField hnone, ?_⟩,
    fun r ids hnone => fetchLinked_eq_of_not_namesField hnone ids⟩
  · rw [findOne] at h
    obtain ⟨rows, middle, hrows, h⟩ := exists_of_run_bind_eq_ok _ h
    have hhead : rows.head? = some row := Except.ok.inj (Prod.mk.inj h).1
    -- Limit and offset take no part in what a row shows.
    obtain ⟨hown, hlinked⟩ := selected_of_run_fetch hnarrows hrows row (List.mem_of_head? hhead)
    exact ⟨hown, hlinked⟩
  · rw [findOne, findOne, fetch_eq_of_not_namesField (o := { o with limit := 1, offset := 0 }) hnone]

end Service

/-! ### A service that selects fields -/

/-- The fields that are asked for; none asks for all. -/
def narrowed (asked : List String) (fields : Record) : Record :=
  if asked.isEmpty then fields else fields.filter fun field => asked.contains field.1

/-- A service that tells the records at a path in one page, with the fields that a query asks for. -/
def selecting (records : String → List (String × Record)) :
    Responder RestRequest RestRequest.Answer Unit where
  answer request _ :=
    match request with
    | .send .get path query _ =>
      (.ok (pageOf ((records path).map fun (id, fields) =>
        recordOf id (narrowed (askedFields query) fields)) none), ())
    | .send _ _ _ _ => (.ok (.object []), ())
    | .now => (default, ())
  note _ state := state

theorem narrows_selecting (records : String → List (String × Record)) :
    Narrows (selecting records) := by
  intro path query state body hbody hasked record hrecord name hname
  obtain rfl := Except.ok.inj hbody
  obtain ⟨⟨id, fields⟩, -, rfl⟩ := List.mem_map.mp hrecord
  change name ∈ (narrowed (askedFields query) fields).keys at hname
  rw [narrowed, if_neg (by rwa [List.isEmpty_iff])] at hname
  obtain ⟨field, hfield, rfl⟩ := List.mem_map.mp hname
  exact List.contains_iff_mem.mp (List.mem_filter.mp hfield).2

/-- A note by a person. -/
def notesByPeople : String → List (String × Record)
  | "v0/app/Notes" =>
    [("rec1", [("Author", .array [.string "rec2"]), ("Name", .string "one"), ("Tag", .string "new")])]
  | "v0/app/People" => [("rec2", [("Age", .number (.int 30)), ("Name", .string "Ann")])]
  | _ => []

/-- Notes with some of their fields, and some of the fields of their authors. -/
def notesWithAuthors (fields ofAuthor : List String) : FindOptions :=
  { FindOptions.ofSchema (.ofColumns "Notes" [(Column.ofType "id" .string).asPrimary,
      .ofType "Name" .string, .ofType "Author" .json]) with
    fields
    relations :=
      [⟨{ Relation.link "People" "id" "Notes" "Author" with
          schema := some (.ofColumns "People" [(Column.ofType "id" .string).asPrimary,
            .ofType "Name" .string]) }, .left, ofAuthor⟩] }

/-- A note with its name and the name of its author. Its tag and the age of its author are not told,
unless fields are asked for by the id alone. -/
theorem rows_of_selected_fields_note :
    let s : RestStore := ⟨"app", .standard, 2⟩
    let o := notesWithAuthors ["Name"] ["Name"]
    let author : Record := [("Name", .string "Ann"), ("id", .string "rec2")]
    let row : Record := [("Author", .array [.string "rec2"]), ("Name", .string "one"),
      ("People", .array [.object author]), ("id", .string "rec1")]
    Narrows (selecting notesByPeople) ∧
      ((s.fetch "main" o).run (selecting notesByPeople) ()).1 = .ok [row] ∧
      Selected o row ∧ KeysAmong (shownKeys o) row ∧
      s.fetch "main" (notesWithAuthors ["id"] ["Name"]) = s.fetch "main" (notesWithAuthors [] ["Name"]) := by
  intro s o author row
  have hrun : ((s.fetch "main" o).run (selecting notesByPeople) ()).1 = .ok [row] :=
    eq_ok_of_toOption_eq_some (by decide +kernel)
  have hnarrows : Narrows (selecting notesByPeople) := narrows_selecting notesByPeople
  obtain ⟨hrows, -⟩ := rows_of_selected_fields hnarrows s "main" o ()
  obtain ⟨-, -, hid, -⟩ :=
    rows_of_selected_fields hnarrows s "main" (notesWithAuthors ["id"] ["Name"]) ()
  have hpage : (s.fetch "main" o).run (selecting notesByPeople) () = (.ok [row], ()) :=
    Prod.ext hrun (Subsingleton.elim _ _)
  have hselected : Selected o row := hrows [row] () hpage row (List.mem_singleton.mpr rfl)
  refine ⟨hnarrows, hrun, hselected, hselected.own ⟨"Name", by decide, by decide⟩, (hid ?_).1⟩
  rintro ⟨field, hfield, hother⟩
  exact hother (List.mem_singleton.mp hfield)

/-- A read and a relation that select the id alone show every field. -/
theorem selection_of_id_shows_all :
    let s : RestStore := ⟨"app", .standard, 2⟩
    let o := notesWithAuthors ["id"] ["id"]
    Narrows (selecting notesByPeople) ∧ o.fields ≠ [] ∧ (∀ r ∈ o.relations, r.fields = ["id"]) ∧
      ∃ row linked, ((s.fetch "main" o).run (selecting notesByPeople) ()).1 = .ok [row] ∧
        ¬KeysAmong (shownKeys o) row ∧
        row.get? "People" = some (.array [.object linked]) ∧ ¬KeysAmong ["id"] linked := by
  intro s o
  refine ⟨narrows_selecting notesByPeople, by decide, by decide,
    [("Author", .array [.string "rec2"]), ("Name", .string "one"),
      ("People", .array [.object [("Age", .number (.int 30)), ("Name", .string "Ann"),
        ("id", .string "rec2")]]), ("Tag", .string "new"), ("id", .string "rec1")],
    _, eq_ok_of_toOption_eq_some (by decide +kernel), fun h => ?_, rfl, fun h => ?_⟩
  · exact absurd (h "Tag" (by decide)) (by decide)
  · exact absurd (h "Age" (by decide)) (by decide)

end RestStore

end DataAccess
