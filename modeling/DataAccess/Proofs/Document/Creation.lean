import DataAccess.Proofs.Coercion.Rows
import DataAccess.Proofs.Document.Reads
import DataAccess.Proofs.Document.RestrictedRead
import DataAccess.Proofs.Text.Case

/-!
# What a creation stores and shows

A payload is shaped field by field, stored at the end of its collection, and shown in the caller's
form. The id that callers see is compiled back into the id that was stored, so that a read of it
finds the document that was stored under it.
-/

namespace DataAccess

open Dialogue

/-! ### Ids in lower case -/

namespace Hex

/-- What holds of the sixteen digits holds of every digit. -/
theorem of_mem_digits {P : Char → Prop} (h : ∀ d < 16, P (Nat.digitChar d)) {n : Nat} {c : Char}
    (hc : c ∈ digits n) : P c := by
  induction n using Nat.strongRecOn with
  | ind n ih =>
      rw [digits, Nat.toDigits_eq_if (by decide)] at hc
      split at hc
      next hone =>
        rw [List.mem_singleton.mp hc]
        exact h n hone
      next hmore =>
        rcases List.mem_append.mp hc with hc | hc
        · exact ih (n / 16) (Nat.div_lt_self (by omega) (by decide)) hc
        · rw [List.mem_singleton.mp hc]
          exact h _ (Nat.mod_lt n (by decide))

theorem lowerChar_of_mem_digits {n : Nat} {c : Char} (h : c ∈ digits n) : Text.lowerChar c = c :=
  of_mem_digits (P := fun c => Text.lowerChar c = c) (by decide) h

theorem lower_padded (width n : Nat) :
    Text.lower (String.ofList (padded width n)) = String.ofList (padded width n) := by
  have hchar : ∀ c ∈ padded width n, Text.lowerChar c = c := by
    intro c hc
    rcases List.mem_append.mp hc with hc | hc
    · rw [(List.mem_replicate.mp hc).2]
      rfl
    · exact lowerChar_of_mem_digits hc
  rw [Text.lower, String.toList_ofList, List.map_congr_left hchar, List.map_id']

end Hex

namespace Document

/-- The digits of an id that callers see as they are stored. -/
def IsOwnId (id : Json) (text : String) : Prop := id = oid text ∧ Text.lower text = text

theorem IsOwnId.surface_eq {id : Json} {text : String} (h : IsOwnId id text) :
    surface id = .string text := by
  rw [h.1, oid, surface]
  rfl

theorem IsOwnId.eq_of_ofValue {id expected : Json} {text : String} (h : IsOwnId id text)
    {column : Column} (hnative : column.extra.nativeType = some objectId)
    (hvalue : ofValue column (.string text) = .ok expected) : expected = id := by
  rw [ofValue, if_pos hnative] at hvalue
  dsimp only at hvalue
  split at hvalue
  · rw [← Except.ok.inj hvalue, h.1, h.2]
  · cases hvalue

theorem isOwnId_of_ofValue {column : Column} (hnative : column.extra.nativeType = some objectId)
    {text : String} {id : Json} (h : ofValue column (.string text) = .ok id) :
    IsOwnId id (Text.lower text) := by
  rw [ofValue, if_pos hnative] at h
  dsimp only at h
  split at h
  · exact ⟨(Except.ok.inj h).symm, Text.lower_lower text⟩
  · cases h

theorem isOwnId_generatedId (n : Nat) :
    IsOwnId (DocumentMemory.generatedId n)
      (String.ofList (Hex.padded 24 (DocumentMemory.firstId + n))) :=
  ⟨rfl, Hex.lower_padded _ _⟩

theorem equal_oid (digits : String) : equal (some (oid digits)) (oid digits) = true := by
  simp [equal, oid, Json.same, Json.sameFields]

/-! ### The column of ids -/

/-- A column that is a key if it is found at all is found where it was before. -/
theorem find?_keysFirst {columns : List Column} {p : Column → Bool}
    (h : ∀ c ∈ columns, p c = true → c.primaryKey = true) :
    (keysFirst columns).find? p = columns.find? p := by
  have hkeys : (columns.filter (·.primaryKey)).find? p = columns.find? p := by
    induction columns with
    | nil => rfl
    | cons first rest ih =>
        have hrest := ih fun c hc => h c (List.mem_cons_of_mem first hc)
        have hfirst := h first List.mem_cons_self
        rw [List.filter_cons, List.find?_cons, ← hrest]
        cases hp : p first with
        | true => rw [hfirst hp, if_pos rfl, List.find?_cons, hp]
        | false =>
            split
            · rw [List.find?_cons, hp]
            · rfl
  have hothers : (columns.filter fun c => !c.primaryKey).find? p = none := by
    rw [List.find?_eq_none]
    intro c hc hp
    obtain ⟨hmem, hkey⟩ := List.mem_filter.mp hc
    rw [h c hmem hp] at hkey
    cases hkey
  rw [keysFirst, List.find?_append, hkeys, hothers, Option.or_none]

/-- The column of ids is that of the first document's id. -/
theorem column?_id_inferSchema (collection : String) (sample : Record) (collections : List String)
    (registry : List Record) :
    ((inferSchema collection sample collections registry).column? idField).map Column.unlinked =
      (sample.get? idField).map fun value =>
        (inferColumn collection collections idField value).1.unlinked := by
  rw [← Schema.column?_unlinked, inferSchema, unlinked_foldl unlinked_addLink,
    Schema.column?_unlinked, Schema.column?, Schema.ofColumns, List.map_map, find?_keysFirst]
  · induction sample with
    | nil => rfl
    | cons entry rest ih =>
        obtain ⟨field, value⟩ := entry
        rw [List.map_cons, List.find?_cons, Record.get?_cons]
        by_cases hfield : field = idField
        · simp [field_inferColumn, hfield]
        · have hother : (field == idField) = false := beq_eq_false_iff_ne.mpr hfield
          simpa [Function.comp_def, field_inferColumn, hfield, hother] using ih
  · intro c hc hfield
    obtain ⟨entry, -, rfl⟩ := List.mem_map.mp hc
    simp only [Function.comp_def, field_inferColumn, beq_iff_eq] at hfield ⊢
    rw [hfield]
    rfl

theorem exists_column_id_inferSchema {collection digits : String} {sample : Record}
    (h : sample.get? idField = some (oid digits)) (collections : List String)
    (registry : List Record) :
    ∃ column, (inferSchema collection sample collections registry).column? idField = some column ∧
      column.type = .string ∧ column.extra.nativeType = some objectId := by
  have hcolumn := column?_id_inferSchema collection sample collections registry
  rw [h, Option.map_some] at hcolumn
  obtain ⟨column, hfound, hsame⟩ := Option.map_eq_some_iff.mp hcolumn
  have htype := congrArg Column.type hsame
  have hextra := congrArg Column.extra hsame
  exact ⟨column, hfound, htype, congrArg ColumnExtra.nativeType hextra⟩

/-! ### Payloads as they are stored and shown -/

/-- A caller's value as it is stored under a name. -/
def storedAs (column : Option Column) (value : Json) : Except EngineError Json :=
  match column with
  | some column => ofValue column value
  | none => .ok value

theorem ofRecord_eq (schema : Schema) (record : Record) :
    ofRecord schema record = record.mapM fun entry =>
      (storedAs (schema.column? entry.1) entry.2).map fun value => (entry.1, value) := by
  rw [ofRecord]
  congr 1
  funext ⟨name, value⟩
  dsimp only
  cases schema.column? name <;> rfl

theorem get?_ofRecord {schema : Schema} {data document : Record}
    (h : ofRecord schema data = .ok document) (name : String) :
    (data.get? name = none → document.get? name = none) ∧
      ∀ value, data.get? name = some value → ∃ stored,
        storedAs (schema.column? name) value = .ok stored ∧ document.get? name = some stored := by
  rw [ofRecord_eq] at h
  induction data generalizing document with
  | nil =>
      obtain rfl := Except.ok.inj h
      exact ⟨fun h => h, fun value h => by cases h⟩
  | cons entry rest ih =>
      obtain ⟨key, own⟩ := entry
      rw [List.mapM_cons] at h
      obtain ⟨first, hfirst, h⟩ := exists_of_bind_eq_ok h
      obtain ⟨others, hothers, h⟩ := exists_of_bind_eq_ok h
      obtain rfl := Except.ok.inj h
      obtain ⟨stored, hstored, rfl⟩ := exists_of_map_eq_ok hfirst
      rw [Record.get?_cons, Record.get?_cons]
      by_cases hkey : key = name
      · subst hkey
        rw [if_pos rfl, if_pos rfl]
        refine ⟨nofun, fun value hvalue => ?_⟩
        obtain rfl := Option.some.inj hvalue
        exact ⟨stored, hstored, rfl⟩
      · rw [if_neg hkey, if_neg hkey]
        exact ih hothers

theorem get?_surfaceRecord (document : Record) (name : String) :
    (surfaceRecord document).get? name = (document.get? name).map surface := by
  rw [surfaceRecord]
  induction document with
  | nil => rfl
  | cons entry rest ih =>
      obtain ⟨key, value⟩ := entry
      rw [surfaceFields, Record.get?_cons, Record.get?_cons, ih]
      split <;> rfl

end Document

theorem DocumentStore.get?_callerRow (schema : Schema) (document : Record) (name : String) :
    (callerRow schema document).get? name = (document.get? name).map fun value =>
      Coercion.inboundAs (schema.column? name) (Document.surface value) := by
  rw [callerRow, Coercion.get?_schemaRowInbound, Document.get?_surfaceRecord, Option.map_map]
  rfl

/-! ### Documents that are added -/

namespace DocumentMemory

/-- One memory comes from another by adding a document at the end of a collection. -/
structure Adds (m m' : DocumentMemory) (name : String) (stored : Record) : Prop where
  names : m'.names = m.names
  documents : m'.documents name = m.documents name ++ [stored]
  others : ∀ other, other ≠ name → m'.documents other = m.documents other

variable {m : DocumentMemory} {name : String}

theorem createCollection_of_mem (h : name ∈ m.names) : m.createCollection name = m := by
  have hfound : ((m.collections.find? fun entry => entry.1 == name).map (·.2)).isSome = true := by
    rw [Option.isSome_map, List.find?_isSome]
    obtain ⟨entry, hentry, rfl⟩ := List.mem_map.mp h
    exact ⟨entry, hentry, beq_self_eq_true _⟩
  rw [createCollection, collection?, if_pos hfound]

theorem adds_withDocuments (h : name ∈ m.names) (stored : Record) :
    m.Adds (m.withDocuments name [stored]) name stored := by
  rw [withDocuments, createCollection_of_mem h]
  exact ⟨names_change m name _, documents_change_of_mem h _,
    fun other hother => documents_change_of_ne m _ hother⟩

/-- A document that is stored is given an id if it has none. -/
theorem insertOne_adds (h : name ∈ m.names) (document : Record) :
    ∃ stored, m.Adds (m.insertOne name document).2 name stored ∧
      stored.get? Document.idField = some (m.insertOne name document).1 ∧
      ∀ other, other ≠ Document.idField → stored.get? other = document.get? other := by
  rw [insertOne]
  cases hid : document.get? Document.idField with
  | some id => exact ⟨document, adds_withDocuments h document, hid, fun _ _ => rfl⟩
  | none =>
      let counted : DocumentMemory := { m with generated := m.generated + 1 }
      have hadds := adds_withDocuments (m := counted) h
        (document.insert Document.idField (generatedId (m.generated + 1)))
      exact ⟨_, ⟨hadds.names, hadds.documents, hadds.others⟩, Record.get?_insert_self _ _ _,
        fun other hother => Record.get?_insert_of_ne hother⟩

end DocumentMemory

namespace DocumentStore

variable {s : DocumentStore} {now : Timestamp} {label : String} {m m' : DocumentMemory}
  {table : String}

/-- A document at the end shows no other schema. -/
theorem inferred_of_adds {stored first : Record} {rest : List Record}
    (h : m.Adds m' table stored) (hregistry : table ≠ s.settings.relationRegistry)
    (hdocuments : m.documents table = first :: rest) :
    s.inferred m' table = s.inferred m table ∧ s.inferred m table =
      if m.names.contains table then
        .ok (Document.inferSchema table first m.names (m.documents s.settings.relationRegistry))
      else .error (.schemaNotFound table) := by
  rw [inferred, inferred, h.names, h.documents, h.others _ hregistry.symm, hdocuments]
  exact ⟨rfl, rfl⟩

/-- The first document of an id, as a look for it compiles the id. -/
def firstOfId (schema : Schema) (id : Json) (m : DocumentMemory) :
    Except EngineError (Option Record) :=
  (keyFilter schema Document.idField id).map fun own =>
    ((m.find { DocumentQuery.all schema.table with filter := own, limit := 1 }).map
      (callerRow schema)).head?

/-- A look for an id, and for nothing else. -/
def lookFor (schema : Schema) (id : Json) (limit offset : Nat) : FindOptions :=
  { FindOptions.ofSchema schema with filters := [.equals Document.idField id], limit, offset }

theorem run_findOne_id (schema : Schema) (id : Json) (limit offset : Nat) :
    (s.findOne label (lookFor schema id limit offset)).run (DocumentMemory.responder now) m =
      (firstOfId schema id m, m) := by
  have hrows : rows m (lookFor schema id 1 0) = (keyFilter schema Document.idField id).map fun own =>
      (m.find { DocumentQuery.all schema.table with filter := own, limit := 1 }).map
        (callerRow schema) := by
    rw [rows, query]
    change Except.map _ (Except.map _ (keyFilter schema Document.idField id)) = _
    cases keyFilter schema Document.idField id <;> rfl
  have hfirst : { lookFor schema id limit offset with limit := 1, offset := 0 } =
      lookFor schema id 1 0 := rfl
  rw [run_findOne, expanded, hfirst, hrows, firstOfId]
  cases keyFilter schema Document.idField id with
  | error error => rfl
  -- No relation is read, so nothing is added to a row.
  | ok own => exact congrArg (fun found => (Except.ok (List.head? found), m)) (List.map_id _)

theorem run_findByKey_id (schema : Schema) (id : Json) :
    (s.findByKey label schema Document.idField id).run (DocumentMemory.responder now) m =
      ((firstOfId schema id m).map fun found => found.getD [], m) := by
  rw [findByKey, bind_eq_bind, run_bind]
  change continueRun _ _ ((s.findOne label (lookFor schema id FindOptions.defaultLimit 0)).run
    (DocumentMemory.responder now) m) = _
  rw [run_findOne_id]
  cases firstOfId schema id m <;> rfl

theorem matchesFilter_of_keyFilter {schema : Schema} {id : Json} {own d d' : Record}
    (hown : keyFilter schema Document.idField id = .ok own)
    (hid : d'.get? Document.idField = d.get? Document.idField) :
    Document.matchesFilter d' own = Document.matchesFilter d own := by
  rw [keyFilter, Document.filter_singleton] at hown
  obtain ⟨key, expected, -, -, rfl⟩ := Document.predicateFilter_equals_eq_ok hown
  rw [Document.matchesFilter_singleton (by decide), Document.matchesFilter_singleton (by decide), hid]

theorem firstOfId_of_none {schema : Schema} {id : Json} {own : Record} (hown : keyFilter schema Document.idField id = .ok own)
    (hnone : ∀ d ∈ m.documents schema.table, Document.matchesFilter d own = false) :
    firstOfId schema id m = .ok none := by
  have hfilter : (m.documents schema.table).filter (fun d => Document.matchesFilter d own) = [] :=
    List.filter_eq_nil_iff.mpr fun d hd => by simp [hnone d hd]
  rw [firstOfId, hown, Except.map, DocumentMemory.find_first, hfilter]
  rfl

theorem firstOfId_of_first {schema : Schema} {id : Json} {own d : Record} {left right : List Record}
    (hown : keyFilter schema Document.idField id = .ok own)
    (hdocuments : m.documents schema.table = left ++ d :: right)
    (hleft : ∀ other ∈ left, Document.matchesFilter other own = false)
    (hd : Document.matchesFilter d own = true) :
    firstOfId schema id m = .ok (some (callerRow schema d)) := by
  have hfilter : left.filter (fun d => Document.matchesFilter d own) = [] :=
    List.filter_eq_nil_iff.mpr fun other hother => by simp [hleft other hother]
  rw [firstOfId, hown, Except.map, DocumentMemory.find_first, hdocuments, List.filter_append, hfilter]
  simp [hd]

theorem callerRow_ne_nil {schema : Schema} {d : Record} {name : String} {value : Json}
    (h : d.get? name = some value) : callerRow schema d ≠ [] := by
  intro hnil
  have hget := get?_callerRow schema d name
  rw [hnil, h] at hget
  cases hget

/-! ### The id that is stored -/

theorem get?_dropNullKey {name key : String} (h : name ≠ key) (document : Record) :
    (dropNullKey key document).get? name = document.get? name := by
  rw [dropNullKey]
  split
  · exact Record.get?_erase_of_ne h
  · rfl

theorem get?_dropNullKey_self (key : String) (document : Record) :
    (dropNullKey key document).get? key = (document.get? key).filter fun id => !id.isNull := by
  rw [dropNullKey]
  cases hid : document.get? key with
  | none => simpa using hid
  | some id =>
      cases hnull : id.isNull with
      | true => simp [hnull, Record.get?_erase_self, Option.filter]
      | false => simp [hid, hnull, Option.filter]

section StoredId

variable {schema : Schema} {column : Column} {data document : Record}
  (hcolumn : schema.column? Document.idField = some column)
  (hdocument : Document.ofRecord schema data = .ok document)

include hcolumn hdocument

/-- A payload without an id, or with a null in its place, is stored under an id that is made. -/
theorem insertOne_generated (hid : ∀ v, data.get? Document.idField = some v → v = .null)
    (m : DocumentMemory) (name : String) :
    (m.insertOne name (dropNullKey Document.idField document)).1 =
      DocumentMemory.generatedId (m.generated + 1) := by
  have hnone : (dropNullKey Document.idField document).get? Document.idField = none := by
    obtain ⟨habsent, hpresent⟩ := Document.get?_ofRecord hdocument Document.idField
    rw [get?_dropNullKey_self]
    cases hdata : data.get? Document.idField with
    | none => rw [habsent hdata, Option.filter_none]
    | some v =>
        obtain ⟨stored, hstored, hfield⟩ := hpresent v hdata
        rw [hid v hdata, hcolumn, Document.storedAs, Document.ofValue_null] at hstored
        obtain rfl := Except.ok.inj hstored
        rw [hfield]
        rfl
  rw [DocumentMemory.insertOne, hnone]

theorem insertOne_given {v : Json} (hid : data.get? Document.idField = some v) :
    ∃ stored, Document.ofValue column v = .ok stored ∧
      ∀ (m : DocumentMemory) (name : String), stored.isNull = false →
        (m.insertOne name (dropNullKey Document.idField document)).1 = stored := by
  obtain ⟨stored, hstored, hfield⟩ :=
    (Document.get?_ofRecord hdocument Document.idField).2 v hid
  rw [hcolumn, Document.storedAs] at hstored
  refine ⟨stored, hstored, fun m name hnull => ?_⟩
  have hkept : (dropNullKey Document.idField document).get? Document.idField = some stored := by
    rw [get?_dropNullKey_self, hfield, Option.filter_some, if_pos (by rw [hnull]; rfl)]
  rw [DocumentMemory.insertOne, hkept]

/-- Whatever id a payload brings, the id that is stored can be compiled back. -/
theorem isOwnId_insertOne (hnative : column.extra.nativeType = some Document.objectId)
    (hid : ∀ id, data.get? Document.idField = some id → id = .null ∨ ∃ text, id = .string text)
    (m : DocumentMemory) (name : String) :
    ∃ text, Document.IsOwnId
      (m.insertOne name (dropNullKey Document.idField document)).1 text := by
  by_cases htext : ∃ text, data.get? Document.idField = some (.string text)
  · obtain ⟨text, htext⟩ := htext
    obtain ⟨stored, hstored, hinserted⟩ := insertOne_given hcolumn hdocument htext
    have hown := Document.isOwnId_of_ofValue hnative hstored
    rw [hinserted m name (by rw [hown.1]; rfl)]
    exact ⟨_, hown⟩
  · have hnull : ∀ v, data.get? Document.idField = some v → v = .null := by
      intro v hv
      rcases hid v hv with hnull | ⟨text, rfl⟩
      · exact hnull
      · exact absurd ⟨text, hv⟩ htext
    rw [insertOne_generated hcolumn hdocument hnull]
    exact ⟨_, Document.isOwnId_generatedId _⟩

end StoredId

/-! ### Creating and finding -/

/-- A creation stores its document and then looks for it, by the id that callers see. -/
theorem run_createOne {schema : Schema} {data : Record} (hkey : schema.key = .ok Document.idField) :
    (s.createOne label schema data).run (DocumentMemory.responder now) m =
      match Document.ofRecord schema data with
      | .error error => (.error error, m)
      | .ok document =>
        let inserted := m.insertOne schema.table (dropNullKey Document.idField document)
        ((firstOfId schema (Document.surface inserted.1) inserted.2).map fun found => found.getD [],
          inserted.2) := by
  rw [createOne, hkey]
  cases Document.ofRecord schema data with
  | error error => rfl
  | ok document =>
      change (s.findByKey label schema Document.idField _).run _ _ = _
      exact run_findByKey_id schema _

theorem run_createOne_of_key_error {schema : Schema} {data : Record} {error : EngineError}
    (hkey : schema.key = .error error) :
    (s.createOne label schema data).run (DocumentMemory.responder now) m = (.error error, m) := by
  rw [createOne, hkey]
  rfl

/-- What a creation that succeeds comes to: its document is added, and looked for by its id. -/
theorem exists_of_run_createOne {schema : Schema} {data row : Record}
    (hkey : ∀ key, schema.key = .ok key → key = Document.idField)
    (hdocuments : m.documents schema.table ≠ [])
    (h : (s.createOne label schema data).run (DocumentMemory.responder now) m = (.ok row, m')) :
    ∃ document stored id found, Document.ofRecord schema data = .ok document ∧
      id = (m.insertOne schema.table (dropNullKey Document.idField document)).1 ∧
      m.Adds m' schema.table stored ∧ stored.get? Document.idField = some id ∧
      (∀ other, other ≠ Document.idField → stored.get? other = document.get? other) ∧
      firstOfId schema (Document.surface id) m' = .ok found ∧ row = found.getD [] := by
  cases hfound : schema.key with
  | error error =>
      rw [run_createOne_of_key_error hfound] at h
      cases h
  | ok key =>
    obtain rfl := hkey key hfound
    rw [run_createOne hfound] at h
    cases hdocument : Document.ofRecord schema data with
    | error error =>
        rw [hdocument] at h
        cases h
    | ok document =>
        rw [hdocument] at h
        obtain ⟨stored, hadds, hid, hfields⟩ := DocumentMemory.insertOne_adds
          (DocumentMemory.mem_names_of_documents hdocuments) (dropNullKey Document.idField document)
        obtain ⟨hrow, rfl⟩ := Prod.mk.inj h
        obtain ⟨found, hfound, hrow⟩ := exists_of_map_eq_ok hrow
        exact ⟨document, stored, _, found, rfl, rfl, hadds, hid,
          fun other hother => (hfields other hother).trans (get?_dropNullKey hother document), hfound,
          hrow.symm⟩

theorem matchesFilter_id {id : Json} (hplain : Document.isOperators id = false) (d : Record) :
    Document.matchesFilter d [(Document.idField, id)] =
      Document.equal (d.get? Document.idField) id := by
  rw [Document.matchesFilter_singleton (by decide), Document.holds_of_not_isOperators hplain]

/-- Under an id that no earlier document has, the added document is found. -/
theorem firstOfId_of_adds {schema : Schema} {stored : Record} {id shown : Json}
    (hadds : m.Adds m' schema.table stored)
    (hown : keyFilter schema Document.idField shown = .ok [(Document.idField, id)])
    (hplain : Document.isOperators id = false) (hself : Document.equal (some id) id = true)
    (hid : stored.get? Document.idField = some id)
    (hearlier : ∀ d ∈ m.documents schema.table,
      Document.equal (d.get? Document.idField) id = false) :
    firstOfId schema shown m' = .ok (some (callerRow schema stored)) := by
  apply firstOfId_of_first hown hadds.documents
  · intro d hd
    rw [matchesFilter_id hplain]
    exact hearlier d hd
  · rw [matchesFilter_id hplain, hid]
    exact hself

theorem firstOfId_eq_of_adds {schema : Schema} {column : Column} {stored : Record} {id : Json}
    {text : String} {found : Option Record} (hadds : m.Adds m' schema.table stored)
    (hcolumn : schema.column? Document.idField = some column)
    (hnative : column.extra.nativeType = some Document.objectId)
    (hown : Document.IsOwnId id text) (hid : stored.get? Document.idField = some id)
    (hearlier : ∀ d ∈ m.documents schema.table,
      Document.equal (d.get? Document.idField) id = false)
    (hfound : firstOfId schema (.string text) m' = .ok found) :
    found = some (callerRow schema stored) := by
  obtain ⟨own, hown', -⟩ := exists_of_map_eq_ok hfound
  have hfilter := hown'
  rw [keyFilter, Document.filter_singleton] at hfilter
  obtain ⟨column', expected, hcolumn', hexpected, rfl⟩ :=
    Document.predicateFilter_equals_eq_ok hfilter
  obtain rfl := Option.some.inj (hcolumn.symm.trans hcolumn')
  obtain rfl := hown.eq_of_ofValue hnative hexpected
  have hplain : Document.isOperators expected = false := by
    rw [hown.1]
    exact Document.isOperators_oid text
  have hself : Document.equal (some expected) expected = true := by
    rw [hown.1]
    exact Document.equal_oid text
  have hfirst := firstOfId_of_adds hadds hown' hplain hself hid hearlier
  exact Except.ok.inj (hfound.symm.trans hfirst)

end DocumentStore

/-! ### Reading an id from parameters -/

namespace Engine

variable {settings : EngineSettings} {tag table : String} {σ : Type}
  {responder : Responder StoreCall StoreCall.Answer σ} {state : σ}

section Id

theorem splitReference?_idField : splitReference? Document.idField = none := by decide

variable {schema : Schema} {column : Column} (hcolumn : schema.column? Document.idField = some column)
  (text : String)

include hcolumn

theorem filters_id : Reading.filters schema [(Document.idField, text)] =
    .ok [.equals Document.idField (.string text)] := by
  have hkey : Reading.key Document.idField = .ok (Document.idField, .equals) := rfl
  have hreference : Reading.checkReference schema Document.idField = .ok () := by
    rw [Reading.checkReference, splitReference?_idField]
    simp [Schema.hasColumn, hcolumn]
  have hfilter : Reading.filter schema (Document.idField, text) =
      .ok (.equals Document.idField (.string text)) := by
    rw [Reading.filter, hkey]
    change (Reading.checkReference schema Document.idField >>= fun _ => _) = _
    rw [hreference]
    rfl
  change [(Document.idField, text)].mapM (Reading.filter schema) = _
  rw [List.mapM_cons, hfilter]
  rfl

/-- An id alone is read as a look for it on the usual page, without a relation. -/
theorem readOptions_id (settings : EngineSettings) : ∃ limit offset,
    readOptions settings schema [(Document.idField, text)] =
      .ok (DocumentStore.lookFor schema (.string text) limit offset, [], []) := by
  let params : Params := [(Document.idField, text)]
  let limits := settings.pageLimits
  have hother : ∀ key, Document.idField ≠ key → params.get? key = none := by
    intro key hkey
    simp [params, Params.get?, hkey]
  have hposition : limits.position params = .ok ⟨min limits.usual limits.ceiling, 0⟩ := by
    rw [PageLimits.position, hother "page" (by decide)]
    simp only [PageLimits.explicit, PageLimits.countParam, hother "limit" (by decide),
      hother "offset" (by decide)]
    rfl
  refine ⟨min limits.usual limits.ceiling, 0, ?_⟩
  rw [readOptions, filters_id hcolumn, hother "sort" (by decide), hother "fields" (by decide),
    hother "relations" (by decide), hposition]
  rfl

theorem checkFind_id (htype : column.type = .string) (limit offset : Nat) :
    Validation.checkFind (DocumentStore.lookFor schema (.string text) limit offset) = .ok () := by
  let o := DocumentStore.lookFor schema (.string text) limit offset
  have hresolve : Validation.resolve o Document.idField = .ok column := by
    simp only [Validation.resolve, FindOptions.column?,
      splitReference?_idField]
    rw [show o.schema.column? Document.idField = some column from hcolumn]
  have hvalue : Validation.checkFilter o (.equals Document.idField (.string text)) = .ok () := by
    rw [Validation.checkFilter, Predicate.equals, hresolve]
    change Validation.checkValue column (.string text) = _
    rw [Validation.checkValue, htype]
    rfl
  have hfilters : o.filters.forM (Validation.checkFilter o) = .ok () :=
    forM_eq_ok_iff.mpr (List.forall_mem_singleton.mpr hvalue)
  rw [Validation.checkFind, hfilters]
  rfl

/-- A look for one id by parameters is prepared without a condition, a relation or an order of its
own. -/
theorem run_prepareFind_id
    (hschema : (StoreDialogue.call (.getSchema table)).run responder state = (.ok schema, state))
    (htype : column.type = .string) :
    ∃ limit offset, (prepareFind settings tag table [(Document.idField, text)]).run responder state =
      (.ok (DocumentStore.lookFor schema (.string text) limit offset), state) := by
  obtain ⟨limit, offset, hread⟩ := readOptions_id hcolumn text settings
  let o := DocumentStore.lookFor schema (.string text) limit offset
  have htables : Relations.referenced o = [] := by
    simp [Relations.referenced, o, DocumentStore.lookFor, FindOptions.ofSchema, Predicate.equals,
      splitReference?_idField]
  refine ⟨limit, offset, ?_⟩
  rw [prepareFind, bind_eq_bind, run_bind, hschema, continueRun]
  change (((Dialogue.ofExcept (readOptions settings schema _)).bind _).run responder state) = _
  rw [hread]
  change (((resolveRelations tag schema (addReferenced [] (Relations.referenced o)) []).bind _).run
    responder state) = _
  rw [htables]
  change ((Dialogue.ofExcept (Validation.checkFind o)).bind fun _ => .done o).run responder state = _
  rw [checkFind_id hcolumn text htype]
  rfl

end Id

end Engine

namespace DocumentStore

variable {s : DocumentStore} {m : DocumentMemory} {table : String}

theorem serve_find_id {schema : Schema} {column : Column}
    (hschema : s.inferred m table = .ok schema)
    (hcolumn : schema.column? Document.idField = some column) (htype : column.type = .string)
    (now : Timestamp) (label text : String) (settings : EngineSettings)
    (requestId : Option String) :
    s.serve now label
        (Engine.perform settings requestId (.find table [(Document.idField, text)])) m =
      ((firstOfId schema (.string text) m).map .found, m) := by
  have hasked : (StoreDialogue.call (.getSchema table)).run (s.responder now label) m =
      (.ok schema, m) := by
    rw [run_getSchema_call, hschema]
  obtain ⟨limit, offset, hprepared⟩ := Engine.run_prepareFind_id hcolumn text hasked htype
  rw [serve_eq_run]
  change (Engine.answer settings (requestLabel requestId) none
    (.find table [(Document.idField, text)])).run (s.responder now label) m = _
  rw [Engine.answer, bind_eq_bind, run_bind, hprepared, continueRun, bind_eq_bind, run_bind, run_call]
  change continueRun _ _ ((s.findOne label (lookFor schema (.string text) limit offset)).run
    (DocumentMemory.responder now) m) = _
  rw [run_findOne_id]
  cases firstOfId schema (.string text) m <;> rfl

/-- A creation asks for the schema, and then for the row to be created. -/
theorem serve_create (now : Timestamp) (label : String) (settings : EngineSettings)
    (requestId : Option String) (data : Record) (m : DocumentMemory) :
    s.serve now label (Engine.perform settings requestId (.create table data)) m =
      match s.inferred m table with
      | .error error => (.error error, m)
      | .ok schema =>
        let run := (s.createOne label schema data).run (DocumentMemory.responder now) m
        (run.1.map .record, run.2) := by
  rw [serve_eq_run]
  change (Engine.answer settings (requestLabel requestId) none (.create table data)).run
    (s.responder now label) m = _
  rw [Engine.answer, bind_eq_bind, run_bind, run_getSchema_call]
  cases s.inferred m table with
  | error error => rfl
  | ok schema =>
      rw [continueRun, bind_eq_bind, run_bind, run_call]
      change continueRun _ _ ((s.createOne label schema data).run _ m) = _
      dsimp only
      generalize (s.createOne label schema data).run (DocumentMemory.responder now) m = run
      obtain ⟨result, after⟩ := run
      cases result <;> rfl

/-- What a creation that succeeds asks of the store. -/
theorem exists_of_serve_create {now : Timestamp} {label : String} {settings : EngineSettings}
    {requestId : Option String} {data : Record} {response : Response} {m' : DocumentMemory}
    (h : s.serve now label (Engine.perform settings requestId (.create table data)) m =
      (.ok response, m')) :
    ∃ schema row, s.inferred m table = .ok schema ∧ response = .record row ∧
      (s.createOne label schema data).run (DocumentMemory.responder now) m = (.ok row, m') := by
  rw [serve_create] at h
  cases hschema : s.inferred m table with
  | error error =>
      rw [hschema] at h
      cases h
  | ok schema =>
      rw [hschema] at h
      obtain ⟨hresult, hafter⟩ := Prod.mk.inj h
      obtain ⟨row, hrow, rfl⟩ := exists_of_map_eq_ok hresult
      exact ⟨schema, row, rfl, rfl, Prod.ext hrow hafter⟩

/-- **What is created is found.** In a collection whose first document has a generated id, a creation
that succeeds adds one document and changes nothing else. Unless an earlier document has the same id,
the row that it answers with shows every field of the payload as it was stored, and the id that the
row shows finds that row. -/
theorem find_created (s : DocumentStore) (now : Timestamp) (label : String)
    (settings : EngineSettings) (requestId : Option String) (table digits : String)
    (data first : Record) (rest : List Record) (response : Response) (m m' : DocumentMemory)
    (hregistry : table ≠ s.settings.relationRegistry)
    (hdocuments : m.documents table = first :: rest)
    (hfirst : first.get? Document.idField = some (Document.oid digits))
    (hid : ∀ id, data.get? Document.idField = some id → id = .null ∨ ∃ text, id = .string text)
    (hcreated : s.serve now label (Engine.perform settings requestId (.create table data)) m =
      (.ok response, m')) :
    ∃ schema stored id row, s.inferred m table = .ok schema ∧ response = .record row ∧
      m.Adds m' table stored ∧ stored.get? Document.idField = some id ∧
      ((∀ d ∈ m.documents table, Document.equal (d.get? Document.idField) id = false) →
        (∀ name value, name ≠ Document.idField → data.get? name = some value → ∃ kept,
          Document.storedAs (schema.column? name) value = .ok kept ∧
          row.get? name =
            some (Coercion.inboundAs (schema.column? name) (Document.surface kept))) ∧
        ∃ text, row.get? Document.idField = some (.string text) ∧
          ∀ now' label' settings' requestId',
            s.serve now' label' (Engine.perform settings' requestId'
              (.find table [(Document.idField, text)])) m' = (.ok (.found (some row)), m')) := by
  obtain ⟨schema, row, hschema, rfl, hrow⟩ := exists_of_serve_create hcreated
  have hinfers := infers_of_inferred hschema
  have htable : schema.table = table := hinfers.table_eq
  have hexists : m.documents schema.table ≠ [] := by
    rw [htable, hdocuments]
    exact List.cons_ne_nil _ _
  obtain ⟨document, stored, id, found, hdocument, hinserted, hadds, hstored, hfields, hfound, hrow⟩ :=
    exists_of_run_createOne (fun key => hinfers.key_eq) hexists hrow
  rw [htable] at hadds
  obtain ⟨hsame, hinferred⟩ := inferred_of_adds hadds hregistry hdocuments
  obtain ⟨column, hcolumn, htype, hnative⟩ : ∃ column,
      schema.column? Document.idField = some column ∧ column.type = .string ∧
        column.extra.nativeType = some Document.objectId := by
    rw [hschema] at hinferred
    split at hinferred
    · rw [Except.ok.inj hinferred]
      exact Document.exists_column_id_inferSchema hfirst _ _
    · cases hinferred
  obtain ⟨text, hown⟩ := isOwnId_insertOne hcolumn hdocument hnative hid m schema.table
  rw [← hinserted] at hown
  refine ⟨schema, stored, id, row, hschema, rfl, hadds, hstored, ?_⟩
  intro hearlier
  rw [hown.surface_eq] at hfound
  obtain rfl : found = some (callerRow schema stored) :=
    firstOfId_eq_of_adds (htable.symm ▸ hadds) hcolumn hnative hown hstored
      (htable.symm ▸ hearlier) hfound
  obtain rfl : row = callerRow schema stored := hrow
  refine ⟨?_, text, ?_, ?_⟩
  · intro name value hname hvalue
    obtain ⟨kept, hkept, hfield⟩ := (Document.get?_ofRecord hdocument name).2 value hvalue
    refine ⟨kept, hkept, ?_⟩
    rw [get?_callerRow, hfields name hname, hfield]
    rfl
  · rw [get?_callerRow, hstored, hcolumn, Option.map_some, hown.surface_eq, Coercion.inboundAs, htype]
    rfl
  · intro now' label' settings' requestId'
    rw [serve_find_id (hsame.trans hschema) hcolumn htype, hfound]
    rfl

/-- A bolt, under a generated id. -/
def bolt : Record :=
  [("_id", Document.oid "0000000000000000feed0001"), ("name", .string "bolt"), ("price", .int 3)]

/-- A nut with a price in text is stored and found with the number. -/
theorem find_created_nut :
    let row : Record :=
      [("_id", .string "0000000000000000feed0002"), ("name", .string "nut"), ("price", .int 4)]
    let nut : Record :=
      [("_id", Document.oid "0000000000000000feed0002"), ("name", .string "nut"), ("price", .int 4)]
    serve ⟨"documents", .standard⟩ default "-" (Engine.perform .standard none
        (.create "items" [("name", .string "nut"), ("price", .string "4")]))
        ⟨[("items", [bolt])], 1⟩ = (.ok (.record row), ⟨[("items", [bolt, nut])], 2⟩) ∧
      serve ⟨"documents", .standard⟩ default "-" (Engine.perform .standard none
        (.find "items" [("_id", "0000000000000000feed0002")])) ⟨[("items", [bolt, nut])], 2⟩ =
          (.ok (.found (some row)), ⟨[("items", [bolt, nut])], 2⟩) := by
  intro row nut
  have hcreated : serve ⟨"documents", .standard⟩ default "-" (Engine.perform .standard none
      (.create "items" [("name", .string "nut"), ("price", .string "4")]))
        ⟨[("items", [bolt])], 1⟩ = (.ok (.record row), ⟨[("items", [bolt, nut])], 2⟩) :=
    Prod.ext (eq_ok_of_toOption_eq_some (by decide +kernel)) (by decide +kernel)
  have habsent : Record.get? [("name", .string "nut"), ("price", .string "4")]
      Document.idField = none := by decide
  obtain ⟨schema, stored, id, own, -, hown, hadds, hid, hfound⟩ := find_created
    ⟨"documents", .standard⟩ default "-" .standard none "items" "0000000000000000feed0001"
    [("name", .string "nut"), ("price", .string "4")] bolt [] (.record row) _ _ (by decide) rfl
    (by decide) (fun _ hid => by rw [habsent] at hid; cases hid) hcreated
  obtain rfl := Response.record.inj hown
  have hitems : [bolt, nut] = [bolt, stored] := hadds.documents
  obtain rfl : nut = stored := List.singleton_inj.mp (List.cons.inj hitems).2
  obtain rfl := Option.some.inj hid
  obtain ⟨-, text, htext, hread⟩ := hfound (List.forall_mem_singleton.mpr (by decide))
  obtain rfl := Json.string.inj (Option.some.inj htext)
  exact ⟨hcreated, hread default "-" .standard none⟩

end DocumentStore

end DataAccess
