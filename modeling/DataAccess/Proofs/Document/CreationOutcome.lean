import DataAccess.Proofs.Coercion.Idempotence
import DataAccess.Proofs.Document.Creation
import DataAccess.Proofs.Json.WellFormed

/-!
# What a creation can come to

A creation is an insertion and then a look for what was inserted. Before the insertion it is refused
without a trace. After it the document stays, and whether the look succeeds is settled by the id
alone: callers see the id without its wrapper, and the look shapes what they see for the column of
ids, whose type is that of the first document's id. Generated ids in a collection of generated ids,
and scalars of the payload that the column has shaped, come back as they were stored.
-/

namespace DataAccess

open Dialogue

/-! ### Ids of sixteen digits -/

namespace Hex

theorem isDigit_lowerChar {c : Char} (h : isDigit c = true) : isDigit (Text.lowerChar c) = true := by
  by_cases hupper : 'A' ≤ c ∧ c ≤ 'Z'
  · exact Text.of_isUpper
      (P := fun c => isDigit c = true → isDigit (Text.lowerChar c) = true) (by decide) hupper h
  · have hsame : Text.lowerChar c = c := if_neg hupper
    rwa [hsame]

theorem isDigit_of_mem_padded {width n : Nat} {c : Char} (h : c ∈ padded width n) :
    isDigit c = true := by
  rcases List.mem_append.mp h with hzero | hdigit
  · rw [List.eq_of_mem_replicate hzero]
    decide
  · exact of_mem_digits (P := fun c => isDigit c = true) (by decide) hdigit

theorem length_padded {width n : Nat} (hwidth : 0 < width) (h : n < Nat.pow 16 width) :
    (padded width n).length = width := by
  have hlength : (digits n).length ≤ width := (Nat.length_toDigits_le_iff (by decide) hwidth).mpr h
  rw [padded, List.length_append, List.length_replicate]
  omega

end Hex

namespace Document

variable {column : Column} {v id : Json}

theorem isObjectId_lower {text : String} (h : isObjectId text = true) :
    isObjectId (Text.lower text) = true := by
  rw [isObjectId, Bool.and_eq_true, List.all_eq_true] at h
  rw [isObjectId, Text.lower, String.toList_ofList, List.length_map, h.1, Bool.true_and,
    List.all_map, List.all_eq_true]
  exact fun c hc => Hex.isDigit_lowerChar (h.2 c hc)

theorem isObjectId_padded {n : Nat} (h : n < Nat.pow 16 24) :
    isObjectId (String.ofList (Hex.padded 24 n)) = true := by
  rw [isObjectId, String.toList_ofList, Hex.length_padded (by decide) h, Bool.and_eq_true,
    List.all_eq_true]
  exact ⟨rfl, fun c hc => Hex.isDigit_of_mem_padded hc⟩

/-! ### Ids that come back -/

/-- What callers see of an id is shaped into the id, which equals itself and is no operators. -/
structure ComesBack (column : Column) (id : Json) : Prop where
  shaped : ofValue column (surface id) = .ok id
  plain : isOperators id = false
  equal_self : equal (some id) id = true

theorem comesBack_oid (hnative : column.extra.nativeType = some objectId) {text : String}
    (hown : IsOwnId id text) (hdigits : isObjectId text = true) : ComesBack column id := by
  refine ⟨?_, ?_, ?_⟩
  · rw [hown.surface_eq, ofValue, if_pos hnative]
    dsimp only
    rw [if_pos hdigits, hown.2, hown.1]
  · rw [hown.1]
    exact isOperators_oid text
  · rw [hown.1]
    exact equal_oid text

theorem equal_self_of_same (h : v.same v = true) : equal (some v) v = true := by
  simp [equal, h]

theorem surface_of_isScalar (h : v.isScalar = true) : surface v = v := by
  cases v with
  | array items | object fields => cases h
  | null | bool b | number n | string s => rfl

theorem isFinite_number? {s : String} {x : Binary64} (h : Coercion.number? s = some (.float x)) :
    x.isFinite = true := by
  unfold Coercion.number? at h
  dsimp only at h
  split at h
  · cases h
  split at h
  case h_2 => cases h
  split at h
  next y _ hfinite =>
    obtain rfl := Coercion.eq_of_normalizeFloat (Option.some.inj h)
    exact hfinite
  next _ => cases h

theorem same_self_of_isFinite {n : Json.Number} (h : ∀ x, n = .float x → x.isFinite = true) :
    n.same n = true := by
  cases n with
  | int n => exact beq_self_eq_true n
  | float x => exact Binary64.sameValue_self (h x rfl)

theorem same_self_of_isWellFormed (hscalar : v.isScalar = true) (h : v.isWellFormed = true) :
    v.same v = true := by
  cases v with
  | array items | object fields => cases hscalar
  | null => rfl
  | bool b => exact beq_self_eq_true b
  | string s => exact beq_self_eq_true s
  | number n =>
      refine same_self_of_isFinite ?_
      rintro x rfl
      simpa [Json.isWellFormed, Json.isSorted, Json.numbers, Json.Number.isWellFormed] using h

/-- Scalars that equal themselves are shaped into such scalars. -/
theorem scalar_of_outbound {caps : Capabilities} {coerced : Json}
    (h : Coercion.outbound column caps v = .ok coerced) (hscalar : v.isScalar = true)
    (hnull : v.isNull = false) (hsame : v.same v = true) :
    coerced.isScalar = true ∧ coerced.isNull = false ∧ coerced.same coerced = true := by
  cases Coercion.coerces_of_outbound h with
  | null hvalue =>
      rw [hnull] at hvalue
      cases hvalue
  | @boolean _ b _ =>
      unfold Coercion.boolValue
      split
      · exact ⟨rfl, rfl, beq_self_eq_true b⟩
      · exact ⟨rfl, rfl, beq_self_eq_true (b.toNat : Int)⟩
  | date _ _ | enum _ _ => exact ⟨rfl, rfl, beq_self_eq_true _⟩
  | number _ hvalue =>
      subst hvalue
      exact ⟨rfl, rfl, hsame⟩
  | numeral _ _ hread =>
      refine ⟨rfl, rfl, same_self_of_isFinite ?_⟩
      rintro x rfl
      exact isFinite_number? hread
  | bit _ _ => exact ⟨rfl, rfl, beq_self_eq_true _⟩
  | text _ hvalue _ =>
      rw [hscalar] at hvalue
      cases hvalue
  | json _ _ | plain _ => exact ⟨hscalar, hnull, hsame⟩

theorem comesBack_scalar (hnative : column.extra.nativeType ≠ some objectId)
    (htype : column.type ≠ .date) (hscalar : v.isScalar = true) (hnull : v.isNull = false)
    (hsame : v.same v = true) (h : ofValue column v = .ok id) :
    id.isNull = false ∧ ComesBack column id := by
  have hofValue : ∀ w, ofValue column w = Coercion.outbound column capabilities w := by
    intro w
    rw [ofValue, if_neg hnative]
    simp only [if_neg htype]
    cases Coercion.outbound column capabilities w <;> rfl
  rw [hofValue] at h
  obtain ⟨hid, hidNull, hself⟩ := scalar_of_outbound h hscalar hnull hsame
  refine ⟨hidNull, ?_, isOperators_of_isScalar hid, equal_self_of_same hself⟩
  rw [surface_of_isScalar hid, hofValue]
  exact Coercion.outbound_outbound h

/-! ### Dates as ids -/

theorem ofValue_timestamp (hnative : column.extra.nativeType ≠ some objectId)
    (htype : column.type = .date) (hnull : v.isNull = false) {t : Timestamp}
    (h : Coercion.timestamp? v = some t) : ofValue column v = .ok (date { t with nano := 0 }) := by
  have houtbound : Coercion.outbound column capabilities v = .ok (.string t.outbound) := by
    unfold Coercion.outbound
    simp only [hnull, htype, Bool.false_eq_true, if_false, h]
    rfl
  rw [ofValue, if_neg hnative, houtbound]
  simp only [Except.map, if_pos htype, Json.asString?, Option.bind_some,
    Timestamp.read?_outbound (Coercion.valid_timestamp? h)]

theorem surface_date {t : Timestamp} (hvalid : t.Valid) (hplain : t.HasPlainYear) :
    surface (date t) = .string t.inbound := by
  have hread := Timestamp.readStrict?_inbound hvalid hplain
  rw [date, surface]
  simp only [unwrap?, surfaceDate, hread, Timestamp.inbound_wholeMillis]

theorem comesBack_date (hnative : column.extra.nativeType ≠ some objectId)
    (htype : column.type = .date) {t : Timestamp} (hvalid : t.Valid) (hplain : t.HasPlainYear)
    (hnano : t.nano = 0) : ComesBack column (date t) := by
  have hwhole : ({ t with nano := t.nano / 1000000 * 1000000 } : Timestamp) = t := by
    rw [hnano]
    exact congrArg (fun nano => ({ t with nano } : Timestamp)) hnano.symm
  have hread : Coercion.timestamp? (.string t.inbound) = some t := by
    rw [Coercion.timestamp?, Timestamp.read?_inbound hvalid hplain, hwhole]
  refine ⟨?_, isOperators_date t, ?_⟩
  · rw [surface_date hvalid hplain, ofValue_timestamp hnative htype rfl hread]
    exact congrArg (fun nano => Except.ok (date { t with nano })) hnano.symm
  · refine equal_self_of_same ?_
    simp [date, Json.same, Json.sameFields]

theorem exists_timestamp_of_ofValue (hnative : column.extra.nativeType ≠ some objectId)
    (htype : column.type = .date) (hnull : v.isNull = false) (h : ofValue column v = .ok id) :
    ∃ t, Coercion.timestamp? v = some t ∧ id = date { t with nano := 0 } := by
  cases hread : Coercion.timestamp? v with
  | some t => exact ⟨t, rfl, Except.ok.inj (h.symm.trans (ofValue_timestamp hnative htype hnull hread))⟩
  | none =>
      have hrefused : Coercion.outbound column capabilities v =
          .error (Coercion.invalid column "DATE" v) := by
        unfold Coercion.outbound
        simp only [hnull, htype, Bool.false_eq_true, if_false, hread]
        rfl
      rw [ofValue, if_neg hnative, hrefused] at h
      cases h

/-! ### Ids of payloads -/

/-- The ids of payloads that come back as they are stored. In a column of generated ids these are
none, null and any text; in another column they are the scalars but null, and of dates those whose
year has no sign. -/
def KeepsId (column : Column) (id : Option Json) : Prop :=
  if column.extra.nativeType = some objectId then
    ∀ v, id = some v → v = .null ∨ ∃ text, v = .string text
  else
    ∃ v, id = some v ∧ v.isScalar = true ∧ v.isNull = false ∧ v.isWellFormed = true ∧
      (column.type = .date → ∀ t, Coercion.timestamp? v = some t → t.HasPlainYear)

theorem isObjectId_of_ofValue (hnative : column.extra.nativeType = some objectId) {text : String}
    (h : ofValue column (.string text) = .ok id) : isObjectId text = true := by
  rw [ofValue, if_pos hnative] at h
  dsimp only at h
  split at h
  next hdigits => exact hdigits
  next _ => cases h

/-- An id that is kept is shaped into one that comes back. -/
theorem KeepsId.comesBack_of_ofValue (h : KeepsId column (some v)) (hnull : v.isNull = false)
    (hshaped : ofValue column v = .ok id) : id.isNull = false ∧ ComesBack column id := by
  rw [KeepsId] at h
  split at h
  next hnative =>
    rcases h v rfl with rfl | ⟨text, rfl⟩
    · cases hnull
    · have hown := isOwnId_of_ofValue hnative hshaped
      have hdigits := isObjectId_lower (isObjectId_of_ofValue hnative hshaped)
      refine ⟨?_, comesBack_oid hnative hown hdigits⟩
      rw [hown.1]
      rfl
  next hnative =>
    obtain ⟨w, hw, hscalar, hwNull, hwell, hdate⟩ := h
    obtain rfl := Option.some.inj hw
    by_cases htype : column.type = .date
    · obtain ⟨t, hread, rfl⟩ := exists_timestamp_of_ofValue hnative htype hwNull hshaped
      have hvalid := Coercion.valid_timestamp? hread
      exact ⟨rfl, comesBack_date hnative htype ⟨hvalid.date, hvalid.time, show 0 < tenTo 9 by decide⟩
        (hdate htype t hread) rfl⟩
    · exact comesBack_scalar hnative htype hscalar hwNull
        (same_self_of_isWellFormed hscalar hwell) hshaped

end Document

namespace DocumentStore

variable {s : DocumentStore} {now : Timestamp} {label : String} {m m' : DocumentMemory}
  {schema : Schema} {column : Column} {data document : Record}

theorem comesBack_insertOne (name : String)
    (hcolumn : schema.column? Document.idField = some column)
    (hdocument : Document.ofRecord schema data = .ok document)
    (hkept : Document.KeepsId column (data.get? Document.idField))
    (hcounter : m.generated < twoTo 64) :
    Document.ComesBack column (m.insertOne name (dropNullKey Document.idField document)).1 := by
  by_cases hgiven : ∃ v, data.get? Document.idField = some v ∧ v.isNull = false
  · obtain ⟨v, hv, hnull⟩ := hgiven
    obtain ⟨stored, hstored, hinserted⟩ := insertOne_given hcolumn hdocument hv
    rw [hv] at hkept
    obtain ⟨hstoredNull, hback⟩ := hkept.comesBack_of_ofValue hnull hstored
    rw [hinserted m name hstoredNull]
    exact hback
  · have hnull : ∀ v, data.get? Document.idField = some v → v = .null := by
      intro v hv
      cases v with
      | null => rfl
      | _ => exact absurd ⟨_, hv, rfl⟩ hgiven
    rw [Document.KeepsId] at hkept
    split at hkept
    next hnative =>
      rw [insertOne_generated hcolumn hdocument hnull]
      refine Document.comesBack_oid hnative (Document.isOwnId_generatedId _)
        (Document.isObjectId_padded ?_)
      have hfirst : DocumentMemory.firstId = 4276944896 := rfl
      have hgreatest : twoTo 64 = 18446744073709551616 := rfl
      have hdigits : Nat.pow 16 24 = 79228162514264337593543950336 := rfl
      omega
    next _ =>
      obtain ⟨v, hv, -, hvNull, -⟩ := hkept
      exact absurd ⟨v, hv, hvNull⟩ hgiven

theorem isNull_insertOne (m : DocumentMemory) (name : String) (document : Record) :
    (m.insertOne name (dropNullKey Document.idField document)).1.isNull = false := by
  have hdrop := get?_dropNullKey_self Document.idField document
  rw [DocumentMemory.insertOne]
  cases hid : (dropNullKey Document.idField document).get? Document.idField with
  | none => rfl
  | some id =>
      rw [hid] at hdrop
      simpa using (Option.filter_eq_some_iff.mp hdrop.symm).2

theorem keyFilter_id (hcolumn : schema.column? Document.idField = some column) (id : Json) :
    keyFilter schema Document.idField id =
      (Document.ofValue column id).map fun expected => [(Document.idField, expected)] := by
  have hrelation : (Predicate.equals Document.idField id).isRelation = false :=
    show isRelationReference Document.idField = false by decide
  have hname : (Predicate.equals Document.idField id).column = Document.idField := rfl
  rw [keyFilter, Document.filter_singleton, Document.predicateFilter, hrelation, hname, hcolumn]
  rfl

/-- A look for an id that comes back finds a document of it, and the added one if no earlier document
has the id. -/
theorem firstOfId_of_comesBack {stored : Record} {id : Json} {table : String}
    (hadds : m.Adds m' schema.table stored) (htable : schema.table = table)
    (hcolumn : schema.column? Document.idField = some column)
    (hid : stored.get? Document.idField = some id) (hnull : id.isNull = false)
    (hback : Document.ComesBack column id) :
    ∃ row, firstOfId schema (Document.surface id) m' = .ok (some row) ∧ row ≠ [] ∧
      ((∀ d ∈ m.documents table, Document.equal (d.get? Document.idField) id = false) →
        row = callerRow schema stored) := by
  subst htable
  have hown : keyFilter schema Document.idField (Document.surface id) =
      .ok [(Document.idField, id)] := by
    rw [keyFilter_id hcolumn, hback.shaped]
    rfl
  have hstored : Document.matchesFilter stored [(Document.idField, id)] = true := by
    rw [matchesFilter_id hback.plain, hid]
    exact hback.equal_self
  rcases DocumentMemory.exists_first_match [(Document.idField, id)] (m'.documents schema.table) with
    hnone | ⟨left, d, right, hdocuments, hleft, hd⟩
  · have hlast := hnone stored (by simp [hadds.documents])
    rw [hstored] at hlast
    cases hlast
  have hfirst := firstOfId_of_first hown hdocuments hleft hd
  refine ⟨_, hfirst, ?_, fun hearlier => ?_⟩
  · -- A document without an id would equal null alone.
    cases hfield : d.get? Document.idField with
    | some value => exact callerRow_ne_nil hfield
    | none =>
        rw [matchesFilter_id hback.plain, hfield, Document.equal, hnull] at hd
        cases hd
  · have hadded := firstOfId_of_adds hadds hown hback.plain hback.equal_self hid hearlier
    exact Option.some.inj (Except.ok.inj (hfirst.symm.trans hadded))

/-- A creation is refused without a trace, or it inserts a document and looks for its id. -/
theorem serve_create_cases {settings : EngineSettings} {requestId : Option String} {table : String}
    {result : Except EngineError Response}
    (hcreated : s.serve now label (Engine.perform settings requestId (.create table data)) m =
      (result, m')) :
    (∃ error, result = .error error ∧ m' = m) ∨
      ∃ schema column document id, s.inferred m table = .ok schema ∧
        schema.column? Document.idField = some column ∧
        Document.ofRecord schema data = .ok document ∧
        m.insertOne schema.table (dropNullKey Document.idField document) = (id, m') ∧
        result = (firstOfId schema (Document.surface id) m').map fun found =>
          .record (found.getD []) := by
  have hrefused : ∀ error, (result, m') = (.error error, m) →
      ∃ error, result = .error error ∧ m' = m := fun error h =>
    ⟨error, (Prod.mk.inj h).1, (Prod.mk.inj h).2⟩
  rw [serve_create] at hcreated
  cases hschema : s.inferred m table with
  | error error => exact .inl (hrefused error (by rw [← hcreated, hschema]))
  | ok schema =>
    rw [hschema] at hcreated
    dsimp only at hcreated
    have hinfers := infers_of_inferred hschema
    cases hkey : schema.key with
    | error error =>
      refine .inl (hrefused error ?_)
      rw [← hcreated, run_createOne_of_key_error hkey]
      rfl
    | ok key =>
      obtain rfl := hinfers.key_eq hkey
      obtain ⟨column, hcolumn⟩ := hinfers.exists_column hkey
      rw [run_createOne hkey] at hcreated
      cases hdocument : Document.ofRecord schema data with
      | error error => exact .inl (hrefused error (by rw [← hcreated, hdocument]; rfl))
      | ok document =>
        rw [hdocument] at hcreated
        obtain ⟨hresult, hafter⟩ := Prod.mk.inj hcreated
        refine .inr ⟨schema, column, document, _, rfl, hcolumn, hdocument,
          Prod.ext rfl hafter, ?_⟩
        rw [← hresult, ← hafter]
        dsimp only
        cases firstOfId schema (Document.surface
          (m.insertOne schema.table (dropNullKey Document.idField document)).1)
            (m.insertOne schema.table (dropNullKey Document.idField document)).2 <;> rfl

/-- **What a creation can come to.** A creation is refused and leaves the store as it was, or it adds
one document at the end of its collection, under an id, and changes nothing else. Once the document
is added, the creation ends in an error exactly if what callers see of the id cannot be shaped for the
column of ids. If the id comes back as it is, the creation shows a row, which is that of the added
document unless an earlier one has the same id. Generated ids in a column of generated ids come back,
and so do the scalars that a payload brings for another column. -/
theorem creation_outcome (s : DocumentStore) (now : Timestamp) (label : String)
    (settings : EngineSettings) (requestId : Option String) (table : String) (data : Record)
    (result : Except EngineError Response) (m m' : DocumentMemory)
    (hcreated : s.serve now label (Engine.perform settings requestId (.create table data)) m =
      (result, m')) :
    (∃ error, result = .error error ∧ m' = m) ∨
      ∃ schema column stored id, s.inferred m table = .ok schema ∧
        schema.column? Document.idField = some column ∧ m.Adds m' table stored ∧
        stored.get? Document.idField = some id ∧
        (∀ error, result = .error error ↔
          Document.ofValue column (Document.surface id) = .error error) ∧
        (Document.ComesBack column id → ∃ row, result = .ok (.record row) ∧ row ≠ [] ∧
          ((∀ d ∈ m.documents table, Document.equal (d.get? Document.idField) id = false) →
            row = callerRow schema stored)) ∧
        (m.generated < twoTo 64 → Document.KeepsId column (data.get? Document.idField) →
          Document.ComesBack column id) := by
  rcases serve_create_cases hcreated with
    hrefused | ⟨schema, column, document, id, hschema, hcolumn, hdocument, hinserted, rfl⟩
  · exact .inl hrefused
  have htable := (infers_of_inferred hschema).table_eq
  have hmem : schema.table ∈ m.names := htable ▸ mem_names_of_inferred hschema
  obtain ⟨stored, hadds, hid, -⟩ :=
    DocumentMemory.insertOne_adds hmem (dropNullKey Document.idField document)
  have hnull := isNull_insertOne m schema.table document
  have hkept := comesBack_insertOne (m := m) schema.table hcolumn hdocument
  rw [hinserted] at hadds hid hnull hkept
  refine .inr ⟨schema, column, stored, id, hschema, hcolumn, htable ▸ hadds, hid, ?_, ?_,
    fun hcounter hkeeps => hkept hkeeps hcounter⟩
  · intro error
    rw [firstOfId, keyFilter_id hcolumn]
    cases Document.ofValue column (Document.surface id) with
    | error other =>
        constructor
        · intro h
          cases h
          rfl
        · intro h
          cases h
          rfl
    | ok expected =>
        constructor
        · intro h
          cases h
        · intro h
          cases h
  · intro hback
    obtain ⟨row, hfirst, hrow, hadded⟩ :=
      firstOfId_of_comesBack hadds htable hcolumn hid hnull hback
    exact ⟨row, by rw [hfirst]; rfl, hrow, hadded⟩

/-- A nut under a number in text is stored and shown under the number. -/
theorem creation_outcome_seven :
    let nut : Record := [("_id", .int 7), ("name", .string "nut")]
    let before : DocumentMemory := ⟨[("items", [[("_id", .int 1)]])], 0⟩
    let after : DocumentMemory := ⟨[("items", [[("_id", .int 1)], nut])], 0⟩
    serve ⟨"documents", .standard⟩ default "-" (Engine.perform .standard none
        (.create "items" [("_id", .string "7"), ("name", .string "nut")])) before =
      (.ok (.record nut), after) ∧ ∃ stored, before.Adds after "items" stored := by
  intro nut before after
  have hcreated : serve ⟨"documents", .standard⟩ default "-" (Engine.perform .standard none
      (.create "items" [("_id", .string "7"), ("name", .string "nut")])) before =
        (.ok (.record nut), after) :=
    Prod.ext (eq_ok_of_toOption_eq_some (by decide +kernel)) (by decide +kernel)
  rcases creation_outcome ⟨"documents", .standard⟩ default "-" .standard none "items" _ _ before
    after hcreated with ⟨error, herror, -⟩ | ⟨schema, column, stored, id, -, -, hadds, -⟩
  · cases herror
  · exact ⟨hcreated, stored, hadds⟩

/-- Behind a first document under a number the creation of a nut without an id fails, and the nut is
there. Behind one under a text it succeeds, and shows nothing. -/
theorem creation_of_unreadable_id :
    let create (first : Json) := serve ⟨"documents", .standard⟩ default "-"
      (Engine.perform .standard none (.create "items" [("name", .string "nut")]))
      ⟨[("items", [[("_id", first)]])], 0⟩
    ((create (.int 1)).1.toOption = none ∧
      (create (.int 1)).2.documents "items" =
        [[("_id", .int 1)], [("_id", DocumentMemory.generatedId 1), ("name", .string "nut")]]) ∧
    (create (.string "a1")).1.toOption = some (.record []) := by
  decide +kernel

end DocumentStore

end DataAccess
