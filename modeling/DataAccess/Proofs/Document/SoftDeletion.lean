import DataAccess.Proofs.Document.Creation
import DataAccess.Proofs.Document.EqualityCondition

/-!
# Deletions that keep the document

Where the first document of a collection has the column that is stamped in place of a deletion, a
deletion removes nothing: it refuses and changes nothing, or it sets the column in the first document
that the id's condition lets through. Only the first document is asked. A collection whose later
documents alone have the column loses the document that is deleted.
-/

namespace DataAccess

open Dialogue

namespace DocumentStore

variable {s : DocumentStore} {now : Timestamp} {label : String} {m : DocumentMemory}
  {schema : Schema} {id : Json} {column : String}

/-! ### Updates by the id -/

/-- An update by the id sets its fields in the first document that the id's condition lets through,
and shows what the condition lets through afterwards. -/
theorem run_updateOne (hkey : schema.key = .ok Document.idField) {data set : Record}
    (hset : Document.ofRecord schema (data.erase Document.idField) = .ok set) (hsome : set ≠ []) :
    (s.updateOne label schema id data).run (DocumentMemory.responder now) m =
      match keyFilter schema Document.idField id with
      | .error error => (.error error, m)
      | .ok own =>
        let after := m.change schema.table (DocumentMemory.updateFirst own set)
        ((firstOfId schema id after).map fun found => found.getD [], after) := by
  have hwrites : (!set.isEmpty) = true := by simpa using hsome
  rw [updateOne, hkey]
  change ((Dialogue.ofExcept (Document.ofRecord schema (data.erase Document.idField))).bind _).run
    _ m = _
  rw [hset]
  change (if (!set.isEmpty) = true then _ else _ : DocumentDialogue Record).run _ m = _
  rw [if_pos hwrites]
  cases keyFilter schema Document.idField id with
  | error error => rfl
  | ok own =>
      change (s.findByKey label schema Document.idField id).run _ _ = _
      exact run_findByKey_id schema id

/-- To set a field in the document that a filter lets through first is to change that document alone,
in its place; where the filter lets none through nothing changes. -/
theorem updateFirst_cases (m : DocumentMemory) (table : String) (own : Record) (column : String)
    (value : Json) :
    (m.anyMatches table own = false ∧
        m.change table (DocumentMemory.updateFirst own [(column, value)]) = m) ∨
      (m.anyMatches table own = true ∧ ∃ left d right, m.documents table = left ++ d :: right ∧
        (∀ other ∈ left, Document.matchesFilter other own = false) ∧
        Document.matchesFilter d own = true ∧
        (m.change table (DocumentMemory.updateFirst own [(column, value)])).documents table =
          left ++ d.insert column value :: right) := by
  rcases DocumentMemory.exists_first_match own (m.documents table) with
    hnone | ⟨left, d, right, hdocuments, hleft, hd⟩
  · exact .inl ⟨List.any_eq_false.mpr fun d hd => by simp [hnone d hd],
      DocumentMemory.change_eq_self (DocumentMemory.updateFirst_of_none _ hnone)⟩
  · refine .inr ⟨List.any_eq_true.mpr ⟨d, by simp [hdocuments], hd⟩, left, d, right, hdocuments,
      hleft, hd, ?_⟩
    rw [DocumentMemory.documents_change_self m table rfl, hdocuments,
      DocumentMemory.updateFirst_append hleft hd]
    rfl

/-- What a look for an id shows once another field is set in the document of the id. -/
theorem firstOfId_updateFirst {own : Record} (m : DocumentMemory) (value : Json)
    (hown : keyFilter schema Document.idField id = .ok own) (hcolumn : column ≠ Document.idField) :
    ∃ found,
      firstOfId schema id
          (m.change schema.table (DocumentMemory.updateFirst own [(column, value)])) = .ok found ∧
        (found.getD []).isEmpty = !m.anyMatches schema.table own := by
  rcases updateFirst_cases m schema.table own column value with
    ⟨hnone, hsame⟩ | ⟨hsome, left, d, right, -, hleft, hd, hafter⟩
  · rw [hsame, hnone]
    exact ⟨none, firstOfId_of_none hown (by simpa [DocumentMemory.anyMatches] using hnone), rfl⟩
  · -- The field of the id is another one, so the changed document is still the first of its id.
    have hmatch : Document.matchesFilter (d.insert column value) own = true :=
      (matchesFilter_of_keyFilter hown (Record.get?_insert_of_ne hcolumn.symm)).trans hd
    have hrow : callerRow schema (d.insert column value) ≠ [] :=
      callerRow_ne_nil (Record.get?_insert_self d column value)
    refine ⟨_, firstOfId_of_first hown hafter hleft hmatch, ?_⟩
    simpa [hsome] using hrow

/-! ### Deletions that stamp -/

/-- A time as a column keeps it. -/
def stampOf (schema : Schema) (column : String) (now : Timestamp) : Except EngineError Json :=
  Document.storedAs (schema.column? column) (.string (Timestamp.outbound now))

theorem ofRecord_stamp (schema : Schema) (hcolumn : column ≠ Document.idField) (now : Timestamp) :
    Document.ofRecord schema
        (Record.erase [(column, .string (Timestamp.outbound now))] Document.idField) =
      (stampOf schema column now).map fun stamp => [(column, stamp)] := by
  have hdata : Record.erase [(column, .string (Timestamp.outbound now))] Document.idField =
      [(column, .string (Timestamp.outbound now))] := by
    simp [Record.erase, hcolumn]
  rw [hdata, Document.ofRecord_eq, List.mapM_cons, List.mapM_nil, stampOf]
  cases Document.storedAs (schema.column? column) (.string (Timestamp.outbound now)) <;> rfl

/-- A deletion that stamps sets the column in at most one document, and counts one if it does. -/
theorem run_deleteOne_stamped (s : DocumentStore) (now : Timestamp) (label : String)
    (m : DocumentMemory) (id : Json) (hkey : schema.key = .ok Document.idField)
    (hcolumn : column ≠ Document.idField) :
    (s.deleteOne label schema id (some column)).run (DocumentMemory.responder now) m =
      match stampOf schema column now, keyFilter schema Document.idField id with
      | .error error, _ | .ok _, .error error => (.error error, m)
      | .ok stamp, .ok own =>
        (.ok (if m.anyMatches schema.table own then 1 else 0),
          m.change schema.table (DocumentMemory.updateFirst own [(column, stamp)])) := by
  have hrun : (s.deleteOne label schema id (some column)).run (DocumentMemory.responder now) m =
      continueRun (DocumentMemory.responder now)
        (fun row : Record => .done (if row.isEmpty then 0 else 1))
        ((s.updateOne label schema id [(column, .string (Timestamp.outbound now))]).run
          (DocumentMemory.responder now) m) := by
    rw [deleteOne, hkey]
    exact run_bind _ (s.updateOne label schema id [(column, .string (Timestamp.outbound now))]) _ m
  have hset := ofRecord_stamp schema hcolumn now
  rw [hrun]
  cases hstamp : stampOf schema column now with
  | error error =>
      rw [hstamp] at hset
      rw [updateOne, hkey]
      change continueRun _ _ (((Dialogue.ofExcept (Document.ofRecord schema _)).bind _).run _ m) = _
      rw [hset]
      rfl
  | ok stamp =>
      rw [hstamp] at hset
      rw [run_updateOne hkey hset (List.cons_ne_nil _ _)]
      cases hown : keyFilter schema Document.idField id with
      | error error => rfl
      | ok own =>
          obtain ⟨found, hfound, hempty⟩ :=
            firstOfId_updateFirst m stamp hown hcolumn
          dsimp only
          rw [hfound]
          simp only [Except.map, continueRun, Dialogue.run, hempty]
          cases m.anyMatches schema.table own <;> rfl

theorem run_deleteOne_of_key_error {error : EngineError} (hkey : schema.key = .error error)
    (stamp : Option String) :
    (s.deleteOne label schema id stamp).run (DocumentMemory.responder now) m = (.error error, m) := by
  rw [deleteOne, hkey]
  rfl

theorem serve_delete {table : String} (hschema : s.inferred m table = .ok schema)
    (settings : EngineSettings) (requestId : Option String) :
    s.serve now label (Engine.perform settings requestId (.delete table id)) m =
      let run := (s.deleteOne label schema id (Engine.stampColumn settings schema)).run
        (DocumentMemory.responder now) m
      (run.1.map .deleted, run.2) := by
  rw [serve_eq_run]
  change (Engine.answer settings (requestLabel requestId) none (.delete table id)).run
    (s.responder now label) m = _
  rw [Engine.answer, bind_eq_bind, run_bind, run_getSchema_call, hschema, continueRun]
  change ((StoreDialogue.call (.deleteOne schema id (Engine.stampColumn settings schema))).bind _).run
    (s.responder now label) m = _
  rw [run_bind, run_call]
  change continueRun _ _ ((s.deleteOne label schema id (Engine.stampColumn settings schema)).run
    (DocumentMemory.responder now) m) = _
  generalize (s.deleteOne label schema id (Engine.stampColumn settings schema)).run
    (DocumentMemory.responder now) m = run
  obtain ⟨result, after⟩ := run
  cases result <;> rfl

/-- A deletion that stamps is refused and changes nothing, or it sets the stamp. -/
theorem serve_delete_stamped {table : String} {settings : EngineSettings}
    {requestId : Option String} {result : Except EngineError Response} {m' : DocumentMemory}
    (hschema : s.inferred m table = .ok schema)
    (hstamp : Engine.stampColumn settings schema = some column) (hcolumn : column ≠ Document.idField)
    (hdeleted : s.serve now label (Engine.perform settings requestId (.delete table id)) m =
      (result, m')) :
    (∃ error, result = .error error ∧ m' = m) ∨
      ∃ stamp own, stampOf schema column now = .ok stamp ∧
        keyFilter schema Document.idField id = .ok own ∧
        result = .ok (.deleted (if m.anyMatches table own then 1 else 0)) ∧
        m' = m.change table (DocumentMemory.updateFirst own [(column, stamp)]) := by
  have hinfers := infers_of_inferred hschema
  rw [serve_delete hschema, hstamp] at hdeleted
  have hrefused : ∀ error, (s.deleteOne label schema id (some column)).run
      (DocumentMemory.responder now) m = (.error error, m) →
        ∃ error, result = .error error ∧ m' = m := by
    intro error hrun
    rw [hrun] at hdeleted
    exact ⟨error, (congrArg Prod.fst hdeleted).symm, (congrArg Prod.snd hdeleted).symm⟩
  cases hkey : schema.key with
  | error error => exact .inl (hrefused error (run_deleteOne_of_key_error hkey _))
  | ok key =>
      obtain rfl := hinfers.key_eq hkey
      have hrun := run_deleteOne_stamped s now label m id hkey hcolumn
      rw [hinfers.table_eq] at hrun
      cases hvalue : stampOf schema column now with
      | error error => exact .inl (hrefused error (by rw [hrun, hvalue]))
      | ok stamp =>
        cases hown : keyFilter schema Document.idField id with
        | error error => exact .inl (hrefused error (by rw [hrun, hvalue, hown]))
        | ok own =>
            rw [hrun, hvalue, hown] at hdeleted
            obtain ⟨hresult, hafter⟩ := Prod.mk.inj hdeleted
            exact .inr ⟨stamp, own, rfl, rfl, hresult.symm, hafter.symm⟩

/-- **A deletion that stamps keeps every document.** If the first document of a collection has the
column that is stamped in place of a deletion, then a deletion leaves as many documents as there were
and touches no other collection. Unless it reports one deleted document it changes nothing at all. If
it does, then the stamp is set in one document and that is all: for an id that is not read as
operators it is the first document whose id equals it. -/
theorem soft_deletion_keeps (s : DocumentStore) (now : Timestamp) (label : String)
    (settings : EngineSettings) (requestId : Option String) (table column : String) (id : Json)
    (first : Record) (rest : List Record) (result : Except EngineError Response)
    (m m' : DocumentMemory) (hsettings : settings.softDeleteColumn = some column)
    (hcolumn : column ≠ Document.idField) (hdocuments : m.documents table = first :: rest)
    (hfirst : first.contains column = true)
    (hdeleted : s.serve now label (Engine.perform settings requestId (.delete table id)) m =
      (result, m')) :
    (m'.documents table).length = (m.documents table).length ∧
      (∀ other, other ≠ table → m'.documents other = m.documents other) ∧
      (result ≠ .ok (.deleted 1) → m' = m) ∧
      (result = .ok (.deleted 1) → ∃ schema key expected stamp left d right,
        s.inferred m table = .ok schema ∧ schema.column? Document.idField = some key ∧
        Document.ofValue key id = .ok expected ∧ stampOf schema column now = .ok stamp ∧
        m.documents table = left ++ d :: right ∧
        m'.documents table = left ++ d.insert column stamp :: right ∧
        (Document.readsOperators key id = false →
          Document.equal (d.get? Document.idField) expected = true ∧
          ∀ other ∈ left, Document.equal (other.get? Document.idField) expected = false)) := by
  have hmem : m.names.contains table = true := by
    simpa using DocumentMemory.mem_names_of_documents (by rw [hdocuments]; exact List.cons_ne_nil _ _)
  obtain ⟨schema, hschema, hstamp⟩ : ∃ schema, s.inferred m table = .ok schema ∧
      Engine.stampColumn settings schema = some column := by
    refine ⟨_, by rw [inferred, if_pos hmem, hdocuments], ?_⟩
    rw [Engine.stampColumn, hsettings, Option.filter_some, Document.hasColumn_inferSchema, if_pos hfirst]
  rcases serve_delete_stamped hschema hstamp hcolumn hdeleted with
    ⟨error, rfl, rfl⟩ | ⟨stamp, own, hvalue, hown, rfl, rfl⟩
  · exact ⟨rfl, fun _ _ => rfl, fun _ => rfl, fun h => by cases h⟩
  have hothers : ∀ other, other ≠ table →
      (m.change table (DocumentMemory.updateFirst own [(column, stamp)])).documents other =
        m.documents other := fun other hother => DocumentMemory.documents_change_of_ne m _ hother
  rcases updateFirst_cases m table own column stamp with
    ⟨hnone, hsame⟩ | ⟨hsome, left, d, right, hbefore, hleft, hd, hafter⟩
  · rw [hsame, hnone]
    exact ⟨rfl, fun _ _ => rfl, fun _ => rfl, fun h => by cases h⟩
  · rw [hsome]
    refine ⟨by simp [hafter, hbefore], hothers, fun hne => absurd rfl hne, fun _ => ?_⟩
    obtain ⟨key, expected, hkey, hexpected, hequal, -⟩ :=
      Document.matchesFilter_equals schema Document.idField id own hown
    have hequal := hequal (by decide)
    refine ⟨schema, key, expected, stamp, left, d, right, hschema, hkey, hexpected, hvalue, hbefore,
      hafter, fun hreads => ⟨(hequal hreads d).mp hd, fun other hother => ?_⟩⟩
    rw [← Bool.not_eq_true, ← hequal hreads, hleft other hother]
    exact Bool.false_ne_true

/-- Two items, the first of which has the column of deletions. -/
def tray : DocumentMemory :=
  ⟨[("items", [[("_id", .string "a1"), ("deletedAt", .null)], [("_id", .string "a2")]])], 0⟩

/-- The second item is kept, under the time of its deletion. -/
theorem soft_deletion_keeps_second :
    let settings := { EngineSettings.standard with softDeleteColumn := some "deletedAt" }
    let kept : Record :=
      [("_id", .string "a2"), ("deletedAt", .string (Timestamp.outbound default))]
    let after : DocumentMemory :=
      ⟨[("items", [[("_id", .string "a1"), ("deletedAt", .null)], kept])], 0⟩
    serve ⟨"documents", settings⟩ default "-" (Engine.perform settings none
        (.delete "items" (.string "a2"))) tray = (.ok (.deleted 1), after) ∧
      (after.documents "items").length = (tray.documents "items").length := by
  intro settings kept after
  have hdeleted : serve ⟨"documents", settings⟩ default "-" (Engine.perform settings none
      (.delete "items" (.string "a2"))) tray = (.ok (.deleted 1), after) :=
    Prod.ext (eq_ok_of_toOption_eq_some (by decide +kernel)) (by decide +kernel)
  exact ⟨hdeleted, (soft_deletion_keeps ⟨"documents", settings⟩ default "-" settings none "items"
    "deletedAt" (.string "a2") _ _ _ tray after rfl (by decide) rfl (by decide) hdeleted).1⟩

/-- Where the second item alone has the column, its deletion removes it. -/
theorem hard_deletion_of_stamped :
    ∃ (settings : EngineSettings) (m : DocumentMemory) (d : Record),
      settings.softDeleteColumn = some "deletedAt" ∧ d ∈ m.documents "items" ∧
      d.contains "deletedAt" = true ∧
      (serve ⟨"documents", settings⟩ default "-" (Engine.perform settings none
        (.delete "items" (.string "a2"))) m).1.toOption = some (.deleted 1) ∧
      (m.documents "items").length = 2 ∧
      ((serve ⟨"documents", settings⟩ default "-" (Engine.perform settings none
        (.delete "items" (.string "a2"))) m).2.documents "items").length = 1 :=
  ⟨{ EngineSettings.standard with softDeleteColumn := some "deletedAt" },
    ⟨[("items", [[("_id", .string "a1")], [("_id", .string "a2"), ("deletedAt", .null)]])], 0⟩,
    [("_id", .string "a2"), ("deletedAt", .null)], rfl, by decide, by decide, by decide +kernel,
    by decide, by decide +kernel⟩

end DocumentStore

end DataAccess
