import DataAccess.Proofs.Document.GuardedWrite

/-!
# Writes among others

Others may use the memory between any two requests of a run. A restricted write comes after a look
that found a document of the key and of the restriction, but it goes by the key alone: what it
touches is shown by the restriction at that moment if the key was of one document when it was looked
at, and if no one has since given the key to a hidden document or hidden the document of the key.
-/

namespace DataAccess

open Dialogue

/-- Whether a request may add documents to a collection or change the ones it has. -/
def DocumentRequest.altersIn (name : String) : DocumentRequest → Bool
  | insertOne collection _ | updateOne collection _ _ => collection == name
  | _ => false

namespace DocumentMemory

variable {m : DocumentMemory} {name : String}

theorem documents_createCollection (m : DocumentMemory) (name other : String) :
    (m.createCollection other).documents name = m.documents name := by
  rw [createCollection]
  split
  · rfl
  · rw [documents, documents, collection?, collection?, List.find?_append]
    cases m.collections.find? fun entry => entry.1 == name with
    | some entry => rfl
    | none => by_cases hother : other = name <;> simp [hother]

theorem documents_withDocuments_of_ne {other : String} (h : name ≠ other) (m : DocumentMemory)
    (documents : List Record) : (m.withDocuments other documents).documents name = m.documents name := by
  rw [withDocuments, documents_change_of_ne _ _ h, documents_createCollection]

theorem documents_insertOne_of_ne {other : String} (h : name ≠ other) (m : DocumentMemory)
    (document : Record) : (m.insertOne other document).2.documents name = m.documents name := by
  rw [insertOne]
  cases document.get? Document.idField with
  | some id => exact documents_withDocuments_of_ne h m _
  | none => exact documents_withDocuments_of_ne h { m with generated := m.generated + 1 } _

theorem mem_of_mem_deleteFirst {filter d : Record} {documents : List Record}
    (h : d ∈ deleteFirst filter documents) : d ∈ documents := by
  induction documents with
  | nil => exact h
  | cons first rest ih =>
      rw [deleteFirst] at h
      split at h
      · exact List.mem_cons_of_mem first h
      · rcases List.mem_cons.mp h with rfl | h
        · exact List.mem_cons_self
        · exact List.mem_cons_of_mem first (ih h)

theorem mem_documents_change {d : Record} {other : String} {f : List Record → List Record}
    (hnil : f [] = []) (hmem : other = name → ∀ documents, d ∈ f documents → d ∈ documents)
    (h : d ∈ (m.change other f).documents name) : d ∈ m.documents name := by
  by_cases hother : other = name
  · subst hother
    rw [documents_change_self m _ hnil] at h
    exact hmem rfl _ h
  · rwa [documents_change_of_ne m f (Ne.symm hother)] at h

/-- Other requests leave a collection no document that it did not have. -/
theorem mem_documents_of_answer {now : Timestamp} {r : DocumentRequest} {d : Record}
    (hr : r.altersIn name = false) (h : d ∈ (answer now r m).2.documents name) :
    d ∈ m.documents name := by
  cases r with
  | insertOne collection document =>
      have hne : name ≠ collection := by
        rintro rfl
        simp [DocumentRequest.altersIn] at hr
      have hdocuments := documents_insertOne_of_ne hne m document
      rw [← hdocuments]
      exact h
  | updateOne collection filter set =>
      have hne : collection ≠ name := by simpa [DocumentRequest.altersIn] using hr
      exact mem_documents_change rfl (fun heq => absurd heq hne) h
  | deleteOne collection filter =>
      exact mem_documents_change rfl (fun _ _ => mem_of_mem_deleteFirst) h
  | deleteMany collection filter =>
      exact mem_documents_change rfl (fun _ _ hd => (List.mem_filter.mp hd).1) h
  | createCollection collection => rwa [← documents_createCollection m name collection]
  | _ => exact h

/-- The memory after some operations, one after the other. -/
def disturbed (now : Timestamp) (operations : List DocumentRequest) (m : DocumentMemory) :
    DocumentMemory :=
  operations.foldl (fun m r => (answer now r m).2) m

theorem disturbed_append (now : Timestamp) (first second : List DocumentRequest)
    (m : DocumentMemory) :
    disturbed now (first ++ second) m = disturbed now second (disturbed now first m) :=
  List.foldl_append

/-- The operations that add or change documents of a collection keep what holds of the memory. -/
def Kept (now : Timestamp) (name : String) (Q : DocumentMemory → Prop) :
    List DocumentRequest → DocumentMemory → Prop
  | [], _ => True
  | r :: rest, m =>
    (r.altersIn name = true → Q m → Q (answer now r m).2) ∧ Kept now name Q rest (answer now r m).2

/-- Every document of a key is one that a restriction shows. -/
def ShowsAll (name : String) (own visible : Record) (m : DocumentMemory) : Prop :=
  ∀ d ∈ m.documents name, Document.matchesFilter d own = true →
    Document.matchesFilter d visible = true

theorem ShowsAll.disturbed {now : Timestamp} {own visible : Record}
    {operations : List DocumentRequest} (h : m.ShowsAll name own visible)
    (hkept : Kept now name (ShowsAll name own visible) operations m) :
    (disturbed now operations m).ShowsAll name own visible := by
  induction operations generalizing m with
  | nil => exact h
  | cons r rest ih =>
      refine ih ?_ hkept.2
      by_cases hr : r.altersIn name = true
      · exact hkept.1 hr h
      -- Any other operation at most takes documents away.
      · have hr : r.altersIn name = false := by simpa using hr
        intro d hd hown
        exact h d (mem_documents_of_answer hr hd) hown

end DocumentMemory

/-- A memory that is shared, and how many requests of one of its users it has answered. -/
structure SharedMemory where
  memory : DocumentMemory
  answered : Nat

namespace SharedMemory

variable (now : Timestamp) (others : Nat → List DocumentRequest)

/-- What the next request finds: others have come before it. -/
def found (w : SharedMemory) : DocumentMemory := w.memory.disturbed now (others w.answered)

def responder : Responder DocumentRequest DocumentRequest.Answer SharedMemory where
  answer r w :=
    ((DocumentMemory.answer now r (w.found now others)).1,
      ⟨(DocumentMemory.answer now r (w.found now others)).2, w.answered + 1⟩)
  note _ w := w

/-- The operations of others from after one request to before another, some requests later. -/
def meanwhile : Nat → Nat → List DocumentRequest
  | _, 0 => []
  | first, count + 1 => others (first + 1) ++ meanwhile (first + 1) count

variable {now others}

theorem quiet_responder : (responder now others).Quiet := fun _ _ => rfl

theorem replay_reads {past : List (Exchange DocumentRequest SharedMemory)}
    (hpast : DocumentStore.Reads past) (w : SharedMemory) :
    (replay (responder now others) w past).answered = w.answered + past.length ∧
      (replay (responder now others) w past).found now others =
        (w.found now others).disturbed now (meanwhile others w.answered past.length) := by
  induction past generalizing w with
  | nil => exact ⟨rfl, rfl⟩
  | cons first rest ih =>
      have hsame : (DocumentMemory.answer now first.request (w.found now others)).2 =
          w.found now others :=
        DocumentMemory.answer_of_not_isWrite (hpast first List.mem_cons_self) now _
      have hnext : ((responder now others).answer first.request w).2 =
          ⟨w.found now others, w.answered + 1⟩ := by
        rw [← hsame]
        rfl
      obtain ⟨hanswered, hfound⟩ := ih (fun e he => hpast e (List.mem_cons_of_mem first he))
        ⟨w.found now others, w.answered + 1⟩
      have hreplay : replay (responder now others) w (first :: rest) =
          replay (responder now others) ⟨w.found now others, w.answered + 1⟩ rest := by
        rw [← hnext]
        rfl
      rw [hreplay, hanswered, hfound]
      refine ⟨by simp only [List.length_cons]; omega, ?_⟩
      rw [List.length_cons, meanwhile, DocumentMemory.disturbed_append]
      rfl

/-- What a request finds after reads is what an earlier one found and what others made of it. -/
theorem found_of_reads {α : Type} {d : DocumentDialogue α} {start seen : SharedMemory}
    {request : DocumentRequest} {before early between after : List (Exchange DocumentRequest SharedMemory)}
    {e : Exchange DocumentRequest SharedMemory} (hreads : DocumentStore.Reads before)
    (hbefore : before = early ++ ⟨request, seen⟩ :: between)
    (hsplit : d.transcript (responder now others) start = before ++ e :: after) :
    e.state.found now others = (seen.found now others).disturbed now
      (meanwhile others seen.answered (e.state.answered - seen.answered)) := by
  -- The earlier request is a read as well, so only others have changed what it found.
  have hlater : DocumentStore.Reads (⟨request, seen⟩ :: between) := by
    intro other hother
    refine hreads other ?_
    rw [hbefore]
    exact List.mem_append_right early hother
  have hearly : d.transcript (responder now others) start =
      early ++ ⟨request, seen⟩ :: (between ++ e :: after) := by
    rw [hsplit, hbefore]
    simp
  have hseen : seen = replay (responder now others) start early :=
    state_eq_replay quiet_responder hearly
  have hstate : e.state = replay (responder now others) seen (⟨request, seen⟩ :: between) := by
    rw [state_eq_replay quiet_responder hsplit, hbefore, replay_append, ← hseen]
  obtain ⟨hanswered, hfound⟩ := replay_reads hlater seen
  rw [← hstate] at hanswered hfound
  have hcount : e.state.answered - seen.answered = (⟨request, seen⟩ :: between).length := by omega
  rw [hcount]
  exact hfound

end SharedMemory

namespace DocumentStore

variable {s : DocumentStore} {now : Timestamp} {label : String} {table : String} {id : Json}
  {request : Request} {r : Restriction} {others : Nat → List DocumentRequest}

/-- The look of a restricted write: among the exchanges before the write there is one that asked for
a document of the key and of the restriction, and there was one. -/
structure LookedBefore (now : Timestamp) (others : Nat → List DocumentRequest) (table : String)
    (id : Json) (r : Restriction) (before : List (Exchange DocumentRequest SharedMemory))
    (own visible : Record) (seen : SharedMemory) : Prop where
  conditions : ∃ schema key, Document.Infers table schema ∧ schema.key = .ok key ∧
    keyFilter schema key id = .ok own ∧ Document.filter schema [r.predicate] = .ok visible
  look : ⟨.find (ownQuery table own visible), seen⟩ ∈ before
  found : ∃ d ∈ (seen.found now others).documents table,
    Document.matchesFilter d own = true ∧ Document.matchesFilter d visible = true

theorem showsAll_of_unique {m : DocumentMemory} {own visible d : Record}
    (hunique : ((m.documents table).filter fun d => Document.matchesFilter d own).length ≤ 1)
    (hd : d ∈ m.documents table) (hown : Document.matchesFilter d own = true)
    (hvisible : Document.matchesFilter d visible = true) : m.ShowsAll table own visible := by
  intro other hother hotherOwn
  rw [DocumentMemory.eq_of_length_le_one hunique hother hotherOwn hd hown]
  exact hvisible

/-- **Restricted writes go by the key.** Others may do anything to the memory between any two
requests of a restricted update or deletion. A write of the run touches one document at most, the
first of the key, and comes after a look that found a document of the key that the restriction shows.
If there was one document of the key at the look, and no one has since added or changed documents of
the table so that the restriction hides one of the key, then the document that is touched is one that
the restriction shows at that moment. -/
theorem interleaved_write_confined (s : DocumentStore) (now : Timestamp) (label : String)
    (settings : EngineSettings) (requestId : Option String) (source : PermissionSource)
    (identity table : String) (id : Json) (request : Request) (r : Restriction)
    (others : Nat → List DocumentRequest) (start : SharedMemory)
    (before after : List (Exchange DocumentRequest SharedMemory))
    (e : Exchange DocumentRequest SharedMemory)
    (hrequest : request = .delete table id ∨ ∃ data, request = .update table id data)
    (houtcome : Engine.outcome? source identity request = some (.ok (.restricted r)))
    (hsplit : ((Engine.performAuthorized settings requestId source identity request).interpret
      (s.answer label)).transcript (SharedMemory.responder now others) start = before ++ e :: after)
    (hwrite : e.request.isWrite = true) :
    ∃ own visible seen, LookedBefore now others table id r before own visible seen ∧
      (e.state.found now others).Touches
        (DocumentMemory.answer now e.request (e.state.found now others)).2 table
        (fun d _ => Document.matchesFilter d own = true) ∧
      ((((seen.found now others).documents table).filter
          fun d => Document.matchesFilter d own).length ≤ 1 →
        DocumentMemory.Kept now table (DocumentMemory.ShowsAll table own visible)
            (SharedMemory.meanwhile others seen.answered (e.state.answered - seen.answered))
            (seen.found now others) →
          (e.state.found now others).Touches
            (DocumentMemory.answer now e.request (e.state.found now others)).2 table
            fun d _ => Document.matchesFilter d visible = true) := by
  obtain ⟨schema, hinfers, hguarded⟩ := guarded_of_transcript SharedMemory.quiet_responder settings
    requestId hrequest houtcome hsplit hwrite
  obtain rfl := hinfers.table_eq
  obtain ⟨key, own, hkey, hown, hkeyed, hchecks⟩ := hguarded.keyed
  obtain ⟨visible, early, seen, between, hchecked⟩ := hchecks r rfl
  obtain ⟨d, rest, hanswer⟩ := hchecked.found
  obtain ⟨hd, hboth⟩ := DocumentMemory.mem_of_find_first (Except.ok.inj hanswer)
  rw [Document.matchesFilter_joinFilters] at hboth
  have hmatch : Document.matchesFilter d own = true ∧ Document.matchesFilter d visible = true := by
    simpa using hboth
  have htouches := hkeyed.touches now (e.state.found now others)
  refine ⟨own, visible, seen, ⟨⟨schema, key, hinfers, hkey, hown, hchecked.shown⟩, ?_,
    d, hd, hmatch⟩, htouches.mono fun _ _ _ h => h.1, ?_⟩
  · rw [hchecked.split]
    exact List.mem_append_right early List.mem_cons_self
  · intro hunique hkept
    have hfound := SharedMemory.found_of_reads hguarded.alone hchecked.split hsplit
    have hall := (showsAll_of_unique hunique hd hmatch.1 hmatch.2).disturbed hkept
    rw [← hfound] at hall
    exact htouches.mono fun d' _ hd' h => hall d' hd' h.1

/-- Others who remove the first account whenever they are heard. -/
def closing (_ : Nat) : List DocumentRequest := [.deleteOne "accounts" [("_id", .string "a1")]]

/-- The accounts once the first is gone. -/
def ownAccount : DocumentMemory :=
  ⟨[("accounts", [[("_id", .string "a2"), ("owner", .string "u1")]])], 0⟩

/-- What a restricted deletion of the second account asks before its write. -/
def looks : List (Exchange DocumentRequest SharedMemory) :=
  [⟨.listCollections, .accounts, 0⟩,
    ⟨.find { DocumentQuery.all "accounts" with limit := 1 }, ownAccount, 1⟩,
    ⟨.find (ownQuery "accounts" [("_id", .string "a2")] [("owner", .string "u1")]), ownAccount, 2⟩]

theorem interleaved_write_confined_accounts :
    ((Engine.performAuthorized .standard none
        (fun _ _ _ => .ok (.restricted ⟨"owner", .string "u1"⟩)) "u1"
        (.delete "accounts" (.string "a2"))).interpret
      (answer ⟨"documents", .standard⟩ "-")).transcript (SharedMemory.responder default closing)
        ⟨.accounts, 0⟩ =
          looks ++ [⟨.deleteOne "accounts" [("_id", .string "a2")], ownAccount, 3⟩] ∧
      ownAccount.Touches
        (DocumentMemory.answer default (.deleteOne "accounts" [("_id", .string "a2")])
          ownAccount).2 "accounts"
        fun d _ => Document.matchesFilter d [("owner", .string "u1")] = true := by
  refine ⟨rfl, ?_⟩
  obtain ⟨own, visible, seen, hlook, -, hconfined⟩ := interleaved_write_confined
    ⟨"documents", .standard⟩ default "-" .standard none
    (fun _ _ _ => .ok (.restricted ⟨"owner", .string "u1"⟩)) "u1" "accounts" (.string "a2")
    (.delete "accounts" (.string "a2")) ⟨"owner", .string "u1"⟩ closing ⟨.accounts, 0⟩ looks []
    ⟨.deleteOne "accounts" [("_id", .string "a2")], ownAccount, 3⟩ (.inl rfl) rfl rfl rfl
  obtain ⟨rfl, rfl, rfl⟩ : own = [("_id", .string "a2")] ∧ visible = [("owner", .string "u1")] ∧
      seen = ⟨ownAccount, 2⟩ := by
    rcases List.mem_cons.mp hlook.look with h | h
    · cases h
    rcases List.mem_cons.mp h with h | h
    · cases h
    · cases List.mem_singleton.mp h
      exact ⟨rfl, rfl, rfl⟩
  refine hconfined ?_ ⟨fun h => ?_, trivial⟩
  · decide
  · cases h

/-- The second account changes hands after the look; it is deleted although it is hidden by then. -/
theorem interleaved_delete_of_hidden :
    ∃ (others : Nat → List DocumentRequest) (before : List (Exchange DocumentRequest SharedMemory))
      (e : Exchange DocumentRequest SharedMemory) (first hidden : Record),
      (((Engine.performAuthorized .standard none
          (fun _ _ _ => .ok (.restricted ⟨"owner", .string "u1"⟩)) "u1"
          (.delete "accounts" (.string "a2"))).interpret
        (answer ⟨"documents", .standard⟩ "-")).transcript (SharedMemory.responder default others)
          ⟨.accounts, 0⟩ = before ++ [e]) ∧
        (e.state.found default others).documents "accounts" = [first, hidden] ∧
        Document.matchesFilter hidden [("owner", .string "u1")] = false ∧
        (DocumentMemory.answer default e.request (e.state.found default others)).2.documents
          "accounts" = [first] := by
  refine ⟨fun n => if n = 3 then
      [.updateOne "accounts" [("_id", .string "a2")] [("owner", .string "u2")]] else [],
    [_, _, _], _, _, _, rfl, rfl, ?_, rfl⟩
  decide

end DocumentStore

end DataAccess
