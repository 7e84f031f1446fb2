import DataAccess.Proofs.Document.Memory
import DataAccess.Proofs.Document.Serve
import DataAccess.Proofs.Document.Unlinked

/-!
# The schemas that a store infers

A schema is asked for by reads alone, so it is a function of the memory: of the collection's first
document, of the names of the collections, and, for the links, of the registry.
-/

namespace DataAccess

open Dialogue

theorem DocumentMemory.documents_of_not_mem {m : DocumentMemory} {name : String}
    (h : name ∉ m.names) : m.documents name = [] := by
  have hnone : (m.collections.find? fun entry => entry.1 == name) = none := by
    rw [List.find?_eq_none]
    intro entry hentry hname
    exact h (List.mem_map.mpr ⟨entry, hentry, by simpa using hname⟩)
  rw [documents, collection?, hnone]
  rfl

theorem DocumentMemory.mem_names_of_documents {m : DocumentMemory} {name : String}
    (h : m.documents name ≠ []) : name ∈ m.names :=
  Decidable.byContradiction fun hnot => h (documents_of_not_mem hnot)

namespace DocumentStore

variable (s : DocumentStore) {now : Timestamp} {label : String}

/-- The schema of a collection as the documents of a memory show it. -/
def inferred (m : DocumentMemory) (collection : String) : Except EngineError Schema :=
  if m.names.contains collection then
    let registry := m.documents s.settings.relationRegistry
    match m.documents collection with
    | sample :: _ => .ok (Document.inferSchema collection sample m.names registry)
    | [] => .ok (Document.emptySchema collection m.names registry)
  else .error (.schemaNotFound collection)

theorem run_debug_bind {α : Type} (text : String) (next : Unit → DocumentDialogue α)
    (m : DocumentMemory) :
    (s.debug label text >>= next).run (DocumentMemory.responder now) m =
      (next ()).run (DocumentMemory.responder now) m := rfl

theorem run_readRegistry (m : DocumentMemory) :
    (s.readRegistry label m.names).run (DocumentMemory.responder now) m =
      (.ok (m.documents s.settings.relationRegistry), m) := by
  rw [readRegistry]
  split
  next _ =>
    rw [← DocumentMemory.find_all]
    rfl
  next hnames =>
    rw [DocumentMemory.documents_of_not_mem (by simpa using hnames)]
    rfl

theorem run_getSchema (m : DocumentMemory) (collection : String) :
    (s.getSchema label collection).run (DocumentMemory.responder now) m =
      (s.inferred m collection, m) := by
  have hcollections : (request .listCollections).run (DocumentMemory.responder now) m =
      (.ok m.names, m) := rfl
  have hsamples : (request (.find { DocumentQuery.all collection with limit := 1 })).run
      (DocumentMemory.responder now) m = (.ok ((m.documents collection).take 1), m) := by
    have hfirst := m.find_first collection []
    rw [DocumentMemory.filter_matchesFilter_nil] at hfirst
    rw [← hfirst]
    rfl
  rw [getSchema, bind_eq_bind, run_bind, hcollections, continueRun, inferred]
  cases hnames : m.names.contains collection with
  | false => rfl
  | true =>
      simp only [Bool.not_true, Bool.false_eq_true, if_false, if_true]
      rw [run_debug_bind, bind_eq_bind, run_bind, hsamples, continueRun, bind_eq_bind, run_bind,
        run_readRegistry, continueRun]
      cases m.documents collection <;> rfl

end DocumentStore

namespace Document

/-- The schemas that are inferred for a collection, from whatever is found of it. -/
def Infers (collection : String) (schema : Schema) : Prop :=
  ∃ collections registry, schema = emptySchema collection collections registry ∨
    ∃ sample, schema = inferSchema collection sample collections registry

theorem Infers.table_eq {collection : String} {schema : Schema} (h : Infers collection schema) :
    schema.table = collection := by
  obtain ⟨collections, registry, rfl | ⟨sample, rfl⟩⟩ := h
  · exact table_emptySchema _ _ _
  · exact table_inferSchema _ _ _ _

theorem key?_of_key {key : String} {schema : Schema} (h : schema.key = .ok key) :
    schema.key? = some key := by
  rw [Schema.key] at h
  split at h
  next field hfield => rw [hfield, Except.ok.inj h]
  next _ => cases h

theorem Infers.key_eq {collection key : String} {schema : Schema} (h : Infers collection schema)
    (hkey : schema.key = .ok key) : key = idField := by
  have hkey? := key?_of_key hkey
  obtain ⟨collections, registry, rfl | ⟨sample, rfl⟩⟩ := h
  · exact key?_emptySchema hkey?
  · exact key?_inferSchema hkey?

/-- The key of an inferred schema is one of its columns. -/
theorem Infers.exists_column {collection key : String} {schema : Schema}
    (h : Infers collection schema) (hkey : schema.key = .ok key) :
    ∃ column, schema.column? key = some column := by
  refine Option.isSome_iff_exists.mp ?_
  change schema.hasColumn key = true
  have hkey? := key?_of_key hkey
  rw [← Schema.key?_unlinked] at hkey?
  rw [← Schema.hasColumn_unlinked]
  obtain ⟨collections, registry, rfl | ⟨sample, rfl⟩⟩ := h
  · rw [emptySchema, unlinked_foldl unlinked_addRelation] at hkey? ⊢
    rw [Schema.key?_unlinked] at hkey?
    rw [Schema.hasColumn_unlinked]
    exact hasColumn_ofColumns_of_key? hkey?
  · rw [inferSchema, unlinked_foldl unlinked_addLink] at hkey? ⊢
    rw [Schema.key?_unlinked] at hkey?
    rw [Schema.hasColumn_unlinked]
    exact hasColumn_ofColumns_of_key? hkey?

end Document

namespace DocumentStore

variable {s : DocumentStore} {m m' : DocumentMemory} {collection : String}

theorem infers_of_inferred {schema : Schema} (h : s.inferred m collection = .ok schema) :
    Document.Infers collection schema := by
  refine ⟨m.names, m.documents s.settings.relationRegistry, ?_⟩
  rw [inferred] at h
  split at h
  next _ =>
    dsimp only at h
    split at h
    next sample _ _ => exact .inr ⟨sample, (Except.ok.inj h).symm⟩
    next _ => exact .inl (Except.ok.inj h).symm
  next _ => cases h

theorem mem_names_of_inferred {schema : Schema} (h : s.inferred m collection = .ok schema) :
    collection ∈ m.names := by
  rw [inferred] at h
  split at h
  next hnames => simpa using hnames
  next _ => cases h

/-- Memories with the same collections and the same documents of one show the same schema of it, up
to its links. -/
theorem unlinked_inferred_congr (hnames : m.names = m'.names)
    (hdocuments : m.documents collection = m'.documents collection) :
    (s.inferred m collection).map Schema.unlinked =
      (s.inferred m' collection).map Schema.unlinked := by
  rw [inferred, inferred, hnames, hdocuments]
  split
  next _ =>
    dsimp only
    cases m'.documents collection with
    | nil =>
        refine congrArg Except.ok ?_
        rw [Document.unlinked_emptySchema, ← Document.unlinked_emptySchema]
    | cons sample rest =>
        refine congrArg Except.ok ?_
        rw [Document.unlinked_inferSchema, ← Document.unlinked_inferSchema]
  next _ => rfl

end DocumentStore

end DataAccess
