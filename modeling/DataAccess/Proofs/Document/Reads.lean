import DataAccess.Proofs.Document.Memory
import DataAccess.Proofs.Document.Serve

/-!
# What reads find

Reads change nothing, so what they end in is a function of the memory: the rows of a table that a
filter lets through, and under each of its relations the rows that a lookup finds. Each row is the
caller's form of a stored document.
-/

namespace DataAccess

open Dialogue

namespace DocumentMemory

/-! ### Sorting and cutting -/

theorem insertBackwards_perm (precedes : Record → Record → Bool) (d : Record)
    (documents : List Record) :
    (insertBackwards precedes d documents).Perm (d :: documents) := by
  induction documents with
  | nil => exact .refl _
  | cons first rest ih =>
      rw [insertBackwards]
      split
      · exact (ih.cons first).trans (.swap d first rest)
      · exact .refl _

theorem sortDocuments_perm (keys : List (String × Int)) (documents : List Record) :
    (sortDocuments keys documents).Perm documents := by
  have hfold : ∀ precedes : Record → Record → Bool, ∀ sorted,
      (documents.foldl (fun sorted d => insertBackwards precedes d sorted) sorted).Perm
        (documents.reverse ++ sorted) := by
    intro precedes
    induction documents with
    | nil => exact fun sorted => .refl _
    | cons first rest ih =>
        intro sorted
        have hstep := (insertBackwards_perm precedes first sorted).append_left rest.reverse
        rw [List.foldl_cons, List.reverse_cons, List.append_assoc]
        exact (ih _).trans hstep
  rw [sortDocuments]
  refine (List.reverse_perm _).trans ((hfold _ []).trans ?_)
  rw [List.append_nil]
  exact List.reverse_perm documents

theorem mem_of_mem_find {m : DocumentMemory} {q : DocumentQuery} {found : Record}
    (h : found ∈ m.find q) :
    ∃ d ∈ m.documents q.collection, Document.matchesFilter d q.filter = true ∧
      found = project q.projection d := by
  rw [find] at h
  obtain ⟨d, hd, rfl⟩ := List.mem_map.mp h
  have hsorted : d ∈ sortDocuments q.sort
      ((m.documents q.collection).filter fun d => Document.matchesFilter d q.filter) := by
    split at hd
    · exact List.mem_of_mem_drop hd
    · exact List.mem_of_mem_drop (List.mem_of_mem_take hd)
  obtain ⟨hmem, hmatch⟩ := List.mem_filter.mp ((sortDocuments_perm _ _).mem_iff.mp hsorted)
  exact ⟨d, hmem, hmatch, rfl⟩

end DocumentMemory

namespace DocumentStore

variable {s : DocumentStore} {now : Timestamp} {label : String}

/-! ### Rows without relations -/

/-- The rows of a read, without its relations. -/
def rows (m : DocumentMemory) (o : FindOptions) : Except EngineError (List Record) :=
  (query o).map fun q => (m.find q).map (callerRow o.schema)

theorem run_fetchRows (m : DocumentMemory) (o : FindOptions) :
    (s.fetchRows label o).run (DocumentMemory.responder now) m = (rows m o, m) := by
  rw [fetchRows, rows]
  cases query o with
  | error error => rfl
  | ok q => rfl

theorem mem_rows {m : DocumentMemory} {o : FindOptions} {found : List Record} {row : Record}
    (hfound : rows m o = .ok found) (hrow : row ∈ found) :
    ∃ filter, Document.filter o.schema o.filters = .ok filter ∧ ∃ d ∈ m.documents o.table,
      Document.matchesFilter d filter = true ∧
        row = callerRow o.schema (DocumentMemory.project (projection o) d) := by
  obtain ⟨q, hq, rfl⟩ := exists_of_map_eq_ok hfound
  obtain ⟨filter, hfilter, rfl⟩ := exists_of_map_eq_ok hq
  obtain ⟨document, hdocument, rfl⟩ := List.mem_map.mp hrow
  obtain ⟨d, hd, hmatch, rfl⟩ := DocumentMemory.mem_of_mem_find hdocument
  exact ⟨filter, hfilter, d, hd, hmatch, rfl⟩

/-! ### Related rows -/

/-- The rows that the lookup of a relation finds for a row; a lookup that fails finds none. -/
def relatedRows (m : DocumentMemory) (limit : Nat) (row : Record) (q : RelationRequest) :
    List Record :=
  match row.get? q.relation.orgColumn with
  | none | some .null => []
  | some key =>
    match Relations.lookupOptions q key limit with
    | none => []
    | some o =>
      match rows m o with
      | .ok found => found
      | .error _ => []

theorem run_relatedRows (m : DocumentMemory) (limit : Nat) (row : Record) (q : RelationRequest) :
    (Relations.relatedRows label limit (s.fetchRows label) row q).run
        (DocumentMemory.responder now) m = (.ok (relatedRows m limit row q), m) := by
  rw [Relations.relatedRows]
  split
  next hkey =>
    rw [relatedRows, hkey]
    rfl
  next hkey =>
    rw [relatedRows, hkey]
    rfl
  next key hnull hkey =>
    simp only [relatedRows, hkey]
    cases Relations.lookupOptions q key limit with
    | none => rfl
    | some o =>
        simp only
        rw [bind_eq_bind, run_bind, run_attempt, run_fetchRows]
        cases rows m o with
        | ok found => rfl
        | error error => rfl

/-- A row with the rows of some relations. -/
def withRelated (m : DocumentMemory) (limit : Nat) (row : Record) : List RelationRequest → Record
  | [] => row
  | q :: rest =>
    withRelated m limit
      (row.insert q.table (.array ((relatedRows m limit row q).map .object))) rest

theorem run_expandRow (m : DocumentMemory) (limit : Nat) (row : Record)
    (requests : List RelationRequest) :
    (Relations.expandRow label limit (s.fetchRows label) row requests).run
        (DocumentMemory.responder now) m = (.ok (withRelated m limit row requests), m) := by
  induction requests generalizing row with
  | nil => rfl
  | cons q rest ih =>
      rw [Relations.expandRow, withRelated, bind_eq_bind, run_bind, run_relatedRows, continueRun]
      exact ih _

theorem run_expandRows (m : DocumentMemory) (limit : Nat) (requests : List RelationRequest)
    (found : List Record) :
    (Relations.expandRows label limit (s.fetchRows label) requests found).run
        (DocumentMemory.responder now) m =
      (.ok (found.map fun row => withRelated m limit row requests), m) := by
  induction found with
  | nil => rfl
  | cons row rest ih =>
      rw [Relations.expandRows, bind_eq_bind, run_bind, run_expandRow, continueRun, bind_eq_bind,
        run_bind, ih]
      rfl

variable (s) in
/-- The rows of a read with their relations. -/
def expanded (m : DocumentMemory) (o : FindOptions) : Except EngineError (List Record) :=
  (rows m o).map fun found =>
    found.map fun row => withRelated m s.settings.maxLimit row o.relations

theorem run_fetch (m : DocumentMemory) (o : FindOptions) :
    (s.fetch label o).run (DocumentMemory.responder now) m = (s.expanded m o, m) := by
  rw [fetch_eq, run_bind, run_fetchRows, expanded]
  cases rows m o with
  | error error => rfl
  | ok found => exact run_expandRows m _ o.relations found

theorem run_findOne (m : DocumentMemory) (o : FindOptions) :
    (s.findOne label o).run (DocumentMemory.responder now) m =
      ((s.expanded m { o with limit := 1, offset := 0 }).map List.head?, m) := by
  rw [findOne, bind_eq_bind, run_bind, run_fetch]
  cases s.expanded m { o with limit := 1, offset := 0 } with
  | error error => rfl
  | ok found => rfl

theorem run_countRows (m : DocumentMemory) (o : FindOptions) :
    (s.countRows label o).run (DocumentMemory.responder now) m =
      ((Document.filter o.schema o.filters).map (m.count o.table), m) := by
  rw [countRows]
  cases Document.filter o.schema o.filters with
  | error error => rfl
  | ok filter => rfl

end DocumentStore

end DataAccess
