import DataAccess.Proofs.Document.Reads
import DataAccess.Proofs.Document.RestrictedRead
import DataAccess.Proofs.Engine.Pages

/-!
# Pages of a collection

The page of a read is a function of the memory: a piece of the list of all rows that the read is of,
in the order that it asks for, and the length of that list. A limit of zero cuts nothing off.
-/

namespace DataAccess

open Dialogue

namespace DocumentStore

variable (s : DocumentStore) {now : Timestamp} {label : String}

/-- Every row of a read, in order, with its relations, as a filter document lets them through. -/
def shownRows (m : DocumentMemory) (o : FindOptions) (filter : Record) : List Record :=
  (DocumentMemory.sortDocuments (Document.sortKeys o.sort)
    ((m.documents o.table).filter fun d => Document.matchesFilter d filter)).map fun d =>
      withRelated m s.settings.maxLimit
        (callerRow o.schema (DocumentMemory.project (projection o) d)) o.relations

/-- The piece of a list at a position; a limit of zero is none. -/
def cut {α : Type} (limit offset : Nat) (rows : List α) : List α :=
  if limit = 0 then rows.drop offset else (rows.drop offset).take limit

/-- The page of a read. -/
def shownPage (m : DocumentMemory) (o : FindOptions) (filter : Record) : Page :=
  { limit := o.limit, offset := o.offset, total := m.count o.table filter
    data := cut o.limit o.offset (s.shownRows m o filter)
    pagination := PageInfo.ofPosition o.limit o.offset (m.count o.table filter) }

theorem length_cut {α : Type} (limit offset : Nat) (rows : List α) :
    (cut limit offset rows).length =
      if limit = 0 then rows.length - offset else min limit (rows.length - offset) := by
  unfold cut
  split
  · exact List.length_drop
  · rw [List.length_take, List.length_drop]

theorem map_cut {α β : Type} (f : α → β) (limit offset : Nat) (rows : List α) :
    (cut limit offset rows).map f = cut limit offset (rows.map f) := by
  unfold cut
  split
  · exact List.map_drop
  · rw [List.map_take, List.map_drop]

theorem length_shownRows (m : DocumentMemory) (o : FindOptions) (filter : Record) :
    (s.shownRows m o filter).length = m.count o.table filter := by
  rw [shownRows, List.length_map, (DocumentMemory.sortDocuments_perm _ _).length_eq]
  rfl

theorem expanded_eq {o : FindOptions} {filter : Record} (m : DocumentMemory)
    (h : Document.filter o.schema o.filters = .ok filter) :
    s.expanded m o = .ok (cut o.limit o.offset (s.shownRows m o filter)) := by
  have hquery : query o = .ok
      { collection := o.table, filter, projection := projection o
        sort := Document.sortKeys o.sort, skip := o.offset, limit := o.limit } := by
    rw [query, h]
    rfl
  rw [expanded, rows, hquery, shownRows]
  simp only [Except.map, DocumentMemory.find, ← map_cut, List.map_map]
  rfl

/-- The page that a read ends in. -/
theorem run_findPage (m : DocumentMemory) (o : FindOptions) :
    (Engine.findPage o).run (s.responder now label) m =
      ((Document.filter o.schema o.filters).map (s.shownPage m o), m) := by
  have hcount : (s.carryOut label (.countRows o)).run (DocumentMemory.responder now) m =
      ((Document.filter o.schema o.filters).map (m.count o.table), m) := run_countRows m o
  rw [Engine.findPage, bind_eq_bind, run_bind, run_call, hcount]
  cases hfilter : Document.filter o.schema o.filters with
  | error error => rfl
  | ok filter =>
      by_cases hnone : m.count o.table filter = 0
      · have hempty : s.shownRows m o filter = [] :=
          List.eq_nil_of_length_eq_zero ((s.length_shownRows m o filter).trans hnone)
        have hcut : cut o.limit o.offset ([] : List Record) = [] := by simp [cut]
        simp only [Except.map, continueRun, hnone, if_true, shownPage, hempty, hcut]
        rfl
      · have hfetch : (s.carryOut label (.findMany o)).run (DocumentMemory.responder now) m =
            (.ok (cut o.limit o.offset (s.shownRows m o filter)), m) :=
          (run_fetch m o).trans (by rw [s.expanded_eq m hfilter])
        simp only [Except.map, continueRun, hnone, if_false]
        rw [bind_eq_bind, run_bind, run_call, hfetch]
        rfl

/-- **Length of a page.** A page holds as many rows as its limit allows of those behind its offset; a
limit of zero allows them all. -/
theorem length_data_of_run_findPage {m m' : DocumentMemory} {o : FindOptions} {page : Page}
    (h : (Engine.findPage o).run (s.responder now label) m = (.ok page, m')) :
    page.data.length =
      if page.limit = 0 then page.total - page.offset
      else min page.limit (page.total - page.offset) := by
  rw [run_findPage] at h
  obtain ⟨hpage, -⟩ := Prod.mk.inj h
  obtain ⟨filter, -, rfl⟩ := exists_of_map_eq_ok hpage
  rw [shownPage, length_cut, length_shownRows]

end DocumentStore

end DataAccess
