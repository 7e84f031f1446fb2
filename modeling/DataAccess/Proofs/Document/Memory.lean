import DataAccess.Document.Memory
import DataAccess.Proofs.Document.Filter
import DataAccess.Proofs.Json.Record

/-!
# Changes and reads of a memory

A change of one collection keeps the names of all and the documents of the others. Reads see a
collection through their filter, so a read with one more conjunct is a read of the part that the
conjunct shows.
-/

namespace DataAccess

namespace DocumentMemory

variable {m : DocumentMemory} {name other : String}

/-! ### Changing one collection -/

def names (m : DocumentMemory) : List String := m.collections.map (·.1)

theorem map_fst_changeIn (name : String) (change : List Record → List Record)
    (collections : List (String × List Record)) :
    (changeIn name change collections).map (·.1) = collections.map (·.1) := by
  induction collections with
  | nil => rfl
  | cons first rest ih =>
      obtain ⟨key, documents⟩ := first
      rw [changeIn]
      split
      · rfl
      · rw [List.map_cons, ih, List.map_cons]

theorem find?_changeIn_self (name : String) (change : List Record → List Record)
    (collections : List (String × List Record)) :
    ((changeIn name change collections).find? fun entry => entry.1 == name) =
      (collections.find? fun entry => entry.1 == name).map fun entry =>
        (entry.1, change entry.2) := by
  induction collections with
  | nil => rfl
  | cons first rest ih =>
      obtain ⟨key, documents⟩ := first
      by_cases hkey : key = name
      · simp [changeIn, hkey]
      · simp [changeIn, hkey, ih]

theorem find?_changeIn_of_ne (change : List Record → List Record) (h : other ≠ name)
    (collections : List (String × List Record)) :
    ((changeIn name change collections).find? fun entry => entry.1 == other) =
      collections.find? fun entry => entry.1 == other := by
  induction collections with
  | nil => rfl
  | cons first rest ih =>
      obtain ⟨key, documents⟩ := first
      by_cases hkey : key = name
      · subst hkey
        simp [changeIn, Ne.symm h]
      · by_cases hother : key = other
        · subst hother
          simp [changeIn, hkey]
        · simp [changeIn, hkey, hother, ih]

theorem names_change (m : DocumentMemory) (name : String) (f : List Record → List Record) :
    (m.change name f).names = m.names :=
  map_fst_changeIn name f m.collections

/-- A change that makes no documents out of none reaches exactly the documents of its collection. -/
theorem documents_change_self (m : DocumentMemory) (name : String) {f : List Record → List Record}
    (hnil : f [] = []) : (m.change name f).documents name = f (m.documents name) := by
  rw [documents, documents, collection?, collection?, change, find?_changeIn_self]
  cases m.collections.find? fun entry => entry.1 == name with
  | none => exact hnil.symm
  | some entry => rfl

theorem documents_change_of_mem (h : name ∈ m.names) (f : List Record → List Record) :
    (m.change name f).documents name = f (m.documents name) := by
  rw [documents, documents, collection?, collection?, change, find?_changeIn_self]
  cases hfind : m.collections.find? fun entry => entry.1 == name with
  | some entry => rfl
  | none =>
      obtain ⟨entry, hentry, rfl⟩ := List.mem_map.mp h
      exact absurd (beq_self_eq_true _) (List.find?_eq_none.mp hfind entry hentry)

theorem changeIn_congr {f g : List Record → List Record} {collections : List (String × List Record)}
    (h : ∀ entry, (collections.find? fun entry => entry.1 == name) = some entry →
      f entry.2 = g entry.2) :
    changeIn name f collections = changeIn name g collections := by
  induction collections with
  | nil => rfl
  | cons first rest ih =>
      obtain ⟨key, documents⟩ := first
      by_cases hkey : key = name
      · have hdocuments := h (key, documents) (by simp [hkey])
        rw [changeIn, changeIn, if_pos hkey, if_pos hkey, hdocuments]
      · rw [changeIn, changeIn, if_neg hkey, if_neg hkey, ih]
        intro entry hentry
        exact h entry (by simpa [hkey] using hentry)

theorem changeIn_id (name : String) (collections : List (String × List Record)) :
    changeIn name id collections = collections := by
  induction collections with
  | nil => rfl
  | cons first rest ih =>
      obtain ⟨key, documents⟩ := first
      rw [changeIn, ih]
      split <;> rfl

theorem change_congr {f g : List Record → List Record}
    (h : f (m.documents name) = g (m.documents name)) : m.change name f = m.change name g := by
  rw [change, change]
  congr 1
  apply changeIn_congr
  intro entry hentry
  rw [documents, collection?, hentry] at h
  exact h

theorem change_eq_self {f : List Record → List Record}
    (h : f (m.documents name) = m.documents name) : m.change name f = m := by
  rw [change_congr (g := id) h, change, changeIn_id]

theorem documents_change_of_ne (m : DocumentMemory) (f : List Record → List Record)
    (h : other ≠ name) : (m.change name f).documents other = m.documents other := by
  rw [documents, documents, collection?, collection?, change, find?_changeIn_of_ne f h]

/-! ### Reading everything -/

theorem sortDocuments_nil (documents : List Record) : sortDocuments [] documents = documents := by
  have hinsert : ∀ d sorted,
      insertBackwards (fun a b => orderByAll [] a b == .lt) d sorted = d :: sorted := by
    intro d sorted
    cases sorted <;> rfl
  simp [sortDocuments, hinsert]

theorem filter_matchesFilter_nil (documents : List Record) :
    (documents.filter fun d => Document.matchesFilter d []) = documents :=
  List.filter_eq_self.mpr fun _ _ => rfl

theorem map_project_nil (documents : List Record) : documents.map (project []) = documents :=
  List.map_id documents

theorem find_all (m : DocumentMemory) (name : String) : m.find (.all name) = m.documents name := by
  simp only [find, DocumentQuery.all, filter_matchesFilter_nil, sortDocuments_nil, map_project_nil,
    List.drop_zero, if_true]

theorem find_first (m : DocumentMemory) (name : String) (filter : Record) :
    m.find { DocumentQuery.all name with filter, limit := 1 } =
      ((m.documents name).filter fun d => Document.matchesFilter d filter).take 1 := by
  simp only [find, DocumentQuery.all, sortDocuments_nil, map_project_nil, List.drop_zero,
    Nat.one_ne_zero, if_false]

theorem mem_of_find_first {filter d : Record} {rest : List Record}
    (h : m.find { DocumentQuery.all name with filter, limit := 1 } = d :: rest) :
    d ∈ m.documents name ∧ Document.matchesFilter d filter = true := by
  rw [find_first] at h
  have hmem : d ∈ ((m.documents name).filter fun d => Document.matchesFilter d filter).take 1 := by
    rw [h]
    exact List.mem_cons_self
  exact List.mem_filter.mp (List.mem_of_mem_take hmem)

/-! ### Changing one document -/

/-- One memory comes from another by changing or removing at most one document of a collection, in
its place. -/
def Touches (m m' : DocumentMemory) (name : String) (P : Record → Option Record → Prop) : Prop :=
  m' = m ∨ ∃ left d right after, m.documents name = left ++ d :: right ∧ P d after ∧
    m' = m.change name fun _ => left ++ after.toList ++ right

theorem Touches.mono {m' : DocumentMemory} {P Q : Record → Option Record → Prop}
    (hPQ : ∀ d after, d ∈ m.documents name → P d after → Q d after) (h : Touches m m' name P) :
    Touches m m' name Q := by
  rcases h with hsame | ⟨left, d, right, after, hdocuments, hP, hchange⟩
  · exact .inl hsame
  · have hmem : d ∈ m.documents name := by simp [hdocuments]
    exact .inr ⟨left, d, right, after, hdocuments, hPQ d after hmem hP, hchange⟩

theorem eq_of_length_le_one {documents : List Record} {p : Record → Bool} {d d' : Record}
    (hlength : (documents.filter p).length ≤ 1) (hd : d ∈ documents) (hp : p d = true)
    (hd' : d' ∈ documents) (hp' : p d' = true) : d = d' := by
  have hmem : d ∈ documents.filter p := List.mem_filter.mpr ⟨hd, hp⟩
  have hmem' : d' ∈ documents.filter p := List.mem_filter.mpr ⟨hd', hp'⟩
  generalize documents.filter p = found at hlength hmem hmem'
  match found with
  | [] => cases hmem
  | [only] => rw [List.mem_singleton.mp hmem, List.mem_singleton.mp hmem']
  | _ :: _ :: _ => simp at hlength

theorem exists_first_match (filter : Record) (documents : List Record) :
    (∀ d ∈ documents, Document.matchesFilter d filter = false) ∨
      ∃ left d right, documents = left ++ d :: right ∧
        (∀ other ∈ left, Document.matchesFilter other filter = false) ∧
          Document.matchesFilter d filter = true := by
  induction documents with
  | nil => exact .inl (by simp)
  | cons first rest ih =>
      by_cases hfirst : Document.matchesFilter first filter = true
      · exact .inr ⟨[], first, rest, rfl, by simp, hfirst⟩
      have hfirst : Document.matchesFilter first filter = false := by simpa using hfirst
      rcases ih with hnone | ⟨left, d, right, rfl, hleft, hd⟩
      · left
        intro d hd
        rcases List.mem_cons.mp hd with rfl | hd
        · exact hfirst
        · exact hnone d hd
      · refine .inr ⟨first :: left, d, right, rfl, ?_, hd⟩
        intro other hother
        rcases List.mem_cons.mp hother with rfl | hother
        · exact hfirst
        · exact hleft other hother

theorem updateFirst_of_none {filter : Record} (set : Record) {documents : List Record}
    (h : ∀ d ∈ documents, Document.matchesFilter d filter = false) :
    updateFirst filter set documents = documents := by
  induction documents with
  | nil => rfl
  | cons first rest ih =>
      rw [updateFirst, h first List.mem_cons_self, ih fun d hd => h d (List.mem_cons_of_mem first hd)]
      rfl

theorem deleteFirst_of_none {filter : Record} {documents : List Record}
    (h : ∀ d ∈ documents, Document.matchesFilter d filter = false) :
    deleteFirst filter documents = documents := by
  induction documents with
  | nil => rfl
  | cons first rest ih =>
      rw [deleteFirst, h first List.mem_cons_self, ih fun d hd => h d (List.mem_cons_of_mem first hd)]
      rfl

section FirstMatch

variable {filter d : Record} {left : List Record}
  (hleft : ∀ other ∈ left, Document.matchesFilter other filter = false)
  (hd : Document.matchesFilter d filter = true) (right : List Record)

include hleft hd

theorem updateFirst_append (set : Record) :
    updateFirst filter set (left ++ d :: right) = left ++ setFields d set :: right := by
  induction left with
  | nil => simp [updateFirst, hd]
  | cons first rest ih =>
      have hrest := ih fun other hother => hleft other (List.mem_cons_of_mem first hother)
      rw [List.cons_append, updateFirst, hleft first List.mem_cons_self, hrest]
      rfl

theorem deleteFirst_append : deleteFirst filter (left ++ d :: right) = left ++ right := by
  induction left with
  | nil => simp [deleteFirst, hd]
  | cons first rest ih =>
      have hrest := ih fun other hother => hleft other (List.mem_cons_of_mem first hother)
      rw [List.cons_append, deleteFirst, hleft first List.mem_cons_self, hrest]
      rfl

end FirstMatch

theorem touches_updateFirst (m : DocumentMemory) (name : String) (filter set : Record) :
    Touches m (m.change name (updateFirst filter set)) name fun d after =>
      Document.matchesFilter d filter = true ∧ after = some (setFields d set) := by
  rcases exists_first_match filter (m.documents name) with
    hnone | ⟨left, d, right, hdocuments, hleft, hd⟩
  · exact .inl (change_eq_self (updateFirst_of_none set hnone))
  · refine .inr ⟨left, d, right, some (setFields d set), hdocuments, ⟨hd, rfl⟩, ?_⟩
    apply change_congr
    rw [hdocuments, updateFirst_append hleft hd]
    simp

theorem touches_deleteFirst (m : DocumentMemory) (name : String) (filter : Record) :
    Touches m (m.change name (deleteFirst filter)) name fun d after =>
      Document.matchesFilter d filter = true ∧ after = none := by
  rcases exists_first_match filter (m.documents name) with
    hnone | ⟨left, d, right, hdocuments, hleft, hd⟩
  · exact .inl (change_eq_self (deleteFirst_of_none hnone))
  · refine .inr ⟨left, d, right, none, hdocuments, ⟨hd, rfl⟩, ?_⟩
    apply change_congr
    rw [hdocuments, deleteFirst_append hleft hd]
    simp

theorem get?_setFields {name : String} {set : Record} (h : ∀ entry ∈ set, entry.1 ≠ name)
    (d : Record) : (setFields d set).get? name = d.get? name := by
  induction set generalizing d with
  | nil => rfl
  | cons first rest ih =>
      have hfirst : (d.insert first.1 first.2).get? name = d.get? name :=
        Record.get?_insert_of_ne (h first List.mem_cons_self).symm
      rw [setFields, List.foldl_cons]
      exact (ih (fun entry hentry => h entry (List.mem_cons_of_mem first hentry)) _).trans hfirst

/-! ### The part that a filter shows -/

/-- The memory with one collection cut down to the documents that match a filter. -/
def visiblePart (m : DocumentMemory) (name : String) (visible : Record) : DocumentMemory :=
  m.change name fun documents => documents.filter fun d => Document.matchesFilter d visible

variable {visible : Record}

theorem names_visiblePart (m : DocumentMemory) (name : String) (visible : Record) :
    (m.visiblePart name visible).names = m.names :=
  names_change m name _

theorem documents_visiblePart_self (m : DocumentMemory) (name : String) (visible : Record) :
    (m.visiblePart name visible).documents name =
      (m.documents name).filter fun d => Document.matchesFilter d visible :=
  documents_change_self m name rfl

theorem documents_visiblePart_of_ne (h : other ≠ name) :
    (m.visiblePart name visible).documents other = m.documents other :=
  documents_change_of_ne m _ h

variable {narrowed filter : Record}

/-- What a narrowed filter lets through is what the filter lets through of the visible part. -/
theorem filter_documents_visiblePart
    (hnarrowed : ∀ d, Document.matchesFilter d narrowed =
      (Document.matchesFilter d filter && Document.matchesFilter d visible)) :
    ((m.visiblePart name visible).documents name).filter (fun d => Document.matchesFilter d filter) =
      (m.documents name).filter fun d => Document.matchesFilter d narrowed := by
  rw [documents_visiblePart_self, List.filter_filter]
  exact congrArg (fun p => (m.documents name).filter p) (funext fun d => (hnarrowed d).symm)

theorem find_visiblePart {q q' : DocumentQuery} (hcollection : q'.collection = name)
    (hq : q = { q' with filter := q.filter })
    (hnarrowed : ∀ d, Document.matchesFilter d q.filter =
      (Document.matchesFilter d q'.filter && Document.matchesFilter d visible)) :
    m.find q = (m.visiblePart name visible).find q' := by
  subst hcollection
  rw [find, find, filter_documents_visiblePart hnarrowed, hq]

theorem find_visiblePart_of_ne {q : DocumentQuery} (h : q.collection ≠ name) :
    m.find q = (m.visiblePart name visible).find q := by
  rw [find, find, documents_visiblePart_of_ne h]

theorem count_visiblePart
    (hnarrowed : ∀ d, Document.matchesFilter d narrowed =
      (Document.matchesFilter d filter && Document.matchesFilter d visible)) :
    m.count name narrowed = (m.visiblePart name visible).count name filter := by
  rw [count, count, filter_documents_visiblePart hnarrowed]

/-! ### An example -/

/-- Two accounts, the first of which is not the one user's own. -/
def accounts : DocumentMemory :=
  ⟨[("accounts", [[("_id", .string "a1"), ("owner", .string "u2")],
    [("_id", .string "a2"), ("owner", .string "u1")]])], 0⟩

end DocumentMemory

end DataAccess
