import DataAccess.Proofs.Text.Split
import DataAccess.Query.Find

/-!
# References with a dot

A dotted reference is its table, a dot and its column. It is cut at the first dot, so a table that is
referred to has none in its name, and a column may. It leads to the request for the relation to its
table.
-/

namespace DataAccess

theorem splitReference?_eq_none_iff {reference : String} :
    splitReference? reference = none ↔ isRelationReference reference = false := by
  rw [splitReference?, Text.splitOnce, Option.map_eq_none_iff, Text.splitOnceChars_eq_none_iff,
    isRelationReference, List.contains_eq_mem, decide_eq_false_iff_not]

theorem splitReference?_eq_some_iff {reference table column : String} :
    splitReference? reference = some (table, column) ↔
      reference = table ++ "." ++ column ∧ isRelationReference table = false := by
  have hundotted : ∀ s : String, isRelationReference s = false ↔ '.' ∉ s.toList := by
    intro s
    rw [isRelationReference, List.contains_eq_mem, decide_eq_false_iff_not]
  rw [splitReference?, Text.splitOnce, hundotted]
  constructor
  · intro h
    obtain ⟨⟨before, after⟩, hsplit, hparts⟩ := Option.map_eq_some_iff.mp h
    obtain ⟨rfl, rfl⟩ := Prod.mk.inj hparts
    obtain ⟨happend, hbefore⟩ := Text.eq_append_of_splitOnceChars hsplit
    refine ⟨String.toList_inj.mp ?_, by rwa [String.toList_ofList]⟩
    simp [happend]
  · rintro ⟨rfl, htable⟩
    have hchars : (table ++ "." ++ column).toList = table.toList ++ '.' :: column.toList := by simp
    rw [hchars, Text.splitOnceChars_append htable]
    simp

theorem splitReference?_append {table : String} (h : isRelationReference table = false)
    (column : String) : splitReference? (table ++ "." ++ column) = some (table, column) :=
  splitReference?_eq_some_iff.mpr ⟨rfl, h⟩

/-- What goes by a name that nothing else goes by is known by it. -/
theorem eq_of_nodup_map {α β : Type} {name : α → β} {l : List α} (h : (l.map name).Nodup) {a b : α}
    (ha : a ∈ l) (hb : b ∈ l) (heq : name a = name b) : a = b := by
  induction l with
  | nil => cases ha
  | cons first rest ih =>
      obtain ⟨hfirst, hrest⟩ := List.nodup_cons.mp h
      rcases List.mem_cons.mp ha with rfl | hmem
      · rcases List.mem_cons.mp hb with rfl | hother
        · rfl
        · exact absurd (heq ▸ List.mem_map_of_mem hother) hfirst
      · rcases List.mem_cons.mp hb with rfl | hother
        · exact absurd (heq ▸ List.mem_map_of_mem hmem) hfirst
        · exact ih hrest hmem hother

/-- Different columns have different names under their table. -/
theorem nodup_map_dotted {names : List String} (h : names.Nodup) (table : String) :
    (names.map (table ++ "." ++ ·)).Nodup := by
  rw [List.nodup_iff_pairwise_ne, List.pairwise_map]
  rw [List.nodup_iff_pairwise_ne] at h
  refine h.imp fun hne heq => hne ?_
  have hchars := congrArg String.toList heq
  simpa [String.toList_inj] using hchars

theorem Schema.column?_eq_some {s : Schema} {field : String} {c : Column}
    (h : s.column? field = some c) : c ∈ s.columns ∧ c.field = field := by
  have hname := List.find?_some h
  exact ⟨List.mem_of_find?_eq_some h, beq_iff_eq.mp hname⟩

/-- A column whose name is asked for is among those that are selected. -/
theorem Schema.mem_select_of_column? {s : Schema} {fields : List String} {field : String} {c : Column}
    (hcolumn : s.column? field = some c) (hfield : fields = [] ∨ field ∈ fields) :
    c ∈ s.select fields := by
  rw [select]
  split
  next _ => exact (column?_eq_some hcolumn).1
  next hsome =>
    rcases hfield with rfl | hfield
    · exact absurd rfl hsome
    · exact List.mem_filterMap.mpr ⟨field, hfield, hcolumn⟩

namespace FindOptions

variable {o : FindOptions}

theorem request?_eq_some {table : String} {r : RelationRequest} (h : o.request? table = some r) :
    r ∈ o.relations ∧ r.table = table := by
  have hname := List.find?_some h
  exact ⟨List.mem_of_find?_eq_some h, beq_iff_eq.mp hname⟩

theorem request?_of_mem (h : (o.relations.map (·.table)).Nodup)
    {r : RelationRequest} (hr : r ∈ o.relations) : o.request? r.table = some r := by
  cases hfound : o.request? r.table with
  | none =>
      rw [request?, List.find?_eq_none] at hfound
      exact absurd (beq_self_eq_true _) (hfound r hr)
  | some q =>
      obtain ⟨hq, htable⟩ := request?_eq_some hfound
      rw [eq_of_nodup_map h hq hr htable]

theorem exists_request_of_column? {reference table name : String} {column : Column}
    (hsplit : splitReference? reference = some (table, name))
    (h : o.column? reference = some column) : ∃ r, o.request? table = some r := by
  rw [column?, hsplit] at h
  obtain ⟨r, hr, -⟩ := Option.bind_eq_some_iff.mp h
  exact ⟨r, hr⟩

end FindOptions

end DataAccess
