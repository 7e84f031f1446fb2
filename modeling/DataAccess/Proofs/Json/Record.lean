import DataAccess.Json.Basic

/-!
# Fields of records

What a name stands for after a field is set or erased, or after what is made of the values. Records
whose names are sorted are the same as soon as every name stands for the same in both.
-/

namespace DataAccess

namespace Record

variable {record : Record} {name other : String} {value : Json}

theorem get?_cons (key : String) (value : Json) (rest : Record) (name : String) :
    Record.get? ((key, value) :: rest) name = if key = name then some value else rest.get? name := by
  by_cases h : key = name
  · simp [Record.get?, Json.field?, h]
  · simp [Record.get?, Json.field?, h]

theorem get?_insert_self (record : Record) (name : String) (value : Json) :
    (record.insert name value).get? name = some value := by
  induction record with
  | nil => simp [Record.insert, get?_cons]
  | cons entry rest ih =>
      obtain ⟨key, old⟩ := entry
      by_cases hlt : name < key
      · simp [Record.insert, hlt, get?_cons]
      by_cases heq : name = key
      · simp [Record.insert, heq, get?_cons]
      · simp [Record.insert, hlt, heq, Ne.symm heq, get?_cons, ih]

theorem get?_insert_of_ne (h : other ≠ name) :
    (record.insert name value).get? other = record.get? other := by
  induction record with
  | nil => simp [Record.insert, get?_cons, Ne.symm h]
  | cons entry rest ih =>
      obtain ⟨key, old⟩ := entry
      by_cases hlt : name < key
      · simp [Record.insert, hlt, get?_cons, Ne.symm h]
      by_cases heq : name = key
      · subst heq
        simp [Record.insert, get?_cons, Ne.symm h]
      · simp [Record.insert, hlt, heq, get?_cons, ih]

theorem get?_erase_self (record : Record) (name : String) : (record.erase name).get? name = none := by
  simp [Record.get?, Json.field?, Record.erase]

theorem get?_erase_of_ne (h : other ≠ name) : (record.erase name).get? other = record.get? other := by
  induction record with
  | nil => rfl
  | cons entry rest ih =>
      obtain ⟨key, old⟩ := entry
      rw [erase] at ih
      rw [erase, List.filter_cons, get?_cons]
      by_cases hkey : key = name
      · simpa [hkey, Ne.symm h] using ih
      · simp [hkey, get?_cons, ih]

theorem ne_of_mem_erase {entry : String × Json} (h : entry ∈ record.erase name) :
    entry ∈ record ∧ entry.1 ≠ name := by
  simpa [Record.erase] using h

theorem get?_insert (record : Record) (name : String) (value : Json) (other : String) :
    (record.insert name value).get? other =
      if other = name then some value else record.get? other := by
  by_cases h : other = name
  · rw [if_pos h, h, get?_insert_self]
  · rw [if_neg h, get?_insert_of_ne h]

theorem get?_eq_none_iff : record.get? name = none ↔ name ∉ record.keys := by
  induction record with
  | nil => simp [get?, Json.field?, keys]
  | cons entry rest ih =>
      obtain ⟨key, old⟩ := entry
      by_cases hkey : key = name
      · simp [get?_cons, keys, hkey]
      · rw [get?_cons, if_neg hkey, ih]
        simp [keys, Ne.symm hkey]

theorem mem_keys_insert :
    other ∈ (record.insert name value).keys ↔ other = name ∨ other ∈ record.keys := by
  induction record with
  | nil => simp [insert, keys]
  | cons entry rest ih =>
      obtain ⟨key, old⟩ := entry
      simp only [keys] at ih
      rw [insert]
      split
      · simp [keys]
      split
      next heq => simp [keys, heq]
      next => simp [keys, ih, or_left_comm]

/-- What is made of each value of a record with regard to its name. -/
theorem get?_map (f : String → Json → Json) (record : Record) (name : String) :
    Record.get? (record.map fun (key, value) => (key, f key value)) name =
      (record.get? name).map (f name) := by
  induction record with
  | nil => rfl
  | cons entry rest ih =>
      obtain ⟨key, value⟩ := entry
      rw [List.map_cons, get?_cons, get?_cons, ih]
      by_cases hkey : key = name
      · rw [if_pos hkey, if_pos hkey, hkey, Option.map_some]
      · rw [if_neg hkey, if_neg hkey]

theorem keys_map (f : String → Json → Json) (record : Record) :
    Record.keys (record.map fun (key, value) => (key, f key value)) = record.keys := by
  rw [keys, List.map_map]
  rfl

/-! ### Sorted records -/

instance (record : Record) : Decidable record.Sorted :=
  inferInstanceAs (Decidable (record.keys.Pairwise (· < ·)))

theorem sorted_cons {rest : Record} :
    Sorted ((name, value) :: rest) ↔ (∀ other ∈ rest.keys, name < other) ∧ rest.Sorted :=
  List.pairwise_cons

theorem Sorted.insert (h : record.Sorted) (name : String) (value : Json) :
    (record.insert name value).Sorted := by
  induction record with
  | nil => exact List.pairwise_singleton _ _
  | cons entry rest ih =>
      obtain ⟨key, old⟩ := entry
      obtain ⟨hkey, hrest⟩ := sorted_cons.mp h
      rw [Record.insert]
      split
      next hlt =>
        refine sorted_cons.mpr ⟨?_, h⟩
        intro other hother
        rcases List.mem_cons.mp hother with rfl | hother
        · exact hlt
        · exact String.lt_trans hlt (hkey other hother)
      next hle =>
        split
        next heq =>
          subst heq
          exact sorted_cons.mpr ⟨hkey, hrest⟩
        next hne =>
          refine sorted_cons.mpr ⟨?_, ih hrest⟩
          intro other hother
          rcases mem_keys_insert.mp hother with rfl | hother
          · exact Std.lt_of_le_of_ne hle (Ne.symm hne)
          · exact hkey other hother

theorem Sorted.nodup (h : record.Sorted) : record.keys.Nodup := by
  rw [List.nodup_iff_pairwise_ne]
  refine List.Pairwise.imp ?_ h
  rintro name _ hlt rfl
  exact String.lt_irrefl name hlt

theorem get?_of_lt_keys (h : ∀ other ∈ record.keys, name < other) : record.get? name = none :=
  get?_eq_none_iff.mpr fun hmem => String.lt_irrefl name (h name hmem)

/-- A sorted record is made of what its names stand for. -/
theorem Sorted.ext {a b : Record} (ha : a.Sorted) (hb : b.Sorted)
    (h : ∀ name, a.get? name = b.get? name) : a = b := by
  -- The first name of neither record comes before the first name of the other.
  have hfirst : ∀ {x y : String} {v w : Json} {left right : Record},
      (∀ other ∈ right.keys, y < other) →
      Record.get? ((x, v) :: left) x = Record.get? ((y, w) :: right) x → ¬x < y := by
    intro x y v w left right hright hget hlt
    have hne : y ≠ x := fun heq => String.lt_irrefl x (heq ▸ hlt)
    rw [get?_cons, if_pos rfl, get?_cons, if_neg hne, get?_of_lt_keys] at hget
    · cases hget
    · exact fun other hother => String.lt_trans hlt (hright other hother)
  induction a generalizing b with
  | nil =>
    cases b with
    | nil => rfl
    | cons entry rest =>
        have hname := h entry.1
        simp [get?, Json.field?] at hname
  | cons entry rest ih =>
    obtain ⟨key, value⟩ := entry
    obtain ⟨hkey, hrest⟩ := sorted_cons.mp ha
    cases b with
    | nil =>
        have hname := h key
        simp [get?, Json.field?] at hname
    | cons entry' rest' =>
        obtain ⟨key', value'⟩ := entry'
        obtain ⟨hkey', hrest'⟩ := sorted_cons.mp hb
        obtain rfl : key = key' :=
          String.le_antisymm (hfirst hkey (h key').symm) (hfirst hkey' (h key))
        have hvalue := h key
        rw [get?_cons, if_pos rfl, get?_cons, if_pos rfl] at hvalue
        obtain rfl := Option.some.inj hvalue
        have htail : rest = rest' := by
          refine ih hrest hrest' fun name => ?_
          by_cases hname : key = name
          · subst hname
            rw [get?_of_lt_keys hkey, get?_of_lt_keys hkey']
          · have hother := h name
            rwa [get?_cons, if_neg hname, get?_cons, if_neg hname] at hother
        rw [htail]

/-! ### Records of given fields -/

/-- Sets fields one after the other. -/
def setAll (record : Record) (fields : List (String × Json)) : Record :=
  fields.foldl (fun record entry => record.insert entry.1 entry.2) record

theorem Sorted.setAll (h : record.Sorted) (fields : List (String × Json)) :
    (record.setAll fields).Sorted := by
  induction fields generalizing record with
  | nil => exact h
  | cons first rest ih => exact ih (h.insert first.1 first.2)

theorem mem_keys_setAll {fields : Record} :
    name ∈ (record.setAll fields).keys ↔ name ∈ fields.keys ∨ name ∈ record.keys := by
  induction fields generalizing record with
  | nil => simp [setAll, keys]
  | cons first rest ih =>
      have hkeys : name ∈ keys (first :: rest) ↔ name = first.1 ∨ name ∈ keys rest :=
        List.mem_cons
      rw [setAll, List.foldl_cons, ← setAll, ih, mem_keys_insert, hkeys, or_assoc, or_left_comm]

theorem get?_setAll {fields : Record} (h : fields.keys.Nodup) (record : Record) (name : String) :
    (record.setAll fields).get? name = (fields.get? name).or (record.get? name) := by
  induction fields generalizing record with
  | nil => rfl
  | cons first rest ih =>
      obtain ⟨key, value⟩ := first
      obtain ⟨hkey, hrest⟩ := List.nodup_cons.mp h
      rw [setAll, List.foldl_cons, ← setAll, ih hrest, get?_insert, get?_cons]
      by_cases hname : name = key
      · rw [if_pos hname, if_pos hname.symm, hname, get?_eq_none_iff.mpr hkey]
        rfl
      · rw [if_neg hname, if_neg (Ne.symm hname)]

/-- Of fields with one name the last counts. -/
theorem get?_setAll_reverse (record : Record) (fields : List (String × Json)) (name : String) :
    (record.setAll fields).get? name =
      (Record.get? fields.reverse name).or (record.get? name) := by
  rw [setAll, List.foldl_eq_foldr_reverse]
  induction fields.reverse with
  | nil => rfl
  | cons last rest ih =>
      rw [List.foldr_cons, get?_insert, ih, get?_cons]
      by_cases hname : name = last.1
      · rw [if_pos hname, if_pos hname.symm, Option.some_or]
      · rw [if_neg hname, if_neg (Ne.symm hname)]

theorem get?_map_of_mem {α : Type} {items : List α} {name : α → String}
    (h : (items.map name).Nodup) (f : α → Json) {a : α} (ha : a ∈ items) :
    Record.get? (items.map fun a => (name a, f a)) (name a) = some (f a) := by
  induction items with
  | nil => cases ha
  | cons first rest ih =>
      obtain ⟨hfirst, hrest⟩ := List.nodup_cons.mp h
      rw [List.map_cons, get?_cons]
      rcases List.mem_cons.mp ha with rfl | hmem
      · rw [if_pos rfl]
      · rw [if_neg, ih hrest hmem]
        intro heq
        exact hfirst (List.mem_map.mpr ⟨a, hmem, heq.symm⟩)

/-- Records that the same distinct names were set in differ where a value that was set does. -/
theorem setAll_map_inj {α : Type} {items : List α} {name : α → String}
    (h : (items.map name).Nodup) (record : Record) (f g : α → Json) :
    record.setAll (items.map fun a => (name a, f a)) =
        record.setAll (items.map fun a => (name a, g a)) ↔
      ∀ a ∈ items, f a = g a := by
  have hget : ∀ (f : α → Json), ∀ a ∈ items,
      (record.setAll (items.map fun a => (name a, f a))).get? (name a) = some (f a) := by
    intro f a ha
    have hkeys : Record.keys (items.map fun a => (name a, f a)) = items.map name := by
      rw [keys, List.map_map]
      rfl
    rw [get?_setAll (hkeys ▸ h), get?_map_of_mem h f ha, Option.some_or]
  constructor
  · intro heq a ha
    have hvalue := congrArg (Record.get? · (name a)) heq
    simp only [hget f a ha, hget g a ha] at hvalue
    exact Option.some.inj hvalue
  · intro hvalues
    rw [List.map_congr_left fun a ha => by rw [hvalues a ha]]

theorem sorted_nil : Sorted [] := List.Pairwise.nil

theorem sorted_ofFields (fields : List (String × Json)) : (ofFields fields).Sorted :=
  sorted_nil.setAll fields

theorem get?_ofFields {fields : Record} (h : fields.keys.Nodup) (name : String) :
    (ofFields fields).get? name = fields.get? name := by
  have hset := get?_setAll h [] name
  rwa [show Record.get? [] name = none from rfl, Option.or_none] at hset

/-- A sorted record is made of its own fields. -/
theorem Sorted.ofFields_eq {fields : Record} (h : fields.Sorted) : ofFields fields = fields :=
  (sorted_ofFields fields).ext h (get?_ofFields h.nodup)

end Record

end DataAccess
