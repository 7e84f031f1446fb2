/-!
# Results that may be errors
-/

namespace DataAccess

variable {ε α β : Type}

theorem exists_of_bind_eq_ok {x : Except ε α} {f : α → Except ε β} {b : β} (h : x >>= f = .ok b) :
    ∃ a, x = .ok a ∧ f a = .ok b := by
  cases x with
  | error e => cases h
  | ok a => exact ⟨a, rfl, h⟩

theorem exists_of_map_eq_ok {x : Except ε α} {f : α → β} {b : β} (h : x.map f = .ok b) :
    ∃ a, x = .ok a ∧ f a = b := by
  cases x with
  | error e => cases h
  | ok a => exact ⟨a, rfl, Except.ok.inj h⟩

theorem exists_map_iff {x : Except ε α} {f : α → β} :
    (∃ b, x.map f = .ok b) ↔ ∃ a, x = .ok a := by
  constructor
  · rintro ⟨b, hb⟩
    obtain ⟨a, ha, -⟩ := exists_of_map_eq_ok hb
    exact ⟨a, ha⟩
  · rintro ⟨a, rfl⟩
    exact ⟨f a, rfl⟩

/-- What is made of two results is the same in some respect if they are, and if it goes by that. -/
theorem map_map_congr {γ δ : Type} {x y : Except ε α} {k : α → γ} {f : α → β} {h : β → δ}
    (hxy : x.map k = y.map k) (hf : ∀ a b, k a = k b → h (f a) = h (f b)) :
    (x.map f).map h = (y.map f).map h := by
  cases x with
  | error e =>
      cases y with
      | error e' => exact congrArg Except.error (Except.error.inj hxy)
      | ok b => cases hxy
  | ok a =>
      cases y with
      | error e' => cases hxy
      | ok b => exact congrArg Except.ok (hf a b (Except.ok.inj hxy))

theorem eq_ok_of_toOption_eq_some {x : Except ε α} {a : α} (h : x.toOption = some a) : x = .ok a := by
  cases x with
  | error e => cases h
  | ok b => exact congrArg Except.ok (Option.some.inj h)

/-- What the results of a list share with what they were made of. -/
theorem map_eq_of_mapM_eq_ok {γ : Type} {f : α → Except ε β} {g : α → γ} {k : β → γ} {l : List α}
    (hf : ∀ a ∈ l, ∀ b, f a = .ok b → k b = g a) {l' : List β} (h : l.mapM f = .ok l') :
    l'.map k = l.map g := by
  induction l generalizing l' with
  | nil =>
      obtain rfl := Except.ok.inj h
      rfl
  | cons first rest ih =>
      obtain ⟨hfirst, hmore⟩ := List.forall_mem_cons.mp hf
      rw [List.mapM_cons] at h
      obtain ⟨b, hb, h⟩ := exists_of_bind_eq_ok h
      obtain ⟨others, hothers, h⟩ := exists_of_bind_eq_ok h
      obtain rfl := Except.ok.inj h
      rw [List.map_cons, List.map_cons, hfirst b hb, ih hmore hothers]

theorem mapM_congr {f g : α → Except ε β} {l : List α} (h : ∀ a ∈ l, f a = g a) :
    l.mapM f = l.mapM g := by
  induction l with
  | nil => rfl
  | cons first rest ih =>
      obtain ⟨hfirst, hrest⟩ := List.forall_mem_cons.mp h
      rw [List.mapM_cons, List.mapM_cons, hfirst, ih hrest]

/-- What is made of a list is read from each of its items, if each can be. -/
theorem mapM_map_eq_ok {γ : Type} {f : β → Except ε γ} {g : α → β} {k : α → γ} {l : List α}
    (h : ∀ a ∈ l, f (g a) = .ok (k a)) : (l.map g).mapM f = .ok (l.map k) := by
  induction l with
  | nil => rfl
  | cons first rest ih =>
      obtain ⟨hfirst, hrest⟩ := List.forall_mem_cons.mp h
      rw [List.map_cons, List.mapM_cons, hfirst, ih hrest]
      rfl

theorem exists_of_mem_mapM {f : α → Except ε β} {l : List α} {l' : List β}
    (h : l.mapM f = .ok l') {b : β} (hb : b ∈ l') : ∃ a ∈ l, f a = .ok b := by
  induction l generalizing l' with
  | nil =>
      obtain rfl := Except.ok.inj h
      cases hb
  | cons first rest ih =>
      rw [List.mapM_cons] at h
      obtain ⟨head, hhead, h⟩ := exists_of_bind_eq_ok h
      obtain ⟨others, hothers, h⟩ := exists_of_bind_eq_ok h
      obtain rfl := Except.ok.inj h
      rcases List.mem_cons.mp hb with rfl | hb
      · exact ⟨first, List.mem_cons_self, hhead⟩
      · obtain ⟨a, ha, hfound⟩ := ih hothers hb
        exact ⟨a, List.mem_cons_of_mem first ha, hfound⟩

theorem exists_mem_of_mapM {f : α → Except ε β} {l : List α} {l' : List β}
    (h : l.mapM f = .ok l') {a : α} (ha : a ∈ l) : ∃ b ∈ l', f a = .ok b := by
  induction l generalizing l' with
  | nil => cases ha
  | cons first rest ih =>
      rw [List.mapM_cons] at h
      obtain ⟨head, hhead, h⟩ := exists_of_bind_eq_ok h
      obtain ⟨others, hothers, h⟩ := exists_of_bind_eq_ok h
      obtain rfl := Except.ok.inj h
      rcases List.mem_cons.mp ha with rfl | ha
      · exact ⟨head, List.mem_cons_self, hhead⟩
      · obtain ⟨b, hb, hfound⟩ := ih hothers ha
        exact ⟨b, List.mem_cons_of_mem head hb, hfound⟩

theorem exists_mapM_eq_ok {f : α → Except ε β} {l : List α} (h : ∀ a ∈ l, ∃ b, f a = .ok b) :
    ∃ l', l.mapM f = .ok l' := by
  induction l with
  | nil => exact ⟨[], rfl⟩
  | cons first rest ih =>
      obtain ⟨⟨b, hb⟩, hrest⟩ := List.forall_mem_cons.mp h
      obtain ⟨others, hothers⟩ := ih hrest
      refine ⟨b :: others, ?_⟩
      rw [List.mapM_cons, hb, hothers]
      rfl

theorem exists_mapM_iff {f : α → Except ε β} {l : List α} :
    (∃ l', l.mapM f = .ok l') ↔ ∀ a ∈ l, ∃ b, f a = .ok b := by
  refine ⟨?_, exists_mapM_eq_ok⟩
  rintro ⟨l', h⟩ a ha
  obtain ⟨b, -, hb⟩ := exists_mem_of_mapM h ha
  exact ⟨b, hb⟩

theorem forM_eq_ok_iff {f : α → Except ε Unit} {l : List α} :
    l.forM f = .ok () ↔ ∀ x ∈ l, f x = .ok () := by
  induction l with
  | nil => exact ⟨fun _ => nofun, fun _ => rfl⟩
  | cons first rest ih =>
      rw [List.forM_eq_forM] at ih
      rw [List.forM_eq_forM, List.forM_cons, List.forall_mem_cons, ← ih]
      cases f first with
      | error error => exact ⟨nofun, nofun⟩
      | ok value => exact ⟨fun h => ⟨rfl, h⟩, fun h => h.2⟩

end DataAccess
