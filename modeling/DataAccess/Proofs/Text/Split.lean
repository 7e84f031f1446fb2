import DataAccess.Text.Split

/-!
# Texts that are cut

Cutting a text at a separator undoes joining, as long as the pieces have no separator in them. A cut at
the first separator asks that of the piece before it, and a cut at the last one of the piece behind it.
-/

namespace DataAccess

namespace Text

/-! ### Joined pieces -/

theorem join_singleton (separator part : String) : join separator [part] = part :=
  String.intercalate_singleton

theorem toList_join_cons_cons (separator first second : String) (parts : List String) :
    (join separator (first :: second :: parts)).toList =
      first.toList ++ (separator.toList ++ (join separator (second :: parts)).toList) := by
  rw [join, String.intercalate_cons_cons, String.toList_append, String.toList_append,
    List.append_assoc]
  rfl

theorem infix_join (separator : String) {part : String} {parts : List String} (h : part ∈ parts) :
    part.toList <:+: (join separator parts).toList := by
  induction parts with
  | nil => cases h
  | cons first parts ih =>
      cases parts with
      | nil =>
          obtain rfl := List.mem_singleton.mp h
          refine ⟨[], [], ?_⟩
          rw [join_singleton, List.nil_append, List.append_nil]
      | cons second parts =>
          rw [toList_join_cons_cons]
          rcases List.mem_cons.mp h with rfl | h
          · exact (List.prefix_append _ _).isInfix
          · exact (ih h).trans ((List.suffix_append _ _).trans (List.suffix_append _ _)).isInfix

/-! ### One cut -/

theorem splitOnceChars_eq_none_iff {separator : Char} {s : List Char} :
    splitOnceChars separator s = none ↔ separator ∉ s := by
  induction s with
  | nil => simp [splitOnceChars]
  | cons c rest ih =>
      rw [splitOnceChars]
      split
      next heq => simp [heq]
      next hne => simp [ih, Ne.symm hne]

theorem splitOnceChars_append {separator : Char} {before : List Char} (h : separator ∉ before)
    (after : List Char) :
    splitOnceChars separator (before ++ separator :: after) = some (before, after) := by
  induction before with
  | nil => simp [splitOnceChars]
  | cons c rest ih =>
      rw [List.mem_cons, not_or] at h
      rw [List.cons_append, splitOnceChars, if_neg (Ne.symm h.1), ih h.2]
      rfl

theorem eq_append_of_splitOnceChars {separator : Char} {s before after : List Char}
    (h : splitOnceChars separator s = some (before, after)) :
    s = before ++ separator :: after ∧ separator ∉ before := by
  induction s generalizing before with
  | nil => cases h
  | cons c rest ih =>
      rw [splitOnceChars] at h
      split at h
      next heq =>
        obtain ⟨rfl, rfl⟩ := Prod.mk.inj (Option.some.inj h)
        exact ⟨by rw [heq, List.nil_append], by simp⟩
      next hne =>
        obtain ⟨⟨start, finish⟩, hrest, hsplit⟩ := Option.map_eq_some_iff.mp h
        obtain ⟨rfl, rfl⟩ := Prod.mk.inj hsplit
        obtain ⟨rfl, hstart⟩ := ih hrest
        exact ⟨rfl, by simp [hstart, Ne.symm hne]⟩

variable {separator : Char}

theorem splitOnce_of_toList {s before after : String}
    (hs : s.toList = before.toList ++ separator :: after.toList) (h : separator ∉ before.toList) :
    splitOnce separator s = some (before, after) := by
  rw [splitOnce, hs, splitOnceChars_append h]
  simp

theorem splitLast_of_toList {s before after : String}
    (hs : s.toList = before.toList ++ separator :: after.toList) (h : separator ∉ after.toList) :
    splitLast separator s = some (before, after) := by
  have hreverse : s.toList.reverse = after.toList.reverse ++ separator :: before.toList.reverse := by
    simp [hs]
  rw [splitLast, splitLastChars, hreverse,
    splitOnceChars_append (fun hmem => h (List.mem_reverse.mp hmem))]
  simp

theorem splitLast_of_not_mem {s : String} (h : separator ∉ s.toList) :
    splitLast separator s = none := by
  have hreverse : separator ∉ s.toList.reverse := fun hmem => h (List.mem_reverse.mp hmem)
  rw [splitLast, splitLastChars, splitOnceChars_eq_none_iff.mpr hreverse]
  rfl

theorem dropStart?_append (start s : List Char) : dropStart? start (start ++ s) = some s := by
  induction start with
  | nil => rfl
  | cons c start ih => rw [List.cons_append, dropStart?, if_pos rfl, ih]

/-- A text is cut at its first occurrence of another if that begins with a character not seen before. -/
theorem splitAtText_append {c : Char} {before : List Char} (h : c ∉ before) (middle after : List Char) :
    splitAtText (c :: middle) (before ++ (c :: middle ++ after)) = some (before, after) := by
  induction before with
  | nil =>
      rw [List.nil_append, List.cons_append, splitAtText, ← List.cons_append, dropStart?_append]
  | cons d before ih =>
      rw [List.mem_cons, not_or] at h
      rw [List.cons_append, splitAtText, dropStart?, if_neg h.1]
      dsimp only
      rw [ih h.2, Option.map_some]

/-! ### Every cut -/

theorem splitChars_of_not_mem {piece : List Char} (h : separator ∉ piece) :
    splitChars separator piece = [piece] := by
  induction piece with
  | nil => rfl
  | cons c rest ih =>
      rw [List.mem_cons, not_or] at h
      rw [splitChars, if_neg (Ne.symm h.1), ih h.2]

theorem splitChars_append {piece : List Char} (h : separator ∉ piece) (rest : List Char) :
    splitChars separator (piece ++ separator :: rest) = piece :: splitChars separator rest := by
  induction piece with
  | nil => rw [List.nil_append, splitChars, if_pos rfl]
  | cons c more ih =>
      rw [List.mem_cons, not_or] at h
      rw [List.cons_append, splitChars, if_neg (Ne.symm h.1), ih h.2]

theorem not_mem_of_mem_splitChars {s piece : List Char} (h : piece ∈ splitChars separator s) :
    separator ∉ piece := by
  induction s generalizing piece with
  | nil =>
      rw [List.mem_singleton.mp h]
      exact List.not_mem_nil
  | cons c rest ih =>
      rw [splitChars] at h
      by_cases hc : c = separator
      · rw [if_pos hc] at h
        rcases List.mem_cons.mp h with rfl | h
        · exact List.not_mem_nil
        · exact ih h
      · rw [if_neg hc] at h
        have hcons : ∀ p : List Char, separator ∉ p → separator ∉ c :: p := by
          intro p hp
          rw [List.mem_cons, not_or]
          exact ⟨Ne.symm hc, hp⟩
        cases hsplit : splitChars separator rest with
        | nil =>
            rw [hsplit, List.mem_singleton] at h
            rw [h]
            exact hcons [] List.not_mem_nil
        | cons first pieces =>
            rw [hsplit] at h ih
            rcases List.mem_cons.mp h with rfl | h
            · exact hcons first (ih List.mem_cons_self)
            · exact ih (List.mem_cons_of_mem first h)

theorem split_join {pieces : List String} (hne : pieces ≠ [])
    (h : ∀ piece ∈ pieces, separator ∉ piece.toList) :
    split separator (join (String.singleton separator) pieces) = pieces := by
  induction pieces with
  | nil => exact absurd rfl hne
  | cons first rest ih =>
      obtain ⟨hfirst, hrest⟩ := List.forall_mem_cons.mp h
      cases rest with
      | nil => rw [join_singleton, split, splitChars_of_not_mem hfirst]; simp
      | cons second more =>
          have hmore := ih (List.cons_ne_nil second more) hrest
          rw [split] at hmore
          rw [split, toList_join_cons_cons, String.toList_singleton, List.singleton_append,
            splitChars_append hfirst, List.map_cons, hmore, String.ofList_toList]

/-! ### Endings -/

theorem dropStart?_eq_some_iff {start s rest : List Char} :
    dropStart? start s = some rest ↔ s = start ++ rest := by
  constructor
  · intro h
    induction start generalizing s with
    | nil =>
        obtain rfl := Option.some.inj h
        rfl
    | cons c start ih =>
        cases s with
        | nil => cases h
        | cons d more =>
            rw [dropStart?] at h
            split at h
            next heq => rw [ih h, heq, List.cons_append]
            next => cases h
  · rintro rfl
    exact dropStart?_append start rest

theorem dropEnd?_eq_some_iff {finish s inner : List Char} :
    dropEnd? finish s = some inner ↔ s = inner ++ finish := by
  rw [dropEnd?, Option.map_eq_some_iff]
  constructor
  · rintro ⟨rest, hrest, rfl⟩
    rw [← List.reverse_reverse s, dropStart?_eq_some_iff.mp hrest, List.reverse_append,
      List.reverse_reverse]
  · rintro rfl
    exact ⟨inner.reverse, dropStart?_eq_some_iff.mpr List.reverse_append, List.reverse_reverse inner⟩

theorem dropEnd?_append (finish s : List Char) : dropEnd? finish (s ++ finish) = some s :=
  dropEnd?_eq_some_iff.mpr rfl

end Text

end DataAccess
