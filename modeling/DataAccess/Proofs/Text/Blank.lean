import DataAccess.Text.Blank

/-!
# Blanks around a text

A text that neither begins nor ends with a blank is what trimming leaves of it, with any blanks around
it.
-/

namespace DataAccess

namespace Text

theorem trimLeft_append {blanks text : List Char} (hblanks : ∀ c ∈ blanks, isBlank c = true)
    (htext : ∀ c ∈ text.head?, isBlank c = false) : trimLeft (blanks ++ text) = text := by
  rw [trimLeft, List.dropWhile_append_of_pos hblanks]
  cases text with
  | nil => rfl
  | cons c rest => rw [List.dropWhile_cons, htext c rfl]; rfl

theorem trimLeft_of_head {text : List Char} (htext : ∀ c ∈ text.head?, isBlank c = false) :
    trimLeft text = text := by
  have hnone : ∀ c ∈ ([] : List Char), isBlank c = true := by simp
  exact trimLeft_append hnone htext

theorem trimRight_append {blanks text : List Char} (hblanks : ∀ c ∈ blanks, isBlank c = true)
    (htext : ∀ c ∈ text.getLast?, isBlank c = false) : trimRight (text ++ blanks) = text := by
  have hreverse : ∀ c ∈ blanks.reverse, isBlank c = true := fun c hc =>
    hblanks c (List.mem_reverse.mp hc)
  have hlast : ∀ c ∈ text.reverse.head?, isBlank c = false := by
    rw [List.head?_reverse]
    exact htext
  have htrim := trimLeft_append hreverse hlast
  rw [trimLeft] at htrim
  rw [trimRight, List.reverse_append, htrim, List.reverse_reverse]

/-- Blanks around a text that neither begins nor ends with one are dropped. -/
theorem trimChars_append {before text after : List Char} (hbefore : ∀ c ∈ before, isBlank c = true)
    (hafter : ∀ c ∈ after, isBlank c = true) (hfirst : ∀ c ∈ text.head?, isBlank c = false)
    (hlast : ∀ c ∈ text.getLast?, isBlank c = false) :
    trimChars (before ++ text ++ after) = text := by
  cases text with
  | nil =>
      have hall : ∀ c ∈ before ++ [] ++ after, isBlank c = true := by
        simpa [or_imp, forall_and] using ⟨hbefore, hafter⟩
      rw [trimChars, ← List.append_nil (before ++ [] ++ after), trimLeft_append hall hfirst]
      rfl
  | cons c rest =>
      have hstart : ∀ d ∈ ((c :: rest) ++ after).head?, isBlank d = false := fun d hd => hfirst d hd
      rw [trimChars, List.append_assoc, trimLeft_append hbefore hstart,
        trimRight_append hafter hlast]

theorem trimChars_of_ends {text : List Char} (hfirst : ∀ c ∈ text.head?, isBlank c = false)
    (hlast : ∀ c ∈ text.getLast?, isBlank c = false) : trimChars text = text := by
  have hnone : ∀ c ∈ ([] : List Char), isBlank c = true := by simp
  have htrim := trimChars_append hnone hnone hfirst hlast
  rwa [List.nil_append, List.append_nil] at htrim

/-! ### What trimming leaves -/

/-- A text that neither begins nor ends with a blank. -/
def Trimmed (text : List Char) : Prop :=
  (∀ c ∈ text.head?, isBlank c = false) ∧ ∀ c ∈ text.getLast?, isBlank c = false

theorem trimmed_iff (text : List Char) :
    Trimmed text ↔ text.head?.any isBlank = false ∧ text.getLast?.any isBlank = false := by
  rw [Trimmed]
  refine and_congr ?_ ?_
  · cases text.head? <;> simp
  · cases text.getLast? <;> simp

instance (text : List Char) : Decidable (Trimmed text) :=
  decidable_of_iff _ (trimmed_iff text).symm

theorem trim_of_trimmed {s : String} (h : Trimmed s.toList) : trim s = s := by
  rw [trim, trimChars_of_ends h.1 h.2, String.ofList_toList]

theorem head?_dropWhile_isBlank (s : List Char) :
    ∀ c ∈ (s.dropWhile isBlank).head?, isBlank c = false := by
  intro c hc
  have hhead := List.head?_dropWhile_not isBlank s
  rw [Option.mem_def.mp hc] at hhead
  exact hhead

theorem exists_trimLeft (s : List Char) :
    ∃ before, (∀ c ∈ before, isBlank c = true) ∧ s = before ++ trimLeft s := by
  refine ⟨s.takeWhile isBlank, List.all_eq_true.mp List.all_takeWhile, ?_⟩
  rw [trimLeft, List.takeWhile_append_dropWhile]

theorem exists_trimRight (s : List Char) :
    ∃ after, (∀ c ∈ after, isBlank c = true) ∧ s = trimRight s ++ after := by
  obtain ⟨before, hbefore, hs⟩ := exists_trimLeft s.reverse
  refine ⟨before.reverse, fun c hc => hbefore c (List.mem_reverse.mp hc), ?_⟩
  rw [trimRight, ← trimLeft, ← List.reverse_append, ← hs, List.reverse_reverse]

/-- Trimming takes blanks from both ends and leaves none there. -/
theorem exists_trimChars (s : List Char) :
    ∃ before after, (∀ c ∈ before, isBlank c = true) ∧ (∀ c ∈ after, isBlank c = true) ∧
      s = before ++ trimChars s ++ after ∧ Trimmed (trimChars s) := by
  obtain ⟨before, hbefore, hs⟩ := exists_trimLeft s
  obtain ⟨after, hafter, hleft⟩ := exists_trimRight (trimLeft s)
  refine ⟨before, after, hbefore, hafter, ?_, ?_, ?_⟩
  · rw [trimChars, List.append_assoc, ← hleft]
    exact hs
  · intro c hc
    refine head?_dropWhile_isBlank s c ?_
    rw [trimChars] at hc
    rw [← trimLeft, hleft, List.head?_append, Option.mem_def.mp hc]
    rfl
  · intro c hc
    rw [trimChars, trimRight, List.getLast?_reverse] at hc
    exact head?_dropWhile_isBlank _ c hc

theorem trimmed_trimChars (s : List Char) : Trimmed (trimChars s) := by
  obtain ⟨_, _, _, _, _, htrimmed⟩ := exists_trimChars s
  exact htrimmed

theorem length_trimChars_le (s : List Char) : (trimChars s).length ≤ s.length := by
  obtain ⟨before, after, -, -, hs, -⟩ := exists_trimChars s
  have hlength := congrArg List.length hs
  simp only [List.length_append] at hlength
  omega

/-- Blanks around a text do not count. -/
theorem trimChars_between {before after : List Char} (hbefore : ∀ c ∈ before, isBlank c = true)
    (hafter : ∀ c ∈ after, isBlank c = true) (s : List Char) :
    trimChars (before ++ s ++ after) = trimChars s := by
  obtain ⟨start, finish, hstart, hfinish, hs, hfirst, hlast⟩ := exists_trimChars s
  have hleft : ∀ c ∈ before ++ start, isBlank c = true := by
    simpa [or_imp, forall_and] using ⟨hbefore, hstart⟩
  have hright : ∀ c ∈ finish ++ after, isBlank c = true := by
    simpa [or_imp, forall_and] using ⟨hfinish, hafter⟩
  calc trimChars (before ++ s ++ after)
      = trimChars (before ++ (start ++ trimChars s ++ finish) ++ after) := by rw [← hs]
    _ = trimChars (before ++ start ++ trimChars s ++ (finish ++ after)) := by
        simp only [List.append_assoc]
    _ = trimChars s := trimChars_append hleft hright hfirst hlast

end Text

end DataAccess
