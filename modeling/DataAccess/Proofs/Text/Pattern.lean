/-!
# Patterns of LIKE

What a pattern says: its parts as they are read, with or without an escape and classes in brackets,
and the texts that a list of parts matches. Between two percent signs a text is matched by whatever
contains it.
-/

namespace DataAccess

/-- A part of a pattern. -/
inductive PatternItem
  | anyText
  | anyChar
  | char (c : Char)
  /-- One character inside the ranges, or outside all of them. -/
  | oneOf (negated : Bool) (ranges : List (Char × Char))
  deriving DecidableEq, Repr, Inhabited

namespace Pattern

/-! ### Matching -/

/-- The rests of a text behind the characters that a sign for any text may take, shortest cut first.
The sign takes free characters alone. -/
def restsBehind (free : Char → Bool) : List Char → List (List Char)
  | [] => [[]]
  | c :: s => (c :: s) :: if free c then restsBehind free s else []

def inRanges (ranges : List (Char × Char)) (c : Char) : Bool :=
  ranges.any fun range => decide (range.1 ≤ c ∧ c ≤ range.2)

/-- Whether the parts match a whole text, when the signs for any text and any character stand for
free characters only. -/
def matchesFree (free : Char → Bool) : List PatternItem → List Char → Bool
  | [], s => s.isEmpty
  | .anyText :: items, s => (restsBehind free s).any (matchesFree free items)
  | .anyChar :: items, c :: s => free c && matchesFree free items s
  | .char d :: items, c :: s => d == c && matchesFree free items s
  | .oneOf negated ranges :: items, c :: s => (inRanges ranges c != negated) && matchesFree free items s
  | _ :: _, [] => false

/-- Whether the parts match a whole text. -/
def matchesText : List PatternItem → List Char → Bool := matchesFree fun _ => true

theorem mem_restsBehind {free : Char → Bool} {s rest : List Char} :
    rest ∈ restsBehind free s ↔ ∃ taken, s = taken ++ rest ∧ ∀ c ∈ taken, free c = true := by
  induction s with
  | nil =>
      rw [restsBehind, List.mem_singleton]
      constructor
      · rintro rfl
        exact ⟨[], rfl, nofun⟩
      · rintro ⟨taken, hs, -⟩
        exact (List.append_eq_nil_iff.mp hs.symm).2
  | cons c s ih =>
      rw [restsBehind, List.mem_cons]
      constructor
      · rintro (rfl | h)
        · exact ⟨[], rfl, nofun⟩
        · split at h
          next hfree =>
            obtain ⟨taken, rfl, htaken⟩ := ih.mp h
            exact ⟨c :: taken, rfl, List.forall_mem_cons.mpr ⟨hfree, htaken⟩⟩
          next => cases h
      · rintro ⟨taken, hs, htaken⟩
        cases taken with
        | nil => exact .inl hs.symm
        | cons d taken =>
            obtain ⟨hfree, hothers⟩ := List.forall_mem_cons.mp htaken
            obtain ⟨rfl, rfl⟩ := List.cons.inj hs
            rw [if_pos hfree]
            exact .inr (ih.mpr ⟨taken, rfl, hothers⟩)

theorem matchesFree_anyText {free : Char → Bool} {items : List PatternItem} {s : List Char} :
    matchesFree free (.anyText :: items) s = true ↔
      ∃ taken rest, s = taken ++ rest ∧ (∀ c ∈ taken, free c = true) ∧
        matchesFree free items rest = true := by
  rw [matchesFree, List.any_eq_true]
  simp only [mem_restsBehind]
  constructor
  · rintro ⟨rest, ⟨taken, hs, htaken⟩, hrest⟩
    exact ⟨taken, rest, hs, htaken, hrest⟩
  · rintro ⟨taken, rest, hs, htaken, hrest⟩
    exact ⟨rest, ⟨taken, hs, htaken⟩, hrest⟩

/-- A text of free characters is matched as if all characters were free. -/
theorem matchesFree_eq_matchesText {free : Char → Bool} {s : List Char}
    (h : ∀ c ∈ s, free c = true) (items : List PatternItem) :
    matchesFree free items s = matchesText items s := by
  have hrests : ∀ s : List Char, (∀ c ∈ s, free c = true) →
      restsBehind free s = restsBehind (fun _ => true) s := by
    intro s h
    induction s with
    | nil => rfl
    | cons c s ih =>
        obtain ⟨hc, hs⟩ := List.forall_mem_cons.mp h
        rw [restsBehind, restsBehind, if_pos hc, if_pos rfl, ih hs]
  rw [matchesText]
  induction items generalizing s with
  | nil => rfl
  | cons item items ih =>
      cases item with
      | anyText =>
          rw [matchesFree, matchesFree, hrests s h, Bool.eq_iff_iff, List.any_eq_true,
            List.any_eq_true]
          refine exists_congr fun rest => and_congr_right fun hrest => ?_
          obtain ⟨taken, rfl, -⟩ := mem_restsBehind.mp hrest
          rw [ih fun c hc => h c (List.mem_append_right taken hc)]
      | anyChar | char | oneOf =>
          cases s with
          | nil => rfl
          | cons c s =>
              obtain ⟨hc, hs⟩ := List.forall_mem_cons.mp h
              simp only [matchesFree, hc, ih hs]

theorem matchesText_chars_append {t s : List Char} {items : List PatternItem} :
    matchesText (t.map .char ++ items) s = true ↔ ∃ rest, s = t ++ rest ∧ matchesText items rest = true := by
  induction t generalizing s with
  | nil => simp
  | cons c t ih =>
      cases s with
      | nil => simp [matchesText, matchesFree]
      | cons d s =>
          have hstep : matchesText ((c :: t).map .char ++ items) (d :: s) =
              (c == d && matchesText (t.map .char ++ items) s) := rfl
          rw [hstep, Bool.and_eq_true, ih, beq_iff_eq]
          constructor
          · rintro ⟨rfl, rest, rfl, hrest⟩
            exact ⟨rest, rfl, hrest⟩
          · rintro ⟨rest, hs, hrest⟩
            obtain ⟨rfl, rfl⟩ := List.cons.inj hs
            exact ⟨rfl, rest, rfl, hrest⟩

/-- **Contained texts.** A text between two signs for any text is matched by the texts that contain
it. -/
theorem matchesText_contained {t s : List Char} :
    matchesText (.anyText :: (t.map .char ++ [.anyText])) s = true ↔ t <:+: s := by
  have hlast : ∀ rest, matchesText [.anyText] rest = true := by
    intro rest
    rw [matchesText, matchesFree_anyText]
    exact ⟨rest, [], (List.append_nil rest).symm, fun _ _ => rfl, rfl⟩
  rw [matchesText, matchesFree_anyText, ← matchesText]
  simp only [matchesText_chars_append, hlast, and_true]
  constructor
  · rintro ⟨taken, -, rfl, -, rest, rfl⟩
    exact ⟨taken, rest, List.append_assoc ..⟩
  · rintro ⟨taken, rest, rfl⟩
    exact ⟨taken, t ++ rest, List.append_assoc .., fun _ _ => trivial, rest, rfl⟩

/-! ### Reading -/

/-- The marks that a pattern may use besides the percent sign and the underscore. -/
structure Rules where
  /-- The character that makes the next one stand for itself. -/
  escape : Option Char
  /-- Whether a bracket opens a class of characters. -/
  classes : Bool
  deriving DecidableEq, Repr, Inhabited

/-- Neither escapes nor classes. -/
def Rules.plain : Rules := ⟨none, false⟩

/-- A character inside brackets, and whether it is escaped there. -/
abbrev Member := Char × Bool

/-- The ranges of a class. A hyphen between two members makes them the ends of one. -/
def ranges : List Member → List (Char × Char)
  | (first, _) :: ('-', false) :: (last, _) :: rest => (first, last) :: ranges rest
  | (c, _) :: rest => (c, c) :: ranges rest
  | [] => []

/-- The class that the members in brackets write; a caret before them all negates it. -/
def classOf : List Member → PatternItem
  | ('^', false) :: rest => .oneOf true (ranges rest)
  | members => .oneOf false (ranges members)

/-- What a character stands for that neither escapes nor opens a class. -/
def itemOf (c : Char) : PatternItem :=
  if c = '%' then .anyText else if c = '_' then .anyChar else .char c

/-- Reads a pattern; `inside` holds the members of a class that is open. An escape at the end and a
class that is not closed make it no pattern. -/
def read? (rules : Rules) : Option (List Member) → List Char → Option (List PatternItem)
  | none, [] => some []
  | some _, [] => none
  | inside, c :: rest =>
    if rules.escape = some c then
      match inside, rest with
      | _, [] => none
      | none, d :: rest => (read? rules none rest).map (.char d :: ·)
      | some members, d :: rest => read? rules (some (members ++ [(d, true)])) rest
    else
      match inside with
      | some members =>
        if c = ']' then (read? rules none rest).map (classOf members :: ·)
        else read? rules (some (members ++ [(c, false)])) rest
      | none =>
        if c = '[' ∧ rules.classes = true then read? rules (some []) rest
        else (read? rules none rest).map (itemOf c :: ·)

def items? (rules : Rules) (pattern : String) : Option (List PatternItem) :=
  read? rules none pattern.toList

section Reading

variable {rules : Rules} {c : Char} {rest : List Char}

theorem read?_escape (h : rules.escape = some c) (d : Char) :
    read? rules none (c :: d :: rest) = (read? rules none rest).map (.char d :: ·) := by
  rw [read?.eq_def]
  exact if_pos h

theorem read?_itemOf (hescape : rules.escape ≠ some c) (hopen : rules.classes = true → c ≠ '[') :
    read? rules none (c :: rest) = (read? rules none rest).map (itemOf c :: ·) := by
  rw [read?.eq_def]
  dsimp only
  rw [if_neg hescape, if_neg fun h => hopen h.2 h.1]

end Reading

example : read? ⟨some '!', true⟩ none ['!', '[', 'x', '_', '[', '^', 'a', '-', 'c', ']'] =
    some [.char '[', .char 'x', .anyChar, .oneOf true [('a', 'c')]] := by decide

theorem items?_plain (pattern : String) :
    items? .plain pattern = some (pattern.toList.map itemOf) := by
  rw [items?]
  induction pattern.toList with
  | nil => rfl
  | cons c rest ih =>
      have hescape : Rules.plain.escape ≠ some c := nofun
      have hopen : Rules.plain.classes = true → c ≠ '[' := nofun
      rw [read?_itemOf hescape hopen, ih, Option.map_some, List.map_cons]

end Pattern

end DataAccess
