import DataAccess.Proofs.Text.Pattern
import DataAccess.Text.Like
import DataAccess.Text.RegexReader

/-!
# Patterns as regular expressions

The expression for a pattern is read as one part for each of its characters, between the two ends of
the text. A dot stands for every character but the line feed, so the signs of a pattern take no line
feed either: the expression and the pattern agree on texts of one line, and `%` alone tells them apart
on the text of one line feed.
-/

namespace DataAccess

namespace Like

/-! ### Reading the expression -/

/-- The part of an expression that a character of a pattern becomes. -/
def partOf (c : Char) : Regex :=
  if c = '%' then .star (.char .anyInLine)
  else if c = '_' then .char .anyInLine
  else .char (.single false c)

/-- The parts for a pattern, up to the end of the text. -/
def bodyOf : List Char → Regex
  | [] => .seq (.edge .textEnd) .empty
  | c :: rest => .seq (partOf c) (bodyOf rest)

/-- The body as it is written. -/
def bodyText (pattern : List Char) : List Char := pattern.flatMap patternChar ++ ['$']

theorem bodyText_cons (c : Char) (rest : List Char) :
    bodyText (c :: rest) = patternChar c ++ bodyText rest := by
  rw [bodyText, List.flatMap_cons, List.append_assoc, bodyText]

theorem length_lt_length_bodyText (pattern : List Char) :
    pattern.length < (bodyText pattern).length := by
  induction pattern with
  | nil => exact Nat.one_pos
  | cons c rest ih =>
      have hpart : 0 < (patternChar c).length := by
        rw [patternChar, escapeChar]
        split
        · decide
        split
        · decide
        split <;> exact Nat.succ_pos _
      rw [bodyText_cons, List.length_append, List.length_cons]
      omega

/-- The signs that repeat what stands before them. -/
def repeatSigns : List Char := ['*', '+', '?', '\x7b']

theorem mem_metaChars_of_mem {signs : List Char} {c : Char}
    (hsigns : (signs.all fun d => decide (d ∈ metaChars)) = true) (h : c ∈ signs) : c ∈ metaChars :=
  of_decide_eq_true (List.all_eq_true.mp hsigns c h)

/-- No sign in the body begins a repetition of something before the body. -/
theorem exists_bodyText_eq_cons (pattern : List Char) :
    ∃ c rest, bodyText pattern = c :: rest ∧ c ∉ repeatSigns := by
  cases pattern with
  | nil => exact ⟨'$', [], rfl, by decide⟩
  | cons c rest =>
      rw [bodyText, List.flatMap_cons, patternChar]
      split
      · exact ⟨'.', _, rfl, by decide⟩
      split
      · exact ⟨'.', _, rfl, by decide⟩
      rw [escapeChar]
      split
      next => exact ⟨'\\', _, rfl, by decide⟩
      next hplain =>
        exact ⟨c, _, rfl, fun hc => hplain (mem_metaChars_of_mem (by decide) hc)⟩

section Reader

variable {flags : RegexFlags} {fuel : Nat} {r : Regex} {c : Char} {s : List Char}

theorem repeats_of_not_mem (h : c ∉ repeatSigns) :
    Regex.repeats (fuel + 1) r (c :: s) = some (r, c :: s) := by
  simp only [repeatSigns, List.mem_cons, List.not_mem_nil, or_false, not_or] at h
  obtain ⟨hstar, hplus, hoptional, hbrace⟩ := h
  simp [Regex.repeats, hstar, hplus, hoptional, hbrace]

theorem dropLazy_of_not_mem (h : c ∉ repeatSigns) : Regex.dropLazy (c :: s) = c :: s := by
  have hne : c ≠ '?' := by
    rintro rfl
    exact h (by decide)
  simp [Regex.dropLazy, hne]

/-- One simple expression with its repetitions, and then the rest of the sequence. -/
theorem sequence_cons {rest after : List Char} {first repeated : Regex}
    (hc : c ∉ ['|', ')', '(']) (hsimple : Regex.simple? flags (c :: s) = some (first, rest))
    (hrepeats : Regex.repeats (fuel + 1) first rest = some (repeated, after)) :
    Regex.sequence (fuel + 2) flags (c :: s) =
      (Regex.sequence (fuel + 1) flags after).map fun (second, flags, rest) =>
        (.seq repeated second, flags, rest) := by
  simp only [List.mem_cons, List.not_mem_nil, or_false, not_or] at hc
  obtain ⟨hbar, hclose, hopen⟩ := hc
  have hflags : Regex.flagsHere? flags (c :: s) = none := by simp [Regex.flagsHere?, hopen]
  have hgroup : Regex.groupStart? flags (c :: s) = none := by simp [Regex.groupStart?, hopen]
  rw [Regex.sequence]
  simp only [hbar, hclose, or_self, if_false, hflags, Regex.atom, hgroup, hsimple, hrepeats]

/-- What the reader of single expressions makes of an escaped character. -/
theorem simple?_escapeChar (c : Char) (s : List Char) :
    Regex.simple? .plain (escapeChar c ++ s) = some (.char (.single false c), s) := by
  rw [escapeChar]
  split
  next hmeta =>
    have hread : (metaChars.all fun d => decide (Regex.edge? d = none ∧ d ∉ ['x', 'u', 'U'] ∧
        Regex.escaped? d = some (.range d d))) = true := by decide
    obtain ⟨hedge, hnumber, hescaped⟩ := of_decide_eq_true (List.all_eq_true.mp hread c hmeta)
    simp only [List.mem_cons, List.not_mem_nil, or_false, not_or] at hnumber
    obtain ⟨hx, hu, hU⟩ := hnumber
    have hescape : Regex.escape? (c :: s) = some (.range c c, s) := by
      simp [Regex.escape?, hescaped]
    simp [Regex.simple?, hedge, hescape, RegexFlags.plain, CharClass.single]
  next hplain =>
    have hother : c ∉ ['[', '.', '^', '$', '\\', '*', '+', '?', '\x7b', '(', ')', '|'] :=
      fun h => hplain (mem_metaChars_of_mem (by decide) h)
    simp only [List.mem_cons, List.not_mem_nil, or_false, not_or] at hother
    simp [Regex.simple?, hother, RegexFlags.plain]

/-- An escaped character begins with no sign of groups and alternatives. -/
theorem exists_escapeChar_append (c : Char) (s : List Char) :
    ∃ d t, escapeChar c ++ s = d :: t ∧ d ∉ ['|', ')', '('] := by
  rw [escapeChar]
  split
  next => exact ⟨'\\', c :: s, rfl, by decide⟩
  next hplain =>
    exact ⟨c, s, rfl, fun hc => hplain (mem_metaChars_of_mem (by decide) hc)⟩

theorem sequence_patternChar (fuel : Nat) (c : Char) (rest : List Char) :
    Regex.sequence (fuel + 3) .plain (patternChar c ++ bodyText rest) =
      (Regex.sequence (fuel + 2) .plain (bodyText rest)).map fun (second, flags, rest) =>
        (.seq (partOf c) second, flags, rest) := by
  obtain ⟨d, s, hbody, hd⟩ := exists_bodyText_eq_cons rest
  rw [hbody, patternChar, partOf]
  split
  · have hstar : Regex.repeats (fuel + 2) (.char .anyInLine) ('*' :: d :: s) =
        some (.star (.char .anyInLine), d :: s) := by
      rw [Regex.repeats, dropLazy_of_not_mem hd, repeats_of_not_mem hd]
    exact sequence_cons (by decide) rfl hstar
  split
  · exact sequence_cons (by decide) rfl (repeats_of_not_mem hd)
  · obtain ⟨e, t, htext, he⟩ := exists_escapeChar_append c (d :: s)
    have hsimple := simple?_escapeChar c (d :: s)
    rw [htext] at hsimple ⊢
    exact sequence_cons he hsimple (repeats_of_not_mem hd)

theorem sequence_bodyText (fuel : Nat) (pattern : List Char) :
    Regex.sequence (fuel + pattern.length + 2) .plain (bodyText pattern) =
      some (bodyOf pattern, .plain, []) := by
  induction pattern with
  | nil => rfl
  | cons c rest ih =>
      have hfuel : fuel + (c :: rest).length + 2 = fuel + rest.length + 3 := by
        rw [List.length_cons]
        omega
      rw [bodyText_cons, hfuel, sequence_patternChar, ih]
      rfl

/-- The expression for a pattern is the parts of its characters between both ends of the text. -/
theorem read?_toRegex (pattern : String) :
    Regex.read? .plain (toRegex pattern).toList =
      some (.seq (.edge .textStart) (bodyOf pattern.toList)) := by
  have htext : (toRegex pattern).toList = '^' :: bodyText pattern.toList := by
    rw [toRegex, String.toList_ofList]
    rfl
  obtain ⟨fuel, hfuel⟩ : ∃ fuel, 4 * ('^' :: bodyText pattern.toList).length + 4 =
      fuel + pattern.toList.length + 4 := by
    have hlength := length_lt_length_bodyText pattern.toList
    refine ⟨4 * ('^' :: bodyText pattern.toList).length - pattern.toList.length, ?_⟩
    rw [List.length_cons]
    omega
  obtain ⟨d, s, hbody, hd⟩ := exists_bodyText_eq_cons pattern.toList
  have hsequence : Regex.sequence (fuel + pattern.toList.length + 3) .plain
      ('^' :: bodyText pattern.toList) =
        some (.seq (.edge .textStart) (bodyOf pattern.toList), .plain, []) := by
    have hstart : Regex.repeats (fuel + pattern.toList.length + 2) (.edge .textStart)
        (bodyText pattern.toList) = some (.edge .textStart, bodyText pattern.toList) := by
      rw [hbody]
      exact repeats_of_not_mem hd
    rw [sequence_cons (by decide) rfl hstart, sequence_bodyText]
    rfl
  rw [Regex.read?, htext, hfuel, Regex.alternatives, hsequence]

end Reader

/-! ### Matching the expression -/

/-- The characters that a dot stands for. -/
def inLine (c : Char) : Bool := c != '\n'

theorem contains_range (c d : Char) : CharItem.contains d (.range c c) = (c == d) := by
  rw [Bool.eq_iff_iff, beq_iff_eq, CharItem.contains, decide_eq_true_iff]
  constructor
  · rintro ⟨hle, hge⟩
    exact Char.le_antisymm hle hge
  · rintro rfl
    exact ⟨Char.le_refl c, Char.le_refl c⟩

theorem contains_single (c d : Char) : (CharClass.single false c).contains d = (c == d) := by
  simp [CharClass.contains, CharClass.single, CharClass.holds, contains_range]

theorem contains_anyInLine : CharClass.anyInLine.contains = inLine := by
  funext c
  simp [CharClass.contains, CharClass.anyInLine, CharClass.holds, contains_range, inLine, bne,
    Bool.beq_comm]

section Matcher

variable {text s : List Char} {next : List Char → Bool}

/-- A repeated class goes on behind each run of its characters. -/
theorem repeated_char {k : CharClass} {fuel : Nat} (h : s.length ≤ fuel) :
    Regex.repeated (fun s next => Regex.accepts text (.char k) s next) next fuel s =
      (Pattern.restsBehind k.contains s).any next := by
  induction s generalizing fuel with
  | nil =>
      cases fuel with
      | zero => simp [Regex.repeated, Pattern.restsBehind]
      | succ fuel => simp [Regex.repeated, Regex.accepts, Pattern.restsBehind]
  | cons c s ih =>
      obtain ⟨fuel, rfl⟩ := Nat.exists_eq_succ_of_ne_zero (Nat.ne_zero_of_lt h)
      rw [Regex.repeated, Regex.accepts, ih (Nat.le_of_succ_le_succ h), Pattern.restsBehind]
      cases k.contains c <;> simp

theorem accepts_bodyOf (pattern : List Char) :
    (Regex.accepts text (bodyOf pattern) · fun _ => true) =
      Pattern.matchesFree inLine (pattern.map Pattern.itemOf) := by
  induction pattern with
  | nil =>
      funext s
      rw [bodyOf, Regex.accepts, Regex.accepts, Regex.accepts, Bool.and_true]
      rfl
  | cons c rest ih =>
      funext s
      rw [bodyOf, Regex.accepts, ih, partOf, List.map_cons, Pattern.itemOf]
      split
      · rw [Regex.accepts, repeated_char (Nat.le_refl _), contains_anyInLine, Pattern.matchesFree]
      split
      · cases s with
        | nil => rfl
        | cons d s => rw [Regex.accepts, contains_anyInLine, Pattern.matchesFree]
      · cases s with
        | nil => rfl
        | cons d s => rw [Regex.accepts, contains_single, Pattern.matchesFree]

/-- An expression tied to the start of the text matches there or nowhere. -/
theorem acceptsFrom_textStart {r : Regex} (h : s.length < text.length) :
    Regex.acceptsFrom text (.seq (.edge .textStart) r) s = false := by
  have hstart : ∀ s : List Char, s.length < text.length → ∀ next,
      Regex.accepts text (.seq (.edge .textStart) r) s next = false := by
    intro s h next
    rw [Regex.accepts, Regex.accepts, Regex.before?, if_pos h, List.getElem?_eq_getElem (by omega)]
    rfl
  induction s with
  | nil => exact hstart [] h _
  | cons c s ih =>
      have hshorter : s.length < text.length := by
        rw [List.length_cons] at h
        omega
      rw [Regex.acceptsFrom, hstart (c :: s) h, ih hshorter]
      rfl

theorem occursIn_textStart (r : Regex) (text : List Char) :
    (Regex.seq (.edge .textStart) r).occursIn text = Regex.accepts text r text fun _ => true := by
  have hbegin : Regex.accepts text (.seq (.edge .textStart) r) text (fun _ => true) =
      Regex.accepts text r text fun _ => true := by
    rw [Regex.accepts, Regex.accepts, Regex.before?, if_neg (Nat.lt_irrefl _)]
    rfl
  rw [Regex.occursIn]
  cases text with
  | nil => exact hbegin
  | cons c s =>
      rw [Regex.acceptsFrom, hbegin, acceptsFrom_textStart (by simp), Bool.or_false]

end Matcher

/-- **Patterns as expressions.** The expression for a pattern can be read, and it matches a text
exactly if the pattern does without taking a line feed for a percent sign or an underscore; so on a
text without line feeds the two agree. -/
theorem regex_matches_iff (pattern s : String) :
    ∃ r items, Regex.read? .plain (toRegex pattern).toList = some r ∧
      Pattern.items? .plain pattern = some items ∧
      (r.occursIn s.toList = true ↔ Pattern.matchesFree inLine items s.toList = true) ∧
      ('\n' ∉ s.toList → (r.occursIn s.toList = true ↔ Pattern.matchesText items s.toList = true)) := by
  have hmatches : (Regex.seq (.edge .textStart) (bodyOf pattern.toList)).occursIn s.toList =
      Pattern.matchesFree inLine (pattern.toList.map Pattern.itemOf) s.toList := by
    rw [occursIn_textStart]
    exact congrFun (accepts_bodyOf pattern.toList) s.toList
  refine ⟨_, _, read?_toRegex pattern, Pattern.items?_plain pattern, by rw [hmatches], ?_⟩
  intro hline
  have hfree : ∀ c ∈ s.toList, inLine c = true := by
    intro c hc
    rw [inLine, bne_iff_ne]
    rintro rfl
    exact hline hc
  rw [hmatches, Pattern.matchesFree_eq_matchesText hfree]

/-- A sum and its result: signs of a pattern beside a sign of expressions. -/
theorem regex_matches_iff_sum :
    '\n' ∉ "1+1=2".toList ∧
      ∃ r items, Regex.read? .plain (toRegex "1+_=%").toList = some r ∧
        Pattern.items? .plain "1+_=%" = some items ∧
        Pattern.matchesText items "1+1=2".toList = true ∧ r.occursIn "1+1=2".toList = true := by
  have hline : '\n' ∉ "1+1=2".toList := by decide +kernel
  obtain ⟨r, items, hread, hitems, -, hagree⟩ := regex_matches_iff "1+_=%" "1+1=2"
  have hmatch : Pattern.matchesText items "1+1=2".toList = true := by
    rw [Pattern.items?_plain] at hitems
    obtain rfl := Option.some.inj hitems
    decide +kernel
  exact ⟨hline, r, items, hread, hitems, hmatch, (hagree hline).mpr hmatch⟩

/-- A percent sign stands for a line feed, and its expression does not. -/
theorem percent_ne_regex_of_line_feed :
    ∃ r items, Regex.read? .plain (toRegex "a%b").toList = some r ∧
      Pattern.items? .plain "a%b" = some items ∧
      Pattern.matchesText items "a\nb".toList = true ∧ r.occursIn "a\nb".toList = false :=
  ⟨_, _, read?_toRegex "a%b", Pattern.items?_plain "a%b", by decide +kernel, by decide +kernel⟩

end Like

end DataAccess
