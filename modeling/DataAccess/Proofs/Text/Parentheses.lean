import DataAccess.Proofs.Text.Blank

/-!
# Parentheses around a text

A text may stand in any number of pairs of parentheses, with blanks around each of them. In an
expression whose parentheses match, a pair at its ends encloses the whole exactly if what stands
between the two is balanced again: otherwise the first of them is closed earlier, as in `(a) + (b)`.
-/

namespace DataAccess

namespace Text

def parenthesized (s : List Char) : List Char := '(' :: (s ++ [')'])

theorem length_parenthesized (s : List Char) : (parenthesized s).length = s.length + 2 := by
  rw [parenthesized, List.length_cons, List.length_append, List.length_singleton]

/-- A text with blanks and pairs of parentheses around it. -/
inductive Wrapped (text : List Char) : List Char → Prop
  | bare : Wrapped text text
  | blanks {before s after : List Char} (hbefore : ∀ c ∈ before, isBlank c = true)
      (hafter : ∀ c ∈ after, isBlank c = true) (h : Wrapped text s) :
      Wrapped text (before ++ s ++ after)
  | pair {s : List Char} (h : Wrapped text s) : Wrapped text (parenthesized s)

/-- Whether a text ends in a literal, and how many parentheses outside of literals are open there; none
if one is closed that is not open. A doubled quote closes a literal and opens it again. -/
def nesting : Bool → Nat → List Char → Option (Bool × Nat)
  | quoted, opened, [] => some (quoted, opened)
  | quoted, opened, c :: rest =>
    if c = '\x27' then nesting (!quoted) opened rest
    else if quoted = true then nesting quoted opened rest
    else if c = '(' then nesting quoted (opened + 1) rest
    else if c = ')' then
      match opened with
      | 0 => none
      | opened + 1 => nesting quoted opened rest
    else nesting quoted opened rest

/-- The parentheses outside of literals match. -/
def Balanced (s : List Char) : Prop := nesting false 0 s = some (false, 0)

instance (s : List Char) : Decidable (Balanced s) :=
  inferInstanceAs (Decidable (nesting false 0 s = some (false, 0)))

/-- What is left of a text without the blanks around it and the pairs of parentheses that enclose the
whole of it. -/
structure Unwrapped (text s : List Char) : Prop where
  wrapped : Wrapped text s
  balanced : Balanced text
  trimmed : Trimmed text
  bare : ∀ inner, Balanced inner → text ≠ parenthesized inner

variable {quoted quoted' : Bool} {opened opened' : Nat} {s text before after : List Char}

theorem nesting_append (quoted : Bool) (opened : Nat) (s t : List Char) :
    nesting quoted opened (s ++ t) = (nesting quoted opened s).bind fun r => nesting r.1 r.2 t := by
  fun_induction nesting quoted opened s <;> simp_all [nesting]

/-- Parentheses that are open before a text stay open. -/
theorem nesting_add (h : nesting quoted opened s = some (quoted', opened')) (more : Nat) :
    nesting quoted (opened + more) s = some (quoted', opened' + more) := by
  fun_induction nesting quoted opened s with
  | case1 => simp_all [nesting]
  | case2 quoted opened rest ih => simpa [nesting] using ih h
  | case3 opened c rest hquote ih => simpa [nesting, hquote] using ih h
  | case4 quoted opened rest hcode hquote ih =>
      simpa [nesting, hcode, Nat.add_right_comm] using ih h
  | case5 => cases h
  | case6 quoted rest hcode hquote hopen opened ih =>
      simpa [nesting, hcode, Nat.add_right_comm _ 1 more] using ih h
  | case7 quoted opened c rest hquote hcode hopen hclose ih =>
      simpa [nesting, hquote, hcode, hopen, hclose] using ih h

theorem balanced_parenthesized (h : Balanced s) : Balanced (parenthesized s) := by
  have hinside : nesting false 1 s = some (false, 1) := nesting_add h 1
  have hopen : nesting false 0 (parenthesized s) = nesting false 1 (s ++ [')']) := by
    simp [parenthesized, nesting]
  rw [Balanced, hopen, nesting_append, hinside]
  rfl

theorem nesting_of_isBlank (hblanks : ∀ c ∈ s, isBlank c = true) :
    nesting quoted opened s = some (quoted, opened) := by
  induction s with
  | nil => rfl
  | cons c s ih =>
      obtain ⟨hc, hs⟩ := List.forall_mem_cons.mp hblanks
      have hplain : c ≠ '\x27' ∧ c ≠ '(' ∧ c ≠ ')' := by
        refine ⟨?_, ?_, ?_⟩ <;> (rintro rfl; exact absurd hc (by decide))
      simp [nesting, hplain, ih hs]

theorem balanced_blanks_iff (hbefore : ∀ c ∈ before, isBlank c = true)
    (hafter : ∀ c ∈ after, isBlank c = true) :
    Balanced (before ++ s ++ after) ↔ Balanced s := by
  rw [Balanced, Balanced, nesting_append, nesting_append, nesting_of_isBlank hbefore,
    Option.bind_some]
  cases nesting false 0 s with
  | none => simp
  | some r => rw [Option.bind_some, nesting_of_isBlank hafter]

theorem balanced_trimChars_iff : Balanced (trimChars s) ↔ Balanced s := by
  obtain ⟨before, after, hbefore, hafter, hs, -⟩ := exists_trimChars s
  have hiff := balanced_blanks_iff (s := trimChars s) hbefore hafter
  rw [← hs] at hiff
  exact hiff.symm

/-- Around a balanced text all pairs match, so each of them encloses what stands inside it. -/
theorem Wrapped.balanced (h : Wrapped text s) (htext : Balanced text) : Balanced s := by
  induction h with
  | bare => exact htext
  | blanks hbefore hafter _ ih => exact (balanced_blanks_iff hbefore hafter).mpr ih
  | pair _ ih => exact balanced_parenthesized ih

theorem wrapped_of_trimChars (h : Wrapped text (trimChars s)) : Wrapped text s := by
  obtain ⟨before, after, hbefore, hafter, hs, -⟩ := exists_trimChars s
  rw [hs]
  exact .blanks hbefore hafter h

/-- Every balanced text can be unwrapped, and no other. -/
theorem exists_unwrapped_iff (s : List Char) : (∃ text, Unwrapped text s) ↔ Balanced s := by
  refine ⟨fun ⟨text, h⟩ => h.wrapped.balanced h.balanced, fun h => ?_⟩
  by_cases hpair : ∃ inner, Balanced inner ∧ trimChars s = parenthesized inner
  · obtain ⟨inner, hinner, heq⟩ := hpair
    have hshorter : inner.length < s.length := by
      have hle := length_trimChars_le s
      rw [heq, parenthesized, List.length_cons, List.length_append] at hle
      omega
    obtain ⟨text, htext⟩ := (exists_unwrapped_iff inner).mpr hinner
    refine ⟨text, ?_, htext.balanced, htext.trimmed, htext.bare⟩
    refine wrapped_of_trimChars ?_
    rw [heq]
    exact .pair htext.wrapped
  · refine ⟨trimChars s, wrapped_of_trimChars .bare, balanced_trimChars_iff.mpr h,
      trimmed_trimChars s, fun inner hinner heq => hpair ⟨inner, hinner, heq⟩⟩
termination_by s.length

end Text

end DataAccess
