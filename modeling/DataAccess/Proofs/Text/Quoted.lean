import DataAccess.Proofs.Text.Split
import DataAccess.Text.Quoted

/-!
# Quoted texts read back

A reader of quoted texts: a doubled closing quote is one character of the text, the first one that is
not doubled ends it, and where the grammar has escapes a backslash speaks for the character behind it.

Without escapes the reader accepts exactly what doubling writes. With escapes it gives a doubled text
back only if each of its backslashes stands before a wildcard of patterns: an escape of any other
character takes a backslash that the text does not get back, so the backslashes can be counted.
-/

namespace DataAccess

namespace Text

/-- What a backslash and a character stand for. Before the wildcards of patterns the backslash stays. -/
def unescaped (c : Char) : List Char :=
  if c = '0' then ['\x00']
  else if c = 'b' then ['\x08']
  else if c = 'n' then ['\n']
  else if c = 'r' then ['\r']
  else if c = 't' then ['\t']
  else if c = 'Z' then ['\x1a']
  else if c = '%' ∨ c = '_' then ['\\', c]
  else [c]

/-- Reads past an opening quote: the text up to the closing quote, and what follows. A text that ends
before its closing quote is none. -/
def takeQuoted? (escapes : Bool) (close : Char) : List Char → Option (List Char × List Char)
  | [] => none
  | [c] => if c = close then some ([], []) else none
  | c :: d :: rest =>
    if c = close then
      if d = close then (takeQuoted? escapes close rest).map fun r => (close :: r.1, r.2)
      else some ([], d :: rest)
    else if escapes = true ∧ c = '\\' then
      (takeQuoted? escapes close rest).map fun r => (unescaped d ++ r.1, r.2)
    else (takeQuoted? escapes close (d :: rest)).map fun r => (c :: r.1, r.2)

/-- Every backslash stands directly before a wildcard of patterns. -/
def keepsBackslashes : List Char → Bool
  | [] => true
  | [c] => c ≠ '\\'
  | c :: d :: rest => (c ≠ '\\' || d = '%' || d = '_') && keepsBackslashes (d :: rest)

section Quoted

variable {escapes : Bool} {close : Char} {s text rest : List Char}

theorem takeQuoted?_close (hrest : rest.head? ≠ some close) :
    takeQuoted? escapes close (close :: rest) = some ([], rest) := by
  cases rest with
  | nil => rw [takeQuoted?, if_pos rfl]
  | cons d rest =>
      have hd : d ≠ close := fun h => hrest (congrArg some h)
      rw [takeQuoted?, if_pos rfl, if_neg hd]

theorem takeQuoted?_doubled (s : List Char) :
    takeQuoted? escapes close (close :: close :: s) =
      (takeQuoted? escapes close s).map fun r => (close :: r.1, r.2) := by
  rw [takeQuoted?, if_pos rfl, if_pos rfl]

theorem takeQuoted?_escape (hescapes : escapes = true) (hclose : close ≠ '\\') (d : Char)
    (s : List Char) :
    takeQuoted? escapes close ('\\' :: d :: s) =
      (takeQuoted? escapes close s).map fun r => (unescaped d ++ r.1, r.2) := by
  rw [takeQuoted?, if_neg hclose.symm, if_pos ⟨hescapes, rfl⟩]

theorem takeQuoted?_plain {c : Char} (hclose : c ≠ close) (hplain : escapes = true → c ≠ '\\')
    (s : List Char) :
    takeQuoted? escapes close (c :: s) =
      (takeQuoted? escapes close s).map fun r => (c :: r.1, r.2) := by
  have hescape : ¬(escapes = true ∧ c = '\\') := fun h => hplain h.1 h.2
  cases s with
  | nil =>
      simp only [takeQuoted?, if_neg hclose]
      rfl
  | cons d s => rw [takeQuoted?, if_neg hclose, if_neg hescape]

/-! ### What is read was doubled -/

theorem head?_of_takeQuoted? (h : takeQuoted? escapes close s = some (text, rest)) :
    rest.head? ≠ some close := by
  fun_induction takeQuoted? escapes close s generalizing text with
  | case1 | case3 => cases h
  | case2 =>
      cases h
      exact nofun
  | case5 d s hd =>
      cases h
      exact fun hhead => hd (Option.some.inj hhead)
  | case4 s ih | case6 c d s _ _ ih | case7 c d s _ _ ih =>
      obtain ⟨r, hread, hr⟩ := Option.map_eq_some_iff.mp h
      obtain ⟨-, rfl⟩ := Prod.mk.inj hr
      exact ih hread

theorem eq_of_takeQuoted? (h : takeQuoted? false close s = some (text, rest)) :
    s = doubled close text ++ close :: rest := by
  fun_induction takeQuoted? false close s generalizing text with
  | case1 | case3 => cases h
  | case2 | case5 =>
      cases h
      rfl
  | case4 s ih =>
      obtain ⟨r, hread, hr⟩ := Option.map_eq_some_iff.mp h
      obtain ⟨rfl, rfl⟩ := Prod.mk.inj hr
      rw [doubled, if_pos rfl, ih hread]
      rfl
  | case6 c d s _ hescape _ => cases hescape.1
  | case7 c d s hc _ ih =>
      obtain ⟨r, hread, hr⟩ := Option.map_eq_some_iff.mp h
      obtain ⟨rfl, rfl⟩ := Prod.mk.inj hr
      rw [doubled, if_neg hc, ih hread]
      rfl

/-! ### What was doubled is read -/

theorem unescaped_wildcard {d : Char} (hd : d = '%' ∨ d = '_') : unescaped d = ['\\', d] := by
  rcases hd with rfl | rfl <;> rfl

theorem keepsBackslashes_cons {c : Char} (hc : c ≠ '\\') (s : List Char) :
    keepsBackslashes (c :: s) = keepsBackslashes s := by
  cases s with
  | nil => simp [keepsBackslashes, hc]
  | cons d s => simp [keepsBackslashes, hc]

theorem keepsBackslashes_escape (d : Char) (s : List Char) :
    keepsBackslashes ('\\' :: d :: s) = true ↔
      (d = '%' ∨ d = '_') ∧ keepsBackslashes s = true := by
  have hwildcard : d = '%' ∨ d = '_' → d ≠ '\\' := by
    rintro (rfl | rfl) <;> decide
  constructor
  · intro h
    simp only [keepsBackslashes, ne_eq, not_true_eq_false, decide_false, Bool.false_or,
      Bool.and_eq_true, Bool.or_eq_true, decide_eq_true_eq] at h
    exact ⟨h.1, keepsBackslashes_cons (hwildcard h.1) s ▸ h.2⟩
  · rintro ⟨hd, hs⟩
    simp only [keepsBackslashes, ne_eq, not_true_eq_false, decide_false, Bool.false_or,
      Bool.and_eq_true, Bool.or_eq_true, decide_eq_true_eq]
    exact ⟨hd, (keepsBackslashes_cons (hwildcard hd) s).trans hs⟩

theorem doubled_cons_of_ne {c : Char} (hc : c ≠ close) (s : List Char) :
    doubled close (c :: s) = c :: doubled close s := by
  rw [doubled, if_neg hc]

theorem mem_doubled {close c : Char} {s : List Char} : c ∈ doubled close s ↔ c ∈ s := by
  induction s with
  | nil => rfl
  | cons first s ih =>
      rw [doubled]
      split
      next h => simp [ih, h]
      next => simp [ih]

theorem takeQuoted?_doubled_append (hescapes : escapes = true → close = '\x27')
    (hrest : rest.head? ≠ some close) :
    ∀ text : List Char, (escapes = true → keepsBackslashes text = true) →
      takeQuoted? escapes close (doubled close text ++ close :: rest) = some (text, rest)
  | [], _ => takeQuoted?_close hrest
  | c :: text, hkept => by
      by_cases hescape : escapes = true ∧ c = '\\'
      · have hclose : close ≠ '\\' := by
          rw [hescapes hescape.1]
          decide
        have hkept := hkept hescape.1
        rw [hescape.2] at hkept ⊢
        cases text with
        | nil => cases hkept
        | cons d text =>
            -- The backslash and the wildcard behind it are read together.
            obtain ⟨hd, htext⟩ := (keepsBackslashes_escape d text).mp hkept
            have hread := takeQuoted?_doubled_append hescapes hrest text fun _ => htext
            have hquote : d ≠ close := by
              rw [hescapes hescape.1]
              rcases hd with rfl | rfl <;> decide
            rw [doubled_cons_of_ne hclose.symm, doubled_cons_of_ne hquote, List.cons_append,
              List.cons_append, takeQuoted?_escape hescape.1 hclose, hread, unescaped_wildcard hd]
            rfl
      · have hplain : escapes = true → c ≠ '\\' := fun h hc => hescape ⟨h, hc⟩
        have hread := takeQuoted?_doubled_append hescapes hrest text fun h =>
          keepsBackslashes_cons (hplain h) text ▸ hkept h
        by_cases hc : c = close
        · rw [hc, doubled, if_pos rfl, List.cons_append, List.cons_append, takeQuoted?_doubled,
            hread]
          rfl
        · rw [doubled_cons_of_ne hc, List.cons_append, takeQuoted?_plain hc hplain, hread]
          rfl

theorem takeQuoted?_eq_some_iff :
    takeQuoted? false close s = some (text, rest) ↔
      s = doubled close text ++ close :: rest ∧ rest.head? ≠ some close := by
  constructor
  · exact fun h => ⟨eq_of_takeQuoted? h, head?_of_takeQuoted? h⟩
  · rintro ⟨rfl, hrest⟩
    have hclose : false = true → close = '\x27' := nofun
    exact takeQuoted?_doubled_append hclose hrest text nofun

/-! ### Counting backslashes -/

theorem count_doubled (hclose : close ≠ '\\') (s : List Char) :
    (doubled close s).count '\\' = s.count '\\' := by
  induction s with
  | nil => rfl
  | cons c s ih =>
      by_cases hc : c = close
      · subst hc
        rw [doubled, if_pos rfl, List.count_cons_of_ne hclose, List.count_cons_of_ne hclose, ih,
          List.count_cons_of_ne hclose]
      · rw [doubled_cons_of_ne hc, List.count_cons, List.count_cons, ih]

/-- An escape gives back as many backslashes as it takes only before a wildcard. -/
theorem count_unescaped (d : Char) :
    (unescaped d).count '\\' + (if d = '%' ∨ d = '_' then 0 else 1) = ['\\', d].count '\\' := by
  unfold unescaped
  repeat' split
  all_goals simp_all [List.count_cons]

theorem count_takeQuoted? (hclose : close ≠ '\\')
    (h : takeQuoted? true close s = some (text, rest)) :
    text.count '\\' + rest.count '\\' ≤ s.count '\\' ∧
      (text.count '\\' + rest.count '\\' = s.count '\\' → keepsBackslashes text = true) := by
  fun_induction takeQuoted? true close s generalizing text with
  | case1 | case3 => cases h
  | case2 =>
      cases h
      simp [keepsBackslashes]
  | case4 s ih =>
      obtain ⟨r, hread, hr⟩ := Option.map_eq_some_iff.mp h
      obtain ⟨rfl, rfl⟩ := Prod.mk.inj hr
      simp only [List.count_cons_of_ne hclose, keepsBackslashes_cons hclose]
      exact ih hread
  | case5 d s _ =>
      cases h
      simp [keepsBackslashes, List.count_cons_of_ne hclose]
  | case6 c d s _ hescape ih =>
      obtain ⟨r, hread, hr⟩ := Option.map_eq_some_iff.mp h
      obtain ⟨rfl, rfl⟩ := Prod.mk.inj hr
      obtain rfl := hescape.2
      obtain ⟨hle, hkept⟩ := ih hread
      have hsplit : ('\\' :: d :: s).count '\\' = ['\\', d].count '\\' + s.count '\\' := by
        rw [← List.count_append]
        rfl
      have htaken := count_unescaped d
      rw [hsplit, List.count_append]
      constructor
      · omega
      · intro heq
        by_cases hd : d = '%' ∨ d = '_'
        · rw [if_pos hd] at htaken
          rw [unescaped_wildcard hd]
          exact (keepsBackslashes_escape d r.1).mpr ⟨hd, hkept (by omega)⟩
        · rw [if_neg hd] at htaken
          omega
  | case7 c d s _ hescape ih =>
      obtain ⟨r, hread, hr⟩ := Option.map_eq_some_iff.mp h
      obtain ⟨rfl, rfl⟩ := Prod.mk.inj hr
      have hc : c ≠ '\\' := fun hc => hescape ⟨rfl, hc⟩
      simp only [List.count_cons_of_ne hc, keepsBackslashes_cons hc]
      exact ih hread

/-- A doubled text is read back whole unless it goes on behind its quote or escapes change it. -/
theorem takeQuoted?_doubled_iff (hescapes : escapes = true → close = '\x27') :
    takeQuoted? escapes close (doubled close text ++ close :: rest) = some (text, rest) ↔
      rest.head? ≠ some close ∧ (escapes = true → keepsBackslashes text = true) := by
  constructor
  · intro hread
    refine ⟨head?_of_takeQuoted? hread, ?_⟩
    rintro rfl
    obtain rfl := hescapes rfl
    refine (count_takeQuoted? (by decide) hread).2 ?_
    rw [List.count_append, count_doubled (by decide), List.count_cons_of_ne (by decide)]
  · rintro ⟨hrest, hkept⟩
    exact takeQuoted?_doubled_append hescapes hrest text hkept

end Quoted

/-! ### Literals in a fragment -/

section Literals

variable {before rest after : List Char}

theorem takeLiteral_close (hrest : rest.head? ≠ some '\x27') :
    takeLiteral ('\x27' :: rest) = ([], rest) := by
  cases rest with
  | nil => rfl
  | cons d rest =>
      rw [takeLiteral]
      · rfl
      · rintro more - hmore
        obtain ⟨rfl, -⟩ := List.cons.inj hmore
        exact hrest rfl

theorem takeLiteral_plain {c : Char} (hc : c ≠ '\x27') (s : List Char) :
    takeLiteral (c :: s) = (c :: (takeLiteral s).1, (takeLiteral s).2) := by
  rw [takeLiteral, if_neg hc]
  exact fun _ h _ => hc h

theorem takeLiteral_doubled (hrest : rest.head? ≠ some '\x27') (s : List Char) :
    takeLiteral (doubled '\x27' s ++ '\x27' :: rest) = (s, rest) := by
  induction s with
  | nil => exact takeLiteral_close hrest
  | cons c s ih =>
      by_cases hc : c = '\x27'
      · rw [hc, doubled, if_pos rfl, List.cons_append, List.cons_append, takeLiteral, ih]
      · rw [doubled_cons_of_ne hc, List.cons_append, takeLiteral_plain hc, ih]

theorem literalsIn_append (hbefore : '\x27' ∉ before) (s : List Char) :
    literalsIn (before ++ s) = literalsIn s := by
  induction before with
  | nil => rfl
  | cons c before ih =>
      obtain ⟨hc, hmore⟩ := List.ne_and_not_mem_of_not_mem_cons hbefore
      rw [List.cons_append, literalsIn, if_neg hc.symm, ih hmore]

theorem literalsIn_literal (hrest : rest.head? ≠ some '\x27') (v : String) :
    literalsIn ((literal v).toList ++ rest) = v.toList :: literalsIn rest := by
  have hsplit : (literal v).toList ++ rest =
      '\x27' :: (doubled '\x27' v.toList ++ '\x27' :: rest) := by
    simp [literal, enclosed]
  rw [hsplit, literalsIn, if_pos rfl, takeLiteral_doubled hrest]

/-- Joined literals are found again, whatever stands between and around them, if it has no quotes. -/
theorem literalsIn_join {separator : String} (hne : separator.toList ≠ [])
    (hseparator : '\x27' ∉ separator.toList) (hbefore : '\x27' ∉ before) (hafter : '\x27' ∉ after)
    (vs : List String) :
    literalsIn (before ++ ((join separator (vs.map literal)).toList ++ after)) =
      vs.map String.toList := by
  have hnone : literalsIn after = [] := by
    have happend := literalsIn_append hafter []
    rw [List.append_nil] at happend
    exact happend.trans (by rw [literalsIn])
  have hhead : ∀ s : List Char, '\x27' ∉ s → s.head? ≠ some '\x27' := fun s hs hhead =>
    hs (List.mem_of_mem_head? hhead)
  rw [literalsIn_append hbefore]
  induction vs with
  | nil => exact hnone
  | cons v vs ih =>
      cases vs with
      | nil =>
          rw [List.map_singleton, join_singleton, literalsIn_literal (hhead after hafter), hnone,
            List.map_singleton]
      | cons w vs =>
          have hnext : ∀ s : List Char, (separator.toList ++ s).head? ≠ some '\x27' := by
            intro s
            rw [List.head?_append, List.head?_eq_some_head hne, Option.some_or,
              ← List.head?_eq_some_head hne]
            exact hhead _ hseparator
          rw [List.map_cons, List.map_cons, toList_join_cons_cons, List.append_assoc,
            List.append_assoc, literalsIn_literal (hnext _), literalsIn_append hseparator]
          exact congrArg (v.toList :: ·) ih

end Literals

end Text

end DataAccess
