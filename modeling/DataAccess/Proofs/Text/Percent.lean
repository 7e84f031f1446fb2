import DataAccess.Proofs.Text.Hex
import DataAccess.Proofs.Text.Utf8
import DataAccess.Text.Percent

/-!
# Percent escapes read back

A text is escaped if some of its characters, every percent sign among them, are written as the escapes
of their bytes, each with digits of either case. An escaped text is read as the text that it stands for.
The reader takes a plus sign for the first digit of an escape, so a text stays as it is exactly if no
percent sign stands before two digits or before a plus sign and a digit.
-/

namespace DataAccess

namespace Percent

/-! ### Escapes -/

/-- Bytes as escapes, one after the other. -/
inductive EscapesOf : List UInt8 → List Char → Prop
  | nil : EscapesOf [] []
  | cons {b : UInt8} {bytes : List UInt8} {high low : Char} {t : List Char}
      (hhigh : Hex.digit? high = some (b.toNat / 16)) (hlow : Hex.digit? low = some (b.toNat % 16))
      (ht : EscapesOf bytes t) : EscapesOf (b :: bytes) ('%' :: high :: low :: t)

/-- A text of which each character is kept, if it may be, or written as the escapes of its bytes. -/
inductive Escaped (mayKeep : Char → Prop) : List Char → List Char → Prop
  | nil : Escaped mayKeep [] []
  | kept {c : Char} {s t : List Char} (hc : mayKeep c) (ht : Escaped mayKeep s t) :
      Escaped mayKeep (c :: s) (c :: t)
  | escaped {c : Char} {s e t : List Char} (he : EscapesOf (Utf8.encodeChar c) e)
      (ht : Escaped mayKeep s t) : Escaped mayKeep (c :: s) (e ++ t)

/-- The text with the escapes of all characters but those that are kept. -/
def encode (keep : Char → Bool) (s : List Char) : List Char :=
  s.flatMap fun c =>
    if keep c then [c]
    else (Utf8.encodeChar c).flatMap fun b =>
      ['%', Hex.char (b.toNat / 16), Hex.char (b.toNat % 16)]

theorem escapesOf_flatMap (bytes : List UInt8) :
    EscapesOf bytes (bytes.flatMap fun b =>
      ['%', Hex.char (b.toNat / 16), Hex.char (b.toNat % 16)]) := by
  induction bytes with
  | nil => exact .nil
  | cons b bytes ih =>
      have hb := b.toNat_lt
      exact .cons (Hex.digit?_char (by omega)) (Hex.digit?_char (by omega)) ih

theorem escaped_encode {mayKeep : Char → Prop} {keep : Char → Bool}
    (hkeep : ∀ c, keep c = true → mayKeep c) (s : List Char) : Escaped mayKeep s (encode keep s) := by
  induction s with
  | nil => exact .nil
  | cons c s ih =>
      rw [encode] at ih
      rw [encode, List.flatMap_cons]
      by_cases hc : keep c = true
      · rw [if_pos hc]
        exact .kept (hkeep c hc) ih
      · rw [if_neg hc]
        exact .escaped (escapesOf_flatMap _) ih

/-- The byte that two characters behind a percent sign are read as. -/
def escape? (high low : Char) : Option UInt8 :=
  match Hex.digit? low with
  | none => none
  | some l =>
    if high = '+' then some l.toUInt8 else (Hex.digit? high).map fun h => (16 * h + l).toUInt8

theorem isSome_escape?_iff (high low : Char) :
    (escape? high low).isSome ↔ (Hex.isDigit high ∨ high = '+') ∧ Hex.isDigit low := by
  unfold escape? Hex.isDigit
  cases hlow : Hex.digit? low with
  | none => simp
  | some l => by_cases hplus : high = '+' <;> simp [hplus]

theorem escape?_digits {b : UInt8} {high low : Char} (hhigh : Hex.digit? high = some (b.toNat / 16))
    (hlow : Hex.digit? low = some (b.toNat % 16)) : escape? high low = some b := by
  have hplus : high ≠ '+' := by
    rintro rfl
    cases hhigh
  rw [escape?, hlow]
  dsimp only
  rw [if_neg hplus, hhigh, Option.map_some, Nat.div_add_mod]
  exact congrArg some (UInt8.toNat_inj.mp (Utf8.toNat_toUInt8 b.toNat_lt))

theorem toNat_lt_of_escape? {high low : Char} {b : UInt8} (h : escape? high low = some b) :
    high.toNat < 0x80 ∧ low.toNat < 0x80 := by
  obtain ⟨hhigh | hplus, hlow⟩ := (isSome_escape?_iff high low).mp (Option.isSome_of_eq_some h)
  · exact ⟨Hex.toNat_lt_of_isDigit hhigh, Hex.toNat_lt_of_isDigit hlow⟩
  · subst hplus
    exact ⟨by decide, Hex.toNat_lt_of_isDigit hlow⟩

/-! ### Bytes of characters -/

theorem toNat_ofNat_byte (b : UInt8) : (Char.ofNat b.toNat).toNat = b.toNat := by
  have hb := b.toNat_lt
  rw [Char.ofNat, dif_pos (.inl (by omega))]
  rfl

theorem byte?_eq (high low : UInt8) :
    byte? high low = escape? (Char.ofNat high.toNat) (Char.ofNat low.toNat) := by
  have hplus : high = 0x2B ↔ Char.ofNat high.toNat = '+' := by
    constructor
    · rintro rfl
      rfl
    · intro h
      have htoNat := congrArg Char.toNat h
      rw [toNat_ofNat_byte] at htoNat
      exact UInt8.toNat_inj.mp htoNat
  rw [byte?, escape?, digit?, digit?]
  cases Hex.digit? (Char.ofNat low.toNat) with
  | none => rfl
  | some l => simp only [hplus]

/-- Bytes of a text that begin in ASCII are those of a text that begins with that character. -/
theorem exists_of_encode_eq_cons {t : List Char} {b : UInt8} {rest : List UInt8}
    (h : Utf8.encode t = b :: rest) (hb : b.toNat < 0x80) :
    ∃ r, t = Char.ofNat b.toNat :: r ∧ rest = Utf8.encode r := by
  cases t with
  | nil => cases h
  | cons c r =>
      rw [Utf8.encode, List.flatMap_cons] at h
      rcases Utf8.encodeChar_cases c with ⟨hc, hencode⟩ | ⟨first, tails, hencode, hfirst, -⟩
      · rw [hencode] at h
        obtain ⟨rfl, rfl⟩ := List.cons.inj h
        refine ⟨r, ?_, rfl⟩
        rw [Utf8.toNat_toUInt8 (by omega), Char.ofNat_toNat]
      · rw [hencode] at h
        obtain ⟨rfl, -⟩ := List.cons.inj h
        omega

theorem toNat_of_escape?_ofNat {high low b : UInt8}
    (h : escape? (Char.ofNat high.toNat) (Char.ofNat low.toNat) = some b) :
    high.toNat < 0x80 ∧ low.toNat < 0x80 := by
  have hascii := toNat_lt_of_escape? h
  rwa [toNat_ofNat_byte, toNat_ofNat_byte] at hascii

/-- Where the bytes of a text are read as an escape, its characters are. -/
theorem exists_of_byte? {t : List Char} {high low b : UInt8} {rest : List UInt8}
    (ht : Utf8.encode t = high :: low :: rest) (hb : byte? high low = some b) :
    ∃ x y r, t = x :: y :: r ∧ escape? x y = some b ∧ rest = Utf8.encode r := by
  rw [byte?_eq] at hb
  obtain ⟨hhigh, hlow⟩ := toNat_of_escape?_ofNat hb
  obtain ⟨more, rfl, hmore⟩ := exists_of_encode_eq_cons ht hhigh
  obtain ⟨r, rfl, hr⟩ := exists_of_encode_eq_cons hmore.symm hlow
  exact ⟨_, _, r, rfl, hb, hr⟩

theorem encodeChar_ascii {c : Char} (hc : c.toNat < 0x80) :
    Utf8.encodeChar c = [c.toNat.toUInt8] := if_pos hc

/-! ### The reader -/

theorem unescape_cons_of_ne {b : UInt8} (hb : b ≠ sign) (rest : List UInt8) :
    unescape (b :: rest) = b :: unescape rest := by
  match rest with
  | [] => rfl
  | [_] => rfl
  | high :: low :: rest => rw [unescape, if_neg hb]

theorem unescape_append_of_not_mem {bytes : List UInt8} (h : sign ∉ bytes) (rest : List UInt8) :
    unescape (bytes ++ rest) = bytes ++ unescape rest := by
  induction bytes with
  | nil => rfl
  | cons b more ih =>
      rw [List.mem_cons, not_or] at h
      rw [List.cons_append, unescape_cons_of_ne (Ne.symm h.1), ih h.2, List.cons_append]

theorem sign_not_mem_encodeChar {c : Char} (hc : c ≠ '%') : sign ∉ Utf8.encodeChar c := by
  intro hmem
  rcases Utf8.encodeChar_cases c with ⟨hascii, hencode⟩ | ⟨first, tails, hencode, hfirst, htails⟩
  · rw [hencode, List.mem_singleton] at hmem
    have htoNat := congrArg UInt8.toNat hmem
    rw [Utf8.toNat_toUInt8 (by omega)] at htoNat
    apply hc
    rw [← Char.ofNat_toNat c, ← htoNat]
    rfl
  · rw [hencode, List.mem_cons] at hmem
    rcases hmem with hmem | hmem
    · rw [← hmem] at hfirst
      exact absurd hfirst (by decide)
    · exact absurd (htails sign hmem) (by decide)

theorem encode_cons (c : Char) (t : List Char) :
    Utf8.encode (c :: t) = Utf8.encodeChar c ++ Utf8.encode t := List.flatMap_cons

theorem unescape_escape {high low : Char} {b : UInt8} (h : escape? high low = some b)
    (t : List Char) :
    unescape (Utf8.encode ('%' :: high :: low :: t)) = b :: unescape (Utf8.encode t) := by
  obtain ⟨hhigh, hlow⟩ := toNat_lt_of_escape? h
  have hbyte : byte? high.toNat.toUInt8 low.toNat.toUInt8 = some b := by
    rw [byte?_eq, Utf8.toNat_toUInt8 (by omega), Utf8.toNat_toUInt8 (by omega), Char.ofNat_toNat,
      Char.ofNat_toNat, h]
  rw [encode_cons, encode_cons, encode_cons, encodeChar_ascii hhigh, encodeChar_ascii hlow]
  change unescape (sign :: high.toNat.toUInt8 :: low.toNat.toUInt8 :: Utf8.encode t) = _
  rw [unescape, if_pos rfl, hbyte]

/-- A character that begins no escape stands for itself. -/
theorem unescape_cons {c : Char} {t : List Char}
    (h : c = '%' → ∀ high low rest, t = high :: low :: rest → escape? high low = none) :
    unescape (Utf8.encode (c :: t)) = Utf8.encodeChar c ++ unescape (Utf8.encode t) := by
  by_cases hc : c = '%'
  · subst hc
    rw [encode_cons]
    change unescape (sign :: Utf8.encode t) = sign :: unescape (Utf8.encode t)
    generalize ht : Utf8.encode t = bytes
    match bytes with
    | [] => rfl
    | [_] => rfl
    | high :: low :: rest =>
        rw [unescape, if_pos rfl]
        cases hbyte : byte? high low with
        | none => rfl
        | some b =>
            obtain ⟨x, y, r, rfl, hescape, -⟩ := exists_of_byte? ht hbyte
            rw [h rfl x y r rfl] at hescape
            cases hescape
  · rw [encode_cons, unescape_append_of_not_mem (sign_not_mem_encodeChar hc)]

/-! ### Escaped texts -/

theorem unescape_escapesOf {bytes : List UInt8} {e : List Char} (he : EscapesOf bytes e)
    (t : List Char) : unescape (Utf8.encode (e ++ t)) = bytes ++ unescape (Utf8.encode t) := by
  induction he with
  | nil => rfl
  | cons hhigh hlow _ ih =>
      rw [List.cons_append, List.cons_append, List.cons_append,
        unescape_escape (escape?_digits hhigh hlow), ih, List.cons_append]

/-- The bytes of an escaped text are read as those of the text that it stands for. -/
theorem unescape_of_escaped {mayKeep : Char → Prop} (hsign : ¬mayKeep '%') {s t : List Char}
    (h : Escaped mayKeep s t) : unescape (Utf8.encode t) = Utf8.encode s := by
  induction h with
  | nil => rfl
  | kept hc _ ih =>
      rw [unescape_cons fun hsame => absurd (hsame ▸ hc) hsign, ih, encode_cons]
  | escaped he _ ih => rw [unescape_escapesOf he, ih, encode_cons]

theorem decode_of_escaped {mayKeep : Char → Prop} (hsign : ¬mayKeep '%') {s t : String}
    (h : Escaped mayKeep s.toList t.toList) : decode t = s := by
  rw [decode, decodeChars, unescape_of_escaped hsign h, Utf8.decodeLossy_encode, String.ofList_toList]

/-- What holds of the characters that may be kept, of the percent sign and of digits holds of every
character of an escaped text. -/
theorem forall_mem_of_escaped {mayKeep P : Char → Prop} (hkeep : ∀ c, mayKeep c → P c)
    (hsign : P '%') (hdigit : ∀ c, Hex.isDigit c → P c) {s t : List Char} (h : Escaped mayKeep s t) :
    ∀ c ∈ t, P c := by
  have hescapes : ∀ {bytes : List UInt8} {e : List Char}, EscapesOf bytes e → ∀ c ∈ e, P c := by
    intro bytes e he
    induction he with
    | nil => exact List.forall_mem_nil P
    | cons hhigh hlow _ ih =>
        simp only [List.forall_mem_cons]
        exact ⟨hsign, hdigit _ (Option.isSome_of_eq_some hhigh),
          hdigit _ (Option.isSome_of_eq_some hlow), ih⟩
  induction h with
  | nil => exact List.forall_mem_nil P
  | kept hc _ ih => exact List.forall_mem_cons.mpr ⟨hkeep _ hc, ih⟩
  | escaped he _ ih => exact List.forall_mem_append.mpr ⟨hescapes he, ih⟩

/-! ### Texts that stay -/

/-- What a reader takes from a text at a time. -/
inductive Part
  | char (c : Char)
  | byte (b : UInt8)

def Part.bytes : Part → List UInt8
  | char c => Utf8.encodeChar c
  | byte b => [b]

/-- The characters of a text that stand for themselves, and the bytes of its escapes. -/
def parts : List Char → List Part
  | c :: high :: low :: rest =>
    if c = '%' then
      match escape? high low with
      | some b => .byte b :: parts rest
      | none => .char c :: parts (high :: low :: rest)
    else .char c :: parts (high :: low :: rest)
  | c :: rest => .char c :: parts rest
  | [] => []

theorem unescape_encode (t : List Char) :
    unescape (Utf8.encode t) = (parts t).flatMap Part.bytes := by
  fun_induction parts t with
  | case1 high low rest b hb ih => rw [unescape_escape hb, ih, List.flatMap_cons]; rfl
  | case2 high low rest hnone ih =>
      have hhead : '%' = '%' → ∀ x y r, high :: low :: rest = x :: y :: r → escape? x y = none := by
        intro _ x y r hsame
        obtain ⟨hx, hsame⟩ := List.cons.inj hsame
        obtain ⟨hy, -⟩ := List.cons.inj hsame
        rw [← hx, ← hy, hnone]
      rw [unescape_cons hhead, ih, List.flatMap_cons]; rfl
  | case3 c high low rest hc ih =>
      rw [unescape_cons fun hsame => absurd hsame hc, ih, List.flatMap_cons]; rfl
  | case4 c rest hshort ih =>
      rw [unescape_cons fun _ x y r hsame => (hshort x y r hsame).elim, ih, List.flatMap_cons]; rfl
  | case5 => rfl

/-- Tails in front of the bytes of some parts are parts themselves. -/
theorem exists_parts_of_tails {taken rest : List UInt8} {ps : List Part}
    (h : ps.flatMap Part.bytes = taken ++ rest) (htaken : ∀ b ∈ taken, Utf8.isTail b = true) :
    ∃ ps' : List Part, rest = ps'.flatMap Part.bytes ∧ ps'.length ≤ ps.length := by
  induction taken generalizing ps with
  | nil => exact ⟨ps, h.symm, Nat.le_refl _⟩
  | cons b taken ih =>
      obtain ⟨hb, htaken⟩ := List.forall_mem_cons.mp htaken
      cases ps with
      | nil => cases h
      | cons part ps =>
          rw [List.flatMap_cons] at h
          cases part with
          | byte b' =>
              obtain ⟨-, h⟩ := List.cons.inj h
              obtain ⟨ps', hrest, hlength⟩ := ih h htaken
              exact ⟨ps', hrest, Nat.le_succ_of_le hlength⟩
          | char c =>
              -- The first byte of a character is no tail.
              rw [Utf8.isTail, Utf8.between_iff] at hb
              rw [Part.bytes] at h
              rcases Utf8.encodeChar_cases c with ⟨hc, hencode⟩ | ⟨first, tails, hencode, hfirst, -⟩
              · rw [hencode] at h
                obtain ⟨rfl, -⟩ := List.cons.inj h
                rw [Utf8.toNat_toUInt8 (by omega)] at hb
                omega
              · rw [hencode] at h
                obtain ⟨rfl, -⟩ := List.cons.inj h
                omega

/-- No part is read as more than one character. -/
theorem length_units_flatMap_bytes (ps : List Part) :
    (Utf8.units (ps.flatMap Part.bytes)).length ≤ ps.length := by
  induction hn : ps.length using Nat.strongRecOn generalizing ps with
  | ind n ih =>
    subst hn
    cases ps with
    | nil =>
        rw [List.flatMap_nil, Utf8.units]
        exact Nat.le_refl 0
    | cons part ps =>
        rw [List.flatMap_cons]
        cases part with
        | char c =>
            rw [Part.bytes, Utf8.units_encodeChar_append]
            exact Nat.succ_le_succ (ih ps.length (Nat.lt_succ_self _) ps rfl)
        | byte b =>
            obtain ⟨first, taken, rest, u, hbytes, hunits, htails⟩ :=
              Utf8.exists_units (List.cons_ne_nil b (ps.flatMap Part.bytes))
            obtain ⟨-, hbytes⟩ := List.cons.inj hbytes
            obtain ⟨ps', rfl, hlength⟩ := exists_parts_of_tails hbytes htails
            have hrest := ih ps'.length (Nat.lt_succ_of_le hlength) ps' rfl
            rw [Part.bytes, List.singleton_append, hunits, List.length_cons, List.length_cons]
            omega

theorem length_parts_le (t : List Char) : (parts t).length ≤ t.length := by
  fun_induction parts t <;> simp only [List.length_cons, List.length_nil] at * <;> omega

/-- An escape makes one part of three characters. -/
theorem length_parts_lt (before after : List Char) {high low : Char}
    (h : (escape? high low).isSome) :
    (parts (before ++ '%' :: high :: low :: after)).length <
      (before ++ '%' :: high :: low :: after).length := by
  generalize ht : before ++ '%' :: high :: low :: after = t
  fun_induction parts t generalizing before with
  | case1 high' low' rest b hb ih =>
      have hrest := length_parts_le rest
      simp only [List.length_cons]
      omega
  | case2 high' low' rest hnone ih =>
      cases before with
      | nil =>
          simp only [List.nil_append, List.cons.injEq] at ht
          obtain ⟨-, rfl, rfl, -⟩ := ht
          rw [hnone] at h
          cases h
      | cons c before =>
          obtain ⟨-, ht⟩ := List.cons.inj ht
          exact Nat.succ_lt_succ (ih before ht)
  | case3 c high' low' rest hc ih =>
      cases before with
      | nil => exact absurd (List.cons.inj ht).1.symm hc
      | cons c before =>
          obtain ⟨-, ht⟩ := List.cons.inj ht
          exact Nat.succ_lt_succ (ih before ht)
  | case4 c rest hshort ih =>
      cases before with
      | nil => exact (hshort _ _ _ (List.cons.inj ht).2.symm).elim
      | cons c before =>
          obtain ⟨-, ht⟩ := List.cons.inj ht
          exact Nat.succ_lt_succ (ih before ht)
  | case5 => simp at ht

theorem parts_of_no_escape {t : List Char}
    (h : ∀ before high low after, t = before ++ '%' :: high :: low :: after →
      escape? high low = none) : parts t = t.map .char := by
  fun_induction parts t with
  | case1 high low rest b hb ih =>
      rw [h [] high low rest rfl] at hb
      cases hb
  | case2 high low rest hnone ih =>
      rw [ih fun before x y after hsame => h ('%' :: before) x y after (by rw [hsame]; rfl)]
      rfl
  | case3 c high low rest hc ih =>
      rw [ih fun before x y after hsame => h (c :: before) x y after (by rw [hsame]; rfl)]
      rfl
  | case4 c rest hshort ih =>
      rw [ih fun before x y after hsame => h (c :: before) x y after (by rw [hsame]; rfl)]
      rfl
  | case5 => rfl

theorem decodeChars_eq_self_iff (t : List Char) :
    decodeChars t = t ↔
      ∀ before high low after, t = before ++ '%' :: high :: low :: after →
        escape? high low = none := by
  rw [decodeChars, unescape_encode]
  constructor
  · rintro hsame before high low after rfl
    cases hescape : escape? high low with
    | none => rfl
    | some b =>
        -- Escapes are longer than what they are read as, and the rest does not grow.
        have hlength := congrArg List.length hsame
        rw [Utf8.decodeLossy, List.length_map] at hlength
        have hunits := length_units_flatMap_bytes (parts (before ++ '%' :: high :: low :: after))
        have hparts := length_parts_lt before after (Option.isSome_of_eq_some hescape)
        omega
  · intro hnone
    rw [parts_of_no_escape hnone, List.flatMap_map]
    exact Utf8.decodeLossy_encode t

/-- **What a reader of escapes gives back.** A text of which any characters, and every percent sign, are
written as the escapes of their bytes is read as that text. A text is read as it is exactly if no percent
sign in it stands before two hexadecimal digits, or before a plus sign and one. -/
theorem escapes_read_exactly (s t : String) :
    (Escaped (· ≠ '%') s.toList t.toList → decode t = s) ∧
      (decode t = t ↔
        ∀ (before : List Char) (high low : Char) (after : List Char),
          t.toList = before ++ '%' :: high :: low :: after →
            ¬((Hex.isDigit high ∨ high = '+') ∧ Hex.isDigit low)) := by
  refine ⟨decode_of_escaped (by simp), ?_⟩
  have hstring : decode t = t ↔ decodeChars t.toList = t.toList := by
    rw [decode, ← String.toList_inj, String.toList_ofList]
  rw [hstring, decodeChars_eq_self_iff]
  simp only [← isSome_escape?_iff, Option.not_isSome_iff_eq_none]

/-- A text with a zero and two other characters escaped, in digits of both cases. -/
theorem escapes_read_mixed :
    Escaped (· ≠ '%') "50% é".toList "5%30%25 %C3%a9".toList ∧ decode "5%30%25 %C3%a9" = "50% é" := by
  have hzero : EscapesOf (Utf8.encodeChar '0') ['%', '3', '0'] := .cons rfl rfl .nil
  have hsign : EscapesOf (Utf8.encodeChar '%') ['%', '2', '5'] := .cons rfl rfl .nil
  have hletter : EscapesOf (Utf8.encodeChar 'é') ['%', 'C', '3', '%', 'a', '9'] :=
    .cons rfl rfl (.cons rfl rfl .nil)
  have hescaped : Escaped (· ≠ '%') "50% é".toList "5%30%25 %C3%a9".toList :=
    .kept (by decide) (.escaped hzero (.escaped hsign (.kept (by decide) (.escaped hletter .nil))))
  exact ⟨hescaped, (escapes_read_exactly _ _).1 hescaped⟩

/-- A percent sign before a plus sign and a digit is no escape, and yet it is read as one. -/
theorem plus_sign_read_as_digit :
    (∀ (before : List Char) (high low : Char) (after : List Char),
        "%+5".toList = before ++ '%' :: high :: low :: after →
          ¬(Hex.isDigit high ∧ Hex.isDigit low)) ∧
      decode "%+5" = "\x05" := by
  refine ⟨?_, by decide +kernel⟩
  rintro before high low after hsplit ⟨hhigh, -⟩
  have hlength := congrArg List.length hsplit
  cases before with
  | nil =>
      obtain ⟨rfl, -⟩ := List.cons.inj (List.cons.inj hsplit).2
      cases hhigh
  | cons c before =>
      simp only [List.cons_append, List.length_cons, List.length_append] at hlength
      change 3 = _ at hlength
      omega

end Percent

end DataAccess
