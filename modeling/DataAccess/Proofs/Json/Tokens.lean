import DataAccess.Json.Token
import DataAccess.Json.Writer
import DataAccess.Proofs.Json.Numeral
import DataAccess.Proofs.Json.WellFormed
import DataAccess.Proofs.Text.Hex

/-!
# Compact text and its tokens

The scanner finds in a compact text the tokens of its value. Texts lose their escapes and are what
they were. A number is the token of what its text writes, so the scan fails exactly if the text of a
number writes none.
-/

namespace DataAccess

namespace Json

namespace Token

/-- The tokens of the rest of a text, behind those of its front. -/
def scanFrom? (tokens : List Token) (text : List Char) : Option (List Token) :=
  ((text.map some).foldlM Scan.step? ⟨tokens, .gap⟩).bind Scan.finish?

theorem scan?_eq (text : List Char) : scan? (text.map some) = scanFrom? [] text := rfl

/-! ### Marks and bare characters -/

theorem Scan.isBare_of_isDigit {c : Char} (h : Decimal.isDigit c = true) :
    Scan.isBare c = true :=
  Decimal.of_isDigit (P := fun c => Scan.isBare c = true) (by decide) h

theorem Scan.start_of_isBare {c : Char} (h : Scan.isBare c = true) (tokens : List Token) :
    Scan.start tokens c = ⟨tokens, .bare [c]⟩ := by
  simp only [Scan.isBare, Bool.and_eq_true, Bool.not_eq_true', decide_eq_true_eq,
    Option.isNone_iff_eq_none] at h
  simp [Scan.start, h]

/-- Characters that belong together are kept until one comes that does not. -/
theorem foldlM_step?_bare {chars : List Char} (h : ∀ c ∈ chars, Scan.isBare c = true)
    (tokens : List Token) (begun : List Char) :
    (chars.map some).foldlM Scan.step? ⟨tokens, .bare begun⟩ =
      some ⟨tokens, .bare (chars.reverse ++ begun)⟩ := by
  induction chars generalizing begun with
  | nil => rfl
  | cons c rest ih =>
      have hc : Scan.step? ⟨tokens, .bare begun⟩ (some c) = some ⟨tokens, .bare (c :: begun)⟩ := by
        rw [Scan.step?]
        exact if_pos (h c List.mem_cons_self)
      rw [List.map_cons, List.foldlM_cons, hc]
      simpa using ih (fun d hd => h d (List.mem_cons_of_mem c hd)) (c :: begun)

/-- Bare characters are one token, once something ends them. -/
theorem scanFrom?_bare {chars rest : List Char} (hchars : chars.all Scan.isBare = true)
    (hsome : chars ≠ []) (hrest : ∀ c ∈ rest.head?, Scan.isBare c = false) (tokens : List Token) :
    scanFrom? tokens (chars ++ rest) =
      (ofBare? chars).bind fun token => scanFrom? (token :: tokens) rest := by
  rw [List.all_eq_true] at hchars
  have hbegun : (chars.map some).foldlM Scan.step? ⟨tokens, .gap⟩ =
      some ⟨tokens, .bare chars.reverse⟩ := by
    cases chars with
    | nil => exact absurd rfl hsome
    | cons c more =>
        have hfirst : Scan.step? ⟨tokens, .gap⟩ (some c) = some ⟨tokens, .bare [c]⟩ := by
          rw [Scan.step?]
          exact congrArg some (Scan.start_of_isBare (hchars c List.mem_cons_self) tokens)
        rw [List.map_cons, List.foldlM_cons, hfirst, List.reverse_cons]
        exact foldlM_step?_bare (fun d hd => hchars d (List.mem_cons_of_mem c hd)) tokens [c]
  rw [scanFrom?, List.map_append, List.foldlM_append, hbegun, Option.bind_eq_bind, Option.bind_some]
  cases rest with
  | nil =>
      change Scan.finish? ⟨tokens, .bare chars.reverse⟩ = _
      simp only [Scan.finish?, List.reverse_reverse]
      cases ofBare? chars <;> rfl
  | cons c more =>
      have hend : Scan.step? ⟨tokens, .bare chars.reverse⟩ (some c) =
          (ofBare? chars).map fun token => Scan.start (token :: tokens) c := by
        rw [Scan.step?]
        simp only [hrest c rfl, List.reverse_reverse]
        rfl
      rw [List.map_cons, List.foldlM_cons, hend]
      cases ofBare? chars <;> rfl

/-! ### Texts -/

/-- Whether a character is escaped by its number. -/
def isCoded (c : Char) : Bool :=
  decide (c.toNat < 32) && !"\n\r\t\x08\x0c".toList.contains c

/-- What a scanner keeps of an escaped character. -/
def pieceOf (c : Char) : Piece := if isCoded c then .code c.toNat else .char c

theorem foldlM_step?_unit {a b : Char} {x y : Nat} (ha : Hex.digit? a = some x)
    (hb : Hex.digit? b = some y) (tokens : List Token) (pieces : List Piece) :
    (['\\', 'u', '0', '0', a, b].map some).foldlM Scan.step? ⟨tokens, .text pieces⟩ =
      some ⟨tokens, .text (.code (16 * x + y) :: pieces)⟩ := by
  have hzeros : (['\\', 'u', '0', '0'].map some).foldlM Scan.step? ⟨tokens, .text pieces⟩ =
      some ⟨tokens, .unit pieces 2 0⟩ := rfl
  have hsplit : ['\\', 'u', '0', '0', a, b].map some =
      ['\\', 'u', '0', '0'].map some ++ [some a, some b] := rfl
  rw [hsplit, List.foldlM_append, hzeros]
  simp [Scan.step?, ha, hb]

/-- An escaped character is one piece. -/
theorem foldlM_step?_escapeChar (c : Char) (tokens : List Token) (pieces : List Piece) :
    ((escapeChar c).map some).foldlM Scan.step? ⟨tokens, .text pieces⟩ =
      some ⟨tokens, .text (pieceOf c :: pieces)⟩ := by
  have hofNat : ∀ n, c.toNat = n → c = Char.ofNat n := by
    rintro _ rfl
    exact (Char.ofNat_toNat c).symm
  rw [escapeChar]
  split
  next h => subst h; rfl
  split
  next h => subst h; rfl
  split
  next h => subst h; rfl
  split
  next h => subst h; rfl
  split
  next h => subst h; rfl
  split
  next h => rw [hofNat 8 h]; rfl
  split
  next h => rw [hofNat 12 h]; rfl
  split
  next hquote hslash hn hr ht hb hf hcode =>
    have hpiece : pieceOf c = .code c.toNat := by
      have h8 : c ≠ '\x08' := fun h => hb (by rw [h]; rfl)
      have h12 : c ≠ '\x0c' := fun h => hf (by rw [h]; rfl)
      simp [pieceOf, isCoded, hcode, hn, hr, ht, h8, h12]
    have hvalue : 16 * (c.toNat / 16) + c.toNat % 16 = c.toNat := Nat.div_add_mod _ _
    rw [foldlM_step?_unit (Hex.digit?_char (by omega)) (Hex.digit?_char (by omega)), hvalue, hpiece]
  next hquote hslash hn hr ht hb hf hplain =>
    have hpiece : pieceOf c = .char c := by simp [pieceOf, isCoded, hplain]
    have hless : ¬c < ' ' := fun h => hplain h
    rw [hpiece]
    simp [Scan.step?, hquote, hslash, hless]

theorem foldlM_step?_escaped (chars : List Char) (tokens : List Token) (pieces : List Piece) :
    ((chars.flatMap escapeChar).map some).foldlM Scan.step? ⟨tokens, .text pieces⟩ =
      some ⟨tokens, .text ((chars.map pieceOf).reverse ++ pieces)⟩ := by
  induction chars generalizing pieces with
  | nil => rfl
  | cons c rest ih =>
      rw [List.flatMap_cons, List.map_append, List.foldlM_append, foldlM_step?_escapeChar,
        Option.bind_eq_bind, Option.bind_some, ih]
      simp

/-- A control character is no half of a surrogate pair. -/
theorem join?_code {unit : Nat} (h : unit < 32) (rest : List Piece) (text : List Char) :
    Piece.join? (.code unit :: rest) text = Piece.join? rest (Char.ofNat unit :: text) := by
  have hlow : Piece.isLow unit = false := by
    rw [Piece.isLow, decide_eq_false_iff_not]
    omega
  have hhigh : Piece.isHigh unit = false := by
    rw [Piece.isHigh, decide_eq_false_iff_not]
    omega
  cases rest with
  | nil => simp [Piece.join?, hlow, hhigh]
  | cons first more =>
      cases first with
      | code other => simp [Piece.join?, hlow, hhigh]
      | char c => simp [Piece.join?, hlow, hhigh]
      | malformed => simp [Piece.join?, hlow, hhigh]

theorem join?_pieceOf (c : Char) (rest : List Piece) (text : List Char) :
    Piece.join? (pieceOf c :: rest) text = Piece.join? rest (c :: text) := by
  rw [pieceOf]
  split
  next h =>
    rw [isCoded, Bool.and_eq_true, decide_eq_true_iff] at h
    rw [join?_code h.1, Char.ofNat_toNat]
  next _ => rw [Piece.join?]

theorem join?_reverse_map_pieceOf (chars text : List Char) :
    Piece.join? (chars.map pieceOf).reverse text = some (chars ++ text) := by
  rw [← List.map_reverse]
  have hjoin : ∀ backwards : List Char,
      Piece.join? (backwards.map pieceOf) text = some (backwards.reverse ++ text) := by
    intro backwards
    induction backwards generalizing text with
    | nil => rfl
    | cons c rest ih => rw [List.map_cons, join?_pieceOf, ih, List.reverse_cons]; simp
  rw [hjoin, List.reverse_reverse]

/-- A quoted text is the token of what it was. -/
theorem scanFrom?_quote (s : String) (tokens : List Token) (rest : List Char) :
    scanFrom? tokens (quoteChars s ++ rest) = scanFrom? (text (some s) :: tokens) rest := by
  have hopen : Scan.step? ⟨tokens, .gap⟩ (some '"') = some ⟨tokens, .text []⟩ := rfl
  have hclose : Scan.step? ⟨tokens, .text (s.toList.map pieceOf).reverse⟩ (some '"') =
      some ⟨text (some s) :: tokens, .gap⟩ := by
    rw [Scan.step?]
    simp only [if_true, ofPieces, join?_reverse_map_pieceOf, List.append_nil, Option.map_some,
      String.ofList_toList]
  have hsplit : quoteChars s ++ rest = '"' :: (s.toList.flatMap escapeChar ++ '"' :: rest) := by
    simp [quoteChars]
  rw [scanFrom?, hsplit, List.map_cons, List.foldlM_cons, hopen, Option.bind_eq_bind,
    Option.bind_some, List.map_append, List.foldlM_append, foldlM_step?_escaped,
    Option.bind_eq_bind, Option.bind_some, List.append_nil, List.map_cons, List.foldlM_cons, hclose]
  rfl

/-! ### Numbers -/

/-- The characters that numbers are written in. -/
def isNumeric (c : Char) : Bool := Decimal.isDigit c || "-+.e".toList.contains c

theorem Scan.isBare_of_isNumeric {c : Char} (h : isNumeric c = true) : Scan.isBare c = true := by
  rw [isNumeric, Bool.or_eq_true, List.contains_iff_mem] at h
  rcases h with hdigit | hsign
  · exact Scan.isBare_of_isDigit hdigit
  · have hsigns : "-+.e".toList.all Scan.isBare = true := by decide
    exact List.all_eq_true.mp hsigns c hsign

theorem isNumeric_of_mem_digitChars {n : Nat} {c : Char} (h : c ∈ Decimal.digitChars n) :
    isNumeric c = true := by
  rw [isNumeric, Decimal.isDigit_of_mem_digitChars h, Bool.true_or]

theorem isNumeric_of_mem_positionalChars {keepsPoint : Bool} {d : Decimal} {c : Char}
    (h : c ∈ Decimal.positionalChars keepsPoint d) : isNumeric c = true := by
  have hzero : ∀ {count : Nat}, c ∈ List.replicate count '0' → isNumeric c = true := by
    intro count hc
    rw [List.eq_of_mem_replicate hc]
    rfl
  unfold Decimal.positionalChars at h
  dsimp only at h
  split at h
  · rcases List.mem_append.mp h with h | h
    · rcases List.mem_append.mp h with h | h
      · exact isNumeric_of_mem_digitChars h
      · exact hzero h
    · split at h
      · have hpoint : ['.', '0'].all isNumeric = true := by decide
        exact List.all_eq_true.mp hpoint c h
      · cases h
  split at h
  · rcases List.mem_append.mp h with h | h
    · exact isNumeric_of_mem_digitChars (List.mem_of_mem_take h)
    · rcases List.mem_cons.mp h with rfl | h
      · rfl
      · exact isNumeric_of_mem_digitChars (List.mem_of_mem_drop h)
  · rcases List.mem_cons.mp h with rfl | h
    · rfl
    rcases List.mem_append.mp h with h | h
    · rcases List.mem_cons.mp h with rfl | h
      · rfl
      · exact hzero h
    · exact isNumeric_of_mem_digitChars h

theorem isNumeric_of_mem_scientificChars {d : Decimal} {c : Char}
    (h : c ∈ Decimal.scientificChars d) : isNumeric c = true := by
  unfold Decimal.scientificChars at h
  dsimp only at h
  rcases List.mem_append.mp h with h | h
  · split at h
    next _ =>
      rw [List.mem_singleton.mp h]
      rfl
    next only hdigits =>
      exact isNumeric_of_mem_digitChars (n := d.digits) (by rw [hdigits]; exact h)
    next first rest _ hdigits =>
      rcases List.mem_cons.mp h with rfl | h
      · exact isNumeric_of_mem_digitChars (n := d.digits) (by rw [hdigits]; exact List.mem_cons_self)
      rcases List.mem_cons.mp h with rfl | h
      · rfl
      · exact isNumeric_of_mem_digitChars (n := d.digits)
          (by rw [hdigits]; exact List.mem_cons_of_mem _ h)
  · rcases List.mem_cons.mp h with rfl | h
    · rfl
    rcases List.mem_cons.mp h with rfl | h
    · split <;> rfl
    · exact isNumeric_of_mem_digitChars h

theorem isNumeric_of_mem_intChars {n : Int} {c : Char} (h : c ∈ Decimal.intChars n) :
    isNumeric c = true := by
  rw [Decimal.intChars] at h
  split at h
  · rcases List.mem_cons.mp h with rfl | h
    · rfl
    · exact isNumeric_of_mem_digitChars h
  · exact isNumeric_of_mem_digitChars h

theorem isNumeric_of_mem_chars {n : Number} (hn : n.isWellFormed = true) {c : Char}
    (h : c ∈ n.chars) : isNumeric c = true := by
  cases n with
  | int n => exact isNumeric_of_mem_intChars h
  | float x =>
      have hfinite : x.isFinite = true := hn
      rw [Number.chars, if_pos hfinite] at h
      cases x with
      | infinite _ | nan => cases hfinite
      | finite negative significand exponent =>
          rw [Binary64.text] at h
          rcases List.mem_append.mp h with h | h
          · split at h
            · rw [List.mem_singleton.mp h]
              rfl
            · cases h
          · unfold Decimal.Layout.write at h
            dsimp only at h
            split at h
            · exact isNumeric_of_mem_positionalChars h
            · exact isNumeric_of_mem_scientificChars h

theorem chars_ne_nil {n : Number} (hn : n.isWellFormed = true) : n.chars ≠ [] := by
  cases n with
  | int n =>
      rw [Number.chars, Decimal.intChars]
      split
      · exact List.cons_ne_nil _ _
      · exact Decimal.digitChars_ne_nil _
  | float x =>
      have hfinite : x.isFinite = true := hn
      rw [Number.chars, if_pos hfinite]
      cases x with
      | infinite _ | nan => cases hfinite
      | finite negative significand exponent =>
          rw [Binary64.text]
          refine List.append_ne_nil_of_right_ne_nil _ ?_
          unfold Decimal.Layout.write
          dsimp only
          split
          · unfold Decimal.positionalChars
            dsimp only
            split
            · simp [Decimal.digitChars_ne_nil]
            split
            · simp
            · simp
          · simp [Decimal.scientificChars]

/-- A number is no word, and the token of what its text writes. -/
theorem ofBare?_chars {n : Number} (hn : n.isWellFormed = true) :
    ofBare? n.chars = (Numeral.read? n.chars).map fun numeral => number numeral.value? := by
  have hword : ∀ c rest, isNumeric c = false → n.chars ≠ c :: rest := by
    intro c rest hc h
    have hnumeric := isNumeric_of_mem_chars hn (h ▸ List.mem_cons_self)
    rw [hc] at hnumeric
    cases hnumeric
  rw [ofBare?, if_neg (hword _ _ rfl), if_neg (hword _ _ rfl), if_neg (hword _ _ rfl)]

end Token

/-! ### Values -/

mutual

/-- The tokens of a compact text. -/
def tokens : Json → List Token
  | null => [.null]
  | bool b => [.bool b]
  | number n => [.number n.reread?]
  | string s => [.text (some s)]
  | array [] => [.openList, .closeList]
  | array (item :: rest) => .openList :: (tokens item ++ itemTokens rest)
  | object [] => [.openObject, .closeObject]
  | object ((name, value) :: rest) =>
    .openObject :: .text (some name) :: .colon :: (tokens value ++ fieldTokens rest)

/-- The tokens behind an item, up to the bracket. -/
def itemTokens : List Json → List Token
  | [] => [.closeList]
  | item :: rest => .comma :: (tokens item ++ itemTokens rest)

/-- The tokens behind a field, up to the brace. -/
def fieldTokens : List (String × Json) → List Token
  | [] => [.closeObject]
  | (name, value) :: rest =>
    .comma :: .text (some name) :: .colon :: (tokens value ++ fieldTokens rest)

end

/-- Whether the text of every number of a list writes a number. -/
def haveNumerals (numbers : List Number) : Bool :=
  numbers.all fun n => (Numeral.read? n.chars).isSome

theorem haveNumerals_of_reread? {numbers : List Number}
    (h : ∀ n ∈ numbers, n.reread? = some n) : haveNumerals numbers = true := by
  rw [haveNumerals, List.all_eq_true]
  intro n hn
  have hread := h n hn
  rw [Number.reread?] at hread
  obtain ⟨numeral, hnumeral, -⟩ := Option.bind_eq_some_iff.mp hread
  rw [hnumeral]
  rfl

namespace Token

theorem scanFrom?_mark (token : Token) {c : Char} (hmark : mark? c = some token)
    (hblank : isBlank c = false) (hquote : c ≠ '"') (tokens : List Token) (rest : List Char) :
    scanFrom? tokens (c :: rest) = scanFrom? (token :: tokens) rest := by
  have hstep : Scan.step? ⟨tokens, .gap⟩ (some c) = some ⟨token :: tokens, .gap⟩ := by
    simp [Scan.step?, Scan.start, hblank, hquote, hmark]
  rw [scanFrom?, List.map_cons, List.foldlM_cons, hstep]
  rfl

theorem scanFrom?_chars {n : Number} (hn : n.isWellFormed = true) {rest : List Char}
    (hrest : ∀ c ∈ rest.head?, Scan.isBare c = false) (tokens : List Token) :
    scanFrom? tokens (n.chars ++ rest) =
      if haveNumerals [n] then scanFrom? (.number n.reread? :: tokens) rest else none := by
  have hbare : n.chars.all Scan.isBare = true :=
    List.all_eq_true.mpr fun c hc => Scan.isBare_of_isNumeric (isNumeric_of_mem_chars hn hc)
  rw [scanFrom?_bare hbare (chars_ne_nil hn) hrest, ofBare?_chars hn, Number.reread?, haveNumerals]
  cases hread : Numeral.read? n.chars <;> simp [hread]

theorem isBare_of_head?_compactItems {items : List Json} {rest : List Char} :
    ∀ c ∈ (compactItems items ++ rest).head?, Scan.isBare c = false := by
  cases items <;> (rintro c ⟨⟩; rfl)

theorem isBare_of_head?_compactFields {fields : List (String × Json)} {rest : List Char} :
    ∀ c ∈ (compactFields fields ++ rest).head?, Scan.isBare c = false := by
  rcases fields with _ | ⟨⟨name, value⟩, more⟩ <;> (rintro c ⟨⟩; rfl)

theorem haveNumerals_append (first second : List Number) :
    haveNumerals (first ++ second) = (haveNumerals first && haveNumerals second) :=
  List.all_append

mutual

/-- **Compact texts are scanned into the tokens of their values**, or not at all. -/
theorem scanFrom?_compactChars : ∀ (v : Json), (v.numbers.all Number.isWellFormed) = true →
    ∀ (before : List Token) (rest : List Char), (∀ c ∈ rest.head?, Scan.isBare c = false) →
      scanFrom? before (compactChars v ++ rest) =
        if haveNumerals v.numbers then scanFrom? (v.tokens.reverse ++ before) rest else none
  | .null, _, before, rest, hrest => by
      rw [compactChars, scanFrom?_bare (by decide) (by decide) hrest]
      rfl
  | .bool true, _, before, rest, hrest => by
      rw [compactChars, scanFrom?_bare (by decide) (by decide) hrest]
      rfl
  | .bool false, _, before, rest, hrest => by
      rw [compactChars, scanFrom?_bare (by decide) (by decide) hrest]
      rfl
  | .number n, hn, before, rest, hrest => by
      have hwell : n.isWellFormed = true := by simpa [numbers] using hn
      rw [compactChars, scanFrom?_chars hwell hrest, numbers, tokens]
      rfl
  | .string s, _, before, rest, _ => by
      rw [compactChars, scanFrom?_quote]
      rfl
  | .array [], _, before, rest, _ => rfl
  | .array (item :: more), hn, before, rest, _ => by
      have hsplit : compactChars (.array (item :: more)) ++ rest =
          '[' :: (compactChars item ++ (compactItems more ++ rest)) := by
        simp [compactChars]
      rw [numbers, numbersOfItems, List.all_append, Bool.and_eq_true] at hn
      rw [hsplit, scanFrom?_mark .openList rfl rfl (by decide),
        scanFrom?_compactChars item hn.1 _ _ isBare_of_head?_compactItems,
        scanFrom?_compactItems more hn.2, numbers, numbersOfItems, haveNumerals_append, tokens]
      cases haveNumerals item.numbers <;> simp
  | .object [], _, before, rest, _ => rfl
  | .object ((name, value) :: more), hn, before, rest, _ => by
      have hsplit : compactChars (.object ((name, value) :: more)) ++ rest =
          '\x7b' :: (quoteChars name ++ (':' :: (compactChars value ++ (compactFields more ++ rest)))) := by
        simp [compactChars]
      rw [numbers, numbersOfFields, List.all_append, Bool.and_eq_true] at hn
      rw [hsplit, scanFrom?_mark .openObject rfl rfl (by decide), scanFrom?_quote,
        scanFrom?_mark .colon rfl rfl (by decide),
        scanFrom?_compactChars value hn.1 _ _ isBare_of_head?_compactFields,
        scanFrom?_compactFields more hn.2, numbers, numbersOfFields, haveNumerals_append, tokens]
      cases haveNumerals value.numbers <;> simp

theorem scanFrom?_compactItems : ∀ (items : List Json),
    ((numbersOfItems items).all Number.isWellFormed) = true →
    ∀ (before : List Token) (rest : List Char),
      scanFrom? before (compactItems items ++ rest) =
        if haveNumerals (numbersOfItems items) then
          scanFrom? ((itemTokens items).reverse ++ before) rest
        else none
  | [], _, before, rest => rfl
  | item :: more, hn, before, rest => by
      have hsplit : compactItems (item :: more) ++ rest =
          ',' :: (compactChars item ++ (compactItems more ++ rest)) := by
        simp [compactItems]
      rw [numbersOfItems, List.all_append, Bool.and_eq_true] at hn
      rw [hsplit, scanFrom?_mark .comma rfl rfl (by decide),
        scanFrom?_compactChars item hn.1 _ _ isBare_of_head?_compactItems,
        scanFrom?_compactItems more hn.2, numbersOfItems, haveNumerals_append, itemTokens]
      cases haveNumerals item.numbers <;> simp

theorem scanFrom?_compactFields : ∀ (fields : List (String × Json)),
    ((numbersOfFields fields).all Number.isWellFormed) = true →
    ∀ (before : List Token) (rest : List Char),
      scanFrom? before (compactFields fields ++ rest) =
        if haveNumerals (numbersOfFields fields) then
          scanFrom? ((fieldTokens fields).reverse ++ before) rest
        else none
  | [], _, before, rest => rfl
  | (name, value) :: more, hn, before, rest => by
      have hsplit : compactFields ((name, value) :: more) ++ rest =
          ',' :: (quoteChars name ++ (':' :: (compactChars value ++ (compactFields more ++ rest)))) := by
        simp [compactFields]
      rw [numbersOfFields, List.all_append, Bool.and_eq_true] at hn
      rw [hsplit, scanFrom?_mark .comma rfl rfl (by decide), scanFrom?_quote,
        scanFrom?_mark .colon rfl rfl (by decide),
        scanFrom?_compactChars value hn.1 _ _ isBare_of_head?_compactFields,
        scanFrom?_compactFields more hn.2, numbersOfFields, haveNumerals_append, fieldTokens]
      cases haveNumerals value.numbers <;> simp

end

theorem scan?_compactChars {v : Json} (hn : v.numbers.all Number.isWellFormed = true) :
    scan? (v.compactChars.map some) = if haveNumerals v.numbers then some v.tokens else none := by
  have hscan := scanFrom?_compactChars v hn [] [] (by simp)
  rw [List.append_nil] at hscan
  rw [scan?_eq, hscan, List.append_nil]
  split
  · change some v.tokens.reverse.reverse = _
    rw [List.reverse_reverse]
  · rfl

end Token

end Json

end DataAccess
