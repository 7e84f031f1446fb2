import DataAccess.Json.Reader
import DataAccess.Proofs.Json.Tokens

/-!
# Compact text read back

What a reader makes of a compact text is the value with every number read back from its own text.
It is the value itself exactly if every number is.
-/

namespace DataAccess

namespace Json

mutual

/-- A value with its numbers read back, if all of them can be read. -/
def reread? : Json → Option Json
  | number n => n.reread?.map number
  | array items => (rereadItems? items).map array
  | object fields => (rereadFields? fields).map object
  | null => some null
  | bool b => some (bool b)
  | string s => some (string s)

def rereadItems? : List Json → Option (List Json)
  | [] => some []
  | item :: rest => (reread? item).bind fun item => (rereadItems? rest).map (item :: ·)

def rereadFields? : List (String × Json) → Option (List (String × Json))
  | [] => some []
  | (name, value) :: rest =>
    (reread? value).bind fun value => (rereadFields? rest).map ((name, value) :: ·)

end

theorem keys_of_rereadFields? {fields kept : Record} (h : rereadFields? fields = some kept) :
    kept.keys = fields.keys := by
  induction fields generalizing kept with
  | nil =>
      obtain rfl := Option.some.inj h
      rfl
  | cons entry rest ih =>
      obtain ⟨name, value⟩ := entry
      rw [rereadFields?] at h
      obtain ⟨value', -, h⟩ := Option.bind_eq_some_iff.mp h
      obtain ⟨others, hothers, rfl⟩ := Option.map_eq_some_iff.mp h
      exact congrArg (name :: ·) (ih hothers)

mutual

/-- Only numbers change, so names stay sorted. -/
theorem isSorted_of_reread? : ∀ {v kept : Json}, reread? v = some kept →
    kept.isSorted = v.isSorted
  | null, kept, h | bool _, kept, h | string _, kept, h => by
      obtain rfl := Option.some.inj h
      rfl
  | number n, kept, h => by
      rw [reread?] at h
      obtain ⟨m, -, rfl⟩ := Option.map_eq_some_iff.mp h
      rfl
  | array items, kept, h => by
      rw [reread?] at h
      obtain ⟨others, hitems, rfl⟩ := Option.map_eq_some_iff.mp h
      rw [isSorted, isSorted, areSorted_of_rereadItems? hitems]
  | object fields, kept, h => by
      rw [reread?] at h
      obtain ⟨others, hfields, rfl⟩ := Option.map_eq_some_iff.mp h
      have hsorted : Record.Sorted others ↔ Record.Sorted fields := by
        rw [Record.Sorted, Record.Sorted, keys_of_rereadFields? hfields]
      rw [isSorted, isSorted, areFieldsSorted_of_rereadFields? hfields, decide_eq_decide.mpr hsorted]

theorem areSorted_of_rereadItems? : ∀ {items kept : List Json},
    rereadItems? items = some kept → areSorted kept = areSorted items
  | [], kept, h => by
      obtain rfl := Option.some.inj h
      rfl
  | item :: rest, kept, h => by
      rw [rereadItems?] at h
      obtain ⟨first, hfirst, h⟩ := Option.bind_eq_some_iff.mp h
      obtain ⟨others, hothers, rfl⟩ := Option.map_eq_some_iff.mp h
      rw [areSorted, areSorted, isSorted_of_reread? hfirst, areSorted_of_rereadItems? hothers]

theorem areFieldsSorted_of_rereadFields? : ∀ {fields kept : List (String × Json)},
    rereadFields? fields = some kept → areFieldsSorted kept = areFieldsSorted fields
  | [], kept, h => by
      obtain rfl := Option.some.inj h
      rfl
  | (name, value) :: rest, kept, h => by
      rw [rereadFields?] at h
      obtain ⟨first, hfirst, h⟩ := Option.bind_eq_some_iff.mp h
      obtain ⟨others, hothers, rfl⟩ := Option.map_eq_some_iff.mp h
      rw [areFieldsSorted, areFieldsSorted, isSorted_of_reread? hfirst,
        areFieldsSorted_of_rereadFields? hothers]

end

mutual

theorem reread?_eq_self_iff : ∀ {v : Json},
    reread? v = some v ↔ ∀ n ∈ v.numbers, n.reread? = some n
  | null | bool _ | string _ => by simp [reread?, numbers]
  | number n => by simp [reread?, numbers]
  | array items => by
      rw [reread?, numbers, ← rereadItems?_eq_self_iff]
      simp
  | object fields => by
      rw [reread?, numbers, ← rereadFields?_eq_self_iff]
      simp

theorem rereadItems?_eq_self_iff : ∀ {items : List Json},
    rereadItems? items = some items ↔ ∀ n ∈ numbersOfItems items, n.reread? = some n
  | [] => by simp [rereadItems?, numbersOfItems]
  | item :: rest => by
      rw [rereadItems?, numbersOfItems, List.forall_mem_append, ← reread?_eq_self_iff,
        ← rereadItems?_eq_self_iff]
      simp [Option.bind_eq_some_iff]

theorem rereadFields?_eq_self_iff : ∀ {fields : List (String × Json)},
    rereadFields? fields = some fields ↔ ∀ n ∈ numbersOfFields fields, n.reread? = some n
  | [] => by simp [rereadFields?, numbersOfFields]
  | (name, value) :: rest => by
      rw [rereadFields?, numbersOfFields, List.forall_mem_append, ← reread?_eq_self_iff,
        ← rereadFields?_eq_self_iff]
      simp [Option.bind_eq_some_iff]

end

/-! ### Reading tokens -/

namespace Reader

theorem length_tokens_pos (v : Json) : 0 < v.tokens.length := by
  rcases v with _ | b | n | s | items | fields
  case array => cases items <;> exact Nat.succ_pos _
  case object => rcases fields with _ | ⟨⟨name, value⟩, more⟩ <;> exact Nat.succ_pos _
  all_goals exact Nat.succ_pos _

theorem length_itemTokens_pos (items : List Json) : 0 < (itemTokens items).length := by
  cases items <;> exact Nat.succ_pos _

theorem tokens_append_ne_closeList (v : Json) (rest other : List Token) :
    v.tokens ++ rest ≠ .closeList :: other := by
  intro h
  rcases v with _ | b | n | s | items | fields
  case array => cases items <;> cases h
  case object => rcases fields with _ | ⟨⟨name, value⟩, more⟩ <;> cases h
  all_goals cases h

-- An item takes one step to be begun and then those of its value, so the fuel has to be twice the
-- count of tokens. A bracket takes one from the depth.
mutual

/-- The tokens of a value are read as what is read back of it, in front of anything. -/
theorem value?_tokens : ∀ (v : Json) (fuel depth : Nat) (rest : List Token),
    2 * v.tokens.length ≤ fuel → v.depth < depth →
      value? fuel depth .whole (v.tokens ++ rest) = (reread? v).map (·, rest)
  | v, 0, _, _, hfuel, _ => by
      have hlength := length_tokens_pos v
      omega
  | .null, _ + 1, _, _, _, _ => rfl
  | .bool b, _ + 1, _, _, _, _ => rfl
  | .number n, _ + 1, _, rest, _, _ => by
      rw [tokens, reread?, Option.map_map]
      rfl
  | .string s, _ + 1, _, _, _, _ => rfl
  | .array [], fuel + 1, depth, rest, _, hdepth => by
      have hopen : ¬depth ≤ 1 := by
        simp only [Json.depth, depthOfItems] at hdepth
        omega
      change (if depth ≤ 1 then none else some (Json.array [], rest)) = _
      rw [if_neg hopen]
      rfl
  | .array (item :: more), fuel + 1, depth, rest, hfuel, hdepth => by
      rw [Json.depth] at hdepth
      rw [tokens, List.length_cons] at hfuel
      have hopen : ¬depth ≤ 1 := by omega
      have hitems := items?_tokens (item :: more) (item.tokens ++ itemTokens more) fuel (depth - 1) rest
        rfl (by omega) (by omega)
      rw [tokens, List.cons_append, value?, if_neg hopen]
      · rw [hitems, reread?]
        cases rereadItems? (item :: more) <;> rfl
      · -- The reader takes a list for empty by its next token.
        intro other hclose
        rw [List.append_assoc] at hclose
        exact tokens_append_ne_closeList item _ _ hclose
  | .object [], fuel + 1, depth, rest, _, hdepth => by
      have hopen : ¬depth ≤ 1 := by
        simp only [Json.depth, depthOfFields] at hdepth
        omega
      change (if depth ≤ 1 then none else some (Json.object [], rest)) = _
      rw [if_neg hopen]
      rfl
  | .object ((name, value) :: more), fuel + 1, depth, rest, hfuel, hdepth => by
      rw [Json.depth] at hdepth
      rw [tokens, List.length_cons] at hfuel
      have hopen : ¬depth ≤ 1 := by omega
      have hfields := fields?_tokens ((name, value) :: more)
        (.text (some name) :: .colon :: (value.tokens ++ fieldTokens more)) fuel (depth - 1) rest
        rfl (by omega) (by omega)
      rw [tokens, List.cons_append, value?, if_neg hopen]
      · rw [hfields, reread?]
        cases rereadFields? ((name, value) :: more) <;> rfl
      · nofun

theorem items?_tokens : ∀ (items : List Json) (own : List Token) (fuel depth : Nat)
    (rest : List Token), itemTokens items = .comma :: own → 2 * own.length ≤ fuel + 1 →
      depthOfItems items < depth →
        items? fuel depth .whole (own ++ rest) = (rereadItems? items).map (·, rest)
  | [], _, _, _, _, hown, _, _ => by cases hown
  | item :: more, own, 0, _, _, hown, hfuel, _ => by
      obtain rfl := (List.cons.inj hown).2
      have hrest := length_itemTokens_pos more
      rw [List.length_append] at hfuel
      have hitem := length_tokens_pos item
      omega
  | item :: more, own, fuel + 1, depth, rest, hown, hfuel, hdepth => by
      obtain rfl := (List.cons.inj hown).2
      rw [depthOfItems, Nat.max_lt] at hdepth
      rw [List.length_append] at hfuel
      have hrest := length_itemTokens_pos more
      have hitem := value?_tokens item fuel depth (itemTokens more ++ rest) (by omega) hdepth.1
      rw [items?, List.append_assoc]
      change (match value? fuel depth .whole (item.tokens ++ (itemTokens more ++ rest)) with
        | some (item, .closeList :: rest) => some ([item], rest)
        | some (item, .comma :: rest) =>
          (items? fuel depth .whole rest).map fun (items, rest) => (item :: items, rest)
        | _ => none) = _
      rw [hitem, rereadItems?]
      cases reread? item with
      | none => rfl
      | some kept =>
        cases more with
        | nil => rfl
        | cons next others =>
            have hothers := items?_tokens (next :: others) (next.tokens ++ itemTokens others) fuel
              depth rest rfl (by rw [itemTokens, List.length_cons] at hfuel; omega) hdepth.2
            change (items? fuel depth .whole (next.tokens ++ itemTokens others ++ rest)).map _ = _
            rw [hothers]
            cases rereadItems? (next :: others) <;> simp

theorem fields?_tokens : ∀ (fields : List (String × Json)) (own : List Token) (fuel depth : Nat)
    (rest : List Token), fieldTokens fields = .comma :: own → 2 * own.length ≤ fuel + 1 →
      depthOfFields fields < depth →
        fields? fuel depth .whole (own ++ rest) = (rereadFields? fields).map (·, rest)
  | [], _, _, _, _, hown, _, _ => by cases hown
  | (name, value) :: more, own, 0, _, _, hown, hfuel, _ => by
      obtain rfl := (List.cons.inj hown).2
      simp only [List.length_cons] at hfuel
      omega
  | (name, value) :: more, own, fuel + 1, depth, rest, hown, hfuel, hdepth => by
      obtain rfl := (List.cons.inj hown).2
      rw [depthOfFields, Nat.max_lt] at hdepth
      simp only [List.length_cons, List.length_append] at hfuel
      have hvalue := value?_tokens value fuel depth (fieldTokens more ++ rest) (by omega) hdepth.1
      change (match (value? fuel depth .whole (value.tokens ++ fieldTokens more ++ rest)).map
          fun (value, rest) => ([(name, value)], rest) with
        | some (entry, .closeObject :: rest) => some (entry, rest)
        | some (entry, .comma :: rest) =>
          (fields? fuel depth .whole rest).map fun (fields, rest) => (entry ++ fields, rest)
        | _ => none) = _
      rw [List.append_assoc, hvalue, rereadFields?]
      cases reread? value with
      | none => rfl
      | some kept =>
        rcases more with _ | ⟨⟨next, inner⟩, others⟩
        · rfl
        · have hothers := fields?_tokens ((next, inner) :: others)
            (.text (some next) :: .colon :: (inner.tokens ++ fieldTokens others)) fuel depth rest rfl
            (by simp only [fieldTokens, List.length_cons, List.length_append] at hfuel ⊢; omega)
            hdepth.2
          change (fields? fuel depth .whole
            (.text (some next) :: .colon :: (inner.tokens ++ fieldTokens others) ++ rest)).map _ = _
          rw [hothers]
          cases rereadFields? ((next, inner) :: others) <;> simp

end

end Reader

/-! ### Reading text -/

section Text

variable {v : Json}

theorem readPart?_compact (hn : v.numbers.all Number.isWellFormed = true)
    (hdepth : v.depth < Reader.depthLimit) :
    readPart? .whole v.compact = if haveNumerals v.numbers then reread? v else none := by
  have htext : v.compact.toList = v.compactChars := String.toList_ofList
  rw [readPart?, readAsked?, htext, Token.scan?_compactChars hn]
  by_cases hnumerals : haveNumerals v.numbers
  · have hvalue := Reader.value?_tokens v (2 * v.tokens.length + 2) Reader.depthLimit []
      (Nat.le_add_right _ 2) hdepth
    rw [List.append_nil] at hvalue
    simp only [if_pos hnumerals, Option.bind_eq_bind, Option.bind_some, hvalue]
    cases reread? v <;> rfl
  · rw [if_neg hnumerals, if_neg hnumerals]
    rfl

/-- **Compact text is read as its value** exactly if the text of each of its numbers is. -/
theorem read?_compact_iff (hv : v.isWellFormed = true) (hdepth : v.depth < Reader.depthLimit) :
    read? v.compact = some v ↔ ∀ n ∈ v.numbers, n.reread? = some n := by
  rw [isWellFormed, Bool.and_eq_true] at hv
  rw [read?, readPart?_compact hv.2 hdepth]
  constructor
  · intro h
    obtain ⟨kept, hread, hkept⟩ := Option.map_eq_some_iff.mp h
    split at hread
    case isFalse => cases hread
    -- The reader sorts what it has read, which is sorted already.
    have hsorted : kept.isSorted = true := (isSorted_of_reread? hread).trans hv.1
    rw [normalize_of_isSorted hsorted] at hkept
    exact reread?_eq_self_iff.mp (hkept ▸ hread)
  · intro h
    rw [if_pos (haveNumerals_of_reread? h), reread?_eq_self_iff.mpr h, Option.map_some,
      normalize_of_isSorted hv.1]

/-- Integers are always read back, so only floats can differ. -/
theorem read?_compact_iff_floats (hv : v.isWellFormed = true)
    (hdepth : v.depth < Reader.depthLimit) :
    read? v.compact = some v ↔
      ∀ x : Binary64, .float x ∈ v.numbers → (Number.float x).reread? = some (.float x) := by
  rw [read?_compact_iff hv hdepth]
  constructor
  · exact fun h x hx => h (.float x) hx
  · intro h n hn
    cases n with
    | float x => exact h x hn
    | int n =>
        rw [isWellFormed, Bool.and_eq_true, List.all_eq_true] at hv
        exact Number.reread?_int (of_decide_eq_true (hv.2 (.int n) hn))

end Text

end Json

end DataAccess
