import DataAccess.Proofs.Json.Tokens
import DataAccess.Proofs.Text.Base64
import DataAccess.Proofs.Text.Blank
import DataAccess.Proofs.Text.Utf8
import DataAccess.Query.Page

/-!
# Cursors read back

The cursor of a position is read as that position, with any white space around it. The text inside
has one number token for each count, and a count of 64 bits is read from its digits as it was written.
-/

namespace DataAccess

open Json Json.Token

/-! ### Positions as text -/

namespace PageCursor

variable {c : PageCursor}

/-- Both counts fit into 64 bits. -/
def IsWord (c : PageCursor) : Prop := c.limit ≤ greatestCount ∧ c.offset ≤ greatestCount

theorem compactChars_toJson (c : PageCursor) :
    c.toJson.compactChars = "\x7b\"limit\":".toList ++ ((Decimal.digitChars c.limit ++ [',']) ++
      ("\"offset\":".toList ++ (Decimal.digitChars c.offset ++ ['\x7d']))) := by
  have hdigits : ∀ n : Nat, (Json.nat n).compactChars = Decimal.digitChars n := by
    intro n
    simp [Json.nat, compactChars, Json.Number.chars, Decimal.intChars]
  have hlimit : quoteChars "limit" = "\"limit\"".toList := by decide
  have hoffset : quoteChars "offset" = "\"offset\"".toList := by decide
  simp [toJson, compactChars, compactFields, hdigits, hlimit, hoffset]

theorem isWellFormed_count {n : Nat} (h : n ≤ greatestCount) :
    (Json.Number.int n).isWellFormed = true := by
  have hleast : Json.Number.leastInt = -9223372036854775808 := rfl
  have hgreatest : Json.Number.greatestInt = 18446744073709551615 := rfl
  have hcount : greatestCount = 18446744073709551615 := rfl
  rw [Json.Number.isWellFormed, decide_eq_true_iff]
  omega

theorem scan?_toJson (h : c.IsWord) :
    scan? (c.toJson.compactChars.map some) = some [openObject, text (some "limit"), colon,
      number (some (.int c.limit)), comma, text (some "offset"), colon,
      number (some (.int c.offset)), closeObject] := by
  have hlimit := isWellFormed_count h.1
  have hoffset := isWellFormed_count h.2
  have hnumbers : c.toJson.numbers = [.int c.limit, .int c.offset] := rfl
  have hwell : c.toJson.numbers.all Json.Number.isWellFormed = true := by
    simp [hnumbers, hlimit, hoffset]
  have hreread : ∀ n ∈ c.toJson.numbers, n.reread? = some n := by
    simp only [hnumbers, List.forall_mem_cons]
    exact ⟨Json.Number.reread?_int (of_decide_eq_true hlimit),
      Json.Number.reread?_int (of_decide_eq_true hoffset), nofun⟩
  rw [scan?_compactChars hwell, if_pos (haveNumerals_of_reread? hreread)]
  simp only [hnumbers, List.forall_mem_cons] at hreread
  change some [openObject, text (some "limit"), colon, number (Json.Number.int c.limit).reread?,
    comma, text (some "offset"), colon, number (Json.Number.int c.offset).reread?, closeObject] = _
  rw [hreread.1, hreread.2.1]

theorem readAsked?_toJson (h : c.IsWord) :
    readAsked? (.names members) (c.toJson.compactChars.map some) = some c.toJson := by
  have hread : ∀ limit offset : Int, Reader.value? 20 Reader.depthLimit (.names members)
      [openObject, text (some "limit"), colon, number (some (.int limit)), comma,
        text (some "offset"), colon, number (some (.int offset)), closeObject] =
      some (.object [("limit", .int limit), ("offset", .int offset)], []) := fun _ _ => rfl
  rw [readAsked?, scan?_toJson h, Option.bind_eq_bind, Option.bind_some, List.length_cons]
  simp only [List.length_cons, List.length_nil, hread, Option.bind_eq_bind, Option.bind_some,
    List.isEmpty_nil, if_true]
  rfl

theorem ofJson?_toJson (h : c.IsWord) : ofJson? c.toJson = some c := by
  have hword : ∀ n : Nat, n ≤ greatestCount → Decode.word? 64 (.nat n) = some n := by
    intro n hn
    have htwo : twoTo 64 = greatestCount + 1 := by decide
    have hlt : (n : Int) < twoTo 64 := by
      rw [htwo]
      exact Int.ofNat_lt.mpr (Nat.lt_succ_of_le hn)
    rw [Json.nat, Decode.word?, if_pos ⟨Int.natCast_nonneg n, hlt⟩, Int.toNat_natCast]
  have hlimit : ∀ limit offset : Json,
      Decode.field? [("limit", limit), ("offset", offset)] "limit" (Decode.word? 64) =
        Decode.word? 64 limit := fun _ _ => rfl
  have hoffset : ∀ limit offset : Json,
      Decode.field? [("limit", limit), ("offset", offset)] "offset" (Decode.word? 64) =
        Decode.word? 64 offset := fun _ _ => rfl
  have hmembers : Decode.members? members
      (.object [("limit", .nat c.limit), ("offset", .nat c.offset)]) =
    some [("limit", .nat c.limit), ("offset", .nat c.offset)] := rfl
  rw [ofJson?, toJson, hmembers, Option.bind_eq_bind, Option.bind_some, hlimit, hoffset,
    hword c.limit h.1, hword c.offset h.2]
  rfl

theorem decode_eq_ok (h : c.IsWord) {text : String} {before after : List Char}
    (htext : text.toList = before ++ c.encode.toList ++ after)
    (hbefore : ∀ d ∈ before, Text.isBlank d = true) (hafter : ∀ d ∈ after, Text.isBlank d = true) :
    decode text = .ok c := by
  have htrim : Text.trimChars text.toList =
      Base64.encode (Utf8.encode c.toJson.compactChars) := by
    rw [htext, encode, String.toList_ofList]
    refine Text.trimChars_append hbefore hafter ?_ ?_
    · exact fun d hd => Base64.isBlank_of_mem_encode (List.mem_of_head? hd)
    · exact fun d hd => Base64.isBlank_of_mem_encode (List.mem_of_getLast? hd)
  rw [decode, htrim, Base64.decode?_encode]
  dsimp only
  rw [Utf8.units_encode, readAsked?_toJson h, Option.bind_some, ofJson?_toJson h]

theorem decode_encode (h : c.IsWord) : decode c.encode = .ok c := by
  have hnone : ∀ d ∈ ([] : List Char), Text.isBlank d = true := by simp
  exact decode_eq_ok h (by simp) hnone hnone

theorem toList_encode_ne_nil (c : PageCursor) : c.encode.toList ≠ [] := by
  rw [encode, String.toList_ofList]
  refine Base64.encode_ne_nil ?_
  rw [compactChars_toJson]
  simp [Utf8.encode, Utf8.encodeChar]

theorem encode_ne_empty (c : PageCursor) : c.encode ≠ "" :=
  fun h => c.toList_encode_ne_nil (congrArg String.toList h)

end PageCursor

namespace PageLimits

/-- The position of a request with a cursor is that of the cursor, whatever else it asks for. -/
theorem position_of_decode {params : Params} {page : String} {c : PageCursor}
    (hpage : params.get? "page" = some page) (hne : page ≠ "") (hc : PageCursor.decode page = .ok c)
    (limits : PageLimits) : limits.position params = .ok ⟨min c.limit limits.ceiling, c.offset⟩ := by
  rw [position, hpage]
  simp only [if_neg hne, hc]
  rfl

end PageLimits

namespace PageCursor

/-- **A cursor is its position.** The cursor of two counts of 64 bits is read as these counts, with
white space around it or without; a request that gives it asks for them, the limit cut to the
greatest length, and no other position has the same cursor. -/
theorem cursor_round_trip (c : PageCursor) (h : c.IsWord) :
    (∀ (text : String) (before after : List Char),
      text.toList = before ++ c.encode.toList ++ after →
      (∀ d ∈ before, Text.isBlank d = true) → (∀ d ∈ after, Text.isBlank d = true) →
        decode text = .ok c ∧
          ∀ (limits : PageLimits) (params : Params), params.get? "page" = some text →
            limits.position params = .ok ⟨min c.limit limits.ceiling, c.offset⟩) ∧
      ∀ d : PageCursor, d.IsWord → d.encode = c.encode → d = c := by
  refine ⟨?_, ?_⟩
  · intro text before after htext hbefore hafter
    have hdecode : decode text = .ok c := decode_eq_ok h htext hbefore hafter
    refine ⟨hdecode, fun limits params hpage => PageLimits.position_of_decode hpage ?_ hdecode limits⟩
    rintro rfl
    have hnil := (List.append_eq_nil_iff.mp (List.append_eq_nil_iff.mp htext.symm).1).2
    exact c.toList_encode_ne_nil hnil
  · intro d hd hsame
    have hback := decode_encode hd
    rw [hsame, decode_encode h] at hback
    exact (Except.ok.inj hback).symm

/-- The greatest position there is, in a request that names another one as well. -/
theorem cursor_round_trip_greatest :
    ∃ text : String, text.toList = [' ', '\t'] ++ (mk greatestCount greatestCount).encode.toList ++ ['\n'] ∧
      decode text = .ok ⟨greatestCount, greatestCount⟩ ∧
      PageLimits.position ⟨20, 1000⟩ [("page", text), ("limit", "50"), ("offset", "x")] =
        .ok ⟨1000, greatestCount⟩ ∧
      ∀ d : PageCursor, d.IsWord → d.encode = (mk greatestCount greatestCount).encode →
        d = ⟨greatestCount, greatestCount⟩ := by
  let text := String.ofList ([' ', '\t'] ++ (mk greatestCount greatestCount).encode.toList ++ ['\n'])
  have htext : text.toList =
      [' ', '\t'] ++ (mk greatestCount greatestCount).encode.toList ++ ['\n'] := String.toList_ofList
  obtain ⟨hread, honly⟩ := cursor_round_trip ⟨greatestCount, greatestCount⟩
    ⟨Nat.le_refl _, Nat.le_refl _⟩
  obtain ⟨hdecode, hposition⟩ := hread text _ _ htext (by simp [Text.isBlank]) (by simp [Text.isBlank])
  exact ⟨text, htext, hdecode, hposition _ _ rfl, honly⟩

end PageCursor

end DataAccess
