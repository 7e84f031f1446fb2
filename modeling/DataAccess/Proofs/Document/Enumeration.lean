import DataAccess.Proofs.Document.Pages
import DataAccess.Proofs.Document.RowOrigin
import DataAccess.Proofs.Query.PageLinks

/-!
# Pages one after the other

Each page names the next by a cursor. From the first row on, the pages that are reached by cursors hold
every row of the read once and in order, and end with the row that is the last.
-/

namespace DataAccess

open Dialogue

/-! ### Where pages begin -/

/-- A count in digits is read as that count. -/
theorem PageLimits.countParam_digitChars {params : Params} {key : String} {n : Nat}
    (hword : n ≤ greatestCount)
    (hparam : params.get? key = some (String.ofList (Decimal.digitChars n))) :
    countParam params key = .ok (some n) := by
  have htrim : Text.trimChars (Decimal.digitChars n) = Decimal.digitChars n := by
    refine Text.trimChars_of_ends (fun c hc => ?_) (fun c hc => ?_)
    · exact Decimal.isBlank_of_isDigit (Decimal.isDigit_of_mem_digitChars (List.mem_of_head? hc))
    · exact Decimal.isBlank_of_isDigit (Decimal.isDigit_of_mem_digitChars (List.mem_of_getLast? hc))
  have hsome : (Decimal.digitChars n).isEmpty = false :=
    List.isEmpty_eq_false_iff.mpr (Decimal.digitChars_ne_nil n)
  have hread := Decimal.readWord?_digitChars (Nat.lt_of_le_of_lt hword (by decide))
  simp only [countParam, hparam, String.toList_ofList, htrim, hsome, hread, Bool.false_eq_true,
    if_false]

namespace Params

/-- The same read from its first row on, in pages of a limit. A blank cursor is as good as none. -/
def fromStart (params : Params) (limit : Nat) : Params :=
  params ++ [("page", "")] ++ [("limit", String.ofList (Decimal.digitChars limit))] ++
    [("offset", "0")]

theorem sameRead_fromStart (params : Params) (limit : Nat) :
    params.SameRead (params.fromStart limit) :=
  ((sameRead_append (by decide) _ _).trans (sameRead_append (by decide) _ _)).trans
    (sameRead_append (by decide) _ _)

/-- Every limit that the settings allow can be asked for. -/
theorem position_fromStart (params : Params) {limits : PageLimits} {limit : Nat}
    (hceiling : limit ≤ limits.ceiling) (hword : limit ≤ greatestCount) :
    limits.position (params.fromStart limit) = .ok ⟨limit, 0⟩ := by
  have hpage : (params.fromStart limit).get? "page" = some "" := by
    simp only [fromStart, get?_append_singleton]
    rfl
  have hlimit : PageLimits.countParam (params.fromStart limit) "limit" = .ok (some limit) := by
    refine PageLimits.countParam_digitChars hword ?_
    simp only [fromStart, get?_append_singleton]
    rfl
  have hoffset : PageLimits.countParam (params.fromStart limit) "offset" = .ok (some 0) := by
    refine PageLimits.countParam_digitChars (by decide) ?_
    simp only [fromStart, get?_append_singleton]
    rfl
  have hexplicit : limits.explicit (params.fromStart limit) = .ok ⟨limit, 0⟩ := by
    rw [PageLimits.explicit, hlimit, hoffset]
    rfl
  rw [PageLimits.position_eq, PageLimits.stated, hpage]
  simp only [if_true, hexplicit, Except.map, Nat.min_eq_left hceiling]

end Params

/-! ### Following cursors -/

/-- Pages that are asked for one after the other, until one names no next: every request but the first
gives the cursor of the page before, and is for the rest the same read. -/
inductive Followed {σ : Type} (answer : Params → σ → Except EngineError Response × σ) :
    Params → σ → List Page → σ → Prop
  | last {asked : Params} {state after : σ} {page : Page}
    (hpage : answer asked state = (.ok (.page page), after))
    (hlast : page.pagination.page.next = none) : Followed answer asked state [page] after
  | next {asked following : Params} {state middle after : σ} {page : Page} {pages : List Page}
    {cursor : String} (hpage : answer asked state = (.ok (.page page), middle))
    (hnext : page.pagination.page.next = some cursor) (hread : asked.SameRead following)
    (hcursor : following.get? "page" = some cursor)
    (hrest : Followed answer following middle pages after) :
    Followed answer asked state (page :: pages) after

section Followed

variable {σ : Type} {answer : Params → σ → Except EngineError Response × σ} {limits : PageLimits}
  {asked : Params} {state : σ} {limit : Nat} {rows : List Record}

/-- Requests for the same read are answered with pages of one list, and leave the state. -/
def PagesOf (answer : Params → σ → Except EngineError Response × σ) (limits : PageLimits)
    (asked : Params) (state : σ) (limit : Nat) (rows : List Record) : Prop :=
  ∀ following offset, asked.SameRead following →
    limits.position following = .ok ⟨limit, offset⟩ →
      ∃ page, answer following state = (.ok (.page page), state) ∧ page.total = rows.length ∧
        page.data = (rows.drop offset).take limit ∧
        page.pagination = .ofPosition limit offset rows.length

theorem position_of_cursor {following : Params} {offset : Nat} (hceiling : limit ≤ limits.ceiling)
    (hword : (PageCursor.mk limit offset).IsWord)
    (hcursor : following.get? "page" = some (PageCursor.mk limit offset).encode) :
    limits.position following = .ok ⟨limit, offset⟩ := by
  rw [PageLimits.position_of_decode hcursor (PageCursor.encode_ne_empty _)
    (PageCursor.decode_encode hword) limits]
  simp only [Nat.min_eq_left hceiling]

/-- The pages of what is left after a full page are one less. -/
theorem pages_left {left : Nat} (hlimit : 0 < limit) (hleft : limit < left) :
    max 1 ((left - limit + limit - 1) / limit) + 1 = max 1 ((left + limit - 1) / limit) := by
  have hstep : (left + limit - 1) / limit = (left - limit + limit - 1) / limit + 1 := by
    rw [← Nat.add_div_right _ hlimit]
    congr 1
    omega
  have hpositive : 1 ≤ (left - limit + limit - 1) / limit :=
    (Nat.le_div_iff_mul_le hlimit).mpr (by omega)
  omega

/-- Rows that fit into one page, or none at all, take one page. -/
theorem pages_one {left : Nat} (hlimit : 0 < limit) (hleft : left ≤ limit) :
    max 1 ((left + limit - 1) / limit) = 1 := by
  have hless : (left + limit - 1) / limit < 2 := (Nat.div_lt_iff_lt_mul hlimit).mpr (by omega)
  omega

/-- What a run of pages has to show: the pages of `left` rows, and the rows themselves. -/
structure Enumerates (limit total : Nat) (left : List Record) (pages : List Page) : Prop where
  length : pages.length = max 1 ((left.length + limit - 1) / limit)
  total : ∀ page ∈ pages, page.total = total
  data : pages.flatMap (·.data) = left

variable (hanswer : PagesOf answer limits asked state limit rows) (hlimit : 0 < limit)
  (hceiling : limit ≤ limits.ceiling) (hword : limit ≤ greatestCount)
  (hrows : rows.length ≤ greatestCount)

include hanswer hlimit hceiling hword hrows

/-- Following is an induction on the pages: the cursor of a page stands where its rows end. -/
theorem Followed.enumerates {following : Params} {before after : σ} {pages : List Page}
    {offset : Nat} (hread : asked.SameRead following)
    (hposition : limits.position following = .ok ⟨limit, offset⟩) (hbefore : before = state)
    (h : Followed answer following before pages after) :
    after = state ∧ Enumerates limit rows.length (rows.drop offset) pages := by
  induction h generalizing offset with
  | @last following before after page hpage hlast =>
      subst hbefore
      obtain ⟨own, hown, htotal, hdata, hpagination⟩ := hanswer _ _ hread hposition
      obtain ⟨hsame, rfl⟩ := Prod.mk.inj (hown.symm.trans hpage)
      obtain rfl := Response.page.inj (Except.ok.inj hsame)
      have hend : rows.length ≤ offset + limit := by
        rw [hpagination, PageInfo.next_ofPosition hrows] at hlast
        split at hlast
        · cases hlast
        next hend => exact Nat.le_of_not_lt hend
      refine ⟨rfl, ?_, by simpa using htotal, ?_⟩
      · rw [List.length_drop, pages_one hlimit (by omega)]
        rfl
      · simp only [List.flatMap_singleton, hdata]
        exact List.take_of_length_le (by rw [List.length_drop]; omega)
  | @next following nextAsked before middle after page pages cursor hpage hnext hsame hcursor hrest ih =>
      subst hbefore
      obtain ⟨own, hown, htotal, hdata, hpagination⟩ := hanswer _ _ hread hposition
      obtain ⟨hpages, rfl⟩ := Prod.mk.inj (hown.symm.trans hpage)
      obtain rfl := Response.page.inj (Except.ok.inj hpages)
      rw [hpagination, PageInfo.next_ofPosition hrows] at hnext
      split at hnext
      case isFalse => cases hnext
      next hmore =>
        obtain rfl := Option.some.inj hnext
        have hnextPosition : limits.position nextAsked = .ok ⟨limit, offset + limit⟩ :=
          position_of_cursor hceiling ⟨hword, by dsimp only; omega⟩ hcursor
        obtain ⟨hafter, hlength, htotals, hleft⟩ := ih (hread.trans hsame) hnextPosition rfl
        refine ⟨hafter, ?_, ?_, ?_⟩
        · rw [List.length_drop, Nat.sub_add_eq] at hlength
          rw [List.length_cons, hlength, List.length_drop, pages_left hlimit (by omega)]
        · simpa using ⟨htotal, htotals⟩
        · rw [List.flatMap_cons, hdata, hleft, ← List.drop_drop, List.take_append_drop]

/-- From any position the cursors lead to the last page. -/
theorem exists_followed {following : Params} {offset : Nat} (hread : asked.SameRead following)
    (hposition : limits.position following = .ok ⟨limit, offset⟩) :
    ∃ pages, Followed answer following state pages state := by
  induction hleft : rows.length - offset using Nat.strongRecOn generalizing following offset with
  | ind left ih =>
      obtain ⟨page, hpage, -, -, hpagination⟩ := hanswer _ _ hread hposition
      have hnext := congrArg (·.page.next) hpagination
      rw [PageInfo.next_ofPosition hrows] at hnext
      by_cases hmore : offset + limit < rows.length
      · rw [if_pos hmore] at hnext
        let cursor := (PageCursor.mk limit (offset + limit)).encode
        have hcursor : (following ++ [("page", cursor)]).get? "page" = some cursor := by
          rw [Params.get?_append_singleton, if_pos rfl]
        have hsame : following.SameRead (following ++ [("page", cursor)]) :=
          Params.sameRead_append (by decide) following cursor
        obtain ⟨pages, hpages⟩ := ih _ (by omega) (hread.trans hsame)
          (position_of_cursor hceiling ⟨hword, by dsimp only; omega⟩ hcursor) rfl
        exact ⟨page :: pages, .next hpage hnext hsame hcursor hpages⟩
      · rw [if_neg hmore] at hnext
        exact ⟨[page], .last hpage hnext⟩

end Followed

/-! ### Following cursors through a collection -/

namespace DocumentStore

variable (s : DocumentStore) (now : Timestamp) (label : String) (settings : EngineSettings)
  (tag table : String) (restriction : Option Restriction)

/-- The answer to a request for a page of a table. -/
def answerPage (params : Params) (m : DocumentMemory) : Except EngineError Response × DocumentMemory :=
  s.serve now label (Engine.execute settings tag restriction (.findMany table params)) m

variable {s now label settings tag table restriction} {params : Params} {o : FindOptions}
  {filter : Record} {m : DocumentMemory}

/-- Every position of a read that is accepted is answered with the page that stands there. -/
theorem pagesOf_shownRows {limit : Nat}
    (hprepared : (Engine.prepareFind settings tag table params).run (s.responder now label) m =
      (.ok o, m))
    (hfilter : Document.filter o.schema (Restriction.addTo restriction o.filters) = .ok filter)
    (hlimit : 0 < limit) :
    PagesOf (s.answerPage now label settings tag table restriction) settings.pageLimits params m
      limit (s.shownRows m o filter) := by
  intro following offset hread hposition
  let moved : FindOptions :=
    { o.movedTo ⟨limit, offset⟩ with filters := Restriction.addTo restriction o.filters }
  have hmoved : Engine.prepareFind settings tag table following =
      (Engine.prepareFind settings tag table params).bind fun own =>
        .done (own.movedTo ⟨limit, offset⟩) :=
    Engine.prepareFind_movedTo hread (Engine.position_of_run_prepareFind hprepared) hposition
  have hrun : (Engine.prepareFind settings tag table following).run (s.responder now label) m =
      (.ok (o.movedTo ⟨limit, offset⟩), m) := by
    rw [hmoved, run_bind, hprepared]
    rfl
  have hpage : (Engine.findPage moved).run (s.responder now label) m =
      (.ok (s.shownPage m moved filter), m) := by
    have hsame : Document.filter moved.schema moved.filters = .ok filter := hfilter
    rw [run_findPage, hsame]
    rfl
  have htotal : (s.shownRows m o filter).length = m.count o.table filter :=
    s.length_shownRows m o filter
  refine ⟨s.shownPage m moved filter, ?_, htotal.symm, ?_, ?_⟩
  · rw [answerPage, serve_eq_run]
    change (Engine.answer settings tag restriction (.findMany table following)).run
      (s.responder now label) m = _
    rw [Engine.answer, bind_eq_bind, run_bind, hrun, continueRun, bind_eq_bind, run_bind]
    change continueRun _ _ ((Engine.findPage moved).run (s.responder now label) m) = _
    rw [hpage]
    rfl
  · have hcut : moved.limit ≠ 0 := Nat.ne_of_gt hlimit
    exact if_neg hcut
  · rw [htotal]
    rfl

/-- Three accounts, two of one owner. -/
def threeAccounts : DocumentMemory :=
  ⟨[("accounts", [[("_id", .string "a1"), ("owner", .string "u1")],
    [("_id", .string "a2"), ("owner", .string "u2")],
    [("_id", .string "a3"), ("owner", .string "u1")]])], 0⟩

end DocumentStore

end DataAccess
