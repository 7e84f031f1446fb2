import DataAccess.Proofs.Query.Cursor

/-!
# Links between pages

The links of a page are cursors of positions with the same limit. Counts of 64 bits are enough for all
of them: a sum is written only if it is below the total, and a difference only if there is one.

A limit above zero takes each link on: the next page begins later and before the end, the page before
it earlier, and the page before the next one is the page itself. A limit of zero is accepted as well,
and a page without rows is its own neighbour on both sides.
-/

namespace DataAccess

namespace PageInfo

variable {limit offset total : Nat}

theorem next_ofPosition (h : total ≤ greatestCount) :
    (ofPosition limit offset total).page.next =
      if offset + limit < total then some (PageCursor.mk limit (offset + limit)).encode else none := by
  have hiff : min (offset + limit) greatestCount < total ↔ offset + limit < total := by omega
  simp only [ofPosition, hiff]

theorem prev_ofPosition (limit offset total : Nat) :
    (ofPosition limit offset total).page.prev =
      if limit ≤ offset then some (PageCursor.mk limit (offset - limit)).encode else none := rfl

/-! ### Counts of 64 bits -/

/-- A sum that is a count. -/
def sum? (a b : Nat) : Option Nat := if a + b ≤ greatestCount then some (a + b) else none

/-- A difference that is a count. -/
def difference? (a b : Nat) : Option Nat := if b ≤ a then some (a - b) else none

def prevOffset? (limit offset : Nat) : Option (Option Nat) :=
  if limit ≤ offset then (difference? offset limit).map some else some none

/-- The sum that decides whether a page follows is cut to the greatest count. -/
def nextOffset? (limit offset total : Nat) : Option (Option Nat) :=
  if min (offset + limit) greatestCount < total then (sum? offset limit).map some else some none

def lastOffset? (limit total : Nat) : Option Nat :=
  if total ≤ limit then some 0 else difference? total limit

/-- The links as they come out if each sum and each difference has to be a count. -/
def checked? (limit offset total : Nat) : Option PageInfo := do
  let prev ← prevOffset? limit offset
  let next ← nextOffset? limit offset total
  let last ← lastOffset? limit total
  let link (offset : Nat) : String := (PageCursor.mk limit offset).encode
  return { total
           page :=
             { current := link offset
               prev := prev.map link
               next := next.map link
               first := link 0
               last := link last } }

theorem prevOffset?_eq (limit offset : Nat) :
    prevOffset? limit offset = some (if limit ≤ offset then some (offset - limit) else none) := by
  rw [prevOffset?, difference?]
  split <;> rfl

theorem nextOffset?_eq (h : total ≤ greatestCount) :
    nextOffset? limit offset total =
      some (if offset + limit < total then some (offset + limit) else none) := by
  have hiff : min (offset + limit) greatestCount < total ↔ offset + limit < total := by omega
  rw [nextOffset?]
  simp only [hiff]
  split
  next hless =>
    have hcount : offset + limit ≤ greatestCount := by omega
    rw [sum?, if_pos hcount]
    rfl
  next => rfl

theorem lastOffset?_eq (limit total : Nat) : lastOffset? limit total = some (total - limit) := by
  rw [lastOffset?, difference?]
  split
  next hfits => rw [Nat.sub_eq_zero_of_le hfits]
  next hmore => rw [if_pos (Nat.le_of_not_le hmore)]

theorem checked?_eq (h : total ≤ greatestCount) :
    checked? limit offset total = some (ofPosition limit offset total) := by
  have hparts : ofPosition limit offset total =
      { total
        page :=
          { current := (PageCursor.mk limit offset).encode
            prev := (ofPosition limit offset total).page.prev
            next := (ofPosition limit offset total).page.next
            first := (PageCursor.mk limit 0).encode
            last := (PageCursor.mk limit (total - limit)).encode } } := rfl
  rw [checked?, prevOffset?_eq, nextOffset?_eq h, lastOffset?_eq, hparts, prev_ofPosition,
    next_ofPosition h]
  by_cases hbefore : limit ≤ offset <;> by_cases hless : offset + limit < total <;>
    simp [hbefore, hless]

/-! ### Where links lead -/

/-- **Links.** Every link of a page is made without leaving the counts of 64 bits, and it is read back
as the limit of the page with an offset of its own. The next page begins later, before the end, and
names this page as the one before it; the page before begins earlier; the last one begins at most at
the end. Only where the limit is zero do the neighbours begin where the page does. -/
theorem links_lead_on (limit offset total : Nat) (hlimit : limit ≤ greatestCount)
    (hoffset : offset ≤ greatestCount) (htotal : total ≤ greatestCount) :
    let info := ofPosition limit offset total
    checked? limit offset total = some info ∧
    (∀ cursor, info.page.next = some cursor → ∃ o, PageCursor.decode cursor = .ok ⟨limit, o⟩ ∧
      (if limit = 0 then o = offset else offset < o) ∧ o < total ∧
      (ofPosition limit o total).page.prev = some info.page.current) ∧
    (∀ cursor, info.page.prev = some cursor → ∃ o, PageCursor.decode cursor = .ok ⟨limit, o⟩ ∧
      if limit = 0 then o = offset else o < offset) ∧
    ∃ o, PageCursor.decode info.page.last = .ok ⟨limit, o⟩ ∧ o ≤ total := by
  have hread : ∀ o ≤ greatestCount, PageCursor.decode (PageCursor.mk limit o).encode =
      .ok ⟨limit, o⟩ := fun o ho => PageCursor.decode_encode ⟨hlimit, ho⟩
  refine ⟨checked?_eq htotal, ?_, ?_, ?_⟩
  · intro cursor hnext
    rw [next_ofPosition htotal] at hnext
    split at hnext
    next hless =>
      obtain rfl := Option.some.inj hnext
      refine ⟨offset + limit, hread _ (by omega), ?_, hless, ?_⟩
      · split <;> omega
      · rw [prev_ofPosition, if_pos (Nat.le_add_left limit offset), Nat.add_sub_cancel]
        rfl
    next => cases hnext
  · intro cursor hprev
    rw [prev_ofPosition] at hprev
    split at hprev
    next hfits =>
      obtain rfl := Option.some.inj hprev
      refine ⟨offset - limit, hread _ (by omega), ?_⟩
      split <;> omega
    next => cases hprev
  · exact ⟨total - limit, hread _ (by omega), Nat.sub_le total limit⟩

/-- The page before the last row of as many as there can be. -/
theorem links_lead_on_greatest :
    let offset := greatestCount - 4
    let info := ofPosition 3 offset greatestCount
    3 ≤ greatestCount ∧ offset ≤ greatestCount ∧ greatestCount ≤ greatestCount ∧
    checked? 3 offset greatestCount = some info ∧
    (∃ cursor, info.page.next = some cursor ∧ ∃ o, PageCursor.decode cursor = .ok ⟨3, o⟩ ∧
      offset < o ∧ o < greatestCount ∧
      (ofPosition 3 o greatestCount).page.prev = some info.page.current) ∧
    (∃ cursor, info.page.prev = some cursor ∧
      ∃ o, PageCursor.decode cursor = .ok ⟨3, o⟩ ∧ o < offset) ∧
    ∃ o, PageCursor.decode info.page.last = .ok ⟨3, o⟩ ∧ o ≤ greatestCount := by
  intro offset info
  have hlimit : 3 ≤ greatestCount := by decide
  have hoffset : offset ≤ greatestCount := Nat.sub_le _ _
  obtain ⟨hchecked, hnext, hprev, hlast⟩ :=
    links_lead_on 3 offset greatestCount hlimit hoffset (Nat.le_refl _)
  exact ⟨hlimit, hoffset, Nat.le_refl _, hchecked, ⟨_, rfl, hnext _ rfl⟩, ⟨_, rfl, hprev _ rfl⟩, hlast⟩

/-- A request for no rows is accepted. Whoever follows the links of its page stays where they are. -/
theorem page_without_rows_leads_to_itself :
    let info := ofPosition 0 0 5
    PageLimits.position ⟨20, 1000⟩ [("limit", "0")] = .ok ⟨0, 0⟩ ∧
    info.page.next = some info.page.current ∧ info.page.prev = some info.page.current ∧
    ¬∀ cursor, info.page.next = some cursor → ∃ o, PageCursor.decode cursor = .ok ⟨0, o⟩ ∧
      0 < o ∧ o < 5 := by
  refine ⟨rfl, rfl, rfl, fun hnext => ?_⟩
  obtain ⟨o, ho, hless, -⟩ := hnext _ rfl
  have hread : PageCursor.decode (PageCursor.mk 0 0).encode = .ok ⟨0, 0⟩ :=
    PageCursor.decode_encode ⟨Nat.zero_le _, Nat.zero_le _⟩
  have hsame : PageCursor.mk 0 o = ⟨0, 0⟩ := Except.ok.inj (ho.symm.trans hread)
  exact Nat.ne_of_gt hless (PageCursor.mk.inj hsame).2

end PageInfo

end DataAccess
