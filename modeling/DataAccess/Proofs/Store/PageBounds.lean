import DataAccess.Proofs.Document.Pages
import DataAccess.Proofs.Rest.Pages
import DataAccess.Rest.Script

/-!
# How long pages are

No page has a greater limit than the settings allow. A service of records keeps pages to their limit,
whatever it answers. A collection does so too unless the limit is zero, which its store takes for no
limit: such a page holds every row behind its offset, however many the settings allow.
-/

namespace DataAccess

open Dialogue

/-- **Bounds of pages**, for requests under a restriction and for requests without one. -/
theorem pages_bounded (settings : EngineSettings) (tag table : String)
    (restriction : Option Restriction) (params : Params) (page : Page) :
    (∀ (s : DocumentStore) (now : Timestamp) (label : String) (m : DocumentMemory),
      (s.serve now label
        (Engine.execute settings tag restriction (.findMany table params)) m).1 = .ok (.page page) →
      page.limit ≤ max settings.maxLimit 1 ∧
      (0 < page.limit → page.data.length = min page.limit (page.total - page.offset)) ∧
      (page.limit = 0 → page.data.length = page.total - page.offset) ∧
      page.data.length ≤ page.total ∧ (page.total ≤ page.offset → page.data = [])) ∧
    ∀ (s : RestStore) (label : String) (σ : Type)
      (transport : Responder RestRequest RestRequest.Answer σ) (state : σ),
      (((Engine.execute settings tag restriction (.findMany table params)).interpret
        (s.answer label)).run transport state).1 = .ok (.page page) →
      page.data.length ≤ page.limit ∧ page.limit ≤ max settings.maxLimit 1 := by
  refine ⟨?_, ?_⟩
  · intro s now label m h
    rw [DocumentStore.serve_eq_run] at h
    obtain ⟨o, before, hceiling, hpage⟩ := Engine.exists_findPage_of_run (Prod.ext h rfl)
    obtain ⟨hlimit, -, -⟩ := Engine.data_of_run_findPage hpage
    have hlength := s.length_data_of_run_findPage hpage
    refine ⟨hlimit ▸ hceiling, ?_, ?_, ?_, ?_⟩
    · intro hpositive
      rw [hlength, if_neg (by omega)]
    · intro hzero
      rw [hlength, if_pos hzero]
    · rw [hlength]
      split <;> omega
    · intro hbehind
      refine List.eq_nil_of_length_eq_zero ?_
      rw [hlength]
      split <;> omega
  · intro s label σ transport state h
    rw [RestStore.run_interpret] at h
    obtain ⟨o, before, hceiling, hpage⟩ := Engine.exists_findPage_of_run (Prod.ext h rfl)
    obtain ⟨hlimit, -, -⟩ := Engine.data_of_run_findPage hpage
    exact ⟨RestStore.length_data_of_run_findPage hpage, hlimit ▸ hceiling⟩

/-- Two accounts. -/
def twoAccounts : DocumentMemory :=
  ⟨[("accounts", [[("_id", .string "a1"), ("owner", .string "u1")],
    [("_id", .string "a2"), ("owner", .string "u2")]])], 0⟩

/-- A service that lists two notes, whatever limit it is given. -/
def twoNotes : RestScript :=
  { now := default
    response? := fun key =>
      if key = "GET v0/app/Notes" then
        some (.ok (.object [("records", .array
          [.object [("fields", .object [("Text", .string "one")]), ("id", .string "r1")],
            .object [("fields", .object [("Text", .string "two")]), ("id", .string "r2")]])]))
      else if key = "GET v0/meta/bases/app/tables" then
        some (.ok (.object [("tables", .array [.object
          [("fields", .array [.object
              [("id", .string "f1"), ("name", .string "Text"), ("type", .string "singleLineText")]]),
            ("id", .string "t1"), ("name", .string "Notes")]])]))
      else none }

/-- Pages with room for one of two accounts, and for one of two notes. -/
theorem pages_bounded_one_of_two :
    (∃ page, (DocumentStore.serve ⟨"documents", .standard⟩ default "-"
        (Engine.execute .standard "-" none (.findMany "accounts" [("limit", "1")]))
        twoAccounts).1 = .ok (.page page) ∧
      page.total = 2 ∧ page.limit ≤ max 1000 1 ∧
      page.data.length = min page.limit (page.total - page.offset)) ∧
    ∃ page, (((Engine.execute .standard "-" none (.findMany "Notes" [("limit", "1")])).interpret
        (RestStore.answer ⟨"app", .standard, 10⟩ "-")).run
          ⟨RestScript.answer, fun _ state => state⟩ twoNotes).1 = .ok (.page page) ∧
      page.total = 2 ∧ page.data.length ≤ page.limit ∧ page.limit ≤ max 1000 1 := by
  let account : Page :=
    ⟨1, 0, 2, .ofPosition 1 0 2, [[("_id", .string "a1"), ("owner", .string "u1")]]⟩
  let note : Page :=
    ⟨1, 0, 2, .ofPosition 1 0 2, [[("Text", .string "one"), ("id", .string "r1")]]⟩
  have haccount : (DocumentStore.serve ⟨"documents", .standard⟩ default "-"
      (Engine.execute .standard "-" none (.findMany "accounts" [("limit", "1")]))
      twoAccounts).1 = .ok (.page account) :=
    eq_ok_of_toOption_eq_some (by decide +kernel)
  have hnote : (((Engine.execute .standard "-" none (.findMany "Notes" [("limit", "1")])).interpret
      (RestStore.answer ⟨"app", .standard, 10⟩ "-")).run
        ⟨RestScript.answer, fun _ state => state⟩ twoNotes).1 = .ok (.page note) :=
    eq_ok_of_toOption_eq_some (by decide +kernel)
  obtain ⟨hlimit, hlength, -⟩ := (pages_bounded _ _ _ _ _ account).1 _ _ _ _ haccount
  exact ⟨⟨account, haccount, rfl, hlimit, hlength (by decide)⟩,
    note, hnote, rfl, (pages_bounded _ _ _ _ _ note).2 _ _ _ _ _ hnote⟩

/-- A limit of zero is no limit of a collection. -/
theorem page_of_limit_zero :
    ∃ page, (DocumentStore.serve ⟨"documents", .standard⟩ default "-"
        (Engine.perform .standard none (.findMany "accounts" [("limit", "0")]))
        twoAccounts).1 = .ok (.page page) ∧ page.limit < page.data.length := by
  refine ⟨⟨0, 0, 2, .ofPosition 0 0 2, [[("_id", .string "a1"), ("owner", .string "u1")],
    [("_id", .string "a2"), ("owner", .string "u2")]]⟩, ?_, by decide⟩
  exact eq_ok_of_toOption_eq_some (by decide +kernel)

end DataAccess
