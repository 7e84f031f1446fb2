import DataAccess.Proofs.Engine.Pages
import DataAccess.Rest.Store

/-!
# Pages of a service of records

Whatever the service answers, a page is cut out of the list that it told, so it is no longer than its
limit. Expanding links neither adds rows nor drops them.
-/

namespace DataAccess

open Dialogue

namespace RestStore

variable {σ : Type} (s : RestStore) (label : String)
  (transport : Responder RestRequest RestRequest.Answer σ)

/-- The store as what answers calls; each is carried out over the transport. -/
def responder : Responder StoreCall StoreCall.Answer σ :=
  ⟨fun c state => (s.carryOut label c).run transport state, transport.note⟩

theorem run_interpret {α : Type} (d : StoreDialogue α) (state : σ) :
    (d.interpret (s.answer label)).run transport state =
      d.run (s.responder label transport) state :=
  Dialogue.run_interpret transport (s.carryOut label) d state

variable {s label transport} {state after : σ}

theorem run_call (c : StoreCall) (state : σ) :
    (StoreDialogue.call c).run (s.responder label transport) state =
      (s.carryOut label c).run transport state := by
  rw [StoreDialogue.call, run_bind]
  exact run_ofExcept _ _ _

theorem length_of_run_expandAll {requests : List RelationRequest} {rows expanded : List Record}
    (h : (s.expandAll label requests rows).run transport state = (.ok expanded, after)) :
    expanded.length = rows.length := by
  induction rows generalizing state expanded with
  | nil =>
      obtain ⟨rfl, -⟩ := eq_of_run_done _ h
      rfl
  | cons row rest ih =>
      rw [expandAll] at h
      obtain ⟨first, middle, -, h⟩ := exists_of_run_bind_eq_ok _ h
      obtain ⟨others, last, hothers, h⟩ := exists_of_run_bind_eq_ok _ h
      obtain ⟨rfl, rfl⟩ := eq_of_run_done _ h
      rw [List.length_cons, ih hothers, List.length_cons]

theorem length_of_run_fetch {o : FindOptions} {rows : List Record}
    (h : (s.fetch label o).run transport state = (.ok rows, after)) : rows.length ≤ o.limit := by
  rw [fetch] at h
  obtain ⟨q, middle, -, h⟩ := exists_of_run_bind_eq_ok _ h
  obtain ⟨listed, middle, -, h⟩ := exists_of_run_bind_eq_ok _ h
  rw [length_of_run_expandAll h, List.length_map, List.length_take]
  exact Nat.min_le_left _ _

/-- **Length of a page.** No answer of the service makes a page longer than its limit. -/
theorem length_data_of_run_findPage {o : FindOptions} {page : Page}
    (h : (Engine.findPage o).run (s.responder label transport) state = (.ok page, after)) :
    page.data.length ≤ page.limit := by
  obtain ⟨hlimit, -, hnone | ⟨before, middle, hdata⟩⟩ := Engine.data_of_run_findPage h
  · rw [hnone]
    exact Nat.zero_le _
  · rw [run_call] at hdata
    rw [hlimit]
    exact length_of_run_fetch hdata

end RestStore

end DataAccess
