import DataAccess.Proofs.Dialogue.Transcript
import DataAccess.Store.Script

/-!
# Document stores over a memory

A dialogue with a document store runs against the memory that holds its documents. The store is then
itself what answers the dialogue, call by call, and the scripts that programs are run with answer as
it does while they refuse nothing.
-/

namespace DataAccess

open Dialogue

/-- The memory as what answers requests; it does not keep the log. -/
def DocumentMemory.responder (now : Timestamp) :
    Responder DocumentRequest DocumentRequest.Answer DocumentMemory :=
  ⟨answer now, fun _ m => m⟩

theorem DocumentMemory.quiet_responder {now : Timestamp} : (responder now).Quiet :=
  fun _ _ => rfl

namespace DocumentStore

variable (s : DocumentStore) (now : Timestamp) (label : String)

/-- The result of a dialogue with the store, and the memory that it leaves. -/
def serve {α : Type} (d : StoreDialogue α) (m : DocumentMemory) :
    Except EngineError α × DocumentMemory :=
  (d.interpret (s.answer label)).run (DocumentMemory.responder now) m

/-- The store as what answers calls; each is carried out against the memory. -/
def responder : Responder StoreCall StoreCall.Answer DocumentMemory :=
  ⟨fun c m => (s.carryOut label c).run (DocumentMemory.responder now) m, fun _ m => m⟩

variable {s now label} {α : Type} {m : DocumentMemory}

theorem quiet_responder : (s.responder now label).Quiet := fun _ _ => rfl

theorem serve_eq_run (d : StoreDialogue α) (m : DocumentMemory) :
    s.serve now label d m = d.run (s.responder now label) m :=
  Dialogue.run_interpret (DocumentMemory.responder now) (s.carryOut label) d m

/-- A script that refuses nothing answers as its memory does. -/
theorem run_script_eq_serve (d : StoreDialogue α) (m : DocumentMemory) :
    ((ScriptedStore.document s ⟨now, m, []⟩).run label d).result = (s.serve now label d m).1 := by
  have hrecorded := run_recorded DocumentRequest.toJson? DocumentScript.answer
    (d.interpret (s.answer label)) (.start ⟨now, m, []⟩)
  have hscript : ∀ {β : Type} (d : DocumentDialogue β) (m : DocumentMemory),
      (d.run ⟨DocumentScript.answer, fun _ state => state⟩ ⟨now, m, []⟩).1 =
        (d.run (DocumentMemory.responder now) m).1 := by
    intro β d
    induction d with
    | done value => exact fun _ => rfl
    | fail error => exact fun _ => rfl
    | note entry rest ih => exact ih
    | ask request resume ih => exact fun m => ih _ _
  exact hrecorded.1.trans (hscript _ m)

end DocumentStore

/-! ### Rows with their relations -/

theorem Relations.expandRows_nil (label : String) (limit : Nat)
    (lookup : FindOptions → DocumentDialogue (List Record)) (rows : List Record) :
    expandRows label limit lookup [] rows = .done rows := by
  induction rows with
  | nil => rfl
  | cons row rest ih =>
      rw [expandRows, ih]
      rfl

theorem DocumentStore.fetch_eq (s : DocumentStore) (label : String) (o : FindOptions) :
    s.fetch label o = (s.fetchRows label o).bind
      (Relations.expandRows label s.settings.maxLimit (s.fetchRows label) o.relations) := by
  rw [fetch, bind_eq_bind]
  congr 1
  funext rows
  cases hrelations : o.relations with
  | nil =>
      rw [Relations.expandRows_nil]
      rfl
  | cons q rest =>
      have hpending : Relations.pending o false = q :: rest := by
        rw [Relations.pending, hrelations]
        exact List.filter_eq_self.mpr fun _ _ => rfl
      rw [Relations.expand, hpending]
      rfl

end DataAccess
