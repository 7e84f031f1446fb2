import DataAccess.Proofs.Dialogue.Transcript

/-!
# The requests of a dialogue

A dialogue keeps to some requests if it asks no other, whatever it is answered. Where its requests are
carried out by dialogues of another kind, the transcript of the whole is put together from theirs. Who
gives the same answers to what a run asks gets the same run.
-/

namespace DataAccess

namespace Dialogue

variable {Request : Type} {Answer : Request → Type} {α β σ : Type} {P : Request → Prop}

def KeepsTo (P : Request → Prop) : Dialogue Request Answer α → Prop
  | done _ => True
  | fail _ => True
  | note _ rest => rest.KeepsTo P
  | ask request resume => P request ∧ ∀ answer, (resume answer).KeepsTo P

theorem KeepsTo.bind {d : Dialogue Request Answer α} {next : α → Dialogue Request Answer β}
    (h : d.KeepsTo P) (hnext : ∀ value, (next value).KeepsTo P) : (d.bind next).KeepsTo P := by
  induction d with
  | done value => exact hnext value
  | fail error => exact trivial
  | note entry rest ih => exact ih h
  | ask request resume ih => exact ⟨h.1, fun answer => ih answer (h.2 answer)⟩

theorem keepsTo_ofExcept_bind {result : Except EngineError α} {next : α → Dialogue Request Answer β}
    (h : ∀ value, result = .ok value → (next value).KeepsTo P) :
    ((ofExcept result).bind next).KeepsTo P := by
  cases result with
  | ok value => exact h value rfl
  | error error => exact trivial

theorem KeepsTo.mono {Q : Request → Prop} {d : Dialogue Request Answer α} (h : d.KeepsTo P)
    (hPQ : ∀ r, P r → Q r) : d.KeepsTo Q := by
  induction d with
  | done value => exact trivial
  | fail error => exact trivial
  | note entry rest ih => exact ih h
  | ask request resume ih => exact ⟨hPQ request h.1, fun answer => ih answer (h.2 answer)⟩

theorem KeepsTo.attempt {d : Dialogue Request Answer α} (h : d.KeepsTo P) : d.attempt.KeepsTo P := by
  induction d with
  | done value => exact trivial
  | fail error => exact trivial
  | note entry rest ih => exact ih h
  | ask request resume ih => exact ⟨h.1, fun answer => ih answer (h.2 answer)⟩

theorem KeepsTo.of_mem_transcript {d : Dialogue Request Answer α} (h : d.KeepsTo P)
    {responder : Responder Request Answer σ} {state : σ} {e : Exchange Request σ}
    (he : e ∈ d.transcript responder state) : P e.request := by
  induction d generalizing state with
  | done value => cases he
  | fail error => cases he
  | note entry rest ih => exact ih h he
  | ask request resume ih =>
      rcases List.mem_cons.mp he with rfl | he
      · exact h.1
      · exact ih _ (h.2 _) he

theorem transcript_attempt (responder : Responder Request Answer σ) (d : Dialogue Request Answer α)
    (state : σ) : d.attempt.transcript responder state = d.transcript responder state := by
  induction d generalizing state with
  | done value => rfl
  | fail error => rfl
  | note entry rest ih => exact ih _
  | ask request resume ih => exact congrArg _ (ih _ _)

/-- Answers that are the same along a run make the same run. -/
theorem run_congr {responder responder' : Responder Request Answer σ} {d : Dialogue Request Answer α}
    {state : σ} (hnote : responder'.note = responder.note)
    (h : ∀ e ∈ d.transcript responder state,
      responder'.answer e.request e.state = responder.answer e.request e.state) :
    d.run responder' state = d.run responder state := by
  induction d generalizing state with
  | done value => rfl
  | fail error => rfl
  | note entry rest ih =>
      rw [run, run, hnote]
      exact ih h
  | ask request resume ih =>
      have hanswer := h ⟨request, state⟩ List.mem_cons_self
      rw [run, run, hanswer]
      exact ih _ fun e he => h e (List.mem_cons_of_mem _ he)

/-- Requests that are carried out ask what carrying each of them out asks. -/
theorem transcript_interpret {Result : Request → Type} {Inner : Type} {InnerAnswer : Inner → Type}
    (inner : Responder Inner InnerAnswer σ)
    (carryOut : (r : Request) → Dialogue Inner InnerAnswer (Result r))
    (d : Dialogue Request (fun r => Except EngineError (Result r)) α) (state : σ) :
    (d.interpret fun r => (carryOut r).attempt).transcript inner state =
      (d.transcript (.carrying inner carryOut) state).flatMap fun e =>
        (carryOut e.request).transcript inner e.state := by
  induction d generalizing state with
  | done value => rfl
  | fail error => rfl
  | note entry rest ih => exact ih _
  | ask request resume ih =>
      have hfirst := run_attempt inner (carryOut request) state
      rw [interpret, (run_transcript_bind inner hfirst _).2, transcript_attempt, ih, transcript,
        List.flatMap_cons]
      rfl

end Dialogue

end DataAccess
