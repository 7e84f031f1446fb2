import DataAccess.Dialogue.Recorded

/-!
# Runs of dialogues

A dialogue is a lawful monad, and a run goes through the parts of a dialogue in their order. A
dialogue whose requests are answered by dialogues of another kind runs against the responder that
these make up, and a record of a run changes neither its result nor the state.
-/

namespace DataAccess

namespace Dialogue

variable {Request : Type} {Answer : Request → Type} {α β γ σ : Type}

theorem bind_eq_bind (d : Dialogue Request Answer α) (next : α → Dialogue Request Answer β) :
    d >>= next = d.bind next := rfl

theorem bind_done (d : Dialogue Request Answer α) : d.bind .done = d := by
  induction d with
  | done value => rfl
  | fail error => rfl
  | note entry rest ih => rw [bind, ih]
  | ask request resume ih =>
      rw [bind]
      congr 1
      funext answer
      exact ih answer

theorem bind_assoc (d : Dialogue Request Answer α) (next : α → Dialogue Request Answer β)
    (last : β → Dialogue Request Answer γ) :
    (d.bind next).bind last = d.bind fun value => (next value).bind last := by
  induction d with
  | done value => rfl
  | fail error => rfl
  | note entry rest ih => simp only [bind, ih]
  | ask request resume ih =>
      simp only [bind]
      congr 1
      funext answer
      exact ih answer

instance : LawfulMonad (Dialogue Request Answer) :=
  LawfulMonad.mk' _ bind_done (fun _ _ => rfl) bind_assoc

/-- To fail with the error of an attempt is to fail in its place. -/
theorem bind_attempt_ofExcept (d : Dialogue Request Answer α) :
    d.attempt.bind (fun result => ofExcept result) = d := by
  induction d with
  | done value => rfl
  | fail error => rfl
  | note entry rest ih => rw [attempt, bind, ih]
  | ask request resume ih =>
      rw [attempt, bind]
      congr 1
      funext answer
      exact ih answer

/-! ### Running the parts -/

section Run

variable (responder : Responder Request Answer σ)

/-- The rest of a run once its first part has ended. -/
def continueRun (next : α → Dialogue Request Answer β) :
    Except EngineError α × σ → Except EngineError β × σ
  | (.ok value, state) => (next value).run responder state
  | (.error error, state) => (.error error, state)

theorem run_bind (d : Dialogue Request Answer α) (next : α → Dialogue Request Answer β)
    (state : σ) :
    (d.bind next).run responder state = continueRun responder next (d.run responder state) := by
  induction d generalizing state with
  | done value => rfl
  | fail error => rfl
  | note entry rest ih => exact ih (responder.note entry state)
  | ask request resume ih => exact ih _ _

theorem eq_of_run_done {value result : α} {state after : σ}
    (h : (done value : Dialogue Request Answer α).run responder state = (.ok result, after)) :
    value = result ∧ state = after := by
  obtain ⟨hresult, hafter⟩ := Prod.mk.inj h
  exact ⟨Except.ok.inj hresult, hafter⟩

theorem exists_of_run_bind_eq_ok {d : Dialogue Request Answer α} {next : α → Dialogue Request Answer β}
    {value : β} {state after : σ} (h : (d.bind next).run responder state = (.ok value, after)) :
    ∃ first middle, d.run responder state = (.ok first, middle) ∧
      (next first).run responder middle = (.ok value, after) := by
  rw [run_bind] at h
  generalize hrun : d.run responder state = result at h
  obtain ⟨result, middle⟩ := result
  cases result with
  | ok first => exact ⟨first, middle, rfl, h⟩
  | error error => cases h

/-- Where the result of the rest does not depend on the state, neither does that of the whole. -/
theorem fst_run_bind {d : Dialogue Request Answer α} {next : α → Dialogue Request Answer β}
    (rest : α → Except EngineError β)
    (h : ∀ value state, ((next value).run responder state).1 = rest value) (state : σ) :
    ((d.bind next).run responder state).1 = (d.run responder state).1 >>= rest := by
  rw [run_bind]
  generalize d.run responder state = result
  obtain ⟨result, middle⟩ := result
  cases result with
  | ok value => exact h value middle
  | error error => rfl

theorem run_ofExcept (result : Except EngineError α) (state : σ) :
    (ofExcept result : Dialogue Request Answer α).run responder state = (result, state) := by
  cases result <;> rfl

theorem run_attempt (d : Dialogue Request Answer α) (state : σ) :
    d.attempt.run responder state = (.ok (d.run responder state).1, (d.run responder state).2) := by
  induction d generalizing state with
  | done value => rfl
  | fail error => rfl
  | note entry rest ih => exact ih (responder.note entry state)
  | ask request resume ih => exact ih _ _

end Run

/-! ### Requests answered by dialogues -/

section Interpret

variable {Inner : Type} {InnerAnswer : Inner → Type}
  (answer : (r : Request) → Dialogue Inner InnerAnswer (Answer r))

theorem interpret_bind (d : Dialogue Request Answer α) (next : α → Dialogue Request Answer β) :
    (d.bind next).interpret answer =
      (d.interpret answer).bind fun value => (next value).interpret answer := by
  induction d with
  | done value => rfl
  | fail error => rfl
  | note entry rest ih => simp only [bind, interpret, ih]
  | ask request resume ih =>
      simp only [bind, interpret, bind_assoc]
      congr 1
      funext result
      exact ih result

theorem interpret_ofExcept (result : Except EngineError α) :
    (ofExcept result : Dialogue Request Answer α).interpret answer = ofExcept result := by
  cases result <;> rfl

end Interpret

section CarryOut

variable {Result : Request → Type} {Inner : Type} {InnerAnswer : Inner → Type}
  (inner : Responder Inner InnerAnswer σ)
  (carryOut : (r : Request) → Dialogue Inner InnerAnswer (Result r))

/-- What answers requests by carrying each of them out. -/
def Responder.carrying : Responder Request (fun r => Except EngineError (Result r)) σ :=
  ⟨fun r state => (carryOut r).run inner state, inner.note⟩

theorem run_interpret (d : Dialogue Request (fun r => Except EngineError (Result r)) α) (state : σ) :
    (d.interpret fun r => (carryOut r).attempt).run inner state =
      d.run (.carrying inner carryOut) state := by
  induction d generalizing state with
  | done value => rfl
  | fail error => rfl
  | note entry rest ih => exact ih _
  | ask r resume ih =>
      rw [interpret, run_bind, run_attempt]
      exact ih _ _

end CarryOut

/-- A record of the calls and of the log leaves the result and the state as they are without it. -/
theorem run_recorded {Entry : Type} (describe : Request → Option Entry)
    (answer : (r : Request) → σ → Answer r × σ) (d : Dialogue Request Answer α)
    (record : Recorded Entry σ) :
    (d.run (Recorded.responder describe answer) record).1 =
        (d.run ⟨answer, fun _ state => state⟩ record.state).1 ∧
      (d.run (Recorded.responder describe answer) record).2.state =
        (d.run ⟨answer, fun _ state => state⟩ record.state).2 := by
  induction d generalizing record with
  | done value => exact ⟨rfl, rfl⟩
  | fail error => exact ⟨rfl, rfl⟩
  | note entry rest ih => exact ih { record with log := record.log ++ [entry] }
  | ask request resume ih =>
      exact ih (answer request record.state).1
        { state := (answer request record.state).2
          calls := record.calls ++ (describe request).toList
          log := record.log }

end Dialogue

end DataAccess
