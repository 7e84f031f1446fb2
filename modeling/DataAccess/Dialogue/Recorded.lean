import DataAccess.Dialogue

/-!
Responders that keep a record of what they are asked and of the log.
-/

namespace DataAccess

structure Recorded (Entry σ : Type) where
  state : σ
  calls : List Entry
  log : List LogEntry

namespace Recorded

variable {Request : Type} {Answer : Request → Type} {Entry α σ : Type}

def start (state : σ) : Recorded Entry σ := ⟨state, [], []⟩

/-- Answers as before, and keeps an entry for each request that has one. -/
def responder (describe : Request → Option Entry) (answer : (r : Request) → σ → Answer r × σ) :
    Dialogue.Responder Request Answer (Recorded Entry σ) where
  answer r s :=
    let (reply, state) := answer r s.state
    (reply, { s with state, calls := s.calls ++ (describe r).toList })
  note entry s := { s with log := s.log ++ [entry] }

/-- The result of a dialogue from a fresh record, and the record. -/
def run (describe : Request → Option Entry) (answer : (r : Request) → σ → Answer r × σ)
    (dialogue : Dialogue Request Answer α) (state : σ) : Except EngineError α × Recorded Entry σ :=
  dialogue.run (responder describe answer) (start state)

end Recorded

end DataAccess
