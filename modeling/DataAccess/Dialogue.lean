import DataAccess.Error
import DataAccess.Log

/-!
Computations that converse with something outside: a store, an executor, a transport. A dialogue
ends with a value or an error, writes a log entry, or asks a request and goes on with the answer.
What answers is chosen later; a responder is a function with a state.
-/

namespace DataAccess

inductive Dialogue (Request : Type) (Answer : Request → Type) (α : Type) : Type
  | done (value : α)
  | fail (error : EngineError)
  | note (entry : LogEntry) (rest : Dialogue Request Answer α)
  | ask (request : Request) (resume : Answer request → Dialogue Request Answer α)

namespace Dialogue

variable {Request : Type} {Answer : Request → Type} {α β σ : Type}

def bind : Dialogue Request Answer α → (α → Dialogue Request Answer β) → Dialogue Request Answer β
  | done value, next => next value
  | fail error, _ => .fail error
  | note entry rest, next => .note entry (rest.bind next)
  | ask request resume, next => .ask request fun answer => (resume answer).bind next

instance : Monad (Dialogue Request Answer) where
  pure := done
  bind := bind

def ofExcept : Except EngineError α → Dialogue Request Answer α
  | .ok value => .done value
  | .error error => .fail error

instance : MonadLift (Except EngineError) (Dialogue Request Answer) := ⟨ofExcept⟩

/-- Turns a failure into a value; a dialogue of this form never fails. -/
def attempt : Dialogue Request Answer α → Dialogue Request Answer (Except EngineError α)
  | done value => .done (.ok value)
  | fail error => .done (.error error)
  | note entry rest => .note entry rest.attempt
  | ask request resume => .ask request fun answer => (resume answer).attempt

def log (level : LogLevel) (area : LogArea) (text : String) : Dialogue Request Answer Unit :=
  .note ⟨level, area, text⟩ (.done ())

/-- One request, its answer as the value. -/
def request (r : Request) : Dialogue Request Answer (Answer r) := .ask r .done

/-- What answers requests, with a state of its own. -/
structure Responder (Request : Type) (Answer : Request → Type) (σ : Type) where
  answer : (r : Request) → σ → Answer r × σ
  note : LogEntry → σ → σ

/-- The result of a dialogue with a responder, and the responder's last state. -/
def run (responder : Responder Request Answer σ) :
    Dialogue Request Answer α → σ → Except EngineError α × σ
  | done value, state => (.ok value, state)
  | fail error, state => (.error error, state)
  | note entry rest, state => rest.run responder (responder.note entry state)
  | ask request resume, state =>
    (resume (responder.answer request state).1).run responder (responder.answer request state).2

/-- Answers every request by a dialogue of another kind. -/
def interpret {Inner : Type} {InnerAnswer : Inner → Type}
    (answer : (r : Request) → Dialogue Inner InnerAnswer (Answer r)) :
    Dialogue Request Answer α → Dialogue Inner InnerAnswer α
  | done value => .done value
  | fail error => .fail error
  | note entry rest => .note entry (rest.interpret answer)
  | ask request resume => (answer request).bind fun a => (resume a).interpret answer

end Dialogue

end DataAccess
