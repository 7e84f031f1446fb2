import DataAccess.Proofs.Dialogue.Requests

/-!
# Whom an error blames

Some errors blame the request, all others the store. A dialogue is blameless if it does not end in an
error of the first kind, and a dialogue may blame its request only after certain requests if in every
run that ends so it has kept to them. Whatever keeps to them may come first, and a blameless rest last.
-/

namespace DataAccess

namespace Dialogue

variable {Request : Type} {Answer : Request → Type} {α β σ : Type} {P : Request → Prop}
  {responder : Responder Request Answer σ} {state : σ}

/-- A dialogue does not end by blaming the request. -/
def Blameless (responder : Responder Request Answer σ) (d : Dialogue Request Answer α) (state : σ) :
    Prop :=
  ∀ error, (d.run responder state).1 = .error error → error.isValidation = false

/-- A dialogue that ends by blaming the request has kept to some requests until then. -/
def BlamesAfter (P : Request → Prop) (responder : Responder Request Answer σ)
    (d : Dialogue Request Answer α) (state : σ) : Prop :=
  ∀ error, (d.run responder state).1 = .error error → error.isValidation = true →
    ∀ e ∈ d.transcript responder state, P e.request

theorem blameless_done (value : α) :
    (done value : Dialogue Request Answer α).Blameless responder state := nofun

theorem Blameless.bind {d : Dialogue Request Answer α} {next : α → Dialogue Request Answer β}
    (h : d.Blameless responder state)
    (hnext : ∀ value after, d.run responder state = (.ok value, after) →
      (next value).Blameless responder after) : (d.bind next).Blameless responder state := by
  intro error herror
  cases hrun : d.run responder state with
  | mk result after =>
    cases result with
    | ok value =>
        rw [(run_transcript_bind responder hrun next).1] at herror
        exact hnext value after hrun error herror
    | error first =>
        rw [(run_transcript_bind_error responder hrun next).1] at herror
        exact h error (by rw [hrun, Except.error.inj herror])

theorem Blameless.blamesAfter {d : Dialogue Request Answer α} (h : d.Blameless responder state) :
    d.BlamesAfter P responder state := by
  intro error herror hblamed
  rw [h error herror] at hblamed
  cases hblamed

theorem BlamesAfter.bind {d : Dialogue Request Answer α} {next : α → Dialogue Request Answer β}
    (h : d.BlamesAfter P responder state)
    (hnext : ∀ value after, (next value).Blameless responder after) :
    (d.bind next).BlamesAfter P responder state := by
  intro error herror hblamed
  cases hrun : d.run responder state with
  | mk result after =>
    cases result with
    | ok value =>
        rw [(run_transcript_bind responder hrun next).1] at herror
        rw [hnext value after error herror] at hblamed
        cases hblamed
    | error first =>
        obtain ⟨hrest, htranscript⟩ := run_transcript_bind_error responder hrun next
        rw [hrest] at herror
        rw [htranscript]
        exact h error (by rw [hrun, Except.error.inj herror]) hblamed

/-- What keeps to the requests may stand before. -/
theorem KeepsTo.blamesAfter_bind {d : Dialogue Request Answer α}
    {next : α → Dialogue Request Answer β} (h : d.KeepsTo P)
    (hnext : ∀ value after, d.run responder state = (.ok value, after) →
      (next value).BlamesAfter P responder after) :
    (d.bind next).BlamesAfter P responder state := by
  intro error herror hblamed e he
  cases hrun : d.run responder state with
  | mk result after =>
    cases result with
    | ok value =>
        -- What was sent is what the first part sent, and then what the rest did.
        obtain ⟨hrest, htranscript⟩ := run_transcript_bind responder hrun next
        rw [hrest] at herror
        rw [htranscript] at he
        rcases List.mem_append.mp he with he | he
        · exact h.of_mem_transcript he
        · exact hnext value after hrun error herror hblamed e he
    | error first =>
        rw [(run_transcript_bind_error responder hrun next).2] at he
        exact h.of_mem_transcript he

theorem blamesAfter_ofExcept_bind {result : Except EngineError α}
    {next : α → Dialogue Request Answer β}
    (h : ∀ value, result = .ok value → (next value).BlamesAfter P responder state) :
    ((ofExcept result).bind next).BlamesAfter P responder state := by
  cases result with
  | ok value => exact h value rfl
  | error error => exact fun _ _ _ => nofun

end Dialogue

end DataAccess
