import DataAccess.Proofs.Dialogue.Transcript

/-!
# Dialogues that read alike

Two dialogues read alike from two states if both leave their state as it is, and they end in the
same error or in related values. Parts that read alike make up wholes that read alike.
-/

namespace DataAccess

/-- The same error, or values in a relation. -/
inductive ResultsAlike {α β : Type} (R : α → β → Prop) :
    Except EngineError α → Except EngineError β → Prop
  | ok {a : α} {b : β} (h : R a b) : ResultsAlike R (.ok a) (.ok b)
  | error (error : EngineError) : ResultsAlike R (.error error) (.error error)

namespace ResultsAlike

variable {α β γ δ : Type} {R : α → β → Prop}

theorem eq {x y : Except EngineError α} (h : ResultsAlike Eq x y) : x = y := by
  cases h with
  | ok h => rw [h]
  | error error => rfl

theorem mono {R' : α → β → Prop} {x : Except EngineError α} {y : Except EngineError β}
    (hR : ∀ a b, x = .ok a → R a b → R' a b) (h : ResultsAlike R x y) : ResultsAlike R' x y := by
  cases h with
  | ok h => exact .ok (hR _ _ rfl h)
  | error error => exact .error error

theorem map {T : γ → δ → Prop} {f : α → γ} {g : β → δ} {x : Except EngineError α}
    {y : Except EngineError β} (hT : ∀ a b, R a b → T (f a) (g b)) (h : ResultsAlike R x y) :
    ResultsAlike T (x.map f) (y.map g) := by
  cases h with
  | ok h => exact .ok (hT _ _ h)
  | error error => exact .error error

/-- Results that are the same once they are mapped have values that are. -/
theorem of_map_eq {f : α → γ} {g : β → γ} {x : Except EngineError α} {y : Except EngineError β}
    (h : x.map f = y.map g) : ResultsAlike (fun a b => f a = g b) x y := by
  cases x with
  | ok a =>
    cases y with
    | ok b => exact .ok (Except.ok.inj h)
    | error error => cases h
  | error error =>
    cases y with
    | ok b => cases h
    | error error' =>
      obtain rfl := Except.error.inj h
      exact .error error

end ResultsAlike

namespace Dialogue

variable {Request : Type} {Answer : Request → Type} {σ α α' β β' : Type}
  {responder : Responder Request Answer σ} {s s' : σ} {R : α → α' → Prop} {T : β → β' → Prop}

variable (responder s s') in
/-- One dialogue from a state and another from its own only read, and read related values. -/
structure ReadAlike (R : α → α' → Prop) (d : Dialogue Request Answer α)
    (d' : Dialogue Request Answer α') : Prop where
  results : ResultsAlike R (d.run responder s).1 (d'.run responder s').1
  state : (d.run responder s).2 = s
  state' : (d'.run responder s').2 = s'

namespace ReadAlike

variable {d : Dialogue Request Answer α} {d' : Dialogue Request Answer α'}

theorem of_run (x : Except EngineError α) (x' : Except EngineError α')
    (hrun : d.run responder s = (x, s)) (hrun' : d'.run responder s' = (x', s'))
    (hresults : ResultsAlike R x x') : ReadAlike responder s s' R d d' := by
  refine ⟨?_, ?_, ?_⟩
  · rw [hrun, hrun']
    exact hresults
  · rw [hrun]
  · rw [hrun']

theorem done {a : α} {a' : α'} (h : R a a') :
    ReadAlike responder s s' R (.done a) (.done a') :=
  of_run (.ok a) (.ok a') rfl rfl (.ok h)

theorem fail (error : EngineError) : ReadAlike responder s s' R (.fail error) (.fail error) :=
  of_run (.error error) (.error error) rfl rfl (.error error)

theorem ofExcept {x : Except EngineError α} {x' : Except EngineError α'}
    (h : ResultsAlike R x x') :
    ReadAlike responder s s' R (Dialogue.ofExcept x) (Dialogue.ofExcept x') :=
  of_run x x' (run_ofExcept responder x s) (run_ofExcept responder x' s') h

theorem mono {R' : α → α' → Prop} (hR : ∀ a a', R a a' → R' a a')
    (h : ReadAlike responder s s' R d d') : ReadAlike responder s s' R' d d' :=
  ⟨h.results.mono fun a a' _ => hR a a', h.state, h.state'⟩

theorem note (hquiet : responder.Quiet) (entry entry' : LogEntry)
    (h : ReadAlike responder s s' R d d') :
    ReadAlike responder s s' R (.note entry d) (.note entry' d') := by
  have hrun : (Dialogue.note entry d).run responder s = d.run responder s := by
    rw [run, hquiet]
  have hrun' : (Dialogue.note entry' d').run responder s' = d'.run responder s' := by
    rw [run, hquiet]
  refine ⟨?_, ?_, ?_⟩
  · rw [hrun, hrun']
    exact h.results
  · rw [hrun]
    exact h.state
  · rw [hrun']
    exact h.state'

/-- What comes next may use that the first part has run. -/
theorem bind {next : α → Dialogue Request Answer β} {next' : α' → Dialogue Request Answer β'}
    (h : ReadAlike responder s s' R d d')
    (hnext : ∀ a a', d.run responder s = (.ok a, s) → R a a' →
      ReadAlike responder s s' T (next a) (next' a')) :
    ReadAlike responder s s' T (d.bind next) (d'.bind next') := by
  obtain ⟨hresults, hstate, hstate'⟩ := h
  have hrun : d.run responder s = ((d.run responder s).1, s) := Prod.ext rfl hstate
  have hrun' : d'.run responder s' = ((d'.run responder s').1, s') := Prod.ext rfl hstate'
  -- The results are taken apart together, for they are errors or values at the same time.
  generalize (d.run responder s).1 = x at hrun hresults
  generalize (d'.run responder s').1 = x' at hrun' hresults
  cases hresults with
  | ok hvalue =>
      have hrest := hnext _ _ hrun hvalue
      refine ⟨?_, ?_, ?_⟩
      · rw [run_bind, run_bind, hrun, hrun']
        exact hrest.results
      · rw [run_bind, hrun]
        exact hrest.state
      · rw [run_bind, hrun']
        exact hrest.state'
  | error error =>
      refine of_run (.error error) (.error error) ?_ ?_ (.error error)
      · rw [run_bind, hrun]
        rfl
      · rw [run_bind, hrun']
        rfl

theorem attempt (h : ReadAlike responder s s' R d d') :
    ReadAlike responder s s' (ResultsAlike R) d.attempt d'.attempt := by
  refine of_run (.ok (d.run responder s).1) (.ok (d'.run responder s').1) ?_ ?_
    (.ok h.results)
  · rw [run_attempt, h.state]
  · rw [run_attempt, h.state']

end ReadAlike

end Dialogue

end DataAccess
