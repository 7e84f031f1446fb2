import DataAccess.Proofs.Dialogue.Run

/-!
# What a run asks

The transcript of a run is the list of its requests, each with the state that it finds. A rule says
which request may follow which exchanges; `Follows` checks a rule along the run of one dialogue,
part by part, and `Follows.rule_of_transcript` reads the rule off the whole transcript.
-/

namespace DataAccess

/-- A request and the state of the responder that it finds. -/
structure Exchange (Request σ : Type) where
  request : Request
  state : σ

namespace Dialogue

variable {Request : Type} {Answer : Request → Type} {α β σ : Type}
  (responder : Responder Request Answer σ)

def transcript : Dialogue Request Answer α → σ → List (Exchange Request σ)
  | done _, _ => []
  | fail _, _ => []
  | note entry rest, state => rest.transcript (responder.note entry state)
  | ask request resume, state =>
    ⟨request, state⟩ :: (resume (responder.answer request state).1).transcript
      (responder.answer request state).2

/-- Where the first part of a run succeeds, the whole asks what that part and then the rest ask, and
ends as the rest does. -/
theorem run_transcript_bind {d : Dialogue Request Answer α} {value : α} {state after : σ}
    (h : d.run responder state = (.ok value, after)) (next : α → Dialogue Request Answer β) :
    (d.bind next).run responder state = (next value).run responder after ∧
      (d.bind next).transcript responder state =
        d.transcript responder state ++ (next value).transcript responder after := by
  induction d generalizing state with
  | done first =>
      obtain ⟨rfl, rfl⟩ := eq_of_run_done _ h
      exact ⟨rfl, rfl⟩
  | fail error => cases h
  | note entry rest ih => exact ih h
  | ask request resume ih =>
      obtain ⟨hrun, htranscript⟩ := ih _ h
      exact ⟨hrun, congrArg _ htranscript⟩

/-- Where the first part of a run fails, the whole ends there. -/
theorem run_transcript_bind_error {d : Dialogue Request Answer α} {error : EngineError} {after : σ}
    (h : d.run responder state = (.error error, after)) (next : α → Dialogue Request Answer β) :
    (d.bind next).run responder state = (.error error, after) ∧
      (d.bind next).transcript responder state = d.transcript responder state := by
  induction d generalizing state with
  | done value => cases h
  | fail first =>
      obtain ⟨herror, rfl⟩ := Prod.mk.inj h
      obtain rfl := Except.error.inj herror
      exact ⟨rfl, rfl⟩
  | note entry rest ih => exact ih h
  | ask request resume ih =>
      obtain ⟨hrun, htranscript⟩ := ih _ h
      exact ⟨hrun, congrArg _ htranscript⟩

/-- Whether a request is among some exchanges and was given that answer. -/
def Answered (past : List (Exchange Request σ)) (request : Request) (answer : Answer request) :
    Prop :=
  ∃ state, ⟨request, state⟩ ∈ past ∧ (responder.answer request state).1 = answer

theorem Answered.append {past more : List (Exchange Request σ)} {request : Request}
    {answer : Answer request} (h : Answered responder past request answer) :
    Answered responder (past ++ more) request answer := by
  obtain ⟨state, hmem, hanswer⟩ := h
  exact ⟨state, List.mem_append_left more hmem, hanswer⟩

theorem answered_last (past : List (Exchange Request σ)) (request : Request) (state : σ) :
    Answered responder (past ++ [⟨request, state⟩]) request
      (responder.answer request state).1 :=
  ⟨state, List.mem_append_right past (List.mem_singleton.mpr rfl), rfl⟩

variable (rule : List (Exchange Request σ) → Exchange Request σ → Prop)

/-- Every request of a run keeps the rule, given what was asked before it, and the run ends in a
result and a state that satisfy `post`. -/
def Follows (post : List (Exchange Request σ) → σ → Except EngineError α → Prop) :
    Dialogue Request Answer α → List (Exchange Request σ) → σ → Prop
  | done value, past, state => post past state (.ok value)
  | fail error, past, state => post past state (.error error)
  | note entry rest, past, state => Follows post rest past (responder.note entry state)
  | ask request resume, past, state =>
    rule past ⟨request, state⟩ ∧
      Follows post (resume (responder.answer request state).1) (past ++ [⟨request, state⟩])
        (responder.answer request state).2

/-- What has to follow a dialogue that goes on with `next` if it succeeds. -/
def AfterOk (post : List (Exchange Request σ) → σ → Except EngineError β → Prop)
    (next : α → Dialogue Request Answer β) :
    List (Exchange Request σ) → σ → Except EngineError α → Prop
  | past, state, .ok value => Follows responder rule post (next value) past state
  | past, state, .error error => post past state (.error error)

variable {responder rule}

theorem follows_bind {post : List (Exchange Request σ) → σ → Except EngineError β → Prop}
    {d : Dialogue Request Answer α} {next : α → Dialogue Request Answer β}
    {past : List (Exchange Request σ)} {state : σ} :
    Follows responder rule post (d.bind next) past state ↔
      Follows responder rule (AfterOk responder rule post next) d past state := by
  induction d generalizing past state with
  | done value => exact Iff.rfl
  | fail error => exact Iff.rfl
  | note entry rest ih => exact ih
  | ask request resume ih => exact and_congr Iff.rfl (ih _)

theorem Follows.mono {post post' : List (Exchange Request σ) → σ → Except EngineError α → Prop}
    {d : Dialogue Request Answer α} {past : List (Exchange Request σ)} {state : σ}
    (hpost : ∀ past state result, post past state result → post' past state result)
    (h : Follows responder rule post d past state) :
    Follows responder rule post' d past state := by
  induction d generalizing past state with
  | done value => exact hpost _ _ _ h
  | fail error => exact hpost _ _ _ h
  | note entry rest ih => exact ih h
  | ask request resume ih => exact ⟨h.1, ih _ h.2⟩

theorem AfterOk.of_cases {post : List (Exchange Request σ) → σ → Except EngineError β → Prop}
    {next : α → Dialogue Request Answer β} {past : List (Exchange Request σ)} {state : σ}
    {result : Except EngineError α}
    (hok : ∀ value, result = .ok value → Follows responder rule post (next value) past state)
    (herror : ∀ error, result = .error error → post past state (.error error)) :
    AfterOk responder rule post next past state result := by
  cases result with
  | ok value => exact hok value rfl
  | error error => exact herror error rfl

/-- What was asked before a run is still there when it ends. -/
theorem Follows.grows {post : List (Exchange Request σ) → σ → Except EngineError α → Prop}
    {d : Dialogue Request Answer α} {past : List (Exchange Request σ)} {state : σ}
    (h : Follows responder rule post d past state) :
    Follows responder rule
      (fun past' state' result => post past' state' result ∧ ∃ more, past' = past ++ more)
      d past state := by
  induction d generalizing past state with
  | done value => exact ⟨h, [], (List.append_nil past).symm⟩
  | fail error => exact ⟨h, [], (List.append_nil past).symm⟩
  | note entry rest ih => exact ih h
  | ask request resume ih =>
      refine ⟨h.1, (ih _ h.2).mono ?_⟩
      rintro past' state' result ⟨hpost, more, rfl⟩
      exact ⟨hpost, ⟨request, state⟩ :: more, by simp⟩

theorem follows_ofExcept {post : List (Exchange Request σ) → σ → Except EngineError α → Prop}
    {result : Except EngineError α} {past : List (Exchange Request σ)} {state : σ} :
    Follows responder rule post (ofExcept result) past state ↔ post past state result := by
  cases result <;> exact Iff.rfl

section Results

variable {Result : Request → Type}
  {responder : Responder Request (fun r => Except EngineError (Result r)) σ}
  {rule : List (Exchange Request σ) → Exchange Request σ → Prop}

/-- A request that fails on an error, and what follows it for every answer. -/
theorem follows_request_bind {post : List (Exchange Request σ) → σ → Except EngineError α → Prop}
    {r : Request} {next : Result r → Dialogue Request (fun r => Except EngineError (Result r)) α}
    {past : List (Exchange Request σ)} {state : σ} (hrule : rule past ⟨r, state⟩)
    (hok : ∀ value, (responder.answer r state).1 = .ok value →
      Follows responder rule post (next value) (past ++ [⟨r, state⟩]) (responder.answer r state).2)
    (herror : ∀ error after, post (past ++ [⟨r, state⟩]) after (.error error)) :
    Follows responder rule post (((request r).bind fun answer => ofExcept answer).bind next) past
      state := by
  have hrest : Follows responder rule post ((ofExcept (responder.answer r state).1).bind next)
      (past ++ [⟨r, state⟩]) (responder.answer r state).2 := by
    rw [follows_bind, follows_ofExcept]
    exact AfterOk.of_cases hok fun error _ => herror error _
  exact ⟨hrule, hrest⟩

end Results

/-- **Rules hold along the transcript.** Every request of a run that follows a rule keeps it, whatever
was asked before the run and wherever in the run it stands. -/
theorem Follows.rule_of_transcript
    {post : List (Exchange Request σ) → σ → Except EngineError α → Prop}
    {d : Dialogue Request Answer α} {past : List (Exchange Request σ)} {state : σ}
    (h : Follows responder rule post d past state) {before after : List (Exchange Request σ)}
    {e : Exchange Request σ} (hsplit : d.transcript responder state = before ++ e :: after) :
    rule (past ++ before) e := by
  -- Each request that the run gets past moves from `before` to `past`.
  induction d generalizing past state before with
  | done value => simp [transcript] at hsplit
  | fail error => simp [transcript] at hsplit
  | note entry rest ih => exact ih h hsplit
  | ask request resume ih =>
      rw [transcript] at hsplit
      cases before with
      | nil =>
          obtain ⟨rfl, -⟩ := List.cons.inj hsplit
          simpa using h.1
      | cons first before =>
          obtain ⟨rfl, htail⟩ := List.cons.inj hsplit
          simpa using ih _ h.2 htail

theorem Follows.with_run {post : List (Exchange Request σ) → σ → Except EngineError α → Prop}
    {d : Dialogue Request Answer α} {past : List (Exchange Request σ)} {state : σ}
    (h : Follows responder rule post d past state) :
    Follows responder rule
      (fun past' state' result => post past' state' result ∧ (result, state') = d.run responder state)
      d past state := by
  induction d generalizing past state with
  | done value => exact ⟨h, rfl⟩
  | fail error => exact ⟨h, rfl⟩
  | note entry rest ih => exact ih h
  | ask request resume ih => exact ⟨h.1, ih _ h.2⟩

/-! ### The states along a transcript -/

/-- A responder whose state the log does not change. -/
def Responder.Quiet (responder : Responder Request Answer σ) : Prop :=
  ∀ entry state, responder.note entry state = state

variable (responder) in
def replay (state : σ) (exchanges : List (Exchange Request σ)) : σ :=
  exchanges.foldl (fun state e => (responder.answer e.request state).2) state

theorem replay_append (state : σ) (first second : List (Exchange Request σ)) :
    replay responder state (first ++ second) = replay responder (replay responder state first) second :=
  List.foldl_append

theorem run_eq_replay (hquiet : responder.Quiet) (d : Dialogue Request Answer α) (state : σ) :
    (d.run responder state).2 = replay responder state (d.transcript responder state) := by
  induction d generalizing state with
  | done value => rfl
  | fail error => rfl
  | note entry rest ih =>
      rw [run, transcript, hquiet]
      exact ih state
  | ask request resume ih => exact ih _ _

theorem state_eq_replay (hquiet : responder.Quiet) {d : Dialogue Request Answer α} {state : σ}
    {before after : List (Exchange Request σ)} {e : Exchange Request σ}
    (hsplit : d.transcript responder state = before ++ e :: after) :
    e.state = replay responder state before := by
  induction d generalizing state before with
  | done value => simp [transcript] at hsplit
  | fail error => simp [transcript] at hsplit
  | note entry rest ih =>
      rw [transcript, hquiet] at hsplit
      exact ih hsplit
  | ask request resume ih =>
      rw [transcript] at hsplit
      cases before with
      | nil =>
          obtain ⟨rfl, -⟩ := List.cons.inj hsplit
          rfl
      | cons first before =>
          obtain ⟨rfl, htail⟩ := List.cons.inj hsplit
          have hrest := ih _ htail
          exact hrest

end Dialogue

end DataAccess
