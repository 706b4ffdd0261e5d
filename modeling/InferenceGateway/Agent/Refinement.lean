import InferenceGateway.Agent.Moves

/-!
# The executions of the runner behind its events

The fleet sees a runner through the events that change what its job reports.
Every step of an execution is a sequence of such events, so whatever holds of
the events holds of executions.
-/

namespace InferenceGateway

open Library

/-- The events a runner goes on with take its job from one state to another. -/
inductive Works (platform : Platform) : JobState → JobState → Prop where
  | refl {job : JobState} : Works platform job job
  | step {job after : JobState} {event : RunnerEvent} {phase : String} {progress : ℚ}
      {upstreamId : Option String}
      (continues : job.advance platform event = some (.continues phase progress upstreamId))
      (rest : Works platform (job.working phase progress upstreamId) after) :
      Works platform job after

/-- The events behind a step that replies so. -/
def Simulates (platform : Platform) (before : JobState) (result : RunnerReply × RunnerState) :
    Prop :=
  match result.1 with
  | .calls _ | .sleeps _ => Works platform before result.2.job
  | .returns body => ∃ job event, Works platform before job ∧
      job.advance platform event = some (.returns body)
  | .raises _ => ∃ job event, Works platform before job ∧
      job.advance platform event = some .raises
  | .silent => result.2.job = before ∨ result.2.job = before.cancel

/-- The phase a job reports at a point. -/
def RunnerPoint.phase : RunnerPoint → Option String
  | .entering => some "starting"
  | .fetching => some "downloading_input"
  | .creating _ => some "submitting"
  | .polling _ | .sleeping _ | .deleting _ | .cancelling _ => some "generating"
  | .downloading _ => some "downloading_output"
  | .uploading .. | .backingOff .. => some "uploading"
  | .returned _ | .raised _ => none

/-- A job reports the phase of the point its runner is at; a runner asks to cancel only when it
was told to stop. -/
structure InPhase (state : RunnerState) : Prop where
  phase : ∀ phase, state.point.phase = some phase → state.job.phase = phase
  told : ∀ id, state.point = .deleting id ∨ state.point = .cancelling id →
    state.job.cancelled = true

/-- What a step leaves behind, and the events it consists of. -/
structure Refines (platform : Platform) (before : JobState)
    (result : RunnerReply × RunnerState) : Prop where
  simulates : Simulates platform before result
  inPhase : InPhase result.2

variable {platform : Platform} {config : RunnerConfig} {state : RunnerState}

theorem inPhase_of_ended (ended : state.point.ended = true) : InPhase state := by
  constructor
  · intro phase here
    cases point : state.point with
    | returned | raised =>
      rw [point] at here
      cases here
    | _ =>
      rw [point] at ended
      cases ended
  · rintro id (here | here) <;> rw [here] at ended <;> cases ended

/-- Going on to a point with the phase of the job. -/
theorem inPhase_of_phase {phase : String} (here : state.point.phase = some phase)
    (same : state.job.phase = phase)
    (away : ∀ id, state.point ≠ .deleting id ∧ state.point ≠ .cancelling id) : InPhase state := by
  constructor
  · intro phase' here'
    rw [here, Option.some.injEq] at here'
    exact same.trans here'
  · rintro id (at_end | at_end)
    · exact absurd at_end (away id).1
    · exact absurd at_end (away id).2

theorem Works.trans {first second third : JobState} (left : Works platform first second)
    (right : Works platform second third) : Works platform first third := by
  induction left with
  | refl => exact right
  | step continues _ inductionHypothesis => exact .step continues (inductionHypothesis right)

/-! ### Exceptions -/

/-- The runner has an event for the exception in the phase of the job. -/
def Raised.Foreseen (phase : String) : Raised → Prop
  | .cancelled => False
  | .staleLease => phase ∈ ["downloading_input", "uploading"]
  | .sglang _ _ => phase ∈ ["submitting", "generating", "downloading_output", "uploading"]
  | .exception _ | .interrupted => phase ≠ "starting"

theorem refines_handle {before : JobState} {exception : Raised}
    (works : Works platform before state.job) (foreseen : exception.Foreseen state.job.phase) :
    Refines platform before (state.handle exception) := by
  cases exception with
  | cancelled => exact foreseen.elim
  | staleLease => exact ⟨⟨_, .stale, works, if_pos foreseen⟩, inPhase_of_ended rfl⟩
  | sglang message retryable =>
    exact ⟨⟨_, .refused message retryable, works, if_pos foreseen⟩, inPhase_of_ended rfl⟩
  | exception message =>
    exact ⟨⟨_, .crashed message, works, if_neg foreseen⟩, inPhase_of_ended rfl⟩
  | interrupted => exact ⟨⟨_, .aborted, works, if_neg foreseen⟩, inPhase_of_ended rfl⟩

/-- The calls to `sglang` raise nothing that belongs to the gateway. -/
theorem foreseen_of_sglang {exception : Raised} {outcome : HttpOutcome} {phase : String}
    (raises : (∃ endpoint, createVideo endpoint outcome = .error exception) ∨
      pollVideo outcome = .error exception ∨ downloadContent outcome = .error exception)
    (here : phase ∈ ["submitting", "generating", "downloading_output", "uploading"]) :
    exception.Foreseen phase := by
  have running : phase ≠ "starting" := by
    rintro rfl
    simp at here
  cases exception with
  | sglang message retryable => exact here
  | exception message | interrupted => exact running
  | cancelled | staleLease =>
    cases outcome with
    | httpError message | exception message | interrupted =>
      rcases raises with ⟨endpoint, raises⟩ | raises | raises <;> cases raises
    | response response =>
      simp only [createVideo, pollVideo, downloadContent] at raises
      rcases raises with ⟨endpoint, raises⟩ | raises | raises
      all_goals repeat' split at raises
      all_goals cases raises

theorem foreseen_of_uploadArtifact {exception : Raised} {outcome : HttpOutcome}
    (raises : uploadArtifact outcome = .error exception) : exception.Foreseen "uploading" := by
  cases exception with
  | sglang message retryable | staleLease => simp [Raised.Foreseen]
  | exception message | interrupted => simp [Raised.Foreseen]
  | cancelled =>
    cases outcome with
    | httpError message | exception message | interrupted => cases raises
    | response response =>
      simp only [uploadArtifact] at raises
      repeat' split at raises
      all_goals cases raises

/-- What the fetch of the input raises: a wrong checksum is found where the flag is looked at. -/
theorem refines_fetchInput {outcome : HttpOutcome} {exception : Raised}
    (here : state.job.phase = "downloading_input")
    (raises : fetchInput platform state.job.assignment outcome = .error exception) :
    Refines platform state.job (state.handle exception) := by
  cases outcome with
  | httpError message | exception message | interrupted =>
    cases raises
    exact refines_handle .refl (by simp [Raised.Foreseen, here])
  | response response =>
    simp only [fetchInput] at raises
    split at raises
    · cases raises
      exact refines_handle .refl (by simp [Raised.Foreseen, here])
    · split at raises
      · cases raises
        exact refines_handle .refl (by simp [Raised.Foreseen, here])
      · split at raises
        · cases raises
        · next mismatch =>
          cases raises
          refine ⟨⟨_, .fetched response.content, .refl, ?_⟩, inPhase_of_ended rfl⟩
          simp [JobState.advance, here, mismatch]

/-! ### Steps -/

theorem works_polled (here : state.job.phase = "generating")
    (unflagged : state.job.cancelled = false) :
    Works platform state.job (state.job.working state.job.phase
      (min (Binary64.nearest (9 / 10))
        (Binary64.nearest (state.job.progress + Binary64.nearest (1 / 50))))
      state.job.upstreamId) := by
  have continues : state.job.advance platform .polled = some (.continues "generating"
      (min (Binary64.nearest (9 / 10))
        (Binary64.nearest (state.job.progress + Binary64.nearest (1 / 50))))
      state.job.upstreamId) := by simp [JobState.advance, here, unflagged]
  rw [here]
  exact .step continues .refl

/-- A runner that was told to stop reports it. -/
theorem refines_cancelled (here : state.job.phase = "generating")
    (flagged : state.job.cancelled = true) :
    Refines platform state.job (state.returns cancelledResult) := by
  refine ⟨⟨_, .polled, .refl, ?_⟩, inPhase_of_ended rfl⟩
  simp [JobState.advance, here, flagged]

theorem refines_raises (here : state.job.phase = "generating") (exception : Raised) :
    Refines platform state.job (state.raises exception) :=
  ⟨⟨_, .aborted, .refl, by simp [JobState.advance, here]⟩, inPhase_of_ended rfl⟩

theorem refines_cancelAnswered {next : RunnerReply × RunnerState}
    (here : state.job.phase = "generating") (flagged : state.job.cancelled = true)
    (refines : Refines platform state.job next) (outcome : HttpOutcome) :
    Refines platform state.job (state.cancelAnswered next outcome) := by
  cases outcome with
  | response response =>
    simp only [RunnerState.cancelAnswered]
    split
    · exact refines_cancelled here flagged
    · exact refines
  | httpError message => exact refines
  | exception message | interrupted => exact refines_raises here _

theorem refines_onPoll (here : state.job.phase = "generating") (id : String) :
    Refines platform state.job (state.onPoll config id) := by
  unfold RunnerState.onPoll
  split
  · next flagged =>
    simp only [RunnerState.handle]
    split
    · refine ⟨.refl, ?_, fun _ _ => flagged⟩
      intro phase same
      exact here.trans (Option.some.inj same)
    · exact refines_cancelled here flagged
  · next unflagged =>
    exact ⟨works_polled here (by simpa using unflagged),
      inPhase_of_phase rfl here fun _ => ⟨by rintro ⟨⟩, by rintro ⟨⟩⟩⟩

theorem refines_fetched (here : state.job.phase = "downloading_input") {image : Bytes}
    (checked : state.job.assignment.checks platform image = true) :
    Refines platform state.job (state.fetched image) := by
  unfold RunnerState.fetched
  split
  · next flagged =>
    refine ⟨⟨_, .fetched image, .refl, ?_⟩, inPhase_of_ended rfl⟩
    simp [JobState.advance, here, checked, flagged]
  · next unflagged =>
    have continues : state.job.advance platform (.fetched image) = some (.continues "submitting"
        state.job.progress state.job.upstreamId) := by
      simp [JobState.advance, here, checked, unflagged]
    exact ⟨.step continues .refl, inPhase_of_phase rfl rfl fun _ => ⟨by rintro ⟨⟩, by rintro ⟨⟩⟩⟩

theorem refines_created (here : state.job.phase = "submitting") (id : String) :
    Refines platform state.job (state.created id) := by
  have continues : state.job.advance platform (.created id) =
      some (.continues "generating" (Binary64.nearest (1 / 10)) (some id)) := if_pos here
  have works : Works platform state.job
      (state.enter "generating" (Binary64.nearest (1 / 10)) (some id)).job :=
    .step continues .refl
  unfold RunnerState.created RunnerState.await
  split
  · exact refines_handle works (by simp [Raised.Foreseen, RunnerState.enter, JobState.working])
  · exact ⟨works, inPhase_of_phase rfl rfl fun _ => ⟨nofun, nofun⟩⟩

theorem refines_downloaded (here : state.job.phase = "downloading_output") (media : Bytes) :
    Refines platform state.job (state.downloaded platform config media) := by
  have continues : state.job.advance platform .downloaded =
      some (.continues "uploading" state.job.progress state.job.upstreamId) := if_pos here
  have works : Works platform state.job
      (state.enter "uploading" state.job.progress state.job.upstreamId).job :=
    .step continues .refl
  unfold RunnerState.downloaded RunnerState.upload
  split
  · exact ⟨works, inPhase_of_phase rfl rfl fun _ => ⟨nofun, nofun⟩⟩
  · exact refines_handle works (by simp [Raised.Foreseen, RunnerState.enter, JobState.working])

theorem refines_missed (here : state.job.phase = "uploading") (media : Bytes) (attempt : Int)
    (last : String) :
    Refines platform state.job (state.uploaded platform config media attempt (some last)) := by
  simp only [RunnerState.uploaded]
  split
  · exact ⟨.refl, inPhase_of_phase rfl here fun _ => ⟨by rintro ⟨⟩, by rintro ⟨⟩⟩⟩
  · exact refines_handle .refl (by simp [Raised.Foreseen, here])

theorem refines_of_move {action : RunnerAction} {result : RunnerReply × RunnerState}
    (moves : Move platform config state action result) (inPhase : InPhase state) :
    Refines platform state.job result := by
  have phase {phase : String} {point : RunnerPoint} (here : state.point = point)
      (same : point.phase = some phase) : state.job.phase = phase :=
    inPhase.phase phase (here ▸ same)
  cases moves with
  | flagged => exact ⟨.inr rfl, inPhase.phase, fun _ _ => rfl⟩
  | ticked => exact ⟨.inl rfl, inPhase.phase, inPhase.told⟩
  | began here =>
    have continues : state.job.advance platform .begin = some (.continues "downloading_input"
        state.job.progress state.job.upstreamId) := if_pos (phase here rfl)
    exact ⟨.step continues .refl, inPhase_of_phase rfl rfl fun _ => ⟨nofun, nofun⟩⟩
  | threw throws =>
    cases throws with
    | fetching here raises => exact refines_fetchInput (phase here rfl) raises
    | creating here raises =>
      apply refines_handle .refl
      rw [phase here rfl]
      exact foreseen_of_sglang (.inl ⟨_, raises⟩) (by simp)
    | polling here raises =>
      apply refines_handle .refl
      rw [phase here rfl]
      exact foreseen_of_sglang (.inr (.inl raises)) (by simp)
    | downloading here raises =>
      apply refines_handle .refl
      rw [phase here rfl]
      exact foreseen_of_sglang (.inr (.inr raises)) (by simp)
    | uploading here raises =>
      apply refines_handle .refl
      rw [phase here rfl]
      exact foreseen_of_uploadArtifact raises
    | overdue here | sleeping here | backingOff here =>
      apply refines_handle .refl
      rw [phase here rfl]
      simp [Raised.Foreseen]
  | fetched here fetched =>
    obtain ⟨response, -, -, -, -, checked⟩ := fetchInput_ok fetched
    exact refines_fetched (phase here rfl) checked
  | created here => exact refines_created (phase here rfl) _
  | finished here =>
    have continues : state.job.advance platform .generated = some (.continues
        "downloading_output" (Binary64.nearest (19 / 20)) state.job.upstreamId) :=
      if_pos (phase here rfl)
    exact ⟨.step continues .refl, inPhase_of_phase rfl rfl fun _ => ⟨nofun, nofun⟩⟩
  | waits here => exact refines_onPoll (phase here rfl) _
  | polls here =>
    exact ⟨.refl, inPhase_of_phase rfl (phase here rfl) fun _ => ⟨nofun, nofun⟩⟩
  | downloaded here => exact refines_downloaded (phase here rfl) _
  | @landed media attempt outcome here =>
    exact ⟨⟨_, .uploaded media, .refl, if_pos (phase here rfl)⟩, inPhase_of_ended rfl⟩
  | missed here => exact refines_missed (phase here rfl) _ _ _
  | posts here =>
    exact ⟨.refl, inPhase_of_phase rfl (phase here rfl) fun _ => ⟨nofun, nofun⟩⟩
  | @deleted id outcome here =>
    have flagged := inPhase.told id (.inl here)
    have next : Refines platform state.job (state.cancelAgain id) :=
      ⟨.refl, fun _ same => (phase here rfl).trans (Option.some.inj same), fun _ _ => flagged⟩
    exact refines_cancelAnswered (phase here rfl) flagged next outcome
  | @cancelled id outcome here =>
    have flagged := inPhase.told id (.inr here)
    exact refines_cancelAnswered (phase here rfl) flagged
      (refines_cancelled (phase here rfl) flagged) outcome

/-- Every step of every execution is a sequence of events of the runner the fleet sees. -/
theorem execution_refines (assignment : AgentAssignment) (start : ℚ)
    (run : RunnerRun platform config assignment start) :
    ∀ t ∈ run.trace, Simulates platform t.pre.job (t.reply, t.post) := by
  intro t member
  obtain ⟨before, after, split⟩ := List.append_of_mem member
  have whole := run.run
  rw [split] at whole
  have initially : InPhase (.starting assignment start) :=
    inPhase_of_phase rfl rfl fun _ => ⟨nofun, nofun⟩
  have inPhase : InPhase t.pre :=
    whole.split.1.invariant initially fun _ fires inPhase =>
      (refines_of_move (move fires) inPhase).inPhase
  exact (refines_of_move (move whole.split.2.1) inPhase).simulates

end InferenceGateway
