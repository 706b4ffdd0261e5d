import InferenceGateway.Agent.Execution

/-!
# What one step of the runner can do

`Move` lists the ways a runner moves on, each with its guard; every later fact
about executions is a case analysis on it.
-/

namespace InferenceGateway

open Library

/-- The awaited call raises into `run`. -/
inductive Throws (platform : Platform) (state : RunnerState) :
    RunnerAction → Raised → Prop where
  | fetching {outcome : HttpOutcome} {exception : Raised} (here : state.point = .fetching)
      (raises : fetchInput platform state.job.assignment outcome = .error exception) :
      Throws platform state (.answer outcome) exception
  | creating {image : Bytes} {outcome : HttpOutcome} {exception : Raised}
      (here : state.point = .creating image)
      (raises : createVideo state.job.assignment.endpoint outcome = .error exception) :
      Throws platform state (.answer outcome) exception
  | polling {id : String} {outcome : HttpOutcome} {exception : Raised}
      (here : state.point = .polling id) (raises : pollVideo outcome = .error exception) :
      Throws platform state (.answer outcome) exception
  | overdue {id : String} (here : state.point = .sleeping id) (late : state.deadline < state.now) :
      Throws platform state .wake (.sglang "timed out waiting for sglang to finish" false)
  | downloading {id : String} {outcome : HttpOutcome} {exception : Raised}
      (here : state.point = .downloading id) (raises : downloadContent outcome = .error exception) :
      Throws platform state (.answer outcome) exception
  | uploading {media : Bytes} {attempt : Int} {outcome : HttpOutcome} {exception : Raised}
      (here : state.point = .uploading media attempt)
      (raises : uploadArtifact outcome = .error exception) :
      Throws platform state (.answer outcome) exception
  | sleeping {id : String} (here : state.point = .sleeping id) :
      Throws platform state .interrupt .interrupted
  | backingOff {media : Bytes} {attempt : Int} (here : state.point = .backingOff media attempt) :
      Throws platform state .interrupt .interrupted

/-- One step of an execution. -/
inductive Move (platform : Platform) (config : RunnerConfig) (state : RunnerState) :
    RunnerAction → RunnerReply × RunnerState → Prop where
  | flagged (running : state.point.ended = false) :
      Move platform config state .raiseFlag (.silent, { state with job := state.job.cancel })
  | ticked {now : ℚ} (later : state.now ≤ now) :
      Move platform config state (.tick now) (.silent, { state with now := now })
  | began (here : state.point = .entering) :
      Move platform config state .begin (state.begin config)
  | threw {action : RunnerAction} {exception : Raised}
      (throws : Throws platform state action exception) :
      Move platform config state action (state.handle exception)
  | fetched {outcome : HttpOutcome} {image : Bytes} (here : state.point = .fetching)
      (fetched : fetchInput platform state.job.assignment outcome = .ok image) :
      Move platform config state (.answer outcome) (state.fetched image)
  | created {image : Bytes} {outcome : HttpOutcome} {id : String}
      (here : state.point = .creating image)
      (created : createVideo state.job.assignment.endpoint outcome = .ok id) :
      Move platform config state (.answer outcome) (state.created id)
  | finished {id : String} {outcome : HttpOutcome} (here : state.point = .polling id)
      (polled : pollVideo outcome = .ok true) :
      Move platform config state (.answer outcome) (state.polled config id true)
  | waits {id : String} {outcome : HttpOutcome} (here : state.point = .polling id)
      (polled : pollVideo outcome = .ok false) :
      Move platform config state (.answer outcome) (state.onPoll config id)
  | polls {id : String} (here : state.point = .sleeping id) (early : ¬ state.deadline < state.now) :
      Move platform config state .wake (state.calls (.polling id) (.getVideo id))
  | downloaded {id : String} {outcome : HttpOutcome} {media : Bytes}
      (here : state.point = .downloading id) (downloaded : downloadContent outcome = .ok media) :
      Move platform config state (.answer outcome) (state.downloaded platform config media)
  | landed {media : Bytes} {attempt : Int} {outcome : HttpOutcome}
      (here : state.point = .uploading media attempt)
      (uploaded : uploadArtifact outcome = .ok none) :
      Move platform config state (.answer outcome)
        (state.returns (completedResult platform media))
  | missed {media : Bytes} {attempt : Int} {outcome : HttpOutcome} {last : String}
      (here : state.point = .uploading media attempt)
      (uploaded : uploadArtifact outcome = .ok (some last)) :
      Move platform config state (.answer outcome)
        (state.uploaded platform config media attempt (some last))
  | posts {media : Bytes} {attempt : Int} (here : state.point = .backingOff media attempt) :
      Move platform config state .wake (state.post platform media (attempt + 1))
  | deleted {id : String} {outcome : HttpOutcome} (here : state.point = .deleting id) :
      Move platform config state (.answer outcome)
        (state.cancelAnswered (state.cancelAgain id) outcome)
  | cancelled {id : String} {outcome : HttpOutcome} (here : state.point = .cancelling id) :
      Move platform config state (.answer outcome)
        (state.cancelAnswered (state.returns cancelledResult) outcome)

theorem move {platform : Platform} {config : RunnerConfig} {state : RunnerState}
    {action : RunnerAction} {result : RunnerReply × RunnerState}
    (steps : state.step platform config action = some result) :
    Move platform config state action result := by
  cases action with
  | begin =>
    simp only [RunnerState.step] at steps
    split at steps
    · next here =>
      cases steps
      exact .began here
    · cases steps
  | answer outcome =>
    simp only [RunnerState.step] at steps
    split at steps
    · next here =>
      cases steps
      cases fetched : fetchInput platform state.job.assignment outcome with
      | ok image => exact .fetched here fetched
      | error exception => exact .threw (.fetching here fetched)
    · next image here =>
      cases steps
      cases created : createVideo state.job.assignment.endpoint outcome with
      | ok id => exact .created here created
      | error exception => exact .threw (.creating here created)
    · next id here =>
      cases steps
      cases polled : pollVideo outcome with
      | ok done =>
        cases done with
        | true => exact .finished here polled
        | false => exact .waits here polled
      | error exception => exact .threw (.polling here polled)
    · next id here =>
      cases steps
      cases downloaded : downloadContent outcome with
      | ok media => exact .downloaded here downloaded
      | error exception => exact .threw (.downloading here downloaded)
    · next media attempt here =>
      cases steps
      cases uploaded : uploadArtifact outcome with
      | ok last =>
        cases last with
        | none => exact .landed here uploaded
        | some last => exact .missed here uploaded
      | error exception => exact .threw (.uploading here uploaded)
    · next id here =>
      cases steps
      exact .deleted here
    · next id here =>
      cases steps
      exact .cancelled here
    · cases steps
  | wake =>
    simp only [RunnerState.step] at steps
    split at steps
    · next id here =>
      cases steps
      by_cases late : state.deadline < state.now
      · rw [RunnerState.await, if_pos late]
        exact .threw (.overdue here late)
      · rw [RunnerState.await, if_neg late]
        exact .polls here late
    · next media attempt here =>
      cases steps
      exact .posts here
    · cases steps
  | interrupt =>
    simp only [RunnerState.step] at steps
    split at steps
    · next id here =>
      cases steps
      exact .threw (.sleeping here)
    · next media attempt here =>
      cases steps
      exact .threw (.backingOff here)
    · cases steps
  | raiseFlag =>
    simp only [RunnerState.step] at steps
    split at steps
    · cases steps
    · next running =>
      cases steps
      exact .flagged (by simpa using running)
  | tick now =>
    simp only [RunnerState.step] at steps
    split at steps
    · next later =>
      cases steps
      exact .ticked later
    · cases steps

/-! ### What does not change -/

@[simp] theorem job_handle (state : RunnerState) (exception : Raised) :
    (state.handle exception).2.job = state.job := by
  cases exception with
  | cancelled =>
    simp only [RunnerState.handle]
    split <;> rfl
  | _ => rfl

theorem job_cancelAnswered {state : RunnerState} (next : RunnerReply × RunnerState)
    (same : next.2.job = state.job) (outcome : HttpOutcome) :
    (state.cancelAnswered next outcome).2.job = state.job := by
  cases outcome with
  | response response =>
    simp only [RunnerState.cancelAnswered]
    split
    · rfl
    · exact same
  | httpError message => exact same
  | exception message | interrupted => rfl

/-- What a step does to the job: its assignment stays, only the poll loop raises its flag, nothing
takes the flag down, and the id `sglang` gave stays, too. -/
structure JobKept (state : RunnerState) (action : RunnerAction) (job : JobState) : Prop where
  assignment : job.assignment = state.job.assignment
  flag : action = .raiseFlag ∧ job.cancelled = true ∨
    action ≠ .raiseFlag ∧ job.cancelled = state.job.cancelled
  upstreamId : (∀ image, state.point ≠ .creating image) → job.upstreamId = state.job.upstreamId

theorem Throws.action_ne {platform : Platform} {state : RunnerState} {action : RunnerAction}
    {exception : Raised} (throws : Throws platform state action exception) :
    action ≠ .raiseFlag := by
  cases throws <;> nofun

theorem JobKept.of_same {state : RunnerState} {action : RunnerAction} {job : JobState}
    (other : action ≠ .raiseFlag) (same : job = state.job) : JobKept state action job := by
  subst same
  exact ⟨rfl, .inr ⟨other, rfl⟩, fun _ => rfl⟩

theorem Move.job {platform : Platform} {config : RunnerConfig} {state : RunnerState}
    {action : RunnerAction} {result : RunnerReply × RunnerState}
    (moves : Move platform config state action result) : JobKept state action result.2.job := by
  cases moves with
  | flagged => exact ⟨rfl, .inl ⟨rfl, rfl⟩, fun _ => rfl⟩
  | ticked | began | finished | polls | landed | posts =>
    exact ⟨rfl, .inr ⟨nofun, rfl⟩, fun _ => rfl⟩
  | threw throws => exact .of_same throws.action_ne (job_handle _ _)
  | fetched =>
    unfold RunnerState.fetched
    split <;> exact ⟨rfl, .inr ⟨nofun, rfl⟩, fun _ => rfl⟩
  | created here =>
    unfold RunnerState.created RunnerState.await
    split <;> exact ⟨rfl, .inr ⟨nofun, rfl⟩, fun other => absurd here (other _)⟩
  | waits =>
    unfold RunnerState.onPoll
    split
    · exact .of_same nofun (job_handle _ _)
    · exact ⟨rfl, .inr ⟨nofun, rfl⟩, fun _ => rfl⟩
  | downloaded =>
    unfold RunnerState.downloaded RunnerState.upload
    split <;> exact ⟨rfl, .inr ⟨nofun, rfl⟩, fun _ => rfl⟩
  | missed =>
    simp only [RunnerState.uploaded]
    split <;> exact ⟨rfl, .inr ⟨nofun, rfl⟩, fun _ => rfl⟩
  | deleted => exact .of_same nofun (job_cancelAnswered _ rfl _)
  | cancelled => exact .of_same nofun (job_cancelAnswered _ rfl _)

end InferenceGateway
