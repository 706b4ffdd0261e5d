import InferenceGateway.Agent.Session
import InferenceGateway.Library.Binary64

/-!
# The runner of one job

`Runner.run` fetches the input, submits it to `sglang`, polls until the clip is
there, downloads it and uploads it to the gateway.  Between two awaits it only
looks at its own job; an event is what the await it is suspended in comes to.
-/

namespace InferenceGateway

open Library

inductive RunnerEvent where
  | begin
  /-- The gateway hands out the input. -/
  | fetched (data : Bytes)
  /-- `create_video` returns. -/
  | created (upstreamId : String)
  /-- `sglang` is polled and has not finished. -/
  | polled
  /-- `wait_for_video` returns. -/
  | generated
  | downloaded
  /-- The gateway has taken the clip. -/
  | uploaded (media : Bytes)
  /-- A call raises an `SglangError`. -/
  | refused (message : String) (retryable : Bool)
  /-- A call raises any other exception. -/
  | crashed (message : String)
  /-- The gateway answers 409: `StaleLease`. -/
  | stale
  /-- The task is cancelled, or asking `sglang` to cancel raises: no handler is left. -/
  | aborted

/-- What a runner does before its next await, or at its end. -/
inductive RunnerTurn where
  | continues (phase : String) (progress : ℚ) (upstreamId : Option String)
  | returns (body : ResultBody)
  | raises

def cancelledResult : ResultBody where
  state := .string "cancelled"
  error := .undefined
  retryable := .undefined
  filename := .undefined
  bytes := .undefined
  sha256 := .undefined

def failedResult (error : String) (retryable : Bool) : ResultBody where
  state := .string "failed"
  error := .string error
  retryable := .boolean retryable
  filename := .undefined
  bytes := .undefined
  sha256 := .undefined

def completedResult (platform : Platform) (media : Bytes) : ResultBody where
  state := .string "completed"
  error := .undefined
  retryable := .undefined
  filename := .string "output.mp4"
  bytes := .number media.length
  sha256 := .string (platform.sha256 media)

/-- The input has the checksum of the assignment, when that has one. -/
def AgentAssignment.checks (platform : Platform) (assignment : AgentAssignment)
    (data : Bytes) : Bool :=
  (assignment.inputSha256.filter (· ≠ "")).all (platform.sha256 data = ·)

/-- `Runner.run` from one await to the next. -/
def JobState.advance (platform : Platform) (state : JobState) : RunnerEvent → Option RunnerTurn
  | .begin =>
    if state.phase = "starting" then
      some (.continues "downloading_input" state.progress state.upstreamId)
    else none
  | .fetched data =>
    if state.phase ≠ "downloading_input" then none
    else if !state.assignment.checks platform data then
      some (.returns (failedResult "input image failed its checksum" true))
    else if state.cancelled then some (.returns cancelledResult)
    else some (.continues "submitting" state.progress state.upstreamId)
  | .created upstreamId =>
    if state.phase = "submitting" then
      some (.continues "generating" (Binary64.nearest (1 / 10)) (some upstreamId))
    else none
  | .polled =>
    if state.phase ≠ "generating" then none
    else if state.cancelled then some (.returns cancelledResult)  -- `_Cancelled`
    else
      let progress := Binary64.nearest (state.progress + Binary64.nearest (1 / 50))
      some (.continues "generating" (min (Binary64.nearest (9 / 10)) progress) state.upstreamId)
  | .generated =>
    if state.phase = "generating" then
      some (.continues "downloading_output" (Binary64.nearest (19 / 20)) state.upstreamId)
    else none
  | .downloaded =>
    if state.phase = "downloading_output" then
      some (.continues "uploading" state.progress state.upstreamId)
    else none
  | .uploaded media =>
    if state.phase = "uploading" then some (.returns (completedResult platform media)) else none
  | .refused message retryable =>
    if state.phase ∈ ["submitting", "generating", "downloading_output", "uploading"] then
      some (.returns (failedResult message retryable))
    else none
  | .crashed message =>
    if state.phase = "starting" then none
    else some (.returns (failedResult ("agent error: " ++ message) true))
  | .stale => if state.phase ∈ ["downloading_input", "uploading"] then some .raises else none
  | .aborted => if state.phase = "starting" then none else some .raises

/-- The turn as a step of the session. -/
def RunnerTurn.action (jobId : String) : RunnerTurn → SessionAction
  | .continues phase progress upstreamId => .work jobId phase progress upstreamId
  | .returns body => .finish jobId body
  | .raises => .abandon jobId

/-! ### Reports of a cancel -/

@[simp] theorem failedResult_state (error : String) (retryable : Bool) :
    (failedResult error retryable).state = .string "failed" := rfl

@[simp] theorem completedResult_state (platform : Platform) (media : Bytes) :
    (completedResult platform media).state = .string "completed" := rfl

/-- A runner that reports its job as cancelled was told to stop. -/
theorem cancelled_of_returns {platform : Platform} {state : JobState} {event : RunnerEvent}
    {body : ResultBody} (returns : state.advance platform event = some (.returns body))
    (cancels : body.state = .string "cancelled") : state.cancelled = true := by
  cases event with
  | fetched data =>
    simp only [JobState.advance] at returns
    split at returns
    · cases returns
    · split at returns
      · cases returns
        simp at cancels
      · split at returns
        · assumption
        · cases returns
  | polled =>
    simp only [JobState.advance] at returns
    split at returns
    · cases returns
    · split at returns
      · assumption
      · cases returns
  | uploaded media =>
    simp only [JobState.advance] at returns
    split at returns <;> cases returns
    simp at cancels
  | refused message retryable =>
    simp only [JobState.advance] at returns
    split at returns <;> cases returns
    simp at cancels
  | crashed message =>
    simp only [JobState.advance] at returns
    split at returns <;> cases returns
    simp at cancels
  | begin | created | generated | downloaded | stale | aborted =>
    simp only [JobState.advance] at returns
    split at returns <;> cases returns

end InferenceGateway
