import InferenceGateway.Agent.Sglang

/-!
# One execution of the runner

`Runner.run` from one await to the next.  Between two steps the poll loop may
raise the flag of the job and time passes; what an awaited request comes to is
up to the gateway, to `sglang` and to the network.
-/

namespace InferenceGateway

open Library

/-- The settings of `Runner` and `SglangClient`. -/
structure RunnerConfig where
  jobTimeoutS : Int
  uploadAttempts : Int
  pollIntervalS : ℚ

/-- A request the runner awaits. -/
inductive HttpCall where
  /-- `GET {gateway_url}{input_url}` under the lease. -/
  | getInput (url leaseId : String)
  /-- `POST {base_url}{endpoint}` with the form and the image. -/
  | createVideo (endpoint : String) (data : List (String × String)) (image : Bytes)
  /-- `GET {base_url}/v1/videos/{id}`. -/
  | getVideo (id : String)
  /-- `GET {base_url}/v1/videos/{id}/content`. -/
  | getContent (id : String)
  /-- `DELETE {base_url}/v1/videos/{id}`, or `POST` to its `/cancel`. -/
  | cancelVideo (method id : String)
  /-- `POST {gateway_url}/v1/agent/jobs/{job_id}/artifact`. -/
  | postArtifact (jobId leaseId filename sha256 : String) (media : Bytes)

/-- The await a runner is suspended in, with the locals it still needs, or its end. -/
inductive RunnerPoint where
  /-- The task has been created and has not run yet. -/
  | entering
  | fetching
  | creating (image : Bytes)
  | polling (id : String)
  | sleeping (id : String)
  | downloading (id : String)
  | uploading (media : Bytes) (attempt : Int)
  /-- Between two attempts. -/
  | backingOff (media : Bytes) (attempt : Int)
  | deleting (id : String)
  | cancelling (id : String)
  | returned (body : ResultBody)
  | raised (exception : Raised)

structure RunnerState where
  job : JobState
  /-- `loop.time()`. -/
  now : ℚ
  deadline : ℚ
  point : RunnerPoint

inductive RunnerAction where
  /-- The task starts. -/
  | begin
  /-- The awaited request comes to an outcome. -/
  | answer (outcome : HttpOutcome)
  /-- The sleep is over. -/
  | wake
  /-- The sleep is interrupted. -/
  | interrupt
  /-- The poll loop sets `cancelled`. -/
  | raiseFlag
  | tick (now : ℚ)

/-- What the runner does next. -/
inductive RunnerReply where
  | calls (call : HttpCall)
  | sleeps (seconds : ℚ)
  | returns (body : ResultBody)
  | raises (exception : Raised)
  | silent

def RunnerPoint.ended : RunnerPoint → Bool
  | .returned _ | .raised _ => true
  | _ => false

namespace RunnerState

variable (platform : Platform) (config : RunnerConfig)

def starting (assignment : AgentAssignment) (now : ℚ) : RunnerState :=
  ⟨.starting assignment, now, now, .entering⟩

variable (state : RunnerState)

def calls (point : RunnerPoint) (call : HttpCall) : RunnerReply × RunnerState :=
  (.calls call, { state with point := point })

def returns (body : ResultBody) : RunnerReply × RunnerState :=
  (.returns body, { state with point := .returned body })

def raises (exception : Raised) : RunnerReply × RunnerState :=
  (.raises exception, { state with point := .raised exception })

/-- The job goes on to a phase. -/
def enter (phase : String) (progress : ℚ) (upstreamId : Option String) : RunnerState :=
  { state with job := state.job.working phase progress upstreamId }

/-- The `except` clauses of `run`. -/
def handle : Raised → RunnerReply × RunnerState
  | .cancelled =>
    match state.job.upstreamId.filter (· ≠ "") with
    | some id => state.calls (.deleting id) (.cancelVideo "DELETE" id)
    | none => state.returns cancelledResult
  | .staleLease => state.raises .staleLease
  | .sglang message retryable => state.returns (failedResult message retryable)
  | .exception message => state.returns (failedResult ("agent error: " ++ message) true)
  | .interrupted => state.raises .interrupted

/-- The head of the loop of `wait_for_video`. -/
def await (id : String) : RunnerReply × RunnerState :=
  if state.deadline < state.now then
    state.handle (.sglang "timed out waiting for sglang to finish" false)
  else state.calls (.polling id) (.getVideo id)

/-- `on_poll`, and the sleep behind it. -/
def onPoll (id : String) : RunnerReply × RunnerState :=
  if state.job.cancelled then state.handle .cancelled
  else
    let progress := Binary64.nearest (state.job.progress + Binary64.nearest (1 / 50))
    (.sleeps config.pollIntervalS,
      { state.enter state.job.phase (min (Binary64.nearest (9 / 10)) progress)
          state.job.upstreamId with
        point := .sleeping id })

/-- No attempt is left. -/
def exhausted (last : String) : RunnerReply × RunnerState :=
  state.handle (.sglang ("artifact upload failed after " ++ toString config.uploadAttempts ++
    " attempts: " ++ last) true)

/-- Post the clip for the given time. -/
def post (media : Bytes) (attempt : Int) : RunnerReply × RunnerState :=
  state.calls (.uploading media attempt) (.postArtifact state.job.jobId
    state.job.assignment.leaseId "output.mp4" (platform.sha256 media) media)

/-- The loop of `_upload`. -/
def upload (media : Bytes) : RunnerReply × RunnerState :=
  if 1 ≤ config.uploadAttempts then state.post platform media 1
  else state.exhausted config "None"

/-- The first request `cancel` makes was not enough. -/
def cancelAgain (id : String) : RunnerReply × RunnerState :=
  state.calls (.cancelling id) (.cancelVideo "POST" id)

/-- `cancel` after the outcome of one of its requests; what it does not catch leaves `run`. -/
def cancelAnswered (next : RunnerReply × RunnerState) : HttpOutcome → RunnerReply × RunnerState
  | .response response =>
    if response.status < 300 then state.returns cancelledResult else next
  | .httpError _ => next
  | .exception message => state.raises (.exception message)
  | .interrupted => state.raises .interrupted

def begin : RunnerReply × RunnerState :=
  let state := { state.enter "downloading_input" state.job.progress state.job.upstreamId with
    deadline := Binary64.nearest (state.now + config.jobTimeoutS) }
  state.calls .fetching (.getInput state.job.assignment.inputUrl state.job.assignment.leaseId)

/-- After `_fetch_input`. -/
def fetched (image : Bytes) : RunnerReply × RunnerState :=
  if state.job.cancelled then state.returns cancelledResult
  else
    let data := state.job.assignment.fields.map fun (key, value) => (key, value.str)
    (state.enter "submitting" state.job.progress state.job.upstreamId).calls (.creating image)
      (.createVideo state.job.assignment.endpoint data image)

/-- After `create_video`. -/
def created (id : String) : RunnerReply × RunnerState :=
  (state.enter "generating" (Binary64.nearest (1 / 10)) (some id)).await id

/-- After a round of `wait_for_video`. -/
def polled (id : String) (done : Bool) : RunnerReply × RunnerState :=
  if done then
    (state.enter "downloading_output" (Binary64.nearest (19 / 20)) state.job.upstreamId).calls
      (.downloading id) (.getContent id)
  else state.onPoll config id

/-- After `download_content`. -/
def downloaded (media : Bytes) : RunnerReply × RunnerState :=
  (state.enter "uploading" state.job.progress state.job.upstreamId).upload platform config media

/-- After one attempt of `_upload`. -/
def uploaded (media : Bytes) (attempt : Int) : Option String → RunnerReply × RunnerState
  | none => state.returns (completedResult platform media)
  | some last =>
    if attempt < config.uploadAttempts then
      (.sleeps (min (2 ^ attempt) 10), { state with point := .backingOff media attempt })
    else state.exhausted config last

/-- A call returns or raises into `run`. -/
def settle {Value : Type} (next : Value → RunnerReply × RunnerState) :
    Except Raised Value → RunnerReply × RunnerState
  | .ok value => next value
  | .error exception => state.handle exception

def step : RunnerAction → Option (RunnerReply × RunnerState)
  | .begin =>
    match state.point with
    | .entering => some (state.begin config)
    | _ => none
  | .answer outcome =>
    match state.point with
    | .fetching =>
      some (state.settle state.fetched (fetchInput platform state.job.assignment outcome))
    | .creating _ =>
      some (state.settle state.created (createVideo state.job.assignment.endpoint outcome))
    | .polling id => some (state.settle (state.polled config id) (pollVideo outcome))
    | .downloading _ =>
      some (state.settle (state.downloaded platform config) (downloadContent outcome))
    | .uploading media attempt =>
      some (state.settle (state.uploaded platform config media attempt) (uploadArtifact outcome))
    | .deleting id => some (state.cancelAnswered (state.cancelAgain id) outcome)
    | .cancelling _ => some (state.cancelAnswered (state.returns cancelledResult) outcome)
    | _ => none
  | .wake =>
    match state.point with
    | .sleeping id => some (state.await id)
    | .backingOff media attempt => some (state.post platform media (attempt + 1))
    | _ => none
  | .interrupt =>
    match state.point with
    | .sleeping _ | .backingOff .. => some (state.handle .interrupted)
    | _ => none
  | .raiseFlag =>
    if state.point.ended then none
    else some (.silent, { state with job := state.job.cancel })
  | .tick now => if state.now ≤ now then some (.silent, { state with now := now }) else none

end RunnerState

/-- One execution of `Runner.run`. -/
def runner (platform : Platform) (config : RunnerConfig) (assignment : AgentAssignment)
    (now : ℚ) : Machine RunnerState RunnerAction RunnerReply where
  initial := .starting assignment now
  step := RunnerState.step platform config

abbrev RunnerTransition := Transition RunnerState RunnerAction RunnerReply

abbrev RunnerRun (platform : Platform) (config : RunnerConfig) (assignment : AgentAssignment)
    (now : ℚ) := (runner platform config assignment now).Execution

/-! ### A sample execution -/

def sampleRunner : RunnerConfig := ⟨3600, 3, 2⟩

def sampleAssignment : AgentAssignment where
  jobId := "v"
  leaseId := "L"
  model := "Wan-AI/Wan2.2-I2V-A14B-Diffusers"
  endpoint := "/v1/videos"
  fields := [("prompt", .text "a cat"), ("seconds", .number 5)]
  inputUrl := "/v1/agent/jobs/v/input"
  inputSha256 := none

/-- A response with the given status and body. -/
def sampleResponse (status : Nat) (content : Bytes) (payload : String → Option Loaded) :
    HttpOutcome :=
  .response {
    status := status
    content := content
    text := ""
    refusal := "refused"
    payload := .ok payload }

/-- The sample runner performing a list of actions it accepts. -/
abbrev sampleExecution (actions : List RunnerAction)
    (accepted : ((runner .counting sampleRunner sampleAssignment 0).exec
      (.starting sampleAssignment 0) actions).isSome) :
    RunnerRun .counting sampleRunner sampleAssignment 0 :=
  .perform _ actions accepted

/-- The payload of `sglang` about a job. -/
def samplePayload (status : String) (key : String) : Option Loaded :=
  if key = "id" then some (.text "vid") else if key = "status" then some (.text status) else none

/-- The input comes and `sglang` takes the job in. -/
def sampleGenerating : List RunnerAction :=
  [.begin, .answer (sampleResponse 200 [1, 2, 3] fun _ => none),
    .answer (sampleResponse 200 [] (samplePayload "queued"))]

/-- The job finishes and the clip is downloaded. -/
def sampleDownloading : List RunnerAction :=
  [.answer (sampleResponse 200 [] (samplePayload "Completed")),
    .answer (sampleResponse 200 [9] fun _ => none)]

end InferenceGateway
