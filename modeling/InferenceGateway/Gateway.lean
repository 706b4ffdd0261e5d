import InferenceGateway.Routes.Agent
import InferenceGateway.Routes.Pods
import InferenceGateway.Routes.Videos
import InferenceGateway.Scheduler.Reaper

/-!
# The gateway as a machine

One action is one turn of the event loop, or one file operation carried out
for a suspended handler.  Requests, timers, restarts and the clock arrive in any
order; a handler that was woken or whose file operation is due may run at any
later time, so every schedule of the process is a run.
-/

namespace InferenceGateway

open Library

inductive Action where
  /-- The clock reaches a later time. -/
  | tick (now : Millis)
  | createVideo (request : VideoRequest)
  | deleteVideo (id : String)
  | poll (body : PollBody) (sessionId : String)
  /-- The timer of a parked poll fires. -/
  | expirePoll (token : Nat)
  /-- A poll whose wait has settled runs on. -/
  | resumePoll (token : Nat)
  | upload (request : UploadRequest)
  | result (request : ResultRequest)
  /-- A suspended handler runs on. -/
  | advance (token : Nat) (event : Event)
  | sweep
  | cleanup
  | drain (podId : String) (draining : Bool)
  /-- The shutdown signal: parked polls are released. -/
  | shutdown
  /-- The process is replaced by a new one over the same stores. -/
  | restart

namespace Gateway

variable (platform : Platform) (prepare : Prepare) (config : Config)

def tick (state : Gateway) (now : Millis) : Option (Reply × Gateway) :=
  if state.now ≤ now then
    some (.silent, state.withStore { state.store with clock := now })
  else none

def expirePoll (state : Gateway) (token : Nat) : Option (Reply × Gateway) :=
  if state.waiters.waiting.any fun poll => poll.token = token then
    some (.silent, { state with
      waiters := state.waiters.giveUp fun poll => poll.token = token })
  else none

/-- `sweep`, with the wakeup when something was requeued. -/
def sweep (state : Gateway) : Reply × Gateway :=
  let swept := InferenceGateway.sweep config state.store state.pods state.now
  let state := { state with store := swept.store, pods := swept.pods }
  (.silent, if swept.result.requeued > 0 then state.kick else state)

/-- What a cleanup has come to: it is suspended under its token, or has returned. -/
def cleanedUp (state : Gateway) (token : Nat) (progress : Cleanup.Progress) : Reply × Gateway :=
  let state := state.withStores progress.2
  match progress.1 with
  | .inl task => (.pending token, state.suspend token (.cleanup task))
  | .inr _ => (.silent, state.finish token)

def cleanup (state : Gateway) : Reply × Gateway :=
  { state with tokens := state.tokens + 1 }.cleanedUp state.tokens
    (Cleanup.start config state.now state.toStores)

/-- Run a suspended handler up to its next suspension. -/
def advance (state : Gateway) (token : Nat) (event : Event) : Option (Reply × Gateway) :=
  match state.tasks.lookup token, event with
  | some (.creation creation), .proceed => some (state.advanceCreation config token creation)
  | some (.upload upload), event => state.advanceUpload config platform token upload event
  | some (.finishing task), .proceed => some (state.advanceFinishing token task)
  | some (.cleanup task), .proceed =>
    some (state.cleanedUp token (task.advance config state.toStores))
  | _, _ => none

def shutdown (state : Gateway) : Reply × Gateway :=
  (.silent, { state with
    waiters := state.waiters.giveUp fun _ => true
    aborted := true })

/-- Every handler and every parked poll is lost; running jobs get a fresh lease. -/
def restart (state : Gateway) : Reply × Gateway :=
  (.silent, { state with
    store := (state.store.recoverOnStartup state.now (config.maxPollWaitMs * 2)).2
    waiters := Waiters.empty
    tasks := ∅
    aborted := false })

def step (state : Gateway) : Action → Option (Reply × Gateway)
  | .tick now => state.tick now
  | .createVideo request => some (state.createVideo platform prepare config request)
  | .deleteVideo id => some (state.deleteVideo config id)
  | .poll body sessionId => some (state.poll platform config body sessionId)
  | .expirePoll token => state.expirePoll token
  | .resumePoll token => state.resumePoll platform config token
  | .upload request => some (state.upload config request)
  | .result request => some (state.result config request)
  | .advance token event => state.advance platform config token event
  | .sweep => some (state.sweep config)
  | .cleanup => some (state.cleanup config)
  | .drain podId draining => some (state.setDrain podId draining)
  | .shutdown => some state.shutdown
  | .restart => some (state.restart config)

end Gateway

/-- The gateway, started over empty stores. -/
def gateway (platform : Platform) (prepare : Prepare) (config : Config) :
    Machine Gateway Action Reply where
  initial := Gateway.empty
  step := Gateway.step platform prepare config

abbrev GatewayTransition := Transition Gateway Action Reply

abbrev GatewayRun (platform : Platform) (prepare : Prepare) (config : Config) :=
  (gateway platform prepare config).Execution

/-! ### A sample fleet -/

/-- The path the sample pods load. -/
def sampleModel : String := "Wan-AI/Wan2.2-I2V-A14B-Diffusers"

/-- A gateway that accepts every image. -/
def samplePrepare : Prepare := fun _ _ => .ok {
  extension := "png"
  sha256 := "digest"
  params := {
    prompt := "a cat"
    negativePrompt := wan22NegativePrompt
    resolution := .p480
    size := "832x480"
    seconds := 5
    numInferenceSteps := 4
    guidanceScale := 1
    seed := none } }

/-- A poll of a pod that runs one job at a time. -/
def samplePoll (podId : String) (inFlight : List InFlightReport) : PollBody where
  podId := .string podId
  agentVersion := .string "0.7.2"
  maxInFlight := .number 1
  modelPath := .string sampleModel
  loraPath := .null
  gpu := .null
  sglangReady := .boolean true
  inFlight := some (inFlight.map some)
  waitS := .number 25

/-- An entry of `in_flight` without progress. -/
def sampleReport (jobId leaseId : String) : InFlightReport :=
  ⟨.string jobId, .string leaseId, .undefined, .undefined⟩

def sampleVideo : VideoRequest where
  multipart := true
  form := .ok {
    fields := fun name =>
      if name = "model" then some sampleModel
      else if name = "prompt" then some "a cat" else none
    image := some [1, 2, 3] }

/-- A pod registers and parks, and a video is created. -/
def sampleStart : List Action :=
  [.poll (samplePoll "pod-a" []) "session", .createVideo sampleVideo, .advance 1 .proceed,
    .advance 1 .proceed, .advance 1 .proceed]

/-- The sample gateway performing a list of actions it accepts. -/
abbrev sampleRun (config : Config) (actions : List Action)
    (accepted : ((gateway .counting samplePrepare config).exec Gateway.empty actions).isSome) :
    GatewayRun .counting samplePrepare config :=
  .perform _ actions accepted

theorem sampleStart_resumes : ((gateway .counting samplePrepare .default).exec Gateway.empty
    (sampleStart ++ [.resumePoll 0])).isSome := by
  decide +kernel

end InferenceGateway
