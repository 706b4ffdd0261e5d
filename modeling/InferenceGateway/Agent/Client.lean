import InferenceGateway.Routes.Agent

/-!
# The pod agent

The poll loop keeps a table of running jobs keyed by job id.  Each cycle reports
the table to the gateway and carries out what the response asks for; each job
has a runner that works on it and reports its result.
-/

namespace InferenceGateway

open Library

/-- `Config` of the agent, where a modelled function reads it. -/
structure AgentConfig where
  podId : String
  agentVersion : String
  maxInFlight : Nat
  modelPath : Option String
  loraPath : Option String
  gpu : Option String
  pollWaitS : Int

/-- `Assignment` of the runner. -/
structure AgentAssignment where
  jobId : String
  leaseId : String
  model : String
  endpoint : String
  fields : List (String × FieldValue)
  inputUrl : String
  inputSha256 : Option String

def AgentAssignment.fromPayload (payload : Assignment) : AgentAssignment where
  jobId := payload.jobId
  leaseId := payload.leaseId
  model := payload.model
  endpoint := payload.sglang.endpoint
  fields := payload.sglang.fields
  inputUrl := payload.input.url
  inputSha256 := payload.input.sha256

/-- A request of the agent on its way: to the gateway, held there under a
token, or on its way back. -/
inductive Exchange (Request : Type) where
  | sent (request : Request)
  | pending (token : Nat)
  | answered (reply : Reply)

/-- The runner has its result and delivers it; between two attempts no request
is on its way. -/
structure Report where
  body : ResultBody
  attempt : Nat
  exchange : Option (Exchange ResultRequest)

/-- What the agent reports about a job on each poll. -/
structure JobState where
  assignment : AgentAssignment
  phase : String
  progress : ℚ
  upstreamId : Option String
  cancelled : Bool
  report : Option Report

def JobState.jobId (state : JobState) : String := state.assignment.jobId

def JobState.starting (assignment : AgentAssignment) : JobState where
  assignment := assignment
  phase := "starting"
  progress := 0
  upstreamId := none
  cancelled := false
  report := none

/-- `job.cancelled.set()`. -/
def JobState.cancel (state : JobState) : JobState := { state with cancelled := true }

def JobState.working (phase : String) (progress : ℚ) (upstreamId : Option String)
    (state : JobState) : JobState :=
  { state with phase := phase, progress := progress, upstreamId := upstreamId }

def JobState.reporting (report : Report) (state : JobState) : JobState :=
  { state with report := some report }

@[simp] theorem JobState.cancel_jobId (state : JobState) : state.cancel.jobId = state.jobId := rfl

@[simp] theorem JobState.working_jobId (phase : String) (progress : ℚ)
    (upstreamId : Option String) (state : JobState) :
    (state.working phase progress upstreamId).jobId = state.jobId := rfl

@[simp] theorem JobState.reporting_jobId (report : Report) (state : JobState) :
    (state.reporting report).jobId = state.jobId := rfl

/-- An entry of `in_flight`. -/
def JobState.inFlight (state : JobState) : InFlightReport where
  jobId := .string state.jobId
  leaseId := .string state.assignment.leaseId
  progress := .number state.progress
  upstreamId := (state.upstreamId.map Value.string).getD .null

/-- The request of `_report`. -/
def JobState.resultRequest (state : JobState) (body : ResultBody) : ResultRequest where
  id := state.jobId
  leaseId := some state.assignment.leaseId
  body := body

structure Agent where
  jobs : Table JobState.jobId
  sglangReady : Bool
  /-- The poll of the current cycle. -/
  polling : Option (Exchange PollBody)
  stopping : Bool

namespace Agent

def initial : Agent := ⟨Table.empty, false, none, false⟩

variable (agent : Agent)

/-- The body of the poll of `_cycle`. -/
def pollBody (config : AgentConfig) (ready : Bool) : PollBody where
  podId := .string config.podId
  agentVersion := .string config.agentVersion
  maxInFlight := .number config.maxInFlight
  modelPath := (config.modelPath.map Value.string).getD .null
  loraPath := (config.loraPath.map Value.string).getD .null
  gpu := (config.gpu.map Value.string).getD .null
  sglangReady := .boolean ready
  inFlight := some (agent.jobs.rows.map fun state => some state.inFlight)
  waitS := .number config.pollWaitS

/-- The jobs of `orphan` and `cancel` are told to stop. -/
def cancelJobs (ids : List String) : Agent :=
  { agent with
    jobs := agent.jobs.update (fun state => state.jobId ∈ ids) JobState.cancel
      JobState.cancel_jobId }

/-- `_start`, with the runner it starts; a job id that is already in the table
is taken for a duplicate delivery. -/
def start (assignment : AgentAssignment) : Option AgentAssignment × Agent :=
  match agent.jobs.insert? (.starting assignment) with
  | none => (none, agent)
  | some jobs => (some assignment, { agent with jobs := jobs })

/-- Start the assignments of a response in turn. -/
def startAll (agent : Agent) : List Assignment → List AgentAssignment × Agent
  | [] => ([], agent)
  | raw :: rest =>
    let (started, agent) := agent.start (.fromPayload raw)
    let (more, agent) := agent.startAll rest
    (started.toList ++ more, agent)

/-- What `_cycle` does with the response. -/
def process (response : PollResponse) : List AgentAssignment × Agent :=
  ((agent.cancelJobs response.orphan).cancelJobs response.cancel).startAll response.assign

/-- `jobs.pop`. -/
def drop (jobId : String) : Agent :=
  { agent with jobs := agent.jobs.delete fun state => state.jobId = jobId }

/-- Change the state of one running job. -/
def modify (jobId : String) (f : JobState → JobState)
    (keeps : ∀ state, (f state).jobId = state.jobId) : Agent :=
  { agent with jobs := agent.jobs.update (fun state => state.jobId = jobId) f keeps }

end Agent

end InferenceGateway
