import InferenceGateway.Agent.Client
import InferenceGateway.Gateway

/-!
# One agent and the gateway

The gateway takes any step of its own at any time; the steps of the agent are
the turns of its event loop.  Its requests may take any time to arrive, their
answers any time to come back, and either may be lost.
-/

namespace InferenceGateway

open Library

structure Session where
  gateway : Gateway
  agent : Agent

inductive SessionAction where
  /-- The gateway does something on its own or for somebody else. -/
  | gateway (action : Action)
  /-- A cycle checks `sglang` and sends its poll. -/
  | cycle (ready : Bool)
  /-- The poll reaches the gateway. -/
  | pollArrives (sessionId : String)
  /-- The poll or its answer is lost, or takes too long. -/
  | pollFails
  /-- The cycle gets its answer. -/
  | receive
  /-- A runner gets on with its job. -/
  | work (jobId phase : String) (progress : ℚ) (upstreamId : Option String)
  /-- `Runner.run` returns. -/
  | finish (jobId : String) (body : ResultBody)
  /-- `Runner.run` raises. -/
  | abandon (jobId : String)
  /-- A runner posts its result. -/
  | report (jobId : String)
  | reportArrives (jobId : String)
  /-- The result or its answer is lost. -/
  | reportFails (jobId : String)
  /-- The runner gets the answer to its result. -/
  | reported (jobId : String)
  | stop

/-- What a step lets the outside see. -/
inductive SessionReply where
  | gateway (reply : Reply)
  | polls (body : PollBody)
  | processed (response : PollResponse) (started : List AgentAssignment)
  | reports (request : ResultRequest)
  /-- The runner of a job has ended. -/
  | ended (jobId : String)
  | silent

/-- The action lets a handler run on that was suspended under the token. -/
def Action.resumes (token : Nat) : Action → Bool
  | .resumePoll other => other = token
  | .advance other _ => other = token
  | _ => false

/-- An answer the gateway gives travels to the exchange that waits for it. -/
def Exchange.route {Request : Type} (action : Action) (reply : Reply) :
    Exchange Request → Exchange Request
  | .pending token =>
    if action.resumes token then
      match reply with
      | .pending token => .pending token
      | reply => .answered reply
    else .pending token
  | exchange => exchange

/-- The exchange of a request the gateway has just taken in. -/
def Exchange.taken {Request : Type} : Reply → Exchange Request
  | .pending token => .pending token
  | reply => .answered reply

/-- The status of an HTTP answer. -/
def Reply.status : Reply → Nat
  | .error status .. => status
  | .video status _ => status
  | _ => 200

def JobState.routed (action : Action) (reply : Reply) (state : JobState) : JobState :=
  { state with
    report := state.report.map fun report =>
      { report with exchange := report.exchange.map (Exchange.route action reply) } }

@[simp] theorem JobState.routed_jobId (action : Action) (reply : Reply) (state : JobState) :
    (state.routed action reply).jobId = state.jobId := rfl

namespace Session

variable (platform : Platform) (prepare : Prepare) (config : Config) (agentConfig : AgentConfig)

def initial : Session := ⟨Gateway.empty, Agent.initial⟩

variable (session : Session)

def withAgent (agent : Agent) : Session := { session with agent := agent }

/-- The agent after an answer of the gateway has been sent on its way. -/
def routed (action : Action) (reply : Reply) : Agent :=
  { session.agent with
    polling := session.agent.polling.map (Exchange.route action reply)
    jobs := session.agent.jobs.update (fun _ => true) (JobState.routed action reply)
      (JobState.routed_jobId action reply) }

/-- A runner ends and its job leaves the table. -/
def ended (jobId : String) : SessionReply × Session :=
  (.ended jobId, session.withAgent (session.agent.drop jobId))

/-- An attempt at delivering a result has failed: sleep and retry, or give up. -/
def retry (jobId : String) (report : Report) : SessionReply × Session :=
  if report.attempt < 3 then
    (.silent, session.withAgent (session.agent.modify jobId
      (JobState.reporting { report with attempt := report.attempt + 1, exchange := none })
      (JobState.reporting_jobId _)))
  else session.ended jobId

/-- The running job and its report, when its runner delivers its result. -/
def reportOf (jobId : String) : Option (JobState × Report) :=
  (session.agent.jobs.get? jobId).bind fun state => state.report.map fun report => (state, report)

def step : SessionAction → Option (SessionReply × Session)
  | .gateway action =>
    (session.gateway.step platform prepare config action).map fun (reply, gateway) =>
      (.gateway reply, ⟨gateway, session.routed action reply⟩)
  | .cycle ready =>
    if session.agent.stopping || session.agent.polling.isSome then none
    else
      let body := session.agent.pollBody agentConfig ready
      some (.polls body, session.withAgent { session.agent with
        sglangReady := ready
        polling := some (.sent body) })
  | .pollArrives sessionId =>
    match session.agent.polling with
    | some (.sent body) =>
      let (reply, gateway) := session.gateway.poll platform config body sessionId
      some (.gateway reply, ⟨gateway, { session.agent with polling := some (.taken reply) }⟩)
    | _ => none
  | .pollFails =>
    if session.agent.polling.isSome then
      some (.silent, session.withAgent { session.agent with polling := none })
    else none
  | .receive =>
    match session.agent.polling with
    | some (.answered (.poll response)) =>
      let (started, agent) := { session.agent with polling := none }.process response
      some (.processed response started, session.withAgent agent)
    | some (.answered _) =>
      -- `raise_for_status` ends the cycle.
      some (.silent, session.withAgent { session.agent with polling := none })
    | _ => none
  | .work jobId phase progress upstreamId =>
    match session.agent.jobs.get? jobId with
    | some { report := none, .. } =>
      some (.silent, session.withAgent (session.agent.modify jobId
        (JobState.working phase progress upstreamId) (JobState.working_jobId _ _ _)))
    | _ => none
  | .finish jobId body =>
    match session.agent.jobs.get? jobId with
    | some { report := none, .. } =>
      some (.silent, session.withAgent (session.agent.modify jobId
        (JobState.reporting ⟨body, 1, none⟩) (JobState.reporting_jobId _)))
    | _ => none
  | .abandon jobId =>
    match session.agent.jobs.get? jobId with
    | some { report := none, .. } => some (session.ended jobId)
    | _ => none
  | .report jobId =>
    match session.reportOf jobId with
    | some (state, { body, attempt, exchange := none }) =>
      let request := state.resultRequest body
      some (.reports request, session.withAgent (session.agent.modify jobId
        (JobState.reporting ⟨body, attempt, some (.sent request)⟩) (JobState.reporting_jobId _)))
    | _ => none
  | .reportArrives jobId =>
    match session.reportOf jobId with
    | some (_, { body, attempt, exchange := some (.sent request) }) =>
      let (reply, gateway) := session.gateway.result config request
      some (.gateway reply, ⟨gateway, session.agent.modify jobId
        (JobState.reporting ⟨body, attempt, some (.taken reply)⟩) (JobState.reporting_jobId _)⟩)
    | _ => none
  | .reportFails jobId =>
    match session.reportOf jobId with
    | some (_, { body, attempt, exchange := some _ }) =>
      some (session.retry jobId ⟨body, attempt, none⟩)
    | _ => none
  | .reported jobId =>
    match session.reportOf jobId with
    | some (_, { body, attempt, exchange := some (.answered reply) }) =>
      if reply.status = 409 then some (session.ended jobId)  -- `StaleLease`
      else if reply.status < 300 then some (session.ended jobId)
      else some (session.retry jobId ⟨body, attempt, none⟩)
    | _ => none
  | .stop => some (.silent, session.withAgent { session.agent with stopping := true })

end Session

/-- One agent and the gateway, both just started. -/
def session (platform : Platform) (prepare : Prepare) (config : Config)
    (agentConfig : AgentConfig) : Machine Session SessionAction SessionReply where
  initial := Session.initial
  step := Session.step platform prepare config agentConfig

abbrev SessionTransition := Transition Session SessionAction SessionReply

abbrev SessionRun (platform : Platform) (prepare : Prepare) (config : Config)
    (agentConfig : AgentConfig) :=
  (session platform prepare config agentConfig).Execution

end InferenceGateway
