import InferenceGateway.Agent.Runner

/-!
# The gateway and all its agents

Every agent follows the session and the runner; several of them may use one pod
id.  Requests and answers are lost or late, agents and the gateway restart at any
time.  Results come from agents only, but one that was sent may arrive at any
later time, and more than once; what else reaches the gateway is up to anybody.
-/

namespace InferenceGateway

open Library

variable {Host : Type}

structure Fleet (Host : Type) where
  gateway : Gateway
  agents : Host → Agent
  /-- Every result an agent has sent. -/
  sent : List ResultRequest

inductive FleetAction (Host : Type) where
  /-- The gateway does something on its own or for somebody else; a poll its agent has
  given up on arrives in this way, too. -/
  | gateway (action : Action)
  /-- The poll loop of an agent or one of its deliveries takes a turn. -/
  | agent (host : Host) (action : SessionAction)
  /-- The runner of a job gets on with it. -/
  | runner (host : Host) (jobId : String) (event : RunnerEvent)
  /-- The process of the agent is replaced by a new one. -/
  | restart (host : Host)
  /-- A result arrives that its runner no longer waits for. -/
  | late (request : ResultRequest)

/-- The turn is one of the poll loop or of a delivery. -/
def SessionAction.ofAgent : SessionAction → Bool
  | .gateway _ | .work .. | .finish .. | .abandon _ => false
  | _ => true

/-- The result a step sends. -/
def SessionReply.request : SessionReply → Option ResultRequest
  | .reports request => some request
  | _ => none

namespace Fleet

variable (platform : Platform) (prepare : Prepare) (config : Config)
  (agentConfig : Host → AgentConfig)

def initial : Fleet Host := ⟨Gateway.empty, fun _ => Agent.initial, []⟩

/-- One agent and the gateway. -/
def session (fleet : Fleet Host) (host : Host) : Session := ⟨fleet.gateway, fleet.agents host⟩

variable [DecidableEq Host] (fleet : Fleet Host)

/-- The fleet after a step of one of its sessions. -/
def withSession (host : Host) (reply : SessionReply) (session : Session) : Fleet Host where
  gateway := session.gateway
  agents := Function.update fleet.agents host session.agent
  sent := fleet.sent ++ reply.request.toList

def turn (host : Host) (action : SessionAction) : Option (SessionReply × Fleet Host) :=
  ((fleet.session host).step platform prepare config (agentConfig host) action).map
    fun (reply, session) => (reply, fleet.withSession host reply session)

def step : FleetAction Host → Option (SessionReply × Fleet Host)
  | .gateway (.result _) => none
  | .gateway action =>
    (fleet.gateway.step platform prepare config action).map fun (reply, gateway) =>
      (.gateway reply, { fleet with
        gateway := gateway
        agents := fun host => (fleet.session host).routed action reply })
  | .agent host action =>
    if action.ofAgent then fleet.turn platform prepare config agentConfig host action else none
  | .runner host jobId event => do
    let state ← (fleet.agents host).jobs.get? jobId
    let turn ← state.advance platform event
    fleet.turn platform prepare config agentConfig host (turn.action jobId)
  | .restart host =>
    some (.silent, { fleet with agents := Function.update fleet.agents host Agent.initial })
  | .late request =>
    if request ∈ fleet.sent then
      let (reply, gateway) := fleet.gateway.result config request
      some (.gateway reply, { fleet with gateway := gateway })
    else none

end Fleet

variable [DecidableEq Host]

/-- The gateway and the agents, all just started. -/
def fleet (platform : Platform) (prepare : Prepare) (config : Config)
    (agentConfig : Host → AgentConfig) : Machine (Fleet Host) (FleetAction Host) SessionReply where
  initial := Fleet.initial
  step := Fleet.step platform prepare config agentConfig

abbrev FleetTransition (Host : Type) := Transition (Fleet Host) (FleetAction Host) SessionReply

abbrev FleetRun (platform : Platform) (prepare : Prepare) (config : Config)
    (agentConfig : Host → AgentConfig) :=
  (fleet platform prepare config agentConfig).Execution

end InferenceGateway
