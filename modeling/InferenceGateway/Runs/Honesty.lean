import InferenceGateway.Agent.Fleet
import InferenceGateway.Runs.Assignments
import InferenceGateway.Runs.Notices

/-!
# What an agent may believe

An agent raises the same flag for a cancel and for an orphan notice.  It is
honest when every raised flag has an excuse: a client asked for the cancel, or
the lease of the runner is retired, so that its report changes nothing.
-/

namespace InferenceGateway

open Library

/-- What the beliefs of the agents are measured against. -/
structure Ground where
  /-- The jobs with an accepted DELETE. -/
  requested : String → Prop
  gateway : Gateway
  sent : List ResultRequest

section Ground

variable (platform : Platform)

/-- The ground after more steps: nothing that was established is lost. -/
structure Ground.Grows (before after : Ground) : Prop where
  requested : ∀ id, before.requested id → after.requested id
  issued : ∀ id lease, Issued platform before.gateway id lease →
    Issued platform after.gateway id lease
  retired : ∀ lease, Retired platform lease before.gateway → Retired platform lease after.gateway
  tokens : before.gateway.tokens ≤ after.gateway.tokens
  polls : ∀ parked ∈ after.gateway.waiters.polls, parked.token < before.gateway.tokens →
    parked ∈ before.gateway.waiters.polls
  sent : ∀ request ∈ before.sent, request ∈ after.sent

variable (ground : Ground)

/-- A report of the job under the lease as cancelled does no harm. -/
def Ground.Excuses (id lease : String) : Prop :=
  ground.requested id ∨ Retired platform lease ground.gateway

structure HonestRunner (state : JobState) : Prop where
  issued : Issued platform ground.gateway state.jobId state.assignment.leaseId
  flagged : state.cancelled = true →
    ground.Excuses platform state.jobId state.assignment.leaseId
  reports : ∀ report, state.report = some report → report.body.state = .string "cancelled" →
    state.cancelled = true
  sends : ∀ report request, state.report = some report →
    report.exchange = some (.sent request) → request ∈ ground.sent

/-- The lists of an answer are true of the jobs of the agent. -/
structure Tells (jobs : Table JobState.jobId) (cancel orphan : List String) : Prop where
  cancel : ∀ id ∈ cancel, ground.requested id
  orphan : ∀ id ∈ orphan, ∀ state, jobs.get? id = some state →
    Retired platform state.assignment.leaseId ground.gateway

/-- What the poll of an agent with these jobs says, or will be told. -/
def HonestPoll (jobs : Table JobState.jobId) : Exchange PollBody → Prop
  | .sent body => ∀ item id lease state, some item ∈ body.inFlight.getD [] →
      item.jobId.str = some id → item.leaseId.str = some lease → jobs.get? id = some state →
        state.assignment.leaseId = lease
  | .pending token => token < ground.gateway.tokens ∧
      ∀ parked ∈ ground.gateway.waiters.polls, parked.token = token →
        Tells platform ground jobs parked.cancel parked.orphan
  | .answered reply => ∀ response, reply = .poll response →
      Tells platform ground jobs response.cancel response.orphan ∧
        ∀ assignment ∈ response.assign,
          Issued platform ground.gateway assignment.jobId assignment.leaseId

structure HonestAgent (agent : Agent) : Prop where
  runners : ∀ id state, agent.jobs.get? id = some state → HonestRunner platform ground state
  polling : ∀ exchange, agent.polling = some exchange →
    HonestPoll platform ground agent.jobs exchange

end Ground

variable {platform : Platform} {ground before after : Ground}

/-! ### Growth -/

theorem Ground.Excuses.grow {id lease : String} (excused : before.Excuses platform id lease)
    (grows : before.Grows platform after) : after.Excuses platform id lease :=
  excused.imp (grows.requested id) (grows.retired lease)

theorem HonestRunner.grow {state : JobState} (honest : HonestRunner platform before state)
    (grows : before.Grows platform after) : HonestRunner platform after state where
  issued := grows.issued _ _ honest.issued
  flagged raised := (honest.flagged raised).grow grows
  reports := honest.reports
  sends report request reported sent := grows.sent _ (honest.sends report request reported sent)

theorem Tells.grow {jobs : Table JobState.jobId} {cancel orphan : List String}
    (tells : Tells platform before jobs cancel orphan) (grows : before.Grows platform after) :
    Tells platform after jobs cancel orphan where
  cancel id member := grows.requested id (tells.cancel id member)
  orphan id member state found := grows.retired _ (tells.orphan id member state found)

theorem HonestPoll.grow {jobs : Table JobState.jobId} {exchange : Exchange PollBody}
    (honest : HonestPoll platform before jobs exchange) (grows : before.Grows platform after) :
    HonestPoll platform after jobs exchange := by
  cases exchange with
  | sent body => exact honest
  | pending token =>
    obtain ⟨bound, tells⟩ := honest
    refine ⟨bound.trans_le grows.tokens, fun parked member same => ?_⟩
    exact (tells parked (grows.polls parked member (same ▸ bound)) same).grow grows
  | answered reply =>
    intro response same
    obtain ⟨tells, issued⟩ := honest response same
    exact ⟨tells.grow grows, fun assignment member => grows.issued _ _ (issued assignment member)⟩

theorem HonestAgent.grow {agent : Agent} (honest : HonestAgent platform before agent)
    (grows : before.Grows platform after) : HonestAgent platform after agent where
  runners id state found := (honest.runners id state found).grow grows
  polling exchange polls := (honest.polling exchange polls).grow grows

theorem honest_initial : HonestAgent platform ground Agent.initial where
  runners _ _ found := by cases found
  polling _ polls := by cases polls

/-! ### Changes of the table -/

/-- The second table has no jobs but those of the first, under the same leases. -/
def Narrows (jobs jobs' : Table JobState.jobId) : Prop :=
  ∀ id state', jobs'.get? id = some state' →
    ∃ state, jobs.get? id = some state ∧ state'.assignment = state.assignment

theorem Tells.narrow {jobs jobs' : Table JobState.jobId} {cancel orphan : List String}
    (tells : Tells platform ground jobs cancel orphan) (narrows : Narrows jobs jobs') :
    Tells platform ground jobs' cancel orphan := by
  refine ⟨tells.cancel, fun id member state' found' => ?_⟩
  obtain ⟨state, found, same⟩ := narrows id state' found'
  exact same ▸ tells.orphan id member state found

theorem HonestPoll.narrow {jobs jobs' : Table JobState.jobId} {exchange : Exchange PollBody}
    (honest : HonestPoll platform ground jobs exchange) (narrows : Narrows jobs jobs') :
    HonestPoll platform ground jobs' exchange := by
  cases exchange with
  | sent body =>
    intro item id lease state' listed names under found'
    obtain ⟨state, found, same⟩ := narrows id state' found'
    exact same ▸ honest item id lease state listed names under found
  | pending token =>
    exact ⟨honest.1, fun parked member same => (honest.2 parked member same).narrow narrows⟩
  | answered reply =>
    intro response same
    exact ⟨(honest response same).1.narrow narrows, (honest response same).2⟩

theorem get?_modify (agent : Agent) (jobId : String) (f : JobState → JobState)
    (keeps : ∀ state, (f state).jobId = state.jobId) (id : String) :
    (agent.modify jobId f keeps).jobs.get? id =
      if id = jobId then (agent.jobs.get? id).map f else agent.jobs.get? id := by
  rw [Agent.modify, Table.get?_update]
  cases found : agent.jobs.get? id with
  | none => simp
  | some state =>
    have named : state.jobId = id := Table.key_of_get? found
    by_cases same : id = jobId <;> simp [named, same]

/-- A runner's step that leaves its assignment and its flag alone. -/
theorem HonestAgent.modify {agent : Agent} (honest : HonestAgent platform ground agent) {jobId : String}
    {f : JobState → JobState} (keeps : ∀ state, (f state).jobId = state.jobId)
    (under : ∀ state, (f state).assignment = state.assignment)
    (runner : ∀ state, agent.jobs.get? jobId = some state → HonestRunner platform ground (f state)) :
    HonestAgent platform ground (agent.modify jobId f keeps) where
  runners id state' found' := by
    rw [get?_modify] at found'
    split at found'
    · next same =>
      subst same
      obtain ⟨state, found, rfl⟩ := Option.map_eq_some_iff.mp found'
      exact runner state found
    · exact honest.runners id state' found'
  polling exchange polls := by
    refine (honest.polling exchange polls).narrow fun id state' found' => ?_
    rw [get?_modify] at found'
    split at found'
    · obtain ⟨state, found, rfl⟩ := Option.map_eq_some_iff.mp found'
      exact ⟨state, found, under state⟩
    · exact ⟨state', found', rfl⟩

/-- A runner takes its result up, or gets on with its delivery. -/
theorem HonestRunner.reporting {state : JobState} (honest : HonestRunner platform ground state)
    (report : Report)
    (cancels : report.body.state = .string "cancelled" → state.cancelled = true)
    (sends : ∀ request, report.exchange = some (.sent request) → request ∈ ground.sent) :
    HonestRunner platform ground (state.reporting report) where
  issued := honest.issued
  flagged := honest.flagged
  reports _ same := by
    cases Option.some.inj same
    exact cancels
  sends _ request same := by
    cases Option.some.inj same
    exact sends request

theorem HonestRunner.working {state : JobState} (honest : HonestRunner platform ground state)
    (phase : String) (progress : ℚ) (upstreamId : Option String) :
    HonestRunner platform ground (state.working phase progress upstreamId) :=
  ⟨honest.issued, honest.flagged, honest.reports, honest.sends⟩

theorem HonestAgent.drop {agent : Agent} (honest : HonestAgent platform ground agent) (jobId : String) :
    HonestAgent platform ground (agent.drop jobId) := by
  have earlier {id : String} {state : JobState}
      (found : (agent.drop jobId).jobs.get? id = some state) :
      agent.jobs.get? id = some state := by
    rw [Agent.drop, Table.get?_delete] at found
    exact (Option.filter_eq_some_iff.mp found).1
  constructor
  · exact fun id state found => honest.runners id state (earlier found)
  · intro exchange polls
    exact (honest.polling exchange polls).narrow fun id state found => ⟨state, earlier found, rfl⟩

/-! ### Carrying out an answer -/

theorem HonestRunner.cancel {state : JobState} (honest : HonestRunner platform ground state)
    (excused : ground.Excuses platform state.jobId state.assignment.leaseId) :
    HonestRunner platform ground state.cancel where
  issued := honest.issued
  flagged _ := excused
  reports _ _ _ := rfl
  sends := honest.sends

theorem HonestAgent.cancelJobs {agent : Agent} (honest : HonestAgent platform ground agent)
    {ids : List String}
    (excused : ∀ id ∈ ids, ∀ state, agent.jobs.get? id = some state →
      ground.Excuses platform id state.assignment.leaseId) :
    HonestAgent platform ground (agent.cancelJobs ids) where
  runners id state' found' := by
    obtain ⟨state, found, rfl | ⟨told, rfl⟩⟩ := origin_cancelJobs found'
    · exact honest.runners id _ found
    · obtain rfl : state.jobId = id := Table.key_of_get? found
      exact (honest.runners _ state found).cancel (excused _ told state found)
  polling exchange polls := by
    refine (honest.polling exchange polls).narrow fun id state' found' => ?_
    obtain ⟨state, found, rfl | ⟨-, rfl⟩⟩ := origin_cancelJobs found'
    · exact ⟨_, found, rfl⟩
    · exact ⟨state, found, rfl⟩

theorem HonestAgent.startAll {agent : Agent} (honest : HonestAgent platform ground agent)
    (idle : agent.polling = none) {raws : List Assignment}
    (issued : ∀ raw ∈ raws, Issued platform ground.gateway raw.jobId raw.leaseId) :
    HonestAgent platform ground (agent.startAll raws).2 where
  runners id state found := by
    rcases origin_startAll found with earlier | ⟨raw, member, rfl⟩
    · exact honest.runners id state earlier
    · refine ⟨issued raw member, ?_, ?_, ?_⟩
      · intro raised
        cases raised
      · intro _ reported
        cases reported
      · intro _ _ reported
        cases reported
  polling exchange polls := by
    rw [polling_startAll, idle] at polls
    cases polls

/-- An honest agent that is told the truth stays honest. -/
theorem HonestAgent.process {agent : Agent} (honest : HonestAgent platform ground agent)
    {response : PollResponse} (received : agent.polling = some (.answered (.poll response))) :
    HonestAgent platform ground ({ agent with polling := none }.process response).2 := by
  obtain ⟨tells, issued⟩ := honest.polling _ received response rfl
  have polled : HonestAgent platform ground { agent with polling := none } :=
    ⟨honest.runners, fun _ polls => by cases polls⟩
  have orphaned : HonestAgent platform ground
      ({ agent with polling := none }.cancelJobs response.orphan) :=
    polled.cancelJobs fun id member state found => .inr (tells.orphan id member state found)
  have cancelled : HonestAgent platform ground
      (({ agent with polling := none }.cancelJobs response.orphan).cancelJobs response.cancel) :=
    orphaned.cancelJobs fun id member _ _ => .inl (tells.cancel id member)
  exact cancelled.startAll rfl issued

/-! ### Answers on their way -/

theorem sent_of_route {Request : Type} {action : Action} {reply : Reply}
    {exchange : Exchange Request} {request : Request}
    (routed : exchange.route action reply = .sent request) : exchange = .sent request := by
  cases exchange with
  | sent request' => exact routed
  | answered reply' => cases routed
  | pending token =>
    simp only [Exchange.route] at routed
    split at routed
    · split at routed <;> cases routed
    · cases routed

theorem taken_ne_sent {Request : Type} (reply : Reply) (request : Request) :
    Exchange.taken reply ≠ .sent request := by
  unfold Exchange.taken
  split <;> nofun

theorem HonestRunner.routed {state : JobState} (honest : HonestRunner platform ground state)
    (action : Action) (reply : Reply) :
    HonestRunner platform ground (state.routed action reply) where
  issued := honest.issued
  flagged := honest.flagged
  reports _ same cancels := by
    obtain ⟨report, held, rfl⟩ := Option.map_eq_some_iff.mp same
    exact honest.reports report held cancels
  sends _ request same sent := by
    obtain ⟨report, held, rfl⟩ := Option.map_eq_some_iff.mp same
    obtain ⟨exchange, before, routed⟩ := Option.map_eq_some_iff.mp sent
    rw [sent_of_route routed] at before
    exact honest.sends report request held before

theorem HonestAgent.routed (session : Session) (honest : HonestAgent platform ground session.agent)
    (action : Action) (reply : Reply)
    (polling : ∀ exchange, session.agent.polling = some exchange →
      HonestPoll platform ground session.agent.jobs (exchange.route action reply)) :
    HonestAgent platform ground (session.routed action reply) where
  runners id _ found' := by
    rw [Session.routed, Table.get?_update] at found'
    obtain ⟨state, found, rfl⟩ := Option.map_eq_some_iff.mp found'
    exact (honest.runners id state found).routed action reply
  polling _ polls := by
    obtain ⟨exchange, before, rfl⟩ := Option.map_eq_some_iff.mp polls
    refine (polling exchange before).narrow fun id state' found' => ?_
    rw [Session.routed, Table.get?_update] at found'
    obtain ⟨state, found, rfl⟩ := Option.map_eq_some_iff.mp found'
    exact ⟨state, found, rfl⟩

section Gateway

variable {prepare : Prepare} {config : Config} {u : GatewayTransition}
  (fires : (gateway platform prepare config).Fires u) (leased : Leased platform u.pre)
  (pre : before.gateway = u.pre) (post : after.gateway = u.post)
  (grows : before.Grows platform after)

include fires leased pre post grows

/-- The gateway answers a parked poll with what it took along. -/
theorem HonestPoll.route {jobs : Table JobState.jobId} {exchange : Exchange PollBody}
    (honest : HonestPoll platform before jobs exchange) :
    HonestPoll platform after jobs (exchange.route u.action u.reply) := by
  cases exchange with
  | sent body => exact honest.grow grows
  | answered reply => exact honest.grow grows
  | pending token =>
    simp only [Exchange.route]
    split
    · next resumes =>
      obtain ⟨same, resumed⟩ := reply_of_resumes fires resumes
      split
      · next token' reply =>
        rw [same token' reply]
        exact honest.grow grows
      · intro response reply
        obtain ⟨parked, member, named, cancel, orphan, assigned⟩ :=
          told_of_resumed fires (resumed response reply) reply
        obtain ⟨-, tells⟩ := honest
        rw [pre] at tells
        have told := (tells parked member named).grow grows
        refine ⟨⟨fun id listed => told.cancel id (cancel id listed), ?_⟩, ?_⟩
        · rw [orphan]
          exact told.orphan
        · rw [post]
          exact fun assignment given => issued_of_grants fires leased (assigned assignment given)
    · exact honest.grow grows

/-- The gateway takes a poll in and tells its agent the truth. -/
theorem HonestPoll.take {agent : Agent} (honest : HonestAgent platform before agent) {body : PollBody}
    {sessionId : String} (polls : agent.polling = some (.sent body))
    (action : u.action = .poll body sessionId)
    (marks : ∀ id, u.pre.Marks id → before.requested id)
    (counted : ∀ parked ∈ u.pre.waiters.polls, parked.token < u.pre.tokens) :
    HonestPoll platform after agent.jobs (.taken u.reply) := by
  have lists : ∀ cancel orphan, (∀ id ∈ cancel, u.pre.Marks id) →
      (∀ id ∈ orphan, u.pre.Disowns body id) → Tells platform after agent.jobs cancel orphan := by
    intro cancel orphan marked disowned
    refine Tells.grow ⟨fun id member => marks id (marked id member), ?_⟩ grows
    intro id member state found
    obtain ⟨item, lease, listed, names, under, unheld⟩ := disowned id member
    obtain rfl := honest.polling _ polls item id lease state listed names under found
    obtain rfl : state.jobId = id := Table.key_of_get? found
    rw [← pre] at unheld
    exact (honest.runners _ state found).issued.retired unheld
  unfold Exchange.taken
  split
  · next token reply =>
    obtain ⟨parked, parks, rfl⟩ := parks_of_pending fires action reply
    refine ⟨by rw [post, parks.counted, parks.token]; exact Nat.lt_succ_self _, ?_⟩
    intro other member same
    rw [post] at member
    rcases polls_step fires member with earlier | ⟨body', parks'⟩
    · have bound := counted other earlier
      rw [same, parks.token] at bound
      exact absurd bound (Nat.lt_irrefl _)
    · obtain ⟨_, _, action', -⟩ := parks'.poll
      cases action.symm.trans action'
      obtain ⟨marked, disowned⟩ := told_of_parks parks'
      exact lists _ _ marked disowned
  · intro response reply
    obtain ⟨marked, disowned, assigned⟩ := told_of_poll fires action reply
    refine ⟨lists _ _ marked disowned, ?_⟩
    rw [post]
    exact fun assignment given => issued_of_grants fires leased (assigned assignment given)

end Gateway

/-! ### One turn of an agent -/

/-- A poll lists the jobs of its agent under the leases they run under. -/
theorem honestPoll_pollBody (agent : Agent) (agentConfig : AgentConfig) (ready : Bool) :
    HonestPoll platform ground agent.jobs (.sent (agent.pollBody agentConfig ready)) := by
  intro item id lease state listed names under found
  obtain ⟨own, member, same⟩ := List.mem_map.mp listed
  obtain rfl := Option.some.inj same
  have named : own.jobId = id := Value.string.inj (Value.eq_of_str names)
  have leased : own.assignment.leaseId = lease := Value.string.inj (Value.eq_of_str under)
  have held := Table.get?_of_mem member
  rw [named, found] at held
  cases held
  exact leased

section Turn

variable {prepare : Prepare} {config : Config} {agentConfig : AgentConfig} {s : SessionTransition}

/-- A turn that is the agent's own, and reports no cancel it was not told of, keeps it honest. -/
theorem HonestAgent.turn (change : AgentChange platform prepare config agentConfig s)
    (own : ∀ action, s.action ≠ .gateway action)
    (finishes : ∀ id body, s.action = .finish id body → body.state = .string "cancelled" →
      ∀ state, s.pre.agent.jobs.get? id = some state → state.cancelled = true)
    (leased : Leased platform s.pre.gateway) (pre : before.gateway = s.pre.gateway)
    (post : after.gateway = s.post.gateway) (grows : before.Grows platform after)
    (sent : ∀ request, s.reply = .reports request → request ∈ after.sent)
    (marks : ∀ id, s.pre.gateway.Marks id → before.requested id)
    (counted : ∀ parked ∈ s.pre.gateway.waiters.polls, parked.token < s.pre.gateway.tokens)
    (honest : HonestAgent platform before s.pre.agent) :
    HonestAgent platform after s.post.agent := by
  have kept := honest.grow grows
  cases change with
  | routed performs => exact absurd performs (own _)
  | polls ready _ _ agent =>
    rw [agent]
    refine ⟨kept.runners, fun exchange polls => ?_⟩
    obtain rfl := Option.some.inj polls
    exact honestPoll_pollBody s.pre.agent agentConfig ready
  | @arrives body sessionId answer polls performed _ agent =>
    rw [agent]
    refine ⟨kept.runners, fun exchange polls' => ?_⟩
    obtain rfl := Option.some.inj polls'
    have fires : (gateway platform prepare config).Fires
        ⟨s.pre.gateway, .poll body sessionId, answer, s.post.gateway⟩ := congrArg some performed
    have taken : HonestPoll platform after s.pre.agent.jobs (.taken answer) :=
      HonestPoll.take fires leased pre post grows honest polls rfl marks counted
    exact taken
  | idles _ _ agent =>
    rw [agent]
    exact ⟨kept.runners, fun _ polls => by cases polls⟩
  | processes _ received _ agent =>
    rw [agent]
    exact kept.process received
  | works _ _ agent =>
    rw [agent]
    exact kept.modify _ (fun _ => rfl) fun state found => (kept.runners _ state found).working ..
  | finishes performs _ _ _ agent =>
    rw [agent]
    refine kept.modify _ (fun _ => rfl) fun state found => ?_
    refine (kept.runners _ state found).reporting _ (fun cancels => ?_) fun _ same => by cases same
    exact finishes _ _ performs cancels state found
  | @posts state report found held _ reply agent =>
    rw [agent]
    refine kept.modify _ (fun _ => rfl) fun state' found' => ?_
    cases found.symm.trans found'
    have runner := kept.runners _ state found
    refine runner.reporting _ (runner.reports report held) fun request same => ?_
    cases same
    exact sent _ reply
  | @delivers state report request answer found held _ _ _ agent =>
    rw [agent]
    refine kept.modify _ (fun _ => rfl) fun state' found' => ?_
    cases found.symm.trans found'
    have runner := kept.runners _ state found
    refine runner.reporting _ (runner.reports report held) fun request' same => ?_
    exact absurd (Option.some.inj same) (taken_ne_sent answer request')
  | @retries state report _ found held _ _ agent =>
    rw [agent]
    refine kept.modify _ (fun _ => rfl) fun state' found' => ?_
    cases found.symm.trans found'
    have runner := kept.runners _ state found
    exact runner.reporting _ (runner.reports report held) fun _ same => by cases same
  | ends jobId _ _ agent =>
    rw [agent]
    exact kept.drop jobId
  | stops _ _ agent =>
    rw [agent]
    exact ⟨kept.runners, kept.polling⟩

end Turn

end InferenceGateway
