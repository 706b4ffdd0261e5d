import InferenceGateway.Agent.Scripts
import InferenceGateway.Runs.Fleets
import InferenceGateway.Runs.Registry
import InferenceGateway.Runs.Served

/-!
# Verdicts are earned

Behind every completed job stands a runner that was handed the job and took all
the turns from the input to the clip; a failed job is one a runner failed at, or
one the reaper gave up.
-/

namespace InferenceGateway

open Library Relation

variable {Host : Type} [DecidableEq Host] {platform : Platform} {prepare : Prepare}
  {config : Config} {agentConfig : Host → AgentConfig} {t : FleetTransition Host}

/-! ### Where a job in the table of an agent comes from -/

/-- The turn a step makes the runner of the job on the host take. -/
def turnOf (host : Host) (id : String) (t : FleetTransition Host) : Option RunnerEvent :=
  match t.action with
  | .runner other jobId event => if other = host ∧ jobId = id then some event else none
  | _ => none

def turnsOf (host : Host) (id : String) (history : List (FleetTransition Host)) :
    List RunnerEvent :=
  history.filterMap (turnOf host id)

/-- The runner is where it was, with the result it had. -/
structure Alike (state state' : JobState) : Prop where
  assignment : state'.assignment = state.assignment
  phase : state'.phase = state.phase
  body : state'.report.map Report.body = state.report.map Report.body

/-- The job is started on the answer the agent has got. -/
def Starts (polling : Option (Exchange PollBody)) (reply : SessionReply) (state : JobState) :
    Prop :=
  ∃ response started raw, polling = some (.answered (.poll response)) ∧
    reply = .processed response started ∧ raw ∈ response.assign ∧
      state = .starting (.fromPayload raw)

theorem Alike.refl (state : JobState) : Alike state state := ⟨rfl, rfl, rfl⟩

theorem alike_reporting {state : JobState} {report : Report} (held : state.report = some report)
    (attempt : Nat) (exchange : Option (Exchange ResultRequest)) :
    Alike state (state.reporting ⟨report.body, attempt, exchange⟩) :=
  ⟨rfl, rfl, by rw [held]; rfl⟩

theorem alike_modify {agent : Agent} {state : JobState} {report : Report}
    (found : agent.jobs.get? state.jobId = some state) (held : state.report = some report)
    {attempt : Nat} {exchange : Option (Exchange ResultRequest)} {id : String} {state' : JobState}
    (found' : (agent.modify state.jobId (JobState.reporting ⟨report.body, attempt, exchange⟩)
      (JobState.reporting_jobId _)).jobs.get? id = some state') :
    ∃ state, agent.jobs.get? id = some state ∧ Alike state state' := by
  rw [get?_modify] at found'
  split at found'
  · next same =>
    rw [same, found] at found'
    obtain rfl := Option.some.inj found'
    exact ⟨state, same ▸ found, alike_reporting held attempt exchange⟩
  · exact ⟨state', found', .refl state'⟩

theorem found_of_drop {agent : Agent} {jobId id : String} {state' : JobState}
    (found' : (agent.drop jobId).jobs.get? id = some state') :
    id ≠ jobId ∧ agent.jobs.get? id = some state' := by
  rw [Agent.drop, Table.get?_delete] at found'
  obtain ⟨found, kept⟩ := Option.filter_eq_some_iff.mp found'
  obtain rfl : state'.jobId = id := Table.key_of_get? found
  exact ⟨by simpa using kept, found⟩

theorem alike_retry {session post : Session} {reply : SessionReply} {state : JobState}
    {report : Report} (found : session.agent.jobs.get? state.jobId = some state)
    (held : state.report = some report)
    (same : session.retry state.jobId ⟨report.body, report.attempt, none⟩ = (reply, post))
    {id : String} {state' : JobState} (found' : post.agent.jobs.get? id = some state') :
    ∃ state, session.agent.jobs.get? id = some state ∧ Alike state state' := by
  unfold Session.retry at same
  split at same <;> cases same
  · exact alike_modify found held found'
  · exact ⟨state', (found_of_drop found').2, .refl state'⟩

/-- The poll loop and the deliveries start jobs, and leave those there are where they are. -/
theorem origin_agent {agentConfig : AgentConfig} {pre post : Session} {action : SessionAction}
    {reply : SessionReply}
    (stepped : pre.step platform prepare config agentConfig action = some (reply, post))
    (own : action.ofAgent = true) {id : String} {state' : JobState}
    (found' : post.agent.jobs.get? id = some state') :
    (∃ state, pre.agent.jobs.get? id = some state ∧ Alike state state') ∨
      action = .receive ∧ Starts pre.agent.polling reply state' := by
  cases action with
  | gateway | work | finish | abandon => cases own
  | cycle ready =>
    simp only [Session.step] at stepped
    split at stepped <;> cases stepped
    exact .inl ⟨state', found', .refl state'⟩
  | pollArrives sessionId =>
    simp only [Session.step] at stepped
    split at stepped <;> cases stepped
    exact .inl ⟨state', found', .refl state'⟩
  | pollFails =>
    simp only [Session.step] at stepped
    split at stepped <;> cases stepped
    exact .inl ⟨state', found', .refl state'⟩
  | receive =>
    simp only [Session.step] at stepped
    split at stepped <;> cases stepped
    · next response received =>
      rcases origin_startAll found' with earlier | ⟨raw, member, rfl⟩
      · obtain ⟨second, earlier, cancelled⟩ := origin_cancelJobs earlier
        obtain ⟨first, found, orphaned⟩ := origin_cancelJobs earlier
        refine .inl ⟨first, found, ?_⟩
        rcases cancelled with rfl | ⟨-, rfl⟩ <;> rcases orphaned with rfl | ⟨-, rfl⟩ <;>
          exact ⟨rfl, rfl, rfl⟩
      · exact .inr ⟨rfl, response, _, raw, received, rfl, member, rfl⟩
    · exact .inl ⟨state', found', .refl state'⟩
  | report jobId =>
    simp only [Session.step] at stepped
    split at stepped <;> cases stepped
    next held =>
      obtain ⟨rfl, found, reported⟩ := reportOf_eq_some held
      exact .inl (alike_modify found reported found')
  | reportArrives jobId =>
    simp only [Session.step] at stepped
    split at stepped <;> cases stepped
    next held =>
      obtain ⟨rfl, found, reported⟩ := reportOf_eq_some held
      exact .inl (alike_modify found reported found')
  | reportFails jobId =>
    simp only [Session.step] at stepped
    split at stepped
    · next held =>
      obtain ⟨rfl, found, reported⟩ := reportOf_eq_some held
      exact .inl (alike_retry found reported (Option.some.inj stepped) found')
    · cases stepped
  | reported jobId =>
    simp only [Session.step] at stepped
    split at stepped
    · next held =>
      obtain ⟨rfl, found, reported⟩ := reportOf_eq_some held
      split at stepped
      · cases stepped
        exact .inl ⟨state', (found_of_drop found').2, .refl state'⟩
      · split at stepped
        · cases stepped
          exact .inl ⟨state', (found_of_drop found').2, .refl state'⟩
        · exact .inl (alike_retry found reported (Option.some.inj stepped) found')
    · cases stepped
  | stop =>
    cases stepped
    exact .inl ⟨state', found', .refl state'⟩

/-- Where a job in the table of the agent on the host comes from. -/
inductive JobOrigin (platform : Platform) (t : FleetTransition Host) (host : Host) (id : String)
    (state' : JobState) : Prop where
  | kept {state : JobState} (found : (t.pre.agents host).jobs.get? id = some state)
      (alike : Alike state state') (idle : state.report = none → turnOf host id t = none)
  | started (receives : t.action = .agent host .receive)
      (starts : Starts (t.pre.agents host).polling t.reply state')
  | continued {state : JobState} {event : RunnerEvent} {phase : String} {progress : ℚ}
      {upstreamId : Option String} (found : (t.pre.agents host).jobs.get? id = some state)
      (running : state.report = none) (turn : turnOf host id t = some event)
      (continues : state.advance platform event = some (.continues phase progress upstreamId))
      (after : state' = state.working phase progress upstreamId)
  | returned {state : JobState} {event : RunnerEvent} {body : ResultBody}
      (found : (t.pre.agents host).jobs.get? id = some state) (running : state.report = none)
      (turn : turnOf host id t = some event)
      (returns : state.advance platform event = some (.returns body))
      (after : state' = state.reporting ⟨body, 1, none⟩)

/-- The job of a turn that is carried out has no result yet. -/
theorem running_of_turn {agentConfig : AgentConfig} {pre post : Session} {reply : SessionReply}
    {jobId : String} {turn : RunnerTurn}
    (stepped : pre.step platform prepare config agentConfig (turn.action jobId) =
      some (reply, post)) :
    (∃ state, pre.agent.jobs.get? jobId = some state ∧ state.report = none) ∧
      match turn with
      | .continues phase progress upstreamId => post.agent = pre.agent.modify jobId
          (JobState.working phase progress upstreamId) (JobState.working_jobId _ _ _)
      | .returns body => post.agent = pre.agent.modify jobId
          (JobState.reporting ⟨body, 1, none⟩) (JobState.reporting_jobId _)
      | .raises => post.agent = pre.agent.drop jobId := by
  cases turn <;> simp only [RunnerTurn.action, Session.step] at stepped <;>
    split at stepped <;> cases stepped <;> next found => exact ⟨⟨_, found, rfl⟩, rfl⟩

theorem jobOrigin (fires : (fleet platform prepare config agentConfig).Fires t) {host : Host}
    {id : String} {state' : JobState}
    (found' : (t.post.agents host).jobs.get? id = some state') :
    JobOrigin platform t host id state' := by
  obtain ⟨pre, action, reply, post⟩ := t
  have stepped : pre.step platform prepare config agentConfig action = some (reply, post) := fires
  clear fires
  cases action with
  | gateway action =>
    have others : ∀ request, action ≠ .result request := by
      rintro request rfl
      cases stepped
    rw [Fleet.step] at stepped
    · obtain ⟨⟨answer, gateway⟩, -, same⟩ := Option.map_eq_some_iff.mp stepped
      cases same
      simp only [Session.routed, Table.get?_update] at found'
      obtain ⟨state, found, rfl⟩ := Option.map_eq_some_iff.mp found'
      refine .kept found ⟨rfl, rfl, ?_⟩ fun _ => rfl
      simp [JobState.routed, Option.map_map, Function.comp_def]
    · exact others
  | agent turning action =>
    simp only [Fleet.step] at stepped
    split at stepped
    · next own =>
      obtain ⟨⟨answer, session⟩, performed, same⟩ := Option.map_eq_some_iff.mp stepped
      cases same
      by_cases here : host = turning
      · subst here
        simp only [Fleet.withSession, Function.update_self] at found'
        rcases origin_agent performed own found' with ⟨state, found, alike⟩ | ⟨rfl, starts⟩
        · exact .kept found alike fun _ => rfl
        · exact .started rfl starts
      · simp only [Fleet.withSession, Function.update_of_ne here] at found'
        exact .kept found' (.refl state') fun _ => rfl
    · cases stepped
  | runner turning jobId event =>
    obtain ⟨state, found, rest⟩ := Option.bind_eq_some_iff.mp stepped
    obtain ⟨turn, advanced, turned⟩ := Option.bind_eq_some_iff.mp rest
    obtain ⟨⟨answer, session⟩, performed, same⟩ := Option.map_eq_some_iff.mp turned
    cases same
    by_cases here : host = turning
    · subst here
      simp only [Fleet.withSession, Function.update_self] at found'
      obtain ⟨⟨_, found₀, running⟩, agent⟩ := running_of_turn performed
      cases found₀.symm.trans found
      by_cases own : id = jobId
      · subst own
        have turns : turnOf host id ⟨pre, .runner host id event, reply,
            pre.withSession host reply session⟩ = some event := if_pos ⟨rfl, rfl⟩
        cases turn with
        | continues phase progress upstreamId =>
          rw [agent, get?_modify, if_pos rfl, found₀] at found'
          exact .continued found₀ running turns advanced (Option.some.inj found').symm
        | returns body =>
          rw [agent, get?_modify, if_pos rfl, found₀] at found'
          exact .returned found₀ running turns advanced (Option.some.inj found').symm
        | raises =>
          rw [agent] at found'
          exact absurd rfl (found_of_drop found').1
      · have elsewhere : (pre.agents host).jobs.get? id = some state' := by
          cases turn with
          | continues | returns =>
            rw [agent, get?_modify, if_neg own] at found'
            exact found'
          | raises =>
            rw [agent] at found'
            exact (found_of_drop found').2
        exact .kept elsewhere (.refl state') fun _ => if_neg fun same => own same.2.symm
    · simp only [Fleet.withSession, Function.update_of_ne here] at found'
      exact .kept found' (.refl state') fun _ => if_neg fun same => here same.1.symm
  | restart turning =>
    cases stepped
    by_cases here : host = turning
    · subst here
      simp only [Function.update_self] at found'
      cases found'
    · simp only [Function.update_of_ne here] at found'
      exact .kept found' (.refl state') fun _ => rfl
  | late request =>
    simp only [Fleet.step] at stepped
    split at stepped <;> cases stepped
    exact .kept found' (.refl state') fun _ => rfl

theorem answered_of_route {Request : Type} {action : Action} {answer reply : Reply}
    {exchange : Exchange Request} (routed : exchange.route action answer = .answered reply) :
    exchange = .answered reply ∨ answer = reply := by
  cases exchange with
  | sent request => cases routed
  | answered reply' => exact .inl routed
  | pending token =>
    simp only [Exchange.route] at routed
    split at routed
    · split at routed <;> cases routed
      exact .inr rfl
    · cases routed

theorem answered_of_taken {Request : Type} {answer reply : Reply}
    (taken : (Exchange.taken answer : Exchange Request) = .answered reply) : answer = reply := by
  unfold Exchange.taken at taken
  split at taken <;> cases taken
  rfl

/-- An answer an agent has got is one the gateway gave. -/
theorem answer_origin (fires : (fleet platform prepare config agentConfig).Fires t) {host : Host}
    {reply : Reply} (answered : (t.post.agents host).polling = some (.answered reply)) :
    (t.pre.agents host).polling = some (.answered reply) ∨ t.reply = .gateway reply := by
  cases fleetChange fires with
  | @performed action answer _ _ _ replied agents _ =>
    rw [agents] at answered
    obtain ⟨exchange, before, routed⟩ := Option.map_eq_some_iff.mp answered
    rcases answered_of_route routed with rfl | rfl
    · exact .inl before
    · exact .inr replied
  | @turned turning action session _ stepped own _ post =>
    rw [post] at answered
    by_cases here : host = turning
    · subst here
      simp only [Fleet.withSession, Function.update_self] at answered
      cases agentChange stepped with
      | routed performs => exact absurd performs (own _)
      | polls _ _ _ agent | idles _ _ agent =>
        simp only at agent
        rw [agent] at answered
        cases answered
      | arrives _ _ replied agent =>
        simp only at agent
        rw [agent] at answered
        obtain rfl := answered_of_taken (Option.some.inj answered)
        exact .inr replied
      | processes _ _ _ agent =>
        simp only at agent
        rw [agent, Agent.process, polling_startAll] at answered
        cases answered
      | works _ _ agent | finishes _ _ _ _ agent | posts _ _ _ _ agent
      | delivers _ _ _ _ _ agent | retries _ _ _ _ _ agent | ends _ _ _ agent | stops _ _ agent =>
        simp only at agent
        rw [agent] at answered
        exact .inl answered
    · simp only [Fleet.withSession, Function.update_of_ne here] at answered
      exact .inl answered
  | @restarted restarting _ post =>
    rw [post] at answered
    by_cases here : host = restarting
    · subst here
      simp only [Function.update_self] at answered
      cases answered
    · simp only [Function.update_of_ne here] at answered
      exact .inl answered
  | late _ _ _ agents =>
    rw [agents] at answered
    exact .inl answered

/-! ### What a runner has done -/

/-- The agent on the host starts the job of an answer that the gateway gave before. -/
structure TakesOver (before : List (FleetTransition Host)) (t : FleetTransition Host) (host : Host)
    (assignment : AgentAssignment) : Prop where
  receives : t.action = .agent host .receive
  handed : ∃ response started raw, t.reply = .processed response started ∧
    raw ∈ response.assign ∧ assignment = .fromPayload raw ∧
      ∃ u ∈ before, u.reply = .gateway (.poll response)

/-- The host took the assignment over, and its runner has taken these turns since. -/
def Worked (history : List (FleetTransition Host)) (host : Host) (assignment : AgentAssignment)
    (turns : List RunnerEvent) : Prop :=
  ∃ before t after, history = before ++ t :: after ∧ TakesOver before t host assignment ∧
    turnsOf host assignment.jobId after = turns

/-- The runner of the assignment has ended with the result. -/
def Returned (platform : Platform) (history : List (FleetTransition Host)) (host : Host)
    (assignment : AgentAssignment) (turns : List RunnerEvent) (body : ResultBody) : Prop :=
  Verdict platform assignment turns body ∧
    ∃ earlier, earlier <+: history ∧ Worked earlier host assignment turns

/-- The result is that of a runner. -/
def Reported (platform : Platform) (history : List (FleetTransition Host))
    (request : ResultRequest) : Prop :=
  ∃ host assignment turns, request.id = assignment.jobId ∧
    request.leaseId = some assignment.leaseId ∧
      Returned platform history host assignment turns request.body

/-- The job is where the turns of its runner have taken it. -/
structure Tracked (platform : Platform) (history : List (FleetTransition Host)) (host : Host)
    (state : JobState) : Prop where
  running : state.report = none → ∃ turns, Worked history host state.assignment turns ∧
    Script platform state.assignment state.phase turns
  returned : ∀ body, state.report.map Report.body = some body →
    ∃ turns, Returned platform history host state.assignment turns body

/-- Every agent can account for what it does and has sent. -/
structure Accountable (platform : Platform) (history : List (FleetTransition Host))
    (fleet : Fleet Host) : Prop where
  jobs : ∀ host id state, (fleet.agents host).jobs.get? id = some state →
    Tracked platform history host state
  answers : ∀ host reply, (fleet.agents host).polling = some (.answered reply) →
    ∃ u ∈ history, u.reply = .gateway reply
  sent : ∀ request ∈ fleet.sent, Reported platform history request

section History

variable {history later : List (FleetTransition Host)} {host : Host}
  {assignment : AgentAssignment} {turns : List RunnerEvent} {body : ResultBody}

theorem Worked.snoc (worked : Worked history host assignment turns) (t : FleetTransition Host) :
    Worked (history ++ [t]) host assignment
      (turns ++ (turnOf host assignment.jobId t).toList) := by
  obtain ⟨before, u, after, rfl, takes, rfl⟩ := worked
  refine ⟨before, u, after ++ [t], by simp, takes, ?_⟩
  rw [turnsOf, turnsOf, List.filterMap_append]
  cases turn : turnOf host assignment.jobId t <;> simp [turn]

theorem Worked.idle (worked : Worked history host assignment turns)
    (idle : turnOf host assignment.jobId t = none) :
    Worked (history ++ [t]) host assignment turns := by
  simpa [idle] using worked.snoc t

theorem Worked.turn {event : RunnerEvent} (worked : Worked history host assignment turns)
    (turn : turnOf host assignment.jobId t = some event) :
    Worked (history ++ [t]) host assignment (turns ++ [event]) := by
  simpa [turn] using worked.snoc t

theorem worked_of_takes (takes : TakesOver history t host assignment) :
    Worked (history ++ [t]) host assignment [] :=
  ⟨history, t, [], rfl, takes, rfl⟩

theorem Returned.append (returned : Returned platform history host assignment turns body) :
    Returned platform (history ++ later) host assignment turns body := by
  obtain ⟨verdict, earlier, before, worked⟩ := returned
  exact ⟨verdict, earlier, before.trans (List.prefix_append _ _), worked⟩

theorem Reported.append {request : ResultRequest} (reported : Reported platform history request) :
    Reported platform (history ++ later) request := by
  obtain ⟨host, assignment, turns, named, under, returned⟩ := reported
  exact ⟨host, assignment, turns, named, under, returned.append⟩

end History

section Step

variable {history : List (FleetTransition Host)}
  (fires : (fleet platform prepare config agentConfig).Fires t)
  (accountable : Accountable platform history t.pre)

include fires accountable

theorem tracked_step {host : Host} {id : String} {state' : JobState}
    (found' : (t.post.agents host).jobs.get? id = some state') :
    Tracked platform (history ++ [t]) host state' := by
  have named : state'.jobId = id := Table.key_of_get? found'
  cases jobOrigin fires found' with
  | @kept state found alike idle =>
    have tracked := accountable.jobs host id state found
    constructor
    · intro running
      have silent : state.report = none := by
        simpa [running] using alike.body.symm
      obtain ⟨turns, worked, script⟩ := tracked.running silent
      rw [alike.assignment, alike.phase]
      refine ⟨turns, worked.idle ?_, script⟩
      rw [← alike.assignment, show state'.assignment.jobId = id from named]
      exact idle silent
    · intro body reported
      rw [alike.body] at reported
      obtain ⟨turns, returned⟩ := tracked.returned body reported
      rw [alike.assignment]
      exact ⟨turns, returned.append⟩
  | started receives starts =>
    obtain ⟨response, started, raw, received, reply, member, rfl⟩ := starts
    have takes : TakesOver history t host (.fromPayload raw) := ⟨receives, response, started, raw,
      reply, member, rfl, accountable.answers host _ received⟩
    refine ⟨fun _ => ⟨[], worked_of_takes takes, .starting⟩, ?_⟩
    intro body reported
    cases reported
  | @continued state event phase progress upstreamId found running turn continues after =>
    subst after
    obtain ⟨turns, worked, script⟩ := (accountable.jobs host id state found).running running
    rw [← named] at turn
    have script' : Script platform state.assignment phase (turns ++ [event]) :=
      script_advance script continues
    constructor
    · exact fun _ => ⟨turns ++ [event], worked.turn turn, script'⟩
    · intro body reported
      rw [JobState.working, running] at reported
      cases reported
  | @returned state event body found running turn returns after =>
    subst after
    obtain ⟨turns, worked, script⟩ := (accountable.jobs host id state found).running running
    rw [← named] at turn
    constructor
    · intro silent
      cases silent
    · intro body' reported
      obtain rfl : body = body' := Option.some.inj reported
      exact ⟨turns ++ [event], verdict_of_returns script returns, _, List.prefix_rfl,
        worked.turn turn⟩

theorem reported_step {request : ResultRequest} (member : request ∈ t.post.sent) :
    Reported platform (history ++ [t]) request := by
  rcases (mem_sent fires request).mp member with earlier | reply
  · exact (accountable.sent request earlier).append
  · obtain ⟨host, state, report, found, held, rfl⟩ := reporter fires reply
    obtain ⟨turns, returned⟩ := (accountable.jobs host _ state found).returned report.body
      (by rw [held]; rfl)
    exact ⟨host, state.assignment, turns, rfl, rfl, returned.append⟩

theorem accountable_step : Accountable platform (history ++ [t]) t.post where
  jobs _ _ _ found' := tracked_step fires accountable found'
  answers host reply answered := by
    rcases answer_origin fires answered with before | now
    · obtain ⟨u, member, given⟩ := accountable.answers host reply before
      exact ⟨u, List.mem_append_left _ member, given⟩
    · exact ⟨t, by simp, now⟩
  sent _ member := reported_step fires accountable member

end Step

theorem accountable_of_run {trace : List (FleetTransition Host)} {final : Fleet Host}
    (run : (fleet platform prepare config agentConfig).Run
      (fleet platform prepare config agentConfig).initial trace final) :
    Accountable platform trace final := by
  refine run.history ?_ fun _ _ _ fires accountable => accountable_step fires accountable
  constructor
  · intro host id state found
    cases found
  · intro host reply answered
    cases answered
  · intro request member
    cases member

/-! ### The rows of the gateway -/

/-- The clip as the row of its job shows it. -/
def clip (platform : Platform) (media : Bytes) : Artifact where
  mediaType := "video/mp4"
  filename := outputName
  bytes := some media.length
  sha256 := some (platform.sha256 media)

theorem artifact_completedResult (platform : Platform) (media : Bytes) :
    (completedResult platform media).artifact = some (clip platform media) := by
  have named : (completedResult platform media).filename ≠ .undefined := nofun
  have digest : (completedResult platform media).sha256.str = some (platform.sha256 media) :=
    if_neg (platform.sha256_ne_empty media)
  have safe : safeFilename (completedResult platform media).filename = some outputName :=
    safeFilename_output
  unfold ResultBody.artifact
  rw [if_neg named]
  dsimp only
  rw [safe, digest]
  rfl

/-- The result a runner has returned is taken up while the job is held under its lease, and
settles the job. -/
structure TakesUp (platform : Platform) (before : List (FleetTransition Host))
    (t : FleetTransition Host) (id : String) (outcome : VideoStatus) (turns : List RunnerEvent)
    (body : ResultBody) : Prop where
  returned : ∃ host assignment row, assignment.jobId = id ∧
    Returned platform before host assignment turns body ∧
      t.pre.gateway.store.get id = some row ∧ row.holds assignment.leaseId = true
  settles : ∃ row, t.post.gateway.store.get id = some row ∧ row.state = outcome

def TookUp (platform : Platform) (history : List (FleetTransition Host)) (id : String)
    (outcome : VideoStatus) (turns : List RunnerEvent) (body : ResultBody) : Prop :=
  ∃ before t after, history = before ++ t :: after ∧
    TakesUp platform before t id outcome turns body

/-- The clip was delivered: its runner took every turn up to it, and its result settled the job. -/
def ClipDelivered (platform : Platform) (history : List (FleetTransition Host)) (id : String)
    (media : Bytes) : Prop :=
  ∃ data upstreamId polls, TookUp platform history id .completed
    (generation data upstreamId polls ++ [.generated, .downloaded, .uploaded media])
    (completedResult platform media)

/-- The step is one of a cleanup that expires the media of the job. -/
def Expires (t : FleetTransition Host) (id : String) : Prop :=
  ∃ token event task rest, t.action = .gateway (.advance token event) ∧
    t.pre.gateway.tasks.lookup token = some (.cleanup task) ∧ task.stage = .expired id rest

/-- The row of a job shows the clip that was delivered for it, until it expires. -/
inductive Shows (platform : Platform) (history : List (FleetTransition Host)) (id : String)
    (media : Bytes) (artifacts : List Artifact) : Prop where
  | kept (delivered : ClipDelivered platform history id media)
      (shown : artifacts = [clip platform media])
  | expired {before after : List (FleetTransition Host)} {t : FleetTransition Host}
      (split : history = before ++ t :: after) (delivered : ClipDelivered platform before id media)
      (expires : Expires t id) (nothing : artifacts = [])

/-- The state of the row has its reason in the history. -/
inductive Earned (platform : Platform) (config : Config) (history : List (FleetTransition Host))
    (id : String) (job : Job) : Prop where
  | unsettled (state : job.state ≠ .completed ∧ job.state ≠ .failed)
  | delivered {media : Bytes} (completed : job.state = .completed)
      (shows : Shows platform history id media job.artifacts)
  | reported {turns : List RunnerEvent} {message : String} {retryable : Bool}
      (failed : job.state = .failed)
      (tookUp : TookUp platform history id .failed turns (failedResult message retryable))
      (error : job.error = some (failedResult message retryable).message)
      (final : retryable = true → config.maxAttempts ≤ job.attempts)
  | lost (failed : job.state = .failed) (error : job.error = some (podLost job.attempts))
      (exhausted : config.maxAttempts ≤ job.attempts)
  | overdue {finishedAt : Millis} (failed : job.state = .failed)
      (finished : job.finishedAt = some finishedAt)
      (error : job.error = some (deadlineDetail job finishedAt))
      (late : job.deadlineAt < finishedAt)

section Rows

variable {history : List (FleetTransition Host)} {id : String} {job : Job}

theorem TookUp.append {outcome : VideoStatus} {turns : List RunnerEvent} {body : ResultBody}
    (tookUp : TookUp platform history id outcome turns body)
    (later : List (FleetTransition Host)) :
    TookUp platform (history ++ later) id outcome turns body := by
  obtain ⟨before, t, after, rfl, takes⟩ := tookUp
  exact ⟨before, t, after ++ later, by simp, takes⟩

theorem ClipDelivered.append {media : Bytes} (delivered : ClipDelivered platform history id media)
    (later : List (FleetTransition Host)) : ClipDelivered platform (history ++ later) id media := by
  obtain ⟨data, upstreamId, polls, tookUp⟩ := delivered
  exact ⟨data, upstreamId, polls, tookUp.append later⟩

theorem Shows.append {media : Bytes} {artifacts : List Artifact}
    (shows : Shows platform history id media artifacts) (later : List (FleetTransition Host)) :
    Shows platform (history ++ later) id media artifacts := by
  cases shows with
  | kept delivered shown => exact .kept (delivered.append later) shown
  | @expired before after t split delivered expires nothing =>
    have split : history ++ later = before ++ t :: (after ++ later) := by
      rw [split, List.append_assoc, List.cons_append]
    exact .expired split delivered expires nothing

theorem Shows.delivered {media : Bytes} {artifacts : List Artifact}
    (shows : Shows platform history id media artifacts) : ClipDelivered platform history id media := by
  cases shows with
  | kept delivered => exact delivered
  | expired split delivered =>
    rw [split]
    exact delivered.append _

theorem Earned.append (earned : Earned platform config history id job)
    (later : List (FleetTransition Host)) : Earned platform config (history ++ later) id job := by
  cases earned with
  | unsettled state => exact .unsettled state
  | delivered completed shows => exact .delivered completed (shows.append later)
  | reported failed tookUp error final => exact .reported failed (tookUp.append later) error final
  | lost failed error exhausted => exact .lost failed error exhausted
  | overdue failed finished error late => exact .overdue failed finished error late

theorem earned_of_inProgress (inProgress : job.state = .inProgress) :
    Earned platform config history id job :=
  .unsettled (by rw [inProgress]; exact ⟨nofun, nofun⟩)

/-- Only a result completes a job. -/
theorem completed_of_touch {u : GatewayTransition} (unreported : u.action.isResult = false)
    {job' : Job} (touch : Touch platform config u job job') (completed : job'.state = .completed) :
    job.state = .completed := by
  cases touch with
  | completed reports | acknowledged reports | retried reports | failed reports =>
    obtain ⟨request, action, -⟩ := reports.action
    rw [action] at unreported
    cases unreported
  | renewed | flagged | recovered | cleared | mediaExpired => exact completed
  | claimed | expired | forced | cancelled | lost | overdue => cases completed

/-- What is no result gives a row another state only where the reaper gives the job up. -/
theorem earned_touch {u : GatewayTransition} (unreported : u.action.isResult = false)
    (expires : ∀ {id}, ExpiresMedia u id → Expires t id) {job' : Job}
    (touch : Touch platform config u job job')
    (delivered : job.state = .completed → ∃ media, ClipDelivered platform history job.id media)
    (earned : Earned platform config (history ++ [t]) job.id job) :
    Earned platform config (history ++ [t]) job.id job' := by
  cases touch with
  | completed reports | acknowledged reports | retried reports | failed reports =>
    obtain ⟨request, action, -⟩ := reports.action
    rw [action] at unreported
    cases unreported
  | renewed _ _ _ _ holds => exact earned_of_inProgress (holds_iff.mp holds).1
  | flagged _ inFlight | recovered _ inFlight => exact earned_of_inProgress inFlight
  | claimed | expired | forced | cancelled => exact .unsettled ⟨nofun, nofun⟩
  | lost _ _ exhausted => exact .lost rfl rfl exhausted
  | overdue _ overdue =>
    exact .overdue rfl rfl rfl (of_decide_eq_true (Bool.and_eq_true_iff.mp overdue).2)
  | cleared =>
    cases earned with
    | unsettled state => exact .unsettled state
    | delivered completed shows => exact .delivered completed shows
    | reported failed tookUp error final => exact .reported failed tookUp error final
    | lost failed error exhausted => exact .lost failed error exhausted
    | overdue failed finished error late => exact .overdue failed finished error late
  | mediaExpired action running stage =>
    cases earned with
    | unsettled state => exact .unsettled state
    | delivered completed =>
      obtain ⟨media, delivered⟩ := delivered completed
      exact .delivered completed
        (.expired rfl delivered (expires ⟨_, _, _, _, action, running, stage⟩) rfl)
    | reported failed tookUp error final => exact .reported failed tookUp error final
    | lost failed error exhausted => exact .lost failed error exhausted
    | overdue failed finished error late => exact .overdue failed finished error late

/-- A result that is taken up settles its job for the reason it gives. -/
theorem earned_taken {request : ResultRequest} {lease : String} {now : Millis}
    {statement : Update} {outcome : Option Outcome} (reported : Reported platform history request)
    (under : request.leaseId = some lease) (found : t.pre.gateway.store.get request.id = some job)
    (holds : job.holds lease = true)
    (taken : TakenUp config.maxAttempts job lease now request.body statement outcome)
    (found' : t.post.gateway.store.get request.id = some (statement.assign job)) :
    Earned platform config (history ++ [t]) request.id (statement.assign job) := by
  obtain ⟨host, assignment, turns, named, own, returned⟩ := reported
  cases under.symm.trans own
  have takes {state : VideoStatus} (settled : (statement.assign job).state = state) :
      TookUp platform (history ++ [t]) request.id state turns request.body :=
    ⟨history, t, [], rfl, ⟨host, assignment, job, named.symm, returned, found, holds⟩,
      _, found', settled⟩
  obtain ⟨verdict, -⟩ := returned
  generalize request.body = body at taken verdict takes
  cases taken with
  | completes completed records =>
    cases verdict with
    | @completed data id polls media checks =>
      rw [artifact_completedResult] at records
      obtain rfl := Option.some.inj records
      exact .delivered rfl (.kept ⟨data, id, polls, takes rfl⟩ rfl)
    | corrupted | refused | crashed => simp at completed
    | dropped | interrupted => simp [cancelledResult] at completed
  | acknowledges | returns => exact .unsettled ⟨nofun, nofun⟩
  | fails reports final =>
    cases verdict with
    | completed => exact absurd rfl reports.completed
    | dropped | interrupted => exact absurd rfl reports.cancelled
    | corrupted => exact .reported rfl (takes rfl) rfl fun _ => final rfl
    | refused => exact .reported rfl (takes rfl) rfl fun retryable => final (retryable ▸ rfl)
    | crashed => exact .reported rfl (takes rfl) rfl fun _ => final rfl

end Rows

/-- In every state of the run, completed and failed jobs are what they are for a reason. -/
def AllEarned (run : FleetRun platform prepare config agentConfig) : Prop :=
  ∀ before t after, run.trace = before ++ t :: after → ∀ id job,
    t.post.gateway.store.get id = some job → Earned platform config (before ++ [t]) id job

theorem reported_of_sends {history : List (FleetTransition Host)} {fleet : Fleet Host}
    (honest : HonestFleet platform history fleet)
    (accountable : Accountable platform history fleet) {request : ResultRequest}
    (sends : fleet.Sends request) : Reported platform history request := by
  rcases sends with logged | ⟨host, id, state, report, found, held, sent⟩
  · exact accountable.sent request logged
  · exact accountable.sent request
      (((honest.agents host).runners id state found).sends report request held sent)

section Step

variable {history : List (FleetTransition Host)}
  (fires : (fleet platform prepare config agentConfig).Fires t)
  (honest : HonestFleet platform history t.pre)
  (accountable : Accountable platform history t.pre)
  (earned : ∀ id job, t.pre.gateway.store.get id = some job →
    Earned platform config history id job)

include earned

theorem earned_other {u : GatewayTransition} (stepped : (gateway platform prepare config).Fires u)
    (pre : u.pre = t.pre.gateway) (unreported : u.action.isResult = false)
    (expires : ∀ {id}, ExpiresMedia u id → Expires t id) {id : String}
    {job' : Job} (found' : u.post.store.get id = some job') :
    Earned platform config (history ++ [t]) id job' := by
  have change := rowChange stepped id
  rw [found'] at change
  generalize before : u.pre.store.get id = row at change
  cases change with
  | created => exact .unsettled ⟨nofun, nofun⟩
  | @touched job _ touches =>
    obtain rfl : job.id = id := JobStore.id_of_get before
    rw [pre] at before
    have start := earned job.id job before
    have delivered (completed : job.state = .completed) :
        ∃ media, ClipDelivered platform history job.id media := by
      cases start with
      | unsettled state => exact absurd completed state.1
      | delivered _ shows => exact ⟨_, shows.delivered⟩
      | reported failed | lost failed | overdue failed => cases completed.symm.trans failed
    clear found'
    have both : (job'.state = .completed → job.state = .completed) ∧
        Earned platform config (history ++ [t]) job.id job' := by
      induction touches with
      | refl => exact ⟨id, start.append [t]⟩
      | @tail middle last touches touch inductionHypothesis =>
        obtain ⟨backwards, earned⟩ := inductionHypothesis
        have same : middle.id = job.id := (fixed_touches touches).1
        have completes := completed_of_touch unreported touch
        rw [← same] at earned delivered ⊢
        exact ⟨fun completed => backwards (completes completed),
          earned_touch unreported expires touch (fun completed => delivered (backwards completed))
            earned⟩
    exact both.2

include honest accountable

theorem earned_result {u : GatewayTransition} (stepped : (gateway platform prepare config).Fires u)
    (pre : u.pre = t.pre.gateway) (post : u.post = t.post.gateway) {request : ResultRequest}
    (action : u.action = .result request) (sends : t.pre.Sends request) {id : String} {job' : Job}
    (found' : u.post.store.get id = some job') :
    Earned platform config (history ++ [t]) id job' := by
  have performed : u.post = (u.pre.result config request).2 := by
    have steps : u.pre.step platform prepare config u.action = some (u.reply, u.post) := stepped
    rw [action] at steps
    exact (congrArg Prod.snd (Option.some.inj steps)).symm
  have sound : u.pre.Sound platform := pre ▸ honest.sound
  rcases result_cases config sound request with
    ⟨store, -⟩ | ⟨job, lease, statement, outcome, found, under, holds, given, taken, store, -⟩
  · rw [performed, store, pre] at found'
    exact (earned id job' found').append [t]
  · have after := found'
    rw [performed, store] at after
    by_cases own : id = request.id
    · subst own
      rw [JobStore.get_execute_self _ found, Update.run, if_pos (taken.applies given holds)] at after
      obtain rfl := Option.some.inj after
      rw [pre] at found
      rw [post] at found'
      exact earned_taken (reported_of_sends honest accountable sends) under found holds taken found'
    · rw [JobStore.get_execute_of_ne _ own, pre] at after
      exact (earned id job' after).append [t]

include fires

theorem earned_step {id : String} {job' : Job}
    (found' : t.post.gateway.store.get id = some job') :
    Earned platform config (history ++ [t]) id job' := by
  cases gatewayPart fires with
  | same gateway =>
    rw [gateway] at found'
    exact (earned id job' found').append [t]
  | @stepped u stepped pre post _ results advances =>
    rw [← post] at found'
    cases reported : u.action.isResult with
    | false =>
      refine earned_other earned stepped pre reported ?_ found'
      rintro id ⟨token, event, task, rest, action, running, stage⟩
      exact ⟨token, event, task, rest, advances token event action, pre ▸ running, stage⟩
    | true =>
      obtain ⟨request, action⟩ : ∃ request, u.action = .result request := by
        unfold Action.isResult at reported
        split at reported
        · exact ⟨_, by assumption⟩
        · cases reported
      exact earned_result honest accountable earned stepped pre post action
        (results request action) found'

end Step

theorem earned_of_run {trace : List (FleetTransition Host)} {final : Fleet Host}
    (run : (fleet platform prepare config agentConfig).Run
      (fleet platform prepare config agentConfig).initial trace final) :
    ∀ id job, final.gateway.store.get id = some job → Earned platform config trace id job := by
  apply run.history (P := fun trace state => ∀ id job,
    state.gateway.store.get id = some job → Earned platform config trace id job)
  · intro id job found
    cases found
  · intro before t earlier fires earned id job found
    exact earned_step fires (honest_of_run earlier) (accountable_of_run earlier) earned found

/-- A completed job was completed by the runner of an agent it was handed to, under its lease and
after every turn from the input to the clip; a job failed at the word of such a runner, or the
reaper had the reason it gives. -/
theorem verdicts_earned (platform : Platform) (prepare : Prepare) (config : Config)
    (agentConfig : Host → AgentConfig) (run : FleetRun platform prepare config agentConfig) :
    AllEarned run := by
  intro before t after split
  have whole := run.run
  rw [split] at whole
  obtain ⟨earlier, fires, -⟩ := whole.split
  exact earned_of_run (earlier.snoc fires)

def sampleScript : List RunnerEvent :=
  generation [] "vid" 1 ++ [.generated, .downloaded, .uploaded [9]]

/-- The sample agent takes the job over and gets through all its turns. -/
def sampleEarned : List (FleetAction Unit) :=
  [.agent () (.cycle true), .agent () (.pollArrives "session"),
    .gateway (.createVideo sampleVideo), .gateway (.advance 1 .proceed),
    .gateway (.advance 1 .proceed), .gateway (.advance 1 .proceed), .gateway (.resumePoll 0),
    .agent () .receive] ++ sampleScript.map (FleetAction.runner () "v") ++
  [.agent () (.report "v"), .agent () (.reportArrives "v")]

example : ((fleet .counting sampleDigest .default fun _ : Unit => sampleAgent).exec
    Fleet.initial sampleEarned).any (fun (_, final) =>
      (final.gateway.store.get "v").any fun job =>
        job.state == .completed && job.artifacts == [clip .counting [9]]) = true := by
  decide +kernel

end InferenceGateway
