import InferenceGateway.Agent.Session
import InferenceGateway.Runs.Effects

/-!
# What every step of a session comes to

`AgentChange` has one constructor for each way a step can end, with what it did
to the gateway and to the agent; `agentChange` inverts a step into one of them.
-/

namespace InferenceGateway

open Library

variable {platform : Platform} {prepare : Prepare} {config : Config} {agentConfig : AgentConfig}

/-! ### Answers -/

/-- A handler that runs on keeps its token, and only a parked poll is answered like one. -/
theorem reply_of_resumes {t : GatewayTransition}
    (fires : (gateway platform prepare config).Fires t) {token : Nat}
    (resumes : t.action.resumes token = true) :
    (∀ other, t.reply = .pending other → other = token) ∧
      ∀ response, t.reply = .poll response → t.action = .resumePoll token := by
  obtain ⟨pre, action, reply, post⟩ := t
  have effect : Effect platform config pre action reply post := effect fires
  cases effect with
  | woken | released =>
    obtain rfl := of_decide_eq_true resumes
    exact ⟨nofun, fun _ _ => rfl⟩
  | making | writing | streaming | removed | cleaning =>
    obtain rfl := of_decide_eq_true resumes
    exact ⟨fun _ same => (Reply.pending.inj same).symm, nofun⟩
  | uncreated | created | dropped | stored | finished | cleaned => exact ⟨nofun, nofun⟩
  | _ => cases resumes

/-! ### One step of the session -/

variable {t : SessionTransition}

inductive AgentChange (platform : Platform) (prepare : Prepare) (config : Config)
    (agentConfig : AgentConfig) (t : SessionTransition) : Prop where
  | routed {action : Action} {answer : Reply} (performs : t.action = .gateway action)
      (performed : t.pre.gateway.step platform prepare config action =
        some (answer, t.post.gateway))
      (reply : t.reply = .gateway answer) (agent : t.post.agent = t.pre.routed action answer)
  | polls (ready : Bool) (gateway : t.post.gateway = t.pre.gateway)
      (reply : t.reply = .polls (t.pre.agent.pollBody agentConfig ready))
      (agent : t.post.agent = { t.pre.agent with
        sglangReady := ready
        polling := some (.sent (t.pre.agent.pollBody agentConfig ready)) })
  | arrives {body : PollBody} {sessionId : String} {answer : Reply}
      (sent : t.pre.agent.polling = some (.sent body))
      (performed : t.pre.gateway.poll platform config body sessionId = (answer, t.post.gateway))
      (reply : t.reply = .gateway answer)
      (agent : t.post.agent = { t.pre.agent with polling := some (.taken answer) })
  | idles (gateway : t.post.gateway = t.pre.gateway) (reply : t.reply = .silent)
      (agent : t.post.agent = { t.pre.agent with polling := none })
  | processes {response : PollResponse} (gateway : t.post.gateway = t.pre.gateway)
      (received : t.pre.agent.polling = some (.answered (.poll response)))
      (reply : t.reply =
        .processed response ({ t.pre.agent with polling := none }.process response).1)
      (agent : t.post.agent = ({ t.pre.agent with polling := none }.process response).2)
  | works {jobId phase : String} {progress : ℚ} {upstreamId : Option String}
      (gateway : t.post.gateway = t.pre.gateway) (reply : t.reply = .silent)
      (agent : t.post.agent = t.pre.agent.modify jobId
        (JobState.working phase progress upstreamId) (JobState.working_jobId _ _ _))
  | finishes {state : JobState} {body : ResultBody} (finishes : t.action = .finish state.jobId body)
      (found : t.pre.agent.jobs.get? state.jobId = some state)
      (gateway : t.post.gateway = t.pre.gateway) (reply : t.reply = .silent)
      (agent : t.post.agent = t.pre.agent.modify state.jobId
        (JobState.reporting ⟨body, 1, none⟩) (JobState.reporting_jobId _))
  | posts {state : JobState} {report : Report}
      (found : t.pre.agent.jobs.get? state.jobId = some state) (held : state.report = some report)
      (gateway : t.post.gateway = t.pre.gateway)
      (reply : t.reply = .reports (state.resultRequest report.body))
      (agent : t.post.agent = t.pre.agent.modify state.jobId
        (JobState.reporting
          { report with exchange := some (.sent (state.resultRequest report.body)) })
        (JobState.reporting_jobId _))
  | delivers {state : JobState} {report : Report} {request : ResultRequest} {answer : Reply}
      (found : t.pre.agent.jobs.get? state.jobId = some state) (held : state.report = some report)
      (sent : report.exchange = some (.sent request))
      (performed : t.pre.gateway.result config request = (answer, t.post.gateway))
      (reply : t.reply = .gateway answer)
      (agent : t.post.agent = t.pre.agent.modify state.jobId
        (JobState.reporting { report with exchange := some (.taken answer) })
        (JobState.reporting_jobId _))
  | retries {state : JobState} {report : Report} (attempt : Nat)
      (found : t.pre.agent.jobs.get? state.jobId = some state) (held : state.report = some report)
      (gateway : t.post.gateway = t.pre.gateway) (reply : t.reply = .silent)
      (agent : t.post.agent = t.pre.agent.modify state.jobId
        (JobState.reporting { report with attempt := attempt, exchange := none })
        (JobState.reporting_jobId _))
  | ends (jobId : String) (gateway : t.post.gateway = t.pre.gateway)
      (reply : t.reply = .ended jobId) (agent : t.post.agent = t.pre.agent.drop jobId)
  | stops (gateway : t.post.gateway = t.pre.gateway) (reply : t.reply = .silent)
      (agent : t.post.agent = { t.pre.agent with stopping := true })

theorem reportOf_eq_some {session : Session} {jobId : String} {state : JobState}
    {report : Report} (held : session.reportOf jobId = some (state, report)) :
    state.jobId = jobId ∧ session.agent.jobs.get? state.jobId = some state ∧
      state.report = some report := by
  obtain ⟨state', found, rest⟩ := Option.bind_eq_some_iff.mp held
  obtain ⟨report', reported, same⟩ := Option.map_eq_some_iff.mp rest
  cases same
  have named : state.jobId = jobId := Table.key_of_get? found
  exact ⟨named, named ▸ found, reported⟩

/-- A delivery that failed is tried again, or the runner ends. -/
theorem agentChange_retry {pre post : Session} {action : SessionAction} {reply : SessionReply}
    {state : JobState} {report : Report}
    (found : pre.agent.jobs.get? state.jobId = some state) (held : state.report = some report)
    (same : pre.retry state.jobId ⟨report.body, report.attempt, none⟩ = (reply, post)) :
    AgentChange platform prepare config agentConfig ⟨pre, action, reply, post⟩ := by
  unfold Session.retry at same
  split at same
  · cases same
    exact .retries (report.attempt + 1) found held rfl rfl rfl
  · cases same
    exact .ends state.jobId rfl rfl rfl

theorem agentChange (fires : (session platform prepare config agentConfig).Fires t) :
    AgentChange platform prepare config agentConfig t := by
  obtain ⟨pre, action, reply, post⟩ := t
  have stepped : pre.step platform prepare config agentConfig action = some (reply, post) := fires
  clear fires
  cases action with
  | gateway action =>
    simp only [Session.step] at stepped
    obtain ⟨⟨answer, gateway⟩, performed, same⟩ := Option.map_eq_some_iff.mp stepped
    cases same
    exact .routed rfl performed rfl rfl
  | cycle ready =>
    simp only [Session.step] at stepped
    split at stepped <;> cases stepped
    exact .polls ready rfl rfl rfl
  | pollArrives sessionId =>
    simp only [Session.step] at stepped
    split at stepped <;> cases stepped
    next sent => exact .arrives sent rfl rfl rfl
  | pollFails =>
    simp only [Session.step] at stepped
    split at stepped <;> cases stepped
    exact .idles rfl rfl rfl
  | receive =>
    simp only [Session.step] at stepped
    split at stepped
    · next response received =>
      cases stepped
      exact .processes rfl received rfl rfl
    · cases stepped
      exact .idles rfl rfl rfl
    · cases stepped
  | work jobId phase progress upstreamId =>
    simp only [Session.step] at stepped
    split at stepped <;> cases stepped
    exact .works rfl rfl rfl
  | finish jobId body =>
    simp only [Session.step] at stepped
    split at stepped <;> cases stepped
    next found =>
      obtain rfl := Table.key_of_get? found
      exact .finishes rfl found rfl rfl rfl
  | abandon jobId =>
    simp only [Session.step] at stepped
    split at stepped <;> cases stepped
    exact .ends jobId rfl rfl rfl
  | report jobId =>
    simp only [Session.step] at stepped
    split at stepped
    · next held =>
      cases stepped
      obtain ⟨rfl, found, reported⟩ := reportOf_eq_some held
      exact .posts found reported rfl rfl rfl
    · cases stepped
  | reportArrives jobId =>
    simp only [Session.step] at stepped
    split at stepped
    · next held =>
      cases stepped
      obtain ⟨rfl, found, reported⟩ := reportOf_eq_some held
      exact .delivers found reported rfl rfl rfl rfl
    · cases stepped
  | reportFails jobId =>
    simp only [Session.step] at stepped
    split at stepped
    · next held =>
      obtain ⟨rfl, found, reported⟩ := reportOf_eq_some held
      exact agentChange_retry found reported (Option.some.inj stepped)
    · cases stepped
  | reported jobId =>
    simp only [Session.step] at stepped
    split at stepped
    · next held =>
      obtain ⟨rfl, found, reported⟩ := reportOf_eq_some held
      split at stepped
      · cases stepped
        exact .ends _ rfl rfl rfl
      · split at stepped
        · cases stepped
          exact .ends _ rfl rfl rfl
        · exact agentChange_retry found reported (Option.some.inj stepped)
    · cases stepped
  | stop =>
    cases stepped
    exact .stops rfl rfl rfl

end InferenceGateway
