import InferenceGateway.Runs.Sessions

/-!
# Assignments reach a runner

The agent keeps one runner for each job id.  An assignment whose job already
has a runner is taken for a duplicate, whatever lease it carries; every other
one gets a runner that works under exactly its lease until it ends.
-/

namespace InferenceGateway

open Library

variable {platform : Platform} {prepare : Prepare} {config : Config} {agentConfig : AgentConfig}
  {t : SessionTransition}

/-- The agent has a runner for the job under the lease. -/
def Agent.Runs (agent : Agent) (jobId leaseId : String) : Prop :=
  ∃ state, agent.jobs.get? jobId = some state ∧ state.assignment.leaseId = leaseId

/-- The poll lists the job under the lease. -/
def PollBody.Reports (body : PollBody) (jobId leaseId : String) : Prop :=
  ∃ item, some item ∈ body.inFlight.getD [] ∧ item.jobId = .string jobId ∧
    item.leaseId = .string leaseId

/-- Until the runner of the job ends, every poll lists the job under the lease and
every result of the job is sent under it. -/
def Serves (jobId leaseId : String) : List SessionTransition → Prop
  | [] => True
  | u :: rest =>
    (∀ body, u.reply = .polls body → body.Reports jobId leaseId) ∧
      (∀ request, u.reply = .reports request → request.id = jobId →
        request.leaseId = some leaseId) ∧
      (u.reply = .ended jobId ∨ Serves jobId leaseId rest)

/-! ### What the gateway assigns in one answer -/

theorem jobIds_assignments (state : Gateway) (pod : Pod) (slots : Nat) :
    ((state.claimFor platform config pod slots).assignments.map Assignment.jobId).Nodup := by
  rw [claimFor_eq]
  have ids : (assignAll platform (state.store.taken pod slots) state.leases).map _ = _ :=
    jobIds_assignAll state.leases (canRun_of_taken pod slots state.store)
  rw [ids]
  exact (queued_taken pod slots state.store).1

/-- No answer to a poll assigns a job twice. -/
def Reply.Distinct (reply : Reply) : Prop :=
  ∀ response, reply = .poll response → (response.assign.map Assignment.jobId).Nodup

theorem distinct_poll {state post : Gateway} {body : PollBody} {sessionId : String} {reply : Reply}
    (stepped : state.poll platform config body sessionId = (reply, post)) : reply.Distinct := by
  cases effect_poll stepped with
  | unnamed | threw | parked => exact nofun
  | answered =>
    intro response same
    cases same
    apply jobIds_assignments

theorem distinct_resumes {state post : Gateway} {action : Action} {reply : Reply} {token : Nat}
    (stepped : state.step platform prepare config action = some (reply, post))
    (resumes : action.resumes token = true) : reply.Distinct := by
  have effect : Effect platform config state action reply post :=
    effect (t := ⟨state, action, reply, post⟩) stepped
  cases effect with
  | woken =>
    intro response same
    cases same
    apply jobIds_assignments
  | released =>
    intro response same
    cases same
    exact List.nodup_nil
  | making | writing | uncreated | created | streaming | dropped | stored | removed | finished
  | cleaning | cleaned => exact nofun
  | _ => cases resumes

/-! ### The table of jobs -/

section Table

variable {agent : Agent} {jobId leaseId : String}

/-- A change of the table that leaves the assignments alone. -/
theorem Agent.Runs.update {f : JobState → JobState} (runs : agent.Runs jobId leaseId)
    (p : JobState → Bool) (keeps : ∀ state, (f state).jobId = state.jobId)
    (under : ∀ state, (f state).assignment = state.assignment) :
    { agent with jobs := agent.jobs.update p f keeps }.Runs jobId leaseId := by
  obtain ⟨state, found, lease⟩ := runs
  unfold Agent.Runs
  rw [Table.get?_update, found]
  by_cases selected : p state = true
  · exact ⟨f state, by simp [selected], by rw [under, lease]⟩
  · exact ⟨state, by simp [selected], lease⟩

theorem Agent.Runs.cancelJobs (runs : agent.Runs jobId leaseId) (ids : List String) :
    (agent.cancelJobs ids).Runs jobId leaseId :=
  runs.update _ _ fun _ => rfl

theorem Agent.Runs.drop {other : String} (runs : agent.Runs jobId leaseId)
    (different : jobId ≠ other) : (agent.drop other).Runs jobId leaseId := by
  obtain ⟨state, found, lease⟩ := runs
  have named : state.jobId = jobId := Table.key_of_get? found
  refine ⟨state, ?_, lease⟩
  rw [Agent.drop, Table.get?_delete, found]
  simp [Option.filter, named, different]

theorem Agent.get?_start (agent : Agent) (assignment : AgentAssignment) :
    (agent.jobs.get? assignment.jobId = none ∧
        (agent.start assignment).1 = some assignment ∧
        ∀ k, (agent.start assignment).2.jobs.get? k =
          if k = assignment.jobId then some (.starting assignment) else agent.jobs.get? k) ∨
      agent.jobs.get? assignment.jobId ≠ none ∧ agent.start assignment = (none, agent) := by
  unfold Agent.start
  split
  · next taken =>
    refine .inr ⟨fun absent => ?_, rfl⟩
    exact Table.get?_eq_none_iff.mp absent (Table.insert?_eq_none_iff.mp taken)
  · next jobs inserted =>
    refine .inl ⟨?_, rfl, fun k => Table.get?_insert? inserted k⟩
    rw [Table.get?_eq_none_iff]
    intro present
    cases inserted.symm.trans (Table.insert?_eq_none_iff.mpr present)

/-- Starting assignments leaves running jobs alone, and starts those whose job
has no runner. -/
theorem startAll_spec (raws : List Assignment) (agent : Agent) :
    (∀ k state, agent.jobs.get? k = some state →
        (agent.startAll raws).2.jobs.get? k = some state) ∧
      (∀ started ∈ (agent.startAll raws).1, agent.jobs.get? started.jobId = none ∧
        (agent.startAll raws).2.jobs.get? started.jobId = some (.starting started)) ∧
      ((raws.map Assignment.jobId).Nodup → ∀ raw ∈ raws,
        agent.jobs.get? raw.jobId = none →
          AgentAssignment.fromPayload raw ∈ (agent.startAll raws).1) := by
  induction raws generalizing agent with
  | nil =>
    refine ⟨fun k state found => found, ?_, ?_⟩
    · intro started member
      cases member
    · intro _ raw member
      cases member
  | cons first rest inductionHypothesis =>
    obtain ⟨kept, begun, starts⟩ :=
      inductionHypothesis (agent.start (.fromPayload first)).2
    rcases agent.get?_start (.fromPayload first) with
      ⟨absent, fresh, lookup⟩ | ⟨present, skipped⟩
    · have others {k : String} {state : JobState} (found : agent.jobs.get? k = some state) :
          (agent.start (.fromPayload first)).2.jobs.get? k = some state := by
        rw [lookup, if_neg, found]
        rintro rfl
        cases absent.symm.trans found
      simp only [Agent.startAll, fresh, Option.toList_some, List.singleton_append,
        List.mem_cons, forall_eq_or_imp, List.map_cons, List.nodup_cons]
      refine ⟨fun k state found => kept k state (others found), ⟨?_, fun started member => ?_⟩, ?_⟩
      · exact ⟨absent, kept _ _ (by rw [lookup, if_pos rfl])⟩
      · obtain ⟨unstarted, running⟩ := begun started member
        refine ⟨?_, running⟩
        rw [lookup] at unstarted
        split at unstarted
        · cases unstarted
        · exact unstarted
      · rintro ⟨unique, distinct⟩
        refine ⟨fun _ => .inl trivial, fun raw member unstarted => .inr ?_⟩
        apply starts distinct raw member
        rw [lookup, if_neg, unstarted]
        intro same
        apply unique
        rw [show first.jobId = raw.jobId from same.symm]
        exact List.mem_map_of_mem member
    · rw [skipped] at kept begun starts
      simp only [Agent.startAll, skipped, Option.toList_none, List.nil_append, List.mem_cons,
        forall_eq_or_imp, List.map_cons, List.nodup_cons]
      refine ⟨kept, begun, ?_⟩
      rintro ⟨-, distinct⟩
      refine ⟨fun unstarted => ?_, starts distinct⟩
      exact absurd unstarted present

/-- What runs after the assignments of a response are started ran before, or is one of them. -/
theorem origin_startAll {raws : List Assignment} {agent : Agent} {id : String} {state : JobState}
    (found : (agent.startAll raws).2.jobs.get? id = some state) :
    agent.jobs.get? id = some state ∨ ∃ raw ∈ raws, state = .starting (.fromPayload raw) := by
  induction raws generalizing agent with
  | nil => exact .inl found
  | cons first rest inductionHypothesis =>
    have later : ((agent.start (.fromPayload first)).2.startAll rest).2.jobs.get? id =
      some state := found
    rcases inductionHypothesis later with earlier | ⟨raw, member, started⟩
    · rcases agent.get?_start (.fromPayload first) with ⟨-, -, lookup⟩ | ⟨-, skipped⟩
      · rw [lookup] at earlier
        split at earlier
        · exact .inr ⟨first, .head _, (Option.some.inj earlier).symm⟩
        · exact .inl earlier
      · rw [skipped] at earlier
        exact .inl earlier
    · exact .inr ⟨raw, .tail _ member, started⟩

theorem origin_cancelJobs {ids : List String} {id : String} {state' : JobState}
    (found : (agent.cancelJobs ids).jobs.get? id = some state') :
    ∃ state, agent.jobs.get? id = some state ∧
      (state' = state ∨ id ∈ ids ∧ state' = state.cancel) := by
  rw [Agent.cancelJobs, Table.get?_update] at found
  obtain ⟨state, before, rfl⟩ := Option.map_eq_some_iff.mp found
  refine ⟨state, before, ?_⟩
  split
  · next told =>
    have named : state.jobId = id := Table.key_of_get? before
    exact .inr ⟨named ▸ of_decide_eq_true told, rfl⟩
  · exact .inl rfl

end Table

/-! ### One step of the session -/

/-- The answer the agent is about to receive assigns no job twice. -/
def Session.Distinct (session : Session) : Prop :=
  ∀ reply, session.agent.polling = some (.answered reply) → reply.Distinct

theorem distinct_taken {reply answer : Reply} (distinct : reply.Distinct)
    (taken : (Exchange.taken reply : Exchange PollBody) = .answered answer) : answer.Distinct := by
  unfold Exchange.taken at taken
  split at taken
  · cases taken
  · cases taken
    exact distinct

theorem distinct_route {action : Action} {reply answer : Reply} {exchange : Exchange PollBody}
    (before : exchange = .answered answer → answer.Distinct)
    (resumed : ∀ token, action.resumes token = true → reply.Distinct)
    (routed : exchange.route action reply = .answered answer) : answer.Distinct := by
  cases exchange with
  | sent request => cases routed
  | answered earlier =>
    cases routed
    exact before rfl
  | pending token =>
    simp only [Exchange.route] at routed
    split at routed
    · next resumes =>
      split at routed
      · cases routed
      · cases routed
        exact resumed token resumes
    · cases routed

theorem polling_startAll (raws : List Assignment) (agent : Agent) :
    (agent.startAll raws).2.polling = agent.polling := by
  induction raws generalizing agent with
  | nil => rfl
  | cons first rest inductionHypothesis =>
    have unchanged : (agent.start (.fromPayload first)).2.polling = agent.polling := by
      unfold Agent.start
      split <;> rfl
    exact (inductionHypothesis _).trans unchanged

theorem distinct_step (fires : (session platform prepare config agentConfig).Fires t)
    (distinct : t.pre.Distinct) : t.post.Distinct := by
  intro received polling
  cases agentChange fires with
  | routed _ performed _ agent =>
    rw [agent] at polling
    obtain ⟨exchange, earlier, routed⟩ := Option.map_eq_some_iff.mp polling
    apply distinct_route (fun same => distinct received (same ▸ earlier)) _ routed
    exact fun token resumes => distinct_resumes performed resumes
  | polls ready _ _ agent =>
    rw [agent] at polling
    cases Option.some.inj polling
  | arrives _ performed _ agent =>
    rw [agent] at polling
    exact distinct_taken (distinct_poll performed) (Option.some.inj polling)
  | idles _ _ agent =>
    rw [agent] at polling
    cases polling
  | processes _ _ _ agent =>
    rw [agent, Agent.process, polling_startAll] at polling
    cases polling
  | works _ _ agent | finishes _ _ _ _ agent | posts _ _ _ _ agent | delivers _ _ _ _ _ agent
  | retries _ _ _ _ _ agent | ends _ _ _ agent | stops _ _ agent =>
    rw [agent] at polling
    exact distinct received polling

/-- A runner keeps its lease until it ends. -/
theorem runs_step (fires : (session platform prepare config agentConfig).Fires t)
    {jobId leaseId : String} (runs : t.pre.agent.Runs jobId leaseId) :
    t.reply = .ended jobId ∨ t.post.agent.Runs jobId leaseId := by
  cases agentChange fires with
  | routed _ _ _ agent =>
    rw [agent]
    exact .inr (runs.update _ (JobState.routed_jobId _ _) fun _ => rfl)
  | polls _ _ _ agent | arrives _ _ _ agent | idles _ _ agent | stops _ _ agent =>
    rw [agent]
    exact .inr runs
  | @processes response _ _ _ agent =>
    have polled : { t.pre.agent with polling := none }.Runs jobId leaseId := runs
    obtain ⟨state, found, lease⟩ := (polled.cancelJobs response.orphan).cancelJobs response.cancel
    rw [agent]
    exact .inr ⟨state, (startAll_spec response.assign _).1 jobId state found, lease⟩
  | works _ _ agent =>
    rw [agent]
    exact .inr (runs.update _ (JobState.working_jobId _ _ _) fun _ => rfl)
  | finishes _ _ _ _ agent | posts _ _ _ _ agent | delivers _ _ _ _ _ agent
  | retries _ _ _ _ _ agent =>
    rw [agent]
    exact .inr (runs.update _ (JobState.reporting_jobId _) fun _ => rfl)
  | ends other _ reply agent =>
    by_cases here : jobId = other
    · exact .inl (here ▸ reply)
    · rw [agent]
      exact .inr (runs.drop here)

/-- A poll lists what has a runner. -/
theorem reports_of_runs {agent : Agent} {jobId leaseId : String}
    (runs : agent.Runs jobId leaseId) (ready : Bool) :
    (agent.pollBody agentConfig ready).Reports jobId leaseId := by
  obtain ⟨state, found, lease⟩ := runs
  refine ⟨state.inFlight, ?_, ?_, ?_⟩
  · exact List.mem_map_of_mem (Table.mem_of_get? found)
  · exact congrArg Value.string (Table.key_of_get? found)
  · exact congrArg Value.string lease

theorem reports_of_polls (fires : (session platform prepare config agentConfig).Fires t)
    {jobId leaseId : String} (runs : t.pre.agent.Runs jobId leaseId) {body : PollBody}
    (polls : t.reply = .polls body) : body.Reports jobId leaseId := by
  cases agentChange fires with
  | polls ready _ reply =>
    cases reply.symm.trans polls
    exact reports_of_runs runs ready
  | routed _ _ reply | arrives _ _ reply | idles _ reply | processes _ _ reply | works _ reply
  | finishes _ _ _ reply | posts _ _ _ reply | delivers _ _ _ _ reply | retries _ _ _ _ reply
  | ends _ _ reply | stops _ reply => cases reply.symm.trans polls

theorem leaseId_of_reports (fires : (session platform prepare config agentConfig).Fires t)
    {jobId leaseId : String} (runs : t.pre.agent.Runs jobId leaseId) {request : ResultRequest}
    (reports : t.reply = .reports request) (names : request.id = jobId) :
    request.leaseId = some leaseId := by
  cases agentChange fires with
  | @posts state report found _ _ reply =>
    cases reply.symm.trans reports
    obtain ⟨held, same, lease⟩ := runs
    have own : t.pre.agent.jobs.get? jobId = some state := by
      rw [← names]
      exact found
    cases own.symm.trans same
    exact congrArg some lease
  | routed _ _ reply | polls _ _ reply | arrives _ _ reply | idles _ reply | processes _ _ reply
  | works _ reply | finishes _ _ _ reply | delivers _ _ _ _ reply | retries _ _ _ _ reply
  | ends _ _ reply | stops _ reply => cases reply.symm.trans reports

/-- A runner serves its lease from any state of the session on. -/
theorem serves_of_runs {start final : Session} {trace : List SessionTransition}
    (run : (session platform prepare config agentConfig).Run start trace final)
    {jobId leaseId : String} (runs : start.agent.Runs jobId leaseId) :
    Serves jobId leaseId trace := by
  induction trace generalizing start with
  | nil => trivial
  | cons first rest inductionHypothesis =>
    obtain ⟨rfl, fires, later⟩ := run.cons_inv
    refine ⟨fun body => reports_of_polls fires runs, fun request => leaseId_of_reports fires runs, ?_⟩
    exact (runs_step fires runs).imp_right (inductionHypothesis later)

/-! ### Assignments of a whole run -/

/-- The agent has started a runner for the assignment, which serves its lease
in the steps that follow. -/
def Honoured (started : List AgentAssignment) (after : List SessionTransition)
    (assignment : Assignment) : Prop :=
  AgentAssignment.fromPayload assignment ∈ started ∧
    Serves assignment.jobId assignment.leaseId after

/-- Every assignment of every response the agent processes in the run is honoured. -/
def AssignmentsHonoured (run : SessionRun platform prepare config agentConfig) : Prop :=
  ∀ before t after response started, run.trace = before ++ t :: after →
    t.reply = .processed response started →
      ∀ assignment ∈ response.assign, Honoured started after assignment

theorem get?_cancelJobs (agent : Agent) (ids : List String) (jobId : String) :
    (agent.cancelJobs ids).jobs.get? jobId = none ↔ agent.jobs.get? jobId = none := by
  rw [Agent.cancelJobs, Table.get?_update, Option.map_eq_none_iff]

theorem received_of_processed (fires : (session platform prepare config agentConfig).Fires t)
    {response : PollResponse} {started : List AgentAssignment}
    (processed : t.reply = .processed response started) :
    t.pre.agent.polling = some (.answered (.poll response)) ∧
      started = ({ t.pre.agent with polling := none }.process response).1 ∧
      t.post.agent = ({ t.pre.agent with polling := none }.process response).2 := by
  cases agentChange fires with
  | processes _ received reply agent =>
    obtain ⟨rfl, rfl⟩ := SessionReply.processed.inj (reply.symm.trans processed)
    exact ⟨received, rfl, agent⟩
  | routed _ _ reply | polls _ _ reply | arrives _ _ reply | idles _ reply | works _ reply
  | finishes _ _ _ reply | posts _ _ _ reply | delivers _ _ _ _ reply | retries _ _ _ _ reply
  | ends _ _ reply | stops _ reply => cases reply.symm.trans processed

/-- What is started had no runner, and has one now. -/
theorem running_of_started (fires : (session platform prepare config agentConfig).Fires t)
    {response : PollResponse} {started : List AgentAssignment}
    (processed : t.reply = .processed response started) {assignment : AgentAssignment}
    (member : assignment ∈ started) :
    t.pre.agent.jobs.get? assignment.jobId = none ∧
      t.post.agent.Runs assignment.jobId assignment.leaseId := by
  obtain ⟨-, rfl, agent⟩ := received_of_processed fires processed
  obtain ⟨-, begun, -⟩ := startAll_spec response.assign
    (({ t.pre.agent with polling := none }.cancelJobs response.orphan).cancelJobs
      response.cancel)
  rw [← Agent.process, ← agent] at begun
  obtain ⟨unheld, running⟩ := begun assignment member
  exact ⟨by simpa only [get?_cancelJobs] using unheld, _, running, rfl⟩

/-- What is assigned to a job without a runner is started. -/
theorem started_of_unheld (fires : (session platform prepare config agentConfig).Fires t)
    (distinct : t.pre.Distinct) {response : PollResponse} {started : List AgentAssignment}
    (processed : t.reply = .processed response started) {assignment : Assignment}
    (assigned : assignment ∈ response.assign)
    (unheld : t.pre.agent.jobs.get? assignment.jobId = none) :
    AgentAssignment.fromPayload assignment ∈ started := by
  obtain ⟨received, rfl, -⟩ := received_of_processed fires processed
  obtain ⟨-, -, starts⟩ := startAll_spec response.assign
    (({ t.pre.agent with polling := none }.cancelJobs response.orphan).cancelJobs
      response.cancel)
  apply starts (distinct _ received response rfl) assignment assigned
  simpa only [get?_cancelJobs] using unheld

theorem distinct_run {start final : Session} {trace : List SessionTransition}
    (run : (session platform prepare config agentConfig).Run start trace final)
    (fresh : start.agent.polling = none) : final.Distinct := by
  apply run.invariant (P := Session.Distinct) _ fun _ fires => distinct_step fires
  intro reply polling
  cases fresh.symm.trans polling

/-- An assignment is honoured exactly if its job has no runner when the response
is processed. -/
theorem assignment_honoured (platform : Platform) (prepare : Prepare) (config : Config)
    (agentConfig : AgentConfig) (run : SessionRun platform prepare config agentConfig)
    {before after : List SessionTransition} {t : SessionTransition}
    (split : run.trace = before ++ t :: after) {response : PollResponse}
    {started : List AgentAssignment} (processed : t.reply = .processed response started)
    {assignment : Assignment} (assigned : assignment ∈ response.assign) :
    Honoured started after assignment ↔ t.pre.agent.jobs.get? assignment.jobId = none := by
  have whole := run.run
  rw [split] at whole
  obtain ⟨earlier, fires, later⟩ := whole.split
  have distinct : t.pre.Distinct := distinct_run earlier rfl
  constructor
  · rintro ⟨started, -⟩
    exact (running_of_started fires processed started).1
  · intro unheld
    have started := started_of_unheld fires distinct processed assigned unheld
    exact ⟨started, serves_of_runs later (running_of_started fires processed started).2⟩

/-! ### A sample session -/

/-- The agent of the first sample pod. -/
def sampleAgent : AgentConfig where
  podId := "pod-a"
  agentVersion := "0.7.2"
  maxInFlight := 1
  modelPath := some sampleModel
  loraPath := none
  gpu := none
  pollWaitS := 25

/-- The agent parks a poll, a video is created, and the answer with its
assignment comes back. -/
def sampleDelivery : List SessionAction :=
  [.cycle true, .pollArrives "session", .gateway (.createVideo sampleVideo),
    .gateway (.advance 1 .proceed), .gateway (.advance 1 .proceed),
    .gateway (.advance 1 .proceed), .gateway (.resumePoll 0)]

/-- The agent is slow: its lease expires, the job is requeued, and the answer to
its next poll gives it the job anew. -/
def sampleRedelivery : List SessionAction :=
  sampleDelivery ++ [.receive, .gateway (.tick 130000), .gateway .sweep, .cycle true,
    .pollArrives "session"]

abbrev sampleSession (actions : List SessionAction)
    (accepted : ((session .counting samplePrepare .default sampleAgent).exec
      Session.initial actions).isSome) :
    SessionRun .counting samplePrepare .default sampleAgent :=
  .perform _ actions accepted

/-- The step processes an answer with an assignment of the kind. -/
def processesSome (p : Assignment → Bool) (t : SessionTransition) : Bool :=
  match t.reply with
  | .processed response _ => response.assign.any p
  | _ => false

theorem assigned_of_processesSome {p : Assignment → Bool}
    (some_assigned : processesSome p t = true) :
    ∃ response started assignment, t.reply = .processed response started ∧
      assignment ∈ response.assign ∧ p assignment = true := by
  unfold processesSome at some_assigned
  split at some_assigned
  · next response started same =>
    obtain ⟨assignment, member, holds⟩ := List.any_eq_true.mp some_assigned
    exact ⟨response, started, assignment, same, member, holds⟩
  · cases some_assigned

/-- The first assignment of the sample session is honoured. -/
theorem assignment_honoured_sample :
    ∃ before t after response started assignment,
      (sampleSession (sampleDelivery ++ .receive :: [.cycle true]) (by decide +kernel)).trace =
        before ++ t :: after ∧
      t.reply = .processed response started ∧ assignment ∈ response.assign ∧
      Honoured started after assignment := by
  obtain ⟨before, t, after, split, -, -, place⟩ :=
    Machine.Execution.perform_split (show ((session .counting samplePrepare .default
      sampleAgent).exec Session.initial
        (sampleDelivery ++ .receive :: [.cycle true])).isSome by decide +kernel)
  have unheld : (sampleSession (sampleDelivery ++ .receive :: [.cycle true])
      (by decide +kernel)).trace[7]?.all (fun t => processesSome (fun assignment =>
        (t.pre.agent.jobs.get? assignment.jobId).isNone) t) = true := by decide +kernel
  rw [show (sampleSession (sampleDelivery ++ .receive :: [.cycle true])
    (by decide +kernel)).trace[7]? = some t from place, Option.all_some] at unheld
  obtain ⟨response, started, assignment, processed, assigned, absent⟩ :=
    assigned_of_processesSome unheld
  refine ⟨before, t, after, response, started, assignment, split, processed, assigned, ?_⟩
  exact (assignment_honoured .counting samplePrepare .default sampleAgent _ split processed
    assigned).mpr (Option.isNone_iff_eq_none.mp absent)

/-- The second assignment of the job meets the runner of the first, and is dropped. -/
theorem not_assignmentsHonoured :
    ¬ AssignmentsHonoured
      (sampleSession (sampleRedelivery ++ [.receive]) (by decide +kernel)) := by
  intro honoured
  obtain ⟨before, t, split, -⟩ :=
    Machine.Execution.perform_last (show ((session .counting samplePrepare .default
      sampleAgent).exec Session.initial (sampleRedelivery ++ [.receive])).isSome
        by decide +kernel)
  have held : (sampleSession (sampleRedelivery ++ [.receive])
      (by decide +kernel)).trace.getLast?.all (fun t => processesSome (fun assignment =>
        (t.pre.agent.jobs.get? assignment.jobId).isSome) t) = true := by decide +kernel
  rw [split, List.getLast?_concat, Option.all_some] at held
  obtain ⟨response, started, assignment, processed, assigned, present⟩ :=
    assigned_of_processesSome held
  have fires := (sampleSession (sampleRedelivery ++ [.receive])
    (by decide +kernel)).run.fires_of_mem (t := t) (by rw [split]; simp)
  have started := (honoured before t [] response started split processed assignment assigned).1
  rw [show t.pre.agent.jobs.get? assignment.jobId = none from
    (running_of_started fires processed started).1] at present
  cases present

end InferenceGateway
