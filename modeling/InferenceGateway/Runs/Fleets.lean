import InferenceGateway.Runs.Honesty

/-!
# Cancelled only on request

The gateway takes a pod's word for a cancel.  Every agent of a fleet stays
honest, so a report of a cancel that nobody asked for is made under a retired
lease, which never becomes current again.
-/

namespace InferenceGateway

open Library

variable {Host : Type} [DecidableEq Host] {platform : Platform} {prepare : Prepare}
  {config : Config} {agentConfig : Host → AgentConfig} {t : FleetTransition Host}

/-- A client's DELETE of the job is accepted. -/
def AcceptsCancel (t : FleetTransition Host) (id : String) : Prop :=
  t.action = .gateway (.deleteVideo id) ∧
    ∃ status response, t.reply = .gateway (.video status response)

def Requested (history : List (FleetTransition Host)) (id : String) : Prop :=
  ∃ t ∈ history, AcceptsCancel t id

/-- The agent on the host processes an orphan notice for a job it runs under the lease. -/
def Notifies (t : FleetTransition Host) (host : Host) (id lease : String) : Prop :=
  t.action = .agent host .receive ∧ (t.pre.agents host).Runs id lease ∧
    ∃ response started, t.reply = .processed response started ∧ id ∈ response.orphan

/-! ### What a step of the fleet comes to -/

inductive FleetChange (platform : Platform) (prepare : Prepare) (config : Config)
    (agentConfig : Host → AgentConfig) (t : FleetTransition Host) : Prop where
  | performed {action : Action} {answer : Reply} (performs : t.action = .gateway action)
      (others : ∀ request, action ≠ .result request)
      (performed : t.pre.gateway.step platform prepare config action =
        some (answer, t.post.gateway))
      (reply : t.reply = .gateway answer)
      (agents : t.post.agents = fun host => (t.pre.session host).routed action answer)
      (sent : t.post.sent = t.pre.sent)
  | turned {host : Host} {action : SessionAction} {session : Session}
      (turns : t.action = .agent host action ∨ ∃ id event, t.action = .runner host id event)
      (fires : (InferenceGateway.session platform prepare config (agentConfig host)).Fires
        ⟨t.pre.session host, action, t.reply, session⟩)
      (own : ∀ other, action ≠ .gateway other)
      (finishes : ∀ id body, action = .finish id body → body.state = .string "cancelled" →
        ∀ state, (t.pre.agents host).jobs.get? id = some state → state.cancelled = true)
      (post : t.post = t.pre.withSession host t.reply session)
  | restarted {host : Host} (reply : t.reply = .silent)
      (post : t.post = { t.pre with
        agents := Function.update t.pre.agents host Agent.initial })
  | late {request : ResultRequest} {answer : Reply} (logged : request ∈ t.pre.sent)
      (performed : t.pre.gateway.result config request = (answer, t.post.gateway))
      (reply : t.reply = .gateway answer)
      (agents : t.post.agents = t.pre.agents) (sent : t.post.sent = t.pre.sent)

/-- The turn of a runner is its agent's own, and a cancel it reports was flagged. -/
theorem action_of_runner (id : String) {state : JobState} {event : RunnerEvent} {turn : RunnerTurn}
    (advanced : state.advance platform event = some turn) :
    (∀ other, turn.action id ≠ .gateway other) ∧
      ∀ id' body, turn.action id = .finish id' body → body.state = .string "cancelled" →
        id' = id ∧ state.cancelled = true := by
  constructor
  · intro other same
    cases turn <;> cases same
  · intro id' body same cancels
    cases turn <;> cases same
    exact ⟨rfl, cancelled_of_returns advanced cancels⟩

theorem fleetChange (fires : (fleet platform prepare config agentConfig).Fires t) :
    FleetChange platform prepare config agentConfig t := by
  obtain ⟨pre, action, reply, post⟩ := t
  have stepped : pre.step platform prepare config agentConfig action = some (reply, post) := fires
  clear fires
  cases action with
  | gateway action =>
    have others : ∀ request, action ≠ .result request := by
      rintro request rfl
      cases stepped
    rw [Fleet.step] at stepped
    · obtain ⟨⟨answer, gateway⟩, performed, same⟩ := Option.map_eq_some_iff.mp stepped
      cases same
      exact .performed rfl others performed rfl rfl rfl
    · exact others
  | agent host action =>
    simp only [Fleet.step] at stepped
    split at stepped
    · next ofAgent =>
      obtain ⟨⟨answer, session⟩, performed, same⟩ := Option.map_eq_some_iff.mp stepped
      cases same
      refine .turned (.inl rfl) performed ?_ ?_ rfl
      · rintro other rfl
        cases ofAgent
      · rintro id body rfl
        cases ofAgent
    · cases stepped
  | runner host id event =>
    obtain ⟨state, found, rest⟩ := Option.bind_eq_some_iff.mp stepped
    obtain ⟨turn, advanced, turned⟩ := Option.bind_eq_some_iff.mp rest
    obtain ⟨⟨answer, session⟩, performed, same⟩ := Option.map_eq_some_iff.mp turned
    cases same
    obtain ⟨own, finishes⟩ := action_of_runner id advanced
    refine .turned (.inr ⟨id, event, rfl⟩) performed own ?_ rfl
    intro id' body same cancels state' found'
    obtain ⟨rfl, raised⟩ := finishes id' body same cancels
    cases found.symm.trans found'
    exact raised
  | restart host =>
    cases stepped
    exact .restarted rfl rfl
  | late request =>
    simp only [Fleet.step] at stepped
    split at stepped <;> cases stepped
    next logged => exact .late logged rfl rfl rfl rfl

/-- The result is on its way, or was once sent. -/
def Fleet.Sends (fleet : Fleet Host) (request : ResultRequest) : Prop :=
  request ∈ fleet.sent ∨ ∃ host id state report, (fleet.agents host).jobs.get? id = some state ∧
    state.report = some report ∧ report.exchange = some (.sent request)

/-- The step as the gateway sees it. -/
inductive GatewayPart (platform : Platform) (prepare : Prepare) (config : Config)
    (t : FleetTransition Host) : Prop where
  | same (gateway : t.post.gateway = t.pre.gateway)
  | stepped {u : GatewayTransition} (fires : (gateway platform prepare config).Fires u)
      (pre : u.pre = t.pre.gateway) (post : u.post = t.post.gateway)
      (accepts : ∀ id, Accepts u id → AcceptsCancel t id)
      (results : ∀ request, u.action = .result request → t.pre.Sends request)
      (advances : ∀ token event, u.action = .advance token event →
        t.action = .gateway (.advance token event))

theorem gatewayPart (fires : (fleet platform prepare config agentConfig).Fires t) :
    GatewayPart platform prepare config t := by
  cases fleetChange fires with
  | @performed action answer performs others performed reply =>
    refine .stepped (u := ⟨t.pre.gateway, action, answer, t.post.gateway⟩) performed rfl rfl ?_ ?_ ?_
    · rintro id ⟨rfl, status, response, rfl⟩
      exact ⟨performs, status, response, reply⟩
    · exact fun request same => absurd same (others request)
    · exact fun token event same => same ▸ performs
  | @turned host action session _ fires own _ post =>
    have gateway : t.post.gateway = session.gateway := by rw [post]; rfl
    cases agentChange fires with
    | routed performs => exact absurd performs (own _)
    | @arrives body sessionId answer _ performed _ _ =>
      refine .stepped (u := ⟨t.pre.gateway, .poll body sessionId, answer, session.gateway⟩)
        (congrArg some performed) rfl gateway.symm ?_ ?_ ?_
      · rintro id ⟨other, -⟩
        cases other
      · intro request other
        cases other
      · intro token event other
        cases other
    | @delivers state report request answer found held sent performed _ _ =>
      refine .stepped (u := ⟨t.pre.gateway, .result request, answer, session.gateway⟩)
        (congrArg some performed) rfl gateway.symm ?_ ?_ ?_
      · rintro id ⟨other, -⟩
        cases other
      · rintro request' same
        cases same
        exact .inr ⟨host, _, state, report, found, held, sent⟩
      · intro token event other
        cases other
    | polls _ same | idles same | processes same | works same | finishes _ _ same
    | posts _ _ same | retries _ _ _ same | ends _ same | stops same =>
      exact .same (gateway.trans same)
  | restarted _ post => exact .same (by rw [post])
  | @late request answer logged performed _ _ _ =>
    refine .stepped (u := ⟨t.pre.gateway, .result request, answer, t.post.gateway⟩)
      (congrArg some performed) rfl rfl ?_ ?_ ?_
    · rintro id ⟨other, -⟩
      cases other
    · rintro request' same
      cases same
      exact .inl logged
    · intro token event other
      cases other

/-! ### The invariant -/

def Fleet.ground (fleet : Fleet Host) (history : List (FleetTransition Host)) : Ground :=
  ⟨Requested history, fleet.gateway, fleet.sent⟩

/-- Every marked row was asked for, and every agent is honest. -/
structure HonestFleet (platform : Platform) (history : List (FleetTransition Host))
    (fleet : Fleet Host) : Prop where
  sound : fleet.gateway.Sound platform
  leased : Leased platform fleet.gateway
  counted : ∀ parked ∈ fleet.gateway.waiters.polls, parked.token < fleet.gateway.tokens
  marks : ∀ id, fleet.gateway.Marks id → Requested history id
  agents : ∀ host, HonestAgent platform (fleet.ground history) (fleet.agents host)
  sent : ∀ request ∈ fleet.sent, request.body.state = .string "cancelled" →
    ∀ lease, request.leaseId = some lease →
      (fleet.ground history).Excuses platform request.id lease

omit [DecidableEq Host] in
theorem requested_append {history later : List (FleetTransition Host)} {id : String}
    (requested : Requested history id) : Requested (history ++ later) id :=
  requested.imp fun _ ⟨member, accepts⟩ => ⟨List.mem_append_left _ member, accepts⟩

theorem request_eq_some {reply : SessionReply} {request : ResultRequest} :
    reply.request = some request ↔ reply = .reports request := by
  cases reply <;> simp [SessionReply.request]

/-- The log gets what the step sends. -/
theorem mem_sent (fires : (fleet platform prepare config agentConfig).Fires t)
    (request : ResultRequest) :
    request ∈ t.post.sent ↔ request ∈ t.pre.sent ∨ t.reply = .reports request := by
  cases fleetChange fires with
  | performed _ _ _ reply _ sent => simp [sent, reply]
  | turned _ _ _ _ post =>
    rw [post, ← request_eq_some]
    simp [Fleet.withSession]
  | restarted reply post => simp [post, reply]
  | late _ _ reply _ sent => simp [sent, reply]

/-- What is sent is the result of a runner. -/
theorem reporter (fires : (fleet platform prepare config agentConfig).Fires t)
    {request : ResultRequest} (reports : t.reply = .reports request) :
    ∃ host state report, (t.pre.agents host).jobs.get? state.jobId = some state ∧
      state.report = some report ∧ request = state.resultRequest report.body := by
  cases fleetChange fires with
  | performed _ _ _ reply | restarted reply | late _ _ reply => cases reply.symm.trans reports
  | @turned host _ _ _ stepped =>
    cases agentChange stepped with
    | @posts state report found held _ reply =>
      cases reply.symm.trans reports
      exact ⟨host, state, report, found, held, rfl⟩
    | routed _ _ reply | polls _ _ reply | arrives _ _ reply | idles _ reply | processes _ _ reply
    | works _ reply | finishes _ _ _ reply | delivers _ _ _ _ reply | retries _ _ _ _ reply
    | ends _ _ reply | stops _ reply => cases reply.symm.trans reports

/-- A step loses nothing that was established. -/
theorem ground_grows (fires : (fleet platform prepare config agentConfig).Fires t)
    (history : List (FleetTransition Host)) :
    (t.pre.ground history).Grows platform (t.post.ground (history ++ [t])) := by
  have sent : ∀ request ∈ t.pre.sent, request ∈ t.post.sent := fun request member =>
    (mem_sent fires request).mpr (.inl member)
  cases gatewayPart fires with
  | same gateway =>
    refine ⟨fun _ => requested_append, ?_, ?_, ?_, ?_, sent⟩ <;>
      simp only [Fleet.ground, gateway, le_refl, imp_self, implies_true]
    exact fun _ member _ => member
  | stepped fires pre post =>
    refine ⟨fun _ => requested_append, ?_, ?_, ?_, ?_, sent⟩ <;>
      simp only [Fleet.ground, ← pre, ← post]
    · exact fun _ _ => issued_step fires
    · exact fun _ => retired_step fires
    · exact (progresses fires).tokens
    · intro parked member old
      rcases polls_step fires member with earlier | ⟨_, parks⟩
      · exact earlier
      · exact absurd (parks.token ▸ old) (Nat.lt_irrefl _)

omit [DecidableEq Host] in
theorem HonestFleet.excuses {history : List (FleetTransition Host)} {fleet : Fleet Host}
    (honest : HonestFleet platform history fleet) {request : ResultRequest}
    (sends : fleet.Sends request) (cancels : request.body.state = .string "cancelled")
    {lease : String} (under : request.leaseId = some lease) :
    (fleet.ground history).Excuses platform request.id lease := by
  rcases sends with logged | ⟨host, id, state, report, found, held, sent⟩
  · exact honest.sent request logged cancels lease under
  · have logged := ((honest.agents host).runners id state found).sends report request held sent
    exact honest.sent request logged cancels lease under

section Step

variable {history : List (FleetTransition Host)}
  (fires : (fleet platform prepare config agentConfig).Fires t)
  (honest : HonestFleet platform history t.pre)

include fires honest

/-- The gateway cancels nothing that was not asked for. -/
theorem honest_gateway :
    t.post.gateway.Sound platform ∧ Leased platform t.post.gateway ∧
      (∀ parked ∈ t.post.gateway.waiters.polls, parked.token < t.post.gateway.tokens) ∧
      ∀ id, t.post.gateway.Marks id → Requested (history ++ [t]) id := by
  cases gatewayPart fires with
  | same gateway =>
    rw [gateway]
    exact ⟨honest.sound, honest.leased, honest.counted,
      fun id marks => requested_append (honest.marks id marks)⟩
  | @stepped u fires pre post accepts results =>
    have sound := honest.sound
    have leased := honest.leased
    have counted := honest.counted
    have marks := honest.marks
    rw [← pre] at sound leased counted marks
    rw [← post]
    refine ⟨sound_step fires sound, leased_step fires leased, ?_, fun id marked => ?_⟩
    · intro parked member
      rcases polls_step fires member with earlier | ⟨_, parks⟩
      · exact (counted parked earlier).trans_le (progresses fires).tokens
      · rw [parks.token, parks.counted]
        exact Nat.lt_succ_self _
    · rcases marks_step fires marked with
        earlier | accepted | ⟨request, lease, action, rfl, under, cancels, holds⟩
      · exact requested_append (marks id earlier)
      · exact ⟨t, by simp, accepts id accepted⟩
      · -- A retired lease is not the one the job is held under.
        rcases honest.excuses (results request action) cancels under with asked | retired
        · exact requested_append asked
        · rw [show (t.pre.ground history).gateway = u.pre from pre.symm] at retired
          exact absurd holds (retired.2 _)

theorem honest_agents (host : Host) :
    HonestAgent platform (t.post.ground (history ++ [t])) (t.post.agents host) := by
  have grows := ground_grows fires history
  have kept := (honest.agents host).grow grows
  cases fleetChange fires with
  | @performed action answer _ _ performed _ agents _ =>
    rw [agents]
    refine HonestAgent.routed (t.pre.session host) kept action answer fun exchange polls => ?_
    exact HonestPoll.route (u := ⟨t.pre.gateway, action, answer, t.post.gateway⟩) performed
      honest.leased rfl rfl grows ((honest.agents host).polling exchange polls)
  | @turned turning action session _ stepped own finishes post =>
    have gateway : t.post.gateway = session.gateway := by rw [post]; rfl
    rw [show t.post.agents = Function.update t.pre.agents turning session.agent by rw [post]; rfl]
    by_cases here : host = turning
    · subst here
      rw [Function.update_self]
      exact HonestAgent.turn (s := ⟨t.pre.session host, action, t.reply, session⟩)
        (agentChange stepped) own finishes honest.leased rfl gateway grows
        (fun request reply => (mem_sent fires request).mpr (.inr reply)) honest.marks
        honest.counted (honest.agents host)
    · rw [Function.update_of_ne here]
      exact kept
  | @restarted restarting _ post =>
    rw [show t.post.agents = Function.update t.pre.agents restarting Agent.initial by rw [post]]
    by_cases here : host = restarting
    · subst here
      rw [Function.update_self]
      exact honest_initial
    · rw [Function.update_of_ne here]
      exact kept
  | late _ _ _ agents =>
    rw [agents]
    exact kept

theorem honest_sent {request : ResultRequest} (member : request ∈ t.post.sent)
    (cancels : request.body.state = .string "cancelled") {lease : String}
    (under : request.leaseId = some lease) :
    (t.post.ground (history ++ [t])).Excuses platform request.id lease := by
  apply Ground.Excuses.grow _ (ground_grows fires history)
  rcases (mem_sent fires request).mp member with earlier | reply
  · exact honest.sent request earlier cancels lease under
  · obtain ⟨host, state, report, found, held, rfl⟩ := reporter fires reply
    obtain rfl : state.assignment.leaseId = lease := Option.some.inj under
    have runner := (honest.agents host).runners _ state found
    exact runner.flagged (runner.reports report held cancels)

theorem honest_step : HonestFleet platform (history ++ [t]) t.post := by
  obtain ⟨sound, leased, counted, marks⟩ := honest_gateway fires honest
  refine ⟨sound, leased, counted, marks, honest_agents fires honest, ?_⟩
  exact fun request member cancels lease under => honest_sent fires honest member cancels under

end Step

theorem honest_of_run {trace : List (FleetTransition Host)} {final : Fleet Host}
    (run : (fleet platform prepare config agentConfig).Run
      (fleet platform prepare config agentConfig).initial trace final) :
    HonestFleet platform trace final := by
  refine run.history ?_ fun _ _ _ fires honest => honest_step fires honest
  have unstarted : (gateway platform prepare config).Run (gateway platform prepare config).initial
    [] Gateway.empty := .nil
  refine ⟨sound_of_run unstarted, leased_of_run unstarted, ?_, ?_, fun _ => honest_initial, ?_⟩
  · intro parked member
    cases member
  · rintro id ⟨job, found, -⟩
    cases found
  · intro request member
    cases member

/-! ### Whole runs -/

/-- In every state of the run a cancelled job is one with an accepted DELETE. -/
def CancelledOnRequest (run : FleetRun platform prepare config agentConfig) : Prop :=
  ∀ before t after, run.trace = before ++ t :: after → ∀ id job,
    t.post.gateway.store.get id = some job → job.state = .cancelled → Requested (before ++ [t]) id

/-- After an orphan notice no result under the lease changes anything. -/
def OrphansHarmless (run : FleetRun platform prepare config agentConfig) : Prop :=
  ∀ before t after host id lease, run.trace = before ++ t :: after → Notifies t host id lease →
    ∀ u ∈ after, ∀ request, request.leaseId = some lease →
      (u.pre.gateway.result config request).2 = u.pre.gateway

/-- The lease of a runner that is told of an orphan is retired. -/
theorem retired_of_notifies {history : List (FleetTransition Host)}
    (fires : (fleet platform prepare config agentConfig).Fires t)
    (honest : HonestFleet platform history t.pre) {host : Host} {id lease : String}
    (notifies : Notifies t host id lease) : Retired platform lease t.pre.gateway := by
  obtain ⟨action, ⟨state, found, rfl⟩, response, started, reply, orphan⟩ := notifies
  cases fleetChange fires with
  | performed performs => cases action.symm.trans performs
  | restarted silent => cases silent.symm.trans reply
  | late _ _ answered => cases answered.symm.trans reply
  | @turned turning _ session turns stepped =>
    rcases turns with turns | ⟨_, _, turns⟩ <;> cases action.symm.trans turns
    obtain ⟨received, -, -⟩ := received_of_processed stepped reply
    have tells := (honest.agents host).polling _ received response rfl
    exact tells.1.orphan id orphan state found

theorem retired_of_fleet {lease : String}
    (fires : (fleet platform prepare config agentConfig).Fires t)
    (retired : Retired platform lease t.pre.gateway) : Retired platform lease t.post.gateway := by
  cases gatewayPart fires with
  | same gateway => exact gateway ▸ retired
  | stepped fires pre post =>
    rw [← post]
    exact retired_step fires (pre ▸ retired)

/-- With honest agents a job is cancelled only after a client's DELETE of it was
accepted, and what an orphan notice makes an agent report changes nothing. -/
theorem cancelled_on_request (platform : Platform) (prepare : Prepare) (config : Config)
    (agentConfig : Host → AgentConfig) (run : FleetRun platform prepare config agentConfig) :
    CancelledOnRequest run ∧ OrphansHarmless run := by
  constructor
  · intro before t after split id job found cancelled
    have whole := run.run
    rw [split] at whole
    obtain ⟨earlier, fires, -⟩ := whole.split
    exact (honest_of_run (earlier.snoc fires)).marks id ⟨job, found, .inr cancelled⟩
  · intro before t after host id lease split notifies u member request under
    have whole := run.run
    rw [split] at whole
    obtain ⟨middle, rest, rfl⟩ := List.append_of_mem member
    obtain ⟨earlier, fires, later⟩ := whole.split
    obtain ⟨between, -, -⟩ := later.split
    have retired : Retired platform lease u.pre.gateway := by
      apply between.invariant (P := fun fleet => Retired platform lease fleet.gateway) _
        fun _ fires => retired_of_fleet fires
      exact retired_of_fleet fires (retired_of_notifies fires (honest_of_run earlier) notifies)
    rw [← List.cons_append, ← List.append_assoc] at whole
    have sound : u.pre.gateway.Sound platform := (honest_of_run whole.split.1).sound
    exact result_unheld sound fun lease' under' => by
      cases under.symm.trans under'
      exact retired.2 _

/-! ### A sample fleet -/

/-- The lease of the sample agent expires; its next poll brings an orphan notice and
the same job again, and its runner reports the job as cancelled. -/
def sampleOrphan : List (FleetAction Unit) :=
  [.agent () (.cycle true), .agent () (.pollArrives "session"),
    .gateway (.createVideo sampleVideo), .gateway (.advance 1 .proceed),
    .gateway (.advance 1 .proceed), .gateway (.advance 1 .proceed), .gateway (.resumePoll 0),
    .agent () .receive, .runner () "v" .begin, .gateway (.tick 130000), .gateway .sweep,
    .agent () (.cycle true), .agent () (.pollArrives "session"), .agent () .receive,
    .runner () "v" (.fetched []), .agent () (.report "v"), .agent () (.reportArrives "v")]

/-- Every input has the digest of the empty one. -/
def sampleDigest : Prepare := fun form image =>
  (samplePrepare form image).map fun input => { input with sha256 := "#" }

example : ((fleet .counting sampleDigest .default fun _ : Unit => sampleAgent).exec
    Fleet.initial sampleOrphan).any (fun (_, final) =>
      final.sent.map (·.body) = [cancelledResult] &&
        (final.gateway.store.get "v").any (·.state == .inProgress)) = true := by
  decide +kernel

end InferenceGateway
