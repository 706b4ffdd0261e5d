import InferenceGateway.Agent.Loop
import InferenceGateway.Runs.Assignments
import InferenceGateway.Runs.Waits

/-!
# What every turn of the poll loop comes to

A turn of the session, or a step of the loop itself; what it does to the
exchange of the current cycle, to the gateway and to the timers.
-/

namespace InferenceGateway

open Library

variable {platform : Platform} {prepare : Prepare} {config : Config} {loopConfig : LoopConfig}

/-! ### The exchange of the cycle -/

/-- The turn is one of the cycle and its exchange. -/
def SessionAction.ofCycle : SessionAction → Bool
  | .cycle _ | .pollArrives _ | .pollFails | .receive => true
  | _ => false

/-- What a turn of the session does to the exchange of the current cycle. -/
inductive Exchanged (platform : Platform) (prepare : Prepare) (config : Config)
    (agentConfig : AgentConfig) (pre post : Session) : SessionAction → SessionReply → Prop where
  | routed {action : Action} {answer : Reply}
      (performed : pre.gateway.step platform prepare config action = some (answer, post.gateway))
      (polling : post.agent.polling = pre.agent.polling.map (Exchange.route action answer)) :
      Exchanged platform prepare config agentConfig pre post (.gateway action) (.gateway answer)
  | cycled {ready : Bool} {reply : SessionReply}
      (polling : post.agent.polling = some (.sent (pre.agent.pollBody agentConfig ready))) :
      Exchanged platform prepare config agentConfig pre post (.cycle ready) reply
  | arrived {body : PollBody} {sessionId : String} {answer : Reply}
      (sent : pre.agent.polling = some (.sent body))
      (performed : pre.gateway.poll platform config body sessionId = (answer, post.gateway))
      (polling : post.agent.polling = some (.taken answer)) :
      Exchanged platform prepare config agentConfig pre post (.pollArrives sessionId)
        (.gateway answer)
  | lost (polling : post.agent.polling = none) :
      Exchanged platform prepare config agentConfig pre post .pollFails .silent
  | refused (polling : post.agent.polling = none) :
      Exchanged platform prepare config agentConfig pre post .receive .silent
  | processed {response : PollResponse} {started : List AgentAssignment}
      (received : pre.agent.polling = some (.answered (.poll response)))
      (polling : post.agent.polling = none) :
      Exchanged platform prepare config agentConfig pre post .receive (.processed response started)
  | kept {action : SessionAction} {reply : SessionReply} (other : action.ofCycle = false)
      (polling : post.agent.polling = pre.agent.polling) :
      Exchanged platform prepare config agentConfig pre post action reply

theorem polling_retry (session : Session) (jobId : String) (report : Report) :
    (session.retry jobId report).2.agent.polling = session.agent.polling := by
  unfold Session.retry
  split <;> rfl

theorem exchanged {pre post : Session} {action : SessionAction} {reply : SessionReply}
    {agentConfig : AgentConfig}
    (stepped : pre.step platform prepare config agentConfig action = some (reply, post)) :
    Exchanged platform prepare config agentConfig pre post action reply := by
  have retried {jobId : String} {report : Report}
      (same : pre.retry jobId report = (reply, post)) :
      post.agent.polling = pre.agent.polling := by
    have polling := polling_retry pre jobId report
    rw [same] at polling
    exact polling
  cases action with
  | gateway action =>
    simp only [Session.step] at stepped
    obtain ⟨⟨answer, gateway⟩, performed, same⟩ := Option.map_eq_some_iff.mp stepped
    cases same
    exact .routed performed rfl
  | cycle ready =>
    simp only [Session.step] at stepped
    split at stepped
    · cases stepped
    · cases stepped
      exact .cycled rfl
  | pollArrives sessionId =>
    simp only [Session.step] at stepped
    split at stepped
    · next sent =>
      cases stepped
      exact .arrived sent rfl rfl
    · cases stepped
  | pollFails =>
    simp only [Session.step] at stepped
    split at stepped
    · cases stepped
      exact .lost rfl
    · cases stepped
  | receive =>
    simp only [Session.step] at stepped
    split at stepped
    · next received =>
      cases stepped
      exact .processed received (polling_startAll ..)
    · cases stepped
      exact .refused rfl
    · cases stepped
  | work | finish | abandon | report | reportArrives =>
    simp only [Session.step] at stepped
    split at stepped
    · cases stepped
      exact .kept rfl rfl
    · cases stepped
  | reportFails jobId =>
    simp only [Session.step] at stepped
    split at stepped
    · exact .kept rfl (retried (Option.some.inj stepped))
    · cases stepped
  | reported jobId =>
    simp only [Session.step] at stepped
    split at stepped
    · split at stepped
      · cases stepped
        exact .kept rfl rfl
      · split at stepped
        · cases stepped
          exact .kept rfl rfl
        · exact .kept rfl (retried (Option.some.inj stepped))
    · cases stepped
  | stop =>
    cases stepped
    exact .kept rfl rfl

/-! ### Turns of the loop -/

inductive LoopChange (platform : Platform) (prepare : Prepare) (config : Config)
    (loopConfig : LoopConfig) (t : LoopTransition) : Prop where
  | turned {action : SessionAction} (performs : t.action = .session action)
      (allowed : t.pre.allows action = true)
      (fires : (session platform prepare config loopConfig.toAgentConfig).Fires
        ⟨t.pre.session, action, t.reply, t.post.session⟩)
      (due : t.post.due = t.pre.timers config action t.reply)
  | rests (performs : ∀ action, t.action ≠ .session action)
      (session : t.post.session = t.pre.session) (due : t.post.due = t.pre.due)
      (reply : t.reply = .silent)

theorem loopChange {t : LoopTransition}
    (fires : (pollLoop platform prepare config loopConfig).Fires t) :
    LoopChange platform prepare config loopConfig t := by
  obtain ⟨pre, action, reply, post⟩ := t
  have stepped : pre.step platform prepare config loopConfig action = some (reply, post) := fires
  cases action with
  | session action =>
    simp only [Loop.step] at stepped
    split at stepped
    · next allowed =>
      obtain ⟨⟨answer, session⟩, performed, same⟩ := Option.map_eq_some_iff.mp stepped
      cases same
      exact .turned rfl allowed performed rfl
    · cases stepped
  | raises =>
    simp only [Loop.step] at stepped
    split at stepped
    · cases stepped
    · obtain ⟨rfl, rfl⟩ := Prod.mk.inj (Option.some.inj stepped)
      exact .rests (by rintro action ⟨⟩) rfl rfl rfl
  | wakes random =>
    simp only [Loop.step] at stepped
    split at stepped
    · cases stepped
    · split at stepped
      · obtain ⟨rfl, rfl⟩ := Prod.mk.inj (Option.some.inj stepped)
        exact .rests (by rintro action ⟨⟩) rfl rfl rfl
      · cases stepped

/-- What a turn of the loop does to the gateway and to the timers that run already. -/
inductive LoopPart (platform : Platform) (prepare : Prepare) (config : Config)
    (t : LoopTransition) : Prop where
  | same (gateway : t.post.gateway = t.pre.gateway) (due : t.post.due = t.pre.due)
  | stepped {u : GatewayTransition} (fires : (gateway platform prepare config).Fires u)
      (pre : u.pre = t.pre.gateway) (post : u.post = t.post.gateway)
      (performs : u.action = .shutdown ∨ (∃ token, u.action = .expirePoll token) →
        t.action = .session (.gateway u.action))
      (allowed : ∀ token, u.action = .expirePoll token → t.pre.due token ≤ t.pre.now)
      (due : ∀ token < t.pre.gateway.tokens, t.post.due token = t.pre.due token)

theorem timers_of_polled {loop : Loop} {action : SessionAction} {body : PollBody}
    (polled : loop.polled action = some body) (token : Nat) :
    loop.timers config action (.gateway (.pending token)) token =
      loop.now + setTimeout (body.waitMs config) := by
  unfold Loop.timers
  rw [polled]
  exact Function.update_self ..

/-- A new timer runs under a new token. -/
theorem timers_of_lt {loop : Loop} {action : SessionAction} {reply : SessionReply}
    (counted : ∀ body token, loop.polled action = some body → reply = .gateway (.pending token) →
      token = loop.gateway.tokens) {token : Nat} (earlier : token < loop.gateway.tokens) :
    loop.timers config action reply token = loop.due token := by
  unfold Loop.timers
  cases polled : loop.polled action with
  | none => rfl
  | some body =>
    cases reply with
    | gateway answer =>
      cases answer with
      | pending other =>
        apply Function.update_of_ne
        have := counted body other polled rfl
        omega
      | _ => rfl
    | _ => rfl

theorem polls_of_polled {pre post : Loop} {action : SessionAction} {reply : SessionReply}
    {body : PollBody}
    (fires : (session platform prepare config loopConfig.toAgentConfig).Fires
      ⟨pre.session, action, reply, post.session⟩)
    (polled : pre.polled action = some body) :
    ∃ sessionId answer, pre.gateway.poll platform config body sessionId =
      (answer, post.gateway) ∧ reply = .gateway answer := by
  have stepped : pre.session.step platform prepare config loopConfig.toAgentConfig action =
    some (reply, post.session) := fires
  unfold Loop.polled at polled
  split at polled
  · next body' sessionId =>
    cases polled
    simp only [Session.step] at stepped
    obtain ⟨⟨answer, gateway⟩, performed, same⟩ := Option.map_eq_some_iff.mp stepped
    simp only [Prod.mk.injEq] at same
    obtain ⟨rfl, same⟩ := same
    refine ⟨sessionId, answer, ?_, rfl⟩
    rw [Option.some.inj performed, Loop.gateway, ← same]
  · next sessionId =>
    split at polled
    · next sent =>
      cases polled
      simp only [Session.step, sent] at stepped
      have same := Option.some.inj stepped
      simp only [Prod.mk.injEq] at same
      obtain ⟨rfl, same⟩ := same
      exact ⟨sessionId, _, by rw [Loop.gateway, Loop.gateway, ← same], rfl⟩
    · cases polled
  · cases polled

theorem loopPart {t : LoopTransition}
    (fires : (pollLoop platform prepare config loopConfig).Fires t) :
    LoopPart platform prepare config t := by
  cases loopChange fires with
  | rests _ session due => exact .same (congrArg Session.gateway session) due
  | @turned action performs allowed fires due =>
    cases polled : t.pre.polled action with
    | none =>
      have unarmed : t.post.due = t.pre.due := by
        rw [due]
        unfold Loop.timers
        rw [polled]
      cases agentChange fires with
      | @routed performed answer same stepped reply _ =>
        obtain rfl := same
        refine .stepped (u := ⟨t.pre.gateway, performed, answer, t.post.gateway⟩) stepped rfl rfl
          (fun _ => performs) ?_ fun token _ => by rw [unarmed]
        rintro token rfl
        exact of_decide_eq_true allowed
      | @arrives body sessionId answer _ performed =>
        refine .stepped (u := ⟨t.pre.gateway, .poll body sessionId, answer, t.post.gateway⟩)
          (congrArg some performed) rfl rfl ?_ nofun fun token _ => by rw [unarmed]
        rintro (other | ⟨token, other⟩) <;> cases other
      | @delivers state report request answer _ _ _ performed =>
        refine .stepped (u := ⟨t.pre.gateway, .result request, answer, t.post.gateway⟩)
          (congrArg some performed) rfl rfl ?_ nofun fun token _ => by rw [unarmed]
        rintro (other | ⟨token, other⟩) <;> cases other
      | polls _ same | idles same | processes same | works same | finishes _ _ same
      | posts _ _ same | retries _ _ _ same | ends _ same | stops same => exact .same same unarmed
    | some body =>
      obtain ⟨sessionId, answer, performed, reply⟩ := polls_of_polled fires polled
      refine .stepped (u := ⟨t.pre.gateway, .poll body sessionId, answer, t.post.gateway⟩)
        (congrArg some performed) rfl rfl ?_ nofun ?_
      · rintro (other | ⟨token, other⟩) <;> cases other
      · intro token earlier
        rw [due]
        apply timers_of_lt _ earlier
        intro _ other _ pending
        cases reply.symm.trans pending
        exact (poll_parks performed).2.1

end InferenceGateway
