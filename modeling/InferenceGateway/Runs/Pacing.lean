import InferenceGateway.Library.Rounding
import InferenceGateway.Runs.Turns

/-!
# Polls that pace the agent

After a cycle that succeeded the agent polls again at once, so it is the parked
poll that sets the pace.  A poll parks when its pod has room for another job; a
pod that is warming, full or draining is answered at once, again and again.
-/

namespace InferenceGateway

open Library

variable {platform : Platform} {prepare : Prepare} {config : Config} {loopConfig : LoopConfig}

/-! ### Kept polls -/

/-- A poll waits under the token. -/
def Loop.Waits (loop : Loop) (token : Nat) : Prop :=
  ∃ parked ∈ loop.gateway.waiters.waiting, parked.token = token

/-- The cycle sends its poll. -/
def LoopTransition.Polls (t : LoopTransition) : Prop :=
  ∃ ready, t.action = .session (.cycle ready)

/-- The poll of the cycle reaches the gateway, which answers or parks it. -/
structure LoopTransition.Arrives (t : LoopTransition) (body : PollBody) (answer : Reply) :
    Prop where
  arrives : ∃ sessionId, t.action = .session (.pollArrives sessionId)
  sent : t.pre.agent.polling = some (.sent body)
  reply : t.reply = .gateway answer

/-- The cycle gets an answer that leaves it nothing to do. -/
structure LoopTransition.AnsweredEmpty (t : LoopTransition) : Prop where
  receives : t.action = .session .receive
  empty : ∃ response started, t.reply = .processed response started ∧
    response.assign = [] ∧ response.cancel = [] ∧ response.orphan = []

/-- The wait under the token ends with a kick, with an abort, or with its timer at the deadline. -/
inductive WaitEnds (token : Nat) (deadline : ℚ) (t : LoopTransition) : Prop where
  | kicked {parked : ParkedPoll} (named : parked.token = token)
      (woken : (parked, true) ∈ t.post.gateway.waiters.settled)
  | aborted (action : t.action = .session (.gateway .shutdown))
  | timedOut (action : t.action = .session (.gateway (.expirePoll token)))
      (full : deadline ≤ t.pre.now)

/-- The poll under the token is kept waiting until this step. -/
structure KeptUntil (token : Nat) (deadline : ℚ) (t : LoopTransition) : Prop where
  waits : t.pre.Waits token
  gone : ¬ t.post.Waits token
  ends : WaitEnds token deadline t

/-- The gateway kept the poll of the cycle parked until a kick, an abort or the end of its window;
once it has been told to shut down it keeps nobody. -/
inductive Held (window : ℚ) (steps : List LoopTransition) : Prop where
  | parked {earlier later : List LoopTransition} {t u : LoopTransition} {body : PollBody}
      {token : Nat} (split : steps = earlier ++ t :: later)
      (arrives : t.Arrives body (.pending token)) (member : u ∈ later)
      (kept : KeptUntil token (t.pre.now + window) u)
  | aborted {t : LoopTransition} {body : PollBody} {answer : Reply} (member : t ∈ steps)
      (arrives : t.Arrives body answer) (aborted : t.pre.gateway.aborted = true)

theorem Held.snoc {window : ℚ} {steps : List LoopTransition} (held : Held window steps)
    (t : LoopTransition) : Held window (steps ++ [t]) := by
  cases held with
  | @parked earlier later first u _ _ split arrives member kept =>
    have split : steps ++ [t] = earlier ++ first :: (later ++ [t]) := by
      rw [split, List.append_assoc, List.cons_append]
    exact .parked split arrives (List.mem_append_left _ member) kept
  | aborted member arrives aborted =>
    exact .aborted (List.mem_append_left _ member) arrives aborted

/-- The tokens of parked polls have been given out. -/
def Loop.Counted (loop : Loop) : Prop :=
  ∀ parked ∈ loop.gateway.waiters.polls, parked.token < loop.gateway.tokens

theorem loop_counted_step {t : LoopTransition}
    (fires : (pollLoop platform prepare config loopConfig).Fires t) (counted : t.pre.Counted) :
    t.post.Counted := by
  intro parked member
  cases loopPart fires with
  | same gateway =>
    rw [gateway] at member ⊢
    exact counted parked member
  | stepped fires pre post =>
    rw [← post] at member ⊢
    rcases polls_step fires member with earlier | ⟨body, parks⟩
    · rw [pre] at earlier
      have below := counted parked earlier
      have grows := (progresses fires).tokens
      rw [pre] at grows
      omega
    · have := parks.token
      have := parks.counted
      omega

/-- The poll that arrived in `first` waits under the token and its timer runs. -/
structure Waiting (window : ℚ) (first : LoopTransition) (token : Nat) (loop : Loop) : Prop where
  given : token < loop.gateway.tokens
  unsettled : ∀ entry ∈ loop.gateway.waiters.settled, entry.1.token ≠ token
  timer : first.pre.now + window ≤ loop.due token

theorem waiting_step {window : ℚ} {first t : LoopTransition} {token : Nat}
    (fires : (pollLoop platform prepare config loopConfig).Fires t)
    (waiting : Waiting window first token t.pre) :
    Waiting window first token t.post ∨ KeptUntil token (first.pre.now + window) t := by
  obtain ⟨given, unsettled, timer⟩ := waiting
  cases loopPart fires with
  | same gateway due =>
    apply Or.inl
    rw [← gateway] at given unsettled
    exact ⟨given, unsettled, due ▸ timer⟩
  | @stepped u gatewayFires pre post performs allowed due =>
    by_cases settles : ∃ entry ∈ t.post.gateway.waiters.settled, entry.1.token = token
    · obtain ⟨⟨parked, woken⟩, member, rfl⟩ := settles
      have settled := member
      rw [← post] at settled
      rcases wait_settled gatewayFires settled with earlier | ⟨waited, gone, reason⟩
      · rw [pre] at earlier
        exact absurd rfl (unsettled _ earlier)
      · refine .inr ⟨⟨parked, pre ▸ waited, rfl⟩, ?_, ?_⟩
        · rintro ⟨other, left, same⟩
          rw [← post] at left
          exact gone other left same
        · rcases reason with rfl | action | action
          · exact .kicked rfl member
          · exact .aborted (by rw [performs (.inl action), action])
          · refine .timedOut (by rw [performs (.inr ⟨_, action⟩), action]) ?_
            exact timer.trans (allowed _ action)
    · apply Or.inl
      refine ⟨?_, fun entry member same => settles ⟨entry, member, same⟩, ?_⟩
      · have grows := (progresses gatewayFires).tokens
        rw [pre, post] at grows
        omega
      · rw [due token given]
        exact timer

/-! ### Between two polls -/

/-- The window of a poll: what the agent asks for, clamped by the gateway. -/
def LoopConfig.window (config : Config) (loopConfig : LoopConfig) : ℚ :=
  min (loopConfig.pollWaitS * 1000) config.maxPollWaitMs

/-- A window that a timer keeps is the one the gateway computes. -/
theorem waitMs_pollBody {agent : Agent} {ready : Bool} (asks : 0 < loopConfig.pollWaitS)
    (timed : loopConfig.window config ≤ setTimeout (loopConfig.window config)) :
    (agent.pollBody loopConfig.toAgentConfig ready).waitMs config = loopConfig.window config := by
  have positive : (0 : ℚ) < loopConfig.pollWaitS * 1000 := by positivity
  have short : loopConfig.window config ≤ 2147483647 := by
    by_contra long
    rw [setTimeout, if_neg fun bounds => long bounds.2] at timed
    linarith
  simp only [PollBody.waitMs, Agent.pollBody]
  by_cases small : loopConfig.pollWaitS * 1000 < 2 ^ 53
  · -- The product is a double.
    have exactly : Binary64.nearest (loopConfig.pollWaitS * 1000) = loopConfig.pollWaitS * 1000 := by
      have rounded := Binary64.nearest_intCast (n := loopConfig.pollWaitS * 1000)
        (abs_lt.mpr ⟨by omega, small⟩)
      exact_mod_cast rounded
    rw [exactly, max_eq_left positive.le, LoopConfig.window]
  · -- The product is cut off, rounded or not.
    have large : (2 : ℚ) ^ 53 ≤ loopConfig.pollWaitS * 1000 := by exact_mod_cast not_lt.mp small
    have normal : (2 : ℚ) ^ (-1022 : ℤ) ≤ 1 := zpow_le_one_of_nonpos₀ (by norm_num) (by norm_num)
    have close := (Binary64.close_nearest (x := loopConfig.pollWaitS * 1000)
      (normal.trans (by linarith))).below
    have rounded : 2147483647 ≤ Binary64.nearest (loopConfig.pollWaitS * 1000) := by
      norm_num [Binary64.slack] at close large
      linarith
    have capped : (config.maxPollWaitMs : ℚ) ≤ 2147483647 :=
      (min_le_iff.mp short).resolve_left (by linarith)
    rw [LoopConfig.window, min_eq_right (capped.trans (le_max_of_le_left rounded)),
      min_eq_right (by linarith)]

/-- Where the exchange of the cycle stands after some steps of it. -/
inductive Stage (config : Config) (window : ℚ) (steps : List LoopTransition) (loop : Loop) :
    Option (Exchange PollBody) → Prop where
  | idle : Stage config window steps loop none
  | sent {body : PollBody} (waits : body.waitMs config = window) :
      Stage config window steps loop (some (.sent body))
  | parked {earlier later : List LoopTransition} {first : LoopTransition} {body : PollBody}
      {token : Nat} (split : steps = earlier ++ first :: later)
      (arrives : first.Arrives body (.pending token))
      (waiting : Waiting window first token loop) :
      Stage config window steps loop (some (.pending token))
  | answered {answer : Reply}
      (work : ∀ response, answer = .poll response → response.assign ≠ []) :
      Stage config window steps loop (some (.answered answer))

/-- A step that leaves the exchange alone leaves the poll parked or ends its wait. -/
theorem stage_kept {window : ℚ} {steps : List LoopTransition} {t : LoopTransition}
    (fires : (pollLoop platform prepare config loopConfig).Fires t)
    {exchange : Option (Exchange PollBody)} (stage : Stage config window steps t.pre exchange) :
    Held window (steps ++ [t]) ∨ Stage config window (steps ++ [t]) t.post exchange := by
  cases stage with
  | idle => exact .inr .idle
  | sent waits => exact .inr (.sent waits)
  | answered work => exact .inr (.answered work)
  | @parked earlier later first body token split arrives waiting =>
    have split : steps ++ [t] = earlier ++ first :: (later ++ [t]) := by
      rw [split, List.append_assoc, List.cons_append]
    rcases waiting_step fires waiting with waiting | kept
    · exact .inr (.parked split arrives waiting)
    · exact .inl (.parked split arrives (by simp) kept)

/-- A poll that still waits is not answered. -/
theorem stage_routed {window : ℚ} {steps : List LoopTransition} {t : LoopTransition}
    (fires : (pollLoop platform prepare config loopConfig).Fires t) {action : Action}
    {answer : Reply} (performed : t.pre.gateway.step platform prepare config action =
      some (answer, t.post.gateway)) {exchange : Option (Exchange PollBody)}
    (stage : Stage config window steps t.pre exchange) :
    Held window (steps ++ [t]) ∨
      Stage config window (steps ++ [t]) t.post
        (exchange.map (Exchange.route action answer)) := by
  have kept := stage_kept fires stage
  cases stage with
  | idle | sent | answered => exact kept
  | @parked earlier later first body token split arrives waiting =>
    by_cases resumes : action.resumes token = true
    · have gatewayFires : (gateway platform prepare config).Fires
        ⟨t.pre.gateway, action, answer, t.post.gateway⟩ := performed
      obtain ⟨same, polls⟩ := reply_of_resumes gatewayFires resumes
      simp only [Option.map_some, Exchange.route, resumes, if_true]
      split
      · next other =>
        rw [same other rfl]
        exact kept
      · refine .inr (.answered fun response answered => ?_)
        -- Only a poll that has settled runs on.
        obtain rfl : action = .resumePoll token := polls response answered
        obtain ⟨parked, woken, found, -⟩ := resumePoll_cases performed
        have named : parked.token = token := by simpa using List.find?_some found
        exact absurd named (waiting.unsettled _ (List.mem_of_find?_eq_some found))
    · simp only [Option.map_some, Exchange.route, resumes, Bool.false_eq_true, if_false]
      exact kept

/-- The arrival parks a poll that has room, unless it is given work or the gateway shuts down. -/
theorem stage_taken {steps : List LoopTransition} {t : LoopTransition} {body : PollBody}
    {sessionId : String} {answer : Reply} (counted : t.pre.Counted)
    (arrives : t.Arrives body answer)
    (performed : t.pre.gateway.poll platform config body sessionId = (answer, t.post.gateway))
    (due : t.post.due = t.pre.timers config (.pollArrives sessionId) t.reply)
    (waits : body.waitMs config = loopConfig.window config)
    (positive : 0 < loopConfig.window config)
    (timed : loopConfig.window config ≤ setTimeout (loopConfig.window config))
    (receptive : Room t.pre.gateway body ∨ t.pre.gateway.aborted = true) :
    Held (loopConfig.window config) (steps ++ [t]) ∨
      Stage config (loopConfig.window config) (steps ++ [t]) t.post (some (.taken answer)) := by
  by_cases aborted : t.pre.gateway.aborted = true
  · exact .inl (.aborted (by simp) arrives aborted)
  · have room := receptive.resolve_right aborted
    have work (response : PollResponse) (answered : answer = .poll response) :
        response.assign ≠ [] := by
      subst answered
      exact (answered_at_once (waits ▸ positive) room performed).resolve_right aborted
    cases answer with
    | pending token =>
      obtain ⟨-, rfl, tokens, settled⟩ := poll_parks performed
      refine .inr (.parked rfl arrives ⟨?_, ?_, ?_⟩)
      · rw [tokens]
        omega
      · intro entry member
        rw [settled] at member
        have earlier := counted entry.1 (Waiters.mem_polls.mpr (.inr ⟨entry.2, member⟩))
        omega
      · have polled : t.pre.polled (.pollArrives sessionId) = some body := by
          simp [Loop.polled, arrives.sent]
        rw [due, arrives.reply, timers_of_polled polled, waits]
        exact add_le_add_right timed _
    | _ => exact .inr (.answered work)

/-- The agent and the gateway answer for the poll of the cycle in turn. -/
theorem stage_step {steps : List LoopTransition} {t : LoopTransition}
    (fires : (pollLoop platform prepare config loopConfig).Fires t) (counted : t.pre.Counted)
    (quiet : ¬ t.Polls) (positive : 0 < loopConfig.window config)
    (timed : loopConfig.window config ≤ setTimeout (loopConfig.window config))
    (receptive : ∀ body answer, t.Arrives body answer →
      Room t.pre.gateway body ∨ t.pre.gateway.aborted = true)
    (stage : Stage config (loopConfig.window config) steps t.pre t.pre.agent.polling) :
    Held (loopConfig.window config) (steps ++ [t]) ∨
      Stage config (loopConfig.window config) (steps ++ [t]) t.post t.post.agent.polling ∧
        ¬ t.AnsweredEmpty := by
  have kept := stage_kept fires stage
  obtain ⟨pre, action, reply, post⟩ := t
  have closes {exchange : Option (Exchange PollBody)}
      (polling : post.session.agent.polling = exchange)
      (stage : Held (loopConfig.window config) (steps ++ [⟨pre, action, reply, post⟩]) ∨
        Stage config (loopConfig.window config) (steps ++ [⟨pre, action, reply, post⟩]) post
          exchange)
      (busy : ¬ LoopTransition.AnsweredEmpty ⟨pre, action, reply, post⟩) :
      Held (loopConfig.window config) (steps ++ [⟨pre, action, reply, post⟩]) ∨
        Stage config (loopConfig.window config) (steps ++ [⟨pre, action, reply, post⟩]) post
          post.session.agent.polling ∧
            ¬ LoopTransition.AnsweredEmpty ⟨pre, action, reply, post⟩ := by
    rw [polling]
    exact stage.imp_right fun stage => ⟨stage, busy⟩
  cases loopChange fires with
  | rests performs session =>
    exact closes (congrArg (·.agent.polling) session) kept
      fun empty => performs _ empty.receives
  | turned performs allowed turn due =>
    obtain rfl := performs
    cases exchanged turn with
    | routed performed polling =>
      exact closes polling (stage_routed fires performed stage) fun empty => nomatch empty.receives
    | cycled => exact absurd ⟨_, rfl⟩ quiet
    | @arrived body sessionId answer sent performed polling =>
      have arrives : LoopTransition.Arrives
          ⟨pre, .session (.pollArrives sessionId), .gateway answer, post⟩ body answer :=
        ⟨⟨sessionId, rfl⟩, sent, rfl⟩
      have waits : body.waitMs config = loopConfig.window config := by
        have stage : Stage config (loopConfig.window config) steps pre
          pre.session.agent.polling := stage
        rw [sent] at stage
        cases stage with
        | sent waits => exact waits
      exact closes polling (stage_taken counted arrives performed due waits positive timed
        (receptive _ _ arrives)) fun empty => nomatch empty.receives
    | lost polling => exact closes polling (.inr .idle) fun empty => nomatch empty.receives
    | refused polling =>
      refine closes polling (.inr .idle) fun empty => ?_
      obtain ⟨response, started, processed, -⟩ := empty.empty
      cases processed
    | @processed response started received polling =>
      refine closes polling (.inr .idle) fun empty => ?_
      obtain ⟨_, _, processed, idle, -⟩ := empty.empty
      cases processed
      have stage : Stage config (loopConfig.window config) steps pre
        pre.session.agent.polling := stage
      rw [received] at stage
      cases stage with
      | answered work => exact work response rfl idle
    | kept other polling =>
      refine closes polling kept fun empty => ?_
      cases empty.receives
      cases other

/-- The gateway takes the poll that arrives for one it may keep: its pod has room, or the gateway
is shutting down. -/
def Receptive (t : LoopTransition) : Prop :=
  ∀ body answer, t.Arrives body answer → Room t.pre.gateway body ∨ t.pre.gateway.aborted = true

theorem held_of_run {start final : Loop} {steps : List LoopTransition}
    (run : (pollLoop platform prepare config loopConfig).Run start steps final)
    (counted : start.Counted) (positive : 0 < loopConfig.window config)
    (timed : loopConfig.window config ≤ setTimeout (loopConfig.window config))
    (stage : Stage config (loopConfig.window config) [] start start.agent.polling)
    (quiet : ∀ t ∈ steps, ¬ t.Polls) (receptive : ∀ t ∈ steps, Receptive t) :
    Held (loopConfig.window config) steps ∨
      Stage config (loopConfig.window config) steps final final.agent.polling ∧
        ∀ t ∈ steps, ¬ t.AnsweredEmpty := by
  induction run with
  | nil => exact .inr ⟨stage, by simp⟩
  | @snoc trace t run fires inductionHypothesis =>
    have before := run.invariant (P := Loop.Counted) counted fun u fires => loop_counted_step fires
    have within (u : LoopTransition) (member : u ∈ trace) : u ∈ trace ++ [t] :=
      List.mem_append_left [t] member
    rcases inductionHypothesis (fun u member => quiet u (within u member))
      (fun u member => receptive u (within u member)) with held | ⟨stage, busy⟩
    · exact .inl (held.snoc t)
    · have step := stage_step fires before (quiet t (by simp)) positive timed
        (receptive t (by simp)) stage
      refine step.imp_right fun ⟨stage, working⟩ => ⟨stage, fun u member => ?_⟩
      rcases List.mem_append.mp member with earlier | last
      · exact busy u earlier
      · rw [List.mem_singleton.mp last]
        exact working

/-! ### One arrival -/

theorem performs_of_arrives {t : LoopTransition}
    (fires : (pollLoop platform prepare config loopConfig).Fires t) {body : PollBody}
    {answer : Reply} (arrives : t.Arrives body answer) :
    (∃ sessionId, t.pre.gateway.poll platform config body sessionId = (answer, t.post.gateway)) ∧
      ∀ other, t.post.agent.polling ≠ some (.sent other) := by
  obtain ⟨pre, action, reply, post⟩ := t
  obtain ⟨⟨sessionId, rfl⟩, sent, rfl⟩ := arrives
  cases loopChange fires with
  | rests performs => exact absurd rfl (performs _)
  | turned performs allowed turn due =>
    cases performs
    have stepped : pre.session.step platform prepare config loopConfig.toAgentConfig
      (.pollArrives sessionId) = some (.gateway answer, post.session) := turn
    cases exchanged stepped with
    | arrived sent' performed polling =>
      cases sent.symm.trans sent'
      refine ⟨⟨sessionId, performed⟩, fun other same => ?_⟩
      have same : some (Exchange.taken answer) = some (.sent other) := polling.symm.trans same
      cases answer <;> cases same
    | kept other => cases other

theorem sent_of_polls {t : LoopTransition}
    (fires : (pollLoop platform prepare config loopConfig).Fires t) {ready : Bool}
    (performs : t.action = .session (.cycle ready)) :
    t.post.agent.polling = some (.sent (t.pre.agent.pollBody loopConfig.toAgentConfig ready)) := by
  obtain ⟨pre, action, reply, post⟩ := t
  obtain rfl := performs
  cases loopChange fires with
  | rests performs => exact absurd rfl (performs _)
  | turned performs allowed turn due =>
    cases performs
    have stepped : pre.session.step platform prepare config loopConfig.toAgentConfig
      (.cycle ready) = some (reply, post.session) := turn
    cases exchanged stepped with
    | cycled polling => exact polling
    | kept other => cases other

/-- Only a cycle sends a poll. -/
theorem sent_of_post {t : LoopTransition}
    (fires : (pollLoop platform prepare config loopConfig).Fires t) (quiet : ¬ t.Polls)
    {body : PollBody} (sent : t.post.agent.polling = some (.sent body)) :
    t.pre.agent.polling = some (.sent body) := by
  obtain ⟨pre, action, reply, post⟩ := t
  have sent : post.session.agent.polling = some (.sent body) := sent
  cases loopChange fires with
  | rests performs session =>
    have session : post.session = pre.session := session
    rw [session] at sent
    exact sent
  | turned performs allowed turn due =>
    obtain rfl := performs
    cases exchanged turn with
    | routed performed polling =>
      have routed := polling.symm.trans sent
      obtain ⟨exchange, earlier, same⟩ := Option.map_eq_some_iff.mp routed
      cases exchange with
      | sent request => exact earlier.trans (congrArg some same)
      | pending token =>
        simp only [Exchange.route] at same
        split at same
        · split at same <;> cases same
        · cases same
      | answered answer => cases same
    | cycled => exact absurd ⟨_, rfl⟩ quiet
    | @arrived _ _ answer _ _ polling =>
      have same : some (Exchange.taken answer) = some (.sent body) := polling.symm.trans sent
      cases answer <;> cases same
    | lost polling | refused polling | processed _ polling => cases polling.symm.trans sent
    | kept _ polling => exact polling.symm.trans sent

/-- The poll of a cycle arrives once. -/
theorem arrives_once {start final : Loop} {steps : List LoopTransition}
    (run : (pollLoop platform prepare config loopConfig).Run start steps final)
    (quiet : ∀ t ∈ steps, ¬ t.Polls) :
    (∀ t ∈ steps, ∀ u ∈ steps, ∀ body answer body' answer', t.Arrives body answer →
      u.Arrives body' answer' → t = u) ∧
      ∀ body, final.agent.polling = some (.sent body) →
        ∀ t ∈ steps, ∀ body' answer, ¬ t.Arrives body' answer := by
  induction run with
  | nil => simp
  | @snoc trace t run fires inductionHypothesis =>
    have within (u : LoopTransition) (member : u ∈ trace) : u ∈ trace ++ [t] :=
      List.mem_append_left [t] member
    obtain ⟨once, before⟩ := inductionHypothesis fun u member => quiet u (within u member)
    by_cases arrival : ∃ body answer, LoopTransition.Arrives t body answer
    · obtain ⟨body, answer, arrives⟩ := arrival
      have first (u : LoopTransition) (member : u ∈ trace) (body' : PollBody) (answer' : Reply) :
          ¬ u.Arrives body' answer' := before body arrives.sent u member body' answer'
      refine ⟨fun u member v member' _ _ _ _ left right => ?_, fun other sent => ?_⟩
      · rcases List.mem_append.mp member with earlier | last
        · exact absurd left (first u earlier _ _)
        · rcases List.mem_append.mp member' with earlier' | last'
          · exact absurd right (first v earlier' _ _)
          · rw [List.mem_singleton.mp last, List.mem_singleton.mp last']
      · exact absurd sent ((performs_of_arrives fires arrives).2 other)
    · have stays (u : LoopTransition) (member : u ∈ trace ++ [t]) {body : PollBody}
          {answer : Reply} (arrives : u.Arrives body answer) : u ∈ trace := by
        rcases List.mem_append.mp member with earlier | last
        · exact earlier
        · rw [List.mem_singleton.mp last] at arrives
          exact absurd ⟨body, answer, arrives⟩ arrival
      refine ⟨fun u member v member' _ _ _ _ left right => ?_,
        fun body sent u member _ _ left => ?_⟩
      · exact once u (stays u member left) v (stays v member' right) _ _ _ _ left right
      · have waited := sent_of_post fires (quiet t (by simp)) sent
        exact before body waited u (stays u member left) _ _ left

theorem receptive_of_held {start final : Loop} {steps : List LoopTransition} {window : ℚ}
    (run : (pollLoop platform prepare config loopConfig).Run start steps final)
    (quiet : ∀ t ∈ steps, ¬ t.Polls) (held : Held window steps) :
    ∀ t ∈ steps, Receptive t := by
  intro t member body answer arrives
  have once := (arrives_once run quiet).1
  cases held with
  | @parked earlier later first u body' token split arrived _ _ =>
    have inside : first ∈ steps := by
      rw [split]
      simp
    obtain rfl := once t member first inside _ _ _ _ arrives arrived
    obtain ⟨sessionId, performed⟩ := (performs_of_arrives (run.fires_of_mem member) arrived).1
    cases arrives.sent.symm.trans arrived.sent
    exact .inl (poll_parks performed).1
  | @aborted first body' answer' inside arrived aborted =>
    obtain rfl := once t member first inside _ _ _ _ arrives arrived
    exact .inr aborted

/-! ### Pacing -/

/-- The agent slept for a positive time. -/
def Slept (steps : List LoopTransition) : Prop :=
  ∃ t ∈ steps, ∃ random sleep, t.action = .wakes random ∧ t.pre.asleep = some sleep ∧
    sleep.since < t.pre.now

/-- The cycles `first` and `second` send two polls of the agent and none in between. -/
structure Consecutive (trace : List LoopTransition) (first : LoopTransition)
    (between : List LoopTransition) (second : LoopTransition) : Prop where
  split : ∃ before after, trace = before ++ first :: (between ++ second :: after)
  first : first.Polls
  second : second.Polls
  quiet : ∀ t ∈ between, ¬ t.Polls

/-- Something held the agent up between two polls. -/
def Paced (config : Config) (loopConfig : LoopConfig) (between : List LoopTransition) : Prop :=
  Slept between ∨ Held (loopConfig.window config) between

/-- Between two polls of the agent, the first of which was answered with nothing to do, the agent
is held up exactly where it slept or the gateway could keep the poll. -/
theorem polls_paced (platform : Platform) (prepare : Prepare) (config : Config)
    (loopConfig : LoopConfig) (capped : 0 < config.maxPollWaitMs) (asks : 0 < loopConfig.pollWaitS)
    (timed : loopConfig.window config ≤ setTimeout (loopConfig.window config))
    (run : LoopRun platform prepare config loopConfig) (first second : LoopTransition)
    (between : List LoopTransition) (consecutive : Consecutive run.trace first between second)
    (empty : ∃ t ∈ between, t.AnsweredEmpty) :
    Paced config loopConfig between ↔ Slept between ∨ ∀ t ∈ between, Receptive t := by
  obtain ⟨⟨before, after, split⟩, ⟨ready, performs⟩, -, quiet⟩ := consecutive
  have whole := run.run
  rw [split, ← List.cons_append, ← List.append_assoc] at whole
  obtain ⟨prior, -, -⟩ := whole.split
  obtain ⟨initially, fires, steps⟩ := prior.split
  constructor
  · rintro (slept | held)
    · exact .inl slept
    · exact .inr (receptive_of_held steps quiet held)
  · rintro (slept | receptive)
    · exact .inl slept
    · have counted : first.post.Counted := by
        have start : (pollLoop platform prepare config loopConfig).initial.Counted := by
          intro parked member
          cases member
        have reached := initially.invariant (P := Loop.Counted) start
          fun u fires => loop_counted_step fires
        exact loop_counted_step fires reached
      have positive : 0 < loopConfig.window config := by
        have capped : (0 : ℚ) < config.maxPollWaitMs := by exact_mod_cast capped
        exact lt_min (by positivity) capped
      have stage : Stage config (loopConfig.window config) [] first.post
          first.post.agent.polling := by
        rw [sent_of_polls fires performs]
        exact .sent (waitMs_pollBody asks timed)
      rcases held_of_run steps counted positive timed stage quiet receptive with
        held | ⟨-, busy⟩
      · exact .inr held
      · obtain ⟨t, member, answered⟩ := empty
        exact absurd answered (busy t member)

/-! ### Sample loops -/

/-- The loop of the first sample pod. -/
def sampleLoop : LoopConfig where
  toAgentConfig := sampleAgent
  pollErrorBackoffS := 1
  pollErrorBackoffMaxS := 30

abbrev sampleLoopRun (actions : List LoopAction)
    (accepted : ((pollLoop .counting samplePrepare .default sampleLoop).exec
      (Loop.initial sampleLoop) actions).isSome) :
    LoopRun .counting samplePrepare .default sampleLoop :=
  .perform _ actions accepted

/-- The pod is ready, and its poll waits for the whole window. -/
def sampleWindow : List LoopAction :=
  [.session (.pollArrives "session"), .session (.gateway (.tick 25000)),
    .session (.gateway (.expirePoll 0)), .session (.gateway (.resumePoll 0)), .session .receive]

/-- The pod is warming, and its poll is answered at once. -/
def sampleWarming : List LoopAction := [.session (.pollArrives "session"), .session .receive]

/-- Two cycles with some actions in between. -/
def twoCycles (ready : Bool) (between : List LoopAction) : List LoopAction :=
  .session (.cycle ready) :: (between ++ [.session (.cycle ready)])

def LoopTransition.answersEmpty (t : LoopTransition) : Bool :=
  match t.action, t.reply with
  | .session .receive, .processed response _ =>
    response.assign.isEmpty && response.cancel.isEmpty && response.orphan.isEmpty
  | _, _ => false

/-- Nobody is parked in the step and the gateway is not shutting down. -/
def LoopTransition.atOnce (t : LoopTransition) : Bool :=
  match t.reply with
  | .gateway (.pending _) => false
  | _ => !t.pre.gateway.aborted

theorem answeredEmpty_of_answersEmpty {t : LoopTransition} (empty : t.answersEmpty = true) :
    t.AnsweredEmpty := by
  unfold LoopTransition.answersEmpty at empty
  split at empty
  · next response started receives processed =>
    simp only [Bool.and_eq_true, List.isEmpty_iff] at empty
    exact ⟨receives, response, started, processed, empty.1.1, empty.1.2, empty.2⟩
  · cases empty

theorem consecutive_twoCycles {ready : Bool} {between : List LoopAction}
    (others : ∀ action ∈ between, ∀ ready, action ≠ .session (.cycle ready))
    {trace : List LoopTransition}
    (actions : trace.map Transition.action = twoCycles ready between)
    (empty : trace.any LoopTransition.answersEmpty = true) :
    ∃ first steps second, trace = first :: (steps ++ [second]) ∧
      steps.map Transition.action = between ∧ Consecutive trace first steps second ∧
      ∃ t ∈ steps, t.AnsweredEmpty := by
  obtain ⟨first, rest, rfl, performs, last⟩ := List.map_eq_cons_iff.mp actions
  obtain ⟨steps, tail, rfl, same, ends⟩ := List.map_eq_append_iff.mp last
  obtain ⟨second, none, rfl, performs', done⟩ := List.map_eq_cons_iff.mp ends
  obtain rfl := List.map_eq_nil_iff.mp done
  refine ⟨first, steps, second, rfl, same, ⟨⟨[], [], rfl⟩, ⟨ready, performs⟩,
    ⟨ready, performs'⟩, ?_⟩, ?_⟩
  · rintro t member ⟨again, polls⟩
    exact others t.action (same ▸ List.mem_map_of_mem member) again polls
  · obtain ⟨t, member, answers⟩ := List.any_eq_true.mp empty
    have answered := answeredEmpty_of_answersEmpty answers
    have inside : t ∈ steps := by
      rcases List.mem_cons.mp member with rfl | rest
      · cases performs.symm.trans answered.receives
      · rcases List.mem_append.mp rest with inside | last
        · exact inside
        · obtain rfl := List.mem_singleton.mp last
          cases performs'.symm.trans answered.receives
    exact ⟨t, inside, answered⟩

theorem polls_paced_sample :
    ∃ first between second, Consecutive (sampleLoopRun (twoCycles true sampleWindow)
        (by decide +kernel)).trace first between second ∧
      (Paced .default sampleLoop between ↔ Slept between ∨ ∀ t ∈ between, Receptive t) := by
  obtain ⟨first, between, second, -, -, consecutive, empty⟩ := consecutive_twoCycles
    (by simp [sampleWindow]) (Machine.Execution.actions_perform
      (show ((pollLoop .counting samplePrepare .default sampleLoop).exec
        (Loop.initial sampleLoop) (twoCycles true sampleWindow)).isSome by decide +kernel))
    (by decide +kernel)
  have window : sampleLoop.window .default = (25000 : Int) := by decide +kernel
  have timed : sampleLoop.window .default ≤ setTimeout (sampleLoop.window .default) := by
    rw [window, setTimeout_of_whole (by decide) (by decide)]
  refine ⟨first, between, second, consecutive, ?_⟩
  exact polls_paced .counting samplePrepare .default sampleLoop (by decide) (by decide +kernel)
    timed _ first second between consecutive empty

theorem not_polls_paced :
    ¬ ∀ run : LoopRun .counting samplePrepare .default sampleLoop, ∀ first between second,
      Consecutive run.trace first between second → (∃ t ∈ between, t.AnsweredEmpty) →
        Paced .default sampleLoop between := by
  intro paced
  obtain ⟨first, between, second, split, actions, consecutive, empty⟩ := consecutive_twoCycles
    (by simp [sampleWarming]) (Machine.Execution.actions_perform
      (show ((pollLoop .counting samplePrepare .default sampleLoop).exec
        (Loop.initial sampleLoop) (twoCycles false sampleWarming)).isSome by decide +kernel))
    (by decide +kernel)
  have atOnce : (sampleLoopRun (twoCycles false sampleWarming)
    (by decide +kernel)).trace.all LoopTransition.atOnce = true := by decide +kernel
  have swift (t : LoopTransition) (member : t ∈ between) : t.atOnce = true := by
    apply List.all_eq_true.mp atOnce t
    rw [show (sampleLoopRun (twoCycles false sampleWarming) (by decide +kernel)).trace = _
      from split]
    simp [member]
  rcases paced _ first between second consecutive empty with slept | held
  · obtain ⟨t, member, random, sleep, wakes, -⟩ := slept
    have performed : t.action ∈ sampleWarming := actions ▸ List.mem_map_of_mem member
    simp [wakes, sampleWarming] at performed
  · cases held with
    | @parked _ _ t _ _ _ same arrives =>
      have once := swift t (by rw [same]; simp)
      simp [LoopTransition.atOnce, arrives.reply] at once
    | @aborted t body answer member arrives aborted =>
      have once := swift t member
      unfold LoopTransition.atOnce at once
      split at once
      · cases once
      · simp [aborted] at once

end InferenceGateway
