import InferenceGateway.Agent.Session

/-!
# The poll loop and the clock

`Agent.run` around the session: a cycle that fails is slept off before the next
one, and a cycle that succeeds is followed by the next at once.  The timer of a
parked poll fires when `setTimeout` has waited its delay, or later.
-/

namespace InferenceGateway

open Library

/-- `Config` of the agent, with the backoff of `run`. -/
structure LoopConfig extends AgentConfig where
  pollErrorBackoffS : ℚ
  pollErrorBackoffMaxS : ℚ

/-- The delay `setTimeout` takes for a number of milliseconds: a whole number, and 1 for
everything below 1 or above 2³¹ - 1. -/
def setTimeout (ms : ℚ) : ℚ :=
  if 1 ≤ ms ∧ ms ≤ 2147483647 then ⌊ms⌋ else 1

theorem setTimeout_of_whole {n : Int} (positive : 0 < n) (bounded : n ≤ 2147483647) :
    setTimeout n = n := by
  have least : (1 : ℚ) ≤ n := by exact_mod_cast positive
  have most : (n : ℚ) ≤ 2147483647 := by exact_mod_cast bounded
  rw [setTimeout, if_pos ⟨least, most⟩, Int.floor_intCast]

/-- A running `_sleep`. -/
structure Sleep where
  since : Millis
  ends : ℚ
  /-- The backoff grows afterwards. -/
  grows : Bool

structure Loop where
  session : Session
  /-- When the timer of the poll parked under a token fires. -/
  due : Nat → ℚ
  backoff : ℚ
  asleep : Option Sleep

inductive LoopAction where
  /-- The gateway, the cycle or a runner takes a turn. -/
  | session (action : SessionAction)
  /-- A cycle raises before it has sent its poll. -/
  | raises
  /-- `_sleep` returns, and `random.random()` draws a number. -/
  | wakes (random : ℚ)

namespace Loop

variable (platform : Platform) (prepare : Prepare) (config : Config) (loopConfig : LoopConfig)

def initial : Loop where
  session := Session.initial
  due := fun _ => 0
  backoff := loopConfig.pollErrorBackoffS
  asleep := none

variable (loop : Loop)

abbrev gateway : Gateway := loop.session.gateway

abbrev agent : Agent := loop.session.agent

abbrev now : Millis := loop.gateway.now

/-- The poll that reaches the gateway in a turn. -/
def polled : SessionAction → Option PollBody
  | .gateway (.poll body _) => some body
  | .pollArrives _ =>
    match loop.agent.polling with
    | some (.sent body) => some body
    | _ => none
  | _ => none

/-- A timer fires when it is due, and a cycle starts when nobody sleeps. -/
def allows : SessionAction → Bool
  | .gateway (.expirePoll token) => loop.due token ≤ loop.now
  | .cycle _ => loop.asleep.isNone
  | _ => true

/-- The timers after a turn. -/
def timers (action : SessionAction) (reply : SessionReply) : Nat → ℚ :=
  match loop.polled action, reply with
  | some body, .gateway (.pending token) =>
    Function.update loop.due token (loop.now + setTimeout (body.waitMs config))
  | _, _ => loop.due

/-- `_sleep(backoff)`. -/
def sleep (grows : Bool) : Sleep where
  since := loop.now
  ends := loop.now + loop.backoff * 1000
  grows := grows

/-- The loop after a turn of the session. -/
def turned (action : SessionAction) (reply : SessionReply) (session : Session) : Loop where
  session := session
  due := loop.timers config action reply
  backoff :=
    match reply with
    | .processed .. => loopConfig.pollErrorBackoffS
    | _ => loop.backoff
  asleep :=
    match action, reply with
    | .pollFails, _ => some (loop.sleep true)
    | .receive, .silent => some (loop.sleep true)  -- `raise_for_status`
    | _, _ => loop.asleep

/-- The backoff after a sleep that lets it grow. -/
def grown (random : ℚ) : ℚ :=
  min (loop.backoff * 2 * (3 / 4 + random * (1 / 2))) loopConfig.pollErrorBackoffMaxS

def step : LoopAction → Option (SessionReply × Loop)
  | .session action =>
    if loop.allows action then
      (loop.session.step platform prepare config loopConfig.toAgentConfig action).map
        fun (reply, session) => (reply, loop.turned config loopConfig action reply session)
    else none
  | .raises =>
    if loop.agent.stopping || loop.agent.polling.isSome || loop.asleep.isSome then none
    else some (.silent, { loop with asleep := some (loop.sleep false) })
  | .wakes random =>
    match loop.asleep with
    | none => none
    | some sleep =>
      if (sleep.ends ≤ loop.now ∨ loop.agent.stopping) ∧ 0 ≤ random ∧ random < 1 then
        some (.silent, { loop with
          asleep := none
          backoff := if sleep.grows then loop.grown loopConfig random else loop.backoff })
      else none

end Loop

/-- The poll loop of one agent and the gateway, both just started. -/
def pollLoop (platform : Platform) (prepare : Prepare) (config : Config)
    (loopConfig : LoopConfig) : Machine Loop LoopAction SessionReply where
  initial := Loop.initial loopConfig
  step := Loop.step platform prepare config loopConfig

abbrev LoopTransition := Transition Loop LoopAction SessionReply

abbrev LoopRun (platform : Platform) (prepare : Prepare) (config : Config)
    (loopConfig : LoopConfig) :=
  (pollLoop platform prepare config loopConfig).Execution

end InferenceGateway
