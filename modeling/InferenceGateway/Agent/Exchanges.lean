import InferenceGateway.Agent.Moves

/-!
# The requests of an execution

A request is answered by the next step of the runner itself; only flags and
ticks come between the two.
-/

namespace InferenceGateway

open Library

/-- The form of `create_video`. -/
def AgentAssignment.form (assignment : AgentAssignment) : List (String × String) :=
  assignment.fields.map fun (key, value) => (key, value.str)

/-- The request the runner awaits. -/
def RunnerState.pending (platform : Platform) (state : RunnerState) : Option HttpCall :=
  match state.point with
  | .fetching => some (.getInput state.job.assignment.inputUrl state.job.assignment.leaseId)
  | .creating image =>
    some (.createVideo state.job.assignment.endpoint state.job.assignment.form image)
  | .polling id => some (.getVideo id)
  | .downloading id => some (.getContent id)
  | .uploading media _ => some (.postArtifact state.job.jobId state.job.assignment.leaseId
      "output.mp4" (platform.sha256 media) media)
  | .deleting id => some (.cancelVideo "DELETE" id)
  | .cancelling id => some (.cancelVideo "POST" id)
  | _ => none

/-- The request a step leaves the runner waiting for. -/
def RunnerReply.awaits (before : Option HttpCall) : RunnerReply → Option HttpCall
  | .calls call => some call
  | .silent => before
  | _ => none

/-- In an execution, the request comes to the outcome. -/
def Answered (trace : List RunnerTransition) (call : HttpCall) (outcome : HttpOutcome) : Prop :=
  ∃ before asks between answers after,
    trace = before ++ asks :: (between ++ answers :: after) ∧ asks.reply = .calls call ∧
      (∀ t ∈ between, t.reply = .silent) ∧ answers.action = .answer outcome

variable {platform : Platform} {config : RunnerConfig} {assignment : AgentAssignment} {start : ℚ}

/-! ### Requests and answers -/

/-- A turn of the runner itself awaits what it calls. -/
def Awaits (platform : Platform) (result : RunnerReply × RunnerState) : Prop :=
  result.2.pending platform = result.1.awaits none ∧ result.1 ≠ .silent

section Awaits

variable {state : RunnerState}

theorem awaits_returns (body : ResultBody) : Awaits platform (state.returns body) :=
  ⟨rfl, nofun⟩

theorem awaits_raises (exception : Raised) : Awaits platform (state.raises exception) :=
  ⟨rfl, nofun⟩

theorem awaits_handle (exception : Raised) : Awaits platform (state.handle exception) := by
  cases exception with
  | cancelled =>
    simp only [RunnerState.handle]
    split
    · exact ⟨rfl, by rintro ⟨⟩⟩
    · exact awaits_returns _
  | staleLease | interrupted => exact awaits_raises _
  | sglang message retryable => exact awaits_returns _
  | exception message => exact awaits_returns _

theorem awaits_await (id : String) : Awaits platform (state.await id) := by
  unfold RunnerState.await
  split
  · exact awaits_handle _
  · exact ⟨rfl, nofun⟩

theorem awaits_onPoll (id : String) : Awaits platform (state.onPoll config id) := by
  unfold RunnerState.onPoll
  split
  · exact awaits_handle _
  · exact ⟨rfl, nofun⟩

theorem awaits_upload (media : Bytes) : Awaits platform (state.upload platform config media) := by
  unfold RunnerState.upload
  split
  · exact ⟨rfl, by rintro ⟨⟩⟩
  · exact awaits_handle _

theorem awaits_cancelAnswered {next : RunnerReply × RunnerState} (awaits : Awaits platform next)
    (outcome : HttpOutcome) : Awaits platform (state.cancelAnswered next outcome) := by
  cases outcome with
  | response response =>
    simp only [RunnerState.cancelAnswered]
    split
    · exact awaits_returns _
    · exact awaits
  | httpError message => exact awaits
  | exception message | interrupted => exact awaits_raises _

theorem awaits_cancelAgain (id : String) : Awaits platform (state.cancelAgain id) :=
  ⟨rfl, by rintro ⟨⟩⟩

theorem awaits_fetched (image : Bytes) : Awaits platform (state.fetched image) := by
  unfold RunnerState.fetched
  split
  · exact awaits_returns _
  · exact ⟨rfl, nofun⟩

theorem awaits_missed (media : Bytes) (attempt : Int) (last : String) :
    Awaits platform (state.uploaded platform config media attempt (some last)) := by
  simp only [RunnerState.uploaded]
  split
  · exact ⟨rfl, by rintro ⟨⟩⟩
  · exact awaits_handle _

end Awaits

/-- A step either is a turn of the runner or leaves it where it is. -/
theorem Move.awaits {state : RunnerState} {action : RunnerAction}
    {result : RunnerReply × RunnerState} (moves : Move platform config state action result) :
    Awaits platform result ∨ result.1 = .silent ∧ result.2.point = state.point ∧
      result.2.job.assignment = state.job.assignment := by
  cases moves with
  | flagged | ticked => exact .inr ⟨rfl, rfl, rfl⟩
  | began | finished | polls | posts => exact .inl ⟨rfl, by rintro ⟨⟩⟩
  | threw throws => exact .inl (awaits_handle _)
  | fetched => exact .inl (awaits_fetched _)
  | created => exact .inl (awaits_await _)
  | waits => exact .inl (awaits_onPoll _)
  | downloaded => exact .inl (awaits_upload _)
  | landed => exact .inl (awaits_returns _)
  | missed => exact .inl (awaits_missed _ _ _)
  | deleted => exact .inl (awaits_cancelAnswered (awaits_cancelAgain _) _)
  | cancelled => exact .inl (awaits_cancelAnswered (awaits_returns _) _)

section Fires

variable {t : RunnerTransition}

theorem moves_of_fires (fires : (runner platform config assignment start).Fires t) :
    Move platform config t.pre t.action (t.reply, t.post) := move fires

theorem pending_step (fires : (runner platform config assignment start).Fires t) :
    t.post.pending platform = t.reply.awaits (t.pre.pending platform) := by
  rcases (moves_of_fires fires).awaits with ⟨awaits, turn⟩ | ⟨silent, point, same⟩
  · change t.post.pending platform = t.reply.awaits none at awaits
    change t.reply ≠ .silent at turn
    rw [awaits]
    cases replied : t.reply with
    | silent => exact absurd replied turn
    | calls | sleeps | returns | raises => rfl
  · change t.reply = .silent at silent
    change t.post.point = t.pre.point at point
    change t.post.job.assignment = t.pre.job.assignment at same
    rw [silent]
    simp only [RunnerReply.awaits, RunnerState.pending, point, JobState.jobId, same]

end Fires

/-- The request a runner waits for is the last thing it did. -/
def Asked (platform : Platform) (trace : List RunnerTransition) (state : RunnerState) : Prop :=
  ∀ call, state.pending platform = some call → ∃ before asks between,
    trace = before ++ asks :: between ∧ asks.reply = .calls call ∧
      ∀ t ∈ between, t.reply = .silent

theorem asked_of_run {trace : List RunnerTransition} {final : RunnerState}
    (run : (runner platform config assignment start).Run (.starting assignment start) trace final) :
    Asked platform trace final := by
  apply run.history (P := Asked platform)
  · intro call waiting
    cases waiting
  · intro before t _ fires asked call waiting
    rw [pending_step fires] at waiting
    cases replied : t.reply with
    | calls other =>
      rw [replied] at waiting
      obtain rfl := Option.some.inj waiting
      exact ⟨before, t, [], rfl, replied, fun _ member => (List.not_mem_nil member).elim⟩
    | silent =>
      rw [replied] at waiting
      obtain ⟨earlier, asks, between, rfl, called, quiet⟩ := asked call waiting
      refine ⟨earlier, asks, between ++ [t], by simp, called, fun u member => ?_⟩
      rcases List.mem_append.mp member with inside | last
      · exact quiet u inside
      · rw [List.mem_singleton.mp last, replied]
    | sleeps | returns | raises =>
      rw [replied] at waiting
      cases waiting

theorem answered_of_mem {trace : List RunnerTransition} {final : RunnerState}
    (run : (runner platform config assignment start).Run (.starting assignment start) trace final)
    {t : RunnerTransition} (member : t ∈ trace) {call : HttpCall} {outcome : HttpOutcome}
    (waiting : t.pre.pending platform = some call) (answers : t.action = .answer outcome) :
    Answered trace call outcome := by
  obtain ⟨before, after, rfl⟩ := List.append_of_mem member
  obtain ⟨earlier, asks, between, rfl, called, quiet⟩ :=
    asked_of_run run.split.1 call waiting
  exact ⟨earlier, asks, between, t, after, by simp, called, quiet, answers⟩

theorem Answered.append {trace : List RunnerTransition} {call : HttpCall} {outcome : HttpOutcome}
    (answered : Answered trace call outcome) (later : List RunnerTransition) :
    Answered (trace ++ later) call outcome := by
  obtain ⟨before, asks, between, answers, after, rfl, rest⟩ := answered
  exact ⟨before, asks, between, answers, after ++ later, by simp, rest⟩

/-- An answer comes while the request is awaited. -/
theorem Answered.mem {trace : List RunnerTransition} {final : RunnerState}
    (run : (runner platform config assignment start).Run (.starting assignment start) trace final)
    {call : HttpCall} {outcome : HttpOutcome} (answered : Answered trace call outcome) :
    ∃ t ∈ trace, t.pre.pending platform = some call ∧ t.action = .answer outcome := by
  obtain ⟨before, asks, between, answers, after, rfl, called, quiet, action⟩ := answered
  refine ⟨answers, by simp, ?_, action⟩
  obtain ⟨-, fires, rest⟩ := run.split
  apply rest.split.1.preserves (P := fun state => state.pending platform = some call)
  · rw [pending_step fires, called]
    rfl
  · intro t member fires waiting
    rw [pending_step fires, quiet t member]
    exact waiting

/-! ### The end -/

/-- An execution that has ended stays where it is. -/
theorem point_of_ended {t : RunnerTransition}
    (fires : (runner platform config assignment start).Fires t)
    (ended : t.pre.point.ended = true) : t.post.point = t.pre.point := by
  have moves := moves_of_fires fires
  obtain ⟨pre, action, reply, post⟩ := t
  dsimp only at moves ended ⊢
  generalize result : (reply, post) = both at moves
  rw [show post = both.2 from congrArg Prod.snd result]
  cases moves with
  | flagged | ticked => rfl
  | threw throws => cases throws <;> simp_all [RunnerPoint.ended]
  | _ => simp_all [RunnerPoint.ended]

theorem point_of_run {first final : RunnerState} {trace : List RunnerTransition}
    (run : (runner platform config assignment start).Run first trace final)
    (ended : first.point.ended = true) : final.point = first.point := by
  apply run.preserves (P := fun state => state.point = first.point)
  · rfl
  · intro t _ fires same
    exact (point_of_ended fires (same ▸ ended)).trans same

end InferenceGateway
