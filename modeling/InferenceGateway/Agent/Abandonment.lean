import InferenceGateway.Agent.Delivery

/-!
# Abandoned jobs

The flag of a job is looked at after the input has come and after a status poll
of an unfinished job.  What an execution makes of a flag that goes up anywhere
else depends on what its next request comes to.
-/

namespace InferenceGateway

open Library

def RunnerReply.posts : RunnerReply → Bool
  | .calls (.postArtifact ..) => true
  | _ => false

/-- How far an execution has come. -/
def RunnerPoint.stage : RunnerPoint → Nat
  | .entering => 0
  | .fetching => 1
  | .creating _ => 2
  | .polling _ | .sleeping _ => 3
  | .downloading _ => 4
  | .uploading .. | .backingOff .. => 5
  | .deleting _ => 6
  | .cancelling _ => 7
  | .returned _ | .raised _ => 8

/-- A status poll saw the job at its end. -/
def Terminal (trace : List RunnerTransition) (id : String) : Prop :=
  ∃ response payload, Answered trace (.getVideo id) (.response response) ∧
    response.status < 400 ∧ response.payload = .ok payload ∧
      (statusOf payload ∈ terminalOk ∨ statusOf payload ∈ terminalBad)

def AskedToCancel (trace : List RunnerTransition) (id : String) : Prop :=
  ∃ t ∈ trace, ∃ method, t.reply = .calls (.cancelVideo method id)

/-- Nothing was uploaded, and a job of `sglang` that still ran at the end was to be cancelled. -/
structure Abandons (assignment : AgentAssignment) (trace : List RunnerTransition)
    (final : RunnerState) : Prop where
  unposted : ∀ t ∈ trace, t.reply.posts = false
  incomplete : ∀ body, final.point = .returned body → body.state ≠ .string "completed"
  told : final.point.ended = true → ∀ image id, Created assignment trace image id → id ≠ "" →
    ¬ Terminal trace id → AskedToCancel trace id

/-- A flag raised before the first upload makes the execution abandon the job. -/
def HeedsFlag (assignment : AgentAssignment) (trace : List RunnerTransition)
    (final : RunnerState) : Prop :=
  ∀ before t after, trace = before ++ t :: after → t.action = .raiseFlag →
    (∀ u ∈ before, u.reply.posts = false) → Abandons assignment trace final

/-- The response can be read as a status. -/
def HttpOutcome.Readable (outcome : HttpOutcome) : Prop :=
  ∃ response payload, outcome = .response response ∧ response.status < 400 ∧
    response.payload = .ok payload

/-- The flag is up and the step goes past it: the clip arrives, or a job that still runs is
left alone because a status poll fails, the sleep is interrupted or the time is up. -/
inductive Overlooks (config : RunnerConfig) (t : RunnerTransition) : Prop where
  | downloaded {id : String} {response : HttpResponse} (flagged : t.pre.job.cancelled = true)
      (here : t.pre.point = .downloading id) (answers : t.action = .answer (.response response))
      (accepted : response.status = 200) (attempts : 1 ≤ config.uploadAttempts)
  | unread {id : String} {outcome : HttpOutcome} (flagged : t.pre.job.cancelled = true)
      (here : t.pre.point = .polling id) (answers : t.action = .answer outcome)
      (unread : ¬ outcome.Readable)
  | interrupted {id : String} (flagged : t.pre.job.cancelled = true)
      (here : t.pre.point = .sleeping id) (stops : t.action = .interrupt)
  | overdue {id : String} (flagged : t.pre.job.cancelled = true)
      (here : t.pre.point = .sleeping id) (wakes : t.action = .wake)
      (late : t.pre.deadline < t.pre.now)
  | late {image : Bytes} {response : HttpResponse} {payload : String → Option Loaded}
      {id : String} (flagged : t.pre.job.cancelled = true)
      (here : t.pre.point = .creating image) (answers : t.action = .answer (.response response))
      (accepted : response.status < 400) (loaded : response.payload = .ok payload)
      (named : payload "id" = some (.text id)) (nonempty : id ≠ "")
      (late : t.pre.deadline < t.pre.now)

variable {platform : Platform} {config : RunnerConfig} {assignment : AgentAssignment} {start : ℚ}
  {trace : List RunnerTransition} {t : RunnerTransition}

/-! ### Stages and flags -/

theorem stage_handle (state : RunnerState) (exception : Raised) :
    6 ≤ (state.handle exception).2.point.stage := by
  cases exception with
  | cancelled =>
    simp only [RunnerState.handle]
    split <;> simp [RunnerState.calls, RunnerState.returns, RunnerPoint.stage]
  | _ => simp [RunnerState.handle, RunnerState.raises, RunnerState.returns, RunnerPoint.stage]

theorem stage_cancelAnswered {state : RunnerState} {next : RunnerReply × RunnerState}
    (later : 7 ≤ next.2.point.stage) (outcome : HttpOutcome) :
    7 ≤ (state.cancelAnswered next outcome).2.point.stage := by
  cases outcome with
  | response response =>
    simp only [RunnerState.cancelAnswered]
    split
    · simp [RunnerState.returns, RunnerPoint.stage]
    · exact later
  | httpError message => exact later
  | exception message | interrupted =>
    simp [RunnerState.cancelAnswered, RunnerState.raises, RunnerPoint.stage]

theorem stage_of_throws {state : RunnerState} {action : RunnerAction} {exception : Raised}
    (throws : Throws platform state action exception) :
    1 ≤ state.point.stage ∧ state.point.stage ≤ 5 := by
  cases throws with
  | fetching here | creating here | polling here | overdue here | downloading here
  | uploading here | sleeping here | backingOff here =>
    rw [here]
    exact ⟨Nat.le_of_ble_eq_true rfl, Nat.le_of_ble_eq_true rfl⟩

/-- An execution never goes back. -/
theorem Move.stage {state : RunnerState} {action : RunnerAction}
    {result : RunnerReply × RunnerState} (moves : Move platform config state action result) :
    state.point.stage ≤ result.2.point.stage := by
  cases moves with
  | flagged | ticked => exact le_rfl
  | began here | finished here | polls here | landed here | posts here =>
    rw [here]
    exact Nat.le_of_ble_eq_true rfl
  | threw throws => exact (stage_of_throws throws).2.trans ((by decide : 5 ≤ 6).trans
      (stage_handle _ _))
  | fetched here =>
    rw [here]
    unfold RunnerState.fetched
    split <;> exact Nat.le_of_ble_eq_true rfl
  | created here =>
    rw [here]
    unfold RunnerState.created RunnerState.await
    split <;> exact Nat.le_of_ble_eq_true rfl
  | waits here =>
    rw [here]
    unfold RunnerState.onPoll
    split
    · exact (by decide : 3 ≤ 6).trans (stage_handle _ _)
    · exact Nat.le_of_ble_eq_true rfl
  | downloaded here =>
    rw [here]
    unfold RunnerState.downloaded RunnerState.upload
    split <;> exact Nat.le_of_ble_eq_true rfl
  | missed here =>
    rw [here]
    simp only [RunnerState.uploaded]
    split <;> exact Nat.le_of_ble_eq_true rfl
  | deleted here =>
    rw [here]
    exact (by decide : 6 ≤ 7).trans (stage_cancelAnswered le_rfl _)
  | cancelled here =>
    rw [here]
    exact stage_cancelAnswered (Nat.le_of_ble_eq_true rfl) _

/-! ### Where the id of the job is -/

/-- The id `sglang` gave is in the table from the answer of the creation on. -/
def Named (state : RunnerState) : Prop :=
  match state.point with
  | .entering | .fetching | .creating _ => state.job.upstreamId = none
  | .polling id | .sleeping id | .downloading id | .deleting id | .cancelling id =>
    state.job.upstreamId = some id ∧ id ≠ ""
  | _ => True

/-- `_Cancelled` asks `sglang` to cancel the job. -/
theorem handle_cancelled {state : RunnerState} {id : String}
    (named : state.job.upstreamId = some id) (nonempty : id ≠ "") :
    state.handle .cancelled = state.calls (.deleting id) (.cancelVideo "DELETE" id) := by
  simp [RunnerState.handle, named, Option.filter, nonempty]

theorem named_handle {state : RunnerState} (exception : Raised) :
    Named (state.handle exception).2 := by
  cases exception with
  | cancelled =>
    simp only [RunnerState.handle]
    split
    · next id named =>
      obtain ⟨same, nonempty⟩ := Option.filter_eq_some_iff.mp named
      exact ⟨same, of_decide_eq_true nonempty⟩
    · trivial
  | _ => trivial

theorem named_cancelAnswered {state : RunnerState} {next : RunnerReply × RunnerState}
    (named : Named next.2) (outcome : HttpOutcome) :
    Named (state.cancelAnswered next outcome).2 := by
  cases outcome with
  | response response =>
    simp only [RunnerState.cancelAnswered]
    split
    · trivial
    · exact named
  | httpError message => exact named
  | exception message | interrupted => trivial

theorem Move.named {state : RunnerState} {action : RunnerAction}
    {result : RunnerReply × RunnerState} (moves : Move platform config state action result)
    (named : Named state) : Named result.2 := by
  cases moves with
  | flagged | ticked => exact named
  | began here | finished here | polls here =>
    rw [Named, here] at named
    exact named
  | landed | posts => trivial
  | threw => exact named_handle _
  | fetched here =>
    rw [Named, here] at named
    unfold RunnerState.fetched
    split
    · trivial
    · exact named
  | created here created =>
    unfold RunnerState.created RunnerState.await
    split
    · trivial
    · exact ⟨rfl, (createVideo_ok created).1⟩
  | waits here =>
    rw [Named, here] at named
    unfold RunnerState.onPoll
    split
    · exact named_handle _
    · exact named
  | downloaded =>
    unfold RunnerState.downloaded RunnerState.upload
    split
    · trivial
    · exact named_handle _
  | missed =>
    simp only [RunnerState.uploaded]
    split
    · trivial
    · exact named_handle _
  | @deleted id outcome here =>
    rw [Named, here] at named
    have next : Named (state.cancelAgain id).2 := named
    exact named_cancelAnswered next outcome
  | @cancelled id outcome =>
    have next : Named (state.returns cancelledResult).2 := trivial
    exact named_cancelAnswered next outcome

theorem named_of_run {first final : RunnerState}
    (run : (runner platform config assignment start).Run first trace final)
    (named : Named first) : Named final :=
  run.invariant named fun _ fires => (moves_of_fires fires).named

/-! ### Facts about runs -/

section Runs

variable {first final : RunnerState}

theorem stage_of_run (run : (runner platform config assignment start).Run first trace final) :
    first.point.stage ≤ final.point.stage := by
  apply run.preserves (P := fun state => first.point.stage ≤ state.point.stage)
  · exact le_rfl
  · intro t _ fires later
    exact later.trans (moves_of_fires fires).stage

theorem upstreamId_of_run (run : (runner platform config assignment start).Run first trace final)
    (later : 3 ≤ first.point.stage) : final.job.upstreamId = first.job.upstreamId := by
  have kept : 3 ≤ final.point.stage ∧ final.job.upstreamId = first.job.upstreamId := by
    apply run.preserves (P := fun state =>
      3 ≤ state.point.stage ∧ state.job.upstreamId = first.job.upstreamId)
    · exact ⟨later, rfl⟩
    · rintro t - fires ⟨later, same⟩
      have beyond (image : Bytes) : t.pre.point ≠ .creating image := by
        intro here
        rw [here] at later
        exact absurd later (Nat.not_le_of_gt (Nat.lt_succ_self 2))
      exact ⟨later.trans (moves_of_fires fires).stage,
        ((moves_of_fires fires).job.upstreamId beyond).trans same⟩
  exact kept.2

/-- A flag that is up was raised. -/
theorem raised_of_cancelled
    (run : (runner platform config assignment start).Run (.starting assignment start) trace final)
    (flagged : final.job.cancelled = true) : ∃ t ∈ trace, t.action = .raiseFlag := by
  have history : final.job.cancelled = true → ∃ t ∈ trace, t.action = .raiseFlag := by
    apply run.history (P := fun trace state =>
      state.job.cancelled = true → ∃ t ∈ trace, t.action = .raiseFlag)
    · exact nofun
    · intro before t _ fires raised flagged
      rcases (moves_of_fires fires).job.flag with ⟨action, -⟩ | ⟨-, same⟩
      · exact ⟨t, by simp, action⟩
      · obtain ⟨u, member, action⟩ := raised (same ▸ flagged)
        exact ⟨u, List.mem_append_left _ member, action⟩
  exact history flagged

/-- What a step calls is awaited behind it. -/
theorem pending_of_calls (fires : (runner platform config assignment start).Fires t)
    {call : HttpCall} (calls : t.reply = .calls call) : t.post.pending platform = some call := by
  rw [pending_step fires, calls]
  rfl

theorem stage_of_posts (fires : (runner platform config assignment start).Fires t)
    (posts : t.reply.posts = true) : t.post.point.stage = 5 := by
  unfold RunnerReply.posts at posts
  split at posts
  · next calls =>
    have waiting := pending_of_calls fires calls
    unfold RunnerState.pending at waiting
    split at waiting <;> cases waiting
    next here => rw [here]; rfl
  · cases posts

theorem stage_of_cancels (fires : (runner platform config assignment start).Fires t)
    {method id : String} (calls : t.reply = .calls (.cancelVideo method id)) :
    6 ≤ t.post.point.stage ∧ t.post.point.stage ≤ 7 := by
  have waiting := pending_of_calls fires calls
  unfold RunnerState.pending at waiting
  split at waiting <;> cases waiting
  · next here =>
    rw [here]
    exact ⟨le_rfl, Nat.le_of_ble_eq_true rfl⟩
  · next here =>
    rw [here]
    exact ⟨Nat.le_of_ble_eq_true rfl, le_rfl⟩

end Runs

/-! ### A step that overlooks the flag -/

theorem stage_of_ended {point : RunnerPoint} (ended : point.ended = true) : point.stage = 8 := by
  cases point <;> first | rfl | cases ended

theorem polling_of_pending {state : RunnerState} {id : String}
    (waiting : state.pending platform = some (.getVideo id)) : state.point = .polling id := by
  unfold RunnerState.pending at waiting
  split at waiting <;> cases waiting
  assumption

theorem creating_of_pending {state : RunnerState} {endpoint : String}
    {data : List (String × String)} {image : Bytes}
    (waiting : state.pending platform = some (.createVideo endpoint data image)) :
    state.point = .creating image := by
  unfold RunnerState.pending at waiting
  split at waiting <;>
    simp only [Option.some.injEq, HttpCall.createVideo.injEq, reduceCtorEq] at waiting
  next here => rw [here, waiting.2.2]

theorem readable_of_ok {outcome : HttpOutcome} {done : Bool}
    (polled : pollVideo outcome = .ok done) : outcome.Readable := by
  obtain ⟨response, payload, same, low, loaded, -⟩ := pollVideo_ok polled
  exact ⟨response, payload, same, low, loaded⟩

/-- What a status poll raises ends the execution. -/
theorem ended_of_pollVideo {state : RunnerState} {outcome : HttpOutcome} {exception : Raised}
    (raises : pollVideo outcome = .error exception) :
    (state.handle exception).2.point.ended = true := by
  cases exception with
  | cancelled =>
    cases outcome with
    | httpError message | exception message | interrupted => cases raises
    | response response =>
      simp only [pollVideo] at raises
      repeat' split at raises
      all_goals cases raises
  | _ => rfl

/-- A terminal status ends the polling. -/
theorem stage_of_terminal (fires : (runner platform config assignment start).Fires t)
    {id : String} {response : HttpResponse} {payload : String → Option Loaded}
    (here : t.pre.point = .polling id) (answers : t.action = .answer (.response response))
    (loaded : response.payload = .ok payload)
    (terminal : statusOf payload ∈ terminalOk ∨ statusOf payload ∈ terminalBad) :
    4 ≤ t.post.point.stage := by
  have steps : t.pre.step platform config t.action = some (t.reply, t.post) := fires
  rw [answers] at steps
  simp only [RunnerState.step, here, Option.some.injEq] at steps
  have after := congrArg (fun pair => pair.2.point) steps
  dsimp only at after
  rw [← after]
  cases polled : pollVideo (.response response) with
  | error exception =>
    simp only [RunnerState.settle]
    rw [stage_of_ended (ended_of_pollVideo polled)]
    decide
  | ok done =>
    obtain ⟨_, payload', same, -, loaded', finished, alive⟩ := pollVideo_ok polled
    cases same
    rw [loaded] at loaded'
    cases loaded'
    cases done with
    | true => exact Nat.le_of_ble_eq_true rfl
    | false =>
      rcases terminal with ok | bad
      · exact absurd (finished.mp ok) (by simp)
      · exact absurd bad (alive rfl)

section Overlooked

variable {final : RunnerState} {before after : List RunnerTransition}

theorem stage_of_mem {first : RunnerState}
    (run : (runner platform config assignment start).Run first trace final)
    (member : t ∈ trace) : t.post.point.stage ≤ final.point.stage := by
  obtain ⟨before, after, rfl⟩ := List.append_of_mem member
  exact stage_of_run run.split.2.2

theorem unposted_of_early {first : RunnerState}
    (run : (runner platform config assignment start).Run first trace final)
    (early : final.point.stage ≤ 4) : ∀ t ∈ trace, t.reply.posts = false := by
  intro t member
  rw [← Bool.not_eq_true]
  intro posts
  have later := stage_of_mem run member
  rw [stage_of_posts (run.fires_of_mem member) posts] at later
  omega

/-- A flag that is up before the clip is there makes the execution abandon the job. -/
theorem abandons_of_flag (heeds : HeedsFlag assignment trace final)
    (run : (runner platform config assignment start).Run (.starting assignment start) trace final)
    (split : trace = before ++ t :: after) (flagged : t.pre.job.cancelled = true)
    (early : t.pre.point.stage ≤ 4) : Abandons assignment trace final := by
  rw [split] at run
  obtain ⟨u, member, action⟩ := raised_of_cancelled run.split.1 flagged
  obtain ⟨earlier, between, same⟩ := List.append_of_mem member
  have unposted := unposted_of_early run.split.1 early
  apply heeds earlier u (between ++ t :: after)
  · rw [split, same, List.append_assoc, List.cons_append]
  · exact action
  · intro v inside
    exact unposted v (by rw [same]; exact List.mem_append_left _ inside)

/-- An execution that ends while the flag is up and the job of `sglang` still runs has not asked
to cancel it. -/
theorem not_heedsFlag_of_ended (run : (runner platform config assignment start).Run
      (.starting assignment start) trace final)
    (split : trace = before ++ t :: after) (flagged : t.pre.job.cancelled = true)
    (early : t.pre.point.stage ≤ 3) (ended : t.post.point.ended = true) {image : Bytes}
    {id : String} (created : Created assignment (before ++ [t]) image id) (nonempty : id ≠ "")
    (unread : ∀ outcome, t.pre.point = .polling id → t.action = .answer outcome →
      ¬ outcome.Readable) : ¬ HeedsFlag assignment trace final := by
  intro heeds
  obtain ⟨-, -, told⟩ := abandons_of_flag heeds run split flagged (Nat.le_succ_of_le early)
  subst split
  obtain ⟨earlier, fires, later⟩ := run.split
  have last : t.post.point.stage = 8 := stage_of_ended ended
  have whole : Created assignment (before ++ t :: after) image id := by
    rw [List.append_cons]
    exact created.append
  have running : ¬ Terminal (before ++ t :: after) id := by
    rintro ⟨response, payload, answered, low, loaded, terminal⟩
    obtain ⟨u, member, waiting, answers⟩ := answered.mem run
    have here := polling_of_pending waiting
    rcases List.mem_append.mp member with inside | inside
    · have bound := stage_of_mem earlier inside
      have beyond := stage_of_terminal (run.fires_of_mem member) here answers loaded terminal
      omega
    · rcases List.mem_cons.mp inside with rfl | inside
      · exact unread _ here answers ⟨response, payload, rfl, low, loaded⟩
      · obtain ⟨between, rest, rfl⟩ := List.append_of_mem inside
        have same := point_of_run later.split.1 ended
        rw [here] at same
        rw [← same] at ended
        cases ended
  have closed : final.point.ended = true := by
    rw [point_of_run later ended]
    exact ended
  obtain ⟨u, member, method, calls⟩ := told closed image id whole nonempty running
  have stages := stage_of_cancels (run.fires_of_mem member) calls
  rcases List.mem_append.mp member with inside | inside
  · have bound := stage_of_mem earlier inside
    omega
  · rcases List.mem_cons.mp inside with rfl | inside
    · omega
    · obtain ⟨between, rest, rfl⟩ := List.append_of_mem inside
      have bound := stage_of_run later.split.1
      have onwards := (moves_of_fires later.split.2.1).stage
      change u.pre.point.stage ≤ u.post.point.stage at onwards
      omega

end Overlooked

theorem createVideo_of_named {endpoint id : String} {response : HttpResponse}
    {payload : String → Option Loaded} (low : response.status < 400)
    (loaded : response.payload = .ok payload) (named : payload "id" = some (.text id))
    (nonempty : id ≠ "") : createVideo endpoint (.response response) = .ok id := by
  rw [createVideo, if_neg (by omega), if_neg (by omega), loaded]
  dsimp only
  rw [named]
  exact if_neg nonempty

/-- The time is up as soon as the job has been created. -/
theorem created_of_late {state : RunnerState} (late : state.deadline < state.now) (id : String) :
    state.created id = (state.enter "generating" (Binary64.nearest (1 / 10)) (some id)).returns
      (failedResult "timed out waiting for sglang to finish" false) :=
  if_pos late

theorem created_of_early {state : RunnerState} (early : ¬ state.deadline < state.now)
    (id : String) :
    state.created id = (state.enter "generating" (Binary64.nearest (1 / 10)) (some id)).calls
      (.polling id) (.getVideo id) :=
  if_neg early

/-- A step that overlooks the flag breaks the promise. -/
theorem not_heedsFlag_of_overlooks {final : RunnerState} {before after : List RunnerTransition}
    (run : (runner platform config assignment start).Run (.starting assignment start) trace final)
    (split : trace = before ++ t :: after) (overlooks : Overlooks config t) :
    ¬ HeedsFlag assignment trace final := by
  have cut := run
  rw [split] at cut
  obtain ⟨earlier, fires, -⟩ := cut.split
  have steps : t.pre.step platform config t.action = some (t.reply, t.post) := fires
  have proceeded := proceeded_of_run earlier
  have reached := proceeded.reached
  have named : Named t.pre := named_of_run earlier rfl
  cases overlooks with
  | @downloaded id response flagged here answers accepted attempts =>
    intro heeds
    have abandons := abandons_of_flag heeds run split flagged (by rw [here]; exact le_rfl)
    have taken : downloadContent (.response response) = .ok response.content := by
      rw [downloadContent, if_neg (by simpa using accepted)]
    rw [answers] at steps
    simp only [RunnerState.step, here, taken, RunnerState.settle, RunnerState.downloaded,
      RunnerState.upload, if_pos attempts, Option.some.injEq] at steps
    have quiet := abandons.unposted t (by rw [split]; simp)
    have posts : t.reply.posts = true := by
      rw [show t.reply = _ from (congrArg Prod.fst steps).symm]
      rfl
    rw [posts] at quiet
    cases quiet
  | @unread id outcome flagged here answers unread =>
    rw [here] at reached
    rw [Named, here] at named
    obtain ⟨image, -, created⟩ := reached
    cases polled : pollVideo outcome with
    | ok done => exact absurd (readable_of_ok polled) unread
    | error exception =>
      rw [answers] at steps
      simp only [RunnerState.step, here, polled, RunnerState.settle, Option.some.injEq] at steps
      have ended : t.post.point.ended = true := by
        rw [← congrArg (fun pair => pair.2.point) steps]
        exact ended_of_pollVideo polled
      apply not_heedsFlag_of_ended run split flagged (by rw [here]; exact le_rfl) ended
        created.append named.2
      intro outcome' _ answers'
      rw [answers] at answers'
      cases answers'
      exact unread
  | @interrupted id flagged here stops =>
    rw [here] at reached
    rw [Named, here] at named
    obtain ⟨image, -, created⟩ := reached
    rw [stops] at steps
    simp only [RunnerState.step, here, Option.some.injEq] at steps
    have ended : t.post.point.ended = true := by
      rw [← congrArg (fun pair => pair.2.point) steps]
      rfl
    exact not_heedsFlag_of_ended run split flagged (by rw [here]; exact le_rfl) ended
      created.append named.2 fun _ polling => by cases here.symm.trans polling
  | @overdue id flagged here wakes late =>
    rw [here] at reached
    rw [Named, here] at named
    obtain ⟨image, -, created⟩ := reached
    rw [wakes] at steps
    simp only [RunnerState.step, here, RunnerState.await, if_pos late, Option.some.injEq] at steps
    have ended : t.post.point.ended = true := by
      rw [← congrArg (fun pair => pair.2.point) steps]
      rfl
    exact not_heedsFlag_of_ended run split flagged (by rw [here]; exact le_rfl) ended
      created.append named.2 fun _ polling => by cases here.symm.trans polling
  | @late image response payload id flagged here answers low loaded given nonempty late =>
    have created := created_of_answered (earlier.snoc fires) proceeded.own answers here
      (createVideo_of_named low loaded given nonempty)
    rw [answers] at steps
    simp only [RunnerState.step, here, createVideo_of_named low loaded given nonempty,
      RunnerState.settle, Option.some.injEq, created_of_late late] at steps
    have ended : t.post.point.ended = true := by
      rw [← congrArg (fun pair => pair.2.point) steps]
      rfl
    exact not_heedsFlag_of_ended run split flagged (by rw [here]; exact Nat.le_of_ble_eq_true rfl)
      ended created nonempty fun _ polling => by cases here.symm.trans polling

/-! ### Steps that heed the flag -/

theorem Terminal.append {id : String} {later : List RunnerTransition}
    (terminal : Terminal trace id) : Terminal (trace ++ later) id := by
  obtain ⟨response, payload, answered, rest⟩ := terminal
  exact ⟨response, payload, answered.append _, rest⟩

theorem AskedToCancel.append {id : String} {later : List RunnerTransition}
    (asked : AskedToCancel trace id) : AskedToCancel (trace ++ later) id := by
  obtain ⟨t, member, method, calls⟩ := asked
  exact ⟨t, List.mem_append_left _ member, method, calls⟩

/-- What a step makes of a flag that is up: the execution does not upload, and asks to cancel
what still runs before it ends. -/
structure Complies (trace : List RunnerTransition) (state : RunnerState) : Prop where
  away : state.point.stage ≠ 5
  incomplete : ∀ body, state.point = .returned body → body.state ≠ .string "completed"
  told : state.point.ended = true → ∀ id, state.job.upstreamId = some id →
    Terminal trace id ∨ AskedToCancel trace id

theorem complies_of_running {state : RunnerState} (running : state.point.ended = false)
    (away : state.point.stage ≠ 5) : Complies trace state where
  away := away
  incomplete body returned := by
    rw [returned] at running
    cases running
  told ended := by
    rw [running] at ended
    cases ended

theorem complies_of_fruitless {state : RunnerState} (fruitless : state.point.Fruitless)
    (told : ∀ id, state.job.upstreamId = some id → Terminal trace id ∨ AskedToCancel trace id) :
    Complies trace state where
  away := by
    intro here
    cases point : state.point <;> rw [point] at fruitless here <;>
      first | exact fruitless | cases here
  incomplete body returned := by
    rw [returned] at fruitless
    exact fruitless
  told _ := told

theorem terminalBad_of_error {response : HttpResponse} {payload : String → Option Loaded}
    {exception : Raised} (raises : pollVideo (.response response) = .error exception)
    (low : response.status < 400) (loaded : response.payload = .ok payload) :
    statusOf payload ∈ terminalBad := by
  rw [pollVideo, if_neg (by omega), if_neg (by omega), if_neg (by omega), loaded] at raises
  dsimp only at raises
  split at raises
  · cases raises
  · split at raises
    · assumption
    · cases raises

section Step

variable {state : RunnerState} {action : RunnerAction} {reply : RunnerReply} {post : RunnerState}

/-- Where an exception is raised with the flag up, nothing is left to cancel. -/
theorem told_of_throws
    (run : (runner platform config assignment start).Run (.starting assignment start) trace state)
    (fires : (runner platform config assignment start).Fires ⟨state, action, reply, post⟩)
    (heeds : ¬ Overlooks config ⟨state, action, reply, post⟩)
    (flagged : state.job.cancelled = true) (away : state.point.stage ≠ 5) {exception : Raised}
    (throws : Throws platform state action exception) {id : String}
    (given : state.job.upstreamId = some id) :
    Terminal (trace ++ [⟨state, action, reply, post⟩]) id := by
  have named : Named state := named_of_run run rfl
  have reached := (proceeded_of_run run).reached
  cases throws with
  | fetching here | creating here =>
    rw [Named, here] at named
    rw [given] at named
    cases named
  | @polling id' outcome _ here raises =>
    by_cases readable : outcome.Readable
    · obtain ⟨response, payload, rfl, low, loaded⟩ := readable
      rw [Named, here] at named
      obtain rfl : id' = id := Option.some.inj (named.1.symm.trans given)
      have waiting : state.pending platform = some (.getVideo id') := by
        rw [RunnerState.pending, here]
      have answered := answered_of_mem (run.snoc fires)
        (List.mem_append_right trace (List.mem_singleton_self _)) waiting rfl
      exact ⟨response, payload, answered, low, loaded,
        .inr (terminalBad_of_error raises low loaded)⟩
    · exact absurd (.unread flagged here rfl readable) heeds
  | overdue here late => exact absurd (.overdue flagged here rfl late) heeds
  | @downloading id' outcome _ here =>
    rw [here] at reached
    rw [Named, here] at named
    obtain rfl : id' = id := Option.some.inj (named.1.symm.trans given)
    obtain ⟨image, -, -, response, payload, answered, low, loaded, finished⟩ := reached
    exact ⟨response, payload, answered.append _, low, loaded, .inl finished⟩
  | uploading here | backingOff here => exact absurd (by rw [here]; rfl) away
  | sleeping here => exact absurd (.interrupted flagged here rfl) heeds

theorem askedToCancel_of_pending
    (run : (runner platform config assignment start).Run (.starting assignment start) trace state)
    {method id : String} (waiting : state.pending platform = some (.cancelVideo method id)) :
    AskedToCancel trace id := by
  obtain ⟨before, asks, between, rfl, calls, -⟩ := asked_of_run run _ waiting
  exact ⟨asks, by simp, method, calls⟩

theorem complies_step
    (run : (runner platform config assignment start).Run (.starting assignment start) trace state)
    (fires : (runner platform config assignment start).Fires ⟨state, action, reply, post⟩)
    (heeds : ¬ Overlooks config ⟨state, action, reply, post⟩)
    (flagged : state.job.cancelled = true) (complies : Complies trace state) :
    Complies (trace ++ [⟨state, action, reply, post⟩]) post := by
  have named : Named state := named_of_run run rfl
  have reached := (proceeded_of_run run).reached
  have away := complies.away
  have moves := moves_of_fires fires
  have told := @told_of_throws platform config assignment start trace state action reply post run
    fires heeds flagged away
  generalize transition : (⟨state, action, reply, post⟩ : RunnerTransition) = t at *
  have before : t.pre = state := by rw [← transition]
  have acts : t.action = action := by rw [← transition]
  have after : (t.reply, t.post) = (reply, post) := by rw [← transition]
  rw [before, acts, after] at moves
  generalize result : (reply, post) = both at moves
  rw [show post = both.2 from congrArg Prod.snd result]
  cases moves with
  | flagged | ticked =>
    refine ⟨complies.away, complies.incomplete, fun ended id given => ?_⟩
    rcases complies.told ended id given with terminal | asked
    · exact .inl terminal.append
    · exact .inr asked.append
  | began | finished | polls => exact complies_of_running rfl (by rintro ⟨⟩)
  | threw throws =>
    apply complies_of_fruitless (fruitless_handle _ _).1
    intro id given
    rw [job_handle] at given
    exact .inl (told throws given)
  | fetched here =>
    rw [Named, here] at named
    rw [RunnerState.fetched, if_pos flagged]
    apply complies_of_fruitless
    · simp [RunnerState.returns, RunnerPoint.Fruitless, cancelledResult]
    · intro id given
      cases named.symm.trans given
  | @created image outcome id here created =>
    obtain ⟨nonempty, response, payload, rfl, low, loaded, given⟩ := createVideo_ok created
    by_cases late : state.deadline < state.now
    · subst before
      exact absurd (.late flagged here acts low loaded given nonempty late) heeds
    · rw [created_of_early late]
      exact complies_of_running rfl (by rintro ⟨⟩)
  | @waits id outcome here =>
    rw [Named, here] at named
    rw [RunnerState.onPoll, if_pos flagged, handle_cancelled named.1 named.2]
    exact complies_of_running rfl (by rintro ⟨⟩)
  | @downloaded id outcome media here downloaded =>
    obtain ⟨response, rfl, accepted, -⟩ := downloadContent_ok downloaded
    by_cases attempts : 1 ≤ config.uploadAttempts
    · subst before
      exact absurd (.downloaded flagged here acts accepted attempts) heeds
    · rw [RunnerState.downloaded, RunnerState.upload, if_neg attempts]
      apply complies_of_fruitless (fruitless_handle _ _).1
      intro id' given
      rw [Named, here] at named
      rw [here] at reached
      obtain rfl : id = id' := Option.some.inj (named.1.symm.trans given)
      obtain ⟨image, -, -, response', payload, answered, low, loaded, finished⟩ := reached
      exact .inl ⟨response', payload, answered.append _, low, loaded, .inl finished⟩
  | landed here | missed here | posts here => exact absurd (by rw [here]; rfl) away
  | @deleted id outcome here =>
    have next : (state.cancelAgain id).2.point.Fruitless ∧
        (state.cancelAgain id).1.creation = none := ⟨trivial, rfl⟩
    apply complies_of_fruitless (fruitless_cancelAnswered next outcome).1
    intro id' given
    rw [Named, here] at named
    have kept : (state.cancelAnswered (state.cancelAgain id) outcome).2.job = state.job :=
      job_cancelAnswered _ rfl outcome
    rw [kept] at given
    obtain rfl : id = id' := Option.some.inj (named.1.symm.trans given)
    exact .inr (askedToCancel_of_pending run (by rw [RunnerState.pending, here])).append
  | @cancelled id outcome here =>
    have next : (state.returns cancelledResult).2.point.Fruitless ∧
        (state.returns cancelledResult).1.creation = none :=
      ⟨by simp [RunnerState.returns, RunnerPoint.Fruitless, cancelledResult], rfl⟩
    apply complies_of_fruitless (fruitless_cancelAnswered next outcome).1
    intro id' given
    rw [Named, here] at named
    have kept : (state.cancelAnswered (state.returns cancelledResult) outcome).2.job = state.job :=
      job_cancelAnswered _ rfl outcome
    rw [kept] at given
    obtain rfl : id = id' := Option.some.inj (named.1.symm.trans given)
    exact .inr (askedToCancel_of_pending run (by rw [RunnerState.pending, here])).append

end Step

/-! ### Whole runs -/

section Whole

variable {final : RunnerState}

/-- An upload is under way only after it was posted. -/
theorem posted_of_stage
    (run : (runner platform config assignment start).Run (.starting assignment start) trace final)
    (uploading : final.point.stage = 5) : ∃ t ∈ trace, t.reply.posts = true := by
  have history : final.point.stage = 5 → ∃ t ∈ trace, t.reply.posts = true := by
    apply run.history (P := fun trace state =>
      state.point.stage = 5 → ∃ t ∈ trace, t.reply.posts = true)
    · rintro ⟨⟩
    · intro before t _ fires posted after
      by_cases same : t.pre.point.stage = 5
      · obtain ⟨u, member, posts⟩ := posted same
        exact ⟨u, List.mem_append_left _ member, posts⟩
      · refine ⟨t, by simp, ?_⟩
        have moves := moves_of_fires fires
        obtain ⟨pre, action, reply, post⟩ := t
        dsimp only at moves same after ⊢
        generalize result : (reply, post) = both at moves
        rw [show post = both.2 from congrArg Prod.snd result] at after
        rw [show reply = both.1 from congrArg Prod.fst result]
        cases moves with
        | flagged | ticked => exact absurd after same
        | began | finished | polls => cases after
        | threw =>
          have later := stage_handle pre ‹Raised›
          omega
        | fetched =>
          unfold RunnerState.fetched at after
          split at after <;> cases after
        | created =>
          unfold RunnerState.created RunnerState.await at after
          split at after <;> cases after
        | waits =>
          unfold RunnerState.onPoll at after
          split at after
          · have later := stage_handle pre .cancelled
            omega
          · cases after
        | downloaded =>
          unfold RunnerState.downloaded RunnerState.upload at after ⊢
          split
          · rfl
          · next attempts =>
            rw [if_neg attempts] at after
            cases after
        | landed here | missed here | posts here => exact absurd (by rw [here]; rfl) same
        | @deleted id outcome =>
          have next : 7 ≤ (pre.cancelAgain id).2.point.stage := le_rfl
          have later := @stage_cancelAnswered pre _ next outcome
          omega
        | @cancelled id outcome =>
          have next : 7 ≤ (pre.returns cancelledResult).2.point.stage :=
            Nat.le_of_ble_eq_true rfl
          have later := @stage_cancelAnswered pre _ next outcome
          omega
  exact history uploading

/-- The flag went up before anything was posted. -/
def FlaggedEarly (trace : List RunnerTransition) : Prop :=
  ∃ before t after, trace = before ++ t :: after ∧ t.action = .raiseFlag ∧
    ∀ u ∈ before, u.reply.posts = false

/-- The flag is up, nothing is uploaded, and what still runs is to be cancelled. -/
structure Heeded (trace : List RunnerTransition) (state : RunnerState) : Prop where
  flagged : state.job.cancelled = true
  complies : Complies trace state
  unposted : ∀ t ∈ trace, t.reply.posts = false

theorem heeded_raised
    (run : (runner platform config assignment start).Run (.starting assignment start) trace t.pre)
    (fires : (runner platform config assignment start).Fires t) (action : t.action = .raiseFlag)
    (unposted : ∀ u ∈ trace, u.reply.posts = false) : Heeded (trace ++ [t]) t.post := by
  have steps : t.pre.step platform config t.action = some (t.reply, t.post) := fires
  rw [action] at steps
  simp only [RunnerState.step] at steps
  split at steps
  · cases steps
  · next running =>
    obtain ⟨replied, after⟩ := Prod.mk.inj (Option.some.inj steps)
    rw [← after]
    refine ⟨rfl, complies_of_running (by simpa using running) ?_, ?_⟩
    · intro uploading
      obtain ⟨u, member, posts⟩ := posted_of_stage run uploading
      rw [unposted u member] at posts
      cases posts
    · intro u member
      rcases List.mem_append.mp member with inside | last
      · exact unposted u inside
      · rw [List.mem_singleton.mp last, ← replied]
        rfl

theorem heeded_step
    (run : (runner platform config assignment start).Run (.starting assignment start) trace t.pre)
    (fires : (runner platform config assignment start).Fires t) (heeds : ¬ Overlooks config t)
    (heeded : Heeded trace t.pre) : Heeded (trace ++ [t]) t.post := by
  have complies : Complies (trace ++ [t]) t.post :=
    complies_step run fires heeds heeded.flagged heeded.complies
  refine ⟨?_, complies, ?_⟩
  · rcases (moves_of_fires fires).job.flag with ⟨-, flagged⟩ | ⟨-, same⟩
    · exact flagged
    · exact same.trans heeded.flagged
  · intro u member
    rcases List.mem_append.mp member with inside | last
    · exact heeded.unposted u inside
    · rw [List.mem_singleton.mp last, ← Bool.not_eq_true]
      exact fun posts => complies.away (stage_of_posts fires posts)

theorem heeded_of_run
    (run : (runner platform config assignment start).Run (.starting assignment start) trace final)
    (heeds : ∀ t ∈ trace, ¬ Overlooks config t) (early : FlaggedEarly trace) :
    Heeded trace final := by
  have history : (∀ t ∈ trace, ¬ Overlooks config t) → FlaggedEarly trace →
      Heeded trace final := by
    apply run.history (P := fun trace state =>
      (∀ t ∈ trace, ¬ Overlooks config t) → FlaggedEarly trace → Heeded trace state)
    · rintro - ⟨before, t, after, empty, -⟩
      simp at empty
    · rintro trace t run fires inductionHypothesis heeds ⟨before, u, after, split, action, quiet⟩
      have clean := fun v member => heeds v (List.mem_append_left [t] member)
      rcases List.eq_nil_or_concat after with rfl | ⟨rest, last, rfl⟩
      · obtain ⟨rfl, same⟩ := List.append_inj' split rfl
        cases same
        exact heeded_raised run fires action quiet
      · rw [List.concat_eq_append, ← List.cons_append, ← List.append_assoc] at split
        obtain ⟨rfl, same⟩ := List.append_inj' split rfl
        cases same
        exact heeded_step run fires (heeds _ (by simp))
          (inductionHypothesis clean ⟨before, u, rest, rfl, action, quiet⟩)
  exact history heeds early

/-- The id of a created job is in the table. -/
theorem upstreamId_of_created
    (run : (runner platform config assignment start).Run (.starting assignment start) trace final)
    {image : Bytes} {id : String} (created : Created assignment trace image id)
    (nonempty : id ≠ "") : final.job.upstreamId = some id := by
  obtain ⟨response, payload, answered, low, loaded, given⟩ := created
  obtain ⟨t, member, waiting, answers⟩ := answered.mem run
  obtain ⟨before, after, rfl⟩ := List.append_of_mem member
  obtain ⟨-, fires, later⟩ := run.split
  have here := creating_of_pending waiting
  have steps : t.pre.step platform config t.action = some (t.reply, t.post) := fires
  rw [answers] at steps
  simp only [RunnerState.step, here, createVideo_of_named low loaded given nonempty,
    RunnerState.settle, Option.some.injEq] at steps
  have after : t.post.job.upstreamId = some id ∧ 3 ≤ t.post.point.stage := by
    by_cases late : t.pre.deadline < t.pre.now
    · rw [created_of_late late] at steps
      rw [show t.post = _ from (congrArg Prod.snd steps).symm]
      exact ⟨rfl, Nat.le_of_ble_eq_true rfl⟩
    · rw [created_of_early late] at steps
      rw [show t.post = _ from (congrArg Prod.snd steps).symm]
      exact ⟨rfl, Nat.le_of_ble_eq_true rfl⟩
  rw [upstreamId_of_run later after.2, after.1]

end Whole

/-- Abandoned jobs produce no upload exactly in the executions that overlook no flag. -/
theorem abandoned_jobs (platform : Platform) (config : RunnerConfig)
    (assignment : AgentAssignment) (start : ℚ) (run : RunnerRun platform config assignment start) :
    HeedsFlag assignment run.trace run.final ↔ ∀ t ∈ run.trace, ¬ Overlooks config t := by
  constructor
  · intro heeds t member overlooks
    obtain ⟨before, after, split⟩ := List.append_of_mem member
    exact not_heedsFlag_of_overlooks run.run split overlooks heeds
  · intro heeds before t after split action quiet
    obtain ⟨-, complies, unposted⟩ :=
      heeded_of_run run.run heeds ⟨before, t, after, split, action, quiet⟩
    refine ⟨unposted, complies.incomplete, fun ended image id created nonempty running => ?_⟩
    have given := upstreamId_of_created run.run created nonempty
    exact (complies.told ended id given).resolve_left running

/-- The client cancels while `sglang` is polled, and the next poll finds the clip finished. -/
def sampleOverlooked : RunnerRun .counting sampleRunner sampleAssignment 0 :=
  sampleExecution (sampleGenerating ++ .raiseFlag :: sampleDownloading) (by decide +kernel)

theorem not_abandoned_jobs :
    ¬ ∀ run : RunnerRun .counting sampleRunner sampleAssignment 0,
      HeedsFlag sampleAssignment run.trace run.final := by
  intro heeds
  have overlooked : (sampleOverlooked.trace.any fun t =>
      match t.pre.point, t.action with
      | .downloading _, .answer (.response response) =>
        t.pre.job.cancelled && response.status == 200
      | _, _ => false) = true := by decide +kernel
  obtain ⟨t, member, holds⟩ := List.any_eq_true.mp overlooked
  split at holds
  · next id response here answers =>
    rw [Bool.and_eq_true, beq_iff_eq] at holds
    obtain ⟨before, after, split⟩ := List.append_of_mem member
    exact not_heedsFlag_of_overlooks sampleOverlooked.run split
      (.downloaded holds.1 here answers holds.2 (by decide)) (heeds sampleOverlooked)
  · cases holds

end InferenceGateway
