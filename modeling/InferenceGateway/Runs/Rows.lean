import InferenceGateway.Gateway
import Mathlib.Logic.Relation

/-!
# What one step does to a row

`Touch` lists every update a step can make to the row of a job, with what the
step must have been; `rowChange` says that nothing else ever happens to a row.
-/

namespace InferenceGateway

open Library Relation

/-- The pod reports a result of the job under the lease the row holds. -/
structure Reports (t : GatewayTransition) (job : Job) (lease : String) : Prop where
  action : ∃ request, t.action = .result request ∧ request.id = job.id ∧
    request.leaseId = some lease
  holds : job.holds lease = true

/-- The result reports a failure to be retried. -/
structure ResultBody.Retries (body : ResultBody) : Prop where
  completed : body.state ≠ .string "completed"
  cancelled : body.state ≠ .string "cancelled"
  retryable : body.retryable = .boolean true

/-- The gateway, pod and free slots a step claims work with. -/
structure ClaimTurn where
  state : Gateway
  pod : Pod
  slots : Nat

/-- The jobs a claim takes, oldest first. -/
def ClaimTurn.taken (turn : ClaimTurn) : List Job := turn.state.store.taken turn.pod turn.slots

/-- The claim within a step: that of a poll before it parks, or that of a parked
poll that was woken. -/
def claimTurn (config : Config) (t : GatewayTransition) : Option ClaimTurn :=
  match t.action with
  | .poll body sessionId =>
    match body.podId.str with
    | none => none
    | some podId =>
      let turn := t.pre.renewed config body podId sessionId
      if turn.thrown then none else some ⟨turn.state, turn.pod, turn.slots⟩
  | .resumePoll token =>
    match t.pre.waiters.settled.find? fun entry => entry.1.token = token with
    | some (parked, true) => some ⟨t.pre.unpark token, parked.pod, parked.slots⟩
    | _ => none
  | _ => none

/-- The jobs a step dispatches. -/
def dispatched (config : Config) (t : GatewayTransition) : List Job :=
  ((claimTurn config t).map ClaimTurn.taken).getD []

/-- The handler is about to clear the input of the job. -/
def Task.Clears (id : String) : Task → Prop
  | .finishing task => task.id = id
  | .cleanup task => ∃ rest, task.stage = .expired id rest
  | _ => False

section Touch

variable (platform : Platform) (config : Config)

/-- One update of a row within a step. -/
inductive Touch (t : GatewayTransition) : Job → Job → Prop where
  | renewed {job : Job} {body : PollBody} {sessionId leaseId : String} {item : InFlightReport}
      (action : t.action = .poll body sessionId)
      (listed : some item ∈ body.inFlight.getD [])
      (names : item.jobId.str = some job.id) (under : item.leaseId.str = some leaseId)
      (holds : job.holds leaseId = true) :
      Touch t job ((Update.renewLease leaseId (t.pre.now + config.leaseTtlMs)
        (reportedProgress item.progress) item.upstreamId.str).assign job)
  | claimed {job : Job} {turn : ClaimTurn} {i : Nat} (claims : claimTurn config t = some turn)
      (place : turn.taken[i]? = some job) (queued : job.state = .queued) :
      Touch t job ((Update.claim turn.pod.podId (platform.newLeaseId (t.pre.leases + i))
        (t.pre.now + config.leaseTtlMs) t.pre.now).assign job)
  | completed {job : Job} {lease : String} {artifact : Artifact}
      (reports : Reports t job lease)
      (records : ∃ request, t.action = .result request ∧
        request.body.state = .string "completed" ∧ request.body.artifact = some artifact) :
      Touch t job ((Update.complete lease [artifact] t.pre.now).assign job)
  | acknowledged {job : Job} {lease detail : String} (reports : Reports t job lease)
      (cancels : ∃ request, t.action = .result request ∧
        request.body.state = .string "cancelled") :
      Touch t job ((Update.markCancelled (some lease) t.pre.now detail).assign job)
  | retried {job : Job} {lease reason : String} (reports : Reports t job lease)
      (left : job.attempts < config.maxAttempts)
      (retries : ∃ request, t.action = .result request ∧ request.body.Retries) :
      Touch t job ((Update.requeue (some lease) reason).assign job)
  | failed {job : Job} {lease error : String} (reports : Reports t job lease)
      (explained : error ≠ "") :
      Touch t job ((Update.fail (some lease) error t.pre.now).assign job)
  | lost {job : Job} (action : t.action = .sweep) (expired : job.leaseExpired t.pre.now = true)
      (exhausted : config.maxAttempts ≤ job.attempts) :
      Touch t job ((Update.fail job.leaseId (podLost job.attempts) t.pre.now).assign job)
  | expired {job : Job} (action : t.action = .sweep)
      (expired : job.leaseExpired t.pre.now = true)
      (left : job.attempts < config.maxAttempts) :
      Touch t job ((Update.requeue job.leaseId "lease expired").assign job)
  | overdue {job : Job} (action : t.action = .sweep)
      (overdue : job.isOverdue t.pre.now = true) :
      Touch t job
        ((Update.fail none (deadlineDetail job t.pre.now) t.pre.now).assign job)
  | forced {job : Job} (action : t.action = .sweep)
      (stale : job.cancelStale (t.pre.now - config.cancelGraceMs) = true) :
      Touch t job ((Update.markCancelled none t.pre.now
        "pod did not acknowledge the cancel").assign job)
  | cancelled {job : Job} (action : t.action = .deleteVideo job.id)
      (queued : job.state = .queued) :
      Touch t job ((Update.cancelQueued t.pre.now).assign job)
  | flagged {job : Job} (action : t.action = .deleteVideo job.id)
      (inFlight : job.state = .inProgress) :
      Touch t job ((Update.requestCancel t.pre.now).assign job)
  | cleared {job : Job} {token : Nat} {event : Event} {task : Task}
      (action : t.action = .advance token event)
      (running : t.pre.tasks.lookup token = some task) (clears : task.Clears job.id) :
      Touch t job (Update.clearInput.assign job)
  | mediaExpired {job : Job} {token : Nat} {event : Event} {task : CleanupTask}
      {rest : List String} (action : t.action = .advance token event)
      (running : t.pre.tasks.lookup token = some (.cleanup task))
      (stage : task.stage = .expired job.id rest) :
      Touch t job ((Update.setArtifacts []).assign job)
  | recovered {job : Job} (action : t.action = .restart) (inFlight : job.state = .inProgress) :
      Touch t job (job.withLeaseUntil (t.pre.now + config.maxPollWaitMs * 2))

/-- What a step may do to the row under an id. -/
inductive RowChange (t : GatewayTransition) (id : String) : Option Job → Option Job → Prop where
  | absent : RowChange t id none none
  | touched {job job' : Job} (touches : ReflTransGen (Touch platform config t) job job') :
      RowChange t id (some job) (some job')
  | created {token : Nat} {creation : Creation} (action : t.action = .advance token .proceed)
      (running : t.pre.tasks.lookup token = some (.creation creation))
      (named : creation.job.id = id) (returned : t.post.tasks.lookup token = none) :
      RowChange t id none (some creation.job.row)
  | purged {job : Job} {token : Nat} {task : CleanupTask}
      (action : t.action = .advance token .proceed)
      (running : t.pre.tasks.lookup token = some (.cleanup task))
      (old : job.finishedAt.any (· < task.now - config.jobRetentionMs) = true) :
      RowChange t id (some job) none

end Touch

/-- Every row survives, changed by `R` alone. -/
def Kept (R : Job → Job → Prop) (pre post : JobStore) : Prop :=
  ∀ k, Option.Rel (ReflTransGen R) (pre.get k) (post.get k)

namespace Kept

variable {R : Job → Job → Prop} {first second third : JobStore}

theorem of_get (same : ∀ k, second.get k = first.get k) : Kept R first second := by
  intro k
  rw [same k]
  cases first.get k with
  | none => exact .none
  | some job => exact .some .refl

theorem refl (store : JobStore) : Kept R store store := of_get fun _ => rfl

theorem trans (left : Kept R first second) (right : Kept R second third) :
    Kept R first third := by
  intro k
  have atFirst := left k
  have atSecond := right k
  revert atFirst atSecond
  generalize first.get k = a
  generalize second.get k = b
  generalize third.get k = c
  rintro (⟨earlier⟩ | -) (⟨later⟩ | -)
  · exact .some (earlier.trans later)
  · exact .none

theorem map {f : Job → Job} (post : ∀ k, second.get k = (first.get k).map f)
    (related : ∀ k job, first.get k = some job → ReflTransGen R job (f job)) :
    Kept R first second := by
  intro k
  rw [post k]
  cases found : first.get k with
  | none => exact .none
  | some job => exact .some (related k job found)

/-- A statement is an update of the one row it applies to. -/
theorem execute {id : String} {statement : Update}
    (related : ∀ job, first.get id = some job → statement.applies job = true →
      R job (statement.assign job)) :
    Kept R first (first.execute id statement).2 := by
  intro k
  rw [JobStore.get_execute]
  split
  · next same =>
    subst same
    cases found : first.get k with
    | none => exact .none
    | some job =>
      rw [Option.map_some]
      apply Option.Rel.some
      unfold Update.run
      split
      · next applies => exact .single (related job found applies)
      · exact .refl
  · exact of_get (fun _ => rfl) k

end Kept

end InferenceGateway
