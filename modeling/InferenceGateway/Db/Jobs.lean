import InferenceGateway.Library.Table
import InferenceGateway.Domain.Models
import Mathlib.Data.List.Sort

/-!
# The job store

Every SQL statement touching `jobs` and `job_events`.  The transitions are
`UPDATE` statements on the row of one job, each a compare-and-swap: `Update`
lists them with their `WHERE` and `SET` clauses and the audit event they leave.
-/

namespace InferenceGateway

open Library

structure JobStore where
  jobs : Table Job.id
  events : List JobEvent
  /-- `Date.now()`. -/
  clock : Millis

/-- The values `create` inserts; every other column takes its default. -/
structure NewJob where
  id : String
  model : String
  params : JobParams
  inputPath : DiskPath
  inputSha256 : String
  inputBytes : Nat
  createdAt : Millis
  deadlineAt : Millis

def NewJob.row (job : NewJob) : Job where
  id := job.id
  model := job.model
  params := job.params
  inputPath := some job.inputPath
  inputSha256 := some job.inputSha256
  inputBytes := some job.inputBytes
  state := .queued
  progress := 0
  error := none
  artifacts := []
  podId := none
  leaseId := none
  leaseExpiresAt := none
  upstreamId := none
  attempts := 0
  cancelRequested := false
  cancelRequestedAt := none
  createdAt := job.createdAt
  startedAt := none
  finishedAt := none
  deadlineAt := job.deadlineAt

/-- The `UPDATE` statements on one job. -/
inductive Update where
  | claim (podId leaseId : String) (expiresAt now : Millis)
  | renewLease (leaseId : String) (expiresAt : Millis) (progress : Option ℚ)
      (upstreamId : Option String)
  | complete (leaseId : String) (artifacts : List Artifact) (now : Millis)
  | fail (leaseId : Option String) (error : String) (now : Millis)
  | requeue (leaseId : Option String) (reason : String)
  | cancelQueued (now : Millis)
  | requestCancel (now : Millis)
  | markCancelled (leaseId : Option String) (now : Millis) (detail : String)
  | setArtifacts (artifacts : List Artifact)
  | clearInput

/-- The lease a statement is fenced by: a null or empty one selects the
unfenced variant. -/
def fence (leaseId : Option String) : Option String := leaseId.filter (· ≠ "")

/-- `state = 'in_progress' AND lease_id = ?`. -/
def Job.holds (job : Job) (leaseId : String) : Bool :=
  job.state == .inProgress && job.leaseId == some leaseId

namespace Update

/-- The `WHERE` clause, apart from `id = ?`. -/
def applies : Update → Job → Bool
  | .claim .., job => job.state == .queued
  | .renewLease leaseId .., job => job.holds leaseId
  | .complete leaseId .., job => job.holds leaseId
  | .fail leaseId .., job =>
    match fence leaseId with
    | some lease => job.holds lease
    | none => job.state == .queued || job.state == .inProgress
  | .requeue leaseId _, job =>
    match fence leaseId with
    | some lease => job.holds lease
    | none => job.state == .inProgress
  | .cancelQueued _, job => job.state == .queued
  | .requestCancel _, job => job.state == .inProgress
  | .markCancelled leaseId .., job =>
    match fence leaseId with
    | some lease => job.holds lease
    | none => job.state == .inProgress
  | .setArtifacts _, _ => true
  | .clearInput, _ => true

/-- The `SET` clause; `COALESCE` is `<|>`. -/
def assign : Update → Job → Job
  | .claim podId leaseId expiresAt now, job =>
    { job with
      state := .inProgress
      podId := some podId
      leaseId := some leaseId
      leaseExpiresAt := some expiresAt
      startedAt := job.startedAt <|> some now
      attempts := job.attempts + 1 }
  | .renewLease _ expiresAt progress upstreamId, job =>
    { job with
      leaseExpiresAt := some expiresAt
      progress := progress.getD job.progress
      upstreamId := upstreamId <|> job.upstreamId }
  | .complete _ artifacts now, job =>
    { job with
      state := .completed
      progress := 1
      error := none
      artifacts := artifacts
      finishedAt := some now
      leaseId := none
      leaseExpiresAt := none }
  | .fail _ error now, job =>
    { job with
      state := .failed
      error := some error
      finishedAt := some now
      leaseId := none
      leaseExpiresAt := none }
  | .requeue _ _, job =>
    { job with
      state := .queued
      podId := none
      leaseId := none
      leaseExpiresAt := none
      progress := 0
      upstreamId := none }
  | .cancelQueued now, job =>
    { job with
      state := .cancelled
      finishedAt := some now
      cancelRequested := true
      cancelRequestedAt := some now }
  | .requestCancel now, job =>
    { job with
      cancelRequested := true
      cancelRequestedAt := job.cancelRequestedAt <|> some now }
  | .markCancelled _ now _, job =>
    { job with
      state := .cancelled
      finishedAt := some now
      leaseId := none
      leaseExpiresAt := none }
  | .setArtifacts artifacts, job => { job with artifacts := artifacts }
  | .clearInput, job => { job with inputPath := none }

/-- The audit event a successful statement leaves: kind, pod and detail. -/
def event : Update → Option (JobEventKind × Option String × Option String)
  | .claim podId leaseId .. => some (.assigned, some podId, some ("lease=" ++ leaseId))
  | .renewLease .. => none
  | .complete .. => some (.completed, none, none)
  | .fail _ error _ => some (.failed, none, some (sliceText error 500))
  | .requeue _ reason => some (.requeued, none, some reason)
  | .cancelQueued _ => some (.cancelled, none, some "cancelled while queued")
  | .requestCancel _ => some (.cancelRequested, none, none)
  | .markCancelled _ _ detail => some (.cancelled, none, some detail)
  | .setArtifacts _ => none
  | .clearInput => none

@[simp] theorem assign_id (statement : Update) (job : Job) :
    (statement.assign job).id = job.id := by
  cases statement <;> rfl

/-- The row after the statement has run on it. -/
def run (statement : Update) (job : Job) : Job :=
  if statement.applies job then statement.assign job else job

@[simp] theorem run_id (statement : Update) (job : Job) : (statement.run job).id = job.id := by
  unfold run
  split <;> simp

end Update

/-- In flight, with a lease that ran out before `now`. -/
def Job.leaseExpired (job : Job) (now : Millis) : Bool :=
  job.state == .inProgress && job.leaseExpiresAt.any (· < now)

/-- Not yet finished, with a deadline before `now`. -/
def Job.isOverdue (job : Job) (now : Millis) : Bool :=
  (job.state == .queued || job.state == .inProgress) && decide (job.deadlineAt < now)

/-- In flight, with a cancel requested before `before`. -/
def Job.cancelStale (job : Job) (before : Millis) : Bool :=
  job.state == .inProgress && job.cancelRequested && job.cancelRequestedAt.any (· < before)

theorem state_of_leaseExpired {job : Job} {now : Millis} (expired : job.leaseExpired now = true) :
    job.state = .inProgress := by
  simp only [Job.leaseExpired, Bool.and_eq_true, beq_iff_eq] at expired
  exact expired.1

theorem state_of_isOverdue {job : Job} {now : Millis} (overdue : job.isOverdue now = true) :
    job.state = .queued ∨ job.state = .inProgress := by
  simp only [Job.isOverdue, Bool.and_eq_true, Bool.or_eq_true, beq_iff_eq] at overdue
  exact overdue.1

theorem state_of_cancelStale {job : Job} {before : Millis}
    (stale : job.cancelStale before = true) : job.state = .inProgress := by
  simp only [Job.cancelStale, Bool.and_eq_true, beq_iff_eq] at stale
  exact stale.1.1

def Job.withLeaseUntil (expiresAt : Millis) (job : Job) : Job :=
  { job with leaseExpiresAt := some expiresAt }

@[simp] theorem Job.withLeaseUntil_id (expiresAt : Millis) (job : Job) :
    (job.withLeaseUntil expiresAt).id = job.id := rfl

namespace JobStore

def addEvent (store : JobStore) (jobId : String) (kind : JobEventKind)
    (podId detail : Option String) : JobStore :=
  { store with events := store.events ++ [⟨jobId, store.clock, kind, podId, detail⟩] }

/-- Run a statement on the row of one job; true when it changed exactly one row,
and then its event is recorded. -/
def execute (store : JobStore) (id : String) (statement : Update) : Bool × JobStore :=
  let selects := fun job : Job => job.id = id && statement.applies job
  let updated := { store with
    jobs := store.jobs.update selects statement.assign statement.assign_id }
  if store.jobs.changes selects = 1 then
    (true, match statement.event with
      | some (kind, podId, detail) => updated.addEvent id kind podId detail
      | none => updated)
  else (false, updated)

/-! ### Creation -/

/-- `INSERT` with its `created` event; none when the primary key is taken, which
throws. -/
def create (store : JobStore) (job : NewJob) : Option JobStore :=
  (store.jobs.insert? job.row).map fun jobs =>
    { store with jobs := jobs }.addEvent job.id .created none (some job.model)

/-! ### Reading -/

def get (store : JobStore) (id : String) : Option Job := store.jobs.get? id

/-- `ORDER BY created_at ASC`; rows of equal `created_at` stay in rowid order. -/
def byCreation (rows : List Job) : List Job :=
  rows.insertionSort fun first second => first.createdAt ≤ second.createdAt

/-- Oldest-first, for the claim loop. -/
def listQueued (store : JobStore) (limit : Nat) : List Job :=
  (byCreation (store.jobs.rows.filter fun job => job.state == .queued)).take limit

/-- `ORDER BY created_at DESC`; the query leaves the order of equal `created_at` open. -/
def newestFirst (rows : List Job) : List Job :=
  rows.insertionSort fun first second => second.createdAt ≤ first.createdAt

/-- Newest-first, of one state or of all. -/
def list (store : JobStore) (state : Option VideoStatus) (limit : Nat) : List Job :=
  (newestFirst (store.jobs.rows.filter fun job => state.all (· == job.state))).take limit

/-- 0-based position in the queue, or none once the job has been dispatched. -/
def queuePosition (store : JobStore) (job : Job) : Option Nat :=
  if job.state ≠ .queued then none
  else some (store.jobs.rows.countP fun other =>
    other.state == .queued && decide (other.createdAt < job.createdAt))

/-- `counts().queued`. -/
def countQueued (store : JobStore) : Nat :=
  store.jobs.rows.countP fun job => job.state == .queued

/-- `counts().running`. -/
def countRunning (store : JobStore) : Nat :=
  store.jobs.rows.countP fun job => job.state == .inProgress

/-- `counts().oldest_queued_at`. -/
def oldestQueuedAt (store : JobStore) : Option Millis :=
  ((store.jobs.rows.filter fun job => job.state == .queued).map Job.createdAt).min?

/-- In-flight jobs a pod believes it owns. -/
def listByPod (store : JobStore) (podId : String) : List Job :=
  byCreation (store.jobs.rows.filter fun job =>
    job.podId == some podId && job.state == .inProgress)

/-- The trail of a job, oldest first. -/
def eventsOf (store : JobStore) (jobId : String) (limit : Nat) : List JobEvent :=
  ((store.events.filter fun event => event.jobId == jobId).insertionSort
    fun first second => first.ts ≤ second.ts).take limit

/-! ### Transitions -/

variable (store : JobStore)

/-- Dispatch: CAS `queued` to `in_progress`, taking ownership with a fresh lease. -/
def claim (id podId leaseId : String) (expiresAt now : Millis) : Bool × JobStore :=
  store.execute id (.claim podId leaseId expiresAt now)

/-- Heartbeat: extend the lease and record progress. -/
def renewLease (id leaseId : String) (expiresAt : Millis) (progress : Option ℚ)
    (upstreamId : Option String) : Bool × JobStore :=
  store.execute id (.renewLease leaseId expiresAt progress upstreamId)

def complete (id leaseId : String) (artifacts : List Artifact) (now : Millis) :
    Bool × JobStore :=
  store.execute id (.complete leaseId artifacts now)

def fail (id : String) (leaseId : Option String) (error : String) (now : Millis) :
    Bool × JobStore :=
  store.execute id (.fail leaseId error now)

/-- Return an in-flight job to the queue. -/
def requeue (id : String) (leaseId : Option String) (reason : String) : Bool × JobStore :=
  store.execute id (.requeue leaseId reason)

/-- Cancel a job that has not been dispatched yet. -/
def cancelQueued (id : String) (now : Millis) : Bool × JobStore :=
  store.execute id (.cancelQueued now)

/-- Flag an in-flight job for cancellation. -/
def requestCancel (id : String) (now : Millis) : Bool × JobStore :=
  store.execute id (.requestCancel now)

def markCancelled (id : String) (leaseId : Option String) (now : Millis)
    (detail : String) : Bool × JobStore :=
  store.execute id (.markCancelled leaseId now detail)

def setArtifacts (id : String) (artifacts : List Artifact) : JobStore :=
  (store.execute id (.setArtifacts artifacts)).2

def clearInput (id : String) : JobStore := (store.execute id .clearInput).2

/-! ### Sweeping -/

/-- In-flight jobs whose pod stopped renewing the lease. -/
def expiredLeases (now : Millis) : List Job :=
  store.jobs.rows.filter fun job => job.leaseExpired now

/-- Jobs that blew their wall-clock budget, whether or not a pod ever took them. -/
def overdue (now : Millis) : List Job :=
  store.jobs.rows.filter fun job => job.isOverdue now

/-- In-flight jobs whose cancellation was never acknowledged by the pod. -/
def staleCancels (before : Millis) : List Job :=
  store.jobs.rows.filter fun job => job.cancelStale before

/-- Gateway restart: every in-flight lease is set to one grace window from now. -/
def recoverOnStartup (now graceMs : Millis) : Nat × JobStore :=
  let inFlight := fun job : Job => job.state == .inProgress
  let changes := store.jobs.changes inFlight
  let recovered := { store with
    jobs := store.jobs.update inFlight (Job.withLeaseUntil (now + graceMs))
      (Job.withLeaseUntil_id (now + graceMs)) }
  if changes > 0 then
    (changes, { recovered with
      events := recovered.events ++ (recovered.jobs.rows.filter inFlight).map fun job =>
        ⟨job.id, now, .recovered, job.podId, some "lease extended after gateway restart"⟩ })
  else (changes, recovered)

/-- Terminal jobs finished before `before` that still list artifacts. -/
def finishedBefore (before : Millis) : List Job :=
  store.jobs.rows.filter fun job => job.finishedAt.any (· < before) && job.artifacts ≠ []

/-- Drop rows past the retention window with their events. -/
def purgeBefore (before : Millis) : Nat × JobStore :=
  let expired := fun job : Job => job.finishedAt.any (· < before)
  let ids := (store.jobs.rows.filter expired).map Job.id
  (store.jobs.changes expired,
    { store with
      events := store.events.filter fun event => event.jobId ∉ ids
      jobs := store.jobs.delete expired })

/-! ### What the statements do to the row under an id -/

variable {store}

@[simp] theorem clock_addEvent (id : String) (kind : JobEventKind)
    (podId detail : Option String) : (store.addEvent id kind podId detail).clock = store.clock :=
  rfl

@[simp] theorem jobs_addEvent (id : String) (kind : JobEventKind)
    (podId detail : Option String) : (store.addEvent id kind podId detail).jobs = store.jobs :=
  rfl

@[simp] theorem get_addEvent (id : String) (kind : JobEventKind)
    (podId detail : Option String) (k : String) :
    (store.addEvent id kind podId detail).get k = store.get k :=
  rfl

theorem id_of_get {id : String} {job : Job} (found : store.get id = some job) : job.id = id :=
  Table.key_of_get? found

theorem get_of_mem {job : Job} (member : job ∈ store.jobs.rows) : store.get job.id = some job :=
  Table.get?_of_mem member

theorem mem_of_get {id : String} {job : Job} (found : store.get id = some job) :
    job ∈ store.jobs.rows :=
  Table.mem_of_get? found

theorem jobs_execute (store : JobStore) (id : String) (statement : Update) :
    (store.execute id statement).2.jobs =
      store.jobs.update (fun job => job.id = id && statement.applies job)
        statement.assign statement.assign_id := by
  unfold execute
  dsimp only
  split
  · split <;> rfl
  · rfl

@[simp] theorem clock_execute (store : JobStore) (id : String) (statement : Update) :
    (store.execute id statement).2.clock = store.clock := by
  unfold execute
  dsimp only
  split
  · split <;> rfl
  · rfl

/-- A statement acts on the row under its id and on no other. -/
theorem get_execute (store : JobStore) (id : String) (statement : Update) (k : String) :
    (store.execute id statement).2.get k =
      if k = id then (store.get k).map statement.run else store.get k := by
  unfold get
  rw [jobs_execute, Table.get?_update]
  cases found : store.jobs.get? k with
  | none => simp
  | some job =>
    have hid : job.id = k := Table.key_of_get? found
    by_cases same : k = id <;> simp [hid, same, Update.run]

/-- A statement reports success exactly when its row exists and passes the `WHERE`. -/
theorem execute_fst (store : JobStore) (id : String) (statement : Update) :
    (store.execute id statement).1 = (store.get id).any statement.applies := by
  have changes := store.jobs.changes_at id statement.applies
  unfold execute
  dsimp only
  rw [changes]
  unfold get
  cases (store.jobs.get? id).any statement.applies <;> simp

theorem get_execute_of_ne {id k : String} (statement : Update) (different : k ≠ id) :
    (store.execute id statement).2.get k = store.get k := by
  rw [get_execute, if_neg different]

theorem get_execute_self {id : String} {job : Job} (statement : Update)
    (found : store.get id = some job) :
    (store.execute id statement).2.get id = some (statement.run job) := by
  rw [get_execute, if_pos rfl, found, Option.map_some]

theorem get_create {store' : JobStore} {job : NewJob} (created : store.create job = some store')
    (k : String) : store'.get k = if k = job.id then some job.row else store.get k := by
  obtain ⟨jobs, inserted, rfl⟩ := Option.map_eq_some_iff.mp created
  exact Table.get?_insert? inserted k

/-- `INSERT` throws when the primary key is taken. -/
theorem get_of_create {store' : JobStore} {job : NewJob}
    (inserted : store.create job = some store') : store.get job.id = none := by
  obtain ⟨jobs, fresh, -⟩ := Option.map_eq_some_iff.mp inserted
  refine Table.get?_eq_none_iff.mpr fun taken => ?_
  rw [Table.insert?_eq_none_iff.mpr taken] at fresh
  cases fresh

theorem get_recoverOnStartup (now graceMs : Millis) (k : String) :
    (store.recoverOnStartup now graceMs).2.get k =
      (store.get k).map fun job =>
        if job.state == .inProgress then job.withLeaseUntil (now + graceMs) else job := by
  unfold recoverOnStartup get
  dsimp only
  split <;>
    exact Table.get?_update store.jobs _ (Job.withLeaseUntil (now + graceMs))
      (Job.withLeaseUntil_id _) k

theorem get_purgeBefore (before : Millis) (k : String) :
    (store.purgeBefore before).2.get k =
      (store.get k).filter fun job => !job.finishedAt.any (· < before) :=
  Table.get?_delete _ _ _

end JobStore

end InferenceGateway
