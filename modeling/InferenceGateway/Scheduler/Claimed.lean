import InferenceGateway.Scheduler.Claim

/-!
# What a claim takes

`claimForPod` reads a snapshot of the queue, claims along it and returns the
assignments it has made.  First, what it returns is what it took.  Then, what
it took is compared with the oldest work of the whole queue: the snapshot holds
a hundred jobs, so older jobs of other models can hide the pod's own.
-/

namespace InferenceGateway

open Library

variable (platform : Platform) (pod : Pod) (slots : Nat) (leaseTtlMs now : Millis)
  (store : JobStore) (leases : Nat)

/-! ### Returned is taken -/

/-- The assignment repeats what the row of the job says. -/
structure Assignment.Describes (assignment : Assignment) (job : Job) : Prop where
  jobId : assignment.jobId = job.id
  model : assignment.model = job.model
  deadlineAt : assignment.deadlineAt = job.deadlineAt
  input : assignment.input =
    ⟨"/v1/agent/jobs/" ++ job.id ++ "/input", job.inputSha256, job.inputBytes⟩
  endpoint : (getModel (some job.model)).map ModelSpec.endpoint = some assignment.sglang.endpoint
  fields : assignment.sglang.fields = sglangFields job.params

/-- The row of a job that was queued and is now in flight under a lease. -/
def Job.takenBy (podId leaseId : String) (expiresAt now : Millis) (job : Job) : Job :=
  { job with
    state := .inProgress
    podId := some podId
    leaseId := some leaseId
    leaseExpiresAt := some expiresAt
    startedAt := some (job.startedAt.getD now)
    attempts := job.attempts + 1 }

theorem describes_of_assignmentFor {job : Job} {leaseId : String} {assignment : Assignment}
    (assigned : assignmentFor job leaseId = .ok assignment) :
    assignment.Describes job ∧ assignment.leaseId = leaseId := by
  unfold assignmentFor at assigned
  split at assigned
  · cases assigned
  · next spec registered =>
    cases assigned
    refine ⟨⟨rfl, rfl, rfl, rfl, ?_, rfl⟩, rfl⟩
    rw [registered]
    rfl

theorem assign_claim_eq (podId leaseId : String) (expiresAt : Millis) (job : Job) :
    (Update.claim podId leaseId expiresAt now).assign job =
      job.takenBy podId leaseId expiresAt now := by
  cases started : job.startedAt <;> simp [Update.assign, Job.takenBy, started]

/-- A claim changes the rows it names in its answer, and no other. -/
theorem changed_iff (id : String) :
    (claimForPod platform pod slots leaseTtlMs now store leases).store.get id ≠ store.get id ↔
      id ∈ (store.taken pod slots).map Job.id := by
  rw [claimForPod_eq]
  constructor
  · intro changed
    by_contra outside
    exact changed (dispatchAll_other _ _ _ outside)
  · intro member
    obtain ⟨job, taken, rfl⟩ := List.mem_map.mp member
    obtain ⟨i, place⟩ := List.mem_iff_getElem?.mp taken
    have queued := queued_taken pod slots store
    obtain ⟨found, state⟩ := queued.2 job taken
    rw [dispatchAll_at leases queued place, found]
    intro same
    have states := congrArg Job.state (Option.some.inj same)
    cases states.trans state

/-- The answer of `claimForPod` names exactly the jobs it took, each with the
lease its row now holds, and nothing is thrown on the way. -/
theorem claim_exact :
    let result := claimForPod platform pod slots leaseTtlMs now store leases
    result.thrown = none ∧
      (result.assignments.map Assignment.jobId).Nodup ∧
      result.assignments.length ≤ slots ∧
      (∀ id, result.store.get id ≠ store.get id ↔
        id ∈ result.assignments.map Assignment.jobId) ∧
      ∀ assignment ∈ result.assignments, ∃ job,
        store.get assignment.jobId = some job ∧ job.state = .queued ∧
        assignment.Describes job ∧
        result.store.get assignment.jobId =
          some (job.takenBy pod.podId assignment.leaseId (now + leaseTtlMs) now) := by
  have queued := queued_taken pod slots store
  have ids : (assignAll platform (store.taken pod slots) leases).map _ = _ :=
    jobIds_assignAll leases (canRun_of_taken pod slots store)
  have changed := changed_iff platform pod slots leaseTtlMs now store leases
  rw [claimForPod_eq] at changed ⊢
  refine ⟨rfl, ?_, ?_, ?_, ?_⟩
  · rw [ids]
    exact queued.1
  · rw [length_assignAll leases (canRun_of_taken pod slots store)]
    exact List.length_take_le _ _
  · intro id
    rw [ids]
    exact changed id
  · intro assignment member
    obtain ⟨i, job, place, assigned⟩ := assignment_at member
    obtain ⟨describes, lease⟩ := describes_of_assignmentFor assigned
    obtain ⟨found, state⟩ := queued.2 job (List.mem_of_getElem? place)
    refine ⟨job, describes.jobId ▸ found, state, describes, ?_⟩
    rw [describes.jobId, lease, ← assign_claim_eq]
    exact dispatchAll_at leases queued place

/-! ### Taken is the oldest -/

/-- The jobs of the whole queue that the pod can run. -/
def JobStore.runnable (store : JobStore) (pod : Pod) : List Job :=
  store.jobs.rows.filter fun job => job.state == .queued && pod.canRun job

/-- The jobs that were queued before and are in flight after. -/
def claimedJobs (before after : JobStore) : List Job :=
  before.jobs.rows.filter fun job =>
    job.state == .queued && (after.get job.id).any fun row => row.state == .inProgress

/-- Exactly the oldest jobs the pod can run are claimed, as many as it has slots for. -/
structure TakesOldest (pod : Pod) (slots : Nat) (before after : JobStore) : Prop where
  canRun : ∀ job ∈ claimedJobs before after, job ∈ before.runnable pod
  number : (claimedJobs before after).length = min slots (before.runnable pod).length
  oldest : ∀ job ∈ claimedJobs before after, ∀ other ∈ before.runnable pod,
    other ∉ claimedJobs before after → job.createdAt ≤ other.createdAt
  others : ∀ id, id ∉ (claimedJobs before after).map Job.id → after.get id = before.get id
  something : before.runnable pod ≠ [] → claimedJobs before after ≠ []

/-- The hundred oldest jobs of the queue hold all jobs the pod can run, or
enough of them to fill its slots. -/
def JobStore.Uncut : Prop :=
  slots ≤ (store.eligible pod).length ∨
    ∀ job ∈ store.runnable pod, job ∈ store.listQueued 100

theorem mem_claimedJobs_iff (job : Job) :
    job ∈ claimedJobs store (claimForPod platform pod slots leaseTtlMs now store leases).store ↔
      job ∈ store.taken pod slots := by
  have changed := changed_iff platform pod slots leaseTtlMs now store leases job.id
  have queued := queued_taken pod slots store
  simp only [claimedJobs, List.mem_filter, Bool.and_eq_true, beq_iff_eq]
  constructor
  · rintro ⟨member, state, running⟩
    have found := JobStore.get_of_mem member
    have moved : (claimForPod platform pod slots leaseTtlMs now store leases).store.get job.id ≠
        store.get job.id := by
      intro same
      rw [same, found, Option.any_some, state] at running
      cases running
    obtain ⟨other, taken, same⟩ := List.mem_map.mp (changed.mp moved)
    obtain rfl : other = job := by
      rw [← same, (queued.2 other taken).1] at found
      exact Option.some.inj found
    exact taken
  · intro taken
    obtain ⟨found, state⟩ := queued.2 job taken
    obtain ⟨i, place⟩ := List.getElem?_of_mem taken
    refine ⟨JobStore.mem_of_get found, state, ?_⟩
    rw [claimForPod_eq, dispatchAll_at leases queued place]
    rfl

theorem length_claimedJobs :
    (claimedJobs store (claimForPod platform pod slots leaseTtlMs now store leases).store).length =
      min slots (store.eligible pod).length := by
  have rows : store.jobs.rows.Nodup := List.Nodup.of_map _ store.jobs.nodup
  have taken : (store.taken pod slots).Nodup :=
    List.Nodup.of_map _ (queued_taken pod slots store).1
  have same : (claimedJobs store
      (claimForPod platform pod slots leaseTtlMs now store leases).store).Perm
        (store.taken pod slots) :=
    (List.perm_ext_iff_of_nodup (rows.sublist List.filter_sublist) taken).mpr
      (mem_claimedJobs_iff platform pod slots leaseTtlMs now store leases)
  rw [same.length_eq, JobStore.taken, List.length_take]

/-- The whole queue, oldest first. -/
def JobStore.queue : List Job :=
  JobStore.byCreation (store.jobs.rows.filter fun job => job.state == .queued)

theorem runnable_perm : (store.queue.filter pod.canRun).Perm (store.runnable pod) := by
  refine ((List.perm_insertionSort _ _).filter _).trans ?_
  rw [List.filter_filter]
  refine List.Perm.of_eq (List.filter_congr fun job _ => ?_)
  exact Bool.and_comm _ _

theorem eligible_initial : store.eligible pod <+: store.queue.filter pod.canRun :=
  (List.take_prefix _ _).filter _

/-- Every job of the queue left behind is younger than every job taken. -/
theorem createdAt_le_of_taken {job other : Job} (taken : job ∈ store.taken pod slots)
    (runnable : other ∈ store.runnable pod) (left : other ∉ store.taken pod slots) :
    job.createdAt ≤ other.createdAt := by
  obtain ⟨rest, split⟩ := (List.take_prefix slots _).trans (eligible_initial pod store)
  have sorted : store.queue.Pairwise fun first second => first.createdAt ≤ second.createdAt :=
    List.pairwise_insertionSort _ _
  have ordered := sorted.filter pod.canRun
  have member := (runnable_perm pod store).mem_iff.mpr runnable
  rw [← split] at ordered member
  have after := (List.mem_append.mp member).resolve_left left
  exact (List.pairwise_append.mp ordered).2.2 job taken other after

/-- The snapshot holds as many jobs the pod can run as the queue exactly when it holds them all. -/
theorem length_eligible_eq_iff :
    (store.eligible pod).length = (store.runnable pod).length ↔
      ∀ job ∈ store.runnable pod, job ∈ store.listQueued 100 := by
  have perm := runnable_perm pod store
  constructor
  · intro lengths job runnable
    have whole := (eligible_initial pod store).eq_of_length (lengths.trans perm.length_eq.symm)
    have member := perm.mem_iff.mpr runnable
    rw [← whole] at member
    exact (List.mem_filter.mp member).1
  · intro inside
    have rows : (store.runnable pod).Nodup :=
      (List.Nodup.of_map _ store.jobs.nodup).sublist List.filter_sublist
    have eligible : (store.eligible pod).Nodup :=
      (List.Nodup.of_map _ (queued_listQueued store 100).1).sublist List.filter_sublist
    refine List.Perm.length_eq ((List.perm_ext_iff_of_nodup eligible rows).mpr fun job => ?_)
    constructor
    · intro member
      exact perm.mem_iff.mp ((eligible_initial pod store).subset member)
    · intro runnable
      have served := List.mem_filter.mp (perm.mem_iff.mpr runnable)
      exact List.mem_filter.mpr ⟨inside job runnable, served.2⟩

/-- `claimForPod` takes the oldest work of the whole queue exactly when the
snapshot of the queue was not cut short. -/
theorem claim_oldest (room : 0 < slots) :
    TakesOldest pod slots store
        (claimForPod platform pod slots leaseTtlMs now store leases).store ↔
      store.Uncut pod slots := by
  have members := mem_claimedJobs_iff platform pod slots leaseTtlMs now store leases
  have length := length_claimedJobs platform pod slots leaseTtlMs now store leases
  have prefixed : (store.eligible pod).length ≤ (store.runnable pod).length :=
    (eligible_initial pod store).length_le.trans (runnable_perm pod store).length_eq.le
  rw [JobStore.Uncut, ← length_eligible_eq_iff]
  constructor
  · intro oldest
    have number := oldest.number
    rw [length] at number
    omega
  · intro uncut
    have number : (claimedJobs store
        (claimForPod platform pod slots leaseTtlMs now store leases).store).length =
          min slots (store.runnable pod).length := by
      rw [length]
      omega
    refine ⟨?_, number, ?_, ?_, ?_⟩
    · intro job claimed
      exact (runnable_perm pod store).mem_iff.mp ((eligible_initial pod store).subset
        (List.mem_of_mem_take ((members job).mp claimed)))
    · intro job claimed other runnable left
      exact createdAt_le_of_taken pod slots store ((members job).mp claimed) runnable
        fun taken => left ((members other).mpr taken)
    · intro id outside
      by_contra changed
      obtain ⟨job, taken, named⟩ := List.mem_map.mp
        ((changed_iff platform pod slots leaseTtlMs now store leases id).mp changed)
      exact outside (List.mem_map.mpr ⟨job, (members job).mpr taken, named⟩)
    · intro runnable empty
      have positive := List.length_pos_iff.mpr runnable
      rw [empty, List.length_nil] at number
      omega

/-! ### A hidden job -/

/-- The `i`-th job of the sample queue. -/
def sampleQueued (i : Nat) (model : String) : Job :=
  NewJob.row {
    id := String.ofList (List.replicate i 'v')
    model := model
    params := {
      prompt := "x"
      negativePrompt := ""
      resolution := .p480
      size := "480x832"
      seconds := 5
      numInferenceSteps := 4
      guidanceScale := 1
      seed := none }
    inputPath := ⟨.inputs, "v", "input.png"⟩
    inputSha256 := "x"
    inputBytes := 1
    createdAt := i
    deadlineAt := 600000 }

/-- Jobs of a model nobody serves, and behind them one that the sample pod can run. -/
def sampleQueue (blocked : Nat) : JobStore where
  jobs := {
    rows := (List.range (blocked + 1)).map fun i =>
      sampleQueued i (if i < blocked then "someone/some-other-model"
        else "Wan-AI/Wan2.2-I2V-A14B-Diffusers")
    nodup := by
      rw [List.map_map]
      refine List.Nodup.map (fun i j same => ?_) List.nodup_range
      simpa using congrArg String.length
        (show String.ofList (List.replicate i 'v') = String.ofList (List.replicate j 'v')
          from same) }
  events := []
  clock := 0

def samplePod : Pod :=
  PodHeartbeat.row ⟨"pod-a", "session", none, some "Wan-AI/Wan2.2-I2V-A14B-Diffusers", none, none,
    1, true⟩ 0

theorem queue_sample (blocked : Nat) :
    (sampleQueue blocked).queue = (sampleQueue blocked).jobs.rows := by
  have queued : ((sampleQueue blocked).jobs.rows.filter fun job => job.state == .queued) =
      (sampleQueue blocked).jobs.rows := by
    refine List.filter_eq_self.mpr fun job member => ?_
    obtain ⟨i, -, rfl⟩ := List.mem_map.mp member
    rfl
  rw [JobStore.queue, queued]
  refine List.Pairwise.insertionSort_eq (List.pairwise_map.mpr ?_)
  exact List.pairwise_lt_range.imp fun less => Int.ofNat_le.mpr less.le

/-- One blocked job does not hide the job behind it. -/
theorem claim_oldest_sample :
    TakesOldest samplePod 1 (sampleQueue 1)
      (claimForPod .counting samplePod 1 120000 0 (sampleQueue 1) 0).store := by
  refine (claim_oldest .counting samplePod 1 120000 0 (sampleQueue 1) 0 (by decide)).mpr
    (.inr fun job runnable => ?_)
  show job ∈ (sampleQueue 1).queue.take 100
  rw [queue_sample]
  exact (List.mem_filter.mp runnable).1

/-- A hundred blocked jobs do. -/
theorem not_claim_oldest :
    ¬ TakesOldest samplePod 1 (sampleQueue 100)
      (claimForPod .counting samplePod 1 120000 0 (sampleQueue 100) 0).store := by
  intro oldest
  have hidden : (sampleQueue 100).eligible samplePod = [] := by
    refine List.filter_eq_nil_iff.mpr fun job member => ?_
    obtain ⟨i, small, rfl⟩ : ∃ i < 100, sampleQueued i "someone/some-other-model" = job := by
      rw [JobStore.listQueued, ← JobStore.queue, queue_sample] at member
      simp only [sampleQueue, ← List.map_take, List.take_range, List.mem_map, List.mem_range]
        at member
      obtain ⟨i, small, rfl⟩ := member
      have small' : i < 100 := by omega
      exact ⟨i, small', by simp only [if_pos small']⟩
    have unserved : samplePod.model ≠ some "someone/some-other-model" := by decide +kernel
    simp [Pod.canRun, sampleQueued, NewJob.row, unserved.symm]
  have waiting : (sampleQueue 100).runnable samplePod ≠ [] := by
    refine List.ne_nil_of_mem (a := sampleQueued 100 "Wan-AI/Wan2.2-I2V-A14B-Diffusers")
      (List.mem_filter.mpr ⟨?_, by decide +kernel⟩)
    exact List.mem_map.mpr ⟨100, by decide, by simp⟩
  have claimed := length_claimedJobs .counting samplePod 1 120000 0 (sampleQueue 100) 0
  rw [hidden, List.length_nil, Nat.min_zero] at claimed
  exact oldest.something waiting (List.length_eq_zero_iff.mp claimed)

end InferenceGateway
