import InferenceGateway.Config
import InferenceGateway.Db.Jobs
import InferenceGateway.Db.Pods

/-!
# Job to pod matching

Runs inside the agent's own poll request: the polling pod claims for itself.
-/

namespace InferenceGateway

open Library

/-- A form field of the SGLang request. -/
inductive FieldValue where
  | text (value : String)
  | number (value : ℚ)
  deriving DecidableEq

structure AssignmentInput where
  url : String
  sha256 : Option String
  bytes : Option Nat
  deriving DecidableEq

structure SglangRequest where
  endpoint : String
  fields : List (String × FieldValue)
  deriving DecidableEq

structure Assignment where
  jobId : String
  leaseId : String
  model : String
  deadlineAt : Millis
  input : AssignmentInput
  sglang : SglangRequest
  deriving DecidableEq

/-- A pod contributes capacity only when it is not draining and its SGLang
server has finished loading the model. -/
def freeSlots (pod : Pod) (inFlight : Nat) : Nat :=
  if pod.draining || !pod.sglangReady then 0 else pod.maxInFlight - inFlight

/-- The fully-resolved SGLang form fields of a job. -/
def sglangFields (params : JobParams) : List (String × FieldValue) :=
  [("prompt", .text params.prompt),
    ("negative_prompt", .text params.negativePrompt),
    ("size", .text params.size),
    ("seconds", .number params.seconds),
    ("num_inference_steps", .number params.numInferenceSteps),
    ("guidance_scale", .number params.guidanceScale)] ++
  match params.seed with
  | some seed => [("seed", .number seed)]
  | none => []

/-- `assignmentFor`, or the message of the exception it throws. -/
def assignmentFor (job : Job) (leaseId : String) : Except String Assignment :=
  match getModel (some job.model) with
  | none => .error ("job " ++ job.id ++ " references unknown model " ++ job.model)
  | some spec => .ok {
      jobId := job.id
      leaseId := leaseId
      model := job.model
      deadlineAt := job.deadlineAt
      input := {
        url := "/v1/agent/jobs/" ++ job.id ++ "/input"
        sha256 := job.inputSha256
        bytes := job.inputBytes }
      sglang := { endpoint := spec.endpoint, fields := sglangFields job.params } }

/-- The state of the claim loop; `leases` counts the lease ids minted so far and
`thrown` is an exception that ended the loop. -/
structure Claiming where
  store : JobStore
  leases : Nat
  assignments : List Assignment
  thrown : Option String

section ClaimLoop

variable (platform : Platform) (pod : Pod) (slots : Nat) (leaseTtlMs now : Millis)

def claimLoop : List Job → Claiming → Claiming
  | [], state => state
  | job :: rest, state =>
    if state.assignments.length ≥ slots then state
    else if some job.model ≠ pod.model then claimLoop rest state
    else if (getModel (some job.model)).isNone then claimLoop rest state
    else
      let leaseId := platform.newLeaseId state.leases
      let (claimed, store) :=
        state.store.claim job.id pod.podId leaseId (now + leaseTtlMs) now
      let state := { state with store := store, leases := state.leases + 1 }
      if !claimed then claimLoop rest state  -- another poll won the race
      else
        match assignmentFor job leaseId with
        | .error message => { state with thrown := some message }
        | .ok assignment =>
          claimLoop rest { state with assignments := state.assignments ++ [assignment] }

/-- Claim up to `slots` queued jobs for `pod`. -/
def claimForPod (store : JobStore) (leases : Nat) : Claiming :=
  if slots = 0 then ⟨store, leases, [], none⟩
  else claimLoop platform pod slots leaseTtlMs now (store.listQueued 100) ⟨store, leases, [], none⟩

end ClaimLoop

/-! ### What the loop takes

Within one turn of the event loop no other poll can win the race, so the loop
dispatches exactly the first `slots` queued jobs of its snapshot that the pod
can run. -/

/-- The pod serves the job's model, and the model is registered. -/
def Pod.canRun (pod : Pod) (job : Job) : Bool :=
  some job.model = pod.model && (getModel (some job.model)).isSome

/-- The jobs of the queue that `claimForPod` may take, oldest first. -/
def JobStore.eligible (store : JobStore) (pod : Pod) : List Job :=
  (store.listQueued 100).filter pod.canRun

section Dispatch

variable (platform : Platform) (pod : Pod) (expiresAt now : Millis)

/-- Claim jobs one after the other with consecutive lease ids. -/
def dispatchAll : List Job → JobStore → Nat → JobStore
  | [], store, _ => store
  | job :: rest, store, leases =>
    dispatchAll rest
      (store.claim job.id pod.podId (platform.newLeaseId leases) expiresAt now).2 (leases + 1)

/-- The assignments for jobs dispatched with consecutive lease ids. -/
def assignAll : List Job → Nat → List Assignment
  | [], _ => []
  | job :: rest, leases =>
    (match assignmentFor job (platform.newLeaseId leases) with
      | .ok assignment => [assignment]
      | .error _ => []) ++ assignAll rest (leases + 1)

/-- Every job of the list is queued in the store as the list has it. -/
def Queued (store : JobStore) (jobs : List Job) : Prop :=
  (jobs.map Job.id).Nodup ∧ ∀ job ∈ jobs, store.get job.id = some job ∧ job.state = .queued

variable {platform pod expiresAt now}

theorem queued_listQueued (store : JobStore) (limit : Nat) :
    Queued store (store.listQueued limit) := by
  have members : ∀ job ∈ store.listQueued limit,
      job ∈ store.jobs.rows ∧ job.state = .queued := by
    intro job member
    have sorted := List.mem_of_mem_take member
    rw [JobStore.byCreation, List.mem_insertionSort, List.mem_filter] at sorted
    exact ⟨sorted.1, by simpa using sorted.2⟩
  constructor
  · have whole : ((store.jobs.rows.filter fun job => job.state == .queued).map Job.id).Nodup :=
      store.jobs.nodup.sublist (List.filter_sublist.map _)
    have sorted : ((JobStore.byCreation
        (store.jobs.rows.filter fun job => job.state == .queued)).map Job.id).Nodup :=
      ((List.perm_insertionSort _ _).map Job.id).nodup_iff.mpr whole
    exact sorted.sublist ((List.take_sublist _ _).map _)
  · intro job member
    exact ⟨JobStore.get_of_mem (members job member).1, (members job member).2⟩

theorem Queued.tail {store : JobStore} {job : Job} {rest : List Job}
    (queued : Queued store (job :: rest)) : Queued store rest :=
  ⟨(List.nodup_cons.mp queued.1).2, fun other member => queued.2 other (.tail _ member)⟩

theorem Queued.sublist {store : JobStore} {jobs some : List Job}
    (queued : Queued store jobs) (part : some.Sublist jobs) : Queued store some :=
  ⟨queued.1.sublist (part.map _), fun job member => queued.2 job (part.subset member)⟩

/-- Claiming the head of a list of queued jobs succeeds and leaves the others queued. -/
theorem Queued.claim {store : JobStore} {job : Job} {rest : List Job}
    (queued : Queued store (job :: rest)) (podId leaseId : String) (expiresAt now : Millis) :
    (store.claim job.id podId leaseId expiresAt now).1 = true ∧
      Queued (store.claim job.id podId leaseId expiresAt now).2 rest := by
  obtain ⟨found, isQueued⟩ := queued.2 job (.head _)
  constructor
  · rw [JobStore.claim, JobStore.execute_fst, found]
    simp [Update.applies, isQueued]
  · refine ⟨queued.tail.1, fun other member => ⟨?_, (queued.tail.2 other member).2⟩⟩
    have different : other.id ≠ job.id := fun same =>
      (List.nodup_cons.mp queued.1).1 (same ▸ List.mem_map_of_mem member)
    rw [JobStore.claim, JobStore.get_execute_of_ne _ different]
    exact (queued.tail.2 other member).1

theorem assignmentFor_ok {job : Job} (runs : pod.canRun job = true) (leaseId : String) :
    ∃ assignment, assignmentFor job leaseId = .ok assignment ∧
      assignment.jobId = job.id ∧ assignment.leaseId = leaseId := by
  simp only [Pod.canRun, Bool.and_eq_true, Option.isSome_iff_exists] at runs
  obtain ⟨-, spec, registered⟩ := runs
  unfold assignmentFor
  rw [registered]
  exact ⟨_, rfl, rfl, rfl⟩

theorem claimLoop_eq (slots : Nat) (leaseTtlMs now : Millis) (jobs : List Job)
    (state : Claiming) (queued : Queued state.store jobs) :
    claimLoop platform pod slots leaseTtlMs now jobs state =
      let taken := (jobs.filter pod.canRun).take (slots - state.assignments.length)
      { state with
        store := dispatchAll platform pod (now + leaseTtlMs) now taken state.store state.leases
        leases := state.leases + taken.length
        assignments := state.assignments ++ assignAll platform taken state.leases } := by
  induction jobs generalizing state with
  | nil => simp [claimLoop, dispatchAll, assignAll]
  | cons job rest inductionHypothesis =>
    unfold claimLoop
    by_cases full : state.assignments.length ≥ slots
    · have none : slots - state.assignments.length = 0 := by omega
      simp [full, none, dispatchAll, assignAll]
    rw [if_neg full]
    by_cases runs : pod.canRun job = true
    · have model : some job.model = pod.model ∧ (getModel (some job.model)).isSome = true := by
        simpa [Pod.canRun] using runs
      rw [if_neg (not_not.mpr model.1), if_neg (by simp [Option.isNone_iff_eq_none, ←
        Option.isSome_iff_ne_none, model.2])]
      obtain ⟨claimed, queuedRest⟩ := queued.claim pod.podId
        (platform.newLeaseId state.leases) (now + leaseTtlMs) now
      obtain ⟨assignment, assigned, -, -⟩ :=
        assignmentFor_ok runs (platform.newLeaseId state.leases)
      have room : slots - state.assignments.length =
          (slots - (state.assignments.length + 1)) + 1 := by omega
      simp only [claimed, assigned, Bool.not_true, Bool.false_eq_true, if_false]
      rw [inductionHypothesis _ queuedRest, List.filter_cons_of_pos runs, room,
        List.take_succ_cons]
      simp only [dispatchAll, assignAll, assigned, List.length_append, List.length_cons,
        List.length_nil, Nat.zero_add, List.append_assoc, Claiming.mk.injEq, true_and, and_true]
      omega
    · have skipped : claimLoop platform pod slots leaseTtlMs now rest state = _ :=
        inductionHypothesis state queued.tail
      have unfit : some job.model ≠ pod.model ∨ (getModel (some job.model)).isNone = true := by
        by_contra both
        push Not at both
        exact runs (by
          simp only [Pod.canRun, Bool.and_eq_true, decide_eq_true_eq]
          exact ⟨both.1, by simpa [Option.isSome_iff_ne_none] using both.2⟩)
      rw [skipped]
      simp only [List.filter_cons, runs, Bool.false_eq_true, if_false]
      split
      · rfl
      · next same => rw [if_pos (unfit.resolve_left (not_not.mpr (not_not.mp same)))]

theorem dispatchAll_other (jobs : List Job) (store : JobStore) (leases : Nat) {k : String}
    (outside : k ∉ jobs.map Job.id) :
    (dispatchAll platform pod expiresAt now jobs store leases).get k = store.get k := by
  induction jobs generalizing store leases with
  | nil => rfl
  | cons job rest inductionHypothesis =>
    simp only [List.map_cons, List.mem_cons, not_or] at outside
    rw [dispatchAll, inductionHypothesis _ _ outside.2, JobStore.claim,
      JobStore.get_execute_of_ne _ outside.1]

/-- The row of a dispatched job carries the lease minted for its place in the list. -/
theorem dispatchAll_at {jobs : List Job} {store : JobStore} (leases : Nat)
    (queued : Queued store jobs) {i : Nat} {job : Job} (place : jobs[i]? = some job) :
    (dispatchAll platform pod expiresAt now jobs store leases).get job.id =
      some ((Update.claim pod.podId (platform.newLeaseId (leases + i)) expiresAt now).assign
        job) := by
  induction jobs generalizing store leases i with
  | nil => simp at place
  | cons first rest inductionHypothesis =>
    cases i with
    | zero =>
      simp only [List.getElem?_cons_zero, Option.some.injEq] at place
      subst place
      obtain ⟨found, isQueued⟩ := queued.2 first (.head _)
      have outside : first.id ∉ rest.map Job.id := (List.nodup_cons.mp queued.1).1
      rw [dispatchAll, dispatchAll_other _ _ _ outside, JobStore.claim,
        JobStore.get_execute_self _ found]
      simp [Update.run, Update.applies, isQueued]
    | succ i =>
      rw [dispatchAll, inductionHypothesis (leases + 1)
        (queued.claim pod.podId (platform.newLeaseId leases) expiresAt now).2 place]
      simp [Nat.add_comm, Nat.add_left_comm]

@[simp] theorem clock_dispatchAll (jobs : List Job) (store : JobStore) (leases : Nat) :
    (dispatchAll platform pod expiresAt now jobs store leases).clock = store.clock := by
  induction jobs generalizing store leases with
  | nil => rfl
  | cons job rest inductionHypothesis =>
    rw [dispatchAll, inductionHypothesis, JobStore.claim, JobStore.clock_execute]

/-- Each dispatched job adds one to the pod's jobs in flight. -/
theorem listByPod_dispatchAll {jobs : List Job} {store : JobStore} (leases : Nat)
    (queued : Queued store jobs) :
    ((dispatchAll platform pod expiresAt now jobs store leases).listByPod pod.podId).length =
      (store.listByPod pod.podId).length + jobs.length := by
  induction jobs generalizing store leases with
  | nil => rfl
  | cons job rest inductionHypothesis =>
    obtain ⟨found, isQueued⟩ := queued.2 job (.head _)
    have once := Table.countP_update_at store.jobs job.id
      (Update.claim pod.podId (platform.newLeaseId leases) expiresAt now).applies found
      (by simp [Update.applies, isQueued])
      (Update.claim pod.podId (platform.newLeaseId leases) expiresAt now).assign
      (Update.assign_id _) (fun row => row.podId == some pod.podId && row.state == .inProgress)
    rw [dispatchAll, inductionHypothesis _
      (queued.claim pod.podId (platform.newLeaseId leases) expiresAt now).2]
    simp only [JobStore.listByPod, JobStore.byCreation, List.length_insertionSort,
      JobStore.claim, JobStore.jobs_execute, ← List.countP_eq_length_filter] at once ⊢
    simp [Update.assign, isQueued] at once
    simp only [List.length_cons]
    omega

theorem assignAll_pairs {jobs : List Job} (leases : Nat)
    (runs : ∀ job ∈ jobs, pod.canRun job = true) :
    (assignAll platform jobs leases).map (fun assignment =>
        (assignment.jobId, assignment.leaseId)) =
      (jobs.zipIdx leases).map fun entry => (entry.1.id, platform.newLeaseId entry.2) := by
  induction jobs generalizing leases with
  | nil => rfl
  | cons job rest inductionHypothesis =>
    obtain ⟨assignment, assigned, jobId, leaseId⟩ :=
      assignmentFor_ok (runs job (.head _)) (platform.newLeaseId leases)
    simp [assignAll, assigned, jobId, leaseId,
      inductionHypothesis (leases + 1) fun other member => runs other (.tail _ member)]

theorem jobIds_assignAll {jobs : List Job} (leases : Nat)
    (runs : ∀ job ∈ jobs, pod.canRun job = true) :
    (assignAll platform jobs leases).map Assignment.jobId = jobs.map Job.id := by
  have pairs : (assignAll platform jobs leases).map _ = _ := assignAll_pairs leases runs
  have ids := congrArg (List.map Prod.fst) pairs
  simp only [List.map_map] at ids
  refine ids.trans ?_
  rw [← List.zipIdx_map_fst leases jobs, List.map_map]
  simp only [List.zipIdx_map_fst]
  rfl

theorem length_assignAll {jobs : List Job} (leases : Nat)
    (runs : ∀ job ∈ jobs, pod.canRun job = true) :
    (assignAll platform jobs leases).length = jobs.length := by
  have ids := congrArg List.length
    (show (assignAll platform jobs leases).map _ = _ from jobIds_assignAll leases runs)
  simpa using ids

/-- An assignment is that of the job at its place, under the lease minted for the place. -/
theorem assignment_at {jobs : List Job} {leases : Nat} {assignment : Assignment}
    (member : assignment ∈ assignAll platform jobs leases) :
    ∃ i job, jobs[i]? = some job ∧
      assignmentFor job (platform.newLeaseId (leases + i)) = .ok assignment := by
  induction jobs generalizing leases with
  | nil => cases member
  | cons job rest inductionHypothesis =>
    rw [assignAll, List.mem_append] at member
    rcases member with here | later
    · cases assigned : assignmentFor job (platform.newLeaseId leases) with
      | error message => simp [assigned] at here
      | ok first =>
        simp only [assigned, List.mem_singleton] at here
        subst here
        exact ⟨0, job, rfl, assigned⟩
    · obtain ⟨i, other, place, assigned⟩ := inductionHypothesis later
      refine ⟨i + 1, other, place, ?_⟩
      rw [← assigned, Nat.add_right_comm, Nat.add_assoc]

end Dispatch

section ClaimForPod

variable (platform : Platform) (pod : Pod) (slots : Nat) (leaseTtlMs now : Millis)
  (store : JobStore) (leases : Nat)

/-- The jobs a call of `claimForPod` takes. -/
def JobStore.taken : List Job := (store.eligible pod).take slots

theorem queued_taken : Queued store (store.taken pod slots) :=
  (queued_listQueued store 100).sublist
    ((List.take_sublist _ _).trans List.filter_sublist)

theorem canRun_of_taken : ∀ job ∈ store.taken pod slots, pod.canRun job = true := fun _ member =>
  (List.mem_filter.mp (List.mem_of_mem_take member)).2

/-- `claimForPod` never throws, and dispatches the first `slots` eligible jobs. -/
theorem claimForPod_eq :
    claimForPod platform pod slots leaseTtlMs now store leases =
      { store := dispatchAll platform pod (now + leaseTtlMs) now (store.taken pod slots)
          store leases
        leases := leases + (store.taken pod slots).length
        assignments := assignAll platform (store.taken pod slots) leases
        thrown := none } := by
  unfold claimForPod
  split
  · next closed => simp [JobStore.taken, closed, dispatchAll, assignAll]
  · rw [claimLoop_eq slots leaseTtlMs now _ _ (queued_listQueued store 100)]
    simp [JobStore.taken, JobStore.eligible]

end ClaimForPod

end InferenceGateway
