import InferenceGateway.Scheduler.SweepRule

/-!
# What a sweep charges to pods

A sweep counts a failure for the pod of each job it fails.  A job that is taken
away from its pod first and is past its deadline as well is charged to nobody.
-/

namespace InferenceGateway

open Library

/-- Add to the counters of a row. -/
def Pod.tallied (completed failed : Nat) (pod : Pod) : Pod :=
  { pod with
    jobsCompleted := pod.jobsCompleted + completed
    jobsFailed := pod.jobsFailed + failed }

@[simp] theorem Pod.map_tallied_zero (found : Option Pod) : found.map (Pod.tallied 0 0) = found := by
  cases found <;> rfl

theorem Pod.tallied_tallied (pod : Pod) (completed failed completed' failed' : Nat) :
    (pod.tallied completed failed).tallied completed' failed' =
      pod.tallied (completed + completed') (failed + failed') := by
  simp [Pod.tallied, Nat.add_assoc]

namespace PodStore

/-- No row has the empty id, to which nothing is ever charged. -/
def Known (pods : PodStore) (podId : String) : Prop := pods.get podId = none ∨ podId ≠ ""

theorem get_recordOutcome {pods : PodStore} (named : Option String) (outcome : Outcome)
    {podId : String} (known : pods.Known podId) :
    (pods.recordOutcome named outcome).get podId =
      (pods.get podId).map fun pod => if named = some podId then pod.recorded outcome else pod := by
  unfold recordOutcome
  cases named with
  | none => simp
  | some name =>
    by_cases empty : name = ""
    · rcases known with absent | nonempty
      · simp [Option.filter, empty, absent]
      · simp [Option.filter, empty, nonempty.symm]
    · have kept : (some name).filter (· ≠ "") = some name := by simp [empty]
      rw [kept]
      rw [get, Table.get?_update]
      cases found : pods.get? podId with
      | none => simp [get, found]
      | some pod =>
        have key := Table.key_of_get? found
        simp [get, found, key, eq_comm]

theorem Known.map {pods pods' : PodStore} {podId : String} (known : pods.Known podId)
    {f : Pod → Pod} (same : pods'.get podId = (pods.get podId).map f) : pods'.Known podId :=
  known.imp_left fun absent => by rw [same, absent, Option.map_none]

/-- A loop that charges a failure to the pods of some jobs. -/
theorem get_foldl_recordOutcome (charges : Job → Bool) (jobs : List Job) {pods : PodStore}
    {podId : String} (known : pods.Known podId) :
    (jobs.foldl (fun pods job => if charges job then pods.recordOutcome job.podId .failed
        else pods) pods).get podId =
      (pods.get podId).map (Pod.tallied 0
        (jobs.countP fun job => charges job && job.podId == some podId)) := by
  induction jobs generalizing pods with
  | nil => simp
  | cons job rest inductionHypothesis =>
    by_cases charged : charges job = true
    · have record := get_recordOutcome job.podId .failed known
      rw [List.foldl_cons, if_pos charged, inductionHypothesis (known.map record), record,
        Option.map_map, List.countP_cons]
      congr 1
      funext pod
      by_cases here : job.podId = some podId
      · simp only [Function.comp, charged, here, Pod.recorded, Pod.tallied, Bool.true_and,
          beq_self_eq_true, if_true, Nat.add_zero, Pod.mk.injEq, true_and]
        omega
      · simp [charged, here]
    · rw [List.foldl_cons, if_neg charged, inductionHypothesis known, List.countP_cons]
      simp [charged]

end PodStore

/-! ### The loops of a sweep -/

/-- What a loop over a snapshot of the rows does to the registry, row by row. -/
theorem pods_foldl (body : Sweeping → Job → Sweeping) (p : Job → Bool)
    (record : PodStore → Job → PodStore)
    (atRow : ∀ state job, p job = true → state.store.get job.id = some job →
      (body state job).pods = record state.pods job)
    (elsewhere : ∀ state job k, k ≠ job.id →
      (body state job).store.get k = state.store.get k)
    (state : Sweeping) :
    ((state.store.jobs.rows.filter p).foldl body state).pods =
      (state.store.jobs.rows.filter p).foldl record state.pods := by
  have general : ∀ (jobs : List Job) (current : Sweeping), (jobs.map Job.id).Nodup →
      (∀ job ∈ jobs, p job = true ∧ current.store.get job.id = some job) →
      (jobs.foldl body current).pods = jobs.foldl record current.pods := by
    intro jobs
    induction jobs with
    | nil => exact fun _ _ _ => rfl
    | cons job rest inductionHypothesis =>
      intro current distinct present
      obtain ⟨fresh, distinct⟩ := List.nodup_cons.mp distinct
      obtain ⟨selected, found⟩ := present job (.head _)
      rw [List.foldl_cons, List.foldl_cons, inductionHypothesis _ distinct,
        atRow current job selected found]
      intro other member
      refine ⟨(present other (.tail _ member)).1, ?_⟩
      rw [elsewhere current job other.id fun same => fresh (same ▸ List.mem_map_of_mem member)]
      exact (present other (.tail _ member)).2
  apply general _ state (state.store.jobs.nodup.sublist (List.filter_sublist.map _))
  intro job member
  obtain ⟨member, selected⟩ := List.mem_filter.mp member
  exact ⟨selected, JobStore.get_of_mem member⟩

section Loops

variable {state : Sweeping} (now : Millis) {podId : String} (known : state.pods.Known podId)

include known

theorem pods_expireLease (maxAttempts : Nat) :
    ((state.store.expiredLeases now).foldl (expireLease maxAttempts now) state).pods.get podId =
      (state.pods.get podId).map (Pod.tallied 0 ((state.store.expiredLeases now).countP fun job =>
        decide (maxAttempts ≤ job.attempts) && job.podId == some podId)) := by
  have loop := pods_foldl (expireLease maxAttempts now) (fun job => job.leaseExpired now)
    (fun pods job => if decide (maxAttempts ≤ job.attempts) then
      pods.recordOutcome job.podId .failed else pods) ?_
    (get_expireLease_elsewhere maxAttempts now) state
  · rw [JobStore.expiredLeases, loop, PodStore.get_foldl_recordOutcome _ _ known]
  · intro current job selected found
    obtain ⟨fails, requeues⟩ := fence_applies (state_of_leaseExpired selected)
      (podLost job.attempts) "lease expired" now
    unfold expireLease
    by_cases exhausted : maxAttempts ≤ job.attempts
    · simp [JobStore.fail, JobStore.execute_fst, found, fails, exhausted]
    · simp [JobStore.requeue, JobStore.execute_fst, found, requeues, exhausted]

theorem pods_failOverdue :
    ((state.store.overdue now).foldl (failOverdue now) state).pods.get podId =
      (state.pods.get podId).map (Pod.tallied 0 ((state.store.overdue now).countP fun job =>
        job.podId == some podId)) := by
  have loop := pods_foldl (failOverdue now) (fun job => job.isOverdue now)
    (fun pods job => if true then pods.recordOutcome job.podId .failed else pods) ?_ ?_ state
  · rw [JobStore.overdue, loop, PodStore.get_foldl_recordOutcome (fun _ => true) _ known]
    simp only [Bool.true_and]
  · intro current job selected found
    have unfinished : (job.state == .queued || job.state == .inProgress) = true := by
      simp only [Job.isOverdue, Bool.and_eq_true] at selected
      exact selected.1
    have fails : (Update.fail none (deadlineDetail job now) now).applies job = true := unfinished
    simp [failOverdue, JobStore.fail, JobStore.execute_fst, found, fails]
  · intro current job other different
    unfold failOverdue
    dsimp only
    split <;> simp [JobStore.fail, JobStore.get_execute_of_ne _ different]

omit known in
theorem pods_forceCancel (state : Sweeping) (jobs : List Job) :
    (jobs.foldl (forceCancel now) state).pods = state.pods := by
  induction jobs generalizing state with
  | nil => rfl
  | cons job rest inductionHypothesis =>
    rw [List.foldl_cons, inductionHypothesis]
    unfold forceCancel
    dsimp only
    split <;> rfl

end Loops

/-! ### A whole sweep -/

/-- The job is failed while it is on the pod. -/
def Job.failsOn (podId : String) (job job' : Job) : Bool :=
  !job.state.isTerminal && job'.state == .failed && job'.podId == some podId

/-- Which of the loops charges the pod with a job. -/
theorem failsOn_swept (config : Config) (now : Millis) (podId : String) (job : Job) :
    (job.failsOn podId (job.swept config now)).toNat =
      (decide (config.maxAttempts ≤ job.attempts) && job.podId == some podId &&
          job.leaseExpired now).toNat +
        ((job.afterExpiry config.maxAttempts now).podId == some podId &&
          (job.afterExpiry config.maxAttempts now).isOverdue now).toNat := by
  rw [swept_eq_sweepRule]
  unfold Job.sweepRule Job.afterExpiry Job.failsOn
  by_cases expired : job.leaseExpired now = true
  · have running := state_of_leaseExpired expired
    by_cases exhausted : config.maxAttempts ≤ job.attempts
    · simp [expired, exhausted, running, Job.failedWith, VideoStatus.isTerminal, Update.assign,
        Job.isOverdue]
    · by_cases late : job.isOverdue now = true
      · simp [expired, exhausted, late, Job.failedWith, Job.disowned, Update.assign]
      · simp [expired, exhausted, late, Job.disowned, Update.assign]
  · by_cases late : job.isOverdue now = true
    · have unfinished : job.state.isTerminal = false := by
        rcases state_of_isOverdue late with state | state <;> rw [state] <;> rfl
      simp [expired, late, unfinished, Job.failedWith]
    · by_cases stale : job.cancelStale (now - config.cancelGraceMs) = true
      · simp [expired, late, stale]
      · have settled : (!job.state.isTerminal && job.state == .failed) = false := by
          cases job.state <;> rfl
        simp [expired, late, stale, settled]

theorem countP_eq_add {Row : Type} {p q r : Row → Bool}
    (split : ∀ row, (p row).toNat = (q row).toNat + (r row).toNat) (rows : List Row) :
    rows.countP p = rows.countP q + rows.countP r := by
  induction rows with
  | nil => rfl
  | cons row rest inductionHypothesis =>
    have once : ∀ selected : Bool, (if selected = true then 1 else 0) = selected.toNat := by decide
    rw [List.countP_cons, List.countP_cons, List.countP_cons, inductionHypothesis, once, once,
      once, split row]
    omega

/-- A sweep counts a failure for the pod of every job it fails on that pod. -/
theorem pods_sweep (config : Config) (store : JobStore) {pods : PodStore} (now : Millis)
    {podId : String} (known : pods.Known podId) :
    (sweep config store pods now).pods.get podId =
      (pods.get podId).map (Pod.tallied 0 (store.jobs.rows.countP fun job =>
        job.failsOn podId (job.swept config now))) := by
  let start : Sweeping := ⟨store, pods, ⟨0, 0, 0⟩⟩
  let first := (start.store.expiredLeases now).foldl (expireLease config.maxAttempts now) start
  have rows (q : Job → Bool) : first.store.jobs.rows.countP q =
      store.jobs.rows.countP fun job => q (job.afterExpiry config.maxAttempts now) :=
    Table.countP_of_get? (fun job => by unfold Job.afterExpiry; split_ifs <;> simp)
      (get_expireLease start now config.maxAttempts) q
  have charged := @pods_expireLease start now podId known config.maxAttempts
  rw [sweep, pods_forceCancel, pods_failOverdue now (known.map charged), charged, Option.map_map]
  congr 1
  funext pod
  rw [Function.comp, Pod.tallied_tallied]
  congr 1
  rw [countP_eq_add (failsOn_swept config now podId), JobStore.expiredLeases, JobStore.overdue,
    List.countP_filter, List.countP_filter]
  exact (congrArg (_ + ·) (rows fun job => job.podId == some podId && job.isOverdue now))

end InferenceGateway
