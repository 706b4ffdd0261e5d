import InferenceGateway.Config
import InferenceGateway.Db.Jobs
import InferenceGateway.Db.Pods

/-!
# Periodic sweep for jobs no agent will ever finish

Three loops over the store: leases that ran out, deadlines that passed, cancels
nobody acknowledged.  Each loop reads a snapshot and then writes guarded
statements; `get_sweep` shows that together they act on every row by itself.
-/

namespace InferenceGateway

structure SweepResult where
  requeued : Nat
  failed : Nat
  cancelled : Nat
  deriving DecidableEq

/-- What the loops of a sweep update. -/
structure Sweeping where
  store : JobStore
  pods : PodStore
  result : SweepResult

def humanMs (ms : Millis) : String := toString (mathRound (ms / 1000)) ++ "s"

def podLost (attempts : Nat) : String :=
  "pod lost during generation (" ++ toString attempts ++
    (if attempts = 1 then " attempt" else " attempts") ++ ")"

def deadlineDetail (job : Job) (now : Millis) : String :=
  let queuedFor := job.startedAt.getD now - job.createdAt
  let runningFor := match job.startedAt with
    | some startedAt => if startedAt = 0 then 0 else now - startedAt
    | none => 0
  "job exceeded its " ++ humanMs (job.deadlineAt - job.createdAt) ++ " deadline (queued " ++
    humanMs queuedFor ++ ", running " ++ humanMs runningFor ++ ")"

/-- Loop 1: a lease the owning pod stopped renewing. -/
def expireLease (maxAttempts : Nat) (now : Millis) (state : Sweeping) (job : Job) : Sweeping :=
  if job.attempts ≥ maxAttempts then
    let (failed, store) := state.store.fail job.id job.leaseId (podLost job.attempts) now
    if failed then
      { store := store
        pods := state.pods.recordOutcome job.podId .failed
        result := { state.result with failed := state.result.failed + 1 } }
    else { state with store := store }
  else
    let (requeued, store) := state.store.requeue job.id job.leaseId "lease expired"
    if requeued then
      { state with
        store := store.addEvent job.id .leaseExpired job.podId
          (some ("attempt " ++ toString job.attempts))
        result := { state.result with requeued := state.result.requeued + 1 } }
    else { state with store := store }

/-- Loop 2: the wall-clock budget. -/
def failOverdue (now : Millis) (state : Sweeping) (job : Job) : Sweeping :=
  let (failed, store) := state.store.fail job.id none (deadlineDetail job now) now
  if failed then
    { store := store.addEvent job.id .deadlineExceeded job.podId none
      pods := state.pods.recordOutcome job.podId .failed
      result := { state.result with failed := state.result.failed + 1 } }
  else { state with store := store }

/-- Loop 3: a cancel the pod never acknowledged. -/
def forceCancel (now : Millis) (state : Sweeping) (job : Job) : Sweeping :=
  let (cancelled, store) :=
    state.store.markCancelled job.id none now "pod did not acknowledge the cancel"
  if cancelled then
    { state with
      store := store
      result := { state.result with cancelled := state.result.cancelled + 1 } }
  else { state with store := store }

def sweep (config : Config) (store : JobStore) (pods : PodStore) (now : Millis) : Sweeping :=
  let start : Sweeping := ⟨store, pods, ⟨0, 0, 0⟩⟩
  let first := (start.store.expiredLeases now).foldl (expireLease config.maxAttempts now) start
  let second := (first.store.overdue now).foldl (failOverdue now) first
  (second.store.staleCancels (now - config.cancelGraceMs)).foldl (forceCancel now) second

/-! ### The effect of a sweep on one row -/

/-- Loop 1 on a row. -/
def Job.afterExpiry (maxAttempts : Nat) (now : Millis) (job : Job) : Job :=
  if job.leaseExpired now then
    if job.attempts ≥ maxAttempts then
      (Update.fail job.leaseId (podLost job.attempts) now).assign job
    else (Update.requeue job.leaseId "lease expired").assign job
  else job

/-- Loop 2 on a row. -/
def Job.afterDeadline (now : Millis) (job : Job) : Job :=
  if job.isOverdue now then (Update.fail none (deadlineDetail job now) now).assign job else job

/-- Loop 3 on a row. -/
def Job.afterGrace (cancelGraceMs now : Millis) (job : Job) : Job :=
  if job.cancelStale (now - cancelGraceMs) then
    (Update.markCancelled none now "pod did not acknowledge the cancel").assign job
  else job

def Job.swept (config : Config) (now : Millis) (job : Job) : Job :=
  ((job.afterExpiry config.maxAttempts now).afterDeadline now).afterGrace
    config.cancelGraceMs now

theorem model_swept (config : Config) (now : Millis) (job : Job) :
    (job.swept config now).model = job.model := by
  have expiry : (job.afterExpiry config.maxAttempts now).model = job.model := by
    unfold Job.afterExpiry
    split
    · split <;> rfl
    · rfl
  have deadline (row : Job) : (row.afterDeadline now).model = row.model := by
    unfold Job.afterDeadline
    split <;> rfl
  have grace (row : Job) : (row.afterGrace config.cancelGraceMs now).model = row.model := by
    unfold Job.afterGrace
    split <;> rfl
  exact (grace _).trans ((deadline _).trans expiry)

/-- A loop over a snapshot of the rows that satisfy `p`, whose body runs a
statement on the row it was given, acts on exactly those rows. -/
theorem get_foldl {body : Sweeping → Job → Sweeping} {p : Job → Bool} (after : Job → Job)
    (atRow : ∀ state job, p job = true → state.store.get job.id = some job →
      (body state job).store.get job.id = some (after job))
    (elsewhere : ∀ state job k, k ≠ job.id →
      (body state job).store.get k = state.store.get k)
    (state : Sweeping) (k : String) :
    ((state.store.jobs.rows.filter p).foldl body state).store.get k =
      (state.store.get k).map fun job => if p job then after job else job := by
  have general : ∀ (jobs : List Job) (current : Sweeping), (jobs.map Job.id).Nodup →
      (∀ job ∈ jobs, p job = true ∧ current.store.get job.id = some job) →
      (jobs.foldl body current).store.get k =
        if ∃ job ∈ jobs, job.id = k then (current.store.get k).map after
        else current.store.get k := by
    intro jobs
    induction jobs with
    | nil => simp
    | cons job rest inductionHypothesis =>
      intro current nodup present
      obtain ⟨fresh, nodupRest⟩ := List.nodup_cons.mp nodup
      obtain ⟨selected, found⟩ := present job (.head _)
      have presentRest : ∀ other ∈ rest, p other = true ∧
          (body current job).store.get other.id = some other := by
        intro other member
        refine ⟨(present other (.tail _ member)).1, ?_⟩
        rw [elsewhere current job other.id fun same =>
          fresh (same ▸ List.mem_map_of_mem member)]
        exact (present other (.tail _ member)).2
      rw [List.foldl_cons, inductionHypothesis _ nodupRest presentRest]
      by_cases same : job.id = k
      · subst same
        have absent : ¬ ∃ other ∈ rest, other.id = job.id := by
          rintro ⟨other, member, equal⟩
          exact fresh (equal ▸ List.mem_map_of_mem member)
        rw [if_neg absent, if_pos ⟨job, .head _, rfl⟩, atRow current job selected found, found,
          Option.map_some]
      · rw [elsewhere current job k (Ne.symm same)]
        simp [same]
  have snapshot : ∀ job ∈ state.store.jobs.rows.filter p,
      p job = true ∧ state.store.get job.id = some job := by
    intro job member
    obtain ⟨member, selected⟩ := List.mem_filter.mp member
    exact ⟨selected, JobStore.get_of_mem member⟩
  rw [general _ state (state.store.jobs.nodup.sublist (List.filter_sublist.map _)) snapshot]
  cases found : state.store.get k with
  | none => simp
  | some job =>
    have named : (∃ other ∈ state.store.jobs.rows.filter p, other.id = k) ↔ p job = true := by
      constructor
      · rintro ⟨other, member, rfl⟩
        obtain ⟨selected, present⟩ := snapshot other member
        rw [found] at present
        cases present
        exact selected
      · intro selected
        exact ⟨job, List.mem_filter.mpr ⟨JobStore.mem_of_get found, selected⟩,
          JobStore.id_of_get found⟩
    rw [if_congr named rfl rfl]
    by_cases selected : p job = true <;> simp [selected]

theorem fence_applies {job : Job} (inFlight : job.state = .inProgress) (error reason : String)
    (now : Millis) :
    (Update.fail job.leaseId error now).applies job = true ∧
      (Update.requeue job.leaseId reason).applies job = true := by
  cases fenced : fence job.leaseId with
  | none => simp [Update.applies, fenced, inFlight]
  | some lease =>
    have same : job.leaseId = some lease := (Option.filter_eq_some_iff.mp fenced).1
    rw [same] at fenced
    simp [Update.applies, Job.holds, same, fenced, inFlight]

section Rows

variable (state : Sweeping) (now : Millis)

theorem get_expireLease (maxAttempts : Nat) (k : String) :
    (((state.store.expiredLeases now).foldl (expireLease maxAttempts now) state).store.get k) =
      (state.store.get k).map (Job.afterExpiry maxAttempts now) := by
  refine (get_foldl (Job.afterExpiry maxAttempts now) ?_ ?_ state k).trans ?_
  · intro current job selected found
    have inFlight := state_of_leaseExpired selected
    obtain ⟨fails, requeues⟩ :=
      fence_applies inFlight (podLost job.attempts) "lease expired" now
    unfold expireLease Job.afterExpiry
    split
    · simp only [JobStore.fail, JobStore.execute_fst, found, Option.any_some, fails, if_true,
        JobStore.get_execute_self _ found, Update.run]
    · simp only [JobStore.requeue, JobStore.execute_fst, found, Option.any_some, requeues,
        if_true, JobStore.get_addEvent, JobStore.get_execute_self _ found, Update.run]
  · intro current job other different
    unfold expireLease
    split <;> dsimp only <;> split <;>
      simp [JobStore.fail, JobStore.requeue, JobStore.get_execute_of_ne _ different]
  · congr 1
    funext job
    unfold Job.afterExpiry
    by_cases selected : job.leaseExpired now = true <;> simp [selected]

theorem get_failOverdue (k : String) :
    (((state.store.overdue now).foldl (failOverdue now) state).store.get k) =
      (state.store.get k).map (Job.afterDeadline now) := by
  refine (get_foldl (Job.afterDeadline now) ?_ ?_ state k).trans ?_
  · intro current job selected found
    have unfinished : (job.state == .queued || job.state == .inProgress) = true := by
      simp only [Job.isOverdue, Bool.and_eq_true] at selected
      exact selected.1
    have fails : (Update.fail none (deadlineDetail job now) now).applies job = true := unfinished
    unfold failOverdue Job.afterDeadline
    simp only [JobStore.fail, JobStore.execute_fst, found, Option.any_some, fails, if_true,
      JobStore.get_addEvent, JobStore.get_execute_self _ found, Update.run, selected]
  · intro current job other different
    unfold failOverdue
    dsimp only
    split <;> simp [JobStore.fail, JobStore.get_execute_of_ne _ different]
  · congr 1
    funext job
    unfold Job.afterDeadline
    by_cases selected : job.isOverdue now = true <;> simp [selected]

theorem get_forceCancel (cancelGraceMs : Millis) (k : String) :
    (((state.store.staleCancels (now - cancelGraceMs)).foldl (forceCancel now)
        state).store.get k) =
      (state.store.get k).map (Job.afterGrace cancelGraceMs now) := by
  refine (get_foldl (Job.afterGrace cancelGraceMs now) ?_ ?_ state k).trans ?_
  · intro current job selected found
    have inFlight := state_of_cancelStale selected
    have cancels : (Update.markCancelled none now
        "pod did not acknowledge the cancel").applies job = true := by
      simp [Update.applies, fence, inFlight]
    unfold forceCancel Job.afterGrace
    simp only [JobStore.markCancelled, JobStore.execute_fst, found, Option.any_some, cancels,
      if_true, JobStore.get_execute_self _ found, Update.run, selected]
  · intro current job other different
    unfold forceCancel
    dsimp only
    split <;> simp [JobStore.markCancelled, JobStore.get_execute_of_ne _ different]
  · congr 1
    funext job
    unfold Job.afterGrace
    by_cases selected : job.cancelStale (now - cancelGraceMs) = true <;> simp [selected]

end Rows

/-- A sweep acts on every row by itself, whatever else the store holds. -/
theorem get_sweep (config : Config) (store : JobStore) (pods : PodStore) (now : Millis)
    (k : String) :
    (sweep config store pods now).store.get k = (store.get k).map (Job.swept config now) := by
  unfold sweep
  dsimp only
  rw [get_forceCancel, get_failOverdue, get_expireLease, Option.map_map, Option.map_map]
  rfl

/-! ### What a sweep leaves alone -/

theorem clock_foldl {body : Sweeping → Job → Sweeping}
    (step : ∀ state job, (body state job).store.clock = state.store.clock) (jobs : List Job)
    (state : Sweeping) : (jobs.foldl body state).store.clock = state.store.clock := by
  induction jobs generalizing state with
  | nil => rfl
  | cons job rest inductionHypothesis =>
    exact (inductionHypothesis (body state job)).trans (step state job)

@[simp] theorem clock_sweep (config : Config) (store : JobStore) (pods : PodStore)
    (now : Millis) : (sweep config store pods now).store.clock = store.clock := by
  unfold sweep
  refine (clock_foldl (fun state job => ?_) _ _).trans
    ((clock_foldl (fun state job => ?_) _ _).trans
      (clock_foldl (fun state job => ?_) _ ⟨store, pods, ⟨0, 0, 0⟩⟩))
  · unfold forceCancel JobStore.markCancelled
    dsimp only
    split <;> simp
  · unfold failOverdue JobStore.fail
    dsimp only
    split <;> simp
  · unfold expireLease JobStore.fail JobStore.requeue
    dsimp only
    split <;> split <;> simp

theorem get_foldl_of_notMem {body : Sweeping → Job → Sweeping}
    (elsewhere : ∀ state job k, k ≠ job.id → (body state job).store.get k = state.store.get k)
    (jobs : List Job) (state : Sweeping) {k : String} (outside : k ∉ jobs.map Job.id) :
    (jobs.foldl body state).store.get k = state.store.get k := by
  induction jobs generalizing state with
  | nil => rfl
  | cons job rest inductionHypothesis =>
    rw [List.map_cons, List.mem_cons, not_or] at outside
    exact (inductionHypothesis (body state job) outside.2).trans
      (elsewhere state job k outside.1)

/-- A count that no step lowers is not lowered by a loop. -/
theorem requeued_foldl_le {body : Sweeping → Job → Sweeping}
    (step : ∀ state job, state.result.requeued ≤ (body state job).result.requeued)
    (jobs : List Job) (state : Sweeping) :
    state.result.requeued ≤ (jobs.foldl body state).result.requeued := by
  induction jobs generalizing state with
  | nil => exact le_rfl
  | cons job rest inductionHypothesis =>
    exact (step state job).trans (inductionHypothesis (body state job))

theorem get_expireLease_elsewhere (maxAttempts : Nat) (now : Millis) (state : Sweeping)
    (job : Job) (k : String) (different : k ≠ job.id) :
    (expireLease maxAttempts now state job).store.get k = state.store.get k := by
  unfold expireLease
  split <;> dsimp only <;> split <;>
    simp [JobStore.fail, JobStore.requeue, JobStore.get_execute_of_ne _ different]

theorem requeued_expireLease_le (maxAttempts : Nat) (now : Millis) (state : Sweeping)
    (job : Job) :
    state.result.requeued ≤ (expireLease maxAttempts now state job).result.requeued := by
  unfold expireLease
  split <;> dsimp only <;> split <;> simp

/-- A sweep that finds an expired lease with attempts left counts a requeue. -/
theorem requeued_sweep {config : Config} {store : JobStore} (pods : PodStore) {now : Millis}
    {job : Job} (member : job ∈ store.jobs.rows) (expired : job.leaseExpired now = true)
    (left : job.attempts < config.maxAttempts) :
    0 < (sweep config store pods now).result.requeued := by
  obtain ⟨before, after, split⟩ :=
    List.append_of_mem (show job ∈ store.expiredLeases now from List.mem_filter.mpr ⟨member, expired⟩)
  have nodup : ((store.expiredLeases now).map Job.id).Nodup :=
    store.jobs.nodup.sublist (List.filter_sublist.map _)
  have outside : job.id ∉ before.map Job.id := by
    rw [split, List.map_append, List.map_cons, List.nodup_append] at nodup
    exact fun twice => nodup.2.2 _ twice _ List.mem_cons_self rfl
  let start : Sweeping := ⟨store, pods, ⟨0, 0, 0⟩⟩
  let middle := before.foldl (expireLease config.maxAttempts now) start
  have present : middle.store.get job.id = some job :=
    (get_foldl_of_notMem (get_expireLease_elsewhere _ _) before start outside).trans
      (JobStore.get_of_mem member)
  have inFlight := state_of_leaseExpired expired
  have counted : 0 < (expireLease config.maxAttempts now middle job).result.requeued := by
    have requeues := (fence_applies inFlight "" "lease expired" now).2
    unfold expireLease
    rw [if_neg (by omega)]
    simp [JobStore.requeue, JobStore.execute_fst, present, requeues]
  have first : 0 < ((store.expiredLeases now).foldl (expireLease config.maxAttempts now)
      start).result.requeued := by
    rw [split, List.foldl_append, List.foldl_cons]
    exact counted.trans_le (requeued_foldl_le (requeued_expireLease_le _ _) after _)
  unfold sweep
  refine first.trans_le ((requeued_foldl_le (fun state row => ?_) _ _).trans
    (requeued_foldl_le (fun state row => ?_) _ _))
  · unfold failOverdue
    dsimp only
    split <;> simp
  · unfold forceCancel
    dsimp only
    split <;> simp

end InferenceGateway
