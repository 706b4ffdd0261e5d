import InferenceGateway.Runs.Fencing

/-!
# Handlers of finished jobs

A handler that removes files of a job holds on to its id across suspensions.
The jobs a cleanup is going to expire and the job of an accepted result are
finished, and stay so.
-/

namespace InferenceGateway

open Library Relation

variable {platform : Platform} {prepare : Prepare} {config : Config} {t : GatewayTransition}

/-! ### Cleanups -/

/-- A cleanup started in the past, and expires media of jobs that had been
finished for long by then. -/
def Dooms (platform : Platform) (config : Config) (state : Gateway) (task : CleanupTask) : Prop :=
  task.now ≤ state.now ∧ ∀ id ∈ task.doomed, ∃ job finishedAt, job.state.isTerminal = true ∧
    job.finishedAt = some finishedAt ∧ finishedAt + config.artifactTtlMs < task.now ∧
    SettledAt platform id job state

/-- The media of a row that a cleanup is going to expire have expired. -/
theorem expired_of_doomed {state : Gateway} {task : CleanupTask}
    (dooms : Dooms platform config state task) {id : String} (doomed : id ∈ task.doomed)
    {job : Job} (found : state.store.get id = some job) :
    job.state.isTerminal = true ∧ ∃ finishedAt, job.finishedAt = some finishedAt ∧
      finishedAt + config.artifactTtlMs < state.now := by
  obtain ⟨started, listed⟩ := dooms
  obtain ⟨job₀, finishedAt, terminal, finished, old, -, settled⟩ := listed id doomed
  have same := settled job found
  exact ⟨same.state ▸ terminal, finishedAt, same.finishedAt.trans finished, old.trans_le started⟩

theorem dooms_step (fires : (gateway platform prepare config).Fires t)
    (sound : t.pre.Sound platform)
    (dooms : ∀ k task, t.pre.tasks.lookup k = some (.cleanup task) →
      Dooms platform config t.pre task) {k : Nat} {task : CleanupTask}
    (running : t.post.tasks.lookup k = some (.cleanup task)) :
    Dooms platform config t.post task := by
  have later := now_le fires
  have onward {task : CleanupTask} (earlier : Dooms platform config t.pre task) :
      Dooms platform config t.post task := by
    refine ⟨earlier.1.trans later, fun id doomed => ?_⟩
    obtain ⟨job, finishedAt, terminal, finished, old, settled⟩ := earlier.2 id doomed
    exact ⟨job, finishedAt, terminal, finished, old, settled_step fires terminal settled⟩
  have change := taskChange fires k
  rw [running] at change
  generalize before : t.pre.tasks.lookup k = earlier at change
  generalize after : some (Task.cleanup task) = afterwards at change
  cases change with
  | same =>
    subst after
    exact onward (dooms k task before)
  | spawned _ _ spawned =>
    cases after
    cases spawned with
    | cleanup action started doomed =>
      apply onward
      refine ⟨started.le, fun id member => ?_⟩
      obtain ⟨job, listed, rfl⟩ := List.mem_map.mp (doomed member)
      obtain ⟨row, old⟩ := List.mem_filter.mp listed
      rw [Bool.and_eq_true, Option.any_eq_true] at old
      obtain ⟨⟨finishedAt, finished, old⟩, -⟩ := old
      have found := JobStore.get_of_mem row
      have consistent := (sound.row job.id job found).consistent
      refine ⟨job, finishedAt, (finishedAt_isSome consistent).mp (by rw [finished]; rfl), finished,
        ?_, fun unborn => ?_, fun job' found' => ?_⟩
      · rw [started]
        exact lt_sub_iff_add_lt.mp (of_decide_eq_true old)
      · cases (get_of_unborn sound.fresh unborn).symm.trans found
      · cases found.symm.trans found'
        exact ⟨rfl, rfl, rfl, rfl, rfl, .inl rfl⟩
  | continued action continues =>
    cases after
    cases continues with
    | cleanup now doomed =>
      obtain ⟨started, listed⟩ := onward (dooms k _ before)
      rw [Dooms, now]
      exact ⟨started, fun id member => listed id (doomed member)⟩
  | returned => cases after
  | lost => cases after

/-! ### Results -/

/-- The job of an accepted result is finished. -/
def Concludes (platform : Platform) (state : Gateway) (task : Finishing) : Prop :=
  ∃ job, job.state.isTerminal = true ∧ SettledAt platform task.id job state

/-- The statement of an accepted result has ended its job. -/
theorem terminal_of_ending {request : ResultRequest} {lease : String} {now : Millis}
    {statement : Update} (ending : Ending request lease now statement) (job : Job) :
    (statement.assign job).state.isTerminal = true := by
  cases ending with
  | completes | acknowledges | fails => rfl

theorem applies_of_ending {request : ResultRequest} {lease : String} {now : Millis}
    {statement : Update} (ending : Ending request lease now statement) (nonempty : lease ≠ "")
    {job : Job} (holds : job.holds lease = true) : statement.applies job = true := by
  have fenced : fence (some lease) = some lease := fence_eq_some.mpr ⟨rfl, nonempty⟩
  cases ending with
  | completes => exact holds
  | acknowledges | fails => simp [Update.applies, fenced, holds]

/-- An accepted result leaves the row of its job ended by its statement. -/
theorem get_of_ending {state : Gateway} (sound : state.Sound platform) {request : ResultRequest}
    {job : Job} {lease : String} {statement : Update} (names : Names state request job lease)
    (ending : Ending request lease state.now statement) :
    (state.store.execute request.id statement).2.get request.id = some (statement.assign job) := by
  have holds := (sound.row _ job names.found).consistent.holds names.held
  rw [JobStore.get_execute_self statement names.found, Update.run,
    if_pos (applies_of_ending ending names.nonempty holds)]

/-- A result that suspends a handler has ended its job. -/
theorem ended_of_result (fires : (gateway platform prepare config).Fires t)
    (sound : t.pre.Sound platform) {request : ResultRequest} (action : t.action = .result request)
    (counted : t.post.tokens = t.pre.tokens + 1) :
    ∃ job, t.post.store.get request.id = some job ∧ job.state.isTerminal = true := by
  obtain ⟨pre, _, reply, post⟩ := t
  obtain rfl := action
  have effect : Effect platform config pre (.result request) reply post := effect fires
  cases effect with
  | refused | superseded | retried => exact absurd counted (Nat.succ_ne_self _).symm
  | accepted names ending => exact ⟨_, get_of_ending sound names ending, terminal_of_ending ending _⟩

theorem concludes_step (fires : (gateway platform prepare config).Fires t)
    (sound : t.pre.Sound platform)
    (concludes : ∀ k task, t.pre.tasks.lookup k = some (.finishing task) →
      Concludes platform t.pre task) {k : Nat} {task : Finishing}
    (running : t.post.tasks.lookup k = some (.finishing task)) :
    Concludes platform t.post task := by
  have onward {task : Finishing} (earlier : Concludes platform t.pre task) :
      Concludes platform t.post task := by
    obtain ⟨job, terminal, settled⟩ := earlier
    exact ⟨job, terminal, settled_step fires terminal settled⟩
  have change := taskChange fires k
  rw [running] at change
  generalize before : t.pre.tasks.lookup k = earlier at change
  generalize after : some (Task.finishing task) = afterwards at change
  cases change with
  | same =>
    subst after
    exact onward (concludes k task before)
  | spawned _ counted spawned =>
    cases after
    cases spawned with
    | finishing outcome clears action =>
      obtain ⟨job, found, terminal⟩ := ended_of_result fires sound action counted
      have sound' := sound_step fires sound
      refine ⟨job, terminal, fun unborn => ?_, fun job' found' => ?_⟩
      · cases (get_of_unborn sound'.fresh unborn).symm.trans found
      · cases found.symm.trans found'
        exact ⟨rfl, rfl, rfl, rfl, rfl, .inl rfl⟩
  | continued action continues =>
    cases after
    cases continues with
    | finishing id =>
      have earlier := onward (concludes k _ before)
      rwa [Concludes, id]
  | returned => cases after
  | lost => cases after

/-! ### All handlers -/

/-- Identifiers are fresh, rows are sound, and handlers that remove files of a job
know it to be finished. -/
structure Gateway.Settles (platform : Platform) (config : Config) (state : Gateway) : Prop where
  sound : state.Sound platform
  dooms : ∀ k task, state.tasks.lookup k = some (.cleanup task) → Dooms platform config state task
  concludes : ∀ k task, state.tasks.lookup k = some (.finishing task) →
    Concludes platform state task

theorem settles_step (fires : (gateway platform prepare config).Fires t)
    (settles : t.pre.Settles platform config) : t.post.Settles platform config where
  sound := sound_step fires settles.sound
  dooms _ _ := dooms_step fires settles.sound settles.dooms
  concludes _ _ := concludes_step fires settles.sound settles.concludes

theorem settles_initial : (gateway platform prepare config).initial.Settles platform config where
  sound := sound_of_run .nil
  dooms := by rintro _ _ ⟨⟩
  concludes := by rintro _ _ ⟨⟩

theorem settles_of_run {trace : List GatewayTransition} {final : Gateway}
    (run : (gateway platform prepare config).Run (gateway platform prepare config).initial
      trace final) : final.Settles platform config :=
  run.invariant settles_initial fun _ => settles_step

end InferenceGateway
