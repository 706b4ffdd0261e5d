import InferenceGateway.Runs.Freshness

/-!
# Consistent rows

The joint invariant over the columns of a row, and what a client sees of a row
that satisfies it.
-/

namespace InferenceGateway

open Library Relation

/-- The columns of a row agree with its state. -/
structure Job.Consistent (job : Job) : Prop where
  queued : job.state = .queued →
    job.leaseId = none ∧ job.leaseExpiresAt = none ∧ job.podId = none ∧
      job.upstreamId = none ∧ job.finishedAt = none ∧ job.progress = 0
  inProgress : job.state = .inProgress →
    (∃ lease, job.leaseId = some lease ∧ lease ≠ "") ∧ job.leaseExpiresAt.isSome ∧
      job.podId.isSome ∧ job.startedAt.isSome ∧ 1 ≤ job.attempts ∧ job.finishedAt = none
  terminal : job.state.isTerminal = true →
    job.finishedAt.isSome ∧ job.leaseId = none ∧ job.leaseExpiresAt = none
  error : job.error.isSome ↔ job.state = .failed
  errorText : job.error ≠ some ""
  progress : 0 ≤ job.progress ∧ job.progress ≤ 1
  completed : job.state = .completed → job.progress = 1
  finished : ∀ finishedAt, job.finishedAt = some finishedAt → job.createdAt ≤ finishedAt

variable {platform : Platform} {prepare : Prepare} {config : Config} {t : GatewayTransition}

theorem append_ne_empty {first second : String} (nonempty : second ≠ "") :
    first ++ second ≠ "" := fun empty => nonempty (String.append_eq_empty_iff.mp empty).2

theorem podLost_ne_empty (attempts : Nat) : podLost attempts ≠ "" :=
  append_ne_empty (by decide)

theorem deadlineDetail_ne_empty (job : Job) (now : Millis) : deadlineDetail job now ≠ "" :=
  append_ne_empty (by decide)

theorem reportedProgress_le {value : Value} {p : ℚ} (reported : reportedProgress value = some p) :
    0 ≤ p ∧ p ≤ 1 := by
  unfold reportedProgress at reported
  split at reported
  · split at reported
    · next within => exact Option.some.inj reported ▸ within
    · cases reported
  · cases reported

theorem Job.Consistent.row (job : NewJob) : job.row.Consistent := by
  constructor <;> simp [NewJob.row, isTerminal_iff]

theorem holds_iff {job : Job} {lease : String} :
    job.holds lease = true ↔ job.state = .inProgress ∧ job.leaseId = some lease := by
  simp [Job.holds]

/-- Only a job in flight has a lease. -/
theorem Job.Consistent.holds {job : Job} {lease : String} (consistent : job.Consistent)
    (held : job.leaseId = some lease) : job.holds lease = true := by
  refine holds_iff.mpr ⟨?_, held⟩
  cases state : job.state with
  | inProgress => rfl
  | queued => cases (consistent.queued state).1.symm.trans held
  | completed | failed | cancelled =>
    cases (consistent.terminal (by rw [state]; rfl)).2.1.symm.trans held

/-! ### One lemma for each statement -/

section Statements

variable {job : Job} (consistent : job.Consistent)

include consistent

theorem Job.Consistent.error_eq_none (unfailed : job.state ≠ .failed) : job.error = none :=
  Option.not_isSome_iff_eq_none.mp fun failed => unfailed (consistent.error.mp failed)

omit consistent in
/-- A row that ends gives its lease up. -/
theorem Job.Consistent.ended {now : Millis} (terminal : job.state.isTerminal = true)
    (finished : job.finishedAt = some now) (created : job.createdAt ≤ now)
    (unleased : job.leaseId = none ∧ job.leaseExpiresAt = none)
    (error : job.error.isSome ↔ job.state = .failed) (text : job.error ≠ some "")
    (progress : 0 ≤ job.progress ∧ job.progress ≤ 1)
    (completed : job.state = .completed → job.progress = 1) : job.Consistent where
  queued state := by
    rw [state] at terminal
    cases terminal
  inProgress state := by
    rw [state] at terminal
    cases terminal
  terminal _ := ⟨by rw [finished]; rfl, unleased⟩
  error := error
  errorText := text
  progress := progress
  completed := completed
  finished finishedAt same := by
    cases finished.symm.trans same
    exact created

theorem Job.Consistent.fail (leaseId : Option String) {error : String} {now : Millis}
    (explained : error ≠ "") (created : job.createdAt ≤ now) :
    ((Update.fail leaseId error now).assign job).Consistent := by
  refine .ended rfl rfl created ⟨rfl, rfl⟩ (iff_of_true rfl rfl) ?_ consistent.progress nofun
  exact fun same => explained (Option.some.inj same)

omit consistent in
theorem Job.Consistent.complete (lease : String) (artifacts : List Artifact) {now : Millis}
    (created : job.createdAt ≤ now) :
    ((Update.complete lease artifacts now).assign job).Consistent := by
  refine .ended rfl rfl created ⟨rfl, rfl⟩ ⟨nofun, nofun⟩ nofun ?_ fun _ => rfl
  exact ⟨zero_le_one, le_rfl⟩

theorem Job.Consistent.markCancelled (leaseId : Option String) (detail : String) {now : Millis}
    (running : job.state = .inProgress) (created : job.createdAt ≤ now) :
    ((Update.markCancelled leaseId now detail).assign job).Consistent := by
  have unfailed : job.error = none := consistent.error_eq_none (by rw [running]; decide)
  refine .ended rfl rfl created ⟨rfl, rfl⟩ ?_ consistent.errorText consistent.progress nofun
  simp [Update.assign, unfailed]

theorem Job.Consistent.cancelQueued {now : Millis} (waiting : job.state = .queued)
    (created : job.createdAt ≤ now) : ((Update.cancelQueued now).assign job).Consistent := by
  have unfailed : job.error = none := consistent.error_eq_none (by rw [waiting]; decide)
  obtain ⟨lease, expiry, -⟩ := consistent.queued waiting
  refine .ended rfl rfl created ⟨lease, expiry⟩ ?_ consistent.errorText consistent.progress nofun
  simp [Update.assign, unfailed]

theorem Job.Consistent.requeue (leaseId : Option String) (reason : String)
    (running : job.state = .inProgress) :
    ((Update.requeue leaseId reason).assign job).Consistent := by
  have unfailed : job.error = none := consistent.error_eq_none (by rw [running]; decide)
  obtain ⟨-, -, -, -, -, unfinished⟩ := consistent.inProgress running
  refine ⟨fun _ => ⟨rfl, rfl, rfl, rfl, unfinished, rfl⟩, nofun, nofun, ?_, consistent.errorText,
    ⟨le_rfl, zero_le_one⟩, nofun, consistent.finished⟩
  simp [Update.assign, unfailed]

theorem Job.Consistent.claim (podId : String) {lease : String} (expiresAt now : Millis)
    (named : lease ≠ "") (waiting : job.state = .queued) :
    ((Update.claim podId lease expiresAt now).assign job).Consistent := by
  have unfailed : job.error = none := consistent.error_eq_none (by rw [waiting]; decide)
  obtain ⟨-, -, -, -, unfinished, -⟩ := consistent.queued waiting
  have started : (job.startedAt <|> some now).isSome := by
    cases job.startedAt <;> rfl
  refine ⟨nofun, fun _ => ?_, nofun, ?_, consistent.errorText, consistent.progress, nofun,
    consistent.finished⟩
  · exact ⟨⟨lease, rfl, named⟩, rfl, rfl, started, Nat.le_add_left 1 _, unfinished⟩
  · simp [Update.assign, unfailed]

theorem Job.Consistent.withLeaseUntil (expiresAt : Millis) (running : job.state = .inProgress) :
    (job.withLeaseUntil expiresAt).Consistent := by
  obtain ⟨lease, -, rest⟩ := consistent.inProgress running
  have state : (job.withLeaseUntil expiresAt).state = .inProgress := running
  refine ⟨fun other => ?_, fun _ => ⟨lease, rfl, rest⟩, fun other => ?_, consistent.error,
    consistent.errorText, consistent.progress, consistent.completed, consistent.finished⟩
  · cases state.symm.trans other
  · rw [state] at other
    cases other

theorem Job.Consistent.renewLease (lease : String) (expiresAt : Millis) {progress : Option ℚ}
    (upstreamId : Option String) (running : job.state = .inProgress)
    (within : ∀ p, progress = some p → 0 ≤ p ∧ p ≤ 1) :
    ((Update.renewLease lease expiresAt progress upstreamId).assign job).Consistent := by
  have kept := consistent.withLeaseUntil expiresAt running
  refine ⟨fun other => ?_, kept.inProgress, kept.terminal, kept.error, kept.errorText, ?_,
    fun other => ?_, kept.finished⟩
  · cases running.symm.trans other
  · cases reported : progress with
    | none => exact consistent.progress
    | some p => exact within p reported
  · cases running.symm.trans other

end Statements

/-- Every update keeps a row consistent. -/
theorem consistent_touch {job job' : Job} (touch : Touch platform config t job job')
    (consistent : job.Consistent) (created : job.createdAt ≤ t.pre.now) : job'.Consistent := by
  cases touch with
  | renewed action listed names under holds =>
    exact consistent.renewLease _ _ _ (holds_iff.mp holds).1 fun _ => reportedProgress_le
  | claimed claims place waiting =>
    exact consistent.claim _ _ _ (platform.newLeaseId_ne_empty _) waiting
  | completed => exact .complete _ _ created
  | acknowledged reports =>
    exact consistent.markCancelled _ _ (holds_iff.mp reports.holds).1 created
  | retried reports => exact consistent.requeue _ _ (holds_iff.mp reports.holds).1
  | failed reports explained => exact consistent.fail _ explained created
  | lost => exact consistent.fail _ (podLost_ne_empty _) created
  | expired action expired => exact consistent.requeue _ _ (state_of_leaseExpired expired)
  | overdue => exact consistent.fail _ (deadlineDetail_ne_empty _ _) created
  | forced action stale =>
    exact consistent.markCancelled _ _ (state_of_cancelStale stale) created
  | cancelled action waiting => exact consistent.cancelQueued waiting created
  | flagged | cleared | mediaExpired =>
    obtain ⟨queued, inProgress, terminal, error, errorText, progress, completed, finished⟩ :=
      consistent
    constructor <;> assumption
  | recovered action running => exact consistent.withLeaseUntil _ running

/-- The columns no update ever sets. -/
theorem fixed_touch {job job' : Job} (touch : Touch platform config t job job') :
    job'.id = job.id ∧ job'.createdAt = job.createdAt ∧ job'.model = job.model := by
  cases touch <;> exact ⟨rfl, rfl, rfl⟩

theorem fixed_touches {job job' : Job} (touches : ReflTransGen (Touch platform config t) job job') :
    job'.id = job.id ∧ job'.createdAt = job.createdAt ∧ job'.model = job.model := by
  induction touches with
  | refl => exact ⟨rfl, rfl, rfl⟩
  | tail _ touch inductionHypothesis =>
    obtain ⟨id, createdAt, model⟩ := fixed_touch touch
    exact ⟨id.trans inductionHypothesis.1, createdAt.trans inductionHypothesis.2.1,
      model.trans inductionHypothesis.2.2⟩

theorem consistent_touches {job job' : Job}
    (touches : ReflTransGen (Touch platform config t) job job') (consistent : job.Consistent)
    (created : job.createdAt ≤ t.pre.now) : job'.Consistent := by
  induction touches with
  | refl => exact consistent
  | tail touches touch inductionHypothesis =>
    exact consistent_touch touch inductionHypothesis ((fixed_touches touches).2.1 ▸ created)

/-- What holds of every row in every reachable state. -/
structure Job.Sound (now : Millis) (job : Job) : Prop where
  consistent : job.Consistent
  created : job.createdAt ≤ now
  registered : job.model ∈ modelNames

/-- Identifiers are fresh and rows are sound. -/
structure Gateway.Sound (platform : Platform) (state : Gateway) : Prop where
  fresh : Fresh platform state
  row : ∀ id job, state.store.get id = some job → job.Sound state.now

theorem sound_step (fires : (gateway platform prepare config).Fires t)
    (sound : t.pre.Sound platform) : t.post.Sound platform := by
  refine ⟨fresh_step fires sound.fresh, fun id job found => ?_⟩
  have later := now_le fires
  have change := rowChange fires id
  rw [found] at change
  cases before : t.pre.store.get id with
  | none =>
    rw [before] at change
    cases change with
    | created action running named returned =>
      obtain ⟨known, created, -⟩ := sound.fresh.creation_known _ _ running
      exact ⟨Job.Consistent.row _, created.trans later, known⟩
  | some job₀ =>
    rw [before] at change
    cases change with
    | touched touches =>
      obtain ⟨consistent, created, registered⟩ := sound.row id job₀ before
      obtain ⟨-, createdAt, model⟩ := fixed_touches touches
      exact ⟨consistent_touches touches consistent created, createdAt ▸ created.trans later,
        model ▸ registered⟩

theorem sound_of_run {trace : List GatewayTransition} {final : Gateway}
    (run : (gateway platform prepare config).Run (gateway platform prepare config).initial
      trace final) : final.Sound platform := by
  refine run.invariant ⟨fresh_initial, fun id job found => ?_⟩ fun _ => sound_step
  simp [gateway, Gateway.empty, JobStore.get] at found

/-! ### The client's view -/

/-- What a strict client relies on. -/
structure ClientView (job : Job) (response : VideoResponse) : Prop where
  progress : 0 ≤ response.progress ∧ response.progress ≤ 100
  completed : job.state = .completed → response.progress = 100
  queued : job.state = .queued → response.progress = 0
  error : response.error.isSome ↔ job.state = .failed
  completedAt : response.completedAt.isSome ↔ job.state.isTerminal = true
  afterCreation : ∀ completedAt, response.completedAt = some completedAt →
    response.createdAt ≤ completedAt
  expiresAt : response.expiresAt.isSome ↔ job.state = .completed
  queuePosition : response.queuePosition.isSome ↔ job.state = .queued

theorem finishedAt_isSome {job : Job} (consistent : job.Consistent) :
    job.finishedAt.isSome ↔ job.state.isTerminal = true := by
  constructor
  · intro finished
    cases state : job.state with
    | queued =>
      obtain ⟨-, -, -, -, unfinished, -⟩ := consistent.queued state
      simp [unfinished] at finished
    | inProgress =>
      obtain ⟨-, -, -, -, -, unfinished⟩ := consistent.inProgress state
      simp [unfinished] at finished
    | completed => rfl
    | failed => rfl
    | cancelled => rfl
  · exact fun terminal => (consistent.terminal terminal).1

/-- A client sees a consistent row as the contract describes it. -/
theorem clientView_of_consistent {job : Job} (consistent : job.Consistent) (state : Gateway) :
    ClientView job (state.respond config job) := by
  have finished := finishedAt_isSome consistent
  unfold Gateway.respond
  constructor
  · exact progress_toVideoResponse consistent.progress.1 consistent.progress.2 _ _
  · intro completed
    exact progress_toVideoResponse_eq 100 (by norm_num)
      (by rw [consistent.completed completed]; norm_num) _ _
  · intro queued
    obtain ⟨-, -, -, -, -, progress⟩ := consistent.queued queued
    exact progress_toVideoResponse_eq 0 (by norm_num) (by rw [progress]; norm_num) _ _
  · rw [← consistent.error]
    cases error : job.error with
    | none => simp [toVideoResponse, error]
    | some message =>
      have nonempty : message ≠ "" := fun empty => consistent.errorText (empty ▸ error)
      simp [toVideoResponse, error, nonempty]
  · rw [← finished]
    simp [toVideoResponse]
  · intro completedAt answered
    obtain ⟨finishedAt, found, rfl⟩ := Option.map_eq_some_iff.mp answered
    exact seconds_mono (consistent.finished finishedAt found)
  · by_cases completed : job.state = .completed
    · have present := finished.mpr (by rw [completed]; rfl)
      simp [toVideoResponse, completed, present]
    · simp [toVideoResponse, completed]
  · simp only [toVideoResponse, JobStore.queuePosition]
    by_cases queued : job.state = .queued <;> simp [queued]

/-- In every reachable state every row is consistent, and a client sees it so. -/
theorem rows_consistent (platform : Platform) (prepare : Prepare) (config : Config)
    (run : GatewayRun platform prepare config) (job : Job)
    (member : job ∈ run.final.store.jobs.rows) :
    job.Consistent ∧ ClientView job (run.final.respond config job) :=
  have consistent := ((sound_of_run run.run).row job.id job (JobStore.get_of_mem member)).consistent
  ⟨consistent, clientView_of_consistent consistent run.final⟩

theorem rows_consistent_sample :
    ∃ job ∈ (sampleRun .default sampleStart (by decide +kernel)).final.store.jobs.rows,
      job.Consistent ∧ ClientView job
        ((sampleRun .default sampleStart (by decide +kernel)).final.respond .default job) := by
  have created : 0 < (sampleRun .default sampleStart
      (by decide +kernel)).final.store.jobs.rows.length := by decide +kernel
  exact ⟨_, List.get_mem _ ⟨0, created⟩,
    rows_consistent .counting samplePrepare .default _ _ (List.get_mem _ ⟨0, created⟩)⟩

end InferenceGateway
