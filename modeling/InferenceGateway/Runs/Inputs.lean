import InferenceGateway.Runs.Disks
import InferenceGateway.Runs.Handlers
import InferenceGateway.Scheduler.SweepRule

/-!
# The inputs of finished jobs

A completed or failed result removes the input directory of its job and then
clears `input_path`.  Every other way to finish a job leaves both behind, and so
does a restart between the two.
-/

namespace InferenceGateway

open Library Relation

variable {platform : Platform} {prepare : Prepare} {config : Config} {t : GatewayTransition}

/-! ### What one step does to the input of a job -/

/-- What a step may do to the input directory of a job. -/
inductive InputChange (t : GatewayTransition) (id : String) : Prop where
  | untouched
      (reads : ∀ n, t.post.disk.read (.inputs, id) n = t.pre.disk.read (.inputs, id) n)
      (dirs : (.inputs, id) ∈ t.post.disk.dirs → (.inputs, id) ∈ t.pre.disk.dirs)
  | made {token : Nat} {creation : Creation} (action : t.action = .advance token .proceed)
      (running : t.pre.tasks.lookup token = some (.creation creation))
      (after : t.post.disk = t.pre.disk.mkdir (.inputs, creation.job.id) t.pre.now)
  | written {token : Nat} {creation : Creation} (action : t.action = .advance token .proceed)
      (running : t.pre.tasks.lookup token = some (.creation creation))
      (phase : creation.phase = .writing)
      (after : Disk.writeInput t.pre.disk creation.job.inputPath creation.image t.pre.now =
        some t.post.disk)
  | concluded {token : Nat} {task : Finishing} (action : t.action = .advance token .proceed)
      (running : t.pre.tasks.lookup token = some (.finishing task)) (named : task.id = id)
      (after : t.post.disk = t.pre.disk.removeInput id)
  | expired {token : Nat} {task : CleanupTask} {rest : List String}
      (action : t.action = .advance token .proceed)
      (running : t.pre.tasks.lookup token = some (.cleanup task))
      (stage : task.stage = .expiring id rest) (after : t.post.disk = t.pre.disk.removeJob id)
  | swept {token : Nat} {task : CleanupTask} {root : Root} {rest : List String}
      {later : List Root} (action : t.action = .advance token .proceed)
      (running : t.pre.tasks.lookup token = some (.cleanup task))
      (stage : task.stage = .removing root id rest later)
      (after : t.post.disk = t.pre.disk.removeJob id)
  | mismatched {token : Nat} {event : Event} {upload : Upload}
      (action : t.action = .advance token event)
      (running : t.pre.tasks.lookup token = some (.upload upload)) (named : upload.job = id)
      (phase : upload.phase = .removing) (after : t.post.disk = t.pre.disk.removeJob id)

theorem mem_dirs_removeJob (disk : Disk) (id : String) (d : Root × String) :
    d ∈ (disk.removeJob id).dirs ↔ d ≠ (.artifacts, id) ∧ d ≠ (.inputs, id) ∧ d ∈ disk.dirs := by
  rw [Disk.removeJob, FileSystem.mem_dirs_removeTree, FileSystem.mem_dirs_removeTree]

theorem mem_dirs_writeInput {disk disk' : Disk} {path : DiskPath} {bytes : Bytes} {now : Millis}
    (written : Disk.writeInput disk path bytes now = some disk') (d : Root × String) :
    d ∈ disk'.dirs ↔ d ∈ disk.dirs := by
  obtain ⟨⟨inode, opened⟩, truncated, rfl⟩ := Option.map_eq_some_iff.mp written
  exact FileSystem.mem_dirs_openTruncate truncated d

/-! ### Open part files -/

/-- The file is linked among the artifacts only. -/
structure Artifactual (disk : Disk) (inode : Nat) : Prop where
  allocated : inode < disk.inodes
  links : ∀ d n, disk.link d n = some inode → d.1 = .artifacts

namespace Artifactual

variable {disk disk' : Disk} {inode : Nat}

/-- Changes among the artifacts link no file elsewhere. -/
theorem inside {job : String} (artifactual : Artifactual disk inode)
    (within : FileSystem.Within (· = (.artifacts, job)) disk disk') : Artifactual disk' inode := by
  refine ⟨artifactual.allocated.trans_le within.inodes, fun d n linked => ?_⟩
  by_cases here : d = (.artifacts, job)
  · rw [here]
  · rw [within.links d n here] at linked
    exact artifactual.links d n linked

/-- Changes among the inputs link no file that was linked among the artifacts. -/
theorem outside {id : String} (artifactual : Artifactual disk inode)
    (within : FileSystem.Within (· = (.inputs, id)) disk disk') : Artifactual disk' inode := by
  refine ⟨artifactual.allocated.trans_le within.inodes, fun d n linked => ?_⟩
  rcases within.targets d n inode linked with same | fresh | ⟨d₀, n₀, rfl, earlier⟩
  · exact artifactual.links d n same
  · exact absurd artifactual.allocated (Nat.not_lt.mpr fresh)
  · cases artifactual.links _ n₀ earlier

theorem shrink (artifactual : Artifactual disk inode)
    (links : ∀ d n i, disk'.link d n = some i → disk.link d n = some i)
    (inodes : disk'.inodes = disk.inodes) : Artifactual disk' inode :=
  ⟨inodes ▸ artifactual.allocated, fun d n linked => artifactual.links d n (links d n _ linked)⟩

theorem removeJob (artifactual : Artifactual disk inode) (id : String) :
    Artifactual (disk.removeJob id) inode :=
  artifactual.shrink (fun _ _ _ => link_of_removeJob) rfl

end Artifactual

/-- Uploads write among the artifacts. -/
def Gateway.Streams (state : Gateway) : Prop :=
  ∀ k upload i, state.tasks.lookup k = some (.upload upload) → upload.phase = .streaming i →
    Artifactual state.disk i

theorem artifactual_uploadStep {maxBytes : Nat} {now : Millis} {upload : Upload}
    {disk disk' : Disk} {event : Event} {result : UploadResult} {inode : Nat}
    (step : UploadStep platform maxBytes now upload disk disk' event result)
    (artifactual : Artifactual disk inode) : Artifactual disk' inode := by
  cases step with
  | made phase after =>
    rw [after]
    refine artifactual.shrink (fun d n i linked => ?_) (FileSystem.inodes_mkdir ..)
    rwa [FileSystem.link_mkdir] at linked
  | opened phase after => exact artifactual.inside (FileSystem.within_openTruncate after)
  | wrote _ _ after | overflowed _ _ after =>
    exact after ▸ ⟨artifactual.allocated, artifactual.links⟩
  | unopened _ after | ended _ after | broke _ after | unrenamed _ after
  | mismatched _ _ after | stored _ _ after => exact after ▸ artifactual
  | failed phase after =>
    rw [after]
    refine artifactual.shrink (fun d n i linked => ?_) (FileSystem.inodes_unlink ..)
    rw [FileSystem.link_unlink] at linked
    split at linked
    · cases linked
    · exact linked
  | renamed phase after => exact artifactual.inside (FileSystem.within_rename after)
  | removed phase after => exact after ▸ artifactual.removeJob _

/-- An upload that streams has the part file it opened. -/
theorem artifactual_own {maxBytes : Nat} {now : Millis} {upload after : Upload}
    {disk disk' : Disk} {event : Event} {inode : Nat}
    (step : UploadStep platform maxBytes now upload disk disk' event (.suspended after))
    (before : ∀ i, upload.phase = .streaming i → Artifactual disk i)
    (phase : after.phase = .streaming inode) : Artifactual disk' inode := by
  cases step with
  | opened _ opened =>
    cases phase
    obtain ⟨links, -⟩ := FileSystem.openTruncate_spec opened
    have linked : disk'.link upload.dir (partName upload.filename) = some inode := by
      rw [links, if_pos ⟨rfl, rfl⟩]
    refine ⟨disk'.link_allocated _ _ _ linked, fun d n other => ?_⟩
    rw [(disk'.link_injective _ _ _ _ _ other linked).1]
    rfl
  | wrote bytes _ written => exact written ▸ ⟨(before _ phase).allocated, (before _ phase).links⟩
  | made | unopened | overflowed | ended | broke | renamed | mismatched => cases phase

theorem streams_step (fires : (gateway platform prepare config).Fires t)
    (fresh : Fresh platform t.pre) (streams : t.pre.Streams) : t.post.Streams := by
  intro k upload i running phase
  cases diskChange fires fresh with
  | uploads action earlier step tasks =>
    rw [tasks] at running
    split at running
    · next same =>
      unfold UploadResult.task at running
      split at running <;> cases running
      exact artifactual_own step (streams _ _ · earlier) phase
    · exact artifactual_uploadStep step (streams k upload i running phase)
  | aside change uploads =>
    rcases uploads k upload running with earlier | spawned
    · have before := streams k upload i earlier phase
      cases change with
      | untouched same => exact same ▸ before
      | inputs id within => exact before.outside within
      | expires _ _ _ after | sweeps _ _ _ after => exact after ▸ before.removeJob _
    · cases spawned with
      | upload => cases phase

/-- An upload leaves the inputs alone, unless it removes the directories of its job. -/
theorem inputs_uploadStep {maxBytes : Nat} {now : Millis} {upload : Upload} {disk disk' : Disk}
    {event : Event} {result : UploadResult}
    (step : UploadStep platform maxBytes now upload disk disk' event result)
    (before : ∀ i, upload.phase = .streaming i → Artifactual disk i) (id : String) :
    (∀ n, disk'.read (.inputs, id) n = disk.read (.inputs, id) n) ∧
        ((.inputs, id) ∈ disk'.dirs → (.inputs, id) ∈ disk.dirs) ∨
      upload.phase = .removing ∧ disk' = disk.removeJob upload.job := by
  have other : ((.inputs, id) : Root × String) ≠ upload.dir := fun same =>
    Root.noConfusion (congrArg Prod.fst same)
  cases step with
  | made phase after =>
    refine .inl ⟨fun n => by rw [after, FileSystem.read_mkdir], fun existing => ?_⟩
    rw [after, FileSystem.mem_dirs_mkdir] at existing
    exact existing.resolve_left other
  | opened phase after =>
    refine .inl ⟨fun n => ?_, (FileSystem.mem_dirs_openTruncate after _).mp⟩
    exact FileSystem.read_openTruncate_of_ne after fun same => other same.1
  | @wrote inode bytes phase after | @overflowed inode bytes phase after =>
    refine .inl ⟨fun n => ?_, fun existing => by rwa [after] at existing⟩
    rw [after, FileSystem.read_write_of_ne]
    intro linked
    cases (before inode phase).links _ n linked
  | unopened _ after | ended _ after | broke _ after | unrenamed _ after
  | mismatched _ _ after | stored _ _ after =>
    exact .inl ⟨fun n => by rw [after], fun existing => by rwa [after] at existing⟩
  | failed phase after =>
    refine .inl ⟨fun n => ?_, fun existing => ?_⟩
    · rw [after, FileSystem.read_unlink_of_ne fun same => other same.1]
    · rw [after, FileSystem.mem_dirs_unlink] at existing
      exact existing.resolve_left fun same => other same.1
  | renamed phase after =>
    refine .inl ⟨fun n => (FileSystem.within_rename after).read other n, fun existing => ?_⟩
    exact ((FileSystem.mem_dirs_rename after _).mp existing).resolve_left other
  | removed phase after => exact .inr ⟨phase, after⟩

/-- A step touches the input of a job only in the listed ways. -/
theorem inputChange (fires : (gateway platform prepare config).Fires t)
    (streams : t.pre.Streams) (id : String) : InputChange t id := by
  have same (disk : t.post.disk = t.pre.disk) : InputChange t id :=
    .untouched (fun n => by rw [disk]) fun existing => by rwa [disk] at existing
  have removes {other : String} (different : other ≠ id)
      (after : t.post.disk = t.pre.disk.removeJob other) : InputChange t id := by
    refine .untouched (fun n => ?_) fun existing => ?_
    · rw [after, read_removeJob _ (Ne.symm different)]
    · rw [after, mem_dirs_removeJob] at existing
      exact existing.2.2
  obtain ⟨pre, action, reply, post⟩ := t
  have effect : Effect platform config pre action reply post := effect fires
  cases effect with
  | ticked | unadmitted | creating | deleted | unnamed | threw | timedOut | woken | released
  | unaccepted | uploading | refused | superseded | accepted | retried | uncreated | created
  | finished | requeued | swept | sweeping | drained | shutdown | restarted => exact same rfl
  | parked _ renewed | answered _ renewed =>
    subst renewed
    exact same rfl
  | making running => exact .made rfl running rfl
  | writing running phase written => exact .written rfl running phase written
  | @streaming _ _ upload _ _ running advanced | @dropped _ _ upload _ _ _ running advanced
  | @stored _ _ upload _ running advanced =>
    rcases inputs_uploadStep (uploadStep advanced)
      (fun i phase => streams _ upload i running phase) id with ⟨reads, dirs⟩ | ⟨phase, after⟩
    · exact .untouched reads dirs
    · by_cases named : upload.job = id
      · exact .mismatched rfl running named phase (named ▸ after)
      · exact removes named after
  | @removed _ task running =>
    by_cases named : task.id = id
    · exact .concluded rfl running named (named ▸ rfl)
    · refine .untouched (fun n => ?_) fun existing => ?_
      · exact FileSystem.read_removeTree_of_ne
          (fun other => named (congrArg Prod.snd other).symm) n
      · exact ((FileSystem.mem_dirs_removeTree _ _).mp existing).2
  | @cleaning _ task _ stores running advanced | @cleaned _ task _ stores running advanced =>
    have after : stores.disk = (task.advance config pre.toStores).2.disk := by rw [advanced]
    rcases disk_cleanup config task pre.toStores with
      kept | ⟨entry, removed, ⟨rest, stage⟩ | ⟨root, rest, later, stage⟩⟩
    · exact same (after.trans kept)
    · by_cases named : entry = id
      · exact .expired rfl running (named ▸ stage) (named ▸ after.trans removed)
      · exact removes named (after.trans removed)
    · by_cases named : entry = id
      · exact .swept rfl running (named ▸ stage) (named ▸ after.trans removed)
      · exact removes named (after.trans removed)

/-! ### The inputs of finished jobs -/

theorem inputPath_touches {job job' : Job}
    (touches : ReflTransGen (Touch platform config t) job job') :
    job'.inputPath = job.inputPath ∨ job'.inputPath = none := by
  induction touches with
  | refl => exact .inl rfl
  | tail touches touch inductionHypothesis =>
    cases touch with
    | cleared => exact .inr rfl
    | renewed | claimed | completed | acknowledged | retried | failed | lost | expired | overdue
    | forced | cancelled | flagged | mediaExpired | recovered => exact inductionHypothesis

/-- A sweep finishes the job: the lease ran out at the last attempt, the deadline has
passed, or a cancel went unacknowledged for too long. -/
def Job.DueToEnd (config : Config) (now : Millis) (job : Job) : Prop :=
  job.leaseExpired now = true ∧ config.maxAttempts ≤ job.attempts ∨ job.isOverdue now = true ∨
    job.leaseExpired now = false ∧ job.cancelStale (now - config.cancelGraceMs) = true

theorem dueToEnd_of_sweepRule {now : Millis} {job : Job}
    (unfinished : job.state.isTerminal = false)
    (finished : (job.sweepRule config now).state.isTerminal = true) : job.DueToEnd config now := by
  unfold Job.sweepRule at finished
  split at finished
  · next exhausted => exact .inl exhausted
  · split at finished
    · next overdue => exact .inr (.inl overdue)
    · split at finished
      · cases finished
      · next unexpired =>
        split at finished
        · next stale => exact .inr (.inr ⟨Bool.eq_false_of_not_eq_true unexpired, stale⟩)
        · cases unfinished.symm.trans finished

/-- The step is about to finish the job by something other than a completed or failed
result, or loses the handler of the result that finished it. -/
inductive LeavesInput (config : Config) (t : GatewayTransition) (id : String) : Prop where
  | deleted {job : Job} (action : t.action = .deleteVideo id)
      (found : t.pre.store.get id = some job) (queued : job.state = .queued)
  | swept {job : Job} (action : t.action = .sweep) (found : t.pre.store.get id = some job)
      (due : job.DueToEnd config t.pre.now)
  | acknowledged {request : ResultRequest} {lease : String} (action : t.action = .result request)
      (named : request.id = id) (given : request.leaseId = some lease)
      (holds : Holds t.pre id lease) (reported : request.body.state = .string "cancelled")
  | interrupted {k : Nat} {task : Finishing} (action : t.action = .restart)
      (running : t.pre.tasks.lookup k = some (.finishing task)) (named : task.id = id)

/-- Neither the row nor the disk has the input. -/
def InputGone (state : Gateway) (id : String) (job : Job) : Prop :=
  job.inputPath = none ∧ (.inputs, id) ∉ state.disk.dirs

/-- The handler of a result is about to remove the input and to clear the row. -/
def InputGoing (state : Gateway) (id : String) : Prop :=
  ∃ k task, state.tasks.lookup k = some (.finishing task) ∧ task.id = id ∧ task.clears = true ∧
    (task.removed = true → (.inputs, id) ∉ state.disk.dirs)

/-- A job that has a row gets no new input directory. -/
theorem dirs_step (fires : (gateway platform prepare config).Fires t)
    (fresh : Fresh platform t.pre) (streams : t.pre.Streams) {id : String} {job : Job}
    (found : t.pre.store.get id = some job) (gone : (.inputs, id) ∉ t.pre.disk.dirs) :
    (.inputs, id) ∉ t.post.disk.dirs := by
  intro existing
  apply gone
  cases inputChange fires streams id with
  | untouched _ dirs => exact dirs existing
  | @made token creation _ running after =>
    rw [after, FileSystem.mem_dirs_mkdir] at existing
    rcases existing with same | earlier
    · have named : id = creation.job.id := congrArg Prod.snd same
      rw [named, fresh.creation_absent _ _ running] at found
      cases found
    · exact earlier
  | written _ _ _ after => exact (mem_dirs_writeInput after _).mp existing
  | concluded _ _ _ after =>
    rw [after] at existing
    exact ((FileSystem.mem_dirs_removeTree _ _).mp existing).2
  | expired _ _ _ after | swept _ _ _ after | mismatched _ _ _ _ after =>
    rw [after, mem_dirs_removeJob] at existing
    exact existing.2.2

/-- The handler of a result runs on until it has removed the input. -/
theorem going_step (fires : (gateway platform prepare config).Fires t)
    (fresh : Fresh platform t.pre) (streams : t.pre.Streams) {id : String} {job job' : Job}
    (before : t.pre.store.get id = some job) (after : t.post.store.get id = some job')
    (kept : ¬ LeavesInput config t id) (going : InputGoing t.pre id) :
    InputGone t.post id job' ∨ InputGoing t.post id := by
  obtain ⟨k, task, running, named, clears, gone⟩ := going
  have onward (still : t.post.tasks.lookup k = some (.finishing task)) : InputGoing t.post id :=
    ⟨k, task, still, named, clears, fun removed =>
      dirs_step fires fresh streams before (gone removed)⟩
  have change := taskChange fires k
  rw [running] at change
  generalize earlier : some (Task.finishing task) = first at change
  generalize later : t.post.tasks.lookup k = last at change
  cases change with
  | same => exact .inr (onward (later.trans earlier.symm))
  | spawned new => exact absurd (fresh.token_lt k _ running) (by omega)
  | lost action => exact absurd (.interrupted action running named) kept
  | continued action | returned action =>
    clear earlier later onward
    obtain ⟨pre, _, reply, post⟩ := t
    obtain rfl := action
    have effect : Effect platform config pre (.advance k _) reply post := effect fires
    dsimp only at running before after gone ⊢
    cases effect with
    | making other | writing other | uncreated other | created other | streaming other
    | dropped other | stored other | cleaning other | cleaned other =>
      cases running.symm.trans other
    | removed same =>
      cases running.symm.trans same
      refine .inr ⟨k, { task with removed := true }, AList.lookup_insert _, named, clears, ?_⟩
      intro _ existing
      exact ((FileSystem.mem_dirs_removeTree _ _).mp existing).1 (named ▸ rfl)
    | finished same removed =>
      cases running.symm.trans same
      refine .inl ⟨?_, gone removed⟩
      have rows : (pre.store.clearInput task.id).get id = some job' := by
        have after : (if task.clears then pre.store.clearInput task.id else pre.store).get id =
          some job' := after
        rwa [if_pos clears] at after
      rw [named, JobStore.clearInput, JobStore.get_execute_self _ before] at rows
      cases rows
      rfl

/-- Only a deletion cancels a queued job, and it queues none. -/
theorem deleted_of_touches (action : ∃ id, t.action = .deleteVideo id) {job job' : Job}
    (touches : ReflTransGen (Touch platform config t) job job') :
    (job'.state = .queued → job.state = .queued) ∧
      (job'.state.isTerminal = true → job.state.isTerminal = true ∨
        t.action = .deleteVideo job.id ∧ job.state = .queued) := by
  obtain ⟨other, action⟩ := action
  induction touches with
  | refl => exact ⟨id, .inl⟩
  | @tail mid last touches touch inductionHypothesis =>
    cases touch with
    | cancelled deleted queued =>
      rw [(fixed_touches touches).1] at deleted
      exact ⟨nofun, fun _ => .inr ⟨deleted, inductionHypothesis.1 queued⟩⟩
    | flagged => exact inductionHypothesis
    | claimed claims =>
      rcases action_of_claimTurn claims with ⟨_, _, polls⟩ | ⟨_, polls⟩ <;>
        cases action.symm.trans polls
    | completed reports | acknowledged reports | retried reports | failed reports =>
      obtain ⟨request, reported, -⟩ := reports.action
      cases action.symm.trans reported
    | renewed polls | lost polls | expired polls | overdue polls | forced polls | cleared polls
    | mediaExpired polls | recovered polls => cases action.symm.trans polls

/-- Jobs are finished by results, sweeps and deletions. -/
theorem ended_of_touches {job job' : Job}
    (touches : ReflTransGen (Touch platform config t) job job')
    (finished : job'.state.isTerminal = true) :
    job.state.isTerminal = true ∨ t.action = .sweep ∨ (∃ request, t.action = .result request) ∨
      ∃ id, t.action = .deleteVideo id := by
  induction touches with
  | refl => exact .inl finished
  | tail touches touch inductionHypothesis =>
    cases touch with
    | renewed _ _ _ _ holds => exact inductionHypothesis finished
    | claimed | retried | expired => cases finished
    | completed reports | acknowledged reports | failed reports =>
      obtain ⟨request, action, -⟩ := reports.action
      exact .inr (.inr (.inl ⟨request, action⟩))
    | lost action | overdue action | forced action => exact .inr (.inl action)
    | cancelled action => exact .inr (.inr (.inr ⟨_, action⟩))
    | flagged | cleared | mediaExpired | recovered => exact inductionHypothesis finished

/-- A result that finishes its job is about to remove the input, unless it reports a
cancellation. -/
theorem going_of_result (fires : (gateway platform prepare config).Fires t)
    (sound : t.pre.Sound platform) {id : String} {job job' : Job} {request : ResultRequest}
    (action : t.action = .result request) (before : t.pre.store.get id = some job)
    (unfinished : job.state.isTerminal = false) (after : t.post.store.get id = some job')
    (finished : job'.state.isTerminal = true) :
    LeavesInput config t id ∨ InputGoing t.post id := by
  have changed : t.post.store.get id ≠ t.pre.store.get id := by
    rw [after, before]
    intro same
    rw [Option.some.inj same] at finished
    cases unfinished.symm.trans finished
  obtain ⟨rfl, lease, given, holds, -⟩ := (row_result fires action id).resolve_left changed
  by_cases reported : request.body.state = .string "cancelled"
  · exact .inl (.acknowledged action rfl given holds reported)
  · obtain ⟨pre, _, reply, post⟩ := t
    obtain rfl := action
    have effect : Effect platform config pre (.result request) reply post := effect fires
    cases effect with
    | refused => exact absurd rfl changed
    | superseded names ending missed =>
      have current := (sound.row _ _ names.found).consistent.holds names.held
      have applies := applies_of_ending ending names.nonempty current
      rw [JobStore.execute_fst, names.found, Option.any_some, applies] at missed
      cases missed
    | accepted names ending clearing =>
      exact .inr ⟨pre.tokens, _, AList.lookup_insert _, rfl, clearing reported, nofun⟩
    | @retried _ _ lease reason _ _ names retries left =>
      have requeued : (pre.store.execute request.id (.requeue (some lease) reason)).2.get
          request.id = some job' := after
      rw [JobStore.get_execute_self _ before] at requeued
      obtain rfl := Option.some.inj requeued
      unfold Update.run at finished
      split at finished
      · cases finished
      · cases unfinished.symm.trans finished

/-- A step that finishes a job leaves its input behind, or is about to remove it. -/
theorem ended_step (fires : (gateway platform prepare config).Fires t)
    (sound : t.pre.Sound platform) {id : String} {job job' : Job}
    (before : t.pre.store.get id = some job) (unfinished : job.state.isTerminal = false)
    (after : t.post.store.get id = some job') (finished : job'.state.isTerminal = true) :
    LeavesInput config t id ∨ InputGoing t.post id := by
  have change := rowChange fires id
  rw [before, after] at change
  cases change with
  | touched touches =>
    rcases ended_of_touches touches finished with earlier | swept | ⟨request, action⟩ | deleted
    · cases unfinished.symm.trans earlier
    · refine .inl (.swept swept before ?_)
      obtain ⟨pre, _, reply, post⟩ := t
      obtain rfl := swept
      have effect : Effect platform config pre .sweep reply post := effect fires
      have row : some job' = some (job.sweepRule config pre.now) := by
        rw [← after]
        cases effect with
        | requeued | swept =>
          exact (get_sweep_rule config pre.store pre.pods pre.now id).trans
            (congrArg (Option.map _) before)
      rw [Option.some.inj row] at finished
      exact dueToEnd_of_sweepRule unfinished finished
    · exact going_of_result fires sound action before unfinished after finished
    · rcases (deleted_of_touches deleted touches).2 finished with earlier | ⟨action, queued⟩
      · cases unfinished.symm.trans earlier
      · rw [JobStore.id_of_get before] at action
        exact .inl (.deleted action before queued)

/-- The input of a finished job is gone, or its handler is about to remove it. -/
def Gateway.Clears (state : Gateway) (id : String) : Prop :=
  ∀ job, state.store.get id = some job → job.state.isTerminal = true →
    InputGone state id job ∨ InputGoing state id

theorem clears_step (fires : (gateway platform prepare config).Fires t)
    (sound : t.pre.Sound platform) (streams : t.pre.Streams) {id : String}
    (kept : ¬ LeavesInput config t id) (clears : t.pre.Clears id) : t.post.Clears id := by
  intro job' after finished
  have change := rowChange fires id
  rw [after] at change
  cases before : t.pre.store.get id with
  | none =>
    rw [before] at change
    cases change with
    | created => cases finished
  | some job =>
    rw [before] at change
    cases unfinished : job.state.isTerminal with
    | false => exact .inr ((ended_step fires sound before unfinished after finished).resolve_left kept)
    | true =>
      rcases clears job before unfinished with ⟨path, gone⟩ | going
      · cases change with
        | touched touches =>
          refine .inl ⟨?_, dirs_step fires sound.fresh streams before gone⟩
          rcases inputPath_touches touches with same | cleared
          · exact same.trans path
          · exact cleared
      · exact going_step fires sound.fresh streams before after kept going

/-- Whenever no handler is suspended, the input of a finished job is gone from its row
and from the disk, provided that no step so far left it behind. -/
theorem inputs_deleted (platform : Platform) (prepare : Prepare) (config : Config)
    (run : GatewayRun platform prepare config) (id : String)
    (kept : ∀ t ∈ run.trace, ¬ LeavesInput config t id) (idle : run.final.tasks.keys = []) (job : Job)
    (found : run.final.store.get id = some job) (finished : job.state.isTerminal = true) :
    job.inputPath = none ∧ (.inputs, id) ∉ run.final.disk.dirs := by
  have invariant : run.final.Sound platform ∧ run.final.Streams ∧ run.final.Clears id := by
    refine run.run.preserves (P := fun state => state.Sound platform ∧ state.Streams ∧
      state.Clears id) ⟨sound_of_run .nil, by rintro _ _ _ ⟨⟩, by rintro _ ⟨⟩⟩ ?_
    rintro t member fires ⟨sound, streams, clears⟩
    exact ⟨sound_step fires sound, streams_step fires sound.fresh streams,
      clears_step fires sound streams (kept t member) clears⟩
  rcases invariant.2.2 job found finished with gone | ⟨k, task, running, -⟩
  · exact gone
  · have suspended := AList.mem_keys.mp (AList.lookup_isSome.mp (Option.isSome_of_eq_some running))
    rw [idle] at suspended
    cases suspended

/-- A video waits in the queue; its pod has asked before and does not wait. -/
def sampleWaiting : List Action :=
  [.poll { samplePoll "pod-a" [] with waitS := .number 0 } "session",
    .createVideo sampleVideo, .advance 0 .proceed, .advance 0 .proceed, .advance 0 .proceed]

/-- The pod takes the job and reports that it failed. -/
def sampleFailure : List Action :=
  sampleWaiting ++ [.poll (samplePoll "pod-a" []) "session",
    .result {
      id := "v"
      leaseId := some "L"
      body := {
        state := .string "failed"
        error := .string "out of memory"
        retryable := .undefined
        filename := .undefined
        bytes := .undefined
        sha256 := .undefined } },
    .advance 1 .proceed, .advance 1 .proceed]

theorem inputs_deleted_sample :
    ∃ job, (sampleRun .default sampleFailure (by decide +kernel)).final.store.get "v" = some job ∧
      job.state.isTerminal = true ∧ job.inputPath = none ∧
      (.inputs, "v") ∉ (sampleRun .default sampleFailure (by decide +kernel)).final.disk.dirs := by
  have ended : ((sampleRun .default sampleFailure (by decide +kernel)).final.store.get "v").any
      (·.state.isTerminal) = true := by decide +kernel
  obtain ⟨job, found, finished⟩ := Option.any_eq_true _ _ |>.mp ended
  refine ⟨job, found, finished, ?_⟩
  refine inputs_deleted .counting samplePrepare .default _ "v" ?_ (by decide +kernel) job found
    finished
  have actions : (sampleRun .default sampleFailure (by decide +kernel)).trace.map
      Transition.action = sampleFailure := Machine.Execution.actions_perform _
  intro t member leaves
  have performed : t.action ∈ sampleFailure := actions ▸ List.mem_map_of_mem member
  cases leaves with
  | deleted action | swept action | interrupted action =>
    simp [action, sampleFailure, sampleWaiting] at performed
  | acknowledged action _ _ _ reported =>
    simp only [action, sampleFailure, sampleWaiting, List.mem_append, List.mem_cons,
      List.not_mem_nil, reduceCtorEq, Action.result.injEq, false_or, or_false] at performed
    subst performed
    exact absurd reported (by decide)

/-- The client deletes the queued job. -/
def sampleDeletion : GatewayRun .counting samplePrepare .default :=
  sampleRun .default (sampleWaiting ++ [.deleteVideo "v"]) (by decide +kernel)

/-- A queued job is deleted: no handler is suspended, no poll is parked, and the input of
the cancelled job is still on the disk and in its row. -/
theorem not_inputs_deleted :
    ¬ ∀ run : GatewayRun .counting samplePrepare .default, run.final.tasks.keys = [] →
      run.final.waiters.waiting = [] → run.final.waiters.settled = [] →
      ∀ id job, run.final.store.get id = some job → job.state.isTerminal = true →
        job.inputPath = none ∧ (.inputs, id) ∉ run.final.disk.dirs := by
  intro deleted
  have left : (sampleDeletion.final.store.get "v").any
      (fun job => job.state.isTerminal && job.inputPath.isSome) = true := by decide +kernel
  obtain ⟨job, found, facts⟩ := Option.any_eq_true _ _ |>.mp left
  rw [Bool.and_eq_true] at facts
  have gone := (deleted sampleDeletion (by decide +kernel) (by decide +kernel)
    (by decide +kernel) "v" job found facts.1).1
  rw [gone] at facts
  cases facts.2

end InferenceGateway
