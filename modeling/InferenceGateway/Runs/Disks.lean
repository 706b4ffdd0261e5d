import InferenceGateway.Runs.Freshness

/-!
# What one step does to the disk

Only suspended handlers touch files.  `diskChange` lists what they do, with the
handler that did it.
-/

namespace InferenceGateway

open Library

variable {platform : Platform} {prepare : Prepare} {config : Config} {t : GatewayTransition}

/-! ### Uploads -/

/-- The handler an upload leaves behind. -/
def UploadResult.task : UploadResult → Option Task
  | .suspended upload => some (.upload upload)
  | _ => none

/-! ### The disk -/

/-- What handlers other than uploads do to the disk. -/
inductive Aside (t : GatewayTransition) : Prop where
  | untouched (same : t.post.disk = t.pre.disk)
  | inputs (id : String)
      (within : FileSystem.Within (· = (.inputs, id)) t.pre.disk t.post.disk)
  | expires {token : Nat} {task : CleanupTask} {id : String} {rest : List String}
      (action : t.action = .advance token .proceed)
      (running : t.pre.tasks.lookup token = some (.cleanup task))
      (stage : task.stage = .expiring id rest) (after : t.post.disk = t.pre.disk.removeJob id)
  | sweeps {token : Nat} {task : CleanupTask} {root : Root} {entry : String}
      {rest : List String} {later : List Root} (action : t.action = .advance token .proceed)
      (running : t.pre.tasks.lookup token = some (.cleanup task))
      (stage : task.stage = .removing root entry rest later)
      (after : t.post.disk = t.pre.disk.removeJob entry)

/-- What a step does to the disk and to the running uploads. -/
inductive DiskChange (platform : Platform) (config : Config) (t : GatewayTransition) : Prop where
  | uploads {token : Nat} {event : Event} {upload : Upload} {result : UploadResult}
      (action : t.action = .advance token event)
      (running : t.pre.tasks.lookup token = some (.upload upload))
      (step : UploadStep platform config.maxArtifactBytes t.pre.now upload t.pre.disk
        t.post.disk event result)
      (tasks : ∀ k, t.post.tasks.lookup k =
        if k = token then result.task else t.pre.tasks.lookup k)
  | aside (change : Aside t)
      (uploads : ∀ k upload, t.post.tasks.lookup k = some (.upload upload) →
        t.pre.tasks.lookup k = some (.upload upload) ∨ Spawned platform config t (.upload upload))

/-- A removal links nothing. -/
theorem link_of_removeJob {disk : Disk} {id : String} {d : Root × String} {n : String} {i : Nat}
    (linked : (disk.removeJob id).link d n = some i) : disk.link d n = some i := by
  rw [Disk.removeJob, FileSystem.link_removeTree] at linked
  split at linked
  · cases linked
  · rw [FileSystem.link_removeTree] at linked
    split at linked
    · cases linked
    · exact linked

/-- A removal leaves the files of other jobs alone. -/
theorem read_removeJob (disk : Disk) {id other : String} (different : id ≠ other) (root : Root)
    (name : String) : (disk.removeJob other).read (root, id) name = disk.read (root, id) name := by
  rw [Disk.removeJob,
    FileSystem.read_removeTree_of_ne fun same => different (congrArg Prod.snd same),
    FileSystem.read_removeTree_of_ne fun same => different (congrArg Prod.snd same)]

section Aside

open Cleanup

theorem disk_nextRoot (now : Millis) (result : CleanupResult) (stores : Stores)
    (later : List Root) : (nextRoot config now result stores later).2.disk = stores.disk := by
  cases later <;> rfl

theorem disk_visit (now : Millis) (result : CleanupResult) (root : Root) (later : List Root)
    (stores : Stores) (entries : List String) :
    (visit config now result root later stores entries).2.disk = stores.disk := by
  induction entries with
  | nil => exact disk_nextRoot ..
  | cons entry rest inductionHypothesis =>
    unfold visit
    split
    · exact inductionHypothesis
    · rfl

theorem disk_expireNext (now : Millis) (result : CleanupResult) (stores : Stores)
    (ids : List String) : (expireNext config now result stores ids).2.disk = stores.disk := by
  cases ids with
  | nil => exact disk_nextRoot ..
  | cons id rest => rfl

/-- A cleanup removes the directories of one job at a time. -/
theorem disk_cleanup (config : Config) (task : CleanupTask) (stores : Stores) :
    (task.advance config stores).2.disk = stores.disk ∨
      ∃ id, (task.advance config stores).2.disk = stores.disk.removeJob id ∧
        ((∃ rest, task.stage = .expiring id rest) ∨
          ∃ root rest later, task.stage = .removing root id rest later) := by
  unfold CleanupTask.advance
  split
  · next id rest stage => exact .inr ⟨id, rfl, .inl ⟨rest, stage⟩⟩
  · exact .inl (disk_expireNext ..)
  · exact .inl rfl
  · exact .inl (disk_visit ..)
  · exact .inl rfl
  · next root entry rest later stage => exact .inr ⟨entry, rfl, .inr ⟨root, rest, later, stage⟩⟩

theorem aside_cleanup {token : Nat} {task : CleanupTask}
    (action : t.action = .advance token .proceed)
    (running : t.pre.tasks.lookup token = some (.cleanup task))
    (after : t.post.disk = (task.advance config t.pre.toStores).2.disk) : Aside t := by
  rcases disk_cleanup config task t.pre.toStores with
    same | ⟨id, removed, ⟨rest, stage⟩ | ⟨root, rest, later, stage⟩⟩
  · exact .untouched (after.trans same)
  · exact .expires action running stage (after.trans removed)
  · exact .sweeps action running stage (after.trans removed)

theorem within_writeInput {disk disk' : Disk} {path : DiskPath} {bytes : Bytes} {now : Millis}
    (written : Disk.writeInput disk path bytes now = some disk') :
    FileSystem.Within (· = (path.root, path.job)) disk disk' := by
  obtain ⟨⟨inode, opened⟩, truncated, rfl⟩ := Option.map_eq_some_iff.mp written
  have linked : opened.link (path.root, path.job) path.name = some inode := by
    rw [(FileSystem.openTruncate_spec truncated).1, if_pos ⟨rfl, rfl⟩]
  exact (FileSystem.within_openTruncate truncated).trans
    (FileSystem.within_write (p := (· = (path.root, path.job))) linked rfl 0 0 bytes)

theorem within_mkdir (disk : Disk) (p : Root × String → Prop) (d : Root × String)
    (now : Millis) : FileSystem.Within p disk (disk.mkdir d now) := by
  refine .of_shrink (fun d' n _ => ?_) (fun d' n i linked => ?_) ?_ ?_
  · rw [FileSystem.link_mkdir]
  · rw [FileSystem.link_mkdir] at linked
    exact linked
  · exact FileSystem.content_mkdir d now
  · exact FileSystem.inodes_mkdir d now

end Aside

/-- The uploads that run after a step that is no turn of an upload. -/
theorem uploads_of_idle (fires : (gateway platform prepare config).Fires t)
    (idle : ∀ token event upload, t.action = .advance token event →
      t.pre.tasks.lookup token ≠ some (.upload upload)) {k : Nat} {upload : Upload}
    (running : t.post.tasks.lookup k = some (.upload upload)) :
    t.pre.tasks.lookup k = some (.upload upload) ∨
      Spawned platform config t (.upload upload) := by
  have change := taskChange fires k
  rw [running] at change
  generalize before : t.pre.tasks.lookup k = earlier at change
  generalize after : some (Task.upload upload) = later at change
  cases change with
  | same =>
    subst after
    exact .inl rfl
  | spawned fresh counted spawned =>
    cases after
    exact .inr spawned
  | continued action continues =>
    cases after
    cases continues with
    | upload => exact absurd before (idle _ _ _ action)
  | returned => cases after
  | lost => cases after

/-- A result leaves every file alone until its handler runs on. -/
theorem disk_result (fires : (gateway platform prepare config).Fires t) {request : ResultRequest}
    (action : t.action = .result request) : t.post.disk = t.pre.disk := by
  obtain ⟨pre, _, reply, post⟩ := t
  obtain rfl := action
  have effect : Effect platform config pre (.result request) reply post := effect fires
  cases effect with
  | refused | superseded | accepted | retried => rfl

/-- A turn of a running upload is one of the listed ones. -/
theorem uploadStep_of_fires (fires : (gateway platform prepare config).Fires t) {token : Nat}
    {event : Event} {upload : Upload} (action : t.action = .advance token event)
    (running : t.pre.tasks.lookup token = some (.upload upload)) :
    ∃ result, UploadStep platform config.maxArtifactBytes t.pre.now upload t.pre.disk t.post.disk
      event result := by
  obtain ⟨pre, _, reply, post⟩ := t
  obtain rfl := action
  have effect : Effect platform config pre (.advance token event) reply post := effect fires
  cases effect with
  | making other | writing other | uncreated other | created other | removed other
  | finished other | cleaning other | cleaned other => cases running.symm.trans other
  | streaming same advanced | dropped same advanced | stored same advanced =>
    cases running.symm.trans same
    exact ⟨_, uploadStep advanced⟩

/-- Nothing else ever happens to the disk and to uploads. -/
theorem diskChange (fires : (gateway platform prepare config).Fires t)
    (fresh : Fresh platform t.pre) : DiskChange platform config t := by
  have aside (change : Aside t) (idle : ∀ token event upload, t.action = .advance token event →
      t.pre.tasks.lookup token ≠ some (.upload upload)) : DiskChange platform config t :=
    .aside change fun _ _ => uploads_of_idle fires idle
  have beside {token : Nat} {event : Event} {task : Task} (action : t.action = .advance token event)
      (running : t.pre.tasks.lookup token = some task) (other : ∀ upload, task ≠ .upload upload)
      (change : Aside t) : DiskChange platform config t := by
    refine aside change fun token' event' upload action' running' => ?_
    cases action.symm.trans action'
    exact other upload (Option.some.inj (running.symm.trans running'))
  obtain ⟨pre, action, reply, post⟩ := t
  have effect : Effect platform config pre action reply post := effect fires
  cases effect with
  | ticked | unadmitted | creating | deleted | unnamed | threw | timedOut | woken | released
  | unaccepted | uploading | refused | superseded | accepted | retried | requeued | swept
  | sweeping | drained | shutdown | restarted => exact aside (.untouched rfl) (by rintro _ _ _ ⟨⟩)
  | parked _ renewed | answered _ renewed =>
    subst renewed
    exact aside (.untouched rfl) (by rintro _ _ _ ⟨⟩)
  | @making _ creation running =>
    exact beside rfl running nofun (.inputs creation.job.id (within_mkdir pre.disk _ _ _))
  | @writing _ creation disk running _ written =>
    obtain ⟨-, -, input⟩ := fresh.creation_known _ _ running
    have within := within_writeInput written
    rw [input] at within
    exact beside rfl running nofun (.inputs creation.job.inputPath.job within)
  | uncreated running | created running | finished running =>
    exact beside rfl running nofun (.untouched rfl)
  | @removed _ task running =>
    exact beside rfl running nofun (.inputs task.id (FileSystem.within_removeTree _))
  | streaming running advanced =>
    exact .uploads rfl running (uploadStep advanced) (lookup_insert pre.tasks _ _)
  | dropped running advanced | stored running advanced =>
    exact .uploads rfl running (uploadStep advanced) (lookup_erase pre.tasks _)
  | cleaning running advanced | cleaned running advanced =>
    exact beside rfl running nofun (aside_cleanup rfl running (by rw [advanced]; rfl))

end InferenceGateway
