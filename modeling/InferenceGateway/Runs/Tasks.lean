import InferenceGateway.Runs.RowSteps

/-!
# Suspended handlers within a step, and the identifiers they hold

`taskChange` says what a step may do to the handler under a token.  From it
follows that the ids of videos stay fresh: a row is created once, under an id
no row had before.
-/

namespace InferenceGateway

open Library

/-- The jobs whose media a cleanup is going to expire. -/
def CleanupTask.doomed (task : CleanupTask) : List String :=
  match task.stage with
  | .expiring id rest => id :: rest
  | .expired id rest => id :: rest
  | _ => []

/-- The same handler at a later suspension. -/
inductive Continues : Task → Task → Prop where
  | creation {before after : Creation} (job : after.job = before.job)
      (image : after.image = before.image) : Continues (.creation before) (.creation after)
  | upload {before after : Upload} (job : after.job = before.job)
      (leaseId : after.leaseId = before.leaseId) (filename : after.filename = before.filename)
      (expected : after.expected = before.expected) :
      Continues (.upload before) (.upload after)
  | finishing {before after : Finishing} (id : after.id = before.id)
      (outcome : after.state = before.state) :
      Continues (.finishing before) (.finishing after)
  | cleanup {before after : CleanupTask} (now : after.now = before.now)
      (doomed : after.doomed ⊆ before.doomed) : Continues (.cleanup before) (.cleanup after)

section Changes

variable (platform : Platform) (config : Config)

/-- The handlers a step may suspend for the first time. -/
inductive Spawned (t : GatewayTransition) : Task → Prop where
  | creation {request : VideoRequest} {job : NewJob} {image : Bytes}
      (action : t.action = .createVideo request) (id : job.id = platform.newVideoId t.pre.videos)
      (registered : job.model ∈ modelNames) (createdAt : job.createdAt = t.pre.now)
      (input : job.inputPath.root = .inputs)
      (minted : t.post.videos = t.pre.videos + 1) (placed : job.inputPath.job = job.id)
      (sent : ∃ form, request.form = .ok form ∧ form.image = some image) :
      Spawned t (.creation ⟨job, image, .making⟩)
  | upload {request : UploadRequest} {job : Job} (action : t.action = .upload request)
      (found : t.pre.store.get request.id = some job)
      (current : job.leaseIs request.leaseId = true)
      (safe : isSafeFilename (request.filename.getD "output.mp4") = true)
      {podId : Option String} :
      Spawned t (.upload ⟨job.id, podId, request.leaseId.getD "",
        request.filename.getD "output.mp4", request.expected, [], .making⟩)
  | finishing {request : ResultRequest} (outcome : VideoStatus) (clears : Bool)
      (action : t.action = .result request) :
      Spawned t (.finishing ⟨request.id, outcome, clears, false⟩)
  | cleanup {task : CleanupTask} (action : t.action = .cleanup) (now : task.now = t.pre.now)
      (doomed : task.doomed ⊆
        (t.pre.store.finishedBefore (t.pre.now - config.artifactTtlMs)).map Job.id) :
      Spawned t (.cleanup task)

/-- What a step may do to the handler under a token. -/
inductive TaskChange (t : GatewayTransition) (token : Nat) :
    Option Task → Option Task → Prop where
  | same {task : Option Task} : TaskChange t token task task
  | spawned {before : Option Task} {task : Task} (fresh : token = t.pre.tokens)
      (counted : t.post.tokens = t.pre.tokens + 1) (spawned : Spawned platform config t task) :
      TaskChange t token before (some task)
  | continued {event : Event} {before after : Task} (action : t.action = .advance token event)
      (continues : Continues before after) : TaskChange t token (some before) (some after)
  | returned {event : Event} {before : Task} (action : t.action = .advance token event) :
      TaskChange t token (some before) none
  | lost {before : Option Task} (action : t.action = .restart) : TaskChange t token before none

end Changes

variable {platform : Platform} {prepare : Prepare} {config : Config} {t : GatewayTransition}

theorem lookup_insert (tasks : AList fun _ : Nat => Task) (token : Nat) (task : Task) (k : Nat) :
    (tasks.insert token task).lookup k = if k = token then some task else tasks.lookup k := by
  split
  · next same =>
    subst same
    exact AList.lookup_insert _
  · next other => exact AList.lookup_insert_ne other

theorem lookup_erase (tasks : AList fun _ : Nat => Task) (token k : Nat) :
    (tasks.erase token).lookup k = if k = token then none else tasks.lookup k := by
  split
  · next same =>
    subst same
    exact AList.lookup_erase _ _
  · next other => exact AList.lookup_erase_ne other

section Cleanup

open Cleanup

theorem task_nextRoot {now : Millis} {result : CleanupResult} {stores : Stores}
    {later : List Root} {task : CleanupTask}
    (running : (nextRoot config now result stores later).1 = .inl task) :
    task.now = now ∧ task.doomed = [] := by
  cases later with
  | nil => cases running
  | cons root later =>
    cases running
    exact ⟨rfl, rfl⟩

theorem task_visit {now : Millis} {result : CleanupResult} {root : Root} {later : List Root}
    {stores : Stores} {entries : List String} {task : CleanupTask}
    (running : (visit config now result root later stores entries).1 = .inl task) :
    task.now = now ∧ task.doomed = [] := by
  induction entries with
  | nil => exact task_nextRoot running
  | cons entry rest inductionHypothesis =>
    unfold visit at running
    split at running
    · exact inductionHypothesis running
    · cases running
      exact ⟨rfl, rfl⟩

theorem task_expireNext {now : Millis} {result : CleanupResult} {stores : Stores}
    {ids : List String} {task : CleanupTask}
    (running : (expireNext config now result stores ids).1 = .inl task) :
    task.now = now ∧ task.doomed ⊆ ids := by
  cases ids with
  | nil =>
    obtain ⟨started, none_left⟩ := task_nextRoot running
    refine ⟨started, ?_⟩
    rw [none_left]
    exact List.nil_subset _
  | cons id rest =>
    cases running
    exact ⟨rfl, List.Subset.refl _⟩

/-- A cleanup keeps the time it started at, and expires no further jobs. -/
theorem continues_cleanup {task task' : CleanupTask} {stores : Stores}
    (running : (task.advance config stores).1 = .inl task') :
    Continues (.cleanup task) (.cleanup task') := by
  unfold CleanupTask.advance at running
  split at running
  · next id rest stage =>
    cases running
    exact .cleanup rfl (by simp [CleanupTask.doomed, stage])
  · next id rest stage =>
    obtain ⟨started, doomed⟩ := task_expireNext running
    refine .cleanup started fun other member => ?_
    simp only [CleanupTask.doomed, stage]
    exact List.mem_cons_of_mem id (doomed member)
  · cases running
    exact .cleanup rfl (List.nil_subset _)
  · obtain ⟨started, none_left⟩ := task_visit running
    exact .cleanup started (none_left ▸ List.nil_subset _)
  · next root entry rest later _ =>
    have nothing (young : Bool) : ({ task with
        stage := if young then .visiting root rest later
          else .removing root entry rest later } : CleanupTask).doomed = [] := by
      cases young <;> rfl
    cases running
    exact .cleanup rfl (nothing _ ▸ List.nil_subset _)
  · cases running
    exact .cleanup rfl (List.nil_subset _)

end Cleanup

/-- An upload keeps what the route was called with. -/
theorem continues_advance {upload : Upload} {maxBytes : Nat} {now : Millis} {event : Event}
    {disk disk' : Disk} {upload' : Upload}
    (advanced : upload.advance platform maxBytes now event disk =
      some (.suspended upload', disk')) :
    Continues (.upload upload) (.upload upload') := by
  unfold Upload.advance at advanced
  split at advanced
  · cases advanced
    exact .upload rfl rfl rfl rfl
  · split at advanced <;>
    · cases advanced
      exact .upload rfl rfl rfl rfl
  · dsimp only at advanced
    split at advanced <;>
    · cases advanced
      exact .upload rfl rfl rfl rfl
  · cases advanced
    exact .upload rfl rfl rfl rfl
  · cases advanced
    exact .upload rfl rfl rfl rfl
  · split at advanced <;> cases advanced
  · split at advanced
    · cases advanced
      exact .upload rfl rfl rfl rfl
    · cases advanced
  · split at advanced
    · cases advanced
      exact .upload rfl rfl rfl rfl
    · cases advanced
  · cases advanced
  · cases advanced

/-! ### The change of every step -/

section Steps

variable {k : Nat}

theorem taskChange_spawn {task : Task} (spawned : Spawned platform config t task)
    (after : t.post.tasks = t.pre.tasks.insert t.pre.tokens task)
    (counted : t.post.tokens = t.pre.tokens + 1) :
    TaskChange platform config t k (t.pre.tasks.lookup k) (t.post.tasks.lookup k) := by
  rw [after, lookup_insert]
  split
  · next fresh => exact .spawned fresh counted spawned
  · exact .same

/-- Suspending a handler again changes no other one. -/
theorem taskChange_suspend {token : Nat} {event : Event} {task task' : Task}
    (action : t.action = .advance token event)
    (running : t.pre.tasks.lookup token = some task)
    (after : t.post.tasks = t.pre.tasks.insert token task') (continues : Continues task task') :
    TaskChange platform config t k (t.pre.tasks.lookup k) (t.post.tasks.lookup k) := by
  rw [after, lookup_insert]
  split
  · next same =>
    subst same
    rw [running]
    exact .continued action continues
  · exact .same

theorem taskChange_finish {token : Nat} {event : Event} {task : Task}
    (action : t.action = .advance token event)
    (running : t.pre.tasks.lookup token = some task)
    (after : t.post.tasks = t.pre.tasks.erase token) :
    TaskChange platform config t k (t.pre.tasks.lookup k) (t.post.tasks.lookup k) := by
  rw [after, lookup_erase]
  split
  · next same =>
    subst same
    rw [running]
    exact .returned action
  · exact .same

end Steps

/-- Nothing else ever happens to a suspended handler. -/
theorem taskChange (fires : (gateway platform prepare config).Fires t) (k : Nat) :
    TaskChange platform config t k (t.pre.tasks.lookup k) (t.post.tasks.lookup k) := by
  obtain ⟨pre, action, reply, post⟩ := t
  have effect : Effect platform config pre action reply post := effect fires
  cases effect with
  | ticked | unadmitted | deleted | unnamed | threw | timedOut | woken | released | unaccepted
  | refused | superseded | retried | requeued | swept | drained | shutdown => exact .same
  | parked _ renewed | answered _ renewed =>
    subst renewed
    exact .same
  | creating registered sent =>
    exact taskChange_spawn (.creation rfl rfl registered rfl rfl rfl rfl sent) rfl rfl
  | uploading found current safe =>
    exact taskChange_spawn (.upload rfl found current safe) rfl rfl
  | accepted names => exact taskChange_spawn (.finishing _ _ rfl) rfl rfl
  | sweeping started =>
    obtain ⟨same, doomed⟩ := task_expireNext (congrArg Prod.fst started)
    exact taskChange_spawn (.cleanup rfl same doomed) rfl rfl
  | making running | writing running =>
    exact taskChange_suspend rfl running rfl (.creation rfl rfl)
  | streaming running advanced =>
    exact taskChange_suspend rfl running rfl (continues_advance advanced)
  | removed running => exact taskChange_suspend rfl running rfl (.finishing rfl rfl)
  | cleaning running advanced =>
    exact taskChange_suspend rfl running rfl (continues_cleanup (congrArg Prod.fst advanced))
  | uncreated running | created running | dropped running | stored running | finished running
  | cleaned running => exact taskChange_finish rfl running rfl
  | restarted => exact .lost rfl

end InferenceGateway
