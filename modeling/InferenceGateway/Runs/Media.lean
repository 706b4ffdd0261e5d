import InferenceGateway.Runs.Fencing
import InferenceGateway.Runs.PartFiles

/-!
# The media of completed jobs

An upload checks its lease once, before it streams; the rename into place and
the removal after a mismatch do not look at it again.  The media of a completed
job are safe in every run in which no handler touches them on behalf of a pod
that is no longer in charge.
-/

namespace InferenceGateway

open Library Relation

variable {platform : Platform} {prepare : Prepare} {config : Config} {t : GatewayTransition}
  {media : String → Bytes}

/-! ### Agents -/

/-- The upload a step answers with success. -/
def acceptedUpload (t : GatewayTransition) : Option Upload :=
  match t.reply with
  | .uploaded .. => turningUpload t
  | _ => none

/-- An upload of these bytes for the job was accepted under the lease. -/
def Accepted (trace : List GatewayTransition) (id lease : String) (bytes : Bytes) : Prop :=
  ∃ t ∈ trace, ∃ upload, acceptedUpload t = some upload ∧ upload.job = id ∧
    upload.leaseId = lease ∧ upload.received = bytes

/-- The pods follow the protocol, with one clip for each lease: an upload is
`output.mp4` with the digest of the clip, and a job is reported as completed, with
that digest, after an upload of it under the lease was accepted.  A body may be
damaged on its way, but not into one with the digest of the clip. -/
structure Honest (platform : Platform) (media : String → Bytes)
    (trace : List GatewayTransition) : Prop where
  uploads : ∀ t ∈ trace, ∀ request, t.action = .upload request →
    request.filename = some "output.mp4" ∧ ∀ lease, request.leaseId = some lease →
      request.expected = some (platform.sha256 (media lease))
  bodies : ∀ t ∈ trace, ∀ token upload, t.action = .advance token .finish →
    t.pre.tasks.lookup token = some (.upload upload) →
      platform.sha256 upload.received = platform.sha256 (media upload.leaseId) →
        upload.received = media upload.leaseId
  results : ∀ before t after, trace = before ++ t :: after →
    ∀ request lease, t.action = .result request →
      request.body.state = .string "completed" → request.leaseId = some lease →
        request.body.filename = .string "output.mp4" ∧
          request.body.sha256 = .string (platform.sha256 (media lease)) ∧
          ∃ bytes, Accepted before request.id lease bytes

theorem Honest.of_append {first second : List GatewayTransition}
    (honest : Honest platform media (first ++ second)) : Honest platform media first where
  uploads t member := honest.uploads t (List.mem_append_left second member)
  bodies t member := honest.bodies t (List.mem_append_left second member)
  results before t after split :=
    honest.results before t (after ++ second) (by rw [split, List.append_assoc, List.cons_append])

/-! ### Steps that touch the media of others -/

namespace Gateway

variable (state : Gateway)

/-- The upload still runs under the lease of its job. -/
def current (upload : Upload) : Bool :=
  (state.store.get upload.job).any fun job => job.leaseIs (some upload.leaseId)

/-- There are media in place. -/
def placed (job : String) : Bool := (state.disk.link (.artifacts, job) outputName).isSome

end Gateway

/-- The step moves a part file over media in place, for a pod that is no longer
in charge or although it does not have the digest it should have. -/
def replacesMedia (platform : Platform) (t : GatewayTransition) : Bool :=
  (turningUpload t).any fun upload => upload.phase = .renaming && t.pre.placed upload.job &&
    (!t.pre.current upload || upload.mismatches platform)

/-- The step removes media after a mismatch, for a pod that is no longer in charge
or although they are not the ones that did not match. -/
def removesMedia (t : GatewayTransition) : Bool :=
  (turningUpload t).any fun upload => upload.phase = .removing && t.pre.placed upload.job &&
    (!t.pre.current upload ||
      decide (t.pre.disk.read upload.dir outputName ≠ some upload.received))

/-- The step is a cleanup that removes the directories of an entry that has got a
row since it was looked up. -/
def sweepsMedia (t : GatewayTransition) : Bool :=
  match t.action with
  | .advance token _ =>
    match t.pre.tasks.lookup token with
    | some (.cleanup { stage := .removing _ entry _ _, .. }) => (t.pre.store.get entry).isSome
    | _ => false
  | _ => false

/-- The step lets a handler touch media it should leave alone. -/
def clobbers (platform : Platform) (t : GatewayTransition) : Bool :=
  sharesPart t || replacesMedia platform t || removesMedia t || sweepsMedia t

theorem clobbers_eq_false (calm : clobbers platform t = false) :
    sharesPart t = false ∧ replacesMedia platform t = false ∧ removesMedia t = false ∧
      sweepsMedia t = false := by
  simpa only [clobbers, Bool.or_eq_false_iff, and_assoc] using calm

/-! ### The media of completed jobs -/

/-- The step completes the job, which was in flight under the lease. -/
structure Completes (t : GatewayTransition) (id lease : String) : Prop where
  holds : Holds t.pre id lease
  completed : ∃ job, t.post.store.get id = some job ∧ job.state = .completed

/-- The job is completed, and its file has the bytes of an upload that was
accepted under the lease, with the digest on record. -/
def ServesMedia (platform : Platform) (trace : List GatewayTransition) (state : Gateway)
    (id lease : String) : Prop :=
  ∃ job artifact bytes, state.store.get id = some job ∧ job.state = .completed ∧
    job.artifacts.head? = some artifact ∧
    state.disk.read (.artifacts, id) artifact.filename = some bytes ∧
    Accepted trace id lease bytes ∧ artifact.sha256 = some (platform.sha256 bytes)

/-- Every completed job was completed under a lease, and its media are there until
they expire. -/
def MediaFenced (run : GatewayRun platform prepare config) : Prop :=
  (∀ id job, run.final.store.get id = some job → job.state = .completed →
    ∃ c ∈ run.trace, ∃ lease, Completes c id lease ∧ job.finishedAt = some c.pre.now) ∧
  ∀ c ∈ run.trace, ∀ id lease, Completes c id lease →
    run.final.now ≤ c.pre.now + config.artifactTtlMs →
      ServesMedia platform run.trace run.final id lease

/-! ### The media of one job within a step -/

theorem outputName_ne : outputName ≠ partName outputName := (partName_ne outputName).symm

/-- What a step does to the file in place. -/
inductive MediaChange (t : GatewayTransition) (id : String) : Prop where
  | same (read : t.post.disk.read (.artifacts, id) outputName =
      t.pre.disk.read (.artifacts, id) outputName)
  | replaced {token : Nat} {upload : Upload} (action : t.action = .advance token .proceed)
      (running : t.pre.tasks.lookup token = some (.upload upload)) (job : upload.job = id)
      (phase : upload.phase = .renaming)
      (read : t.post.disk.read (.artifacts, id) outputName = some upload.received)
  | removed {token : Nat} {upload : Upload} (action : t.action = .advance token .proceed)
      (running : t.pre.tasks.lookup token = some (.upload upload)) (job : upload.job = id)
      (phase : upload.phase = .removing)
  | expired {token : Nat} {task : CleanupTask} (action : t.action = .advance token .proceed)
      (running : t.pre.tasks.lookup token = some (.cleanup task)) (doomed : id ∈ task.doomed)
  | swept {token : Nat} {task : CleanupTask} {root : Root} {rest : List String}
      {later : List Root} (action : t.action = .advance token .proceed)
      (running : t.pre.tasks.lookup token = some (.cleanup task))
      (stage : task.stage = .removing root id rest later)

theorem mediaChange_aside (change : Aside t) (id : String) : MediaChange t id := by
  cases change with
  | untouched same => exact .same (by rw [same])
  | inputs other within => exact .same (within.read (d := (.artifacts, id)) nofun outputName)
  | @expires token task other rest action running stage after =>
    by_cases here : id = other
    · refine .expired action running ?_
      simp only [CleanupTask.doomed, stage, here, List.mem_cons_self]
    · exact .same (by rw [after, read_removeJob _ here])
  | @sweeps token task root entry rest later action running stage after =>
    by_cases here : id = entry
    · exact .swept action running (here ▸ stage)
    · exact .same (by rw [after, read_removeJob _ here])

theorem mediaChange (fires : (gateway platform prepare config).Fires t)
    (fresh : Fresh platform t.pre) (parts : PartFiles t.pre) (id : String) :
    MediaChange t id := by
  cases diskChange fires fresh with
  | aside change => exact mediaChange_aside change id
  | @uploads token event upload result action running step tasks =>
    have file := parts.file token upload running
    have filename := parts.filename token upload running
    have elsewhere : ¬ ((Root.artifacts, id) = upload.dir ∧
        outputName = partName upload.filename) := by
      rw [filename]
      exact fun same => outputName_ne same.2
    have untouched (same : t.post.disk = t.pre.disk) : MediaChange t id := .same (by rw [same])
    cases step with
    | made phase after => exact .same (by rw [after, FileSystem.read_mkdir])
    | opened phase after => exact .same (FileSystem.read_openTruncate_of_ne after elsewhere)
    | @wrote inode bytes phase after | @overflowed inode bytes phase after =>
      refine .same ?_
      rw [after]
      apply FileSystem.read_write_of_ne
      intro linked
      obtain ⟨-, -, only, -⟩ := file.streaming inode phase
      exact outputName_ne (only _ _ linked).2
    | failed phase after => exact .same (by rw [after, FileSystem.read_unlink_of_ne elsewhere])
    | renamed phase after =>
      rw [filename] at after
      by_cases job : upload.job = id
      · refine .replaced action running job phase ?_
        obtain ⟨inode, linked, read⟩ := FileSystem.read_rename after
        rw [← job]
        exact read.trans (congrArg some (file.moving phase inode linked))
      · exact .same ((FileSystem.within_rename after).read (d := (.artifacts, id))
          (fun same => job (congrArg Prod.snd same).symm) outputName)
    | removed phase after =>
      by_cases job : upload.job = id
      · exact .removed action running job phase
      · exact .same (by rw [after, read_removeJob _ (Ne.symm job)])
    | unopened _ after | ended _ after | broke _ after
    | unrenamed _ after | mismatched _ _ after | stored _ _ after => exact untouched after

end InferenceGateway
