import InferenceGateway.Routes.Content
import InferenceGateway.Runs.Disks

/-!
# Path containment

Whatever strings pods and clients send, uploads and downloads stay within the
directories of the job they were accepted for.
-/

namespace InferenceGateway

open Library Relation

variable {platform : Platform} {prepare : Prepare} {config : Config} {t : GatewayTransition}

/-! ### Identifiers -/

/-- `newVideoId`, over the hexadecimal digits of its random bytes. -/
def newVideoId (digits : List Char) : String := "video_" ++ String.ofList digits

def hexDigits : List Char :=
  ['0', '1', '2', '3', '4', '5', '6', '7', '8', '9', 'a', 'b', 'c', 'd', 'e', 'f']

/-- The ids of videos are those of `newVideoId`.  The ids of the model never repeat, so
the number of digits is left open. -/
def MintsVideoIds (platform : Platform) : Prop :=
  ∀ i, ∃ digits, (∀ c ∈ digits, c ∈ hexDigits) ∧ platform.newVideoId i = newVideoId digits

theorem segment_newVideoId {digits : List Char} (hexadecimal : ∀ c ∈ digits, c ∈ hexDigits) :
    Segment (newVideoId digits) := by
  have text : (newVideoId digits).toList = ['v', 'i', 'd', 'e', 'o', '_'] ++ digits := by
    rw [newVideoId, String.toList_append]
    exact congrArg ("video_".toList ++ ·) String.toList_ofList
  have other {short : String} (bound : short.toList.length < 6) : newVideoId digits ≠ short := by
    rintro rfl
    rw [text, List.length_append] at bound
    have front : ['v', 'i', 'd', 'e', 'o', '_'].length = 6 := rfl
    omega
  refine ⟨other (by decide), other (by decide), other (by decide), fun slash => ?_⟩
  rw [text] at slash
  rcases List.mem_append.mp slash with front | digit
  · exact absurd front (by decide)
  · exact absurd (hexadecimal _ digit) (by decide)

/-- Every row is under an id that is one segment. -/
theorem segment_of_row (minted : MintsVideoIds platform) {state : Gateway}
    (fresh : Fresh platform state) {id : String} {job : Job}
    (found : state.store.get id = some job) : Segment id := by
  obtain ⟨i, -, rfl⟩ := fresh.row_id id job found
  obtain ⟨digits, hexadecimal, same⟩ := minted i
  rw [same]
  exact segment_newVideoId hexadecimal

/-! ### Recorded filenames -/

/-- The filenames of a row are safe. -/
def Job.SafeNames (job : Job) : Prop :=
  ∀ artifact ∈ job.artifacts, isSafeFilename artifact.filename = true

theorem safe_of_artifact {body : ResultBody} {artifact : Artifact}
    (recorded : body.artifact = some artifact) : isSafeFilename artifact.filename = true := by
  unfold ResultBody.artifact at recorded
  dsimp only at recorded
  obtain ⟨filename, guarded, rfl⟩ := Option.map_eq_some_iff.mp recorded
  unfold safeFilename at guarded
  split at guarded
  · split at guarded
    · next safe =>
      obtain rfl := Option.some.inj guarded
      exact safe
    · cases guarded
  · cases guarded

theorem safeNames_touches {job job' : Job}
    (touches : ReflTransGen (Touch platform config t) job job') (safe : job.SafeNames) :
    job'.SafeNames := by
  induction touches with
  | refl => exact safe
  | tail touches touch inductionHypothesis =>
    cases touch with
    | completed reports records =>
      obtain ⟨request, -, -, recorded⟩ := records
      exact List.forall_mem_singleton.mpr (safe_of_artifact recorded)
    | mediaExpired => exact List.forall_mem_nil _
    | renewed | claimed | acknowledged | retried | failed | lost | expired | overdue | forced
    | cancelled | flagged | cleared | recovered => exact inductionHypothesis

def Gateway.SafeNames (state : Gateway) : Prop :=
  ∀ id job, state.store.get id = some job → job.SafeNames

theorem safeNames_step (fires : (gateway platform prepare config).Fires t)
    (safe : t.pre.SafeNames) : t.post.SafeNames := by
  intro id job found
  have change := rowChange fires id
  rw [found] at change
  generalize before : t.pre.store.get id = row at change
  cases change with
  | touched touches => exact safeNames_touches touches (safe id _ before)
  | created => exact List.forall_mem_nil _

/-! ### Accepted uploads -/

/-- The upload under a token was let in for a row there was, under a safe filename. -/
structure AcceptedUpload (history : List GatewayTransition) (token : Nat) (upload : Upload) :
    Prop where
  safe : isSafeFilename upload.filename = true
  accepted : ∃ u ∈ history, ∃ request job, u.action = .upload request ∧ u.pre.tokens = token ∧
    request.id = upload.job ∧ u.pre.store.get upload.job = some job

theorem acceptedUpload_step (fires : (gateway platform prepare config).Fires t)
    {history : List GatewayTransition}
    (earlier : ∀ token upload, t.pre.tasks.lookup token = some (.upload upload) →
      AcceptedUpload history token upload) {token : Nat} {upload : Upload}
    (running : t.post.tasks.lookup token = some (.upload upload)) :
    AcceptedUpload (history ++ [t]) token upload := by
  have onward {token : Nat} {upload : Upload} (accepted : AcceptedUpload history token upload) :
      AcceptedUpload (history ++ [t]) token upload := by
    obtain ⟨safe, u, member, accepted⟩ := accepted
    exact ⟨safe, u, List.mem_append_left _ member, accepted⟩
  have change := taskChange fires token
  rw [running] at change
  generalize before : t.pre.tasks.lookup token = first at change
  generalize after : some (Task.upload upload) = last at change
  cases change with
  | same =>
    subst after
    exact onward (earlier token upload before)
  | spawned fresh counted spawned =>
    cases after
    cases spawned with
    | @upload request job action found current safe =>
      have named := JobStore.id_of_get found
      refine ⟨safe, t, by simp, request, job, action, fresh.symm, named.symm, ?_⟩
      rw [named]
      exact found
  | continued action continues =>
    cases after
    cases continues with
    | upload job leaseId filename expected =>
      obtain ⟨safe, accepted⟩ := onward (earlier token _ before)
      exact ⟨filename ▸ safe, job ▸ accepted⟩
  | returned => cases after
  | lost => cases after

theorem acceptedUpload_of_run {trace : List GatewayTransition} {final : Gateway}
    (run : (gateway platform prepare config).Run (gateway platform prepare config).initial
      trace final) (token : Nat) (upload : Upload)
    (running : final.tasks.lookup token = some (.upload upload)) :
    AcceptedUpload trace token upload := by
  refine run.history (P := fun trace state => ∀ token upload,
    state.tasks.lookup token = some (.upload upload) → AcceptedUpload trace token upload)
    ?_ ?_ token upload running
  · rintro _ _ ⟨⟩
  · intro before t _ fires earlier token upload
    exact acceptedUpload_step fires earlier

/-! ### Containment -/

section Contained

variable (platform : Platform) (prepare : Prepare) (config : Config) (dataDir : String)
  (cwd : WorkingDirectory)

/-- The calls of a running upload, and where the file lies that it writes. -/
structure ContainedUpload (store : ArtifactStore) (before : List GatewayTransition) (token : Nat)
    (event : Event) (upload : Upload) : Prop where
  /-- The upload was let in for a row there was. -/
  accepted : ∃ u ∈ before, ∃ request job, u.action = .upload request ∧ u.pre.tokens = token ∧
    request.id = upload.job ∧ u.pre.store.get upload.job = some job
  directories : EntryOf store.artifactsDir (store.artifactDir upload.job) ∧
    EntryOf store.inputsDir (store.inputDir upload.job)
  calls : ∀ call ∈ upload.calls store event, call.Within store upload.job

/-- Every path a pod can make the gateway open, rename, remove or serve lies in the
directory of a job there was; recorded filenames are safe; and what is served is
what was renamed into place. -/
theorem paths_contained (minted : MintsVideoIds platform)
    (run : GatewayRun platform prepare config) :
    (∀ before t after token event upload, run.trace = before ++ t :: after →
      t.action = .advance token event → t.pre.tasks.lookup token = some (.upload upload) →
      ContainedUpload (.new dataDir) before token event upload ∧
        ∀ directory name, t.post.disk.link directory name ≠ t.pre.disk.link directory name →
          ∃ call ∈ upload.calls (.new dataDir) event,
            call.Reaches ((ArtifactStore.new dataDir).locate directory name)) ∧
    (∀ id request, run.final.content (.new dataDir) cwd id = .ok request →
      (∃ job, run.final.store.get id = some job) ∧
        ∀ disk media, request.serve disk = .stream media →
          EntryOf (resolve cwd ((ArtifactStore.new dataDir).artifactDir id)) media.path) ∧
    (∀ id job, run.final.store.get id = some job →
      ∀ artifact ∈ job.artifacts, isSafeFilename artifact.filename = true) ∧
    ∀ jobId filename, isSafeFilename jobId = true → isSafeFilename filename = true →
      (ArtifactStore.new dataDir).resolveArtifact jobId filename cwd =
          some (resolve cwd ((ArtifactStore.new dataDir).finalPath jobId filename)) ∧
        resolve cwd ((ArtifactStore.new dataDir).finalPath jobId filename) ≠
          resolve cwd ((ArtifactStore.new dataDir).artifactDir jobId) ∧
        (PosixPath.isAbsolute dataDir = true →
          (ArtifactStore.new dataDir).resolveArtifact jobId filename cwd =
            some ((ArtifactStore.new dataDir).finalPath jobId filename)) := by
  refine ⟨?_, ?_, ?_, ?_⟩
  · intro before t after token event upload split action running
    obtain ⟨earlier, fires, -⟩ := (split ▸ run.run).split
    obtain ⟨safe, accepted⟩ := acceptedUpload_of_run earlier token upload running
    have job : Segment upload.job := by
      obtain ⟨u, member, -, row, -, -, -, found⟩ := accepted
      obtain ⟨first, last, rfl⟩ := List.append_of_mem member
      exact segment_of_row minted (fresh_of_run earlier.split.1) found
    refine ⟨⟨accepted, ⟨artifactDir_entry dataDir job, inputDir_entry dataDir job⟩,
      within_calls job safe⟩, fun directory name changed => ?_⟩
    obtain ⟨result, step⟩ := uploadStep_of_fires fires action running
    exact link_advance _ step directory name changed
  · intro id request accepted
    obtain ⟨job, found, rfl, -, resolved⟩ := content_eq_ok accepted
    refine ⟨⟨job, found⟩, fun disk media served => ?_⟩
    rw [path_of_stream served]
    exact (entry_of_resolveArtifact resolved).1
  · exact run.run.invariant (P := Gateway.SafeNames) (by rintro _ _ ⟨⟩) fun _ => safeNames_step
  · intro jobId filename safeJob safeName
    have job := segment_of_safe safeJob
    have name := segment_of_safe safeName
    have resolved := resolveArtifact_eq (.new dataDir) cwd safeJob safeName
    refine ⟨resolved, ne_of_entry ⟨filename, name, finalPath_eq cwd job name⟩, fun absolute => ?_⟩
    rw [resolved, resolve_of_absolute cwd absolute job name]

end Contained

/-- The counting platform, with the ids `newVideoId` mints. -/
def Platform.hexadecimal : Platform :=
  { Platform.counting with
    newVideoId := fun i => InferenceGateway.newVideoId (List.replicate (12 + i) '0')
    newVideoId_injective := by
      intro i j same
      have digits := congrArg (fun id => (String.toList id).length) same
      simpa [InferenceGateway.newVideoId] using digits }

theorem mintsVideoIds_hexadecimal : MintsVideoIds .hexadecimal := by
  intro i
  refine ⟨_, fun c digit => ?_, rfl⟩
  rw [List.eq_of_mem_replicate digit]
  decide

/-- The sample pod claims a job and uploads, first under a name that would climb out
of the directory. -/
def sampleClimb : List Action :=
  sampleStart ++ [.resumePoll 0,
    .upload ⟨"video_000000000000", some "L", some "../../x", none, none⟩,
    .upload ⟨"video_000000000000", some "L", none, none, none⟩, .advance 2 .proceed]

theorem sampleClimb_accepted : ((gateway .hexadecimal samplePrepare .default).exec Gateway.empty
    (sampleClimb ++ [.advance 2 .proceed])).isSome := by decide +kernel

def sampleClimbing : GatewayRun .hexadecimal samplePrepare .default :=
  .perform _ _ sampleClimb_accepted

theorem paths_contained_sample :
    ∃ before t upload, sampleClimbing.trace = before ++ [t] ∧
      t.pre.tasks.lookup 2 = some (.upload upload) ∧
      upload.calls (.new "/data") .proceed =
        [.createWriteStream "/data/artifacts/video_000000000000/.output.mp4.part"] ∧
      ContainedUpload (.new "/data") before 2 .proceed upload := by
  obtain ⟨before, t, split, action⟩ := Machine.Execution.perform_last sampleClimb_accepted
  have opens : sampleClimbing.trace.getLast?.any (fun t => (t.pre.tasks.lookup 2).any fun
      | .upload upload => upload.calls (.new "/data") .proceed ==
          [.createWriteStream "/data/artifacts/video_000000000000/.output.mp4.part"]
      | _ => false) = true := by decide +kernel
  rw [show sampleClimbing.trace = before ++ [t] from split, List.getLast?_concat, Option.any_some,
    Option.any_eq_true] at opens
  obtain ⟨task, running, calls⟩ := opens
  split at calls
  · next upload =>
    exact ⟨before, t, upload, split, running, beq_iff_eq.mp calls,
      ((paths_contained .hexadecimal samplePrepare .default "/data" ⟨"/", rfl⟩
        mintsVideoIds_hexadecimal sampleClimbing).1 before t [] 2 .proceed upload split action
          running).1⟩
  · cases calls

end InferenceGateway
