import InferenceGateway.Runs.Handlers
import InferenceGateway.Runs.Media

/-!
# Media are served until they expire

The invariants behind `MediaFenced`: an upload carries the lease and the digest
it was let in with, and the media in place are those of the lease that is or was
in charge.
-/

namespace InferenceGateway

open Library Relation

variable {platform : Platform} {prepare : Prepare} {config : Config} {t : GatewayTransition}
  {media : String → Bytes}

theorem leases_le (fires : (gateway platform prepare config).Fires t) :
    t.pre.leases ≤ t.post.leases :=
  (progresses fires).leases ▸ Nat.le_add_right _ _

/-! ### Uploads -/

/-- What an upload carries along, and has learned about its body. -/
structure Upload.Follows (platform : Platform) (media : String → Bytes) (state : Gateway)
    (upload : Upload) : Prop where
  expected : upload.expected = some (platform.sha256 (media upload.leaseId))
  minted : ∃ i < state.leases, upload.leaseId = platform.newLeaseId i
  intact : upload.phase = .renaming ∨ upload.phase = .comparing ∨ upload.phase = .removing →
    platform.sha256 upload.received = platform.sha256 (media upload.leaseId) →
      upload.received = media upload.leaseId
  wrong : upload.phase = .removing → upload.mismatches platform = true

theorem mismatches_iff {upload : Upload} {digest : String}
    (expected : upload.expected = some digest) (nonempty : digest ≠ "") :
    upload.mismatches platform = true ↔ digest ≠ platform.sha256 upload.received := by
  unfold Upload.mismatches
  rw [expected, Option.filter_some, if_pos (by simpa using nonempty)]
  exact bne_iff_ne

theorem Upload.Follows.mismatches {state : Gateway} {upload : Upload}
    (follows : upload.Follows platform media state) : upload.mismatches platform = true ↔
      platform.sha256 upload.received ≠ platform.sha256 (media upload.leaseId) := by
  rw [mismatches_iff follows.expected (platform.sha256_ne_empty _)]
  exact ne_comm

/-- An upload that passes the comparison has received the clip. -/
theorem Upload.Follows.received {state : Gateway} {upload : Upload}
    (follows : upload.Follows platform media state)
    (phase : upload.phase = .renaming ∨ upload.phase = .comparing ∨ upload.phase = .removing)
    (right : upload.mismatches platform = false) : upload.received = media upload.leaseId := by
  apply follows.intact phase
  by_contra differ
  rw [follows.mismatches.mpr differ] at right
  cases right

theorem Upload.Follows.mono {state state' : Gateway} {upload : Upload}
    (follows : upload.Follows platform media state) (grows : state.leases ≤ state'.leases) :
    upload.Follows platform media state' where
  expected := follows.expected
  minted := by
    obtain ⟨i, lt, minted⟩ := follows.minted
    exact ⟨i, lt.trans_le grows, minted⟩
  intact := follows.intact
  wrong := follows.wrong

/-- An upload that has not got to the rename yet. -/
theorem Upload.Follows.early {state : Gateway} {upload after : Upload}
    (follows : upload.Follows platform media state) (expected : after.expected = upload.expected)
    (leaseId : after.leaseId = upload.leaseId)
    (phase : ¬ (after.phase = .renaming ∨ after.phase = .comparing ∨ after.phase = .removing)) :
    after.Follows platform media state where
  expected := by rw [expected, leaseId, follows.expected]
  minted := leaseId ▸ follows.minted
  intact late := absurd late phase
  wrong late := absurd (.inr (.inr late)) phase

theorem follows_spawned {upload : Upload} (sound : t.pre.Sound platform)
    (leased : Leased platform t.pre)
    (uploads : ∀ request, t.action = .upload request → ∀ lease, request.leaseId = some lease →
      request.expected = some (platform.sha256 (media lease)))
    (spawned : Spawned platform config t (.upload upload)) :
    upload.Follows platform media t.pre := by
  cases spawned with
  | upload action found current =>
    obtain ⟨lease, given, -, held⟩ := leaseIs_iff.mp current
    refine ⟨?_, ?_, fun late => ?_, nofun⟩
    · simp only [given, Option.getD_some]
      exact uploads _ action lease given
    · obtain ⟨i, lt, minted⟩ := leased.minted _ lease
        ⟨_, found, (sound.row _ _ found).consistent.holds held⟩
      exact ⟨i, lt, by simpa only [given, Option.getD_some] using minted⟩
    · rcases late with late | late | late <;> cases late

theorem follows_step (fires : (gateway platform prepare config).Fires t)
    (sound : t.pre.Sound platform) (leased : Leased platform t.pre)
    (uploads : ∀ request, t.action = .upload request → ∀ lease, request.leaseId = some lease →
      request.expected = some (platform.sha256 (media lease)))
    (bodies : ∀ token upload, t.action = .advance token .finish →
      t.pre.tasks.lookup token = some (.upload upload) →
        platform.sha256 upload.received = platform.sha256 (media upload.leaseId) →
          upload.received = media upload.leaseId)
    (follows : ∀ k upload, t.pre.tasks.lookup k = some (.upload upload) →
      upload.Follows platform media t.pre) {k : Nat} {upload : Upload}
    (running : t.post.tasks.lookup k = some (.upload upload)) :
    upload.Follows platform media t.post := by
  apply Upload.Follows.mono _ (leases_le fires)
  cases diskChange fires sound.fresh with
  | aside change origin =>
    rcases origin k upload running with earlier | spawned
    · exact follows k upload earlier
    · exact follows_spawned sound leased uploads spawned
  | @uploads token event upload₀ result action running₀ step tasks =>
    have before := follows token upload₀ running₀
    rw [tasks] at running
    split at running
    · unfold UploadResult.task at running
      cases step with
      | made phase | opened phase | unopened phase | overflowed _ phase | broke phase =>
        cases running
        exact before.early rfl rfl (by rintro (late | late | late) <;> cases late)
      | wrote bytes phase =>
        cases running
        refine before.early rfl rfl ?_
        rintro (late | late | late) <;> cases phase.symm.trans late
      | ended phase =>
        cases running
        exact ⟨before.expected, before.minted, fun _ => bodies token upload₀ action running₀, nofun⟩
      | renamed phase =>
        cases running
        exact ⟨before.expected, before.minted, fun _ => before.intact (.inl phase), nofun⟩
      | mismatched phase wrong =>
        cases running
        exact ⟨before.expected, before.minted, fun _ => before.intact (.inr (.inl phase)),
          fun _ => wrong⟩
      | failed | unrenamed | stored | removed => cases running
    · exact follows k upload running

theorem turningUpload_eq_some {upload : Upload} (turns : turningUpload t = some upload) :
    ∃ token event, t.action = .advance token event ∧
      t.pre.tasks.lookup token = some (.upload upload) := by
  unfold turningUpload at turns
  split at turns
  · next token event action =>
    obtain ⟨task, running, same⟩ := Option.bind_eq_some_iff.mp turns
    cases task with
    | upload other =>
      cases same
      exact ⟨token, event, action, running⟩
    | creation | finishing | cleanup => cases same
  · cases turns

/-- An upload is answered with success after the comparison. -/
theorem stored_of_accepted (fires : (gateway platform prepare config).Fires t) {upload : Upload}
    (accepted : acceptedUpload t = some upload) :
    ∃ token, t.action = .advance token .proceed ∧
      t.pre.tasks.lookup token = some (.upload upload) ∧ upload.phase = .comparing ∧
      upload.mismatches platform = false := by
  unfold acceptedUpload at accepted
  split at accepted
  · next name size digest reply =>
    obtain ⟨token, event, action, running⟩ := turningUpload_eq_some accepted
    have effect := effect fires
    rw [action, reply] at effect
    generalize t.post = post at effect
    cases effect with
    | stored running' advanced =>
      cases running.symm.trans running'
      cases uploadStep advanced with
      | stored phase right => exact ⟨token, action, running, phase, right⟩
  · cases accepted

/-! ### Completions -/

/-- A row comes to be completed by a result, reported under its lease, that
records one artifact. -/
theorem completed_of_touches {job job' : Job}
    (touches : ReflTransGen (Touch platform config t) job job') (running : job.state ≠ .completed)
    (done : job'.state = .completed) :
    ∃ lease, Reports t job lease ∧ job'.finishedAt = some t.pre.now ∧ ∃ request artifact,
      t.action = .result request ∧ request.body.state = .string "completed" ∧
        request.body.artifact = some artifact ∧ job'.artifacts = [artifact] := by
  induction touches with
  | refl => exact absurd done running
  | @tail mid last touches touch inductionHypothesis =>
    cases touch with
    | @completed lease artifact reports records =>
      obtain ⟨request, action, completed, recorded⟩ := records
      rcases touches_result action touches with rfl | ⟨-, left, -⟩
      · exact ⟨lease, reports, rfl, request, artifact, action, completed, recorded, rfl⟩
      · exact absurd (holds_iff.mp reports.holds).1 left
    | cleared => exact inductionHypothesis done
    | mediaExpired action =>
      obtain ⟨-, -, -, request, -, action', -⟩ := inductionHypothesis done
      cases action.symm.trans action'
    | renewed _ _ _ _ holds => cases (holds_iff.mp holds).1.symm.trans done
    | flagged _ inFlight => cases inFlight.symm.trans done
    | recovered _ inFlight => cases inFlight.symm.trans done
    | claimed | acknowledged | retried | failed | lost | expired | overdue | forced
    | cancelled => cases done

/-- What a completing step has found in its request. -/
theorem spec_of_completes (fires : (gateway platform prepare config).Fires t) {id lease : String}
    (completes : Completes t id lease) :
    ∃ request artifact job, t.action = .result request ∧ request.id = id ∧
      request.leaseId = some lease ∧ request.body.state = .string "completed" ∧
      request.body.artifact = some artifact ∧ t.post.store.get id = some job ∧
      job.state = .completed ∧ job.finishedAt = some t.pre.now ∧ job.artifacts = [artifact] := by
  obtain ⟨⟨job₀, before, holds⟩, job, after, done⟩ := completes
  have change := rowChange fires id
  rw [before, after] at change
  cases change with
  | touched touches =>
    have running : job₀.state ≠ .completed := by
      rw [(holds_iff.mp holds).1]
      exact nofun
    obtain ⟨lease', ⟨⟨request, action, named, given⟩, holds'⟩, finished, request', artifact,
      action', completed, recorded, artifacts⟩ := completed_of_touches touches running done
    cases action.symm.trans action'
    cases (holds_iff.mp holds).2.symm.trans (holds_iff.mp holds').2
    exact ⟨request, artifact, job, action, named.trans (JobStore.id_of_get before), given,
      completed, recorded, after, done, finished, artifacts⟩

/-- A row that is completed after a step was completed by it, or before. -/
theorem completion_origin (fires : (gateway platform prepare config).Fires t) {id : String}
    {job : Job} (found : t.post.store.get id = some job) (done : job.state = .completed) :
    (∃ job₀, t.pre.store.get id = some job₀ ∧ job₀.state = .completed ∧
        job.finishedAt = job₀.finishedAt) ∨
      ∃ lease, Completes t id lease ∧ job.finishedAt = some t.pre.now := by
  have change := rowChange fires id
  rw [found] at change
  cases before : t.pre.store.get id with
  | none =>
    rw [before] at change
    cases change with
    | created => cases done
  | some job₀ =>
    rw [before] at change
    cases change with
    | touched touches =>
      by_cases earlier : job₀.state = .completed
      · obtain ⟨settled, -⟩ := settled_touches touches (by rw [earlier]; rfl)
        exact .inl ⟨job₀, rfl, earlier, settled.finishedAt⟩
      · obtain ⟨lease, reports, finished, -⟩ := completed_of_touches touches earlier done
        exact .inr ⟨lease, ⟨⟨job₀, before, reports.holds⟩, job, found, done⟩, finished⟩

/-! ### The media in place -/

theorem placed_of_read {state : Gateway} {id : String} {bytes : Bytes}
    (read : state.disk.read (.artifacts, id) outputName = some bytes) : state.placed id = true := by
  obtain ⟨inode, linked, -⟩ := Option.map_eq_some_iff.mp read
  rw [Gateway.placed, linked]
  rfl

theorem leaseId_of_current {state : Gateway} {upload : Upload} {job : Job}
    (found : state.store.get upload.job = some job) (current : state.current upload = true) :
    job.leaseId = some upload.leaseId := by
  rw [Gateway.current, found, Option.any_some] at current
  obtain ⟨lease, same, -, held⟩ := leaseIs_iff.mp current
  rw [held, same]

/-- Media stay in place as long as they are those of the lease in charge, if there
is one, and have not expired. -/
theorem media_step (fires : (gateway platform prepare config).Fires t)
    (fresh : Fresh platform t.pre) (parts : PartFiles t.pre)
    (follows : ∀ k upload, t.pre.tasks.lookup k = some (.upload upload) →
      upload.Follows platform media t.pre)
    (dooms : ∀ k task, t.pre.tasks.lookup k = some (.cleanup task) →
      Dooms platform config t.pre task)
    (calm : clobbers platform t = false) {id : String} {job : Job} {bytes : Bytes}
    (found : t.pre.store.get id = some job)
    (read : t.pre.disk.read (.artifacts, id) outputName = some bytes)
    (charge : ∀ lease, job.leaseId = some lease → bytes = media lease)
    (alive : ∀ finishedAt, job.finishedAt = some finishedAt →
      t.pre.now ≤ finishedAt + config.artifactTtlMs) :
    t.post.disk.read (.artifacts, id) outputName = some bytes := by
  obtain ⟨-, replaces, removes, sweeps⟩ := clobbers_eq_false calm
  have placed := placed_of_read read
  cases mediaChange fires fresh parts id with
  | same same => rw [same, read]
  | @replaced token upload action running job_eq phase after =>
    subst job_eq
    rw [replacesMedia, turningUpload_eq action running, Option.any_some, placed,
      decide_eq_true phase, Bool.true_and, Bool.true_and, Bool.or_eq_false_iff,
      Bool.not_eq_false'] at replaces
    rw [after, charge upload.leaseId (leaseId_of_current found replaces.1),
      (follows token upload running).received (.inl phase) replaces.2]
  | @removed token upload action running job_eq phase =>
    exfalso
    subst job_eq
    rw [removesMedia, turningUpload_eq action running, Option.any_some, placed,
      decide_eq_true phase, Bool.true_and, Bool.true_and, Bool.or_eq_false_iff,
      Bool.not_eq_false', decide_eq_false_iff_not, not_not] at removes
    have own : bytes = upload.received := Option.some.inj (read.symm.trans removes.2)
    have clip := charge upload.leaseId (leaseId_of_current found removes.1)
    have loaded := follows token upload running
    exact loaded.mismatches.mp (loaded.wrong phase) (congrArg platform.sha256 (own.symm.trans clip))
  | @expired token task action running doomed =>
    obtain ⟨-, finishedAt, finished, old⟩ :=
      expired_of_doomed (dooms token task running) doomed found
    exact absurd (alive finishedAt finished) (not_le.mpr old)
  | @swept token task root rest later action running stage =>
    obtain ⟨now, result, stage'⟩ := task
    cases stage
    rw [sweepsMedia, action] at sweeps
    simp only [running, found, Option.isSome_some] at sweeps
    cases sweeps

/-- An upload of the job was accepted under the lease, or is about to be. -/
def Credited (platform : Platform) (trace : List GatewayTransition) (state : Gateway)
    (id lease : String) : Prop :=
  (∃ bytes, Accepted trace id lease bytes) ∨ ∃ k upload,
    state.tasks.lookup k = some (.upload upload) ∧ upload.job = id ∧ upload.leaseId = lease ∧
      upload.phase = .comparing ∧ upload.mismatches platform = false

/-- The step moves the part file of such an upload into place. -/
def Places (platform : Platform) (t : GatewayTransition) (id lease : String) : Prop :=
  ∃ token upload, t.action = .advance token .proceed ∧
    t.pre.tasks.lookup token = some (.upload upload) ∧ upload.job = id ∧
    upload.leaseId = lease ∧ upload.phase = .renaming ∧ upload.mismatches platform = false ∧
    t.post.disk.read (.artifacts, id) outputName = some upload.received

theorem Accepted.append {first : List GatewayTransition} {id lease : String} {bytes : Bytes}
    (accepted : Accepted first id lease bytes) (second : List GatewayTransition) :
    Accepted (first ++ second) id lease bytes := by
  obtain ⟨t, member, rest⟩ := accepted
  exact ⟨t, List.mem_append_left second member, rest⟩

theorem credited_origin (fires : (gateway platform prepare config).Fires t)
    (fresh : Fresh platform t.pre) (parts : PartFiles t.pre) {before : List GatewayTransition}
    {id lease : String} (credited : Credited platform (before ++ [t]) t.post id lease) :
    Credited platform before t.pre id lease ∨ Places platform t id lease := by
  rcases credited with ⟨bytes, u, member, upload, accepted, job, under, -⟩ |
    ⟨k, upload, running, job, under, phase, right⟩
  · rcases List.mem_append.mp member with earlier | last
    · exact .inl (.inl ⟨_, u, earlier, upload, accepted, job, under, rfl⟩)
    · obtain rfl := List.mem_singleton.mp last
      obtain ⟨token, -, running, phase, right⟩ := stored_of_accepted fires accepted
      exact .inl (.inr ⟨token, upload, running, job, under, phase, right⟩)
  · have kept (earlier : t.pre.tasks.lookup k = some (.upload upload)) :
        Credited platform before t.pre id lease :=
      .inr ⟨k, upload, earlier, job, under, phase, right⟩
    cases diskChange fires fresh with
    | aside change origin =>
      rcases origin k upload running with earlier | spawned
      · exact .inl (kept earlier)
      · cases spawned with
        | upload => cases phase
    | @uploads token event upload₀ result action running₀ step tasks =>
      rw [tasks] at running
      split at running
      · unfold UploadResult.task at running
        cases step with
        | renamed phase₀ after =>
          cases running
          rw [parts.filename token upload₀ running₀] at after
          obtain ⟨inode, linked, read⟩ := FileSystem.read_rename after
          rw [(parts.file token upload₀ running₀).moving phase₀ inode linked] at read
          exact .inr ⟨token, upload₀, action, running₀, job, under, phase₀, right, job ▸ read⟩
        | wrote bytes phase₀ =>
          cases running
          cases phase₀.symm.trans phase
        | made | opened | unopened | overflowed | ended | broke | mismatched =>
          cases running
          cases phase
        | failed | unrenamed | stored | removed => cases running
      · exact .inl (kept running)

/-! ### The invariant -/

/-- The job is completed, and the clip of the lease is in place and on record. -/
def Keeps (platform : Platform) (media : String → Bytes) (state : Gateway) (id lease : String)
    (finishedAt : Millis) : Prop :=
  ∃ job artifact, state.store.get id = some job ∧ job.state = .completed ∧
    job.finishedAt = some finishedAt ∧ job.artifacts = [artifact] ∧
    artifact.filename = outputName ∧ artifact.sha256 = some (platform.sha256 (media lease)) ∧
    state.disk.read (.artifacts, id) outputName = some (media lease)

structure Fenced (platform : Platform) (config : Config) (media : String → Bytes)
    (trace : List GatewayTransition) (state : Gateway) : Prop where
  parts : PartFiles state
  follows : ∀ k upload, state.tasks.lookup k = some (.upload upload) →
    upload.Follows platform media state
  dooms : ∀ k task, state.tasks.lookup k = some (.cleanup task) →
    Dooms platform config state task
  accepted : ∀ id lease bytes, Accepted trace id lease bytes →
    bytes = media lease ∧ ∃ i < state.leases, lease = platform.newLeaseId i
  inFlight : ∀ id lease, Holds state id lease → Credited platform trace state id lease →
    state.disk.read (.artifacts, id) outputName = some (media lease)
  completed : ∀ c ∈ trace, ∀ id lease, Completes c id lease →
    (∃ bytes, Accepted trace id lease bytes) ∧
      (state.now ≤ c.pre.now + config.artifactTtlMs → Keeps platform media state id lease c.pre.now)

theorem safeFilename_output : safeFilename (.string "output.mp4") = some outputName := by decide

/-- The artifact an honest pod has recorded. -/
theorem artifact_of_honest {body : ResultBody} {artifact : Artifact} {digest : String}
    (recorded : body.artifact = some artifact) (filename : body.filename = .string "output.mp4")
    (sha256 : body.sha256 = .string digest) (nonempty : digest ≠ "") :
    artifact.filename = outputName ∧ artifact.sha256 = some digest := by
  unfold ResultBody.artifact at recorded
  rw [filename, if_neg nofun] at recorded
  dsimp only at recorded
  rw [safeFilename_output, Option.map_some] at recorded
  cases recorded
  refine ⟨rfl, ?_⟩
  dsimp only
  rw [sha256, Value.str, if_neg nonempty]

section Step

variable {before : List GatewayTransition}

theorem accepted_step (fires : (gateway platform prepare config).Fires t)
    (fenced : Fenced platform config media before t.pre) {id lease : String} {bytes : Bytes}
    (accepted : Accepted (before ++ [t]) id lease bytes) :
    bytes = media lease ∧ ∃ i < t.post.leases, lease = platform.newLeaseId i := by
  obtain ⟨u, member, upload, stored, job, under, received⟩ := accepted
  have known : bytes = media lease ∧ ∃ i < t.pre.leases, lease = platform.newLeaseId i := by
    rcases List.mem_append.mp member with earlier | last
    · exact fenced.accepted id lease bytes ⟨u, earlier, upload, stored, job, under, received⟩
    · obtain rfl := List.mem_singleton.mp last
      obtain ⟨token, -, running, phase, right⟩ := stored_of_accepted fires stored
      have follows := fenced.follows token upload running
      subst under received
      exact ⟨follows.received (.inr (.inl phase)) right, follows.minted⟩
  obtain ⟨clip, i, lt, minted⟩ := known
  exact ⟨clip, i, lt.trans_le (leases_le fires), minted⟩

theorem minted_of_credited (fenced : Fenced platform config media before t.pre)
    {id lease : String} (credited : Credited platform before t.pre id lease) :
    ∃ i < t.pre.leases, lease = platform.newLeaseId i := by
  rcases credited with ⟨bytes, accepted⟩ | ⟨k, upload, running, -, rfl, -⟩
  · exact (fenced.accepted id lease bytes accepted).2
  · exact (fenced.follows k upload running).minted

theorem inFlight_step (fires : (gateway platform prepare config).Fires t)
    (sound : t.pre.Sound platform) (calm : clobbers platform t = false)
    (fenced : Fenced platform config media before t.pre) {id lease : String}
    (holds : Holds t.post id lease)
    (credited : Credited platform (before ++ [t]) t.post id lease) :
    t.post.disk.read (.artifacts, id) outputName = some (media lease) := by
  rcases credited_origin fires sound.fresh fenced.parts credited with earlier |
    ⟨token, upload, -, running, -, rfl, phase, right, read⟩
  · rcases holds_origin fires holds with held | dispatches
    · obtain ⟨job, found, held'⟩ := held
      obtain ⟨inProgress, own⟩ := holds_iff.mp held'
      refine media_step fires sound.fresh fenced.parts fenced.follows fenced.dooms calm found
        (fenced.inFlight id lease ⟨job, found, held'⟩ earlier) ?_ ?_
      · intro lease' own'
        cases own.symm.trans own'
        rfl
      · intro finishedAt finished
        obtain ⟨-, -, -, -, -, unfinished⟩ := (sound.row id job found).consistent.inProgress inProgress
        cases unfinished.symm.trans finished
    · -- A lease minted by this step has not let any upload in yet.
      obtain ⟨i, lt, minted⟩ := minted_of_credited fenced earlier
      obtain ⟨j, -, -, -, minted'⟩ := dispatches.minted
      have := platform.newLeaseId_injective (minted.symm.trans minted')
      omega
  · rw [read, (fenced.follows token upload running).received (.inl phase) right]

/-- The media are in place when the job is completed. -/
theorem keeps_of_completes (fires : (gateway platform prepare config).Fires t)
    (honest : Honest platform media (before ++ [t]))
    (fenced : Fenced platform config media before t.pre) {id lease : String}
    (completes : Completes t id lease) :
    (∃ bytes, Accepted before id lease bytes) ∧ Keeps platform media t.post id lease t.pre.now := by
  obtain ⟨request, artifact, job, action, rfl, given, done, recorded, found, completed, finished,
    artifacts⟩ := spec_of_completes fires completes
  obtain ⟨filename, digest, accepted⟩ :=
    honest.results before t [] rfl request lease action done given
  obtain ⟨named, hashed⟩ :=
    artifact_of_honest recorded filename digest (platform.sha256_ne_empty _)
  refine ⟨accepted, job, artifact, found, completed, finished, artifacts, named, hashed, ?_⟩
  rw [disk_result fires action]
  exact fenced.inFlight request.id lease completes.holds (.inl accepted)

/-- The media of a completed job stay until they expire. -/
theorem keeps_step (retention : config.artifactTtlMs ≤ config.jobRetentionMs)
    (fires : (gateway platform prepare config).Fires t) (sound : t.pre.Sound platform)
    (calm : clobbers platform t = false) (fenced : Fenced platform config media before t.pre)
    {id lease : String} {finishedAt : Millis}
    (keeps : Keeps platform media t.pre id lease finishedAt)
    (alive : t.pre.now ≤ finishedAt + config.artifactTtlMs) :
    Keeps platform media t.post id lease finishedAt := by
  obtain ⟨job, artifact, found, done, finished, artifacts, named, hashed, read⟩ := keeps
  have terminal : job.state.isTerminal = true := by rw [done]; rfl
  have inTime : ∀ f, job.finishedAt = some f → t.pre.now ≤ f + config.artifactTtlMs := by
    intro f same
    cases finished.symm.trans same
    exact alive
  have stays := media_step fires sound.fresh fenced.parts fenced.follows fenced.dooms calm found
    read (fun lease' held => by
      cases ((sound.row id job found).consistent.terminal terminal).2.1.symm.trans held) inTime
  have change := rowChange fires id
  rw [found] at change
  generalize after : t.post.store.get id = row at change
  cases change with
  | @touched _ job' touches =>
    obtain ⟨settled, expires⟩ := settled_touches touches terminal
    refine ⟨job', artifact, after, settled.state.trans done, settled.finishedAt.trans finished, ?_,
      named, hashed, stays⟩
    by_contra changed
    obtain ⟨token, event, task, rest, -, running, stage⟩ :=
      expires fun same => changed (same.trans artifacts)
    have doomed : id ∈ task.doomed := by
      simp only [CleanupTask.doomed, stage, JobStore.id_of_get found, List.mem_cons_self]
    obtain ⟨-, f, same, old⟩ := expired_of_doomed (fenced.dooms token task running) doomed found
    exact absurd (inTime f same) (not_le.mpr old)
  | @purged _ token task action running old =>
    exfalso
    rw [finished, Option.any_some, decide_eq_true_eq] at old
    have started := (fenced.dooms token task running).1
    have expired := lt_sub_iff_add_lt.mp old
    exact absurd alive (not_le.mpr
      (((add_le_add_right retention finishedAt).trans_lt expired).trans_le started))

theorem fenced_step (retention : config.artifactTtlMs ≤ config.jobRetentionMs)
    (run : (gateway platform prepare config).Run (gateway platform prepare config).initial
      before t.pre)
    (fires : (gateway platform prepare config).Fires t)
    (honest : Honest platform media (before ++ [t])) (calm : clobbers platform t = false)
    (fenced : Fenced platform config media before t.pre) :
    Fenced platform config media (before ++ [t]) t.post := by
  have sound := sound_of_run run
  have last : t ∈ before ++ [t] := List.mem_append_right before (List.mem_singleton.mpr rfl)
  constructor
  · apply partFiles_step fires sound.fresh _ (clobbers_eq_false calm).1 fenced.parts
    intro request action
    rw [(honest.uploads t last request action).1]
    rfl
  · intro k upload running
    exact follows_step fires sound (leased_of_run run)
      (fun request action => (honest.uploads t last request action).2)
      (honest.bodies t last) fenced.follows running
  · intro k task running
    exact dooms_step fires sound fenced.dooms running
  · intro id lease bytes accepted
    exact accepted_step fires fenced accepted
  · intro id lease holds credited
    exact inFlight_step fires sound calm fenced holds credited
  · intro c member id lease completes
    rcases List.mem_append.mp member with earlier | now
    · obtain ⟨⟨bytes, accepted⟩, keeps⟩ := fenced.completed c earlier id lease completes
      refine ⟨⟨bytes, accepted.append [t]⟩, fun alive => ?_⟩
      have alive' := (now_le fires).trans alive
      exact keeps_step retention fires sound calm fenced (keeps alive') alive'
    · obtain rfl := List.mem_singleton.mp now
      obtain ⟨⟨bytes, accepted⟩, keeps⟩ := keeps_of_completes fires honest fenced completes
      exact ⟨⟨bytes, accepted.append [c]⟩, fun _ => keeps⟩

end Step

theorem lookup_initial (k : Nat) :
    (gateway platform prepare config).initial.tasks.lookup k = none := rfl

theorem fenced_initial :
    Fenced platform config media [] (gateway platform prepare config).initial := by
  constructor
  · constructor
    · intro k upload running
      cases (lookup_initial k).symm.trans running
    · intro k upload running
      cases (lookup_initial k).symm.trans running
    · intro k k' upload upload' running
      cases (lookup_initial k).symm.trans running
    · intro k k' upload upload' i running
      cases (lookup_initial k).symm.trans running
  · intro k upload running
    cases (lookup_initial k).symm.trans running
  · intro k task running
    cases (lookup_initial k).symm.trans running
  · rintro id lease bytes ⟨t, member, -⟩
    cases member
  · rintro id lease ⟨job, found, -⟩
    simp [gateway, Gateway.empty, JobStore.get] at found
  · intro c member
    cases member

theorem fenced_of_run (retention : config.artifactTtlMs ≤ config.jobRetentionMs)
    {trace : List GatewayTransition} {final : Gateway}
    (run : (gateway platform prepare config).Run (gateway platform prepare config).initial
      trace final) :
    Honest platform media trace → (∀ t ∈ trace, clobbers platform t = false) →
      Fenced platform config media trace final := by
  refine run.history (P := fun trace state => Honest platform media trace →
    (∀ t ∈ trace, clobbers platform t = false) → Fenced platform config media trace state) ?_ ?_
  · exact fun _ _ => fenced_initial
  · intro before t run fires inductionHypothesis honest calm
    have earlier := inductionHypothesis honest.of_append fun u member =>
      calm u (List.mem_append_left [t] member)
    exact fenced_step retention run fires honest (calm t (by simp)) earlier

/-- Every completed row was completed by a step of the run. -/
theorem completions_of_run {trace : List GatewayTransition} {final : Gateway}
    (run : (gateway platform prepare config).Run (gateway platform prepare config).initial
      trace final) : ∀ id job, final.store.get id = some job → job.state = .completed →
        ∃ c ∈ trace, ∃ lease, Completes c id lease ∧ job.finishedAt = some c.pre.now := by
  refine run.history (P := fun trace state => ∀ id job, state.store.get id = some job →
    job.state = .completed → ∃ c ∈ trace, ∃ lease, Completes c id lease ∧
      job.finishedAt = some c.pre.now) ?_ ?_
  · intro id job found
    simp [gateway, Gateway.empty, JobStore.get] at found
  · intro before t _ fires inductionHypothesis id job found done
    rcases completion_origin fires found done with ⟨job₀, earlier, done₀, same⟩ |
      ⟨lease, completes, finished⟩
    · obtain ⟨c, member, lease, completes, finished⟩ := inductionHypothesis id job₀ earlier done₀
      exact ⟨c, List.mem_append_left [t] member, lease, completes, same.trans finished⟩
    · exact ⟨t, by simp, lease, completes, finished⟩

/-- With honest pods, the media of every completed job are those of its lease until
they expire, in every run in which no step clobbers media. -/
theorem media_fenced (platform : Platform) (prepare : Prepare) (config : Config)
    (retention : config.artifactTtlMs ≤ config.jobRetentionMs) (media : String → Bytes)
    (run : GatewayRun platform prepare config) (honest : Honest platform media run.trace)
    (calm : ∀ t ∈ run.trace, clobbers platform t = false) : MediaFenced run := by
  have fenced := fenced_of_run retention run.run honest calm
  refine ⟨completions_of_run run.run, fun c member id lease completes alive => ?_⟩
  obtain ⟨⟨bytes, accepted⟩, keeps⟩ := fenced.completed c member id lease completes
  obtain ⟨job, artifact, found, done, -, artifacts, named, hashed, read⟩ := keeps alive
  obtain ⟨rfl, -⟩ := fenced.accepted id lease bytes accepted
  refine ⟨job, artifact, media lease, found, done, ?_, ?_, accepted, hashed⟩
  · rw [artifacts, List.head?_cons]
  · rw [named, read]

/-! ### A sample race -/

/-- Check a step against the protocol, given the uploads accepted before it. -/
def followsStep (platform : Platform) (media : String → Bytes) (accepted : List Upload)
    (t : GatewayTransition) : Bool :=
  match t.action with
  | .upload request => request.filename = some "output.mp4" &&
    request.leaseId.all fun lease => request.expected = some (platform.sha256 (media lease))
  | .advance token .finish =>
    ((t.pre.tasks.lookup token).bind Task.upload?).all fun upload =>
      upload.received = media upload.leaseId
  | .result request => request.body.state ≠ .string "completed" ||
    request.leaseId.all fun lease => request.body.filename = .string "output.mp4" &&
      request.body.sha256 = .string (platform.sha256 (media lease)) &&
      accepted.any fun upload => upload.job = request.id && upload.leaseId = lease
  | _ => true

def followsProtocol (platform : Platform) (media : String → Bytes) :
    List Upload → List GatewayTransition → Bool
  | _, [] => true
  | accepted, t :: rest => followsStep platform media accepted t &&
    followsProtocol platform media (accepted ++ (acceptedUpload t).toList) rest

theorem followsStep_of_split {accepted : List Upload} {before after : List GatewayTransition}
    (follows : followsProtocol platform media accepted (before ++ t :: after) = true) :
    followsStep platform media (accepted ++ before.filterMap acceptedUpload) t = true := by
  induction before generalizing accepted with
  | nil =>
    rw [List.nil_append, followsProtocol, Bool.and_eq_true] at follows
    rw [List.filterMap_nil, List.append_nil]
    exact follows.1
  | cons first rest inductionHypothesis =>
    rw [List.cons_append, followsProtocol, Bool.and_eq_true] at follows
    have later := inductionHypothesis follows.2
    rw [List.append_assoc] at later
    have joined : (acceptedUpload first).toList ++ rest.filterMap acceptedUpload =
        (first :: rest).filterMap acceptedUpload := by
      rw [List.filterMap_cons]
      cases acceptedUpload first <;> rfl
    rwa [joined] at later

/-- The check is sound. -/
theorem honest_of_followsProtocol {trace : List GatewayTransition}
    (follows : followsProtocol platform media [] trace = true) : Honest platform media trace := by
  have step {t : GatewayTransition} (member : t ∈ trace) :
      ∃ accepted, followsStep platform media accepted t = true := by
    obtain ⟨before, after, rfl⟩ := List.append_of_mem member
    exact ⟨_, followsStep_of_split follows⟩
  constructor
  · intro t member request action
    obtain ⟨accepted, holds⟩ := step member
    simp only [followsStep, action, Bool.and_eq_true, decide_eq_true_eq,
      Option.all_eq_true] at holds
    exact ⟨holds.1, fun lease given => holds.2 lease given⟩
  · intro t member token upload action running _
    obtain ⟨accepted, holds⟩ := step member
    simpa [followsStep, action, running, Task.upload?] using holds
  · intro before t after split request lease action done given
    subst split
    have holds := followsStep_of_split follows
    simp only [followsStep, action, done, given, ne_eq, not_true_eq_false, decide_false,
      Bool.false_or, Option.all_some, Bool.and_eq_true, decide_eq_true_eq, List.any_eq_true,
      List.nil_append, List.mem_filterMap] at holds
    obtain ⟨⟨filename, sha256⟩, upload, ⟨u, member, accepted⟩, job, under⟩ := holds
    exact ⟨filename, sha256, upload.received, u, member, upload, accepted, job, under, rfl⟩

/-- The first sample pod renders one clip, the second one another. -/
def sampleMedia (lease : String) : Bytes := if lease = "L" then [1] else [2]

def sampleUpload (lease : String) : Action :=
  .upload {
    id := "v"
    leaseId := some lease
    filename := some "output.mp4"
    declared := none
    expected := some (Platform.counting.sha256 (sampleMedia lease)) }

/-- The turns of an upload up to its rename. -/
def sampleStream (token : Nat) (lease : String) : List Action :=
  [.advance token .proceed, .advance token .proceed,
    .advance token (.chunk (sampleMedia lease)), .advance token .finish, .advance token .proceed]

def sampleDone (lease : String) : Action :=
  .result {
    id := "v"
    leaseId := some lease
    body := {
      state := .string "completed"
      error := .undefined
      retryable := .undefined
      filename := .string "output.mp4"
      bytes := .number 1
      sha256 := .string (Platform.counting.sha256 (sampleMedia lease)) } }

/-- The first pod delivers its clip. -/
def sampleFilm : List Action :=
  (sampleStart ++ [.resumePoll 0, sampleUpload "L"]) ++ sampleStream 2 "L" ++
    [.advance 2 .proceed, sampleDone "L", .tick 1000]

theorem media_fenced_sample :
    ((sampleRun .default sampleFilm (by decide +kernel)).final.store.get "v").any
        (·.state == .completed) = true ∧
      MediaFenced (sampleRun .default sampleFilm (by decide +kernel)) := by
  refine ⟨by decide +kernel, ?_⟩
  apply media_fenced .counting samplePrepare .default (by decide) sampleMedia
  · exact honest_of_followsProtocol (by decide +kernel)
  · have calm : (sampleRun .default sampleFilm (by decide +kernel)).trace.all
        (fun t => clobbers .counting t == false) = true := by decide +kernel
    intro t member
    exact beq_iff_eq.mp (List.all_eq_true.mp calm t member)

/-- The upload of the first pod is let in, but slow: its lease expires, the second
pod uploads and completes the job, and only then the first clip is moved over
the second one. -/
def sampleRace : List Action :=
  (sampleStart ++ [.resumePoll 0, sampleUpload "L", .tick 130000, .sweep,
    .poll (samplePoll "pod-b" []) "session", sampleUpload "LL"]) ++ sampleStream 3 "LL" ++
    [.advance 3 .proceed, sampleDone "LL"] ++ sampleStream 2 "L"

/-- Both pods are honest, and the completed job serves the clip of the wrong one. -/
theorem not_mediaFenced :
    Honest .counting sampleMedia (sampleRun .default sampleRace (by decide +kernel)).trace ∧
      ¬ MediaFenced (sampleRun .default sampleRace (by decide +kernel)) := by
  refine ⟨honest_of_followsProtocol (by decide +kernel), fun fenced => ?_⟩
  have outcome : ((sampleRun .default sampleRace (by decide +kernel)).final.store.get "v").any
      (fun job => job.state == .completed &&
        job.finishedAt == some (sampleRun .default sampleRace (by decide +kernel)).final.now &&
        job.artifacts.head?.all fun artifact =>
          ((sampleRun .default sampleRace (by decide +kernel)).final.disk.read (.artifacts, "v")
            artifact.filename).all fun bytes =>
              !decide (artifact.sha256 = some (Platform.counting.sha256 bytes))) = true := by
    decide +kernel
  rw [Option.any_eq_true] at outcome
  obtain ⟨job, found, holds⟩ := outcome
  rw [Bool.and_eq_true, Bool.and_eq_true, beq_iff_eq, beq_iff_eq] at holds
  obtain ⟨⟨done, finished⟩, spoiled⟩ := holds
  obtain ⟨c, member, lease, completes, at_once⟩ := fenced.1 "v" job found done
  have same := Option.some.inj (finished.symm.trans at_once)
  obtain ⟨job', artifact, bytes, found', -, recorded, read, -, digest⟩ :=
    fenced.2 c member "v" lease completes (by rw [same]; exact Int.le_add_of_nonneg_right (by decide))
  cases found.symm.trans found'
  rw [recorded, Option.all_some, read, Option.all_some, Bool.not_eq_true',
    decide_eq_false_iff_not] at spoiled
  exact spoiled digest

end InferenceGateway
