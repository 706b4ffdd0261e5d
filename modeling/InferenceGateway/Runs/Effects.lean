import InferenceGateway.Runs.Rows

/-!
# What every step comes to

`Effect` has one constructor for each way a step can end, with the checks it
passed and the state it leaves.  `effect` inverts a step into one of them, and
the modules after this one never unfold a route again.
-/

namespace InferenceGateway

open Library

theorem fence_eq_some {leaseId : Option String} {lease : String} :
    fence leaseId = some lease ↔ leaseId = some lease ∧ lease ≠ "" := by
  unfold fence
  rw [Option.filter_eq_some_iff]
  simp

theorem leaseIs_iff {job : Job} {leaseId : Option String} :
    job.leaseIs leaseId = true ↔
      ∃ lease, leaseId = some lease ∧ lease ≠ "" ∧ job.leaseId = some lease := by
  unfold Job.leaseIs
  constructor
  · intro current
    split at current
    · next lease fenced =>
      obtain ⟨held, nonempty⟩ := fence_eq_some.mp fenced
      exact ⟨lease, by simpa using current, nonempty, held⟩
    · cases current
  · rintro ⟨lease, rfl, nonempty, held⟩
    rw [fence_eq_some.mpr ⟨held, nonempty⟩]
    exact beq_self_eq_true _

/-- The lease a result was accepted under is the one it named. -/
theorem leaseIs_getD {job : Job} {leaseId : Option String}
    (current : job.leaseIs (some (leaseId.getD "")) = true) :
    ∃ lease, leaseId = some lease ∧ lease ≠ "" ∧ job.leaseId = some lease := by
  obtain ⟨lease, same, nonempty, held⟩ := leaseIs_iff.mp current
  cases leaseId with
  | none => exact absurd (Option.some.inj same).symm nonempty
  | some given => exact ⟨lease, same, nonempty, held⟩

/-- The result names the lease the row of its job has. -/
structure Names (pre : Gateway) (request : ResultRequest) (job : Job) (lease : String) :
    Prop where
  found : pre.store.get request.id = some job
  given : request.leaseId = some lease
  nonempty : lease ≠ ""
  held : job.leaseId = some lease

/-- The statement with which a result ends its job. -/
inductive Ending (request : ResultRequest) (lease : String) (now : Millis) : Update → Prop where
  | completes {artifact : Artifact} (state : request.body.state = .string "completed")
      (recorded : request.body.artifact = some artifact) :
      Ending request lease now (.complete lease [artifact] now)
  | acknowledges (state : request.body.state = .string "cancelled") : Ending request lease now
      (.markCancelled (some lease) now "acknowledged by pod")
  | fails : Ending request lease now (.fail (some lease) request.body.message now)

section Effect

variable (platform : Platform) (prepare : Prepare) (config : Config) (pre : Gateway)

inductive Effect : Action → Reply → Gateway → Prop where
  | ticked {now : Millis} (later : pre.now ≤ now) :
      Effect (.tick now) .silent (pre.withStore { pre.store with clock := now })
  | unadmitted {request : VideoRequest} {reply : Reply} :
      Effect (.createVideo request) reply pre
  | creating {request : VideoRequest} {model : String} {image : Bytes} {input : PreparedInput}
      (registered : model ∈ modelNames)
      (sent : ∃ form, request.form = .ok form ∧ form.image = some image) :
      Effect (.createVideo request) (.pending pre.tokens)
        ({ pre with videos := pre.videos + 1 }.spawn (.creation ⟨{
          id := platform.newVideoId pre.videos
          model := model
          params := input.params
          inputPath := inputPath (platform.newVideoId pre.videos) input.extension
          inputSha256 := input.sha256
          inputBytes := image.length
          createdAt := pre.now
          deadlineAt := pre.now + config.jobTtlMs }, image, .making⟩)).2
  /-- `DELETE` changes rows and nothing else. -/
  | deleted {id : String} {reply : Reply} {store : JobStore}
      (post : (pre.deleteVideo config id).2 = pre.withStore store)
      (clock : store.clock = pre.now) :
      Effect (.deleteVideo id) reply (pre.withStore store)
  | unnamed {body : PollBody} {sessionId : String} (named : body.podId.str = none) :
      Effect (.poll body sessionId) (.error 400 podIdRequired .none) pre
  | threw {body : PollBody} {sessionId podId : String}
      (named : body.podId.str = some podId)
      (thrown : (pre.renewed config body podId sessionId).thrown = true) :
      Effect (.poll body sessionId) (.error 500 internalError .none)
        (pre.renewed config body podId sessionId).state
  | parked {body : PollBody} {sessionId podId : String} {turn : Renewed}
      (named : body.podId.str = some podId)
      (renewed : turn = pre.renewed config body podId sessionId)
      (fine : turn.thrown = false)
      (parks : turn.parks config body
        (turn.state.claimFor platform config turn.pod turn.slots).assignments = true) :
      Effect (.poll body sessionId) (.pending turn.parked.token)
        ((turn.state.claimed platform config turn.pod turn.slots).park turn.parked)
  | answered {body : PollBody} {sessionId podId : String} {turn : Renewed}
      (named : body.podId.str = some podId)
      (renewed : turn = pre.renewed config body podId sessionId)
      (fine : turn.thrown = false)
      (stays : turn.parks config body
        (turn.state.claimFor platform config turn.pod turn.slots).assignments = false) :
      Effect (.poll body sessionId)
        (.poll (pollResponse config turn.pod
          (turn.state.claimFor platform config turn.pod turn.slots).assignments
          turn.cancel turn.renewing.orphan))
        (turn.state.claimed platform config turn.pod turn.slots)
  | timedOut {token : Nat} :
      Effect (.expirePoll token) .silent
        { pre with waiters := pre.waiters.giveUp fun poll => poll.token = token }
  | woken {token : Nat} {parked : ParkedPoll}
      (found : pre.waiters.settled.find? (fun entry => entry.1.token = token) =
        some (parked, true)) :
      Effect (.resumePoll token)
        (.poll (pollResponse config parked.pod
          ((pre.unpark token).claimFor platform config parked.pod parked.slots).assignments
          parked.cancel parked.orphan))
        ((pre.unpark token).claimed platform config parked.pod parked.slots)
  | released {token : Nat} {parked : ParkedPoll}
      (found : pre.waiters.settled.find? (fun entry => entry.1.token = token) =
        some (parked, false)) :
      Effect (.resumePoll token)
        (.poll (pollResponse config parked.pod [] parked.cancel parked.orphan))
        (pre.unpark token)
  | unaccepted {request : UploadRequest} {reply : Reply} : Effect (.upload request) reply pre
  | uploading {request : UploadRequest} {job : Job}
      (found : pre.store.get request.id = some job)
      (current : job.leaseIs request.leaseId = true)
      (safe : isSafeFilename (request.filename.getD "output.mp4") = true) :
      Effect (.upload request) (.pending pre.tokens)
        (pre.spawn (.upload ⟨job.id, job.podId, request.leaseId.getD "",
          request.filename.getD "output.mp4", request.expected, [], .making⟩)).2
  | refused {request : ResultRequest} {reply : Reply} : Effect (.result request) reply pre
  /-- The fenced statement missed its row. -/
  | superseded {request : ResultRequest} {job : Job} {lease : String} {statement : Update}
      {reply : Reply} (names : Names pre request job lease)
      (ending : Ending request lease pre.now statement)
      (missed : (pre.store.execute request.id statement).1 = false) :
      Effect (.result request) reply
        (pre.withStore (pre.store.execute request.id statement).2)
  | accepted {request : ResultRequest} {job : Job} {lease : String} {statement : Update}
      {pods : PodStore} {outcome : VideoStatus} {clears : Bool}
      (names : Names pre request job lease)
      (ending : Ending request lease pre.now statement)
      (clearing : request.body.state ≠ .string "cancelled" → clears = true) :
      Effect (.result request) (.pending pre.tokens)
        ({ pre with
          store := (pre.store.execute request.id statement).2
          pods := pods }.spawn (.finishing ⟨request.id, outcome, clears, false⟩)).2
  | retried {request : ResultRequest} {job : Job} {lease reason : String} {pods : PodStore}
      {reply : Reply} (names : Names pre request job lease) (retries : request.body.Retries)
      (left : job.attempts < config.maxAttempts) :
      Effect (.result request) reply
        ({ pre with
          store := (pre.store.execute request.id (.requeue (some lease) reason)).2
          pods := pods } : Gateway).kick
  | making {token : Nat} {creation : Creation}
      (running : pre.tasks.lookup token = some (.creation creation))
      (phase : creation.phase = .making) :
      Effect (.advance token .proceed) (.pending token)
        ({ pre with disk := pre.disk.mkdir (.inputs, creation.job.id) pre.now }.suspend token
          (.creation { creation with phase := .writing }))
  | writing {token : Nat} {creation : Creation} {disk : Disk}
      (running : pre.tasks.lookup token = some (.creation creation))
      (phase : creation.phase = .writing)
      (written : Disk.writeInput pre.disk creation.job.inputPath creation.image pre.now =
        some disk) :
      Effect (.advance token .proceed) (.pending token)
        ({ pre with disk := disk }.suspend token (.creation { creation with phase := .inserting }))
  | uncreated {token : Nat} {creation : Creation}
      (running : pre.tasks.lookup token = some (.creation creation)) :
      Effect (.advance token .proceed) (.error 500 internalError .none) (pre.finish token)
  | created {token : Nat} {creation : Creation} {store : JobStore} {response : VideoResponse}
      (running : pre.tasks.lookup token = some (.creation creation))
      (phase : creation.phase = .inserting)
      (inserted : pre.store.create creation.job = some store) :
      Effect (.advance token .proceed) (.video 200 response)
        ((pre.withStore store).finish token).kick
  | streaming {token : Nat} {event : Event} {upload upload' : Upload} {disk : Disk}
      (running : pre.tasks.lookup token = some (.upload upload))
      (advanced : upload.advance platform config.maxArtifactBytes pre.now event pre.disk =
        some (.suspended upload', disk)) :
      Effect (.advance token event) (.pending token)
        ({ pre with disk := disk }.suspend token (.upload upload'))
  | dropped {token : Nat} {event : Event} {upload : Upload} {disk : Disk} {status : Nat}
      {error : ApiError} (running : pre.tasks.lookup token = some (.upload upload))
      (advanced : upload.advance platform config.maxArtifactBytes pre.now event pre.disk =
        some (.rejected status error, disk)) :
      Effect (.advance token event) (.error status error .none)
        ({ pre with disk := disk }.finish token)
  | stored {token : Nat} {event : Event} {upload : Upload} {disk : Disk}
      (running : pre.tasks.lookup token = some (.upload upload))
      (advanced : upload.advance platform config.maxArtifactBytes pre.now event pre.disk =
        some (.stored, disk)) :
      Effect (.advance token event)
        (.uploaded upload.filename upload.received.length (platform.sha256 upload.received))
        (({ pre with disk := disk }.withStore (pre.store.addEvent upload.job .uploaded
          upload.podId (some (toString upload.received.length ++ " bytes")))).finish token)
  | removed {token : Nat} {task : Finishing}
      (running : pre.tasks.lookup token = some (.finishing task))
      (present : task.removed = false) :
      Effect (.advance token .proceed) (.pending token)
        ({ pre with disk := pre.disk.removeInput task.id }.suspend token
          (.finishing { task with removed := true }))
  | finished {token : Nat} {task : Finishing}
      (running : pre.tasks.lookup token = some (.finishing task))
      (gone : task.removed = true) :
      Effect (.advance token .proceed) (.result task.id task.state)
        ((pre.withStore (if task.clears then pre.store.clearInput task.id
          else pre.store)).finish token).kick
  | cleaning {token : Nat} {task task' : CleanupTask} {stores : Stores}
      (running : pre.tasks.lookup token = some (.cleanup task))
      (advanced : task.advance config pre.toStores = (.inl task', stores)) :
      Effect (.advance token .proceed) (.pending token)
        ((pre.withStores stores).suspend token (.cleanup task'))
  | cleaned {token : Nat} {task : CleanupTask} {result : CleanupResult} {stores : Stores}
      (running : pre.tasks.lookup token = some (.cleanup task))
      (advanced : task.advance config pre.toStores = (.inr result, stores)) :
      Effect (.advance token .proceed) .silent ((pre.withStores stores).finish token)
  | requeued (some_expired : 0 < (sweep config pre.store pre.pods pre.now).result.requeued) :
      Effect .sweep .silent
        ({ pre with
          store := (sweep config pre.store pre.pods pre.now).store
          pods := (sweep config pre.store pre.pods pre.now).pods } : Gateway).kick
  | swept (none_expired : (sweep config pre.store pre.pods pre.now).result.requeued = 0) :
      Effect .sweep .silent
        { pre with
          store := (sweep config pre.store pre.pods pre.now).store
          pods := (sweep config pre.store pre.pods pre.now).pods }
  | sweeping {task : CleanupTask}
      (started : Cleanup.start config pre.now pre.toStores = (.inl task, pre.toStores)) :
      Effect .cleanup (.pending pre.tokens) (pre.spawn (.cleanup task)).2
  | drained {podId : String} {draining : Bool} {reply : Reply} :
      Effect (.drain podId draining) reply
        { pre with pods := (pre.pods.setDraining podId draining).2 }
  | shutdown : Effect .shutdown .silent pre.shutdown.2
  | restarted : Effect .restart .silent (pre.restart config).2

end Effect

variable {platform : Platform} {prepare : Prepare} {config : Config} {pre post : Gateway}
  {reply : Reply}

/-! ### Creation -/

theorem of_admission {form : VideoForm} {model : String} {image : Bytes}
    {input : PreparedInput} (admitted : pre.admission prepare config form =
      .ok (model, image, input)) : model ∈ modelNames ∧ form.image = some image := by
  unfold Gateway.admission at admitted
  split at admitted
  · next spec model' resolvedSpec resolved =>
    have member := resolveModelId_mem resolved
    dsimp only at admitted
    split at admitted
    · cases admitted
    · split at admitted
      · cases admitted
      · split at admitted
        · cases admitted
        · split at admitted
          · cases admitted
          · split at admitted
            · cases admitted
            · next attached =>
              split at admitted
              · cases admitted
              · cases admitted
                exact ⟨member, attached⟩
  · cases admitted

theorem effect_createVideo {request : VideoRequest}
    (stepped : pre.createVideo platform prepare config request = (reply, post)) :
    Effect platform config pre (.createVideo request) reply post := by
  unfold Gateway.createVideo at stepped
  split at stepped
  · cases stepped
    exact .unadmitted
  · split at stepped
    · cases stepped
      exact .unadmitted
    · cases stepped
      exact .unadmitted
    · next form read =>
      split at stepped
      · cases stepped
        exact .unadmitted
      · next admitted =>
        cases stepped
        obtain ⟨registered, attached⟩ := of_admission admitted
        exact .creating registered ⟨form, read, attached⟩

theorem effect_advanceCreation {token : Nat} {creation : Creation}
    (running : pre.tasks.lookup token = some (.creation creation))
    (stepped : pre.advanceCreation config token creation = (reply, post)) :
    Effect platform config pre (.advance token .proceed) reply post := by
  unfold Gateway.advanceCreation at stepped
  split at stepped
  · next phase =>
    cases stepped
    exact .making running phase
  · next phase =>
    split at stepped
    · cases stepped
      exact .uncreated running
    · next disk written =>
      cases stepped
      exact .writing running phase written
  · next phase =>
    split at stepped
    · cases stepped
      exact .uncreated running
    · next store inserted =>
      cases stepped
      exact .created running phase inserted

/-! ### Cancellation -/

@[simp] theorem respondWith_snd (state : Gateway) (status : Nat) (id : String) :
    (state.respondWith config status id).2 = state := by
  unfold Gateway.respondWith
  split <;> rfl

theorem cancelInFlight_snd (state : Gateway) (id : String) (now : Millis) :
    ∃ store : JobStore, (state.cancelInFlight config id now).2 = state.withStore store ∧
      store.clock = state.now := by
  unfold Gateway.cancelInFlight
  dsimp only
  split
  · refine ⟨_, respondWith_snd .., ?_⟩
    simp [JobStore.requestCancel]
  · exact ⟨_, rfl, rfl⟩

theorem deleteVideo_snd (state : Gateway) (id : String) :
    ∃ store : JobStore, (state.deleteVideo config id).2 = state.withStore store ∧
      store.clock = state.now := by
  unfold Gateway.deleteVideo
  split
  · exact ⟨_, rfl, rfl⟩
  · next job found =>
    have clock : (state.store.cancelQueued job.id state.now).2.clock = state.now := by
      simp [JobStore.cancelQueued]
    dsimp only
    split
    · split
      · exact ⟨_, respondWith_snd .., clock⟩
      · obtain ⟨store, after, same⟩ := cancelInFlight_snd
          (state.withStore (state.store.cancelQueued job.id state.now).2) job.id state.now
        exact ⟨store, after, same.trans clock⟩
    · exact cancelInFlight_snd ..

/-! ### Poll -/

theorem effect_poll {body : PollBody} {sessionId : String}
    (stepped : pre.poll platform config body sessionId = (reply, post)) :
    Effect platform config pre (.poll body sessionId) reply post := by
  rcases poll_cases platform config pre body sessionId with
    ⟨unnamed, refused⟩ | ⟨podId, turn, named, renewed, ⟨thrown, threw⟩ | ⟨fine, parks, parked⟩ |
      ⟨fine, stays, answered⟩⟩
  · rw [refused] at stepped
    cases stepped
    exact .unnamed unnamed
  · rw [threw] at stepped
    cases stepped
    subst renewed
    exact .threw named thrown
  · rw [parked] at stepped
    cases stepped
    exact .parked named renewed fine parks
  · rw [answered] at stepped
    cases stepped
    exact .answered named renewed fine stays

theorem effect_resumePoll {token : Nat}
    (stepped : pre.resumePoll platform config token = some (reply, post)) :
    Effect platform config pre (.resumePoll token) reply post := by
  obtain ⟨parked, woken, found, ⟨rfl, rfl, rfl⟩ | ⟨rfl, rfl, rfl⟩⟩ := resumePoll_cases stepped
  · exact .woken found
  · exact .released found

/-! ### Upload and result -/

theorem effect_upload {request : UploadRequest}
    (stepped : pre.upload config request = (reply, post)) :
    Effect platform config pre (.upload request) reply post := by
  unfold Gateway.upload at stepped
  split at stepped
  · cases stepped
    exact .unaccepted
  · next job found =>
    dsimp only at stepped
    split at stepped
    · cases stepped
      exact .unaccepted
    · next current =>
      split at stepped
      · cases stepped
        exact .unaccepted
      · next safe =>
        split at stepped
        · cases stepped
          exact .unaccepted
        · cases stepped
          exact .uploading found (by simpa using current) (by simpa using safe)

theorem effect_advanceUpload {token : Nat} {event : Event} {upload : Upload}
    (running : pre.tasks.lookup token = some (.upload upload))
    (stepped : pre.advanceUpload config platform token upload event = some (reply, post)) :
    Effect platform config pre (.advance token event) reply post := by
  unfold Gateway.advanceUpload at stepped
  obtain ⟨⟨outcome, disk⟩, advanced, same⟩ := Option.map_eq_some_iff.mp stepped
  dsimp only at same
  split at same <;> cases same
  · exact .streaming running advanced
  · exact .dropped running advanced
  · exact .stored running advanced

section Result

variable {request : ResultRequest} {job : Job} {lease : String}

theorem effect_completeResult (names : Names pre request job lease)
    (reported : request.body.state = .string "completed")
    (stepped : pre.completeResult job lease request.body = (reply, post)) :
    Effect platform config pre (.result request) reply post := by
  have named : job.id = request.id := JobStore.id_of_get names.found
  unfold Gateway.completeResult at stepped
  split at stepped
  · cases stepped
    exact .refused
  · next artifact recorded =>
    dsimp only at stepped
    rw [named] at stepped
    split at stepped
    · next missed =>
      cases stepped
      exact .superseded names (.completes reported recorded) (Bool.not_eq_true' _ ▸ missed)
    · cases stepped
      exact .accepted names (.completes reported recorded) fun _ => rfl

theorem effect_cancelResult (names : Names pre request job lease)
    (reported : request.body.state = .string "cancelled")
    (stepped : pre.cancelResult job lease = (reply, post)) :
    Effect platform config pre (.result request) reply post := by
  unfold Gateway.cancelResult at stepped
  rw [JobStore.id_of_get names.found] at stepped
  cases stepped
  exact .accepted names (.acknowledges reported) fun other => absurd reported other

theorem effect_failResult (names : Names pre request job lease)
    (completed : request.body.state ≠ .string "completed")
    (cancelled : request.body.state ≠ .string "cancelled")
    (stepped : pre.failResult config job lease request.body = (reply, post)) :
    Effect platform config pre (.result request) reply post := by
  unfold Gateway.failResult at stepped
  rw [JobStore.id_of_get names.found] at stepped
  split at stepped
  · next retry =>
    cases stepped
    exact .retried names ⟨completed, cancelled, retry.1⟩ retry.2
  · dsimp only at stepped
    split at stepped
    · next missed =>
      cases stepped
      exact .superseded names .fails (Bool.not_eq_true' _ ▸ missed)
    · cases stepped
      exact .accepted names .fails fun _ => rfl

theorem effect_result (stepped : pre.result config request = (reply, post)) :
    Effect platform config pre (.result request) reply post := by
  unfold Gateway.result at stepped
  split at stepped
  · cases stepped
    exact .refused
  · next job found =>
    dsimp only at stepped
    split at stepped
    · cases stepped
      exact .refused
    · next current =>
      obtain ⟨lease, given, nonempty, held⟩ := leaseIs_getD (by simpa using current)
      have names : Names pre request job lease := ⟨found, given, nonempty, held⟩
      rw [given, Option.getD_some] at stepped
      split at stepped
      · next reported => exact effect_completeResult names reported stepped
      · next completed =>
        split at stepped
        · next reported => exact effect_cancelResult names reported stepped
        · next cancelled => exact effect_failResult names completed cancelled stepped

theorem effect_advanceFinishing {token : Nat} {task : Finishing}
    (running : pre.tasks.lookup token = some (.finishing task))
    (stepped : pre.advanceFinishing token task = (reply, post)) :
    Effect platform config pre (.advance token .proceed) reply post := by
  unfold Gateway.advanceFinishing at stepped
  split at stepped
  · next present =>
    cases stepped
    exact .removed running (by simpa using present)
  · next gone =>
    cases stepped
    exact .finished running (by simpa using gone)

end Result

/-! ### Every action -/

/-- A cleanup suspends before it has touched anything. -/
theorem start_eq (config : Config) (now : Millis) (stores : Stores) :
    ∃ task, Cleanup.start config now stores = (.inl task, stores) := by
  unfold Cleanup.start Cleanup.expireNext
  split
  · exact ⟨_, rfl⟩
  · exact ⟨_, rfl⟩

theorem effect_advance {token : Nat} {event : Event}
    (stepped : pre.advance platform config token event = some (reply, post)) :
    Effect platform config pre (.advance token event) reply post := by
  unfold Gateway.advance at stepped
  split at stepped
  · next running => exact effect_advanceCreation running (Option.some.inj stepped)
  · next running => exact effect_advanceUpload running stepped
  · next running => exact effect_advanceFinishing running (Option.some.inj stepped)
  · next task running =>
    have stepped := Option.some.inj stepped
    obtain ⟨⟨task' | result, stores⟩, advanced⟩ : ∃ progress,
        task.advance config pre.toStores = progress := ⟨_, rfl⟩
    all_goals
      rw [advanced] at stepped
      cases stepped
    · exact .cleaning running advanced
    · exact .cleaned running advanced
  · cases stepped

/-- A step has one of the listed effects. -/
theorem effect {t : GatewayTransition} (fires : (gateway platform prepare config).Fires t) :
    Effect platform config t.pre t.action t.reply t.post := by
  obtain ⟨pre, action, reply, post⟩ := t
  have stepped : pre.step platform prepare config action = some (reply, post) := fires
  cases action with
  | tick now =>
    simp only [Gateway.step, Gateway.tick] at stepped
    split at stepped <;> cases stepped
    next later => exact .ticked later
  | createVideo request => exact effect_createVideo (Option.some.inj stepped)
  | deleteVideo id =>
    obtain ⟨store, after, clock⟩ := deleteVideo_snd pre id
    cases (congrArg Prod.snd (Option.some.inj stepped)).symm.trans after
    exact .deleted after clock
  | poll body sessionId => exact effect_poll (Option.some.inj stepped)
  | expirePoll token =>
    simp only [Gateway.step, Gateway.expirePoll] at stepped
    split at stepped <;> cases stepped
    exact .timedOut
  | resumePoll token => exact effect_resumePoll stepped
  | upload request => exact effect_upload (Option.some.inj stepped)
  | result request => exact effect_result (Option.some.inj stepped)
  | advance token event => exact effect_advance stepped
  | sweep =>
    have stepped := Option.some.inj stepped
    unfold Gateway.sweep at stepped
    dsimp only at stepped
    split at stepped <;> cases stepped
    · next some_expired => exact .requeued some_expired
    · next none_expired => exact .swept (Nat.eq_zero_of_not_pos none_expired)
  | cleanup =>
    have stepped := Option.some.inj stepped
    obtain ⟨task, started⟩ := start_eq config pre.now pre.toStores
    unfold Gateway.cleanup at stepped
    rw [started] at stepped
    cases stepped
    exact .sweeping started
  | drain podId draining =>
    have stepped := Option.some.inj stepped
    unfold Gateway.setDrain at stepped
    dsimp only at stepped
    split at stepped <;> cases stepped <;> exact .drained
  | shutdown =>
    cases Option.some.inj stepped
    exact .shutdown
  | restart =>
    cases Option.some.inj stepped
    exact .restarted

end InferenceGateway
