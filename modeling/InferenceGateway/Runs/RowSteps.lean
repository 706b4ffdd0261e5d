import InferenceGateway.Runs.Effects

/-!
# The row changes of every route

One lemma for each action of the gateway, and `rowChange`, which assembles them.
-/

namespace InferenceGateway

open Library Relation

variable {platform : Platform} {prepare : Prepare} {config : Config} {t : GatewayTransition}

/-! ### Poll -/

section Poll

variable {body : PollBody} {sessionId : String}

theorem kept_renewOne {item : InFlightReport} (action : t.action = .poll body sessionId)
    (listed : some item ∈ body.inFlight.getD []) (state : Renewing) :
    Kept (Touch platform config t) state.store
      (renewOne config t.pre.now state item).store := by
  unfold renewOne
  split
  · next jobId leaseId names under =>
    have kept : Kept (Touch platform config t) state.store
        (state.store.renewLease jobId leaseId (t.pre.now + config.leaseTtlMs)
          (reportedProgress item.progress) item.upstreamId.str).2 := by
      apply Kept.execute
      intro job found applies
      obtain rfl := JobStore.id_of_get found
      exact .renewed action listed names under applies
    dsimp only
    split <;> exact kept
  · exact .refl _

theorem kept_renewAll (action : t.action = .poll body sessionId)
    (items : List (Option InFlightReport))
    (listed : ∀ item ∈ items, item ∈ body.inFlight.getD []) (state : Renewing) :
    Kept (Touch platform config t) state.store
      (renewAll config t.pre.now items state).1.store := by
  induction items generalizing state with
  | nil => exact .refl _
  | cons item rest inductionHypothesis =>
    cases item with
    | none => exact .refl _
    | some item =>
      exact (kept_renewOne action (listed _ (.head _)) state).trans
        (inductionHypothesis (fun other member => listed other (.tail _ member)) _)

/-- A claim dispatches the jobs it takes under consecutive leases. -/
theorem kept_dispatchAll {turn : ClaimTurn} (claims : claimTurn config t = some turn)
    (jobs : List Job) (store : JobStore) (offset : Nat) (queued : Queued store jobs)
    (places : ∀ n job, jobs[n]? = some job → turn.taken[offset + n]? = some job) :
    Kept (Touch platform config t) store
      (dispatchAll platform turn.pod (t.pre.now + config.leaseTtlMs) t.pre.now jobs store
        (t.pre.leases + offset)) := by
  induction jobs generalizing store offset with
  | nil => exact .refl _
  | cons job rest inductionHypothesis =>
    have head : Kept (Touch platform config t) store
        (store.claim job.id turn.pod.podId (platform.newLeaseId (t.pre.leases + offset))
          (t.pre.now + config.leaseTtlMs) t.pre.now).2 := by
      obtain ⟨present, isQueued⟩ := queued.2 job (.head _)
      apply Kept.execute
      intro row found applies
      rw [present, Option.some.injEq] at found
      subst found
      exact .claimed claims (places 0 job rfl) isQueued
    refine head.trans (inductionHypothesis _ (offset + 1) (queued.claim _ _ _ _).2 ?_)
    intro n other place
    rw [Nat.add_assoc, Nat.add_comm 1 n]
    exact places (n + 1) other place

/-- Claiming on a state whose clock and lease counter are those of the step. -/
theorem kept_claimFor {turn : ClaimTurn} (claims : claimTurn config t = some turn)
    (clock : turn.state.now = t.pre.now) (leases : turn.state.leases = t.pre.leases) :
    Kept (Touch platform config t) turn.state.store
      (turn.state.claimed platform config turn.pod turn.slots).store := by
  unfold Gateway.claimed
  rw [claimFor_eq, clock, leases]
  exact kept_dispatchAll claims _ _ 0 (queued_taken _ _ _)
    fun n job place => by rw [Nat.zero_add]; exact place

theorem clock_renewOne (now : Millis) (state : Renewing) (item : InFlightReport) :
    (renewOne config now state item).store.clock = state.store.clock := by
  unfold renewOne
  split
  · dsimp only
    split <;> exact JobStore.clock_execute _ _ _
  · rfl

theorem clock_renewAll (now : Millis) (items : List (Option InFlightReport))
    (state : Renewing) :
    (renewAll config now items state).1.store.clock = state.store.clock := by
  induction items generalizing state with
  | nil => rfl
  | cons item rest inductionHypothesis =>
    cases item with
    | none => rfl
    | some item => exact (inductionHypothesis _).trans (clock_renewOne now state item)

/-- The state in which a poll claims has the clock and counters it started with. -/
theorem kept_renewed (platform : Platform) (config : Config) (podId : String)
    (action : t.action = .poll body sessionId) :
    Kept (Touch platform config t) t.pre.store
        (t.pre.renewed config body podId sessionId).state.store ∧
      (t.pre.renewed config body podId sessionId).state.now = t.pre.now ∧
      (t.pre.renewed config body podId sessionId).state.leases = t.pre.leases :=
  ⟨kept_renewAll action _ (fun _ member => member) ⟨t.pre.store, [], [], []⟩,
    clock_renewAll _ _ _, rfl⟩

theorem claimTurn_poll {podId : String} (action : t.action = .poll body sessionId)
    (named : body.podId.str = some podId)
    (fine : (t.pre.renewed config body podId sessionId).thrown = false) :
    claimTurn config t = some ⟨(t.pre.renewed config body podId sessionId).state,
      (t.pre.renewed config body podId sessionId).pod,
      (t.pre.renewed config body podId sessionId).slots⟩ := by
  simp [claimTurn, action, named, fine]

theorem claimTurn_resumePoll {token : Nat} {parked : ParkedPoll}
    (action : t.action = .resumePoll token)
    (found : t.pre.waiters.settled.find? (fun entry => entry.1.token = token) =
      some (parked, true)) :
    claimTurn config t = some ⟨t.pre.unpark token, parked.pod, parked.slots⟩ := by
  simp [claimTurn, action, found]

theorem kept_poll {podId : String} (action : t.action = .poll body sessionId)
    (named : body.podId.str = some podId)
    (fine : (t.pre.renewed config body podId sessionId).thrown = false) :
    Kept (Touch platform config t) t.pre.store
      ((t.pre.renewed config body podId sessionId).state.claimed platform config
        (t.pre.renewed config body podId sessionId).pod
        (t.pre.renewed config body podId sessionId).slots).store := by
  obtain ⟨kept, clock, leases⟩ := kept_renewed platform config podId action
  exact kept.trans (kept_claimFor (claimTurn_poll action named fine) clock leases)

end Poll

/-! ### Result, cancellation and sweep -/

theorem ResultBody.message_ne_empty (body : ResultBody) : body.message ≠ "" := by
  unfold ResultBody.message
  cases text : body.error.str with
  | none => simp
  | some message =>
    rintro rfl
    unfold Value.str at text
    split at text <;> simp_all

section Result

variable {request : ResultRequest} {job : Job} {lease : String}

theorem reports_of_names (action : t.action = .result request)
    (names : Names t.pre request job lease) {row : Job}
    (found : t.pre.store.get request.id = some row) (holds : row.holds lease = true) :
    Reports t row lease :=
  ⟨⟨request, action, (JobStore.id_of_get found).symm, names.given⟩, holds⟩

/-- A job ends under the lease its result names. -/
theorem kept_ending {statement : Update} (action : t.action = .result request)
    (names : Names t.pre request job lease) (ending : Ending request lease t.pre.now statement) :
    Kept (Touch platform config t) t.pre.store
      (t.pre.store.execute request.id statement).2 := by
  have fenced : fence (some lease) = some lease := fence_eq_some.mpr ⟨rfl, names.nonempty⟩
  apply Kept.execute
  intro row found applies
  cases ending with
  | completes state recorded =>
    exact .completed (reports_of_names action names found applies)
      ⟨request, action, state, recorded⟩
  | acknowledges state =>
    exact .acknowledged (reports_of_names action names found
      (by simpa [Update.applies, fenced] using applies)) ⟨request, action, state⟩
  | fails =>
    exact .failed (reports_of_names action names found
      (by simpa [Update.applies, fenced] using applies)) request.body.message_ne_empty

theorem kept_retry {reason : String} (action : t.action = .result request)
    (names : Names t.pre request job lease) (retries : request.body.Retries)
    (left : job.attempts < config.maxAttempts) :
    Kept (Touch platform config t) t.pre.store
      (t.pre.store.execute request.id (.requeue (some lease) reason)).2 := by
  have fenced : fence (some lease) = some lease := fence_eq_some.mpr ⟨rfl, names.nonempty⟩
  apply Kept.execute
  intro row found applies
  obtain rfl := Option.some.inj (names.found.symm.trans found)
  exact .retried (reports_of_names action names found
    (by simpa [Update.applies, fenced] using applies)) left ⟨request, action, retries⟩

end Result

theorem kept_cancelInFlight {id : String} (action : t.action = .deleteVideo id)
    (state : Gateway) : Kept (Touch platform config t) state.store
      (state.cancelInFlight config id t.pre.now).2.store := by
  unfold Gateway.cancelInFlight
  dsimp only
  split
  · rw [respondWith_snd]
    exact Kept.execute fun row found applies => .flagged
      (by rw [action, JobStore.id_of_get found]) (by simpa [Update.applies] using applies)
  · exact .refl _

theorem kept_deleteVideo {id : String} (action : t.action = .deleteVideo id)
    (after : (t.pre.deleteVideo config id).2.store = t.post.store) :
    Kept (Touch platform config t) t.pre.store t.post.store := by
  rw [← after]
  unfold Gateway.deleteVideo
  split
  · exact .refl _
  · next job found =>
    obtain rfl : job.id = id := JobStore.id_of_get found
    have cancel : Kept (Touch platform config t) t.pre.store
        (t.pre.store.cancelQueued job.id t.pre.now).2 :=
      Kept.execute fun row found applies => .cancelled
        (by rw [action, JobStore.id_of_get found]) (by simpa [Update.applies] using applies)
    dsimp only
    split
    · split
      · rw [respondWith_snd]
        exact cancel
      · exact cancel.trans (kept_cancelInFlight action (t.pre.withStore _))
    · exact kept_cancelInFlight action _

theorem touches_swept (action : t.action = .sweep) (job : Job) :
    ReflTransGen (Touch platform config t) job (job.swept config t.pre.now) := by
  have expiry : ReflTransGen (Touch platform config t) job
      (job.afterExpiry config.maxAttempts t.pre.now) := by
    unfold Job.afterExpiry
    split
    · next expired =>
      split
      · next exhausted => exact .single (.lost action expired exhausted)
      · next left => exact .single (.expired action expired (by omega))
    · exact .refl
  have deadline (row : Job) : ReflTransGen (Touch platform config t) row
      (row.afterDeadline t.pre.now) := by
    unfold Job.afterDeadline
    split
    · next overdue => exact .single (.overdue action overdue)
    · exact .refl
  have grace (row : Job) : ReflTransGen (Touch platform config t) row
      (row.afterGrace config.cancelGraceMs t.pre.now) := by
    unfold Job.afterGrace
    split
    · next stale => exact .single (.forced action stale)
    · exact .refl
  exact (expiry.trans (deadline _)).trans (grace _)

theorem kept_sweep (action : t.action = .sweep) :
    Kept (Touch platform config t) t.pre.store
      (InferenceGateway.sweep config t.pre.store t.pre.pods t.pre.now).store :=
  Kept.map (get_sweep config t.pre.store t.pre.pods t.pre.now)
    fun _ job _ => touches_swept action job

theorem kept_restart (action : t.action = .restart) :
    Kept (Touch platform config t) t.pre.store (t.pre.restart config).2.store := by
  refine Kept.map (JobStore.get_recoverOnStartup _ _) fun _ job _ => ?_
  split
  · next inFlight => exact .single (.recovered action (by simpa using inFlight))
  · exact .refl

/-! ### Suspended handlers -/

theorem RowChange.of_kept {id : String}
    (kept : Kept (Touch platform config t) t.pre.store t.post.store) :
    RowChange platform config t id (t.pre.store.get id) (t.post.store.get id) := by
  have related := kept id
  revert related
  generalize t.pre.store.get id = before
  generalize t.post.store.get id = after
  rintro (⟨touches⟩ | -)
  · exact .touched touches
  · exact .absent

theorem RowChange.of_same {id : String} (same : t.post.store.jobs = t.pre.store.jobs) :
    RowChange platform config t id (t.pre.store.get id) (t.post.store.get id) :=
  .of_kept (.of_get fun k => by simp only [JobStore.get, same])

/-- The row a creation inserts is the only one it changes. -/
theorem rowChange_created {token : Nat} {creation : Creation} {store : JobStore} (id : String)
    (action : t.action = .advance token .proceed)
    (running : t.pre.tasks.lookup token = some (.creation creation))
    (inserted : t.pre.store.create creation.job = some store)
    (rows : t.post.store = store) (returned : t.post.tasks.lookup token = none) :
    RowChange platform config t id (t.pre.store.get id) (t.post.store.get id) := by
  rw [rows, JobStore.get_create inserted]
  split
  · next same =>
    subst same
    rw [JobStore.get_of_create inserted]
    exact .created action running rfl returned
  · cases t.pre.store.get id with
    | none => exact .absent
    | some job => exact .touched .refl

section Cleanup

open Cleanup

/-- Listing the next root leaves the rows alone unless it was the last one. -/
theorem store_nextRoot (now : Millis) (result : CleanupResult) (stores : Stores)
    (later : List Root) :
    (nextRoot config now result stores later).2.store = stores.store ∨
      (nextRoot config now result stores later).2.store =
        (stores.store.purgeBefore (now - config.jobRetentionMs)).2 := by
  cases later with
  | nil => exact .inr rfl
  | cons root later => exact .inl rfl

theorem store_visit (config : Config) (now : Millis) (result : CleanupResult) (root : Root)
    (later : List Root) (stores : Stores) (entries : List String) :
    (visit config now result root later stores entries).2.store = stores.store ∨
      (visit config now result root later stores entries).2.store =
        (stores.store.purgeBefore (now - config.jobRetentionMs)).2 := by
  induction entries with
  | nil => exact store_nextRoot now result stores later
  | cons entry rest inductionHypothesis =>
    unfold visit
    split
    · exact inductionHypothesis
    · exact .inl rfl

theorem store_expireNext (now : Millis) (result : CleanupResult) (stores : Stores)
    (ids : List String) : (expireNext config now result stores ids).2.store = stores.store := by
  cases ids <;> rfl

theorem rowChange_cleanup {token : Nat} {task : CleanupTask} (id : String)
    (action : t.action = .advance token .proceed)
    (running : t.pre.tasks.lookup token = some (.cleanup task))
    (post : t.post.store = (task.advance config t.pre.toStores).2.store) :
    RowChange platform config t id (t.pre.store.get id) (t.post.store.get id) := by
  have stays (same : t.post.store = t.pre.store) :
      RowChange platform config t id (t.pre.store.get id) (t.post.store.get id) :=
    .of_same (same ▸ rfl)
  unfold CleanupTask.advance at post
  split at post
  · exact stays post
  · next expiring rest stage =>
    dsimp only at post
    rw [store_expireNext] at post
    refine .of_kept ?_
    rw [post]
    have expire : Kept (Touch platform config t) t.pre.store
        (t.pre.store.setArtifacts expiring []) := by
      refine Kept.execute fun job found _ => ?_
      obtain rfl := JobStore.id_of_get found
      exact .mediaExpired action running stage
    refine expire.trans (Kept.execute fun job found _ => ?_)
    obtain rfl := JobStore.id_of_get found
    exact .cleared action running ⟨rest, stage⟩
  · exact stays post
  · next root rest later stage =>
    rcases store_visit config task.now task.result root later t.pre.toStores rest with same | purged
    · exact stays (post.trans same)
    · rw [post, purged, JobStore.get_purgeBefore]
      cases t.pre.store.get id with
      | none => exact .absent
      | some job =>
        cases old : job.finishedAt.any (· < task.now - config.jobRetentionMs) with
        | true =>
          simp only [Option.filter, old]
          exact .purged action running old
        | false =>
          simp only [Option.filter, old]
          exact .touched .refl
  · exact stays post
  · exact stays post

end Cleanup

/-- Nothing else ever happens to a row. -/
theorem rowChange (fires : (gateway platform prepare config).Fires t) (id : String) :
    RowChange platform config t id (t.pre.store.get id) (t.post.store.get id) := by
  obtain ⟨pre, action, reply, post⟩ := t
  have effect : Effect platform config pre action reply post := effect fires
  cases effect with
  | ticked | unadmitted | creating | unnamed | timedOut | released | unaccepted | uploading
  | refused | making | writing | uncreated | streaming | dropped | stored | removed | sweeping
  | drained | shutdown => exact .of_same rfl
  | deleted after =>
    exact .of_kept (kept_deleteVideo rfl (congrArg (·.store) after))
  | @threw _ _ podId => exact .of_kept (kept_renewed platform config podId rfl).1
  | parked named renewed fine | answered named renewed fine =>
    subst renewed
    exact .of_kept (kept_poll rfl named fine)
  | woken found => exact .of_kept (kept_claimFor (claimTurn_resumePoll rfl found) rfl rfl)
  | superseded names ending => exact .of_kept (kept_ending rfl names ending)
  | accepted names ending => exact .of_kept (kept_ending rfl names ending)
  | retried names retries left => exact .of_kept (kept_retry rfl names retries left)
  | created running _ inserted =>
    exact rowChange_created id rfl running inserted rfl (AList.lookup_erase _ _)
  | @finished _ task running =>
    refine .of_kept ?_
    change Kept _ pre.store (if task.clears then pre.store.clearInput task.id else pre.store)
    split
    · exact Kept.execute fun job found _ => .cleared rfl running (JobStore.id_of_get found).symm
    · exact .refl _
  | cleaning running advanced | cleaned running advanced =>
    exact rowChange_cleanup id rfl running (by rw [advanced]; rfl)
  | requeued | swept => exact .of_kept (kept_sweep rfl)
  | restarted => exact .of_kept (kept_restart rfl)

end InferenceGateway
