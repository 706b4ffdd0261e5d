import InferenceGateway.Runs.Fencing
import InferenceGateway.Runs.Polls
import InferenceGateway.Runs.Renewals

/-!
# Cancels and orphan notices

A row gets its cancel flag from an accepted DELETE, and becomes cancelled by
one, by the sweep that follows it, or by the word of a pod that holds the lease.
What a pod is told to cancel is flagged; what it is told is orphaned, it had
reported under a lease that is given up for good.
-/

namespace InferenceGateway

open Library Relation

variable {platform : Platform} {prepare : Prepare} {config : Config} {t : GatewayTransition}

/-! ### Where a cancel comes from -/

/-- A cancel of the job is on record, or it is cancelled already. -/
def Job.Marked (job : Job) : Prop := job.cancelRequested = true ∨ job.state = .cancelled

/-- The row under the id is marked. -/
def Gateway.Marks (state : Gateway) (id : String) : Prop :=
  ∃ job, state.store.get id = some job ∧ job.Marked

/-- The DELETE of the job is accepted. -/
def Accepts (t : GatewayTransition) (id : String) : Prop :=
  t.action = .deleteVideo id ∧ ∃ status response, t.reply = .video status response

/-- The pod that holds the job reports it as cancelled. -/
def Acknowledges (t : GatewayTransition) (id : String) : Prop :=
  ∃ request lease, t.action = .result request ∧ request.id = id ∧
    request.leaseId = some lease ∧ request.body.state = .string "cancelled" ∧
    Holds t.pre id lease

theorem respondWith_of_get (config : Config) (state : Gateway) (status : Nat) {id : String} {job : Job}
    (found : state.store.get id = some job) :
    (state.respondWith config status id).1 = .video status (state.respond config job) := by
  unfold Gateway.respondWith
  rw [found]

theorem cancelInFlight_cases (state : Gateway) (id : String) (now : Millis) :
    (∃ status response, (state.cancelInFlight config id now).1 = .video status response) ∨
      (state.cancelInFlight config id now).2 = state := by
  unfold Gateway.cancelInFlight
  dsimp only
  split
  · next inFlight =>
    obtain ⟨job, found, -⟩ := (Option.any_eq_true _ _).mp inFlight
    have flagged := JobStore.get_execute_self (.requestCancel now) found
    have answer := respondWith_of_get config
      (state.withStore (state.store.requestCancel id now).2) 202 flagged
    exact .inl ⟨202, _, answer⟩
  · exact .inr rfl

/-- A DELETE that is not accepted leaves every row alone. -/
theorem deleteVideo_cases (config : Config) (state : Gateway) (id : String) :
    (∃ status response, (state.deleteVideo config id).1 = .video status response) ∨
      ∀ k, (state.deleteVideo config id).2.store.get k = state.store.get k := by
  unfold Gateway.deleteVideo
  split
  · exact .inr fun _ => rfl
  · next job found =>
    obtain rfl : job.id = id := JobStore.id_of_get found
    dsimp only
    split
    · next queued =>
      have applies : (state.store.cancelQueued job.id state.now).1 = true := by
        rw [JobStore.cancelQueued, JobStore.execute_fst, found, Option.any_some]
        exact beq_iff_eq.mpr queued
      rw [if_pos applies]
      have cancelled := JobStore.get_execute_self (.cancelQueued state.now) found
      have answer := respondWith_of_get config
        (state.withStore (state.store.cancelQueued job.id state.now).2) 200 cancelled
      exact .inl ⟨200, _, answer⟩
    · refine (cancelInFlight_cases state job.id state.now).imp_right fun same k => ?_
      rw [same]

theorem accepts_or_same (fires : (gateway platform prepare config).Fires t) {id : String}
    (action : t.action = .deleteVideo id) :
    Accepts t id ∨ ∀ k, t.post.store.get k = t.pre.store.get k := by
  obtain ⟨pre, _, reply, post⟩ := t
  obtain rfl := action
  have stepped : pre.deleteVideo config id = (reply, post) := Option.some.inj fires
  have cases := deleteVideo_cases config pre id
  rw [stepped] at cases
  exact cases.imp_left fun accepted => ⟨rfl, accepted⟩

theorem marked_touch {job job' : Job} (touch : Touch platform config t job job')
    (marked : job'.Marked) :
    job.Marked ∨ t.action = .deleteVideo job.id ∨
      ∃ request lease, t.action = .result request ∧ request.id = job.id ∧
        request.leaseId = some lease ∧ request.body.state = .string "cancelled" ∧
        job.holds lease = true := by
  cases touch with
  | cancelled action | flagged action => exact .inr (.inl action)
  | forced action stale =>
    simp only [Job.cancelStale, Bool.and_eq_true] at stale
    exact .inl (.inl stale.1.2)
  | acknowledged reports cancels =>
    obtain ⟨request, action, names, under⟩ := reports.action
    obtain ⟨request', action', state⟩ := cancels
    cases action.symm.trans action'
    exact .inr (.inr ⟨request, _, action, names, under, state, reports.holds⟩)
  | claimed | completed | retried | failed | lost | expired | overdue =>
    rcases marked with requested | state
    · exact .inl (.inl requested)
    · cases state
  | renewed | cleared | mediaExpired | recovered => exact .inl marked

theorem marked_touches {job job' : Job} (touches : ReflTransGen (Touch platform config t) job job')
    (marked : job'.Marked) :
    job.Marked ∨ t.action = .deleteVideo job.id ∨
      ∃ request lease, t.action = .result request ∧ request.id = job.id ∧
        request.leaseId = some lease ∧ request.body.state = .string "cancelled" ∧
        job.holds lease = true := by
  induction touches with
  | refl => exact .inl marked
  | @tail mid last touches touch inductionHypothesis =>
    have id := (fixed_touches touches).1
    rcases marked_touch touch marked with earlier | action | ⟨request, lease, action, rest⟩
    · exact inductionHypothesis earlier
    · exact .inr (.inl (id ▸ action))
    · obtain ⟨names, under, state, holds⟩ := rest
      rcases touches_result action touches with rfl | ⟨-, released, -⟩
      · exact .inr (.inr ⟨request, lease, action, names, under, state, holds⟩)
      · exact absurd (holds_iff.mp holds).1 released

/-- A marked row was marked, or the step accepts a DELETE of it, or the pod that
holds it reports it as cancelled. -/
theorem marks_step (fires : (gateway platform prepare config).Fires t) {id : String}
    (marks : t.post.Marks id) : t.pre.Marks id ∨ Accepts t id ∨ Acknowledges t id := by
  obtain ⟨job, found, marked⟩ := marks
  have change := rowChange fires id
  rw [found] at change
  cases before : t.pre.store.get id with
  | none =>
    rw [before] at change
    cases change with
    | created => rcases marked with requested | state <;> contradiction
  | some job₀ =>
    obtain rfl := JobStore.id_of_get before
    rw [before] at change
    cases change with
    | touched touches =>
      rcases marked_touches touches marked with
        earlier | action | ⟨request, lease, action, names, under, state, holds⟩
      · exact .inl ⟨job₀, before, earlier⟩
      · rcases accepts_or_same fires action with accepts | same
        · exact .inr (.inl accepts)
        · exact .inl ⟨job, by rw [← same, found], marked⟩
      · exact .inr (.inr ⟨request, lease, action, names, under, state, job₀, before, holds⟩)

/-! ### What a poll is told -/

/-- The poll reports the job under a lease it is not held under. -/
def Gateway.Disowns (state : Gateway) (body : PollBody) (id : String) : Prop :=
  ∃ item lease, some item ∈ body.inFlight.getD [] ∧ item.jobId.str = some id ∧
    item.leaseId.str = some lease ∧ ¬ Holds state id lease

section Renewed

variable {state : Gateway} {body : PollBody} {podId sessionId id : String}

theorem disowns_of_orphan
    (member : id ∈ (state.renewed config body podId sessionId).renewing.orphan) :
    state.Disowns body id := by
  rcases orphan_renewAll _ member with none_yet | ⟨item, lease, listed, names, under, unheld⟩
  · cases none_yet
  · refine ⟨item, lease, listed, names, under, ?_⟩
    rintro ⟨job, found, holds⟩
    rw [found, Option.any_some, holds] at unheld
    cases unheld

theorem marks_of_requested
    (requested : ((state.renewed config body podId sessionId).state.store.get id).any
      (·.cancelRequested) = true) : state.Marks id := by
  have renews : Renews state.store (state.renewed config body podId sessionId).state.store :=
    (renewAll_spec config state.now _ ⟨state.store, [], [], []⟩).1
  rw [renews.requested, Option.any_eq_true] at requested
  obtain ⟨job, found, requested⟩ := requested
  exact ⟨job, found, .inl requested⟩

theorem marks_of_cancel (member : id ∈ (state.renewed config body podId sessionId).cancel) :
    state.Marks id := by
  rcases List.mem_append.mp member with renewed | lost
  · rcases cancel_renewAll _ renewed with none_yet | requested
    · cases none_yet
    · obtain ⟨job, found, requested⟩ := (Option.any_eq_true _ _).mp requested
      exact ⟨job, found, .inl requested⟩
  · obtain ⟨job, listed, rfl⟩ := List.mem_map.mp lost
    obtain ⟨inside, unowned⟩ := List.mem_filter.mp listed
    rw [JobStore.listByPod, JobStore.byCreation, List.mem_insertionSort, List.mem_filter] at inside
    apply marks_of_requested
    rw [JobStore.get_of_mem inside.1, Option.any_some]
    exact (Bool.and_eq_true_iff.mp unowned).2

end Renewed

/-- The assignment is of a job the step dispatches, under the lease minted for it. -/
def Grants (platform : Platform) (config : Config) (t : GatewayTransition)
    (assignment : Assignment) : Prop :=
  ∃ (i : Nat) (job : Job), (dispatched config t)[i]? = some job ∧ assignment.jobId = job.id ∧
    assignment.leaseId = platform.newLeaseId (t.pre.leases + i)

theorem grants_of_claim (turn : ClaimTurn) (claims : claimTurn config t = some turn)
    (leases : turn.state.leases = t.pre.leases) {assignment : Assignment}
    (member : assignment ∈
      (turn.state.claimFor platform config turn.pod turn.slots).assignments) :
    Grants platform config t assignment := by
  rw [claimFor_eq, leases] at member
  obtain ⟨i, job, place, assigned⟩ := assignment_at member
  have runs := canRun_of_taken turn.pod turn.slots turn.state.store job (List.mem_of_getElem? place)
  obtain ⟨assignment', assigned', jobId, leaseId⟩ :=
    assignmentFor_ok runs (platform.newLeaseId (t.pre.leases + i))
  cases assigned.symm.trans assigned'
  refine ⟨i, job, ?_, jobId, leaseId⟩
  rw [dispatched, claims]
  exact place

/-- A poll that parks takes along what it will be told. -/
theorem told_of_parks {body : PollBody} {parked : ParkedPoll} (parks : Parks config t body parked) :
    (∀ id ∈ parked.cancel, t.pre.Marks id) ∧ ∀ id ∈ parked.orphan, t.pre.Disowns body id := by
  obtain ⟨sessionId, podId, -, -, -, -, rfl⟩ := parks.poll
  exact ⟨fun _ => marks_of_cancel, fun _ => disowns_of_orphan⟩

/-- What the answer to a poll that does not park tells. -/
theorem told_of_poll (fires : (gateway platform prepare config).Fires t) {body : PollBody}
    {sessionId : String} {response : PollResponse} (action : t.action = .poll body sessionId)
    (reply : t.reply = .poll response) :
    (∀ id ∈ response.cancel, t.pre.Marks id) ∧ (∀ id ∈ response.orphan, t.pre.Disowns body id) ∧
      ∀ assignment ∈ response.assign, Grants platform config t assignment := by
  obtain ⟨pre, _, _, post⟩ := t
  obtain rfl := action
  obtain rfl := reply
  have effect : Effect platform config pre (.poll body sessionId) (.poll response) post :=
    effect fires
  cases effect with
  | answered named renewed fine =>
    subst renewed
    refine ⟨fun id member => ?_, fun id member => disowns_of_orphan member,
      fun assignment member => ?_⟩
    · exact marks_of_cancel (List.mem_eraseDups.mp member)
    · exact grants_of_claim (t := ⟨pre, .poll body sessionId, _, _⟩) _
        (claimTurn_poll rfl named fine) rfl member

/-- What the answer to a parked poll tells: what it took along, and what is dispatched now. -/
theorem told_of_resumed (fires : (gateway platform prepare config).Fires t) {token : Nat}
    {response : PollResponse} (action : t.action = .resumePoll token)
    (reply : t.reply = .poll response) :
    ∃ parked ∈ t.pre.waiters.polls, parked.token = token ∧
      (∀ id ∈ response.cancel, id ∈ parked.cancel) ∧ response.orphan = parked.orphan ∧
      ∀ assignment ∈ response.assign, Grants platform config t assignment := by
  obtain ⟨pre, _, _, post⟩ := t
  obtain rfl := action
  obtain rfl := reply
  have effect : Effect platform config pre (.resumePoll token) (.poll response) post :=
    effect fires
  cases effect with
  | @woken _ parked found =>
    refine ⟨parked, Waiters.mem_polls.mpr (.inr ⟨true, List.mem_of_find?_eq_some found⟩),
      by simpa using List.find?_some found, fun id member => List.mem_eraseDups.mp member, rfl,
      fun assignment member => ?_⟩
    exact grants_of_claim (t := ⟨pre, .resumePoll token, _, _⟩)
      ⟨pre.unpark token, parked.pod, parked.slots⟩ (claimTurn_resumePoll rfl found) rfl member
  | @released _ parked found =>
    refine ⟨parked, Waiters.mem_polls.mpr (.inr ⟨false, List.mem_of_find?_eq_some found⟩),
      by simpa using List.find?_some found, fun id member => List.mem_eraseDups.mp member, rfl, ?_⟩
    intro assignment member
    cases member

/-! ### Leases and the jobs they were minted for -/

/-- The lease was minted, and no job but this one may be held under it. -/
structure Issued (platform : Platform) (state : Gateway) (id lease : String) : Prop where
  minted : ∃ i < state.leases, lease = platform.newLeaseId i
  exclusive : ∀ id', Holds state id' lease → id' = id

theorem issued_step (fires : (gateway platform prepare config).Fires t) {id lease : String}
    (issued : Issued platform t.pre id lease) : Issued platform t.post id lease := by
  obtain ⟨⟨i, lt, minted⟩, exclusive⟩ := issued
  have grows : t.pre.leases ≤ t.post.leases := (progresses fires).leases ▸ Nat.le_add_right _ _
  refine ⟨⟨i, lt.trans_le grows, minted⟩, fun id' holds => ?_⟩
  rcases holds_origin fires holds with earlier | dispatches
  · exact exclusive id' earlier
  · obtain ⟨j, job, -, -, minted'⟩ := dispatches.minted
    have := platform.newLeaseId_injective (minted.symm.trans minted')
    omega

theorem issued_of_grants (fires : (gateway platform prepare config).Fires t)
    (leased : Leased platform t.pre) {assignment : Assignment}
    (grants : Grants platform config t assignment) :
    Issued platform t.post assignment.jobId assignment.leaseId := by
  obtain ⟨i, job, place, jobId, leaseId⟩ := grants
  rw [jobId, leaseId]
  refine ⟨⟨_, index_lt fires place, rfl⟩, fun id' holds => ?_⟩
  rcases holds_origin fires holds with earlier | dispatches
  · obtain ⟨j, lt, minted⟩ := leased.minted id' _ earlier
    have := platform.newLeaseId_injective minted
    omega
  · obtain ⟨j, job', place', rfl, minted⟩ := dispatches.minted
    have same := platform.newLeaseId_injective minted
    obtain rfl : i = j := by omega
    cases place.symm.trans place'
    rfl

/-- What its own job is not held under, nothing is ever held under again. -/
theorem Issued.retired {state : Gateway} {id lease : String} (issued : Issued platform state id lease)
    (unheld : ¬ Holds state id lease) : Retired platform lease state :=
  ⟨issued.minted, fun id' holds => unheld (issued.exclusive id' holds ▸ holds)⟩

end InferenceGateway
