import InferenceGateway.Runs.Consistency

/-!
# Lease fencing over whole runs

A row is only ever held under the lease of its latest dispatch, a lease is
given up once, and a finished row does not change.  The invariants relate the
rows to the leases minted so far; the history of a run supplies the dispatch.
-/

namespace InferenceGateway

open Library Relation

variable {platform : Platform} {prepare : Prepare} {config : Config} {t : GatewayTransition}

/-- The job is in flight under the lease. -/
def Holds (state : Gateway) (id lease : String) : Prop :=
  ∃ job, state.store.get id = some job ∧ job.holds lease = true

/-- The step takes the job from the queue under a lease it mints for it. -/
structure Dispatches (platform : Platform) (config : Config) (t : GatewayTransition)
    (id lease : String) : Prop where
  queued : ∃ job, t.pre.store.get id = some job ∧ job.state = .queued
  holds : Holds t.post id lease
  minted : ∃ i job, (dispatched config t)[i]? = some job ∧ job.id = id ∧
    lease = platform.newLeaseId (t.pre.leases + i)

/-- The job stops being in flight under the lease. -/
def Consumes (t : GatewayTransition) (id lease : String) : Prop :=
  Holds t.pre id lease ∧ ¬ Holds t.post id lease

theorem action_of_claimTurn {turn : ClaimTurn} (claims : claimTurn config t = some turn) :
    (∃ body sessionId, t.action = .poll body sessionId) ∨ ∃ token, t.action = .resumePoll token := by
  unfold claimTurn at claims
  split at claims
  · next action => exact .inl ⟨_, _, action⟩
  · next action => exact .inr ⟨_, action⟩
  · cases claims

/-- Within a step that claims, rows are renewed and dispatched only: none
comes back to the queue. -/
theorem queued_of_touches {turn : ClaimTurn} (claims : claimTurn config t = some turn)
    {job job' : Job} (touches : ReflTransGen (Touch platform config t) job job')
    (queued : job'.state = .queued) : job = job' := by
  have polls := action_of_claimTurn claims
  induction touches with
  | refl => rfl
  | tail touches touch inductionHypothesis =>
    exfalso
    cases touch with
    | renewed action listed names under holds =>
      obtain ⟨state, -⟩ := holds_iff.mp holds
      simp_all [Update.assign]
    | claimed => cases queued
    | completed reports | acknowledged reports | retried reports | failed reports =>
      obtain ⟨request, action, -⟩ := reports.action
      simp [action] at polls
    | lost action | expired action | overdue action | forced action | cancelled action
    | flagged action | cleared action | mediaExpired action | recovered action =>
      simp [action] at polls

/-- A row comes to be held under a lease by being dispatched under it. -/
theorem holds_of_touches {job job' : Job} {lease : String}
    (touches : ReflTransGen (Touch platform config t) job job')
    (holds : job'.holds lease = true) :
    job.holds lease = true ∨ job.state = .queued ∧ ∃ i, (dispatched config t)[i]? = some job ∧
      lease = platform.newLeaseId (t.pre.leases + i) := by
  induction touches with
  | refl => exact .inl holds
  | tail touches touch inductionHypothesis =>
    cases touch with
    | renewed action listed names under holds' =>
      exact inductionHypothesis (by simpa [Update.assign, Job.holds] using holds)
    | @claimed turn i claims place queued =>
      obtain rfl := queued_of_touches claims touches queued
      refine .inr ⟨queued, i, ?_, ?_⟩
      · rw [dispatched, claims]
        exact place
      · exact (Option.some.inj (holds_iff.mp holds).2).symm
    | completed reports | acknowledged reports | retried reports | failed reports
    | lost action | expired action | overdue action | forced action | cancelled action =>
      cases (holds_iff.mp holds).1
    | flagged | cleared | mediaExpired | recovered => exact inductionHypothesis holds

/-- A row leaves the queue for a pod by being taken in the step's claim. -/
theorem taken_of_touches {job job' : Job}
    (touches : ReflTransGen (Touch platform config t) job job') (queued : job.state = .queued)
    (running : job'.state = .inProgress) :
    ∃ turn, claimTurn config t = some turn ∧ job ∈ turn.taken ∧
      job'.podId = some turn.pod.podId ∧
      job'.leaseExpiresAt = some (t.pre.now + config.leaseTtlMs) := by
  induction touches with
  | refl => cases queued.symm.trans running
  | @tail mid last touches touch inductionHypothesis =>
    cases touch with
    | renewed action listed names under holds =>
      obtain ⟨turn, claims, taken, owner, -⟩ := inductionHypothesis (holds_iff.mp holds).1
      exact ⟨turn, claims, taken, owner, rfl⟩
    | claimed claims place isQueued =>
      obtain rfl := queued_of_touches claims touches isQueued
      exact ⟨_, claims, List.mem_of_getElem? place, rfl, rfl⟩
    | flagged | cleared | mediaExpired => exact inductionHypothesis running
    | recovered action inFlight =>
      obtain ⟨turn, claims, -⟩ := inductionHypothesis inFlight
      rcases action_of_claimTurn claims with ⟨_, _, other⟩ | ⟨_, other⟩ <;>
        cases action.symm.trans other
    | completed | acknowledged | retried | failed | lost | expired | overdue | forced
    | cancelled => cases running

/-- Every lease a row is held under was there before the step, or was minted by it. -/
theorem holds_origin (fires : (gateway platform prepare config).Fires t) {id lease : String}
    (holds : Holds t.post id lease) :
    Holds t.pre id lease ∨ Dispatches platform config t id lease := by
  obtain ⟨job, found, held⟩ := holds
  have change := rowChange fires id
  rw [found] at change
  cases before : t.pre.store.get id with
  | none =>
    rw [before] at change
    cases change with
    | created => cases (holds_iff.mp held).1
  | some job₀ =>
    rw [before] at change
    cases change with
    | touched touches =>
      rcases holds_of_touches touches held with holds | ⟨queued, i, place, minted⟩
      · exact .inl ⟨job₀, before, holds⟩
      · exact .inr ⟨⟨job₀, before, queued⟩, ⟨job, found, held⟩,
          i, job₀, place, JobStore.id_of_get before, minted⟩

/-! ### Leases are unique -/

/-- Rows are held under different leases, all of them minted. -/
structure Leased (platform : Platform) (state : Gateway) : Prop where
  minted : ∀ id lease, Holds state id lease →
    ∃ i < state.leases, lease = platform.newLeaseId i
  unique : ∀ id id' lease, Holds state id lease → Holds state id' lease → id = id'

theorem index_lt {i : Nat} {job : Job} (fires : (gateway platform prepare config).Fires t)
    (place : (dispatched config t)[i]? = some job) : t.pre.leases + i < t.post.leases := by
  have bound := (List.getElem?_eq_some_iff.mp place).1
  rw [(progresses fires).leases]
  omega

theorem leased_step (fires : (gateway platform prepare config).Fires t)
    (leased : Leased platform t.pre) : Leased platform t.post := by
  have grows : t.pre.leases ≤ t.post.leases := (progresses fires).leases ▸ Nat.le_add_right _ _
  have newer {id id' lease : String} (holds : Holds t.pre id lease)
      (dispatches : Dispatches platform config t id' lease) : False := by
    obtain ⟨i, lt, minted⟩ := leased.minted id lease holds
    obtain ⟨j, job, -, -, minted'⟩ := dispatches.minted
    have := platform.newLeaseId_injective (minted.symm.trans minted')
    omega
  constructor
  · intro id lease holds
    rcases holds_origin fires holds with earlier | dispatches
    · obtain ⟨i, lt, minted⟩ := leased.minted id lease earlier
      exact ⟨i, lt.trans_le grows, minted⟩
    · obtain ⟨i, job, place, -, minted⟩ := dispatches.minted
      exact ⟨_, index_lt fires place, minted⟩
  · intro id id' lease holds holds'
    rcases holds_origin fires holds with earlier | dispatches <;>
      rcases holds_origin fires holds' with earlier' | dispatches'
    · exact leased.unique id id' lease earlier earlier'
    · exact (newer earlier dispatches').elim
    · exact (newer earlier' dispatches).elim
    · obtain ⟨i, job, place, rfl, minted⟩ := dispatches.minted
      obtain ⟨j, job', place', rfl, minted'⟩ := dispatches'.minted
      have same := platform.newLeaseId_injective (minted.symm.trans minted')
      obtain rfl : i = j := by omega
      rw [place] at place'
      cases place'
      rfl

theorem leased_of_run {trace : List GatewayTransition} {final : Gateway}
    (run : (gateway platform prepare config).Run (gateway platform prepare config).initial
      trace final) : Leased platform final := by
  refine run.invariant ⟨?_, ?_⟩ fun _ => leased_step
  · rintro id lease ⟨job, found, -⟩
    simp [gateway, Gateway.empty, JobStore.get] at found
  · rintro id id' lease ⟨job, found, -⟩
    simp [gateway, Gateway.empty, JobStore.get] at found

/-- The lease was minted, and no row is held under it any more. -/
def Retired (platform : Platform) (lease : String) (state : Gateway) : Prop :=
  (∃ i < state.leases, lease = platform.newLeaseId i) ∧ ∀ id, ¬ Holds state id lease

theorem retired_step {lease : String} (fires : (gateway platform prepare config).Fires t)
    (retired : Retired platform lease t.pre) : Retired platform lease t.post := by
  obtain ⟨⟨i, lt, minted⟩, unheld⟩ := retired
  have grows : t.pre.leases ≤ t.post.leases := (progresses fires).leases ▸ Nat.le_add_right _ _
  refine ⟨⟨i, lt.trans_le grows, minted⟩, fun id holds => ?_⟩
  rcases holds_origin fires holds with earlier | dispatches
  · exact unheld id earlier
  · obtain ⟨j, job, -, -, minted'⟩ := dispatches.minted
    have := platform.newLeaseId_injective (minted.symm.trans minted')
    omega

theorem retired_of_consumes (fires : (gateway platform prepare config).Fires t)
    (leased : Leased platform t.pre) {id lease : String} (consumes : Consumes t id lease) :
    Retired platform lease t.post := by
  have leased' := leased_step fires leased
  obtain ⟨i, lt, minted⟩ := leased.minted id lease consumes.1
  have grows : t.pre.leases ≤ t.post.leases := (progresses fires).leases ▸ Nat.le_add_right _ _
  refine ⟨⟨i, lt.trans_le grows, minted⟩, fun id' holds => ?_⟩
  rcases holds_origin fires holds with earlier | dispatches
  · exact consumes.2 (leased.unique id id' lease consumes.1 earlier ▸ holds)
  · obtain ⟨j, job, -, -, minted'⟩ := dispatches.minted
    have := platform.newLeaseId_injective (minted.symm.trans minted')
    omega

/-! ### The history of a held lease -/

/-- The latest dispatch of the job was under the lease, and the job has been in
flight under it ever since. -/
def HeldSince (platform : Platform) (config : Config) (history : List GatewayTransition)
    (id lease : String) : Prop :=
  ∃ before claim after, history = before ++ claim :: after ∧
    Dispatches platform config claim id lease ∧
    ∀ u ∈ after, Holds u.pre id lease ∧ Holds u.post id lease ∧
      ∀ lease', ¬ Dispatches platform config u id lease'

theorem not_dispatches_of_holds {id lease lease' : String} (holds : Holds t.pre id lease) :
    ¬ Dispatches platform config t id lease' := by
  rintro ⟨⟨job, found, queued⟩, -, -⟩
  obtain ⟨job', found', held⟩ := holds
  rw [found, Option.some.injEq] at found'
  subst found'
  cases queued.symm.trans (holds_iff.mp held).1

theorem heldSince_of_holds {trace : List GatewayTransition} {final : Gateway}
    (run : (gateway platform prepare config).Run (gateway platform prepare config).initial
      trace final) (id lease : String) :
    Holds final id lease → HeldSince platform config trace id lease := by
  refine run.history (P := fun trace state =>
    Holds state id lease → HeldSince platform config trace id lease) ?_ ?_
  · rintro ⟨job, found, -⟩
    simp [gateway, Gateway.empty, JobStore.get] at found
  · intro before t _ fires inductionHypothesis holds
    rcases holds_origin fires holds with earlier | dispatches
    · obtain ⟨prior, claim, after, rfl, dispatches, since⟩ := inductionHypothesis earlier
      refine ⟨prior, claim, after ++ [t], by simp, dispatches, fun u member => ?_⟩
      rcases List.mem_append.mp member with inside | last
      · exact since u inside
      · obtain rfl := List.mem_singleton.mp last
        exact ⟨earlier, holds, fun _ => not_dispatches_of_holds earlier⟩
    · exact ⟨before, t, [], rfl, dispatches, by simp⟩

/-! ### Results -/

/-- A result under a lease the job is not held under changes nothing at all. -/
theorem result_unheld {state : Gateway} (sound : state.Sound platform) {request : ResultRequest}
    (unheld : ∀ lease, request.leaseId = some lease → ¬ Holds state request.id lease) :
    (state.result config request).2 = state := by
  have unnamed {job : Job} {lease : String} : ¬ Names state request job lease := by
    intro names
    apply unheld lease names.given
    exact ⟨job, names.found, (sound.row request.id job names.found).consistent.holds names.held⟩
  have effect : Effect platform config state (.result request) (state.result config request).1
      (state.result config request).2 := effect_result rfl
  generalize (state.result config request).1 = reply at effect
  generalize (state.result config request).2 = post at effect
  cases effect with
  | refused => rfl
  | superseded names | accepted names | retried names => exact absurd names unnamed

/-- A result touches the row it names once, and takes it out of flight. -/
theorem touches_result {request : ResultRequest} (action : t.action = .result request)
    {job job' : Job} (touches : ReflTransGen (Touch platform config t) job job') :
    job' = job ∨ job.id = request.id ∧ job'.state ≠ .inProgress ∧
      ∃ lease, request.leaseId = some lease ∧ job.holds lease = true := by
  induction touches with
  | refl => exact .inl rfl
  | @tail mid last touches touch inductionHypothesis =>
    have reported : last.state ≠ .inProgress ∧ ∃ lease, Reports t mid lease := by
      cases touch with
      | completed reports | acknowledged reports | retried reports | failed reports =>
        exact ⟨nofun, _, reports⟩
      | claimed claims =>
        rcases action_of_claimTurn claims with ⟨_, _, other⟩ | ⟨_, other⟩ <;>
          cases action.symm.trans other
      | renewed other | lost other | expired other | overdue other | forced other
      | cancelled other | flagged other | cleared other | mediaExpired other
      | recovered other => cases action.symm.trans other
    obtain ⟨left, lease, ⟨request', action', named, given⟩, held⟩ := reported
    cases action.symm.trans action'
    rcases inductionHypothesis with rfl | ⟨-, released, -⟩
    · exact .inr ⟨named.symm, left, lease, given, held⟩
    · exact absurd (holds_iff.mp held).1 released

/-- What a result does to the rows: nothing, or one row leaves the lease it named. -/
theorem row_result (fires : (gateway platform prepare config).Fires t) {request : ResultRequest}
    (action : t.action = .result request) (id : String) :
    t.post.store.get id = t.pre.store.get id ∨ id = request.id ∧
      ∃ lease, request.leaseId = some lease ∧ Consumes t id lease := by
  have change := rowChange fires id
  generalize before : t.pre.store.get id = row at change
  generalize after : t.post.store.get id = row' at change
  cases change with
  | absent => exact .inl rfl
  | created other => cases action.symm.trans other
  | purged other => cases action.symm.trans other
  | @touched job job' touches =>
    rcases touches_result action touches with rfl | ⟨named, left, lease, given, held⟩
    · exact .inl rfl
    · refine .inr ⟨(JobStore.id_of_get before).symm.trans named, lease, given,
        ⟨job, before, held⟩, ?_⟩
      rintro ⟨row, found, holds⟩
      rw [after, Option.some.injEq] at found
      exact left (found ▸ (holds_iff.mp holds).1)

/-- The rest of an accepted result only clears `input_path`. -/
theorem row_finishing (fires : (gateway platform prepare config).Fires t) {token : Nat}
    {event : Event} {task : Finishing} (action : t.action = .advance token event)
    (running : t.pre.tasks.lookup token = some (.finishing task)) (id : String) :
    t.post.store.get id = t.pre.store.get id ∨ id = task.id ∧
      t.post.store.get id = (t.pre.store.get id).map Update.clearInput.assign := by
  obtain ⟨pre, _, reply, post⟩ := t
  obtain rfl := action
  have stepped : pre.advance platform config token event = some (reply, post) := fires
  simp only at running
  simp only [Gateway.advance, running] at stepped
  cases event with
  | proceed =>
    have after := (congrArg (·.2.store) (Option.some.inj stepped)).symm
    simp only [Gateway.advanceFinishing] at after
    split at after
    · exact .inl (by rw [after]; rfl)
    · simp only [Gateway.kick, Gateway.finish, Gateway.withStore] at after
      split at after
      · rw [after, JobStore.clearInput, JobStore.get_execute]
        split
        · next same => exact .inr ⟨same, rfl⟩
        · exact .inl rfl
      · exact .inl (by rw [after])
  | chunk bytes => cases stepped
  | finish => cases stepped
  | abort => cases stepped

/-! ### Finished rows -/

/-- What never changes about a finished job; its media can only expire. -/
structure Job.Settled (job job' : Job) : Prop where
  state : job'.state = job.state
  error : job'.error = job.error
  progress : job'.progress = job.progress
  finishedAt : job'.finishedAt = job.finishedAt
  podId : job'.podId = job.podId
  artifacts : job'.artifacts = job.artifacts ∨ job'.artifacts = []

theorem Job.Settled.trans {first second third : Job} (left : first.Settled second)
    (right : second.Settled third) : first.Settled third where
  state := right.state.trans left.state
  error := right.error.trans left.error
  progress := right.progress.trans left.progress
  finishedAt := right.finishedAt.trans left.finishedAt
  podId := right.podId.trans left.podId
  artifacts := by
    rcases right.artifacts with same | expired
    · exact same ▸ left.artifacts
    · exact .inr expired

/-- The step is a cleanup that expires the media of the job. -/
def ExpiresMedia (t : GatewayTransition) (id : String) : Prop :=
  ∃ token event task rest, t.action = .advance token event ∧
    t.pre.tasks.lookup token = some (.cleanup task) ∧ task.stage = .expired id rest

theorem settled_touch {job job' : Job} (touch : Touch platform config t job job')
    (terminal : job.state.isTerminal = true) :
    job.Settled job' ∧ (job'.artifacts ≠ job.artifacts → ExpiresMedia t job.id) := by
  have inFlight : job.state ≠ .inProgress := by
    intro state
    simp [state, VideoStatus.isTerminal] at terminal
  have waiting : job.state ≠ .queued := by
    intro state
    simp [state, VideoStatus.isTerminal] at terminal
  cases touch with
  | renewed action listed names under holds => exact absurd (holds_iff.mp holds).1 inFlight
  | claimed claims place queued => exact absurd queued waiting
  | completed reports | acknowledged reports | retried reports | failed reports =>
    exact absurd (holds_iff.mp reports.holds).1 inFlight
  | lost action expired | expired action expired =>
    exact absurd (state_of_leaseExpired expired) inFlight
  | overdue action overdue =>
    rcases state_of_isOverdue overdue with queued | flying
    · exact absurd queued waiting
    · exact absurd flying inFlight
  | forced action stale => exact absurd (state_of_cancelStale stale) inFlight
  | cancelled action queued => exact absurd queued waiting
  | flagged action flying => exact absurd flying inFlight
  | cleared action => exact ⟨⟨rfl, rfl, rfl, rfl, rfl, .inl rfl⟩, fun changed => absurd rfl changed⟩
  | mediaExpired action running stage =>
    exact ⟨⟨rfl, rfl, rfl, rfl, rfl, .inr rfl⟩, fun _ => ⟨_, _, _, _, action, running, stage⟩⟩
  | recovered action flying => exact absurd flying inFlight

theorem settled_touches {job job' : Job}
    (touches : ReflTransGen (Touch platform config t) job job')
    (terminal : job.state.isTerminal = true) :
    job.Settled job' ∧ (job'.artifacts ≠ job.artifacts → ExpiresMedia t job.id) := by
  induction touches with
  | refl =>
    exact ⟨⟨rfl, rfl, rfl, rfl, rfl, .inl rfl⟩, fun changed => absurd rfl changed⟩
  | @tail mid last touches touch inductionHypothesis =>
    obtain ⟨settled, expires⟩ := inductionHypothesis
    obtain ⟨settled', expires'⟩ := settled_touch touch (settled.state ▸ terminal)
    refine ⟨settled.trans settled', fun changed => ?_⟩
    by_cases same : mid.artifacts = job.artifacts
    · rw [← (fixed_touches touches).1]
      exact expires' (same ▸ changed)
    · exact expires same

/-- The row of a finished job, once it has one: settled, or purged for good. -/
def SettledAt (platform : Platform) (id : String) (job : Job) (state : Gateway) : Prop :=
  ¬ Unborn platform state id ∧ ∀ job', state.store.get id = some job' → job.Settled job'

theorem settled_step (fires : (gateway platform prepare config).Fires t) {id : String} {job : Job}
    (terminal : job.state.isTerminal = true) (settled : SettledAt platform id job t.pre) :
    SettledAt platform id job t.post := by
  refine ⟨fun unborn => settled.1 (unborn_of_post fires unborn), fun job' found => ?_⟩
  cases before : t.pre.store.get id with
  | none => exact absurd (unborn_of_created fires found before) settled.1
  | some job₀ =>
    have change := rowChange fires id
    rw [found, before] at change
    cases change with
    | touched touches =>
      have settled₀ := settled.2 job₀ before
      exact settled₀.trans (settled_touches touches (settled₀.state ▸ terminal)).1

/-! ### Lease fencing -/

/-- For every run: (a) a result changes something only when the job has been in
flight, without interruption, under the lease it names since the latest
dispatch of the job, which minted that lease; it changes no other row, and the
rest of its handling only clears `input_path`.  (b) Leaving a lease happens once
for each lease, whoever causes it: a result that changes its row does, and later
results under the lease change nothing.  (c) A finished row stays as it is until
it is purged, except that cleanup empties its artifacts. -/
theorem lease_fencing (platform : Platform) (prepare : Prepare) (config : Config)
    (run : GatewayRun platform prepare config) :
    (∀ before t after request, run.trace = before ++ t :: after → t.action = .result request →
      (t.post ≠ t.pre → ∃ lease, request.leaseId = some lease ∧
        Holds t.pre request.id lease ∧ HeldSince platform config before request.id lease) ∧
      ∀ id, t.post.store.get id ≠ t.pre.store.get id → id = request.id ∧
        ∃ lease, request.leaseId = some lease ∧ Consumes t id lease) ∧
    (∀ t ∈ run.trace, ∀ token event task, t.action = .advance token event →
      t.pre.tasks.lookup token = some (.finishing task) → ∀ id,
        t.post.store.get id = t.pre.store.get id ∨ id = task.id ∧
          t.post.store.get id = (t.pre.store.get id).map Update.clearInput.assign) ∧
    (∀ before t middle u after id lease,
      run.trace = before ++ t :: (middle ++ u :: after) → Consumes t id lease →
      (∀ id', ¬ Consumes u id' lease) ∧
        ∀ request, u.action = .result request → request.leaseId = some lease → u.post = u.pre) ∧
    (∀ before t middle u after id job,
      run.trace = before ++ t :: (middle ++ u :: after) → t.post.store.get id = some job →
      job.state.isTerminal = true →
      (∀ job', u.post.store.get id = some job' → job.Settled job') ∧
        ∀ job₀ job', u.pre.store.get id = some job₀ → u.post.store.get id = some job' →
          job'.artifacts ≠ job₀.artifacts → job'.artifacts = [] ∧ ExpiresMedia u id) := by
  have whole := run.run
  refine ⟨?_, ?_, ?_, ?_⟩
  · intro before t after request split action
    rw [split] at whole
    obtain ⟨earlier, fires, -⟩ := whole.split
    refine ⟨fun changed => ?_, fun id changed => (row_result fires action id).resolve_left changed⟩
    have sound := sound_of_run earlier
    have stepped : t.pre.result config request = (t.reply, t.post) := by
      have stepped : t.pre.step platform prepare config t.action = some (t.reply, t.post) := fires
      rw [action] at stepped
      exact Option.some.inj stepped
    by_contra none
    push Not at none
    refine changed ((congrArg Prod.snd stepped).symm.trans (result_unheld sound ?_))
    exact fun lease given holds => none lease given holds (heldSince_of_holds earlier _ _ holds)
  · intro t member token event task action running id
    exact row_finishing (whole.fires_of_mem member) action running id
  · intro before t middle u after id lease split consumes
    rw [split] at whole
    obtain ⟨earlier, fires, later⟩ := whole.split
    have leased := leased_of_run earlier
    obtain ⟨between, fires', -⟩ := later.split
    have retired := between.invariant (retired_of_consumes fires leased consumes)
      fun _ => retired_step
    refine ⟨fun id' again => retired.2 id' again.1, fun request action given => ?_⟩
    have stepped : u.pre.step platform prepare config u.action = some (u.reply, u.post) := fires'
    rw [action] at stepped
    have sound : u.pre.Sound platform :=
      between.invariant (sound_step fires (sound_of_run earlier)) fun _ => sound_step
    refine (congrArg Prod.snd (Option.some.inj stepped)).symm.trans (result_unheld sound ?_)
    intro lease' given' holds
    cases given.symm.trans given'
    exact retired.2 _ holds
  · intro before t middle u after id job split found terminal
    rw [split] at whole
    obtain ⟨earlier, fires, later⟩ := whole.split
    have sound := sound_step fires (sound_of_run earlier)
    obtain ⟨between, fires', -⟩ := later.split
    have start : SettledAt platform id job t.post := by
      refine ⟨fun unborn => ?_, fun job' found' => ?_⟩
      · cases found.symm.trans (get_of_unborn sound.fresh unborn)
      · cases found.symm.trans found'
        exact ⟨rfl, rfl, rfl, rfl, rfl, .inl rfl⟩
    have settled := between.invariant start fun _ fires settled =>
      settled_step fires terminal settled
    refine ⟨fun job' found' => (settled_step fires' terminal settled).2 job' found', ?_⟩
    intro job₀ job' before' after' changed
    have change := rowChange fires' id
    rw [before', after'] at change
    cases change with
    | touched touches =>
      obtain ⟨settled', expires⟩ :=
        settled_touches touches ((settled.2 job₀ before').state ▸ terminal)
      exact ⟨settled'.artifacts.resolve_left changed,
        JobStore.id_of_get before' ▸ expires changed⟩

end InferenceGateway
