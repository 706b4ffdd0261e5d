import InferenceGateway.Runs.Consistency
import InferenceGateway.Runs.Polls

/-!
# No lost wakeup

Every turn that makes a job claimable wakes all parked polls before it ends,
and a poll parks only after a claim that found nothing it could run.
-/

namespace InferenceGateway

open Library Relation

variable {platform : Platform} {prepare : Prepare} {config : Config} {t : GatewayTransition}

/-- No job comes to be queued by the step. -/
def QueuesNothing (t : GatewayTransition) : Prop :=
  ∀ id job', t.post.store.get id = some job' → job'.state = .queued →
    ∃ job, t.pre.store.get id = some job ∧ job.state = .queued ∧ job.model = job'.model

/-- The poll can run no queued job. -/
def FindsNothing (state : Gateway) (parked : ParkedPoll) : Prop :=
  ∀ id job, state.store.get id = some job → job.state = .queued →
    parked.pod.model ≠ some job.model

/-- Nobody is left waiting. -/
def WakesAll (t : GatewayTransition) : Prop := t.post.waiters.waiting = []

theorem queuesNothing_of_jobs (same : t.post.store.jobs = t.pre.store.jobs) :
    QueuesNothing t := by
  intro id job found queued
  refine ⟨job, ?_, queued, rfl⟩
  rw [← found, JobStore.get, JobStore.get, same]

/-- A row returns to the queue through a result or a sweep only. -/
theorem queued_touches {job job' : Job} (touches : ReflTransGen (Touch platform config t) job job')
    (queued : job'.state = .queued) :
    job.state = .queued ∨ (∃ request, t.action = .result request) ∨ t.action = .sweep := by
  induction touches with
  | refl => exact .inl queued
  | tail _ touch inductionHypothesis =>
    cases touch with
    | renewed | cleared | mediaExpired | recovered | flagged => exact inductionHypothesis queued
    | claimed | completed | acknowledged | failed | lost | overdue | forced | cancelled =>
      cases queued
    | retried reports left =>
      obtain ⟨request, action, -⟩ := reports.action
      exact .inr (.inl ⟨request, action⟩)
    | expired action => exact .inr (.inr action)

/-- Outside results, sweeps and creations nothing comes to be queued. -/
theorem queuesNothing_of_action (fires : (gateway platform prepare config).Fires t)
    (result : ∀ request, t.action ≠ .result request) (sweep : t.action ≠ .sweep)
    (uncreated : ∀ id, t.pre.store.get id = none → t.post.store.get id = none) :
    QueuesNothing t := by
  intro id job' found queued
  have change := rowChange fires id
  cases earlier : t.pre.store.get id with
  | none => cases found.symm.trans (uncreated id earlier)
  | some job =>
    rw [found, earlier] at change
    cases change with
    | touched touches =>
      refine ⟨job, rfl, ?_, (fixed_touches touches).2.2.symm⟩
      rcases queued_touches touches queued with queued | ⟨request, action⟩ | action
      · exact queued
      · exact absurd action (result request)
      · exact absurd action sweep

/-- Only a creation adds a row. -/
theorem uncreated_of_action (fires : (gateway platform prepare config).Fires t)
    (advance : ∀ token c, t.action = .advance token .proceed →
      t.pre.tasks.lookup token ≠ some (.creation c)) (id : String)
    (absent : t.pre.store.get id = none) : t.post.store.get id = none := by
  cases found : t.post.store.get id with
  | none => rfl
  | some job =>
    obtain ⟨k, c, action, running, -⟩ := row_origin fires found absent
    exact absurd running (advance k c action)

/-! ### Polls -/

theorem modelNames_eq {first second : String} (left : first ∈ modelNames)
    (right : second ∈ modelNames) : first = second := by
  simp only [modelNames, models, List.map_cons, List.map_nil, List.mem_singleton] at left right
  rw [left, right]

/-- With a single registered model, a claim that takes nothing leaves no queued
job the pod could run. -/
theorem findsNothing_of_taken {state : Gateway} (registered : ∀ id job,
    state.store.get id = some job → job.model ∈ modelNames) {pod : Pod} {slots : Nat}
    (free : 0 < slots) (nothing : state.store.taken pod slots = []) {id : String} {job : Job}
    (found : state.store.get id = some job) (queued : job.state = .queued) :
    pod.model ≠ some job.model := by
  intro serves
  have runs {other : Job} (member : other ∈ state.store.jobs.rows) : pod.canRun other = true := by
    have known := registered other.id other (JobStore.get_of_mem member)
    have same : other.model = job.model := modelNames_eq known (registered id job found)
    simp [Pod.canRun, serves, same, getModel_isSome_of_mem (registered id job found)]
  have waiting : state.store.listQueued 100 ≠ [] := by
    intro empty
    rw [JobStore.listQueued, List.take_eq_nil_iff] at empty
    have none_queued := empty.resolve_left (by decide)
    have member : job ∈ JobStore.byCreation
        (state.store.jobs.rows.filter fun job => job.state == .queued) := by
      rw [JobStore.byCreation, List.mem_insertionSort, List.mem_filter]
      exact ⟨JobStore.mem_of_get found, by simp [queued]⟩
    rw [none_queued] at member
    cases member
  obtain ⟨first, rest, oldest⟩ := List.exists_cons_of_ne_nil waiting
  have stored : first ∈ state.store.jobs.rows := by
    obtain ⟨present, -⟩ := (queued_listQueued state.store 100).2 first (oldest ▸ .head _)
    exact JobStore.mem_of_get present
  obtain ⟨more, rfl⟩ : ∃ more, slots = more + 1 := ⟨slots - 1, by omega⟩
  unfold JobStore.taken JobStore.eligible at nothing
  rw [oldest, List.filter_cons_of_pos (runs stored)] at nothing
  cases nothing

/-! ### Results and sweeps -/

/-- A statement that never queues a row leaves the queue alone. -/
theorem queuesNothing_execute {id : String} {statement : Update}
    (ends : ∀ job, (statement.assign job).state ≠ .queued)
    (after : t.post.store = (t.pre.store.execute id statement).2) : QueuesNothing t := by
  intro k job' found queued
  rw [after, JobStore.get_execute] at found
  split at found
  · obtain ⟨job, present, rfl⟩ := Option.map_eq_some_iff.mp found
    unfold Update.run at queued ⊢
    split at queued
    · exact absurd queued (ends job)
    · next refused => exact ⟨job, present, queued, by rw [if_neg refused]⟩
  · exact ⟨job', found, queued, rfl⟩

/-- A result ends its job for good. -/
theorem queuesNothing_ending {request : ResultRequest} {lease : String} {now : Millis}
    {statement : Update} (ending : Ending request lease now statement)
    (after : t.post.store = (t.pre.store.execute request.id statement).2) : QueuesNothing t := by
  apply queuesNothing_execute _ after
  intro job
  cases ending <;> exact nofun

/-- A row a sweep leaves queued was queued, or its lease expired with attempts left. -/
theorem queued_swept {job : Job} {now : Millis} (queued : (job.swept config now).state = .queued) :
    job.state = .queued ∨ job.leaseExpired now = true ∧ job.attempts < config.maxAttempts := by
  unfold Job.swept at queued
  have second : ((job.afterExpiry config.maxAttempts now).afterDeadline now).state = .queued := by
    unfold Job.afterGrace at queued
    split at queued
    · cases queued
    · exact queued
  have first : (job.afterExpiry config.maxAttempts now).state = .queued := by
    unfold Job.afterDeadline at second
    split at second
    · cases second
    · exact second
  unfold Job.afterExpiry at first
  split at first
  · next expired =>
    split at first
    · cases first
    · exact .inr ⟨expired, by omega⟩
  · exact .inl first

/-- A sweep that requeued nothing leaves no row queued that was not. -/
theorem queuesNothing_sweep
    (none_expired : (sweep config t.pre.store t.pre.pods t.pre.now).result.requeued = 0)
    (after : t.post.store = (sweep config t.pre.store t.pre.pods t.pre.now).store) :
    QueuesNothing t := by
  intro id job' found queued
  rw [after, get_sweep] at found
  obtain ⟨job, present, rfl⟩ := Option.map_eq_some_iff.mp found
  rcases queued_swept queued with waiting | ⟨expired, left⟩
  · exact ⟨job, present, waiting, (model_swept config _ job).symm⟩
  · have requeued := requeued_sweep t.pre.pods (JobStore.mem_of_get present) expired left
    exact absurd none_expired requeued.ne'

/-! ### Every step -/

/-- Whatever makes a job claimable wakes everybody in the same turn. -/
theorem wakes (fires : (gateway platform prepare config).Fires t) :
    WakesAll t ∨ QueuesNothing t := by
  obtain ⟨pre, action, reply, post⟩ := t
  have effect : Effect platform config pre action reply post := effect fires
  cases effect with
  | retried | created | finished | requeued => exact .inl rfl
  | ticked | unadmitted | creating | unnamed | timedOut | released | unaccepted | uploading
  | refused | making | writing | uncreated | streaming | dropped | stored | removed | sweeping
  | drained | shutdown => exact .inr (queuesNothing_of_jobs rfl)
  | superseded names ending | accepted names ending =>
    exact .inr (queuesNothing_ending ending rfl)
  | swept none_expired => exact .inr (queuesNothing_sweep none_expired rfl)
  | deleted | threw | parked | answered | woken | restarted =>
    apply Or.inr
    exact queuesNothing_of_action fires (by simp) (by simp) (uncreated_of_action fires (by simp))
  | cleaning running | cleaned running =>
    apply Or.inr
    apply queuesNothing_of_action fires (by simp) (by simp)
    apply uncreated_of_action fires
    intro token creation same creates
    cases same
    cases running.symm.trans creates

/-- Whoever is parked can run no queued job. -/
theorem findsNothing_step (fires : (gateway platform prepare config).Fires t)
    (sound : t.pre.Sound platform)
    (parked : ∀ poll ∈ t.pre.waiters.waiting, FindsNothing t.pre poll) :
    ∀ poll ∈ t.post.waiters.waiting, FindsNothing t.post poll := by
  intro poll member
  rcases wakes fires with woken | quiet
  · rw [WakesAll] at woken
    rw [woken] at member
    cases member
  · have earlier (before : poll ∈ t.pre.waiters.waiting) : FindsNothing t.post poll := by
      intro id job found queued
      obtain ⟨job₀, before', queued₀, model⟩ := quiet id job found queued
      rw [← model]
      exact parked poll before id job₀ before' queued₀
    cases waitersChange fires with
    | same waiters => exact earlier (waiters ▸ member)
    | kicked waiters =>
      rw [waiters] at member
      cases member
    | gaveUp waiters =>
      rw [waiters] at member
      exact earlier (List.mem_filter.mp member).1
    | parked parks nothing waiters =>
      rw [waiters] at member
      rcases List.mem_append.mp member with before | last
      · exact earlier before
      · obtain rfl := List.mem_singleton.mp last
        have registered := (sound_step fires sound).row
        intro id job found queued
        apply findsNothing_of_taken _ parks.free nothing found queued
        exact fun id job found => (registered id job found).registered
    | resumed action waiters =>
      rw [waiters] at member
      exact earlier member
    | restarted action waiters =>
      rw [waiters] at member
      cases member

/-- In every reachable state, a parked poll finds no queued job of its model. -/
theorem no_lost_wakeup (platform : Platform) (prepare : Prepare) (config : Config)
    (run : GatewayRun platform prepare config) (parked : ParkedPoll)
    (waiting : parked ∈ run.final.waiters.waiting) (job : Job)
    (member : job ∈ run.final.store.jobs.rows) (queued : job.state = .queued) :
    parked.pod.model ≠ some job.model := by
  have invariant : run.final.Sound platform ∧
      ∀ poll ∈ run.final.waiters.waiting, FindsNothing run.final poll := by
    apply run.run.invariant (P := fun state => state.Sound platform ∧
      ∀ poll ∈ state.waiters.waiting, FindsNothing state poll)
    · refine ⟨sound_of_run .nil, fun poll absent => ?_⟩
      cases absent
    · intro t fires ⟨sound, nothing⟩
      exact ⟨sound_step fires sound, findsNothing_step fires sound nothing⟩
  exact invariant.2 parked waiting job.id job (JobStore.get_of_mem member) queued

/-- A pod of another model parks beside a queued job. -/
def sampleIdle : List Action :=
  [.poll { samplePoll "pod-a" [] with waitS := .number 0 } "session",
    .createVideo sampleVideo, .advance 0 .proceed, .advance 0 .proceed, .advance 0 .proceed,
    .poll { samplePoll "pod-b" [] with modelPath := .string "another model" } "session"]

theorem no_lost_wakeup_sample :
    ∃ parked ∈ (sampleRun .default sampleIdle (by decide +kernel)).final.waiters.waiting,
      ∃ job ∈ (sampleRun .default sampleIdle (by decide +kernel)).final.store.jobs.rows,
        job.state = .queued ∧ parked.pod.model ≠ some job.model := by
  have parks : 0 < (sampleRun .default sampleIdle
      (by decide +kernel)).final.waiters.waiting.length := by decide +kernel
  have created : 0 < (sampleRun .default sampleIdle
      (by decide +kernel)).final.store.jobs.rows.length := by decide +kernel
  have queued : ∀ job ∈ (sampleRun .default sampleIdle
      (by decide +kernel)).final.store.jobs.rows, job.state = .queued := by decide +kernel
  exact ⟨_, List.get_mem _ ⟨0, parks⟩, _, List.get_mem _ ⟨0, created⟩,
    queued _ (List.get_mem _ ⟨0, created⟩),
    no_lost_wakeup .counting samplePrepare .default _ _ (List.get_mem _ ⟨0, parks⟩) _
      (List.get_mem _ ⟨0, created⟩) (queued _ (List.get_mem _ ⟨0, created⟩))⟩

end InferenceGateway
