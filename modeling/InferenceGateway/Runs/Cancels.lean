import InferenceGateway.Runs.Attempts

/-!
# A client's cancel

The updates that put a job back into the queue do not look at its cancel flag.
A cancelled job stays out of the queue as long as none of them meets it.
-/

namespace InferenceGateway

open Library Relation

variable {platform : Platform} {prepare : Prepare} {config : Config} {t : GatewayTransition}

/-- The DELETE leaves the job in flight with a cancel requested at that time. -/
structure Flags (t : GatewayTransition) (id : String) (requestedAt : Millis) : Prop where
  action : t.action = .deleteVideo id
  flagged : ∃ job, t.post.store.get id = some job ∧ job.state = .inProgress ∧
    job.cancelRequested = true ∧ job.cancelRequestedAt = some requestedAt

/-- The step meets a cancelled job with an update that puts it back into the queue. -/
inductive RequeuesCancelled (config : Config) (t : GatewayTransition) (id : String) : Prop where
  | expired {job : Job} (action : t.action = .sweep) (found : t.pre.store.get id = some job)
      (requested : job.cancelRequested = true) (expired : job.leaseExpired t.pre.now = true)
      (left : job.attempts < config.maxAttempts) (inTime : job.isOverdue t.pre.now = false)
  | retried {job : Job} {request : ResultRequest} {lease : String}
      (action : t.action = .result request) (names : request.id = id)
      (found : t.pre.store.get id = some job) (requested : job.cancelRequested = true)
      (under : request.leaseId = some lease) (holds : job.holds lease = true)
      (retries : request.body.Retries) (left : job.attempts < config.maxAttempts)

/-- Finished, or in flight with the cancel on record. -/
def Job.Cancelling (job : Job) (requestedAt : Millis) : Prop :=
  job.state.isTerminal = true ∨
    job.state = .inProgress ∧ job.cancelRequested = true ∧ job.cancelRequestedAt = some requestedAt

/-! ### Sweeps -/

theorem afterGrace_of_terminal {job : Job} (cancelGraceMs now : Millis)
    (terminal : job.state.isTerminal = true) : job.afterGrace cancelGraceMs now = job := by
  unfold Job.afterGrace
  split
  · next stale =>
    rw [state_of_cancelStale stale] at terminal
    cases terminal
  · rfl

theorem swept_of_terminal {job : Job} (now : Millis)
    (terminal : (job.afterExpiry config.maxAttempts now).state.isTerminal = true) :
    job.swept config now = job.afterExpiry config.maxAttempts now := by
  have inTime : (job.afterExpiry config.maxAttempts now).afterDeadline now =
      job.afterExpiry config.maxAttempts now := by
    unfold Job.afterDeadline
    split
    · next overdue =>
      rcases state_of_isOverdue overdue with state | state <;>
        · rw [state] at terminal
          cases terminal
    · rfl
  unfold Job.swept
  rw [inTime, afterGrace_of_terminal _ _ terminal]

/-- A sweep ends a cancelled job in flight, or leaves it alone within the grace
period, unless it requeues it. -/
theorem swept_cancelling {job : Job} {now requestedAt : Millis} (running : job.state = .inProgress)
    (requested : job.cancelRequested = true) (since : job.cancelRequestedAt = some requestedAt)
    (kept : job.leaseExpired now = true → job.attempts < config.maxAttempts →
      job.isOverdue now = true) :
    (job.swept config now).state.isTerminal = true ∨
      job.swept config now = job ∧ now ≤ requestedAt + config.cancelGraceMs := by
  have overdue_terminal {row : Job} (overdue : row.isOverdue now = true) :
      ((row.afterDeadline now).afterGrace config.cancelGraceMs now).state.isTerminal = true := by
    rw [afterGrace_of_terminal] <;> simp [Job.afterDeadline, overdue, Update.assign,
      VideoStatus.isTerminal]
  by_cases expired : job.leaseExpired now = true
  · by_cases left : job.attempts < config.maxAttempts
    · -- Requeued by the first loop, failed by the second.
      have overdue := kept expired left
      have queued : job.afterExpiry config.maxAttempts now =
          (Update.requeue job.leaseId "lease expired").assign job := by
        rw [Job.afterExpiry, if_pos expired, if_neg (Nat.not_le.mpr left)]
      apply Or.inl
      rw [Job.swept, queued]
      apply overdue_terminal
      simp only [Job.isOverdue, Bool.and_eq_true, decide_eq_true_eq] at overdue
      simp [Job.isOverdue, Update.assign, overdue.2]
    · have failed : job.afterExpiry config.maxAttempts now =
          (Update.fail job.leaseId (podLost job.attempts) now).assign job := by
        rw [Job.afterExpiry, if_pos expired, if_pos (Nat.not_lt.mp left)]
      apply Or.inl
      rw [swept_of_terminal] <;> simp [failed, Update.assign, VideoStatus.isTerminal]
  · have same : job.afterExpiry config.maxAttempts now = job := by
      rw [Job.afterExpiry, if_neg expired]
    by_cases overdue : job.isOverdue now = true
    · apply Or.inl
      rw [Job.swept, same]
      exact overdue_terminal overdue
    · have inTime : job.afterDeadline now = job := by
        rw [Job.afterDeadline, if_neg overdue]
      by_cases stale : job.cancelStale (now - config.cancelGraceMs) = true
      · apply Or.inl
        rw [Job.swept, same, inTime, Job.afterGrace, if_pos stale]
        rfl
      · apply Or.inr
        refine ⟨by rw [Job.swept, same, inTime, Job.afterGrace, if_neg stale], ?_⟩
        simp only [Job.cancelStale, running, requested, since, beq_self_eq_true, Bool.and_self,
          Option.any_some, Bool.true_and, decide_eq_true_eq, not_lt] at stale
        exact sub_le_iff_le_add.mp stale

theorem store_swept (fires : (gateway platform prepare config).Fires t)
    (action : t.action = .sweep) (id : String) :
    t.post.store.get id = (t.pre.store.get id).map (Job.swept config t.pre.now) := by
  obtain ⟨pre, _, reply, post⟩ := t
  obtain rfl := action
  have effect : Effect platform config pre .sweep reply post := effect fires
  cases effect with
  | requeued | swept => exact get_sweep config pre.store pre.pods pre.now id

/-! ### Every other step -/

theorem cancelling_touches {requestedAt : Millis} {job job' : Job}
    (touches : ReflTransGen (Touch platform config t) job job')
    (unswept : t.action ≠ .sweep) (kept : ¬ RequeuesCancelled config t job.id)
    (found : t.pre.store.get job.id = some job) (running : job.state = .inProgress)
    (requested : job.cancelRequested = true) (since : job.cancelRequestedAt = some requestedAt) :
    job'.Cancelling requestedAt := by
  induction touches with
  | refl => exact .inr ⟨running, requested, since⟩
  | @tail mid last touches touch inductionHypothesis =>
    rcases inductionHypothesis with terminal | ⟨running', requested', since'⟩
    · exact .inl ((settled_touch touch terminal).1.state ▸ terminal)
    cases touch with
    | completed | acknowledged | failed => exact .inl rfl
    | lost action | expired action | overdue action | forced action => exact absurd action unswept
    | claimed claims place queued => cases queued.symm.trans running'
    | cancelled action queued => cases queued.symm.trans running'
    | renewed | cleared | mediaExpired | recovered => exact .inr ⟨running', requested', since'⟩
    | flagged action inFlight =>
      refine .inr ⟨running', rfl, ?_⟩
      simp [Update.assign, since']
    | @retried lease _ reports left retries =>
      -- Within a result nothing touches the row before it is requeued.
      obtain ⟨request, action, names, under⟩ := reports.action
      obtain ⟨request', action', retries⟩ := retries
      cases action.symm.trans action'
      exfalso
      rcases touches_result action touches with rfl | ⟨-, released, -⟩
      · exact kept (.retried action names found requested under reports.holds retries left)
      · exact released running'

/-- Once cancelled, the job stays out of the queue. -/
def CancellingAt (platform : Platform) (id : String) (requestedAt : Millis) (state : Gateway) :
    Prop :=
  ¬ Unborn platform state id ∧ ∀ job, state.store.get id = some job → job.Cancelling requestedAt

theorem cancelling_step (fires : (gateway platform prepare config).Fires t) {id : String}
    {requestedAt : Millis} (kept : ¬ RequeuesCancelled config t id)
    (cancelling : CancellingAt platform id requestedAt t.pre) :
    CancellingAt platform id requestedAt t.post := by
  refine ⟨fun unborn => cancelling.1 (unborn_of_post fires unborn), fun job found => ?_⟩
  cases before : t.pre.store.get id with
  | none => exact absurd (unborn_of_created fires found before) cancelling.1
  | some job₀ =>
    have change := rowChange fires id
    rw [before, found] at change
    cases change with
    | touched touches =>
      rcases cancelling.2 job₀ before with terminal | ⟨running, requested, since⟩
      · exact .inl ((settled_touches touches terminal).1.state ▸ terminal)
      · by_cases action : t.action = .sweep
        · have after := store_swept fires action id
          rw [found, before, Option.map_some, Option.some.injEq] at after
          subst after
          rcases swept_cancelling running requested since (fun expired left => by
            by_contra inTime
            exact kept (.expired action before requested expired left (by simpa using inTime)))
            with terminal | ⟨same, -⟩
          · exact .inl terminal
          · rw [same]
            exact .inr ⟨running, requested, since⟩
        · obtain rfl := JobStore.id_of_get before
          exact cancelling_touches touches action kept before running requested since

/-- Once a DELETE has flagged a job, no claim dispatches it any more, and a sweep
after the grace period finds or makes it terminal, in every run none of whose
steps puts the cancelled job back into the queue. -/
theorem cancel_sticks (platform : Platform) (prepare : Prepare) (config : Config)
    (run : GatewayRun platform prepare config)
    {before middle after : List GatewayTransition} {cancel t : GatewayTransition}
    (split : run.trace = before ++ cancel :: (middle ++ t :: after)) {id : String}
    {requestedAt : Millis} (flags : Flags cancel id requestedAt)
    (kept : ∀ u ∈ middle ++ [t], ¬ RequeuesCancelled config u id) :
    claimsJob id t = false ∧
      (t.action = .sweep → requestedAt + config.cancelGraceMs < t.pre.now →
        ∀ job, t.post.store.get id = some job → job.state.isTerminal = true) := by
  have whole := run.run
  rw [split] at whole
  obtain ⟨earlier, cancels, rest⟩ := whole.split
  obtain ⟨between, fires, -⟩ := rest.split
  have start : CancellingAt platform id requestedAt cancel.post := by
    obtain ⟨job, found, running, requested, since⟩ := flags.flagged
    refine ⟨fun unborn => ?_, fun job' found' => ?_⟩
    · cases found.symm.trans
        (get_of_unborn (fresh_of_run (earlier.snoc cancels)) unborn)
    · cases found.symm.trans found'
      exact .inr ⟨running, requested, since⟩
  have cancelling : CancellingAt platform id requestedAt t.pre := by
    apply between.preserves start
    exact fun u inside fires => cancelling_step fires (kept u (List.mem_append_left _ inside))
  constructor
  · cases found : t.pre.store.get id with
    | none => simp [claimsJob, found]
    | some job =>
      rcases cancelling.2 job found with terminal | ⟨running, -⟩
      · cases state : job.state <;> simp_all [claimsJob, VideoStatus.isTerminal]
      · simp [claimsJob, found, running]
  · intro action late job found
    have after := store_swept fires action id
    rw [found] at after
    obtain ⟨job₀, before, rfl⟩ := Option.map_eq_some_iff.mp after.symm
    rcases cancelling.2 job₀ before with terminal | ⟨running, requested, since⟩
    · have change := rowChange fires id
      rw [before, found] at change
      cases change with
      | touched touches => exact (settled_touches touches terminal).1.state ▸ terminal
    · rcases swept_cancelling running requested since (fun expired left => by
        by_contra inTime
        exact kept t (by simp)
          (.expired action before requested expired left (by simpa using inTime)))
        with terminal | ⟨-, early⟩
      · exact terminal
      · exact absurd late (not_lt.mpr early)

/-- In the run no cancelled job is claimed, and every sweep after the grace
period leaves it finished. -/
def CancelSticks (run : GatewayRun platform prepare config) : Prop :=
  ∀ before cancel middle t after id requestedAt,
    run.trace = before ++ cancel :: (middle ++ t :: after) → Flags cancel id requestedAt →
    claimsJob id t = false ∧
      (t.action = .sweep → requestedAt + config.cancelGraceMs < t.pre.now →
        ∀ job, t.post.store.get id = some job → job.state.isTerminal = true)

/-- The sample job is claimed, and cancelled at once. -/
def sampleCancel (between : List Action) (last : Action) : List Action :=
  (sampleStart ++ [.resumePoll 0]) ++ .deleteVideo "v" :: (between ++ last :: [])

/-- The sample DELETE flags the job. -/
theorem flags_sample (run : GatewayRun platform prepare config) {cancel : GatewayTransition}
    (place : run.trace[6]? = some cancel) (action : cancel.action = .deleteVideo "v")
    (flagged : run.trace[6]?.all (fun t => (t.post.store.get "v").any fun job =>
      job.state == .inProgress && job.cancelRequested && job.cancelRequestedAt == some 0) = true) :
    Flags cancel "v" 0 := by
  rw [place, Option.all_some, Option.any_eq_true] at flagged
  obtain ⟨job, found, columns⟩ := flagged
  simp only [Bool.and_eq_true, beq_iff_eq] at columns
  exact ⟨action, job, found, columns.1.1, columns.1.2, columns.2⟩

/-- The pod of the sample job stays silent; the sweep after the grace period cancels it. -/
theorem cancel_sticks_sample :
    ∃ before cancel middle t after,
      (sampleRun .default (sampleCancel [.tick 61000] .sweep) (by decide +kernel)).trace =
        before ++ cancel :: (middle ++ t :: after) ∧ t.action = .sweep ∧
      ∀ job, t.post.store.get "v" = some job → job.state.isTerminal = true := by
  obtain ⟨before, cancel, middle, t, after, split, cancels, sweeps, between, first, last⟩ :=
    Machine.Execution.perform_split₂ (show ((gateway .counting samplePrepare .default).exec
      Gateway.empty (sampleCancel [.tick 61000] .sweep)).isSome by decide +kernel)
  have inTime : (sampleRun .default (sampleCancel [.tick 61000] .sweep)
      (by decide +kernel)).trace[6 + 1 + 1]?.all (fun u => decide (u.pre.now = 61000) &&
        (u.pre.store.get "v").all fun job => !job.leaseExpired u.pre.now) = true := by
    decide +kernel
  rw [show (sampleRun .default (sampleCancel [.tick 61000] .sweep)
    (by decide +kernel)).trace[6 + 1 + 1]? = some t from last, Option.all_some, Bool.and_eq_true,
    decide_eq_true_eq] at inTime
  have flags := flags_sample (sampleRun .default (sampleCancel [.tick 61000] .sweep)
    (by decide +kernel)) first cancels (by decide +kernel)
  have sticks := cancel_sticks .counting samplePrepare .default _ split flags (by
    intro u member requeues
    rcases List.mem_append.mp member with inside | same
    · have named : u.action ∈ middle.map Library.Transition.action := List.mem_map_of_mem inside
      rw [between, List.mem_singleton] at named
      cases requeues with
      | expired action => cases named.symm.trans action
      | retried action => cases named.symm.trans action
    · obtain rfl := List.mem_singleton.mp same
      cases requeues with
      | expired action found requested expired =>
        rw [found, Option.all_some, expired] at inTime
        cases inTime.2
      | retried action => cases sweeps.symm.trans action)
  exact ⟨before, cancel, middle, t, after, split, sweeps,
    sticks.2 sweeps (by rw [inTime.1]; decide)⟩

/-- The lease of a cancelled job expires, and another pod is given the job. -/
theorem not_cancelSticks :
    ¬ CancelSticks (sampleRun .default (sampleCancel [.tick 130000, .sweep]
      (.poll (samplePoll "pod-b" []) "session")) (by decide +kernel)) := by
  intro sticks
  obtain ⟨before, cancel, middle, t, after, split, cancels, -, -, first, last⟩ :=
    Machine.Execution.perform_split₂ (show ((gateway .counting samplePrepare .default).exec
      Gateway.empty (sampleCancel [.tick 130000, .sweep]
        (.poll (samplePoll "pod-b" []) "session"))).isSome by decide +kernel)
  have claimed : (sampleRun .default (sampleCancel [.tick 130000, .sweep]
      (.poll (samplePoll "pod-b" []) "session")) (by decide +kernel)).trace[6 + 1 + 2]?.all
        (claimsJob "v") = true := by decide +kernel
  rw [show (sampleRun .default (sampleCancel [.tick 130000, .sweep]
    (.poll (samplePoll "pod-b" []) "session")) (by decide +kernel)).trace[6 + 1 + 2]? = some t
    from last, Option.all_some] at claimed
  have flags := flags_sample (sampleRun .default (sampleCancel [.tick 130000, .sweep]
    (.poll (samplePoll "pod-b" []) "session")) (by decide +kernel)) first cancels
      (by decide +kernel)
  have unclaimed := (sticks before cancel middle t after "v" 0 split flags).1
  rw [claimed] at unclaimed
  cases unclaimed

end InferenceGateway
