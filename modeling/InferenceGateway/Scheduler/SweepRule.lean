import InferenceGateway.Scheduler.Reaper

/-!
# One rule for every row

The three loops of a sweep re-read the store they have changed, and a row may be
touched twice.  `Job.sweepRule` says in one case distinction what becomes of a
row; it leaves no row that any of the loops would pick up again.
-/

namespace InferenceGateway

/-- Back in the queue, without an owner. -/
def Job.disowned (job : Job) : Job :=
  { job with
    state := .queued
    podId := none
    leaseId := none
    leaseExpiresAt := none
    progress := 0
    upstreamId := none }

/-- Failed at `now`. -/
def Job.failedWith (error : String) (now : Millis) (job : Job) : Job :=
  { job with
    state := .failed
    error := some error
    finishedAt := some now
    leaseId := none
    leaseExpiresAt := none }

/-- What a sweep at `now` owes a row, whatever else the store holds. -/
def Job.sweepRule (config : Config) (now : Millis) (job : Job) : Job :=
  if job.leaseExpired now ∧ config.maxAttempts ≤ job.attempts then
    job.failedWith (podLost job.attempts) now
  else if job.isOverdue now then
    -- An expired lease is taken away first, so the failed row has no pod either.
    (if job.leaseExpired now then job.disowned else job).failedWith (deadlineDetail job now) now
  else if job.leaseExpired now then job.disowned
  else if job.cancelStale (now - config.cancelGraceMs) then
    { job with
      state := .cancelled
      finishedAt := some now
      leaseId := none
      leaseExpiresAt := none }
  else job

section Rule

variable (config : Config) (now : Millis) (job : Job)

theorem afterGrace_of_state (other : job.state ≠ .inProgress) :
    job.afterGrace config.cancelGraceMs now = job := by
  rw [Job.afterGrace, if_neg]
  simp [Job.cancelStale, other]

theorem afterDeadline_of_terminal (terminal : job.state.isTerminal = true) :
    job.afterDeadline now = job := by
  rw [Job.afterDeadline, if_neg]
  rcases isTerminal_iff.mp terminal with state | state | state <;> simp [Job.isOverdue, state]

/-- Losing its owner brings a deadline no nearer. -/
theorem isOverdue_disowned (expired : job.leaseExpired now = true) :
    job.disowned.isOverdue now = job.isOverdue now := by
  unfold Job.isOverdue
  rw [state_of_leaseExpired expired]
  rfl

/-- The loops, run one after the other on a row, follow the rule. -/
theorem swept_eq_sweepRule : job.swept config now = job.sweepRule config now := by
  unfold Job.swept Job.sweepRule
  by_cases expired : job.leaseExpired now = true
  · by_cases exhausted : config.maxAttempts ≤ job.attempts
    · have first : job.afterExpiry config.maxAttempts now =
          job.failedWith (podLost job.attempts) now := by
        rw [Job.afterExpiry, if_pos expired, if_pos exhausted]
        rfl
      rw [first, if_pos ⟨expired, exhausted⟩, afterDeadline_of_terminal _ _ rfl,
        afterGrace_of_state _ _ _ VideoStatus.noConfusion]
    · have first : job.afterExpiry config.maxAttempts now = job.disowned := by
        rw [Job.afterExpiry, if_pos expired, if_neg exhausted]
        rfl
      rw [first, if_neg fun both => exhausted both.2, if_pos expired, if_pos expired,
        Job.afterDeadline, isOverdue_disowned _ _ expired]
      split
      · exact afterGrace_of_state _ _ _ nofun
      · exact afterGrace_of_state _ _ _ nofun
  · have first : job.afterExpiry config.maxAttempts now = job := by
      rw [Job.afterExpiry, if_neg expired]
    rw [first, if_neg fun both => expired both.1, if_neg expired, if_neg expired,
      Job.afterDeadline]
    split
    · exact afterGrace_of_state _ _ _ nofun
    · rfl

/-- A row the rule has been applied to is due for none of the loops. -/
theorem sweepRule_settled :
    (job.sweepRule config now).leaseExpired now = false ∧
      (job.sweepRule config now).isOverdue now = false ∧
      (job.sweepRule config now).cancelStale (now - config.cancelGraceMs) = false := by
  unfold Job.sweepRule
  split
  · exact ⟨rfl, rfl, rfl⟩
  · split
    · exact ⟨rfl, rfl, rfl⟩
    · next inTime =>
      split
      · next expired =>
        refine ⟨rfl, ?_, rfl⟩
        rw [isOverdue_disowned _ _ expired]
        exact Bool.eq_false_of_not_eq_true inTime
      · next unexpired =>
        split
        · exact ⟨rfl, rfl, rfl⟩
        · next fresh =>
          exact ⟨Bool.eq_false_of_not_eq_true unexpired, Bool.eq_false_of_not_eq_true inTime,
            Bool.eq_false_of_not_eq_true fresh⟩

end Rule

theorem get_sweep_rule (config : Config) (store : JobStore) (pods : PodStore) (now : Millis)
    (id : String) : (sweep config store pods now).store.get id =
      (store.get id).map (Job.sweepRule config now) := by
  rw [get_sweep]
  exact congrArg (fun rule => (store.get id).map rule) (funext (swept_eq_sweepRule config now))

/-- No row of a swept store is due for any of the loops. -/
theorem settled_of_swept {config : Config} {store : JobStore} {pods : PodStore} {now : Millis}
    {job : Job} (member : job ∈ (sweep config store pods now).store.jobs.rows) :
    job.leaseExpired now = false ∧ job.isOverdue now = false ∧
      job.cancelStale (now - config.cancelGraceMs) = false := by
  have found := JobStore.get_of_mem member
  rw [get_sweep_rule] at found
  obtain ⟨before, -, rfl⟩ := Option.map_eq_some_iff.mp found
  exact sweepRule_settled config now before

/-- A sweep over a store that is due for nothing does nothing. -/
theorem sweep_of_settled {config : Config} {store : JobStore} {pods : PodStore} {now : Millis}
    (settled : ∀ job ∈ store.jobs.rows, job.leaseExpired now = false ∧
      job.isOverdue now = false ∧ job.cancelStale (now - config.cancelGraceMs) = false) :
    sweep config store pods now = ⟨store, pods, ⟨0, 0, 0⟩⟩ := by
  have leases : store.expiredLeases now = [] :=
    List.filter_eq_nil_iff.mpr fun job member => by simp [(settled job member).1]
  have deadlines : store.overdue now = [] :=
    List.filter_eq_nil_iff.mpr fun job member => by simp [(settled job member).2.1]
  have cancels : store.staleCancels (now - config.cancelGraceMs) = [] :=
    List.filter_eq_nil_iff.mpr fun job member => by simp [(settled job member).2.2]
  simp [sweep, leases, deadlines, cancels]

/-- A sweep applies one rule to every row by itself, a second one at the same
time does nothing, and no unfinished job is past its deadline afterwards. -/
theorem sweep_pointwise (config : Config) (store : JobStore) (pods : PodStore) (now : Millis) :
    (∀ id, (sweep config store pods now).store.get id =
      (store.get id).map (Job.sweepRule config now)) ∧
    sweep config (sweep config store pods now).store (sweep config store pods now).pods now =
      ⟨(sweep config store pods now).store, (sweep config store pods now).pods, ⟨0, 0, 0⟩⟩ ∧
    ∀ id job, (sweep config store pods now).store.get id = some job → job.deadlineAt < now →
      job.state.isTerminal = true := by
  refine ⟨get_sweep_rule config store pods now,
    sweep_of_settled fun job member => settled_of_swept member, ?_⟩
  intro id job found late
  obtain ⟨-, inTime, -⟩ := settled_of_swept (JobStore.mem_of_get found)
  cases state : job.state with
  | queued | inProgress => simp [Job.isOverdue, state, late] at inTime
  | completed | failed | cancelled => rfl

end InferenceGateway
