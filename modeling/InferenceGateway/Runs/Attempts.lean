import InferenceGateway.Runs.Fencing

/-!
# Bounded dispatch

The cap on attempts is checked where a job returns to the queue, not where it
is claimed; that every queued job still has an attempt left is an invariant.
-/

namespace InferenceGateway

open Library Relation

variable {platform : Platform} {prepare : Prepare} {config : Config} {t : GatewayTransition}

/-- The step claims the job: it was queued before and is in flight after. -/
def claimsJob (id : String) (t : GatewayTransition) : Bool :=
  (t.pre.store.get id).any (·.state == .queued) &&
    (t.post.store.get id).any (·.state == .inProgress)

/-- A queued row has an attempt left, a running one has not overdrawn them. -/
structure Job.Bounded (maxAttempts : Nat) (job : Job) : Prop where
  queued : job.state = .queued → job.attempts < maxAttempts
  inProgress : job.state = .inProgress → job.attempts ≤ maxAttempts

theorem bounded_touch {job job' : Job} (touch : Touch platform config t job job')
    (bounded : job.Bounded config.maxAttempts) : job'.Bounded config.maxAttempts := by
  obtain ⟨queued, inProgress⟩ := bounded
  cases touch with
  | renewed | cleared | mediaExpired | recovered | flagged => exact ⟨queued, inProgress⟩
  | claimed claims place isQueued => exact ⟨nofun, fun _ => queued isQueued⟩
  | completed | acknowledged | failed | lost | overdue | forced | cancelled => exact ⟨nofun, nofun⟩
  | retried reports left => exact ⟨fun _ => left, nofun⟩
  | expired action expired left => exact ⟨fun _ => left, nofun⟩

theorem bounded_touches {job job' : Job}
    (touches : ReflTransGen (Touch platform config t) job job')
    (bounded : job.Bounded config.maxAttempts) : job'.Bounded config.maxAttempts := by
  induction touches with
  | refl => exact bounded
  | tail _ touch inductionHypothesis => exact bounded_touch touch inductionHypothesis

/-- Within a step a row is either claimed once, or keeps its attempts and does
not take off. -/
theorem attempts_touches {job job' : Job}
    (touches : ReflTransGen (Touch platform config t) job job') :
    (job.state = .queued ∧ job'.state = .inProgress ∧ job'.attempts = job.attempts + 1 ∧
        (claimTurn config t).isSome) ∨
      job'.attempts = job.attempts ∧ (job'.state = .inProgress → job.state = .inProgress) := by
  induction touches with
  | refl => exact .inr ⟨rfl, id⟩
  | @tail mid last touches touch inductionHypothesis =>
    have grounded (idle : claimTurn config t = none) (attempts : last.attempts = mid.attempts)
        (landed : last.state ≠ .inProgress) : last.attempts = job.attempts ∧
          (last.state = .inProgress → job.state = .inProgress) := by
      rcases inductionHypothesis with ⟨-, -, -, claims⟩ | ⟨same, -⟩
      · simp [idle] at claims
      · exact ⟨attempts.trans same, fun state => absurd state landed⟩
    cases touch with
    | renewed | cleared | mediaExpired | recovered | flagged => exact inductionHypothesis
    | claimed claims place queued =>
      obtain rfl := queued_of_touches claims touches queued
      exact .inl ⟨queued, rfl, rfl, by simp [claims]⟩
    | completed reports | acknowledged reports | retried reports | failed reports =>
      obtain ⟨request, action, -⟩ := reports.action
      exact .inr (grounded (by simp [claimTurn, action]) rfl (by rintro ⟨⟩))
    | lost action | expired action | overdue action | forced action | cancelled action =>
      exact .inr (grounded (by simp [claimTurn, action]) rfl (by rintro ⟨⟩))

/-- What the history of a run says about the attempts of a job. -/
structure Counted (platform : Platform) (maxAttempts : Nat) (trace : List GatewayTransition)
    (state : Gateway) (id : String) : Prop where
  unborn : Unborn platform state id → trace.countP (claimsJob id) = 0
  bound : trace.countP (claimsJob id) ≤ maxAttempts
  row : ∀ job, state.store.get id = some job →
    job.attempts = trace.countP (claimsJob id) ∧ job.Bounded maxAttempts

theorem countP_snoc {α : Type} (p : α → Bool) (trace : List α) (last : α) :
    (trace ++ [last]).countP p = trace.countP p + if p last then 1 else 0 := by
  rw [List.countP_append, List.countP_singleton]

theorem counted_step (positive : 1 ≤ config.maxAttempts) {before : List GatewayTransition}
    (run : (gateway platform prepare config).Run (gateway platform prepare config).initial
      before t.pre) (fires : (gateway platform prepare config).Fires t) {id : String}
    (counted : Counted platform config.maxAttempts before t.pre id) :
    Counted platform config.maxAttempts (before ++ [t]) t.post id := by
  have change := rowChange fires id
  have unborn : Unborn platform t.post id → t.pre.store.get id = none := fun unborn =>
    get_of_unborn (fresh_of_run run) (unborn_of_post fires unborn)
  have unclaimed (idle : claimsJob id t = false) :
      (before ++ [t]).countP (claimsJob id) = before.countP (claimsJob id) := by
    rw [countP_snoc, idle]
    simp
  generalize earlier : t.pre.store.get id = row at change
  generalize later : t.post.store.get id = row' at change
  cases change with
  | absent =>
    have same := unclaimed (by simp [claimsJob, earlier])
    exact ⟨fun u => same ▸ counted.unborn (unborn_of_post fires u), same ▸ counted.bound,
      fun job found => by cases later.symm.trans found⟩
  | @created token creation action running named returned =>
    have same := unclaimed (by simp [claimsJob, earlier])
    have none_yet := counted.unborn (.inl ⟨token, creation, running, named⟩)
    refine ⟨fun _ => same.trans none_yet, same ▸ counted.bound, fun job found => ?_⟩
    cases later.symm.trans found
    exact ⟨(same.trans none_yet).symm, fun _ => positive, nofun⟩
  | purged =>
    have same := unclaimed (by simp [claimsJob, later])
    exact ⟨fun u => same ▸ counted.unborn (unborn_of_post fires u), same ▸ counted.bound,
      fun job found => by cases later.symm.trans found⟩
  | @touched job job' touches =>
    obtain ⟨attempts, bounded⟩ := counted.row job earlier
    have bounded' := bounded_touches touches bounded
    have born : ¬ Unborn platform t.post id := fun u => by cases earlier.symm.trans (unborn u)
    rcases attempts_touches touches with ⟨queued, flying, more, -⟩ | ⟨same, grounded⟩
    · have claims : claimsJob id t = true := by simp [claimsJob, earlier, later, queued, flying]
      have count : (before ++ [t]).countP (claimsJob id) = job'.attempts := by
        rw [countP_snoc, claims, more, attempts]
        rfl
      refine ⟨fun u => absurd u born, count ▸ bounded'.inProgress flying, fun row found => ?_⟩
      cases later.symm.trans found
      exact ⟨count.symm, bounded'⟩
    · have idle : claimsJob id t = false := by
        by_cases flying : job'.state = .inProgress
        · simp [claimsJob, earlier, grounded flying]
        · simp [claimsJob, later, flying]
      refine ⟨fun u => absurd u born, unclaimed idle ▸ counted.bound, fun row found => ?_⟩
      cases later.symm.trans found
      exact ⟨(same.trans attempts).trans (unclaimed idle).symm, bounded'⟩

/-- Every job is claimed at most `maxAttempts` times; `attempts` counts the
claims, a queued job has one left and a running one has not overdrawn them. -/
theorem bounded_dispatch (platform : Platform) (prepare : Prepare) (config : Config)
    (positive : 1 ≤ config.maxAttempts) (run : GatewayRun platform prepare config)
    (id : String) :
    run.trace.countP (claimsJob id) ≤ config.maxAttempts ∧
      ∀ job, run.final.store.get id = some job →
        job.attempts = run.trace.countP (claimsJob id) ∧
          (job.state = .queued → job.attempts < config.maxAttempts) ∧
          (job.state = .inProgress → job.attempts ≤ config.maxAttempts) := by
  have counted : Counted platform config.maxAttempts run.trace run.final id :=
    run.run.history (P := fun trace state => Counted platform config.maxAttempts trace state id)
      ⟨fun _ => rfl, Nat.zero_le _, fun job found => by
        simp [gateway, Gateway.empty, JobStore.get] at found⟩
      fun _ _ earlier fires counted => counted_step positive earlier fires counted
  refine ⟨counted.bound, fun job found => ?_⟩
  obtain ⟨attempts, bounded⟩ := counted.row job found
  exact ⟨attempts, bounded.queued, bounded.inProgress⟩

/-- A claimed job of the sample fleet. -/
theorem bounded_dispatch_sample :
    (sampleRun .default (sampleStart ++ [.resumePoll 0]) (by decide +kernel)).trace.countP
        (claimsJob "v") ≤ 2 ∧
      ∀ job, (sampleRun .default (sampleStart ++ [.resumePoll 0])
          (by decide +kernel)).final.store.get "v" = some job →
        job.attempts = (sampleRun .default (sampleStart ++ [.resumePoll 0])
            (by decide +kernel)).trace.countP (claimsJob "v") ∧
          (job.state = .queued → job.attempts < 2) ∧
          (job.state = .inProgress → job.attempts ≤ 2) :=
  bounded_dispatch .counting samplePrepare .default (by decide)
    (sampleRun .default (sampleStart ++ [.resumePoll 0]) (by decide +kernel)) "v"

example : (sampleRun .default (sampleStart ++ [.resumePoll 0])
    (by decide +kernel)).trace.countP (claimsJob "v") = 1 := by decide +kernel

end InferenceGateway
