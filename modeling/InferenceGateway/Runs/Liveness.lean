import InferenceGateway.Runs.Cancels
import InferenceGateway.Runs.Leases
import InferenceGateway.Runs.Workloads
import InferenceGateway.Scheduler.SweepRule

/-!
# Every job comes to an end

The deadline of a job never moves, and the lease of a pod that stays silent runs
out.  The first sweep after either ends the job, or the hold of the pod on it.
-/

namespace InferenceGateway

open Library Relation

variable {platform : Platform} {prepare : Prepare} {config : Config} {t : GatewayTransition}

/-! ### Jobs -/

/-- The row under the id of the order, once it has one. -/
def Carries (platform : Platform) (order : Order) (state : Gateway) : Prop :=
  ¬ Unborn platform state order.id ∧
    ∀ job, state.store.get order.id = some job → job.order = order

theorem carries_of_get {state : Gateway} (fresh : Fresh platform state) {id : String} {job : Job}
    (found : state.store.get id = some job) : Carries platform job.order state := by
  have named : job.id = id := JobStore.id_of_get found
  constructor
  · intro unborn
    have absent := get_of_unborn fresh unborn
    rw [show job.order.id = id from named, found] at absent
    cases absent
  · intro job' found'
    rw [show job.order.id = id from named, found] at found'
    cases found'
    rfl

theorem carries_step (fires : (gateway platform prepare config).Fires t) {order : Order}
    (carries : Carries platform order t.pre) : Carries platform order t.post := by
  refine ⟨fun unborn => carries.1 (unborn_of_post fires unborn), fun job found => ?_⟩
  cases before : t.pre.store.get order.id with
  | none => exact absurd (unborn_of_created fires found before) carries.1
  | some job₀ =>
    have change := rowChange fires order.id
    rw [found, before] at change
    cases change with
    | touched touches => exact (order_touches touches).trans (carries.2 job₀ before)

/-- A purged row stays away. -/
def Gone (platform : Platform) (id : String) (state : Gateway) : Prop :=
  ¬ Unborn platform state id ∧ state.store.get id = none

theorem gone_step (fires : (gateway platform prepare config).Fires t) {id : String}
    (gone : Gone platform id t.pre) : Gone platform id t.post := by
  refine ⟨fun unborn => gone.1 (unborn_of_post fires unborn), ?_⟩
  cases found : t.post.store.get id with
  | none => rfl
  | some job => exact absurd (unborn_of_created fires found gone.2) gone.1

theorem Job.Settled.refl (job : Job) : job.Settled job := ⟨rfl, rfl, rfl, rfl, rfl, .inl rfl⟩

/-- A sweep past the deadline finishes the job. -/
theorem terminal_of_swept (fires : (gateway platform prepare config).Fires t)
    (action : t.action = .sweep) {order : Order} (carries : Carries platform order t.pre)
    (late : order.deadlineAt < t.pre.now) {job : Job}
    (found : t.post.store.get order.id = some job) : job.state.isTerminal = true := by
  rw [store_swept fires action] at found
  obtain ⟨job₀, before, rfl⟩ := Option.map_eq_some_iff.mp found
  rw [swept_eq_sweepRule]
  have due : (job₀.sweepRule config t.pre.now).deadlineAt < t.pre.now := by
    have same : (job₀.sweepRule config t.pre.now).deadlineAt = job₀.deadlineAt := by
      unfold Job.sweepRule
      split_ifs <;> rfl
    rw [same]
    exact (congrArg Order.deadlineAt (carries.2 job₀ before)).trans_lt late
  obtain ⟨-, inTime, -⟩ := sweepRule_settled config t.pre.now job₀
  cases state : (job₀.sweepRule config t.pre.now).state with
  | queued | inProgress => simp [Job.isOverdue, state, due] at inTime
  | completed | failed | cancelled => rfl

/-- A row is dropped only when its job is over. -/
theorem terminal_of_dropped (fires : (gateway platform prepare config).Fires t)
    (sound : t.pre.Sound platform) {id : String} {job : Job}
    (before : t.pre.store.get id = some job) (after : t.post.store.get id = none) :
    job.state.isTerminal = true := by
  have change := rowChange fires id
  rw [before, after] at change
  cases change with
  | purged action running old =>
    apply (finishedAt_isSome (sound.row id job before).consistent).mp
    obtain ⟨finishedAt, finished, -⟩ := (Option.any_eq_true _ _).mp old
    rw [finished]
    rfl

/-- Between a row and the end of it, or its absence, there is a verdict. -/
theorem verdict_of_run {start final : Gateway} {trace : List GatewayTransition}
    (run : (gateway platform prepare config).Run start trace final)
    (sound : start.Sound platform) {id : String} {job : Job}
    (found : start.store.get id = some job)
    (ended : ∀ row, final.store.get id = some row → row.state.isTerminal = true) :
    job.state.isTerminal = true ∨ ∃ u ∈ trace, ∃ verdict,
      u.post.store.get id = some verdict ∧ verdict.state.isTerminal = true := by
  rw [or_iff_not_imp_left]
  intro unfinished
  have lost : ¬ (final.Sound platform ∧ ∃ row, final.store.get id = some row ∧
      ¬ row.state.isTerminal = true) := by
    rintro ⟨-, row, last, going⟩
    exact going (ended row last)
  obtain ⟨u, member, fires, ⟨sound, row, before, going⟩, left⟩ :=
    run.exists_loss (P := fun state => state.Sound platform ∧ ∃ row,
      state.store.get id = some row ∧ ¬ row.state.isTerminal = true)
      ⟨sound, job, found, unfinished⟩ lost
  refine ⟨u, member, ?_⟩
  cases after : u.post.store.get id with
  | none => exact absurd (terminal_of_dropped fires sound before after) going
  | some verdict =>
    refine ⟨verdict, rfl, ?_⟩
    by_contra other
    exact left ⟨sound_step fires sound, verdict, after, other⟩

/-- The steps leave the verdict as it is, until its row is purged for good. -/
def Upholds (verdict : Job) (steps : List GatewayTransition) : Prop :=
  ∀ first w second, steps = first ++ w :: second →
    (∃ row, w.post.store.get verdict.id = some row ∧ verdict.Settled row) ∨
      ∀ v ∈ w :: second, v.post.store.get verdict.id = none

theorem settledAt_of_get {state : Gateway} (fresh : Fresh platform state) {id : String}
    {verdict : Job} (found : state.store.get id = some verdict) :
    SettledAt platform id verdict state := by
  obtain rfl : verdict.id = id := JobStore.id_of_get found
  refine ⟨(carries_of_get fresh found).1, fun row found' => ?_⟩
  cases found.symm.trans found'
  exact .refl verdict

theorem upholds_of_run {start final : Gateway} {steps : List GatewayTransition}
    (run : (gateway platform prepare config).Run start steps final)
    (fresh : Fresh platform start) {verdict : Job}
    (found : start.store.get verdict.id = some verdict)
    (terminal : verdict.state.isTerminal = true) : Upholds verdict steps := by
  intro first w second split
  obtain ⟨earlier, fires, later⟩ := (split ▸ run).split
  have settled : SettledAt platform verdict.id verdict w.post :=
    (earlier.snoc fires).invariant (settledAt_of_get fresh found)
      fun _ fires => settled_step fires terminal
  cases stands : w.post.store.get verdict.id with
  | some row => exact .inl ⟨row, rfl, settled.2 row stands⟩
  | none =>
    have gone : Gone platform verdict.id w.post := ⟨settled.1, stands⟩
    refine .inr fun v member => ?_
    rcases List.mem_cons.mp member with rfl | inside
    · exact stands
    · exact (later.invariant_at gone (fun _ fires => gone_step fires) inside).2.2

/-- Sweeps go on, at ever later times. -/
def SweepsGoOn (endless : (gateway platform prepare config).Endless) : Prop :=
  ∀ n moment, ∃ k, n ≤ k ∧ (endless.steps k).action = .sweep ∧ moment < (endless.steps k).pre.now

/-- In this run every job has come to a verdict by the first sweep past its deadline, and the
verdict stands. -/
def JobsEnd (run : GatewayRun platform prepare config) : Prop :=
  ∀ (before middle after : List GatewayTransition) (t sweep : GatewayTransition) (id : String)
    (job : Job), run.trace = before ++ t :: (middle ++ sweep :: after) →
    t.post.store.get id = some job → sweep.action = .sweep → job.deadlineAt < sweep.pre.now →
    ∃ lead u rest verdict, t :: (middle ++ [sweep]) = lead ++ u :: rest ∧
      u.post.store.get id = some verdict ∧ verdict.state.isTerminal = true ∧
      verdict.order = job.order ∧ Upholds verdict (rest ++ after)

theorem jobsEnd_of_run (run : GatewayRun platform prepare config) : JobsEnd run := by
  intro before middle after t sweep id job split found action late
  have whole := run.run
  rw [split] at whole
  obtain ⟨earlier, fires, rest⟩ := whole.split
  obtain ⟨between, sweeps, later⟩ := rest.split
  have reached := earlier.snoc fires
  obtain rfl : job.id = id := JobStore.id_of_get found
  have carries := carries_of_get (fresh_of_run reached) found
  have ended : ∀ row, sweep.post.store.get job.id = some row → row.state.isTerminal = true := by
    intro row last
    exact terminal_of_swept sweeps action
      (between.invariant carries fun _ fires => carries_step fires) late last
  have judged : ∃ u ∈ t :: (middle ++ [sweep]), Carries platform job.order u.post ∧
      ∃ verdict, u.post.store.get job.id = some verdict ∧ verdict.state.isTerminal = true := by
    rcases verdict_of_run (between.snoc sweeps) (sound_of_run reached) found ended with
      terminal | ⟨u, member, ends⟩
    · exact ⟨t, List.mem_cons_self, carries, job, found, terminal⟩
    · have kept := (between.snoc sweeps).invariant_at carries (fun _ fires => carries_step fires)
        member
      exact ⟨u, List.mem_cons_of_mem _ member, kept.2, ends⟩
  obtain ⟨u, member, kept, verdict, found', terminal⟩ := judged
  obtain ⟨lead, rest, parts⟩ := List.append_of_mem member
  have placed : before ++ t :: (middle ++ sweep :: after) =
      (before ++ lead) ++ u :: (rest ++ after) := by
    calc before ++ t :: (middle ++ sweep :: after)
        = before ++ (t :: (middle ++ [sweep])) ++ after := by simp
      _ = (before ++ lead) ++ u :: (rest ++ after) := by simp [parts]
  obtain ⟨prior, steps, onward⟩ := (placed ▸ whole).split
  have same : verdict.id = job.id := JobStore.id_of_get found'
  exact ⟨lead, u, rest, verdict, parts, found', terminal, kept.2 verdict found',
    upholds_of_run onward (fresh_of_run (prior.snoc steps)) (same ▸ found') terminal⟩

section Endless

variable {endless : (gateway platform prepare config).Endless}

theorem sound_endless (n : Nat) : (endless.steps n).post.Sound platform := by
  have run := endless.run_part 0 (n + 1)
  rw [endless.starts, Nat.zero_add, endless.follows] at run
  exact sound_of_run run

theorem settles_endless (goOn : SweepsGoOn endless) {n : Nat} {id : String} {job : Job}
    (found : (endless.steps n).post.store.get id = some job) :
    ∃ m verdict, n ≤ m ∧ (endless.steps m).post.store.get id = some verdict ∧
      verdict.state.isTerminal = true ∧ verdict.order = job.order ∧
      ∀ k, m ≤ k → (∃ row, (endless.steps k).post.store.get id = some row ∧ verdict.Settled row) ∨
        ∀ j, k ≤ j → (endless.steps j).post.store.get id = none := by
  obtain rfl : job.id = id := JobStore.id_of_get found
  obtain ⟨last, later, action, late⟩ := goOn (n + 1) job.deadlineAt
  have carries : ∀ m, n ≤ m → Carries platform job.order (endless.steps m).post := by
    intro m onward
    have kept := endless.forever (n := n + 1)
      (endless.follows n ▸ carries_of_get (sound_endless n).fresh found)
      (fun _ fires => carries_step fires) (m + 1) (Nat.succ_le_succ onward)
    exact endless.follows m ▸ kept
  have judged : ∃ m, n ≤ m ∧ ∃ verdict,
      (endless.steps m).post.store.get job.id = some verdict ∧
        verdict.state.isTerminal = true := by
    have part := endless.run_part (n + 1) (last - n)
    rw [show n + 1 + (last - n) = last + 1 by omega, endless.follows, endless.follows] at part
    have start := endless.forever (endless.follows n ▸ carries n le_rfl)
      (fun _ fires => carries_step fires) last later
    rcases verdict_of_run part (sound_endless n) found
        fun row => terminal_of_swept (endless.fires last) action start late with
      terminal | ⟨u, member, ends⟩
    · exact ⟨n, le_rfl, job, found, terminal⟩
    · obtain ⟨i, -, rfl⟩ := List.mem_map.mp member
      exact ⟨n + 1 + i, by omega, ends⟩
  obtain ⟨m, onward, verdict, found', terminal⟩ := judged
  refine ⟨m, verdict, onward, found', terminal, (carries m onward).2 verdict found', ?_⟩
  intro k beyond
  have settled := endless.forever (n := m + 1)
    (endless.follows m ▸ settledAt_of_get (sound_endless m).fresh found')
    (fun _ fires => settled_step fires terminal) (k + 1) (Nat.succ_le_succ beyond)
  rw [endless.follows] at settled
  cases stands : (endless.steps k).post.store.get job.id with
  | some row => exact .inl ⟨row, rfl, settled.2 row stands⟩
  | none =>
    have gone : Gone platform job.id (endless.steps (k + 1)).pre :=
      endless.follows k ▸ ⟨settled.1, stands⟩
    refine .inr fun j further => ?_
    have away := endless.forever gone (fun _ fires => gone_step fires) (j + 1)
      (Nat.succ_le_succ further)
    rw [endless.follows] at away
    exact away.2

end Endless

/-- No job stays unfinished: the first sweep past its deadline finds it concluded or concludes
it, and where sweeps go on each job comes to one verdict, which stands until the row is purged
for good. -/
theorem jobs_settle (platform : Platform) (prepare : Prepare) (config : Config) :
    (∀ run : GatewayRun platform prepare config, JobsEnd run) ∧
      ∀ endless : (gateway platform prepare config).Endless, SweepsGoOn endless →
        ∀ n id job, (endless.steps n).post.store.get id = some job →
          ∃ m verdict, n ≤ m ∧ (endless.steps m).post.store.get id = some verdict ∧
            verdict.state.isTerminal = true ∧ verdict.order = job.order ∧
            ∀ k, m ≤ k →
              (∃ row, (endless.steps k).post.store.get id = some row ∧ verdict.Settled row) ∨
                ∀ j, k ≤ j → (endless.steps j).post.store.get id = none := by
  constructor
  · exact jobsEnd_of_run
  · intro endless goOn n id job found
    exact settles_endless goOn found

/-! ### Sweeping on -/

section Sweeping

variable (platform prepare config)

/-- The clock and the sweep, in turns. -/
def sweepOn (n : Nat) (state : Gateway) : GatewayTransition :=
  if n % 2 = 0 then
    ⟨state, .tick (state.now + 1), .silent,
      state.withStore { state.store with clock := state.now + 1 }⟩
  else ⟨state, .sweep, (state.sweep config).1, (state.sweep config).2⟩

theorem pre_sweepOn (n : Nat) (state : Gateway) : (sweepOn config n state).pre = state := by
  unfold sweepOn
  split <;> rfl

theorem fires_sweepOn (n : Nat) (state : Gateway) :
    (gateway platform prepare config).Fires (sweepOn config n state) := by
  unfold sweepOn
  split
  · have later : state.now ≤ state.now + 1 := Int.le_add_one le_rfl
    simp [Machine.Fires, gateway, Gateway.step, Gateway.tick, later]
  · rfl

theorem now_sweep (state : Gateway) : (state.sweep config).2.now = state.now := by
  unfold Gateway.sweep
  dsimp only
  split <;> exact clock_sweep ..

theorem now_stateAfter (state : Gateway) (j : Nat) :
    (Machine.stateAfter (sweepOn config) state (2 * j)).now = state.now + j := by
  induction j with
  | zero => exact (Int.add_zero _).symm
  | succ j inductionHypothesis =>
    have even : 2 * j % 2 = 0 := Nat.mul_mod_right 2 j
    have odd : (2 * j + 1) % 2 ≠ 0 := by omega
    rw [Nat.mul_succ, Machine.stateAfter, sweepOn, if_neg odd, now_sweep, Machine.stateAfter,
      sweepOn, if_pos even]
    change (Machine.stateAfter (sweepOn config) state (2 * j)).now + 1 = _
    rw [inductionHypothesis]
    push_cast
    ring

/-- Any run can go on with sweeps for ever. -/
def sweeping (run : GatewayRun platform prepare config) :
    (gateway platform prepare config).Endless :=
  run.forever (sweepOn config) (pre_sweepOn config) (fires_sweepOn platform prepare config)

theorem sweepsGoOn_sweeping (run : GatewayRun platform prepare config) :
    SweepsGoOn (sweeping platform prepare config run) := by
  intro n moment
  obtain ⟨j, far, late⟩ : ∃ j : Nat, n ≤ j ∧ moment ≤ run.final.now + j := by
    refine ⟨n + (moment - run.final.now).toNat, Nat.le_add_right _ _, ?_⟩
    have wait := Int.self_le_toNat (moment - run.final.now)
    have forward := Int.natCast_nonneg n
    rw [Nat.cast_add]
    linarith
  have odd : (2 * j + 1) % 2 ≠ 0 := by omega
  have turn : (sweeping platform prepare config run).steps (run.trace.length + (2 * j + 1)) =
      sweepOn config (2 * j + 1)
        (Machine.stateAfter (sweepOn config) run.final (2 * j + 1)) :=
    Machine.continued_append (sweepOn config) run.final run.trace (2 * j + 1)
  refine ⟨run.trace.length + (2 * j + 1), by omega, ?_, ?_⟩
  · rw [turn, sweepOn, if_neg odd]
  · have even : 2 * j % 2 = 0 := Nat.mul_mod_right 2 j
    rw [turn, pre_sweepOn, Machine.stateAfter, sweepOn, if_pos even]
    change moment < (Machine.stateAfter (sweepOn config) run.final (2 * j)).now + 1
    rw [now_stateAfter]
    exact Int.lt_add_one_of_le late

end Sweeping

/-- The claim of the sample pod, after which the gateway is only swept. -/
def sampleClaimed : GatewayRun .counting samplePrepare .default :=
  sampleRun .default (sampleStart ++ [.resumePoll 0]) sampleStart_resumes

theorem jobs_settle_sample :
    JobsEnd sampleClaimed ∧ ∃ job m verdict,
      ((sweeping .counting samplePrepare .default sampleClaimed).steps 5).post.store.get "v" =
        some job ∧ job.state = .inProgress ∧ 5 ≤ m ∧
      ((sweeping .counting samplePrepare .default sampleClaimed).steps m).post.store.get "v" =
        some verdict ∧ verdict.state.isTerminal = true := by
  have settle := jobs_settle .counting samplePrepare .default
  have claimed : (((sweeping .counting samplePrepare .default
      sampleClaimed).steps 5).post.store.get "v").any (·.state == .inProgress) = true := by
    decide +kernel
  obtain ⟨job, found, running⟩ := Option.any_eq_true _ _ |>.mp claimed
  obtain ⟨m, verdict, later, stands, terminal, -⟩ :=
    settle.2 _ (sweepsGoOn_sweeping _ _ _ sampleClaimed) 5 "v" job found
  exact ⟨settle.1 sampleClaimed, job, m, verdict, found, beq_iff_eq.mp running, later, stands,
    terminal⟩

/-! ### Silent pods -/

/-- A poll of the step lists the job under the lease, even after a null entry. -/
def Mentions (t : GatewayTransition) (id lease : String) : Prop :=
  ∃ body sessionId item, t.action = .poll body sessionId ∧ some item ∈ body.inFlight.getD [] ∧
    item.jobId.str = some id ∧ item.leaseId.str = some lease

/-- A term or a recovery, whichever is longer. -/
def Config.patience (config : Config) : Int := max config.leaseTtlMs (config.maxPollWaitMs * 2)

/-- The step does not extend the lease past the moment. -/
structure Unextended (config : Config) (id lease : String) (moment : Millis)
    (t : GatewayTransition) : Prop where
  silent : ¬ Mentions t id lease
  recovery : t.action = .restart → t.pre.now + config.maxPollWaitMs * 2 ≤ moment

theorem ends_of_touches {lease : String} {moment : Millis} {job job' : Job}
    (unextended : Unextended config job.id lease moment t)
    (touches : ReflTransGen (Touch platform config t) job job')
    (minted : ∃ i < t.pre.leases, lease = platform.newLeaseId i)
    (ends : job.holds lease = true →
      ∃ expiresAt, job.leaseExpiresAt = some expiresAt ∧ expiresAt ≤ moment) :
    job'.holds lease = true →
      ∃ expiresAt, job'.leaseExpiresAt = some expiresAt ∧ expiresAt ≤ moment := by
  induction touches with
  | refl => exact ends
  | @tail mid last touches touch inductionHypothesis =>
    intro holds
    have named : mid.id = job.id := (fixed_touches touches).1
    cases touch with
    | @renewed body sessionId leaseId item action listed names under holds' =>
      have same : leaseId = lease := by
        have first := (holds_iff.mp holds').2
        have second := (holds_iff.mp holds).2
        exact Option.some.inj (first.symm.trans second)
      exact absurd ⟨body, sessionId, item, action, listed, named ▸ names, same ▸ under⟩
        unextended.silent
    | @claimed turn place claims placed queued =>
      obtain ⟨i, earlier, rfl⟩ := minted
      have same := (holds_iff.mp holds).2
      have again := platform.newLeaseId_injective (Option.some.inj same)
      omega
    | completed | acknowledged | retried | failed | lost | expired | overdue | forced
    | cancelled => cases (holds_iff.mp holds).1
    | flagged | cleared | mediaExpired => exact inductionHypothesis holds
    | recovered action inFlight => exact ⟨_, rfl, unextended.recovery action⟩

/-- As long as the row is held under the lease, which no other row is, the lease ends by then. -/
structure Lapsing (platform : Platform) (id lease : String) (moment : Millis)
    (state : Gateway) : Prop where
  minted : ∃ i < state.leases, lease = platform.newLeaseId i
  only : ∀ id', Holds state id' lease → id' = id
  ends : ∀ job, state.store.get id = some job → job.holds lease = true →
    ∃ expiresAt, job.leaseExpiresAt = some expiresAt ∧ expiresAt ≤ moment

theorem holds_of_minted (fires : (gateway platform prepare config).Fires t) {id lease : String}
    (minted : ∃ i < t.pre.leases, lease = platform.newLeaseId i)
    (holds : Holds t.post id lease) : Holds t.pre id lease := by
  rcases holds_origin fires holds with earlier | dispatches
  · exact earlier
  · obtain ⟨i, earlier, rfl⟩ := minted
    obtain ⟨j, -, -, -, again⟩ := dispatches.minted
    have := platform.newLeaseId_injective again
    omega

theorem lapsing_step (fires : (gateway platform prepare config).Fires t) {id lease : String}
    {moment : Millis} (unextended : Unextended config id lease moment t)
    (lapsing : Lapsing platform id lease moment t.pre) :
    Lapsing platform id lease moment t.post := by
  obtain ⟨minted, only, ends⟩ := lapsing
  have grows : t.pre.leases ≤ t.post.leases := (progresses fires).leases ▸ Nat.le_add_right _ _
  refine ⟨?_, fun id' holds => only id' (holds_of_minted fires minted holds), ?_⟩
  · obtain ⟨i, earlier, same⟩ := minted
    exact ⟨i, earlier.trans_le grows, same⟩
  · intro job found holds
    obtain ⟨job₀, before, held⟩ := holds_of_minted fires minted ⟨job, found, holds⟩
    have change := rowChange fires id
    rw [before, found] at change
    cases change with
    | touched touches =>
      obtain rfl : job₀.id = id := JobStore.id_of_get before
      exact ends_of_touches unextended touches minted (ends job₀ before) holds

/-- The hold of a run that no lease outlasts. -/
theorem lapsing_of_holds {state : Gateway} (sound : state.Sound platform)
    (leased : Leased platform state) (within : TermsWithin config.patience state)
    {id lease : String} (holds : Holds state id lease) {moment : Millis}
    (later : state.now + config.patience ≤ moment) : Lapsing platform id lease moment state := by
  refine ⟨leased.minted id lease holds, fun id' holds' => leased.unique id' id lease holds' holds,
    fun job found held => ?_⟩
  obtain ⟨-, set, -⟩ := (sound.row id job found).consistent.inProgress (holds_iff.mp held).1
  obtain ⟨expiresAt, set⟩ := Option.isSome_iff_exists.mp set
  exact ⟨expiresAt, set, (within id job expiresAt found set).trans later⟩

/-- A sweep takes a lease away that has ended. -/
theorem row_of_lapsed (fires : (gateway platform prepare config).Fires t)
    (action : t.action = .sweep) {id lease : String} {moment : Millis}
    (lapsing : Lapsing platform id lease moment t.pre) (late : moment < t.pre.now)
    (holds : Holds t.pre id lease) :
    ∃ job, t.post.store.get id = some job ∧ (job.state = .queued ∨ job.state = .failed) := by
  obtain ⟨job, found, held⟩ := holds
  obtain ⟨expiresAt, set, bound⟩ := lapsing.ends job found held
  have expired : job.leaseExpired t.pre.now = true := by
    simp [Job.leaseExpired, (holds_iff.mp held).1, set, bound.trans_lt late]
  refine ⟨job.sweepRule config t.pre.now, ?_, ?_⟩
  · rw [store_swept fires action, found, Option.map_some, swept_eq_sweepRule]
  · unfold Job.sweepRule
    rw [if_pos expired]
    split
    · exact .inr rfl
    · split
      · exact .inr rfl
      · exact .inl rfl

theorem retired_of_lapsed (fires : (gateway platform prepare config).Fires t)
    (action : t.action = .sweep) {id lease : String} {moment : Millis}
    (lapsing : Lapsing platform id lease moment t.pre) (late : moment < t.pre.now) :
    Retired platform lease t.post := by
  have grows : t.pre.leases ≤ t.post.leases := (progresses fires).leases ▸ Nat.le_add_right _ _
  constructor
  · obtain ⟨i, earlier, same⟩ := lapsing.minted
    exact ⟨i, earlier.trans_le grows, same⟩
  · intro id' holds
    have before := holds_of_minted fires lapsing.minted holds
    obtain rfl := lapsing.only id' before
    obtain ⟨job, found, ended⟩ := row_of_lapsed fires action lapsing late before
    obtain ⟨job', found', held⟩ := holds
    cases found.symm.trans found'
    rcases ended with state | state
    all_goals cases state.symm.trans (holds_iff.mp held).1

/-- In this run a pod that stays silent about a job for a term, and for a recovery after every
restart, loses its lease for good, and the job does not stay in flight. -/
def SilentPodsLose (run : GatewayRun platform prepare config) : Prop :=
  ∀ (before middle after : List GatewayTransition) (t sweep : GatewayTransition)
    (id lease : String), run.trace = before ++ t :: (middle ++ sweep :: after) →
    Holds t.post id lease → sweep.action = .sweep →
    t.post.now + config.patience < sweep.pre.now →
    (∀ u ∈ middle, ¬ Mentions u id lease) →
    (∀ u ∈ middle, u.action = .restart → u.pre.now + config.maxPollWaitMs * 2 < sweep.pre.now) →
    (∀ u ∈ sweep :: after, ∀ id', ¬ Holds u.post id' lease) ∧
      (Holds sweep.pre id lease → ∃ job, sweep.post.store.get id = some job ∧
        (job.state = .queued ∨ job.state = .failed))

theorem silent_pods_lose (platform : Platform) (prepare : Prepare) (config : Config)
    (run : GatewayRun platform prepare config) : SilentPodsLose run := by
  intro before middle after t sweep id lease split holds action waited silent restarts
  have whole := run.run
  rw [split] at whole
  obtain ⟨earlier, fires, rest⟩ := whole.split
  obtain ⟨between, sweeps, later⟩ := rest.split
  have reached := earlier.snoc fires
  have within : TermsWithin config.patience t.post := by
    apply reached.invariant (P := TermsWithin config.patience)
    · intro id job expiresAt found
      simp [gateway, Gateway.empty, JobStore.get] at found
    · intro u fires
      exact termsWithin_step (le_max_left _ _) (le_max_right _ _) fires
  have lapsing : Lapsing platform id lease (sweep.pre.now - 1) sweep.pre := by
    apply between.preserves (lapsing_of_holds (sound_of_run reached) (leased_of_run reached) within
      holds (Int.le_sub_one_of_lt waited))
    intro u member fires
    exact lapsing_step fires ⟨silent u member, fun restart =>
      Int.le_sub_one_of_lt (restarts u member restart)⟩
  have late : sweep.pre.now - 1 < sweep.pre.now := sub_one_lt _
  have retired := retired_of_lapsed sweeps action lapsing late
  refine ⟨fun u member => ?_, row_of_lapsed sweeps action lapsing late⟩
  rcases List.mem_cons.mp member with rfl | inside
  · exact retired.2
  · exact (later.invariant_at retired (fun _ fires => retired_step fires) inside).2.2

/-- The sample pod claims its job and is not heard of for 130 s, a restart included. -/
def sampleSilence : List Action :=
  sampleStart ++ [.resumePoll 0, .restart, .tick 130000, .sweep, .tick 140000, sampleListing]

/-- The job is held under the lease. -/
def Gateway.grants (state : Gateway) (id lease : String) : Bool :=
  (state.store.get id).any (·.holds lease)

theorem holds_of_grants {state : Gateway} {id lease : String}
    (granted : state.grants id lease = true) : Holds state id lease :=
  (Option.any_eq_true _ _).mp granted

/-- The pod comes back too late. -/
theorem silent_pods_lose_sample :
    ∃ (before middle after : List GatewayTransition) (t sweep : GatewayTransition),
      (sampleRun .default sampleSilence (by decide +kernel)).trace =
        before ++ t :: (middle ++ sweep :: after) ∧
      Holds t.post "v" "L" ∧ (∃ u ∈ middle, u.action = .restart) ∧
      (∃ u ∈ after, u.action = sampleListing) ∧
      (∀ u ∈ sweep :: after, ∀ id, ¬ Holds u.post id "L") ∧
      ∃ job, sweep.post.store.get "v" = some job ∧ (job.state = .queued ∨ job.state = .failed) := by
  have facts : ((sampleRun .default sampleSilence (by decide +kernel)).trace.drop 5).map
      (fun u => (u.pre.now, u.post.now, u.pre.grants "v" "L", u.post.grants "v" "L")) =
        [(0, 0, false, true), (0, 0, true, true), (0, 130000, true, true),
          (130000, 130000, true, false), (130000, 140000, false, false),
          (140000, 140000, false, false)] := by
    decide +kernel
  obtain ⟨before, rest, split, -, later, dropped⟩ :=
    Machine.Execution.perform_append (show ((gateway .counting samplePrepare .default).exec
      Gateway.empty sampleSilence).isSome by decide +kernel)
  change (sampleRun .default sampleSilence (by decide +kernel)).trace = before ++ rest at split
  change (sampleRun .default sampleSilence (by decide +kernel)).trace.drop 5 = rest at dropped
  simp only [List.map_eq_cons_iff, List.map_eq_nil_iff] at later
  obtain ⟨claim, _, rfl, -, restart, _, rfl, restarted, tick, _, rfl, ticked, sweep, _, rfl, swept,
    tick', _, rfl, -, listing, _, rfl, listed, rfl⟩ := later
  rw [dropped] at facts
  simp only [List.map_cons, List.map_nil, List.cons.injEq, Prod.mk.injEq] at facts
  obtain ⟨⟨-, claimed, -, granted⟩, ⟨early, -⟩, -, ⟨late, -, held, -⟩, -⟩ := facts
  have holds := holds_of_grants granted
  have loses := silent_pods_lose .counting samplePrepare .default
    (sampleRun .default sampleSilence (by decide +kernel)) before [restart, tick] [tick', listing]
    claim sweep "v" "L" split holds swept
  have waited : claim.post.now + Config.default.patience < sweep.pre.now := by
    rw [claimed, late]
    decide
  have silent : ∀ u ∈ [restart, tick], ¬ Mentions u "v" "L" := by
    rintro u member ⟨body, session, item, action, -⟩
    rcases List.mem_pair.mp member with rfl | rfl
    · cases restarted.symm.trans action
    · cases ticked.symm.trans action
  have restarts : ∀ u ∈ [restart, tick], u.action = .restart →
      u.pre.now + Config.default.maxPollWaitMs * 2 < sweep.pre.now := by
    intro u member action
    rcases List.mem_pair.mp member with rfl | rfl
    · rw [early, late]
      decide
    · cases ticked.symm.trans action
  obtain ⟨never, ends⟩ := loses waited silent restarts
  exact ⟨before, [restart, tick], [tick', listing], claim, sweep, split, holds,
    ⟨restart, by simp, restarted⟩, ⟨listing, by simp, listed⟩, never,
    ends (holds_of_grants held)⟩

end InferenceGateway
