import InferenceGateway.Runs.Fencing

/-!
# A working pod keeps its lease

Every contact with the pod pushes the lease out to a full term from that moment.
From there on only the recovery after a restart can bring its end closer.
-/

namespace InferenceGateway

open Library Relation

variable {platform : Platform} {prepare : Prepare} {config : Config} {t : GatewayTransition}

/-- The poll lists the job under the lease, before any null entry. -/
def PollBody.Lists (body : PollBody) (id lease : String) : Prop :=
  ∃ first item rest, body.inFlight.getD [] = first ++ some item :: rest ∧ none ∉ first ∧
    item.jobId.str = some id ∧ item.leaseId.str = some lease

/-- The pod is heard of: the job is dispatched to it, or its poll lists the job. -/
inductive Contact (platform : Platform) (config : Config) (t : GatewayTransition)
    (id lease : String) : Prop where
  | dispatched (dispatches : Dispatches platform config t id lease)
  | listed {body : PollBody} {sessionId podId : String} (action : t.action = .poll body sessionId)
      (named : body.podId.str = some podId) (lists : body.Lists id lease)

/-- The row is held under the lease, which lasts at least until then. -/
def LastsUntil (store : JobStore) (id lease : String) (until_ : Millis) : Prop :=
  ∃ job, store.get id = some job ∧ job.holds lease = true ∧
    ∃ expiresAt, job.leaseExpiresAt = some expiresAt ∧ until_ ≤ expiresAt

/-! ### Contacts -/

theorem lastsUntil_renewLease {store : JobStore} {id lease id' lease' : String}
    {expiresAt until_ : Millis} {progress : Option ℚ} {upstreamId : Option String}
    (lasts : LastsUntil store id lease until_) (later : until_ ≤ expiresAt) :
    LastsUntil (store.renewLease id' lease' expiresAt progress upstreamId).2 id lease until_ := by
  obtain ⟨job, found, holds, expiry, set, bound⟩ := lasts
  rw [JobStore.renewLease]
  by_cases same : id = id'
  · subst same
    refine ⟨_, JobStore.get_execute_self _ found, ?_⟩
    unfold Update.run
    split
    · exact ⟨holds, expiresAt, rfl, later⟩
    · exact ⟨holds, expiry, set, bound⟩
  · exact ⟨job, (JobStore.get_execute_of_ne _ same).trans found, holds, expiry, set, bound⟩

theorem store_renewOne (config : Config) (now : Millis) (state : Renewing)
    (item : InFlightReport) :
    (∃ jobId leaseId, item.jobId.str = some jobId ∧ item.leaseId.str = some leaseId ∧
        (renewOne config now state item).store =
          (state.store.renewLease jobId leaseId (now + config.leaseTtlMs)
            (reportedProgress item.progress) item.upstreamId.str).2) ∨
      (item.jobId.str = none ∨ item.leaseId.str = none) ∧
        (renewOne config now state item).store = state.store := by
  unfold renewOne
  cases item.jobId.str with
  | none => exact .inr ⟨.inl rfl, rfl⟩
  | some jobId =>
    cases item.leaseId.str with
    | none => exact .inr ⟨.inr rfl, rfl⟩
    | some leaseId =>
      refine .inl ⟨jobId, leaseId, rfl, rfl, ?_⟩
      dsimp only
      split <;> rfl

/-- Renewals leave a held row held, and give no lease less than a full term. -/
theorem lastsUntil_renewAll {now until_ : Millis} (later : until_ ≤ now + config.leaseTtlMs)
    {id lease : String} (items : List (Option InFlightReport)) {state : Renewing}
    (lasts : LastsUntil state.store id lease until_) :
    LastsUntil (renewAll config now items state).1.store id lease until_ := by
  induction items generalizing state with
  | nil => exact lasts
  | cons entry rest inductionHypothesis =>
    cases entry with
    | none => exact lasts
    | some item =>
      apply inductionHypothesis
      rcases store_renewOne config now state item with
        ⟨jobId, leaseId, -, -, same⟩ | ⟨-, same⟩
      · rw [same]
        exact lastsUntil_renewLease lasts later
      · rw [same]
        exact lasts

/-- A held row gets a full term from a poll that lists it. -/
theorem lastsUntil_of_listed (config : Config) (now : Millis) {id lease : String}
    {first : List (Option InFlightReport)} {item : InFlightReport}
    (rest : List (Option InFlightReport)) (fine : none ∉ first)
    (names : item.jobId.str = some id) (under : item.leaseId.str = some lease)
    (state : Renewing) {job : Job} (found : state.store.get id = some job)
    (holds : job.holds lease = true) :
    LastsUntil (renewAll config now (first ++ some item :: rest) state).1.store id lease
      (now + config.leaseTtlMs) := by
  induction first generalizing state job with
  | nil =>
    refine lastsUntil_renewAll le_rfl rest ?_
    rcases store_renewOne config now state item with
      ⟨jobId, leaseId, named, leased, same⟩ | ⟨missing | missing, -⟩
    · cases names.symm.trans named
      cases under.symm.trans leased
      rw [same, JobStore.renewLease]
      refine ⟨_, JobStore.get_execute_self _ found, ?_⟩
      simp only [Update.run, Update.applies, holds, if_true]
      exact ⟨holds, _, rfl, le_rfl⟩
    · cases names.symm.trans missing
    · cases under.symm.trans missing
  | cons entry first inductionHypothesis =>
    rw [List.mem_cons, not_or] at fine
    cases entry with
    | none => exact absurd rfl fine.1
    | some earlier =>
      rw [List.cons_append, renewAll]
      rcases store_renewOne config now state earlier with
        ⟨jobId, leaseId, -, -, same⟩ | ⟨-, same⟩
      · by_cases here : id = jobId
        · subst here
          have after := JobStore.get_execute_self (.renewLease leaseId (now + config.leaseTtlMs)
            (reportedProgress earlier.progress) earlier.upstreamId.str) found
          refine inductionHypothesis fine.2 _ (by rw [same]; exact after) ?_
          unfold Update.run
          split <;> exact holds
        · refine inductionHypothesis fine.2 _ ?_ holds
          rw [same]
          exact (JobStore.get_execute_of_ne _ here).trans found
      · exact inductionHypothesis fine.2 _ (by rw [same]; exact found) holds

/-- A claim takes queued rows: it leaves a held one alone. -/
theorem lastsUntil_claimed {state : Gateway} {pod : Pod} {slots : Nat} {id lease : String}
    {until_ : Millis} (lasts : LastsUntil state.store id lease until_) :
    LastsUntil (state.claimed platform config pod slots).store id lease until_ := by
  obtain ⟨job, found, holds, expiry⟩ := lasts
  refine ⟨job, ?_, holds, expiry⟩
  rw [Gateway.claimed, claimFor_eq]
  refine (dispatchAll_other _ _ _ fun taken => ?_).trans found
  obtain ⟨queued, member, rfl⟩ := List.mem_map.mp taken
  obtain ⟨present, waiting⟩ := (queued_taken pod slots state.store).2 queued member
  cases found.symm.trans present
  cases waiting.symm.trans (holds_iff.mp holds).1

/-- After a contact the lease, if it is held, has a full term. -/
theorem lastsUntil_of_contact (fires : (gateway platform prepare config).Fires t)
    {id lease : String} (contact : Contact platform config t id lease)
    (holds : Holds t.post id lease) :
    LastsUntil t.post.store id lease (t.pre.now + config.leaseTtlMs) := by
  have dispatched (dispatches : Dispatches platform config t id lease) :
      LastsUntil t.post.store id lease (t.pre.now + config.leaseTtlMs) := by
    obtain ⟨⟨job₀, before, queued⟩, ⟨job, found, held⟩, -⟩ := dispatches
    have change := rowChange fires id
    rw [before, found] at change
    cases change with
    | touched touches =>
      obtain ⟨turn, -, -, -, expiry⟩ := taken_of_touches touches queued (holds_iff.mp held).1
      exact ⟨job, found, held, _, expiry, le_rfl⟩
  cases contact with
  | dispatched dispatches => exact dispatched dispatches
  | @listed body sessionId podId action named lists =>
    rcases holds_origin fires holds with ⟨job, found, held⟩ | dispatches
    · obtain ⟨first, item, rest, listing, fine, names, under⟩ := lists
      have renewed : LastsUntil (t.pre.renewed config body podId sessionId).state.store id lease
          (t.pre.now + config.leaseTtlMs) := by
        have lasts := lastsUntil_of_listed config t.pre.now rest fine names under
          ⟨t.pre.store, [], [], []⟩ found held
        rw [← listing] at lasts
        exact lasts
      obtain ⟨pre, _, reply, post⟩ := t
      obtain rfl := action
      have stepped : pre.step platform prepare config (.poll body sessionId) =
        some (reply, post) := fires
      have stepped : pre.poll platform config body sessionId = (reply, post) :=
        Option.some.inj stepped
      rcases poll_cases platform config pre body sessionId with
        ⟨unnamed, -⟩ | ⟨podId', turn, named', rfl, ⟨-, threw⟩ | ⟨-, -, parked⟩ | ⟨-, -, answered⟩⟩
      · cases named.symm.trans unnamed
      all_goals cases named.symm.trans named'
      · rw [← (Prod.mk.inj (threw.symm.trans stepped)).2]
        exact renewed
      · rw [← (Prod.mk.inj (parked.symm.trans stepped)).2]
        exact lastsUntil_claimed renewed
      · rw [← (Prod.mk.inj (answered.symm.trans stepped)).2]
        exact lastsUntil_claimed renewed
    · exact dispatched dispatches

/-! ### Between contacts -/

/-- The recovery of a restart does not bring the end of the lease closer. -/
def Unshortened (config : Config) (id lease : String) (t : GatewayTransition) : Prop :=
  t.action = .restart → ∀ job expiresAt, t.pre.store.get id = some job →
    job.holds lease = true → job.leaseExpiresAt = some expiresAt →
    expiresAt ≤ t.pre.now + config.maxPollWaitMs * 2

/-- As long as the row is held under the lease, the lease lasts until then. -/
structure Lasting (platform : Platform) (config : Config) (id lease : String) (until_ : Millis)
    (state : Gateway) : Prop where
  minted : ∃ i < state.leases, lease = platform.newLeaseId i
  recent : until_ ≤ state.now + config.leaseTtlMs
  lasts : Holds state id lease → LastsUntil state.store id lease until_

theorem lasting_touches {lease : String} {until_ : Millis} {job job' : Job}
    (recent : until_ ≤ t.pre.now + config.leaseTtlMs)
    (recovery : t.action = .restart → until_ ≤ t.pre.now + config.maxPollWaitMs * 2)
    (touches : ReflTransGen (Touch platform config t) job job')
    (lasts : ∃ expiresAt, job.leaseExpiresAt = some expiresAt ∧ until_ ≤ expiresAt) :
    job'.holds lease = true →
      ∃ expiresAt, job'.leaseExpiresAt = some expiresAt ∧ until_ ≤ expiresAt := by
  induction touches with
  | refl => exact fun _ => lasts
  | @tail mid last touches touch inductionHypothesis =>
    intro holds
    cases touch with
    | renewed action listed names under holds' => exact ⟨_, rfl, recent⟩
    | claimed claims place queued => exact ⟨_, rfl, recent⟩
    | completed | acknowledged | retried | failed | lost | expired | overdue | forced
    | cancelled => cases (holds_iff.mp holds).1
    | flagged | cleared | mediaExpired => exact inductionHypothesis holds
    | recovered action inFlight => exact ⟨_, rfl, recovery action⟩

theorem lasting_step (fires : (gateway platform prepare config).Fires t) {id lease : String}
    {until_ : Millis} (unshortened : Unshortened config id lease t)
    (lasting : Lasting platform config id lease until_ t.pre) :
    Lasting platform config id lease until_ t.post := by
  obtain ⟨⟨i, minted, rfl⟩, recent, lasts⟩ := lasting
  have grows : t.pre.leases ≤ t.post.leases := (progresses fires).leases ▸ Nat.le_add_right _ _
  have later := now_le fires
  refine ⟨⟨i, minted.trans_le grows, rfl⟩, recent.trans (Int.add_le_add_right later _),
    fun holds => ?_⟩
  rcases holds_origin fires holds with earlier | dispatches
  · obtain ⟨job₀, before, held, expiry, set, bound⟩ := lasts earlier
    obtain ⟨job, found, held'⟩ := holds
    have change := rowChange fires id
    rw [before, found] at change
    cases change with
    | touched touches =>
      refine ⟨job, found, held', lasting_touches recent ?_ touches ⟨expiry, set, bound⟩ held'⟩
      intro restarts
      exact bound.trans (unshortened restarts job₀ expiry before held set)
  · obtain ⟨j, -, -, -, again⟩ := dispatches.minted
    have same := platform.newLeaseId_injective again
    omega

/-- A sweep whose first loop requeues or fails the job, held under the lease. -/
def LosesLease (t : GatewayTransition) (id lease : String) : Prop :=
  t.action = .sweep ∧ ∃ job, t.pre.store.get id = some job ∧ job.holds lease = true ∧
    job.leaseExpired t.pre.now = true

/-- Some step of the history heard of the pod at most a lease term ago. -/
def InTouch (platform : Platform) (config : Config) (history : List GatewayTransition)
    (id lease : String) (now : Millis) : Prop :=
  ∃ u ∈ history, Contact platform config u id lease ∧ now ≤ u.pre.now + config.leaseTtlMs

theorem lasting_of_contact (fires : (gateway platform prepare config).Fires t)
    {id lease : String}
    (minted : ∃ i < t.post.leases, lease = platform.newLeaseId i)
    (contact : Contact platform config t id lease) :
    Lasting platform config id lease (t.pre.now + config.leaseTtlMs) t.post :=
  ⟨minted, Int.add_le_add_right (now_le fires) _, lastsUntil_of_contact fires contact⟩

/-- Every restart leaves the end of the lease alone, or the pod is heard of after it. -/
def MadeGood (platform : Platform) (config : Config) (steps : List GatewayTransition)
    (id lease : String) : Prop :=
  ∀ first u second, steps = first ++ u :: second → Unshortened config id lease u ∨
    ∃ v ∈ second, Contact platform config v id lease

theorem MadeGood.suffix {lead steps : List GatewayTransition} {id lease : String}
    (madeGood : MadeGood platform config (lead ++ steps) id lease) :
    MadeGood platform config steps id lease := by
  intro first u second split
  apply madeGood (lead ++ first) u second
  rw [split, List.append_assoc]

/-- From the last contact on the lease lasts for a term. -/
theorem lasting_of_madeGood {final : Gateway} {u : GatewayTransition}
    {steps : List GatewayTransition} {id lease : String}
    (run : (gateway platform prepare config).Run u.post steps final)
    (lasting : Lasting platform config id lease (u.pre.now + config.leaseTtlMs) u.post)
    (madeGood : MadeGood platform config steps id lease)
    (silent : ∀ v ∈ steps, ¬ Contact platform config v id lease) :
    Lasting platform config id lease (u.pre.now + config.leaseTtlMs) final := by
  apply run.preserves lasting
  intro v member fires
  obtain ⟨first, second, split⟩ := List.append_of_mem member
  refine lasting_step fires ((madeGood first v second split).resolve_right ?_)
  rintro ⟨w, later, contact⟩
  exact silent w (split ▸ List.mem_append_right _ (List.mem_cons_of_mem _ later)) contact

/-- A pod that is heard of at least once a lease term never loses the lease to a
sweep, unless a restart after the last contact shortens it. -/
theorem working_pod_keeps_lease (platform : Platform) (prepare : Prepare) (config : Config)
    (run : GatewayRun platform prepare config)
    {before middle after : List GatewayTransition} {claim sweep : GatewayTransition}
    (split : run.trace = before ++ claim :: (middle ++ sweep :: after)) {id lease : String}
    (dispatches : Dispatches platform config claim id lease)
    (inTouch : InTouch platform config (claim :: middle) id lease sweep.pre.now)
    (madeGood : MadeGood platform config middle id lease) :
    ¬ LosesLease sweep id lease := by
  have whole := run.run
  rw [split] at whole
  obtain ⟨-, claims, rest⟩ := whole.split
  obtain ⟨between, -, -⟩ := rest.split
  have minted : ∃ i < claim.post.leases, lease = platform.newLeaseId i := by
    obtain ⟨i, job, place, -, minted⟩ := dispatches.minted
    exact ⟨_, index_lt claims place, minted⟩
  obtain ⟨u, member, heard⟩ := inTouch
  obtain ⟨first, last, second, parts, ⟨contact, recent⟩, none⟩ := Machine.exists_last
    (P := fun v => Contact platform config v id lease ∧
      sweep.pre.now ≤ v.pre.now + config.leaseTtlMs) member heard
  have placed : (gateway platform prepare config).Fires last ∧
      (gateway platform prepare config).Run last.post second sweep.pre ∧
      (∃ i < last.post.leases, lease = platform.newLeaseId i) ∧
      ∃ lead, middle = lead ++ second := by
    cases first with
    | nil =>
      obtain ⟨rfl, rfl⟩ := List.cons.inj parts
      exact ⟨claims, between, minted, [], rfl⟩
    | cons head first =>
      obtain ⟨rfl, rfl⟩ := List.cons.inj parts
      obtain ⟨prior, fires, since⟩ := between.split
      obtain ⟨i, bound, rfl⟩ := minted
      have grows : claim.post.leases ≤ last.post.leases :=
        (prior.snoc fires).monotone fun v fires =>
          (progresses fires).leases ▸ Nat.le_add_right _ _
      exact ⟨fires, since, ⟨i, bound.trans_le grows, rfl⟩, first ++ [last], by simp⟩
  obtain ⟨fires, since, minted, lead, rfl⟩ := placed
  have silent : ∀ v ∈ second, ¬ Contact platform config v id lease := by
    intro v inside contact
    have later : last.pre.now ≤ v.pre.now :=
      (since.invariant_at (P := fun state => last.pre.now ≤ state.now) (now_le fires)
        (fun _ fires late => late.trans (now_le fires)) inside).1
    exact none v inside ⟨contact, recent.trans (Int.add_le_add_right later _)⟩
  have lasting := lasting_of_madeGood since (lasting_of_contact fires minted contact)
    madeGood.suffix silent
  rintro ⟨-, job, found, holds, expired⟩
  obtain ⟨job', found', -, expiresAt, set, bound⟩ := lasting.lasts ⟨job, found, holds⟩
  cases found.symm.trans found'
  simp only [Job.leaseExpired, set, Option.any_some, Bool.and_eq_true, decide_eq_true_eq] at expired
  exact absurd (recent.trans bound) (not_le.mpr expired.2)

/-- No lease lasts longer than that from now on. -/
def TermsWithin (bound : Int) (state : Gateway) : Prop :=
  ∀ id job expiresAt, state.store.get id = some job → job.leaseExpiresAt = some expiresAt →
    expiresAt ≤ state.now + bound

theorem termsWithin_step {bound : Int} (term : config.leaseTtlMs ≤ bound)
    (recovery : config.maxPollWaitMs * 2 ≤ bound)
    (fires : (gateway platform prepare config).Fires t) (within : TermsWithin bound t.pre) :
    TermsWithin bound t.post := by
  have later := Int.add_le_add_right (now_le fires) bound
  have touched {job job' : Job} (touches : ReflTransGen (Touch platform config t) job job')
      (ends : ∀ expiresAt, job.leaseExpiresAt = some expiresAt → expiresAt ≤ t.pre.now + bound) :
      ∀ expiresAt, job'.leaseExpiresAt = some expiresAt → expiresAt ≤ t.pre.now + bound := by
    induction touches with
    | refl => exact ends
    | tail _ touch inductionHypothesis =>
      intro expiresAt set
      cases touch with
      | renewed | claimed =>
        cases set
        exact Int.add_le_add_left term _
      | recovered =>
        cases set
        exact Int.add_le_add_left recovery _
      | completed | acknowledged | retried | failed | lost | expired | overdue | forced =>
        cases set
      | cancelled | flagged | cleared | mediaExpired => exact inductionHypothesis expiresAt set
  intro id job expiresAt found set
  have change := rowChange fires id
  rw [found] at change
  cases before : t.pre.store.get id with
  | none =>
    rw [before] at change
    cases change with
    | created => cases set
  | some job₀ =>
    rw [before] at change
    cases change with
    | touched touches => exact (touched touches (within id job₀ · before) expiresAt set).trans later

/-- No lease lasts longer than the recovery of a restart would make it last. -/
def Recoverable (config : Config) (state : Gateway) : Prop :=
  ∀ id job expiresAt, state.store.get id = some job → job.leaseExpiresAt = some expiresAt →
    expiresAt ≤ state.now + config.maxPollWaitMs * 2

theorem recoverable_step (short : config.leaseTtlMs ≤ config.maxPollWaitMs * 2)
    (fires : (gateway platform prepare config).Fires t) (recoverable : Recoverable config t.pre) :
    Recoverable config t.post :=
  termsWithin_step short le_rfl fires recoverable

/-- With a lease term of at most two poll windows no restart shortens a lease. -/
theorem unshortened_of_config (short : config.leaseTtlMs ≤ config.maxPollWaitMs * 2)
    (run : GatewayRun platform prepare config) {u : GatewayTransition} (member : u ∈ run.trace)
    (id lease : String) : Unshortened config id lease u := by
  have recoverable := run.run.invariant_at (P := Recoverable config)
    (by
      intro id job expiresAt found
      simp [gateway, Gateway.empty, JobStore.get] at found)
    (fun t fires => recoverable_step short fires) member
  exact fun _ job expiresAt found _ set => recoverable.1 id job expiresAt found set

/-- No pod that stays in touch loses a lease to a sweep. -/
def LeaseKept (run : GatewayRun platform prepare config) : Prop :=
  ∀ before claim middle sweep after id lease,
    run.trace = before ++ claim :: (middle ++ sweep :: after) →
    Dispatches platform config claim id lease →
    InTouch platform config (claim :: middle) id lease sweep.pre.now → ¬ LosesLease sweep id lease

/-- The job comes to be held under a lease by the step. -/
def takesLease (t : GatewayTransition) (id lease : String) : Bool :=
  (t.pre.store.get id).all (·.state == .queued) && (t.post.store.get id).any (·.holds lease)

theorem dispatches_of_takesLease (fires : (gateway platform prepare config).Fires t)
    {id lease : String} (takes : takesLease t id lease = true) :
    Dispatches platform config t id lease := by
  rw [takesLease, Bool.and_eq_true, Option.any_eq_true] at takes
  obtain ⟨waits, job, found, holds⟩ := takes
  rcases holds_origin fires ⟨job, found, holds⟩ with ⟨job₀, before, held⟩ | dispatches
  · rw [before, Option.all_some, beq_iff_eq] at waits
    cases waits.symm.trans (holds_iff.mp held).1
  · exact dispatches

/-- A restart now would bring the end of the lease closer. -/
def shortens (config : Config) (t : GatewayTransition) (id lease : String) : Bool :=
  (t.pre.store.get id).any fun job => job.holds lease &&
    job.leaseExpiresAt.any (t.pre.now + config.maxPollWaitMs * 2 < ·)

theorem unshortened_of_shortens {id lease : String}
    (longer : shortens config t id lease = false) : Unshortened config id lease t := by
  intro _ job expiresAt found holds set
  simpa [shortens, found, holds, set] using longer

/-- The sample pod lists its job. -/
def sampleListing : Action := .poll (samplePoll "pod-a" [sampleReport "v" "L"]) "session"

/-- The sample pod claims the job and lists it after 40 s; the gateway is restarted before that
and long after, and sweeps shortly before the end of the lease. -/
def sampleRestarts : List Action :=
  sampleStart ++ [.resumePoll 0, .restart, .tick 40000, sampleListing, .tick 110000, .restart,
    .tick 155000, .sweep]

/-- A contact makes good whatever was before it. -/
theorem madeGood_of_contact {lead steps : List GatewayTransition} {v : GatewayTransition}
    {id lease : String} (contact : Contact platform config v id lease)
    (onward : ∀ u ∈ v :: steps, Unshortened config id lease u) :
    MadeGood platform config (lead ++ v :: steps) id lease := by
  intro first u second split
  rcases List.append_eq_append_iff.mp split with ⟨more, -, tail⟩ | ⟨more, -, tail⟩
  · exact .inl (onward u (tail ▸ List.mem_append_right _ List.mem_cons_self))
  · cases more with
    | nil =>
      obtain ⟨rfl, -⟩ := List.cons.inj tail
      exact .inl (onward u List.mem_cons_self)
    | cons w more =>
      obtain ⟨-, rfl⟩ := List.cons.inj tail
      exact .inr ⟨v, List.mem_append_right _ List.mem_cons_self, contact⟩

theorem contact_of_sampleListing (action : t.action = sampleListing) :
    Contact platform config t "v" "L" :=
  .listed action rfl ⟨[], sampleReport "v" "L", [], rfl, List.not_mem_nil, rfl, rfl⟩

/-- The first restart shortens the lease, and the listing makes that good. -/
theorem working_pod_keeps_lease_sample :
    ∃ before claim middle sweep after,
      (sampleRun .default sampleRestarts (by decide +kernel)).trace =
        before ++ claim :: (middle ++ sweep :: after) ∧
      (∃ u ∈ middle, u.action = .restart ∧ shortens .default u "v" "L" = true) ∧
      sweep.action = .sweep ∧ ¬ LosesLease sweep "v" "L" := by
  have facts : ((sampleRun .default sampleRestarts (by decide +kernel)).trace.drop 5).map
      (fun u => (u.pre.now, takesLease u "v" "L", shortens .default u "v" "L")) =
        [(0, true, false), (0, false, true), (0, false, false), (40000, false, false),
          (40000, false, true), (110000, false, false), (110000, false, false),
          (155000, false, false)] := by
    decide +kernel
  obtain ⟨before, rest, split, -, later, dropped⟩ :=
    Machine.Execution.perform_append (show ((gateway .counting samplePrepare .default).exec
      Gateway.empty sampleRestarts).isSome by decide +kernel)
  change (sampleRun .default sampleRestarts (by decide +kernel)).trace = before ++ rest at split
  change (sampleRun .default sampleRestarts (by decide +kernel)).trace.drop 5 = rest at dropped
  simp only [List.map_eq_cons_iff, List.map_eq_nil_iff] at later
  obtain ⟨claim, _, rfl, -, first, _, rfl, restarted, tick₁, _, rfl, -, listing, _, rfl, listed,
    tick₂, _, rfl, ticked₂, second, _, rfl, -, tick₃, _, rfl, ticked₃, sweep, _, rfl, swept,
    rfl⟩ := later
  rw [dropped] at facts
  simp only [List.map_cons, List.map_nil, List.cons.injEq, Prod.mk.injEq] at facts
  obtain ⟨⟨-, takes, -⟩, ⟨-, -, shorter⟩, -, ⟨heard, -, -⟩, -, ⟨-, -, longer⟩, -, ⟨late, -, -⟩, -⟩ :=
    facts
  have contact : Contact .counting .default listing "v" "L" := contact_of_sampleListing listed
  have fires : (gateway .counting samplePrepare .default).Fires claim := by
    apply (sampleRun .default sampleRestarts (by decide +kernel)).run.fires_of_mem
    rw [split]
    simp
  have inTouch : InTouch .counting .default
      (claim :: [first, tick₁, listing, tick₂, second, tick₃]) "v" "L" sweep.pre.now := by
    refine ⟨listing, by simp, contact, ?_⟩
    rw [late, heard]
    decide
  have madeGood : MadeGood .counting .default
      ([first, tick₁] ++ listing :: [tick₂, second, tick₃]) "v" "L" := by
    refine madeGood_of_contact contact fun u member restarts => ?_
    simp only [List.mem_cons, List.not_mem_nil, or_false] at member
    rcases member with rfl | rfl | rfl | rfl
    · cases listed.symm.trans restarts
    · cases ticked₂.symm.trans restarts
    · exact unshortened_of_shortens longer restarts
    · cases ticked₃.symm.trans restarts
  exact ⟨before, claim, [first, tick₁, listing, tick₂, second, tick₃], sweep, [], split,
    ⟨first, by simp, restarted, shorter⟩, swept,
    working_pod_keeps_lease .counting samplePrepare .default
      (sampleRun .default sampleRestarts (by decide +kernel)) split
      (dispatches_of_takesLease fires takes) inTouch madeGood⟩

/-- The sample pod claims the job and lists it again 100 s later; in between the gateway is
restarted and sweeps. -/
def sampleSweep : List Action :=
  sampleStart ++ .resumePoll 0 :: ([.restart, .tick 60000] ++ .sweep ::
    [.tick 100000, sampleListing])

/-- A restart brings the end of the lease closer, and the sweep requeues a job
whose pod is at work. -/
theorem not_leaseKept :
    ¬ LeaseKept (sampleRun .default sampleSweep (by decide +kernel)) := by
  intro kept
  obtain ⟨before, claim, middle, sweep, after, split, -, action, -, first, second⟩ :=
    Machine.Execution.perform_split₂ (show ((gateway .counting samplePrepare .default).exec
      Gateway.empty sampleSweep).isSome by decide +kernel)
  have claimed : (sampleRun .default sampleSweep (by decide +kernel)).trace[5]?.all (fun t =>
      takesLease t "v" "L" && decide (t.pre.now = 0)) = true := by decide +kernel
  have expired : (sampleRun .default sampleSweep (by decide +kernel)).trace[6 + 2]?.all (fun u =>
      decide (u.pre.now = 60000) && (u.pre.store.get "v").any fun job =>
        job.holds "L" && job.leaseExpired u.pre.now) = true := by decide +kernel
  rw [show (sampleRun .default sampleSweep (by decide +kernel)).trace[5]? = some claim from first,
    Option.all_some, Bool.and_eq_true, decide_eq_true_eq] at claimed
  rw [show (sampleRun .default sampleSweep (by decide +kernel)).trace[6 + 2]? = some sweep
    from second, Option.all_some, Bool.and_eq_true, decide_eq_true_eq, Option.any_eq_true] at expired
  obtain ⟨late, job, found, both⟩ := expired
  rw [Bool.and_eq_true] at both
  have fires := (sampleRun .default sampleSweep (by decide +kernel)).run.fires_of_mem
    (t := claim) (List.mem_of_getElem? first)
  have dispatches := dispatches_of_takesLease fires claimed.1
  have inTouch : InTouch .counting .default (claim :: middle) "v" "L" sweep.pre.now := by
    refine ⟨claim, List.mem_cons_self, .dispatched dispatches, ?_⟩
    rw [claimed.2, late]
    decide
  exact kept before claim middle sweep after "v" "L" split dispatches inTouch
    ⟨action, job, found, both.1, both.2⟩

end InferenceGateway
