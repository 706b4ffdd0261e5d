import InferenceGateway.Routes.Agent

/-!
# The renewals of a poll

A renewal changes neither the state, the owner, the lease nor the cancel flag of
a row.  So what the loop collects about each entry is decided by the rows the
poll met.
-/

namespace InferenceGateway

open Library

/-- The job an entry renews: it names the lease the row holds. -/
def InFlightReport.renews (store : JobStore) (item : InFlightReport) : Option String :=
  match item.jobId.str, item.leaseId.str with
  | some jobId, some leaseId =>
    if (store.get jobId).any (·.holds leaseId) then some jobId else none
  | _, _ => none

/-- A row whose lease may have been renewed: it keeps its state and its owner. -/
structure Job.RenewedTo (job job' : Job) : Prop where
  id : job'.id = job.id
  state : job'.state = job.state
  podId : job'.podId = job.podId
  leaseId : job'.leaseId = job.leaseId
  cancelRequested : job'.cancelRequested = job.cancelRequested
  queued : job.state = .queued → job' = job

/-- The rows stay in place, with some leases renewed. -/
def Renews (before after : JobStore) : Prop :=
  ∃ f : Job → Job, after.jobs.rows = before.jobs.rows.map f ∧ ∀ job : Job, job.RenewedTo (f job)

theorem Renews.refl (store : JobStore) : Renews store store :=
  ⟨id, by simp, fun _ => ⟨rfl, rfl, rfl, rfl, rfl, fun _ => rfl⟩⟩

theorem Renews.trans {first second third : JobStore} (left : Renews first second)
    (right : Renews second third) : Renews first third := by
  obtain ⟨f, rows, renewed⟩ := left
  obtain ⟨g, rows', renewed'⟩ := right
  refine ⟨g ∘ f, by rw [rows', rows, List.map_map], fun job => ?_⟩
  have first := renewed job
  have second := renewed' (f job)
  refine ⟨second.id.trans first.id, second.state.trans first.state,
    second.podId.trans first.podId, second.leaseId.trans first.leaseId,
    second.cancelRequested.trans first.cancelRequested, fun queued => ?_⟩
  have stays : f job = job := first.queued queued
  rw [Function.comp_apply, second.queued (first.state.trans queued), stays]

theorem renews_renewLease (store : JobStore) (id leaseId : String) (expiresAt : Millis)
    (progress : Option ℚ) (upstreamId : Option String) :
    Renews store (store.renewLease id leaseId expiresAt progress upstreamId).2 := by
  refine ⟨_, by rw [JobStore.renewLease, JobStore.jobs_execute]; rfl, fun job => ?_⟩
  dsimp only
  split
  · next selected =>
    refine ⟨rfl, rfl, rfl, rfl, rfl, fun queued => ?_⟩
    simp [Update.applies, Job.holds, queued] at selected
  · exact ⟨rfl, rfl, rfl, rfl, rfl, fun _ => rfl⟩

section Renews

variable {before after : JobStore}

theorem Renews.listQueued (renews : Renews before after) (limit : Nat) :
    after.listQueued limit = before.listQueued limit := by
  obtain ⟨f, rows, renewed⟩ := renews
  have waiting : after.jobs.rows.filter (fun job => job.state == .queued) =
      before.jobs.rows.filter fun job => job.state == .queued := by
    rw [rows, List.filter_map]
    have same : (fun job : Job => job.state == .queued) ∘ f = fun job => job.state == .queued := by
      funext job
      simp [(renewed job).state]
    rw [same]
    conv_rhs => rw [← List.map_id (before.jobs.rows.filter _)]
    apply List.map_congr_left
    intro job member
    exact (renewed job).queued (by simpa using (List.mem_filter.mp member).2)
  rw [JobStore.listQueued, JobStore.listQueued, waiting]

theorem Renews.length_listByPod (renews : Renews before after) (podId : String) :
    (after.listByPod podId).length = (before.listByPod podId).length := by
  obtain ⟨f, rows, renewed⟩ := renews
  simp only [JobStore.listByPod, JobStore.byCreation, List.length_insertionSort, rows,
    List.filter_map, List.length_map]
  congr 2
  funext job
  simp [(renewed job).state, (renewed job).podId]

theorem Renews.any_get (renews : Renews before after) (id : String) {p : Job → Bool}
    (agree : ∀ {job job' : Job}, job.RenewedTo job' → p job' = p job) :
    (after.get id).any p = (before.get id).any p := by
  obtain ⟨f, rows, renewed⟩ := renews
  simp only [JobStore.get, Table.get?, rows, List.find?_map]
  have same : (fun row : Job => decide (row.id = id)) ∘ f = fun row => decide (row.id = id) := by
    funext job
    simp [(renewed job).id]
  rw [same]
  cases before.jobs.rows.find? fun row => decide (row.id = id) with
  | none => rfl
  | some job => exact agree (renewed job)

theorem Renews.holds (renews : Renews before after) (id lease : String) :
    (after.get id).any (·.holds lease) = (before.get id).any (·.holds lease) :=
  renews.any_get id fun renewed => by simp [Job.holds, renewed.state, renewed.leaseId]

theorem Renews.requested (renews : Renews before after) (id : String) :
    (after.get id).any (·.cancelRequested) = (before.get id).any (·.cancelRequested) :=
  renews.any_get id fun renewed => renewed.cancelRequested

theorem Renews.renews (renewal : Renews before after) (item : InFlightReport) :
    item.renews after = item.renews before := by
  unfold InFlightReport.renews
  split
  · rw [renewal.holds]
  · rfl

end Renews

theorem renewOne_spec (config : Config) (now : Millis) (state : Renewing)
    (item : InFlightReport) :
    Renews state.store (renewOne config now state item).store ∧
      (renewOne config now state item).owned =
        match item.renews state.store with
        | some jobId =>
          if jobId ∈ state.owned then state.owned else state.owned ++ [jobId]
        | none => state.owned := by
  unfold renewOne InFlightReport.renews
  cases item.jobId.str with
  | none => exact ⟨.refl _, rfl⟩
  | some jobId =>
    cases item.leaseId.str with
    | none => exact ⟨.refl _, rfl⟩
    | some leaseId =>
      have renews := renews_renewLease state.store jobId leaseId (now + config.leaseTtlMs)
        (reportedProgress item.progress) item.upstreamId.str
      have renewed : (state.store.renewLease jobId leaseId (now + config.leaseTtlMs)
          (reportedProgress item.progress) item.upstreamId.str).1 =
            (state.store.get jobId).any (·.holds leaseId) := by
        rw [JobStore.renewLease, JobStore.execute_fst]
        rfl
      dsimp only
      rw [renewed]
      cases (state.store.get jobId).any (·.holds leaseId) with
      | true => exact ⟨renews, rfl⟩
      | false => exact ⟨renews, rfl⟩

/-- The jobs still owned after a renewal that did not throw are those listed
under their lease, each once. -/
theorem renewAll_spec (config : Config) (now : Millis) (items : List (Option InFlightReport))
    (state : Renewing) :
    Renews state.store (renewAll config now items state).1.store ∧
      ((renewAll config now items state).2 = false → state.owned.Nodup →
        (renewAll config now items state).1.owned.Nodup ∧
          ∀ id, id ∈ (renewAll config now items state).1.owned ↔
            id ∈ state.owned ∨ ∃ item, some item ∈ items ∧ item.renews state.store = some id) := by
  induction items generalizing state with
  | nil => exact ⟨.refl _, fun _ distinct => ⟨distinct, by simp [renewAll]⟩⟩
  | cons entry rest inductionHypothesis =>
    cases entry with
    | none => exact ⟨.refl _, nofun⟩
    | some item =>
      obtain ⟨renews, owned⟩ := renewOne_spec config now state item
      obtain ⟨later, collected⟩ := inductionHypothesis (renewOne config now state item)
      refine ⟨renews.trans later, fun fine distinct => ?_⟩
      have distinct' : (renewOne config now state item).owned.Nodup := by
        rw [owned]
        cases item.renews state.store with
        | none => exact distinct
        | some jobId =>
          by_cases known : jobId ∈ state.owned
          · simpa [known] using distinct
          · simp only [known, if_false]
            apply List.nodup_append.mpr
            refine ⟨distinct, List.nodup_singleton jobId, fun id member other single same => ?_⟩
            rw [List.mem_singleton] at single
            exact known (single ▸ same ▸ member)
      obtain ⟨nodup, members⟩ := collected fine distinct'
      refine ⟨nodup, fun id => ?_⟩
      have one : id ∈ (renewOne config now state item).owned ↔
          id ∈ state.owned ∨ item.renews state.store = some id := by
        rw [owned]
        cases item.renews state.store with
        | none => simp
        | some jobId =>
          by_cases known : jobId ∈ state.owned
          · simp only [known, if_true, Option.some.injEq]
            exact ⟨.inl, fun either => either.elim (fun earlier => earlier) (· ▸ known)⟩
          · simp [known, eq_comm]
      refine (members id).trans ?_
      rw [one]
      simp only [renews.renews, List.mem_cons, Option.some.injEq]
      constructor
      · rintro ((earlier | first) | ⟨other, member, renewed⟩)
        · exact .inl earlier
        · exact .inr ⟨item, .inl rfl, first⟩
        · exact .inr ⟨other, .inr member, renewed⟩
      · rintro (earlier | ⟨other, rfl | member, renewed⟩)
        · exact .inl (.inl earlier)
        · exact .inl (.inr renewed)
        · exact .inr ⟨other, member, renewed⟩

/-! ### The lists of the answer -/

/-- What one renewal adds to the lists. -/
theorem lists_renewOne (config : Config) (now : Millis) (state : Renewing)
    (item : InFlightReport) (id : String) :
    (id ∈ (renewOne config now state item).orphan → id ∈ state.orphan ∨
        ∃ lease, item.jobId.str = some id ∧ item.leaseId.str = some lease ∧
          (state.store.get id).any (·.holds lease) = false) ∧
      (id ∈ (renewOne config now state item).cancel → id ∈ state.cancel ∨
        ((renewOne config now state item).store.get id).any (·.cancelRequested) = true) := by
  unfold renewOne
  cases names : item.jobId.str with
  | none => exact ⟨.inl, .inl⟩
  | some jobId =>
    cases under : item.leaseId.str with
    | none => exact ⟨.inl, .inl⟩
    | some leaseId =>
      dsimp only
      split
      · next refused =>
        refine ⟨fun member => ?_, .inl⟩
        rcases List.mem_append.mp member with earlier | here
        · exact .inl earlier
        · obtain rfl := List.mem_singleton.mp here
          rw [Bool.not_eq_true', JobStore.renewLease, JobStore.execute_fst] at refused
          exact .inr ⟨leaseId, rfl, rfl, refused⟩
      · refine ⟨.inl, fun member => ?_⟩
        dsimp only at member
        split at member
        · next requested =>
          rcases List.mem_append.mp member with earlier | here
          · exact .inl earlier
          · obtain rfl := List.mem_singleton.mp here
            exact .inr requested
        · exact .inl member

/-- What is orphaned was listed under a lease that its row did not hold. -/
theorem orphan_renewAll {config : Config} {now : Millis} {id : String}
    (items : List (Option InFlightReport)) {state : Renewing}
    (member : id ∈ (renewAll config now items state).1.orphan) :
    id ∈ state.orphan ∨ ∃ item lease, some item ∈ items ∧ item.jobId.str = some id ∧
      item.leaseId.str = some lease ∧ (state.store.get id).any (·.holds lease) = false := by
  induction items generalizing state with
  | nil => exact .inl member
  | cons entry rest inductionHypothesis =>
    cases entry with
    | none => exact .inl member
    | some item =>
      rcases inductionHypothesis member with earlier | ⟨other, lease, listed, names, under, unheld⟩
      · refine ((lists_renewOne config now state item id).1 earlier).imp_right ?_
        rintro ⟨lease, names, under, unheld⟩
        exact ⟨item, lease, .head _, names, under, unheld⟩
      · rw [(renewOne_spec config now state item).1.holds] at unheld
        exact .inr ⟨other, lease, .tail _ listed, names, under, unheld⟩

/-- What is cancelled had its flag set. -/
theorem cancel_renewAll {config : Config} {now : Millis} {id : String}
    (items : List (Option InFlightReport)) {state : Renewing}
    (member : id ∈ (renewAll config now items state).1.cancel) :
    id ∈ state.cancel ∨ (state.store.get id).any (·.cancelRequested) = true := by
  induction items generalizing state with
  | nil => exact .inl member
  | cons entry rest inductionHypothesis =>
    cases entry with
    | none => exact .inl member
    | some item =>
      have requested := (renewOne_spec config now state item).1.requested id
      rcases inductionHypothesis member with earlier | later
      · refine ((lists_renewOne config now state item id).2 earlier).imp_right fun found => ?_
        exact requested ▸ found
      · exact .inr (requested ▸ later)

end InferenceGateway
