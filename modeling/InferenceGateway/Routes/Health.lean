import InferenceGateway.Routes.Models

/-!
# Liveness and fleet capacity

Aggregate counts for anybody who asks.
-/

namespace InferenceGateway

structure FleetSnapshot where
  connected : Nat
  ready : Nat
  draining : Nat
  slotsTotal : Nat
  slotsBusy : Nat

/-- `GET /health`, with times in seconds. -/
structure Health where
  time : Int
  queueDepth : Nat
  queued : Nat
  running : Nat
  oldestQueuedAgeS : Int
  pods : FleetSnapshot

theorem countP_or {α : Type} {p q : α → Bool} (apart : ∀ a, p a = true → q a = false)
    (elements : List α) :
    elements.countP (fun a => p a || q a) = elements.countP p + elements.countP q := by
  induction elements with
  | nil => rfl
  | cons a elements inductionHypothesis =>
    rw [List.countP_cons, List.countP_cons, List.countP_cons, inductionHypothesis]
    by_cases first : p a = true
    · simp [first, apart a first]
      omega
    · simp [first]
      omega

namespace Gateway

variable (config : Config) (state : Gateway)

/-- One turn of the loop over the connected pods. -/
def countPod (snapshot : FleetSnapshot) (pod : Pod) : FleetSnapshot :=
  let inFlight := (state.store.listByPod pod.podId).length
  { connected := snapshot.connected
    ready := snapshot.ready + if pod.sglangReady && !pod.draining then 1 else 0
    draining := snapshot.draining + if pod.draining then 1 else 0
    slotsBusy := snapshot.slotsBusy + inFlight
    slotsTotal := snapshot.slotsTotal + (freeSlots pod inFlight + inFlight) }

def fleet : FleetSnapshot :=
  let connected := state.connectedPods config
  connected.foldl state.countPod ⟨connected.length, 0, 0, 0, 0⟩

def health : Health where
  time := seconds state.now
  queueDepth := state.store.countQueued + state.store.countRunning
  queued := state.store.countQueued
  running := state.store.countRunning
  oldestQueuedAgeS :=
    match state.store.oldestQueuedAt.filter (· ≠ 0) with
    | some queuedAt => mathRound (((state.now - queuedAt : Int) : ℚ) / 1000)
    | none => 0
  pods := state.fleet config

/-! ### What the counts are -/

/-- Slots of a pod: the ones it can still fill, and the ones in use. -/
def slotsOf (pod : Pod) : Nat :=
  let inFlight := (state.store.listByPod pod.podId).length
  freeSlots pod inFlight + inFlight

def busyOf (pod : Pod) : Nat := (state.store.listByPod pod.podId).length

theorem fold_countPod (pods : List Pod) (snapshot : FleetSnapshot) :
    pods.foldl state.countPod snapshot = {
      connected := snapshot.connected
      ready := snapshot.ready + pods.countP fun pod => pod.sglangReady && !pod.draining
      draining := snapshot.draining + pods.countP Pod.draining
      slotsTotal := snapshot.slotsTotal + (pods.map state.slotsOf).sum
      slotsBusy := snapshot.slotsBusy + (pods.map state.busyOf).sum } := by
  induction pods generalizing snapshot with
  | nil => rfl
  | cons pod pods inductionHypothesis =>
    rw [List.foldl_cons, inductionHypothesis]
    simp only [countPod, List.countP_cons, List.map_cons, List.sum_cons, slotsOf, busyOf]
    congr 1 <;> omega

/-- In-flight jobs of connected pods are counted once each. -/
theorem sum_busyOf (pods : List Pod) (distinct : (pods.map Pod.podId).Nodup) :
    (pods.map state.busyOf).sum = state.store.jobs.rows.countP fun job =>
      job.state == .inProgress && pods.any fun pod => job.podId == some pod.podId := by
  induction pods with
  | nil => simp
  | cons pod pods inductionHypothesis =>
    rw [List.map_cons, List.nodup_cons] at distinct
    obtain ⟨fresh, distinct⟩ := distinct
    have elsewhere : ∀ other ∈ pods, other.podId ≠ pod.podId := by
      intro other member same
      exact fresh (same ▸ List.mem_map_of_mem member)
    have apart (job : Job) (own : (job.podId == some pod.podId && job.state == .inProgress) = true) :
        (job.state == .inProgress && pods.any fun other => job.podId == some other.podId) = false := by
      rw [Bool.and_eq_true, beq_iff_eq] at own
      simp only [Bool.and_eq_false_iff, List.any_eq_false, own.1, beq_iff_eq, Option.some.injEq]
      exact .inr fun other member same => elsewhere other member same.symm
    rw [List.map_cons, List.sum_cons, inductionHypothesis distinct, busyOf, JobStore.listByPod,
      JobStore.byCreation, List.length_insertionSort, ← List.countP_eq_length_filter,
      ← countP_or apart]
    congr 1
    funext job
    rw [List.any_cons, Bool.and_or_distrib_left, Bool.and_comm]

/-- The counts of `GET /health` tell of the rows. -/
structure Tells (health : Health) : Prop where
  queueDepth : health.queueDepth = state.store.jobs.rows.countP fun job => !job.state.isTerminal
  idle : health.queued = 0 → health.oldestQueuedAgeS = 0
  oldest : ∀ job ∈ state.store.jobs.rows, job.state = .queued →
    (∀ other ∈ state.store.jobs.rows, other.state = .queued → job.createdAt ≤ other.createdAt) →
      job.createdAt ≠ 0 →
        health.oldestQueuedAgeS = mathRound (((state.now - job.createdAt : Int) : ℚ) / 1000)
  apart : health.pods.ready + health.pods.draining ≤ health.pods.connected
  /-- Jobs in flight on connected pods are counted once each. -/
  busy : health.pods.slotsBusy = state.store.jobs.rows.countP fun job =>
    job.state == .inProgress &&
      (state.connectedPods config).any fun pod => job.podId == some pod.podId
  /-- A pod that takes no work counts for what it still runs. -/
  total : health.pods.slotsTotal = ((state.connectedPods config).map fun pod =>
    if pod.sglangReady && !pod.draining then max pod.maxInFlight (state.busyOf pod)
    else state.busyOf pod).sum

theorem fleet_eq : state.fleet config = {
    connected := (state.connectedPods config).length
    ready := (state.connectedPods config).countP fun pod => pod.sglangReady && !pod.draining
    draining := (state.connectedPods config).countP Pod.draining
    slotsTotal := ((state.connectedPods config).map state.slotsOf).sum
    slotsBusy := ((state.connectedPods config).map state.busyOf).sum } := by
  rw [fleet, fold_countPod]
  simp only [Nat.zero_add]

theorem slotsOf_eq (pod : Pod) : state.slotsOf pod =
    if pod.sglangReady && !pod.draining then max pod.maxInFlight (state.busyOf pod)
    else state.busyOf pod := by
  unfold slotsOf busyOf freeSlots
  cases pod.sglangReady <;> cases pod.draining <;> simp
  omega

theorem nodup_connectedPods : ((state.connectedPods config).map Pod.podId).Nodup :=
  state.pods.nodup.sublist (List.filter_sublist.map Pod.podId)

theorem oldestQueuedAt_eq {store : JobStore} {job : Job} (row : job ∈ store.jobs.rows)
    (queued : job.state = .queued)
    (oldest : ∀ other ∈ store.jobs.rows, other.state = .queued → job.createdAt ≤ other.createdAt) :
    store.oldestQueuedAt = some job.createdAt := by
  rw [JobStore.oldestQueuedAt, List.min?_eq_some_iff]
  constructor
  · exact List.mem_map_of_mem (List.mem_filter.mpr ⟨row, by simp [queued]⟩)
  · intro createdAt member
    obtain ⟨other, waiting, rfl⟩ := List.mem_map.mp member
    obtain ⟨row', queued'⟩ := List.mem_filter.mp waiting
    exact oldest other row' (by simpa using queued')

theorem tells_health : state.Tells config (state.health config) := by
  constructor
  case queueDepth =>
    have apart (job : Job) (queued : (job.state == .queued) = true) :
        (job.state == .inProgress) = false := by
      rw [beq_iff_eq] at queued
      rw [queued]
      rfl
    have split := countP_or apart state.store.jobs.rows
    have same : (fun job : Job => job.state == .queued || job.state == .inProgress) =
        fun job => !job.state.isTerminal := by
      funext job
      cases job.state <;> rfl
    rw [← same, split]
    rfl
  case idle =>
    intro none
    have waiting : (state.store.jobs.rows.filter fun job => job.state == .queued) = [] := by
      rw [← List.length_eq_zero_iff, ← List.countP_eq_length_filter]
      exact none
    simp [health, JobStore.oldestQueuedAt, waiting]
  case oldest =>
    intro job row queued oldest created
    have kept : (some job.createdAt).filter (· ≠ 0) = some job.createdAt := by
      rw [Option.filter_some, if_pos (decide_eq_true created)]
    rw [health, oldestQueuedAt_eq row queued oldest, kept]
  case apart =>
    have split := (state.connectedPods config).length_eq_countP_add_countP Pod.draining
    have fewer : (state.connectedPods config).countP (fun pod => pod.sglangReady && !pod.draining) ≤
        (state.connectedPods config).countP fun pod => ¬ pod.draining := by
      apply List.countP_mono_left
      intro pod _ usable
      simp_all
    rw [health, fleet_eq]
    dsimp only
    omega
  case busy =>
    rw [health, fleet_eq]
    exact state.sum_busyOf _ (state.nodup_connectedPods config)
  case total =>
    rw [health, fleet_eq]
    exact congrArg List.sum (List.map_congr_left fun pod _ => state.slotsOf_eq pod)

end Gateway

end InferenceGateway
