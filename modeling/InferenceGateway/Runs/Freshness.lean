import InferenceGateway.Runs.Tasks

/-!
# Clock, counters and fresh identifiers

The clock and the counters never go back, so no step mints an identifier that
an earlier one minted, and a row is only created under an id that no row had.
-/

namespace InferenceGateway

open Library

variable {platform : Platform} {prepare : Prepare} {config : Config} {t : GatewayTransition}

/-- Time passes in `tick` only, every dispatch mints a lease, and no counter goes back. -/
structure Progresses (config : Config) (t : GatewayTransition) : Prop where
  now : t.post.now = t.pre.now ∨ t.action = .tick t.post.now ∧ t.pre.now ≤ t.post.now
  tokens : t.pre.tokens ≤ t.post.tokens
  leases : t.post.leases = t.pre.leases + (dispatched config t).length
  videos : t.pre.videos ≤ t.post.videos

theorem now_claimed (state : Gateway) (pod : Pod) (slots : Nat) :
    (state.claimed platform config pod slots).now = state.now := by
  simp [Gateway.claimed, claimFor_eq, Gateway.now]

theorem leases_claimed (turn : ClaimTurn) (claims : claimTurn config t = some turn)
    (same : turn.state.leases = t.pre.leases) :
    (turn.state.claimed platform config turn.pod turn.slots).leases =
      t.pre.leases + (dispatched config t).length := by
  simp [Gateway.claimed, claimFor_eq, dispatched, claims, ClaimTurn.taken, same]

theorem now_renewed (state : Gateway) (body : PollBody) (podId sessionId : String) :
    (state.renewed config body podId sessionId).state.now = state.now :=
  clock_renewAll _ _ _

/-- What a poll that got as far as claiming does to the clock and the counters. -/
theorem progresses_polled {body : PollBody} {sessionId podId : String}
    (action : t.action = .poll body sessionId) (named : body.podId.str = some podId)
    (fine : (t.pre.renewed config body podId sessionId).thrown = false)
    (after : t.post.store = ((t.pre.renewed config body podId sessionId).state.claimed platform config
      (t.pre.renewed config body podId sessionId).pod
      (t.pre.renewed config body podId sessionId).slots).store)
    (tokens : t.pre.tokens ≤ t.post.tokens)
    (leases : t.post.leases = ((t.pre.renewed config body podId sessionId).state.claimed platform
      config (t.pre.renewed config body podId sessionId).pod
      (t.pre.renewed config body podId sessionId).slots).leases)
    (videos : t.post.videos = t.pre.videos) : Progresses config t := by
  have claims := claimTurn_poll action named fine
  refine ⟨.inl ?_, tokens, ?_, videos.ge⟩
  · rw [Gateway.now, after]
    exact (now_claimed _ _ _).trans (now_renewed ..)
  · rw [leases]
    exact leases_claimed _ claims rfl

section Cleanup

open Cleanup

theorem clock_cleanup (task : CleanupTask) (stores : Stores) :
    (task.advance config stores).2.store.clock = stores.store.clock := by
  unfold CleanupTask.advance
  split
  · rfl
  · dsimp only
    rw [store_expireNext]
    simp [JobStore.clearInput, JobStore.setArtifacts]
  · rfl
  · next root rest later _ =>
    rcases store_visit config task.now task.result root later stores rest with same | purged
    · rw [same]
    · rw [purged]
      rfl
  · rfl
  · rfl

end Cleanup

theorem clock_create {store store' : JobStore} {job : NewJob}
    (inserted : store.create job = some store') : store'.clock = store.clock := by
  obtain ⟨jobs, -, rfl⟩ := Option.map_eq_some_iff.mp inserted
  rfl

theorem Progresses.of_clock (clock : t.post.now = t.pre.now) (tokens : t.post.tokens = t.pre.tokens)
    (leases : t.post.leases = t.pre.leases) (videos : t.post.videos = t.pre.videos)
    (idle : claimTurn config t = none) : Progresses config t := by
  refine ⟨.inl clock, tokens.ge, ?_, videos.ge⟩
  rw [leases, dispatched, idle]
  rfl

/-- Every step progresses. -/
theorem progresses (fires : (gateway platform prepare config).Fires t) : Progresses config t := by
  obtain ⟨pre, action, reply, post⟩ := t
  have effect : Effect platform config pre action reply post := effect fires
  cases effect with
  | ticked later => exact ⟨.inr ⟨rfl, later⟩, le_rfl, rfl, le_rfl⟩
  | unadmitted | timedOut | unaccepted | refused | making | writing | uncreated | streaming
  | dropped | stored | removed | drained | shutdown => exact .of_clock rfl rfl rfl rfl rfl
  | creating => exact ⟨.inl rfl, Nat.le_succ _, rfl, Nat.le_succ _⟩
  | uploading | sweeping => exact ⟨.inl rfl, Nat.le_succ _, rfl, le_rfl⟩
  | deleted after clock => exact .of_clock clock rfl rfl rfl rfl
  | unnamed named => exact .of_clock rfl rfl rfl rfl (by simp [claimTurn, named])
  | threw named thrown =>
    exact .of_clock (now_renewed ..) rfl rfl rfl (by simp [claimTurn, named, thrown])
  | parked named renewed fine =>
    subst renewed
    exact progresses_polled rfl named fine rfl (Nat.le_succ pre.tokens) rfl rfl
  | answered named renewed fine =>
    subst renewed
    exact progresses_polled rfl named fine rfl (Nat.le_refl pre.tokens) rfl rfl
  | @woken _ parked found =>
    exact ⟨.inl (now_claimed _ _ _), le_rfl,
      leases_claimed ⟨pre.unpark _, parked.pod, parked.slots⟩ (claimTurn_resumePoll rfl found) rfl,
      le_rfl⟩
  | released found => exact .of_clock rfl rfl rfl rfl (by simp [claimTurn, found])
  | superseded | retried => exact .of_clock (JobStore.clock_execute _ _ _) rfl rfl rfl rfl
  | accepted => exact ⟨.inl (JobStore.clock_execute _ _ _), Nat.le_succ _, rfl, le_rfl⟩
  | created _ _ inserted => exact .of_clock (clock_create inserted) rfl rfl rfl rfl
  | @finished _ task =>
    refine .of_clock ?_ rfl rfl rfl rfl
    change (if task.clears then pre.store.clearInput task.id else pre.store).clock = pre.now
    split
    · exact JobStore.clock_execute _ _ _
    · rfl
  | @cleaning _ task _ _ running advanced | @cleaned _ task _ _ running advanced =>
    have clock : (task.advance config pre.toStores).2.store.clock = pre.now := clock_cleanup ..
    rw [advanced] at clock
    exact .of_clock clock rfl rfl rfl rfl
  | requeued | swept => exact .of_clock (clock_sweep ..) rfl rfl rfl rfl
  | restarted =>
    refine .of_clock ?_ rfl rfl rfl rfl
    simp only [Gateway.restart, Gateway.now, JobStore.recoverOnStartup]
    split <;> rfl

theorem now_le (fires : (gateway platform prepare config).Fires t) : t.pre.now ≤ t.post.now := by
  rcases (progresses fires).now with same | ⟨-, later⟩
  · exact same.ge
  · exact later

/-! ### Fresh video ids -/

/-- Ids belong to rows or to running creations, never to two of them. -/
structure Fresh (platform : Platform) (state : Gateway) : Prop where
  token_lt : ∀ k task, state.tasks.lookup k = some task → k < state.tokens
  creation_id : ∀ k c, state.tasks.lookup k = some (.creation c) →
    ∃ i < state.videos, c.job.id = platform.newVideoId i
  creation_known : ∀ k c, state.tasks.lookup k = some (.creation c) →
    c.job.model ∈ modelNames ∧ c.job.createdAt ≤ state.now ∧ c.job.inputPath.root = .inputs
  creation_absent : ∀ k c, state.tasks.lookup k = some (.creation c) →
    state.store.get c.job.id = none
  creation_injective : ∀ k k' c c', state.tasks.lookup k = some (.creation c) →
    state.tasks.lookup k' = some (.creation c') → c.job.id = c'.job.id → k = k'
  row_id : ∀ id job, state.store.get id = some job →
    ∃ i < state.videos, id = platform.newVideoId i

/-- A creation that runs after a step ran before it, or was started by it. -/
theorem creation_origin (fires : (gateway platform prepare config).Fires t) {k : Nat}
    {c : Creation} (running : t.post.tasks.lookup k = some (.creation c)) :
    (∃ c₀, t.pre.tasks.lookup k = some (.creation c₀) ∧ c.job = c₀.job) ∨
      k = t.pre.tokens ∧ c.job.id = platform.newVideoId t.pre.videos ∧
        t.post.videos = t.pre.videos + 1 ∧ c.job.model ∈ modelNames ∧
        c.job.createdAt = t.pre.now ∧ c.job.inputPath.root = .inputs := by
  have change := taskChange fires k
  rw [running] at change
  generalize before : t.pre.tasks.lookup k = earlier at change
  generalize after : some (Task.creation c) = later at change
  cases change with
  | same =>
    subst after
    exact .inl ⟨c, rfl, rfl⟩
  | spawned fresh counted spawned =>
    cases after
    cases spawned with
    | creation action id registered createdAt input minted =>
      exact .inr ⟨fresh, id, minted, registered, createdAt, input⟩
  | continued action continues =>
    cases after
    cases continues with
    | creation job image => exact .inl ⟨_, rfl, job⟩
  | returned => cases after
  | lost => cases after

/-- A row that a step creates belonged to a creation, which returns. -/
theorem row_origin (fires : (gateway platform prepare config).Fires t) {id : String} {job : Job}
    (found : t.post.store.get id = some job) (absent : t.pre.store.get id = none) :
    ∃ k c, t.action = .advance k .proceed ∧ t.pre.tasks.lookup k = some (.creation c) ∧
      c.job.id = id ∧ job = c.job.row ∧ t.post.tasks.lookup k = none := by
  have change := rowChange fires id
  rw [found, absent] at change
  cases change with
  | created action running named returned => exact ⟨_, _, action, running, named, rfl, returned⟩

theorem fresh_step (fires : (gateway platform prepare config).Fires t)
    (fresh : Fresh platform t.pre) : Fresh platform t.post := by
  have grows := progresses fires
  have later := now_le fires
  have unminted : t.pre.store.get (platform.newVideoId t.pre.videos) = none := by
    cases found : t.pre.store.get (platform.newVideoId t.pre.videos) with
    | none => rfl
    | some job =>
      obtain ⟨i, lt, same⟩ := fresh.row_id _ _ found
      rw [platform.newVideoId_injective same] at lt
      exact absurd lt (Nat.lt_irrefl _)
  constructor
  · intro k task running
    have change := taskChange fires k
    rw [running] at change
    generalize before : t.pre.tasks.lookup k = earlier at change
    generalize after : some task = afterwards at change
    cases change with
    | same =>
      subst after
      exact (fresh.token_lt k task before).trans_le grows.tokens
    | spawned new counted spawned => omega
    | continued action continues =>
      exact (fresh.token_lt k _ before).trans_le grows.tokens
    | returned => cases after
    | lost => cases after
  · intro k c running
    rcases creation_origin fires running with ⟨c₀, earlier, job⟩ | ⟨-, id, minted, -, -⟩
    · obtain ⟨i, lt, same⟩ := fresh.creation_id k c₀ earlier
      exact ⟨i, lt.trans_le grows.videos, job ▸ same⟩
    · exact ⟨t.pre.videos, by omega, id⟩
  · intro k c running
    rcases creation_origin fires running with ⟨c₀, earlier, job⟩ | ⟨-, -, -, known, created, input⟩
    · rw [job]
      obtain ⟨known, created, input⟩ := fresh.creation_known k c₀ earlier
      exact ⟨known, created.trans later, input⟩
    · exact ⟨known, created ▸ later, input⟩
  · intro k c running
    cases found : t.post.store.get c.job.id with
    | none => rfl
    | some job =>
      exfalso
      rcases creation_origin fires running with ⟨c₀, earlier, same⟩ | ⟨-, id, -, -, -⟩
      · have absent := fresh.creation_absent k c₀ earlier
        rw [← same] at absent
        obtain ⟨k', c', -, running', named, -, returned⟩ := row_origin fires found absent
        obtain rfl := fresh.creation_injective k k' c₀ c' earlier running'
          (same ▸ named.symm)
        rw [running] at returned
        cases returned
      · rw [← id] at unminted
        obtain ⟨k', c', -, running', named, -, -⟩ := row_origin fires found unminted
        obtain ⟨i, lt, minted⟩ := fresh.creation_id k' c' running'
        rw [named, id] at minted
        rw [platform.newVideoId_injective minted] at lt
        exact absurd lt (Nat.lt_irrefl _)
  · intro k k' c c' running running' same
    have minted {k : Nat} {c : Creation} (earlier : t.pre.tasks.lookup k = some (.creation c)) :
        c.job.id ≠ platform.newVideoId t.pre.videos := by
      intro clash
      obtain ⟨i, lt, id⟩ := fresh.creation_id k c earlier
      rw [platform.newVideoId_injective (clash.symm.trans id)] at lt
      exact absurd lt (Nat.lt_irrefl _)
    rcases creation_origin fires running with ⟨c₀, earlier, job⟩ | ⟨new, id, -, -, -⟩ <;>
      rcases creation_origin fires running' with ⟨c₁, earlier', job'⟩ | ⟨new', id', -, -, -⟩
    · exact fresh.creation_injective k k' c₀ c₁ earlier earlier' (by rw [← job, ← job', same])
    · exact absurd (by rw [← job, same, id']) (minted earlier)
    · exact absurd (by rw [← job', ← same, id]) (minted earlier')
    · exact new.trans new'.symm
  · intro id job found
    cases absent : t.pre.store.get id with
    | some job₀ =>
      obtain ⟨i, lt, same⟩ := fresh.row_id id job₀ absent
      exact ⟨i, lt.trans_le grows.videos, same⟩
    | none =>
      obtain ⟨k, c, -, running, named, -, -⟩ := row_origin fires found absent
      obtain ⟨i, lt, same⟩ := fresh.creation_id k c running
      exact ⟨i, lt.trans_le grows.videos, named ▸ same⟩

theorem fresh_initial : Fresh platform (gateway platform prepare config).initial := by
  constructor <;> · intros; simp_all [gateway, Gateway.empty, JobStore.get]

/-- No row under the id has existed yet. -/
def Unborn (platform : Platform) (state : Gateway) (id : String) : Prop :=
  (∃ k c, state.tasks.lookup k = some (.creation c) ∧ c.job.id = id) ∨
    ∃ i ≥ state.videos, id = platform.newVideoId i

theorem get_of_unborn {state : Gateway} {id : String} (fresh : Fresh platform state)
    (unborn : Unborn platform state id) : state.store.get id = none := by
  rcases unborn with ⟨k, c, running, rfl⟩ | ⟨i, le, rfl⟩
  · exact fresh.creation_absent k c running
  · cases found : state.store.get (platform.newVideoId i) with
    | none => rfl
    | some job =>
      obtain ⟨j, lt, same⟩ := fresh.row_id _ _ found
      have := platform.newVideoId_injective same
      omega

/-- What is unborn after a step was unborn before it. -/
theorem unborn_of_post (fires : (gateway platform prepare config).Fires t) {id : String}
    (unborn : Unborn platform t.post id) : Unborn platform t.pre id := by
  rcases unborn with ⟨k, c, running, rfl⟩ | ⟨i, le, rfl⟩
  · rcases creation_origin fires running with ⟨c₀, earlier, job⟩ | ⟨-, id, -, -, -⟩
    · exact .inl ⟨k, c₀, earlier, by rw [job]⟩
    · exact .inr ⟨_, le_rfl, id⟩
  · exact .inr ⟨i, (progresses fires).videos.trans le, rfl⟩

/-- Only an unborn id gets a row. -/
theorem unborn_of_created (fires : (gateway platform prepare config).Fires t) {id : String}
    {job : Job} (found : t.post.store.get id = some job) (absent : t.pre.store.get id = none) :
    Unborn platform t.pre id := by
  obtain ⟨k, c, -, running, named, -, -⟩ := row_origin fires found absent
  exact .inl ⟨k, c, running, named⟩

theorem fresh_of_run {trace : List GatewayTransition} {final : Gateway}
    (run : (gateway platform prepare config).Run (gateway platform prepare config).initial
      trace final) : Fresh platform final :=
  run.invariant fresh_initial fun _ => fresh_step

end InferenceGateway
