import InferenceGateway.Runs.Fencing
import InferenceGateway.Runs.Polls

/-!
# Dispatch gating

A poll claims for the pod it has just registered.  A parked poll that is woken
claims for the pod as it was when the poll parked, so its claim is gated only
as far as the registry still agrees with that snapshot.
-/

namespace InferenceGateway

open Library Relation

variable {platform : Platform} {prepare : Prepare} {config : Config} {t : GatewayTransition}

/-- The step moves the job from the queue to the pod. -/
structure ClaimsFor (t : GatewayTransition) (podId : String) (job : Job) : Prop where
  queued : ∃ job₀, t.pre.store.get job.id = some job₀ ∧ job₀.state = .queued
  running : t.post.store.get job.id = some job ∧ job.state = .inProgress
  owner : job.podId = some podId

/-- The registry has the pod ready, not draining, and serving the job's model. -/
def Gated (pods : PodStore) (podId : String) (job : Job) : Prop :=
  ∃ pod, pods.get podId = some pod ∧ pod.draining = false ∧ pod.sglangReady = true ∧
    pod.model = some job.model

/-- The registry has the pod as the snapshot has it, where dispatch looks at it. -/
def Current (pods : PodStore) (snapshot : Pod) : Prop :=
  ∃ pod, pods.get snapshot.podId = some pod ∧ pod.draining = snapshot.draining ∧
    pod.sglangReady = snapshot.sglangReady ∧ pod.model = snapshot.model

/-- No woken poll runs on with a snapshot the registry has moved away from. -/
def SnapshotCurrent (t : GatewayTransition) : Prop :=
  ∀ token parked, t.action = .resumePoll token →
    t.pre.waiters.settled.find? (fun entry => entry.1.token = token) = some (parked, true) →
    Current t.pre.pods parked.pod

/-- A claim takes jobs of the model its pod serves, and only with a free slot. -/
theorem serves_of_taken {turn : ClaimTurn} {job : Job} (taken : job ∈ turn.taken) :
    turn.pod.model = some job.model ∧ turn.slots ≠ 0 := by
  constructor
  · have runs := canRun_of_taken _ _ _ job taken
    simp only [Pod.canRun, Bool.and_eq_true, decide_eq_true_eq] at runs
    exact runs.1.symm
  · intro closed
    rw [ClaimTurn.taken, closed, JobStore.taken, List.take_zero] at taken
    cases taken

theorem ready_of_slots {turn : Renewed} (free : turn.slots ≠ 0) :
    turn.pod.draining = false ∧ turn.pod.sglangReady = true := by
  unfold Renewed.slots freeSlots at free
  split at free
  · exact absurd rfl free
  · next ready => simpa using ready

/-- The pod a poll claims for is the row it has just registered. -/
theorem get_pods_renewed (config : Config) (state : Gateway) (body : PollBody)
    (podId sessionId : String) :
    (state.renewed config body podId sessionId).state.pods.get
        (state.renewed config body podId sessionId).pod.podId =
      some (state.renewed config body podId sessionId).pod := by
  obtain ⟨registered, named, -⟩ :=
    PodStore.touch_spec state.pods (body.heartbeat podId sessionId) state.now
  have same : (state.renewed config body podId sessionId).pod.podId = podId := named
  rw [same]
  exact registered

/-- What a claim knows of its pod: the registry's row, or an old one that was ready. -/
theorem pod_of_claim {before : List GatewayTransition} {turn : ClaimTurn}
    (run : (gateway platform prepare config).Run (gateway platform prepare config).initial
      before t.pre) (fires : (gateway platform prepare config).Fires t)
    (claims : claimTurn config t = some turn) (free : turn.slots ≠ 0) :
    turn.pod.draining = false ∧ turn.pod.sglangReady = true ∧
      ((∃ body sessionId, t.action = .poll body sessionId) ∧
          t.post.pods.get turn.pod.podId = some turn.pod ∨
        ∃ token parked, t.action = .resumePoll token ∧
          t.pre.waiters.settled.find? (fun entry => entry.1.token = token) =
            some (parked, true) ∧
          turn.pod = parked.pod ∧ t.post.pods = t.pre.pods) := by
  have stepped : t.pre.step platform prepare config t.action = some (t.reply, t.post) := fires
  unfold claimTurn at claims
  split at claims
  · next body sessionId action =>
    split at claims
    · cases claims
    · next podId named =>
      dsimp only at claims
      split at claims
      · cases claims
      · next fine =>
        cases claims
        obtain ⟨undrained, ready⟩ := ready_of_slots free
        refine ⟨undrained, ready, .inl ⟨⟨body, sessionId, action⟩, ?_⟩⟩
        rw [action] at stepped
        have stepped : t.pre.poll platform config body sessionId = (t.reply, t.post) :=
          Option.some.inj stepped
        rcases poll_cases platform config t.pre body sessionId with
          ⟨unnamed, -⟩ | ⟨podId', turn, named', rfl, ⟨threw, -⟩ | ⟨-, -, parked⟩ | ⟨-, -, answered⟩⟩
        · cases named.symm.trans unnamed
        · cases named.symm.trans named'
          exact absurd threw fine
        · cases named.symm.trans named'
          rw [← (Prod.mk.inj (parked.symm.trans stepped)).2]
          exact get_pods_renewed config t.pre body podId sessionId
        · cases named.symm.trans named'
          rw [← (Prod.mk.inj (answered.symm.trans stepped)).2]
          exact get_pods_renewed config t.pre body podId sessionId
  · next token action =>
    split at claims
    · next parked found =>
      cases claims
      have settled := List.mem_of_find?_eq_some found
      obtain ⟨u, member, body, parks⟩ :=
        parked_origin run (Waiters.mem_polls.mpr (.inr ⟨true, settled⟩))
      obtain ⟨sessionId, podId, -, -, -, -, rfl⟩ := parks.poll
      obtain ⟨undrained, ready⟩ := ready_of_slots free
      refine ⟨undrained, ready, .inr ⟨token, _, action, found, rfl, ?_⟩⟩
      rw [action] at stepped
      rcases resumePoll_cases stepped with ⟨_, _, -, ⟨-, -, post⟩ | ⟨-, -, post⟩⟩
      · rw [post]
        rfl
      · rw [post]
        rfl
    · cases claims
  · cases claims

/-- Every claim of a run is gated by the registry at that moment if and only if
it is not made on a snapshot of a parked poll that has gone stale. -/
theorem dispatch_gating (platform : Platform) (prepare : Prepare) (config : Config)
    (run : GatewayRun platform prepare config) {t : GatewayTransition} (member : t ∈ run.trace)
    {podId : String} {job : Job} (claims : ClaimsFor t podId job) :
    Gated t.post.pods podId job ↔ SnapshotCurrent t := by
  obtain ⟨before, after, split⟩ := List.append_of_mem member
  have whole := run.run
  rw [split] at whole
  obtain ⟨earlier, fires, -⟩ := whole.split
  obtain ⟨⟨job₀, found, queued⟩, ⟨found', running⟩, owner⟩ := claims
  have change := rowChange fires job.id
  rw [found, found'] at change
  cases change with
  | touched touches =>
    obtain ⟨turn, turns, taken, owner', -⟩ := taken_of_touches touches queued running
    obtain ⟨serves, free⟩ := serves_of_taken taken
    rw [← (fixed_touches touches).2.2] at serves
    cases owner.symm.trans owner'
    obtain ⟨undrained, ready, ⟨⟨body, sessionId, action⟩, registered⟩ |
      ⟨token, parked, action, settled, pod, pods⟩⟩ := pod_of_claim earlier fires turns free
    · constructor
      · intro _ token parked resumes
        cases action.symm.trans resumes
      · intro _
        exact ⟨turn.pod, registered, undrained, ready, serves⟩
    · rw [pods, pod]
      rw [pod] at undrained ready serves
      constructor
      · rintro ⟨row, registered, undrained', ready', serves'⟩ token' parked' resumes settled'
        cases action.symm.trans resumes
        cases settled.symm.trans settled'
        exact ⟨row, registered, undrained'.trans undrained.symm, ready'.trans ready.symm,
          serves'.trans serves.symm⟩
      · intro current
        obtain ⟨row, registered, undrained', ready', serves'⟩ :=
          current token parked action settled
        exact ⟨row, registered, undrained'.trans undrained, ready'.trans ready,
          serves'.trans serves⟩

/-- Every claim of the run is gated. -/
def DispatchGated (run : GatewayRun platform prepare config) : Prop :=
  ∀ t ∈ run.trace, ∀ podId job, ClaimsFor t podId job → Gated t.post.pods podId job

/-- The rows a step moves from the queue to a pod. -/
def claimedRows (t : GatewayTransition) (podId : String) : List Job :=
  t.post.store.jobs.rows.filter fun job =>
    (t.pre.store.get job.id).any (·.state == .queued) && job.state == .inProgress &&
      job.podId == some podId

theorem claimsFor_of_mem {podId : String} {job : Job} (member : job ∈ claimedRows t podId) :
    ClaimsFor t podId job := by
  obtain ⟨stored, claimed⟩ := List.mem_filter.mp member
  simp only [Bool.and_eq_true, Option.any_eq_true, beq_iff_eq] at claimed
  exact ⟨claimed.1.1, ⟨JobStore.get_of_mem stored, claimed.1.2⟩, claimed.2⟩

/-- A woken poll of the sample fleet whose pod is still registered as it was. -/
theorem dispatch_gating_sample :
    ∃ t ∈ (sampleRun .default (sampleStart ++ [.resumePoll 0]) sampleStart_resumes).trace,
      ∃ job, ClaimsFor t "pod-a" job ∧ (Gated t.post.pods "pod-a" job ↔ SnapshotCurrent t) := by
  obtain ⟨before, t, split, -⟩ := Machine.Execution.perform_last sampleStart_resumes
  have claims : (sampleRun .default (sampleStart ++ [.resumePoll 0])
      sampleStart_resumes).trace.getLast?.all (fun t => !(claimedRows t "pod-a").isEmpty) = true := by
    decide +kernel
  rw [split, List.getLast?_concat] at claims
  obtain ⟨job, member⟩ := List.exists_mem_of_ne_nil (claimedRows t "pod-a") (by simpa using claims)
  have inside : t ∈ (sampleRun .default (sampleStart ++ [.resumePoll 0])
      sampleStart_resumes).trace := by
    rw [split]
    simp
  exact ⟨t, inside, job, claimsFor_of_mem member,
    dispatch_gating .counting samplePrepare .default _ inside (claimsFor_of_mem member)⟩

/-- The pod is drained while its poll is parked, and a video wakes it. -/
def sampleDrained : List Action :=
  [.poll (samplePoll "pod-a" []) "session", .createVideo sampleVideo, .drain "pod-a" true,
    .advance 1 .proceed, .advance 1 .proceed, .advance 1 .proceed]

/-- A draining pod is given new work. -/
theorem not_dispatchGated :
    ¬ DispatchGated (sampleRun .default (sampleDrained ++ [.resumePoll 0])
      (by decide +kernel)) := by
  intro gated
  obtain ⟨before, t, split, -⟩ := Machine.Execution.perform_last
    (show ((gateway .counting samplePrepare .default).exec Gateway.empty
      (sampleDrained ++ [.resumePoll 0])).isSome by decide +kernel)
  have claims : (sampleRun .default (sampleDrained ++ [.resumePoll 0])
      (by decide +kernel)).trace.getLast?.all (fun t => !(claimedRows t "pod-a").isEmpty &&
        (t.post.pods.get "pod-a").all (·.draining)) = true := by decide +kernel
  rw [split, List.getLast?_concat, Option.all_some, Bool.and_eq_true] at claims
  obtain ⟨job, member⟩ :=
    List.exists_mem_of_ne_nil (claimedRows t "pod-a") (by simpa using claims.1)
  obtain ⟨pod, registered, undrained, -⟩ := gated t (by rw [split]; simp) "pod-a" job
    (claimsFor_of_mem member)
  rw [registered, Option.all_some, undrained] at claims
  cases claims.2

end InferenceGateway
