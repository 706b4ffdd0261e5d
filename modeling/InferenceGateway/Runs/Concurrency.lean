import InferenceGateway.Runs.Consistency
import InferenceGateway.Runs.Polls
import InferenceGateway.Runs.Renewals
import Mathlib.Data.Finset.Card
import Mathlib.Data.List.ReduceOption

/-!
# The concurrency a pod declared

A poll computes its free slots from the jobs it lists, not from the jobs the
store has in flight for its pod.  The cap holds after a claim exactly when the
listed jobs account for those of the store, or the queue is too short to matter.
-/

namespace InferenceGateway

open Library

variable {platform : Platform} {prepare : Prepare} {config : Config} {t : GatewayTransition}

/-- The jobs a poll lists under the leases their rows hold. -/
def PollBody.listed (body : PollBody) (store : JobStore) : Finset String :=
  ((body.inFlight.getD []).reduceOption.filterMap fun item => item.renews store).toFinset

/-- The number of queued jobs a claim of the poll may take from. -/
def PollBody.offered (body : PollBody) (store : JobStore) : Nat :=
  ((store.listQueued 100).filter fun job =>
    some job.model = resolveModelId body.modelPath.str && (getModel (some job.model)).isSome).length

/-! ### Renewals -/

/-- What a poll knows of its pod and of the pod's jobs once the leases are renewed. -/
theorem renewed_spec {state : Gateway} {body : PollBody} {podId sessionId : String}
    (fine : (state.renewed config body podId sessionId).thrown = false) :
    (state.renewed config body podId sessionId).pod.podId = podId ∧
      (state.renewed config body podId sessionId).pod.maxInFlight =
        declaredConcurrency body.maxInFlight ∧
      (state.renewed config body podId sessionId).pod.model =
        resolveModelId body.modelPath.str ∧
      (state.renewed config body podId sessionId).renewing.owned.length =
        (body.listed state.store).card ∧
      Renews state.store (state.renewed config body podId sessionId).state.store := by
  obtain ⟨-, named, model, declared, -⟩ :=
    PodStore.touch_spec state.pods (body.heartbeat podId sessionId) state.now
  obtain ⟨renews, owned⟩ := renewAll_spec config state.now (body.inFlight.getD [])
    ⟨state.store, [], [], []⟩
  obtain ⟨nodup, members⟩ := owned fine List.nodup_nil
  refine ⟨named, declared, by rw [Pod.model]; exact congrArg _ model, ?_, renews⟩
  have same : (state.renewed config body podId sessionId).renewing.owned.toFinset =
      body.listed state.store := by
    ext id
    rw [List.mem_toFinset, PollBody.listed, List.mem_toFinset, List.mem_filterMap]
    refine (members id).trans ?_
    simp [List.reduceOption_mem_iff]
  rw [← same, List.toFinset_card_of_nodup]
  exact nodup

/-! ### The cap -/

/-- A claim adds to the jobs of its pod as many as it takes. -/
theorem length_listByPod_claimed (state : Gateway) (pod : Pod) (slots : Nat) :
    ((state.claimed platform config pod slots).store.listByPod pod.podId).length =
      (state.store.listByPod pod.podId).length + min slots (state.store.eligible pod).length := by
  rw [Gateway.claimed, claimFor_eq]
  refine (listByPod_dispatchAll _ (queued_taken pod slots state.store)).trans ?_
  rw [JobStore.taken, List.length_take]

/-- The poll `u` of the pod, which declared `body`, is answered with work. -/
structure Assigns (before : List GatewayTransition) (t u : GatewayTransition)
    (body : PollBody) (podId : String) : Prop where
  answers : Answers before t u body
  named : body.podId.str = some podId
  work : ∃ response, t.reply = .poll response ∧ response.assign ≠ []

/-- The step answers a poll with work. -/
def GatewayTransition.givesWork (t : GatewayTransition) : Bool :=
  match t.reply with
  | .poll response => !response.assign.isEmpty
  | _ => false

/-- The pod has no more jobs in flight than the poll declared. -/
def WithinCap (state : Gateway) (podId : String) (body : PollBody) : Prop :=
  (state.store.listByPod podId).length ≤ declaredConcurrency body.maxInFlight

/-- The jobs in flight after an answer with work. -/
theorem length_listByPod_assigns {before : List GatewayTransition} {u : GatewayTransition}
    {body : PollBody} {podId : String}
    (run : (gateway platform prepare config).Run (gateway platform prepare config).initial
      before t.pre) (fires : (gateway platform prepare config).Fires t)
    (assigns : Assigns before t u body podId) :
    (body.listed u.pre.store).card < declaredConcurrency body.maxInFlight ∧
      (t.post.store.listByPod podId).length = (t.pre.store.listByPod podId).length +
        min (declaredConcurrency body.maxInFlight - (body.listed u.pre.store).card)
          (body.offered t.pre.store) := by
  obtain ⟨answers, named, response, reply, work⟩ := assigns
  -- Both kinds of answer claim with the pod and the slots of a poll that renewed.
  have counted (state : Gateway) {sessionId : String}
      (fine : (u.pre.renewed config body podId sessionId).thrown = false)
      (renews : Renews t.pre.store state.store)
      (taken : state.store.taken (u.pre.renewed config body podId sessionId).pod
        (u.pre.renewed config body podId sessionId).slots ≠ [])
      (store : t.post.store = (state.claimed platform config
        (u.pre.renewed config body podId sessionId).pod
        (u.pre.renewed config body podId sessionId).slots).store) :
      (body.listed u.pre.store).card < declaredConcurrency body.maxInFlight ∧
        (t.post.store.listByPod podId).length = (t.pre.store.listByPod podId).length +
          min (declaredConcurrency body.maxInFlight - (body.listed u.pre.store).card)
            (body.offered t.pre.store) := by
    obtain ⟨named, declared, model, owned, -⟩ := renewed_spec fine
    generalize u.pre.renewed config body podId sessionId = turn at *
    have free : turn.slots ≠ 0 := by
      intro closed
      rw [closed, JobStore.taken, List.take_zero] at taken
      exact taken rfl
    have slots : turn.slots =
        declaredConcurrency body.maxInFlight - (body.listed u.pre.store).card := by
      unfold Renewed.slots freeSlots at free ⊢
      split at free
      · exact absurd rfl free
      · next ready => rw [if_neg ready, declared, owned]
    have eligible : (state.store.eligible turn.pod).length = body.offered t.pre.store := by
      rw [JobStore.eligible, PollBody.offered, renews.listQueued, ← model]
      rfl
    refine ⟨by omega, ?_⟩
    rw [store, ← named, length_listByPod_claimed, renews.length_listByPod, eligible, slots]
  have pairs {state : Gateway} {pod : Pod} {slots : Nat} (nonempty :
      (state.claimFor platform config pod slots).assignments ≠ []) :
      state.store.taken pod slots ≠ [] := by
    intro nothing
    rw [claimFor_eq, nothing] at nonempty
    exact nonempty rfl
  have stepped : t.pre.step platform prepare config t.action = some (t.reply, t.post) := fires
  obtain ⟨⟨sessionId, polls⟩, rfl | ⟨member, token, pending, resumes⟩⟩ := answers
  · rw [polls] at stepped
    have stepped : u.pre.poll platform config body sessionId = (u.reply, u.post) :=
      Option.some.inj stepped
    rw [reply] at stepped
    rcases poll_cases platform config u.pre body sessionId with
      ⟨-, refused⟩ | ⟨podId', turn, named', rfl, ⟨-, threw⟩ | ⟨-, -, parked⟩ |
        ⟨fine, -, answered⟩⟩
    · cases refused.symm.trans stepped
    · cases threw.symm.trans stepped
    · cases parked.symm.trans stepped
    · cases named.symm.trans named'
      obtain ⟨replied, store⟩ := Prod.mk.inj (answered.symm.trans stepped)
      cases replied
      exact counted _ fine (renewed_spec fine).2.2.2.2 (pairs work) (by rw [← store])
  · rw [resumes] at stepped
    obtain ⟨parked, woken, found, ⟨rfl, replied, store⟩ | ⟨-, replied, -⟩⟩ :=
      resumePoll_cases stepped
    · obtain ⟨-, parks⟩ :=
        parks_of_answers run resumes found ⟨⟨sessionId, polls⟩, .inr ⟨member, token, pending, resumes⟩⟩
      obtain ⟨sessionId', podId', -, named', fine, -, rfl⟩ := parks.poll
      cases named.symm.trans named'
      cases reply.symm.trans replied
      exact counted (t.pre.unpark token) fine (.refl _) (pairs work) (by rw [store]; rfl)
    · cases reply.symm.trans replied
      exact absurd rfl work

/-- A pod that is answered with work stays within the concurrency it declared if
and only if the store has no more jobs in flight for it than the poll listed,
or the queue offers no more than the declared number leaves free. -/
theorem concurrency_cap (platform : Platform) (prepare : Prepare) (config : Config)
    (run : GatewayRun platform prepare config) {before after : List GatewayTransition}
    {t u : GatewayTransition} {body : PollBody} {podId : String}
    (split : run.trace = before ++ t :: after) (assigns : Assigns before t u body podId) :
    WithinCap t.post podId body ↔
      (t.pre.store.listByPod podId).length ≤ (body.listed u.pre.store).card ∨
        (t.pre.store.listByPod podId).length + body.offered t.pre.store ≤
          declaredConcurrency body.maxInFlight := by
  have whole := run.run
  rw [split] at whole
  obtain ⟨earlier, fires, -⟩ := whole.split
  obtain ⟨free, grown⟩ := length_listByPod_assigns earlier fires assigns
  unfold WithinCap
  omega

/-- Every poll that is answered with work leaves its pod within what it declared. -/
def ConcurrencyCapped (run : GatewayRun platform prepare config) : Prop :=
  ∀ before t after u body podId, run.trace = before ++ t :: after →
    Assigns before t u body podId → WithinCap t.post podId body

/-- A sample run that ends with a poll that is answered with work. -/
theorem assigns_last (actions : List Action) (body : PollBody) (sessionId podId : String)
    (accepted : ((gateway .counting samplePrepare .default).exec Gateway.empty
      (actions ++ [.poll body sessionId])).isSome) (named : body.podId.str = some podId)
    (work : (sampleRun .default (actions ++ [.poll body sessionId])
      accepted).trace.getLast?.any GatewayTransition.givesWork = true) :
    ∃ before t, (sampleRun .default (actions ++ [.poll body sessionId]) accepted).trace =
        before ++ [t] ∧ Assigns before t t body podId := by
  obtain ⟨before, t, trace, action⟩ := Machine.Execution.perform_last accepted
  refine ⟨before, t, trace, ⟨⟨sessionId, action⟩, .inl rfl⟩, named, ?_⟩
  rw [trace, List.getLast?_concat] at work
  unfold GatewayTransition.givesWork at work
  cases reply : t.reply <;> simp [reply] at work
  exact ⟨_, rfl, work⟩

/-- A second pod of the sample fleet is answered with the queued job. -/
theorem concurrency_cap_sample :
    ∃ before t, (sampleRun .default (sampleStart ++ [.poll (samplePoll "pod-b" []) "session"])
        (by decide +kernel)).trace = before ++ [t] ∧
      WithinCap t.post "pod-b" (samplePoll "pod-b" []) := by
  obtain ⟨before, t, split, assigns⟩ := assigns_last sampleStart
    (samplePoll "pod-b" []) "session" "pod-b" (by decide +kernel) rfl (by decide +kernel)
  have idle : (sampleRun .default (sampleStart ++ [.poll (samplePoll "pod-b" []) "session"])
      (by decide +kernel)).trace.getLast?.all
        (fun t => (t.pre.store.listByPod "pod-b").isEmpty) = true := by decide +kernel
  rw [split, List.getLast?_concat] at idle
  refine ⟨before, t, split, (concurrency_cap .counting samplePrepare .default _ split
    assigns).mpr (.inl ?_)⟩
  rw [List.isEmpty_iff.mp idle]
  exact Nat.zero_le _

/-- The answer that assigned the first job is lost, and the pod polls again. -/
def sampleLostAnswer : List Action :=
  sampleStart ++ [.resumePoll 0, .createVideo sampleVideo, .advance 2 .proceed,
    .advance 2 .proceed, .advance 2 .proceed]

/-- A pod that runs one job at a time ends up with two. -/
theorem not_concurrencyCapped :
    ¬ ConcurrencyCapped (sampleRun .default
      (sampleLostAnswer ++ [.poll (samplePoll "pod-a" []) "session"]) (by decide +kernel)) := by
  intro capped
  obtain ⟨before, t, split, assigns⟩ := assigns_last sampleLostAnswer
    (samplePoll "pod-a" []) "session" "pod-a" (by decide +kernel) rfl (by decide +kernel)
  have crowded : (sampleRun .default
      (sampleLostAnswer ++ [.poll (samplePoll "pod-a" []) "session"])
      (by decide +kernel)).trace.getLast?.all
        (fun t => (t.post.store.listByPod "pod-a").length == 2) = true := by decide +kernel
  rw [split, List.getLast?_concat] at crowded
  have within := capped before t [] t _ _ split assigns
  rw [WithinCap, beq_iff_eq.mp crowded] at within
  exact absurd within (by decide +kernel)

end InferenceGateway
