import InferenceGateway.Runs.Concurrency

/-!
# What a poll waits for

How a parked poll comes to its answer, and which polls the gateway parks: those
of pods that have room for another job.
-/

namespace InferenceGateway

open Library

variable {platform : Platform} {prepare : Prepare} {config : Config}

/-! ### Waits -/

/-- A poll whose wait settles in a step was woken, released by the shutdown, or its timer fired;
nobody waits under its token any longer. -/
theorem wait_settled {t : GatewayTransition} (fires : (gateway platform prepare config).Fires t)
    {parked : ParkedPoll} {woken : Bool}
    (member : (parked, woken) ∈ t.post.waiters.settled) :
    (parked, woken) ∈ t.pre.waiters.settled ∨
      parked ∈ t.pre.waiters.waiting ∧
        (∀ other ∈ t.post.waiters.waiting, other.token ≠ parked.token) ∧
        (woken = true ∨ t.action = .shutdown ∨ t.action = .expirePoll parked.token) := by
  obtain ⟨pre, action, reply, post⟩ := t
  have effect : Effect platform config pre action reply post := effect fires
  have kicked (settled : (parked, woken) ∈ pre.waiters.kick.settled) :
      (parked, woken) ∈ pre.waiters.settled ∨
        parked ∈ pre.waiters.waiting ∧
          (∀ other ∈ pre.waiters.kick.waiting, other.token ≠ parked.token) ∧
          (woken = true ∨ action = .shutdown ∨ action = .expirePoll parked.token) := by
    rcases List.mem_append.mp settled with earlier | new
    · exact .inl earlier
    · obtain ⟨poll, waiting, same⟩ := List.mem_map.mp new
      cases same
      exact .inr ⟨waiting, by simp [Waiters.kick], .inl rfl⟩
  cases effect with
  | ticked | unadmitted | creating | deleted | unnamed | threw | unaccepted | uploading | refused
  | superseded | accepted | making | writing | uncreated | streaming | dropped | stored | removed
  | cleaning | cleaned | swept | sweeping | drained => exact .inl member
  | answered named renewed =>
    subst renewed
    exact .inl member
  | parked named renewed =>
    subst renewed
    exact .inl member
  | woken | released => exact .inl (List.mem_filter.mp member).1
  | retried | created | finished | requeued => exact kicked member
  | restarted => cases member
  | @timedOut token =>
    rcases List.mem_append.mp member with earlier | new
    · exact .inl earlier
    · obtain ⟨poll, selected, same⟩ := List.mem_map.mp new
      cases same
      obtain ⟨waiting, named⟩ := List.mem_filter.mp selected
      obtain rfl := of_decide_eq_true named
      refine .inr ⟨waiting, fun other left same => ?_, .inr (.inr rfl)⟩
      have kept := (List.mem_filter.mp left).2
      simp [same] at kept
  | shutdown =>
    rcases List.mem_append.mp member with earlier | new
    · exact .inl earlier
    · obtain ⟨poll, selected, same⟩ := List.mem_map.mp new
      cases same
      refine .inr ⟨(List.mem_filter.mp selected).1, fun other left => ?_, .inr (.inl rfl)⟩
      have kept := (List.mem_filter.mp left).2
      simp at kept

/-! ### Room for another job -/

/-- The pod of the poll can take another job: it is ready, it is not drained, and it lists fewer
jobs under their leases than it may run at a time. -/
structure Room (state : Gateway) (body : PollBody) : Prop where
  ready : body.sglangReady = .boolean true
  undrained : ∀ podId pod, body.podId.str = some podId → state.pods.get podId = some pod →
    pod.draining = false
  spare : (body.listed state.store).card < declaredConcurrency body.maxInFlight

theorem Renewed.draining_of_slots {turn : Renewed} (free : 0 < turn.slots) :
    turn.pod.draining = false := by
  unfold Renewed.slots freeSlots at free
  split at free
  · omega
  · next available =>
    simp only [Bool.or_eq_true, not_or, Bool.not_eq_true] at available
    exact available.1

theorem slots_pos_iff {state : Gateway} {body : PollBody} {podId sessionId : String}
    (named : body.podId.str = some podId)
    (fine : (state.renewed config body podId sessionId).thrown = false) :
    0 < (state.renewed config body podId sessionId).slots ↔ Room state body := by
  obtain ⟨-, declared, -, owned, -⟩ := renewed_spec fine
  obtain ⟨-, -, -, -, ready⟩ :=
    PodStore.touch_spec state.pods (body.heartbeat podId sessionId) state.now
  have ready : (state.renewed config body podId sessionId).pod.sglangReady =
      (body.heartbeat podId sessionId).sglangReady := ready
  have draining : (state.renewed config body podId sessionId).pod.draining =
      (state.pods.get podId).any Pod.draining :=
    PodStore.draining_touch state.pods (body.heartbeat podId sessionId) state.now
  unfold Renewed.slots freeSlots
  rw [draining, ready, declared, owned]
  constructor
  · intro free
    split at free
    · omega
    · next available =>
      simp only [PollBody.heartbeat, Bool.or_eq_true, Option.any_eq_true, Bool.not_eq_true',
        decide_eq_false_iff_not, not_or, not_exists, not_and, not_not] at available
      refine ⟨available.2, fun other pod same found => ?_, by omega⟩
      cases named.symm.trans same
      simpa using available.1 pod found
  · rintro ⟨ready, undrained, spare⟩
    rw [if_neg]
    · omega
    · simp only [PollBody.heartbeat, ready, decide_true, Bool.not_true, Bool.or_false,
        Bool.not_eq_true, Option.any_eq_false]
      intro pod found
      simp [undrained podId pod named found]

/-- A poll that parks has room; it parks under a new token and settles nobody's wait. -/
theorem poll_parks {state post : Gateway} {body : PollBody} {sessionId : String} {token : Nat}
    (performed : state.poll platform config body sessionId = (.pending token, post)) :
    Room state body ∧ token = state.tokens ∧ post.tokens = state.tokens + 1 ∧
      post.waiters.settled = state.waiters.settled := by
  rcases poll_cases platform config state body sessionId with
    ⟨-, refused⟩ | ⟨podId, turn, named, rfl, ⟨-, threw⟩ | ⟨fine, parks, parked⟩ | ⟨-, -, answered⟩⟩
  · rw [refused] at performed
    cases performed
  · rw [threw] at performed
    cases performed
  · obtain ⟨free, -, nothing⟩ := taken_of_parks parks
    rw [parked, claimed_of_taken nothing] at performed
    cases performed
    exact ⟨(slots_pos_iff named fine).mp free, rfl, rfl, rfl⟩
  · rw [answered] at performed
    cases performed

/-- A poll that may wait and whose pod has room is answered at once when it gets work, or when
the gateway is shutting down. -/
theorem answered_at_once {state post : Gateway} {body : PollBody} {sessionId : String}
    {response : PollResponse} (waits : 0 < body.waitMs config) (room : Room state body)
    (performed : state.poll platform config body sessionId = (.poll response, post)) :
    response.assign ≠ [] ∨ state.aborted = true := by
  rcases poll_cases platform config state body sessionId with
    ⟨-, refused⟩ | ⟨podId, turn, named, rfl, ⟨-, threw⟩ | ⟨-, -, parked⟩ | ⟨fine, stays, answered⟩⟩
  · rw [refused] at performed
    cases performed
  · rw [threw] at performed
    cases performed
  · rw [parked] at performed
    cases performed
  · rw [answered] at performed
    cases performed
    have free := (slots_pos_iff named fine).mpr room
    rw [or_iff_not_imp_right, Bool.not_eq_true]
    intro running idle
    have running : (state.renewed config body podId sessionId).state.aborted = false := running
    have idle : ((state.renewed config body podId sessionId).state.claimFor platform config
      (state.renewed config body podId sessionId).pod
      (state.renewed config body podId sessionId).slots).assignments = [] := idle
    simp [Renewed.parks, idle, free, Renewed.draining_of_slots free, waits, running] at stays

end InferenceGateway
