import InferenceGateway.Runs.Freshness

/-!
# Parked polls

What a step may do to the waiters, and which poll of a run a parked poll comes
from.
-/

namespace InferenceGateway

open Library

variable {platform : Platform} {prepare : Prepare} {config : Config} {t : GatewayTransition}

/-- The step is a poll that parks. -/
structure Parks (config : Config) (t : GatewayTransition) (body : PollBody)
    (parked : ParkedPoll) : Prop where
  poll : ∃ sessionId podId, t.action = .poll body sessionId ∧ body.podId.str = some podId ∧
    (t.pre.renewed config body podId sessionId).thrown = false ∧
    (t.pre.renewed config body podId sessionId).pod.draining = false ∧
    parked = (t.pre.renewed config body podId sessionId).parked
  free : 0 < parked.slots
  reply : t.reply = .pending parked.token
  token : parked.token = t.pre.tokens
  counted : t.post.tokens = t.pre.tokens + 1

/-- What a step may do to the waiters. -/
inductive WaitersChange (config : Config) (t : GatewayTransition) : Prop where
  | same (waiters : t.post.waiters = t.pre.waiters)
  | kicked (waiters : t.post.waiters = t.pre.waiters.kick)
  | gaveUp {p : ParkedPoll → Bool} (waiters : t.post.waiters = t.pre.waiters.giveUp p)
  | parked {body : PollBody} {parked : ParkedPoll} (parks : Parks config t body parked)
      (nothing : t.post.store.taken parked.pod parked.slots = [])
      (waiters : t.post.waiters = t.pre.waiters.wait parked)
  | resumed {token : Nat} (action : t.action = .resumePoll token)
      (waiters : t.post.waiters = (t.pre.unpark token).waiters)
  | restarted (action : t.action = .restart) (waiters : t.post.waiters = .empty)

/-! ### The waiters after every action -/

theorem taken_of_parks {turn : Renewed} {body : PollBody}
    (parks : turn.parks config body
      (turn.state.claimFor platform config turn.pod turn.slots).assignments = true) :
    0 < turn.slots ∧ turn.pod.draining = false ∧
      turn.state.store.taken turn.pod turn.slots = [] := by
  simp only [Renewed.parks, Bool.and_eq_true, decide_eq_true_eq, claimFor_eq,
    List.isEmpty_iff, Bool.not_eq_true'] at parks
  obtain ⟨⟨⟨⟨empty, free⟩, undrained⟩, -⟩, -⟩ := parks
  refine ⟨free, undrained, ?_⟩
  apply List.eq_nil_of_length_eq_zero
  rw [← length_assignAll turn.state.leases (canRun_of_taken turn.pod turn.slots turn.state.store),
    empty, List.length_nil]

theorem claimed_of_taken {state : Gateway} {pod : Pod} {slots : Nat}
    (nothing : state.store.taken pod slots = []) :
    state.claimed platform config pod slots = state := by
  simp [Gateway.claimed, claimFor_eq, nothing, dispatchAll]

/-- Nothing else ever happens to the waiters. -/
theorem waitersChange (fires : (gateway platform prepare config).Fires t) :
    WaitersChange config t := by
  obtain ⟨pre, action, reply, post⟩ := t
  have effect : Effect platform config pre action reply post := effect fires
  cases effect with
  | ticked | unadmitted | creating | deleted | unnamed | threw | unaccepted | uploading | refused
  | superseded | accepted | making | writing | uncreated | streaming | dropped | stored | removed
  | cleaning | cleaned | swept | sweeping | drained => exact .same rfl
  | answered named renewed =>
    subst renewed
    exact .same rfl
  | @parked body sessionId podId turn named renewed fine parks =>
    obtain ⟨free, undrained, nothing⟩ := taken_of_parks parks
    rw [claimed_of_taken nothing]
    subst renewed
    exact .parked ⟨⟨sessionId, podId, rfl, named, fine, undrained, rfl⟩, free, rfl, rfl, rfl⟩
      nothing rfl
  | timedOut => exact .gaveUp rfl
  | shutdown => exact .gaveUp (p := fun _ => true) rfl
  | woken | released => exact .resumed rfl rfl
  | retried | created | finished | requeued => exact .kicked rfl
  | restarted => exact .restarted rfl rfl

/-! ### Where a parked poll comes from -/

theorem polls_step (fires : (gateway platform prepare config).Fires t) {parked : ParkedPoll}
    (member : parked ∈ t.post.waiters.polls) :
    parked ∈ t.pre.waiters.polls ∨ ∃ body, Parks config t body parked := by
  cases waitersChange fires with
  | same waiters => exact .inl (waiters ▸ member)
  | kicked waiters => exact .inl (Waiters.mem_polls_kick (waiters ▸ member))
  | gaveUp waiters => exact .inl (Waiters.mem_polls_giveUp (waiters ▸ member))
  | parked parks nothing waiters =>
    rcases Waiters.mem_polls_wait (waiters ▸ member) with earlier | rfl
    · exact .inl earlier
    · exact .inr ⟨_, parks⟩
  | resumed action waiters =>
    rw [waiters, Waiters.mem_polls] at member
    apply Or.inl
    rw [Waiters.mem_polls]
    refine member.imp_right fun ⟨woken, settled⟩ => ⟨woken, ?_⟩
    exact (List.mem_filter.mp settled).1
  | restarted action waiters =>
    rw [waiters] at member
    cases member

/-- Every parked poll of a run was parked by one of its steps. -/
theorem parked_origin {trace : List GatewayTransition} {final : Gateway}
    (run : (gateway platform prepare config).Run (gateway platform prepare config).initial
      trace final) {parked : ParkedPoll} :
    parked ∈ final.waiters.polls → ∃ u ∈ trace, ∃ body, Parks config u body parked := by
  apply run.history (P := fun trace state =>
    parked ∈ state.waiters.polls → ∃ u ∈ trace, ∃ body, Parks config u body parked)
  · intro member
    cases member
  · intro before t _ fires inductionHypothesis member
    rcases polls_step fires member with earlier | ⟨body, parks⟩
    · obtain ⟨u, inside, parks⟩ := inductionHypothesis earlier
      exact ⟨u, List.mem_append_left _ inside, parks⟩
    · exact ⟨t, by simp, body, parks⟩

/-- A poll that is answered with a token has parked under it. -/
theorem parks_of_pending (fires : (gateway platform prepare config).Fires t) {body : PollBody}
    {sessionId : String} {token : Nat} (action : t.action = .poll body sessionId)
    (reply : t.reply = .pending token) :
    ∃ parked, Parks config t body parked ∧ parked.token = token := by
  obtain ⟨pre, _, _, post⟩ := t
  obtain rfl := action
  obtain rfl := reply
  have stepped : pre.poll platform config body sessionId = (.pending token, post) := by
    have stepped : pre.step platform prepare config (.poll body sessionId) =
      some (.pending token, post) := fires
    exact Option.some.inj stepped
  rcases poll_cases platform config pre body sessionId with
    ⟨-, refused⟩ | ⟨podId, turn, named, rfl, ⟨-, threw⟩ | ⟨fine, parks, parked⟩ | ⟨-, -, answered⟩⟩
  · rw [refused] at stepped
    cases stepped
  · rw [threw] at stepped
    cases stepped
  · obtain ⟨free, undrained, nothing⟩ := taken_of_parks parks
    rw [parked, claimed_of_taken nothing] at stepped
    cases stepped
    exact ⟨_, ⟨⟨sessionId, podId, rfl, named, fine, undrained, rfl⟩, free, rfl, rfl, rfl⟩, rfl⟩
  · rw [answered] at stepped
    cases stepped

/-- The poll `u` is the one the step answers: its own, or one that parked before. -/
structure Answers (before : List GatewayTransition) (t u : GatewayTransition)
    (body : PollBody) : Prop where
  poll : ∃ sessionId, u.action = .poll body sessionId
  answers : u = t ∨ u ∈ before ∧ ∃ token, u.reply = .pending token ∧ t.action = .resumePoll token

/-- The snapshot a resumed poll runs on with is that of the poll it answers. -/
theorem parks_of_answers {before : List GatewayTransition} {u : GatewayTransition}
    {body : PollBody} {token : Nat} {parked : ParkedPoll} {woken : Bool}
    (run : (gateway platform prepare config).Run (gateway platform prepare config).initial
      before t.pre) (action : t.action = .resumePoll token)
    (found : t.pre.waiters.settled.find? (fun entry => entry.1.token = token) =
      some (parked, woken))
    (answers : Answers before t u body) : u ∈ before ∧ Parks config u body parked := by
  obtain ⟨⟨sessionId, polls⟩, rfl | ⟨member, token', pending, resumes⟩⟩ := answers
  · cases polls.symm.trans action
  · cases action.symm.trans resumes
    have settled := List.mem_of_find?_eq_some found
    have named : parked.token = token := by simpa using List.find?_some found
    obtain ⟨u', member', body', parks'⟩ :=
      parked_origin run (Waiters.mem_polls.mpr (.inr ⟨woken, settled⟩))
    obtain ⟨parked'', parks, token_eq⟩ := parks_of_pending (run.fires_of_mem member) polls pending
    have same : u = u' := by
      apply run.eq_of_counter Gateway.tokens (fun _ fires => (progresses fires).tokens)
        member member'
      · have := parks.counted
        omega
      · have := parks'.counted
        omega
      · rw [← parks.token, ← parks'.token, token_eq, named]
    subst same
    obtain ⟨sessionId', podId', polls', -, -, -, -⟩ := parks'.poll
    cases polls.symm.trans polls'
    exact ⟨member, parks'⟩

/-- Every resumed poll answers one of the run. -/
theorem answers_of_resumed {before : List GatewayTransition} {token : Nat}
    {parked : ParkedPoll} {woken : Bool}
    (run : (gateway platform prepare config).Run (gateway platform prepare config).initial
      before t.pre) (action : t.action = .resumePoll token)
    (found : t.pre.waiters.settled.find? (fun entry => entry.1.token = token) =
      some (parked, woken)) : ∃ u body, Answers before t u body := by
  have settled := List.mem_of_find?_eq_some found
  have named : parked.token = token := by simpa using List.find?_some found
  obtain ⟨u, member, body, parks⟩ :=
    parked_origin run (Waiters.mem_polls.mpr (.inr ⟨woken, settled⟩))
  obtain ⟨sessionId, podId, polls, -⟩ := parks.poll
  exact ⟨u, body, ⟨sessionId, polls⟩, .inr ⟨member, token, named ▸ parks.reply, action⟩⟩

end InferenceGateway
