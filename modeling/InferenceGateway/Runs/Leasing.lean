import InferenceGateway.Runs.Tickets

/-!
# The gateway as a queue of leased work

Behind the rows, handlers and timers there is a queue that hands work out
under tokens.  Every step of the gateway is a sequence of events of that
queue, and what they hand out is what the pods receive, so that what holds of
every history of the queue holds of the answers to polls.
-/

namespace InferenceGateway

open Library Relation

variable {platform : Platform} {prepare : Prepare} {config : Config} {t : GatewayTransition}

/-- The queue the gateway stands for. -/
structure Models (platform : Platform) (queue : JobQueue) (state : Gateway) : Prop where
  ticket : ∀ id, queue.ticket id = (state.store.get id).map Job.ticket
  issued : ∀ lease ∈ queue.issued, ∃ i < state.leases, lease = platform.newLeaseId i
  submitted : ∀ id ∈ queue.submitted, ¬ Unborn platform state id

/-- The events of the queue are those of the step: each has its cause there, and what
they hand out is what the step sends. -/
structure Explains (platform : Platform) (config : Config) (t : GatewayTransition)
    (events : JobEvents) : Prop where
  caused : ∀ event ∈ events, Cause platform config t event.1 event.2
  sent : LeaseQueue.handed events =
    t.reply.assignments.map fun assignment => (assignment.jobId, assignment.leaseId)

/-- What every reachable gateway satisfies. -/
structure Leasable (platform : Platform) (config : Config) (state : Gateway) : Prop where
  sound : state.Sound platform
  bounded : ∀ id job, state.store.get id = some job → job.Bounded config.maxAttempts

theorem leasable_step (positive : 1 ≤ config.maxAttempts)
    (fires : (gateway platform prepare config).Fires t)
    (leasable : Leasable platform config t.pre) : Leasable platform config t.post := by
  refine ⟨sound_step fires leasable.sound, ?_⟩
  intro id job found
  have change := rowChange fires id
  rw [found] at change
  generalize earlier : t.pre.store.get id = before at change
  cases change with
  | touched touches => exact bounded_touches touches (leasable.bounded id _ earlier)
  | created => exact ⟨fun _ => positive, by rintro ⟨⟩⟩

theorem leasable_initial :
    Leasable platform config (gateway platform prepare config).initial where
  sound := sound_of_run .nil
  bounded id job found := by simp [gateway, Gateway.empty, JobStore.get] at found

theorem models_initial :
    Models platform LeaseQueue.empty (gateway platform prepare config).initial where
  ticket id := by simp [gateway, Gateway.empty, JobStore.get, LeaseQueue.empty]
  issued lease issued := by simp [LeaseQueue.empty] at issued
  submitted id submitted := by simp [LeaseQueue.empty] at submitted

section Step

variable {queue : JobQueue}

/-- What a history that explains a step does to the queue but for its tickets. -/
theorem models_of_steps (fires : (gateway platform prepare config).Fires t)
    (models : Models platform queue t.pre) {events : JobEvents} {queue' : JobQueue}
    (steps : LeaseQueue.Steps config.maxAttempts queue events queue')
    (tickets : ∀ id, queue'.ticket id = (t.post.store.get id).map Job.ticket)
    (minted : ∀ lease ∈ LeaseQueue.tokens events,
      ∃ i < t.post.leases, lease = platform.newLeaseId i)
    (born : ∀ id, (id, .submit) ∈ events → ¬ Unborn platform t.post id) :
    Models platform queue' t.post := by
  have extended := LeaseQueue.extends_of_steps steps
  refine ⟨tickets, ?_, ?_⟩
  · intro lease issued
    rcases (extended.issued lease).mp issued with old | handed
    · obtain ⟨i, less, same⟩ := models.issued lease old
      refine ⟨i, less.trans_le ?_, same⟩
      rw [(progresses fires).leases]
      exact Nat.le_add_right _ _
    · exact minted lease handed
  · intro id submitted
    rcases (extended.submitted id).mp submitted with old | here
    · exact fun unborn => models.submitted id old (unborn_of_post fires unborn)
    · exact born id here

theorem ticket_of_submit {cap : Nat} {before after : Option JobTicket}
    (moves : Ticket.Moves cap before [.submit] after) : after = some (.waiting 0) := by
  cases moves with
  | cons move rest =>
    cases move
    cases rest
    rfl

/-- A step that claims nothing. -/
theorem leasing_idle (fires : (gateway platform prepare config).Fires t)
    (leasable : Leasable platform config t.pre) (idle : claimTurn config t = none)
    (models : Models platform queue t.pre) :
    ∃ events queue', Explains platform config t events ∧
      LeaseQueue.Steps config.maxAttempts queue events queue' ∧ Models platform queue' t.post := by
  choose path idlePath using exists_idlePath fires leasable.sound idle
  let keys := ((t.pre.store.jobs.rows ++ t.post.store.jobs.rows).map Job.id).dedup
  have outside {id : String} (other : id ∉ keys) {store : JobStore}
      (among : store = t.pre.store ∨ store = t.post.store) : store.get id = none := by
    cases found : store.get id with
    | none => rfl
    | some job =>
      refine absurd (List.mem_dedup.mpr (List.mem_map.mpr ⟨job, ?_, JobStore.id_of_get found⟩)) other
      rcases among with rfl | rfl
      · exact List.mem_append_left _ (JobStore.mem_of_get found)
      · exact List.mem_append_right _ (JobStore.mem_of_get found)
  have origin {event : String × TicketEvent String String VideoStatus}
      (member : event ∈ keys.flatMap fun id => LeaseQueue.about id (path id)) :
      event.2 ∈ path event.1 := by
    obtain ⟨id, -, among⟩ := List.mem_flatMap.mp member
    obtain ⟨event, inside, rfl⟩ := List.mem_map.mp among
    exact inside
  have nothing := LeaseQueue.handed_eq_nil fun event member =>
    (idlePath event.1).hands_nothing event.2 (origin member)
  have tokens : LeaseQueue.tokens (keys.flatMap fun id => LeaseQueue.about id (path id)) = [] := by
    rw [LeaseQueue.tokens_eq, nothing, List.map_nil]
  obtain ⟨queue', steps, tickets⟩ := LeaseQueue.exists_history queue keys path
    (fun id => (t.post.store.get id).map Job.ticket) (List.nodup_dedup _)
    (fun id _ => by rw [models.ticket]; exact (idlePath id).moves)
    (by rw [tokens]; exact List.nodup_nil) (by simp [tokens])
    (fun id _ => (idlePath id).single)
    (fun id _ alone submitted => models.submitted id submitted ((idlePath id).unborn alone))
  refine ⟨_, queue', ⟨?_, ?_⟩, steps, models_of_steps fires models steps ?_ (by simp [tokens]) ?_⟩
  · exact fun event member => (idlePath event.1).caused event.2 (origin member)
  · rw [nothing, assignments_of_idle fires idle, List.map_nil]
  · intro id
    rw [tickets]
    split
    · rfl
    · next other => rw [models.ticket, outside other (.inl rfl), outside other (.inr rfl)]
  · intro id member unborn
    have alone := (idlePath id).single.resolve_right (not_not.mpr (origin member))
    have moved := ticket_of_submit (alone ▸ (idlePath id).moves)
    rw [get_of_unborn (fresh_step fires leasable.sound.fresh) unborn] at moved
    cases moved

/-- A step that claims hands out the jobs it takes, in their order. -/
theorem leasing_claim (fires : (gateway platform prepare config).Fires t)
    (leasable : Leasable platform config t.pre) {turn : ClaimTurn}
    (claims : claimTurn config t = some turn) (models : Models platform queue t.pre) :
    ∃ events queue', Explains platform config t events ∧
      LeaseQueue.Steps config.maxAttempts queue events queue' ∧ Models platform queue' t.post := by
  have claimed := claims_of_claimTurn fires claims
  have sent := assignments_of_claim claimed
  let keys := turn.taken.map Job.id
  let lease := turn.lease platform t.pre.leases
  let path (id : String) : List (TicketEvent String String VideoStatus) :=
    [.grant turn.pod.podId (lease id)]
  have handed : LeaseQueue.handed (keys.flatMap fun id => LeaseQueue.about id (path id)) =
      keys.map fun id => (id, lease id) := by
    induction keys with
    | nil => rfl
    | cons id keys inductionHypothesis =>
      rw [List.flatMap_cons, LeaseQueue.handed_append, inductionHypothesis]
      rfl
  have tokens : LeaseQueue.tokens (keys.flatMap fun id => LeaseQueue.about id (path id)) =
      keys.map lease := by
    rw [LeaseQueue.tokens_eq, handed, List.map_map]
    rfl
  have distinct : (keys.map lease).Nodup := by
    refine turn.queued_taken.1.map_on ?_
    intro id member id' _ same
    have places := platform.newLeaseId_injective same
    exact (List.idxOf_inj member).mp (Nat.add_left_cancel places)
  have minted : ∀ token ∈ keys.map lease, ∃ i < t.post.leases,
      t.pre.leases ≤ i ∧ token = platform.newLeaseId i := by
    intro token member
    obtain ⟨id, inside, rfl⟩ := List.mem_map.mp member
    refine ⟨_, ?_, Nat.le_add_right _ _, rfl⟩
    have place := List.idxOf_lt_length_iff.mpr inside
    rw [List.length_map] at place
    rw [(progresses fires).leases, dispatched, claims]
    exact Nat.add_lt_add_left place _
  have moves := moves_of_claim fires claims leasable.bounded
  obtain ⟨queue', steps, tickets⟩ := LeaseQueue.exists_history queue keys path
    (fun id => (t.post.store.get id).map Job.ticket)
    turn.queued_taken.1
    (by
      intro id member
      have moved := moves id
      rw [if_pos member] at moved
      rw [models.ticket]
      exact moved)
    (by rwa [tokens])
    (by
      intro token member issued
      rw [tokens] at member
      obtain ⟨i, -, later, rfl⟩ := minted token member
      obtain ⟨j, earlier, same⟩ := models.issued _ issued
      have := platform.newLeaseId_injective same
      omega)
    (fun id _ => .inr (by simp [path]))
    (fun id _ alone => by simp [path] at alone)
  refine ⟨_, queue', ⟨?_, ?_⟩, steps, models_of_steps fires models steps ?_ ?_ ?_⟩
  · intro event member
    obtain ⟨id, inside, among⟩ := List.mem_flatMap.mp member
    obtain ⟨_, here, rfl⟩ := List.mem_map.mp among
    obtain rfl := List.mem_singleton.mp here
    have pair : (id, lease id) ∈ keys.map fun id => (id, lease id) :=
      List.mem_map.mpr ⟨id, inside, rfl⟩
    rw [← sent] at pair
    obtain ⟨assignment, listed, same⟩ := List.mem_map.mp pair
    obtain ⟨named, under⟩ := Prod.mk.inj same
    dsimp only
    rw [← under]
    exact .assigned claims listed named
  · rw [handed, sent]
  · intro id
    rw [tickets]
    split
    · rfl
    · next other =>
      have moved := moves id
      rw [if_neg other] at moved
      rw [models.ticket, moved]
  · intro token member
    rw [tokens] at member
    obtain ⟨i, less, -, same⟩ := minted token member
    exact ⟨i, less, same⟩
  · intro id member
    obtain ⟨_, -, among⟩ := List.mem_flatMap.mp member
    obtain ⟨_, here, same⟩ := List.mem_map.mp among
    obtain rfl := List.mem_singleton.mp here
    cases same

end Step

/-- From a state that stands for a queue, a run is a history of that queue. -/
theorem leasing_of_run (positive : 1 ≤ config.maxAttempts) {start final : Gateway}
    {trace : List GatewayTransition} (run : (gateway platform prepare config).Run start trace final)
    (leasable : Leasable platform config start) {queue : JobQueue}
    (models : Models platform queue start) :
    ∃ history queue', List.Forall₂ (Explains platform config) trace history ∧
      LeaseQueue.Steps config.maxAttempts queue history.flatten queue' ∧
      Models platform queue' final := by
  apply run.history (P := fun trace state =>
    ∃ history queue', List.Forall₂ (Explains platform config) trace history ∧
      LeaseQueue.Steps config.maxAttempts queue history.flatten queue' ∧
      Models platform queue' state)
  · exact ⟨[], queue, .nil, .nil, models⟩
  · rintro before t earlier fires ⟨history, middle, explained, steps, models⟩
    have leasable := earlier.invariant leasable fun _ fires => leasable_step positive fires
    obtain ⟨events, queue', explains, further, models'⟩ :
        ∃ events queue', Explains platform config t events ∧
          LeaseQueue.Steps config.maxAttempts middle events queue' ∧
          Models platform queue' t.post := by
      cases claims : claimTurn config t with
      | none => exact leasing_idle fires leasable claims models
      | some turn => exact leasing_claim fires leasable claims models
    refine ⟨history ++ [events], queue', ?_, ?_, models'⟩
    · exact List.rel_append explained (.cons explains .nil)
    · rw [List.flatten_append, List.flatten_singleton]
      exact steps.append further

/-- Every run of the gateway is a history of the lease queue, step by step: each event has
its cause in its step, what the events hand out is what the step assigns, and in the end the
tickets are those of the rows. -/
theorem leases_refine (platform : Platform) (prepare : Prepare) (config : Config)
    (positive : 1 ≤ config.maxAttempts) (run : GatewayRun platform prepare config) :
    ∃ (history : List JobEvents) (queue : JobQueue),
      List.Forall₂ (Explains platform config) run.trace history ∧
      LeaseQueue.Steps config.maxAttempts LeaseQueue.empty history.flatten queue ∧
      ∀ id, queue.ticket id = (run.final.store.get id).map Job.ticket := by
  obtain ⟨history, queue, explained, steps, models⟩ :=
    leasing_of_run positive run.run leasable_initial models_initial
  exact ⟨history, queue, explained, steps, models.ticket⟩

/-- A run that creates a job and hands it out. -/
theorem leases_refine_sample :
    ∃ (history : List JobEvents) (queue : JobQueue),
      List.Forall₂ (Explains .counting .default) (sampleRun .default
        (sampleStart ++ [.resumePoll 0]) sampleStart_resumes).trace history ∧
      LeaseQueue.Steps 2 LeaseQueue.empty history.flatten queue ∧
      ∀ id, queue.ticket id = ((sampleRun .default (sampleStart ++ [.resumePoll 0])
        sampleStart_resumes).final.store.get id).map Job.ticket :=
  leases_refine .counting samplePrepare .default (by decide)
    (sampleRun .default (sampleStart ++ [.resumePoll 0]) sampleStart_resumes)

/-! ### What pods are sent -/

/-- The jobs and leases sent to pods, in order. -/
def assignedIn (trace : List GatewayTransition) : List (String × String) :=
  trace.flatMap fun t =>
    t.reply.assignments.map fun assignment => (assignment.jobId, assignment.leaseId)

theorem handed_of_explained {trace : List GatewayTransition} {history : List JobEvents}
    (explained : List.Forall₂ (Explains platform config) trace history) :
    LeaseQueue.handed history.flatten = assignedIn trace := by
  induction explained with
  | nil => rfl
  | cons explains _ inductionHypothesis =>
    rw [List.flatten_cons, LeaseQueue.handed_append, inductionHypothesis, explains.sent]
    rfl

/-- A job whose row has ended is over in the queue. -/
theorem over_of_terminal {events : JobEvents} {queue : JobQueue} {state : Gateway}
    (recorded : LeaseQueue.Recorded config.maxAttempts events queue)
    (models : Models platform queue state) {id : String} {job : Job}
    (found : state.store.get id = some job) (terminal : job.state.isTerminal = true) :
    queue.Over id := by
  have ticket := models.ticket id
  rw [found, Option.map_some] at ticket
  constructor
  · by_contra unsubmitted
    rw [(recorded.unknown id unsubmitted).1] at ticket
    cases ticket
  · intro other same
    rw [ticket] at same
    obtain rfl := Option.some.inj same
    cases state : job.state with
    | queued | inProgress => simp [state, VideoStatus.isTerminal] at terminal
    | completed => exact ⟨.completed, job.attempts, by simp only [Job.ticket, state]⟩
    | failed => exact ⟨.failed, job.attempts, by simp only [Job.ticket, state]⟩
    | cancelled => exact ⟨.cancelled, job.attempts, by simp only [Job.ticket, state]⟩

/-- Over all answers of a run no lease is sent twice, the attempts of a job are the times it
was sent, at most `maxAttempts` of them, a row is held under a lease that was sent for it,
and a job that has ended is never sent again. -/
theorem assignments_exclusive (platform : Platform) (prepare : Prepare) (config : Config)
    (positive : 1 ≤ config.maxAttempts) (run : GatewayRun platform prepare config) :
    ((assignedIn run.trace).map Prod.snd).Nodup ∧
    (∀ id, ((assignedIn run.trace).countP fun sent => sent.1 = id) ≤ config.maxAttempts) ∧
    (∀ id job, run.final.store.get id = some job →
      job.attempts = (assignedIn run.trace).countP fun sent => sent.1 = id) ∧
    (∀ id lease, Holds run.final id lease → (id, lease) ∈ assignedIn run.trace) ∧
    ∀ before t after id job, run.trace = before ++ t :: after →
      t.post.store.get id = some job → job.state.isTerminal = true →
      ∀ sent ∈ assignedIn after, sent.1 ≠ id := by
  obtain ⟨history, queue, explained, steps, models⟩ :=
    leasing_of_run positive run.run leasable_initial models_initial
  have recorded := LeaseQueue.recorded_of_steps steps
  have handed := handed_of_explained explained
  refine ⟨?_, ?_, ?_, ?_, ?_⟩
  · rw [← handed, ← LeaseQueue.tokens_eq]
    exact recorded.distinct
  · intro id
    rw [← handed, ← LeaseQueue.countP_hands_eq]
    exact recorded.bounded id
  · intro id job found
    have ticket := models.ticket id
    rw [found, Option.map_some] at ticket
    rw [← handed, ← LeaseQueue.countP_hands_eq, ← recorded.counted id _ ticket, grants_ticket]
  · rintro id lease ⟨job, found, holds⟩
    have ticket := models.ticket id
    rw [found, Option.map_some, ticket_of_holds holds] at ticket
    rw [← handed]
    exact LeaseQueue.mem_handed.mpr ⟨_, recorded.held _ _ _ _ ticket⟩
  · intro before t after id job split found terminal sent member
    have whole := run.run
    rw [split] at whole
    obtain ⟨earlier, fires, rest⟩ := whole.split
    have reached : (gateway platform prepare config).Run (gateway platform prepare config).initial
        (before ++ [t]) t.post := .snoc earlier fires
    obtain ⟨_, middle, -, steps, models⟩ :=
      leasing_of_run positive reached leasable_initial models_initial
    have ended := over_of_terminal (LeaseQueue.recorded_of_steps steps) models found terminal
    have leasable := reached.invariant leasable_initial fun _ => leasable_step positive
    obtain ⟨later, _, explained, further, -⟩ := leasing_of_run positive rest leasable models
    rw [← handed_of_explained explained] at member
    obtain ⟨holder, granted⟩ := LeaseQueue.mem_handed.mp member
    rintro rfl
    cases (ended.steps further).2 _ granted rfl

/-- The one assignment of a sample run. -/
theorem assignments_exclusive_sample :
    let run := sampleRun .default (sampleStart ++ [.resumePoll 0]) sampleStart_resumes
    ((assignedIn run.trace).map Prod.snd).Nodup ∧
    (∀ id, ((assignedIn run.trace).countP fun sent => sent.1 = id) ≤ 2) ∧
    (∀ id job, run.final.store.get id = some job →
      job.attempts = (assignedIn run.trace).countP fun sent => sent.1 = id) ∧
    (∀ id lease, Holds run.final id lease → (id, lease) ∈ assignedIn run.trace) ∧
    ∀ before t after id job, run.trace = before ++ t :: after →
      t.post.store.get id = some job → job.state.isTerminal = true →
      ∀ sent ∈ assignedIn after, sent.1 ≠ id :=
  assignments_exclusive .counting samplePrepare .default (by decide)
    (sampleRun .default (sampleStart ++ [.resumePoll 0]) sampleStart_resumes)

example : (assignedIn (sampleRun .default (sampleStart ++ [.resumePoll 0])
    sampleStart_resumes).trace).length = 1 := by decide +kernel

end InferenceGateway
