import InferenceGateway.Library.LeaseQueue
import InferenceGateway.Runs.Attempts
import InferenceGateway.Runs.Polls
import Mathlib.Data.List.Dedup

/-!
# The ticket behind a row

A row of the store is a piece of leased work.  Here is what each step does to
one of them: the moves of its ticket, each with its cause in the step.
-/

namespace InferenceGateway

open Library Relation

variable {platform : Platform} {prepare : Prepare} {config : Config} {t : GatewayTransition}

abbrev JobTicket := Ticket String String VideoStatus

abbrev JobEvents := List (String × TicketEvent String String VideoStatus)

abbrev JobQueue := LeaseQueue String String String VideoStatus

/-- The ticket behind a row. -/
def Job.ticket (job : Job) : JobTicket :=
  match job.state with
  | .queued => .waiting job.attempts
  | .inProgress => .held (job.podId.getD "") (job.leaseId.getD "") job.attempts
  | state => .closed state job.attempts

/-- The assignments a reply carries. -/
def Reply.assignments : Reply → List Assignment
  | .poll response => response.assign
  | _ => []

/-- What in a step makes an event happen to a job. -/
inductive Cause (platform : Platform) (config : Config) (t : GatewayTransition) (id : String) :
    TicketEvent String String VideoStatus → Prop where
  | created {token : Nat} {creation : Creation} (action : t.action = .advance token .proceed)
      (running : t.pre.tasks.lookup token = some (.creation creation))
      (named : creation.job.id = id) : Cause platform config t id .submit
  /-- The pod the step claims for is sent an assignment. -/
  | assigned {turn : ClaimTurn} {assignment : Assignment} (claims : claimTurn config t = some turn)
      (sent : assignment ∈ t.reply.assignments) (named : assignment.jobId = id) :
      Cause platform config t id (.grant turn.pod.podId assignment.leaseId)
  /-- A pod reports a failure under the lease, and an attempt is left. -/
  | returned {request : ResultRequest} {lease : String} (action : t.action = .result request)
      (named : request.id = id) (under : request.leaseId = some lease)
      (retries : request.body.Retries) : Cause platform config t id (.release lease)
  | expired {lease : String} (action : t.action = .sweep) :
      Cause platform config t id (.release lease)
  | reported {request : ResultRequest} {lease : String} {outcome : VideoStatus}
      (action : t.action = .result request) (named : request.id = id)
      (under : request.leaseId = some lease) : Cause platform config t id (.settle lease outcome)
  | swept {lease : String} {outcome : VideoStatus} (action : t.action = .sweep)
      (outcome_eq : outcome = .failed ∨ outcome = .cancelled) :
      Cause platform config t id (.settle lease outcome)
  | cancelled (action : t.action = .deleteVideo id) :
      Cause platform config t id (.withdraw .cancelled)
  | overdue (action : t.action = .sweep) : Cause platform config t id (.withdraw .failed)
  | purged {token : Nat} {task : CleanupTask} (action : t.action = .advance token .proceed)
      (running : t.pre.tasks.lookup token = some (.cleanup task)) :
      Cause platform config t id .forget

/-! ### The steps of one job -/

section Path

/-- A way from one ticket to another on which nothing is submitted or handed out. -/
def Quiet (platform : Platform) (config : Config) (t : GatewayTransition) (id : String)
    (before after : Option JobTicket) : Prop :=
  ∃ path, Ticket.Moves config.maxAttempts before path after ∧
    ∀ event ∈ path, Cause platform config t id event ∧ event.token? = none ∧ event ≠ .submit

theorem Quiet.refl {id : String} (ticket : Option JobTicket) :
    Quiet platform config t id ticket ticket := ⟨[], .nil, by simp⟩

theorem Quiet.single {id : String} {before after : Option JobTicket}
    {event : TicketEvent String String VideoStatus}
    (move : Ticket.Move config.maxAttempts before event after)
    (cause : Cause platform config t id event) (quiet : event.token? = none)
    (other : event ≠ .submit) : Quiet platform config t id before after := by
  refine ⟨[event], .single move, ?_⟩
  intro event' member
  rw [List.mem_singleton.mp member]
  exact ⟨cause, quiet, other⟩

theorem Quiet.trans {id : String} {first second third : Option JobTicket}
    (earlier : Quiet platform config t id first second)
    (later : Quiet platform config t id second third) : Quiet platform config t id first third := by
  obtain ⟨path, moves, caused⟩ := earlier
  obtain ⟨path', moves', caused'⟩ := later
  refine ⟨path ++ path', moves.append moves', ?_⟩
  intro event member
  rcases List.mem_append.mp member with member | member
  · exact caused event member
  · exact caused' event member

variable {job job' : Job}

theorem ticket_of_inProgress (running : job.state = .inProgress) :
    job.ticket = .held (job.podId.getD "") (job.leaseId.getD "") job.attempts := by
  simp [Job.ticket, running]

theorem ticket_of_queued (waiting : job.state = .queued) :
    job.ticket = .waiting job.attempts := by
  simp [Job.ticket, waiting]

theorem ticket_of_holds {lease : String} (holds : job.holds lease = true) :
    job.ticket = .held (job.podId.getD "") lease job.attempts := by
  obtain ⟨running, held⟩ := holds_iff.mp holds
  rw [ticket_of_inProgress running, held]
  rfl

@[simp] theorem grants_ticket (job : Job) : job.ticket.grants = job.attempts := by
  unfold Job.ticket
  split <;> rfl

/-- An update of a row in a step that claims nothing. -/
theorem quiet_of_touch (idle : claimTurn config t = none) (touch : Touch platform config t job job') :
    Quiet platform config t job.id (some job.ticket) (some job'.ticket) := by
  have settled {lease : String} {outcome : VideoStatus} {after : Job}
      (running : job.ticket = .held (job.podId.getD "") lease job.attempts)
      (ended : after.ticket = .closed outcome job.attempts)
      (cause : Cause platform config t job.id (.settle lease outcome)) :
      Quiet platform config t job.id (some job.ticket) (some after.ticket) := by
    rw [running, ended]
    exact .single .settle cause rfl (by rintro ⟨⟩)
  have released {lease : String} {after : Job} (left : job.attempts < config.maxAttempts)
      (running : job.ticket = .held (job.podId.getD "") lease job.attempts)
      (back : after.ticket = .waiting job.attempts)
      (cause : Cause platform config t job.id (.release lease)) :
      Quiet platform config t job.id (some job.ticket) (some after.ticket) := by
    rw [running, back]
    exact .single (.release left) cause rfl (by rintro ⟨⟩)
  cases touch with
  | renewed | flagged | cleared | mediaExpired | recovered => exact .refl _
  | claimed claims => rw [idle] at claims; cases claims
  | completed reports | acknowledged reports | failed reports =>
    obtain ⟨⟨request, action, named, under⟩, holds⟩ := reports
    exact settled (ticket_of_holds holds) rfl (.reported action named under)
  | retried reports left retries =>
    obtain ⟨⟨request, action, named, under⟩, holds⟩ := reports
    obtain ⟨_, action', again⟩ := retries
    cases action.symm.trans action'
    exact released left (ticket_of_holds holds) rfl (.returned action named under again)
  | lost action expired =>
    exact settled (ticket_of_inProgress (state_of_leaseExpired expired)) rfl (.swept action (.inl rfl))
  | expired action expired left =>
    exact released left (ticket_of_inProgress (state_of_leaseExpired expired)) rfl (.expired action)
  | overdue action overdue =>
    rcases state_of_isOverdue overdue with waiting | running
    · rw [ticket_of_queued waiting]
      exact .single .withdraw (.overdue action) rfl (by rintro ⟨⟩)
    · exact settled (ticket_of_inProgress running) rfl (.swept action (.inl rfl))
  | forced action stale =>
    exact settled (ticket_of_inProgress (state_of_cancelStale stale)) rfl (.swept action (.inr rfl))
  | cancelled action waiting =>
    rw [ticket_of_queued waiting]
    exact .single .withdraw (.cancelled action) rfl (by rintro ⟨⟩)

theorem quiet_of_touches (idle : claimTurn config t = none)
    (touches : ReflTransGen (Touch platform config t) job job') :
    Quiet platform config t job.id (some job.ticket) (some job'.ticket) := by
  induction touches with
  | refl => exact .refl _
  | tail touches touch inductionHypothesis =>
    have same := (fixed_touches touches).1
    exact inductionHypothesis.trans (same ▸ quiet_of_touch idle touch)

/-- A row that is purged had ended. -/
theorem closed_of_finished (consistent : job.Consistent) (finished : job.finishedAt.isSome) :
    ∃ outcome, job.ticket = .closed outcome job.attempts := by
  cases state : job.state with
  | queued =>
    rw [(consistent.queued state).2.2.2.2.1] at finished
    cases finished
  | inProgress =>
    rw [(consistent.inProgress state).2.2.2.2.2] at finished
    cases finished
  | completed => exact ⟨.completed, by simp only [Job.ticket, state]⟩
  | failed => exact ⟨.failed, by simp only [Job.ticket, state]⟩
  | cancelled => exact ⟨.cancelled, by simp only [Job.ticket, state]⟩

/-- What a step that claims nothing does to one job. -/
structure IdlePath (platform : Platform) (config : Config) (t : GatewayTransition) (id : String)
    (path : List (TicketEvent String String VideoStatus)) : Prop where
  moves : Ticket.Moves config.maxAttempts ((t.pre.store.get id).map Job.ticket) path
    ((t.post.store.get id).map Job.ticket)
  caused : ∀ event ∈ path, Cause platform config t id event
  hands_nothing : ∀ event ∈ path, event.token? = none
  single : LeaseQueue.Single path
  unborn : path = [.submit] → Unborn platform t.pre id
  absent : t.pre.store.get id = none → t.post.store.get id = none → path = []

theorem idlePath_of_quiet {id : String} {before after : Option Job}
    (earlier : t.pre.store.get id = before) (later : t.post.store.get id = after)
    (present : before.isSome)
    (quiet : Quiet platform config t id (before.map Job.ticket) (after.map Job.ticket)) :
    ∃ path, IdlePath platform config t id path := by
  obtain ⟨path, moves, caused⟩ := quiet
  refine ⟨path, earlier ▸ later ▸ moves, fun event member => (caused event member).1,
    fun event member => (caused event member).2.1, .inr ?_, ?_, ?_⟩
  · intro member
    exact (caused _ member).2.2 rfl
  · rintro rfl
    exact absurd rfl (caused .submit (List.mem_singleton_self _)).2.2
  · intro absent
    rw [← earlier, absent] at present
    cases present

theorem exists_idlePath (fires : (gateway platform prepare config).Fires t)
    (sound : t.pre.Sound platform) (idle : claimTurn config t = none) (id : String) :
    ∃ path, IdlePath platform config t id path := by
  have change := rowChange fires id
  generalize earlier : t.pre.store.get id = before at change
  generalize later : t.post.store.get id = after at change
  cases change with
  | absent =>
    exact ⟨[], by rw [earlier, later]; exact .nil, by simp, by simp, .inr (by simp), by simp,
      fun _ _ => rfl⟩
  | @touched job job' touches =>
    apply idlePath_of_quiet earlier later rfl
    have named : job.id = id := JobStore.id_of_get earlier
    exact named ▸ quiet_of_touches idle touches
  | @created token creation action running named returned =>
    have unborn : Unborn platform t.pre id := .inl ⟨token, creation, running, named⟩
    refine ⟨[.submit], ?_, ?_, ?_, .inl rfl, fun _ => unborn, ?_⟩
    · rw [earlier, later]
      exact .single .submit
    · intro event member
      rw [List.mem_singleton.mp member]
      exact .created action running named
    · intro event member
      rw [List.mem_singleton.mp member]
      rfl
    · intro _ missing
      cases later.symm.trans missing
  | @purged job token task action running old =>
    apply idlePath_of_quiet earlier later rfl
    have finished : job.finishedAt.isSome := by
      cases finishedAt : job.finishedAt with
      | none =>
        rw [finishedAt] at old
        cases old
      | some _ => rfl
    obtain ⟨outcome, closed⟩ := closed_of_finished (sound.row id job earlier).consistent finished
    rw [Option.map_some, closed]
    exact .single .forget (.purged action running) rfl (by rintro ⟨⟩)

end Path

/-! ### Claiming steps -/

section Claim

variable {turn : ClaimTurn}

/-- What a claiming step stores and sends. -/
structure Claims (platform : Platform) (config : Config) (t : GatewayTransition)
    (turn : ClaimTurn) : Prop where
  store : t.post.store = (turn.state.claimed platform config turn.pod turn.slots).store
  leases : turn.state.leases = t.pre.leases
  kept : Kept (Touch platform config t) t.pre.store turn.state.store
  assignments : t.reply.assignments = assignAll platform turn.taken t.pre.leases

/-- A poll claims, unless one of its entries made it throw. -/
theorem claims_poll (sessionId : String) {body : PollBody} {podId : String}
    (action : t.action = .poll body sessionId) (named : body.podId.str = some podId)
    (fine : (t.pre.renewed config body podId sessionId).thrown = false)
    (store : t.post.store = ((t.pre.renewed config body podId sessionId).state.claimed platform
      config (t.pre.renewed config body podId sessionId).pod
      (t.pre.renewed config body podId sessionId).slots).store)
    (assignments : t.reply.assignments = assignAll platform
      ((t.pre.renewed config body podId sessionId).state.store.taken
        (t.pre.renewed config body podId sessionId).pod
        (t.pre.renewed config body podId sessionId).slots) t.pre.leases)
    (claims : claimTurn config t = some turn) : Claims platform config t turn := by
  cases (claimTurn_poll action named fine).symm.trans claims
  obtain ⟨kept, -, leases⟩ := kept_renewed platform config podId action
  exact ⟨store, leases, kept, assignments⟩

theorem claims_of_claimTurn (fires : (gateway platform prepare config).Fires t)
    (claims : claimTurn config t = some turn) : Claims platform config t turn := by
  obtain ⟨pre, action, reply, post⟩ := t
  have effect : Effect platform config pre action reply post := effect fires
  cases effect with
  | unnamed named => simp [claimTurn, named] at claims
  | threw named thrown => simp [claimTurn, named, thrown] at claims
  | @parked body sessionId podId _ named renewed fine parks =>
    subst renewed
    refine claims_poll sessionId rfl named fine rfl ?_ claims
    rw [(taken_of_parks parks).2.2]
    rfl
  | @answered body sessionId podId _ named renewed fine stays =>
    subst renewed
    refine claims_poll sessionId rfl named fine rfl ?_ claims
    simp only [Reply.assignments, pollResponse, claimFor_eq]
    rw [(kept_renewed (t := ⟨pre, .poll body sessionId, .silent, pre⟩) platform config podId
      rfl).2.2]
  | @woken token parked found =>
    cases (claimTurn_resumePoll rfl found).symm.trans claims
    refine ⟨rfl, rfl, .refl _, ?_⟩
    simp only [Reply.assignments, pollResponse, claimFor_eq]
    rfl
  | released found => simp [claimTurn, found] at claims
  | _ => cases claims

/-- The lease a job is handed out under. -/
def ClaimTurn.lease (platform : Platform) (turn : ClaimTurn) (leases : Nat) (id : String) :
    String :=
  platform.newLeaseId (leases + (turn.taken.map Job.id).idxOf id)

/-- A claiming step moves the tickets of the jobs it takes only. -/
theorem ticket_of_touches (claims : claimTurn config t = some turn) {job job' : Job}
    (touches : ReflTransGen (Touch platform config t) job job') :
    job'.ticket = job.ticket ∨ job ∈ turn.taken := by
  have polls := action_of_claimTurn claims
  induction touches with
  | refl => exact .inl rfl
  | tail touches touch inductionHypothesis =>
    cases touch with
    | renewed => exact inductionHypothesis
    | claimed claims' place queued =>
      cases claims'.symm.trans claims
      obtain rfl := queued_of_touches claims touches queued
      exact .inr (List.mem_of_getElem? place)
    | completed reports | acknowledged reports | retried reports | failed reports =>
      obtain ⟨request, action, -⟩ := reports.action
      simp [action] at polls
    | lost action | expired action | overdue action | forced action | cancelled action
    | flagged action | cleared action | mediaExpired action | recovered action =>
      simp [action] at polls

theorem ClaimTurn.queued_taken (turn : ClaimTurn) : Queued turn.state.store turn.taken :=
  InferenceGateway.queued_taken turn.pod turn.slots turn.state.store

/-- A job that is taken was waiting before the step. -/
theorem get_of_taken (claimed : Claims platform config t turn)
    (claims : claimTurn config t = some turn) {job : Job} (taken : job ∈ turn.taken) :
    t.pre.store.get job.id = some job ∧ job.state = .queued := by
  obtain ⟨found, queued⟩ := turn.queued_taken.2 job taken
  refine ⟨?_, queued⟩
  have kept := claimed.kept job.id
  rw [found] at kept
  cases earlier : t.pre.store.get job.id with
  | none =>
    rw [earlier] at kept
    cases kept
  | some before =>
    rw [earlier] at kept
    cases kept with
    | some touches => rw [queued_of_touches claims touches queued]

/-- What a claiming step does to one job. -/
theorem moves_of_claim (fires : (gateway platform prepare config).Fires t)
    (claims : claimTurn config t = some turn)
    (bounded : ∀ id job, t.pre.store.get id = some job → job.Bounded config.maxAttempts)
    (id : String) :
    if id ∈ turn.taken.map Job.id then
      Ticket.Moves config.maxAttempts ((t.pre.store.get id).map Job.ticket)
        [.grant turn.pod.podId (turn.lease platform t.pre.leases id)]
        ((t.post.store.get id).map Job.ticket)
    else (t.post.store.get id).map Job.ticket = (t.pre.store.get id).map Job.ticket := by
  have claimed := claims_of_claimTurn fires claims
  have store : t.post.store = dispatchAll platform turn.pod (turn.state.now + config.leaseTtlMs)
      turn.state.now turn.taken turn.state.store turn.state.leases := by
    rw [claimed.store, Gateway.claimed, claimFor_eq]
    rfl
  split
  · next member =>
    obtain ⟨job, taken, rfl⟩ := List.mem_map.mp member
    obtain ⟨i, inside, place⟩ := List.getElem_of_mem taken
    obtain ⟨found, waiting⟩ := get_of_taken claimed claims taken
    have index : (turn.taken.map Job.id).idxOf job.id = i := by
      have same := turn.queued_taken.1.idxOf_getElem i (by simpa using inside)
      rwa [List.getElem_map, place] at same
    rw [store, dispatchAll_at _ turn.queued_taken (List.getElem?_eq_some_iff.mpr ⟨inside, place⟩), found,
      claimed.leases, Option.map_some, ticket_of_queued waiting, ClaimTurn.lease, index]
    exact .single (.grant ((bounded _ job found).queued waiting))
  · next other =>
    have change := rowChange fires id
    generalize earlier : t.pre.store.get id = before at change
    generalize later : t.post.store.get id = after at change
    cases change with
    | absent => rfl
    | touched touches =>
      rcases ticket_of_touches claims touches with same | taken
      · simp [same]
      · exact absurd (List.mem_map.mpr ⟨_, taken, JobStore.id_of_get earlier⟩) other
    | created action | purged action =>
      rcases action_of_claimTurn claims with ⟨_, _, other⟩ | ⟨_, other⟩ <;>
        cases action.symm.trans other

/-- The assignments of a claiming step are those of the jobs it takes, in their order. -/
theorem assignments_of_claim (claimed : Claims platform config t turn) :
    (t.reply.assignments.map fun assignment => (assignment.jobId, assignment.leaseId)) =
      (turn.taken.map Job.id).map fun id => (id, turn.lease platform t.pre.leases id) := by
  rw [claimed.assignments]
  have pairs : (assignAll platform turn.taken t.pre.leases).map _ = _ :=
    assignAll_pairs t.pre.leases (canRun_of_taken turn.pod turn.slots turn.state.store)
  rw [pairs]
  apply List.ext_getElem
  · simp
  · intro i inside _
    have length : i < turn.taken.length := by simpa using inside
    have index := turn.queued_taken.1.idxOf_getElem i (by simpa using length)
    rw [List.getElem_map] at index
    simp only [List.getElem_map, List.getElem_zipIdx, ClaimTurn.lease, index]

end Claim

/-! ### Steps that claim nothing -/

section Routes

variable (state : Gateway)

theorem assignments_createVideo (request : VideoRequest) :
    (state.createVideo platform prepare config request).1.assignments = [] := by
  unfold Gateway.createVideo
  split
  · rfl
  · split
    · rfl
    · rfl
    · split <;> rfl

theorem assignments_respondWith (status : Nat) (id : String) :
    (state.respondWith config status id).1.assignments = [] := by
  unfold Gateway.respondWith
  split <;> rfl

theorem assignments_cancelInFlight (id : String) (now : Millis) :
    (state.cancelInFlight config id now).1.assignments = [] := by
  unfold Gateway.cancelInFlight
  dsimp only
  split
  · exact assignments_respondWith ..
  · rfl

theorem assignments_deleteVideo (id : String) :
    (state.deleteVideo config id).1.assignments = [] := by
  unfold Gateway.deleteVideo
  split
  · rfl
  · dsimp only
    split
    · split
      · exact assignments_respondWith ..
      · exact assignments_cancelInFlight ..
    · exact assignments_cancelInFlight ..

theorem assignments_upload (request : UploadRequest) :
    (state.upload config request).1.assignments = [] := by
  unfold Gateway.upload
  split
  · rfl
  · dsimp only
    split
    · rfl
    · split
      · rfl
      · split <;> rfl

theorem assignments_failResult (job : Job) (leaseId : String) (body : ResultBody) :
    (state.failResult config job leaseId body).1.assignments = [] := by
  unfold Gateway.failResult
  split
  · rfl
  · dsimp only
    split <;> rfl

theorem assignments_completeResult (job : Job) (leaseId : String) (body : ResultBody) :
    (state.completeResult job leaseId body).1.assignments = [] := by
  unfold Gateway.completeResult
  split
  · rfl
  · dsimp only
    split <;> rfl

theorem assignments_result (request : ResultRequest) :
    (state.result config request).1.assignments = [] := by
  unfold Gateway.result
  split
  · rfl
  · dsimp only
    split
    · rfl
    · split
      · exact assignments_completeResult ..
      · split
        · rfl
        · exact assignments_failResult ..

theorem assignments_setDrain (podId : String) (draining : Bool) :
    (state.setDrain podId draining).1.assignments = [] := by
  unfold Gateway.setDrain
  dsimp only
  split <;> rfl

end Routes

/-- Assignments go out with a claim only. -/
theorem assignments_of_idle (fires : (gateway platform prepare config).Fires t)
    (idle : claimTurn config t = none) : t.reply.assignments = [] := by
  obtain ⟨pre, action, reply, post⟩ := t
  have stepped : pre.step platform prepare config action = some (reply, post) := fires
  have effect : Effect platform config pre action reply post := effect fires
  have returned {route : Reply × Gateway} (same : some route = some (reply, post))
      (nothing : route.1.assignments = []) : reply.assignments = [] := by
    cases same
    exact nothing
  cases effect with
  | unadmitted => exact returned stepped (assignments_createVideo ..)
  | deleted => exact returned stepped (assignments_deleteVideo ..)
  | unaccepted => exact returned stepped (assignments_upload ..)
  | refused | superseded | retried => exact returned stepped (assignments_result ..)
  | drained => exact returned stepped (assignments_setDrain ..)
  | answered named renewed fine =>
    subst renewed
    cases (claimTurn_poll rfl named fine).symm.trans idle
  | woken found => cases (claimTurn_resumePoll rfl found).symm.trans idle
  | _ => rfl

end InferenceGateway
