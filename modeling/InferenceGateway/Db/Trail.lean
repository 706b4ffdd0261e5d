import InferenceGateway.Db.Jobs
import Mathlib.Data.List.Chain

/-!
# The audit trail

Every statement that moves a job appends one event that names the state it
moved to.  `Statement` lists what may be written to the store, and every
statement keeps the trail of each job in step with its row.
-/

namespace InferenceGateway

open Library

/-- The state an event leaves its job in, when it reports a transition. -/
def JobEventKind.lands : JobEventKind → Option VideoStatus
  | .created | .requeued => some .queued
  | .assigned => some .inProgress
  | .completed => some .completed
  | .failed => some .failed
  | .cancelled => some .cancelled
  | .progress | .uploaded | .leaseExpired | .deadlineExceeded | .cancelRequested
  | .recovered => none

/-- The event reports the end of its job. -/
def JobEventKind.finishes (kind : JobEventKind) : Bool :=
  kind = .completed || kind = .failed || kind = .cancelled

theorem finishes_of_lands {kind : JobEventKind} {state : VideoStatus}
    (lands : kind.lands = some state) : kind.finishes = state.isTerminal := by
  cases kind <;> cases lands <;> rfl

/-- A legal transition of the lifecycle. -/
inductive Moves : VideoStatus → VideoStatus → Prop where
  | dispatched : Moves .queued .inProgress
  | requeued : Moves .inProgress .queued
  | completed : Moves .inProgress .completed
  | failed {state : VideoStatus} (unfinished : state = .queued ∨ state = .inProgress) :
      Moves state .failed
  | cancelled {state : VideoStatus} (unfinished : state = .queued ∨ state = .inProgress) :
      Moves state .cancelled

theorem Moves.unfinished {state state' : VideoStatus} (moves : Moves state state') :
    state.isTerminal = false := by
  cases moves with
  | dispatched | requeued | completed => rfl
  | failed unfinished | cancelled unfinished => rcases unfinished with rfl | rfl <;> rfl

/-- The transitions of a job, in the order of the ids of their events. -/
def JobStore.trail (store : JobStore) (id : String) : List JobEventKind :=
  ((store.events.filter fun event => event.jobId = id).map JobEvent.kind).filter
    fun kind => kind.lands.isSome

/-- The transitions replay to the row: a legal path from one `created` event to
its state, with one `assigned` event for each attempt. -/
structure Trail (kinds : List JobEventKind) (job : Job) : Prop where
  starts : ∃ rest, kinds = .created :: rest ∧ .created ∉ rest
  legal : (kinds.filterMap JobEventKind.lands).IsChain Moves
  ends : (kinds.filterMap JobEventKind.lands).getLast? = some job.state
  attempts : kinds.count .assigned = job.attempts
  finished : kinds.countP JobEventKind.finishes = if job.state.isTerminal then 1 else 0

namespace Trail

variable {kinds : List JobEventKind} {job job' : Job}

theorem keep (trail : Trail kinds job) (state : job'.state = job.state)
    (attempts : job'.attempts = job.attempts) : Trail kinds job' :=
  ⟨trail.starts, trail.legal, state ▸ trail.ends, attempts ▸ trail.attempts,
    state ▸ trail.finished⟩

/-- A row that moved, with the event of its move. -/
theorem move {kind : JobEventKind} (trail : Trail kinds job)
    (lands : kind.lands = some job'.state) (moves : Moves job.state job'.state)
    (later : kind ≠ .created)
    (attempts : job'.attempts = job.attempts + if kind = .assigned then 1 else 0) :
    Trail (kinds ++ [kind]) job' := by
  have states : (kinds ++ [kind]).filterMap JobEventKind.lands =
      kinds.filterMap JobEventKind.lands ++ [job'.state] := by
    rw [List.filterMap_append, List.filterMap_cons_some lands, List.filterMap_nil]
  constructor
  · obtain ⟨rest, rfl, once⟩ := trail.starts
    refine ⟨rest ++ [kind], rfl, fun again => ?_⟩
    rcases List.mem_append.mp again with earlier | last
    · exact once earlier
    · exact later (List.mem_singleton.mp last).symm
  · rw [states, List.isChain_append]
    refine ⟨trail.legal, List.isChain_singleton _, ?_⟩
    intro before last after first
    rw [trail.ends, Option.mem_some_iff] at last
    rw [List.head?_cons, Option.mem_some_iff] at first
    exact last ▸ first ▸ moves
  · rw [states, List.getLast?_append, List.getLast?_singleton, Option.some_or]
  · rw [List.count_append, trail.attempts, attempts, List.count_singleton, Nat.add_left_cancel_iff]
    simp only [beq_iff_eq]
  · have unfinished := trail.finished
    rw [moves.unfinished] at unfinished
    rw [List.countP_append, unfinished, List.countP_singleton, finishes_of_lands lands]
    exact Nat.zero_add _

theorem created (job : NewJob) : Trail [.created] job.row where
  starts := ⟨[], rfl, List.not_mem_nil⟩
  legal := List.isChain_singleton _
  ends := rfl
  attempts := rfl
  finished := rfl

end Trail

/-- Every row has its trail, and a job without a row has none. -/
structure JobStore.Audited (store : JobStore) : Prop where
  rows : ∀ id job, store.get id = some job → Trail (store.trail id) job
  gone : ∀ id, store.get id = none → store.trail id = []

/-! ### Statements on one row -/

/-- The transition a successful statement records. -/
def Update.marks (statement : Update) : List JobEventKind :=
  (statement.event.map Prod.fst).toList.filter fun kind => kind.lands.isSome

theorem trail_addEvent (store : JobStore) (id : String) (kind : JobEventKind)
    (podId detail : Option String) (k : String) :
    (store.addEvent id kind podId detail).trail k =
      store.trail k ++ if id = k then [kind].filter fun kind => kind.lands.isSome else [] := by
  unfold JobStore.trail JobStore.addEvent
  rw [List.filter_append, List.map_append, List.filter_append]
  by_cases same : id = k <;> simp [same]

theorem trail_execute (store : JobStore) (id : String) (statement : Update) (k : String) :
    (store.execute id statement).2.trail k =
      store.trail k ++ if id = k ∧ (store.get id).any statement.applies then statement.marks
        else [] := by
  have changes := store.jobs.changes_at id statement.applies
  unfold JobStore.execute
  dsimp only
  rw [changes]
  by_cases applies : (store.jobs.get? id).any statement.applies = true
  · rw [if_pos applies, if_pos rfl, show (store.get id).any statement.applies = true from applies]
    unfold Update.marks
    cases statement.event with
    | none => simp [JobStore.trail]
    | some event =>
      refine (trail_addEvent _ _ _ _ _ k).trans ?_
      simp only [and_true]
      rfl
  · rw [if_neg applies, if_neg Nat.zero_ne_one, if_neg fun both => applies both.2,
      List.append_nil]
    rfl

theorem holds_state {job : Job} {lease : String} (holds : job.holds lease = true) :
    job.state = .inProgress := by
  simp only [Job.holds, Bool.and_eq_true, beq_iff_eq] at holds
  exact holds.1

/-- A fenced statement that may act on `allowed` rows acts on one of them. -/
theorem state_of_fenced {job : Job} {leaseId : Option String} {allowed : Bool}
    (applies : (match fence leaseId with
      | some lease => job.holds lease
      | none => allowed) = true) : job.state = .inProgress ∨ allowed = true := by
  split at applies
  · exact .inl (holds_state applies)
  · exact .inr applies

/-- A statement leaves the state and the attempts alone, or makes a legal move
and records it. -/
theorem marks_of_applies (statement : Update) {job : Job}
    (applies : statement.applies job = true) :
    statement.marks = [] ∧ (statement.assign job).state = job.state ∧
        (statement.assign job).attempts = job.attempts ∨
      ∃ kind, statement.marks = [kind] ∧ kind.lands = some (statement.assign job).state ∧
        Moves job.state (statement.assign job).state ∧ kind ≠ .created ∧
        (statement.assign job).attempts = job.attempts + if kind = .assigned then 1 else 0 := by
  cases statement with
  | renewLease | requestCancel | setArtifacts | clearInput => exact .inl ⟨rfl, rfl, rfl⟩
  | claim podId leaseId expiresAt now =>
    have queued : job.state = .queued := beq_iff_eq.mp applies
    exact .inr ⟨.assigned, rfl, rfl, queued ▸ .dispatched, by decide, rfl⟩
  | complete leaseId artifacts now =>
    have running := holds_state applies
    exact .inr ⟨.completed, rfl, rfl, running ▸ .completed, by decide, rfl⟩
  | fail leaseId error now =>
    have unfinished : job.state = .queued ∨ job.state = .inProgress := by
      rcases state_of_fenced applies with running | allowed
      · exact .inr running
      · simpa using allowed
    exact .inr ⟨.failed, rfl, rfl, .failed unfinished, by decide, rfl⟩
  | requeue leaseId reason =>
    have running : job.state = .inProgress := by
      rcases state_of_fenced applies with running | allowed
      · exact running
      · exact beq_iff_eq.mp allowed
    exact .inr ⟨.requeued, rfl, rfl, running ▸ .requeued, by decide, rfl⟩
  | cancelQueued now =>
    have queued : job.state = .queued := beq_iff_eq.mp applies
    exact .inr ⟨.cancelled, rfl, rfl, .cancelled (.inl queued), by decide, rfl⟩
  | markCancelled leaseId now detail =>
    have running : job.state = .inProgress := by
      rcases state_of_fenced applies with running | allowed
      · exact running
      · exact beq_iff_eq.mp allowed
    exact .inr ⟨.cancelled, rfl, rfl, .cancelled (.inr running), by decide, rfl⟩

namespace JobStore.Audited

variable {store : JobStore}

theorem execute (audited : store.Audited) (id : String) (statement : Update) :
    (store.execute id statement).2.Audited := by
  constructor
  · intro k job' found
    rw [trail_execute]
    rw [get_execute] at found
    by_cases same : k = id
    · subst same
      rw [if_pos rfl] at found
      obtain ⟨job, before, rfl⟩ := Option.map_eq_some_iff.mp found
      have trail := audited.rows k job before
      rw [before, Option.any_some]
      by_cases applies : statement.applies job = true
      · rw [if_pos ⟨rfl, applies⟩]
        unfold Update.run
        rw [if_pos applies]
        rcases marks_of_applies statement applies with
          ⟨silent, state, attempts⟩ | ⟨kind, marks, lands, moves, later, attempts⟩
        · rw [silent, List.append_nil]
          exact trail.keep state attempts
        · rw [marks]
          exact trail.move lands moves later attempts
      · rw [if_neg fun both => applies both.2, List.append_nil]
        unfold Update.run
        rw [if_neg applies]
        exact trail
    · rw [if_neg same] at found
      rw [if_neg fun both => same both.1.symm, List.append_nil]
      exact audited.rows k job' found
  · intro k absent
    rw [trail_execute]
    rw [get_execute] at absent
    have before : store.get k = none := by
      split at absent
      · exact Option.map_eq_none_iff.mp absent
      · exact absent
    rw [audited.gone k before, List.nil_append, if_neg]
    rintro ⟨rfl, applies⟩
    rw [before] at applies
    cases applies

theorem addEvent (audited : store.Audited) {kind : JobEventKind} (reports : kind.lands = none)
    (id : String) (podId detail : Option String) :
    (store.addEvent id kind podId detail).Audited := by
  have same (k : String) : (store.addEvent id kind podId detail).trail k = store.trail k := by
    simp [trail_addEvent, reports]
  exact ⟨fun k job found => same k ▸ audited.rows k job found,
    fun k absent => (same k).trans (audited.gone k absent)⟩

theorem create (audited : store.Audited) {job : NewJob} {store' : JobStore}
    (inserted : store.create job = some store') : store'.Audited := by
  have rows := get_create inserted
  have absent := get_of_create inserted
  obtain ⟨jobs, -, rfl⟩ := Option.map_eq_some_iff.mp inserted
  have events (k : String) : (({ store with jobs := jobs } : JobStore).addEvent job.id .created
      none (some job.model)).trail k = store.trail k ++ if job.id = k then [.created] else [] :=
    trail_addEvent _ _ _ _ _ k
  constructor
  · intro k row found
    rw [rows] at found
    rw [events]
    split at found
    · next same =>
      subst same
      cases found
      rw [audited.gone _ absent, if_pos rfl]
      exact .created job
    · next other =>
      rw [if_neg (Ne.symm other), List.append_nil]
      exact audited.rows k row found
  · intro k missing
    rw [rows] at missing
    rw [events]
    split at missing
    · cases missing
    · next other =>
      rw [if_neg (Ne.symm other), List.append_nil]
      exact audited.gone k missing

/-- A restart renews leases and writes events of no transition. -/
theorem recoverOnStartup (audited : store.Audited) (now graceMs : Millis) :
    (store.recoverOnStartup now graceMs).2.Audited := by
  have same (k : String) : (store.recoverOnStartup now graceMs).2.trail k = store.trail k := by
    unfold JobStore.recoverOnStartup JobStore.trail
    dsimp only
    split
    · rw [List.filter_append, List.map_append, List.filter_append]
      refine (congrArg (_ ++ ·) (List.filter_eq_nil_iff.mpr ?_)).trans (List.append_nil _)
      intro kind member
      obtain ⟨event, inside, rfl⟩ := List.mem_map.mp member
      obtain ⟨job, -, rfl⟩ := List.mem_map.mp (List.mem_filter.mp inside).1
      exact Bool.false_ne_true
    · rfl
  constructor
  · intro k job' found
    rw [get_recoverOnStartup] at found
    obtain ⟨job, before, rfl⟩ := Option.map_eq_some_iff.mp found
    rw [same]
    have trail := audited.rows k job before
    split
    · exact trail.keep rfl rfl
    · exact trail
  · intro k missing
    rw [get_recoverOnStartup, Option.map_eq_none_iff] at missing
    exact (same k).trans (audited.gone k missing)

end JobStore.Audited

/-! ### Purging -/

section Purge

variable (store : JobStore) (before : Millis)

/-- The rows a purge drops are those under the ids whose events it drops. -/
theorem mem_purged_iff (id : String) :
    id ∈ (store.jobs.rows.filter fun job => job.finishedAt.any (· < before)).map Job.id ↔
      (store.get id).any (fun job => job.finishedAt.any (· < before)) = true := by
  rw [List.mem_map, Option.any_eq_true]
  constructor
  · rintro ⟨job, member, rfl⟩
    obtain ⟨member, old⟩ := List.mem_filter.mp member
    exact ⟨job, JobStore.get_of_mem member, old⟩
  · rintro ⟨job, found, old⟩
    exact ⟨job, List.mem_filter.mpr ⟨JobStore.mem_of_get found, old⟩, JobStore.id_of_get found⟩

theorem events_purgeBefore :
    (store.purgeBefore before).2.events = store.events.filter fun event =>
      !(store.get event.jobId).any fun job => job.finishedAt.any (· < before) := by
  refine List.filter_congr fun event _ => ?_
  rw [decide_not, Bool.not_inj_iff, Bool.eq_iff_iff, decide_eq_true_iff]
  exact mem_purged_iff store before event.jobId

theorem trail_purgeBefore (k : String) :
    (store.purgeBefore before).2.trail k =
      if (store.get k).any (fun job => job.finishedAt.any (· < before)) then []
      else store.trail k := by
  unfold JobStore.trail
  rw [events_purgeBefore, List.filter_filter]
  split
  · next old =>
    refine congrArg (fun events => (List.map JobEvent.kind events).filter _)
      (List.filter_eq_nil_iff.mpr fun event _ both => ?_)
    simp only [Bool.and_eq_true, decide_eq_true_eq, Bool.not_eq_true'] at both
    rw [both.1, old] at both
    cases both.2
  · next kept =>
    congr 2
    refine List.filter_congr fun event _ => ?_
    by_cases same : event.jobId = k <;> simp [same, kept]

theorem JobStore.Audited.purgeBefore {store : JobStore} (audited : store.Audited)
    (before : Millis) : (store.purgeBefore before).2.Audited := by
  constructor
  · intro k job found
    rw [JobStore.get_purgeBefore, Option.filter_eq_some_iff, Bool.not_eq_true'] at found
    rw [trail_purgeBefore, found.1, Option.any_some, found.2]
    exact audited.rows k job found.1
  · intro k missing
    rw [JobStore.get_purgeBefore, Option.filter_eq_none_iff] at missing
    rw [trail_purgeBefore]
    split
    · rfl
    · next kept =>
      refine audited.gone k ?_
      cases found : store.get k with
      | none => rfl
      | some job =>
        rw [found, Option.any_some] at kept
        exact absurd (missing job found) (by simpa using kept)

end Purge

/-! ### Everything that is written to the store -/

/-- One statement of the store, or the passing of time. -/
inductive Statement : JobStore → JobStore → Prop where
  | execute (store : JobStore) (id : String) (statement : Update) :
      Statement store (store.execute id statement).2
  | note (store : JobStore) {kind : JobEventKind} (reports : kind.lands = none) (id : String)
      (podId detail : Option String) : Statement store (store.addEvent id kind podId detail)
  | create {store store' : JobStore} {job : NewJob} (inserted : store.create job = some store') :
      Statement store store'
  | recover (store : JobStore) (now graceMs : Millis) :
      Statement store (store.recoverOnStartup now graceMs).2
  | purge (store : JobStore) (before : Millis) : Statement store (store.purgeBefore before).2
  | tick (store : JobStore) (now : Millis) : Statement store { store with clock := now }

theorem Statement.audited {store store' : JobStore} (statement : Statement store store')
    (audited : store.Audited) : store'.Audited := by
  cases statement with
  | execute id statement => exact audited.execute id statement
  | note reports id podId detail => exact audited.addEvent reports id podId detail
  | create inserted => exact audited.create inserted
  | recover now graceMs => exact audited.recoverOnStartup now graceMs
  | purge before => exact audited.purgeBefore before
  | tick => exact ⟨audited.rows, audited.gone⟩

end InferenceGateway
