import InferenceGateway.Runs.Freshness
import Mathlib.Data.List.Perm.Subperm

/-!
# The ceiling of the queue

`POST /v1/videos` compares the depth of the queue with its ceiling before it
writes the image, and inserts the row after that.  A request that is let in
while others are between the two counts on room that is theirs; the ceiling
holds as long as no request does.
-/

namespace InferenceGateway

open Library

variable {platform : Platform} {prepare : Prepare} {config : Config} {t : GatewayTransition}

/-- A row that was not queued is queued again. -/
def Requeues (t : GatewayTransition) : Prop :=
  ∃ id job job', t.pre.store.get id = some job ∧ job.state ≠ .queued ∧
    t.post.store.get id = some job' ∧ job'.state = .queued

/-- A row is inserted. -/
def Inserts (t : GatewayTransition) : Prop :=
  ∃ id, t.pre.store.get id = none ∧ (t.post.store.get id).isSome = true

/-- The ids of the queued jobs. -/
def JobStore.queuedIds (store : JobStore) : List String :=
  (store.jobs.rows.filter fun job => job.state == .queued).map Job.id

theorem length_queuedIds (store : JobStore) : store.queuedIds.length = store.countQueued := by
  rw [JobStore.queuedIds, List.length_map, ← List.countP_eq_length_filter]
  rfl

theorem nodup_queuedIds (store : JobStore) : store.queuedIds.Nodup :=
  store.jobs.nodup.sublist (List.filter_sublist.map _)

theorem mem_queuedIds_iff {store : JobStore} {id : String} :
    id ∈ store.queuedIds ↔ ∃ job, store.get id = some job ∧ job.state = .queued := by
  simp only [JobStore.queuedIds, List.mem_map, List.mem_filter, beq_iff_eq]
  constructor
  · rintro ⟨job, ⟨member, queued⟩, rfl⟩
    exact ⟨job, JobStore.get_of_mem member, queued⟩
  · rintro ⟨job, found, queued⟩
    exact ⟨job, ⟨JobStore.mem_of_get found, queued⟩, JobStore.id_of_get found⟩

/-! ### Requests between the check and the insert -/

def Task.isCreation : Task → Bool
  | .creation _ => true
  | _ => false

/-- The requests that have passed the depth check and are still to insert their rows. -/
def Gateway.creations (state : Gateway) : List Nat :=
  (state.tasks.entries.filter fun entry => entry.2.isCreation).map Sigma.fst

/-- A request that passes the checks of its route in the state it finds. -/
def admitsVideo (prepare : Prepare) (config : Config) (t : GatewayTransition) : Bool :=
  match t.action with
  | .createVideo request => request.multipart &&
      match request.form with
      | .ok form => (t.pre.admission prepare config form).isOk
      | .error _ => false
  | _ => false

/-- The request is let in while others are still to insert their rows, and the queue has no room
for all of them. -/
def overbooks (prepare : Prepare) (config : Config) (t : GatewayTransition) : Bool :=
  admitsVideo prepare config t && !t.pre.creations.isEmpty &&
    decide (config.maxQueueDepth ≤ t.pre.store.countQueued + t.pre.creations.length)

theorem mem_creations_iff {state : Gateway} {k : Nat} :
    k ∈ state.creations ↔ ∃ creation, state.tasks.lookup k = some (.creation creation) := by
  simp only [Gateway.creations, List.mem_map, List.mem_filter]
  constructor
  · rintro ⟨⟨k, task⟩, ⟨member, creates⟩, rfl⟩
    cases task with
    | creation creation => exact ⟨creation, AList.mem_lookup_iff.mpr member⟩
    | upload | finishing | cleanup => cases creates
  · rintro ⟨creation, running⟩
    exact ⟨⟨k, .creation creation⟩, ⟨AList.mem_lookup_iff.mp running, rfl⟩, rfl⟩

theorem nodup_creations (state : Gateway) : state.creations.Nodup :=
  List.Nodup.sublist (List.filter_sublist.map _) state.tasks.nodupKeys

theorem admitsVideo_of_createVideo {pre post : Gateway} {request : VideoRequest} {token : Nat}
    (answered : pre.createVideo platform prepare config request = (.pending token, post)) :
    admitsVideo prepare config ⟨pre, .createVideo request, .pending token, post⟩ = true := by
  obtain ⟨multipart, form, model, image, input, read, admitted⟩ := admitted_of_createVideo answered
  simp [admitsVideo, multipart, read, admitted, Except.isOk, Except.toBool]

/-- Only a request that is let in adds to them. -/
theorem creations_subset (fires : (gateway platform prepare config).Fires t) {k : Nat}
    (running : k ∈ t.post.creations) :
    k ∈ t.pre.creations ∨ k = t.pre.tokens ∧ admitsVideo prepare config t = true := by
  obtain ⟨creation, running⟩ := mem_creations_iff.mp running
  have change := taskChange fires k
  rw [running] at change
  generalize before : t.pre.tasks.lookup k = first at change
  generalize after : some (Task.creation creation) = last at change
  cases change with
  | same => exact .inl (mem_creations_iff.mpr ⟨creation, before.trans after.symm⟩)
  | spawned fresh counted spawned =>
    cases after
    cases spawned with
    | @creation request job image action _ _ _ _ minted =>
      refine .inr ⟨fresh, ?_⟩
      obtain ⟨pre, _, reply, post⟩ := t
      obtain rfl := action
      have effect : Effect platform config pre (.createVideo request) reply post := effect fires
      cases effect with
      | unadmitted => exact absurd minted (Nat.succ_ne_self _).symm
      | creating => exact admitsVideo_of_createVideo (Option.some.inj fires)
  | continued action continues =>
    cases after
    cases continues with
    | creation => exact .inl (mem_creations_iff.mpr ⟨_, before⟩)
  | returned => cases after
  | lost => cases after

/-! ### What lengthens the queue -/

/-- Without a requeue or an insertion, a job in the queue was there before. -/
theorem countQueued_le (requeue : ¬ Requeues t) (insertion : ¬ Inserts t) :
    t.post.store.countQueued ≤ t.pre.store.countQueued := by
  rw [← length_queuedIds, ← length_queuedIds]
  refine (List.Nodup.subperm (nodup_queuedIds _) fun id member => ?_).length_le
  obtain ⟨job', after, queued'⟩ := mem_queuedIds_iff.mp member
  cases before : t.pre.store.get id with
  | none => exact absurd ⟨id, before, by rw [after]; rfl⟩ insertion
  | some job =>
    refine mem_queuedIds_iff.mpr ⟨job, before, ?_⟩
    by_contra moved
    exact requeue ⟨id, job, job', before, moved, after, queued'⟩

/-- An insertion is the last step of a creation. -/
theorem create_of_inserts (fires : (gateway platform prepare config).Fires t)
    (inserts : Inserts t) : ∃ job, t.pre.store.create job = some t.post.store := by
  obtain ⟨id, absent, present⟩ := inserts
  obtain ⟨job, found⟩ := Option.isSome_iff_exists.mp present
  obtain ⟨k, c, action, running, -, -, -⟩ := row_origin fires found absent
  obtain ⟨pre, action, reply, post⟩ := t
  cases action
  have effect : Effect platform config pre (.advance k .proceed) reply post := effect fires
  cases effect with
  | making | writing | uncreated => cases absent.symm.trans found
  | created _ _ inserted => exact ⟨_, inserted⟩
  | streaming other | dropped other | stored other | removed other | finished other
  | cleaning other | cleaned other => cases running.symm.trans other

theorem countQueued_create {store store' : JobStore} {job : NewJob}
    (inserted : store.create job = some store') :
    store'.countQueued = store.countQueued + 1 := by
  obtain ⟨jobs, fresh, rfl⟩ := Option.map_eq_some_iff.mp inserted
  rw [JobStore.countQueued, JobStore.jobs_addEvent, Table.rows_insert? fresh, List.countP_append]
  rfl

/-! ### One step -/

/-- Queued jobs and those that are going to be queued. -/
def Gateway.booked (state : Gateway) : Nat := state.store.countQueued + state.creations.length

/-- A request is let in only below the ceiling. -/
theorem room_of_admitsVideo (admitted : admitsVideo prepare config t = true) :
    t.pre.store.countQueued < config.maxQueueDepth := by
  unfold admitsVideo at admitted
  split at admitted
  · next request action =>
    rw [Bool.and_eq_true] at admitted
    obtain ⟨-, admitted⟩ := admitted
    split at admitted
    · next form read =>
      cases outcome : t.pre.admission prepare config form with
      | error refusal => simp [outcome, Except.isOk, Except.toBool] at admitted
      | ok accepted =>
        obtain ⟨spec, passed⟩ := letsIn_of_admission outcome
        exact passed.room
    · cases admitted
  · cases admitted

/-- An insertion takes one of the creations. -/
theorem booked_inserts (fires : (gateway platform prepare config).Fires t)
    (inserts : Inserts t) : t.post.booked ≤ t.pre.booked := by
  obtain ⟨id, absent, present⟩ := inserts
  obtain ⟨job, found⟩ := Option.isSome_iff_exists.mp present
  obtain ⟨k, creation, action, running, -, -, returned⟩ := row_origin fires found absent
  have taken : k ∈ t.pre.creations := mem_creations_iff.mpr ⟨creation, running⟩
  have fewer : t.post.creations.length ≤ (t.pre.creations.erase k).length := by
    refine ((nodup_creations _).subperm fun other member => ?_).length_le
    rcases creations_subset fires member with earlier | ⟨-, admitted⟩
    · refine (List.mem_erase_of_ne ?_).mpr earlier
      rintro rfl
      obtain ⟨creation', running'⟩ := mem_creations_iff.mp member
      cases returned.symm.trans running'
    · rw [admitsVideo, action] at admitted
      cases admitted
  rw [List.length_erase_of_mem taken] at fewer
  obtain ⟨row, inserted⟩ := create_of_inserts fires ⟨id, absent, present⟩
  have one := List.length_pos_of_mem taken
  rw [Gateway.booked, Gateway.booked, countQueued_create inserted]
  omega

theorem booked_step (fires : (gateway platform prepare config).Fires t)
    (requeue : ¬ Requeues t) (room : overbooks prepare config t = false)
    (bound : t.pre.booked ≤ config.maxQueueDepth) : t.post.booked ≤ config.maxQueueDepth := by
  by_cases inserts : Inserts t
  · exact (booked_inserts fires inserts).trans bound
  · have queued := countQueued_le requeue inserts
    cases admitted : admitsVideo prepare config t with
    | false =>
      have fewer : t.post.creations.length ≤ t.pre.creations.length := by
        refine ((nodup_creations _).subperm fun k member => ?_).length_le
        rcases creations_subset fires member with earlier | ⟨-, other⟩
        · exact earlier
        · cases admitted.symm.trans other
      exact (Nat.add_le_add queued fewer).trans bound
    | true =>
      have more : t.post.creations.length ≤ (t.pre.tokens :: t.pre.creations).length := by
        refine ((nodup_creations _).subperm fun k member => ?_).length_le
        rcases creations_subset fires member with earlier | ⟨rfl, -⟩
        · exact List.mem_cons_of_mem _ earlier
        · exact List.mem_cons_self
      have least : t.pre.booked < config.maxQueueDepth := by
        unfold Gateway.booked
        cases others : t.pre.creations with
        | nil => exact room_of_admitsVideo admitted
        | cons k rest =>
          rw [overbooks, admitted, others, Bool.true_and] at room
          simpa using room
      exact (Nat.add_le_add queued more).trans least

/-! ### Whole runs -/

section Ceiling

variable (platform : Platform) (prepare : Prepare) (config : Config)
  (run : GatewayRun platform prepare config)

/-- In a run without a requeue in which no request is let in on the room of others, the queue
never exceeds its ceiling. -/
theorem queue_ceiling (unbroken : ∀ t ∈ run.trace, ¬ Requeues t)
    (room : ∀ t ∈ run.trace, overbooks prepare config t = false) :
    ∀ t ∈ run.trace, t.post.store.countQueued ≤ config.maxQueueDepth := by
  intro t member
  obtain ⟨before, after, split⟩ := List.append_of_mem member
  obtain ⟨earlier, fires, -⟩ := (split ▸ run.run).split
  have bound : t.post.booked ≤ config.maxQueueDepth := by
    refine booked_step fires (unbroken t member) (room t member) (earlier.preserves
      (P := fun state => state.booked ≤ config.maxQueueDepth) (Nat.zero_le _) ?_)
    intro u inside fires bound
    have member : u ∈ run.trace := split ▸ List.mem_append_left _ inside
    exact booked_step fires (unbroken u member) (room u member) bound
  exact (Nat.le_add_right _ _).trans bound

end Ceiling

/-- Room for the given number of queued jobs. -/
def sampleDepth (depth : Nat) : Config := { Config.default with maxQueueDepth := depth }

/-- Two creations are admitted before either has inserted its row. -/
def sampleTwins : List Action :=
  [.poll (samplePoll "pod-a" []) "session", .createVideo sampleVideo, .createVideo sampleVideo,
    .advance 1 .proceed, .advance 1 .proceed, .advance 1 .proceed,
    .advance 2 .proceed, .advance 2 .proceed, .advance 2 .proceed]

/-- Where all jobs there are are queued, none is queued again. -/
theorem not_requeues_of_all {trace : List GatewayTransition}
    (queued : (trace.all fun t => t.pre.store.jobs.rows.all (·.state == .queued)) = true) :
    ∀ t ∈ trace, ¬ Requeues t := by
  rintro t member ⟨id, job, job', found, moved, -⟩
  have rows := List.all_eq_true.mp (List.all_eq_true.mp queued t member) job
    (JobStore.mem_of_get found)
  exact moved (beq_iff_eq.mp rows)

/-- With room for both, the twins fill the queue to its ceiling. -/
theorem queue_ceiling_sample :
    (sampleRun (sampleDepth 2) sampleTwins (by decide +kernel)).final.store.countQueued = 2 ∧
      ∀ t ∈ (sampleRun (sampleDepth 2) sampleTwins (by decide +kernel)).trace,
        t.post.store.countQueued ≤ 2 := by
  have booked : ((sampleRun (sampleDepth 2) sampleTwins (by decide +kernel)).trace.all fun t =>
      !overbooks samplePrepare (sampleDepth 2) t) = true := by decide +kernel
  refine ⟨by decide +kernel, queue_ceiling .counting samplePrepare (sampleDepth 2) _
    (not_requeues_of_all (by decide +kernel)) fun t member => ?_⟩
  exact Bool.not_eq_true' _ ▸ List.all_eq_true.mp booked t member

/-- Nothing is requeued, and two jobs are queued under a ceiling of one. -/
theorem not_queue_ceiling :
    ¬ ∀ run : GatewayRun .counting samplePrepare (sampleDepth 1),
      (∀ t ∈ run.trace, ¬ Requeues t) →
        ∀ t ∈ run.trace, t.post.store.countQueued ≤ (sampleDepth 1).maxQueueDepth := by
  intro ceiling
  have crowded : ((sampleRun (sampleDepth 1) sampleTwins (by decide +kernel)).trace.any fun t =>
      decide (1 < t.post.store.countQueued)) = true := by decide +kernel
  obtain ⟨t, member, exceeds⟩ := List.any_eq_true.mp crowded
  have bound := ceiling (sampleRun (sampleDepth 1) sampleTwins (by decide +kernel))
    (not_requeues_of_all (by decide +kernel)) t member
  exact absurd (of_decide_eq_true exceeds) (Nat.not_lt.mpr bound)

end InferenceGateway
