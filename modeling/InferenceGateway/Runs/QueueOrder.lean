import InferenceGateway.Scheduler.Claimed
import InferenceGateway.Runs.Consistency

/-!
# Queue positions

A position counts the queued jobs with an earlier `created_at`; the claim loop
takes jobs in the order of an ordered scan.  The two agree where no two queued
jobs are of the same millisecond.
-/

namespace InferenceGateway

open Library Relation

/-- In a list with strictly increasing keys as many elements have a smaller key as come
before. -/
theorem countP_lt_eq_idxOf {α : Type} [DecidableEq α] {key : α → Int} {elements : List α}
    (increasing : elements.Pairwise fun first second => key first < key second) {element : α}
    (member : element ∈ elements) :
    (elements.countP fun other => key other < key element) = elements.idxOf element := by
  induction elements with
  | nil => cases member
  | cons head tail inductionHypothesis =>
    obtain ⟨first, rest⟩ := List.pairwise_cons.mp increasing
    by_cases same : head = element
    · subst same
      have none_before : (tail.countP fun other => key other < key head) = 0 := by
        rw [List.countP_eq_zero]
        intro other later
        simpa using (first other later).le
      simp [none_before]
    · have later : element ∈ tail := (List.mem_cons.mp member).resolve_left (Ne.symm same)
      rw [List.countP_cons_of_pos (by simpa using first element later),
        List.idxOf_cons_ne _ same, inductionHypothesis rest later]

/-- The places of the elements of a list without repetitions are the numbers below its length. -/
theorem map_idxOf_eq_range {α : Type} [DecidableEq α] {elements : List α}
    (nodup : elements.Nodup) :
    elements.map (fun element => elements.idxOf element) = List.range elements.length := by
  apply List.ext_getElem
  · simp
  · intro i inside _
    rw [List.getElem_map, List.getElem_range]
    exact nodup.idxOf_getElem i (by simpa using inside)

/-! ### One store -/

namespace JobStore

variable {store : JobStore}

theorem mem_queue {job : Job} :
    job ∈ store.queue ↔ job ∈ store.jobs.rows ∧ job.state = .queued := by
  simp [queue, byCreation]

theorem queue_perm (store : JobStore) :
    store.queue.Perm (store.jobs.rows.filter fun job => job.state == .queued) :=
  List.perm_insertionSort _ _

theorem nodup_queue (store : JobStore) : store.queue.Nodup := by
  have rows : store.jobs.rows.Nodup := List.Nodup.of_map _ store.jobs.nodup
  apply store.queue_perm.nodup_iff.mpr
  exact rows.sublist List.filter_sublist

theorem queuePosition_eq {job : Job} (queued : job.state = .queued) :
    store.queuePosition job =
      some (store.queue.countP fun other => other.createdAt < job.createdAt) := by
  rw [store.queue_perm.countP_eq, List.countP_filter, queuePosition, if_neg (by simp [queued])]
  congr 2
  funext other
  exact Bool.and_comm _ _

/-- Every queued job reports how many are ahead of it, and together they report each number
once. -/
structure Numbered (store : JobStore) : Prop where
  ahead : ∀ job ∈ store.queue, store.queuePosition job = some (store.queue.idxOf job)
  positions : (store.queue.map store.queuePosition).Perm
    ((List.range store.queue.length).map some)

/-- No two queued jobs were created in the same millisecond. -/
def Untied (store : JobStore) : Prop := (store.queue.map Job.createdAt).Nodup

theorem ahead_of_untied (untied : store.Untied) {job : Job} (member : job ∈ store.queue) :
    store.queuePosition job = some (store.queue.idxOf job) := by
  have sorted : store.queue.Pairwise fun first second => first.createdAt ≤ second.createdAt :=
    List.pairwise_insertionSort _ _
  have distinct : store.queue.Pairwise fun first second => first.createdAt ≠ second.createdAt :=
    List.pairwise_map.mp untied
  have increasing : store.queue.Pairwise fun first second =>
      first.createdAt < second.createdAt := by
    apply (sorted.and distinct).imp
    intro first second both
    exact lt_of_le_of_ne both.1 both.2
  rw [queuePosition_eq (mem_queue.mp member).2, countP_lt_eq_idxOf increasing member]

theorem numbered_iff (store : JobStore) : store.Numbered ↔ store.Untied := by
  constructor
  · intro numbered
    apply List.Nodup.map_on _ store.nodup_queue
    intro job member other member' same
    -- jobs of one millisecond report one position, and no two stand in one place
    have position : store.queuePosition job = store.queuePosition other := by
      rw [queuePosition_eq (mem_queue.mp member).2, queuePosition_eq (mem_queue.mp member').2, same]
    rw [numbered.ahead job member, numbered.ahead other member', Option.some.injEq] at position
    exact (List.idxOf_inj member).mp position
  · intro untied
    have places : store.queue.map store.queuePosition =
        (List.range store.queue.length).map some := by
      rw [← map_idxOf_eq_range store.nodup_queue, List.map_map]
      apply List.map_congr_left
      intro job member
      exact ahead_of_untied untied member
    exact ⟨fun job member => ahead_of_untied untied member, List.Perm.of_eq places⟩

end JobStore

/-! ### Runs -/

/-- A job that the step creates is not of the millisecond of an earlier row. -/
def OwnMillisecond (t : GatewayTransition) : Prop :=
  ∀ token creation, t.action = .advance token .proceed →
    t.pre.tasks.lookup token = some (.creation creation) →
      ∀ job ∈ t.pre.store.jobs.rows, job.createdAt ≠ creation.job.createdAt

variable {platform : Platform} {prepare : Prepare} {config : Config} {t : GatewayTransition}

/-- Rows of the same millisecond are the same row. -/
def JobStore.Spread (store : JobStore) : Prop :=
  ∀ first second job other, store.get first = some job → store.get second = some other →
    job.createdAt = other.createdAt → first = second

/-- A row either was there with its creation time, or the step has just created it. -/
theorem createdAt_origin (fires : (gateway platform prepare config).Fires t) {id : String}
    {job' : Job} (found : t.post.store.get id = some job') :
    (∃ job, t.pre.store.get id = some job ∧ job.createdAt = job'.createdAt) ∨
      ∃ token creation, t.action = .advance token .proceed ∧
        t.pre.tasks.lookup token = some (.creation creation) ∧
        creation.job.id = id ∧ creation.job.createdAt = job'.createdAt := by
  have change := rowChange fires id
  rw [found] at change
  generalize before : t.pre.store.get id = row at change
  cases change with
  | touched touches => exact .inl ⟨_, rfl, (fixed_touches touches).2.1.symm⟩
  | @created token creation action running named =>
    exact .inr ⟨token, creation, action, running, named, rfl⟩

theorem spread_step (fires : (gateway platform prepare config).Fires t)
    (own : OwnMillisecond t) (spread : t.pre.store.Spread) : t.post.store.Spread := by
  intro first second job other found found' same
  rcases createdAt_origin fires found with
    ⟨before, there, kept⟩ | ⟨token, creation, action, running, named, kept⟩
  · rcases createdAt_origin fires found' with
      ⟨before', there', kept'⟩ | ⟨token, creation, action, running, -, kept'⟩
    · exact spread first second before before' there there' (kept.trans (same.trans kept'.symm))
    · exact absurd (kept.trans (same.trans kept'.symm))
        (own token creation action running before (JobStore.mem_of_get there))
  · rcases createdAt_origin fires found' with
      ⟨before', there', kept'⟩ | ⟨token', creation', action', running', named', -⟩
    · exact absurd (kept'.trans (same.symm.trans kept.symm))
        (own token creation action running before' (JobStore.mem_of_get there'))
    · rw [action] at action'
      cases action'
      rw [running] at running'
      cases running'
      exact named.symm.trans named'

theorem JobStore.Spread.untied {store : JobStore} (spread : store.Spread) : store.Untied := by
  apply List.Nodup.map_on _ store.nodup_queue
  intro job member other member' same
  have found := JobStore.get_of_mem (JobStore.mem_queue.mp member).1
  have found' := JobStore.get_of_mem (JobStore.mem_queue.mp member').1
  rw [spread job.id other.id job other found found' same, found'] at found
  exact (Option.some.inj found).symm

/-- In every reachable store positions are places in the dispatch order exactly where no two
queued jobs are of one millisecond; a run that gives each job a millisecond of its own
reaches no other. -/
theorem queue_numbered (platform : Platform) (prepare : Prepare) (config : Config)
    (run : GatewayRun platform prepare config) :
    (run.final.store.Numbered ↔ run.final.store.Untied) ∧
      ((∀ t ∈ run.trace, OwnMillisecond t) → run.final.store.Numbered) := by
  have numbered := JobStore.numbered_iff run.final.store
  refine ⟨numbered, fun own => numbered.mpr ?_⟩
  have spread : run.final.store.Spread := by
    apply run.run.preserves (P := fun state => state.store.Spread)
    · rintro _ _ _ _ ⟨⟩
    · intro t member fires spread
      exact spread_step fires (own t member) spread
  exact spread.untied

/-- Two videos created before the clock ticks. -/
def sampleTies : List Action :=
  sampleStart ++ [.createVideo sampleVideo,
    .advance 2 .proceed, .advance 2 .proceed, .advance 2 .proceed]

theorem not_queue_numbered :
    ¬ ∀ run : GatewayRun .counting samplePrepare .default, run.final.store.Numbered := by
  intro numbered
  have ties : (sampleRun .default sampleTies (by decide +kernel)).final.store.queue.map
      Job.createdAt = [0, 0] := by decide +kernel
  have untied := (JobStore.numbered_iff _).mp
    (numbered (sampleRun .default sampleTies (by decide +kernel)))
  rw [JobStore.Untied, ties] at untied
  simp at untied

end InferenceGateway
