import InferenceGateway.Runs.InputFiles

/-!
# What a cleanup leaves behind

A cleanup that nothing interrupts, its passes one after the other.  It removes
the directories of the jobs its first pass selects and of the old entries
without a row; a finished job that lists no media is neither.
-/

namespace InferenceGateway

open Library

namespace Cleanup

variable (config : Config) (now : Millis)

/-! ### The passes -/

/-- Expire the media of one job. -/
def expire (state : CleanupResult × Stores) (id : String) : CleanupResult × Stores :=
  ({ state.1 with expiredArtifacts := state.1.expiredArtifacts + 1 },
    { state.2 with
      store := (state.2.store.setArtifacts id []).clearInput id
      disk := state.2.disk.removeJob id })

/-- `stat` fails or the entry is too young. -/
def tooYoung (disk : Disk) (root : Root) (entry : String) : Bool :=
  match disk.dirs.lookup (root, entry) with
  | none => true
  | some modified => decide (now - modified < config.artifactTtlMs)

/-- Visit one entry of a root. -/
def sweepEntry (root : Root) (state : CleanupResult × Stores) (entry : String) :
    CleanupResult × Stores :=
  if (state.2.store.get entry).isSome then state
  else if tooYoung config now state.2.disk root entry then state
  else ({ state.1 with orphanDirs := state.1.orphanDirs + 1 },
    { state.2 with disk := state.2.disk.removeJob entry })

def sweepRoot (state : CleanupResult × Stores) (root : Root) : CleanupResult × Stores :=
  (readdir state.2.disk root).foldl (sweepEntry config now root) state

/-- The directories are swept after the media was expired. -/
def sweepRoots (state : CleanupResult × Stores) : CleanupResult × Stores :=
  [Root.inputs, Root.artifacts].foldl (sweepRoot config now) state

/-- `cleanup` without an interruption. -/
def cleanup (stores : Stores) : CleanupResult × Stores :=
  let expired := ((stores.store.finishedBefore (now - config.artifactTtlMs)).map Job.id).foldl
    expire (⟨0, 0, 0, 0⟩, stores)
  let swept := sweepRoots config now expired
  purge config now swept.1 swept.2

/-- Running on from one suspension to the next leads to the outcome. -/
inductive Completes : Progress → CleanupResult × Stores → Prop where
  | returned {result : CleanupResult} {stores : Stores} :
      Completes (.inr result, stores) (result, stores)
  | resumed {task : CleanupTask} {stores : Stores} {outcome : CleanupResult × Stores}
      (rest : Completes (task.advance config stores) outcome) :
      Completes (.inl task, stores) outcome

variable {config now}

theorem advance_examining (result : CleanupResult) (root : Root) (entry : String)
    (rest : List String) (later : List Root) (stores : Stores) :
    CleanupTask.advance config ⟨now, result, .examining root entry rest later⟩ stores =
      (.inl ⟨now, result, if tooYoung config now stores.disk root entry then
        .visiting root rest later else .removing root entry rest later⟩, stores) := rfl

theorem completes_visit {result : CleanupResult} {root : Root} {later : List Root}
    {stores : Stores} {entries : List String} {outcome : CleanupResult × Stores}
    (rest : Completes config (nextRoot config now
      (entries.foldl (sweepEntry config now root) (result, stores)).1
      (entries.foldl (sweepEntry config now root) (result, stores)).2 later) outcome) :
    Completes config (visit config now result root later stores entries) outcome := by
  induction entries generalizing result stores with
  | nil => exact rest
  | cons entry entries inductionHypothesis =>
    rw [List.foldl_cons] at rest
    unfold visit
    split
    · next known =>
      rw [sweepEntry, if_pos known] at rest
      exact inductionHypothesis rest
    · next unknown =>
      rw [sweepEntry, if_neg unknown] at rest
      apply Completes.resumed
      rw [advance_examining]
      by_cases young : tooYoung config now stores.disk root entry
      · rw [if_pos young] at rest ⊢
        exact .resumed (inductionHypothesis rest)
      · rw [if_neg young] at rest ⊢
        exact .resumed (.resumed (inductionHypothesis rest))

theorem completes_nextRoot (result : CleanupResult) (stores : Stores) (roots : List Root) :
    Completes config (nextRoot config now result stores roots)
      (purge config now (roots.foldl (sweepRoot config now) (result, stores)).1
        (roots.foldl (sweepRoot config now) (result, stores)).2) := by
  induction roots generalizing result stores with
  | nil => exact .returned
  | cons root later inductionHypothesis =>
    apply Completes.resumed
    apply Completes.resumed
    apply completes_visit
    exact inductionHypothesis _ _

theorem completes_expireNext (result : CleanupResult) (stores : Stores) (ids : List String) :
    Completes config (expireNext config now result stores ids)
      (purge config now (sweepRoots config now (ids.foldl expire (result, stores))).1
        (sweepRoots config now (ids.foldl expire (result, stores))).2) := by
  induction ids generalizing result stores with
  | nil => exact completes_nextRoot result stores [.inputs, .artifacts]
  | cons id rest inductionHypothesis =>
    apply Completes.resumed
    apply Completes.resumed
    exact inductionHypothesis _ _

theorem completes_start (stores : Stores) :
    Completes config (start config now stores) (cleanup config now stores) :=
  completes_expireNext ⟨0, 0, 0, 0⟩ stores _

/-! ### The disk -/

/-- The directories of the ids in `gone` are removed, and nothing else changed. -/
structure Removed (gone : Set String) (before after : Disk) : Prop where
  removed : ∀ root, ∀ id ∈ gone, (root, id) ∉ after.dirs
  emptied : ∀ root, ∀ id ∈ gone, ∀ name, after.read (root, id) name = none
  lookup : ∀ root, ∀ id ∉ gone, after.dirs.lookup (root, id) = before.dirs.lookup (root, id)
  read : ∀ root, ∀ id ∉ gone, ∀ name, after.read (root, id) name = before.read (root, id) name

namespace Removed

variable {first second : Set String} {disk between after : Disk}

theorem refl (disk : Disk) : Removed ∅ disk disk where
  removed _ _ member := member.elim
  emptied _ _ member := member.elim
  lookup _ _ _ := rfl
  read _ _ _ _ := rfl

theorem trans (earlier : Removed first disk between) (later : Removed second between after) :
    Removed (first ∪ second) disk after := by
  constructor
  · intro root id member
    by_cases last : id ∈ second
    · exact later.removed root id last
    · rw [← AList.lookup_eq_none, later.lookup root id last, AList.lookup_eq_none]
      exact earlier.removed root id (member.resolve_right last)
  · intro root id member name
    by_cases last : id ∈ second
    · exact later.emptied root id last name
    · rw [later.read root id last]
      exact earlier.emptied root id (member.resolve_right last) name
  · intro root id outside
    rw [Set.mem_union, not_or] at outside
    rw [later.lookup root id outside.2, earlier.lookup root id outside.1]
  · intro root id outside name
    rw [Set.mem_union, not_or] at outside
    rw [later.read root id outside.2, earlier.read root id outside.1]

theorem congr (gone : Removed first disk after) (same : ∀ id, id ∈ first ↔ id ∈ second) :
    Removed second disk after := Set.ext same ▸ gone

theorem removeJob (disk : Disk) (id : String) : Removed {id} disk (disk.removeJob id) := by
  constructor
  · rintro root _ rfl
    rw [mem_dirs_removeJob]
    cases root <;> simp
  · rintro root _ rfl name
    exact read_removeJob_self disk _ name root
  · intro root other different
    have inputs : (root, other) ≠ (.inputs, id) := fun same => different (congrArg Prod.snd same)
    have artifacts : (root, other) ≠ (.artifacts, id) :=
      fun same => different (congrArg Prod.snd same)
    exact (AList.lookup_erase_ne artifacts).trans (AList.lookup_erase_ne inputs)
  · intro root other different name
    exact read_removeJob disk different root name

end Removed

theorem removed_expire (ids : List String) (state : CleanupResult × Stores) :
    Removed {id | id ∈ ids} state.2.disk (ids.foldl expire state).2.disk := by
  induction ids generalizing state with
  | nil => exact (Removed.refl _).congr (by simp)
  | cons id rest inductionHypothesis =>
    apply ((Removed.removeJob state.2.disk id).trans (inductionHypothesis (expire state id))).congr
    simp

/-- An entry of the root that is old enough and has no row. -/
def Orphan (config : Config) (now : Millis) (root : Root) (stores : Stores) (id : String) : Prop :=
  stores.store.get id = none ∧ ∃ modified, stores.disk.dirs.lookup (root, id) = some modified ∧
    config.artifactTtlMs ≤ now - modified

theorem orphan_iff {root : Root} {stores : Stores} {id : String} :
    Orphan config now root stores id ↔
      (stores.store.get id).isSome = false ∧ tooYoung config now stores.disk root id = false := by
  unfold Orphan tooYoung
  cases stores.disk.dirs.lookup (root, id) <;> simp

theorem sweepEntry_of_orphan {root : Root} {state : CleanupResult × Stores} {entry : String}
    (orphan : Orphan config now root state.2 entry) :
    (sweepEntry config now root state entry).2 =
      { state.2 with disk := state.2.disk.removeJob entry } := by
  obtain ⟨unknown, old⟩ := orphan_iff.mp orphan
  simp [sweepEntry, unknown, old]

theorem sweepEntry_of_not_orphan {root : Root} {state : CleanupResult × Stores} {entry : String}
    (stays : ¬ Orphan config now root state.2 entry) :
    sweepEntry config now root state entry = state := by
  unfold sweepEntry
  split
  · rfl
  · next unknown =>
    rw [if_pos]
    by_contra old
    exact stays (orphan_iff.mpr ⟨by simpa using unknown, by simpa using old⟩)

/-- Removing other directories makes no orphan. -/
theorem orphan_of_removed (config : Config) (now : Millis) {gone : Set String} {root : Root}
    {stores stores' : Stores} (rows : stores'.store = stores.store)
    (removed : Removed gone stores.disk stores'.disk) (id : String) :
    id ∈ gone ∨ Orphan config now root stores' id ↔
      id ∈ gone ∨ Orphan config now root stores id := by
  by_cases member : id ∈ gone
  · simp [member]
  · simp only [member, Orphan, rows, removed.lookup root id member]

theorem removed_sweepEntries {root : Root} (entries : List String)
    (state : CleanupResult × Stores) :
    Removed {id | id ∈ entries ∧ Orphan config now root state.2 id} state.2.disk
        (entries.foldl (sweepEntry config now root) state).2.disk ∧
      (entries.foldl (sweepEntry config now root) state).2.store = state.2.store := by
  induction entries generalizing state with
  | nil => exact ⟨(Removed.refl _).congr (by simp), rfl⟩
  | cons entry rest inductionHypothesis =>
    rw [List.foldl_cons]
    by_cases orphan : Orphan config now root state.2 entry
    · have swept := sweepEntry_of_orphan orphan
      obtain ⟨later, rows⟩ := inductionHypothesis (sweepEntry config now root state entry)
      rw [swept] at later rows
      refine ⟨((Removed.removeJob state.2.disk entry).trans later).congr fun id => ?_, rows⟩
      have kept := @orphan_of_removed config now {entry} root state.2
        { state.2 with disk := state.2.disk.removeJob entry } rfl
        (Removed.removeJob state.2.disk entry) id
      simp only [Set.mem_singleton_iff, Set.mem_union, Set.mem_ofPred_eq, List.mem_cons] at kept ⊢
      by_cases here : id = entry
      · subst here
        simp [orphan]
      · simp only [here, false_or] at kept ⊢
        rw [kept]
    · rw [sweepEntry_of_not_orphan orphan]
      obtain ⟨later, rows⟩ := inductionHypothesis state
      refine ⟨later.congr fun id => ?_, rows⟩
      simp only [Set.mem_ofPred_eq, List.mem_cons]
      by_cases here : id = entry
      · subst here
        simp [orphan]
      · simp [here]

theorem mem_readdir {disk : Disk} {root : Root} {id : String} :
    id ∈ readdir disk root ↔ (root, id) ∈ disk.dirs := by
  simp only [readdir, List.mem_filterMap, AList.mem_keys]
  constructor
  · rintro ⟨⟨root', id'⟩, member, listed⟩
    split at listed
    · next same =>
      cases listed
      cases same
      exact member
    · cases listed
  · intro member
    exact ⟨(root, id), member, if_pos rfl⟩

theorem Orphan.listed {root : Root} {stores : Stores} {id : String}
    (orphan : Orphan config now root stores id) : id ∈ readdir stores.disk root := by
  obtain ⟨-, modified, found, -⟩ := orphan
  exact mem_readdir.mpr (AList.lookup_isSome.mp (Option.isSome_of_eq_some found))

theorem removed_sweepRoot (config : Config) (now : Millis) (root : Root)
    (state : CleanupResult × Stores) :
    Removed {id | Orphan config now root state.2 id} state.2.disk
        (sweepRoot config now state root).2.disk ∧
      (sweepRoot config now state root).2.store = state.2.store := by
  obtain ⟨removed, rows⟩ := removed_sweepEntries (readdir state.2.disk root) state
  exact ⟨removed.congr fun id => and_iff_right_of_imp Orphan.listed, rows⟩

theorem removed_sweepRoots (config : Config) (now : Millis) (state : CleanupResult × Stores) :
    Removed {id | ∃ root, Orphan config now root state.2 id} state.2.disk
        (sweepRoots config now state).2.disk ∧
      (sweepRoots config now state).2.store = state.2.store := by
  obtain ⟨inputs, rows⟩ := removed_sweepRoot config now .inputs state
  obtain ⟨artifacts, rows'⟩ := removed_sweepRoot config now .artifacts
    (sweepRoot config now state .inputs)
  refine ⟨(inputs.trans artifacts).congr fun id => ?_, rows'.trans rows⟩
  have kept := @orphan_of_removed config now _ .artifacts _ _ rows inputs id
  simp only [Set.mem_union, Set.mem_ofPred_eq] at kept ⊢
  rw [kept]
  constructor
  · rintro (orphan | orphan)
    · exact ⟨.inputs, orphan⟩
    · exact ⟨.artifacts, orphan⟩
  · rintro ⟨root, orphan⟩
    cases root with
    | inputs => exact .inl orphan
    | artifacts => exact .inr orphan

/-! ### The rows -/

/-- The first pass selects the job. -/
def expiring (config : Config) (now : Millis) (job : Job) : Bool :=
  job.finishedAt.any (· < now - config.artifactTtlMs) && job.artifacts ≠ []

def withoutMedia (job : Job) : Job := { job with artifacts := [], inputPath := none }

@[simp] theorem withoutMedia_comp : withoutMedia ∘ withoutMedia = withoutMedia := rfl

theorem get_expire (state : CleanupResult × Stores) (id k : String) :
    (expire state id).2.store.get k =
      if k = id then (state.2.store.get k).map withoutMedia else state.2.store.get k := by
  simp only [expire, JobStore.clearInput, JobStore.setArtifacts, JobStore.get_execute]
  by_cases same : k = id
  · simp only [same, if_true, Option.map_map]
    rfl
  · simp only [same, if_false]

theorem get_expired (ids : List String) (state : CleanupResult × Stores) (k : String) :
    (ids.foldl expire state).2.store.get k =
      if k ∈ ids then (state.2.store.get k).map withoutMedia else state.2.store.get k := by
  induction ids generalizing state with
  | nil => simp
  | cons id rest inductionHypothesis =>
    rw [List.foldl_cons, inductionHypothesis, get_expire]
    by_cases last : k ∈ rest <;> by_cases here : k = id <;>
      simp [last, here, Option.map_map]

theorem mem_finishedBefore {stores : Stores} {id : String} :
    id ∈ (stores.store.finishedBefore (now - config.artifactTtlMs)).map Job.id ↔
      (stores.store.get id).any (expiring config now) = true := by
  rw [List.mem_map, Option.any_eq_true]
  constructor
  · rintro ⟨job, member, rfl⟩
    obtain ⟨row, selected⟩ := List.mem_filter.mp member
    exact ⟨job, JobStore.get_of_mem row, selected⟩
  · rintro ⟨job, found, selected⟩
    exact ⟨job, List.mem_filter.mpr ⟨JobStore.mem_of_get found, selected⟩,
      JobStore.id_of_get found⟩

/-- The ids whose directories the cleanup removes. -/
def Doomed (config : Config) (now : Millis) (stores : Stores) (id : String) : Prop :=
  (stores.store.get id).any (expiring config now) = true ∨
    ∃ root, Orphan config now root stores id

section Outcome

variable (config now)

theorem disk_purge (result : CleanupResult) (stores : Stores) :
    (purge config now result stores).2.disk = stores.disk := rfl

theorem store_purge (result : CleanupResult) (stores : Stores) :
    (purge config now result stores).2.store =
      (stores.store.purgeBefore (now - config.jobRetentionMs)).2 := rfl

variable (stores : Stores)

theorem removed_cleanup :
    Removed {id | Doomed config now stores id} stores.disk
      (cleanup config now stores).2.disk := by
  let ids := (stores.store.finishedBefore (now - config.artifactTtlMs)).map Job.id
  have expired := removed_expire ids (⟨0, 0, 0, 0⟩, stores)
  have swept := (removed_sweepRoots config now
    (ids.foldl expire (⟨0, 0, 0, 0⟩, stores))).1
  rw [cleanup, disk_purge]
  refine (expired.trans swept).congr fun id => ?_
  simp only [Set.mem_union, Set.mem_ofPred_eq, Doomed]
  rw [mem_finishedBefore]
  apply or_congr_right'
  intro live
  have outside : id ∉ ids := fun member => live (mem_finishedBefore.mp member)
  have row : (ids.foldl expire (⟨0, 0, 0, 0⟩, stores)).2.store.get id = stores.store.get id := by
    rw [get_expired, if_neg outside]
  simp only [Orphan, row, expired.lookup _ id outside]

theorem get_cleanup (id : String) :
    (cleanup config now stores).2.store.get id =
      ((stores.store.get id).map fun job =>
        if expiring config now job then withoutMedia job else job).filter
          fun job => !job.finishedAt.any (· < now - config.jobRetentionMs) := by
  let ids := (stores.store.finishedBefore (now - config.artifactTtlMs)).map Job.id
  have rows := (removed_sweepRoots config now
    (ids.foldl expire (⟨0, 0, 0, 0⟩, stores))).2
  rw [cleanup, store_purge, JobStore.get_purgeBefore, rows, get_expired]
  congr 1
  cases found : stores.store.get id with
  | none => simp
  | some job =>
    have selected : id ∈ ids ↔ expiring config now job = true := by
      rw [mem_finishedBefore, found, Option.any_some]
    by_cases expires : expiring config now job = true
    · rw [if_pos (selected.mpr expires), Option.map_some, Option.map_some, if_pos expires]
    · rw [if_neg (mt selected.mp expires), Option.map_some, if_neg expires]

end Outcome

end Cleanup

/-! ### Exactness -/

/-- Finished longer than the lifetime of its media ago. -/
def Job.Stale (job : Job) (config : Config) (now : Millis) : Prop :=
  ∃ finishedAt, job.finishedAt = some finishedAt ∧ finishedAt < now - config.artifactTtlMs

/-- What a cleanup promises. -/
structure CleanedExactly (config : Config) (now : Millis) (before after : Stores) : Prop where
  /-- Nothing remains of a job that finished long enough ago. -/
  expired : ∀ job ∈ before.store.jobs.rows, job.state.isTerminal = true → job.Stale config now →
    ∀ root, (root, job.id) ∉ after.disk.dirs
  /-- Nothing remains under an id without a row where one of its directories is old enough. -/
  orphans : ∀ id, before.store.get id = none → ∀ root modified,
    before.disk.dirs.lookup (root, id) = some modified → config.artifactTtlMs < now - modified →
      ∀ root, (root, id) ∉ after.disk.dirs
  /-- The files of every other job stay. -/
  files : ∀ job ∈ before.store.jobs.rows,
    job.state.isTerminal = false ∨
        (∃ finishedAt, job.finishedAt = some finishedAt ∧ now - config.artifactTtlMs ≤ finishedAt) →
      ∀ root name, after.disk.read (root, job.id) name = before.disk.read (root, job.id) name
  /-- So do the paths in its row, as long as it is there. -/
  columns : ∀ job ∈ before.store.jobs.rows,
    job.state.isTerminal = false ∨
        (∃ finishedAt, job.finishedAt = some finishedAt ∧ now - config.artifactTtlMs ≤ finishedAt) →
      ∀ job', after.store.get job.id = some job' →
        job'.artifacts = job.artifacts ∧ job'.inputPath = job.inputPath
  /-- No row is deleted before the retention window has passed. -/
  rows : ∀ job ∈ before.store.jobs.rows,
    (∀ finishedAt, job.finishedAt = some finishedAt → now - config.jobRetentionMs ≤ finishedAt) →
      (after.store.get job.id).isSome = true

/-- Every finished job whose time has come lists media or has nothing on the disk.  A row
that is not finished and carries a finish time nevertheless, which no statement writes, is
about to be deleted and has no files. -/
structure NothingSkipped (config : Config) (now : Millis) (stores : Stores) : Prop where
  finished : ∀ job ∈ stores.store.jobs.rows, job.state.isTerminal = true → job.Stale config now →
    job.artifacts = [] → ∀ root, (root, job.id) ∉ stores.disk.dirs
  unfinished : ∀ job ∈ stores.store.jobs.rows, job.state.isTerminal = false →
    job.Stale config now → job.artifacts ≠ [] →
      (∃ finishedAt, job.finishedAt = some finishedAt ∧ finishedAt < now - config.jobRetentionMs) ∧
        ∀ root name, stores.disk.read (root, job.id) name = none

namespace Cleanup

variable {config : Config} {now : Millis} {stores : Stores} {job : Job}

theorem expiring_iff :
    expiring config now job = true ↔ job.Stale config now ∧ job.artifacts ≠ [] := by
  simp only [expiring, Job.Stale, Bool.and_eq_true, Option.any_eq_true, decide_eq_true_eq]

/-- The row of a job dooms its directories exactly when the first pass selects it. -/
theorem doomed_iff (member : job ∈ stores.store.jobs.rows) :
    Doomed config now stores job.id ↔ job.Stale config now ∧ job.artifacts ≠ [] := by
  have found := JobStore.get_of_mem member
  rw [← expiring_iff, Doomed, found, Option.any_some]
  apply or_iff_left
  rintro ⟨root, missing, -⟩
  rw [found] at missing
  cases missing

theorem not_stale_of_recent
    (recent : ∃ finishedAt, job.finishedAt = some finishedAt ∧
      now - config.artifactTtlMs ≤ finishedAt) : ¬ job.Stale config now := by
  rintro ⟨finishedAt, finished, early⟩
  obtain ⟨finishedAt', finished', late⟩ := recent
  obtain rfl := Option.some.inj (finished.symm.trans finished')
  exact absurd late (not_le.mpr early)

/-- A cleanup does to the row of a job what its two statements say. -/
theorem get_cleanup_of_mem (config : Config) (now : Millis)
    (member : job ∈ stores.store.jobs.rows) :
    (cleanup config now stores).2.store.get job.id =
      if job.finishedAt.any (· < now - config.jobRetentionMs) then none
      else some (if expiring config now job then withoutMedia job else job) := by
  rw [get_cleanup, JobStore.get_of_mem member, Option.map_some]
  have same : (if expiring config now job then withoutMedia job else job).finishedAt =
      job.finishedAt := by
    split <;> rfl
  cases old : job.finishedAt.any (· < now - config.jobRetentionMs) <;>
    simp [Option.filter, same, old]

theorem purged_iff : job.finishedAt.any (· < now - config.jobRetentionMs) = true ↔
    ∃ finishedAt, job.finishedAt = some finishedAt ∧ finishedAt < now - config.jobRetentionMs := by
  simp only [Option.any_eq_true, decide_eq_true_eq]

theorem nothingSkipped_of_exact
    (cleaned : CleanedExactly config now stores (cleanup config now stores).2) :
    NothingSkipped config now stores := by
  have removed := removed_cleanup config now stores
  constructor
  · intro job member finished stale bare root
    have live : job.id ∉ {id | Doomed config now stores id} :=
      fun doomed => ((doomed_iff member).mp doomed).2 bare
    rw [← AList.lookup_eq_none, ← removed.lookup root job.id live, AList.lookup_eq_none]
    exact cleaned.expired job member finished stale root
  · intro job member unfinished stale media
    have doomed : Doomed config now stores job.id := (doomed_iff member).mpr ⟨stale, media⟩
    constructor
    · rw [← purged_iff]
      by_contra young
      have row := get_cleanup_of_mem config now member
      rw [if_neg young, if_pos (expiring_iff.mpr ⟨stale, media⟩)] at row
      exact media (cleaned.columns job member (.inl unfinished) _ row).1.symm
    · intro root name
      rw [← cleaned.files job member (.inl unfinished) root name]
      exact removed.emptied root job.id doomed name

theorem exact_of_nothingSkipped (covered : NothingSkipped config now stores) :
    CleanedExactly config now stores (cleanup config now stores).2 := by
  have removed := removed_cleanup config now stores
  constructor
  · intro job member finished stale root
    by_cases bare : job.artifacts = []
    · have live : job.id ∉ {id | Doomed config now stores id} :=
        fun doomed => ((doomed_iff member).mp doomed).2 bare
      rw [← AList.lookup_eq_none, removed.lookup root job.id live, AList.lookup_eq_none]
      exact covered.finished job member finished stale bare root
    · exact removed.removed root job.id ((doomed_iff member).mpr ⟨stale, bare⟩)
  · intro id unknown root modified found old root'
    exact removed.removed root' id (.inr ⟨root, unknown, modified, found, old.le⟩)
  · intro job member spared root name
    by_cases doomed : Doomed config now stores job.id
    · obtain ⟨stale, media⟩ := (doomed_iff member).mp doomed
      have unfinished := spared.resolve_right fun recent => not_stale_of_recent recent stale
      rw [removed.emptied root job.id doomed name,
        (covered.unfinished job member unfinished stale media).2 root name]
    · exact removed.read root job.id doomed name
  · intro job member spared job' row
    rw [get_cleanup_of_mem config now member] at row
    split at row
    · cases row
    · next young =>
      split at row
      · next expires =>
        obtain ⟨stale, media⟩ := expiring_iff.mp expires
        have unfinished := spared.resolve_right fun recent => not_stale_of_recent recent stale
        exact absurd (purged_iff.mpr (covered.unfinished job member unfinished stale media).1) young
      · cases row
        exact ⟨rfl, rfl⟩
  · intro job member recent
    rw [get_cleanup_of_mem config now member, if_neg]
    · rfl
    · rw [purged_iff]
      rintro ⟨finishedAt, finished, early⟩
      exact absurd (recent finishedAt finished) (not_le.mpr early)

end Cleanup

/-- A cleanup that nothing interrupts returns, and it is exact on exactly the stores where its
first pass skips nothing. -/
theorem cleanup_exact (config : Config) (now : Millis) (stores : Stores) :
    Cleanup.Completes config (Cleanup.start config now stores)
        (Cleanup.cleanup config now stores) ∧
      (CleanedExactly config now stores (Cleanup.cleanup config now stores).2 ↔
        NothingSkipped config now stores) :=
  ⟨Cleanup.completes_start stores, Cleanup.nothingSkipped_of_exact,
    Cleanup.exact_of_nothingSkipped⟩

/-- A deleted job whose input was left behind keeps it when the day has passed. -/
theorem not_cleanup_exact :
    ¬ ∀ stores now, CleanedExactly .default now stores
      (Cleanup.cleanup .default now stores).2 := by
  intro always
  have left : sampleDeletion.final.store.jobs.rows.any (fun job =>
      job.id == "v" && job.state.isTerminal && job.finishedAt == some 0 &&
        job.artifacts == []) = true := by decide +kernel
  obtain ⟨job, member, facts⟩ := List.any_eq_true.mp left
  simp only [Bool.and_eq_true, beq_iff_eq] at facts
  obtain ⟨⟨⟨named, finished⟩, ended⟩, bare⟩ := facts
  have covered := Cleanup.nothingSkipped_of_exact
    (always sampleDeletion.final.toStores 86400001)
  have stale : job.Stale .default 86400001 := ⟨0, ended, by decide⟩
  have gone := covered.finished job member finished stale bare .inputs
  rw [named] at gone
  exact gone (by decide +kernel)

end InferenceGateway
