import InferenceGateway.Artifacts.Store
import InferenceGateway.Db.Pods

/-!
# Disk lifecycle

`cleanup` suspends at every file operation; `CleanupTask.advance` runs it from
one suspension to the next.
-/

namespace InferenceGateway

open Library

structure CleanupResult where
  expiredArtifacts : Nat
  purgedJobs : Nat
  orphanDirs : Nat
  purgedPods : Nat
  deriving DecidableEq

/-- Where a cleanup is suspended; `rest` are the ids or entries it still has to
visit and `later` the roots it has not listed yet. -/
inductive CleanupStage where
  /-- Before the directories of an expired job are removed. -/
  | expiring (id : String) (rest : List String)
  /-- They are removed; its row has not been updated yet. -/
  | expired (id : String) (rest : List String)
  /-- Before a root is listed. -/
  | listing (root : Root) (later : List Root)
  /-- Before the rows of the remaining entries are looked up. -/
  | visiting (root : Root) (rest : List String) (later : List Root)
  /-- Before `stat` of an entry without a row. -/
  | examining (root : Root) (entry : String) (rest : List String) (later : List Root)
  /-- Before the directories of such an entry are removed. -/
  | removing (root : Root) (entry : String) (rest : List String) (later : List Root)
  deriving DecidableEq

/-- A running cleanup; `now` is the time it started at. -/
structure CleanupTask where
  now : Millis
  result : CleanupResult
  stage : CleanupStage

/-- The stores a cleanup updates. -/
structure Stores where
  store : JobStore
  pods : PodStore
  disk : Disk

namespace Cleanup

variable (config : Config)

/-- The last two statements, after both roots were visited. -/
def purge (now : Millis) (result : CleanupResult) (stores : Stores) : CleanupResult × Stores :=
  let (purgedJobs, store) := stores.store.purgeBefore (now - config.jobRetentionMs)
  let (purgedPods, pods) := PodStore.purgeBefore stores.pods (now - config.jobRetentionMs)
  ({ result with purgedJobs := purgedJobs, purgedPods := purgedPods },
    { stores with store := store, pods := pods })

/-- A cleanup that runs on, or its result. -/
abbrev Progress := (CleanupTask ⊕ CleanupResult) × Stores

/-- List the next root, or finish. -/
def nextRoot (now : Millis) (result : CleanupResult) (stores : Stores) : List Root → Progress
  | root :: later => (.inl ⟨now, result, .listing root later⟩, stores)
  | [] =>
    let (result, stores) := purge config now result stores
    (.inr result, stores)

/-- Visit entries up to the first one without a row. -/
def visit (now : Millis) (result : CleanupResult) (root : Root) (later : List Root)
    (stores : Stores) : List String → Progress
  | [] => nextRoot config now result stores later
  | entry :: rest =>
    if (stores.store.get entry).isSome then visit now result root later stores rest
    else (.inl ⟨now, result, .examining root entry rest later⟩, stores)

/-- Expire the next job, or go on to the directories. -/
def expireNext (now : Millis) (result : CleanupResult) (stores : Stores) :
    List String → Progress
  | id :: rest => (.inl ⟨now, result, .expiring id rest⟩, stores)
  | [] => nextRoot config now result stores [.inputs, .artifacts]

/-- Media expires for jobs that finished long enough ago. -/
def start (now : Millis) (stores : Stores) : Progress :=
  expireNext config now ⟨0, 0, 0, 0⟩ stores
    ((stores.store.finishedBefore (now - config.artifactTtlMs)).map Job.id)

/-- The entries of a root. -/
def readdir (disk : Disk) (root : Root) : List String :=
  disk.dirs.keys.filterMap fun d => if d.1 = root then some d.2 else none

end Cleanup

open Cleanup in
/-- Run the cleanup up to its next suspension. -/
def CleanupTask.advance (config : Config) (task : CleanupTask) (stores : Stores) : Progress :=
  match task.stage with
  | .expiring id rest =>
    (.inl { task with stage := .expired id rest },
      { stores with disk := stores.disk.removeJob id })
  | .expired id rest =>
    let store := (stores.store.setArtifacts id []).clearInput id
    expireNext config task.now
      { task.result with expiredArtifacts := task.result.expiredArtifacts + 1 }
      { stores with store := store } rest
  | .listing root later =>
    (.inl { task with stage := .visiting root (readdir stores.disk root) later }, stores)
  | .visiting root rest later => visit config task.now task.result root later stores rest
  | .examining root entry rest later =>
    let young := match stores.disk.dirs.lookup (root, entry) with
      | none => true
      | some modified => decide (task.now - modified < config.artifactTtlMs)
    (.inl { task with
      stage := if young then .visiting root rest later else .removing root entry rest later },
      stores)
  | .removing root entry rest later =>
    (.inl { task with
      result := { task.result with orphanDirs := task.result.orphanDirs + 1 }
      stage := .visiting root rest later },
      { stores with disk := stores.disk.removeJob entry })

end InferenceGateway
