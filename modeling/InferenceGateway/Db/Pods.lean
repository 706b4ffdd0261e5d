import InferenceGateway.Library.Table
import InferenceGateway.Domain.Models
import Mathlib.Data.List.Sort

/-!
# The pod registry

Rows of `pods`.  Liveness is derived from `lastSeenAt`, which every poll of an
agent updates.
-/

namespace InferenceGateway

open Library

abbrev PodStore := Table Pod.podId

/-- What a poll says about its pod. -/
structure PodHeartbeat where
  podId : String
  sessionId : String
  agentVersion : Option String
  modelPath : Option String
  loraPath : Option String
  gpu : Option String
  maxInFlight : Nat
  sglangReady : Bool

/-- `outcome` of `recordOutcome`. -/
inductive Outcome where
  | completed
  | failed

namespace PodHeartbeat

/-- The row a first poll inserts. -/
def row (heartbeat : PodHeartbeat) (now : Millis) : Pod where
  podId := heartbeat.podId
  sessionId := heartbeat.sessionId
  firstSeenAt := now
  lastSeenAt := now
  agentVersion := heartbeat.agentVersion
  modelPath := heartbeat.modelPath
  loraPath := heartbeat.loraPath
  gpu := heartbeat.gpu
  maxInFlight := heartbeat.maxInFlight
  sglangReady := heartbeat.sglangReady
  draining := false
  jobsCompleted := 0
  jobsFailed := 0

/-- `ON CONFLICT(pod_id) DO UPDATE SET`: the session, the first sighting, the
drain flag and the counters survive. -/
def refresh (heartbeat : PodHeartbeat) (now : Millis) (pod : Pod) : Pod :=
  { pod with
    lastSeenAt := now
    agentVersion := heartbeat.agentVersion
    modelPath := heartbeat.modelPath
    loraPath := heartbeat.loraPath
    gpu := heartbeat.gpu
    maxInFlight := heartbeat.maxInFlight
    sglangReady := heartbeat.sglangReady }

@[simp] theorem refresh_podId (heartbeat : PodHeartbeat) (now : Millis) (pod : Pod) :
    (heartbeat.refresh now pod).podId = pod.podId := rfl

end PodHeartbeat

/-- Set the drain flag of a row. -/
def Pod.withDraining (draining : Bool) (pod : Pod) : Pod := { pod with draining := draining }

@[simp] theorem Pod.withDraining_podId (draining : Bool) (pod : Pod) :
    (pod.withDraining draining).podId = pod.podId := rfl

/-- Count one more outcome on a row. -/
def Pod.recorded (outcome : Outcome) (pod : Pod) : Pod :=
  match outcome with
  | .completed => { pod with jobsCompleted := pod.jobsCompleted + 1 }
  | .failed => { pod with jobsFailed := pod.jobsFailed + 1 }

@[simp] theorem Pod.recorded_podId (outcome : Outcome) (pod : Pod) :
    (pod.recorded outcome).podId = pod.podId := by
  cases outcome <;> rfl

namespace PodStore

def get (pods : PodStore) (podId : String) : Option Pod := pods.get? podId

/-- Upsert on every poll; the pod as it stands afterwards. -/
def touch (pods : PodStore) (heartbeat : PodHeartbeat) (now : Millis) : Pod × PodStore :=
  match pods.insert? (heartbeat.row now) with
  | some inserted => (heartbeat.row now, inserted)
  | none =>
    let updated := pods.update (fun pod => pod.podId = heartbeat.podId)
      (heartbeat.refresh now) (heartbeat.refresh_podId now)
    ((get updated heartbeat.podId).getD (heartbeat.row now), updated)

/-- `ORDER BY last_seen_at DESC`. -/
def list (pods : PodStore) : List Pod :=
  pods.rows.insertionSort fun first second => second.lastSeenAt ≤ first.lastSeenAt

/-- Pods that polled recently enough to still count as capacity. -/
def listConnected (pods : PodStore) (since : Millis) : List Pod :=
  pods.rows.filter fun pod => since ≤ pod.lastSeenAt

def setDraining (pods : PodStore) (podId : String) (draining : Bool) : Bool × PodStore :=
  let named := fun pod : Pod => decide (pod.podId = podId)
  (pods.changes named = 1, pods.update named (Pod.withDraining draining)
    (Pod.withDraining_podId draining))

def recordOutcome (pods : PodStore) (podId : Option String) (outcome : Outcome) : PodStore :=
  match podId.filter (· ≠ "") with
  | none => pods
  | some podId =>
    pods.update (fun pod => pod.podId = podId) (Pod.recorded outcome) (Pod.recorded_podId outcome)

/-- Forget pods that haven't polled in a long time. -/
def purgeBefore (pods : PodStore) (before : Millis) : Nat × PodStore :=
  let stale := fun pod : Pod => decide (pod.lastSeenAt < before)
  (pods.changes stale, pods.delete stale)

/-- The pod `touch` returns is the row it leaves, with what the heartbeat said. -/
theorem touch_spec (pods : PodStore) (heartbeat : PodHeartbeat) (now : Millis) :
    (pods.touch heartbeat now).2.get heartbeat.podId = some (pods.touch heartbeat now).1 ∧
      (pods.touch heartbeat now).1.podId = heartbeat.podId ∧
      (pods.touch heartbeat now).1.modelPath = heartbeat.modelPath ∧
      (pods.touch heartbeat now).1.maxInFlight = heartbeat.maxInFlight ∧
      (pods.touch heartbeat now).1.sglangReady = heartbeat.sglangReady := by
  unfold touch
  split
  · next inserted insertion =>
    refine ⟨?_, rfl, rfl, rfl, rfl⟩
    rw [get, Table.get?_insert? insertion]
    simp [PodHeartbeat.row]
  · next conflict =>
    have present := Table.insert?_eq_none_iff.mp conflict
    obtain ⟨pod, member, same⟩ := List.mem_map.mp present
    have hid : pod.podId = heartbeat.podId := same
    have found : pods.get? heartbeat.podId = some pod :=
      Table.get?_eq_some_iff.mpr ⟨member, hid⟩
    have refreshed : get (pods.update (fun pod => pod.podId = heartbeat.podId)
        (heartbeat.refresh now) (heartbeat.refresh_podId now)) heartbeat.podId =
          some (heartbeat.refresh now pod) := by
      rw [get, Table.get?_update, found]
      simp [hid]
    simp only [refreshed, Option.getD_some]
    exact ⟨trivial, hid, rfl, rfl, rfl⟩

/-- The drain flag is that of the row before, and unset on a first poll. -/
theorem draining_touch (pods : PodStore) (heartbeat : PodHeartbeat) (now : Millis) :
    (pods.touch heartbeat now).1.draining = (pods.get heartbeat.podId).any Pod.draining := by
  unfold touch
  split
  · next inserted insertion =>
    have absent : pods.get heartbeat.podId = none := by
      apply Table.get?_eq_none_iff.mpr
      intro taken
      have conflict : pods.insert? (heartbeat.row now) = none :=
        Table.insert?_eq_none_iff.mpr taken
      rw [conflict] at insertion
      cases insertion
    simp [absent, PodHeartbeat.row]
  · next conflict =>
    obtain ⟨pod, member, same⟩ := List.mem_map.mp (Table.insert?_eq_none_iff.mp conflict)
    have named : pod.podId = heartbeat.podId := same
    have found : pods.get? heartbeat.podId = some pod :=
      Table.get?_eq_some_iff.mpr ⟨member, named⟩
    simp [get, Table.get?_update, found, named, PodHeartbeat.refresh]

end PodStore

end InferenceGateway
