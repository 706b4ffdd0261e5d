import Mathlib.Data.List.AList
import Mathlib.Data.String.Basic
import InferenceGateway.Routes.Videos

/-!
# What the fleet can run right now

A model is advertised while a connected pod serves it.
-/

namespace InferenceGateway

structure ModelListing where
  id : String
  task : String
  resolutions : List Resolution
  defaults : ModelDefaults
  limits : ModelLimits
  podsReady : Nat

/-- Model id to the number of pods that can take work for it right now. -/
abbrev ReadyPods := AList fun _ : String => Nat

/-- Count a connected pod for the model it serves, usable or not. -/
def countReady (ready : ReadyPods) (pod : Pod) : ReadyPods :=
  match pod.model with
  | none => ready
  | some model =>
    let usable := pod.sglangReady && !pod.draining
    ready.insert model ((ready.lookup model).getD 0 + if usable then 1 else 0)

namespace Gateway

variable (config : Config) (state : Gateway)

/-- `listConnected` as of now. -/
def connectedPods : List Pod := state.pods.listConnected (state.now - config.podStaleMs)

/-- `GET /v1/models`. -/
def listModels : List ModelListing :=
  let ready := (state.connectedPods config).foldl countReady ∅
  (ready.keys.insertionSort (· ≤ ·)).filterMap fun id =>
    (getModel (some id)).map fun spec => {
      id := id
      task := spec.task
      resolutions := spec.resolutions
      defaults := spec.defaults
      limits := spec.limits
      podsReady := (ready.lookup id).getD 0 }

end Gateway

/-! ### What is advertised -/

/-- Pods that serve the model and can take work right now. -/
def usableFor (id : String) (pods : List Pod) : Nat :=
  pods.countP fun pod => pod.model = some id && (pod.sglangReady && !pod.draining)

theorem usableFor_cons (id : String) (pod : Pod) (pods : List Pod) :
    usableFor id (pod :: pods) =
      (if pod.model = some id && (pod.sglangReady && !pod.draining) then 1 else 0) +
        usableFor id pods := by
  rw [usableFor, List.countP_cons, Nat.add_comm]
  rfl

theorem count_countReady (ready : ReadyPods) (pod : Pod) (id : String) :
    ((countReady ready pod).lookup id).getD 0 = (ready.lookup id).getD 0 +
      if pod.model = some id && (pod.sglangReady && !pod.draining) then 1 else 0 := by
  unfold countReady
  cases serves : pod.model with
  | none => rfl
  | some model =>
    by_cases same : id = model
    · subst same
      simp
    · simp [same, Ne.symm same, AList.lookup_insert_ne]

theorem mem_countReady (ready : ReadyPods) (pod : Pod) (id : String) :
    id ∈ countReady ready pod ↔ pod.model = some id ∨ id ∈ ready := by
  unfold countReady
  cases serves : pod.model with
  | none => simp
  | some model => simp [AList.mem_insert, @eq_comm _ id]

theorem count_of_pods (pods : List Pod) (ready : ReadyPods) (id : String) :
    ((pods.foldl countReady ready).lookup id).getD 0 =
      (ready.lookup id).getD 0 + usableFor id pods := by
  induction pods generalizing ready with
  | nil => rfl
  | cons pod pods inductionHypothesis =>
    rw [List.foldl_cons, inductionHypothesis, count_countReady, usableFor_cons, Nat.add_assoc]

theorem mem_of_pods (pods : List Pod) (ready : ReadyPods) (id : String) :
    id ∈ pods.foldl countReady ready ↔ (∃ pod ∈ pods, pod.model = some id) ∨ id ∈ ready := by
  induction pods generalizing ready with
  | nil => simp
  | cons pod pods inductionHypothesis =>
    rw [List.foldl_cons, inductionHypothesis, mem_countReady]
    simp [or_assoc, or_left_comm]

/-- The list of models shows what the connected pods serve. -/
structure Advertises (pods : List Pod) (models : List ModelListing) : Prop where
  served : ∀ id, id ∈ models.map ModelListing.id ↔ ∃ pod ∈ pods, pod.model = some id
  sorted : (models.map ModelListing.id).Pairwise (· < ·)
  registered : ∀ listing ∈ models, ∃ spec, getModel (some listing.id) = some spec ∧
    (listing.task, listing.resolutions, listing.defaults, listing.limits) =
      (spec.task, spec.resolutions, spec.defaults, spec.limits)
  ready : ∀ listing ∈ models, listing.podsReady = usableFor listing.id pods

theorem advertises_listModels (config : Config) (state : Gateway) :
    Advertises (state.connectedPods config) (state.listModels config) := by
  set pods := state.connectedPods config with connected
  set ready := pods.foldl countReady ∅ with counted
  have served (id : String) : id ∈ ready.keys ↔ ∃ pod ∈ pods, pod.model = some id := by
    rw [← AList.mem_keys, counted, mem_of_pods]
    simp
  have known {id : String} (member : id ∈ ready.keys) : ∃ spec, getModel (some id) = some spec := by
    obtain ⟨pod, -, serves⟩ := (served id).mp member
    exact Option.isSome_iff_exists.mp (getModel_isSome_of_mem (resolveModelId_mem serves))
  have listed (listing : ModelListing) (member : listing ∈ state.listModels config) :
      ∃ id ∈ ready.keys, ∃ spec, getModel (some id) = some spec ∧ listing = {
        id := id
        task := spec.task
        resolutions := spec.resolutions
        defaults := spec.defaults
        limits := spec.limits
        podsReady := (ready.lookup id).getD 0 } := by
    obtain ⟨id, inside, found⟩ := List.mem_filterMap.mp member
    obtain ⟨spec, known, rfl⟩ := Option.map_eq_some_iff.mp found
    exact ⟨id, (List.mem_insertionSort _).mp inside, spec, known, rfl⟩
  have ids : (state.listModels config).map ModelListing.id = ready.keys.insertionSort (· ≤ ·) := by
    rw [Gateway.listModels, List.map_filterMap]
    refine (List.filterMap_congr fun id member => ?_).trans List.filterMap_some
    obtain ⟨spec, found⟩ := known ((List.mem_insertionSort _).mp member)
    rw [found]
    rfl
  constructor
  case served =>
    intro id
    rw [ids, List.mem_insertionSort, served]
  case sorted =>
    rw [ids]
    have ordered := List.pairwise_insertionSort (· ≤ ·) ready.keys
    have distinct : (ready.keys.insertionSort (· ≤ ·)).Nodup :=
      (List.perm_insertionSort _ _).nodup_iff.mpr ready.keys_nodup
    exact (ordered.and distinct).imp fun both => lt_of_le_of_ne both.1 both.2
  case registered =>
    intro listing member
    obtain ⟨id, -, spec, found, rfl⟩ := listed listing member
    exact ⟨spec, found, rfl⟩
  case ready =>
    intro listing member
    obtain ⟨id, -, spec, -, rfl⟩ := listed listing member
    rw [counted, count_of_pods]
    simp

end InferenceGateway
