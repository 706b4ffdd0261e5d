import InferenceGateway.Context

/-!
# Operator view of the fleet
-/

namespace InferenceGateway

def noSuchPod (id : String) : ApiError :=
  apiError 404 ("no such pod " ++ id) (some "pod_not_found") (some "id")

/-- `draining` in the body of a drain request. -/
inductive DrainField where
  /-- There is no body, or it is undefined or null there. -/
  | absent
  | flag (draining : Bool)
  /-- What `String` makes of any other value. -/
  | other (text : String)

/-- A bare request drains, and so does every word that does not mean no. -/
def wantsDraining : DrainField → Bool
  | .absent => true
  | .flag draining => draining
  | .other text =>
    let text := (trim text).toLower
    !(text = "false" || text = "0" || text = "no" || text = "")

/-- A row of the registry as an operator sees it. -/
structure PodListing where
  pod : Pod
  model : Option String
  connected : Bool
  lastSeenAgoS : Int
  inFlight : Nat

namespace Gateway

/-- The row of a pod, with what is derived from it. -/
def podListing (config : Config) (state : Gateway) (pod : Pod) : PodListing where
  pod := pod
  model := pod.model
  connected := decide (state.now - pod.lastSeenAt ≤ config.podStaleMs)
  lastSeenAgoS := mathRound (((state.now - pod.lastSeenAt : Int) : ℚ) / 1000)
  inFlight := (state.store.listByPod pod.podId).length

/-- `GET /v1/pods`. -/
def listPods (config : Config) (state : Gateway) : List PodListing :=
  (PodStore.list state.pods).map (podListing config state)

/-- Stop giving a pod new work, or resume. -/
def setDrain (state : Gateway) (podId : String) (draining : Bool) : Reply × Gateway :=
  let (changed, pods) := PodStore.setDraining state.pods podId draining
  if !changed then (.error 404 (noSuchPod podId) .none, { state with pods := pods })
  else (.drain podId draining, { state with pods := pods })

end Gateway

end InferenceGateway
