import InferenceGateway.Context
import InferenceGateway.Library.Binary64

/-!
# The pod-agent control plane

`poll`, the artifact upload and the terminal result.  Pods dial out to these
routes, which are fenced by lease ids.
-/

namespace InferenceGateway

open Library

/-! ### Poll -/

/-- An entry of `in_flight` that is not null. -/
structure InFlightReport where
  jobId : Value
  leaseId : Value
  progress : Value
  upstreamId : Value
  deriving DecidableEq

structure PollBody where
  podId : Value
  agentVersion : Value
  maxInFlight : Value
  modelPath : Value
  loraPath : Value
  gpu : Value
  sglangReady : Value
  /-- None when `in_flight` is not an array; an entry is none when it is null. -/
  inFlight : Option (List (Option InFlightReport))
  waitS : Value

/-- `Math.max(1, Math.floor(n))` of a number, and 1 of anything else. -/
def declaredConcurrency : Value → Nat
  | .number n => (max 1 ⌊n⌋).toNat
  | _ => 1

def PollBody.heartbeat (body : PollBody) (podId sessionId : String) : PodHeartbeat where
  podId := podId
  sessionId := sessionId
  agentVersion := body.agentVersion.str
  modelPath := body.modelPath.str
  loraPath := body.loraPath.str
  gpu := body.gpu.str
  maxInFlight := declaredConcurrency body.maxInFlight
  sglangReady := body.sglangReady = .boolean true

/-- How long the poll may park.  A product beyond the range of doubles is cut off all the same. -/
def PollBody.waitMs (config : Config) (body : PollBody) : ℚ :=
  let requested : ℚ := match body.waitS with
    | .number seconds => Binary64.nearest (seconds * 1000)
    | _ => config.maxPollWaitMs
  min (max requested 0) config.maxPollWaitMs

/-- A progress report counts when it is a number from 0 to 1. -/
def reportedProgress : Value → Option ℚ
  | .number p => if 0 ≤ p ∧ p ≤ 1 then some p else none
  | _ => none

/-- What the renewal loop collects; `owned` is `stillOwned`. -/
structure Renewing where
  store : JobStore
  orphan : List String
  cancel : List String
  owned : List String

def renewOne (config : Config) (now : Millis) (state : Renewing) (item : InFlightReport) :
    Renewing :=
  match item.jobId.str, item.leaseId.str with
  | some jobId, some leaseId =>
    let (renewed, store) := state.store.renewLease jobId leaseId (now + config.leaseTtlMs)
      (reportedProgress item.progress) item.upstreamId.str
    if !renewed then { state with store := store, orphan := state.orphan ++ [jobId] }
    else
      { state with
        store := store
        owned := if jobId ∈ state.owned then state.owned else state.owned ++ [jobId]
        cancel :=
          if (store.get jobId).any (·.cancelRequested) then state.cancel ++ [jobId]
          else state.cancel }
  | _, _ => state

/-- Renew every reported lease; true when a null entry threw. -/
def renewAll (config : Config) (now : Millis) :
    List (Option InFlightReport) → Renewing → Renewing × Bool
  | [], state => (state, false)
  | none :: _, state => (state, true)
  | some item :: rest, state => renewAll config now rest (renewOne config now state item)

def pollResponse (config : Config) (pod : Pod) (assign : List Assignment)
    (cancel orphan : List String) : PollResponse where
  sessionId := pod.sessionId
  leaseTtlS := mathRound (config.leaseTtlMs / 1000)
  pollWaitS := mathRound (config.maxPollWaitMs / 1000)
  assign := assign
  cancel := cancel.eraseDups
  orphan := orphan
  drain := pod.draining

def podIdRequired : ApiError :=
  apiError 400 "pod_id is required" (some "missing_parameter") (some "pod_id")

/-- A poll once its pod is registered and its leases are renewed. -/
structure Renewed where
  pod : Pod
  renewing : Renewing
  /-- A null entry of `in_flight` threw. -/
  thrown : Bool
  state : Gateway

namespace Gateway

variable (platform : Platform) (config : Config)

/-- The first half of a poll. -/
def renewed (state : Gateway) (body : PollBody) (podId sessionId : String) : Renewed :=
  let (pod, pods) := PodStore.touch state.pods (body.heartbeat podId sessionId) state.now
  let (renewing, thrown) :=
    renewAll config state.now (body.inFlight.getD []) ⟨state.store, [], [], []⟩
  ⟨pod, renewing, thrown, { state with pods := pods, store := renewing.store }⟩

/-- `claimForPod` on the gateway's own store. -/
def claimFor (state : Gateway) (pod : Pod) (slots : Nat) : Claiming :=
  claimForPod platform pod slots config.leaseTtlMs state.now state.store state.leases

/-- The gateway after a claim. -/
def claimed (state : Gateway) (pod : Pod) (slots : Nat) : Gateway :=
  let claiming := state.claimFor platform config pod slots
  { state with store := claiming.store, leases := claiming.leases }

end Gateway

namespace Renewed

variable (config : Config) (turn : Renewed)

def slots : Nat := freeSlots turn.pod turn.renewing.owned.length

/-- The jobs a client cancelled: those reported, and those the pod lost track of. -/
def cancel : List String :=
  turn.renewing.cancel ++ ((turn.state.store.listByPod turn.pod.podId).filter fun job =>
    job.id ∉ turn.renewing.owned && job.cancelRequested).map Job.id

/-- The poll found nothing to do and may wait for work. -/
def parks (body : PollBody) (assign : List Assignment) : Bool :=
  assign.isEmpty && turn.slots > 0 && !turn.pod.draining && body.waitMs config > 0 &&
    !turn.state.aborted

def parked : ParkedPoll where
  token := turn.state.tokens
  pod := turn.pod
  slots := turn.slots
  cancel := turn.cancel
  orphan := turn.renewing.orphan

end Renewed

namespace Gateway

variable (platform : Platform) (config : Config)

/-- Register a poll with the waiters. -/
def park (state : Gateway) (poll : ParkedPoll) : Gateway :=
  { state with waiters := state.waiters.wait poll, tokens := state.tokens + 1 }

/-- `POST /v1/agent/poll`, until it parks or answers. -/
def poll (state : Gateway) (body : PollBody) (sessionId : String) : Reply × Gateway :=
  match body.podId.str with
  | none => (.error 400 podIdRequired .none, state)
  | some podId =>
    let turn := state.renewed config body podId sessionId
    if turn.thrown then (.error 500 internalError .none, turn.state)
    else
      let claiming := turn.state.claimFor platform config turn.pod turn.slots
      let state := turn.state.claimed platform config turn.pod turn.slots
      if claiming.thrown.isSome then (.error 500 internalError .none, state)
      else if turn.parks config body claiming.assignments then
        (.pending turn.parked.token, state.park turn.parked)
      else
        (.poll (pollResponse config turn.pod claiming.assignments turn.cancel
          turn.renewing.orphan), state)

/-- Take a settled poll out of the waiters. -/
def unpark (state : Gateway) (token : Nat) : Gateway :=
  { state with waiters := { state.waiters with
    settled := state.waiters.settled.filter fun entry => entry.1.token ≠ token } }

/-- The rest of a parked poll, once its wait has settled. -/
def resumePoll (state : Gateway) (token : Nat) : Option (Reply × Gateway) :=
  match state.waiters.settled.find? fun entry => entry.1.token = token with
  | none => none
  | some (parked, woken) =>
    let state := state.unpark token
    if woken then
      let claiming := state.claimFor platform config parked.pod parked.slots
      let state := state.claimed platform config parked.pod parked.slots
      if claiming.thrown.isSome then some (.error 500 internalError .none, state)
      else some (.poll (pollResponse config parked.pod claiming.assignments parked.cancel
        parked.orphan), state)
    else some (.poll (pollResponse config parked.pod [] parked.cancel parked.orphan), state)

end Gateway

/-! ### What a poll comes to -/

section PollSpec

variable (platform : Platform) (config : Config) (state : Gateway)

theorem claimFor_eq (pod : Pod) (slots : Nat) :
    state.claimFor platform config pod slots =
      { store := dispatchAll platform pod (state.now + config.leaseTtlMs) state.now
          (state.store.taken pod slots) state.store state.leases
        leases := state.leases + (state.store.taken pod slots).length
        assignments := assignAll platform (state.store.taken pod slots) state.leases
        thrown := none } :=
  claimForPod_eq ..

/-- A poll is refused, fails on a null entry, parks without having claimed
anything, or answers with what it claimed. -/
theorem poll_cases (body : PollBody) (sessionId : String) :
    body.podId.str = none ∧
        state.poll platform config body sessionId =
          (.error 400 podIdRequired .none, state) ∨
      ∃ podId turn, body.podId.str = some podId ∧
        turn = state.renewed config body podId sessionId ∧
        (turn.thrown = true ∧ state.poll platform config body sessionId =
            (.error 500 internalError .none, turn.state) ∨
          turn.thrown = false ∧
            turn.parks config body
              (turn.state.claimFor platform config turn.pod turn.slots).assignments = true ∧
            state.poll platform config body sessionId =
              (.pending turn.parked.token,
                (turn.state.claimed platform config turn.pod turn.slots).park turn.parked) ∨
          turn.thrown = false ∧
            turn.parks config body
              (turn.state.claimFor platform config turn.pod turn.slots).assignments = false ∧
            state.poll platform config body sessionId =
              (.poll (pollResponse config turn.pod
                (turn.state.claimFor platform config turn.pod turn.slots).assignments
                turn.cancel turn.renewing.orphan),
                turn.state.claimed platform config turn.pod turn.slots)) := by
  unfold Gateway.poll
  cases named : body.podId.str with
  | none => exact .inl ⟨rfl, rfl⟩
  | some podId =>
    refine .inr ⟨podId, _, rfl, rfl, ?_⟩
    dsimp only
    generalize state.renewed config body podId sessionId = turn
    have fine : (turn.state.claimFor platform config turn.pod turn.slots).thrown = none := by
      rw [claimFor_eq]
    cases thrown : turn.thrown with
    | true => simp
    | false =>
      cases parks : turn.parks config body
        (turn.state.claimFor platform config turn.pod turn.slots).assignments <;> simp [fine]

variable {platform config state}

/-- A settled poll claims when it was woken and answers either way. -/
theorem resumePoll_cases {token : Nat} {reply : Reply} {post : Gateway}
    (resumed : state.resumePoll platform config token = some (reply, post)) :
    ∃ parked woken,
      state.waiters.settled.find? (fun entry => entry.1.token = token) = some (parked, woken) ∧
      (woken = true ∧
          reply = .poll (pollResponse config parked.pod
            ((state.unpark token).claimFor platform config parked.pod
              parked.slots).assignments parked.cancel parked.orphan) ∧
          post = (state.unpark token).claimed platform config parked.pod parked.slots ∨
        woken = false ∧
          reply = .poll (pollResponse config parked.pod [] parked.cancel parked.orphan) ∧
          post = state.unpark token) := by
  unfold Gateway.resumePoll at resumed
  split at resumed
  · cases resumed
  · next parked woken found =>
    refine ⟨parked, woken, found, ?_⟩
    · have fine : ((state.unpark token).claimFor platform config parked.pod
          parked.slots).thrown = none := by rw [claimFor_eq]
      cases woken with
      | true =>
        simp only [fine, if_true, Option.isSome_none, Bool.false_eq_true, if_false,
          Option.some.injEq, Prod.mk.injEq] at resumed
        exact .inl ⟨rfl, resumed.1.symm, resumed.2.symm⟩
      | false =>
        simp only [Bool.false_eq_true, if_false, Option.some.injEq, Prod.mk.injEq] at resumed
        exact .inr ⟨rfl, resumed.1.symm, resumed.2.symm⟩

end PollSpec

/-! ### Upload and result -/

/-- `job.lease_id && job.lease_id === lease`. -/
def Job.leaseIs (job : Job) (lease : Option String) : Bool :=
  match fence job.leaseId with
  | some current => lease == some current
  | none => false

structure UploadRequest where
  id : String
  leaseId : Option String
  filename : Option String
  /-- A finite `content-length`. -/
  declared : Option ℚ
  /-- The `x-content-sha256` header. -/
  expected : Option String

structure ResultBody where
  state : Value
  error : Value
  retryable : Value
  filename : Value
  bytes : Value
  sha256 : Value
  deriving DecidableEq

structure ResultRequest where
  id : String
  leaseId : Option String
  body : ResultBody
  deriving DecidableEq

/-- `isSafeFilename`, as the type guard it is. -/
def safeFilename : Value → Option String
  | .string text => if isSafeFilename text then some text else none
  | _ => none

/-- The artifact a completed result records, unless its filename is refused. -/
def ResultBody.artifact (body : ResultBody) : Option Artifact :=
  let filename := if body.filename = .undefined then .string "output.mp4" else body.filename
  (safeFilename filename).map fun filename =>
    { mediaType := "video/mp4"
      filename := filename
      bytes := match body.bytes with
        | .number n => some n
        | _ => none
      sha256 := body.sha256.str }

def ResultBody.message (body : ResultBody) : String :=
  body.error.str.getD "pod reported an unspecified failure"

namespace Gateway

variable (config : Config)

/-- `POST /v1/agent/jobs/:id/artifact`, until the first file operation. -/
def upload (state : Gateway) (request : UploadRequest) : Reply × Gateway :=
  match state.store.get request.id with
  | none => (.error 404 jobNotFound .none, state)
  | some job =>
    let filename := request.filename.getD "output.mp4"
    if !job.leaseIs request.leaseId then (.error 409 staleLease .none, state)
    else if !isSafeFilename filename then (.error 400 invalidFilename .none, state)
    else if request.declared.any fun bytes => (config.maxArtifactBytes : ℚ) < bytes then
      (.error 413 (apiError 413 "artifact too large" (some "artifact_too_large") none) .none,
        state)
    else
      let (token, state) := state.spawn (.upload {
        job := job.id
        podId := job.podId
        leaseId := request.leaseId.getD ""
        filename := filename
        expected := request.expected
        received := []
        phase := .making })
      (.pending token, state)

/-- Wait for the input of a finished job to be removed. -/
def finishing (state : Gateway) (id : String) (outcome : VideoStatus) (clears : Bool) :
    Reply × Gateway :=
  let (token, state) := state.spawn (.finishing ⟨id, outcome, clears, false⟩)
  (.pending token, state)

/-- The branch of a result that reports `completed`. -/
def completeResult (state : Gateway) (job : Job) (leaseId : String) (body : ResultBody) :
    Reply × Gateway :=
  match body.artifact with
  | none => (.error 400 invalidFilename .none, state)
  | some artifact =>
    let (completed, store) := state.store.complete job.id leaseId [artifact] state.now
    if !completed then (.error 409 staleLease .none, state.withStore store)
    else
      { state with
        store := store
        pods := state.pods.recordOutcome job.podId .completed }.finishing job.id .completed true

/-- The branch that reports `cancelled`; the outcome of the update is not looked at. -/
def cancelResult (state : Gateway) (job : Job) (leaseId : String) : Reply × Gateway :=
  let (_, store) :=
    state.store.markCancelled job.id (some leaseId) state.now "acknowledged by pod"
  (state.withStore store).finishing job.id .cancelled false

/-- Every other result is a failure, retried while attempts are left. -/
def failResult (state : Gateway) (job : Job) (leaseId : String) (body : ResultBody) :
    Reply × Gateway :=
  if body.retryable = .boolean true ∧ job.attempts < config.maxAttempts then
    let (_, store) :=
      state.store.requeue job.id (some leaseId) (sliceText body.message 200)
    let pods := state.pods.recordOutcome job.podId .failed
    (.result job.id .queued, { state with store := store, pods := pods }.kick)
  else
    let (failed, store) := state.store.fail job.id (some leaseId) body.message state.now
    if !failed then (.error 409 staleLease .none, state.withStore store)
    else
      { state with
        store := store
        pods := state.pods.recordOutcome job.podId .failed }.finishing job.id .failed true

/-- `POST /v1/agent/jobs/:id/result`, until the input is removed. -/
def result (state : Gateway) (request : ResultRequest) : Reply × Gateway :=
  match state.store.get request.id with
  | none => (.error 404 jobNotFound .none, state)
  | some job =>
    let leaseId := request.leaseId.getD ""
    if !job.leaseIs (some leaseId) then (.error 409 staleLease .none, state)
    else if request.body.state = .string "completed" then
      state.completeResult job leaseId request.body
    else if request.body.state = .string "cancelled" then state.cancelResult job leaseId
    else state.failResult config job leaseId request.body

/-- The rest of a result: the input directory, then the row, then the wakeup. -/
def advanceFinishing (state : Gateway) (token : Nat) (task : Finishing) : Reply × Gateway :=
  if !task.removed then
    let disk := state.disk.removeInput task.id
    (.pending token,
      { state with disk := disk }.suspend token (.finishing { task with removed := true }))
  else
    let store := if task.clears then state.store.clearInput task.id else state.store
    (.result task.id task.state, ((state.withStore store).finish token).kick)

/-- Resume an upload. -/
def advanceUpload (platform : Platform) (state : Gateway) (token : Nat) (upload : Upload)
    (event : Event) : Option (Reply × Gateway) :=
  (upload.advance platform config.maxArtifactBytes state.now event state.disk).map
    fun (outcome, disk) =>
      let state := { state with disk := disk }
      match outcome with
      | .suspended upload => (.pending token, state.suspend token (.upload upload))
      | .rejected status error => (.error status error .none, state.finish token)
      | .stored =>
        let bytes := upload.received.length
        (.uploaded upload.filename bytes (platform.sha256 upload.received),
          (state.withStore (state.store.addEvent upload.job .uploaded upload.podId
            (some (toString bytes ++ " bytes")))).finish token)

end Gateway

end InferenceGateway
