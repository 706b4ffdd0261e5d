import InferenceGateway.Routes.Agent

/-!
# The source image

`GET /v1/agent/jobs/:id/input`, fenced by the lease so that a stale pod cannot
read the input of another.
-/

namespace InferenceGateway

def inputExpired : ApiError := apiError 410 "input expired" (some "input_expired") none

/-- A request that waits for `exists(job.input_path)`. -/
structure InputRequest where
  job : String
  path : DiskPath

/-- A response whose length has been announced, and whose file is opened in a later turn. -/
structure InputResponse where
  path : DiskPath
  contentLength : Nat

/-- The length that was announced, and what the stream read. -/
structure InputStream where
  contentLength : Nat
  body : Bytes

/-- `GET /v1/agent/jobs/:id/input`, until the file is examined. -/
def Gateway.input (state : Gateway) (id : String) (leaseId : Option String) :
    Except (Nat × ApiError) InputRequest :=
  match state.store.get id with
  | none => .error (404, jobNotFound)
  | some job =>
    if !job.leaseIs leaseId then .error (409, staleLease)
    else
      match job.inputPath with
      | none => .error (410, inputExpired)
      | some path => .ok ⟨job.id, path⟩

/-- The file is there, and its size goes into the header. -/
def InputRequest.announce (disk : Disk) (request : InputRequest) :
    Except (Nat × ApiError) InputResponse :=
  match disk.read (request.path.root, request.path.job) request.path.name with
  | none => .error (410, inputExpired)
  | some bytes => .ok ⟨request.path, bytes.length⟩

/-- `createReadStream`; the request fails where the file went away in between. -/
def InputResponse.stream (disk : Disk) (response : InputResponse) :
    Except (Nat × ApiError) InputStream :=
  match disk.read (response.path.root, response.path.job) response.path.name with
  | none => .error (500, internalError)
  | some bytes => .ok ⟨response.contentLength, bytes⟩

theorem input_eq_ok {state : Gateway} {id : String} {leaseId : Option String}
    {request : InputRequest} (accepted : state.input id leaseId = .ok request) :
    ∃ job, state.store.get id = some job ∧ request.job = id ∧ job.leaseIs leaseId = true ∧
      job.inputPath = some request.path := by
  unfold Gateway.input at accepted
  split at accepted
  · cases accepted
  · next job found =>
    obtain rfl := JobStore.id_of_get found
    split at accepted
    · cases accepted
    · next current =>
      split at accepted
      · cases accepted
      · next path present =>
        cases accepted
        exact ⟨job, found, rfl, by simpa using current, present⟩

theorem announce_eq_ok {disk : Disk} {request : InputRequest} {response : InputResponse}
    (announced : request.announce disk = .ok response) : response.path = request.path ∧
      ∃ bytes, disk.read (request.path.root, request.path.job) request.path.name = some bytes ∧
        response.contentLength = bytes.length := by
  unfold InputRequest.announce at announced
  split at announced
  · cases announced
  · next bytes stored =>
    cases announced
    exact ⟨rfl, bytes, stored, rfl⟩

theorem stream_eq_ok {disk : Disk} {response : InputResponse} {stream : InputStream}
    (opened : response.stream disk = .ok stream) :
    disk.read (response.path.root, response.path.job) response.path.name = some stream.body ∧
      stream.contentLength = response.contentLength := by
  unfold InputResponse.stream at opened
  split at opened
  · cases opened
  · next bytes stored =>
    cases opened
    exact ⟨stored, rfl⟩

end InferenceGateway
