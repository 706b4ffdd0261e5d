import InferenceGateway.Artifacts.Paths
import InferenceGateway.Routes.Videos

/-!
# Serving the generated media

`GET /v1/videos/:id/content` looks the row up, resolves the filename of its
artifact, and waits for the file to be examined before it streams it.
-/

namespace InferenceGateway

open Library

/-- A value given to `reply.header`. -/
inductive HeaderValue where
  | text (text : String)
  /-- A member of `Object.prototype`, which is no string; what becomes of it is up to Fastify. -/
  | inherited (name : String)
  deriving DecidableEq

/-- `MEDIA_TYPES[extension]`: its own entries, and those every object inherits.  The other inherited
names have capital letters, an extension has none. -/
def mediaType : String → Option HeaderValue
  | "mp4" => some (.text "video/mp4")
  | "webm" => some (.text "video/webm")
  | "png" => some (.text "image/png")
  | "jpg" => some (.text "image/jpeg")
  | "jpeg" => some (.text "image/jpeg")
  | "webp" => some (.text "image/webp")
  | "constructor" => some (.inherited "constructor")
  | "__proto__" => some (.inherited "__proto__")
  | _ => none

/-- What follows the last dot, in lower case. -/
def extension (filename : String) : String :=
  (String.ofList ((filename.toList.splitOn '.').getLastD [])).toLower

def contentExpired : ApiError := apiError 410 "content expired" (some "content_expired") none

def contentNotReady (state : VideoStatus) : ApiError :=
  apiError 409 ("video is " ++ statusText state ++ ", no content yet") (some "content_not_ready") none

def contentNotFound : ApiError := apiError 404 "content not found" (some "content_not_found") none

/-- A request that waits for `exists(path)`. -/
structure ContentRequest where
  job : String
  path : String
  artifact : Artifact

/-- The headers of a stream, and the path of the file it reads. -/
structure MediaStream where
  path : String
  contentType : HeaderValue
  contentLength : Nat
  disposition : String
  sha256 : Option String

inductive ContentReply where
  | refused (status : Nat) (error : ApiError)
  | stream (media : MediaStream)

namespace Gateway

variable (store : ArtifactStore) (cwd : WorkingDirectory)

/-- `GET /v1/videos/:id/content`, until the file is examined. -/
def content (state : Gateway) (id : String) : Except (Nat × ApiError) ContentRequest :=
  match state.store.get id with
  | none => .error (404, noSuchVideo id)
  | some job =>
    match job.artifacts.head? with
    | none =>
      if job.state = .completed then .error (410, contentExpired)
      else .error (409, contentNotReady job.state)
    | some artifact =>
      match store.resolveArtifact job.id artifact.filename cwd with
      | none => .error (404, contentNotFound)
      | some path => .ok ⟨job.id, path, artifact⟩

end Gateway

namespace ContentRequest

/-- The size of the file, or nothing where there is none. -/
def exists? (disk : Disk) (request : ContentRequest) : Option Nat :=
  (disk.read (.artifacts, request.job) request.artifact.filename).map List.length

/-- The rest of the route. -/
def serve (disk : Disk) (request : ContentRequest) : ContentReply :=
  match request.exists? disk with
  | none => .refused 410 contentExpired
  | some size => .stream {
      path := request.path
      contentType := (mediaType (extension request.artifact.filename)).getD
        (.text request.artifact.mediaType)
      contentLength := size
      disposition := "inline; filename=\"" ++ request.artifact.filename ++ "\""
      sha256 := request.artifact.sha256.filter (· ≠ "") }

end ContentRequest

variable {store : ArtifactStore} {cwd : WorkingDirectory}

/-- What the route streams is the first artifact of a row there was when the request came in. -/
theorem content_eq_ok {state : Gateway} {id : String} {request : ContentRequest}
    (accepted : state.content store cwd id = .ok request) :
    ∃ job, state.store.get id = some job ∧ request.job = id ∧ request.artifact ∈ job.artifacts ∧
      store.resolveArtifact id request.artifact.filename cwd = some request.path := by
  unfold Gateway.content at accepted
  split at accepted
  · cases accepted
  · next job found =>
    obtain rfl := JobStore.id_of_get found
    split at accepted
    · split at accepted <;> cases accepted
    · next artifact first =>
      split at accepted
      · cases accepted
      · next path resolved =>
        cases accepted
        exact ⟨job, found, rfl, List.mem_of_mem_head? first, resolved⟩

theorem path_of_stream {disk : Disk} {request : ContentRequest} {media : MediaStream}
    (served : request.serve disk = .stream media) : media.path = request.path := by
  unfold ContentRequest.serve at served
  split at served
  · cases served
  · cases served
    rfl

end InferenceGateway
