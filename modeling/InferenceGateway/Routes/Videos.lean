import InferenceGateway.Context

/-!
# The client-facing video API

Creation and cancellation.  The checks on the image bytes, its frame and the
numeric form fields are a parameter `prepare`: the scheduler never looks at
what they compute.
-/

namespace InferenceGateway

open Library

/-- What reading the multipart body failed with. -/
inductive UploadFailure where
  | fileTooLarge
  | other

/-- The form fields and the `input_reference` file of a request. -/
structure VideoForm where
  fields : String → Option String
  image : Option Bytes

structure VideoRequest where
  multipart : Bool
  form : Except UploadFailure VideoForm

/-- The prepared input, or the status and error of a refusal. -/
abbrev Prepare := VideoForm → Bytes → Except (Nat × ApiError) PreparedInput

/-- The length of a string in UTF-16 units. -/
def utf16Length (text : String) : Nat :=
  (text.toList.map fun c => if c.val ≥ 0x10000 then 2 else 1).sum

/-- `JSON.stringify` of one character of a string. -/
def jsonEscape (c : Char) : List Char :=
  if c = '"' then ['\\', '"']
  else if c = '\\' then ['\\', '\\']
  else if c = '\n' then ['\\', 'n']
  else if c = '\r' then ['\\', 'r']
  else if c = '\t' then ['\\', 't']
  else if c.toNat = 8 then ['\\', 'b']
  else if c.toNat = 12 then ['\\', 'f']
  else if c.toNat < 32 then
    ['\\', 'u', '0', '0', Nat.digitChar (c.toNat / 16), Nat.digitChar (c.toNat % 16)]
  else [c]

def jsonQuote (text : String) : String :=
  String.ofList ('"' :: text.toList.flatMap jsonEscape ++ ['"'])

def noSuchVideo (id : String) : ApiError :=
  apiError 404 ("no such video " ++ id) (some "video_not_found") (some "id")

def unsupportedMediaType : ApiError :=
  apiError 415 "POST /v1/videos takes multipart/form-data with an input_reference file"
    (some "unsupported_media_type") none

def statusText : VideoStatus → String
  | .queued => "queued"
  | .inProgress => "in_progress"
  | .completed => "completed"
  | .failed => "failed"
  | .cancelled => "cancelled"

def alreadyFinished (job : Option Job) : ApiError :=
  apiError 409 ("video is already " ++ (job.map fun job => statusText job.state).getD "undefined")
    (some "already_finished") none

namespace Gateway

variable (platform : Platform) (prepare : Prepare) (config : Config)

/-- `respond`. -/
def respond (state : Gateway) (job : Job) : VideoResponse :=
  toVideoResponse job (state.store.queuePosition job) config.artifactTtlMs

/-- Connected pods that serve the model and take new work. -/
def servingPods (state : Gateway) (model : String) : List Pod :=
  (state.pods.listConnected (state.now - config.podStaleMs)).filter fun pod =>
    pod.model = some model && !pod.draining

/-- The checks of `POST /v1/videos` in the order of the route. -/
def admission (state : Gateway) (form : VideoForm) :
    Except (Nat × ApiError × ErrorDetail) (String × Bytes × PreparedInput) :=
  match getModel (form.fields "model"), resolveModelId (form.fields "model") with
  | some spec, some model =>
    let prompt := trim ((form.fields "prompt").getD "")
    let counts := (state.store.countQueued, state.store.countRunning)
    if prompt = "" then
      .error (400, apiError 400 "prompt is required" (some "missing_parameter") (some "prompt"),
        .none)
    else if utf16Length prompt > spec.maxPromptChars then
      .error (400, apiError 400
        ("prompt exceeds " ++ toString spec.maxPromptChars ++ " characters")
        (some "prompt_too_long") (some "prompt"), .none)
    else if (state.servingPods config model).isEmpty then
      .error (503, apiError 503 ("no pod is serving " ++ model) (some "no_capacity")
        (some "model"), .model model)
    else if counts.1 ≥ config.maxQueueDepth then
      .error (503, apiError 503 "inference queue is full" (some "queue_full") none,
        .queueDepth (counts.1 + counts.2))
    else
      match form.image with
      | none =>
        .error (400, apiError 400 "input_reference is required" (some "missing_parameter")
          (some "input_reference"), .none)
      | some image =>
        match prepare form image with
        | .error (status, error) => .error (status, error, .none)
        | .ok input => .ok (model, image, input)
  | _, _ =>
    .error (404, apiError 404
      ("unknown model " ++ ((form.fields "model").map jsonQuote).getD "null")
      (some "model_not_found") (some "model"), .available modelNames)

/-- `POST /v1/videos`, until the input directory is made. -/
def createVideo (state : Gateway) (request : VideoRequest) : Reply × Gateway :=
  if !request.multipart then (.error 415 unsupportedMediaType .none, state)
  else
    match request.form with
    | .error .fileTooLarge =>
      (.error 413 (apiError 413
        ("input_reference exceeds the " ++ toString config.maxInputBytes ++ " byte limit")
        (some "input_too_large") (some "input_reference")) .none, state)
    | .error .other => (.error 500 internalError .none, state)
    | .ok form =>
      match state.admission prepare config form with
      | .error (status, error, detail) => (.error status error detail, state)
      | .ok (model, image, input) =>
        let now := state.now
        let id := platform.newVideoId state.videos
        let job : NewJob := {
          id := id
          model := model
          params := input.params
          inputPath := inputPath id input.extension
          inputSha256 := input.sha256
          inputBytes := image.length
          createdAt := now
          deadlineAt := now + config.jobTtlMs }
        let (token, state) :=
          { state with videos := state.videos + 1 }.spawn (.creation ⟨job, image, .making⟩)
        (.pending token, state)

/-- The rest of a creation: the directory, the file, then the row and the wakeup. -/
def advanceCreation (state : Gateway) (token : Nat) (creation : Creation) : Reply × Gateway :=
  match creation.phase with
  | .making =>
    let disk := state.disk.mkdir (.inputs, creation.job.id) state.now
    (.pending token,
      { state with disk := disk }.suspend token (.creation { creation with phase := .writing }))
  | .writing =>
    match Disk.writeInput state.disk creation.job.inputPath creation.image state.now with
    | none => (.error 500 internalError .none, state.finish token)
    | some disk =>
      (.pending token,
        { state with disk := disk }.suspend token
          (.creation { creation with phase := .inserting }))
  | .inserting =>
    match state.store.create creation.job with
    | none => (.error 500 internalError .none, state.finish token)
    | some store =>
      let state := ((state.withStore store).finish token).kick
      (.video 200 (state.respond config creation.job.row), state)

/-- `respond(jobs.get(id)!)`. -/
def respondWith (state : Gateway) (status : Nat) (id : String) : Reply × Gateway :=
  match state.store.get id with
  | some job => (.video status (state.respond config job), state)
  | none => (.error 500 internalError .none, state)

/-- Ask the pod to stop; a job that is no longer in flight has finished. -/
def cancelInFlight (state : Gateway) (id : String) (now : Millis) : Reply × Gateway :=
  let current := state.store.get id
  if current.any (·.state == .inProgress) then
    (state.withStore (state.store.requestCancel id now).2).respondWith config 202 id
  else (.error 409 (alreadyFinished current) .none, state)

/-- `DELETE /v1/videos/:id`. -/
def deleteVideo (state : Gateway) (id : String) : Reply × Gateway :=
  match state.store.get id with
  | none => (.error 404 (noSuchVideo id) .none, state)
  | some job =>
    let now := state.now
    if job.state = .queued then
      let (cancelled, store) := state.store.cancelQueued job.id now
      let state := state.withStore store
      if cancelled then state.respondWith config 200 job.id
      else state.cancelInFlight config job.id now  -- lost a race with a claiming poll
    else state.cancelInFlight config job.id now

end Gateway

/-! ### Requests that are let in -/

/-- What a request that gets through admission has passed. -/
structure Gateway.LetsIn (prepare : Prepare) (config : Config) (state : Gateway)
    (form : VideoForm) (spec : ModelSpec) (model : String) (image : Bytes)
    (input : PreparedInput) : Prop where
  known : getModel (form.fields "model") = some spec
  resolved : resolveModelId (form.fields "model") = some model
  prompted : trim ((form.fields "prompt").getD "") ≠ ""
  brief : utf16Length (trim ((form.fields "prompt").getD "")) ≤ spec.maxPromptChars
  served : state.servingPods config model ≠ []
  room : state.store.countQueued < config.maxQueueDepth
  attached : form.image = some image
  prepared : prepare form image = .ok input

variable {platform : Platform} {prepare : Prepare} {config : Config} {state : Gateway}

theorem letsIn_of_admission {form : VideoForm} {model : String} {image : Bytes}
    {input : PreparedInput}
    (admitted : state.admission prepare config form = .ok (model, image, input)) :
    ∃ spec, state.LetsIn prepare config form spec model image input := by
  unfold Gateway.admission at admitted
  split at admitted
  · next spec resolved known named =>
    dsimp only at admitted
    split_ifs at admitted with empty long unserved full
    split at admitted
    · cases admitted
    · next attached =>
      split at admitted
      · cases admitted
      · next prepared =>
        cases admitted
        exact ⟨spec, known, named, empty, not_lt.mp long,
          fun none => unserved (List.isEmpty_iff.mpr none), not_le.mp full, attached, prepared⟩
  · cases admitted

/-- A request that is taken up has got through admission. -/
theorem admitted_of_createVideo {request : VideoRequest} {token : Nat} {post : Gateway}
    (answered : state.createVideo platform prepare config request = (.pending token, post)) :
    request.multipart = true ∧ ∃ form model image input, request.form = .ok form ∧
      state.admission prepare config form = .ok (model, image, input) := by
  unfold Gateway.createVideo at answered
  split at answered
  · cases answered
  · next multipart =>
    rw [Bool.not_eq_true, Bool.not_eq_false'] at multipart
    refine ⟨multipart, ?_⟩
    split at answered
    · cases answered
    · cases answered
    · next form read =>
      split at answered
      · cases answered
      · next model image input admitted => exact ⟨form, model, image, input, read, admitted⟩

theorem letsIn_of_createVideo {request : VideoRequest} {token : Nat} {post : Gateway}
    (answered : state.createVideo platform prepare config request = (.pending token, post)) :
    ∃ form spec model image input, request.form = .ok form ∧
      state.LetsIn prepare config form spec model image input := by
  obtain ⟨-, form, model, image, input, read, admitted⟩ := admitted_of_createVideo answered
  obtain ⟨spec, passed⟩ := letsIn_of_admission admitted
  exact ⟨form, spec, model, image, input, read, passed⟩

end InferenceGateway
