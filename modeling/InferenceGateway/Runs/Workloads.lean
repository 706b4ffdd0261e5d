import InferenceGateway.Routes.Framing
import InferenceGateway.Runs.Tickets
import InferenceGateway.Scheduler.Claimed

/-!
# From a client's request to a pod's workload

Every assignment a pod is sent renders one request a client made: the model is
the one it named, the image is the one it attached, and the numbers are inside
the limits of the registry, whatever the form said.
-/

namespace InferenceGateway

open Library Relation

/-! ### Frames of probed images -/

/-- The sides are numbers of 32 bits. -/
def Dimensions.Short (dimensions : Dimensions) : Prop :=
  dimensions.width < 2 ^ 32 ∧ dimensions.height < 2 ^ 32

section Probe

open Buffer

theorem short_nonzero {width height : Nat} (short : (⟨width, height⟩ : Dimensions).Short) :
    Yields (.ok (Dimensions.nonzero width height)) Dimensions.Short := by
  unfold Dimensions.nonzero
  split
  · exact yields_some short
  · exact yields_none

theorem wordAt_lt (bytes : Bytes) (offset : Nat) : wordAt bytes offset < 2 ^ 16 := by
  have first := byteAt_lt bytes offset
  have second := byteAt_lt bytes (offset + 1)
  unfold wordAt
  omega

theorem short_walkSegments (bytes : Bytes) (offset : Nat) :
    Yields (walkSegments bytes offset) Dimensions.Short := by
  by_cases inside : offset + 3 < bytes.length
  · rw [walkSegments_eq inside]
    split_ifs
    · exact short_walkSegments bytes (offset + 1)
    · exact short_walkSegments bytes (offset + 2)
    · exact yields_none
    · exact yields_none
    · exact yields_none
    · have width := wordAt_lt bytes (offset + 7)
      have height := wordAt_lt bytes (offset + 5)
      exact short_nonzero ⟨by dsimp only; omega, by dsimp only; omega⟩
    · exact short_walkSegments bytes _
  · rw [walkSegments_done inside]
    exact yields_none
termination_by bytes.length - offset

theorem short_probeJpeg (bytes : Bytes) : Yields (probeJpeg bytes) Dimensions.Short := by
  unfold probeJpeg
  split
  · exact yields_none
  · rw [readUInt8_eq (by omega), readUInt8_eq (by omega)]
    simp only [bind, Except.bind]
    split_ifs
    · exact yields_none
    · exact yields_none
    · exact short_walkSegments bytes 2

theorem short_probePng (bytes : Bytes) : Yields (probePng bytes) Dimensions.Short := by
  unfold probePng
  split
  · exact yields_none
  · rw [readUInt32BE_eq (by omega), readUInt32BE_eq (by omega), readUInt32BE_eq (by omega),
      readUInt32BE_eq (by omega)]
    simp only [bind, Except.bind]
    split_ifs
    · exact yields_none
    · exact yields_none
    · exact yields_none
    · have first := wordAt_lt bytes 16
      have second := wordAt_lt bytes (16 + 2)
      have third := wordAt_lt bytes 20
      have fourth := wordAt_lt bytes (20 + 2)
      exact short_nonzero ⟨by dsimp only; omega, by dsimp only; omega⟩

/-- A 24-bit little-endian number. -/
theorem lt_of_bytes {first second third : Nat} (low : first < 256) (middle : second < 256)
    (high : third < 256) : first ||| (second <<< 8) ||| (third <<< 16) < 2 ^ 24 := by
  have middle' : second <<< 8 < 2 ^ 24 := by
    rw [Nat.shiftLeft_eq]
    omega
  have high' : third <<< 16 < 2 ^ 24 := by
    rw [Nat.shiftLeft_eq]
    omega
  exact Nat.or_lt_two_pow (Nat.or_lt_two_pow (by omega) middle') high'

theorem short_probeWebp (bytes : Bytes) : Yields (probeWebp bytes) Dimensions.Short := by
  have masked (n : Nat) : n &&& 0x3fff ≤ 0x3fff := Nat.and_le_right
  unfold probeWebp
  split
  · exact yields_none
  · rename_i complete
    have inside : 21 + 3 < bytes.length := by omega
    obtain ⟨bits, read⟩ := readUInt32LE_isOk inside
    simp (disch := omega) only [readUInt8_eq, readUInt16LE_eq, read, bind, Except.bind, pure,
      Except.pure]
    split
    · exact yields_none
    · split
      · exact yields_none
      · split
        · split_ifs
          · exact yields_none
          · exact yields_none
          · exact yields_none
          · apply yields_some
            exact ⟨(masked _).trans_lt (by decide), (masked _).trans_lt (by decide)⟩
        · split
          · split
            · exact yields_none
            · apply yields_some
              have width := masked bits
              have height := masked (bits >>> 14)
              constructor <;> dsimp only <;> omega
          · split
            · apply yields_some
              have width := lt_of_bytes (byteAt_lt bytes 24) (byteAt_lt bytes 25)
                (byteAt_lt bytes 26)
              have height := lt_of_bytes (byteAt_lt bytes 27) (byteAt_lt bytes 28)
                (byteAt_lt bytes 29)
              constructor <;> dsimp only <;> omega
            · exact yields_none

theorem short_probeDimensions (bytes : Bytes) :
    Yields (probeDimensions bytes) Dimensions.Short := by
  obtain ⟨jpeg, jpeg_eq, jpeg_short⟩ := short_probeJpeg bytes
  obtain ⟨png, png_eq, png_short⟩ := short_probePng bytes
  unfold probeDimensions
  rw [jpeg_eq, png_eq]
  cases jpeg with
  | some dimensions => exact yields_some (jpeg_short _ rfl)
  | none =>
    cases png with
    | some dimensions => exact yields_some (png_short _ rfl)
    | none => exact short_probeWebp bytes

end Probe

/-! ### What the route makes of a form -/

/-- The limits of an entry of the registry leave room. -/
structure ModelSpec.Sensible (spec : ModelSpec) : Prop where
  smallest : .p480 ∈ spec.resolutions
  seconds : 1 ≤ spec.limits.maxSeconds
  steps : 1 ≤ spec.limits.maxSteps
  negativePrompt : spec.negativePrompt ≠ ""

theorem sensible_of_getModel {name : Option String} {spec : ModelSpec}
    (registered : getModel name = some spec) : spec.Sensible := by
  obtain ⟨id, -, found⟩ := Option.bind_eq_some_iff.mp registered
  have member : (id, spec) ∈ models := by
    obtain ⟨first, rest, split, -⟩ := List.lookup_eq_some_iff.mp found
    rw [split]
    exact List.mem_append_right _ List.mem_cons_self
  simp only [models, List.mem_singleton, Prod.mk.injEq] at member
  obtain ⟨-, rfl⟩ := member
  exact ⟨by decide, by norm_num, by decide, by decide +kernel⟩

/-- The parameters are inside what the registry allows. -/
structure JobParams.Within (params : JobParams) (spec : ModelSpec) : Prop where
  prompt : params.prompt ≠ "" ∧ utf16Length params.prompt ≤ spec.maxPromptChars
  negativePrompt : params.negativePrompt ≠ ""
  size : ∃ width height, params.size = frameText width height ∧ 16 ∣ width ∧ 16 ∣ height ∧
    params.resolution.Admits width height
  resolution : params.resolution ∈ spec.resolutions
  seconds : 1 ≤ params.seconds ∧ params.seconds ≤ spec.limits.maxSeconds
  steps : 1 ≤ params.numInferenceSteps ∧ params.numInferenceSteps ≤ spec.limits.maxSteps
  guidanceScale : params.guidanceScale = spec.defaults.guidanceScale
  seed : ∀ seed, params.seed = some seed → |seed| ≤ 2 ^ 53 - 1

/-- A frame of whole macroblocks within the budget of an allowed resolution. -/
structure CheckedSize.Within (frame : CheckedSize) (spec : ModelSpec) : Prop where
  size : ∃ width height, frame.size = frameText width height ∧ 16 ∣ width ∧ 16 ∣ height ∧
    frame.resolution.Admits width height
  resolution : frame.resolution ∈ spec.resolutions

theorem within_fitSize {dimensions : Dimensions} {resolution : Resolution} {size : String}
    {spec : ModelSpec} (short : dimensions.Short) (offered : resolution ∈ spec.resolutions)
    (fits : Arithmetic.doubles.fitSize dimensions.width dimensions.height resolution = .ok size) :
    (⟨size, resolution⟩ : CheckedSize).Within spec := by
  by_cases positive : 0 < dimensions.width ∧ 0 < dimensions.height
  · obtain ⟨w, h, same, wide, high, -, -, admits, -⟩ :=
      fitSize_doubles ⟨positive.1, short.1⟩ ⟨positive.2, short.2⟩ resolution
    cases same.symm.trans fits
    exact ⟨⟨w, h, rfl, wide, high, admits⟩, offered⟩
  · rw [Arithmetic.fitSize, if_neg positive] at fits
    cases fits

theorem within_frameFor {dimensions : Dimensions} {requested : String} {frame : CheckedSize}
    {spec : ModelSpec} (sensible : spec.Sensible) (short : dimensions.Short)
    (framed : FrameFor .doubles spec dimensions requested frame) : frame.Within spec := by
  cases framed with
  | derived unnamed fits => exact within_fitSize short sensible.smallest fits
  | fitted named offered fits => exact within_fitSize short offered fits
  | named checked =>
    obtain ⟨width, height, -, wide, high, found, size⟩ := checkSize_eq_some.mp checked
    have admits : frame.resolution.Admits width height := by simpa using List.find?_some found
    exact ⟨⟨width, height, size, wide, high, admits⟩, List.mem_of_find?_eq_some found⟩

theorem clamp_bounds {Number : Type} [LinearOrder Number] {lower upper : Number}
    (room : lower ≤ upper) (value : Number) :
    lower ≤ clamp value lower upper ∧ clamp value lower upper ≤ upper :=
  ⟨le_min (le_max_right _ _) room, min_le_right _ _⟩

theorem abs_le_of_safeInteger {value : ℚ} {n : Int} (safe : safeInteger value = some n) :
    |n| ≤ 2 ^ 53 - 1 := by
  unfold safeInteger at safe
  split at safe
  · next bounds =>
    cases safe
    exact bounds.2
  · cases safe

/-- The parameters are those of the form, over a frame that its image and its size field admit,
and inside what the registry allows. -/
structure JobParams.Suits (params : JobParams) (spec : ModelSpec) (form : VideoForm)
    (image : Bytes) : Prop where
  framed : ∃ dimensions frame, probeDimensions image = .ok (some dimensions) ∧
    FrameFor .doubles spec dimensions (trim ((form.fields "size").getD "")) frame ∧
    params = jobParams spec form frame
  within : params.Within spec

theorem within_jobParams {spec : ModelSpec} {form : VideoForm} {frame : CheckedSize}
    (sensible : spec.Sensible) (framed : frame.Within spec)
    (prompted : trim ((form.fields "prompt").getD "") ≠ "")
    (brief : utf16Length (trim ((form.fields "prompt").getD "")) ≤ spec.maxPromptChars) :
    (jobParams spec form frame).Within spec where
  prompt := ⟨prompted, brief⟩
  negativePrompt := by
    unfold jobParams
    dsimp only
    split
    · exact sensible.negativePrompt
    · next given => exact given
  size := framed.size
  resolution := framed.resolution
  seconds := clamp_bounds sensible.seconds _
  steps := clamp_bounds sensible.steps _
  guidanceScale := rfl
  seed seed chosen := by
    obtain ⟨value, -, safe⟩ := Option.bind_eq_some_iff.mp chosen
    exact abs_le_of_safeInteger safe

theorem suits_of_prepareVideo {platform : Platform} {config : Config} {form : VideoForm}
    {bytes : Bytes} {input : PreparedInput} {spec : ModelSpec}
    (registered : getModel (form.fields "model") = some spec)
    (prompted : trim ((form.fields "prompt").getD "") ≠ "")
    (brief : utf16Length (trim ((form.fields "prompt").getD "")) ≤ spec.maxPromptChars)
    (prepared : prepareVideo .doubles platform config form bytes = .ok input) :
    input.sha256 = platform.sha256 bytes ∧ bytes.length ≤ config.maxInputBytes ∧
      input.params.Suits spec form bytes := by
  unfold prepareVideo at prepared
  rw [registered] at prepared
  dsimp only at prepared
  split at prepared
  · cases prepared
  · next image read =>
    have digest : image.bytes = bytes ∧ image.sha256 = platform.sha256 bytes ∧
        bytes.length ≤ config.maxInputBytes := by
      unfold readImage at read
      split_ifs at read with empty large
      split at read
      · cases read
      · cases read
        exact ⟨rfl, rfl, not_lt.mp large⟩
    obtain ⟨whole, digest, small⟩ := digest
    obtain ⟨found, probed, short⟩ := short_probeDimensions bytes
    rw [whole, probed] at prepared
    cases found with
    | none => cases prepared
    | some dimensions =>
      dsimp only at prepared
      split at prepared
      · cases prepared
      · next frame chosen =>
        cases prepared
        have framed := frameFor_of_chooseFrame chosen
        have sensible := sensible_of_getModel registered
        have within := within_frameFor sensible (short _ rfl) framed
        exact ⟨digest, small, ⟨dimensions, frame, probed, framed, rfl⟩,
          within_jobParams sensible within prompted brief⟩

/-! ### The request behind a job -/

/-- What a job is asked to do; nothing changes it. -/
structure Order where
  id : String
  model : String
  params : JobParams
  inputSha256 : Option String
  inputBytes : Option Nat
  createdAt : Millis
  deadlineAt : Millis

def Job.order (job : Job) : Order where
  id := job.id
  model := job.model
  params := job.params
  inputSha256 := job.inputSha256
  inputBytes := job.inputBytes
  createdAt := job.createdAt
  deadlineAt := job.deadlineAt

/-- The creation that prepares its images as the route does. -/
abbrev prepared (platform : Platform) (config : Config) : Prepare :=
  prepareVideo .doubles platform config

variable {platform : Platform} {prepare : Prepare} {config : Config} {t : GatewayTransition}

/-- The step enqueues the job of a request that the order renders. -/
structure Enqueues (platform : Platform) (config : Config) (u : GatewayTransition) (order : Order) :
    Prop where
  reply : u.reply = .pending u.pre.tokens
  id : order.id = platform.newVideoId u.pre.videos
  createdAt : order.createdAt = u.pre.now
  deadlineAt : order.deadlineAt = u.pre.now + config.jobTtlMs
  request : ∃ form image spec, u.action = .createVideo ⟨true, .ok form⟩ ∧
    form.image = some image ∧ image.length ≤ config.maxInputBytes ∧
    getModel (form.fields "model") = some spec ∧
    resolveModelId (form.fields "model") = some order.model ∧
    order.inputSha256 = some (platform.sha256 image) ∧ order.inputBytes = some image.length ∧
    order.params.Suits spec form image

theorem order_touch {job job' : Job} (touch : Touch platform config t job job') :
    job'.order = job.order := by
  cases touch <;> rfl

theorem order_touches {job job' : Job} (touches : ReflTransGen (Touch platform config t) job job') :
    job'.order = job.order := by
  induction touches with
  | refl => rfl
  | tail _ touch inductionHypothesis => exact (order_touch touch).trans inductionHypothesis

/-- The creation a request starts. -/
theorem accepts_of_createVideo {pre post : Gateway} {request : VideoRequest} {reply : Reply}
    {creation : Creation}
    (stepped : pre.createVideo platform (prepared platform config) config request = (reply, post))
    (unused : pre.tasks.lookup pre.tokens = none)
    (running : post.tasks.lookup pre.tokens = some (.creation creation)) :
    Enqueues platform config ⟨pre, .createVideo request, reply, post⟩ creation.job.row.order := by
  unfold Gateway.createVideo at stepped
  have idle {answer : Reply} (same : (answer, pre) = (reply, post)) : False := by
    cases same
    cases unused.symm.trans running
  split at stepped
  · exact (idle stepped).elim
  · next multipart =>
    split at stepped
    · exact (idle stepped).elim
    · exact (idle stepped).elim
    · next form read =>
      split at stepped
      · exact (idle stepped).elim
      · next model image input admitted =>
        obtain ⟨spec, passed⟩ := letsIn_of_admission admitted
        obtain ⟨digest, small, suits⟩ :=
          suits_of_prepareVideo passed.known passed.prompted passed.brief passed.prepared
        cases stepped
        obtain ⟨marked, content⟩ := request
        obtain rfl : content = .ok form := read
        obtain rfl : marked = true := by simpa using multipart
        cases (AList.lookup_insert pre.tasks).symm.trans running
        exact ⟨rfl, rfl, rfl, rfl, form, image, spec, rfl, passed.attached, small, passed.known,
          passed.resolved, congrArg some digest, rfl, suits⟩

/-- Every job, and every running creation, renders a request of the history. -/
structure Ordered (platform : Platform) (config : Config) (history : List GatewayTransition)
    (state : Gateway) : Prop where
  rows : ∀ id job, state.store.get id = some job →
    ∃ u ∈ history, Enqueues platform config u job.order
  creations : ∀ k creation, state.tasks.lookup k = some (.creation creation) →
    ∃ u ∈ history, Enqueues platform config u creation.job.row.order

theorem ordered_step (fires : (gateway platform (prepared platform config) config).Fires t)
    (fresh : Fresh platform t.pre) {history : List GatewayTransition}
    (ordered : Ordered platform config history t.pre) :
    Ordered platform config (history ++ [t]) t.post := by
  have onward {order : Order} (earlier : ∃ u ∈ history, Enqueues platform config u order) :
      ∃ u ∈ history ++ [t], Enqueues platform config u order := by
    obtain ⟨u, member, enqueues⟩ := earlier
    exact ⟨u, List.mem_append_left _ member, enqueues⟩
  constructor
  · intro id job found
    have change := rowChange fires id
    rw [found] at change
    generalize earlier : t.pre.store.get id = before at change
    cases change with
    | touched touches =>
      rw [order_touches touches]
      exact onward (ordered.rows id _ earlier)
    | created action running => exact onward (ordered.creations _ _ running)
  · intro k creation running
    have change := taskChange fires k
    rw [running] at change
    generalize earlier : t.pre.tasks.lookup k = before at change
    generalize later : some (Task.creation creation) = after at change
    cases change with
    | same =>
      subst later
      exact onward (ordered.creations k creation earlier)
    | spawned new counted spawned =>
      cases later
      cases spawned with
      | @creation request job image action =>
        obtain ⟨pre, _, reply, post⟩ := t
        obtain rfl := action
        subst new
        refine ⟨_, by simp, accepts_of_createVideo (Option.some.inj fires) ?_ running⟩
        cases unused : pre.tasks.lookup pre.tokens with
        | none => rfl
        | some task => exact absurd (fresh.token_lt _ _ unused) (Nat.lt_irrefl _)
    | continued action continues =>
      cases later
      cases continues with
      | creation job =>
        rw [job]
        exact onward (ordered.creations k _ earlier)
    | returned => cases later
    | lost => cases later

theorem ordered_of_run {trace : List GatewayTransition} {final : Gateway}
    (run : (gateway platform (prepared platform config) config).Run
      (gateway platform (prepared platform config) config).initial trace final) :
    Ordered platform config trace final := by
  apply run.history (P := fun trace state => Ordered platform config trace state)
  · constructor
    · intro id job found
      simp [gateway, Gateway.empty, JobStore.get] at found
    · intro k creation running
      simp [gateway, Gateway.empty] at running
  · exact fun _ _ earlier fires ordered => ordered_step fires (fresh_of_run earlier) ordered

/-! ### The workload of an assignment -/

/-- The assignment renders the request the step accepted: the model it named, the image it
attached, its prompt, a frame that the image and the size field admit, and numbers inside the
limits of the registry. -/
structure Renders (platform : Platform) (config : Config) (u : GatewayTransition)
    (assignment : Assignment) : Prop where
  reply : u.reply = .pending u.pre.tokens
  jobId : assignment.jobId = platform.newVideoId u.pre.videos
  deadlineAt : assignment.deadlineAt = u.pre.now + config.jobTtlMs
  workload : ∃ form image spec params, u.action = .createVideo ⟨true, .ok form⟩ ∧
    form.image = some image ∧ image.length ≤ config.maxInputBytes ∧
    getModel (form.fields "model") = some spec ∧
    resolveModelId (form.fields "model") = some assignment.model ∧
    assignment.input = ⟨"/v1/agent/jobs/" ++ assignment.jobId ++ "/input",
      some (platform.sha256 image), some image.length⟩ ∧
    assignment.sglang = ⟨spec.endpoint, sglangFields params⟩ ∧
    params.prompt = trim ((form.fields "prompt").getD "") ∧ params.Suits spec form image

theorem renders_of_describes {u : GatewayTransition} {assignment : Assignment} {job : Job}
    (describes : assignment.Describes job) (enqueues : Enqueues platform config u job.order) :
    Renders platform config u assignment := by
  obtain ⟨form, image, spec, action, attached, small, known, resolved, digest, bytes, suits⟩ :=
    enqueues.request
  have name : getModel (some job.model) = getModel (form.fields "model") := by
    change resolveModelId _ = some job.model at resolved
    simp only [getModel, resolved, resolveModelId_of_mem (resolveModelId_mem resolved)]
  have endpoint : assignment.sglang.endpoint = spec.endpoint := by
    have same := describes.endpoint
    rw [name, known] at same
    exact (Option.some.inj same).symm
  refine ⟨enqueues.reply, describes.jobId.trans enqueues.id,
    describes.deadlineAt.trans enqueues.deadlineAt, form, image, spec, job.params, action, attached,
    small, known, ?_, ?_, ?_, ?_, suits⟩
  · rw [describes.model]
    exact resolved
  · rw [describes.input, describes.jobId]
    exact congrArg₂ (AssignmentInput.mk _) digest bytes
  · rw [← endpoint, ← describes.fields]
  · obtain ⟨dimensions, frame, -, -, params⟩ := suits.framed
    exact congrArg JobParams.prompt params

/-- Every assignment of the run renders one earlier request. -/
def WorkloadsRendered (run : GatewayRun platform prepare config) : Prop :=
  ∀ before t after, run.trace = before ++ t :: after → ∀ assignment ∈ t.reply.assignments,
    ∃ u ∈ before, Renders platform config u assignment

/-- What pods are sent is what clients asked for, inside the limits of the registry. -/
theorem workloads_rendered (platform : Platform) (config : Config)
    (run : GatewayRun platform (prepared platform config) config) : WorkloadsRendered run := by
  intro before t after split assignment sent
  have whole := run.run
  rw [split] at whole
  obtain ⟨earlier, fires, -⟩ := whole.split
  cases claims : claimTurn config t with
  | none =>
    rw [assignments_of_idle fires claims] at sent
    cases sent
  | some turn =>
    have claimed := claims_of_claimTurn fires claims
    rw [claimed.assignments] at sent
    obtain ⟨i, job, place, assigned⟩ := assignment_at sent
    obtain ⟨describes, -⟩ := describes_of_assignmentFor assigned
    obtain ⟨found, -⟩ := get_of_taken claimed claims (List.mem_of_getElem? place)
    obtain ⟨u, member, enqueues⟩ := (ordered_of_run earlier).rows job.id job found
    exact ⟨u, member, renders_of_describes describes enqueues⟩

end InferenceGateway
