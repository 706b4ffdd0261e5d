import Mathlib
import InferenceGateway.Domain.Inputs
import InferenceGateway.Domain.Probe
import InferenceGateway.Domain.Sizing
import InferenceGateway.Routes.Videos

/-!
# The image and the parameters of a creation

What `POST /v1/videos` does with the uploaded image and the form fields between
admission and the write of the input.
-/

namespace InferenceGateway

open Library

/-- JavaScript numbers. -/
def Arithmetic.doubles : Arithmetic ℚ where
  ofNat n := Binary64.nearest n
  mul x y := Binary64.nearest (x * y)
  div x y := Binary64.nearest (x / y)
  sqrt := Binary64.sqrt
  less x y := decide (x < y)
  round := mathRound

example : Arithmetic.doubles.fitSize 1000 1000 .p480 = .ok "624x624" := by decide +kernel

/-! ### Numbers in form fields -/

/-- The value of a digit, 16 for other characters. -/
def digitValue (c : Char) : Nat :=
  if c.isDigit then c.toNat - 48
  else if 'a' ≤ c ∧ c ≤ 'f' then c.toNat - 87
  else if 'A' ≤ c ∧ c ≤ 'F' then c.toNat - 55
  else 16

def wholeNumber (base : Nat) (digits : List Char) : Option Nat :=
  if digits ≠ [] ∧ ∀ c ∈ digits, digitValue c < base then
    some (digits.foldl (fun n c => base * n + digitValue c) 0)
  else none

def exponentPart : List Char → Option Int
  | [] => some 0
  | e :: rest =>
    if e = 'e' ∨ e = 'E' then
      match rest with
      | '+' :: digits => (wholeNumber 10 digits).map Int.ofNat
      | '-' :: digits => (wholeNumber 10 digits).map fun n => -Int.ofNat n
      | digits => (wholeNumber 10 digits).map Int.ofNat
    else none

def unsignedDecimal (text : List Char) : Option ℚ :=
  let whole := text.takeWhile Char.isDigit
  let (fraction, rest) := match text.dropWhile Char.isDigit with
    | '.' :: more => (more.takeWhile Char.isDigit, more.dropWhile Char.isDigit)
    | rest => ([], rest)
  (wholeNumber 10 (whole ++ fraction)).bind fun digits =>
    (exponentPart rest).map fun (exponent : Int) =>
      (digits : ℚ) * 10 ^ (exponent - (fraction.length : Int))

/-- The numeric literal a trimmed text spells, apart from infinities. -/
def numericLiteral : List Char → Option ℚ
  | '0' :: 'x' :: digits | '0' :: 'X' :: digits => (wholeNumber 16 digits).map Nat.cast
  | '0' :: 'o' :: digits | '0' :: 'O' :: digits => (wholeNumber 8 digits).map Nat.cast
  | '0' :: 'b' :: digits | '0' :: 'B' :: digits => (wholeNumber 2 digits).map Nat.cast
  | '+' :: text => unsignedDecimal text
  | '-' :: text => (unsignedDecimal text).map fun value => -value
  | text => unsignedDecimal text

/-- A finite number, or nothing. -/
def num (value : Option String) : Option ℚ :=
  value.bind fun text =>
    if trim text = "" then none
    else
      ((numericLiteral (trim text).toList).map Binary64.nearest).filter fun parsed =>
        |parsed| < 2 ^ 1024

/-- `Number.isSafeInteger`, with the integer. -/
def safeInteger (value : ℚ) : Option Int :=
  if value.den = 1 ∧ |value.num| ≤ 2 ^ 53 - 1 then some value.num else none

/-! ### The route -/

def invalidImage (message : String) : ApiError :=
  apiError 400 message (some "invalid_image") (some "input_reference")

def invalidSize (message : String) : ApiError :=
  apiError 400 message (some "invalid_size") (some "size")

section Preparation

variable {Number : Type} (arithmetic : Arithmetic Number)

/-- `fitSize`; its exception is an internal error. -/
def derivedFrame (dimensions : Dimensions) (resolution : Resolution) :
    Except (Nat × ApiError) CheckedSize :=
  match arithmetic.fitSize dimensions.width dimensions.height resolution with
  | .ok size => .ok ⟨size, resolution⟩
  | .error _ => .error (500, internalError)

/-- Name a frame and it is validated, or omit it and one is derived from the image. -/
def chooseFrame (spec : ModelSpec) (dimensions : Dimensions) (requested : String) :
    Except (Nat × ApiError) CheckedSize :=
  if requested = "" then derivedFrame arithmetic dimensions .p480
  else
    match isResolution requested with
    | some resolution =>
      if resolution ∈ spec.resolutions then derivedFrame arithmetic dimensions resolution
      else .error (400, invalidSize ("size must be one of " ++
        ", ".intercalate (spec.resolutions.map Resolution.label) ++ " or WxH"))
    | none =>
      match checkSize requested spec.resolutions with
      | some checked => .ok checked
      | none => .error (400, invalidSize ("size " ++ jsonQuote requested ++
        " is not a 16-aligned frame within " ++
        "/".intercalate (spec.resolutions.map Resolution.label) ++ " limits"))

/-- The parameters of the job: step count, duration and guidance are gateway-owned. -/
def jobParams (spec : ModelSpec) (form : VideoForm) (frame : CheckedSize) : JobParams where
  prompt := trim ((form.fields "prompt").getD "")
  negativePrompt :=
    let negative := trim ((form.fields "negative_prompt").getD "")
    if negative = "" then spec.negativePrompt else negative
  resolution := frame.resolution
  size := frame.size
  seconds := clamp ((num (form.fields "seconds")).getD spec.defaults.seconds) 1
    spec.limits.maxSeconds
  numInferenceSteps := clamp (mathRound ((num (form.fields "num_inference_steps")).getD
    spec.defaults.numInferenceSteps)) 1 spec.limits.maxSteps
  guidanceScale := spec.defaults.guidanceScale
  seed := (num (form.fields "seed")).bind safeInteger

/-- The image is decoded, probed and sized; an exception is an internal error. -/
def prepareVideo (platform : Platform) (config : Config) : Prepare := fun form bytes =>
  match getModel (form.fields "model") with
  | none => .error (500, internalError)  -- admission has found the model
  | some spec =>
    match readImage platform bytes config.maxInputBytes with
    | .error message => .error (400, invalidImage message)
    | .ok image =>
      match probeDimensions image.bytes with
      | .error _ => .error (500, internalError)
      | .ok none => .error (400, invalidImage "input_reference header could not be read")
      | .ok (some dimensions) =>
        match chooseFrame arithmetic spec dimensions (trim ((form.fields "size").getD "")) with
        | .error refusal => .error refusal
        | .ok frame => .ok {
            extension := image.extension
            sha256 := image.sha256
            params := jobParams spec form frame }

end Preparation

/-! ### What an image can lead to -/

section Answers

variable {Number : Type} {arithmetic : Arithmetic Number}

/-- The frame of a request: derived from its image, for the resolution it names or the smallest
one, or the frame it names itself. -/
inductive FrameFor (arithmetic : Arithmetic Number) (spec : ModelSpec) (dimensions : Dimensions)
    (requested : String) : CheckedSize → Prop where
  | derived {size : String} (unnamed : requested = "")
      (fits : arithmetic.fitSize dimensions.width dimensions.height .p480 = .ok size) :
      FrameFor arithmetic spec dimensions requested ⟨size, .p480⟩
  | fitted {size : String} {resolution : Resolution}
      (named : isResolution requested = some resolution) (offered : resolution ∈ spec.resolutions)
      (fits : arithmetic.fitSize dimensions.width dimensions.height resolution = .ok size) :
      FrameFor arithmetic spec dimensions requested ⟨size, resolution⟩
  | named {frame : CheckedSize} (checked : checkSize requested spec.resolutions = some frame) :
      FrameFor arithmetic spec dimensions requested frame

theorem fits_of_derivedFrame {dimensions : Dimensions} {resolution : Resolution}
    {frame : CheckedSize} (derived : derivedFrame arithmetic dimensions resolution = .ok frame) :
    ∃ size, frame = ⟨size, resolution⟩ ∧
      arithmetic.fitSize dimensions.width dimensions.height resolution = .ok size := by
  unfold derivedFrame at derived
  split at derived
  · next size fits =>
    cases derived
    exact ⟨size, rfl, fits⟩
  · cases derived

theorem frameFor_of_chooseFrame {spec : ModelSpec} {dimensions : Dimensions} {requested : String}
    {frame : CheckedSize} (chosen : chooseFrame arithmetic spec dimensions requested = .ok frame) :
    FrameFor arithmetic spec dimensions requested frame := by
  unfold chooseFrame at chosen
  split at chosen
  · next unnamed =>
    obtain ⟨size, rfl, fits⟩ := fits_of_derivedFrame chosen
    exact .derived unnamed fits
  · split at chosen
    · next resolution named =>
      split at chosen
      · next offered =>
        obtain ⟨size, rfl, fits⟩ := fits_of_derivedFrame chosen
        exact .fitted named offered fits
      · cases chosen
    · split at chosen
      · next checked =>
        cases chosen
        exact .named checked
      · cases chosen

theorem derivedFrame_of_positive (arithmetic : Arithmetic Number) {dimensions : Dimensions}
    (positive : dimensions.Positive) (resolution : Resolution) :
    ∃ size, arithmetic.fitSize dimensions.width dimensions.height resolution = .ok size ∧
      derivedFrame arithmetic dimensions resolution = .ok ⟨size, resolution⟩ := by
  have sides : 0 < dimensions.width ∧ 0 < dimensions.height := positive
  have fitted : ∃ size,
      arithmetic.fitSize dimensions.width dimensions.height resolution = .ok size := by
    rw [Arithmetic.fitSize, if_pos sides]
    exact ⟨_, rfl⟩
  obtain ⟨size, fitted⟩ := fitted
  exact ⟨size, fitted, by rw [derivedFrame, fitted]⟩

/-- Refusals of a positive frame are the client's fault. -/
theorem status_of_chooseFrame {spec : ModelSpec} {dimensions : Dimensions} {requested : String}
    {status : Nat} {error : ApiError} (positive : dimensions.Positive)
    (refused : chooseFrame arithmetic spec dimensions requested = .error (status, error)) :
    status = 400 := by
  unfold chooseFrame at refused
  split at refused
  · obtain ⟨size, -, framed⟩ := derivedFrame_of_positive arithmetic positive .p480
    rw [framed] at refused
    cases refused
  · split at refused
    · rename_i resolution _
      split at refused
      · obtain ⟨size, -, framed⟩ :=
          derivedFrame_of_positive arithmetic positive resolution
        rw [framed] at refused
        cases refused
      · cases refused
        rfl
    · split at refused
      · cases refused
      · cases refused
        rfl

theorem bytes_of_readImage {platform : Platform} {bytes : Bytes} {maxBytes : Nat}
    {image : DecodedImage} (read : readImage platform bytes maxBytes = .ok image) :
    image.bytes = bytes := by
  unfold readImage at read
  split_ifs at read
  split at read
  · cases read
  · cases read
    rfl

theorem status_of_prepareVideo {platform : Platform} {config : Config} {form : VideoForm}
    {bytes : Bytes} {status : Nat} {error : ApiError} (nonempty : ¬ EmptyLossy bytes)
    (registered : (getModel (form.fields "model")).isSome)
    (refused : prepareVideo arithmetic platform config form bytes = .error (status, error)) :
    status = 400 := by
  obtain ⟨found, probed, positive⟩ := yields_probeDimensions bytes
  unfold prepareVideo at refused
  split at refused
  · rename_i unknown
    simp [unknown] at registered
  · split at refused
    · cases refused
      rfl
    · rename_i image read
      rw [bytes_of_readImage read, probed] at refused
      cases found with
      | none =>
        cases refused
        rfl
      | some dimensions =>
        dsimp only at refused
        split at refused
        · rename_i chosen
          cases refused
          exact status_of_chooseFrame ((positive _ rfl).resolve_right nonempty) chosen
        · cases refused

/-- Admission refuses on its own account, or because of the image. -/
theorem status_of_admission {prepare : Prepare} {config : Config} {state : Gateway}
    {form : VideoForm} {status : Nat} {error : ApiError} {detail : ErrorDetail}
    (refused : state.admission prepare config form = .error (status, error, detail)) :
    status ∈ [400, 404, 503] ∨ ∃ image, form.image = some image ∧
      (getModel (form.fields "model")).isSome ∧ prepare form image = .error (status, error) := by
  unfold Gateway.admission at refused
  split at refused
  · rename_i spec model known _
    dsimp only at refused
    split at refused
    · cases refused
      simp
    · split at refused
      · cases refused
        simp
      · split at refused
        · cases refused
          simp
        · split at refused
          · cases refused
            simp
          · split at refused
            · cases refused
              simp
            · rename_i image present
              split at refused
              · rename_i prepared
                cases refused
                exact .inr ⟨image, present, by simp [known], prepared⟩
              · cases refused
  · cases refused
    simp

end Answers

/-- The probe reads inside the buffer, finds positive dimensions, and the route answers an
upload of the bytes without an internal error. -/
structure ProbesSafely (bytes : Bytes) : Prop where
  returns : ∃ found, probeDimensions bytes = .ok found
  positive : ∀ dimensions, probeDimensions bytes = .ok (some dimensions) → dimensions.Positive
  fits : ∀ dimensions, probeDimensions bytes = .ok (some dimensions) →
    ∀ (Number : Type) (arithmetic : Arithmetic Number) (resolution : Resolution),
      ∃ size, arithmetic.fitSize dimensions.width dimensions.height resolution = .ok size
  prepared : ∀ (Number : Type) (arithmetic : Arithmetic Number) (platform : Platform)
    (config : Config) (form : VideoForm), (getModel (form.fields "model")).isSome →
      (∃ input, prepareVideo arithmetic platform config form bytes = .ok input) ∨
        ∃ error, prepareVideo arithmetic platform config form bytes = .error (400, error)
  answered : ∀ (Number : Type) (arithmetic : Arithmetic Number) (platform : Platform)
    (config : Config) (state : Gateway) (form : VideoForm), form.image = some bytes →
      ∀ error detail, (state.createVideo platform (prepareVideo arithmetic platform config) config
        ⟨true, .ok form⟩).1 ≠ .error 500 error detail

theorem probes_safely (bytes : Bytes) : ProbesSafely bytes ↔ ¬ EmptyLossy bytes := by
  constructor
  · intro safe empty
    obtain ⟨dimensions, probed, degenerate⟩ := probeDimensions_of_emptyLossy empty
    exact degenerate (safe.positive dimensions probed)
  · intro nonempty
    obtain ⟨found, probed, positive⟩ := yields_probeDimensions bytes
    have positive' : ∀ dimensions, probeDimensions bytes = .ok (some dimensions) →
        dimensions.Positive := by
      intro dimensions found'
      rw [probed, Except.ok.injEq] at found'
      exact (positive dimensions found').resolve_right nonempty
    refine ⟨⟨found, probed⟩, positive', ?_, ?_, ?_⟩
    · intro dimensions found' Number arithmetic resolution
      obtain ⟨size, fitted, -⟩ := derivedFrame_of_positive _ (positive' dimensions found') resolution
      exact ⟨size, fitted⟩
    · intro Number arithmetic platform config form registered
      cases prepared : prepareVideo arithmetic platform config form bytes with
      | ok input => exact .inl ⟨input, rfl⟩
      | error refusal =>
        obtain ⟨status, error⟩ := refusal
        obtain rfl := status_of_prepareVideo nonempty registered prepared
        exact .inr ⟨error, rfl⟩
    · intro Number arithmetic platform config state form present error detail answered
      unfold Gateway.createVideo at answered
      simp only [Bool.not_true, Bool.false_eq_true, if_false] at answered
      cases admitted : state.admission (prepareVideo arithmetic platform config) config form with
      | ok input =>
        rw [admitted] at answered
        cases answered
      | error refusal =>
        rw [admitted] at answered
        obtain ⟨status, body, more⟩ := refusal
        dsimp only at answered
        cases answered
        rcases status_of_admission admitted with listed | ⟨image, same, registered, prepared⟩
        · simp at listed
        · rw [present, Option.some.injEq] at same
          subst same
          have status := status_of_prepareVideo nonempty registered prepared
          cases status

/-- A lossy WebP header of width 0 and height 16. -/
def sampleLossy : Bytes :=
  [0x52, 0x49, 0x46, 0x46, 22, 0, 0, 0, 0x57, 0x45, 0x42, 0x50, 0x56, 0x50, 0x38, 0x20, 10, 0, 0, 0,
    0, 0, 0, 0x9d, 0x01, 0x2a, 0, 0, 16, 0]

theorem not_probes_safely : ¬ ∀ bytes, ProbesSafely bytes := by
  intro safe
  have probed : probeDimensions sampleLossy = .ok (some ⟨0, 16⟩) := by decide +kernel
  have positive := (safe sampleLossy).positive _ probed
  exact absurd positive.1 (by decide)

end InferenceGateway
