import InferenceGateway.Domain.Types

/-!
# The closed model registry

A client or pod names a model; the name is matched against this table by its
last path segment and never used as a path.
-/

namespace InferenceGateway

structure ModelDefaults where
  seconds : ℚ
  numInferenceSteps : Int
  guidanceScale : ℚ

structure ModelLimits where
  maxSeconds : ℚ
  maxSteps : Int

structure ModelSpec where
  endpoint : String
  task : String
  resolutions : List Resolution
  defaults : ModelDefaults
  limits : ModelLimits
  negativePrompt : String
  maxPromptChars : Nat

def wan22NegativePrompt : String :=
  "色调艳丽，过曝，静态，细节模糊不清，字幕，风格，作品，画作，画面，静止，整体发灰，最差质量，" ++
  "低质量，JPEG压缩残留，丑陋的，残缺的，多余的手指，画得不好的手部，画得不好的脸部，畸形的，" ++
  "毁容的，形态畸形的肢体，手指融合，静止不动的画面，杂乱的背景，三条腿，背景人很多，倒着走"

/-- `MODELS`. -/
def models : List (String × ModelSpec) :=
  [("Wan-AI/Wan2.2-I2V-A14B-Diffusers", {
      endpoint := "/v1/videos"
      task := "i2v"
      resolutions := [.p480, .p720]
      defaults := { seconds := 5, numInferenceSteps := 4, guidanceScale := 1 }
      limits := { maxSeconds := 10, maxSteps := 12 }
      negativePrompt := wan22NegativePrompt
      maxPromptChars := 2000 })]

def modelNames : List String := models.map Prod.fst

/-- The last non-empty path segment in lower case.  Only ASCII letters are
folded: no other letter lower-cases to a character of a registered key. -/
def modelKey (path : String) : String :=
  let segments := (path.toList.splitOn '/').filter (· ≠ [])
  String.ofList ((segments.getLastD []).map Char.toLower)

/-- Canonical registry id for a client- or pod-supplied name, or none. -/
def resolveModelId (name : Option String) : Option String :=
  match name with
  | none => none
  | some name =>
    if name = "" then none
    else if name ∈ modelNames then some name
    else
      let key := modelKey name
      if key = "" then none else modelNames.find? fun id => modelKey id = key

def getModel (name : Option String) : Option ModelSpec :=
  (resolveModelId name).bind fun id => models.lookup id

/-- The model a pod serves: derived from what it loaded, never stored. -/
def Pod.model (pod : Pod) : Option String := resolveModelId pod.modelPath

def clamp {Number : Type} [LinearOrder Number] (value lower upper : Number) : Number :=
  min (max value lower) upper

theorem resolveModelId_mem {name : Option String} {id : String}
    (resolved : resolveModelId name = some id) : id ∈ modelNames := by
  unfold resolveModelId at resolved
  split at resolved
  · simp at resolved
  · next text =>
    split at resolved
    · simp at resolved
    · split at resolved
      · next registered => exact Option.some.inj resolved ▸ registered
      · simp only at resolved
        split at resolved
        · simp at resolved
        · exact List.mem_of_find?_eq_some resolved

/-- A registered id resolves to itself. -/
theorem resolveModelId_of_mem {id : String} (registered : id ∈ modelNames) :
    resolveModelId (some id) = some id := by
  have nonempty : id ≠ "" := by
    rintro rfl
    revert registered
    decide
  simp [resolveModelId, nonempty, registered]

theorem getModel_isSome_of_mem {id : String} (registered : id ∈ modelNames) :
    (getModel (some id)).isSome := by
  rw [getModel, resolveModelId_of_mem registered]
  simp only [modelNames, models, List.map_cons, List.map_nil, List.mem_singleton] at registered
  subst registered
  simp [models]

example : resolveModelId (some "/workspace/models/Wan2.2-I2V-A14B-Diffusers") =
    some "Wan-AI/Wan2.2-I2V-A14B-Diffusers" := by decide +kernel

end InferenceGateway
