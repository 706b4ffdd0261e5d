import Mathlib.Data.Rat.Floor
import Mathlib.Algebra.Order.Floor.Ring

/-!
# Wire and storage types

The rows of the three tables with their JSON columns decoded, and the values
that arrive from outside.  Timestamps are milliseconds since the epoch; a
JavaScript number that need not be an integer is a rational.
-/

namespace InferenceGateway

abbrev Millis := Int

abbrev Bytes := List UInt8

/-- What a handler can tell about a value of type `unknown`: `structured`
stands for every array and object. -/
inductive Value where
  | undefined
  | null
  | boolean (flag : Bool)
  | number (value : ℚ)
  | string (text : String)
  | structured
  deriving DecidableEq

/-- `str`: a non-empty string, or nothing. -/
def Value.str : Value → Option String
  | .string text => if text = "" then none else some text
  | _ => none

theorem Value.eq_of_str {value : Value} {text : String} (same : value.str = some text) :
    value = .string text := by
  unfold Value.str at same
  split at same
  · split at same <;> cases same
    rfl
  · cases same

/-- `Math.round`. -/
def mathRound (value : ℚ) : Int := ⌊value + 1 / 2⌋

/-- `VIDEO_STATUSES`: the five states a client may see. -/
inductive VideoStatus where
  | queued
  | inProgress
  | completed
  | failed
  | cancelled
  deriving DecidableEq, Repr

/-- `isTerminal`: membership in `TERMINAL_STATES`. -/
def VideoStatus.isTerminal : VideoStatus → Bool
  | .completed | .failed | .cancelled => true
  | .queued | .inProgress => false

theorem isTerminal_iff {state : VideoStatus} :
    state.isTerminal = true ↔ state = .completed ∨ state = .failed ∨ state = .cancelled := by
  cases state <;> simp [VideoStatus.isTerminal]

inductive Resolution where
  | p480
  | p720
  deriving DecidableEq, Repr

/-- Client-supplied generation parameters, after validation and clamping. -/
structure JobParams where
  prompt : String
  negativePrompt : String
  resolution : Resolution
  size : String
  seconds : ℚ
  numInferenceSteps : Int
  guidanceScale : ℚ
  seed : Option Int
  deriving DecidableEq

structure Artifact where
  mediaType : String
  filename : String
  bytes : Option ℚ
  sha256 : Option String
  deriving DecidableEq

/-- The two directories under `dataDir`. -/
inductive Root where
  | inputs
  | artifacts
  deriving DecidableEq, Repr

/-- The file `<dataDir>/<root>/<job>/<name>`. -/
structure DiskPath where
  root : Root
  job : String
  name : String
  deriving DecidableEq

/-- A row of the `jobs` table. -/
structure Job where
  id : String
  model : String
  params : JobParams
  inputPath : Option DiskPath
  inputSha256 : Option String
  inputBytes : Option Nat
  state : VideoStatus
  progress : ℚ
  error : Option String
  artifacts : List Artifact
  podId : Option String
  leaseId : Option String
  leaseExpiresAt : Option Millis
  upstreamId : Option String
  attempts : Nat
  cancelRequested : Bool
  cancelRequestedAt : Option Millis
  createdAt : Millis
  startedAt : Option Millis
  finishedAt : Option Millis
  deadlineAt : Millis
  deriving DecidableEq

inductive JobEventKind where
  | created
  | assigned
  | progress
  | uploaded
  | completed
  | failed
  | requeued
  | leaseExpired
  | deadlineExceeded
  | cancelRequested
  | cancelled
  | recovered
  deriving DecidableEq, Repr

/-- A row of the append-only `job_events` table. -/
structure JobEvent where
  jobId : String
  ts : Millis
  kind : JobEventKind
  podId : Option String
  detail : Option String
  deriving DecidableEq

/-- A row of the `pods` table. -/
structure Pod where
  podId : String
  sessionId : String
  firstSeenAt : Millis
  lastSeenAt : Millis
  agentVersion : Option String
  modelPath : Option String
  loraPath : Option String
  gpu : Option String
  maxInFlight : Nat
  sglangReady : Bool
  draining : Bool
  jobsCompleted : Nat
  jobsFailed : Nat
  deriving DecidableEq

/-- The first `n` UTF-16 units.  The database has the replacement character for half a pair. -/
def takeUnits : List Char → Nat → List Char
  | [], _ => []
  | c :: rest, n =>
    if n = 0 then []
    else if c.val < 0x10000 then c :: takeUnits rest (n - 1)
    else if n = 1 then ['\ufffd']
    else c :: takeUnits rest (n - 2)

/-- `slice(0, n)` of a string that is stored. -/
def sliceText (text : String) (n : Nat) : String := String.ofList (takeUnits text.toList n)

example : sliceText "a𝄞b" 2 = "a\ufffd" := by decide +kernel

/-- The characters `String.prototype.trim` strips. -/
def isTrimmed (c : Char) : Bool :=
  c.isWhitespace || c == '\u000b' || c == '\u000c' || c == '\u00a0' || c == '\ufeff' ||
    c == '\u1680' || ('\u2000' ≤ c && c ≤ '\u200a') || c == '\u2028' || c == '\u2029' ||
    c == '\u202f' || c == '\u205f' || c == '\u3000'

def trim (text : String) : String :=
  String.ofList (((text.toList.dropWhile isTrimmed).reverse.dropWhile isTrimmed).reverse)

end InferenceGateway
