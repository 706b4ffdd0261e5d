import InferenceGateway.Domain.Types
import InferenceGateway.Library.Binary64

/-!
# Job row to client JSON

Timestamps are unix seconds and `progress` is an integer percentage, though it
is stored as a fraction.
-/

namespace InferenceGateway

open Library

structure VideoError where
  code : String
  message : String
  deriving DecidableEq

structure VideoResponse where
  id : String
  object : String
  model : String
  status : VideoStatus
  progress : Int
  createdAt : Int
  completedAt : Option Int
  expiresAt : Option Int
  size : String
  seconds : ℚ
  error : Option VideoError
  podId : Option String
  attempts : Nat
  queuePosition : Option Nat
  deriving DecidableEq

/-- `Math.floor(ms / 1000)`. -/
def seconds (ms : Millis) : Int := ms / 1000

def toVideoResponse (job : Job) (queuePosition : Option Nat) (artifactTtlMs : Millis) :
    VideoResponse where
  id := job.id
  object := "video"
  model := job.model
  status := job.state
  progress := mathRound (Binary64.nearest (job.progress * 100))
  createdAt := seconds job.createdAt
  completedAt := job.finishedAt.map seconds
  expiresAt :=
    if job.state = .completed then job.finishedAt.map fun ms => seconds (ms + artifactTtlMs)
    else none
  size := job.params.size
  seconds := job.params.seconds
  error := (job.error.filter (· ≠ "")).map fun message => ⟨"generation_failed", message⟩
  podId := job.podId
  attempts := job.attempts
  queuePosition := queuePosition

theorem seconds_mono {first second : Millis} (le : first ≤ second) :
    seconds first ≤ seconds second :=
  Int.ediv_le_ediv (by decide) le

/-- A fraction becomes a whole percentage, whatever the product rounds to. -/
theorem progress_toVideoResponse {job : Job} (nonneg : 0 ≤ job.progress)
    (le_one : job.progress ≤ 1) (queuePosition : Option Nat) (artifactTtlMs : Millis) :
    0 ≤ (toVideoResponse job queuePosition artifactTtlMs).progress ∧
      (toVideoResponse job queuePosition artifactTtlMs).progress ≤ 100 := by
  have small : |job.progress * 100| < 2 ^ 53 := by
    rw [abs_lt]
    constructor <;> linarith
  have lower : ((0 : ℤ) : ℚ) ≤ Binary64.nearest (job.progress * 100) :=
    Binary64.intCast_le_nearest small (by push_cast; linarith)
  have upper : Binary64.nearest (job.progress * 100) ≤ ((100 : ℤ) : ℚ) :=
    Binary64.nearest_le_intCast small (by push_cast; linarith)
  push_cast at lower upper
  constructor
  · exact Int.le_floor.mpr (by push_cast; linarith)
  · exact Int.lt_add_one_iff.mp (Int.floor_lt.mpr (by push_cast; linarith))

theorem progress_toVideoResponse_eq {job : Job} (percent : ℤ) (small : |percent| < 2 ^ 53)
    (exact_progress : job.progress * 100 = percent) (queuePosition : Option Nat)
    (artifactTtlMs : Millis) :
    (toVideoResponse job queuePosition artifactTtlMs).progress = percent := by
  simp only [toVideoResponse, exact_progress, Binary64.nearest_intCast small, mathRound]
  rw [Int.floor_intCast_add]
  norm_num

end InferenceGateway
