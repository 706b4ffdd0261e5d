import InferenceGateway.Domain.Types

/-!
# Configuration and the platform
-/

namespace InferenceGateway

/-- The tunables of `loadConfig` that a modelled function reads. -/
structure Config where
  /-- How long a dispatched job stays owned by a pod without a renewing poll. -/
  leaseTtlMs : Millis
  /-- Upper bound the agent's long-poll is clamped to. -/
  maxPollWaitMs : Millis
  /-- Wall-clock budget from job creation to a terminal state. -/
  jobTtlMs : Millis
  /-- Dispatch attempts before a job is failed rather than requeued, a count. -/
  maxAttempts : Nat
  /-- Grace after DELETE before a running job is force-cancelled. -/
  cancelGraceMs : Millis
  podStaleMs : Millis
  artifactTtlMs : Millis
  jobRetentionMs : Millis
  maxArtifactBytes : Nat
  maxInputBytes : Nat
  /-- Hard ceiling on queued jobs. -/
  maxQueueDepth : Nat

/-- What `loadConfig` returns for an environment that sets none of them. -/
def Config.default : Config where
  leaseTtlMs := 120 * 1000
  maxPollWaitMs := 25 * 1000
  jobTtlMs := 18 * 60 * 1000
  maxAttempts := 2
  cancelGraceMs := 60 * 1000
  podStaleMs := 90 * 1000
  artifactTtlMs := 24 * 3600 * 1000
  jobRetentionMs := 7 * 86400 * 1000
  maxArtifactBytes := 200 * 1024 * 1024
  maxInputBytes := 20 * 1024 * 1024
  maxQueueDepth := 200

/-- What the checks on an uploaded image and its form fields yield. -/
structure PreparedInput where
  extension : String
  sha256 : String
  params : JobParams

/-- What the gateway takes from `node:crypto`: the identifiers `randomUUID` and
`randomBytes` mint, which never repeat, and the hex digest of SHA-256. -/
structure Platform where
  newLeaseId : Nat → String
  newLeaseId_injective : Function.Injective newLeaseId
  newLeaseId_ne_empty : ∀ n, newLeaseId n ≠ ""
  newVideoId : Nat → String
  newVideoId_injective : Function.Injective newVideoId
  sha256 : Bytes → String
  sha256_ne_empty : ∀ bytes, sha256 bytes ≠ ""

/-- The `n + 1`-fold repetition of a character. -/
def tally (c : Char) (n : Nat) : String := String.ofList (List.replicate (n + 1) c)

theorem tally_injective (c : Char) : Function.Injective (tally c) := by
  intro m n same
  have lists := congrArg String.toList same
  simpa [tally] using lists

theorem ofList_cons_ne (c : Char) (rest : List Char) : String.ofList (c :: rest) ≠ "" := by
  intro same
  have lists := congrArg String.toList same
  simp at lists

/-- A platform that counts: its identifiers are tallies, its digest spells the
bytes out. -/
def Platform.counting : Platform where
  newLeaseId := tally 'L'
  newLeaseId_injective := tally_injective 'L'
  newLeaseId_ne_empty n := ofList_cons_ne 'L' (List.replicate n 'L')
  newVideoId := tally 'v'
  newVideoId_injective := tally_injective 'v'
  sha256 bytes := String.ofList ('#' :: bytes.map fun byte => Char.ofNat byte.toNat)
  sha256_ne_empty bytes := ofList_cons_ne '#' (bytes.map fun byte => Char.ofNat byte.toNat)

end InferenceGateway
