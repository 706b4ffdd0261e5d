import InferenceGateway.Library.FileSystem
import InferenceGateway.Config
import InferenceGateway.Db.Jobs
import InferenceGateway.Domain.Errors
import InferenceGateway.Domain.Filenames

/-!
# On-disk storage for inputs and generated media

`writeArtifact` suspends at every file operation and at every chunk of the
body, so an upload is a small state machine: `Upload.advance` runs it from one
suspension to the next.
-/

namespace InferenceGateway

open Library

/-- `<dataDir>/<root>/<job>` is a directory, its files are names. -/
abbrev Disk := FileSystem (Root × String) String UInt8

namespace Disk

/-- `removeJob`; the two trees are disjoint and removed together. -/
def removeJob (disk : Disk) (jobId : String) : Disk :=
  (disk.removeTree (.inputs, jobId)).removeTree (.artifacts, jobId)

def removeInput (disk : Disk) (jobId : String) : Disk := disk.removeTree (.inputs, jobId)

/-- `writeFile` into the inputs directory of a job. -/
def writeInput (disk : Disk) (path : DiskPath) (bytes : Bytes) (now : Millis) : Option Disk :=
  (disk.openTruncate (path.root, path.job) path.name now).map fun (inode, opened) =>
    opened.write 0 inode 0 bytes

end Disk

def inputPath (jobId extension : String) : DiskPath := ⟨.inputs, jobId, "input." ++ extension⟩

/-- The name an upload is streamed to before it is renamed into place. -/
def partName (filename : String) : String := "." ++ filename ++ ".part"

theorem partName_ne (filename : String) : partName filename ≠ filename := by
  intro same
  have lengths := congrArg String.length same
  simp only [partName, String.length_append] at lengths
  have dot : ".".length = 1 := rfl
  omega

/-- Where an upload is suspended. -/
inductive UploadPhase where
  /-- Before `mkdir`. -/
  | making
  /-- Before the part file is opened. -/
  | opening
  /-- Waiting for the body, with the part file open. -/
  | streaming (inode : Nat)
  /-- Before the part file of a failed stream is removed. -/
  | failing (tooLarge : Bool)
  /-- Before the rename into place. -/
  | renaming
  /-- Renamed; the checksum has not been compared yet. -/
  | comparing
  /-- Before the job's directories are removed after a mismatch. -/
  | removing
  deriving DecidableEq

/-- A running upload: what the route keeps in its closure. -/
structure Upload where
  job : String
  podId : Option String
  /-- The lease the route was called with. -/
  leaseId : String
  filename : String
  /-- The `x-content-sha256` header. -/
  expected : Option String
  /-- The bytes hashed so far. -/
  received : Bytes
  phase : UploadPhase

/-- What resumes a suspended handler: a finished file operation, or the body of
its request delivering a chunk, ending or breaking off. -/
inductive Event where
  | proceed
  | chunk (bytes : Bytes)
  | finish
  | abort
  deriving DecidableEq

/-- How an upload continues, or what it answered. -/
inductive UploadResult where
  | suspended (upload : Upload)
  | stored
  | rejected (status : Nat) (error : ApiError)

def artifactTooLarge (maxBytes : Nat) : ApiError :=
  apiError 413 ("artifact exceeds " ++ toString maxBytes ++ " bytes")
    (some "artifact_too_large") none

def checksumMismatch : ApiError :=
  apiError 400 "artifact sha256 mismatch" (some "checksum_mismatch") none

namespace Upload

def dir (upload : Upload) : Root × String := (.artifacts, upload.job)

/-- The header names a digest other than that of the bytes received. -/
def mismatches (platform : Platform) (upload : Upload) : Bool :=
  match upload.expected.filter (· ≠ "") with
  | some expected => expected != platform.sha256 upload.received
  | none => false

/-- Run the upload up to its next suspension; `none` where the event cannot
occur. -/
def advance (platform : Platform) (maxBytes : Nat) (now : Millis) (upload : Upload)
    (event : Event) (disk : Disk) : Option (UploadResult × Disk) :=
  match upload.phase, event with
  | .making, .proceed =>
    some (.suspended { upload with phase := .opening }, disk.mkdir upload.dir now)
  | .opening, .proceed =>
    match disk.openTruncate upload.dir (partName upload.filename) now with
    | some (inode, opened) => some (.suspended { upload with phase := .streaming inode }, opened)
    | none => some (.suspended { upload with phase := .failing false }, disk)
  | .streaming inode, .chunk bytes =>
    let received := upload.received ++ bytes
    -- The source that is destroyed over the cap still hands this chunk to the write stream.
    let written := disk.write 0 inode upload.received.length bytes
    if received.length > maxBytes then
      some (.suspended { upload with received := received, phase := .failing true }, written)
    else some (.suspended { upload with received := received }, written)
  | .streaming _, .finish => some (.suspended { upload with phase := .renaming }, disk)
  | .streaming _, .abort => some (.suspended { upload with phase := .failing false }, disk)
  | .failing tooLarge, .proceed =>
    some (if tooLarge then .rejected 413 (artifactTooLarge maxBytes)
        else .rejected 500 internalError,
      disk.unlink upload.dir (partName upload.filename) now)
  | .renaming, .proceed =>
    match disk.rename upload.dir (partName upload.filename) upload.filename now with
    | some renamed => some (.suspended { upload with phase := .comparing }, renamed)
    | none => some (.rejected 500 internalError, disk)
  | .comparing, .proceed =>
    if upload.mismatches platform then
      some (.suspended { upload with phase := .removing }, disk)
    else some (.stored, disk)
  | .removing, .proceed => some (.rejected 400 checksumMismatch, disk.removeJob upload.job)
  | _, _ => none

end Upload

/-! ### One turn of an upload -/

/-- The turns of an upload. -/
inductive UploadStep (platform : Platform) (maxBytes : Nat) (now : Millis) (upload : Upload)
    (disk disk' : Disk) : Event → UploadResult → Prop where
  | made (phase : upload.phase = .making) (after : disk' = disk.mkdir upload.dir now) :
      UploadStep platform maxBytes now upload disk disk' .proceed
        (.suspended { upload with phase := .opening })
  | opened {inode : Nat} (phase : upload.phase = .opening)
      (after : disk.openTruncate upload.dir (partName upload.filename) now = some (inode, disk')) :
      UploadStep platform maxBytes now upload disk disk' .proceed
        (.suspended { upload with phase := .streaming inode })
  | unopened (phase : upload.phase = .opening) (after : disk' = disk)
      (closed : disk.openTruncate upload.dir (partName upload.filename) now = none) :
      UploadStep platform maxBytes now upload disk disk' .proceed
        (.suspended { upload with phase := .failing false })
  | wrote {inode : Nat} (bytes : Bytes) (phase : upload.phase = .streaming inode)
      (after : disk' = disk.write 0 inode upload.received.length bytes)
      (fits : (upload.received ++ bytes).length ≤ maxBytes) :
      UploadStep platform maxBytes now upload disk disk' (.chunk bytes)
        (.suspended { upload with received := upload.received ++ bytes })
  | overflowed {inode : Nat} (bytes : Bytes) (phase : upload.phase = .streaming inode)
      (after : disk' = disk.write 0 inode upload.received.length bytes)
      (exceeds : maxBytes < (upload.received ++ bytes).length) :
      UploadStep platform maxBytes now upload disk disk' (.chunk bytes)
        (.suspended { upload with
          received := upload.received ++ bytes
          phase := .failing true })
  | ended {inode : Nat} (phase : upload.phase = .streaming inode) (after : disk' = disk) :
      UploadStep platform maxBytes now upload disk disk' .finish
        (.suspended { upload with phase := .renaming })
  | broke {inode : Nat} (phase : upload.phase = .streaming inode) (after : disk' = disk) :
      UploadStep platform maxBytes now upload disk disk' .abort
        (.suspended { upload with phase := .failing false })
  | failed {tooLarge : Bool} {status : Nat} {error : ApiError}
      (phase : upload.phase = .failing tooLarge)
      (after : disk' = disk.unlink upload.dir (partName upload.filename) now) :
      UploadStep platform maxBytes now upload disk disk' .proceed (.rejected status error)
  | renamed (phase : upload.phase = .renaming)
      (after : disk.rename upload.dir (partName upload.filename) upload.filename now =
        some disk') :
      UploadStep platform maxBytes now upload disk disk' .proceed
        (.suspended { upload with phase := .comparing })
  | unrenamed {status : Nat} {error : ApiError} (phase : upload.phase = .renaming)
      (after : disk' = disk)
      (missing : disk.rename upload.dir (partName upload.filename) upload.filename now = none) :
      UploadStep platform maxBytes now upload disk disk' .proceed (.rejected status error)
  | mismatched (phase : upload.phase = .comparing) (wrong : upload.mismatches platform = true)
      (after : disk' = disk) :
      UploadStep platform maxBytes now upload disk disk' .proceed
        (.suspended { upload with phase := .removing })
  | stored (phase : upload.phase = .comparing) (right : upload.mismatches platform = false)
      (after : disk' = disk) :
      UploadStep platform maxBytes now upload disk disk' .proceed .stored
  | removed {status : Nat} {error : ApiError} (phase : upload.phase = .removing)
      (after : disk' = disk.removeJob upload.job) :
      UploadStep platform maxBytes now upload disk disk' .proceed (.rejected status error)

theorem uploadStep {platform : Platform} {maxBytes : Nat} {now : Millis} {upload : Upload} {event : Event}
    {disk disk' : Disk} {result : UploadResult}
    (advanced : upload.advance platform maxBytes now event disk = some (result, disk')) :
    UploadStep platform maxBytes now upload disk disk' event result := by
  unfold Upload.advance at advanced
  split at advanced
  · next phase =>
    cases advanced
    exact .made phase rfl
  · next phase =>
    split at advanced
    · next opened =>
      cases advanced
      exact .opened phase opened
    · next closed =>
      cases advanced
      exact .unopened phase rfl closed
  · next inode bytes phase =>
    dsimp only at advanced
    split at advanced
    · next exceeds =>
      cases advanced
      exact .overflowed bytes phase rfl exceeds
    · next fits =>
      cases advanced
      exact .wrote bytes phase rfl (Nat.le_of_not_lt fits)
  · next phase =>
    cases advanced
    exact .ended phase rfl
  · next phase =>
    cases advanced
    exact .broke phase rfl
  · next tooLarge phase =>
    cases tooLarge <;> cases advanced <;> exact .failed phase rfl
  · next phase =>
    split at advanced
    · next renamed =>
      cases advanced
      exact .renamed phase renamed
    · next missing =>
      cases advanced
      exact .unrenamed phase rfl missing
  · next phase =>
    split at advanced
    · next wrong =>
      cases advanced
      exact .mismatched phase wrong rfl
    · next right =>
      cases advanced
      exact .stored phase (by simpa using right) rfl
  · next phase =>
    cases advanced
    exact .removed phase rfl
  · cases advanced

end InferenceGateway
