import InferenceGateway.Artifacts.Store
import InferenceGateway.Library.PosixPath

/-!
# The paths of stored files

The store builds its paths from strings that pods and clients choose.  The disk
of the model is keyed by job and name instead; `locate` leads from one to the
other, and `link_advance` says that an upload changes no file but those its
calls name.
-/

namespace InferenceGateway

open Library

/-! ### Safe names -/

theorem safeChar_slash : safeChar '/' = false := by decide

/-- A safe filename is one segment of a path. -/
theorem segment_of_safe {name : String} (safe : isSafeFilename name = true) : Segment name := by
  simp only [isSafeFilename, Bool.and_eq_true, decide_eq_true_eq, Bool.not_eq_true',
    List.all_eq_true] at safe
  obtain ⟨⟨⟨nonempty, -⟩, characters⟩, undotted⟩ := safe
  refine ⟨?_, ?_, ?_, fun slash => ?_⟩
  · rintro rfl
    exact absurd nonempty (by decide)
  · rintro rfl
    exact absurd undotted (by decide)
  · rintro rfl
    exact absurd undotted (by decide)
  · cases safeChar_slash.symm.trans (characters _ slash)

/-- The part file of a segment is a segment. -/
theorem segment_partName {filename : String} (whole : '/' ∉ filename.toList) :
    Segment (partName filename) := by
  have text : (partName filename).toList = '.' :: filename.toList ++ ['.', 'p', 'a', 'r', 't'] := by
    rw [partName, String.toList_append, String.toList_append]
    rfl
  have longer {short : String} (bound : short.toList.length < 6) : partName filename ≠ short := by
    rintro rfl
    rw [text, List.length_append, List.length_cons] at bound
    have suffix : ['.', 'p', 'a', 'r', 't'].length = 5 := rfl
    omega
  refine ⟨longer (by decide), longer (by decide), longer (by decide), fun slash => ?_⟩
  rw [text] at slash
  simp [whole] at slash

/-! ### The store -/

structure ArtifactStore where
  inputsDir : String
  artifactsDir : String

/-- `text.startsWith(start)`. -/
def startsWith (text start : String) : Bool := start.toList.isPrefixOf text.toList

namespace ArtifactStore

def new (dataDir : String) : ArtifactStore := ⟨join dataDir "inputs", join dataDir "artifacts"⟩

variable (store : ArtifactStore) (jobId filename : String)

def inputDir : String := join store.inputsDir jobId

/-- `dir` of `writeArtifact`. -/
def artifactDir : String := join store.artifactsDir jobId

def finalPath : String := join (store.artifactDir jobId) filename

def partPath : String := join (store.artifactDir jobId) (partName filename)

/-- Resolve a client-supplied filename inside the artifact directory of a job. -/
def resolveArtifact (cwd : WorkingDirectory) : Option String :=
  if !isSafeFilename jobId || !isSafeFilename filename then none
  else
    let base := resolve cwd (store.artifactDir jobId)
    let candidate := resolve cwd (join base filename)
    if candidate ≠ base && !startsWith candidate (base ++ "/") then none else some candidate

/-- The path of a file of the model's disk. -/
def locate (directory : Root × String) (name : String) : String :=
  match directory.1 with
  | .inputs => join (store.inputDir directory.2) name
  | .artifacts => join (store.artifactDir directory.2) name

end ArtifactStore

/-! ### Resolving -/

section Resolve

open PosixPath

variable {store : ArtifactStore} {jobId filename : String}

/-- The directory of a job is an entry of its root. -/
theorem artifactDir_entry (dataDir : String) (named : Segment jobId) :
    EntryOf (ArtifactStore.new dataDir).artifactsDir
      ((ArtifactStore.new dataDir).artifactDir jobId) :=
  (inner_join dataDir ⟨by decide, by decide, by decide, by decide⟩).entry_join named

theorem inputDir_entry (dataDir : String) (named : Segment jobId) :
    EntryOf (ArtifactStore.new dataDir).inputsDir ((ArtifactStore.new dataDir).inputDir jobId) :=
  (inner_join dataDir ⟨by decide, by decide, by decide, by decide⟩).entry_join named

/-- The base of a safe job, and the candidate below it. -/
theorem parse_candidate (cwd : WorkingDirectory) (named : Segment filename) :
    parse (resolve cwd (join (resolve cwd (store.artifactDir jobId)) filename)) =
      (parse (resolve cwd (store.artifactDir jobId))).child filename named := by
  rw [resolve_join cwd _ named, resolve_resolve]

theorem inner_base (cwd : WorkingDirectory) (job : Segment jobId) :
    Inner (resolve cwd (store.artifactDir jobId)) := by
  refine .resolve cwd ?_
  rw [ArtifactStore.artifactDir, resolve_join cwd _ job]
  exact List.cons_ne_nil _ _

/-- What a client is served is the file that was renamed into place. -/
theorem candidate_eq (cwd : WorkingDirectory) (named : Segment filename) :
    resolve cwd (join (resolve cwd (store.artifactDir jobId)) filename) =
      resolve cwd (store.finalPath jobId filename) := by
  rw [← toString_parse_resolve cwd, parse_candidate cwd named, ← resolve_join cwd _ named,
    toString_parse_resolve]
  rfl

theorem finalPath_eq (cwd : WorkingDirectory) (job : Segment jobId) (named : Segment filename) :
    resolve cwd (store.finalPath jobId filename) =
      resolve cwd (store.artifactDir jobId) ++ "/" ++ filename := by
  have inner : Inner (resolve cwd (store.artifactDir jobId)) := inner_base cwd job
  rw [ArtifactStore.finalPath, ← toString_parse_resolve cwd, resolve_join cwd _ named,
    toString_child _ named inner.stack, toString_parse_resolve]

theorem startsWith_append (text rest : String) : startsWith (text ++ rest) text = true := by
  rw [startsWith, String.toList_append]
  exact List.isPrefixOf_iff_prefix.mpr (List.prefix_append _ _)

theorem resolveArtifact_eq (store : ArtifactStore) (cwd : WorkingDirectory)
    (job : isSafeFilename jobId = true) (name : isSafeFilename filename = true) :
    store.resolveArtifact jobId filename cwd = some (resolve cwd (store.finalPath jobId filename)) := by
  have candidate : resolve cwd (join (resolve cwd (store.artifactDir jobId)) filename) =
      resolve cwd (store.finalPath jobId filename) := candidate_eq cwd (segment_of_safe name)
  have inside : startsWith (resolve cwd (store.finalPath jobId filename))
      (resolve cwd (store.artifactDir jobId) ++ "/") = true := by
    rw [finalPath_eq cwd (segment_of_safe job) (segment_of_safe name)]
    exact startsWith_append _ _
  unfold ArtifactStore.resolveArtifact
  rw [job, name, if_neg (by decide)]
  dsimp only
  rw [candidate, inside, Bool.not_true, Bool.and_false]
  rfl

/-- Nothing is served but an entry of the directory of the job. -/
theorem entry_of_resolveArtifact {cwd : WorkingDirectory} {path : String}
    (resolved : store.resolveArtifact jobId filename cwd = some path) :
    EntryOf (resolve cwd (store.artifactDir jobId)) path ∧
      path = resolve cwd (store.finalPath jobId filename) := by
  have safe : isSafeFilename jobId = true ∧ isSafeFilename filename = true := by
    unfold ArtifactStore.resolveArtifact at resolved
    split at resolved
    · cases resolved
    · next safe => simpa using safe
  rw [resolveArtifact_eq _ cwd safe.1 safe.2] at resolved
  obtain rfl := Option.some.inj resolved
  have name := segment_of_safe safe.2
  exact ⟨⟨filename, name, finalPath_eq cwd (segment_of_safe safe.1) name⟩, rfl⟩

theorem ne_of_entry {directory path : String} (entry : EntryOf directory path) :
    path ≠ directory := by
  obtain ⟨name, named, rfl⟩ := entry
  intro same
  have lengths := congrArg String.length same
  simp only [String.length_append] at lengths
  have slash : "/".length = 1 := rfl
  omega

/-- Over an absolute data directory the paths are the same text. -/
theorem resolve_of_absolute (cwd : WorkingDirectory) {dataDir : String}
    (absolute : isAbsolute dataDir = true) (job : Segment jobId) (named : Segment filename) :
    resolve cwd ((ArtifactStore.new dataDir).finalPath jobId filename) =
      (ArtifactStore.new dataDir).finalPath jobId filename := by
  have artifacts : Segment "artifacts" := ⟨by decide, by decide, by decide, by decide⟩
  have rooted : isAbsolute ((ArtifactStore.new dataDir).finalPath jobId filename) = true := by
    change (parse (join (join (join dataDir "artifacts") jobId) filename)).absolute = true
    rw [parse_join _ named, child, parse_join _ job, child, parse_join _ artifacts]
    exact absolute
  rw [resolve, if_pos rooted]
  exact normalize_join _ _

end Resolve

/-! ### The calls of an upload -/

/-- A call to the file system, with the paths it is given. -/
inductive FileCall where
  | mkdir (path : String)
  | createWriteStream (path : String)
  | rename (source target : String)
  /-- `rm` of one file. -/
  | unlink (path : String)
  /-- `rm` of a directory and everything in it. -/
  | removeTree (path : String)
  deriving DecidableEq

/-- What a turn of an upload asks of the file system; the chunks of the body go to
a stream that is open already. -/
def Upload.calls (store : ArtifactStore) (upload : Upload) (event : Event) : List FileCall :=
  match upload.phase, event with
  | .making, .proceed => [.mkdir (store.artifactDir upload.job)]
  | .opening, .proceed => [.createWriteStream (store.partPath upload.job upload.filename)]
  | .failing _, .proceed => [.unlink (store.partPath upload.job upload.filename)]
  | .renaming, .proceed =>
    [.rename (store.partPath upload.job upload.filename)
      (store.finalPath upload.job upload.filename)]
  | .removing, .proceed =>
    [.removeTree (store.inputDir upload.job), .removeTree (store.artifactDir upload.job)]
  | _, _ => []

namespace FileCall

/-- The call may change the file at the path. -/
def Reaches (path : String) : FileCall → Prop
  | mkdir _ => False
  | createWriteStream opened => path = opened
  | rename source target => path = source ∨ path = target
  | unlink removed => path = removed
  | removeTree directory => ∃ name, path = join directory name

/-- The call opens, renames and removes entries of the artifact directory of the job,
or removes a whole directory of the job. -/
def Within (store : ArtifactStore) (jobId : String) : FileCall → Prop
  | mkdir path => path = store.artifactDir jobId
  | createWriteStream path => EntryOf (store.artifactDir jobId) path
  | rename source target =>
    EntryOf (store.artifactDir jobId) source ∧ EntryOf (store.artifactDir jobId) target
  | unlink path => EntryOf (store.artifactDir jobId) path
  | removeTree path => path = store.inputDir jobId ∨ path = store.artifactDir jobId

end FileCall

/-- A turn of an upload changes no file but those its calls reach. -/
theorem link_advance {platform : Platform} {maxBytes : Nat} {now : Millis} {upload : Upload}
    {event : Event} {disk disk' : Disk} {result : UploadResult} (store : ArtifactStore)
    (step : UploadStep platform maxBytes now upload disk disk' event result)
    (directory : Root × String) (name : String)
    (changed : disk'.link directory name ≠ disk.link directory name) :
    ∃ call ∈ upload.calls store event, call.Reaches (store.locate directory name) := by
  cases step with
  | made phase after => exact absurd (by rw [after, FileSystem.link_mkdir]) changed
  | opened phase after =>
    simp only [Upload.calls, phase, List.mem_singleton, exists_eq_left]
    by_cases here : directory = upload.dir ∧ name = partName upload.filename
    · obtain ⟨rfl, rfl⟩ := here
      rfl
    · rw [(FileSystem.openTruncate_spec after).1, if_neg here] at changed
      exact absurd rfl changed
  | wrote _ _ after | overflowed _ _ after => exact absurd (by rw [after]; rfl) changed
  | unopened _ after | ended _ after | broke _ after | unrenamed _ after | mismatched _ _ after
  | stored _ _ after => exact absurd (by rw [after]) changed
  | failed phase after =>
    simp only [Upload.calls, phase, List.mem_singleton, exists_eq_left]
    by_cases here : directory = upload.dir ∧ name = partName upload.filename
    · obtain ⟨rfl, rfl⟩ := here
      rfl
    · rw [after, FileSystem.link_unlink, if_neg here] at changed
      exact absurd rfl changed
  | renamed phase after =>
    simp only [Upload.calls, phase, List.mem_singleton, exists_eq_left]
    obtain ⟨inode, -, links, -⟩ := FileSystem.rename_spec after
    by_cases target : directory = upload.dir ∧ name = upload.filename
    · obtain ⟨rfl, rfl⟩ := target
      exact .inr rfl
    · by_cases source : directory = upload.dir ∧ name = partName upload.filename
      · obtain ⟨rfl, rfl⟩ := source
        exact .inl rfl
      · rw [links, if_neg target, if_neg source] at changed
        exact absurd rfl changed
  | removed phase after =>
    simp only [Upload.calls, phase]
    by_cases input : directory = (.inputs, upload.job)
    · subst input
      exact ⟨_, .head _, name, rfl⟩
    · by_cases artifact : directory = (.artifacts, upload.job)
      · subst artifact
        exact ⟨_, .tail _ (.head _), name, rfl⟩
      · rw [after, Disk.removeJob, FileSystem.link_removeTree, if_neg artifact,
          FileSystem.link_removeTree, if_neg input] at changed
        exact absurd rfl changed

/-- The calls of an upload with a safe filename stay within the directories of its job. -/
theorem within_calls {store : ArtifactStore} {upload : Upload} {event : Event} (job : Segment upload.job)
    (safe : isSafeFilename upload.filename = true) :
    ∀ call ∈ upload.calls store event, call.Within store upload.job := by
  have name := segment_of_safe safe
  have directory : Inner (store.artifactDir upload.job) := inner_join _ job
  have part := directory.entry_join (segment_partName name.whole)
  have final := directory.entry_join name
  unfold Upload.calls
  split
  · exact List.forall_mem_singleton.mpr rfl
  · exact List.forall_mem_singleton.mpr part
  · exact List.forall_mem_singleton.mpr part
  · exact List.forall_mem_singleton.mpr ⟨part, final⟩
  · exact List.forall_mem_cons.mpr ⟨.inl rfl, List.forall_mem_singleton.mpr (.inr rfl)⟩
  · nofun

end InferenceGateway
