import InferenceGateway.Runs.Disks

/-!
# Part files

All uploads of a job share one part file.  As long as none is opened while
another upload of the job has it open, the file holds what the upload that
opened it has received, under whatever name it was moved to.
-/

namespace InferenceGateway

open Library

variable {platform : Platform} {prepare : Prepare} {config : Config} {t : GatewayTransition}

/-- The name agents upload their media under. -/
def outputName : String := "output.mp4"

/-- The upload has its part file open, or is about to rename it. -/
def Upload.opened (upload : Upload) : Bool :=
  match upload.phase with
  | .streaming _ | .renaming => true
  | _ => false

def Task.upload? : Task → Option Upload
  | .upload running => some running
  | _ => none

/-- The upload a step lets run on. -/
def turningUpload (t : GatewayTransition) : Option Upload :=
  match t.action with
  | .advance token _ => (t.pre.tasks.lookup token).bind Task.upload?
  | _ => none

/-- The running uploads. -/
def Gateway.uploads (state : Gateway) : List Upload :=
  state.tasks.entries.filterMap fun entry => entry.2.upload?

/-- The step opens the part file of a job that another upload has open. -/
def sharesPart (t : GatewayTransition) : Bool :=
  (turningUpload t).any fun upload => upload.phase = .opening &&
    t.pre.uploads.any fun other => other.job = upload.job && other.opened

theorem mem_uploads {state : Gateway} {k : Nat} {upload : Upload}
    (running : state.tasks.lookup k = some (.upload upload)) : upload ∈ state.uploads := by
  rw [Gateway.uploads, List.mem_filterMap]
  exact ⟨⟨k, .upload upload⟩, AList.mem_lookup_iff.mp running, rfl⟩

theorem turningUpload_eq {token : Nat} {event : Event} {upload : Upload}
    (action : t.action = .advance token event)
    (running : t.pre.tasks.lookup token = some (.upload upload)) :
    turningUpload t = some upload := by
  unfold turningUpload
  rw [action]
  dsimp only
  rw [running]
  rfl

theorem opened_of_streaming {upload : Upload} {inode : Nat}
    (phase : upload.phase = .streaming inode) : upload.opened = true := by
  rw [Upload.opened, phase]

theorem opened_of_renaming {upload : Upload} (phase : upload.phase = .renaming) :
    upload.opened = true := by
  rw [Upload.opened, phase]

/-! ### One upload -/

/-- What the disk holds for an upload. -/
structure PartFile (disk : Disk) (upload : Upload) : Prop where
  waiting : upload.phase = .making ∨ upload.phase = .opening → upload.received = []
  streaming : ∀ i, upload.phase = .streaming i →
    i < disk.inodes ∧ disk.content i = upload.received ∧
      (∀ d n, disk.link d n = some i → d = upload.dir ∧ n = partName outputName) ∧
      ∀ j, disk.link upload.dir (partName outputName) = some j → j = i
  moving : upload.phase = .renaming → ∀ i,
    disk.link upload.dir (partName outputName) = some i → disk.content i = upload.received

namespace PartFile

variable {disk disk' : Disk} {upload : Upload}

/-- Nothing is asked of the disk before the part file is opened and after it is renamed. -/
theorem of_closed (closed : upload.opened = false)
    (waiting : upload.phase = .making ∨ upload.phase = .opening → upload.received = []) :
    PartFile disk upload where
  waiting := waiting
  streaming i phase := by
    rw [opened_of_streaming phase] at closed
    cases closed
  moving phase := by
    rw [opened_of_renaming phase] at closed
    cases closed

theorem within {p : Root × String → Prop} (file : PartFile disk upload)
    (within : FileSystem.Within p disk disk') (outside : ¬ p upload.dir) :
    PartFile disk' upload := by
  refine ⟨file.waiting, fun i phase => ?_, fun phase i linked => ?_⟩
  · obtain ⟨allocated, content, only, own⟩ := file.streaming i phase
    refine ⟨allocated.trans_le within.inodes, ?_, fun d n linked => ?_, fun j linked => ?_⟩
    · rw [within.contents i allocated, content]
      rintro d n inside linked
      exact outside ((only d n linked).1 ▸ inside)
    · rcases within.targets d n i linked with same | new | ⟨d₀, n₀, inside, earlier⟩
      · exact only d n same
      · omega
      · exact absurd ((only d₀ n₀ earlier).1 ▸ inside) outside
    · rw [within.links _ _ outside] at linked
      exact own j linked
  · rw [within.links _ _ outside] at linked
    rw [within.contents i (disk.link_allocated _ _ _ linked), file.moving phase i linked]
    rintro d n inside linked'
    exact outside ((disk.link_injective _ _ _ _ _ linked linked').1 ▸ inside)

theorem shrink (file : PartFile disk upload)
    (links : ∀ d n i, disk'.link d n = some i → disk.link d n = some i)
    (content : disk'.content = disk.content) (inodes : disk'.inodes = disk.inodes) :
    PartFile disk' upload := by
  refine ⟨file.waiting, fun i phase => ?_, fun phase i linked => ?_⟩
  · obtain ⟨allocated, holds, only, own⟩ := file.streaming i phase
    rw [content, inodes]
    exact ⟨allocated, holds, fun d n linked => only d n (links d n i linked),
      fun j linked => own j (links _ _ j linked)⟩
  · rw [content]
    exact file.moving phase i (links _ _ i linked)

theorem removeJob (file : PartFile disk upload) (id : String) :
    PartFile (disk.removeJob id) upload :=
  file.shrink (fun _ _ _ => link_of_removeJob) rfl rfl

theorem aside (file : PartFile t.pre.disk upload) (change : Aside t) :
    PartFile t.post.disk upload := by
  cases change with
  | untouched same => exact same ▸ file
  | inputs id within => exact file.within within nofun
  | expires _ _ _ after | sweeps _ _ _ after =>
    rw [after]
    exact file.removeJob _

/-- Opening gives the upload an empty file of its own. -/
theorem openTruncate {inode : Nat} {now : Millis}
    (opened : disk.openTruncate upload.dir (partName outputName) now = some (inode, disk'))
    (received : upload.received = []) :
    PartFile disk' { upload with phase := .streaming inode } := by
  obtain ⟨links, content, -⟩ := FileSystem.openTruncate_spec opened
  have linked : disk'.link upload.dir (partName outputName) = some inode := by
    rw [links, if_pos ⟨rfl, rfl⟩]
  refine ⟨fun _ => received, ?_, nofun⟩
  rintro i ⟨⟩
  refine ⟨disk'.link_allocated _ _ _ linked, ?_, fun d n other => ?_, fun j other => ?_⟩
  · rw [content, Function.update_self]
    exact received.symm
  · exact disk'.link_injective _ _ _ _ _ other linked
  · exact Option.some.inj (other.symm.trans linked)

/-- A chunk goes to the end of the file. -/
theorem wrote {inode : Nat} (file : PartFile disk upload)
    (phase : upload.phase = .streaming inode) (bytes : Bytes) :
    PartFile (disk.write 0 inode upload.received.length bytes)
      { upload with received := upload.received ++ bytes } := by
  obtain ⟨allocated, content, only, own⟩ := file.streaming inode phase
  refine ⟨fun other => ?_, fun i phase' => ?_, fun phase' => ?_⟩
  · rcases other with other | other <;> cases phase.symm.trans other
  · cases phase.symm.trans phase'
    refine ⟨allocated, ?_, only, own⟩
    rw [FileSystem.content_write, if_pos rfl, content, splice_end]
  · cases phase.symm.trans phase'

/-- Another upload does not notice a chunk. -/
theorem write_elsewhere {writer : Upload} {inode : Nat} (file : PartFile disk upload)
    (written : PartFile disk writer) (phase : writer.phase = .streaming inode)
    (apart : ∀ i, upload.phase = .streaming i → i ≠ inode)
    (alone : upload.job = writer.job → upload.opened = false) (offset : Nat) (bytes : Bytes) :
    PartFile (disk.write 0 inode offset bytes) upload := by
  refine ⟨file.waiting, fun i streaming => ?_, fun moving i linked => ?_⟩
  · obtain ⟨allocated, content, only, own⟩ := file.streaming i streaming
    refine ⟨allocated, ?_, only, own⟩
    rw [FileSystem.content_write, if_neg (apart i streaming), content]
  · rw [FileSystem.content_write, if_neg, file.moving moving i linked]
    rintro rfl
    obtain ⟨-, -, only, -⟩ := written.streaming i phase
    have closed := alone (congrArg Prod.snd (only _ _ linked).1)
    rw [opened_of_renaming moving] at closed
    cases closed

/-- The stream has ended. -/
theorem ended {inode : Nat} (file : PartFile disk upload)
    (phase : upload.phase = .streaming inode) :
    PartFile disk { upload with phase := .renaming } := by
  obtain ⟨-, content, -, own⟩ := file.streaming inode phase
  refine ⟨fun other => ?_, nofun, fun _ i linked => ?_⟩
  · rcases other with other | other <;> cases other
  · rw [own i linked]
    exact content

end PartFile

/-! ### All uploads -/

structure PartFiles (state : Gateway) : Prop where
  filename : ∀ k upload, state.tasks.lookup k = some (.upload upload) →
    upload.filename = outputName
  file : ∀ k upload, state.tasks.lookup k = some (.upload upload) → PartFile state.disk upload
  alone : ∀ k k' upload upload', state.tasks.lookup k = some (.upload upload) →
    state.tasks.lookup k' = some (.upload upload') → upload.job = upload'.job →
    upload.opened = true → upload'.opened = true → k = k'
  apart : ∀ k k' upload upload' i, state.tasks.lookup k = some (.upload upload) →
    state.tasks.lookup k' = some (.upload upload') → upload.phase = .streaming i →
    upload'.phase = .streaming i → k = k'

/-- A turn of one upload keeps the files of the others and its own, which it
opens only alone. -/
theorem PartFiles.of_turn {pre post : Gateway} {token : Nat} {upload : Upload}
    {result : UploadResult} (parts : PartFiles pre)
    (tasks : ∀ k, post.tasks.lookup k = if k = token then result.task else pre.tasks.lookup k)
    (running : pre.tasks.lookup token = some (.upload upload))
    (others : ∀ k other, k ≠ token → pre.tasks.lookup k = some (.upload other) →
      PartFile post.disk other)
    (own : ∀ after, result = .suspended after →
      after.job = upload.job ∧ after.filename = upload.filename ∧ PartFile post.disk after ∧
        (after.opened = true → upload.opened = true ∨ ∀ k other, k ≠ token →
          pre.tasks.lookup k = some (.upload other) → other.job = upload.job →
          other.opened = false) ∧
        ∀ i, after.phase = .streaming i → upload.phase = .streaming i ∨ ∀ k other, k ≠ token →
          pre.tasks.lookup k = some (.upload other) → other.phase ≠ .streaming i) :
    PartFiles post := by
  have origin {k : Nat} {after : Upload} (found : post.tasks.lookup k = some (.upload after)) :
      k ≠ token ∧ pre.tasks.lookup k = some (.upload after) ∨
        k = token ∧ result = .suspended after := by
    rw [tasks] at found
    split at found
    · next here =>
      refine .inr ⟨here, ?_⟩
      unfold UploadResult.task at found
      split at found <;> cases found
      rfl
    · next elsewhere => exact .inl ⟨elsewhere, found⟩
  constructor
  · intro k after found
    rcases origin found with ⟨-, earlier⟩ | ⟨-, same⟩
    · exact parts.filename k after earlier
    · rw [(own after same).2.1]
      exact parts.filename token upload running
  · intro k after found
    rcases origin found with ⟨elsewhere, earlier⟩ | ⟨-, same⟩
    · exact others k after elsewhere earlier
    · exact (own after same).2.2.1
  · have clash {k : Nat} {after other : Upload} (same : result = .suspended after)
        (elsewhere : k ≠ token) (earlier : pre.tasks.lookup k = some (.upload other))
        (job : other.job = after.job) (opened : after.opened = true)
        (opened' : other.opened = true) : False := by
      obtain ⟨job', -, -, alone, -⟩ := own after same
      rcases alone opened with before | closed
      · exact elsewhere (parts.alone k token other upload earlier running (job.trans job') opened'
          before)
      · cases opened'.symm.trans (closed k other elsewhere earlier (job.trans job'))
    intro k k' after after' found found' job opened opened'
    rcases origin found with ⟨elsewhere, earlier⟩ | ⟨rfl, same⟩ <;>
      rcases origin found' with ⟨elsewhere', earlier'⟩ | ⟨rfl, same'⟩
    · exact parts.alone k k' after after' earlier earlier' job opened opened'
    · exact (clash same' elsewhere earlier job opened' opened).elim
    · exact (clash same elsewhere' earlier' job.symm opened opened').elim
    · rfl
  · have clash {k i : Nat} {after other : Upload} (same : result = .suspended after)
        (elsewhere : k ≠ token) (earlier : pre.tasks.lookup k = some (.upload other))
        (phase : after.phase = .streaming i) (phase' : other.phase = .streaming i) : False := by
      obtain ⟨-, -, -, -, apart⟩ := own after same
      rcases apart i phase with before | free
      · exact elsewhere (parts.apart k token other upload i earlier running phase' before)
      · exact free k other elsewhere earlier phase'
    intro k k' after after' i found found' phase phase'
    rcases origin found with ⟨elsewhere, earlier⟩ | ⟨rfl, same⟩ <;>
      rcases origin found' with ⟨elsewhere', earlier'⟩ | ⟨rfl, same'⟩
    · exact parts.apart k k' after after' i earlier earlier' phase phase'
    · exact (clash same' elsewhere earlier phase' phase).elim
    · exact (clash same elsewhere' earlier' phase phase').elim
    · rfl

/-- Opening a part file that no other upload of the job has open. -/
theorem partFiles_opened {pre post : Gateway} {token inode : Nat} {upload : Upload} {now : Millis}
    (parts : PartFiles pre) (running : pre.tasks.lookup token = some (.upload upload))
    (tasks : ∀ k, post.tasks.lookup k = if k = token
      then some (.upload { upload with phase := .streaming inode }) else pre.tasks.lookup k)
    (phase : upload.phase = .opening)
    (after : pre.disk.openTruncate upload.dir (partName outputName) now = some (inode, post.disk))
    (closed : ∀ k other, pre.tasks.lookup k = some (.upload other) → other.job = upload.job →
      other.opened = false) : PartFiles post := by
  have within := FileSystem.within_openTruncate after
  obtain ⟨-, -, found⟩ := FileSystem.openTruncate_spec after
  have tasks' : ∀ k, post.tasks.lookup k = if k = token
      then UploadResult.task (.suspended { upload with phase := .streaming inode })
      else pre.tasks.lookup k := tasks
  refine parts.of_turn tasks' running (fun k other _ earlier => ?_) ?_
  · by_cases job : other.job = upload.job
    · exact .of_closed (closed k other earlier job) (parts.file k other earlier).waiting
    · exact (parts.file k other earlier).within within fun here => job (congrArg Prod.snd here)
  · rintro _ ⟨⟩
    have received := (parts.file token upload running).waiting (.inr phase)
    refine ⟨rfl, rfl, .openTruncate after received, fun _ => .inr ?_, ?_⟩
    · exact fun k other _ earlier job => closed k other earlier job
    · rintro i ⟨⟩
      refine .inr fun k other _ earlier streaming => ?_
      obtain ⟨allocated, -, only, -⟩ := (parts.file k other earlier).streaming inode streaming
      rcases found with ⟨existing, -⟩ | ⟨fresh, -⟩
      · have job : upload.job = other.job := congrArg Prod.snd (only _ _ existing).1
        have shut := closed k other earlier job.symm
        rw [opened_of_streaming streaming] at shut
        cases shut
      · omega

/-- Uploads are let in under the agents' name, and nothing else touches their files. -/
theorem partFiles_aside (change : Aside t)
    (uploads : ∀ k upload, t.post.tasks.lookup k = some (.upload upload) →
      t.pre.tasks.lookup k = some (.upload upload) ∨ Spawned platform config t (.upload upload))
    (named : ∀ request, t.action = .upload request →
      request.filename.getD "output.mp4" = outputName)
    (parts : PartFiles t.pre) : PartFiles t.post := by
  have origin {k : Nat} {upload : Upload}
      (found : t.post.tasks.lookup k = some (.upload upload)) :
      t.pre.tasks.lookup k = some (.upload upload) ∨
        upload.phase = .making ∧ upload.filename = outputName ∧ upload.received = [] := by
    rcases uploads k upload found with earlier | spawned
    · exact .inl earlier
    · cases spawned with
      | upload action => exact .inr ⟨rfl, named _ action, rfl⟩
  have making {upload : Upload} (phase : upload.phase = .making) : upload.opened = false := by
    rw [Upload.opened, phase]
  constructor
  · intro k upload found
    rcases origin found with earlier | ⟨-, filename, -⟩
    · exact parts.filename k upload earlier
    · exact filename
  · intro k upload found
    rcases origin found with earlier | ⟨phase, -, received⟩
    · exact (parts.file k upload earlier).aside change
    · exact .of_closed (making phase) fun _ => received
  · intro k k' upload upload' found found' job opened opened'
    rcases origin found with earlier | ⟨phase, -, -⟩
    · rcases origin found' with earlier' | ⟨phase, -, -⟩
      · exact parts.alone k k' upload upload' earlier earlier' job opened opened'
      · cases opened'.symm.trans (making phase)
    · cases opened.symm.trans (making phase)
  · intro k k' upload upload' i found found' phase phase'
    rcases origin found with earlier | ⟨begins, -, -⟩
    · rcases origin found' with earlier' | ⟨begins, -, -⟩
      · exact parts.apart k k' upload upload' i earlier earlier' phase phase'
      · cases begins.symm.trans phase'
    · cases begins.symm.trans phase

/-- A turn after which the upload has its part file closed, or has returned. -/
theorem PartFiles.of_closing {pre post : Gateway} {token : Nat} {upload : Upload}
    {result : UploadResult} (parts : PartFiles pre)
    (tasks : ∀ k, post.tasks.lookup k = if k = token then result.task else pre.tasks.lookup k)
    (running : pre.tasks.lookup token = some (.upload upload))
    (others : ∀ k other, k ≠ token → pre.tasks.lookup k = some (.upload other) →
      PartFile post.disk other)
    (shut : ∀ after, result = .suspended after → after.job = upload.job ∧
      after.filename = upload.filename ∧ after.opened = false ∧
        (after.phase = .making ∨ after.phase = .opening → after.received = [])) :
    PartFiles post := by
  refine parts.of_turn tasks running others fun after same => ?_
  obtain ⟨job, name, isClosed, waiting⟩ := shut after same
  refine ⟨job, name, .of_closed isClosed waiting, fun opened => ?_, fun i streaming => ?_⟩
  · cases isClosed.symm.trans opened
  · cases isClosed.symm.trans (opened_of_streaming streaming)

theorem partFiles_turn {token : Nat} {event : Event} {upload : Upload} {result : UploadResult}
    (action : t.action = .advance token event)
    (running : t.pre.tasks.lookup token = some (.upload upload))
    (step : UploadStep platform config.maxArtifactBytes t.pre.now upload t.pre.disk
      t.post.disk event result)
    (tasks : ∀ k, t.post.tasks.lookup k =
      if k = token then result.task else t.pre.tasks.lookup k)
    (unshared : sharesPart t = false) (parts : PartFiles t.pre) : PartFiles t.post := by
  have file := parts.file token upload running
  have filename := parts.filename token upload running
  have closed {k : Nat} {other : Upload} (opened : upload.opened = true) (elsewhere : k ≠ token)
      (earlier : t.pre.tasks.lookup k = some (.upload other)) (job : other.job = upload.job) :
      other.opened = false := by
    by_contra isOpen
    apply elsewhere
    exact parts.alone k token other upload earlier running job (by simpa using isOpen) opened
  have untouched (same : t.post.disk = t.pre.disk) (k : Nat) (other : Upload) (_ : k ≠ token)
      (earlier : t.pre.tasks.lookup k = some (.upload other)) : PartFile t.post.disk other :=
    same ▸ parts.file k other earlier
  have written {inode : Nat} {bytes : Bytes} (phase : upload.phase = .streaming inode)
      (after : t.post.disk = t.pre.disk.write 0 inode upload.received.length bytes) (k : Nat)
      (other : Upload) (elsewhere : k ≠ token)
      (earlier : t.pre.tasks.lookup k = some (.upload other)) : PartFile t.post.disk other := by
    rw [after]
    refine (parts.file k other earlier).write_elsewhere file phase (fun i streaming => ?_)
      (fun job => closed (opened_of_streaming phase) elsewhere earlier job) _ _
    rintro rfl
    exact elsewhere (parts.apart k token other upload i earlier running streaming phase)
  cases step with
  | made phase after =>
    apply parts.of_closing tasks running
    · intro k other _ earlier
      rw [after]
      refine (parts.file k other earlier).shrink (fun d n i linked => ?_)
        (FileSystem.content_mkdir ..) (FileSystem.inodes_mkdir ..)
      rwa [FileSystem.link_mkdir] at linked
    · rintro _ ⟨⟩
      exact ⟨rfl, rfl, rfl, fun _ => file.waiting (.inl phase)⟩
  | opened phase after =>
    rw [filename] at after
    refine partFiles_opened parts running tasks phase after fun k other earlier job => ?_
    by_contra isOpen
    have shared : sharesPart t = true := by
      rw [sharesPart, turningUpload_eq action running, Option.any_some, Bool.and_eq_true,
        decide_eq_true_eq, List.any_eq_true]
      refine ⟨phase, other, mem_uploads earlier, ?_⟩
      rw [Bool.and_eq_true, decide_eq_true_eq]
      exact ⟨job, by simpa using isOpen⟩
    cases unshared.symm.trans shared
  | @wrote inode bytes phase after =>
    have opened := opened_of_streaming phase
    refine parts.of_turn tasks running (written phase after) ?_
    rintro _ ⟨⟩
    rw [after]
    exact ⟨rfl, rfl, file.wrote phase bytes, fun _ => .inl opened, fun _ => .inl⟩
  | @overflowed inode bytes phase after =>
    apply parts.of_closing tasks running (written phase after)
    rintro _ ⟨⟩
    refine ⟨rfl, rfl, rfl, fun other => ?_⟩
    rcases other with other | other <;> cases other
  | ended phase after =>
    refine parts.of_turn tasks running (untouched after) ?_
    rintro _ ⟨⟩
    rw [after]
    exact ⟨rfl, rfl, file.ended phase, fun _ => .inl (opened_of_streaming phase), nofun⟩
  | unopened phase after | broke phase after
  | mismatched phase _ after =>
    apply parts.of_closing tasks running (untouched after)
    rintro _ ⟨⟩
    refine ⟨rfl, rfl, rfl, fun other => ?_⟩
    rcases other with other | other <;> cases other
  | failed phase after =>
    apply parts.of_closing tasks running _ nofun
    intro k other _ earlier
    rw [after]
    refine (parts.file k other earlier).shrink (fun d n i linked => ?_)
      (FileSystem.content_unlink ..) (FileSystem.inodes_unlink ..)
    rw [FileSystem.link_unlink] at linked
    split at linked
    · cases linked
    · exact linked
  | renamed phase after =>
    apply parts.of_closing tasks running
    · intro k other elsewhere earlier
      by_cases job : other.job = upload.job
      · exact .of_closed (closed (opened_of_renaming phase) elsewhere earlier job)
          (parts.file k other earlier).waiting
      · exact (parts.file k other earlier).within (FileSystem.within_rename after)
          fun here => job (congrArg Prod.snd here)
    · rintro _ ⟨⟩
      refine ⟨rfl, rfl, rfl, fun other => ?_⟩
      rcases other with other | other <;> cases other
  | unrenamed phase after | stored phase _ after =>
    exact parts.of_closing tasks running (untouched after) nofun
  | removed phase after =>
    apply parts.of_closing tasks running _ nofun
    intro k other _ earlier
    rw [after]
    exact (parts.file k other earlier).removeJob _

theorem partFiles_step (fires : (gateway platform prepare config).Fires t)
    (fresh : Fresh platform t.pre)
    (named : ∀ request, t.action = .upload request →
      request.filename.getD "output.mp4" = outputName)
    (unshared : sharesPart t = false) (parts : PartFiles t.pre) : PartFiles t.post := by
  cases diskChange fires fresh with
  | aside change uploads => exact partFiles_aside change uploads named parts
  | uploads action running step tasks =>
    exact partFiles_turn action running step tasks unshared parts

end InferenceGateway
