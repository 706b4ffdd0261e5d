import InferenceGateway.Artifacts.Store
import InferenceGateway.Library.Machine

/-!
# Several calls of `writeArtifact`

Any number of calls write an artifact of one job under one name, each suspended
at its own file operations and chunks.  They share a part file: as long as none
opens it while another one has it open or is still to remove it, the artifact is
replaced atomically and each call fares as its own source does.
-/

namespace InferenceGateway

open Library

/-- A call that runs, or has ended. -/
inductive Call where
  | running (upload : Upload)
  | returned (upload : Upload)
  | threw (upload : Upload)

namespace Call

def upload : Call → Upload
  | .running upload | .returned upload | .threw upload => upload

/-- The call has opened the part file, and not renamed or removed it yet. -/
def busy : Call → Bool
  | .running upload =>
    match upload.phase with
    | .streaming _ | .failing _ | .renaming => true
    | _ => false
  | _ => false

/-- What a turn makes of a call; the rename is the last operation of `writeArtifact`. -/
def after (upload : Upload) : UploadResult → Option Call
  | .suspended after => some (if after.phase = .comparing then .returned after else .running after)
  | .rejected _ _ => some (.threw upload)
  | .stored => none

end Call

inductive CallAction where
  | begin
  /-- The next suspension of a call, at some time of the clock. -/
  | turn (call : Nat) (event : Event) (now : Millis)
  deriving DecidableEq

inductive CallReply where
  | silent
  | returned (bytes : Nat) (sha256 : String)
  | threw
  deriving DecidableEq

def Call.reply (platform : Platform) : Call → CallReply
  | .running _ => .silent
  | .returned upload => .returned upload.received.length (platform.sha256 upload.received)
  | .threw _ => .threw

/-- The disk and the calls, in the order in which they were made. -/
structure Writers where
  disk : Disk
  calls : List Call

section Machine

variable (platform : Platform) (maxBytes : Nat) (job filename : String) (disk : Disk)

/-- A call that has done nothing yet. -/
def beginning : Upload where
  job := job
  podId := none
  leaseId := ""
  filename := filename
  expected := none
  received := []
  phase := .making

def Writers.turn (state : Writers) (call : Nat) (event : Event) (now : Millis) :
    Option (CallReply × Writers) :=
  match state.calls[call]? with
  | some (.running upload) =>
    (upload.advance platform maxBytes now event state.disk).bind fun (result, disk) =>
      (Call.after upload result).map fun after =>
        (after.reply platform, ⟨disk, state.calls.set call after⟩)
  | _ => none

def Writers.step (state : Writers) : CallAction → Option (CallReply × Writers)
  | .begin => some (.silent,
      { state with calls := state.calls ++ [.running (beginning job filename)] })
  | .turn call event now => state.turn platform maxBytes call event now

def writers : Machine Writers CallAction CallReply where
  initial := ⟨disk, []⟩
  step := Writers.step platform maxBytes job filename

end Machine

abbrev CallTransition := Transition Writers CallAction CallReply

/-- The call opens the part file while another call is busy with it. -/
def overlaps (t : CallTransition) : Bool :=
  match t.action with
  | .turn call _ _ =>
    (match t.pre.calls[call]? with
      | some (.running upload) => upload.phase = .opening
      | _ => false) && t.pre.calls.any Call.busy
  | .begin => false

/-! ### What the sources did -/

def Event.bytes : Event → Bytes
  | .chunk bytes => bytes
  | _ => []

def CallAction.delivers (k : Nat) : CallAction → Bytes
  | .turn call event _ => if call = k then event.bytes else []
  | .begin => []

/-- The bytes the source of a call delivered. -/
def delivered (k : Nat) (trace : List CallTransition) : Bytes :=
  trace.flatMap fun t => t.action.delivers k

/-- The source of a call came to its end. -/
def Ended (k : Nat) (trace : List CallTransition) : Prop :=
  ∃ t ∈ trace, ∃ now, t.action = .turn k .finish now

/-- The source of a call broke off, or delivered too much. -/
def Failed (maxBytes k : Nat) (trace : List CallTransition) : Prop :=
  (∃ t ∈ trace, ∃ now, t.action = .turn k .abort now) ∨ maxBytes < (delivered k trace).length

section Sources

variable {trace : List CallTransition} {t : CallTransition} {k maxBytes : Nat}

theorem delivered_snoc (k : Nat) (trace : List CallTransition) (t : CallTransition) :
    delivered k (trace ++ [t]) = delivered k trace ++ t.action.delivers k := by
  simp [delivered]

theorem Ended.snoc (ended : Ended k trace) (t : CallTransition) : Ended k (trace ++ [t]) := by
  obtain ⟨u, member, now, action⟩ := ended
  exact ⟨u, List.mem_append_left _ member, now, action⟩

theorem Failed.snoc (failed : Failed maxBytes k trace) (t : CallTransition) :
    Failed maxBytes k (trace ++ [t]) := by
  rcases failed with ⟨u, member, now, action⟩ | exceeds
  · exact .inl ⟨u, List.mem_append_left _ member, now, action⟩
  · refine .inr (exceeds.trans_le ?_)
    rw [delivered_snoc, List.length_append]
    exact Nat.le_add_right _ _

end Sources

/-! ### One call -/

/-- Where a call stands, with the part file it has on the disk. -/
inductive Standing (maxBytes : Nat) (disk : Disk) (ended failed : Prop) : Call → Prop where
  | making {upload : Upload} (phase : upload.phase = .making) (empty : upload.received = []) :
      Standing maxBytes disk ended failed (.running upload)
  | opening {upload : Upload} (phase : upload.phase = .opening) (empty : upload.received = [])
      (made : upload.dir ∈ disk.dirs) : Standing maxBytes disk ended failed (.running upload)
  | streaming {upload : Upload} {inode : Nat} (phase : upload.phase = .streaming inode)
      (linked : disk.link upload.dir (partName upload.filename) = some inode)
      (content : disk.content inode = upload.received)
      (fits : upload.received.length ≤ maxBytes) :
      Standing maxBytes disk ended failed (.running upload)
  | moving {upload : Upload} {inode : Nat} (phase : upload.phase = .renaming)
      (linked : disk.link upload.dir (partName upload.filename) = some inode)
      (content : disk.content inode = upload.received)
      (fits : upload.received.length ≤ maxBytes) (complete : ended) :
      Standing maxBytes disk ended failed (.running upload)
  | failing {upload : Upload} {tooLarge : Bool} (phase : upload.phase = .failing tooLarge)
      (broken : failed) : Standing maxBytes disk ended failed (.running upload)
  | returned {upload : Upload} (fits : upload.received.length ≤ maxBytes) (complete : ended) :
      Standing maxBytes disk ended failed (.returned upload)
  | threw {upload : Upload} (broken : failed) : Standing maxBytes disk ended failed (.threw upload)

namespace Standing

variable {maxBytes : Nat} {disk disk' : Disk} {ended failed ended' failed' : Prop} {call : Call}

theorem mono (standing : Standing maxBytes disk ended failed call) (ends : ended → ended')
    (fails : failed → failed') : Standing maxBytes disk ended' failed' call := by
  cases standing with
  | making phase empty => exact .making phase empty
  | opening phase empty made => exact .opening phase empty made
  | streaming phase linked content fits => exact .streaming phase linked content fits
  | moving phase linked content fits complete =>
    exact .moving phase linked content fits (ends complete)
  | failing phase broken => exact .failing phase (fails broken)
  | returned fits complete => exact .returned fits (ends complete)
  | threw broken => exact .threw (fails broken)

section Phases

variable {upload : Upload} (standing : Standing maxBytes disk ended failed (.running upload))

include standing

theorem of_making (phase : upload.phase = .making) : upload.received = [] := by
  cases standing with
  | making _ empty => exact empty
  | opening other | streaming other | moving other | failing other =>
    cases phase.symm.trans other

theorem of_opening (phase : upload.phase = .opening) :
    upload.received = [] ∧ upload.dir ∈ disk.dirs := by
  cases standing with
  | opening _ empty made => exact ⟨empty, made⟩
  | making other | streaming other | moving other | failing other =>
    cases phase.symm.trans other

theorem of_streaming {inode : Nat} (phase : upload.phase = .streaming inode) :
    disk.link upload.dir (partName upload.filename) = some inode ∧
      disk.content inode = upload.received ∧ upload.received.length ≤ maxBytes := by
  cases standing with
  | streaming same linked content fits =>
    cases phase.symm.trans same
    exact ⟨linked, content, fits⟩
  | making other | opening other | moving other | failing other => cases phase.symm.trans other

theorem of_renaming (phase : upload.phase = .renaming) :
    (∃ inode, disk.link upload.dir (partName upload.filename) = some inode ∧
      disk.content inode = upload.received) ∧ upload.received.length ≤ maxBytes ∧ ended := by
  cases standing with
  | moving _ linked content fits complete => exact ⟨⟨_, linked, content⟩, fits, complete⟩
  | making other | opening other | streaming other | failing other =>
    cases phase.symm.trans other

theorem of_failing {tooLarge : Bool} (phase : upload.phase = .failing tooLarge) : failed := by
  cases standing with
  | failing _ broken => exact broken
  | making other | opening other | streaming other | moving other => cases phase.symm.trans other

/-- The call has not renamed its part file. -/
theorem unrenamed : upload.phase ≠ .comparing ∧ upload.phase ≠ .removing := by
  constructor
  all_goals
    intro phase
    cases standing with
    | making other | opening other | streaming other | moving other | failing other =>
      cases phase.symm.trans other

end Phases

/-- A call that is not busy needs its directory only. -/
theorem idle (standing : Standing maxBytes disk ended failed call) (idle : call.busy = false)
    (dirs : ∀ d ∈ disk.dirs, d ∈ disk'.dirs) : Standing maxBytes disk' ended failed call := by
  cases standing with
  | making phase empty => exact .making phase empty
  | opening phase empty made => exact .opening phase empty (dirs _ made)
  | streaming phase | moving phase | failing phase =>
    rw [Call.busy, phase] at idle
    cases idle
  | returned fits complete => exact .returned fits complete
  | threw broken => exact .threw broken

/-- No call notices a directory being made. -/
theorem mkdir (standing : Standing maxBytes disk ended failed call) (d : Root × String)
    (now : Millis) : Standing maxBytes (disk.mkdir d now) ended failed call := by
  cases standing with
  | making phase empty => exact .making phase empty
  | opening phase empty made =>
    exact .opening phase empty ((FileSystem.mem_dirs_mkdir _ _ _).mpr (.inr made))
  | streaming phase linked content fits =>
    refine .streaming phase (by rwa [FileSystem.link_mkdir]) ?_ fits
    rwa [FileSystem.content_mkdir]
  | moving phase linked content fits complete =>
    refine .moving phase (by rwa [FileSystem.link_mkdir]) ?_ fits complete
    rwa [FileSystem.content_mkdir]
  | failing phase broken => exact .failing phase broken
  | returned fits complete => exact .returned fits complete
  | threw broken => exact .threw broken

end Standing

/-! ### All calls -/

section Calls

variable (maxBytes : Nat) (job filename : String)

/-- One call at a time is busy, and the artifact is that of a call that returned. -/
structure Exclusive (trace : List CallTransition) (state : Writers) : Prop where
  named : ∀ (k : Nat) (call : Call), state.calls[k]? = some call → call.upload.job = job ∧
    call.upload.filename = filename ∧ call.upload.received = delivered k trace
  unborn : ∀ k : Nat, state.calls[k]? = none → delivered k trace = []
  standing : ∀ (k : Nat) (call : Call), state.calls[k]? = some call →
    Standing maxBytes state.disk (Ended k trace) (Failed maxBytes k trace) call
  alone : ∀ (k k' : Nat) (call call' : Call), state.calls[k]? = some call → state.calls[k']? = some call' →
    call.busy = true → call'.busy = true → k = k'
  visible : state.disk.read (.artifacts, job) filename = none ∨
    ∃ (k : Nat) (upload : Upload), state.calls[k]? = some (.returned upload) ∧
      state.disk.read (.artifacts, job) filename = some upload.received

variable {maxBytes : Nat} {job filename : String} {platform : Platform} {disk : Disk}
  {trace : List CallTransition} {t : CallTransition} {k : Nat} {event : Event} {now : Millis}

theorem exclusive_begin (action : t.action = .begin)
    (fires : (writers platform maxBytes job filename disk).Fires t)
    (exclusive : Exclusive maxBytes job filename trace t.pre) :
    Exclusive maxBytes job filename (trace ++ [t]) t.post := by
  have stepped : Writers.step platform maxBytes job filename t.pre t.action =
      some (t.reply, t.post) := fires
  rw [action] at stepped
  obtain ⟨-, after⟩ := Prod.mk.inj (Option.some.inj stepped)
  have nothing (k : Nat) : delivered k (trace ++ [t]) = delivered k trace := by
    rw [delivered_snoc, action]
    exact List.append_nil _
  have later {k : Nat} {call : Call} (found : t.pre.calls[k]? = some call) :
      t.post.calls[k]? = some call := by
    obtain ⟨inside, -⟩ := List.getElem?_eq_some_iff.mp found
    rw [← after, List.getElem?_append_left inside]
    exact found
  have origin {k : Nat} {call : Call} (found : t.post.calls[k]? = some call) :
      t.pre.calls[k]? = some call ∨
        t.pre.calls[k]? = none ∧ call = .running (beginning job filename) := by
    rw [← after, List.getElem?_append] at found
    split at found
    · exact .inl found
    · next beyond =>
      refine .inr ⟨List.getElem?_eq_none (Nat.le_of_not_lt beyond), ?_⟩
      exact List.mem_singleton.mp (List.mem_of_getElem? found)
  constructor
  · intro k call found
    rw [nothing]
    rcases origin found with earlier | ⟨absent, rfl⟩
    · exact exclusive.named k call earlier
    · exact ⟨rfl, rfl, (exclusive.unborn k absent).symm⟩
  · intro k absent
    rw [nothing]
    refine exclusive.unborn k ?_
    cases found : t.pre.calls[k]? with
    | none => rfl
    | some call => cases absent.symm.trans (later found)
  · intro k call found
    rcases origin found with earlier | ⟨-, rfl⟩
    · rw [← after]
      exact (exclusive.standing k call earlier).mono (·.snoc _) (·.snoc _)
    · exact .making rfl rfl
  · intro k k' call call' found found' busy busy'
    rcases origin found with earlier | ⟨-, rfl⟩
    · rcases origin found' with earlier' | ⟨-, rfl⟩
      · exact exclusive.alone k k' call call' earlier earlier' busy busy'
      · cases busy'
    · cases busy
  · rcases exclusive.visible with absent | ⟨k, upload, returned, read⟩
    · exact .inl (after ▸ absent)
    · exact .inr ⟨k, upload, later returned, after ▸ read⟩

/-- A turn takes a running call from one suspension to the next. -/
theorem turn_of_fires (action : t.action = .turn k event now)
    (fires : (writers platform maxBytes job filename disk).Fires t) :
    ∃ upload result call, t.pre.calls[k]? = some (.running upload) ∧
      UploadStep platform maxBytes now upload t.pre.disk t.post.disk event result ∧
      Call.after upload result = some call ∧ t.reply = call.reply platform ∧
      t.post.calls = t.pre.calls.set k call := by
  have stepped : Writers.step platform maxBytes job filename t.pre t.action =
      some (t.reply, t.post) := fires
  rw [action] at stepped
  simp only [Writers.step, Writers.turn] at stepped
  split at stepped
  · next upload running =>
    obtain ⟨⟨result, disk'⟩, advanced, stepped⟩ := Option.bind_eq_some_iff.mp stepped
    obtain ⟨call, after, stepped⟩ := Option.map_eq_some_iff.mp stepped
    obtain ⟨reply, post⟩ := Prod.mk.inj stepped
    refine ⟨upload, result, call, running, ?_, after, reply.symm, ?_⟩
    · rw [← post]
      exact uploadStep advanced
    · rw [← post]
  · cases stepped

/-- What a turn of one call does to the calls, the part file and the artifact. -/
structure Turned (maxBytes : Nat) (job filename : String) (trace : List CallTransition)
    (t : CallTransition) (k : Nat) (event : Event) (upload : Upload) (call : Call) : Prop where
  kept : call.upload.job = upload.job ∧ call.upload.filename = upload.filename
  received : call.upload.received = upload.received ++ event.bytes
  own : Standing maxBytes t.post.disk (Ended k (trace ++ [t]))
    (Failed maxBytes k (trace ++ [t])) call
  others : ∀ (j : Nat) (other : Call), j ≠ k → t.pre.calls[j]? = some other →
    Standing maxBytes t.post.disk (Ended j trace) (Failed maxBytes j trace) other
  alone : call.busy = true → ∀ (j : Nat) (other : Call), j ≠ k →
    t.pre.calls[j]? = some other → other.busy = false
  artifact : (∀ after, call ≠ .returned after) ∧
      t.post.disk.read (.artifacts, job) filename =
        t.pre.disk.read (.artifacts, job) filename ∨
    ∃ after, call = .returned after ∧
      t.post.disk.read (.artifacts, job) filename = some after.received

theorem Exclusive.of_turned (exclusive : Exclusive maxBytes job filename trace t.pre)
    (action : t.action = .turn k event now) {upload : Upload} {call : Call}
    (running : t.pre.calls[k]? = some (.running upload))
    (calls : t.post.calls = t.pre.calls.set k call)
    (turned : Turned maxBytes job filename trace t k event upload call) :
    Exclusive maxBytes job filename (trace ++ [t]) t.post := by
  have inside : k < t.pre.calls.length := (List.getElem?_eq_some_iff.mp running).1
  have at_self : t.post.calls[k]? = some call := by
    rw [calls, List.getElem?_set_self inside]
  have elsewhere {j : Nat} (different : j ≠ k) : t.post.calls[j]? = t.pre.calls[j]? := by
    rw [calls, List.getElem?_set_ne (Ne.symm different)]
  have delivers (j : Nat) : delivered j (trace ++ [t]) =
      delivered j trace ++ if k = j then event.bytes else [] := by
    rw [delivered_snoc, action]
    rfl
  have same {j : Nat} (different : j ≠ k) : delivered j (trace ++ [t]) = delivered j trace := by
    rw [delivers, if_neg (Ne.symm different), List.append_nil]
  constructor
  · intro j other found
    by_cases self : j = k
    · subst self
      cases at_self.symm.trans found
      obtain ⟨jobName, name, before⟩ := exclusive.named _ _ running
      refine ⟨turned.kept.1.trans jobName, turned.kept.2.trans name, ?_⟩
      rw [turned.received, delivers, if_pos rfl, ← before]
      rfl
    · rw [same self]
      exact exclusive.named j other (elsewhere self ▸ found)
  · intro j absent
    by_cases self : j = k
    · subst self
      cases at_self.symm.trans absent
    · rw [same self]
      exact exclusive.unborn j (elsewhere self ▸ absent)
  · intro j other found
    by_cases self : j = k
    · subst self
      cases at_self.symm.trans found
      exact turned.own
    · exact (turned.others j other self (elsewhere self ▸ found)).mono (·.snoc t) (·.snoc t)
  · intro i j first second found found' busy busy'
    by_cases left : i = k
    · subst left
      cases at_self.symm.trans found
      by_contra different
      cases busy'.symm.trans (turned.alone busy j second (Ne.symm different)
        (elsewhere (Ne.symm different) ▸ found'))
    · by_cases right : j = k
      · subst right
        cases at_self.symm.trans found'
        cases busy.symm.trans (turned.alone busy' i first left (elsewhere left ▸ found))
      · exact exclusive.alone i j first second (elsewhere left ▸ found)
          (elsewhere right ▸ found') busy busy'
  · rcases turned.artifact with ⟨-, unchanged⟩ | ⟨after, rfl, read⟩
    · rw [unchanged]
      rcases exclusive.visible with absent | ⟨j, other, returned, read⟩
      · exact .inl absent
      · have different : j ≠ k := by
          rintro rfl
          cases running.symm.trans returned
        exact .inr ⟨j, other, (elsewhere different).trans returned, read⟩
    · exact .inr ⟨k, after, at_self, read⟩

theorem delivered_turn (action : t.action = .turn k event now) :
    delivered k (trace ++ [t]) = delivered k trace ++ event.bytes := by
  rw [delivered_snoc, action, CallAction.delivers, if_pos rfl]

theorem running_of_after {upload after : Upload} {call : Call}
    (same : Call.after upload (.suspended after) = some call)
    (phase : after.phase ≠ .comparing) : call = .running after := by
  rw [Call.after, if_neg phase] at same
  exact (Option.some.inj same).symm

/-- The artifact is not the part file. -/
theorem final_ne_part {upload : Upload} (name : upload.filename = filename)
    (d d' : Root × String) : ¬ (d = d' ∧ filename = partName upload.filename) := by
  rintro ⟨-, same⟩
  exact partName_ne upload.filename (same.symm.trans name.symm)

/-- A turn that opens the part file only alone. -/
theorem turned (action : t.action = .turn k event now)
    (fires : (writers platform maxBytes job filename disk).Fires t) (unshared : overlaps t = false)
    (exclusive : Exclusive maxBytes job filename trace t.pre) :
    ∃ upload call, t.pre.calls[k]? = some (.running upload) ∧
      t.post.calls = t.pre.calls.set k call ∧ t.reply = call.reply platform ∧
      Turned maxBytes job filename trace t k event upload call := by
  obtain ⟨upload, result, call, running, step, after, reply, calls⟩ := turn_of_fires action fires
  have standing := exclusive.standing k _ running
  obtain ⟨jobName, name, source⟩ : upload.job = job ∧ upload.filename = filename ∧
    upload.received = delivered k trace := exclusive.named k _ running
  have closed (busy : (Call.running upload).busy = true) (j : Nat) (other : Call)
      (different : j ≠ k) (found : t.pre.calls[j]? = some other) : other.busy = false := by
    by_contra isBusy
    exact different (exclusive.alone j k other _ found running (by simpa using isBusy) busy)
  have idle (shut : ∀ (j : Nat) (other : Call), j ≠ k → t.pre.calls[j]? = some other →
        other.busy = false) (dirs : ∀ d ∈ t.pre.disk.dirs, d ∈ t.post.disk.dirs) (j : Nat)
      (other : Call) (different : j ≠ k) (found : t.pre.calls[j]? = some other) :
      Standing maxBytes t.post.disk (Ended j trace) (Failed maxBytes j trace) other :=
    (exclusive.standing j other found).idle (shut j other different found) dirs
  have here : t ∈ trace ++ [t] := by simp
  cases step with
  | made phase disk' =>
    obtain rfl := running_of_after after nofun
    refine ⟨upload, _, running, calls, reply, .mk ⟨rfl, rfl⟩ (List.append_nil _).symm
      (.opening rfl (standing.of_making phase) ?_) ?_ (fun busy => nomatch busy) (.inl ⟨nofun, ?_⟩)⟩
    · rw [disk', FileSystem.mem_dirs_mkdir]
      exact .inl rfl
    · intro j other _ found
      rw [disk']
      exact (exclusive.standing j other found).mkdir _ _
    · rw [disk', FileSystem.read_mkdir]
  | opened phase opened =>
    obtain rfl := running_of_after after nofun
    obtain ⟨links, content, -⟩ := FileSystem.openTruncate_spec opened
    obtain ⟨empty, -⟩ := standing.of_opening phase
    have shut (j : Nat) (other : Call) (_ : j ≠ k) (found : t.pre.calls[j]? = some other) :
        other.busy = false := by
      simp only [overlaps, action, running, phase, decide_true, Bool.true_and,
        List.any_eq_false] at unshared
      exact Bool.eq_false_iff.mpr (unshared other (List.mem_of_getElem? found))
    refine ⟨upload, _, running, calls, reply, .mk ⟨rfl, rfl⟩ (List.append_nil _).symm ?_
      (idle shut fun d => (FileSystem.mem_dirs_openTruncate opened d).mpr) (fun _ => shut)
      (.inl ⟨nofun, (FileSystem.read_openTruncate_of_ne opened (final_ne_part name _ _))⟩)⟩
    refine .streaming rfl ?_ ?_ ?_
    · rw [links, if_pos ⟨rfl, rfl⟩]
    · rw [content, Function.update_self]
      exact empty.symm
    · rw [empty]
      exact Nat.zero_le _
  | unopened phase _ missing =>
    exact absurd (standing.of_opening phase).2 (FileSystem.openTruncate_eq_none_iff.mp missing)
  | @wrote inode bytes phase disk' fits =>
    have busy : (Call.running upload).busy = true := by rw [Call.busy, phase]
    obtain rfl := running_of_after after (by rw [phase]; nofun)
    obtain ⟨linked, content, -⟩ := standing.of_streaming phase
    refine ⟨upload, _, running, calls, reply, .mk ⟨rfl, rfl⟩ rfl
      (.streaming phase ?_ ?_ fits) (idle (closed busy) ?_) (fun _ => closed busy) (.inl ⟨nofun, ?_⟩)⟩
    · rw [disk', FileSystem.link_write]
      exact linked
    · rw [disk', FileSystem.content_write, if_pos rfl, content, splice_end]
    · rw [disk']
      exact fun _ => id
    · rw [disk']
      refine FileSystem.read_write_of_ne (fun same => ?_) _ _ _
      exact final_ne_part name _ _ (t.pre.disk.link_injective _ _ _ _ _ same linked)
  | overflowed bytes phase disk' exceeds =>
    have busy : (Call.running upload).busy = true := by rw [Call.busy, phase]
    obtain rfl := running_of_after after nofun
    obtain ⟨linked, -⟩ := standing.of_streaming phase
    refine ⟨upload, _, running, calls, reply, .mk ⟨rfl, rfl⟩ rfl (.failing rfl (.inr ?_))
      (idle (closed busy) ?_) (fun _ => closed busy) (.inl ⟨nofun, ?_⟩)⟩
    · rw [delivered_turn action, ← source]
      exact exceeds
    · rw [disk']
      exact fun _ => id
    · rw [disk']
      refine FileSystem.read_write_of_ne (fun same => ?_) _ _ _
      exact final_ne_part name _ _ (t.pre.disk.link_injective _ _ _ _ _ same linked)
  | ended phase disk' =>
    have busy : (Call.running upload).busy = true := by rw [Call.busy, phase]
    obtain rfl := running_of_after after nofun
    obtain ⟨linked, content, fits⟩ := standing.of_streaming phase
    refine ⟨upload, _, running, calls, reply, .mk ⟨rfl, rfl⟩ (List.append_nil _).symm ?_
      (idle (closed busy) ?_) (fun _ => closed busy) (.inl ⟨nofun, (by rw [disk'])⟩)⟩
    · rw [disk']
      exact .moving rfl linked content fits ⟨t, here, now, action⟩
    · rw [disk']
      exact fun _ => id
  | broke phase disk' =>
    have busy : (Call.running upload).busy = true := by rw [Call.busy, phase]
    obtain rfl := running_of_after after nofun
    refine ⟨upload, _, running, calls, reply, .mk ⟨rfl, rfl⟩ (List.append_nil _).symm
      (.failing rfl (.inl ⟨t, here, now, action⟩)) (idle (closed busy) ?_) (fun _ => closed busy)
      (.inl ⟨nofun, (by rw [disk'])⟩)⟩
    rw [disk']
    exact fun _ => id
  | failed phase disk' =>
    have busy : (Call.running upload).busy = true := by rw [Call.busy, phase]
    cases after
    refine ⟨upload, _, running, calls, reply, .mk ⟨rfl, rfl⟩ (List.append_nil _).symm
      (.threw ((standing.of_failing phase).snoc t)) (idle (closed busy) fun d existing => ?_)
      (fun _ => closed busy) (.inl ⟨nofun, ?_⟩)⟩
    · rw [disk', FileSystem.mem_dirs_unlink]
      exact .inr existing
    · rw [disk', FileSystem.read_unlink_of_ne (final_ne_part name _ _)]
  | renamed phase renamed =>
    have busy : (Call.running upload).busy = true := by rw [Call.busy, phase]
    obtain rfl : call = .returned { upload with phase := .comparing } := (Option.some.inj after).symm
    obtain ⟨⟨inode, linked, content⟩, fits, complete⟩ := standing.of_renaming phase
    refine ⟨upload, _, running, calls, reply, .mk ⟨rfl, rfl⟩ (List.append_nil _).symm
      (.returned fits (complete.snoc t)) (idle (closed busy) fun d existing => ?_)
      (fun _ => closed busy) (.inr ⟨_, rfl, ?_⟩)⟩
    · rw [FileSystem.mem_dirs_rename renamed]
      exact .inr existing
    · obtain ⟨inode', linked', read⟩ := FileSystem.read_rename renamed
      cases linked.symm.trans linked'
      rw [← content, ← read, ← name, ← jobName]
      rfl
  | unrenamed phase _ missing =>
    obtain ⟨⟨inode, linked, -⟩, -⟩ := standing.of_renaming phase
    cases linked.symm.trans (FileSystem.rename_eq_none_iff.mp missing)
  | mismatched phase | stored phase => exact absurd phase standing.unrenamed.1
  | removed phase => exact absurd phase standing.unrenamed.2

theorem exclusive_step (fires : (writers platform maxBytes job filename disk).Fires t)
    (unshared : overlaps t = false) (exclusive : Exclusive maxBytes job filename trace t.pre) :
    Exclusive maxBytes job filename (trace ++ [t]) t.post := by
  cases action : t.action with
  | begin => exact exclusive_begin action fires exclusive
  | turn k event now =>
    obtain ⟨upload, call, running, calls, -, turned⟩ := turned action fires unshared exclusive
    exact exclusive.of_turned action running calls turned

theorem exclusive_initial (absent : disk.read (.artifacts, job) filename = none) :
    Exclusive maxBytes job filename [] ⟨disk, []⟩ where
  named _ _ found := by cases found
  unborn _ _ := rfl
  standing _ _ found := by cases found
  alone _ _ _ _ found := by cases found
  visible := .inl absent

/-- A call that has ended is not touched again. -/
theorem stays (fires : (writers platform maxBytes job filename disk).Fires t) {call : Call}
    (ended : ∀ upload, call ≠ .running upload) (found : t.pre.calls[k]? = some call) :
    t.post.calls[k]? = some call := by
  cases action : t.action with
  | begin =>
    have stepped : Writers.step platform maxBytes job filename t.pre t.action =
        some (t.reply, t.post) := fires
    rw [action] at stepped
    obtain ⟨-, after⟩ := Prod.mk.inj (Option.some.inj stepped)
    obtain ⟨inside, -⟩ := List.getElem?_eq_some_iff.mp found
    rw [← after, List.getElem?_append_left inside]
    exact found
  | turn j event now =>
    obtain ⟨upload, result, after, running, -, -, -, calls⟩ := turn_of_fires action fires
    have different : j ≠ k := by
      rintro rfl
      exact ended upload (Option.some.inj (found.symm.trans running))
    rw [calls, List.getElem?_set_ne different]
    exact found

end Calls

/-! ### Atomic writes -/

section Atomic

variable (platform : Platform) (maxBytes : Nat) (job filename : String) (disk : Disk)

/-- The artifact is all or nothing of one source, each call reports what it made
visible, and fails because of its own source only and without a trace. -/
structure WritesAtomically (run : (writers platform maxBytes job filename disk).Execution) :
    Prop where
  visible : run.final.disk.read (.artifacts, job) filename = none ∨
    ∃ k, Ended k run.trace ∧ (delivered k run.trace).length ≤ maxBytes ∧
      run.final.disk.read (.artifacts, job) filename = some (delivered k run.trace)
  reports : ∀ t ∈ run.trace, ∀ k event now bytes sha256, t.action = .turn k event now →
    t.reply = .returned bytes sha256 →
      t.post.disk.read (.artifacts, job) filename = some (delivered k run.trace) ∧
        bytes = (delivered k run.trace).length ∧
        sha256 = platform.sha256 (delivered k run.trace)
  harmless : ∀ (k : Nat) (upload : Upload), run.final.calls[k]? = some (.threw upload) →
    ∀ t ∈ run.trace, ∀ event now, t.action = .turn k event now →
      t.post.disk.read (.artifacts, job) filename = t.pre.disk.read (.artifacts, job) filename ∧
        ∀ j : Nat, j ≠ k → t.post.calls[j]? = t.pre.calls[j]?
  returns : ∀ (k : Nat) (upload : Upload), run.final.calls[k]? = some (.returned upload) →
    Ended k run.trace ∧ (delivered k run.trace).length ≤ maxBytes
  throws : ∀ (k : Nat) (upload : Upload), run.final.calls[k]? = some (.threw upload) →
    Failed maxBytes k run.trace

theorem writes_atomically (absent : disk.read (.artifacts, job) filename = none)
    (run : (writers platform maxBytes job filename disk).Execution)
    (unshared : ∀ t ∈ run.trace, overlaps t = false) :
    WritesAtomically platform maxBytes job filename disk run := by
  have exclusive {trace : List CallTransition} {state : Writers}
      (part : (writers platform maxBytes job filename disk).Run ⟨disk, []⟩ trace state)
      (inside : ∀ t ∈ trace, overlaps t = false) :
      Exclusive maxBytes job filename trace state := by
    induction part with
    | nil => exact exclusive_initial absent
    | snoc _ fires inductionHypothesis =>
      exact exclusive_step fires (inside _ (by simp))
        (inductionHypothesis fun t member => inside t (List.mem_append_left _ member))
  have final := exclusive run.run unshared
  -- Every turn, with the call it leaves and the invariant before it.
  have turns (t : CallTransition) (member : t ∈ run.trace) (k : Nat) (event : Event)
      (now : Millis) (action : t.action = .turn k event now) :
      ∃ upload call, t.post.calls[k]? = some call ∧ t.reply = call.reply platform ∧
        (∀ j : Nat, j ≠ k → t.post.calls[j]? = t.pre.calls[j]?) ∧
        ((∀ other, call ≠ .running other) → run.final.calls[k]? = some call) ∧
        ∃ before, Turned maxBytes job filename before t k event upload call := by
    obtain ⟨before, after, split⟩ := List.append_of_mem member
    obtain ⟨earlier, fires, later⟩ := (split ▸ run.run).split
    have inside : ∀ u ∈ before, overlaps u = false := fun u member =>
      unshared u (split ▸ List.mem_append_left _ member)
    obtain ⟨upload, call, running, calls, reply, turned⟩ :=
      turned action fires (unshared t member) (exclusive earlier inside)
    have place : t.post.calls[k]? = some call := by
      rw [calls, List.getElem?_set_self (List.getElem?_eq_some_iff.mp running).1]
    refine ⟨upload, call, place, reply, fun j different => ?_, fun ended => ?_, before, turned⟩
    · rw [calls, List.getElem?_set_ne (Ne.symm different)]
    · exact later.preserves (P := fun state => state.calls[k]? = some call) place
        fun u _ fires => stays fires ended
  constructor
  · rcases final.visible with nothing | ⟨k, upload, returned, read⟩
    · exact .inl nothing
    · have source : upload.received = delivered k run.trace := (final.named k _ returned).2.2
      cases final.standing k _ returned with
      | returned fits complete => exact .inr ⟨k, complete, source ▸ fits, source ▸ read⟩
  · intro t member k event now bytes sha256 action reply
    obtain ⟨upload, call, place, replied, -, stays, before, turned⟩ := turns t member k event now action
    rw [reply] at replied
    cases call with
    | running | threw => cases replied
    | returned after =>
      cases replied
      have source : after.received = delivered k run.trace :=
        (final.named k _ (stays nofun)).2.2
      rcases turned.artifact with ⟨other, -⟩ | ⟨_, same, read⟩
      · exact absurd rfl (other after)
      · cases same
        exact ⟨source ▸ read, by rw [source], by rw [source]⟩
  · intro k upload threw t member event now action
    obtain ⟨_, call, place, -, others, stays, before, turned⟩ := turns t member k event now action
    refine ⟨?_, others⟩
    rcases turned.artifact with ⟨-, same⟩ | ⟨after, rfl, -⟩
    · exact same
    · cases threw.symm.trans (stays nofun)
  · intro k upload returned
    have source : upload.received = delivered k run.trace := (final.named k _ returned).2.2
    cases final.standing k _ returned with
    | returned fits complete => exact ⟨complete, source ▸ fits⟩
  · intro k upload threw
    cases final.standing k _ threw with
    | threw broken => exact broken

end Atomic

/-- The calls of a sample run, on an empty disk. -/
abbrev sampleWriters (actions : List CallAction)
    (accepted : ((writers .counting 8 "v" "output.mp4" FileSystem.empty).exec
      ⟨FileSystem.empty, []⟩ actions).isSome) :
    (writers .counting 8 "v" "output.mp4" FileSystem.empty).Execution :=
  .perform _ actions accepted

/-- The turns of a call that delivers one chunk. -/
def sampleTurns (k : Nat) (bytes : Bytes) : List CallAction :=
  [.turn k .proceed 0, .turn k .proceed 0, .turn k (.chunk bytes) 0, .turn k .finish 0,
    .turn k .proceed 0]

/-- A second call after the first. -/
theorem writes_atomically_sample :
    WritesAtomically .counting 8 "v" "output.mp4" FileSystem.empty
      (sampleWriters (.begin :: sampleTurns 0 [1] ++ .begin :: sampleTurns 1 [2])
        (by decide +kernel)) := by
  have unshared : ((sampleWriters (.begin :: sampleTurns 0 [1] ++ .begin :: sampleTurns 1 [2])
      (by decide +kernel)).trace.all fun t => !overlaps t) = true := by decide +kernel
  refine writes_atomically .counting 8 "v" "output.mp4" FileSystem.empty rfl _ fun t member => ?_
  exact Bool.not_eq_true' _ ▸ List.all_eq_true.mp unshared t member

/-- A second call that opens the part file while the first one streams into it. -/
def sampleOverlap : List CallAction :=
  [.begin, .begin, .turn 0 .proceed 0, .turn 0 .proceed 0, .turn 1 .proceed 0,
    .turn 1 .proceed 0, .turn 0 (.chunk [1, 1, 1]) 0, .turn 1 (.chunk [2]) 0, .turn 0 .finish 0,
    .turn 0 .proceed 0]

/-- The first call makes the bytes of both visible and reports its own. -/
theorem not_writes_atomically :
    ¬ WritesAtomically .counting 8 "v" "output.mp4" FileSystem.empty
      (sampleWriters sampleOverlap (by decide +kernel)) := by
  intro atomic
  have mixed : ((sampleWriters sampleOverlap (by decide +kernel)).trace.any fun t =>
      t.action = .turn 0 .proceed 0 && t.reply = .returned 3 (Platform.counting.sha256 [1, 1, 1]) &&
        t.post.disk.read (.artifacts, "v") "output.mp4" = some [2, 1, 1]) = true := by
    decide +kernel
  have source : delivered 0 (sampleWriters sampleOverlap (by decide +kernel)).trace = [1, 1, 1] := by
    decide +kernel
  obtain ⟨t, member, facts⟩ := List.any_eq_true.mp mixed
  simp only [Bool.and_eq_true, decide_eq_true_eq] at facts
  have read := (atomic.reports t member 0 .proceed 0 _ _ facts.1.1 facts.1.2).1
  rw [facts.2, source] at read
  exact absurd read (by decide)

end InferenceGateway
