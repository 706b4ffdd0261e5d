import InferenceGateway.Runs.Inputs
import InferenceGateway.Runs.Media

/-!
# Inputs of unfinished jobs

The input of a job is written before the job has a row, and stays until the job
is finished, unless an upload for the job fails its checksum or the orphan
sweep takes the directory for an abandoned one.
-/

namespace InferenceGateway

open Library Relation

variable {platform : Platform} {prepare : Prepare} {config : Config} {t : GatewayTransition}

/-! ### Images -/

/-- The creation of the video was accepted with the image. -/
def Sent (platform : Platform) (history : List GatewayTransition) (id : String) (image : Bytes) :
    Prop :=
  ∃ u ∈ history, ∃ request form, u.action = .createVideo request ∧ request.form = .ok form ∧
    form.image = some image ∧ id = platform.newVideoId u.pre.videos ∧
    u.post.videos = u.pre.videos + 1

theorem Sent.append {history : List GatewayTransition} {id : String} {image : Bytes}
    (sent : Sent platform history id image) (later : List GatewayTransition) :
    Sent platform (history ++ later) id image := by
  obtain ⟨u, member, accepted⟩ := sent
  exact ⟨u, List.mem_append_left later member, accepted⟩

theorem read_writeInput {disk disk' : Disk} {path : DiskPath} {bytes : Bytes} {now : Millis}
    (written : Disk.writeInput disk path bytes now = some disk') :
    disk'.read (path.root, path.job) path.name = some bytes := by
  obtain ⟨⟨inode, opened⟩, truncated, rfl⟩ := Option.map_eq_some_iff.mp written
  obtain ⟨links, content, -⟩ := FileSystem.openTruncate_spec truncated
  have linked : opened.link (path.root, path.job) path.name = some inode := by
    rw [links, if_pos ⟨rfl, rfl⟩]
  have empty : opened.content inode = [] := by rw [content, Function.update_self]
  rw [FileSystem.read, FileSystem.link_write, linked, Option.map_some, FileSystem.content_write,
    if_pos rfl, empty]
  simp [splice]

/-- Where creations write is where their jobs read. -/
structure Placed (platform : Platform) (history : List GatewayTransition) (creation : Creation) :
    Prop where
  root : creation.job.inputPath.root = .inputs
  job : creation.job.inputPath.job = creation.job.id
  sent : Sent platform history creation.job.id creation.image

theorem placed_step (fires : (gateway platform prepare config).Fires t)
    {history : List GatewayTransition}
    (placed : ∀ k creation, t.pre.tasks.lookup k = some (.creation creation) →
      Placed platform history creation) {k : Nat} {creation : Creation}
    (running : t.post.tasks.lookup k = some (.creation creation)) :
    Placed platform (history ++ [t]) creation := by
  have onward {creation : Creation} (earlier : Placed platform history creation) :
      Placed platform (history ++ [t]) creation :=
    ⟨earlier.root, earlier.job, earlier.sent.append [t]⟩
  have change := taskChange fires k
  rw [running] at change
  generalize before : t.pre.tasks.lookup k = first at change
  generalize after : some (Task.creation creation) = last at change
  cases change with
  | same =>
    subst after
    exact onward (placed k creation before)
  | spawned fresh counted spawned =>
    cases after
    cases spawned with
    | creation action id registered createdAt input minted placed sent =>
      obtain ⟨form, read, attached⟩ := sent
      exact ⟨input, placed, t, by simp, _, form, action, read, attached, id, minted⟩
  | continued action continues =>
    cases after
    cases continues with
    | creation job image =>
      obtain ⟨root, named, sent⟩ := onward (placed k _ before)
      exact ⟨job ▸ root, job ▸ named, by rw [job, image]; exact sent⟩
  | returned => cases after
  | lost => cases after

theorem read_removeJob_self (disk : Disk) (id n : String) (root : Root) :
    (disk.removeJob id).read (root, id) n = none := by
  have unlinked : (disk.removeJob id).link (root, id) n = none := by
    rw [Disk.removeJob, FileSystem.link_removeTree, FileSystem.link_removeTree]
    cases root with
    | inputs => rw [if_neg (by simp), if_pos rfl]
    | artifacts => rw [if_pos rfl]
  rw [FileSystem.read, unlinked, Option.map_none]

theorem streams_of_run {trace : List GatewayTransition} {final : Gateway}
    (run : (gateway platform prepare config).Run (gateway platform prepare config).initial
      trace final) : final.Streams := by
  refine (run.invariant (P := fun state => Fresh platform state ∧ state.Streams)
    ⟨fresh_initial, by rintro _ _ _ ⟨⟩⟩ ?_).2
  rintro t fires ⟨fresh, streams⟩
  exact ⟨fresh_step fires fresh, streams_step fires fresh streams⟩

end InferenceGateway
