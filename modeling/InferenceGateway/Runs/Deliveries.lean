import InferenceGateway.Runs.Authority
import InferenceGateway.Runs.InputFiles

/-!
# Inputs reach the pods as they were uploaded

Whatever the directory of inputs holds for a job is the image its request came
with, so an agent is never streamed other bytes than those whose digest and
length its assignment names.
-/

namespace InferenceGateway

open Library Relation

section Files

variable {platform : Platform} {prepare : Prepare} {config : Config} {t : GatewayTransition}

theorem read_writeInput_of_ne {disk disk' : Disk} {path : DiskPath} {bytes : Bytes} {now : Millis}
    (written : Disk.writeInput disk path bytes now = some disk') {d : Root × String} {n : String}
    (other : ¬ (d = (path.root, path.job) ∧ n = path.name)) : disk'.read d n = disk.read d n := by
  obtain ⟨⟨inode, opened⟩, truncated, rfl⟩ := Option.map_eq_some_iff.mp written
  have linked : opened.link (path.root, path.job) path.name = some inode := by
    rw [(FileSystem.openTruncate_spec truncated).1, if_pos ⟨rfl, rfl⟩]
  rw [FileSystem.read_write_of_ne, FileSystem.read_openTruncate_of_ne truncated other]
  exact fun same => other (opened.link_injective _ _ _ _ _ same linked)

/-- The files of a job are the image it was sent with, and its row points to them. -/
structure Provided (platform : Platform) (history : List GatewayTransition) (state : Gateway) :
    Prop where
  creations : ∀ k creation, state.tasks.lookup k = some (.creation creation) →
    Placed platform history creation
  files : ∀ id name bytes, state.disk.read (.inputs, id) name = some bytes →
    Sent platform history id bytes
  rows : ∀ id job path, state.store.get id = some job → job.inputPath = some path →
    path.root = .inputs ∧ path.job = id

theorem sent_of_change (fires : (gateway platform prepare config).Fires t)
    (streams : t.pre.Streams) {history : List GatewayTransition}
    (provided : Provided platform history t.pre) {id name : String} {bytes : Bytes}
    (stored : t.post.disk.read (.inputs, id) name = some bytes) :
    Sent platform history id bytes := by
  cases inputChange fires streams id with
  | untouched reads => exact provided.files id name bytes (reads name ▸ stored)
  | made _ _ after =>
    rw [after, FileSystem.read_mkdir] at stored
    exact provided.files id name bytes stored
  | @written token creation _ running _ after =>
    obtain ⟨root, job, sent⟩ := provided.creations token creation running
    by_cases here : ((.inputs, id) : Root × String) =
        (creation.job.inputPath.root, creation.job.inputPath.job) ∧
          name = creation.job.inputPath.name
    · obtain ⟨same, rfl⟩ := here
      have named : id = creation.job.id := (congrArg Prod.snd same).trans job
      rw [same, read_writeInput after] at stored
      rw [named, ← Option.some.inj stored]
      exact sent
    · rw [read_writeInput_of_ne after here] at stored
      exact provided.files id name bytes stored
  | concluded _ _ _ after =>
    rw [after, Disk.removeInput, FileSystem.read, FileSystem.link_removeTree, if_pos rfl] at stored
    cases stored
  | expired _ _ _ after | swept _ _ _ after | mismatched _ _ _ _ after =>
    rw [after, read_removeJob_self] at stored
    cases stored

theorem provided_step (fires : (gateway platform prepare config).Fires t)
    (streams : t.pre.Streams) {history : List GatewayTransition}
    (provided : Provided platform history t.pre) :
    Provided platform (history ++ [t]) t.post where
  creations _ _ running := placed_step fires provided.creations running
  files _ _ _ stored := (sent_of_change fires streams provided stored).append [t]
  rows id job' path found' placed := by
    cases found : t.pre.store.get id with
    | none =>
      obtain ⟨k, creation, -, running, rfl, rfl, -⟩ := row_origin fires found' found
      obtain ⟨root, job, -⟩ := provided.creations k creation running
      cases placed
      exact ⟨root, job⟩
    | some job =>
      have change := rowChange fires id
      rw [found, found'] at change
      cases change with
      | touched touches =>
        rcases inputPath_touches touches with same | gone
        · exact provided.rows id job path found (same ▸ placed)
        · cases gone.symm.trans placed

theorem provided_of_run {trace : List GatewayTransition} {final : Gateway}
    (run : (gateway platform prepare config).Run (gateway platform prepare config).initial
      trace final) : Provided platform trace final := by
  apply run.history
  · exact ⟨by rintro _ _ ⟨⟩, by rintro _ _ _ ⟨⟩, by rintro _ _ _ ⟨⟩⟩
  · exact fun before t earlier fires provided =>
      provided_step fires (streams_of_run earlier) provided

/-- A creation that is not refused mints the next name. -/
theorem counted_of_pending {pre post : Gateway} {request : VideoRequest} {token : Nat}
    (stepped : pre.createVideo platform prepare config request = (.pending token, post)) :
    post.videos = pre.videos + 1 := by
  unfold Gateway.createVideo at stepped
  split at stepped
  · cases stepped
  · split at stepped
    · cases stepped
    · cases stepped
    · split at stepped
      · cases stepped
      · cases stepped
        rfl

/-- The image of a job is the one of the request that enqueued it. -/
theorem image_of_enqueues {trace : List GatewayTransition} {final : Gateway}
    (run : (gateway platform (prepared platform config) config).Run
      (gateway platform (prepared platform config) config).initial trace final)
    {u : GatewayTransition} (member : u ∈ trace) {order : Order}
    (enqueues : Enqueues platform config u order) {image : Bytes}
    (sent : Sent platform trace order.id image) :
    (∃ form, u.action = .createVideo ⟨true, .ok form⟩ ∧ form.image = some image) ∧
      order.inputSha256 = some (platform.sha256 image) ∧ order.inputBytes = some image.length := by
  obtain ⟨v, member', request, form', action', content, attached', minted, counted'⟩ := sent
  obtain ⟨form, image', spec, action, attached, -, -, -, digest, length, -⟩ := enqueues.request
  have counted : u.post.videos = u.pre.videos + 1 := by
    have fires := run.fires_of_mem member
    have stepped : u.pre.step platform (prepared platform config) config u.action =
      some (u.reply, u.post) := fires
    rw [action, enqueues.reply] at stepped
    exact counted_of_pending (Option.some.inj stepped)
  obtain rfl : u = v := by
    apply run.eq_of_counter Gateway.videos (fun _ fires => (progresses fires).videos) member member'
    · omega
    · omega
    · exact platform.newVideoId_injective (enqueues.id.symm.trans minted)
  cases action.symm.trans action'
  cases content
  cases attached.symm.trans attached'
  exact ⟨⟨form', action, attached'⟩, digest, length⟩

end Files

/-! ### Streams -/

/-- What is streamed as the input of a job is the image its client sent: it goes to an agent that
named the lease of the job, and has the digest and the length that its assignment names. -/
def InputsDelivered {deployment : Deployment} (run : ServiceRun deployment) : Prop :=
  ∀ (before : List ServiceTransition) (t : ServiceTransition) (after : List ServiceTransition),
    run.trace = before ++ t :: after → ∀ stream : InputStream, t.reply = .input stream →
      stream.contentLength = stream.body.length ∧
      ∃ first v second, before = first ++ v :: second ∧
        ∃ u ∈ first, ∃ headers id lease request response job,
          u.action = .query headers (.input id (some lease)) ∧
          deployment.Credential .agent headers ∧ u.pre.gateway.store.get id = some job ∧
          job.holds lease = true ∧ Examines v u (.input request) ∧
          Examines t v (.opening response) ∧
          job.inputSha256 = some (deployment.platform.sha256 stream.body) ∧
          job.inputBytes = some stream.body.length ∧
          ∃ w ∈ first, ∃ headers form x,
            w.action = .command headers (.createVideo ⟨true, .ok form⟩) ∧
            deployment.Credential .client headers ∧ form.image = some stream.body ∧
            acted w = some x ∧ Enqueues deployment.platform deployment.config x job.order

theorem inputs_delivered (deployment : Deployment) (run : ServiceRun deployment) :
    InputsDelivered run := by
  intro before t after split stream sends
  have whole := run.run
  rw [split] at whole
  obtain ⟨earlier, fires, -⟩ := whole.split
  have seen := gateway_of_run earlier
  obtain ⟨v, response, awaited, opens, opened⟩ := awaited_of_input earlier fires sends
  cases awaited with
  | @opening first second u _ request _ asked examines announced =>
    cases asked with
    | @input _ _ headers id leaseId _ member action credential accepted =>
      obtain ⟨stored, length⟩ := stream_eq_ok opened
      obtain ⟨path, bytes, stored', length'⟩ := announce_eq_ok announced
      obtain ⟨job, found, -, current, placed⟩ := input_eq_ok accepted
      obtain ⟨lease, rfl, -, held⟩ := leaseIs_iff.mp current
      have announcing := earlier.split.1
      obtain ⟨start, rest, same⟩ := List.append_of_mem member
      have prior := (same ▸ announcing).split.1
      obtain ⟨w, ordered, headers', request', x, given, credential', performs, enqueues⟩ :=
        ordered_of_requests prior found
      have ordered : w ∈ first := by
        rw [same]
        exact List.mem_append_left _ ordered
      obtain ⟨root, named⟩ :=
        (provided_of_run (gateway_of_run prior)).rows id job request.path found placed
      rw [root, named] at stored'
      rw [path, root, named] at stored
      have sent := (provided_of_run seen).files id request.path.name stream.body stored
      -- the file that was announced held the image of the same request
      have sent' : Sent deployment.platform ((first ++ v :: second).filterMap acted) id bytes := by
        have early := (provided_of_run (gateway_of_run announcing)).files id request.path.name bytes
          stored'
        rw [List.filterMap_append]
        exact early.append _
      have whose : job.order.id = id := JobStore.id_of_get found
      have inside : x ∈ (first ++ v :: second).filterMap acted :=
        List.mem_filterMap.mpr ⟨w, List.mem_append_left _ ordered, performs⟩
      obtain ⟨⟨form, creates, attached⟩, digest, count⟩ :=
        image_of_enqueues seen inside enqueues (whose.symm ▸ sent)
      obtain ⟨-, -, count'⟩ := image_of_enqueues seen inside enqueues (whose.symm ▸ sent')
      obtain rfl : request' = ⟨true, .ok form⟩ :=
        Action.createVideo.inj ((action_of_acted given performs).symm.trans creates)
      have announcedLength : stream.contentLength = stream.body.length := by
        rw [length, length']
        exact Option.some.inj (count'.symm.trans count)
      have consistent :=
        ((sound_of_run (gateway_of_run prior)).row id job found).consistent
      exact ⟨announcedLength, first, v, second, rfl, u, member, headers, id, lease, request,
        response, job, action, credential, found, consistent.holds held, examines, opens, digest,
        count, w, ordered, headers', form, x, given, credential', attached, performs, enqueues⟩

end InferenceGateway
