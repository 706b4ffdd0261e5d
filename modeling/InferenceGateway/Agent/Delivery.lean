import InferenceGateway.Agent.Exchanges

/-!
# Completed means delivered

An execution that returns `completed` has gone through all five exchanges: the
input came and matched, one job was created with it, that job finished, its clip
was downloaded, and the gateway took the clip.
-/

namespace InferenceGateway

open Library

/-- The creation a step sends to `sglang`. -/
def RunnerReply.creation : RunnerReply → Option HttpCall
  | .calls (.createVideo endpoint data image) => some (.createVideo endpoint data image)
  | _ => none

def creations (trace : List RunnerTransition) : List HttpCall :=
  trace.filterMap fun t => t.reply.creation

section Exchanges

variable (platform : Platform) (assignment : AgentAssignment) (trace : List RunnerTransition)

/-- The image is the input of the assignment, and `sglang` was asked for one video, with the
fields of the assignment and that image. -/
structure Submitted (image : Bytes) : Prop where
  fetched : ∃ response,
    Answered trace (.getInput assignment.inputUrl assignment.leaseId) (.response response) ∧
      200 ≤ response.status ∧ response.status < 300 ∧ response.content = image
  matched : ∀ digest, assignment.inputSha256 = some digest → digest ≠ "" →
    platform.sha256 image = digest
  once : creations trace = [.createVideo assignment.endpoint assignment.form image]

/-- `sglang` took the job in under an id. -/
def Created (image : Bytes) (id : String) : Prop :=
  ∃ response payload, Answered trace
      (.createVideo assignment.endpoint assignment.form image) (.response response) ∧
    response.status < 400 ∧ response.payload = .ok payload ∧ payload "id" = some (.text id)

/-- A status poll saw the job finished. -/
def Finished (id : String) : Prop :=
  ∃ response payload, Answered trace (.getVideo id) (.response response) ∧
    response.status < 400 ∧ response.payload = .ok payload ∧ statusOf payload ∈ terminalOk

def Downloaded (id : String) (media : Bytes) : Prop :=
  ∃ response, Answered trace (.getContent id) (.response response) ∧ response.status = 200 ∧
    response.content = media

/-- The gateway took the clip under the lease of the assignment. -/
def Stored (media : Bytes) : Prop :=
  ∃ response, Answered trace (.postArtifact assignment.jobId assignment.leaseId "output.mp4"
      (platform.sha256 media) media) (.response response) ∧ response.status < 300

structure ClipLanded (image : Bytes) (id : String) (media : Bytes) : Prop where
  submitted : Submitted platform assignment trace image
  created : Created assignment trace image id
  finished : Finished trace id
  downloaded : Downloaded trace id media
  stored : Stored platform assignment trace media

/-- What has happened before an execution is at a point. -/
def Reached : RunnerPoint → Prop
  | .entering | .fetching => creations trace = []
  | .creating image => Submitted platform assignment trace image
  | .polling id | .sleeping id =>
    ∃ image, Submitted platform assignment trace image ∧ Created assignment trace image id
  | .downloading id => ∃ image, Submitted platform assignment trace image ∧
      Created assignment trace image id ∧ Finished trace id
  | .uploading media _ | .backingOff media _ =>
    ∃ image id, Submitted platform assignment trace image ∧ Created assignment trace image id ∧
      Finished trace id ∧ Downloaded trace id media
  | .returned body => body.state = .string "completed" →
      ∃ image id media, ClipLanded platform assignment trace image id media ∧
        body = completedResult platform media
  | .deleting _ | .cancelling _ | .raised _ => True

end Exchanges

/-- From here the execution does not complete any more. -/
def RunnerPoint.Fruitless : RunnerPoint → Prop
  | .deleting _ | .cancelling _ | .raised _ => True
  | .returned body => body.state ≠ .string "completed"
  | _ => False

variable {platform : Platform} {config : RunnerConfig} {assignment : AgentAssignment} {start : ℚ}
  {trace : List RunnerTransition} {t : RunnerTransition}

/-! ### Later steps -/

section Append

variable {image : Bytes} {id : String} {media : Bytes}

theorem creations_append (trace : List RunnerTransition) (t : RunnerTransition) :
    creations (trace ++ [t]) = creations trace ++ t.reply.creation.toList := by
  cases created : t.reply.creation <;> simp [creations, created]

theorem Submitted.append (submitted : Submitted platform assignment trace image)
    (quiet : t.reply.creation = none) : Submitted platform assignment (trace ++ [t]) image := by
  obtain ⟨⟨response, answered, accepted⟩, matched, once⟩ := submitted
  refine ⟨⟨response, answered.append _, accepted⟩, matched, ?_⟩
  rw [creations_append, once, quiet]
  rfl

theorem Created.append {later : List RunnerTransition}
    (created : Created assignment trace image id) :
    Created assignment (trace ++ later) image id := by
  obtain ⟨response, payload, answered, rest⟩ := created
  exact ⟨response, payload, answered.append _, rest⟩

theorem Finished.append {later : List RunnerTransition} (finished : Finished trace id) :
    Finished (trace ++ later) id := by
  obtain ⟨response, payload, answered, rest⟩ := finished
  exact ⟨response, payload, answered.append _, rest⟩

theorem Downloaded.append (downloaded : Downloaded trace id media) :
    Downloaded (trace ++ [t]) id media := by
  obtain ⟨response, answered, rest⟩ := downloaded
  exact ⟨response, answered.append _, rest⟩

theorem Stored.append (stored : Stored platform assignment trace media) :
    Stored platform assignment (trace ++ [t]) media := by
  obtain ⟨response, answered, rest⟩ := stored
  exact ⟨response, answered.append _, rest⟩

theorem ClipLanded.append (delivered : ClipLanded platform assignment trace image id media)
    (quiet : t.reply.creation = none) :
    ClipLanded platform assignment (trace ++ [t]) image id media where
  submitted := delivered.submitted.append quiet
  created := delivered.created.append
  finished := delivered.finished.append
  downloaded := delivered.downloaded.append
  stored := delivered.stored.append

/-- Steps that create nothing leave what was reached. -/
theorem Reached.append {point : RunnerPoint} (reached : Reached platform assignment trace point)
    (quiet : t.reply.creation = none) : Reached platform assignment (trace ++ [t]) point := by
  cases point with
  | entering | fetching =>
    change creations (trace ++ [t]) = []
    rw [creations_append, quiet, Option.toList_none, List.append_nil]
    exact reached
  | creating image => exact Submitted.append reached quiet
  | polling id | sleeping id =>
    obtain ⟨image, submitted, created⟩ := reached
    exact ⟨image, submitted.append quiet, created.append⟩
  | downloading id =>
    obtain ⟨image, submitted, created, finished⟩ := reached
    exact ⟨image, submitted.append quiet, created.append, finished.append⟩
  | uploading media attempt | backingOff media attempt =>
    obtain ⟨image, id, submitted, created, finished, downloaded⟩ := reached
    exact ⟨image, id, submitted.append quiet, created.append, finished.append, downloaded.append⟩
  | returned body =>
    intro completed
    obtain ⟨image, id, media, delivered, same⟩ := reached completed
    exact ⟨image, id, media, delivered.append quiet, same⟩
  | deleting | cancelling | raised => trivial

theorem reached_of_fruitless {point : RunnerPoint} (fruitless : point.Fruitless) :
    Reached platform assignment trace point := by
  cases point with
  | returned body => exact fun completed => absurd completed fruitless
  | deleting | cancelling | raised => trivial
  | _ => exact fruitless.elim

end Append

theorem fruitless_handle (state : RunnerState) (exception : Raised) :
    (state.handle exception).2.point.Fruitless ∧ (state.handle exception).1.creation = none := by
  cases exception with
  | cancelled =>
    simp only [RunnerState.handle]
    split
    · exact ⟨trivial, rfl⟩
    · exact ⟨by simp [RunnerState.returns, RunnerPoint.Fruitless, cancelledResult], rfl⟩
  | staleLease | interrupted => exact ⟨trivial, rfl⟩
  | sglang message retryable | exception message =>
    exact ⟨by simp [RunnerState.handle, RunnerState.returns, RunnerPoint.Fruitless], rfl⟩

theorem fruitless_cancelAnswered {state : RunnerState} {next : RunnerReply × RunnerState}
    (fruitless : next.2.point.Fruitless ∧ next.1.creation = none) (outcome : HttpOutcome) :
    (state.cancelAnswered next outcome).2.point.Fruitless ∧
      (state.cancelAnswered next outcome).1.creation = none := by
  cases outcome with
  | response response =>
    simp only [RunnerState.cancelAnswered]
    split
    · exact ⟨by simp [RunnerState.returns, RunnerPoint.Fruitless, cancelledResult], rfl⟩
    · exact fruitless
  | httpError message => exact fruitless
  | exception message | interrupted => exact ⟨trivial, rfl⟩

/-- An execution works on its assignment and has gone through the exchanges before its point. -/
structure Proceeded (platform : Platform) (assignment : AgentAssignment)
    (trace : List RunnerTransition) (state : RunnerState) : Prop where
  own : state.job.assignment = assignment
  reached : Reached platform assignment trace state.point

/-! ### The five exchanges -/

section Last

variable {final : RunnerState} {outcome : HttpOutcome} {image media : Bytes} {id : String}
  {attempt : Int}
  (run : (runner platform config assignment start).Run (.starting assignment start)
    (trace ++ [t]) final)
  (own : t.pre.job.assignment = assignment) (answers : t.action = .answer outcome)

include run own answers

theorem submitted_of_fetched (here : t.pre.point = .fetching)
    (fetched : fetchInput platform t.pre.job.assignment outcome = .ok image)
    (before : creations trace = [])
    (sent : t.reply.creation = some (.createVideo assignment.endpoint assignment.form image)) :
    Submitted platform assignment (trace ++ [t]) image := by
  obtain ⟨response, rfl, least, most, content, checked⟩ := fetchInput_ok fetched
  have waiting : t.pre.pending platform =
      some (.getInput assignment.inputUrl assignment.leaseId) := by
    rw [RunnerState.pending, here, own]
  refine ⟨⟨response, answered_of_mem run (by simp) waiting answers, least, most, content⟩, ?_, ?_⟩
  · intro digest given nonempty
    exact matched_of_checks (own ▸ checked) given nonempty
  · rw [creations_append, before, sent]
    rfl

theorem created_of_answered (here : t.pre.point = .creating image)
    (created : createVideo t.pre.job.assignment.endpoint outcome = .ok id) :
    Created assignment (trace ++ [t]) image id := by
  obtain ⟨-, response, payload, rfl, low, loaded, named⟩ := createVideo_ok created
  have waiting : t.pre.pending platform =
      some (.createVideo assignment.endpoint assignment.form image) := by
    rw [RunnerState.pending, here, own]
  exact ⟨response, payload, answered_of_mem run (by simp) waiting answers, low, loaded, named⟩

theorem stored_of_uploaded (here : t.pre.point = .uploading media attempt)
    (uploaded : uploadArtifact outcome = .ok none) :
    Stored platform assignment (trace ++ [t]) media := by
  obtain ⟨response, rfl, status⟩ := uploadArtifact_ok uploaded
  have waiting : t.pre.pending platform = some (.postArtifact assignment.jobId
      assignment.leaseId "output.mp4" (platform.sha256 media) media) := by
    rw [RunnerState.pending, here, JobState.jobId, own]
  exact ⟨response, answered_of_mem run (by simp) waiting answers, status⟩

omit own

theorem finished_of_polled (here : t.pre.point = .polling id)
    (polled : pollVideo outcome = .ok true) : Finished (trace ++ [t]) id := by
  obtain ⟨response, payload, rfl, low, loaded, finished, -⟩ := pollVideo_ok polled
  have waiting : t.pre.pending platform = some (.getVideo id) := by
    rw [RunnerState.pending, here]
  exact ⟨response, payload, answered_of_mem run (by simp) waiting answers, low, loaded,
    finished.mpr rfl⟩

theorem downloaded_of_answered (here : t.pre.point = .downloading id)
    (downloaded : downloadContent outcome = .ok media) : Downloaded (trace ++ [t]) id media := by
  obtain ⟨response, rfl, status, content⟩ := downloadContent_ok downloaded
  have waiting : t.pre.pending platform = some (.getContent id) := by
    rw [RunnerState.pending, here]
  exact ⟨response, answered_of_mem run (by simp) waiting answers, status, content⟩

end Last

/-- What has been reached after a step, from what had been reached before it. -/
theorem reached_step (run : (runner platform config assignment start).Run
      (.starting assignment start) trace t.pre)
    (fires : (runner platform config assignment start).Fires t)
    (proceeded : Proceeded platform assignment trace t.pre) :
    Reached platform assignment (trace ++ [t]) t.post.point := by
  have own := proceeded.own
  have reached := proceeded.reached
  have run := run.snoc fires
  have moves := moves_of_fires fires
  obtain ⟨pre, action, reply, post⟩ := t
  dsimp only at own reached moves run ⊢
  generalize result : (reply, post) = both at moves
  have replied : reply = both.1 := congrArg Prod.fst result
  have point : post.point = both.2.point := congrArg (fun pair => pair.2.point) result
  have append (point : RunnerPoint) (reached : Reached platform assignment trace point)
      (quiet : reply.creation = none) :
      Reached platform assignment (trace ++ [⟨pre, action, reply, post⟩]) point :=
    reached.append quiet
  rw [point]
  cases moves with
  | flagged | ticked => exact reached.append (congrArg RunnerReply.creation replied)
  | began here =>
    rw [here] at reached
    exact append .fetching reached (congrArg RunnerReply.creation replied)
  | threw throws => exact reached_of_fruitless (fruitless_handle _ _).1
  | fetched here fetched =>
    rw [here] at reached
    unfold RunnerState.fetched at replied ⊢
    split at replied
    · next flagged =>
      rw [if_pos flagged]
      exact reached_of_fruitless
        (by simp [RunnerState.returns, RunnerPoint.Fruitless, cancelledResult])
    · next unflagged =>
      rw [if_neg unflagged]
      apply submitted_of_fetched run own rfl here fetched reached
      rw [replied, own]
      rfl
  | @created image outcome id here created =>
    rw [here] at reached
    unfold RunnerState.created RunnerState.await at replied ⊢
    split at replied
    · next late =>
      rw [if_pos late]
      exact reached_of_fruitless (fruitless_handle _ _).1
    · next early =>
      rw [if_neg early]
      have submitted : Submitted platform assignment
          (trace ++ [⟨pre, .answer outcome, reply, post⟩]) image :=
        Submitted.append reached (congrArg RunnerReply.creation replied)
      exact ⟨image, submitted, created_of_answered run own rfl here created⟩
  | @finished id outcome here polled =>
    rw [here] at reached
    obtain ⟨image, submitted, created⟩ := reached
    exact ⟨image, submitted.append (congrArg RunnerReply.creation replied), created.append,
      finished_of_polled run rfl here polled⟩
  | @waits id outcome here polled =>
    rw [here] at reached
    unfold RunnerState.onPoll at replied ⊢
    split at replied
    · next flagged =>
      rw [if_pos flagged]
      exact reached_of_fruitless (fruitless_handle _ _).1
    · next unflagged =>
      rw [if_neg unflagged]
      exact append (.sleeping id) reached (congrArg RunnerReply.creation replied)
  | @polls id here early =>
    rw [here] at reached
    exact append (.polling id) reached (congrArg RunnerReply.creation replied)
  | @downloaded id outcome media here downloaded =>
    rw [here] at reached
    obtain ⟨image, submitted, created, finished⟩ := reached
    unfold RunnerState.downloaded RunnerState.upload at replied ⊢
    split at replied
    · next attempts =>
      rw [if_pos attempts]
      exact ⟨image, id, submitted.append (congrArg RunnerReply.creation replied),
        created.append, finished.append, downloaded_of_answered run rfl here downloaded⟩
    · next attempts =>
      rw [if_neg attempts]
      exact reached_of_fruitless (fruitless_handle _ _).1
  | @landed media attempt outcome here uploaded =>
    rw [here] at reached
    obtain ⟨image, id, submitted, created, finished, downloaded⟩ := reached
    intro _
    exact ⟨image, id, media, {
      submitted := submitted.append (congrArg RunnerReply.creation replied)
      created := created.append
      finished := finished.append
      downloaded := downloaded.append
      stored := stored_of_uploaded run own rfl here uploaded }, rfl⟩
  | @missed media attempt outcome last here uploaded =>
    rw [here] at reached
    simp only [RunnerState.uploaded] at replied ⊢
    split at replied
    · next attempts =>
      rw [if_pos attempts]
      exact append (.backingOff media attempt) reached (congrArg RunnerReply.creation replied)
    · next attempts =>
      rw [if_neg attempts]
      exact reached_of_fruitless (fruitless_handle _ _).1
  | @posts media attempt here =>
    rw [here] at reached
    exact append (.uploading media (attempt + 1)) reached
      (congrArg RunnerReply.creation replied)
  | @deleted id outcome here =>
    have next : (pre.cancelAgain id).2.point.Fruitless ∧
        (pre.cancelAgain id).1.creation = none := ⟨trivial, rfl⟩
    exact reached_of_fruitless (fruitless_cancelAnswered next outcome).1
  | cancelled =>
    refine reached_of_fruitless (fruitless_cancelAnswered ⟨?_, rfl⟩ _).1
    simp [RunnerState.returns, RunnerPoint.Fruitless, cancelledResult]

theorem proceeded_of_run {final : RunnerState}
    (run : (runner platform config assignment start).Run (.starting assignment start) trace final) :
    Proceeded platform assignment trace final := by
  apply run.history (P := Proceeded platform assignment)
  · exact ⟨rfl, rfl⟩
  · intro before t run fires proceeded
    exact ⟨(moves_of_fires fires).job.assignment.trans proceeded.own,
      reached_step run fires proceeded⟩

/-- An upload that is answered 409 raises `StaleLease`. -/
theorem stale_of_conflict {call : HttpCall} {response : HttpResponse}
    (fires : (runner platform config assignment start).Fires t)
    {jobId leaseId filename sha256 : String} {media : Bytes}
    (posted : call = .postArtifact jobId leaseId filename sha256 media)
    (waiting : t.pre.pending platform = some call)
    (answers : t.action = .answer (.response response)) (conflict : response.status = 409) :
    t.post.point = .raised .staleLease := by
  have steps : t.pre.step platform config t.action = some (t.reply, t.post) := fires
  have raises : uploadArtifact (.response response) = .error .staleLease := by
    rw [uploadArtifact, if_pos conflict]
  unfold RunnerState.pending at waiting
  split at waiting <;> cases waiting <;> cases posted
  next attempt here =>
    rw [answers] at steps
    simp only [RunnerState.step, here, raises, RunnerState.settle] at steps
    exact (congrArg (fun pair => pair.2.point) (Option.some.inj steps)).symm

/-- `completed` is returned only when the clip was delivered, and a stale upload ends the
execution without a result. -/
theorem completed_delivered (platform : Platform) (config : RunnerConfig)
    (assignment : AgentAssignment) (start : ℚ) (run : RunnerRun platform config assignment start) :
    (∀ body, run.final.point = .returned body → body.state = .string "completed" →
        ∃ image id media, ClipLanded platform assignment run.trace image id media ∧
          body = completedResult platform media) ∧
      ∀ jobId leaseId filename sha256 media response,
        Answered run.trace (.postArtifact jobId leaseId filename sha256 media)
            (.response response) → response.status = 409 →
          run.final.point = .raised .staleLease := by
  constructor
  · intro body returned completed
    have reached := (proceeded_of_run run.run).reached
    rw [returned] at reached
    exact reached completed
  · intro jobId leaseId filename sha256 media response answered conflict
    obtain ⟨t, member, waiting, answers⟩ := answered.mem run.run
    obtain ⟨before, after, split⟩ := List.append_of_mem member
    have whole := run.run
    rw [split] at whole
    obtain ⟨-, fires, rest⟩ := whole.split
    have stale := stale_of_conflict fires rfl waiting answers conflict
    rw [point_of_run rest (by rw [stale]; rfl), stale]

/-- The first attempt meets a failing gateway, the second one lands. -/
def sampleCompleted : RunnerRun .counting sampleRunner sampleAssignment 0 :=
  sampleExecution (sampleGenerating ++ sampleDownloading ++
    [.answer (sampleResponse 503 [] fun _ => none), .wake,
      .answer (sampleResponse 201 [] fun _ => none)]) (by decide +kernel)

theorem completed_delivered_sample : ∃ image id media,
    ClipLanded .counting sampleAssignment sampleCompleted.trace image id media := by
  have ended : (match sampleCompleted.final.point with
      | .returned body => body.state == .string "completed"
      | _ => false) = true := by decide +kernel
  split at ended
  · next body returned =>
    obtain ⟨image, id, media, landed, -⟩ := (completed_delivered .counting sampleRunner
      sampleAssignment 0 sampleCompleted).1 body returned (beq_iff_eq.mp ended)
    exact ⟨image, id, media, landed⟩
  · cases ended

end InferenceGateway
