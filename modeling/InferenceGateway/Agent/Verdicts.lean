import InferenceGateway.Agent.Moves

/-!
# Which failures are retryable

A connection error or a 5xx is worth another pod, a 4xx is not.  Every call
keeps to the rule but the fetch of the input, whose 4xx goes through the
handler of unforeseen exceptions.
-/

namespace InferenceGateway

open Library

/-- Statuses that are no verdict on the request: the gateway's 409 is a stale lease, and
`sglang` has forgotten the job it answers 404 for. -/
def RunnerPoint.Exempts (status : Nat) : RunnerPoint → Prop
  | .fetching | .uploading .. => status = 409
  | .polling _ => status = 404
  | _ => False

/-- The rule of the protocol for the exchange a failure came from. -/
def Classified (point : RunnerPoint) (retryable : Bool) : HttpOutcome → Prop
  | .response response =>
    (500 ≤ response.status → response.status < 600 → retryable = true) ∧
      (400 ≤ response.status → response.status < 500 → ¬ point.Exempts response.status →
        retryable = false)
  | .httpError _ => retryable = true
  | .exception _ | .interrupted => True

/-- The gateway refuses the input with a 4xx other than 409. -/
def InputRefused (t : RunnerTransition) : Prop :=
  t.pre.point = .fetching ∧ ∃ response, t.action = .answer (.response response) ∧
    400 ≤ response.status ∧ response.status < 500 ∧ response.status ≠ 409

/-- Every failure of the execution keeps to the rule. -/
def WellClassified (trace : List RunnerTransition) : Prop :=
  ∀ t ∈ trace, ∀ outcome error retryable, t.action = .answer outcome →
    t.reply = .returns (failedResult error retryable) →
      Classified t.pre.point retryable outcome

/-- The exception makes a failure of the given kind. -/
def Raised.Fails (retryable : Bool) : Raised → Prop
  | .sglang _ retryable' => retryable' = retryable
  | .exception _ => retryable = true
  | _ => False

theorem returns_cancelled_ne {error : String} {retryable : Bool} :
    RunnerReply.returns cancelledResult ≠ .returns (failedResult error retryable) := by
  simp [cancelledResult, failedResult]

theorem returns_completed_ne {platform : Platform} {media : Bytes} {error : String}
    {retryable : Bool} :
    RunnerReply.returns (completedResult platform media) ≠
      .returns (failedResult error retryable) := by
  simp [completedResult, failedResult]

theorem fails_of_handle {state : RunnerState} {exception : Raised} {error : String}
    {retryable : Bool}
    (returns : (state.handle exception).1 = .returns (failedResult error retryable)) :
    exception.Fails retryable := by
  cases exception with
  | cancelled =>
    simp only [RunnerState.handle] at returns
    split at returns
    · cases returns
    · exact absurd returns returns_cancelled_ne
  | staleLease | interrupted => cases returns
  | sglang message retryable' =>
    cases returns
    rfl
  | exception message =>
    cases returns
    rfl

section Calls

variable {platform : Platform} {job : AgentAssignment} {outcome : HttpOutcome}
  {exception : Raised} {retryable : Bool}

theorem classified_fetchInput (raises : fetchInput platform job outcome = .error exception)
    (fails : exception.Fails retryable) (accepted : ∀ response, outcome = .response response →
      ¬ (400 ≤ response.status ∧ response.status < 500 ∧ response.status ≠ 409)) :
    Classified .fetching retryable outcome := by
  cases outcome with
  | httpError message | exception message =>
    cases raises
    first | exact fails | trivial
  | interrupted => trivial
  | response response =>
    have accepted := accepted response rfl
    simp only [fetchInput] at raises
    split at raises
    · cases raises
      cases fails
    · split at raises
      · cases raises
        refine ⟨fun _ _ => fails, fun least most fresh => ?_⟩
        exact absurd ⟨least, most, fresh⟩ accepted
      · split at raises
        · cases raises
        · next fine _ =>
          exact ⟨fun least _ => absurd least (by omega), fun least _ => absurd least (by omega)⟩

theorem classified_createVideo {image : Bytes} {endpoint : String}
    (raises : createVideo endpoint outcome = .error exception)
    (fails : exception.Fails retryable) : Classified (.creating image) retryable outcome := by
  cases outcome with
  | httpError message =>
    cases raises
    exact fails.symm
  | exception message => trivial
  | interrupted => trivial
  | response response =>
    simp only [createVideo] at raises
    split at raises
    · next high =>
      cases raises
      exact ⟨fun _ _ => fails.symm, fun _ low => absurd high (by omega)⟩
    · split at raises
      · next low _ =>
        cases raises
        exact ⟨fun high => absurd high low, fun _ _ _ => fails.symm⟩
      · exact ⟨fun least => absurd least (by omega), fun least => absurd least (by omega)⟩

theorem classified_pollVideo {id : String} (raises : pollVideo outcome = .error exception)
    (fails : exception.Fails retryable) : Classified (.polling id) retryable outcome := by
  cases outcome with
  | httpError message =>
    cases raises
    exact fails.symm
  | exception message => trivial
  | interrupted => trivial
  | response response =>
    simp only [pollVideo] at raises
    split at raises
    · next high =>
      cases raises
      exact ⟨fun _ _ => fails.symm, fun _ low => absurd high (by omega)⟩
    · next low =>
      split at raises
      · next forgotten =>
        exact ⟨fun high => absurd high low, fun _ _ known => absurd forgotten known⟩
      · split at raises
        · cases raises
          exact ⟨fun high => absurd high low, fun _ _ _ => fails.symm⟩
        · exact ⟨fun least => absurd least (by omega), fun least => absurd least (by omega)⟩

theorem classified_downloadContent {id : String}
    (raises : downloadContent outcome = .error exception) (fails : exception.Fails retryable) :
    Classified (.downloading id) retryable outcome := by
  cases outcome with
  | httpError message =>
    cases raises
    exact fails.symm
  | exception message => trivial
  | interrupted => trivial
  | response response =>
    simp only [downloadContent] at raises
    split at raises
    · cases raises
      refine ⟨fun high _ => ?_, fun _ low _ => ?_⟩
      · exact fails.symm.trans (decide_eq_true high)
      · exact fails.symm.trans (decide_eq_false (by omega))
    · cases raises

theorem classified_uploadArtifact {media : Bytes} {attempt : Int}
    (raises : uploadArtifact outcome = .error exception) (fails : exception.Fails retryable) :
    Classified (.uploading media attempt) retryable outcome := by
  cases outcome with
  | httpError message => cases raises
  | exception message => trivial
  | interrupted => trivial
  | response response =>
    simp only [uploadArtifact] at raises
    split at raises
    · cases raises
      cases fails
    · split at raises
      · cases raises
      · split at raises
        · next low =>
          cases raises
          exact ⟨fun high => absurd high (by omega), fun _ _ _ => fails.symm⟩
        · cases raises

/-- What is worth another attempt is worth another pod. -/
theorem classified_missed {media : Bytes} {attempt : Int} {last : String}
    (uploaded : uploadArtifact outcome = .ok (some last)) :
    Classified (.uploading media attempt) true outcome := by
  cases outcome with
  | httpError message => rfl
  | exception message | interrupted => cases uploaded
  | response response =>
    simp only [uploadArtifact] at uploaded
    split at uploaded
    · cases uploaded
    · split at uploaded
      · cases uploaded
      · split at uploaded
        · cases uploaded
        · exact ⟨fun _ _ => rfl, fun _ low => absurd low (by omega)⟩

/-- A create that was answered with an id was not refused. -/
theorem classified_created {image : Bytes} {endpoint id : String}
    (created : createVideo endpoint outcome = .ok id) :
    Classified (.creating image) retryable outcome := by
  obtain ⟨-, response, payload, rfl, low, -⟩ := createVideo_ok created
  exact ⟨fun least => absurd least (by omega), fun least => absurd least (by omega)⟩

theorem classified_downloaded {id : String} {media : Bytes}
    (downloaded : downloadContent outcome = .ok media) :
    Classified (.downloading id) retryable outcome := by
  obtain ⟨response, rfl, accepted, -⟩ := downloadContent_ok downloaded
  exact ⟨fun least => absurd least (by omega), fun least => absurd least (by omega)⟩

end Calls

variable {platform : Platform} {config : RunnerConfig} {assignment : AgentAssignment} {now : ℚ}

theorem classified_step {t : RunnerTransition}
    (fires : (runner platform config assignment now).Fires t) {outcome : HttpOutcome}
    {error : String} {retryable : Bool} (answered : t.action = .answer outcome)
    (failed : t.reply = .returns (failedResult error retryable)) (accepted : ¬ InputRefused t) :
    Classified t.pre.point retryable outcome := by
  obtain ⟨pre, action, reply, post⟩ := t
  subst answered failed
  have moves : Move platform config pre (.answer outcome)
    (.returns (failedResult error retryable), post) := move fires
  generalize result : (RunnerReply.returns (failedResult error retryable), post) = both at moves
  have replied : both.1 = .returns (failedResult error retryable) := by rw [← result]
  cases moves with
  | threw throws =>
    have fails := fails_of_handle replied
    cases throws with
    | fetching here raises =>
      rw [here]
      refine classified_fetchInput raises fails fun response same refused => accepted ?_
      subst same
      exact ⟨here, response, rfl, refused⟩
    | creating here raises =>
      rw [here]
      exact classified_createVideo raises fails
    | polling here raises =>
      rw [here]
      exact classified_pollVideo raises fails
    | downloading here raises =>
      rw [here]
      exact classified_downloadContent raises fails
    | uploading here raises =>
      rw [here]
      exact classified_uploadArtifact raises fails
  | fetched here fetched =>
    unfold RunnerState.fetched at replied
    split at replied
    · exact absurd replied returns_cancelled_ne
    · cases replied
  | created here created =>
    rw [here]
    exact classified_created created
  | finished here polled => cases replied
  | waits here polled =>
    unfold RunnerState.onPoll at replied
    split at replied
    · exact (fails_of_handle replied).elim
    · cases replied
  | downloaded here downloaded =>
    rw [here]
    exact classified_downloaded downloaded
  | landed here uploaded => exact absurd replied returns_completed_ne
  | missed here uploaded =>
    rw [here]
    simp only [RunnerState.uploaded] at replied
    split at replied
    · cases replied
    · obtain rfl : true = retryable := fails_of_handle replied
      exact classified_missed uploaded
  | deleted here =>
    cases outcome with
    | httpError message | exception message | interrupted => cases replied
    | response response =>
      simp only [RunnerState.cancelAnswered] at replied
      split at replied
      · exact absurd replied returns_cancelled_ne
      · cases replied
  | cancelled here =>
    cases outcome with
    | httpError message => exact absurd replied returns_cancelled_ne
    | exception message | interrupted => cases replied
    | response response =>
      simp only [RunnerState.cancelAnswered, ite_self] at replied
      exact absurd replied returns_cancelled_ne

/-- A refused input fails as retryable. -/
theorem not_classified_of_inputRefused {t : RunnerTransition}
    (fires : (runner platform config assignment now).Fires t) (refused : InputRefused t) :
    ∃ outcome error, t.action = .answer outcome ∧
      t.reply = .returns (failedResult error true) ∧ ¬ Classified t.pre.point true outcome := by
  obtain ⟨here, response, answered, least, most, fresh⟩ := refused
  refine ⟨_, "agent error: " ++ response.refusal, answered, ?_, ?_⟩
  · have raises : fetchInput platform t.pre.job.assignment (.response response) =
        .error (.exception response.refusal) := by
      rw [fetchInput, if_neg fresh, if_pos (.inr (by omega))]
    have steps : t.pre.step platform config t.action = some (t.reply, t.post) := fires
    rw [answered] at steps
    simp only [RunnerState.step, here, raises, RunnerState.settle] at steps
    exact (congrArg Prod.fst (Option.some.inj steps)).symm
  · rw [here]
    rintro ⟨-, client⟩
    exact absurd (client least most fresh) (by simp)

/-- The failures of an execution keep to the rule exactly when the gateway does not refuse the
input. -/
theorem failures_classified (platform : Platform) (config : RunnerConfig)
    (assignment : AgentAssignment) (now : ℚ) (run : RunnerRun platform config assignment now) :
    WellClassified run.trace ↔ ∀ t ∈ run.trace, ¬ InputRefused t := by
  constructor
  · intro classified t member refused
    obtain ⟨outcome, error, answered, failed, wrong⟩ :=
      not_classified_of_inputRefused (run.run.fires_of_mem member) refused
    exact wrong (classified t member outcome error true answered failed)
  · intro accepted t member outcome error retryable answered failed
    exact classified_step (run.run.fires_of_mem member) answered failed (accepted t member)

/-- The gateway has no input for the job any more. -/
def sampleMissing : RunnerRun .counting sampleRunner sampleAssignment 0 :=
  sampleExecution [.begin, .answer (sampleResponse 404 [] fun _ => none)] (by decide +kernel)

theorem not_failures_classified :
    ¬ ∀ run : RunnerRun .counting sampleRunner sampleAssignment 0, WellClassified run.trace := by
  intro classified
  have refused : (sampleMissing.trace.any fun t =>
      match t.pre.point, t.action with
      | .fetching, .answer (.response response) => response.status == 404
      | _, _ => false) = true := by decide +kernel
  obtain ⟨t, member, holds⟩ := List.any_eq_true.mp refused
  split at holds
  · next response here answered =>
    have missing : response.status = 404 := beq_iff_eq.mp holds
    obtain ⟨outcome, error, same, failed, wrong⟩ := not_classified_of_inputRefused
      (sampleMissing.run.fires_of_mem member)
      ⟨here, response, answered, by omega, by omega, by omega⟩
    exact wrong (classified sampleMissing t member outcome error true same failed)
  · cases holds

end InferenceGateway
