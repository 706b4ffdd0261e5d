import InferenceGateway.Agent.Runner

/-!
# The turns of a runner

Which turns take the runner of an assignment to a phase, and which of them end in
which result.
-/

namespace InferenceGateway

/-- The input is fetched and submitted, and `sglang` is polled for a while. -/
def generation (data : Bytes) (upstreamId : String) (polls : Nat) : List RunnerEvent :=
  [.begin, .fetched data, .created upstreamId] ++ List.replicate polls .polled

theorem generation_polled (data : Bytes) (upstreamId : String) (polls : Nat) :
    generation data upstreamId polls ++ [.polled] = generation data upstreamId (polls + 1) := by
  rw [generation, generation, List.replicate_succ', List.append_assoc]

/-- The turns that have taken the runner to a phase. -/
inductive Script (platform : Platform) (assignment : AgentAssignment) :
    String → List RunnerEvent → Prop where
  | starting : Script platform assignment "starting" []
  | fetching : Script platform assignment "downloading_input" [.begin]
  | submitting {data : Bytes} (checks : assignment.checks platform data = true) :
      Script platform assignment "submitting" [.begin, .fetched data]
  | generating {data : Bytes} {upstreamId : String} {polls : Nat}
      (checks : assignment.checks platform data = true) :
      Script platform assignment "generating" (generation data upstreamId polls)
  | downloading {data : Bytes} {upstreamId : String} {polls : Nat}
      (checks : assignment.checks platform data = true) :
      Script platform assignment "downloading_output"
        (generation data upstreamId polls ++ [.generated])
  | uploading {data : Bytes} {upstreamId : String} {polls : Nat}
      (checks : assignment.checks platform data = true) :
      Script platform assignment "uploading"
        (generation data upstreamId polls ++ [.generated, .downloaded])

/-- The turns of a runner that has ended, and its result. -/
inductive Verdict (platform : Platform) (assignment : AgentAssignment) :
    List RunnerEvent → ResultBody → Prop where
  | completed {data : Bytes} {upstreamId : String} {polls : Nat} {media : Bytes}
      (checks : assignment.checks platform data = true) :
      Verdict platform assignment
        (generation data upstreamId polls ++ [.generated, .downloaded, .uploaded media])
        (completedResult platform media)
  | corrupted {data : Bytes} (wrong : assignment.checks platform data = false) :
      Verdict platform assignment [.begin, .fetched data]
        (failedResult "input image failed its checksum" true)
  | refused {phase : String} {turns : List RunnerEvent} {message : String} {retryable : Bool}
      (script : Script platform assignment phase turns)
      (here : phase ∈ ["submitting", "generating", "downloading_output", "uploading"]) :
      Verdict platform assignment (turns ++ [.refused message retryable])
        (failedResult message retryable)
  | crashed {phase : String} {turns : List RunnerEvent} {message : String}
      (script : Script platform assignment phase turns) (begun : turns ≠ []) :
      Verdict platform assignment (turns ++ [.crashed message])
        (failedResult ("agent error: " ++ message) true)
  | dropped {data : Bytes} (checks : assignment.checks platform data = true) :
      Verdict platform assignment [.begin, .fetched data] cancelledResult
  | interrupted {data : Bytes} {upstreamId : String} {polls : Nat}
      (checks : assignment.checks platform data = true) :
      Verdict platform assignment (generation data upstreamId (polls + 1)) cancelledResult

variable {platform : Platform} {assignment : AgentAssignment} {turns : List RunnerEvent}

/-! ### The turns before a phase -/

namespace Script

theorem of_starting (script : Script platform assignment "starting" turns) : turns = [] := by
  generalize here : "starting" = phase at script
  cases script <;> simp at here ⊢

theorem of_fetching (script : Script platform assignment "downloading_input" turns) :
    turns = [.begin] := by
  generalize here : "downloading_input" = phase at script
  cases script <;> simp at here ⊢

theorem of_submitting (script : Script platform assignment "submitting" turns) :
    ∃ data, assignment.checks platform data = true ∧ turns = [.begin, .fetched data] := by
  generalize here : "submitting" = phase at script
  cases script <;> simp at here ⊢
  assumption

theorem of_generating (script : Script platform assignment "generating" turns) :
    ∃ data upstreamId polls, assignment.checks platform data = true ∧
      turns = generation data upstreamId polls := by
  generalize here : "generating" = phase at script
  cases script <;> simp at here
  next checks => exact ⟨_, _, _, checks, rfl⟩

theorem of_downloading (script : Script platform assignment "downloading_output" turns) :
    ∃ data upstreamId polls, assignment.checks platform data = true ∧
      turns = generation data upstreamId polls ++ [.generated] := by
  generalize here : "downloading_output" = phase at script
  cases script <;> simp at here
  next checks => exact ⟨_, _, _, checks, rfl⟩

theorem of_uploading (script : Script platform assignment "uploading" turns) :
    ∃ data upstreamId polls, assignment.checks platform data = true ∧
      turns = generation data upstreamId polls ++ [.generated, .downloaded] := by
  generalize here : "uploading" = phase at script
  cases script <;> simp at here
  next checks => exact ⟨_, _, _, checks, rfl⟩

theorem ne_nil {phase : String} (script : Script platform assignment phase turns)
    (begun : phase ≠ "starting") : turns ≠ [] := by
  cases script with
  | starting => exact absurd rfl begun
  | _ => simp [generation]

end Script

/-! ### The next turn -/

variable {state : JobState} {event : RunnerEvent}

/-- A runner gets from each phase to the next one only. -/
theorem script_advance {phase : String} {progress : ℚ} {upstreamId : Option String}
    (script : Script platform state.assignment state.phase turns)
    (continues : state.advance platform event = some (.continues phase progress upstreamId)) :
    Script platform state.assignment phase (turns ++ [event]) := by
  cases event with
  | begin =>
    simp only [JobState.advance] at continues
    split at continues <;> cases continues
    next here =>
      rw [here] at script
      rw [script.of_starting]
      exact .fetching
  | fetched data =>
    simp only [JobState.advance] at continues
    split at continues
    · cases continues
    · next here =>
      rw [not_not.mp here] at script
      split at continues
      · cases continues
      · next checks =>
        split at continues <;> cases continues
        rw [script.of_fetching]
        exact .submitting (by simpa using checks)
  | created id =>
    simp only [JobState.advance] at continues
    split at continues <;> cases continues
    next here =>
      rw [here] at script
      obtain ⟨data, checks, rfl⟩ := script.of_submitting
      change Script platform state.assignment "generating" (generation data id 0)
      exact .generating checks
  | polled =>
    simp only [JobState.advance] at continues
    split at continues
    · cases continues
    · next here =>
      rw [not_not.mp here] at script
      split at continues <;> cases continues
      obtain ⟨data, id, polls, checks, rfl⟩ := script.of_generating
      rw [generation_polled]
      exact .generating checks
  | generated =>
    simp only [JobState.advance] at continues
    split at continues <;> cases continues
    next here =>
      rw [here] at script
      obtain ⟨data, id, polls, checks, rfl⟩ := script.of_generating
      exact .downloading checks
  | downloaded =>
    simp only [JobState.advance] at continues
    split at continues <;> cases continues
    next here =>
      rw [here] at script
      obtain ⟨data, id, polls, checks, rfl⟩ := script.of_downloading
      rw [List.append_assoc]
      exact .uploading checks
  | uploaded | refused | crashed | stale | aborted =>
    simp only [JobState.advance] at continues
    split at continues <;> cases continues

/-- A runner ends with a result only after the turns that lead to it. -/
theorem verdict_of_returns {body : ResultBody}
    (script : Script platform state.assignment state.phase turns)
    (returns : state.advance platform event = some (.returns body)) :
    Verdict platform state.assignment (turns ++ [event]) body := by
  cases event with
  | fetched data =>
    simp only [JobState.advance] at returns
    split at returns
    · cases returns
    · next here =>
      rw [not_not.mp here] at script
      rw [script.of_fetching]
      split at returns
      · next wrong =>
        cases returns
        exact .corrupted (by simpa using wrong)
      · next checks =>
        split at returns <;> cases returns
        exact .dropped (by simpa using checks)
  | polled =>
    simp only [JobState.advance] at returns
    split at returns
    · cases returns
    · next here =>
      rw [not_not.mp here] at script
      split at returns <;> cases returns
      obtain ⟨data, id, polls, checks, rfl⟩ := script.of_generating
      rw [generation_polled]
      exact .interrupted checks
  | uploaded media =>
    simp only [JobState.advance] at returns
    split at returns <;> cases returns
    next here =>
      rw [here] at script
      obtain ⟨data, id, polls, checks, rfl⟩ := script.of_uploading
      rw [List.append_assoc]
      exact .completed checks
  | refused message retryable =>
    simp only [JobState.advance] at returns
    split at returns <;> cases returns
    next here => exact .refused script here
  | crashed message =>
    simp only [JobState.advance] at returns
    split at returns <;> cases returns
    next begun => exact .crashed script (script.ne_nil begun)
  | begin | created | generated | downloaded | stale | aborted =>
    simp only [JobState.advance] at returns
    split at returns <;> cases returns

end InferenceGateway
