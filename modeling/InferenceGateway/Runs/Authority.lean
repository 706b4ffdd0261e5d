import InferenceGateway.Runs.Polls
import InferenceGateway.Runs.Registry
import InferenceGateway.Runs.Workloads
import InferenceGateway.Service

/-!
# Nothing without a credential

Whatever the rows of a running service show was caused by a request, and every
request that acted or was answered presented the credential of its plane.
-/

namespace InferenceGateway

open Library Relation

/-! ### Causes -/

section Causes

variable {platform : Platform} {prepare : Prepare} {config : Config} {trace : List GatewayTransition}
  {final : Gateway}

/-- What a row shows was caused by a step, if new rows do not show it and every update after
which a row shows it has such a cause. -/
theorem cause_of_run (Shows : Job → Prop) (Because : String → GatewayTransition → Prop)
    (unborn : ∀ creation : NewJob, ¬ Shows creation.row)
    (caused : ∀ before t job job', (gateway platform prepare config).Run
      (gateway platform prepare config).initial before t.pre →
      Touch platform config t job job' → Shows job' →
        Shows job ∨ ∃ u ∈ before ++ [t], Because job.id u)
    (run : (gateway platform prepare config).Run (gateway platform prepare config).initial
      trace final) :
    ∀ id job, final.store.get id = some job → Shows job → ∃ u ∈ trace, Because id u := by
  apply run.history
  · exact fun id job found => nomatch found
  · intro before t earlier fires inductionHypothesis id job' found' shows
    have change := rowChange fires id
    rw [found'] at change
    cases present : t.pre.store.get id with
    | none =>
      rw [present] at change
      cases change with
      | created => exact absurd shows (unborn _)
    | some job =>
      rw [present] at change
      cases change with
      | touched touches =>
        have origin : Shows job ∨ ∃ u ∈ before ++ [t], Because id u := by
          obtain rfl := JobStore.id_of_get present
          clear found' present inductionHypothesis
          induction touches with
          | refl => exact .inl shows
          | @tail middle last touches touch inductionHypothesis =>
            rcases caused before t middle last earlier touch shows with already | found
            · exact inductionHypothesis already
            · exact .inr ((fixed_touches touches).1 ▸ found)
        rcases origin with already | found
        · obtain ⟨u, member, cause⟩ := inductionHypothesis id job present already
          exact ⟨u, List.mem_append_left _ member, cause⟩
        · exact found

/-- The pod polls. -/
def PolledBy (podId : String) (t : GatewayTransition) : Prop :=
  ∃ body sessionId, t.action = .poll body sessionId ∧ body.podId.str = some podId

/-- A claim is made for the pod whose poll the step answers. -/
theorem answers_of_claimTurn {t : GatewayTransition} {turn : ClaimTurn}
    (earlier : (gateway platform prepare config).Run (gateway platform prepare config).initial
      trace t.pre) (claims : claimTurn config t = some turn) :
    ∃ u body, Answers trace t u body ∧ body.podId.str = some turn.pod.podId := by
  have named (state : Gateway) (body : PollBody) (podId sessionId : String) :
      (state.renewed config body podId sessionId).pod.podId = podId :=
    (PodStore.touch_spec state.pods (body.heartbeat podId sessionId) state.now).2.1
  unfold claimTurn at claims
  split at claims
  · next body sessionId action =>
    split at claims
    · cases claims
    · next podId given =>
      dsimp only at claims
      split at claims
      · cases claims
      · cases claims
        exact ⟨t, body, ⟨⟨sessionId, action⟩, .inl rfl⟩, by rw [named, given]⟩
  · next token action =>
    split at claims
    · next parked found =>
      cases claims
      obtain ⟨u, body, answers⟩ := answers_of_resumed earlier action found
      obtain ⟨-, parks⟩ := parks_of_answers earlier action found answers
      obtain ⟨sessionId, podId, -, given, -, -, same⟩ := parks.poll
      refine ⟨u, body, answers, ?_⟩
      rw [same, given]
      exact congrArg some (named u.pre body podId sessionId).symm
    · cases claims
  · cases claims

theorem polled_of_claimTurn {t : GatewayTransition} {turn : ClaimTurn}
    (earlier : (gateway platform prepare config).Run (gateway platform prepare config).initial
      trace t.pre) (claims : claimTurn config t = some turn) :
    ∃ u ∈ trace ++ [t], PolledBy turn.pod.podId u := by
  obtain ⟨u, body, ⟨⟨sessionId, action⟩, whose⟩, named⟩ := answers_of_claimTurn earlier claims
  refine ⟨u, ?_, body, sessionId, action, named⟩
  rcases whose with rfl | ⟨member, -⟩
  · exact List.mem_append_right _ List.mem_cons_self
  · exact List.mem_append_left _ member

/-- A pod reports the job completed. -/
structure ReportsCompleted (request : ResultRequest) (id : String) : Prop where
  id : request.id = id
  state : request.body.state = .string "completed"

section Rows

variable (run : (gateway platform prepare config).Run (gateway platform prepare config).initial
  trace final) {id : String} {job : Job} (found : final.store.get id = some job)

include run found

theorem deleted_of_cancelRequested (requested : job.cancelRequested = true) :
    ∃ u ∈ trace, u.action = .deleteVideo id := by
  refine cause_of_run (·.cancelRequested = true) (fun id u => u.action = .deleteVideo id)
    (fun _ => Bool.false_ne_true) ?_ run id job found requested
  intro before t job job' _ touch shows
  cases touch with
  | cancelled action | flagged action => exact .inr ⟨t, by simp, action⟩
  | _ => exact .inl shows

theorem polled_of_podId {podId : String} (owner : job.podId = some podId) :
    ∃ u ∈ trace, PolledBy podId u := by
  refine cause_of_run (·.podId = some podId) (fun _ u => PolledBy podId u) (fun _ => nofun) ?_
    run id job found owner
  intro before t job job' earlier touch shows
  cases touch with
  | claimed claims =>
    obtain rfl := Option.some.inj shows
    exact .inr (polled_of_claimTurn earlier claims)
  | retried | expired => cases shows
  | _ => exact .inl shows

theorem reported_of_completed (completed : job.state = .completed) :
    ∃ u ∈ trace, ∃ request, u.action = .result request ∧ ReportsCompleted request id := by
  refine cause_of_run (·.state = .completed)
    (fun id u => ∃ request, u.action = .result request ∧ ReportsCompleted request id)
    (fun _ => nofun) ?_ run id job found completed
  intro before t job job' _ touch shows
  cases touch with
  | completed reports records =>
    obtain ⟨request, action, named, -⟩ := reports.action
    obtain ⟨request', action', state, -⟩ := records
    cases action.symm.trans action'
    exact .inr ⟨t, by simp, request, action, named, state⟩
  | claimed | acknowledged | retried | failed | lost | expired | overdue | forced | cancelled =>
    cases shows
  | renewed | flagged | cleared | mediaExpired | recovered => exact .inl shows

theorem reported_of_artifact {artifact : Artifact} (recorded : artifact ∈ job.artifacts) :
    ∃ u ∈ trace, ∃ request, u.action = .result request ∧ ReportsCompleted request id ∧
      request.body.artifact = some artifact := by
  refine cause_of_run (artifact ∈ ·.artifacts)
    (fun id u => ∃ request, u.action = .result request ∧ ReportsCompleted request id ∧
      request.body.artifact = some artifact) (fun _ => nofun) ?_ run id job found recorded
  intro before t job job' _ touch shows
  cases touch with
  | completed reports records =>
    obtain ⟨request, action, named, -⟩ := reports.action
    obtain ⟨request', action', state, records⟩ := records
    cases action.symm.trans action'
    obtain rfl := List.mem_singleton.mp shows
    exact .inr ⟨t, by simp, request, action, ⟨named, state⟩, records⟩
  | mediaExpired => cases shows
  | _ => exact .inl shows

end Rows

/-- A job that is sent is held by the pod whose poll is answered. -/
theorem held_of_sent {t : GatewayTransition}
    (earlier : (gateway platform prepare config).Run (gateway platform prepare config).initial
      trace t.pre) (fires : (gateway platform prepare config).Fires t) {assignment : Assignment}
    (sent : assignment ∈ t.reply.assignments) :
    ∃ job podId, t.post.store.get assignment.jobId = some job ∧
      job.leaseId = some assignment.leaseId ∧ job.podId = some podId ∧
      ∃ u body, Answers trace t u body ∧ body.podId.str = some podId := by
  cases claims : claimTurn config t with
  | none =>
    rw [assignments_of_idle fires claims] at sent
    cases sent
  | some turn =>
    have claimed := claims_of_claimTurn fires claims
    rw [claimed.assignments] at sent
    obtain ⟨i, job, place, assigned⟩ := assignment_at sent
    obtain ⟨describes, lease⟩ := describes_of_assignmentFor assigned
    refine ⟨(Update.claim turn.pod.podId (platform.newLeaseId (turn.state.leases + i))
      (turn.state.now + config.leaseTtlMs) turn.state.now).assign job, turn.pod.podId, ?_, ?_, rfl,
      answers_of_claimTurn earlier claims⟩
    · rw [claimed.store, Gateway.claimed, claimFor_eq, describes.jobId]
      exact dispatchAll_at _ turn.queued_taken place
    · rw [lease, claimed.leases]
      rfl

end Causes

/-! ### Credentials -/

/-- What a hook of the plane answers a request that it stops. -/
def Plane.rejection : Plane → ApiError
  | .agent => agentUnauthorized
  | _ => unauthorized

theorem admits_iff {platform : Platform} {key : Option String} {accepted : List String} :
    admits platform key accepted = true ↔ ∃ presented secret, key = some presented ∧
      presented ≠ "" ∧ secret ∈ accepted ∧ safeEqual platform presented secret = true := by
  rw [admits, Option.any_eq_true_iff_get]
  constructor
  · rintro ⟨present, passes⟩
    obtain ⟨nonempty, hit⟩ := Bool.and_eq_true_iff.mp passes
    obtain ⟨secret, member, equal⟩ := (matchesAny_iff platform _ accepted).mp hit
    exact ⟨_, secret, (Option.some_get present).symm, by simpa using nonempty, member, equal⟩
  · rintro ⟨presented, secret, rfl, nonempty, member, equal⟩
    refine ⟨rfl, ?_⟩
    simpa [nonempty] using (matchesAny_iff platform presented accepted).mpr ⟨secret, member, equal⟩

/-- The key in the header of its plane. -/
def Headers.presenting (plane : Plane) (key : String) : Headers :=
  match plane with
  | .everyone => .bare
  | .client => { Headers.bare with apiKey := .single key }
  | .operator => { Headers.bare with adminKey := .single key }
  | .agent => { Headers.bare with agentSecret := .single key }

namespace Deployment

variable (deployment : Deployment)

/-- The headers carry a credential of the plane: it has the digest of an accepted secret. -/
def Credential (plane : Plane) (headers : Headers) : Prop :=
  match plane with
  | .everyone => True
  | .client => ∃ key secret, headers.requestKey = some key ∧ key ≠ "" ∧
      secret ∈ deployment.secrets.apiKeys ∧ safeEqual deployment.platform key secret = true
  | .operator => ∃ key secret, headers.operatorKey = some key ∧ key ≠ "" ∧
      secret ∈ deployment.secrets.operatorKeys ∧ safeEqual deployment.platform key secret = true
  | .agent => ∃ key, headers.agentSecret.text = some key ∧
      safeEqual deployment.platform key deployment.secrets.agentSecret = true

variable {deployment} {plane : Plane} {headers : Headers}

theorem hook_eq_none_iff : deployment.hook plane headers = none ↔
    deployment.Credential plane headers := by
  cases plane with
  | everyone => simp [hook, Credential]
  | client =>
    rw [Credential, ← admits_iff, hook, Secrets.requireApiKey]
    simp
  | operator =>
    rw [Credential, ← admits_iff, hook, Secrets.requireAdminKey]
    simp
  | agent =>
    rw [Credential, hook, Secrets.requireAgentSecret]
    cases headers.agentSecret.text <;> simp

/-- What opens the plane. -/
def keys (deployment : Deployment) : Plane → List String
  | .everyone => []
  | .client => deployment.secrets.apiKeys
  | .operator => deployment.secrets.operatorKeys
  | .agent => [deployment.secrets.agentSecret]

theorem credential_presenting {key : String} (member : key ∈ deployment.keys plane)
    (nonempty : key ≠ "") : deployment.Credential plane (.presenting plane key) := by
  have equal : safeEqual deployment.platform key key = true := beq_self_eq_true _
  cases plane with
  | everyone => trivial
  | client =>
    exact ⟨key, key, Headers.requestKey_of_apiKey rfl nonempty, nonempty, member, equal⟩
  | operator => exact ⟨key, key, rfl, nonempty, member, equal⟩
  | agent =>
    obtain rfl := List.mem_singleton.mp member
    exact ⟨_, rfl, equal⟩

/-- Every plane has a key, and no key is empty. -/
theorem keys_of_booted (restricted : plane ≠ .everyone) :
    deployment.keys plane ≠ [] ∧ ∀ key ∈ deployment.keys plane, key ≠ "" := by
  obtain ⟨env, loaded⟩ := deployment.booted
  obtain ⟨present, filled, secret⟩ := ok_of_loadSecrets loaded
  cases plane with
  | everyone => exact absurd rfl restricted
  | client => exact ⟨present, fun key member => filled key (List.mem_append_left _ member)⟩
  | operator =>
    rw [keys, Secrets.operatorKeys]
    split
    · next some =>
      exact ⟨List.ne_nil_of_length_pos some,
        fun key member => filled key (List.mem_append_right _ member)⟩
    · exact ⟨present, fun key member => filled key (List.mem_append_left _ member)⟩
  | agent =>
    refine ⟨List.cons_ne_nil _ _, fun key member => ?_⟩
    obtain rfl := List.mem_singleton.mp member
    exact secret

theorem rejection_of_hook {error : ApiError} (stops : deployment.hook plane headers = some error) :
    error = plane.rejection := by
  cases plane with
  | everyone => cases stops
  | client | operator =>
    simp only [hook, Secrets.requireApiKey, Secrets.requireAdminKey] at stops
    split at stops <;> cases stops
    rfl
  | agent =>
    simp only [hook, Secrets.requireAgentSecret] at stops
    split at stops
    · cases stops
      rfl
    · split at stops <;> cases stops
      rfl

end Deployment

/-! ### Requests -/

section Requests

variable {deployment : Deployment} {trace : List ServiceTransition} {final : Service}

/-- A request gave the command, with the credential of its plane. -/
def Commanded (deployment : Deployment) (history : List ServiceTransition) (command : Command) :
    Prop :=
  ∃ t ∈ history, ∃ headers, t.action = .command headers command ∧
    deployment.Credential command.plane headers

/-- The step examines the read that `u` left waiting. -/
structure Examines (t u : ServiceTransition) (read : PendingRead) : Prop where
  waits : u.reply = .waiting read
  examines : ∃ place, t.action = .examine place ∧ t.pre.reads[place]? = some read

/-- The read was left waiting by a query that was let through its hook and its route, or by the
step that examined the file of one. -/
inductive Awaited (deployment : Deployment) :
    List ServiceTransition → ServiceTransition → PendingRead → Prop where
  | media {history : List ServiceTransition} {u : ServiceTransition} {headers : Headers}
      {id : String} {request : ContentRequest} (member : u ∈ history)
      (action : u.action = .query headers (.content id))
      (credential : deployment.Credential .client headers)
      (accepted : u.pre.gateway.content deployment.artifacts deployment.cwd id = .ok request)
      (waits : u.reply = .waiting (.media request)) : Awaited deployment history u (.media request)
  | input {history : List ServiceTransition} {u : ServiceTransition} {headers : Headers}
      {id : String} {leaseId : Option String} {request : InputRequest} (member : u ∈ history)
      (action : u.action = .query headers (.input id leaseId))
      (credential : deployment.Credential .agent headers)
      (accepted : u.pre.gateway.input id leaseId = .ok request)
      (waits : u.reply = .waiting (.input request)) : Awaited deployment history u (.input request)
  | opening {before after : List ServiceTransition} {u v : ServiceTransition}
      {request : InputRequest} {response : InputResponse}
      (asked : Awaited deployment before u (.input request))
      (examines : Examines v u (.input request))
      (announced : request.announce v.pre.gateway.disk = .ok response)
      (waits : v.reply = .waiting (.opening response)) :
      Awaited deployment (before ++ v :: after) v (.opening response)

theorem Awaited.append {history : List ServiceTransition} {u : ServiceTransition}
    {read : PendingRead} (awaited : Awaited deployment history u read)
    (later : List ServiceTransition) : Awaited deployment (history ++ later) u read := by
  cases awaited with
  | media member action credential accepted waits =>
    exact .media (List.mem_append_left _ member) action credential accepted waits
  | input member action credential accepted waits =>
    exact .input (List.mem_append_left _ member) action credential accepted waits
  | opening asked examines announced waits =>
    rw [List.append_assoc]
    exact .opening asked examines announced waits

theorem Awaited.waits {history : List ServiceTransition} {u : ServiceTransition}
    {read : PendingRead} (awaited : Awaited deployment history u read) :
    u.reply = .waiting read := by
  cases awaited with
  | media _ _ _ _ waits | input _ _ _ _ waits | opening _ _ _ waits => exact waits

theorem ofExcept_eq_waiting {Result : Type} {answer : Result → Answer}
    {result : Except (Nat × ApiError) Result} {read : PendingRead}
    (waits : Answer.ofExcept answer result = .waiting read) :
    ∃ value, result = .ok value ∧ answer value = .waiting read := by
  cases result with
  | error refusal => cases waits
  | ok value => exact ⟨value, rfl, waits⟩

/-- Only the routes that send files wait. -/
theorem awaited_of_answer {history : List ServiceTransition} {t : ServiceTransition}
    {headers : Headers} {query : Query} {read : PendingRead} (member : t ∈ history)
    (action : t.action = .query headers query)
    (credential : deployment.Credential query.plane headers)
    (reply : t.reply = deployment.answer t.pre.gateway query)
    (waits : t.reply = .waiting read) : Awaited deployment history t read := by
  have answers := reply.symm.trans waits
  cases query with
  | health | listModels | listPods => cases answers
  | getVideo | listVideos | listEvents =>
    obtain ⟨value, -, other⟩ := ofExcept_eq_waiting answers
    cases other
  | content id =>
    obtain ⟨request, accepted, same⟩ := ofExcept_eq_waiting answers
    cases same
    exact .media member action credential accepted waits
  | input id leaseId =>
    obtain ⟨request, accepted, same⟩ := ofExcept_eq_waiting answers
    cases same
    exact .input member action credential accepted waits

/-- What comes of examining a file. -/
theorem examine_cases (disk : Disk) (read : PendingRead) :
    (∃ request, read = .media request ∧ read.examine disk = .media (request.serve disk)) ∨
      (∃ request response, read = .input request ∧ request.announce disk = .ok response ∧
        read.examine disk = .waiting (.opening response)) ∨
      (∃ response stream, read = .opening response ∧ response.stream disk = .ok stream ∧
        read.examine disk = .input stream) ∨
      ∃ status error, read.examine disk = .refused status error := by
  cases read with
  | media request => exact .inl ⟨request, rfl, rfl⟩
  | input request =>
    rw [PendingRead.examine]
    cases announced : request.announce disk with
    | error refusal => exact .inr (.inr (.inr ⟨_, _, rfl⟩))
    | ok response => exact .inr (.inl ⟨request, response, rfl, announced, rfl⟩)
  | opening response =>
    rw [PendingRead.examine]
    cases opened : response.stream disk with
    | error refusal => exact .inr (.inr (.inr ⟨_, _, rfl⟩))
    | ok stream => exact .inr (.inr (.inl ⟨response, stream, rfl, opened, rfl⟩))

/-- The gateway acts on a command that is given with a credential, or by itself. -/
theorem commanded_of_step {t : ServiceTransition} {u : GatewayTransition}
    (fires : (service deployment).Fires t) (performs : acted t = some u) :
    (∃ event : ProcessEvent, t.action = .event event ∧ u.action = event.action) ∨
      ∃ headers command, t.action = .command headers command ∧ u.action = command.action ∧
        deployment.Credential command.plane headers := by
  cases serviceChange fires with
  | rejected _ _ reply => cases (acted_of_unauthorized reply).symm.trans performs
  | asked action | examined action => simp [acted, action] at performs
  | @commanded headers command _ action passes reply =>
    rw [acted, action, reply] at performs
    cases performs
    exact .inr ⟨headers, command, action, rfl, Deployment.hook_eq_none_iff.mp passes⟩
  | @happened event _ action reply =>
    rw [acted, action, reply] at performs
    cases performs
    exact .inl ⟨event, action, rfl⟩

theorem commanded_of_acted (run : (service deployment).Run (service deployment).initial trace final)
    {u : GatewayTransition} (member : u ∈ trace.filterMap acted) :
    (∃ event : ProcessEvent, u.action = event.action) ∨
      ∃ t ∈ trace, ∃ headers command, acted t = some u ∧ t.action = .command headers command ∧
        u.action = command.action ∧ deployment.Credential command.plane headers := by
  obtain ⟨t, inside, performs⟩ := List.mem_filterMap.mp member
  rcases commanded_of_step (run.fires_of_mem inside) performs with ⟨event, -, same⟩ |
    ⟨headers, command, given⟩
  · exact .inl ⟨event, same⟩
  · exact .inr ⟨t, inside, headers, command, performs, given⟩

/-- A command whose action no event of the process and no other command has. -/
theorem commanded_of_action
    (run : (service deployment).Run (service deployment).initial trace final)
    {u : GatewayTransition} (member : u ∈ trace.filterMap acted) {command : Command}
    (action : u.action = command.action)
    (own : ∀ event : ProcessEvent, event.action ≠ command.action)
    (only : ∀ other : Command, other.action = command.action → other = command) :
    Commanded deployment trace command := by
  rcases commanded_of_acted run member with ⟨event, same⟩ | ⟨t, inside, headers, other, -, given,
    same, credential⟩
  · exact absurd (same.symm.trans action) (own event)
  · obtain rfl := only other (same.symm.trans action)
    exact ⟨t, inside, headers, given, credential⟩

theorem commanded_of_polled
    (run : (service deployment).Run (service deployment).initial trace final) {podId : String}
    (polled : ∃ u ∈ trace.filterMap acted, PolledBy podId u) :
    ∃ body sessionId, body.podId.str = some podId ∧
      Commanded deployment trace (.poll body sessionId) := by
  obtain ⟨u, member, body, sessionId, action, named⟩ := polled
  refine ⟨body, sessionId, named, commanded_of_action run member action ?_ ?_⟩
  · intro event same
    cases event <;> cases same
  · intro other same
    cases other <;> cases same
    rfl

theorem commanded_of_result
    (run : (service deployment).Run (service deployment).initial trace final)
    {u : GatewayTransition} (member : u ∈ trace.filterMap acted) {request : ResultRequest}
    (action : u.action = .result request) : Commanded deployment trace (.result request) := by
  refine commanded_of_action run member action ?_ ?_
  · intro event same
    cases event <;> cases same
  · intro other same
    cases other <;> cases same
    rfl

theorem commanded_of_deleted
    (run : (service deployment).Run (service deployment).initial trace final)
    {u : GatewayTransition} (member : u ∈ trace.filterMap acted) {id : String}
    (action : u.action = .deleteVideo id) : Commanded deployment trace (.deleteVideo id) := by
  refine commanded_of_action run member action ?_ ?_
  · intro event same
    cases event <;> cases same
  · intro other same
    cases other <;> cases same
    rfl

/-- Only an operator drains a pod. -/
theorem commanded_of_drained
    (run : (service deployment).Run (service deployment).initial trace final)
    {u : GatewayTransition} (member : u ∈ trace.filterMap acted) {podId : String}
    (action : u.action = .drain podId true) :
    ∃ field, wantsDraining field = true ∧ Commanded deployment trace (.drain podId field) := by
  rcases commanded_of_acted run member with ⟨event, same⟩ | ⟨t, inside, headers, command, -, given,
    same, credential⟩
  · have other := same.symm.trans action
    cases event <;> cases other
  · have drains := same.symm.trans action
    cases command with
    | drain id field =>
      obtain ⟨rfl, wants⟩ := Action.drain.inj drains
      exact ⟨field, wants, t, inside, headers, given, credential⟩
    | _ => cases drains

theorem awaited_of_run (run : (service deployment).Run (service deployment).initial trace final) :
    ∀ read ∈ final.reads, ∃ u, Awaited deployment trace u read := by
  apply run.history
  · exact fun read member => nomatch member
  · intro before t earlier fires inductionHypothesis read member
    have onward (waits : read ∈ t.pre.reads) : ∃ u, Awaited deployment (before ++ [t]) u read := by
      obtain ⟨u, awaited⟩ := inductionHypothesis read waits
      exact ⟨u, awaited.append [t]⟩
    cases serviceChange fires with
    | rejected _ _ _ post => exact onward (post ▸ member)
    | asked action passes reply _ reads =>
      rw [reads, List.mem_append, mem_waits] at member
      rcases member with waits | waits
      · exact onward waits
      · exact ⟨t, awaited_of_answer (by simp) action (Deployment.hook_eq_none_iff.mp passes) reply
          waits⟩
    | commanded _ _ _ _ reads => exact onward (reads ▸ member)
    | happened _ _ _ reads => exact onward (reads member)
    | @examined place examined action waited reply _ reads =>
      rw [reads, List.mem_append, mem_waits] at member
      rcases member with waits | waits
      · exact onward (List.mem_of_mem_eraseIdx waits)
      · obtain ⟨u, awaited⟩ := inductionHypothesis examined (List.mem_of_getElem? waited)
        have examines : Examines t u examined := ⟨awaited.waits, place, action, waited⟩
        have answers := reply.symm.trans waits
        rcases examine_cases t.pre.gateway.disk examined with ⟨_, -, same⟩ |
          ⟨request, response, rfl, announced, same⟩ | ⟨_, _, -, -, same⟩ | ⟨_, _, same⟩
        · cases same.symm.trans answers
        · cases same.symm.trans answers
          exact ⟨t, .opening awaited examines announced waits⟩
        · cases same.symm.trans answers
        · cases same.symm.trans answers

/-- What a route that reads may send. -/
def Answer.reads : Answer → Bool
  | .unauthorized _ | .acted _ | .media _ | .input _ => false
  | _ => true

theorem reads_answer (deployment : Deployment) (state : Gateway) (query : Query) :
    (deployment.answer state query).reads = true := by
  have refusals {Result : Type} (answer : Result → Answer) (result : Except (Nat × ApiError) Result)
      (fine : ∀ value, (answer value).reads = true) :
      (Answer.ofExcept answer result).reads = true := by
    cases result with
    | error refusal => rfl
    | ok value => exact fine value
  cases query with
  | health | listModels | listPods => rfl
  | _ => exact refusals _ _ fun _ => rfl

theorem rejected_step {t : ServiceTransition} (fires : (service deployment).Fires t) {plane : Plane}
    {headers : Headers} (request : t.action.request = some (plane, headers))
    (unfounded : ¬ deployment.Credential plane headers) :
    t.reply = .unauthorized plane.rejection ∧ t.post = t.pre := by
  have stops : deployment.hook plane headers ≠ none := fun passes =>
    unfounded (Deployment.hook_eq_none_iff.mp passes)
  cases serviceChange fires with
  | rejected request' hook reply post =>
    cases request.symm.trans request'
    exact ⟨by rw [reply, Deployment.rejection_of_hook hook], post⟩
  | asked action passes | commanded action passes =>
    rw [action] at request
    cases request
    exact absurd passes stops
  | happened action | examined action =>
    rw [action] at request
    cases request

theorem passed_step {t : ServiceTransition} (fires : (service deployment).Fires t) {plane : Plane}
    {headers : Headers} (request : t.action.request = some (plane, headers))
    (credential : deployment.Credential plane headers) (error : ApiError) :
    t.reply ≠ .unauthorized error := by
  have passes := Deployment.hook_eq_none_iff.mpr credential
  cases serviceChange fires with
  | rejected request' hook =>
    cases request.symm.trans request'
    cases passes.symm.trans hook
  | @asked _ query _ _ reply =>
    have reads := reads_answer deployment t.pre.gateway query
    intro same
    rw [← reply, same] at reads
    cases reads
  | commanded _ _ reply | happened _ reply =>
    rw [reply]
    exact Answer.noConfusion
  | examined action =>
    rw [action] at request
    cases request

/-- What the gateway answers is sent as it is. -/
theorem acted_of_reply {t : ServiceTransition} (fires : (service deployment).Fires t)
    {answer : Reply} (reply : t.reply = .acted answer) :
    ∃ u, acted t = some u ∧ u.reply = answer := by
  cases serviceChange fires with
  | rejected _ _ reply' => cases reply.symm.trans reply'
  | @asked _ query _ _ reply' =>
    have reads := reads_answer deployment t.pre.gateway query
    rw [← reply', reply] at reads
    cases reads
  | commanded action | happened action => exact ⟨_, by rw [acted, action, reply], rfl⟩
  | @examined _ read _ _ reply' =>
    rw [reply] at reply'
    rcases examine_cases t.pre.gateway.disk read with ⟨_, -, same⟩ | ⟨_, _, -, -, same⟩ |
      ⟨_, _, -, -, same⟩ | ⟨_, _, same⟩ <;> cases reply'.trans same

def Answer.isFile : Answer → Bool
  | .media _ | .input _ => true
  | _ => false

/-- The answer to a query that had to wait. -/
theorem examines_of_reply {before : List ServiceTransition} {t : ServiceTransition}
    (earlier : (service deployment).Run (service deployment).initial before t.pre)
    (fires : (service deployment).Fires t) (file : t.reply.isFile = true) :
    ∃ u read, t.reply = read.examine t.pre.gateway.disk ∧ Awaited deployment before u read ∧
      Examines t u read := by
  cases serviceChange fires with
  | rejected _ _ reply | commanded _ _ reply | happened _ reply =>
    rw [reply] at file
    cases file
  | @asked _ query _ _ reply =>
    have reads := reads_answer deployment t.pre.gateway query
    rw [← reply] at reads
    cases answer : t.reply with
    | media | input => simp [answer, Answer.reads] at reads
    | _ => simp [answer, Answer.isFile] at file
  | @examined place read action waited reply =>
    obtain ⟨u, awaited⟩ := awaited_of_run earlier read (List.mem_of_getElem? waited)
    exact ⟨u, read, reply, awaited, awaited.waits, place, action, waited⟩

theorem awaited_of_media {before : List ServiceTransition} {t : ServiceTransition}
    (earlier : (service deployment).Run (service deployment).initial before t.pre)
    (fires : (service deployment).Fires t) {reply : ContentReply} (sends : t.reply = .media reply) :
    ∃ u request, Awaited deployment before u (.media request) ∧ Examines t u (.media request) ∧
      reply = request.serve t.pre.gateway.disk := by
  obtain ⟨u, read, examined, awaited, examines⟩ :=
    examines_of_reply earlier fires (by rw [sends]; rfl)
  rw [sends] at examined
  rcases examine_cases t.pre.gateway.disk read with ⟨request, rfl, same⟩ | ⟨_, _, -, -, same⟩ |
    ⟨_, _, -, -, same⟩ | ⟨_, _, same⟩
  · cases examined.trans same
    exact ⟨u, request, awaited, examines, rfl⟩
  all_goals cases examined.trans same

theorem awaited_of_input {before : List ServiceTransition} {t : ServiceTransition}
    (earlier : (service deployment).Run (service deployment).initial before t.pre)
    (fires : (service deployment).Fires t) {stream : InputStream} (sends : t.reply = .input stream) :
    ∃ v response, Awaited deployment before v (.opening response) ∧
      Examines t v (.opening response) ∧ response.stream t.pre.gateway.disk = .ok stream := by
  obtain ⟨v, read, examined, awaited, examines⟩ :=
    examines_of_reply earlier fires (by rw [sends]; rfl)
  rw [sends] at examined
  rcases examine_cases t.pre.gateway.disk read with ⟨_, -, same⟩ | ⟨_, _, -, -, same⟩ |
    ⟨response, _, rfl, opened, same⟩ | ⟨_, _, same⟩
  case inr.inr.inl =>
    cases examined.trans same
    exact ⟨v, response, awaited, examines, opened⟩
  all_goals cases examined.trans same

end Requests

/-! ### Authority -/

/-- The step answers a poll that was given with the secret of the agents: it is that poll, or the
turn of one that had parked. -/
inductive AnswersPoll (deployment : Deployment) (before : List ServiceTransition)
    (t : ServiceTransition) (body : PollBody) : Prop where
  | own {headers : Headers} {sessionId : String}
      (action : t.action = .command headers (.poll body sessionId))
      (credential : deployment.Credential .agent headers)
  | parked {u : ServiceTransition} {headers : Headers} {sessionId : String} {token : Nat}
      (member : u ∈ before) (action : u.action = .command headers (.poll body sessionId))
      (credential : deployment.Credential .agent headers)
      (parks : u.reply = .acted (.pending token)) (resumes : t.action = .event (.resumePoll token))

/-- What the holders of credentials asked for explains what the service shows and sends. -/
structure AuthorityKept {deployment : Deployment} (run : ServiceRun deployment) : Prop where
  /-- A request without the credential of its plane is turned away, and changes nothing. -/
  rejected : ∀ t ∈ run.trace, ∀ plane headers, t.action.request = some (plane, headers) →
    ¬ deployment.Credential plane headers →
      t.reply = .unauthorized plane.rejection ∧ t.post = t.pre
  /-- A request with the credential gets past the hook. -/
  passed : ∀ t ∈ run.trace, ∀ plane headers, t.action.request = some (plane, headers) →
    deployment.Credential plane headers → ∀ error, t.reply ≠ .unauthorized error
  /-- The secrets that the process booted with open their planes, and every plane has one. -/
  opens : ∀ plane, plane ≠ .everyone → deployment.keys plane ≠ [] ∧
    ∀ key ∈ deployment.keys plane, key ≠ "" ∧ deployment.Credential plane (.presenting plane key)
  /-- Rows are what clients ordered. -/
  rows : ∀ id job, run.final.gateway.store.get id = some job →
    ∃ t ∈ run.trace, ∃ headers request u, t.action = .command headers (.createVideo request) ∧
      deployment.Credential .client headers ∧ acted t = some u ∧
      Enqueues deployment.platform deployment.config u job.order
  cancels : ∀ id job, run.final.gateway.store.get id = some job → job.cancelRequested = true →
    Commanded deployment run.trace (.deleteVideo id)
  owners : ∀ id job podId, run.final.gateway.store.get id = some job → job.podId = some podId →
    ∃ body sessionId, body.podId.str = some podId ∧
      Commanded deployment run.trace (.poll body sessionId)
  completed : ∀ id job, run.final.gateway.store.get id = some job → job.state = .completed →
    ∃ request, ReportsCompleted request id ∧ Commanded deployment run.trace (.result request)
  artifacts : ∀ id job, run.final.gateway.store.get id = some job → ∀ artifact ∈ job.artifacts,
    ∃ request, ReportsCompleted request id ∧ request.body.artifact = some artifact ∧
      Commanded deployment run.trace (.result request)
  /-- The registry lists agents. -/
  pods : ∀ podId pod, run.final.gateway.pods.get podId = some pod →
    ∃ body sessionId, body.podId.str = some podId ∧
      Commanded deployment run.trace (.poll body sessionId)
  draining : ∀ podId pod, run.final.gateway.pods.get podId = some pod → pod.draining = true →
    ∃ field, wantsDraining field = true ∧ Commanded deployment run.trace (.drain podId field)
  /-- Work is sent in answer to a poll of the pod that holds it from then on. -/
  assignments : ∀ (before : List ServiceTransition) (t : ServiceTransition)
    (after : List ServiceTransition), run.trace = before ++ t :: after →
    ∀ reply, t.reply = .acted reply → ∀ assignment ∈ reply.assignments,
      ∃ job podId body, t.post.gateway.store.get assignment.jobId = some job ∧
        job.leaseId = some assignment.leaseId ∧ job.podId = some podId ∧
        body.podId.str = some podId ∧ AnswersPoll deployment before t body
  /-- Media are sent to clients that asked for them. -/
  media : ∀ (before : List ServiceTransition) (t : ServiceTransition)
    (after : List ServiceTransition), run.trace = before ++ t :: after →
    ∀ reply, t.reply = .media reply → ∃ u ∈ before, ∃ headers id request,
      u.action = .query headers (.content id) ∧ deployment.Credential .client headers ∧
      u.pre.gateway.content deployment.artifacts deployment.cwd id = .ok request ∧
      Examines t u (.media request) ∧ reply = request.serve t.pre.gateway.disk
  /-- Inputs are sent to agents that named the current lease. -/
  inputs : ∀ (before : List ServiceTransition) (t : ServiceTransition)
    (after : List ServiceTransition), run.trace = before ++ t :: after →
    ∀ stream, t.reply = .input stream → ∃ first v second, before = first ++ v :: second ∧
      ∃ u ∈ first, ∃ headers id lease request response,
        u.action = .query headers (.input id (some lease)) ∧
        deployment.Credential .agent headers ∧ Holds u.pre.gateway id lease ∧
        u.pre.gateway.input id (some lease) = .ok request ∧ Examines v u (.input request) ∧
        request.announce v.pre.gateway.disk = .ok response ∧ Examines t v (.opening response) ∧
        response.stream t.pre.gateway.disk = .ok stream

/-- The drain flag of a pod is set by a step. -/
theorem drained_of_draining {podId : String} {first : GatewayTransition}
    {since : List GatewayTransition} {pod : Pod} (recounts : Recounts podId first since pod)
    (draining : pod.draining = true) : ∃ u ∈ since, u.action = .drain podId true := by
  have said := recounts.draining.symm.trans draining
  cases last : latest (drainOf podId) since with
  | none => simp [last] at said
  | some flag =>
    rw [last, Option.getD_some] at said
    subst said
    obtain ⟨u, member, drains⟩ := List.exists_of_findSome?_eq_some last
    refine ⟨u, List.mem_reverse.mp member, ?_⟩
    unfold drainOf at drains
    split at drains
    · next id draining action =>
      split at drains
      · next here =>
        cases drains
        rw [action, here]
      · cases drains
    · cases drains

theorem polled_of_recounts {podId : String} {first : GatewayTransition}
    {since : List GatewayTransition} {pod : Pod} (recounts : Recounts podId first since pod) :
    PolledBy podId first := by
  obtain ⟨heartbeat, heard, -⟩ := recounts.opening
  unfold heartbeatOf at heard
  split at heard
  · next body sessionId action =>
    split at heard
    · next named => exact ⟨body, sessionId, action, named⟩
    · cases heard
  · cases heard

section Service

variable {deployment : Deployment} {trace : List ServiceTransition} {final : Service}

theorem gateway_of_run (run : (service deployment).Run (service deployment).initial trace final) :
    (gateway deployment.platform deployment.prepare deployment.config).Run
      (gateway deployment.platform deployment.prepare deployment.config).initial
      (trace.filterMap acted) final.gateway :=
  (gatewayView deployment).run run

theorem ordered_of_requests
    (run : (service deployment).Run (service deployment).initial trace final) {id : String}
    {job : Job} (found : final.gateway.store.get id = some job) :
    ∃ t ∈ trace, ∃ headers request u, t.action = .command headers (.createVideo request) ∧
      deployment.Credential .client headers ∧ acted t = some u ∧
      Enqueues deployment.platform deployment.config u job.order := by
  obtain ⟨u, member, enqueues⟩ := (ordered_of_run (gateway_of_run run)).rows id job found
  obtain ⟨form, image, spec, action, -⟩ := enqueues.request
  rcases commanded_of_acted run member with ⟨event, same⟩ | ⟨t, inside, headers, command,
    performs, given, same, credential⟩
  · have other := same.symm.trans action
    cases event <;> cases other
  · have creates := same.symm.trans action
    cases command with
    | createVideo request =>
      exact ⟨t, inside, headers, request, u, given, credential, performs, enqueues⟩
    | _ => cases creates

/-- The gateway polls for a request that polls. -/
theorem command_of_poll {t : ServiceTransition} {u : GatewayTransition} {body : PollBody}
    {sessionId : String} (fires : (service deployment).Fires t) (performs : acted t = some u)
    (polls : u.action = .poll body sessionId) :
    ∃ headers, t.action = .command headers (.poll body sessionId) ∧
      deployment.Credential .agent headers := by
  rcases commanded_of_step fires performs with ⟨event, -, same⟩ |
    ⟨headers, command, given, same, credential⟩
  · have other := same.symm.trans polls
    cases event <;> cases other
  · have own := same.symm.trans polls
    cases command <;> cases own
    exact ⟨headers, given, credential⟩

/-- It resumes a parked poll by itself. -/
theorem event_of_resumePoll {t : ServiceTransition} {u : GatewayTransition} {token : Nat}
    (fires : (service deployment).Fires t) (performs : acted t = some u)
    (resumes : u.action = .resumePoll token) : t.action = .event (.resumePoll token) := by
  rcases commanded_of_step fires performs with ⟨event, happens, same⟩ | ⟨_, command, -, same, -⟩
  · have own := same.symm.trans resumes
    cases event <;> cases own
    exact happens
  · have other := same.symm.trans resumes
    cases command <;> cases other

theorem answersPoll_of_answers {before : List ServiceTransition} {t : ServiceTransition}
    {u w : GatewayTransition} {body : PollBody}
    (earlier : (service deployment).Run (service deployment).initial before t.pre)
    (fires : (service deployment).Fires t) (performs : acted t = some u)
    (answers : Answers (before.filterMap acted) u w body) :
    AnswersPoll deployment before t body := by
  obtain ⟨⟨sessionId, polls⟩, rfl | ⟨member, token, pending, resumes⟩⟩ := answers
  · obtain ⟨headers, action, credential⟩ := command_of_poll fires performs polls
    exact .own action credential
  · obtain ⟨v, inside, performs'⟩ := List.mem_filterMap.mp member
    obtain ⟨headers, action, credential⟩ :=
      command_of_poll (earlier.fires_of_mem inside) performs' polls
    refine .parked inside action credential ?_ (event_of_resumePoll fires performs resumes)
    rw [reply_of_acted performs', pending]

theorem agent_of_sent {before : List ServiceTransition} {t : ServiceTransition}
    (earlier : (service deployment).Run (service deployment).initial before t.pre)
    (fires : (service deployment).Fires t) {reply : Reply} (sends : t.reply = .acted reply)
    {assignment : Assignment} (sent : assignment ∈ reply.assignments) :
    ∃ job podId body, t.post.gateway.store.get assignment.jobId = some job ∧
      job.leaseId = some assignment.leaseId ∧ job.podId = some podId ∧
      body.podId.str = some podId ∧ AnswersPoll deployment before t body := by
  obtain ⟨u, performs, rfl⟩ := acted_of_reply fires sends
  obtain ⟨fires', pre, post⟩ := (gatewayView deployment).moves t u fires performs
  have prior := gateway_of_run earlier
  rw [← show u.pre = t.pre.gateway from pre] at prior
  obtain ⟨job, podId, found, lease, owner, w, body, answers, named⟩ :=
    held_of_sent prior fires' sent
  refine ⟨job, podId, body, ?_, lease, owner, named,
    answersPoll_of_answers earlier fires performs answers⟩
  rw [← show u.post = t.post.gateway from post]
  exact found

end Service

theorem authority_kept (deployment : Deployment) (run : ServiceRun deployment) :
    AuthorityKept run := by
  have seen := gateway_of_run run.run
  have known {podId : String} {pod : Pod} (found : run.final.gateway.pods.get podId = some pod) :
      ∃ first since, Recounts podId first since pod ∧ first ∈ run.trace.filterMap acted ∧
        since ⊆ run.trace.filterMap acted := by
    obtain ⟨-, before, first, since, split, recounts⟩ := registryTells_of_run seen podId pod found
    refine ⟨first, since, recounts, ?_, ?_⟩
    · simp [split]
    · intro u member
      simp [split, member]
  constructor
  case rejected =>
    exact fun t member plane headers => rejected_step (run.run.fires_of_mem member)
  case passed =>
    exact fun t member plane headers => passed_step (run.run.fires_of_mem member)
  case opens =>
    intro plane restricted
    obtain ⟨present, filled⟩ := Deployment.keys_of_booted restricted
    exact ⟨present, fun key member =>
      ⟨filled key member, Deployment.credential_presenting member (filled key member)⟩⟩
  case rows => exact fun id job => ordered_of_requests run.run
  case cancels =>
    intro id job found requested
    obtain ⟨u, member, action⟩ := deleted_of_cancelRequested seen found requested
    exact commanded_of_deleted run.run member action
  case owners =>
    exact fun id job podId found owner =>
      commanded_of_polled run.run (polled_of_podId seen found owner)
  case completed =>
    intro id job found finished
    obtain ⟨u, member, request, action, reports⟩ := reported_of_completed seen found finished
    exact ⟨request, reports, commanded_of_result run.run member action⟩
  case artifacts =>
    intro id job found artifact recorded
    obtain ⟨u, member, request, action, reports, records⟩ :=
      reported_of_artifact seen found recorded
    exact ⟨request, reports, records, commanded_of_result run.run member action⟩
  case pods =>
    intro podId pod found
    obtain ⟨first, since, recounts, member, -⟩ := known found
    exact commanded_of_polled run.run ⟨first, member, polled_of_recounts recounts⟩
  case draining =>
    intro podId pod found draining
    obtain ⟨first, since, recounts, -, later⟩ := known found
    obtain ⟨u, member, action⟩ := drained_of_draining recounts draining
    exact commanded_of_drained run.run (later member) action
  case assignments =>
    intro before t after split reply sends assignment sent
    have whole := run.run
    rw [split] at whole
    obtain ⟨earlier, fires, -⟩ := whole.split
    exact agent_of_sent earlier fires sends sent
  case media =>
    intro before t after split reply sends
    have whole := run.run
    rw [split] at whole
    obtain ⟨earlier, fires, -⟩ := whole.split
    obtain ⟨u, request, awaited, examines, rfl⟩ := awaited_of_media earlier fires sends
    cases awaited with
    | media member action credential accepted =>
      exact ⟨u, member, _, _, request, action, credential, accepted, examines, rfl⟩
  case inputs =>
    intro before t after split stream sends
    have whole := run.run
    rw [split] at whole
    obtain ⟨earlier, fires, -⟩ := whole.split
    obtain ⟨v, response, awaited, opens, opened⟩ := awaited_of_input earlier fires sends
    cases awaited with
    | @opening first second u _ request _ asked examines announced =>
      cases asked with
      | @input _ _ headers id leaseId _ member action credential accepted =>
        obtain ⟨job, found, -, current, -⟩ := input_eq_ok accepted
        obtain ⟨lease, rfl, nonempty, held⟩ := leaseIs_iff.mp current
        have holds : Holds u.pre.gateway id lease := by
          obtain ⟨lead, rest, rfl⟩ := List.append_of_mem member
          have sound := sound_of_run (gateway_of_run earlier.split.1.split.1)
          exact ⟨job, found, (sound.row id job found).consistent.holds held⟩
        exact ⟨first, v, second, rfl, u, member, headers, id, lease, request, response, action,
          credential, holds, accepted, examines, announced, opens, opened⟩

/-- A deployment with two API keys and no admin key. -/
def sampleDeployment : Deployment where
  platform := .counting
  config := .default
  secrets := ⟨["key", "other"], "secret", []⟩
  booted := by
    refine ⟨fun name => if name = "GATEWAY_API_KEYS" then some "key, other"
      else if name = "AGENT_SHARED_SECRET" then some "secret" else none, ?_⟩
    rfl
  artifacts := .new "data"
  cwd := ⟨"/srv", by decide +kernel⟩

/-- Requests with the wrong credential and with the right one. -/
def sampleRequests : List ServiceAction :=
  [.command .bare (.poll (samplePoll "pod-a" []) "session"),
    .command (.presenting .client "key") (.poll (samplePoll "pod-a" []) "session"),
    .command (.presenting .agent "secret") (.poll (samplePoll "pod-a" []) "session"),
    .query (.presenting .agent "secret") .listModels,
    .query (.presenting .client "other") .listModels,
    .command (.presenting .client "other") (.drain "pod-a" .absent), .event .sweep]

def sampleService : ServiceRun sampleDeployment :=
  .perform _ sampleRequests (by decide +kernel)

example : sampleService.trace.map (fun t => match t.reply with
    | .unauthorized _ => false
    | _ => true) = [false, false, true, false, true, true, true] := by
  decide +kernel

end InferenceGateway
