import InferenceGateway.Runs.Authority
import InferenceGateway.Runs.Handlers
import InferenceGateway.Runs.Liveness

/-!
# What clients are told about a video

Answers given at different times tell one story: what a client ordered never
changes, a final answer is final, and a video that is gone had been finished
for as long as the rows are kept.
-/

namespace InferenceGateway

open Library Relation

section Rows

variable {platform : Platform} {prepare : Prepare} {config : Config} {t : GatewayTransition}

/-! ### Rows that evolve -/

/-- The later row of a job. -/
structure Job.Evolves (job job' : Job) : Prop where
  order : job'.order = job.order
  attempts : job.attempts ≤ job'.attempts
  started : job.state = .queued → job'.state = .inProgress → job.attempts < job'.attempts
  verdict : job.state.isTerminal = true → job.Settled job' ∧ job'.attempts = job.attempts

theorem Job.Evolves.refl (job : Job) : job.Evolves job where
  order := rfl
  attempts := Nat.le_refl _
  started queued inProgress := by cases queued.symm.trans inProgress
  verdict _ := ⟨.refl job, rfl⟩

theorem Job.Evolves.trans {first second third : Job} (left : first.Evolves second)
    (right : second.Evolves third) : first.Evolves third where
  order := right.order.trans left.order
  attempts := left.attempts.trans right.attempts
  started queued inProgress := by
    cases state : second.state with
    | queued => exact left.attempts.trans_lt (right.started state inProgress)
    | inProgress => exact (left.started queued state).trans_le right.attempts
    | _ =>
      have settled := (right.verdict (by rw [state]; rfl)).1
      cases (settled.state.trans state).symm.trans inProgress
  verdict terminal := by
    obtain ⟨settled, attempts⟩ := left.verdict terminal
    obtain ⟨settled', attempts'⟩ := right.verdict (settled.state ▸ terminal)
    exact ⟨settled.trans settled', attempts'.trans attempts⟩

theorem evolves_touch {job job' : Job} (touch : Touch platform config t job job') :
    job.Evolves job' where
  order := order_touch touch
  attempts := by
    cases touch with
    | claimed => exact Nat.le_succ _
    | _ => exact Nat.le_refl _
  started queued inProgress := by
    cases touch with
    | claimed => exact Nat.lt_succ_self _
    | renewed _ _ _ _ holds =>
      cases queued.symm.trans (holds_iff.mp holds).1
    | flagged _ inFlight | recovered _ inFlight => cases queued.symm.trans inFlight
    | cleared | mediaExpired => cases queued.symm.trans inProgress
    | _ => cases inProgress
  verdict terminal := by
    refine ⟨(settled_touch touch terminal).1, ?_⟩
    cases touch with
    | claimed _ _ queued =>
      rw [queued] at terminal
      cases terminal
    | _ => rfl

theorem evolves_touches {job job' : Job}
    (touches : ReflTransGen (Touch platform config t) job job') : job.Evolves job' := by
  induction touches with
  | refl => exact .refl job
  | tail _ touch inductionHypothesis => exact inductionHypothesis.trans (evolves_touch touch)

/-- The id is taken, and its row is a later one of the job, as long as there is one. -/
def EvolvesAt (platform : Platform) (job : Job) (state : Gateway) : Prop :=
  ¬ Unborn platform state job.id ∧
    ∀ job', state.store.get job.id = some job' → job.Evolves job'

theorem evolvesAt_of_get {state : Gateway} (fresh : Fresh platform state) {id : String} {job : Job}
    (found : state.store.get id = some job) : EvolvesAt platform job state := by
  obtain rfl : job.id = id := JobStore.id_of_get found
  constructor
  · intro unborn
    cases found.symm.trans (get_of_unborn fresh unborn)
  · intro job' found'
    cases found.symm.trans found'
    exact .refl job

theorem evolvesAt_step (fires : (gateway platform prepare config).Fires t) {job : Job}
    (evolves : EvolvesAt platform job t.pre) : EvolvesAt platform job t.post := by
  refine ⟨fun unborn => evolves.1 (unborn_of_post fires unborn), fun job' found => ?_⟩
  cases before : t.pre.store.get job.id with
  | none => exact absurd (unborn_of_created fires found before) evolves.1
  | some middle =>
    have change := rowChange fires job.id
    rw [found, before] at change
    cases change with
    | touched touches => exact (evolves.2 middle before).trans (evolves_touches touches)

/-- A row is dropped when its job has been finished for the retention period. -/
theorem retained_of_purged (fires : (gateway platform prepare config).Fires t)
    (settles : t.pre.Settles platform config) {id : String} {job : Job}
    (found : t.pre.store.get id = some job) (gone : t.post.store.get id = none) :
    job.state.isTerminal = true ∧
      ∃ finishedAt, job.finishedAt = some finishedAt ∧
        finishedAt + config.jobRetentionMs < t.pre.now := by
  have change := rowChange fires id
  rw [found, gone] at change
  cases change with
  | purged _ running old =>
    obtain ⟨finishedAt, finished, passed⟩ := (Option.any_eq_true _ _).mp old
    have started := (settles.dooms _ _ running).1
    have consistent := (settles.sound.row id job found).consistent
    exact ⟨(finishedAt_isSome consistent).mp (by rw [finished]; rfl), finishedAt, finished,
      (lt_sub_iff_add_lt.mp (of_decide_eq_true passed)).trans_le started⟩

/-! ### Answers -/

/-- The response describes the row of its video. -/
def Told (config : Config) (state : Gateway) (response : VideoResponse) : Prop :=
  ∃ job, state.store.get response.id = some job ∧ response = state.respond config job

theorem told_of_get (config : Config) {state : Gateway} {id : String} {job : Job}
    (found : state.store.get id = some job) : Told config state (state.respond config job) := by
  obtain rfl := JobStore.id_of_get found
  exact ⟨job, found, rfl⟩

def Reply.video? : Reply → Option VideoResponse
  | .video _ response => some response
  | _ => none

/-- What a route answers about a video is so. -/
def Truthful (config : Config) (answer : Reply × Gateway) : Prop :=
  ∀ response, answer.1.video? = some response → Told config answer.2 response

theorem Truthful.of_none {config : Config} {answer : Reply × Gateway}
    (silent : answer.1.video? = none) : Truthful config answer :=
  fun _ answers => nomatch silent.symm.trans answers

theorem Truthful.of_told {config : Config} {status : Nat} {response : VideoResponse}
    {state : Gateway} (told : Told config state response) :
    Truthful config (.video status response, state) := by
  rintro _ ⟨⟩
  exact told

section Routes

variable (config : Config) (state : Gateway)

theorem truthful_createVideo (request : VideoRequest) :
    Truthful config (state.createVideo platform prepare config request) := by
  unfold Gateway.createVideo
  split
  · exact .of_none rfl
  · split
    · exact .of_none rfl
    · exact .of_none rfl
    · split <;> exact .of_none rfl

theorem truthful_upload (request : UploadRequest) :
    Truthful config (state.upload config request) := by
  unfold Gateway.upload
  split
  · exact .of_none rfl
  · dsimp only
    split_ifs <;> exact .of_none rfl

theorem truthful_result (request : ResultRequest) :
    Truthful config (state.result config request) := by
  unfold Gateway.result Gateway.completeResult Gateway.cancelResult Gateway.failResult
  split
  · exact .of_none rfl
  · dsimp only
    split_ifs
    case pos => exact .of_none rfl
    · split
      · exact .of_none rfl
      · split_ifs <;> exact .of_none rfl
    all_goals exact .of_none rfl

theorem truthful_setDrain (podId : String) (draining : Bool) :
    Truthful config (state.setDrain podId draining) := by
  unfold Gateway.setDrain
  dsimp only
  split <;> exact .of_none rfl

theorem truthful_respondWith (status : Nat) (id : String) :
    Truthful config (state.respondWith config status id) := by
  unfold Gateway.respondWith
  split
  · next job found => exact .of_told (told_of_get config found)
  · exact .of_none rfl

theorem truthful_cancelInFlight (id : String) (now : Millis) :
    Truthful config (state.cancelInFlight config id now) := by
  unfold Gateway.cancelInFlight
  dsimp only
  split
  · exact truthful_respondWith config _ _ id
  · exact .of_none rfl

theorem truthful_deleteVideo (id : String) :
    Truthful config (state.deleteVideo config id) := by
  unfold Gateway.deleteVideo
  split
  · exact .of_none rfl
  · next job _ =>
    dsimp only
    split_ifs
    · exact truthful_respondWith config _ 200 job.id
    · exact truthful_cancelInFlight config _ job.id _
    · exact truthful_cancelInFlight config _ job.id _

theorem truthful_advanceCreation (token : Nat) (creation : Creation) :
    Truthful config (state.advanceCreation config token creation) := by
  unfold Gateway.advanceCreation
  split
  · exact .of_none rfl
  · split <;> exact .of_none rfl
  · split
    · exact .of_none rfl
    · next store inserted =>
      have found : store.get creation.job.id = some creation.job.row := by
        rw [JobStore.get_create inserted, if_pos rfl]
      exact .of_told (told_of_get config found)

end Routes

theorem told_step (fires : (gateway platform prepare config).Fires t) {status : Nat}
    {response : VideoResponse} (reply : t.reply = .video status response) :
    Told config t.post response := by
  obtain ⟨pre, action, _, post⟩ := t
  obtain rfl := reply
  have stepped : pre.step platform prepare config action = some (.video status response, post) :=
    fires
  have effect : Effect platform config pre action (.video status response) post := effect fires
  have returned {route : Reply × Gateway} (same : some route = some (.video status response, post))
      (truthful : Truthful config route) : Told config post response := by
    cases same
    exact truthful response rfl
  cases effect with
  | unadmitted => exact returned stepped (truthful_createVideo config pre _)
  | deleted => exact returned stepped (truthful_deleteVideo config pre _)
  | unaccepted => exact returned stepped (truthful_upload config pre _)
  | refused | superseded | retried => exact returned stepped (truthful_result config pre _)
  | drained => exact returned stepped (truthful_setDrain config pre _ _)
  | created running =>
    simp only [Gateway.step, Gateway.advance, running] at stepped
    exact returned stepped (truthful_advanceCreation config pre _ _)

end Rows

/-! ### Clients -/

/-- The videos that an answer shows. -/
def Answer.shown : Answer → List VideoResponse
  | .video response | .acted (.video _ response) => [response]
  | .videos responses => responses
  | _ => []

/-- What a client may see of a video after it saw the first response. -/
structure VideoResponse.Continues (first second : VideoResponse) : Prop where
  ordered : (second.model, second.createdAt, second.size, second.seconds) =
    (first.model, first.createdAt, first.size, first.seconds)
  attempts : first.attempts ≤ second.attempts
  started : first.status = .queued → second.status = .inProgress →
    first.attempts < second.attempts
  verdict : first.status.isTerminal = true → second = first

theorem queuePosition_eq_none (store : JobStore) {job : Job} (terminal : job.state.isTerminal = true) :
    store.queuePosition job = none := by
  refine if_pos fun queued => ?_
  rw [queued] at terminal
  cases terminal

theorem continues_of_evolves {config : Config} {job job' : Job} (evolves : job.Evolves job')
    (state state' : Gateway) :
    (state.respond config job).Continues (state'.respond config job') where
  ordered := by
    have same := evolves.order
    simp only [Job.order, Order.mk.injEq] at same
    obtain ⟨-, model, params, -, -, createdAt, -⟩ := same
    simp [Gateway.respond, toVideoResponse, model, params, createdAt]
  attempts := evolves.attempts
  started := evolves.started
  verdict terminal := by
    obtain ⟨settled, attempts⟩ := evolves.verdict terminal
    have same := evolves.order
    simp only [Job.order, Order.mk.injEq] at same
    obtain ⟨id, model, params, -, -, createdAt, -⟩ := same
    have terminal' : job'.state.isTerminal = true := settled.state ▸ terminal
    simp [Gateway.respond, toVideoResponse, queuePosition_eq_none _ terminal,
      queuePosition_eq_none _ terminal', id, model, params, createdAt, attempts, settled.state,
      settled.error, settled.progress, settled.finishedAt, settled.podId]

section Clients

variable {deployment : Deployment}

theorem told_of_answer {state : Gateway} {query : Query} {response : VideoResponse}
    (shown : response ∈ (deployment.answer state query).shown) :
    Told deployment.config state response := by
  have silent {Result : Type} {answer : Result → Answer} (blind : ∀ value, (answer value).shown = [])
      (result : Except (Nat × ApiError) Result) : (Answer.ofExcept answer result).shown = [] := by
    cases result with
    | error => rfl
    | ok value => exact blind value
  cases query with
  | health | listModels | listPods => cases shown
  | content | listEvents | input =>
    rw [Deployment.answer, silent fun _ => rfl] at shown
    cases shown
  | getVideo id =>
    rw [Deployment.answer, Gateway.getVideo] at shown
    split at shown
    · cases shown
    · next job found =>
      obtain rfl := List.mem_singleton.mp shown
      exact told_of_get _ found
  | listVideos limit status =>
    rw [Deployment.answer] at shown
    cases answers : state.listVideos deployment.config limit status with
    | error refusal =>
      rw [answers] at shown
      cases shown
    | ok responses =>
      rw [answers] at shown
      obtain ⟨bound, -, -, -, -, rfl⟩ := listVideos_eq_ok answers
      obtain ⟨job, member, rfl⟩ := List.mem_map.mp shown
      exact told_of_get _ (JobStore.get_of_mem ((page_list _ _ _).rows job member).1)

/-- Whatever an answer shows of a video is so. -/
theorem told_of_shown {t : ServiceTransition} (fires : (service deployment).Fires t)
    {response : VideoResponse} (shown : response ∈ t.reply.shown) :
    Told deployment.config t.post.gateway response := by
  have acted {answer : Reply} (reply : t.reply = .acted answer) :
      Told deployment.config t.post.gateway response := by
    obtain ⟨u, performs, rfl⟩ := acted_of_reply fires reply
    obtain ⟨fires', -, post⟩ := (gatewayView deployment).moves t u fires performs
    rw [← show u.post = t.post.gateway from post]
    rw [reply] at shown
    cases answers : u.reply with
    | video status =>
      rw [answers] at shown
      obtain rfl := List.mem_singleton.mp shown
      exact told_step fires' answers
    | _ =>
      rw [answers] at shown
      cases shown
  cases serviceChange fires with
  | rejected _ _ reply =>
    rw [reply] at shown
    cases shown
  | @examined _ read _ _ reply =>
    rw [reply] at shown
    rcases examine_cases t.pre.gateway.disk read with ⟨_, -, same⟩ | ⟨_, _, -, -, same⟩ |
      ⟨_, _, -, -, same⟩ | ⟨_, _, same⟩
    all_goals
      rw [same] at shown
      cases shown
  | asked _ _ reply gateway =>
    rw [gateway]
    exact told_of_answer (reply ▸ shown)
  | commanded _ _ reply | happened _ reply => exact acted reply

/-! ### From one answer to the next -/

/-- The row of the job, or a later one. -/
def Known (job : Job) (state : Gateway) : Prop :=
  ∃ job', state.store.get job.id = some job' ∧ job.Evolves job'

/-- The step purged a row that continued the response and had been final for the retention. -/
structure Forgets (config : Config) (response : VideoResponse) (t : ServiceTransition) : Prop where
  row : ∃ job finishedAt, t.pre.gateway.store.get response.id = some job ∧
    response.Continues (t.pre.gateway.respond config job) ∧ job.state.isTerminal = true ∧
    job.finishedAt = some finishedAt ∧
    finishedAt + config.jobRetentionMs < t.pre.gateway.now
  purged : t.post.gateway.store.get response.id = none

/-- What the steps of the gateway preserve is kept along a run of the service. -/
theorem kept_of_run {P : Gateway → Prop}
    (preserved : ∀ v, (gateway deployment.platform deployment.prepare deployment.config).Fires v →
      P v.pre → P v.post) {start final : Service} {trace : List ServiceTransition}
    (run : (service deployment).Run start trace final) (initially : P start.gateway) :
    P final.gateway ∧ ∀ t ∈ trace, P t.pre.gateway ∧ P t.post.gateway := by
  have step (t : ServiceTransition) (fires : (service deployment).Fires t) :
      P t.pre.gateway → P t.post.gateway := (gatewayView deployment).preserves preserved fires
  refine ⟨run.invariant (P := fun state => P state.gateway) initially step, fun t member => ?_⟩
  exact run.invariant_at (P := fun state => P state.gateway) initially step member

theorem forgets_of_lost {w : ServiceTransition} (fires : (service deployment).Fires w)
    (settles : w.pre.gateway.Settles deployment.platform deployment.config) {job : Job}
    {state : Gateway} (known : Known job w.pre.gateway)
    (purged : w.post.gateway.store.get job.id = none) :
    Forgets deployment.config (state.respond deployment.config job) w := by
  obtain ⟨job', found, evolves⟩ := known
  cases performs : acted w with
  | none =>
    have same : w.post.gateway = w.pre.gateway := (gatewayView deployment).idle w fires performs
    rw [same] at purged
    cases found.symm.trans purged
  | some v =>
    obtain ⟨loses, pre, post⟩ := (gatewayView deployment).moves w v fires performs
    have pre : v.pre = w.pre.gateway := pre
    have post : v.post = w.post.gateway := post
    obtain ⟨terminal, finishedAt, finished, old⟩ := retained_of_purged loses (pre ▸ settles)
      (pre ▸ found) (post ▸ purged)
    exact ⟨⟨job', finishedAt, found, continues_of_evolves evolves _ _, terminal, finished,
      pre ▸ old⟩, purged⟩

/-- After an answer the row of a video goes on, or is purged for good. -/
theorem known_or_forgets {before middle : List ServiceTransition} {t : ServiceTransition}
    {final : Service}
    (run : (service deployment).Run (service deployment).initial (before ++ t :: middle) final)
    {response : VideoResponse} (shown : response ∈ t.reply.shown) :
    ∃ job, response = t.post.gateway.respond deployment.config job ∧
      EvolvesAt deployment.platform job final.gateway ∧
      (Known job final.gateway ∨
        (∃ v ∈ middle, Forgets deployment.config response v) ∧
          Gone deployment.platform response.id final.gateway) := by
  obtain ⟨prior, fires, since⟩ := run.split
  obtain ⟨job, found, rfl⟩ := told_of_shown fires shown
  have evolves : EvolvesAt deployment.platform job t.post.gateway :=
    evolvesAt_of_get (fresh_of_run (gateway_of_run (prior.snoc fires))) found
  obtain ⟨later, throughout⟩ := kept_of_run (fun _ fires => evolvesAt_step fires) since evolves
  refine ⟨job, rfl, later, ?_⟩
  cases found' : final.gateway.store.get job.id with
  | some job' => exact .inl ⟨job', found', later.2 job' found'⟩
  | none =>
    refine .inr ⟨?_, later.1, found'⟩
    have unknown : ¬ Known job final.gateway := by
      rintro ⟨job', known, -⟩
      cases found'.symm.trans known
    have known : Known job t.post.gateway := ⟨job, found, .refl job⟩
    obtain ⟨w, inside, loses, known, unknown⟩ :=
      since.exists_loss (P := fun state => Known job state.gateway) known unknown
    refine ⟨w, inside, forgets_of_lost loses ?_ known ?_⟩
    · have initially : Gateway.empty.Settles deployment.platform deployment.config :=
        @settles_initial _ deployment.prepare _
      have everywhere := (kept_of_run (fun _ => settles_step) run initially).2
      exact (everywhere w (by simp [inside])).1
    · cases remains : w.post.gateway.store.get job.id with
      | none => rfl
      | some job'' =>
        exact absurd ⟨job'', remains, (throughout w inside).2.2 job'' remains⟩ unknown

/-! ### One story -/

section Answers

variable {before middle : List ServiceTransition} {t u : ServiceTransition} {first : VideoResponse}

theorem continues_of_shown
    (run : (service deployment).Run (service deployment).initial (before ++ t :: middle) u.pre)
    (fires : (service deployment).Fires u) (shown : first ∈ t.reply.shown)
    {second : VideoResponse} (shown' : second ∈ u.reply.shown) (same : second.id = first.id) :
    first.Continues second := by
  obtain ⟨job, rfl, evolves, -⟩ := known_or_forgets run shown
  obtain ⟨job', found, rfl⟩ := told_of_shown fires shown'
  have later : EvolvesAt deployment.platform job u.post.gateway :=
    (gatewayView deployment).preserves (fun _ fires => evolvesAt_step fires) fires evolves
  rw [same] at found
  exact continues_of_evolves (later.2 job' found) _ _

/-- What a query is answered, unless its hook answers. -/
theorem answered_of_query (fires : (service deployment).Fires u) {headers : Headers} {query : Query}
    (action : u.action = .query headers query) {answer : Answer} (reply : u.reply = answer)
    (passed : ∀ error, answer ≠ .unauthorized error) :
    deployment.answer u.pre.gateway query = answer := by
  cases serviceChange fires with
  | rejected _ _ reply' => exact absurd (reply.symm.trans reply') (passed _)
  | asked action' _ reply' =>
    cases action.symm.trans action'
    exact reply'.symm.trans reply
  | commanded action' | happened action' | examined action' => cases action.symm.trans action'

theorem missing_of_refused (fires : (service deployment).Fires u) {headers : Headers} {id : String}
    {status : Nat} {error : ApiError} (action : u.action = .query headers (.getVideo id))
    (reply : u.reply = .refused status error) : u.pre.gateway.store.get id = none := by
  have answer := answered_of_query fires action reply (fun _ => Answer.noConfusion)
  cases found : u.pre.gateway.store.get id with
  | none => rfl
  | some job => simp [Deployment.answer, Gateway.getVideo, found, Answer.ofExcept] at answer

theorem page_of_listed (fires : (service deployment).Fires u) {headers : Headers}
    {limit status : Option String} {responses : List VideoResponse}
    (action : u.action = .query headers (.listVideos limit status))
    (reply : u.reply = .videos responses) :
    ∃ bound jobs, bound ≤ 500 ∧ listLimit ((limit.filter (· ≠ "")).map numeral) = some bound ∧
      (status.bind videoStatus).map statusText = status ∧
      Page u.pre.gateway.store (status.bind videoStatus) bound jobs ∧
      responses = jobs.map (u.pre.gateway.respond deployment.config) := by
  have answer := answered_of_query fires action reply (fun _ => Answer.noConfusion)
  rw [Deployment.answer] at answer
  cases listed : u.pre.gateway.listVideos deployment.config limit status with
  | error refusal =>
    rw [listed] at answer
    cases answer
  | ok found =>
    rw [listed] at answer
    cases answer
    obtain ⟨bound, -, most, accepted, known, same⟩ := listVideos_eq_ok listed
    exact ⟨bound, _, most, accepted, known, page_list _ _ _, same⟩

theorem listed_or_forgets
    (run : (service deployment).Run (service deployment).initial (before ++ t :: middle) u.pre)
    (fires : (service deployment).Fires u) (shown : first ∈ t.reply.shown) {headers : Headers}
    {limit : Option String} {responses : List VideoResponse}
    (action : u.action = .query headers (.listVideos limit none))
    (reply : u.reply = .videos responses) :
    first.id ∈ responses.map VideoResponse.id ∨
      (∃ v ∈ middle, Forgets deployment.config first v) ∨
      listLimit ((limit.filter (· ≠ "")).map numeral) = some responses.length ∧
        ∀ second ∈ responses, first.createdAt ≤ second.createdAt := by
  obtain ⟨bound, jobs, -, accepted, -, page, rfl⟩ := page_of_listed fires action reply
  obtain ⟨job, rfl, -, ⟨job', found, evolves⟩ | ⟨purged, -⟩⟩ := known_or_forgets run shown
  · have same : job'.id = job.id := congrArg Order.id evolves.order
    by_cases listed : job' ∈ jobs
    · refine .inl (List.mem_map.mpr ⟨_, List.mem_map_of_mem listed, same⟩)
    · have row := JobStore.mem_of_get found
      obtain ⟨full, newer⟩ := page.rest job' row (by simp) listed
      refine .inr (.inr ⟨by rw [List.length_map, full, accepted], fun second member => ?_⟩)
      obtain ⟨other, inside, rfl⟩ := List.mem_map.mp member
      have created : job'.createdAt = job.createdAt := congrArg Order.createdAt evolves.order
      exact seconds_mono (created ▸ newer other inside)
  · exact .inr (.inl purged)

end Answers

end Clients

/-- The answers of a run tell one story of every video. -/
structure OneStory {deployment : Deployment} (run : ServiceRun deployment) : Prop where
  /-- A later answer continues an earlier one. -/
  continues : ∀ (before middle after : List ServiceTransition) (t u : ServiceTransition),
    run.trace = before ++ t :: middle ++ u :: after →
    ∀ first ∈ t.reply.shown, ∀ second ∈ u.reply.shown, second.id = first.id →
      first.Continues second
  /-- A video that is not found any more was final for the retention, and stays away. -/
  missed : ∀ (before middle after : List ServiceTransition) (t u : ServiceTransition),
    run.trace = before ++ t :: middle ++ u :: after →
    ∀ first ∈ t.reply.shown, ∀ headers, u.action = .query headers (.getVideo first.id) →
      u.reply = .refused 404 (noSuchVideo first.id) →
      (∃ v ∈ middle, Forgets deployment.config first v) ∧
        ∀ w ∈ after, ∀ second ∈ w.reply.shown, second.id ≠ first.id
  /-- A list without a filter leaves a video out for its age or its purge. -/
  listed : ∀ (before middle after : List ServiceTransition) (t u : ServiceTransition),
    run.trace = before ++ t :: middle ++ u :: after →
    ∀ first ∈ t.reply.shown, ∀ headers limit responses,
      u.action = .query headers (.listVideos limit none) → u.reply = .videos responses →
      first.id ∈ responses.map VideoResponse.id ∨
        (∃ v ∈ middle, Forgets deployment.config first v) ∨
        listLimit ((limit.filter (· ≠ "")).map numeral) = some responses.length ∧
          ∀ second ∈ responses, first.createdAt ≤ second.createdAt
  /-- A list shows videos of the status asked for, each once, and the newest first. -/
  pages : ∀ t ∈ run.trace, ∀ headers limit status responses,
    t.action = .query headers (.listVideos limit status) → t.reply = .videos responses →
      (∀ response ∈ responses, ∀ asked ∈ status, statusText response.status = asked) ∧
        (responses.map VideoResponse.id).Nodup ∧
        (responses.Pairwise fun first second => second.createdAt ≤ first.createdAt) ∧
        responses.length ≤ 500

theorem one_story (deployment : Deployment) (run : ServiceRun deployment) : OneStory run := by
  constructor
  case continues =>
    intro before middle after t u split first shown second shown' same
    have whole := run.run
    rw [split] at whole
    obtain ⟨earlier, fires, -⟩ := whole.split
    exact continues_of_shown earlier fires shown shown' same
  case missed =>
    intro before middle after t u split first shown headers action reply
    have whole := run.run
    rw [split] at whole
    obtain ⟨earlier, fires, later⟩ := whole.split
    have missing := missing_of_refused fires action reply
    obtain ⟨job, rfl, -, ⟨job', found, -⟩ | ⟨purged, gone⟩⟩ := known_or_forgets earlier shown
    · cases missing.symm.trans found
    · refine ⟨purged, fun w member second shown' same => ?_⟩
      have stays : ∀ v, (gateway deployment.platform deployment.prepare deployment.config).Fires v →
          Gone deployment.platform job.id v.pre → Gone deployment.platform job.id v.post :=
        fun _ fires => gone_step fires
      have away := (gatewayView deployment).preserves stays fires gone
      obtain ⟨-, throughout⟩ := kept_of_run stays later away
      obtain ⟨job', found, -⟩ := told_of_shown (later.fires_of_mem member) shown'
      rw [same] at found
      cases (throughout w member).2.2.symm.trans found
  case listed =>
    intro before middle after t u split first shown headers limit responses action reply
    have whole := run.run
    rw [split] at whole
    obtain ⟨earlier, fires, -⟩ := whole.split
    exact listed_or_forgets earlier fires shown action reply
  case pages =>
    intro t member headers limit status responses action reply
    obtain ⟨bound, jobs, most, accepted, known, page, rfl⟩ :=
      page_of_listed (run.run.fires_of_mem member) action reply
    refine ⟨?_, ?_, ?_, ?_⟩
    · intro response inside asked named
      obtain ⟨job, member', rfl⟩ := List.mem_map.mp inside
      rw [Option.mem_def.mp named] at known page
      obtain ⟨state, parsed, text⟩ := Option.map_eq_some_iff.mp known
      have matched := (page.rows job member').2 state parsed
      exact (congrArg statusText matched).trans text
    · rw [List.map_map]
      exact page.distinct
    · exact List.pairwise_map.mpr (page.newest.imp fun newer => seconds_mono newer)
    · rw [List.length_map]
      exact page.length.trans most

end InferenceGateway
