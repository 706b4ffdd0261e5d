import InferenceGateway.Runs.Cancels
import InferenceGateway.Runs.Handlers
import InferenceGateway.Scheduler.Tallies

/-!
# The history behind a row of the registry

What a row of `pods` says is what happened since its first poll: the session and
the first sighting are those of that poll, the capabilities those of the last
one, the drain flag is the operator's last word, and the counters count jobs.
-/

namespace InferenceGateway

open Library Relation

variable {platform : Platform} {prepare : Prepare} {config : Config} {t : GatewayTransition}

/-! ### What a step is charged as -/

/-- The job is completed while it is on the pod. -/
def Job.completesOn (podId : String) (job job' : Job) : Bool :=
  !job.state.isTerminal && job'.state == .completed && job'.podId == some podId

/-- The job goes from the pod back into the queue. -/
def Job.returnsFrom (podId : String) (job job' : Job) : Bool :=
  job.state == .inProgress && job'.state == .queued && job.podId == some podId

/-- The number of rows the step changes in such a way. -/
def charges (charge : Job → Job → Bool) (t : GatewayTransition) : Nat :=
  t.pre.store.jobs.rows.countP fun job => (t.post.store.get job.id).any (charge job)

def Action.isResult : Action → Bool
  | .result _ => true
  | _ => false

def completions (podId : String) (t : GatewayTransition) : Nat :=
  charges (Job.completesOn podId) t

/-- A failed job counts, and so does one that the pod itself gave back. -/
def failures (podId : String) (t : GatewayTransition) : Nat :=
  charges (Job.failsOn podId) t +
    if t.action.isResult then charges (Job.returnsFrom podId) t else 0

theorem charges_eq_zero {charge : Job → Job → Bool}
    (free : ∀ id job job', t.pre.store.get id = some job → t.post.store.get id = some job' →
      charge job job' = false) : charges charge t = 0 := by
  rw [charges, List.countP_eq_zero]
  intro job member charged
  obtain ⟨job', found, holds⟩ := Option.any_eq_true _ _ |>.mp charged
  rw [free job.id job job' (JobStore.get_of_mem member) found] at holds
  cases holds

/-- Where one row changes only, at most that one is counted. -/
theorem charges_at {charge : Job → Job → Bool} {id : String} {job job' : Job}
    (found : t.pre.store.get id = some job) (found' : t.post.store.get id = some job')
    (elsewhere : ∀ k row row', k ≠ id → t.pre.store.get k = some row →
      t.post.store.get k = some row' → charge row row' = false) :
    charges charge t = if charge job job' then 1 else 0 := by
  have same : charges charge t = t.pre.store.jobs.changes fun row =>
      row.id = id && (t.post.store.get row.id).any (charge row) := by
    apply List.countP_congr
    intro row member
    rw [Bool.and_eq_true, decide_eq_true_eq]
    refine ⟨fun charged => ⟨?_, charged⟩, And.right⟩
    by_contra other
    obtain ⟨row', after, holds⟩ := Option.any_eq_true _ _ |>.mp charged
    rw [elsewhere row.id row row' other (JobStore.get_of_mem member) after] at holds
    cases holds
  rw [same, Table.changes_at, show t.pre.store.jobs.get? id = some job from found,
    Option.any_some, JobStore.id_of_get found, found', Option.any_some]

section Unreported

variable (unreported : t.action.isResult = false)

include unreported

/-- Only a result completes a job. -/
theorem completed_touches {job job' : Job}
    (touches : ReflTransGen (Touch platform config t) job job') :
    job'.state = .completed → job.state = .completed := by
  induction touches with
  | refl => exact id
  | @tail mid last touches touch inductionHypothesis =>
    cases touch with
    | completed reports =>
      obtain ⟨request, action, -⟩ := reports.action
      rw [action] at unreported
      cases unreported
    | claimed | cancelled | acknowledged | retried | failed | lost | expired | overdue | forced =>
      rintro ⟨⟩
    | renewed | flagged | cleared | mediaExpired | recovered => exact inductionHypothesis

/-- Only a result or a sweep fails a job. -/
theorem failed_touches (unswept : t.action ≠ .sweep) {job job' : Job}
    (touches : ReflTransGen (Touch platform config t) job job') :
    job'.state = .failed → job.state = .failed := by
  induction touches with
  | refl => exact id
  | @tail mid last touches touch inductionHypothesis =>
    cases touch with
    | failed reports =>
      obtain ⟨request, action, -⟩ := reports.action
      rw [action] at unreported
      cases unreported
    | lost action | overdue action => exact absurd action unswept
    | claimed | cancelled | completed | acknowledged | retried | expired | forced => rintro ⟨⟩
    | renewed | flagged | cleared | mediaExpired | recovered => exact inductionHypothesis

theorem completions_eq_zero (fires : (gateway platform prepare config).Fires t)
    (podId : String) : completions podId t = 0 := by
  apply charges_eq_zero
  intro id job job' found found'
  by_contra charged
  simp only [Job.completesOn, Bool.not_eq_false, Bool.and_eq_true, beq_iff_eq,
    Bool.not_eq_true'] at charged
  obtain ⟨⟨unfinished, completed⟩, -⟩ := charged
  have change := rowChange fires id
  rw [found, found'] at change
  cases change with
  | touched touches =>
    rw [completed_touches unreported touches completed] at unfinished
    cases unfinished

theorem failures_eq (podId : String) : failures podId t = charges (Job.failsOn podId) t := by
  rw [failures, unreported, if_neg Bool.false_ne_true, Nat.add_zero]

theorem failures_eq_zero (fires : (gateway platform prepare config).Fires t)
    (unswept : t.action ≠ .sweep) (podId : String) : failures podId t = 0 := by
  rw [failures_eq unreported]
  apply charges_eq_zero
  intro id job job' found found'
  by_contra charged
  simp only [Job.failsOn, Bool.not_eq_false, Bool.and_eq_true, beq_iff_eq,
    Bool.not_eq_true'] at charged
  obtain ⟨⟨unfinished, failed⟩, -⟩ := charged
  have change := rowChange fires id
  rw [found, found'] at change
  cases change with
  | touched touches =>
    rw [failed_touches unreported unswept touches failed] at unfinished
    cases unfinished

end Unreported

/-! ### Sweeps and results -/

/-- The counters take in what the step is charged as. -/
def Tallied (podId : String) (t : GatewayTransition) : Prop :=
  t.post.pods.get podId =
    (t.pre.pods.get podId).map (Pod.tallied (completions podId t) (failures podId t))

theorem tallied_of_same (fires : (gateway platform prepare config).Fires t)
    (unreported : t.action.isResult = false) (unswept : t.action ≠ .sweep) (podId : String)
    (same : t.post.pods = t.pre.pods) : Tallied podId t := by
  rw [Tallied, same, completions_eq_zero unreported fires, failures_eq_zero unreported fires unswept,
    Pod.map_tallied_zero]

theorem tallied_sweep (fires : (gateway platform prepare config).Fires t)
    (action : t.action = .sweep) {podId : String} (known : t.pre.pods.Known podId) :
    Tallied podId t := by
  have unreported : t.action.isResult = false := by rw [action]; rfl
  have rows := store_swept fires action
  have pods : t.post.pods = (sweep config t.pre.store t.pre.pods t.pre.now).pods := by
    obtain ⟨pre, _, reply, post⟩ := t
    obtain rfl := action
    have effect : Effect platform config pre .sweep reply post := effect fires
    cases effect with
    | requeued | swept => rfl
  rw [Tallied, completions_eq_zero unreported fires, failures_eq unreported, pods,
    pods_sweep config _ _ known]
  congr 2
  apply List.countP_congr
  intro job member
  rw [rows, JobStore.get_of_mem member, Option.map_some, Option.any_some]

/-- The result reports a failure. -/
structure ResultBody.Fails (body : ResultBody) : Prop where
  completed : body.state ≠ .string "completed"
  cancelled : body.state ≠ .string "cancelled"

/-- The statement of a result that is taken up, and what it counts for the pod. -/
inductive TakenUp (maxAttempts : Nat) (job : Job) (lease : String) (now : Millis)
    (body : ResultBody) : Update → Option Outcome → Prop where
  | completes {artifact : Artifact} (reports : body.state = .string "completed")
      (records : body.artifact = some artifact) :
      TakenUp maxAttempts job lease now body (.complete lease [artifact] now) (some .completed)
  | acknowledges {detail : String} (reports : body.state = .string "cancelled") :
      TakenUp maxAttempts job lease now body (.markCancelled (some lease) now detail) none
  | returns {reason : String} (reports : body.Fails) (retryable : body.retryable = .boolean true)
      (left : job.attempts < maxAttempts) :
      TakenUp maxAttempts job lease now body (.requeue (some lease) reason) (some .failed)
  | fails (reports : body.Fails)
      (final : body.retryable = .boolean true → maxAttempts ≤ job.attempts) :
      TakenUp maxAttempts job lease now body (.fail (some lease) body.message now) (some .failed)

theorem fence_of_ne {lease : String} (nonempty : lease ≠ "") : fence (some lease) = some lease :=
  fence_eq_some.mpr ⟨rfl, nonempty⟩

theorem TakenUp.applies {maxAttempts : Nat} {job : Job} {lease : String} {now : Millis}
    {body : ResultBody} {statement : Update} {outcome : Option Outcome}
    (taken : TakenUp maxAttempts job lease now body statement outcome) (nonempty : lease ≠ "")
    (holds : job.holds lease = true) : statement.applies job = true := by
  cases taken <;> simp [Update.applies, fence_of_ne nonempty, holds]

/-- A result changes nothing, or it is taken up. -/
theorem result_cases (config : Config) {state : Gateway} (sound : state.Sound platform) (request : ResultRequest) :
    ((state.result config request).2.store = state.store ∧
        (state.result config request).2.pods = state.pods) ∨
      ∃ job lease statement outcome, state.store.get request.id = some job ∧
        request.leaseId = some lease ∧ job.holds lease = true ∧ lease ≠ "" ∧
        TakenUp config.maxAttempts job lease state.now request.body statement outcome ∧
        (state.result config request).2.store = (state.store.execute request.id statement).2 ∧
        (state.result config request).2.pods =
          outcome.elim state.pods (state.pods.recordOutcome job.podId) := by
  unfold Gateway.result
  split
  · exact .inl ⟨rfl, rfl⟩
  · next job found =>
    dsimp only
    split
    · exact .inl ⟨rfl, rfl⟩
    · next current =>
      obtain ⟨lease, given, nonempty, held⟩ := leaseIs_getD (by simpa using current)
      have holds := (sound.row request.id job found).consistent.holds held
      have applies {statement : Update} {outcome : Option Outcome} (taken : TakenUp
            config.maxAttempts job lease state.now request.body statement outcome) :
          (state.store.execute request.id statement).1 = true := by
        rw [JobStore.execute_fst, found, Option.any_some]
        exact taken.applies nonempty holds
      rw [given, Option.getD_some, Gateway.completeResult, Gateway.cancelResult,
        Gateway.failResult, JobStore.id_of_get found]
      split
      · next completed =>
        split
        · exact .inl ⟨rfl, rfl⟩
        · next artifact recorded =>
          have taken : TakenUp config.maxAttempts job lease state.now request.body
            (.complete lease [artifact] state.now) (some .completed) :=
            .completes completed recorded
          have changed := applies taken
          refine .inr ⟨job, lease, _, _, found, rfl, holds, nonempty, taken, ?_⟩
          dsimp only [JobStore.complete]
          rw [changed]
          exact ⟨rfl, rfl⟩
      · next completed =>
        split
        · next cancelled =>
          exact .inr ⟨job, lease, _, _, found, rfl, holds, nonempty, .acknowledges cancelled,
            rfl, rfl⟩
        · next cancelled =>
          have fails : request.body.Fails := ⟨completed, cancelled⟩
          split
          · next retries =>
            exact .inr ⟨job, lease, _, _, found, rfl, holds, nonempty,
              .returns fails retries.1 retries.2, rfl, rfl⟩
          · next stays =>
            have taken : TakenUp config.maxAttempts job lease state.now request.body
              (.fail (some lease) request.body.message state.now) (some .failed) :=
              .fails fails fun retryable => not_lt.mp fun left => stays ⟨retryable, left⟩
            have changed := applies taken
            refine .inr ⟨job, lease, _, _, found, rfl, holds, nonempty, taken, ?_⟩
            dsimp only [JobStore.fail]
            rw [changed]
            exact ⟨rfl, rfl⟩

/-- What the statement of a result is charged as. -/
theorem TakenUp.charged {maxAttempts : Nat} {job : Job} {lease : String} {now : Millis}
    {body : ResultBody} {statement : Update} {outcome : Option Outcome}
    (taken : TakenUp maxAttempts job lease now body statement outcome)
    (running : job.state = .inProgress) (podId : String) (pod : Pod) :
    (outcome.elim pod fun outcome => if job.podId = some podId then pod.recorded outcome else pod) =
      pod.tallied (if job.completesOn podId (statement.assign job) then 1 else 0)
        ((if job.failsOn podId (statement.assign job) then 1 else 0) +
          if job.returnsFrom podId (statement.assign job) then 1 else 0) := by
  by_cases here : job.podId = some podId
  · cases taken <;> simp [Update.assign, Job.completesOn, Job.failsOn, Job.returnsFrom, running,
      here, VideoStatus.isTerminal, Pod.recorded, Pod.tallied]
  · cases taken <;> simp [Update.assign, Job.completesOn, Job.failsOn, Job.returnsFrom, running,
      here, VideoStatus.isTerminal, Pod.tallied]

theorem tallied_result (fires : (gateway platform prepare config).Fires t)
    (sound : t.pre.Sound platform) {request : ResultRequest} (action : t.action = .result request)
    {podId : String} (known : t.pre.pods.Known podId) : Tallied podId t := by
  have reported : t.action.isResult = true := by rw [action]; rfl
  have unchanged {podId : String} (job : Job) : job.completesOn podId job = false ∧
      job.failsOn podId job = false ∧ job.returnsFrom podId job = false := by
    cases state : job.state <;>
      simp [Job.completesOn, Job.failsOn, Job.returnsFrom, state, VideoStatus.isTerminal]
  obtain ⟨pre, _, reply, post⟩ := t
  obtain rfl := action
  have stepped : pre.step platform prepare config (.result request) = some (reply, post) := fires
  have same : post = (pre.result config request).2 :=
    (congrArg Prod.snd (Option.some.inj stepped)).symm
  rw [Tallied, failures, reported, if_pos rfl]
  dsimp only
  rcases result_cases config sound request with
    ⟨store, pods⟩ | ⟨job, lease, statement, outcome, found, -, holds, given, taken, store, pods⟩
  · have still {charge : Job → Job → Bool} (idle : ∀ job, charge job job = false) :
        charges charge ⟨pre, .result request, reply, post⟩ = 0 := by
      apply charges_eq_zero
      intro id job job' before after
      rw [same, store, before] at after
      cases after
      exact idle job
    rw [completions, still fun job => (unchanged job).1, still fun job => (unchanged job).2.1,
      still fun job => (unchanged job).2.2, Pod.map_tallied_zero, same, pods]
  · have after : post.store.get request.id = some (statement.assign job) := by
      rw [same, store, JobStore.get_execute_self _ found, Update.run,
        if_pos (taken.applies given holds)]
    have once {charge : Job → Job → Bool} (idle : ∀ job, charge job job = false) :
        charges charge ⟨pre, .result request, reply, post⟩ =
          if charge job (statement.assign job) then 1 else 0 := by
      apply charges_at found after
      intro k row row' other before after
      rw [same, store, JobStore.get_execute_of_ne _ other, before] at after
      cases after
      exact idle row
    rw [completions, once fun job => (unchanged job).1, once fun job => (unchanged job).2.1,
      once fun job => (unchanged job).2.2]
    have lookup : (outcome.elim pre.pods (pre.pods.recordOutcome job.podId)).get podId =
        (pre.pods.get podId).map fun pod => outcome.elim pod fun outcome =>
          if job.podId = some podId then pod.recorded outcome else pod := by
      cases outcome with
      | none => exact (Option.map_id' ▸ rfl)
      | some outcome => exact PodStore.get_recordOutcome job.podId outcome known
    rw [same, pods, lookup]
    congr 1
    funext pod
    exact taken.charged (holds_iff.mp holds).1 podId pod

/-! ### What a step does to a row of the registry -/

theorem ne_empty_of_str {value : Value} {text : String} (same : value.str = some text) :
    text ≠ "" := by
  rw [Value.eq_of_str same, Value.str] at same
  split at same
  · cases same
  · next nonempty => exact nonempty

def heartbeatOf (podId : String) (t : GatewayTransition) : Option (PodHeartbeat × Millis) :=
  match t.action with
  | .poll body sessionId =>
    if body.podId.str = some podId then some (body.heartbeat podId sessionId, t.pre.now) else none
  | _ => none

def drainOf (podId : String) (t : GatewayTransition) : Option Bool :=
  match t.action with
  | .drain id draining => if id = podId then some draining else none
  | _ => none

/-- What a step may do to the row of a pod. -/
inductive PodChange (config : Config) (t : GatewayTransition) (podId : String) :
    Option Pod → Option Pod → Prop where
  | absent (unheard : heartbeatOf podId t = none) : PodChange config t podId none none
  | registered {heartbeat : PodHeartbeat}
      (polls : heartbeatOf podId t = some (heartbeat, t.pre.now)) :
      PodChange config t podId none (some (heartbeat.row t.pre.now))
  | refreshed {pod : Pod} {heartbeat : PodHeartbeat}
      (polls : heartbeatOf podId t = some (heartbeat, t.pre.now)) (quiet : drainOf podId t = none)
      (free : completions podId t = 0 ∧ failures podId t = 0) :
      PodChange config t podId (some pod) (some (heartbeat.refresh t.pre.now pod))
  | drained {pod : Pod} {draining : Bool} (drains : drainOf podId t = some draining)
      (unheard : heartbeatOf podId t = none)
      (free : completions podId t = 0 ∧ failures podId t = 0) :
      PodChange config t podId (some pod) (some (pod.withDraining draining))
  | purged {pod : Pod} (unheard : heartbeatOf podId t = none)
      (old : pod.lastSeenAt + config.jobRetentionMs < t.pre.now) :
      PodChange config t podId (some pod) none
  | tallied {pod : Pod} (unheard : heartbeatOf podId t = none) (quiet : drainOf podId t = none) :
      PodChange config t podId (some pod)
        (some (pod.tallied (completions podId t) (failures podId t)))

theorem podChange_of_tallied {podId : String} (tallied : Tallied podId t)
    (unheard : heartbeatOf podId t = none) (quiet : drainOf podId t = none) :
    PodChange config t podId (t.pre.pods.get podId) (t.post.pods.get podId) := by
  rw [tallied]
  cases t.pre.pods.get podId with
  | none => exact .absent unheard
  | some pod => exact .tallied unheard quiet

namespace PodStore

theorem get_touch (pods : PodStore) (heartbeat : PodHeartbeat) (now : Millis) (podId : String) :
    (pods.touch heartbeat now).2.get podId =
      if podId = heartbeat.podId then
        some (((pods.get podId).map (heartbeat.refresh now)).getD (heartbeat.row now))
      else pods.get podId := by
  unfold touch
  split
  · next inserted insertion =>
    have absent : pods.get heartbeat.podId = none := by
      apply Table.get?_eq_none_iff.mpr
      intro taken
      have conflict : pods.insert? (heartbeat.row now) = none :=
        Table.insert?_eq_none_iff.mpr taken
      cases conflict.symm.trans insertion
    rw [get, Table.get?_insert? insertion]
    by_cases named : podId = heartbeat.podId
    · subst named
      rw [absent, Option.map_none, Option.getD_none, if_pos rfl]
      exact if_pos rfl
    · rw [if_neg named]
      exact if_neg named
  · next conflict =>
    obtain ⟨pod, member, same⟩ := List.mem_map.mp (Table.insert?_eq_none_iff.mp conflict)
    have key : pod.podId = heartbeat.podId := same
    have found : pods.get? heartbeat.podId = some pod := Table.get?_eq_some_iff.mpr ⟨member, key⟩
    rw [get, Table.get?_update]
    by_cases named : podId = heartbeat.podId
    · subst named
      simp [get, found, key]
    · rw [if_neg named, get]
      cases other : pods.get? podId with
      | none => rfl
      | some row =>
        have different : row.podId ≠ heartbeat.podId := Table.key_of_get? other ▸ named
        simp [different]

theorem get_setDraining (pods : PodStore) (id : String) (draining : Bool) (podId : String) :
    (pods.setDraining id draining).2.get podId =
      (pods.get podId).map fun pod => if podId = id then pod.withDraining draining else pod := by
  rw [setDraining, get, Table.get?_update, get]
  cases found : pods.get? podId with
  | none => rfl
  | some pod =>
    have key : pod.podId = podId := Table.key_of_get? found
    simp [key]

end PodStore

section Cleanup

open Cleanup

/-- Only the last step of a cleanup touches the registry. -/
theorem pods_nextRoot (now : Millis) (result : CleanupResult) (stores : Stores)
    (later : List Root) :
    (nextRoot config now result stores later).2.pods = stores.pods ∨
      (nextRoot config now result stores later).2.pods =
        (stores.pods.purgeBefore (now - config.jobRetentionMs)).2 := by
  cases later with
  | nil => exact .inr rfl
  | cons root later => exact .inl rfl

theorem pods_visit (config : Config) (now : Millis) (result : CleanupResult) (root : Root)
    (later : List Root) (stores : Stores) (entries : List String) :
    (visit config now result root later stores entries).2.pods = stores.pods ∨
      (visit config now result root later stores entries).2.pods =
        (stores.pods.purgeBefore (now - config.jobRetentionMs)).2 := by
  induction entries with
  | nil => exact pods_nextRoot now result stores later
  | cons entry rest inductionHypothesis =>
    unfold visit
    split
    · exact inductionHypothesis
    · exact .inl rfl

theorem pods_cleanup (config : Config) (task : CleanupTask) (stores : Stores) :
    (task.advance config stores).2.pods = stores.pods ∨
      (task.advance config stores).2.pods =
        (stores.pods.purgeBefore (task.now - config.jobRetentionMs)).2 := by
  unfold CleanupTask.advance
  split
  · exact .inl rfl
  · next rest stage =>
    cases rest with
    | nil => exact .inl rfl
    | cons id rest => exact .inl rfl
  · exact .inl rfl
  · exact pods_visit config _ _ _ _ stores _
  · exact .inl rfl
  · exact .inl rfl

end Cleanup

theorem podChange_cleanup (fires : (gateway platform prepare config).Fires t)
    {token : Nat} {task : CleanupTask} (action : t.action = .advance token .proceed)
    (started : task.now ≤ t.pre.now)
    (post : t.post.pods = (task.advance config t.pre.toStores).2.pods) (podId : String) :
    PodChange config t podId (t.pre.pods.get podId) (t.post.pods.get podId) := by
  have unheard : heartbeatOf podId t = none := by rw [heartbeatOf, action]
  have quiet : drainOf podId t = none := by rw [drainOf, action]
  have stays (same : t.post.pods.get podId = t.pre.pods.get podId) : Tallied podId t := by
    rw [Tallied, same, completions_eq_zero (by rw [action]; rfl) fires,
      failures_eq_zero (by rw [action]; rfl) fires (by rw [action]; exact Action.noConfusion),
      Pod.map_tallied_zero]
  rcases pods_cleanup config task t.pre.toStores with same | purged
  · exact podChange_of_tallied (stays (by rw [post, same])) unheard quiet
  · have lookup : t.post.pods.get podId = (t.pre.pods.get podId).filter fun pod =>
        !decide (pod.lastSeenAt < task.now - config.jobRetentionMs) := by
      rw [post, purged]
      exact Table.get?_delete t.pre.pods _ podId
    cases found : t.pre.pods.get podId with
    | none =>
      rw [lookup, found]
      exact .absent unheard
    | some pod =>
      rw [found] at lookup
      by_cases old : pod.lastSeenAt < task.now - config.jobRetentionMs
      · rw [lookup, Option.filter, decide_eq_true old]
        exact .purged unheard ((lt_sub_iff_add_lt.mp old).trans_le started)
      · have kept : t.post.pods.get podId = some pod := by
          rw [lookup, Option.filter, decide_eq_false old]
          rfl
        rw [← found]
        exact podChange_of_tallied (stays (kept.trans found.symm)) unheard quiet

theorem podChange_poll (fires : (gateway platform prepare config).Fires t) {body : PollBody}
    {sessionId named : String} (action : t.action = .poll body sessionId)
    (identified : body.podId.str = some named)
    (post : t.post.pods = (t.pre.pods.touch (body.heartbeat named sessionId) t.pre.now).2)
    (podId : String) : PodChange config t podId (t.pre.pods.get podId) (t.post.pods.get podId) := by
  have unreported : t.action.isResult = false := by rw [action]; rfl
  have unswept : t.action ≠ .sweep := by rw [action]; exact Action.noConfusion
  have quiet : drainOf podId t = none := by rw [drainOf, action]
  have free : completions podId t = 0 ∧ failures podId t = 0 :=
    ⟨completions_eq_zero unreported fires podId, failures_eq_zero unreported fires unswept podId⟩
  by_cases here : podId = named
  · subst here
    have polls : heartbeatOf podId t = some (body.heartbeat podId sessionId, t.pre.now) := by
      rw [heartbeatOf, action]
      exact if_pos identified
    have named : podId = (body.heartbeat podId sessionId).podId := rfl
    rw [post, PodStore.get_touch, if_pos named]
    cases t.pre.pods.get podId with
    | none => exact .registered polls
    | some pod => exact .refreshed polls quiet free
  · have unheard : heartbeatOf podId t = none := by
      rw [heartbeatOf, action]
      refine if_neg fun same => here ?_
      exact Option.some.inj (same.symm.trans identified)
    refine podChange_of_tallied ?_ unheard quiet
    rw [Tallied, free.1, free.2, Pod.map_tallied_zero, post, PodStore.get_touch]
    exact if_neg here

theorem podChange_drain (fires : (gateway platform prepare config).Fires t) {id : String}
    {draining : Bool} (action : t.action = .drain id draining)
    (post : t.post.pods = (t.pre.pods.setDraining id draining).2) (podId : String) :
    PodChange config t podId (t.pre.pods.get podId) (t.post.pods.get podId) := by
  have unreported : t.action.isResult = false := by rw [action]; rfl
  have unswept : t.action ≠ .sweep := by rw [action]; exact Action.noConfusion
  have unheard : heartbeatOf podId t = none := by rw [heartbeatOf, action]
  have free : completions podId t = 0 ∧ failures podId t = 0 :=
    ⟨completions_eq_zero unreported fires podId, failures_eq_zero unreported fires unswept podId⟩
  have lookup := PodStore.get_setDraining t.pre.pods id draining podId
  rw [← post] at lookup
  by_cases here : podId = id
  · have drains : drainOf podId t = some draining := by
      rw [drainOf, action]
      exact if_pos here.symm
    rw [lookup]
    cases t.pre.pods.get podId with
    | none => exact .absent unheard
    | some pod =>
      rw [Option.map_some, if_pos here]
      exact .drained drains unheard free
  · have quiet : drainOf podId t = none := by
      rw [drainOf, action]
      exact if_neg (Ne.symm here)
    refine podChange_of_tallied ?_ unheard quiet
    rw [Tallied, free.1, free.2, Pod.map_tallied_zero, lookup]
    simp only [if_neg here, Option.map_id']

theorem podChange (fires : (gateway platform prepare config).Fires t)
    (settles : t.pre.Settles platform config) {podId : String} (known : t.pre.pods.Known podId) :
    PodChange config t podId (t.pre.pods.get podId) (t.post.pods.get podId) := by
  have still (unreported : t.action.isResult = false) (unswept : t.action ≠ .sweep)
      (unheard : heartbeatOf podId t = none) (quiet : drainOf podId t = none)
      (same : t.post.pods = t.pre.pods) :
      PodChange config t podId (t.pre.pods.get podId) (t.post.pods.get podId) :=
    podChange_of_tallied (tallied_of_same fires unreported unswept podId same) unheard quiet
  obtain ⟨pre, action, reply, post⟩ := t
  have effect : Effect platform config pre action reply post := effect fires
  cases effect with
  | refused | superseded | accepted | retried =>
    exact podChange_of_tallied (tallied_result fires settles.sound rfl known) rfl rfl
  | requeued | swept => exact podChange_of_tallied (tallied_sweep fires rfl known) rfl rfl
  | @cleaning token task task' stores running advanced =>
    refine podChange_cleanup fires rfl (settles.dooms token task running).1 ?_ podId
    exact (congrArg (fun progress => progress.2.pods) advanced).symm
  | @cleaned token task result stores running advanced =>
    refine podChange_cleanup fires rfl (settles.dooms token task running).1 ?_ podId
    exact (congrArg (fun progress => progress.2.pods) advanced).symm
  | unnamed named => exact still rfl Action.noConfusion (by simp [heartbeatOf, named]) rfl rfl
  | threw named => exact podChange_poll fires rfl named rfl podId
  | parked named renewed =>
    subst renewed
    exact podChange_poll fires rfl named rfl podId
  | answered named renewed =>
    subst renewed
    exact podChange_poll fires rfl named rfl podId
  | drained => exact podChange_drain fires rfl rfl podId
  | _ => exact still rfl Action.noConfusion rfl rfl rfl

/-! ### Runs -/

/-- The latest step that says something. -/
def latest {Said : Type} (said : GatewayTransition → Option Said)
    (history : List GatewayTransition) : Option Said := history.reverse.findSome? said

theorem latest_snoc {Said : Type} (said : GatewayTransition → Option Said)
    (history : List GatewayTransition) (t : GatewayTransition) :
    latest said (history ++ [t]) = (said t).or (latest said history) := by
  rw [latest, List.reverse_append, List.reverse_singleton, List.singleton_append,
    List.findSome?_cons]
  cases said t <;> rfl

/-- The row recounts what happened since the poll that registered the pod. -/
structure Recounts (podId : String) (first : GatewayTransition)
    (since : List GatewayTransition) (pod : Pod) : Prop where
  /-- The pod was unknown before, and is known ever since. -/
  unknown : first.pre.pods.get podId = none
  known : ∀ u ∈ since, (u.pre.pods.get podId).isSome
  opening : ∃ heartbeat, heartbeatOf podId first = some (heartbeat, pod.firstSeenAt) ∧
    pod.sessionId = heartbeat.sessionId
  heartbeat : ∃ heartbeat, latest (heartbeatOf podId) (first :: since) =
    some (heartbeat, pod.lastSeenAt) ∧ heartbeat.refresh pod.lastSeenAt pod = pod
  draining : pod.draining = (latest (drainOf podId) since).getD false
  jobsCompleted : pod.jobsCompleted = (since.map (completions podId)).sum
  jobsFailed : pod.jobsFailed = (since.map (failures podId)).sum

theorem recounts_step {podId : String} {first : GatewayTransition}
    {since : List GatewayTransition} {pod pod' : Pod}
    (recounts : Recounts podId first since pod) (before : t.pre.pods.get podId = some pod)
    (change : PodChange config t podId (some pod) (some pod')) :
    Recounts podId first (since ++ [t]) pod' := by
  obtain ⟨unknown, known, opening, ⟨heartbeat, heard, refreshed⟩, draining, completed, failed⟩ :=
    recounts
  have present : ∀ u ∈ since ++ [t], (u.pre.pods.get podId).isSome := by
    intro u member
    rcases List.mem_append.mp member with earlier | last
    · exact known u earlier
    · rw [List.mem_singleton.mp last, before]
      rfl
  have snoc (said : GatewayTransition → Nat) :
      ((since ++ [t]).map said).sum = (since.map said).sum + said t := by simp
  have heard' := latest_snoc (heartbeatOf podId) (first :: since) t
  have drained' := latest_snoc (drainOf podId) since t
  rw [heard, List.cons_append] at heard'
  cases change with
  | @refreshed _ heartbeat' polls quiet free =>
    rw [polls] at heard'
    rw [quiet] at drained'
    refine ⟨unknown, present, opening, ⟨heartbeat', heard', rfl⟩, ?_, ?_, ?_⟩
    · rw [drained']
      exact draining
    · rw [snoc, free.1]
      exact completed
    · rw [snoc, free.2]
      exact failed
  | @drained _ flag drains unheard free =>
    rw [unheard] at heard'
    rw [drains] at drained'
    refine ⟨unknown, present, opening, ⟨heartbeat, heard', ?_⟩, ?_, ?_, ?_⟩
    · exact congrArg (Pod.withDraining flag) refreshed
    · rw [drained']
      rfl
    · rw [snoc, free.1]
      exact completed
    · rw [snoc, free.2]
      exact failed
  | tallied unheard quiet =>
    rw [unheard] at heard'
    rw [quiet] at drained'
    refine ⟨unknown, present, opening, ⟨heartbeat, heard', ?_⟩, ?_, ?_, ?_⟩
    · exact congrArg (Pod.tallied (completions podId t) (failures podId t)) refreshed
    · rw [drained']
      exact draining
    · rw [snoc]
      exact congrArg (· + completions podId t) completed
    · rw [snoc]
      exact congrArg (· + failures podId t) failed

/-- The rows of the registry tell the history of the run. -/
def RegistryTells (trace : List GatewayTransition) (state : Gateway) : Prop :=
  ∀ podId pod, state.pods.get podId = some pod → podId ≠ "" ∧
    ∃ before first since, trace = before ++ first :: since ∧ Recounts podId first since pod

theorem registryTells_step (fires : (gateway platform prepare config).Fires t)
    (settles : t.pre.Settles platform config) {trace : List GatewayTransition}
    (tells : RegistryTells trace t.pre) : RegistryTells (trace ++ [t]) t.post := by
  intro podId pod' found'
  have known : t.pre.pods.Known podId := by
    cases found : t.pre.pods.get podId with
    | none => exact .inl found
    | some pod => exact .inr (tells podId pod found).1
  have change := podChange fires settles known
  rw [found'] at change
  cases found : t.pre.pods.get podId with
  | none =>
    rw [found] at change
    cases change with
    | @registered heartbeat polls =>
      refine ⟨?_, trace, t, [], rfl, found, by simp, ⟨heartbeat, polls, rfl⟩,
        ⟨heartbeat, ?_, rfl⟩, rfl, rfl, rfl⟩
      · rw [heartbeatOf] at polls
        split at polls
        · split at polls
          · next named => exact ne_empty_of_str named
          · cases polls
        · cases polls
      · rw [latest, List.reverse_singleton, List.findSome?_singleton]
        exact polls
  | some pod =>
    rw [found] at change
    obtain ⟨nonempty, before, first, since, rfl, recounts⟩ := tells podId pod found
    exact ⟨nonempty, before, first, since ++ [t], by simp,
      recounts_step recounts found change⟩

theorem registryTells_of_run {trace : List GatewayTransition} {final : Gateway}
    (run : (gateway platform prepare config).Run (gateway platform prepare config).initial
      trace final) : RegistryTells trace final := by
  apply run.history
  · exact fun podId pod found => nomatch found
  · intro before t earlier fires tells
    exact registryTells_step fires (settles_of_run earlier) tells

/-- In this run every row of the registry tells what happened since the pod was first heard of,
and a row is forgotten only when its pod has been silent for the retention period. -/
def RegistryKept (run : GatewayRun platform prepare config) : Prop :=
  RegistryTells run.trace run.final ∧
    ∀ t ∈ run.trace, ∀ podId pod, t.pre.pods.get podId = some pod →
      t.post.pods.get podId = none → pod.lastSeenAt + config.jobRetentionMs < t.pre.now

theorem registry_kept (platform : Platform) (prepare : Prepare) (config : Config)
    (run : GatewayRun platform prepare config) : RegistryKept run := by
  refine ⟨registryTells_of_run run.run, fun t member podId pod found gone => ?_⟩
  obtain ⟨before, after, split⟩ := List.append_of_mem member
  have whole := run.run
  rw [split] at whole
  obtain ⟨earlier, fires, -⟩ := whole.split
  have nonempty := (registryTells_of_run earlier podId pod found).1
  have change := podChange fires (settles_of_run earlier) (.inr nonempty)
  rw [found, gone] at change
  cases change with
  | purged _ old => exact old

end InferenceGateway
