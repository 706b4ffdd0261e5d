import InferenceGateway.Runs.Views

/-!
# What the fleet is said to run

Models, health and the operator's list describe the same pods: the ones that
were heard from, with what their last poll said.  Requests are admitted for
what is advertised.
-/

namespace InferenceGateway

open Library

/-! ### Heard pods -/

section Heartbeats

variable {platform : Platform} {prepare : Prepare} {config : Config} {t : GatewayTransition}

theorem latest_append {Said : Type} (said : GatewayTransition → Option Said)
    (earlier later : List GatewayTransition) :
    latest said (earlier ++ later) = (latest said later).or (latest said earlier) := by
  rw [latest, List.reverse_append, List.findSome?_append]
  rfl

/-- The row says what the pod last said. -/
def Pod.Repeats (pod : Pod) (heartbeat : PodHeartbeat) (seen : Millis) : Prop :=
  pod.lastSeenAt = seen ∧ heartbeat.refresh seen pod = pod

/-- The last word of every pod is in its row, or too old. -/
def Heard (config : Config) (history : List GatewayTransition) (state : Gateway) : Prop :=
  ∀ podId heartbeat seen, latest (heartbeatOf podId) history = some (heartbeat, seen) →
    (∃ pod, state.pods.get podId = some pod ∧ pod.Repeats heartbeat seen) ∨
      seen + config.jobRetentionMs < state.now

theorem podChange_of_run {history : List GatewayTransition}
    (earlier : (gateway platform prepare config).Run (gateway platform prepare config).initial
      history t.pre) (fires : (gateway platform prepare config).Fires t) (podId : String) :
    PodChange config t podId (t.pre.pods.get podId) (t.post.pods.get podId) := by
  refine podChange fires (settles_of_run earlier) ?_
  cases found : t.pre.pods.get podId with
  | none => exact .inl found
  | some pod => exact .inr (registryTells_of_run earlier podId pod found).1

theorem heard_step {history : List GatewayTransition}
    (earlier : (gateway platform prepare config).Run (gateway platform prepare config).initial
      history t.pre) (fires : (gateway platform prepare config).Fires t)
    (heard : Heard config history t.pre) : Heard config (history ++ [t]) t.post := by
  intro podId heartbeat seen last
  have change := podChange_of_run earlier fires podId
  have onward := now_le fires
  rw [latest_snoc] at last
  generalize before : t.pre.pods.get podId = row, t.post.pods.get podId = row' at change ⊢
  cases polls : heartbeatOf podId t with
  | some word =>
    rw [polls] at last
    cases last
    refine .inl ?_
    cases change with
    | registered polls' =>
      cases polls.symm.trans polls'
      exact ⟨_, rfl, rfl, rfl⟩
    | refreshed polls' =>
      cases polls.symm.trans polls'
      exact ⟨_, rfl, rfl, rfl⟩
    | absent unheard | drained _ unheard | purged unheard | tallied unheard =>
      cases polls.symm.trans unheard
  | none =>
    rw [polls] at last
    rcases heard podId heartbeat seen last with ⟨pod, found, said, same⟩ | silent
    · obtain rfl := before.symm.trans found
      cases change with
      | refreshed polls' => cases polls.symm.trans polls'
      | drained => exact .inl ⟨_, rfl, said, congrArg (Pod.withDraining _) same⟩
      | tallied => exact .inl ⟨_, rfl, said, congrArg (Pod.tallied _ _) same⟩
      | purged _ old => exact .inr ((said ▸ old).trans_le onward)
    · exact .inr (silent.trans_le onward)

theorem heard_of_run {trace : List GatewayTransition} {final : Gateway}
    (run : (gateway platform prepare config).Run (gateway platform prepare config).initial
      trace final) : Heard config trace final := by
  apply run.history
  · intro podId heartbeat seen last
    cases last
  · exact fun before t earlier fires heard => heard_step earlier fires heard

end Heartbeats

/-! ### The routes that show the fleet -/

section Routes

variable {config : Config} {state : Gateway}

theorem mem_connectedPods {pod : Pod} : pod ∈ state.connectedPods config ↔
    state.pods.get pod.podId = some pod ∧ state.now - config.podStaleMs ≤ pod.lastSeenAt := by
  rw [Gateway.connectedPods, PodStore.listConnected, List.mem_filter, decide_eq_true_iff,
    PodStore.get, Table.get?_eq_some_iff]
  simp

/-- The operator's list shows every row once, the pod heard from last first, and its connected
rows are what the health of the fleet counts. -/
structure Surveys (config : Config) (state : Gateway) (listings : List PodListing) : Prop where
  rows : (listings.map PodListing.pod).Perm state.pods.rows
  newest : listings.Pairwise fun first second => second.pod.lastSeenAt ≤ first.pod.lastSeenAt
  told : ∀ listing ∈ listings, listing.model = listing.pod.model ∧
    listing.inFlight = state.busyOf listing.pod ∧
    (listing.connected = true ↔ listing.pod ∈ state.connectedPods config)
  connected : listings.countP PodListing.connected = (state.health config).pods.connected
  ready : (listings.countP fun listing =>
    listing.connected && (listing.pod.sglangReady && !listing.pod.draining)) =
      (state.health config).pods.ready
  busy : ((listings.filter PodListing.connected).map PodListing.inFlight).sum =
    (state.health config).pods.slotsBusy

theorem surveys_listPods (config : Config) (state : Gateway) :
    Surveys config state (state.listPods config) := by
  set row := Gateway.podListing config state
  have whole : (PodStore.list state.pods).Perm state.pods.rows := List.perm_insertionSort _ _
  have recent (pod : Pod) : (row pod).connected =
      decide (state.now - config.podStaleMs ≤ pod.lastSeenAt) :=
    decide_eq_decide.mpr sub_le_comm
  have connected : ((PodStore.list state.pods).filter fun pod => (row pod).connected).Perm
      (state.connectedPods config) := by
    simp only [recent]
    exact whole.filter _
  have fleet := state.fleet_eq config
  constructor
  case rows =>
    rw [Gateway.listPods, List.map_map]
    exact (List.map_id _).symm ▸ whole
  case newest =>
    rw [Gateway.listPods, List.pairwise_map]
    exact List.pairwise_insertionSort _ _
  case told =>
    intro listing member
    obtain ⟨pod, inside, rfl⟩ := List.mem_map.mp member
    refine ⟨rfl, rfl, ?_⟩
    rw [← connected.mem_iff, List.mem_filter]
    exact ⟨fun seen => ⟨inside, seen⟩, And.right⟩
  case connected =>
    rw [Gateway.listPods, List.countP_map, Gateway.health, fleet, List.countP_eq_length_filter]
    exact connected.length_eq
  case ready =>
    rw [Gateway.listPods, List.countP_map, Gateway.health, fleet, ← connected.countP_eq,
      List.countP_filter]
    congr 1
    funext pod
    exact Bool.and_comm _ _
  case busy =>
    rw [Gateway.listPods, List.filter_map, List.map_map, Gateway.health, fleet]
    exact (connected.map state.busyOf).sum_eq

theorem servingPods_ne_nil {id : String} (serving : state.servingPods config id ≠ []) :
    ∃ pod ∈ state.connectedPods config, pod.model = some id ∧ pod.draining = false := by
  obtain ⟨pod, member⟩ := List.exists_mem_of_ne_nil _ serving
  obtain ⟨connected, serves⟩ := List.mem_filter.mp member
  exact ⟨pod, connected, by simpa using serves⟩

/-- A model is refused for capacity when no pod can take work for it. -/
theorem usableFor_of_servingPods {id : String} (serving : state.servingPods config id = []) :
    usableFor id (state.connectedPods config) = 0 := by
  rw [usableFor, List.countP_eq_zero]
  intro pod connected usable
  have member : pod ∈ state.servingPods config id :=
    List.mem_filter.mpr ⟨connected, by simp_all⟩
  rw [serving] at member
  cases member

variable {platform : Platform} {prepare : Prepare}

/-- A request is refused for want of a pod under the model it names. -/
theorem unserved_of_admission {form : VideoForm} {model : String} {status : Nat} {error : ApiError}
    (refused : state.admission prepare config form = .error (status, error, .model model)) :
    resolveModelId (form.fields "model") = some model ∧ state.servingPods config model = [] := by
  unfold Gateway.admission at refused
  split at refused
  · next spec resolved found named =>
    dsimp only at refused
    split_ifs at refused with empty long unserved full
    · cases refused
    · cases refused
    · cases refused
      exact ⟨named, List.isEmpty_iff.mp unserved⟩
    · cases refused
    · split at refused
      · cases refused
      · split at refused <;> cases refused
  · cases refused

theorem unserved_of_createVideo {request : VideoRequest} {status : Nat} {error : ApiError}
    {id : String} {post : Gateway}
    (answered : state.createVideo platform prepare config request =
      (.error status error (.model id), post)) :
    ∃ form, request.form = .ok form ∧ resolveModelId (form.fields "model") = some id ∧
      state.servingPods config id = [] := by
  unfold Gateway.createVideo at answered
  split at answered
  · cases answered
  · split at answered
    · cases answered
    · cases answered
    · next form read =>
      split at answered
      · next refused =>
        cases answered
        obtain ⟨named, unserved⟩ := unserved_of_admission refused
        exact ⟨form, read, named, unserved⟩
      · cases answered

/-- A model no pod takes work for is listed with no pod ready. -/
theorem podsReady_of_servingPods {id : String} (unserved : state.servingPods config id = [])
    {listing : ModelListing} (listed : listing ∈ state.listModels config)
    (named : listing.id = id) : listing.podsReady = 0 := by
  rw [(advertises_listModels config state).ready listing listed, named]
  exact usableFor_of_servingPods unserved

/-- A request that is taken up is for a model that is advertised. -/
theorem advertised_of_createVideo {request : VideoRequest} {token : Nat} {post : Gateway}
    (answered : state.createVideo platform prepare config request = (.pending token, post)) :
    ∃ form id, request.form = .ok form ∧ resolveModelId (form.fields "model") = some id ∧
      id ∈ (state.listModels config).map ModelListing.id := by
  obtain ⟨form, spec, model, image, input, read, passed⟩ := letsIn_of_createVideo answered
  obtain ⟨pod, connected, serves, -⟩ := servingPods_ne_nil passed.served
  exact ⟨form, model, read, passed.resolved,
    ((advertises_listModels config state).served model).mpr ⟨pod, connected, serves⟩⟩

end Routes

/-! ### One fleet -/

/-- In the state a run has led to, the routes that show the fleet agree with each other and with
what the pods last said, and requests were admitted and refused accordingly. -/
structure FleetTold {deployment : Deployment} (run : ServiceRun deployment) : Prop where
  models : Advertises (run.final.gateway.connectedPods deployment.config)
    (run.final.gateway.listModels deployment.config)
  pods : Surveys deployment.config run.final.gateway
    (run.final.gateway.listPods deployment.config)
  health : run.final.gateway.Tells deployment.config
    (run.final.gateway.health deployment.config)
  /-- A model is listed while a pod was heard from that had loaded it. -/
  loaded : ∀ id ∈ (run.final.gateway.listModels deployment.config).map ModelListing.id,
    ∃ podId heartbeat seen,
      latest (heartbeatOf podId) (run.trace.filterMap acted) = some (heartbeat, seen) ∧
      run.final.gateway.now - deployment.config.podStaleMs ≤ seen ∧
      resolveModelId heartbeat.modelPath = some id
  /-- Every such pod counts, unless rows are kept for less time than pods count as connected. -/
  listed : deployment.config.podStaleMs ≤ deployment.config.jobRetentionMs →
    ∀ podId heartbeat seen id,
      latest (heartbeatOf podId) (run.trace.filterMap acted) = some (heartbeat, seen) →
      run.final.gateway.now - deployment.config.podStaleMs ≤ seen →
      resolveModelId heartbeat.modelPath = some id →
      id ∈ (run.final.gateway.listModels deployment.config).map ModelListing.id
  /-- What was taken up was advertised at that moment. -/
  admitted : ∀ t ∈ run.trace, ∀ headers request token,
    t.action = .command headers (.createVideo request) → t.reply = .acted (.pending token) →
    ∃ form id, request.form = .ok form ∧ resolveModelId (form.fields "model") = some id ∧
      id ∈ (t.pre.gateway.listModels deployment.config).map ModelListing.id
  /-- What was refused for want of a pod named a model none of whose pods could take work. -/
  refused : ∀ t ∈ run.trace, ∀ headers request status error id,
    t.action = .command headers (.createVideo request) →
    t.reply = .acted (.error status error (.model id)) →
    (∃ form, request.form = .ok form ∧ resolveModelId (form.fields "model") = some id) ∧
      t.pre.gateway.servingPods deployment.config id = [] ∧
      ∀ listing ∈ t.pre.gateway.listModels deployment.config, listing.id = id →
        listing.podsReady = 0

section Service

variable {deployment : Deployment}

theorem created_of_commanded {t : ServiceTransition} (fires : (service deployment).Fires t)
    {headers : Headers} {request : VideoRequest} {answer : Reply}
    (action : t.action = .command headers (.createVideo request))
    (reply : t.reply = .acted answer) :
    t.pre.gateway.createVideo deployment.platform deployment.prepare deployment.config request =
      (answer, t.post.gateway) := by
  cases serviceChange fires with
  | rejected _ _ reply' => cases reply.symm.trans reply'
  | commanded action' _ reply' stepped =>
    cases action.symm.trans action'
    cases reply.symm.trans reply'
    exact Option.some.inj stepped
  | asked action' | happened action' | examined action' => cases action.symm.trans action'

end Service

theorem fleet_told (deployment : Deployment) (run : ServiceRun deployment) : FleetTold run := by
  have seen := gateway_of_run run.run
  have advertises := advertises_listModels deployment.config run.final.gateway
  constructor
  case models => exact advertises
  case pods => exact surveys_listPods deployment.config run.final.gateway
  case health => exact run.final.gateway.tells_health deployment.config
  case loaded =>
    intro id member
    obtain ⟨pod, connected, serves⟩ := (advertises.served id).mp member
    obtain ⟨found, recent⟩ := mem_connectedPods.mp connected
    obtain ⟨-, before, first, since, split, recounts⟩ :=
      registryTells_of_run seen pod.podId pod found
    obtain ⟨heartbeat, last, same⟩ := recounts.heartbeat
    refine ⟨pod.podId, heartbeat, pod.lastSeenAt, ?_, recent, ?_⟩
    · rw [split, latest_append, last]
      rfl
    · rw [Pod.model, ← same] at serves
      exact serves
  case listed =>
    intro kept podId heartbeat time id last recent resolved
    rcases heard_of_run seen podId heartbeat time last with ⟨pod, found, said, same⟩ | silent
    · have connected : pod ∈ run.final.gateway.connectedPods deployment.config := by
        obtain rfl : pod.podId = podId := (Table.get?_eq_some_iff.mp found).2
        exact mem_connectedPods.mpr ⟨found, said ▸ recent⟩
      refine (advertises.served id).mpr ⟨pod, connected, ?_⟩
      rw [Pod.model, ← same]
      exact resolved
    · have late := sub_le_iff_le_add.mp recent
      exact absurd silent (not_lt.mpr (late.trans (add_le_add_right kept time)))
  case admitted =>
    intro t member headers request token action reply
    exact advertised_of_createVideo
      (created_of_commanded (run.run.fires_of_mem member) action reply)
  case refused =>
    intro t member headers request status error id action reply
    obtain ⟨form, read, named, unserved⟩ := unserved_of_createVideo
      (created_of_commanded (run.run.fires_of_mem member) action reply)
    exact ⟨⟨form, read, named⟩, unserved,
      fun listing listed same => podsReady_of_servingPods unserved listed same⟩

end InferenceGateway
