import InferenceGateway.Auth
import InferenceGateway.Gateway
import InferenceGateway.Routes.Content
import InferenceGateway.Routes.Health
import InferenceGateway.Routes.Input
import InferenceGateway.Routes.Listings
import InferenceGateway.Routes.Preparation

/-!
# The service

The gateway behind the hooks of its routes.  A command acts on the gateway, a
query reads it; a query for a file waits until the file has been examined.
-/

namespace InferenceGateway

open Library

/-- Who a route is for. -/
inductive Plane where
  | everyone
  | client
  | operator
  | agent
  deriving DecidableEq

inductive Query where
  | health
  | getVideo (id : String)
  | listVideos (limit status : Option String)
  | content (id : String)
  | listEvents (id : String)
  | listModels
  | listPods
  | input (id : String) (leaseId : Option String)

inductive Command where
  | createVideo (request : VideoRequest)
  | deleteVideo (id : String)
  /-- `POST /v1/pods/:id/drain`. -/
  | drain (podId : String) (draining : DrainField)
  /-- `DELETE /v1/pods/:id/drain`. -/
  | undrain (podId : String)
  | poll (body : PollBody) (sessionId : String)
  | upload (request : UploadRequest)
  | result (request : ResultRequest)

/-- What happens to the process without a request. -/
inductive ProcessEvent where
  | tick (now : Millis)
  | expirePoll (token : Nat)
  | resumePoll (token : Nat)
  | advance (token : Nat) (event : Event)
  | sweep
  | cleanup
  | shutdown
  | restart

inductive ServiceAction where
  | query (headers : Headers) (query : Query)
  | command (headers : Headers) (command : Command)
  | event (event : ProcessEvent)
  /-- The file that a query waits for is examined. -/
  | examine (place : Nat)

def Query.plane : Query → Plane
  | .health => .everyone
  | .listPods => .operator
  | .input _ _ => .agent
  | .getVideo _ | .listVideos _ _ | .content _ | .listEvents _ | .listModels => .client

def Command.plane : Command → Plane
  | .createVideo _ | .deleteVideo _ => .client
  | .drain _ _ | .undrain _ => .operator
  | .poll _ _ | .upload _ | .result _ => .agent

def Command.action : Command → Action
  | .createVideo request => .createVideo request
  | .deleteVideo id => .deleteVideo id
  | .drain podId draining => .drain podId (wantsDraining draining)
  | .undrain podId => .drain podId false
  | .poll body sessionId => .poll body sessionId
  | .upload request => .upload request
  | .result request => .result request

def ProcessEvent.action : ProcessEvent → Action
  | .tick now => .tick now
  | .expirePoll token => .expirePoll token
  | .resumePoll token => .resumePoll token
  | .advance token event => .advance token event
  | .sweep => .sweep
  | .cleanup => .cleanup
  | .shutdown => .shutdown
  | .restart => .restart

/-- A query that waits for its file. -/
inductive PendingRead where
  | media (request : ContentRequest)
  | input (request : InputRequest)
  /-- The file was there; it is still to be opened. -/
  | opening (response : InputResponse)

inductive Answer where
  /-- A hook answered instead of the route. -/
  | unauthorized (error : ApiError)
  | refused (status : Nat) (error : ApiError)
  | acted (reply : Reply)
  | waiting (read : PendingRead)
  | health (health : Health)
  | video (response : VideoResponse)
  | videos (responses : List VideoResponse)
  | events (events : List JobEvent)
  | models (models : List ModelListing)
  | pods (pods : List PodListing)
  | media (reply : ContentReply)
  | input (stream : InputStream)

/-- What a process is started with; it boots only with its secrets. -/
structure Deployment where
  platform : Platform
  config : Config
  secrets : Secrets
  booted : ∃ env, loadSecrets env = .ok secrets
  artifacts : ArtifactStore
  cwd : WorkingDirectory

/-- The gateway, and the queries that wait for a file. -/
structure Service where
  gateway : Gateway
  reads : List PendingRead

namespace Deployment

variable (deployment : Deployment)

/-- The checks on an image and its fields, in double precision. -/
abbrev prepare : Prepare := prepareVideo .doubles deployment.platform deployment.config

/-- The `onRequest` hook of the routes of a plane; none when it calls `done`. -/
def hook (plane : Plane) (headers : Headers) : Option ApiError :=
  match plane with
  | .everyone => none
  | .client => deployment.secrets.requireApiKey deployment.platform headers
  | .operator => deployment.secrets.requireAdminKey deployment.platform headers
  | .agent => deployment.secrets.requireAgentSecret deployment.platform headers

end Deployment

/-- What a route sends for a result or a refusal. -/
def Answer.ofExcept {Result : Type} (answer : Result → Answer) :
    Except (Nat × ApiError) Result → Answer
  | .error (status, error) => .refused status error
  | .ok result => answer result

/-- The routes that read. -/
def Deployment.answer (deployment : Deployment) (state : Gateway) : Query → Answer
  | .health => .health (state.health deployment.config)
  | .getVideo id => .ofExcept .video (state.getVideo deployment.config id)
  | .listVideos limit status => .ofExcept .videos (state.listVideos deployment.config limit status)
  | .content id => .ofExcept (fun request => .waiting (.media request))
      (state.content deployment.artifacts deployment.cwd id)
  | .listEvents id => .ofExcept .events (state.listEvents id)
  | .listModels => .models (state.listModels deployment.config)
  | .listPods => .pods (state.listPods deployment.config)
  | .input id leaseId => .ofExcept (fun request => .waiting (.input request))
      (state.input id leaseId)

def PendingRead.examine (disk : Disk) : PendingRead → Answer
  | .media request => .media (request.serve disk)
  | .input request => .ofExcept (fun response => .waiting (.opening response))
      (request.announce disk)
  | .opening response => .ofExcept .input (response.stream disk)

/-- What goes on waiting after the answer. -/
def Answer.waits : Answer → List PendingRead
  | .waiting read => [read]
  | _ => []

theorem mem_waits {answer : Answer} {read : PendingRead} :
    read ∈ answer.waits ↔ answer = .waiting read := by
  cases answer with
  | waiting other => simp [Answer.waits, eq_comm]
  | _ => simp [Answer.waits]

namespace Service

variable (deployment : Deployment) (service : Service)

def initial : Service := ⟨Gateway.empty, []⟩

/-- An action of the gateway, with the queries that go on waiting. -/
def perform (action : Action) (reads : List PendingRead) : Option (Answer × Service) :=
  (service.gateway.step deployment.platform deployment.prepare deployment.config action).map
    fun (reply, gateway) => (.acted reply, ⟨gateway, reads⟩)

/-- The answer to a query its hook let through. -/
def ask (query : Query) : Answer × Service :=
  let answer := deployment.answer service.gateway query
  (answer, { service with reads := service.reads ++ answer.waits })

/-- The file of the query at the place is examined. -/
def examine (place : Nat) : Option (Answer × Service) :=
  service.reads[place]?.map fun read =>
    let answer := read.examine service.gateway.disk
    (answer, { service with reads := service.reads.eraseIdx place ++ answer.waits })

def step : ServiceAction → Option (Answer × Service)
  | .query headers query =>
    match deployment.hook query.plane headers with
    | some error => some (.unauthorized error, service)
    | none => some (service.ask deployment query)
  | .command headers command =>
    match deployment.hook command.plane headers with
    | some error => some (.unauthorized error, service)
    | none => service.perform deployment command.action service.reads
  | .event .restart => service.perform deployment .restart []
  | .event event => service.perform deployment event.action service.reads
  | .examine place => service.examine place

end Service

/-- The plane and the headers of a request. -/
def ServiceAction.request : ServiceAction → Option (Plane × Headers)
  | .query headers asked => some (asked.plane, headers)
  | .command headers given => some (given.plane, headers)
  | .event _ | .examine _ => none

/-- The service of a deployment, started over empty stores. -/
def service (deployment : Deployment) : Machine Service ServiceAction Answer where
  initial := Service.initial
  step := Service.step deployment

abbrev ServiceTransition := Transition Service ServiceAction Answer

abbrev ServiceRun (deployment : Deployment) := (service deployment).Execution

/-! ### What a step of the service comes to -/

inductive ServiceChange (deployment : Deployment) (t : ServiceTransition) : Prop where
  | rejected {plane : Plane} {headers : Headers} {error : ApiError}
      (request : t.action.request = some (plane, headers))
      (stops : deployment.hook plane headers = some error)
      (reply : t.reply = .unauthorized error) (post : t.post = t.pre)
  | asked {headers : Headers} {query : Query} (action : t.action = .query headers query)
      (passes : deployment.hook query.plane headers = none)
      (reply : t.reply = deployment.answer t.pre.gateway query)
      (gateway : t.post.gateway = t.pre.gateway)
      (reads : t.post.reads = t.pre.reads ++ t.reply.waits)
  | commanded {headers : Headers} {command : Command} {answer : Reply}
      (action : t.action = .command headers command)
      (passes : deployment.hook command.plane headers = none) (reply : t.reply = .acted answer)
      (stepped : t.pre.gateway.step deployment.platform deployment.prepare deployment.config
        command.action = some (answer, t.post.gateway))
      (reads : t.post.reads = t.pre.reads)
  | happened {event : ProcessEvent} {answer : Reply} (action : t.action = .event event)
      (reply : t.reply = .acted answer)
      (stepped : t.pre.gateway.step deployment.platform deployment.prepare deployment.config
        event.action = some (answer, t.post.gateway))
      (reads : t.post.reads ⊆ t.pre.reads)
  | examined {place : Nat} {read : PendingRead} (action : t.action = .examine place)
      (waited : t.pre.reads[place]? = some read)
      (reply : t.reply = read.examine t.pre.gateway.disk)
      (gateway : t.post.gateway = t.pre.gateway)
      (reads : t.post.reads = t.pre.reads.eraseIdx place ++ t.reply.waits)

theorem perform_eq_some {deployment : Deployment} {service service' : Service} {action : Action}
    {reads : List PendingRead} {answer : Answer}
    (performed : service.perform deployment action reads = some (answer, service')) :
    ∃ reply, answer = .acted reply ∧ service'.reads = reads ∧
      service.gateway.step deployment.platform deployment.prepare deployment.config action =
        some (reply, service'.gateway) := by
  obtain ⟨⟨reply, gateway⟩, stepped, same⟩ := Option.map_eq_some_iff.mp performed
  cases same
  exact ⟨reply, rfl, rfl, stepped⟩

theorem serviceChange {deployment : Deployment} {t : ServiceTransition}
    (fires : (service deployment).Fires t) : ServiceChange deployment t := by
  obtain ⟨pre, action, reply, post⟩ := t
  have stepped : pre.step deployment action = some (reply, post) := fires
  clear fires
  cases action with
  | query headers query =>
    rw [Service.step] at stepped
    split at stepped
    · next error stops =>
      cases stepped
      exact .rejected rfl stops rfl rfl
    · next passes =>
      cases stepped
      exact .asked rfl passes rfl rfl rfl
  | command headers command =>
    rw [Service.step] at stepped
    split at stepped
    · next error stops =>
      cases stepped
      exact .rejected rfl stops rfl rfl
    · next passes =>
      obtain ⟨answer, same, reads, moved⟩ := perform_eq_some stepped
      exact .commanded rfl passes same moved reads
  | event event =>
    have performed : ∃ reads, reads ⊆ pre.reads ∧
        pre.perform deployment event.action reads = some (reply, post) := by
      cases event with
      | restart => exact ⟨[], List.nil_subset _, stepped⟩
      | _ => exact ⟨pre.reads, List.Subset.refl _, stepped⟩
    obtain ⟨reads, kept, performed⟩ := performed
    obtain ⟨answer, same, rfl, moved⟩ := perform_eq_some performed
    exact .happened rfl same moved kept
  | examine place =>
    obtain ⟨read, waited, same⟩ := Option.map_eq_some_iff.mp stepped
    cases same
    exact .examined rfl waited rfl rfl rfl

/-- What the gateway takes from a step of the service. -/
def acted (t : ServiceTransition) : Option GatewayTransition :=
  match t.action, t.reply with
  | .command _ command, .acted reply =>
    some ⟨t.pre.gateway, command.action, reply, t.post.gateway⟩
  | .event event, .acted reply => some ⟨t.pre.gateway, event.action, reply, t.post.gateway⟩
  | _, _ => none

theorem acted_of_unauthorized {t : ServiceTransition} {error : ApiError}
    (reply : t.reply = .unauthorized error) : acted t = none := by
  rw [acted, reply]
  cases t.action <;> rfl

theorem action_of_acted {t : ServiceTransition} {headers : Headers} {command : Command}
    {u : GatewayTransition} (given : t.action = .command headers command)
    (seen : acted t = some u) : u.action = command.action := by
  rw [acted, given] at seen
  cases reply : t.reply with
  | acted =>
    rw [reply] at seen
    cases seen
    rfl
  | _ =>
    rw [reply] at seen
    cases seen

theorem reply_of_acted {t : ServiceTransition} {u : GatewayTransition} (seen : acted t = some u) :
    t.reply = .acted u.reply := by
  unfold acted at seen
  split at seen
  · next reply =>
    cases seen
    exact reply
  · next reply =>
    cases seen
    exact reply
  · cases seen

/-- The service as its gateway sees it: queries and rejected requests are nothing to it. -/
def gatewayView (deployment : Deployment) : (service deployment).View
    (gateway deployment.platform deployment.prepare deployment.config) where
  state := Service.gateway
  step := acted
  initial := rfl
  idle t fires unseen := by
    cases serviceChange fires with
    | rejected _ _ _ post => rw [post]
    | commanded action _ reply => simp [acted, action, reply] at unseen
    | happened action reply => simp [acted, action, reply] at unseen
    | asked _ _ _ gateway | examined _ _ _ gateway => exact gateway
  moves t u fires seen := by
    cases serviceChange fires with
    | rejected _ _ reply => cases (acted_of_unauthorized reply).symm.trans seen
    | asked action => simp [acted, action] at seen
    | commanded action _ reply stepped =>
      rw [acted, action, reply] at seen
      cases seen
      exact ⟨stepped, rfl, rfl⟩
    | happened action reply stepped =>
      rw [acted, action, reply] at seen
      cases seen
      exact ⟨stepped, rfl, rfl⟩
    | examined action => simp [acted, action] at seen

end InferenceGateway
