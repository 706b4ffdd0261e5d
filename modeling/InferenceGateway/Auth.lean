import InferenceGateway.Config
import InferenceGateway.Domain.Errors

/-!
# Shared-secret authentication

Clients present an API key, pod agents the shared secret, operators an admin
key.  A hook answers a request itself or lets it through to the route.
-/

namespace InferenceGateway

/-- The secrets of `loadConfig`. -/
structure Secrets where
  apiKeys : List String
  agentSecret : String
  adminKeys : List String

abbrev Environment := String → Option String

/-- `list`: the non-empty entries of a comma-separated variable. -/
def Environment.list (env : Environment) (name : String) : List String :=
  ((((env name).getD "").toList.splitOn ',').map fun entry => trim (String.ofList entry)).filter
    (· ≠ "")

/-- What `loadConfig` checks before it reads a default: the process does not boot without its two
secrets. -/
def loadSecrets (env : Environment) : Except String Secrets :=
  let apiKeys := env.list "GATEWAY_API_KEYS"
  if apiKeys = [] then
    .error "GATEWAY_API_KEYS is required (comma-separated; rotation-friendly)"
  else
    let agentSecret := (env "AGENT_SHARED_SECRET").getD ""
    if agentSecret = "" then .error "AGENT_SHARED_SECRET is required"
    else .ok ⟨apiKeys, agentSecret, env.list "ADMIN_KEYS"⟩

theorem ne_empty_of_list {env : Environment} {name key : String} (member : key ∈ env.list name) :
    key ≠ "" := by
  have kept := (List.mem_filter.mp member).2
  simpa using kept

/-- A process that boots has keys to compare with, and none of them is empty. -/
theorem ok_of_loadSecrets {env : Environment} {secrets : Secrets}
    (loaded : loadSecrets env = .ok secrets) :
    secrets.apiKeys ≠ [] ∧ (∀ key ∈ secrets.apiKeys ++ secrets.adminKeys, key ≠ "") ∧
      secrets.agentSecret ≠ "" := by
  unfold loadSecrets at loaded
  dsimp only at loaded
  split at loaded
  · cases loaded
  · next present =>
    split at loaded
    · cases loaded
    · next nonempty =>
      cases loaded
      refine ⟨present, fun key member => ?_, nonempty⟩
      rcases List.mem_append.mp member with client | admin
      · exact ne_empty_of_list client
      · exact ne_empty_of_list admin

/-! ### Headers -/

/-- A header as the HTTP parser hands it out. -/
inductive Header where
  | absent
  | single (text : String)
  | several (texts : List String)

/-- The value of a header that is one string. -/
def Header.text : Header → Option String
  | .single text => some text
  | _ => none

/-- The headers that carry credentials. -/
structure Headers where
  apiKey : Header
  authorization : Header
  agentSecret : Header
  adminKey : Header

/-- A request without credentials. -/
def Headers.bare : Headers := ⟨.absent, .absent, .absent, .absent⟩

/-- What follows `Bearer ` in any case.  Only ASCII letters are folded: no other letter lower-cases
to one of that word. -/
def bearerToken (text : String) : Option String :=
  if (text.toList.take 7).map Char.toLower = "bearer ".toList then
    some (trim (String.ofList (text.toList.drop 7)))
  else none

/-- `requestKey`: the API key of a request. -/
def Headers.requestKey (headers : Headers) : Option String :=
  match headers.apiKey.text.filter (· ≠ "") with
  | some key => some key
  | none => (headers.authorization.text.bind bearerToken).filter (· ≠ "")

/-- The API key header comes before the authorization header. -/
theorem Headers.requestKey_of_apiKey {headers : Headers} {key : String}
    (presented : headers.apiKey = .single key) (nonempty : key ≠ "") :
    headers.requestKey = some key := by
  have kept : headers.apiKey.text.filter (· ≠ "") = some key := by
    simp [presented, Header.text, Option.filter, nonempty]
  rw [requestKey, kept]

/-- The key an operator presents. -/
def Headers.operatorKey (headers : Headers) : Option String :=
  match headers.adminKey.text with
  | some key => some key
  | none => headers.requestKey

/-! ### Comparisons -/

section Comparison

variable (platform : Platform)

/-- Two secrets are compared by the digests of their UTF-8 bytes. -/
def safeEqual (first second : String) : Bool :=
  platform.sha256 first.toUTF8.toList == platform.sha256 second.toUTF8.toList

/-- Whether the candidate matches an accepted secret; every secret is looked at. -/
def matchesAny (candidate : String) (accepted : List String) : Bool :=
  accepted.foldl (fun hit secret => if safeEqual platform candidate secret then true else hit) false

theorem matchesAny_iff (candidate : String) (accepted : List String) :
    matchesAny platform candidate accepted = true ↔
      ∃ secret ∈ accepted, safeEqual platform candidate secret = true := by
  have general : ∀ hit, accepted.foldl
      (fun hit secret => if safeEqual platform candidate secret then true else hit) hit = true ↔
        hit = true ∨ ∃ secret ∈ accepted, safeEqual platform candidate secret = true := by
    induction accepted with
    | nil => simp
    | cons secret rest inductionHypothesis =>
      intro hit
      rw [List.foldl_cons, inductionHypothesis]
      by_cases same : safeEqual platform candidate secret = true
      · simp [same]
      · simp [same]
  rw [matchesAny, general]
  simp

end Comparison

/-! ### Hooks -/

/-- The rejection of every client-facing route. -/
def unauthorized : ApiError :=
  apiError 401 "invalid or missing API key" (some "invalid_api_key") none

def agentUnauthorized : ApiError :=
  apiError 401 "invalid or missing agent secret" (some "invalid_agent_secret") none

/-- A key that is present, not empty and accepted. -/
def admits (platform : Platform) (key : Option String) (accepted : List String) : Bool :=
  key.any fun key => key ≠ "" && matchesAny platform key accepted

namespace Secrets

variable (platform : Platform) (secrets : Secrets) (headers : Headers)

/-- The keys of an operator: the admin keys, or the API keys where there are none. -/
def operatorKeys : List String :=
  if secrets.adminKeys.length > 0 then secrets.adminKeys else secrets.apiKeys

/-- None when the hook calls `done`. -/
def requireApiKey : Option ApiError :=
  if !admits platform headers.requestKey secrets.apiKeys then some unauthorized else none

def requireAgentSecret : Option ApiError :=
  match headers.agentSecret.text with
  | none => some agentUnauthorized
  | some provided =>
    if !safeEqual platform provided secrets.agentSecret then some agentUnauthorized else none

def requireAdminKey : Option ApiError :=
  if !admits platform headers.operatorKey secrets.operatorKeys then some unauthorized else none

end Secrets

example : Headers.requestKey ⟨.single "", .single "bEARER  k ", .absent, .absent⟩ = some "k" := by
  decide +kernel

end InferenceGateway
