import InferenceGateway.Agent.Runner

/-!
# The client of the local `sglang` server

What the functions of the client, and the two of the runner that talk to the
gateway, make of the outcome of a request: a value or an exception.
-/

namespace InferenceGateway

open Library

/-! ### `str` -/

/-- A decimal numeral with the fewest digits that is read back as the given positive double;
the numeral is its significand times a power of ten. -/
def shortestDecimal (x : ℚ) : Nat × ℤ :=
  let magnitude := Int.log 10 x
  let candidates : List (Nat × ℤ) := (List.range 17).flatMap fun digits =>
    let exponent := magnitude - digits
    let below := ⌊x / 10 ^ exponent⌋.toNat
    let both : List Nat := if x - below * 10 ^ exponent ≤ (below + 1) * 10 ^ exponent - x
      then [below, below + 1] else [below + 1, below]
    both.filterMap fun significand : Nat =>
      if Binary64.nearest (significand * 10 ^ exponent) = x then some (significand, exponent)
      else none
  candidates.headD (0, 0)

def zeros (count : ℤ) : String := String.ofList (List.replicate count.toNat '0')

/-- `repr` of a positive float. -/
def floatText (x : ℚ) : String :=
  let (significand, exponent) := shortestDecimal x
  let all := (Nat.toDigits 10 significand)
  let digits := (all.reverse.dropWhile (· = '0')).reverse
  let point : ℤ := all.length + exponent
  let text (chars : List Char) : String := String.ofList chars
  if point ≤ -4 ∨ 16 < point then
    let power := point - 1
    let sign := if power < 0 then "-" else "+"
    let magnitude := toString power.natAbs
    text (digits.take 1) ++ (if digits.length ≤ 1 then "" else "." ++ text (digits.drop 1)) ++
      "e" ++ sign ++ (if power.natAbs < 10 then "0" else "") ++ magnitude
  else if point ≤ 0 then "0." ++ zeros (-point) ++ text digits
  else if digits.length ≤ point.toNat then text digits ++ zeros (point - digits.length) ++ ".0"
  else text (digits.take point.toNat) ++ "." ++ text (digits.drop point.toNat)

/-- `str` of a field: the gateway writes integers below `10 ^ 21` without a fraction or an
exponent, and they arrive as `int`. -/
def FieldValue.str : FieldValue → String
  | .text value => value
  | .number value =>
    if value.den = 1 ∧ |value| < 10 ^ 21 then toString value.num
    else if value < 0 then "-" ++ floatText (-value)
    else floatText value

example : (FieldValue.number 5).str = "5" := by decide +kernel

/-! ### Requests and their outcomes -/

/-- What the agent reads of a value that `json` has loaded: `str` of it, and whether it is
truthy. -/
inductive Loaded where
  | text (value : String)
  | other (truthy : Bool) (shown : String)

namespace Loaded

def str : Loaded → String
  | .text value => value
  | .other _ shown => shown

def truthy : Loaded → Bool
  | .text value => value ≠ ""
  | .other truthy _ => truthy

end Loaded

/-- A response as `httpx` hands it over. -/
structure HttpResponse where
  status : Nat
  content : Bytes
  text : String
  /-- The message of the exception of `raise_for_status`. -/
  refusal : String
  /-- `json()` and the `get` of its result, or the message of the exception one of them raises. -/
  payload : Except String (String → Option Loaded)

/-- What an awaited request comes to. -/
inductive HttpOutcome where
  | response (response : HttpResponse)
  /-- `httpx.HTTPError`. -/
  | httpError (message : String)
  /-- Any other `Exception`. -/
  | exception (message : String)
  /-- `asyncio.CancelledError`. -/
  | interrupted

/-- The exceptions `Runner.run` tells apart. -/
inductive Raised where
  | cancelled
  | staleLease
  | sglang (message : String) (retryable : Bool)
  | exception (message : String)
  | interrupted

/-- `text[:count]`. -/
def cut (count : Nat) (text : String) : String := String.ofList (text.toList.take count)

def terminalOk : List String := ["completed", "succeeded"]

def terminalBad : List String := ["failed", "error", "cancelled", "canceled"]

/-- `_fetch_input`. -/
def fetchInput (platform : Platform) (job : AgentAssignment) : HttpOutcome → Except Raised Bytes
  | .httpError message | .exception message => .error (.exception message)
  | .interrupted => .error .interrupted
  | .response response =>
    if response.status = 409 then .error .staleLease
    else if response.status < 200 ∨ 300 ≤ response.status then
      .error (.exception response.refusal)
    else if job.checks platform response.content then .ok response.content
    else .error (.sglang "input image failed its checksum" true)

/-- `create_video`; the value is the id of the job. -/
def createVideo (endpoint : String) : HttpOutcome → Except Raised String
  | .httpError message =>
    .error (.sglang ("could not reach the local sglang server: " ++ message) true)
  | .exception message => .error (.exception message)
  | .interrupted => .error .interrupted
  | .response response =>
    if 500 ≤ response.status then
      .error (.sglang ("sglang " ++ endpoint ++ " failed (" ++ toString response.status ++ "): " ++
        cut 500 response.text) true)
    else if 400 ≤ response.status then
      .error (.sglang ("sglang rejected the request (" ++ toString response.status ++ "): " ++
        cut 500 response.text) false)
    else
      match response.payload with
      | .error message => .error (.exception message)
      | .ok payload =>
        match payload "id" with
        | some (.text id) =>
          if id = "" then .error (.sglang ("sglang returned no job id: " ++
            cut 300 response.text) false)
          else .ok id
        | _ => .error (.sglang ("sglang returned no job id: " ++ cut 300 response.text) false)

/-- The status of a payload. -/
def statusOf (payload : String → Option Loaded) : String :=
  ((payload "status").elim "" Loaded.str).toLower

/-- What `sglang` says about a failed job. -/
def failureOf (payload : String → Option Loaded) : String :=
  match (payload "error").filter Loaded.truthy with
  | some detail => detail.str
  | none =>
    match (payload "failure_reason").filter Loaded.truthy with
    | some detail => detail.str
    | none => statusOf payload

/-- One round of `wait_for_video`; the value says whether the clip is there. -/
def pollVideo : HttpOutcome → Except Raised Bool
  | .httpError message => .error (.sglang ("lost contact with sglang: " ++ message) true)
  | .exception message => .error (.exception message)
  | .interrupted => .error .interrupted
  | .response response =>
    if 500 ≤ response.status then
      .error (.sglang ("sglang poll failed (" ++ toString response.status ++ "): " ++
        cut 300 response.text) true)
    else if response.status = 404 then .error (.sglang "sglang forgot the job" true)
    else if 400 ≤ response.status then
      .error (.sglang ("sglang poll rejected (" ++ toString response.status ++ "): " ++
        cut 300 response.text) false)
    else
      match response.payload with
      | .error message => .error (.exception message)
      | .ok payload =>
        let status := statusOf payload
        if status ∈ terminalOk then .ok true
        else if status ∈ terminalBad then
          .error (.sglang ("sglang reported " ++ status ++ ": " ++ cut 300 (failureOf payload))
            false)
        else .ok false

/-- `download_content`. -/
def downloadContent : HttpOutcome → Except Raised Bytes
  | .httpError message => .error (.sglang ("could not download the clip: " ++ message) true)
  | .exception message => .error (.exception message)
  | .interrupted => .error .interrupted
  | .response response =>
    if response.status ≠ 200 then
      .error (.sglang ("sglang content download failed (" ++ toString response.status ++ ")")
        (500 ≤ response.status))
    else .ok response.content

/-- One attempt of `_upload`; the value is the error to retry after, none when the clip has
landed. -/
def uploadArtifact : HttpOutcome → Except Raised (Option String)
  | .httpError message => .ok (some message)
  | .exception message => .error (.exception message)
  | .interrupted => .error .interrupted
  | .response response =>
    if response.status = 409 then .error .staleLease
    else if response.status < 300 then .ok none
    else if response.status < 500 then
      .error (.sglang ("gateway rejected the artifact (" ++ toString response.status ++ "): " ++
        cut 200 response.text) false)
    else .ok (some ("gateway artifact upload failed (" ++ toString response.status ++ ")"))

/-! ### Calls that return -/

section Calls

variable {platform : Platform} {assignment : AgentAssignment} {outcome : HttpOutcome}

theorem fetchInput_ok {image : Bytes}
    (fetched : fetchInput platform assignment outcome = .ok image) :
    ∃ response, outcome = .response response ∧ 200 ≤ response.status ∧ response.status < 300 ∧
      response.content = image ∧ assignment.checks platform image = true := by
  cases outcome with
  | httpError message | exception message | interrupted => cases fetched
  | response response =>
    simp only [fetchInput] at fetched
    split at fetched
    · cases fetched
    · split at fetched
      · cases fetched
      · split at fetched
        · next accepted checked =>
          cases fetched
          exact ⟨response, rfl, by omega, by omega, rfl, checked⟩
        · cases fetched

theorem createVideo_ok {endpoint id : String} (created : createVideo endpoint outcome = .ok id) :
    id ≠ "" ∧ ∃ response payload, outcome = .response response ∧ response.status < 400 ∧
      response.payload = .ok payload ∧ payload "id" = some (.text id) := by
  cases outcome with
  | httpError message | exception message | interrupted => cases created
  | response response =>
    simp only [createVideo] at created
    split at created
    · cases created
    · split at created
      · cases created
      · next low =>
        split at created
        · cases created
        · next payload loaded =>
          split at created
          · next id' named =>
            split at created
            · cases created
            · next nonempty =>
              cases created
              exact ⟨nonempty, response, payload, rfl, by omega, loaded, named⟩
          · cases created

theorem pollVideo_ok {done : Bool} (polled : pollVideo outcome = .ok done) :
    ∃ response payload, outcome = .response response ∧ response.status < 400 ∧
      response.payload = .ok payload ∧ (statusOf payload ∈ terminalOk ↔ done = true) ∧
      (done = false → statusOf payload ∉ terminalBad) := by
  cases outcome with
  | httpError message | exception message | interrupted => cases polled
  | response response =>
    simp only [pollVideo] at polled
    split at polled
    · cases polled
    · split at polled
      · cases polled
      · split at polled
        · cases polled
        · next low =>
          split at polled
          · cases polled
          · next payload loaded =>
            split at polled
            · next finished =>
              cases polled
              exact ⟨response, payload, rfl, by omega, loaded, by simp [finished], nofun⟩
            · next unfinished =>
              split at polled
              · cases polled
              · next alive =>
                cases polled
                exact ⟨response, payload, rfl, by omega, loaded, by simp [unfinished],
                  fun _ => alive⟩

theorem downloadContent_ok {media : Bytes} (downloaded : downloadContent outcome = .ok media) :
    ∃ response, outcome = .response response ∧ response.status = 200 ∧
      response.content = media := by
  cases outcome with
  | httpError message | exception message | interrupted => cases downloaded
  | response response =>
    simp only [downloadContent] at downloaded
    split at downloaded
    · cases downloaded
    · next accepted =>
      cases downloaded
      exact ⟨response, rfl, not_not.mp accepted, rfl⟩

theorem uploadArtifact_ok (uploaded : uploadArtifact outcome = .ok none) :
    ∃ response, outcome = .response response ∧ response.status < 300 := by
  cases outcome with
  | httpError message | exception message | interrupted => cases uploaded
  | response response =>
    simp only [uploadArtifact] at uploaded
    split at uploaded
    · cases uploaded
    · split at uploaded
      · next accepted => exact ⟨response, rfl, accepted⟩
      · split at uploaded <;> cases uploaded

theorem matched_of_checks {image : Bytes} (checked : assignment.checks platform image = true)
    {digest : String} (given : assignment.inputSha256 = some digest) (nonempty : digest ≠ "") :
    platform.sha256 image = digest := by
  simpa [AgentAssignment.checks, given, Option.filter, nonempty] using checked

end Calls

end InferenceGateway
