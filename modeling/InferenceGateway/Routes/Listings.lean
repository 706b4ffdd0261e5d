import InferenceGateway.Routes.Preparation

/-!
# Reading videos

`GET /v1/videos/:id`, the newest-first list and the trail of one video.
-/

namespace InferenceGateway

open Library

/-- What `Number` makes of a text. -/
inductive Numeral where
  | nan
  | finite (value : ℚ)
  | infinite (positive : Bool)

/-- `Number(text)`. -/
def numeral (text : String) : Numeral :=
  let text := trim text
  if text = "" then .finite 0
  else if text = "Infinity" ∨ text = "+Infinity" then .infinite true
  else if text = "-Infinity" then .infinite false
  else
    match (numericLiteral text.toList).map Binary64.nearest with
    | none => .nan
    | some value =>
      if |value| < 2 ^ 1024 then .finite value else .infinite (decide (0 < value))

/-- `Math.min(Math.max(limit ?? 50, 1), 500)` as the limit of a query, which has to be a whole
number. -/
def listLimit : Option Numeral → Option Nat
  | none => some 50
  | some .nan => none
  | some (.infinite positive) => some (if positive then 500 else 1)
  | some (.finite value) =>
    let clamped := min (max value 1) 500
    if clamped.den = 1 then some clamped.num.toNat else none

/-- `isVideoStatus`, with the status. -/
def videoStatus (text : String) : Option VideoStatus :=
  [.queued, .inProgress, .completed, .failed, .cancelled].find? fun status =>
    statusText status = text

def unknownStatus (text : String) : ApiError :=
  apiError 400 ("unknown status " ++ jsonQuote text) (some "invalid_status") (some "status")

namespace Gateway

variable (config : Config) (state : Gateway)

/-- `GET /v1/videos/:id`. -/
def getVideo (id : String) : Except (Nat × ApiError) VideoResponse :=
  match state.store.get id with
  | none => .error (404, noSuchVideo id)
  | some job => .ok (state.respond config job)

/-- `GET /v1/videos`; a query with a limit that is not whole throws. -/
def listVideos (limit status : Option String) : Except (Nat × ApiError) (List VideoResponse) :=
  match status.map fun text => (text, videoStatus text) with
  | some (text, none) => .error (400, unknownStatus text)
  | some (_, some status) => listed (some status)
  | none => listed none
where
  listed (status : Option VideoStatus) : Except (Nat × ApiError) (List VideoResponse) :=
    match listLimit ((limit.filter (· ≠ "")).map numeral) with
    | none => .error (500, internalError)
    | some limit => .ok ((state.store.list status limit).map (state.respond config))

/-- `GET /v1/videos/:id/events`. -/
def listEvents (id : String) : Except (Nat × ApiError) (List JobEvent) :=
  match state.store.get id with
  | none => .error (404, noSuchVideo id)
  | some job => .ok (state.store.eventsOf job.id 100)

end Gateway

/-! ### Pages -/

/-- A page of the list: the newest jobs of the status, as many as fit. -/
structure Page (store : JobStore) (status : Option VideoStatus) (limit : Nat) (jobs : List Job) :
    Prop where
  rows : ∀ job ∈ jobs, job ∈ store.jobs.rows ∧ ∀ state ∈ status, job.state = state
  distinct : (jobs.map Job.id).Nodup
  newest : jobs.Pairwise fun first second => second.createdAt ≤ first.createdAt
  length : jobs.length ≤ limit
  rest : ∀ job ∈ store.jobs.rows, (∀ state ∈ status, job.state = state) → job ∉ jobs →
    jobs.length = limit ∧ ∀ listed ∈ jobs, job.createdAt ≤ listed.createdAt

/-- What a prefix of a sorted list leaves out comes after all of it. -/
theorem rest_of_take {α : Type} {relation : α → α → Prop} {elements : List α}
    (sorted : elements.Pairwise relation) (limit : Nat) {a : α} (member : a ∈ elements)
    (cut : a ∉ elements.take limit) :
    (elements.take limit).length = limit ∧ ∀ b ∈ elements.take limit, relation b a := by
  have whole := List.take_append_drop limit elements
  have after : a ∈ elements.drop limit := by
    rw [← whole, List.mem_append] at member
    exact member.resolve_left cut
  constructor
  · have inside := List.length_pos_of_mem after
    rw [List.length_drop] at inside
    rw [List.length_take]
    omega
  · intro b front
    rw [← whole] at sorted
    exact (List.pairwise_append.mp sorted).2.2 b front a after

theorem page_list (store : JobStore) (status : Option VideoStatus) (limit : Nat) :
    Page store status limit (store.list status limit) := by
  set matching := store.jobs.rows.filter fun job => status.all (· == job.state) with filtered
  have selects (job : Job) : job ∈ JobStore.newestFirst matching ↔
      job ∈ store.jobs.rows ∧ ∀ state ∈ status, job.state = state := by
    rw [JobStore.newestFirst, List.mem_insertionSort, filtered, List.mem_filter]
    cases status with
    | none => simp
    | some state => simp [@eq_comm _ state]
  have sorted : (JobStore.newestFirst matching).Pairwise
      fun first second => second.createdAt ≤ first.createdAt :=
    List.pairwise_insertionSort _ _
  constructor
  case rows => exact fun job member => (selects job).mp (List.mem_of_mem_take member)
  case distinct =>
    have rows : (matching.map Job.id).Nodup :=
      store.jobs.nodup.sublist (List.filter_sublist.map Job.id)
    have listed :=
      ((List.perm_insertionSort (fun first second : Job => second.createdAt ≤ first.createdAt)
        matching).map Job.id).nodup_iff.mpr rows
    exact listed.sublist ((List.take_sublist limit _).map Job.id)
  case newest => exact sorted.sublist (List.take_sublist limit _)
  case length => exact List.length_take_le limit _
  case rest =>
    exact fun job row fits cut => rest_of_take sorted limit ((selects job).mpr ⟨row, fits⟩) cut

theorem listLimit_bounds {asked : Option Numeral} {limit : Nat} (accepted : listLimit asked = some limit) :
    1 ≤ limit ∧ limit ≤ 500 := by
  unfold listLimit at accepted
  split at accepted
  · cases accepted
    omega
  · cases accepted
  · cases accepted
    split <;> omega
  · next value =>
    dsimp only at accepted
    split_ifs at accepted with whole
    cases accepted
    have least : (1 : ℚ) ≤ min (max value 1) 500 := le_min (le_max_right _ _) (by norm_num)
    have most : min (max value 1) 500 ≤ (500 : ℚ) := min_le_right _ _
    rw [← Rat.coe_int_num_of_den_eq_one whole] at least most
    have lower : (1 : ℤ) ≤ (min (max value 1) 500).num := by exact_mod_cast least
    have upper : (min (max value 1) 500).num ≤ (500 : ℤ) := by exact_mod_cast most
    omega

/-- What an answer of the list is. -/
theorem listVideos_eq_ok {config : Config} {state : Gateway} {limit status : Option String}
    {responses : List VideoResponse} (listed : state.listVideos config limit status = .ok responses) :
    ∃ bound, 1 ≤ bound ∧ bound ≤ 500 ∧
      listLimit ((limit.filter (· ≠ "")).map numeral) = some bound ∧
      (status.bind videoStatus).map statusText = status ∧
      responses = (state.store.list (status.bind videoStatus) bound).map (state.respond config) := by
  have page {filter : Option VideoStatus}
      (sent : Gateway.listVideos.listed config state limit filter = .ok responses) :
      ∃ bound, 1 ≤ bound ∧ bound ≤ 500 ∧
        listLimit ((limit.filter (· ≠ "")).map numeral) = some bound ∧
        responses = (state.store.list filter bound).map (state.respond config) := by
    unfold Gateway.listVideos.listed at sent
    split at sent
    · cases sent
    · next bound accepted =>
      cases sent
      obtain ⟨least, most⟩ := listLimit_bounds accepted
      exact ⟨bound, least, most, accepted, rfl⟩
  unfold Gateway.listVideos at listed
  cases status with
  | none =>
    obtain ⟨bound, least, most, accepted, same⟩ := page listed
    exact ⟨bound, least, most, accepted, rfl, same⟩
  | some text =>
    cases known : videoStatus text with
    | none => simp [known] at listed
    | some filter =>
      simp only [Option.map_some, known] at listed
      obtain ⟨bound, least, most, accepted, same⟩ := page listed
      refine ⟨bound, least, most, accepted, ?_, ?_⟩
      · have text' := List.find?_some known
        simpa [known] using of_decide_eq_true text'
      · simpa [known] using same

end InferenceGateway
