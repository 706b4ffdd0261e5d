import Mathlib.Data.List.Nodup
import Mathlib.Data.Set.Insert
import Mathlib.Logic.Function.Basic

/-!
# Queues of leased work

A piece of work is submitted once, handed out under a token that was never
handed out before, and comes back or is settled under that token.  A history
is a list of events; what it implies about tokens, counts and ends is proved
here once, for any keys, holders, tokens and outcomes.
-/

namespace InferenceGateway.Library

universe u v w x

/-- Where a piece of work is, with the number of times it was handed out. -/
inductive Ticket (Holder : Type u) (Token : Type v) (Outcome : Type w) where
  | waiting (grants : Nat)
  | held (holder : Holder) (token : Token) (grants : Nat)
  | closed (outcome : Outcome) (grants : Nat)

/-- What can happen to a piece of work. -/
inductive TicketEvent (Holder : Type u) (Token : Type v) (Outcome : Type w) where
  | submit
  | grant (holder : Holder) (token : Token)
  /-- Back to the queue. -/
  | release (token : Token)
  /-- Ended while it was handed out. -/
  | settle (token : Token) (outcome : Outcome)
  /-- Ended while it was waiting. -/
  | withdraw (outcome : Outcome)
  | forget

section Tickets

variable {Holder : Type u} {Token : Type v} {Outcome : Type w}

def Ticket.grants : Ticket Holder Token Outcome → Nat
  | .waiting grants | .held _ _ grants | .closed _ grants => grants

/-- The token an event hands out. -/
def TicketEvent.token? : TicketEvent Holder Token Outcome → Option Token
  | .grant _ token => some token
  | _ => none

namespace Ticket

/-- The life of one piece of work, handed out `cap` times at most. -/
inductive Move (cap : Nat) : Option (Ticket Holder Token Outcome) →
    TicketEvent Holder Token Outcome → Option (Ticket Holder Token Outcome) → Prop where
  | submit : Move cap none .submit (some (.waiting 0))
  | grant {holder : Holder} {token : Token} {grants : Nat} (room : grants < cap) :
      Move cap (some (.waiting grants)) (.grant holder token)
        (some (.held holder token (grants + 1)))
  | release {holder : Holder} {token : Token} {grants : Nat} (room : grants < cap) :
      Move cap (some (.held holder token grants)) (.release token) (some (.waiting grants))
  | settle {holder : Holder} {token : Token} {outcome : Outcome} {grants : Nat} :
      Move cap (some (.held holder token grants)) (.settle token outcome)
        (some (.closed outcome grants))
  | withdraw {outcome : Outcome} {grants : Nat} :
      Move cap (some (.waiting grants)) (.withdraw outcome) (some (.closed outcome grants))
  | forget {outcome : Outcome} {grants : Nat} :
      Move cap (some (.closed outcome grants)) .forget none

/-- A sequence of moves. -/
inductive Moves (cap : Nat) : Option (Ticket Holder Token Outcome) →
    List (TicketEvent Holder Token Outcome) → Option (Ticket Holder Token Outcome) → Prop where
  | nil {ticket : Option (Ticket Holder Token Outcome)} : Moves cap ticket [] ticket
  | cons {first second third : Option (Ticket Holder Token Outcome)}
      {event : TicketEvent Holder Token Outcome} {events : List (TicketEvent Holder Token Outcome)}
      (move : Move cap first event second) (rest : Moves cap second events third) :
      Moves cap first (event :: events) third

namespace Moves

variable {cap : Nat} {first second third : Option (Ticket Holder Token Outcome)}
  {events events' : List (TicketEvent Holder Token Outcome)}

theorem append (earlier : Moves cap first events second) (later : Moves cap second events' third) :
    Moves cap first (events ++ events') third := by
  induction earlier with
  | nil => exact later
  | cons move _ inductionHypothesis => exact .cons move (inductionHypothesis later)

theorem single {event : TicketEvent Holder Token Outcome} (move : Move cap first event second) :
    Moves cap first [event] second :=
  .cons move .nil

end Moves

end Ticket

end Tickets

structure LeaseQueue (Key : Type x) (Holder : Type u) (Token : Type v) (Outcome : Type w) where
  ticket : Key → Option (Ticket Holder Token Outcome)
  /-- The tokens handed out so far. -/
  issued : Set Token
  submitted : Set Key

namespace LeaseQueue

variable {Key : Type x} {Holder : Type u} {Token : Type v} {Outcome : Type w}

def empty : LeaseQueue Key Holder Token Outcome := ⟨fun _ => none, ∅, ∅⟩

/-- The tokens a history hands out, in order. -/
def tokens (events : List (Key × TicketEvent Holder Token Outcome)) : List Token :=
  events.filterMap fun event => event.2.token?

theorem tokens_append (earlier later : List (Key × TicketEvent Holder Token Outcome)) :
    tokens (earlier ++ later) = tokens earlier ++ tokens later :=
  List.filterMap_append

theorem tokens_singleton (event : Key × TicketEvent Holder Token Outcome) :
    tokens [event] = event.2.token?.toList := by
  cases handed : event.2.token? <;> simp [tokens, handed]

/-- What a history hands out, in order. -/
def handed (events : List (Key × TicketEvent Holder Token Outcome)) : List (Key × Token) :=
  events.filterMap fun event => event.2.token?.map fun token => (event.1, token)

theorem handed_append (earlier later : List (Key × TicketEvent Holder Token Outcome)) :
    handed (earlier ++ later) = handed earlier ++ handed later :=
  List.filterMap_append

theorem tokens_eq (events : List (Key × TicketEvent Holder Token Outcome)) :
    tokens events = (handed events).map Prod.snd := by
  rw [tokens, handed, List.map_filterMap]
  congr 1
  funext event
  cases event.2.token? <;> rfl

theorem handed_eq_nil {events : List (Key × TicketEvent Holder Token Outcome)}
    (quiet : ∀ event ∈ events, event.2.token? = none) : handed events = [] := by
  rw [handed, List.filterMap_eq_nil_iff]
  intro event member
  rw [quiet event member]
  rfl

theorem mem_handed {events : List (Key × TicketEvent Holder Token Outcome)} {key : Key}
    {token : Token} : (key, token) ∈ handed events ↔ ∃ holder, (key, .grant holder token) ∈ events := by
  unfold handed
  rw [List.mem_filterMap]
  constructor
  · rintro ⟨⟨key, event⟩, member, same⟩
    cases event <;> cases same
    exact ⟨_, member⟩
  · rintro ⟨holder, member⟩
    exact ⟨_, member, rfl⟩

theorem mem_tokens {events : List (Key × TicketEvent Holder Token Outcome)} {token : Token} :
    token ∈ tokens events ↔ ∃ key holder, (key, .grant holder token) ∈ events := by
  unfold tokens
  rw [List.mem_filterMap]
  constructor
  · rintro ⟨⟨key, event⟩, member, handed⟩
    cases event <;> cases handed
    exact ⟨key, _, member⟩
  · rintro ⟨key, holder, member⟩
    exact ⟨_, member, rfl⟩

/-- A token names the piece of work it was handed out for. -/
theorem eq_of_token {events : List (Key × TicketEvent Holder Token Outcome)}
    (distinct : (tokens events).Nodup) {key key' : Key} {holder holder' : Holder} {token : Token}
    (first : (key, .grant holder token) ∈ events) (second : (key', .grant holder' token) ∈ events) :
    key = key' ∧ holder = holder' := by
  induction events with
  | nil => cases first
  | cons event events inductionHypothesis =>
    have later : (tokens events).Nodup := by
      rw [← List.singleton_append, tokens_append] at distinct
      exact distinct.of_append_right
    have apart {key : Key} {holder : Holder} (head : (key, .grant holder token) = event) :
        token ∉ tokens events := by
      subst head
      exact (List.nodup_cons.mp distinct).1
    rcases List.mem_cons.mp first with head | first
    · rcases List.mem_cons.mp second with head' | second
      · cases head.trans head'.symm
        exact ⟨rfl, rfl⟩
      · exact absurd (mem_tokens.mpr ⟨_, _, second⟩) (apart head)
    · rcases List.mem_cons.mp second with head' | second
      · exact absurd (mem_tokens.mpr ⟨_, _, first⟩) (apart head')
      · exact inductionHypothesis later first second

variable [DecidableEq Key]

/-- The event is a hand-out of the piece of work. -/
def hands (key : Key) (event : Key × TicketEvent Holder Token Outcome) : Bool :=
  decide (event.1 = key) && event.2.token?.isSome

def record (queue : LeaseQueue Key Holder Token Outcome)
    (event : Key × TicketEvent Holder Token Outcome)
    (after : Option (Ticket Holder Token Outcome)) : LeaseQueue Key Holder Token Outcome where
  ticket := Function.update queue.ticket event.1 after
  issued := queue.issued ∪ {token | event.2.token? = some token}
  submitted := queue.submitted ∪ {key | event = (key, .submit)}

/-- One event: the piece of work moves, a token that is handed out is new, and nothing is
submitted twice. -/
inductive Step (cap : Nat) (queue : LeaseQueue Key Holder Token Outcome)
    (event : Key × TicketEvent Holder Token Outcome) :
    LeaseQueue Key Holder Token Outcome → Prop where
  | intro {after : Option (Ticket Holder Token Outcome)}
      (move : Ticket.Move cap (queue.ticket event.1) event.2 after)
      (fresh : ∀ token, event.2.token? = some token → token ∉ queue.issued)
      (new : event.2 = .submit → event.1 ∉ queue.submitted) :
      Step cap queue event (queue.record event after)

/-- A history from one queue to another. -/
inductive Steps (cap : Nat) (start : LeaseQueue Key Holder Token Outcome) :
    List (Key × TicketEvent Holder Token Outcome) → LeaseQueue Key Holder Token Outcome → Prop where
  | nil : Steps cap start [] start
  | snoc {events : List (Key × TicketEvent Holder Token Outcome)}
      {event : Key × TicketEvent Holder Token Outcome}
      {queue queue' : LeaseQueue Key Holder Token Outcome} (earlier : Steps cap start events queue)
      (step : Step cap queue event queue') : Steps cap start (events ++ [event]) queue'

variable {cap : Nat} {first second third : LeaseQueue Key Holder Token Outcome}
  {events events' : List (Key × TicketEvent Holder Token Outcome)}

theorem Steps.append (earlier : Steps cap first events second)
    (later : Steps cap second events' third) : Steps cap first (events ++ events') third := by
  induction later with
  | nil => rwa [List.append_nil]
  | snoc _ step inductionHypothesis =>
    rw [← List.append_assoc]
    exact .snoc inductionHypothesis step

/-! ### What a history implies -/

/-- The queue is what its history says. -/
structure Recorded (cap : Nat) (events : List (Key × TicketEvent Holder Token Outcome))
    (queue : LeaseQueue Key Holder Token Outcome) : Prop where
  issued : ∀ token, token ∈ queue.issued ↔ token ∈ tokens events
  distinct : (tokens events).Nodup
  held : ∀ key holder token grants, queue.ticket key = some (.held holder token grants) →
    (key, .grant holder token) ∈ events
  counted : ∀ key ticket, queue.ticket key = some ticket → ticket.grants = events.countP (hands key)
  bounded : ∀ key, events.countP (hands key) ≤ cap
  unknown : ∀ key, key ∉ queue.submitted →
    queue.ticket key = none ∧ events.countP (hands key) = 0

theorem Recorded.initial : Recorded cap []
    (empty : LeaseQueue Key Holder Token Outcome) where
  issued token := by simp [empty, tokens]
  distinct := List.nodup_nil
  held key holder token grants := by simp [empty]
  counted key ticket := by simp [empty]
  bounded key := Nat.zero_le cap
  unknown key _ := ⟨rfl, rfl⟩

theorem countP_hands_snoc (key : Key) (event : Key × TicketEvent Holder Token Outcome) :
    (events ++ [event]).countP (hands key) =
      events.countP (hands key) + if hands key event then 1 else 0 := by
  rw [List.countP_append, List.countP_singleton]

theorem countP_hands_eq (key : Key) (events : List (Key × TicketEvent Holder Token Outcome)) :
    events.countP (hands key) = (handed events).countP fun entry => entry.1 = key := by
  rw [handed, List.countP_filterMap]
  congr 1
  funext event
  cases grant : event.2.token? <;> simp [hands, grant]

theorem hands_of_ne {key : Key} {event : Key × TicketEvent Holder Token Outcome}
    (other : event.1 ≠ key) : hands key event = false := by
  simp [hands, other]

theorem hands_of_token {key : Key} {event : Key × TicketEvent Holder Token Outcome}
    (quiet : event.2.token? = none) : hands key event = false := by
  simp [hands, quiet]

theorem hands_grant (key : Key) (holder : Holder) (token : Token) :
    hands key ((key, .grant holder token) : Key × TicketEvent Holder Token Outcome) = true := by
  simp [hands, TicketEvent.token?]

/-- The count of a ticket follows the hand-outs of its history. -/
theorem grants_of_move {before after : Option (Ticket Holder Token Outcome)} {key : Key}
    {event : TicketEvent Holder Token Outcome} (move : Ticket.Move cap before event after)
    (counted : ∀ ticket, before = some ticket → ticket.grants = events.countP (hands key))
    (unsubmitted : event = .submit → events.countP (hands key) = 0) :
    ∀ ticket, after = some ticket →
      ticket.grants = (events ++ [(key, event)]).countP (hands key) := by
  intro ticket found
  rw [countP_hands_snoc]
  cases move with
  | submit =>
    cases found
    rw [unsubmitted rfl, hands_of_token rfl]
    rfl
  | grant =>
    cases found
    rw [hands_grant, ← counted _ rfl]
    rfl
  | release | settle | withdraw =>
    cases found
    rw [hands_of_token rfl, ← counted _ rfl]
    rfl
  | forget => cases found

theorem Recorded.step {event : Key × TicketEvent Holder Token Outcome}
    (recorded : Recorded cap events first) (step : Step cap first event second) :
    Recorded cap (events ++ [event]) second := by
  obtain ⟨move, fresh, new⟩ := step
  rename_i after
  obtain ⟨key, event⟩ := event
  dsimp only at move fresh new
  have counted : ∀ k ticket, (first.record (key, event) after).ticket k = some ticket →
      ticket.grants = (events ++ [(key, event)]).countP (hands k) := by
    intro k ticket found
    by_cases same : k = key
    · subst same
      simp only [record, Function.update_self] at found
      apply grants_of_move move (recorded.counted k) _ ticket found
      exact fun submitted => (recorded.unknown k (new submitted)).2
    · simp only [record, Function.update_of_ne same] at found
      rw [countP_hands_snoc, hands_of_ne (Ne.symm same)]
      exact recorded.counted k ticket found
  refine ⟨?_, ?_, ?_, counted, ?_, ?_⟩
  · intro token
    rw [tokens_append, tokens_singleton, List.mem_append, Option.mem_toList, ← recorded.issued]
    rfl
  · rw [tokens_append, tokens_singleton]
    cases handed : event.token? with
    | none => simpa using recorded.distinct
    | some token =>
      have unseen : token ∉ tokens events :=
        fun member => fresh token handed ((recorded.issued token).mpr member)
      exact recorded.distinct.append (List.nodup_singleton token)
        (List.disjoint_singleton.mpr unseen)
  · intro k holder token grants found
    by_cases same : k = key
    · subst same
      simp only [record, Function.update_self] at found
      subst found
      generalize first.ticket k = before at move
      cases move
      exact List.mem_append_right _ (List.mem_singleton_self _)
    · simp only [record, Function.update_of_ne same] at found
      exact List.mem_append_left _ (recorded.held k holder token grants found)
  · intro k
    rw [countP_hands_snoc]
    by_cases handed : hands k (key, event) = true
    · simp only [hands, Bool.and_eq_true, decide_eq_true_eq] at handed
      obtain ⟨rfl, handed⟩ := handed
      generalize earlier : first.ticket key = before at move
      cases move with
      | grant room =>
        have count := recorded.counted key _ earlier
        simp only [Ticket.grants] at count
        split <;> omega
      | submit | release | settle | withdraw | forget => cases handed
    · rw [if_neg handed]
      exact recorded.bounded k
  · intro k unsubmitted
    simp only [record, Set.mem_union, Set.mem_ofPred_eq, Prod.mk.injEq, not_or, not_and] at unsubmitted
    obtain ⟨absent, none_yet⟩ := recorded.unknown k unsubmitted.1
    have other : k ≠ key := by
      rintro rfl
      rw [absent] at move
      cases move
      exact unsubmitted.2 rfl rfl
    simp only [record, Function.update_of_ne other]
    rw [countP_hands_snoc, hands_of_ne (Ne.symm other)]
    exact ⟨absent, none_yet⟩

theorem recorded_of_steps (steps : Steps cap empty events first) : Recorded cap events first := by
  induction steps with
  | nil => exact Recorded.initial
  | snoc _ step inductionHypothesis => exact inductionHypothesis.step step

/-- No two pieces of work are held under one token. -/
theorem Recorded.exclusive (recorded : Recorded cap events first) {key key' : Key}
    {holder holder' : Holder} {token : Token} {grants grants' : Nat}
    (held : first.ticket key = some (.held holder token grants))
    (held' : first.ticket key' = some (.held holder' token grants')) : key = key' :=
  (eq_of_token recorded.distinct (recorded.held _ _ _ _ held) (recorded.held _ _ _ _ held')).1

/-! ### Ends -/

/-- The piece of work has ended. -/
def Over (queue : LeaseQueue Key Holder Token Outcome) (key : Key) : Prop :=
  key ∈ queue.submitted ∧ ∀ ticket, queue.ticket key = some ticket →
    ∃ outcome grants, ticket = .closed outcome grants

theorem Over.step {key : Key} {event : Key × TicketEvent Holder Token Outcome}
    (ended : first.Over key) (step : Step cap first event second) :
    second.Over key ∧ (event.1 = key → event.2 = .forget) := by
  obtain ⟨move, fresh, new⟩ := step
  obtain ⟨submitted, closed⟩ := ended
  obtain ⟨k, event⟩ := event
  by_cases same : k = key
  · subst same
    have last : event = .forget := by
      generalize earlier : first.ticket k = before at move
      cases move with
      | submit => exact absurd submitted (new rfl)
      | forget => rfl
      | grant | release | settle | withdraw =>
        obtain ⟨_, _, same⟩ := closed _ earlier
        cases same
    subst last
    refine ⟨⟨.inl submitted, ?_⟩, fun _ => rfl⟩
    intro ticket found
    simp only [record, Function.update_self] at found
    subst found
    generalize first.ticket k = before at move
    cases move
  · refine ⟨⟨.inl submitted, ?_⟩, fun same' => absurd same' same⟩
    intro ticket found
    simp only [record, Function.update_of_ne (Ne.symm same)] at found
    exact closed ticket found

/-- What has ended is forgotten at most. -/
theorem Over.steps {key : Key} (ended : first.Over key) (steps : Steps cap first events second) :
    second.Over key ∧ ∀ event ∈ events, event.1 = key → event.2 = .forget := by
  induction steps with
  | nil => exact ⟨ended, by simp⟩
  | snoc _ step inductionHypothesis =>
    obtain ⟨earlier, forgotten⟩ := inductionHypothesis
    obtain ⟨later, last⟩ := earlier.step step
    refine ⟨later, ?_⟩
    intro event member
    rcases List.mem_append.mp member with member | member
    · exact forgotten event member
    · rw [List.mem_singleton.mp member]
      exact last

/-! ### Histories from moves

Pieces of work move independently, as long as their tokens are new. -/

/-- The events of one piece of work. -/
def about (key : Key) (events : List (TicketEvent Holder Token Outcome)) :
    List (Key × TicketEvent Holder Token Outcome) :=
  events.map fun event => (key, event)

/-- The events do not submit anything, or nothing else. -/
def Single (events : List (TicketEvent Holder Token Outcome)) : Prop :=
  events = [.submit] ∨ .submit ∉ events

/-- What a history does to a queue. -/
structure Extends (events : List (Key × TicketEvent Holder Token Outcome))
    (queue queue' : LeaseQueue Key Holder Token Outcome) : Prop where
  issued : ∀ token, token ∈ queue'.issued ↔ token ∈ queue.issued ∨ token ∈ tokens events
  submitted : ∀ key, key ∈ queue'.submitted ↔ key ∈ queue.submitted ∨ (key, .submit) ∈ events

theorem extends_of_step {event : Key × TicketEvent Holder Token Outcome}
    (step : Step cap first event second) : Extends [event] first second := by
  obtain ⟨move, fresh, new⟩ := step
  constructor
  · intro token
    rw [tokens_singleton, Option.mem_toList]
    rfl
  · intro key
    rw [List.mem_singleton, eq_comm (a := (key, TicketEvent.submit))]
    rfl

theorem extends_of_steps (steps : Steps cap first events second) :
    Extends events first second := by
  induction steps with
  | nil => exact ⟨by simp [tokens], by simp⟩
  | snoc _ step inductionHypothesis =>
    have last := extends_of_step step
    constructor
    · intro token
      rw [last.issued, inductionHypothesis.issued, tokens_append, List.mem_append, or_assoc]
    · intro key
      rw [last.submitted, inductionHypothesis.submitted, List.mem_append, or_assoc]

/-- One piece of work moves along its events. -/
theorem exists_path {key : Key} {path : List (TicketEvent Holder Token Outcome)}
    {before after : Option (Ticket Holder Token Outcome)}
    (moves : Ticket.Moves cap before path after) (here : first.ticket key = before)
    (distinct : (tokens (about key path)).Nodup)
    (fresh : ∀ token ∈ tokens (about key path), token ∉ first.issued)
    (single : Single path) (new : path = [.submit] → key ∉ first.submitted) :
    ∃ queue, Steps cap first (about key path) queue ∧
      queue.ticket = Function.update first.ticket key after := by
  induction moves generalizing first with
  | nil => exact ⟨first, .nil, by rw [← here, Function.update_eq_self]⟩
  | @cons before middle after event path move rest inductionHypothesis =>
    have split : tokens (about key (event :: path)) =
        event.token?.toList ++ tokens (about key path) := by
      rw [← tokens_singleton (key, event), ← tokens_append]
      rfl
    rw [split] at distinct fresh
    have step : Step cap first (key, event) (first.record (key, event) middle) := by
      refine .intro (here ▸ move) ?_ ?_
      · intro token handed
        exact fresh token (List.mem_append_left _ (Option.mem_toList.mpr handed))
      · rintro rfl
        exact new (single.resolve_right (by simp))
    have rest_unsubmitted : .submit ∉ path := by
      rcases single with alone | none_at_all
      · rw [List.cons.injEq] at alone
        simp [alone.2]
      · exact fun member => none_at_all (List.mem_cons_of_mem _ member)
    obtain ⟨queue, steps, tickets⟩ := @inductionHypothesis
      (first.record (key, event) middle) (by simp [record])
      distinct.of_append_right
      (by
        intro token member issued
        rcases (extends_of_step step).issued token |>.mp issued with old | handed
        · exact fresh token (List.mem_append_right _ member) old
        · rw [tokens_singleton] at handed
          exact List.disjoint_of_nodup_append distinct handed member)
      (.inr rest_unsubmitted)
      (by
        rintro rfl
        exact absurd (List.mem_singleton_self _) rest_unsubmitted)
    refine ⟨queue, (Steps.nil.snoc step).append steps, ?_⟩
    rw [tickets]
    simp [record]

/-- Several pieces of work move, one after the other. -/
theorem exists_history (first : LeaseQueue Key Holder Token Outcome) (keys : List Key)
    (path : Key → List (TicketEvent Holder Token Outcome))
    (after : Key → Option (Ticket Holder Token Outcome)) (apart : keys.Nodup)
    (moves : ∀ key ∈ keys, Ticket.Moves cap (first.ticket key) (path key) (after key))
    (distinct : (tokens (keys.flatMap fun key => about key (path key))).Nodup)
    (fresh : ∀ token ∈ tokens (keys.flatMap fun key => about key (path key)),
      token ∉ first.issued)
    (single : ∀ key ∈ keys, Single (path key))
    (new : ∀ key ∈ keys, path key = [.submit] → key ∉ first.submitted) :
    ∃ queue, Steps cap first (keys.flatMap fun key => about key (path key)) queue ∧
      ∀ key, queue.ticket key = if key ∈ keys then after key else first.ticket key := by
  induction keys generalizing first with
  | nil => exact ⟨first, .nil, by simp⟩
  | cons key keys inductionHypothesis =>
    obtain ⟨absent, apart⟩ := List.nodup_cons.mp apart
    rw [List.flatMap_cons, tokens_append] at distinct fresh
    obtain ⟨middle, steps, tickets⟩ := exists_path (moves key List.mem_cons_self) rfl
      distinct.of_append_left (fun token member => fresh token (List.mem_append_left _ member))
      (single key List.mem_cons_self) (new key List.mem_cons_self)
    have extended := extends_of_steps steps
    have elsewhere : ∀ k ∈ keys, middle.ticket k = first.ticket k := by
      intro k member
      rw [tickets, Function.update_of_ne]
      rintro rfl
      exact absent member
    obtain ⟨queue, steps', tickets'⟩ := @inductionHypothesis middle apart
      (fun k member => elsewhere k member ▸ moves k (List.mem_cons_of_mem _ member))
      distinct.of_append_right
      (by
        intro token member issued
        rcases (extended.issued token).mp issued with old | handed
        · exact fresh token (List.mem_append_right _ member) old
        · exact List.disjoint_of_nodup_append distinct handed member)
      (fun k member => single k (List.mem_cons_of_mem _ member))
      (by
        intro k member alone submitted
        rcases (extended.submitted k).mp submitted with old | here
        · exact new k (List.mem_cons_of_mem _ member) alone old
        · obtain ⟨_, _, same⟩ := List.mem_map.mp here
          cases same
          exact absent member)
    refine ⟨queue, by simpa using steps.append steps', ?_⟩
    intro k
    rw [tickets' k]
    by_cases later : k ∈ keys
    · simp [later]
    · by_cases same : k = key
      · subst same
        simp [later, tickets]
      · simp [later, same, tickets]

end LeaseQueue

end InferenceGateway.Library
