import InferenceGateway.Library.Machine
import InferenceGateway.Scheduler.Waiters
import Mathlib.Data.List.Nodup
import Mathlib.Logic.Function.Basic

/-!
# The callbacks of the parking lot

The class behind the lot as the code has it: the flag the callbacks of a parked
call share, its timer, its abort listener, and the promises that were resolved.
Timers fire and signals abort in any order.
-/

namespace InferenceGateway

open Library

/-- What the callbacks of a parked call of `wait` close over. -/
structure Closure (Signal : Type) where
  signal : Option Signal
  settled : Bool

def Closure.settle {Signal : Type} (closure : Closure Signal) : Closure Signal :=
  { closure with settled := true }

structure ParkingLot (Signal : Type) where
  /-- How often `wait` was called; a call goes by the number of calls before it. -/
  calls : Nat
  closure : Nat → Option (Closure Signal)
  /-- The set of `notify` callbacks, in the order they were added. -/
  waiting : List Nat
  /-- The calls whose timer is set. -/
  timers : List Nat
  /-- The `onAbort` listeners of all signals, in the order they were added. -/
  listeners : List (Signal × Nat)
  aborted : List Signal
  /-- Every time a promise was resolved, with the value. -/
  resolved : List (Nat × Bool)

/-- A call of the class, or an event of the runtime. -/
inductive ParkingAction (Number Signal : Type) where
  | wait (timeoutMs : Number) (signal : Option Signal)
  | kick
  | timer (call : Nat)
  | abort (signal : Signal)

namespace ParkingLot

variable {Number Signal : Type} [DecidableEq Signal]

def empty : ParkingLot Signal := ⟨0, fun _ => none, [], [], [], [], []⟩

variable (lot : ParkingLot Signal)

/-- `Promise.resolve(false)`. -/
def immediate : ParkingLot Signal :=
  { lot with
    calls := lot.calls + 1
    resolved := lot.resolved ++ [(lot.calls, false)] }

/-- The executor of the promise; `unref` leaves the timer set. -/
def park (signal : Option Signal) : ParkingLot Signal :=
  { lot with
    calls := lot.calls + 1
    closure := Function.update lot.closure lot.calls (some ⟨signal, false⟩)
    timers := lot.timers ++ [lot.calls]
    waiting := lot.waiting ++ [lot.calls]
    listeners := lot.listeners ++ (signal.map fun s => (s, lot.calls)).toList }

def wait [LE Number] [OfNat Number 0] [DecidableLE Number] (timeoutMs : Number)
    (signal : Option Signal) : ParkingLot Signal :=
  if timeoutMs ≤ 0 then lot.immediate
  else if signal.any (· ∈ lot.aborted) then lot.immediate
  else lot.park signal

/-- A second `finish` of one call does nothing. -/
def finish (call : Nat) (woken : Bool) : ParkingLot Signal :=
  match lot.closure call with
  | some ⟨signal, false⟩ =>
    { lot with
      closure := Function.update lot.closure call (some ⟨signal, true⟩)
      timers := lot.timers.filter (· ≠ call)
      waiting := lot.waiting.filter (· ≠ call)
      listeners := lot.listeners.filter fun listener => some listener.1 ≠ signal ∨ listener.2 ≠ call
      resolved := lot.resolved ++ [(call, woken)] }
  | _ => lot

def notify (call : Nat) : ParkingLot Signal := lot.finish call true

def onAbort (call : Nat) : ParkingLot Signal := lot.finish call false

/-- Wake every parked poller: the set is copied and cleared before the first callback. -/
def kick : ParkingLot Signal := lot.waiting.foldl notify { lot with waiting := [] }

/-- The timer of a call fires, if it is set. -/
def fireTimer (call : Nat) : Option (ParkingLot Signal) :=
  if call ∈ lot.timers then
    some ({ lot with timers := lot.timers.filter (· ≠ call) }.finish call false)
  else none

/-- An abort event reaches a listener, unless it was removed meanwhile; `once` removes it first. -/
def dispatch (signal : Signal) (call : Nat) : ParkingLot Signal :=
  if (signal, call) ∈ lot.listeners then
    { lot with listeners := lot.listeners.filter (· ≠ (signal, call)) }.onAbort call
  else lot

/-- `signal.aborted` becomes true. -/
def markAborted (signal : Signal) : ParkingLot Signal :=
  { lot with aborted := signal :: lot.aborted }

/-- A signal aborts once; later aborts do nothing. -/
def abort (signal : Signal) : ParkingLot Signal :=
  if signal ∈ lot.aborted then lot
  else
    let listening := (lot.listeners.filter (·.1 = signal)).map Prod.snd
    listening.foldl (dispatch · signal) (lot.markAborted signal)

def size : Nat := lot.waiting.length

/-- A call of `wait` replies with its promise. -/
def step [LE Number] [OfNat Number 0] [DecidableLE Number] :
    ParkingAction Number Signal → Option (Option Nat × ParkingLot Signal)
  | .wait timeoutMs signal => some (some lot.calls, lot.wait timeoutMs signal)
  | .kick => some (none, lot.kick)
  | .timer call => (lot.fireTimer call).map fun lot => (none, lot)
  | .abort signal => some (none, lot.abort signal)

end ParkingLot

/-- One instance of the class with the runtime around it. -/
def parkingLot (Number Signal : Type) [LE Number] [OfNat Number 0] [DecidableLE Number]
    [DecidableEq Signal] :
    Machine (ParkingLot Signal) (ParkingAction Number Signal) (Option Nat) where
  initial := ParkingLot.empty
  step lot action := lot.step action

namespace ParkingLot

variable {Signal : Type}

/-! ### Settling calls -/

/-- The values the promise of a call was resolved with. -/
def settlements (lot : ParkingLot Signal) (call : Nat) : List Bool :=
  (lot.resolved.filter (·.1 = call)).map Prod.snd

/-- Parked and not settled. -/
def Pending (lot : ParkingLot Signal) (call : Nat) : Prop :=
  ∃ signal, lot.closure call = some ⟨signal, false⟩

/-- Listeners belong to calls that were given the signal. -/
def Routed (lot : ParkingLot Signal) : Prop :=
  ∀ signal call, (signal, call) ∈ lot.listeners →
    ∃ settled, lot.closure call = some ⟨some signal, settled⟩

/-- Some calls settle, all with one value, and nothing of them is left. -/
def settleAll (lot : ParkingLot Signal) (calls : List Nat) (woken : Bool) : ParkingLot Signal :=
  { lot with
    closure := fun call =>
      if call ∈ calls then (lot.closure call).map Closure.settle else lot.closure call
    timers := lot.timers.filter (· ∉ calls)
    waiting := lot.waiting.filter (· ∉ calls)
    listeners := lot.listeners.filter (·.2 ∉ calls)
    resolved := lot.resolved ++ calls.map fun call => (call, woken) }

section Settling

variable {lot : ParkingLot Signal} {calls : List Nat} {woken : Bool}

theorem settleAll_settleAll (lot : ParkingLot Signal) (first second : List Nat) (woken : Bool) :
    (lot.settleAll first woken).settleAll second woken = lot.settleAll (first ++ second) woken := by
  simp only [settleAll, List.filter_filter, List.mem_append, List.map_append, List.append_assoc,
    ParkingLot.mk.injEq, true_and, and_true]
  refine ⟨?_, ?_, ?_, ?_⟩
  · funext call
    by_cases early : call ∈ first
    · by_cases late : call ∈ second
      · cases lot.closure call <;> simp [early, late, Closure.settle]
      · simp [early, late]
    · simp [early]
  all_goals
    congr 1
    funext call
    simp [Bool.and_comm]

theorem settleAll_nil (lot : ParkingLot Signal) (woken : Bool) : lot.settleAll [] woken = lot := by
  simp [settleAll]

/-- A loop that settles one call a turn settles them all; `Ready` is what a turn needs and what
the turns of other calls leave alone. -/
theorem foldl_settles (Ready : ParkingLot Signal → Nat → Prop)
    {turn : ParkingLot Signal → Nat → ParkingLot Signal}
    (settles : ∀ lot call, Ready lot call → turn lot call = lot.settleAll [call] woken)
    (keeps : ∀ lot call other, Ready lot other → other ≠ call →
      Ready (lot.settleAll [call] woken) other)
    (distinct : calls.Nodup) (ready : ∀ call ∈ calls, Ready lot call) :
    calls.foldl turn lot = lot.settleAll calls woken := by
  induction calls generalizing lot with
  | nil => exact (settleAll_nil lot woken).symm
  | cons call calls inductionHypothesis =>
    obtain ⟨absent, distinct⟩ := List.nodup_cons.mp distinct
    rw [List.foldl_cons, settles lot call (ready call List.mem_cons_self), inductionHypothesis distinct]
    · exact settleAll_settleAll lot [call] calls woken
    · intro other member
      apply keeps lot call other (ready other (List.mem_cons_of_mem call member))
      rintro rfl
      exact absent member

theorem settlements_settleAll (lot : ParkingLot Signal) (distinct : calls.Nodup) (woken : Bool)
    (call : Nat) :
    (lot.settleAll calls woken).settlements call =
      lot.settlements call ++ if call ∈ calls then [woken] else [] := by
  simp only [settlements, settleAll, List.filter_append, List.map_append]
  congr 1
  induction calls with
  | nil => simp
  | cons first calls inductionHypothesis =>
    obtain ⟨absent, distinct⟩ := List.nodup_cons.mp distinct
    rw [List.map_cons, List.filter_cons]
    by_cases same : first = call
    · subst same
      simpa [absent] using inductionHypothesis distinct
    · simpa [same, Ne.symm same] using inductionHypothesis distinct

theorem closure_settleAll {call : Nat} {signal : Option Signal} :
    (lot.settleAll calls woken).closure call = some ⟨signal, false⟩ ↔
      call ∉ calls ∧ lot.closure call = some ⟨signal, false⟩ := by
  by_cases member : call ∈ calls <;> simp [settleAll, member, Closure.settle]

theorem Pending.settle {call other : Nat} (pending : lot.Pending other) (different : other ≠ call) :
    (lot.settleAll [call] woken).Pending other := by
  obtain ⟨signal, unsettled⟩ := pending
  exact ⟨signal, closure_settleAll.mpr ⟨by simpa using different, unsettled⟩⟩

theorem Routed.settle (routed : lot.Routed) (calls : List Nat) (woken : Bool) :
    (lot.settleAll calls woken).Routed := by
  intro signal call member
  obtain ⟨listening, kept⟩ := List.mem_filter.mp member
  obtain ⟨settled, closed⟩ := routed signal call listening
  exact ⟨settled, by simpa [settleAll, of_decide_eq_true kept] using closed⟩

end Settling

section Loops

variable [DecidableEq Signal] {lot : ParkingLot Signal} {call : Nat} {woken : Bool}

theorem finish_eq (routed : lot.Routed) (pending : lot.Pending call) :
    lot.finish call woken = lot.settleAll [call] woken := by
  obtain ⟨signal, unsettled⟩ := pending
  unfold finish settleAll
  rw [unsettled]
  simp only [List.mem_singleton, List.map_cons, List.map_nil, ParkingLot.mk.injEq, true_and, and_true]
  refine ⟨?_, ?_⟩
  · funext other
    by_cases same : other = call
    · subst same
      simp [unsettled, Closure.settle]
    · simp [same]
  · apply List.filter_congr
    rintro ⟨listened, other⟩ member
    by_cases same : other = call
    · subst same
      obtain ⟨settled, closed⟩ := routed listened other member
      rw [unsettled] at closed
      simp only [Option.some.injEq, Closure.mk.injEq] at closed
      simp [closed.1]
    · simp [same]

/-- The callback of a timer that has fired. -/
theorem fireTimer_eq (routed : lot.Routed) (pending : lot.Pending call) (armed : call ∈ lot.timers) :
    lot.fireTimer call = some (lot.settleAll [call] false) := by
  have settles : { lot with timers := lot.timers.filter (· ≠ call) }.finish call false =
      { lot with timers := lot.timers.filter (· ≠ call) }.settleAll [call] false :=
    finish_eq routed pending
  rw [fireTimer, if_pos armed, settles]
  simp [settleAll, List.filter_filter]

theorem dispatch_eq {signal : Signal} (routed : lot.Routed) (pending : lot.Pending call)
    (listening : (signal, call) ∈ lot.listeners) :
    lot.dispatch signal call = lot.settleAll [call] false := by
  have routed' : { lot with listeners := lot.listeners.filter (· ≠ (signal, call)) }.Routed := by
    intro signal call member
    exact routed signal call (List.mem_filter.mp member).1
  rw [dispatch, if_pos listening, onAbort, finish_eq routed' pending]
  simp only [settleAll, List.filter_filter, ParkingLot.mk.injEq, true_and, and_true]
  apply List.filter_congr
  rintro ⟨listened, other⟩ -
  by_cases same : other = call <;> simp [same]

end Loops

/-! ### Between two turns -/

def signalOf (lot : ParkingLot Signal) (call : Nat) : Option Signal :=
  (lot.closure call).bind Closure.signal

/-- The listener of a call, if it was given a signal. -/
def listener (lot : ParkingLot Signal) (call : Nat) : Option (Signal × Nat) :=
  (lot.signalOf call).map fun signal => (signal, call)

theorem listener_settleAll (lot : ParkingLot Signal) (calls : List Nat) (woken : Bool) :
    (lot.settleAll calls woken).listener = lot.listener := by
  funext call
  by_cases member : call ∈ calls
  · cases closed : lot.closure call <;>
      simp [listener, signalOf, settleAll, member, closed, Closure.settle]
  · simp [listener, signalOf, settleAll, member]

/-- Callback, timer and listener exist for the unsettled calls and for no others. -/
structure Coherent (lot : ParkingLot Signal) : Prop where
  distinct : lot.waiting.Nodup
  waiting : ∀ call, call ∈ lot.waiting ↔ lot.Pending call
  timers : lot.timers = lot.waiting
  listeners : lot.listeners = lot.waiting.filterMap lot.listener
  unaborted : ∀ call signal, lot.closure call = some ⟨some signal, false⟩ → signal ∉ lot.aborted
  fresh : ∀ call, lot.calls ≤ call → lot.closure call = none ∧ lot.settlements call = []

namespace Coherent

variable {lot : ParkingLot Signal}

theorem mem_listeners (coherent : lot.Coherent) {signal : Signal} {call : Nat} :
    (signal, call) ∈ lot.listeners ↔ lot.closure call = some ⟨some signal, false⟩ := by
  rw [coherent.listeners, List.mem_filterMap]
  constructor
  · rintro ⟨other, waits, listens⟩
    obtain ⟨given, unsettled⟩ := (coherent.waiting other).mp waits
    simp only [listener, signalOf, unsettled, Option.bind_some, Option.map_eq_some_iff,
      Prod.mk.injEq] at listens
    obtain ⟨_, rfl, rfl, rfl⟩ := listens
    exact unsettled
  · intro unsettled
    exact ⟨call, (coherent.waiting call).mpr ⟨_, unsettled⟩, by simp [listener, signalOf, unsettled]⟩

theorem routed (coherent : lot.Coherent) : lot.Routed := fun _ _ member =>
  ⟨false, coherent.mem_listeners.mp member⟩

theorem lt_calls (coherent : lot.Coherent) {call : Nat} (closed : lot.closure call ≠ none) :
    call < lot.calls := by
  by_contra late
  exact closed (coherent.fresh call (Nat.not_lt.mp late)).1

theorem lt_of_waiting (coherent : lot.Coherent) {call : Nat} (waits : call ∈ lot.waiting) :
    call < lot.calls := by
  obtain ⟨signal, unsettled⟩ := (coherent.waiting call).mp waits
  exact coherent.lt_calls (by simp [unsettled])

theorem settleAll (coherent : lot.Coherent) {calls : List Nat} (distinct : calls.Nodup)
    (known : ∀ call ∈ calls, call < lot.calls) (woken : Bool) :
    (lot.settleAll calls woken).Coherent where
  distinct := coherent.distinct.filter _
  waiting call := by
    simp only [Pending, closure_settleAll, exists_and_left]
    rw [and_comm, ← Pending, ← coherent.waiting]
    simp [ParkingLot.settleAll]
  timers := by simp [ParkingLot.settleAll, coherent.timers]
  listeners := by
    rw [listener_settleAll]
    simp only [ParkingLot.settleAll, coherent.listeners, List.filter_filterMap,
      List.filterMap_filter]
    apply List.filterMap_congr
    intro call _
    by_cases member : call ∈ calls
    · cases given : lot.signalOf call <;> simp [listener, given, member]
    · cases given : lot.signalOf call <;> simp [listener, given, member]
  unaborted call signal unsettled :=
    coherent.unaborted call signal (closure_settleAll.mp unsettled).2
  fresh call late := by
    have unknown : call ∉ calls := fun member => Nat.not_lt.mpr late (known call member)
    obtain ⟨unclosed, unsettled⟩ := coherent.fresh call late
    refine ⟨by simp [ParkingLot.settleAll, unknown, unclosed], ?_⟩
    rw [settlements_settleAll lot distinct, unsettled, if_neg unknown, List.append_nil]

theorem immediate (coherent : lot.Coherent) : lot.immediate.Coherent where
  distinct := coherent.distinct
  waiting := coherent.waiting
  timers := coherent.timers
  listeners := coherent.listeners
  unaborted := coherent.unaborted
  fresh call late := by
    have later : lot.calls < call := late
    obtain ⟨unclosed, unsettled⟩ := coherent.fresh call (Nat.le_of_lt later)
    exact ⟨unclosed, by simpa [settlements, ParkingLot.immediate, Nat.ne_of_lt later] using unsettled⟩

theorem park (coherent : lot.Coherent) {signal : Option Signal}
    (unaborted : ∀ s, signal = some s → s ∉ lot.aborted) : (lot.park signal).Coherent := by
  have unknown : lot.calls ∉ lot.waiting := by
    rw [coherent.waiting]
    rintro ⟨signal, unsettled⟩
    rw [(coherent.fresh lot.calls (Nat.le_refl _)).1] at unsettled
    cases unsettled
  refine ⟨?_, ?_, ?_, ?_, ?_, ?_⟩
  · exact List.nodup_append.mpr ⟨coherent.distinct, List.nodup_singleton _, by
      rintro call waits _ new rfl
      rw [List.mem_singleton] at new
      exact unknown (new ▸ waits)⟩
  · intro call
    by_cases new : call = lot.calls
    · subst new
      simp [ParkingLot.park, Pending]
    · simp [ParkingLot.park, Pending, new, coherent.waiting]
  · simp [ParkingLot.park, coherent.timers]
  · have same : ∀ call ∈ lot.waiting, lot.listener call = (lot.park signal).listener call := by
      intro call waits
      have old : call ≠ lot.calls := fun new => unknown (new ▸ waits)
      simp [listener, signalOf, ParkingLot.park, old]
    have new : (lot.park signal).listener lot.calls = signal.map fun s => (s, lot.calls) := by
      simp [listener, signalOf, ParkingLot.park]
    have waiting : (lot.park signal).waiting = lot.waiting ++ [lot.calls] := rfl
    rw [waiting, List.filterMap_append, ← List.filterMap_congr same, ← coherent.listeners,
      List.filterMap_cons, List.filterMap_nil, new]
    cases signal <;> rfl
  · intro call given unsettled
    by_cases new : call = lot.calls
    · subst new
      simp only [ParkingLot.park, Function.update_self, Option.some.injEq, Closure.mk.injEq,
        and_true] at unsettled
      exact unaborted given unsettled
    · apply coherent.unaborted call given
      simpa [ParkingLot.park, new] using unsettled
  · intro call late
    have later : lot.calls < call := late
    obtain ⟨unclosed, unsettled⟩ := coherent.fresh call (Nat.le_of_lt later)
    exact ⟨by simp [ParkingLot.park, Nat.ne_of_gt later, unclosed], unsettled⟩

end Coherent

theorem coherent_initial : (empty : ParkingLot Signal).Coherent where
  distinct := List.nodup_nil
  waiting call := by simp [empty, Pending]
  timers := rfl
  listeners := rfl
  unaborted call signal := by simp [empty]
  fresh call _ := ⟨rfl, rfl⟩

/-! ### One turn -/

section Turns

variable [DecidableEq Signal] {lot : ParkingLot Signal}

/-- A kick settles the calls it copied. -/
theorem kick_eq (coherent : lot.Coherent) : lot.kick = lot.settleAll lot.waiting true := by
  have looped : lot.kick = { lot with waiting := [] }.settleAll lot.waiting true := by
    apply foldl_settles fun lot call => lot.Routed ∧ lot.Pending call
    · exact fun lot call ready => finish_eq ready.1 ready.2
    · exact fun lot call other ready different => ⟨ready.1.settle _ _, ready.2.settle different⟩
    · exact coherent.distinct
    · exact fun call waits => ⟨coherent.routed, (coherent.waiting call).mp waits⟩
  rw [looped]
  simp [settleAll]

theorem listening_eq (coherent : lot.Coherent) (signal : Signal) :
    (lot.listeners.filter (·.1 = signal)).map Prod.snd =
      lot.waiting.filter (lot.signalOf · = some signal) := by
  rw [coherent.listeners, List.filter_filterMap, List.map_filterMap, ← List.filterMap_eq_filter]
  apply List.filterMap_congr
  intro call _
  cases given : lot.signalOf call with
  | none => simp [listener, given, Option.guard]
  | some other => by_cases same : other = signal <;> simp [listener, given, same, Option.guard]

/-- The first abort of a signal settles the calls that listen to it. -/
theorem abort_eq (coherent : lot.Coherent) {signal : Signal} (first : signal ∉ lot.aborted) :
    lot.abort signal = (lot.markAborted signal).settleAll
      (lot.waiting.filter (lot.signalOf · = some signal)) false := by
  rw [abort, if_neg first, listening_eq coherent]
  apply foldl_settles fun lot call =>
    lot.Routed ∧ lot.Pending call ∧ (signal, call) ∈ lot.listeners
  · exact fun lot call ready => dispatch_eq ready.1 ready.2.1 ready.2.2
  · intro lot call other ready different
    refine ⟨ready.1.settle _ _, ready.2.1.settle different, ?_⟩
    exact List.mem_filter.mpr ⟨ready.2.2, by simpa using different⟩
  · exact coherent.distinct.filter _
  · intro call listening
    obtain ⟨waits, given⟩ := List.mem_filter.mp listening
    have pending := (coherent.waiting call).mp waits
    refine ⟨coherent.routed, pending, coherent.mem_listeners.mpr ?_⟩
    obtain ⟨other, unsettled⟩ := pending
    simp only [signalOf, unsettled, Option.bind_some, decide_eq_true_eq] at given
    rw [unsettled, given]

variable {Number : Type} [LE Number] [OfNat Number 0]

/-- What a turn does. -/
inductive Effect (lot : ParkingLot Signal) :
    ParkingAction Number Signal → Option Nat → ParkingLot Signal → Prop where
  | immediate {timeoutMs : Number} {signal : Option Signal}
      (refused : timeoutMs ≤ 0 ∨ ∃ s, signal = some s ∧ s ∈ lot.aborted) :
      Effect lot (.wait timeoutMs signal) (some lot.calls) lot.immediate
  | parked {timeoutMs : Number} {signal : Option Signal} (positive : ¬ timeoutMs ≤ 0)
      (unaborted : ∀ s, signal = some s → s ∉ lot.aborted) :
      Effect lot (.wait timeoutMs signal) (some lot.calls) (lot.park signal)
  | kicked : Effect lot .kick none (lot.settleAll lot.waiting true)
  | timedOut {call : Nat} (waits : call ∈ lot.waiting) :
      Effect lot (.timer call) none (lot.settleAll [call] false)
  | aborted {signal : Signal} (first : signal ∉ lot.aborted) :
      Effect lot (.abort signal) none ((lot.markAborted signal).settleAll
        (lot.waiting.filter (lot.signalOf · = some signal)) false)
  | abortedAgain {signal : Signal} (again : signal ∈ lot.aborted) :
      Effect lot (.abort signal) none lot

theorem Coherent.abort (coherent : lot.Coherent) (signal : Signal) :
    ((lot.markAborted signal).settleAll
      (lot.waiting.filter (lot.signalOf · = some signal)) false).Coherent := by
  have known : ∀ call ∈ lot.waiting.filter (lot.signalOf · = some signal), call < lot.calls :=
    fun call member => coherent.lt_of_waiting (List.mem_filter.mp member).1
  have settled := coherent.settleAll (coherent.distinct.filter _) known false
  refine ⟨settled.distinct, settled.waiting, settled.timers, settled.listeners, ?_, settled.fresh⟩
  intro call other unsettled
  have unaborted := settled.unaborted call other unsettled
  have unsettled : (lot.settleAll (lot.waiting.filter (lot.signalOf · = some signal)) false).closure
      call = some ⟨some other, false⟩ := unsettled
  obtain ⟨deaf, earlier⟩ := closure_settleAll.mp unsettled
  rw [ParkingLot.settleAll, markAborted, List.mem_cons, not_or]
  refine ⟨?_, unaborted⟩
  rintro rfl
  apply deaf
  exact List.mem_filter.mpr ⟨(coherent.waiting call).mpr ⟨_, earlier⟩, by simp [signalOf, earlier]⟩

theorem Effect.coherent {post : ParkingLot Signal} {action : ParkingAction Number Signal}
    {reply : Option Nat} (effect : Effect lot action reply post) (coherent : lot.Coherent) :
    post.Coherent := by
  cases effect with
  | immediate => exact coherent.immediate
  | parked positive unaborted => exact coherent.park unaborted
  | kicked => exact coherent.settleAll coherent.distinct (fun call => coherent.lt_of_waiting) true
  | timedOut waits =>
    exact coherent.settleAll (List.nodup_singleton _)
      (by simpa using coherent.lt_of_waiting waits) false
  | aborted => exact coherent.abort _
  | abortedAgain => exact coherent

variable [DecidableLE Number]

theorem effect_wait (lot : ParkingLot Signal) (timeoutMs : Number) (signal : Option Signal) :
    Effect lot (.wait timeoutMs signal) (some lot.calls) (lot.wait timeoutMs signal) := by
  unfold wait
  split
  · rename_i refused
    exact .immediate (.inl refused)
  · rename_i positive
    split
    · rename_i aborted
      obtain ⟨s, same, member⟩ := (Option.any_eq_true _ _).mp aborted
      exact .immediate (.inr ⟨s, same, of_decide_eq_true member⟩)
    · rename_i unaborted
      refine .parked positive fun s same member => unaborted ?_
      simp [same, member]

theorem effect_of_step {post : ParkingLot Signal} {action : ParkingAction Number Signal}
    {reply : Option Nat} (coherent : lot.Coherent) (stepped : lot.step action = some (reply, post)) :
    Effect lot action reply post := by
  cases action with
  | wait timeoutMs signal =>
    cases stepped
    exact effect_wait lot timeoutMs signal
  | kick =>
    cases stepped
    rw [kick_eq coherent]
    exact .kicked
  | timer call =>
    obtain ⟨next, fired, same⟩ := Option.map_eq_some_iff.mp stepped
    cases same
    by_cases armed : call ∈ lot.timers
    · have waits : call ∈ lot.waiting := coherent.timers ▸ armed
      rw [fireTimer_eq coherent.routed ((coherent.waiting call).mp waits) armed] at fired
      cases fired
      exact .timedOut waits
    · rw [fireTimer, if_neg armed] at fired
      cases fired
  | abort signal =>
    cases stepped
    by_cases again : signal ∈ lot.aborted
    · rw [abort, if_pos again]
      exact .abortedAgain again
    · rw [abort_eq coherent again]
      exact .aborted again

theorem coherent_step
    {t : Transition (ParkingLot Signal) (ParkingAction Number Signal) (Option Nat)}
    (fires : (parkingLot Number Signal).Fires t) (coherent : t.pre.Coherent) : t.post.Coherent :=
  (effect_of_step coherent fires).coherent coherent

end Turns

/-! ### The lot of the gateway -/

/-- The lot as the runs of the gateway have it. -/
def view (lot : ParkingLot Signal) : Waiters Nat := ⟨lot.waiting, lot.resolved⟩

theorem view_settleAll (lot : ParkingLot Signal) (p : Nat → Bool) :
    (lot.settleAll (lot.waiting.filter p) false).view = lot.view.giveUp p := by
  have left : lot.waiting.filter (· ∉ lot.waiting.filter p) = lot.waiting.filter (!p ·) := by
    apply List.filter_congr
    intro call waits
    simp [waits]
  simp only [view, settleAll, Waiters.giveUp, left]

section Simulation

variable {Number : Type} [LE Number] [OfNat Number 0] [DecidableLE Number] [DecidableEq Signal]
  {lot : ParkingLot Signal}

/-- What the gateway's lot does where the class takes an action. -/
def viewAfter (lot : ParkingLot Signal) : ParkingAction Number Signal → Waiters Nat
  | .wait timeoutMs signal =>
    if timeoutMs ≤ 0 ∨ ∃ s ∈ lot.aborted, signal = some s then
      { lot.view with settled := lot.view.settled ++ [(lot.calls, false)] }
    else lot.view.wait lot.calls
  | .kick => lot.view.kick
  | .timer call => lot.view.giveUp (· = call)
  | .abort signal => lot.view.giveUp (lot.signalOf · = some signal)

/-- Every turn of the class is the operation of the gateway's lot. -/
theorem view_step {post : ParkingLot Signal} {action : ParkingAction Number Signal}
    {reply : Option Nat} (coherent : lot.Coherent) (stepped : lot.step action = some (reply, post)) :
    post.view = lot.viewAfter action := by
  cases effect_of_step coherent stepped with
  | immediate refused =>
    rw [viewAfter, if_pos]
    · rfl
    · exact refused.imp_right fun ⟨s, given, member⟩ => ⟨s, member, given⟩
  | parked positive unaborted =>
    rw [viewAfter, if_neg]
    · rfl
    · rintro (refused | ⟨s, member, given⟩)
      · exact positive refused
      · exact unaborted s given member
  | kicked => simp [view, viewAfter, settleAll, Waiters.kick]
  | @timedOut call waits =>
    have single : lot.waiting.filter (· = call) = [call] := by
      rw [List.filter_eq, List.count_eq_one_of_mem coherent.distinct waits]
      rfl
    rw [viewAfter, ← view_settleAll, single]
  | @aborted signal first =>
    exact view_settleAll (lot.markAborted signal) (lot.signalOf · = some signal)
  | @abortedAgain signal again =>
    have deaf : lot.waiting.filter (lot.signalOf · = some signal) = [] := by
      rw [List.filter_eq_nil_iff]
      intro call waits listens
      obtain ⟨given, unsettled⟩ := (coherent.waiting call).mp waits
      obtain rfl : given = some signal := by simpa [signalOf, unsettled] using listens
      exact coherent.unaborted call signal unsettled again
    rw [viewAfter, ← view_settleAll, deaf, settleAll_nil]

end Simulation

end ParkingLot

end InferenceGateway
