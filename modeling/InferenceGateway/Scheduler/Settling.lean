import InferenceGateway.Scheduler.ParkingLot
import Mathlib.Data.Finset.Card

/-!
# Every wait settles once

How a call of `wait` stands after any run, read off the events behind the call.
-/

namespace InferenceGateway

open Library

abbrev ParkingTransition (Number Signal : Type) :=
  Transition (ParkingLot Signal) (ParkingAction Number Signal) (Option Nat)

abbrev ParkingRun (Number Signal : Type) [LE Number] [OfNat Number 0] [DecidableLE Number]
    [DecidableEq Signal] :=
  (parkingLot Number Signal).Execution

section Events

variable {Number Signal : Type} [DecidableEq Signal]

/-- What an event settles a waiting call with. -/
def ParkingAction.outcome (call : Nat) (signal : Option Signal) :
    ParkingAction Number Signal → Option Bool
  | .wait .. => none
  | .kick => some true
  | .timer other => if other = call then some false else none
  | .abort other => if signal = some other then some false else none

/-- The first event that concerns a waiting call decides. -/
def verdict (call : Nat) (signal : Option Signal) (trace : List (ParkingTransition Number Signal)) :
    Option Bool :=
  trace.findSome? fun t => t.action.outcome call signal

variable {call : Nat} {signal : Option Signal}

theorem verdict_append (before after : List (ParkingTransition Number Signal)) :
    verdict call signal (before ++ after) =
      (verdict call signal before).or (verdict call signal after) :=
  List.findSome?_append

/-- A kick comes before the timer of the call fires and before its signal aborts. -/
def Woken (call : Nat) (signal : Option Signal) (after : List (ParkingTransition Number Signal)) :
    Prop :=
  ∃ earlier kick later, after = earlier ++ kick :: later ∧ kick.action = .kick ∧
    ∀ u ∈ earlier, u.action ≠ .timer call ∧ ∀ s, signal = some s → u.action ≠ .abort s

theorem outcome_eq_some_false_iff {action : ParkingAction Number Signal} :
    action.outcome call signal = some false ↔
      action = .timer call ∨ ∃ s, signal = some s ∧ action = .abort s := by
  cases action with
  | wait | kick => simp [ParkingAction.outcome]
  | timer other => simp [ParkingAction.outcome]
  | abort other => simp [ParkingAction.outcome, eq_comm]

theorem outcome_eq_some_true_iff {action : ParkingAction Number Signal} :
    action.outcome call signal = some true ↔ action = .kick := by
  cases action <;> simp [ParkingAction.outcome]

theorem verdict_eq_true_iff {after : List (ParkingTransition Number Signal)} :
    verdict call signal after = some true ↔ Woken call signal after := by
  constructor
  · intro decided
    obtain ⟨earlier, kick, later, split, kicks, undecided⟩ := List.findSome?_eq_some_iff.mp decided
    refine ⟨earlier, kick, later, split, outcome_eq_some_true_iff.mp kicks, ?_⟩
    intro u member
    have nothing := undecided u member
    constructor
    · intro fired
      cases nothing.symm.trans (outcome_eq_some_false_iff.mpr (.inl fired))
    · intro s given aborts
      cases nothing.symm.trans (outcome_eq_some_false_iff.mpr (.inr ⟨s, given, aborts⟩))
  · rintro ⟨earlier, kick, later, rfl, kicks, unsettled⟩
    have kicked : verdict call signal (kick :: later) = some true := by
      rw [verdict, List.findSome?_cons, outcome_eq_some_true_iff.mpr kicks]
    rw [verdict_append, kicked]
    cases first : verdict call signal earlier with
    | none => rfl
    | some value =>
      obtain ⟨u, member, decides⟩ := List.exists_of_findSome?_eq_some first
      cases value with
      | true => rfl
      | false =>
        obtain ⟨unfired, unaborted⟩ := unsettled u member
        rcases outcome_eq_some_false_iff.mp decides with fired | ⟨s, given, aborts⟩
        · exact absurd fired unfired
        · exact absurd aborts (unaborted s given)

end Events

section Registration

variable {Number Signal : Type} [LE Number] [OfNat Number 0]

/-- The call is put into the set: its timeout is positive and its signal has not aborted. -/
structure Registers (before : List (ParkingTransition Number Signal))
    (t : ParkingTransition Number Signal) (call : Nat) (signal : Option Signal) : Prop where
  promise : t.reply = some call
  waits : ∃ timeoutMs, t.action = .wait timeoutMs signal ∧ ¬ timeoutMs ≤ 0
  unaborted : ∀ s, signal = some s → ∀ u ∈ before, u.action ≠ .abort s

/-- The call was put into the set in the course of the run. -/
def Registered (trace : List (ParkingTransition Number Signal)) (call : Nat) : Prop :=
  ∃ before t after signal, trace = before ++ t :: after ∧ Registers before t call signal

theorem Registered.append {trace : List (ParkingTransition Number Signal)}
    {call : Nat} (registered : Registered trace call)
    (later : List (ParkingTransition Number Signal)) : Registered (trace ++ later) call := by
  obtain ⟨before, t, after, signal, rfl, registers⟩ := registered
  exact ⟨before, t, after ++ later, signal, by simp, registers⟩

end Registration

namespace ParkingLot

/-! ### One turn -/

section Settled

variable {Signal : Type} {lot : ParkingLot Signal} {call : Nat} {signal : Option Signal}

/-- The call was made and waits no longer. -/
structure Ended (lot : ParkingLot Signal) (call : Nat) : Prop where
  made : call < lot.calls
  left : call ∉ lot.waiting

/-- How a call stands: it waits under its signal, or its promise was resolved once. -/
inductive Stands (lot : ParkingLot Signal) (call : Nat) (signal : Option Signal) :
    Option Bool → Prop where
  | waits (unsettled : lot.closure call = some ⟨signal, false⟩)
      (unresolved : lot.settlements call = []) : Stands lot call signal none
  | settled {value : Bool} (ended : lot.Ended call) (resolved : lot.settlements call = [value]) :
      Stands lot call signal (some value)

theorem Stands.settlements {settled : Option Bool} (stands : lot.Stands call signal settled) :
    lot.settlements call = settled.toList := by
  cases stands with
  | waits _ unresolved => exact unresolved
  | settled _ resolved => exact resolved

theorem Stands.waiting_iff (coherent : lot.Coherent) {settled : Option Bool}
    (stands : lot.Stands call signal settled) :
    call ∈ lot.waiting ↔ lot.settlements call = [] := by
  cases stands with
  | waits unsettled unresolved =>
    exact iff_of_true ((coherent.waiting call).mpr ⟨signal, unsettled⟩) unresolved
  | settled ended resolved => exact iff_of_false ended.left (by simp [resolved])

/-- Settling waiting calls leaves the others alone. -/
theorem Ended.settleAll (ended : lot.Ended call) {calls : List Nat} (distinct : calls.Nodup)
    (waiting : calls ⊆ lot.waiting) (woken : Bool) :
    (lot.settleAll calls woken).Ended call ∧
      (lot.settleAll calls woken).settlements call = lot.settlements call := by
  refine ⟨⟨ended.made, fun waits => ended.left (List.mem_filter.mp waits).1⟩, ?_⟩
  rw [settlements_settleAll lot distinct, if_neg fun member => ended.left (waiting member),
    List.append_nil]

/-- A waiting call settles with the others, or goes on waiting. -/
theorem Stands.settleAll (stands : lot.Stands call signal none) {calls : List Nat}
    (distinct : calls.Nodup) (made : call < lot.calls) (woken : Bool) :
    (lot.settleAll calls woken).Stands call signal (if call ∈ calls then some woken else none) := by
  cases stands with
  | waits unsettled unresolved =>
    have settlements := settlements_settleAll lot distinct woken call
    rw [unresolved, List.nil_append] at settlements
    by_cases member : call ∈ calls
    · rw [if_pos member] at settlements ⊢
      exact .settled ⟨made, by simp [ParkingLot.settleAll, member]⟩ settlements
    · rw [if_neg member] at settlements ⊢
      exact .waits (closure_settleAll.mpr ⟨member, unsettled⟩) settlements

theorem settlements_immediate (lot : ParkingLot Signal) (call : Nat) :
    lot.immediate.settlements call =
      lot.settlements call ++ if lot.calls = call then [false] else [] := by
  by_cases same : lot.calls = call <;> simp [settlements, immediate, same]

end Settled

variable {Number Signal : Type} [LE Number] [OfNat Number 0] [DecidableEq Signal]
  {lot post : ParkingLot Signal} {action : ParkingAction Number Signal}
  {reply : Option Nat} {call : Nat} {signal : Option Signal}

theorem Effect.ended (effect : Effect lot action reply post) (coherent : lot.Coherent)
    (ended : lot.Ended call) : post.Ended call ∧ post.settlements call = lot.settlements call := by
  have old : lot.calls ≠ call := Nat.ne_of_gt ended.made
  cases effect with
  | immediate =>
    refine ⟨⟨Nat.lt_succ_of_lt ended.made, ended.left⟩, ?_⟩
    rw [settlements_immediate, if_neg old, List.append_nil]
  | parked =>
    refine ⟨⟨Nat.lt_succ_of_lt ended.made, ?_⟩, rfl⟩
    simpa [park, ended.left] using old.symm
  | kicked => exact ended.settleAll coherent.distinct (List.Subset.refl _) true
  | timedOut waits => exact ended.settleAll (List.nodup_singleton _) (by simpa using waits) false
  | @aborted signal =>
    have marked : (lot.markAborted signal).Ended call := ⟨ended.made, ended.left⟩
    exact marked.settleAll (coherent.distinct.filter _) (List.filter_subset_self _) false
  | abortedAgain => exact ⟨ended, rfl⟩

/-- The step lemma: a waiting call is settled by the events that concern it. -/
theorem Effect.stands (effect : Effect lot action reply post) (coherent : lot.Coherent)
    {settled : Option Bool} (stands : lot.Stands call signal settled) :
    post.Stands call signal (settled.or (action.outcome call signal)) := by
  cases stands with
  | settled ended resolved =>
    obtain ⟨ended, same⟩ := effect.ended coherent ended
    exact .settled ended (same.trans resolved)
  | waits unsettled unresolved =>
    have stands : lot.Stands call signal none := .waits unsettled unresolved
    have waits : call ∈ lot.waiting := (coherent.waiting call).mpr ⟨signal, unsettled⟩
    have made : call < lot.calls := coherent.lt_of_waiting waits
    have old : lot.calls ≠ call := Nat.ne_of_gt made
    rw [Option.none_or]
    cases effect with
    | immediate =>
      refine .waits unsettled ?_
      rw [settlements_immediate, if_neg old, List.append_nil]
      exact unresolved
    | parked => exact .waits (by simpa [park, old.symm] using unsettled) unresolved
    | kicked =>
      have settles := stands.settleAll coherent.distinct made true
      rwa [if_pos waits] at settles
    | @timedOut other =>
      have settles := stands.settleAll (List.nodup_singleton other) made false
      simpa [ParkingAction.outcome, eq_comm] using settles
    | @aborted other =>
      have marked : (lot.markAborted other).Stands call signal none := .waits unsettled unresolved
      have settles := marked.settleAll
        (coherent.distinct.filter (lot.signalOf · = some other)) made false
      have listens : call ∈ lot.waiting.filter (lot.signalOf · = some other) ↔
          signal = some other := by
        simp [waits, signalOf, unsettled]
      rwa [if_congr listens rfl rfl] at settles
    | @abortedAgain other again =>
      have different : signal ≠ some other := by
        rintro rfl
        exact coherent.unaborted call other unsettled again
      rw [ParkingAction.outcome, if_neg different]
      exact stands

/-- Only its own abort marks a signal. -/
theorem Effect.mem_aborted (effect : Effect lot action reply post) (signal : Signal) :
    signal ∈ post.aborted ↔ signal ∈ lot.aborted ∨ action = .abort signal := by
  cases effect with
  | immediate | parked | kicked | timedOut => simp [ParkingLot.immediate, park, settleAll]
  | @aborted other =>
    have marked : signal ∈ (lot.markAborted other).aborted ↔
        signal ∈ lot.aborted ∨ (.abort other : ParkingAction Number Signal) = .abort signal := by
      simp [markAborted, or_comm, eq_comm]
    exact marked
  | @abortedAgain other again =>
    constructor
    · exact .inl
    · rintro (earlier | same)
      · exact earlier
      · cases same
        exact again

/-- Only a call of `wait` adds to the set. -/
theorem Effect.wait_of_waiting (effect : Effect lot action reply post) (before : call ∉ lot.waiting)
    (waits : call ∈ post.waiting) :
    ∃ timeoutMs signal, action = .wait timeoutMs signal ∧ reply = some call := by
  cases effect with
  | immediate | abortedAgain => exact absurd waits before
  | @parked timeoutMs signal =>
    rcases List.mem_append.mp waits with earlier | new
    · exact absurd earlier before
    · exact ⟨timeoutMs, signal, rfl, congrArg some (List.mem_singleton.mp new).symm⟩
  | kicked | timedOut | aborted => exact absurd (List.mem_filter.mp waits).1 before

end ParkingLot

/-! ### Runs -/

section Runs

variable {Number Signal : Type} [LE Number] [OfNat Number 0] [DecidableLE Number]
  [DecidableEq Signal] {start final : ParkingLot Signal}
  {trace before : List (ParkingTransition Number Signal)} {t : ParkingTransition Number Signal}
  {call : Nat} {signal : Option Signal}

theorem coherent_of_run (run : (parkingLot Number Signal).Run start trace final)
    (coherent : start.Coherent) : final.Coherent :=
  run.invariant coherent fun _ => ParkingLot.coherent_step

/-- The run lemma: the first event that concerns a call decides, and later ones change nothing. -/
theorem stands_of_run (run : (parkingLot Number Signal).Run start trace final)
    (coherent : start.Coherent) {settled : Option Bool} (stands : start.Stands call signal settled) :
    final.Stands call signal (settled.or (verdict call signal trace)) := by
  apply run.history (P := fun trace lot => lot.Stands call signal (settled.or (verdict call signal trace)))
  · simpa [verdict] using stands
  · intro before t run fires stands
    have effect := ParkingLot.effect_of_step (coherent_of_run run coherent) fires
    have next := effect.stands (coherent_of_run run coherent) stands
    rw [Option.or_assoc] at next
    rw [verdict_append]
    simpa [verdict] using next

theorem mem_aborted_of_run
    (run : (parkingLot Number Signal).Run ParkingLot.empty trace final) (signal : Signal) :
    signal ∈ final.aborted ↔ ∃ u ∈ trace, u.action = .abort signal := by
  apply run.history (P := fun trace lot => signal ∈ lot.aborted ↔ ∃ u ∈ trace, u.action = .abort signal)
  · simp [ParkingLot.empty]
  · intro before t run fires earlier
    have coherent := coherent_of_run run ParkingLot.coherent_initial
    have effect := ParkingLot.effect_of_step coherent fires
    rw [effect.mem_aborted, earlier]
    simp [or_and_right, exists_or]

/-- A call of `wait` registers and waits, or its promise is resolved with false at once. -/
theorem stands_of_wait (run : (parkingLot Number Signal).Run ParkingLot.empty before t.pre)
    (fires : (parkingLot Number Signal).Fires t) {timeoutMs : Number}
    (action : t.action = .wait timeoutMs signal) (reply : t.reply = some call) :
    (Registers before t call signal ∧ t.post.Stands call signal none) ∨
      ¬ Registers before t call signal ∧ t.post.Stands call signal (some false) := by
  have coherent := coherent_of_run run ParkingLot.coherent_initial
  have aborted := mem_aborted_of_run run
  obtain ⟨pre, action', reply', post⟩ := t
  obtain rfl : action' = .wait timeoutMs signal := action
  obtain rfl : reply' = some call := reply
  have effect : ParkingLot.Effect pre (.wait timeoutMs signal) (some call) post :=
    ParkingLot.effect_of_step coherent fires
  have fresh := coherent.fresh pre.calls (Nat.le_refl _)
  cases effect with
  | immediate refused =>
    refine .inr ⟨?_, .settled ⟨Nat.lt_succ_self _, ?_⟩ ?_⟩
    · rintro ⟨-, ⟨_, same, positive⟩, unaborted⟩
      cases same
      rcases refused with refused | ⟨s, given, member⟩
      · exact positive refused
      · obtain ⟨u, earlier, aborts⟩ := (aborted s).mp member
        exact unaborted s given u earlier aborts
    · exact fun waits => Nat.lt_irrefl _ (coherent.lt_of_waiting waits)
    · rw [ParkingLot.settlements_immediate, if_pos rfl]
      simp [fresh.2]
  | parked positive unaborted =>
    refine .inl ⟨⟨rfl, ⟨timeoutMs, rfl, positive⟩, ?_⟩, .waits ?_ fresh.2⟩
    · intro s given u earlier aborts
      exact unaborted s given ((aborted s).mpr ⟨u, earlier, aborts⟩)
    · simp [ParkingLot.park]

/-- What a run makes of a call of `wait`. -/
theorem settles_call {run : ParkingRun Number Signal} {after : List (ParkingTransition Number Signal)}
    (split : run.trace = before ++ t :: after) {timeoutMs : Number}
    (action : t.action = .wait timeoutMs signal) (reply : t.reply = some call) :
    (Registers before t call signal ∧ run.final.Stands call signal (verdict call signal after)) ∨
      ¬ Registers before t call signal ∧ run.final.Stands call signal (some false) := by
  have whole := run.run
  rw [split] at whole
  obtain ⟨earlier, fires, later⟩ := whole.split
  have coherent := ParkingLot.coherent_step fires
    (coherent_of_run earlier ParkingLot.coherent_initial)
  rcases stands_of_wait earlier fires action reply with ⟨registers, stands⟩ | ⟨refused, stands⟩
  · exact .inl ⟨registers, by simpa using stands_of_run later coherent stands⟩
  · exact .inr ⟨refused, by simpa using stands_of_run later coherent stands⟩

/-- Who waits was put into the set. -/
theorem registered_of_waiting
    (run : (parkingLot Number Signal).Run ParkingLot.empty trace final) :
    ∀ call ∈ final.waiting, Registered trace call := by
  apply run.history (P := fun trace lot => ∀ call ∈ lot.waiting, Registered trace call)
  · simp [ParkingLot.empty]
  · intro before t run fires earlier call waits
    have coherent := coherent_of_run run ParkingLot.coherent_initial
    by_cases waited : call ∈ t.pre.waiting
    · exact (earlier call waited).append [t]
    · obtain ⟨timeoutMs, signal, action, reply⟩ :=
        (ParkingLot.effect_of_step coherent fires).wait_of_waiting waited waits
      rcases stands_of_wait run fires action reply with ⟨registers, -⟩ | ⟨-, stands⟩
      · exact ⟨before, t, [], signal, rfl, registers⟩
      · cases stands with
        | settled ended => exact absurd waits ended.left

theorem wait_of_reply (fires : (parkingLot Number Signal).Fires t) (reply : t.reply = some call) :
    ∃ timeoutMs signal, t.action = .wait timeoutMs signal := by
  obtain ⟨pre, action, reply', post⟩ := t
  obtain rfl : reply' = some call := reply
  have stepped : pre.step action = some (some call, post) := fires
  cases action with
  | wait timeoutMs signal => exact ⟨timeoutMs, signal, rfl⟩
  | kick | abort => cases stepped
  | timer other =>
    obtain ⟨_, -, same⟩ := Option.map_eq_some_iff.mp stepped
    cases same

theorem stands_of_mem {run : ParkingRun Number Signal} (member : t ∈ run.trace)
    (reply : t.reply = some call) :
    ∃ signal settled, run.final.Stands call signal settled := by
  obtain ⟨timeoutMs, signal, action⟩ := wait_of_reply (run.run.fires_of_mem member) reply
  obtain ⟨before, after, split⟩ := List.append_of_mem member
  rcases settles_call split action reply with ⟨-, stands⟩ | ⟨-, stands⟩
  · exact ⟨signal, _, stands⟩
  · exact ⟨signal, _, stands⟩

/-- The set holds the calls that were put into it and are not settled. -/
theorem waiting_iff_registered (run : ParkingRun Number Signal) (call : Nat) :
    call ∈ run.final.waiting ↔
      Registered run.trace call ∧ run.final.settlements call = [] := by
  have coherent := coherent_of_run run.run ParkingLot.coherent_initial
  have stands (registered : Registered run.trace call) :
      call ∈ run.final.waiting ↔ run.final.settlements call = [] := by
    obtain ⟨before, t, after, signal, split, registers⟩ := registered
    have member : t ∈ run.trace := by
      rw [split]
      exact List.mem_append_cons_self
    obtain ⟨signal, settled, stands⟩ := stands_of_mem member registers.promise
    exact stands.waiting_iff coherent
  constructor
  · intro waits
    have registered := registered_of_waiting run.run call waits
    exact ⟨registered, (stands registered).mp waits⟩
  · rintro ⟨registered, unresolved⟩
    exact (stands registered).mpr unresolved

theorem size_of_run (run : ParkingRun Number Signal) :
    ∃ unsettled : Finset Nat, run.final.size = unsettled.card ∧ ∀ call, call ∈ unsettled ↔
      Registered run.trace call ∧ run.final.settlements call = [] := by
  have coherent := coherent_of_run run.run ParkingLot.coherent_initial
  refine ⟨run.final.waiting.toFinset, (List.toFinset_card_of_nodup coherent.distinct).symm, ?_⟩
  intro call
  rw [List.mem_toFinset]
  exact waiting_iff_registered run call

theorem settled_of_kick (run : (parkingLot Number Signal).Run ParkingLot.empty before t.pre)
    (fires : (parkingLot Number Signal).Fires t) (kicks : t.action = .kick)
    (waits : call ∈ t.pre.waiting) :
    t.pre.settlements call = [] ∧ t.post.settlements call = [true] := by
  have coherent := coherent_of_run run ParkingLot.coherent_initial
  have unresolved := ((waiting_iff_registered ⟨before, t.pre, run⟩ call).mp waits).2
  obtain ⟨signal, unsettled⟩ := (coherent.waiting call).mp waits
  have stands := (ParkingLot.effect_of_step coherent fires).stands coherent
    (.waits unsettled unresolved)
  rw [kicks] at stands
  cases stands with
  | settled _ resolved => exact ⟨unresolved, resolved⟩

/-- The waits of a run settle at most once, with what happened first, and leave nothing behind. -/
structure WaitsSettle (run : ParkingRun Number Signal) : Prop where
  /-- A promise is resolved once, unless the timer of its call is still set. -/
  once : ∀ t ∈ run.trace, ∀ call, t.reply = some call →
    (run.final.settlements call).length = if call ∈ run.final.timers then 0 else 1
  woken : ∀ before t after, run.trace = before ++ t :: after →
    ∀ timeoutMs signal call, t.action = .wait timeoutMs signal → t.reply = some call →
      (run.final.settlements call = [true] ↔
        Registers before t call signal ∧ Woken call signal after)
  kicked : ∀ t ∈ run.trace, t.action = .kick → ∀ call ∈ t.pre.waiting,
    t.pre.settlements call = [] ∧ t.post.settlements call = [true]
  cleared : ∀ t ∈ run.trace, ∀ call, t.reply = some call → run.final.settlements call ≠ [] →
    call ∉ run.final.waiting ∧ call ∉ run.final.timers ∧
      ∀ signal, (signal, call) ∉ run.final.listeners
  registered : ∀ call, call ∈ run.final.waiting ↔
    Registered run.trace call ∧ run.final.settlements call = []
  size : ∃ unsettled : Finset Nat, run.final.size = unsettled.card ∧ ∀ call, call ∈ unsettled ↔
    Registered run.trace call ∧ run.final.settlements call = []

theorem waitsSettle_of_run (run : ParkingRun Number Signal) : WaitsSettle run := by
  have coherent := coherent_of_run run.run ParkingLot.coherent_initial
  refine ⟨?_, ?_, ?_, ?_, waiting_iff_registered run, size_of_run run⟩
  · intro t member call reply
    obtain ⟨signal, settled, stands⟩ := stands_of_mem member reply
    rw [coherent.timers, if_congr (stands.waiting_iff coherent) rfl rfl, stands.settlements]
    cases settled <;> rfl
  · intro before t after split timeoutMs signal call action reply
    rcases settles_call split action reply with ⟨registers, stands⟩ | ⟨refused, stands⟩
    · rw [and_iff_right registers, ← verdict_eq_true_iff, stands.settlements]
      exact Option.toList_eq_singleton_iff
    · rw [stands.settlements]
      simp [refused]
  · intro t member kicks call waits
    obtain ⟨before, after, split⟩ := List.append_of_mem member
    have whole := run.run
    rw [split] at whole
    obtain ⟨earlier, fires, -⟩ := whole.split
    exact settled_of_kick earlier fires kicks waits
  · intro t member call reply resolved
    obtain ⟨signal, settled, stands⟩ := stands_of_mem member reply
    have left : call ∉ run.final.waiting := fun waits =>
      resolved ((stands.waiting_iff coherent).mp waits)
    refine ⟨left, coherent.timers ▸ left, fun other listens => left ?_⟩
    exact (coherent.waiting call).mpr ⟨_, coherent.mem_listeners.mp listens⟩

end Runs

/-! ### Runs without end -/

section Endless

variable {Number Signal : Type} [LE Number] [OfNat Number 0] [DecidableLE Number]
  [DecidableEq Signal] {endless : (parkingLot Number Signal).Endless}

/-- The runtime lets every timer fire that is set, unless it is cleared before. -/
def TimersFire (endless : (parkingLot Number Signal).Endless) : Prop :=
  ∀ n call, call ∈ (endless.steps n).pre.timers →
    ∃ k, n ≤ k ∧ ((endless.steps k).action = .timer call ∨ call ∉ (endless.steps k).pre.timers)

theorem coherent_endless (endless : (parkingLot Number Signal).Endless) (n : Nat) :
    (endless.steps n).pre.Coherent :=
  endless.invariant ParkingLot.coherent_initial (fun _ => ParkingLot.coherent_step) n

theorem stands_endless {n m call : Nat} {signal : Option Signal} {settled : Option Bool}
    (stands : (endless.steps n).pre.Stands call signal settled) (later : n ≤ m) :
    ∃ first, (endless.steps m).pre.Stands call signal (settled.or first) := by
  obtain ⟨k, rfl⟩ := Nat.exists_eq_add_of_le later
  exact ⟨_, stands_of_run (endless.run_part n k) (coherent_endless endless n) stands⟩

/-- Its timer is the last resort of a waiting call. -/
theorem settled_endless (fair : TimersFire endless) {n call : Nat} {signal : Option Signal}
    {settled : Option Bool} (stands : (endless.steps n).pre.Stands call signal settled) :
    ∃ m value, (endless.steps m).pre.Stands call signal (some value) := by
  cases stands with
  | settled ended resolved => exact ⟨n, _, .settled ended resolved⟩
  | waits unsettled unresolved =>
    have coherent := coherent_endless endless n
    have armed : call ∈ (endless.steps n).pre.timers :=
      coherent.timers ▸ (coherent.waiting call).mpr ⟨signal, unsettled⟩
    obtain ⟨k, later, ends⟩ := fair n call armed
    obtain ⟨settled, stands⟩ := stands_endless (.waits unsettled unresolved) later
    have coherent := coherent_endless endless k
    rw [Option.none_or] at stands
    cases stands with
    | settled ended resolved => exact ⟨k, _, .settled ended resolved⟩
    | waits unsettled unresolved =>
      rcases ends with fired | cleared
      · have next := (ParkingLot.effect_of_step coherent (endless.fires k)).stands coherent
          (.waits unsettled unresolved)
        rw [fired, ← endless.follows, Option.none_or, ParkingAction.outcome, if_pos rfl] at next
        exact ⟨k + 1, false, next⟩
      · rw [coherent.timers] at cleared
        exact absurd ((coherent.waiting call).mpr ⟨signal, unsettled⟩) cleared

theorem settles_for_good (fair : TimersFire endless) {n call : Nat}
    (reply : (endless.steps n).reply = some call) :
    ∃ m value, ∀ k, m ≤ k → (endless.steps k).post.settlements call = [value] := by
  obtain ⟨timeoutMs, signal, action⟩ := wait_of_reply (endless.fires n) reply
  have earlier := endless.run_part 0 n
  rw [endless.starts, Nat.zero_add] at earlier
  have waited : ∃ settled, (endless.steps (n + 1)).pre.Stands call signal settled := by
    rw [endless.follows]
    rcases stands_of_wait earlier (endless.fires n) action reply with ⟨-, stands⟩ | ⟨-, stands⟩
    · exact ⟨_, stands⟩
    · exact ⟨_, stands⟩
  obtain ⟨_, stands⟩ := waited
  obtain ⟨m, value, stands⟩ := settled_endless fair stands
  refine ⟨m, value, fun k later => ?_⟩
  obtain ⟨_, stands⟩ := stands_endless stands (Nat.le_succ_of_le later)
  rw [endless.follows] at stands
  cases stands with
  | settled _ resolved => exact resolved

end Endless

theorem waits_settle (Number Signal : Type) [LE Number] [OfNat Number 0] [DecidableLE Number]
    [DecidableEq Signal] :
    (∀ run : ParkingRun Number Signal, WaitsSettle run) ∧
      ∀ endless : (parkingLot Number Signal).Endless, TimersFire endless →
        ∀ n call, (endless.steps n).reply = some call →
          ∃ m value, ∀ k, m ≤ k → (endless.steps k).post.settlements call = [value] := by
  constructor
  · exact waitsSettle_of_run
  · intro endless fair n call reply
    exact settles_for_good fair reply

/-- Two polls park under one signal, the timer of the first fires, a kick wakes the second, a
third parks and the signal aborts. -/
def sampleParking : ParkingRun Int Unit :=
  .perform (parkingLot Int Unit)
    [.wait 5 (some ()), .wait 5 (some ()), .timer 0, .kick, .wait 5 (some ()), .abort ()] (by decide)

/-- One poll parks and is woken; then the lot is kicked for ever. -/
def sampleEndless : (parkingLot Int Unit).Endless where
  steps
    | 0 => ⟨.empty, .wait 5 none, some 0, ParkingLot.empty.park none⟩
    | 1 => ⟨ParkingLot.empty.park none, .kick, none, (ParkingLot.empty.park none).kick⟩
    | _ + 2 => ⟨(ParkingLot.empty.park none).kick, .kick, none, (ParkingLot.empty.park none).kick⟩
  starts := rfl
  fires
    | 0 => rfl
    | 1 => rfl
    | _ + 2 => rfl
  follows
    | 0 => rfl
    | 1 => rfl
    | _ + 2 => rfl

theorem timersFire_sample : TimersFire sampleEndless := by
  intro n call armed
  refine ⟨n + 2, Nat.le_add_right n 2, .inr ?_⟩
  simp [sampleEndless, ParkingLot.kick, ParkingLot.park, ParkingLot.empty, ParkingLot.notify,
    ParkingLot.finish]

theorem waits_settle_sample :
    sampleParking.final.resolved = [(0, false), (1, true), (2, false)] ∧
      WaitsSettle sampleParking ∧
        ∃ m value, ∀ k, m ≤ k → (sampleEndless.steps k).post.settlements 0 = [value] :=
  ⟨by decide, (waits_settle Int Unit).1 sampleParking,
    (waits_settle Int Unit).2 sampleEndless timersFire_sample 0 0 rfl⟩

end InferenceGateway
