import Mathlib.Data.List.Induction

/-!
# Machines and their runs

A machine takes an action and answers with a reply, or refuses the action.
A run records every transition it takes, so that properties of whole
histories are properties of a list of transitions.
-/

namespace InferenceGateway.Library

universe u v w

/-- One step of a run, with the states around it. -/
structure Transition (State : Type u) (Action : Type v) (Reply : Type w) where
  pre : State
  action : Action
  reply : Reply
  post : State

/-- An executable state machine; `none` refuses an action in a state. -/
structure Machine (State : Type u) (Action : Type v) (Reply : Type w) where
  initial : State
  step : State → Action → Option (Reply × State)

namespace Machine

variable {State : Type u} {Action : Type v} {Reply : Type w}

/-- The transition is one the machine can take. -/
def Fires (machine : Machine State Action Reply)
    (t : Transition State Action Reply) : Prop :=
  machine.step t.pre t.action = some (t.reply, t.post)

/-- `Run start trace final`: the transitions of `trace` lead from `start` to `final`. -/
inductive Run (machine : Machine State Action Reply) (start : State) :
    List (Transition State Action Reply) → State → Prop where
  | nil : Run machine start [] start
  | snoc {trace t} : Run machine start trace t.pre → machine.Fires t →
      Run machine start (trace ++ [t]) t.post

/-- A finite run from the initial state. -/
structure Execution (machine : Machine State Action Reply) where
  trace : List (Transition State Action Reply)
  final : State
  run : machine.Run machine.initial trace final

/-- A run from the initial state that never ends. -/
structure Endless (machine : Machine State Action Reply) where
  steps : Nat → Transition State Action Reply
  starts : (steps 0).pre = machine.initial
  fires : ∀ n, machine.Fires (steps n)
  follows : ∀ n, (steps (n + 1)).pre = (steps n).post

variable {machine : Machine State Action Reply} {start final : State}
  {trace : List (Transition State Action Reply)}

theorem Run.nil_iff : machine.Run start [] final ↔ final = start := by
  constructor
  · intro run
    generalize empty : ([] : List (Transition State Action Reply)) = trace at run
    cases run with
    | nil => rfl
    | snoc => simp at empty
  · rintro rfl
    exact .nil

theorem Run.snoc_iff {t : Transition State Action Reply} :
    machine.Run start (trace ++ [t]) final ↔
      machine.Run start trace t.pre ∧ machine.Fires t ∧ final = t.post := by
  constructor
  · intro run
    generalize whole : trace ++ [t] = trace' at run
    cases run with
    | nil => simp at whole
    | @snoc before last run fires =>
      obtain ⟨rfl, same⟩ := List.append_inj' whole rfl
      cases same
      exact ⟨run, fires, rfl⟩
  · rintro ⟨run, fires, rfl⟩
    exact .snoc run fires

/-- A run splits at any of its transitions. -/
theorem Run.split {before after : List (Transition State Action Reply)}
    {t : Transition State Action Reply}
    (run : machine.Run start (before ++ t :: after) final) :
    machine.Run start before t.pre ∧ machine.Fires t ∧ machine.Run t.post after final := by
  induction after using List.reverseRecOn generalizing final with
  | nil =>
    obtain ⟨earlier, fires, rfl⟩ := Run.snoc_iff.mp run
    exact ⟨earlier, fires, .nil⟩
  | append_singleton after last inductionHypothesis =>
    rw [← List.cons_append, ← List.append_assoc] at run
    obtain ⟨longer, fires, rfl⟩ := Run.snoc_iff.mp run
    obtain ⟨earlier, first, rest⟩ := inductionHypothesis longer
    exact ⟨earlier, first, .snoc rest fires⟩

theorem Run.cons_inv {t : Transition State Action Reply} (run : machine.Run start (t :: trace) final) :
    start = t.pre ∧ machine.Fires t ∧ machine.Run t.post trace final := by
  obtain ⟨first, fires, rest⟩ := Run.split (show machine.Run start ([] ++ t :: trace) final from run)
  exact ⟨(Run.nil_iff.mp first).symm, fires, rest⟩

theorem Run.fires_of_mem (run : machine.Run start trace final)
    {t : Transition State Action Reply} (member : t ∈ trace) : machine.Fires t := by
  obtain ⟨before, after, rfl⟩ := List.append_of_mem member
  exact run.split.2.1

/-- What the start satisfies and every transition of the run preserves holds at
the end. -/
theorem Run.preserves {P : State → Prop} (run : machine.Run start trace final)
    (initially : P start)
    (preserved : ∀ t ∈ trace, machine.Fires t → P t.pre → P t.post) : P final := by
  induction run with
  | nil => exact initially
  | @snoc trace t run fires inductionHypothesis =>
    apply preserved t (by simp) fires
    exact inductionHypothesis fun earlier member =>
      preserved earlier (List.mem_append_left _ member)

/-- Invariants of a whole machine. -/
theorem Run.invariant {P : State → Prop} (run : machine.Run start trace final)
    (initially : P start) (preserved : ∀ t, machine.Fires t → P t.pre → P t.post) :
    P final :=
  run.preserves initially fun t _ => preserved t

/-- What holds at the start of a run and not at its end was lost in one of its transitions. -/
theorem Run.exists_loss {P : State → Prop} (run : machine.Run start trace final)
    (initially : P start) (lost : ¬ P final) :
    ∃ t ∈ trace, machine.Fires t ∧ P t.pre ∧ ¬ P t.post := by
  by_contra kept
  refine lost (run.preserves initially fun t member fires before => ?_)
  by_contra after
  exact kept ⟨t, member, fires, before, after⟩

/-- The history rule: a relation between the transitions taken so far and the
state they led to. -/
theorem Run.history {P : List (Transition State Action Reply) → State → Prop}
    (run : machine.Run start trace final) (initially : P [] start)
    (preserved : ∀ before t, machine.Run start before t.pre → machine.Fires t →
      P before t.pre → P (before ++ [t]) t.post) : P trace final := by
  induction run with
  | nil => exact initially
  | snoc run fires inductionHypothesis =>
    exact preserved _ _ run fires inductionHypothesis

/-- An invariant holds on both sides of every transition of a run. -/
theorem Run.invariant_at {P : State → Prop} (run : machine.Run start trace final)
    (initially : P start) (preserved : ∀ t, machine.Fires t → P t.pre → P t.post)
    {t : Transition State Action Reply} (member : t ∈ trace) : P t.pre ∧ P t.post := by
  obtain ⟨before, after, rfl⟩ := List.append_of_mem member
  have holds := run.split.1.invariant initially preserved
  exact ⟨holds, preserved t run.split.2.1 holds⟩

/-- A quantity no transition lowers is not lowered by a run. -/
theorem Run.monotone {measure : State → Nat}
    (step : ∀ t, machine.Fires t → measure t.pre ≤ measure t.post)
    (run : machine.Run start trace final) : measure start ≤ measure final := by
  apply run.invariant (P := fun state => measure start ≤ measure state) (Nat.le_refl _)
  intro t fires bound
  exact Nat.le_trans bound (step t fires)

/-- A counter that never goes back tells the transitions that raise it apart. -/
theorem Run.eq_of_counter (counter : State → Nat)
    (step : ∀ t, machine.Fires t → counter t.pre ≤ counter t.post)
    (run : machine.Run start trace final) {t u : Transition State Action Reply}
    (first : t ∈ trace) (second : u ∈ trace) (raises : counter t.pre < counter t.post)
    (raises' : counter u.pre < counter u.post) (same : counter t.pre = counter u.pre) :
    t = u := by
  have apart {before middle after : List (Transition State Action Reply)}
      {v w : Transition State Action Reply} {start final : State}
      (run : machine.Run start (before ++ v :: middle ++ w :: after) final)
      (raises : counter v.pre < counter v.post) : counter v.pre < counter w.pre := by
    obtain ⟨earlier, -, -⟩ := run.split
    obtain ⟨-, -, between⟩ := earlier.split
    exact Nat.lt_of_lt_of_le raises (between.monotone step)
  obtain ⟨before, after, rfl⟩ := List.append_of_mem first
  rcases List.mem_append.mp second with earlier | later
  · obtain ⟨prior, middle, rfl⟩ := List.append_of_mem earlier
    have := apart run raises'
    omega
  · rcases List.mem_cons.mp later with rfl | later
    · rfl
    · obtain ⟨middle, rest, rfl⟩ := List.append_of_mem later
      rw [← List.cons_append, ← List.append_assoc] at run
      have := apart run raises
      omega

/-- The last transition of a kind, in a trace that has one. -/
theorem exists_last {P : Transition State Action Reply → Prop}
    {t : Transition State Action Reply} (member : t ∈ trace) (holds : P t) :
    ∃ before u after, trace = before ++ u :: after ∧ P u ∧ ∀ v ∈ after, ¬ P v := by
  induction trace using List.reverseRecOn with
  | nil => cases member
  | append_singleton trace last inductionHypothesis =>
    by_cases latest : P last
    · exact ⟨trace, last, [], rfl, latest, fun v none => by cases none⟩
    · have earlier : t ∈ trace := by
        rcases List.mem_append.mp member with inside | ends
        · exact inside
        · exact absurd (List.mem_singleton.mp ends ▸ holds) latest
      obtain ⟨before, u, after, rfl, found, none⟩ := inductionHypothesis earlier
      refine ⟨before, u, after ++ [last], by simp, found, fun v inside => ?_⟩
      rcases List.mem_append.mp inside with between | ends
      · exact none v between
      · exact List.mem_singleton.mp ends ▸ latest

/-- A part of an endless run. -/
theorem Endless.run_part (endless : machine.Endless) (n k : Nat) :
    machine.Run (endless.steps n).pre ((List.range k).map fun i => endless.steps (n + i))
      (endless.steps (n + k)).pre := by
  induction k with
  | zero => exact .nil
  | succ k inductionHypothesis =>
    rw [List.range_succ, List.map_append, List.map_singleton, ← Nat.add_assoc, endless.follows]
    exact .snoc inductionHypothesis (endless.fires (n + k))

/-- An invariant holds all along an endless run. -/
theorem Endless.invariant {P : State → Prop} (endless : machine.Endless)
    (initially : P machine.initial) (preserved : ∀ t, machine.Fires t → P t.pre → P t.post)
    (n : Nat) : P (endless.steps n).pre := by
  have run := endless.run_part 0 n
  rw [endless.starts, Nat.zero_add] at run
  exact run.invariant initially preserved

/-- From a step on at which a preserved property holds, it holds for ever. -/
theorem Endless.forever {P : State → Prop} (endless : machine.Endless) {n : Nat}
    (holds : P (endless.steps n).pre)
    (preserved : ∀ t, machine.Fires t → P t.pre → P t.post) :
    ∀ m, n ≤ m → P (endless.steps m).pre := by
  intro m later
  induction later with
  | refl => exact holds
  | @step m _ inductionHypothesis =>
    rw [endless.follows]
    exact preserved _ (endless.fires m) inductionHypothesis

/-! ### Views -/

section Views

variable {State' : Type u} {Action' : Type v} {Reply' : Type w}
  {other : Machine State' Action' Reply'}

/-- What a machine looks like to those who see another one: each of its steps is a step of the
other machine, or leaves what they see as it was. -/
structure View (machine : Machine State Action Reply) (other : Machine State' Action' Reply') where
  state : State → State'
  step : Transition State Action Reply → Option (Transition State' Action' Reply')
  initial : state machine.initial = other.initial
  idle : ∀ t, machine.Fires t → step t = none → state t.post = state t.pre
  moves : ∀ t u, machine.Fires t → step t = some u →
    other.Fires u ∧ u.pre = state t.pre ∧ u.post = state t.post

theorem View.run (view : View machine other) (run : machine.Run start trace final) :
    other.Run (view.state start) (trace.filterMap view.step) (view.state final) := by
  induction run with
  | nil => exact .nil
  | @snoc trace t run fires inductionHypothesis =>
    rw [List.filterMap_append]
    cases seen : view.step t with
    | none =>
      rw [List.filterMap_cons_none seen, List.filterMap_nil, List.append_nil, view.idle t fires seen]
      exact inductionHypothesis
    | some u =>
      obtain ⟨fires', pre, post⟩ := view.moves t u fires seen
      rw [List.filterMap_cons_some seen, List.filterMap_nil, ← post]
      rw [← pre] at inductionHypothesis
      exact .snoc inductionHypothesis fires'

/-- What the transitions of the other machine preserve is preserved here. -/
theorem View.preserves (view : View machine other) {P : State' → Prop}
    (preserved : ∀ u, other.Fires u → P u.pre → P u.post) {t : Transition State Action Reply}
    (fires : machine.Fires t) (holds : P (view.state t.pre)) : P (view.state t.post) := by
  cases seen : view.step t with
  | none => rwa [view.idle t fires seen]
  | some u =>
    obtain ⟨fires', pre, post⟩ := view.moves t u fires seen
    rw [← post]
    exact preserved u fires' (pre ▸ holds)

/-- The run that an execution looks like. -/
def View.execution (view : View machine other) (execution : machine.Execution) :
    other.Execution where
  trace := execution.trace.filterMap view.step
  final := view.state execution.final
  run := view.initial ▸ view.run execution.run

end Views

/-! ### Runs that go on -/

section Continuing

variable (next : Nat → State → Transition State Action Reply)

/-- The state that `n` steps of `next` lead to. -/
def stateAfter (start : State) : Nat → State
  | 0 => start
  | n + 1 => (next n (stateAfter start n)).post

/-- The steps of the trace, then those of `next`. -/
def continued (final : State) :
    List (Transition State Action Reply) → Nat → Transition State Action Reply
  | [], n => next n (stateAfter next final n)
  | t :: _, 0 => t
  | _ :: trace, n + 1 => continued final trace n

theorem continued_append (final : State) (trace : List (Transition State Action Reply))
    (n : Nat) : continued next final trace (trace.length + n) = continued next final [] n := by
  induction trace with
  | nil => rw [List.length_nil, Nat.zero_add]
  | cons t trace inductionHypothesis =>
    rw [List.length_cons, Nat.add_right_comm]
    exact inductionHypothesis

theorem continued_of_run (starts : ∀ n state, (next n state).pre = state)
    (fires : ∀ n state, machine.Fires (next n state)) (run : machine.Run start trace final) :
    (continued next final trace 0).pre = start ∧
      ∀ n, machine.Fires (continued next final trace n) ∧
        (continued next final trace (n + 1)).pre = (continued next final trace n).post := by
  induction trace generalizing start with
  | nil =>
    obtain rfl := Run.nil_iff.mp run
    exact ⟨starts 0 _, fun n => ⟨fires n _, starts _ _⟩⟩
  | cons t trace inductionHypothesis =>
    obtain ⟨rfl, here, rest⟩ := run.cons_inv
    obtain ⟨joins, onward⟩ := inductionHypothesis rest
    refine ⟨rfl, fun n => ?_⟩
    cases n with
    | zero => exact ⟨here, joins⟩
    | succ n => exact onward n

/-- An execution goes on for ever where some step is always possible. -/
def Execution.forever (execution : machine.Execution)
    (starts : ∀ n state, (next n state).pre = state)
    (fires : ∀ n state, machine.Fires (next n state)) : machine.Endless where
  steps := continued next execution.final execution.trace
  starts := (continued_of_run next starts fires execution.run).1
  fires n := ((continued_of_run next starts fires execution.run).2 n).1
  follows n := ((continued_of_run next starts fires execution.run).2 n).2

end Continuing

/-- Perform a list of actions, recording the transitions. -/
def exec (machine : Machine State Action Reply) (state : State) :
    List Action → Option (List (Transition State Action Reply) × State)
  | [] => some ([], state)
  | action :: rest =>
    match machine.step state action with
    | none => none
    | some (reply, next) =>
      (machine.exec next rest).map fun (trace, final) =>
        (⟨state, action, reply, next⟩ :: trace, final)

theorem Run.cons {t : Transition State Action Reply} (fires : machine.Fires t)
    (run : machine.Run t.post trace final) : machine.Run t.pre (t :: trace) final := by
  induction run with
  | nil =>
    have single : machine.Run t.pre ([] ++ [t]) t.post := .snoc .nil fires
    exact single
  | snoc _ last inductionHypothesis => exact Run.snoc inductionHypothesis last

theorem run_of_exec {actions : List Action}
    (result : machine.exec start actions = some (trace, final)) :
    machine.Run start trace final := by
  induction actions generalizing start trace with
  | nil =>
    simp only [exec, Option.some.injEq, Prod.mk.injEq] at result
    obtain ⟨rfl, rfl⟩ := result
    exact .nil
  | cons action rest inductionHypothesis =>
    unfold exec at result
    split at result
    · simp at result
    · next reply next stepped =>
      obtain ⟨⟨later, last⟩, performed, same⟩ := Option.map_eq_some_iff.mp result
      cases same
      exact Run.cons (t := ⟨start, action, reply, next⟩) stepped
        (inductionHypothesis performed)

theorem actions_of_exec {actions : List Action}
    (result : machine.exec start actions = some (trace, final)) :
    trace.map Transition.action = actions := by
  induction actions generalizing start trace with
  | nil =>
    simp only [exec, Option.some.injEq, Prod.mk.injEq] at result
    rw [← result.1, List.map_nil]
  | cons action rest inductionHypothesis =>
    unfold exec at result
    split at result
    · simp at result
    · obtain ⟨⟨later, last⟩, performed, same⟩ := Option.map_eq_some_iff.mp result
      cases same
      rw [List.map_cons, inductionHypothesis performed]

/-- The execution performed by a list of actions the machine accepts. -/
def Execution.perform (machine : Machine State Action Reply) (actions : List Action)
    (accepted : (machine.exec machine.initial actions).isSome) : machine.Execution where
  trace := ((machine.exec machine.initial actions).get accepted).1
  final := ((machine.exec machine.initial actions).get accepted).2
  run := run_of_exec (Option.some_get accepted).symm

theorem Execution.actions_perform {actions : List Action}
    (accepted : (machine.exec machine.initial actions).isSome) :
    (perform machine actions accepted).trace.map Transition.action = actions :=
  actions_of_exec (Option.some_get accepted).symm

/-- The transitions two parts of a list of actions perform. -/
theorem Execution.perform_append {earlier later : List Action}
    (accepted : (machine.exec machine.initial (earlier ++ later)).isSome) :
    ∃ before after, (perform machine (earlier ++ later) accepted).trace = before ++ after ∧
      before.map Transition.action = earlier ∧ after.map Transition.action = later ∧
      (perform machine (earlier ++ later) accepted).trace.drop earlier.length = after := by
  obtain ⟨before, after, trace, first, last⟩ :=
    List.map_eq_append_iff.mp (actions_perform accepted)
  refine ⟨before, after, trace, first, last, ?_⟩
  rw [trace, ← first, List.length_map, List.drop_left]

/-- The transition an action performs. -/
theorem Execution.perform_split {earlier later : List Action} {first : Action}
    (accepted : (machine.exec machine.initial (earlier ++ first :: later)).isSome) :
    ∃ before t after, (perform machine (earlier ++ first :: later) accepted).trace =
        before ++ t :: after ∧ t.action = first ∧ after.map Transition.action = later ∧
      (perform machine (earlier ++ first :: later) accepted).trace[earlier.length]? = some t := by
  obtain ⟨before, suffix, trace, same, rest, -⟩ := perform_append accepted
  obtain ⟨t, after, rfl, action, last⟩ := List.map_eq_cons_iff.mp rest
  refine ⟨before, t, after, trace, action, last, ?_⟩
  rw [trace, ← same, List.length_map, List.getElem?_append_right (Nat.le_refl _), Nat.sub_self]
  rfl

/-- The transitions two actions perform. -/
theorem Execution.perform_split₂ {earlier between later : List Action} {first second : Action}
    (accepted : (machine.exec machine.initial
      (earlier ++ first :: (between ++ second :: later))).isSome) :
    ∃ before t middle u after,
      (perform machine (earlier ++ first :: (between ++ second :: later)) accepted).trace =
        before ++ t :: (middle ++ u :: after) ∧
      t.action = first ∧ u.action = second ∧ middle.map Transition.action = between ∧
      (perform machine (earlier ++ first :: (between ++ second :: later))
        accepted).trace[earlier.length]? = some t ∧
      (perform machine (earlier ++ first :: (between ++ second :: later))
        accepted).trace[earlier.length + 1 + between.length]? = some u := by
  have performed := actions_perform accepted
  obtain ⟨before, t, rest, trace, initially, actions, place⟩ := perform_split accepted
  rw [trace, List.map_append, List.map_cons] at performed
  have lengths : before.length = earlier.length := by
    have whole := congrArg List.length performed
    have tail := congrArg List.length actions
    simp only [List.length_append, List.length_cons, List.length_map] at whole tail
    omega
  obtain ⟨middle, suffix, rfl, same, last⟩ := List.map_eq_append_iff.mp actions
  obtain ⟨u, after, rfl, action, -⟩ := List.map_eq_cons_iff.mp last
  refine ⟨before, t, middle, u, after, trace, initially, action, same, place, ?_⟩
  rw [trace, ← lengths, ← same, List.length_map, Nat.add_assoc,
    List.getElem?_append_right (Nat.le_add_right _ _), Nat.add_sub_cancel_left, Nat.add_comm 1,
    List.getElem?_cons_succ, List.getElem?_append_right (Nat.le_refl _), Nat.sub_self]
  rfl

/-- The last transition performed. -/
theorem Execution.perform_last {actions : List Action} {last : Action}
    (accepted : (machine.exec machine.initial (actions ++ [last])).isSome) :
    ∃ before t, (perform machine (actions ++ [last]) accepted).trace = before ++ [t] ∧
      t.action = last := by
  obtain ⟨before, t, after, split, action, done, -⟩ := perform_split accepted
  obtain rfl := List.map_eq_nil_iff.mp done
  exact ⟨before, t, split, action⟩

end Machine

end InferenceGateway.Library
