import Mathlib.Data.List.Basic

/-!
# Step machines and their runs

A machine is a set of initial states with an executable partial step
function.  A run may be restricted to the steps a condition admits in the
state before them, so that a theorem can say exactly which runs it covers.
The rules below are the only inductions over runs that a development on top
of this file needs.
-/

/-- Initial states and a step function which is undefined where an event
cannot happen. -/
structure Machine (State : Type u) (Event : Type v) where
  initial : State → Prop
  step : State → Event → Option State

namespace Machine

variable {State : Type u} {Event : Type v} {machine : Machine State Event}

/-- States reached from an initial one by steps that `admits` accepts. -/
inductive ReachableUnder (machine : Machine State Event)
    (admits : State → Event → Prop) : State → Prop where
  | initial {state : State} :
      machine.initial state → ReachableUnder machine admits state
  | step {before after : State} {event : Event} :
      ReachableUnder machine admits before →
      admits before event →
      machine.step before event = some after →
      ReachableUnder machine admits after

/-- States reached without any condition on the steps. -/
abbrev Reachable (machine : Machine State Event) : State → Prop :=
  machine.ReachableUnder fun _ _ => True

theorem ReachableUnder.mono
    {narrow wide : State → Event → Prop} {state : State}
    (weaker : ∀ before event, narrow before event → wide before event)
    (reached : machine.ReachableUnder narrow state) :
    machine.ReachableUnder wide state := by
  induction reached with
  | initial start => exact .initial start
  | step _ admitted stepped induction =>
      exact .step induction (weaker _ _ admitted) stepped

/-- The invariant rule: what holds initially and is kept by every admitted
step holds in every state reached. -/
theorem ReachableUnder.invariant
    {admits : State → Event → Prop} (invariant : State → Prop)
    (start : ∀ state, machine.initial state → invariant state)
    (kept : ∀ before event after, invariant before → admits before event →
      machine.step before event = some after → invariant after)
    {state : State} (reached : machine.ReachableUnder admits state) :
    invariant state := by
  induction reached with
  | initial holds => exact start _ holds
  | step _ admitted stepped induction =>
      exact kept _ _ _ induction admitted stepped

/-- The invariant rule relative to invariants established before: the step
may use that its state before is reachable. -/
theorem ReachableUnder.invariantOver
    {admits : State → Event → Prop} (invariant : State → Prop)
    (start : ∀ state, machine.initial state → invariant state)
    (kept : ∀ before event after, machine.ReachableUnder admits before →
      invariant before → admits before event →
      machine.step before event = some after → invariant after)
    {state : State} (reached : machine.ReachableUnder admits state) :
    invariant state := by
  induction reached with
  | initial holds => exact start _ holds
  | step earlier admitted stepped induction =>
      exact kept _ _ _ earlier induction admitted stepped

/-- Take the events of a list in order. -/
def run (machine : Machine State Event) (state : State) :
    List Event → Option State
  | [] => some state
  | event :: events =>
      (machine.step state event).bind fun next => machine.run next events

/-- Every step of the run that takes `events` meets the condition in the
state before it. -/
def Admitted (machine : Machine State Event)
    (admits : State → Event → Prop) (state : State) : List Event → Prop
  | [] => True
  | event :: events =>
      admits state event ∧
        ∀ next, machine.step state event = some next →
          machine.Admitted admits next events

@[simp] theorem run_nil (state : State) : machine.run state [] = some state :=
  rfl

@[simp] theorem run_cons (state : State) (event : Event)
    (events : List Event) :
    machine.run state (event :: events) =
      (machine.step state event).bind fun next => machine.run next events :=
  rfl

theorem ReachableUnder.run
    {admits : State → Event → Prop} {before after : State}
    {events : List Event}
    (reached : machine.ReachableUnder admits before)
    (admitted : machine.Admitted admits before events)
    (ran : machine.run before events = some after) :
    machine.ReachableUnder admits after := by
  induction events generalizing before with
  | nil =>
      cases ran
      exact reached
  | cons event events induction =>
      obtain ⟨next, stepped, rest⟩ := Option.bind_eq_some_iff.mp ran
      exact induction (.step reached admitted.1 stepped)
        (admitted.2 next stepped) rest

/-- What every admitted step keeps, a run keeps. -/
theorem run_keeps {admits : State → Event → Prop} (property : State → Prop)
    (kept : ∀ before event after, property before → admits before event →
      machine.step before event = some after → property after)
    {before after : State} {events : List Event} (holds : property before)
    (admitted : machine.Admitted admits before events)
    (ran : machine.run before events = some after) : property after := by
  induction events generalizing before with
  | nil =>
      cases ran
      exact holds
  | cons event events induction =>
      obtain ⟨next, stepped, rest⟩ := Option.bind_eq_some_iff.mp ran
      exact induction (kept _ _ _ holds admitted.1 stepped)
        (admitted.2 next stepped) rest

theorem Admitted.cons {admits : State → Event → Prop} {state next : State}
    {event : Event} {events : List Event}
    (stepped : machine.step state event = some next)
    (isAdmitted : admits state event)
    (rest : machine.Admitted admits next events) :
    machine.Admitted admits state (event :: events) := by
  refine ⟨isAdmitted, fun other isNext => ?_⟩
  cases stepped.symm.trans isNext
  exact rest

theorem admitted_of_forall {admits : State → Event → Prop} {state : State}
    {events : List Event}
    (all : ∀ event ∈ events, ∀ state, admits state event) :
    machine.Admitted admits state events := by
  induction events generalizing state with
  | nil => trivial
  | cons event events induction =>
      obtain ⟨first, rest⟩ := List.forall_mem_cons.mp all
      exact ⟨first state, fun _ _ => induction rest⟩

theorem admitted_true (state : State) (events : List Event) :
    machine.Admitted (fun _ _ => True) state events :=
  admitted_of_forall fun _ _ _ => trivial

/-- The check accepts every step of the run that takes `events`. -/
def checks (machine : Machine State Event) (check : State → Event → Bool)
    (state : State) : List Event → Bool
  | [] => true
  | event :: events =>
      check state event &&
        (machine.step state event).all fun next =>
          machine.checks check next events

/-- A condition can be decided along a trace. -/
theorem admitted_of_checks {admits : State → Event → Prop}
    {check : State → Event → Bool} {state : State} {events : List Event}
    (sound : ∀ state event, check state event = true → admits state event)
    (checked : machine.checks check state events = true) :
    machine.Admitted admits state events := by
  induction events generalizing state with
  | nil => trivial
  | cons event events induction =>
      simp only [checks, Bool.and_eq_true, Option.all_eq_true] at checked
      obtain ⟨first, rest⟩ := checked
      exact ⟨sound state event first, fun next stepped =>
        induction (rest next stepped)⟩

/-- An executed trace is evidence of reachability. -/
theorem reachable_of_run {start state : State} {events : List Event}
    (initial : machine.initial start)
    (ran : machine.run start events = some state) :
    machine.Reachable state :=
  ReachableUnder.run (.initial initial) (admitted_true start events) ran

theorem reachableUnder_of_run {admits : State → Event → Prop}
    {start state : State} {events : List Event}
    (initial : machine.initial start)
    (admitted : machine.Admitted admits start events)
    (ran : machine.run start events = some state) :
    machine.ReachableUnder admits state :=
  ReachableUnder.run (.initial initial) admitted ran

/-- The rule for exact conditions: if a step keeps a property just when it
is admitted, a run keeps it just when all its steps are. -/
theorem run_iff_admitted {admits : State → Event → Prop}
    (property : State → Prop)
    (exactly : ∀ before event after, machine.Reachable before →
      machine.step before event = some after →
      (property after ↔ property before ∧ admits before event))
    {before after : State} {events : List Event}
    (reached : machine.Reachable before)
    (ran : machine.run before events = some after) :
    property after ↔
      property before ∧ machine.Admitted admits before events := by
  induction events generalizing before with
  | nil =>
      cases ran
      exact ⟨fun holds => ⟨holds, trivial⟩, And.left⟩
  | cons event events induction =>
      obtain ⟨next, stepped, rest⟩ := Option.bind_eq_some_iff.mp ran
      have earlier := exactly before event next reached stepped
      rw [induction (.step reached trivial stepped) rest, earlier]
      constructor
      · rintro ⟨⟨holds, admitted⟩, others⟩
        exact ⟨holds, .cons stepped admitted others⟩
      · rintro ⟨holds, admitted, others⟩
        exact ⟨⟨holds, admitted⟩, others next stepped⟩

/-- The property holds in every state that the events lead through. -/
def Throughout (machine : Machine State Event) (property : State → Prop)
    (state : State) : List Event → Prop
  | [] => property state
  | event :: events =>
      property state ∧
        ∀ next, machine.step state event = some next →
          machine.Throughout property next events

theorem Throughout.start {property : State → Prop} {state : State}
    {events : List Event}
    (holds : machine.Throughout property state events) : property state := by
  cases events with
  | nil => exact holds
  | cons event events => exact holds.1

/-- The rule for properties that a later step may restore: in the runs of
allowed steps, a step from a state with the property keeps it just when it is
admitted.  What else holds may rest on the property so far. -/
theorem throughout_iff_admitted {allowed admits : State → Event → Prop}
    (within property : State → Prop)
    (kept : ∀ before event after, within before → allowed before event →
      property before → property after →
      machine.step before event = some after → within after)
    (exactly : ∀ before event after, within before → allowed before event →
      property before → machine.step before event = some after →
      (property after ↔ admits before event))
    {state last : State} {events : List Event}
    (areAllowed : machine.Admitted allowed state events)
    (ran : machine.run state events = some last) (isWithin : within state)
    (holds : property state) :
    machine.Throughout property state events ↔
      machine.Admitted admits state events := by
  induction events generalizing state with
  | nil => exact ⟨fun _ => trivial, fun _ => holds⟩
  | cons event events induction =>
      obtain ⟨next, stepped, rest⟩ := Option.bind_eq_some_iff.mp ran
      obtain ⟨isAllowed, othersAllowed⟩ := areAllowed
      have isAdmitted :=
        exactly state event next isWithin isAllowed holds stepped
      have later (stillHolds : property next) :=
        induction (othersAllowed next stepped) rest
          (kept _ _ _ isWithin isAllowed holds stillHolds stepped) stillHolds
      constructor
      · rintro ⟨-, throughout⟩
        have throughout := throughout next stepped
        exact .cons stepped (isAdmitted.mp throughout.start)
          ((later throughout.start).mp throughout)
      · rintro ⟨allowed, others⟩
        refine ⟨holds, fun other isNext => ?_⟩
        cases stepped.symm.trans isNext
        exact (later (isAdmitted.mpr allowed)).mpr (others next stepped)

/-- The simulation rule: if every admitted step is matched by at most one
step of an abstract machine, reachable states have reachable views. -/
theorem ReachableUnder.view
    {State' : Type*} {Event' : Type*} {abstract : Machine State' Event'}
    {admits : State → Event → Prop} (view : State → State')
    (start : ∀ state, machine.initial state → abstract.initial (view state))
    (simulated : ∀ before event after, machine.ReachableUnder admits before →
      admits before event → machine.step before event = some after →
      view after = view before ∨
        ∃ matching, abstract.step (view before) matching = some (view after))
    {state : State} (reached : machine.ReachableUnder admits state) :
    abstract.Reachable (view state) := by
  induction reached with
  | initial holds => exact .initial (start _ holds)
  | step earlier admitted stepped induction =>
      rcases simulated _ _ _ earlier admitted stepped with same | ⟨_, matched⟩
      · rw [same]
        exact induction
      · exact .step induction trivial matched

/-! ## Runs with their past -/

/-- The machine together with the steps it has taken, the last one first:
each by the state before it and its event. -/
def recording (machine : Machine State Event) :
    Machine (State × List (State × Event)) Event where
  initial recorded := machine.initial recorded.1 ∧ recorded.2 = []
  step recorded event := (machine.step recorded.1 event).map fun next =>
    (next, (recorded.1, event) :: recorded.2)

section

variable {recorded next : State × List (State × Event)} {event : Event}

theorem recording_step
    (stepped : machine.recording.step recorded event = some next) :
    machine.step recorded.1 event = some next.1 ∧
      next.2 = (recorded.1, event) :: recorded.2 := by
  obtain ⟨state, isNext, rfl⟩ := Option.map_eq_some_iff.mp stepped
  exact ⟨isNext, rfl⟩

theorem recording_of_step {state after : State}
    (stepped : machine.step state event = some after)
    (past : List (State × Event)) :
    machine.recording.step (state, past) event =
      some (after, (state, event) :: past) :=
  Option.map_eq_some_iff.mpr ⟨after, stepped, rfl⟩

theorem recording_run {state last : State} {events : List Event}
    (ran : machine.run state events = some last)
    (past : List (State × Event)) :
    ∃ whole, machine.recording.run (state, past) events =
      some (last, whole) := by
  induction events generalizing state past with
  | nil =>
      cases ran
      exact ⟨past, rfl⟩
  | cons event events induction =>
      obtain ⟨next, stepped, rest⟩ := Option.bind_eq_some_iff.mp ran
      obtain ⟨whole, isWhole⟩ := induction rest ((state, event) :: past)
      refine ⟨whole, ?_⟩
      rw [run_cons, recording_of_step stepped past]
      exact isWhole

/-- Recording changes nothing but what is recorded. -/
theorem reachable_of_recording {admits : _ → Event → Prop}
    (reached : machine.recording.ReachableUnder admits recorded) :
    machine.Reachable recorded.1 := by
  have start : ∀ recorded, machine.recording.initial recorded →
      machine.initial recorded.1 := fun _ isInitial => isInitial.1
  refine reached.view Prod.fst start ?_
  intro before event after _ _ stepped
  exact .inr ⟨event, (recording_step stepped).1⟩

theorem recording_throughout {property : State → Prop} {state : State}
    {events : List Event} (past : List (State × Event)) :
    machine.recording.Throughout (fun recorded => property recorded.1)
        (state, past) events ↔
      machine.Throughout property state events := by
  induction events generalizing state past with
  | nil => exact Iff.rfl
  | cons event events induction =>
      refine and_congr_right fun _ => ⟨fun later next stepped => ?_,
        fun later next stepped => ?_⟩
      · exact (induction _).mp (later _ (recording_of_step stepped past))
      · obtain ⟨isNext, isPast⟩ := recording_step stepped
        have same : next = (next.1, (state, event) :: past) :=
          Prod.ext rfl isPast
        rw [same]
        exact (induction _).mpr (later _ isNext)

end

/-! ## Runs that end -/

/-- A state that comes after another by an admitted step. -/
def Follows (machine : Machine State Event) (admits : State → Event → Prop)
    (after before : State) : Prop :=
  ∃ event, admits before event ∧ machine.step before event = some after

/-- From the state, admitted steps can go on forever. -/
def Endless (machine : Machine State Event) (admits : State → Event → Prop)
    (state : State) : Prop :=
  ∃ states : Nat → State, states 0 = state ∧
    ∀ index, machine.Follows admits (states (index + 1)) (states index)

/-- The rank rule: a rank that every admitted step lowers is reached by no
run that goes on forever. -/
theorem not_endless_of_rank {admits : State → Event → Prop}
    {Rank : Type*} {lower : Rank → Rank → Prop}
    (wellFounded : WellFounded lower) (within : State → Prop)
    (rank : State → Rank)
    (lowered : ∀ before event after, within before → admits before event →
      machine.step before event = some after →
      within after ∧ lower (rank after) (rank before))
    {state : State} (isWithin : within state) :
    ¬machine.Endless admits state := by
  rintro ⟨states, rfl, follows⟩
  -- from no point on with the given rank does the run go on
  have ends : ∀ value index, rank (states index) = value →
      ¬within (states index) := by
    intro value
    induction value using wellFounded.induction with
    | _ value induction =>
        rintro index rfl isWithin
        obtain ⟨event, admitted, stepped⟩ := follows index
        obtain ⟨stillWithin, isLower⟩ :=
          lowered _ event _ isWithin admitted stepped
        exact induction _ isLower (index + 1) rfl stillWithin
  exact ends _ 0 rfl isWithin

end Machine
