import Mathlib.Order.Defs.Unbundled

/-!
# Programs with state and exceptions

Rules for programs in `EStateM`: how a step of a program runs, and which
relations between the state before and the state after a program keeps.  An
exception leaves the state as it was when it was thrown, so a relation is
kept on the returning and on the throwing exit alike.
-/

namespace Effects

variable {Error State Result Result' : Type}

/-! ## Running a program -/

@[simp] theorem pure_run (result : Result) (state : State) :
    (pure result : EStateM Error State Result) state = .ok result state :=
  rfl

@[simp] theorem get_run (state : State) :
    (get : EStateM Error State State) state = .ok state state :=
  rfl

@[simp] theorem modify_run (change : State → State) (state : State) :
    (modify change : EStateM Error State PUnit) state =
      .ok () (change state) :=
  rfl

@[simp] theorem throw_run (error : Error) (state : State) :
    (throw error : EStateM Error State Result) state = .error error state :=
  rfl

theorem bind_run (first : EStateM Error State Result)
    (second : Result → EStateM Error State Result') (state : State) :
    (first >>= second) state =
      match first state with
      | .ok result next => second result next
      | .error error next => .error error next :=
  rfl

theorem bind_run_ok {first : EStateM Error State Result}
    {second : Result → EStateM Error State Result'}
    {state next : State} {result : Result}
    (returned : first state = .ok result next) :
    (first >>= second) state = second result next := by
  rw [bind_run, returned]

@[simp] theorem get_bind_run
    (second : State → EStateM Error State Result) (state : State) :
    (get >>= second) state = second state state :=
  rfl

@[simp] theorem modify_bind_run (change : State → State)
    (second : PUnit → EStateM Error State Result) (state : State) :
    (modify change >>= second) state = second ⟨⟩ (change state) :=
  rfl

/-- The state a program leaves, whether it returns or throws. -/
def after (program : EStateM Error State Result) (state : State) : State :=
  match program state with
  | .ok _ next => next
  | .error _ next => next

theorem after_eq_of_ok {program : EStateM Error State Result}
    {state next : State} {result : Result}
    (returned : program state = .ok result next) :
    after program state = next := by
  rw [after, returned]

theorem after_eq_of_error {program : EStateM Error State Result}
    {state next : State} {error : Error}
    (threw : program state = .error error next) :
    after program state = next := by
  rw [after, threw]

/-- Two programs that run alike leave the same state. -/
theorem after_congr {program : EStateM Error State Result}
    {program' : EStateM Error State Result} {state state' : State}
    (alike : program state = program' state') :
    after program state = after program' state' := by
  rw [after, alike, after]

/-! ## Relations a program keeps -/

/-- The relation of the programs that carry a property from the state before
to the state after. -/
def Carries (property : State → Prop) (before after : State) : Prop :=
  property before → property after

instance (property : State → Prop) :
    IsPreorder State (Carries property) where
  refl _ := id
  trans _ _ _ first second := second ∘ first

/-- The states before and after the program are related when it runs in
`state`. -/
def KeepsAt (relation : State → State → Prop)
    (program : EStateM Error State Result) (state : State) : Prop :=
  relation state (after program state)

/-- The states before and after the program are always related. -/
def Keeps (relation : State → State → Prop)
    (program : EStateM Error State Result) : Prop :=
  ∀ state, KeepsAt relation program state

section Rules

variable {relation : State → State → Prop}

namespace KeepsAt

theorem of_ok {program : EStateM Error State Result} {state next : State}
    {result : Result} (returned : program state = .ok result next)
    (related : relation state next) : KeepsAt relation program state := by
  rw [KeepsAt, after_eq_of_ok returned]
  exact related

theorem of_error {program : EStateM Error State Result} {state next : State}
    {error : Error} (threw : program state = .error error next)
    (related : relation state next) : KeepsAt relation program state := by
  rw [KeepsAt, after_eq_of_error threw]
  exact related

theorem get_bind {second : State → EStateM Error State Result}
    {state : State} (kept : KeepsAt relation (second state) state) :
    KeepsAt relation (get >>= second) state :=
  kept

theorem ite {condition : Prop} [Decidable condition]
    {positive negative : EStateM Error State Result} {state : State}
    (left : condition → KeepsAt relation positive state)
    (right : ¬condition → KeepsAt relation negative state) :
    KeepsAt relation (if condition then positive else negative) state := by
  by_cases holds : condition
  · simpa [holds] using left holds
  · simpa [holds] using right holds

variable [IsPreorder State relation]

theorem pure (result : Result) (state : State) :
    KeepsAt relation (Pure.pure result : EStateM Error State Result) state :=
  refl_of relation state

theorem throw (error : Error) (state : State) :
    KeepsAt relation
      (MonadExcept.throw error : EStateM Error State Result) state :=
  refl_of relation state

theorem bind {first : EStateM Error State Result}
    {second : Result → EStateM Error State Result'} {state : State}
    (left : KeepsAt relation first state)
    (right : ∀ result, Keeps relation (second result)) :
    KeepsAt relation (first >>= second) state := by
  unfold KeepsAt after at left ⊢
  rw [bind_run]
  cases outcome : first state with
  | error error next =>
      simp only [outcome] at left ⊢
      exact left
  | ok result next =>
      simp only [outcome] at left ⊢
      exact trans_of relation left (right result next)

theorem modify_bind {change : State → State}
    {second : PUnit → EStateM Error State Result} {state : State}
    (related : relation state (change state))
    (rest : KeepsAt relation (second ⟨⟩) (change state)) :
    KeepsAt relation (modify change >>= second) state :=
  trans_of relation related rest

/-- The second program may use what the first one does to the state. -/
theorem bind_of {leads : State → State → Prop}
    {first : EStateM Error State Result}
    {second : Result → EStateM Error State Result'} {state : State}
    (left : KeepsAt relation first state) (led : KeepsAt leads first state)
    (right : ∀ result next, leads state next →
      KeepsAt relation (second result) next) :
    KeepsAt relation (first >>= second) state := by
  unfold KeepsAt after at left led ⊢
  rw [bind_run]
  cases outcome : first state with
  | error error next =>
      simp only [outcome] at left ⊢
      exact left
  | ok result next =>
      simp only [outcome] at left led ⊢
      exact trans_of relation left (right result next led)

end KeepsAt

/-- Two programs whose relations compose to a third one. -/
theorem KeepsAt.compose {leads follows composed : State → State → Prop}
    {first : EStateM Error State Result}
    {second : Result → EStateM Error State Result'} {state : State}
    (left : KeepsAt leads first state)
    (right : ∀ result, Keeps follows (second result))
    (stops : ∀ next, leads state next → composed state next)
    (both : ∀ next last, leads state next → follows next last →
      composed state last) :
    KeepsAt composed (first >>= second) state := by
  unfold KeepsAt after at left ⊢
  rw [bind_run]
  cases outcome : first state with
  | error error next =>
      simp only [outcome] at left ⊢
      exact stops next left
  | ok result next =>
      simp only [outcome] at left ⊢
      exact both next _ left (right result next)

namespace Keeps

theorem modify {change : State → State}
    (related : ∀ state, relation state (change state)) :
    Keeps relation (modify change : EStateM Error State PUnit) :=
  related

theorem ite {condition : Prop} [Decidable condition]
    {positive negative : EStateM Error State Result}
    (left : condition → Keeps relation positive)
    (right : ¬condition → Keeps relation negative) :
    Keeps relation (if condition then positive else negative) :=
  fun state => .ite (fun holds => left holds state)
    fun fails => right fails state

variable [IsPreorder State relation]

theorem pure (result : Result) :
    Keeps relation (Pure.pure result : EStateM Error State Result) :=
  fun state => KeepsAt.pure result state

theorem get : Keeps relation (MonadState.get : EStateM Error State State) :=
  fun state => refl_of relation state

theorem throw (error : Error) :
    Keeps relation (MonadExcept.throw error : EStateM Error State Result) :=
  fun state => KeepsAt.throw error state

theorem bind {first : EStateM Error State Result}
    {second : Result → EStateM Error State Result'}
    (left : Keeps relation first)
    (right : ∀ result, Keeps relation (second result)) :
    Keeps relation (first >>= second) :=
  fun state => .bind (left state) right

end Keeps

end Rules

end Effects
