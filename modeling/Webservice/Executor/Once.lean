import Mathlib.Data.List.Infix
import Webservice.Executor.Blocking

/-!
# Shutting an executor down

However many threads call `shutdown()`, and whenever they do, `shutdown_fn_`
runs once, and no call returns before it has run.
-/

namespace Webservice

namespace Executor

variable {State Event : Type} {hosted : Hosted State Event Exception}
  {shutdownFn : List (ShutdownAction Event)} {guards threadCount : Nat}
  {executor next : Executor State Event} {event : ExecutorEvent Event}

/-- Calls that run `shutdown_fn_`. -/
def executing (calls : List OnceCall) : Nat :=
  calls.countP fun call => call.stage.isExecuting

/-- How far `shutdown_fn_` has come. -/
structure Once (shutdownFn : List (ShutdownAction Event))
    (executor : Executor State Event) : Prop where
  /-- One call runs it, until the flag is set. -/
  single : executing executor.shutdowns ≤ if executor.flag then 0 else 1
  fresh : executor.flag = false → executing executor.shutdowns = 0 →
    executor.acted = []
  partly : ∀ call ∈ executor.shutdowns, ∀ done,
    call.stage = .executing done → executor.acted = shutdownFn.take done
  whole : executor.flag = true → executor.acted = shutdownFn
  returned : ∀ call ∈ executor.shutdowns, call.stage = .returned →
    executor.flag = true

theorem executing_set {calls : List OnceCall} {index : Nat} {call : OnceCall}
    (found : calls[index]? = some call) (stage : OnceStage) :
    executing (calls.set index { call with stage := stage }) +
        call.stage.isExecuting.toNat =
      executing calls + stage.isExecuting.toNat :=
  Lists.countP_set found { call with stage := stage }
    fun call => call.stage.isExecuting

/-- Nobody runs `shutdown_fn_`. -/
theorem executing_eq_zero {calls : List OnceCall}
    (free : ∀ call ∈ calls, call.stage.isExecuting = false) :
    executing calls = 0 :=
  List.countP_eq_zero.mpr fun call isCall => by simp [free call isCall]

theorem executing_pos {calls : List OnceCall} {call : OnceCall} {done : Nat}
    (isCall : call ∈ calls) (stage : call.stage = .executing done) :
    0 < executing calls :=
  List.countP_pos_iff.mpr ⟨call, isCall, by rw [stage]; rfl⟩

/-- Where one call runs `shutdown_fn_`, all others wait or have returned. -/
theorem executing_others {calls : List OnceCall} {index : Nat}
    {call other : OnceCall} {done : Nat} (single : executing calls ≤ 1)
    (found : calls[index]? = some call)
    (stage : call.stage = .executing done) {later : OnceStage}
    (isOther : other ∈ calls.set index { call with stage := later })
    {otherDone : Nat} (otherStage : other.stage = .executing otherDone) :
    later = .executing otherDone := by
  by_contra different
  have moved := executing_set found (.returned)
  have counted := executing_set found later
  obtain ⟨bound, -⟩ := List.getElem?_eq_some_iff.mp found
  obtain ⟨position, isThere⟩ := List.mem_iff_getElem?.mp isOther
  by_cases same : index = position
  · subst same
    rw [List.getElem?_set_self bound] at isThere
    cases isThere
    exact different otherStage
  · rw [List.getElem?_set_ne same] at isThere
    have stillThere : (calls.set index { call with stage := .returned
        })[position]? = some other :=
      (List.getElem?_set_ne same).trans isThere
    have some_other :=
      executing_pos (List.mem_of_getElem? stillThere) otherStage
    rw [stage] at moved
    simp only [OnceStage.isExecuting, Bool.toNat_true, Bool.toNat_false]
      at moved
    omega

/-- A call of `shutdown()` comes. -/
theorem Once.shuts (once : executor.Once shutdownFn) (caller : Option Nat) :
    Once shutdownFn { executor with
      shutdowns := executor.shutdowns ++ [⟨caller, .calling⟩] } := by
  have same : executing (executor.shutdowns ++ [⟨caller, .calling⟩]) =
      executing executor.shutdowns := by
    simp [executing, OnceStage.isExecuting]
  constructor
  · rw [same]
    exact once.single
  · intro notSet
    rw [same]
    exact once.fresh notSet
  · intro call isCall done isStage
    rcases List.mem_append.mp isCall with old | isNew
    · exact once.partly call old done isStage
    · cases List.mem_singleton.mp isNew
      cases isStage
  · exact once.whole
  · intro call isCall isReturned
    rcases List.mem_append.mp isCall with old | isNew
    · exact once.returned call old isReturned
    · cases List.mem_singleton.mp isNew
      cases isReturned

/-- A call finds that `shutdown_fn_` has run. -/
theorem Once.findsFlag (once : executor.Once shutdownFn) {index : Nat}
    {call : OnceCall} (found : executor.shutdowns[index]? = some call)
    (stage : call.stage = .calling) (flag : executor.flag = true) :
    (executor.setShutdown index call .returned).Once shutdownFn := by
  have counted := executing_set found .returned
  rw [stage] at counted
  have single := once.single
  rw [flag, if_pos rfl] at single
  constructor
  · show executing (executor.shutdowns.set index _) ≤ _
    simp only [setShutdown, flag, if_true]
    simp only [OnceStage.isExecuting, Bool.toNat_false] at counted
    omega
  · exact fun notSet => absurd (flag.symm.trans notSet) (by simp)
  · intro other isOther done isStage
    rcases List.mem_or_eq_of_mem_set isOther with old | rfl
    · exact once.partly other old done isStage
    · cases isStage
  · exact once.whole
  · exact fun _ _ _ => flag

/-- A call begins to run `shutdown_fn_`. -/
theorem Once.executes (once : executor.Once shutdownFn) {index : Nat}
    {call : OnceCall} (found : executor.shutdowns[index]? = some call)
    (stage : call.stage = .calling) (notSet : executor.flag = false)
    (free : ∀ other ∈ executor.shutdowns, other.stage.isExecuting = false) :
    (executor.setShutdown index call (.executing 0)).Once shutdownFn := by
  have idle := executing_eq_zero free
  have counted := executing_set found (.executing 0)
  rw [stage, idle] at counted
  simp only [OnceStage.isExecuting, Bool.toNat_false,
    Bool.toNat_true] at counted
  constructor
  · show executing (executor.shutdowns.set index _) ≤ _
    simp only [setShutdown, notSet, Bool.false_eq_true, if_false]
    omega
  · intro _ none_executing
    have none_left : executing (executor.shutdowns.set index
        { call with stage := .executing 0 }) = 0 := none_executing
    omega
  · intro other isOther done isStage
    rcases List.mem_or_eq_of_mem_set isOther with old | rfl
    · have notExecuting := free other old
      rw [isStage] at notExecuting
      cases notExecuting
    · cases isStage
      exact once.fresh notSet idle
  · exact fun flag => absurd (notSet.symm.trans flag) (by simp)
  · intro other isOther isReturned
    rcases List.mem_or_eq_of_mem_set isOther with old | rfl
    · exact once.returned other old isReturned
    · cases isReturned

/-- One action of `shutdown_fn_` is done. -/
theorem Once.acts (once : executor.Once shutdownFn) {index done : Nat}
    {call : OnceCall} {action : ShutdownAction Event}
    (found : executor.shutdowns[index]? = some call)
    (stage : call.stage = .executing done)
    (isAction : shutdownFn[done]? = some action)
    (pool : WorkerPool State Event Exception) :
    Once shutdownFn
      { executor.setShutdown index call (.executing (done + 1)) with
        pool := pool
        acted := executor.acted ++ [action] } := by
  have isCall := List.mem_of_getElem? found
  have some_executing := executing_pos isCall stage
  have single := once.single
  have notSet : executor.flag = false := by
    by_contra isSet
    rw [Bool.not_eq_false] at isSet
    rw [isSet, if_pos rfl] at single
    omega
  rw [notSet, if_neg Bool.false_ne_true] at single
  have counted := executing_set found (.executing (done + 1))
  rw [stage] at counted
  simp only [OnceStage.isExecuting, Bool.toNat_true] at counted
  have done_so_far := once.partly call isCall done stage
  constructor
  · show executing (executor.shutdowns.set index _) ≤ _
    simp only [setShutdown, notSet, Bool.false_eq_true, if_false]
    omega
  · intro _ none_executing
    have none_left : executing (executor.shutdowns.set index
        { call with stage := .executing (done + 1) }) = 0 :=
      none_executing
    omega
  · intro other isOther otherDone isStage
    have same := executing_others single found stage isOther isStage
    cases same
    have bound := (List.getElem?_eq_some_iff.mp isAction).1
    rw [List.take_add_one, isAction, ← done_so_far]
    rfl
  · exact fun flag => absurd (notSet.symm.trans flag) (by simp)
  · intro other isOther isReturned
    rcases List.mem_or_eq_of_mem_set isOther with old | rfl
    · exact once.returned other old isReturned
    · cases isReturned

/-- `shutdown_fn_` has run to its end. -/
theorem Once.setsFlag (once : executor.Once shutdownFn) {index done : Nat}
    {call : OnceCall} (found : executor.shutdowns[index]? = some call)
    (stage : call.stage = .executing done)
    (atEnd : shutdownFn[done]? = none) :
    Once shutdownFn { executor.setShutdown index call .returned with
      flag := true } := by
  have isCall := List.mem_of_getElem? found
  have single := once.single
  have most : executing executor.shutdowns ≤ 1 := by
    cases isSet : executor.flag <;> simp [isSet] at single <;> omega
  have counted := executing_set found .returned
  rw [stage] at counted
  simp only [OnceStage.isExecuting, Bool.toNat_true,
    Bool.toNat_false] at counted
  constructor
  · show executing (executor.shutdowns.set index _) ≤ 0
    omega
  · intro notSet
    cases notSet
  · intro other isOther otherDone isStage
    have same := executing_others most found stage isOther isStage
    cases same
  · intro _
    refine (once.partly call isCall done stage).trans ?_
    exact List.take_of_length_le (List.getElem?_eq_none_iff.mp atEnd)
  · exact fun _ _ _ => rfl

theorem Does.once (does : Does hosted shutdownFn executor event next)
    (once : executor.Once shutdownFn) : next.Once shutdownFn := by
  cases does with
  | shuts _ => exact once.shuts _
  | findsFlag found stage flag => exact once.findsFlag found stage flag
  | executes found stage notSet free =>
      exact once.executes found stage notSet free
  | acts found stage isAction _ => exact once.acts found stage isAction _
  | setsFlag found stage atEnd => exact once.setsFlag found stage atEnd
  | _ => exact ⟨once.single, once.fresh, once.partly, once.whole,
      once.returned⟩

theorem once_of_reachable
    {admits : Executor State Event → ExecutorEvent Event → Prop}
    (reached : (executorMachine hosted shutdownFn guards
      threadCount).ReachableUnder admits executor) :
    executor.Once shutdownFn := by
  apply reached.invariant (Once shutdownFn)
  · rintro _ ⟨program, -, rfl⟩
    constructor <;> simp [constructed, executing]
  · intro before event after once _ stepped
    exact (step_does stepped).2.once once

/-- What has been done of `shutdown_fn_` is its beginning. -/
theorem Once.begins (once : executor.Once shutdownFn) :
    executor.acted <+: shutdownFn := by
  cases isSet : executor.flag with
  | true => rw [once.whole isSet]
  | false =>
      by_cases idle : executing executor.shutdowns = 0
      · rw [once.fresh isSet idle]
        exact List.nil_prefix
      · obtain ⟨call, isCall, isExecuting⟩ :=
          List.countP_pos_iff.mp (Nat.pos_of_ne_zero idle)
        cases stage : call.stage with
        | executing done =>
            rw [once.partly call isCall done stage]
            exact List.take_prefix _ _
        | calling =>
            rw [stage] at isExecuting
            cases isExecuting
        | returned =>
            rw [stage] at isExecuting
            cases isExecuting

/-- Only `shutdown_fn_` gives up a work guard. -/
theorem guards_of_reachable
    {admits : Executor State Event → ExecutorEvent Event → Prop}
    (reached : (executorMachine hosted shutdownFn guards
      threadCount).ReachableUnder admits executor) :
    .resetWork ∉ executor.acted → executor.pool.guards = guards := by
  apply reached.invariant fun executor =>
    .resetWork ∉ executor.acted → executor.pool.guards = guards
  · rintro _ ⟨program, -, rfl⟩ _
    rfl
  · intro before event after same _ stepped kept
    cases (step_does stepped).2 with
    | starts _ spawns =>
        exact (WorkerPool.step_guards (by simp) spawns).trans (same kept)
    | works may taken =>
        refine (WorkerPool.step_guards ?_ taken).trans (same kept)
        rintro rfl
        cases may
    | @acts index done call action pool _ _ _ acts =>
        have earlier : .resetWork ∉ before.acted := fun isThere =>
          kept (List.mem_append_left _ isThere)
        cases action with
        | call event =>
            have called : before.pool.step hosted (.call event) =
              some pool := acts
            exact (WorkerPool.step_guards (by simp) called).trans
              (same earlier)
        | resetWork =>
            exact absurd (List.mem_append_right _ (List.mem_singleton_self _))
              kept
    | _ => exact same kept

end Executor

end Webservice
