import Webservice.Library.Lists
import Webservice.Library.Machine
import Webservice.Locker.AsyncLocker

/-!
# The lock objects of an `async_locker`

Objects of `async_locker::lock` are constructed, moved, unlocked and
destroyed, one operation at a time.  The count of the locker is the number of
locked objects as long as no object that is locked is assigned to.
-/

namespace Webservice.Locker

/-- What an operation did: whether the callback was invoked, and whether the
number of locked objects fell from one to zero. -/
structure LockTurn where
  calledBack : Bool
  emptied : Bool
  deriving DecidableEq

/-- One locker and the lock objects that are alive. -/
structure GuardedLocker where
  locker : AsyncLocker
  /-- `is_locked()` of each lock object. -/
  locks : List Bool
  turns : List LockTurn
  deriving DecidableEq

/-- Lock objects are named by their places among those that are alive. -/
inductive LockOp where
  | construct
  | makeFirstLock
  | makeLock
  | moveConstruct (source : Nat)
  | moveAssign (target source : Nat)
  | unlock (lock : Nat)
  | destroy (lock : Nat)
  deriving DecidableEq

namespace GuardedLocker

def constructed : GuardedLocker :=
  { locker := .constructed, locks := [], turns := [] }

/-- How many lock objects are locked. -/
def locked (guards : GuardedLocker) : Nat := guards.locks.count true

/-- The pointer of a lock object was taken; it is released if it was set. -/
def released (guards : GuardedLocker) (isLocked : Bool)
    (locks : List Bool) : GuardedLocker :=
  { guards with
    locker := if isLocked then guards.locker.unlock else guards.locker
    locks := locks }

def perform (guards : GuardedLocker) : LockOp → Option GuardedLocker
  | .construct => some { guards with locks := guards.locks ++ [false] }
  | .makeFirstLock =>
      match guards.locker.makeFirstLock with
      | .ok locker =>
          some { guards with locker := locker, locks := guards.locks ++ [true] }
      | .error _ => some guards
  | .makeLock =>
      match guards.locker.makeLock with
      | .ok locker =>
          some { guards with locker := locker, locks := guards.locks ++ [true] }
      | .error _ => some guards
  | .moveConstruct source =>
      guards.locks[source]?.map fun isLocked =>
        { guards with locks := guards.locks.set source false ++ [isLocked] }
  | .moveAssign target source =>
      guards.locks[target]?.bind fun _ =>
        guards.locks[source]?.map fun isLocked =>
          -- the pointer that was in the target is overwritten
          { guards with
            locks := (guards.locks.set source false).set target isLocked }
  | .unlock lock =>
      guards.locks[lock]?.map fun isLocked =>
        guards.released isLocked (guards.locks.set lock false)
  | .destroy lock =>
      guards.locks[lock]?.map fun isLocked =>
        guards.released isLocked (guards.locks.eraseIdx lock)

def step (guards : GuardedLocker) (op : LockOp) : Option GuardedLocker :=
  (guards.perform op).map fun next =>
    { next with turns := guards.turns ++
        [{ calledBack := guards.locker.callbacks < next.locker.callbacks
           emptied := guards.locked = 1 ∧ next.locked = 0 }] }

end GuardedLocker

def lockMachine : Machine GuardedLocker LockOp where
  initial guards := guards = .constructed
  step := GuardedLocker.step

namespace GuardedLocker

/-- The operation assigns to a lock object that is locked, other than the
source. -/
def Overwrites (guards : GuardedLocker) : LockOp → Prop
  | .moveAssign target source =>
      target ≠ source ∧ guards.locks[target]? = some true
  | _ => False

instance (guards : GuardedLocker) :
    (op : LockOp) → Decidable (guards.Overwrites op)
  | .moveAssign _ _ => inferInstanceAs (Decidable (_ ∧ _))
  | .construct => inferInstanceAs (Decidable False)
  | .makeFirstLock => inferInstanceAs (Decidable False)
  | .makeLock => inferInstanceAs (Decidable False)
  | .moveConstruct _ => inferInstanceAs (Decidable False)
  | .unlock _ => inferInstanceAs (Decidable False)
  | .destroy _ => inferInstanceAs (Decidable False)

/-! ## Counting locked objects -/

/-- The number of locked objects after a move from one object to another:
what was in the target is lost. -/
theorem count_moveAssign {locks : List Bool} {target source : Nat}
    {overwritten isLocked : Bool}
    (atTarget : locks[target]? = some overwritten)
    (atSource : locks[source]? = some isLocked) :
    ((locks.set source false).set target isLocked).count true +
        (if target = source then 0 else overwritten.toNat) =
      locks.count true := by
  have taken := Lists.count_set atSource false true
  by_cases same : target = source
  · subst same
    have isTaken : (locks.set target false)[target]? = some false := by
      rw [List.getElem?_set_self (List.getElem?_eq_some_iff.mp atTarget).1]
    have put := Lists.count_set isTaken isLocked true
    rw [if_pos rfl]
    simp only [Bool.decide_eq_true, Bool.toNat_false] at taken put
    omega
  · have untouched : (locks.set source false)[target]? = some overwritten := by
      rw [List.getElem?_set_ne (Ne.symm same)]
      exact atTarget
    have put := Lists.count_set untouched isLocked true
    rw [if_neg same]
    simp only [Bool.decide_eq_true, Bool.toNat_false] at taken put
    omega

/-! ## What an operation does to the count -/

variable {guards next : GuardedLocker} {op : LockOp}

/-- A locked object leaves the one and the count. -/
theorem released_balance {isLocked : Bool} {locks : List Bool}
    (within : guards.locked ≤ guards.locker.lockCount)
    (fewer : locks.count true + isLocked.toNat = guards.locked) :
    (guards.released isLocked locks).locker.lockCount + guards.locked =
      guards.locker.lockCount + (guards.released isLocked locks).locked := by
  cases isLocked with
  | false => simp_all [released, locked]
  | true =>
      simp only [released, locked, AsyncLocker.unlock, Bool.toNat_true,
        if_true] at *
      omega

/-- Only an assignment to a locked object changes how many counts have no
object. -/
theorem perform_balance
    (within : guards.locked ≤ guards.locker.lockCount)
    (performed : guards.perform op = some next) :
    next.locker.lockCount + guards.locked =
      guards.locker.lockCount + next.locked +
        if guards.Overwrites op then 1 else 0 := by
  cases op with
  | construct =>
      cases performed
      simp [Overwrites, locked]
  | makeFirstLock =>
      simp only [perform, AsyncLocker.makeFirstLock] at performed
      by_cases unused : guards.locker.lockCount = 0
      · rw [if_pos unused] at performed
        cases performed
        simp [Overwrites, locked, unused]
        omega
      · rw [if_neg unused] at performed
        cases performed
        simp [Overwrites]
  | makeLock =>
      simp only [perform, AsyncLocker.makeLock] at performed
      by_cases drained : guards.locker.lockCount = 0
      · rw [if_pos drained] at performed
        cases performed
        simp [Overwrites]
      · rw [if_neg drained] at performed
        cases performed
        simp [Overwrites, locked]
        omega
  | moveConstruct source =>
      obtain ⟨isLocked, found, rfl⟩ := Option.map_eq_some_iff.mp performed
      have taken := Lists.count_set found false true
      simp only [Overwrites, locked, List.count_append] at *
      cases isLocked <;> simp at taken ⊢ <;> omega
  | moveAssign target source =>
      obtain ⟨overwritten, atTarget, performed⟩ :=
        Option.bind_eq_some_iff.mp performed
      obtain ⟨isLocked, atSource, rfl⟩ := Option.map_eq_some_iff.mp performed
      have moved := count_moveAssign atTarget atSource
      simp only [Overwrites, atTarget, locked] at *
      by_cases same : target = source
      · simp [same] at moved ⊢
        omega
      · cases overwritten <;> simp [same] at moved ⊢ <;> omega
  | unlock lock =>
      obtain ⟨isLocked, found, rfl⟩ := Option.map_eq_some_iff.mp performed
      have taken := Lists.count_set found false true
      simp only [Bool.decide_eq_true, Bool.toNat_false] at taken
      exact released_balance within taken
  | destroy lock =>
      obtain ⟨isLocked, found, rfl⟩ := Option.map_eq_some_iff.mp performed
      have taken := Lists.count_eraseIdx found true
      simp only [Bool.decide_eq_true] at taken
      exact released_balance within taken

/-- The callback is invoked where the last locked object is released. -/
theorem perform_calledBack (counted : guards.locker.lockCount = guards.locked)
    (clean : ¬guards.Overwrites op)
    (performed : guards.perform op = some next) :
    guards.locker.callbacks < next.locker.callbacks ↔
      guards.locked = 1 ∧ next.locked = 0 := by
  have balance := perform_balance (Nat.le_of_eq counted.symm) performed
  rw [if_neg clean] at balance
  have released : ∀ {isLocked : Bool} {locks : List Bool},
      locks.count true + isLocked.toNat = guards.locked →
      (guards.locker.callbacks <
          (guards.released isLocked locks).locker.callbacks ↔
        guards.locked = 1 ∧ (guards.released isLocked locks).locked = 0) := by
    intro isLocked locks fewer
    cases isLocked with
    | false => simp_all [GuardedLocker.released, locked]
    | true =>
        simp only [GuardedLocker.released, locked, AsyncLocker.unlock, counted,
          Bool.toNat_true, if_true] at *
        by_cases last : guards.locks.count true = 1
        · rw [if_pos last]
          omega
        · rw [if_neg last]
          omega
  have quiet : next.locker = guards.locker ∨
      guards.locker.lockCount < next.locker.lockCount ∧
        next.locker.callbacks = guards.locker.callbacks →
      (guards.locker.callbacks < next.locker.callbacks ↔
        guards.locked = 1 ∧ next.locked = 0) := by
    rintro (same | ⟨more, same⟩)
    · rw [same] at balance ⊢
      omega
    · omega
  cases op with
  | construct =>
      cases performed
      exact quiet (.inl rfl)
  | makeFirstLock =>
      simp only [perform, AsyncLocker.makeFirstLock] at performed
      by_cases unused : guards.locker.lockCount = 0
      · rw [if_pos unused] at performed
        cases performed
        exact quiet (.inr ⟨by simp [unused], rfl⟩)
      · rw [if_neg unused] at performed
        cases performed
        exact quiet (.inl rfl)
  | makeLock =>
      simp only [perform, AsyncLocker.makeLock] at performed
      by_cases drained : guards.locker.lockCount = 0
      · rw [if_pos drained] at performed
        cases performed
        exact quiet (.inl rfl)
      · rw [if_neg drained] at performed
        cases performed
        exact quiet (.inr ⟨Nat.lt_succ_self _, rfl⟩)
  | moveConstruct source =>
      obtain ⟨isLocked, found, rfl⟩ := Option.map_eq_some_iff.mp performed
      exact quiet (.inl rfl)
  | moveAssign target source =>
      obtain ⟨overwritten, atTarget, performed⟩ :=
        Option.bind_eq_some_iff.mp performed
      obtain ⟨isLocked, atSource, rfl⟩ := Option.map_eq_some_iff.mp performed
      exact quiet (.inl rfl)
  | unlock lock =>
      obtain ⟨isLocked, found, rfl⟩ := Option.map_eq_some_iff.mp performed
      have taken := Lists.count_set found false true
      simp only [Bool.decide_eq_true, Bool.toNat_false] at taken
      exact released taken
  | destroy lock =>
      obtain ⟨isLocked, found, rfl⟩ := Option.map_eq_some_iff.mp performed
      have taken := Lists.count_eraseIdx found true
      simp only [Bool.decide_eq_true] at taken
      exact released taken

/-! ## Every run -/

/-- The count is the number of locked objects, and the callback was invoked
exactly where that number fell from one to zero. -/
def Accounted (guards : GuardedLocker) : Prop :=
  guards.locker.lockCount = guards.locked ∧
    ∀ turn ∈ guards.turns, turn.calledBack = turn.emptied

theorem step_eq_some (stepped : guards.step op = some next) :
    ∃ performed, guards.perform op = some performed ∧
      next = { performed with turns := guards.turns ++
        [{ calledBack := guards.locker.callbacks < performed.locker.callbacks
           emptied := guards.locked = 1 ∧ performed.locked = 0 }] } := by
  obtain ⟨performed, isPerformed, rfl⟩ := Option.map_eq_some_iff.mp stepped
  exact ⟨performed, isPerformed, rfl⟩

/-- No object is locked without a count. -/
theorem locked_le_of_reachable (reached : lockMachine.Reachable guards) :
    guards.locked ≤ guards.locker.lockCount := by
  refine reached.invariant (fun guards =>
    guards.locked ≤ guards.locker.lockCount) ?_ ?_
  · rintro _ rfl
    exact Nat.le_refl 0
  · intro before op after within _ stepped
    obtain ⟨performed, isPerformed, rfl⟩ := step_eq_some stepped
    have balance := perform_balance within isPerformed
    show performed.locked ≤ performed.locker.lockCount
    omega

/-- An operation keeps the account just when it overwrites no locked
object. -/
theorem step_accounted (reached : lockMachine.Reachable guards)
    (stepped : guards.step op = some next) :
    next.Accounted ↔ guards.Accounted ∧ ¬guards.Overwrites op := by
  have within := locked_le_of_reachable reached
  obtain ⟨performed, isPerformed, rfl⟩ := step_eq_some stepped
  have balance := perform_balance within isPerformed
  simp only [Accounted, List.forall_mem_append, List.forall_mem_singleton]
  show performed.locker.lockCount = performed.locked ∧ _ ∧ _ ↔ _
  constructor
  · rintro ⟨counted, turns, -⟩
    by_cases overwrites : guards.Overwrites op
    · rw [if_pos overwrites] at balance
      omega
    · rw [if_neg overwrites] at balance
      exact ⟨⟨by omega, turns⟩, overwrites⟩
  · rintro ⟨⟨counted, turns⟩, clean⟩
    have calledBack := perform_calledBack counted clean isPerformed
    rw [if_neg clean] at balance
    exact ⟨by omega, turns, decide_eq_decide.mpr calledBack⟩

/-- The count is the number of locked objects, and the callback comes exactly
where that number falls from one to zero, in exactly the runs where no locked
object is assigned to. -/
theorem accounted_iff {ops : List LockOp}
    (ran : lockMachine.run .constructed ops = some guards) :
    (guards.locker.lockCount = guards.locked ∧
        ∀ turn ∈ guards.turns, turn.calledBack = turn.emptied) ↔
      lockMachine.Admitted (fun before op => ¬before.Overwrites op)
        .constructed ops := by
  have start : lockMachine.Reachable .constructed := .initial rfl
  have exactly := Machine.run_iff_admitted Accounted
    (fun before op after => step_accounted) start ran
  refine exactly.trans ⟨And.right, fun admitted => ⟨⟨rfl, ?_⟩, admitted⟩⟩
  intro turn isTurn
  cases isTurn

/-- A lock moves from the first lock object to another and is released. -/
theorem accounted_moved_lock :
    ∃ guards, lockMachine.run .constructed
        [.makeFirstLock, .construct, .moveAssign 1 0, .moveAssign 1 1,
          .unlock 0, .destroy 1] = some guards ∧
      guards.locker.callbacks = 1 ∧
      lockMachine.Admitted (fun before op => ¬before.Overwrites op)
        .constructed
        [.makeFirstLock, .construct, .moveAssign 1 0, .moveAssign 1 1,
          .unlock 0, .destroy 1] := by
  have ran : lockMachine.run .constructed
      [.makeFirstLock, .construct, .moveAssign 1 0, .moveAssign 1 1,
        .unlock 0, .destroy 1] = some _ := rfl
  exact ⟨_, ran, rfl, (accounted_iff ran).mp ⟨rfl, by decide⟩⟩

/-- A locked object is overwritten: its count is never given back. -/
theorem not_accounted_overwritten :
    ∃ guards, lockMachine.run .constructed
        [.makeFirstLock, .makeLock, .moveAssign 0 1, .destroy 1,
          .destroy 0] = some guards ∧
      guards.locks = [] ∧ guards.locker = ⟨1, 0⟩ ∧
      ¬(guards.locker.lockCount = guards.locked ∧
        ∀ turn ∈ guards.turns, turn.calledBack = turn.emptied) := by
  refine ⟨_, rfl, rfl, rfl, ?_⟩
  rintro ⟨counted, -⟩
  cases counted

end GuardedLocker

end Webservice.Locker
