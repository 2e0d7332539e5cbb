import Mathlib.Data.List.Induction
import Webservice.Handler.State
import Webservice.Library.CallLog
import Webservice.Library.Machine

/-!
# The lifecycle of a handler

The calls of `shutdown()`, `shutdown_finished()` and `make_lock()` of a
`ws_handler_interface`, taken one at a time, and the locks that its
operations release.  The log of the calls tells what each of them has to do.
-/

namespace Webservice

inductive LifecycleOp (Fn : Type) where
  | shutdown
  /-- `shutdown(fn)` -/
  | shutdownWith (fn : Fn)
  | shutdownFinished
  | makeLock
  /-- An operation releases its lock. -/
  | release

/-- A call and what came of it. -/
structure LifecycleCall (Fn : Type) where
  op : LifecycleOp Fn
  /-- `on_shutdown()` was called. -/
  onShutdown : Bool
  threw : Bool
  /-- The callbacks that were invoked. -/
  invoked : List Fn

structure HandlerLifecycle (Fn : Type) where
  base : WsHandlerInterface
  /-- The callback of `locker_`. -/
  callback : Option Fn
  /-- Locks that operations hold. -/
  others : Nat
  calls : List (LifecycleCall Fn)

namespace HandlerLifecycle

variable {Fn : Type}

def constructed : HandlerLifecycle Fn :=
  { base := .constructed, callback := none, others := 0, calls := [] }

def log (handler : HandlerLifecycle Fn) (call : LifecycleCall Fn) :
    HandlerLifecycle Fn :=
  { handler with calls := handler.calls ++ [call] }

/-- What the locker invokes when its count goes from that of `before` to that
of `after`. -/
def invokes (handler : HandlerLifecycle Fn) (after : AsyncLocker) : List Fn :=
  if handler.base.locker.callbacks < after.callbacks then
    handler.callback.toList
  else []

/-- `shutdown()`, as part of `op`. -/
def shutdownBy (handler : HandlerLifecycle Fn) (op : LifecycleOp Fn) :
    HandlerLifecycle Fn :=
  { handler with base := handler.base.shutdown }.log
    { op := op
      onShutdown := !handler.base.shutdownLock && handler.base.runLock
      threw := false
      invoked := [] }

def step (handler : HandlerLifecycle Fn) :
    LifecycleOp Fn → Option (HandlerLifecycle Fn)
  | .shutdown => some (handler.shutdownBy .shutdown)
  | .shutdownWith fn =>
      some ({ handler with callback := some fn }.shutdownBy (.shutdownWith fn))
  | .shutdownFinished =>
      match handler.base.shutdownFinished with
      | .ok base => some ({ handler with base := base }.log
          { op := .shutdownFinished
            onShutdown := false
            threw := false
            invoked := handler.invokes base.locker })
      | .error _ => some (handler.log
          { op := .shutdownFinished
            onShutdown := false
            threw := true
            invoked := [] })
  | .makeLock =>
      match handler.base.locker.makeLock with
      | .ok locker =>
          some ({ handler with
            base := { handler.base with locker := locker }
            others := handler.others + 1 }.log
              { op := .makeLock
                onShutdown := false
                threw := false
                invoked := [] })
      | .error _ => some (handler.log
          { op := .makeLock
            onShutdown := false
            threw := true
            invoked := [] })
  | .release =>
      if 0 < handler.others then
        some ({ handler with
          base := { handler.base with locker := handler.base.locker.unlock }
          others := handler.others - 1 }.log
            { op := .release
              onShutdown := false
              threw := false
              invoked := handler.invokes handler.base.locker.unlock })
      else none

end HandlerLifecycle

def lifecycleMachine (Fn : Type) :
    Machine (HandlerLifecycle Fn) (LifecycleOp Fn) where
  initial handler := handler = .constructed
  step := HandlerLifecycle.step

/-! ## What the log tells -/

namespace LifecycleCall

variable {Fn : Type}

/-- A call of `shutdown()`, with or without a callback. -/
def shuts (call : LifecycleCall Fn) : Bool :=
  match call.op with
  | .shutdown => true
  | .shutdownWith _ => true
  | _ => false

/-- A call of `shutdown_finished()` that succeeded. -/
def finishes (call : LifecycleCall Fn) : Bool :=
  match call.op with
  | .shutdownFinished => !call.threw
  | _ => false

/-- A call of `make_lock()` that succeeded. -/
def acquires (call : LifecycleCall Fn) : Bool :=
  match call.op with
  | .makeLock => !call.threw
  | _ => false

def releases (call : LifecycleCall Fn) : Bool :=
  match call.op with
  | .release => true
  | _ => false

/-- The callback that the call registers. -/
def registers? (call : LifecycleCall Fn) : Option Fn :=
  match call.op with
  | .shutdownWith fn => some fn
  | _ => none

end LifecycleCall

namespace LifecycleLog

variable {Fn : Type}

def shut (calls : List (LifecycleCall Fn)) : Bool :=
  calls.any LifecycleCall.shuts

def finished (calls : List (LifecycleCall Fn)) : Bool :=
  calls.any LifecycleCall.finishes

/-- Locks made and not released. -/
def live (calls : List (LifecycleCall Fn)) : Nat :=
  calls.countP LifecycleCall.acquires - calls.countP LifecycleCall.releases

/-- The callback registered last. -/
def registered (calls : List (LifecycleCall Fn)) : Option Fn :=
  (calls.filterMap LifecycleCall.registers?).getLast?

/-- The shutdown has finished and the last lock is released. -/
def drained (calls : List (LifecycleCall Fn)) : Bool :=
  finished calls && live calls == 0

/-- What a call has to do after the calls before it. -/
structure Expected (before : List (LifecycleCall Fn))
    (call : LifecycleCall Fn) : Prop where
  /-- The first shutdown, and no other call, calls `on_shutdown()`. -/
  onShutdown : call.onShutdown = (call.shuts && !shut before)
  /-- `shutdown_finished()` succeeds once, after a shutdown. -/
  finishes : call.finishes = true →
    shut before = true ∧ finished before = false
  refuses : call.op = .shutdownFinished → call.threw = true →
    shut before = false ∨ finished before = true
  /-- `make_lock()` succeeds as long as the shutdown has not finished or some
  lock is live. -/
  acquires : call.op = .makeLock →
    (call.threw = false ↔ finished before = false ∨ 0 < live before)
  /-- The callback registered last is invoked where the shutdown has finished
  and the last lock is released, and nowhere else. -/
  invoked : call.invoked =
    if drained (before ++ [call]) && !drained before then
      (registered before).toList
    else []

@[simp] theorem shut_concat (calls : List (LifecycleCall Fn))
    (call : LifecycleCall Fn) :
    shut (calls ++ [call]) = (shut calls || call.shuts) := by
  simp [shut]

@[simp] theorem finished_concat (calls : List (LifecycleCall Fn))
    (call : LifecycleCall Fn) :
    finished (calls ++ [call]) = (finished calls || call.finishes) := by
  simp [finished]

@[simp] theorem registered_concat (calls : List (LifecycleCall Fn))
    (call : LifecycleCall Fn) :
    registered (calls ++ [call]) =
      call.registers?.or (registered calls) := by
  cases isRegistered : call.registers? with
  | none => simp [registered, isRegistered]
  | some fn => simp [registered, isRegistered]

/-- Once the last lock is released there is never a lock again. -/
theorem Expected.drained {before : List (LifecycleCall Fn)}
    {call : LifecycleCall Fn} (isExpected : Expected before call)
    (isDrained : LifecycleLog.drained before = true) :
    LifecycleLog.drained (before ++ [call]) = true := by
  simp only [LifecycleLog.drained, Bool.and_eq_true, beq_iff_eq]
    at isDrained ⊢
  obtain ⟨finished, none⟩ := isDrained
  have acquiresNone : call.acquires = false := by
    rw [LifecycleCall.acquires]
    split
    · next isMakeLock =>
        have refused := isExpected.acquires isMakeLock
        simp only [finished, none] at refused
        simpa using refused
    · rfl
  constructor
  · simp [finished]
  · rw [live] at none ⊢
    simp only [List.countP_append, List.countP_singleton, acquiresNone]
    simp only [Bool.false_eq_true, if_false, Nat.add_zero]
    omega

/-- At most one callback is invoked, and none before the last lock is
released. -/
theorem invoked_length_le {calls : List (LifecycleCall Fn)}
    (each : CallLog.Each Expected calls) :
    (calls.flatMap LifecycleCall.invoked).length ≤ (drained calls).toNat := by
  induction calls using List.reverseRecOn with
  | nil => simp
  | append_singleton before call induction =>
      obtain ⟨eachBefore, isExpected⟩ := CallLog.each_concat_iff.mp each
      have earlier := induction eachBefore
      rw [List.flatMap_append, List.length_append, List.flatMap_singleton,
        isExpected.invoked]
      cases isDrained : drained before with
      | true =>
          rw [isExpected.drained isDrained]
          simpa [isDrained] using earlier
      | false =>
          rw [isDrained] at earlier
          rw [Nat.le_zero.mp earlier, Nat.zero_add]
          cases drained (before ++ [call]) with
          | false => simp
          | true => cases registered before <;> simp

end LifecycleLog

namespace HandlerLifecycle

variable {Fn : Type} {handler : HandlerLifecycle Fn}

/-- Where the token is, and how many locks there are besides it, by the
log. -/
structure Linked (handler : HandlerLifecycle Fn) : Prop where
  runLock : handler.base.runLock = !LifecycleLog.shut handler.calls
  shutdownLock : handler.base.shutdownLock =
    (LifecycleLog.shut handler.calls && !LifecycleLog.finished handler.calls)
  finished : LifecycleLog.finished handler.calls = true →
    LifecycleLog.shut handler.calls = true
  lockCount : handler.base.locker.lockCount =
    handler.others + (!LifecycleLog.finished handler.calls).toNat
  latched : handler.base.locker.Latched
  others : handler.calls.countP LifecycleCall.acquires =
    handler.others + handler.calls.countP LifecycleCall.releases
  callback : handler.callback = LifecycleLog.registered handler.calls

theorem constructed_linked : (constructed : HandlerLifecycle Fn).Linked := by
  constructor <;> simp [constructed, WsHandlerInterface.constructed,
    LifecycleLog.shut, LifecycleLog.finished, LifecycleLog.registered,
    AsyncLocker.Latched, AsyncLocker.constructed]

theorem Linked.live (linked : handler.Linked) :
    LifecycleLog.live handler.calls = handler.others := by
  rw [LifecycleLog.live, linked.others, Nat.add_sub_cancel]

/-- The log tells when nobody holds a lock any more. -/
theorem Linked.drained (linked : handler.Linked) :
    LifecycleLog.drained handler.calls =
      (handler.base.locker.lockCount == 0) := by
  have lockCount := linked.lockCount
  rw [LifecycleLog.drained, linked.live]
  cases finished : LifecycleLog.finished handler.calls with
  | false =>
      rw [finished] at lockCount
      simp [lockCount]
  | true =>
      rw [finished] at lockCount
      simp [lockCount]

/-- The callback is invoked where the last lock is released. -/
theorem invokes_unlock :
    handler.invokes handler.base.locker.unlock =
      if handler.base.locker.lockCount = 1 then handler.callback.toList
      else [] := by
  rw [invokes, AsyncLocker.unlock]
  split
  · simp
  · simp

/-! ## Calls -/

/-- A call that appends itself to the log as it is expected there. -/
structure Calls (handler next : HandlerLifecycle Fn)
    (op : LifecycleOp Fn) : Prop where
  linked : next.Linked
  logged : ∃ call, call.op = op ∧ next.calls = handler.calls ++ [call] ∧
    LifecycleLog.Expected handler.calls call

/-- The callbacks are the expected ones if they are invoked just where the
count of the locker falls to zero. -/
theorem Linked.invoked {next : HandlerLifecycle Fn} {call : LifecycleCall Fn}
    (linked : handler.Linked) (after : next.Linked)
    (logged : next.calls = handler.calls ++ [call])
    (invoked : call.invoked =
      if next.base.locker.lockCount = 0 ∧ handler.base.locker.lockCount ≠ 0
      then handler.callback.toList else []) :
    call.invoked =
      if LifecycleLog.drained (handler.calls ++ [call]) &&
        !LifecycleLog.drained handler.calls
      then (LifecycleLog.registered handler.calls).toList else [] := by
  rw [invoked, ← logged, after.drained, linked.drained, linked.callback]
  simp

/-- `shutdown()` moves the token from `run_lock_`, if it is there. -/
theorem Linked.shutdown (linked : handler.Linked) :
    handler.base.shutdown =
      { handler.base with
        runLock := false
        shutdownLock := !LifecycleLog.finished handler.calls } := by
  have runLock := linked.runLock
  have shutdownLock := linked.shutdownLock
  have finished := linked.finished
  rw [WsHandlerInterface.shutdown]
  cases shut : LifecycleLog.shut handler.calls with
  | false =>
      have unfinished : LifecycleLog.finished handler.calls = false := by
        simpa [shut] using finished
      simp [shutdownLock, runLock, shut, unfinished]
  | true =>
      cases ended : LifecycleLog.finished handler.calls with
      | false =>
          have stays : handler.base.shutdownLock = true := by
            rw [shutdownLock, shut, ended]
            rfl
          rw [shut] at runLock
          rw [if_pos stays]
          calc
            handler.base =
                { handler.base with
                  runLock := handler.base.runLock
                  shutdownLock := handler.base.shutdownLock } := rfl
            _ = _ := by rw [runLock, stays]; rfl
      | true => simp [shutdownLock, runLock, shut, ended]

theorem Linked.onShutdown (linked : handler.Linked) :
    (!handler.base.shutdownLock && handler.base.runLock) =
      !LifecycleLog.shut handler.calls := by
  rw [linked.shutdownLock, linked.runLock]
  cases LifecycleLog.shut handler.calls <;> simp

theorem Linked.shutdownBy (linked : handler.Linked) :
    Calls handler (handler.shutdownBy .shutdown) .shutdown := by
  have next : (handler.shutdownBy .shutdown).Linked := by
    constructor <;> simp [HandlerLifecycle.shutdownBy, log, linked.shutdown,
      LifecycleCall.shuts, LifecycleCall.finishes, LifecycleCall.acquires,
      LifecycleCall.releases, LifecycleCall.registers?, linked.lockCount,
      linked.others, linked.callback, linked.latched]
  refine ⟨next, _, rfl, rfl, ?_⟩
  constructor
  · simp [LifecycleCall.shuts, linked.onShutdown]
  · simp [LifecycleCall.finishes]
  · simp
  · simp
  · apply linked.invoked next rfl
    simp [HandlerLifecycle.shutdownBy, log, linked.shutdown]

theorem Linked.shutdownWith (linked : handler.Linked) (fn : Fn) :
    Calls handler
      ({ handler with callback := some fn }.shutdownBy (.shutdownWith fn))
      (.shutdownWith fn) := by
  have next : ({ handler with callback := some fn }.shutdownBy
      (.shutdownWith fn)).Linked := by
    constructor <;> simp [HandlerLifecycle.shutdownBy, log, linked.shutdown,
      LifecycleCall.shuts, LifecycleCall.finishes, LifecycleCall.acquires,
      LifecycleCall.releases, LifecycleCall.registers?, linked.lockCount,
      linked.others, linked.latched]
  refine ⟨next, _, rfl, rfl, ?_⟩
  constructor
  · simp [LifecycleCall.shuts, linked.onShutdown]
  · simp [LifecycleCall.finishes]
  · simp
  · simp
  · apply linked.invoked next rfl
    simp [HandlerLifecycle.shutdownBy, log, linked.shutdown]

/-- A call that was refused leaves everything but the log as it was. -/
theorem Linked.refused (linked : handler.Linked) {op : LifecycleOp Fn}
    (isRefused : op = .shutdownFinished ∧
        (LifecycleLog.shut handler.calls = false ∨
          LifecycleLog.finished handler.calls = true) ∨
      op = .makeLock ∧ LifecycleLog.finished handler.calls = true ∧
        handler.others = 0) :
    Calls handler (handler.log
      { op := op, onShutdown := false, threw := true, invoked := [] }) op := by
  have next : (handler.log
      { op := op, onShutdown := false, threw := true,
        invoked := [] }).Linked := by
    rcases isRefused with ⟨rfl, -⟩ | ⟨rfl, -⟩ <;> constructor
    case inl.finished | inr.finished =>
      simpa [log, LifecycleCall.shuts, LifecycleCall.finishes] using
        linked.finished
    all_goals simp [log, LifecycleCall.shuts, LifecycleCall.finishes,
      LifecycleCall.acquires, LifecycleCall.releases,
      LifecycleCall.registers?, linked.lockCount, linked.others,
      linked.callback, linked.latched, linked.runLock, linked.shutdownLock]
  refine ⟨next, _, rfl, rfl, ?_⟩
  constructor
  · rcases isRefused with ⟨rfl, -⟩ | ⟨rfl, -⟩ <;> simp [LifecycleCall.shuts]
  · rcases isRefused with ⟨rfl, -⟩ | ⟨rfl, -⟩ <;>
      simp [LifecycleCall.finishes]
  · rcases isRefused with ⟨rfl, early⟩ | ⟨rfl, -⟩
    · exact fun _ _ => early
    · simp
  · rcases isRefused with ⟨rfl, -⟩ | ⟨rfl, finished, alone⟩
    · simp
    · simp [finished, linked.live, alone]
  · apply linked.invoked next rfl
    simp [log]

theorem Linked.shutdownFinished (linked : handler.Linked)
    {next : HandlerLifecycle Fn}
    (stepped : handler.step .shutdownFinished = some next) :
    Calls handler next .shutdownFinished := by
  rw [step, WsHandlerInterface.shutdownFinished] at stepped
  have runLock := linked.runLock
  have shutdownLock := linked.shutdownLock
  cases shut : LifecycleLog.shut handler.calls with
  | false =>
      simp only [runLock, shut, Bool.not_false, if_true] at stepped
      cases stepped
      exact linked.refused (.inl ⟨rfl, .inl shut⟩)
  | true =>
      cases finished : LifecycleLog.finished handler.calls with
      | true =>
          simp [runLock, shutdownLock, shut, finished] at stepped
          cases stepped
          exact linked.refused (.inl ⟨rfl, .inr finished⟩)
      | false =>
          simp [runLock, shutdownLock, shut, finished] at stepped
          have lockCount := linked.lockCount
          rw [finished] at lockCount
          have held : 0 < handler.base.locker.lockCount := by
            rw [lockCount]
            simp
          have linkedNext : next.Linked := by
            subst stepped
            constructor
            case latched => exact linked.latched.unlock held
            all_goals simp [log, LifecycleCall.shuts,
              LifecycleCall.finishes, LifecycleCall.acquires,
              LifecycleCall.releases, LifecycleCall.registers?, lockCount,
              linked.others, linked.callback, shut, AsyncLocker.unlock]
          subst stepped
          refine ⟨linkedNext, _, rfl, rfl, ?_⟩
          constructor
          · simp [LifecycleCall.shuts]
          · exact fun _ => ⟨shut, finished⟩
          · simp
          · simp
          · apply linked.invoked linkedNext rfl
            rw [invokes_unlock]
            simp [log, AsyncLocker.unlock, lockCount]

theorem Linked.makeLock (linked : handler.Linked)
    {next : HandlerLifecycle Fn}
    (stepped : handler.step .makeLock = some next) :
    Calls handler next .makeLock := by
  rw [step] at stepped
  have lockCount := linked.lockCount
  rcases Nat.eq_zero_or_pos handler.base.locker.lockCount with none | held
  · rw [AsyncLocker.makeLock_of_zero none] at stepped
    rw [lockCount, Nat.add_eq_zero_iff, Bool.toNat_eq_zero,
      Bool.not_eq_false'] at none
    cases stepped
    exact linked.refused (.inr ⟨rfl, none.2, none.1⟩)
  · rw [AsyncLocker.makeLock_of_pos held] at stepped
    have linkedNext : next.Linked := by
      cases stepped
      constructor
      case latched => exact linked.latched.acquired held
      case finished =>
        simpa [log, LifecycleCall.shuts, LifecycleCall.finishes] using
          linked.finished
      all_goals simp [log, LifecycleCall.shuts, LifecycleCall.finishes,
        LifecycleCall.acquires, LifecycleCall.releases,
        LifecycleCall.registers?, lockCount, linked.others, linked.callback,
        linked.runLock, linked.shutdownLock, Nat.add_right_comm]
    cases stepped
    refine ⟨linkedNext, _, rfl, rfl, ?_⟩
    constructor
    · simp [LifecycleCall.shuts]
    · simp [LifecycleCall.finishes]
    · simp
    · intro _
      rw [lockCount] at held
      simp only [linked.live, true_iff]
      cases finished : LifecycleLog.finished handler.calls with
      | false => exact .inl rfl
      | true => simpa [finished] using held
    · apply linked.invoked linkedNext rfl
      simp [log]

theorem Linked.release (linked : handler.Linked)
    {next : HandlerLifecycle Fn}
    (stepped : handler.step .release = some next) :
    Calls handler next .release := by
  rw [step] at stepped
  obtain ⟨some_left, isNext⟩ := Option.ite_none_right_eq_some.mp stepped
  have lockCount := linked.lockCount
  have held : 0 < handler.base.locker.lockCount := by omega
  have linkedNext : next.Linked := by
    cases isNext
    constructor
    case latched => exact linked.latched.unlock held
    case finished =>
      simpa [log, LifecycleCall.shuts, LifecycleCall.finishes] using
        linked.finished
    case lockCount =>
      simp [log, LifecycleCall.finishes, AsyncLocker.unlock, lockCount]
      omega
    case others =>
      simp [log, LifecycleCall.acquires, LifecycleCall.releases,
        linked.others]
      omega
    all_goals simp [log, LifecycleCall.shuts, LifecycleCall.finishes,
      LifecycleCall.registers?, linked.callback, linked.runLock,
      linked.shutdownLock]
  cases isNext
  refine ⟨linkedNext, _, rfl, rfl, ?_⟩
  constructor
  · simp [LifecycleCall.shuts]
  · simp [LifecycleCall.finishes]
  · simp
  · simp
  · apply linked.invoked linkedNext rfl
    rw [invokes_unlock]
    have last : handler.base.locker.lockCount = 1 ↔
        handler.base.locker.lockCount - 1 = 0 ∧
          handler.base.locker.lockCount ≠ 0 := by
      omega
    simp [log, AsyncLocker.unlock, last]

theorem Linked.calls (linked : handler.Linked) {op : LifecycleOp Fn}
    {next : HandlerLifecycle Fn} (stepped : handler.step op = some next) :
    Calls handler next op := by
  cases op with
  | shutdown =>
      cases stepped
      exact linked.shutdownBy
  | shutdownWith fn =>
      cases stepped
      exact linked.shutdownWith fn
  | shutdownFinished => exact linked.shutdownFinished stepped
  | makeLock => exact linked.makeLock stepped
  | release => exact linked.release stepped

/-! ## Runs -/

theorem reachable_linked
    (reached : (lifecycleMachine Fn).Reachable handler) :
    handler.Linked ∧ CallLog.Each LifecycleLog.Expected handler.calls := by
  apply reached.invariant fun handler =>
    handler.Linked ∧ CallLog.Each LifecycleLog.Expected handler.calls
  · rintro _ rfl
    exact ⟨constructed_linked, CallLog.each_nil⟩
  · rintro before op after ⟨linked, each⟩ - stepped
    obtain ⟨next, call, -, logged, isExpected⟩ := linked.calls stepped
    refine ⟨next, ?_⟩
    rw [logged]
    exact each.concat isExpected

/-- A call of `shutdown_finished()` that throws leaves the members as they
are. -/
theorem step_threw {next : HandlerLifecycle Fn} {call : LifecycleCall Fn}
    (stepped : handler.step .shutdownFinished = some next)
    (logged : next.calls = handler.calls ++ [call])
    (threw : call.threw = true) : next = handler.log call := by
  rw [step] at stepped
  split at stepped
  · cases stepped
    have same := (List.append_inj' logged rfl).2
    cases same
    cases threw
  · cases stepped
    have same := (List.append_inj' logged rfl).2
    cases same
    rfl

/-- Every call on a handler does what the calls before it tell, and no
callback is invoked but once. -/
theorem lifecycle (reached : (lifecycleMachine Fn).Reachable handler) :
    CallLog.Each LifecycleLog.Expected handler.calls ∧
      (handler.calls.flatMap LifecycleCall.invoked).length ≤ 1 ∧
      handler.base.isShutdown = LifecycleLog.shut handler.calls ∧
      ∀ op next, handler.step op = some next →
        (handler.base.isShutdown = true → next.base.isShutdown = true) ∧
        ∃ call, call.op = op ∧ next.calls = handler.calls ++ [call] ∧
          (op = .shutdownFinished → call.threw = true →
            next = handler.log call) := by
  have ⟨linked, each⟩ := reachable_linked reached
  have isShutdown : handler.base.isShutdown =
      LifecycleLog.shut handler.calls := by
    rw [WsHandlerInterface.isShutdown, linked.runLock, Bool.not_not]
  refine ⟨each, ?_, isShutdown, fun op next stepped => ?_⟩
  · exact (LifecycleLog.invoked_length_le each).trans (Bool.toNat_le _)
  · obtain ⟨linkedNext, call, isOp, logged, -⟩ := linked.calls stepped
    constructor
    · intro before
      rw [isShutdown] at before
      rw [WsHandlerInterface.isShutdown, linkedNext.runLock, Bool.not_not,
        logged, LifecycleLog.shut_concat, before, Bool.true_or]
    · refine ⟨call, isOp, logged, fun finishes threw => ?_⟩
      subst finishes
      exact step_threw stepped logged threw

/-- An operation outlives the shutdown, and calls come too early, twice and
too late. -/
def oneOperation : List (LifecycleOp Nat) :=
  [.makeLock, .shutdownFinished, .shutdownWith 1, .shutdownWith 2,
    .shutdownFinished, .makeLock, .release, .shutdownFinished, .release,
    .makeLock, .shutdownWith 3]

theorem lifecycle_one_operation :
    ∃ handler, (lifecycleMachine Nat).run .constructed oneOperation =
        some handler ∧
      handler.calls.map LifecycleCall.invoked =
        [[], [], [], [], [], [], [], [], [2], [], []] ∧
      CallLog.Each LifecycleLog.Expected handler.calls ∧
      (handler.calls.flatMap LifecycleCall.invoked).length ≤ 1 := by
  have ran : ∃ handler, (lifecycleMachine Nat).run .constructed oneOperation =
      some handler ∧ handler.calls.map LifecycleCall.invoked =
        [[], [], [], [], [], [], [], [], [2], [], []] :=
    ⟨_, rfl, rfl⟩
  obtain ⟨handler, ran, invoked⟩ := ran
  have expected := lifecycle (Machine.reachable_of_run rfl ran)
  exact ⟨handler, ran, invoked, expected.1, expected.2.1⟩

end HandlerLifecycle

end Webservice
