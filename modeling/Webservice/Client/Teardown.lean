import Webservice.Client.Step
import Webservice.Executor.Once
import Webservice.Service.Settling

/-!
# Tearing a client down

The destructor of a client calls `shutdown()` and `block()`.  The work guard
is given up after `shutdown()` of the service has deferred its job, so the
threads run that job and everything that follows from it before they leave.
-/

namespace Webservice

/-! ## Calls of `shutdown()` go on by themselves -/

namespace WsService

section

variable {Value : Type} {service next : WsService Value}

/-- The calls of `shutdown()` under way, and whether one has begun. -/
def calls (service : WsService Value) : List ShutdownCall × Bool :=
  (service.callers, service.runLock)

theorem toStage_calls (stage : Stage) :
    (service.toStage stage).calls = service.calls := by
  unfold toStage
  split <;> rfl

theorem put_calls (locker : AsyncLocker) (job : ServiceJob Value)
    (inline : Bool) :
    (service.put locker job inline).calls = service.calls := by
  cases inline <;> rfl

theorem putNoexcept_calls (job : ServiceJob Value) (inline : Bool) :
    (service.putNoexcept job inline).calls = service.calls := by
  unfold putNoexcept
  split
  · exact put_calls _ _ _
  · rfl

theorem shutdownFinished_calls :
    service.shutdownFinished.calls = service.calls := by
  unfold shutdownFinished
  simp only
  split
  · rfl
  · split <;> rfl

theorem stepSession_calls {address : Nat} {event : SessionEvent}
    {inline : Bool}
    (stepped : service.stepSession address event inline = some next) :
    next.calls = service.calls := by
  unfold stepSession at stepped
  split at stepped
  · cases stepped
  · obtain ⟨session, -, rfl⟩ := Option.map_eq_some_iff.mp stepped
    split
    · exact putNoexcept_calls _ _
    · rfl

theorem callSession_calls {target : WsIdentifier} {job : StrandJob}
    {loop : Option Loop}
    (called : service.callSession target job loop = some next) :
    next.calls = service.calls := by
  obtain ⟨between, stepped, rfl⟩ := Option.map_eq_some_iff.mp called
  exact (toStage_calls _).trans (stepSession_calls stepped)

theorem startLoop_calls : service.startLoop.calls = service.calls := by
  unfold startLoop
  split <;> exact toStage_calls _

theorem admitConnect_calls : service.admitConnect.calls = service.calls := by
  unfold admitConnect
  split <;> exact toStage_calls _

theorem actOn_calls {identifier : WsIdentifier}
    {act : WsService Value → Node Value → Option (WsService Value)}
    (silent : ∀ service node, act service node = some next →
      next.calls = service.calls)
    (acted : service.actOn identifier act = some next) :
    next.calls = service.calls := by
  unfold actOn at acted
  split at acted
  · cases acted
    exact toStage_calls _
  · exact (silent _ _ acted).trans rfl

theorem begin_calls {job : ServiceJob Value}
    (begun : service.begin job = some next) : next.calls = service.calls := by
  cases job with
  | send identifier isText data =>
      simp only [begin] at begun
      exact actOn_calls (fun _ _ => callSession_calls) begun
  | close identifier reason =>
      simp only [begin] at begun
      exact actOn_calls (fun _ _ => callSession_calls) begun
  | modifyValue identifier fn =>
      simp only [begin] at begun
      refine actOn_calls (fun service node acted => ?_) begun
      split at acted <;>
      · cases acted
        exact toStage_calls _
  | sendIf fn isText data =>
      cases begun
      exact startLoop_calls
  | closeIf fn reason =>
      cases begun
      exact startLoop_calls
  | onShutdown =>
      simp only [begin] at begun
      split at begun
      · cases begun
        exact (toStage_calls _).trans shutdownFinished_calls
      · cases begun
        exact startLoop_calls
  | onErase identifier =>
      simp only [begin] at begun
      split at begun <;>
      · cases begun
        exact toStage_calls _
  | serverConnect value =>
      cases begun
      exact admitConnect_calls
  | clientConnect value =>
      cases begun
      exact admitConnect_calls

theorem visitIf_calls {fn : UnaryFunction Value} {node : Node Value}
    {loop : Loop} {job : StrandJob}
    (visited : service.visitIf fn node loop job = some next) :
    next.calls = service.calls := by
  unfold visitIf at visited
  simp only at visited
  split at visited
  · exact (callSession_calls visited).trans rfl
  · cases visited
    exact toStage_calls _
  · cases visited
    exact toStage_calls _

theorem visit_calls {job : ServiceJob Value} {loop : Loop}
    (visited : service.visit job loop = some next) :
    next.calls = service.calls := by
  unfold visit at visited
  split at visited
  · cases visited
  · simp only at visited
    split at visited
    · exact visitIf_calls visited
    · exact visitIf_calls visited
    · exact callSession_calls visited
    · cases visited

theorem advance_calls {job : ServiceJob Value} {loop : Loop}
    (advanced : service.advance job loop = some next) :
    next.calls = service.calls := by
  unfold advance at advanced
  split at advanced
  · cases advanced
  · split at advanced
    · cases advanced
      exact toStage_calls _
    · simp only at advanced
      split at advanced <;>
      · cases advanced
        exact toStage_calls _

theorem eraseEntry_calls {identifier : WsIdentifier}
    (erased : service.eraseEntry identifier = some next) :
    next.calls = service.calls := by
  unfold eraseEntry at erased
  split at erased
  · cases erased
  · cases erased
    exact toStage_calls _

theorem conclude_calls : service.conclude.calls = service.calls := by
  unfold conclude
  split
  · exact (toStage_calls _).trans shutdownFinished_calls
  · exact toStage_calls _

theorem emplace_calls {address : Nat} {role : Role} {value : Value}
    (emplaced : service.emplace address role value = some next) :
    next.calls = service.calls := by
  unfold emplace at emplaced
  split at emplaced
  · cases emplaced
  · cases emplaced
    exact toStage_calls _

theorem work_calls {rest : List (Activation Value)} {job : ServiceJob Value}
    {stage : Stage} {event : ServiceEvent Value}
    (worked : service.work rest job stage event = some next) :
    next.calls = service.calls := by
  unfold work at worked
  split at worked
  · exact begin_calls worked
  · exact visit_calls worked
  · cases worked
    exact toStage_calls _
  · obtain ⟨between, stepped, rfl⟩ := Option.map_eq_some_iff.mp worked
    exact (toStage_calls _).trans (stepSession_calls stepped)
  · exact (stepSession_calls worked).trans (toStage_calls _)
  · exact advance_calls worked
  · exact (stepSession_calls worked).trans (toStage_calls _)
  · split at worked
    · exact eraseEntry_calls worked
    · cases worked
  · cases worked
    exact conclude_calls
  · split at worked
    · exact emplace_calls worked
    · exact emplace_calls worked
    · cases worked
  · cases worked
    exact toStage_calls _
  · cases worked
    rfl
  · cases worked

/-- Only calls of `shutdown()` take steps of their own. -/
theorem step_calls {event : ServiceEvent Value}
    (notCall : event ≠ .callShutdown)
    (notStep : ∀ index, event ≠ .shutdownStep index)
    (stepped : service.step event = some next) :
    next.calls = service.calls := by
  unfold step at stepped
  split at stepped
  · cases stepped
  split at stepped
  · split at stepped
    · split at stepped
      · cases stepped
        exact put_calls _ _ _
      · cases stepped
        rfl
    · cases stepped
  · exact absurd rfl notCall
  · exact absurd rfl (notStep _)
  · split at stepped
    · exact stepSession_calls stepped
    · cases stepped
  · split at stepped
    · cases stepped
      rfl
    · cases stepped
  · split at stepped
    · cases stepped
    · exact work_calls stepped

end

end WsService

/-! ## The shutdown of a client -/

theorem Executor.act_resetWork {State Event : Type}
    {hosted : Hosted State Event Exception}
    {pool next : WorkerPool State Event Exception}
    (acts : act hosted pool .resetWork = some next) :
    next = pool ∨ pool.step hosted .release = some next := by
  cases released : pool.step hosted .release with
  | none =>
      rw [act, released] at acts
      exact .inl (Option.some.inj acts).symm
  | some after =>
      rw [act, released] at acts
      exact .inr acts

section

variable {Value : Type} {threadCount : Nat}

namespace ClientExecutor

/-- How far `shutdown()` of the service has come when `shutdown_fn_` has done
as many steps. -/
inductive Announces : Nat → List ShutdownCall × Bool → Prop where
  | running : Announces 0 ([], true)
  | entered : Announces 1 ([.exchanging], true)
  | taken : Announces 2 ([.storing true], false)
  | stored : Announces 3 ([.testing], false)
  | announced : Announces 4 ([.deferring], false)
  | deferred {done : Nat} : 4 ≤ done → Announces done ([], false)

/-- A service that has not been called keeps no lock for the shutdown. -/
theorem unlocked_of_running {service : WsService Value}
    (regular : service.registry.Regular) (calls : service.calls = ([], true)) :
    service.shutdownLock = false := by
  obtain ⟨callers, runLock⟩ := Prod.mk.inj calls
  obtain ⟨phase, isPhase⟩ := regular.protocol
  have isCallers : service.callers = phase.protocol.callers :=
    congrArg ShutdownProtocol.callers isPhase
  have isRunning : service.runLock = phase.protocol.runLock :=
    congrArg ShutdownProtocol.runLock isPhase
  have lock : service.shutdownLock = phase.protocol.shutdownLock :=
    congrArg ShutdownProtocol.shutdownLock isPhase
  rw [callers] at isCallers
  rw [runLock] at isRunning
  rw [lock]
  cases phase <;> simp [ShutdownProtocol.Phase.protocol]
    at isCallers isRunning ⊢

theorem Announces.act {service next : WsService Value} {done : Nat}
    {event : ServiceEvent Value} (announces : Announces done service.calls)
    (regular : service.registry.Regular)
    (isNext : clientShutdownFn[done]? = some (.call event))
    (stepped : service.step event = some next) :
    Announces (done + 1) next.calls := by
  have alive : service.terminated = false := regular.alive
  unfold WsService.step at stepped
  rw [alive, if_neg Bool.false_ne_true] at stepped
  generalize isCalls : service.calls = calls at announces
  cases announces with
  | running =>
      cases isNext
      have unlocked := unlocked_of_running regular isCalls
      obtain ⟨callers, runLock⟩ := Prod.mk.inj isCalls
      simp only [unlocked, Bool.false_eq_true, if_false] at stepped
      cases stepped
      simp only [WsService.calls, callers, runLock]
      exact .entered
  | entered =>
      cases isNext
      obtain ⟨callers, runLock⟩ := Prod.mk.inj isCalls
      simp only [WsService.shutdownStep, callers] at stepped
      cases stepped
      simp only [WsService.calls, runLock]
      exact .taken
  | taken =>
      cases isNext
      obtain ⟨callers, runLock⟩ := Prod.mk.inj isCalls
      simp only [WsService.shutdownStep, callers] at stepped
      cases stepped
      simp only [WsService.calls, runLock]
      exact .stored
  | stored =>
      cases isNext
      obtain ⟨callers, runLock⟩ := Prod.mk.inj isCalls
      simp only [WsService.shutdownStep, callers,
        List.getElem?_cons_zero] at stepped
      split at stepped
      · cases stepped
        simp only [WsService.calls, runLock]
        exact .announced
      · cases stepped
        simp only [WsService.calls, runLock]
        exact .deferred (Nat.le_refl 4)
  | announced =>
      cases isNext
      obtain ⟨callers, runLock⟩ := Prod.mk.inj isCalls
      simp only [WsService.shutdownStep, callers] at stepped
      cases stepped
      have kept : service.onShutdown.calls = service.calls :=
        WsService.putNoexcept_calls _ _
      have runLock : service.onShutdown.runLock = false :=
        (congrArg Prod.snd kept).trans runLock
      simp only [WsService.calls, runLock]
      exact .deferred (Nat.le_succ 4)
  | deferred late =>
      obtain ⟨callers, runLock⟩ := Prod.mk.inj isCalls
      obtain ⟨more, rfl⟩ := Nat.exists_eq_add_of_le' late
      cases more with
      | zero =>
          cases isNext
          simp only [WsService.shutdownStep, callers] at stepped
          cases stepped
      | succ more => cases more <;> cases isNext

theorem Announces.idle {done : Nat} {calls : List ShutdownCall × Bool}
    (announces : Announces done calls)
    (isNext : (clientShutdownFn : List (ShutdownAction (ServiceEvent
      Value)))[done]? = some (.call .callShutdown)) : calls.1 = [] := by
  cases announces with
  | running => rfl
  | deferred late => rfl
  | _ => cases isNext

theorem Announces.over {done : Nat} {calls : List ShutdownCall × Bool}
    (announces : Announces done calls) (late : 5 ≤ done) :
    calls = ([], false) := by
  cases announces with
  | deferred _ => rfl
  | _ => omega

/-- The user does not call `shutdown()` of the service. -/
def UserCalls (_ : Executor (WsService Value) (ServiceEvent Value)) :
    ExecutorEvent (ServiceEvent Value) → Prop
  | .pool (.call .callShutdown) => False
  | .pool (.call (.shutdownStep _)) => False
  | _ => True

/-- What a client keeps to when `shutdown_fn_` has done as many steps. -/
structure Shuts (done : Nat)
    (pool : WorkerPool (WsService Value) (ServiceEvent Value) Exception) :
    Prop where
  service : (serviceMachine Value).ReachableUnder WsService.NoOverlap
    pool.program
  announces : Announces done pool.program.calls
  /-- The work guard is given up in the last step. -/
  guarded : done < 6 → pool.guards = 1

theorem notCall_of_isHandler {event : ServiceEvent Value}
    (isHandler : event.isHandler = true) :
    event ≠ .callShutdown ∧ ∀ index, event ≠ .shutdownStep index := by
  constructor
  · rintro rfl
    cases isHandler
  · rintro index rfl
    cases isHandler

section

variable {executor : Executor (WsService Value) (ServiceEvent Value)}
  {pool next : WorkerPool (WsService Value) (ServiceEvent Value) Exception}
  {done : Nat}

/-- What the pool does by itself. -/
theorem Shuts.turns (shuts : Shuts done pool)
    {event : PoolEvent (ServiceEvent Value)} (notRelease : event ≠ .release)
    (notCall : event ≠ .call .callShutdown)
    (notStep : ∀ index, event ≠ .call (.shutdownStep index))
    (stepped : pool.step (WsService.hosted Value) event = some next) :
    Shuts done next := by
  have taken : ∀ {event : ServiceEvent Value}, event ≠ .callShutdown →
      (∀ index, event ≠ .shutdownStep index) →
      pool.program.step event = some next.program →
      (serviceMachine Value).ReachableUnder WsService.NoOverlap
        next.program ∧ next.program.calls = pool.program.calls := by
    intro event first second taken
    exact ⟨.step shuts.service (fun isCall => absurd isCall first) taken,
      WsService.step_calls first second taken⟩
  have program : (serviceMachine Value).ReachableUnder WsService.NoOverlap
      next.program ∧ next.program.calls = pool.program.calls := by
    cases WorkerPool.step_turns stepped with
    | stays program =>
        rw [program]
        exact ⟨shuts.service, rfl⟩
    | handles _ isHandler moved =>
        obtain ⟨first, second⟩ := notCall_of_isHandler isHandler
        exact taken first second moved
    | calls _ moved =>
        refine taken ?_ ?_ moved
        · rintro rfl
          exact notCall rfl
        · rintro index rfl
          exact notStep index rfl
  exact ⟨program.1, program.2 ▸ shuts.announces, fun early =>
    (WorkerPool.step_guards notRelease stepped).trans (shuts.guarded early)⟩

/-- A step of `shutdown_fn_`. -/
theorem Shuts.acts (shuts : Shuts done pool)
    {action : ShutdownAction (ServiceEvent Value)}
    (isNext : clientShutdownFn[done]? = some action)
    (acts : Executor.act (WsService.hosted Value) pool action = some next) :
    Shuts (done + 1) next := by
  cases action with
  | call event =>
      have steps : pool.step (WsService.hosted Value) (.call event) =
        some next := acts
      obtain ⟨-, program, taken, rfl⟩ := WorkerPool.step_call steps
      have regular := Registry.regular_of_reachable
        (WsService.single_of_noOverlap (fun _ _ => id) shuts.service)
      refine ⟨.step shuts.service ?_ taken,
        shuts.announces.act regular isNext taken, fun early => ?_⟩
      · rintro rfl -
        exact shuts.announces.idle isNext
      · exact shuts.guarded (Nat.lt_of_succ_lt early)
  | resetWork =>
      have last : done = 5 := by
        match done with
        | 5 => rfl
        | 0 | 1 | 2 | 3 | 4 => cases isNext
        | done + 6 => cases isNext
      subst last
      have program : next.program = pool.program := by
        rcases Executor.act_resetWork acts with rfl | released
        · rfl
        · obtain ⟨-, rfl⟩ := WorkerPool.step_release released
          rfl
      refine ⟨program ▸ shuts.service, ?_, fun early =>
        absurd early (Nat.lt_irrefl 6)⟩
      rw [program, shuts.announces.over (Nat.le_refl 5)]
      exact .deferred (by omega)

theorem shuts_of_reachable
    (reached : (clientMachine Value threadCount).ReachableUnder UserCalls
      executor) : Shuts executor.acted.length executor.pool := by
  apply reached.invariantOver fun executor =>
    Shuts executor.acted.length executor.pool
  · rintro _ ⟨service, rfl, rfl⟩
    exact ⟨.initial rfl, .running, fun _ => rfl⟩
  intro before event after earlier shuts admitted stepped
  have once := Executor.once_of_reachable earlier
  cases (Executor.step_does stepped).2 with
  | starts _ spawns =>
      exact shuts.turns (by simp) (by simp) (by simp) spawns
  | works may steps =>
      refine shuts.turns ?_ ?_ ?_ steps
      · rintro rfl
        cases may
      · rintro rfl
        exact admitted
      · rintro index rfl
        exact admitted
  | @acts index done call action pool found stage isAction acts =>
      have length : before.acted.length = done := by
        rw [once.partly call (List.mem_of_getElem? found) done stage,
          List.length_take]
        exact Nat.min_eq_left
          (Nat.le_of_lt (List.getElem?_eq_some_iff.mp isAction).1)
      have last : (before.acted ++ [action]).length = done + 1 := by
        rw [List.length_append, length, List.length_singleton]
      show Shuts (before.acted ++ [action]).length pool
      rw [last]
      exact (length ▸ shuts).acts isAction acts
  | _ => exact shuts

/-- What is left of the program of a client whose threads are through. -/
structure Gone (service : WsService Value) : Prop where
  queue : service.queue = []
  stack : service.stack = []
  rest : service.AtRest
  free : service.locker.lockCount = 0

/-- The threads are through when the last step of `shutdown_fn_` is done and
everything has come to rest. -/
theorem Shuts.gone (shuts : Shuts done pool)
    (noWork : pool.hasWork (WsService.hosted Value) = false) :
    6 ≤ done ∧ Gone pool.program := by
  obtain ⟨notBusy, unguarded, -⟩ := WorkerPool.hasWork_eq_false.mp noWork
  have late : 6 ≤ done := by
    by_contra early
    have guarded := shuts.guarded (by omega)
    rw [unguarded] at guarded
    cases guarded
  have calls := shuts.announces.over (by omega)
  obtain ⟨callers, runLock⟩ := Prod.mk.inj calls
  have none_busy := WsService.busy_iff.not.mp (Bool.eq_false_iff.mp notBusy)
  rw [not_or, not_or, not_not, not_not] at none_busy
  obtain ⟨queue, stack, no_handler⟩ := none_busy
  have idle : pool.program.Idle :=
    ⟨queue, stack, callers, fun address node found => by
      by_contra some_handler
      exact no_handler
        ⟨address, node, found, Nat.pos_of_ne_zero some_handler⟩⟩
  have rest := idle.atRest
    (WsService.single_of_noOverlap (fun _ _ => id) shuts.service)
  have locks := rest.locks
  rw [runLock] at locks
  exact ⟨late, queue, stack, rest, locks⟩

/-- A call that comes after the threads have gone is refused. -/
theorem Gone.call {service next : WsService Value}
    {event : ServiceEvent Value} (gone : Gone service)
    (notHandler : event.isHandler = false) (notCall : event ≠ .callShutdown)
    (notStep : ∀ index, event ≠ .shutdownStep index)
    (stepped : service.step event = some next) : next = service := by
  unfold WsService.step at stepped
  rw [gone.rest.alive, if_neg Bool.false_ne_true] at stepped
  cases event with
  | call job inline =>
      have refused : service.locker.makeLock =
          .error (.runtimeError "async call after shutdown") :=
        AsyncLocker.makeLock_of_zero gone.free
      simp only [refused] at stepped
      split at stepped
      · exact (Option.some.inj stepped).symm
      · cases stepped
  | callShutdown => exact absurd rfl notCall
  | shutdownStep index => exact absurd rfl (notStep index)
  | session address event inline =>
      obtain ⟨-, stepped⟩ := Option.ite_none_right_eq_some.mp stepped
      rw [WsService.stepSession,
        OrderedMap.isEmpty_iff_find?.mp gone.rest.map] at stepped
      cases stepped
  | _ => cases notHandler

theorem Shuts.settles (shuts : Shuts done next)
    {event : PoolEvent (ServiceEvent Value)}
    (notCall : event ≠ .call .callShutdown)
    (notStep : ∀ index, event ≠ .call (.shutdownStep index))
    (gone : pool.stopped = true → 6 ≤ done ∧ Gone pool.program)
    (stepped : pool.step (WsService.hosted Value) event = some next)
    (stopped : next.stopped = true) : 6 ≤ done ∧ Gone next.program := by
  cases WorkerPool.step_turns stepped with
  | stays program _ _ _ stops =>
      rcases stops stopped with wasStopped | noWork
      · rw [program]
        exact gone wasStopped
      · exact shuts.gone noWork
  | handles _ _ _ _ _ running =>
      exact absurd (running.symm.trans stopped) Bool.false_ne_true
  | calls notHandler taken _ _ same =>
      obtain ⟨late, isGone⟩ := gone (same.symm.trans stopped)
      rw [isGone.call notHandler (fun isCall => notCall (isCall ▸ rfl))
        (fun index isStep => notStep index (isStep ▸ rfl)) taken]
      exact ⟨late, isGone⟩

theorem gone_of_reachable
    (reached : (clientMachine Value threadCount).ReachableUnder UserCalls
      executor) :
    executor.pool.stopped = true →
      6 ≤ executor.acted.length ∧ Gone executor.pool.program := by
  apply reached.invariantOver fun executor =>
    executor.pool.stopped = true →
      6 ≤ executor.acted.length ∧ Gone executor.pool.program
  · rintro _ ⟨service, rfl, rfl⟩ stopped
    cases stopped
  intro before event after earlier gone admitted stepped
  have shuts := shuts_of_reachable (.step earlier admitted stepped)
  have once := Executor.once_of_reachable earlier
  cases (Executor.step_does stepped).2 with
  | starts _ spawns =>
      exact shuts.settles (by simp) (by simp) gone spawns
  | works may steps =>
      refine shuts.settles ?_ ?_ gone steps
      · rintro rfl
        exact admitted
      · rintro index rfl
        exact admitted
  | @acts index done call action pool found stage isAction acts =>
      intro stopped
      have early : before.acted.length < 6 := by
        rw [once.partly call (List.mem_of_getElem? found) done stage,
          List.length_take]
        exact Nat.lt_of_le_of_lt (Nat.min_le_left _ _)
          (List.getElem?_eq_some_iff.mp isAction).1
      have running : before.pool.stopped ≠ true := fun wasStopped =>
        absurd early (Nat.not_lt.mpr (gone wasStopped).1)
      cases action with
      | call event =>
          have steps : before.pool.step (WsService.hosted Value)
            (.call event) = some pool := acts
          obtain ⟨-, program, -, rfl⟩ := WorkerPool.step_call steps
          exact absurd stopped running
      | resetWork =>
          rcases Executor.act_resetWork acts with same | released
          · exact absurd (same ▸ stopped) running
          · exact shuts.settles (by simp) (by simp)
              (fun wasStopped => absurd wasStopped running) released stopped
  | _ => exact gone

/-- When `block()` has returned, `shutdown_fn_` has run, every job is done,
every session that was ever in the map has been erased, and no lock of the
service is left: nothing refers to what the destructor is about to
destroy, and later calls of the user are refused. -/
theorem gone_of_blocked
    (reached : (clientMachine Value threadCount).ReachableUnder UserCalls
      executor) (some_thread : 0 < threadCount) {block : BlockCall}
    (isBlock : block ∈ executor.blocks)
    (hasBlocked : block.stage = .returned) :
    executor.acted = clientShutdownFn ∧ Gone executor.pool.program := by
  have waits := Executor.waits_of_reachable reached
  have total := Executor.total_of_reachable reached
  have pool := WorkerPool.sound_of_reachable (Executor.pool_reachable reached)
  have once := Executor.once_of_reachable reached
  have all := waits.all_returned (waits.cleared block isBlock hasBlocked)
  have stopped : executor.pool.stopped = true := by
    rw [waits.started isBlock, Nat.add_zero] at total
    obtain ⟨worker, isWorker⟩ :=
      List.exists_mem_of_length_pos (total ▸ some_thread)
    exact pool.returned (all worker isWorker ▸ isWorker)
  obtain ⟨late, gone⟩ := gone_of_reachable reached stopped
  exact ⟨once.begins.eq_of_length_le late, gone⟩

end

/-- The handlers of a thread, one after the other. -/
def handled (worker : Nat) (events : List (ServiceEvent Unit)) :
    List (ExecutorEvent (ServiceEvent Unit)) :=
  events.flatMap fun event =>
    [.pool (.handle worker event), .pool (.finish worker)]

/-- A client of two threads connects. -/
def connectedByTwo : List (ExecutorEvent (ServiceEvent Unit)) :=
  [.startThread, .startThread, .pool (.enter 0), .pool (.enter 1),
    .pool (.call (.call (.clientConnect ()) false))] ++
  handled 0 [.enter, .begin, .emplace 8, .startReturns, .finish]

/-- It is destroyed while its session closes. -/
def destroyedByTwo : List (ExecutorEvent (ServiceEvent Unit)) :=
  connectedByTwo ++ handled 1 (WsService.peerCloses 8) ++
  [.shutdown none] ++ List.replicate 8 (.shutdownStep 0) ++
  [.block none, .blockStep 0] ++
  handled 0 [.enter, .begin, .visit] ++
  handled 1 [.session 8 (.runJob .ioThread) false] ++
  handled 0 [.skip, .advance, .finish] ++
  handled 1 ([.session 8 (.release .ioThread) false] ++ WsService.drains 8) ++
  [.pool (.leave 0), .pool (.leave 1), .blockStep 0, .blockStep 0,
    .blockStep 0, .pool (.call (.call (.closeAll (.ofText "bye")) false))]

theorem initial_two :
    (clientMachine Unit 2).initial (.constructed .constructed 1 2) :=
  ⟨.constructed, rfl, rfl⟩

theorem gone_of_blocked_two :
    ∃ executor, (clientMachine Unit 2).run (.constructed .constructed 1 2)
        destroyedByTwo = some executor ∧
      executor.pool.late = [.call (.closeAll (.ofText "bye")) false] ∧
      executor.acted = clientShutdownFn ∧ Gone executor.pool.program := by
  have destroyed : ∃ executor, (clientMachine Unit 2).run
      (.constructed .constructed 1 2) destroyedByTwo = some executor ∧
      executor.pool.late = [.call (.closeAll (.ofText "bye")) false] ∧
      executor.blocks = [⟨none, .returned⟩] := ⟨_, rfl, rfl, rfl⟩
  obtain ⟨executor, ran, late, blocks⟩ := destroyed
  have users : (clientMachine Unit 2).Admitted UserCalls
      (.constructed .constructed 1 2) destroyedByTwo :=
    Machine.admitted_of_forall (by
      simp [destroyedByTwo, connectedByTwo, handled, UserCalls,
        WsService.peerCloses, WsService.drains])
  have reached := Machine.reachableUnder_of_run initial_two users ran
  exact ⟨executor, ran, late, gone_of_blocked reached (Nat.succ_pos 1)
    (blocks ▸ List.mem_cons_self) rfl⟩

end ClientExecutor

end

end Webservice
