import Webservice.Service.Closing
import Webservice.Service.Iteration
import Webservice.Service.Protocol

/-!
# The shutdown of a service

On one io thread, when no two calls of `shutdown()` overlap, the service goes
through the protocol of a shutdown: it finishes once, when its map is empty,
and no function that is `noexcept` throws.
-/

namespace Webservice

/-! ## Jobs and their stages -/

namespace ServiceJob

variable {Value : Type}

/-- The job loops over the map. -/
def walks (job : ServiceJob Value) : Bool :=
  job.strandJob?.isSome && job.identifier?.isNone

/-- The job can come to the stage. -/
def comesTo (job : ServiceJob Value) : Stage → Bool
  | .entered => true
  | .admitted => job.connects?.isSome
  | .visiting _ => job.walks
  | .called _ loop => if loop.isSome then job.walks else job.identifier?.isSome
  | .inlined _ loop => if loop.isSome then job.walks else job.identifier?.isSome
  | .left _ => job.walks
  | .starting _ => job.connects?.isSome
  | .erasing => job.isErase
  | .erased => job.isErase
  | .finished => true

theorem comesTo_afterCall {job : ServiceJob Value} {target : WsIdentifier}
    {loop : Option Loop} (comes : job.comesTo (.called target loop) = true) :
    job.comesTo (.afterCall loop) = true := by
  cases loop with
  | none => rfl
  | some loop => exact comes

end ServiceJob

namespace Stage

/-- The session that the job is busy with. -/
def target? : Stage → Option WsIdentifier
  | .called target _ => some target
  | .inlined target _ => some target
  | .starting target => some target
  | _ => none

theorem target?_of_waits {stage : Stage} (waits : stage.waits = true) :
    stage.target? = none := by
  cases stage <;> first | rfl | cases waits

@[simp] theorem afterCall_target? (loop : Option Loop) :
    (Stage.afterCall loop).target? = none := by
  cases loop <;> rfl

end Stage

/-- The job of `on_shutdown` is under way. -/
def Activation.shuts {Value : Type} (activation : Activation Value) : Bool :=
  activation.job.isShutdown && decide (activation.stage ≠ .finished)

namespace WsSession

open Effects

variable {session next : WsSession}

/-- A session that is not drained has the lock of the new job next to
another one. -/
theorem dispatch_lockCount {job : StrandJob}
    (stepped : session.step (.dispatch job) = some next) :
    next.locker.lockCount ≠ 1 := by
  obtain ⟨-, rfl⟩ := step_dispatch stepped
  by_cases drained : session.locker.lockCount = 0
  · have threw := makeLock_run_drained drained
    rw [after_eq_of_ok (by
      rw [dispatch, catching, bind_run, threw]
      rfl)]
    simp [report, drained]
  · rw [after_eq_of_ok (by
      rw [dispatch, catching,
        bind_run_ok (makeLock_run (Nat.pos_of_ne_zero drained))]
      rfl)]
    simpa using drained

/-- A session that runs a job keeps its locks. -/
theorem runJob_lockCount {host : Host} (sound : session.LocksSound)
    (shared : session.locker.lockCount ≠ 1)
    (stepped : session.step (.runJob host) = some next) :
    next.locker.lockCount ≠ 1 := by
  obtain ⟨-, job, jobs, queued, -⟩ := step_runJob stepped
  have counted := sound.counted
  have grows := ((step_kept sound stepped).locks rfl).2
  simp only [holders, queued, List.length_cons] at counted
  omega

/-- Whoever gives up a lock had one. -/
theorem lockCount_pos_of_releases {event : SessionEvent}
    (sound : session.LocksSound) (releases : event.releases = true)
    (stepped : session.step event = some next) :
    0 < session.locker.lockCount := by
  have counted := sound.counted
  cases event with
  | startReturns =>
      obtain ⟨inStart, -⟩ := step_startReturns stepped
      simp only [holders, inStart, Bool.toNat_true] at counted
      omega
  | release host =>
      obtain ⟨hosted, -⟩ := step_release stepped
      simp only [holders, hosted, Option.toList_some,
        List.length_singleton] at counted
      omega
  | callbackReturns =>
      obtain ⟨callback, running, -⟩ := step_callbackReturns stepped
      simp only [holders, running, Option.toList_some,
        List.length_singleton] at counted
      omega
  | _ => cases releases

theorem launched_lockCount (role : Role) :
    (launched role).locker.lockCount ≠ 1 := by
  cases role <;> decide

end WsSession

namespace Registry

variable {Value : Type} {rules : Registry Value → Move → Prop}
  {registry before after : Registry Value} {job : ServiceJob Value}
  {stage stage' : Stage} {rest : List (Activation Value)}

/-- One thread runs the io context, and no call of `shutdown()` gets past its
first test while another one is under way. -/
def Alone (registry : Registry Value) : Move → Prop
  | .session _ event => event.byIoThread = true → registry.stack = []
  | .enterShutdown =>
      registry.shutdownLock = false → registry.callers = []

/-! ## Every job is at a stage of its kind -/

def Proper (registry : Registry Value) : Prop :=
  ∀ activation ∈ registry.stack,
    activation.job.comesTo activation.stage = true

theorem Proper.top (proper : registry.Proper)
    (top : registry.stack = ⟨job, stage⟩ :: rest) :
    job.comesTo stage = true := by
  unfold Proper at proper
  rw [top] at proper
  exact (List.forall_mem_cons.mp proper).1

theorem Proper.toStage (proper : registry.Proper)
    (top : registry.stack = ⟨job, stage⟩ :: rest)
    (comes : job.comesTo stage' = true) :
    (registry.toStage job stage' rest).Proper := by
  unfold Proper at proper
  rw [top] at proper
  exact List.forall_mem_cons.mpr ⟨comes, (List.forall_mem_cons.mp proper).2⟩

theorem Proper.of_stack (proper : before.Proper)
    (stack : after.stack = before.stack) : after.Proper := by
  unfold Proper
  rw [stack]
  exact proper

theorem Proper.put {inline : Bool} (proper : registry.Proper) :
    (registry.put job inline).Proper := by
  cases inline with
  | false => exact proper
  | true => exact List.forall_mem_cons.mpr ⟨rfl, proper⟩

theorem Proper.putNoexcept {inline : Bool} (proper : registry.Proper) :
    (registry.putNoexcept job inline).Proper := by
  unfold Registry.putNoexcept
  split
  · exact proper
  · exact proper.put

theorem Proper.stepped {address : Nat} {resident : Resident}
    {next : WsSession} {inline : Bool} (proper : registry.Proper) :
    (registry.stepped address resident next inline).Proper := by
  have updated : (registry.update address
      (some ⟨resident.number, next⟩)).Proper := proper
  unfold Registry.stepped
  split
  · exact updated.putNoexcept
  · exact updated

theorem Moves.comesTo (moves : registry.Moves job stage stage')
    (comes : job.comesTo stage = true) : job.comesTo stage' = true := by
  cases moves with
  | startLoop handed everyone atCursor least present =>
      simp [ServiceJob.comesTo, ServiceJob.walks, handed, everyone]
  | erasing isErase => exact isErase
  | admitted connects runLock => exact connects
  | passed notShutdown atCursor => exact comes
  | skipped => exact ServiceJob.comesTo_afterCall comes
  | advanced atCursor atNext least => exact comes
  | nothing => rfl
  | refused => rfl
  | concluded => rfl

theorem Calls.comesTo {target : WsIdentifier} {loop : Option Loop}
    {strandJob : StrandJob} (calls : registry.Calls job stage target loop)
    (handed : job.strandJob? = some strandJob) :
    job.comesTo (.called target loop) = true := by
  cases calls with
  | act isAbout => simp [ServiceJob.comesTo, isAbout]
  | visit everyone atCursor =>
      simp [ServiceJob.comesTo, ServiceJob.walks, everyone, handed]

theorem GoesOn.comesTo {target : WsIdentifier} {event : SessionEvent}
    (goesOn : GoesOn stage target event stage')
    (comes : job.comesTo stage = true) : job.comesTo stage' = true := by
  cases goesOn with
  | ran => exact comes
  | @released target loop =>
      exact @ServiceJob.comesTo_afterCall _ _ target loop comes
  | started => rfl

theorem Proper.step (proper : before.Proper)
    (step : Step rules before after) : after.Proper := by
  cases step with
  | called callable held free => exact proper.put
  | shutdownCalled unlocked allowed => exact proper
  | callerMoved moves =>
      cases moves with
      | deferred caller => exact @Proper.putNoexcept _ _ .onShutdown false proper
      | _ => exact proper
  | sessionMoved found stepped byIoThread free allowed => exact proper.stepped
  | entered empty queued => exact List.forall_mem_singleton.mpr rfl
  | moved top moves =>
      exact proper.toStage top (moves.comesTo (proper.top top))
  | dispatched top calls handed found stepped =>
      exact proper.toStage top (calls.comesTo handed)
  | wentOn top goesOn found stepped allowed =>
      exact (proper.toStage top (goesOn.comesTo (proper.top top))).stepped
  | loopEnded top atCursor last flag => exact proper.toStage top rfl
  | missed top missing => exact proper.toStage top rfl
  | erased top found isInLoop => exact proper.toStage top rfl
  | foundEmpty top empty =>
      have stack := shutdownFinished_stack before 0
      exact (proper.of_stack stack).toStage (stack.trans top) rfl
  | finished top empty flag =>
      have stack := shutdownFinished_stack before 0
      exact (proper.of_stack stack).toStage (stack.trans top) rfl
  | emplaced top connects fresh =>
      refine proper.toStage top ?_
      simp [ServiceJob.comesTo, connects]
  | ended top =>
      unfold Proper at proper
      rw [top] at proper
      exact (List.forall_mem_cons.mp proper).2

/-! ## No job drains a session -/

/-- A session that a job is busy with has a lock besides that of the job, or
none at all. -/
def Steady (registry : Registry Value) : Prop :=
  ∀ activation ∈ registry.stack, ∀ target,
    activation.stage.target? = some target →
    ∀ resident, registry.residents target.session = some resident →
      resident.session.locker.lockCount ≠ 1

theorem Steady.of_waits (below : ∀ activation ∈ registry.stack,
    activation.stage.waits = true) : registry.Steady := by
  intro activation isThere target isTarget
  have none_target := Stage.target?_of_waits (below activation isThere)
  simp [isTarget] at none_target

/-- Only the job on top is busy with a session. -/
theorem Steady.of_top (top : registry.stack = ⟨job, stage⟩ :: rest)
    (below : ∀ activation ∈ rest, activation.stage.waits = true)
    (shared : ∀ target, stage.target? = some target →
      ∀ resident, registry.residents target.session = some resident →
        resident.session.locker.lockCount ≠ 1) : registry.Steady := by
  intro activation isThere target isTarget
  rw [top] at isThere
  rcases List.mem_cons.mp isThere with rfl | isBelow
  · exact shared target isTarget
  · have none_target := Stage.target?_of_waits (below activation isBelow)
    simp [isTarget] at none_target

theorem Steady.of_quiet (top : registry.stack = ⟨job, stage⟩ :: rest)
    (below : ∀ activation ∈ rest, activation.stage.waits = true)
    (quiet : stage.target? = none) : registry.Steady := by
  apply Steady.of_top top below
  intro target isTarget
  simp [quiet] at isTarget

theorem Steady.put {inline : Bool} (steady : registry.Steady) :
    (registry.put job inline).Steady := by
  cases inline with
  | false => exact steady
  | true =>
      refine List.forall_mem_cons.mpr ⟨fun target isTarget => ?_, steady⟩
      cases isTarget

theorem Steady.putNoexcept {inline : Bool} (steady : registry.Steady) :
    (registry.putNoexcept job inline).Steady := by
  unfold Registry.putNoexcept
  split
  · exact steady
  · exact steady.put

theorem Steady.stepped {address : Nat} {resident : Resident}
    {next : WsSession} {inline : Bool}
    (steady : (registry.update address
      (some ⟨resident.number, next⟩)).Steady) :
    (registry.stepped address resident next inline).Steady := by
  unfold Registry.stepped
  split
  · exact steady.putNoexcept
  · exact steady

theorem Moves.quiet (moves : registry.Moves job stage stage') :
    stage'.target? = none := by
  cases moves with
  | skipped => exact Stage.afterCall_target? _
  | _ => rfl

theorem Steady.top {target : WsIdentifier} {event : SessionEvent}
    {resident : Resident} (steady : registry.Steady)
    (top : registry.stack = ⟨job, stage⟩ :: rest)
    (goesOn : GoesOn stage target event stage')
    (found : registry.residents target.session = some resident) :
    resident.session.locker.lockCount ≠ 1 := by
  have isTarget : stage.target? = some target := by
    cases goesOn <;> rfl
  refine steady ⟨job, stage⟩ ?_ target isTarget resident found
  rw [top]
  exact List.mem_cons_self

/-- No session is drained inside a job. -/
theorem Steady.drainsApart (steady : registry.Steady)
    (sound : registry.roster.Sound) :
    registry.DrainsApart (fun _ => true) rules := by
  intro job stage stage' rest target event resident next top goesOn found
    stepped _ drains
  have locks := WsSession.locksSound_of_reachable (sound.reached found)
  have notLast := steady.top top goesOn found
  have releases := (goesOn.releases_of_drains locks stepped drains).2
  have held := WsSession.lockCount_pos_of_releases locks releases stepped
  have silent := WsSession.step_callbacks_of_shared locks (by omega) stepped
  omega

theorem Steady.step (steady : before.Steady) (layered : before.Layered)
    (sound : before.roster.Sound) (step : Step Alone before after) :
    after.Steady := by
  cases step with
  | called callable held free => exact steady.put
  | shutdownCalled unlocked allowed => exact steady
  | callerMoved moves =>
      cases moves with
      | deferred caller =>
          exact @Steady.putNoexcept _ _ .onShutdown false steady
      | _ => exact steady
  | sessionMoved found stepped byIoThread free allowed =>
      apply Steady.stepped
      apply Steady.of_waits
      intro activation isThere
      have isRunning : activation ∈ before.stack := isThere
      rw [allowed byIoThread] at isRunning
      cases isRunning
  | entered empty queued =>
      exact Steady.of_waits (List.forall_mem_singleton.mpr rfl)
  | moved top moves => exact .of_quiet rfl (layered.waits top) moves.quiet
  | @dispatched job stage rest target loop strandJob resident next top calls
      handed found stepped =>
      apply Steady.of_top rfl (layered.waits top)
      intro target' isTarget resident' isThere
      cases isTarget
      have isThere : Function.update before.residents target.session
        (some ⟨resident.number, next⟩) target.session = some resident' := isThere
      rw [Function.update_self] at isThere
      cases isThere
      exact WsSession.dispatch_lockCount stepped
  | @wentOn job stage stage' rest target event resident next inline top goesOn
      found stepped allowed =>
      apply Steady.stepped
      have shared := steady.top top goesOn found
      have locks := WsSession.locksSound_of_reachable (sound.reached found)
      cases goesOn with
      | ran =>
          apply Steady.of_top rfl (layered.waits top)
          intro target' isTarget resident' isThere
          cases isTarget
          have isThere : Function.update before.residents target.session
            (some ⟨resident.number, next⟩) target.session = some resident' :=
              isThere
          rw [Function.update_self] at isThere
          cases isThere
          exact WsSession.runJob_lockCount locks shared stepped
      | released =>
          exact .of_quiet rfl (layered.waits top) (Stage.afterCall_target? _)
      | started => exact .of_quiet rfl (layered.waits top) rfl
  | loopEnded top atCursor last flag =>
      exact .of_quiet rfl (layered.waits top) rfl
  | missed top missing => exact .of_quiet rfl (layered.waits top) rfl
  | erased top found isInLoop => exact .of_quiet rfl (layered.waits top) rfl
  | foundEmpty top empty => exact .of_quiet rfl (layered.waits top) rfl
  | finished top empty flag => exact .of_quiet rfl (layered.waits top) rfl
  | @emplaced job rest role address top connects fresh =>
      apply Steady.of_top rfl (layered.waits top)
      intro target isTarget resident isThere
      cases isTarget
      have isThere : Function.update before.residents address
        (some ⟨before.created.length, .launched role⟩) address =
          some resident := isThere
      rw [Function.update_self] at isThere
      cases isThere
      exact WsSession.launched_lockCount role
  | ended top => exact Steady.of_waits (layered.waits top)

/-! ## The service follows the protocol -/

/-- Jobs of `on_shutdown` that wait or are under way. -/
def shutdowns (registry : Registry Value) : Nat :=
  registry.queue.countP (·.isShutdown) + registry.stack.countP (·.shuts)

def protocol (registry : Registry Value) : ShutdownProtocol :=
  { runLock := registry.runLock
    shutdownLock := registry.shutdownLock
    shutdown := registry.shutdown
    callers := registry.callers
    jobs := registry.shutdowns
    finishedWith := registry.finishedWith }

theorem put_shutdowns (job : ServiceJob Value) (inline : Bool) :
    (registry.put job inline).shutdowns =
      registry.shutdowns + job.isShutdown.toNat := by
  cases inline with
  | false =>
      simp only [shutdowns, put, Bool.false_eq_true, if_false,
        List.countP_append, List.countP_singleton]
      cases job.isShutdown <;> simp
      omega
  | true =>
      simp only [shutdowns, put, if_true, List.countP_cons, Activation.shuts]
      cases job.isShutdown <;> simp
      omega

theorem put_protocol (inline : Bool) (plain : job.isShutdown = false) :
    (registry.put job inline).protocol = registry.protocol := by
  have jobs := @put_shutdowns _ registry job inline
  rw [plain] at jobs
  unfold protocol
  rw [jobs]
  cases inline <;> rfl

theorem putNoexcept_protocol (inline : Bool)
    (plain : job.isShutdown = false) :
    (registry.putNoexcept job inline).protocol = registry.protocol := by
  unfold putNoexcept
  split
  · rfl
  · exact put_protocol inline plain

theorem stepped_protocol (address : Nat) (resident : Resident)
    (next : WsSession) (inline : Bool) :
    (registry.stepped address resident next inline).protocol =
      registry.protocol := by
  unfold stepped
  split
  · exact putNoexcept_protocol inline rfl
  · rfl

theorem toStage_shutdowns (top : registry.stack = ⟨job, stage⟩ :: rest) :
    (registry.toStage job stage' rest).shutdowns +
        (Activation.shuts ⟨job, stage⟩).toNat =
      registry.shutdowns + (Activation.shuts ⟨job, stage'⟩).toNat := by
  simp only [shutdowns, toStage, top, List.countP_cons]
  cases Activation.shuts ⟨job, stage⟩ <;>
    cases Activation.shuts ⟨job, stage'⟩ <;> simp <;> omega

/-- The job goes on, or is not the one of `on_shutdown`. -/
theorem toStage_protocol (top : registry.stack = ⟨job, stage⟩ :: rest)
    (same : Activation.shuts ⟨job, stage'⟩ = Activation.shuts ⟨job, stage⟩) :
    (registry.toStage job stage' rest).protocol = registry.protocol := by
  have jobs := @toStage_shutdowns _ registry job stage stage' rest top
  rw [same] at jobs
  have jobs := Nat.add_right_cancel jobs
  unfold protocol
  rw [jobs]
  rfl

theorem shuts_of_plain {stage : Stage} (plain : job.isShutdown = false) :
    Activation.shuts ⟨job, stage⟩ = false := by
  simp [Activation.shuts, plain]

theorem shuts_of_unfinished (first : stage ≠ .finished)
    (second : stage' ≠ .finished) :
    Activation.shuts ⟨job, stage'⟩ = Activation.shuts ⟨job, stage⟩ := by
  simp [Activation.shuts, first, second]

theorem shuts_same_of_plain (plain : job.isShutdown = false) :
    Activation.shuts ⟨job, stage'⟩ = Activation.shuts ⟨job, stage⟩ :=
  (shuts_of_plain plain).trans (shuts_of_plain plain).symm

/-- Only a job of `on_shutdown` can shut the service down. -/
theorem plain_of_comesTo_erased (comes : job.comesTo .erased = true) :
    job.isShutdown = false := by
  cases job <;> first | rfl | cases comes

theorem plain_of_comesTo_admitted (comes : job.comesTo .admitted = true) :
    job.isShutdown = false := by
  cases job <;> first | rfl | cases comes

theorem shuts_afterCall {target : WsIdentifier} {loop : Option Loop}
    (comes : job.comesTo (.called target loop) = true) :
    Activation.shuts ⟨job, .afterCall loop⟩ =
      Activation.shuts ⟨job, .called target loop⟩ := by
  cases loop with
  | some loop => exact shuts_of_unfinished (by simp) (by simp [Stage.afterCall])
  | none => cases job <;> first | rfl | cases comes

theorem Moves.shuts (moves : registry.Moves job stage stage')
    (comes : job.comesTo stage = true) :
    Activation.shuts ⟨job, stage'⟩ = Activation.shuts ⟨job, stage⟩ := by
  cases moves with
  | nothing notErase plain => exact shuts_same_of_plain plain
  | skipped => exact shuts_afterCall comes
  | refused => exact shuts_same_of_plain (plain_of_comesTo_admitted comes)
  | concluded => exact shuts_same_of_plain (plain_of_comesTo_erased comes)
  | _ => exact shuts_of_unfinished (by simp) (by simp)

theorem GoesOn.shuts {target : WsIdentifier} {event : SessionEvent}
    (goesOn : GoesOn stage target event stage')
    (comes : job.comesTo stage = true) :
    Activation.shuts ⟨job, stage'⟩ = Activation.shuts ⟨job, stage⟩ := by
  cases goesOn with
  | ran => exact shuts_of_unfinished (by simp) (by simp)
  | @released target loop =>
      exact @shuts_afterCall _ _ target loop comes
  | started =>
      have plain : job.isShutdown = false := plain_of_comesTo_admitted comes
      exact shuts_same_of_plain plain

theorem Calls.shuts {target : WsIdentifier} {loop : Option Loop}
    (calls : registry.Calls job stage target loop) :
    Activation.shuts ⟨job, .called target loop⟩ =
      Activation.shuts ⟨job, stage⟩ := by
  cases calls with
  | act isAbout => exact shuts_of_unfinished (by simp) (by simp)
  | visit everyone atCursor => exact shuts_of_unfinished (by simp) (by simp)

theorem shutdownFinished_protocol (registry : Registry Value) :
    (registry.shutdownFinished 0).protocol =
      registry.protocol.shutdownFinished := by
  unfold shutdownFinished
  cases runLock : registry.runLock <;>
    cases shutdownLock : registry.shutdownLock <;>
      simp [protocol, ShutdownProtocol.shutdownFinished, shutdowns, runLock,
        shutdownLock]

theorem CallerMoves.protocol (moves : before.CallerMoves after)
    (held : .deferring ∈ before.callers → 0 < before.lockCount) :
    before.protocol.Step after.protocol := by
  cases moves with
  | exchanged caller => exact .exchanged caller
  | stored caller => exact .stored caller
  | locked caller isLocked => exact .locked caller isLocked
  | unlocked caller isUnlocked => exact .unlocked caller isUnlocked
  | @deferred index caller =>
      have isHeld := held (List.mem_of_getElem? caller)
      have deferred : before.putNoexcept .onShutdown false =
          before.put .onShutdown false := if_neg (Nat.ne_of_gt isHeld)
      have jobs := @put_shutdowns _ before .onShutdown false
      have after_eq : Registry.protocol
          { before.putNoexcept .onShutdown false with
            callers := before.callers.eraseIdx index } =
          { before.protocol with
            callers := before.callers.eraseIdx index
            jobs := before.shutdowns + 1 } := by
        rw [deferred]
        exact congrArg (fun jobs =>
          { before.protocol with
            callers := before.callers.eraseIdx index
            jobs := jobs }) jobs
      rw [after_eq]
      exact .deferred caller

theorem foundEmpty_protocol
    (top : registry.stack = ⟨.onShutdown, .entered⟩ :: rest) :
    registry.protocol.Step (protocol (toStage
      { registry.shutdownFinished 0 with shutdown := true }
      .onShutdown .finished rest)) := by
  have stack := (shutdownFinished_stack registry 0).trans top
  have jobs : (toStage { registry.shutdownFinished 0 with shutdown := true }
      .onShutdown .finished rest).shutdowns + 1 =
        (registry.shutdownFinished 0).shutdowns := toStage_shutdowns stack
  have finished := shutdownFinished_protocol registry
  have same : (registry.shutdownFinished 0).shutdowns = registry.shutdowns :=
    congrArg ShutdownProtocol.jobs finished
  have after_eq : protocol (toStage
      { registry.shutdownFinished 0 with shutdown := true }
      .onShutdown .finished rest) =
      { (registry.shutdownFinished 0).protocol with
        jobs := (toStage { registry.shutdownFinished 0 with shutdown := true }
          .onShutdown .finished rest).shutdowns
        shutdown := true } := rfl
  rw [after_eq, finished]
  exact .foundEmpty (same.symm.trans jobs.symm)

theorem loopEnded_protocol {loop : Loop} {shutdown : Bool}
    (top : registry.stack = ⟨job, .left loop⟩ :: rest)
    (flag : shutdown = (registry.shutdown || job.isShutdown)) :
    registry.protocol.Step (protocol
      { registry.toStage job .finished rest with
        loops := registry.loops ++ [loop]
        shutdown := shutdown }) := by
  have jobs := @toStage_shutdowns _ registry job (.left loop) .finished rest top
  cases isShutdown : job.isShutdown with
  | false =>
      have same := toStage_protocol top
        (@shuts_same_of_plain _ job (.left loop) .finished isShutdown)
      have after_eq : protocol { registry.toStage job .finished rest with
          loops := registry.loops ++ [loop], shutdown := shutdown } =
          { (registry.toStage job .finished rest).protocol with
            shutdown := shutdown } := rfl
      have unchanged : shutdown = registry.shutdown := by
        simp [flag, isShutdown]
      rw [after_eq, same, unchanged]
      exact .same
  | true =>
      have isSet : shutdown = true := by
        simp [flag, isShutdown]
      have after_eq : protocol { registry.toStage job .finished rest with
          loops := registry.loops ++ [loop], shutdown := shutdown } =
          { registry.protocol with
            jobs := (registry.toStage job .finished rest).shutdowns
            shutdown := shutdown } := rfl
      have isJob : registry.shutdowns =
          (registry.toStage job .finished rest).shutdowns + 1 := by
        simpa [Activation.shuts, isShutdown] using jobs.symm
      rw [after_eq, isSet]
      exact .asked isJob

/-- A step of the service is a step of the protocol, if calls that are about
to defer the job hold a lock and the service has not yet finished when a
session has been erased. -/
theorem Step.protocol (proper : before.Proper)
    (held : .deferring ∈ before.callers → 0 < before.lockCount)
    (unfinished : ∀ job rest, before.stack = ⟨job, .erased⟩ :: rest →
      before.finishedWith = [])
    (step : Step Alone before after) :
    before.protocol.Step after.protocol := by
  cases step with
  | called callable free =>
      rw [put_protocol _ callable.plain.2]
      exact .same
  | shutdownCalled unlocked allowed =>
      have none_calls := allowed unlocked
      have after_eq : Registry.protocol { before with
          callers := before.callers ++ [.exchanging] } =
          { before.protocol with callers := [.exchanging] } := by
        simp only [none_calls]
        rfl
      rw [after_eq]
      exact .called none_calls unlocked
  | callerMoved moves => exact moves.protocol held
  | sessionMoved found stepped byIoThread free allowed =>
      rw [stepped_protocol]
      exact .same
  | @entered job jobs empty queued =>
      have same : Registry.shutdowns { before with
          stack := [⟨job, .entered⟩], queue := jobs } =
            before.shutdowns := by
        simp only [shutdowns, empty, queued, List.countP_cons,
          List.countP_nil, Activation.shuts]
        simp
      have after_eq : Registry.protocol { before with
          stack := [⟨job, .entered⟩], queue := jobs } = before.protocol := by
        unfold Registry.protocol
        rw [same]
      rw [after_eq]
      exact .same
  | moved top moves =>
      rw [toStage_protocol top (moves.shuts (proper.top top))]
      exact .same
  | @dispatched job stage rest target loop _ _ _ top calls handed found _ =>
      have same := toStage_protocol top calls.shuts
      show before.protocol.Step
        (before.toStage job (.called target loop) rest).protocol
      rw [same]
      exact .same
  | wentOn top goesOn found stepped allowed =>
      rw [stepped_protocol, toStage_protocol top (goesOn.shuts (proper.top top))]
      exact .same
  | loopEnded top atCursor last flag => exact loopEnded_protocol top flag
  | @missed identifier rest top missing =>
      show before.protocol.Step
        (before.toStage (.onErase identifier) .finished rest).protocol
      rw [toStage_protocol top (shuts_same_of_plain rfl)]
      exact .same
  | @erased identifier rest resident inLoop top found isInLoop =>
      show before.protocol.Step
        (before.toStage (.onErase identifier) .erased rest).protocol
      rw [toStage_protocol top (shuts_same_of_plain rfl)]
      exact .same
  | foundEmpty top empty => exact foundEmpty_protocol top
  | finished top empty flag =>
      have plain := plain_of_comesTo_erased (proper.top top)
      have stack := (shutdownFinished_stack before 0).trans top
      rw [toStage_protocol stack (shuts_same_of_plain plain),
        shutdownFinished_protocol]
      exact .finished flag (unfinished _ _ top)
  | @emplaced job rest role address top connects fresh =>
      have plain := plain_of_comesTo_admitted (proper.top top)
      show before.protocol.Step (before.toStage job
        (.starting ⟨address, before.created.length⟩) rest).protocol
      rw [toStage_protocol top (shuts_same_of_plain plain)]
      exact .same
  | @ended job rest top =>
      have same : Registry.shutdowns { before with
          stack := rest, lockCount := before.lockCount - 1 } =
            before.shutdowns := by
        simp [shutdowns, top, Activation.shuts]
      have after_eq : Registry.protocol { before with
          stack := rest, lockCount := before.lockCount - 1 } =
            before.protocol := by
        unfold Registry.protocol
        rw [same]
      rw [after_eq]
      exact .same

/-! ## When the service finishes -/

/-- Once the service has finished, nothing is left; and it has finished
whenever nothing is left, unless the job that erased the last session is
about to see to it. -/
structure Settled (registry : Registry Value) : Prop where
  done : registry.finishedWith ≠ [] →
    registry.shutdown = true ∧ registry.Empty ∧
      ∀ activation ∈ registry.stack, activation.stage ≠ .erased
  due : registry.shutdown = true → registry.Empty →
    registry.finishedWith = [] →
      ∃ activation ∈ registry.stack, activation.stage = .erased

theorem Settled.unfinished_of_resident {address : Nat}
    {resident : Resident} (settled : registry.Settled)
    (found : registry.residents address = some resident) :
    registry.finishedWith = [] := by
  by_contra finished
  obtain ⟨-, empty, -⟩ := settled.done finished
  simp [empty address] at found

theorem Settled.unfinished_of_erased (settled : registry.Settled)
    (top : registry.stack = ⟨job, .erased⟩ :: rest) :
    registry.finishedWith = [] := by
  by_contra finished
  obtain ⟨-, -, none_erased⟩ := settled.done finished
  rw [top] at none_erased
  exact none_erased _ List.mem_cons_self rfl

/-- Nothing can be due while a session is in the map. -/
theorem Settled.of_resident {address : Nat} {resident : Resident}
    (unfinished : registry.finishedWith = [])
    (found : registry.residents address = some resident) :
    registry.Settled where
  done finished := absurd unfinished finished
  due _ empty _ := by simp [empty address] at found

theorem Settled.congr (settled : before.Settled)
    (residents : after.residents = before.residents)
    (shutdown : after.shutdown = before.shutdown)
    (finishedWith : after.finishedWith = before.finishedWith)
    (erased : ∀ activation : Activation Value, activation.stage = .erased →
      (activation ∈ after.stack ↔ activation ∈ before.stack)) :
    after.Settled := by
  constructor
  · intro finished
    rw [finishedWith] at finished
    obtain ⟨isShutdown, empty, none_erased⟩ := settled.done finished
    refine ⟨shutdown.trans isShutdown, fun address => ?_, ?_⟩
    · rw [residents]
      exact empty address
    · intro activation isThere isErased
      exact none_erased activation ((erased activation isErased).mp isThere)
        isErased
  · intro isShutdown empty unfinished
    have wasEmpty : before.Empty := by
      intro address
      rw [← residents]
      exact empty address
    obtain ⟨activation, isThere, isErased⟩ := settled.due
      (shutdown.symm.trans isShutdown) wasEmpty
      (finishedWith.symm.trans unfinished)
    exact ⟨activation, (erased activation isErased).mpr isThere, isErased⟩

theorem Settled.put {inline : Bool} (settled : registry.Settled) :
    (registry.put job inline).Settled := by
  cases inline with
  | false => exact settled.congr rfl rfl rfl fun _ _ => Iff.rfl
  | true =>
      refine settled.congr rfl rfl rfl fun activation isErased => ?_
      show activation ∈ ⟨job, .entered⟩ :: registry.stack ↔ _
      rw [List.mem_cons]
      constructor
      · rintro (rfl | isThere)
        · cases isErased
        · exact isThere
      · exact .inr

theorem Settled.putNoexcept {inline : Bool} (settled : registry.Settled) :
    (registry.putNoexcept job inline).Settled := by
  unfold Registry.putNoexcept
  split
  · exact settled.congr rfl rfl rfl fun _ _ => Iff.rfl
  · exact settled.put

theorem Settled.stepped {address : Nat} {resident : Resident}
    {next : WsSession} {inline : Bool} (settled : registry.Settled)
    (found : registry.residents address = some resident) :
    (registry.stepped address resident next inline).Settled := by
  have unfinished := settled.unfinished_of_resident found
  have updated : (registry.update address
      (some ⟨resident.number, next⟩)).Settled :=
    .of_resident unfinished (Function.update_self _ _ _)
  unfold Registry.stepped
  split
  · exact updated.putNoexcept
  · exact updated

/-- The job on top has not just erased a session. -/
theorem Settled.toStage (settled : registry.Settled)
    (top : registry.stack = ⟨job, stage⟩ :: rest) (first : stage ≠ .erased)
    (second : stage' ≠ .erased) :
    (registry.toStage job stage' rest).Settled := by
  refine settled.congr rfl rfl rfl fun activation isErased => ?_
  rw [top]
  show activation ∈ ⟨job, stage'⟩ :: rest ↔ _
  rw [List.mem_cons, List.mem_cons]
  constructor
  · rintro (rfl | isThere)
    · exact absurd isErased second
    · exact .inr isThere
  · rintro (rfl | isThere)
    · exact absurd isErased first
    · exact .inr isThere

theorem Settled.moves (settled : registry.Settled)
    (top : registry.stack = ⟨job, stage⟩ :: rest)
    (moves : registry.Moves job stage stage') :
    (registry.toStage job stage' rest).Settled := by
  cases moves with
  | skipped =>
      refine settled.toStage top (by simp) ?_
      rename_i loop
      cases loop <;> simp [Stage.afterCall]
  | concluded notDone =>
      constructor
      · exact fun finished =>
          absurd (settled.unfinished_of_erased top) finished
      · exact fun isShutdown empty _ => absurd ⟨empty, isShutdown⟩ notDone
  | _ => exact settled.toStage top (by simp) (by simp)

/-- The job that finishes is the only one that runs. -/
theorem Settled.of_alone (isShutdown : registry.shutdown = true)
    (empty : registry.Empty) (finished : registry.finishedWith ≠ [])
    (alone : registry.stack = [⟨job, .finished⟩]) : registry.Settled where
  done _ := by
    refine ⟨isShutdown, empty, ?_⟩
    rw [alone]
    exact List.forall_mem_singleton.mpr (by simp)
  due _ _ unfinished := absurd unfinished finished

theorem Layered.alone (layered : registry.Layered)
    (top : registry.stack = ⟨.onShutdown, stage⟩ :: rest) : rest = [] := by
  unfold Layered at layered
  rw [top] at layered
  cases rest with
  | nil => rfl
  | cons below others =>
      have plain := ((List.pairwise_cons.mp layered).1 below
        List.mem_cons_self).1
      cases plain

theorem Apart.alone (apart : registry.Apart fun _ => true)
    (top : registry.stack = ⟨job, stage⟩ :: rest)
    (isErase : job.isErase = true) : rest = [] := by
  unfold Apart at apart
  rw [top] at apart
  cases rest with
  | nil => rfl
  | cons below others =>
      have busy := (List.pairwise_cons.mp apart).1 below List.mem_cons_self
        isErase
      cases busy

theorem shutdownFinished_finishedWith (registry : Registry Value) :
    (registry.shutdownFinished 0).finishedWith ≠ [] := by
  have finished := congrArg ShutdownProtocol.finishedWith
    (shutdownFinished_protocol registry)
  have same : (registry.shutdownFinished 0).finishedWith =
    registry.finishedWith ++ [0] := finished
  simp [same]

theorem shutdownFinished_shutdown (registry : Registry Value) :
    (registry.shutdownFinished 0).shutdown = registry.shutdown :=
  congrArg ShutdownProtocol.shutdown (shutdownFinished_protocol registry)

theorem Settled.step (settled : before.Settled) (proper : before.Proper)
    (layered : before.Layered) (apart : before.Apart fun _ => true)
    (announced : before.Announced) (step : Step rules before after) :
    after.Settled := by
  cases step with
  | called callable held free => exact settled.put
  | shutdownCalled unlocked allowed =>
      exact settled.congr rfl rfl rfl fun _ _ => Iff.rfl
  | callerMoved moves =>
      cases moves with
      | deferred caller =>
          have deferred := @Settled.putNoexcept _ _ .onShutdown false settled
          exact deferred.congr rfl rfl rfl fun _ _ => Iff.rfl
      | _ => exact settled.congr rfl rfl rfl fun _ _ => Iff.rfl
  | sessionMoved found stepped byIoThread free allowed =>
      exact settled.stepped found
  | @entered job jobs empty queued =>
      refine settled.congr rfl rfl rfl fun activation isErased => ?_
      rw [empty]
      show activation ∈ [⟨job, .entered⟩] ↔ _
      constructor
      · intro isThere
        cases List.mem_singleton.mp isThere
        cases isErased
      · exact fun isThere => absurd isThere List.not_mem_nil
  | moved top moves => exact settled.moves top moves
  | dispatched top calls handed found stepped =>
      exact .of_resident (settled.unfinished_of_resident found)
        (Function.update_self _ _ _)
  | @wentOn job stage stage' rest target event resident next inline top goesOn
      found stepped allowed =>
      refine (Settled.stepped ?_ found)
      exact .of_resident (settled.unfinished_of_resident found) found
  | loopEnded top atCursor last flag =>
      obtain ⟨resident, found, -⟩ := Option.map_eq_some_iff.mp atCursor
      exact .of_resident (settled.unfinished_of_resident found) found
  | @missed identifier rest top missing =>
      have moved : (before.toStage (.onErase identifier) .finished
          rest).Settled := settled.toStage top (by simp) (by simp)
      exact moved.congr rfl rfl rfl fun _ _ => Iff.rfl
  | erased top found isInLoop =>
      have unfinished := settled.unfinished_of_resident found
      exact ⟨fun finished => absurd unfinished finished,
        fun _ _ _ => ⟨_, List.mem_cons_self, rfl⟩⟩
  | foundEmpty top empty =>
      have isAlone := layered.alone top
      subst isAlone
      exact .of_alone rfl (shutdownFinished_empty empty)
        (shutdownFinished_finishedWith before) rfl
  | finished top empty flag =>
      have isAlone := apart.alone top (proper.top top)
      subst isAlone
      exact .of_alone ((shutdownFinished_shutdown before).trans flag)
        (shutdownFinished_empty empty) (shutdownFinished_finishedWith before)
        rfl
  | @emplaced job rest role address top connects fresh =>
      have notShutdown : before.shutdown ≠ true := fun isShutdown =>
        announced.not_begun top (.inl isShutdown)
      constructor
      · exact fun finished => absurd (settled.done finished).1 notShutdown
      · exact fun isShutdown => absurd isShutdown notShutdown
  | @ended job rest top =>
      refine settled.congr rfl rfl rfl fun activation isErased => ?_
      rw [top, List.mem_cons]
      constructor
      · exact .inr
      · rintro (rfl | isThere)
        · cases isErased
        · exact isThere

/-! ## No function that is `noexcept` throws -/

theorem put_terminated (job : ServiceJob Value) (inline : Bool) :
    (registry.put job inline).terminated = registry.terminated := by
  cases inline <;> rfl

theorem putNoexcept_terminated (job : ServiceJob Value) (inline : Bool)
    (held : 0 < registry.lockCount) :
    (registry.putNoexcept job inline).terminated = registry.terminated := by
  unfold putNoexcept
  rw [if_neg (Nat.ne_of_gt held)]
  exact put_terminated job inline

theorem stepped_terminated {address : Nat} {resident : Resident}
    {next : WsSession} {inline : Bool} (held : 0 < registry.lockCount) :
    (registry.stepped address resident next inline).terminated =
      registry.terminated := by
  unfold stepped
  split
  · exact putNoexcept_terminated _ inline held
  · rfl

theorem shutdownFinished_terminated (registry : Registry Value)
    (size : Nat) :
    (registry.shutdownFinished size).terminated = registry.terminated := by
  unfold shutdownFinished
  split <;> rfl

theorem Step.terminated (locks : before.LocksKept)
    (held : .deferring ∈ before.callers → 0 < before.lockCount)
    (step : Step rules before after) :
    after.terminated = before.terminated := by
  have occupied : ∀ {address : Nat} {resident : Resident},
      before.residents address = some resident → 0 < before.lockCount := by
    intro address resident found
    rw [locks.of_resident found]
    exact Nat.succ_pos _
  cases step with
  | called callable held free => exact put_terminated _ _
  | callerMoved moves =>
      cases moves with
      | deferred caller =>
          exact putNoexcept_terminated _ _ (held (List.mem_of_getElem? caller))
      | _ => rfl
  | sessionMoved found stepped byIoThread free allowed =>
      exact stepped_terminated (occupied found)
  | @wentOn job stage stage' rest target event resident next inline top goesOn
      found stepped allowed =>
      have isHeld : 0 < (before.toStage job stage' rest).lockCount :=
        occupied found
      exact stepped_terminated isHeld
  | foundEmpty top empty => exact shutdownFinished_terminated before 0
  | finished top empty flag => exact shutdownFinished_terminated before 0
  | _ => rfl

theorem aside_late : @Aside Value _ late :=
  fun _ _ _ _ _ _ _ _ _ _ => rfl

/-- No session comes in after the job of `on_shutdown`. -/
theorem Step.late (announced : before.Announced)
    (step : Step rules before after) : after.late = before.late := by
  cases step with
  | called callable held free => exact aside_late.put _ _ _
  | callerMoved moves => exact aside_late.callerMoves moves
  | sessionMoved found stepped byIoThread free allowed =>
      exact aside_late.stepped _ _ _ _ _
  | wentOn top goesOn found stepped allowed =>
      exact aside_late.stepped _ _ _ _ _
  | foundEmpty top empty => exact aside_late.shutdownFinished before 0
  | finished top empty flag => exact aside_late.shutdownFinished before 0
  | @emplaced job rest role address top connects fresh =>
      have notShutdown : before.shutdown = false :=
        Bool.eq_false_iff.mpr fun isShutdown =>
          announced.not_begun top (.inl isShutdown)
      show before.late ++ (if before.shutdown then _ else []) = before.late
      simp [notShutdown]
  | _ => rfl

/-! ## Runs on one thread -/

/-- What is known of a service that is alone with its shutdown. -/
structure Orderly (registry : Registry Value) : Prop where
  proper : registry.Proper
  steady : registry.Steady
  apart : registry.Apart fun _ => true
  settled : registry.Settled
  protocol : registry.protocol.Sound
  alive : registry.terminated = false
  punctual : registry.late = []

theorem LocksKept.of_deferring (locks : registry.LocksKept)
    (sound : registry.protocol.Sound)
    (deferring : .deferring ∈ registry.callers) : 0 < registry.lockCount := by
  have isLocked : registry.shutdownLock = true :=
    sound.locked_of_deferring deferring
  have lower := locks.lower
  simp only [pointers, isLocked, Bool.toNat_true] at lower
  omega

theorem Orderly.step (orderly : before.Orderly) (sound : before.Sound)
    (announced : before.Announced) (step : Step Alone before after) :
    after.Orderly := by
  have held := sound.locks.of_deferring orderly.protocol
  have moves := step.protocol orderly.proper held
    fun job rest top => orderly.settled.unfinished_of_erased top
  exact {
    proper := orderly.proper.step step
    steady := orderly.steady.step sound.layered sound.roster step
    apart := orderly.apart.step (orderly.steady.drainsApart sound.roster) step
    settled := orderly.settled.step orderly.proper sound.layered orderly.apart
      announced step
    protocol := orderly.protocol.step moves
    alive := (step.terminated sound.locks held).trans orderly.alive
    punctual := (step.late announced).trans orderly.punctual }

theorem orderly_of_reachable {registry : Registry Value}
    (reached : Reachable Alone registry) : registry.Orderly := by
  refine reached.invariantOver Orderly ?_ ?_
  · refine ⟨?_, ?_, .nil, ⟨?_, ?_⟩, ⟨.running, rfl⟩, rfl, rfl⟩
    · intro activation isThere
      cases isThere
    · intro activation isThere
      cases isThere
    · exact fun finished => absurd rfl finished
    · intro isShutdown
      cases isShutdown
  · intro before after earlier orderly step
    exact orderly.step (sound_of_reachable earlier)
      (announced_of_reachable earlier) step

end Registry

/-! ## Every run -/

namespace WsService

variable {Value : Type} {service : WsService Value}

/-- One thread runs the io context: while a job of the service runs, no
handler of a session does. -/
def OneThread (service : WsService Value) (event : ServiceEvent Value) :
    Prop :=
  ∀ address sessionEvent inline,
    event = .session address sessionEvent inline → service.stack = []

/-- No call of `shutdown()` gets past its first test while another one is
under way. -/
def NoOverlap (service : WsService Value) (event : ServiceEvent Value) :
    Prop :=
  event = .callShutdown → service.shutdownLock = false → service.callers = []

/-- A move of a job is none of a thread of the io context. -/
theorem move?_byIoThread {event : ServiceEvent Value} {address : Nat}
    {sessionEvent : SessionEvent}
    (moves : service.move? event = some (.session address sessionEvent))
    (byIoThread : sessionEvent.byIoThread = true) :
    ∃ inline, event = .session address sessionEvent inline := by
  unfold move? at moves
  split at moves
  · cases moves
  · cases moves
    exact ⟨_, rfl⟩
  · obtain ⟨activation, -, isMove⟩ := Option.bind_eq_some_iff.mp moves
    unfold Stage.move? at isMove
    split at isMove
    · cases isMove
      cases byIoThread
    · cases isMove
      cases byIoThread
    · cases isMove
      cases byIoThread
    · cases isMove

theorem move?_enterShutdown {event : ServiceEvent Value}
    (moves : service.move? event = some .enterShutdown) :
    event = .callShutdown := by
  unfold move? at moves
  split at moves
  · rfl
  · cases moves
  · obtain ⟨activation, -, isMove⟩ := Option.bind_eq_some_iff.mp moves
    unfold Stage.move? at isMove
    split at isMove <;> cases isMove

/-- The shutdown of a service on one io thread, as long as no two calls of
`shutdown()` overlap: no session comes in after the job of `on_shutdown`; the
service finishes at most once, with an empty map, and has finished in every
state between jobs in which that job has run and the map is empty; a session
in the map keeps the locker of the service open, and nothing that is
`noexcept` throws. -/
theorem shutdown_of_noOverlap
    (reached : (serviceMachine Value).ReachableUnder
      (fun service event => service.OneThread event ∧ service.NoOverlap event)
      service) :
    service.history.late = [] ∧
      (service.history.finishedWith = [] ∨
        service.history.finishedWith = [0]) ∧
      (service.stack = [] → service.shutdown = true →
        service.map.isEmpty = true → service.history.finishedWith = [0]) ∧
      (∀ address node, service.map.find? address = some node →
        0 < service.locker.lockCount) ∧
      service.terminated = false := by
  have obeys : ∀ (service : WsService Value) event move,
      service.OneThread event ∧ service.NoOverlap event →
      service.move? event = some move → service.registry.Alone move := by
    rintro service event move ⟨oneThread, noOverlap⟩ moves
    cases move with
    | enterShutdown => exact noOverlap (move?_enterShutdown moves)
    | session address sessionEvent =>
        intro byIoThread
        obtain ⟨inline, isEvent⟩ := move?_byIoThread moves byIoThread
        exact oneThread address sessionEvent inline isEvent
  have registry := registry_reachable obeys reached
  have orderly := Registry.orderly_of_reachable registry
  have locks := (Registry.sound_of_reachable registry).locks
  refine ⟨orderly.punctual, orderly.protocol.finishes_once,
    fun idle isShutdown empty => ?_, fun address node found => ?_,
    orderly.alive⟩
  · rcases orderly.protocol.finishes_once with unfinished | finished
    · obtain ⟨activation, isThere, -⟩ := orderly.settled.due isShutdown
        (empty_registry.mpr empty) unfinished
      have isThere : activation ∈ service.stack := isThere
      simp [idle] at isThere
    · exact finished
  · have kept : service.locker.lockCount = _ :=
      locks.of_resident (residents_eq_some found)
    rw [kept]
    exact Nat.succ_pos _

/-- The two conditions along a trace. -/
def isAlone (service : WsService Value) : ServiceEvent Value → Bool
  | .session _ _ _ => service.stack.isEmpty
  | .callShutdown => service.callers.isEmpty
  | _ => true

theorem alone_of_isAlone {event : ServiceEvent Value}
    (alone : service.isAlone event = true) :
    service.OneThread event ∧ service.NoOverlap event := by
  constructor
  · rintro address sessionEvent inline rfl
    exact List.isEmpty_iff.mp alone
  · rintro rfl -
    exact List.isEmpty_iff.mp alone

/-- The service shuts down while a session closes. -/
theorem shutdown_one_session :
    ∃ service, (serviceMachine Unit).run .constructed
        (connected 8 () ++ peerCloses 8 ++ shutsDown ++ asksOne ++
          [.session 8 (.runJob .ioThread) false,
            .session 8 (.release .ioThread) false] ++ drains 8) =
          some service ∧
      service.map.isEmpty = true ∧ service.history.finishedWith = [0] := by
  have ran : (serviceMachine Unit).run .constructed
      (connected 8 () ++ peerCloses 8 ++ shutsDown ++ asksOne ++
        [.session 8 (.runJob .ioThread) false,
          .session 8 (.release .ioThread) false] ++ drains 8) = some _ := rfl
  have admitted : (serviceMachine Unit).Admitted
      (fun service event => service.OneThread event ∧ service.NoOverlap event)
      .constructed
      (connected 8 () ++ peerCloses 8 ++ shutsDown ++ asksOne ++
        [.session 8 (.runJob .ioThread) false,
          .session 8 (.release .ioThread) false] ++ drains 8) :=
    Machine.admitted_of_checks
      (fun service event => @alone_of_isAlone _ service event) (by rfl)
  have reached := Machine.reachableUnder_of_run rfl admitted ran
  exact ⟨_, ran, rfl, (shutdown_of_noOverlap reached).2.2.1 rfl rfl rfl⟩

/-- Two calls of `shutdown()` overlap: both defer the job, and the service
finishes twice. -/
theorem finishes_twice :
    ∃ service, (serviceMachine Unit).run .constructed
        [.callShutdown, .callShutdown, .shutdownStep 0, .shutdownStep 1,
          .shutdownStep 1, .shutdownStep 0, .shutdownStep 0, .shutdownStep 1,
          .shutdownStep 0, .shutdownStep 0, .enter, .begin, .finish, .enter,
          .begin, .finish] = some service ∧
      service.history.finishedWith = [0, 0] ∧
      service.history.reported =
        [.logicError "repeated shutdown_finished() call"] ∧
      ¬(service.history.finishedWith = [] ∨
        service.history.finishedWith = [0]) := by
  refine ⟨_, rfl, rfl, rfl, ?_⟩
  rintro (unfinished | once)
  · exact List.cons_ne_nil _ _ unfinished
  · exact List.cons_ne_nil _ _ (List.cons.inj once).2

end WsService

end Webservice
