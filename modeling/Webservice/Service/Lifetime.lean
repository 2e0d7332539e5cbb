import Webservice.Library.Lists
import Webservice.Service.Roster

/-!
# The lifetime of the sessions of a service

Every drained session has exactly one `on_erase` job under way, and no other
session has one; every lock of the service but one belongs to a job.  From
this follows that a session leaves the map once, by its own job, when no
handler of it is left, and that none is orphaned.
-/

namespace Webservice

/-- Another job may run inside a job at this stage. -/
def Stage.waits : Stage → Bool
  | .admitted => false
  | .called _ _ => false
  | .inlined _ _ => false
  | .starting _ => false
  | _ => true

/-- An `on_erase` job at this stage has not erased its session. -/
def Stage.pends : Stage → Bool
  | .entered => true
  | .erasing => true
  | _ => false

/-- The job is going to erase the session. -/
def Activation.erases {Value : Type} (identifier : WsIdentifier)
    (activation : Activation Value) : Bool :=
  activation.job.erases identifier && activation.stage.pends

@[simp] theorem Stage.afterCall_waits (loop : Option Loop) :
    (Stage.afterCall loop).waits = true := by
  cases loop <;> rfl

@[simp] theorem Stage.afterCall_pends (loop : Option Loop) :
    (Stage.afterCall loop).pends = false := by
  cases loop <;> rfl

theorem Stage.finished_ne_admitted : Stage.finished ≠ .admitted :=
  fun same => nomatch same

theorem Stage.afterCall_ne_admitted (loop : Option Loop) :
    Stage.afterCall loop ≠ .admitted := by
  cases loop <;> exact fun same => nomatch same

namespace ServiceJob

variable {Value : Type} {job : ServiceJob Value}

theorem isErase_of_erases {identifier : WsIdentifier}
    (erases : job.erases identifier = true) : job.isErase = true := by
  cases job <;> first | rfl | cases erases

/-- The jobs of the user neither erase a session nor shut the service
down. -/
theorem Callable.plain {known : List WsIdentifier}
    (callable : job.Callable known) :
    job.isErase = false ∧ job.isShutdown = false := by
  cases job <;> first | exact ⟨rfl, rfl⟩ | exact callable.elim

theorem isErase_of_strandJob? (handed : job.strandJob?.isSome = true) :
    job.isErase = false := by
  cases job <;> first | rfl | cases handed

theorem plain_of_identifier? {identifier : WsIdentifier}
    (isAbout : job.identifier? = some identifier) :
    job.isErase = false ∧ job.isShutdown = false := by
  cases job <;> first | exact ⟨rfl, rfl⟩ | cases isAbout

theorem plain_of_connects? (connects : job.connects?.isSome = true) :
    job.isErase = false ∧ job.isShutdown = false := by
  cases job <;> first | exact ⟨rfl, rfl⟩ | cases connects

end ServiceJob

namespace Registry

variable {Value : Type} {rules : Registry Value → Move → Prop}
  {registry before after : Registry Value} {job : ServiceJob Value}
  {stage stage' : Stage} {rest : List (Activation Value)}

theorem stepped_of_silent {address : Nat} {resident : Resident}
    {next : WsSession} {inline : Bool}
    (silent : next.locker.callbacks = resident.session.locker.callbacks) :
    registry.stepped address resident next inline =
      registry.update address (some ⟨resident.number, next⟩) :=
  if_neg (Nat.not_lt_of_le (Nat.le_of_eq silent))

theorem stepped_of_drains {address : Nat} {resident : Resident}
    {next : WsSession} {inline : Bool}
    (drains : resident.session.locker.callbacks < next.locker.callbacks)
    (held : 0 < registry.lockCount) :
    registry.stepped address resident next inline =
      (registry.update address (some ⟨resident.number, next⟩)).put
        (.onErase ⟨address, resident.number⟩) inline := by
  have held : ¬(registry.update address
      (some ⟨resident.number, next⟩)).lockCount = 0 := Nat.ne_of_gt held
  unfold stepped putNoexcept
  simp only [if_pos drains, if_neg held]

/-! ## The stack -/

/-- Jobs run inside each other only at certain stages, and the job of
`on_shutdown`, which is deferred, inside none. -/
def Layered (registry : Registry Value) : Prop :=
  registry.stack.Pairwise fun above below =>
    above.job.isShutdown = false ∧ below.stage.waits = true

theorem Layered.toStage (layered : registry.Layered)
    (top : registry.stack = ⟨job, stage⟩ :: rest) (stage' : Stage) :
    (registry.toStage job stage' rest).Layered := by
  unfold Layered at layered
  rw [top] at layered
  exact List.pairwise_cons.mpr (List.pairwise_cons.mp layered)

theorem Layered.waits (layered : registry.Layered)
    (top : registry.stack = ⟨job, stage⟩ :: rest) :
    ∀ activation ∈ rest, activation.stage.waits = true := by
  unfold Layered at layered
  rw [top] at layered
  exact fun activation isThere =>
    ((List.pairwise_cons.mp layered).1 activation isThere).2

theorem waits_of_userCode {activation : Activation Value}
    (userCode : activation.userCode = true) :
    activation.stage.waits = true := by
  obtain ⟨job, stage⟩ := activation
  cases stage <;> cases job <;> first | rfl | cases userCode

theorem Layered.all_wait (layered : registry.Layered)
    (free : registry.mayInline = true) :
    ∀ activation ∈ registry.stack, activation.stage.waits = true := by
  cases stack : registry.stack with
  | nil => exact fun activation isThere => nomatch isThere
  | cons top rest =>
      intro activation isThere
      simp only [mayInline, stack] at free
      rcases List.mem_cons.mp isThere with rfl | below
      · exact waits_of_userCode free
      · exact layered.waits stack activation below

/-- A job starts inside the jobs that run. -/
theorem Layered.put {inline : Bool} (layered : registry.Layered)
    (notShutdown : inline = true → job.isShutdown = false)
    (waits : inline = true →
      ∀ activation ∈ registry.stack, activation.stage.waits = true) :
    (registry.put job inline).Layered := by
  cases inline with
  | false => exact layered
  | true =>
      exact List.pairwise_cons.mpr ⟨fun activation isThere =>
        ⟨notShutdown rfl, waits rfl activation isThere⟩, layered⟩

theorem Layered.putNoexcept {inline : Bool} (layered : registry.Layered)
    (notShutdown : inline = true → job.isShutdown = false)
    (waits : inline = true →
      ∀ activation ∈ registry.stack, activation.stage.waits = true) :
    (registry.putNoexcept job inline).Layered := by
  unfold Registry.putNoexcept
  split
  · exact layered
  · exact layered.put notShutdown waits

theorem Layered.stepped {address : Nat} {resident : Resident}
    {next : WsSession} {inline : Bool} (layered : registry.Layered)
    (waits : resident.session.locker.callbacks < next.locker.callbacks →
      inline = true →
      ∀ activation ∈ registry.stack, activation.stage.waits = true) :
    (registry.stepped address resident next inline).Layered := by
  unfold Registry.stepped
  have updated : (registry.update address
      (some ⟨resident.number, next⟩)).Layered := layered
  split
  · rename_i drains
    exact updated.putNoexcept (fun _ => rfl) (waits drains)
  · exact updated

/-- A session that a job has called drains only where the job goes on. -/
theorem GoesOn.waits_of_drains {target : WsIdentifier} {event : SessionEvent}
    {resident : Resident} {next : WsSession}
    (goesOn : GoesOn stage target event stage')
    (sound : registry.roster.Sound)
    (found : registry.residents target.session = some resident)
    (stepped : resident.session.step event = some next)
    (drains : resident.session.locker.callbacks < next.locker.callbacks) :
    stage'.waits = true := by
  have locks := WsSession.locksSound_of_reachable (sound.reached found)
  cases goesOn with
  | ran =>
      have silent := WsSession.step_callbacks locks rfl stepped
      omega
  | released => exact Stage.afterCall_waits _
  | started => rfl

theorem Layered.step (layered : before.Layered) (sound : before.roster.Sound)
    (step : Step rules before after) : after.Layered := by
  cases step with
  | called callable held free =>
      exact layered.put (fun _ => callable.plain.2)
        fun inline => layered.all_wait (free inline)
  | shutdownCalled unlocked allowed => exact layered
  | callerMoved moves =>
      cases moves with
      | deferred caller =>
          exact layered.putNoexcept (fun inline => nomatch inline)
            fun inline => nomatch inline
      | _ => exact layered
  | sessionMoved found stepped byIoThread free allowed =>
      refine layered.stepped fun _ inline => ?_
      rw [(free inline).1]
      exact fun activation isThere => nomatch isThere
  | entered empty queued => exact List.pairwise_singleton _ _
  | moved top moves => exact layered.toStage top _
  | dispatched top calls handed found stepped => exact layered.toStage top _
  | wentOn top goesOn found stepped allowed =>
      refine (layered.toStage top _).stepped fun drains _ => ?_
      have waits := goesOn.waits_of_drains sound found stepped drains
      exact List.forall_mem_cons.mpr ⟨waits, layered.waits top⟩
  | loopEnded top atCursor last flag => exact layered.toStage top _
  | missed top missing => exact layered.toStage top _
  | erased top found inLoop => exact layered.toStage top _
  | foundEmpty top empty =>
      show (before.toStage .onShutdown .finished _).Layered
      exact layered.toStage top _
  | finished top empty flag =>
      show (before.toStage _ .finished _).Layered
      exact layered.toStage top _
  | emplaced top connects fresh => exact layered.toStage top _
  | ended top =>
      unfold Layered at layered
      rw [top] at layered
      exact (List.pairwise_cons.mp layered).2

/-! ## The locks of the service -/

/-- Jobs that wait or run. -/
def jobs (registry : Registry Value) : Nat :=
  registry.stack.length + registry.queue.length

/-- Where the first lock of the service may be kept. -/
def pointers (registry : Registry Value) : Nat :=
  registry.runLock.toNat + registry.shutdownLock.toNat +
    registry.callers.count (.storing true)

/-- Every job holds a lock, and one more is kept until the service has shut
down. -/
structure LocksKept (registry : Registry Value) : Prop where
  upper : registry.lockCount ≤ registry.jobs + 1
  lower : registry.jobs + registry.pointers ≤ registry.lockCount
  released : registry.lockCount = registry.jobs →
    registry.Empty ∧ ∀ activation ∈ registry.stack, activation.stage ≠ .admitted

/-- The service keeps its first lock. -/
theorem LocksKept.kept (sound : registry.LocksKept)
    (needed : ¬(registry.Empty ∧
      ∀ activation ∈ registry.stack, activation.stage ≠ .admitted)) :
    registry.lockCount = registry.jobs + 1 := by
  have upper := sound.upper
  have lower := sound.lower
  have different : registry.lockCount ≠ registry.jobs := fun released =>
    needed (sound.released released)
  omega

theorem LocksKept.of_resident {address : Nat} {resident : Resident}
    (sound : registry.LocksKept)
    (found : registry.residents address = some resident) :
    registry.lockCount = registry.jobs + 1 := by
  refine sound.kept fun ⟨empty, _⟩ => ?_
  rw [empty address] at found
  cases found

theorem put_jobs (job : ServiceJob Value) (inline : Bool) :
    (registry.put job inline).jobs = registry.jobs + 1 ∧
      (registry.put job inline).lockCount = registry.lockCount + 1 := by
  cases inline with
  | false =>
      refine ⟨?_, rfl⟩
      simp only [put, jobs, Bool.false_eq_true, if_false, List.length_append,
        List.length_singleton]
      omega
  | true =>
      refine ⟨?_, rfl⟩
      simp only [put, jobs, if_true, List.length_cons]
      omega

theorem LocksKept.put (sound : registry.LocksKept) (job : ServiceJob Value)
    (inline : Bool) : (registry.put job inline).LocksKept := by
  obtain ⟨jobs, lockCount⟩ := @put_jobs _ registry job inline
  have pointers : (registry.put job inline).pointers = registry.pointers := by
    cases inline <;> rfl
  have residents : (registry.put job inline).residents =
      registry.residents :=
    congrArg Roster.residents (aside_roster.put registry job inline)
  have upper := sound.upper
  have lower := sound.lower
  refine ⟨by omega, by omega, fun released => ?_⟩
  obtain ⟨empty, none_admitted⟩ := sound.released (by omega)
  refine ⟨?_, ?_⟩
  · unfold Empty
    rw [residents]
    exact empty
  · cases inline with
    | false => exact none_admitted
    | true =>
        exact List.forall_mem_cons.mpr
          ⟨(fun same => nomatch same), none_admitted⟩

theorem LocksKept.putNoexcept (sound : registry.LocksKept)
    (job : ServiceJob Value) (inline : Bool) :
    (registry.putNoexcept job inline).LocksKept := by
  unfold Registry.putNoexcept
  split
  · exact ⟨sound.upper, sound.lower, sound.released⟩
  · exact sound.put job inline

theorem LocksKept.toStage (sound : registry.LocksKept)
    (top : registry.stack = ⟨job, stage⟩ :: rest)
    (needed : stage' = .admitted →
      registry.lockCount = registry.jobs + 1) :
    (registry.toStage job stage' rest).LocksKept := by
  have jobs : (registry.toStage job stage' rest).jobs = registry.jobs := by
    simp only [Registry.jobs, Registry.toStage, top, List.length_cons]
  refine ⟨?_, ?_, fun released => ?_⟩
  · rw [jobs]
    exact sound.upper
  · rw [jobs]
    exact sound.lower
  · rw [jobs] at released
    obtain ⟨empty, none_admitted⟩ := sound.released released
    rw [top] at none_admitted
    refine ⟨empty, List.forall_mem_cons.mpr
      ⟨fun isAdmitted => ?_, (List.forall_mem_cons.mp none_admitted).2⟩⟩
    have kept := needed isAdmitted
    have released : registry.lockCount = registry.jobs := released
    omega

/-- The map stays occupied. -/
theorem LocksKept.update {address : Nat} {resident : Resident}
    {value : Option Resident} (sound : registry.LocksKept)
    (found : registry.residents address = some resident) :
    (registry.update address value).LocksKept := by
  refine ⟨sound.upper, sound.lower, fun released => ?_⟩
  have kept := sound.of_resident found
  have released : registry.lockCount = registry.jobs := released
  omega

theorem LocksKept.stepped {address : Nat} {resident : Resident}
    {next : WsSession} {inline : Bool} (sound : registry.LocksKept)
    (found : registry.residents address = some resident) :
    (registry.stepped address resident next inline).LocksKept := by
  unfold Registry.stepped
  split
  · exact (sound.update found).putNoexcept _ _
  · exact sound.update found

theorem LocksKept.shutdownFinished (sound : registry.LocksKept)
    (empty : registry.Empty)
    (none_admitted :
      ∀ activation ∈ registry.stack, activation.stage ≠ .admitted) :
    (registry.shutdownFinished 0).LocksKept := by
  have upper := sound.upper
  have lower := sound.lower
  unfold Registry.shutdownFinished
  split
  · rename_i shut
    simp only [pointers, shut.2, Bool.toNat_true] at lower
    refine ⟨?_, ?_, fun _ => ⟨empty, none_admitted⟩⟩
    · show registry.lockCount - 1 ≤ registry.jobs + 1
      omega
    · show registry.jobs + (registry.runLock.toNat + false.toNat +
        registry.callers.count (.storing true)) ≤ registry.lockCount - 1
      simp only [Bool.toNat_false]
      omega
  · exact ⟨upper, lower, sound.released⟩

theorem LocksKept.callerMoves (sound : before.LocksKept)
    (moves : before.CallerMoves after) : after.LocksKept := by
  have lower := sound.lower
  simp only [pointers] at lower
  cases moves with
  | exchanged caller =>
      have count := Lists.count_set caller (.storing before.runLock)
        (.storing true)
      refine ⟨sound.upper, ?_, sound.released⟩
      simp only [jobs, pointers, Bool.toNat_false] at lower ⊢
      cases runLock : before.runLock <;> simp [runLock] at count lower ⊢ <;>
        omega
  | @stored index locked caller =>
      have count := Lists.count_set caller .testing (.storing true)
      refine ⟨sound.upper, ?_, sound.released⟩
      simp only [jobs, pointers] at lower ⊢
      cases locked <;> simp at count lower ⊢ <;> omega
  | locked caller locked =>
      have count := Lists.count_set caller .deferring (.storing true)
      refine ⟨sound.upper, ?_, sound.released⟩
      simp only [jobs, pointers] at lower ⊢
      simp at count
      omega
  | @unlocked index caller unlocked =>
      have fewer := (List.eraseIdx_sublist before.callers index).count_le
        (.storing true)
      refine ⟨sound.upper, ?_, sound.released⟩
      simp only [jobs, pointers] at lower ⊢
      omega
  | @deferred index caller =>
      have deferred := sound.putNoexcept .onShutdown false
      have fewer := (List.eraseIdx_sublist before.callers index).count_le
        (.storing true)
      have lower := deferred.lower
      refine ⟨deferred.upper, ?_, deferred.released⟩
      have callers : (before.putNoexcept .onShutdown false).callers =
          before.callers := by
        unfold Registry.putNoexcept
        split <;> rfl
      simp only [jobs, pointers, callers] at lower ⊢
      omega

theorem Moves.runLock_of_admitted
    (moves : registry.Moves job stage .admitted) :
    registry.runLock = true := by
  generalize same : Stage.admitted = stage' at moves
  cases moves with
  | admitted connects runLock => exact runLock
  | skipped => exact absurd same.symm (Stage.afterCall_ne_admitted _)
  | _ => cases same

theorem LocksKept.of_runLock (sound : registry.LocksKept)
    (runLock : registry.runLock = true) :
    registry.lockCount = registry.jobs + 1 := by
  have upper := sound.upper
  have lower := sound.lower
  simp only [pointers, runLock, Bool.toNat_true] at lower
  omega

theorem LocksKept.moved (sound : registry.LocksKept)
    (top : registry.stack = ⟨job, stage⟩ :: rest)
    (plain : stage' ≠ .admitted) :
    (registry.toStage job stage' rest).LocksKept :=
  sound.toStage top fun isAdmitted => absurd isAdmitted plain

theorem GoesOn.ne_admitted {target : WsIdentifier} {event : SessionEvent}
    (goesOn : GoesOn stage target event stage') : stage' ≠ .admitted := by
  cases goesOn with
  | ran => exact fun same => nomatch same
  | released => exact Stage.afterCall_ne_admitted _
  | started => exact fun same => nomatch same

theorem ne_admitted_of_waits {activation : Activation Value}
    (waits : activation.stage.waits = true) :
    activation.stage ≠ .admitted := by
  intro isAdmitted
  rw [isAdmitted] at waits
  cases waits

/-- The service may have finished to shut down. -/
theorem LocksKept.finishes (sound : registry.LocksKept)
    (layered : registry.Layered)
    (top : registry.stack = ⟨job, stage⟩ :: rest)
    (plain : stage ≠ .admitted) (empty : registry.Empty) :
    ((registry.shutdownFinished 0).toStage job .finished rest).LocksKept := by
  have finished := sound.shutdownFinished empty (by
    rw [top]
    exact List.forall_mem_cons.mpr ⟨plain, fun activation isThere =>
      ne_admitted_of_waits (layered.waits top activation isThere)⟩)
  exact finished.moved ((shutdownFinished_stack _ _).trans top)
    fun same => nomatch same

theorem LocksKept.step (sound : before.LocksKept) (layered : before.Layered)
    (step : Step rules before after) : after.LocksKept := by
  cases step with
  | called callable held free => exact sound.put _ _
  | shutdownCalled unlocked allowed =>
      have lower := sound.lower
      refine ⟨sound.upper, ?_, sound.released⟩
      simpa [jobs, pointers] using lower
  | callerMoved moves => exact sound.callerMoves moves
  | sessionMoved found stepped byIoThread free allowed =>
      exact sound.stepped found
  | @entered job queue empty queued =>
      have jobs : Registry.jobs { before with
          stack := [⟨job, .entered⟩], queue := queue } = before.jobs := by
        simp only [Registry.jobs, empty, queued, List.length_cons,
          List.length_nil]
        omega
      refine ⟨jobs ▸ sound.upper, ?_, fun released => ?_⟩
      · rw [jobs]
        exact sound.lower
      · refine ⟨(sound.released (released.trans jobs)).1, ?_⟩
        exact List.forall_mem_singleton.mpr fun same => nomatch same
  | moved top moves =>
      refine sound.toStage top fun isAdmitted => ?_
      subst isAdmitted
      exact sound.of_runLock moves.runLock_of_admitted
  | @dispatched job stage rest target loop _ _ _ top calls handed found _ =>
      have moved : (before.toStage job (.called target loop)
          rest).LocksKept := sound.moved top fun same => nomatch same
      exact moved.update found
  | wentOn top goesOn found stepped allowed =>
      exact (sound.moved top goesOn.ne_admitted).stepped found
  | loopEnded top atCursor last flag =>
      have moved := sound.moved top Stage.finished_ne_admitted
      exact ⟨moved.upper, moved.lower, moved.released⟩
  | missed top missing =>
      have moved := sound.moved top Stage.finished_ne_admitted
      exact ⟨moved.upper, moved.lower, moved.released⟩
  | @erased identifier rest resident inLoop top found isInLoop =>
      have moved : (before.toStage (.onErase identifier) .erased
          rest).LocksKept := sound.moved top fun same => nomatch same
      have erased : (Registry.update _ identifier.session none).LocksKept :=
        moved.update found
      exact ⟨erased.upper, erased.lower, erased.released⟩
  | foundEmpty top empty =>
      have finished := sound.finishes layered top
        (fun same => nomatch same) empty
      exact ⟨finished.upper, finished.lower, finished.released⟩
  | finished top empty flag =>
      exact sound.finishes layered top (fun same => nomatch same) empty
  | @emplaced job rest role address top connects fresh =>
      have kept : before.lockCount = before.jobs + 1 := by
        refine sound.kept fun ⟨_, none_admitted⟩ => ?_
        rw [top] at none_admitted
        exact none_admitted _ List.mem_cons_self rfl
      have moved : (before.toStage job (.starting
          ⟨address, before.created.length⟩) rest).LocksKept :=
        sound.moved top fun same => nomatch same
      refine ⟨moved.upper, moved.lower, fun released => ?_⟩
      have released : before.lockCount =
        (rest.length + 1) + before.queue.length := released
      simp only [Registry.jobs, top, List.length_cons] at kept
      omega
  | @ended job rest top =>
      have jobs : before.jobs = Registry.jobs { before with
          stack := rest, lockCount := before.lockCount - 1 } + 1 := by
        simp only [Registry.jobs, top, List.length_cons]
        omega
      have upper := sound.upper
      have lower := sound.lower
      have released := sound.released
      rw [top] at released
      refine ⟨?_, ?_, fun released' => ?_⟩
      · show before.lockCount - 1 ≤ _
        omega
      · show _ + before.pointers ≤ before.lockCount - 1
        omega
      · have released' : before.lockCount - 1 = _ := released'
        obtain ⟨empty, none_admitted⟩ := released (by omega)
        exact ⟨empty, (List.forall_mem_cons.mp none_admitted).2⟩

/-- What holds of the jobs and locks of a service at any time. -/
theorem locksKept {registry : Registry Value}
    (reached : Reachable rules registry) :
    registry.Layered ∧ registry.LocksKept := by
  refine reached.invariantOver
    (fun registry => registry.Layered ∧ registry.LocksKept) ?_ ?_
  · exact ⟨.nil, Nat.le_refl 1, Nat.le_refl 1,
      fun released => nomatch released⟩
  · intro before after earlier sound step
    exact ⟨sound.1.step (roster_sound earlier) step, sound.2.step sound.1 step⟩

/-! ## The jobs that erase sessions -/

/-- How many jobs are going to erase the session. -/
def pending (registry : Registry Value) (identifier : WsIdentifier) : Nat :=
  registry.stack.countP (·.erases identifier) +
    registry.queue.countP (·.erases identifier)

/-- How often the locker of the session has called back. -/
def due (registry : Registry Value) (identifier : WsIdentifier) : Nat :=
  match registry.residents identifier.session with
  | none => 0
  | some resident =>
      if resident.number = identifier.owner then
        resident.session.locker.callbacks
      else 0

/-- Each callback of a locker has its job. -/
def Balanced (registry : Registry Value) : Prop :=
  ∀ identifier, registry.pending identifier = registry.due identifier

theorem due_of_number {identifier : WsIdentifier} {resident : Resident}
    (found : registry.residents identifier.session = some resident)
    (owner : resident.number = identifier.owner) :
    registry.due identifier = resident.session.locker.callbacks := by
  simp [due, found, owner]

theorem due_of_other {identifier : WsIdentifier}
    (other : ∀ resident,
      registry.residents identifier.session = some resident →
      resident.number ≠ identifier.owner) : registry.due identifier = 0 := by
  unfold due
  cases found : registry.residents identifier.session with
  | none => rfl
  | some resident => exact if_neg (other resident found)

theorem put_pending (job : ServiceJob Value) (inline : Bool)
    (identifier : WsIdentifier) :
    (registry.put job inline).pending identifier =
      registry.pending identifier + (job.erases identifier).toNat := by
  cases inline with
  | false =>
      simp only [put, pending, Bool.false_eq_true, if_false,
        List.countP_append, List.countP_singleton]
      cases job.erases identifier with
      | false => rfl
      | true => exact (Nat.add_assoc _ _ _).symm
  | true =>
      simp only [put, pending, if_true, List.countP_cons, Activation.erases,
        Stage.pends, Bool.and_true]
      cases job.erases identifier with
      | false => rfl
      | true => exact Nat.add_right_comm _ _ _

theorem toStage_pending (top : registry.stack = ⟨job, stage⟩ :: rest)
    (same : job.isErase = true → stage'.pends = stage.pends)
    (identifier : WsIdentifier) :
    (registry.toStage job stage' rest).pending identifier =
      registry.pending identifier := by
  have erases : Activation.erases identifier ⟨job, stage'⟩ =
      Activation.erases identifier ⟨job, stage⟩ := by
    cases erases : job.erases identifier with
    | false => simp [Activation.erases, erases]
    | true =>
        simp only [Activation.erases,
          same (ServiceJob.isErase_of_erases erases)]
  simp only [pending, toStage, top, List.countP_cons, erases]

theorem Balanced.toStage (balanced : registry.Balanced)
    (top : registry.stack = ⟨job, stage⟩ :: rest)
    (same : job.isErase = true → stage'.pends = stage.pends) :
    (registry.toStage job stage' rest).Balanced := fun identifier =>
  (toStage_pending top same identifier).trans (balanced identifier)

theorem Moves.pends (moves : registry.Moves job stage stage')
    (isErase : job.isErase = true) : stage'.pends = stage.pends := by
  cases moves with
  | nothing notErase notShutdown =>
      exact absurd (isErase.symm.trans notErase) (by decide)
  | startLoop handed everyone atCursor least present =>
      have notErase := ServiceJob.isErase_of_strandJob? handed
      exact absurd (isErase.symm.trans notErase) (by decide)
  | admitted connects runLock =>
      have notErase := (ServiceJob.plain_of_connects? connects).1
      exact absurd (isErase.symm.trans notErase) (by decide)
  | skipped => exact Stage.afterCall_pends _
  | _ => rfl

theorem GoesOn.pends {target : WsIdentifier} {event : SessionEvent}
    (goesOn : GoesOn stage target event stage') :
    stage'.pends = stage.pends := by
  cases goesOn with
  | released => exact Stage.afterCall_pends _
  | _ => rfl

theorem update_due_of_other {address : Nat} {value : Option Resident}
    {identifier : WsIdentifier} (other : identifier.session ≠ address) :
    (registry.update address value).due identifier =
      registry.due identifier := by
  simp only [due, update, Function.update_of_ne other]

theorem update_due {address : Nat} {resident : Resident}
    {identifier : WsIdentifier} (same : identifier.session = address) :
    (registry.update address (some resident)).due identifier =
      if resident.number = identifier.owner then
        resident.session.locker.callbacks
      else 0 := by
  subst same
  simp only [due, update, Function.update_self]

/-- A session that does not drain is due as before. -/
theorem update_due_of_silent {address : Nat} {resident : Resident}
    {next : WsSession} (found : registry.residents address = some resident)
    (silent : next.locker.callbacks = resident.session.locker.callbacks)
    (identifier : WsIdentifier) :
    (registry.update address (some ⟨resident.number, next⟩)).due identifier =
      registry.due identifier := by
  by_cases same : identifier.session = address
  · subst same
    rw [update_due rfl, due, found, silent]
  · exact update_due_of_other same

/-- A session that drains is due once more. -/
theorem update_due_of_drains {address : Nat} {resident : Resident}
    {next : WsSession} (found : registry.residents address = some resident)
    (drains : next.locker.callbacks = resident.session.locker.callbacks + 1)
    (identifier : WsIdentifier) :
    (registry.update address (some ⟨resident.number, next⟩)).due identifier =
      registry.due identifier + (ServiceJob.erases identifier
        (.onErase ⟨address, resident.number⟩ : ServiceJob Value)).toNat := by
  obtain ⟨session, owner⟩ := identifier
  by_cases same : session = address
  · subst same
    simp only [due, update, Function.update_self, found]
    by_cases isOwner : resident.number = owner <;>
      simp [ServiceJob.erases, isOwner, drains]
  · have other : ¬address = session := fun isSame => same isSame.symm
    rw [update_due_of_other same]
    simp [ServiceJob.erases, other]

theorem put_due (job : ServiceJob Value) (inline : Bool)
    (identifier : WsIdentifier) :
    (registry.put job inline).due identifier = registry.due identifier := by
  cases inline <;> rfl

/-- A drained session gets its job in the step that drains it. -/
theorem Balanced.stepped {address : Nat} {event : SessionEvent}
    {resident : Resident} {next : WsSession} {inline : Bool}
    (balanced : registry.Balanced) (sound : registry.roster.Sound)
    (held : 0 < registry.lockCount)
    (found : registry.residents address = some resident)
    (stepped : resident.session.step event = some next) :
    (registry.stepped address resident next inline).Balanced := by
  have locks := WsSession.locksSound_of_reachable (sound.reached found)
  have grows := (WsSession.step_kept locks stepped).callbacks
  have atMostOnce : next.locker.callbacks ≤ 1 := by
    rw [WsSession.callbacks_eq (WsSession.step_locksSound locks stepped)]
    split <;> decide
  intro identifier
  have was : (registry.update address
      (some ⟨resident.number, next⟩)).pending identifier =
        registry.due identifier := balanced identifier
  by_cases drains : resident.session.locker.callbacks < next.locker.callbacks
  · rw [stepped_of_drains drains held, put_pending, put_due, was]
    exact (update_due_of_drains found (by omega) identifier).symm
  · have silent : next.locker.callbacks =
        resident.session.locker.callbacks := by omega
    rw [stepped_of_silent silent, was]
    exact (update_due_of_silent found silent identifier).symm

theorem Balanced.put (balanced : registry.Balanced) (inline : Bool)
    (notErase : job.isErase = false) :
    (registry.put job inline).Balanced := by
  intro identifier
  have notErases : job.erases identifier = false :=
    Bool.eq_false_iff.mpr fun erases => absurd
      ((ServiceJob.isErase_of_erases erases).symm.trans notErase) (by decide)
  rw [put_pending, put_due, notErases]
  exact balanced identifier

theorem Balanced.putNoexcept (balanced : registry.Balanced) (inline : Bool)
    (notErase : job.isErase = false) :
    (registry.putNoexcept job inline).Balanced := by
  unfold Registry.putNoexcept
  split
  · exact balanced
  · exact balanced.put inline notErase

theorem Balanced.shutdownFinished (balanced : registry.Balanced)
    (size : Nat) : (registry.shutdownFinished size).Balanced := by
  unfold Registry.shutdownFinished
  split <;> exact balanced

/-- A job that is going to erase a session finds it, drained. -/
theorem Balanced.found (balanced : registry.Balanced)
    (sound : registry.roster.Sound) {identifier : WsIdentifier}
    (top : registry.stack = ⟨.onErase identifier, stage⟩ :: rest)
    (pends : stage.pends = true) :
    ∃ resident, registry.residents identifier.session = some resident ∧
      resident.number = identifier.owner ∧
      resident.session.locker.lockCount = 0 := by
  have some_pending : 0 < registry.pending identifier := by
    simp only [pending, top, List.countP_cons, Activation.erases,
      ServiceJob.erases, pends, decide_true, Bool.and_self, if_true]
    omega
  rw [balanced identifier, due] at some_pending
  split at some_pending
  · cases some_pending
  · rename_i resident found
    split at some_pending
    · rename_i owner
      refine ⟨resident, found, owner, ?_⟩
      have locks := WsSession.locksSound_of_reachable (sound.reached found)
      rw [WsSession.callbacks_eq locks] at some_pending
      by_contra held
      rw [if_neg held] at some_pending
      cases some_pending
    · cases some_pending

/-- The job that erases a session was the only one to do so. -/
theorem Balanced.erased {identifier : WsIdentifier}
    (balanced : registry.Balanced) (sound : registry.roster.Sound)
    (top : registry.stack = ⟨.onErase identifier, .erasing⟩ :: rest) :
    ((registry.toStage (.onErase identifier) .erased rest).update
      identifier.session none).Balanced := by
  obtain ⟨resident, found, owner, drained⟩ := balanced.found sound top rfl
  have locks := WsSession.locksSound_of_reachable (sound.reached found)
  have calledBack : resident.session.locker.callbacks = 1 := by
    rw [WsSession.callbacks_eq locks, if_pos drained]
  intro other
  have was := balanced other
  have pending : registry.pending other =
      (registry.toStage (.onErase identifier) .erased rest).pending other +
        if identifier = other then 1 else 0 := by
    simp only [Registry.pending, Registry.toStage, top, List.countP_cons,
      Activation.erases, ServiceJob.erases, Stage.pends, Bool.and_true,
      Bool.and_false, decide_eq_true_eq, Bool.false_eq_true, if_false]
    omega
  show (registry.toStage (.onErase identifier) .erased rest).pending other = _
  by_cases same : other.session = identifier.session
  · have none_due : ((registry.toStage (.onErase identifier) .erased
        rest).update identifier.session none).due other = 0 := by
      simp only [due, update, same, Function.update_self]
    have found : registry.residents other.session = some resident :=
      same ▸ found
    rw [none_due]
    by_cases isOwner : resident.number = other.owner
    · have isJob : identifier = other := by
        obtain ⟨session, number⟩ := identifier
        obtain ⟨otherSession, otherNumber⟩ := other
        rw [WsIdentifier.mk.injEq]
        exact ⟨same.symm, owner.symm.trans isOwner⟩
      rw [due_of_number found isOwner, calledBack] at was
      rw [if_pos isJob] at pending
      omega
    · have nothing : registry.due other = 0 :=
        due_of_other fun resident' isThere => by
          rw [found] at isThere
          cases isThere
          exact isOwner
      omega
  · have notJob : identifier ≠ other := fun isJob => same (by rw [isJob])
    rw [update_due_of_other same]
    rw [if_neg notJob] at pending
    exact pending.symm.trans was

theorem Calls.pends {target : WsIdentifier} {loop : Option Loop}
    (calls : registry.Calls job stage target loop)
    (isErase : job.isErase = true) :
    (Stage.called target loop).pends = stage.pends := by
  cases calls with
  | act isAbout =>
      have notErase := (ServiceJob.plain_of_identifier? isAbout).1
      exact absurd (isErase.symm.trans notErase) (by decide)
  | visit everyone atCursor => rfl

theorem Balanced.emplaced {address : Nat} {role : Role} {number : Nat}
    (balanced : registry.Balanced)
    (fresh : registry.residents address = none) :
    (registry.update address (some ⟨number, .launched role⟩)).Balanced := by
  intro identifier
  have was : (registry.update address
      (some ⟨number, .launched role⟩)).pending identifier =
        registry.due identifier := balanced identifier
  rw [was]
  by_cases same : identifier.session = address
  · subst same
    have silent : (WsSession.launched role).locker.callbacks = 0 := by
      cases role <;> rfl
    simp [due, update, fresh, silent]
  · exact (update_due_of_other same).symm

theorem Balanced.step (balanced : before.Balanced)
    (sound : before.roster.Sound) (kept : before.LocksKept)
    (step : Step rules before after) : after.Balanced := by
  cases step with
  | called callable held free => exact balanced.put _ callable.plain.1
  | shutdownCalled unlocked allowed => exact balanced
  | callerMoved moves =>
      cases moves with
      | deferred caller => exact balanced.putNoexcept false rfl
      | _ => exact balanced
  | sessionMoved found stepped byIoThread free allowed =>
      refine balanced.stepped sound ?_ found stepped
      rw [kept.of_resident found]
      exact Nat.succ_pos _
  | entered empty queued =>
      intro identifier
      refine Eq.trans ?_ (balanced identifier)
      simp only [pending, empty, queued, List.countP_cons, List.countP_nil,
        Activation.erases, Stage.pends, Bool.and_true]
      omega
  | moved top moves => exact balanced.toStage top moves.pends
  | @dispatched _ _ _ _ _ strandJob resident next top calls handed found
      stepped =>
      obtain ⟨-, rfl⟩ := WsSession.step_dispatch stepped
      have kept := WsSession.dispatch_stepKept resident.session strandJob
      have moved := balanced.toStage top calls.pends
      intro identifier
      refine (moved identifier).trans ?_
      exact (update_due_of_silent found (kept.locks rfl).1 identifier).symm
  | wentOn top goesOn found stepped allowed =>
      refine (balanced.toStage top fun _ => goesOn.pends).stepped sound ?_
        found stepped
      show 0 < before.lockCount
      rw [kept.of_resident found]
      exact Nat.succ_pos _
  | loopEnded top atCursor last flag =>
      exact balanced.toStage top fun _ => rfl
  | missed top missing =>
      obtain ⟨resident, found, -⟩ := balanced.found sound top rfl
      cases missing.symm.trans found
  | erased top found inLoop => exact balanced.erased sound top
  | foundEmpty top empty =>
      have finished := balanced.shutdownFinished 0
      exact finished.toStage ((shutdownFinished_stack _ _).trans top)
        fun isErase => nomatch isErase
  | finished top empty flag =>
      have finished := balanced.shutdownFinished 0
      exact finished.toStage ((shutdownFinished_stack _ _).trans top)
        fun _ => rfl
  | emplaced top connects fresh =>
      exact (balanced.toStage top fun isErase => absurd (isErase.symm.trans
        (ServiceJob.plain_of_connects? (by rw [connects]; rfl)).1)
          (by decide)).emplaced fresh
  | ended top =>
      intro identifier
      refine Eq.trans ?_ (balanced identifier)
      simp only [pending, top, List.countP_cons, Activation.erases,
        Stage.pends, Bool.and_false, Bool.false_eq_true, if_false,
        Nat.add_zero]

/-! ## Every run -/

/-- What is known of every service: its sessions, its locks and the jobs that
erase sessions. -/
structure Sound (registry : Registry Value) : Prop where
  roster : registry.roster.Sound
  layered : registry.Layered
  locks : registry.LocksKept
  balanced : registry.Balanced

theorem sound_of_reachable {registry : Registry Value}
    (reached : Reachable rules registry) : registry.Sound := by
  have balanced : registry.Balanced := by
    refine reached.invariantOver Balanced (fun _ => rfl) ?_
    intro before after earlier balanced step
    exact balanced.step (roster_sound earlier) (locksKept earlier).2 step
  exact ⟨roster_sound reached, (locksKept reached).1, (locksKept reached).2,
    balanced⟩

/-- What became of sessions that left the map. -/
structure Ledger where
  removals : List Removal
  missed : List WsIdentifier

def ledger (registry : Registry Value) : Ledger :=
  ⟨registry.removals, registry.missed⟩

theorem aside_ledger : @Aside Value _ ledger :=
  fun _ _ _ _ _ _ _ _ _ _ => rfl

/-- The session left the map by the job of its own callback, when nobody held
a lock. -/
structure Removal.Sound (removal : Removal) : Prop where
  own : removal.identifier = removal.session
  calledBack : removal.callbacks = 1
  unowned : removal.holders = 0

def RemovalsSound (registry : Registry Value) : Prop :=
  (∀ removal ∈ registry.removals, Removal.Sound removal) ∧
    registry.missed = []

theorem RemovalsSound.congr (removals : before.RemovalsSound)
    (same : after.ledger = before.ledger) : after.RemovalsSound := by
  obtain ⟨sameRemovals, sameMissed⟩ := Ledger.mk.inj same
  unfold RemovalsSound
  rw [sameRemovals, sameMissed]
  exact removals

theorem RemovalsSound.step (removals : before.RemovalsSound)
    (sound : before.Sound) (step : Step rules before after) :
    after.RemovalsSound := by
  cases step with
  | called callable held free => exact removals.congr (aside_ledger.put _ _ _)
  | shutdownCalled unlocked allowed => exact removals
  | callerMoved moves => exact removals.congr (aside_ledger.callerMoves moves)
  | sessionMoved found stepped byIoThread free allowed =>
      exact removals.congr (aside_ledger.stepped _ _ _ _ _)
  | entered empty queued => exact removals
  | moved top moves => exact removals
  | dispatched top calls handed found stepped => exact removals
  | wentOn top goesOn found stepped allowed =>
      exact removals.congr (aside_ledger.stepped _ _ _ _ _)
  | loopEnded top atCursor last flag => exact removals
  | missed top missing =>
      obtain ⟨resident, found, -⟩ := sound.balanced.found sound.roster top rfl
      cases missing.symm.trans found
  | @erased identifier rest resident inLoop top isThere isInLoop =>
      obtain ⟨resident', found, owner, drained⟩ :=
        sound.balanced.found sound.roster top rfl
      cases isThere.symm.trans found
      have locks := WsSession.locksSound_of_reachable
        (sound.roster.reached found)
      refine ⟨List.forall_mem_append.mpr ⟨removals.1, ?_⟩, removals.2⟩
      refine List.forall_mem_singleton.mpr ⟨?_, ?_, ?_⟩
      · rw [owner]
      · exact (WsSession.callbacks_eq locks).trans (if_pos drained)
      · exact locks.counted.symm.trans drained
  | foundEmpty top empty =>
      exact removals.congr (aside_ledger.shutdownFinished before 0)
  | finished top empty flag =>
      exact removals.congr (aside_ledger.shutdownFinished before 0)
  | emplaced top connects fresh => exact removals
  | ended top => exact removals

theorem removalsSound_of_reachable {registry : Registry Value}
    (reached : Reachable rules registry) : registry.RemovalsSound := by
  refine reached.invariantOver RemovalsSound ?_ ?_
  · exact ⟨(fun removal isRemoved => nomatch isRemoved), rfl⟩
  · intro before after earlier removals step
    exact removals.step (sound_of_reachable earlier) step

/-- An erased session takes its last step. -/
theorem Sound.erases {registry : Registry Value} (sound : registry.Sound)
    {identifier : WsIdentifier} {resident : Resident}
    (top : registry.stack = ⟨.onErase identifier, .erasing⟩ :: rest)
    (isThere : registry.residents identifier.session = some resident) :
    resident.session.step .erase = some resident.session.destroyed := by
  obtain ⟨resident', found, -, drained⟩ :=
    sound.balanced.found sound.roster top rfl
  cases isThere.symm.trans found
  have locks := WsSession.locksSound_of_reachable
    (sound.roster.reached found)
  have calledBack : resident.session.locker.callbacks = 1 :=
    (WsSession.callbacks_eq locks).trans (if_pos drained)
  simp [WsSession.step, calledBack, sound.roster.alive found]

/-- While no job runs, a session whose locks are gone waits for its job. -/
theorem Sound.queued {registry : Registry Value} (sound : registry.Sound)
    (idle : registry.stack = []) {address : Nat} {resident : Resident}
    (found : registry.residents address = some resident) :
    0 < resident.session.locker.lockCount ∨
      .onErase ⟨address, resident.number⟩ ∈ registry.queue := by
  by_cases drained : resident.session.locker.lockCount = 0
  · have locks := WsSession.locksSound_of_reachable
      (sound.roster.reached found)
    have balance := sound.balanced ⟨address, resident.number⟩
    rw [due_of_number found rfl, WsSession.callbacks_eq locks,
      if_pos drained] at balance
    simp only [pending, idle, List.countP_nil, Nat.zero_add] at balance
    have some_job : 0 < registry.queue.countP
        (·.erases ⟨address, resident.number⟩) := by omega
    obtain ⟨job, isQueued, erases⟩ := List.countP_pos_iff.mp some_job
    cases job with
    | onErase identifier =>
        simp only [ServiceJob.erases, decide_eq_true_eq] at erases
        exact .inr (erases ▸ isQueued)
    | _ => cases erases
  · exact .inl (Nat.pos_of_ne_zero drained)

end Registry

namespace WsService

variable {Value : Type}

/-- The registry of a service in any run. -/
theorem registry_of_reachable {service : WsService Value}
    (reached : (serviceMachine Value).Reachable service) :
    Registry.Reachable (fun _ _ => True) service.registry :=
  registry_reachable (fun _ _ _ _ _ => trivial) reached

/-- The lifetime of sessions: each leaves the map at most once, by the job of
its own callback, when no handler holds a lock of it; no `on_erase` misses
its session; and none is orphaned. -/
theorem lifetime_of_reachable {service : WsService Value}
    (reached : (serviceMachine Value).Reachable service) :
    (service.history.removals.map Removal.session).Nodup ∧
      (∀ removal ∈ service.history.removals,
        removal.identifier = removal.session ∧ removal.callbacks = 1 ∧
          removal.holders = 0) ∧
      service.history.missed = [] ∧
      (service.stack = [] → ∀ address node,
        service.map.find? address = some node →
          0 < node.session.locker.lockCount ∨
            .onErase ⟨address, node.number⟩ ∈ service.queue) := by
  have registry := registry_of_reachable reached
  have sound := Registry.sound_of_reachable registry
  obtain ⟨removals, missed⟩ := Registry.removalsSound_of_reachable registry
  refine ⟨sound.roster.once, fun removal isRemoved => ?_, missed,
    fun idle address node found => ?_⟩
  · have removed := removals removal isRemoved
    exact ⟨removed.own, removed.calledBack, removed.unowned⟩
  · exact sound.queued idle (residents_eq_some found)

/-- The sessions in the map, and those taken out of it, are sessions that
ran on their own. -/
theorem session_of_reachable {service : WsService Value}
    (reached : (serviceMachine Value).Reachable service) {address : Nat}
    {node : Node Value} (found : service.map.find? address = some node) :
    sessionMachine.Reachable node.session ∧
      ∀ identifier rest, identifier.session = address →
        service.stack = ⟨.onErase identifier, .erasing⟩ :: rest →
        sessionMachine.Reachable node.session.destroyed := by
  have sound := Registry.sound_of_reachable (registry_of_reachable reached)
  have isReached := sound.roster.reached (residents_eq_some found)
  refine ⟨isReached, ?_⟩
  rintro identifier rest rfl top
  have erases : sessionMachine.step node.session .erase =
      some node.session.destroyed :=
    sound.erases top (residents_eq_some found)
  exact .step isReached trivial erases

/-- A job of the user waits in the queue until the strand is idle. -/
def queued (job : ServiceJob Value) : List (ServiceEvent Value) :=
  [.call job false, .enter, .begin]

/-- A client session is made at the address. -/
def connected (address : Nat) (value : Value) : List (ServiceEvent Value) :=
  queued (.clientConnect value) ++
    [.emplace address, .startReturns, .finish]

/-- The peer of a new client session closes; the callback `on_open` still
runs. -/
def peerCloses (address : Nat) : List (ServiceEvent Value) :=
  [.session address .callbackBegins false,
    .session address (.readDone (some .closed) [] false false) false,
    .session address (.release .ioThread) false] ++
  (List.replicate 3
    [.session address (.timerDone (some .operationAborted)) false,
      .session address (.release .ioThread) false]).flatten

/-- The last handler of the session is done and `on_erase` runs. -/
def drains (address : Nat) : List (ServiceEvent Value) :=
  [.session address .callbackReturns false, .enter, .begin, .eraseEntry,
    .conclude, .finish]

/-- A session comes and goes. -/
theorem lifetime_one_session :
    ∃ service, (serviceMachine Unit).run .constructed
        (connected 8 () ++ peerCloses 8 ++ drains 8) = some service ∧
      service.history.removals = [⟨⟨8, 0⟩, ⟨8, 0⟩, 1, 0⟩] ∧
      (service.history.removals.map Removal.session).Nodup := by
  have ran : (serviceMachine Unit).run .constructed
      (connected 8 () ++ peerCloses 8 ++ drains 8) = some _ := rfl
  have initial : (serviceMachine Unit).initial .constructed := rfl
  have reached := Machine.reachable_of_run initial ran
  exact ⟨_, ran, rfl, (lifetime_of_reachable reached).1⟩

end WsService

end Webservice
