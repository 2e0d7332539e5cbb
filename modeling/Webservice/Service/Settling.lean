import Webservice.Service.Shutdown

/-!
# A service that has come to rest

On any number of io threads, while no two calls of `shutdown()` overlap: when
no job waits or runs and no session has an operation outstanding, the map is
empty, and the locker is free exactly if the service was shut down.
-/

namespace Webservice

namespace ShutdownProtocol

/-- The protocol without the finishes that come after the first. -/
def once (protocol : ShutdownProtocol) : ShutdownProtocol :=
  { protocol with finishedWith := protocol.finishedWith.take 1 }

/-- One step, while a job may also finish what has finished already. -/
inductive Goes (protocol : ShutdownProtocol) : ShutdownProtocol → Prop where
  | steps {next : ShutdownProtocol} : protocol.Step next → Goes protocol next
  | again : protocol.shutdown = true → Goes protocol protocol.shutdownFinished

variable {before after : ShutdownProtocol}

theorem once_of_unfinished (unfinished : before.finishedWith = []) :
    before.once = before := by
  unfold once
  rw [unfinished, List.take_nil, ← unfinished]

/-- A finish that does not come first is not seen. -/
theorem once_shutdownFinished (finished : before.finishedWith ≠ [])
    (unlocked : before.shutdownLock = false) :
    before.shutdownFinished.once = before.once := by
  have first : (before.finishedWith ++ [0]).take 1 =
      before.finishedWith.take 1 :=
    List.take_append_of_le_length (List.length_pos_iff.mpr finished)
  unfold shutdownFinished once
  simp only [first, unlocked, Bool.and_false]

theorem Sound.unlocked_of_finished (sound : before.once.Sound)
    (finished : before.finishedWith ≠ []) : before.shutdownLock = false := by
  obtain ⟨phase, isPhase⟩ := sound
  have lock := congrArg shutdownLock isPhase
  have sizes := congrArg finishedWith isPhase
  have some_size : before.finishedWith.take 1 ≠ [] := by
    simpa using finished
  cases phase <;> first
    | exact lock
    | exact absurd sizes some_size

/-- A job of `on_shutdown` finds a service that has not finished. -/
theorem Sound.unfinished_of_job (sound : before.once.Sound) {jobs : Nat}
    (isJob : before.jobs = jobs + 1) : before.finishedWith = [] := by
  obtain ⟨phase, isPhase⟩ := sound
  have sizes := congrArg finishedWith isPhase
  have waits := congrArg ShutdownProtocol.jobs isPhase
  have none_size : before.finishedWith.take 1 = [] := by
    cases phase <;> first
      | exact sizes
      | exact absurd (isJob.symm.trans waits) (Nat.succ_ne_zero jobs)
  simpa using none_size

theorem Sound.goes (sound : before.once.Sound) (goes : before.Goes after) :
    after.once.Sound := by
  cases goes with
  | again isShutdown =>
      by_cases unfinished : before.finishedWith = []
      · rw [once_of_unfinished unfinished] at sound
        have finished := sound.step (.finished isShutdown unfinished)
        unfold once
        simpa [shutdownFinished, unfinished] using finished
      · rw [once_shutdownFinished unfinished
          (sound.unlocked_of_finished unfinished)]
        exact sound
  | steps step =>
      cases step with
      | same => exact sound
      | called none_calls unlocked =>
          exact sound.step (.called none_calls unlocked)
      | exchanged caller => exact sound.step (.exchanged caller)
      | stored caller => exact sound.step (.stored caller)
      | locked caller isLocked => exact sound.step (.locked caller isLocked)
      | unlocked caller isUnlocked =>
          exact sound.step (.unlocked caller isUnlocked)
      | deferred caller => exact sound.step (.deferred caller)
      | asked isJob => exact sound.step (.asked isJob)
      | foundEmpty isJob =>
          have unfinished := sound.unfinished_of_job isJob
          rw [once_of_unfinished unfinished] at sound
          have finished := sound.step (.foundEmpty isJob)
          unfold once
          simpa [shutdownFinished, unfinished] using finished
      | finished isShutdown unfinished =>
          rw [once_of_unfinished unfinished] at sound
          have finished := sound.step (.finished isShutdown unfinished)
          unfold once
          simpa [shutdownFinished, unfinished] using finished

end ShutdownProtocol

namespace Registry

variable {Value : Type} {rules : Registry Value → Move → Prop}
  {registry before after : Registry Value} {job : ServiceJob Value}
  {stage stage' : Stage} {rest : List (Activation Value)}

/-! ## The service finishes when nothing is left -/

/-- A service only finishes with an empty map; and when the map of a service
that is shut down is empty it has finished, or a job is about to see to it. -/
structure Finishes (registry : Registry Value) : Prop where
  done : registry.finishedWith ≠ [] →
    registry.shutdown = true ∧ registry.Empty
  due : registry.shutdown = true → registry.Empty →
    registry.finishedWith = [] →
      ∃ activation ∈ registry.stack, activation.stage = .erased

theorem Finishes.unfinished {address : Nat} {resident : Resident}
    (finishes : registry.Finishes)
    (found : registry.residents address = some resident) :
    registry.finishedWith = [] := by
  by_contra finished
  have empty := (finishes.done finished).2 address
  rw [found] at empty
  cases empty

theorem Finishes.of_resident {address : Nat} {resident : Resident}
    (unfinished : registry.finishedWith = [])
    (found : registry.residents address = some resident) :
    registry.Finishes where
  done finished := absurd unfinished finished
  due _ empty _ := by simp [empty address] at found

theorem Finishes.of_finished (isShutdown : registry.shutdown = true)
    (empty : registry.Empty) (finished : registry.finishedWith ≠ []) :
    registry.Finishes where
  done _ := ⟨isShutdown, empty⟩
  due _ _ unfinished := absurd unfinished finished

theorem Finishes.congr (finishes : before.Finishes)
    (residents : after.residents = before.residents)
    (shutdown : after.shutdown = before.shutdown)
    (finishedWith : after.finishedWith = before.finishedWith)
    (erased : ∀ activation ∈ before.stack, activation.stage = .erased →
      activation ∈ after.stack) : after.Finishes := by
  have same : after.Empty ↔ before.Empty := by
    unfold Empty
    rw [residents]
  constructor
  · rw [shutdown, finishedWith, same]
    exact finishes.done
  · rw [shutdown, finishedWith, same]
    intro isShutdown empty unfinished
    obtain ⟨activation, isThere, isErased⟩ :=
      finishes.due isShutdown empty unfinished
    exact ⟨activation, erased activation isThere isErased, isErased⟩

theorem Finishes.put {inline : Bool} (finishes : registry.Finishes) :
    (registry.put job inline).Finishes := by
  cases inline with
  | false => exact finishes.congr rfl rfl rfl fun _ isThere _ => isThere
  | true =>
      exact finishes.congr rfl rfl rfl fun _ isThere _ =>
        List.mem_cons_of_mem _ isThere

theorem Finishes.putNoexcept {inline : Bool} (finishes : registry.Finishes) :
    (registry.putNoexcept job inline).Finishes := by
  unfold Registry.putNoexcept
  split
  · exact finishes.congr rfl rfl rfl fun _ isThere _ => isThere
  · exact finishes.put

theorem Finishes.stepped {address : Nat} {resident : Resident}
    {next : WsSession} {inline : Bool} (finishes : registry.Finishes)
    (found : registry.residents address = some resident) :
    (registry.stepped address resident next inline).Finishes := by
  have updated : (registry.update address
      (some ⟨resident.number, next⟩)).Finishes :=
    .of_resident (finishes.unfinished found) (Function.update_self _ _ _)
  unfold Registry.stepped
  split
  · exact updated.putNoexcept
  · exact updated

theorem Finishes.toStage (finishes : registry.Finishes)
    (top : registry.stack = ⟨job, stage⟩ :: rest) (plain : stage ≠ .erased) :
    (registry.toStage job stage' rest).Finishes := by
  refine finishes.congr rfl rfl rfl fun activation isThere isErased => ?_
  rw [top] at isThere
  rcases List.mem_cons.mp isThere with rfl | below
  · exact absurd isErased plain
  · exact List.mem_cons_of_mem _ below

theorem Finishes.step (finishes : before.Finishes)
    (announced : before.Announced) (step : Step rules before after) :
    after.Finishes := by
  cases step with
  | called callable held free => exact finishes.put
  | shutdownCalled unlocked allowed =>
      exact finishes.congr rfl rfl rfl fun _ isThere _ => isThere
  | callerMoved moves =>
      cases moves with
      | deferred caller =>
          have deferred := @Finishes.putNoexcept _ _ .onShutdown false finishes
          exact deferred.congr rfl rfl rfl fun _ isThere _ => isThere
      | _ => exact finishes.congr rfl rfl rfl fun _ isThere _ => isThere
  | sessionMoved found stepped byIoThread free allowed =>
      exact finishes.stepped found
  | entered empty queued =>
      refine finishes.congr rfl rfl rfl fun activation isThere _ => ?_
      rw [empty] at isThere
      exact absurd isThere List.not_mem_nil
  | moved top moves =>
      cases moves with
      | concluded notDone =>
          refine ⟨finishes.done, fun isShutdown empty _ => ?_⟩
          exact absurd ⟨empty, isShutdown⟩ notDone
      | _ => exact finishes.toStage top (by simp)
  | dispatched top calls handed found stepped =>
      exact .of_resident (finishes.unfinished found)
        (Function.update_self _ _ _)
  | wentOn top goesOn found stepped allowed =>
      refine Finishes.stepped ?_ found
      exact .of_resident (finishes.unfinished found) found
  | loopEnded top atCursor last flag =>
      obtain ⟨resident, found, -⟩ := Option.map_eq_some_iff.mp atCursor
      exact .of_resident (finishes.unfinished found) found
  | @missed identifier rest top missing =>
      have moved : (before.toStage (.onErase identifier) .finished
          rest).Finishes := finishes.toStage top (by simp)
      exact moved.congr rfl rfl rfl fun _ isThere _ => isThere
  | erased top found isInLoop =>
      have unfinished := finishes.unfinished found
      exact ⟨fun finished => absurd unfinished finished,
        fun _ _ _ => ⟨_, List.mem_cons_self, rfl⟩⟩
  | foundEmpty top empty =>
      exact .of_finished rfl (shutdownFinished_empty empty)
        (shutdownFinished_finishedWith before)
  | finished top empty flag =>
      exact .of_finished ((shutdownFinished_shutdown before).trans flag)
        (shutdownFinished_empty empty) (shutdownFinished_finishedWith before)
  | emplaced top connects fresh =>
      have notShutdown : before.shutdown ≠ true := fun isShutdown =>
        announced.not_begun top (.inl isShutdown)
      exact ⟨fun finished => absurd (finishes.done finished).1 notShutdown,
        fun isShutdown => absurd isShutdown notShutdown⟩
  | ended top =>
      refine finishes.congr rfl rfl rfl fun activation isThere isErased => ?_
      rw [top] at isThere
      rcases List.mem_cons.mp isThere with rfl | below
      · cases isErased
      · exact below

theorem finishes_of_reachable (reached : Reachable rules registry) :
    registry.Finishes := by
  refine reached.invariantOver Finishes ?_ ?_
  · exact ⟨fun finished => absurd rfl finished, nofun⟩
  · intro before after earlier finishes step
    exact finishes.step (announced_of_reachable earlier) step

/-! ## The protocol on any number of threads -/

/-- No call of `shutdown()` gets past its first test while another one is
under way. -/
def Single (registry : Registry Value) : Move → Prop
  | .session _ _ => True
  | .enterShutdown =>
      registry.shutdownLock = false → registry.callers = []

theorem goes_of_eq (same : after.protocol = before.protocol) :
    before.protocol.Goes after.protocol := by
  rw [same]
  exact .steps .same

/-- A step of the service is a step of the protocol, if calls that are about
to defer the job hold a lock. -/
theorem Step.goes (proper : before.Proper)
    (held : .deferring ∈ before.callers → 0 < before.lockCount)
    (step : Step Single before after) :
    before.protocol.Goes after.protocol := by
  cases step with
  | called callable => exact goes_of_eq (put_protocol _ callable.plain.2)
  | shutdownCalled unlocked allowed =>
      have none_calls := allowed unlocked
      have after_eq : Registry.protocol { before with
          callers := before.callers ++ [.exchanging] } =
          { before.protocol with callers := [.exchanging] } := by
        simp only [none_calls]
        rfl
      rw [after_eq]
      exact .steps (.called none_calls unlocked)
  | callerMoved moves => exact .steps (moves.protocol held)
  | sessionMoved found stepped byIoThread free allowed =>
      exact goes_of_eq (stepped_protocol _ _ _ _)
  | @entered job jobs empty queued =>
      have same : Registry.shutdowns { before with
          stack := [⟨job, .entered⟩], queue := jobs } =
            before.shutdowns := by
        simp only [shutdowns, empty, queued, List.countP_cons,
          List.countP_nil, Activation.shuts]
        simp
      apply goes_of_eq
      unfold Registry.protocol
      rw [same]
  | moved top moves =>
      exact goes_of_eq (toStage_protocol top (moves.shuts (proper.top top)))
  | @dispatched job stage rest target loop _ _ _ top calls handed found _ =>
      have same := toStage_protocol top calls.shuts
      exact goes_of_eq same
  | wentOn top goesOn found stepped allowed =>
      exact goes_of_eq ((stepped_protocol _ _ _ _).trans
        (toStage_protocol top (goesOn.shuts (proper.top top))))
  | loopEnded top atCursor last flag =>
      exact .steps (loopEnded_protocol top flag)
  | @missed identifier rest top missing =>
      have same := toStage_protocol top
        (@shuts_same_of_plain _ (.onErase identifier) _ .finished rfl)
      exact goes_of_eq same
  | @erased identifier rest resident inLoop top found isInLoop =>
      have same := toStage_protocol top
        (@shuts_same_of_plain _ (.onErase identifier) _ .erased rfl)
      exact goes_of_eq same
  | foundEmpty top empty => exact .steps (foundEmpty_protocol top)
  | finished top empty flag =>
      have plain := plain_of_comesTo_erased (proper.top top)
      have stack := (shutdownFinished_stack before 0).trans top
      rw [toStage_protocol stack (shuts_same_of_plain plain),
        shutdownFinished_protocol]
      exact .again flag
  | @emplaced job rest role address top connects fresh =>
      have plain := plain_of_comesTo_admitted (proper.top top)
      have same := toStage_protocol top (@shuts_same_of_plain _ job _
        (.starting ⟨address, before.created.length⟩) plain)
      exact goes_of_eq same
  | @ended job rest top =>
      have same : Registry.shutdowns { before with
          stack := rest, lockCount := before.lockCount - 1 } =
            before.shutdowns := by
        simp [shutdowns, top, Activation.shuts]
      apply goes_of_eq
      unfold Registry.protocol
      rw [same]

/-- A service keeps its lock until it has finished, and gives it up then. -/
def Releases (registry : Registry Value) : Prop :=
  registry.finishedWith ≠ [] → registry.lockCount = registry.jobs

theorem Releases.put {inline : Bool} (releases : registry.Releases) :
    (registry.put job inline).Releases := by
  obtain ⟨jobs, lockCount⟩ := @put_jobs _ registry job inline
  have sizes : (registry.put job inline).finishedWith =
      registry.finishedWith := by
    cases inline <;> rfl
  intro finished
  rw [sizes] at finished
  rw [jobs, lockCount, releases finished]

theorem Releases.putNoexcept {inline : Bool} (releases : registry.Releases) :
    (registry.putNoexcept job inline).Releases := by
  unfold Registry.putNoexcept
  split
  · exact releases
  · exact releases.put

theorem toStage_jobs (top : registry.stack = ⟨job, stage⟩ :: rest) :
    (registry.toStage job stage' rest).jobs = registry.jobs := by
  simp only [jobs, toStage, top, List.length_cons]

theorem Releases.toStage (releases : registry.Releases)
    (top : registry.stack = ⟨job, stage⟩ :: rest) :
    (registry.toStage job stage' rest).Releases := by
  intro finished
  rw [toStage_jobs top]
  exact releases finished

/-- The first finish gives up the lock, and the next ones find none. -/
theorem Releases.finish (releases : registry.Releases)
    (locks : registry.LocksKept) (sound : registry.protocol.once.Sound)
    (shuts : 0 < registry.shutdowns ∨ registry.shutdown = true) :
    (registry.shutdownFinished 0).lockCount = registry.jobs := by
  have upper := locks.upper
  have lower := locks.lower
  unfold Registry.shutdownFinished
  split
  · rename_i locked
    show registry.lockCount - 1 = registry.jobs
    simp only [pointers, locked.1, locked.2, Bool.toNat_false,
      Bool.toNat_true] at lower
    omega
  · rename_i unlocked
    apply releases
    intro unfinished
    obtain ⟨phase, isPhase⟩ := sound
    rw [ShutdownProtocol.once_of_unfinished unfinished] at isPhase
    unfold Registry.protocol at isPhase
    rw [unfinished] at isPhase
    cases phase <;>
      simp_all [ShutdownProtocol.Phase.protocol]

theorem shutdownFinished_jobs (registry : Registry Value) :
    (registry.shutdownFinished 0).jobs = registry.jobs := by
  unfold Registry.shutdownFinished
  split <;> rfl

theorem Releases.of_unfinished (unfinished : registry.finishedWith = []) :
    registry.Releases :=
  fun finished => absurd unfinished finished

theorem Releases.stepped {address : Nat} {resident : Resident}
    {next : WsSession} {inline : Bool}
    (unfinished : registry.finishedWith = []) :
    (registry.stepped address resident next inline).Releases := by
  have same := congrArg ShutdownProtocol.finishedWith
    (@stepped_protocol _ registry address resident next inline)
  exact .of_unfinished (same.trans unfinished)

theorem Releases.step (releases : before.Releases)
    (locks : before.LocksKept) (finishes : before.Finishes)
    (announced : before.Announced) (sound : before.protocol.once.Sound)
    (step : Step Single before after) : after.Releases := by
  cases step with
  | called callable held free => exact releases.put
  | shutdownCalled unlocked allowed => exact releases
  | callerMoved moves =>
      cases moves with
      | deferred caller =>
          exact @Releases.putNoexcept _ _ .onShutdown false releases
      | _ => exact releases
  | sessionMoved found stepped byIoThread free allowed =>
      exact .stepped (finishes.unfinished found)
  | entered empty queued =>
      intro finished
      have released := releases finished
      simp only [Registry.jobs, empty, queued, List.length_cons,
        List.length_nil] at released ⊢
      omega
  | moved top moves => exact releases.toStage top
  | dispatched top calls handed found stepped =>
      exact .of_unfinished (finishes.unfinished found)
  | wentOn top goesOn found stepped allowed =>
      exact .stepped (finishes.unfinished found)
  | loopEnded top atCursor last flag =>
      obtain ⟨resident, found, -⟩ := Option.map_eq_some_iff.mp atCursor
      exact .of_unfinished (finishes.unfinished found)
  | @missed identifier rest top missing =>
      have moved : (before.toStage (.onErase identifier) .finished
          rest).Releases := releases.toStage top
      exact moved
  | erased top found isInLoop =>
      exact .of_unfinished (finishes.unfinished found)
  | @foundEmpty rest top empty =>
      have shuts : 0 < before.shutdowns := by
        simp [shutdowns, top, Activation.shuts, ServiceJob.isShutdown]
      have stack : Registry.stack
          { before.shutdownFinished 0 with shutdown := true } =
            ⟨.onShutdown, .entered⟩ :: rest :=
        (shutdownFinished_stack before 0).trans top
      intro _
      rw [toStage_jobs stack]
      exact (releases.finish locks sound (.inl shuts)).trans
        (shutdownFinished_jobs before).symm
  | finished top empty flag =>
      intro _
      rw [toStage_jobs ((shutdownFinished_stack before 0).trans top),
        shutdownFinished_jobs]
      exact releases.finish locks sound (.inr flag)
  | emplaced top connects fresh =>
      apply Releases.of_unfinished
      by_contra finished
      exact announced.not_begun top (.inl (finishes.done finished).1)
  | ended top =>
      intro finished
      have released := releases finished
      simp only [Registry.jobs, top, List.length_cons] at released ⊢
      omega

/-- What holds while no two calls of `shutdown()` overlap. -/
structure Regular (registry : Registry Value) : Prop where
  proper : registry.Proper
  protocol : registry.protocol.once.Sound
  releases : registry.Releases
  alive : registry.terminated = false

/-- A call that is about to defer the job has the lock of the service. -/
theorem Regular.held (regular : registry.Regular)
    (locks : registry.LocksKept) (deferring : .deferring ∈ registry.callers) :
    0 < registry.lockCount := by
  have isLocked : registry.shutdownLock = true :=
    regular.protocol.locked_of_deferring deferring
  have lower := locks.lower
  simp only [pointers, isLocked, Bool.toNat_true] at lower
  omega

theorem Regular.step (regular : before.Regular) (sound : before.Sound)
    (finishes : before.Finishes) (announced : before.Announced)
    (step : Step Single before after) : after.Regular where
  proper := regular.proper.step step
  protocol := regular.protocol.goes
    (step.goes regular.proper (regular.held sound.locks))
  releases := regular.releases.step sound.locks finishes announced
    regular.protocol step
  alive := (step.terminated sound.locks (regular.held sound.locks)).trans
    regular.alive

theorem regular_of_reachable (reached : Reachable Single registry) :
    registry.Regular := by
  refine reached.invariantOver Regular ?_ ?_
  · exact ⟨nofun, ⟨.running, rfl⟩, nofun, rfl⟩
  · intro before after earlier regular step
    exact regular.step (sound_of_reachable earlier)
      (finishes_of_reachable earlier) (announced_of_reachable earlier) step

/-! ## Every session that came has gone -/

end Registry

namespace Roster

variable {roster next : Roster}

/-- Every session that was created is in the map or was taken out of it. -/
def Kept (roster : Roster) : Prop :=
  ∀ identifier ∈ roster.created,
    identifier ∈ roster.removals.map Removal.session ∨
      ∃ resident, roster.residents identifier.session = some resident ∧
        resident.number = identifier.owner

theorem Kept.step (kept : roster.Kept) (step : roster.Step next) :
    next.Kept := by
  intro identifier isCreated
  cases step with
  | same => exact kept identifier isCreated
  | @moved address event resident session found stepped alive =>
      refine (kept identifier isCreated).imp_right ?_
      rintro ⟨other, isOther, number⟩
      by_cases same : identifier.session = address
      · rw [same] at isOther ⊢
        cases found.symm.trans isOther
        exact ⟨_, Function.update_self _ _ _, number⟩
      · exact ⟨other, (Function.update_of_ne same _ _).trans isOther, number⟩
  | @erased erased resident found =>
      rw [List.map_append, List.mem_append]
      rcases kept identifier isCreated with isGone | ⟨other, isOther, number⟩
      · exact .inl (.inl isGone)
      · by_cases same : identifier.session = erased.session
        · rw [same] at isOther
          cases found.symm.trans isOther
          left
          right
          obtain ⟨address, owner⟩ := identifier
          cases same
          cases number
          exact List.mem_singleton_self _
        · exact .inr ⟨other, (Function.update_of_ne same _ _).trans isOther,
            number⟩
  | @emplaced address role fresh =>
      rcases List.mem_append.mp isCreated with earlier | last
      · refine (kept identifier earlier).imp_right ?_
        rintro ⟨other, isOther, number⟩
        have apart : identifier.session ≠ address := by
          rintro rfl
          cases fresh.symm.trans isOther
        exact ⟨other, (Function.update_of_ne apart _ _).trans isOther, number⟩
      · cases List.mem_singleton.mp last
        exact .inr ⟨_, Function.update_self _ _ _, rfl⟩

end Roster

namespace Registry

variable {Value : Type} {rules : Registry Value → Move → Prop}
  {registry : Registry Value}

theorem kept_of_reachable (reached : Reachable rules registry) :
    registry.roster.Kept := by
  refine reached.invariantOver (fun registry => registry.roster.Kept) ?_ ?_
  · exact fun identifier isCreated => absurd isCreated List.not_mem_nil
  · exact fun _ _ _ kept step => kept.step step.roster

/-! ## Services at rest -/

/-- Nothing waits, and no call of `shutdown()` is under way. -/
structure Rests (registry : Registry Value) : Prop where
  queue : registry.queue = []
  stack : registry.stack = []
  callers : registry.callers = []

/-- A service that is at rest with an empty map has finished to shut down, or
goes on. -/
theorem Regular.rests (regular : registry.Regular)
    (locks : registry.LocksKept) (finishes : registry.Finishes)
    (rests : registry.Rests) (empty : registry.Empty) :
    registry.lockCount = registry.runLock.toNat ∧
      (registry.runLock = false →
        registry.shutdown = true ∧ registry.finishedWith ≠ []) := by
  have none_jobs : registry.shutdowns = 0 := by
    simp [shutdowns, rests.queue, rests.stack]
  have none_left : registry.jobs = 0 := by
    simp [jobs, rests.queue, rests.stack]
  have upper := locks.upper
  have lower := locks.lower
  rw [none_left] at upper lower
  cases runLock : registry.runLock with
  | true =>
      simp only [pointers, runLock, Bool.toNat_true] at lower ⊢
      refine ⟨by omega, fun unlocked => ?_⟩
      cases unlocked
  | false =>
      have finished : registry.finishedWith ≠ [] := by
        intro unfinished
        obtain ⟨phase, isPhase⟩ := regular.protocol
        rw [ShutdownProtocol.once_of_unfinished unfinished] at isPhase
        have isShutdown : registry.shutdown = true := by
          unfold Registry.protocol at isPhase
          rw [runLock, rests.callers, none_jobs] at isPhase
          cases phase <;> simp [ShutdownProtocol.Phase.protocol] at isPhase
          all_goals exact isPhase.2.1
        obtain ⟨activation, isThere, -⟩ :=
          finishes.due isShutdown empty unfinished
        rw [rests.stack] at isThere
        exact absurd isThere List.not_mem_nil
      exact ⟨(regular.releases finished).trans none_left,
        fun _ => ⟨(finishes.done finished).1, finished⟩⟩

end Registry

namespace WsService

variable {Value : Type} {service : WsService Value}

/-- No operation of a session is outstanding, no job waits or runs, and no
call of `shutdown()` is under way. -/
structure Idle (service : WsService Value) : Prop where
  queue : service.queue = []
  stack : service.stack = []
  callers : service.callers = []
  sessions : ∀ address node, service.map.find? address = some node →
    node.session.holders = 0

/-- What is left of a service where nothing goes on. -/
structure AtRest (service : WsService Value) : Prop where
  map : service.map.isEmpty = true
  /-- Every session that was in the map has been taken out of it. -/
  gone : ∀ identifier ∈ service.history.created,
    identifier ∈ service.history.removals.map Removal.session
  locks : service.locker.lockCount = service.runLock.toNat
  finished : service.runLock = false →
    service.shutdown = true ∧ service.history.finishedWith ≠ []
  alive : service.terminated = false

/-- A session in the map has a handler to come, or its job. -/
theorem Idle.empty (idle : service.Idle) (sound : service.registry.Sound) :
    service.registry.Empty := by
  rw [empty_registry, OrderedMap.isEmpty_iff_find?]
  intro address
  by_contra occupied
  obtain ⟨node, found⟩ := Option.ne_none_iff_exists'.mp occupied
  have resident := residents_eq_some found
  have counted := (WsSession.locksSound_of_reachable
    (sound.roster.reached resident)).counted
  rcases sound.queued idle.stack resident with held | waits
  · rw [counted, idle.sessions address node found] at held
    exact Nat.lt_irrefl 0 held
  · have waits : .onErase ⟨address, node.number⟩ ∈ service.queue := waits
    rw [idle.queue] at waits
    exact absurd waits List.not_mem_nil

theorem single_of_noOverlap {admits : WsService Value → ServiceEvent Value →
      Prop}
    (noOverlap : ∀ service event, admits service event →
      service.NoOverlap event)
    (reached : (serviceMachine Value).ReachableUnder admits service) :
    Registry.Reachable Registry.Single service.registry := by
  refine registry_reachable (fun service event move admitted moves => ?_)
    reached
  cases move with
  | session address sessionEvent => trivial
  | enterShutdown =>
      exact noOverlap service event admitted (move?_enterShutdown moves)

theorem Idle.atRest (idle : service.Idle)
    (registry : Registry.Reachable Registry.Single service.registry) :
    service.AtRest := by
  have sound := Registry.sound_of_reachable registry
  have regular := Registry.regular_of_reachable registry
  have empty := idle.empty sound
  obtain ⟨locks, finished⟩ := regular.rests sound.locks
    (Registry.finishes_of_reachable registry)
    ⟨idle.queue, idle.stack, idle.callers⟩ empty
  refine ⟨empty_registry.mp empty, fun identifier isCreated => ?_, locks,
    finished, regular.alive⟩
  rcases Registry.kept_of_reachable registry identifier isCreated with
    isGone | ⟨resident, found, -⟩
  · exact isGone
  · have found : service.registry.residents identifier.session =
      some resident := found
    rw [empty] at found
    cases found

/-- On any number of io threads, while no two calls of `shutdown()` overlap: a
service where nothing goes on has lost all of its sessions, and all of its
locks but the one that it keeps until it is shut down; after a `shutdown()`
it has finished. -/
theorem atRest_of_idle
    (reached : (serviceMachine Value).ReachableUnder NoOverlap service)
    (idle : service.Idle) : service.AtRest :=
  idle.atRest (single_of_noOverlap (fun _ _ => id) reached)

/-- One call of `shutdown()` comes after the other. -/
def isSingle (service : WsService Value) : ServiceEvent Value → Bool
  | .callShutdown => service.callers.isEmpty
  | _ => true

theorem noOverlap_of_isSingle {event : ServiceEvent Value}
    (single : service.isSingle event = true) : service.NoOverlap event := by
  rintro rfl -
  exact List.isEmpty_iff.mp single

/-- A handler of a session runs while the loop of the shutdown is under
way. -/
def closedByTwo : List (ServiceEvent Unit) :=
  connected 8 () ++ peerCloses 8 ++ shutsDown ++
    [.visit, .session 8 (.runJob .ioThread) false, .skip, .advance, .finish,
      .session 8 (.release .ioThread) false] ++ drains 8

theorem atRest_of_idle_two :
    ∃ service, (serviceMachine Unit).run .constructed closedByTwo =
        some service ∧
      service.history.created = [⟨8, 0⟩] ∧ service.runLock = false ∧
      service.AtRest := by
  have ran : ∃ service, (serviceMachine Unit).run .constructed closedByTwo =
      some service ∧ service.history.created = [⟨8, 0⟩] ∧
      service.runLock = false ∧ service.queue = [] ∧ service.stack = [] ∧
      service.callers = [] ∧ service.map.isEmpty = true :=
    ⟨_, rfl, rfl, rfl, rfl, rfl, rfl, rfl⟩
  obtain ⟨service, ran, created, shut, queue, stack, callers, empty⟩ := ran
  have admitted : (serviceMachine Unit).Admitted NoOverlap .constructed
      closedByTwo :=
    Machine.admitted_of_checks
      (fun service event => @noOverlap_of_isSingle _ service event) (by rfl)
  have reached := Machine.reachableUnder_of_run rfl admitted ran
  refine ⟨service, ran, created, shut, atRest_of_idle reached
    ⟨queue, stack, callers, fun address node found => ?_⟩⟩
  rw [OrderedMap.isEmpty_iff_find?.mp empty] at found
  cases found

end WsService

end Webservice
