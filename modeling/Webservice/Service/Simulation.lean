import Webservice.Service.Registry
import Webservice.Session.Closing

/-!
# The service follows its protocol

Every step of the service is a step of its registry or leaves the registry
alone, so an invariant of the registries holds in every run of the service.
-/

namespace Webservice

namespace WsService

variable {Value : Type}

def registry (service : WsService Value) : Registry Value :=
  { residents := fun address => (service.map.find? address).map fun node =>
      ⟨node.number, node.session⟩
    queue := service.queue
    stack := service.stack
    lockCount := service.locker.lockCount
    runLock := service.runLock
    shutdownLock := service.shutdownLock
    shutdown := service.shutdown
    callers := service.callers
    terminated := service.terminated
    created := service.history.created
    removals := service.history.removals
    missed := service.history.missed
    loops := service.history.loops
    erasedInLoop := service.history.erasedInLoop
    late := service.history.late
    finishedWith := service.history.finishedWith }

/-! ## What the operations do to the registry -/

section

variable {service : WsService Value}

theorem residents_eq_some {address : Nat} {node : Node Value}
    (found : service.map.find? address = some node) :
    service.registry.residents address =
      some ⟨node.number, node.session⟩ := by
  simp [registry, found]

theorem residents_eq_none {address : Nat} :
    service.registry.residents address = none ↔
      service.map.find? address = none := by
  simp [registry]

theorem identifierAt?_registry (address : Nat) :
    service.registry.identifierAt? address =
      service.identifierAt? address := by
  simp only [Registry.identifierAt?, registry, identifierAt?, Option.map_map]
  rfl

theorem addresses_registry :
    service.registry.addresses = {address | address ∈ service.map.keys} := by
  ext address
  show service.registry.residents address ≠ none ↔ address ∈ service.map.keys
  rw [ne_eq, residents_eq_none, OrderedMap.find?_eq_none, not_not]

theorem empty_registry :
    service.registry.Empty ↔ service.map.isEmpty = true := by
  simp only [Registry.Empty, residents_eq_none,
    OrderedMap.isEmpty_iff_find?]

theorem mem_identifiers {identifier : WsIdentifier} :
    identifier ∈ service.identifiers ↔
      service.identifierAt? identifier.session = some identifier := by
  obtain ⟨address, owner⟩ := identifier
  simp only [identifiers, List.mem_map, Prod.exists, WsIdentifier.mk.injEq,
    identifierAt?, Option.map_eq_some_iff, OrderedMap.find?_eq_some]
  constructor
  · rintro ⟨found, node, isEntry, rfl, rfl⟩
    exact ⟨node, isEntry, trivial, rfl⟩
  · rintro ⟨node, isEntry, -, rfl⟩
    exact ⟨address, node, isEntry, rfl, rfl⟩

theorem registry_toStage {job : ServiceJob Value} {stage : Stage}
    {rest : List (Activation Value)}
    (top : service.stack = ⟨job, stage⟩ :: rest) (stage' : Stage) :
    (service.toStage stage').registry =
      service.registry.toStage job stage' rest := by
  unfold toStage
  rw [top]
  rfl

theorem registry_setValue (address : Nat) (change : Node Value → Value) :
    ({ service with map := service.map.modify address fun node =>
        { node with value := change node } } : WsService Value).registry =
      service.registry := by
  have same : ∀ other,
      (((service.map.modify address fun node =>
        { node with value := change node }).find? other).map fun node =>
          (⟨node.number, node.session⟩ : Resident)) =
        (service.map.find? other).map fun node =>
          ⟨node.number, node.session⟩ := by
    intro other
    rw [OrderedMap.find?_modify]
    split
    · rw [Option.map_map]
      rfl
    · rfl
  simp only [registry, same]

theorem registry_setSession {address : Nat} {node : Node Value}
    (found : service.map.find? address = some node) (session : WsSession) :
    (service.setSession address session).registry =
      service.registry.update address (some ⟨node.number, session⟩) := by
  have same : (fun other => ((service.map.modify address fun node =>
        { node with session := session }).find? other).map fun node =>
          (⟨node.number, node.session⟩ : Resident)) =
      Function.update service.registry.residents address
        (some ⟨node.number, session⟩) := by
    funext other
    rw [OrderedMap.find?_modify, Function.update_apply]
    split
    · rename_i isSame
      simp [isSame, found]
    · rfl
  simp only [registry, setSession, Registry.update, same]

theorem registry_insert {address : Nat}
    (fresh : address ∉ service.map.keys) (node : Node Value) :
    WsService.registry { service with
        map := service.map.insert address node } =
      service.registry.update address (some ⟨node.number, node.session⟩) := by
  have same : (fun other =>
        ((service.map.insert address node).find? other).map fun node =>
          (⟨node.number, node.session⟩ : Resident)) =
      Function.update service.registry.residents address
        (some ⟨node.number, node.session⟩) := by
    funext other
    rw [OrderedMap.find?_insert fresh, Function.update_apply]
    split <;> rfl
  simp only [registry, Registry.update, same]

theorem registry_erase (address : Nat) :
    WsService.registry { service with map := service.map.erase address } =
      service.registry.update address none := by
  have same : (fun other =>
        ((service.map.erase address).find? other).map fun node =>
          (⟨node.number, node.session⟩ : Resident)) =
      Function.update service.registry.residents address none := by
    funext other
    rw [OrderedMap.find?_erase, Function.update_apply]
    split <;> rfl
  simp only [registry, Registry.update, same]

theorem registry_put (job : ServiceJob Value) (inline : Bool)
    {locker : AsyncLocker}
    (acquired : service.locker.makeLock = .ok locker) :
    0 < service.locker.lockCount ∧
      (service.put locker job inline).registry =
        service.registry.put job inline := by
  have held : 0 < service.locker.lockCount := by
    by_contra drained
    rw [AsyncLocker.makeLock_of_zero (by omega)] at acquired
    cases acquired
  rw [AsyncLocker.makeLock_of_pos held, Except.ok.injEq] at acquired
  subst acquired
  refine ⟨held, ?_⟩
  cases inline <;> rfl

theorem registry_putNoexcept (job : ServiceJob Value) (inline : Bool) :
    (service.putNoexcept job inline).registry =
      service.registry.putNoexcept job inline := by
  unfold putNoexcept Registry.putNoexcept
  by_cases drained : service.locker.lockCount = 0
  · rw [AsyncLocker.makeLock_of_zero drained]
    have drained : service.registry.lockCount = 0 := drained
    rw [if_pos drained]
    rfl
  · have acquired :=
      AsyncLocker.makeLock_of_pos (Nat.pos_of_ne_zero drained)
    rw [acquired]
    have held : ¬service.registry.lockCount = 0 := drained
    rw [if_neg held]
    exact (registry_put job inline acquired).2

theorem registry_shutdownFinished :
    service.shutdownFinished.registry =
      service.registry.shutdownFinished service.map.entries.length := by
  unfold shutdownFinished Registry.shutdownFinished
  cases runLock : service.runLock <;>
    cases shutdownLock : service.shutdownLock <;>
      simp [registry, report, AsyncLocker.unlock, runLock, shutdownLock]

theorem stepSession_registry {next : WsService Value} {address : Nat}
    {event : SessionEvent} {inline : Bool}
    (stepped : service.stepSession address event inline = some next) :
    ∃ resident session, service.registry.residents address = some resident ∧
      resident.session.step event = some session ∧
      next.registry =
        service.registry.stepped address resident session inline := by
  unfold stepSession at stepped
  cases found : service.map.find? address with
  | none => rw [found] at stepped; cases stepped
  | some node =>
      simp only [found, Option.map_eq_some_iff] at stepped
      obtain ⟨session, sessionStepped, rfl⟩ := stepped
      refine ⟨_, session, residents_eq_some found, sessionStepped, ?_⟩
      unfold Registry.stepped
      split
      · rename_i calledBack
        simp only [onErase, registry_putNoexcept, registry_setSession found]
      · rename_i silent
        exact registry_setSession found session

/-! ## Jobs -/

variable {rules : Registry Value → Move → Prop} {job : ServiceJob Value}
  {stage : Stage} {rest : List (Activation Value)}

/-- A job comes to another stage and changes at most what the registry does
not show. -/
theorem movedOn {other : WsService Value} {stage' : Stage}
    (same : other.registry = service.registry)
    (top : service.stack = ⟨job, stage⟩ :: rest)
    (moves : service.registry.Moves job stage stage') :
    Registry.Step rules service.registry (other.toStage stage').registry := by
  have otherTop : other.stack = ⟨job, stage⟩ :: rest :=
    (congrArg Registry.stack same).trans top
  rw [registry_toStage otherTop, same]
  exact .moved top moves

theorem callSession_registry {other next : WsService Value}
    {target : WsIdentifier} {strandJob : StrandJob} {loop : Option Loop}
    (same : other.registry = service.registry)
    (top : service.stack = ⟨job, stage⟩ :: rest)
    (calls : service.registry.Calls job stage target loop)
    (handed : job.strandJob? = some strandJob)
    (called : other.callSession target strandJob loop = some next) :
    Registry.Step rules service.registry next.registry := by
  simp only [callSession, Option.map_eq_some_iff] at called
  obtain ⟨between, stepped, rfl⟩ := called
  obtain ⟨resident, session, found, sessionStepped, after⟩ :=
    stepSession_registry stepped
  rw [same] at found after
  have silent :
      ¬resident.session.locker.callbacks < session.locker.callbacks := by
    obtain ⟨-, rfl⟩ := WsSession.step_dispatch sessionStepped
    have kept := WsSession.dispatch_stepKept resident.session strandJob
    exact Nat.not_lt_of_le (Nat.le_of_eq (kept.locks rfl).1)
  rw [Registry.stepped, if_neg silent] at after
  have stack : between.stack = ⟨job, stage⟩ :: rest :=
    (congrArg Registry.stack after).trans top
  rw [registry_toStage stack, after]
  exact .dispatched top calls handed found sessionStepped

theorem actOn_registry {next : WsService Value} {identifier : WsIdentifier}
    {act : WsService Value → Node Value → Option (WsService Value)}
    (top : service.stack = ⟨job, .entered⟩ :: rest)
    (isErase : job.isErase = false) (isShutdown : job.isShutdown = false)
    (acts : ∀ node, service.map.find? identifier.session = some node →
      act (service.note identifier node.number) node = some next →
      Registry.Step rules service.registry next.registry)
    (acted : service.actOn identifier act = some next) :
    Registry.Step rules service.registry next.registry := by
  unfold actOn at acted
  cases found : service.map.find? identifier.session with
  | none =>
      rw [found] at acted
      cases acted
      exact movedOn rfl top (.nothing isErase isShutdown)
  | some node =>
      rw [found] at acted
      exact acts node found acted

theorem startLoop_registry (top : service.stack = ⟨job, .entered⟩ :: rest)
    (loops : job.strandJob?.isSome = true)
    (everyone : job.identifier? = none)
    (nonempty : job.isShutdown = true → service.map.isEmpty = false) :
    Registry.Step rules service.registry service.startLoop.registry := by
  unfold startLoop
  cases first : service.map.first?.bind service.identifierAt? with
  | none =>
      have isEmpty : service.map.isEmpty = true := by
        cases least : service.map.first? with
        | none => exact OrderedMap.first?_eq_none.mp least
        | some address =>
            obtain ⟨node, isEntry⟩ :=
              OrderedMap.mem_keys.mp (OrderedMap.first?_eq_some least).1
            simp [least, identifierAt?,
              OrderedMap.find?_eq_some.mpr isEntry] at first
      refine movedOn rfl top (.nothing ?_ ?_)
      · cases job <;> first | rfl | cases loops
      · by_contra isShutdown
        have occupied := nonempty (by simpa using isShutdown)
        exact absurd (isEmpty.symm.trans occupied) (by decide)
  | some cursor =>
      obtain ⟨address, least, found⟩ := Option.bind_eq_some_iff.mp first
      have same : cursor.session = address := by
        obtain ⟨node, -, rfl⟩ := Option.map_eq_some_iff.mp found
        rfl
      subst same
      refine movedOn rfl top (.startLoop loops everyone ?_ ?_ ?_)
      · rw [identifierAt?_registry]
        exact found
      · rw [addresses_registry]
        exact OrderedMap.first?_eq_some least
      · intro identifier isPresent
        rw [identifierAt?_registry]
        exact mem_identifiers.mp isPresent

theorem admit_registry (top : service.stack = ⟨job, .entered⟩ :: rest)
    (connects : job.connects?.isSome = true) :
    Registry.Step rules service.registry service.admitConnect.registry := by
  unfold admitConnect isShutdown
  cases runLock : service.runLock with
  | true =>
      exact movedOn rfl top (.admitted connects runLock)
  | false =>
      refine movedOn rfl top (.nothing ?_ ?_)
      · cases job <;> first | rfl | cases connects
      · cases job <;> first | rfl | cases connects

theorem begin_registry {next : WsService Value}
    (top : service.stack = ⟨job, .entered⟩ :: rest)
    (begun : service.begin job = some next) :
    Registry.Step rules service.registry next.registry := by
  cases job with
  | send identifier isText data =>
      simp only [begin] at begun
      have noted : ∀ number,
          (service.note identifier number).registry = service.registry :=
        fun _ => rfl
      exact actOn_registry top rfl rfl
        (fun _ _ => callSession_registry (noted _) top (.act rfl) rfl) begun
  | close identifier reason =>
      simp only [begin] at begun
      have noted : ∀ number,
          (service.note identifier number).registry = service.registry :=
        fun _ => rfl
      exact actOn_registry top rfl rfl
        (fun _ _ => callSession_registry (noted _) top (.act rfl) rfl) begun
  | modifyValue identifier fn =>
      simp only [begin] at begun
      refine actOn_registry top rfl rfl (fun node _ acted => ?_) begun
      have modified : WsService.registry { service with
          map := service.map.modify identifier.session fun node =>
            { node with value := (fn node.value).2 } } = service.registry :=
        registry_setValue _ _
      split at acted
      · cases acted
        exact movedOn modified top (.nothing rfl rfl)
      · cases acted
        exact movedOn modified top (.nothing rfl rfl)
  | sendIf fn isText data =>
      cases begun
      exact startLoop_registry top rfl rfl fun isShutdown => nomatch isShutdown
  | closeIf fn reason =>
      cases begun
      exact startLoop_registry top rfl rfl fun isShutdown => nomatch isShutdown
  | onShutdown =>
      simp only [begin] at begun
      split at begun
      · rename_i isEmpty
        cases begun
        have size : service.map.entries.length = 0 := by
          rw [OrderedMap.isEmpty_iff.mp isEmpty]
          rfl
        have finished := @registry_shutdownFinished _ service
        rw [size] at finished
        have stack : service.shutdownFinished.stack = _ :=
          (congrArg Registry.stack finished).trans
            ((Registry.shutdownFinished_stack _ _).trans top)
        have after : WsService.registry { service.shutdownFinished with
            shutdown := true } = { service.registry.shutdownFinished 0 with
              shutdown := true } := by
          rw [← finished]
          rfl
        rw [registry_toStage (by exact stack), after]
        exact .foundEmpty top (empty_registry.mpr isEmpty)
      · rename_i nonempty
        cases begun
        exact startLoop_registry top rfl rfl fun _ => by simpa using nonempty
  | onErase identifier =>
      simp only [begin] at begun
      cases found : service.map.find? identifier.session with
      | none =>
          rw [found] at begun
          cases begun
          have missing : (service.miss identifier).stack = _ := top
          rw [registry_toStage missing]
          exact .missed top (residents_eq_none.mpr found)
      | some node =>
          rw [found] at begun
          cases begun
          exact movedOn rfl top (.erasing rfl)
  | serverConnect value =>
      cases begun
      exact admit_registry top rfl
  | clientConnect value =>
      cases begun
      exact admit_registry top rfl

/-- The iterator of a loop points to the session it stands for. -/
theorem atCursor?_registry {loop : Loop} {node : Node Value}
    (found : service.atCursor? loop = some node) :
    service.registry.identifierAt? loop.cursor.session =
      some loop.cursor := by
  obtain ⟨isThere, number⟩ := Option.filter_eq_some_iff.mp found
  rw [identifierAt?_registry, identifierAt?, isThere]
  simp only [decide_eq_true_eq] at number
  rw [Option.map_some, number]

theorem visitIf_registry {next : WsService Value} {loop : Loop}
    {fn : UnaryFunction Value} {node : Node Value} {strandJob : StrandJob}
    (top : service.stack = ⟨job, .visiting loop⟩ :: rest)
    (everyone : job.identifier? = none) (isShutdown : job.isShutdown = false)
    (handed : job.strandJob? = some strandJob)
    (atCursor : service.registry.identifierAt? loop.cursor.session =
      some loop.cursor)
    (visited : service.visitIf fn node loop.visit strandJob = some next) :
    Registry.Step rules service.registry next.registry := by
  unfold visitIf at visited
  have modified : WsService.registry { service with
      map := service.map.modify loop.cursor.session fun node =>
        { node with value := (fn loop.cursor.session node.value).2 } } =
        service.registry :=
    registry_setValue _ _
  simp only at visited
  split at visited
  · exact callSession_registry modified top (.visit everyone atCursor) handed
      visited
  · cases visited
    exact movedOn modified top (.passed isShutdown atCursor)
  · cases visited
    exact movedOn modified top (.passed isShutdown atCursor)

theorem visit_registry {next : WsService Value} {loop : Loop}
    (top : service.stack = ⟨job, .visiting loop⟩ :: rest)
    (visited : service.visit job loop = some next) :
    Registry.Step rules service.registry next.registry := by
  unfold visit at visited
  cases found : service.atCursor? loop with
  | none => rw [found] at visited; cases visited
  | some node =>
      have atCursor := atCursor?_registry found
      rw [found] at visited
      cases job with
      | sendIf fn isText data =>
          exact visitIf_registry top rfl rfl rfl atCursor visited
      | closeIf fn reason =>
          exact visitIf_registry top rfl rfl rfl atCursor visited
      | onShutdown =>
          exact callSession_registry rfl top (.visit rfl atCursor) rfl visited
      | _ => cases visited

theorem advance_registry {next : WsService Value} {loop : Loop}
    (top : service.stack = ⟨job, .left loop⟩ :: rest)
    (advanced : service.advance job loop = some next) :
    Registry.Step rules service.registry next.registry := by
  unfold advance at advanced
  cases found : service.atCursor? loop with
  | none => rw [found] at advanced; cases advanced
  | some node =>
      have atCursor := atCursor?_registry found
      rw [found] at advanced
      simp only at advanced
      cases following : (service.map.next? loop.cursor.session).bind
          service.identifierAt? with
      | some cursor =>
          rw [following] at advanced
          cases advanced
          obtain ⟨address, least, isThere⟩ :=
            Option.bind_eq_some_iff.mp following
          have same : cursor.session = address := by
            obtain ⟨node, -, rfl⟩ := Option.map_eq_some_iff.mp isThere
            rfl
          subst same
          refine movedOn rfl top (.advanced atCursor ?_ ?_)
          · rw [identifierAt?_registry]
            exact isThere
          · rw [addresses_registry]
            exact OrderedMap.next?_eq_some least
      | none =>
          have last : ∀ address ∈ service.registry.addresses,
              address ≤ loop.cursor.session := by
            rw [addresses_registry]
            intro address isKey
            cases next : service.map.next? loop.cursor.session with
            | none => exact OrderedMap.next?_eq_none next isKey
            | some following' =>
                obtain ⟨node, isEntry⟩ := OrderedMap.mem_keys.mp
                  (OrderedMap.next?_eq_some next).1.1
                simp [next, identifierAt?,
                  OrderedMap.find?_eq_some.mpr isEntry] at following
          rw [following] at advanced
          cases job with
          | onShutdown =>
              cases advanced
              rw [registry_toStage (by exact top)]
              exact .loopEnded top atCursor last (Bool.or_true _).symm
          | _ =>
              cases advanced
              rw [registry_toStage (by exact top)]
              exact .loopEnded top atCursor last (Bool.or_false _).symm

theorem eraseEntry_registry {next : WsService Value}
    {identifier : WsIdentifier}
    (top : service.stack = ⟨.onErase identifier, .erasing⟩ :: rest)
    (erased : service.eraseEntry identifier = some next) :
    Registry.Step rules service.registry next.registry := by
  unfold eraseEntry at erased
  cases found : service.map.find? identifier.session with
  | none => rw [found] at erased; cases erased
  | some node =>
      rw [found] at erased
      cases erased
      have inLoop : service.inLoop = rest.any (·.stage.loops) := by
        simp [WsService.inLoop, top, Stage.loops]
      have after : WsService.registry { service with
          map := service.map.erase identifier.session
          history := { service.history with
            removals := service.history.removals ++ [⟨identifier,
              ⟨identifier.session, node.number⟩,
              node.session.locker.callbacks, node.session.holders⟩]
            erasedInLoop := service.history.erasedInLoop ++
              if service.inLoop then [⟨identifier.session, node.number⟩]
              else [] } } =
          { service.registry.update identifier.session none with
            removals := service.history.removals ++ [⟨identifier,
              ⟨identifier.session, node.number⟩,
              node.session.locker.callbacks, node.session.holders⟩]
            erasedInLoop := service.history.erasedInLoop ++
              if service.inLoop then [⟨identifier.session, node.number⟩]
              else [] } := by
        rw [← registry_erase]
        rfl
      rw [registry_toStage (by exact top), after]
      exact .erased top (residents_eq_some found) (by rw [inLoop])

theorem conclude_registry
    (top : service.stack = ⟨job, .erased⟩ :: rest) :
    Registry.Step rules service.registry service.conclude.registry := by
  unfold conclude
  split
  · rename_i last
    have size : service.map.entries.length = 0 := by
      rw [OrderedMap.isEmpty_iff.mp last.1]
      rfl
    have finished := @registry_shutdownFinished _ service
    rw [size] at finished
    have stack : service.shutdownFinished.stack = _ :=
      (congrArg Registry.stack finished).trans
        ((Registry.shutdownFinished_stack _ _).trans top)
    rw [registry_toStage stack, finished]
    exact .finished top (empty_registry.mpr last.1) last.2
  · rename_i more
    refine movedOn rfl top (.concluded ?_)
    rw [empty_registry]
    exact more

theorem emplace_registry {next : WsService Value} {address : Nat}
    {role : Role} {value : Value}
    (top : service.stack = ⟨job, .admitted⟩ :: rest)
    (connects : job.connects? = some role)
    (emplaced : service.emplace address role value = some next) :
    Registry.Step rules service.registry next.registry := by
  unfold emplace at emplaced
  split at emplaced
  · cases emplaced
  · rename_i fresh
    cases emplaced
    let number := service.history.created.length
    have extended := registry_insert fresh
      (⟨number, .launched role, value⟩ : Node Value)
    have after : WsService.registry { service with
        map := service.map.insert address ⟨number, .launched role, value⟩
        history := { service.history with
          created := service.history.created ++ [⟨address, number⟩]
          late := service.history.late ++
            if service.shutdown then [⟨address, number⟩] else [] } } =
        { service.registry.update address
            (some ⟨number, .launched role⟩) with
          created := service.history.created ++ [⟨address, number⟩]
          late := service.history.late ++
            if service.shutdown then [⟨address, number⟩] else [] } := by
      rw [← extended]
      rfl
    rw [registry_toStage (by exact top)]
    rw [after]
    exact .emplaced top connects
      (residents_eq_none.mpr (OrderedMap.find?_eq_none.mpr fresh))

theorem wentOn_registry {next : WsService Value} {stage' : Stage}
    {target : WsIdentifier} {event : SessionEvent} {inline : Bool}
    (top : service.stack = ⟨job, stage⟩ :: rest)
    (goesOn : Registry.GoesOn stage target event stage')
    (allowed : rules service.registry (.session target.session event))
    (stepped : (service.toStage stage').stepSession target.session event
      inline = some next) :
    Registry.Step rules service.registry next.registry := by
  obtain ⟨resident, session, found, sessionStepped, after⟩ :=
    stepSession_registry stepped
  rw [registry_toStage top] at found after
  rw [after]
  exact .wentOn top goesOn found sessionStepped allowed

theorem ranInline_registry {next : WsService Value} {target : WsIdentifier}
    {loop : Option Loop}
    (top : service.stack = ⟨job, .called target loop⟩ :: rest)
    (allowed : rules service.registry
      (.session target.session (.runJob .caller)))
    (ran : (service.stepSession target.session (.runJob .caller) false).map
      (fun service => service.toStage (.inlined target loop)) = some next) :
    Registry.Step rules service.registry next.registry := by
  obtain ⟨between, stepped, rfl⟩ := Option.map_eq_some_iff.mp ran
  obtain ⟨resident, session, found, sessionStepped, after⟩ :=
    stepSession_registry stepped
  have stack : between.stack = ⟨job, .called target loop⟩ :: rest :=
    ((congrArg Registry.stack after).trans
      (Registry.stepped_stack _ _ _ _)).trans top
  rw [registry_toStage stack, after, Registry.toStage_stepped]
  exact .wentOn top .ran found sessionStepped allowed

theorem work_registry {next : WsService Value} {event : ServiceEvent Value}
    (top : service.stack = ⟨job, stage⟩ :: rest)
    (allowed : ∀ move, stage.move? event = some move →
      rules service.registry move)
    (worked : service.work rest job stage event = some next) :
    Registry.Step rules service.registry next.registry := by
  unfold work at worked
  split at worked
  · exact begin_registry top worked
  · exact visit_registry top worked
  · cases worked
    exact movedOn rfl top .skipped
  · exact ranInline_registry top (allowed _ rfl) worked
  · exact wentOn_registry top .released (allowed _ rfl) worked
  · exact advance_registry top worked
  · exact wentOn_registry top .started (allowed _ rfl) worked
  · split at worked
    · exact eraseEntry_registry top worked
    · cases worked
  · cases worked
    exact conclude_registry top
  · split at worked
    · exact emplace_registry top rfl worked
    · exact emplace_registry top rfl worked
    · cases worked
  · cases worked
    exact movedOn rfl top .refused
  · cases worked
    exact .ended top
  · cases worked

/-! ## Steps and runs -/

theorem shutdownStep_registry {next : WsService Value} {index : Nat}
    (stepped : service.shutdownStep index = some next) :
    Registry.Step rules service.registry next.registry := by
  unfold shutdownStep at stepped
  split at stepped
  · cases stepped
  · rename_i caller
    cases stepped
    exact .callerMoved (.exchanged caller)
  · rename_i caller
    cases stepped
    exact .callerMoved (.stored caller)
  · rename_i caller
    split at stepped
    · rename_i locked
      cases stepped
      exact .callerMoved (.locked caller locked)
    · rename_i unlocked
      cases stepped
      exact .callerMoved (.unlocked caller (Bool.eq_false_iff.mpr unlocked))
  · rename_i caller
    cases stepped
    have deferred : service.onShutdown.registry = _ :=
      registry_putNoexcept .onShutdown false
    have after : WsService.registry { service.onShutdown with
        callers := service.callers.eraseIdx index } =
        { service.registry.putNoexcept .onShutdown false with
          callers := service.callers.eraseIdx index } := by
      rw [← deferred]
      rfl
    rw [after]
    exact .callerMoved (.deferred caller)

/-- A step of the service is a step of its registry, or does not show in
it. -/
theorem step_registry {next : WsService Value} {event : ServiceEvent Value}
    (allowed : ∀ move, service.move? event = some move →
      rules service.registry move)
    (stepped : service.step event = some next) :
    next.registry = service.registry ∨
      Registry.Step rules service.registry next.registry := by
  unfold step at stepped
  split at stepped
  · cases stepped
  split at stepped
  · rename_i job inline
    split at stepped
    · rename_i callable
      split at stepped
      · rename_i locker acquired
        cases stepped
        obtain ⟨held, after⟩ := registry_put job inline acquired
        exact .inr (after ▸ .called callable.1 held callable.2)
      · cases stepped
        exact .inl rfl
    · cases stepped
  · split at stepped
    · cases stepped
      exact .inl rfl
    · rename_i unlocked
      cases stepped
      exact .inr (.shutdownCalled (Bool.eq_false_iff.mpr unlocked) (allowed _ rfl))
  · exact .inr (shutdownStep_registry stepped)
  · rename_i address event inline
    split at stepped
    · rename_i free
      obtain ⟨resident, session, found, sessionStepped, after⟩ :=
        stepSession_registry stepped
      rw [after]
      exact .inr (.sessionMoved found sessionStepped free.1 free.2
        (allowed _ rfl))
    · cases stepped
  · split at stepped
    · rename_i empty queued
      cases stepped
      exact .inr (.entered empty queued)
    · cases stepped
  · split at stepped
    · cases stepped
    · rename_i activation rest top
      refine .inr (work_registry top (fun move isMove => allowed move ?_)
        stepped)
      unfold move?
      split
      · rename_i notShutdown _ _ _
        exact (notShutdown rfl).elim
      · rename_i notSession _
        exact (notSession _ _ _ rfl).elim
      · rw [top]
        exact isMove

end

/-- The registry of a service in a run that obeys the rules. -/
theorem registry_reachable {rules : Registry Value → Move → Prop}
    {admits : WsService Value → ServiceEvent Value → Prop}
    (obeys : ∀ service event move, admits service event →
      service.move? event = some move → rules service.registry move)
    {service : WsService Value}
    (reached : (serviceMachine Value).ReachableUnder admits service) :
    Registry.Reachable rules service.registry := by
  refine reached.invariant (fun service =>
    Registry.Reachable rules service.registry) ?_ ?_
  · rintro _ rfl
    exact .constructed
  · intro before event after earlier admitted stepped
    rcases step_registry (fun move => obeys before event move admitted)
      stepped with same | step
    · exact same ▸ earlier
    · exact .step earlier step

end WsService

end Webservice
