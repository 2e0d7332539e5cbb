import Mathlib.Logic.Function.Basic
import Mathlib.Order.Bounds.Defs
import Webservice.Service.Step

/-!
# The protocol of a service

A service without the values of its user: the sessions in the map, the jobs
and the locks, and what a step may do to them.  A function of the user that
looks at a value is a free choice here.
-/

namespace Webservice

/-- A session in the map, with its number. -/
structure Resident where
  number : Nat
  session : WsSession

structure Registry (Value : Type) where
  residents : Nat → Option Resident
  queue : List (ServiceJob Value)
  stack : List (Activation Value)
  lockCount : Nat
  runLock : Bool
  shutdownLock : Bool
  shutdown : Bool
  callers : List ShutdownCall
  terminated : Bool
  created : List WsIdentifier
  removals : List Removal
  missed : List WsIdentifier
  loops : List Loop
  erasedInLoop : List WsIdentifier
  late : List WsIdentifier
  finishedWith : List Nat

namespace ServiceJob

variable {Value : Type}

/-- What the job hands to a session. -/
def strandJob? : ServiceJob Value → Option StrandJob
  | .send _ isText data => some (.send isText data)
  | .sendIf _ isText data => some (.send isText data)
  | .close _ reason => some (.close reason)
  | .closeIf _ reason => some (.close reason)
  | .onShutdown => some (.close (.ofText "shutdown"))
  | _ => none

/-- The session that the job is about. -/
def identifier? : ServiceJob Value → Option WsIdentifier
  | .send identifier _ _ => some identifier
  | .close identifier _ => some identifier
  | .modifyValue identifier _ => some identifier
  | _ => none

/-- The job erases the session. -/
def erases (identifier : WsIdentifier) : ServiceJob Value → Bool
  | .onErase erased => erased = identifier
  | _ => false

def isErase : ServiceJob Value → Bool
  | .onErase _ => true
  | _ => false

def isShutdown : ServiceJob Value → Bool
  | .onShutdown => true
  | _ => false

/-- The role of the session that the job makes. -/
def connects? : ServiceJob Value → Option Role
  | .serverConnect _ => some .server
  | .clientConnect _ => some .client
  | _ => none

end ServiceJob

namespace Loop

def visit (loop : Loop) : Loop :=
  { loop with visited := loop.visited ++ [loop.cursor] }

end Loop

/-- A step that the rules of a run may forbid. -/
inductive Move where
  /-- A session steps, by a thread of the io context or by the job. -/
  | session (address : Nat) (event : SessionEvent)
  | enterShutdown

/-- What a job at this stage does to a session by the event. -/
def Stage.move? {Value : Type} : Stage → ServiceEvent Value → Option Move
  | .called target _, .runInline =>
      some (.session target.session (.runJob .caller))
  | .inlined target _, .release =>
      some (.session target.session (.release .caller))
  | .starting target, .startReturns =>
      some (.session target.session .startReturns)
  | _, _ => none

def WsService.move? {Value : Type} (service : WsService Value) :
    ServiceEvent Value → Option Move
  | .callShutdown => some .enterShutdown
  | .session address event _ => some (.session address event)
  | event => service.stack.head?.bind fun activation =>
      activation.stage.move? event

namespace Registry

variable {Value : Type}

/-! ## What steps do -/

def mayInline (registry : Registry Value) : Bool :=
  match registry.stack with
  | [] => registry.queue.isEmpty
  | activation :: _ => activation.userCode

def put (registry : Registry Value) (job : ServiceJob Value)
    (inline : Bool) : Registry Value :=
  if inline then
    { registry with
      lockCount := registry.lockCount + 1
      stack := ⟨job, .entered⟩ :: registry.stack }
  else
    { registry with
      lockCount := registry.lockCount + 1
      queue := registry.queue ++ [job] }

def putNoexcept (registry : Registry Value) (job : ServiceJob Value)
    (inline : Bool) : Registry Value :=
  if registry.lockCount = 0 then { registry with terminated := true }
  else registry.put job inline

/-- The session of a resident has come to another state. -/
def update (registry : Registry Value) (address : Nat)
    (resident : Option Resident) : Registry Value :=
  { registry with
    residents := Function.update registry.residents address resident }

/-- A resident has taken a step; `on_erase` follows the callback of its
locker. -/
def stepped (registry : Registry Value) (address : Nat)
    (resident : Resident) (next : WsSession) (inline : Bool) :
    Registry Value :=
  let updated := registry.update address (some ⟨resident.number, next⟩)
  if resident.session.locker.callbacks < next.locker.callbacks then
    updated.putNoexcept (.onErase ⟨address, resident.number⟩) inline
  else updated

def shutdownFinished (registry : Registry Value) (size : Nat) :
    Registry Value :=
  let called :=
    { registry with finishedWith := registry.finishedWith ++ [size] }
  if registry.runLock = false ∧ registry.shutdownLock = true then
    { called with
      shutdownLock := false
      lockCount := registry.lockCount - 1 }
  else called

@[simp] theorem shutdownFinished_stack (registry : Registry Value)
    (size : Nat) : (registry.shutdownFinished size).stack = registry.stack := by
  unfold shutdownFinished
  split <;> rfl

def identifierAt? (registry : Registry Value) (address : Nat) :
    Option WsIdentifier :=
  (registry.residents address).map fun resident => ⟨address, resident.number⟩

/-- The addresses in the map. -/
def addresses (registry : Registry Value) : Set Nat :=
  {address | registry.residents address ≠ none}

def Empty (registry : Registry Value) : Prop :=
  ∀ address, registry.residents address = none

def toStage (registry : Registry Value) (job : ServiceJob Value)
    (stage : Stage) (rest : List (Activation Value)) : Registry Value :=
  { registry with stack := ⟨job, stage⟩ :: rest }

/-- A job that is queued and the stage of the one that runs do not meet. -/
theorem toStage_stepped (registry : Registry Value) (address : Nat)
    (resident : Resident) (next : WsSession) (job : ServiceJob Value)
    (stage : Stage) (rest : List (Activation Value)) :
    (registry.stepped address resident next false).toStage job stage rest =
      (registry.toStage job stage rest).stepped address resident next
        false := by
  by_cases drains : resident.session.locker.callbacks < next.locker.callbacks
  · by_cases drained : registry.lockCount = 0 <;>
      simp [stepped, putNoexcept, put, update, toStage, drains, drained]
  · simp [stepped, update, toStage, drains]

theorem stepped_stack (registry : Registry Value) (address : Nat)
    (resident : Resident) (next : WsSession) :
    (registry.stepped address resident next false).stack =
      registry.stack := by
  by_cases drains : resident.session.locker.callbacks < next.locker.callbacks
  · by_cases drained : registry.lockCount = 0 <;>
      simp [stepped, putNoexcept, put, update, drains, drained]
  · simp [stepped, update, drains]

/-! ## Steps -/

/-- Steps of a job that only move it on. -/
inductive Moves (registry : Registry Value) (job : ServiceJob Value) :
    Stage → Stage → Prop where
  /-- There is nothing to do. -/
  | nothing :
      job.isErase = false → job.isShutdown = false →
      Moves registry job .entered .finished
  | startLoop {cursor : WsIdentifier} {present : List WsIdentifier} :
      job.strandJob?.isSome = true → job.identifier? = none →
      registry.identifierAt? cursor.session = some cursor →
      IsLeast registry.addresses cursor.session →
      (∀ identifier ∈ present,
        registry.identifierAt? identifier.session = some identifier) →
      Moves registry job .entered (.visiting ⟨cursor, present, []⟩)
  | erasing :
      job.isErase = true → Moves registry job .entered .erasing
  | admitted :
      job.connects?.isSome = true → registry.runLock = true →
      Moves registry job .entered .admitted
  /-- The function of the user passes the session over. -/
  | passed {loop : Loop} :
      job.isShutdown = false →
      registry.identifierAt? loop.cursor.session = some loop.cursor →
      Moves registry job (.visiting loop) (.left loop.visit)
  | skipped {target : WsIdentifier} {loop : Option Loop} :
      Moves registry job (.called target loop) (.afterCall loop)
  | advanced {loop : Loop} {cursor : WsIdentifier} :
      registry.identifierAt? loop.cursor.session = some loop.cursor →
      registry.identifierAt? cursor.session = some cursor →
      IsLeast {address | address ∈ registry.addresses ∧
        loop.cursor.session < address} cursor.session →
      Moves registry job (.left loop) (.visiting { loop with cursor := cursor })
  | refused : Moves registry job .admitted .finished
  | concluded :
      ¬(registry.Empty ∧ registry.shutdown = true) →
      Moves registry job .erased .finished

/-- A job calls `send` or `close` of a session. -/
inductive Calls (registry : Registry Value) (job : ServiceJob Value) :
    Stage → WsIdentifier → Option Loop → Prop where
  | act {identifier : WsIdentifier} :
      job.identifier? = some identifier →
      Calls registry job .entered identifier none
  | visit {loop : Loop} :
      job.identifier? = none →
      registry.identifierAt? loop.cursor.session = some loop.cursor →
      Calls registry job (.visiting loop) loop.cursor (some loop.visit)

/-- A session that a job has called goes on inside the job. -/
inductive GoesOn : Stage → WsIdentifier → SessionEvent → Stage → Prop where
  | ran {target : WsIdentifier} {loop : Option Loop} :
      GoesOn (.called target loop) target (.runJob .caller)
        (.inlined target loop)
  | released {target : WsIdentifier} {loop : Option Loop} :
      GoesOn (.inlined target loop) target (.release .caller)
        (.afterCall loop)
  | started {target : WsIdentifier} :
      GoesOn (.starting target) target .startReturns .finished

/-- Steps of a call of `shutdown()`. -/
inductive CallerMoves (registry : Registry Value) : Registry Value → Prop where
  | exchanged {index : Nat} :
      registry.callers[index]? = some .exchanging →
      CallerMoves registry { registry with
        runLock := false
        callers := registry.callers.set index (.storing registry.runLock) }
  | stored {index : Nat} {locked : Bool} :
      registry.callers[index]? = some (.storing locked) →
      CallerMoves registry { registry with
        shutdownLock := locked
        callers := registry.callers.set index .testing }
  | locked {index : Nat} :
      registry.callers[index]? = some .testing →
      registry.shutdownLock = true →
      CallerMoves registry { registry with
        callers := registry.callers.set index .deferring }
  | unlocked {index : Nat} :
      registry.callers[index]? = some .testing →
      registry.shutdownLock = false →
      CallerMoves registry { registry with
        callers := registry.callers.eraseIdx index }
  | deferred {index : Nat} :
      registry.callers[index]? = some .deferring →
      CallerMoves registry { registry.putNoexcept .onShutdown false with
        callers := registry.callers.eraseIdx index }

/-- One step of a service whose runs obey `rules`. -/
inductive Step (rules : Registry Value → Move → Prop)
    (registry : Registry Value) : Registry Value → Prop where
  | called {job : ServiceJob Value} {inline : Bool} :
      job.Callable registry.created → 0 < registry.lockCount →
      (inline = true → registry.mayInline = true) →
      Step rules registry (registry.put job inline)
  | shutdownCalled :
      registry.shutdownLock = false → rules registry .enterShutdown →
      Step rules registry
        { registry with callers := registry.callers ++ [.exchanging] }
  | callerMoved {after : Registry Value} :
      registry.CallerMoves after → Step rules registry after
  | sessionMoved {address : Nat} {event : SessionEvent}
      {resident : Resident} {next : WsSession} {inline : Bool} :
      registry.residents address = some resident →
      resident.session.step event = some next → event.byIoThread = true →
      (inline = true → registry.stack = [] ∧ registry.queue = []) →
      rules registry (.session address event) →
      Step rules registry (registry.stepped address resident next inline)
  | entered {job : ServiceJob Value} {jobs : List (ServiceJob Value)} :
      registry.stack = [] → registry.queue = job :: jobs →
      Step rules registry
        { registry with stack := [⟨job, .entered⟩], queue := jobs }
  | moved {job : ServiceJob Value} {stage stage' : Stage}
      {rest : List (Activation Value)} :
      registry.stack = ⟨job, stage⟩ :: rest →
      registry.Moves job stage stage' →
      Step rules registry (registry.toStage job stage' rest)
  | dispatched {job : ServiceJob Value} {stage : Stage}
      {rest : List (Activation Value)} {target : WsIdentifier}
      {loop : Option Loop} {strandJob : StrandJob} {resident : Resident}
      {next : WsSession} :
      registry.stack = ⟨job, stage⟩ :: rest →
      registry.Calls job stage target loop →
      job.strandJob? = some strandJob →
      registry.residents target.session = some resident →
      resident.session.step (.dispatch strandJob) = some next →
      Step rules registry ((registry.toStage job (.called target loop)
        rest).update target.session (some ⟨resident.number, next⟩))
  | wentOn {job : ServiceJob Value} {stage stage' : Stage}
      {rest : List (Activation Value)} {target : WsIdentifier}
      {event : SessionEvent} {resident : Resident} {next : WsSession}
      {inline : Bool} :
      registry.stack = ⟨job, stage⟩ :: rest →
      GoesOn stage target event stage' →
      registry.residents target.session = some resident →
      resident.session.step event = some next →
      rules registry (.session target.session event) →
      Step rules registry ((registry.toStage job stage' rest).stepped
        target.session resident next inline)
  | loopEnded {job : ServiceJob Value} {loop : Loop}
      {rest : List (Activation Value)} {shutdown : Bool} :
      registry.stack = ⟨job, .left loop⟩ :: rest →
      registry.identifierAt? loop.cursor.session = some loop.cursor →
      (∀ address ∈ registry.addresses, address ≤ loop.cursor.session) →
      shutdown = (registry.shutdown || job.isShutdown) →
      Step rules registry { registry.toStage job .finished rest with
        loops := registry.loops ++ [loop]
        shutdown := shutdown }
  | missed {identifier : WsIdentifier} {rest : List (Activation Value)} :
      registry.stack = ⟨.onErase identifier, .entered⟩ :: rest →
      registry.residents identifier.session = none →
      Step rules registry
        { registry.toStage (.onErase identifier) .finished rest with
          missed := registry.missed ++ [identifier] }
  | erased {identifier : WsIdentifier} {rest : List (Activation Value)}
      {resident : Resident} {inLoop : List WsIdentifier} :
      registry.stack = ⟨.onErase identifier, .erasing⟩ :: rest →
      registry.residents identifier.session = some resident →
      inLoop = (if rest.any (·.stage.loops) then
        [⟨identifier.session, resident.number⟩] else []) →
      Step rules registry
        { (registry.toStage (.onErase identifier) .erased rest).update
            identifier.session none with
          removals := registry.removals ++ [⟨identifier,
            ⟨identifier.session, resident.number⟩,
            resident.session.locker.callbacks, resident.session.holders⟩]
          erasedInLoop := registry.erasedInLoop ++ inLoop }
  | foundEmpty {rest : List (Activation Value)} :
      registry.stack = ⟨.onShutdown, .entered⟩ :: rest → registry.Empty →
      Step rules registry (toStage
        { registry.shutdownFinished 0 with shutdown := true }
        .onShutdown .finished rest)
  | finished {job : ServiceJob Value} {rest : List (Activation Value)} :
      registry.stack = ⟨job, .erased⟩ :: rest → registry.Empty →
      registry.shutdown = true →
      Step rules registry
        ((registry.shutdownFinished 0).toStage job .finished rest)
  | emplaced {job : ServiceJob Value} {rest : List (Activation Value)}
      {role : Role} {address : Nat} :
      registry.stack = ⟨job, .admitted⟩ :: rest →
      job.connects? = some role → registry.residents address = none →
      Step rules registry
        { (registry.toStage job
            (.starting ⟨address, registry.created.length⟩) rest).update address
              (some ⟨registry.created.length, .launched role⟩) with
          created :=
            registry.created ++ [⟨address, registry.created.length⟩]
          late := registry.late ++ if registry.shutdown then
            [⟨address, registry.created.length⟩] else [] }
  | ended {job : ServiceJob Value} {rest : List (Activation Value)} :
      registry.stack = ⟨job, .finished⟩ :: rest →
      Step rules registry { registry with
        stack := rest, lockCount := registry.lockCount - 1 }

/-- The constructor of the service. -/
def constructed : Registry Value :=
  { residents := fun _ => none
    queue := []
    stack := []
    lockCount := 1
    runLock := true
    shutdownLock := false
    shutdown := false
    callers := []
    terminated := false
    created := []
    removals := []
    missed := []
    loops := []
    erasedInLoop := []
    late := []
    finishedWith := [] }

inductive Reachable (rules : Registry Value → Move → Prop) :
    Registry Value → Prop where
  | constructed : Reachable rules .constructed
  | step {before after : Registry Value} :
      Reachable rules before → Step rules before after → Reachable rules after

end Registry

end Webservice
