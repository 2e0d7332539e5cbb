import Webservice.Library.Machine
import Webservice.Service.State

/-!
# A service as a step machine

The jobs of the service run on its strand.  A job that is dispatched where
the caller is on the strand already, or where the strand is idle and the
caller is a thread of the io context, runs inside the call; others wait in
the queue.  Between any two steps of a job the threads of the io context may
run handlers of the sessions, and any thread may call into the service.
-/

namespace Webservice

/-- The events that threads of the io context cause by themselves; the others
are caused by jobs of the service. -/
def SessionEvent.byIoThread : SessionEvent → Bool
  | .runJob host => host = .ioThread
  | .release host => host = .ioThread
  | .startReturns => false
  | .dispatch _ => false
  | .erase => false
  | _ => true

/-- The stage after the session has been called. -/
def Stage.afterCall : Option Loop → Stage
  | some loop => .left loop
  | none => .finished

/-- Functions of the user run here, and may call into the service. -/
def Activation.userCode {Value : Type} :
    Activation Value → Bool
  | ⟨.sendIf _ _ _, .visiting _⟩ => true
  | ⟨.closeIf _ _, .visiting _⟩ => true
  | ⟨.modifyValue _ _, .entered⟩ => true
  | ⟨.onErase _, .erasing⟩ => true
  | ⟨.onErase _, .erased⟩ => true
  | _ => false

inductive ServiceEvent (Value : Type) where
  /-- The user calls a function that dispatches a job. -/
  | call (job : ServiceJob Value) (inline : Bool)
  | callShutdown
  /-- The next step of a call of `shutdown()`. -/
  | shutdownStep (index : Nat)
  /-- A session takes a step; should it drain, `on_erase` is dispatched. -/
  | session (address : Nat) (event : SessionEvent) (inline : Bool)
  /-- The first job of the queue starts. -/
  | enter
  | begin
  | visit
  /-- The lambda of the called session stays in its queue. -/
  | skip
  | runInline
  | release
  | advance
  | eraseEntry
  | conclude
  /-- A new node is allocated at `address`. -/
  | emplace (address : Nat)
  | startReturns
  | refuse (error : Exception)
  | finish

namespace ServiceJob

variable {Value : Type}

def sendText (identifier : WsIdentifier) (buffer : List UInt8) :
    ServiceJob Value :=
  .send identifier true buffer

def sendBinary (identifier : WsIdentifier) (buffer : List UInt8) :
    ServiceJob Value :=
  .send identifier false buffer

def sendTextIf (fn : UnaryFunction Value) (buffer : List UInt8) :
    ServiceJob Value :=
  .sendIf fn true buffer

def sendBinaryIf (fn : UnaryFunction Value) (buffer : List UInt8) :
    ServiceJob Value :=
  .sendIf fn false buffer

/-- `send_text` and `send_binary` without an identifier -/
def sendAll (isText : Bool) (buffer : List UInt8) : ServiceJob Value :=
  .sendIf (fun _ value => (.ok true, value)) isText buffer

/-- `close` without an identifier -/
def closeAll (reason : CloseReason) : ServiceJob Value :=
  .closeIf (fun _ value => (.ok true, value)) reason

def setValue (identifier : WsIdentifier) (value : Value) :
    ServiceJob Value :=
  .modifyValue identifier fun _ => (.ok (), value)

/-- The user may dispatch the job, given the identifiers handed out. -/
def Callable (known : List WsIdentifier) : ServiceJob Value → Prop
  | .send identifier _ _ => identifier ∈ known
  | .close identifier _ => identifier ∈ known
  | .modifyValue identifier _ => identifier ∈ known
  | .onShutdown => False
  | .onErase _ => False
  | _ => True

instance (known : List WsIdentifier) :
    (job : ServiceJob Value) → Decidable (job.Callable known)
  | .send identifier _ _ => inferInstanceAs (Decidable (identifier ∈ known))
  | .close identifier _ => inferInstanceAs (Decidable (identifier ∈ known))
  | .modifyValue identifier _ =>
      inferInstanceAs (Decidable (identifier ∈ known))
  | .onShutdown => inferInstanceAs (Decidable False)
  | .onErase _ => inferInstanceAs (Decidable False)
  | .sendIf _ _ _ => inferInstanceAs (Decidable True)
  | .closeIf _ _ => inferInstanceAs (Decidable True)
  | .serverConnect _ => inferInstanceAs (Decidable True)
  | .clientConnect _ => inferInstanceAs (Decidable True)

end ServiceJob

namespace WsService

variable {Value : Type}

/-! ## Dispatching -/

/-- `dispatch` may run a job inside the call. -/
def mayInline (service : WsService Value) : Bool :=
  match service.stack with
  | [] => service.queue.isEmpty
  | activation :: _ => activation.userCode

/-- Put a job with its lock on the strand. -/
def put (service : WsService Value) (locker : AsyncLocker)
    (job : ServiceJob Value) (inline : Bool) : WsService Value :=
  if inline then
    { service with
      locker := locker
      stack := ⟨job, .entered⟩ :: service.stack }
  else
    { service with
      locker := locker
      queue := service.queue ++ [job] }

/-- `strand_.dispatch` or `defer` of a lambda with a lock, in a function that
is `noexcept`. -/
def putNoexcept (service : WsService Value) (job : ServiceJob Value)
    (inline : Bool) : WsService Value :=
  match service.locker.makeLock with
  | .ok locker => service.put locker job inline
  | .error _ => { service with terminated := true }

def onErase (service : WsService Value) (identifier : WsIdentifier)
    (inline : Bool) : WsService Value :=
  service.putNoexcept (.onErase identifier) inline

def onShutdown (service : WsService Value) : WsService Value :=
  service.putNoexcept .onShutdown false

/-! ## Sessions -/

/-- Replace the session at an address. -/
def setSession (service : WsService Value) (address : Nat)
    (session : WsSession) : WsService Value :=
  { service with map := service.map.modify address fun node =>
      { node with session := session } }

/-- The session at `address` takes a step.  When its locker calls back, the
service dispatches the job that erases it. -/
def stepSession (service : WsService Value) (address : Nat)
    (event : SessionEvent) (inline : Bool) : Option (WsService Value) :=
  match service.map.find? address with
  | none => none
  | some node =>
      (node.session.step event).map fun session =>
        if node.session.locker.callbacks < session.locker.callbacks then
          (service.setSession address session).onErase
            ⟨address, node.number⟩ inline
        else service.setSession address session

/-! ## Shutting down -/

def shutdownFinished (service : WsService Value) : WsService Value :=
  let service := { service with history :=
    { service.history with finishedWith :=
        service.history.finishedWith ++ [service.map.entries.length] } }
  if service.runLock then
    service.report (.logicError "shutdown_finished() call without shutdown")
  else if service.shutdownLock then
    { service with
      shutdownLock := false
      locker := service.locker.unlock }
  else
    service.report (.logicError "repeated shutdown_finished() call")

def shutdownStep (service : WsService Value) (index : Nat) :
    Option (WsService Value) :=
  match service.callers[index]? with
  | none => none
  | some .exchanging =>
      some { service with
        runLock := false
        callers := service.callers.set index (.storing service.runLock) }
  | some (.storing locked) =>
      some { service with
        shutdownLock := locked
        callers := service.callers.set index .testing }
  | some .testing =>
      if service.shutdownLock then
        some { service with
          callers := service.callers.set index .deferring }
      else
        some { service with callers := service.callers.eraseIdx index }
  | some .deferring =>
      some { service.onShutdown with
        callers := service.callers.eraseIdx index }

/-! ## Jobs -/

/-- The running job comes to another stage. -/
def toStage (service : WsService Value) (stage : Stage) : WsService Value :=
  match service.stack with
  | [] => service
  | activation :: rest =>
      { service with stack := { activation with stage := stage } :: rest }

/-- `identifier.session->send(..)` or `close(..)` -/
def callSession (service : WsService Value) (target : WsIdentifier)
    (job : StrandJob) (loop : Option Loop) : Option (WsService Value) :=
  (service.stepSession target.session (.dispatch job) false).map fun service =>
    service.toStage (.called target loop)

/-- The loop begins, with its iterator at the first node. -/
def startLoop (service : WsService Value) : WsService Value :=
  match service.map.first?.bind service.identifierAt? with
  | none => service.toStage .finished
  | some cursor =>
      service.toStage (.visiting ⟨cursor, service.identifiers, []⟩)

/-- A job on one session looks its identifier up. -/
def actOn (service : WsService Value) (identifier : WsIdentifier)
    (act : WsService Value → Node Value → Option (WsService Value)) :
    Option (WsService Value) :=
  match service.map.find? identifier.session with
  | none => some (service.toStage .finished)
  | some node => act (service.note identifier node.number) node

/-- No session is put into the map once `shutdown()` was called. -/
def admitConnect (service : WsService Value) : WsService Value :=
  if service.isShutdown then
    (service.report (.logicError
      "emplace in ws_service_base while shutdown")).toStage .finished
  else service.toStage .admitted

/-- `on_erase` finds no session; its own `catch` takes the exception. -/
def miss (service : WsService Value) (identifier : WsIdentifier) :
    WsService Value :=
  let reported := service.report (.logicError "session doesn't exist")
  { reported with history :=
      { reported.history with
        missed := service.history.missed ++ [identifier] } }

def begin (service : WsService Value) :
    ServiceJob Value → Option (WsService Value)
  | .send identifier isText data =>
      service.actOn identifier fun service _ =>
        service.callSession identifier (.send isText data) none
  | .close identifier reason =>
      service.actOn identifier fun service _ =>
        service.callSession identifier (.close reason) none
  | .modifyValue identifier fn =>
      service.actOn identifier fun service node =>
        let modified := { service with
          map := service.map.modify identifier.session fun node =>
            { node with value := (fn node.value).2 } }
        match (fn node.value).1 with
        | .ok _ => some (modified.toStage .finished)
        | .error error => some ((modified.report error).toStage .finished)
  | .sendIf _ _ _ => some service.startLoop
  | .closeIf _ _ => some service.startLoop
  | .onShutdown =>
      if service.map.isEmpty then
        some ({ service.shutdownFinished with
          shutdown := true }.toStage .finished)
      else some service.startLoop
  | .onErase identifier =>
      match service.map.find? identifier.session with
      | none =>
          some ((service.miss identifier).toStage .finished)
      | some _ => some (service.toStage .erasing)
  | .serverConnect _ => some service.admitConnect
  | .clientConnect _ => some service.admitConnect

/-- The node at the iterator of a loop, as long as it has not been erased. -/
def atCursor? (service : WsService Value) (loop : Loop) :
    Option (Node Value) :=
  (service.map.find? loop.cursor.session).filter fun node =>
    node.number = loop.cursor.owner

/-- `if(fn(identifier, session.second)){ call }` with its `catch` -/
def visitIf (service : WsService Value) (fn : UnaryFunction Value)
    (node : Node Value) (loop : Loop) (job : StrandJob) :
    Option (WsService Value) :=
  let modified := { service with
    map := service.map.modify loop.cursor.session fun node =>
      { node with value := (fn loop.cursor.session node.value).2 } }
  match (fn loop.cursor.session node.value).1 with
  | .ok true => modified.callSession loop.cursor job (some loop)
  | .ok false => some (modified.toStage (.left loop))
  | .error error => some ((modified.report error).toStage (.left loop))

/-- The body of a loop. -/
def visit (service : WsService Value) (job : ServiceJob Value)
    (loop : Loop) : Option (WsService Value) :=
  match service.atCursor? loop with
  -- the iterator points to a node that was erased
  | none => none
  | some node =>
      let loop := { loop with visited := loop.visited ++ [loop.cursor] }
      match job with
      | .sendIf fn isText data =>
          service.visitIf fn node loop (.send isText data)
      | .closeIf fn reason => service.visitIf fn node loop (.close reason)
      | .onShutdown =>
          service.callSession loop.cursor (.close (.ofText "shutdown"))
            (some loop)
      | _ => none

/-- `++iterator`, and the end of the loop. -/
def advance (service : WsService Value) (job : ServiceJob Value)
    (loop : Loop) : Option (WsService Value) :=
  match service.atCursor? loop with
  -- the iterator points to a node that was erased
  | none => none
  | some _ =>
      match (service.map.next? loop.cursor.session).bind
          service.identifierAt? with
      | some cursor =>
          some (service.toStage (.visiting { loop with cursor := cursor }))
      | none =>
          let ended := { service with history :=
            { service.history with loops := service.history.loops ++ [loop] } }
          match job with
          | .onShutdown =>
              some ({ ended with shutdown := true }.toStage .finished)
          | _ => some (ended.toStage .finished)

/-- `map_.erase(iter)` with the destructor of the session. -/
def eraseEntry (service : WsService Value) (identifier : WsIdentifier) :
    Option (WsService Value) :=
  match service.map.find? identifier.session with
  | none => none
  | some node =>
      let session : WsIdentifier := ⟨identifier.session, node.number⟩
      let erased : WsService Value := { service with
        map := service.map.erase identifier.session
        history :=
          { service.history with
            removals := service.history.removals ++
              [⟨identifier, session, node.session.locker.callbacks,
                node.session.holders⟩]
            erasedInLoop := service.history.erasedInLoop ++
              if service.inLoop then [session] else [] } }
      some (erased.toStage .erased)

/-- The rest of `on_erase`. -/
def conclude (service : WsService Value) : WsService Value :=
  if service.map.isEmpty ∧ service.shutdown then
    service.shutdownFinished.toStage .finished
  else service.toStage .finished

/-- `map_.emplace(..)` and the start of the new session. -/
def emplace (service : WsService Value) (address : Nat) (role : Role)
    (value : Value) : Option (WsService Value) :=
  if address ∈ service.map.keys then none
  else
    let identifier : WsIdentifier := ⟨address, service.history.created.length⟩
    let node : Node Value := ⟨identifier.owner, .launched role, value⟩
    let emplaced : WsService Value := { service with
      map := service.map.insert address node
      history :=
        { service.history with
          created := service.history.created ++ [identifier]
          late := service.history.late ++
            if service.shutdown then [identifier] else [] } }
    some (emplaced.toStage (.starting identifier))

/-- The lambda of the running job is destroyed. -/
def finish (service : WsService Value) (rest : List (Activation Value)) :
    WsService Value :=
  { service with
    locker := service.locker.unlock
    stack := rest }

/-- The next step of the job that runs. -/
def work (service : WsService Value) (rest : List (Activation Value))
    (job : ServiceJob Value) :
    Stage → ServiceEvent Value → Option (WsService Value)
  | .entered, .begin => service.begin job
  | .visiting loop, .visit => service.visit job loop
  | .called _ loop, .skip => some (service.toStage (.afterCall loop))
  | .called target loop, .runInline =>
      (service.stepSession target.session (.runJob .caller) false).map
        fun service => service.toStage (.inlined target loop)
  | .inlined target loop, .release =>
      (service.toStage (.afterCall loop)).stepSession target.session
        (.release .caller) true
  | .left loop, .advance => service.advance job loop
  | .starting target, .startReturns =>
      (service.toStage .finished).stepSession target.session .startReturns
        true
  | .erasing, .eraseEntry =>
      match job with
      | .onErase identifier => service.eraseEntry identifier
      | _ => none
  | .erased, .conclude => some service.conclude
  | .admitted, .emplace address =>
      match job with
      | .serverConnect value => service.emplace address .server value
      | .clientConnect value => service.emplace address .client value
      | _ => none
  | .admitted, .refuse error =>
      some ((service.report error).toStage .finished)
  | .finished, .finish => some (service.finish rest)
  | _, _ => none

def step (service : WsService Value) (event : ServiceEvent Value) :
    Option (WsService Value) :=
  if service.terminated then none
  else
    match event with
    | .call job inline =>
        if job.Callable service.history.created ∧
            (inline = true → service.mayInline = true) then
          match service.locker.makeLock with
          | .ok locker => some (service.put locker job inline)
          -- the caller gets the exception
          | .error _ => some service
        else none
    | .callShutdown =>
        if service.shutdownLock then some service
        else some { service with callers := service.callers ++ [.exchanging] }
    | .shutdownStep index => service.shutdownStep index
    | .session address event inline =>
        if event.byIoThread ∧
            (inline = true → service.stack = [] ∧ service.queue = []) then
          service.stepSession address event inline
        else none
    | .enter =>
        match service.stack, service.queue with
        | [], job :: jobs =>
            some { service with
              stack := [⟨job, .entered⟩]
              queue := jobs }
        | _, _ => none
    | event =>
        match service.stack with
        | [] => none
        | activation :: rest =>
            service.work rest activation.job activation.stage event

end WsService

def serviceMachine (Value : Type) :
    Machine (WsService Value) (ServiceEvent Value) where
  initial service := service = .constructed
  step := WsService.step

end Webservice
