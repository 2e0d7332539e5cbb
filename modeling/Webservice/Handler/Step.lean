import Webservice.Handler.State
import Webservice.Library.Machine

/-!
# The service handler as a step machine

The body of a job of the strand is one step; its lambda is destroyed in
another, and in between code that the job called may dispatch to the strand,
which runs inside that call.  Between any two steps the services take and
release locks, and any thread may call into the handler.
-/

namespace Webservice

inductive HandlerEvent where
  | setExecutor
  /-- The user or the server calls a function that dispatches a job. -/
  | call (job : HandlerJob) (inline : Bool)
  | callShutdown
  /-- The next step of a call of `shutdown()`. -/
  | shutdownStep (index : Nat)
  /-- The first job of the strand runs. -/
  | run
  /-- The lambda of the job is destroyed. -/
  | finish
  /-- An operation of a service makes a lock. -/
  | acquire (name : String)
  /-- An operation of a service releases its lock. -/
  | release (name : String) (inline : Bool)
  /-- A service calls `shutdown_finished()`. -/
  | serviceFinished (name : String) (inline : Bool)
  deriving DecidableEq

namespace WsServiceHandler

/-! ## Jobs -/

/-- `services_.emplace(name, service)` of a name that is free -/
def emplaced (handler : WsServiceHandler) (name : String) :
    WsServiceHandler :=
  { handler with
    services := handler.services.insert name
      (.constructed handler.history.added.length)
    history :=
      { handler.history with
        added := handler.history.added ++ [name]
        lateJobs := handler.history.lateJobs + handler.complete.toNat } }

/-- The lambda of `add_service`.  `emplace` moves out of the name, whether it
inserts or not. -/
def addServiceJob (movedFrom : String → String) (name : String)
    (handler : WsServiceHandler) : WsServiceHandler :=
  match handler.services.find? name with
  | none => handler.emplaced name
  | some _ => handler.report
      (.logicError ("service(" ++ movedFrom name ++ ") already exists"))

def missing (name : String) : Exception :=
  .logicError ("service(" ++ name ++ ") doesn't exist")

/-- The lambda of `erase_service`. -/
def eraseServiceJob (name : String) (handler : WsServiceHandler) :
    WsServiceHandler :=
  match handler.services.find? name with
  | none => handler.report (missing name)
  | some service =>
      { handler with
        services := handler.services.modify name fun _ =>
          service.shutdownWith ⟨name, service.number⟩
        history :=
          { handler.history with
            eraseCalled := handler.history.eraseCalled ++
              [service.number] } }

/-- The lambdas of `on_server_connect` and `on_client_connect`. -/
def connectJob (job : HandlerJob) (name : String)
    (handler : WsServiceHandler) : WsServiceHandler :=
  match handler.services.find? name with
  | none => handler.report (missing name)
  | some service =>
      { handler with history :=
          { handler.history with
            forwarded := handler.history.forwarded ++
              [⟨job, service.number⟩] } }

/-- `shutdown_finished()` with the `catch` around it -/
def shutdownFinished (handler : WsServiceHandler) : WsServiceHandler :=
  let called := { handler with history :=
    { handler.history with
      finishedCalls := handler.history.finishedCalls + 1 } }
  match handler.base.shutdownFinished with
  | .ok base => { called with base := base }
  | .error error => called.report error

/-- The lambda of `on_shutdown`. -/
def onShutdownJob (handler : WsServiceHandler) : WsServiceHandler :=
  let noted := { handler with history :=
    { handler.history with
      lateJobs := handler.history.lateJobs + handler.complete.toNat } }
  if handler.services.isEmpty then
    { noted.shutdownFinished with shutdown := true }
  else
    { noted with
      services := handler.services.mapItems Registered.shutdown
      shutdown := true }

/-- An iterator that points to another entry or to none. -/
def goesStale (handler : WsServiceHandler) (iter : ServiceIter) :
    WsServiceHandler :=
  { handler with history :=
      { handler.history with stale := handler.history.stale ++ [iter] } }

/-- `services_.erase(iter)` with the destructor of the service -/
def erased (handler : WsServiceHandler) (iter : ServiceIter)
    (service : Registered) : WsServiceHandler :=
  { handler with
    services := handler.services.erase iter.name
    history :=
      { handler.history with
        destroyed := handler.history.destroyed ++
          [⟨service.number, service.lockCount⟩] } }

/-- The lambda that the callback of a service dispatches. -/
def eraseEntryJob (iter : ServiceIter) (handler : WsServiceHandler) :
    WsServiceHandler :=
  match handler.services.find? iter.name with
  | none => handler.goesStale iter
  | some service =>
      if service.number = iter.number then
        if (handler.erased iter service).complete then
          (handler.erased iter service).shutdownFinished
        else handler.erased iter service
      else handler.goesStale iter

def perform (movedFrom : String → String) (handler : WsServiceHandler) :
    HandlerJob → WsServiceHandler
  | .addService name => addServiceJob movedFrom name handler
  | .eraseService name => eraseServiceJob name handler
  | .serverConnect req => connectJob (.serverConnect req) req.target handler
  | .clientConnect host port resource =>
      connectJob (.clientConnect host port resource) resource handler
  | .onShutdown => handler.onShutdownJob
  | .eraseEntry iter => eraseEntryJob iter handler

/-! ## Dispatching -/

def push (handler : WsServiceHandler) (job : HandlerJob) :
    WsServiceHandler :=
  { handler with strand := handler.strand ++ [job] }

def locked (handler : WsServiceHandler) (locker : AsyncLocker) :
    WsServiceHandler :=
  { handler with base := { handler.base with locker := locker } }

def unlocked (handler : WsServiceHandler) : WsServiceHandler :=
  handler.locked handler.base.locker.unlock

/-- `strand_.dispatch` of a lambda with a lock, in a function that passes its
exceptions to `on_exception`. -/
def dispatch (movedFrom : String → String) (handler : WsServiceHandler)
    (job : HandlerJob) (inline : Bool) : WsServiceHandler :=
  match handler.base.locker.makeLock with
  | .error error => handler.report error
  | .ok locker =>
      if inline then ((handler.locked locker).perform movedFrom job).unlocked
      else (handler.locked locker).push job

/-- The public functions.  Without `impl_` a connect fails an assertion. -/
def call (movedFrom : String → String) (handler : WsServiceHandler)
    (job : HandlerJob) (inline : Bool) : Option WsServiceHandler :=
  if handler.hasImpl then some (handler.dispatch movedFrom job inline)
  else
    match job with
    | .addService _ => some (handler.report
        (.logicError "called add_service() before server was set"))
    | .eraseService _ => some (handler.report
        (.logicError "called erase_service() before server was set"))
    | _ => none

/-- `on_shutdown` defers its lambda. -/
def onShutdown (handler : WsServiceHandler) : WsServiceHandler :=
  match handler.base.locker.makeLock with
  | .error error => handler.report error
  | .ok locker => (handler.locked locker).push .onShutdown

def shutdownStep (handler : WsServiceHandler) (index : Nat) :
    Option WsServiceHandler :=
  match handler.callers[index]? with
  | none => none
  | some .exchanging =>
      some { handler with
        base := { handler.base with runLock := false }
        callers := handler.callers.set index (.storing handler.base.runLock) }
  | some (.storing locked) =>
      some { handler with
        base := { handler.base with shutdownLock := locked }
        callers := handler.callers.set index .testing }
  | some .testing =>
      if handler.base.shutdownLock then
        some { handler with
          callers := handler.callers.set index .deferring }
      else
        some { handler with callers := handler.callers.eraseIdx index }
  | some .deferring =>
      if handler.hasImpl then
        some { handler.onShutdown with
          callers := handler.callers.eraseIdx index }
      else none

/-! ## Services -/

/-- The lambda that `erase_service` registered. -/
def callBack (movedFrom : String → String) (handler : WsServiceHandler)
    (iter : ServiceIter) (inline : Bool) : WsServiceHandler :=
  if inline then handler.perform movedFrom (.eraseEntry iter)
  else handler.push (.eraseEntry iter)

/-- A service is drained. -/
def drained (movedFrom : String → String) (handler : WsServiceHandler)
    (service : Registered) (inline : Bool) : WsServiceHandler :=
  match service.callback with
  | some iter => handler.callBack movedFrom iter inline
  | none =>
      { handler with history :=
          { handler.history with
            drainedAlone := handler.history.drainedAlone ++
              [service.number] } }

/-- A lock of the service is released, which leaves the service as
`changed`. -/
def releaseLock (movedFrom : String → String) (handler : WsServiceHandler)
    (name : String) (service changed : Registered) (inline : Bool) :
    WsServiceHandler :=
  let updated := { handler with
    services := handler.services.modify name fun _ => changed }
  if service.lockCount = 1 then updated.drained movedFrom service inline
  else updated

def acquire (handler : WsServiceHandler) (name : String) :
    Option WsServiceHandler :=
  match handler.services.find? name with
  | none => none
  | some service =>
      match service.base.locker.makeLock with
      -- the service gets the exception
      | .error _ => some handler
      | .ok locker =>
          some { handler with
            services := handler.services.modify name fun _ =>
              { service with
                base := { service.base with locker := locker }
                others := service.others + 1 } }

def release (movedFrom : String → String) (handler : WsServiceHandler)
    (name : String) (inline : Bool) : Option WsServiceHandler :=
  match handler.services.find? name with
  | none => none
  | some service =>
      if 0 < service.others then
        some (handler.releaseLock movedFrom name service
          { service with
            base := { service.base with
              locker := service.base.locker.unlock }
            others := service.others - 1 } inline)
      else none

def serviceFinished (movedFrom : String → String)
    (handler : WsServiceHandler) (name : String) (inline : Bool) :
    Option WsServiceHandler :=
  match handler.services.find? name with
  | none => none
  | some service =>
      match service.base.shutdownFinished with
      -- the service gets the exception
      | .error _ => some handler
      | .ok base =>
          some (handler.releaseLock movedFrom name service
            { service with base := base } inline)

/-- A dispatch from code that the running job has called is inside the
strand; others wait in its queue, or run at once on an idle strand, which is
the same as waiting there alone. -/
def mayInline (handler : WsServiceHandler) (inline : Bool) : Prop :=
  inline = true → handler.running.isSome = true

instance (handler : WsServiceHandler) (inline : Bool) :
    Decidable (handler.mayInline inline) :=
  inferInstanceAs (Decidable (_ → _))

def step (movedFrom : String → String) (handler : WsServiceHandler) :
    HandlerEvent → Option WsServiceHandler
  | .setExecutor =>
      if handler.hasImpl then none else some { handler with hasImpl := true }
  | .call job inline =>
      if job.isCall = true ∧ handler.mayInline inline then
        handler.call movedFrom job inline
      else none
  | .callShutdown =>
      if handler.base.shutdownLock then some handler
      else some { handler with callers := handler.callers ++ [.exchanging] }
  | .shutdownStep index => handler.shutdownStep index
  | .run =>
      match handler.running, handler.strand with
      | none, job :: jobs =>
          some { perform movedFrom { handler with strand := jobs } job with
            running := some job }
      | _, _ => none
  | .finish =>
      match handler.running with
      | none => none
      | some job =>
          some { (if job.holdsLock then handler.unlocked else handler) with
            running := none }
  | .acquire name => handler.acquire name
  | .release name inline =>
      if handler.mayInline inline then handler.release movedFrom name inline
      else none
  | .serviceFinished name inline =>
      if handler.mayInline inline then
        handler.serviceFinished movedFrom name inline
      else none

end WsServiceHandler

/-- `movedFrom` tells what a string holds after it was moved out of. -/
def handlerMachine (movedFrom : String → String) :
    Machine WsServiceHandler HandlerEvent where
  initial handler := handler = .constructed
  step := WsServiceHandler.step movedFrom

end Webservice
