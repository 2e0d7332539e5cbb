import Mathlib.Data.String.Basic
import Webservice.Http.State
import Webservice.Library.OrderedMap
import Webservice.Service.State

/-!
# The state of the service handler

The members of `ws_service_handler`, the jobs on its strand, the services
registered with it as far as their lockers go, and a history that no job
reads.
-/

namespace Webservice

/-- `ws_handler_interface`, the base of the handler and of every service. -/
structure WsHandlerInterface where
  locker : AsyncLocker
  /-- `run_lock_.is_locked()` -/
  runLock : Bool
  /-- `shutdown_lock_.is_locked()` -/
  shutdownLock : Bool
  deriving DecidableEq

namespace WsHandlerInterface

/-- The constructor makes the first lock. -/
def constructed : WsHandlerInterface :=
  { locker := { AsyncLocker.constructed with lockCount := 1 }
    runLock := true
    shutdownLock := false }

def isShutdown (base : WsHandlerInterface) : Bool := !base.runLock

/-- `shutdown()` on a strand, where nothing interrupts it. -/
def shutdown (base : WsHandlerInterface) : WsHandlerInterface :=
  if base.shutdownLock then base
  else { base with runLock := false, shutdownLock := base.runLock }

def shutdownFinished (base : WsHandlerInterface) :
    Except Exception WsHandlerInterface :=
  if base.runLock then
    .error (.logicError "shutdown_finished() call without shutdown")
  else if base.shutdownLock then
    .ok { base with shutdownLock := false, locker := base.locker.unlock }
  else
    .error (.logicError "repeated shutdown_finished() call")

end WsHandlerInterface

/-- An iterator of `services_`: the key of the entry it points to, and which
service the entry was made for. -/
structure ServiceIter where
  name : String
  number : Nat
  deriving DecidableEq

/-- A service in `services_`.  The services are numbered as they are put
in. -/
structure Registered where
  number : Nat
  base : WsHandlerInterface
  /-- Locks that operations of the service hold. -/
  others : Nat
  /-- The callback of the locker, by the iterator it captured. -/
  callback : Option ServiceIter
  deriving DecidableEq

namespace Registered

def lockCount (service : Registered) : Nat := service.base.locker.lockCount

def isShutdown (service : Registered) : Bool := service.base.isShutdown

/-- A service as `add_service` is given it. -/
def constructed (number : Nat) : Registered :=
  { number := number, base := .constructed, others := 0, callback := none }

/-- `service->shutdown()` -/
def shutdown (service : Registered) : Registered :=
  { service with base := service.base.shutdown }

/-- `service->shutdown(fn)` with the lambda of `erase_service` -/
def shutdownWith (iter : ServiceIter) (service : Registered) : Registered :=
  { service with callback := some iter }.shutdown

end Registered

/-- The lambdas that run on the strand of the handler. -/
inductive HandlerJob where
  | addService (name : String)
  | eraseService (name : String)
  | serverConnect (req : HttpRequest)
  | clientConnect (host port resource : String)
  | onShutdown
  /-- Dispatched by the callback of a drained service. -/
  | eraseEntry (iter : ServiceIter)
  deriving DecidableEq

namespace HandlerJob

/-- The lambda captures a lock of the handler. -/
def holdsLock : HandlerJob → Bool
  | .eraseEntry _ => false
  | _ => true

/-- The name under which a connect looks its service up. -/
def target? : HandlerJob → Option String
  | .serverConnect req => some req.target
  | .clientConnect _ _ resource => some resource
  | _ => none

def iter? : HandlerJob → Option ServiceIter
  | .eraseEntry iter => some iter
  | _ => none

/-- The user or the server causes the job. -/
def isCall : HandlerJob → Bool
  | .onShutdown => false
  | .eraseEntry _ => false
  | _ => true

end HandlerJob

/-- A connect passed on to a service. -/
structure Forward where
  job : HandlerJob
  number : Nat
  deriving DecidableEq

/-- A service destroyed: which, and the count of its locker then. -/
structure Destruction where
  number : Nat
  lockCount : Nat
  deriving DecidableEq

structure HandlerHistory where
  /-- The names of the services put into `services_`, by their numbers. -/
  added : List String
  /-- The services that `erase_service` was run for. -/
  eraseCalled : List Nat
  destroyed : List Destruction
  /-- Iterators that did not point to their entry when it was erased. -/
  stale : List ServiceIter
  forwarded : List Forward
  /-- Services whose last lock was released without a callback. -/
  drainedAlone : List Nat
  /-- Calls of `shutdown_finished()`. -/
  finishedCalls : Nat
  /-- Services added and shutdown jobs run after the shutdown was
  complete. -/
  lateJobs : Nat
  /-- Arguments of `on_exception`. -/
  reported : List Exception
  deriving DecidableEq

structure WsServiceHandler where
  base : WsHandlerInterface
  /-- Calls of `shutdown()` in progress. -/
  callers : List ShutdownCall
  /-- `impl_` is set. -/
  hasImpl : Bool
  /-- Jobs on `strand_` that have not run. -/
  strand : List HandlerJob
  /-- The job that has run while its lambda is still to be destroyed. -/
  running : Option HandlerJob
  services : OrderedMap String Registered
  /-- The member `shutdown_`, not `is_shutdown()`. -/
  shutdown : Bool
  history : HandlerHistory

namespace WsServiceHandler

def constructed : WsServiceHandler :=
  { base := .constructed
    callers := []
    hasImpl := false
    strand := []
    running := none
    services := .empty
    shutdown := false
    history :=
      { added := []
        eraseCalled := []
        destroyed := []
        stale := []
        forwarded := []
        drainedAlone := []
        finishedCalls := 0
        lateJobs := 0
        reported := [] } }

/-- The shutdown job has run and no service is left. -/
def complete (handler : WsServiceHandler) : Bool :=
  handler.shutdown && handler.services.isEmpty

def report (handler : WsServiceHandler) (error : Exception) :
    WsServiceHandler :=
  { handler with history :=
      { handler.history with
        reported := handler.history.reported ++ [error] } }

end WsServiceHandler

end Webservice
