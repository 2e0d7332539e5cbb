import Mathlib.Data.Nat.Basic
import Webservice.Library.OrderedMap
import Webservice.Session.Step

/-!
# The state of a WebSocket service

The members of `ws_service_base` and `ws_handler_interface`, the jobs on the
strand of the service, the calls of `shutdown()` in progress, and a history
that no job reads.  Addresses of sessions are natural numbers; which session
lives at an address is told by its number, counted from the first session.
-/

namespace Webservice

/-- `ws_identifier`: the address of a session.  The code cannot see `owner`,
the session that the identifier was made for. -/
structure WsIdentifier where
  session : Nat
  owner : Nat
  deriving DecidableEq

/-- A node of `map_`: the session with its number, and the value. -/
structure Node (Value : Type) where
  number : Nat
  session : WsSession
  value : Value

/-- A function of the user on the value of a session.  It may change the
value and may throw; it is given the address as identifier. -/
abbrev UnaryFunction (Value : Type) :=
  Nat → Value → Except Exception Bool × Value

/-- The lambdas that the service dispatches to its strand. -/
inductive ServiceJob (Value : Type) where
  | send (identifier : WsIdentifier) (isText : Bool) (data : List UInt8)
  | sendIf (fn : UnaryFunction Value) (isText : Bool) (data : List UInt8)
  | close (identifier : WsIdentifier) (reason : CloseReason)
  | closeIf (fn : UnaryFunction Value) (reason : CloseReason)
  | modifyValue (identifier : WsIdentifier)
      (fn : Value → Except Exception Unit × Value)
  | serverConnect (value : Value)
  | clientConnect (value : Value)
  | onShutdown
  | onErase (identifier : WsIdentifier)

/-- A range-for loop over `map_`: where its iterator points, the sessions in
the map when it began, and those it has visited. -/
structure Loop where
  cursor : WsIdentifier
  present : List WsIdentifier
  visited : List WsIdentifier
  deriving DecidableEq

/-- How far a job has come. -/
inductive Stage where
  | entered
  /-- A new session may be put into the map. -/
  | admitted
  /-- The body of the loop begins for the session at its iterator. -/
  | visiting (loop : Loop)
  /-- `send` or `close` of the session has dispatched its lambda. -/
  | called (target : WsIdentifier) (loop : Option Loop)
  /-- The lambda has run inside that call and is to be destroyed. -/
  | inlined (target : WsIdentifier) (loop : Option Loop)
  /-- The body of the loop is done. -/
  | left (loop : Loop)
  /-- `do_accept` or `start` of the new session is about to return. -/
  | starting (target : WsIdentifier)
  /-- `on_value_erase` runs. -/
  | erasing
  /-- The session has been erased. -/
  | erased
  /-- The lambda is to be destroyed. -/
  | finished
  deriving DecidableEq

/-- A loop over `map_` is under way. -/
def Stage.loops : Stage → Bool
  | .visiting _ => true
  | .called _ loop => loop.isSome
  | .inlined _ loop => loop.isSome
  | .left _ => true
  | _ => false

/-- A job that runs on the strand of the service. -/
structure Activation (Value : Type) where
  job : ServiceJob Value
  stage : Stage

/-- A call of `shutdown()`, by what it does next. -/
inductive ShutdownCall where
  /-- Take the pointer out of `run_lock_`. -/
  | exchanging
  /-- Store it in `shutdown_lock_`. -/
  | storing (locked : Bool)
  /-- Test `shutdown_lock_`. -/
  | testing
  /-- Call `on_shutdown`. -/
  | deferring
  deriving DecidableEq

/-- A session taken out of `map_`: by which job, which session it was, how
often its locker had called back, and how many of its locks handlers held. -/
structure Removal where
  identifier : WsIdentifier
  session : WsIdentifier
  callbacks : Nat
  holders : Nat
  deriving DecidableEq

/-- What a job did to a session on behalf of an identifier. -/
structure Act where
  identifier : WsIdentifier
  number : Nat
  deriving DecidableEq

structure ServiceHistory where
  /-- The sessions put into `map_`, in the order of their numbers. -/
  created : List WsIdentifier
  removals : List Removal
  /-- Arguments of `on_erase` that were not in `map_`. -/
  missed : List WsIdentifier
  acts : List Act
  /-- The loops that came to their end. -/
  loops : List Loop
  /-- Sessions erased while some loop was under way. -/
  erasedInLoop : List WsIdentifier
  /-- Sessions put into `map_` after `shutdown_` was set. -/
  late : List WsIdentifier
  /-- The sizes of `map_` at the calls of `shutdown_finished()`. -/
  finishedWith : List Nat
  /-- Arguments of `on_exception`. -/
  reported : List Exception
  deriving DecidableEq

structure WsService (Value : Type) where
  map : OrderedMap Nat (Node Value)
  /-- Jobs on `strand_` that have not begun. -/
  queue : List (ServiceJob Value)
  /-- The job that runs, after the jobs it dispatched, which run inside it. -/
  stack : List (Activation Value)
  locker : AsyncLocker
  /-- `run_lock_.is_locked()` -/
  runLock : Bool
  /-- `shutdown_lock_.is_locked()` -/
  shutdownLock : Bool
  /-- The member `shutdown_`, not `is_shutdown()`. -/
  shutdown : Bool
  callers : List ShutdownCall
  /-- An exception left a function that is `noexcept`. -/
  terminated : Bool
  history : ServiceHistory

namespace WsService

variable {Value : Type}

/-- The constructor of `ws_handler_interface` makes the first lock. -/
def constructed : WsService Value :=
  { map := .empty
    queue := []
    stack := []
    locker := { AsyncLocker.constructed with lockCount := 1 }
    runLock := true
    shutdownLock := false
    shutdown := false
    callers := []
    terminated := false
    history :=
      { created := []
        removals := []
        missed := []
        acts := []
        loops := []
        erasedInLoop := []
        late := []
        finishedWith := []
        reported := [] } }

def isShutdown (service : WsService Value) : Bool := !service.runLock

/-- The identifiers of the sessions in `map_`, in its order. -/
def identifiers (service : WsService Value) : List WsIdentifier :=
  service.map.entries.map fun entry => ⟨entry.1, entry.2.number⟩

/-- The identifier of the session at an address. -/
def identifierAt? (service : WsService Value) (address : Nat) :
    Option WsIdentifier :=
  (service.map.find? address).map fun node => ⟨address, node.number⟩

/-- Some loop over `map_` is under way. -/
def inLoop (service : WsService Value) : Bool :=
  service.stack.any fun activation => activation.stage.loops

def report (service : WsService Value) (error : Exception) :
    WsService Value :=
  { service with history :=
      { service.history with
        reported := service.history.reported ++ [error] } }

def note (service : WsService Value) (identifier : WsIdentifier)
    (number : Nat) : WsService Value :=
  { service with history :=
      { service.history with
        acts := service.history.acts ++ [⟨identifier, number⟩] } }

end WsService

end Webservice
