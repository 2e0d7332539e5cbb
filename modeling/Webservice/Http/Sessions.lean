import Webservice.Http.Step
import Webservice.Library.OrderedMap

/-!
# `http_sessions`

The sessions of an HTTP server, the jobs on the strand of their set, and the
start of a session in which an operation may throw.  The sockets passed to
`async_emplace` are numbered, and a session has the number of its socket for
its address.
-/

namespace Webservice

/-- The operations inside `run` that may throw. -/
inductive RunOp where
  | firstWait
  /-- `expires_after`, which may have cancelled the first wait before. -/
  | expiresAfter (cancels : Bool)
  | secondWait
  | asyncRead
  deriving DecidableEq

structure RunFault where
  op : RunOp
  error : Exception
  deriving DecidableEq

/-- What the operation throws. -/
def RunFault.thrownBy (fault : Option RunFault) (op : RunOp) :
    Option Exception :=
  fault.bind fun fault => if fault.op = op then some fault.error else none

namespace HttpSession

/-- Start an operation, unless it throws: then its lambda is destroyed with
the lock it captured. -/
def unlessThrown (thrown : Option Exception) (starts : HttpCode Unit) :
    HttpCode Unit :=
  match thrown with
  | none => starts
  | some error => do
      makeLock
      modify unlocked
      throw error

def expiresAfterWith (fault : Option RunFault) : HttpCode Nat :=
  match RunFault.thrownBy fault (.expiresAfter true),
    RunFault.thrownBy fault (.expiresAfter false) with
  | some error, _ => do
      let _ ← expiresAfter
      throw error
  | none, some error => throw error
  | none, none => expiresAfter

/-- `do_read` as `run` calls it. -/
def doReadWith (fault : Option RunFault) : HttpCode Unit := do
  let session ← get
  if ¬session.socketOpen then
    return
  else
    let cancelled ← expiresAfterWith fault
    if cancelled = 0 then
      return
    else
      unlessThrown (RunFault.thrownBy fault .secondWait) doTimer
      unlessThrown (RunFault.thrownBy fault .asyncRead) asyncRead

/-- `run`; its lock is released on every way out. -/
def runWith (fault : Option RunFault) : HttpCode Unit := fun session =>
  match makeFirstLock session with
  | .error error next => .error error next
  | .ok _ locked =>
      let starts : HttpCode Unit := do
        unlessThrown (RunFault.thrownBy fault .firstWait) doTimer
        doReadWith fault
      match starts locked with
      | .ok _ next => .ok () next.unlocked
      | .error error next => .error error next.unlocked

theorem runWith_none : runWith none constructed = run constructed := rfl

end HttpSession

/-- The lambdas that run on the strand of the set. -/
inductive SessionsJob where
  | emplace (socket : Nat)
  /-- The session may be null. -/
  | erase (session : Option Nat)
  | shutdown
  deriving DecidableEq

def SessionsJob.socket? : SessionsJob → Option Nat
  | .emplace socket => some socket
  | _ => none

/-- A session erased from the set, and the locks that its handlers held
then. -/
structure Erasure where
  session : Nat
  lockCount : Nat
  deriving DecidableEq

structure SessionsHistory where
  /-- How many sockets were passed to `async_emplace`. -/
  sockets : Nat
  /-- Sessions that were inserted into `set_`. -/
  inserted : List Nat
  /-- Sessions that `run` was called for. -/
  ran : List Nat
  /-- What the error path of `async_emplace` asked to erase. -/
  errorPath : List (Option Nat)
  erased : List Erasure
  /-- Arguments of `on_exception`. -/
  reported : List Exception
  /-- Exceptions that left `io_context::run`. -/
  escaped : List Exception
  deriving DecidableEq

structure HttpSessions where
  locker : AsyncLocker
  /-- `run_lock_.is_locked()` -/
  runLock : Bool
  /-- `shutdown_lock_.is_locked()` -/
  shutdownLock : Bool
  /-- Jobs on `strand_` that have not run. -/
  strand : List SessionsJob
  /-- `set_` -/
  set : OrderedMap Nat HttpSession
  history : SessionsHistory

namespace HttpSessions

def constructed : HttpSessions :=
  { locker := { AsyncLocker.constructed with lockCount := 1 }
    runLock := true
    shutdownLock := false
    strand := []
    set := .empty
    history :=
      { sockets := 0
        inserted := []
        ran := []
        errorPath := []
        erased := []
        reported := []
        escaped := [] } }

def isShutdown (sessions : HttpSessions) : Bool := !sessions.runLock

def report (sessions : HttpSessions) (error : Exception) : HttpSessions :=
  { sessions with history :=
      { sessions.history with
        reported := sessions.history.reported ++ [error] } }

def escape (sessions : HttpSessions) (error : Exception) : HttpSessions :=
  { sessions with history :=
      { sessions.history with
        escaped := sessions.history.escaped ++ [error] } }

def unlocked (sessions : HttpSessions) : HttpSessions :=
  { sessions with locker := sessions.locker.unlock }

/-- `shutdown_lock_.unlock()` -/
def unlockShutdown (sessions : HttpSessions) : HttpSessions :=
  if sessions.shutdownLock then
    { sessions.unlocked with shutdownLock := false }
  else sessions

/-- Pass a lambda with a lock to the strand from outside of it. -/
def dispatch (sessions : HttpSessions) (job : SessionsJob) : HttpSessions :=
  match sessions.locker.makeLock with
  | .ok locker =>
      { sessions with locker := locker, strand := sessions.strand ++ [job] }
  | .error error => sessions.report error

def asyncEmplace (sessions : HttpSessions) : HttpSessions :=
  { sessions with history :=
      { sessions.history with
        sockets := sessions.history.sockets + 1 } }.dispatch
    (.emplace sessions.history.sockets)

/-- `async_erase` from outside of the strand. -/
def asyncErase (sessions : HttpSessions) (session : Option Nat) :
    HttpSessions :=
  sessions.dispatch (.erase session)

/-! ## Jobs -/

/-- `set_.erase(iter)` -/
def erased (sessions : HttpSessions) (number : Nat) (session : HttpSession) :
    HttpSessions :=
  { sessions with
    set := sessions.set.erase number
    history :=
      { sessions.history with
        erased := sessions.history.erased ++
          [⟨number, session.locker.lockCount⟩] } }

/-- The lambda of `async_erase`. -/
def eraseJob (session : Option Nat) (sessions : HttpSessions) :
    Except Exception HttpSessions :=
  match session.bind fun number =>
    (sessions.set.find? number).map fun found => (number, found) with
  | none => .error (.logicError "session doesn't exist")
  | some (number, found) =>
      let next := sessions.erased number found
      .ok (if next.set.isEmpty ∧ next.isShutdown then next.unlockShutdown
        else next)

/-- `async_erase` called on the strand: `dispatch` runs the lambda inside the
call. -/
def eraseInline (session : Option Nat) (sessions : HttpSessions) :
    HttpSessions :=
  match sessions.locker.makeLock with
  | .error error => sessions.report error
  | .ok locker =>
      let locked := { sessions with locker := locker }
      match eraseJob session locked with
      | .ok next => next.unlocked
      | .error error => (locked.report error).unlocked

/-- `set_.insert(set_.end(), std::move(session))` and the call of `run`,
which leaves `session`. -/
def started (sessions : HttpSessions) (socket : Nat)
    (session : HttpSession) : HttpSessions :=
  { sessions with
    set := sessions.set.insert socket session
    history :=
      { sessions.history with
        inserted := sessions.history.inserted ++ [socket]
        ran := sessions.history.ran ++ [socket] } }

/-- The callback of the locker of a session, on the strand of the set. -/
def drainedInline (sessions : HttpSessions) (socket : Nat)
    (session : HttpSession) : HttpSessions :=
  if session.locker.lockCount = 0 then
    sessions.eraseInline (some socket)
  else sessions

/-- `async_erase(session.get())` in the error path; `session` was moved
from. -/
def errorPath (sessions : HttpSessions) : HttpSessions :=
  { sessions with history :=
      { sessions.history with
        errorPath := sessions.history.errorPath ++ [none] } }.eraseInline none

/-- The lambda of `async_emplace`. -/
def emplaceJob (socket : Nat) (fault : Option RunFault)
    (sessions : HttpSessions) : HttpSessions :=
  if sessions.isShutdown then
    sessions.escape (.logicError "emplace in http_sessions while shutdown")
  else
    match HttpSession.runWith fault .constructed with
    | .ok _ session => sessions.started socket session
    | .error error session =>
        (((sessions.started socket session).drainedInline
          socket session).errorPath).escape error

/-- The lambda of `shutdown`. -/
def shutdownJob (sessions : HttpSessions) : HttpSessions :=
  if sessions.set.isEmpty then sessions.unlockShutdown
  else { sessions with
    set := sessions.set.mapItems (Effects.after HttpSession.doClose) }

def perform (fault : Option RunFault) (sessions : HttpSessions) :
    SessionsJob → HttpSessions
  | .emplace socket => sessions.emplaceJob socket fault
  | .erase session =>
      match eraseJob session sessions with
      | .ok next => next
      | .error error => sessions.escape error
  | .shutdown => sessions.shutdownJob

def shutdown (sessions : HttpSessions) : HttpSessions :=
  if sessions.runLock then
    { sessions with runLock := false, shutdownLock := true }.dispatch .shutdown
  else sessions

end HttpSessions

inductive SessionsEvent where
  /-- `async_emplace` is called with the next socket. -/
  | emplace
  /-- The first job of the strand runs; an operation of `run` may throw. -/
  | run (fault : Option RunFault)
  /-- A handler of a session runs. -/
  | session (number : Nat) (event : HttpEvent)
  | shutdown
  deriving DecidableEq

namespace HttpSessions

/-- A handler of a session runs; the last lock calls the session back. -/
def sessionStep (server : HttpServer) (sessions : HttpSessions)
    (number : Nat) (event : HttpEvent) : Option HttpSessions :=
  (sessions.set.find? number).bind fun session =>
    (session.step server event).map fun next =>
      let changed := { sessions with
        set := sessions.set.modify number fun _ => next }
      if session.locker.callbacks < next.locker.callbacks then
        changed.asyncErase (some number)
      else changed

def step (server : HttpServer) (sessions : HttpSessions) :
    SessionsEvent → Option HttpSessions
  | .emplace => some sessions.asyncEmplace
  | .run fault =>
      match sessions.strand with
      | [] => none
      | job :: jobs =>
          some (({ sessions with strand := jobs }.perform fault job).unlocked)
  | .session number event => sessions.sessionStep server number event
  | .shutdown => some sessions.shutdown

end HttpSessions

def sessionsMachine (server : HttpServer) :
    Machine HttpSessions SessionsEvent where
  initial sessions := sessions = .constructed
  step := HttpSessions.step server

end Webservice
