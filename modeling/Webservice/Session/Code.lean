import Mathlib.Algebra.Group.Nat.Defs
import Webservice.Session.State

/-!
# The code of `ws_session`

Each function of the source under its own name.  A lambda that captures a
lock takes the lock where the lambda is built, so the program that starts an
operation makes its lock first.
-/

namespace Webservice

/-- Code of a session: it may throw, and keeps the state it threw in. -/
abbrev SessionCode := EStateM Exception WsSession

namespace WsSession

/-! ## Locks and exceptions -/

def makeLock : SessionCode Unit := fun session =>
  match session.locker.makeLock with
  | .ok locker => .ok () { session with locker := locker }
  | .error error => .error error session

def makeFirstLock : SessionCode Unit := fun session =>
  match session.locker.makeFirstLock with
  | .ok locker => .ok () { session with locker := locker }
  | .error error => .error error session

def unlocked (session : WsSession) : WsSession :=
  { session with locker := session.locker.unlock }

def onException (error : Exception) : SessionCode Unit :=
  modify fun session => session.report error

def onError (location : String) (ec : ErrorCode) : SessionCode Unit :=
  onException (.systemError ec ("websocket session " ++ location))

/-- `try{ body }catch(...){ on_exception(std::current_exception()); }` -/
def catching (body : SessionCode Unit) : SessionCode Unit := fun session =>
  match body session with
  | .ok result next => .ok result next
  | .error error next => onException error next

/-- Run `body` with a lock that is released on every way out. -/
def withLock (acquire body : SessionCode Unit) : SessionCode Unit :=
  fun session =>
    match acquire session with
    | .error error next => .error error next
    | .ok _ locked =>
        match body locked with
        | .ok result next => .ok result next.unlocked
        | .error error next => .error error next.unlocked

/-- A lambda with a captured lock is handed to an asynchronous operation. -/
def startOp (op : WsSession → StreamOp) (begins : WsSession → WsSession) :
    SessionCode Unit := do
  makeLock
  modify fun session => (begins session).note (op session)

/-! ## The timer -/

def cancelTimer : SessionCode Unit :=
  modify fun session => { session with timer := session.timer.cancel }

def expiresAfter : SessionCode Nat := do
  let session ← get
  cancelTimer
  return session.timer.pending

def doTimer : SessionCode Unit :=
  startOp (fun _ => .wait) fun session =>
    { session with timer := session.timer.asyncWait }

def stopTimer : SessionCode Unit := cancelTimer

def closeSocket : SessionCode Unit := do
  modify fun session => { session with ws := session.ws.closeSocket }
  stopTimer

def restartTimer : SessionCode Unit := do
  let cancelled ← expiresAfter
  let session ← get
  if cancelled ≠ 0 ∧ session.ws.isOpen then
    doTimer

def startTimer : SessionCode Unit := do
  doTimer
  restartTimer

def activity : SessionCode Unit := do
  modify fun session => { session with waitOnPong := false }
  restartTimer

/-! ## Callbacks on the handler strand -/

/-- A lambda with a lock and whatever else it captures is deferred. -/
def deferCallback (callback : WsSession → Callback)
    (captures : WsSession → WsSession) : SessionCode Unit :=
  catching do
    makeLock
    modify fun session =>
      { captures session with
        handlerStrand := session.handlerStrand ++ [callback session] }

def onOpen : SessionCode Unit := deferCallback (fun _ => .onOpen) id

/-- `on_text` and `on_binary`; the buffer is moved into the lambda. -/
def onMessage (isText : Bool) : SessionCode Unit :=
  deferCallback (fun session => .onMessage ⟨isText, session.buffer⟩)
    fun session => { session with buffer := [] }

/-- `on_close`, which the destructor calls on the strand of the service. -/
def onClose (session : WsSession) : WsSession :=
  (session.callBack (.began .onClose)).callBack (.returned .onClose)

/-- `~ws_session` -/
def destroyed (session : WsSession) : WsSession :=
  { (if session.isOpen then session.onClose else session) with
    erased := true }

/-! ## Operations of the stream -/

def asyncAccept : SessionCode Unit :=
  startOp (fun _ => .accept) fun session =>
    { session with ws := session.ws.asyncAccept }

def asyncRead : SessionCode Unit :=
  startOp (fun _ => .read) fun session =>
    { session with ws := session.ws.asyncRead }

/-- Write `data`, which is moved out of the front of `write_list_`, as a
message of the kind that the stream is set to. -/
def asyncWrite (data : Option (List UInt8)) : SessionCode Unit :=
  startOp (fun session => .write ⟨session.ws.text, data⟩) fun session =>
    { session with
      ws := session.ws.asyncWrite
      writeList := session.writeList.modifyFront WriteData.moved }

def asyncPing (payload : String) : SessionCode Unit :=
  startOp (fun _ => .ping payload) fun session =>
    { session with ws := session.ws.asyncPing }

def asyncClose (reason : CloseReason) : SessionCode Unit :=
  startOp (fun _ => .close reason) fun session =>
    { session with ws := session.ws.asyncClose }

/-! ## Writing and closing -/

def doWrite : SessionCode Unit := do
  let session ← get
  match session.closeReason with
  | some reason => asyncClose reason
  | none =>
      match session.writeList.front? with
      | none => throw (.logicError "front() of an empty circular_buffer")
      | some entry =>
          modify fun session =>
            { session with ws := { session.ws with text := entry.isText } }
          asyncWrite entry.data

/-- The lambda of `send`. -/
def sendJob (isText : Bool) (data : List UInt8) : SessionCode Unit := do
  let session ← get
  if ¬session.ws.isOpen then
    cancelTimer
  else if session.closeReason.isSome then
    return
  else if session.writeList.isFull then
    throw (.runtimeError "write buffer is full")
  else
    let entry : WriteData := ⟨isText, some data⟩
    modify fun session =>
      { session with
        writeList := session.writeList.pushBack entry
        history :=
          { session.history with
            accepted := session.history.accepted ++ [entry]
            overwritten :=
              session.history.overwritten ++ session.writeList.overwritten } }
    if session.writeList.isEmpty then
      doWrite

/-- The lambda of `close`. -/
def closeJob (reason : CloseReason) : SessionCode Unit := do
  let session ← get
  if ¬session.ws.isOpen then
    cancelTimer
  else if session.closeReason.isSome then
    return
  else
    modify fun session => { session with closeReason := some reason }
    if session.writeList.isEmpty then
      doWrite

def runJob : StrandJob → SessionCode Unit
  | .send isText data => sendJob isText data
  | .close reason => closeJob reason

/-- `send` and `close` up to the point where `dispatch` has queued the
lambda. -/
def dispatch (job : StrandJob) : SessionCode Unit :=
  catching do
    makeLock
    modify fun session => { session with strand := session.strand ++ [job] }

/-- `close` called from a handler of `strand_`: `dispatch` runs the lambda
inside the call and destroys it. -/
def close (reason : CloseReason) : SessionCode Unit :=
  catching (withLock makeLock (closeJob reason))

/-! ## Reading -/

def doRead : SessionCode Unit := do
  let session ← get
  if session.ws.isOpen then
    restartTimer
    asyncRead

/-! ## Completion handlers -/

def acceptHandler : Option ErrorCode → SessionCode Unit
  | some .operationAborted => return
  | some ec => onError "accept" ec
  | none => do
      modify fun session => { session with isOpen := true }
      onOpen
      doRead

/-- `isText` is the value of `ws_.got_text()`. -/
def readHandler (isText : Bool) : Option ErrorCode → SessionCode Unit
  | some .operationAborted => return
  | some .closed => cancelTimer
  | some (.other value) => do
      activity
      onError "read" (.other value)
      let session ← get
      if session.ws.isOpen then
        close (.ofText "read error")
        doRead
  | none => do
      activity
      onMessage isText
      doRead

def writeHandler : Option ErrorCode → SessionCode Unit
  | some .operationAborted => return
  | some ec => do
      onError "write" ec
      close (.ofText "write error")
  | none => do
      modify fun session =>
        { session with writeList := session.writeList.popFront }
      let session ← get
      if session.ws.isOpen ∧
          (¬session.writeList.isEmpty ∨ session.closeReason.isSome) then
        doWrite

def closeHandler (ec : Option ErrorCode) : SessionCode Unit := do
  match ec with
  | some ec => onError "close" ec
  | none => pure ()
  let session ← get
  if ¬session.ws.isOpen then
    stopTimer

def pingHandler : Option ErrorCode → SessionCode Unit
  | some .operationAborted => return
  | some ec => do
      onError "ping" ec
      close (.ofText "ping error")
  | none => return

def sendPing : SessionCode Unit := do
  let session ← get
  modify fun session =>
    { session with pingCounter := (session.pingCounter + 1) % 2 ^ 64 }
  asyncPing (toString session.pingCounter)

def timerHandler (ec : Option ErrorCode) : SessionCode Unit := do
  let session ← get
  if ec = some .operationAborted then
    return
  else if ec = none ∧ ¬session.waitOnPong then
    if session.ws.isOpen then
      modify fun session => { session with waitOnPong := true }
      restartTimer
      sendPing
      -- restart_timer has found nothing to cancel
      doTimer
  else
    match ec with
    | some ec => onError "timer" ec
    | none => pure ()
    closeSocket

/-! ## Starting -/

/-- `try{ body }catch(...){ close_socket(); throw; }` -/
def closingOnThrow (body : SessionCode Unit) : SessionCode Unit :=
  fun session =>
    match body session with
    | .ok result next => .ok result next
    | .error error next =>
        match closeSocket next with
        | .ok _ closed => .error error closed
        | .error _ closed => .error error closed

/-- What `do_accept` and `start` do under the first lock. -/
def startBody : Role → SessionCode Unit
  | .server => do
      startTimer
      asyncAccept
  | .client => do
      startTimer
      modify fun session => { session with isOpen := true }
      onOpen
      doRead

def doAccept : SessionCode Unit :=
  closingOnThrow (withLock makeFirstLock (startBody .server))

def start : SessionCode Unit :=
  closingOnThrow (withLock makeFirstLock (startBody .client))

end WsSession

end Webservice
