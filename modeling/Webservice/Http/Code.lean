import Webservice.Http.State

/-!
# The code of `http_session`

Each function of the source under its own name.  A lambda that captures a
lock takes the lock where the lambda is built.
-/

namespace Webservice

/-- Code of an HTTP session: it may throw, and keeps the state it threw
in. -/
abbrev HttpCode := EStateM Exception HttpSession

namespace HttpSession

/-! ## Locks -/

def makeLock : HttpCode Unit := fun session =>
  match session.locker.makeLock with
  | .ok locker => .ok () { session with locker := locker }
  | .error error => .error error session

def makeFirstLock : HttpCode Unit := fun session =>
  match session.locker.makeFirstLock with
  | .ok locker => .ok () { session with locker := locker }
  | .error error => .error error session

def unlocked (session : HttpSession) : HttpSession :=
  { session with locker := session.locker.unlock }

def onException (error : Exception) : HttpCode Unit :=
  modify fun session => session.report error

/-! ## The timer -/

def doTimer : HttpCode Unit := do
  makeLock
  modify fun session =>
    { session with
      timer := session.timer.asyncWait
      history :=
        { session.history with
          waitsStarted := session.history.waitsStarted + 1 } }

def expiresAfter : HttpCode Nat := do
  let session ← get
  modify fun session => { session with timer := session.timer.cancel }
  return session.timer.pending

def stopTimer : HttpCode Unit :=
  modify fun session => { session with timer := session.timer.cancel }

/-! ## Closing -/

/-- A shutdown of the socket leaves it open. -/
def doClose : HttpCode Unit := do
  modify fun session => { session with closed := true }
  stopTimer

/-- `socket_.shutdown(shutdown_both, ec); socket_.close(ec);` -/
def closeSocket : HttpCode Unit :=
  modify fun session => { session with socketOpen := false, closed := true }

/-! ## Reading and writing -/

def asyncRead : HttpCode Unit := do
  makeLock
  modify fun session =>
    { session with
      reads := session.reads + 1
      history :=
        { session.history with
          readsStarted := session.history.readsStarted + 1 } }

def doRead : HttpCode Unit := do
  let session ← get
  if ¬session.socketOpen then
    return
  else
    let cancelled ← expiresAfter
    if cancelled = 0 then
      -- the timer has expired and closes the session
      return
    else
      doTimer
      asyncRead

/-- `(*items_.front())()` -/
def startFront : HttpCode Unit := do
  let session ← get
  match session.items.front? with
  | none => throw (.logicError "front() of an empty circular_buffer")
  | some work =>
      makeLock
      modify fun session =>
        { session with
          writing := session.writing ++ [work]
          history :=
            { session.history with
              started := session.history.started ++ [work] } }

/-- `queue::response`, to which `http_session::response` passes `work`. -/
def response (work : HttpResponse) : HttpCode Unit := do
  modify fun session =>
    { session with
      items := session.items.pushBack work
      history :=
        { session.history with
          overwritten :=
            session.history.overwritten ++ session.items.overwritten } }
  let session ← get
  if session.items.items.length = 1 then
    startFront

/-- `queue::on_write` -/
def queueOnWrite : HttpCode Bool := do
  let session ← get
  modify fun session =>
    { session with
      items := session.items.popFront
      history :=
        { session.history with
          emptyPops := session.history.emptyPops +
            session.items.isEmpty.toNat } }
  let popped ← get
  if ¬popped.items.isEmpty then
    startFront
  return session.items.isFull

/-! ## What the handlers call -/

/-- `http_response::operator()`, called by the request handler or by whoever
was given the `http_response`. -/
def reply (work : HttpResponse) : HttpCode Unit := do
  modify fun session =>
    { session with history :=
        { session.history with
          responses := session.history.responses ++ [work] } }
  response work

def replyAll : List HttpResponse → HttpCode Unit
  | [] => return
  | work :: works => do
      reply work
      replyAll works

/-- `server_.http()(std::move(req_), http_response{...})` -/
def handleRequest (handling : HandlerRun) : HttpCode Unit := do
  modify fun session =>
    { session with history :=
        { session.history with
          handled := session.history.handled ++
            [(session.req, handling.replies)] } }
  replyAll handling.replies
  modify fun session =>
    { session with req := handling.leaves.getD session.req }
  if handling.throws then
    throw (.user "request handler")

/-- `server_.ws().server_connect(std::move(socket_), std::move(req_))` -/
def serverConnect (connecting : ConnectRun) : HttpCode Unit := do
  modify fun session =>
    { session with
      socketOpen := session.socketOpen && !connecting.moves
      req := connecting.leaves.getD session.req
      history :=
        { session.history with
          handovers := session.history.handovers ++
            [{ writing := session.writing
               waiting := session.items.items.tail
               responses := session.history.responses
               started := session.history.started
               written := session.history.written }] } }
  if connecting.throws then
    throw (.user "server_connect")

/-! ## Completion handlers -/

/-- The lambda of `do_timer`. -/
def timerHandler : Option ErrorCode → HttpCode Unit
  | some .operationAborted => return
  | some ec => do
      onException (.systemError ec "http session timer")
      closeSocket
  | none => closeSocket

/-- The lambda of `do_read` when the read failed. -/
def readFailedHandler : ReadError → HttpCode Unit
  | .code .operationAborted => return
  | .endOfStream => doClose
  | .code ec => do
      onException (.systemError ec "http session read")
      doClose

/-- `server_.has_ws() && websocket::is_upgrade(req_)` -/
def Upgrades (server : HttpServer) (session : HttpSession) : Prop :=
  server.hasWs = true ∧ server.isUpgrade session.req = true

instance (server : HttpServer) (session : HttpSession) :
    Decidable (session.Upgrades server) :=
  inferInstanceAs (Decidable (_ ∧ _))

/-- The lambda of `do_read` when a request was read. -/
def requestReadHandler (server : HttpServer) (handling : HandlerRun)
    (connecting : ConnectRun) : HttpCode Unit := do
  let session ← get
  if session.Upgrades server then
    serverConnect connecting
    doClose
  else
    handleRequest handling
    let session ← get
    if ¬session.items.isFull then
      doRead
    else
      doClose

def onWrite (close : Bool) : Option ErrorCode → HttpCode Unit
  | some .operationAborted => return
  | some ec => do
      onException (.systemError ec "http session write")
      doClose
  | none =>
      if close then
        doClose
      else do
        let wasFull ← queueOnWrite
        if wasFull then
          doRead

/-! ## Starting -/

/-- The lock that `run` makes is released when it returns. -/
def run : HttpCode Unit := do
  makeFirstLock
  doTimer
  doRead
  modify unlocked

end HttpSession

end Webservice
