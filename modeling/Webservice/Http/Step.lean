import Webservice.Http.Code
import Webservice.Library.Machine

/-!
# An HTTP session as a step machine

One event is one handler body on the strand of the session, or a call from
outside of its handlers: of `do_close` by the server, or of an
`http_response` that was kept.  The lock that a handler captured is released
at the end of its step.
-/

namespace Webservice

inductive HttpEvent where
  /-- `wire` was read; what the request handler or `server_connect` does if
  it is called. -/
  | requestRead (wire : HttpRequest) (handling : HandlerRun)
      (connecting : ConnectRun)
  | readFailed (error : ReadError)
  /-- The oldest outstanding write completes. -/
  | writeDone (ec : Option ErrorCode)
  | timerExpired
  /-- A queued handler of the timer runs. -/
  | timerDone (ec : Option ErrorCode)
  /-- `http_sessions::shutdown` reaches the session. -/
  | doClose
  /-- An `http_response` is called after the request handler that it was
  passed to has returned, say by the handler of another session. -/
  | lateReply (work : HttpResponse)
  deriving DecidableEq

/-- The event is a call from outside of the handlers of the session. -/
def HttpEvent.isCall : HttpEvent → Bool
  | .doClose | .lateReply _ => true
  | _ => false

namespace HttpSession

/-- Run the body of a handler and release the lock of the handler. -/
def runHandler (body : HttpCode Unit) (session : HttpSession) : HttpSession :=
  match body session with
  | .ok _ next => next.unlocked
  | .error error next => (next.escape error).unlocked

/-- `async_read` has parsed `wire` into `req_`. -/
def received (session : HttpSession) (wire : HttpRequest) : HttpSession :=
  { session with
    reads := session.reads - 1
    req := session.req.readInto wire
    history :=
      { session.history with wire := session.history.wire ++ [wire] } }

/-- `async_write` has ended for the first of `writing`. -/
def wrote (session : HttpSession) (work : HttpResponse)
    (ec : Option ErrorCode) : HttpSession :=
  { session with
    writing := session.writing.tail
    history :=
      { session.history with
        written := session.history.written ++
          if ec = none then [work] else [] } }

def step (server : HttpServer) (session : HttpSession) :
    HttpEvent → Option HttpSession
  | .requestRead wire handling connecting =>
      if 0 < session.reads then
        some (runHandler (requestReadHandler server handling connecting)
          (session.received wire))
      else none
  | .readFailed error =>
      if 0 < session.reads then
        some (runHandler (readFailedHandler error)
          { session with reads := session.reads - 1 })
      else none
  | .writeDone ec =>
      session.writing.head?.map fun work =>
        runHandler (onWrite work.needEof ec) (session.wrote work ec)
  | .timerExpired =>
      session.timer.expire?.map fun timer => { session with timer := timer }
  | .timerDone ec =>
      (session.timer.take? (ec = some .operationAborted)).map fun timer =>
        runHandler (timerHandler ec) { session with timer := timer }
  | .doClose => some (Effects.after doClose session)
  | .lateReply work =>
      -- the caller holds no lock of the session
      if session.history.handled = [] then none
      else some (Effects.after (reply work) session)

/-- A session whose `run` has returned. -/
def started : HttpSession := Effects.after run constructed

/-- Running a session does not throw. -/
theorem run_returns : run constructed = .ok () started := rfl

end HttpSession

def httpMachine (server : HttpServer) : Machine HttpSession HttpEvent where
  initial session := session = .started
  step := HttpSession.step server

end Webservice
