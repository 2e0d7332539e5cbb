import Webservice.Boost.Timer
import Webservice.Library.Effects
import Webservice.Library.RingBuffer
import Webservice.Locker.AsyncLocker

/-!
# The state of an HTTP session

The members of `http_session`, the operations it has started, and a history
of what it read, handed out and wrote.  No handler reads the history.
-/

namespace Webservice

/-- `beast::http::request<string_body>` -/
structure HttpRequest where
  method : String
  target : String
  version : Nat
  fields : List (String × String)
  body : List UInt8
  deriving DecidableEq

namespace HttpRequest

/-- A message as its constructor leaves it. -/
def empty : HttpRequest :=
  { method := "", target := "", version := 11, fields := [], body := [] }

/-- What `async_read` leaves in `message` when it parses `wire` into it:
fields and body are added to those already there. -/
def readInto (message wire : HttpRequest) : HttpRequest :=
  { wire with
    fields := message.fields ++ wire.fields
    body := message.body ++ wire.body }

end HttpRequest

/-- A response as `http_response::operator()` takes it, with the value of
`need_eof()`. -/
structure HttpResponse where
  content : List UInt8
  needEof : Bool
  deriving DecidableEq

/-- What the session asks the server about: `has_ws()` and Beast's
`is_upgrade`. -/
structure HttpServer where
  hasWs : Bool
  isUpgrade : HttpRequest → Bool

/-- A server without a WebSocket handler. -/
def plainServer : HttpServer := ⟨false, fun _ => false⟩

/-- One call of the request handler. -/
structure HandlerRun where
  /-- The responses it sends before it returns, in order. -/
  replies : List HttpResponse
  /-- What it leaves of the request, if it moves out of it. -/
  leaves : Option HttpRequest
  throws : Bool
  deriving DecidableEq

/-- One call of `server_connect`. -/
structure ConnectRun where
  /-- The socket was moved out of the session. -/
  moves : Bool
  /-- What is left of the request, if it was moved out of. -/
  leaves : Option HttpRequest
  throws : Bool
  deriving DecidableEq

/-- How `async_read` fails. -/
inductive ReadError where
  /-- `http::error::end_of_stream` -/
  | endOfStream
  | code (ec : ErrorCode)
  deriving DecidableEq

/-- What stood in the queue when the socket was passed to
`server_connect`. -/
structure Handover where
  /-- Writes that had not completed. -/
  writing : List HttpResponse
  /-- Responses behind the front of `items_`; the front is being written or
  was written last. -/
  waiting : List HttpResponse
  /-- Responses sent by the request handler so far. -/
  responses : List HttpResponse
  /-- Responses passed to `async_write` so far. -/
  started : List HttpResponse
  /-- Responses written without an error so far. -/
  written : List HttpResponse
  deriving DecidableEq

structure HttpHistory where
  /-- Requests as they stood on the wire, in the order they were read. -/
  wire : List HttpRequest
  /-- The calls of the request handler: the request passed to it and the
  responses it sent before it returned. -/
  handled : List (HttpRequest × List HttpResponse)
  /-- Responses passed to an `http_response` of the session. -/
  responses : List HttpResponse
  /-- Responses that a push to the full ring dropped. -/
  overwritten : List HttpResponse
  /-- Responses passed to `async_write`. -/
  started : List HttpResponse
  /-- Responses written without an error. -/
  written : List HttpResponse
  /-- How often `queue::on_write` found `items_` empty. -/
  emptyPops : Nat
  handovers : List Handover
  readsStarted : Nat
  waitsStarted : Nat
  /-- Arguments of `on_exception`. -/
  reported : List Exception
  /-- Exceptions that left `io_context::run`. -/
  escaped : List Exception
  deriving DecidableEq

structure HttpSession where
  socketOpen : Bool
  /-- `do_close` was called or the handler of the timer closed the socket. -/
  closed : Bool
  timer : WaitableTimer
  /-- Calls of `async_read` whose handler has not run. -/
  reads : Nat
  /-- Arguments of `async_write` whose handler has not run. -/
  writing : List HttpResponse
  /-- The member `req_`. -/
  req : HttpRequest
  /-- The member `items_` of `queue_`. -/
  items : RingBuffer HttpResponse 64
  locker : AsyncLocker
  history : HttpHistory

namespace HttpSession

def constructed : HttpSession :=
  { socketOpen := true
    closed := false
    timer := .idle
    reads := 0
    writing := []
    req := .empty
    items := .nil
    locker := .constructed
    history :=
      { wire := []
        handled := []
        responses := []
        overwritten := []
        started := []
        written := []
        emptyPops := 0
        handovers := []
        readsStarted := 0
        waitsStarted := 0
        reported := []
        escaped := [] } }

/-- Locks that handlers of outstanding operations hold. -/
def holders (session : HttpSession) : Nat :=
  session.reads + session.writing.length + session.timer.handlers

/-- Note an exception handed to the request handler. -/
def report (session : HttpSession) (error : Exception) : HttpSession :=
  { session with history :=
      { session.history with reported := session.history.reported ++ [error] } }

/-- Note an exception that left a handler. -/
def escape (session : HttpSession) (error : Exception) : HttpSession :=
  { session with history :=
      { session.history with escaped := session.history.escaped ++ [error] } }

end HttpSession

end Webservice
