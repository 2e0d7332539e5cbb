import Webservice.Boost.Timer
import Webservice.Boost.Stream
import Webservice.Library.CallLog
import Webservice.Library.Effects
import Webservice.Library.RingBuffer
import Webservice.Locker.AsyncLocker

/-!
# The state of a WebSocket session

The members of `ws_session`, the queues of its two strands, and a history of
what the session asked of its stream and of its service.  No handler reads
the history.
-/

namespace Webservice

/-- `websocket::close_reason` -/
structure CloseReason where
  code : Nat
  reason : String
  deriving DecidableEq

/-- The conversion from a text, which the session and the service use. -/
def CloseReason.ofText (reason : String) : CloseReason := ⟨1000, reason⟩

/-- `ws_session::write_data`; a moved-from buffer holds no data. -/
structure WriteData where
  isText : Bool
  data : Option (List UInt8)
  deriving DecidableEq

def WriteData.moved (entry : WriteData) : WriteData :=
  { entry with data := none }

/-- A message as the stream delivers it. -/
structure Message where
  isText : Bool
  content : List UInt8
  deriving DecidableEq

/-- A call of a virtual function of the service. -/
inductive Callback where
  | onOpen
  | onMessage (message : Message)
  | onClose
  deriving DecidableEq

abbrev CallbackEvent := CallEvent Callback

/-- A job that `send` or `close` dispatched to `strand_`. -/
inductive StrandJob where
  | send (isText : Bool) (data : List UInt8)
  | close (reason : CloseReason)
  deriving DecidableEq

/-- Who runs a handler of `strand_`: a thread of the io context, or the
caller of `dispatch`, inside that call. -/
inductive Host where
  | ioThread
  | caller
  deriving DecidableEq

/-- An asynchronous operation that the session started. -/
inductive StreamOp where
  | wait
  | accept
  | read
  | write (entry : WriteData)
  | ping (payload : String)
  | close (reason : CloseReason)
  deriving DecidableEq

/-- The function that put the session to work. -/
inductive Role where
  | server
  | client
  deriving DecidableEq

structure SessionHistory where
  role : Role
  /-- Asynchronous operations, oldest first. -/
  started : List StreamOp
  /-- Entries that `send` put into `write_list_`. -/
  accepted : List WriteData
  /-- Entries that a push to the full ring dropped. -/
  overwritten : List WriteData
  /-- Messages the stream completed. -/
  delivered : List Message
  callbacks : List CallbackEvent
  /-- Arguments of `service_.on_exception`. -/
  reported : List Exception
  /-- Exceptions that left `io_context::run`. -/
  escaped : List Exception
  deriving DecidableEq

structure WsSession where
  ws : WsStream
  /-- `do_accept` or `start` has not returned and holds the first lock. -/
  inStart : Bool
  /-- Jobs on `strand_` that have not run. -/
  strand : List StrandJob
  /-- The handler of `strand_` that has run while the lock it captured is
  still to be released. -/
  strandHost : Option Host
  /-- Jobs on `handler_strand_` that have not run. -/
  handlerStrand : List Callback
  /-- The callback that `handler_strand_` is running. -/
  running : Option Callback
  timer : WaitableTimer
  locker : AsyncLocker
  writeList : RingBuffer WriteData 64
  closeReason : Option CloseReason
  buffer : List UInt8
  pingCounter : Nat
  waitOnPong : Bool
  /-- The member `is_open_`, not `ws_.is_open()`. -/
  isOpen : Bool
  /-- The destructor has run. -/
  erased : Bool
  history : SessionHistory

namespace WsSession

/-- The constructor.  The stream of a client has completed its handshake. -/
def constructed (role : Role) : WsSession :=
  { ws := .fresh (match role with
      | .server => .handshake
      | .client => .opened)
    inStart := false
    strand := []
    strandHost := none
    handlerStrand := []
    running := none
    timer := .idle
    locker := .constructed
    writeList := .nil
    closeReason := none
    buffer := []
    pingCounter := 0
    waitOnPong := false
    isOpen := false
    erased := false
    history :=
      { role := role
        started := []
        accepted := []
        overwritten := []
        delivered := []
        callbacks := []
        reported := []
        escaped := [] } }

/-- Locks that queued or running handlers of the session hold. -/
def holders (session : WsSession) : Nat :=
  session.inStart.toNat + session.ws.outstanding + session.timer.handlers +
    session.strand.length + session.strandHost.toList.length +
    session.handlerStrand.length + session.running.toList.length

/-- Note an asynchronous operation in the history. -/
def note (session : WsSession) (op : StreamOp) : WsSession :=
  { session with history :=
      { session.history with started := session.history.started ++ [op] } }

/-- Note an exception handed to the service. -/
def report (session : WsSession) (error : Exception) : WsSession :=
  { session with history :=
      { session.history with reported := session.history.reported ++ [error] } }

/-- Note an exception that left a handler. -/
def escape (session : WsSession) (error : Exception) : WsSession :=
  { session with history :=
      { session.history with escaped := session.history.escaped ++ [error] } }

/-- Note the begin or the end of a callback. -/
def callBack (session : WsSession) (event : CallbackEvent) : WsSession :=
  { session with history :=
      { session.history with
        callbacks := session.history.callbacks ++ [event] } }

end WsSession

end Webservice
