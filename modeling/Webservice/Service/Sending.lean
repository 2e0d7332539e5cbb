import Mathlib.Data.Nat.Basic
import Webservice.Library.Machine
import Webservice.Library.OrderedMap
import Webservice.Library.Strands
import Webservice.Session.Step

/-!
# Messages on their way to a session

A message that the user sends crosses two strands: the job of the service
looks the session up and calls its `send`, whose lambda puts the message into
`write_list_`.  Here the threads and their stacks are explicit, so that each
dispatch decides by itself whether the job runs inside the call.  Whatever
else happens on a strand is a job that may do anything but send.
-/

namespace Webservice

/-- Who calls a function that sends: one invocation of `on_open`, `on_text`
or `on_binary`, or a thread that does not run the io context. -/
inductive Caller where
  | callback (index : Nat)
  | foreign (thread : Nat)
  deriving DecidableEq

/-- A message, numbered by the call that sends it.  A call from within
another job of a strand has no caller. -/
structure Sent where
  number : Nat
  caller : Option Caller
  isText : Bool
  data : List UInt8
  deriving DecidableEq

def Sent.entry (sent : Sent) : WriteData := ⟨sent.isText, some sent.data⟩

inductive StrandId where
  | service
  | session (number : Nat)
  /-- `handler_strand_` -/
  | handler (number : Nat)
  deriving DecidableEq

/-- How far a loop over `map_` has come. -/
inductive LoopPoint where
  | entered
  /-- The body begins for the session at the address. -/
  | visiting (address : Nat)
  | left (address : Nat)
  deriving DecidableEq

inductive SendingJob where
  /-- The lambda of `send_text` and `send_binary` to one session. -/
  | send (identifier : Nat) (sent : Sent)
  /-- The lambda of `send_text_if` and `send_binary_if`. -/
  | sendIf (point : LoopPoint) (sent : Sent)
  /-- The lambda of `ws_session::send`. -/
  | deliver (sent : Sent)
  /-- An invocation of `on_open`, `on_text` or `on_binary`. -/
  | callback (index : Nat)
  | other
  deriving DecidableEq

def SendingJob.sent? : SendingJob → Option Sent
  | .send _ sent => some sent
  | .sendIf _ sent => some sent
  | .deliver sent => some sent
  | _ => none

/-- A session, with the messages that its `send` put into `write_list_`. -/
structure Recipient where
  session : WsSession
  queued : List Sent

structure SendingService where
  strands : Strands StrandId SendingJob
  /-- `map_`: from addresses to the numbers of the sessions. -/
  map : OrderedMap Nat Nat
  recipients : Nat → Recipient
  /-- Sessions put into `map_` so far. -/
  created : Nat
  /-- Calls of functions that send so far. -/
  calls : Nat
  /-- Invocations of callbacks deferred so far. -/
  callbacks : Nat

inductive SendingEvent where
  /-- A call of `send_text` or `send_binary` with an identifier. -/
  | send (thread identifier : Nat) (isText : Bool) (data : List UInt8)
  /-- A call of one of their broadcast forms. -/
  | sendIf (thread : Nat) (isText : Bool) (data : List UInt8)
  /-- A lambda that does not send is dispatched. -/
  | dispatch (thread : Nat) (strand : StrandId)
  /-- A handler of a session defers a callback. -/
  | defer (thread : Nat)
  /-- The first job of a strand starts. -/
  | start (thread : Nat) (strand : StrandId)
  | find (thread : Nat) (locks : Bool)
  | begin (thread : Nat)
  | visit (thread : Nat) (verdict locks : Bool)
  | advance (thread : Nat)
  | deliver (thread : Nat)
  /-- A handler of a session changes it. -/
  | handle (thread : Nat) (session : WsSession)
  | emplace (thread address : Nat) (role : Role)
  | erase (thread address : Nat)
  | finish (thread : Nat)

namespace SendingService

def constructed : SendingService :=
  { strands := .fresh
    map := .empty
    recipients := fun _ => ⟨.constructed .server, []⟩
    created := 0
    calls := 0
    callbacks := 0 }

/-- Who calls when the thread calls now. -/
def caller? (ioThread : Nat → Bool) (service : SendingService)
    (thread : Nat) : Option Caller :=
  match service.strands.stack thread with
  | [] => if ioThread thread then none else some (.foreign thread)
  | ⟨.handler _, .callback index⟩ :: _ => some (.callback index)
  | _ => none

def message (ioThread : Nat → Bool) (service : SendingService)
    (thread : Nat) (isText : Bool) (data : List UInt8) : Sent :=
  { number := service.calls
    caller := service.caller? ioThread thread
    isText := isText
    data := data }

/-- `impl_->strand_.dispatch` of a lambda that sends -/
def dispatchSend (ioThread : Nat → Bool) (service : SendingService)
    (thread : Nat) (job : SendingJob) : SendingService :=
  { service with
    strands := service.strands.dispatch (ioThread thread) thread .service job
    calls := service.calls + 1 }

def become (service : SendingService) (thread : Nat) (job : SendingJob) :
    SendingService :=
  { service with strands := service.strands.become thread job }

/-- `session->send(..)` of the session with the number.  Without a lock its
`catch` takes the exception. -/
def sessionSend (ioThread : Nat → Bool) (service : SendingService)
    (thread number : Nat) (sent : Sent) (locks : Bool) : SendingService :=
  if locks then
    { service with
      strands := service.strands.dispatch (ioThread thread) thread
        (.session number) (.deliver sent) }
  else service

/-- `if(impl_->map_.count(identifier) > 0){ session->send(..); }` -/
def find (ioThread : Nat → Bool) (service : SendingService)
    (thread identifier : Nat) (sent : Sent) (locks : Bool) :
    SendingService :=
  match service.map.find? identifier with
  | none => service.become thread .other
  | some number =>
      (service.become thread .other).sessionSend ioThread thread number sent
        locks

def begin (service : SendingService) (thread : Nat) (sent : Sent) :
    SendingService :=
  match service.map.first? with
  | none => service.become thread .other
  | some address => service.become thread (.sendIf (.visiting address) sent)

/-- `if(fn(identifier, session.second)){ session->send(..); }`, where
`verdict` is what `fn` returns, and false if it throws. -/
def visit (ioThread : Nat → Bool) (service : SendingService)
    (thread address : Nat) (sent : Sent) (verdict locks : Bool) :
    Option SendingService :=
  match service.map.find? address with
  -- the iterator points to a node that was erased
  | none => none
  | some number =>
      let left := service.become thread (.sendIf (.left address) sent)
      if verdict then
        some (left.sessionSend ioThread thread number sent locks)
      else some left

def advance (service : SendingService) (thread address : Nat)
    (sent : Sent) : Option SendingService :=
  match service.map.find? address with
  -- the iterator points to a node that was erased
  | none => none
  | some _ =>
      match service.map.next? address with
      | none => some (service.become thread .other)
      | some next =>
          some (service.become thread (.sendIf (.visiting next) sent))

/-- The session after the lambda of its `send` has run. -/
def take (recipient : Recipient) (host : Host) (sent : Sent) :
    Recipient :=
  let session := WsSession.runBody host
    (WsSession.sendJob sent.isText sent.data) recipient.session
  { session := session
    queued := recipient.queued ++
      if recipient.session.history.accepted.length <
          session.history.accepted.length then [sent]
      else [] }

def setRecipient (service : SendingService) (number : Nat)
    (recipient : Recipient) : SendingService :=
  { service with recipients :=
      Function.update service.recipients number recipient }

/-- The lambda of `ws_session::send` runs, inside the call of `dispatch` when
the thread runs something below. -/
def deliver (service : SendingService) (thread number : Nat) (sent : Sent)
    (below : List (Frame StrandId SendingJob)) : SendingService :=
  let host : Host := if below.isEmpty then .ioThread else .caller
  (service.setRecipient number
    (take (service.recipients number) host sent)).become thread .other

def step (ioThread : Nat → Bool) (service : SendingService) :
    SendingEvent → Option SendingService
  | .send thread identifier isText data =>
      some (service.dispatchSend ioThread thread
        (.send identifier (service.message ioThread thread isText data)))
  | .sendIf thread isText data =>
      some (service.dispatchSend ioThread thread
        (.sendIf .entered (service.message ioThread thread isText data)))
  | .dispatch thread strand =>
      some { service with strands :=
        service.strands.dispatch (ioThread thread) thread strand .other }
  | .defer thread =>
      match service.strands.stack thread with
      | ⟨.session number, .other⟩ :: _ =>
          some { service with
            strands := service.strands.append (.handler number)
              (.callback service.callbacks)
            callbacks := service.callbacks + 1 }
      | _ => none
  | .start thread strand =>
      if ioThread thread then
        (service.strands.start? thread strand).map fun strands =>
          { service with strands := strands }
      else none
  | .find thread locks =>
      match service.strands.stack thread with
      | ⟨.service, .send identifier sent⟩ :: _ =>
          some (service.find ioThread thread identifier sent locks)
      | _ => none
  | .begin thread =>
      match service.strands.stack thread with
      | ⟨.service, .sendIf .entered sent⟩ :: _ =>
          some (service.begin thread sent)
      | _ => none
  | .visit thread verdict locks =>
      match service.strands.stack thread with
      | ⟨.service, .sendIf (.visiting address) sent⟩ :: _ =>
          service.visit ioThread thread address sent verdict locks
      | _ => none
  | .advance thread =>
      match service.strands.stack thread with
      | ⟨.service, .sendIf (.left address) sent⟩ :: _ =>
          service.advance thread address sent
      | _ => none
  | .deliver thread =>
      match service.strands.stack thread with
      | ⟨.session number, .deliver sent⟩ :: below =>
          some (service.deliver thread number sent below)
      | _ => none
  | .handle thread session =>
      match service.strands.stack thread with
      | ⟨.session number, .other⟩ :: _ =>
          let recipient := service.recipients number
          if session.history.accepted =
              recipient.session.history.accepted then
            some (service.setRecipient number
              { recipient with session := session })
          else none
      | _ => none
  | .emplace thread address role =>
      match service.strands.stack thread with
      | ⟨.service, .other⟩ :: _ =>
          if address ∈ service.map.keys then none
          else
            some ({ service with
              map := service.map.insert address service.created
              created := service.created + 1 }.setRecipient service.created
                ⟨.constructed role, []⟩)
      | _ => none
  | .erase thread address =>
      match service.strands.stack thread with
      | ⟨.service, .other⟩ :: _ =>
          some { service with map := service.map.erase address }
      | _ => none
  | .finish thread =>
      match service.strands.stack thread with
      | ⟨_, .other⟩ :: _ | ⟨_, .callback _⟩ :: _ =>
          some { service with strands := service.strands.finish thread }
      | _ => none

end SendingService

/-- `ioThread` tells which threads run the io context. -/
def sendingMachine (ioThread : Nat → Bool) :
    Machine SendingService SendingEvent where
  initial service := service = .constructed
  step := SendingService.step ioThread

end Webservice
