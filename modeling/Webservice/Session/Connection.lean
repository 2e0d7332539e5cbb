import Webservice.Library.Lists
import Webservice.Session.Silence

/-!
# Two sessions on one connection

A client session and a server session, each with all of its own steps.  The
streams keep the order: the message that a read completes is the next one
that the other session has passed to `async_write`.  What the services at
both ends see then is what the other side has accepted to send.
-/

namespace Webservice

def WriteData.message (entry : WriteData) : Message :=
  ⟨entry.isText, entry.data.getD []⟩

def Callback.message? : Callback → Option Message
  | .onMessage message => some message
  | _ => none

def Role.peer : Role → Role
  | .server => .client
  | .client => .server

@[simp] theorem Role.peer_peer (role : Role) : role.peer.peer = role := by
  cases role <;> rfl

theorem Role.peer_ne (role : Role) : role.peer ≠ role := by
  cases role <;> simp [peer]

theorem Role.eq_peer {role other : Role} (different : other ≠ role) :
    other = role.peer := by
  cases role <;> cases other <;> first | rfl | exact absurd rfl different

/-- The message that the event completes. -/
def SessionEvent.completes? (session : WsSession) :
    SessionEvent → Option Message
  | .readDone none chunk isText _ =>
      some ⟨isText, session.ws.received ++ chunk⟩
  | _ => none

/-- What the event adds to the calls of the service. -/
def SessionEvent.logs (session : WsSession) :
    SessionEvent → List CallbackEvent
  | .callbackBegins => session.handlerStrand.head?.toList.map .began
  | .callbackReturns => session.running.toList.map .returned
  | .erase =>
      if session.isOpen then [.began .onClose, .returned .onClose] else []
  | _ => []

namespace WsSession

open Effects

/-! ## Operations are only ever added -/

/-- The operations of the mark have been started, and others after them. -/
def StartedSince (mark : List StreamOp) (session : WsSession) : Prop :=
  mark <+: session.history.started

section

variable {mark : List StreamOp} {before after session next : WsSession}

theorem StartedSince.noted {op : StreamOp}
    (since : session.StartedSince mark) :
    (session.note op).StartedSince mark :=
  since.trans (List.prefix_append _ _)

theorem StartedSince.restarted (since : session.StartedSince mark) :
    session.restarted.StartedSince mark := by
  unfold WsSession.restarted
  split
  · exact since.noted
  · exact since

theorem startedSince_ofCore : OfCore (StartedSince mark) :=
  .of_iff fun _ => Iff.rfl

theorem queue_startedSince : KeptByQueue (Carried (StartedSince mark)) where
  cancelTimer _ _ := modify_carried rfl rfl (by simp [holders]) rfl id id
  onException := onException_carried startedSince_ofCore
  withLock := withLock_carried startedSince_ofCore
  pushed _ _ := modify_carried rfl rfl rfl rfl id id
  popped _ := modify_carried rfl rfl rfl rfl id id
  requested _ _ := modify_carried rfl rfl rfl rfl (fun _ => rfl) id
  kindSet _ _ := modify_carried rfl rfl rfl rfl id id
  asyncWrite data session :=
    startOp_carried (asyncWrite_codeKept data session) StartedSince.noted
  asyncClose reason session :=
    startOp_carried (asyncClose_codeKept reason session) StartedSince.noted

theorem timer_startedSince : KeptByTimer (Carried (StartedSince mark)) where
  cancelTimer _ := modify_carried rfl rfl (by simp [holders]) rfl id id
  restartTimer := restartTimer_carried fun _ => StartedSince.restarted
  doTimer session :=
    startOp_carried (doTimer_codeKept session) StartedSince.noted
  onException := onException_carried startedSince_ofCore
  pongDue _ := modify_carried rfl rfl rfl rfl id id
  pingCounted _ := modify_carried rfl rfl rfl rfl id id
  asyncPing payload session :=
    startOp_carried (asyncPing_codeKept payload session) StartedSince.noted
  socketClosed _ := modify_carried rfl rfl rfl rfl id id

theorem parts_startedSince : KeptByParts (Carried (StartedSince mark)) :=
  queue_startedSince.parts timer_startedSince.restartTimer fun _ =>
    modify_carried rfl rfl rfl rfl id id

theorem doRead_startedSince : Keeps (Carried (StartedSince mark)) doRead :=
  doRead_keeps timer_startedSince.restartTimer fun session =>
    startOp_carried (asyncRead_codeKept session) StartedSince.noted

theorem startedSince_preserved :
    Preserved LocksSound (StartedSince mark) where
  ofCore := startedSince_ofCore
  parts := parts_startedSince
  runJob := queue_startedSince.runJob
  acceptDone := by
    intro session ec ws _ since _ held
    refine (acceptHandler_keeps ?_ ?_ doRead_startedSince
      parts_startedSince.onException ec _).carried held since
    · exact fun _ => modify_carried rfl rfl rfl rfl id id
    · exact deferCallback_carried onOpen_codeKept fun _ => id
  readDone := by
    intro session ec chunk isText stillOpen ws _ since done held
    refine (readHandler_keeps parts_startedSince (fun isText => ?_)
      doRead_startedSince isText (WsStream.readDone?_closed done)).carried
      held since
    exact deferCallback_carried (onMessage_codeKept isText) fun _ => id
  writeDone _ since _ held :=
    (queue_startedSince.writeHandler _ _).carried held since
  pingDone since _ := since
  closeDone since _ := since
  timerExpired since _ := since
  timerDone since _ held :=
    (timer_startedSince.timerHandler _ _).carried held since
  callbackBegins since _ _ := since
  callbackReturns since _ := since
  streamEnds since _ := since
  writeBlock since := since
  erase _ since _ _ := by
    unfold destroyed
    split <;> exact since

/-- Messages are passed to `async_write` after those before. -/
theorem step_written {event : SessionEvent}
    (reached : sessionMachine.Reachable session)
    (stepped : session.step event = some next) :
    session.written <+: next.written := by
  have sound := locksSound_of_reachable reached
  have since : next.StartedSince session.history.started :=
    startedSince_preserved.step sound sound (List.prefix_refl _) stepped
  exact since.filterMap _

/-! ## Messages are delivered and handed over -/

/-- What a step adds to the messages delivered and to the calls of the
service. -/
structure Noted (event : SessionEvent) (session next : WsSession) : Prop where
  delivered : next.history.delivered =
    session.history.delivered ++ (event.completes? session).toList
  callbacks : next.history.callbacks =
    session.history.callbacks ++ event.logs session

theorem Noted.silent {event : SessionEvent}
    (completes : event.completes? session = none)
    (logs : event.logs session = [])
    (delivered : next.history.delivered = session.history.delivered)
    (callbacks : next.history.callbacks = session.history.callbacks) :
    Noted event session next := by
  constructor
  · rw [completes, delivered]
    exact (List.append_nil _).symm
  · rw [logs, callbacks]
    exact (List.append_nil _).symm

/-- A handler adds nothing itself. -/
theorem Noted.handler {event : SessionEvent} {body : SessionCode Unit}
    (entered : Noted event session next) (host : Host)
    (kept : KeepsAt CodeKept body next) :
    Noted event session (runHandler host body next) := by
  have frame := (runBody_codeKept host kept).frame
  constructor
  · exact (congrArg Frame.delivered frame).trans entered.delivered
  · exact (congrArg Frame.callbacks frame).trans entered.callbacks

theorem step_noted {event : SessionEvent}
    (stepped : session.step event = some next) :
    Noted event session next := by
  cases event with
  | startReturns =>
      obtain ⟨-, rfl⟩ := step_startReturns stepped
      exact .silent rfl rfl rfl rfl
  | acceptDone ec =>
      obtain ⟨-, ws, -, rfl⟩ := complete_eq_some stepped
      apply Noted.handler _ _ (acceptHandler_codeKept ec _)
      exact .silent rfl rfl rfl rfl
  | readDone ec chunk isText stillOpen =>
      obtain ⟨-, ws, done, rfl⟩ := complete_eq_some stepped
      have received : Noted (.readDone ec chunk isText stillOpen) session
          { session.receive ec chunk isText with ws := ws } := by
        constructor
        · cases ec <;> rfl
        · exact (List.append_nil _).symm
      exact received.handler _
        (readHandler_codeKept isText (WsStream.readDone?_closed done))
  | writeDone ec =>
      obtain ⟨-, ws, -, rfl⟩ := complete_eq_some stepped
      apply Noted.handler _ _ (queue_codeKept.writeHandler ec _)
      exact .silent rfl rfl rfl rfl
  | pingDone ec stillOpen =>
      obtain ⟨-, ws, -, rfl⟩ := complete_eq_some stepped
      apply Noted.handler _ _ (parts_codeKept.pingHandler ec _)
      exact .silent rfl rfl rfl rfl
  | closeDone ec stillOpen =>
      obtain ⟨-, ws, -, rfl⟩ := complete_eq_some stepped
      apply Noted.handler _ _ (parts_codeKept.closeHandler ec _)
      exact .silent rfl rfl rfl rfl
  | controlFrame =>
      obtain ⟨-, -, rfl⟩ := step_controlFrame stepped
      have frame := (runBody_codeKept .ioThread
        (activity_keeps parts_codeKept session)).frame
      exact .silent rfl rfl (congrArg Frame.delivered frame)
        (congrArg Frame.callbacks frame)
  | timerExpired =>
      obtain ⟨timer, -, rfl⟩ := step_timerExpired stepped
      exact .silent rfl rfl rfl rfl
  | timerDone ec =>
      obtain ⟨-, timer, -, rfl⟩ := step_timerDone stepped
      apply Noted.handler _ _ (timer_codeKept.timerHandler ec _)
      exact .silent rfl rfl rfl rfl
  | runJob host =>
      obtain ⟨-, job, jobs, -, -, rfl⟩ := step_runJob stepped
      apply Noted.handler _ _ (queue_codeKept.runJob job _)
      exact .silent rfl rfl rfl rfl
  | release host =>
      obtain ⟨-, rfl⟩ := step_release stepped
      exact .silent rfl rfl rfl rfl
  | callbackBegins =>
      obtain ⟨-, callback, callbacks, queued, rfl⟩ :=
        step_callbackBegins stepped
      constructor
      · exact (List.append_nil _).symm
      · rw [SessionEvent.logs, queued]
        rfl
  | callbackReturns =>
      obtain ⟨callback, running, rfl⟩ := step_callbackReturns stepped
      constructor
      · exact (List.append_nil _).symm
      · rw [SessionEvent.logs, running]
        rfl
  | dispatch job =>
      obtain ⟨-, rfl⟩ := step_dispatch stepped
      have same := dispatch_core session job
      exact .silent rfl rfl
        (congrArg (fun core : WsSession => core.history.delivered) same :)
        (congrArg (fun core : WsSession => core.history.callbacks) same :)
  | streamEnds =>
      obtain ⟨ws, -, rfl⟩ := step_streamEnds stepped
      exact .silent rfl rfl rfl rfl
  | writeBlock blocked =>
      cases stepped
      exact .silent rfl rfl rfl rfl
  | erase =>
      obtain ⟨-, -, rfl⟩ := step_erase stepped
      unfold destroyed
      cases isOpen : session.isOpen with
      | false =>
          refine .silent rfl ?_ rfl rfl
          rw [SessionEvent.logs, isOpen]
          rfl
      | true =>
          constructor
          · exact (List.append_nil _).symm
          · rw [SessionEvent.logs, isOpen]
            exact List.append_assoc _ _ _

/-- The messages that `on_text` and `on_binary` of the service were called
with, oldest first. -/
def messages (session : WsSession) : List Message :=
  session.begun.filterMap Callback.message?

end

end WsSession

/-! ## Both ends -/

/-- The sessions at the ends of a connection. -/
abbrev Connection := Role → WsSession

namespace Connection

/-- What a read completes is the next message of the other end. -/
def arrives (connection : Connection) (reader : Role) (event : SessionEvent) :
    Bool :=
  (event.completes? (connection reader)).all fun message =>
    decide (((connection reader.peer).written.map WriteData.message)[
      (connection reader).history.delivered.length]? = some message)

def step (connection : Connection) (event : Role × SessionEvent) :
    Option Connection :=
  if connection.arrives event.1 event.2 then
    ((connection event.1).step event.2).map fun next =>
      Function.update connection event.1 next
  else none

end Connection

def connectionMachine : Machine Connection (Role × SessionEvent) where
  initial connection := connection = WsSession.launched
  step := Connection.step

namespace Connection

variable {connection : Connection} {session : WsSession}

theorem step_eq_some {next : Connection} {event : Role × SessionEvent}
    (stepped : connection.step event = some next) :
    connection.arrives event.1 event.2 = true ∧ ∃ session,
      (connection event.1).step event.2 = some session ∧
      next = Function.update connection event.1 session := by
  obtain ⟨arrives, stepped⟩ := Option.ite_none_right_eq_some.mp stepped
  obtain ⟨session, sessionStepped, rfl⟩ := Option.map_eq_some_iff.mp stepped
  exact ⟨arrives, session, sessionStepped, rfl⟩

/-- Each end runs as a session does. -/
theorem session_reachable (reached : connectionMachine.Reachable connection)
    (role : Role) : sessionMachine.Reachable (connection role) := by
  refine reached.view (fun connection => connection role) ?_ ?_
  · rintro _ rfl
    exact ⟨role, rfl⟩
  · intro before event after _ _ stepped
    obtain ⟨-, session, sessionStepped, rfl⟩ := step_eq_some stepped
    by_cases same : role = event.1
    · subst same
      rw [Function.update_self]
      exact .inr ⟨event.2, sessionStepped⟩
    · exact .inl (Function.update_of_ne same _ _)

/-- The stream delivers what the other end has written, in that order. -/
theorem delivered_of_reachable
    (reached : connectionMachine.Reachable connection) (reader : Role) :
    (connection reader).history.delivered <+:
      (connection reader.peer).written.map WriteData.message := by
  apply reached.invariantOver fun connection =>
    (connection reader).history.delivered <+:
      (connection reader.peer).written.map WriteData.message
  · rintro _ rfl
    cases reader <;> exact List.nil_prefix
  · intro before event after earlier begins _ stepped
    obtain ⟨arrives, session, sessionStepped, rfl⟩ := step_eq_some stepped
    obtain ⟨role, event⟩ := event
    by_cases same : reader = role
    · subst same
      rw [Function.update_self, Function.update_of_ne reader.peer_ne,
        (WsSession.step_noted sessionStepped).delivered]
      cases completes : event.completes? (before reader) with
      | none =>
          rw [Option.toList_none, List.append_nil]
          exact begins
      | some message =>
          refine Lists.concat_prefix begins ?_
          simpa [arrives, Connection.arrives, completes] using arrives
    · obtain rfl : role = reader.peer := Role.eq_peer (Ne.symm same)
      rw [Function.update_self, Function.update_of_ne same]
      exact begins.trans ((WsSession.step_written
        (session_reachable earlier _) sessionStepped).map _)

theorem script_messages (delivered : List Message) :
    (Inbox.script delivered).filterMap Callback.message? = delivered := by
  rw [Inbox.script, List.filterMap_append, List.filterMap_cons_none rfl,
    List.filterMap_map]
  exact (List.append_nil _).trans List.filterMap_some

/-- A session hands over what it was delivered, from the first message
on. -/
theorem handed_begins (reached : sessionMachine.Reachable session) :
    session.messages <+: session.history.delivered := by
  have inbox := (WsSession.callbacksSound_of_reachable reached).inbox
  have sequence : session.begun ++ session.handlerStrand =
    session.inbox.owed := inbox.sequence
  have begins : session.begun <+: Inbox.script session.history.delivered :=
    List.IsPrefix.trans ⟨_, sequence⟩ (Inbox.owed_prefix_script _)
  have handed := begins.filterMap Callback.message?
  rwa [script_messages] at handed

/-- The messages handed over are those that the other end has accepted. -/
theorem handed_of_reachable
    (reached : connectionMachine.Reachable connection) (reader : Role) :
    (connection reader).messages <+:
      (connection reader.peer).history.accepted.map WriteData.message := by
  have handed := handed_begins (session_reachable reached reader)
  have arrived := delivered_of_reachable reached reader
  have writing := WsSession.writingSound_of_reachable
    (session_reachable reached reader.peer)
  exact handed.trans (arrived.trans (writing.queued.map _))

/-- What one end has made of the messages of the other. -/
structure Exchanged (sender reader : WsSession) : Prop where
  /-- The service of the reader is handed what the sender has accepted, in
  that order, each message once and none left out. -/
  handed : reader.messages <+: sender.history.accepted.map WriteData.message
  /-- Nothing that arrived is withheld from the service. -/
  complete : reader.erased = true → reader.isOpen = true →
    reader.messages = reader.history.delivered
  arrived : reader.history.delivered <+:
    sender.written.map WriteData.message

/-- Between two sessions messages are neither lost in between, nor repeated,
nor reordered, nor made up, in either direction. -/
theorem exchanged_of_reachable
    (reached : connectionMachine.Reachable connection) (reader : Role) :
    Exchanged (connection reader.peer) (connection reader) := by
  refine ⟨handed_of_reachable reached reader, fun erased isOpen => ?_,
    delivered_of_reachable reached reader⟩
  have isReader := session_reachable reached reader
  have inbox := (WsSession.callbacksSound_of_reachable isReader).inbox
  have sequence : (connection reader).begun ++
    (connection reader).handlerStrand = (connection reader).inbox.owed :=
      inbox.sequence
  have locks := WsSession.locksSound_of_reachable isReader
  have unowed : (connection reader).holders = 0 :=
    locks.counted.symm.trans (locks.erased erased)
  simp only [WsSession.holders, Nat.add_eq_zero_iff,
    List.length_eq_zero_iff] at unowed
  rw [unowed.1.2, List.append_nil] at sequence
  rw [WsSession.messages, sequence]
  simp only [Inbox.owed, WsSession.inbox, isOpen, erased, if_true]
  exact script_messages _

/-- A message goes from the client to the server and one comes back. -/
def pingPong : List (Role × SessionEvent) :=
  [(.client, .startReturns), (.server, .startReturns),
    (.server, .acceptDone none), (.server, .release .ioThread),
    (.client, .dispatch (.send true [104, 105])), (.client, .runJob .caller),
    (.client, .release .caller),
    (.server, .readDone none [104, 105] true true),
    (.server, .release .ioThread), (.server, .callbackBegins),
    (.server, .callbackReturns), (.server, .callbackBegins),
    (.server, .dispatch (.send false [7])), (.server, .runJob .ioThread),
    (.server, .release .ioThread), (.server, .callbackReturns),
    (.client, .readDone none [7] false true), (.client, .release .ioThread)]

theorem exchanged_ping_pong :
    ∃ connection, connectionMachine.run WsSession.launched pingPong =
        some connection ∧
      (connection .server).begun = [.onOpen, .onMessage ⟨true, [104, 105]⟩] ∧
      Exchanged (connection .client) (connection .server) ∧
      Exchanged (connection .server) (connection .client) := by
  have ran : connectionMachine.run WsSession.launched pingPong =
    some _ := rfl
  have reached := Machine.reachable_of_run
    (rfl : connectionMachine.initial WsSession.launched) ran
  exact ⟨_, ran, rfl, exchanged_of_reachable reached .server,
    exchanged_of_reachable reached .client⟩

end Connection

end Webservice
