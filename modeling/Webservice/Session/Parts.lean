import Webservice.Session.Step

/-!
# Composite functions of a session

Most handlers are put together from a few functions.  A relation between
states that these keep is kept by the handlers; each invariant below says
what the parts do and gets the handlers from here.
-/

namespace Webservice.WsSession

open Effects

/-- What the handlers of a ping and of a close are put together from. -/
structure KeptByClosing (relation : WsSession → WsSession → Prop) :
    Prop where
  /-- No handler cancels the timer of an open stream. -/
  cancelTimer : ∀ session : WsSession, session.ws.isOpen = false →
    KeepsAt relation WsSession.cancelTimer session
  onException : ∀ error, Keeps relation (WsSession.onException error)
  close : ∀ reason, Keeps relation (WsSession.close reason)

/-- What the handler of a read is put together from in addition. -/
structure KeptByParts (relation : WsSession → WsSession → Prop) : Prop
    extends KeptByClosing relation where
  restartTimer : Keeps relation WsSession.restartTimer
  pongSeen : Keeps relation
    (modify fun session => { session with waitOnPong := false } :
      SessionCode Unit)

section

variable {relation : WsSession → WsSession → Prop}
  [IsPreorder WsSession relation]

/-- `noexcept try` keeps what its body and the report of an exception keep. -/
theorem catching_keeps {body : SessionCode Unit}
    (kept : Keeps relation body)
    (reported : ∀ error, Keeps relation (onException error)) :
    Keeps relation (catching body) := by
  intro session
  have bodyKept := kept session
  unfold KeepsAt after at bodyKept ⊢
  unfold catching
  cases outcome : body session with
  | ok result next =>
      simp only [outcome] at bodyKept ⊢
      exact bodyKept
  | error error next =>
      simp only [outcome] at bodyKept ⊢
      exact trans_of relation bodyKept (reported error next)

theorem makeLock_keeps
    (lockerSet : ∀ (session : WsSession) (locker : AsyncLocker),
      relation session { session with locker := locker }) :
    Keeps relation makeLock := by
  intro session
  unfold KeepsAt after makeLock
  cases session.locker.makeLock with
  | ok locker => exact lockerSet session locker
  | error error => exact refl_of relation session

/-- A lock that is released on every way out leaves what the body leaves. -/
theorem withLock_keeps {body : SessionCode Unit}
    (lockerSet : ∀ (session : WsSession) (locker : AsyncLocker),
      relation session { session with locker := locker })
    (kept : Keeps relation body) :
    Keeps relation (withLock makeLock body) := by
  intro session
  have locks := makeLock_keeps lockerSet session
  unfold KeepsAt after at locks ⊢
  unfold withLock
  cases acquired : makeLock session with
  | error error next =>
      simp only [acquired] at locks ⊢
      exact locks
  | ok _ locked =>
      simp only [acquired] at locks ⊢
      have bodyKept := kept locked
      unfold KeepsAt after at bodyKept
      apply trans_of relation locks
      cases outcome : body locked with
      | ok _ next =>
          simp only [outcome] at bodyKept ⊢
          exact trans_of relation bodyKept (lockerSet next _)
      | error _ next =>
          simp only [outcome] at bodyKept ⊢
          exact trans_of relation bodyKept (lockerSet next _)

theorem activity_keeps (parts : KeptByParts relation) :
    Keeps relation activity :=
  .bind parts.pongSeen fun _ => parts.restartTimer

theorem readHandler_keeps (parts : KeptByParts relation)
    (onMessage : ∀ isText, Keeps relation (onMessage isText))
    (doRead : Keeps relation doRead) (isText : Bool)
    {ec : Option ErrorCode} {session : WsSession}
    (closed : ec = some .closed → session.ws.isOpen = false) :
    KeepsAt relation (readHandler isText ec) session := by
  cases ec with
  | none =>
      exact .bind (activity_keeps parts session) fun _ =>
        .bind (onMessage isText) fun _ => doRead
  | some ec =>
      cases ec with
      | operationAborted => exact .pure _ _
      | closed => exact parts.cancelTimer session (closed rfl)
      | other value =>
          refine .bind (activity_keeps parts session) fun _ =>
            .bind (parts.onException _) fun _ => .bind .get fun session => ?_
          exact .ite
            (fun _ => .bind (parts.close _) fun _ => doRead)
            (fun _ => .pure _)

theorem KeptByClosing.closeHandler (closing : KeptByClosing relation)
    (ec : Option ErrorCode) : Keeps relation (closeHandler ec) := by
  have rest : Keeps relation (do
      let session ← get
      if ¬session.ws.isOpen then stopTimer : SessionCode Unit) :=
    fun session => .get_bind <| .ite
      (fun notOpen => closing.cancelTimer session
        (Bool.eq_false_iff.mpr notOpen))
      fun _ => .pure _ _
  cases ec with
  | none => exact rest
  | some ec => exact .bind (closing.onException _) fun _ => rest

theorem KeptByClosing.pingHandler (closing : KeptByClosing relation)
    (ec : Option ErrorCode) : Keeps relation (pingHandler ec) := by
  cases ec with
  | none => exact .pure _
  | some ec =>
      have failed : Keeps relation (do
          WsSession.onError "ping" ec
          WsSession.close (.ofText "ping error")) :=
        .bind (closing.onException _) fun _ => closing.close _
      cases ec with
      | operationAborted => exact .pure _
      | closed => exact failed
      | other value => exact failed

end

/-! ## The write queue and the timer -/

/-- What `send` and the handler of a write are put together from. -/
structure KeptByWrites (relation : WsSession → WsSession → Prop) : Prop where
  /-- No job cancels the timer of an open stream. -/
  cancelTimer : ∀ session : WsSession, session.ws.isOpen = false →
    KeepsAt relation WsSession.cancelTimer session
  pushed : ∀ entry : WriteData, Keeps relation (modify fun session =>
    { session with
      writeList := session.writeList.pushBack entry
      history :=
        { session.history with
          accepted := session.history.accepted ++ [entry]
          overwritten :=
            session.history.overwritten ++ session.writeList.overwritten } } :
    SessionCode Unit)
  popped : Keeps relation (modify fun session =>
    { session with writeList := session.writeList.popFront } :
    SessionCode Unit)
  kindSet : ∀ isText, Keeps relation (modify fun session =>
    { session with ws := { session.ws with text := isText } } :
    SessionCode Unit)
  asyncWrite : ∀ data, Keeps relation (WsSession.asyncWrite data)
  asyncClose : ∀ reason, Keeps relation (WsSession.asyncClose reason)

/-- What `close` is put together from in addition. -/
structure KeptByQueue (relation : WsSession → WsSession → Prop) : Prop
    extends KeptByWrites relation where
  onException : ∀ error, Keeps relation (WsSession.onException error)
  withLock : ∀ {body : SessionCode Unit}, Keeps relation body →
    Keeps relation (WsSession.withLock makeLock body)
  requested : ∀ reason : CloseReason, Keeps relation (modify fun session =>
    { session with closeReason := some reason } : SessionCode Unit)

/-- What the handler of the timer is put together from. -/
structure KeptByTimer (relation : WsSession → WsSession → Prop) : Prop where
  cancelTimer : Keeps relation WsSession.cancelTimer
  restartTimer : Keeps relation WsSession.restartTimer
  doTimer : Keeps relation WsSession.doTimer
  onException : ∀ error, Keeps relation (WsSession.onException error)
  pongDue : Keeps relation (modify fun session =>
    { session with waitOnPong := true } : SessionCode Unit)
  pingCounted : Keeps relation (modify fun session =>
    { session with pingCounter := (session.pingCounter + 1) % 2 ^ 64 } :
    SessionCode Unit)
  asyncPing : ∀ payload, Keeps relation (WsSession.asyncPing payload)
  socketClosed : Keeps relation (modify fun session =>
    { session with ws := session.ws.closeSocket } : SessionCode Unit)

section

variable {relation : WsSession → WsSession → Prop}
  [IsPreorder WsSession relation]

namespace KeptByWrites

theorem doWrite (writes : KeptByWrites relation) :
    Keeps relation doWrite := by
  refine .bind .get fun session => ?_
  cases session.closeReason with
  | some reason => exact writes.asyncClose reason
  | none =>
      cases session.writeList.front? with
      | none => exact .throw _
      | some entry =>
          exact .bind (writes.kindSet entry.isText) fun _ =>
            writes.asyncWrite entry.data

theorem sendJob (writes : KeptByWrites relation) (isText : Bool)
    (data : List UInt8) : Keeps relation (sendJob isText data) :=
  fun session => .get_bind <|
    .ite (fun notOpen => writes.cancelTimer session
      (Bool.eq_false_iff.mpr notOpen)) fun _ =>
    .ite (fun _ => .pure _ _) fun _ =>
    .ite (fun _ => .throw _ _) fun _ =>
    .bind (writes.pushed _ session) fun _ =>
    .ite (fun _ => writes.doWrite) fun _ => .pure _

/-- The handler of a write that succeeded. -/
theorem writeDone (writes : KeptByWrites relation) :
    Keeps relation (writeHandler none) :=
  .bind writes.popped fun _ => .bind .get fun _ =>
    .ite (fun _ => writes.doWrite) fun _ => .pure _

end KeptByWrites

namespace KeptByQueue

theorem closeJob (queue : KeptByQueue relation) (reason : CloseReason) :
    Keeps relation (closeJob reason) :=
  fun session => .get_bind <|
    .ite (fun notOpen => queue.cancelTimer session
      (Bool.eq_false_iff.mpr notOpen)) fun _ =>
    .ite (fun _ => .pure _ _) fun _ =>
    .bind (queue.requested reason session) fun _ =>
    .ite (fun _ => queue.doWrite) fun _ => .pure _

theorem runJob (queue : KeptByQueue relation) (job : StrandJob) :
    Keeps relation (runJob job) := by
  cases job with
  | send isText data => exact queue.sendJob isText data
  | close reason => exact queue.closeJob reason

theorem close (queue : KeptByQueue relation) (reason : CloseReason) :
    Keeps relation (close reason) :=
  catching_keeps (queue.withLock (queue.closeJob reason)) queue.onException

theorem writeHandler (queue : KeptByQueue relation)
    (ec : Option ErrorCode) : Keeps relation (writeHandler ec) := by
  have failed : ∀ ec, Keeps relation (do
      WsSession.onError "write" ec
      WsSession.close (.ofText "write error")) := fun ec =>
    .bind (queue.onException _) fun _ => queue.close _
  cases ec with
  | none => exact queue.writeDone
  | some ec =>
      cases ec with
      | operationAborted => exact .pure _
      | closed => exact failed _
      | other value => exact failed _

/-- The functions that handlers share are made of these, too. -/
theorem closing (queue : KeptByQueue relation) :
    KeptByClosing relation where
  cancelTimer := queue.cancelTimer
  onException := queue.onException
  close := queue.close

theorem parts (queue : KeptByQueue relation)
    (restartTimer : Keeps relation restartTimer)
    (pongSeen : Keeps relation
      (modify fun session => { session with waitOnPong := false } :
        SessionCode Unit)) : KeptByParts relation where
  toKeptByClosing := queue.closing
  restartTimer := restartTimer
  pongSeen := pongSeen

end KeptByQueue

theorem KeptByTimer.timerHandler (timer : KeptByTimer relation)
    (ec : Option ErrorCode) : Keeps relation (timerHandler ec) := by
  have closes : Keeps relation closeSocket :=
    .bind timer.socketClosed fun _ => timer.cancelTimer
  have sends : Keeps relation sendPing :=
    .bind .get fun _ => .bind timer.pingCounted fun _ => timer.asyncPing _
  refine .bind .get fun _ => .ite (fun _ => .pure _) fun _ =>
    .ite (fun _ => .ite (fun _ => ?_) fun _ => .pure _) fun _ => ?_
  · exact .bind timer.pongDue fun _ => .bind timer.restartTimer fun _ =>
      .bind sends fun _ => timer.doTimer
  · cases ec with
    | none => exact closes
    | some ec => exact .bind (timer.onException _) fun _ => closes

theorem acceptHandler_keeps
    (opened : Keeps relation
      (modify fun session => { session with isOpen := true } :
        SessionCode Unit))
    (onOpen : Keeps relation onOpen) (doRead : Keeps relation doRead)
    (onException : ∀ error, Keeps relation (onException error))
    (ec : Option ErrorCode) : Keeps relation (acceptHandler ec) := by
  cases ec with
  | none => exact .bind opened fun _ => .bind onOpen fun _ => doRead
  | some ec =>
      cases ec with
      | operationAborted => exact .pure _
      | closed => exact onException _
      | other value => exact onException _

theorem doRead_keeps (restartTimer : Keeps relation restartTimer)
    (asyncRead : Keeps relation asyncRead) : Keeps relation doRead :=
  .bind .get fun _ =>
    .ite (fun _ => .bind restartTimer fun _ => asyncRead) fun _ => .pure _

end

end Webservice.WsSession
