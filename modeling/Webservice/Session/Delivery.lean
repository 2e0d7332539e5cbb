import Webservice.Session.Silence

/-!
# Messages that a close leaves behind

When a close takes effect, `do_write` starts the closing handshake after the
write that is outstanding, whatever is left in the queue.  So a message that
`send` accepted earlier is delivered only if at most one message was in the
queue at that point.
-/

namespace Webservice.WsSession

open Effects

/-! ## Code that leaves the reason to close alone -/

def SameReason (before after : WsSession) : Prop :=
  after.closeReason = before.closeReason

instance : IsPreorder WsSession SameReason where
  refl _ := rfl
  trans _ _ _ left right := right.trans left

theorem startOp_sameReason {op : WsSession → StreamOp}
    {begins : WsSession → WsSession}
    (same : ∀ session, (begins session).closeReason = session.closeReason) :
    Keeps SameReason (startOp op begins) := by
  intro session
  by_cases drained : session.locker.lockCount = 0
  · have threw := makeLock_run_drained drained
    exact .of_error (by rw [startOp, bind_run, threw]) rfl
  · exact .of_ok (startOp_run (Nat.pos_of_ne_zero drained) op begins)
      (same session.locked)

theorem deferCallback_sameReason {callback : WsSession → Callback}
    {captures : WsSession → WsSession}
    (same : ∀ session, (captures session).closeReason = session.closeReason) :
    Keeps SameReason (deferCallback callback captures) := by
  refine catching_keeps (fun session => ?_) fun _ _ => rfl
  by_cases drained : session.locker.lockCount = 0
  · have threw := makeLock_run_drained drained
    exact .of_error (by rw [bind_run, threw]) rfl
  · have acquired := makeLock_run (Nat.pos_of_ne_zero drained)
    refine .of_ok (by rw [bind_run_ok acquired, modify_run]) ?_
    exact same session.locked

theorem writes_sameReason : KeptByWrites SameReason where
  cancelTimer _ _ := rfl
  pushed _ _ := rfl
  popped _ := rfl
  kindSet _ _ := rfl
  asyncWrite _ := startOp_sameReason fun _ => rfl
  asyncClose _ := startOp_sameReason fun _ => rfl

theorem doTimer_sameReason : Keeps SameReason doTimer :=
  startOp_sameReason fun _ => rfl

theorem restartTimer_sameReason : Keeps SameReason restartTimer := by
  have cancels : Keeps SameReason cancelTimer := fun _ => rfl
  exact .bind (.bind .get fun _ => .bind cancels fun _ => .pure _)
    fun _ => .bind .get fun _ =>
      .ite (fun _ => doTimer_sameReason) fun _ => .pure _

theorem timer_sameReason : KeptByTimer SameReason where
  cancelTimer _ := rfl
  restartTimer := restartTimer_sameReason
  doTimer := doTimer_sameReason
  onException _ _ := rfl
  pongDue _ := rfl
  pingCounted _ := rfl
  asyncPing _ := startOp_sameReason fun _ => rfl
  socketClosed _ := rfl

theorem activity_sameReason : Keeps SameReason activity := by
  have seen : Keeps SameReason (modify fun session =>
      { session with waitOnPong := false } : SessionCode Unit) := fun _ => rfl
  exact .bind seen fun _ => restartTimer_sameReason

theorem doRead_sameReason : Keeps SameReason doRead :=
  doRead_keeps restartTimer_sameReason (startOp_sameReason fun _ => rfl)

theorem acceptHandler_sameReason (ec : Option ErrorCode) :
    Keeps SameReason (acceptHandler ec) := by
  have opened : Keeps SameReason (modify fun session =>
      { session with isOpen := true } : SessionCode Unit) := fun _ => rfl
  have opens : Keeps SameReason onOpen :=
    deferCallback_sameReason fun _ => rfl
  have reports : ∀ error, Keeps SameReason (onException error) :=
    fun _ _ => rfl
  exact acceptHandler_keeps opened opens doRead_sameReason reports ec

/-- The handler of a read that delivered a message. -/
theorem readDone_sameReason (isText : Bool) :
    Keeps SameReason (readHandler isText none) :=
  .bind activity_sameReason fun _ =>
    .bind (deferCallback_sameReason fun _ => rfl) fun _ => doRead_sameReason

theorem closeHandler_sameReason (ec : Option ErrorCode) :
    Keeps SameReason (closeHandler ec) := by
  have rest : Keeps SameReason (do
      let session ← get
      if ¬session.ws.isOpen then stopTimer : SessionCode Unit) := by
    have stops : Keeps SameReason stopTimer := fun _ => rfl
    exact .bind .get fun _ => .ite (fun _ => stops) fun _ => .pure _
  cases ec with
  | none => exact rest
  | some ec =>
      have reports : Keeps SameReason (onError "close" ec) := fun _ => rfl
      exact .bind reports fun _ => rest

/-! ## Code that neither accepts nor writes messages -/

/-- The messages written and those accepted. -/
structure Books where
  written : List WriteData
  accepted : List WriteData

def books (session : WsSession) : Books :=
  ⟨session.written, session.history.accepted⟩

def Booked (books : Books) (session : WsSession) : Prop :=
  session.books = books

/-- The session knows why it closes, and has these books. -/
structure Settled (books : Books) (session : WsSession) : Prop where
  requested : session.closeReason.isSome = true
  booked : session.Booked books

section

variable {books : Books} {session : WsSession}

theorem Booked.noted {op : StreamOp} (booked : session.Booked books)
    (other : op.written? = none) : (session.note op).Booked books := by
  have written : (session.note op).written = session.written := by
    rw [note_written, other]
    exact List.append_nil _
  have accepted : (session.note op).history.accepted =
    session.history.accepted := rfl
  unfold Booked WsSession.books at booked ⊢
  rw [written, accepted]
  exact booked

theorem booked_ofCore : OfCore (Booked books) :=
  .of_iff fun _ => Iff.rfl

theorem Booked.restarted (booked : session.Booked books) :
    session.restarted.Booked books := by
  unfold WsSession.restarted
  split
  · have unnoted : Booked books { session.locked with
      timer := session.timer.cancel.asyncWait } := booked
    exact unnoted.noted rfl
  · exact booked

/-- A close writes nothing; at most it starts the closing handshake. -/
theorem closeJob_booked (reason : CloseReason) :
    Keeps (Carried (Booked books)) (closeJob reason) := by
  intro session
  refine ⟨queue_codeKept.closeJob reason session, fun held booked => ?_⟩
  have run := closeJob_run reason session
  by_cases isOpen : session.ws.isOpen = true
  case neg =>
    rw [if_pos isOpen] at run
    rw [after_congr run]
    exact booked
  rw [if_neg (not_not_intro isOpen)] at run
  by_cases requested : session.closeReason.isSome = true
  case pos =>
    rw [if_pos requested] at run
    rw [after_eq_of_ok run]
    exact booked
  rw [if_neg requested] at run
  have asked : Booked books { session with closeReason := some reason } :=
    booked
  by_cases empty : session.writeList.isEmpty = true
  · have heldAsked : Held { session with closeReason := some reason } := held
    rw [if_pos empty, doWrite_closes heldAsked rfl] at run
    rw [after_eq_of_ok run]
    exact asked.noted rfl
  · rw [if_neg empty] at run
    rw [after_eq_of_ok run]
    exact asked

theorem parts_booked : KeptByParts (Carried (Booked books)) where
  cancelTimer _ _ :=
    modify_carried rfl rfl (by simp [holders]) rfl id id
  restartTimer := restartTimer_carried fun _ => Booked.restarted
  pongSeen _ := modify_carried rfl rfl rfl rfl id id
  onException := onException_carried booked_ofCore
  close reason := close_carried booked_ofCore (closeJob_booked reason)

theorem timer_booked : KeptByTimer (Carried (Booked books)) where
  cancelTimer _ := modify_carried rfl rfl (by simp [holders]) rfl id id
  restartTimer := parts_booked.restartTimer
  doTimer session := startOp_carried (doTimer_codeKept session)
    fun booked => Booked.noted booked rfl
  onException := parts_booked.onException
  pongDue _ := modify_carried rfl rfl rfl rfl id id
  pingCounted _ := modify_carried rfl rfl rfl rfl id id
  asyncPing payload session :=
    startOp_carried (asyncPing_codeKept payload session) fun booked =>
      Booked.noted booked rfl
  socketClosed _ := modify_carried rfl rfl rfl rfl id id

theorem doRead_booked : Keeps (Carried (Booked books)) doRead :=
  doRead_keeps parts_booked.restartTimer fun session =>
    startOp_carried (asyncRead_codeKept session) fun booked =>
      Booked.noted booked rfl

theorem onMessage_booked (isText : Bool) :
    Keeps (Carried (Booked books)) (onMessage isText) :=
  deferCallback_carried (onMessage_codeKept isText) fun _ => id

theorem acceptHandler_booked (ec : Option ErrorCode) :
    Keeps (Carried (Booked books)) (acceptHandler ec) := by
  have opens : Keeps (Carried (Booked books)) onOpen :=
    deferCallback_carried onOpen_codeKept fun _ => id
  exact acceptHandler_keeps (fun _ => modify_carried rfl rfl rfl rfl id id)
    opens doRead_booked parts_booked.onException ec

/-- Code that keeps the books of every session keeps a session settled. -/
theorem Booked.settled {before after : WsSession}
    (kept : Carried (Booked books) before after) :
    Carried (Settled books) before after where
  code := kept.code
  carried held settled :=
    ⟨kept.code.closing settled.requested, kept.carried held settled.booked⟩

theorem settled_ofCore : OfCore (Settled books) :=
  .of_iff fun _ => ⟨fun settled => ⟨settled.requested, settled.booked⟩,
    fun settled => ⟨settled.requested, settled.booked⟩⟩

theorem parts_settled : KeptByParts (Carried (Settled books)) where
  cancelTimer session ended :=
    Booked.settled (parts_booked.cancelTimer session ended)
  restartTimer session := Booked.settled (parts_booked.restartTimer session)
  pongSeen session := Booked.settled (parts_booked.pongSeen session)
  onException error session :=
    Booked.settled (parts_booked.onException error session)
  close reason session := Booked.settled (parts_booked.close reason session)

theorem runJob_settled (job : StrandJob) :
    Keeps (Carried (Settled books)) (runJob job) := by
  intro session
  refine ⟨queue_codeKept.runJob job session, fun _ settled => ?_⟩
  have run := runJob_requested job settled.requested
  by_cases isOpen : session.ws.isOpen = true
  · rw [if_pos isOpen] at run
    rw [after_eq_of_ok run]
    exact settled
  · rw [if_neg isOpen] at run
    rw [after_congr run]
    exact ⟨settled.requested, settled.booked⟩

/-- After a write, a session that is to be closed only closes. -/
theorem writeHandler_settled (ec : Option ErrorCode) :
    Keeps (Carried (Settled books)) (writeHandler ec) := by
  have failed : ∀ ec, Keeps (Carried (Settled books)) (do
      WsSession.onError "write" ec
      WsSession.close (.ofText "write error")) := fun ec =>
    .bind (parts_settled.onException _) fun _ => parts_settled.close _
  cases ec with
  | none =>
      intro session
      refine ⟨queue_codeKept.writeHandler none session,
        fun held settled => ?_⟩
      have run := writeHandler_run session
      have popped : Settled books
          { session with writeList := session.writeList.popFront } :=
        ⟨settled.requested, settled.booked⟩
      obtain ⟨reason, isReason⟩ :=
        Option.isSome_iff_exists.mp settled.requested
      split at run
      · have heldPopped : Held
          { session with writeList := session.writeList.popFront } := held
        rw [doWrite_closes heldPopped isReason] at run
        rw [after_eq_of_ok run]
        exact ⟨popped.requested, popped.booked.noted rfl⟩
      · rw [after_eq_of_ok run]
        exact popped
  | some ec =>
      cases ec with
      | operationAborted => exact .pure _
      | closed => exact failed _
      | other value => exact failed _

theorem settled_preserved : Preserved LocksSound (Settled books) where
  ofCore := settled_ofCore
  parts := parts_settled
  runJob := runJob_settled
  acceptDone _ settled _ held :=
    (Booked.settled (acceptHandler_booked _ _)).carried held
      ⟨settled.requested, settled.booked⟩
  readDone := by
    intro session ec chunk isText stillOpen ws _ settled done held
    exact (readHandler_keeps parts_settled
      (fun isText session => Booked.settled (onMessage_booked isText session))
      (fun session => Booked.settled (doRead_booked session)) isText
      (WsStream.readDone?_closed done)).carried held
        ⟨settled.requested, settled.booked⟩
  writeDone _ settled _ held := (writeHandler_settled _ _).carried held
    ⟨settled.requested, settled.booked⟩
  pingDone settled _ := ⟨settled.requested, settled.booked⟩
  closeDone settled _ := ⟨settled.requested, settled.booked⟩
  timerExpired settled _ := ⟨settled.requested, settled.booked⟩
  timerDone settled _ held :=
    (Booked.settled (timer_booked.timerHandler _ _)).carried held
      ⟨settled.requested, settled.booked⟩
  callbackBegins settled _ _ := ⟨settled.requested, settled.booked⟩
  callbackReturns settled _ := ⟨settled.requested, settled.booked⟩
  streamEnds settled _ := ⟨settled.requested, settled.booked⟩
  writeBlock settled := ⟨settled.requested, settled.booked⟩
  erase _ settled _ _ := by
    unfold destroyed
    split <;> exact ⟨settled.requested, settled.booked⟩

end

/-! ## Where a close takes effect -/

/-- The event brings a close to an open stream: a close job, or the close
that follows a failed read or ping. -/
def Closes (session : WsSession) : SessionEvent → Prop
  | .runJob _ => session.ws.isOpen = true ∧
      ∃ reason, session.strand.head? = some (.close reason)
  | .readDone (some (.other _)) _ _ stillOpen =>
      session.ws.failed stillOpen = .opened
  | .pingDone (some ec) stillOpen =>
      ec ≠ .operationAborted ∧ session.ws.failed stillOpen = .opened
  | _ => False

section

variable {session next : WsSession} {event : SessionEvent}

theorem core_reason {before after : WsSession}
    (same : after.core = before.core) :
    after.closeReason = before.closeReason := by
  have reason : after.core.closeReason = before.core.closeReason :=
    congrArg WsSession.closeReason same
  exact reason

theorem runHandler_reason {host : Host} {body : SessionCode Unit}
    (same : KeepsAt SameReason body session) :
    (runHandler host body session).closeReason = session.closeReason :=
  (core_reason (runHandler_core host body session)).trans same

theorem step_readDone_reason {ec : Option ErrorCode} {chunk : List UInt8}
    {isText stillOpen : Bool} (sound : session.LocksSound)
    (stepped : session.step (.readDone ec chunk isText stillOpen) = some next)
    (without : ¬session.Closes (.readDone ec chunk isText stillOpen)) :
    next.closeReason = session.closeReason := by
  obtain ⟨-, ws, done, rfl⟩ := complete_eq_some stepped
  have held : Held { session.receive ec chunk isText with ws := ws } :=
    sound.held_of_taken rfl (by
      have oneLess := WsStream.readDone?_outstanding done
      simp only [holders, receive]
      omega)
  refine runHandler_reason ?_
  cases ec with
  | none => exact readDone_sameReason isText _
  | some ec =>
      cases ec with
      | operationAborted => rfl
      | closed => rfl
      | other value =>
          obtain ⟨-, wsAfter⟩ := WsStream.readDone?_eq_some done
          have ended : ws.isOpen = false := by
            rw [isOpen_eq_false_iff, wsAfter]
            exact without
          have aborted : some (ErrorCode.other value) ≠
            some .operationAborted := by simp
          exact (readHandler_ended isText held.pos aborted ended).2.2

/-- A write that fails leaves a stream that is not open. -/
theorem step_writeDone_reason {ec : Option ErrorCode}
    (sound : session.LocksSound)
    (stepped : session.step (.writeDone ec) = some next) :
    next.closeReason = session.closeReason := by
  obtain ⟨-, ws, done, rfl⟩ := complete_eq_some stepped
  have held : Held { session with ws := ws } :=
    sound.held_of_taken rfl (by
      have oneLess := WsStream.writeDone?_outstanding done
      simp only [holders]
      omega)
  refine runHandler_reason ?_
  obtain ⟨-, wsAfter⟩ := WsStream.writeDone?_eq_some done
  have failed : ∀ ec, ws.isOpen = false → KeepsAt SameReason (do
      WsSession.onError "write" ec
      WsSession.close (.ofText "write error"))
      { session with ws := ws } := by
    intro ec ended
    rw [KeepsAt, closeOnError_ended "write" ec _ held.pos ended]
    exact rfl
  cases ec with
  | none => exact writes_sameReason.writeDone _
  | some ec =>
      have ended : ws.isOpen = false := by
        rw [wsAfter]
        simp [WsStream.isOpen, StreamPhase.afterEnd_ne_opened]
      cases ec with
      | operationAborted => rfl
      | closed => exact failed _ ended
      | other value => exact failed _ ended

theorem step_pingDone_reason {ec : Option ErrorCode} {stillOpen : Bool}
    (sound : session.LocksSound)
    (stepped : session.step (.pingDone ec stillOpen) = some next)
    (without : ¬session.Closes (.pingDone ec stillOpen)) :
    next.closeReason = session.closeReason := by
  obtain ⟨-, ws, done, rfl⟩ := complete_eq_some stepped
  have held : Held { session with ws := ws } :=
    sound.held_of_taken rfl (by
      have oneLess := WsStream.pingDone?_outstanding done
      simp only [holders]
      omega)
  refine runHandler_reason ?_
  cases ec with
  | none => rfl
  | some ec =>
      by_cases aborted : ec = .operationAborted
      · rw [aborted]
        rfl
      · obtain ⟨-, wsAfter⟩ := WsStream.pingDone?_eq_some done
        have ended : ws.isOpen = false := by
          rw [isOpen_eq_false_iff, wsAfter]
          exact fun opened => without ⟨aborted, opened⟩
        exact (pingHandler_ended held.pos aborted ended).2.2

theorem step_runJob_reason {host : Host}
    (stepped : session.step (.runJob host) = some next)
    (without : ¬session.Closes (.runJob host)) :
    next.closeReason = session.closeReason := by
  obtain ⟨-, job, jobs, queued, -, rfl⟩ := step_runJob stepped
  refine runHandler_reason ?_
  cases job with
  | send isText data => exact writes_sameReason.sendJob isText data _
  | close reason =>
      have run := closeJob_run reason { session with strand := jobs }
      have notOpen : ¬session.ws.isOpen = true := fun isOpen =>
        without ⟨isOpen, reason, by rw [queued]; rfl⟩
      rw [if_pos notOpen] at run
      exact .of_ok run rfl

/-- Where no close takes effect, the session gets no reason to close. -/
theorem step_reason (sound : session.LocksSound)
    (stepped : session.step event = some next)
    (without : ¬session.Closes event) :
    next.closeReason = session.closeReason := by
  cases event with
  | startReturns =>
      obtain ⟨-, rfl⟩ := step_startReturns stepped
      rfl
  | acceptDone ec =>
      obtain ⟨-, ws, -, rfl⟩ := complete_eq_some stepped
      exact runHandler_reason (acceptHandler_sameReason ec _)
  | readDone ec chunk isText stillOpen =>
      exact step_readDone_reason sound stepped without
  | writeDone ec => exact step_writeDone_reason sound stepped
  | pingDone ec stillOpen => exact step_pingDone_reason sound stepped without
  | closeDone ec stillOpen =>
      obtain ⟨-, ws, -, rfl⟩ := complete_eq_some stepped
      exact runHandler_reason (closeHandler_sameReason ec _)
  | controlFrame =>
      obtain ⟨-, -, rfl⟩ := step_controlFrame stepped
      exact (core_reason (runBody_core _ _ _)).trans
        (activity_sameReason session)
  | timerExpired =>
      obtain ⟨timer, -, rfl⟩ := step_timerExpired stepped
      rfl
  | timerDone ec =>
      obtain ⟨-, timer, -, rfl⟩ := step_timerDone stepped
      exact runHandler_reason (timer_sameReason.timerHandler ec _)
  | runJob host => exact step_runJob_reason stepped without
  | release host =>
      obtain ⟨-, rfl⟩ := step_release stepped
      rfl
  | callbackBegins =>
      obtain ⟨-, callback, callbacks, -, rfl⟩ := step_callbackBegins stepped
      rfl
  | callbackReturns =>
      obtain ⟨callback, -, rfl⟩ := step_callbackReturns stepped
      rfl
  | dispatch job =>
      obtain ⟨-, rfl⟩ := step_dispatch stepped
      exact core_reason (dispatch_core session job)
  | streamEnds =>
      obtain ⟨ws, -, rfl⟩ := step_streamEnds stepped
      rfl
  | writeBlock blocked =>
      cases stepped
      rfl
  | erase =>
      obtain ⟨-, -, rfl⟩ := step_erase stepped
      unfold destroyed
      split <;> rfl

theorem closeJob_asks (reason : CloseReason)
    (isOpen : session.ws.isOpen = true) :
    (after (closeJob reason) session).closeReason.isSome = true := by
  have run := closeJob_run reason session
  rw [if_neg (not_not_intro isOpen)] at run
  by_cases requested : session.closeReason.isSome = true
  · exact (queue_codeKept.closeJob reason session).closing requested
  rw [if_neg requested] at run
  by_cases empty : session.writeList.isEmpty = true
  · rw [if_pos empty] at run
    rw [after_congr run]
    exact (queue_codeKept.doWrite
      { session with closeReason := some reason }).closing rfl
  · rw [if_neg empty] at run
    rw [after_eq_of_ok run]
    rfl

/-- `close` returns, and an open session knows then why it closes. -/
theorem close_asks (reason : CloseReason)
    (held : 0 < session.locker.lockCount)
    (isOpen : session.ws.isOpen = true) :
    ∃ next, close reason session = .ok () next ∧
      next.closeReason.isSome = true := by
  have asks : (after (closeJob reason)
      session.locked).closeReason.isSome = true :=
    closeJob_asks reason isOpen
  have acquired := makeLock_run held
  unfold after at asks
  simp only [close, catching, withLock, acquired]
  cases outcome : closeJob reason session.locked with
  | ok result next =>
      rw [outcome] at asks
      exact ⟨_, rfl, asks⟩
  | error error next =>
      rw [outcome] at asks
      exact ⟨_, rfl, asks⟩

theorem readHandler_asks (isText : Bool) (value : Nat)
    (held : 0 < session.locker.lockCount)
    (isOpen : session.ws.isOpen = true) :
    (after (readHandler isText (some (.other value)))
      session).closeReason.isSome = true := by
  obtain ⟨active, isActive⟩ : ∃ active, active =
    ({ session with waitOnPong := false } : WsSession).restarted := ⟨_, rfl⟩
  have runs : activity session = .ok () active :=
    isActive ▸ activity_run held
  have stillOpen : active.ws.isOpen = true := by
    rw [isActive, restarted_ws]
    exact isOpen
  have stillHeld : 0 < active.locker.lockCount := by
    have grows := restarted_lockCount_le
      { session with waitOnPong := false }
    rw [← isActive] at grows
    exact Nat.lt_of_lt_of_le held grows
  obtain ⟨next, closes, asked⟩ := @close_asks
    (active.report (.systemError (.other value) "websocket session read"))
    (.ofText "read error") stillHeld stillOpen
  have run : readHandler isText (some (.other value)) session =
      doRead next := by
    rw [readHandler, bind_run_ok runs]
    simp only [onError, onException, modify_bind_run, get_bind_run]
    rw [if_pos (by exact stillOpen)]
    exact bind_run_ok closes
  rw [after_congr run]
  exact (doRead_codeKept next).closing asked

theorem pingHandler_asks {ec : ErrorCode} (heeded : ec ≠ .operationAborted)
    (held : 0 < session.locker.lockCount)
    (isOpen : session.ws.isOpen = true) :
    (after (pingHandler (some ec)) session).closeReason.isSome = true := by
  obtain ⟨next, closes, asked⟩ := @close_asks
    (session.report (.systemError ec "websocket session ping"))
    (.ofText "ping error") held isOpen
  have run : pingHandler (some ec) session =
      close (.ofText "ping error")
        (session.report (.systemError ec "websocket session ping")) := by
    cases ec with
    | operationAborted => exact absurd rfl heeded
    | closed => rfl
    | other value => rfl
  rw [after_eq_of_ok (run.trans closes)]
  exact asked

/-- A close that takes effect gives the session its reason to close, and
leaves the books as they were. -/
theorem step_closes (sound : session.LocksSound)
    (stepped : session.step event = some next)
    (closes : session.Closes event) : next.Settled session.books := by
  cases event with
  | runJob host =>
      obtain ⟨isOpen, reason, isHead⟩ := closes
      obtain ⟨-, job, jobs, queued, -, isNext⟩ := step_runJob stepped
      rw [queued] at isHead
      cases isHead
      have held : Held { session with strand := jobs } :=
        sound.held_of_taken rfl (by
          simp only [holders, queued, List.length_cons]
          omega)
      have core := runHandler_core host (WsSession.runJob (.close reason))
        { session with strand := jobs }
      rw [← isNext] at core
      exact settled_ofCore _ _ core ⟨closeJob_asks reason isOpen,
        (closeJob_booked reason _).carried held rfl⟩
  | readDone ec chunk isText stillOpen =>
      rcases ec with _ | (_ | _ | value)
      · exact closes.elim
      · exact closes.elim
      · exact closes.elim
      · obtain ⟨-, ws, done, isNext⟩ := complete_eq_some stepped
        have held : Held { session.receive (some (.other value)) chunk
            isText with ws := ws } :=
          sound.held_of_taken rfl (by
            have oneLess := WsStream.readDone?_outstanding done
            simp only [holders, receive]
            omega)
        have isOpen : ws.isOpen = true := by
          rw [WsStream.isOpen, (WsStream.readDone?_eq_some done).2]
          exact decide_eq_true closes
        have core := runHandler_core .ioThread
          (readHandler isText (some (.other value)))
          { session.receive (some (.other value)) chunk isText with
            ws := ws }
        rw [← isNext] at core
        have closed := WsStream.readDone?_closed done
        exact settled_ofCore _ _ core
          ⟨readHandler_asks isText value held.pos isOpen,
            (readHandler_keeps parts_booked onMessage_booked doRead_booked
              isText closed).carried held rfl⟩
  | pingDone ec stillOpen =>
      rcases ec with _ | ec
      · exact closes.elim
      · obtain ⟨heeded, opened⟩ := closes
        obtain ⟨-, ws, done, isNext⟩ := complete_eq_some stepped
        have held : Held { session with ws := ws } :=
          sound.held_of_taken rfl (by
            have oneLess := WsStream.pingDone?_outstanding done
            simp only [holders]
            omega)
        have isOpen : ws.isOpen = true := by
          rw [WsStream.isOpen, (WsStream.pingDone?_eq_some done).2]
          exact decide_eq_true opened
        have core := runHandler_core .ioThread (pingHandler (some ec))
          { session with ws := ws }
        rw [← isNext] at core
        exact settled_ofCore _ _ core
          ⟨pingHandler_asks heeded held.pos isOpen,
            (parts_booked.pingHandler (some ec) _).carried held rfl⟩
  | _ => exact closes.elim

/-! ## Every run -/

/-- A close that takes effect finds at most one message in the queue. -/
def FewQueued (session : WsSession) (event : SessionEvent) : Prop :=
  session.closeReason = none → session.Closes event →
    session.writeList.items.length ≤ 1

/-- Once the session knows why it closes, all it accepted was written. -/
def Delivered (session : WsSession) : Prop :=
  session.closeReason.isSome = true →
    session.written = session.history.accepted

theorem Closes.isOpen (closes : session.Closes event) :
    session.ws.isOpen = true := by
  have opened : ∀ stillOpen, session.ws.failed stillOpen = .opened →
      session.ws.phase = .opened := by
    intro stillOpen isOpen
    rcases WsStream.failed_narrows session.ws stillOpen with same | ended
    · exact same ▸ isOpen
    · rw [ended] at isOpen
      exact absurd isOpen (StreamPhase.afterEnd_ne_opened _)
  cases event with
  | runJob host => exact closes.1
  | readDone ec chunk isText stillOpen =>
      match ec, closes with
      | some (.other value), isOpen =>
          exact decide_eq_true (opened stillOpen isOpen)
  | pingDone ec stillOpen =>
      match ec, closes with
      | some ec, ⟨_, isOpen⟩ => exact decide_eq_true (opened stillOpen isOpen)
  | _ => exact closes.elim

/-- In an open session nothing is left to write just when the queue holds no
more than the message being written. -/
theorem WritingSound.all_written_iff (sound : session.WritingSound)
    (isOpen : session.ws.isOpen = true)
    (notClosing : session.closing = false) :
    session.written = session.history.accepted ↔
      session.writeList.items.length ≤ 1 := by
  have single := sound.single
  by_cases writing : session.ws.writes = 1
  · obtain ⟨nonempty, accepted⟩ := sound.busy writing
    obtain ⟨entry, entries, queue⟩ := List.exists_cons_of_ne_nil nonempty
    rw [accepted, queue]
    simp
  · obtain ⟨empty, accepted⟩ := sound.rest isOpen notClosing (by omega)
    rw [accepted, empty]
    simp

theorem step_delivered {last : WsSession}
    (reached : sessionMachine.Reachable session)
    (stepped : session.step event = some last) :
    last.Delivered ↔ session.Delivered ∧ session.FewQueued event := by
  have sound := locksSound_of_reachable reached
  have writing := writingSound_of_reachable reached
  by_cases requested : session.closeReason.isSome = true
  · have settled := settled_preserved.step sound sound
      ⟨requested, (rfl : session.Booked session.books)⟩ stepped
    obtain ⟨written, accepted⟩ := Books.mk.inj settled.booked
    constructor
    · intro delivered
      refine ⟨fun _ => ?_, fun isNone => ?_⟩
      · rw [← written, ← accepted]
        exact delivered settled.requested
      · rw [isNone] at requested
        cases requested
    · rintro ⟨delivered, -⟩ _
      rw [written, accepted]
      exact delivered requested
  have isNone : session.closeReason = none := by simpa using requested
  have before : session.Delivered := fun asked => absurd asked requested
  by_cases closes : session.Closes event
  · have settled := step_closes sound stepped closes
    obtain ⟨written, accepted⟩ := Books.mk.inj settled.booked
    have few := writing.all_written_iff closes.isOpen
      (writing.notClosing requested)
    constructor
    · intro delivered
      refine ⟨before, fun _ _ => few.mp ?_⟩
      rw [← written, ← accepted]
      exact delivered settled.requested
    · rintro ⟨-, queued⟩ _
      rw [written, accepted]
      exact few.mpr (queued isNone closes)
  · have reason := step_reason sound stepped closes
    constructor
    · exact fun _ => ⟨before, fun _ isClose => absurd isClose closes⟩
    · intro _ asked
      rw [reason] at asked
      exact absurd asked requested

/-- In a run that started `async_close`, every message accepted before was
passed to `async_write` first, if and only if the close found at most one
message in the queue. -/
theorem delivered_iff {role : Role} {events : List SessionEvent}
    (ran : sessionMachine.run (launched role) events = some session)
    (closing : session.closing = true) :
    session.written = session.history.accepted ↔
      sessionMachine.Admitted FewQueued (launched role) events := by
  have start : sessionMachine.Reachable (launched role) :=
    .initial ⟨role, rfl⟩
  have reached := start.run (Machine.admitted_true _ _) ran
  have requested := (writingSound_of_reachable reached).reason closing
  have exactly := Machine.run_iff_admitted Delivered
    (fun before event after => step_delivered) start ran
  have initially : (launched role).Delivered := by
    cases role <;> exact fun asked => nomatch asked
  constructor
  · exact fun delivered => (exactly.mp fun _ => delivered).2
  · exact fun admitted => exactly.mpr ⟨initially, admitted⟩ requested

/-- The service calls `send` or `close`, and the lambda runs. -/
def handed (job : StrandJob) : List SessionEvent :=
  [.dispatch job, .runJob .ioThread, .release .ioThread]

/-- Messages and a close, before the first write completes. -/
def sendsThenCloses (messages : List (List UInt8)) : List SessionEvent :=
  [.startReturns] ++ messages.flatMap (fun data => handed (.send true data)) ++
    handed (.close (.ofText "bye")) ++ [.writeDone none]

/-- The second of two messages is not written. -/
theorem not_delivered_after_two :
    ∃ session, sessionMachine.run (launched .client)
        (sendsThenCloses [[1], [2]]) = some session ∧
      session.closing = true ∧
      session.history.accepted = [⟨true, some [1]⟩, ⟨true, some [2]⟩] ∧
      session.written = [⟨true, some [1]⟩] ∧
      session.written ≠ session.history.accepted :=
  ⟨_, rfl, rfl, rfl, rfl, by decide⟩

/-- A single message is written. -/
theorem delivered_iff_one :
    ∃ session, sessionMachine.run (launched .client)
        (sendsThenCloses [[1]]) = some session ∧
      session.history.accepted = [⟨true, some [1]⟩] ∧
      sessionMachine.Admitted FewQueued (launched .client)
        (sendsThenCloses [[1]]) := by
  have ran : sessionMachine.run (launched .client) (sendsThenCloses [[1]]) =
    some _ := rfl
  exact ⟨_, ran, rfl, (delivered_iff ran rfl).mp rfl⟩

end

end Webservice.WsSession
