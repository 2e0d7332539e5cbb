import Mathlib.Logic.Relation
import Webservice.Session.Invariant

/-!
# What a session starts

A session starts operations only as long as its stream has not ended.  The
code is taken apart into single changes for this, so that nothing is started
behind a change that ends the stream either.
-/

namespace Webservice.WsSession

open Effects

/-- Operations whose handler has not run. -/
def operations (session : WsSession) : Nat :=
  session.ws.outstanding + session.timer.handlers

/-- After the handshake a phase may only end. -/
def PhaseKept (before after : WsSession) : Prop :=
  before.ws.phase ≠ .handshake →
    after.ws.phase = before.ws.phase ∨ after.ws.phase = .ended

/-- One change of a session: it starts nothing, and adds no operation once the
stream has ended, or it starts one operation before. -/
inductive Change (before after : WsSession) : Prop where
  | quiet :
      after.history.started = before.history.started →
      PhaseKept before after →
      (before.ws.phase = .ended → after.operations ≤ before.operations) →
      Change before after
  | starts (op : StreamOp) :
      before.ws.phase ≠ .ended →
      after.history.started = before.history.started ++ [op] →
      PhaseKept before after →
      Change before after

/-- A sequence of changes. -/
def StartsInTime (before after : WsSession) : Prop :=
  Relation.ReflTransGen Change before after

instance : IsPreorder WsSession StartsInTime where
  refl _ := .refl
  trans _ _ _ first second := Relation.ReflTransGen.trans first second

def SamePhase (before after : WsSession) : Prop :=
  after.ws.phase = before.ws.phase

instance : IsPreorder WsSession SamePhase where
  refl _ := rfl
  trans _ _ _ first second := Eq.trans second first

/-! ## After the end -/

theorem Change.phaseKept {before after : WsSession}
    (change : Change before after) : PhaseKept before after := by
  cases change with
  | quiet _ phase _ => exact phase
  | starts _ _ _ phase => exact phase

/-- An ended stream stays so, and nothing more is started. -/
theorem StartsInTime.ended {before after : WsSession}
    (inTime : StartsInTime before after) (ended : before.ws.phase = .ended) :
    after.ws.phase = .ended ∧
      after.history.started = before.history.started ∧
      after.operations ≤ before.operations := by
  induction inTime with
  | refl => exact ⟨ended, rfl, Nat.le_refl _⟩
  | tail _ change induction =>
      obtain ⟨stillEnded, started, fewer⟩ := induction
      cases change with
      | quiet sameStarted phase noMore =>
          refine ⟨?_, sameStarted.trans started,
            Nat.le_trans (noMore stillEnded) fewer⟩
          have accepted := phase (by rw [stillEnded]; decide)
          rw [stillEnded, or_self] at accepted
          exact accepted
      | starts op alive _ _ => exact absurd stillEnded alive

/-- A stream that was open and is not open any more has ended. -/
theorem StartsInTime.phase {before after : WsSession}
    (inTime : StartsInTime before after)
    (accepted : before.ws.phase ≠ .handshake) :
    after.ws.phase = before.ws.phase ∨ after.ws.phase = .ended := by
  induction inTime with
  | refl => exact .inl rfl
  | tail _ change induction =>
      rcases induction with same | ended
      · rw [← same]
        apply change.phaseKept
        rw [same]
        exact accepted
      · have later := change.phaseKept (by rw [ended]; decide)
        rw [ended, or_self] at later
        exact .inr later

/-! ## The parts of the code -/

section

variable {session : WsSession}

theorem Change.inTime {before after : WsSession}
    (change : Change before after) : StartsInTime before after :=
  .single change

/-- A change of anything but the stream, the timer and what was started. -/
theorem inTime_of_same {before after : WsSession}
    (started : after.history.started = before.history.started)
    (ws : after.ws = before.ws)
    (timer : after.timer.handlers = before.timer.handlers) :
    StartsInTime before after := by
  apply Change.inTime
  apply Change.quiet started
  · intro _
    rw [ws]
    exact .inl rfl
  · intro _
    simp [operations, ws, timer]

theorem lockerSet_inTime (session : WsSession) (locker : AsyncLocker) :
    StartsInTime session { session with locker := locker } :=
  inTime_of_same rfl rfl rfl

theorem startOp_inTime {op : WsSession → StreamOp}
    {begins : WsSession → WsSession} (alive : session.ws.phase ≠ .ended)
    (started : ∀ session : WsSession,
      (begins session).history.started = session.history.started)
    (phase : ∀ session : WsSession, PhaseKept session (begins session)) :
    KeepsAt StartsInTime (startOp op begins) session := by
  by_cases drained : session.locker.lockCount = 0
  · have threw : startOp op begins session = .error
        (.runtimeError "async call after shutdown") session := by
      rw [startOp, bind_run, makeLock_run_drained drained]
    exact .of_error threw .refl
  · apply KeepsAt.of_ok (startOp_run (Nat.pos_of_ne_zero drained) op begins)
    apply Change.inTime
    apply Change.starts (op session.locked) alive
    · exact congrArg (· ++ [op session.locked]) (started session.locked)
    · exact phase session.locked

theorem startOp_samePhase {op : WsSession → StreamOp}
    {begins : WsSession → WsSession}
    (phase : ∀ session : WsSession, SamePhase session (begins session)) :
    Keeps SamePhase (startOp op begins) :=
  .bind (makeLock_keeps fun _ _ => rfl) fun _ => .modify phase

theorem ne_ended_of_isOpen (isOpen : session.ws.isOpen = true) :
    session.ws.phase ≠ .ended := by
  rw [WsStream.isOpen, decide_eq_true_eq] at isOpen
  rw [isOpen]
  decide

theorem cancelTimer_inTime : Keeps StartsInTime cancelTimer :=
  .modify fun session => inTime_of_same rfl rfl session.timer.cancel_handlers

theorem doTimer_inTime (alive : session.ws.phase ≠ .ended) :
    KeepsAt StartsInTime doTimer session :=
  startOp_inTime alive (fun _ => rfl) fun _ _ => .inl rfl

theorem restartTimer_inTime : Keeps StartsInTime restartTimer := by
  have cancels : Keeps StartsInTime expiresAfter :=
    .bind .get fun _ => .bind cancelTimer_inTime fun _ => .pure _
  refine .bind cancels fun _ session => .get_bind (.ite ?_ fun _ => .pure _ _)
  rintro ⟨-, isOpen⟩
  exact doTimer_inTime (ne_ended_of_isOpen isOpen)

theorem restartTimer_samePhase : Keeps SamePhase restartTimer := by
  have cancels : Keeps SamePhase expiresAfter :=
    .bind .get fun _ => .bind (.modify fun _ => rfl) fun _ => .pure _
  refine .bind cancels fun _ => .bind .get fun _ =>
    .ite (fun _ => ?_) fun _ => .pure _
  exact startOp_samePhase fun _ => rfl

/-- A read is only started by `do_read`, which finds the stream open. -/
theorem doRead_inTime : Keeps StartsInTime doRead := by
  intro session
  refine .get_bind (.ite (fun isOpen => ?_) fun _ => .pure _ _)
  apply KeepsAt.bind_of (restartTimer_inTime session)
    (restartTimer_samePhase session)
  intro _ next samePhase
  refine startOp_inTime ?_ (fun _ => rfl) fun _ _ => .inl rfl
  rw [samePhase]
  exact ne_ended_of_isOpen isOpen

theorem onException_inTime (error : Exception) :
    Keeps StartsInTime (onException error) :=
  .modify fun _ => inTime_of_same rfl rfl rfl

theorem asyncClose_phase (ws : WsStream) :
    ws.asyncClose.phase = ws.phase ∨
      ws.asyncClose.phase = ws.phase.afterEnd := by
  rw [WsStream.asyncClose]
  split
  · exact .inl rfl
  · exact .inr rfl

theorem phaseKept_of_afterEnd {before after : WsSession}
    (phase : after.ws.phase = before.ws.phase ∨
      after.ws.phase = before.ws.phase.afterEnd) : PhaseKept before after := by
  intro accepted
  rcases phase with same | ended
  · exact .inl same
  · cases opened : before.ws.phase with
    | handshake => exact absurd opened accepted
    | opened =>
        rw [opened] at ended
        exact .inr ended
    | ended =>
        rw [opened] at ended
        exact .inr ended

theorem doWrite_inTime (alive : session.ws.phase ≠ .ended) :
    KeepsAt StartsInTime doWrite session := by
  refine .get_bind ?_
  cases session.closeReason with
  | some reason =>
      refine startOp_inTime alive (fun _ => rfl) fun session => ?_
      exact phaseKept_of_afterEnd (asyncClose_phase session.ws)
  | none =>
      cases session.writeList.front? with
      | none => exact .throw _ _
      | some entry =>
          have kindSet : Change session
              { session with
                ws := { session.ws with text := entry.isText } } :=
            .quiet rfl (fun _ => .inl rfl) fun _ => Nat.le_refl _
          apply KeepsAt.modify_bind kindSet.inTime
          exact startOp_inTime alive (fun _ => rfl) fun _ _ => .inl rfl

theorem sendJob_inTime (isText : Bool) (data : List UInt8) :
    Keeps StartsInTime (sendJob isText data) := by
  intro session
  refine .get_bind (.ite (fun _ => cancelTimer_inTime session)
    fun isOpen => .ite (fun _ => .pure _ _) fun _ =>
    .ite (fun _ => .throw _ _) fun _ => ?_)
  apply KeepsAt.modify_bind (inTime_of_same rfl rfl rfl)
  refine .ite (fun _ => doWrite_inTime ?_) fun _ => .pure _ _
  exact ne_ended_of_isOpen (not_not.mp isOpen)

theorem closeJob_inTime (reason : CloseReason) :
    Keeps StartsInTime (closeJob reason) := by
  intro session
  refine .get_bind (.ite (fun _ => cancelTimer_inTime session)
    fun isOpen => .ite (fun _ => .pure _ _) fun _ => ?_)
  apply KeepsAt.modify_bind (inTime_of_same rfl rfl rfl)
  refine .ite (fun _ => doWrite_inTime ?_) fun _ => .pure _ _
  exact ne_ended_of_isOpen (not_not.mp isOpen)

theorem runJob_inTime (job : StrandJob) :
    Keeps StartsInTime (runJob job) := by
  cases job with
  | send isText data => exact sendJob_inTime isText data
  | close reason => exact closeJob_inTime reason

theorem close_inTime (reason : CloseReason) :
    Keeps StartsInTime (close reason) :=
  catching_keeps (withLock_keeps lockerSet_inTime (closeJob_inTime reason))
    onException_inTime

theorem parts_inTime : KeptByParts StartsInTime where
  cancelTimer session _ := cancelTimer_inTime session
  restartTimer := restartTimer_inTime
  pongSeen := .modify fun _ => inTime_of_same rfl rfl rfl
  onException := onException_inTime
  close := close_inTime

theorem deferCallback_inTime {callback : WsSession → Callback}
    {captures : WsSession → WsSession}
    (kept : ∀ session, StartsInTime session
      { captures session with
        handlerStrand := session.handlerStrand ++ [callback session] }) :
    Keeps StartsInTime (deferCallback callback captures) :=
  catching_keeps (.bind (makeLock_keeps lockerSet_inTime) fun _ => .modify kept)
    onException_inTime

/-! ## Handlers -/

theorem acceptHandler_inTime (ec : Option ErrorCode) :
    Keeps StartsInTime (acceptHandler ec) := by
  have isOpenSet : Keeps StartsInTime
      (modify fun session => { session with isOpen := true } :
        SessionCode Unit) :=
    .modify fun _ => inTime_of_same rfl rfl rfl
  have onOpenKept : Keeps StartsInTime onOpen :=
    deferCallback_inTime fun _ => inTime_of_same rfl rfl rfl
  exact acceptHandler_keeps isOpenSet onOpenKept doRead_inTime
    onException_inTime ec

theorem readHandler_inTime (isText : Bool) {ec : Option ErrorCode}
    (closed : ec = some .closed → session.ws.isOpen = false) :
    KeepsAt StartsInTime (readHandler isText ec) session :=
  readHandler_keeps parts_inTime
    (fun _ => deferCallback_inTime fun _ => inTime_of_same rfl rfl rfl)
    doRead_inTime isText closed

theorem writeHandler_inTime (ec : Option ErrorCode) :
    Keeps StartsInTime (writeHandler ec) := by
  have failed : ∀ ec, Keeps StartsInTime (do
      onError "write" ec
      close (.ofText "write error")) := fun ec =>
    .bind (onException_inTime _) fun _ => close_inTime _
  cases ec with
  | none =>
      intro session
      apply KeepsAt.modify_bind (inTime_of_same rfl rfl rfl)
      refine .get_bind (.ite (fun more => doWrite_inTime ?_) fun _ => .pure _ _)
      exact ne_ended_of_isOpen more.1
  | some ec =>
      cases ec with
      | operationAborted => exact .pure _
      | closed => exact failed _
      | other value => exact failed _

theorem sendPing_samePhase : Keeps SamePhase sendPing := by
  refine .bind .get fun _ => .bind (.modify fun _ => rfl) fun _ => ?_
  exact startOp_samePhase fun _ => rfl

theorem sendPing_inTime (alive : session.ws.phase ≠ .ended) :
    KeepsAt StartsInTime sendPing session := by
  apply KeepsAt.get_bind
  apply KeepsAt.modify_bind (inTime_of_same rfl rfl rfl)
  exact startOp_inTime alive (fun _ => rfl) fun _ _ => .inl rfl

theorem closeSocket_inTime : Keeps StartsInTime closeSocket := by
  refine .bind (.modify fun session => ?_) fun _ => cancelTimer_inTime
  have closed : Change session
      { session with ws := session.ws.closeSocket } :=
    .quiet rfl (fun _ => .inl rfl) fun _ => Nat.le_refl _
  exact closed.inTime

/-- The handler of the timer finds the stream open before it sends a ping,
and nothing it does until it waits again ends the stream. -/
theorem timerHandler_inTime (ec : Option ErrorCode) :
    Keeps StartsInTime (timerHandler ec) := by
  intro session
  refine .get_bind (.ite (fun _ => .pure _ _) fun _ => .ite
    (fun _ => .ite (fun isOpen => ?_) fun _ => .pure _ _) fun _ => ?_)
  · have alive := ne_ended_of_isOpen isOpen
    apply KeepsAt.modify_bind (inTime_of_same rfl rfl rfl)
    apply KeepsAt.bind_of (restartTimer_inTime _) (restartTimer_samePhase _)
    intro _ restarted restartedPhase
    have restartedAlive : restarted.ws.phase ≠ .ended := by
      rw [restartedPhase]
      exact alive
    apply KeepsAt.bind_of (sendPing_inTime restartedAlive)
      (sendPing_samePhase _)
    intro _ pinged pingedPhase
    apply doTimer_inTime
    rw [pingedPhase]
    exact restartedAlive
  · cases ec with
    | none => exact closeSocket_inTime session
    | some ec =>
        exact .bind (onException_inTime _ session) fun _ => closeSocket_inTime

theorem dispatch_inTime (job : StrandJob) :
    Keeps StartsInTime (dispatch job) :=
  catching_keeps (.bind (makeLock_keeps lockerSet_inTime) fun _ =>
    .modify fun _ => inTime_of_same rfl rfl rfl) onException_inTime

/-! ## Steps -/

theorem runBody_inTime (host : Host) {body : SessionCode Unit}
    (kept : KeepsAt StartsInTime body session) :
    StartsInTime session (runBody host body session) :=
  runBody_keeps host kept (fun _ _ => inTime_of_same rfl rfl rfl)
    fun _ _ => inTime_of_same rfl rfl rfl

theorem runHandler_inTime (host : Host) {body : SessionCode Unit}
    (kept : KeepsAt StartsInTime body session) :
    StartsInTime session (runHandler host body session) := by
  have hosted : StartsInTime (runBody host body session)
      (runHandler host body session) := inTime_of_same rfl rfl rfl
  exact trans_of StartsInTime (runBody_inTime host kept) hosted

/-- A completion takes an operation away. -/
theorem taken_inTime {ws : WsStream}
    (narrows : WsStream.Narrows session.ws ws)
    (fewer : ws.outstanding ≤ session.ws.outstanding) :
    StartsInTime session { session with ws := ws } := by
  apply Change.inTime
  apply Change.quiet
  · rfl
  · exact phaseKept_of_afterEnd narrows.phase
  · intro _
    exact Nat.add_le_add_right fewer _

/-- A step is a sequence of changes, and it starts nothing behind one that
ends the stream. -/
theorem step_inTime {next : WsSession} {event : SessionEvent}
    (handshake : session.HandshakeSound)
    (stepped : session.step event = some next) :
    StartsInTime session next := by
  cases event with
  | startReturns =>
      obtain ⟨-, rfl⟩ := step_startReturns stepped
      exact inTime_of_same rfl rfl rfl
  | acceptDone ec =>
      obtain ⟨-, ws, done, rfl⟩ := complete_eq_some stepped
      obtain ⟨accepting, -⟩ := WsStream.acceptDone?_eq_some done
      have phase := handshake.phase.mpr accepting
      have taken : Change session { session with ws := ws } := by
        apply Change.quiet
        · rfl
        · exact fun accepted => absurd phase accepted
        · rw [phase]
          simp
      exact trans_of StartsInTime taken.inTime
        (runHandler_inTime _ (acceptHandler_inTime ec _))
  | readDone ec chunk isText stillOpen =>
      obtain ⟨-, ws, done, rfl⟩ := complete_eq_some stepped
      have oneLess := WsStream.readDone?_outstanding done
      have taken : StartsInTime (session.receive ec chunk isText)
          { session.receive ec chunk isText with ws := ws } :=
        taken_inTime (WsStream.readDone?_narrows done)
          (Nat.le.intro oneLess.symm)
      have received : StartsInTime session
          (session.receive ec chunk isText) := inTime_of_same rfl rfl rfl
      exact trans_of StartsInTime (trans_of StartsInTime received taken)
        (runHandler_inTime _
          (readHandler_inTime isText (WsStream.readDone?_closed done)))
  | writeDone ec =>
      obtain ⟨-, ws, done, rfl⟩ := complete_eq_some stepped
      have oneLess := WsStream.writeDone?_outstanding done
      have taken := taken_inTime (WsStream.writeDone?_narrows done)
        (Nat.le.intro oneLess.symm)
      exact trans_of StartsInTime taken
        (runHandler_inTime _ (writeHandler_inTime ec _))
  | pingDone ec stillOpen =>
      obtain ⟨-, ws, done, rfl⟩ := complete_eq_some stepped
      have oneLess := WsStream.pingDone?_outstanding done
      have taken := taken_inTime (WsStream.pingDone?_narrows done)
        (Nat.le.intro oneLess.symm)
      exact trans_of StartsInTime taken
        (runHandler_inTime _ (parts_inTime.pingHandler ec _))
  | closeDone ec stillOpen =>
      obtain ⟨-, ws, done, rfl⟩ := complete_eq_some stepped
      have oneLess := WsStream.closeDone?_outstanding done
      have taken := taken_inTime (WsStream.closeDone?_narrows done)
        (Nat.le.intro oneLess.symm)
      exact trans_of StartsInTime taken
        (runHandler_inTime _ (parts_inTime.closeHandler ec _))
  | controlFrame =>
      obtain ⟨-, -, rfl⟩ := step_controlFrame stepped
      exact runBody_inTime _ (activity_keeps parts_inTime session)
  | timerExpired =>
      obtain ⟨timer, expires, rfl⟩ := step_timerExpired stepped
      exact inTime_of_same rfl rfl (WaitableTimer.expire?_eq_some expires).2
  | timerDone ec =>
      obtain ⟨-, timer, taken, rfl⟩ := step_timerDone stepped
      have oneLess := (WaitableTimer.take?_eq_some taken).1
      have fewer : Change session { session with timer := timer } := by
        apply Change.quiet
        · rfl
        · exact fun _ => .inl rfl
        · intro _
          simp only [operations]
          omega
      exact trans_of StartsInTime fewer.inTime
        (runHandler_inTime _ (timerHandler_inTime ec _))
  | runJob host =>
      obtain ⟨-, job, jobs, -, -, rfl⟩ := step_runJob stepped
      have taken : StartsInTime session { session with strand := jobs } :=
        inTime_of_same rfl rfl rfl
      exact trans_of StartsInTime taken
        (runHandler_inTime host (runJob_inTime job _))
  | release host =>
      obtain ⟨-, rfl⟩ := step_release stepped
      exact inTime_of_same rfl rfl rfl
  | callbackBegins =>
      obtain ⟨-, callback, callbacks, -, rfl⟩ := step_callbackBegins stepped
      exact inTime_of_same rfl rfl rfl
  | callbackReturns =>
      obtain ⟨callback, -, rfl⟩ := step_callbackReturns stepped
      exact inTime_of_same rfl rfl rfl
  | dispatch job =>
      obtain ⟨-, rfl⟩ := step_dispatch stepped
      exact dispatch_inTime job session
  | streamEnds =>
      obtain ⟨ws, ends, rfl⟩ := step_streamEnds stepped
      exact taken_inTime (WsStream.endStream?_narrows ends)
        (Nat.le_of_eq (WsStream.endStream?_outstanding ends))
  | writeBlock blocked =>
      cases stepped
      have blocks : Change session { session with
          ws := { session.ws with writeBlocked := blocked } } :=
        .quiet rfl (fun _ => .inl rfl) fun _ => Nat.le_refl _
      exact blocks.inTime
  | erase =>
      obtain ⟨-, -, rfl⟩ := step_erase stepped
      unfold destroyed
      split <;> exact inTime_of_same rfl rfl rfl

end

/-! ## Runs -/

theorem run_inTime {session later : WsSession} {events : List SessionEvent}
    (reached : sessionMachine.Reachable session)
    (ran : sessionMachine.run session events = some later) :
    StartsInTime session later := by
  induction events generalizing session with
  | nil =>
      cases ran
      exact .refl
  | cons event events induction =>
      obtain ⟨next, stepped, rest⟩ := Option.bind_eq_some_iff.mp ran
      have first :=
        step_inTime (handshakeSound_of_reachable reached) stepped
      exact trans_of StartsInTime first
        (induction (.step reached trivial stepped) rest)

/-- A message is still sent, and a read and a wait come to their end. -/
def lateSend : List SessionEvent :=
  [.dispatch (.send true [1]), .runJob .caller, .release .caller,
    .timerDone (some .operationAborted), .release .ioThread,
    .readDone (some .operationAborted) [] true false]

end Webservice.WsSession
