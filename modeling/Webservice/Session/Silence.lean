import Webservice.Library.Lists
import Webservice.Session.Callbacks
import Webservice.Session.Closing
import Webservice.Session.Timeout
import Webservice.Session.Writing

/-!
# Closing sessions and silent peers

While an `async_close` is outstanding, only the activity timer can end a
session whose peer does not answer.  The stream is not open during the
closing handshake, and most of the code takes that as the end: it cancels the
wait or does not renew it.
-/

namespace Webservice.WsSession

open Effects

/-! ## How many closes are outstanding -/

def closesStarted (session : WsSession) : Nat :=
  session.history.started.countP StreamOp.isClose

theorem note_closesStarted (session : WsSession) (op : StreamOp) :
    (session.note op).closesStarted =
      session.closesStarted + if op.isClose then 1 else 0 := by
  simp [closesStarted, note, List.countP_append, List.countP_singleton]

/-- What is remembered of a state that a session went through. -/
structure CloseMark where
  outstanding : Nat
  started : Nat
  socketOpen : Bool

def closeMark (session : WsSession) : CloseMark :=
  ⟨session.ws.closes, session.closesStarted, session.ws.socketOpen⟩

/-- Since the mark, no more closes have come to be outstanding than were
started, and a closed socket has stayed closed. -/
structure ClosesSince (mark : CloseMark) (session : WsSession) : Prop where
  grown : mark.started ≤ session.closesStarted
  counted : session.ws.closes + mark.started ≤
    mark.outstanding + session.closesStarted
  socket : mark.socketOpen = false → session.ws.socketOpen = false

theorem ClosesSince.refl (session : WsSession) :
    session.ClosesSince session.closeMark :=
  ⟨Nat.le_refl _, Nat.le_refl _, id⟩

section

variable {mark : CloseMark} {before after session : WsSession}

theorem ClosesSince.congr (since : before.ClosesSince mark)
    (closes : after.ws.closes ≤ before.ws.closes)
    (started : after.history.started = before.history.started)
    (socket : before.ws.socketOpen = false → after.ws.socketOpen = false) :
    after.ClosesSince mark := by
  have same : after.closesStarted = before.closesStarted := by
    rw [closesStarted, started, closesStarted]
  have grown := since.grown
  have counted := since.counted
  exact ⟨by omega, by omega, fun shut => socket (since.socket shut)⟩

/-- An operation starts; if it is a close, one more is outstanding. -/
theorem ClosesSince.noted {op : StreamOp} (since : before.ClosesSince mark)
    (closes : after.ws.closes =
      before.ws.closes + if op.isClose then 1 else 0)
    (started : after.history.started = before.history.started)
    (socket : after.ws.socketOpen = before.ws.socketOpen) :
    (after.note op).ClosesSince mark := by
  have same : after.closesStarted = before.closesStarted := by
    rw [closesStarted, started, closesStarted]
  have grown := since.grown
  have counted := since.counted
  refine ⟨?_, ?_, fun shut => socket.trans (since.socket shut)⟩
  · rw [note_closesStarted]
    omega
  · rw [note_closesStarted, same]
    show after.ws.closes + mark.started ≤ _
    omega

theorem ClosesSince.restarted (since : session.ClosesSince mark) :
    session.restarted.ClosesSince mark := by
  unfold WsSession.restarted
  split
  · exact since.noted rfl rfl rfl
  · exact since.congr (Nat.le_refl _) rfl id

theorem closesSince_ofCore : OfCore (ClosesSince mark) :=
  .of_iff fun _ => ⟨fun since => since.congr (Nat.le_refl _) rfl id,
    fun since => since.congr (Nat.le_refl _) rfl id⟩

theorem queue_closesSince : KeptByQueue (Carried (ClosesSince mark)) where
  cancelTimer _ _ := modify_carried rfl rfl (by simp [holders]) rfl id
    fun since => since.congr (Nat.le_refl _) rfl id
  onException := onException_carried closesSince_ofCore
  withLock := withLock_carried closesSince_ofCore
  pushed _ _ := modify_carried rfl rfl rfl rfl id fun since =>
    since.congr (Nat.le_refl _) rfl id
  popped _ := modify_carried rfl rfl rfl rfl id fun since =>
    since.congr (Nat.le_refl _) rfl id
  requested _ _ := modify_carried rfl rfl rfl rfl (fun _ => rfl) fun since =>
    since.congr (Nat.le_refl _) rfl id
  kindSet _ _ := modify_carried rfl rfl rfl rfl id fun since =>
    since.congr (Nat.le_refl _) rfl id
  asyncWrite data session :=
    startOp_carried (asyncWrite_codeKept data session) fun since =>
      since.noted rfl rfl rfl
  asyncClose reason session :=
    startOp_carried (asyncClose_codeKept reason session) fun since =>
      since.noted rfl rfl rfl

theorem timer_closesSince : KeptByTimer (Carried (ClosesSince mark)) where
  cancelTimer _ := modify_carried rfl rfl (by simp [holders]) rfl id
    fun since => since.congr (Nat.le_refl _) rfl id
  restartTimer := restartTimer_carried fun _ => ClosesSince.restarted
  doTimer session := startOp_carried (doTimer_codeKept session) fun since =>
    since.noted rfl rfl rfl
  onException := onException_carried closesSince_ofCore
  pongDue _ := modify_carried rfl rfl rfl rfl id fun since =>
    since.congr (Nat.le_refl _) rfl id
  pingCounted _ := modify_carried rfl rfl rfl rfl id fun since =>
    since.congr (Nat.le_refl _) rfl id
  asyncPing payload session :=
    startOp_carried (asyncPing_codeKept payload session) fun since =>
      since.noted rfl rfl rfl
  socketClosed _ := modify_carried rfl rfl rfl rfl id fun since =>
    since.congr (Nat.le_refl _) rfl fun _ => rfl

theorem parts_closesSince : KeptByParts (Carried (ClosesSince mark)) :=
  queue_closesSince.parts timer_closesSince.restartTimer fun _ =>
    modify_carried rfl rfl rfl rfl id fun since =>
      since.congr (Nat.le_refl _) rfl id

theorem doRead_closesSince : Keeps (Carried (ClosesSince mark)) doRead :=
  doRead_keeps timer_closesSince.restartTimer fun session =>
    startOp_carried (asyncRead_codeKept session) fun since =>
      since.noted rfl rfl rfl

theorem ClosesSince.narrowed {ws : WsStream}
    (since : session.ClosesSince mark)
    (narrows : WsStream.Narrows session.ws ws)
    (closes : ws.closes ≤ session.ws.closes) :
    ClosesSince mark { session with ws := ws } :=
  since.congr closes rfl fun shut => narrows.socketOpen.trans shut

theorem closesSince_preserved :
    Preserved LocksSound (ClosesSince mark) where
  ofCore := closesSince_ofCore
  parts := parts_closesSince
  runJob := queue_closesSince.runJob
  acceptDone := by
    intro session ec ws _ since done held
    refine (acceptHandler_keeps ?_ ?_ doRead_closesSince
      parts_closesSince.onException ec _).carried held ?_
    · exact fun _ => modify_carried rfl rfl rfl rfl id fun since =>
        since.congr (Nat.le_refl _) rfl id
    · exact deferCallback_carried onOpen_codeKept fun _ since =>
        since.congr (Nat.le_refl _) rfl id
    · obtain ⟨-, rfl⟩ := WsStream.acceptDone?_eq_some done
      exact since.congr (Nat.le_refl _) rfl id
  readDone := by
    intro session ec chunk isText stillOpen ws _ since done held
    have received : (session.receive ec chunk isText).ClosesSince mark :=
      since.congr (Nat.le_refl _) rfl id
    refine (readHandler_keeps parts_closesSince (fun isText => ?_)
      doRead_closesSince isText (WsStream.readDone?_closed done)).carried held
      (received.narrowed (WsStream.readDone?_narrows done) ?_)
    · exact deferCallback_carried (onMessage_codeKept isText)
        fun _ since => since.congr (Nat.le_refl _) rfl id
    · obtain ⟨-, rfl⟩ := WsStream.readDone?_eq_some done
      exact Nat.le_refl _
  writeDone := by
    intro session ec ws _ since done held
    refine (queue_closesSince.writeHandler ec _).carried held
      (since.narrowed (WsStream.writeDone?_narrows done) ?_)
    obtain ⟨-, rfl⟩ := WsStream.writeDone?_eq_some done
    exact Nat.le_refl _
  pingDone := by
    intro session ec stillOpen ws since done
    refine since.narrowed (WsStream.pingDone?_narrows done) ?_
    obtain ⟨-, rfl⟩ := WsStream.pingDone?_eq_some done
    exact Nat.le_refl _
  closeDone := by
    intro session stillOpen ws since done
    refine since.narrowed (WsStream.closeDone?_narrows done) ?_
    obtain ⟨-, rfl⟩ := WsStream.closeDone?_eq_some done
    exact Nat.sub_le _ _
  timerExpired since _ := since.congr (Nat.le_refl _) rfl id
  timerDone since _ held := (timer_closesSince.timerHandler _ _).carried held
    (since.congr (Nat.le_refl _) rfl id)
  callbackBegins since _ _ := since.congr (Nat.le_refl _) rfl id
  callbackReturns since _ := since.congr (Nat.le_refl _) rfl id
  streamEnds := by
    intro session ws since ends
    refine since.narrowed (WsStream.endStream?_narrows ends) ?_
    obtain ⟨-, rfl⟩ := WsStream.endStream?_eq_some ends
    exact Nat.le_refl _
  writeBlock since := since.congr (Nat.le_refl _) rfl id
  erase _ since _ _ := by
    unfold destroyed
    split <;> exact since.congr (Nat.le_refl _) rfl id

theorem closing_iff : session.closing = true ↔ 0 < session.closesStarted :=
  List.any_eq_true.trans List.countP_pos_iff.symm

theorem WritingSound.closesStarted_le (sound : session.WritingSound) :
    session.closesStarted ≤ 1 :=
  Lists.countP_le_one (sound.ordered.imp fun follows isClose => by
    have silent := follows isClose
    rename_i later
    cases later <;> first | rfl | cases silent)

/-- Only one close is ever outstanding. -/
theorem closes_le_one (reached : sessionMachine.Reachable session) :
    session.ws.closes ≤ 1 := by
  have single := (writingSound_of_reachable reached).closesStarted_le
  have counted : session.ClosesSince ⟨0, 0, true⟩ := by
    refine reached.invariantOver (ClosesSince ⟨0, 0, true⟩) ?_ ?_
    · rintro _ ⟨role, rfl⟩
      cases role <;> exact ⟨by decide, by decide, by decide⟩
    · exact fun _ _ _ earlier since _ stepped =>
        closesSince_preserved.step (locksSound_of_reachable earlier)
          (locksSound_of_reachable earlier) since stepped
  have bounded : session.ws.closes + 0 ≤ 0 + session.closesStarted :=
    counted.counted
  omega

/-- Once a close has been started, no other one follows. -/
theorem step_closing {next : WsSession} {event : SessionEvent}
    (reached : sessionMachine.Reachable session)
    (closing : session.closing = true)
    (stepped : session.step event = some next) :
    next.closing = true ∧ next.ws.closes ≤ session.ws.closes ∧
      (session.ws.socketOpen = false → next.ws.socketOpen = false) := by
  have sound := locksSound_of_reachable reached
  have since := closesSince_preserved.step sound sound
    (ClosesSince.refl session) stepped
  have single := (writingSound_of_reachable
    (.step reached trivial stepped)).closesStarted_le
  have grown : session.closesStarted ≤ next.closesStarted := since.grown
  have counted : next.ws.closes + session.closesStarted ≤
    session.ws.closes + next.closesStarted := since.counted
  rw [closing_iff] at closing
  exact ⟨closing_iff.mpr (by omega), by omega, since.socket⟩

end

/-! ## The wait that guards a close -/

/-- While a close is outstanding, something can still end the session. -/
def Guarded (session : WsSession) : Prop :=
  0 < session.ws.closes →
    0 < session.timer.live ∨ session.ws.socketOpen = false

/-- The event makes the session give up its last wait although a close is
outstanding: it cancels a pending wait of a stream that is not open, or it is
the first expiry of such a stream. -/
def Abandons (session : WsSession) (event : SessionEvent) : Prop :=
  0 < session.ws.closes ∧ session.ws.socketOpen = true ∧
    match event with
    | .runJob _ => session.ws.isOpen = false ∧ 0 < session.timer.pending
    | .controlFrame => session.ws.isOpen = false ∧ 0 < session.timer.pending
    | .readDone ec _ _ stillOpen =>
        ec ≠ some .operationAborted ∧
          session.ws.phaseAfterRead stillOpen ec ≠ .opened ∧
          0 < session.timer.pending
    | .pingDone ec stillOpen =>
        ec ≠ none ∧ ec ≠ some .operationAborted ∧
          session.ws.failed stillOpen ≠ .opened ∧ 0 < session.timer.pending
    | .timerDone ec =>
        ec = none ∧ session.waitOnPong = false ∧ session.ws.isOpen = false
    | _ => False

/-- A close is outstanding and one wait guards it. -/
structure Waiting (session : WsSession) : Prop where
  outstanding : 0 < session.ws.closes
  socket : session.ws.socketOpen = true
  live : session.timer.live = 1
  requested : session.closeReason.isSome = true

/-- An open stream with one live wait that is to be closed. -/
structure Watched (session : WsSession) : Prop where
  requested : session.closeReason.isSome = true
  isOpen : session.ws.isOpen = true
  live : session.timer.live = 1

section

variable {session next : WsSession} {event : SessionEvent}

theorem guarded_iff_of_live (live : 0 < next.timer.live)
    (keeps : ¬session.Abandons event) :
    next.Guarded ↔ ¬session.Abandons event :=
  ⟨fun _ => keeps, fun _ _ => .inl live⟩

theorem guarded_iff_of_shut (shut : next.ws.socketOpen = false)
    (keeps : ¬session.Abandons event) :
    next.Guarded ↔ ¬session.Abandons event :=
  ⟨fun _ => keeps, fun _ _ => .inr shut⟩

/-- The pending waits are cancelled. -/
theorem Waiting.guarded_iff_of_cancel (waiting : session.Waiting)
    (closes : next.ws.closes = session.ws.closes)
    (socket : next.ws.socketOpen = session.ws.socketOpen)
    (live : next.timer.live = session.timer.expired)
    (abandons : session.Abandons event ↔ 0 < session.timer.pending) :
    next.Guarded ↔ ¬session.Abandons event := by
  have single := waiting.live
  unfold WaitableTimer.live at single
  rw [abandons]
  constructor
  · intro guarded some_pending
    rcases guarded (closes ▸ waiting.outstanding) with some_live | shut
    · omega
    · rw [socket, waiting.socket] at shut
      cases shut
  · exact fun none_pending _ => .inl (by omega)

theorem Watched.restarted (watched : session.Watched) :
    session.restarted.Watched := by
  have live := restarted_live (Nat.le_of_eq watched.live)
  rw [if_pos watched.isOpen] at live
  refine ⟨?_, ?_, live.trans watched.live⟩
  · rw [restarted_closeReason]
    exact watched.requested
  · rw [restarted_ws]
    exact watched.isOpen

theorem watched_ofCore : OfCore Watched :=
  .of_iff fun _ => ⟨fun watched => ⟨watched.requested, watched.isOpen,
    watched.live⟩, fun watched => ⟨watched.requested, watched.isOpen,
    watched.live⟩⟩

/-- A session that is to be closed takes no more jobs; it only cancels the
timer of a stream that is not open. -/
theorem runJob_requested (job : StrandJob)
    (requested : session.closeReason.isSome = true) :
    runJob job session =
      if session.ws.isOpen then .ok () session else cancelTimer session := by
  cases job with
  | send isText data =>
      have run := sendJob_run isText data session
      by_cases isOpen : session.ws.isOpen = true
      · rw [if_neg (not_not_intro isOpen), if_pos requested] at run
        rw [if_pos isOpen]
        exact run
      · rw [if_pos isOpen] at run
        rw [if_neg isOpen]
        exact run
  | close reason =>
      have run := closeJob_run reason session
      by_cases isOpen : session.ws.isOpen = true
      · rw [if_neg (not_not_intro isOpen), if_pos requested] at run
        rw [if_pos isOpen]
        exact run
      · rw [if_pos isOpen] at run
        rw [if_neg isOpen]
        exact run

theorem closeJob_watched (reason : CloseReason) :
    Keeps (Carried Watched) (closeJob reason) := by
  intro session
  refine ⟨queue_codeKept.closeJob reason session, fun _ watched => ?_⟩
  have run : closeJob reason session = _ :=
    runJob_requested (.close reason) watched.requested
  rw [if_pos watched.isOpen] at run
  rw [after_eq_of_ok run]
  exact watched

theorem parts_watched : KeptByParts (Carried Watched) where
  cancelTimer session ended := ⟨cancelTimer_codeKept session,
    fun _ watched => absurd (ended.symm.trans watched.isOpen) (by decide)⟩
  restartTimer := restartTimer_carried fun _ => Watched.restarted
  pongSeen _ := modify_carried rfl rfl rfl rfl id fun watched =>
    ⟨watched.requested, watched.isOpen, watched.live⟩
  onException := onException_carried watched_ofCore
  close reason := close_carried watched_ofCore (closeJob_watched reason)

theorem doRead_watched : Keeps (Carried Watched) doRead :=
  doRead_keeps parts_watched.restartTimer fun session =>
    startOp_carried (asyncRead_codeKept session) fun watched =>
      ⟨watched.requested, watched.isOpen, watched.live⟩

theorem onMessage_watched (isText : Bool) :
    Keeps (Carried Watched) (onMessage isText) :=
  deferCallback_carried (onMessage_codeKept isText) fun _ watched =>
    ⟨watched.requested, watched.isOpen, watched.live⟩

theorem acceptHandler_watched (ec : Option ErrorCode) :
    Keeps (Carried Watched) (acceptHandler ec) := by
  have onOpen : Keeps (Carried Watched) onOpen :=
    deferCallback_carried onOpen_codeKept fun _ watched =>
      ⟨watched.requested, watched.isOpen, watched.live⟩
  exact acceptHandler_keeps (fun _ => modify_carried rfl rfl rfl rfl id
    fun watched => ⟨watched.requested, watched.isOpen, watched.live⟩) onOpen
    doRead_watched parts_watched.onException ec

/-! ## What the steps do to the wait -/

theorem cancel_live (timer : WaitableTimer) :
    timer.cancel.live = timer.expired :=
  Nat.zero_add _

theorem core_parts {before after : WsSession}
    (same : after.core = before.core) :
    after.ws = before.ws ∧ after.timer = before.timer := by
  have ws : after.core.ws = before.core.ws := congrArg WsSession.ws same
  have timer : after.core.timer = before.core.timer :=
    congrArg WsSession.timer same
  exact ⟨ws, timer⟩

/-- The session once its timer has been cancelled for good. -/
def timerCancelled (session : WsSession) : WsSession :=
  { session with timer := session.timer.cancel }

theorem restarted_ended (ended : session.ws.isOpen = false) :
    session.restarted = session.timerCancelled := by
  have idle : ¬(session.timer.pending ≠ 0 ∧ session.ws.isOpen = true) :=
    fun rearm => absurd (ended.symm.trans rearm.2) (by decide)
  rw [WsSession.restarted, if_neg idle, timerCancelled]

/-- The session once activity was noted on a stream that is not open. -/
def quieted (session : WsSession) : WsSession :=
  timerCancelled { session with waitOnPong := false }

theorem activity_ended (held : 0 < session.locker.lockCount)
    (ended : session.ws.isOpen = false) :
    activity session = .ok () session.quieted := by
  rw [activity_run held]
  have ended : ({ session with waitOnPong := false } : WsSession).ws.isOpen =
      false := ended
  rw [restarted_ended ended, quieted]

/-- Reading of a stream that is not open goes no further. -/
theorem doRead_ended (ended : session.ws.isOpen = false) :
    doRead session = .ok () session := by
  have notOpen : ¬session.ws.isOpen = true := Bool.eq_false_iff.mp ended
  rw [doRead, get_bind_run, if_neg notOpen]
  rfl

theorem close_ended (reason : CloseReason)
    (held : 0 < session.locker.lockCount)
    (ended : session.ws.isOpen = false) :
    close reason session = .ok () session.locked.timerCancelled.unlocked := by
  have run := closeJob_run reason session.locked
  have notOpen : ¬session.locked.ws.isOpen = true :=
    Bool.eq_false_iff.mp ended
  rw [if_pos notOpen] at run
  simp only [close, catching, withLock, makeLock_run held, run]
  rfl

theorem readHandler_ended (isText : Bool) {ec : Option ErrorCode}
    (held : 0 < session.locker.lockCount)
    (heeded : ec ≠ some .operationAborted)
    (ended : session.ws.isOpen = false) :
    (after (readHandler isText ec) session).ws = session.ws ∧
      (after (readHandler isText ec) session).timer =
        session.timer.cancel ∧
      (after (readHandler isText ec) session).closeReason =
        session.closeReason := by
  have active := activity_ended held ended
  cases ec with
  | none =>
      have heldActive : 0 < session.quieted.locker.lockCount := held
      have stillEnded : (session.quieted.deferred
          (.onMessage ⟨isText, session.buffer⟩) []).ws.isOpen = false := ended
      have run : readHandler isText none session = .ok ()
          (session.quieted.deferred
            (.onMessage ⟨isText, session.buffer⟩) []) := by
        rw [readHandler, bind_run_ok active,
          bind_run_ok (onMessage_run isText heldActive)]
        exact doRead_ended stillEnded
      rw [after_eq_of_ok run]
      exact ⟨rfl, rfl, rfl⟩
  | some ec =>
      cases ec with
      | operationAborted => exact absurd rfl heeded
      | closed => exact ⟨rfl, rfl, rfl⟩
      | other value =>
          have notOpen : ¬session.ws.isOpen = true :=
            Bool.eq_false_iff.mp ended
          have run : readHandler isText (some (.other value)) session =
              .ok () (session.quieted.report
                (.systemError (.other value) "websocket session read")) := by
            have stillNotOpen : ¬session.quieted.ws.isOpen = true := notOpen
            rw [readHandler, bind_run_ok active]
            simp only [onError, WsSession.onException, modify_bind_run,
              get_bind_run]
            rw [if_neg (by exact stillNotOpen)]
            rfl
          rw [after_eq_of_ok run]
          exact ⟨rfl, rfl, rfl⟩

/-- An error of a stream that is not open is reported, no more. -/
theorem closeOnError_ended (location : String) (ec : ErrorCode)
    (reason : CloseReason) (held : 0 < session.locker.lockCount)
    (ended : session.ws.isOpen = false) :
    after (do WsSession.onError location ec; WsSession.close reason)
        session =
      (session.report (.systemError ec
        ("websocket session " ++ location))).locked.timerCancelled.unlocked := by
  obtain ⟨failed, isFailed⟩ : ∃ failed, failed = session.report
    (.systemError ec ("websocket session " ++ location)) := ⟨_, rfl⟩
  have run : (do WsSession.onError location ec; WsSession.close reason)
      session = close reason failed := by
    rw [isFailed]
    rfl
  have heldFailed : 0 < failed.locker.lockCount := isFailed ▸ held
  have endedFailed : failed.ws.isOpen = false := isFailed ▸ ended
  rw [← isFailed]
  exact after_eq_of_ok (run.trans (close_ended reason heldFailed endedFailed))

theorem pingHandler_ended {ec : ErrorCode}
    (held : 0 < session.locker.lockCount) (heeded : ec ≠ .operationAborted)
    (ended : session.ws.isOpen = false) :
    (after (pingHandler (some ec)) session).ws = session.ws ∧
      (after (pingHandler (some ec)) session).timer =
        session.timer.cancel ∧
      (after (pingHandler (some ec)) session).closeReason =
        session.closeReason := by
  have run : after (pingHandler (some ec)) session = after (do
      WsSession.onError "ping" ec
      WsSession.close (.ofText "ping error")) session := by
    cases ec with
    | operationAborted => exact absurd rfl heeded
    | closed => rfl
    | other value => rfl
  rw [run, closeOnError_ended "ping" ec _ held ended]
  exact ⟨rfl, rfl, rfl⟩

end

section

variable {session next : WsSession}

theorem Waiting.runJob {host : Host} (waiting : session.Waiting)
    (stepped : session.step (.runJob host) = some next) :
    next.Guarded ↔ ¬session.Abandons (.runJob host) := by
  obtain ⟨-, job, jobs, queued, -, isNext⟩ := step_runJob stepped
  have core := runHandler_core host (WsSession.runJob job)
    { session with strand := jobs }
  rw [← isNext] at core
  have requested : ({ session with strand := jobs } :
    WsSession).closeReason.isSome = true := waiting.requested
  have run := runJob_requested job requested
  by_cases isOpen : session.ws.isOpen = true
  · rw [if_pos isOpen] at run
    rw [after_eq_of_ok run] at core
    have timer : next.timer = session.timer := (core_parts core).2
    refine guarded_iff_of_live ?_ fun abandons => ?_
    · rw [timer, waiting.live]
      exact Nat.one_pos
    · exact absurd (isOpen.symm.trans abandons.2.2.1) (by decide)
  · rw [if_neg isOpen] at run
    rw [after_congr run] at core
    obtain ⟨ws, timer⟩ : next.ws = session.ws ∧
      next.timer = session.timer.cancel := core_parts core
    refine waiting.guarded_iff_of_cancel ?_ ?_ ?_ ?_
    · rw [ws]
    · rw [ws]
    · rw [timer, cancel_live]
    · exact ⟨fun abandons => abandons.2.2.2, fun some_pending =>
        ⟨waiting.outstanding, waiting.socket, Bool.eq_false_iff.mpr isOpen,
          some_pending⟩⟩

theorem Waiting.controlFrame (waiting : session.Waiting)
    (held : 0 < session.locker.lockCount)
    (stepped : session.step .controlFrame = some next) :
    next.Guarded ↔ ¬session.Abandons .controlFrame := by
  obtain ⟨-, -, isNext⟩ := step_controlFrame stepped
  have core := runBody_core .ioThread activity session
  rw [← isNext] at core
  by_cases isOpen : session.ws.isOpen = true
  · rw [after_eq_of_ok (activity_run held)] at core
    have watched : Watched { session with waitOnPong := false } :=
      ⟨waiting.requested, isOpen, waiting.live⟩
    have live := (watched_ofCore _ _ core watched.restarted).live
    refine guarded_iff_of_live ?_ fun abandons => ?_
    · rw [live]
      exact Nat.one_pos
    · exact absurd (isOpen.symm.trans abandons.2.2.1) (by decide)
  · have ended := Bool.eq_false_iff.mpr isOpen
    rw [after_eq_of_ok (activity_ended held ended)] at core
    obtain ⟨ws, timer⟩ : next.ws = session.ws ∧
      next.timer = session.timer.cancel := core_parts core
    refine waiting.guarded_iff_of_cancel ?_ ?_ ?_ ?_
    · rw [ws]
    · rw [ws]
    · rw [timer, cancel_live]
    · exact ⟨fun abandons => abandons.2.2.2, fun some_pending =>
        ⟨waiting.outstanding, waiting.socket, ended, some_pending⟩⟩

theorem isOpen_eq_false_iff {ws : WsStream} :
    ws.isOpen = false ↔ ws.phase ≠ .opened := by
  simp [WsStream.isOpen]

theorem Waiting.readDone {ec : Option ErrorCode} {chunk : List UInt8}
    {isText stillOpen : Bool} (waiting : session.Waiting)
    (sound : session.LocksSound)
    (stepped : session.step (.readDone ec chunk isText stillOpen) =
      some next) :
    next.Guarded ↔
      ¬session.Abandons (.readDone ec chunk isText stillOpen) := by
  obtain ⟨-, ws, done, isNext⟩ := complete_eq_some stepped
  have held : Held { session.receive ec chunk isText with ws := ws } :=
    sound.held_of_taken rfl (by
      have oneLess := WsStream.readDone?_outstanding done
      simp only [holders, receive]
      omega)
  have core := runHandler_core .ioThread (readHandler isText ec)
    { session.receive ec chunk isText with ws := ws }
  rw [← isNext] at core
  have closed := WsStream.readDone?_closed done
  obtain ⟨-, wsAfter⟩ := WsStream.readDone?_eq_some done
  have phase : ws.phase = session.ws.phaseAfterRead stillOpen ec :=
    wsAfter ▸ rfl
  have closes : ws.closes = session.ws.closes := wsAfter ▸ rfl
  have socket : ws.socketOpen = session.ws.socketOpen := wsAfter ▸ rfl
  by_cases aborted : ec = some .operationAborted
  · subst aborted
    obtain ⟨-, timer⟩ : next.ws = ws ∧ next.timer = session.timer :=
      core_parts core
    refine guarded_iff_of_live ?_ fun abandons => abandons.2.2.1 rfl
    rw [timer, waiting.live]
    exact Nat.one_pos
  by_cases isOpen : ws.isOpen = true
  · have watched : Watched { session.receive ec chunk isText with ws := ws } :=
      ⟨waiting.requested, isOpen, waiting.live⟩
    have kept := (readHandler_keeps parts_watched onMessage_watched
      doRead_watched isText closed).carried held watched
    have live := (watched_ofCore _ _ core kept).live
    refine guarded_iff_of_live ?_ fun abandons => ?_
    · rw [live]
      exact Nat.one_pos
    · refine absurd isOpen ?_
      rw [Bool.not_eq_true, isOpen_eq_false_iff, phase]
      exact abandons.2.2.2.1
  · have ended := Bool.eq_false_iff.mpr isOpen
    obtain ⟨sameWs, cancelled, -⟩ :=
      readHandler_ended isText held.pos aborted ended
    obtain ⟨nextWs, nextTimer⟩ := core_parts core
    refine waiting.guarded_iff_of_cancel ?_ ?_ ?_ ?_
    · rw [nextWs, sameWs]
      exact closes
    · rw [nextWs, sameWs]
      exact socket
    · rw [nextTimer, cancelled]
      exact cancel_live _
    · rw [isOpen_eq_false_iff, phase] at ended
      exact ⟨fun abandons => abandons.2.2.2.2, fun some_pending =>
        ⟨waiting.outstanding, waiting.socket, aborted, ended, some_pending⟩⟩

theorem Waiting.pingDone {ec : Option ErrorCode} {stillOpen : Bool}
    (waiting : session.Waiting) (sound : session.LocksSound)
    (stepped : session.step (.pingDone ec stillOpen) = some next) :
    next.Guarded ↔ ¬session.Abandons (.pingDone ec stillOpen) := by
  obtain ⟨-, ws, done, isNext⟩ := complete_eq_some stepped
  have held : Held { session with ws := ws } := sound.held_of_taken rfl (by
    have oneLess := WsStream.pingDone?_outstanding done
    simp only [holders]
    omega)
  have core := runHandler_core .ioThread (pingHandler ec)
    { session with ws := ws }
  rw [← isNext] at core
  obtain ⟨-, wsAfter⟩ := WsStream.pingDone?_eq_some done
  have harmless : ec = none ∨ ec = some .operationAborted →
      (next.Guarded ↔ ¬session.Abandons (.pingDone ec stillOpen)) := by
    intro quiet
    obtain ⟨-, timer⟩ : next.ws = ws ∧ next.timer = session.timer := by
      rcases quiet with rfl | rfl <;> exact core_parts core
    refine guarded_iff_of_live ?_ fun abandons => ?_
    · rw [timer, waiting.live]
      exact Nat.one_pos
    · rcases quiet with isNone | aborted
      · exact abandons.2.2.1 isNone
      · exact abandons.2.2.2.1 aborted
  cases ec with
  | none => exact harmless (.inl rfl)
  | some ec =>
      by_cases aborted : ec = .operationAborted
      · exact harmless (.inr (congrArg some aborted))
      have heeded : some ec ≠ some ErrorCode.operationAborted :=
        fun same => aborted (Option.some.inj same)
      have phase : ws.phase = session.ws.failed stillOpen := wsAfter ▸ rfl
      by_cases isOpen : ws.isOpen = true
      · have watched : Watched { session with ws := ws } :=
          ⟨waiting.requested, isOpen, waiting.live⟩
        have kept := (parts_watched.pingHandler (some ec) _).carried
          held watched
        have live := (watched_ofCore _ _ core kept).live
        refine guarded_iff_of_live ?_ fun abandons => ?_
        · rw [live]
          exact Nat.one_pos
        · refine absurd isOpen ?_
          rw [Bool.not_eq_true, isOpen_eq_false_iff, phase]
          exact abandons.2.2.2.2.1
      · have ended := Bool.eq_false_iff.mpr isOpen
        obtain ⟨sameWs, cancelled, -⟩ :=
          pingHandler_ended held.pos aborted ended
        obtain ⟨nextWs, nextTimer⟩ := core_parts core
        refine waiting.guarded_iff_of_cancel ?_ ?_ ?_ ?_
        · rw [nextWs, sameWs, wsAfter]
        · rw [nextWs, sameWs, wsAfter]
        · rw [nextTimer, cancelled]
          exact cancel_live _
        · rw [isOpen_eq_false_iff, phase] at ended
          exact ⟨fun abandons => abandons.2.2.2.2.2, fun some_pending =>
            ⟨waiting.outstanding, waiting.socket, Option.some_ne_none _,
              heeded, ended, some_pending⟩⟩

theorem Waiting.timerDone {ec : Option ErrorCode}
    (waiting : session.Waiting) (sound : session.LocksSound)
    (stepped : session.step (.timerDone ec) = some next) :
    next.Guarded ↔ ¬session.Abandons (.timerDone ec) := by
  obtain ⟨-, timer, taken, isNext⟩ := step_timerDone stepped
  obtain ⟨handlers, oneLess, -⟩ := WaitableTimer.take?_eq_some taken
  have held : Held { session with timer := timer } :=
    sound.held_of_taken rfl (by
      simp only [holders]
      omega)
  have core := runHandler_core .ioThread (timerHandler ec)
    { session with timer := timer }
  rw [← isNext] at core
  have live := waiting.live
  by_cases aborted : ec = some .operationAborted
  · subst aborted
    simp only [decide_true, if_true] at oneLess
    obtain ⟨-, nextTimer⟩ : next.ws = session.ws ∧ next.timer = timer :=
      core_parts core
    refine guarded_iff_of_live ?_ fun abandons =>
      absurd abandons.2.2.1 (Option.some_ne_none _)
    rw [nextTimer]
    omega
  simp only [aborted, decide_false, Bool.false_eq_true, if_false] at oneLess
  have none_left : timer.live = 0 := by omega
  by_cases first : ec = none ∧ ¬session.waitOnPong = true
  · obtain ⟨rfl, quiet⟩ := first
    by_cases isOpen : session.ws.isOpen = true
    · have idle : timer.pending = 0 := by
        unfold WaitableTimer.live at none_left
        omega
      have pings : timerHandler none { session with timer := timer } = _ :=
        timerHandler_pings held.pos idle (Bool.eq_false_iff.mpr quiet) isOpen
      rw [after_eq_of_ok pings] at core
      refine guarded_iff_of_live ?_ fun abandons => ?_
      · rw [(core_parts core).2]
        show 0 < timer.cancel.asyncWait.live
        rw [WaitableTimer.asyncWait_live]
        exact Nat.succ_pos _
      · exact absurd (isOpen.symm.trans abandons.2.2.2.2) (by decide)
    · have run : timerHandler none { session with timer := timer } =
          .ok () { session with timer := timer } := by
        rw [timerHandler, get_bind_run, if_neg aborted, if_pos ⟨rfl, quiet⟩,
          if_neg isOpen]
        rfl
      rw [after_eq_of_ok run] at core
      obtain ⟨ws, nextTimer⟩ : next.ws = session.ws ∧ next.timer = timer :=
        core_parts core
      refine ⟨fun guarded => ?_, fun keeps => ?_⟩
      · rcases guarded (ws ▸ waiting.outstanding) with some_live | shut
        · rw [nextTimer] at some_live
          omega
        · rw [ws, waiting.socket] at shut
          cases shut
      · exact absurd ⟨waiting.outstanding, waiting.socket, rfl,
          Bool.eq_false_iff.mpr quiet, Bool.eq_false_iff.mpr isOpen⟩ keeps
  · have closes :=
      @timerHandler_closes { session with timer := timer } ec aborted first
    have same := core_parts (core.trans closes)
    refine guarded_iff_of_shut ?_ fun abandons => first ?_
    · rw [same.1]
      rfl
    · exact ⟨abandons.2.2.1, Bool.eq_false_iff.mp abandons.2.2.2.1⟩

/-- The step leaves the wait alone. -/
theorem Waiting.unchanged {event : SessionEvent} (waiting : session.Waiting)
    (live : next.timer.live = session.timer.live)
    (keeps : ¬session.Abandons event) :
    next.Guarded ↔ ¬session.Abandons event := by
  refine guarded_iff_of_live ?_ keeps
  rw [live, waiting.live]
  exact Nat.one_pos

theorem Waiting.acceptDone {ec : Option ErrorCode}
    (waiting : session.Waiting) (sound : session.LocksSound)
    (stepped : session.step (.acceptDone ec) = some next) :
    next.Guarded ↔ ¬session.Abandons (.acceptDone ec) := by
  obtain ⟨-, ws, done, isNext⟩ := complete_eq_some stepped
  have held : Held { session with ws := ws } := sound.held_of_taken rfl (by
    have oneLess := WsStream.acceptDone?_outstanding done
    simp only [holders]
    omega)
  have core := runHandler_core .ioThread (acceptHandler ec)
    { session with ws := ws }
  rw [← isNext] at core
  refine waiting.unchanged ?_ fun abandons => abandons.2.2
  cases ec with
  | none =>
      have isOpen : ws.isOpen = true := by
        obtain ⟨-, rfl⟩ := WsStream.acceptDone?_eq_some done
        rfl
      have watched : Watched { session with ws := ws } :=
        ⟨waiting.requested, isOpen, waiting.live⟩
      have kept := (acceptHandler_watched none _).carried held watched
      exact (watched_ofCore _ _ core kept).live.trans waiting.live.symm
  | some ec =>
      have timer : next.timer = session.timer := by
        cases ec with
        | operationAborted => exact (core_parts core).2
        | closed => exact (core_parts core).2
        | other value => exact (core_parts core).2
      rw [timer]

/-- A step leaves an outstanding close guarded, unless it abandons it. -/
theorem step_guarded_iff {event : SessionEvent}
    (reached : sessionMachine.Reachable session)
    (closing : session.closing = true) (guarded : session.Guarded)
    (stepped : session.step event = some next) :
    next.Guarded ↔ ¬session.Abandons event := by
  have sound := locksSound_of_reachable reached
  have writing := writingSound_of_reachable reached
  have single := (timerSound_inductive.of_reachable locksSound_of_reachable
    reached).single
  have one_close := closes_le_one reached
  have no_more := (writingSound_of_reachable
    (.step reached trivial stepped)).closesStarted_le
  obtain ⟨-, fewer, socket⟩ := step_closing reached closing stepped
  by_cases ended : session.ws.closes = 0
  · refine ⟨fun _ abandons => ?_, fun _ outstanding => ?_⟩
    · exact absurd ended (Nat.ne_of_gt abandons.1)
    · omega
  by_cases shut : session.ws.socketOpen = false
  · exact guarded_iff_of_shut (socket shut) fun abandons =>
      absurd (shut.symm.trans abandons.2.1) (by decide)
  have outstanding : 0 < session.ws.closes := Nat.pos_of_ne_zero ended
  have live : session.timer.live = 1 := by
    have some_live := (guarded outstanding).resolve_right shut
    omega
  have waiting : session.Waiting :=
    ⟨outstanding, by simpa using shut, live, writing.reason closing⟩
  cases event with
  | startReturns =>
      obtain ⟨-, rfl⟩ := step_startReturns stepped
      exact waiting.unchanged rfl fun abandons => abandons.2.2
  | acceptDone ec => exact waiting.acceptDone sound stepped
  | readDone ec chunk isText stillOpen => exact waiting.readDone sound stepped
  | writeDone ec =>
      obtain ⟨-, ws, done, rfl⟩ := complete_eq_some stepped
      have some_write := (WsStream.writeDone?_eq_some done).1
      exact absurd (writing.idle closing) (Nat.ne_of_gt some_write)
  | pingDone ec stillOpen => exact waiting.pingDone sound stepped
  | closeDone ec stillOpen =>
      obtain ⟨-, ws, done, isNext⟩ := complete_eq_some stepped
      obtain ⟨-, wsAfter⟩ := WsStream.closeDone?_eq_some done
      have held : Held { session with ws := ws } :=
        sound.held_of_taken rfl (by
          have oneLess := WsStream.closeDone?_outstanding done
          simp only [holders]
          omega)
      have core := runHandler_core .ioThread (closeHandler ec)
        { session with ws := ws }
      rw [← isNext] at core
      have since := closesSince_ofCore _ _ core
        ((parts_closesSince.closeHandler ec _).carried held
          (ClosesSince.refl { session with ws := ws }))
      have counted : next.ws.closes + session.closesStarted ≤
        ws.closes + next.closesStarted := since.counted
      have last : ws.closes = session.ws.closes - 1 := by rw [wsAfter]
      have started := closing_iff.mp closing
      refine ⟨fun _ abandons => abandons.2.2, fun _ outstanding => ?_⟩
      omega
  | controlFrame =>
      have reading := (step_controlFrame stepped).2.1
      have counted := sound.counted
      have held : 0 < session.locker.lockCount := by
        simp only [holders, WsStream.outstanding] at counted
        omega
      exact waiting.controlFrame held stepped
  | timerExpired =>
      obtain ⟨timer, expires, rfl⟩ := step_timerExpired stepped
      exact waiting.unchanged (WaitableTimer.expire?_eq_some expires).1
        fun abandons => abandons.2.2
  | timerDone ec => exact waiting.timerDone sound stepped
  | runJob host => exact waiting.runJob stepped
  | release host =>
      obtain ⟨-, rfl⟩ := step_release stepped
      exact waiting.unchanged rfl fun abandons => abandons.2.2
  | callbackBegins =>
      obtain ⟨-, callback, callbacks, -, rfl⟩ := step_callbackBegins stepped
      exact waiting.unchanged rfl fun abandons => abandons.2.2
  | callbackReturns =>
      obtain ⟨callback, -, rfl⟩ := step_callbackReturns stepped
      exact waiting.unchanged rfl fun abandons => abandons.2.2
  | dispatch job =>
      obtain ⟨-, isNext⟩ := step_dispatch stepped
      have core := dispatch_core session job
      rw [← isNext] at core
      exact waiting.unchanged (by rw [(core_parts core).2])
        fun abandons => abandons.2.2
  | streamEnds =>
      obtain ⟨ws, -, rfl⟩ := step_streamEnds stepped
      exact waiting.unchanged rfl fun abandons => abandons.2.2
  | writeBlock blocked =>
      cases stepped
      exact waiting.unchanged rfl fun abandons => abandons.2.2
  | erase =>
      obtain ⟨-, -, rfl⟩ := step_erase stepped
      refine waiting.unchanged ?_ fun abandons => abandons.2.2
      unfold destroyed
      split <;> rfl

/-- From a state in which an `async_close` has been started and a wait is
live, the close stays guarded in all states of exactly those runs of which no
step abandons it. -/
theorem closeGuarded_iff {last : WsSession} {events : List SessionEvent}
    (reached : sessionMachine.Reachable session)
    (closing : session.closing = true) (live : 0 < session.timer.live)
    (ran : sessionMachine.run session events = some last) :
    sessionMachine.Throughout (fun session => 0 < session.ws.closes →
        0 < session.timer.live ∨ session.ws.socketOpen = false)
        session events ↔
      sessionMachine.Admitted (fun session event => ¬session.Abandons event)
        session events := by
  refine Machine.throughout_iff_admitted
    (fun session => sessionMachine.Reachable session ∧
      session.closing = true) Guarded ?_ ?_
    (Machine.admitted_true session events) ran ⟨reached, closing⟩
    fun _ => .inl live
  · rintro before event after ⟨earlier, isClosing⟩ - - - stepped
    exact ⟨.step earlier trivial stepped,
      (step_closing earlier isClosing stepped).1⟩
  · rintro before event after ⟨earlier, isClosing⟩ - guarded stepped
    exact step_guarded_iff earlier isClosing guarded stepped

/-- A client session that is asked to close. -/
def asksToClose : List SessionEvent :=
  [.startReturns, .dispatch (.close (.ofText "bye")), .runJob .ioThread,
    .release .ioThread]

/-- The wait expires while the peer does not answer. -/
def staysSilent : List SessionEvent :=
  [.timerExpired, .timerDone none, .release .ioThread]

/-- The first expiry of a closing session is its last one. -/
theorem close_unguarded_after_expiry :
    ∃ session, sessionMachine.run (launched .client) asksToClose =
        some session ∧ session.closing = true ∧ session.timer.live = 1 ∧
      ∃ next, sessionMachine.run session staysSilent = some next ∧
        ¬(0 < next.ws.closes →
          0 < next.timer.live ∨ next.ws.socketOpen = false) :=
  ⟨_, rfl, rfl, rfl, _, rfl, by decide⟩

/-- The peer answers the close. -/
theorem closeGuarded_iff_answered :
    ∃ session last, sessionMachine.run (launched .client) asksToClose =
        some session ∧
      sessionMachine.run session [.closeDone none false] = some last ∧
      sessionMachine.Throughout (fun session => 0 < session.ws.closes →
        0 < session.timer.live ∨ session.ws.socketOpen = false)
        session [.closeDone none false] := by
  have asked : sessionMachine.run (launched .client) asksToClose =
    some _ := rfl
  have initial : sessionMachine.initial (launched .client) := ⟨.client, rfl⟩
  have reached := Machine.reachable_of_run initial asked
  refine ⟨_, _, asked, rfl, ?_⟩
  refine (closeGuarded_iff reached rfl Nat.one_pos rfl).mpr ⟨?_, ?_⟩
  · exact fun abandons => abandons.2.2
  · exact fun _ _ => trivial

end

end Webservice.WsSession
