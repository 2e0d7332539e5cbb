import Webservice.Session.Invariant

/-!
# The activity timer of a session

How many timer waits can still act while the stream is open.  A client
session keeps exactly one until its socket is closed.  The wait of a server
session is cancelled by the `restart_timer` of `start_timer`, when the
handshake has not completed; every later restart finds nothing to cancel.
-/

namespace Webservice.WsSession

open Effects

structure TimerSound (session : WsSession) : Prop where
  single : session.timer.live ≤ 1
  server : session.history.role = .server → session.timer.live = 0
  accepts : session.history.role = .client → session.ws.accepts = 0
  client : session.history.role = .client → session.ws.isOpen = true →
    session.timer.live = if session.ws.socketOpen then 1 else 0

theorem TimerSound.congr {before after : WsSession}
    (sound : before.TimerSound)
    (live : after.timer.live = before.timer.live)
    (role : after.history.role = before.history.role)
    (accepts : after.ws.accepts = before.ws.accepts)
    (socket : after.ws.socketOpen = before.ws.socketOpen)
    (phase : after.ws.isOpen = true → before.ws.isOpen = true) :
    after.TimerSound where
  single := live ▸ sound.single
  server isServer := live ▸ sound.server (role ▸ isServer)
  accepts isClient := accepts ▸ sound.accepts (role ▸ isClient)
  client isClient isOpen := by
    rw [live, socket]
    exact sound.client (role ▸ isClient) (phase isOpen)

theorem TimerSound.narrowed {before after : WsSession}
    (sound : before.TimerSound)
    (narrows : WsStream.Narrows before.ws after.ws)
    (timer : after.timer = before.timer)
    (role : after.history.role = before.history.role) : after.TimerSound :=
  sound.congr (congrArg WaitableTimer.live timer) role narrows.accepts
    narrows.socketOpen narrows.isOpen

/-- Cancelling is harmless once the stream is not open. -/
theorem TimerSound.cancelled {session : WsSession}
    (sound : session.TimerSound) (ended : session.ws.isOpen = false) :
    TimerSound { session with timer := session.timer.cancel } where
  single := Nat.le_trans (WaitableTimer.cancel_live_le _) sound.single
  server isServer := Nat.eq_zero_of_le_zero
    (sound.server isServer ▸ WaitableTimer.cancel_live_le session.timer)
  accepts := sound.accepts
  client _ isOpen := by
    have isOpen : session.ws.isOpen = true := isOpen
    rw [ended] at isOpen
    cases isOpen

/-- Restarting swaps the pending wait for another one; it neither adds a wait
where none was pending nor takes away one that has expired. -/
theorem restarted_live {session : WsSession}
    (single : session.timer.live ≤ 1) :
    session.restarted.timer.live =
      if session.ws.isOpen then session.timer.live
      else session.timer.expired := by
  unfold WaitableTimer.live at single
  unfold restarted
  by_cases isOpen : session.ws.isOpen = true
  · by_cases waiting : session.timer.pending = 0
    · simp [isOpen, waiting, WaitableTimer.live]
    · simp only [isOpen, waiting, ne_eq, not_false_eq_true, and_self,
        if_true, note, WaitableTimer.asyncWait_live]
      simp only [WaitableTimer.live, WaitableTimer.cancel]
      omega
  · simp [isOpen, WaitableTimer.live]

theorem TimerSound.restarted {session : WsSession}
    (sound : session.TimerSound) : session.restarted.TimerSound := by
  by_cases isOpen : session.ws.isOpen = true
  · have live := restarted_live sound.single
    rw [if_pos isOpen] at live
    refine sound.congr live ?_ ?_ ?_ fun _ => isOpen
    · exact congrArg Frame.role (restarted_frame session)
    · rw [restarted_ws]
    · rw [restarted_ws]
  · have notOpen : session.ws.isOpen = false := by simpa using isOpen
    have idle : ¬(session.timer.pending ≠ 0 ∧ session.ws.isOpen = true) :=
      fun rearm => isOpen rearm.2
    rw [WsSession.restarted, if_neg idle]
    exact sound.cancelled notOpen

theorem timerSound_ofCore : OfCore TimerSound :=
  .of_iff fun _ =>
    ⟨fun sound => sound.congr rfl rfl rfl rfl id,
      fun sound => sound.congr rfl rfl rfl rfl id⟩

/-! ## The functions -/

theorem cancelTimer_timerSound {session : WsSession}
    (ended : session.ws.isOpen = false) :
    KeepsAt (Carried TimerSound) cancelTimer session :=
  ⟨cancelTimer_codeKept session, fun _ sound => sound.cancelled ended⟩

theorem restartTimer_timerSound : Keeps (Carried TimerSound) restartTimer :=
  restartTimer_carried fun _ => TimerSound.restarted

theorem queue_timerSound : KeptByQueue (Carried TimerSound) where
  cancelTimer _ := cancelTimer_timerSound
  onException := onException_carried timerSound_ofCore
  withLock := withLock_carried timerSound_ofCore
  pushed _ _ := modify_carried rfl rfl rfl rfl id fun sound =>
    sound.congr rfl rfl rfl rfl id
  popped _ := modify_carried rfl rfl rfl rfl id fun sound =>
    sound.congr rfl rfl rfl rfl id
  requested _ _ := modify_carried rfl rfl rfl rfl (fun _ => rfl) fun sound =>
    sound.congr rfl rfl rfl rfl id
  kindSet _ _ := modify_carried rfl rfl rfl rfl id fun sound =>
    sound.congr rfl rfl rfl rfl id
  asyncWrite data session :=
    startOp_carried (asyncWrite_codeKept data session) fun sound =>
      sound.congr rfl rfl rfl rfl id
  asyncClose reason session :=
    startOp_carried (asyncClose_codeKept reason session) fun sound =>
      sound.congr rfl rfl rfl rfl WsStream.isOpen_of_asyncClose

theorem doRead_timerSound : Keeps (Carried TimerSound) doRead :=
  doRead_keeps restartTimer_timerSound fun session =>
    startOp_carried (asyncRead_codeKept session) fun sound =>
      sound.congr rfl rfl rfl rfl id

theorem onOpen_timerSound : Keeps (Carried TimerSound) onOpen :=
  deferCallback_carried onOpen_codeKept fun _ sound =>
    sound.congr rfl rfl rfl rfl id

theorem parts_timerSound : KeptByParts (Carried TimerSound) :=
  queue_timerSound.parts restartTimer_timerSound fun _ =>
    modify_carried rfl rfl rfl rfl id fun sound =>
      sound.congr rfl rfl rfl rfl id

theorem onMessage_timerSound (isText : Bool) :
    Keeps (Carried TimerSound) (onMessage isText) :=
  deferCallback_carried (onMessage_codeKept isText) fun _ sound =>
    sound.congr rfl rfl rfl rfl id

theorem acceptHandler_timerSound (ec : Option ErrorCode) :
    Keeps (Carried TimerSound) (acceptHandler ec) :=
  acceptHandler_keeps (fun _ => modify_carried rfl rfl rfl rfl id fun sound =>
    sound.congr rfl rfl rfl rfl id) onOpen_timerSound doRead_timerSound
    parts_timerSound.onException ec

/-! ## The handler of the timer -/

theorem restartTimer_idle {session : WsSession}
    (held : 0 < session.locker.lockCount)
    (idle : session.timer.pending = 0) :
    restartTimer session =
      .ok () { session with timer := session.timer.cancel } := by
  rw [restartTimer_run held, restarted]
  simp [idle]

/-- The session once `send_ping` has started the ping. -/
def pingSent (session : WsSession) : WsSession :=
  { session.locked with
    ws := session.ws.asyncPing
    pingCounter := (session.pingCounter + 1) % 2 ^ 64 }.note
    (.ping (toString session.pingCounter))

theorem sendPing_run {session : WsSession}
    (held : 0 < session.locker.lockCount) :
    sendPing session = .ok () session.pingSent := by
  have stillHeld : 0 < ({ session with
      pingCounter := (session.pingCounter + 1) % 2 ^ 64 } :
        WsSession).locker.lockCount := held
  simp only [sendPing, get_bind_run, modify_bind_run, asyncPing]
  rw [startOp_run stillHeld]
  rfl

/-- The session after a first expiry. -/
def pinged (session : WsSession) : WsSession :=
  let sent := pingSent { session with
    waitOnPong := true, timer := session.timer.cancel }
  { sent.locked with timer := sent.timer.asyncWait }.note .wait

theorem timerHandler_pings {session : WsSession}
    (held : 0 < session.locker.lockCount) (idle : session.timer.pending = 0)
    (quiet : session.waitOnPong = false) (isOpen : session.ws.isOpen = true) :
    timerHandler none session = .ok () session.pinged := by
  have restarts : restartTimer { session with waitOnPong := true } =
      .ok () { session with
        waitOnPong := true, timer := session.timer.cancel } :=
    restartTimer_idle held idle
  have sends : sendPing { session with
      waitOnPong := true, timer := session.timer.cancel } =
        .ok () (pingSent { session with
          waitOnPong := true, timer := session.timer.cancel }) :=
    sendPing_run held
  simp only [timerHandler, get_bind_run, quiet, isOpen]
  simp only [reduceCtorEq, if_false, Bool.false_eq_true, not_false_eq_true,
    and_self, if_true, modify_bind_run, bind_run_ok restarts,
    bind_run_ok sends]
  exact startOp_run (Nat.succ_pos _) _ _

/-- A later expiry, or an error of the timer, closes the socket. -/
theorem timerHandler_closes {session : WsSession} {ec : Option ErrorCode}
    (failed : ec ≠ some .operationAborted)
    (later : ¬(ec = none ∧ ¬session.waitOnPong = true)) :
    (after (timerHandler ec) session).core =
      { session with
        ws := session.ws.closeSocket
        timer := session.timer.cancel }.core := by
  cases ec with
  | none =>
      rw [after_eq_of_ok (by
        rw [timerHandler, get_bind_run, if_neg failed, if_neg later]
        rfl)]
  | some ec =>
      rw [after_eq_of_ok (by
        rw [timerHandler, get_bind_run, if_neg failed, if_neg later]
        rfl)]
      rfl

theorem TimerSound.expired {session : WsSession} {timer : WaitableTimer}
    (sound : session.TimerSound)
    (ended : session.ws.isOpen = false) (none_left : timer.live = 0) :
    TimerSound { session with timer := timer } where
  single := by
    show timer.live ≤ 1
    omega
  server _ := none_left
  accepts := sound.accepts
  client _ isOpen := by
    have isOpen : session.ws.isOpen = true := isOpen
    rw [ended] at isOpen
    cases isOpen

theorem TimerSound.socketClosed {session : WsSession}
    {timer : WaitableTimer} (sound : session.TimerSound)
    (none_left : timer.live = 0) :
    TimerSound { session with
      ws := session.ws.closeSocket, timer := timer.cancel } := by
  have still_none : timer.cancel.live = 0 :=
    Nat.eq_zero_of_le_zero (none_left ▸ timer.cancel_live_le)
  refine ⟨?_, fun _ => still_none, sound.accepts, fun _ _ => still_none⟩
  show timer.cancel.live ≤ 1
  omega

theorem TimerSound.pinged {session : WsSession} {timer : WaitableTimer}
    (sound : session.TimerSound) (waited : session.timer.live = 1)
    (none_left : timer.live = 0) (isOpen : session.ws.isOpen = true) :
    TimerSound (WsSession.pinged { session with timer := timer }) := by
  have still_none : timer.cancel.live = 0 :=
    Nat.eq_zero_of_le_zero (none_left ▸ timer.cancel_live_le)
  have one_again : timer.cancel.asyncWait.live = 1 := by simp [still_none]
  have notServer : session.history.role ≠ .server := fun isServer => by
    have never := sound.server isServer
    omega
  have socket : session.history.role = .client →
      session.ws.socketOpen = true := by
    intro isClient
    have live := sound.client isClient isOpen
    by_contra shut
    rw [if_neg shut] at live
    omega
  refine ⟨Nat.le_of_eq one_again, fun isServer => absurd isServer notServer,
    sound.accepts, fun isClient _ => ?_⟩
  exact one_again.trans (if_pos (socket isClient)).symm

theorem timerHandler_timerSound {session : WsSession}
    {ec : Option ErrorCode} {timer : WaitableTimer}
    (sound : session.TimerSound)
    (taken : session.timer.take? (ec = some .operationAborted) = some timer)
    (held : Held { session with timer := timer }) :
    TimerSound (after (timerHandler ec) { session with timer := timer }) := by
  obtain ⟨-, oneLess, -⟩ := WaitableTimer.take?_eq_some taken
  by_cases aborted : ec = some .operationAborted
  · rw [after_eq_of_ok (by
      rw [timerHandler, get_bind_run, if_pos aborted]
      rfl)]
    refine sound.congr ?_ rfl rfl rfl id
    simp only [aborted, decide_true, if_true] at oneLess
    exact oneLess.symm
  simp only [aborted, decide_false, Bool.false_eq_true, if_false] at oneLess
  have single := sound.single
  have none_left : timer.live = 0 := by omega
  by_cases first : ec = none ∧ ¬session.waitOnPong = true
  · obtain ⟨rfl, quiet⟩ := first
    by_cases isOpen : session.ws.isOpen = true
    · have idle : timer.pending = 0 := by
        unfold WaitableTimer.live at none_left
        omega
      have pings : timerHandler none { session with timer := timer } = _ :=
        timerHandler_pings held.pos idle (Bool.eq_false_iff.mpr quiet) isOpen
      rw [after_eq_of_ok pings]
      exact sound.pinged (by omega) none_left isOpen
    · rw [after_eq_of_ok (by
        rw [timerHandler, get_bind_run, if_neg aborted, if_pos ⟨rfl, quiet⟩,
          if_neg isOpen]
        rfl)]
      exact sound.expired (Bool.eq_false_iff.mpr isOpen) none_left
  · exact timerSound_ofCore _ _ (timerHandler_closes aborted first)
      (sound.socketClosed none_left)

/-! ## Every reachable state -/

theorem timerSound_inductive : Inductive LocksSound TimerSound where
  ofCore := timerSound_ofCore
  launched role := by cases role <;> constructor <;> decide
  parts := parts_timerSound
  runJob := queue_timerSound.runJob
  acceptDone := by
    intro session ec ws _ sound done held
    refine (acceptHandler_timerSound ec _).carried held ?_
    obtain ⟨some_accept, rfl⟩ := WsStream.acceptDone?_eq_some done
    have notClient : session.history.role ≠ .client := fun isClient => by
      have no_accept := sound.accepts isClient
      omega
    exact ⟨sound.single, sound.server,
      fun isClient => absurd isClient notClient,
      fun isClient => absurd isClient notClient⟩
  readDone := by
    intro session ec chunk isText stillOpen ws _ sound done held
    have closed := WsStream.readDone?_closed done
    exact (readHandler_keeps parts_timerSound onMessage_timerSound
      doRead_timerSound isText closed).carried held
      (sound.narrowed (WsStream.readDone?_narrows done) rfl rfl)
  writeDone _ sound done held :=
    (queue_timerSound.writeHandler _ _).carried held
      (sound.narrowed (WsStream.writeDone?_narrows done) rfl rfl)
  pingDone sound done :=
    sound.narrowed (WsStream.pingDone?_narrows done) rfl rfl
  closeDone sound done :=
    sound.narrowed (WsStream.closeDone?_narrows done) rfl rfl
  timerExpired sound expires :=
    sound.congr (WaitableTimer.expire?_eq_some expires).1 rfl rfl rfl id
  timerDone := timerHandler_timerSound
  callbackBegins sound _ _ := sound.congr rfl rfl rfl rfl id
  callbackReturns sound _ := sound.congr rfl rfl rfl rfl id
  streamEnds sound ends :=
    sound.narrowed (WsStream.endStream?_narrows ends) rfl rfl
  writeBlock sound := sound.congr rfl rfl rfl rfl id
  erase _ sound _ _ := by
    unfold destroyed
    split <;> exact sound.congr rfl rfl rfl rfl id

/-- While the stream is open, exactly one wait is live if and only if a
client session has not closed its socket. -/
theorem timerArmed_iff {session : WsSession}
    (reached : sessionMachine.Reachable session)
    (isOpen : session.ws.isOpen = true) :
    session.timer.live = 1 ↔
      session.history.role = .client ∧ session.ws.socketOpen = true := by
  have sound :=
    timerSound_inductive.of_reachable locksSound_of_reachable reached
  constructor
  · intro armed
    cases role : session.history.role with
    | server =>
        have never := sound.server role
        omega
    | client =>
        refine ⟨rfl, ?_⟩
        by_contra shut
        rw [sound.client role isOpen, if_neg shut] at armed
        cases armed
  · rintro ⟨isClient, socket⟩
    rw [sound.client isClient isOpen, if_pos socket]

/-- A client session that was just started waits for its first expiry. -/
theorem timerArmed_iff_client :
    (launched .client).timer.live = 1 ↔
      (launched .client).history.role = .client ∧
        (launched .client).ws.socketOpen = true :=
  timerArmed_iff (.initial ⟨.client, rfl⟩) rfl

/-- No wait is live once a server session has accepted its client. -/
theorem timer_unarmed_after_accept :
    ¬∀ session, sessionMachine.Reachable session →
      session.ws.isOpen = true → session.isOpen = true →
      session.inStart = false → session.timer.live = 1 := by
  intro armed
  have accepts : sessionMachine.run (launched .server)
      [.startReturns, .acceptDone none] = some _ := rfl
  have live := armed _ (Machine.reachable_of_run ⟨.server, rfl⟩ accepts)
    rfl rfl rfl
  exact absurd live (by decide)

end Webservice.WsSession
