import Webservice.Session.Locks

/-!
# Invariants of a session

Most invariants of a session say nothing about its locks, about the jobs that
wait on its strand or about the exceptions it reported.  For such an invariant
the steps that only touch these need no proof, the code may be run under a
lock, and what is left is one obligation for each of the others.
-/

namespace Webservice.WsSession

open Effects

/-- The session without its locks, its strand and its error reports; whether
it has started only tells who holds a lock. -/
def core (session : WsSession) : WsSession :=
  { session with
    inStart := false
    locker := .constructed
    strand := []
    strandHost := none
    history :=
      { session.history with
        reported := []
        escaped := [] } }

/-- Code run under a lock carries the property along. -/
structure Carried (property : WsSession → Prop)
    (before after : WsSession) : Prop where
  code : CodeKept before after
  carried : before.Held → property before → property after

instance (property : WsSession → Prop) :
    IsPreorder WsSession (Carried property) where
  refl session := ⟨refl_of CodeKept session, fun _ => id⟩
  trans _ _ _ left right :=
    ⟨trans_of CodeKept left.code right.code, fun held holds =>
      right.carried (left.code.held held) (left.carried held holds)⟩

/-- Whatever keeps to `CodeKept` carries such a property along. -/
theorem KeptByParts.carried {property : WsSession → Prop}
    (follows : ∀ {before after : WsSession},
      CodeKept before after → property before → property after) :
    KeptByParts (Carried property) where
  cancelTimer session ended :=
    have code := parts_codeKept.cancelTimer session ended
    ⟨code, fun _ => follows code⟩
  restartTimer session :=
    ⟨restartTimer_codeKept session, fun _ =>
      follows (restartTimer_codeKept session)⟩
  pongSeen session :=
    ⟨parts_codeKept.pongSeen session, fun _ =>
      follows (parts_codeKept.pongSeen session)⟩
  onException error session :=
    ⟨onException_codeKept error session, fun _ =>
      follows (onException_codeKept error session)⟩
  close reason session :=
    ⟨queue_codeKept.close reason session, fun _ =>
      follows (queue_codeKept.close reason session)⟩

/-- The property reads the core of a session only. -/
def OfCore (property : WsSession → Prop) : Prop :=
  ∀ before after : WsSession,
    after.core = before.core → property before → property after

theorem OfCore.of_iff {property : WsSession → Prop}
    (same : ∀ session : WsSession, property session ↔ property session.core) :
    OfCore property := by
  intro before after sameCore holds
  rw [same, sameCore]
  exact (same before).mp holds

section

variable {property : WsSession → Prop}

theorem modify_carried {change : WsSession → WsSession}
    {session : WsSession} (frame : (change session).frame = session.frame)
    (phase : (change session).ws.phase = session.ws.phase)
    (holders : (change session).holders = session.holders)
    (locker : (change session).locker = session.locker)
    (closing : session.closeReason.isSome = true →
      (change session).closeReason.isSome = true)
    (carried : property session → property (change session)) :
    KeepsAt (Carried property) (modify change : SessionCode Unit) session :=
  ⟨modify_codeKept frame phase holders locker closing, fun _ => carried⟩

theorem startOp_carried {op : WsSession → StreamOp}
    {begins : WsSession → WsSession} {session : WsSession}
    (code : KeepsAt CodeKept (startOp op begins) session)
    (carried : property session →
      property ((begins session.locked).note (op session.locked))) :
    KeepsAt (Carried property) (startOp op begins) session := by
  refine ⟨code, fun held => ?_⟩
  rw [after_eq_of_ok (startOp_run held.pos op begins)]
  exact carried

theorem onException_carried (ofCore : OfCore property)
    (error : Exception) : Keeps (Carried property) (onException error) :=
  fun _ => modify_carried rfl rfl rfl rfl id (ofCore _ _ rfl)

theorem withLock_carried (ofCore : OfCore property)
    {body : SessionCode Unit} (kept : Keeps (Carried property) body) :
    Keeps (Carried property) (withLock makeLock body) := by
  intro session
  refine ⟨withLock_codeKept (fun session => (kept session).code) session,
    fun held holds => ?_⟩
  have heldLocked : session.locked.Held := by
    simp only [Held, locked_holders, locked_lockCount] at held ⊢
    omega
  have bodyHolds := (kept session.locked).carried heldLocked
    (ofCore session session.locked rfl holds)
  unfold after at bodyHolds ⊢
  unfold withLock
  rw [makeLock_run held.pos]
  cases outcome : body session.locked with
  | ok result next =>
      simp only [outcome] at bodyHolds ⊢
      exact ofCore next next.unlocked rfl bodyHolds
  | error error next =>
      simp only [outcome] at bodyHolds ⊢
      exact ofCore next next.unlocked rfl bodyHolds

theorem close_carried (ofCore : OfCore property) {reason : CloseReason}
    (kept : Keeps (Carried property) (closeJob reason)) :
    Keeps (Carried property) (close reason) :=
  catching_keeps (withLock_carried ofCore kept) (onException_carried ofCore)

theorem deferCallback_carried {callback : WsSession → Callback}
    {captures : WsSession → WsSession}
    (code : Keeps CodeKept (deferCallback callback captures))
    (carried : ∀ session, property session →
      property { captures session.locked with
        handlerStrand :=
          session.handlerStrand ++ [callback session.locked] }) :
    Keeps (Carried property) (deferCallback callback captures) := by
  intro session
  refine ⟨code session, fun held holds => ?_⟩
  rw [after_eq_of_ok (by
    rw [deferCallback, catching, bind_run_ok (makeLock_run held.pos),
      modify_run])]
  exact carried session holds

/-- What restarting the timer carries along. -/
theorem restartTimer_carried
    (carried : ∀ session, property session → property session.restarted) :
    Keeps (Carried property) restartTimer := by
  intro session
  refine ⟨restartTimer_codeKept session, fun held holds => ?_⟩
  rw [after_eq_of_ok (restartTimer_run held.pos)]
  exact carried session holds

end

/-! ## Steps that do not reach the core -/

theorem runBody_core (host : Host) (body : SessionCode Unit)
    (session : WsSession) :
    (runBody host body session).core = (after body session).core := by
  unfold runBody after
  cases body session with
  | ok result next => rfl
  | error error next => cases host <;> rfl

theorem runHandler_core (host : Host) (body : SessionCode Unit)
    (session : WsSession) :
    (runHandler host body session).core = (after body session).core :=
  runBody_core host body session

theorem dispatch_core (session : WsSession) (job : StrandJob) :
    (after (dispatch job) session).core = session.core := by
  by_cases drained : session.locker.lockCount = 0
  · have threw := makeLock_run_drained drained
    rw [after_eq_of_ok (by
      rw [dispatch, catching, bind_run, threw]
      rfl)]
    rfl
  · rw [after_eq_of_ok (by
      rw [dispatch, catching,
        bind_run_ok (makeLock_run (Nat.pos_of_ne_zero drained))]
      rfl)]
    rfl

theorem restarted_core {first second : WsSession}
    (same : first.core = second.core) :
    first.restarted.core = second.restarted.core := by
  have restartedCore : ∀ session : WsSession,
      session.restarted.core = session.core.restarted.core := by
    intro session
    unfold restarted
    by_cases rearm : session.timer.pending ≠ 0 ∧ session.ws.isOpen
    · have rearmCore :
          session.core.timer.pending ≠ 0 ∧ session.core.ws.isOpen := rearm
      rw [if_pos rearm, if_pos rearmCore]
      rfl
    · have rearmCore :
          ¬(session.core.timer.pending ≠ 0 ∧ session.core.ws.isOpen) := rearm
      rw [if_neg rearm, if_neg rearmCore]
      rfl
  rw [restartedCore first, restartedCore second, same]

/-! ## The rule -/

/-- What is left to show of a property that reads the core only, so that
every step keeps it; the invariants in `base` may be used. -/
structure Preserved (base property : WsSession → Prop) : Prop where
  ofCore : OfCore property
  parts : KeptByParts (Carried property)
  runJob : ∀ job, Keeps (Carried property) (runJob job)
  acceptDone : ∀ {session : WsSession} {ec : Option ErrorCode} {ws},
    base session → property session →
    session.ws.acceptDone? ec = some ws →
    Held { session with ws := ws } →
    property (after (acceptHandler ec) { session with ws := ws })
  readDone : ∀ {session : WsSession} {ec chunk isText stillOpen ws},
    base session → property session →
    session.ws.readDone? ec chunk stillOpen = some ws →
    Held { session with ws := ws } →
    property (after (readHandler isText ec)
      { session.receive ec chunk isText with ws := ws })
  writeDone : ∀ {session : WsSession} {ec : Option ErrorCode} {ws},
    base session → property session →
    session.ws.writeDone? ec = some ws →
    Held { session with ws := ws } →
    property (after (writeHandler ec) { session with ws := ws })
  pingDone : ∀ {session : WsSession} {ec stillOpen ws},
    property session → session.ws.pingDone? ec stillOpen = some ws →
    property { session with ws := ws }
  closeDone : ∀ {session : WsSession} {stillOpen ws},
    property session → session.ws.closeDone? stillOpen = some ws →
    property { session with ws := ws }
  timerExpired : ∀ {session : WsSession} {timer},
    property session → session.timer.expire? = some timer →
    property { session with timer := timer }
  timerDone : ∀ {session : WsSession} {ec : Option ErrorCode} {timer},
    property session →
    session.timer.take? (ec = some .operationAborted) = some timer →
    Held { session with timer := timer } →
    property (after (timerHandler ec) { session with timer := timer })
  callbackBegins : ∀ {session : WsSession} {callback callbacks},
    property session → session.running = none →
    session.handlerStrand = callback :: callbacks →
    property { session.callBack (.began callback) with
      running := some callback, handlerStrand := callbacks }
  callbackReturns : ∀ {session : WsSession} {callback},
    property session → session.running = some callback →
    property { session.callBack (.returned callback) with running := none }
  streamEnds : ∀ {session : WsSession} {ws},
    property session → session.ws.endStream? = some ws →
    property { session with ws := ws }
  writeBlock : ∀ {session : WsSession} {blocked},
    property session →
    property { session with
      ws := { session.ws with writeBlocked := blocked } }
  erase : ∀ {session : WsSession}, base session → property session →
    session.holders = 0 → session.erased = false →
    property session.destroyed

/-- A preserved property that holds of every new session. -/
structure Inductive (base property : WsSession → Prop) : Prop
    extends Preserved base property where
  launched : ∀ role, property (launched role)

theorem Preserved.step {base property : WsSession → Prop}
    (invariant : Preserved base property) {session next : WsSession}
    {event : SessionEvent} (sound : session.LocksSound)
    (established : base session) (holds : property session)
    (stepped : session.step event = some next) : property next := by
  have ofCore := invariant.ofCore
  cases event with
  | startReturns =>
      obtain ⟨-, rfl⟩ := step_startReturns stepped
      exact ofCore session _ rfl holds
  | acceptDone ec =>
      obtain ⟨-, ws, done, rfl⟩ := complete_eq_some stepped
      have held : Held { session with ws := ws } := sound.held_of_taken rfl (by
        have oneLess := WsStream.acceptDone?_outstanding done
        simp only [holders]
        omega)
      exact ofCore _ _ (runHandler_core _ _ _)
        (invariant.acceptDone established holds done held)
  | readDone ec chunk isText stillOpen =>
      obtain ⟨-, ws, done, rfl⟩ := complete_eq_some stepped
      have held : Held { session with ws := ws } := sound.held_of_taken rfl (by
        have oneLess := WsStream.readDone?_outstanding done
        simp only [holders]
        omega)
      exact ofCore _ _ (runHandler_core _ _ _)
        (invariant.readDone established holds done held)
  | writeDone ec =>
      obtain ⟨-, ws, done, rfl⟩ := complete_eq_some stepped
      have held : Held { session with ws := ws } := sound.held_of_taken rfl (by
        have oneLess := WsStream.writeDone?_outstanding done
        simp only [holders]
        omega)
      exact ofCore _ _ (runHandler_core _ _ _)
        (invariant.writeDone established holds done held)
  | pingDone ec stillOpen =>
      obtain ⟨-, ws, done, rfl⟩ := complete_eq_some stepped
      have held : Held { session with ws := ws } := sound.held_of_taken rfl (by
        have oneLess := WsStream.pingDone?_outstanding done
        simp only [holders]
        omega)
      exact ofCore _ _ (runHandler_core _ _ _)
        ((invariant.parts.pingHandler ec _).carried held
          (invariant.pingDone holds done))
  | closeDone ec stillOpen =>
      obtain ⟨-, ws, done, rfl⟩ := complete_eq_some stepped
      have held : Held { session with ws := ws } := sound.held_of_taken rfl (by
        have oneLess := WsStream.closeDone?_outstanding done
        simp only [holders]
        omega)
      exact ofCore _ _ (runHandler_core _ _ _)
        ((invariant.parts.closeHandler ec _).carried held
          (invariant.closeDone holds done))
  | controlFrame =>
      obtain ⟨-, reading, rfl⟩ := step_controlFrame stepped
      have counted := sound.counted
      have held : 0 < session.locker.lockCount := by
        simp only [holders, WsStream.outstanding] at counted
        omega
      -- the lock of the outstanding read protects this code
      have heldLocked : session.locked.Held := by
        simp only [Held, locked_holders, locked_lockCount]
        omega
      have kept := (activity_keeps invariant.parts session.locked).carried
        heldLocked (ofCore session session.locked rfl holds)
      refine ofCore _ _ ((runBody_core _ _ _).trans ?_) kept
      rw [after_eq_of_ok (activity_run held),
        after_eq_of_ok (activity_run heldLocked.pos)]
      exact restarted_core rfl
  | timerExpired =>
      obtain ⟨timer, expires, rfl⟩ := step_timerExpired stepped
      exact invariant.timerExpired holds expires
  | timerDone ec =>
      obtain ⟨-, timer, taken, rfl⟩ := step_timerDone stepped
      have held : Held { session with timer := timer } :=
        sound.held_of_taken rfl (by
          have oneLess := (WaitableTimer.take?_eq_some taken).1
          simp only [holders]
          omega)
      exact ofCore _ _ (runHandler_core _ _ _)
        (invariant.timerDone holds taken held)
  | runJob host =>
      obtain ⟨-, job, jobs, queued, -, rfl⟩ := step_runJob stepped
      have held : Held { session with strand := jobs } :=
        sound.held_of_taken rfl (by
          simp only [holders, queued, List.length_cons]
          omega)
      exact ofCore _ _ (runHandler_core _ _ _)
        ((invariant.runJob job _).carried held (ofCore session _ rfl holds))
  | release host =>
      obtain ⟨-, rfl⟩ := step_release stepped
      exact ofCore session _ rfl holds
  | callbackBegins =>
      obtain ⟨free, callback, callbacks, queued, rfl⟩ :=
        step_callbackBegins stepped
      exact invariant.callbackBegins holds free queued
  | callbackReturns =>
      obtain ⟨callback, busy, rfl⟩ := step_callbackReturns stepped
      refine ofCore _ _ ?_ (invariant.callbackReturns holds busy)
      rfl
  | dispatch job =>
      obtain ⟨-, rfl⟩ := step_dispatch stepped
      exact ofCore _ _ (dispatch_core session job) holds
  | streamEnds =>
      obtain ⟨ws, ends, rfl⟩ := step_streamEnds stepped
      exact invariant.streamEnds holds ends
  | writeBlock blocked =>
      cases stepped
      exact invariant.writeBlock holds
  | erase =>
      obtain ⟨calledBack, alive, rfl⟩ := step_erase stepped
      have drained := sound.drained_of_calledBack calledBack
      exact invariant.erase established holds
        (sound.counted.symm.trans drained) alive

/-- The invariant rule for sessions. -/
theorem Inductive.of_reachable {base property : WsSession → Prop}
    (invariant : Inductive base property)
    (established : ∀ {session : WsSession},
      sessionMachine.Reachable session → base session)
    {session : WsSession} (reached : sessionMachine.Reachable session) :
    property session :=
  reached.invariantOver property
    (fun _ initially => by
      obtain ⟨role, rfl⟩ := initially
      exact invariant.launched role)
    fun _ _ _ earlier holds _ stepped =>
      invariant.toPreserved.step (locksSound_of_reachable earlier)
        (established earlier) holds stepped

/-! ## The handshake -/

/-- The handshake of the stream is in flight as long as it is not over. -/
structure HandshakeSound (session : WsSession) : Prop where
  single : session.ws.accepts ≤ 1
  phase : session.ws.phase = .handshake ↔ 0 < session.ws.accepts

theorem HandshakeSound.congr {before after : WsSession}
    (sound : before.HandshakeSound)
    (accepts : after.ws.accepts = before.ws.accepts)
    (phase : after.ws.phase = before.ws.phase ∨
      after.ws.phase = before.ws.phase.afterEnd) : after.HandshakeSound := by
  have handshake :
      after.ws.phase = .handshake ↔ before.ws.phase = .handshake := by
    rcases phase with same | ended
    · rw [same]
    · rw [ended]
      cases before.ws.phase <;> simp [StreamPhase.afterEnd]
  refine ⟨accepts ▸ sound.single, ?_⟩
  rw [handshake, accepts]
  exact sound.phase

theorem HandshakeSound.codeKept {before after : WsSession}
    (sound : before.HandshakeSound) (kept : CodeKept before after) :
    after.HandshakeSound :=
  sound.congr (congrArg Frame.accepts kept.frame) kept.phase

theorem HandshakeSound.narrowed {session : WsSession} {ws : WsStream}
    (sound : session.HandshakeSound)
    (narrows : WsStream.Narrows session.ws ws) :
    HandshakeSound { session with ws := ws } :=
  sound.congr narrows.accepts narrows.phase

theorem handshakeSound_inductive : Inductive LocksSound HandshakeSound where
  ofCore := .of_iff fun _ => ⟨fun sound => ⟨sound.single, sound.phase⟩,
    fun sound => ⟨sound.single, sound.phase⟩⟩
  launched role := by cases role <;> exact ⟨by decide, by decide⟩
  parts := .carried fun kept sound => sound.codeKept kept
  runJob job session := ⟨queue_codeKept.runJob job session, fun _ sound =>
    sound.codeKept (queue_codeKept.runJob job session)⟩
  acceptDone := by
    intro session ec ws _ sound done _
    refine HandshakeSound.codeKept ?_ (acceptHandler_codeKept ec _)
    obtain ⟨some_accept, rfl⟩ := WsStream.acceptDone?_eq_some done
    have single := sound.single
    have last : session.ws.accepts - 1 = 0 := by omega
    refine ⟨?_, ?_⟩
    · show session.ws.accepts - 1 ≤ 1
      omega
    · show (if ec = none then StreamPhase.opened else .ended) = .handshake ↔
        0 < session.ws.accepts - 1
      rw [last]
      split <;> simp
  readDone := by
    intro session ec chunk isText stillOpen ws _ sound done _
    have received : (session.receive ec chunk isText).HandshakeSound :=
      ⟨sound.single, sound.phase⟩
    exact (received.narrowed (WsStream.readDone?_narrows done)).codeKept
      (readHandler_codeKept isText (WsStream.readDone?_closed done))
  writeDone _ sound done _ :=
    (sound.narrowed (WsStream.writeDone?_narrows done)).codeKept
      (queue_codeKept.writeHandler _ _)
  pingDone sound done := sound.narrowed (WsStream.pingDone?_narrows done)
  closeDone sound done := sound.narrowed (WsStream.closeDone?_narrows done)
  timerExpired sound _ := ⟨sound.single, sound.phase⟩
  timerDone := by
    intro session ec timer sound _ _
    have taken : HandshakeSound { session with timer := timer } :=
      ⟨sound.single, sound.phase⟩
    exact taken.codeKept (timer_codeKept.timerHandler ec _)
  callbackBegins sound _ _ := ⟨sound.single, sound.phase⟩
  callbackReturns sound _ := ⟨sound.single, sound.phase⟩
  streamEnds sound ends := sound.narrowed (WsStream.endStream?_narrows ends)
  writeBlock sound := ⟨sound.single, sound.phase⟩
  erase _ sound _ _ := by
    unfold destroyed
    split <;> exact ⟨sound.single, sound.phase⟩

theorem handshakeSound_of_reachable {session : WsSession}
    (reached : sessionMachine.Reachable session) : session.HandshakeSound :=
  handshakeSound_inductive.of_reachable locksSound_of_reachable reached

end Webservice.WsSession
