import Webservice.Session.Parts

/-!
# Locks of a session

Every queued or running handler of a session holds exactly one lock of
`locker_`.  Code that runs under a lock of its own gains one lock with every
operation it starts and loses none, so a handler cannot drain the locker
before its own lock is released.
-/

namespace Webservice.WsSession

open Effects

/-- Somebody outside the queues holds a lock: the running code does. -/
def Held (session : WsSession) : Prop :=
  session.holders < session.locker.lockCount

theorem Held.pos {session : WsSession} (held : session.Held) :
    0 < session.locker.lockCount :=
  Nat.zero_lt_of_lt held

/-- What no function of the session writes; steps of the strands and
completions do. -/
structure Frame where
  inStart : Bool
  accepts : Nat
  received : List UInt8
  strand : List StrandJob
  strandHost : Option Host
  running : Option Callback
  erased : Bool
  role : Role
  delivered : List Message
  callbacks : List CallbackEvent

def frame (session : WsSession) : Frame :=
  { inStart := session.inStart
    accepts := session.ws.accepts
    received := session.ws.received
    strand := session.strand
    strandHost := session.strandHost
    running := session.running
    erased := session.erased
    role := session.history.role
    delivered := session.history.delivered
    callbacks := session.history.callbacks }

/-- What code of the session keeps.  Under a lock it gains as many locks as
handlers and does not reach the callback of the locker. -/
structure CodeKept (before after : WsSession) : Prop where
  frame : after.frame = before.frame
  phase : after.ws.phase = before.ws.phase ∨
    after.ws.phase = before.ws.phase.afterEnd
  closing : before.closeReason.isSome = true →
    after.closeReason.isSome = true
  locks : before.Held →
    after.locker.lockCount + before.holders =
        before.locker.lockCount + after.holders ∧
      after.locker.callbacks = before.locker.callbacks ∧
      before.locker.lockCount ≤ after.locker.lockCount

theorem CodeKept.held {before after : WsSession}
    (kept : CodeKept before after) (held : before.Held) : after.Held := by
  have surplus := (kept.locks held).1
  unfold Held at held ⊢
  omega

instance : IsPreorder WsSession CodeKept where
  refl _ := ⟨rfl, .inl rfl, id, fun _ => ⟨rfl, rfl, Nat.le_refl _⟩⟩
  trans first second third left right := by
    refine ⟨right.frame.trans left.frame, ?_,
      right.closing ∘ left.closing, fun held => ?_⟩
    · rcases left.phase with leftSame | leftEnded
      · rw [← leftSame]
        exact right.phase
      · rcases right.phase with rightSame | rightEnded
        · exact .inr (rightSame.trans leftEnded)
        · refine .inr (rightEnded.trans ?_)
          rw [leftEnded, StreamPhase.afterEnd_afterEnd]
    · have leftKept := left.locks held
      have rightKept := right.locks (left.held held)
      exact ⟨by omega, rightKept.2.1.trans leftKept.2.1,
        Nat.le_trans leftKept.2.2 rightKept.2.2⟩

/-! ## Running the lock functions -/

/-- The session with one lock more. -/
def locked (session : WsSession) : WsSession :=
  { session with locker :=
      { session.locker with lockCount := session.locker.lockCount + 1 } }

theorem makeLock_run {session : WsSession}
    (held : 0 < session.locker.lockCount) :
    makeLock session = .ok () session.locked := by
  simp [makeLock, AsyncLocker.makeLock_of_pos held, locked]

theorem makeLock_run_drained {session : WsSession}
    (drained : session.locker.lockCount = 0) :
    makeLock session =
      .error (.runtimeError "async call after shutdown") session := by
  simp [makeLock, AsyncLocker.makeLock_of_zero drained]

theorem startOp_run {session : WsSession}
    (held : 0 < session.locker.lockCount) (op : WsSession → StreamOp)
    (begins : WsSession → WsSession) :
    startOp op begins session =
      .ok () ((begins session.locked).note (op session.locked)) := by
  simp [startOp, bind_run, makeLock_run held]

@[simp] theorem note_holders (session : WsSession) (op : StreamOp) :
    (session.note op).holders = session.holders :=
  rfl

@[simp] theorem locked_holders (session : WsSession) :
    session.locked.holders = session.holders :=
  rfl

@[simp] theorem locked_lockCount (session : WsSession) :
    session.locked.locker.lockCount = session.locker.lockCount + 1 :=
  rfl

@[simp] theorem locked_callbacks (session : WsSession) :
    session.locked.locker.callbacks = session.locker.callbacks :=
  rfl

/-! ## What the functions keep -/

theorem modify_codeKept {change : WsSession → WsSession}
    {session : WsSession} (frame : (change session).frame = session.frame)
    (phase : (change session).ws.phase = session.ws.phase)
    (holders : (change session).holders = session.holders)
    (locker : (change session).locker = session.locker)
    (closing : session.closeReason.isSome = true →
      (change session).closeReason.isSome = true) :
    KeepsAt CodeKept (modify change : SessionCode Unit) session := by
  refine ⟨frame, .inl phase, closing, fun _ => ?_⟩
  rw [after_eq_of_ok (modify_run change session), holders, locker]
  exact ⟨rfl, rfl, Nat.le_refl _⟩

theorem startOp_codeKept {op : WsSession → StreamOp}
    {begins : WsSession → WsSession}
    (frame : ∀ session, (begins session).frame = session.frame)
    (phase : ∀ session, (begins session).ws.phase = session.ws.phase ∨
      (begins session).ws.phase = session.ws.phase.afterEnd)
    (holders : ∀ session, (begins session).holders = session.holders + 1)
    (locker : ∀ session, (begins session).locker = session.locker)
    (closing : ∀ session,
      (begins session).closeReason = session.closeReason) :
    Keeps CodeKept (startOp op begins) := by
  intro session
  by_cases drained : session.locker.lockCount = 0
  · have threw := makeLock_run_drained drained
    exact .of_error (by rw [startOp, bind_run, threw])
      (refl_of CodeKept session)
  · refine .of_ok (startOp_run (Nat.pos_of_ne_zero drained) op begins) ?_
    refine ⟨frame session.locked, phase session.locked, fun isClosing => ?_,
      fun _ => ?_⟩
    · exact (congrArg Option.isSome (closing session.locked)).trans isClosing
    have sameLocker :
        ((begins session.locked).note (op session.locked)).locker =
          session.locked.locker := locker session.locked
    rw [note_holders, holders, locked_holders, sameLocker, locked_lockCount]
    exact ⟨by omega, rfl, Nat.le_succ _⟩

theorem onException_codeKept (error : Exception) :
    Keeps CodeKept (onException error) :=
  fun _ => modify_codeKept rfl rfl rfl rfl id

/-- A lock taken around a body is not the last one to go. -/
theorem withLock_codeKept {body : SessionCode Unit}
    (kept : Keeps CodeKept body) :
    Keeps CodeKept (withLock makeLock body) := by
  intro session
  by_cases drained : session.locker.lockCount = 0
  · have threw := makeLock_run_drained drained
    exact .of_error (by rw [withLock, threw]) (refl_of CodeKept session)
  have bodyKept := kept session.locked
  have unlockKept : ∀ next, CodeKept session.locked next →
      CodeKept session next.unlocked := by
    intro next bodyKept
    refine ⟨bodyKept.frame, bodyKept.phase, bodyKept.closing,
      fun held => ?_⟩
    have heldLocked : session.locked.Held := by
      simp only [Held, locked_holders, locked_lockCount] at held ⊢
      omega
    obtain ⟨surplus, silent, grows⟩ := bodyKept.locks heldLocked
    have sameHolders : next.unlocked.holders = next.holders := rfl
    simp only [locked_holders, locked_lockCount] at surplus grows
    unfold Held at held
    have notLast : next.locker.lockCount ≠ 1 := by omega
    rw [sameHolders]
    simp only [unlocked, AsyncLocker.unlock, if_neg notLast]
    exact ⟨by omega, silent, by omega⟩
  unfold KeepsAt after at bodyKept ⊢
  unfold withLock
  rw [makeLock_run (Nat.pos_of_ne_zero drained)]
  cases outcome : body session.locked with
  | ok result next =>
      simp only [outcome] at bodyKept ⊢
      exact unlockKept next bodyKept
  | error error next =>
      simp only [outcome] at bodyKept ⊢
      exact unlockKept next bodyKept

theorem cancelTimer_codeKept : Keeps CodeKept cancelTimer :=
  fun _ => modify_codeKept rfl rfl (by simp [holders]) rfl id

theorem doTimer_codeKept : Keeps CodeKept doTimer :=
  startOp_codeKept (fun _ => rfl) (fun _ => .inl rfl)
    (fun session => by simp [holders]; omega) (fun _ => rfl) fun _ => rfl

theorem restartTimer_codeKept : Keeps CodeKept restartTimer :=
  .bind (.bind .get fun _ => .bind cancelTimer_codeKept fun _ => .pure _)
    fun _ => .bind .get fun _ =>
      .ite (fun _ => doTimer_codeKept) fun _ => .pure _

theorem deferCallback_codeKept (callback : WsSession → Callback)
    {captures : WsSession → WsSession}
    (frame : ∀ session, (captures session).frame = session.frame)
    (ws : ∀ session, (captures session).ws = session.ws)
    (timer : ∀ session, (captures session).timer = session.timer)
    (locker : ∀ session, (captures session).locker = session.locker)
    (closing : ∀ session,
      (captures session).closeReason = session.closeReason) :
    Keeps CodeKept (deferCallback callback captures) := by
  refine catching_keeps (fun session => ?_) onException_codeKept
  by_cases drained : session.locker.lockCount = 0
  · have threw := makeLock_run_drained drained
    exact .of_error (by rw [bind_run, threw]) (refl_of CodeKept session)
  · have acquired := makeLock_run (Nat.pos_of_ne_zero drained)
    refine .of_ok (by rw [bind_run_ok acquired, modify_run]) ?_
    have sameFrame := frame session.locked
    refine ⟨sameFrame, .inl ?_, fun isClosing => ?_, fun _ => ?_⟩
    · rw [ws]
      rfl
    · exact (congrArg Option.isSome (closing session.locked)).trans isClosing
    · simp only [WsSession.frame, Frame.mk.injEq] at sameFrame
      obtain ⟨inStart, -, -, strand, strandHost, running, -⟩ := sameFrame
      simp only [holders, inStart, ws, timer, locker, strand, strandHost, running,
        List.length_append, List.length_singleton, locked_lockCount,
        locked_callbacks, true_and]
      simp only [locked]
      omega

theorem asyncRead_codeKept : Keeps CodeKept asyncRead := by
  refine startOp_codeKept (fun _ => rfl) (fun _ => .inl rfl)
    (fun session => ?_) (fun _ => rfl) fun _ => rfl
  simp only [holders, WsStream.outstanding, WsStream.asyncRead]
  omega

theorem asyncWrite_codeKept (data : Option (List UInt8)) :
    Keeps CodeKept (asyncWrite data) := by
  refine startOp_codeKept (fun _ => rfl) (fun _ => .inl rfl)
    (fun session => ?_) (fun _ => rfl) fun _ => rfl
  simp only [holders, WsStream.outstanding, WsStream.asyncWrite]
  omega

theorem asyncPing_codeKept (payload : String) :
    Keeps CodeKept (asyncPing payload) := by
  refine startOp_codeKept (fun _ => rfl) (fun _ => .inl rfl)
    (fun session => ?_) (fun _ => rfl) fun _ => rfl
  simp only [holders, WsStream.outstanding, WsStream.asyncPing]
  omega

theorem asyncClose_codeKept (reason : CloseReason) :
    Keeps CodeKept (asyncClose reason) := by
  refine startOp_codeKept (fun _ => rfl) (fun session => ?_)
    (fun session => ?_) (fun _ => rfl) fun _ => rfl
  · by_cases blocked : session.ws.writeBlocked = true <;>
      simp [WsStream.asyncClose, blocked]
  · simp only [holders, WsStream.outstanding, WsStream.asyncClose]
    omega

theorem queue_codeKept : KeptByQueue CodeKept where
  cancelTimer session _ := cancelTimer_codeKept session
  onException := onException_codeKept
  withLock := withLock_codeKept
  pushed _ _ := modify_codeKept rfl rfl rfl rfl id
  popped _ := modify_codeKept rfl rfl rfl rfl id
  requested _ _ := modify_codeKept rfl rfl rfl rfl fun _ => rfl
  kindSet _ _ := modify_codeKept rfl rfl rfl rfl id
  asyncWrite := asyncWrite_codeKept
  asyncClose := asyncClose_codeKept

theorem doRead_codeKept : Keeps CodeKept doRead :=
  doRead_keeps restartTimer_codeKept asyncRead_codeKept

theorem onOpen_codeKept : Keeps CodeKept onOpen :=
  deferCallback_codeKept _ (fun _ => rfl) (fun _ => rfl) (fun _ => rfl)
    (fun _ => rfl) fun _ => rfl

theorem onMessage_codeKept (isText : Bool) :
    Keeps CodeKept (onMessage isText) :=
  deferCallback_codeKept _ (fun _ => rfl) (fun _ => rfl) (fun _ => rfl)
    (fun _ => rfl) fun _ => rfl

theorem parts_codeKept : KeptByParts CodeKept :=
  queue_codeKept.parts restartTimer_codeKept fun _ =>
    modify_codeKept rfl rfl rfl rfl id

theorem readHandler_codeKept (isText : Bool) {ec : Option ErrorCode}
    {session : WsSession}
    (closed : ec = some .closed → session.ws.isOpen = false) :
    KeepsAt CodeKept (readHandler isText ec) session :=
  readHandler_keeps parts_codeKept onMessage_codeKept doRead_codeKept isText
    closed

theorem acceptHandler_codeKept (ec : Option ErrorCode) :
    Keeps CodeKept (acceptHandler ec) :=
  acceptHandler_keeps (fun _ => modify_codeKept rfl rfl rfl rfl id)
    onOpen_codeKept doRead_codeKept onException_codeKept ec

theorem timer_codeKept : KeptByTimer CodeKept where
  cancelTimer := cancelTimer_codeKept
  restartTimer := restartTimer_codeKept
  doTimer := doTimer_codeKept
  onException := onException_codeKept
  pongDue _ := modify_codeKept rfl rfl rfl rfl id
  pingCounted _ := modify_codeKept rfl rfl rfl rfl id
  asyncPing := asyncPing_codeKept
  socketClosed _ := modify_codeKept rfl rfl rfl rfl id

/-! ## The timer functions, run -/

/-- What `restart_timer` does while some lock is live. -/
def restarted (session : WsSession) : WsSession :=
  if session.timer.pending ≠ 0 ∧ session.ws.isOpen then
    { session.locked with timer := session.timer.cancel.asyncWait }.note .wait
  else
    { session with timer := session.timer.cancel }

theorem restartTimer_run {session : WsSession}
    (held : 0 < session.locker.lockCount) :
    restartTimer session = .ok () session.restarted := by
  have cancelled : expiresAfter session = .ok session.timer.pending
      { session with timer := session.timer.cancel } := rfl
  simp only [restartTimer, bind_run_ok cancelled, get_bind_run]
  by_cases rearm : session.timer.pending ≠ 0 ∧ session.ws.isOpen
  · simp only [if_pos rearm, restarted, doTimer]
    have stillHeld : 0 < ({ session with
        timer := session.timer.cancel } : WsSession).locker.lockCount := held
    rw [startOp_run stillHeld]
    rfl
  · simp only [if_neg rearm, restarted]
    rfl

theorem restarted_frame (session : WsSession) :
    session.restarted.frame = session.frame := by
  unfold restarted
  split <;> rfl

@[simp] theorem restarted_ws (session : WsSession) :
    session.restarted.ws = session.ws := by
  unfold restarted
  split <;> rfl

theorem restarted_locks (session : WsSession) :
    session.restarted.locker.lockCount + session.holders =
        session.locker.lockCount + session.restarted.holders ∧
      session.restarted.locker.callbacks = session.locker.callbacks := by
  unfold restarted
  split
  · refine ⟨?_, rfl⟩
    simp [note, locked, holders]
    omega
  · refine ⟨?_, rfl⟩
    simp [holders]

theorem restarted_lockCount_le (session : WsSession) :
    session.locker.lockCount ≤ session.restarted.locker.lockCount := by
  unfold restarted
  split
  · exact Nat.le_succ _
  · exact Nat.le_refl _

theorem activity_run {session : WsSession}
    (held : 0 < session.locker.lockCount) :
    activity session =
      .ok () ({ session with waitOnPong := false } : WsSession).restarted := by
  simp only [activity, modify_bind_run]
  exact restartTimer_run held

/-! ## The locks of a reachable session -/

structure LocksSound (session : WsSession) : Prop where
  counted : session.locker.lockCount = session.holders
  latched : session.locker.Latched
  erased : session.erased = true → session.locker.lockCount = 0

/-- A handler has been taken from its queue: its lock is the running
code's. -/
structure Entered (session : WsSession) : Prop where
  counted : session.locker.lockCount = session.holders + 1
  latched : session.locker.Latched
  idle : session.strandHost = none
  alive : session.erased = false

theorem Entered.held {session : WsSession} (entered : session.Entered) :
    session.Held := by
  have counted := entered.counted
  unfold Held
  omega

theorem runBody_keeps {relation : WsSession → WsSession → Prop}
    [IsPreorder WsSession relation] {body : SessionCode Unit}
    {session : WsSession} (host : Host)
    (bodyKept : KeepsAt relation body session)
    (escaped : ∀ session error, relation session (session.escape error))
    (reported : ∀ session error, relation session (session.report error)) :
    relation session (runBody host body session) := by
  unfold KeepsAt after at bodyKept
  unfold runBody
  cases outcome : body session with
  | ok result next =>
      simp only [outcome] at bodyKept ⊢
      exact bodyKept
  | error error next =>
      simp only [outcome] at bodyKept ⊢
      cases host with
      | ioThread => exact trans_of relation bodyKept (escaped next error)
      | caller => exact trans_of relation bodyKept (reported next error)

theorem runBody_codeKept {body : SessionCode Unit} {session : WsSession}
    (host : Host) (kept : KeepsAt CodeKept body session) :
    CodeKept session (runBody host body session) :=
  runBody_keeps host kept
    (fun _ _ => ⟨rfl, .inl rfl, id, fun _ => ⟨rfl, rfl, Nat.le_refl _⟩⟩)
    fun _ _ => ⟨rfl, .inl rfl, id, fun _ => ⟨rfl, rfl, Nat.le_refl _⟩⟩

/-- A handler that ran is a holder until its lambda is destroyed. -/
theorem runHandler_locksSound {session : WsSession} {body : SessionCode Unit}
    (host : Host) (entered : session.Entered)
    (kept : KeepsAt CodeKept body session) :
    (runHandler host body session).LocksSound := by
  have bodyKept := runBody_codeKept host kept
  obtain ⟨surplus, silent, -⟩ := bodyKept.locks entered.held
  have counted := entered.counted
  have sameFrame := bodyKept.frame
  simp only [frame, Frame.mk.injEq] at sameFrame
  obtain ⟨inStart, -, -, -, strandHost, -, erased, -⟩ := sameFrame
  have latched := entered.latched
  refine ⟨?_, ?_, ?_⟩
  · simp only [runHandler, holders, strandHost, entered.idle,
      Option.toList_none, List.length_nil, Option.toList_some,
      List.length_singleton] at surplus counted ⊢
    omega
  · have before : session.locker.lockCount ≠ 0 := by omega
    have afterwards :
        (runBody host body session).locker.lockCount ≠ 0 :=
      Nat.ne_of_gt (bodyKept.held entered.held).pos
    show (runBody host body session).locker.Latched
    unfold AsyncLocker.Latched at latched ⊢
    rw [if_neg before] at latched
    rw [if_neg afterwards, silent, latched]
  · intro isErased
    simp [runHandler, erased, entered.alive] at isErased

theorem complete_locksSound {session next : WsSession}
    {ws : Option WsStream} {handler : SessionCode Unit}
    (sound : session.LocksSound)
    (kept : ∀ ws', ws = some ws' →
      KeepsAt CodeKept handler { session with ws := ws' })
    (outstanding : ∀ ws', ws = some ws' →
      session.ws.outstanding = ws'.outstanding + 1)
    (completed : session.complete ws handler = some next) :
    next.LocksSound := by
  obtain ⟨idle, ws', isSome, rfl⟩ := complete_eq_some completed
  have oneLess := outstanding ws' isSome
  have counted := sound.counted
  refine runHandler_locksSound .ioThread ⟨?_, sound.latched, idle, ?_⟩
    (kept ws' isSome)
  · simp only [holders] at counted ⊢
    omega
  · cases erased : session.erased with
    | false => rfl
    | true =>
        have drained := sound.erased erased
        simp only [holders] at counted
        omega

/-- A live lock keeps the session from being erased. -/
theorem LocksSound.alive {session : WsSession} (sound : session.LocksSound)
    (owned : 0 < session.holders) : session.erased = false := by
  have counted := sound.counted
  cases erased : session.erased with
  | false => rfl
  | true =>
      have drained := sound.erased erased
      omega

/-- Nothing is written to the locks, and nobody comes or goes. -/
theorem LocksSound.congr {before after : WsSession}
    (sound : before.LocksSound) (locker : after.locker = before.locker)
    (holders : after.holders = before.holders)
    (erased : after.erased = before.erased) : after.LocksSound := by
  refine ⟨?_, ?_, ?_⟩
  · rw [locker, holders]
    exact sound.counted
  · rw [locker]
    exact sound.latched
  · rw [locker, erased]
    exact sound.erased

/-- One holder goes and releases its lock. -/
theorem LocksSound.unlock {before after : WsSession}
    (sound : before.LocksSound) (locker : after.locker = before.locker.unlock)
    (holders : before.holders = after.holders + 1)
    (erased : after.erased = before.erased) : after.LocksSound := by
  have counted := sound.counted
  refine ⟨?_, ?_, fun isErased => ?_⟩
  · rw [locker]
    simp only [AsyncLocker.unlock]
    omega
  · rw [locker]
    exact sound.latched.unlock (by omega)
  · have alive := sound.alive (by omega)
    rw [erased, alive] at isErased
    cases isErased

/-- One handler goes; its lock is that of the running code. -/
theorem LocksSound.held_of_taken {before after : WsSession}
    (sound : before.LocksSound) (locker : after.locker = before.locker)
    (holders : before.holders = after.holders + 1) : after.Held := by
  have counted := sound.counted
  rw [Held, locker]
  omega

/-- The locker has called back, so nobody is left. -/
theorem LocksSound.drained_of_calledBack {session : WsSession}
    (sound : session.LocksSound) (calledBack : session.locker.callbacks = 1) :
    session.locker.lockCount = 0 := by
  have latched := sound.latched
  by_contra some_left
  rw [AsyncLocker.Latched, if_neg some_left, calledBack] at latched
  cases latched

theorem dispatch_locksSound {session : WsSession}
    (sound : session.LocksSound) (job : StrandJob) :
    (after (dispatch job) session).LocksSound := by
  by_cases drained : session.locker.lockCount = 0
  · have threw := makeLock_run_drained drained
    rw [after_eq_of_ok (by
      rw [dispatch, catching, bind_run, threw]
      rfl)]
    exact sound.congr rfl rfl rfl
  · have held := Nat.pos_of_ne_zero drained
    rw [after_eq_of_ok (by
      rw [dispatch, catching, bind_run_ok (makeLock_run held)]
      rfl)]
    have counted := sound.counted
    refine ⟨?_, sound.latched.acquired held, fun erased => ?_⟩
    · simp only [holders, locked, List.length_append,
        List.length_singleton] at counted ⊢
      omega
    · exact absurd (sound.erased erased) drained

theorem restarted_locksSound {session : WsSession}
    (sound : session.LocksSound) (held : 0 < session.locker.lockCount) :
    session.restarted.LocksSound := by
  have counted := sound.counted
  obtain ⟨surplus, silent⟩ := restarted_locks session
  have erased : session.restarted.erased = session.erased :=
    congrArg Frame.erased (restarted_frame session)
  have grows := restarted_lockCount_le session
  refine ⟨by omega, ?_, fun isErased => ?_⟩
  · have before : session.locker.lockCount ≠ 0 := by omega
    have afterwards : session.restarted.locker.lockCount ≠ 0 := by omega
    have latched := sound.latched
    unfold AsyncLocker.Latched at latched ⊢
    rw [if_neg before] at latched
    rw [if_neg afterwards, silent, latched]
  · have alive := sound.alive (by omega)
    rw [erased, alive] at isErased
    cases isErased

theorem launched_locksSound (role : Role) : (launched role).LocksSound := by
  cases role <;> exact ⟨rfl, rfl, fun erased => nomatch erased⟩

theorem step_locksSound {session next : WsSession} {event : SessionEvent}
    (sound : session.LocksSound)
    (stepped : session.step event = some next) : next.LocksSound := by
  have counted := sound.counted
  cases event with
  | startReturns =>
      obtain ⟨inStart, rfl⟩ := step_startReturns stepped
      refine sound.unlock rfl ?_ rfl
      simp only [holders, unlocked, inStart, Bool.toNat_true,
        Bool.toNat_false]
      omega
  | acceptDone ec =>
      exact complete_locksSound sound (fun _ _ => acceptHandler_codeKept ec _)
        (fun _ => WsStream.acceptDone?_outstanding) stepped
  | readDone ec chunk isText stillOpen =>
      have received : (session.receive ec chunk isText).LocksSound :=
        sound.congr rfl rfl rfl
      exact complete_locksSound received
        (fun _ done => readHandler_codeKept isText
          (WsStream.readDone?_closed done))
        (fun _ => WsStream.readDone?_outstanding) stepped
  | writeDone ec =>
      exact complete_locksSound sound
        (fun _ _ => queue_codeKept.writeHandler ec _)
        (fun _ => WsStream.writeDone?_outstanding) stepped
  | pingDone ec stillOpen =>
      exact complete_locksSound sound
        (fun _ _ => parts_codeKept.pingHandler ec _)
        (fun _ => WsStream.pingDone?_outstanding) stepped
  | closeDone ec stillOpen =>
      exact complete_locksSound sound
        (fun _ _ => parts_codeKept.closeHandler ec _)
        (fun _ => WsStream.closeDone?_outstanding) stepped
  | controlFrame =>
      obtain ⟨-, reading, rfl⟩ := step_controlFrame stepped
      have owned : 0 < session.holders := by
        simp only [holders, WsStream.outstanding]
        omega
      have held : 0 < session.locker.lockCount := counted ▸ owned
      rw [runBody, activity_run held]
      exact restarted_locksSound (sound.congr rfl rfl rfl) held
  | timerExpired =>
      obtain ⟨timer, expires, rfl⟩ := step_timerExpired stepped
      have sameHandlers := (WaitableTimer.expire?_eq_some expires).2
      refine sound.congr rfl ?_ rfl
      simp only [holders, sameHandlers]
  | timerDone ec =>
      obtain ⟨idle, timer, taken, rfl⟩ := step_timerDone stepped
      have oneLess := (WaitableTimer.take?_eq_some taken).1
      have owned : 0 < session.holders := by
        simp only [holders]
        omega
      refine runHandler_locksSound .ioThread
        ⟨?_, sound.latched, idle, sound.alive owned⟩
        (timer_codeKept.timerHandler ec _)
      simp only [holders] at counted ⊢
      omega
  | runJob host =>
      obtain ⟨idle, job, jobs, queued, -, rfl⟩ := step_runJob stepped
      have owned : 0 < session.holders := by
        simp only [holders, queued, List.length_cons]
        omega
      refine runHandler_locksSound host
        ⟨?_, sound.latched, idle, sound.alive owned⟩
        (queue_codeKept.runJob job _)
      simp only [holders, queued, List.length_cons] at counted ⊢
      omega
  | release host =>
      obtain ⟨hosted, rfl⟩ := step_release stepped
      refine sound.unlock rfl ?_ rfl
      simp only [holders, unlocked, hosted, Option.toList_some,
        Option.toList_none, List.length_singleton, List.length_nil]
      omega
  | callbackBegins =>
      obtain ⟨free, callback, callbacks, queued, rfl⟩ :=
        step_callbackBegins stepped
      refine sound.congr rfl ?_ rfl
      simp only [holders, callBack, free, queued, Option.toList_some,
        Option.toList_none, List.length_nil, List.length_cons]
      omega
  | callbackReturns =>
      obtain ⟨callback, busy, rfl⟩ := step_callbackReturns stepped
      refine sound.unlock rfl ?_ rfl
      simp [holders, callBack, unlocked, busy]
  | dispatch job =>
      obtain ⟨-, rfl⟩ := step_dispatch stepped
      exact dispatch_locksSound sound job
  | streamEnds =>
      obtain ⟨ws, ends, rfl⟩ := step_streamEnds stepped
      refine sound.congr rfl ?_ rfl
      simp only [holders, WsStream.endStream?_outstanding ends]
  | writeBlock blocked =>
      cases stepped
      exact sound.congr rfl rfl rfl
  | erase =>
      obtain ⟨calledBack, -, rfl⟩ := step_erase stepped
      have drained := sound.drained_of_calledBack calledBack
      have locker : session.destroyed.locker = session.locker := by
        unfold destroyed
        split <;> rfl
      have holders : session.destroyed.holders = session.holders := by
        unfold destroyed
        split <;> rfl
      refine ⟨?_, ?_, fun _ => ?_⟩
      · rw [locker, holders]
        exact counted
      · rw [locker]
        exact sound.latched
      · rw [locker]
        exact drained

/-- In every reachable state the locks are those of the handlers, and the
locker has called back exactly if none is left. -/
theorem locksSound_of_reachable {session : WsSession}
    (reached : sessionMachine.Reachable session) : session.LocksSound :=
  reached.invariant LocksSound
    (fun _ initially => by
      obtain ⟨role, rfl⟩ := initially
      exact launched_locksSound role)
    (fun _ _ _ sound _ stepped => step_locksSound sound stepped)

end Webservice.WsSession
