import Webservice.Session.Draining

/-!
# The end of a session

Once its stream has ended, a session starts nothing.  Its operations come to
their end, the handlers of the strands run, and with the last of them the
last lock is released, which makes the service erase the session.
-/

namespace Webservice.WsSession

open Effects

/-- The events by which the session goes on when nothing comes from outside:
its operations complete and its handlers run. -/
def Works (_ : WsSession) : SessionEvent → Prop
  | .dispatch _ => False
  | .controlFrame => False
  | .streamEnds => False
  | .writeBlock _ => False
  | .erase => False
  | _ => True

/-- What operations have left to do: each may expire, run its handler and
hand a message over. -/
def load (session : WsSession) : Nat :=
  4 * session.operations + session.timer.pending +
    2 * session.handlerStrand.length

/-- What the session has left to do. -/
def rank (session : WsSession) : Nat :=
  session.load + 2 * session.strand.length +
    session.strandHost.toList.length + session.running.toList.length +
    session.inStart.toNat

/-- After the end of the stream nothing is added. -/
def Ebbs (before after : WsSession) : Prop :=
  before.ws.phase = .ended →
    after.ws.phase = .ended ∧ after.load ≤ before.load

instance : IsPreorder WsSession Ebbs where
  refl _ ended := ⟨ended, Nat.le_refl _⟩
  trans _ _ _ first second ended := by
    obtain ⟨stillEnded, less⟩ := first ended
    obtain ⟨endedAtLast, least⟩ := second stillEnded
    exact ⟨endedAtLast, Nat.le_trans least less⟩

section

variable {session : WsSession}

/-! ## The parts of the code -/

theorem ebbs_of_same {before after : WsSession}
    (phase : after.ws.phase = before.ws.phase)
    (load : after.load = before.load) : Ebbs before after :=
  fun ended => ⟨phase.trans ended, Nat.le_of_eq load⟩

/-- Nothing is said of code that runs while the stream has not ended. -/
theorem ebbs_of_alive {body : SessionCode Unit}
    (alive : session.ws.phase ≠ .ended) : KeepsAt Ebbs body session :=
  fun ended => absurd ended alive

theorem cancelTimer_ebbs : Keeps Ebbs cancelTimer := by
  apply Keeps.modify
  intro session ended
  refine ⟨ended, ?_⟩
  have handlers := session.timer.cancel_handlers
  simp only [load, operations, handlers, WaitableTimer.cancel_pending]
  omega

theorem onException_ebbs (error : Exception) :
    Keeps Ebbs (onException error) :=
  .modify fun _ => ebbs_of_same rfl rfl

theorem restartTimer_ebbs : Keeps Ebbs restartTimer := by
  have cancels : Keeps Ebbs expiresAfter :=
    .bind .get fun _ => .bind cancelTimer_ebbs fun _ => .pure _
  refine .bind cancels fun _ session => .get_bind (.ite ?_ fun _ => .pure _ _)
  exact fun rearms => ebbs_of_alive (ne_ended_of_isOpen rearms.2)

theorem closeJob_ebbs (reason : CloseReason) :
    Keeps Ebbs (closeJob reason) := by
  intro session
  apply KeepsAt.get_bind
  apply KeepsAt.ite
  · exact fun _ => cancelTimer_ebbs session
  · exact fun isOpen => ebbs_of_alive (ne_ended_of_isOpen (not_not.mp isOpen))

theorem sendJob_ebbs (isText : Bool) (data : List UInt8) :
    Keeps Ebbs (sendJob isText data) := by
  intro session
  apply KeepsAt.get_bind
  apply KeepsAt.ite
  · exact fun _ => cancelTimer_ebbs session
  · exact fun isOpen => ebbs_of_alive (ne_ended_of_isOpen (not_not.mp isOpen))

theorem runJob_ebbs (job : StrandJob) : Keeps Ebbs (runJob job) := by
  cases job with
  | send isText data => exact sendJob_ebbs isText data
  | close reason => exact closeJob_ebbs reason

theorem parts_ebbs : KeptByParts Ebbs where
  cancelTimer session _ := cancelTimer_ebbs session
  restartTimer := restartTimer_ebbs
  pongSeen := .modify fun _ => ebbs_of_same rfl rfl
  onException := onException_ebbs
  close reason := catching_keeps
    (withLock_keeps (fun _ _ => ebbs_of_same rfl rfl) (closeJob_ebbs reason))
    onException_ebbs

theorem doRead_ebbs : Keeps Ebbs doRead := by
  intro session
  apply KeepsAt.get_bind
  apply KeepsAt.ite
  · exact fun isOpen => ebbs_of_alive (ne_ended_of_isOpen isOpen)
  · exact fun _ => .pure _ _

theorem closeSocket_ebbs : Keeps Ebbs closeSocket :=
  .bind (.modify fun _ => ebbs_of_same rfl rfl) fun _ => cancelTimer_ebbs

theorem closeHandler_ebbs (ec : Option ErrorCode) :
    Keeps Ebbs (closeHandler ec) :=
  parts_ebbs.closeHandler ec

theorem writeHandler_ebbs (ec : Option ErrorCode) :
    Keeps Ebbs (writeHandler ec) := by
  have failed : ∀ ec, Keeps Ebbs (do
      onError "write" ec
      close (.ofText "write error") : SessionCode Unit) := fun ec =>
    .bind (onException_ebbs _) fun _ => parts_ebbs.close _
  cases ec with
  | none =>
      intro session
      have popped : Ebbs session
          { session with writeList := session.writeList.popFront } :=
        ebbs_of_same rfl rfl
      apply KeepsAt.modify_bind popped
      apply KeepsAt.get_bind
      apply KeepsAt.ite
      · exact fun more => ebbs_of_alive (ne_ended_of_isOpen more.1)
      · exact fun _ => .pure _ _
  | some ec =>
      cases ec with
      | operationAborted => exact .pure _
      | closed => exact failed _
      | other value => exact failed _

theorem timerHandler_ebbs (ec : Option ErrorCode) :
    Keeps Ebbs (timerHandler ec) := by
  intro session
  apply KeepsAt.get_bind
  apply KeepsAt.ite
  · exact fun _ => .pure _ _
  · intro _
    apply KeepsAt.ite
    · intro _
      apply KeepsAt.ite
      · exact fun isOpen => ebbs_of_alive (ne_ended_of_isOpen isOpen)
      · exact fun _ => .pure _ _
    · intro _
      cases ec with
      | none => exact closeSocket_ebbs session
      | some ec =>
          exact .bind (onException_ebbs _ session) fun _ => closeSocket_ebbs

/-! ## A message is handed over -/

/-- After the end of the stream one callback is added at most. -/
def Gains (before after : WsSession) : Prop :=
  before.ws.phase = .ended →
    after.ws.phase = .ended ∧ after.load ≤ before.load + 2

theorem Ebbs.gains {before after : WsSession} (ebbs : Ebbs before after) :
    Gains before after := fun ended =>
  have ⟨stillEnded, less⟩ := ebbs ended
  ⟨stillEnded, Nat.le_trans less (Nat.le_add_right _ 2)⟩

theorem onMessage_gains (isText : Bool) : Keeps Gains (onMessage isText) := by
  intro session
  by_cases drained : session.locker.lockCount = 0
  · have threw := makeLock_run_drained drained
    apply KeepsAt.of_ok (by
      rw [onMessage, deferCallback, catching, bind_run, threw]
      rfl)
    exact (ebbs_of_same rfl rfl).gains
  · apply KeepsAt.of_ok (by
      rw [onMessage, deferCallback, catching,
        bind_run_ok (makeLock_run (Nat.pos_of_ne_zero drained)), modify_run])
    refine fun ended => ⟨ended, ?_⟩
    simp only [load, operations, locked, List.length_append,
      List.length_singleton]
    omega

theorem readHandler_gains (isText : Bool) (ec : Option ErrorCode) :
    Keeps Gains (readHandler isText ec) := by
  intro session
  cases ec with
  | none =>
      have rest : Keeps Gains (do
          onMessage isText
          doRead : SessionCode Unit) := by
        intro session
        apply KeepsAt.compose (onMessage_gains isText session)
          fun _ => doRead_ebbs
        · exact fun _ gains => gains
        · intro next last gains ebbs ended
          obtain ⟨stillEnded, more⟩ := gains ended
          obtain ⟨endedAtLast, less⟩ := ebbs stillEnded
          exact ⟨endedAtLast, Nat.le_trans less more⟩
      apply KeepsAt.compose (activity_keeps parts_ebbs session) fun _ => rest
      · exact fun _ ebbs => ebbs.gains
      · intro next last ebbs gains ended
        obtain ⟨stillEnded, less⟩ := ebbs ended
        obtain ⟨endedAtLast, more⟩ := gains stillEnded
        exact ⟨endedAtLast, Nat.le_trans more (Nat.add_le_add_right less 2)⟩
  | some ec =>
      have ebbs : KeepsAt Ebbs (readHandler isText (some ec)) session := by
        cases ec with
        | operationAborted => exact .pure _ _
        | closed => exact cancelTimer_ebbs session
        | other value =>
            have rest : Keeps Ebbs (do
                let session ← get
                if session.ws.isOpen then
                  close (.ofText "read error")
                  doRead : SessionCode Unit) :=
              .bind .get fun _ => .ite
                (fun _ => .bind (parts_ebbs.close _) fun _ => doRead_ebbs)
                fun _ => .pure _
            exact .bind (activity_keeps parts_ebbs session) fun _ =>
              .bind (onException_ebbs _) fun _ => rest
      exact Ebbs.gains ebbs

/-! ## Steps -/

/-- A handler occupies the strand, and leaves the rest to what the code does
to the load. -/
theorem runHandler_rank (host : Host) {body : SessionCode Unit}
    (idle : session.strandHost = none)
    (kept : KeepsAt CodeKept body session) :
    (runHandler host body session).rank + session.load =
      session.rank + 1 + (after body session).load := by
  have frame := (runBody_codeKept host kept).frame
  have strand : (runHandler host body session).strand = session.strand :=
    congrArg Frame.strand frame
  have running : (runHandler host body session).running = session.running :=
    congrArg Frame.running frame
  have inStart : (runHandler host body session).inStart = session.inStart :=
    congrArg Frame.inStart frame
  have occupied : (runHandler host body session).strandHost = some host :=
    rfl
  have load : (runHandler host body session).load =
      (after body session).load :=
    (congrArg (fun core => core.load) (runHandler_core host body session) :)
  simp only [rank, strand, running, inStart, occupied, load, idle,
    Option.toList_some, Option.toList_none, List.length_singleton,
    List.length_nil]
  omega

/-- A handler is entered with more taken away than it adds. -/
theorem handler_lowers (entered : WsSession) (added : Nat) {host : Host}
    {body : SessionCode Unit} (idle : entered.strandHost = none)
    (kept : KeepsAt CodeKept body entered)
    (adds : (after body entered).ws.phase = .ended ∧
      (after body entered).load ≤ entered.load + added)
    (taken : entered.rank + added + 1 < session.rank) :
    (runHandler host body entered).ws.phase = .ended ∧
      (runHandler host body entered).rank < session.rank := by
  have phase : (runHandler host body entered).ws.phase =
      (after body entered).ws.phase :=
    (congrArg (fun core => core.ws.phase)
      (runHandler_core host body entered) :)
  have rank := runHandler_rank host idle kept
  exact ⟨phase.trans adds.1, by omega⟩

/-- A completion takes an operation away. -/
theorem completed_lowers {ws : WsStream} {body : SessionCode Unit}
    (ended : session.ws.phase = .ended)
    (narrows : WsStream.Narrows session.ws ws)
    (oneLess : session.ws.outstanding = ws.outstanding + 1)
    (idle : session.strandHost = none)
    (kept : KeepsAt CodeKept body { session with ws := ws })
    (gains : KeepsAt Gains body { session with ws := ws }) :
    (runHandler .ioThread body { session with ws := ws }).ws.phase = .ended ∧
      (runHandler .ioThread body { session with ws := ws }).rank <
        session.rank := by
  have stillEnded : ws.phase = .ended := by
    rcases narrows.phase with same | after
    · exact same.trans ended
    · rw [after, ended]
      rfl
  apply handler_lowers { session with ws := ws } 2 idle kept
    (gains stillEnded)
  simp only [rank, load, operations, oneLess]
  omega

/-- After the end of its stream every step of a session brings it nearer to
its own end. -/
theorem step_lowers {next : WsSession} {event : SessionEvent}
    (handshake : session.HandshakeSound) (ended : session.ws.phase = .ended)
    (works : session.Works event)
    (stepped : session.step event = some next) :
    next.ws.phase = .ended ∧ next.rank < session.rank := by
  cases event with
  | startReturns =>
      obtain ⟨inStart, rfl⟩ := step_startReturns stepped
      refine ⟨ended, ?_⟩
      simp only [rank, inStart, Bool.toNat_true, Bool.toNat_false]
      exact Nat.lt_succ_self _
  | acceptDone ec =>
      obtain ⟨-, ws, done, rfl⟩ := complete_eq_some stepped
      obtain ⟨accepting, -⟩ := WsStream.acceptDone?_eq_some done
      exact absurd ((handshake.phase.mpr accepting).symm.trans ended)
        (by decide)
  | readDone ec chunk isText stillOpen =>
      obtain ⟨idle, ws, done, rfl⟩ := complete_eq_some stepped
      have received : (session.receive ec chunk isText).ws.phase = .ended :=
        ended
      exact completed_lowers received (WsStream.readDone?_narrows done)
        (WsStream.readDone?_outstanding done) idle
        (readHandler_codeKept isText (WsStream.readDone?_closed done))
        (readHandler_gains isText ec _)
  | writeDone ec =>
      obtain ⟨idle, ws, done, rfl⟩ := complete_eq_some stepped
      exact completed_lowers ended (WsStream.writeDone?_narrows done)
        (WsStream.writeDone?_outstanding done) idle
        (queue_codeKept.writeHandler ec _)
        (Ebbs.gains (writeHandler_ebbs ec _))
  | pingDone ec stillOpen =>
      obtain ⟨idle, ws, done, rfl⟩ := complete_eq_some stepped
      exact completed_lowers ended (WsStream.pingDone?_narrows done)
        (WsStream.pingDone?_outstanding done) idle
        (parts_codeKept.pingHandler ec _)
        (Ebbs.gains (parts_ebbs.pingHandler ec _))
  | closeDone ec stillOpen =>
      obtain ⟨idle, ws, done, rfl⟩ := complete_eq_some stepped
      exact completed_lowers ended (WsStream.closeDone?_narrows done)
        (WsStream.closeDone?_outstanding done) idle
        (parts_codeKept.closeHandler ec _)
        (Ebbs.gains (closeHandler_ebbs ec _))
  | timerExpired =>
      obtain ⟨timer, expires, rfl⟩ := step_timerExpired stepped
      refine ⟨ended, ?_⟩
      have handlers := (WaitableTimer.expire?_eq_some expires).2
      have pending := WaitableTimer.expire?_pending expires
      simp only [rank, load, operations, handlers, pending]
      omega
  | timerDone ec =>
      obtain ⟨idle, timer, taken, rfl⟩ := step_timerDone stepped
      obtain ⟨oneLess, -, pending⟩ := WaitableTimer.take?_eq_some taken
      apply handler_lowers { session with timer := timer } 0 idle
        (timer_codeKept.timerHandler ec _)
        (timerHandler_ebbs ec _ ended)
      simp only [rank, load, operations, oneLess, pending]
      omega
  | runJob host =>
      obtain ⟨idle, job, jobs, queued, -, rfl⟩ := step_runJob stepped
      apply handler_lowers { session with strand := jobs } 0 idle
        (queue_codeKept.runJob job _)
        (runJob_ebbs job _ ended)
      simp only [rank, load, operations, queued, List.length_cons]
      omega
  | release host =>
      obtain ⟨occupied, rfl⟩ := step_release stepped
      refine ⟨ended, ?_⟩
      simp only [rank, occupied, Option.toList_some, Option.toList_none,
        List.length_singleton, List.length_nil]
      exact Nat.add_lt_add_right (Nat.add_lt_add_right
        (Nat.lt_succ_self _) _) _
  | callbackBegins =>
      obtain ⟨free, callback, callbacks, queued, rfl⟩ :=
        step_callbackBegins stepped
      refine ⟨ended, ?_⟩
      simp only [rank, load, operations, queued, free, callBack,
        List.length_cons, Option.toList_some, Option.toList_none,
        List.length_nil]
      omega
  | callbackReturns =>
      obtain ⟨callback, running, rfl⟩ := step_callbackReturns stepped
      refine ⟨ended, ?_⟩
      simp only [rank, running, Option.toList_some, Option.toList_none,
        List.length_singleton, List.length_nil]
      exact Nat.add_lt_add_right (Nat.lt_succ_self _) _
  | controlFrame => cases works
  | dispatch job => cases works
  | streamEnds => cases works
  | writeBlock blocked => cases works
  | erase => cases works

/-! ## Nothing gets stuck -/

theorem step_isSome_of_outstanding (idle : session.strandHost = none)
    (some_operation : 0 < session.ws.outstanding) :
    ∃ event, session.Works event ∧ session.step event ≠ none := by
  have strandIdle : session.strandIdle = true := by
    rw [WsSession.strandIdle, idle]
    rfl
  rw [WsStream.outstanding] at some_operation
  by_cases accepts : 0 < session.ws.accepts
  · refine ⟨.acceptDone none, trivial, ?_⟩
    simp [step, complete, strandIdle, WsStream.acceptDone?, accepts]
  by_cases reads : 0 < session.ws.reads
  · refine ⟨.readDone none [] true true, trivial, ?_⟩
    simp [step, complete, receive, WsStream.readDone?, reads]
    exact strandIdle
  by_cases writes : 0 < session.ws.writes
  · refine ⟨.writeDone none, trivial, ?_⟩
    simp [step, complete, strandIdle, WsStream.writeDone?, writes]
  by_cases pings : 0 < session.ws.pings
  · refine ⟨.pingDone none true, trivial, ?_⟩
    simp [step, complete, strandIdle, WsStream.pingDone?, pings]
  · have closes : 0 < session.ws.closes := by omega
    refine ⟨.closeDone none true, trivial, ?_⟩
    simp [step, complete, strandIdle, WsStream.closeDone?, closes]

theorem step_isSome_of_waits (idle : session.strandHost = none)
    (some_wait : 0 < session.timer.handlers) :
    ∃ event, session.Works event ∧ session.step event ≠ none := by
  have strandIdle : session.strandIdle = true := by
    rw [WsSession.strandIdle, idle]
    rfl
  rw [WaitableTimer.handlers] at some_wait
  by_cases pending : 0 < session.timer.pending
  · refine ⟨.timerExpired, trivial, ?_⟩
    simp [step, WaitableTimer.expire?, pending]
  by_cases expired : 0 < session.timer.expired
  · refine ⟨.timerDone none, trivial, ?_⟩
    simp [step, strandIdle, WaitableTimer.take?, expired]
  · have cancelled : 0 < session.timer.cancelled := by omega
    refine ⟨.timerDone (some .operationAborted), trivial, ?_⟩
    simp [step, strandIdle, WaitableTimer.take?, cancelled]

/-- Whoever holds a lock of a session has a step to take. -/
theorem step_isSome_of_holders (some_holder : 0 < session.holders) :
    ∃ event, session.Works event ∧ session.step event ≠ none := by
  by_cases inStart : session.inStart = true
  · exact ⟨.startReturns, trivial, by simp [step, inStart]⟩
  cases occupied : session.strandHost with
  | some host => exact ⟨.release host, trivial, by simp [step, occupied]⟩
  | none =>
      by_cases outstanding : 0 < session.ws.outstanding
      · exact step_isSome_of_outstanding occupied outstanding
      by_cases waits : 0 < session.timer.handlers
      · exact step_isSome_of_waits occupied waits
      cases queued : session.strand with
      | cons job jobs =>
          refine ⟨.runJob .ioThread, trivial, ?_⟩
          simp [step, queued, strandIdle, occupied]
      | nil =>
          cases running : session.running with
          | some callback =>
              exact ⟨.callbackReturns, trivial, by simp [step, running]⟩
          | none =>
              cases callbacks : session.handlerStrand with
              | cons callback callbacks' =>
                  refine ⟨.callbackBegins, trivial, ?_⟩
                  simp [step, running, callbacks]
              | nil =>
                  simp only [holders, occupied, queued, running, callbacks,
                    Bool.eq_false_iff.mpr inStart] at some_holder
                  simp only [Bool.toNat_false, Option.toList_none,
                    List.length_nil] at some_holder
                  omega

/-! ## Runs -/

/-- A session whose stream has ended comes to its own end: however its
handlers are run and its operations complete, they do not go on forever, and
where they stop the last lock has been released and the service asked, once,
to erase the session. -/
theorem erased_after_end (reached : sessionMachine.Reachable session)
    (ended : session.ws.phase = .ended) :
    ¬sessionMachine.Endless Works session ∧
      ∀ events last, sessionMachine.Admitted Works session events →
        sessionMachine.run session events = some last →
        (∀ event, last.Works event → last.step event = none) →
        last.locker.lockCount = 0 ∧ last.locker.callbacks = 1 := by
  have lowered : ∀ (before : WsSession) (event : SessionEvent)
      (after : WsSession),
      sessionMachine.Reachable before ∧ before.ws.phase = .ended →
      before.Works event → before.step event = some after →
      (sessionMachine.Reachable after ∧ after.ws.phase = .ended) ∧
        after.rank < before.rank := by
    rintro before event after ⟨isReached, isEnded⟩ works stepped
    obtain ⟨stillEnded, lower⟩ := step_lowers
      (handshakeSound_of_reachable isReached) isEnded works stepped
    exact ⟨⟨.step isReached trivial stepped, stillEnded⟩, lower⟩
  constructor
  · exact Machine.not_endless_of_rank Nat.lt_wfRel.wf _ rank lowered
      ⟨reached, ended⟩
  · intro events last admitted ran stuck
    have isReached : sessionMachine.Reachable last :=
      reached.run (Machine.admitted_true _ events) ran
    have sound := locksSound_of_reachable isReached
    have none_left : last.holders = 0 := by
      by_contra some_holder
      obtain ⟨event, works, goesOn⟩ :=
        step_isSome_of_holders (Nat.pos_of_ne_zero some_holder)
      exact goesOn (stuck event works)
    have unlocked : last.locker.lockCount = 0 := sound.counted.trans none_left
    have latched : last.locker.callbacks =
      if last.locker.lockCount = 0 then 1 else 0 := sound.latched
    exact ⟨unlocked, latched.trans (if_pos unlocked)⟩

/-- What is left of a client whose other end leaves right after the start:
two waits that were cancelled, a read that cancels the third one, and the
callback `on_open`. -/
def handlersLeft : List SessionEvent :=
  [.timerDone (some .operationAborted), .release .ioThread,
    .timerDone (some .operationAborted), .release .ioThread,
    .readDone (some .closed) [] true false, .release .ioThread,
    .timerDone (some .operationAborted), .release .ioThread,
    .callbackBegins, .callbackReturns]

theorem erased_after_end_client :
    ∃ ended last, sessionMachine.run (launched .client)
        [.startReturns, .streamEnds] = some ended ∧
      ended.locker.lockCount = 5 ∧
      ¬sessionMachine.Endless Works ended ∧
      sessionMachine.run ended handlersLeft = some last ∧
      last.locker.lockCount = 0 ∧ last.locker.callbacks = 1 := by
  have ran : ∃ ended last, sessionMachine.run (launched .client)
      [.startReturns, .streamEnds] = some ended ∧
      ended.ws.phase = .ended ∧ ended.locker.lockCount = 5 ∧
      sessionMachine.run ended handlersLeft = some last ∧
      ∀ event, last.Works event → last.step event = none := by
    refine ⟨_, _, rfl, rfl, rfl, rfl, fun event works => ?_⟩
    cases event with
    | timerDone ec =>
        cases ec with
        | none => rfl
        | some ec => cases ec <;> rfl
    | _ => first | rfl | exact absurd works id
  obtain ⟨ended, last, ran, isEnded, locks, ranOn, stuck⟩ := ran
  have reached : sessionMachine.Reachable ended :=
    Machine.reachable_of_run ⟨.client, rfl⟩ ran
  have works : sessionMachine.Admitted Works ended handlersLeft :=
    Machine.admitted_of_forall (by simp [handlersLeft, Works])
  obtain ⟨ends, drained⟩ := erased_after_end reached isEnded
  exact ⟨ended, last, ran, locks, ends, ranOn,
    drained handlersLeft last works ranOn stuck⟩

end

end Webservice.WsSession
