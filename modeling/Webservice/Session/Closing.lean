import Webservice.Session.Callbacks
import Webservice.Session.Writing

/-!
# What a step of a session leaves alone

The facts about single steps that a service relies on: which steps can drain
the locker, that a drained session stays drained, and what becomes of a
request to close.
-/

namespace Webservice

namespace SessionEvent

/-- The steps that release a lock. -/
def releases : SessionEvent → Bool
  | .startReturns => true
  | .release _ => true
  | .callbackReturns => true
  | _ => false

/-- How many jobs of `strand_` the step takes. -/
def jobsRun : SessionEvent → Nat
  | .runJob _ => 1
  | _ => 0

end SessionEvent

namespace WsSession

open Effects

structure StepKept (event : SessionEvent) (before after : WsSession) :
    Prop where
  strand : before.strand.drop event.jobsRun <+: after.strand
  closing : before.closeReason.isSome = true →
    after.closeReason.isSome = true
  erased : event ≠ .erase → after.erased = before.erased
  callbacks : before.locker.callbacks ≤ after.locker.callbacks
  locks : event.releases = false →
    after.locker.callbacks = before.locker.callbacks ∧
      before.locker.lockCount ≤ after.locker.lockCount

theorem StepKept.of_same {event : SessionEvent} {before after : WsSession}
    (strand : before.strand.drop event.jobsRun <+: after.strand)
    (closing : before.closeReason.isSome = true →
      after.closeReason.isSome = true)
    (erased : after.erased = before.erased)
    (locker : after.locker = before.locker) : StepKept event before after where
  strand := strand
  closing := closing
  erased _ := erased
  callbacks := Nat.le_of_eq (congrArg AsyncLocker.callbacks locker.symm)
  locks _ := by
    rw [locker]
    exact ⟨rfl, Nat.le_refl _⟩

/-- A lock is released. -/
theorem StepKept.of_unlocked {event : SessionEvent}
    {before after : WsSession} (releases : event.releases = true)
    (strand : before.strand.drop event.jobsRun <+: after.strand)
    (closing : after.closeReason = before.closeReason)
    (erased : after.erased = before.erased)
    (locker : after.locker = before.locker.unlock) :
    StepKept event before after where
  strand := strand
  closing isClosing := (congrArg Option.isSome closing).trans isClosing
  erased _ := erased
  callbacks := by
    rw [locker, AsyncLocker.unlock]
    split
    · exact Nat.le_succ _
    · exact Nat.le_refl _
  locks silent := absurd (releases.symm.trans silent) (by decide)

/-- A handler takes over where `session` was entered. -/
theorem StepKept.handler {event : SessionEvent} {before session : WsSession}
    {body : SessionCode Unit} (host : Host)
    (entered : StepKept event before session) (held : session.Held)
    (kept : KeepsAt CodeKept body session) :
    StepKept event before (runHandler host body session) := by
  have bodyKept := runBody_codeKept host kept
  obtain ⟨-, silent, grows⟩ := bodyKept.locks held
  have strand := congrArg Frame.strand bodyKept.frame
  have erased := congrArg Frame.erased bodyKept.frame
  constructor
  · exact entered.strand.trans ⟨[], (List.append_nil _).trans strand.symm⟩
  · exact bodyKept.closing ∘ entered.closing
  · exact fun alive => erased.trans (entered.erased alive)
  · exact Nat.le_trans entered.callbacks (Nat.le_of_eq silent.symm)
  · intro keeps
    have same := entered.locks keeps
    exact ⟨silent.trans same.1, Nat.le_trans same.2 grows⟩

theorem restarted_closeReason (session : WsSession) :
    session.restarted.closeReason = session.closeReason := by
  unfold restarted
  split <;> rfl

theorem dispatch_stepKept (session : WsSession) (job : StrandJob) :
    StepKept (.dispatch job) session (after (dispatch job) session) := by
  by_cases drained : session.locker.lockCount = 0
  · have threw := makeLock_run_drained drained
    rw [after_eq_of_ok (by
      rw [dispatch, catching, bind_run, threw]
      rfl)]
    exact .of_same (List.prefix_refl _) id rfl rfl
  · rw [after_eq_of_ok (by
      rw [dispatch, catching,
        bind_run_ok (makeLock_run (Nat.pos_of_ne_zero drained))]
      rfl)]
    exact ⟨List.prefix_append _ _, id, fun _ => rfl, Nat.le_refl _,
      fun _ => ⟨rfl, Nat.le_succ _⟩⟩

theorem step_kept {session next : WsSession} {event : SessionEvent}
    (sound : session.LocksSound)
    (stepped : session.step event = some next) :
    StepKept event session next := by
  cases event with
  | startReturns =>
      obtain ⟨-, rfl⟩ := step_startReturns stepped
      exact .of_unlocked rfl (List.prefix_refl _) rfl rfl rfl
  | acceptDone ec =>
      obtain ⟨-, ws, done, rfl⟩ := complete_eq_some stepped
      refine .handler .ioThread (.of_same (List.prefix_refl _) id rfl rfl)
        (sound.held_of_taken rfl ?_) (acceptHandler_codeKept ec _)
      have oneLess := WsStream.acceptDone?_outstanding done
      simp only [holders]
      omega
  | readDone ec chunk isText stillOpen =>
      obtain ⟨-, ws, done, rfl⟩ := complete_eq_some stepped
      refine .handler .ioThread (.of_same (List.prefix_refl _) id rfl rfl)
        (sound.held_of_taken rfl ?_)
        (readHandler_codeKept isText (WsStream.readDone?_closed done))
      have oneLess := WsStream.readDone?_outstanding done
      simp only [holders, receive] at oneLess ⊢
      omega
  | writeDone ec =>
      obtain ⟨-, ws, done, rfl⟩ := complete_eq_some stepped
      refine .handler .ioThread (.of_same (List.prefix_refl _) id rfl rfl)
        (sound.held_of_taken rfl ?_) (queue_codeKept.writeHandler ec _)
      have oneLess := WsStream.writeDone?_outstanding done
      simp only [holders]
      omega
  | pingDone ec stillOpen =>
      obtain ⟨-, ws, done, rfl⟩ := complete_eq_some stepped
      refine .handler .ioThread (.of_same (List.prefix_refl _) id rfl rfl)
        (sound.held_of_taken rfl ?_) (parts_codeKept.pingHandler ec _)
      have oneLess := WsStream.pingDone?_outstanding done
      simp only [holders]
      omega
  | closeDone ec stillOpen =>
      obtain ⟨-, ws, done, rfl⟩ := complete_eq_some stepped
      refine .handler .ioThread (.of_same (List.prefix_refl _) id rfl rfl)
        (sound.held_of_taken rfl ?_) (parts_codeKept.closeHandler ec _)
      have oneLess := WsStream.closeDone?_outstanding done
      simp only [holders]
      omega
  | controlFrame =>
      obtain ⟨-, reading, rfl⟩ := step_controlFrame stepped
      have counted := sound.counted
      have held : 0 < session.locker.lockCount := by
        simp only [holders, WsStream.outstanding] at counted
        omega
      have frame := restarted_frame { session with waitOnPong := false }
      have silent :=
        (restarted_locks { session with waitOnPong := false }).2
      have grows :=
        restarted_lockCount_le { session with waitOnPong := false }
      rw [runBody, activity_run held]
      constructor
      · have strand := congrArg Frame.strand frame
        exact ⟨[], (List.append_nil _).trans strand.symm⟩
      · intro closing
        exact (congrArg Option.isSome (restarted_closeReason _)).trans closing
      · exact fun _ => congrArg Frame.erased frame
      · exact Nat.le_of_eq silent.symm
      · exact fun _ => ⟨silent, grows⟩
  | timerExpired =>
      obtain ⟨timer, -, rfl⟩ := step_timerExpired stepped
      exact .of_same (List.prefix_refl _) id rfl rfl
  | timerDone ec =>
      obtain ⟨-, timer, taken, rfl⟩ := step_timerDone stepped
      refine .handler .ioThread (.of_same (List.prefix_refl _) id rfl rfl)
        (sound.held_of_taken rfl ?_) (timer_codeKept.timerHandler ec _)
      have oneLess := (WaitableTimer.take?_eq_some taken).1
      simp only [holders]
      omega
  | runJob host =>
      obtain ⟨-, job, jobs, queued, -, rfl⟩ := step_runJob stepped
      refine .handler host (.of_same ?_ id rfl rfl)
        (sound.held_of_taken rfl ?_) (queue_codeKept.runJob job _)
      · rw [queued]
        exact List.prefix_refl _
      · simp only [holders, queued, List.length_cons]
        omega
  | release host =>
      obtain ⟨-, rfl⟩ := step_release stepped
      exact .of_unlocked rfl (List.prefix_refl _) rfl rfl rfl
  | callbackBegins =>
      obtain ⟨-, callback, callbacks, -, rfl⟩ := step_callbackBegins stepped
      exact .of_same (List.prefix_refl _) id rfl rfl
  | callbackReturns =>
      obtain ⟨callback, -, rfl⟩ := step_callbackReturns stepped
      exact .of_unlocked rfl (List.prefix_refl _) rfl rfl rfl
  | dispatch job =>
      obtain ⟨-, rfl⟩ := step_dispatch stepped
      exact dispatch_stepKept session job
  | streamEnds =>
      obtain ⟨ws, -, rfl⟩ := step_streamEnds stepped
      exact .of_same (List.prefix_refl _) id rfl rfl
  | writeBlock blocked =>
      cases stepped
      exact .of_same (List.prefix_refl _) id rfl rfl
  | erase =>
      obtain ⟨-, -, rfl⟩ := step_erase stepped
      have same : session.destroyed.strand = session.strand ∧
          session.destroyed.closeReason = session.closeReason ∧
          session.destroyed.locker = session.locker := by
        unfold destroyed
        split <;> exact ⟨rfl, rfl, rfl⟩
      obtain ⟨strand, closing, locker⟩ := same
      refine ⟨?_, ?_, fun alive => absurd rfl alive, ?_, fun _ => ?_⟩
      · rw [strand]
        exact List.prefix_refl _
      · rw [closing]
        exact id
      · exact Nat.le_of_eq (congrArg AsyncLocker.callbacks locker.symm)
      · rw [locker]
        exact ⟨rfl, Nat.le_refl _⟩

/-! ## Drained sessions -/

/-- The callback of the locker comes with the release of the last lock. -/
theorem callbacks_eq {session : WsSession} (sound : session.LocksSound) :
    session.locker.callbacks =
      if session.locker.lockCount = 0 then 1 else 0 :=
  sound.latched

/-- A drained session stays drained. -/
theorem step_drained {session next : WsSession} {event : SessionEvent}
    (sound : session.LocksSound) (drained : session.locker.lockCount = 0)
    (stepped : session.step event = some next) :
    next.locker.lockCount = 0 := by
  have calledBack := callbacks_eq sound
  rw [if_pos drained] at calledBack
  have still := (step_kept sound stepped).callbacks
  have latched := callbacks_eq (step_locksSound sound stepped)
  by_contra held
  rw [if_neg held] at latched
  omega

/-- A step that releases no lock drains no session. -/
theorem step_callbacks {session next : WsSession} {event : SessionEvent}
    (sound : session.LocksSound) (keeps : event.releases = false)
    (stepped : session.step event = some next) :
    next.locker.callbacks = session.locker.callbacks :=
  ((step_kept sound stepped).locks keeps).1

/-- Nothing is left to do for the stream of a drained session. -/
theorem ended_of_drained {session : WsSession}
    (reached : sessionMachine.Reachable session)
    (drained : session.locker.lockCount = 0) :
    session.ws.phase = .ended := by
  have counted := (locksSound_of_reachable reached).counted
  have idle : session.ws.outstanding = 0 := by
    simp only [holders] at counted
    omega
  simp only [WsStream.outstanding] at idle
  cases phase : session.ws.phase with
  | handshake =>
      have accepting := (handshakeSound_of_reachable reached).phase.mp phase
      omega
  | opened =>
      have isOpen : session.ws.isOpen = true := by
        simp [WsStream.isOpen, phase]
      have reading := ((callbacksSound_of_reachable reached).opened isOpen).2
      omega
  | ended => rfl

/-! ## Requests to close -/

/-- The session has ended or knows why it closes. -/
def Closing (session : WsSession) : Prop :=
  session.ws.phase = .ended ∨ session.closeReason.isSome = true

/-- The session is closing, or a request to close waits on its strand. -/
def CloseRequested (session : WsSession) : Prop :=
  session.Closing ∨ ∃ reason, StrandJob.close reason ∈ session.strand

theorem Closing.congr {before after : WsSession} (closing : before.Closing)
    (phase : after.ws.phase = before.ws.phase ∨
      after.ws.phase = before.ws.phase.afterEnd)
    (reason : before.closeReason.isSome = true →
      after.closeReason.isSome = true) : after.Closing := by
  rcases closing with ended | closing
  · left
    rcases phase with same | afterEnd
    · exact same.trans ended
    · rw [afterEnd, ended]
      rfl
  · exact .inr (reason closing)

theorem Closing.codeKept {before after : WsSession}
    (closing : before.Closing) (kept : CodeKept before after) :
    after.Closing :=
  closing.congr kept.phase kept.closing

theorem Closing.narrowed {session : WsSession} {ws : WsStream}
    (closing : session.Closing) (narrows : WsStream.Narrows session.ws ws) :
    Closing { session with ws := ws } :=
  closing.congr narrows.phase id

theorem closing_preserved : Preserved HandshakeSound Closing where
  ofCore := .of_iff fun _ => Iff.rfl
  parts := .carried fun kept closing => closing.codeKept kept
  runJob job session := ⟨queue_codeKept.runJob job session, fun _ closing =>
    closing.codeKept (queue_codeKept.runJob job session)⟩
  acceptDone := by
    intro session ec ws handshake closing done _
    refine Closing.codeKept ?_ (acceptHandler_codeKept ec _)
    obtain ⟨accepting, -⟩ := WsStream.acceptDone?_eq_some done
    rcases closing with ended | closing
    · have phase := handshake.phase.mpr accepting
      exact absurd (phase.symm.trans ended) (by decide)
    · exact .inr closing
  readDone := by
    intro session ec chunk isText stillOpen ws _ closing done _
    have received : (session.receive ec chunk isText).Closing := closing
    exact (received.narrowed (WsStream.readDone?_narrows done)).codeKept
      (readHandler_codeKept isText (WsStream.readDone?_closed done))
  writeDone _ closing done _ :=
    (closing.narrowed (WsStream.writeDone?_narrows done)).codeKept
      (queue_codeKept.writeHandler _ _)
  pingDone closing done :=
    closing.narrowed (WsStream.pingDone?_narrows done)
  closeDone closing done :=
    closing.narrowed (WsStream.closeDone?_narrows done)
  timerExpired closing _ := closing
  timerDone := by
    intro session ec timer closing _ _
    have taken : Closing { session with timer := timer } := closing
    exact taken.codeKept (timer_codeKept.timerHandler ec _)
  callbackBegins closing _ _ := closing
  callbackReturns closing _ := closing
  streamEnds closing ends :=
    closing.narrowed (WsStream.endStream?_narrows ends)
  writeBlock closing := closing
  erase _ closing _ _ := by
    unfold destroyed
    split <;> exact closing

/-- A request to close that meets no handshake in flight is effective. -/
theorem closeJob_closing {session : WsSession} (reason : CloseReason)
    (accepted : session.ws.phase ≠ .handshake) :
    Closing (after (closeJob reason) session) := by
  have kept : CodeKept session (after (closeJob reason) session) :=
    queue_codeKept.closeJob reason session
  have run := closeJob_run reason session
  by_cases isOpen : session.ws.isOpen = true
  case neg =>
    have ended : session.ws.phase = .ended := by
      cases phase : session.ws.phase with
      | handshake => exact absurd phase accepted
      | opened => exact absurd (by simp [WsStream.isOpen, phase]) isOpen
      | ended => rfl
    exact Closing.codeKept (.inl ended) kept
  rw [if_neg (not_not_intro isOpen)] at run
  by_cases closing : session.closeReason.isSome = true
  · exact Closing.codeKept (.inr closing) kept
  rw [if_neg closing] at run
  by_cases empty : session.writeList.isEmpty = true
  · rw [if_pos empty] at run
    rw [after_congr run]
    have requested : Closing { session with closeReason := some reason } :=
      .inr rfl
    exact requested.codeKept (queue_codeKept.doWrite _)
  · rw [if_neg empty] at run
    rw [after_eq_of_ok run]
    exact .inr rfl

/-- The step runs a request to close while the handshake is in flight. -/
def swallowsClose (session : WsSession) : SessionEvent → Bool
  | .runJob _ =>
      match session.strand.head? with
      | some (.close _) => decide (session.ws.phase = .handshake)
      | _ => false
  | _ => false

theorem runJob_closing {session next : WsSession} {host : Host}
    {reason : CloseReason} {jobs : List StrandJob}
    (queued : session.strand = .close reason :: jobs)
    (heeded : session.swallowsClose (.runJob host) = false)
    (stepped : session.step (.runJob host) = some next) : next.Closing := by
  have accepted : session.ws.phase ≠ .handshake := by
    simpa [swallowsClose, queued] using heeded
  obtain ⟨-, job, rest, queued', -, rfl⟩ := step_runJob stepped
  obtain ⟨rfl, rfl⟩ := List.cons.inj (queued.symm.trans queued')
  have closing :
      Closing (after (closeJob reason) { session with strand := jobs }) :=
    closeJob_closing reason accepted
  exact closing_preserved.ofCore _ _ (runHandler_core _ _ _) closing

/-- A session that was asked to close stays so. -/
theorem step_closeRequested {session next : WsSession}
    {event : SessionEvent} (reached : sessionMachine.Reachable session)
    (requested : session.CloseRequested)
    (heeded : session.swallowsClose event = false)
    (stepped : session.step event = some next) : next.CloseRequested := by
  have sound := locksSound_of_reachable reached
  rcases requested with closing | ⟨reason, queued⟩
  · exact .inl (closing_preserved.step sound
      (handshakeSound_of_reachable reached) closing stepped)
  have strand := (step_kept sound stepped).strand
  by_cases runs : event.jobsRun = 0
  · rw [runs] at strand
    exact .inr ⟨reason, strand.subset queued⟩
  · cases event with
    | runJob host =>
        cases jobs : session.strand with
        | nil => rw [jobs] at queued; cases queued
        | cons first rest =>
            rw [jobs] at queued strand
            rcases List.mem_cons.mp queued with rfl | later
            · exact .inl (runJob_closing jobs heeded stepped)
            · exact .inr ⟨reason, strand.subset later⟩
    | _ => exact absurd rfl runs

/-- The service asks a session to close. -/
theorem dispatch_closeRequested {session next : WsSession}
    {reason : CloseReason} (reached : sessionMachine.Reachable session)
    (stepped : session.step (.dispatch (.close reason)) = some next) :
    next.CloseRequested := by
  by_cases drained : session.locker.lockCount = 0
  · have sound := locksSound_of_reachable reached
    exact .inl (closing_preserved.step sound
      (handshakeSound_of_reachable reached)
      (.inl (ended_of_drained reached drained)) stepped)
  · obtain ⟨-, rfl⟩ := step_dispatch stepped
    rw [after_eq_of_ok (by
      rw [dispatch, catching,
        bind_run_ok (makeLock_run (Nat.pos_of_ne_zero drained))]
      rfl)]
    exact .inr ⟨reason, List.mem_append_right _ (List.mem_singleton.mpr rfl)⟩

/-- Only an open session without a reason to close is still to be closed. -/
theorem CloseRequested.of_isOpen {session : WsSession}
    (requested : session.CloseRequested) (isOpen : session.ws.isOpen = true) :
    session.closeReason.isSome = true ∨
      ∃ reason, StrandJob.close reason ∈ session.strand := by
  rcases requested with (ended | closing) | queued
  · simp [WsStream.isOpen, ended] at isOpen
  · exact .inl closing
  · exact .inr queued

end WsSession

end Webservice
