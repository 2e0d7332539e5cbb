import Webservice.Session.Timeout

/-!
# Pings of a session

A session sends a ping when its timer expires, and takes the next expiry for
the end of its peer unless something was received in between.  What was
received need not answer the ping, so the write of the ping may still wait
when the session sends the next one.  The condition below speaks of what was
received and of what completed; `wait_on_pong_` is how the session knows.
-/

namespace Webservice

/-! ## What the past tells -/

namespace SessionEvent

/-- The peer is heard of: a control frame, a message, or bytes on which a
read fails. -/
def hears : SessionEvent → Bool
  | .controlFrame => true
  | .readDone (some .operationAborted) _ _ _ => false
  | .readDone (some .closed) _ _ _ => false
  | .readDone _ _ _ _ => true
  | _ => false

def completesPing : SessionEvent → Bool
  | .pingDone _ _ => true
  | _ => false

end SessionEvent

namespace WsSession

open Effects

/-- The timer expires while the stream is open. -/
def expires (session : WsSession) (event : SessionEvent) : Bool :=
  decide (event = .timerDone none) && session.ws.isOpen

/-- The steps taken, the last one first: the state before each, and its
event. -/
abbrev Past := List (WsSession × SessionEvent)

namespace Past

def hasExpired (past : Past) : Bool :=
  past.any fun taken => taken.1.expires taken.2

/-- The steps after the last expiry. -/
def sinceExpiry (past : Past) : Past :=
  past.takeWhile fun taken => !taken.1.expires taken.2

def heard (past : Past) : Bool :=
  past.sinceExpiry.any fun taken => taken.2.hears

def completed (past : Past) : Bool :=
  past.sinceExpiry.any fun taken => taken.2.completesPing

section

variable {past : Past} {session : WsSession} {event : SessionEvent}

theorem sinceExpiry_expired (expired : session.expires event = true) :
    sinceExpiry ((session, event) :: past) = [] := by
  simp [sinceExpiry, expired]

theorem sinceExpiry_quiet (quiet : session.expires event = false) :
    sinceExpiry ((session, event) :: past) =
      (session, event) :: past.sinceExpiry := by
  simp [sinceExpiry, quiet]

end

end Past

/-- The timer expires on an open stream a second time, after the peer was
heard of, only once the ping of the expiry before has completed. -/
def PingsAwaited (recorded : WsSession × Past) (event : SessionEvent) :
    Prop :=
  recorded.1.expires event = true → recorded.2.hasExpired = true →
    recorded.2.heard = true → recorded.2.completed = true

instance (recorded : WsSession × Past) (event : SessionEvent) :
    Decidable (PingsAwaited recorded event) :=
  inferInstanceAs (Decidable (_ → _ → _ → _))

/-- Neither the pings nor what the session knows of its peer change, and the
socket is not opened again. -/
structure SamePings (before after : WsSession) : Prop where
  pings : after.ws.pings = before.ws.pings
  waits : after.waitOnPong = before.waitOnPong
  socket : after.ws.socketOpen = true → before.ws.socketOpen = true

instance : IsPreorder WsSession SamePings where
  refl _ := ⟨rfl, rfl, id⟩
  trans _ _ _ first second :=
    ⟨second.pings.trans first.pings, second.waits.trans first.waits,
      first.socket ∘ second.socket⟩

/-! ## Code that sends no ping -/

section

variable {session : WsSession}

theorem lockerSet_samePings (session : WsSession) (locker : AsyncLocker) :
    SamePings session { session with locker := locker } :=
  ⟨rfl, rfl, id⟩

theorem startOp_samePings {op : WsSession → StreamOp}
    {begins : WsSession → WsSession}
    (same : ∀ session, SamePings session (begins session)) :
    Keeps SamePings (startOp op begins) :=
  .bind (makeLock_keeps lockerSet_samePings) fun _ => .modify fun session =>
    ⟨(same session).pings, (same session).waits, (same session).socket⟩

theorem cancelTimer_samePings : Keeps SamePings cancelTimer :=
  .modify fun _ => ⟨rfl, rfl, id⟩

theorem restartTimer_samePings : Keeps SamePings restartTimer := by
  have cancels : Keeps SamePings expiresAfter :=
    .bind .get fun _ => .bind cancelTimer_samePings fun _ => .pure _
  refine .bind cancels fun _ => .bind .get fun _ =>
    .ite (fun _ => ?_) fun _ => .pure _
  exact startOp_samePings fun _ => ⟨rfl, rfl, id⟩

theorem onException_samePings (error : Exception) :
    Keeps SamePings (onException error) :=
  .modify fun _ => ⟨rfl, rfl, id⟩

theorem queue_samePings : KeptByQueue SamePings where
  cancelTimer session _ := cancelTimer_samePings session
  onException := onException_samePings
  withLock := withLock_keeps lockerSet_samePings
  pushed _ := .modify fun _ => ⟨rfl, rfl, id⟩
  popped := .modify fun _ => ⟨rfl, rfl, id⟩
  requested _ := .modify fun _ => ⟨rfl, rfl, id⟩
  kindSet _ := .modify fun _ => ⟨rfl, rfl, id⟩
  asyncWrite _ := startOp_samePings fun _ => ⟨rfl, rfl, id⟩
  asyncClose _ := startOp_samePings fun _ => ⟨rfl, rfl, id⟩

theorem doRead_samePings : Keeps SamePings doRead :=
  doRead_keeps restartTimer_samePings
    (startOp_samePings fun _ => ⟨rfl, rfl, id⟩)

theorem deferCallback_samePings {callback : WsSession → Callback}
    {captures : WsSession → WsSession}
    (same : ∀ session, SamePings session (captures session)) :
    Keeps SamePings (deferCallback callback captures) := by
  refine catching_keeps ?_ onException_samePings
  exact .bind (makeLock_keeps lockerSet_samePings) fun _ =>
    .modify fun session =>
      ⟨(same session).pings, (same session).waits, (same session).socket⟩

theorem onMessage_samePings (isText : Bool) :
    Keeps SamePings (onMessage isText) :=
  deferCallback_samePings fun _ => ⟨rfl, rfl, id⟩

theorem acceptHandler_samePings (ec : Option ErrorCode) :
    Keeps SamePings (acceptHandler ec) := by
  have onOpenKept : Keeps SamePings onOpen :=
    deferCallback_samePings fun _ => ⟨rfl, rfl, id⟩
  refine acceptHandler_keeps ?_ onOpenKept doRead_samePings
    onException_samePings ec
  exact .modify fun _ => ⟨rfl, rfl, id⟩

theorem dispatch_samePings (job : StrandJob) :
    Keeps SamePings (dispatch job) := by
  refine catching_keeps ?_ onException_samePings
  exact .bind (makeLock_keeps lockerSet_samePings) fun _ =>
    .modify fun _ => ⟨rfl, rfl, id⟩

/-- The handler of a read that the peer is heard by, past the reset of
`wait_on_pong_`. -/
theorem readHandler_samePings (isText : Bool) (ec : Option ErrorCode)
    (continues : ec ≠ some .operationAborted) (unclosed : ec ≠ some .closed) :
    SamePings { session with waitOnPong := false }
      (after (readHandler isText ec) session) := by
  have read : Keeps SamePings (do
      restartTimer
      onMessage isText
      doRead) :=
    .bind restartTimer_samePings fun _ =>
      .bind (onMessage_samePings isText) fun _ => doRead_samePings
  have failed : ∀ value, Keeps SamePings (do
      restartTimer
      onError "read" (.other value)
      let session ← get
      if session.ws.isOpen then
        close (.ofText "read error")
        doRead) := fun value =>
    .bind restartTimer_samePings fun _ =>
      .bind (onException_samePings _) fun _ => .bind .get fun _ =>
        .ite (fun _ => .bind (queue_samePings.close _) fun _ =>
          doRead_samePings) fun _ => .pure _
  cases ec with
  | none => exact read { session with waitOnPong := false }
  | some ec =>
      cases ec with
      | operationAborted => exact absurd rfl continues
      | closed => exact absurd rfl unclosed
      | other value => exact failed value { session with waitOnPong := false }

theorem runBody_samePings {before : WsSession} {body : SessionCode Unit}
    (host : Host) (kept : SamePings before (after body session)) :
    SamePings before (runBody host body session) := by
  have same := runBody_core host body session
  have pings := congrArg (fun session => session.ws.pings) same
  have waits := congrArg waitOnPong same
  have socket := congrArg (fun session => session.ws.socketOpen) same
  exact ⟨pings.trans kept.pings, waits.trans kept.waits,
    kept.socket ∘ socket.symm.trans⟩

theorem runHandler_samePings {before : WsSession} {body : SessionCode Unit}
    (host : Host) (kept : SamePings before (after body session)) :
    SamePings before (runHandler host body session) :=
  have same := runBody_samePings host kept
  ⟨same.pings, same.waits, same.socket⟩

/-- The handler of the timer sends a ping or leaves the pings alone. -/
theorem timerHandler_samePings {ec : Option ErrorCode}
    (silent : ¬(ec = none ∧ session.ws.isOpen = true ∧
      session.waitOnPong = false)) :
    KeepsAt SamePings (timerHandler ec) session := by
  have closes : Keeps SamePings closeSocket :=
    .bind (.modify fun _ => ⟨rfl, rfl, nofun⟩) fun _ => cancelTimer_samePings
  apply KeepsAt.get_bind
  refine .ite (fun _ => .pure _ _) fun _ => .ite (fun first => ?_) fun _ => ?_
  · refine .ite (fun isOpen => ?_) fun _ => .pure _ _
    refine absurd ⟨first.1, isOpen, ?_⟩ silent
    exact Bool.eq_false_iff.mpr first.2
  · cases ec with
    | none => exact closes session
    | some ec => exact .bind (onException_samePings _ session) fun _ => closes

/-! ## Steps -/

/-- What a step other than an expiry tells the session of its peer. -/
def noticed (session : WsSession) (event : SessionEvent) : WsSession :=
  { session with
    waitOnPong := if event.hears then false else session.waitOnPong
    ws := { session.ws with
      pings := session.ws.pings - event.completesPing.toNat } }

theorem step_quiet {next : WsSession} {event : SessionEvent}
    (quiet : session.expires event = false)
    (stepped : session.step event = some next) :
    SamePings (session.noticed event) next := by
  cases event with
  | startReturns =>
      obtain ⟨-, rfl⟩ := step_startReturns stepped
      exact ⟨rfl, rfl, id⟩
  | acceptDone ec =>
      obtain ⟨-, ws, done, rfl⟩ := complete_eq_some stepped
      obtain ⟨-, rfl⟩ := WsStream.acceptDone?_eq_some done
      refine trans_of SamePings ?_
        (runHandler_samePings .ioThread (acceptHandler_samePings ec _))
      exact ⟨rfl, rfl, id⟩
  | readDone ec chunk isText stillOpen =>
      obtain ⟨-, ws, done, rfl⟩ := complete_eq_some stepped
      obtain ⟨-, rfl⟩ := WsStream.readDone?_eq_some done
      apply runHandler_samePings
      cases ec with
      | none =>
          refine trans_of SamePings ?_
            (readHandler_samePings isText none nofun nofun)
          exact ⟨rfl, rfl, id⟩
      | some ec =>
          cases ec with
          | operationAborted => exact ⟨rfl, rfl, id⟩
          | closed => exact ⟨rfl, rfl, id⟩
          | other value =>
              refine trans_of SamePings ?_
                (readHandler_samePings isText (some (.other value)) nofun
                  nofun)
              exact ⟨rfl, rfl, id⟩
  | writeDone ec =>
      obtain ⟨-, ws, done, rfl⟩ := complete_eq_some stepped
      obtain ⟨-, rfl⟩ := WsStream.writeDone?_eq_some done
      refine trans_of SamePings ?_
        (runHandler_samePings .ioThread (queue_samePings.writeHandler ec _))
      exact ⟨rfl, rfl, id⟩
  | pingDone ec stillOpen =>
      obtain ⟨-, ws, done, rfl⟩ := complete_eq_some stepped
      obtain ⟨-, rfl⟩ := WsStream.pingDone?_eq_some done
      refine trans_of SamePings ?_
        (runHandler_samePings .ioThread
          (queue_samePings.closing.pingHandler ec _))
      exact ⟨rfl, rfl, id⟩
  | closeDone ec stillOpen =>
      obtain ⟨-, ws, done, rfl⟩ := complete_eq_some stepped
      obtain ⟨-, rfl⟩ := WsStream.closeDone?_eq_some done
      refine trans_of SamePings ?_
        (runHandler_samePings .ioThread
          (queue_samePings.closing.closeHandler ec _))
      exact ⟨rfl, rfl, id⟩
  | controlFrame =>
      obtain ⟨-, -, rfl⟩ := step_controlFrame stepped
      refine trans_of SamePings ?_
        (runBody_samePings .ioThread
          (restartTimer_samePings { session with waitOnPong := false }))
      exact ⟨rfl, rfl, id⟩
  | timerExpired =>
      obtain ⟨timer, -, rfl⟩ := step_timerExpired stepped
      exact ⟨rfl, rfl, id⟩
  | timerDone ec =>
      obtain ⟨-, timer, -, rfl⟩ := step_timerDone stepped
      refine trans_of SamePings ?_
        (runHandler_samePings .ioThread (timerHandler_samePings ?_))
      · exact ⟨rfl, rfl, id⟩
      · rintro ⟨rfl, isOpen, -⟩
        have expired : session.expires (.timerDone none) = true := isOpen
        rw [quiet] at expired
        cases expired
  | runJob host =>
      obtain ⟨-, job, jobs, -, -, rfl⟩ := step_runJob stepped
      refine trans_of SamePings ?_
        (runHandler_samePings host (queue_samePings.runJob job _))
      exact ⟨rfl, rfl, id⟩
  | release host =>
      obtain ⟨-, rfl⟩ := step_release stepped
      exact ⟨rfl, rfl, id⟩
  | callbackBegins =>
      obtain ⟨-, callback, callbacks, -, rfl⟩ := step_callbackBegins stepped
      exact ⟨rfl, rfl, id⟩
  | callbackReturns =>
      obtain ⟨callback, -, rfl⟩ := step_callbackReturns stepped
      exact ⟨rfl, rfl, id⟩
  | dispatch job =>
      obtain ⟨-, rfl⟩ := step_dispatch stepped
      exact trans_of SamePings ⟨rfl, rfl, id⟩ (dispatch_samePings job session)
  | streamEnds =>
      obtain ⟨ws, ends, rfl⟩ := step_streamEnds stepped
      obtain ⟨-, rfl⟩ := WsStream.endStream?_eq_some ends
      exact ⟨rfl, rfl, id⟩
  | writeBlock blocked =>
      cases stepped
      exact ⟨rfl, rfl, id⟩
  | erase =>
      obtain ⟨-, -, rfl⟩ := step_erase stepped
      unfold destroyed
      split <;> exact ⟨rfl, rfl, id⟩

/-- An expiry on an open stream finds the socket open, and either sends a
ping or closes the socket. -/
theorem step_expires {next : WsSession} {event : SessionEvent}
    (reached : sessionMachine.Reachable session)
    (expired : session.expires event = true)
    (stepped : session.step event = some next) :
    session.ws.socketOpen = true ∧
      ((session.waitOnPong = false ∧ next.waitOnPong = true ∧
          next.ws.pings = session.ws.pings + 1) ∨
        (session.waitOnPong = true ∧ next.ws.socketOpen = false ∧
          next.ws.pings = session.ws.pings)) := by
  simp only [expires, Bool.and_eq_true, decide_eq_true_eq] at expired
  obtain ⟨rfl, isOpen⟩ := expired
  obtain ⟨-, timer, taken, rfl⟩ := step_timerDone stepped
  obtain ⟨handlers, oneLess, -⟩ := WaitableTimer.take?_eq_some taken
  simp only [reduceCtorEq, decide_false, Bool.false_eq_true,
    if_false] at oneLess
  have sound := timerSound_inductive.of_reachable locksSound_of_reachable
    reached
  refine ⟨?_, ?_⟩
  · by_contra shut
    cases role : session.history.role with
    | server =>
        have unarmed := sound.server role
        omega
    | client =>
        have unarmed := sound.client role isOpen
        rw [if_neg shut] at unarmed
        omega
  rcases Bool.eq_false_or_eq_true session.waitOnPong with waits | quiet
  · have closes : (after (timerHandler none)
        { session with timer := timer }).core = _ :=
      timerHandler_closes nofun fun first => first.2 waits
    have closes := (runHandler_core .ioThread _ _).trans closes
    exact .inr ⟨waits, congrArg (fun session => session.ws.socketOpen) closes,
      congrArg (fun session => session.ws.pings) closes⟩
  · have held : Held { session with timer := timer } :=
      (locksSound_of_reachable reached).held_of_taken rfl (by
        simp only [holders]
        omega)
    -- the wait that expired was the only one
    have idle : timer.pending = 0 := by
      have single := sound.single
      simp only [WaitableTimer.live] at oneLess single
      omega
    have pings : timerHandler none { session with timer := timer } = _ :=
      timerHandler_pings held.pos idle quiet isOpen
    rw [runHandler, runBody, pings]
    exact .inl ⟨quiet, rfl, rfl⟩

end

/-! ## Runs with their past -/

/-- What `wait_on_pong_` and the pings are after the steps of the past. -/
structure PingsSound (recorded : WsSession × Past) : Prop where
  unsent : recorded.2.hasExpired = false →
    recorded.1.waitOnPong = false ∧ recorded.1.ws.pings = 0
  waits : recorded.2.hasExpired = true →
    recorded.1.waitOnPong = !recorded.2.heard
  pings : recorded.2.hasExpired = true →
    recorded.1.ws.pings = if recorded.2.completed then 0 else 1

/-- Once the socket is closed, the timer does not expire any more. -/
def PingsKnown (recorded : WsSession × Past) : Prop :=
  sessionMachine.Reachable recorded.1 ∧
    (recorded.1.ws.socketOpen = true → PingsSound recorded)

section

variable {before after : WsSession × Past} {event : SessionEvent}

theorem PingsSound.quiet (sound : PingsSound before)
    (quiet : before.1.expires event = false)
    (same : SamePings (before.1.noticed event) after.1)
    (past : after.2 = (before.1, event) :: before.2) :
    PingsSound after := by
  have expired : after.2.hasExpired = before.2.hasExpired := by
    rw [past, Past.hasExpired, List.any_cons, quiet, Bool.false_or,
      ← Past.hasExpired]
  have heard : after.2.heard = (event.hears || before.2.heard) := by
    rw [past, Past.heard, Past.sinceExpiry_quiet quiet, List.any_cons,
      ← Past.heard]
  have completed :
      after.2.completed = (event.completesPing || before.2.completed) := by
    rw [past, Past.completed, Past.sinceExpiry_quiet quiet, List.any_cons,
      ← Past.completed]
  constructor
  · intro unexpired
    obtain ⟨waits, pings⟩ := sound.unsent (expired ▸ unexpired)
    rw [same.waits, same.pings, noticed, waits, pings]
    exact ⟨ite_self false, Nat.zero_sub _⟩
  · intro hasExpired
    rw [same.waits, noticed, heard, sound.waits (expired ▸ hasExpired)]
    cases event.hears <;> rfl
  · intro hasExpired
    rw [same.pings, noticed, completed, sound.pings (expired ▸ hasExpired)]
    cases event.completesPing <;> cases before.2.completed <;> rfl

/-- A ping that leaves one outstanding is the only one. -/
theorem pingsSound_of_sent {event : SessionEvent}
    (expired : before.1.expires event = true)
    (waits : after.1.waitOnPong = true) (pings : after.1.ws.pings = 1)
    (past : after.2 = (before.1, event) :: before.2) :
    PingsSound after := by
  have hasExpired : after.2.hasExpired = true := by
    rw [past, Past.hasExpired, List.any_cons, expired, Bool.true_or]
  have since : after.2.sinceExpiry = [] := by
    rw [past, Past.sinceExpiry_expired expired]
  refine ⟨fun unexpired => ?_, fun _ => ?_, fun _ => ?_⟩
  · rw [hasExpired] at unexpired
    cases unexpired
  · rw [waits, Past.heard, since]
    rfl
  · rw [pings, Past.completed, since]
    rfl

theorem step_pingsKnown (known : PingsKnown before)
    (single : before.1.ws.pings ≤ 1) (stillSingle : after.1.ws.pings ≤ 1)
    (stepped : sessionMachine.recording.step before event = some after) :
    PingsKnown after := by
  obtain ⟨reached, sound⟩ := known
  obtain ⟨isNext, past⟩ := Machine.recording_step stepped
  refine ⟨.step reached trivial isNext, fun socket => ?_⟩
  cases expired : before.1.expires event with
  | false =>
      have same := step_quiet expired isNext
      exact (sound (same.socket socket)).quiet expired same past
  | true =>
      obtain ⟨isOpen, ⟨-, waits, pings⟩ | ⟨-, shut, -⟩⟩ :=
        step_expires reached expired isNext
      · exact pingsSound_of_sent expired waits (by omega) past
      · rw [shut] at socket
        cases socket

theorem step_pings_le_one_iff (known : PingsKnown before)
    (single : before.1.ws.pings ≤ 1)
    (stepped : sessionMachine.recording.step before event = some after) :
    after.1.ws.pings ≤ 1 ↔ PingsAwaited before event := by
  obtain ⟨reached, sound⟩ := known
  obtain ⟨isNext, -⟩ := Machine.recording_step stepped
  cases expired : before.1.expires event with
  | false =>
      have same := (step_quiet expired isNext).pings
      refine iff_of_true ?_ fun expires => ?_
      · rw [same]
        exact Nat.le_trans (Nat.sub_le _ _) single
      · rw [expired] at expires
        cases expires
  | true =>
      obtain ⟨socket, ⟨quiet, -, pings⟩ | ⟨waits, -, pings⟩⟩ :=
        step_expires reached expired isNext
      · have sound := sound socket
        rw [pings, PingsAwaited, imp_iff_right expired]
        cases hasExpired : before.2.hasExpired with
        | false => simp [(sound.unsent hasExpired).2]
        | true =>
            have heard : before.2.heard = true := by
              have waits := sound.waits hasExpired
              rw [quiet] at waits
              exact Bool.not_eq_eq_eq_not.mp waits.symm
            rw [sound.pings hasExpired, imp_iff_right rfl,
              imp_iff_right heard]
            cases before.2.completed <;> simp
      · refine iff_of_true (pings ▸ single) fun _ hasExpired heard => ?_
        have waited := (sound socket).waits hasExpired
        rw [waits, heard] at waited
        cases waited

end

theorem launched_pingsKnown (role : Role) :
    PingsKnown (launched role, []) := by
  refine ⟨.initial ⟨role, rfl⟩, fun _ => ⟨fun _ => ?_, nofun, nofun⟩⟩
  cases role <;> exact ⟨rfl, rfl⟩

theorem launched_pings (role : Role) : (launched role).ws.pings = 0 := by
  cases role <;> rfl

/-- At most one ping is outstanding in all states of exactly those runs in
which the ping of an expiry has completed whenever the next expiry comes after
the peer was heard of. -/
theorem pings_le_one_iff {role : Role} {last : WsSession}
    {events : List SessionEvent}
    (ran : sessionMachine.run (launched role) events = some last) :
    sessionMachine.Throughout (fun session => session.ws.pings ≤ 1)
        (launched role) events ↔
      sessionMachine.recording.Admitted PingsAwaited (launched role, [])
        events := by
  obtain ⟨past, recorded⟩ := Machine.recording_run ran []
  rw [← Machine.recording_throughout []]
  refine Machine.throughout_iff_admitted PingsKnown
    (fun recorded => recorded.1.ws.pings ≤ 1) ?_ ?_
    (Machine.admitted_true (launched role, []) events) recorded
    (launched_pingsKnown role) ?_
  · intro before event after known _ single stillSingle stepped
    exact step_pingsKnown known single stillSingle stepped
  · intro before event after known _ single stepped
    exact step_pings_le_one_iff known single stepped
  · simp only [launched_pings, Nat.zero_le]

/-- The first expiry of a client session sends a ping. -/
def firstPing : List SessionEvent :=
  [.startReturns, .timerExpired, .timerDone none, .release .ioThread]

/-- A frame of the peer arrives while the ping waits to be written, and the
timer expires again. -/
def secondPing : List SessionEvent :=
  firstPing ++ [.controlFrame, .timerExpired, .timerDone none]

/-- The ping completes before the frame arrives. -/
def answeredPing : List SessionEvent :=
  firstPing ++ [.pingDone none true, .release .ioThread, .controlFrame,
    .timerExpired, .timerDone none]

theorem pings_le_one_iff_answered :
    ∃ last, sessionMachine.run (launched .client) answeredPing = some last ∧
      sessionMachine.Throughout (fun session => session.ws.pings ≤ 1)
        (launched .client) answeredPing := by
  have ran : ∃ last, sessionMachine.run (launched .client) answeredPing =
      some last := ⟨_, rfl⟩
  obtain ⟨last, ran⟩ := ran
  refine ⟨last, ran, (pings_le_one_iff ran).mpr ?_⟩
  have sound : ∀ recorded event,
      decide (PingsAwaited recorded event) = true →
        PingsAwaited recorded event :=
    fun _ _ => of_decide_eq_true
  exact Machine.admitted_of_checks sound rfl

theorem second_ping_overlaps :
    ¬∀ events last, sessionMachine.run (launched .client) events = some last →
      last.ws.pings ≤ 1 := by
  intro single
  have ran : ∃ last, sessionMachine.run (launched .client) secondPing =
      some last ∧ last.ws.pings = 2 := ⟨_, rfl, rfl⟩
  obtain ⟨last, ran, pings⟩ := ran
  have atMostOne := single secondPing last ran
  rw [pings] at atMostOne
  exact absurd atMostOne (by decide)

end WsSession

end Webservice
