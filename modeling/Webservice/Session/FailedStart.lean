import Webservice.Session.Locks

/-!
# Starts of sessions that fail

`do_accept` and `start` run on the strand of the service.  When one of their
operations throws, three parties reach for the session: the unwinding, which
releases the first lock, the `catch` of the service, which asks to erase it,
and the handlers of the operations that were already started, which other
threads may run in between.
-/

namespace Webservice

open Effects

/-- The operations inside `do_accept` and `start` that may throw. -/
inductive StartOp where
  | firstWait
  /-- `expires_after` in `start_timer`, which may have cancelled the first
  wait before. -/
  | expiresAfter (cancels : Bool)
  | secondWait
  | asyncAccept
  /-- `expires_after` in `do_read`. -/
  | readExpiresAfter (cancels : Bool)
  | readWait
  | asyncRead
  deriving DecidableEq

structure StartFault where
  op : StartOp
  error : Exception
  deriving DecidableEq

/-- What the operation throws. -/
def StartFault.thrownBy (fault : Option StartFault) (op : StartOp) :
    Option Exception :=
  fault.bind fun fault => if fault.op = op then some fault.error else none

namespace WsSession

/-- Start an operation, unless it throws: then its lambda is destroyed with
the lock it captured. -/
def unlessThrown (thrown : Option Exception) (starts : SessionCode Unit) :
    SessionCode Unit :=
  match thrown with
  | none => starts
  | some error => do
      makeLock
      modify unlocked
      throw error

/-- `expires_after` may throw before it cancels the waits, or behind that. -/
def expiresAfterWith (before behind : Option Exception) : SessionCode Nat :=
  match before, behind with
  | some error, _ => throw error
  | none, some error => do
      let _ ← expiresAfter
      throw error
  | none, none => expiresAfter

def restartTimerWith (before behind wait : Option Exception) :
    SessionCode Unit := do
  let cancelled ← expiresAfterWith before behind
  let session ← get
  if cancelled ≠ 0 ∧ session.ws.isOpen then
    unlessThrown wait doTimer

def startTimerWith (fault : Option StartFault) : SessionCode Unit := do
  unlessThrown (StartFault.thrownBy fault .firstWait) doTimer
  restartTimerWith (StartFault.thrownBy fault (.expiresAfter false))
    (StartFault.thrownBy fault (.expiresAfter true))
    (StartFault.thrownBy fault .secondWait)

/-- `do_read` as `start` calls it. -/
def doReadWith (fault : Option StartFault) : SessionCode Unit := do
  let session ← get
  if session.ws.isOpen then
    restartTimerWith (StartFault.thrownBy fault (.readExpiresAfter false))
      (StartFault.thrownBy fault (.readExpiresAfter true))
      (StartFault.thrownBy fault .readWait)
    unlessThrown (StartFault.thrownBy fault .asyncRead) asyncRead

/-- What `do_accept` and `start` do under the first lock. -/
def startBodyWith (fault : Option StartFault) : Role → SessionCode Unit
  | .server => do
      startTimerWith fault
      unlessThrown (StartFault.thrownBy fault .asyncAccept) asyncAccept
  | .client => do
      startTimerWith fault
      modify fun session => { session with isOpen := true }
      onOpen
      doReadWith fault

theorem startBodyWith_none (role : Role) :
    startBodyWith none role = startBody role := by
  cases role <;> rfl

/-- `do_accept` and `start`. -/
def startWith (fault : Option StartFault) (role : Role) : SessionCode Unit :=
  closingOnThrow (withLock makeFirstLock (startBodyWith fault role))

theorem startWith_none (role : Role) : startWith none role = startBy role := by
  cases role <;> rfl

/-- The body throws in `thrown`, under the first lock. -/
def Throws (role : Role) (fault : StartFault) (thrown : WsSession) : Prop :=
  (do makeFirstLock; startBodyWith (some fault) role : SessionCode Unit)
    (constructed role) = .error fault.error thrown

/-- Before the exception leaves `do_accept` or `start`, the first lock is
released and the socket is closed, in this order. -/
theorem Throws.startWith {role : Role} {fault : StartFault}
    {thrown : WsSession} (throws : Throws role fault thrown) :
    startWith (some fault) role (constructed role) =
      .error fault.error (after closeSocket thrown.unlocked) := by
  have locks : makeFirstLock (constructed role) = .ok ()
      (constructed role).locked := rfl
  rw [Throws, bind_run_ok locks] at throws
  simp only [WsSession.startWith, closingOnThrow, withLock, locks, throws]
  rfl

end WsSession

/-- How far the exception has come. -/
inductive ThrowPhase where
  /-- The first lock is still held. -/
  | thrown
  /-- The function-try-block of `do_accept` or `start` is next. -/
  | unwound
  /-- The `catch` of `async_server_connect` or `async_client_connect` is
  next. -/
  | rethrown
  | caught
  deriving DecidableEq

structure FailedStart where
  session : WsSession
  phase : ThrowPhase
  thrown : Exception
  /-- Lambdas of `on_erase` that wait on the strand of the service. -/
  requests : Nat
  /-- How often the session was erased from `map_`, which destroys it. -/
  erasures : Nat
  /-- Calls of `on_erase` for a session already erased. -/
  lateRequests : Nat
  /-- Locks that were held when the session was destroyed. -/
  orphans : Nat
  /-- The function-try-block closed the socket of a destroyed session. -/
  closedDestroyed : Bool
  /-- Arguments of `on_exception`. -/
  reported : List Exception

namespace FailedStart

def begun (error : Exception) (session : WsSession) : FailedStart :=
  { session := { session with inStart := true }
    phase := .thrown
    thrown := error
    requests := 0
    erasures := 0
    lateRequests := 0
    orphans := 0
    closedDestroyed := false
    reported := [] }

def report (start : FailedStart) (error : Exception) : FailedStart :=
  { start with reported := start.reported ++ [error] }

/-- The lambda of `on_erase`. -/
def eraseJob (start : FailedStart) : FailedStart :=
  if start.session.erased then
    start.report (.logicError "session doesn't exist")
  else { start with
    session := start.session.destroyed
    erasures := start.erasures + 1
    orphans := start.orphans + start.session.locker.lockCount }

/-- `on_erase` is called. -/
def asked (start : FailedStart) : FailedStart :=
  { start with
    lateRequests := start.lateRequests + start.session.erased.toNat }

/-- `on_erase` called on the strand of the service: `dispatch` runs the lambda
inside the call. -/
def onEraseInline (start : FailedStart) : FailedStart :=
  start.asked.eraseJob

/-- `on_erase` called from another thread: the strand is not free. -/
def onErase (start : FailedStart) : FailedStart :=
  { start.asked with requests := start.requests + 1 }

/-- The unwinding has released the first lock. -/
def unwound (start : FailedStart) : FailedStart :=
  { start with
    session := { start.session.unlocked with inStart := false }
    phase := .unwound }

/-- The function-try-block has closed the socket. -/
def closed (start : FailedStart) : FailedStart :=
  { start with
    session := after WsSession.closeSocket start.session
    phase := .rethrown
    closedDestroyed := start.session.erased }

/-- The `catch` has passed the exception to `on_exception`. -/
def handled (start : FailedStart) : FailedStart :=
  { start.report start.thrown with phase := .caught }

/-- The last lock calls `on_erase`. -/
def calledBack (before : WsSession) (start : FailedStart)
    (request : FailedStart → FailedStart) : FailedStart :=
  if before.locker.callbacks < start.session.locker.callbacks then
    request start
  else start

end FailedStart

inductive FailedStartEvent where
  /-- Another thread runs a handler of the session. -/
  | session (event : SessionEvent)
  /-- The first lock is released. -/
  | unwinds
  /-- `close_socket()` in the function-try-block. -/
  | closes
  /-- The `catch` of the service. -/
  | catches
  /-- A lambda of `on_erase` runs. -/
  | erases
  deriving DecidableEq

/-- What happens to a session while the service is busy starting it. -/
def SessionEvent.ofHandler : SessionEvent → Bool
  | .startReturns => false
  | .dispatch _ => false
  | .erase => false
  | _ => true

namespace FailedStart

/-- What handlers of a destroyed session do is undefined, so they make no
step. -/
def step (start : FailedStart) : FailedStartEvent → Option FailedStart
  | .session event =>
      if start.session.erased ∨ ¬event.ofHandler then none
      else (start.session.step event).map fun next =>
        calledBack start.session { start with session := next } onErase
  | .unwinds =>
      if start.phase = .thrown then
        some (calledBack start.session start.unwound onEraseInline)
      else none
  | .closes =>
      if start.phase = .unwound then some start.closed else none
  | .catches =>
      if start.phase = .rethrown then
        some start.handled.onEraseInline
      else none
  | .erases =>
      if start.phase = .caught ∧ 0 < start.requests then
        some ({ start with requests := start.requests - 1 }.eraseJob)
      else none

end FailedStart

def failedStartMachine : Machine FailedStart FailedStartEvent where
  initial start := ∃ role fault thrown, WsSession.Throws role fault thrown ∧
    start = .begun fault.error thrown
  step := FailedStart.step

/-! ## Handlers that run in between -/

namespace WsSession

section

variable {session next : WsSession}

/-- Neither does a handler end the start, nor does it destroy the session. -/
def SameOwner (before after : WsSession) : Prop :=
  after.inStart = before.inStart ∧ after.erased = before.erased

theorem CodeKept.sameOwner {before after : WsSession}
    (kept : CodeKept before after) : SameOwner before after :=
  ⟨congrArg Frame.inStart kept.frame, congrArg Frame.erased kept.frame⟩

theorem runHandler_sameOwner (host : Host) {body : SessionCode Unit}
    (kept : KeepsAt CodeKept body session) :
    SameOwner session (runHandler host body session) :=
  (runBody_codeKept host kept).sameOwner

theorem step_sameOwner {event : SessionEvent}
    (isHandler : event.ofHandler = true)
    (stepped : session.step event = some next) :
    SameOwner session next := by
  cases event with
  | startReturns => cases isHandler
  | acceptDone ec =>
      obtain ⟨-, ws, -, rfl⟩ := complete_eq_some stepped
      exact runHandler_sameOwner _ (acceptHandler_codeKept ec _)
  | readDone ec chunk isText stillOpen =>
      obtain ⟨-, ws, done, rfl⟩ := complete_eq_some stepped
      exact runHandler_sameOwner _ (readHandler_codeKept isText
        (WsStream.readDone?_closed done))
  | writeDone ec =>
      obtain ⟨-, ws, -, rfl⟩ := complete_eq_some stepped
      exact runHandler_sameOwner _ (queue_codeKept.writeHandler ec _)
  | pingDone ec stillOpen =>
      obtain ⟨-, ws, -, rfl⟩ := complete_eq_some stepped
      exact runHandler_sameOwner _ (parts_codeKept.pingHandler ec _)
  | closeDone ec stillOpen =>
      obtain ⟨-, ws, -, rfl⟩ := complete_eq_some stepped
      exact runHandler_sameOwner _ (parts_codeKept.closeHandler ec _)
  | controlFrame =>
      obtain ⟨-, -, rfl⟩ := step_controlFrame stepped
      have kept := runBody_codeKept .ioThread
        (activity_keeps parts_codeKept session)
      exact kept.sameOwner
  | timerExpired =>
      obtain ⟨timer, -, rfl⟩ := step_timerExpired stepped
      exact ⟨rfl, rfl⟩
  | timerDone ec =>
      obtain ⟨-, timer, -, rfl⟩ := step_timerDone stepped
      exact runHandler_sameOwner _ (timer_codeKept.timerHandler ec _)
  | runJob host =>
      obtain ⟨-, job, jobs, -, -, rfl⟩ := step_runJob stepped
      exact runHandler_sameOwner host (queue_codeKept.runJob job _)
  | release host =>
      obtain ⟨-, rfl⟩ := step_release stepped
      exact ⟨rfl, rfl⟩
  | callbackBegins =>
      obtain ⟨-, callback, callbacks, -, rfl⟩ := step_callbackBegins stepped
      exact ⟨rfl, rfl⟩
  | callbackReturns =>
      obtain ⟨callback, -, rfl⟩ := step_callbackReturns stepped
      exact ⟨rfl, rfl⟩
  | dispatch job => cases isHandler
  | streamEnds =>
      obtain ⟨ws, -, rfl⟩ := step_streamEnds stepped
      exact ⟨rfl, rfl⟩
  | writeBlock blocked =>
      cases stepped
      exact ⟨rfl, rfl⟩
  | erase => cases isHandler

theorem destroyed_erased (session : WsSession) :
    session.destroyed.erased = true := by
  unfold destroyed
  split <;> rfl

/-! ## The session of a failed start -/

theorem Throws.locksSound {role : Role} {fault : StartFault}
    {thrown : WsSession} (throws : Throws role fault thrown) :
    LocksSound { thrown with inStart := true } ∧ thrown.erased = false := by
  have sound : ∀ session : WsSession,
      session.locker.lockCount = session.holders →
      session.locker.callbacks = 0 → 0 < session.locker.lockCount →
      session.erased = false → session.LocksSound := by
    intro session counted silent held alive
    refine ⟨counted, ?_, fun erased => ?_⟩
    · rw [AsyncLocker.Latched, if_neg (Nat.ne_of_gt held), silent]
    · rw [alive] at erased
      cases erased
  obtain ⟨op, error⟩ := fault
  cases role with
  | server =>
      cases op with
      | firstWait =>
          cases throws
          exact ⟨sound _ rfl rfl Nat.one_pos rfl, rfl⟩
      | expiresAfter cancels =>
          cases cancels <;> cases throws <;>
            exact ⟨sound _ rfl rfl Nat.two_pos rfl, rfl⟩
      | asyncAccept =>
          cases throws
          exact ⟨sound _ rfl rfl Nat.two_pos rfl, rfl⟩
      | secondWait => cases throws
      | readExpiresAfter cancels => cases cancels <;> cases throws
      | readWait => cases throws
      | asyncRead => cases throws
  | client =>
      cases op with
      | firstWait =>
          cases throws
          exact ⟨sound _ rfl rfl Nat.one_pos rfl, rfl⟩
      | expiresAfter cancels =>
          cases cancels <;> cases throws <;>
            exact ⟨sound _ rfl rfl Nat.two_pos rfl, rfl⟩
      | secondWait =>
          cases throws
          exact ⟨sound _ rfl rfl Nat.two_pos rfl, rfl⟩
      | asyncAccept => cases throws
      | readExpiresAfter cancels =>
          cases cancels <;> cases throws <;>
            exact ⟨sound _ rfl rfl (Nat.succ_pos 3) rfl, rfl⟩
      | readWait =>
          cases throws
          exact ⟨sound _ rfl rfl (Nat.succ_pos 3) rfl, rfl⟩
      | asyncRead =>
          cases throws
          exact ⟨sound _ rfl rfl (Nat.succ_pos 4) rfl, rfl⟩

theorem closeSocket_locksSound (sound : session.LocksSound) :
    (after closeSocket session).LocksSound := by
  have closed : after closeSocket session = { session with
      ws := session.ws.closeSocket
      timer := session.timer.cancel } := rfl
  rw [closed]
  refine sound.congr rfl ?_ rfl
  simp [holders, WsStream.outstanding, WsStream.closeSocket]

theorem unwound_locksSound (sound : session.LocksSound)
    (inStart : session.inStart = true) :
    LocksSound { session.unlocked with inStart := false } := by
  have returns : session.step .startReturns =
      some { session.unlocked with inStart := false } := by
    rw [step, if_pos inStart]
  exact step_locksSound sound returns

end

end WsSession

namespace FailedStart

/-- The session is erased exactly once, `on_erase` is not called for a session
already erased, and no lock is held when the session is destroyed. -/
structure CleanedUp (start : FailedStart) : Prop where
  atMostOnce : start.erasures ≤ 1
  atLeastOnce : start.phase = .caught → start.erasures = 1
  requested : start.lateRequests = 0
  drained : start.orphans = 0

/-- When the `catch` calls `on_erase`, the session is still in `map_`, and
none of its handlers is left. -/
def ErasesInTime (start : FailedStart) (event : FailedStartEvent) : Prop :=
  event = .catches →
    start.session.erased = false ∧ start.session.holders = 0

instance (start : FailedStart) (event : FailedStartEvent) :
    Decidable (start.ErasesInTime event) :=
  inferInstanceAs (Decidable (_ → _ ∧ _))

/-- What holds however the start goes on. -/
structure Sound (start : FailedStart) : Prop where
  erasures : start.erasures = start.session.erased.toNat
  begun : start.phase = .thrown →
    start.session.erased = false ∧ start.session.inStart = true
  caught : start.phase = .caught → start.session.erased = true
  locks : start.session.erased = false → start.session.LocksSound

section

variable {start next : FailedStart}

theorem begun_sound {role : Role} {fault : StartFault} {thrown : WsSession}
    (throws : WsSession.Throws role fault thrown) :
    (begun fault.error thrown).Sound := by
  obtain ⟨locks, alive⟩ := throws.locksSound
  refine ⟨?_, fun _ => ⟨alive, rfl⟩, ?_, fun _ => locks⟩
  · exact (congrArg Bool.toNat alive).symm
  · intro isCaught
    cases isCaught

/-! ## Erasing the session -/

theorem eraseJob_of_erased (erased : start.session.erased = true) :
    start.eraseJob =
      start.report (.logicError "session doesn't exist") := by
  rw [eraseJob, if_pos erased]

theorem eraseJob_of_alive (alive : start.session.erased = false) :
    start.eraseJob = { start with
      session := start.session.destroyed
      erasures := start.erasures + 1
      orphans := start.orphans + start.session.locker.lockCount } := by
  rw [eraseJob, alive, if_neg Bool.false_ne_true]

theorem asked_of_alive (alive : start.session.erased = false) :
    start.asked = start := by
  rw [asked, alive]
  rfl

/-- What `on_erase` on the strand of the service leaves of a session that is
still there. -/
theorem onEraseInline_of_alive (alive : start.session.erased = false) :
    start.onEraseInline = { start with
      session := start.session.destroyed
      erasures := start.erasures + 1
      orphans := start.orphans + start.session.locker.lockCount } := by
  rw [onEraseInline, asked_of_alive alive, eraseJob_of_alive alive]

theorem onEraseInline_of_erased (erased : start.session.erased = true) :
    start.onEraseInline = { start with
      lateRequests := start.lateRequests + 1 }.report
        (.logicError "session doesn't exist") := by
  have asked : start.asked =
      { start with lateRequests := start.lateRequests + 1 } := by
    rw [FailedStart.asked, erased]
    rfl
  rw [onEraseInline, asked]
  exact eraseJob_of_erased erased

/-! ## Every step -/

/-- Only the requests, the reports and what they count. -/
theorem Sound.congr (sound : start.Sound)
    (session : next.session = start.session)
    (erasures : next.erasures = start.erasures)
    (phase : next.phase = start.phase) : next.Sound := by
  refine ⟨?_, ?_, ?_, ?_⟩
  · rw [session, erasures]
    exact sound.erasures
  · rw [session, phase]
    exact sound.begun
  · rw [session, phase]
    exact sound.caught
  · rw [session]
    exact sound.locks

theorem onEraseInline_sound
    (erasures : start.erasures = start.session.erased.toNat)
    (later : start.phase ≠ .thrown) : start.onEraseInline.Sound := by
  by_cases erased : start.session.erased = true
  · rw [onEraseInline_of_erased erased]
    refine ⟨erasures, fun begun => absurd begun later, fun _ => erased, ?_⟩
    intro alive
    have alive : start.session.erased = false := alive
    rw [erased] at alive
    cases alive
  · have alive := Bool.eq_false_iff.mpr erased
    have destroyed := WsSession.destroyed_erased start.session
    rw [onEraseInline_of_alive alive]
    refine ⟨?_, fun begun => absurd begun later, fun _ => destroyed, ?_⟩
    · rw [erasures, alive, destroyed]
      rfl
    · intro stillAlive
      rw [destroyed] at stillAlive
      cases stillAlive

/-- The last lock of a handler only adds a request. -/
theorem calledBack_onErase (before : WsSession) :
    calledBack before start onErase = start ∨
      calledBack before start onErase = start.onErase := by
  rw [calledBack]
  split
  · exact .inr rfl
  · exact .inl rfl

theorem step_session {event : SessionEvent}
    (stepped : start.step (.session event) = some next) :
    start.session.erased = false ∧ ∃ session,
      start.session.step event = some session ∧
      WsSession.SameOwner start.session session ∧
      (next = { start with session := session } ∨
        next = { start with session := session }.onErase) := by
  rw [step] at stepped
  split at stepped
  · cases stepped
  · next runs =>
      rw [not_or, Bool.not_eq_true, not_not] at runs
      obtain ⟨alive, isHandler⟩ := runs
      obtain ⟨session, sessionStepped, rfl⟩ :=
        Option.map_eq_some_iff.mp stepped
      exact ⟨alive, session, sessionStepped,
        WsSession.step_sameOwner isHandler sessionStepped,
        calledBack_onErase start.session⟩

theorem step_unwinds (stepped : start.step .unwinds = some next) :
    start.phase = .thrown ∧
      next = calledBack start.session start.unwound onEraseInline := by
  obtain ⟨isThrown, isNext⟩ := Option.ite_none_right_eq_some.mp stepped
  exact ⟨isThrown, (Option.some.inj isNext).symm⟩

theorem step_closes (stepped : start.step .closes = some next) :
    start.phase = .unwound ∧ next = start.closed := by
  obtain ⟨isUnwound, isNext⟩ := Option.ite_none_right_eq_some.mp stepped
  exact ⟨isUnwound, (Option.some.inj isNext).symm⟩

theorem step_catches (stepped : start.step .catches = some next) :
    start.phase = .rethrown ∧ next = start.handled.onEraseInline := by
  obtain ⟨isRethrown, isNext⟩ := Option.ite_none_right_eq_some.mp stepped
  exact ⟨isRethrown, (Option.some.inj isNext).symm⟩

theorem step_erases (stepped : start.step .erases = some next) :
    start.phase = .caught ∧
      next = { start with requests := start.requests - 1 }.eraseJob := by
  obtain ⟨⟨isCaught, -⟩, isNext⟩ :=
    Option.ite_none_right_eq_some.mp stepped
  exact ⟨isCaught, (Option.some.inj isNext).symm⟩

theorem step_sound {event : FailedStartEvent} (sound : start.Sound)
    (stepped : start.step event = some next) : next.Sound := by
  cases event with
  | session event =>
      obtain ⟨alive, session, sessionStepped, ⟨inStart, erased⟩, isNext⟩ :=
        step_session stepped
      have ran : Sound { start with session := session } := by
        refine ⟨?_, fun isThrown => ?_, fun isCaught => ?_, fun _ => ?_⟩
        · rw [erased]
          exact sound.erasures
        · rw [erased, inStart]
          exact sound.begun isThrown
        · rw [erased]
          exact sound.caught isCaught
        · exact WsSession.step_locksSound (sound.locks alive) sessionStepped
      rcases isNext with rfl | rfl
      · exact ran
      · exact ran.congr rfl rfl rfl
  | unwinds =>
      obtain ⟨isThrown, rfl⟩ := step_unwinds stepped
      obtain ⟨alive, inStart⟩ := sound.begun isThrown
      rw [calledBack]
      split
      · exact onEraseInline_sound sound.erasures (by simp [unwound])
      · refine ⟨sound.erasures, ?_, ?_, fun _ => ?_⟩
        · intro isUnwound
          cases isUnwound
        · intro isUnwound
          cases isUnwound
        · exact WsSession.unwound_locksSound (sound.locks alive) inStart
  | closes =>
      obtain ⟨-, rfl⟩ := step_closes stepped
      refine ⟨sound.erasures, ?_, ?_, fun alive => ?_⟩
      · intro isRethrown
        cases isRethrown
      · intro isRethrown
        cases isRethrown
      · exact WsSession.closeSocket_locksSound (sound.locks alive)
  | catches =>
      obtain ⟨-, rfl⟩ := step_catches stepped
      apply @onEraseInline_sound start.handled sound.erasures
      intro isThrown
      cases isThrown
  | erases =>
      obtain ⟨isCaught, rfl⟩ := step_erases stepped
      rw [@eraseJob_of_erased { start with requests := start.requests - 1 }
        (sound.caught isCaught)]
      exact sound.congr rfl rfl rfl

theorem onEraseInline_not_cleanedUp
    (late : start.session.erased = true ∨
      0 < start.session.locker.lockCount) :
    ¬start.onEraseInline.CleanedUp := by
  intro cleanedUp
  by_cases erased : start.session.erased = true
  · rw [onEraseInline_of_erased erased] at cleanedUp
    exact absurd cleanedUp.requested (Nat.succ_ne_zero _)
  · have held := late.resolve_left erased
    rw [onEraseInline_of_alive (Bool.eq_false_iff.mpr erased)] at cleanedUp
    have drained : start.orphans + start.session.locker.lockCount = 0 :=
      cleanedUp.drained
    omega

/-- The call of `on_erase` in the `catch` decides. -/
theorem step_cleanedUp_iff {event : FailedStartEvent} (sound : start.Sound)
    (clean : start.CleanedUp) (stepped : start.step event = some next) :
    next.CleanedUp ↔ start.ErasesInTime event := by
  have admitted : event ≠ .catches → start.ErasesInTime event :=
    fun other same => absurd same other
  cases event with
  | session event =>
      refine iff_of_true ?_ (admitted FailedStartEvent.noConfusion)
      obtain ⟨alive, session, -, ⟨-, erased⟩, isNext⟩ := step_session stepped
      rcases isNext with rfl | rfl
      · exact ⟨clean.atMostOnce, clean.atLeastOnce, clean.requested,
          clean.drained⟩
      · rw [onErase, @asked_of_alive { start with session := session }
          (erased.trans alive)]
        exact ⟨clean.atMostOnce, clean.atLeastOnce, clean.requested,
          clean.drained⟩
  | unwinds =>
      refine iff_of_true ?_ (admitted FailedStartEvent.noConfusion)
      obtain ⟨isThrown, rfl⟩ := step_unwinds stepped
      obtain ⟨alive, -⟩ := sound.begun isThrown
      have none_yet : start.erasures = 0 := by
        rw [sound.erasures, alive]
        rfl
      rw [calledBack]
      split
      · next called =>
          have unlocked : start.unwound.session.locker.lockCount = 0 :=
            AsyncLocker.unlock_calledBack rfl called
          rw [@onEraseInline_of_alive start.unwound alive]
          refine ⟨?_, ?_, clean.requested, ?_⟩
          · exact Nat.le_of_eq (congrArg (· + 1) none_yet)
          · intro _
            exact congrArg (· + 1) none_yet
          · show start.orphans + start.unwound.session.locker.lockCount = 0
            rw [unlocked, clean.drained]
      · refine ⟨clean.atMostOnce, ?_, clean.requested, clean.drained⟩
        intro isUnwound
        cases isUnwound
  | closes =>
      refine iff_of_true ?_ (admitted FailedStartEvent.noConfusion)
      obtain ⟨-, rfl⟩ := step_closes stepped
      refine ⟨clean.atMostOnce, ?_, clean.requested, clean.drained⟩
      intro isRethrown
      cases isRethrown
  | catches =>
      obtain ⟨-, rfl⟩ := step_catches stepped
      by_cases late : start.session.erased = true ∨
          0 < start.session.locker.lockCount
      · refine iff_of_false (@onEraseInline_not_cleanedUp start.handled late) ?_
        intro inTime
        obtain ⟨alive, none_left⟩ := inTime rfl
        have held := late.resolve_left (by simp [alive])
        rw [(sound.locks alive).counted, none_left] at held
        exact Nat.lt_irrefl 0 held
      · rw [not_or, Bool.not_eq_true, Nat.not_lt, Nat.le_zero] at late
        obtain ⟨alive, drained⟩ := late
        have none_left := (sound.locks alive).counted.symm.trans drained
        refine iff_of_true ?_ fun _ => ⟨alive, none_left⟩
        have none_yet : start.erasures = 0 := by
          rw [sound.erasures, alive]
          rfl
        rw [@onEraseInline_of_alive start.handled alive]
        refine ⟨?_, ?_, clean.requested, ?_⟩
        · exact Nat.le_of_eq (congrArg (· + 1) none_yet)
        · exact fun _ => congrArg (· + 1) none_yet
        · show start.orphans + start.session.locker.lockCount = 0
          rw [drained, clean.drained]
  | erases =>
      refine iff_of_true ?_ (admitted FailedStartEvent.noConfusion)
      obtain ⟨isCaught, rfl⟩ := step_erases stepped
      rw [@eraseJob_of_erased { start with requests := start.requests - 1 }
        (sound.caught isCaught)]
      exact ⟨clean.atMostOnce, clean.atLeastOnce, clean.requested,
        clean.drained⟩

theorem onEraseInline_phase : start.onEraseInline.phase = start.phase := by
  by_cases erased : start.session.erased = true
  · rw [onEraseInline_of_erased erased]
    rfl
  · rw [onEraseInline_of_alive (Bool.eq_false_iff.mpr erased)]

/-- After the unwinding the session is erased or still locked. -/
theorem unwound_late (sound : start.Sound) (isThrown : start.phase = .thrown) :
    (calledBack start.session start.unwound
        onEraseInline).session.erased = true ∨
      0 < (calledBack start.session start.unwound
        onEraseInline).session.locker.lockCount := by
  obtain ⟨alive, inStart⟩ := sound.begun isThrown
  have counted := (sound.locks alive).counted
  rw [calledBack]
  split
  · rw [@onEraseInline_of_alive start.unwound alive]
    exact .inl (WsSession.destroyed_erased _)
  · next silent =>
      right
      by_contra drained
      have last : start.session.locker.lockCount = 1 := by
        have afterwards : start.session.locker.lockCount - 1 = 0 :=
          Nat.eq_zero_of_not_pos drained
        simp only [WsSession.holders, inStart, Bool.toNat_true] at counted
        omega
      apply silent
      show _ < start.session.locker.unlock.callbacks
      rw [AsyncLocker.unlock, if_pos last]
      exact Nat.lt_succ_self _

end

/-! ## Runs -/

/-- A start that fails is cleaned up throughout exactly those orders in which
the `catch` of the service comes in time. -/
theorem cleanedUp_iff {role : Role} {fault : StartFault}
    {thrown : WsSession} {events : List FailedStartEvent} {last : FailedStart}
    (throws : WsSession.Throws role fault thrown)
    (ran : failedStartMachine.run (begun fault.error thrown) events =
      some last) :
    failedStartMachine.Throughout CleanedUp (begun fault.error thrown)
        events ↔
      failedStartMachine.Admitted ErasesInTime (begun fault.error thrown)
        events := by
  refine Machine.throughout_iff_admitted Sound CleanedUp ?_ ?_
    (Machine.admitted_true (begun fault.error thrown) events) ran
    (begun_sound throws) ?_
  · intro before event after sound _ _ _ stepped
    exact step_sound sound stepped
  · intro before event after sound _ clean stepped
    exact step_cleanedUp_iff sound clean stepped
  · refine ⟨Nat.zero_le 1, fun isCaught => ?_, rfl, rfl⟩
    cases isCaught

/-- Another thread runs the handler of the cancelled wait just in time. -/
def inTime : List FailedStartEvent :=
  [.unwinds, .session (.timerDone (some .operationAborted)),
    .session (.release .ioThread), .closes, .catches, .erases]

theorem cleanedUp_iff_inTime :
    ∃ thrown last,
      WsSession.Throws .server ⟨.asyncAccept, .user "async_accept"⟩ thrown ∧
      failedStartMachine.run (begun (.user "async_accept") thrown) inTime =
        some last ∧
      failedStartMachine.Throughout CleanedUp
        (begun (.user "async_accept") thrown) inTime := by
  have ran : ∃ thrown last,
      WsSession.Throws .server ⟨.asyncAccept, .user "async_accept"⟩ thrown ∧
      failedStartMachine.run (begun (.user "async_accept") thrown) inTime =
        some last ∧
      failedStartMachine.checks
        (fun start event => decide (start.ErasesInTime event))
        (begun (.user "async_accept") thrown) inTime = true :=
    ⟨_, _, rfl, rfl, rfl⟩
  obtain ⟨thrown, last, throws, ran, checked⟩ := ran
  refine ⟨thrown, last, throws, ran, (cleanedUp_iff throws ran).mpr ?_⟩
  apply Machine.admitted_of_checks _ checked
  exact fun _ _ => of_decide_eq_true

/-- Without another thread no failed start is cleaned up. -/
theorem not_cleanedUp_of_unattended {role : Role} {fault : StartFault}
    {thrown : WsSession} (throws : WsSession.Throws role fault thrown) :
    ∃ last, failedStartMachine.run (begun fault.error thrown)
        [.unwinds, .closes, .catches] = some last ∧ ¬last.CleanedUp := by
  have late := unwound_late (begun_sound throws) rfl
  have unwinds : (begun fault.error thrown).step .unwinds =
      some (calledBack (begun fault.error thrown).session
        (begun fault.error thrown).unwound onEraseInline) := rfl
  have isUnwound : (calledBack (begun fault.error thrown).session
      (begun fault.error thrown).unwound onEraseInline).phase = .unwound := by
    rw [calledBack]
    split
    · exact onEraseInline_phase
    · rfl
  generalize calledBack (begun fault.error thrown).session
    (begun fault.error thrown).unwound onEraseInline = start
    at late unwinds isUnwound
  have closes : start.step .closes = some start.closed := by
    rw [step, if_pos isUnwound]
  have catches : start.closed.step .catches =
    some start.closed.handled.onEraseInline := rfl
  refine ⟨start.closed.handled.onEraseInline, ?_, ?_⟩
  · simp only [Machine.run, failedStartMachine, unwinds, closes, catches,
      Option.bind_some]
  · exact @onEraseInline_not_cleanedUp start.closed.handled late

/-- The first wait throws: the callback of the first lock erases the session,
whose socket is closed after that, and the `catch` asks for it again. -/
theorem failedStart_asks_twice :
    ∃ thrown last,
      WsSession.Throws .client ⟨.firstWait, .user "async_wait"⟩ thrown ∧
      failedStartMachine.run (begun (.user "async_wait") thrown)
        [.unwinds, .closes, .catches] = some last ∧
      last.lateRequests = 1 ∧ last.closedDestroyed = true ∧
      ¬last.CleanedUp := by
  refine ⟨_, _, rfl, rfl, rfl, rfl, fun cleanedUp => ?_⟩
  cases cleanedUp.requested

end FailedStart

end Webservice
