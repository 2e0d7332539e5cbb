import Webservice.Library.Machine
import Webservice.Session.Code

/-!
# A session as a step machine

One event is one step of a strand, of the stream, of the timer or of a
caller.  Handlers of `strand_` run one at a time; a handler that has run
keeps its lock until its lambda is destroyed, which is a step of its own, so
that other threads can act in between.
-/

namespace Webservice

inductive SessionEvent where
  /-- `do_accept` or `start` returns and releases the first lock. -/
  | startReturns
  | acceptDone (ec : Option ErrorCode)
  /-- A read ends: its error, the bytes it hands over, the kind of the
  message, and whether a failing read leaves the stream open. -/
  | readDone (ec : Option ErrorCode) (chunk : List UInt8) (isText : Bool)
      (stillOpen : Bool)
  | writeDone (ec : Option ErrorCode)
  | pingDone (ec : Option ErrorCode) (stillOpen : Bool)
  | closeDone (ec : Option ErrorCode) (stillOpen : Bool)
  /-- A read meets a ping, pong or close frame. -/
  | controlFrame
  | timerExpired
  /-- A queued handler of the timer runs. -/
  | timerDone (ec : Option ErrorCode)
  /-- The first job of `strand_` runs. -/
  | runJob (host : Host)
  /-- The lambda of the handler that ran is destroyed. -/
  | release (host : Host)
  | callbackBegins
  | callbackReturns
  /-- The service calls `send` or `close`. -/
  | dispatch (job : StrandJob)
  | streamEnds
  | writeBlock (blocked : Bool)
  /-- The service erases the session after its locker called back. -/
  | erase
  deriving DecidableEq

namespace WsSession

/-- Run the body of a handler of `strand_`.  An exception reaches the `catch`
of `send` or `close` when these run the body inside their call, and leaves
`io_context::run` otherwise. -/
def runBody (host : Host) (body : SessionCode Unit) (session : WsSession) :
    WsSession :=
  match body session with
  | .ok _ next => next
  | .error error next =>
      match host with
      | .ioThread => next.escape error
      | .caller => next.report error

/-- Run a handler; its lock stays held. -/
def runHandler (host : Host) (body : SessionCode Unit)
    (session : WsSession) : WsSession :=
  { runBody host body session with strandHost := some host }

/-- No handler occupies `strand_`. -/
def strandIdle (session : WsSession) : Bool := session.strandHost.isNone

/-- A completion updates the stream and runs the handler of the operation. -/
def complete (session : WsSession) (ws : Option WsStream)
    (handler : SessionCode Unit) : Option WsSession :=
  if session.strandIdle then
    ws.map fun ws =>
      runHandler .ioThread handler { session with ws := ws }
  else none

/-- What a completed read leaves in the buffer and in the history. -/
def receive (session : WsSession) (ec : Option ErrorCode)
    (chunk : List UInt8) (isText : Bool) : WsSession :=
  { session with
    buffer := session.buffer ++ chunk
    history :=
      { session.history with
        delivered := session.history.delivered ++
          if ec = none then [⟨isText, session.ws.received ++ chunk⟩]
          else [] } }

def step (session : WsSession) : SessionEvent → Option WsSession
  | .startReturns =>
      if session.inStart then some { session.unlocked with inStart := false }
      else none
  | .acceptDone ec =>
      session.complete (session.ws.acceptDone? ec) (acceptHandler ec)
  | .readDone ec chunk isText stillOpen =>
      (session.receive ec chunk isText).complete
        (session.ws.readDone? ec chunk stillOpen) (readHandler isText ec)
  | .writeDone ec =>
      session.complete (session.ws.writeDone? ec) (writeHandler ec)
  | .pingDone ec stillOpen =>
      session.complete (session.ws.pingDone? ec stillOpen) (pingHandler ec)
  | .closeDone ec stillOpen =>
      session.complete (session.ws.closeDone? stillOpen) (closeHandler ec)
  | .controlFrame =>
      if session.strandIdle ∧ 0 < session.ws.reads then
        some (runBody .ioThread activity session)
      else none
  | .timerExpired =>
      session.timer.expire?.map fun timer => { session with timer := timer }
  | .timerDone ec =>
      if session.strandIdle then
        (session.timer.take? (ec = some .operationAborted)).map fun timer =>
          runHandler .ioThread (timerHandler ec) { session with timer := timer }
      else none
  | .runJob host =>
      match session.strand with
      | [] => none
      | job :: jobs =>
          -- `dispatch` runs a job inside the call on an idle strand only
          if session.strandIdle ∧ (host = .caller → jobs = []) then
            some (runHandler host (runJob job) { session with strand := jobs })
          else none
  | .release host =>
      if session.strandHost = some host then
        some { session.unlocked with strandHost := none }
      else none
  | .callbackBegins =>
      match session.running, session.handlerStrand with
      | none, callback :: callbacks =>
          some { session.callBack (.began callback) with
            running := some callback, handlerStrand := callbacks }
      | _, _ => none
  | .callbackReturns =>
      match session.running with
      | some callback =>
          some { (session.callBack (.returned callback)).unlocked with
            running := none }
      | none => none
  | .dispatch job =>
      if session.erased then none
      else some (Effects.after (dispatch job) session)
  | .streamEnds => session.ws.endStream?.map fun ws => { session with ws := ws }
  | .writeBlock blocked =>
      some { session with ws := { session.ws with writeBlocked := blocked } }
  | .erase =>
      if session.locker.callbacks = 1 ∧ ¬session.erased then
        some session.destroyed
      else none

/-- The function that the service calls on the new session. -/
def startBy : Role → SessionCode Unit
  | .server => doAccept
  | .client => start

/-- A session whose `do_accept` or `start` is about to return. -/
def launched (role : Role) : WsSession :=
  { Effects.after (do makeFirstLock; startBody role) (constructed role) with
    inStart := true }

/-- A session whose `do_accept` or `start` has returned. -/
def started (role : Role) : WsSession :=
  Effects.after (startBy role) (constructed role)

/-- Starting a session does not throw. -/
theorem startBy_returns (role : Role) :
    startBy role (constructed role) = .ok () (started role) := by
  cases role <;> rfl

/-- The release of the first lock is all that is left of the start. -/
theorem launched_returns (role : Role) :
    (launched role).step .startReturns = some (started role) := by
  cases role <;> rfl

/-! ## What each kind of step requires and does -/

theorem complete_eq_some {session next : WsSession} {ws : Option WsStream}
    {handler : SessionCode Unit}
    (completed : session.complete ws handler = some next) :
    session.strandHost = none ∧ ∃ ws', ws = some ws' ∧
      next = runHandler .ioThread handler { session with ws := ws' } := by
  simp only [complete, strandIdle, Option.isNone_iff_eq_none,
    Option.ite_none_right_eq_some, Option.map_eq_some_iff] at completed
  obtain ⟨idle, ws', isSome, rfl⟩ := completed
  exact ⟨idle, ws', isSome, rfl⟩

section

variable {session next : WsSession}

theorem step_startReturns
    (stepped : session.step .startReturns = some next) :
    session.inStart = true ∧
      next = { session.unlocked with inStart := false } := by
  simp only [step, Option.ite_none_right_eq_some,
    Option.some.injEq] at stepped
  exact ⟨stepped.1, stepped.2.symm⟩

theorem step_controlFrame
    (stepped : session.step .controlFrame = some next) :
    session.strandHost = none ∧ 0 < session.ws.reads ∧
      next = runBody .ioThread activity session := by
  simp only [step, strandIdle, Option.isNone_iff_eq_none,
    Option.ite_none_right_eq_some, Option.some.injEq] at stepped
  exact ⟨stepped.1.1, stepped.1.2, stepped.2.symm⟩

theorem step_timerExpired
    (stepped : session.step .timerExpired = some next) :
    ∃ timer, session.timer.expire? = some timer ∧
      next = { session with timer := timer } := by
  simp only [step, Option.map_eq_some_iff] at stepped
  obtain ⟨timer, expires, rfl⟩ := stepped
  exact ⟨timer, expires, rfl⟩

theorem step_timerDone {ec : Option ErrorCode}
    (stepped : session.step (.timerDone ec) = some next) :
    session.strandHost = none ∧ ∃ timer,
      session.timer.take? (ec = some .operationAborted) = some timer ∧
      next = runHandler .ioThread (timerHandler ec)
        { session with timer := timer } := by
  simp only [step, strandIdle, Option.isNone_iff_eq_none,
    Option.ite_none_right_eq_some, Option.map_eq_some_iff] at stepped
  obtain ⟨idle, timer, taken, rfl⟩ := stepped
  exact ⟨idle, timer, taken, rfl⟩

theorem step_runJob {host : Host}
    (stepped : session.step (.runJob host) = some next) :
    session.strandHost = none ∧ ∃ job jobs,
      session.strand = job :: jobs ∧ (host = .caller → jobs = []) ∧
      next = runHandler host (WsSession.runJob job)
        { session with strand := jobs } := by
  cases queued : session.strand with
  | nil => simp [step, queued] at stepped
  | cons job jobs =>
      simp only [step, queued, strandIdle, Option.isNone_iff_eq_none,
        Option.ite_none_right_eq_some, Option.some.injEq] at stepped
      exact ⟨stepped.1.1, job, jobs, rfl, stepped.1.2, stepped.2.symm⟩

theorem step_release {host : Host}
    (stepped : session.step (.release host) = some next) :
    session.strandHost = some host ∧
      next = { session.unlocked with strandHost := none } := by
  simp only [step, Option.ite_none_right_eq_some,
    Option.some.injEq] at stepped
  exact ⟨stepped.1, stepped.2.symm⟩

theorem step_callbackBegins
    (stepped : session.step .callbackBegins = some next) :
    session.running = none ∧ ∃ callback callbacks,
      session.handlerStrand = callback :: callbacks ∧
      next = { session.callBack (.began callback) with
        running := some callback, handlerStrand := callbacks } := by
  cases running : session.running with
  | some callback => simp [step, running] at stepped
  | none =>
      cases queued : session.handlerStrand with
      | nil => simp [step, running, queued] at stepped
      | cons callback callbacks =>
          simp only [step, running, queued, Option.some.injEq] at stepped
          exact ⟨rfl, callback, callbacks, rfl, stepped.symm⟩

theorem step_callbackReturns
    (stepped : session.step .callbackReturns = some next) :
    ∃ callback, session.running = some callback ∧
      next = { (session.callBack (.returned callback)).unlocked with
        running := none } := by
  cases running : session.running with
  | none => simp [step, running] at stepped
  | some callback =>
      simp only [step, running, Option.some.injEq] at stepped
      exact ⟨callback, rfl, stepped.symm⟩

theorem step_dispatch {job : StrandJob}
    (stepped : session.step (.dispatch job) = some next) :
    session.erased = false ∧
      next = Effects.after (WsSession.dispatch job) session := by
  simp only [step, Option.ite_none_left_eq_some, Bool.not_eq_true,
    Option.some.injEq] at stepped
  exact ⟨stepped.1, stepped.2.symm⟩

theorem step_streamEnds
    (stepped : session.step .streamEnds = some next) :
    ∃ ws, session.ws.endStream? = some ws ∧
      next = { session with ws := ws } := by
  simp only [step, Option.map_eq_some_iff] at stepped
  obtain ⟨ws, ends, rfl⟩ := stepped
  exact ⟨ws, ends, rfl⟩

theorem step_erase (stepped : session.step .erase = some next) :
    session.locker.callbacks = 1 ∧ session.erased = false ∧
      next = session.destroyed := by
  simp only [step, Option.ite_none_right_eq_some, Bool.not_eq_true,
    Option.some.injEq] at stepped
  exact ⟨stepped.1.1, stepped.1.2, stepped.2.symm⟩

end

end WsSession

def sessionMachine : Machine WsSession SessionEvent where
  initial session := ∃ role, session = .launched role
  step := WsSession.step

end Webservice
