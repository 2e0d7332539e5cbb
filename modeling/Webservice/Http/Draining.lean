import Webservice.Http.Settling

/-!
# Shutting the HTTP sessions down

A closed session starts no read and no wait.  So once the job of `shutdown`
has closed the sessions, the reads that are outstanding are the last ones,
and with them the answers that can still be written: the handlers come to an
end, and with the last of them the set and its locker.
-/

namespace Webservice

/-! ## What a closed session has left to do -/

namespace HttpSession

section

variable {server : HttpServer} {session next : HttpSession}

/-- Responses to be written, and handlers of writes and waits. -/
def backlog (session : HttpSession) : Nat :=
  session.items.items.length + session.writing.length +
    session.timer.handlers

theorem advanced_backlog (session : HttpSession) :
    session.advanced.backlog ≤ session.backlog := by
  rw [advanced]
  cases rest : session.items.items.tail with
  | nil =>
      simp only [backlog, popped, RingBuffer.popFront_items, rest,
        List.length_nil]
      omega
  | cons following others =>
      have length := congrArg List.length rest
      rw [List.length_tail, List.length_cons] at length
      simp only [backlog, writeStarted, locked, popped,
        RingBuffer.popFront_items, rest, List.length_cons,
        List.length_append, List.length_nil]
      omega

/-- No read begins and the timer is left alone. -/
structure Unarmed (before after : HttpSession) : Prop where
  reads : after.reads = before.reads
  pending : after.timer.pending = 0

theorem answeredAll_unarmed (quiet : session.timer.pending = 0)
    (works : List HttpResponse) :
    Unarmed session (session.answeredAll works) := by
  have same := session.answeredAll_watch works
  refine ⟨same.reads, ?_⟩
  rw [same.timer]
  exact quiet

theorem afterRequest_unarmed (quiet : session.timer.pending = 0)
    (handling : HandlerRun) (connecting : ConnectRun) :
    Unarmed session
      (session.afterRequest server handling connecting) := by
  have called : (session.called handling).timer.pending = 0 := quiet
  obtain ⟨reads, pending⟩ := answeredAll_unarmed called handling.replies
  have stillQuiet : (session.handled handling).timer.pending = 0 := pending
  rw [afterRequest, afterConnect, afterHandling, resumed_eq_self stillQuiet]
  split
  · split
    · exact ⟨rfl, quiet⟩
    · exact ⟨rfl, rfl⟩
  · split
    · exact ⟨reads, pending⟩
    · split
      · exact ⟨reads, rfl⟩
      · exact ⟨reads, pending⟩

theorem afterReadFailed_unarmed (quiet : session.timer.pending = 0)
    (error : ReadError) :
    Unarmed session (session.afterReadFailed error) := by
  cases error with
  | endOfStream => exact ⟨rfl, rfl⟩
  | code ec =>
      cases ec with
      | operationAborted => exact ⟨rfl, quiet⟩
      | closed => exact ⟨rfl, rfl⟩
      | other value => exact ⟨rfl, rfl⟩

theorem shutDown_backlog (session : HttpSession) :
    session.shutDown.backlog = session.backlog := by
  have handlers := session.timer.cancel_handlers
  simp only [backlog, shutDown, handlers]

theorem afterWrite_unarmed (quiet : session.timer.pending = 0)
    (close : Bool) (ec : Option ErrorCode) :
    Unarmed session (session.afterWrite close ec) ∧
      (session.afterWrite close ec).backlog ≤ session.backlog := by
  have shuts : ∀ before : HttpSession, before.reads = session.reads →
      before.backlog = session.backlog →
      Unarmed session before.shutDown ∧
        before.shutDown.backlog ≤ session.backlog := by
    intro before reads backlog
    exact ⟨⟨reads, rfl⟩, (before.shutDown_backlog.trans backlog).le⟩
  cases ec with
  | some ec =>
      cases ec with
      | operationAborted => exact ⟨⟨rfl, quiet⟩, Nat.le_refl _⟩
      | closed => exact shuts _ rfl rfl
      | other value => exact shuts _ rfl rfl
  | none =>
      have same := session.advanced_watch
      have stillQuiet : session.advanced.timer.pending = 0 := by
        rw [same.timer, quiet]
      rw [afterWrite, resumed_eq_self stillQuiet, ite_self]
      split
      · exact shuts session rfl rfl
      · exact ⟨⟨same.reads, stillQuiet⟩, session.advanced_backlog⟩

theorem afterTimer_unarmed (quiet : session.timer.pending = 0)
    (ec : Option ErrorCode) :
    Unarmed session (session.afterTimer ec) ∧
      (session.afterTimer ec).backlog = session.backlog := by
  cases ec with
  | none => exact ⟨⟨rfl, quiet⟩, rfl⟩
  | some ec => cases ec <;> exact ⟨⟨rfl, quiet⟩, rfl⟩

/-- Every handler of a session without a pending wait brings it nearer to its
end: it was that of a read, or it leaves less to do. -/
theorem step_ends {event : HttpEvent} (counted : session.Counted 0)
    (quiet : session.timer.pending = 0) (byHandler : event.isCall = false)
    (stepped : session.step server event = some next) :
    next.timer.pending = 0 ∧
      (next.reads < session.reads ∨
        next.reads = session.reads ∧ next.backlog < session.backlog) := by
  cases event with
  | requestRead wire handling connecting =>
      obtain ⟨reading, rfl⟩ := step_requestRead counted stepped
      have received : (session.received wire).timer.pending = 0 := quiet
      obtain ⟨reads, pending⟩ :=
        @afterRequest_unarmed server _ received handling connecting
      exact ⟨pending, .inl (reads.trans_lt (Nat.sub_one_lt_of_lt reading))⟩
  | readFailed error =>
      obtain ⟨reading, rfl⟩ := step_readFailed stepped
      have failed : ({ session with
          reads := session.reads - 1 } : HttpSession).timer.pending = 0 :=
        quiet
      obtain ⟨reads, pending⟩ := afterReadFailed_unarmed failed error
      exact ⟨pending, .inl (reads.trans_lt (Nat.sub_one_lt_of_lt reading))⟩
  | writeDone ec =>
      obtain ⟨work, works, writing, rfl⟩ := step_writeDone counted stepped
      have wrote : (session.wrote work ec).timer.pending = 0 := quiet
      obtain ⟨⟨reads, pending⟩, less⟩ :=
        afterWrite_unarmed wrote work.needEof ec
      have shorter : (session.wrote work ec).backlog + 1 =
          session.backlog := by
        simp only [backlog, HttpSession.wrote, writing, List.tail_cons,
          List.length_cons]
        omega
      exact ⟨pending, .inr ⟨reads, Nat.lt_of_succ_le
        (shorter ▸ Nat.succ_le_succ less)⟩⟩
  | timerExpired =>
      obtain ⟨timer, expires, rfl⟩ := step_timerExpired stepped
      have some_pending := WaitableTimer.expire?_pending expires
      rw [quiet] at some_pending
      cases some_pending
  | timerDone ec =>
      obtain ⟨timer, taken, rfl⟩ := step_timerDone stepped
      obtain ⟨handlers, -, same⟩ := WaitableTimer.take?_eq_some taken
      have stillQuiet : ({ session with
          timer := timer } : HttpSession).timer.pending = 0 :=
        same.trans quiet
      obtain ⟨⟨reads, pending⟩, unchanged⟩ := afterTimer_unarmed stillQuiet ec
      have less : ({ session with timer := timer } : HttpSession).backlog <
          session.backlog := by
        simp only [backlog, handlers]
        omega
      exact ⟨pending, .inr ⟨reads, unchanged.trans_lt less⟩⟩
  | doClose => cases byHandler
  | lateReply work => cases byHandler

/-- No step of such a session arms the timer. -/
theorem step_unpending {event : HttpEvent} (counted : session.Counted 0)
    (quiet : session.timer.pending = 0)
    (stepped : session.step server event = some next) :
    next.timer.pending = 0 := by
  cases byHandler : event.isCall with
  | false => exact (step_ends counted quiet byHandler stepped).1
  | true =>
      cases event with
      | doClose =>
          rw [step_doClose stepped]
          rfl
      | lateReply work =>
          obtain ⟨-, rfl⟩ := step_lateReply stepped
          rw [(session.replied_watch work).timer, quiet]
      | _ => cases byHandler

/-- An outstanding operation can complete. -/
theorem step_of_holders (some_handler : 0 < session.holders) :
    ∃ event : HttpEvent, event.isCall = false ∧
      session.step server event ≠ none := by
  simp only [holders] at some_handler
  by_cases reading : 0 < session.reads
  · exact ⟨.readFailed .endOfStream, rfl, by simp [step, reading]⟩
  cases writing : session.writing with
  | cons work works =>
      exact ⟨.writeDone none, rfl, by simp [step, writing]⟩
  | nil =>
      rw [writing, List.length_nil] at some_handler
      have waits : 0 < session.timer.handlers := by omega
      rw [WaitableTimer.handlers] at waits
      by_cases pending : 0 < session.timer.pending
      · refine ⟨.timerExpired, rfl, ?_⟩
        simp [step, WaitableTimer.expire?, pending]
      by_cases expired : 0 < session.timer.expired
      · refine ⟨.timerDone none, rfl, ?_⟩
        simp [step, WaitableTimer.take?, expired]
      · have cancelled : 0 < session.timer.cancelled := by omega
        refine ⟨.timerDone (some .operationAborted), rfl, ?_⟩
        simp [step, WaitableTimer.take?, cancelled]

end

end HttpSession

/-! ## The set after its shutdown -/

namespace HttpSessions

/-- Jobs and handlers run; no connection is passed to the set, nobody but its
shutdown closes a session, and no response is sent late. -/
def Works (_ : HttpSessions) : SessionsEvent → Prop
  | .run _ => True
  | .session _ event => event.isCall = false
  | _ => False

section

variable {server : HttpServer} {sessions next : HttpSessions}

/-- The set has been shut down, and its sessions closed. -/
structure Stopped (sessions : HttpSessions) : Prop where
  runLock : sessions.runLock = false
  ran : .shutdown ∉ sessions.strand
  quiet : ∀ number session, sessions.set.find? number = some session →
    session.timer.pending = 0

/-- The reads that are outstanding, and after them all other work. -/
def rank (sessions : HttpSessions) : Nat × Nat :=
  (sessions.set.total HttpSession.reads,
    2 * sessions.set.total HttpSession.backlog + sessions.strand.length)

/-- What is lower in rank has fewer reads, or as many and less work. -/
theorem rank_lower {reads otherReads work otherWork : Nat}
    (fewer : reads < otherReads ∨ reads = otherReads ∧ work < otherWork) :
    Prod.Lex (· < ·) (· < ·) (reads, work) (otherReads, otherWork) := by
  rcases fewer with fewer | ⟨rfl, less⟩
  · exact .left _ _ fewer
  · exact .right _ less

theorem eraseJob_ends {session : Option Nat} {next : HttpSessions}
    (erases : eraseJob session sessions = .ok next) :
    ∃ number, next.set = sessions.set.erase number ∧
      next.strand = sessions.strand ∧ next.runLock = sessions.runLock := by
  obtain ⟨number, found, -, -, rfl | rfl⟩ := eraseJob_eq_ok erases
  · exact ⟨number, rfl, rfl, rfl⟩
  · refine ⟨number, ?_⟩
    rw [unlockShutdown]
    split <;> exact ⟨rfl, rfl, rfl⟩

/-- Of a set that was shut down, only the job of `shutdown` does more than to
erase a session. -/
theorem perform_isShutdown (isStopped : sessions.runLock = false)
    (fault : Option RunFault) {job : SessionsJob} {jobs : List SessionsJob}
    (performed : { sessions with strand := jobs }.perform fault job = next) :
    next.strand = jobs ∧ next.runLock = false ∧
      (job = .shutdown ∨ next.set = sessions.set ∨
        ∃ number, next.set = sessions.set.erase number) := by
  subst performed
  cases job with
  | emplace socket =>
      have refused : ({ sessions with strand := jobs }.perform fault
          (.emplace socket)) = { sessions with strand := jobs }.escape
            (.logicError "emplace in http_sessions while shutdown") := by
        simp only [perform, emplaceJob, isShutdown, isStopped,
          Bool.not_false, if_true]
      rw [refused]
      exact ⟨rfl, isStopped, .inr (.inl rfl)⟩
  | erase session =>
      rw [perform]
      split
      · next next erases =>
          obtain ⟨number, set, strand, runLock⟩ := eraseJob_ends erases
          exact ⟨strand, runLock.trans isStopped, .inr (.inr ⟨number, set⟩)⟩
      · exact ⟨rfl, isStopped, .inr (.inl rfl)⟩
  | shutdown =>
      have kept : (shutdownJob { sessions with strand := jobs }).strand =
          jobs ∧ (shutdownJob { sessions with strand := jobs }).runLock =
            false := by
        rw [shutdownJob]
        split
        · rw [unlockShutdown]
          split <;> exact ⟨rfl, isStopped⟩
        · exact ⟨rfl, isStopped⟩
      exact ⟨kept.1, kept.2, .inl rfl⟩

theorem Stopped.run (stopped : sessions.Stopped) {fault : Option RunFault}
    (stepped : sessions.step server (.run fault) = some next) :
    next.Stopped ∧
      Prod.Lex (· < ·) (· < ·) next.rank sessions.rank := by
  rw [HttpSessions.step] at stepped
  split at stepped
  · cases stepped
  next job jobs isNext =>
  cases stepped
  obtain ⟨strand, runLock, set⟩ :=
    perform_isShutdown stopped.runLock fault rfl
  have set := set.resolve_left fun isShutdown =>
    stopped.ran (isNext ▸ isShutdown ▸ List.mem_cons_self)
  generalize { sessions with strand := jobs }.perform fault job = after at *
  have lighter : ∀ weight : HttpSession → Nat,
      after.set.total weight ≤ sessions.set.total weight := by
    intro weight
    rcases set with same | ⟨number, isErased⟩
    · rw [same]
    · rw [isErased]
      exact sessions.set.total_erase_le number weight
  constructor
  · constructor
    · exact runLock
    · intro waits
      have later : .shutdown ∈ jobs := strand ▸ waits
      exact stopped.ran (isNext ▸ List.mem_cons_of_mem job later)
    · intro number session found
      rcases set with same | ⟨other, isErased⟩
      · exact stopped.quiet number session (same ▸ found)
      · have isFound : after.set.find? number = some session := found
        rw [isErased, OrderedMap.find?_erase] at isFound
        split at isFound
        · cases isFound
        · exact stopped.quiet number session isFound
  · apply rank_lower
    have fewerReads := lighter HttpSession.reads
    have lessWork := lighter HttpSession.backlog
    have shorter : after.unlocked.strand.length < sessions.strand.length := by
      rw [isNext, List.length_cons]
      exact strand ▸ Nat.lt_succ_self _
    have sameSet : after.unlocked.set = after.set := rfl
    rw [sameSet]
    omega

/-- A step of a session passes at most one job to the strand, which erases
it. -/
theorem sessionStep_joins {number : Nat} {event : HttpEvent}
    (stepped : sessions.sessionStep server number event = some next) :
    ∃ session after, sessions.set.find? number = some session ∧
      session.step server event = some after ∧
      next.set = sessions.set.modify number (fun _ => after) ∧
      next.runLock = sessions.runLock ∧
      (next.strand = sessions.strand ∨
        next.strand = sessions.strand ++ [.erase (some number)]) := by
  obtain ⟨session, isSession, changes⟩ := Option.bind_eq_some_iff.mp stepped
  obtain ⟨after, sessionStepped, isNext⟩ := Option.map_eq_some_iff.mp changes
  refine ⟨session, after, isSession, sessionStepped, ?_⟩
  subst isNext
  dsimp only
  split
  · rw [asyncErase, dispatch]
    split
    · exact ⟨rfl, rfl, .inr rfl⟩
    · exact ⟨rfl, rfl, .inl rfl⟩
  · exact ⟨rfl, rfl, .inl rfl⟩

theorem Stopped.sessionStep (stopped : sessions.Stopped)
    (sound : sessions.SetSound) {number : Nat} {event : HttpEvent}
    (stepped : sessions.sessionStep server number event = some next) :
    next.Stopped := by
  obtain ⟨session, after, isSession, sessionStepped, set, runLock, strand⟩ :=
    sessionStep_joins stepped
  have quiet := stopped.quiet number session isSession
  have stillQuiet : after.timer.pending = 0 :=
    HttpSession.step_unpending (sound.kept number session isSession).2 quiet
      sessionStepped
  constructor
  · rw [runLock, stopped.runLock]
  · intro waits
    rcases strand with same | longer
    · exact stopped.ran (same ▸ waits)
    · rw [longer] at waits
      rcases List.mem_append.mp waits with old | isErase
      · exact stopped.ran old
      · cases List.mem_singleton.mp isErase
  · intro other item found
    rw [set, OrderedMap.find?_modify] at found
    split at found
    · next same =>
        rw [same, isSession] at found
        cases found
        exact stillQuiet
    · exact stopped.quiet other item found

theorem Stopped.sessionStep_lower (stopped : sessions.Stopped)
    (sound : sessions.SetSound) {number : Nat} {event : HttpEvent}
    (byHandler : event.isCall = false)
    (stepped : sessions.sessionStep server number event = some next) :
    Prod.Lex (· < ·) (· < ·) next.rank sessions.rank := by
  obtain ⟨session, after, isSession, sessionStepped, set, -, strand⟩ :=
    sessionStep_joins stepped
  have counted := (sound.kept number session isSession).2
  obtain ⟨-, less⟩ := HttpSession.step_ends counted
    (stopped.quiet number session isSession) byHandler sessionStepped
  have reads := OrderedMap.total_modify isSession (fun _ => after)
    HttpSession.reads
  have backlog := OrderedMap.total_modify isSession (fun _ => after)
    HttpSession.backlog
  have longer : next.strand.length ≤ sessions.strand.length + 1 := by
    rcases strand with same | longer
    · rw [same]
      exact Nat.le_succ _
    · rw [longer, List.length_append, List.length_singleton]
  apply rank_lower
  rw [set]
  omega

/-- Every step of a stopped set lowers its rank. -/
theorem Stopped.step {event : SessionsEvent}
    (stopped : sessions.Stopped ∧ sessions.Sound)
    (works : sessions.Works event)
    (stepped : sessions.step server event = some next) :
    (next.Stopped ∧ next.Sound) ∧
      Prod.Lex (· < ·) (· < ·) next.rank sessions.rank := by
  obtain ⟨isStopped, sound⟩ := stopped
  have stillSound := sound.step stepped
  cases event with
  | emplace => cases works
  | run fault =>
      obtain ⟨stillStopped, lower⟩ := isStopped.run stepped
      exact ⟨⟨stillStopped, stillSound⟩, lower⟩
  | session number event =>
      exact ⟨⟨isStopped.sessionStep sound.set stepped, stillSound⟩,
        isStopped.sessionStep_lower sound.set works stepped⟩
  | shutdown => cases works

/-! ## Runs -/

/-- The set runs, or its sessions are still to be closed, or it is
stopped. -/
def Stops (sessions : HttpSessions) : Prop :=
  sessions.runLock = false → .shutdown ∉ sessions.strand →
    sessions.Stopped

theorem shutdownJob_quiet {number : Nat} {session : HttpSession}
    (found : sessions.shutdownJob.set.find? number = some session) :
    session.timer.pending = 0 := by
  rw [shutdownJob] at found
  split at found
  · next empty =>
      rw [sessions.unlockShutdown_returns.1,
        OrderedMap.isEmpty_iff_find?.mp empty] at found
      cases found
  · rw [OrderedMap.find?_mapItems, Option.map_eq_some_iff] at found
    obtain ⟨before, -, rfl⟩ := found
    rfl

theorem dispatch_keeps (job : SessionsJob) :
    (sessions.dispatch job).runLock = sessions.runLock ∧
      (sessions.dispatch job).set = sessions.set ∧
      ∀ other ∈ sessions.strand, other ∈ (sessions.dispatch job).strand := by
  rw [dispatch]
  split
  · exact ⟨rfl, rfl, fun _ => List.mem_append_left _⟩
  · exact ⟨rfl, rfl, fun _ => id⟩

theorem Stops.step (stops : sessions.Stops) (sound : sessions.Sound)
    {event : SessionsEvent}
    (stepped : sessions.step server event = some next) : next.Stops := by
  intro isStopped ran
  cases event with
  | emplace =>
      cases stepped
      obtain ⟨runLock, set, strand⟩ := @dispatch_keeps
        { sessions with history :=
          { sessions.history with
            sockets := sessions.history.sockets + 1 } }
        (.emplace sessions.history.sockets)
      have stopped := stops (runLock ▸ isStopped) fun waits =>
        ran (strand _ waits)
      exact ⟨isStopped, ran, set ▸ stopped.quiet⟩
  | run fault =>
      have wasStopped : sessions.runLock = false := by
        obtain ⟨moves, -⟩ := step_moves stepped (by simp) sound.counted
        exact moves.runLock.symm.trans isStopped
      by_cases waits : .shutdown ∈ sessions.strand
      · rw [HttpSessions.step] at stepped
        split at stepped
        · cases stepped
        next job jobs isNext =>
        cases stepped
        obtain ⟨strand, -, -⟩ :=
          @perform_isShutdown sessions _ wasStopped fault job jobs rfl
        rw [isNext] at waits
        rcases List.mem_cons.mp waits with rfl | later
        · exact ⟨isStopped, ran, fun _ _ => shutdownJob_quiet⟩
        · have waits := (congrArg (SessionsJob.shutdown ∈ ·) strand).mpr later
          exact absurd waits ran
      · exact ((stops wasStopped waits).run stepped).1
  | session number event =>
      obtain ⟨session, after, -, -, -, runLock, strand⟩ :=
        sessionStep_joins stepped
      have notWaiting : .shutdown ∉ sessions.strand := by
        intro waits
        rcases strand with same | longer
        · exact ran (same ▸ waits)
        · exact ran (longer ▸ List.mem_append_left _ waits)
      exact (stops (runLock ▸ isStopped) notWaiting).sessionStep sound.set
        stepped
  | shutdown =>
      cases stepped
      rw [HttpSessions.shutdown] at isStopped ran ⊢
      split at isStopped
      · next running =>
          rw [if_pos running] at ran
          have held : 0 < ({ sessions with
              runLock := false, shutdownLock := true } :
                HttpSessions).locker.lockCount := sound.counted.held running
          exact absurd (dispatch_waits held _) ran
      · next notRunning =>
          rw [if_neg notRunning] at ran ⊢
          exact stops isStopped ran

theorem stops_of_reachable
    {admits : HttpSessions → SessionsEvent → Prop}
    (reached : (sessionsMachine server).ReachableUnder admits sessions) :
    sessions.Stops := by
  apply reached.invariantOver Stops
  · rintro _ rfl isStopped
    cases isStopped
  · intro before event after earlier stops _ stepped
    have reached := earlier.mono fun _ _ _ => trivial
    exact stops.step (sound_of_reachable reached) stepped

/-- Where nothing can go on, nothing is outstanding. -/
theorem idle_of_stuck
    (stuck : ∀ event, sessions.Works event →
      sessions.step server event = none) : sessions.Idle := by
  constructor
  · cases strand : sessions.strand with
    | nil => rfl
    | cons job jobs =>
        have runs := stuck (.run none) trivial
        rw [step, strand] at runs
        cases runs
  · intro number session found
    by_contra some_handler
    obtain ⟨event, byHandler, runs⟩ := HttpSession.step_of_holders
      (Nat.pos_of_ne_zero some_handler)
    have stays := stuck (.session number event) byHandler
    rw [step, sessionStep, found, Option.bind_some,
      Option.map_eq_none_iff] at stays
    exact runs stays

/-- A set that has been shut down and has closed its sessions drains: however
its jobs and handlers go on, whatever is still read and whatever the request
handler answers, they come to an end, and where they do no session is left,
nor a lock. -/
theorem shutdown_drains
    (reached : (sessionsMachine server).Reachable sessions)
    (isStopped : sessions.runLock = false)
    (ran : .shutdown ∉ sessions.strand) :
    ¬(sessionsMachine server).Endless Works sessions ∧
      ∀ events last,
        (sessionsMachine server).Admitted Works sessions events →
        (sessionsMachine server).run sessions events = some last →
        (∀ event, last.Works event → last.step server event = none) →
        last.set.isEmpty = true ∧ last.locker.lockCount = 0 := by
  have sound := sound_of_reachable reached
  have stopped := stops_of_reachable reached isStopped ran
  have lowered : ∀ (before : HttpSessions) (event : SessionsEvent)
      (after : HttpSessions), before.Stopped ∧ before.Sound →
      before.Works event → before.step server event = some after →
      (after.Stopped ∧ after.Sound) ∧
        Prod.Lex (· < ·) (· < ·) after.rank before.rank :=
    fun _ _ _ => Stopped.step
  constructor
  · exact Machine.not_endless_of_rank
      (WellFounded.prod_lex wellFounded_lt wellFounded_lt)
      (fun sessions => sessions.Stopped ∧ sessions.Sound) rank lowered
      ⟨stopped, sound⟩
  intro events last works isRun stuck
  have lastReached := reached.run (Machine.admitted_true _ events) isRun
  obtain ⟨lastStopped, lastSound⟩ := Machine.run_keeps
    (fun sessions : HttpSessions => sessions.Stopped ∧ sessions.Sound)
    (fun before event after holds admitted stepped =>
      (lowered before event after holds admitted stepped).1)
    ⟨stopped, sound⟩ works isRun
  obtain ⟨empty, -, locks⟩ :=
    (settles_of_reachable lastReached).idle lastSound (idle_of_stuck stuck)
  rw [lastStopped.runLock] at locks
  exact ⟨empty, locks⟩

/-- A connection is open when the set is shut down. -/
def shutsOne : List SessionsEvent :=
  [.emplace, .run none, .shutdown, .run none]

/-- The handlers of its session run, and the job that erases it. -/
def drainsOne : List SessionsEvent :=
  [.session 0 (.timerDone (some .operationAborted)),
    .session 0 (.timerDone (some .operationAborted)),
    .session 0 (.readFailed (.code .operationAborted)), .run none]

theorem shutdown_drains_connected :
    ∃ sessions last,
      (sessionsMachine plainServer).run .constructed shutsOne =
        some sessions ∧
      sessions.set.isEmpty = false ∧
      ¬(sessionsMachine plainServer).Endless Works sessions ∧
      (sessionsMachine plainServer).run sessions drainsOne = some last ∧
      last.set.isEmpty = true ∧ last.locker.lockCount = 0 := by
  have ran : ∃ sessions last,
      (sessionsMachine plainServer).run .constructed shutsOne =
        some sessions ∧
      sessions.set.isEmpty = false ∧ sessions.runLock = false ∧
      sessions.strand = [] ∧
      (sessionsMachine plainServer).run sessions drainsOne = some last ∧
      ∀ event, last.Works event → last.step plainServer event = none := by
    refine ⟨_, _, rfl, rfl, rfl, rfl, rfl, fun event works => ?_⟩
    cases event with
    | run fault => rfl
    | session number event => rfl
    | emplace => exact absurd works id
    | shutdown => exact absurd works id
  obtain ⟨sessions, last, ran, some_session, stopped, noJob, ranOn, stuck⟩ :=
    ran
  have closed : .shutdown ∉ sessions.strand := noJob ▸ List.not_mem_nil
  have works : (sessionsMachine plainServer).Admitted Works sessions
      drainsOne :=
    Machine.admitted_of_forall (by simp [drainsOne, Works, HttpEvent.isCall])
  obtain ⟨ends, drained⟩ := shutdown_drains
    (Machine.reachable_of_run rfl ran) stopped closed
  exact ⟨sessions, last, ran, some_session, ends, ranOn,
    drained drainsOne last works ranOn stuck⟩

end

end HttpSessions

end Webservice
