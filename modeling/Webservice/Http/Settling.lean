import Webservice.Http.Erasing
import Webservice.Http.Timeout

/-!
# Nothing outstanding, nothing left

A session that has given back its last lock is about to be erased, and the
token of the set stays with the set as long as a session is in it.  So where
no operation is outstanding and no job waits, the set is empty; and if it
was shut down, its locker has called back.
-/

namespace Webservice

open Effects

/-! ## The last lock of a session -/

namespace HttpSession

section

variable {server : HttpServer} {session next : HttpSession}

theorem resumed_sameCallbacks (session : HttpSession) :
    SameCallbacks session session.resumed := by
  rw [resumed]
  split <;> rfl

theorem answeredAll_sameCallbacks (session : HttpSession)
    (works : List HttpResponse) :
    SameCallbacks session (session.answeredAll works) := by
  induction works generalizing session with
  | nil => rfl
  | cons work works induction =>
      have first : SameCallbacks session (session.answered work) := by
        rw [answered]
        split <;> rfl
      exact trans_of SameCallbacks first (induction _)

theorem advanced_sameCallbacks (session : HttpSession) :
    SameCallbacks session session.advanced := by
  rw [advanced]
  split <;> rfl

theorem afterRequest_sameCallbacks (session : HttpSession)
    (handling : HandlerRun) (connecting : ConnectRun) :
    SameCallbacks session
      (session.afterRequest server handling connecting) := by
  have handled : SameCallbacks session (session.handled handling) :=
    answeredAll_sameCallbacks (session.called handling) handling.replies
  rw [afterRequest, afterConnect, afterHandling]
  split
  · split <;> rfl
  · split
    · exact handled
    · split
      · exact handled
      · exact trans_of SameCallbacks handled (resumed_sameCallbacks _)

theorem afterReadFailed_sameCallbacks (session : HttpSession)
    (error : ReadError) :
    SameCallbacks session (session.afterReadFailed error) := by
  cases error with
  | endOfStream => rfl
  | code ec => cases ec <;> rfl

theorem afterWrite_sameCallbacks (session : HttpSession) (close : Bool)
    (ec : Option ErrorCode) :
    SameCallbacks session (session.afterWrite close ec) := by
  cases ec with
  | some ec => cases ec <;> rfl
  | none =>
      have advanced := session.advanced_sameCallbacks
      rw [afterWrite]
      split
      · rfl
      · split
        · exact trans_of SameCallbacks advanced (resumed_sameCallbacks _)
        · exact advanced

theorem afterTimer_sameCallbacks (session : HttpSession)
    (ec : Option ErrorCode) :
    SameCallbacks session (session.afterTimer ec) := by
  cases ec with
  | none => rfl
  | some ec => cases ec <;> rfl

/-- A handler gives back the lock it has captured, and only that; other calls
give back none. -/
theorem step_unlocks {event : HttpEvent} (counted : session.Counted 0)
    (stepped : session.step server event = some next) :
    (∃ before : HttpSession, before.Counted 1 ∧
      SameCallbacks session before ∧ next = before.unlocked) ∨
      session.locker.lockCount ≤ next.locker.lockCount := by
  cases event with
  | requestRead wire handling connecting =>
      obtain ⟨reading, rfl⟩ := step_requestRead counted stepped
      have received := received_counted counted reading wire
      exact .inl ⟨_, received.afterRequest server handling connecting,
        afterRequest_sameCallbacks (session.received wire) _ _, rfl⟩
  | readFailed error =>
      obtain ⟨reading, rfl⟩ := step_readFailed stepped
      have failed : Counted 1 { session with reads := session.reads - 1 } := by
        simp only [Counted, holders] at counted ⊢
        omega
      exact .inl ⟨_, failed.afterReadFailed error,
        afterReadFailed_sameCallbacks
          { session with reads := session.reads - 1 } error, rfl⟩
  | writeDone ec =>
      obtain ⟨work, works, writing, rfl⟩ := step_writeDone counted stepped
      have wrote := wrote_counted counted writing ec
      exact .inl ⟨_, wrote.afterWrite work.needEof ec,
        afterWrite_sameCallbacks (session.wrote work ec) _ _, rfl⟩
  | timerExpired =>
      obtain ⟨timer, -, rfl⟩ := step_timerExpired stepped
      exact .inr (Nat.le_refl _)
  | timerDone ec =>
      obtain ⟨timer, taken, rfl⟩ := step_timerDone stepped
      obtain ⟨handlers, -⟩ := WaitableTimer.take?_eq_some taken
      have taken : Counted 1 { session with timer := timer } := by
        simp only [Counted, holders, handlers] at counted ⊢
        omega
      exact .inl ⟨_, taken.afterTimer ec,
        afterTimer_sameCallbacks { session with timer := timer } ec, rfl⟩
  | doClose =>
      rw [step_doClose stepped]
      exact .inr (Nat.le_refl _)
  | lateReply work =>
      obtain ⟨-, rfl⟩ := step_lateReply stepped
      right
      rw [replied]
      split
      · exact session.answered_lockCount work
      · exact Nat.le_refl _

/-- The locker calls back when the last lock is given back. -/
theorem step_lastLock {event : HttpEvent} (counted : session.Counted 0)
    (stepped : session.step server event = some next)
    (held : session.locker.lockCount ≠ 0)
    (drained : next.locker.lockCount = 0) :
    session.locker.callbacks < next.locker.callbacks := by
  rcases step_unlocks counted stepped with
    ⟨before, beforeCounted, same, rfl⟩ | most
  · have last := AsyncLocker.unlock_last
      (beforeCounted.held (Nat.succ_pos _)) drained
    rw [SameCallbacks] at same
    rw [unlocked, last, same]
    exact Nat.lt_succ_self _
  · exact absurd (Nat.eq_zero_of_le_zero (drained ▸ most)) held

end

end HttpSession

/-! ## The set -/

namespace HttpSessions

/-- What the sessions in the set and its token wait for; a session may be
about to leave right now. -/
structure Settles (leaving : Option Nat) (sessions : HttpSessions) :
    Prop where
  /-- A session without locks is going to be erased. -/
  erases : ∀ number session, leaving ≠ some number →
    sessions.set.find? number = some session →
      session.locker.lockCount = 0 → .erase (some number) ∈ sessions.strand
  /-- The token stays as long as there is a session. -/
  token : sessions.set.isEmpty = false →
    sessions.runLock = true ∨ sessions.shutdownLock = true
  /-- It is given back with the last session, or by the job of
  `shutdown`. -/
  returns : sessions.shutdownLock = true →
    .shutdown ∈ sessions.strand ∨ sessions.set.isEmpty = false

section

variable {sessions : HttpSessions} {leaving : Option Nat}

/-- Only the locks, the reports and more jobs. -/
theorem Settles.congr {after : HttpSessions}
    (settles : sessions.Settles leaving)
    (set : after.set = sessions.set)
    (strand : ∀ job ∈ sessions.strand, job ∈ after.strand)
    (runLock : after.runLock = sessions.runLock)
    (shutdownLock : after.shutdownLock = sessions.shutdownLock) :
    after.Settles leaving where
  erases number session stays found drained :=
    strand _ (settles.erases number session stays (set ▸ found) drained)
  token some_session := by
    rw [runLock, shutdownLock]
    exact settles.token (set ▸ some_session)
  returns waits := by
    rw [set]
    exact (settles.returns (shutdownLock ▸ waits)).imp_left (strand _)

theorem Settles.dispatch (settles : sessions.Settles leaving)
    (job : SessionsJob) : (sessions.dispatch job).Settles leaving := by
  rw [HttpSessions.dispatch]
  split
  · exact settles.congr rfl (fun _ => List.mem_append_left _) rfl rfl
  · exact settles.congr rfl (fun _ => id) rfl rfl

theorem dispatch_waits (held : 0 < sessions.locker.lockCount)
    (job : SessionsJob) : job ∈ (sessions.dispatch job).strand := by
  rw [dispatch, AsyncLocker.makeLock_of_pos held]
  exact List.mem_append_right _ List.mem_cons_self

theorem unlockShutdown_returns :
    sessions.unlockShutdown.set = sessions.set ∧
      sessions.unlockShutdown.strand = sessions.strand ∧
      sessions.unlockShutdown.shutdownLock = false := by
  rw [unlockShutdown]
  split
  · exact ⟨rfl, rfl, rfl⟩
  · next notLocked => exact ⟨rfl, rfl, Bool.eq_false_iff.mpr notLocked⟩

/-- An empty set has given the token back. -/
theorem settles_of_isEmpty (empty : sessions.set.isEmpty = true)
    (returned : sessions.shutdownLock = false) :
    sessions.Settles leaving where
  erases number session _ found := by
    rw [OrderedMap.isEmpty_iff_find?.mp empty number] at found
    cases found
  token some_session := by
    rw [empty] at some_session
    cases some_session
  returns waits := by
    rw [returned] at waits
    cases waits

/-! ## Jobs -/

theorem Settles.eraseJob {number others : Nat} {session : HttpSession}
    (settles : sessions.Settles (some number))
    (counted : sessions.Counted others)
    (found : sessions.set.find? number = some session)
    {next : HttpSessions}
    (erases : eraseJob (some number) sessions = .ok next) :
    next.Settles none := by
  have isNext : next = if (sessions.erased number session).set.isEmpty ∧
      (sessions.erased number session).isShutdown then
        (sessions.erased number session).unlockShutdown
      else sessions.erased number session := by
    rw [HttpSessions.eraseJob, Option.bind_some, found] at erases
    exact (Except.ok.inj erases).symm
  cases empty : (sessions.erased number session).set.isEmpty with
  | true =>
      obtain ⟨set, -, returned⟩ :=
        (sessions.erased number session).unlockShutdown_returns
      rw [isNext, empty]
      split
      · exact settles_of_isEmpty (set ▸ empty) returned
      · next running =>
          have isRunning : sessions.runLock = true := by
            simpa [isShutdown, HttpSessions.erased] using running
          exact settles_of_isEmpty empty (counted.token isRunning)
  | false =>
      rw [isNext, empty, if_neg (by simp)]
      constructor
      · intro other after _ isFound drained
        rw [HttpSessions.erased, OrderedMap.find?_erase] at isFound
        split at isFound
        · cases isFound
        · next different =>
            exact settles.erases other after
              (fun same => different (Option.some.inj same).symm) isFound
              drained
      · intro _
        apply settles.token
        exact OrderedMap.isEmpty_of_find? found
      · exact fun _ => .inr empty

/-- Where the session is not in the set, there is nothing to erase. -/
theorem Settles.gone {number : Nat}
    (settles : sessions.Settles (some number))
    (missing : sessions.set.find? number = none) :
    sessions.Settles none where
  erases other session _ found drained := by
    apply settles.erases other session _ found drained
    intro same
    cases same
    rw [missing] at found
    cases found
  token := settles.token
  returns := settles.returns

theorem Settles.eraseInline {number others : Nat} {session : HttpSession}
    (settles : sessions.Settles (some number))
    (counted : sessions.Counted others)
    (held : 0 < sessions.locker.lockCount)
    (found : sessions.set.find? number = some session) :
    (sessions.eraseInline (some number)).Settles none := by
  rw [HttpSessions.eraseInline, AsyncLocker.makeLock_of_pos held]
  have locked : Settles (some number) { sessions with
      locker := { sessions.locker with
        lockCount := sessions.locker.lockCount + 1 } } :=
    settles.congr rfl (fun _ => id) rfl rfl
  have lockedCounted : Counted { sessions with
      locker := { sessions.locker with
        lockCount := sessions.locker.lockCount + 1 } } (others + 1) := by
    refine ⟨?_, counted.token⟩
    simp only [counted.locks]
    omega
  dsimp only
  split
  · next next erases =>
      have erased := locked.eraseJob lockedCounted found erases
      exact erased.congr rfl (fun _ => id) rfl rfl
  · next error threw =>
      have missing := eraseJob_eq_error threw
      rw [found] at missing
      cases missing

theorem Settles.errorPath (settles : sessions.Settles leaving) :
    sessions.errorPath.Settles leaving := by
  rw [HttpSessions.errorPath, HttpSessions.eraseInline]
  split
  · exact settles.congr rfl (fun _ => id) rfl rfl
  · exact settles.congr rfl (fun _ => id) rfl rfl

theorem Settles.started (settles : sessions.Settles none) {socket : Nat}
    {session : HttpSession} (fresh : socket ∉ sessions.set.keys)
    (running : sessions.runLock = true)
    (leaves : leaving = some socket ∨ session.locker.lockCount ≠ 0) :
    (sessions.started socket session).Settles leaving where
  erases number found stays isFound drained := by
    rw [HttpSessions.started, OrderedMap.find?_insert fresh] at isFound
    split at isFound
    · next same =>
        cases isFound
        rcases leaves with isLeaving | held
        · exact absurd (same ▸ isLeaving) stays
        · exact absurd drained held
    · exact settles.erases number found (by simp) isFound drained
  token _ := .inl running
  returns waits := by
    have isKey : (sessions.started socket session).set.find? socket =
        some session := by
      rw [HttpSessions.started, OrderedMap.find?_insert fresh, if_pos rfl]
    exact .inr (OrderedMap.isEmpty_of_find? isKey)

theorem Settles.emplaceJob (settles : sessions.Settles none)
    (counted : sessions.Counted 1) (fault : Option RunFault) {socket : Nat}
    (fresh : socket ∉ sessions.set.keys) :
    (sessions.emplaceJob socket fault).Settles none := by
  rw [HttpSessions.emplaceJob, isShutdown]
  cases running : sessions.runLock with
  | false => exact settles.congr rfl (fun _ => id) rfl rfl
  | true =>
      have held : 0 < sessions.locker.lockCount := by
        rw [counted.locks]
        exact Nat.succ_pos _
      simp only [Bool.not_true, Bool.false_eq_true, if_false]
      cases fault with
      | none => exact settles.started fresh running (.inr (by decide))
      | some fault =>
          rw [HttpSession.runWith_throws]
          have drained : ((sessions.started socket
              (HttpSession.failed fault)).drainedInline socket
                (HttpSession.failed fault)).Settles none := by
            rw [drainedInline]
            split
            · have started : Settles (some socket) (sessions.started socket
                  (HttpSession.failed fault)) :=
                settles.started fresh running (.inl rfl)
              apply started.eraseInline counted held
              rw [HttpSessions.started, OrderedMap.find?_insert fresh,
                if_pos rfl]
            · next held => exact settles.started fresh running (.inr held)
          exact drained.errorPath.congr rfl (fun _ => id) rfl rfl

/-- The job of `shutdown` leaves a set with sessions, which hold the token
on, or gives it back. -/
theorem Settles.shutdownJob
    (erases : ∀ number session, sessions.set.find? number = some session →
      session.locker.lockCount = 0 → .erase (some number) ∈ sessions.strand)
    (token : sessions.set.isEmpty = false →
      sessions.runLock = true ∨ sessions.shutdownLock = true) :
    sessions.shutdownJob.Settles none := by
  rw [HttpSessions.shutdownJob]
  split
  · next empty =>
      obtain ⟨set, -, returned⟩ := sessions.unlockShutdown_returns
      exact settles_of_isEmpty (set ▸ empty) returned
  · next some_session =>
      constructor
      · intro number after _ found drained
        rw [OrderedMap.find?_mapItems, Option.map_eq_some_iff] at found
        obtain ⟨before, isBefore, rfl⟩ := found
        exact erases number before isBefore drained
      · intro _
        exact token (Bool.eq_false_iff.mpr some_session)
      · intro _
        right
        rw [OrderedMap.isEmpty_mapItems]
        exact Bool.eq_false_iff.mpr some_session

/-! ## Steps -/

/-- A job is taken off the strand. -/
theorem Settles.popped (settles : sessions.Settles none) {job : SessionsJob}
    {jobs : List SessionsJob} (isNext : sessions.strand = job :: jobs)
    (notShutdown : job ≠ .shutdown)
    (leaves : ∀ number, job = .erase (some number) →
      leaving = some number) :
    Settles leaving { sessions with strand := jobs } where
  erases number session stays found drained := by
    have waits := settles.erases number session (by simp) found drained
    rw [isNext] at waits
    rcases List.mem_cons.mp waits with isJob | later
    · exact absurd (leaves number isJob.symm) stays
    · exact later
  token := settles.token
  returns waits := by
    refine (settles.returns waits).imp_left fun isWaiting => ?_
    rw [isNext] at isWaiting
    exact (List.mem_cons.mp isWaiting).resolve_left (Ne.symm notShutdown)

theorem Settles.perform (settles : sessions.Settles none)
    (sound : sessions.Sound) (fault : Option RunFault) {job : SessionsJob}
    {jobs : List SessionsJob} (isNext : sessions.strand = job :: jobs) :
    ({ sessions with strand := jobs }.perform fault job).Settles none := by
  have counted : Counted { sessions with strand := jobs } 1 := by
    refine ⟨?_, sound.counted.token⟩
    simp only [sound.counted.locks, isNext, List.length_cons]
    omega
  cases job with
  | emplace socket =>
      have popped : Settles none { sessions with strand := jobs } :=
        settles.popped isNext (by simp) (by simp)
      apply popped.emplaceJob counted
      apply sound.set.fresh_key
      exact sound.fresh (isNext ▸ List.mem_cons_self)
  | erase session =>
      rw [HttpSessions.perform]
      cases session with
      | none =>
          have popped : Settles none { sessions with strand := jobs } :=
            settles.popped isNext (by simp) (by simp)
          exact popped.congr rfl (fun _ => id) rfl rfl
      | some number =>
          have popped : Settles (some number)
              { sessions with strand := jobs } :=
            settles.popped isNext (by simp) (by simp)
          split
          · next next erases =>
              obtain ⟨_, found, isNumber, isFound, -⟩ := eraseJob_eq_ok erases
              cases isNumber
              exact popped.eraseJob counted isFound erases
          · next error threw =>
              have gone := popped.gone (eraseJob_eq_error threw)
              exact gone.congr rfl (fun _ => id) rfl rfl
  | shutdown =>
      refine Settles.shutdownJob (fun number session found drained => ?_)
        settles.token
      have waits := settles.erases number session (by simp) found drained
      rw [isNext] at waits
      exact (List.mem_cons.mp waits).resolve_left (by simp)

theorem Settles.sessionStep {server : HttpServer} {number : Nat}
    {event : HttpEvent} {next : HttpSessions}
    (settles : sessions.Settles none) (sound : sessions.Sound)
    (stepped : sessions.sessionStep server number event = some next) :
    next.Settles none := by
  obtain ⟨session, isSession, changes⟩ := Option.bind_eq_some_iff.mp stepped
  obtain ⟨after, sessionStepped, rfl⟩ := Option.map_eq_some_iff.mp changes
  have counted := (sound.set.kept number session isSession).2
  have held : 0 < sessions.locker.lockCount := by
    rw [sound.counted.locks]
    rcases settles.token (OrderedMap.isEmpty_of_find? isSession) with
      running | waiting
    · simp only [running, Bool.toNat_true]
      omega
    · simp only [waiting, Bool.toNat_true]
      omega
  have changed : ∀ leaving, (leaving = some number ∨
      ¬session.locker.callbacks < after.locker.callbacks) →
      Settles leaving { sessions with
        set := sessions.set.modify number fun _ => after } := by
    intro leaving isLeaving
    constructor
    · intro other item stays isItem drained
      rw [OrderedMap.find?_modify] at isItem
      split at isItem
      · next same =>
          subst same
          rw [isSession] at isItem
          cases isItem
          apply settles.erases other session (by simp) isSession
          by_contra some_lock
          have calledBack := HttpSession.step_lastLock counted sessionStepped
            some_lock drained
          rcases isLeaving with leaves | silent
          · exact stays leaves
          · exact silent calledBack
      · exact settles.erases other item (by simp) isItem drained
    · rw [OrderedMap.isEmpty_modify]
      exact settles.token
    · rw [OrderedMap.isEmpty_modify]
      exact settles.returns
  dsimp only
  split
  · have leaves := (changed (some number) (.inl rfl)).dispatch
      (.erase (some number))
    refine ⟨?_, leaves.token, leaves.returns⟩
    intro other item _ isItem drained
    by_cases same : other = number
    · have changedHeld : 0 < ({ sessions with
          set := sessions.set.modify number fun _ => after } :
            HttpSessions).locker.lockCount := held
      rw [same]
      exact dispatch_waits changedHeld _
    · exact leaves.erases other item
        (fun isOther => same (Option.some.inj isOther).symm) isItem drained
  · next silent => exact changed none (.inr silent)

theorem Settles.shutdown (settles : sessions.Settles none)
    (counted : sessions.Counted 0) :
    sessions.shutdown.Settles none := by
  rw [HttpSessions.shutdown]
  split
  · next running =>
      have held := counted.held running
      simp only [HttpSessions.dispatch, AsyncLocker.makeLock_of_pos held]
      refine ⟨?_, fun _ => .inr rfl, fun _ => .inl ?_⟩
      · intro number session stays found drained
        exact List.mem_append_left _
          (settles.erases number session stays found drained)
      · exact List.mem_append_right _ List.mem_cons_self
  · exact settles

theorem Settles.step {server : HttpServer} {event : SessionsEvent}
    {next : HttpSessions} (settles : sessions.Settles none)
    (sound : sessions.Sound)
    (stepped : sessions.step server event = some next) :
    next.Settles none := by
  cases event with
  | emplace =>
      cases stepped
      have taken : Settles none { sessions with history :=
          { sessions.history with
            sockets := sessions.history.sockets + 1 } } :=
        settles.congr rfl (fun _ => id) rfl rfl
      exact taken.dispatch _
  | run fault =>
      rw [HttpSessions.step] at stepped
      split at stepped
      · cases stepped
      · next job jobs isNext =>
          cases stepped
          have performed := settles.perform sound fault isNext
          exact performed.congr rfl (fun _ => id) rfl rfl
  | session number event => exact settles.sessionStep sound stepped
  | shutdown =>
      cases stepped
      exact settles.shutdown sound.counted

/-! ## Runs -/

theorem settles_of_reachable {server : HttpServer}
    {admits : HttpSessions → SessionsEvent → Prop}
    (reached : (sessionsMachine server).ReachableUnder admits sessions) :
    sessions.Settles none := by
  apply reached.invariantOver (Settles none)
  · rintro _ rfl
    exact settles_of_isEmpty rfl rfl
  · intro before event after earlier settles _ stepped
    have reached := earlier.mono fun _ _ _ => trivial
    exact settles.step (sound_of_reachable reached) stepped

/-- No job waits on the strand, and no session has started an operation whose
handler has not run. -/
def Idle (sessions : HttpSessions) : Prop :=
  sessions.strand = [] ∧ ∀ number session,
    sessions.set.find? number = some session → session.holders = 0

theorem Settles.idle (settles : sessions.Settles none)
    (sound : sessions.Sound) (idle : sessions.Idle) :
    sessions.set.isEmpty = true ∧ sessions.shutdownLock = false ∧
      sessions.locker.lockCount = sessions.runLock.toNat := by
  obtain ⟨noJob, noHandler⟩ := idle
  have empty : sessions.set.isEmpty = true := by
    rw [OrderedMap.isEmpty_iff_find?]
    intro number
    rw [Option.eq_none_iff_forall_ne_some]
    intro session found
    have drained : session.locker.lockCount = 0 := by
      rw [(sound.set.kept number session found).2,
        noHandler number session found]
    have waits := settles.erases number session (by simp) found drained
    rw [noJob] at waits
    cases waits
  have returned : sessions.shutdownLock = false := by
    rw [Bool.eq_false_iff]
    intro waiting
    rcases settles.returns waiting with waits | some_session
    · rw [noJob] at waits
      cases waits
    · rw [empty] at some_session
      cases some_session
  refine ⟨empty, returned, ?_⟩
  rw [sound.counted.locks, noJob, returned]
  simp

/-- Where nothing is outstanding nothing is left: every session has been
erased, and of the locks there is the token at most, until `shutdown()` is
called. -/
theorem settled_of_idle {server : HttpServer}
    (reached : (sessionsMachine server).Reachable sessions)
    (idle : sessions.Idle) :
    sessions.set.isEmpty = true ∧ sessions.shutdownLock = false ∧
      sessions.locker.lockCount = sessions.runLock.toNat :=
  (settles_of_reachable reached).idle (sound_of_reachable reached) idle

/-- A connection times out after the server was shut down. -/
theorem settled_of_idle_timeout :
    ∃ sessions, (sessionsMachine plainServer).run .constructed
        [.emplace, .run none, .session 0 (.timerDone (some .operationAborted)),
          .shutdown, .session 0 .timerExpired, .session 0 (.timerDone none),
          .session 0 (.readFailed (.code .operationAborted)), .run none,
          .run none] = some sessions ∧
      sessions.history.erased = [⟨0, 0⟩] ∧ sessions.set.isEmpty = true ∧
      sessions.locker.lockCount = 0 := by
  have ran : ∃ sessions,
      (sessionsMachine plainServer).run .constructed
        [.emplace, .run none, .session 0 (.timerDone (some .operationAborted)),
          .shutdown, .session 0 .timerExpired, .session 0 (.timerDone none),
          .session 0 (.readFailed (.code .operationAborted)), .run none,
          .run none] = some sessions ∧
      sessions.history.erased = [⟨0, 0⟩] ∧ sessions.strand = [] ∧
      sessions.set = .empty ∧ sessions.runLock = false :=
    ⟨_, rfl, rfl, rfl, rfl, rfl⟩
  obtain ⟨sessions, ran, erased, noJob, set, stopped⟩ := ran
  have idle : sessions.Idle := by
    refine ⟨noJob, fun number session found => ?_⟩
    rw [set] at found
    cases found
  obtain ⟨empty, -, locks⟩ :=
    settled_of_idle (Machine.reachable_of_run rfl ran) idle
  rw [stopped] at locks
  exact ⟨sessions, ran, erased, empty, locks⟩

end

end HttpSessions

end Webservice
