import Webservice.Http.Erasing

/-!
# Starts of HTTP sessions that fail

`run` may throw when its session is already in `set_`.  The error path of
`async_emplace` does not find that session; whether it ever leaves the set
depends on what the start had left pending.
-/

namespace Webservice

namespace HttpSessions

/-- The server is not shut down, which alone calls `do_close` from outside of
a session, and the first wait, which is set to the end of time, does not
expire. -/
def Ordinary (socket : Nat) (sessions : HttpSessions)
    (event : SessionsEvent) : Prop :=
  event ≠ .shutdown ∧ (∀ number, event ≠ .session number .doClose) ∧
    ∀ session, sessions.set.find? socket = some session →
      event = .session socket .timerExpired →
        1 < session.history.waitsStarted

/-- Some ordinary run takes the session out of the set. -/
def Leaves (server : HttpServer) (socket : Nat) (sessions : HttpSessions) :
    Prop :=
  ∃ events last,
    (sessionsMachine server).Admitted (Ordinary socket) sessions events ∧
    (sessionsMachine server).run sessions events = some last ∧
    last.set.find? socket = none

/-- A start that failed is cleaned up: the error path asks to erase the
session that was inserted, no run erases it twice or while one of its handlers
holds a lock, and it can leave the set. -/
structure CleansUp (server : HttpServer) (socket : Nat)
    (before after : HttpSessions) : Prop where
  asks : after.history.errorPath =
    before.history.errorPath ++ [some socket]
  once : ∀ events last,
    (sessionsMachine server).run after events = some last →
      (last.history.erased.map Erasure.session).count socket ≤ 1 ∧
      ∀ erasure ∈ last.history.erased, erasure.session = socket →
        erasure.lockCount = 0
  leaves : after.Leaves server socket

section

variable {sessions : HttpSessions}

/-! ## The error path -/

@[simp] theorem unlockShutdown_strand :
    sessions.unlockShutdown.strand = sessions.strand := by
  rw [unlockShutdown]
  split <;> rfl

@[simp] theorem unlockShutdown_history :
    sessions.unlockShutdown.history = sessions.history := by
  rw [unlockShutdown]
  split <;> rfl

@[simp] theorem unlockShutdown_set :
    sessions.unlockShutdown.set = sessions.set := by
  rw [unlockShutdown]
  split <;> rfl

@[simp] theorem unlockShutdown_runLock :
    sessions.unlockShutdown.runLock = sessions.runLock := by
  rw [unlockShutdown]
  split <;> rfl

/-- What erasing on the strand does not change. -/
theorem eraseInline_frame (session : Option Nat) :
    (sessions.eraseInline session).strand = sessions.strand ∧
      (sessions.eraseInline session).runLock = sessions.runLock ∧
      (sessions.eraseInline session).history.inserted =
        sessions.history.inserted ∧
      (sessions.eraseInline session).history.errorPath =
        sessions.history.errorPath := by
  rw [eraseInline]
  split
  · exact ⟨rfl, rfl, rfl, rfl⟩
  · dsimp only
    split
    · next next erases =>
        obtain ⟨number, found, -, -, isNext⟩ := eraseJob_eq_ok erases
        rcases isNext with rfl | rfl <;> simp [unlocked, erased]
    · exact ⟨rfl, rfl, rfl, rfl⟩

/-- Erasing on the strand does not touch other sessions. -/
theorem eraseInline_other {session : Option Nat} {number : Nat}
    (other : session ≠ some number) :
    (sessions.eraseInline session).set.find? number =
      sessions.set.find? number := by
  rw [eraseInline]
  split
  · rfl
  · dsimp only
    split
    · next next erases =>
        obtain ⟨wanted, found, rfl, -, isNext⟩ := eraseJob_eq_ok erases
        have different : number ≠ wanted := fun same =>
          other (congrArg some same.symm)
        rcases isNext with rfl | rfl <;>
          simp [unlocked, erased, OrderedMap.find?_erase, different]
    · rfl

theorem eraseInline_found {number : Nat}
    (held : 0 < sessions.locker.lockCount) :
    (sessions.eraseInline (some number)).set.find? number = none := by
  rw [eraseInline, AsyncLocker.makeLock_of_pos held]
  dsimp only
  split
  · next next erases =>
      obtain ⟨wanted, found, isWanted, -, isNext⟩ := eraseJob_eq_ok erases
      cases isWanted
      rcases isNext with rfl | rfl <;>
        simp [unlocked, erased, OrderedMap.find?_erase]
  · next threw =>
      have missing := eraseJob_eq_error threw
      exact missing

theorem drainedInline_frame (socket : Nat) (session : HttpSession) :
    (sessions.drainedInline socket session).strand = sessions.strand ∧
      (sessions.drainedInline socket session).runLock = sessions.runLock ∧
      (sessions.drainedInline socket session).history.inserted =
        sessions.history.inserted ∧
      (sessions.drainedInline socket session).history.errorPath =
        sessions.history.errorPath := by
  rw [drainedInline]
  split
  · exact eraseInline_frame _
  · exact ⟨rfl, rfl, rfl, rfl⟩

/-- The session was moved from when its error path runs. -/
theorem errorPath_asks :
    sessions.errorPath.history.errorPath =
      sessions.history.errorPath ++ [none] :=
  (eraseInline_frame none).2.2.2

theorem errorPath_find? (number : Nat) :
    sessions.errorPath.set.find? number = sessions.set.find? number :=
  eraseInline_other (Option.some_ne_none number).symm

/-! ## The start -/

theorem emplaceJob_throws (running : sessions.isShutdown = false)
    (socket : Nat) (fault : RunFault) :
    sessions.emplaceJob socket (some fault) =
      (((sessions.started socket (HttpSession.failed fault)).drainedInline
        socket (HttpSession.failed fault)).errorPath).escape fault.error := by
  rw [emplaceJob, running, if_neg Bool.false_ne_true,
    HttpSession.runWith_throws]

/-- What the step of a failing start leaves. -/
theorem failedStart_frame {server : HttpServer} {socket : Nat}
    {jobs : List SessionsJob} {fault : RunFault} {next : HttpSessions}
    (isNext : sessions.strand = .emplace socket :: jobs)
    (running : sessions.isShutdown = false)
    (stepped : sessions.step server (.run (some fault)) = some next) :
    next.strand = jobs ∧ next.runLock = sessions.runLock ∧
      next.history.inserted = sessions.history.inserted ++ [socket] ∧
      next.history.errorPath = sessions.history.errorPath ++ [none] := by
  have stillRunning :
      isShutdown { sessions with strand := jobs } = false := running
  rw [step, isNext] at stepped
  cases stepped
  rw [perform, emplaceJob_throws stillRunning]
  have unwound := @drainedInline_frame
    (started { sessions with strand := jobs } socket
      (HttpSession.failed fault)) socket (HttpSession.failed fault)
  generalize drainedInline _ socket (HttpSession.failed fault) = after
    at unwound
  obtain ⟨strand, runLock, inserted, errorPath⟩ := unwound
  obtain ⟨afterStrand, afterRunLock, afterInserted, -⟩ :=
    @eraseInline_frame { after with history :=
      { after.history with
        errorPath := after.history.errorPath ++ [none] } } none
  refine ⟨afterStrand.trans strand, afterRunLock.trans runLock,
    afterInserted.trans inserted, ?_⟩
  exact errorPath_asks.trans (congrArg (· ++ [none]) errorPath)

/-- A start that fails, whichever operation throws, is not cleaned up. -/
theorem failedStart_not_cleansUp {server : HttpServer} {socket : Nat}
    {jobs : List SessionsJob} {fault : RunFault} {next : HttpSessions}
    (isNext : sessions.strand = .emplace socket :: jobs)
    (running : sessions.isShutdown = false)
    (stepped : sessions.step server (.run (some fault)) = some next) :
    ¬CleansUp server socket sessions next := by
  intro cleansUp
  obtain ⟨-, -, -, asked⟩ := failedStart_frame isNext running stepped
  have asks := cleansUp.asks
  rw [asked] at asks
  cases List.append_cancel_left asks

/-- The first wait throws. -/
theorem failedStart_not_cleansUp_firstWait :
    ∃ sessions next,
      (sessionsMachine plainServer).run .constructed [.emplace] =
        some sessions ∧
      sessions.step plainServer
        (.run (some ⟨.firstWait, .user "async_wait"⟩)) = some next ∧
      ¬CleansUp plainServer 0 sessions next := by
  have ran : ∃ sessions next,
      (sessionsMachine plainServer).run .constructed [.emplace] =
        some sessions ∧ sessions.strand = [.emplace 0] ∧
      sessions.isShutdown = false ∧
      sessions.step plainServer
        (.run (some ⟨.firstWait, .user "async_wait"⟩)) = some next :=
    ⟨_, _, rfl, rfl, rfl, rfl⟩
  obtain ⟨sessions, next, ran, isNext, running, stepped⟩ := ran
  exact ⟨sessions, next, ran, stepped,
    failedStart_not_cleansUp isNext running stepped⟩

/-- `expires_after` throws: the error path asks to erase the null session,
which is not in the set, and session 0 stays there. -/
theorem failedStart_asks_for_null :
    ∃ sessions next,
      (sessionsMachine plainServer).run .constructed [.emplace] =
        some sessions ∧
      sessions.step plainServer
        (.run (some ⟨.expiresAfter false, .user "expires_after"⟩)) =
          some next ∧
      next.history.errorPath = [none] ∧ next.set.keys = [0] ∧
      next.history.reported = [.logicError "session doesn't exist"] ∧
      ¬CleansUp plainServer 0 sessions next := by
  refine ⟨_, _, rfl, rfl, rfl, rfl, rfl, fun cleansUp => ?_⟩
  cases cleansUp.asks

/-! ## What becomes of the session -/

theorem failed_drained_iff (fault : RunFault) :
    (HttpSession.failed fault).locker.lockCount = 0 ↔
      fault.op = .firstWait := by
  obtain ⟨op, error⟩ := fault
  cases op with
  | firstWait => exact iff_of_true rfl rfl
  | expiresAfter cancels =>
      cases cancels <;> exact iff_of_false Nat.one_ne_zero RunOp.noConfusion
  | secondWait => exact iff_of_false Nat.one_ne_zero RunOp.noConfusion
  | asyncRead => exact iff_of_false (Nat.succ_ne_zero 1) RunOp.noConfusion

/-- The unwinding of `run` erases a session that has nothing pending. -/
theorem failedStart_find? {server : HttpServer} {socket : Nat}
    {jobs : List SessionsJob} {fault : RunFault} {next : HttpSessions}
    (sound : sessions.Sound)
    (isNext : sessions.strand = .emplace socket :: jobs)
    (running : sessions.isShutdown = false)
    (stepped : sessions.step server (.run (some fault)) = some next) :
    next.set.find? socket =
      if fault.op = .firstWait then none
      else some (HttpSession.failed fault) := by
  have fresh := sound.fresh (isNext ▸ List.mem_cons_self)
  have stillRunning :
      isShutdown { sessions with strand := jobs } = false := running
  have held := sound.counted.locks
  rw [isNext, List.length_cons] at held
  rw [step, isNext] at stepped
  cases stepped
  rw [perform, emplaceJob_throws stillRunning]
  refine (errorPath_find? socket).trans ?_
  rw [drainedInline]
  by_cases first : fault.op = .firstWait
  · rw [if_pos ((failed_drained_iff fault).mpr first), if_pos first]
    apply eraseInline_found
    show 0 < sessions.locker.lockCount
    omega
  · rw [if_neg (mt (failed_drained_iff fault).mp first), if_neg first]
    rw [started, OrderedMap.find?_insert (sound.set.fresh_key fresh)]
    exact if_pos rfl

theorem started_other {socket number : Nat} {session : HttpSession}
    (newKey : socket ∉ sessions.set.keys) (other : number ≠ socket) :
    (sessions.started socket session).set.find? number =
      sessions.set.find? number := by
  rw [started, OrderedMap.find?_insert newKey]
  exact if_neg other

theorem emplaceJob_other {socket number : Nat}
    (newKey : socket ∉ sessions.set.keys) (other : number ≠ socket)
    (fault : Option RunFault) :
    (sessions.emplaceJob socket fault).set.find? number =
      sessions.set.find? number := by
  by_cases stopped : sessions.isShutdown = true
  · rw [emplaceJob, if_pos stopped]
    rfl
  cases fault with
  | none =>
      rw [emplaceJob, if_neg stopped]
      exact started_other newKey other
  | some fault =>
      rw [emplaceJob_throws (Bool.eq_false_iff.mpr stopped)]
      refine (errorPath_find? number).trans ?_
      rw [drainedInline]
      split
      · rw [eraseInline_other fun same => other (Option.some.inj same).symm]
        exact started_other newKey other
      · exact started_other newKey other

/-- Which jobs touch a session that was inserted. -/
theorem perform_other {job : SessionsJob} {jobs : List SessionsJob}
    {number : Nat} (sound : sessions.Sound)
    (isNext : sessions.strand = job :: jobs)
    (inserted : number ∈ sessions.history.inserted)
    (notErased : job ≠ .erase (some number)) (running : job ≠ .shutdown)
    (fault : Option RunFault) :
    ({ sessions with strand := jobs }.perform fault job).set.find? number =
      sessions.set.find? number := by
  cases job with
  | emplace socket =>
      have fresh := sound.fresh (isNext ▸ List.mem_cons_self)
      have newKey := sound.set.fresh_key fresh
      apply @emplaceJob_other { sessions with strand := jobs } socket number
        newKey
      rintro rfl
      exact fresh inserted
  | erase session =>
      rw [perform]
      split
      · next next erases =>
          obtain ⟨wanted, found, rfl, -, isErased⟩ := eraseJob_eq_ok erases
          have other : number ≠ wanted := by
            rintro rfl
            exact notErased rfl
          rcases isErased with rfl | rfl <;>
            simp [erased, OrderedMap.find?_erase, other]
      · rfl
  | shutdown => exact absurd rfl running

@[simp] theorem dispatch_set (job : SessionsJob) :
    (sessions.dispatch job).set = sessions.set := by
  rw [dispatch]
  split <;> rfl

theorem sessionStep_eq_some {server : HttpServer} {number : Nat}
    {event : HttpEvent} {next : HttpSessions}
    (stepped : sessions.sessionStep server number event = some next) :
    ∃ session after, sessions.set.find? number = some session ∧
      session.step server event = some after ∧
      (∀ other, next.set.find? other =
        if other = number then some after else sessions.set.find? other) ∧
      (session.locker.callbacks < after.locker.callbacks →
        0 < sessions.locker.lockCount →
          .erase (some number) ∈ next.strand) := by
  obtain ⟨session, isSession, changes⟩ := Option.bind_eq_some_iff.mp stepped
  obtain ⟨after, sessionStepped, rfl⟩ := Option.map_eq_some_iff.mp changes
  refine ⟨session, after, isSession, sessionStepped, fun other => ?_, ?_⟩
  · have changed : (sessions.set.modify number fun _ => after).find? other =
        if other = number then some after else sessions.set.find? other := by
      rw [OrderedMap.find?_modify]
      split
      · next same =>
          rw [same, isSession]
          rfl
      · rfl
    dsimp only
    split
    · rw [asyncErase, dispatch_set, changed]
    · exact changed
  · intro called held
    dsimp only
    rw [if_pos called, asyncErase, dispatch, AsyncLocker.makeLock_of_pos held]
    exact List.mem_append_right _ List.mem_cons_self

/-! ## A session that waits for the end of time -/

/-- The session is in the set, and the server runs. -/
structure Stranded (socket : Nat) (stuck : HttpSession)
    (sessions : HttpSessions) : Prop where
  sound : sessions.Sound
  running : sessions.runLock = true
  found : sessions.set.find? socket = some stuck

theorem Stranded.step {server : HttpServer} {socket : Nat}
    {stuck : HttpSession} {event : SessionsEvent} {next : HttpSessions}
    (stranded : sessions.Stranded socket stuck)
    (held : stuck.locker.lockCount ≠ 0)
    (idle : ∀ event after, stuck.step server event = some after →
      event = .timerExpired ∨ event = .doClose)
    (fewWaits : stuck.history.waitsStarted ≤ 1)
    (ordinary : sessions.Ordinary socket event)
    (stepped : sessions.step server event = some next) :
    next.Stranded socket stuck := by
  obtain ⟨running, noClose, noExpiry⟩ := ordinary
  refine ⟨stranded.sound.step stepped, ?_, ?_⟩
  · have moves := (step_moves stepped running stranded.sound.counted).1
    exact moves.runLock.trans stranded.running
  cases event with
  | emplace =>
      cases stepped
      rw [asyncEmplace, dispatch_set]
      exact stranded.found
  | run fault =>
      rw [HttpSessions.step] at stepped
      split at stepped
      · cases stepped
      · next job jobs isNext =>
          cases stepped
          have isJob : job ∈ sessions.strand := isNext ▸ List.mem_cons_self
          have set := stranded.sound.set
          refine (perform_other stranded.sound isNext
            (set.kept socket stuck stranded.found).1 ?_ ?_ fault).trans
            stranded.found
          · rintro rfl
            exact held ((set.erases socket isJob).2 stuck stranded.found)
          · rintro rfl
            have stopped := set.shutdowns isJob
            rw [stranded.running] at stopped
            cases stopped
  | session number event =>
      obtain ⟨session, after, isSession, sessionStepped, found, -⟩ :=
        sessionStep_eq_some stepped
      rw [found, if_neg]
      · exact stranded.found
      rintro rfl
      cases stranded.found.symm.trans isSession
      rcases idle event after sessionStepped with rfl | rfl
      · have expires := noExpiry stuck stranded.found rfl
        omega
      · exact noClose socket rfl
  | shutdown => exact absurd rfl running

/-! ## A session that leaves the set -/

theorem Leaves.of_step {server : HttpServer} {socket : Nat}
    {event : SessionsEvent} {next : HttpSessions}
    (ordinary : sessions.Ordinary socket event)
    (stepped : sessions.step server event = some next)
    (leaves : next.Leaves server socket) :
    sessions.Leaves server socket := by
  obtain ⟨events, last, admitted, ran, gone⟩ := leaves
  refine ⟨event :: events, last, ?_, ?_, gone⟩
  · exact Machine.Admitted.cons stepped ordinary admitted
  · exact Option.bind_eq_some_iff.mpr ⟨next, stepped, ran⟩

theorem run_ordinary (socket : Nat) (fault : Option RunFault) :
    sessions.Ordinary socket (.run fault) :=
  ⟨SessionsEvent.noConfusion, fun _ => SessionsEvent.noConfusion,
    fun _ _ => SessionsEvent.noConfusion⟩

theorem perform_strand {job : SessionsJob} :
    (sessions.perform none job).strand = sessions.strand := by
  cases job with
  | emplace socket =>
      rw [perform, emplaceJob]
      split <;> rfl
  | erase session =>
      rw [perform]
      split
      · next next erases =>
          obtain ⟨number, found, -, -, isErased⟩ := eraseJob_eq_ok erases
          rcases isErased with rfl | rfl <;> simp [erased]
      · rfl
  | shutdown =>
      rw [perform, shutdownJob]
      split
      · exact unlockShutdown_strand
      · rfl

theorem perform_erases {job : SessionsJob} {jobs : List SessionsJob}
    {number : Nat} (sound : sessions.Sound)
    (isNext : sessions.strand = job :: jobs)
    (inserted : number ∈ sessions.history.inserted)
    (waits : sessions.set.find? number = none ∨
      .erase (some number) ∈ job :: jobs) :
    ({ sessions with strand := jobs }.perform none job).set.find? number =
        none ∨ .erase (some number) ∈ jobs := by
  by_cases isErase : job = .erase (some number)
  · subst isErase
    left
    rw [perform]
    split
    · next next erases =>
        obtain ⟨wanted, found, isWanted, -, isErased⟩ :=
          eraseJob_eq_ok erases
        cases isWanted
        rcases isErased with rfl | rfl <;>
          simp [erased, OrderedMap.find?_erase]
    · next threw =>
        have missing := eraseJob_eq_error threw
        exact missing
  have later : .erase (some number) ∈ job :: jobs →
      .erase (some number) ∈ jobs := by
    intro isJob
    rcases List.mem_cons.mp isJob with same | isLater
    · exact absurd same.symm isErase
    · exact isLater
  refine waits.imp (fun gone => ?_) later
  by_cases isShutdown : job = .shutdown
  · subst isShutdown
    rw [perform, shutdownJob]
    split
    · rw [unlockShutdown_set]
      exact gone
    · rw [OrderedMap.find?_mapItems, Option.map_eq_none_iff]
      exact gone
  · rw [perform_other sound isNext inserted isErase isShutdown]
    exact gone

/-- A session leaves the set when the job that erases it comes up. -/
theorem leaves_of_waits {server : HttpServer} {socket : Nat}
    (sound : sessions.Sound) (inserted : socket ∈ sessions.history.inserted)
    (waits : sessions.set.find? socket = none ∨
      .erase (some socket) ∈ sessions.strand) :
    sessions.Leaves server socket := by
  generalize isStrand : sessions.strand = strand at waits
  induction strand generalizing sessions with
  | nil =>
      rcases waits with gone | waits
      · exact ⟨[], sessions, trivial, rfl, gone⟩
      · cases waits
  | cons job jobs induction =>
      have stepped : sessions.step server (.run none) = some
          ({ sessions with strand := jobs }.perform none job).unlocked := by
        rw [step, isStrand]
      refine .of_step (run_ordinary socket none) stepped ?_
      apply induction (sound.step stepped)
      · have moves := step_moves stepped SessionsEvent.noConfusion sound.counted
        exact moves.1.inserted inserted
      · exact perform_strand
      · exact perform_erases sound isStrand inserted waits

theorem Leaves.of_session {server : HttpServer} {socket : Nat}
    {session after : HttpSession} {event : HttpEvent}
    (found : sessions.set.find? socket = some session)
    (sessionStepped : session.step server event = some after)
    (ordinary : sessions.Ordinary socket (.session socket event))
    (leaves : ∀ next, sessions.step server (.session socket event) =
      some next → next.set.find? socket = some after →
        next.Leaves server socket) :
    sessions.Leaves server socket := by
  have stepped : ∃ next,
      sessions.step server (.session socket event) = some next := by
    simp [step, sessionStep, found, sessionStepped]
  obtain ⟨next, stepped⟩ := stepped
  refine .of_step ordinary stepped (leaves next stepped ?_)
  obtain ⟨other, afterOther, isOther, otherStepped, changed, -⟩ :=
    sessionStep_eq_some stepped
  cases found.symm.trans isOther
  cases sessionStepped.symm.trans otherStepped
  rw [changed, if_pos rfl]

/-- The last lock erases the session. -/
theorem Leaves.of_last {server : HttpServer} {socket : Nat}
    {session after : HttpSession} {event : HttpEvent}
    (sound : sessions.Sound) (running : sessions.runLock = true)
    (found : sessions.set.find? socket = some session)
    (sessionStepped : session.step server event = some after)
    (ordinary : sessions.Ordinary socket (.session socket event))
    (called : session.locker.callbacks < after.locker.callbacks) :
    sessions.Leaves server socket := by
  refine .of_session found sessionStepped ordinary ?_
  intro next stepped isAfter
  have nextSound := sound.step stepped
  obtain ⟨inserted, -⟩ := nextSound.set.kept socket after isAfter
  apply leaves_of_waits nextSound inserted
  obtain ⟨other, afterOther, isOther, otherStepped, -, waits⟩ :=
    sessionStep_eq_some stepped
  cases found.symm.trans isOther
  cases sessionStepped.symm.trans otherStepped
  exact .inr (waits called (sound.counted.held running))

theorem timerDone_ordinary (socket : Nat) (ec : Option ErrorCode) :
    sessions.Ordinary socket (.session socket (.timerDone ec)) := by
  refine ⟨SessionsEvent.noConfusion, fun _ same => ?_, fun _ _ same => ?_⟩
  · cases same
  · cases same

theorem failed_aborted {server : HttpServer} {op : RunOp}
    (error : Exception)
    (cancelled : op = .secondWait ∨ op = .expiresAfter true) :
    ∃ after, (HttpSession.failed ⟨op, error⟩).step server
        (.timerDone (some .operationAborted)) = some after ∧
      (HttpSession.failed ⟨op, error⟩).locker.callbacks <
        after.locker.callbacks := by
  rcases cancelled with rfl | rfl
  · exact ⟨_, rfl, Nat.one_pos⟩
  · exact ⟨_, rfl, Nat.one_pos⟩

/-- The first wait is all that is left. -/
theorem failed_idle {server : HttpServer} (error : Exception)
    (event : HttpEvent) (after : HttpSession)
    (stepped : (HttpSession.failed ⟨.expiresAfter false, error⟩).step server
      event = some after) : event = .timerExpired ∨ event = .doClose := by
  cases event with
  | requestRead wire handling connecting => cases stepped
  | readFailed error => cases stepped
  | writeDone ec => cases stepped
  | timerExpired => exact .inl rfl
  | timerDone ec =>
      obtain ⟨timer, taken, -⟩ := HttpSession.step_timerDone stepped
      by_cases aborted : ec = some .operationAborted
      · simp only [aborted, decide_true] at taken
        cases taken
      · simp only [aborted, decide_false] at taken
        cases taken
  | doClose => exact .inr rfl
  | lateReply work => cases stepped

/-- After a read that failed to start, the second wait expires, and the
handlers of both waits run. -/
theorem failed_rearmed {server : HttpServer} (error : Exception) :
    ∃ expired closed after,
      (HttpSession.failed ⟨.asyncRead, error⟩).step server .timerExpired =
        some expired ∧
      expired.step server (.timerDone none) = some closed ∧
      closed.step server (.timerDone (some .operationAborted)) =
        some after ∧
      closed.locker.callbacks < after.locker.callbacks :=
  ⟨_, _, _, rfl, rfl, rfl, Nat.one_pos⟩

theorem step_session_kept {server : HttpServer} {number : Nat}
    {event : HttpEvent} {next : HttpSessions} (sound : sessions.Sound)
    (running : sessions.runLock = true)
    (stepped : sessions.step server (.session number event) = some next) :
    next.Sound ∧ next.runLock = true := by
  have moves := step_moves stepped SessionsEvent.noConfusion sound.counted
  exact ⟨sound.step stepped, moves.1.runLock.trans running⟩

/-- The wait that `do_read` started closes the socket when it expires; the
one that it cancelled comes first or last. -/
theorem leaves_of_rearmed {server : HttpServer} {socket : Nat}
    {error : Exception} (sound : sessions.Sound)
    (running : sessions.runLock = true)
    (found : sessions.set.find? socket =
      some (HttpSession.failed ⟨.asyncRead, error⟩)) :
    sessions.Leaves server socket := by
  have expires : sessions.Ordinary socket
      (.session socket .timerExpired) := by
    refine ⟨SessionsEvent.noConfusion, fun _ same => ?_, ?_⟩
    · cases same
    · intro session isSession _
      cases found.symm.trans isSession
      exact Nat.one_lt_two
  obtain ⟨expired, closed, after, first, second, third, called⟩ :=
    @failed_rearmed server error
  refine .of_session found first expires ?_
  intro next stepped isExpired
  obtain ⟨nextSound, stillRuns⟩ := step_session_kept sound running stepped
  refine .of_session isExpired second (timerDone_ordinary socket none) ?_
  intro later stepped isClosed
  obtain ⟨laterSound, laterRuns⟩ :=
    step_session_kept nextSound stillRuns stepped
  exact .of_last laterSound laterRuns isClosed third
    (timerDone_ordinary socket (some .operationAborted)) called

/-- A session whose start failed can leave the set, unless `expires_after`
threw before it cancelled the first wait. -/
theorem failedStart_leaves_iff {server : HttpServer} {socket : Nat}
    {jobs : List SessionsJob} {fault : RunFault} {next : HttpSessions}
    (reached : (sessionsMachine server).Reachable sessions)
    (isNext : sessions.strand = .emplace socket :: jobs)
    (running : sessions.isShutdown = false)
    (stepped : sessions.step server (.run (some fault)) = some next) :
    next.Leaves server socket ↔ fault.op ≠ .expiresAfter false := by
  have sound := sound_of_reachable reached
  have nextSound := sound.step stepped
  have found := failedStart_find? sound isNext running stepped
  have stillRunning : next.runLock = true := by
    rw [(failedStart_frame isNext running stepped).2.1]
    simpa [isShutdown] using running
  obtain ⟨op, error⟩ := fault
  have aborted : next.set.find? socket =
      some (HttpSession.failed ⟨op, error⟩) →
      (op = .secondWait ∨ op = .expiresAfter true) →
      next.Leaves server socket := by
    intro isFailed cancelled
    obtain ⟨after, aborts, called⟩ := @failed_aborted server op error cancelled
    exact .of_last nextSound stillRunning isFailed aborts
      (timerDone_ordinary socket (some .operationAborted)) called
  cases op with
  | firstWait =>
      exact iff_of_true ⟨[], next, trivial, rfl, found⟩ RunOp.noConfusion
  | expiresAfter cancels =>
      cases cancels with
      | true =>
          refine iff_of_true (aborted found (.inr rfl)) fun same => ?_
          cases same
      | false =>
          refine iff_of_false ?_ (not_not.mpr rfl)
          rintro ⟨events, last, ordinary, ran, gone⟩
          have stranded : last.Stranded socket
              (HttpSession.failed ⟨.expiresAfter false, error⟩) := by
            apply Machine.run_keeps _ _ ⟨nextSound, stillRunning, found⟩
              ordinary ran
            intro before event after isStranded isOrdinary isNext
            exact isStranded.step Nat.one_ne_zero (failed_idle error)
              (Nat.le_refl 1) isOrdinary isNext
          rw [stranded.found] at gone
          cases gone
  | secondWait =>
      exact iff_of_true (aborted found (.inl rfl)) RunOp.noConfusion
  | asyncRead =>
      exact iff_of_true (leaves_of_rearmed nextSound stillRunning found)
        RunOp.noConfusion

end

end HttpSessions

end Webservice
