import Webservice.Http.Runs

/-!
# Timeout and drain of an HTTP session

A session that is not closed is watched by exactly one live wait.  Closing
cancels the pending waits, and without a pending wait `do_read` neither arms
the timer nor reads.

A write that makes room in a full queue takes the reading for paused and
resumes it.  But the queue also gets full when an `http_response` is called
that the request handler kept, and the reading goes on then; it is paused
where a read has failed, or where what its request was passed to has thrown.
-/

namespace Webservice

namespace HttpSession

/-- What watches the session, and its reads, are as before. -/
structure SameWatch (before after : HttpSession) : Prop where
  timer : after.timer = before.timer
  closed : after.closed = before.closed
  reads : after.reads = before.reads
  socketOpen : after.socketOpen = before.socketOpen

/-- The waits of a session, with any request handler. -/
structure Watched (session : HttpSession) : Prop where
  once : session.timer.live ≤ 1
  armed : session.closed = false → session.timer.live = 1
  quiet : session.closed = true → session.timer.pending = 0

/-- The reading is paused as long as the queue is full. -/
structure Paced (session : HttpSession) : Prop where
  single : session.reads ≤ 1
  room : 0 < session.reads → session.items.items.length < 64

/-- `do_read` would read. -/
def CanRead (session : HttpSession) : Prop :=
  session.socketOpen = true ∧ 0 < session.timer.pending

instance (session : HttpSession) : Decidable session.CanRead :=
  inferInstanceAs (Decidable (_ ∧ _))

/-- The event ends a read without another one: it failed, or what its request
was passed to threw. -/
def stopsReading (server : HttpServer) (session : HttpSession) :
    HttpEvent → Bool
  | .requestRead wire handling connecting =>
      if (session.received wire).Upgrades server then connecting.throws
      else handling.throws
  | .readFailed _ => true
  | _ => false

/-- A write makes room in a full queue and leads to a read. -/
def resumesReading (session : HttpSession) : HttpEvent → Bool
  | .writeDone none =>
      session.items.isFull && decide session.CanRead &&
        session.writing.head?.all fun work => !work.needEof
  | _ => false

/-- The last of the steps that stopped the reading or resumed it stopped
it. -/
def paused (server : HttpServer) (past : List (HttpSession × HttpEvent)) :
    Bool :=
  (past.find? fun taken => taken.1.stopsReading server taken.2 ||
      taken.1.resumesReading taken.2).any fun taken =>
    taken.1.stopsReading server taken.2

/-- A write resumes the reading only where it is paused. -/
def ResumesPaused (server : HttpServer)
    (recorded : HttpSession × List (HttpSession × HttpEvent))
    (event : HttpEvent) : Prop :=
  recorded.1.resumesReading event = true → paused server recorded.2 = true

instance (server : HttpServer)
    (recorded : HttpSession × List (HttpSession × HttpEvent))
    (event : HttpEvent) : Decidable (ResumesPaused server recorded event) :=
  inferInstanceAs (Decidable (_ → _))

/-- No response that is sent late fills the queue. -/
def LeavesSpace (session : HttpSession) : HttpEvent → Prop
  | .lateReply _ => session.items.items.length < 63
  | _ => True

section

variable {session : HttpSession}

/-! ## The waits -/

theorem Watched.congr {after : HttpSession} (watched : session.Watched)
    (timer : after.timer = session.timer)
    (closed : after.closed = session.closed) : after.Watched := by
  constructor
  · rw [timer]
    exact watched.once
  · rw [closed, timer]
    exact watched.armed
  · rw [closed, timer]
    exact watched.quiet

theorem Watched.report (watched : session.Watched) (error : Exception) :
    (session.report error).Watched :=
  watched.congr rfl rfl

theorem Watched.shutDown (watched : session.Watched) :
    session.shutDown.Watched := by
  constructor
  · exact Nat.le_trans session.timer.cancel_live_le watched.once
  · intro stillOpen
    exact absurd stillOpen.symm Bool.false_ne_true
  · intro _
    exact session.timer.cancel_pending

theorem Watched.resumed (watched : session.Watched) :
    session.resumed.Watched := by
  rw [HttpSession.resumed]
  split
  · next both =>
      have live : session.timer.cancel.asyncWait.live = 1 := by
        have once := watched.once
        simp only [WaitableTimer.live, WaitableTimer.cancel,
          WaitableTimer.asyncWait] at once ⊢
        omega
      constructor
      · exact Nat.le_of_eq live
      · exact fun _ => live
      · intro isClosed
        exact absurd (watched.quiet isClosed) (Nat.ne_of_gt both.2)
  · exact watched

theorem SameWatch.trans {before middle after : HttpSession}
    (first : SameWatch before middle) (second : SameWatch middle after) :
    SameWatch before after :=
  ⟨second.timer.trans first.timer, second.closed.trans first.closed,
    second.reads.trans first.reads,
    second.socketOpen.trans first.socketOpen⟩

theorem SameWatch.watched {after : HttpSession}
    (same : SameWatch session after) (watched : session.Watched) :
    after.Watched :=
  watched.congr same.timer same.closed

theorem SameWatch.canRead {after : HttpSession}
    (same : SameWatch session after) : after.CanRead ↔ session.CanRead := by
  rw [CanRead, same.socketOpen, same.timer]
  rfl

theorem answered_watch (session : HttpSession) (work : HttpResponse) :
    SameWatch session (session.answered work) := by
  rw [answered]
  split <;> exact ⟨rfl, rfl, rfl, rfl⟩

theorem answeredAll_watch (session : HttpSession)
    (works : List HttpResponse) :
    SameWatch session (session.answeredAll works) := by
  induction works generalizing session with
  | nil => exact ⟨rfl, rfl, rfl, rfl⟩
  | cons work works induction =>
      exact (session.answered_watch work).trans
        (induction (session.answered work))

theorem replied_watch (session : HttpSession) (work : HttpResponse) :
    SameWatch session (session.replied work) := by
  rw [replied]
  split
  · exact session.answered_watch work
  · exact ⟨rfl, rfl, rfl, rfl⟩

theorem handled_watch (session : HttpSession) (handling : HandlerRun) :
    SameWatch session (session.handled handling) := by
  obtain ⟨timer, closed, reads, socketOpen⟩ :=
    (session.called handling).answeredAll_watch handling.replies
  exact ⟨timer, closed, reads, socketOpen⟩

theorem advanced_watch (session : HttpSession) :
    SameWatch session session.advanced := by
  rw [advanced]
  split <;> exact ⟨rfl, rfl, rfl, rfl⟩

theorem advanced_items (session : HttpSession) :
    session.advanced.items = session.items.popFront := by
  rw [advanced]
  split <;> rfl

theorem Watched.advanced (watched : session.Watched) :
    session.advanced.Watched :=
  session.advanced_watch.watched watched

theorem Watched.afterReadFailed (watched : session.Watched)
    (error : ReadError) : (session.afterReadFailed error).Watched := by
  cases error with
  | endOfStream => exact watched.shutDown
  | code ec =>
      cases ec with
      | operationAborted => exact watched
      | closed => exact (watched.report _).shutDown
      | other value => exact (watched.report _).shutDown

theorem Watched.afterRequest (watched : session.Watched)
    (server : HttpServer) (handling : HandlerRun) (connecting : ConnectRun) :
    (session.afterRequest server handling connecting).Watched := by
  rw [HttpSession.afterRequest, afterConnect, afterHandling]
  split
  · have connected : (session.handedOver connecting).Watched :=
      watched.congr rfl rfl
    split
    · exact connected.congr rfl rfl
    · exact connected.shutDown
  · have handled : (session.handled handling).Watched :=
      (session.handled_watch handling).watched watched
    split
    · exact handled.congr rfl rfl
    · split
      · exact handled.shutDown
      · exact handled.resumed

theorem Watched.afterWrite (watched : session.Watched) (close : Bool)
    (ec : Option ErrorCode) : (session.afterWrite close ec).Watched := by
  cases ec with
  | some ec =>
      cases ec with
      | operationAborted => exact watched
      | closed => exact (watched.report _).shutDown
      | other value => exact (watched.report _).shutDown
  | none =>
      rw [HttpSession.afterWrite]
      split
      · exact watched.shutDown
      · split
        · exact watched.advanced.resumed
        · exact watched.advanced

theorem Watched.unlocked (watched : session.Watched) :
    session.unlocked.Watched :=
  watched.congr rfl rfl

/-- The handler of a wait that is not aborted closes the session. -/
theorem Watched.afterTimer {timer : WaitableTimer} {ec : Option ErrorCode}
    (watched : session.Watched)
    (taken : session.timer.take? (ec = some .operationAborted) =
      some timer) :
    (({ session with timer := timer } : HttpSession).afterTimer
      ec).Watched := by
  obtain ⟨-, live, pending⟩ := WaitableTimer.take?_eq_some taken
  have once := watched.once
  by_cases aborted : ec = some .operationAborted
  · rw [if_pos (decide_eq_true aborted), Nat.add_zero] at live
    subst aborted
    constructor
    · exact live ▸ once
    · exact fun notClosed => live ▸ watched.armed notClosed
    · exact fun isClosed => pending.trans (watched.quiet isClosed)
  · rw [if_neg (by simpa using aborted)] at live
    have none_live : timer.live = 0 := by omega
    have closes : ∀ other : HttpSession, other.closed = true →
        other.timer = timer → other.Watched := by
      intro other isClosed sameTimer
      constructor
      · rw [sameTimer, none_live]
        exact Nat.zero_le 1
      · intro notClosed
        exact absurd (notClosed.symm.trans isClosed) Bool.false_ne_true
      · intro _
        rw [sameTimer]
        exact Nat.eq_zero_of_add_eq_zero_right none_live
    cases ec with
    | none => exact closes _ rfl rfl
    | some ec =>
        cases ec with
        | operationAborted => exact absurd rfl aborted
        | closed => exact closes _ rfl rfl
        | other value => exact closes _ rfl rfl

variable {server : HttpServer}

theorem Watched.step {event : HttpEvent} {next : HttpSession}
    (watched : session.Watched) (counted : session.Counted 0)
    (stepped : session.step server event = some next) : next.Watched := by
  cases event with
  | requestRead wire handling connecting =>
      obtain ⟨-, rfl⟩ := step_requestRead counted stepped
      have received : (session.received wire).Watched :=
        watched.congr rfl rfl
      exact (received.afterRequest server handling connecting).unlocked
  | readFailed error =>
      obtain ⟨-, rfl⟩ := step_readFailed stepped
      have failed : Watched { session with reads := session.reads - 1 } :=
        watched.congr rfl rfl
      exact (failed.afterReadFailed error).unlocked
  | writeDone ec =>
      obtain ⟨work, works, -, rfl⟩ := step_writeDone counted stepped
      have wrote : (session.wrote work ec).Watched := watched.congr rfl rfl
      exact (wrote.afterWrite work.needEof ec).unlocked
  | timerExpired =>
      obtain ⟨timer, expires, rfl⟩ := step_timerExpired stepped
      obtain ⟨live, -⟩ := WaitableTimer.expire?_eq_some expires
      have pending := WaitableTimer.expire?_pending expires
      constructor
      · exact live ▸ watched.once
      · exact fun notClosed => live ▸ watched.armed notClosed
      · intro isClosed
        exact absurd (watched.quiet isClosed) (pending ▸ Nat.succ_ne_zero _)
  | timerDone ec =>
      obtain ⟨timer, taken, rfl⟩ := step_timerDone stepped
      exact (watched.afterTimer taken).unlocked
  | doClose =>
      rw [step_doClose stepped]
      exact watched.shutDown
  | lateReply work =>
      obtain ⟨-, rfl⟩ := step_lateReply stepped
      exact (session.replied_watch work).watched watched

theorem started_watched : started.Watched := by
  constructor <;> decide

theorem reachable_watched {admits : HttpSession → HttpEvent → Prop}
    (reached : (httpMachine server).ReachableUnder admits session) :
    session.Watched :=
  reachable_invariant Watched started_watched
    (fun _ _ _ earlier watched _ stepped =>
      watched.step (reachable_counted earlier) stepped)
    reached

/-! ## A closed session -/

/-- Neither a read nor a wait has been started in between. -/
structure Untouched (before after : HttpSession) : Prop where
  closed : after.closed = true
  reads : after.history.readsStarted = before.history.readsStarted
  waits : after.history.waitsStarted = before.history.waitsStarted

theorem Untouched.trans {before middle after : HttpSession}
    (first : Untouched before middle) (second : Untouched middle after) :
    Untouched before after :=
  ⟨second.closed, second.reads.trans first.reads,
    second.waits.trans first.waits⟩

theorem resumed_eq_self (quiet : session.timer.pending = 0) :
    session.resumed = session := by
  rw [resumed, if_neg]
  rintro ⟨-, pending⟩
  exact Nat.ne_of_gt pending quiet

theorem answered_untouched (isClosed : session.closed = true)
    (work : HttpResponse) : Untouched session (session.answered work) := by
  rw [answered]
  split <;> exact ⟨isClosed, rfl, rfl⟩

theorem answeredAll_untouched (isClosed : session.closed = true)
    (works : List HttpResponse) :
    Untouched session (session.answeredAll works) := by
  induction works generalizing session with
  | nil => exact ⟨isClosed, rfl, rfl⟩
  | cons work works induction =>
      have first := answered_untouched isClosed work
      exact first.trans (induction first.closed)

theorem replied_untouched (isClosed : session.closed = true)
    (work : HttpResponse) : Untouched session (session.replied work) := by
  rw [replied]
  split
  · exact answered_untouched isClosed work
  · exact ⟨isClosed, rfl, rfl⟩

theorem advanced_untouched (isClosed : session.closed = true) :
    Untouched session session.advanced := by
  rw [advanced]
  split <;> exact ⟨isClosed, rfl, rfl⟩

theorem afterRequest_untouched (isClosed : session.closed = true)
    (quiet : session.timer.pending = 0) (server : HttpServer)
    (handling : HandlerRun) (connecting : ConnectRun) :
    Untouched session
      (session.afterRequest server handling connecting) := by
  rw [afterRequest, afterConnect, afterHandling]
  split
  · split
    · exact ⟨isClosed, rfl, rfl⟩
    · exact ⟨rfl, rfl, rfl⟩
  · have called : (session.called handling).closed = true := isClosed
    obtain ⟨closed, reads, waits⟩ :=
      answeredAll_untouched called handling.replies
    have handled : Untouched session (session.handled handling) :=
      ⟨closed, reads, waits⟩
    split
    · exact ⟨closed, reads, waits⟩
    · split
      · exact ⟨rfl, reads, waits⟩
      · have stillQuiet : (session.handled handling).timer.pending = 0 := by
          rw [(session.handled_watch handling).timer, quiet]
        rw [resumed_eq_self stillQuiet]
        exact handled

theorem afterWrite_untouched (isClosed : session.closed = true)
    (quiet : session.timer.pending = 0) (close : Bool)
    (ec : Option ErrorCode) :
    Untouched session (session.afterWrite close ec) := by
  cases ec with
  | some ec =>
      cases ec with
      | operationAborted => exact ⟨isClosed, rfl, rfl⟩
      | closed => exact ⟨rfl, rfl, rfl⟩
      | other value => exact ⟨rfl, rfl, rfl⟩
  | none =>
      have advanced := advanced_untouched isClosed
      have stillQuiet : session.advanced.timer.pending = 0 := by
        rw [session.advanced_watch.timer, quiet]
      rw [afterWrite, resumed_eq_self stillQuiet, ite_self]
      split
      · exact ⟨rfl, rfl, rfl⟩
      · exact advanced

/-- No step of a closed session reads or arms the timer. -/
theorem step_untouched {event : HttpEvent} {next : HttpSession}
    (watched : session.Watched) (counted : session.Counted 0)
    (isClosed : session.closed = true)
    (stepped : session.step server event = some next) :
    Untouched session next := by
  have quiet := watched.quiet isClosed
  cases event with
  | requestRead wire handling connecting =>
      obtain ⟨-, rfl⟩ := step_requestRead counted stepped
      have received : (session.received wire).closed = true := isClosed
      obtain ⟨closed, reads, waits⟩ :=
        afterRequest_untouched received quiet server handling connecting
      exact ⟨closed, reads, waits⟩
  | readFailed error =>
      obtain ⟨-, rfl⟩ := step_readFailed stepped
      cases error with
      | endOfStream => exact ⟨rfl, rfl, rfl⟩
      | code ec =>
          cases ec with
          | operationAborted => exact ⟨isClosed, rfl, rfl⟩
          | closed => exact ⟨rfl, rfl, rfl⟩
          | other value => exact ⟨rfl, rfl, rfl⟩
  | writeDone ec =>
      obtain ⟨work, -, -, rfl⟩ := step_writeDone counted stepped
      have wrote : (session.wrote work ec).closed = true := isClosed
      obtain ⟨closed, reads, waits⟩ :=
        afterWrite_untouched wrote quiet work.needEof ec
      exact ⟨closed, reads, waits⟩
  | timerExpired =>
      obtain ⟨timer, -, rfl⟩ := step_timerExpired stepped
      exact ⟨isClosed, rfl, rfl⟩
  | timerDone ec =>
      obtain ⟨timer, -, rfl⟩ := step_timerDone stepped
      cases ec with
      | none => exact ⟨rfl, rfl, rfl⟩
      | some ec =>
          cases ec with
          | operationAborted => exact ⟨isClosed, rfl, rfl⟩
          | closed => exact ⟨rfl, rfl, rfl⟩
          | other value => exact ⟨rfl, rfl, rfl⟩
  | doClose =>
      rw [step_doClose stepped]
      exact ⟨rfl, rfl, rfl⟩
  | lateReply work =>
      obtain ⟨-, rfl⟩ := step_lateReply stepped
      exact replied_untouched isClosed work

/-- Nor does any run of a closed session. -/
theorem run_untouched {events : List HttpEvent} {last : HttpSession}
    (reached : (httpMachine server).Reachable session)
    (isClosed : session.closed = true)
    (ran : (httpMachine server).run session events = some last) :
    Untouched session last := by
  induction events generalizing session with
  | nil =>
      cases ran
      exact ⟨isClosed, rfl, rfl⟩
  | cons event events induction =>
      obtain ⟨next, stepped, rest⟩ := Option.bind_eq_some_iff.mp ran
      have first := step_untouched (reachable_watched reached)
        (reachable_counted reached) isClosed stepped
      exact first.trans
        (induction (.step reached trivial stepped) first.closed rest)

/-! ## Reads -/

theorem resumed_reads (can : session.CanRead) :
    session.resumed.reads = session.reads + 1 := by
  have both : session.socketOpen = true ∧ 0 < session.timer.pending := can
  rw [resumed, if_pos both]
  rfl

theorem resumed_of_cannot (cannot : ¬session.CanRead) :
    session.resumed = session :=
  if_neg cannot

theorem resumed_reads_le (session : HttpSession) :
    session.resumed.reads ≤ session.reads + 1 := by
  by_cases can : session.CanRead
  · exact Nat.le_of_eq (resumed_reads can)
  · rw [resumed_of_cannot can]
    exact Nat.le_succ _

theorem resumed_items (session : HttpSession) :
    session.resumed.items = session.items := by
  rw [resumed]
  split <;> rfl

theorem resumed_canRead (can : session.resumed.CanRead) :
    session.CanRead := by
  by_contra cannot
  rw [resumed_of_cannot cannot] at can
  exact cannot can

theorem shutDown_cannot (session : HttpSession) : ¬session.shutDown.CanRead :=
  fun can => Nat.lt_irrefl 0 can.2

theorem cutOff_cannot (session : HttpSession) : ¬session.cutOff.CanRead :=
  fun can => Bool.false_ne_true can.1

theorem afterReadFailed_watch (session : HttpSession) (error : ReadError) :
    (session.afterReadFailed error).reads = session.reads ∧
      (session.afterReadFailed error).items = session.items := by
  cases error with
  | endOfStream => exact ⟨rfl, rfl⟩
  | code ec => cases ec <;> exact ⟨rfl, rfl⟩

theorem afterTimer_watch (session : HttpSession) (ec : Option ErrorCode) :
    (session.afterTimer ec).reads = session.reads ∧
      (session.afterTimer ec).items = session.items := by
  cases ec with
  | none => exact ⟨rfl, rfl⟩
  | some ec => cases ec <;> exact ⟨rfl, rfl⟩

/-- The read handler reads on if the queue is not full. -/
theorem afterRequest_reads (session : HttpSession) (server : HttpServer)
    (handling : HandlerRun) (connecting : ConnectRun) :
    (session.afterRequest server handling connecting).reads =
        session.reads ∨
      (session.afterRequest server handling connecting).reads ≤
          session.reads + 1 ∧
        (session.afterRequest server handling
          connecting).items.items.length < 64 := by
  rw [afterRequest, afterConnect, afterHandling]
  split
  · left
    split <;> rfl
  · have reads := (session.handled_watch handling).reads
    split
    · exact .inl reads
    · split
      · exact .inl reads
      · next notFull =>
          right
          rw [RingBuffer.isFull_iff, Nat.not_le] at notFull
          rw [resumed_items]
          exact ⟨reads ▸ resumed_reads_le _, notFull⟩

/-- A session that can read after a request reads on, unless what the request
was passed to threw. -/
theorem afterRequest_canRead {server : HttpServer} {handling : HandlerRun}
    {connecting : ConnectRun}
    (can : (session.afterRequest server handling connecting).CanRead) :
    session.CanRead ∧
      (session.afterRequest server handling connecting).reads +
          (if session.Upgrades server then connecting.throws
            else handling.throws).toNat =
        session.reads + 1 := by
  rw [afterRequest, afterConnect, afterHandling] at can ⊢
  by_cases upgrades : session.Upgrades server
  · simp only [if_pos upgrades] at can ⊢
    cases throws : connecting.throws with
    | true =>
        rw [throws, if_pos rfl] at can
        obtain ⟨socketOpen, pending⟩ := can
        exact ⟨⟨(Bool.and_eq_true_iff.mp socketOpen).1, pending⟩, rfl⟩
    | false =>
        rw [throws, if_neg Bool.false_ne_true] at can
        exact absurd can (shutDown_cannot _)
  · simp only [if_neg upgrades] at can ⊢
    have same := session.handled_watch handling
    cases throws : handling.throws with
    | true =>
        rw [throws, if_pos rfl] at can
        have stillCan : (session.handled handling).CanRead := can
        exact ⟨same.canRead.mp stillCan, congrArg (· + 1) same.reads⟩
    | false =>
        rw [throws, if_neg Bool.false_ne_true] at can
        cases full : (session.handled handling).items.isFull with
        | true =>
            rw [full, if_pos rfl] at can
            exact absurd can (shutDown_cannot _)
        | false =>
            rw [full, if_neg Bool.false_ne_true] at can
            have handled := resumed_canRead can
            refine ⟨same.canRead.mp handled, ?_⟩
            simp only [Bool.false_eq_true, if_false, Bool.toNat_false]
            rw [resumed_reads handled, same.reads]

/-- A write leads to a read where it has made room in a full queue. -/
theorem afterWrite_reads (full : session.items.isFull = true)
    (can : session.CanRead) :
    (session.afterWrite false none).reads = session.reads + 1 := by
  have same := session.advanced_watch
  simp only [afterWrite, Bool.false_eq_true, if_false, full, if_true]
  rw [resumed_reads (same.canRead.mpr can), same.reads]

theorem afterWrite_reads_of_not {close : Bool} {ec : Option ErrorCode}
    (stays : ¬(ec = none ∧ close = false ∧ session.items.isFull = true ∧
      session.CanRead)) :
    (session.afterWrite close ec).reads = session.reads := by
  cases ec with
  | some ec => cases ec <;> rfl
  | none =>
      have same := session.advanced_watch
      rw [afterWrite]
      split
      · rfl
      · next notLast =>
          split
          · next full =>
              have cannot : ¬session.advanced.CanRead := fun can =>
                stays ⟨rfl, Bool.eq_false_iff.mpr notLast, full,
                  same.canRead.mp can⟩
              rw [resumed_of_cannot cannot, same.reads]
          · exact same.reads

theorem afterWrite_canRead {close : Bool} {ec : Option ErrorCode}
    (can : (session.afterWrite close ec).CanRead) : session.CanRead := by
  cases ec with
  | some ec =>
      cases ec with
      | operationAborted => exact can
      | closed => exact absurd can (shutDown_cannot _)
      | other value => exact absurd can (shutDown_cannot _)
  | none =>
      have same := session.advanced_watch
      rw [afterWrite] at can
      split at can
      · exact absurd can (shutDown_cannot _)
      · split at can
        · exact same.canRead.mp (resumed_canRead can)
        · exact same.canRead.mp can

theorem afterReadFailed_canRead {error : ReadError}
    (can : (session.afterReadFailed error).CanRead) : session.CanRead := by
  cases error with
  | endOfStream => exact absurd can (shutDown_cannot _)
  | code ec =>
      cases ec with
      | operationAborted => exact can
      | closed => exact absurd can (shutDown_cannot _)
      | other value => exact absurd can (shutDown_cannot _)

theorem afterTimer_canRead {ec : Option ErrorCode}
    (can : (session.afterTimer ec).CanRead) : session.CanRead := by
  cases ec with
  | none => exact absurd can (cutOff_cannot _)
  | some ec =>
      cases ec with
      | operationAborted => exact can
      | closed => exact absurd can (cutOff_cannot _)
      | other value => exact absurd can (cutOff_cannot _)

/-- A write takes an entry from the queue or leaves everything to others. -/
theorem afterWrite_items (session : HttpSession) (close : Bool)
    (ec : Option ErrorCode) :
    (session.afterWrite close ec).reads = session.reads ∧
        (session.afterWrite close ec).items = session.items ∨
      (session.afterWrite close ec).items = session.items.popFront := by
  cases ec with
  | some ec => cases ec <;> exact .inl ⟨rfl, rfl⟩
  | none =>
      have items := session.advanced_items
      rw [afterWrite]
      split
      · exact .inl ⟨rfl, rfl⟩
      · right
        split
        · rw [resumed_items, items]
        · exact items

theorem resumesReading_iff {work : HttpResponse} {works : List HttpResponse}
    (writing : session.writing = work :: works) (ec : Option ErrorCode) :
    session.resumesReading (.writeDone ec) = true ↔
      ec = none ∧ work.needEof = false ∧ session.items.isFull = true ∧
        session.CanRead := by
  cases ec with
  | some ec => exact iff_of_false nofun nofun
  | none =>
      simp only [resumesReading, writing, List.head?_cons, Option.all_some,
        Bool.and_eq_true, decide_eq_true_eq, Bool.not_eq_eq_eq_not,
        Bool.not_true, true_and]
      exact ⟨fun ⟨⟨full, can⟩, alive⟩ => ⟨alive, full, can⟩,
        fun ⟨alive, full, can⟩ => ⟨⟨full, can⟩, alive⟩⟩

theorem resumes_eq_true {event : HttpEvent}
    (resumes : session.resumesReading event = true) :
    event = .writeDone none ∧ session.items.isFull = true ∧
      session.CanRead := by
  cases event with
  | writeDone ec =>
      cases ec with
      | some ec => cases resumes
      | none =>
          simp only [resumesReading, Bool.and_eq_true,
            decide_eq_true_eq] at resumes
          exact ⟨rfl, resumes.1⟩
  | requestRead _ _ _ | readFailed _ | timerExpired | timerDone _ | doClose
  | lateReply _ => cases resumes

theorem stopsReading_of_resumes {server : HttpServer} {event : HttpEvent}
    (resumes : session.resumesReading event = true) :
    session.stopsReading server event = false := by
  obtain ⟨rfl, -⟩ := resumes_eq_true resumes
  rfl

/-- What a step does to the reads: only a resuming write adds one, and as
long as the session can read, only a stopping step takes one away. -/
structure ReadsOn (server : HttpServer) (session : HttpSession)
    (event : HttpEvent) (next : HttpSession) : Prop where
  resumes : session.resumesReading event = true →
    next.reads = session.reads + 1
  bounded : session.resumesReading event = false →
    next.reads ≤ session.reads
  goesOn : session.resumesReading event = false → next.CanRead →
    session.CanRead ∧
      next.reads + (session.stopsReading server event).toNat = session.reads

theorem ReadsOn.of_same {event : HttpEvent} {next : HttpSession}
    (stays : session.resumesReading event = false)
    (goesOn : session.stopsReading server event = false)
    (reads : next.reads = session.reads)
    (canRead : next.CanRead → session.CanRead) :
    ReadsOn server session event next := by
  refine ⟨fun resumes => ?_, fun _ => Nat.le_of_eq reads,
    fun _ can => ⟨canRead can, ?_⟩⟩
  · rw [stays] at resumes
    cases resumes
  · rw [goesOn, reads]
    rfl

theorem step_readsOn {event : HttpEvent} {next : HttpSession}
    (counted : session.Counted 0)
    (stepped : session.step server event = some next) :
    ReadsOn server session event next := by
  cases event with
  | requestRead wire handling connecting =>
      obtain ⟨reading, rfl⟩ := step_requestRead counted stepped
      have received : (session.received wire).reads = session.reads - 1 := rfl
      refine ⟨nofun, fun _ => ?_, fun _ can => ?_⟩
      · rcases (session.received wire).afterRequest_reads server handling
          connecting with same | ⟨most, -⟩
        · exact Nat.le_trans (Nat.le_of_eq same) (by omega)
        · exact Nat.le_trans most (by omega)
      · obtain ⟨canRead, reads⟩ := afterRequest_canRead can
        exact ⟨canRead, reads.trans (by omega)⟩
  | readFailed error =>
      obtain ⟨reading, rfl⟩ := step_readFailed stepped
      obtain ⟨reads, -⟩ := afterReadFailed_watch
        { session with reads := session.reads - 1 } error
      refine ⟨nofun, fun _ => ?_, fun _ can => ?_⟩
      · exact Nat.le_trans (Nat.le_of_eq reads) (Nat.sub_le _ _)
      · have canRead : CanRead { session with reads := session.reads - 1 } :=
          afterReadFailed_canRead can
        exact ⟨canRead,
          (congrArg (· + 1) reads).trans (Nat.sub_add_cancel reading)⟩
  | writeDone ec =>
      obtain ⟨work, works, writing, rfl⟩ := step_writeDone counted stepped
      have resumes := resumesReading_iff writing ec
      by_cases reads : session.resumesReading (.writeDone ec) = true
      · obtain ⟨rfl, goesOn, full, can⟩ := resumes.mp reads
        refine ⟨fun _ => ?_, fun stays => ?_, fun stays => ?_⟩
        · have wrote : ((session.wrote work none).afterWrite false
              none).unlocked.reads = session.reads + 1 :=
            afterWrite_reads full can
          rw [goesOn, wrote]
        all_goals
          rw [reads] at stays
          cases stays
      · have stays := mt resumes.mpr reads
        have wrote : ((session.wrote work ec).afterWrite work.needEof
            ec).unlocked.reads = session.reads :=
          afterWrite_reads_of_not stays
        refine .of_same (Bool.eq_false_iff.mpr reads) rfl wrote fun can => ?_
        have canRead : (session.wrote work ec).CanRead :=
          afterWrite_canRead can
        exact canRead
  | timerExpired =>
      obtain ⟨timer, expires, rfl⟩ := step_timerExpired stepped
      have pending := WaitableTimer.expire?_pending expires
      refine .of_same rfl rfl rfl fun can => ⟨can.1, ?_⟩
      rw [pending]
      exact Nat.succ_pos _
  | timerDone ec =>
      obtain ⟨timer, taken, rfl⟩ := step_timerDone stepped
      obtain ⟨-, -, pending⟩ := WaitableTimer.take?_eq_some taken
      obtain ⟨reads, -⟩ := afterTimer_watch
        { session with timer := timer } ec
      refine .of_same rfl rfl reads fun can => ?_
      have canRead : CanRead { session with timer := timer } :=
        afterTimer_canRead can
      obtain ⟨socketOpen, some_pending⟩ := canRead
      exact ⟨socketOpen, pending ▸ some_pending⟩
  | doClose =>
      rw [step_doClose stepped]
      exact .of_same rfl rfl rfl fun can => absurd can (shutDown_cannot _)
  | lateReply work =>
      obtain ⟨-, rfl⟩ := step_lateReply stepped
      have same := session.replied_watch work
      exact .of_same rfl rfl same.reads same.canRead.mp

/-- A second read is started just by a write that resumes the reading where
it goes on. -/
theorem step_reads_le_one_iff {event : HttpEvent} {next : HttpSession}
    (counted : session.Counted 0) (single : session.reads ≤ 1)
    (stepped : session.step server event = some next) :
    next.reads ≤ 1 ↔
      (session.resumesReading event = true → session.reads = 0) := by
  have readsOn := step_readsOn counted stepped
  cases resumes : session.resumesReading event with
  | true =>
      have reads := readsOn.resumes resumes
      rw [imp_iff_right rfl]
      omega
  | false =>
      have most := readsOn.bounded resumes
      exact iff_of_true (Nat.le_trans most single) nofun

/-- What a session owes its clients and its server: reads and live waits
never pile up, a session that is not closed is watched by one live wait, and
a closed one is left to drain. -/
structure Timed (server : HttpServer) (session : HttpSession) : Prop where
  single : session.reads ≤ 1
  once : session.timer.live ≤ 1
  watched : session.closed = true ∨ session.timer.live = 1
  drains : session.closed = true → ∀ events last,
    (httpMachine server).run session events = some last →
    Untouched session last

theorem timed_iff (reached : (httpMachine server).Reachable session) :
    session.Timed server ↔ session.reads ≤ 1 := by
  have watched := reachable_watched reached
  refine ⟨Timed.single, fun single => ⟨single, watched.once, ?_, ?_⟩⟩
  · rw [← Bool.not_eq_false, ← imp_iff_not_or]
    exact watched.armed
  · intro isClosed events last ran
    exact run_untouched reached isClosed ran

/-! ## Runs with their past -/

theorem paused_cons (taken : HttpSession × HttpEvent)
    (past : List (HttpSession × HttpEvent)) :
    paused server (taken :: past) =
      if taken.1.stopsReading server taken.2 ||
          taken.1.resumesReading taken.2 then
        taken.1.stopsReading server taken.2
      else paused server past := by
  rw [paused, List.find?_cons]
  cases taken.1.stopsReading server taken.2 ||
    taken.1.resumesReading taken.2 <;> rfl

/-- A session that can read awaits a request, unless the reading is
paused. -/
def ReadsKnown (server : HttpServer)
    (recorded : HttpSession × List (HttpSession × HttpEvent)) : Prop :=
  (httpMachine server).Reachable recorded.1 ∧
    (recorded.1.CanRead →
      recorded.1.reads = (!paused server recorded.2).toNat)

section

variable {before after : HttpSession × List (HttpSession × HttpEvent)}
  {event : HttpEvent}

theorem step_readsKnown (known : ReadsKnown server before)
    (stillSingle : after.1.reads ≤ 1)
    (stepped : (httpMachine server).recording.step before event =
      some after) : ReadsKnown server after := by
  obtain ⟨reached, reads⟩ := known
  obtain ⟨isNext, past⟩ := Machine.recording_step stepped
  have readsOn := step_readsOn (reachable_counted reached) isNext
  refine ⟨.step reached trivial isNext, fun can => ?_⟩
  rw [past, paused_cons]
  cases resumes : before.1.resumesReading event with
  | true =>
      have reads := readsOn.resumes resumes
      rw [stopsReading_of_resumes resumes]
      simp only [Bool.or_true, if_true, Bool.not_false, Bool.toNat_true]
      omega
  | false =>
      obtain ⟨canRead, goesOn⟩ := readsOn.goesOn resumes can
      rw [reads canRead] at goesOn
      cases stops : before.1.stopsReading server event with
      | true =>
          have most := Bool.toNat_le (!paused server before.2)
          simp only [stops, Bool.toNat_true] at goesOn
          simp only [Bool.true_or, if_true, Bool.not_true, Bool.toNat_false]
          omega
      | false =>
          rw [stops] at goesOn
          exact goesOn

theorem step_reads_le_one_iff_paused (known : ReadsKnown server before)
    (single : before.1.reads ≤ 1)
    (stepped : (httpMachine server).recording.step before event =
      some after) :
    after.1.reads ≤ 1 ↔ ResumesPaused server before event := by
  obtain ⟨reached, reads⟩ := known
  obtain ⟨isNext, -⟩ := Machine.recording_step stepped
  rw [step_reads_le_one_iff (reachable_counted reached) single isNext]
  refine imp_congr_right fun resumes => ?_
  obtain ⟨-, -, canRead⟩ := resumes_eq_true resumes
  rw [reads canRead]
  cases paused server before.2 <;> decide

end

/-- A session is timed out and drained in all states of exactly those runs
in which a write resumes the reading only where it is paused. -/
theorem timeout_iff {events : List HttpEvent} {last : HttpSession}
    (ran : (httpMachine server).run started events = some last) :
    (httpMachine server).Throughout (Timed server) started events ↔
      (httpMachine server).recording.Admitted (ResumesPaused server)
        (started, []) events := by
  have start : (httpMachine server).Reachable started := .initial rfl
  obtain ⟨past, recorded⟩ := Machine.recording_run ran []
  rw [← Machine.recording_throughout []]
  refine Machine.throughout_iff_admitted (ReadsKnown server)
    (fun recorded => recorded.1.Timed server) ?_ ?_
    (Machine.admitted_true (started, []) events) recorded
    ⟨start, fun _ => rfl⟩ ((timed_iff start).mpr (Nat.le_refl _))
  · intro before event after known _ _ timed stepped
    exact step_readsKnown known timed.single stepped
  · intro before event after known _ timed stepped
    have isNext := (Machine.recording_step stepped).1
    rw [timed_iff (.step known.1 trivial isNext)]
    exact step_reads_le_one_iff_paused known timed.single stepped

/-- A request that the handler answers later. -/
def unanswered : HttpEvent :=
  .requestRead ⟨"GET", "/", 11, [], []⟩ ⟨[], none, false⟩ ⟨false, none, false⟩

/-- While the 65th request is awaited, the handler of another session answers
the 64 requests before it, and the first response is written. -/
def answeredLate : List HttpEvent :=
  List.replicate 64 unanswered ++
    List.replicate 64 (.lateReply ⟨[1], false⟩) ++ [.writeDone none]

set_option maxRecDepth 20000 in
/-- The write that made room starts a second read beside the first. -/
theorem not_timed_late :
    ∃ session, (httpMachine plainServer).run started answeredLate =
        some session ∧
      session.history.handled.length = 64 ∧
      session.history.overwritten = [] ∧ session.reads = 2 ∧
      ¬session.Timed plainServer := by
  refine ⟨_, rfl, rfl, rfl, rfl, fun timed => ?_⟩
  exact absurd timed.single (by decide)

/-- The handler of the 64th request throws, the 64 requests are answered
late, and the first response is written. -/
def pausedBefore : List HttpEvent :=
  List.replicate 63 unanswered ++
    [.requestRead ⟨"GET", "/", 11, [], []⟩ ⟨[], none, true⟩
      ⟨false, none, false⟩] ++
    List.replicate 64 (.lateReply ⟨[1], false⟩) ++ [.writeDone none]

set_option maxRecDepth 20000 in
/-- The write that made room resumes the reading. -/
theorem timeout_iff_paused :
    ∃ last, (httpMachine plainServer).run started pausedBefore = some last ∧
      last.history.handled.length = 64 ∧ last.reads = 1 ∧
      (httpMachine plainServer).Throughout (Timed plainServer) started
        pausedBefore := by
  have ran : ∃ last, (httpMachine plainServer).run started pausedBefore =
      some last ∧ last.history.handled.length = 64 ∧ last.reads = 1 :=
    ⟨_, rfl, rfl, rfl⟩
  obtain ⟨last, ran, handled, reads⟩ := ran
  refine ⟨last, ran, handled, reads, (timeout_iff ran).mpr ?_⟩
  have sound : ∀ recorded event,
      decide (ResumesPaused plainServer recorded event) = true →
        ResumesPaused plainServer recorded event :=
    fun _ _ => of_decide_eq_true
  exact Machine.admitted_of_checks sound (by decide +kernel)

/-! ## Responses that leave space -/

theorem Paced.idle_of_resumes (paced : session.Paced) {event : HttpEvent}
    (resumes : session.resumesReading event = true) : session.reads = 0 := by
  by_contra reading
  obtain ⟨-, full, -⟩ := resumes_eq_true resumes
  have room := paced.room (Nat.pos_of_ne_zero reading)
  exact Nat.not_le_of_gt room ((RingBuffer.isFull_iff _).mp full)

theorem Paced.roomIn {after : HttpSession} (paced : session.Paced)
    (same : after.items = session.items) (reading : 0 < session.reads) :
    after.items.items.length < 64 := by
  rw [same]
  exact paced.room reading

theorem replied_items (session : HttpSession) (work : HttpResponse) :
    (session.replied work).items = session.items.pushBack work := by
  rw [replied, answered]
  split
  · split <;> rfl
  · rfl

theorem Paced.step {event : HttpEvent} {next : HttpSession}
    (paced : session.Paced) (counted : session.Counted 0)
    (space : session.LeavesSpace event)
    (stepped : session.step server event = some next) : next.Paced := by
  have single := (step_reads_le_one_iff counted paced.single stepped).mpr
    paced.idle_of_resumes
  refine ⟨single, ?_⟩
  cases event with
  | requestRead wire handling connecting =>
      obtain ⟨reading, rfl⟩ := step_requestRead counted stepped
      have once := paced.single
      have received : (session.received wire).reads = session.reads - 1 := rfl
      intro stillReading
      rcases (session.received wire).afterRequest_reads server handling
        connecting with same | ⟨-, room⟩
      · have none_left : ((session.received wire).afterRequest server handling
            connecting).reads = 0 := by omega
        exact absurd none_left (Nat.ne_of_gt stillReading)
      · exact room
  | readFailed error =>
      obtain ⟨reading, rfl⟩ := step_readFailed stepped
      obtain ⟨-, items⟩ := afterReadFailed_watch
        { session with reads := session.reads - 1 } error
      exact fun _ => paced.roomIn items reading
  | writeDone ec =>
      obtain ⟨work, works, -, rfl⟩ := step_writeDone counted stepped
      intro stillReading
      rcases (session.wrote work ec).afterWrite_items work.needEof ec with
        ⟨reads, items⟩ | items
      · exact paced.roomIn items (Nat.lt_of_lt_of_eq stillReading reads)
      · have shorter : ((session.wrote work ec).afterWrite work.needEof
            ec).unlocked.items = session.items.popFront := items
        have bounded := session.items.bounded
        rw [shorter, RingBuffer.popFront_items, List.length_tail]
        omega
  | timerExpired =>
      obtain ⟨timer, -, rfl⟩ := step_timerExpired stepped
      exact paced.room
  | timerDone ec =>
      obtain ⟨timer, -, rfl⟩ := step_timerDone stepped
      obtain ⟨reads, items⟩ := afterTimer_watch
        { session with timer := timer } ec
      exact fun stillReading =>
        paced.roomIn items (Nat.lt_of_lt_of_eq stillReading reads)
  | doClose =>
      rw [step_doClose stepped]
      exact paced.room
  | lateReply work =>
      obtain ⟨-, rfl⟩ := step_lateReply stepped
      have room : session.items.items.length < 63 := space
      intro _
      rw [replied_items, RingBuffer.pushBack_length]
      omega

theorem started_paced : started.Paced := by
  constructor <;> decide

theorem reachable_paced {admits : HttpSession → HttpEvent → Prop}
    (space : ∀ before event, admits before event → before.LeavesSpace event)
    (reached : (httpMachine server).ReachableUnder admits session) :
    session.Paced :=
  reachable_invariant Paced started_paced
    (fun _ _ _ earlier paced admitted stepped =>
      paced.step (reachable_counted earlier) (space _ _ admitted) stepped)
    reached

/-- As long as no response that is sent late fills the queue, a session is
timed out and drained. -/
theorem timed_of_space
    (reached : (httpMachine server).ReachableUnder LeavesSpace session) :
    session.Timed server :=
  (timed_iff (reached.mono fun _ _ _ => trivial)).mpr
    (reachable_paced (fun _ _ => id) reached).single

end

end HttpSession

end Webservice
