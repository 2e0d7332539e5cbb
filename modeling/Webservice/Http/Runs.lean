import Webservice.Http.Step

/-!
# What the code of an HTTP session does

While a handler holds its lock, the code of the session neither fails to
make a lock nor throws by itself.  Each function is then a plain function of
the state, and each step of the session is one of them followed by the
release of the lock.
-/

namespace Webservice

namespace HttpSession

open Effects

/-! ## Operations -/

def locked (session : HttpSession) : HttpSession :=
  { session with locker :=
      { session.locker with lockCount := session.locker.lockCount + 1 } }

def timerStarted (session : HttpSession) : HttpSession :=
  { session.locked with
    timer := session.timer.asyncWait
    history :=
      { session.history with
        waitsStarted := session.history.waitsStarted + 1 } }

def timerCancelled (session : HttpSession) : HttpSession :=
  { session with timer := session.timer.cancel }

def readStarted (session : HttpSession) : HttpSession :=
  { session.locked with
    reads := session.reads + 1
    history :=
      { session.history with
        readsStarted := session.history.readsStarted + 1 } }

def writeStarted (session : HttpSession) (work : HttpResponse) :
    HttpSession :=
  { session.locked with
    writing := session.writing ++ [work]
    history :=
      { session.history with started := session.history.started ++ [work] } }

/-- After `do_close`. -/
def shutDown (session : HttpSession) : HttpSession :=
  { session with closed := true, timer := session.timer.cancel }

/-- After the handler of the timer has closed the socket. -/
def cutOff (session : HttpSession) : HttpSession :=
  { session with socketOpen := false, closed := true }

/-- After `do_read` has restarted the timer and started a read. -/
def restarted (session : HttpSession) : HttpSession :=
  session.timerCancelled.timerStarted.readStarted

/-- After `do_read`. -/
def resumed (session : HttpSession) : HttpSession :=
  if session.socketOpen = true ∧ 0 < session.timer.pending then
    session.restarted
  else session

/-- A response has entered the queue. -/
def pushed (session : HttpSession) (work : HttpResponse) : HttpSession :=
  { session with
    items := session.items.pushBack work
    history :=
      { session.history with
        responses := session.history.responses ++ [work]
        overwritten :=
          session.history.overwritten ++ session.items.overwritten } }

/-- After `reply`, if it could make a lock. -/
def answered (session : HttpSession) (work : HttpResponse) : HttpSession :=
  if session.items.items = [] then (session.pushed work).writeStarted work
  else session.pushed work

def answeredAll (session : HttpSession) (works : List HttpResponse) :
    HttpSession :=
  works.foldl answered session

/-- After `reply`.  Without a lock, nobody is left to make one of. -/
def replied (session : HttpSession) (work : HttpResponse) : HttpSession :=
  if 0 < session.locker.lockCount then session.answered work
  else session.pushed work

/-- The front of the queue has been removed. -/
def popped (session : HttpSession) : HttpSession :=
  { session with
    items := session.items.popFront
    history :=
      { session.history with
        emptyPops := session.history.emptyPops +
          session.items.isEmpty.toNat } }

/-- After `queue::on_write`. -/
def advanced (session : HttpSession) : HttpSession :=
  match session.items.items.tail with
  | [] => session.popped
  | next :: _ => session.popped.writeStarted next

/-- The request handler has been called. -/
def called (session : HttpSession) (handling : HandlerRun) : HttpSession :=
  { session with history :=
      { session.history with
        handled := session.history.handled ++
          [(session.req, handling.replies)] } }

/-- The request handler has returned or thrown. -/
def handled (session : HttpSession) (handling : HandlerRun) : HttpSession :=
  let answered := (session.called handling).answeredAll handling.replies
  { answered with req := handling.leaves.getD answered.req }

/-- `server_connect` has returned or thrown. -/
def handedOver (session : HttpSession) (connecting : ConnectRun) :
    HttpSession :=
  { session with
    socketOpen := session.socketOpen && !connecting.moves
    req := connecting.leaves.getD session.req
    history :=
      { session.history with
        handovers := session.history.handovers ++
          [{ writing := session.writing
             waiting := session.items.items.tail
             responses := session.history.responses
             started := session.history.started
             written := session.history.written }] } }

/-! ## Handlers -/

def afterTimer (session : HttpSession) : Option ErrorCode → HttpSession
  | some .operationAborted => session
  | some ec => (session.report (.systemError ec "http session timer")).cutOff
  | none => session.cutOff

def afterReadFailed (session : HttpSession) : ReadError → HttpSession
  | .code .operationAborted => session
  | .endOfStream => session.shutDown
  | .code ec => (session.report (.systemError ec "http session read")).shutDown

def afterConnect (session : HttpSession) (connecting : ConnectRun) :
    HttpSession :=
  if connecting.throws then
    (session.handedOver connecting).escape (.user "server_connect")
  else (session.handedOver connecting).shutDown

def afterHandling (session : HttpSession) (handling : HandlerRun) :
    HttpSession :=
  if handling.throws then
    (session.handled handling).escape (.user "request handler")
  else if (session.handled handling).items.isFull then
    (session.handled handling).shutDown
  else (session.handled handling).resumed

def afterRequest (server : HttpServer) (session : HttpSession)
    (handling : HandlerRun) (connecting : ConnectRun) : HttpSession :=
  if session.Upgrades server then session.afterConnect connecting
  else session.afterHandling handling

def afterWrite (session : HttpSession) (close : Bool) :
    Option ErrorCode → HttpSession
  | some .operationAborted => session
  | some ec => (session.report (.systemError ec "http session write")).shutDown
  | none =>
      if close then session.shutDown
      else if session.items.isFull then session.advanced.resumed
      else session.advanced

/-! ## The code runs as described -/

section

variable {session : HttpSession}

/-- Some handler holds a lock. -/
def Held (session : HttpSession) : Prop := 0 < session.locker.lockCount

theorem Held.locked (session : HttpSession) : session.locked.Held :=
  Nat.succ_pos _

theorem makeLock_run (held : session.Held) :
    makeLock session = .ok () session.locked := by
  rw [makeLock, AsyncLocker.makeLock_of_pos held]
  rfl

theorem doTimer_run (held : session.Held) :
    doTimer session = .ok () session.timerStarted := by
  rw [doTimer, bind_run_ok (makeLock_run held)]
  rfl

theorem asyncRead_run (held : session.Held) :
    asyncRead session = .ok () session.readStarted := by
  rw [asyncRead, bind_run_ok (makeLock_run held)]
  rfl

theorem timerCancelled_eq_self (none_pending : session.timer.pending = 0) :
    session.timerCancelled = session := by
  have same : session.timer.cancel = session.timer := by
    rw [WaitableTimer.cancel, none_pending, Nat.add_zero, ← none_pending]
  rw [timerCancelled, same]

theorem expiresAfter_run (session : HttpSession) :
    expiresAfter session =
      .ok session.timer.pending session.timerCancelled :=
  rfl

theorem doRead_run (held : session.Held) :
    doRead session = .ok () session.resumed := by
  rw [doRead, get_bind_run]
  by_cases socketOpen : session.socketOpen = true
  · rw [if_neg (not_not_intro socketOpen),
      bind_run_ok (expiresAfter_run session), resumed]
    by_cases pending : 0 < session.timer.pending
    · rw [if_neg (Nat.ne_of_gt pending), if_pos ⟨socketOpen, pending⟩]
      have waits : doTimer session.timerCancelled =
          .ok () session.timerCancelled.timerStarted :=
        doTimer_run held
      exact (bind_run_ok waits).trans (asyncRead_run (Held.locked _))
    · have none_pending := Nat.eq_zero_of_not_pos pending
      rw [if_pos none_pending, if_neg fun both => pending both.2,
        timerCancelled_eq_self none_pending]
      rfl
  · rw [if_pos socketOpen, resumed, if_neg fun both => socketOpen both.1]
    rfl

theorem startFront_run {work : HttpResponse} {works : List HttpResponse}
    (held : session.Held) (queue : session.items.items = work :: works) :
    startFront session = .ok () (session.writeStarted work) := by
  have front : session.items.front? = some work := by
    rw [RingBuffer.front?, queue, List.head?_cons]
  simp only [startFront, get_bind_run, front]
  rw [bind_run_ok (makeLock_run held)]
  rfl

theorem reply_run (held : session.Held) (work : HttpResponse) :
    reply work session = .ok () (session.answered work) := by
  rw [reply, modify_bind_run, response, modify_bind_run, get_bind_run,
    answered]
  by_cases empty : session.items.items = []
  · have queue : (session.items.pushBack work).items = [work] := by
      have room : session.items.isFull = false := by
        simp [RingBuffer.isFull, empty]
      rw [RingBuffer.pushBack_items room, empty, List.nil_append]
    have alone : (session.items.pushBack work).items.length = 1 := by
      rw [queue, List.length_singleton]
    rw [if_pos alone, if_pos empty]
    exact startFront_run held queue
  · have several : (session.items.pushBack work).items.length ≠ 1 := by
      have some_item := List.length_pos_iff.mpr empty
      rw [RingBuffer.pushBack_length]
      omega
    rw [if_neg several, if_neg empty]
    rfl

/-- A response that comes when all locks were released is not written: if
it is alone in the queue, `make_lock` throws. -/
theorem reply_after (session : HttpSession) (work : HttpResponse) :
    after (reply work) session = session.replied work := by
  rw [replied]
  by_cases held : 0 < session.locker.lockCount
  · rw [if_pos held]
    exact after_eq_of_ok (reply_run held work)
  rw [if_neg held]
  by_cases alone : (session.items.pushBack work).items.length = 1
  · have drained : session.locker.lockCount = 0 := Nat.eq_zero_of_not_pos held
    have throws : makeLock (session.pushed work) =
        .error (.runtimeError "async call after shutdown")
          (session.pushed work) := by
      have locker : (session.pushed work).locker.makeLock =
          .error (.runtimeError "async call after shutdown") :=
        AsyncLocker.makeLock_of_zero drained
      rw [makeLock, locker]
    obtain ⟨front, queue⟩ := List.length_eq_one_iff.mp alone
    have isFront : (session.pushed work).items.front? = some front := by
      rw [RingBuffer.front?, pushed, queue, List.head?_cons]
    apply after_eq_of_error
    rw [reply, modify_bind_run, response, modify_bind_run, get_bind_run]
    refine (if_pos alone ▸ rfl : _ = startFront (session.pushed work)).trans ?_
    simp only [startFront, get_bind_run, isFront]
    rw [bind_run, throws]
  · apply after_eq_of_ok
    rw [reply, modify_bind_run, response, modify_bind_run, get_bind_run,
      if_neg alone]
    rfl

theorem answered_lockCount (session : HttpSession) (work : HttpResponse) :
    session.locker.lockCount ≤ (session.answered work).locker.lockCount := by
  rw [answered]
  split
  · exact Nat.le_succ _
  · exact Nat.le_refl _

theorem Held.answered (held : session.Held) (work : HttpResponse) :
    (session.answered work).Held :=
  Nat.lt_of_lt_of_le held (session.answered_lockCount work)

theorem replyAll_run (held : session.Held) (works : List HttpResponse) :
    replyAll works session = .ok () (session.answeredAll works) ∧
      (session.answeredAll works).Held := by
  induction works generalizing session with
  | nil => exact ⟨rfl, held⟩
  | cons work works induction =>
      rw [replyAll, bind_run_ok (reply_run held work)]
      exact induction (held.answered work)

theorem queueOnWrite_pops (session : HttpSession) :
    queueOnWrite session =
      (do
        if ¬session.popped.items.isEmpty then startFront
        return session.items.isFull : HttpCode Bool) session.popped :=
  rfl

theorem queueOnWrite_run (held : session.Held) :
    queueOnWrite session = .ok session.items.isFull session.advanced ∧
      session.advanced.Held := by
  rw [queueOnWrite_pops]
  cases rest : session.items.items.tail with
  | nil =>
      have empty : session.popped.items.isEmpty = true :=
        (RingBuffer.isEmpty_iff _).mpr rest
      have same : session.advanced = session.popped := by
        simp only [advanced, rest]
      rw [same]
      refine ⟨?_, held⟩
      rw [if_neg (not_not_intro empty)]
      rfl
  | cons next others =>
      have some_item : ¬session.popped.items.isEmpty = true := by
        rw [RingBuffer.isEmpty_iff]
        exact fun none_left => List.cons_ne_nil _ _ (rest.symm.trans none_left)
      have same : session.advanced = session.popped.writeStarted next := by
        simp only [advanced, rest]
      rw [same]
      refine ⟨?_, Nat.succ_pos _⟩
      rw [if_pos some_item]
      have returned : startFront session.popped =
          .ok () (session.popped.writeStarted next) :=
        startFront_run held rest
      exact (bind_run_ok returned).trans rfl

/-! ## The handlers run as described -/

theorem runHandler_of_ok {body : HttpCode Unit} {next : HttpSession}
    (returned : body session = .ok () next) :
    runHandler body session = next.unlocked := by
  rw [runHandler, returned]

theorem runHandler_of_error {body : HttpCode Unit} {error : Exception}
    {next : HttpSession} (threw : body session = .error error next) :
    runHandler body session = (next.escape error).unlocked := by
  rw [runHandler, threw]

theorem timerHandler_run (session : HttpSession) (ec : Option ErrorCode) :
    runHandler (timerHandler ec) session =
      (session.afterTimer ec).unlocked := by
  cases ec with
  | none => rfl
  | some ec => cases ec <;> rfl

theorem readFailedHandler_run (session : HttpSession) (error : ReadError) :
    runHandler (readFailedHandler error) session =
      (session.afterReadFailed error).unlocked := by
  cases error with
  | endOfStream => rfl
  | code ec => cases ec <;> rfl

theorem onWrite_run (held : session.Held) (close : Bool)
    (ec : Option ErrorCode) :
    runHandler (onWrite close ec) session =
      (session.afterWrite close ec).unlocked := by
  cases ec with
  | some ec => cases ec <;> rfl
  | none =>
      apply runHandler_of_ok
      cases close with
      | true => rfl
      | false =>
          obtain ⟨returned, stillHeld⟩ := queueOnWrite_run held
          simp only [onWrite, afterWrite, Bool.false_eq_true, if_false]
          rw [bind_run_ok returned]
          cases session.items.isFull with
          | true => exact doRead_run stillHeld
          | false => rfl

theorem handleRequest_run (held : session.Held) (handling : HandlerRun) :
    handleRequest handling session =
      if handling.throws then
        .error (.user "request handler") (session.handled handling)
      else .ok () (session.handled handling) := by
  have stillHeld : (session.called handling).Held := held
  obtain ⟨returned, -⟩ := replyAll_run stillHeld handling.replies
  rw [handleRequest, modify_bind_run]
  refine (bind_run_ok returned).trans ?_
  rw [modify_bind_run]
  cases handling.throws <;> rfl

theorem Held.handled (held : session.Held) (handling : HandlerRun) :
    (session.handled handling).Held := by
  have stillHeld : (session.called handling).Held := held
  exact (replyAll_run stillHeld handling.replies).2

theorem requestReadHandler_run (held : session.Held) (server : HttpServer)
    (handling : HandlerRun) (connecting : ConnectRun) :
    runHandler (requestReadHandler server handling connecting) session =
      (session.afterRequest server handling connecting).unlocked := by
  rw [afterRequest]
  by_cases upgrades : session.Upgrades server
  · rw [if_pos upgrades, afterConnect]
    have body : requestReadHandler server handling connecting session =
        (do serverConnect connecting; doClose : HttpCode Unit) session := by
      rw [requestReadHandler, get_bind_run, if_pos upgrades]
    cases throws : connecting.throws with
    | true =>
        apply runHandler_of_error
        rw [body]
        simp [serverConnect, throws, bind_run]
        rfl
    | false =>
        apply runHandler_of_ok
        rw [body]
        simp [serverConnect, throws, bind_run]
        rfl
  · rw [if_neg upgrades, afterHandling]
    have body : requestReadHandler server handling connecting session =
        (do
          handleRequest handling
          let session ← get
          if ¬session.items.isFull then doRead else doClose :
            HttpCode Unit) session := by
      rw [requestReadHandler, get_bind_run, if_neg upgrades]
    have ran := handleRequest_run held handling
    cases throws : handling.throws with
    | true =>
        rw [throws, if_pos rfl] at ran
        apply runHandler_of_error
        rw [body, bind_run, ran]
    | false =>
        rw [throws, if_neg Bool.false_ne_true] at ran
        apply runHandler_of_ok
        rw [body, bind_run_ok ran, get_bind_run]
        cases (session.handled handling).items.isFull with
        | true => rfl
        | false => exact doRead_run (held.handled handling)

end

/-! ## Every lock is accounted for -/

/-- The locks are those of the outstanding operations and `others` more. -/
def Counted (others : Nat) (session : HttpSession) : Prop :=
  session.locker.lockCount = session.holders + others

section

variable {session : HttpSession} {others : Nat}

theorem Counted.held (counted : session.Counted others)
    (some_handler : 0 < session.holders + others) : session.Held := by
  rw [Held, counted]
  exact some_handler

theorem Counted.timerStarted (counted : session.Counted others) :
    session.timerStarted.Counted others := by
  have waits := session.timer.asyncWait_handlers
  simp only [Counted, holders, HttpSession.timerStarted, locked,
    waits] at counted ⊢
  omega

theorem Counted.timerCancelled (counted : session.Counted others) :
    session.timerCancelled.Counted others := by
  have waits := session.timer.cancel_handlers
  simp only [Counted, holders, HttpSession.timerCancelled,
    waits] at counted ⊢
  exact counted

theorem Counted.readStarted (counted : session.Counted others) :
    session.readStarted.Counted others := by
  simp only [Counted, holders, HttpSession.readStarted, locked] at counted ⊢
  omega

theorem Counted.writeStarted (counted : session.Counted others)
    (work : HttpResponse) : (session.writeStarted work).Counted others := by
  simp only [Counted, holders, HttpSession.writeStarted, locked,
    List.length_append, List.length_singleton] at counted ⊢
  omega

theorem Counted.shutDown (counted : session.Counted others) :
    session.shutDown.Counted others :=
  counted.timerCancelled

theorem Counted.resumed (counted : session.Counted others) :
    session.resumed.Counted others := by
  rw [HttpSession.resumed]
  split
  · exact counted.timerCancelled.timerStarted.readStarted
  · exact counted

theorem Counted.answered (counted : session.Counted others)
    (work : HttpResponse) : (session.answered work).Counted others := by
  have inQueue : (session.pushed work).Counted others := counted
  rw [HttpSession.answered]
  split
  · exact inQueue.writeStarted work
  · exact inQueue

theorem Counted.answeredAll (counted : session.Counted others)
    (works : List HttpResponse) :
    (session.answeredAll works).Counted others := by
  induction works generalizing session with
  | nil => exact counted
  | cons work works induction => exact induction (counted.answered work)

theorem Counted.replied (counted : session.Counted others)
    (work : HttpResponse) : (session.replied work).Counted others := by
  rw [HttpSession.replied]
  split
  · exact counted.answered work
  · exact counted

theorem Counted.advanced (counted : session.Counted others) :
    session.advanced.Counted others := by
  have shorter : session.popped.Counted others := counted
  rw [HttpSession.advanced]
  split
  · exact shorter
  · exact shorter.writeStarted _

theorem Counted.handled (counted : session.Counted others)
    (handling : HandlerRun) : (session.handled handling).Counted others := by
  have called : (session.called handling).Counted others := counted
  exact called.answeredAll handling.replies

theorem Counted.afterTimer (counted : session.Counted others)
    (ec : Option ErrorCode) : (session.afterTimer ec).Counted others := by
  cases ec with
  | none => exact counted
  | some ec => cases ec <;> exact counted

theorem Counted.afterReadFailed (counted : session.Counted others)
    (error : ReadError) : (session.afterReadFailed error).Counted others := by
  cases error with
  | endOfStream => exact counted.shutDown
  | code ec =>
      cases ec with
      | operationAborted => exact counted
      | closed => exact counted.shutDown
      | other value => exact counted.shutDown

theorem Counted.afterRequest (counted : session.Counted others)
    (server : HttpServer) (handling : HandlerRun)
    (connecting : ConnectRun) :
    (session.afterRequest server handling connecting).Counted others := by
  rw [HttpSession.afterRequest, afterConnect, afterHandling]
  have connected : (session.handedOver connecting).Counted others := counted
  have handled := counted.handled handling
  split
  · split
    · exact connected
    · exact connected.shutDown
  · split
    · exact handled
    · split
      · exact handled.shutDown
      · exact handled.resumed

theorem Counted.afterWrite (counted : session.Counted others) (close : Bool)
    (ec : Option ErrorCode) :
    (session.afterWrite close ec).Counted others := by
  cases ec with
  | some ec =>
      cases ec with
      | operationAborted => exact counted
      | closed => exact counted.shutDown
      | other value => exact counted.shutDown
  | none =>
      rw [HttpSession.afterWrite]
      split
      · exact counted.shutDown
      · split
        · exact counted.advanced.resumed
        · exact counted.advanced

theorem Counted.unlocked (counted : session.Counted 1) :
    session.unlocked.Counted 0 := by
  simp only [Counted, HttpSession.unlocked, holders,
    AsyncLocker.unlock] at counted ⊢
  omega

end

/-! ## Steps -/

section

variable {server : HttpServer} {session next : HttpSession}

theorem received_counted (counted : session.Counted 0)
    (reading : 0 < session.reads) (wire : HttpRequest) :
    (session.received wire).Counted 1 := by
  simp only [Counted, holders, received] at counted ⊢
  omega

theorem step_requestRead {wire : HttpRequest} {handling : HandlerRun}
    {connecting : ConnectRun} (counted : session.Counted 0)
    (stepped : session.step server
      (.requestRead wire handling connecting) = some next) :
    0 < session.reads ∧
      next = ((session.received wire).afterRequest server handling
        connecting).unlocked := by
  simp only [step, Option.ite_none_right_eq_some,
    Option.some.injEq] at stepped
  obtain ⟨reading, rfl⟩ := stepped
  have held := (received_counted counted reading wire).held (Nat.succ_pos _)
  exact ⟨reading, requestReadHandler_run held server handling connecting⟩

theorem step_readFailed {error : ReadError}
    (stepped : session.step server (.readFailed error) = some next) :
    0 < session.reads ∧
      next = (({ session with reads := session.reads - 1 } :
        HttpSession).afterReadFailed error).unlocked := by
  simp only [step, Option.ite_none_right_eq_some,
    Option.some.injEq] at stepped
  obtain ⟨reading, rfl⟩ := stepped
  exact ⟨reading, readFailedHandler_run _ error⟩

theorem wrote_counted {work : HttpResponse} {works : List HttpResponse}
    (counted : session.Counted 0) (writing : session.writing = work :: works)
    (ec : Option ErrorCode) :
    (session.wrote work ec).Counted 1 := by
  simp only [Counted, holders, wrote, writing, List.length_cons,
    List.tail_cons] at counted ⊢
  omega

theorem step_writeDone {ec : Option ErrorCode} (counted : session.Counted 0)
    (stepped : session.step server (.writeDone ec) = some next) :
    ∃ work works, session.writing = work :: works ∧
      next = ((session.wrote work ec).afterWrite work.needEof
        ec).unlocked := by
  simp only [step, Option.map_eq_some_iff] at stepped
  obtain ⟨work, isHead, rfl⟩ := stepped
  obtain ⟨works, writing⟩ := List.head?_eq_some_iff.mp isHead
  have held := (wrote_counted counted writing ec).held (Nat.succ_pos _)
  exact ⟨work, works, writing, onWrite_run held work.needEof ec⟩

theorem step_timerExpired
    (stepped : session.step server .timerExpired = some next) :
    ∃ timer, session.timer.expire? = some timer ∧
      next = { session with timer := timer } := by
  simp only [step, Option.map_eq_some_iff] at stepped
  obtain ⟨timer, expires, rfl⟩ := stepped
  exact ⟨timer, expires, rfl⟩

theorem step_timerDone {ec : Option ErrorCode}
    (stepped : session.step server (.timerDone ec) = some next) :
    ∃ timer, session.timer.take? (ec = some .operationAborted) = some timer ∧
      next = (({ session with timer := timer } : HttpSession).afterTimer
        ec).unlocked := by
  simp only [step, Option.map_eq_some_iff] at stepped
  obtain ⟨timer, taken, rfl⟩ := stepped
  exact ⟨timer, taken, timerHandler_run _ ec⟩

theorem step_doClose
    (stepped : session.step server .doClose = some next) :
    next = session.shutDown :=
  (Option.some.inj stepped).symm

theorem step_lateReply {work : HttpResponse}
    (stepped : session.step server (.lateReply work) = some next) :
    session.history.handled ≠ [] ∧ next = session.replied work := by
  obtain ⟨isHandled, isNext⟩ := Option.ite_none_left_eq_some.mp stepped
  refine ⟨isHandled, ?_⟩
  rw [← reply_after]
  exact (Option.some.inj isNext).symm

/-- Every step keeps the count of the locks. -/
theorem step_counted {event : HttpEvent} (counted : session.Counted 0)
    (stepped : session.step server event = some next) : next.Counted 0 := by
  cases event with
  | requestRead wire handling connecting =>
      obtain ⟨reading, rfl⟩ := step_requestRead counted stepped
      have received := received_counted counted reading wire
      exact (received.afterRequest server handling connecting).unlocked
  | readFailed error =>
      obtain ⟨reading, rfl⟩ := step_readFailed stepped
      have failed : Counted 1 { session with reads := session.reads - 1 } := by
        simp only [Counted, holders] at counted ⊢
        omega
      exact (failed.afterReadFailed error).unlocked
  | writeDone ec =>
      obtain ⟨work, works, writing, rfl⟩ := step_writeDone counted stepped
      have wrote := wrote_counted counted writing ec
      exact (wrote.afterWrite work.needEof ec).unlocked
  | timerExpired =>
      obtain ⟨timer, expires, rfl⟩ := step_timerExpired stepped
      obtain ⟨-, handlers⟩ := WaitableTimer.expire?_eq_some expires
      simp only [Counted, holders, handlers] at counted ⊢
      exact counted
  | timerDone ec =>
      obtain ⟨timer, taken, rfl⟩ := step_timerDone stepped
      obtain ⟨handlers, -⟩ := WaitableTimer.take?_eq_some taken
      have taken : Counted 1 { session with timer := timer } := by
        simp only [Counted, holders, handlers] at counted ⊢
        omega
      exact (taken.afterTimer ec).unlocked
  | doClose =>
      rw [step_doClose stepped]
      exact counted.shutDown
  | lateReply work =>
      obtain ⟨-, rfl⟩ := step_lateReply stepped
      exact counted.replied work

/-- Without a lock there is no handler left to take one. -/
theorem step_drained {event : HttpEvent} (counted : session.Counted 0)
    (drained : session.locker.lockCount = 0)
    (stepped : session.step server event = some next) :
    next.locker.lockCount = 0 := by
  have none_left : session.holders = 0 := by
    rw [Counted, drained] at counted
    omega
  simp only [holders, Nat.add_eq_zero_iff, List.length_eq_zero_iff]
    at none_left
  obtain ⟨⟨noRead, noWrite⟩, noWait⟩ := none_left
  cases event with
  | requestRead wire handling connecting =>
      obtain ⟨reading, -⟩ := step_requestRead counted stepped
      exact absurd noRead (Nat.ne_of_gt reading)
  | readFailed error =>
      obtain ⟨reading, -⟩ := step_readFailed stepped
      exact absurd noRead (Nat.ne_of_gt reading)
  | writeDone ec =>
      obtain ⟨work, works, writing, -⟩ := step_writeDone counted stepped
      rw [noWrite] at writing
      cases writing
  | timerExpired =>
      obtain ⟨timer, -, rfl⟩ := step_timerExpired stepped
      exact drained
  | timerDone ec =>
      obtain ⟨timer, taken, -⟩ := step_timerDone stepped
      obtain ⟨handlers, -⟩ := WaitableTimer.take?_eq_some taken
      rw [noWait] at handlers
      cases handlers
  | doClose =>
      rw [step_doClose stepped]
      exact drained
  | lateReply work =>
      obtain ⟨-, rfl⟩ := step_lateReply stepped
      rw [replied, if_neg (Nat.not_lt_of_ge (Nat.le_of_eq drained))]
      exact drained

theorem started_counted : started.Counted 0 := rfl

theorem reachable_counted {admits : HttpSession → HttpEvent → Prop}
    (reached : (httpMachine server).ReachableUnder admits session) :
    session.Counted 0 := by
  induction reached with
  | initial isInitial =>
      rw [isInitial]
      exact started_counted
  | step _ _ stepped induction => exact step_counted induction stepped

/-- The invariant rule of a session, whose only initial state is
`started`. -/
theorem reachable_invariant {admits : HttpSession → HttpEvent → Prop}
    (invariant : HttpSession → Prop) (start : invariant started)
    (kept : ∀ before event after,
      (httpMachine server).ReachableUnder admits before → invariant before →
      admits before event → step server before event = some after →
      invariant after)
    (reached : (httpMachine server).ReachableUnder admits session) :
    invariant session := by
  apply reached.invariantOver invariant _ kept
  intro state isInitial
  rw [isInitial]
  exact start

end

end HttpSession

end Webservice
