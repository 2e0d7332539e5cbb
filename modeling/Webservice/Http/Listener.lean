import Mathlib.Data.List.Nodup
import Webservice.Http.Sessions

/-!
# The listener

The accept loop goes on from its own handler, so it ends where the handler
does not call `do_accept`.  Every connection it accepts is passed to the
strand of the set of sessions.
-/

namespace Webservice

/-! ## The books of the set -/

/-- Where the sockets are that were passed to `async_emplace`. -/
structure SocketBooks where
  inserted : List Nat
  ran : List Nat
  /-- Sockets in jobs that have not run. -/
  waiting : List Nat
  sockets : Nat
  runLock : Bool

/-- What a step of the set other than `shutdown()` does to the books. -/
inductive SocketBooks.Moves (before : SocketBooks) : SocketBooks → Prop where
  | keeps : Moves before before
  | takes : Moves before
      { before with
        waiting := before.waiting ++ [before.sockets]
        sockets := before.sockets + 1 }
  | drops : before.runLock = false → Moves before
      { before with sockets := before.sockets + 1 }
  | inserts (socket : Nat) (rest : List Nat) : before.runLock = true →
      before.waiting = socket :: rest → Moves before
        { before with
          inserted := before.inserted ++ [socket]
          ran := before.ran ++ [socket]
          waiting := rest }
  | refuses (socket : Nat) (rest : List Nat) : before.runLock = false →
      before.waiting = socket :: rest →
      Moves before { before with waiting := rest }

theorem SocketBooks.Moves.runLock {before after : SocketBooks}
    (moves : before.Moves after) : after.runLock = before.runLock := by
  cases moves <;> rfl

theorem SocketBooks.Moves.inserted {before after : SocketBooks}
    (moves : before.Moves after) {socket : Nat}
    (inserted : socket ∈ before.inserted) : socket ∈ after.inserted := by
  cases moves with
  | inserts => exact List.mem_append_left _ inserted
  | keeps => exact inserted
  | takes => exact inserted
  | drops => exact inserted
  | refuses => exact inserted

namespace HttpSessions

variable {sessions : HttpSessions}

def waiting (sessions : HttpSessions) : List Nat :=
  sessions.strand.filterMap SessionsJob.socket?

def books (sessions : HttpSessions) : SocketBooks :=
  { inserted := sessions.history.inserted
    ran := sessions.history.ran
    waiting := sessions.waiting
    sockets := sessions.history.sockets
    runLock := sessions.runLock }

/-- The locks of the locker: the waiting jobs, the token, which is in one
place, and `others`. -/
def Counted (sessions : HttpSessions) (others : Nat) : Prop :=
  sessions.locker.lockCount = sessions.strand.length +
      sessions.runLock.toNat + sessions.shutdownLock.toNat + others ∧
    (sessions.runLock = true → sessions.shutdownLock = false)

theorem Counted.locks {others : Nat} (counted : sessions.Counted others) :
    sessions.locker.lockCount = sessions.strand.length +
      sessions.runLock.toNat + sessions.shutdownLock.toNat + others :=
  counted.1

theorem Counted.token {others : Nat} (counted : sessions.Counted others) :
    sessions.runLock = true → sessions.shutdownLock = false :=
  counted.2

theorem Counted.held (counted : sessions.Counted 0)
    (running : sessions.runLock = true) : 0 < sessions.locker.lockCount := by
  rw [counted.locks, running]
  simp only [Bool.toNat_true]
  omega

theorem Counted.unlocked {others : Nat}
    (counted : sessions.Counted (others + 1)) :
    sessions.unlocked.Counted others := by
  refine ⟨?_, counted.token⟩
  simp only [HttpSessions.unlocked, AsyncLocker.unlock, counted.locks]
  omega

theorem Counted.unlockShutdown {others : Nat}
    (counted : sessions.Counted others) :
    sessions.unlockShutdown.Counted others := by
  rw [HttpSessions.unlockShutdown]
  split
  · next token =>
      refine ⟨?_, fun _ => rfl⟩
      simp only [HttpSessions.unlocked, AsyncLocker.unlock, counted.locks,
        token, Bool.toNat_true, Bool.toNat_false]
      omega
  · exact counted

@[simp] theorem unlocked_books : sessions.unlocked.books = sessions.books :=
  rfl

@[simp] theorem unlockShutdown_books :
    sessions.unlockShutdown.books = sessions.books := by
  rw [unlockShutdown]
  split <;> rfl

theorem dispatch_books (job : SessionsJob) :
    (sessions.dispatch job).books =
      { sessions.books with
        waiting := sessions.waiting ++
          if sessions.locker.lockCount = 0 then []
          else job.socket?.toList } := by
  rw [dispatch]
  by_cases drained : sessions.locker.lockCount = 0
  · rw [AsyncLocker.makeLock_of_zero drained, if_pos drained,
      List.append_nil]
    rfl
  · rw [AsyncLocker.makeLock_of_pos (Nat.pos_of_ne_zero drained),
      if_neg drained]
    cases isSocket : job.socket? <;>
      simp [books, waiting, isSocket]

theorem Counted.dispatch {others : Nat} (counted : sessions.Counted others)
    (job : SessionsJob) : (sessions.dispatch job).Counted others := by
  rw [HttpSessions.dispatch]
  by_cases drained : sessions.locker.lockCount = 0
  · rw [AsyncLocker.makeLock_of_zero drained]
    exact counted
  · rw [AsyncLocker.makeLock_of_pos (Nat.pos_of_ne_zero drained)]
    refine ⟨?_, counted.token⟩
    simp only [List.length_append, List.length_singleton, counted.locks]
    omega

/-! ## Jobs -/

theorem eraseJob_keeps {session : Option Nat} {next : HttpSessions}
    {others : Nat} (erases : eraseJob session sessions = .ok next)
    (counted : sessions.Counted others) :
    next.books = sessions.books ∧ next.Counted others := by
  rw [eraseJob] at erases
  split at erases
  · cases erases
  · cases erases
    split
    · exact ⟨unlockShutdown_books, Counted.unlockShutdown counted⟩
    · exact ⟨rfl, counted⟩

theorem eraseInline_keeps (session : Option Nat) {others : Nat}
    (counted : sessions.Counted others) :
    (sessions.eraseInline session).books = sessions.books ∧
      (sessions.eraseInline session).Counted others := by
  rw [eraseInline]
  by_cases drained : sessions.locker.lockCount = 0
  · rw [AsyncLocker.makeLock_of_zero drained]
    exact ⟨rfl, counted⟩
  · rw [AsyncLocker.makeLock_of_pos (Nat.pos_of_ne_zero drained)]
    have locked : Counted { sessions with
        locker := { sessions.locker with
          lockCount := sessions.locker.lockCount + 1 } } (others + 1) := by
      refine ⟨?_, counted.token⟩
      simp only [counted.locks]
      omega
    dsimp only
    split
    · next next erases =>
        obtain ⟨books, nextCounted⟩ := eraseJob_keeps erases locked
        exact ⟨books, nextCounted.unlocked⟩
    · exact ⟨rfl, Counted.unlocked locked⟩

theorem emplaceJob_keeps (socket : Nat) (fault : Option RunFault)
    {others : Nat} (counted : sessions.Counted others) :
    (sessions.emplaceJob socket fault).books =
        (if sessions.runLock then
          { sessions.books with
            inserted := sessions.history.inserted ++ [socket]
            ran := sessions.history.ran ++ [socket] }
        else sessions.books) ∧
      (sessions.emplaceJob socket fault).Counted others := by
  rw [emplaceJob, isShutdown]
  cases running : sessions.runLock with
  | false => exact ⟨rfl, counted⟩
  | true =>
      simp only [Bool.not_true, Bool.false_eq_true, if_false, if_true]
      split
      · exact ⟨rfl, counted⟩
      · next error session _ =>
          have first : ((sessions.started socket session).drainedInline
              socket session).books =
                (sessions.started socket session).books ∧
              ((sessions.started socket session).drainedInline
                socket session).Counted others := by
            rw [drainedInline]
            split
            · exact eraseInline_keeps _ counted
            · exact ⟨rfl, counted⟩
          obtain ⟨books, firstCounted⟩ := first
          generalize (sessions.started socket session).drainedInline
            socket session = drained at books firstCounted
          have second := @eraseInline_keeps
            { drained with history :=
                { drained.history with
                  errorPath := drained.history.errorPath ++ [none] } }
            none others firstCounted
          refine ⟨?_, second.2⟩
          have third : (drained.errorPath.escape error).books =
              drained.books := second.1
          rw [third, books]
          rfl

theorem shutdownJob_keeps {others : Nat} (counted : sessions.Counted others) :
    sessions.shutdownJob.books = sessions.books ∧
      sessions.shutdownJob.Counted others := by
  rw [shutdownJob]
  split
  · exact ⟨unlockShutdown_books, counted.unlockShutdown⟩
  · exact ⟨rfl, counted⟩

/-! ## Steps -/

theorem asyncEmplace_counted (counted : sessions.Counted 0) :
    sessions.asyncEmplace.Counted 0 := by
  apply Counted.dispatch
  exact ⟨counted.locks, counted.token⟩

theorem asyncEmplace_books (counted : sessions.Counted 0)
    (running : sessions.runLock = true) :
    sessions.asyncEmplace.books =
      { sessions.books with
        waiting := sessions.waiting ++ [sessions.history.sockets]
        sockets := sessions.history.sockets + 1 } := by
  have held := counted.held running
  rw [asyncEmplace, dispatch_books, if_neg (Nat.ne_of_gt held)]
  rfl

theorem asyncEmplace_moves (counted : sessions.Counted 0) :
    sessions.books.Moves sessions.asyncEmplace.books := by
  by_cases running : sessions.runLock = true
  · rw [asyncEmplace_books counted running]
    exact .takes
  · rw [asyncEmplace, dispatch_books]
    split
    · rw [List.append_nil]
      exact .drops (Bool.eq_false_iff.mpr running)
    · exact .takes

/-- The first job of the strand runs. -/
theorem perform_keeps (fault : Option RunFault) {job : SessionsJob}
    {jobs : List SessionsJob} (isNext : sessions.strand = job :: jobs)
    (counted : sessions.Counted 0) :
    let next := ({ sessions with strand := jobs }.perform fault job).unlocked
    sessions.books.Moves next.books ∧ next.Counted 0 := by
  have running : Counted { sessions with strand := jobs } 1 := by
    refine ⟨?_, counted.token⟩
    simp only [counted.locks, isNext, List.length_cons]
    omega
  have sameBooks : job.socket? = none →
      books { sessions with strand := jobs } = sessions.books := by
    intro noSocket
    simp [books, waiting, isNext, noSocket]
  cases job with
  | emplace socket =>
      obtain ⟨emplaced, emplacedCounted⟩ :=
        emplaceJob_keeps socket fault running
      refine ⟨?_, emplacedCounted.unlocked⟩
      rw [unlocked_books, perform, emplaced]
      have isFirst : sessions.books.waiting =
          socket :: jobs.filterMap SessionsJob.socket? := by
        simp [books, waiting, isNext, SessionsJob.socket?]
      split
      · next isRunning => exact .inserts socket _ isRunning isFirst
      · next stopped =>
          exact .refuses socket _ (Bool.eq_false_iff.mpr stopped) isFirst
  | erase session =>
      rw [perform]
      split
      · next next erases =>
          obtain ⟨sameNext, nextCounted⟩ := eraseJob_keeps erases running
          refine ⟨?_, nextCounted.unlocked⟩
          rw [unlocked_books, sameNext, sameBooks rfl]
          exact .keeps
      · refine ⟨?_, Counted.unlocked running⟩
        have escaped := sameBooks rfl
        rw [unlocked_books]
        exact escaped ▸ .keeps
  | shutdown =>
      obtain ⟨sameNext, nextCounted⟩ := shutdownJob_keeps running
      refine ⟨?_, nextCounted.unlocked⟩
      rw [unlocked_books, perform, sameNext, sameBooks rfl]
      exact .keeps

theorem sessionStep_keeps {server : HttpServer} {number : Nat}
    {event : HttpEvent} {next : HttpSessions}
    (stepped : sessions.sessionStep server number event = some next)
    (counted : sessions.Counted 0) :
    next.books = sessions.books ∧ next.Counted 0 := by
  obtain ⟨session, -, changes⟩ := Option.bind_eq_some_iff.mp stepped
  obtain ⟨after, -, isNext⟩ := Option.map_eq_some_iff.mp changes
  subst isNext
  dsimp only
  split
  · constructor
    · rw [asyncErase, dispatch_books]
      simp [SessionsJob.socket?, books, waiting]
    · apply Counted.dispatch
      exact counted
  · exact ⟨rfl, counted⟩

theorem shutdown_keeps (counted : sessions.Counted 0) :
    sessions.shutdown.books = { sessions.books with runLock := false } ∧
      sessions.shutdown.Counted 0 := by
  rw [shutdown]
  split
  · next running =>
      constructor
      · rw [dispatch_books]
        simp [SessionsJob.socket?, books, waiting]
      · apply Counted.dispatch
        refine ⟨?_, fun contradiction => absurd contradiction (by simp)⟩
        simp only [counted.locks, running, counted.token running,
          Bool.toNat_true, Bool.toNat_false]
  · next stopped =>
      have stopped := Bool.eq_false_iff.mpr stopped
      refine ⟨?_, counted⟩
      rw [books, stopped]

theorem step_moves {server : HttpServer} {event : SessionsEvent}
    {next : HttpSessions} (stepped : sessions.step server event = some next)
    (running : event ≠ .shutdown) (counted : sessions.Counted 0) :
    sessions.books.Moves next.books ∧ next.Counted 0 := by
  cases event with
  | emplace =>
      cases stepped
      exact ⟨asyncEmplace_moves counted, asyncEmplace_counted counted⟩
  | run fault =>
      rw [step] at stepped
      split at stepped
      · cases stepped
      · next job jobs isNext =>
          cases stepped
          exact perform_keeps fault isNext counted
  | session number event =>
      obtain ⟨books, nextCounted⟩ := sessionStep_keeps stepped counted
      refine ⟨?_, nextCounted⟩
      rw [books]
      exact .keeps
  | shutdown => exact absurd rfl running

end HttpSessions

/-! ## The accept loop -/

structure Listener where
  /-- Calls of `async_accept` whose handler has not run. -/
  accepts : Nat
  /-- `shutdown` has closed the acceptor. -/
  closed : Bool
  http : HttpSessions
  /-- Connections accepted while the HTTP handler was not shut down. -/
  accepted : List Nat
  /-- Arguments of `on_exception` of the error handler. -/
  reported : List Exception

inductive ListenerEvent where
  /-- The handler of `async_accept` runs. -/
  | acceptDone (ec : Option ErrorCode)
  /-- Something happens to the sessions. -/
  | http (event : SessionsEvent)
  | shutdown
  deriving DecidableEq

namespace Listener

def doAccept (listener : Listener) : Listener :=
  { listener with accepts := listener.accepts + 1 }

/-- The constructor starts to accept. -/
def constructed : Listener :=
  { accepts := 0
    closed := false
    http := .constructed
    accepted := []
    reported := [] : Listener }.doAccept

/-- The lambda of `do_accept`. -/
def acceptHandler (listener : Listener) : Option ErrorCode → Listener
  | some .operationAborted => listener
  | some ec => { listener with reported := listener.reported ++
      [.systemError ec "server listener accept"] }
  | none => { listener with
      http := listener.http.asyncEmplace
      accepted := listener.accepted ++
        if listener.http.runLock then [listener.http.history.sockets]
        else [] }.doAccept

/-- An accept is only aborted by `close()`. -/
def step (server : HttpServer) (listener : Listener) :
    ListenerEvent → Option Listener
  | .acceptDone ec =>
      if 0 < listener.accepts ∧
          (ec = some .operationAborted → listener.closed = true) then
        some ({ listener with
          accepts := listener.accepts - 1 }.acceptHandler ec)
      else none
  | .http event =>
      (listener.http.step server event).map fun http =>
        { listener with http := http }
  | .shutdown => some { listener with closed := true }

end Listener

def listenerMachine (server : HttpServer) :
    Machine Listener ListenerEvent where
  initial listener := listener = .constructed
  step := Listener.step server

namespace Listener

variable {listener : Listener} {server : HttpServer}

/-- Until the listener is shut down, no accept fails, and the HTTP handler is
not shut down while a connection waits to be inserted. -/
def Admits (listener : Listener) (event : ListenerEvent) : Prop :=
  listener.closed = false →
    (∀ ec, event = .acceptDone ec → ec = none) ∧
    (event = .http .shutdown →
      ∀ socket ∈ listener.accepted, socket ∉ listener.http.waiting)

/-- One accept is outstanding, and every connection that was accepted was
inserted and run once, or waits for that while the HTTP handler runs. -/
structure Accepting (listener : Listener) : Prop where
  accepts : listener.accepts = 1
  nodup : listener.accepted.Nodup
  once : ∀ socket ∈ listener.accepted,
    (listener.http.history.inserted ++ listener.http.waiting).count
      socket = 1
  ran : listener.http.history.ran = listener.http.history.inserted
  waits : ∀ socket ∈ listener.accepted, socket ∈ listener.http.waiting →
    listener.http.runLock = true

end Listener

/-- The books are in order and all of the accepted sockets are in them. -/
structure SocketBooks.Keep (books : SocketBooks) (accepted : List Nat) :
    Prop where
  ran : books.ran = books.inserted
  nodup : (books.inserted ++ books.waiting).Nodup
  below : ∀ socket ∈ books.inserted ++ books.waiting,
    socket < books.sockets
  placed : ∀ socket ∈ accepted, socket ∈ books.inserted ∨
    books.runLock = true ∧ socket ∈ books.waiting
  distinct : accepted.Nodup

namespace SocketBooks

variable {books next : SocketBooks} {accepted : List Nat}

theorem Keep.takes (keep : books.Keep accepted) :
    SocketBooks.Keep
      { books with
        waiting := books.waiting ++ [books.sockets]
        sockets := books.sockets + 1 } accepted := by
  have fresh : books.sockets ∉ books.inserted ++ books.waiting := by
    intro old
    exact Nat.lt_irrefl _ (keep.below _ old)
  constructor
  · exact keep.ran
  · rw [← List.append_assoc]
    exact List.nodup_append.mpr ⟨keep.nodup, List.nodup_singleton _, by
      rintro socket old _ isNew rfl
      rw [List.mem_singleton.mp isNew] at old
      exact fresh old⟩
  · intro socket isSocket
    rw [← List.append_assoc] at isSocket
    rcases List.mem_append.mp isSocket with old | isNew
    · exact Nat.lt_succ_of_lt (keep.below socket old)
    · rw [List.mem_singleton.mp isNew]
      exact Nat.lt_succ_self _
  · intro socket isAccepted
    rcases keep.placed socket isAccepted with inserted | ⟨running, waits⟩
    · exact .inl inserted
    · exact .inr ⟨running, List.mem_append_left _ waits⟩
  · exact keep.distinct

/-- A socket that is accepted is the next one. -/
theorem Keep.accepts (keep : books.Keep accepted)
    (running : books.runLock = true) :
    SocketBooks.Keep
      { books with
        waiting := books.waiting ++ [books.sockets]
        sockets := books.sockets + 1 }
      (accepted ++ [books.sockets]) := by
  have taken := keep.takes
  refine ⟨taken.ran, taken.nodup, taken.below, ?_, ?_⟩
  · intro socket isAccepted
    rcases List.mem_append.mp isAccepted with old | isNew
    · exact taken.placed socket old
    · rw [List.mem_singleton.mp isNew]
      exact .inr ⟨running, List.mem_append_right _ List.mem_cons_self⟩
  · refine List.nodup_append.mpr ⟨keep.distinct, List.nodup_singleton _, ?_⟩
    rintro socket old _ isNew rfl
    rw [List.mem_singleton.mp isNew] at old
    apply Nat.lt_irrefl books.sockets
    apply keep.below
    rcases keep.placed _ old with inserted | ⟨-, waits⟩
    · exact List.mem_append_left _ inserted
    · exact List.mem_append_right _ waits

theorem Keep.moves (keep : books.Keep accepted) (moves : books.Moves next) :
    next.Keep accepted := by
  cases moves with
  | keeps => exact keep
  | takes => exact keep.takes
  | drops _ =>
      refine ⟨keep.ran, keep.nodup, ?_, keep.placed, keep.distinct⟩
      intro socket isSocket
      exact Nat.lt_succ_of_lt (keep.below socket isSocket)
  | inserts first rest running isWaiting =>
      have same : books.inserted ++ books.waiting =
          (books.inserted ++ [first]) ++ rest := by
        rw [isWaiting, List.append_assoc, List.singleton_append]
      constructor
      · exact congrArg (· ++ [first]) keep.ran
      · rw [← same]
        exact keep.nodup
      · rw [← same]
        exact keep.below
      · intro socket isAccepted
        rcases keep.placed socket isAccepted with inserted | ⟨-, waits⟩
        · exact .inl (List.mem_append_left _ inserted)
        · rw [isWaiting] at waits
          rcases List.mem_cons.mp waits with rfl | later
          · exact .inl (List.mem_append_right _ List.mem_cons_self)
          · exact .inr ⟨running, later⟩
      · exact keep.distinct
  | refuses first rest stopped isWaiting =>
      have fewer : (books.inserted ++ rest).Sublist
          (books.inserted ++ books.waiting) := by
        rw [isWaiting]
        exact (List.sublist_cons_self first rest).append_left _
      refine ⟨keep.ran, keep.nodup.sublist fewer, ?_, ?_, keep.distinct⟩
      · intro socket isSocket
        exact keep.below socket (fewer.subset isSocket)
      · intro socket isAccepted
        rcases keep.placed socket isAccepted with inserted | ⟨running, -⟩
        · exact .inl inserted
        · rw [stopped] at running
          cases running

theorem Keep.shuts (keep : books.Keep accepted)
    (settled : ∀ socket ∈ accepted, socket ∉ books.waiting) :
    SocketBooks.Keep { books with runLock := false } accepted := by
  refine ⟨keep.ran, keep.nodup, keep.below, ?_, keep.distinct⟩
  intro socket isAccepted
  rcases keep.placed socket isAccepted with inserted | ⟨-, waits⟩
  · exact .inl inserted
  · exact absurd waits (settled socket isAccepted)

theorem Keep.count (keep : books.Keep accepted) {socket : Nat}
    (isAccepted : socket ∈ accepted) :
    (books.inserted ++ books.waiting).count socket = 1 := by
  apply List.count_eq_one_of_mem keep.nodup
  rcases keep.placed socket isAccepted with inserted | ⟨-, waits⟩
  · exact List.mem_append_left _ inserted
  · exact List.mem_append_right _ waits

theorem Keep.waits (keep : books.Keep accepted) {socket : Nat}
    (isAccepted : socket ∈ accepted) (waits : socket ∈ books.waiting) :
    books.runLock = true := by
  rcases keep.placed socket isAccepted with inserted | ⟨running, -⟩
  · exact absurd rfl
      ((List.nodup_append.mp keep.nodup).2.2 socket inserted socket waits)
  · exact running

end SocketBooks

/-! ## Runs -/

namespace Listener

variable {listener : Listener} {server : HttpServer}

/-- The invariant of the runs that `Admits` allows. -/
structure Loops (listener : Listener) : Prop where
  counted : listener.http.Counted 0
  accepts : listener.closed = false → listener.accepts = 1
  books : listener.closed = false →
    listener.http.books.Keep listener.accepted

theorem constructed_loops : constructed.Loops := by
  refine ⟨⟨rfl, fun _ => rfl⟩, fun _ => rfl, fun _ => ?_⟩
  constructor <;> simp [constructed, doAccept, HttpSessions.books,
    HttpSessions.constructed, HttpSessions.waiting]

theorem Loops.accepted (loops : listener.Loops) :
    Loops (acceptHandler
      { listener with accepts := listener.accepts - 1 } none) := by
  refine ⟨HttpSessions.asyncEmplace_counted loops.counted, ?_, ?_⟩
  · intro opened
    have single := loops.accepts opened
    simp [acceptHandler, doAccept, single]
  · intro opened
    have keep := loops.books opened
    dsimp only [acceptHandler, doAccept]
    by_cases running : listener.http.runLock = true
    · rw [HttpSessions.asyncEmplace_books loops.counted running, if_pos running]
      exact keep.accepts running
    · rw [if_neg running, List.append_nil]
      exact keep.moves (HttpSessions.asyncEmplace_moves loops.counted)

theorem step_loops {event : ListenerEvent} {next : Listener}
    (loops : listener.Loops) (admitted : listener.Admits event)
    (stepped : listener.step server event = some next) : next.Loops := by
  cases event with
  | acceptDone ec =>
      obtain ⟨⟨-, aborted⟩, isNext⟩ :=
        Option.ite_none_right_eq_some.mp stepped
      cases isNext
      cases ec with
      | none => exact loops.accepted
      | some ec =>
          have isClosed : listener.closed = true := by
            by_contra opened
            cases (admitted (Bool.eq_false_iff.mpr opened)).1 _ rfl
          have closed : ∀ after : Listener, after.http = listener.http →
              after.closed = listener.closed → after.Loops := by
            intro after sameHttp sameClosed
            refine ⟨by rw [sameHttp]; exact loops.counted, ?_, ?_⟩ <;>
              · intro opened
                rw [sameClosed, isClosed] at opened
                cases opened
          apply closed
          · cases ec <;> rfl
          · cases ec <;> rfl
  | http event =>
      obtain ⟨http, httpStepped, rfl⟩ := Option.map_eq_some_iff.mp stepped
      by_cases isShutdown : event = .shutdown
      · subst isShutdown
        cases httpStepped
        obtain ⟨books, counted⟩ := HttpSessions.shutdown_keeps loops.counted
        refine ⟨counted, loops.accepts, fun opened => ?_⟩
        rw [books]
        exact (loops.books opened).shuts ((admitted opened).2 rfl)
      · obtain ⟨moves, counted⟩ :=
          HttpSessions.step_moves httpStepped isShutdown loops.counted
        exact ⟨counted, loops.accepts, fun opened =>
          (loops.books opened).moves moves⟩
  | shutdown =>
      cases stepped
      exact ⟨loops.counted, fun opened => absurd opened (by simp),
        fun opened => absurd opened (by simp)⟩

/-- As long as no accept fails, the listener goes on accepting, and what it
accepts is inserted and run once. -/
theorem accepting_of_admits
    (reached : (listenerMachine server).ReachableUnder Admits listener)
    (opened : listener.closed = false) : listener.Accepting := by
  have loops : listener.Loops := by
    apply reached.invariant Loops
    · rintro _ rfl
      exact constructed_loops
    · intro before event after loops admitted stepped
      exact step_loops loops admitted stepped
  have keep := loops.books opened
  exact ⟨loops.accepts opened, keep.distinct, fun _ => keep.count, keep.ran,
    fun _ => keep.waits⟩

/-- Two connections, of which the first is inserted and the second waits. -/
theorem accepting_two_connections :
    ∃ listener, (listenerMachine plainServer).run .constructed
        [.acceptDone none, .http (.run none), .acceptDone none] =
          some listener ∧ listener.accepted = [0, 1] ∧
      listener.Accepting := by
  have ran : ∃ listener,
      (listenerMachine plainServer).run .constructed
        [.acceptDone none, .http (.run none), .acceptDone none] =
          some listener ∧ listener.accepted = [0, 1] ∧
      listener.closed = false := ⟨_, rfl, rfl, rfl⟩
  obtain ⟨listener, ran, accepted, opened⟩ := ran
  have reached : (listenerMachine plainServer).ReachableUnder
      Admits listener := by
    apply Machine.reachableUnder_of_run rfl _ ran
    apply Machine.admitted_of_forall
    intro event isEvent listener _
    simp only [List.mem_cons, List.not_mem_nil, or_false] at isEvent
    rcases isEvent with rfl | rfl | rfl <;> simp
  exact ⟨listener, ran, accepted, accepting_of_admits reached opened⟩

/-- A listener without an outstanding accept never accepts again. -/
theorem deaf_step {event : ListenerEvent} {next : Listener}
    (deaf : listener.accepts = 0)
    (stepped : listener.step server event = some next) :
    next.accepts = 0 := by
  cases event with
  | acceptDone ec =>
      obtain ⟨⟨some_accept, -⟩, -⟩ :=
        Option.ite_none_right_eq_some.mp stepped
      exact absurd deaf (Nat.ne_of_gt some_accept)
  | http event =>
      obtain ⟨http, -, rfl⟩ := Option.map_eq_some_iff.mp stepped
      exact deaf
  | shutdown =>
      cases stepped
      exact deaf

/-- One accept that fails, for want of a descriptor, leaves a listener that
never accepts again. -/
theorem deaf_after_error :
    ∃ listener, (listenerMachine plainServer).run .constructed
        [.acceptDone (some (.other 24))] = some listener ∧
      listener.closed = false ∧ ¬listener.Accepting ∧
      ∀ events later, (listenerMachine plainServer).run listener
        events = some later → later.accepts = 0 := by
  refine ⟨_, rfl, rfl, ?_, ?_⟩
  · intro accepting
    cases accepting.accepts
  · intro events later ran
    exact Machine.run_keeps (fun listener : Listener => listener.accepts = 0)
      (fun before event after deaf _ stepped => deaf_step deaf stepped) rfl
      (Machine.admitted_true _ events) ran

end Listener

end Webservice
