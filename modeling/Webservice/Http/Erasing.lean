import Webservice.Http.Listener
import Webservice.Http.Runs

/-!
# Erasing HTTP sessions

A session leaves `set_` when its locker calls back, whether its `run` returned
or threw.  That happens once for each session, with the last of its locks, in
every run of the server.
-/

namespace Webservice

open Effects

/-! ## The callback of a session -/

namespace HttpSession

section

variable {session : HttpSession}

def SameCallbacks (before after : HttpSession) : Prop :=
  after.locker.callbacks = before.locker.callbacks

instance : IsPreorder HttpSession SameCallbacks where
  refl _ := rfl
  trans _ _ _ first second := Eq.trans second first

theorem makeLock_sameCallbacks : Keeps SameCallbacks makeLock := by
  intro session
  unfold KeepsAt after makeLock AsyncLocker.makeLock
  by_cases drained : session.locker.lockCount = 0
  · simp only [drained, if_true]
    exact refl_of SameCallbacks session
  · simp only [drained, if_false]
    rfl

theorem doTimer_sameCallbacks : Keeps SameCallbacks doTimer :=
  .bind makeLock_sameCallbacks fun _ => .modify fun _ => rfl

theorem doClose_sameCallbacks : Keeps SameCallbacks doClose :=
  .bind (.modify fun _ => rfl) fun _ => .modify fun _ => rfl

theorem doRead_sameCallbacks : Keeps SameCallbacks doRead := by
  have cancels : Keeps SameCallbacks expiresAfter :=
    .bind .get fun _ => .bind (.modify fun _ => rfl) fun _ => .pure _
  have reads : Keeps SameCallbacks asyncRead :=
    .bind makeLock_sameCallbacks fun _ => .modify fun _ => rfl
  refine .bind .get fun _ => .ite (fun _ => .pure _) fun _ =>
    .bind cancels fun _ => .ite (fun _ => .pure _) fun _ => ?_
  exact .bind doTimer_sameCallbacks fun _ => reads

theorem startFront_sameCallbacks : Keeps SameCallbacks startFront := by
  refine .bind .get fun session => ?_
  cases session.items.front? with
  | none => exact .throw _
  | some work =>
      exact .bind makeLock_sameCallbacks fun _ => .modify fun _ => rfl

theorem reply_sameCallbacks (work : HttpResponse) :
    Keeps SameCallbacks (reply work) := by
  have responds : Keeps SameCallbacks (response work) :=
    .bind (.modify fun _ => rfl) fun _ => .bind .get fun _ =>
      .ite (fun _ => startFront_sameCallbacks) fun _ => .pure _
  exact .bind (.modify fun _ => rfl) fun _ => responds

theorem replyAll_sameCallbacks (works : List HttpResponse) :
    Keeps SameCallbacks (replyAll works) := by
  induction works with
  | nil => exact .pure _
  | cons work works induction =>
      exact .bind (reply_sameCallbacks work) fun _ => induction

theorem requestReadHandler_sameCallbacks (server : HttpServer)
    (handling : HandlerRun) (connecting : ConnectRun) :
    Keeps SameCallbacks
      (requestReadHandler server handling connecting) := by
  have connects : Keeps SameCallbacks (serverConnect connecting) :=
    .bind (.modify fun _ => rfl) fun _ =>
      .ite (fun _ => .throw _) fun _ => .pure _
  have handles : Keeps SameCallbacks (handleRequest handling) :=
    .bind (.modify fun _ => rfl) fun _ =>
      .bind (replyAll_sameCallbacks _) fun _ =>
        .bind (.modify fun _ => rfl) fun _ =>
          .ite (fun _ => .throw _) fun _ => .pure _
  refine .bind .get fun _ => .ite (fun _ => ?_) fun _ => ?_
  · exact .bind connects fun _ => doClose_sameCallbacks
  · exact .bind handles fun _ => .bind .get fun _ =>
      .ite (fun _ => doRead_sameCallbacks) fun _ => doClose_sameCallbacks

theorem readFailedHandler_sameCallbacks (error : ReadError) :
    Keeps SameCallbacks (readFailedHandler error) := by
  have closes : ∀ error, Keeps SameCallbacks (do
      onException error
      doClose) := fun _ =>
    .bind (.modify fun _ => rfl) fun _ => doClose_sameCallbacks
  cases error with
  | endOfStream => exact doClose_sameCallbacks
  | code ec =>
      cases ec with
      | operationAborted => exact .pure _
      | closed => exact closes _
      | other value => exact closes _

theorem onWrite_sameCallbacks (close : Bool) (ec : Option ErrorCode) :
    Keeps SameCallbacks (onWrite close ec) := by
  have closes : ∀ error, Keeps SameCallbacks (do
      onException error
      doClose) := fun _ =>
    .bind (.modify fun _ => rfl) fun _ => doClose_sameCallbacks
  have advances : Keeps SameCallbacks queueOnWrite :=
    .bind .get fun _ => .bind (.modify fun _ => rfl) fun _ =>
      .bind .get fun _ => .ite
        (fun _ => .bind startFront_sameCallbacks fun _ => .pure _)
        fun _ => .pure _
  cases ec with
  | none =>
      refine .ite (fun _ => doClose_sameCallbacks) fun _ => ?_
      exact .bind advances fun _ =>
        .ite (fun _ => doRead_sameCallbacks) fun _ => .pure _
  | some ec =>
      cases ec with
      | operationAborted => exact .pure _
      | closed => exact closes _
      | other value => exact closes _

theorem timerHandler_sameCallbacks (ec : Option ErrorCode) :
    Keeps SameCallbacks (timerHandler ec) := by
  have closes : Keeps SameCallbacks closeSocket := .modify fun _ => rfl
  have reports : ∀ error, Keeps SameCallbacks (do
      onException error
      closeSocket) := fun _ => .bind (.modify fun _ => rfl) fun _ => closes
  cases ec with
  | none => exact closes
  | some ec =>
      cases ec with
      | operationAborted => exact .pure _
      | closed => exact reports _
      | other value => exact reports _

/-- The locker calls back with the last lock. -/
theorem runHandler_calledBack {body : HttpCode Unit} {before : HttpSession}
    (kept : Keeps SameCallbacks body)
    (same : before.locker.callbacks = session.locker.callbacks)
    (called : session.locker.callbacks <
      (runHandler body before).locker.callbacks) :
    (runHandler body before).locker.lockCount = 0 := by
  have sameCallbacks := kept before
  unfold KeepsAt after SameCallbacks at sameCallbacks
  unfold runHandler at called ⊢
  cases outcome : body before with
  | ok _ next =>
      simp only [outcome] at sameCallbacks called ⊢
      exact AsyncLocker.unlock_calledBack (sameCallbacks.trans same) called
  | error error next =>
      simp only [outcome] at sameCallbacks called ⊢
      exact AsyncLocker.unlock_calledBack (sameCallbacks.trans same) called

theorem step_calledBack {server : HttpServer} {event : HttpEvent}
    {next : HttpSession} (stepped : session.step server event = some next)
    (called : session.locker.callbacks < next.locker.callbacks) :
    next.locker.lockCount = 0 := by
  cases event with
  | requestRead wire handling connecting =>
      obtain ⟨-, isNext⟩ := Option.ite_none_right_eq_some.mp stepped
      cases isNext
      exact runHandler_calledBack
        (requestReadHandler_sameCallbacks server handling connecting) rfl
        called
  | readFailed error =>
      obtain ⟨-, isNext⟩ := Option.ite_none_right_eq_some.mp stepped
      cases isNext
      exact runHandler_calledBack (readFailedHandler_sameCallbacks error) rfl
        called
  | writeDone ec =>
      obtain ⟨work, -, rfl⟩ := Option.map_eq_some_iff.mp stepped
      exact runHandler_calledBack (onWrite_sameCallbacks _ ec) rfl called
  | timerExpired =>
      obtain ⟨timer, -, rfl⟩ := step_timerExpired stepped
      exact absurd called (Nat.lt_irrefl _)
  | timerDone ec =>
      obtain ⟨timer, -, rfl⟩ := Option.map_eq_some_iff.mp stepped
      exact runHandler_calledBack (timerHandler_sameCallbacks ec) rfl called
  | doClose =>
      rw [step_doClose stepped] at called
      exact absurd called (Nat.lt_irrefl _)
  | lateReply work =>
      obtain ⟨-, isNext⟩ := Option.ite_none_left_eq_some.mp stepped
      rw [← Option.some.inj isNext] at called
      exact absurd called (Nat.not_lt_of_ge
        (Nat.le_of_eq (reply_sameCallbacks work session)))

end

/-! ## The session of a failed start -/

/-- What `run` leaves of a new session when the operation throws. -/
def failed (fault : RunFault) : HttpSession :=
  after (runWith (some fault)) constructed

theorem runWith_throws (fault : RunFault) :
    runWith (some fault) constructed = .error fault.error (failed fault) := by
  obtain ⟨op, error⟩ := fault
  cases op with
  | firstWait => rfl
  | expiresAfter cancels => cases cancels <;> rfl
  | secondWait => rfl
  | asyncRead => rfl

theorem failed_counted (fault : RunFault) : (failed fault).Counted 0 := by
  obtain ⟨op, error⟩ := fault
  cases op with
  | firstWait => rfl
  | expiresAfter cancels => cases cancels <;> rfl
  | secondWait => rfl
  | asyncRead => rfl

end HttpSession

/-! ## The set -/

namespace HttpSessions

/-- What the set keeps to, whatever its sessions do. -/
structure SetSound (sessions : HttpSessions) : Prop where
  kept : ∀ number session, sessions.set.find? number = some session →
    number ∈ sessions.history.inserted ∧ session.Counted 0
  /-- Only drained sessions wait to be erased. -/
  erases : ∀ number, .erase (some number) ∈ sessions.strand →
    number ∈ sessions.history.inserted ∧
      ∀ session, sessions.set.find? number = some session →
        session.locker.lockCount = 0
  once : (sessions.history.erased.map Erasure.session).Nodup
  gone : ∀ erasure ∈ sessions.history.erased,
    erasure.session ∈ sessions.history.inserted ∧
      sessions.set.find? erasure.session = none
  drained : ∀ erasure ∈ sessions.history.erased, erasure.lockCount = 0
  shutdowns : .shutdown ∈ sessions.strand → sessions.runLock = false

section

variable {sessions : HttpSessions}

/-- Only the locks, the reports and fewer jobs. -/
theorem SetSound.congr {after : HttpSessions} (sound : sessions.SetSound)
    (set : after.set = sessions.set)
    (inserted : after.history.inserted = sessions.history.inserted)
    (erased : after.history.erased = sessions.history.erased)
    (strand : ∀ job ∈ after.strand, job ∈ sessions.strand)
    (runLock : after.runLock = sessions.runLock) : after.SetSound where
  kept := by
    rw [set, inserted]
    exact sound.kept
  erases number waits := by
    rw [set, inserted]
    exact sound.erases number (strand _ waits)
  once := by
    rw [erased]
    exact sound.once
  gone := by
    rw [set, inserted, erased]
    exact sound.gone
  drained := by
    rw [erased]
    exact sound.drained
  shutdowns waits := by
    rw [runLock]
    exact sound.shutdowns (strand _ waits)

theorem SetSound.unlockShutdown (sound : sessions.SetSound) :
    sessions.unlockShutdown.SetSound := by
  rw [HttpSessions.unlockShutdown]
  split
  · exact sound.congr rfl rfl rfl (fun _ => id) rfl
  · exact sound

theorem SetSound.dispatch (sound : sessions.SetSound) {job : SessionsJob}
    (erases : ∀ number, job = .erase (some number) →
      number ∈ sessions.history.inserted ∧
        ∀ session, sessions.set.find? number = some session →
          session.locker.lockCount = 0)
    (shutdowns : job = .shutdown → sessions.runLock = false) :
    (sessions.dispatch job).SetSound := by
  rw [HttpSessions.dispatch]
  split
  · refine ⟨sound.kept, ?_, sound.once, sound.gone, sound.drained, ?_⟩
    · intro number waits
      rcases List.mem_append.mp waits with old | new
      · exact sound.erases number old
      · exact erases number (List.mem_singleton.mp new).symm
    · intro waits
      rcases List.mem_append.mp waits with old | new
      · exact sound.shutdowns old
      · exact shutdowns (List.mem_singleton.mp new).symm
  · exact sound.congr rfl rfl rfl (fun _ => id) rfl

/-! ## Jobs -/

theorem SetSound.erased (sound : sessions.SetSound) {number : Nat}
    {session : HttpSession}
    (found : sessions.set.find? number = some session)
    (drained : session.locker.lockCount = 0) :
    (sessions.erased number session).SetSound := by
  have others : ∀ other after,
      (sessions.set.erase number).find? other = some after →
        sessions.set.find? other = some after := by
    intro other after isFound
    rw [OrderedMap.find?_erase] at isFound
    split at isFound
    · cases isFound
    · exact isFound
  constructor
  · intro other after isFound
    exact sound.kept other after (others other after isFound)
  · intro other waits
    obtain ⟨inserted, drains⟩ := sound.erases other waits
    exact ⟨inserted, fun after isFound =>
      drains after (others other after isFound)⟩
  · rw [HttpSessions.erased, List.map_append]
    refine List.nodup_append.mpr ⟨sound.once, List.nodup_singleton _, ?_⟩
    rintro other isErased _ isNew rfl
    obtain ⟨erasure, isErasure, same⟩ := List.mem_map.mp isErased
    have missing := (sound.gone erasure isErasure).2
    rw [same, List.mem_singleton.mp isNew, found] at missing
    cases missing
  · intro erasure isErasure
    rw [HttpSessions.erased, OrderedMap.find?_erase]
    rcases List.mem_append.mp isErasure with old | new
    · obtain ⟨inserted, missing⟩ := sound.gone erasure old
      exact ⟨inserted, by rw [missing, ite_self]⟩
    · rw [List.mem_singleton.mp new]
      exact ⟨(sound.kept number session found).1, if_pos rfl⟩
  · intro erasure isErasure
    rcases List.mem_append.mp isErasure with old | new
    · exact sound.drained erasure old
    · rw [List.mem_singleton.mp new]
      exact drained
  · exact sound.shutdowns

theorem eraseJob_eq_ok {session : Option Nat} {next : HttpSessions}
    (erases : eraseJob session sessions = .ok next) :
    ∃ number found, session = some number ∧
      sessions.set.find? number = some found ∧
      (next = sessions.erased number found ∨
        next = (sessions.erased number found).unlockShutdown) := by
  rw [eraseJob] at erases
  split at erases
  · cases erases
  · next number found isFound =>
      obtain ⟨wanted, isSome, mapped⟩ := Option.bind_eq_some_iff.mp isFound
      obtain ⟨item, isItem, pair⟩ := Option.map_eq_some_iff.mp mapped
      obtain ⟨rfl, rfl⟩ := Prod.mk.inj pair
      refine ⟨wanted, item, isSome, isItem, ?_⟩
      cases erases
      split
      · exact .inr rfl
      · exact .inl rfl

theorem eraseJob_eq_error {number : Nat} {error : Exception}
    (threw : eraseJob (some number) sessions = .error error) :
    sessions.set.find? number = none := by
  rw [eraseJob] at threw
  cases found : sessions.set.find? number with
  | none => rfl
  | some session =>
      rw [Option.bind_some, found] at threw
      cases threw

theorem SetSound.eraseJob {session : Option Nat} {next : HttpSessions}
    (sound : sessions.SetSound)
    (drains : ∀ number, session = some number → ∀ found,
      sessions.set.find? number = some found → found.locker.lockCount = 0)
    (erases : eraseJob session sessions = .ok next) : next.SetSound := by
  obtain ⟨number, found, isSession, isFound, isNext⟩ := eraseJob_eq_ok erases
  have erased := sound.erased isFound (drains number isSession found isFound)
  rcases isNext with rfl | rfl
  · exact erased
  · exact erased.unlockShutdown

theorem SetSound.eraseInline {session : Option Nat}
    (sound : sessions.SetSound)
    (drains : ∀ number, session = some number → ∀ found,
      sessions.set.find? number = some found →
        found.locker.lockCount = 0) :
    (sessions.eraseInline session).SetSound := by
  rw [HttpSessions.eraseInline]
  split
  · exact sound.congr rfl rfl rfl (fun _ => id) rfl
  · next locker _ =>
      have locked : SetSound { sessions with locker := locker } :=
        sound.congr rfl rfl rfl (fun _ => id) rfl
      dsimp only
      split
      · next next erases =>
          have erased := locked.eraseJob drains erases
          exact erased.congr rfl rfl rfl (fun _ => id) rfl
      · exact sound.congr rfl rfl rfl (fun _ => id) rfl

theorem SetSound.errorPath (sound : sessions.SetSound) :
    sessions.errorPath.SetSound := by
  have asked : SetSound { sessions with history :=
      { sessions.history with
        errorPath := sessions.history.errorPath ++ [none] } } :=
    sound.congr rfl rfl rfl (fun _ => id) rfl
  apply asked.eraseInline
  intro number isNumber
  cases isNumber

theorem SetSound.fresh_key (sound : sessions.SetSound) {socket : Nat}
    (fresh : socket ∉ sessions.history.inserted) :
    socket ∉ sessions.set.keys := by
  rw [← OrderedMap.find?_eq_none]
  cases found : sessions.set.find? socket with
  | none => rfl
  | some session => exact absurd (sound.kept socket session found).1 fresh

theorem SetSound.started (sound : sessions.SetSound) {socket : Nat}
    {session : HttpSession} (fresh : socket ∉ sessions.history.inserted)
    (counted : session.Counted 0) :
    (sessions.started socket session).SetSound := by
  have newKey := sound.fresh_key fresh
  have elsewhere : ∀ number ∈ sessions.history.inserted,
      (sessions.started socket session).set.find? number =
        sessions.set.find? number := by
    intro number inserted
    rw [HttpSessions.started, OrderedMap.find?_insert newKey]
    apply if_neg
    rintro rfl
    exact fresh inserted
  constructor
  · intro number found isFound
    rw [HttpSessions.started, OrderedMap.find?_insert newKey] at isFound
    split at isFound
    · next same =>
        cases isFound
        rw [same]
        exact ⟨List.mem_append_right _ List.mem_cons_self, counted⟩
    · obtain ⟨inserted, isCounted⟩ := sound.kept number found isFound
      exact ⟨List.mem_append_left _ inserted, isCounted⟩
  · intro number waits
    obtain ⟨inserted, drains⟩ := sound.erases number waits
    rw [elsewhere number inserted]
    exact ⟨List.mem_append_left _ inserted, drains⟩
  · exact sound.once
  · intro erasure isErasure
    obtain ⟨inserted, missing⟩ := sound.gone erasure isErasure
    rw [elsewhere _ inserted]
    exact ⟨List.mem_append_left _ inserted, missing⟩
  · exact sound.drained
  · exact sound.shutdowns

theorem SetSound.emplaceJob (sound : sessions.SetSound) {socket : Nat}
    (fresh : socket ∉ sessions.history.inserted) (fault : Option RunFault) :
    (sessions.emplaceJob socket fault).SetSound := by
  rw [HttpSessions.emplaceJob]
  split
  · exact sound.congr rfl rfl rfl (fun _ => id) rfl
  cases fault with
  | none => exact sound.started fresh HttpSession.started_counted
  | some fault =>
      rw [HttpSession.runWith_throws]
      have started := sound.started fresh (HttpSession.failed_counted fault)
      have isKey : (sessions.started socket
          (HttpSession.failed fault)).set.find? socket =
            some (HttpSession.failed fault) := by
        rw [HttpSessions.started,
          OrderedMap.find?_insert (sound.fresh_key fresh), if_pos rfl]
      have drained : ((sessions.started socket
          (HttpSession.failed fault)).drainedInline socket
            (HttpSession.failed fault)).SetSound := by
        rw [drainedInline]
        split
        · next last =>
            apply started.eraseInline
            rintro number isNumber found isFound
            cases isNumber
            cases isKey.symm.trans isFound
            exact last
        · exact started
      exact drained.errorPath.congr rfl rfl rfl (fun _ => id) rfl

theorem SetSound.shutdownJob (sound : sessions.SetSound) :
    sessions.shutdownJob.SetSound := by
  rw [HttpSessions.shutdownJob]
  split
  · exact sound.unlockShutdown
  have closed : ∀ number after,
      (sessions.set.mapItems (Effects.after HttpSession.doClose)).find?
        number = some after →
      ∃ before, sessions.set.find? number = some before ∧
        after = before.shutDown := by
    intro number after isFound
    rw [OrderedMap.find?_mapItems, Option.map_eq_some_iff] at isFound
    obtain ⟨before, isBefore, rfl⟩ := isFound
    exact ⟨before, isBefore, rfl⟩
  constructor
  · intro number after isFound
    obtain ⟨before, isBefore, rfl⟩ := closed number after isFound
    obtain ⟨inserted, counted⟩ := sound.kept number before isBefore
    exact ⟨inserted, counted.shutDown⟩
  · intro number waits
    obtain ⟨inserted, drains⟩ := sound.erases number waits
    refine ⟨inserted, fun after isFound => ?_⟩
    obtain ⟨before, isBefore, rfl⟩ := closed number after isFound
    exact drains before isBefore
  · exact sound.once
  · intro erasure isErasure
    obtain ⟨inserted, missing⟩ := sound.gone erasure isErasure
    refine ⟨inserted, ?_⟩
    rw [OrderedMap.find?_mapItems, missing]
    rfl
  · exact sound.drained
  · exact sound.shutdowns

/-! ## Steps -/

/-- The first job of the strand runs. -/
theorem SetSound.perform (sound : sessions.SetSound) (fault : Option RunFault)
    {job : SessionsJob} {jobs : List SessionsJob}
    (isNext : sessions.strand = job :: jobs)
    (fresh : ∀ socket, job = .emplace socket →
      socket ∉ sessions.history.inserted) :
    ({ sessions with strand := jobs }.perform fault job).SetSound := by
  have isJob : job ∈ sessions.strand := isNext ▸ List.mem_cons_self
  have popped : SetSound { sessions with strand := jobs } := by
    refine sound.congr rfl rfl rfl (fun other waits => ?_) rfl
    rw [isNext]
    exact List.mem_cons_of_mem job waits
  cases job with
  | emplace socket => exact popped.emplaceJob (fresh socket rfl) fault
  | erase session =>
      rw [HttpSessions.perform]
      split
      · next next erases =>
          apply popped.eraseJob _ erases
          rintro number rfl
          exact (sound.erases number isJob).2
      · exact popped.congr rfl rfl rfl (fun _ => id) rfl
  | shutdown => exact popped.shutdownJob

theorem SetSound.sessionStep {server : HttpServer} {number : Nat}
    {event : HttpEvent} {next : HttpSessions} (sound : sessions.SetSound)
    (stepped : sessions.sessionStep server number event = some next) :
    next.SetSound := by
  obtain ⟨session, isSession, changes⟩ := Option.bind_eq_some_iff.mp stepped
  obtain ⟨after, sessionStepped, rfl⟩ := Option.map_eq_some_iff.mp changes
  obtain ⟨inserted, counted⟩ := sound.kept number session isSession
  have found : ∀ other,
      (sessions.set.modify number fun _ => after).find? other =
        if other = number then some after else sessions.set.find? other := by
    intro other
    rw [OrderedMap.find?_modify]
    split
    · next same =>
        rw [same, isSession]
        rfl
    · rfl
  have changed : SetSound { sessions with
      set := sessions.set.modify number fun _ => after } := by
    constructor
    · intro other item isItem
      rw [found] at isItem
      split at isItem
      · next same =>
          cases isItem
          rw [same]
          exact ⟨inserted, HttpSession.step_counted counted sessionStepped⟩
      · exact sound.kept other item isItem
    · intro other waits
      obtain ⟨otherInserted, drains⟩ := sound.erases other waits
      refine ⟨otherInserted, fun item isItem => ?_⟩
      rw [found] at isItem
      split at isItem
      · next same =>
          cases isItem
          have drained := drains session (same ▸ isSession)
          exact HttpSession.step_drained counted drained sessionStepped
      · exact drains item isItem
    · exact sound.once
    · intro erasure isErasure
      obtain ⟨wasInserted, missing⟩ := sound.gone erasure isErasure
      refine ⟨wasInserted, ?_⟩
      rw [found, if_neg]
      · exact missing
      · intro same
        rw [same, isSession] at missing
        cases missing
    · exact sound.drained
    · exact sound.shutdowns
  dsimp only
  split
  · next called =>
      apply changed.dispatch
      · intro other isErase
        cases isErase
        refine ⟨inserted, fun item isItem => ?_⟩
        rw [found, if_pos rfl] at isItem
        cases isItem
        exact HttpSession.step_calledBack sessionStepped called
      · intro isShutdown
        cases isShutdown
  · exact changed

theorem SetSound.shutdown (sound : sessions.SetSound) :
    sessions.shutdown.SetSound := by
  rw [HttpSessions.shutdown]
  split
  · have stopped : SetSound { sessions with
        runLock := false, shutdownLock := true } :=
      ⟨sound.kept, sound.erases, sound.once, sound.gone, sound.drained,
        fun _ => rfl⟩
    apply stopped.dispatch
    · intro number isErase
      cases isErase
    · exact fun _ => rfl
  · exact sound

theorem SetSound.asyncEmplace (sound : sessions.SetSound) :
    sessions.asyncEmplace.SetSound := by
  have taken : SetSound { sessions with history :=
      { sessions.history with
        sockets := sessions.history.sockets + 1 } } :=
    sound.congr rfl rfl rfl (fun _ => id) rfl
  apply taken.dispatch
  · intro number isErase
    cases isErase
  · intro isShutdown
    cases isShutdown

/-! ## Runs -/

/-- The locks, the books and the set are in order. -/
structure Sound (sessions : HttpSessions) : Prop where
  counted : sessions.Counted 0
  books : sessions.books.Keep []
  set : sessions.SetSound

theorem constructed_sound : constructed.Sound := by
  refine ⟨⟨rfl, fun _ => rfl⟩, ?_, ?_⟩
  · constructor <;> simp [books, constructed, waiting]
  · constructor <;> simp [constructed, OrderedMap.find?, OrderedMap.empty]

/-- The socket of a waiting job was not inserted. -/
theorem Sound.fresh (sound : sessions.Sound) {socket : Nat}
    (waits : .emplace socket ∈ sessions.strand) :
    socket ∉ sessions.history.inserted := by
  intro inserted
  have isWaiting : socket ∈ sessions.waiting :=
    List.mem_filterMap.mpr ⟨_, waits, rfl⟩
  exact (List.nodup_append.mp sound.books.nodup).2.2 socket inserted socket
    isWaiting rfl

theorem Sound.step {server : HttpServer} {event : SessionsEvent}
    {next : HttpSessions} (sound : sessions.Sound)
    (stepped : sessions.step server event = some next) : next.Sound := by
  by_cases isShutdown : event = .shutdown
  · subst isShutdown
    cases stepped
    obtain ⟨books, counted⟩ := shutdown_keeps sound.counted
    refine ⟨counted, ?_, sound.set.shutdown⟩
    rw [books]
    apply sound.books.shuts
    intro socket isAccepted
    cases isAccepted
  obtain ⟨moves, counted⟩ := step_moves stepped isShutdown sound.counted
  refine ⟨counted, sound.books.moves moves, ?_⟩
  cases event with
  | emplace =>
      cases stepped
      exact sound.set.asyncEmplace
  | run fault =>
      rw [HttpSessions.step] at stepped
      split at stepped
      · cases stepped
      · next job jobs isNext =>
          cases stepped
          have performed : SetSound _ := sound.set.perform fault isNext (by
            rintro socket rfl
            exact sound.fresh (isNext ▸ List.mem_cons_self))
          exact performed.congr rfl rfl rfl (fun _ => id) rfl
  | session number event => exact sound.set.sessionStep stepped
  | shutdown => exact absurd rfl isShutdown

theorem sound_of_reachable {server : HttpServer}
    (reached : (sessionsMachine server).Reachable sessions) :
    sessions.Sound := by
  apply reached.invariant Sound
  · rintro _ rfl
    exact constructed_sound
  · intro before event after sound _ stepped
    exact sound.step stepped

/-- Every session is erased at most once, and with the last of its locks. -/
theorem erased_once {server : HttpServer}
    (reached : (sessionsMachine server).Reachable sessions) :
    (sessions.history.erased.map Erasure.session).Nodup ∧
      ∀ erasure ∈ sessions.history.erased, erasure.lockCount = 0 :=
  have sound := sound_of_reachable reached
  ⟨sound.set.once, sound.set.drained⟩

end

end HttpSessions

end Webservice
