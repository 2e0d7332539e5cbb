import Webservice.Executor.Once
import Webservice.Http.Settling
import Webservice.Server.Step

/-!
# Tearing a server down

The destructor of a server calls `shutdown()` and `block()`.  An outstanding
accept is all that keeps an idle server running, and `shutdown_fn_` aborts it
before it shuts the HTTP sessions down: if the threads are through before
that, the job that `http_sessions::shutdown` defers is left in the queue of
an `io_context` that has stopped, with a lock of a locker that is gone when
the queue is destroyed.
-/

namespace Webservice

/-! ## The listener on the threads of a server -/

namespace Listener

section

variable {server : HttpServer} {listener next : Listener}

/-- The sessions of a listener that is run by threads. -/
theorem http_reachable
    (reached : (hosted server).machine.Reachable listener) :
    (sessionsMachine server).Reachable listener.http := by
  refine reached.view Listener.http ?_ ?_
  · rintro _ rfl
    rfl
  · intro before event after _ _ stepped
    obtain ⟨-, stepped⟩ := stepArising_eq_some stepped
    cases event with
    | acceptDone ec =>
        obtain ⟨-, isNext⟩ := Option.ite_none_right_eq_some.mp stepped
        cases isNext
        cases ec with
        | none => exact .inr ⟨.emplace, rfl⟩
        | some ec => cases ec <;> exact .inl rfl
    | http event =>
        obtain ⟨http, taken, rfl⟩ := Option.map_eq_some_iff.mp stepped
        exact .inr ⟨event, taken⟩
    | shutdown =>
        cases stepped
        exact .inl rfl

/-- Only `http().shutdown()` gives up the lock of the sessions. -/
theorem stepArising_runLock (sound : listener.http.Sound)
    {event : ListenerEvent} (other : event ≠ .http .shutdown)
    (stepped : listener.stepArising server event = some next) :
    next.http.runLock = listener.http.runLock := by
  obtain ⟨-, stepped⟩ := stepArising_eq_some stepped
  cases event with
  | acceptDone ec =>
      obtain ⟨-, isNext⟩ := Option.ite_none_right_eq_some.mp stepped
      cases isNext
      cases ec with
      | none => exact (HttpSessions.asyncEmplace_moves sound.counted).runLock
      | some ec => cases ec <;> rfl
  | http event =>
      obtain ⟨http, taken, rfl⟩ := Option.map_eq_some_iff.mp stepped
      have running : event ≠ .shutdown := by
        rintro rfl
        exact other rfl
      exact (HttpSessions.step_moves taken running sound.counted).1.runLock
  | shutdown =>
      cases stepped
      rfl

/-- Only `shutdown` closes the acceptor. -/
theorem stepArising_closed {event : ListenerEvent}
    (other : event ≠ .shutdown)
    (stepped : listener.stepArising server event = some next) :
    next.closed = listener.closed := by
  obtain ⟨-, stepped⟩ := stepArising_eq_some stepped
  cases event with
  | acceptDone ec =>
      obtain ⟨-, isNext⟩ := Option.ite_none_right_eq_some.mp stepped
      cases isNext
      cases ec with
      | none => rfl
      | some ec => cases ec <;> rfl
  | http event =>
      obtain ⟨http, -, rfl⟩ := Option.map_eq_some_iff.mp stepped
      rfl
  | shutdown => exact absurd rfl other

theorem idle_of_busy (notBusy : listener.busy = false) :
    listener.accepts = 0 ∧ listener.http.Idle := by
  have none_busy := (busy_iff.not.mp (Bool.eq_false_iff.mp notBusy))
  rw [not_or, not_or, not_not] at none_busy
  obtain ⟨noAccept, noJob, noHandler⟩ := none_busy
  refine ⟨Nat.eq_zero_of_not_pos noAccept, noJob, ?_⟩
  intro number session found
  by_contra some_handler
  exact noHandler ⟨number, session, found, Nat.pos_of_ne_zero some_handler⟩

/-- A call that meets no session shuts the listener or the sessions down. -/
theorem shuts_of_call (empty : listener.http.set.isEmpty = true)
    {event : ListenerEvent} (notHandler : isHandler event = false)
    (stepped : listener.stepArising server event = some next) :
    event = .shutdown ∨ event = .http .shutdown := by
  obtain ⟨-, stepped⟩ := stepArising_eq_some stepped
  cases event with
  | acceptDone ec => cases notHandler
  | shutdown => exact .inl rfl
  | http event =>
      obtain ⟨http, taken, rfl⟩ := Option.map_eq_some_iff.mp stepped
      cases event with
      | emplace => cases notHandler
      | run fault => cases notHandler
      | shutdown => exact .inr rfl
      | session number event =>
          obtain ⟨session, isSession, -⟩ := Option.bind_eq_some_iff.mp taken
          rw [OrderedMap.isEmpty_iff_find?.mp empty] at isSession
          cases isSession

/-- One accept is outstanding until the acceptor is closed, unless an accept
has failed. -/
def Accepts (listener : Listener) : Prop :=
  0 < listener.accepts ∨ listener.closed = true ∨
    ∃ ec, .systemError ec "server listener accept" ∈ listener.reported

theorem accepts_of_reachable
    (reached : (hosted server).machine.Reachable listener) :
    listener.Accepts := by
  apply reached.invariant Accepts
  · rintro _ rfl
    exact .inl Nat.one_pos
  · intro before event after accepts _ stepped
    obtain ⟨-, stepped⟩ := stepArising_eq_some stepped
    cases event with
    | acceptDone ec =>
        obtain ⟨⟨some_accept, aborted⟩, isNext⟩ :=
          Option.ite_none_right_eq_some.mp stepped
        cases isNext
        cases ec with
        | none => exact .inl (Nat.succ_pos _)
        | some ec =>
            cases ec with
            | operationAborted => exact .inr (.inl (aborted rfl))
            | closed =>
                exact .inr (.inr ⟨_, List.mem_append_right _
                  List.mem_cons_self⟩)
            | other value =>
                exact .inr (.inr ⟨_, List.mem_append_right _
                  List.mem_cons_self⟩)
    | http event =>
        obtain ⟨http, taken, rfl⟩ := Option.map_eq_some_iff.mp stepped
        exact accepts
    | shutdown =>
        cases stepped
        exact .inr (.inl rfl)

end

end Listener

namespace HttpSessions

/-- A set that is shut down where nothing goes on any more keeps the job and
its lock. -/
theorem shutdown_idle {sessions : HttpSessions} (idle : sessions.Idle)
    (settles : sessions.Settles none) (sound : sessions.Sound)
    (running : sessions.runLock = true) :
    sessions.shutdown.set = sessions.set ∧
      sessions.shutdown.strand = [.shutdown] ∧
      sessions.shutdown.locker.lockCount = 2 := by
  obtain ⟨-, -, locks⟩ := settles.idle sound idle
  rw [running] at locks
  have held : 0 < sessions.locker.lockCount := locks ▸ Nat.one_pos
  rw [shutdown, if_pos running, dispatch]
  simp only [AsyncLocker.makeLock_of_pos held]
  exact ⟨trivial, by rw [idle.1]; rfl, congrArg Nat.succ locks⟩

end HttpSessions

/-! ## The shutdown of a server -/

section

variable {Service Event : Type} {server : HttpServer}
  {ws : Hosted Service Event Exception} {wsShutdown : List Event}
  {threadCount : Nat}

/-- `http().shutdown()`, as `shutdown_fn_` calls it. -/
def httpShutdown : ListenerEvent ⊕ Event := .inl (.http .shutdown)

namespace ServerExecutor

variable {executor next : Executor (Listener × Service) (ListenerEvent ⊕ Event)}

/-- Only `shutdown_fn_` shuts the listener and the HTTP sessions down. -/
def UserCalls
    (_ : Executor (Listener × Service) (ListenerEvent ⊕ Event)) :
    ExecutorEvent (ListenerEvent ⊕ Event) → Prop
  | .pool (.call (.inl event)) => event ≠ .shutdown ∧ event ≠ .http .shutdown
  | _ => True

/-- What the pool of a server keeps to; `called` tells that `shutdown_fn_` has
called `http().shutdown()`. -/
structure Ends (called : Prop)
    (pool : WorkerPool (Listener × Service) (ListenerEvent ⊕ Event)
      Exception) : Prop where
  before : ¬called →
    pool.program.1.http.runLock = true ∧ httpShutdown ∉ pool.late
  after : called → pool.program.1.http.runLock = false
  running : pool.stopped = false → pool.late = []
  rests : pool.stopped = true → pool.program.1.accepts = 0 ∧
    pool.program.1.http.set.isEmpty = true ∧
      (httpShutdown ∉ pool.late → pool.program.1.http.Idle)
  /-- The job of a call that comes after the threads have gone. -/
  tooLate : httpShutdown ∈ pool.late →
    pool.program.1.http.strand = [.shutdown] ∧
      pool.program.1.http.locker.lockCount = 2

section

variable {called : Prop}
  {pool after : WorkerPool (Listener × Service) (ListenerEvent ⊕ Event)
    Exception}

theorem Ends.stays (ends : Ends called pool)
    (settles : pool.program.1.http.Settles none)
    (sound : pool.program.1.http.Sound)
    (program : after.program = pool.program) (late : after.late = pool.late)
    (stops : pool.stopped = true → after.stopped = true)
    (stopped : after.stopped = true →
      pool.stopped = true ∨
        after.hasWork (serverHosted server ws) = false) :
    Ends called after := by
  constructor
  · rw [program, late]
    exact ends.before
  · rw [program]
    exact ends.after
  · intro running
    rw [late]
    apply ends.running
    rw [Bool.eq_false_iff]
    intro wasStopped
    exact absurd (running.symm.trans (stops wasStopped)) Bool.false_ne_true
  · intro isStopped
    rcases stopped isStopped with wasStopped | noWork
    · rw [program, late]
      exact ends.rests wasStopped
    · obtain ⟨notBusy, -⟩ := WorkerPool.hasWork_eq_false.mp noWork
      have idle : after.program.1.busy = false :=
        (Bool.or_eq_false_iff.mp notBusy).1
      rw [program] at idle ⊢
      obtain ⟨noAccept, idle⟩ := Listener.idle_of_busy idle
      exact ⟨noAccept, (settles.idle sound idle).1, fun _ => idle⟩
  · rw [program, late]
    exact ends.tooLate

/-- A handler runs while the threads are there. -/
theorem Ends.handles (ends : Ends called pool)
    (sound : pool.program.1.http.Sound)
    {event : ListenerEvent ⊕ Event}
    (isHandler : (serverHosted server ws).isHandler event = true)
    (taken : (serverHosted server ws).step pool.program event =
      some after.program)
    (running : pool.stopped = false) (late : after.late = pool.late)
    (stillRunning : after.stopped = false) : Ends called after := by
  have inTime := ends.running running
  have runLock : after.program.1.http.runLock =
      pool.program.1.http.runLock := by
    cases event with
    | inl event =>
        obtain ⟨listener, stepped, isNext⟩ := Option.map_eq_some_iff.mp taken
        rw [← isNext]
        apply Listener.stepArising_runLock sound _ stepped
        rintro rfl
        cases isHandler
    | inr event =>
        obtain ⟨service, -, isNext⟩ := Option.map_eq_some_iff.mp taken
        rw [← isNext]
  rw [inTime] at late
  constructor
  · rw [runLock, late]
    exact fun notCalled => ⟨(ends.before notCalled).1, List.not_mem_nil⟩
  · rw [runLock]
    exact ends.after
  · exact fun _ => late
  · intro isStopped
    exact absurd (stillRunning.symm.trans isStopped) Bool.false_ne_true
  · rw [late]
    exact fun isLate => absurd isLate List.not_mem_nil

/-- Another call than that of `http().shutdown()`. -/
theorem Ends.calls (ends : Ends called pool)
    (sound : pool.program.1.http.Sound)
    {event : ListenerEvent ⊕ Event} (other : event ≠ httpShutdown)
    (notHandler : (serverHosted server ws).isHandler event = false)
    (taken : (serverHosted server ws).step pool.program event =
      some after.program)
    (late : after.late = (pool.late ++ if pool.stopped then [event] else []))
    (stopped : after.stopped = pool.stopped) : Ends called after := by
  have runLock : after.program.1.http.runLock =
        pool.program.1.http.runLock ∧
      (pool.stopped = true → after.program.1.http = pool.program.1.http ∧
        after.program.1.accepts = pool.program.1.accepts) := by
    cases event with
    | inl event =>
        obtain ⟨listener, stepped, isNext⟩ := Option.map_eq_some_iff.mp taken
        rw [← isNext]
        have different : event ≠ .http .shutdown := by
          rintro rfl
          exact other rfl
        refine ⟨Listener.stepArising_runLock sound different stepped,
          fun isStopped => ?_⟩
        obtain ⟨-, empty, -⟩ := ends.rests isStopped
        rcases Listener.shuts_of_call empty notHandler stepped with
          rfl | rfl
        · cases stepped
          exact ⟨rfl, rfl⟩
        · exact absurd rfl different
    | inr event =>
        obtain ⟨service, -, isNext⟩ := Option.map_eq_some_iff.mp taken
        rw [← isNext]
        exact ⟨rfl, fun _ => ⟨rfl, rfl⟩⟩
  obtain ⟨runLock, rest⟩ := runLock
  have sameLate : httpShutdown ∈ after.late ↔ httpShutdown ∈ pool.late := by
    rw [late, List.mem_append]
    split <;> simp [other.symm]
  constructor
  · rw [runLock, sameLate]
    exact ends.before
  · rw [runLock]
    exact ends.after
  · intro running
    rw [stopped] at running
    rw [late, ends.running running, running]
    rfl
  · intro isStopped
    rw [stopped] at isStopped
    obtain ⟨sameHttp, sameAccepts⟩ := rest isStopped
    rw [sameHttp, sameAccepts, sameLate]
    exact ends.rests isStopped
  · intro isLate
    rw [sameLate] at isLate
    have isStopped : pool.stopped = true := by
      rw [← Bool.not_eq_false]
      intro running
      rw [ends.running running] at isLate
      cases isLate
    rw [(rest isStopped).1]
    exact ends.tooLate isLate

/-- `shutdown_fn_` calls `http().shutdown()`. -/
theorem Ends.shuts (ends : Ends called pool)
    (settles : pool.program.1.http.Settles none)
    (sound : pool.program.1.http.Sound) (notYet : ¬called)
    (taken : (serverHosted server ws).step pool.program httpShutdown =
      some after.program)
    (late : after.late =
      (pool.late ++ if pool.stopped then [httpShutdown] else []))
    (stopped : after.stopped = pool.stopped) : Ends True after := by
  obtain ⟨running, inTime⟩ := ends.before notYet
  have isNext : after.program.1.http = pool.program.1.http.shutdown ∧
      after.program.1.accepts = pool.program.1.accepts := by
    have isNext : (({ pool.program.1 with
        http := pool.program.1.http.shutdown } : Listener),
          pool.program.2) = after.program := Option.some.inj taken
    rw [← isNext]
    exact ⟨rfl, rfl⟩
  obtain ⟨http, accepts⟩ := isNext
  have runLock : pool.program.1.http.shutdown.runLock = false :=
    congrArg SocketBooks.runLock
      (HttpSessions.shutdown_keeps sound.counted).1
  constructor
  · exact fun notCalled => absurd trivial notCalled
  · rw [http]
    exact fun _ => runLock
  · intro goesOn
    rw [stopped] at goesOn
    rw [late, ends.running goesOn, goesOn]
    rfl
  · intro isStopped
    rw [stopped] at isStopped
    obtain ⟨noAccept, empty, idle⟩ := ends.rests isStopped
    obtain ⟨set, -, -⟩ :=
      HttpSessions.shutdown_idle (idle inTime) settles sound running
    rw [http, accepts, set, late, if_pos isStopped]
    exact ⟨noAccept, empty, fun notLate =>
      absurd (List.mem_append_right _ List.mem_cons_self) notLate⟩
  · intro isLate
    have isStopped : pool.stopped = true := by
      rw [← Bool.not_eq_false]
      intro goesOn
      rw [late, ends.running goesOn, goesOn] at isLate
      cases isLate
    obtain ⟨-, -, idle⟩ := ends.rests isStopped
    obtain ⟨-, strand, locks⟩ :=
      HttpSessions.shutdown_idle (idle inTime) settles sound running
    rw [http]
    exact ⟨strand, locks⟩

end

/-! ## Runs -/

theorem listener_reachable
    {admits : Executor (Listener × Service) (ListenerEvent ⊕ Event) →
      ExecutorEvent (ListenerEvent ⊕ Event) → Prop}
    (reached : (serverMachine server ws wsShutdown
      threadCount).ReachableUnder admits executor) :
    (Listener.hosted server).machine.Reachable executor.pool.program.1 := by
  have program := WorkerPool.program_reachable
    (Executor.pool_reachable reached)
  refine program.view Prod.fst ?_ ?_
  · rintro program ⟨isInitial, -⟩
    exact isInitial
  · intro before event after _ _ stepped
    cases event with
    | inl event =>
        obtain ⟨listener, taken, rfl⟩ := Option.map_eq_some_iff.mp stepped
        exact .inr ⟨event, taken⟩
    | inr event =>
        obtain ⟨service, -, rfl⟩ := Option.map_eq_some_iff.mp stepped
        exact .inl rfl

/-- What comes second in `shutdown_fn_` comes there only. -/
theorem shutdownFn_index {index : Nat}
    (isThere : (serverShutdownFn wsShutdown)[index]? =
      some (.call httpShutdown)) :
    .call httpShutdown ∉ (serverShutdownFn wsShutdown).take index := by
  match index with
  | 0 => simp
  | 1 => simp [serverShutdownFn, httpShutdown]
  | index + 2 =>
      have isService : (wsShutdown.map fun event =>
          (ShutdownAction.call (.inr event) :
            ShutdownAction (ListenerEvent ⊕ Event)))[index]? =
          some (.call httpShutdown) := isThere
      rw [List.getElem?_map, Option.map_eq_some_iff] at isService
      obtain ⟨event, -, same⟩ := isService
      cases same

theorem ends_of_reachable
    (reached : (serverMachine server ws wsShutdown
      threadCount).ReachableUnder UserCalls executor) :
    Ends (.call httpShutdown ∈ executor.acted) executor.pool := by
  apply reached.invariantOver fun executor =>
    Ends (.call httpShutdown ∈ executor.acted) executor.pool
  · rintro _ ⟨⟨listener, service⟩, ⟨rfl, -⟩, rfl⟩
    constructor
    · exact fun _ => ⟨rfl, List.not_mem_nil⟩
    · exact fun called => absurd called List.not_mem_nil
    · exact fun _ => rfl
    · intro isStopped
      cases isStopped
    · exact fun isLate => absurd isLate List.not_mem_nil
  intro before event after earlier ends admitted stepped
  have http := Listener.http_reachable (listener_reachable earlier)
  have settles := HttpSessions.settles_of_reachable http
  have sound := HttpSessions.sound_of_reachable http
  have once := Executor.once_of_reachable earlier
  have same : ∀ {pool : WorkerPool (Listener × Service)
      (ListenerEvent ⊕ Event) Exception}
      {poolEvent : PoolEvent (ListenerEvent ⊕ Event)},
      (∀ event, poolEvent = .call event → event ≠ httpShutdown) →
      before.pool.step (serverHosted server ws) poolEvent = some pool →
      Ends (.call httpShutdown ∈ before.acted) pool := by
    intro pool poolEvent others steps
    cases WorkerPool.step_turns steps with
    | stays program late _ stops stopped =>
        exact ends.stays settles sound program late stops stopped
    | handles running isHandler taken late _ stillRunning =>
        exact ends.handles sound isHandler taken running late stillRunning
    | calls notHandler taken late _ stopped =>
        exact ends.calls sound (others _ rfl) notHandler taken late stopped
  cases (Executor.step_does stepped).2 with
  | starts _ spawns => exact same (by simp) spawns
  | @works poolEvent pool may steps =>
      apply same _ steps
      rintro _ rfl rfl
      exact admitted.2 rfl
  | @acts index done call action pool found stage isAction acts =>
      cases action with
      | resetWork =>
          have isThere := List.mem_of_getElem? isAction
          simp [serverShutdownFn] at isThere
      | call event =>
          have steps : before.pool.step (serverHosted server ws)
            (.call event) = some pool := acts
          by_cases isShutdown : event = httpShutdown
          · subst isShutdown
            have notYet := shutdownFn_index isAction
            rw [← once.partly call (List.mem_of_getElem? found) done stage]
              at notYet
            have called : (ShutdownAction.call httpShutdown ∈
                before.acted ++ [.call httpShutdown]) = True :=
              eq_true (List.mem_append_right _ List.mem_cons_self)
            obtain ⟨-, program, taken, rfl⟩ := WorkerPool.step_call steps
            show Ends (_ ∈ before.acted ++ [.call httpShutdown]) _
            rw [called]
            exact ends.shuts settles sound notYet taken rfl rfl
          · have others : ShutdownAction.call httpShutdown ∈
                before.acted ++ [.call event] ↔
                  .call httpShutdown ∈ before.acted := by
              simp [Ne.symm isShutdown]
            show Ends (_ ∈ before.acted ++ [.call event]) pool
            rw [others]
            refine same ?_ steps
            rintro _ isCall rfl
            exact isShutdown (PoolEvent.call.inj isCall)
  | _ => exact ends

/-- What `shutdown()` and `block()` have left of a server. -/
structure TornDown
    (executor : Executor (Listener × Service) (ListenerEvent ⊕ Event)) :
    Prop where
  accepts : executor.pool.program.1.accepts = 0
  sessions : executor.pool.program.1.http.set.isEmpty = true
  /-- The sessions were shut down before the `io_context` had stopped. -/
  inTime : httpShutdown ∉ executor.pool.late →
    executor.pool.program.1.http.strand = [] ∧
      executor.pool.program.1.http.locker.lockCount = 0
  /-- They were shut down after that. -/
  tooLate : httpShutdown ∈ executor.pool.late →
    executor.pool.program.1.http.strand = [.shutdown] ∧
      executor.pool.program.1.http.locker.lockCount = 2

/-- When `shutdown()` and `block()` have returned, no accept is outstanding
and no session is left, and the locker of the sessions is free exactly if
they were shut down before the last thread had run out of work. -/
theorem tornDown_of_returned
    (reached : (serverMachine server ws wsShutdown
      threadCount).ReachableUnder UserCalls executor)
    (some_thread : 0 < threadCount) {shutdown : OnceCall}
    (isShutdown : shutdown ∈ executor.shutdowns)
    (hasShut : shutdown.stage = .returned) {block : BlockCall}
    (isBlock : block ∈ executor.blocks)
    (hasBlocked : block.stage = .returned) : TornDown executor := by
  have http := Listener.http_reachable (listener_reachable reached)
  have settles := HttpSessions.settles_of_reachable http
  have sound := HttpSessions.sound_of_reachable http
  have ends := ends_of_reachable reached
  have once := Executor.once_of_reachable reached
  have waits := Executor.waits_of_reachable reached
  have total := Executor.total_of_reachable reached
  have pool := WorkerPool.sound_of_reachable (Executor.pool_reachable reached)
  have all := waits.all_returned (waits.cleared block isBlock hasBlocked)
  have stopped : executor.pool.stopped = true := by
    rw [waits.started isBlock, Nat.add_zero] at total
    obtain ⟨worker, isWorker⟩ :=
      List.exists_mem_of_length_pos (total ▸ some_thread)
    exact pool.returned (all worker isWorker ▸ isWorker)
  have called : .call httpShutdown ∈ executor.acted := by
    rw [once.whole (once.returned shutdown isShutdown hasShut)]
    simp [serverShutdownFn, httpShutdown]
  obtain ⟨noAccept, empty, idle⟩ := ends.rests stopped
  refine ⟨noAccept, empty, fun inTime => ?_, ends.tooLate⟩
  obtain ⟨-, -, locks⟩ := settles.idle sound (idle inTime)
  rw [ends.after called] at locks
  exact ⟨(idle inTime).1, locks⟩

/-- An idle server without a WebSocket service. -/
def plainServerMachine :
    Machine (Executor (Listener × Unit) (ListenerEvent ⊕ Empty))
      (ExecutorEvent (ListenerEvent ⊕ Empty)) :=
  serverMachine plainServer (.none Exception) [] 1

/-- The destructor of an idle server, whose thread is through after
`shutdown_fn_`. -/
def destroyedInTime : List (ExecutorEvent (ListenerEvent ⊕ Empty)) :=
  [.startThread, .pool (.enter 0), .shutdown none, .shutdownStep 0,
    .shutdownStep 0, .shutdownStep 0, .shutdownStep 0, .block none,
    .pool (.handle 0 (.inl (.acceptDone (some .operationAborted)))),
    .pool (.finish 0), .pool (.handle 0 (.inl (.http (.run none)))),
    .pool (.finish 0), .pool (.leave 0), .blockStep 0, .blockStep 0,
    .blockStep 0]

/-- The destructor of an idle server, whose thread handles the aborted accept
before `http().shutdown()` is called. -/
def destroyedTooLate : List (ExecutorEvent (ListenerEvent ⊕ Empty)) :=
  [.startThread, .pool (.enter 0), .shutdown none, .shutdownStep 0,
    .shutdownStep 0,
    .pool (.handle 0 (.inl (.acceptDone (some .operationAborted)))),
    .pool (.finish 0), .pool (.leave 0), .shutdownStep 0, .shutdownStep 0,
    .block none, .blockStep 0, .blockStep 0, .blockStep 0]

/-- An idle server is torn down either way. -/
theorem tornDown_of_returned_idle :
    (∃ executor, plainServerMachine.run
        (.constructed (.constructed, ()) 0 1) destroyedInTime =
          some executor ∧
      executor.pool.program.1.http.locker.lockCount = 0 ∧
      TornDown executor) ∧
    ∃ executor, plainServerMachine.run
        (.constructed (.constructed, ()) 0 1) destroyedTooLate =
          some executor ∧
      executor.pool.program.1.http.locker.lockCount = 2 ∧
      TornDown executor := by
  have returned : ∀ {events executor},
      plainServerMachine.Admitted UserCalls
        (.constructed (.constructed, ()) 0 1) events →
      plainServerMachine.run (.constructed (.constructed, ()) 0 1) events =
        some executor →
      executor.shutdowns = [⟨none, .returned⟩] →
      executor.blocks = [⟨none, .returned⟩] → TornDown executor := by
    intro events executor admitted ran shutdowns blocks
    have reached := Machine.reachableUnder_of_run
      (⟨(.constructed, ()), ⟨rfl, trivial⟩, rfl⟩ :
        plainServerMachine.initial (.constructed (.constructed, ()) 0 1))
      admitted ran
    exact tornDown_of_returned reached Nat.one_pos
      (shutdowns ▸ List.mem_cons_self) rfl
      (blocks ▸ List.mem_cons_self) rfl
  constructor
  · have inTime : ∃ executor, plainServerMachine.run
        (.constructed (.constructed, ()) 0 1) destroyedInTime =
          some executor ∧
        executor.pool.program.1.http.locker.lockCount = 0 ∧
        executor.shutdowns = [⟨none, .returned⟩] ∧
        executor.blocks = [⟨none, .returned⟩] := ⟨_, rfl, rfl, rfl, rfl⟩
    obtain ⟨executor, ran, free, shutdowns, blocks⟩ := inTime
    refine ⟨executor, ran, free,
      returned (Machine.admitted_of_forall ?_) ran shutdowns blocks⟩
    simp [destroyedInTime, UserCalls]
  · have tooLate : ∃ executor, plainServerMachine.run
        (.constructed (.constructed, ()) 0 1) destroyedTooLate =
          some executor ∧
        executor.pool.program.1.http.locker.lockCount = 2 ∧
        executor.shutdowns = [⟨none, .returned⟩] ∧
        executor.blocks = [⟨none, .returned⟩] := ⟨_, rfl, rfl, rfl, rfl⟩
    obtain ⟨executor, ran, locked, shutdowns, blocks⟩ := tooLate
    refine ⟨executor, ran, locked,
      returned (Machine.admitted_of_forall ?_) ran shutdowns blocks⟩
    simp [destroyedTooLate, UserCalls]

/-! ## Before the shutdown -/

/-- Only `shutdown_fn_` closes the acceptor. -/
theorem closed_of_reachable
    (reached : (serverMachine server ws wsShutdown
      threadCount).ReachableUnder UserCalls executor)
    (closed : executor.pool.program.1.closed = true) :
    .call (.inl .shutdown) ∈ executor.acted := by
  revert closed
  apply reached.invariant fun executor =>
    executor.pool.program.1.closed = true →
      .call (.inl .shutdown) ∈ executor.acted
  · rintro _ ⟨⟨listener, service⟩, ⟨rfl, -⟩, rfl⟩ closed
    cases closed
  intro before event after called admitted stepped
  have same : ∀ {pool : WorkerPool (Listener × Service)
      (ListenerEvent ⊕ Event) Exception}
      {poolEvent : PoolEvent (ListenerEvent ⊕ Event)},
      (∀ event, poolEvent = .call event → event ≠ .inl .shutdown) →
      before.pool.step (serverHosted server ws) poolEvent = some pool →
      pool.program.1.closed = before.pool.program.1.closed := by
    intro pool poolEvent others steps
    have taken : ∀ {event : ListenerEvent ⊕ Event}, event ≠ .inl .shutdown →
        (serverHosted server ws).step before.pool.program event =
          some pool.program →
        pool.program.1.closed = before.pool.program.1.closed := by
      rintro (event | event) other taken
      · obtain ⟨listener, taken, isNext⟩ := Option.map_eq_some_iff.mp taken
        rw [← isNext]
        exact Listener.stepArising_closed (fun same => other (same ▸ rfl))
          taken
      · obtain ⟨service, -, isNext⟩ := Option.map_eq_some_iff.mp taken
        rw [← isNext]
    cases WorkerPool.step_turns steps with
    | stays program => rw [program]
    | handles _ isHandler moved =>
        refine taken ?_ moved
        rintro rfl
        cases isHandler
    | calls _ moved => exact taken (others _ rfl) moved
  cases (Executor.step_does stepped).2 with
  | starts _ spawns =>
      intro closed
      exact called (same (by simp) spawns ▸ closed)
  | works _ steps =>
      intro closed
      refine called (same ?_ steps ▸ closed)
      rintro _ rfl rfl
      exact admitted.1 rfl
  | @acts index done call action pool found stage isAction acts =>
      intro closed
      cases action with
      | resetWork =>
          have isThere := List.mem_of_getElem? isAction
          simp [serverShutdownFn] at isThere
      | call event =>
          by_cases isShutdown : event = .inl .shutdown
          · subst isShutdown
            exact List.mem_append_right _ List.mem_cons_self
          · have unchanged : pool.program.1.closed =
                before.pool.program.1.closed := by
              apply @same pool (.call event) _ acts
              rintro _ isCall rfl
              exact isShutdown (PoolEvent.call.inj isCall)
            exact List.mem_append_left _ (called (unchanged ▸ closed))
  | _ => exact called

/-- A server that has served a connection and is waited for. -/
def servedOne : List (ExecutorEvent (ListenerEvent ⊕ Empty)) :=
  [.startThread, .pool (.enter 0), .block none, .blockStep 0,
    .pool (.handle 0 (.inl (.acceptDone none))), .pool (.finish 0),
    .pool (.handle 0 (.inl (.http (.run none)))), .pool (.finish 0),
    .pool (.handle 0 (.inl (.http (.session 0 (.readFailed .endOfStream))))),
    .pool (.finish 0)]

end ServerExecutor

end

end Webservice
