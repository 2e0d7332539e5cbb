import Webservice.Executor.Step
import Webservice.Library.Lists

/-!
# Waiting for the threads of an executor

A call of `block()` returns when every thread of the executor has returned,
which is after the last of the work.  A call from inside a handler is work
itself: it never returns, and as long as it is there no other call does.
-/

namespace Webservice

namespace Executor

variable {State Event : Type} {hosted : Hosted State Event Exception}
  {shutdownFn : List (ShutdownAction Event)} {guards threadCount : Nat}
  {executor next : Executor State Event} {event : ExecutorEvent Event}

/-! ## What a step does -/

/-- The steps of an executor that is alive. -/
inductive Does (hosted : Hosted State Event Exception)
    (shutdownFn : List (ShutdownAction Event))
    (executor : Executor State Event) :
    ExecutorEvent Event → Executor State Event → Prop where
  | starts {pool : WorkerPool State Event Exception} :
      0 < executor.unstarted →
      executor.pool.step hosted .spawn = some pool →
      Does hosted shutdownFn executor .startThread { executor with
        pool := pool
        unstarted := executor.unstarted - 1
        threads := executor.threads ++ [true] }
  | startFails : 0 < executor.unstarted →
      Does hosted shutdownFn executor .startFails { executor with
        failed := executor.threads.isEmpty
        terminated := !executor.threads.isEmpty }
  | works {event : PoolEvent Event}
      {pool : WorkerPool State Event Exception} :
      executor.mayStep event = true →
      executor.pool.step hosted event = some pool →
      Does hosted shutdownFn executor (.pool event)
        { executor with pool := pool }
  | blocks {caller : Option Nat} :
      executor.unstarted = 0 → executor.mayCall caller = true →
      Does hosted shutdownFn executor (.block caller) { executor with
        blocks := executor.blocks ++ [⟨caller, .locking⟩] }
  | locks {index : Nat} {call : BlockCall} :
      executor.blocks[index]? = some call → call.stage = .locking →
      (∀ other ∈ executor.blocks, other.stage.isInside = false) →
      Does hosted shutdownFn executor (.blockStep index)
        (executor.setBlock index call (.joining 0))
  /-- The thread is not joinable. -/
  | passes {index thread : Nat} {call : BlockCall} :
      executor.blocks[index]? = some call → call.stage = .joining thread →
      executor.threads[thread]? = some false →
      Does hosted shutdownFn executor (.blockStep index)
        (executor.setBlock index call (.joining (thread + 1)))
  /-- The thread is that of the caller. -/
  | joinFails {index thread : Nat} {call : BlockCall} :
      executor.blocks[index]? = some call → call.stage = .joining thread →
      executor.threads[thread]? = some true → call.caller = some thread →
      Does hosted shutdownFn executor (.blockStep index)
        { executor.setBlock index call (.joining (thread + 1)) with
          joinErrors := executor.joinErrors ++ [selfJoin] }
  | joins {index thread : Nat} {call : BlockCall} :
      executor.blocks[index]? = some call → call.stage = .joining thread →
      executor.threads[thread]? = some true →
      executor.pool.workers[thread]? = some .returned →
      Does hosted shutdownFn executor (.blockStep index)
        { executor.setBlock index call (.joining (thread + 1)) with
          threads := executor.threads.set thread false }
  | clears {index thread : Nat} {call : BlockCall} :
      executor.blocks[index]? = some call → call.stage = .joining thread →
      executor.threads[thread]? = none → true ∉ executor.threads →
      Does hosted shutdownFn executor (.blockStep index)
        { executor.setBlock index call .returned with threads := [] }
  | dies {index thread : Nat} {call : BlockCall} :
      executor.blocks[index]? = some call → call.stage = .joining thread →
      executor.threads[thread]? = none → true ∈ executor.threads →
      Does hosted shutdownFn executor (.blockStep index)
        { executor with terminated := true }
  | shuts {caller : Option Nat} :
      executor.mayCall caller = true →
      Does hosted shutdownFn executor (.shutdown caller) { executor with
        shutdowns := executor.shutdowns ++ [⟨caller, .calling⟩] }
  /-- `shutdown_fn_` has run. -/
  | findsFlag {index : Nat} {call : OnceCall} :
      executor.shutdowns[index]? = some call → call.stage = .calling →
      executor.flag = true →
      Does hosted shutdownFn executor (.shutdownStep index)
        (executor.setShutdown index call .returned)
  | executes {index : Nat} {call : OnceCall} :
      executor.shutdowns[index]? = some call → call.stage = .calling →
      executor.flag = false →
      (∀ other ∈ executor.shutdowns, other.stage.isExecuting = false) →
      Does hosted shutdownFn executor (.shutdownStep index)
        (executor.setShutdown index call (.executing 0))
  | acts {index done : Nat} {call : OnceCall}
      {action : ShutdownAction Event}
      {pool : WorkerPool State Event Exception} :
      executor.shutdowns[index]? = some call →
      call.stage = .executing done → shutdownFn[done]? = some action →
      act hosted executor.pool action = some pool →
      Does hosted shutdownFn executor (.shutdownStep index)
        { executor.setShutdown index call (.executing (done + 1)) with
          pool := pool
          acted := executor.acted ++ [action] }
  | setsFlag {index done : Nat} {call : OnceCall} :
      executor.shutdowns[index]? = some call →
      call.stage = .executing done → shutdownFn[done]? = none →
      Does hosted shutdownFn executor (.shutdownStep index)
        { executor.setShutdown index call .returned with flag := true }

theorem blockStep_does {index : Nat}
    (stepped : executor.blockStep index = some next) :
    Does hosted shutdownFn executor (.blockStep index) next := by
  obtain ⟨call, found, changes⟩ := Option.bind_eq_some_iff.mp stepped
  cases stage : call.stage with
  | locking =>
      rw [stage] at changes
      obtain ⟨free, isNext⟩ := Option.ite_none_left_eq_some.mp changes
      cases isNext
      refine .locks found stage fun other isOther => ?_
      simpa using fun inside =>
        free (List.any_eq_true.mpr ⟨other, isOther, inside⟩)
  | joining thread =>
      rw [stage] at changes
      cases isThread : executor.threads[thread]? with
      | none =>
          simp only [isThread] at changes
          cases changes
          rw [clear]
          split
          · next joinable =>
              obtain ⟨_, isTrue, rfl⟩ := List.any_eq_true.mp joinable
              exact .dies found stage isThread isTrue
          · next joined =>
              exact .clears found stage isThread fun isTrue =>
                joined (List.any_eq_true.mpr ⟨true, isTrue, rfl⟩)
      | some joinable =>
          simp only [isThread, join] at changes
          cases joinable with
          | false =>
              cases changes
              exact .passes found stage isThread
          | true =>
              rw [if_neg Bool.noConfusion] at changes
              split at changes
              · next self =>
                  cases changes
                  exact .joinFails found stage isThread self
              · obtain ⟨isReturned, isNext⟩ :=
                  Option.ite_none_right_eq_some.mp changes
                cases isNext
                exact .joins found stage isThread isReturned
  | returned =>
      rw [stage] at changes
      cases changes

theorem shutdownStep_does {index : Nat}
    (stepped : executor.shutdownStep hosted shutdownFn index = some next) :
    Does hosted shutdownFn executor (.shutdownStep index) next := by
  obtain ⟨call, found, changes⟩ := Option.bind_eq_some_iff.mp stepped
  cases stage : call.stage with
  | calling =>
      simp only [stage] at changes
      split at changes
      · next flag =>
          cases changes
          exact .findsFlag found stage flag
      · next flag =>
          obtain ⟨free, isNext⟩ := Option.ite_none_left_eq_some.mp changes
          cases isNext
          refine .executes found stage (Bool.eq_false_iff.mpr flag)
            fun other isOther => ?_
          rw [Bool.eq_false_iff]
          exact fun executing =>
            free (List.any_eq_true.mpr ⟨other, isOther, executing⟩)
  | executing done =>
      simp only [stage] at changes
      split at changes
      · next atEnd =>
          cases changes
          exact .setsFlag found stage atEnd
      · next action isAction =>
          obtain ⟨pool, acts, rfl⟩ := Option.map_eq_some_iff.mp changes
          exact .acts found stage isAction acts
  | returned =>
      simp only [stage] at changes
      cases changes

theorem step_does
    (stepped : executor.step hosted shutdownFn event = some next) :
    executor.terminated = false ∧
      Does hosted shutdownFn executor event next := by
  obtain ⟨alive, changes⟩ := Option.ite_none_left_eq_some.mp stepped
  have notTerminated : executor.terminated = false := by
    rw [Bool.eq_false_iff]
    exact fun terminated => alive (.inr terminated)
  refine ⟨notTerminated, ?_⟩
  cases event with
  | startThread =>
      obtain ⟨some_left, starts⟩ := Option.ite_none_right_eq_some.mp changes
      obtain ⟨pool, spawns, rfl⟩ := Option.map_eq_some_iff.mp starts
      exact .starts some_left spawns
  | startFails =>
      obtain ⟨some_left, isNext⟩ := Option.ite_none_right_eq_some.mp changes
      cases isNext
      exact .startFails some_left
  | pool event =>
      obtain ⟨may, works⟩ := Option.ite_none_right_eq_some.mp changes
      obtain ⟨pool, taken, rfl⟩ := Option.map_eq_some_iff.mp works
      exact .works may taken
  | block caller =>
      obtain ⟨⟨started, may⟩, isNext⟩ :=
        Option.ite_none_right_eq_some.mp changes
      cases isNext
      exact .blocks started may
  | blockStep index => exact blockStep_does changes
  | shutdown caller =>
      obtain ⟨may, isNext⟩ := Option.ite_none_right_eq_some.mp changes
      cases isNext
      exact .shuts may
  | shutdownStep index => exact shutdownStep_does changes

/-- `shutdown_fn_` makes calls and gives up the guard. -/
theorem act_step {pool after : WorkerPool State Event Exception}
    {action : ShutdownAction Event}
    (acts : act hosted pool action = some after) :
    after = pool ∨ ∃ event, (∀ index, event ≠ .finish index) ∧
      event ≠ .spawn ∧ pool.step hosted event = some after := by
  cases action with
  | call event => exact .inr ⟨.call event, by simp, by simp, acts⟩
  | resetWork =>
      cases released : pool.step hosted .release with
      | none =>
          rw [act, released] at acts
          exact .inl (Option.some.inj acts).symm
      | some next =>
          rw [act, released] at acts
          cases acts
          exact .inr ⟨.release, by simp, by simp, released⟩

theorem Does.pool (does : Does hosted shutdownFn executor event next) :
    next.pool = executor.pool ∨
      ∃ event, executor.pool.step hosted event = some next.pool := by
  cases does with
  | starts _ spawns => exact .inr ⟨_, spawns⟩
  | works _ taken => exact .inr ⟨_, taken⟩
  | acts _ _ _ acts =>
      rcases act_step acts with same | ⟨event, -, -, stepped⟩
      · exact .inl same
      · exact .inr ⟨event, stepped⟩
  | _ => exact .inl rfl

/-- The threads of an executor are those of a pool. -/
theorem pool_reachable
    {admits : Executor State Event → ExecutorEvent Event → Prop}
    (reached : (executorMachine hosted shutdownFn guards
      threadCount).ReachableUnder admits executor) :
    (poolMachine hosted guards).Reachable executor.pool := by
  refine reached.view Executor.pool ?_ ?_
  · rintro _ ⟨program, isInitial, rfl⟩
    exact ⟨program, isInitial, rfl⟩
  · intro before event after _ _ stepped
    exact (step_does stepped).2.pool

/-! ## Calls from handlers -/

/-- A thread of the executor is in a handler. -/
def Handles (executor : Executor State Event) (worker : Nat) : Prop :=
  ∃ thrown, executor.pool.workers[worker]? = some (.handling thrown)

/-- What the threads, their joins and the calls keep to. -/
structure Waits (executor : Executor State Event) : Prop where
  /-- Nobody waits before all threads are started. -/
  starting : 0 < executor.unstarted →
    executor.threads.length = executor.pool.workers.length ∧
      executor.blocks = []
  bounded : executor.threads.length ≤ executor.pool.workers.length
  /-- A thread is joinable until it has returned. -/
  joinable : ∀ (index : Nat) (worker : Worker Exception),
    executor.pool.workers[index]? = some worker →
      worker = .returned ∨ executor.threads[index]? = some true
  /-- A call leaves no joinable thread behind, but for its own. -/
  joined : ∀ call ∈ executor.blocks, ∀ thread,
    call.stage = .joining thread → ∀ earlier < thread,
      executor.threads[earlier]? = some true → call.caller = some earlier
  blockCallers : ∀ call ∈ executor.blocks, ∀ worker,
    call.caller = some worker →
      call.stage ≠ .returned ∧ executor.Handles worker
  shutdownCallers : ∀ call ∈ executor.shutdowns, ∀ worker,
    call.caller = some worker → call.stage ≠ .returned →
      executor.Handles worker
  cleared : ∀ call ∈ executor.blocks, call.stage = .returned →
    executor.threads = []
  /-- One call at most has `mutex_`. -/
  mutex : executor.blocks.countP (fun call => call.stage.isInside) ≤ 1

theorem constructed_waits (program : State) :
    (constructed program guards threadCount :
      Executor State Event).Waits := by
  constructor <;> simp [constructed, WorkerPool.start]

theorem handles_of_mayCall {worker : Nat}
    (may : executor.mayCall (some worker) = true) :
    executor.Handles worker := by
  simp only [mayCall, Bool.and_eq_true, Option.any_eq_true] at may
  obtain ⟨⟨thread, found, handling⟩, -⟩ := may
  cases thread with
  | handling thrown => exact ⟨thrown, found⟩
  | _ => cases handling

/-- Steps of the pool that leave the callers in their handlers. -/
theorem Waits.pool (waits : executor.Waits) {event : PoolEvent Event}
    {pool : WorkerPool State Event Exception} (old : event ≠ .spawn)
    (stays : ∀ worker, event = .finish worker →
      executor.isInCall worker = false)
    (stepped : executor.pool.step hosted event = some pool) :
    Waits { executor with pool := pool } := by
  have sameLength := WorkerPool.step_length stepped old
  have handles : ∀ worker, executor.isInCall worker = true →
      executor.Handles worker →
      Handles { executor with pool := pool } worker := by
    rintro worker inCall ⟨thrown, found⟩
    refine ⟨thrown, WorkerPool.step_keeps found (.inr ⟨rfl, ?_⟩) stepped⟩
    rintro rfl
    exact absurd inCall (by simp [stays worker rfl])
  constructor
  · intro starting
    rw [sameLength]
    exact waits.starting starting
  · rw [sameLength]
    exact waits.bounded
  · intro index worker found
    have bound : index < executor.pool.workers.length := by
      rw [← sameLength]
      exact (List.getElem?_eq_some_iff.mp found).1
    rcases waits.joinable index _ (List.getElem?_eq_getElem bound) with
      isReturned | joinable
    · have stillReturned := WorkerPool.step_keeps
        (List.getElem?_eq_getElem bound) (.inl isReturned) stepped
      cases found.symm.trans stillReturned
      exact .inl isReturned
    · exact .inr joinable
  · exact waits.joined
  · intro call isCall worker isCaller
    obtain ⟨inside, inHandler⟩ :=
      waits.blockCallers call isCall worker isCaller
    refine ⟨inside, handles worker ?_ inHandler⟩
    simp only [isInCall, Bool.or_eq_true, List.any_eq_true]
    exact .inl ⟨call, isCall, by simp [BlockCall.occupies, isCaller, inside]⟩
  · intro call isCall worker isCaller inside
    apply handles worker _
      (waits.shutdownCallers call isCall worker isCaller inside)
    simp only [isInCall, Bool.or_eq_true, List.any_eq_true]
    exact .inr ⟨call, isCall, by simp [OnceCall.occupies, isCaller, inside]⟩
  · exact waits.cleared
  · exact waits.mutex

/-! ## Calls of `block()` -/

/-- A call that is in progress moves on, and may have joined a thread. -/
theorem Waits.moved (waits : executor.Waits) {index : Nat} {call : BlockCall}
    (found : executor.blocks[index]? = some call) {stage : BlockStage}
    {threads : List Bool} (inside : stage ≠ .returned)
    (sameLength : threads.length = executor.threads.length)
    (fewer : ∀ thread : Nat, threads[thread]? = some true →
      executor.threads[thread]? = some true)
    (others : ∀ thread : Nat, executor.threads[thread]? = some true →
      threads[thread]? = some true ∨
        executor.pool.workers[thread]? = some .returned)
    (joined : ∀ thread, stage = .joining thread → ∀ earlier < thread,
      threads[earlier]? = some true → call.caller = some earlier)
    (mutex : call.stage.isInside = true ∨
      ∀ other ∈ executor.blocks, other.stage.isInside = false) :
    Waits { executor.setBlock index call stage with threads := threads } := by
  obtain ⟨bound, isCall⟩ := List.getElem?_eq_some_iff.mp found
  have isMember : call ∈ executor.blocks := List.mem_of_getElem? found
  constructor
  · intro starting
    have nobody := (waits.starting starting).2
    rw [nobody] at isMember
    cases isMember
  · rw [sameLength]
    exact waits.bounded
  · intro thread worker isWorker
    rcases waits.joinable thread worker isWorker with isReturned | wasJoinable
    · exact .inl isReturned
    · rcases others thread wasJoinable with still | isReturned
      · exact .inr still
      · exact .inl (Option.some.inj (isWorker.symm.trans isReturned))
  · intro other isOther thread isStage earlier before stillJoinable
    rcases List.mem_or_eq_of_mem_set isOther with old | rfl
    · exact waits.joined other old thread isStage earlier before
        (fewer earlier stillJoinable)
    · exact joined thread isStage earlier before stillJoinable
  · intro other isOther worker isCaller
    rcases List.mem_or_eq_of_mem_set isOther with old | rfl
    · exact waits.blockCallers other old worker isCaller
    · exact ⟨inside, (waits.blockCallers call isMember worker isCaller).2⟩
  · exact waits.shutdownCallers
  · intro other isOther isReturned
    rcases List.mem_or_eq_of_mem_set isOther with old | rfl
    · have none_left := waits.cleared other old isReturned
      rw [none_left] at sameLength
      exact List.eq_nil_of_length_eq_zero sameLength
    · exact absurd isReturned inside
  · have single := waits.mutex
    have counted : (executor.blocks.set index
          { call with stage := stage }).countP
          (fun call => call.stage.isInside) + call.stage.isInside.toNat =
        executor.blocks.countP (fun call => call.stage.isInside) +
          stage.isInside.toNat := Lists.countP_set found _ _
    have most := Bool.toNat_le stage.isInside
    show (executor.blocks.set index _).countP _ ≤ 1
    rcases mutex with wasInside | nobody
    · simp only [wasInside, Bool.toNat_true] at counted
      omega
    · have none_inside : executor.blocks.countP
          (fun call => call.stage.isInside) = 0 :=
        List.countP_eq_zero.mpr fun other isOther => by
          simp [nobody other isOther]
      omega

/-- The last thread is joined, and `threads_` is cleared. -/
theorem Waits.clears (waits : executor.Waits) {index : Nat}
    {call : BlockCall} (found : executor.blocks[index]? = some call)
    (none_joinable : true ∉ executor.threads) :
    Waits { executor.setBlock index call .returned with threads := [] } := by
  obtain ⟨bound, isCall⟩ := List.getElem?_eq_some_iff.mp found
  have isMember : call ∈ executor.blocks := List.mem_of_getElem? found
  have notJoinable : ∀ other : Nat, executor.threads[other]? ≠ some true :=
    fun other isTrue => none_joinable (List.mem_of_getElem? isTrue)
  have foreign : ∀ worker, call.caller ≠ some worker := by
    intro worker isCaller
    obtain ⟨-, thrown, handles⟩ :=
      waits.blockCallers call isMember worker isCaller
    rcases waits.joinable worker _ handles with isReturned | isJoinable
    · cases isReturned
    · exact notJoinable worker isJoinable
  constructor
  · intro starting
    have nobody := (waits.starting starting).2
    rw [nobody] at isMember
    cases isMember
  · exact Nat.zero_le _
  · intro other worker isWorker
    rcases waits.joinable other worker isWorker with isReturned | isJoinable
    · exact .inl isReturned
    · exact absurd isJoinable (notJoinable other)
  · intro other _ thread _ earlier _ isJoinable
    simp at isJoinable
  · intro other isOther worker isCaller
    rcases List.mem_or_eq_of_mem_set isOther with old | rfl
    · exact waits.blockCallers other old worker isCaller
    · exact absurd isCaller (foreign worker)
  · exact waits.shutdownCallers
  · exact fun _ _ _ => rfl
  · have single := waits.mutex
    have counted := Lists.countP_set found { call with stage := .returned }
      fun call => call.stage.isInside
    show (executor.blocks.set index _).countP _ ≤ 1
    rw [show BlockStage.returned.isInside = false from rfl,
      Bool.toNat_false] at counted
    omega

/-- Calls of `shutdown()` that come and go. -/
theorem Waits.shutdowns (waits : executor.Waits)
    {shutdowns : List OnceCall}
    (callers : ∀ call ∈ shutdowns, ∀ worker, call.caller = some worker →
      call.stage ≠ .returned → executor.Handles worker) (flag : Bool)
    (acted : List (ShutdownAction Event)) :
    Waits { executor with
      shutdowns := shutdowns
      flag := flag
      acted := acted } :=
  { waits with shutdownCallers := callers }

/-- The caller of a call that is in progress goes on in it. -/
theorem Waits.setShutdown (waits : executor.Waits) {index : Nat}
    {call : OnceCall} (found : executor.shutdowns[index]? = some call)
    (inside : call.stage ≠ .returned) (stage : OnceStage) :
    ∀ other ∈ executor.shutdowns.set index { call with stage := stage },
      ∀ worker, other.caller = some worker → other.stage ≠ .returned →
        executor.Handles worker := by
  intro other isOther worker isCaller isInside
  rcases List.mem_or_eq_of_mem_set isOther with old | rfl
  · exact waits.shutdownCallers other old worker isCaller isInside
  · exact waits.shutdownCallers call (List.mem_of_getElem? found) worker
      isCaller inside

/-- `run` starts a thread. -/
theorem Waits.starts (waits : executor.Waits)
    {pool : WorkerPool State Event Exception}
    (some_left : 0 < executor.unstarted)
    (spawns : executor.pool.step hosted .spawn = some pool) :
    Waits { executor with
      pool := pool
      unstarted := executor.unstarted - 1
      threads := executor.threads ++ [true] } := by
  cases spawns
  obtain ⟨sameLength, nobody⟩ := waits.starting some_left
  have none_blocks : ∀ call, call ∉ executor.blocks := by simp [nobody]
  constructor
  · intro _
    exact ⟨by simp [sameLength], nobody⟩
  · simp [sameLength]
  · intro index worker found
    rw [List.getElem?_append] at found ⊢
    split at found
    · next old =>
        rw [if_pos (sameLength ▸ old)]
        exact waits.joinable index worker found
    · next new =>
        rw [if_neg (sameLength ▸ new), sameLength]
        obtain ⟨bound, -⟩ := List.getElem?_eq_some_iff.mp found
        have zero : index - executor.pool.workers.length = 0 := by
          simpa using bound
        rw [zero]
        exact .inr rfl
  · exact fun call isCall => absurd isCall (none_blocks call)
  · exact fun call isCall => absurd isCall (none_blocks call)
  · intro call isCall worker isCaller inside
    obtain ⟨thrown, found⟩ :=
      waits.shutdownCallers call isCall worker isCaller inside
    exact ⟨thrown, (List.getElem?_append_left
      (List.getElem?_eq_some_iff.mp found).1).trans found⟩
  · exact fun call isCall => absurd isCall (none_blocks call)
  · exact waits.mutex

/-- A call of `block()` comes. -/
theorem Waits.blocks (waits : executor.Waits) {caller : Option Nat}
    (started : executor.unstarted = 0)
    (may : executor.mayCall caller = true) :
    Waits { executor with
      blocks := executor.blocks ++ [⟨caller, .locking⟩] } := by
  have single := waits.mutex
  refine { waits with
    starting := fun starting => absurd started (Nat.ne_of_gt starting)
    joined := ?_
    blockCallers := ?_
    cleared := ?_
    mutex := by simpa [BlockStage.isInside] using single }
  · intro call isCall thread isStage
    rcases List.mem_append.mp isCall with old | isNew
    · exact waits.joined call old thread isStage
    · cases List.mem_singleton.mp isNew
      cases isStage
  · intro call isCall worker isCaller
    rcases List.mem_append.mp isCall with old | isNew
    · exact waits.blockCallers call old worker isCaller
    · cases List.mem_singleton.mp isNew
      cases isCaller
      have inHandler := handles_of_mayCall may
      exact ⟨by simp, inHandler⟩
  · intro call isCall isReturned
    rcases List.mem_append.mp isCall with old | isNew
    · exact waits.cleared call old isReturned
    · cases List.mem_singleton.mp isNew
      cases isReturned

/-- The loop leaves a thread that is not joinable or is its own. -/
theorem Waits.passes (waits : executor.Waits) {index thread : Nat}
    {call : BlockCall} (found : executor.blocks[index]? = some call)
    (stage : call.stage = .joining thread)
    (left : executor.threads[thread]? = some true →
      call.caller = some thread) :
    (executor.setBlock index call (.joining (thread + 1))).Waits := by
  refine waits.moved found (by simp) rfl (fun _ => id) (fun _ => .inl) ?_
    (.inl (by rw [stage]; rfl))
  intro last isLast earlier before isJoinable
  cases isLast
  rcases Nat.lt_succ_iff_lt_or_eq.mp before with sooner | rfl
  · exact waits.joined call (List.mem_of_getElem? found) thread stage
      earlier sooner isJoinable
  · exact left isJoinable

/-- The loop joins a thread that has returned. -/
theorem Waits.joins (waits : executor.Waits) {index thread : Nat}
    {call : BlockCall} (found : executor.blocks[index]? = some call)
    (stage : call.stage = .joining thread)
    (isReturned : executor.pool.workers[thread]? = some .returned) :
    Waits { executor.setBlock index call (.joining (thread + 1)) with
      threads := executor.threads.set thread false } := by
  have threads : ∀ other : Nat,
      (executor.threads.set thread false)[other]? = some true →
        other ≠ thread ∧ executor.threads[other]? = some true := by
    intro other isJoinable
    rw [List.getElem?_set] at isJoinable
    split at isJoinable
    · split at isJoinable <;> simp at isJoinable
    · next apart => exact ⟨Ne.symm apart, isJoinable⟩
  refine waits.moved found (by simp) List.length_set
    (fun other isJoinable => (threads other isJoinable).2) ?_ ?_
    (.inl (by rw [stage]; rfl))
  · intro other isJoinable
    by_cases same : other = thread
    · exact .inr (same ▸ isReturned)
    · exact .inl ((List.getElem?_set_ne (Ne.symm same)).trans isJoinable)
  · intro last isLast earlier before isJoinable
    cases isLast
    obtain ⟨apart, wasJoinable⟩ := threads earlier isJoinable
    exact waits.joined call (List.mem_of_getElem? found) thread stage
      earlier (by omega) wasJoinable

/-- A call of `shutdown()` comes. -/
theorem Waits.shuts (waits : executor.Waits) {caller : Option Nat}
    (may : executor.mayCall caller = true) :
    Waits { executor with
      shutdowns := executor.shutdowns ++ [⟨caller, .calling⟩] } := by
  refine waits.shutdowns ?_ executor.flag executor.acted
  intro call isCall worker isCaller inside
  rcases List.mem_append.mp isCall with old | isNew
  · exact waits.shutdownCallers call old worker isCaller inside
  · cases List.mem_singleton.mp isNew
    cases isCaller
    exact handles_of_mayCall may

/-- One action of `shutdown_fn_` is done. -/
theorem Waits.acts (waits : executor.Waits) {index done : Nat}
    {call : OnceCall} {action : ShutdownAction Event}
    {pool : WorkerPool State Event Exception}
    (found : executor.shutdowns[index]? = some call)
    (stage : call.stage = .executing done)
    (acts : act hosted executor.pool action = some pool) :
    Waits { executor.setShutdown index call (.executing (done + 1)) with
      pool := pool
      acted := executor.acted ++ [action] } := by
  have moved := waits.shutdowns (waits.setShutdown found (by simp [stage])
    (.executing (done + 1))) executor.flag (executor.acted ++ [action])
  rcases act_step acts with rfl | ⟨event, noFinish, old, stepped⟩
  · exact moved
  · exact moved.pool old
      (fun worker isFinish => absurd isFinish (noFinish worker)) stepped

theorem Does.waits (does : Does hosted shutdownFn executor event next)
    (waits : executor.Waits) : next.Waits := by
  cases does with
  | starts some_left spawns => exact waits.starts some_left spawns
  | startFails _ => exact { waits with }
  | @works event pool may taken =>
      refine waits.pool ?_ ?_ taken
      · rintro rfl
        cases may
      · rintro worker rfl
        simpa [mayStep] using may
  | blocks started may => exact waits.blocks started may
  | locks found stage nobody =>
      exact waits.moved found (by simp) rfl (fun _ => id) (fun _ => .inl)
        (by simp) (.inr nobody)
  | passes found stage notJoinable =>
      refine waits.passes found stage fun isJoinable => ?_
      cases notJoinable.symm.trans isJoinable
  | joinFails found stage _ self =>
      exact { waits.passes found stage fun _ => self with }
  | joins found stage _ isReturned => exact waits.joins found stage isReturned
  | clears found _ _ none_joinable => exact waits.clears found none_joinable
  | dies _ _ _ _ => exact { waits with }
  | shuts may => exact waits.shuts may
  | findsFlag found stage _ =>
      exact waits.shutdowns
        (waits.setShutdown found (by simp [stage]) _) _ _
  | executes found stage _ _ =>
      exact waits.shutdowns
        (waits.setShutdown found (by simp [stage]) _) _ _
  | acts found stage _ acts => exact waits.acts found stage acts
  | setsFlag found stage _ =>
      exact waits.shutdowns
        (waits.setShutdown found (by simp [stage]) _) _ _

theorem waits_of_reachable
    {admits : Executor State Event → ExecutorEvent Event → Prop}
    (reached : (executorMachine hosted shutdownFn guards
      threadCount).ReachableUnder admits executor) : executor.Waits := by
  apply reached.invariant Waits
  · rintro _ ⟨program, -, rfl⟩
    exact constructed_waits program
  · intro before event after waits _ stepped
    exact (step_does stepped).2.waits waits

/-! ## What a call of `block()` waits for -/

/-- The threads that were started and those to be started. -/
theorem total_of_reachable
    {admits : Executor State Event → ExecutorEvent Event → Prop}
    (reached : (executorMachine hosted shutdownFn guards
      threadCount).ReachableUnder admits executor) :
    executor.pool.workers.length + executor.unstarted = threadCount := by
  apply reached.invariant fun executor =>
    executor.pool.workers.length + executor.unstarted = threadCount
  · rintro _ ⟨program, -, rfl⟩
    exact Nat.zero_add _
  · intro before event after total _ stepped
    cases (step_does stepped).2 with
    | starts some_left spawns =>
        cases spawns
        simp only [List.length_append, List.length_singleton]
        omega
    | @works event pool may taken =>
        have old : event ≠ .spawn := by
          rintro rfl
          cases may
        exact WorkerPool.step_length taken old ▸ total
    | acts _ _ _ acts =>
        rcases act_step acts with rfl | ⟨event, -, old, taken⟩
        · exact total
        · exact WorkerPool.step_length taken old ▸ total
    | _ => exact total

theorem Waits.started (waits : executor.Waits) {call : BlockCall}
    (isCall : call ∈ executor.blocks) : executor.unstarted = 0 := by
  by_contra some_left
  rw [(waits.starting (Nat.pos_of_ne_zero some_left)).2] at isCall
  cases isCall

theorem Waits.all_returned (waits : executor.Waits)
    (cleared : executor.threads = []) :
    ∀ worker ∈ executor.pool.workers, worker = .returned := by
  intro worker isWorker
  obtain ⟨index, found⟩ := List.mem_iff_getElem?.mp isWorker
  rcases waits.joinable index worker found with isReturned | isJoinable
  · exact isReturned
  · rw [cleared] at isJoinable
    cases isJoinable

/-- What the threads of an executor do until it has stopped. -/
structure Working (hosted : Hosted State Event Exception)
    (threadCount : Nat) (executor : Executor State Event) : Prop where
  /-- No exception costs a thread. -/
  threads : executor.pool.workers.length + executor.unstarted = threadCount
  /-- Every exception that left a handler goes to `error_handler_` once, from
  the thread that it left. -/
  reports : executor.pool.raised.Perm
    (executor.pool.reported ++ executor.pool.pending)
  /-- A thread only returns from an `io_context` that has stopped. -/
  returns : .returned ∈ executor.pool.workers → executor.isStopped = true
  /-- It goes on as long as there is work, once a thread has called `run`. -/
  goes : executor.isStopped = false →
    executor.pool.hasWork hosted = true ∨
      ∀ worker ∈ executor.pool.workers, worker = .entering
  /-- It stops when no handler runs, and nothing is left to do but for what
  it is given later. -/
  stops : executor.isStopped = true →
    (∀ worker ∈ executor.pool.workers, worker.isHandling = false) ∧
      (executor.pool.late = [] → executor.pool.hasWork hosted = false)

/-- The threads run the handlers of the program until all work is done,
whatever the handlers throw. -/
theorem working_of_reachable
    (reached : (executorMachine hosted shutdownFn guards
      threadCount).Reachable executor) :
    executor.Working hosted threadCount := by
  have sound := WorkerPool.sound_of_reachable (pool_reachable reached)
  refine ⟨total_of_reachable reached, sound.reports, sound.returned,
    sound.works, fun stopped => ⟨sound.idle stopped, fun inTime => ?_⟩⟩
  obtain ⟨notBusy, unguarded⟩ := sound.drained stopped inTime
  exact WorkerPool.hasWork_eq_false.mpr
    ⟨notBusy, unguarded, sound.idle stopped⟩

/-- A handler throws while the other thread waits; its exception is reported
and the thread goes on. -/
theorem working_after_throw :
    ∃ executor, (executorMachine postedHandlers [] 1 2).run
        (.constructed [] 1 2)
        [.startThread, .startThread, .pool (.enter 0), .pool (.enter 1),
          .pool (.call (.post (some (.user "handler")))),
          .pool (.handle 1 .run), .pool (.finish 1), .pool (.report 1)] =
          some executor ∧
      executor.pool.reported = [.user "handler"] ∧
      executor.Working postedHandlers 2 := by
  have ran : ∃ executor, (executorMachine postedHandlers [] 1 2).run
      (.constructed [] 1 2)
      [.startThread, .startThread, .pool (.enter 0), .pool (.enter 1),
        .pool (.call (.post (some (.user "handler")))),
        .pool (.handle 1 .run), .pool (.finish 1), .pool (.report 1)] =
        some executor ∧ executor.pool.reported = [.user "handler"] :=
    ⟨_, rfl, rfl⟩
  obtain ⟨executor, ran, reported⟩ := ran
  have reached : (executorMachine postedHandlers [] 1 2).Reachable executor :=
    Machine.reachable_of_run ⟨[], rfl, rfl⟩ ran
  exact ⟨executor, ran, reported, working_of_reachable reached⟩

/-- A call of `block()` that has returned was made by another thread, and has
waited for all threads of the executor.  If there is one, the `io_context`
has stopped, with nothing left to do unless it was given to it afterwards. -/
theorem block_returned
    (reached : (executorMachine hosted shutdownFn guards
      threadCount).Reachable executor) {call : BlockCall}
    (isCall : call ∈ executor.blocks)
    (isReturned : call.stage = .returned) :
    call.caller = none ∧ executor.threads = [] ∧
      (∀ worker ∈ executor.pool.workers, worker = .returned) ∧
      (0 < threadCount → executor.isStopped = true ∧
        (executor.pool.late = [] →
          executor.pool.hasWork hosted = false)) := by
  have waits := waits_of_reachable reached
  have sound := WorkerPool.sound_of_reachable (pool_reachable reached)
  have cleared := waits.cleared call isCall isReturned
  have all := waits.all_returned cleared
  refine ⟨?_, cleared, all, fun some_thread => ?_⟩
  · rw [Option.eq_none_iff_forall_ne_some]
    intro worker isCaller
    exact (waits.blockCallers call isCall worker isCaller).1 isReturned
  · have total := total_of_reachable reached
    rw [waits.started isCall, Nat.add_zero] at total
    have isWorker : .returned ∈ executor.pool.workers := by
      have some_worker := total ▸ some_thread
      obtain ⟨worker, isWorker⟩ := List.exists_mem_of_length_pos some_worker
      exact all worker isWorker ▸ isWorker
    have stopped := sound.returned isWorker
    refine ⟨stopped, fun inTime => WorkerPool.hasWork_eq_false.mpr ?_⟩
    obtain ⟨notBusy, unguarded⟩ := sound.drained stopped inTime
    exact ⟨notBusy, unguarded, sound.idle stopped⟩

/-- The one thread returns, for want of work, and then the call. -/
theorem block_returned_idle :
    ∃ executor, (executorMachine postedHandlers [] 0 1).run
        (.constructed [] 0 1)
        [.startThread, .block none, .blockStep 0, .pool (.enter 0),
          .pool (.leave 0), .blockStep 0, .blockStep 0] = some executor ∧
      executor.threads = [] ∧ executor.isStopped = true ∧
      executor.pool.hasWork postedHandlers = false := by
  have ran : ∃ executor, (executorMachine postedHandlers [] 0 1).run
      (.constructed [] 0 1)
      [.startThread, .block none, .blockStep 0, .pool (.enter 0),
        .pool (.leave 0), .blockStep 0, .blockStep 0] = some executor ∧
      executor.blocks = [⟨none, .returned⟩] ∧ executor.pool.late = [] :=
    ⟨_, rfl, rfl, rfl⟩
  obtain ⟨executor, ran, blocks, inTime⟩ := ran
  have reached : (executorMachine postedHandlers [] 0 1).Reachable executor :=
    Machine.reachable_of_run ⟨[], rfl, rfl⟩ ran
  obtain ⟨-, cleared, -, stopped⟩ :=
    block_returned reached (blocks ▸ List.mem_cons_self) rfl
  obtain ⟨isStopped, drained⟩ := stopped Nat.one_pos
  exact ⟨executor, ran, cleared, isStopped, drained inTime⟩

/-! ## Calls of `block()` from handlers -/

/-- A call keeps its caller. -/
theorem Does.caller (does : Does hosted shutdownFn executor event next)
    {index : Nat} {call : BlockCall}
    (found : executor.blocks[index]? = some call) :
    ∃ later, next.blocks[index]? = some later ∧
      later.caller = call.caller := by
  have moved : ∀ {other : Nat} {changed : BlockCall} (stage : BlockStage),
      executor.blocks[other]? = some changed →
      ∃ later, (executor.blocks.set other
          { changed with stage := stage })[index]? = some later ∧
        later.caller = call.caller := by
    intro other changed stage isThere
    by_cases same : other = index
    · subst same
      cases found.symm.trans isThere
      exact ⟨_, List.getElem?_set_self
        (List.getElem?_eq_some_iff.mp found).1, rfl⟩
    · exact ⟨call, (List.getElem?_set_ne same).trans found, rfl⟩
  cases does with
  | blocks _ _ =>
      exact ⟨call, (List.getElem?_append_left
        (List.getElem?_eq_some_iff.mp found).1).trans found, rfl⟩
  | locks isThere _ _ => exact moved _ isThere
  | passes isThere _ _ => exact moved _ isThere
  | joinFails isThere _ _ _ => exact moved _ isThere
  | joins isThere _ _ _ => exact moved _ isThere
  | clears isThere _ _ _ => exact moved _ isThere
  | _ => exact ⟨call, found, rfl⟩

/-- Clearing `threads_` ends the program only where the call was made by the
one thread of the executor. -/
theorem Does.terminates (does : Does hosted shutdownFn executor event next)
    (waits : executor.Waits) (sound : executor.pool.Sound hosted)
    (alive : executor.terminated = false)
    (terminated : next.terminated = true) (started : next.unstarted = 0) :
    next.pool.workers.length = 1 := by
  have stillAlive : ∀ {same : Bool}, same = executor.terminated →
      same = true → next.pool.workers.length = 1 := by
    rintro _ rfl isTerminated
    exact absurd (alive.symm.trans isTerminated) Bool.false_ne_true
  cases does with
  | startFails some_left => exact absurd started (Nat.ne_of_gt some_left)
  | @dies index thread call found stage atEnd isJoinable =>
      have isCall := List.mem_of_getElem? found
      have past : executor.threads.length ≤ thread :=
        List.getElem?_eq_none_iff.mp atEnd
      have own : ∀ other : Nat, executor.threads[other]? = some true →
          call.caller = some other := by
        intro other isTrue
        have bound := (List.getElem?_eq_some_iff.mp isTrue).1
        exact waits.joined call isCall thread stage other
          (Nat.lt_of_lt_of_le bound past) isTrue
      obtain ⟨worker, isTrue⟩ := List.mem_iff_getElem?.mp isJoinable
      have isCaller := own worker isTrue
      obtain ⟨-, thrown, handles⟩ :=
        waits.blockCallers call isCall worker isCaller
      have running : executor.pool.stopped ≠ true := by
        intro stopped
        have idle := sound.idle stopped _ (List.mem_of_getElem? handles)
        cases idle
      -- no other thread has returned, so there is none
      have only : ∀ other < executor.pool.workers.length,
          other = worker := by
        intro other bound
        rcases waits.joinable other _ (List.getElem?_eq_getElem bound) with
          isReturned | stillJoinable
        · have left : .returned ∈ executor.pool.workers :=
            isReturned ▸ List.getElem_mem bound
          exact absurd (sound.returned left) running
        · exact Option.some.inj ((own other stillJoinable).symm.trans isCaller)
      have bound := (List.getElem?_eq_some_iff.mp handles).1
      have first := only 0 (Nat.zero_lt_of_lt bound)
      by_contra several
      have many : executor.pool.workers.length ≠ 1 := several
      have second := only 1 (by omega)
      omega
  | _ => exact stillAlive rfl terminated

/-- A call of `block()` from a handler never returns, and keeps every other
call from returning.  It ends the program if there is no other thread, and
only then. -/
theorem block_in_handler
    (reached : (executorMachine hosted shutdownFn guards
      threadCount).Reachable executor) {call : BlockCall} {worker : Nat}
    (isCall : call ∈ executor.blocks)
    (inHandler : call.caller = some worker)
    {events : List (ExecutorEvent Event)} {later : Executor State Event}
    (ran : (executorMachine hosted shutdownFn guards threadCount).run executor
      events = some later) :
    (∀ other ∈ later.blocks, other.stage ≠ .returned) ∧
      (later.terminated = true → threadCount = 1) := by
  have laterReached := reached.run (Machine.admitted_true _ events) ran
  obtain ⟨index, found⟩ := List.mem_iff_getElem?.mp isCall
  have stays := Machine.run_keeps
    (fun executor : Executor State Event => ∃ later,
      executor.blocks[index]? = some later ∧ later.caller = some worker)
    (fun before event after holds _ stepped => by
      obtain ⟨kept, isThere, isCaller⟩ := holds
      obtain ⟨later, isLater, same⟩ := (step_does stepped).2.caller isThere
      exact ⟨later, isLater, same.trans isCaller⟩)
    ⟨call, found, inHandler⟩ (Machine.admitted_true _ events) ran
  obtain ⟨kept, isThere, isCaller⟩ := stays
  have waits := waits_of_reachable laterReached
  have isMember := List.mem_of_getElem? isThere
  obtain ⟨-, thrown, handles⟩ :=
    waits.blockCallers kept isMember worker isCaller
  constructor
  · intro other isOther isReturned
    have all := waits.all_returned (waits.cleared other isOther isReturned)
    cases all _ (List.mem_of_getElem? handles)
  · have ends : later.terminated = true → later.unstarted = 0 →
        later.pool.workers.length = 1 := by
      apply laterReached.invariantOver fun executor =>
        executor.terminated = true → executor.unstarted = 0 →
          executor.pool.workers.length = 1
      · rintro _ ⟨program, -, rfl⟩ terminated
        cases terminated
      · intro before event after before_reached _ _ stepped
        obtain ⟨alive, does⟩ := step_does stepped
        exact does.terminates (waits_of_reachable before_reached)
          (WorkerPool.sound_of_reachable (pool_reachable before_reached))
          alive
    intro terminated
    have started := waits.started isMember
    have total := total_of_reachable laterReached
    rw [ends terminated started, started] at total
    exact total.symm

/-- The handler of one of two threads calls `block()`, which waits for the
other one, and then a second call waits for `mutex_`. -/
theorem block_in_handler_of_two :
    ∃ executor later, (executorMachine postedHandlers [] 1 2).run
        (.constructed [] 1 2)
        [.startThread, .startThread, .pool (.enter 0), .pool (.enter 1),
          .pool (.call (.post none)), .pool (.handle 0 .run),
          .block (some 0)] = some executor ∧
      (executorMachine postedHandlers [] 1 2).run executor
        [.blockStep 0, .blockStep 0, .block none] = some later ∧
      later.joinErrors = [selfJoin] ∧ later.terminated = false ∧
      ∀ call ∈ later.blocks, call.stage ≠ .returned := by
  have ran : ∃ executor later, (executorMachine postedHandlers [] 1 2).run
      (.constructed [] 1 2)
      [.startThread, .startThread, .pool (.enter 0), .pool (.enter 1),
        .pool (.call (.post none)), .pool (.handle 0 .run),
        .block (some 0)] = some executor ∧
      executor.blocks = [⟨some 0, .locking⟩] ∧
      (executorMachine postedHandlers [] 1 2).run executor
        [.blockStep 0, .blockStep 0, .block none] = some later ∧
      later.joinErrors = [selfJoin] ∧ later.terminated = false :=
    ⟨_, _, rfl, rfl, rfl, rfl, rfl⟩
  obtain ⟨executor, later, ran, blocks, goesOn, errors, alive⟩ := ran
  have reached : (executorMachine postedHandlers [] 1 2).Reachable executor :=
    Machine.reachable_of_run ⟨[], rfl, rfl⟩ ran
  obtain ⟨waits, -⟩ :=
    block_in_handler reached (blocks ▸ List.mem_cons_self) rfl goesOn
  exact ⟨executor, later, ran, goesOn, errors, alive, waits⟩

end Executor

end Webservice
