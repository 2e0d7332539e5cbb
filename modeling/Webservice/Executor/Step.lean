import Webservice.Library.WorkerPool
import Webservice.Locker.AsyncLocker

/-!
# `executor`

The threads of an executor run its `io_context`, which is a pool: `run`
starts them, `block` joins them, and `shutdown` runs `shutdown_fn_` once.
Both may be called by any thread, also from inside a handler, and several
calls may be in progress at the same time.  What the handlers do is the
program that the executor hosts.
-/

namespace Webservice

/-- How far a call of `block()` has come. -/
inductive BlockStage where
  /-- Waits for `mutex_`. -/
  | locking
  /-- The loop is at the thread with the index. -/
  | joining (index : Nat)
  | returned
  deriving DecidableEq

structure BlockCall where
  /-- The thread of the executor whose handler makes the call, if any. -/
  caller : Option Nat
  stage : BlockStage
  deriving DecidableEq

/-- How far a call of `shutdown()` has come. -/
inductive OnceStage where
  /-- Waits in `call_once`. -/
  | calling
  /-- Runs `shutdown_fn_`, of which so many actions are done. -/
  | executing (done : Nat)
  | returned
  deriving DecidableEq

structure OnceCall where
  caller : Option Nat
  stage : OnceStage
  deriving DecidableEq

/-- What `shutdown_fn_` does. -/
inductive ShutdownAction (Event : Type) where
  | call (event : Event)
  /-- `work_.reset()` -/
  | resetWork
  deriving DecidableEq

structure Executor (State Event : Type) where
  /-- `ioc_`, with `error_handler_` -/
  pool : WorkerPool State Event Exception
  /-- Threads that `run` has still to start. -/
  unstarted : Nat
  /-- `threads_`, by which of them are joinable. -/
  threads : List Bool
  blocks : List BlockCall
  shutdowns : List OnceCall
  /-- `shutdown_flag_` is set. -/
  flag : Bool
  /-- What `shutdown_fn_` has done. -/
  acted : List (ShutdownAction Event)
  /-- What `join` has thrown; `error_handler_` is given it as well. -/
  joinErrors : List Exception
  /-- The constructor of the owner threw. -/
  failed : Bool
  terminated : Bool

inductive ExecutorEvent (Event : Type) where
  /-- `threads_.emplace_back` starts a thread. -/
  | startThread
  /-- `threads_.emplace_back` throws. -/
  | startFails
  | pool (event : PoolEvent Event)
  | block (caller : Option Nat)
  | blockStep (index : Nat)
  | shutdown (caller : Option Nat)
  | shutdownStep (index : Nat)
  deriving DecidableEq

def BlockStage.isInside : BlockStage → Bool
  | .joining _ => true
  | _ => false

def OnceStage.isExecuting : OnceStage → Bool
  | .executing _ => true
  | _ => false

/-- A thread of the executor is in the call. -/
def BlockCall.occupies (call : BlockCall) (worker : Nat) : Bool :=
  decide (call.caller = some worker ∧ call.stage ≠ .returned)

def OnceCall.occupies (call : OnceCall) (worker : Nat) : Bool :=
  decide (call.caller = some worker ∧ call.stage ≠ .returned)

/-- `resource_deadlock_would_occur`, which `join` throws in the thread that
is to be joined. -/
def selfJoin : Exception := .systemError (.other 35) ""

namespace Executor

variable {State Event : Type}

/-- An executor whose `run` is about to start `threadCount` threads. -/
def constructed (program : State) (guards threadCount : Nat) :
    Executor State Event :=
  { pool := .start program guards
    unstarted := threadCount
    threads := []
    blocks := []
    shutdowns := []
    flag := false
    acted := []
    joinErrors := []
    failed := false
    terminated := false }

def isStopped (executor : Executor State Event) : Bool :=
  executor.pool.stopped

/-- The thread is inside of `block()` or `shutdown()`. -/
def isInCall (executor : Executor State Event) (worker : Nat) : Bool :=
  executor.blocks.any (·.occupies worker) ||
    executor.shutdowns.any (·.occupies worker)

/-- Handlers may call into the executor, and so may other threads. -/
def mayCall (executor : Executor State Event) : Option Nat → Bool
  | none => true
  | some worker =>
      (executor.pool.workers[worker]?).any Worker.isHandling &&
        !executor.isInCall worker

/-- A handler does not end inside of a call it has made; threads are started
by `run` and the guard is given up by `shutdown_fn_`. -/
def mayStep (executor : Executor State Event) : PoolEvent Event → Bool
  | .spawn => false
  | .release => false
  | .finish worker => !executor.isInCall worker
  | _ => true

def setBlock (executor : Executor State Event) (index : Nat)
    (call : BlockCall) (stage : BlockStage) : Executor State Event :=
  { executor with
    blocks := executor.blocks.set index { call with stage := stage } }

def setShutdown (executor : Executor State Event) (index : Nat)
    (call : OnceCall) (stage : OnceStage) : Executor State Event :=
  { executor with
    shutdowns := executor.shutdowns.set index { call with stage := stage } }

/-- `threads_.clear()`, which ends the program if a thread is joinable. -/
def clear (executor : Executor State Event) (index : Nat)
    (call : BlockCall) : Executor State Event :=
  if executor.threads.any id then { executor with terminated := true }
  else { executor.setBlock index call .returned with threads := [] }

/-- `if(thread.joinable()){ thread.join(); }` with its `catch` -/
def join (executor : Executor State Event) (index : Nat) (call : BlockCall)
    (thread : Nat) (joinable : Bool) : Option (Executor State Event) :=
  let passed := executor.setBlock index call (.joining (thread + 1))
  if joinable = false then some passed
  else if call.caller = some thread then
    some { passed with joinErrors := executor.joinErrors ++ [selfJoin] }
  else if executor.pool.workers[thread]? = some .returned then
    some { passed with threads := executor.threads.set thread false }
  else none

def blockStep (executor : Executor State Event) (index : Nat) :
    Option (Executor State Event) :=
  executor.blocks[index]?.bind fun call =>
    match call.stage with
    | .locking =>
        if executor.blocks.any fun other => other.stage.isInside then none
        else some (executor.setBlock index call (.joining 0))
    | .joining thread =>
        match executor.threads[thread]? with
        | none => some (executor.clear index call)
        | some joinable => executor.join index call thread joinable
    | .returned => none

/-- One action of `shutdown_fn_`. -/
def act (hosted : Hosted State Event Exception)
    (pool : WorkerPool State Event Exception) :
    ShutdownAction Event → Option (WorkerPool State Event Exception)
  | .call event => pool.step hosted (.call event)
  | .resetWork => some ((pool.step hosted .release).getD pool)

/-- `std::call_once(shutdown_flag_, shutdown_fn_)` -/
def shutdownStep (hosted : Hosted State Event Exception)
    (shutdownFn : List (ShutdownAction Event))
    (executor : Executor State Event) (index : Nat) :
    Option (Executor State Event) :=
  executor.shutdowns[index]?.bind fun call =>
    match call.stage with
    | .calling =>
        if executor.flag then
          some (executor.setShutdown index call .returned)
        else if executor.shutdowns.any fun other =>
            other.stage.isExecuting then none
        else some (executor.setShutdown index call (.executing 0))
    | .executing done =>
        match shutdownFn[done]? with
        | none =>
            some { executor.setShutdown index call .returned with
              flag := true }
        | some action =>
            (act hosted executor.pool action).map fun pool =>
              { executor.setShutdown index call (.executing (done + 1)) with
                pool := pool
                acted := executor.acted ++ [action] }
    | .returned => none

/-- The owner calls `block()` once `run` has returned; a handler may call
`shutdown()` before. -/
def step (hosted : Hosted State Event Exception)
    (shutdownFn : List (ShutdownAction Event))
    (executor : Executor State Event) (event : ExecutorEvent Event) :
    Option (Executor State Event) :=
  if executor.failed ∨ executor.terminated then none
  else
    match event with
    | .startThread =>
        if 0 < executor.unstarted then
          (executor.pool.step hosted .spawn).map fun pool =>
            { executor with
              pool := pool
              unstarted := executor.unstarted - 1
              threads := executor.threads ++ [true] }
        else none
    | .startFails =>
        if 0 < executor.unstarted then
          -- unwinding destroys `threads_`
          some { executor with
            failed := executor.threads.isEmpty
            terminated := !executor.threads.isEmpty }
        else none
    | .pool event =>
        if executor.mayStep event then
          (executor.pool.step hosted event).map fun pool =>
            { executor with pool := pool }
        else none
    | .block caller =>
        if executor.unstarted = 0 ∧ executor.mayCall caller = true then
          some { executor with
            blocks := executor.blocks ++ [⟨caller, .locking⟩] }
        else none
    | .blockStep index => executor.blockStep index
    | .shutdown caller =>
        if executor.mayCall caller = true then
          some { executor with
            shutdowns := executor.shutdowns ++ [⟨caller, .calling⟩] }
        else none
    | .shutdownStep index => executor.shutdownStep hosted shutdownFn index

end Executor

/-- Executors with `threadCount` threads and `guards` work guards. -/
def executorMachine {State Event : Type}
    (hosted : Hosted State Event Exception)
    (shutdownFn : List (ShutdownAction Event)) (guards threadCount : Nat) :
    Machine (Executor State Event) (ExecutorEvent Event) where
  initial executor := ∃ program, hosted.initial program ∧
    executor = .constructed program guards threadCount
  step := Executor.step hosted shutdownFn

/-- Handlers that the user posts to `get_executor()`, each by what it
throws. -/
inductive PostEvent where
  | post (thrown : Option Exception)
  | run
  deriving DecidableEq

def postedHandlers : Hosted (List (Option Exception)) PostEvent Exception where
  initial handlers := handlers = []
  step
    | handlers, .post thrown => some (handlers ++ [thrown])
    | [], .run => none
    | _ :: handlers, .run => some handlers
  isHandler event := event = .run
  busy handlers := !handlers.isEmpty
  thrown?
    | thrown :: _, .run => thrown
    | _, _ => none
  staysBusy {state _ event} notHandler stepped _ := by
    cases event with
    | post thrown =>
        cases stepped
        simp
    | run => simp at notHandler

end Webservice
