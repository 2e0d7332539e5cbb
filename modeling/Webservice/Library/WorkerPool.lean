import Mathlib.Data.List.Perm.Basic
import Webservice.Library.Machine

/-!
# Pools of worker threads

A pool runs the handlers of a program on its threads for as long as there is
work: an operation that is outstanding, a guard, or a handler that runs.
When the last of it is done the pool stops for good, and its threads leave
one after the other.  A thread that a handler throws through hands the
exception on and goes back to work.
-/

/-- A program whose handlers are run by a pool. -/
structure Hosted (State : Type u) (Event : Type v) (Error : Type w) where
  initial : State → Prop
  step : State → Event → Option State
  /-- Only a thread of the pool takes the step. -/
  isHandler : Event → Bool
  /-- Some operation or handler is outstanding. -/
  busy : State → Bool
  /-- The exception that leaves the handler. -/
  thrown? : State → Event → Option Error
  /-- What is outstanding is only done by handlers. -/
  staysBusy : ∀ {state next event}, isHandler event = false →
    step state event = some next → busy state = true → busy next = true

/-- Where a thread of a pool is. -/
inductive Worker (Error : Type w) where
  /-- About to enter the pool. -/
  | entering
  /-- Ready for a handler. -/
  | polling
  /-- Inside of a handler, and what is going to leave it. -/
  | handling (thrown : Option Error)
  /-- About to hand an exception on. -/
  | catching (error : Error)
  | returned
  deriving DecidableEq

inductive PoolEvent (Event : Type v) where
  | spawn
  | enter (worker : Nat)
  | leave (worker : Nat)
  /-- The thread takes a handler. -/
  | handle (worker : Nat) (event : Event)
  | finish (worker : Nat)
  | report (worker : Nat)
  /-- A step of the program that is no handler, by any thread. -/
  | call (event : Event)
  /-- A guard is given up. -/
  | release
  deriving DecidableEq

structure WorkerPool (State : Type u) (Event : Type v) (Error : Type w) where
  program : State
  stopped : Bool
  guards : Nat
  workers : List (Worker Error)
  /-- Exceptions that left handlers. -/
  raised : List Error
  /-- Exceptions that were handed on. -/
  reported : List Error
  /-- Calls made after the pool had stopped. -/
  late : List Event

namespace Worker

variable {Error : Type w}

def isHandling : Worker Error → Bool
  | .handling _ => true
  | _ => false

/-- The exception that the thread has not handed on. -/
def pending? : Worker Error → Option Error
  | .handling thrown => thrown
  | .catching error => some error
  | _ => none

end Worker

namespace WorkerPool

variable {State : Type u} {Event : Type v} {Error : Type w}

def start (program : State) (guards : Nat) :
    WorkerPool State Event Error :=
  { program := program
    stopped := false
    guards := guards
    workers := []
    raised := []
    reported := []
    late := [] }

def hasWork (hosted : Hosted State Event Error)
    (pool : WorkerPool State Event Error) : Bool :=
  hosted.busy pool.program || decide (0 < pool.guards) ||
    pool.workers.any Worker.isHandling

/-- A pool without work stops. -/
def settled (hosted : Hosted State Event Error)
    (pool : WorkerPool State Event Error) : WorkerPool State Event Error :=
  { pool with stopped := pool.stopped || !pool.hasWork hosted }

def setWorker (pool : WorkerPool State Event Error) (index : Nat)
    (worker : Worker Error) : WorkerPool State Event Error :=
  { pool with workers := pool.workers.set index worker }

/-- The thread is in the handler that has taken the program to `next`. -/
def handled (pool : WorkerPool State Event Error) (index : Nat)
    (next : State) (thrown : Option Error) : WorkerPool State Event Error :=
  { pool with
    program := next
    workers := pool.workers.set index (.handling thrown)
    raised := pool.raised ++ thrown.toList }

/-- Where a thread is after its handler. -/
def afterHandler : Option Error → Worker Error
  | none => .polling
  | some error => .catching error

def step (hosted : Hosted State Event Error)
    (pool : WorkerPool State Event Error) :
    PoolEvent Event → Option (WorkerPool State Event Error)
  | .spawn => some { pool with workers := pool.workers ++ [.entering] }
  | .enter index =>
      match pool.workers[index]? with
      | some .entering => some ((pool.setWorker index .polling).settled hosted)
      | _ => none
  | .leave index =>
      match pool.workers[index]? with
      | some .polling =>
          if pool.stopped then some (pool.setWorker index .returned) else none
      | _ => none
  | .handle index event =>
      match pool.workers[index]? with
      | some .polling =>
          if pool.stopped = false ∧ hosted.isHandler event = true then
            (hosted.step pool.program event).map fun next =>
              pool.handled index next (hosted.thrown? pool.program event)
          else none
      | _ => none
  | .finish index =>
      match pool.workers[index]? with
      | some (.handling thrown) =>
          some ((pool.setWorker index (afterHandler thrown)).settled hosted)
      | _ => none
  | .report index =>
      match pool.workers[index]? with
      | some (.catching error) =>
          some { pool.setWorker index .entering with
            reported := pool.reported ++ [error] }
      | _ => none
  | .call event =>
      if hosted.isHandler event then none
      else
        (hosted.step pool.program event).map fun next =>
          { pool with
            program := next
            late := pool.late ++ if pool.stopped then [event] else [] }
  | .release =>
      if 0 < pool.guards then
        some ({ pool with guards := pool.guards - 1 }.settled hosted)
      else none

end WorkerPool

/-- A program that does nothing. -/
def Hosted.none (Error : Type w) : Hosted Unit Empty Error where
  initial _ := True
  step _ event := nomatch event
  isHandler event := nomatch event
  busy _ := false
  thrown? _ event := nomatch event
  staysBusy {_ _ event} := nomatch event

/-- Two programs on the threads of one pool. -/
def Hosted.prod {State : Type u} {Event : Type v} {Error : Type w}
    {State' : Type u'} {Event' : Type v'} (left : Hosted State Event Error)
    (right : Hosted State' Event' Error) :
    Hosted (State × State') (Event ⊕ Event') Error where
  initial state := left.initial state.1 ∧ right.initial state.2
  step
    | state, .inl event => (left.step state.1 event).map (·, state.2)
    | state, .inr event => (right.step state.2 event).map (state.1, ·)
  isHandler
    | .inl event => left.isHandler event
    | .inr event => right.isHandler event
  busy state := left.busy state.1 || right.busy state.2
  thrown?
    | state, .inl event => left.thrown? state.1 event
    | state, .inr event => right.thrown? state.2 event
  staysBusy {_ _ event} notHandler stepped busy := by
    rw [Bool.or_eq_true] at busy ⊢
    cases event with
    | inl event =>
        obtain ⟨next, taken, rfl⟩ := Option.map_eq_some_iff.mp stepped
        exact busy.imp_left (left.staysBusy notHandler taken)
    | inr event =>
        obtain ⟨next, taken, rfl⟩ := Option.map_eq_some_iff.mp stepped
        exact busy.imp_right (right.staysBusy notHandler taken)

/-- Pools that begin with `guards` guards and no thread. -/
def poolMachine {State : Type u} {Event : Type v} {Error : Type w}
    (hosted : Hosted State Event Error) (guards : Nat) :
    Machine (WorkerPool State Event Error) (PoolEvent Event) where
  initial pool := ∃ program, hosted.initial program ∧
    pool = .start program guards
  step := WorkerPool.step hosted

def Hosted.machine {State : Type u} {Event : Type v} {Error : Type w}
    (hosted : Hosted State Event Error) : Machine State Event where
  initial := hosted.initial
  step := hosted.step

open scoped List

namespace WorkerPool

variable {State : Type u} {Event : Type v} {Error : Type w}
  {hosted : Hosted State Event Error} {guards : Nat}
  {pool next : WorkerPool State Event Error}

/-! ## What a step does -/

theorem step_enter {index : Nat}
    (stepped : pool.step hosted (.enter index) = some next) :
    pool.workers[index]? = some .entering ∧
      next = (pool.setWorker index .polling).settled hosted := by
  simp only [step] at stepped
  split at stepped
  · next found => exact ⟨found, (Option.some.inj stepped).symm⟩
  · cases stepped

theorem step_leave {index : Nat}
    (stepped : pool.step hosted (.leave index) = some next) :
    pool.workers[index]? = some .polling ∧ pool.stopped = true ∧
      next = pool.setWorker index .returned := by
  simp only [step] at stepped
  split at stepped
  · next found =>
      obtain ⟨stopped, isNext⟩ := Option.ite_none_right_eq_some.mp stepped
      exact ⟨found, stopped, (Option.some.inj isNext).symm⟩
  · cases stepped

theorem step_handle {index : Nat} {event : Event}
    (stepped : pool.step hosted (.handle index event) = some next) :
    pool.workers[index]? = some .polling ∧ pool.stopped = false ∧
      hosted.isHandler event = true ∧ ∃ program,
        hosted.step pool.program event = some program ∧
        next = pool.handled index program
          (hosted.thrown? pool.program event) := by
  simp only [step] at stepped
  split at stepped
  · next found =>
      obtain ⟨⟨running, isHandler⟩, changes⟩ :=
        Option.ite_none_right_eq_some.mp stepped
      obtain ⟨program, programStepped, isNext⟩ :=
        Option.map_eq_some_iff.mp changes
      exact ⟨found, running, isHandler, program, programStepped, isNext.symm⟩
  · cases stepped

theorem step_finish {index : Nat}
    (stepped : pool.step hosted (.finish index) = some next) :
    ∃ thrown, pool.workers[index]? = some (.handling thrown) ∧
      next = (pool.setWorker index (afterHandler thrown)).settled hosted := by
  simp only [step] at stepped
  split at stepped
  · next thrown found => exact ⟨thrown, found, (Option.some.inj stepped).symm⟩
  · cases stepped

theorem step_report {index : Nat}
    (stepped : pool.step hosted (.report index) = some next) :
    ∃ error, pool.workers[index]? = some (.catching error) ∧
      next = { pool.setWorker index .entering with
        reported := pool.reported ++ [error] } := by
  simp only [step] at stepped
  split at stepped
  · next error found => exact ⟨error, found, (Option.some.inj stepped).symm⟩
  · cases stepped

theorem step_call {event : Event}
    (stepped : pool.step hosted (.call event) = some next) :
    hosted.isHandler event = false ∧ ∃ program,
      hosted.step pool.program event = some program ∧
      next = { pool with
        program := program
        late := pool.late ++ if pool.stopped then [event] else [] } := by
  obtain ⟨notHandler, changes⟩ := Option.ite_none_left_eq_some.mp stepped
  obtain ⟨program, programStepped, isNext⟩ :=
    Option.map_eq_some_iff.mp changes
  exact ⟨Bool.eq_false_iff.mpr notHandler, program, programStepped,
    isNext.symm⟩

theorem step_release
    (stepped : pool.step hosted .release = some next) :
    0 < pool.guards ∧
      next = { pool with guards := pool.guards - 1 }.settled hosted := by
  obtain ⟨guarded, isNext⟩ := Option.ite_none_right_eq_some.mp stepped
  exact ⟨guarded, (Option.some.inj isNext).symm⟩

/-- What a step of a pool is to its program. -/
inductive Turns (hosted : Hosted State Event Error)
    (pool next : WorkerPool State Event Error) : PoolEvent Event → Prop where
  /-- The program stays; the pool may stop for want of work. -/
  | stays {event : PoolEvent Event} :
      next.program = pool.program → next.late = pool.late →
      next.guards ≤ pool.guards →
      (pool.stopped = true → next.stopped = true) →
      (next.stopped = true →
        pool.stopped = true ∨ next.hasWork hosted = false) →
      Turns hosted pool next event
  | handles {worker : Nat} {event : Event} :
      pool.stopped = false → hosted.isHandler event = true →
      hosted.step pool.program event = some next.program →
      next.late = pool.late → next.guards = pool.guards →
      next.stopped = false → Turns hosted pool next (.handle worker event)
  | calls {event : Event} :
      hosted.isHandler event = false →
      hosted.step pool.program event = some next.program →
      next.late = (pool.late ++ if pool.stopped then [event] else []) →
      next.guards = pool.guards → next.stopped = pool.stopped →
      Turns hosted pool next (.call event)

theorem settled_stops {before : WorkerPool State Event Error}
    (stops : (before.settled hosted).stopped = true) :
    before.stopped = true ∨ (before.settled hosted).hasWork hosted = false := by
  simpa [settled, hasWork] using stops

theorem step_turns {event : PoolEvent Event}
    (stepped : pool.step hosted event = some next) :
    Turns hosted pool next event := by
  have settles : ∀ {before : WorkerPool State Event Error},
      before.stopped = pool.stopped →
      pool.stopped = true → (before.settled hosted).stopped = true := by
    intro before same stopped
    rw [settled, same, stopped]
    rfl
  cases event with
  | spawn =>
      cases stepped
      exact .stays rfl rfl (Nat.le_refl _) id .inl
  | enter index =>
      obtain ⟨-, rfl⟩ := step_enter stepped
      exact .stays rfl rfl (Nat.le_refl _) (settles rfl) settled_stops
  | leave index =>
      obtain ⟨-, -, rfl⟩ := step_leave stepped
      exact .stays rfl rfl (Nat.le_refl _) id .inl
  | handle index event =>
      obtain ⟨-, running, isHandler, program, taken, rfl⟩ :=
        step_handle stepped
      exact .handles running isHandler taken rfl rfl running
  | finish index =>
      obtain ⟨thrown, -, rfl⟩ := step_finish stepped
      exact .stays rfl rfl (Nat.le_refl _) (settles rfl) settled_stops
  | report index =>
      obtain ⟨error, -, rfl⟩ := step_report stepped
      exact .stays rfl rfl (Nat.le_refl _) id .inl
  | call event =>
      obtain ⟨notHandler, program, taken, rfl⟩ := step_call stepped
      exact .calls notHandler taken rfl rfl rfl
  | release =>
      obtain ⟨-, rfl⟩ := step_release stepped
      exact .stays rfl rfl (Nat.sub_le _ _) (settles rfl) settled_stops

/-- Guards are given up by `release` only. -/
theorem step_guards {event : PoolEvent Event} (other : event ≠ .release)
    (stepped : pool.step hosted event = some next) :
    next.guards = pool.guards := by
  cases event with
  | spawn =>
      cases stepped
      rfl
  | enter index =>
      obtain ⟨-, rfl⟩ := step_enter stepped
      rfl
  | leave index =>
      obtain ⟨-, -, rfl⟩ := step_leave stepped
      rfl
  | handle index event =>
      obtain ⟨-, -, -, program, -, rfl⟩ := step_handle stepped
      rfl
  | finish index =>
      obtain ⟨thrown, -, rfl⟩ := step_finish stepped
      rfl
  | report index =>
      obtain ⟨error, -, rfl⟩ := step_report stepped
      rfl
  | call event =>
      obtain ⟨-, program, -, rfl⟩ := step_call stepped
      rfl
  | release => exact absurd rfl other

/-- The program of the pool takes its own steps, or stays. -/
theorem step_program {event : PoolEvent Event}
    (stepped : pool.step hosted event = some next) :
    next.program = pool.program ∨
      ∃ taken, hosted.step pool.program taken = some next.program := by
  cases step_turns stepped with
  | stays same => exact .inl same
  | handles _ _ taken => exact .inr ⟨_, taken⟩
  | calls _ taken => exact .inr ⟨_, taken⟩

/-- In a pool, a program runs as it does by itself. -/
theorem program_reachable
    {admits : WorkerPool State Event Error → PoolEvent Event → Prop}
    (reached : (poolMachine hosted guards).ReachableUnder admits pool) :
    hosted.machine.Reachable pool.program := by
  refine reached.view WorkerPool.program ?_ ?_
  · rintro _ ⟨program, isInitial, rfl⟩
    exact isInitial
  · intro before event after _ _ stepped
    exact step_program stepped

/-- Only a spawn adds a thread. -/
theorem step_length {event : PoolEvent Event}
    (stepped : pool.step hosted event = some next) (old : event ≠ .spawn) :
    next.workers.length = pool.workers.length := by
  cases event with
  | spawn => exact absurd rfl old
  | enter index =>
      obtain ⟨-, rfl⟩ := step_enter stepped
      exact List.length_set
  | leave index =>
      obtain ⟨-, -, rfl⟩ := step_leave stepped
      exact List.length_set
  | handle index event =>
      obtain ⟨-, -, -, program, -, rfl⟩ := step_handle stepped
      exact List.length_set
  | finish index =>
      obtain ⟨thrown, -, rfl⟩ := step_finish stepped
      exact List.length_set
  | report index =>
      obtain ⟨error, -, rfl⟩ := step_report stepped
      exact List.length_set
  | call event =>
      obtain ⟨-, program, -, rfl⟩ := step_call stepped
      rfl
  | release =>
      obtain ⟨-, rfl⟩ := step_release stepped
      rfl

theorem getElem?_set_of_ne {workers : List (Worker Error)}
    {index other : Nat} {worker before after : Worker Error}
    (found : workers[index]? = some worker)
    (changed : workers[other]? = some before) (different : worker ≠ before) :
    (workers.set other after)[index]? = some worker := by
  have apart : other ≠ index := by
    rintro rfl
    exact different (Option.some.inj (found.symm.trans changed))
  rw [List.getElem?_set_ne apart]
  exact found

/-- A thread that has returned has gone for good, and a handler only ends by
itself. -/
theorem step_keeps {event : PoolEvent Event} {index : Nat}
    {worker : Worker Error} (found : pool.workers[index]? = some worker)
    (stays : worker = .returned ∨
      worker.isHandling = true ∧ event ≠ .finish index)
    (stepped : pool.step hosted event = some next) :
    next.workers[index]? = some worker := by
  have idle : worker ≠ .entering ∧ worker ≠ .polling ∧
      ∀ error, worker ≠ .catching error := by
    rcases stays with rfl | ⟨handling, -⟩
    · simp
    · cases worker <;> simp [Worker.isHandling] at handling ⊢
  cases event with
  | spawn =>
      cases stepped
      exact List.getElem?_append_left
        (List.getElem?_eq_some_iff.mp found).1 ▸ found
  | enter other =>
      obtain ⟨changed, rfl⟩ := step_enter stepped
      exact getElem?_set_of_ne found changed idle.1
  | leave other =>
      obtain ⟨changed, -, rfl⟩ := step_leave stepped
      exact getElem?_set_of_ne found changed idle.2.1
  | handle other event =>
      obtain ⟨changed, -, -, program, -, rfl⟩ := step_handle stepped
      exact getElem?_set_of_ne found changed idle.2.1
  | finish other =>
      obtain ⟨thrown, changed, rfl⟩ := step_finish stepped
      have apart : other ≠ index := by
        rintro rfl
        cases found.symm.trans changed
        rcases stays with isReturned | ⟨-, goesOn⟩
        · cases isReturned
        · exact goesOn rfl
      exact (List.getElem?_set_ne apart).trans found
  | report other =>
      obtain ⟨error, changed, rfl⟩ := step_report stepped
      exact getElem?_set_of_ne found changed (idle.2.2 error)
  | call event =>
      obtain ⟨-, program, -, rfl⟩ := step_call stepped
      exact found
  | release =>
      obtain ⟨-, rfl⟩ := step_release stepped
      exact found

/-! ## What a pool keeps to -/

/-- The exceptions that threads have not handed on. -/
def pending (pool : WorkerPool State Event Error) : List Error :=
  pool.workers.filterMap Worker.pending?

structure Sound (hosted : Hosted State Event Error)
    (pool : WorkerPool State Event Error) : Prop where
  /-- No thread leaves a pool that goes on. -/
  returned : .returned ∈ pool.workers → pool.stopped = true
  idle : pool.stopped = true →
    ∀ worker ∈ pool.workers, worker.isHandling = false
  drained : pool.stopped = true → pool.late = [] →
    hosted.busy pool.program = false ∧ pool.guards = 0
  /-- A pool that goes on has work, as soon as a thread has entered it. -/
  works : pool.stopped = false →
    pool.hasWork hosted = true ∨ ∀ worker ∈ pool.workers, worker = .entering
  /-- Every exception is handed on once. -/
  reports : pool.raised.Perm (pool.reported ++ pool.pending)

theorem hasWork_eq_false :
    pool.hasWork hosted = false ↔
      hosted.busy pool.program = false ∧ pool.guards = 0 ∧
        ∀ worker ∈ pool.workers, worker.isHandling = false := by
  simp [hasWork, and_assoc]

/-- What is pending besides the exception of one thread. -/
theorem pending_set {workers : List (Worker Error)} {index : Nat}
    {worker : Worker Error} (found : workers[index]? = some worker) :
    ∃ rest, (workers.filterMap Worker.pending?).Perm
        (worker.pending?.toList ++ rest) ∧
      ∀ other, ((workers.set index other).filterMap Worker.pending?).Perm
        (other.pending?.toList ++ rest) := by
  obtain ⟨bound, isWorker⟩ := List.getElem?_eq_some_iff.mp found
  have first : ∀ other : Worker Error,
      ((other :: workers.eraseIdx index).filterMap Worker.pending?) =
        other.pending?.toList ++
          (workers.eraseIdx index).filterMap Worker.pending? := by
    intro other
    rw [List.filterMap_cons]
    cases other.pending? <;> rfl
  refine ⟨(workers.eraseIdx index).filterMap Worker.pending?, ?_,
    fun other => ?_⟩
  · rw [← first, ← isWorker]
    exact (List.getElem_cons_eraseIdx_perm bound).symm.filterMap _
  · rw [← first]
    exact (List.set_perm_cons_eraseIdx bound other).filterMap _

/-- A thread goes on, and takes its exception with it. -/
theorem Sound.reports_set (sound : pool.Sound hosted) {index : Nat}
    {worker other : Worker Error}
    (found : pool.workers[index]? = some worker)
    (same : other.pending? = worker.pending?) :
    pool.raised.Perm (pool.reported ++
      (pool.workers.set index other).filterMap Worker.pending?) := by
  obtain ⟨rest, before, after⟩ := pending_set found
  have swapped := after other
  rw [same] at swapped
  exact sound.reports.trans ((before.trans swapped.symm).append_left _)

theorem start_sound {program : State} :
    (start program guards : WorkerPool State Event Error).Sound hosted := by
  constructor
  · intro isThere
    cases isThere
  · intro stopped
    cases stopped
  · intro stopped
    cases stopped
  · exact fun _ => .inr (by simp [start])
  · exact .nil

/-- A thread goes on without work of its own. -/
theorem Sound.moved (sound : pool.Sound hosted) {index : Nat}
    {worker other : Worker Error}
    (found : pool.workers[index]? = some worker)
    (same : other.pending? = worker.pending?)
    (idle : other.isHandling = false)
    (stays : other = .returned → pool.stopped = true) :
    ((pool.setWorker index other).settled hosted).Sound hosted := by
  have quiet : pool.stopped = true →
      ∀ thread ∈ pool.workers.set index other, thread.isHandling = false := by
    intro stopped thread isThere
    rcases List.mem_or_eq_of_mem_set isThere with old | rfl
    · exact sound.idle stopped thread old
    · exact idle
  have settles : ∀ {after : WorkerPool State Event Error},
      after = (pool.setWorker index other).settled hosted →
      after.stopped = true → pool.stopped = true ∨
        (pool.setWorker index other).hasWork hosted = false := by
    rintro after rfl stopped
    simpa [settled, setWorker] using stopped
  constructor
  · intro isThere
    rcases List.mem_or_eq_of_mem_set isThere with old | isOther
    · simp [settled, setWorker, sound.returned old]
    · simp [settled, setWorker, stays isOther.symm]
  · intro stopped
    rcases settles rfl stopped with before | noWork
    · exact quiet before
    · exact (hasWork_eq_false.mp noWork).2.2
  · intro stopped inTime
    rcases settles rfl stopped with before | noWork
    · exact sound.drained before inTime
    · obtain ⟨notBusy, unguarded, -⟩ := hasWork_eq_false.mp noWork
      exact ⟨notBusy, unguarded⟩
  · intro running
    simp only [settled, Bool.or_eq_false_iff, Bool.not_eq_false'] at running
    exact .inl running.2
  · exact sound.reports_set found same

theorem settled_of_stopped (stopped : pool.stopped = true) :
    pool.settled hosted = pool := by
  rw [settled, stopped, Bool.true_or, ← stopped]

theorem Sound.spawned (sound : pool.Sound hosted) :
    Sound hosted { pool with workers := pool.workers ++ [.entering] } := by
  constructor
  · intro isThere
    rcases List.mem_append.mp isThere with old | isNew
    · exact sound.returned old
    · cases List.mem_singleton.mp isNew
  · intro stopped worker isThere
    rcases List.mem_append.mp isThere with old | isNew
    · exact sound.idle stopped worker old
    · rw [List.mem_singleton.mp isNew]
      rfl
  · exact sound.drained
  · intro running
    rcases sound.works running with work | allEntering
    · left
      simpa [hasWork, Worker.isHandling] using work
    · right
      intro worker isThere
      rcases List.mem_append.mp isThere with old | isNew
      · exact allEntering worker old
      · exact List.mem_singleton.mp isNew
  · have same : pending { pool with workers := pool.workers ++ [.entering] } =
        pool.pending := by
      rw [pending, List.filterMap_append]
      exact List.append_nil _
    rw [same]
    exact sound.reports

theorem Sound.handled (sound : pool.Sound hosted) {index : Nat}
    (found : pool.workers[index]? = some .polling)
    (running : pool.stopped = false) (program : State)
    (thrown : Option Error) :
    (pool.handled index program thrown).Sound hosted := by
  constructor
  · intro isThere
    rcases List.mem_or_eq_of_mem_set isThere with old | isNew
    · exact sound.returned old
    · cases isNew
  · intro stopped
    exact absurd (running.symm.trans stopped) Bool.false_ne_true
  · intro stopped
    exact absurd (running.symm.trans stopped) Bool.false_ne_true
  · intro _
    left
    have bound := (List.getElem?_eq_some_iff.mp found).1
    have inside : Worker.handling thrown ∈
        pool.workers.set index (.handling thrown) :=
      List.mem_set bound _
    simp only [hasWork, Bool.or_eq_true, List.any_eq_true]
    exact .inr ⟨_, inside, rfl⟩
  · obtain ⟨rest, before, after⟩ := pending_set found
    calc
      pool.raised ++ thrown.toList
      _ ~ pool.reported ++ rest ++ thrown.toList :=
          (sound.reports.trans (before.append_left _)).append_right _
      _ ~ pool.reported ++ (thrown.toList ++ rest) := by
          rw [List.append_assoc]
          exact List.perm_append_comm.append_left _
      _ ~ _ := (after (.handling thrown)).symm.append_left _

theorem Sound.reported (sound : pool.Sound hosted) {index : Nat}
    {error : Error} (found : pool.workers[index]? = some (.catching error)) :
    Sound hosted { pool.setWorker index .entering with
      reported := pool.reported ++ [error] } := by
  constructor
  · intro isThere
    rcases List.mem_or_eq_of_mem_set isThere with old | isNew
    · exact sound.returned old
    · cases isNew
  · intro stopped worker isThere
    rcases List.mem_or_eq_of_mem_set isThere with old | rfl
    · exact sound.idle stopped worker old
    · rfl
  · exact sound.drained
  · intro running
    rcases sound.works running with work | allEntering
    · by_cases inHandler : ∃ worker ∈ pool.workers, worker.isHandling = true
      · obtain ⟨worker, isThere, handling⟩ := inHandler
        obtain ⟨other, isOther⟩ := List.mem_iff_getElem?.mp isThere
        have different : index ≠ other := by
          rintro rfl
          cases found.symm.trans isOther
          cases handling
        left
        simp only [hasWork, Bool.or_eq_true, List.any_eq_true]
        refine .inr ⟨worker, ?_, handling⟩
        apply List.mem_of_getElem? (i := other)
        rw [← isOther]
        exact List.getElem?_set_ne different
      · left
        simp only [hasWork, Bool.or_eq_true, List.any_eq_true] at work ⊢
        exact .inl (work.resolve_right inHandler)
    · have isThere := List.mem_of_getElem? found
      cases allEntering _ isThere
  · obtain ⟨rest, before, after⟩ := pending_set found
    calc
      pool.raised
      _ ~ pool.reported ++ ([error] ++ rest) :=
          sound.reports.trans (before.append_left _)
      _ = pool.reported ++ [error] ++ rest :=
          (List.append_assoc _ _ _).symm
      _ ~ _ := (after .entering).symm.append_left _

theorem Sound.called (sound : pool.Sound hosted) {event : Event}
    {program : State} (notHandler : hosted.isHandler event = false)
    (taken : hosted.step pool.program event = some program) :
    Sound hosted { pool with
      program := program
      late := pool.late ++ if pool.stopped then [event] else [] } := by
  constructor
  · exact sound.returned
  · exact sound.idle
  · intro stopped inTime
    have isStopped : pool.stopped = true := stopped
    rw [isStopped, if_pos rfl] at inTime
    exact absurd inTime (List.append_ne_nil_of_right_ne_nil _ (by simp))
  · intro running
    rcases sound.works running with work | allEntering
    · left
      simp only [hasWork, Bool.or_eq_true] at work ⊢
      rcases work with (busy | guarded) | inHandler
      · exact .inl (.inl (hosted.staysBusy notHandler taken busy))
      · exact .inl (.inr guarded)
      · exact .inr inHandler
    · exact .inr allEntering
  · exact sound.reports

theorem Sound.released (sound : pool.Sound hosted) :
    Sound hosted
      ({ pool with guards := pool.guards - 1 }.settled hosted) := by
  by_cases stopped : pool.stopped = true
  · have same : settled hosted { pool with guards := pool.guards - 1 } =
        { pool with guards := pool.guards - 1 } := settled_of_stopped stopped
    rw [same]
    refine ⟨sound.returned, sound.idle, fun isStopped inTime => ?_,
      fun running => ?_, sound.reports⟩
    · obtain ⟨notBusy, unguarded⟩ := sound.drained isStopped inTime
      exact ⟨notBusy, by simp [unguarded]⟩
    · exact absurd (running.symm.trans stopped) Bool.false_ne_true
  · have noWork : ∀ isStopped : (settled hosted
        { pool with guards := pool.guards - 1 }).stopped = true,
        hasWork hosted { pool with guards := pool.guards - 1 } = false := by
      intro isStopped
      simpa [settled, stopped] using isStopped
    constructor
    · intro isThere
      exact absurd (sound.returned isThere) stopped
    · exact fun isStopped => (hasWork_eq_false.mp (noWork isStopped)).2.2
    · intro isStopped _
      obtain ⟨notBusy, unguarded, -⟩ :=
        hasWork_eq_false.mp (noWork isStopped)
      exact ⟨notBusy, unguarded⟩
    · intro running
      simp only [settled, Bool.or_eq_false_iff, Bool.not_eq_false']
        at running
      exact .inl running.2
    · exact sound.reports

theorem Sound.step (sound : pool.Sound hosted) {event : PoolEvent Event}
    (stepped : pool.step hosted event = some next) : next.Sound hosted := by
  cases event with
  | spawn =>
      cases stepped
      exact sound.spawned
  | enter index =>
      obtain ⟨found, rfl⟩ := step_enter stepped
      exact sound.moved found rfl rfl fun isReturned => by cases isReturned
  | leave index =>
      obtain ⟨found, stopped, rfl⟩ := step_leave stepped
      have same : (pool.setWorker index .returned).settled hosted =
          pool.setWorker index .returned := settled_of_stopped stopped
      rw [← same]
      exact sound.moved found rfl rfl fun _ => stopped
  | handle index event =>
      obtain ⟨found, running, -, program, -, rfl⟩ := step_handle stepped
      exact sound.handled found running program _
  | finish index =>
      obtain ⟨thrown, found, rfl⟩ := step_finish stepped
      cases thrown with
      | none =>
          exact sound.moved found rfl rfl fun isReturned => by
            cases isReturned
      | some error =>
          exact sound.moved found rfl rfl fun isReturned => by
            cases isReturned
  | report index =>
      obtain ⟨error, found, rfl⟩ := step_report stepped
      exact sound.reported found
  | call event =>
      obtain ⟨notHandler, program, taken, rfl⟩ := step_call stepped
      exact sound.called notHandler taken
  | release =>
      obtain ⟨-, rfl⟩ := step_release stepped
      exact sound.released

theorem sound_of_reachable
    {admits : WorkerPool State Event Error → PoolEvent Event → Prop}
    (reached : (poolMachine hosted guards).ReachableUnder admits pool) :
    pool.Sound hosted := by
  apply reached.invariant (Sound hosted)
  · rintro _ ⟨program, -, rfl⟩
    exact start_sound
  · intro before event after sound _ stepped
    exact sound.step stepped

/-- A pool that has stopped has no guard left. -/
theorem unguarded_of_reachable
    {admits : WorkerPool State Event Error → PoolEvent Event → Prop}
    (reached : (poolMachine hosted guards).ReachableUnder admits pool) :
    pool.stopped = true → pool.guards = 0 := by
  apply reached.invariant fun pool => pool.stopped = true → pool.guards = 0
  · rintro _ ⟨program, -, rfl⟩ stopped
    cases stopped
  · intro before event after unguarded _ stepped stopped
    cases step_turns stepped with
    | stays _ _ fewer _ stops =>
        rcases stops stopped with wasStopped | noWork
        · exact Nat.eq_zero_of_le_zero (unguarded wasStopped ▸ fewer)
        · exact (hasWork_eq_false.mp noWork).2.1
    | handles _ _ _ _ _ running =>
        exact absurd (running.symm.trans stopped) Bool.false_ne_true
    | calls _ _ _ same wasStopped =>
        rw [same]
        exact unguarded (wasStopped.symm.trans stopped)

end WorkerPool
