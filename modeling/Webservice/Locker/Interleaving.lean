import Webservice.Library.Latch

/-!
# `async_locker` under concurrency

Threads interleave at the single atomic steps of `async_locker`: the load of
`lock_count_` in the constructor of a lock, the increment that follows it,
the decrement-and-test of `unlock`, and the callback.  `make_first_lock` is
split in the same way.  The runs are those of one successful
`make_first_lock`; its exchange can only succeed while the count is zero.
-/

namespace Webservice.Locker

/-- Where a thread stands inside the calls of one `async_locker`. -/
inductive ThreadPoint where
  | outside
  /-- In `lock(async_locker&)`: the count was seen non-zero, the increment is
  still to come. -/
  | checked
  /-- In `unlock`: the decrement reached zero, the callback is still to
  come. -/
  | draining
  deriving DecidableEq

/-- Progress of the one successful `make_first_lock`. -/
inductive FirstLock where
  | notCalled
  /-- `compare_exchange_strong` set the count from 0 to 1. -/
  | exchanged
  /-- The constructor of `result` saw a non-zero count. -/
  | checked
  /-- The constructor of `result` incremented the count. -/
  | incremented
  /-- The increase of the exchange is undone and `result` returned. -/
  | made
  deriving DecidableEq

/-- Counts in `lock_count_` that belong to the running `make_first_lock`. -/
def FirstLock.share : FirstLock → Nat
  | .exchanged | .checked => 1
  | .incremented => 2
  | .notCalled | .made => 0

abbrev ThreadId := Nat

structure SharedLocker where
  /-- `lock_count_` -/
  lockCount : Nat
  /-- Lock objects handed to callers and not unlocked. -/
  live : Nat
  first : FirstLock
  threads : ThreadId → ThreadPoint
  /-- Invocations of `on_last_async_callback_`. -/
  callbacks : Nat

def SharedLocker.moveTo (locker : SharedLocker) (thread : ThreadId)
    (point : ThreadPoint) : SharedLocker :=
  { locker with
    threads := fun other => if other = thread then point
      else locker.threads other }

def SharedLocker.constructed : SharedLocker :=
  { lockCount := 0
    live := 0
    first := .notCalled
    threads := fun _ => .outside
    callbacks := 0 }

/-- One atomic step of one thread. -/
inductive AtomicStep where
  | firstExchange
  | firstLoad
  | firstIncrement
  | firstDecrement
  | load (thread : ThreadId)
  | increment (thread : ThreadId)
  | unlock (thread : ThreadId)
  | callback (thread : ThreadId)
  deriving DecidableEq

namespace SharedLocker

def step (locker : SharedLocker) : AtomicStep → Option SharedLocker
  | .firstExchange =>
      if locker.lockCount = 0 ∧ locker.first = .notCalled then
        some { locker with lockCount := 1, first := .exchanged }
      else none
  | .firstLoad =>
      if locker.first = .exchanged ∧ locker.lockCount ≠ 0 then
        some { locker with first := .checked }
      else none
  | .firstIncrement =>
      if locker.first = .checked then
        some { locker with
          lockCount := locker.lockCount + 1, first := .incremented }
      else none
  | .firstDecrement =>
      if locker.first = .incremented then
        some { locker with
          lockCount := locker.lockCount - 1
          live := locker.live + 1
          first := .made }
      else none
  | .load thread =>
      if locker.threads thread = .outside then
        -- a count of zero throws "async call after shutdown"
        if locker.lockCount = 0 then some locker
        else some (locker.moveTo thread .checked)
      else none
  | .increment thread =>
      if locker.threads thread = .checked then
        some { locker.moveTo thread .outside with
          lockCount := locker.lockCount + 1, live := locker.live + 1 }
      else none
  | .unlock thread =>
      if locker.threads thread = .outside ∧ 0 < locker.live then
        some { locker.moveTo thread
            (if locker.lockCount = 1 then .draining else .outside) with
          lockCount := locker.lockCount - 1, live := locker.live - 1 }
      else none
  | .callback thread =>
      if locker.threads thread = .draining then
        some { locker.moveTo thread .outside with
          callbacks := locker.callbacks + 1 }
      else none

end SharedLocker

def sharedLocker : Machine SharedLocker AtomicStep where
  initial locker := locker = .constructed
  step := SharedLocker.step

theorem initial_constructed : sharedLocker.initial .constructed := rfl

/-- The callback came at most once, and since it came no lock is live and no
`make_lock` can succeed. -/
def OneShot (locker : SharedLocker) : Prop :=
  locker.callbacks ≤ 1 ∧
    (0 < locker.callbacks → locker.live = 0 ∧
      ∀ thread, locker.step (.increment thread) = none)

/-- A step that takes the count from one to zero finds no thread between the
load and the increment of its `make_lock`. -/
def DrainsQuietly (locker : SharedLocker) (event : AtomicStep) : Prop :=
  ∀ thread, event = .unlock thread → locker.lockCount = 1 →
    ∀ other, locker.threads other ≠ .checked

/-! ## The invariant of quiet runs -/

structure Accounted (locker : SharedLocker) : Prop where
  count : locker.lockCount = locker.live + locker.first.share
  unopened : locker.first = .notCalled →
    locker.live = 0 ∧ locker.callbacks = 0 ∧
      ∀ thread, locker.threads thread = .outside
  /-- While somebody is counted, nobody has drained the locker. -/
  occupied : locker.lockCount ≠ 0 →
    locker.callbacks = 0 ∧ ∀ thread, locker.threads thread ≠ .draining
  /-- With nobody counted, no `make_lock` is past its check. -/
  quiet : locker.lockCount = 0 →
    ∀ thread, locker.threads thread ≠ .checked
  once : locker.callbacks ≤ 1
  drainer : ∀ thread, locker.threads thread = .draining →
    locker.callbacks = 0 ∧
      ∀ other, locker.threads other = .draining → other = thread

theorem accounted_constructed : Accounted .constructed := by
  constructor <;> simp [SharedLocker.constructed, FirstLock.share]

namespace SharedLocker

section

variable {locker : SharedLocker} {thread : Nat}

/-- A `make_lock` finds the count above zero. -/
theorem accounted_of_check (accounted : Accounted locker)
    (nonzero : locker.lockCount ≠ 0) :
    Accounted (locker.moveTo thread .checked) := by
  obtain ⟨count, unopened, occupied, -, once, -⟩ := accounted
  obtain ⟨noCallback, noDrainer⟩ := occupied nonzero
  refine ⟨count, ?_, ?_, ?_, once, ?_⟩
  · intro notCalled
    have none_live := unopened notCalled
    simp_all [moveTo, FirstLock.share]
  · intro _
    refine ⟨noCallback, fun other => ?_⟩
    by_cases same : other = thread <;> simp [moveTo, same, noDrainer]
  · intro isZero
    exact absurd isZero nonzero
  · intro other drains
    by_cases same : other = thread
    · simp [moveTo, same] at drains
    · simp only [moveTo, if_neg same] at drains
      exact absurd drains (noDrainer other)

/-- The lock of a `make_lock` comes into being while another one is left. -/
theorem accounted_of_increment (accounted : Accounted locker)
    (checked : locker.threads thread = .checked) :
    Accounted { locker.moveTo thread .outside with
      lockCount := locker.lockCount + 1, live := locker.live + 1 } := by
  obtain ⟨count, unopened, occupied, quietAtZero, once, -⟩ := accounted
  have nonzero : locker.lockCount ≠ 0 := fun zero =>
    quietAtZero zero thread checked
  obtain ⟨noCallback, noDrainer⟩ := occupied nonzero
  refine ⟨?_, ?_, ?_, ?_, once, ?_⟩
  · simp [moveTo]
    omega
  · intro notCalled
    have outside := (unopened notCalled).2.2 thread
    simp [outside] at checked
  · intro _
    refine ⟨noCallback, fun other => ?_⟩
    by_cases same : other = thread <;> simp [moveTo, same, noDrainer]
  · intro isZero
    simp at isZero
  · intro other drains
    by_cases same : other = thread
    · simp [moveTo, same] at drains
    · simp only [moveTo, if_neg same] at drains
      exact absurd drains (noDrainer other)

/-- A lock is released; with the last one the thread goes on to the
callback. -/
theorem accounted_of_unlock (accounted : Accounted locker)
    (quiet : DrainsQuietly locker (.unlock thread))
    (someLive : 0 < locker.live) :
    Accounted { locker.moveTo thread
        (if locker.lockCount = 1 then .draining else .outside) with
      lockCount := locker.lockCount - 1, live := locker.live - 1 } := by
  obtain ⟨count, unopened, occupied, -, once, -⟩ := accounted
  have nonzero : locker.lockCount ≠ 0 := by omega
  obtain ⟨noCallback, noDrainer⟩ := occupied nonzero
  refine ⟨?_, ?_, ?_, ?_, once, ?_⟩
  · simp [moveTo]
    omega
  · intro notCalled
    have none_live := (unopened notCalled).1
    omega
  · intro stillCounted
    refine ⟨noCallback, fun other => ?_⟩
    have many : locker.lockCount ≠ 1 := by
      intro one
      simp [one] at stillCounted
    by_cases same : other = thread <;>
      simp [moveTo, same, noDrainer, many]
  · intro isZero other
    have one : locker.lockCount = 1 := by
      simp only at isZero
      omega
    by_cases same : other = thread
    · simp [moveTo, same, one]
    · simpa [moveTo, same] using quiet thread rfl one other
  · intro other drains
    refine ⟨noCallback, fun another drainsToo => ?_⟩
    have drainsIsThread : ∀ candidate,
        (if candidate = thread then
          (if locker.lockCount = 1 then ThreadPoint.draining else .outside)
          else locker.threads candidate) = .draining →
        candidate = thread := by
      intro candidate atDraining
      by_contra different
      rw [if_neg different] at atDraining
      exact noDrainer candidate atDraining
    rw [drainsIsThread other drains, drainsIsThread another drainsToo]

/-- The thread that drained the locker calls back. -/
theorem accounted_of_callback (accounted : Accounted locker)
    (drains : locker.threads thread = .draining) :
    Accounted { locker.moveTo thread .outside with
      callbacks := locker.callbacks + 1 } := by
  obtain ⟨count, unopened, occupied, quietAtZero, -, drainer⟩ := accounted
  obtain ⟨noCallback, unique⟩ := drainer thread drains
  have zero : locker.lockCount = 0 := by
    by_contra nonzero
    exact (occupied nonzero).2 thread drains
  have gone : ∀ other, (locker.moveTo thread .outside).threads other ≠
      .draining := by
    intro other
    by_cases same : other = thread
    · simp [moveTo, same]
    · simp only [moveTo, if_neg same]
      exact fun atDraining => same (unique other atDraining)
  refine ⟨count, ?_, ?_, ?_, ?_, ?_⟩
  · intro notCalled
    have outside := (unopened notCalled).2.2 thread
    simp [outside] at drains
  · intro nonzero
    exact absurd zero nonzero
  · intro _ other
    by_cases same : other = thread
    · simp [moveTo, same]
    · simpa [moveTo, same] using quietAtZero zero other
  · simp [noCallback]
  · intro other drainsStill
    exact absurd drainsStill (gone other)

end

theorem step_accounted {before after : SharedLocker} {event : AtomicStep}
    (accounted : Accounted before) (quiet : DrainsQuietly before event)
    (stepped : before.step event = some after) : Accounted after := by
  have ⟨count, unopened, occupied, quietAtZero, once, drainer⟩ := accounted
  cases event with
  | firstExchange =>
      simp only [step, Option.ite_none_right_eq_some,
        Option.some.injEq] at stepped
      obtain ⟨⟨zero, notCalled⟩, rfl⟩ := stepped
      obtain ⟨noLive, noCallback, outside⟩ := unopened notCalled
      constructor <;> simp_all [FirstLock.share]
  | firstLoad =>
      simp only [step, Option.ite_none_right_eq_some,
        Option.some.injEq] at stepped
      obtain ⟨⟨exchanged, nonzero⟩, rfl⟩ := stepped
      constructor <;> simp_all [FirstLock.share]
  | firstIncrement =>
      simp only [step, Option.ite_none_right_eq_some,
        Option.some.injEq] at stepped
      obtain ⟨checked, rfl⟩ := stepped
      constructor <;> simp_all [FirstLock.share]
  | firstDecrement =>
      simp only [step, Option.ite_none_right_eq_some,
        Option.some.injEq] at stepped
      obtain ⟨incremented, rfl⟩ := stepped
      constructor <;> simp_all [FirstLock.share]
  | load thread =>
      simp only [step, Option.ite_none_right_eq_some] at stepped
      obtain ⟨-, stepped⟩ := stepped
      split at stepped
      · cases stepped
        exact accounted
      · next nonzero =>
          cases stepped
          exact accounted_of_check accounted nonzero
  | increment thread =>
      simp only [step, Option.ite_none_right_eq_some,
        Option.some.injEq] at stepped
      obtain ⟨checked, rfl⟩ := stepped
      exact accounted_of_increment accounted checked
  | unlock thread =>
      simp only [step, Option.ite_none_right_eq_some,
        Option.some.injEq] at stepped
      obtain ⟨⟨-, someLive⟩, rfl⟩ := stepped
      exact accounted_of_unlock accounted quiet someLive
  | callback thread =>
      simp only [step, Option.ite_none_right_eq_some,
        Option.some.injEq] at stepped
      obtain ⟨drains, rfl⟩ := stepped
      exact accounted_of_callback accounted drains

end SharedLocker

theorem accounted_of_reachable {locker : SharedLocker}
    (reached : sharedLocker.ReachableUnder DrainsQuietly locker) :
    Accounted locker :=
  reached.invariant Accounted
    (fun _ start => by
      cases start
      exact accounted_constructed)
    (fun _ _ _ accounted quiet stepped =>
      SharedLocker.step_accounted accounted quiet stepped)

/-! ## Refinement of the one-shot latch -/

/-- What the count says about the lifetime it guards. -/
def SharedLocker.latch (locker : SharedLocker) : Latch :=
  if locker.first = .notCalled then .unopened
  else if locker.lockCount = 0 then .drained
  else .held (locker.lockCount - 1)

/-- The latch step that an atomic step takes effect as; the others are not
visible. -/
def AtomicStep.effect : AtomicStep → Option Latch.Event
  | .firstExchange => some .openFirst
  | .firstIncrement | .increment _ => some .acquire
  | .firstDecrement => some .release
  | .unlock _ => some .release
  | .firstLoad | .load _ | .callback _ => none

namespace SharedLocker

theorem latch_of_counted {locker : SharedLocker} {others : Nat}
    (called : locker.first ≠ .notCalled)
    (counted : locker.lockCount = others + 1) :
    locker.latch = .held others := by
  simp [latch, called, counted]

theorem latch_eq_drained_iff {locker : SharedLocker} :
    locker.latch = .drained ↔
      locker.first ≠ .notCalled ∧ locker.lockCount = 0 := by
  by_cases called : locker.first = .notCalled
  · simp [latch, called]
  · by_cases zero : locker.lockCount = 0 <;> simp [latch, called, zero]

/-- In a quiet run each visible step is the latch step it stands for. -/
theorem step_latch {before after : SharedLocker} {event : AtomicStep}
    (accounted : Accounted before)
    (stepped : before.step event = some after) :
    match event.effect with
    | none => after.latch = before.latch
    | some visible => Latch.step before.latch visible = some after.latch := by
  have count := accounted.count
  cases event with
  | firstExchange =>
      simp only [step, Option.ite_none_right_eq_some,
        Option.some.injEq] at stepped
      obtain ⟨⟨zero, notCalled⟩, rfl⟩ := stepped
      simp [AtomicStep.effect, latch, notCalled, Latch.step]
  | firstLoad =>
      simp only [step, Option.ite_none_right_eq_some,
        Option.some.injEq] at stepped
      obtain ⟨⟨exchanged, nonzero⟩, rfl⟩ := stepped
      simp [AtomicStep.effect, latch, exchanged]
  | firstIncrement =>
      simp only [step, Option.ite_none_right_eq_some,
        Option.some.injEq] at stepped
      obtain ⟨checked, rfl⟩ := stepped
      simp only [checked, FirstLock.share] at count
      have held : before.latch = .held before.live :=
        latch_of_counted (by simp [checked]) count
      have heldAfter : SharedLocker.latch { before with
          lockCount := before.lockCount + 1, first := .incremented } =
          .held (before.live + 1) :=
        latch_of_counted (by simp) (by simp [count])
      simp [AtomicStep.effect, held, heldAfter, Latch.step]
  | firstDecrement =>
      simp only [step, Option.ite_none_right_eq_some,
        Option.some.injEq] at stepped
      obtain ⟨incremented, rfl⟩ := stepped
      simp only [incremented, FirstLock.share] at count
      have held : before.latch = .held (before.live + 1) :=
        latch_of_counted (by simp [incremented]) count
      have heldAfter : SharedLocker.latch { before with
          lockCount := before.lockCount - 1
          live := before.live + 1
          first := .made } = .held before.live :=
        latch_of_counted (by simp) (by simp [count])
      simp [AtomicStep.effect, held, heldAfter, Latch.step]
  | load thread =>
      simp only [step, Option.ite_none_right_eq_some] at stepped
      obtain ⟨_, stepped⟩ := stepped
      split at stepped <;> cases stepped <;> rfl
  | increment thread =>
      simp only [step, Option.ite_none_right_eq_some,
        Option.some.injEq] at stepped
      obtain ⟨checked, rfl⟩ := stepped
      have called : before.first ≠ .notCalled := by
        intro notCalled
        simp [(accounted.unopened notCalled).2.2 thread] at checked
      obtain ⟨others, counted⟩ : ∃ others, before.lockCount = others + 1 :=
        Nat.exists_eq_succ_of_ne_zero fun zero =>
          accounted.quiet zero thread checked
      have held := latch_of_counted called counted
      have heldAfter : SharedLocker.latch
          { before.moveTo thread .outside with
            lockCount := before.lockCount + 1
            live := before.live + 1 } = .held (others + 1) :=
        latch_of_counted called (by simp [counted])
      simp only [AtomicStep.effect, held, heldAfter, Latch.step]
  | unlock thread =>
      simp only [step, Option.ite_none_right_eq_some,
        Option.some.injEq] at stepped
      obtain ⟨⟨_, someLive⟩, rfl⟩ := stepped
      have called : before.first ≠ .notCalled := by
        intro notCalled
        have noLive := (accounted.unopened notCalled).1
        omega
      obtain ⟨others, counted⟩ : ∃ others, before.lockCount = others + 1 :=
        Nat.exists_eq_succ_of_ne_zero (by omega)
      cases others with
      | zero =>
          simp [AtomicStep.effect, Latch.step, latch, counted, called,
            moveTo]
      | succ others =>
          simp [AtomicStep.effect, Latch.step, latch, counted, called,
            moveTo]
  | callback thread =>
      simp only [step, Option.ite_none_right_eq_some,
        Option.some.injEq] at stepped
      obtain ⟨_, rfl⟩ := stepped
      rfl

end SharedLocker

/-- Quiet runs of the shared locker are runs of a one-shot latch. -/
theorem latch_of_reachable {locker : SharedLocker}
    (reached : sharedLocker.ReachableUnder DrainsQuietly locker) :
    Latch.machine.Reachable locker.latch := by
  refine reached.view SharedLocker.latch ?_ ?_
  · rintro _ rfl
    rfl
  · intro before event after earlier _ stepped
    have visible :=
      SharedLocker.step_latch (accounted_of_reachable earlier) stepped
    cases effect : event.effect with
    | none =>
        rw [effect] at visible
        exact Or.inl visible
    | some latchEvent =>
        rw [effect] at visible
        exact Or.inr ⟨latchEvent, visible⟩

/-! ## One shot -/

/-- In quiet runs the callback comes at most once, and after it there is no
live lock and no `make_lock` that still succeeds. -/
theorem oneShot_of_drainsQuietly {locker : SharedLocker}
    (reached : sharedLocker.ReachableUnder DrainsQuietly locker) :
    OneShot locker := by
  have accounted := accounted_of_reachable reached
  refine ⟨accounted.once, fun called => ?_⟩
  have zero : locker.lockCount = 0 := by
    by_contra nonzero
    have noCallback := (accounted.occupied nonzero).1
    omega
  have firstCalled : locker.first ≠ .notCalled := by
    intro notCalled
    have noCallback := (accounted.unopened notCalled).2.1
    omega
  have drained : locker.latch = .drained :=
    SharedLocker.latch_eq_drained_iff.mpr ⟨firstCalled, zero⟩
  refine ⟨?_, fun thread => ?_⟩
  · have count := accounted.count
    omega
  · -- a successful increment would be a step out of the drained latch
    cases stepped : locker.step (.increment thread) with
    | none => rfl
    | some after =>
        have acquired := SharedLocker.step_latch accounted stepped
        simp [AtomicStep.effect, drained] at acquired

theorem oneShot_of_drainsQuietly_released :
    ∃ locker, sharedLocker.run .constructed
        [.firstExchange, .firstLoad, .firstIncrement, .firstDecrement,
          .unlock 0, .callback 0] = some locker ∧
      locker.callbacks = 1 ∧ OneShot locker := by
  have ran : ∃ locker, sharedLocker.run .constructed
      [.firstExchange, .firstLoad, .firstIncrement, .firstDecrement,
        .unlock 0, .callback 0] = some locker ∧ locker.callbacks = 1 :=
    ⟨_, rfl, rfl⟩
  obtain ⟨locker, ran, once⟩ := ran
  refine ⟨locker, ran, once, oneShot_of_drainsQuietly
    (Machine.reachableUnder_of_run initial_constructed ?_ ran)⟩
  simp [Machine.Admitted, DrainsQuietly, sharedLocker,
    SharedLocker.constructed, SharedLocker.step, SharedLocker.moveTo]

/-- The condition is needed: wherever a step drains the locker while another
thread is past its check, that thread still gets a lock after the callback. -/
theorem oneShot_fails_of_loud_drain {before : SharedLocker}
    {thread other : ThreadId}
    (reached : sharedLocker.Reachable before)
    (outside : before.threads thread = .outside)
    (someLive : 0 < before.live) (last : before.lockCount = 1)
    (checked : before.threads other = .checked) :
    ∃ after, sharedLocker.Reachable after ∧ ¬OneShot after := by
  have different : other ≠ thread := by
    rintro rfl
    simp [outside] at checked
  obtain ⟨after, ran, live, callbacks⟩ : ∃ after,
      sharedLocker.run before
        [.unlock thread, .callback thread, .increment other] = some after ∧
      after.live = before.live ∧ after.callbacks = before.callbacks + 1 := by
    refine ⟨_, by simp [sharedLocker, SharedLocker.step,
      SharedLocker.moveTo, outside, someLive, last, different, checked]; rfl,
      ?_, rfl⟩
    simp only
    omega
  refine ⟨after, reached.run (Machine.admitted_true _ _) ran, ?_⟩
  intro oneShot
  have noLive := (oneShot.2 (by omega)).1
  omega

/-- Thread 1 passes its check, thread 0 releases the only lock and calls
back, and thread 1 gets a lock which it releases in turn: two callbacks. -/
theorem not_oneShot_after_late_admission :
    ¬∀ locker, sharedLocker.Reachable locker → OneShot locker := by
  intro always
  have ran : ∃ locker, sharedLocker.run .constructed
      [.firstExchange, .firstLoad, .firstIncrement, .firstDecrement,
        .load 1, .unlock 0, .callback 0, .increment 1, .unlock 1,
        .callback 1] = some locker ∧ locker.callbacks = 2 :=
    ⟨_, rfl, rfl⟩
  obtain ⟨locker, ran, twice⟩ := ran
  have oneShot := always locker (Machine.reachable_of_run initial_constructed ran)
  have once := oneShot.1
  omega

end Webservice.Locker
