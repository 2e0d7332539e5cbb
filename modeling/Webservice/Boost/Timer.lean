/-!
# Waitable timers

The part of `steady_timer` that decides which handlers run.  Time itself is
left out: a pending wait may expire at any point.  Cancelling reaches the
pending waits only; a wait whose handler is already queued is past it.
-/

namespace Webservice

structure WaitableTimer where
  /-- Waits on the timer. -/
  pending : Nat
  /-- Queued handlers of waits that expired or failed. -/
  expired : Nat
  /-- Queued handlers of waits cancelled with `operation_aborted`. -/
  cancelled : Nat
  deriving DecidableEq

namespace WaitableTimer

def idle : WaitableTimer := ⟨0, 0, 0⟩

def asyncWait (timer : WaitableTimer) : WaitableTimer :=
  { timer with pending := timer.pending + 1 }

/-- What `cancel` and `expires_after` do to the waits; both return the number
of waits that were pending. -/
def cancel (timer : WaitableTimer) : WaitableTimer :=
  { timer with pending := 0, cancelled := timer.cancelled + timer.pending }

def expire? (timer : WaitableTimer) : Option WaitableTimer :=
  if 0 < timer.pending then
    some { timer with
      pending := timer.pending - 1, expired := timer.expired + 1 }
  else none

/-- Take a queued handler; `aborted` tells which kind. -/
def take? (timer : WaitableTimer) (aborted : Bool) : Option WaitableTimer :=
  if aborted then
    if 0 < timer.cancelled then
      some { timer with cancelled := timer.cancelled - 1 }
    else none
  else
    if 0 < timer.expired then
      some { timer with expired := timer.expired - 1 }
    else none

/-- Waits that can still act: pending ones and expired ones whose handler is
queued. -/
def live (timer : WaitableTimer) : Nat := timer.pending + timer.expired

/-- Handlers the timer still owes. -/
def handlers (timer : WaitableTimer) : Nat :=
  timer.pending + timer.expired + timer.cancelled

@[simp] theorem asyncWait_live (timer : WaitableTimer) :
    timer.asyncWait.live = timer.live + 1 := by
  simp only [asyncWait, live]
  omega

@[simp] theorem asyncWait_handlers (timer : WaitableTimer) :
    timer.asyncWait.handlers = timer.handlers + 1 := by
  simp only [asyncWait, handlers]
  omega

@[simp] theorem cancel_handlers (timer : WaitableTimer) :
    timer.cancel.handlers = timer.handlers := by
  simp only [cancel, handlers]
  omega

theorem cancel_live_le (timer : WaitableTimer) :
    timer.cancel.live ≤ timer.live := by
  simp only [cancel, live]
  omega

@[simp] theorem cancel_pending (timer : WaitableTimer) :
    timer.cancel.pending = 0 :=
  rfl

@[simp] theorem cancel_expired (timer : WaitableTimer) :
    timer.cancel.expired = timer.expired :=
  rfl

theorem expire?_eq_some {timer after : WaitableTimer}
    (expires : timer.expire? = some after) :
    after.live = timer.live ∧ after.handlers = timer.handlers := by
  simp only [expire?, Option.ite_none_right_eq_some,
    Option.some.injEq] at expires
  obtain ⟨some_pending, rfl⟩ := expires
  simp only [live, handlers]
  omega

theorem expire?_pending {timer after : WaitableTimer}
    (expires : timer.expire? = some after) :
    timer.pending = after.pending + 1 := by
  simp only [expire?, Option.ite_none_right_eq_some,
    Option.some.injEq] at expires
  obtain ⟨some_pending, rfl⟩ := expires
  exact (Nat.sub_add_cancel some_pending).symm

theorem take?_eq_some {timer after : WaitableTimer} {aborted : Bool}
    (taken : timer.take? aborted = some after) :
    timer.handlers = after.handlers + 1 ∧
      timer.live = after.live + (if aborted then 0 else 1) ∧
      after.pending = timer.pending := by
  cases aborted with
  | false =>
      simp only [take?, Bool.false_eq_true, if_false,
        Option.ite_none_right_eq_some, Option.some.injEq] at taken
      obtain ⟨some_queued, rfl⟩ := taken
      refine ⟨?_, ?_, rfl⟩ <;>
        simp only [live, handlers, Bool.false_eq_true, if_false] <;> omega
  | true =>
      simp only [take?, if_true, Option.ite_none_right_eq_some,
        Option.some.injEq] at taken
      obtain ⟨some_queued, rfl⟩ := taken
      refine ⟨?_, ?_, rfl⟩ <;> simp only [live, handlers, if_true] <;> omega

theorem take?_aborted_expired {timer after : WaitableTimer}
    (taken : timer.take? true = some after) :
    after.expired = timer.expired := by
  obtain ⟨-, live, pending⟩ := take?_eq_some taken
  simp only [WaitableTimer.live, pending, if_true, Nat.add_zero] at live
  exact (Nat.add_left_cancel live).symm

end WaitableTimer

end Webservice
