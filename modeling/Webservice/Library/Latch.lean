import Webservice.Library.Machine

/-!
# One-shot latches

The purpose of a reference count that guards the end of a lifetime: it is
opened once, holders come and go while at least one of them is left, and the
release of the last holder ends it for good.
-/

/-- A latch that nobody opened yet, one with `others + 1` holders, or one
whose last holder is gone. -/
inductive Latch where
  | unopened
  | held (others : Nat)
  | drained
  deriving DecidableEq

namespace Latch

inductive Event where
  | openFirst
  | acquire
  | release
  deriving DecidableEq

def step : Latch → Event → Option Latch
  | .unopened, .openFirst => some (.held 0)
  | .held others, .acquire => some (.held (others + 1))
  | .held (others + 1), .release => some (.held others)
  | .held 0, .release => some .drained
  | _, _ => none

def machine : Machine Latch Event where
  initial latch := latch = .unopened
  step := step

/-- A drained latch never opens again. -/
@[simp] theorem step_drained (event : Event) : step .drained event = none := by
  cases event <;> rfl

end Latch
