import Webservice.Boost.Stream

/-!
# `async_locker`

The operations of `async_locker` taken as atomic, as the users of a locker
see them.  Acquiring a lock fails once the count is zero.
-/

namespace Webservice

/-- Exceptions with the texts of the source. -/
inductive Exception where
  | runtimeError (what : String)
  | logicError (what : String)
  /-- `system_error(ec, "websocket session " + location)` -/
  | systemError (ec : ErrorCode) (what : String)
  /-- Thrown by code of the user. -/
  | user (what : String)
  deriving DecidableEq

structure AsyncLocker where
  lockCount : Nat
  /-- How often the count fell to zero, which invokes
  `on_last_async_callback_` if it is set. -/
  callbacks : Nat
  deriving DecidableEq

namespace AsyncLocker

def constructed : AsyncLocker := ⟨0, 0⟩

def makeFirstLock (locker : AsyncLocker) : Except Exception AsyncLocker :=
  if locker.lockCount = 0 then .ok { locker with lockCount := 1 }
  else .error (.logicError
    "async_locker::first_lock() called after first lock.")

def makeLock (locker : AsyncLocker) : Except Exception AsyncLocker :=
  if locker.lockCount = 0 then
    .error (.runtimeError "async call after shutdown")
  else .ok { locker with lockCount := locker.lockCount + 1 }

def unlock (locker : AsyncLocker) : AsyncLocker :=
  { lockCount := locker.lockCount - 1
    callbacks := if locker.lockCount = 1 then locker.callbacks + 1
      else locker.callbacks }

/-- A locker whose first lock was made: its callback came if and only if
nobody holds a lock any more. -/
def Latched (locker : AsyncLocker) : Prop :=
  locker.callbacks = if locker.lockCount = 0 then 1 else 0

theorem makeLock_of_pos {locker : AsyncLocker}
    (held : 0 < locker.lockCount) :
    locker.makeLock =
      .ok { locker with lockCount := locker.lockCount + 1 } := by
  have nonzero : locker.lockCount ≠ 0 := Nat.ne_of_gt held
  simp [makeLock, nonzero]

theorem makeLock_of_zero {locker : AsyncLocker}
    (drained : locker.lockCount = 0) :
    locker.makeLock = .error (.runtimeError "async call after shutdown") := by
  simp [makeLock, drained]

theorem Latched.acquired {locker : AsyncLocker} (latched : locker.Latched)
    (held : 0 < locker.lockCount) :
    Latched { locker with lockCount := locker.lockCount + 1 } := by
  have nonzero : locker.lockCount ≠ 0 := Nat.ne_of_gt held
  simpa [Latched, nonzero] using latched

theorem Latched.unlock {locker : AsyncLocker} (latched : locker.Latched)
    (held : 0 < locker.lockCount) : locker.unlock.Latched := by
  have none_yet : locker.callbacks = 0 := by
    simpa [Latched, Nat.ne_of_gt held] using latched
  by_cases last : locker.lockCount = 1
  · simp [Latched, AsyncLocker.unlock, last, none_yet]
  · have some_left : ¬locker.lockCount - 1 = 0 := by omega
    simp only [Latched, AsyncLocker.unlock, if_neg last, if_neg some_left,
      none_yet]

theorem unlock_calledBack {locker : AsyncLocker} {callbacks : Nat}
    (same : locker.callbacks = callbacks)
    (called : callbacks < locker.unlock.callbacks) :
    locker.unlock.lockCount = 0 := by
  by_cases last : locker.lockCount = 1
  · simp [unlock, last]
  · rw [unlock, if_neg last, same] at called
    exact absurd called (Nat.lt_irrefl _)

theorem unlock_last {locker : AsyncLocker} (held : 0 < locker.lockCount)
    (drained : locker.unlock.lockCount = 0) :
    locker.unlock.callbacks = locker.callbacks + 1 := by
  have last : locker.lockCount = 1 := by
    simp only [unlock] at drained
    omega
  rw [unlock, if_pos last]

end AsyncLocker

end Webservice
