import Webservice.Service.State

/-!
# The protocol of a shutdown

What calls of `shutdown()`, the jobs of `on_shutdown` and the calls of
`shutdown_finished()` have in common.  When no two calls of `shutdown()`
overlap, the protocol goes through a few phases, and the service finishes to
shut down once.
-/

namespace Webservice

structure ShutdownProtocol where
  runLock : Bool
  shutdownLock : Bool
  shutdown : Bool
  callers : List ShutdownCall
  /-- Jobs of `on_shutdown` that are not done. -/
  jobs : Nat
  finishedWith : List Nat

namespace ShutdownProtocol

def shutdownFinished (protocol : ShutdownProtocol) : ShutdownProtocol :=
  { protocol with
    shutdownLock := protocol.runLock && protocol.shutdownLock
    finishedWith := protocol.finishedWith ++ [0] }

/-- One step, while no two calls overlap. -/
inductive Step (protocol : ShutdownProtocol) : ShutdownProtocol → Prop where
  | same : Step protocol protocol
  | called :
      protocol.callers = [] → protocol.shutdownLock = false →
      Step protocol { protocol with callers := [.exchanging] }
  | exchanged {index : Nat} :
      protocol.callers[index]? = some .exchanging →
      Step protocol { protocol with
        runLock := false
        callers := protocol.callers.set index (.storing protocol.runLock) }
  | stored {index : Nat} {locked : Bool} :
      protocol.callers[index]? = some (.storing locked) →
      Step protocol { protocol with
        shutdownLock := locked
        callers := protocol.callers.set index .testing }
  | locked {index : Nat} :
      protocol.callers[index]? = some .testing →
      protocol.shutdownLock = true →
      Step protocol { protocol with
        callers := protocol.callers.set index .deferring }
  | unlocked {index : Nat} :
      protocol.callers[index]? = some .testing →
      protocol.shutdownLock = false →
      Step protocol { protocol with
        callers := protocol.callers.eraseIdx index }
  | deferred {index : Nat} :
      protocol.callers[index]? = some .deferring →
      Step protocol { protocol with
        callers := protocol.callers.eraseIdx index
        jobs := protocol.jobs + 1 }
  /-- The job has asked the sessions to close. -/
  | asked {jobs : Nat} :
      protocol.jobs = jobs + 1 →
      Step protocol { protocol with jobs := jobs, shutdown := true }
  /-- The job has met no session. -/
  | foundEmpty {jobs : Nat} :
      protocol.jobs = jobs + 1 →
      Step protocol
        { protocol.shutdownFinished with jobs := jobs, shutdown := true }
  /-- The last session has gone. -/
  | finished :
      protocol.shutdown = true → protocol.finishedWith = [] →
      Step protocol protocol.shutdownFinished

/-- How far the shutdown has come. -/
inductive Phase where
  | running
  | entered
  | taken
  | stored
  | announced
  | deferred
  /-- The sessions are asked to close. -/
  | asked
  | finished
  /-- A late call of `shutdown()` finds no lock. -/
  | lateEntered
  | lateTaken
  | lateStored

def Phase.protocol : Phase → ShutdownProtocol
  | .running => ⟨true, false, false, [], 0, []⟩
  | .entered => ⟨true, false, false, [.exchanging], 0, []⟩
  | .taken => ⟨false, false, false, [.storing true], 0, []⟩
  | .stored => ⟨false, true, false, [.testing], 0, []⟩
  | .announced => ⟨false, true, false, [.deferring], 0, []⟩
  | .deferred => ⟨false, true, false, [], 1, []⟩
  | .asked => ⟨false, true, true, [], 0, []⟩
  | .finished => ⟨false, false, true, [], 0, [0]⟩
  | .lateEntered => ⟨false, false, true, [.exchanging], 0, [0]⟩
  | .lateTaken => ⟨false, false, true, [.storing false], 0, [0]⟩
  | .lateStored => ⟨false, false, true, [.testing], 0, [0]⟩

/-- The protocol is in one of its phases. -/
def Sound (protocol : ShutdownProtocol) : Prop :=
  ∃ phase : Phase, protocol = phase.protocol

/-- There is one call at a time. -/
theorem Phase.only {phase : Phase} {index : Nat} {caller : ShutdownCall}
    (found : phase.protocol.callers[index]? = some caller) :
    index = 0 ∧ phase.protocol.callers = [caller] := by
  cases index with
  | zero => cases phase <;> simp_all [Phase.protocol]
  | succ index => cases phase <;> simp [Phase.protocol] at found

theorem Sound.step {before after : ShutdownProtocol} (sound : before.Sound)
    (step : before.Step after) : after.Sound := by
  obtain ⟨phase, rfl⟩ := sound
  cases step with
  | same => exact ⟨phase, rfl⟩
  | called none_calls unlocked =>
      cases phase <;> simp [Phase.protocol] at none_calls unlocked
      · exact ⟨.entered, rfl⟩
      · exact ⟨.lateEntered, rfl⟩
  | exchanged caller =>
      obtain ⟨rfl, only⟩ := Phase.only caller
      cases phase <;> simp [Phase.protocol] at only
      · exact ⟨.taken, rfl⟩
      · exact ⟨.lateTaken, rfl⟩
  | stored caller =>
      obtain ⟨rfl, only⟩ := Phase.only caller
      cases phase <;> simp [Phase.protocol] at only
      · exact ⟨.stored, by simp [only, Phase.protocol]⟩
      · exact ⟨.lateStored, by simp [only, Phase.protocol]⟩
  | locked caller isLocked =>
      obtain ⟨rfl, only⟩ := Phase.only caller
      cases phase <;> simp [Phase.protocol] at only isLocked
      exact ⟨.announced, rfl⟩
  | unlocked caller isUnlocked =>
      obtain ⟨rfl, only⟩ := Phase.only caller
      cases phase <;> simp [Phase.protocol] at only isUnlocked
      exact ⟨.finished, rfl⟩
  | deferred caller =>
      obtain ⟨rfl, only⟩ := Phase.only caller
      cases phase <;> simp [Phase.protocol] at only
      exact ⟨.deferred, rfl⟩
  | asked isJob =>
      cases phase <;> simp [Phase.protocol] at isJob
      exact ⟨.asked, by simp [isJob, Phase.protocol]⟩
  | foundEmpty isJob =>
      cases phase <;> simp [Phase.protocol] at isJob
      exact ⟨.finished, by simp [isJob, Phase.protocol, shutdownFinished]⟩
  | finished isShutdown unfinished =>
      cases phase <;> simp [Phase.protocol] at isShutdown unfinished
      exact ⟨.finished, rfl⟩

/-- The service finishes to shut down at most once. -/
theorem Sound.finishes_once {protocol : ShutdownProtocol}
    (sound : protocol.Sound) :
    protocol.finishedWith = [] ∨ protocol.finishedWith = [0] := by
  obtain ⟨phase, rfl⟩ := sound
  cases phase <;> simp [Phase.protocol]

/-- A call that defers the job has stored the lock. -/
theorem Sound.locked_of_deferring {protocol : ShutdownProtocol}
    (sound : protocol.Sound) (deferring : .deferring ∈ protocol.callers) :
    protocol.shutdownLock = true := by
  obtain ⟨phase, rfl⟩ := sound
  cases phase <;> simp [Phase.protocol] at deferring ⊢

end ShutdownProtocol

end Webservice
