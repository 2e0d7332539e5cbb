import Webservice.Handler.Step

/-!
# What a step of the service handler can do

Apart from the locks of the handler, the calls of `shutdown()` and the
exceptions reported, a step changes nothing, puts a job on the strand, runs a
job, or takes or releases a lock of a service.
-/

namespace Webservice

namespace WsServiceHandler

variable {movedFrom : String → String} {handler : WsServiceHandler}

/-- The services, the strand and the history, apart from the exceptions
reported, are the same. -/
structure SameBooks (before after : WsServiceHandler) : Prop where
  services : after.services = before.services
  strand : after.strand = before.strand
  shutdown : after.shutdown = before.shutdown
  history : { after.history with reported := [] } =
    { before.history with reported := [] }

theorem SameBooks.refl (handler : WsServiceHandler) :
    SameBooks handler handler :=
  ⟨rfl, rfl, rfl, rfl⟩

theorem SameBooks.trans {before middle after : WsServiceHandler}
    (first : SameBooks before middle) (second : SameBooks middle after) :
    SameBooks before after :=
  ⟨second.services.trans first.services, second.strand.trans first.strand,
    second.shutdown.trans first.shutdown, second.history.trans first.history⟩

/-- The job whose body the event runs. -/
def runs? (handler : WsServiceHandler) : HandlerEvent → Option HandlerJob
  | .run => handler.strand.head?
  | .call job inline =>
      if handler.hasImpl = true ∧ handler.base.locker.lockCount ≠ 0 ∧
          inline = true then
        some job
      else none
  | _ => none

/-- The service whose lock the event releases, with its name. -/
def releases? (handler : WsServiceHandler) :
    HandlerEvent → Option (String × Registered)
  | .release name _ =>
      (handler.services.find? name).map fun service => (name, service)
  | .serviceFinished name _ =>
      ((handler.services.find? name).filter fun service =>
        !service.base.runLock && service.base.shutdownLock).map
          fun service => (name, service)
  | _ => none

/-- A service that has the same number and callback and has been asked to
shut down as before. -/
structure Similar (before after : Registered) : Prop where
  number : after.number = before.number
  callback : after.callback = before.callback
  isShutdown : after.isShutdown = before.isShutdown
  shutdownLock : after.base.shutdownLock = true →
    before.base.shutdownLock = true

/-- A job is about to run: it was taken from the strand, or is called from
inside it. -/
structure Starts (before start : WsServiceHandler) (job : HandlerJob) :
    Prop where
  services : start.services = before.services
  shutdown : start.shutdown = before.shutdown
  history : { start.history with reported := [] } =
    { before.history with reported := [] }
  strand : before.strand = job :: start.strand ∨
    before.strand = start.strand ∧ job.isCall = true

/-- What a step does that runs the body of a job, or releases a lock of a
service, or neither. -/
inductive Transition (movedFrom : String → String)
    (before : WsServiceHandler) :
    Option HandlerJob → Option (String × Registered) →
      WsServiceHandler → Prop where
  | keeps {after : WsServiceHandler} :
      SameBooks before after → Transition movedFrom before none none after
  | pushes {after : WsServiceHandler} (job : HandlerJob) :
      job.iter? = none → SameBooks (before.push job) after →
      Transition movedFrom before none none after
  | performs {start after : WsServiceHandler} (job : HandlerJob) :
      Starts before start job → SameBooks (start.perform movedFrom job) after →
      Transition movedFrom before (some job) none after
  | acquires {name : String} {service changed : Registered} :
      before.services.find? name = some service → service.lockCount ≠ 0 →
      Similar service changed → changed.lockCount ≠ 0 →
      Transition movedFrom before none none { before with
        services := before.services.modify name fun _ => changed }
  | releases {name : String} {service changed : Registered} (inline : Bool) :
      before.services.find? name = some service →
      Similar service changed → changed.lockCount = service.lockCount - 1 →
      Transition movedFrom before none (some (name, service))
        (before.releaseLock movedFrom name service changed inline)

theorem iter?_of_isCall {job : HandlerJob} (isCall : job.isCall = true) :
    job.iter? = none := by
  cases job with
  | eraseEntry iter => exact absurd isCall.symm Bool.false_ne_true.symm
  | addService _ | eraseService _ | serverConnect _ | clientConnect _ _ _
  | onShutdown => rfl

theorem call_transition {job : HandlerJob} {inline : Bool}
    {next : WsServiceHandler} (isCall : job.isCall = true)
    (called : handler.call movedFrom job inline = some next) :
    Transition movedFrom handler (handler.runs? (.call job inline)) none
      next := by
  simp only [call] at called
  rw [runs?]
  split at called
  · next hasImpl =>
      cases called
      rw [dispatch]
      by_cases drained : handler.base.locker.lockCount = 0
      · rw [AsyncLocker.makeLock_of_zero drained, if_neg fun runs =>
          runs.2.1 drained]
        exact .keeps ⟨rfl, rfl, rfl, rfl⟩
      · rw [AsyncLocker.makeLock_of_pos (Nat.pos_of_ne_zero drained)]
        cases inline with
        | true =>
            have starts : Starts handler (handler.locked
                { handler.base.locker with
                  lockCount := handler.base.locker.lockCount + 1 }) job :=
              ⟨rfl, rfl, rfl, .inr ⟨rfl, isCall⟩⟩
            rw [if_pos ⟨hasImpl, drained, rfl⟩]
            exact .performs job starts ⟨rfl, rfl, rfl, rfl⟩
        | false =>
            rw [if_neg fun runs => Bool.false_ne_true runs.2.2]
            exact .pushes job (iter?_of_isCall isCall) ⟨rfl, rfl, rfl, rfl⟩
  · next noImpl =>
      rw [if_neg fun runs => noImpl runs.1]
      split at called
      · cases called
        exact .keeps ⟨rfl, rfl, rfl, rfl⟩
      · cases called
        exact .keeps ⟨rfl, rfl, rfl, rfl⟩
      · cases called

theorem onShutdown_books (handler : WsServiceHandler) :
    SameBooks handler handler.onShutdown ∨
      SameBooks (handler.push .onShutdown) handler.onShutdown := by
  rw [onShutdown]
  split
  · exact .inl ⟨rfl, rfl, rfl, rfl⟩
  · exact .inr ⟨rfl, rfl, rfl, rfl⟩

theorem shutdownStep_transition {index : Nat} {next : WsServiceHandler}
    (stepped : handler.shutdownStep index = some next) :
    Transition movedFrom handler none none next := by
  rw [shutdownStep] at stepped
  split at stepped
  · cases stepped
  · cases stepped
    exact .keeps ⟨rfl, rfl, rfl, rfl⟩
  · cases stepped
    exact .keeps ⟨rfl, rfl, rfl, rfl⟩
  · split at stepped
    · cases stepped
      exact .keeps ⟨rfl, rfl, rfl, rfl⟩
    · cases stepped
      exact .keeps ⟨rfl, rfl, rfl, rfl⟩
  · split at stepped
    · cases stepped
      rcases handler.onShutdown_books with same | same
      · exact .keeps (same.trans ⟨rfl, rfl, rfl, rfl⟩)
      · exact .pushes .onShutdown rfl (same.trans ⟨rfl, rfl, rfl, rfl⟩)
    · cases stepped

theorem acquire_transition {name : String} {next : WsServiceHandler}
    (acquired : handler.acquire name = some next) :
    Transition movedFrom handler none none next := by
  rw [acquire] at acquired
  split at acquired
  · cases acquired
  · next service found =>
      by_cases drained : service.base.locker.lockCount = 0
      · rw [AsyncLocker.makeLock_of_zero drained] at acquired
        cases acquired
        exact .keeps (.refl handler)
      · rw [AsyncLocker.makeLock_of_pos (Nat.pos_of_ne_zero drained)]
          at acquired
        cases acquired
        exact .acquires found drained ⟨rfl, rfl, rfl, id⟩ (Nat.succ_ne_zero _)

theorem release_transition {name : String} {inline : Bool}
    {next : WsServiceHandler}
    (released : handler.release movedFrom name inline = some next) :
    Transition movedFrom handler none
      (handler.releases? (.release name inline)) next := by
  rw [release] at released
  split at released
  · cases released
  · next service found =>
      rw [Option.ite_none_right_eq_some, Option.some.injEq] at released
      obtain ⟨-, rfl⟩ := released
      rw [releases?, found]
      exact .releases inline found ⟨rfl, rfl, rfl, id⟩ rfl

theorem serviceFinished_transition {name : String} {inline : Bool}
    {next : WsServiceHandler}
    (ends : handler.serviceFinished movedFrom name inline = some next) :
    Transition movedFrom handler none
      (handler.releases? (.serviceFinished name inline)) next := by
  rw [serviceFinished] at ends
  split at ends
  · cases ends
  · next service found =>
      rw [releases?, found, Option.filter_some]
      rw [WsHandlerInterface.shutdownFinished] at ends
      cases running : service.base.runLock with
      | true =>
          rw [running, if_pos rfl] at ends
          cases ends
          exact .keeps (.refl handler)
      | false =>
          rw [running, if_neg Bool.false_ne_true] at ends
          cases ending : service.base.shutdownLock with
          | false =>
              rw [ending, if_neg Bool.false_ne_true] at ends
              cases ends
              exact .keeps (.refl handler)
          | true =>
              rw [ending, if_pos rfl] at ends
              cases ends
              exact .releases inline found
                ⟨rfl, rfl, congrArg not running.symm, fun _ => ending⟩ rfl

theorem step_transition {event : HandlerEvent} {next : WsServiceHandler}
    (stepped : handler.step movedFrom event = some next) :
    Transition movedFrom handler (handler.runs? event)
      (handler.releases? event) next := by
  cases event with
  | setExecutor =>
      rw [step, Option.ite_none_left_eq_some, Option.some.injEq] at stepped
      obtain ⟨-, rfl⟩ := stepped
      exact .keeps ⟨rfl, rfl, rfl, rfl⟩
  | call job inline =>
      rw [step, Option.ite_none_right_eq_some] at stepped
      exact call_transition stepped.1.1 stepped.2
  | callShutdown =>
      rw [step] at stepped
      split at stepped
      · cases stepped
        exact .keeps (.refl handler)
      · cases stepped
        exact .keeps ⟨rfl, rfl, rfl, rfl⟩
  | shutdownStep index => exact shutdownStep_transition stepped
  | run =>
      simp only [step] at stepped
      split at stepped
      · next job jobs _ strand =>
          cases stepped
          have starts : Starts handler { handler with strand := jobs } job :=
            ⟨rfl, rfl, rfl, .inl strand⟩
          rw [runs?, strand, List.head?_cons]
          exact .performs job starts ⟨rfl, rfl, rfl, rfl⟩
      · cases stepped
  | finish =>
      simp only [step] at stepped
      split at stepped
      · cases stepped
      · cases stepped
        split
        · exact .keeps ⟨rfl, rfl, rfl, rfl⟩
        · exact .keeps ⟨rfl, rfl, rfl, rfl⟩
  | acquire name => exact acquire_transition stepped
  | release name inline =>
      rw [step, Option.ite_none_right_eq_some] at stepped
      exact release_transition stepped.2
  | serviceFinished name inline =>
      rw [step, Option.ite_none_right_eq_some] at stepped
      exact serviceFinished_transition stepped.2

end WsServiceHandler

end Webservice
