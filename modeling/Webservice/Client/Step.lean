import Webservice.Executor.Step
import Webservice.Service.Step

/-!
# `client_impl`

What the threads of a client run: the jobs of its WebSocket service and the
handlers of its sessions.  A work guard keeps the `io_context` running until
`shutdown_fn_` resets it.
-/

namespace Webservice

/-- The step is the handler of an operation or of a job, or the call of a
handler that runs the job inside itself. -/
def ServiceEvent.isHandler {Value : Type} : ServiceEvent Value → Bool
  | .call _ inline => inline
  | .callShutdown => false
  | .shutdownStep _ => false
  | .session _ .timerExpired _ => false
  | .session _ .streamEnds _ => false
  | .session _ (.writeBlock _) _ => false
  | _ => true

namespace WsService

variable {Value : Type}

/-- A job waits or runs, or an operation of a session is outstanding. -/
def busy (service : WsService Value) : Bool :=
  !service.queue.isEmpty || !service.stack.isEmpty ||
    service.map.entries.any fun entry => decide (0 < entry.2.session.holders)

/-- Exceptions that have left the handlers of the session. -/
def escaped (service : WsService Value) (address : Nat) : List Exception :=
  ((service.map.find? address).map fun node =>
    node.session.history.escaped).getD []

/-- The exception that leaves the handler. -/
def thrown? (service : WsService Value) : ServiceEvent Value → Option Exception
  | .session address event inline =>
      (service.step (.session address event inline)).bind fun next =>
        ((next.escaped address).drop (service.escaped address).length).head?
  | _ => none

section

variable {service next : WsService Value}

theorem busy_iff :
    service.busy = true ↔ service.queue ≠ [] ∨ service.stack ≠ [] ∨
      ∃ address node, service.map.find? address = some node ∧
        0 < node.session.holders := by
  simp only [busy, Bool.or_eq_true, Bool.not_eq_true',
    List.isEmpty_eq_false_iff, List.any_eq_true, decide_eq_true_eq, or_assoc,
    Prod.exists, OrderedMap.find?_eq_some]

/-- What happens to a session from outside leaves its handlers alone. -/
theorem outside_holders {session after : WsSession} {event : SessionEvent}
    {address : Nat} {inline : Bool}
    (notHandler : ServiceEvent.isHandler
      (.session address event inline : ServiceEvent Value) = false)
    (stepped : session.step event = some after) :
    after.holders = session.holders ∧ after.locker = session.locker := by
  cases event with
  | timerExpired =>
      obtain ⟨timer, expires, rfl⟩ := WsSession.step_timerExpired stepped
      obtain ⟨-, handlers⟩ := WaitableTimer.expire?_eq_some expires
      exact ⟨by simp only [WsSession.holders, handlers], rfl⟩
  | streamEnds =>
      obtain ⟨ws, ends, rfl⟩ := WsSession.step_streamEnds stepped
      obtain ⟨-, isNext⟩ := Option.ite_none_right_eq_some.mp ends
      cases isNext
      exact ⟨rfl, rfl⟩
  | writeBlock blocked =>
      cases stepped
      exact ⟨rfl, rfl⟩
  | _ => cases notHandler

/-- Such a step calls no callback. -/
theorem stepSession_outside {address : Nat} {event : SessionEvent}
    {inline : Bool}
    (notHandler : ServiceEvent.isHandler
      (.session address event inline : ServiceEvent Value) = false)
    (stepped : service.stepSession address event inline = some next) :
    ∃ node after, service.map.find? address = some node ∧
      node.session.step event = some after ∧
      next = service.setSession address after := by
  unfold stepSession at stepped
  split at stepped
  · cases stepped
  · rename_i node found
    obtain ⟨after, sessionStepped, rfl⟩ := Option.map_eq_some_iff.mp stepped
    obtain ⟨-, locker⟩ := outside_holders notHandler sessionStepped
    refine ⟨node, after, found, sessionStepped, if_neg ?_⟩
    rw [locker]
    exact Nat.lt_irrefl _

theorem put_busy (locker : AsyncLocker) (job : ServiceJob Value)
    (inline : Bool) : (service.put locker job inline).busy = true := by
  rw [busy_iff]
  cases inline with
  | false => exact .inl (List.append_ne_nil_of_right_ne_nil _ (by simp))
  | true => exact .inr (.inl (List.cons_ne_nil _ _))

theorem putNoexcept_busy (job : ServiceJob Value) (inline : Bool)
    (isBusy : service.busy = true) :
    (service.putNoexcept job inline).busy = true := by
  unfold putNoexcept
  split
  · exact put_busy _ _ _
  · exact isBusy

theorem stays_busy {event : ServiceEvent Value}
    (notHandler : event.isHandler = false)
    (stepped : service.step event = some next)
    (isBusy : service.busy = true) : next.busy = true := by
  unfold step at stepped
  split at stepped
  · cases stepped
  cases event with
  | call job inline =>
      simp only at stepped
      split at stepped
      · split at stepped
        · cases stepped
          exact put_busy _ _ _
        · cases stepped
          exact isBusy
      · cases stepped
  | callShutdown =>
      simp only at stepped
      split at stepped <;>
      · cases stepped
        exact isBusy
  | shutdownStep index =>
      simp only [shutdownStep] at stepped
      split at stepped
      · cases stepped
      · cases stepped
        exact isBusy
      · cases stepped
        exact isBusy
      · split at stepped <;>
        · cases stepped
          exact isBusy
      · cases stepped
        exact putNoexcept_busy .onShutdown false isBusy
  | session address sessionEvent inline =>
      obtain ⟨-, stepped⟩ := Option.ite_none_right_eq_some.mp stepped
      obtain ⟨node, after, found, sessionStepped, rfl⟩ :=
        stepSession_outside notHandler stepped
      rw [busy_iff] at isBusy ⊢
      refine isBusy.imp_right (Or.imp_right ?_)
      rintro ⟨other, item, isItem, some_handler⟩
      refine ⟨other, ?_⟩
      show ∃ item, OrderedMap.find? (service.map.modify _ _) other =
        some item ∧ _
      rw [OrderedMap.find?_modify]
      by_cases same : other = address
      · subst same
        cases found.symm.trans isItem
        rw [if_pos rfl, found]
        exact ⟨_, rfl, (outside_holders notHandler sessionStepped).1.symm ▸
          some_handler⟩
      · rw [if_neg same]
        exact ⟨item, isItem, some_handler⟩
  | _ => cases notHandler

end

/-- The service and its sessions on the threads of the executor. -/
def hosted (Value : Type) :
    Hosted (WsService Value) (ServiceEvent Value) Exception where
  initial service := service = .constructed
  step := step
  isHandler := ServiceEvent.isHandler
  busy := busy
  thrown? := thrown?
  staysBusy := stays_busy

end WsService

section

variable {Value : Type}

/-- `ws().shutdown(); work_.reset();` -/
def clientShutdownFn : List (ShutdownAction (ServiceEvent Value)) :=
  [.call .callShutdown, .call (.shutdownStep 0), .call (.shutdownStep 0),
    .call (.shutdownStep 0), .call (.shutdownStep 0), .resetWork]

def clientMachine (Value : Type) (threadCount : Nat) :
    Machine (Executor (WsService Value) (ServiceEvent Value))
      (ExecutorEvent (ServiceEvent Value)) :=
  executorMachine (WsService.hosted Value) clientShutdownFn 1 threadCount

end

end Webservice
