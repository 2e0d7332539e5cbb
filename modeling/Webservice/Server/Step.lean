import Webservice.Executor.Step
import Webservice.Http.Erasing

/-!
# `server_impl`

What the threads of a server run: the accept loop, the set of its HTTP
sessions and their handlers, and the WebSocket service, if there is one.  The
server has no work guard; an outstanding accept keeps its `io_context`
running.
-/

namespace Webservice

namespace Listener

/-- Connections come from the accept loop only, and a session is closed by
the job of `shutdown`. -/
def arises : ListenerEvent → Bool
  | .http .emplace => false
  | .http (.session _ .doClose) => false
  | _ => true

/-- The step is the handler of an operation or of a job. -/
def isHandler : ListenerEvent → Bool
  | .acceptDone _ => true
  | .http (.run _) => true
  | .http (.session _ .timerExpired) => false
  | .http (.session _ (.lateReply _)) => false
  | .http (.session _ _) => true
  | .http .emplace => true
  | .http .shutdown => false
  | .shutdown => false

/-- An operation is outstanding or a job waits. -/
def busy (listener : Listener) : Bool :=
  decide (0 < listener.accepts) || !listener.http.strand.isEmpty ||
    listener.http.set.entries.any fun entry => decide (0 < entry.2.holders)

/-- Exceptions that have left the handlers of the session. -/
def escaped (listener : Listener) : ListenerEvent → List Exception
  | .http (.session number _) =>
      ((listener.http.set.find? number).map fun session =>
        session.history.escaped).getD []
  | _ => listener.http.history.escaped

def stepArising (server : HttpServer) (listener : Listener)
    (event : ListenerEvent) : Option Listener :=
  if arises event then listener.step server event else none

/-- The exception that leaves the handler. -/
def thrown? (server : HttpServer) (listener : Listener)
    (event : ListenerEvent) : Option Exception :=
  (listener.stepArising server event).bind fun next =>
    ((next.escaped event).drop (listener.escaped event).length).head?

section

variable {listener next : Listener} {server : HttpServer}

theorem busy_iff :
    listener.busy = true ↔ 0 < listener.accepts ∨
      listener.http.strand ≠ [] ∨ ∃ number session,
        listener.http.set.find? number = some session ∧
          0 < session.holders := by
  simp only [busy, Bool.or_eq_true, decide_eq_true_eq, Bool.not_eq_true',
    List.isEmpty_eq_false_iff, List.any_eq_true, or_assoc, Prod.exists,
    OrderedMap.find?_eq_some]

theorem stepArising_eq_some {event : ListenerEvent}
    (stepped : listener.stepArising server event = some next) :
    arises event = true ∧ listener.step server event = some next :=
  Option.ite_none_right_eq_some.mp stepped

/-- What happens to a session from outside takes none of its handlers
away. -/
theorem outside_holders {session after : HttpSession} {number : Nat}
    {event : HttpEvent}
    (notHandler : isHandler (.http (.session number event)) = false)
    (stepped : session.step server event = some after) :
    session.holders ≤ after.holders ∧
      after.locker.callbacks = session.locker.callbacks := by
  cases event with
  | timerExpired =>
      obtain ⟨timer, expires, rfl⟩ := HttpSession.step_timerExpired stepped
      obtain ⟨-, handlers⟩ := WaitableTimer.expire?_eq_some expires
      exact ⟨by simp only [HttpSession.holders, handlers, Nat.le_refl], rfl⟩
  | lateReply work =>
      obtain ⟨-, rfl⟩ := HttpSession.step_lateReply stepped
      refine ⟨?_, ?_⟩
      · rw [HttpSession.replied, HttpSession.answered]
        split
        · split
          · simp only [HttpSession.holders, HttpSession.writeStarted,
              HttpSession.locked, HttpSession.pushed, List.length_append]
            omega
          · exact Nat.le_refl _
        · exact Nat.le_refl _
      · rw [← HttpSession.reply_after]
        exact HttpSession.reply_sameCallbacks work session
  | _ => cases notHandler

theorem outside_http {number : Nat} {event : HttpEvent} {http : HttpSessions}
    (notHandler : isHandler (.http (.session number event)) = false)
    (stepped : listener.http.sessionStep server number event = some http) :
    ∃ session after, listener.http.set.find? number = some session ∧
      session.step server event = some after ∧
      http = { listener.http with
        set := listener.http.set.modify number fun _ => after } := by
  obtain ⟨session, isSession, changes⟩ := Option.bind_eq_some_iff.mp stepped
  obtain ⟨after, sessionStepped, isNext⟩ := Option.map_eq_some_iff.mp changes
  obtain ⟨-, callbacks⟩ := outside_holders notHandler sessionStepped
  refine ⟨session, after, isSession, sessionStepped, ?_⟩
  rw [← isNext]
  apply if_neg
  rw [callbacks]
  exact Nat.lt_irrefl _

theorem stays_busy {event : ListenerEvent}
    (notHandler : isHandler event = false)
    (stepped : listener.stepArising server event = some next)
    (isBusy : listener.busy = true) : next.busy = true := by
  obtain ⟨-, stepped⟩ := stepArising_eq_some stepped
  rw [busy_iff] at isBusy ⊢
  cases event with
  | acceptDone ec => cases notHandler
  | shutdown =>
      cases stepped
      exact isBusy
  | http event =>
      obtain ⟨http, httpStepped, rfl⟩ := Option.map_eq_some_iff.mp stepped
      cases event with
      | emplace => cases notHandler
      | run fault => cases notHandler
      | shutdown =>
          cases httpStepped
          dsimp only
          rw [HttpSessions.shutdown]
          split
          · rw [HttpSessions.dispatch]
            split
            · exact .inr (.inl
                (List.append_ne_nil_of_right_ne_nil _ (by simp)))
            · exact isBusy
          · exact isBusy
      | session number event =>
          obtain ⟨session, after, isSession, sessionStepped, rfl⟩ :=
            outside_http notHandler httpStepped
          refine isBusy.imp_right (Or.imp_right ?_)
          rintro ⟨other, item, isItem, some_handler⟩
          refine ⟨other, ?_⟩
          dsimp only
          rw [OrderedMap.find?_modify]
          by_cases same : other = number
          · subst same
            cases isSession.symm.trans isItem
            rw [if_pos rfl, isSession]
            exact ⟨after, rfl, Nat.lt_of_lt_of_le some_handler
              (outside_holders notHandler sessionStepped).1⟩
          · rw [if_neg same]
            exact ⟨item, isItem, some_handler⟩

end

/-- The listener and the HTTP sessions on the threads of the executor. -/
def hosted (server : HttpServer) :
    Hosted Listener ListenerEvent Exception where
  initial listener := listener = .constructed
  step := stepArising server
  isHandler := isHandler
  busy := busy
  thrown? := thrown? server
  staysBusy := stays_busy

end Listener

section

variable {Service Event : Type}

/-- A server whose WebSocket handler is `ws`. -/
def serverHosted (server : HttpServer) (ws : Hosted Service Event Exception) :
    Hosted (Listener × Service) (ListenerEvent ⊕ Event) Exception :=
  (Listener.hosted server).prod ws

/-- `listener_.shutdown(); http().shutdown(); if(has_ws()){ ws().shutdown(); }`,
where `wsShutdown` are the steps of the last. -/
def serverShutdownFn (wsShutdown : List Event) :
    List (ShutdownAction (ListenerEvent ⊕ Event)) :=
  [.call (.inl .shutdown), .call (.inl (.http .shutdown))] ++
    wsShutdown.map fun event => .call (.inr event)

def serverMachine (server : HttpServer) (ws : Hosted Service Event Exception)
    (wsShutdown : List Event) (threadCount : Nat) :
    Machine (Executor (Listener × Service) (ListenerEvent ⊕ Event))
      (ExecutorEvent (ListenerEvent ⊕ Event)) :=
  executorMachine (serverHosted server ws) (serverShutdownFn wsShutdown) 0
    threadCount

end

end Webservice
