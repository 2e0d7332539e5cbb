import Webservice.Http.Pipelining

/-!
# The last response of an HTTP session

A response that announces the end of the connection stays at the front of
the queue after it was written, and so does one whose write has failed.  No
later response becomes the only one of the queue or the one behind a
response that was written: nothing is written any more.
-/

namespace Webservice

namespace HttpSession

/-- Every response passed to `async_write`, except for the last one, was
written in full and left the connection open. -/
structure Ending (session : HttpSession) : Prop where
  whole : session.history.started.dropLast <+: session.history.written
  goesOn : ∀ work ∈ session.history.started.dropLast, work.needEof = false
  idle : session.items.items = [] →
    ∀ work ∈ session.history.started, work.needEof = false
  closes : ∀ work ∈ session.history.written, work.needEof = true →
    session.closed = true

section

variable {session : HttpSession}

theorem Ending.congr {after : HttpSession} (ending : session.Ending)
    (same : SameQueue session after)
    (closed : session.closed = true → after.closed = true) :
    after.Ending := by
  obtain ⟨items, -, -, started, written, -, -, -⟩ := same
  constructor
  · rw [started, written]
    exact ending.whole
  · rw [started]
    exact ending.goesOn
  · rw [items, started]
    exact ending.idle
  · rw [written]
    exact fun work isWritten last => closed (ending.closes work isWritten last)

/-! ## Responses enter the queue -/

/-- A write is started when all responses before were written and left the
connection open. -/
theorem Ending.writeStarted (ending : session.Ending) {work : HttpResponse}
    (begun : session.history.started = session.history.written)
    (goingOn : ∀ work ∈ session.history.started, work.needEof = false)
    (front : session.items.items ≠ []) :
    (session.writeStarted work).Ending := by
  have before : (session.writeStarted work).history.started.dropLast =
      session.history.started :=
    List.dropLast_concat
  constructor
  · rw [before, begun]
    exact List.prefix_refl _
  · rw [before]
    exact goingOn
  · exact fun empty => absurd empty front
  · exact ending.closes

theorem Ending.pushed (ending : session.Ending) (work : HttpResponse) :
    (session.pushed work).Ending :=
  ⟨ending.whole, ending.goesOn,
    fun empty => absurd empty (session.pushBack_ne_nil work), ending.closes⟩

theorem Ending.answered (ending : session.Ending) (lined : session.Lined)
    (work : HttpResponse) : (session.answered work).Ending := by
  by_cases empty : session.items.items = []
  · rw [(answered_empty empty work).1]
    exact (ending.pushed work).writeStarted (lined.idle empty)
      (ending.idle empty) (session.pushBack_ne_nil work)
  · rw [answered_nonempty empty]
    exact ending.pushed work

theorem Ending.replied (ending : session.Ending) (lined : session.Lined)
    (work : HttpResponse) : (session.replied work).Ending := by
  rw [HttpSession.replied]
  split
  · exact ending.answered lined work
  · exact ending.pushed work

theorem Ending.answeredAll (ending : session.Ending) (lined : session.Lined)
    (works : List HttpResponse) : (session.answeredAll works).Ending := by
  induction works generalizing session with
  | nil => exact ending
  | cons work works induction =>
      exact induction (ending.answered lined work) (lined.answered work)

theorem resumed_closed (session : HttpSession) :
    session.resumed.closed = session.closed := by
  rw [resumed]
  split <;> rfl

theorem Ending.handled (ending : session.Ending) (lined : session.Lined)
    (handling : HandlerRun) : (session.handled handling).Ending := by
  have called : (session.called handling).Ending :=
    ⟨ending.whole, ending.goesOn, ending.idle, ending.closes⟩
  have calledLined : (session.called handling).Lined :=
    ⟨lined.queued, lined.begun, lined.single, lined.busy, lined.idle,
      lined.pops⟩
  have answered := called.answeredAll calledLined handling.replies
  exact ⟨answered.whole, answered.goesOn, answered.idle, answered.closes⟩

theorem Ending.afterHandling (ending : session.Ending)
    (lined : session.Lined) (handling : HandlerRun) :
    (session.afterHandling handling).Ending := by
  apply (ending.handled lined handling).congr
    (afterHandling_sameQueue session handling)
  intro closed
  rw [HttpSession.afterHandling]
  split
  · exact closed
  · split
    · rfl
    · exact (resumed_closed _).trans closed

/-! ## Writes complete -/

/-- The response that was written lets the session go on. -/
theorem Ending.advanced (ending : session.Ending)
    (advancing : session.Advancing)
    (goingOn : ∀ work ∈ session.history.started, work.needEof = false) :
    session.advanced.Ending := by
  have popped : session.popped.Ending :=
    ⟨ending.whole, ending.goesOn, fun _ => goingOn, ending.closes⟩
  rw [HttpSession.advanced]
  split
  · exact popped
  · next work works rest =>
      apply popped.writeStarted advancing.begun goingOn
      intro empty
      exact List.cons_ne_nil _ _ (rest.symm.trans empty)

theorem advanced_closed (session : HttpSession) :
    session.advanced.closed = session.closed := by
  rw [advanced]
  split <;> rfl

theorem afterWrite_closed (session : HttpSession) (close : Bool)
    (ec : Option ErrorCode) (closed : session.closed = true) :
    (session.afterWrite close ec).closed = true := by
  cases ec with
  | some ec =>
      cases ec with
      | operationAborted => exact closed
      | closed => rfl
      | other value => rfl
  | none =>
      have advanced : session.advanced.closed = true :=
        (advanced_closed session).trans closed
      rw [afterWrite]
      split
      · rfl
      · split
        · exact (resumed_closed _).trans advanced
        · exact advanced

/-- A write ends; whatever it wrote is let go on or closed afterwards. -/
theorem Ending.wrote (ending : session.Ending) {work : HttpResponse}
    {ec : Option ErrorCode} {after : HttpSession}
    (same : SameQueue (session.wrote work ec) after)
    (closed : session.closed = true → after.closed = true)
    (closes : ec = none → work.needEof = true → after.closed = true) :
    after.Ending := by
  obtain ⟨items, -, -, started, written, -, -, -⟩ := same
  constructor
  · rw [started, written]
    exact ending.whole.trans (List.prefix_append _ _)
  · rw [started]
    exact ending.goesOn
  · rw [items, started]
    exact ending.idle
  · intro other isWritten last
    rw [written] at isWritten
    rcases List.mem_append.mp isWritten with before | isThis
    · exact closed (ending.closes other before last)
    · obtain ⟨wrote, isThis⟩ := List.mem_ite_nil_right.mp isThis
      obtain rfl := List.mem_singleton.mp isThis
      exact closes wrote last

theorem Ending.afterWrite (ending : session.Ending) (lined : session.Lined)
    {work : HttpResponse} (writing : session.writing = [work])
    (ec : Option ErrorCode) :
    ((session.wrote work ec).afterWrite work.needEof ec).Ending := by
  have closed := (session.wrote work ec).afterWrite_closed work.needEof ec
  rcases (session.wrote work ec).afterWrite_queue work.needEof ec with
    same | ⟨rfl, stays, same⟩
  · apply ending.wrote same closed
    rintro rfl last
    rw [last]
    rfl
  · have wrote : (session.wrote work none).Ending := by
      apply ending.wrote (.refl _) id
      intro _ last
      exact absurd (stays.symm.trans last) Bool.false_ne_true
    have goingOn : ∀ work ∈ session.history.started, work.needEof = false := by
      have some_write : session.writing ≠ [] :=
        writing ▸ List.cons_ne_nil _ _
      obtain ⟨-, started⟩ := lined.busy some_write
      have goesOn := ending.goesOn
      rw [started, writing, List.dropLast_concat] at goesOn
      rw [started, writing]
      intro other isStarted
      rcases List.mem_append.mp isStarted with before | isThis
      · exact goesOn other before
      · rw [List.mem_singleton.mp isThis]
        exact stays
    apply (wrote.advanced (lined.wrote_none writing) goingOn).congr same
    exact fun isClosed => closed ((advanced_closed _).symm.trans isClosed)

/-! ## Runs -/

variable {server : HttpServer}

theorem Ending.step {event : HttpEvent} {next : HttpSession}
    (ending : session.Ending) (lined : session.Lined)
    (counted : session.Counted 0)
    (stepped : session.step server event = some next) : next.Ending := by
  cases event with
  | requestRead wire handling connecting =>
      obtain ⟨-, rfl⟩ := step_requestRead counted stepped
      apply Ending.congr _ (unlocked_sameQueue _) id
      have alike : SameQueue session (session.received wire) :=
        ⟨rfl, rfl, rfl, rfl, rfl, rfl, rfl, rfl⟩
      have received : (session.received wire).Ending :=
        ending.congr alike id
      rw [afterRequest]
      split
      · apply received.congr (afterConnect_sameQueue _ _)
        intro closed
        rw [afterConnect]
        split
        · exact closed
        · rfl
      · exact received.afterHandling (lined.congr alike) handling
  | readFailed error =>
      obtain ⟨-, rfl⟩ := step_readFailed stepped
      have failed : Ending { session with reads := session.reads - 1 } :=
        ending.congr ⟨rfl, rfl, rfl, rfl, rfl, rfl, rfl, rfl⟩ id
      apply Ending.congr _ (unlocked_sameQueue _) id
      apply failed.congr (afterReadFailed_sameQueue _ _)
      intro closed
      cases error with
      | endOfStream => rfl
      | code ec =>
          cases ec with
          | operationAborted => exact closed
          | closed => rfl
          | other value => rfl
  | writeDone ec =>
      obtain ⟨work, works, writing, rfl⟩ := step_writeDone counted stepped
      have alone : session.writing = [work] := lined.writing_eq writing
      exact (ending.afterWrite lined alone ec).congr
        (unlocked_sameQueue _) id
  | timerExpired =>
      obtain ⟨timer, -, rfl⟩ := step_timerExpired stepped
      exact ending.congr ⟨rfl, rfl, rfl, rfl, rfl, rfl, rfl, rfl⟩ id
  | timerDone ec =>
      obtain ⟨timer, -, rfl⟩ := step_timerDone stepped
      have taken : Ending { session with timer := timer } :=
        ending.congr ⟨rfl, rfl, rfl, rfl, rfl, rfl, rfl, rfl⟩ id
      apply Ending.congr _ (unlocked_sameQueue _) id
      apply taken.congr (afterTimer_sameQueue _ _)
      intro closed
      cases ec with
      | none => rfl
      | some ec =>
          cases ec with
          | operationAborted => exact closed
          | closed => rfl
          | other value => rfl
  | doClose =>
      rw [step_doClose stepped]
      exact ending.congr ⟨rfl, rfl, rfl, rfl, rfl, rfl, rfl, rfl⟩
        fun _ => rfl
  | lateReply work =>
      obtain ⟨-, rfl⟩ := step_lateReply stepped
      exact ending.replied lined work

theorem started_ending : started.Ending := by
  constructor <;> decide

/-- As long as no push to the full ring drops a response, those that a
session passes to `async_write` come in the order in which they were sent, and
all but the last have been written in full, with the connection going on after
them.  After one that ends the connection, or whose write fails, nothing is
written: not what the handler sends for requests that were pipelined, not what
it sends late, and not what is left in the queue. -/
theorem ending_of_reachable
    (reached : (httpMachine server).Reachable session)
    (none_lost : session.history.overwritten = []) :
    session.history.started <+: session.history.responses ∧
      session.Ending := by
  refine ⟨(reachable_kept reached).begins none_lost, ?_⟩
  exact reachable_invariant Ending started_ending
    (fun _ _ _ earlier ending _ stepped =>
      ending.step (reachable_lined earlier) (reachable_counted earlier)
        stepped)
    reached

/-- The handler ends the connection with its response, while the next request
has been read already; a third response is sent late. -/
def lastPipelined : List HttpEvent :=
  [.requestRead ⟨"GET", "/", 10, [], []⟩ ⟨[⟨[1], true⟩], none, false⟩
      ⟨false, none, false⟩,
    .requestRead ⟨"GET", "/", 11, [], []⟩ ⟨[⟨[2], false⟩], none, false⟩
      ⟨false, none, false⟩,
    .writeDone none, .lateReply ⟨[3], false⟩]

theorem ending_last_pipelined :
    ∃ session, (httpMachine plainServer).run started lastPipelined =
        some session ∧
      session.history.responses =
        [⟨[1], true⟩, ⟨[2], false⟩, ⟨[3], false⟩] ∧
      session.history.started = [⟨[1], true⟩] ∧
      session.history.started <+: session.history.responses ∧
      session.Ending := by
  have ran : (httpMachine plainServer).run started lastPipelined =
    some _ := rfl
  exact ⟨_, ran, rfl, rfl,
    ending_of_reachable (Machine.reachable_of_run rfl ran) rfl⟩

end

end HttpSession

end Webservice
