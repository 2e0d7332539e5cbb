import Webservice.Http.Timeout

/-!
# The queue of responses of an HTTP session

A write is started for the only response of the queue or for the one behind
a response that was written.  What was handed to the session is therefore
what was started followed by the rest of the queue, unless a push to the
full ring dropped something.
-/

namespace Webservice

namespace HttpSession

/-- What holds of the queue with any request handler. -/
structure Lined (session : HttpSession) : Prop where
  queued : (session.history.started ++ session.items.items.tail).Sublist
    session.history.responses
  begun : session.history.written ++ session.writing <+:
    session.history.started
  single : session.writing.length ≤ 1
  busy : session.writing ≠ [] → session.items.items ≠ [] ∧
    session.history.started = session.history.written ++ session.writing
  idle : session.items.items = [] →
    session.history.started = session.history.written
  pops : session.history.emptyPops = 0

/-- The queue and its history are the same. -/
structure SameQueue (before after : HttpSession) : Prop where
  items : after.items = before.items
  writing : after.writing = before.writing
  responses : after.history.responses = before.history.responses
  started : after.history.started = before.history.started
  written : after.history.written = before.history.written
  overwritten : after.history.overwritten = before.history.overwritten
  emptyPops : after.history.emptyPops = before.history.emptyPops
  handled : after.history.handled = before.history.handled

section

variable {session : HttpSession}

theorem SameQueue.refl (session : HttpSession) :
    SameQueue session session :=
  ⟨rfl, rfl, rfl, rfl, rfl, rfl, rfl, rfl⟩

theorem SameQueue.trans {before middle after : HttpSession}
    (first : SameQueue before middle) (second : SameQueue middle after) :
    SameQueue before after :=
  ⟨second.items.trans first.items, second.writing.trans first.writing,
    second.responses.trans first.responses,
    second.started.trans first.started, second.written.trans first.written,
    second.overwritten.trans first.overwritten,
    second.emptyPops.trans first.emptyPops,
    second.handled.trans first.handled⟩

theorem resumed_sameQueue (session : HttpSession) :
    SameQueue session session.resumed := by
  rw [resumed]
  split
  · exact ⟨rfl, rfl, rfl, rfl, rfl, rfl, rfl, rfl⟩
  · exact .refl session

theorem afterReadFailed_sameQueue (session : HttpSession)
    (error : ReadError) :
    SameQueue session (session.afterReadFailed error) := by
  cases error with
  | endOfStream => exact ⟨rfl, rfl, rfl, rfl, rfl, rfl, rfl, rfl⟩
  | code ec => cases ec <;> exact ⟨rfl, rfl, rfl, rfl, rfl, rfl, rfl, rfl⟩

theorem afterTimer_sameQueue (session : HttpSession)
    (ec : Option ErrorCode) : SameQueue session (session.afterTimer ec) := by
  cases ec with
  | none => exact ⟨rfl, rfl, rfl, rfl, rfl, rfl, rfl, rfl⟩
  | some ec => cases ec <;> exact ⟨rfl, rfl, rfl, rfl, rfl, rfl, rfl, rfl⟩

theorem afterConnect_sameQueue (session : HttpSession)
    (connecting : ConnectRun) :
    SameQueue session (session.afterConnect connecting) := by
  rw [afterConnect]
  split <;> exact ⟨rfl, rfl, rfl, rfl, rfl, rfl, rfl, rfl⟩

/-- After the request handler only reading and closing are left. -/
theorem afterHandling_sameQueue (session : HttpSession)
    (handling : HandlerRun) :
    SameQueue (session.handled handling)
      (session.afterHandling handling) := by
  rw [afterHandling]
  split
  · exact ⟨rfl, rfl, rfl, rfl, rfl, rfl, rfl, rfl⟩
  · split
    · exact ⟨rfl, rfl, rfl, rfl, rfl, rfl, rfl, rfl⟩
    · exact resumed_sameQueue _

/-- After a write the queue is left alone or has advanced. -/
theorem afterWrite_queue (session : HttpSession) (close : Bool)
    (ec : Option ErrorCode) :
    SameQueue session (session.afterWrite close ec) ∨
      (ec = none ∧ close = false ∧
        SameQueue session.advanced (session.afterWrite close ec)) := by
  cases ec with
  | some ec =>
      left
      cases ec <;> exact ⟨rfl, rfl, rfl, rfl, rfl, rfl, rfl, rfl⟩
  | none =>
      cases close with
      | true => exact .inl ⟨rfl, rfl, rfl, rfl, rfl, rfl, rfl, rfl⟩
      | false =>
          right
          refine ⟨rfl, rfl, ?_⟩
          simp only [afterWrite, Bool.false_eq_true, if_false]
          split
          · exact resumed_sameQueue _
          · exact .refl _

theorem Lined.congr {after : HttpSession} (lined : session.Lined)
    (same : SameQueue session after) : after.Lined := by
  obtain ⟨items, writing, responses, started, written, -, emptyPops, -⟩ := same
  constructor
  · rw [started, items, responses]
    exact lined.queued
  · rw [written, writing, started]
    exact lined.begun
  · rw [writing]
    exact lined.single
  · rw [writing, items, started, written]
    exact lined.busy
  · rw [items, started, written]
    exact lined.idle
  · rw [emptyPops]
    exact lined.pops

/-! ## Responses enter the queue -/

theorem answered_empty (empty : session.items.items = [])
    (work : HttpResponse) :
    session.answered work = (session.pushed work).writeStarted work ∧
      (session.answered work).items.items = [work] := by
  have room : session.items.isFull = false := by
    simp [RingBuffer.isFull, empty]
  have queue : (session.items.pushBack work).items = [work] := by
    rw [RingBuffer.pushBack_items room, empty, List.nil_append]
  rw [answered, if_pos empty]
  exact ⟨rfl, queue⟩

theorem answered_nonempty (some_item : session.items.items ≠ [])
    (work : HttpResponse) : session.answered work = session.pushed work := by
  rw [answered, if_neg some_item]

theorem pushBack_ne_nil (session : HttpSession) (work : HttpResponse) :
    (session.items.pushBack work).items ≠ [] := by
  apply List.ne_nil_of_length_pos
  rw [RingBuffer.pushBack_length]
  omega

/-- A response is put into the queue, and nothing is started. -/
theorem Lined.pushed (lined : session.Lined) (work : HttpResponse) :
    (session.pushed work).Lined := by
  have nonempty := session.pushBack_ne_nil work
  have behind : (session.items.pushBack work).items.tail.Sublist
      (session.items.items.tail ++ [work]) := by
    by_cases empty : session.items.items = []
    · have queue : (session.items.pushBack work).items = [work] := by
        rw [RingBuffer.pushBack_items (by simp [RingBuffer.isFull, empty]),
          empty, List.nil_append]
      rw [queue]
      exact List.nil_sublist _
    · exact RingBuffer.pushBack_tail_sublist empty work
  constructor
  · exact (behind.append_left session.history.started).trans
      (List.append_assoc .. ▸ lined.queued.append_right [work])
  · exact lined.begun
  · exact lined.single
  · exact fun writing => ⟨nonempty, (lined.busy writing).2⟩
  · exact fun nothing => absurd nothing nonempty
  · exact lined.pops

theorem Lined.answered (lined : session.Lined) (work : HttpResponse) :
    (session.answered work).Lined := by
  by_cases empty : session.items.items = []
  · obtain ⟨result, items⟩ := answered_empty empty work
    have noWrite : session.writing = [] := by
      by_contra writing
      exact (lined.busy writing).1 empty
    have started := lined.idle empty
    have queued := lined.queued
    rw [empty, List.tail_nil, List.append_nil] at queued
    have exactly : session.history.started ++ [work] =
        session.history.written ++ (session.writing ++ [work]) := by
      rw [started, noWrite, List.nil_append]
    constructor
    · rw [items, result]
      exact (List.append_nil _).symm ▸ queued.append_right [work]
    · rw [result]
      exact exactly ▸ List.prefix_refl _
    · rw [result]
      exact Nat.le_of_eq (by
        rw [writeStarted, HttpSession.pushed, noWrite]
        rfl)
    · intro _
      rw [items, result]
      exact ⟨List.cons_ne_nil _ _, exactly⟩
    · intro nothing
      exact absurd (items.symm.trans nothing) (List.cons_ne_nil _ _)
    · rw [result]
      exact lined.pops
  · rw [answered_nonempty empty]
    exact lined.pushed work

theorem Lined.replied (lined : session.Lined) (work : HttpResponse) :
    (session.replied work).Lined := by
  rw [HttpSession.replied]
  split
  · exact lined.answered work
  · exact lined.pushed work

theorem Lined.answeredAll (lined : session.Lined)
    (works : List HttpResponse) : (session.answeredAll works).Lined := by
  induction works generalizing session with
  | nil => exact lined
  | cons work works induction => exact induction (lined.answered work)

theorem Lined.handled (lined : session.Lined) (handling : HandlerRun) :
    (session.handled handling).Lined := by
  have called : (session.called handling).Lined :=
    ⟨lined.queued, lined.begun, lined.single, lined.busy, lined.idle,
      lined.pops⟩
  have answered := called.answeredAll handling.replies
  exact ⟨answered.queued, answered.begun, answered.single, answered.busy,
    answered.idle, answered.pops⟩

/-! ## Writes complete -/

/-- The front of the queue has been written. -/
structure Advancing (session : HttpSession) : Prop where
  queued : (session.history.started ++ session.items.items.tail).Sublist
    session.history.responses
  begun : session.history.started = session.history.written
  idle : session.writing = []
  front : session.items.items ≠ []
  pops : session.history.emptyPops = 0

theorem Advancing.lined (advancing : session.Advancing) : session.Lined := by
  constructor
  · exact advancing.queued
  · simp only [advancing.idle, advancing.begun, List.append_nil,
      List.prefix_refl]
  · simp only [advancing.idle, List.length_nil, Nat.zero_le]
  · exact fun writing => absurd advancing.idle writing
  · exact fun empty => absurd empty advancing.front
  · exact advancing.pops

theorem Advancing.advanced (advancing : session.Advancing) :
    session.advanced.Lined := by
  have pops : session.popped.history.emptyPops = 0 := by
    have notEmpty : session.items.isEmpty = false := by
      rw [← Bool.not_eq_true, RingBuffer.isEmpty_iff]
      exact advancing.front
    rw [popped, notEmpty]
    exact advancing.pops
  have begun := advancing.begun
  have queued := advancing.queued
  rw [HttpSession.advanced]
  split
  · next nothing =>
      have empty : session.popped.items.items = [] := nothing
      rw [nothing] at queued
      constructor
      · rw [empty]
        exact queued
      · exact advancing.lined.begun
      · exact advancing.lined.single
      · exact fun writing => absurd advancing.idle writing
      · exact fun _ => begun
      · exact pops
  · next work works rest =>
      have items : session.popped.items.items = work :: works := rest
      have exactly : session.history.started ++ [work] =
          session.history.written ++ (session.writing ++ [work]) := by
        rw [begun, advancing.idle, List.nil_append]
      rw [rest, List.append_cons] at queued
      constructor
      · exact items.symm ▸ queued
      · exact exactly ▸ List.prefix_refl _
      · exact Nat.le_of_eq (by
          rw [writeStarted, popped, advancing.idle]
          rfl)
      · exact fun _ => ⟨items.symm ▸ List.cons_ne_nil _ _, exactly⟩
      · exact fun empty => absurd (items.symm.trans empty)
          (List.cons_ne_nil _ _)
      · exact pops

theorem Lined.writing_eq (lined : session.Lined) {work : HttpResponse}
    {works : List HttpResponse} (writing : session.writing = work :: works) :
    session.writing = [work] := by
  have single := lined.single
  rw [writing, List.length_cons] at single
  have none_left := List.eq_nil_of_length_eq_zero
    (Nat.le_zero.mp (Nat.le_of_succ_le_succ single))
  rw [writing, none_left]

/-- A write that completed without an error lets the queue advance. -/
theorem Lined.wrote_none (lined : session.Lined) {work : HttpResponse}
    (writing : session.writing = [work]) :
    (session.wrote work none).Advancing := by
  have some_write : session.writing ≠ [] := writing ▸ List.cons_ne_nil _ _
  obtain ⟨front, started⟩ := lined.busy some_write
  rw [writing] at started
  refine ⟨lined.queued, started, ?_, front, lined.pops⟩
  rw [wrote, writing]
  rfl

/-- After an error the queue is stuck. -/
theorem Lined.wrote_some (lined : session.Lined) {work : HttpResponse}
    (writing : session.writing = [work]) (ec : ErrorCode) :
    (session.wrote work (some ec)).Lined := by
  have some_write : session.writing ≠ [] := writing ▸ List.cons_ne_nil _ _
  obtain ⟨front, -⟩ := lined.busy some_write
  have noWrite : (session.wrote work (some ec)).writing = [] := by
    rw [wrote, writing]
    rfl
  constructor
  · exact lined.queued
  · have written : (session.wrote work (some ec)).history.written =
        session.history.written :=
      List.append_nil _
    rw [noWrite, written, List.append_nil]
    exact (List.prefix_append _ _).trans lined.begun
  · rw [noWrite]
    exact Nat.zero_le 1
  · exact fun writes => absurd noWrite writes
  · exact fun empty => absurd empty front
  · exact lined.pops

theorem Lined.afterWrite (lined : session.Lined) {work : HttpResponse}
    (writing : session.writing = [work]) (close : Bool)
    (ec : Option ErrorCode) :
    ((session.wrote work ec).afterWrite close ec).Lined := by
  rcases (session.wrote work ec).afterWrite_queue close ec with
    same | ⟨rfl, -, same⟩
  · cases ec with
    | none => exact (lined.wrote_none writing).lined.congr same
    | some ec => exact (lined.wrote_some writing ec).congr same
  · exact (lined.wrote_none writing).advanced.congr same

/-! ## Runs with any request handler -/

variable {server : HttpServer}

theorem unlocked_sameQueue (session : HttpSession) :
    SameQueue session session.unlocked :=
  ⟨rfl, rfl, rfl, rfl, rfl, rfl, rfl, rfl⟩

theorem Lined.step {event : HttpEvent} {next : HttpSession}
    (lined : session.Lined) (counted : session.Counted 0)
    (stepped : session.step server event = some next) : next.Lined := by
  cases event with
  | requestRead wire handling connecting =>
      obtain ⟨-, rfl⟩ := step_requestRead counted stepped
      apply Lined.congr _ (unlocked_sameQueue _)
      have received : (session.received wire).Lined :=
        lined.congr ⟨rfl, rfl, rfl, rfl, rfl, rfl, rfl, rfl⟩
      rw [afterRequest]
      split
      · exact received.congr (afterConnect_sameQueue _ _)
      · exact (received.handled handling).congr (afterHandling_sameQueue _ _)
  | readFailed error =>
      obtain ⟨-, rfl⟩ := step_readFailed stepped
      have failed : Lined { session with reads := session.reads - 1 } :=
        lined.congr ⟨rfl, rfl, rfl, rfl, rfl, rfl, rfl, rfl⟩
      exact (failed.congr (afterReadFailed_sameQueue _ _)).congr
        (unlocked_sameQueue _)
  | writeDone ec =>
      obtain ⟨work, works, writing, rfl⟩ := step_writeDone counted stepped
      have alone : session.writing = [work] := lined.writing_eq writing
      exact (lined.afterWrite alone work.needEof ec).congr
        (unlocked_sameQueue _)
  | timerExpired =>
      obtain ⟨timer, -, rfl⟩ := step_timerExpired stepped
      exact lined.congr ⟨rfl, rfl, rfl, rfl, rfl, rfl, rfl, rfl⟩
  | timerDone ec =>
      obtain ⟨timer, -, rfl⟩ := step_timerDone stepped
      have taken : Lined { session with timer := timer } :=
        lined.congr ⟨rfl, rfl, rfl, rfl, rfl, rfl, rfl, rfl⟩
      exact (taken.congr (afterTimer_sameQueue _ _)).congr
        (unlocked_sameQueue _)
  | doClose =>
      rw [step_doClose stepped]
      exact lined.congr ⟨rfl, rfl, rfl, rfl, rfl, rfl, rfl, rfl⟩
  | lateReply work =>
      obtain ⟨-, rfl⟩ := step_lateReply stepped
      exact lined.replied work

theorem started_lined : started.Lined := by
  constructor <;> decide

theorem reachable_lined {admits : HttpSession → HttpEvent → Prop}
    (reached : (httpMachine server).ReachableUnder admits session) :
    session.Lined :=
  reachable_invariant Lined started_lined
    (fun _ _ _ earlier lined _ stepped =>
      lined.step (reachable_counted earlier) stepped)
    reached

/-! ## Queues that drop nothing -/

/-- The responses that were sent are those that were started and those that
wait behind the front. -/
def Whole (session : HttpSession) : Prop :=
  session.history.responses =
    session.history.started ++ session.items.items.tail

theorem answered_history (session : HttpSession) (work : HttpResponse) :
    (session.answered work).history.responses =
        session.history.responses ++ [work] ∧
      (session.answered work).history.overwritten =
        session.history.overwritten ++ session.items.overwritten ∧
      (session.answered work).history.handled = session.history.handled := by
  rw [answered]
  split <;> exact ⟨rfl, rfl, rfl⟩

theorem Whole.congr {after : HttpSession} (whole : session.Whole)
    (same : SameQueue session after) : after.Whole := by
  rw [Whole, same.responses, same.started, same.items]
  exact whole

theorem Whole.answered (whole : session.Whole)
    (notFull : session.items.isFull = false) (work : HttpResponse) :
    (session.answered work).Whole := by
  by_cases empty : session.items.items = []
  · obtain ⟨answered, items⟩ := answered_empty empty work
    rw [Whole, empty, List.tail_nil, List.append_nil] at whole
    rw [Whole, items, answered, List.tail_cons, List.append_nil]
    exact congrArg (· ++ [work]) whole
  · have behind : (session.items.pushBack work).items.tail =
        session.items.items.tail ++ [work] := by
      rw [RingBuffer.pushBack_items notFull,
        List.tail_append_of_ne_nil empty]
    rw [answered_nonempty empty]
    calc session.history.responses ++ [work]
        = session.history.started ++ session.items.items.tail ++ [work] :=
          congrArg (· ++ [work]) whole
      _ = session.history.started ++
          (session.items.pushBack work).items.tail := by
          rw [behind, List.append_assoc]

theorem Whole.advanced (whole : session.Whole) :
    session.advanced.Whole := by
  rw [Whole] at whole
  rw [HttpSession.advanced]
  split
  · next nothing =>
      have empty : session.popped.items.items = [] := nothing
      rw [nothing] at whole
      rw [Whole, empty]
      exact whole
  · next work works rest =>
      have items : (session.popped.writeStarted work).items.items =
          work :: works := rest
      rw [rest, List.append_cons] at whole
      rw [Whole, items]
      exact whole

/-- Nothing is missing unless a push to the full ring dropped it. -/
def Intact (session : HttpSession) : Prop :=
  session.history.overwritten = [] → session.Whole

theorem Intact.congr {after : HttpSession} (intact : session.Intact)
    (same : SameQueue session after) : after.Intact := by
  intro none_lost
  rw [same.overwritten] at none_lost
  exact (intact none_lost).congr same

theorem Intact.answered (intact : session.Intact) (work : HttpResponse) :
    (session.answered work).Intact := by
  intro none_lost
  rw [(session.answered_history work).2.1, List.append_eq_nil_iff,
    RingBuffer.overwritten_eq_nil_iff (by decide)] at none_lost
  exact (intact none_lost.1).answered none_lost.2 work

theorem Intact.answeredAll (intact : session.Intact)
    (works : List HttpResponse) : (session.answeredAll works).Intact := by
  induction works generalizing session with
  | nil => exact intact
  | cons work works induction => exact induction (intact.answered work)

theorem Intact.handled (intact : session.Intact) (handling : HandlerRun) :
    (session.handled handling).Intact := by
  have called : (session.called handling).Intact := intact
  exact called.answeredAll handling.replies

theorem Intact.advanced (intact : session.Intact) :
    session.advanced.Intact := by
  intro none_lost
  have same : session.advanced.history.overwritten =
      session.history.overwritten := by
    rw [HttpSession.advanced]
    split <;> rfl
  exact (intact (same.symm.trans none_lost)).advanced

/-- As long as a handler holds a lock, every response is started in its
turn. -/
theorem Intact.step {event : HttpEvent} {next : HttpSession}
    (intact : session.Intact) (counted : session.Counted 0)
    (held : session.Held)
    (stepped : session.step server event = some next) : next.Intact := by
  cases event with
  | requestRead wire handling connecting =>
      obtain ⟨-, rfl⟩ := step_requestRead counted stepped
      apply Intact.congr _ (unlocked_sameQueue _)
      have received : (session.received wire).Intact :=
        intact.congr ⟨rfl, rfl, rfl, rfl, rfl, rfl, rfl, rfl⟩
      rw [afterRequest]
      split
      · exact received.congr (afterConnect_sameQueue _ _)
      · exact (received.handled handling).congr (afterHandling_sameQueue _ _)
  | readFailed error =>
      obtain ⟨-, rfl⟩ := step_readFailed stepped
      have failed : Intact { session with reads := session.reads - 1 } :=
        intact
      exact (failed.congr (afterReadFailed_sameQueue _ _)).congr
        (unlocked_sameQueue _)
  | writeDone ec =>
      obtain ⟨work, works, -, rfl⟩ := step_writeDone counted stepped
      have wrote : (session.wrote work ec).Intact := intact
      apply Intact.congr _ (unlocked_sameQueue _)
      rcases (session.wrote work ec).afterWrite_queue work.needEof ec with
        same | ⟨-, -, same⟩
      · exact wrote.congr same
      · exact wrote.advanced.congr same
  | timerExpired =>
      obtain ⟨timer, -, rfl⟩ := step_timerExpired stepped
      exact intact
  | timerDone ec =>
      obtain ⟨timer, -, rfl⟩ := step_timerDone stepped
      have taken : Intact { session with timer := timer } := intact
      exact (taken.congr (afterTimer_sameQueue _ _)).congr
        (unlocked_sameQueue _)
  | doClose =>
      rw [step_doClose stepped]
      exact intact
  | lateReply work =>
      obtain ⟨-, rfl⟩ := step_lateReply stepped
      have answers : session.replied work = session.answered work :=
        if_pos held
      rw [answers]
      exact intact.answered work

/-- Where nothing was dropped, writes are started in the order of the
responses. -/
structure Kept (session : HttpSession) : Prop where
  rest : session.Held → session.Intact
  begins : session.history.overwritten = [] →
    session.history.started <+: session.history.responses

/-- Without a lock only the queue grows. -/
theorem step_released {event : HttpEvent} {next : HttpSession}
    (counted : session.Counted 0) (released : ¬session.Held)
    (stepped : session.step server event = some next) :
    next.history.started = session.history.started ∧
      session.history.responses <+: next.history.responses ∧
      session.history.overwritten <+: next.history.overwritten := by
  have none_left : session.holders = 0 := by
    rw [Held, counted] at released
    omega
  simp only [holders, Nat.add_eq_zero_iff, List.length_eq_zero_iff]
    at none_left
  obtain ⟨⟨noRead, noWrite⟩, -⟩ := none_left
  cases event with
  | requestRead wire handling connecting =>
      obtain ⟨reading, -⟩ := step_requestRead counted stepped
      exact absurd noRead (Nat.ne_of_gt reading)
  | readFailed error =>
      obtain ⟨reading, -⟩ := step_readFailed stepped
      exact absurd noRead (Nat.ne_of_gt reading)
  | writeDone ec =>
      obtain ⟨work, works, writing, -⟩ := step_writeDone counted stepped
      rw [noWrite] at writing
      cases writing
  | timerExpired =>
      obtain ⟨timer, -, rfl⟩ := step_timerExpired stepped
      exact ⟨rfl, List.prefix_refl _, List.prefix_refl _⟩
  | timerDone ec =>
      obtain ⟨timer, -, rfl⟩ := step_timerDone stepped
      have taken : SameQueue session { session with timer := timer } :=
        ⟨rfl, rfl, rfl, rfl, rfl, rfl, rfl, rfl⟩
      have same := (taken.trans (afterTimer_sameQueue _ ec)).trans
        (unlocked_sameQueue _)
      rw [same.started, same.responses, same.overwritten]
      exact ⟨rfl, List.prefix_refl _, List.prefix_refl _⟩
  | doClose =>
      rw [step_doClose stepped]
      exact ⟨rfl, List.prefix_refl _, List.prefix_refl _⟩
  | lateReply work =>
      obtain ⟨-, rfl⟩ := step_lateReply stepped
      have queued : session.replied work = session.pushed work :=
        if_neg released
      rw [queued]
      exact ⟨rfl, List.prefix_append _ _, List.prefix_append _ _⟩

theorem Kept.step {event : HttpEvent} {next : HttpSession}
    (kept : session.Kept) (counted : session.Counted 0)
    (stepped : session.step server event = some next) : next.Kept := by
  by_cases held : session.Held
  · have intact := (kept.rest held).step counted held stepped
    refine ⟨fun _ => intact, fun none_lost => ?_⟩
    rw [intact none_lost]
    exact List.prefix_append _ _
  · constructor
    · intro stillHeld
      have drained := step_drained counted (Nat.eq_zero_of_not_pos held)
        stepped
      exact absurd drained (Nat.ne_of_gt stillHeld)
    · intro none_lost
      obtain ⟨started, responses, overwritten⟩ :=
        step_released counted held stepped
      rw [none_lost, List.prefix_nil] at overwritten
      rw [started]
      exact (kept.begins overwritten).trans responses

theorem started_kept : started.Kept :=
  ⟨fun _ _ => rfl, fun _ => List.prefix_refl _⟩

theorem reachable_kept {admits : HttpSession → HttpEvent → Prop}
    (reached : (httpMachine server).ReachableUnder admits session) :
    session.Kept :=
  reachable_invariant Kept started_kept
    (fun _ _ _ earlier kept _ stepped =>
      kept.step (reachable_counted earlier) stepped)
    reached

/-! ## Handlers that reply once -/

/-- A call of the request handler sends one response, before it returns. -/
def RepliesOnce : HttpEvent → Prop
  | .requestRead _ handling _ => handling.replies.length = 1
  | .lateReply _ => False
  | _ => True

/-- Nothing is dropped, and the response of each request is in its place. -/
structure InOrder (session : HttpSession) : Prop where
  intact : session.history.overwritten = []
  front : session.writing <+: session.items.items
  answers : session.history.responses =
    session.history.handled.flatMap Prod.snd

theorem InOrder.congr {after : HttpSession} (inOrder : session.InOrder)
    (same : SameQueue session after) : after.InOrder := by
  obtain ⟨items, writing, responses, -, -, overwritten, -, handled⟩ := same
  constructor
  · rw [overwritten]
    exact inOrder.intact
  · rw [writing, items]
    exact inOrder.front
  · rw [responses, handled]
    exact inOrder.answers

/-- A call that sends one response. -/
theorem handled_single {handling : HandlerRun} {work : HttpResponse}
    (replies : handling.replies = [work]) :
    session.handled handling =
      { (session.called handling).answered work with
        req := handling.leaves.getD
          ((session.called handling).answered work).req } := by
  rw [handled, replies]
  rfl

/-- What is being written stays at the front. -/
theorem answered_front (lined : session.Lined)
    (front : session.writing <+: session.items.items)
    (notFull : session.items.isFull = false) (work : HttpResponse) :
    (session.answered work).writing <+:
      (session.answered work).items.items := by
  by_cases empty : session.items.items = []
  · obtain ⟨answered, items⟩ := answered_empty empty work
    have noWrite : session.writing = [] := by
      by_contra writing
      exact (lined.busy writing).1 empty
    have writing : (session.writeStarted work).writing = [work] := by
      rw [writeStarted, noWrite]
      rfl
    rw [items, answered]
    exact writing ▸ List.prefix_refl _
  · have queue : (session.items.pushBack work).items =
        session.items.items ++ [work] :=
      RingBuffer.pushBack_items notFull work
    rw [answered_nonempty empty]
    exact queue ▸ front.trans (List.prefix_append _ _)

/-- The handler is called on a queue with room and sends its response. -/
theorem InOrder.handled (inOrder : session.InOrder) (lined : session.Lined)
    (room : session.items.items.length < 64) {handling : HandlerRun}
    (once : handling.replies.length = 1) :
    (session.handled handling).InOrder := by
  obtain ⟨work, replies⟩ := List.length_eq_one_iff.mp once
  have notFull : session.items.isFull = false := by
    rw [← Bool.not_eq_true, RingBuffer.isFull_iff]
    exact Nat.not_le_of_gt room
  obtain ⟨responses, overwritten, handled⟩ :=
    (session.called handling).answered_history work
  have called : (session.called handling).Lined :=
    ⟨lined.queued, lined.begun, lined.single, lined.busy, lined.idle,
      lined.pops⟩
  rw [handled_single replies]
  constructor
  · refine overwritten.trans ?_
    have none_lost : session.items.overwritten = [] :=
      RingBuffer.overwritten_eq_nil notFull
    exact List.append_eq_nil_iff.mpr ⟨inOrder.intact, none_lost⟩
  · exact answered_front called inOrder.front notFull work
  · have answers : session.history.responses ++ [work] =
        (session.history.handled ++
          [(session.req, handling.replies)]).flatMap Prod.snd := by
      rw [List.flatMap_append, inOrder.answers, replies]
      rfl
    calc ((session.called handling).answered work).history.responses
        = session.history.responses ++ [work] := responses
      _ = (session.history.handled ++
            [(session.req, handling.replies)]).flatMap Prod.snd := answers
      _ = ((session.called handling).answered
            work).history.handled.flatMap Prod.snd := by
          rw [handled]
          rfl

theorem InOrder.wrote (inOrder : session.InOrder) {work : HttpResponse}
    (writing : session.writing = [work]) (ec : Option ErrorCode) :
    (session.wrote work ec).InOrder := by
  refine ⟨inOrder.intact, ?_, inOrder.answers⟩
  rw [HttpSession.wrote, writing]
  exact List.nil_prefix

theorem InOrder.advanced (inOrder : session.InOrder)
    (advancing : session.Advancing) : session.advanced.InOrder := by
  rw [HttpSession.advanced]
  split
  · refine ⟨inOrder.intact, ?_, inOrder.answers⟩
    exact advancing.idle.symm ▸ List.nil_prefix
  · next work works rest =>
      have items : session.popped.items.items = work :: works := rest
      refine ⟨inOrder.intact, ?_, inOrder.answers⟩
      have writing : (session.popped.writeStarted work).writing = [work] := by
        rw [writeStarted, popped, advancing.idle]
        rfl
      rw [writing]
      exact ⟨works, items.symm⟩

theorem InOrder.afterWrite (inOrder : session.InOrder)
    (lined : session.Lined) {work : HttpResponse}
    (writing : session.writing = [work]) (close : Bool)
    (ec : Option ErrorCode) :
    ((session.wrote work ec).afterWrite close ec).InOrder := by
  have wrote := inOrder.wrote writing ec
  rcases (session.wrote work ec).afterWrite_queue close ec with
    same | ⟨rfl, -, same⟩
  · exact wrote.congr same
  · exact (wrote.advanced (lined.wrote_none writing)).congr same

theorem InOrder.step {event : HttpEvent} {next : HttpSession}
    (inOrder : session.InOrder) (lined : session.Lined)
    (paced : session.Paced) (counted : session.Counted 0)
    (once : RepliesOnce event)
    (stepped : session.step server event = some next) : next.InOrder := by
  cases event with
  | requestRead wire handling connecting =>
      obtain ⟨reading, rfl⟩ := step_requestRead counted stepped
      apply InOrder.congr _ (unlocked_sameQueue _)
      have alike : SameQueue session (session.received wire) :=
        ⟨rfl, rfl, rfl, rfl, rfl, rfl, rfl, rfl⟩
      have received := inOrder.congr alike
      rw [afterRequest]
      split
      · exact received.congr (afterConnect_sameQueue _ _)
      · have handled := received.handled (lined.congr alike)
          (paced.room reading) once
        exact handled.congr (afterHandling_sameQueue _ _)
  | readFailed error =>
      obtain ⟨-, rfl⟩ := step_readFailed stepped
      have failed : InOrder { session with reads := session.reads - 1 } :=
        inOrder.congr ⟨rfl, rfl, rfl, rfl, rfl, rfl, rfl, rfl⟩
      exact (failed.congr (afterReadFailed_sameQueue _ _)).congr
        (unlocked_sameQueue _)
  | writeDone ec =>
      obtain ⟨work, works, writing, rfl⟩ := step_writeDone counted stepped
      have alone : session.writing = [work] := lined.writing_eq writing
      exact (inOrder.afterWrite lined alone work.needEof ec).congr
        (unlocked_sameQueue _)
  | timerExpired =>
      obtain ⟨timer, -, rfl⟩ := step_timerExpired stepped
      exact inOrder.congr ⟨rfl, rfl, rfl, rfl, rfl, rfl, rfl, rfl⟩
  | timerDone ec =>
      obtain ⟨timer, -, rfl⟩ := step_timerDone stepped
      have taken : InOrder { session with timer := timer } :=
        inOrder.congr ⟨rfl, rfl, rfl, rfl, rfl, rfl, rfl, rfl⟩
      exact (taken.congr (afterTimer_sameQueue _ _)).congr
        (unlocked_sameQueue _)
  | doClose =>
      rw [step_doClose stepped]
      exact inOrder.congr ⟨rfl, rfl, rfl, rfl, rfl, rfl, rfl, rfl⟩
  | lateReply work => exact once.elim

theorem started_inOrder : started.InOrder := by
  constructor <;> decide

theorem RepliesOnce.space {event : HttpEvent} (once : RepliesOnce event)
    (session : HttpSession) : session.LeavesSpace event := by
  cases event with
  | lateReply work => exact once.elim
  | requestRead _ _ _ | readFailed _ | writeDone _ | timerExpired
  | timerDone _ | doClose => trivial

theorem reachable_inOrder
    (reached : (httpMachine server).ReachableUnder
      (fun _ event => RepliesOnce event) session) : session.InOrder :=
  reachable_invariant InOrder started_inOrder
    (fun _ _ _ earlier inOrder once stepped =>
      inOrder.step (reachable_lined earlier)
        (reachable_paced (fun before _ once => once.space before) earlier)
        (reachable_counted earlier) once stepped)
    reached

/-- With a request handler that replies once, the responses are written one
at a time and in the order of their requests, and the ring never drops
one. -/
theorem pipelining_ordered
    (reached : (httpMachine server).ReachableUnder
      (fun _ event => RepliesOnce event) session) :
    (session.writing = [] ∨ ∃ work, session.writing = [work] ∧
        session.items.front? = some work) ∧
      session.history.started <+:
        session.history.handled.flatMap Prod.snd ∧
      session.items.items.length ≤ 64 ∧
      session.history.overwritten = [] ∧
      session.history.emptyPops = 0 := by
  have lined := reachable_lined reached
  have inOrder := reachable_inOrder reached
  refine ⟨?_, ?_, session.items.bounded, inOrder.intact, lined.pops⟩
  · cases writing : session.writing with
    | nil => exact .inl rfl
    | cons work works =>
        right
        have alone := lined.writing_eq writing
        obtain ⟨rest, items⟩ := inOrder.front
        rw [alone] at items
        refine ⟨work, writing.symm.trans alone, ?_⟩
        rw [RingBuffer.front?, ← items]
        rfl
  · rw [← inOrder.answers]
    exact (reachable_kept reached).begins inOrder.intact

/-- A request without fields is read, and the handler replies at once. -/
def pipelined : HttpEvent :=
  .requestRead ⟨"GET", "/", 11, [], []⟩ ⟨[⟨[1], false⟩], none, false⟩
    ⟨false, none, false⟩

/-- Of two pipelined requests the first is being answered. -/
theorem pipelining_ordered_two :
    ∃ session, (httpMachine plainServer).run started
        [pipelined, pipelined] = some session ∧
      session.writing = [⟨[1], false⟩] ∧
      session.history.started <+:
        session.history.handled.flatMap Prod.snd ∧
      session.history.overwritten = [] := by
  have ran : (httpMachine plainServer).run started
    [pipelined, pipelined] = some _ := rfl
  have once : (httpMachine plainServer).Admitted
      (fun _ event => RepliesOnce event) started [pipelined, pipelined] :=
    ⟨rfl, fun _ _ => ⟨rfl, fun _ _ => trivial⟩⟩
  obtain ⟨-, inOrder, -, intact, -⟩ :=
    pipelining_ordered (Machine.reachableUnder_of_run rfl once ran)
  exact ⟨_, ran, rfl, inOrder, intact⟩

end

end HttpSession

end Webservice
