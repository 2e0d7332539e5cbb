import Webservice.Http.Isolation
import Webservice.Http.Pipelining

/-!
# Back-pressure of pipelined requests

`queue::on_write` reports that the queue was full, so that `on_write` reads
again.  But the read handler closes the session when the queue is full, so
there is nothing left to resume.
-/

namespace Webservice

namespace HttpSession

/-- Steps of a session that meets no error, end of stream, timeout, upgrade
or shutdown, and whose request handler replies once with a keep-alive
response, before it returns. -/
def Quiet (server : HttpServer) (session : HttpSession) : HttpEvent → Prop
  | .requestRead wire handling _ =>
      ¬(session.received wire).Upgrades server ∧
        (∃ work, handling.replies = [work] ∧ work.needEof = false) ∧
        handling.throws = false
  | .writeDone ec => ec = none
  | .timerDone ec => ec = some .operationAborted
  | .readFailed _ | .timerExpired | .doClose | .lateReply _ => False

/-- A response in the queue is being written. -/
def Writes (session : HttpSession) : Prop :=
  session.items.items ≠ [] → session.writing ≠ []

/-- The socket is not shut down with responses in the queue, reading goes on
or is resumed by the write that is outstanding, and a queue that is not empty
is being written. -/
structure Streaming (session : HttpSession) : Prop where
  shutsEmpty : session.closed = true →
    session.items.items = [] ∧ session.writing = []
  reading : session.reads = 1 ∨
    session.items.isFull = true ∧ session.writing ≠ []
  writes : session.Writes

/-- No response is lost: every request that was read was passed to the
handler, and what the handler sent was written, is being written or waits to
be. -/
structure Flowing (session : HttpSession) : Prop
    extends session.Streaming where
  handled : session.history.handled.length = session.history.wire.length
  answered : session.history.handled.flatMap Prod.snd =
    session.history.written ++ session.writing ++ session.items.items.tail

/-- The next request leaves room in the queue. -/
def LeavesRoom (session : HttpSession) : HttpEvent → Prop
  | .requestRead _ _ _ => session.items.items.length < 63
  | _ => True

/-- What holds in every quiet run. -/
structure Calm (session : HttpSession) : Prop where
  socketOpen : session.socketOpen = true
  unexpired : session.timer.expired = 0
  keepAlive : ∀ work ∈ session.items.items, work.needEof = false
  full : session.items.isFull = true → session.closed = true
  paused : session.closed = true → session.reads = 0

/-- Every request that was read was passed to the handler. -/
def Heard (session : HttpSession) : Prop :=
  session.history.handled.length = session.history.wire.length

section

variable {session : HttpSession}

theorem Calm.resumed (calm : session.Calm)
    (notClosed : session.closed = false) : session.resumed.Calm := by
  rw [HttpSession.resumed]
  split
  · refine ⟨calm.socketOpen, calm.unexpired, calm.keepAlive, calm.full,
      fun isClosed => ?_⟩
    exact absurd (notClosed.symm.trans isClosed) Bool.false_ne_true
  · exact calm

/-- A session that is not closed reads on. -/
theorem Calm.resumed_reads (calm : session.Calm) (watched : session.Watched)
    (notClosed : session.closed = false) :
    session.resumed.reads = session.reads + 1 := by
  have armed := watched.armed notClosed
  rw [WaitableTimer.live, calm.unexpired, Nat.add_zero] at armed
  have pending : 0 < session.timer.pending := armed ▸ Nat.one_pos
  rw [HttpSession.resumed, if_pos ⟨calm.socketOpen, pending⟩]
  rfl

theorem resumed_watch (session : HttpSession) :
    session.resumed.closed = session.closed ∧
      session.resumed.items = session.items ∧
      session.resumed.writing = session.writing := by
  rw [resumed]
  split <;> exact ⟨rfl, rfl, rfl⟩

/-- The request handler sends one response into a queue with room. -/
theorem handled_queue (room : session.items.items.length < 64)
    {handling : HandlerRun} {work : HttpResponse}
    (replies : handling.replies = [work]) :
    (session.handled handling).items.items = session.items.items ++ [work] ∧
      (session.Writes → (session.handled handling).Writes) := by
  have notFull : session.items.isFull = false := by
    rw [← Bool.not_eq_true, RingBuffer.isFull_iff]
    exact Nat.not_le_of_gt room
  rw [handled_single replies]
  by_cases empty : session.items.items = []
  · have emptyQueue : (session.called handling).items.items = [] := empty
    obtain ⟨answered, items⟩ := answered_empty emptyQueue work
    rw [answered]
    refine ⟨?_, fun _ => ?_⟩
    · rw [empty, ← items, answered]
      rfl
    · exact fun _ =>
        List.append_ne_nil_of_right_ne_nil _ (List.cons_ne_nil _ _)
  · have someItem : (session.called handling).items.items ≠ [] := empty
    rw [answered_nonempty someItem]
    exact ⟨RingBuffer.pushBack_items notFull work,
      fun writes _ => writes empty⟩

/-- The read handler pauses a session exactly by closing it. -/
theorem Calm.afterHandling (calm : session.Calm) (writes : session.Writes)
    (watched : session.Watched) (idle : session.reads = 0)
    (notClosed : session.closed = false)
    (room : session.items.items.length < 64) {handling : HandlerRun}
    {work : HttpResponse} (replies : handling.replies = [work])
    (keepAlive : work.needEof = false) (returns : handling.throws = false) :
    (session.afterHandling handling).Calm ∧
      (session.afterHandling handling).Writes ∧
      ((session.afterHandling handling).Streaming ↔
        session.items.items.length < 63) := by
  obtain ⟨items, stillWrites⟩ := handled_queue room replies
  obtain ⟨timer, closed, reads, socketOpen⟩ := session.handled_watch handling
  have writing := stillWrites writes
  have answered : (session.handled handling).items.items ≠ [] :=
    items.symm ▸ List.append_ne_nil_of_right_ne_nil _ (List.cons_ne_nil _ _)
  have full : (session.handled handling).items.isFull = true ↔
      63 ≤ session.items.items.length := by
    rw [RingBuffer.isFull_iff, items, List.length_append]
    exact Nat.succ_le_succ_iff
  have alive : ∀ reply ∈ (session.handled handling).items.items,
      reply.needEof = false := by
    rw [items]
    intro reply isReply
    rcases List.mem_append.mp isReply with earlier | isLast
    · exact calm.keepAlive reply earlier
    · exact List.mem_singleton.mp isLast ▸ keepAlive
  have unexpired : (session.handled handling).timer.expired = 0 :=
    timer.symm ▸ calm.unexpired
  have stillIdle : (session.handled handling).reads = 0 := reads.trans idle
  rw [HttpSession.afterHandling, returns]
  simp only [Bool.false_eq_true, if_false]
  split
  · next isFull =>
      refine ⟨?_, writing, ?_⟩
      · exact ⟨socketOpen.trans calm.socketOpen, unexpired, alive,
          fun _ => rfl, fun _ => stillIdle⟩
      · constructor
        · intro flowing
          exact absurd (flowing.shutsEmpty rfl).1 answered
        · intro some_room
          exact absurd (full.mp isFull) (Nat.not_le_of_gt some_room)
  · next notFull =>
      have handled : (session.handled handling).Calm :=
        ⟨socketOpen.trans calm.socketOpen, unexpired, alive,
          fun isFull => absurd isFull notFull, fun _ => stillIdle⟩
      have stillOpen : (session.handled handling).closed = false :=
        closed.trans notClosed
      have isWatched : (session.handled handling).Watched :=
        watched.congr timer closed
      have resumes := handled.resumed_reads isWatched stillOpen
      obtain ⟨sameClosed, sameItems, sameWriting⟩ :=
        (session.handled handling).resumed_watch
      refine ⟨handled.resumed stillOpen, ?_, fun _ => ?_, fun _ => ?_⟩
      · rw [Writes, sameItems, sameWriting]
        exact writing
      · rw [full, Nat.not_le] at notFull
        exact notFull
      · refine ⟨fun isClosed => ?_, .inl (resumes.trans (by rw [stillIdle])),
          by rwa [Writes, sameItems, sameWriting]⟩
        exact absurd (stillOpen.symm.trans (sameClosed.symm.trans isClosed))
          Bool.false_ne_true

/-- A quiet write lets the queue advance, and does not resume the
reading. -/
theorem Calm.advanced (calm : session.Calm) :
    session.advanced.Calm := by
  obtain ⟨timer, closed, reads, socketOpen⟩ := session.advanced_watch
  have items := session.advanced_items
  constructor
  · exact socketOpen.trans calm.socketOpen
  · exact timer.symm ▸ calm.unexpired
  · intro work isWork
    rw [items, RingBuffer.popFront_items] at isWork
    exact calm.keepAlive work (List.mem_of_mem_tail isWork)
  · intro isFull
    rw [items, RingBuffer.isFull_iff, RingBuffer.popFront_items,
      List.length_tail] at isFull
    have bounded := session.items.bounded
    omega
  · rw [closed, reads]
    exact calm.paused

theorem advanced_writes (session : HttpSession) : session.advanced.Writes := by
  rw [Writes, advanced_items, RingBuffer.popFront_items, advanced]
  intro some_item
  split
  · next nothing => exact absurd nothing some_item
  · exact List.append_ne_nil_of_right_ne_nil _ (List.cons_ne_nil _ _)

/-- A full queue has closed the session. -/
theorem Calm.afterWrite (calm : session.Calm) (watched : session.Watched) :
    session.afterWrite false none = session.advanced := by
  simp only [HttpSession.afterWrite, Bool.false_eq_true, if_false,
    ite_eq_right_iff]
  intro isFull
  apply resumed_eq_self
  rw [session.advanced_watch.timer]
  exact watched.quiet (calm.full isFull)

/-- A quiet session that is not cut off is reading. -/
theorem Streaming.reads_on (streaming : session.Streaming)
    (calm : session.Calm) :
    session.closed = false ∧ session.reads = 1 := by
  have notClosed : session.closed = false := by
    rw [← Bool.not_eq_true]
    intro isClosed
    rcases streaming.reading with reading | ⟨-, writing⟩
    · rw [calm.paused isClosed] at reading
      exact absurd reading Nat.zero_ne_one
    · exact writing (streaming.shutsEmpty isClosed).2
  refine ⟨notClosed, streaming.reading.resolve_right ?_⟩
  rintro ⟨isFull, -⟩
  exact absurd (notClosed.symm.trans (calm.full isFull)) Bool.false_ne_true

/-- What the handler has sent is written one after the other. -/
theorem Streaming.answered (streaming : session.Streaming)
    (inOrder : session.InOrder) (lined : session.Lined) (kept : session.Kept)
    (counted : session.Counted 0) :
    session.history.handled.flatMap Prod.snd =
      session.history.written ++ session.writing ++
        session.items.items.tail := by
  have held : session.Held := by
    apply counted.held
    rcases streaming.reading with reading | ⟨-, writing⟩
    · simp only [holders, reading]
      omega
    · have some_write := List.length_pos_iff.mpr writing
      simp only [holders]
      omega
  have begun : session.history.started =
      session.history.written ++ session.writing := by
    by_cases idle : session.writing = []
    · have empty : session.items.items = [] := by
        by_contra some_item
        exact streaming.writes some_item idle
      rw [lined.idle empty, idle, List.append_nil]
    · exact (lined.busy idle).2
  rw [← inOrder.answers, kept.rest held inOrder.intact, begun]

variable {server : HttpServer}

theorem Calm.step {event : HttpEvent} {next : HttpSession}
    (calm : session.Calm) (writes : session.Writes)
    (watched : session.Watched) (paced : session.Paced)
    (inOrder : session.InOrder) (counted : session.Counted 0)
    (quiet : session.Quiet server event)
    (stepped : session.step server event = some next) :
    next.Calm ∧ next.Writes ∧ (session.Streaming →
      (next.Streaming ↔ session.LeavesRoom event)) := by
  cases event with
  | requestRead wire handling connecting =>
      obtain ⟨reading, rfl⟩ := step_requestRead counted stepped
      obtain ⟨plain, ⟨work, replies, keepAlive⟩, returns⟩ := quiet
      have single := paced.single
      have idle : session.reads - 1 = 0 := by omega
      have notClosed : session.closed = false := by
        rw [← Bool.not_eq_true]
        exact fun isClosed => Nat.ne_of_gt reading (calm.paused isClosed)
      have received : (session.received wire).Calm :=
        ⟨calm.socketOpen, calm.unexpired, calm.keepAlive, calm.full,
          fun _ => idle⟩
      have isWatched : (session.received wire).Watched :=
        watched.congr rfl rfl
      obtain ⟨stillCalm, stillWrites, streams⟩ := received.afterHandling
        writes isWatched idle notClosed (paced.room reading) replies keepAlive
        returns
      rw [afterRequest, if_neg plain]
      refine ⟨⟨stillCalm.socketOpen, stillCalm.unexpired, stillCalm.keepAlive,
        stillCalm.full, stillCalm.paused⟩, stillWrites, fun _ => ?_⟩
      exact Iff.trans
        ⟨fun streaming => ⟨streaming.shutsEmpty, streaming.reading,
            streaming.writes⟩,
          fun streaming => ⟨streaming.shutsEmpty, streaming.reading,
            streaming.writes⟩⟩
        streams
  | writeDone ec =>
      obtain ⟨work, works, writing, rfl⟩ := step_writeDone counted stepped
      obtain rfl : ec = none := quiet
      have wrote : (session.wrote work none).Calm :=
        ⟨calm.socketOpen, calm.unexpired, calm.keepAlive, calm.full,
          calm.paused⟩
      have isWatched : (session.wrote work none).Watched :=
        watched.congr rfl rfl
      have alive : work.needEof = false := by
        obtain ⟨rest, items⟩ := inOrder.front
        apply calm.keepAlive work
        rw [← items, writing]
        exact List.mem_append_left _ List.mem_cons_self
      obtain ⟨-, closed, reads, -⟩ := (session.wrote work none).advanced_watch
      rw [alive, wrote.afterWrite isWatched]
      have advanced := wrote.advanced
      refine ⟨⟨advanced.socketOpen, advanced.unexpired, advanced.keepAlive,
        advanced.full, advanced.paused⟩,
        (session.wrote work none).advanced_writes, fun streaming => ?_⟩
      obtain ⟨notClosed, reading⟩ := streaming.reads_on calm
      refine iff_of_true ⟨fun isClosed => ?_, .inl (reads.trans reading),
        (session.wrote work none).advanced_writes⟩ trivial
      exact absurd (notClosed.symm.trans (closed.symm.trans isClosed))
        Bool.false_ne_true
  | timerDone ec =>
      obtain ⟨timer, taken, rfl⟩ := step_timerDone stepped
      obtain rfl : ec = some .operationAborted := quiet
      have expired := WaitableTimer.take?_aborted_expired taken
      refine ⟨⟨calm.socketOpen, expired.trans calm.unexpired, calm.keepAlive,
        calm.full, calm.paused⟩, writes, fun streaming => ?_⟩
      exact iff_of_true ⟨streaming.shutsEmpty, streaming.reading,
        streaming.writes⟩ trivial
  | readFailed error => exact quiet.elim
  | timerExpired => exact quiet.elim
  | doClose => exact quiet.elim
  | lateReply work => exact quiet.elim

theorem Heard.step {event : HttpEvent} {next : HttpSession}
    (heard : session.Heard) (counted : session.Counted 0)
    (quiet : session.Quiet server event)
    (stepped : session.step server event = some next) : next.Heard := by
  cases event with
  | requestRead wire handling connecting =>
      obtain ⟨-, rfl⟩ := step_requestRead counted stepped
      have same :=
        (session.received wire).afterHandling_sameRequests handling
      obtain ⟨handled, wires, -⟩ :=
        (session.received wire).handled_requests handling
      rw [afterRequest, if_neg quiet.1]
      calc ((session.received wire).afterHandling
            handling).history.handled.length
          = session.history.handled.length + 1 := by
            rw [same.handled, handled, List.length_append]
            rfl
        _ = (session.history.wire ++ [wire]).length := by
            rw [List.length_append, heard]
            rfl
        _ = ((session.received wire).afterHandling
              handling).history.wire.length := by
            rw [same.wire, wires]
            rfl
  | writeDone ec =>
      obtain ⟨work, works, -, rfl⟩ := step_writeDone counted stepped
      have same :=
        (session.wrote work ec).afterWrite_sameRequests work.needEof ec
      exact (congrArg List.length same.handled).trans
        (heard.trans (congrArg List.length same.wire).symm)
  | timerDone ec =>
      obtain ⟨timer, -, rfl⟩ := step_timerDone stepped
      have same := afterTimer_sameRequests { session with timer := timer } ec
      exact (congrArg List.length same.handled).trans
        (heard.trans (congrArg List.length same.wire).symm)
  | readFailed error => exact quiet.elim
  | timerExpired => exact quiet.elim
  | doClose => exact quiet.elim
  | lateReply work => exact quiet.elim

theorem Quiet.repliesOnce {event : HttpEvent}
    (quiet : session.Quiet server event) : RepliesOnce event := by
  cases event with
  | requestRead wire handling connecting =>
      obtain ⟨-, ⟨work, replies, -⟩, -⟩ := quiet
      exact congrArg List.length replies
  | lateReply _ => exact quiet
  | readFailed _ | writeDone _ | timerExpired | timerDone _ | doClose =>
      trivial

/-- The states of quiet runs. -/
structure Within (server : HttpServer) (session : HttpSession) : Prop where
  reached : (httpMachine server).ReachableUnder
    (fun _ event => RepliesOnce event) session
  calm : session.Calm
  writes : session.Writes
  heard : session.Heard

theorem Within.started : Within server started := by
  refine ⟨.initial rfl, ?_, fun some_item => absurd rfl some_item, rfl⟩
  constructor <;> decide

theorem Within.step {event : HttpEvent} {next : HttpSession}
    (within : session.Within server) (quiet : session.Quiet server event)
    (stepped : session.step server event = some next) :
    next.Within server ∧ (session.Streaming →
      (next.Streaming ↔ session.LeavesRoom event)) := by
  have reached := within.reached
  have counted := reachable_counted reached
  obtain ⟨calm, writes, streams⟩ := within.calm.step within.writes
    (reachable_watched reached)
    (reachable_paced (fun before _ once => once.space before) reached)
    (reachable_inOrder reached) counted quiet stepped
  exact ⟨⟨.step reached quiet.repliesOnce stepped, calm, writes,
    within.heard.step counted quiet stepped⟩, streams⟩

/-- Where a quiet session is not cut off, nothing was lost. -/
theorem Within.flows_iff (within : session.Within server) :
    session.Flowing ↔ session.Streaming := by
  have reached := within.reached
  refine ⟨Flowing.toStreaming, fun streaming => ⟨streaming, within.heard, ?_⟩⟩
  exact streaming.answered (reachable_inOrder reached)
    (reachable_lined reached) (reachable_kept reached)
    (reachable_counted reached)

/-- A quiet run loses no response in any of its states if and only if no
request it reads fills the queue. -/
theorem flowing_iff {events : List HttpEvent} {last : HttpSession}
    (quiet : (httpMachine server).Admitted (Quiet server) started events)
    (ran : (httpMachine server).run started events = some last) :
    (httpMachine server).Throughout Flowing started events ↔
      (httpMachine server).Admitted LeavesRoom started events := by
  have start : started.Within server := .started
  refine Machine.throughout_iff_admitted (Within server) Flowing ?_ ?_ quiet
    ran start (start.flows_iff.mpr ⟨nofun, .inl rfl, start.writes⟩)
  · intro before event after within isQuiet _ _ stepped
    exact (within.step isQuiet stepped).1
  · intro before event after within isQuiet flowing stepped
    obtain ⟨stillWithin, streams⟩ := within.step isQuiet stepped
    rw [stillWithin.flows_iff]
    exact streams flowing.toStreaming

theorem pipelined_quiet (session : HttpSession) :
    session.Quiet plainServer pipelined :=
  ⟨nofun, ⟨_, rfl, rfl⟩, rfl⟩

set_option maxRecDepth 20000 in
/-- With 64 unanswered requests the session shuts its socket down and reads
nothing more. -/
theorem not_flowing_full :
    (httpMachine plainServer).Admitted
        (Quiet plainServer) started (List.replicate 64 pipelined) ∧
    ∃ session, (httpMachine plainServer).run started
        (List.replicate 64 pipelined) = some session ∧
      session.closed = true ∧ session.items.items.length = 64 ∧
      session.writing.length = 1 ∧ session.reads = 0 ∧
      ¬session.Flowing := by
  refine ⟨Machine.admitted_of_forall ?_, _, rfl, rfl, rfl, rfl, rfl,
    fun flowing => ?_⟩
  · intro event isEvent session
    rw [List.eq_of_mem_replicate isEvent]
    exact pipelined_quiet session
  · exact List.cons_ne_nil _ _ (flowing.shutsEmpty rfl).2

/-- Two pipelined requests are read and answered. -/
theorem flowing_iff_two :
    (httpMachine plainServer).Throughout Flowing started
      [pipelined, pipelined, .writeDone none, .writeDone none] := by
  have ran : (httpMachine plainServer).run started
    [pipelined, pipelined, .writeDone none, .writeDone none] = some _ := rfl
  have quiet : (httpMachine plainServer).Admitted
      (Quiet plainServer) started
      [pipelined, pipelined, .writeDone none, .writeDone none] :=
    ⟨pipelined_quiet _, fun _ _ => ⟨pipelined_quiet _, fun _ _ =>
      ⟨rfl, fun _ _ => ⟨rfl, fun _ _ => trivial⟩⟩⟩⟩
  apply (flowing_iff quiet ran).mpr
  refine ⟨(by decide : 0 < 63), fun _ isFirst => ?_⟩
  cases isFirst
  refine ⟨(by decide : 1 < 63), fun _ _ => ?_⟩
  exact ⟨trivial, fun _ _ => ⟨trivial, fun _ _ => trivial⟩⟩

end

end HttpSession

end Webservice
