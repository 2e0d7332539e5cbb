import Mathlib.Algebra.Order.Ring.Nat
import Webservice.Http.Isolation
import Webservice.Http.Pipelining

/-!
# Upgrades behind pipelined requests

The read handler runs ahead of the writes.  An upgrade hands the socket over
as soon as its request is read, whether or not the responses before it have
been written.
-/

namespace Webservice

/-- Every response was written before the socket was passed on. -/
structure Handover.Clean (handover : Handover) : Prop where
  idle : handover.writing = []
  empty : handover.waiting = []
  complete : handover.written = handover.responses

/-- Every response was written, is being written, has failed to be written or
waits behind the front of the queue. -/
structure Handover.Accounted (handover : Handover) : Prop where
  begun : handover.written ++ handover.writing <+: handover.started
  whole : handover.responses = handover.started ++ handover.waiting

namespace HttpSession

/-- No handover has cut off a response. -/
def CleanHandovers (session : HttpSession) : Prop :=
  ∀ handover ∈ session.history.handovers, handover.Clean

/-- The responses that the request handler sends in the step, in its call or
late. -/
def replies (server : HttpServer) : HttpSession × HttpEvent → Nat
  | (session, .requestRead wire handling _) =>
      if (session.received wire).Upgrades server then 0
      else handling.replies.length
  | (_, .lateReply _) => 1
  | _ => 0

/-- The writes that end without an error in the step. -/
def completions : HttpSession × HttpEvent → Nat
  | (_, .writeDone none) => 1
  | _ => 0

/-- An upgrade is read only once as many writes have ended without an error
as responses have been sent. -/
def UpgradesLast (server : HttpServer)
    (recorded : HttpSession × List (HttpSession × HttpEvent)) :
    HttpEvent → Prop
  | .requestRead wire _ _ =>
      (recorded.1.received wire).Upgrades server →
        (recorded.2.map completions).sum =
          (recorded.2.map (replies server)).sum
  | _ => True

section

variable {session : HttpSession}

/-- The snapshot that `server_connect` would take. -/
def handover (session : HttpSession) : Handover :=
  { writing := session.writing
    waiting := session.items.items.tail
    responses := session.history.responses
    started := session.history.started
    written := session.history.written }

/-- Counting the responses is enough: those written are a part of those
started, and these of those sent. -/
theorem Lined.clean_iff (lined : session.Lined) :
    session.handover.Clean ↔
      session.history.written.length = session.history.responses.length := by
  constructor
  · intro clean
    exact congrArg List.length clean.complete
  · intro same
    have begun := lined.begun.length_le
    have queued := lined.queued.length_le
    rw [List.length_append] at begun queued
    have idle : session.writing = [] := by
      apply List.eq_nil_of_length_eq_zero
      omega
    have empty : session.items.items.tail = [] := by
      apply List.eq_nil_of_length_eq_zero
      omega
    refine ⟨idle, empty, ?_⟩
    have written : session.history.written = session.history.started := by
      have isPrefix := lined.begun
      rw [idle, List.append_nil] at isPrefix
      exact isPrefix.eq_of_length (by omega)
    have started : session.history.started = session.history.responses := by
      have isSublist := lined.queued
      rw [empty, List.append_nil] at isSublist
      exact isSublist.eq_of_length (by omega)
    exact written.trans started

/-! ## What a step sends and writes -/

theorem answeredAll_responses (session : HttpSession)
    (works : List HttpResponse) :
    (session.answeredAll works).history.responses =
        session.history.responses ++ works ∧
      (session.answeredAll works).history.written =
        session.history.written ∧
      session.history.overwritten <+:
        (session.answeredAll works).history.overwritten := by
  induction works generalizing session with
  | nil => exact ⟨(List.append_nil _).symm, rfl, List.prefix_refl _⟩
  | cons work works induction =>
      obtain ⟨responses, overwritten, -⟩ := session.answered_history work
      have written : (session.answered work).history.written =
          session.history.written := by
        rw [answered]
        split <;> rfl
      obtain ⟨laterResponses, laterWritten, laterOverwritten⟩ :=
        induction (session.answered work)
      refine ⟨?_, laterWritten.trans written, ?_⟩
      · rw [answeredAll, List.foldl_cons]
        exact laterResponses.trans (by rw [responses, List.append_assoc]; rfl)
      · rw [overwritten] at laterOverwritten
        exact (List.prefix_append _ _).trans laterOverwritten

variable {server : HttpServer}

/-- The counts of a step, and what was dropped stays dropped. -/
structure Counts (server : HttpServer) (session : HttpSession)
    (event : HttpEvent) (next : HttpSession) : Prop where
  written : next.history.written.length =
    session.history.written.length + completions (session, event)
  responses : next.history.responses.length =
    session.history.responses.length + replies server (session, event)
  overwritten : session.history.overwritten <+: next.history.overwritten

theorem SameQueue.counts {event : HttpEvent} {next : HttpSession}
    (same : SameQueue session next) (none_sent : replies server
      (session, event) = 0) (none_written : completions (session, event) = 0) :
    Counts server session event next := by
  constructor
  · rw [same.written, none_written]
    rfl
  · rw [same.responses, none_sent]
    rfl
  · exact same.overwritten ▸ List.prefix_refl _

theorem step_counts {event : HttpEvent} {next : HttpSession}
    (counted : session.Counted 0)
    (stepped : session.step server event = some next) :
    Counts server session event next := by
  cases event with
  | requestRead wire handling connecting =>
      obtain ⟨-, rfl⟩ := step_requestRead counted stepped
      rw [afterRequest]
      split
      · next upgrades =>
          have received : SameQueue session (session.received wire) :=
            ⟨rfl, rfl, rfl, rfl, rfl, rfl, rfl, rfl⟩
          exact ((received.trans (afterConnect_sameQueue _ connecting)).trans
            (unlocked_sameQueue _)).counts (if_pos upgrades) rfl
      · next plain =>
          have same := (session.received wire).afterHandling_sameQueue handling
          obtain ⟨responses, written, overwritten⟩ :=
            ((session.received wire).called handling).answeredAll_responses
              handling.replies
          constructor
          · exact congrArg List.length (same.written.trans written)
          · have sent : replies server (session,
                .requestRead wire handling connecting) =
                handling.replies.length := if_neg plain
            rw [sent]
            exact (congrArg List.length
              (same.responses.trans responses)).trans List.length_append
          · exact same.overwritten ▸ overwritten
  | readFailed error =>
      obtain ⟨-, rfl⟩ := step_readFailed stepped
      have failed :
          SameQueue session { session with reads := session.reads - 1 } :=
        ⟨rfl, rfl, rfl, rfl, rfl, rfl, rfl, rfl⟩
      exact ((failed.trans (afterReadFailed_sameQueue _ error)).trans
        (unlocked_sameQueue _)).counts rfl rfl
  | writeDone ec =>
      obtain ⟨work, works, -, rfl⟩ := step_writeDone counted stepped
      have noted : (session.wrote work ec).history.written.length =
          session.history.written.length +
            completions (session, .writeDone ec) := by
        rw [wrote]
        cases ec <;> simp [completions]
      rcases (session.wrote work ec).afterWrite_queue work.needEof ec with
        same | ⟨-, -, same⟩
      · exact ⟨(congrArg List.length same.written).trans noted,
          congrArg List.length same.responses,
          same.overwritten ▸ List.prefix_refl _⟩
      · have advanced : (session.wrote work ec).advanced.history.written =
              (session.wrote work ec).history.written ∧
            (session.wrote work ec).advanced.history.responses =
              session.history.responses ∧
            (session.wrote work ec).advanced.history.overwritten =
              session.history.overwritten := by
          rw [HttpSession.advanced]
          split <;> exact ⟨rfl, rfl, rfl⟩
        obtain ⟨written, responses, overwritten⟩ := advanced
        exact ⟨(congrArg List.length (same.written.trans written)).trans noted,
          congrArg List.length (same.responses.trans responses),
          (same.overwritten.trans overwritten) ▸ List.prefix_refl _⟩
  | timerExpired =>
      obtain ⟨timer, -, rfl⟩ := step_timerExpired stepped
      exact ⟨rfl, rfl, List.prefix_refl _⟩
  | timerDone ec =>
      obtain ⟨timer, -, rfl⟩ := step_timerDone stepped
      have taken : SameQueue session { session with timer := timer } :=
        ⟨rfl, rfl, rfl, rfl, rfl, rfl, rfl, rfl⟩
      exact ((taken.trans (afterTimer_sameQueue _ ec)).trans
        (unlocked_sameQueue _)).counts rfl rfl
  | doClose =>
      rw [step_doClose stepped]
      exact ⟨rfl, rfl, List.prefix_refl _⟩
  | lateReply work =>
      obtain ⟨-, rfl⟩ := step_lateReply stepped
      have pushed : (session.replied work).history.responses =
            session.history.responses ++ [work] ∧
          (session.replied work).history.written = session.history.written ∧
          (session.replied work).history.overwritten =
            session.history.overwritten ++ session.items.overwritten := by
        rw [replied, answered]
        split
        · split <;> exact ⟨rfl, rfl, rfl⟩
        · exact ⟨rfl, rfl, rfl⟩
      obtain ⟨responses, written, overwritten⟩ := pushed
      exact ⟨congrArg List.length written,
        (congrArg List.length responses).trans List.length_append,
        overwritten ▸ List.prefix_append _ _⟩

/-! ## Handovers -/

/-- Only a request that was read can be an upgrade. -/
theorem step_handovers {event : HttpEvent} {next : HttpSession}
    (counted : session.Counted 0)
    (other : ∀ wire handling connecting,
      event ≠ .requestRead wire handling connecting)
    (stepped : session.step server event = some next) :
    next.history.handovers = session.history.handovers := by
  cases event with
  | requestRead wire handling connecting =>
      exact absurd rfl (other wire handling connecting)
  | readFailed error =>
      obtain ⟨-, rfl⟩ := step_readFailed stepped
      exact (afterReadFailed_sameRequests _ error).handovers
  | writeDone ec =>
      obtain ⟨work, works, -, rfl⟩ := step_writeDone counted stepped
      exact (afterWrite_sameRequests _ work.needEof ec).handovers
  | timerExpired =>
      obtain ⟨timer, -, rfl⟩ := step_timerExpired stepped
      rfl
  | timerDone ec =>
      obtain ⟨timer, -, rfl⟩ := step_timerDone stepped
      exact (afterTimer_sameRequests _ ec).handovers
  | doClose =>
      rw [step_doClose stepped]
      rfl
  | lateReply work =>
      obtain ⟨-, rfl⟩ := step_lateReply stepped
      exact (session.replied_sameRequests work).handovers

/-- An upgrade passes the socket on, and nothing else does. -/
theorem step_handsOver {event : HttpEvent} {next : HttpSession}
    (counted : session.Counted 0)
    (stepped : session.step server event = some next) :
    (∃ wire handling connecting,
        event = .requestRead wire handling connecting ∧ 0 < session.reads ∧
        (session.received wire).Upgrades server ∧
        next.history.handovers =
          session.history.handovers ++ [session.handover]) ∨
      next.history.handovers = session.history.handovers ∧
        ∀ wire handling connecting,
          event = .requestRead wire handling connecting →
          ¬(session.received wire).Upgrades server := by
  by_cases isRead : ∃ wire handling connecting,
      event = .requestRead wire handling connecting
  · obtain ⟨wire, handling, connecting, rfl⟩ := isRead
    obtain ⟨reading, rfl⟩ := step_requestRead counted stepped
    rw [afterRequest]
    split
    · next upgrades =>
        refine .inl ⟨wire, handling, connecting, rfl, reading, upgrades, ?_⟩
        rw [afterConnect]
        split <;> rfl
    · next plain =>
        obtain ⟨-, -, handovers⟩ :=
          (session.received wire).handled_requests handling
        refine .inr ⟨?_, ?_⟩
        · exact (afterHandling_sameRequests _ handling).handovers.trans
            handovers
        · rintro _ _ _ ⟨⟩
          exact plain
  · refine .inr ⟨step_handovers counted ?_ stepped, ?_⟩
    · rintro wire handling connecting rfl
      exact isRead ⟨wire, handling, connecting, rfl⟩
    · rintro wire handling connecting rfl
      exact absurd ⟨wire, handling, connecting, rfl⟩ isRead

/-- After an upgrade nothing is read, and no write resumes the reading. -/
def Ended (session : HttpSession) : Prop :=
  session.history.handovers ≠ [] →
    session.reads = 0 ∧ session.items.items.length < 64

theorem step_room {event : HttpEvent} {next : HttpSession}
    (counted : session.Counted 0) (idle : session.reads = 0)
    (space : session.LeavesSpace event)
    (room : session.items.items.length < 64)
    (stepped : session.step server event = some next) :
    next.items.items.length < 64 := by
  cases event with
  | requestRead wire handling connecting =>
      obtain ⟨reading, -⟩ := step_requestRead counted stepped
      exact absurd idle (Nat.ne_of_gt reading)
  | readFailed error =>
      obtain ⟨reading, -⟩ := step_readFailed stepped
      exact absurd idle (Nat.ne_of_gt reading)
  | writeDone ec =>
      obtain ⟨work, works, -, rfl⟩ := step_writeDone counted stepped
      rcases (session.wrote work ec).afterWrite_items work.needEof ec with
        ⟨-, items⟩ | items
      · exact (congrArg (·.items.length) items).trans_lt room
      · have shorter : ((session.wrote work ec).afterWrite work.needEof
            ec).unlocked.items = session.items.popFront := items
        rw [shorter, RingBuffer.popFront_items, List.length_tail]
        omega
  | timerExpired =>
      obtain ⟨timer, -, rfl⟩ := step_timerExpired stepped
      exact room
  | timerDone ec =>
      obtain ⟨timer, -, rfl⟩ := step_timerDone stepped
      obtain ⟨-, items⟩ := afterTimer_watch
        { session with timer := timer } ec
      exact (congrArg (·.items.length) items).trans_lt room
  | doClose =>
      rw [step_doClose stepped]
      exact room
  | lateReply work =>
      obtain ⟨-, rfl⟩ := step_lateReply stepped
      have some_room : session.items.items.length < 63 := space
      rw [replied_items, RingBuffer.pushBack_length]
      omega

theorem Ended.step {event : HttpEvent} {next : HttpSession}
    (ended : session.Ended) (paced : session.Paced)
    (counted : session.Counted 0) (space : session.LeavesSpace event)
    (stepped : session.step server event = some next) : next.Ended := by
  intro some_handover
  rcases step_handsOver counted stepped with
    ⟨wire, handling, connecting, rfl, reading, upgrades, -⟩ | ⟨same, -⟩
  · obtain ⟨-, rfl⟩ := step_requestRead counted stepped
    have single := paced.single
    have idle : session.reads - 1 = 0 := by omega
    rw [afterRequest, if_pos upgrades, afterConnect]
    split <;> exact ⟨idle, paced.room reading⟩
  · rw [same] at some_handover
    obtain ⟨idle, room⟩ := ended some_handover
    refine ⟨?_, step_room counted idle space room stepped⟩
    have rests : session.resumesReading event = false := by
      rw [← Bool.not_eq_true]
      intro resumes
      obtain ⟨-, full, -⟩ := resumes_eq_true resumes
      exact Nat.not_le_of_gt room ((RingBuffer.isFull_iff _).mp full)
    have most := (step_readsOn counted stepped).bounded rests
    omega

/-- As long as no response that is sent late fills the queue, no request is
read after an upgrade. -/
theorem readsOnly_of_space
    (reached : (httpMachine server).ReachableUnder (fun session event =>
      LeavesAlone event ∧ session.LeavesSpace event) session) :
    (httpMachine server).ReachableUnder ReadsOnly session := by
  have ended := reachable_invariant (fun session => session.Ended ∧
    (httpMachine server).ReachableUnder ReadsOnly session)
    ⟨fun some_handover => absurd rfl some_handover, .initial rfl⟩ ?_ reached
  · exact ended.2
  · intro before event after earlier holds admitted stepped
    obtain ⟨ended, readsOnly⟩ := holds
    obtain ⟨alone, space⟩ := admitted
    have counted := reachable_counted earlier
    have paced := reachable_paced (fun _ _ admitted => admitted.2) earlier
    refine ⟨ended.step paced counted space stepped,
      .step readsOnly ?_ stepped⟩
    cases event with
    | requestRead wire handling connecting =>
        refine ⟨alone, ?_⟩
        obtain ⟨reading, -⟩ := step_requestRead counted stepped
        by_contra some_handover
        exact Nat.ne_of_gt reading (ended some_handover).1
    | readFailed _ | writeDone _ | timerExpired | timerDone _ | doClose
    | lateReply _ => trivial

/-- What the recorded steps have sent and written. -/
structure Tallied (server : HttpServer)
    (recorded : HttpSession × List (HttpSession × HttpEvent)) : Prop where
  written : recorded.1.history.written.length =
    (recorded.2.map completions).sum
  responses : recorded.1.history.responses.length =
    (recorded.2.map (replies server)).sum

theorem tallied_of_reachable
    {recorded : HttpSession × List (HttpSession × HttpEvent)}
    (reached : (httpMachine server).recording.Reachable recorded) :
    Tallied server recorded := by
  apply reached.invariantOver (Tallied server)
  · rintro ⟨_, _⟩ ⟨rfl, rfl⟩
    exact ⟨rfl, rfl⟩
  · intro before event after earlier tallied _ stepped
    obtain ⟨isNext, past⟩ := Machine.recording_step stepped
    have counts := step_counts
      (reachable_counted (Machine.reachable_of_recording earlier)) isNext
    constructor
    · rw [counts.written, tallied.written, past, List.map_cons,
        List.sum_cons, Nat.add_comm]
    · rw [counts.responses, tallied.responses, past, List.map_cons,
        List.sum_cons, Nat.add_comm]

theorem step_clean {before after : HttpSession × List (HttpSession × HttpEvent)}
    {event : HttpEvent}
    (reached : (httpMachine server).recording.Reachable before)
    (stepped : (httpMachine server).recording.step before event =
      some after) :
    after.1.CleanHandovers ↔
      before.1.CleanHandovers ∧ UpgradesLast server before event := by
  obtain ⟨isNext, -⟩ := Machine.recording_step stepped
  have earlier := Machine.reachable_of_recording reached
  have lined := reachable_lined earlier
  obtain ⟨written, responses⟩ := tallied_of_reachable reached
  rcases step_handsOver (reachable_counted earlier) isNext with
    ⟨wire, handling, connecting, rfl, -, upgrades, handovers⟩ |
    ⟨same, plain⟩
  · rw [CleanHandovers, handovers, List.forall_mem_append,
      List.forall_mem_singleton, lined.clean_iff, UpgradesLast, written,
      responses]
    exact and_congr_right fun _ => (imp_iff_right upgrades).symm
  · have admitted : UpgradesLast server before event := by
      cases event with
      | requestRead wire handling connecting =>
          exact fun upgrades => absurd upgrades (plain _ _ _ rfl)
      | readFailed _ | writeDone _ | timerExpired | timerDone _ | doClose
      | lateReply _ => trivial
    rw [CleanHandovers, same]
    exact (and_iff_left admitted).symm

theorem accounted_of_reachable
    (reached : (httpMachine server).Reachable session)
    (none_lost : session.history.overwritten = []) :
    ∀ handover ∈ session.history.handovers, handover.Accounted := by
  revert none_lost
  apply reached.invariantOver fun session =>
    session.history.overwritten = [] →
      ∀ handover ∈ session.history.handovers, handover.Accounted
  · rintro _ rfl _ handover isHandover
    cases isHandover
  · intro before event after earlier accounted _ stepped none_lost
    have counted := reachable_counted earlier
    have overwritten := (step_counts counted stepped).overwritten
    rw [none_lost, List.prefix_nil] at overwritten
    rcases step_handsOver counted stepped with
      ⟨-, -, -, -, reading, -, handovers⟩ | ⟨same, -⟩
    · rw [handovers, List.forall_mem_append, List.forall_mem_singleton]
      have held : before.Held := by
        apply counted.held
        simp only [holders]
        omega
      exact ⟨accounted overwritten, (reachable_lined earlier).begun,
        (reachable_kept earlier).rest held overwritten⟩
    · rw [same]
      exact accounted overwritten

/-- A run passes the socket on with every response written if and only if
each upgrade it reads comes after as many writes as there were responses.
Whatever was not written then, was not lost on the way. -/
theorem cleanHandovers_iff {events : List HttpEvent}
    (ran : (httpMachine server).run started events = some session) :
    (session.CleanHandovers ↔
        (httpMachine server).recording.Admitted (UpgradesLast server)
          (started, []) events) ∧
      (session.history.overwritten = [] →
        ∀ handover ∈ session.history.handovers, handover.Accounted) := by
  have start : (httpMachine server).recording.Reachable (started, []) :=
    .initial ⟨rfl, rfl⟩
  obtain ⟨past, recorded⟩ := Machine.recording_run ran []
  refine ⟨?_, accounted_of_reachable (Machine.reachable_of_run rfl ran)⟩
  have exactly := Machine.run_iff_admitted
    (fun recorded => recorded.1.CleanHandovers)
    (fun before event after => step_clean) start recorded
  have initially : started.CleanHandovers := by
    intro handover isHandover
    cases isHandover
  rw [exactly]
  exact and_iff_right initially

/-- A server with a WebSocket handler that asks for the header fields of an
upgrade. -/
def upgradingServer : HttpServer :=
  { hasWs := true
    isUpgrade := fun request =>
      decide (11 ≤ request.version) && request.method == "GET" &&
        request.fields.contains ("Connection", "Upgrade") &&
        request.fields.contains ("Upgrade", "websocket") }

def upgradeRequest : HttpRequest :=
  ⟨"GET", "/ws", 11,
    [("Host", "localhost"), ("Connection", "Upgrade"),
      ("Upgrade", "websocket")], []⟩

/-- The upgrade is read, and `server_connect` takes the socket. -/
def upgradeRead : HttpEvent :=
  .requestRead upgradeRequest ⟨[], none, false⟩ ⟨true, some .empty, false⟩

/-- An upgrade pipelined behind a request takes the socket away from the
write of the response. -/
theorem not_clean_pipelined :
    ∃ session, (httpMachine upgradingServer).run started
        [readAndReplied (exampleRequest "/a"), upgradeRead] = some session ∧
      session.history.handovers =
        [⟨[exampleResponse], [], [exampleResponse], [exampleResponse], []⟩] ∧
      session.writing = [exampleResponse] ∧ session.socketOpen = false ∧
      ¬session.CleanHandovers := by
  refine ⟨_, rfl, rfl, rfl, rfl, fun clean => ?_⟩
  have handedOver := clean
    ⟨[exampleResponse], [], [exampleResponse], [exampleResponse], []⟩
    List.mem_cons_self
  exact List.cons_ne_nil _ _ handedOver.idle

/-- An upgrade sent after the response was received is clean. -/
def answeredUpgrade : List HttpEvent :=
  [readAndReplied (exampleRequest "/a"), .writeDone none, upgradeRead]

theorem cleanHandovers_iff_answered :
    ∃ session, (httpMachine upgradingServer).run started answeredUpgrade =
        some session ∧
      session.history.handovers.length = 1 ∧
      (httpMachine upgradingServer).recording.Admitted
        (UpgradesLast upgradingServer) (started, []) answeredUpgrade ∧
      ∀ handover ∈ session.history.handovers, handover.Accounted := by
  have ran : (httpMachine upgradingServer).run started answeredUpgrade =
    some _ := rfl
  obtain ⟨exactly, accounted⟩ := cleanHandovers_iff ran
  refine ⟨_, ran, rfl, exactly.mp ?_, accounted rfl⟩
  intro handover isHandover
  cases List.mem_singleton.mp isHandover
  exact ⟨rfl, rfl, rfl⟩

end

end HttpSession

end Webservice
