import Webservice.Http.Timeout

/-!
# Requests on a kept-alive connection

The one `req_` is threaded through every read of a session.  A handler that
only reads its request leaves in it what the next read adds to, so the
requests handed out accumulate the fields and bodies of those before.
-/

namespace Webservice

namespace HttpRequest

/-- The messages that reading `wires` one after the other into `message`
goes through. -/
def readings (message : HttpRequest) : List HttpRequest → List HttpRequest
  | [] => []
  | wire :: wires => message.readInto wire ::
      (message.readInto wire).readings wires

theorem readings_append (message : HttpRequest) (wires : List HttpRequest)
    (wire : HttpRequest) :
    message.readings (wires ++ [wire]) = message.readings wires ++
      [(wires.foldl readInto message).readInto wire] := by
  induction wires generalizing message with
  | nil => rfl
  | cons first rest induction =>
      exact congrArg (message.readInto first :: ·) (induction _)

/-- Nothing of the message is added to what is read into it. -/
def Blank (message : HttpRequest) : Prop :=
  message.fields = [] ∧ message.body = []

instance (message : HttpRequest) : Decidable message.Blank :=
  inferInstanceAs (Decidable (_ ∧ _))

theorem readInto_eq_iff (message wire : HttpRequest) :
    message.readInto wire = wire ↔ message.Blank := by
  constructor
  · intro same
    have fields := congrArg HttpRequest.fields same
    have body := congrArg HttpRequest.body same
    exact ⟨List.append_left_eq_self.mp fields,
      List.append_left_eq_self.mp body⟩
  · rintro ⟨fields, body⟩
    simp only [readInto, fields, body, List.nil_append]

/-- Messages are read as they stand on the wire if and only if all but the
last leave nothing behind. -/
theorem readings_eq_iff (message : HttpRequest) (wires : List HttpRequest) :
    message.readings wires = wires ↔
      (wires ≠ [] → message.Blank) ∧ ∀ wire ∈ wires.dropLast, wire.Blank := by
  induction wires generalizing message with
  | nil => simp [readings]
  | cons first rest induction =>
      rw [readings, List.cons_eq_cons, readInto_eq_iff]
      constructor
      · rintro ⟨blank, others⟩
        rw [(readInto_eq_iff message first).mpr blank] at others
        obtain ⟨isBlank, areBlank⟩ := (induction first).mp others
        refine ⟨fun _ => blank, fun wire isWire => ?_⟩
        cases rest with
        | nil => exact absurd isWire List.not_mem_nil
        | cons second later =>
            rcases List.mem_cons.mp isWire with rfl | isLater
            · exact isBlank (List.cons_ne_nil _ _)
            · exact areBlank wire isLater
      · rintro ⟨blank, areBlank⟩
        have isBlank := blank (List.cons_ne_nil _ _)
        rw [(readInto_eq_iff message first).mpr isBlank]
        refine ⟨isBlank, (induction first).mpr ⟨?_, ?_⟩⟩
        · intro some_later
          apply areBlank
          rw [List.dropLast_cons_of_ne_nil some_later]
          exact List.mem_cons_self
        · intro wire isWire
          apply areBlank
          cases rest with
          | nil => exact absurd isWire List.not_mem_nil
          | cons second later => exact List.mem_cons_of_mem _ isWire

end HttpRequest

namespace HttpSession

/-- The request handler leaves the request alone. -/
def LeavesAlone : HttpEvent → Prop
  | .requestRead _ handling _ => handling.leaves = none
  | _ => True

/-- The request handler leaves the request alone, and no request is read
after an upgrade. -/
def ReadsOnly (session : HttpSession) : HttpEvent → Prop
  | .requestRead _ handling _ =>
      handling.leaves = none ∧ session.history.handovers = []
  | _ => True

instance (session : HttpSession) (event : HttpEvent) :
    Decidable (session.ReadsOnly event) :=
  match event with
  | .requestRead _ _ _ => inferInstanceAs (Decidable (_ ∧ _))
  | .readFailed _ | .writeDone _ | .timerExpired | .timerDone _ | .doClose
  | .lateReply _ => .isTrue trivial

/-- The requests on the wire that the request handler was called for. -/
def requests (session : HttpSession) : List HttpRequest :=
  session.history.wire.take session.history.handled.length

structure Threaded (session : HttpSession) : Prop where
  passed : session.history.handled.map Prod.fst =
    HttpRequest.empty.readings session.requests
  reading : session.history.handovers = [] →
    session.history.handled.length = session.history.wire.length ∧
      session.req =
        session.history.wire.foldl HttpRequest.readInto .empty

/-- The request and its history are the same. -/
structure SameRequests (before after : HttpSession) : Prop where
  req : after.req = before.req
  wire : after.history.wire = before.history.wire
  handled : after.history.handled = before.history.handled
  handovers : after.history.handovers = before.history.handovers

section

variable {session : HttpSession}

theorem SameRequests.trans {before middle after : HttpSession}
    (first : SameRequests before middle)
    (second : SameRequests middle after) : SameRequests before after :=
  ⟨second.req.trans first.req, second.wire.trans first.wire,
    second.handled.trans first.handled,
    second.handovers.trans first.handovers⟩

theorem Threaded.congr {after : HttpSession} (threaded : session.Threaded)
    (same : SameRequests session after) : after.Threaded := by
  obtain ⟨req, wire, handled, handovers⟩ := same
  constructor
  · rw [requests, handled, wire]
    exact threaded.passed
  · rw [handovers, handled, wire, req]
    exact threaded.reading

theorem Threaded.unlocked (threaded : session.Threaded) :
    session.unlocked.Threaded :=
  ⟨threaded.passed, threaded.reading⟩

theorem resumed_sameRequests (session : HttpSession) :
    SameRequests session session.resumed := by
  rw [resumed]
  split <;> exact ⟨rfl, rfl, rfl, rfl⟩

theorem answered_sameRequests (session : HttpSession)
    (work : HttpResponse) : SameRequests session (session.answered work) := by
  rw [answered]
  split <;> exact ⟨rfl, rfl, rfl, rfl⟩

theorem answeredAll_sameRequests (session : HttpSession)
    (works : List HttpResponse) :
    SameRequests session (session.answeredAll works) := by
  induction works generalizing session with
  | nil => exact ⟨rfl, rfl, rfl, rfl⟩
  | cons work works induction =>
      exact (session.answered_sameRequests work).trans (induction _)

theorem replied_sameRequests (session : HttpSession) (work : HttpResponse) :
    SameRequests session (session.replied work) := by
  rw [replied]
  split
  · exact session.answered_sameRequests work
  · exact ⟨rfl, rfl, rfl, rfl⟩

/-- A call of the request handler is noted with the request it was passed. -/
theorem handled_requests (session : HttpSession) (handling : HandlerRun) :
    (session.handled handling).history.handled =
        session.history.handled ++ [(session.req, handling.replies)] ∧
      (session.handled handling).history.wire = session.history.wire ∧
      (session.handled handling).history.handovers =
        session.history.handovers := by
  obtain ⟨-, wire, handled, handovers⟩ :=
    answeredAll_sameRequests (session.called handling) handling.replies
  exact ⟨handled, wire, handovers⟩

theorem advanced_sameRequests (session : HttpSession) :
    SameRequests session session.advanced := by
  rw [advanced]
  split <;> exact ⟨rfl, rfl, rfl, rfl⟩

theorem afterHandling_sameRequests (session : HttpSession)
    (handling : HandlerRun) :
    SameRequests (session.handled handling)
      (session.afterHandling handling) := by
  rw [afterHandling]
  split
  · exact ⟨rfl, rfl, rfl, rfl⟩
  · split
    · exact ⟨rfl, rfl, rfl, rfl⟩
    · exact resumed_sameRequests _

theorem afterWrite_sameRequests (session : HttpSession) (close : Bool)
    (ec : Option ErrorCode) :
    SameRequests session (session.afterWrite close ec) := by
  cases ec with
  | some ec => cases ec <;> exact ⟨rfl, rfl, rfl, rfl⟩
  | none =>
      have advanced := session.advanced_sameRequests
      rw [afterWrite]
      split
      · exact ⟨rfl, rfl, rfl, rfl⟩
      · split
        · exact advanced.trans (resumed_sameRequests _)
        · exact advanced

theorem afterReadFailed_sameRequests (session : HttpSession)
    (error : ReadError) :
    SameRequests session (session.afterReadFailed error) := by
  cases error with
  | endOfStream => exact ⟨rfl, rfl, rfl, rfl⟩
  | code ec => cases ec <;> exact ⟨rfl, rfl, rfl, rfl⟩

theorem afterTimer_sameRequests (session : HttpSession)
    (ec : Option ErrorCode) :
    SameRequests session (session.afterTimer ec) := by
  cases ec with
  | none => exact ⟨rfl, rfl, rfl, rfl⟩
  | some ec => cases ec <;> exact ⟨rfl, rfl, rfl, rfl⟩

theorem requests_eq_wire
    (same : session.history.handled.length = session.history.wire.length) :
    session.requests = session.history.wire := by
  rw [requests, same, List.take_length]

/-- A request is read into what the reads before have left. -/
theorem Threaded.handled (threaded : session.Threaded)
    (reading : session.history.handovers = []) (wire : HttpRequest)
    {handling : HandlerRun} (leaves : handling.leaves = none) :
    ((session.received wire).handled handling).Threaded := by
  obtain ⟨same, req⟩ := threaded.reading reading
  obtain ⟨stillHandled, stillWire, -⟩ :=
    (session.received wire).handled_requests handling
  have handled : ((session.received wire).handled handling).history.handled =
      session.history.handled ++
        [(session.req.readInto wire, handling.replies)] :=
    stillHandled
  have wires : ((session.received wire).handled handling).history.wire =
      session.history.wire ++ [wire] :=
    stillWire
  have request : ((session.received wire).handled handling).req =
      session.req.readInto wire := by
    rw [HttpSession.handled, leaves]
    exact (answeredAll_sameRequests _ handling.replies).req
  have counts : (session.history.handled ++
      [(session.req.readInto wire, handling.replies)]).length =
        (session.history.wire ++ [wire]).length := by
    rw [List.length_append, List.length_append, same]
    rfl
  constructor
  · have passed := threaded.passed
    rw [requests_eq_wire same] at passed
    rw [requests_eq_wire (by rw [handled, wires, counts]), handled, wires,
      List.map_append, passed, HttpRequest.readings_append, ← req]
    rfl
  · intro _
    refine ⟨by rw [handled, wires, counts], ?_⟩
    rw [request, wires, List.foldl_append, ← req]
    rfl

/-- An upgrade is not passed to the request handler. -/
theorem Threaded.handedOver (threaded : session.Threaded)
    (reading : session.history.handovers = []) (wire : HttpRequest)
    (connecting : ConnectRun) :
    ((session.received wire).afterConnect connecting).Threaded := by
  obtain ⟨same, -⟩ := threaded.reading reading
  have requested : (session.history.wire ++ [wire]).take
      session.history.handled.length = session.requests := by
    rw [List.take_append_of_le_length (Nat.le_of_eq same), requests]
  have passedOn : ((session.received wire).handedOver connecting).Threaded := by
    constructor
    · have passed := threaded.passed
      rw [← requested] at passed
      exact passed
    · intro nothing
      exact absurd nothing (List.append_ne_nil_of_right_ne_nil _
        (List.cons_ne_nil _ _))
  rw [afterConnect]
  split
  · exact passedOn.congr ⟨rfl, rfl, rfl, rfl⟩
  · exact passedOn.congr ⟨rfl, rfl, rfl, rfl⟩

variable {server : HttpServer}

theorem Threaded.step {event : HttpEvent} {next : HttpSession}
    (threaded : session.Threaded) (counted : session.Counted 0)
    (readsOnly : session.ReadsOnly event)
    (stepped : session.step server event = some next) : next.Threaded := by
  cases event with
  | requestRead wire handling connecting =>
      obtain ⟨-, rfl⟩ := step_requestRead counted stepped
      obtain ⟨leaves, reading⟩ := readsOnly
      rw [afterRequest]
      split
      · exact (threaded.handedOver reading wire connecting).unlocked
      · have handled := threaded.handled reading wire leaves
        exact (handled.congr (afterHandling_sameRequests _ handling)).unlocked
  | readFailed error =>
      obtain ⟨-, rfl⟩ := step_readFailed stepped
      have failed : Threaded { session with reads := session.reads - 1 } :=
        threaded.congr ⟨rfl, rfl, rfl, rfl⟩
      exact (failed.congr (afterReadFailed_sameRequests _ error)).unlocked
  | writeDone ec =>
      obtain ⟨work, works, -, rfl⟩ := step_writeDone counted stepped
      have wrote : (session.wrote work ec).Threaded :=
        threaded.congr ⟨rfl, rfl, rfl, rfl⟩
      exact (wrote.congr
        (afterWrite_sameRequests _ work.needEof ec)).unlocked
  | timerExpired =>
      obtain ⟨timer, -, rfl⟩ := step_timerExpired stepped
      exact threaded.congr ⟨rfl, rfl, rfl, rfl⟩
  | timerDone ec =>
      obtain ⟨timer, -, rfl⟩ := step_timerDone stepped
      have taken : Threaded { session with timer := timer } :=
        threaded.congr ⟨rfl, rfl, rfl, rfl⟩
      exact (taken.congr (afterTimer_sameRequests _ ec)).unlocked
  | doClose =>
      rw [step_doClose stepped]
      exact threaded.congr ⟨rfl, rfl, rfl, rfl⟩
  | lateReply work =>
      obtain ⟨-, rfl⟩ := step_lateReply stepped
      exact threaded.congr (session.replied_sameRequests work)

theorem started_threaded : started.Threaded := by
  constructor <;> decide

theorem reachable_threaded
    (reached : (httpMachine server).ReachableUnder ReadsOnly session) :
    session.Threaded :=
  reachable_invariant Threaded started_threaded
    (fun _ _ _ earlier threaded readsOnly stepped =>
      threaded.step (reachable_counted earlier) readsOnly stepped)
    reached

/-- The request handler is given the requests as they stood on the wire if
and only if all of them but the last have neither fields nor a body. -/
theorem isolated_iff
    (reached : (httpMachine server).ReachableUnder ReadsOnly session) :
    session.history.handled.map Prod.fst =
        session.history.wire.take session.history.handled.length ↔
      ∀ request ∈ (session.history.wire.take
          session.history.handled.length).dropLast,
        request.fields = [] ∧ request.body = [] := by
  rw [(reachable_threaded reached).passed, requests,
    HttpRequest.readings_eq_iff]
  constructor
  · exact And.right
  · exact fun areBlank => ⟨fun _ => ⟨rfl, rfl⟩, areBlank⟩

def exampleResponse : HttpResponse := ⟨[1], false⟩

/-- A request is read, and the handler replies at once. -/
def readAndReplied (wire : HttpRequest) : HttpEvent :=
  .requestRead wire ⟨[exampleResponse], none, false⟩ ⟨false, none, false⟩

/-- A request as a browser sends it. -/
def exampleRequest (target : String) : HttpRequest :=
  ⟨"GET", target, 11, [("Host", "localhost")], []⟩

/-- The second request on a connection is handed out with the fields of the
first. -/
theorem not_isolated_second :
    ∃ session, (httpMachine plainServer).run started
        [readAndReplied (exampleRequest "/a"), .writeDone none,
          readAndReplied (exampleRequest "/b")] = some session ∧
      session.history.wire = [exampleRequest "/a", exampleRequest "/b"] ∧
      session.history.handled.map Prod.fst =
        [exampleRequest "/a",
          { exampleRequest "/b" with
            fields := [("Host", "localhost"), ("Host", "localhost")] }] ∧
      session.history.handled.map Prod.fst ≠
        session.history.wire.take session.history.handled.length :=
  ⟨_, rfl, rfl, rfl, by decide⟩

/-- Behind a request without fields and without a body, the next one is
handed out as it was sent. -/
theorem isolated_iff_bare :
    ∃ session, (httpMachine plainServer).run started
        [readAndReplied ⟨"GET", "/a", 11, [], []⟩,
          readAndReplied (exampleRequest "/b")] = some session ∧
      session.history.handled.map Prod.fst =
        [⟨"GET", "/a", 11, [], []⟩, exampleRequest "/b"] := by
  have ran : (httpMachine plainServer).run started
    [readAndReplied ⟨"GET", "/a", 11, [], []⟩,
      readAndReplied (exampleRequest "/b")] = some _ := rfl
  have readsOnly : (httpMachine plainServer).Admitted ReadsOnly started
      [readAndReplied ⟨"GET", "/a", 11, [], []⟩,
        readAndReplied (exampleRequest "/b")] :=
    Machine.admitted_of_checks (fun _ _ => of_decide_eq_true) rfl
  refine ⟨_, ran, ?_⟩
  have reached := Machine.reachableUnder_of_run rfl readsOnly ran
  exact (isolated_iff reached).mpr (by decide)

end

end HttpSession

end Webservice
