import Webservice.Service.Lifetime

/-!
# What a shutdown does to the sessions

The job of `on_shutdown` asks every session in the map to close, and no
session comes in after it.  A session that was asked knows why it closes or
has the request on its strand, as long as no request is carried out while the
handshake is in flight.
-/

namespace Webservice

/-- The loop at this stage has called the session at the address. -/
def Stage.past (address : Nat) : Stage → Prop
  | .visiting loop => address < loop.cursor.session
  | .called _ (some loop) => address ≤ loop.cursor.session
  | .inlined _ (some loop) => address ≤ loop.cursor.session
  | .left loop => address ≤ loop.cursor.session
  | _ => False

theorem Stage.past_afterCall {address : Nat} {target : WsIdentifier}
    {loop : Option Loop} (past : (Stage.afterCall loop).past address) :
    (Stage.called target loop).past address := by
  cases loop with
  | none => exact past
  | some loop => exact past

namespace Registry

variable {Value : Type} {rules : Registry Value → Move → Prop}
  {registry before after : Registry Value} {job : ServiceJob Value}
  {stage stage' : Stage} {rest : List (Activation Value)}

/-! ## No session comes in late -/

/-- The job of `on_shutdown` runs or has run. -/
def Begun (registry : Registry Value) : Prop :=
  registry.shutdown = true ∨
    ∃ activation ∈ registry.stack, activation.job.isShutdown = true

theorem begun_toStage (top : registry.stack = ⟨job, stage⟩ :: rest) :
    (registry.toStage job stage' rest).Begun ↔ registry.Begun := by
  simp [Begun, toStage, top]

theorem begun_put {inline : Bool} (notShutdown : job.isShutdown = false) :
    (registry.put job inline).Begun ↔ registry.Begun := by
  cases inline <;> simp [Begun, put, notShutdown]

/-- A shutdown is announced before its job is queued: no session has been
admitted since, and the job meets none that was. -/
structure Announced (registry : Registry Value) : Prop where
  callers : ∀ caller ∈ registry.callers, caller ≠ .exchanging →
    registry.runLock = false
  queued : ∀ job ∈ registry.queue, job.isShutdown = true →
    registry.runLock = false
  begun : registry.Begun → registry.runLock = false
  closed : registry.Begun →
    ∀ activation ∈ registry.stack, activation.stage ≠ .admitted

theorem Announced.of_runLock (runLock : registry.runLock = false)
    (closed : registry.Begun →
      ∀ activation ∈ registry.stack, activation.stage ≠ .admitted) :
    registry.Announced :=
  ⟨fun _ _ _ => runLock, fun _ _ _ => runLock, fun _ => runLock, closed⟩

theorem Announced.put {inline : Bool} (announced : registry.Announced)
    (notShutdown : job.isShutdown = false) :
    (registry.put job inline).Announced := by
  have begun : (registry.put job inline).Begun → registry.Begun :=
    (begun_put notShutdown).mp
  cases inline with
  | false =>
      refine ⟨announced.callers, ?_, fun isBegun =>
        announced.begun (begun isBegun), fun isBegun =>
        announced.closed (begun isBegun)⟩
      refine List.forall_mem_append.mpr
        ⟨announced.queued, List.forall_mem_singleton.mpr ?_⟩
      intro isShutdown
      simp [notShutdown] at isShutdown
  | true =>
      refine ⟨announced.callers, announced.queued, fun isBegun =>
        announced.begun (begun isBegun), fun isBegun => ?_⟩
      exact List.forall_mem_cons.mpr
        ⟨by simp, announced.closed (begun isBegun)⟩

theorem Announced.putNoexcept {inline : Bool}
    (announced : registry.Announced) (notShutdown : job.isShutdown = false) :
    (registry.putNoexcept job inline).Announced := by
  unfold Registry.putNoexcept
  split
  · exact ⟨announced.callers, announced.queued, announced.begun,
      announced.closed⟩
  · exact announced.put notShutdown

theorem Announced.stepped {address : Nat} {resident : Resident}
    {next : WsSession} {inline : Bool} (announced : registry.Announced) :
    (registry.stepped address resident next inline).Announced := by
  have updated : (registry.update address
      (some ⟨resident.number, next⟩)).Announced :=
    ⟨announced.callers, announced.queued, announced.begun, announced.closed⟩
  unfold Registry.stepped
  split
  · exact updated.putNoexcept rfl
  · exact updated

theorem Announced.toStage (announced : registry.Announced)
    (top : registry.stack = ⟨job, stage⟩ :: rest)
    (needed : stage' = .admitted → registry.runLock = true) :
    (registry.toStage job stage' rest).Announced := by
  have begun : (registry.toStage job stage' rest).Begun → registry.Begun :=
    (begun_toStage top).mp
  refine ⟨announced.callers, announced.queued, fun isBegun =>
    announced.begun (begun isBegun), fun isBegun => ?_⟩
  have closed := announced.closed (begun isBegun)
  rw [top] at closed
  refine List.forall_mem_cons.mpr
    ⟨fun isAdmitted => ?_, (List.forall_mem_cons.mp closed).2⟩
  have shut := announced.begun (begun isBegun)
  simp [needed isAdmitted] at shut

/-- A stage at which no session is admitted. -/
theorem Announced.moved (announced : registry.Announced)
    (top : registry.stack = ⟨job, stage⟩ :: rest)
    (plain : stage' ≠ .admitted) :
    (registry.toStage job stage' rest).Announced :=
  announced.toStage top fun isAdmitted => absurd isAdmitted plain

theorem Announced.shutdownFinished (announced : registry.Announced)
    (size : Nat) : (registry.shutdownFinished size).Announced := by
  unfold Registry.shutdownFinished
  split <;>
    exact ⟨announced.callers, announced.queued, announced.begun,
      announced.closed⟩

/-- A call of `shutdown()` that has taken the lock comes to its next step. -/
theorem Announced.callerMoves (announced : before.Announced)
    (moves : before.CallerMoves after) : after.Announced := by
  have called : ∀ {index : Nat} {caller : ShutdownCall},
      before.callers[index]? = some caller → caller ≠ .exchanging →
      before.runLock = false := by
    intro index caller found
    exact announced.callers caller (List.mem_of_getElem? found)
  cases moves with
  | exchanged caller => exact .of_runLock rfl announced.closed
  | stored caller => exact .of_runLock (called caller (by simp)) announced.closed
  | locked caller locked =>
      exact .of_runLock (called caller (by simp)) announced.closed
  | unlocked caller unlocked =>
      exact .of_runLock (called caller (by simp)) announced.closed
  | deferred caller =>
      have shut := called caller (by simp)
      unfold Registry.putNoexcept
      split
      · exact .of_runLock shut announced.closed
      · exact .of_runLock shut announced.closed

theorem Announced.step (announced : before.Announced)
    (step : Step rules before after) : after.Announced := by
  cases step with
  | called callable held free => exact announced.put callable.plain.2
  | shutdownCalled unlocked allowed =>
      refine ⟨?_, announced.queued, announced.begun, announced.closed⟩
      exact List.forall_mem_append.mpr ⟨announced.callers,
        List.forall_mem_singleton.mpr fun isOther => absurd rfl isOther⟩
  | callerMoved moves => exact announced.callerMoves moves
  | sessionMoved found stepped byIoThread free allowed =>
      exact announced.stepped
  | @entered job jobs empty queued =>
      have shut := announced.queued
      rw [queued] at shut
      obtain ⟨first, others⟩ := List.forall_mem_cons.mp shut
      refine ⟨announced.callers, others, fun isBegun => ?_, fun _ => ?_⟩
      · rcases isBegun with isShutdown | ⟨activation, isThere, isShutdown⟩
        · exact announced.begun (.inl isShutdown)
        · obtain rfl := List.mem_singleton.mp isThere
          exact first isShutdown
      · exact List.forall_mem_singleton.mpr (by simp)
  | moved top moves =>
      refine announced.toStage top fun isAdmitted => ?_
      subst isAdmitted
      exact moves.runLock_of_admitted
  | @dispatched job stage rest target loop _ _ _ top calls handed found _ =>
      have moved : (before.toStage job (.called target loop)
          rest).Announced := announced.moved top (by simp)
      exact ⟨moved.callers, moved.queued, moved.begun, moved.closed⟩
  | wentOn top goesOn found stepped allowed =>
      exact (announced.moved top goesOn.ne_admitted).stepped
  | @loopEnded job loop rest shutdown top atCursor last flag =>
      have moved := announced.moved top Stage.finished_ne_admitted
      have begun : Begun { before.toStage job .finished rest with
          loops := before.loops ++ [loop], shutdown := shutdown } →
          (before.toStage job .finished rest).Begun := by
        rintro (isShutdown | running)
        · simp only [flag, Bool.or_eq_true] at isShutdown
          rcases isShutdown with earlier | isShutdown
          · exact .inl earlier
          · exact .inr ⟨_, List.mem_cons_self, isShutdown⟩
        · exact .inr running
      exact ⟨moved.callers, moved.queued, fun isBegun =>
        moved.begun (begun isBegun), fun isBegun =>
        moved.closed (begun isBegun)⟩
  | missed top missing =>
      have moved := announced.moved top Stage.finished_ne_admitted
      exact ⟨moved.callers, moved.queued, moved.begun, moved.closed⟩
  | @erased identifier rest resident inLoop top found isInLoop =>
      have moved : (before.toStage (.onErase identifier) .erased
          rest).Announced := announced.moved top (by simp)
      exact ⟨moved.callers, moved.queued, moved.begun, moved.closed⟩
  | @foundEmpty rest top empty =>
      have isBegun : before.Begun := .inr ⟨_, by rw [top]; exact .head _, rfl⟩
      have moved := (announced.shutdownFinished 0).moved
        ((shutdownFinished_stack _ _).trans top) Stage.finished_ne_admitted
      have begun : ((before.shutdownFinished 0).toStage .onShutdown .finished
          rest).Begun := .inr ⟨_, List.mem_cons_self, rfl⟩
      exact .of_runLock (moved.begun begun) fun _ => moved.closed begun
  | finished top empty flag =>
      exact (announced.shutdownFinished 0).moved
        ((shutdownFinished_stack _ _).trans top) Stage.finished_ne_admitted
  | @emplaced job rest role address top connects fresh =>
      have moved : (before.toStage job (.starting
          ⟨address, before.created.length⟩) rest).Announced :=
        announced.moved top (by simp)
      exact ⟨moved.callers, moved.queued, moved.begun, moved.closed⟩
  | @ended job rest top =>
      have begun : Begun { before with
          stack := rest, lockCount := before.lockCount - 1 } →
          before.Begun := by
        rintro (isShutdown | ⟨activation, isThere, isShutdown⟩)
        · exact .inl isShutdown
        · refine .inr ⟨activation, ?_, isShutdown⟩
          rw [top]
          exact List.mem_cons_of_mem _ isThere
      refine ⟨announced.callers, announced.queued, fun isBegun =>
        announced.begun (begun isBegun), fun isBegun => ?_⟩
      have closed := announced.closed (begun isBegun)
      rw [top] at closed
      exact (List.forall_mem_cons.mp closed).2

theorem announced_of_reachable {registry : Registry Value}
    (reached : Reachable rules registry) : registry.Announced := by
  refine reached.invariantOver Announced ?_ ?_
  · exact ⟨by simp [constructed], by simp [constructed],
      by simp [Begun, constructed], by simp [constructed]⟩
  · exact fun before after earlier announced step => announced.step step

/-- A session is put into the map only before the job of `on_shutdown`
begins. -/
theorem Announced.not_begun (announced : registry.Announced)
    (top : registry.stack = ⟨job, .admitted⟩ :: rest) : ¬registry.Begun := by
  intro begun
  apply announced.closed begun ⟨job, .admitted⟩
  · rw [top]
    exact List.mem_cons_self
  · rfl

/-! ## Every session is asked -/

/-- The shutdown has asked the session at the address, if there is one. -/
def Asked (registry : Registry Value) (address : Nat) : Prop :=
  registry.shutdown = true ∨ ∃ activation ∈ registry.stack,
    activation.job.isShutdown = true ∧ activation.stage.past address

theorem Asked.begun {address : Nat} (asked : registry.Asked address) :
    registry.Begun := by
  rcases asked with isShutdown | ⟨activation, isThere, isShutdown, -⟩
  · exact .inl isShutdown
  · exact .inr ⟨activation, isThere, isShutdown⟩

theorem asked_put {address : Nat} {inline : Bool} :
    (registry.put job inline).Asked address ↔ registry.Asked address := by
  cases inline <;> simp [Asked, put, Stage.past]

theorem asked_putNoexcept {address : Nat} {inline : Bool} :
    (registry.putNoexcept job inline).Asked address ↔
      registry.Asked address := by
  unfold putNoexcept
  split
  · exact Iff.rfl
  · exact asked_put

theorem asked_stepped {address other : Nat} {resident : Resident}
    {next : WsSession} {inline : Bool} :
    (registry.stepped address resident next inline).Asked other ↔
      registry.Asked other := by
  unfold stepped
  split
  · exact asked_putNoexcept
  · exact Iff.rfl

theorem asked_toStage {address : Nat}
    (top : registry.stack = ⟨job, stage⟩ :: rest)
    (asked : (registry.toStage job stage' rest).Asked address) :
    registry.Asked address ∨
      job.isShutdown = true ∧ stage'.past address := by
  rcases asked with isShutdown | ⟨activation, isThere, asks⟩
  · exact .inl (.inl isShutdown)
  · rcases List.mem_cons.mp isThere with rfl | below
    · exact .inr asks
    · refine .inl (.inr ⟨activation, ?_, asks⟩)
      rw [top]
      exact List.mem_cons_of_mem _ below

theorem asked_of_past {address : Nat}
    (top : registry.stack = ⟨job, stage⟩ :: rest)
    (isShutdown : job.isShutdown = true) (past : stage.past address) :
    registry.Asked address := by
  refine .inr ⟨⟨job, stage⟩, ?_, isShutdown, past⟩
  rw [top]
  exact List.mem_cons_self

/-- No request to close is carried out by a session that the shutdown has
asked while its handshake is in flight. -/
def Heeds (registry : Registry Value) : Move → Prop
  | .session address event => registry.Asked address →
      ∀ resident, registry.residents address = some resident →
        resident.session.swallowsClose event = false
  | .enterShutdown => True

/-- Every session that the shutdown has asked is about to close. -/
def Asks (registry : Registry Value) : Prop :=
  ∀ address resident, registry.residents address = some resident →
    registry.Asked address → resident.session.CloseRequested

theorem Asks.mono (asks : before.Asks)
    (residents : after.residents = before.residents)
    (fewer : ∀ address, after.Asked address → before.Asked address) :
    after.Asks := by
  intro address resident found asked
  rw [residents] at found
  exact asks address resident found (fewer address asked)

theorem Asks.of_empty (empty : registry.Empty) : registry.Asks := by
  intro address resident found
  rw [empty address] at found
  cases found

theorem shutdownFinished_empty {size : Nat} (empty : registry.Empty) :
    (registry.shutdownFinished size).Empty := by
  intro address
  have residents := congrArg Roster.residents
    (aside_roster.shutdownFinished registry size)
  exact (congrFun residents address).trans (empty address)

theorem Asks.put {inline : Bool} (asks : registry.Asks) :
    (registry.put job inline).Asks := by
  refine asks.mono ?_ fun _ => asked_put.mp
  exact congrArg Roster.residents (aside_roster.put registry job inline)

/-- The loop has asked the sessions that it has come past. -/
theorem Asks.toStage (asks : registry.Asks)
    (top : registry.stack = ⟨job, stage⟩ :: rest)
    (moved : job.isShutdown = true → ∀ address resident,
      registry.residents address = some resident → stage'.past address →
      stage.past address) :
    (registry.toStage job stage' rest).Asks := by
  intro address resident found asked
  apply asks address resident found
  rcases asked_toStage top asked with earlier | ⟨isShutdown, past⟩
  · exact earlier
  · exact asked_of_past top isShutdown
      (moved isShutdown address resident found past)

/-- A stage that asks nobody. -/
theorem Asks.moved (asks : registry.Asks)
    (top : registry.stack = ⟨job, stage⟩ :: rest)
    (plain : ∀ address, ¬stage'.past address) :
    (registry.toStage job stage' rest).Asks :=
  asks.toStage top fun _ address _ _ past => absurd past (plain address)

theorem Asks.stepped {address : Nat} {resident : Resident}
    {next : WsSession} {inline : Bool} (asks : registry.Asks)
    (requested : registry.Asked address → next.CloseRequested) :
    (registry.stepped address resident next inline).Asks := by
  intro other resident' found asked
  rw [asked_stepped] at asked
  have residents := congrArg Roster.residents
    (aside_roster.stepped registry address resident next inline)
  have found : (registry.update address
      (some ⟨resident.number, next⟩)).residents other = some resident' :=
    (congrFun residents other).symm.trans found
  rcases Roster.update_eq_some.mp found with ⟨rfl, same⟩ | ⟨-, same⟩
  · cases same
    exact requested asked
  · exact asks other resident' same asked

/-- A session that was asked takes a step. -/
theorem Asks.requested {address : Nat} {event : SessionEvent}
    {resident : Resident} {next : WsSession} (asks : registry.Asks)
    (sound : registry.roster.Sound)
    (found : registry.residents address = some resident)
    (stepped : resident.session.step event = some next)
    (heeded : registry.Heeds (.session address event))
    (asked : registry.Asked address) : next.CloseRequested :=
  WsSession.step_closeRequested (sound.reached found)
    (asks address resident found asked) (heeded asked resident found) stepped

/-- The iterator of a loop leaves no session out. -/
theorem Moves.past (moves : registry.Moves job stage stage')
    (isShutdown : job.isShutdown = true) {address : Nat}
    {resident : Resident}
    (found : registry.residents address = some resident)
    (past : stage'.past address) : stage.past address := by
  have isThere : address ∈ registry.addresses := by
    simp [addresses, found]
  cases moves with
  | startLoop handed everyone atCursor least present =>
      exact absurd (least.2 isThere) (Nat.not_le_of_gt past)
  | passed notShutdown atCursor =>
      simp [notShutdown] at isShutdown
  | skipped => exact Stage.past_afterCall past
  | @advanced loop cursor atCursor atNext least =>
      apply Nat.le_of_not_gt
      intro ahead
      exact absurd (least.2 ⟨isThere, ahead⟩) (Nat.not_le_of_gt past)
  | nothing => exact past
  | erasing => exact past
  | admitted => exact past
  | refused => exact past
  | concluded => exact past

theorem GoesOn.past {target : WsIdentifier} {event : SessionEvent}
    (goesOn : GoesOn stage target event stage') {address : Nat}
    (past : stage'.past address) : stage.past address := by
  cases goesOn with
  | @ran target loop =>
      cases loop with
      | none => exact past
      | some loop => exact past
  | @released target loop =>
      cases loop with
      | none => exact past
      | some loop => exact past
  | started => exact past

/-- The body of the loop asks the session at the iterator. -/
theorem Asks.dispatched {target : WsIdentifier} {loop : Option Loop}
    {strandJob : StrandJob} {resident : Resident} {next : WsSession}
    (asks : registry.Asks) (sound : registry.roster.Sound)
    (top : registry.stack = ⟨job, stage⟩ :: rest)
    (calls : registry.Calls job stage target loop)
    (handed : job.strandJob? = some strandJob)
    (found : registry.residents target.session = some resident)
    (stepped : resident.session.step (.dispatch strandJob) = some next) :
    ((registry.toStage job (.called target loop) rest).update
      target.session (some ⟨resident.number, next⟩)).Asks := by
  intro other resident' found' asked
  have asked := asked_toStage top asked
  rcases Roster.update_eq_some.mp found' with ⟨rfl, same⟩ | ⟨different, same⟩
  · cases same
    rcases asked with earlier | ⟨isShutdown, -⟩
    · exact WsSession.step_closeRequested (sound.reached found)
        (asks _ resident found earlier) rfl stepped
    · cases job with
      | onShutdown =>
          cases handed
          exact WsSession.dispatch_closeRequested (sound.reached found) stepped
      | _ => cases isShutdown
  · apply asks other resident' same
    rcases asked with earlier | ⟨isShutdown, past⟩
    · exact earlier
    · refine asked_of_past top isShutdown ?_
      cases calls with
      | act isAbout => exact past
      | visit everyone atCursor => exact Nat.lt_of_le_of_ne past different

theorem Asks.step (asks : before.Asks) (sound : before.roster.Sound)
    (announced : before.Announced) (step : Step Heeds before after) :
    after.Asks := by
  cases step with
  | called callable held free => exact asks.put
  | shutdownCalled unlocked allowed => exact asks
  | callerMoved moves =>
      refine asks.mono ?_ ?_
      · exact congrArg Roster.residents (aside_roster.callerMoves moves)
      · intro address asked
        cases moves with
        | deferred caller => exact asked_putNoexcept.mp asked
        | _ => exact asked
  | sessionMoved found stepped byIoThread free allowed =>
      exact asks.stepped (asks.requested sound found stepped allowed)
  | @entered job jobs empty queued =>
      refine asks.mono rfl fun address asked => ?_
      rcases asked with isShutdown | ⟨activation, isThere, -, past⟩
      · exact .inl isShutdown
      · obtain rfl := List.mem_singleton.mp isThere
        exact past.elim
  | moved top moves =>
      exact asks.toStage top fun isShutdown address resident found past =>
        moves.past isShutdown found past
  | dispatched top calls handed found stepped =>
      exact asks.dispatched sound top calls handed found stepped
  | wentOn top goesOn found stepped allowed =>
      refine (asks.toStage top fun _ _ _ _ => goesOn.past).stepped ?_
      intro asked
      apply asks.requested sound found stepped allowed
      rcases asked_toStage top asked with earlier | ⟨isShutdown, past⟩
      · exact earlier
      · exact asked_of_past top isShutdown (goesOn.past past)
  | @loopEnded job loop rest shutdown top atCursor last flag =>
      intro address resident found asked
      apply asks address resident found
      rcases asked with isShutdown | ⟨activation, isThere, asked⟩
      · simp only [flag, Bool.or_eq_true] at isShutdown
        rcases isShutdown with earlier | isShutdown
        · exact .inl earlier
        · refine asked_of_past top isShutdown (last address ?_)
          have found : before.residents address = some resident := found
          simp [addresses, found]
      · rcases asked_toStage top (.inr ⟨activation, isThere, asked⟩) with
          earlier | ⟨-, past⟩
        · exact earlier
        · exact past.elim
  | missed top missing =>
      have moved : (before.toStage _ .finished _).Asks :=
        asks.moved top fun _ => id
      exact moved
  | @erased identifier rest resident inLoop top found isInLoop =>
      have moved : (before.toStage (.onErase identifier) .erased rest).Asks :=
        asks.moved top fun _ => id
      intro other resident' found' asked
      rcases Roster.update_eq_some.mp found' with ⟨-, same⟩ | ⟨-, same⟩
      · cases same
      · exact moved other resident' same asked
  | foundEmpty top empty =>
      exact Asks.of_empty (shutdownFinished_empty empty)
  | finished top empty flag =>
      exact Asks.of_empty (shutdownFinished_empty empty)
  | @emplaced job rest role address top connects fresh =>
      intro other resident found asked
      have asked : (before.toStage job (.starting
          ⟨address, before.created.length⟩) rest).Asked other := asked
      have begun := (begun_toStage top).mp asked.begun
      exact absurd begun (announced.not_begun top)
  | @ended job rest top =>
      refine asks.mono rfl fun address asked => ?_
      rcases asked with isShutdown | ⟨activation, isThere, asked⟩
      · exact .inl isShutdown
      · refine .inr ⟨activation, ?_, asked⟩
        rw [top]
        exact List.mem_cons_of_mem _ isThere

theorem asks_of_reachable {registry : Registry Value}
    (reached : Reachable Heeds registry) : registry.Asks := by
  refine reached.invariantOver Asks ?_ ?_
  · intro address resident found
    cases found
  · intro before after earlier asks step
    exact asks.step (roster_sound earlier) (announced_of_reachable earlier) step

end Registry

/-! ## Every run -/

namespace WsSession

theorem swallowsClose_runs {session : WsSession} {event : SessionEvent}
    (swallows : session.swallowsClose event = true) :
    ∃ host, event = .runJob host := by
  cases event with
  | runJob host => exact ⟨host, rfl⟩
  | _ => cases swallows

end WsSession

/-- The event makes a session run a job of its strand. -/
def ServiceEvent.runsJob {Value : Type} : ServiceEvent Value → Bool
  | .session _ (.runJob _) _ => true
  | .runInline => true
  | _ => false

theorem Stage.move?_runJob {Value : Type} {stage : Stage}
    {event : ServiceEvent Value} {address : Nat} {host : Host}
    (moves : stage.move? event = some (.session address (.runJob host))) :
    event.runsJob = true := by
  unfold Stage.move? at moves
  split at moves
  · rfl
  · cases moves
  · cases moves
  · cases moves

namespace WsService

variable {Value : Type} {service : WsService Value}

/-- The shutdown has asked the session at the address, if there is one. -/
def Asked (service : WsService Value) (address : Nat) : Prop :=
  service.shutdown = true ∨ ∃ activation ∈ service.stack,
    activation.job.isShutdown = true ∧ activation.stage.past address

/-- No request to close is carried out by a session that the shutdown has
asked while its handshake is in flight. -/
def Heeds (service : WsService Value) (event : ServiceEvent Value) : Prop :=
  ∀ address sessionEvent node,
    service.move? event = some (.session address sessionEvent) →
    service.Asked address → service.map.find? address = some node →
    node.session.swallowsClose sessionEvent = false

theorem move?_runJob {event : ServiceEvent Value} {address : Nat}
    {host : Host}
    (moves : service.move? event = some (.session address (.runJob host))) :
    event.runsJob = true := by
  unfold move? at moves
  split at moves
  · cases moves
  · cases moves
    rfl
  · obtain ⟨activation, -, isMove⟩ := Option.bind_eq_some_iff.mp moves
    exact Stage.move?_runJob isMove

/-- Only jobs of the strand of a session can swallow a request. -/
theorem heeds_of_runsJob {event : ServiceEvent Value}
    (runs : event.runsJob = false) : service.Heeds event := by
  intro address sessionEvent node moves asked found
  apply Bool.eq_false_iff.mpr
  intro swallows
  obtain ⟨host, rfl⟩ := WsSession.swallowsClose_runs swallows
  simp [move?_runJob moves] at runs

/-- No session survives a shutdown unclosed, in the runs where no session
carries out a request to close while its handshake is in flight. -/
theorem closing_of_heeds
    (reached : (serviceMachine Value).ReachableUnder Heeds service)
    (isShutdown : service.shutdown = true) {address : Nat}
    {node : Node Value} (found : service.map.find? address = some node)
    (isOpen : node.session.ws.isOpen = true) :
    node.session.closeReason.isSome = true ∨
      ∃ reason, StrandJob.close reason ∈ node.session.strand := by
  have obeys : ∀ (service : WsService Value) event move,
      service.Heeds event → service.move? event = some move →
      service.registry.Heeds move := by
    intro service event move heeds moves
    cases move with
    | enterShutdown => trivial
    | session address sessionEvent =>
        intro asked resident isThere
        obtain ⟨node, found, rfl⟩ := Option.map_eq_some_iff.mp isThere
        exact heeds address sessionEvent node moves asked found
  have asks := Registry.asks_of_reachable (registry_reachable obeys reached)
  have requested :=
    asks address _ (residents_eq_some found) (.inl isShutdown)
  exact requested.of_isOpen isOpen

/-- A server session is made at the address; its handshake is in flight. -/
def accepting (address : Nat) (value : Value) : List (ServiceEvent Value) :=
  queued (.serverConnect value) ++
    [.emplace address, .startReturns, .finish]

/-- The handshake of the session succeeds. -/
def accepts (address : Nat) : List (ServiceEvent Value) :=
  [.session address (.acceptDone none) false,
    .session address (.release .ioThread) false]

/-- `shutdown()` is called, and its job starts when the strand is idle. -/
def shutsDown : List (ServiceEvent Value) :=
  .callShutdown :: List.replicate 4 (.shutdownStep 0) ++ [.enter, .begin]

/-- The loop of a shutdown over a map of one session. -/
def asksOne : List (ServiceEvent Value) :=
  [.visit, .skip, .advance, .finish]

/-- The shutdown meets an open session. -/
theorem closing_one_session :
    ∃ (service : WsService Unit) (node : Node Unit),
      (serviceMachine Unit).run .constructed
        (accepting 8 () ++ accepts 8 ++ shutsDown ++ asksOne) =
          some service ∧
      service.map.find? 8 = some node ∧ node.session.ws.isOpen = true ∧
      (node.session.closeReason.isSome = true ∨
        ∃ reason, StrandJob.close reason ∈ node.session.strand) := by
  have ran : (serviceMachine Unit).run .constructed
      (accepting 8 () ++ accepts 8 ++ shutsDown ++ asksOne) = some _ := rfl
  have idle : ∀ event ∈ accepting 8 () ++ accepts 8 ++ shutsDown ++ asksOne,
      event.runsJob = false := by
    have none_runs : ((accepting 8 () ++ accepts 8 ++ shutsDown ++
        asksOne).all fun event => !event.runsJob) = true := rfl
    intro event isEvent
    simpa using List.all_eq_true.mp none_runs event isEvent
  have reached := Machine.reachableUnder_of_run rfl
    (Machine.admitted_of_forall fun event isEvent service =>
      @heeds_of_runsJob _ service _ (idle event isEvent)) ran
  exact ⟨_, _, ran, rfl, rfl, @closing_of_heeds _ _ reached rfl 8 _ rfl rfl⟩

/-- The request of the shutdown is lost when it is carried out before the
handshake ends: the session stays open. -/
theorem not_closing_while_accepting :
    ∃ (service : WsService Unit) (node : Node Unit),
      (serviceMachine Unit).run .constructed
        (accepting 8 () ++ shutsDown ++ asksOne ++
          [.session 8 (.runJob .ioThread) false,
            .session 8 (.release .ioThread) false] ++ accepts 8) =
          some service ∧
      service.shutdown = true ∧ service.stack = [] ∧ service.queue = [] ∧
      service.map.find? 8 = some node ∧ node.session.ws.isOpen = true ∧
      ¬(node.session.closeReason.isSome = true ∨
        ∃ reason, StrandJob.close reason ∈ node.session.strand) := by
  refine ⟨_, _, rfl, rfl, rfl, rfl, rfl, rfl, ?_⟩
  rintro (isClosing | ⟨reason, queued⟩)
  · exact Bool.false_ne_true isClosing
  · exact List.not_mem_nil queued

end WsService

end Webservice
