import Webservice.Service.Lifetime

/-!
# Identifiers and the sessions they reach

An identifier is an address.  A job that carries one looks the address up
when it runs, and acts on the session it finds there, which may be a later
one.
-/

namespace Webservice

namespace WsService

variable {Value : Type} {service next : WsService Value}

/-! ## Which steps act on behalf of an identifier -/

/-- What the step does on behalf of an identifier. -/
def actOf? (service : WsService Value) (event : ServiceEvent Value) :
    Option Act :=
  match event, service.stack with
  | .begin, ⟨job, .entered⟩ :: _ =>
      job.identifier?.bind fun identifier =>
        (service.map.find? identifier.session).map fun node =>
          ⟨identifier, node.number⟩
  | _, _ => none

@[simp] theorem toStage_acts (stage : Stage) :
    (service.toStage stage).history.acts = service.history.acts := by
  unfold toStage
  split <;> rfl

@[simp] theorem put_acts (locker : AsyncLocker) (job : ServiceJob Value)
    (inline : Bool) :
    (service.put locker job inline).history.acts = service.history.acts := by
  cases inline <;> rfl

@[simp] theorem putNoexcept_acts (job : ServiceJob Value) (inline : Bool) :
    (service.putNoexcept job inline).history.acts =
      service.history.acts := by
  unfold putNoexcept
  split
  · exact put_acts _ _ _
  · rfl

@[simp] theorem shutdownFinished_acts :
    service.shutdownFinished.history.acts = service.history.acts := by
  cases runLock : service.runLock <;>
    cases shutdownLock : service.shutdownLock <;>
      simp [shutdownFinished, report, runLock, shutdownLock]

theorem stepSession_acts {address : Nat} {event : SessionEvent}
    {inline : Bool}
    (stepped : service.stepSession address event inline = some next) :
    next.history.acts = service.history.acts := by
  unfold stepSession at stepped
  split at stepped
  · cases stepped
  · obtain ⟨session, -, rfl⟩ := Option.map_eq_some_iff.mp stepped
    split
    · exact putNoexcept_acts _ _
    · rfl

theorem callSession_acts {target : WsIdentifier} {job : StrandJob}
    {loop : Option Loop}
    (called : service.callSession target job loop = some next) :
    next.history.acts = service.history.acts := by
  obtain ⟨between, stepped, rfl⟩ := Option.map_eq_some_iff.mp called
  exact (toStage_acts _).trans (stepSession_acts stepped)

theorem startLoop_acts :
    service.startLoop.history.acts = service.history.acts := by
  unfold startLoop
  split <;> exact toStage_acts _

theorem admitConnect_acts :
    service.admitConnect.history.acts = service.history.acts := by
  unfold admitConnect
  split <;> exact toStage_acts _

theorem actOn_acts {identifier : WsIdentifier}
    {act : WsService Value → Node Value → Option (WsService Value)}
    (silent : ∀ service node, act service node = some next →
      next.history.acts = service.history.acts)
    (acted : service.actOn identifier act = some next) :
    next.history.acts = service.history.acts ++
      ((service.map.find? identifier.session).map fun node =>
        (⟨identifier, node.number⟩ : Act)).toList := by
  unfold actOn at acted
  cases found : service.map.find? identifier.session with
  | none =>
      rw [found] at acted
      cases acted
      simp
  | some node =>
      rw [found] at acted
      exact silent _ node acted

theorem begin_acts {job : ServiceJob Value}
    (begun : service.begin job = some next) :
    next.history.acts = service.history.acts ++
      (job.identifier?.bind fun identifier =>
        (service.map.find? identifier.session).map fun node =>
          (⟨identifier, node.number⟩ : Act)).toList := by
  cases job with
  | send identifier isText data =>
      simp only [begin] at begun
      exact actOn_acts (fun _ _ => callSession_acts) begun
  | close identifier reason =>
      simp only [begin] at begun
      exact actOn_acts (fun _ _ => callSession_acts) begun
  | modifyValue identifier fn =>
      simp only [begin] at begun
      refine actOn_acts (fun service node acted => ?_) begun
      split at acted <;>
      · cases acted
        exact toStage_acts _
  | sendIf fn isText data =>
      cases begun
      exact startLoop_acts.trans (List.append_nil _).symm
  | closeIf fn reason =>
      cases begun
      exact startLoop_acts.trans (List.append_nil _).symm
  | onShutdown =>
      simp only [begin] at begun
      split at begun
      · cases begun
        simp [ServiceJob.identifier?]
      · cases begun
        exact startLoop_acts.trans (List.append_nil _).symm
  | onErase identifier =>
      simp only [begin] at begun
      split at begun
      · cases begun
        simp [ServiceJob.identifier?, miss, report]
      · cases begun
        simp [ServiceJob.identifier?]
  | serverConnect value =>
      cases begun
      exact admitConnect_acts.trans (List.append_nil _).symm
  | clientConnect value =>
      cases begun
      exact admitConnect_acts.trans (List.append_nil _).symm

theorem visitIf_acts {fn : UnaryFunction Value} {node : Node Value}
    {loop : Loop} {job : StrandJob}
    (visited : service.visitIf fn node loop job = some next) :
    next.history.acts = service.history.acts := by
  unfold visitIf at visited
  simp only at visited
  split at visited
  · exact (callSession_acts visited).trans rfl
  · cases visited
    exact toStage_acts _
  · cases visited
    exact toStage_acts _

theorem visit_acts {job : ServiceJob Value} {loop : Loop}
    (visited : service.visit job loop = some next) :
    next.history.acts = service.history.acts := by
  unfold visit at visited
  split at visited
  · cases visited
  · simp only at visited
    split at visited
    · exact visitIf_acts visited
    · exact visitIf_acts visited
    · exact callSession_acts visited
    · cases visited

theorem advance_acts {job : ServiceJob Value} {loop : Loop}
    (advanced : service.advance job loop = some next) :
    next.history.acts = service.history.acts := by
  unfold advance at advanced
  split at advanced
  · cases advanced
  · split at advanced
    · cases advanced
      exact toStage_acts _
    · simp only at advanced
      split at advanced <;>
      · cases advanced
        exact toStage_acts _

theorem eraseEntry_acts {identifier : WsIdentifier}
    (erased : service.eraseEntry identifier = some next) :
    next.history.acts = service.history.acts := by
  unfold eraseEntry at erased
  split at erased
  · cases erased
  · cases erased
    exact toStage_acts _

theorem conclude_acts :
    service.conclude.history.acts = service.history.acts := by
  unfold conclude
  split
  · exact (toStage_acts _).trans shutdownFinished_acts
  · exact toStage_acts _

theorem emplace_acts {address : Nat} {role : Role} {value : Value}
    (emplaced : service.emplace address role value = some next) :
    next.history.acts = service.history.acts := by
  unfold emplace at emplaced
  split at emplaced
  · cases emplaced
  · cases emplaced
    exact toStage_acts _

theorem shutdownStep_acts {index : Nat}
    (stepped : service.shutdownStep index = some next) :
    next.history.acts = service.history.acts := by
  unfold shutdownStep at stepped
  split at stepped
  · cases stepped
  · cases stepped
    rfl
  · cases stepped
    rfl
  · split at stepped <;>
    · cases stepped
      rfl
  · cases stepped
    exact putNoexcept_acts _ _

theorem work_acts {job : ServiceJob Value} {stage : Stage}
    {rest : List (Activation Value)} {event : ServiceEvent Value}
    (top : service.stack = ⟨job, stage⟩ :: rest)
    (worked : service.work rest job stage event = some next) :
    next.history.acts =
      service.history.acts ++ (service.actOf? event).toList := by
  have silent : ∀ {acts : List Act}, acts = service.history.acts →
      acts = service.history.acts ++ [] :=
    fun same => same.trans (List.append_nil _).symm
  unfold work at worked
  split at worked
  · simp only [actOf?, top]
    exact begin_acts worked
  · exact silent (visit_acts worked)
  · cases worked
    exact silent (toStage_acts _)
  · obtain ⟨between, stepped, rfl⟩ := Option.map_eq_some_iff.mp worked
    exact silent ((toStage_acts _).trans (stepSession_acts stepped))
  · exact silent ((stepSession_acts worked).trans (toStage_acts _))
  · exact silent (advance_acts worked)
  · exact silent ((stepSession_acts worked).trans (toStage_acts _))
  · split at worked
    · exact silent (eraseEntry_acts worked)
    · cases worked
  · cases worked
    exact silent conclude_acts
  · split at worked
    · exact silent (emplace_acts worked)
    · exact silent (emplace_acts worked)
    · cases worked
  · cases worked
    exact silent (toStage_acts _)
  · cases worked
    exact silent rfl
  · cases worked

/-- The history of acts grows by what the step does. -/
theorem step_acts {event : ServiceEvent Value}
    (stepped : service.step event = some next) :
    next.history.acts =
      service.history.acts ++ (service.actOf? event).toList := by
  have silent : ∀ {acts : List Act}, acts = service.history.acts →
      acts = service.history.acts ++ [] :=
    fun same => same.trans (List.append_nil _).symm
  unfold step at stepped
  split at stepped
  · cases stepped
  split at stepped
  · split at stepped
    · split at stepped
      · cases stepped
        exact silent (put_acts _ _ _)
      · cases stepped
        exact silent rfl
    · cases stepped
  · split at stepped <;>
    · cases stepped
      exact silent rfl
  · exact silent (shutdownStep_acts stepped)
  · split at stepped
    · exact silent (stepSession_acts stepped)
    · cases stepped
  · split at stepped
    · cases stepped
      exact silent rfl
    · cases stepped
  · split at stepped
    · cases stepped
    · rename_i top
      exact work_acts top stepped

end WsService

/-! ## The identifiers that jobs carry -/

/-- The identifier of the job was handed out. -/
def ServiceJob.Known {Value : Type} (created : List WsIdentifier)
    (job : ServiceJob Value) : Prop :=
  ∀ identifier, job.identifier? = some identifier → identifier ∈ created

namespace ServiceJob

variable {Value : Type} {created : List WsIdentifier} {job : ServiceJob Value}

theorem Callable.known (callable : job.Callable created) :
    job.Known created := by
  intro identifier isAbout
  cases job with
  | send target isText data =>
      cases isAbout
      exact callable
  | close target reason =>
      cases isAbout
      exact callable
  | modifyValue target fn =>
      cases isAbout
      exact callable
  | _ => cases isAbout

theorem Known.of_isErase (isErase : job.isErase = true) :
    job.Known created := by
  intro identifier isAbout
  rw [(plain_of_identifier? isAbout).1] at isErase
  cases isErase

theorem Known.of_isShutdown (isShutdown : job.isShutdown = true) :
    job.Known created := by
  intro identifier isAbout
  rw [(plain_of_identifier? isAbout).2] at isShutdown
  cases isShutdown

theorem Known.append (known : job.Known created)
    (later : List WsIdentifier) : job.Known (created ++ later) :=
  fun identifier isAbout =>
    List.mem_append_left later (known identifier isAbout)

end ServiceJob

namespace Registry

variable {Value : Type} {rules : Registry Value → Move → Prop}
  {registry before after : Registry Value} {job : ServiceJob Value}
  {stage stage' : Stage} {rest : List (Activation Value)}

/-- Every job carries an identifier that was handed out. -/
structure Known (registry : Registry Value) : Prop where
  running : ∀ activation ∈ registry.stack,
    activation.job.Known registry.created
  queued : ∀ job ∈ registry.queue, job.Known registry.created

theorem Known.put (known : registry.Known) {inline : Bool}
    (isKnown : job.Known registry.created) :
    (registry.put job inline).Known := by
  cases inline with
  | false =>
      exact ⟨known.running, List.forall_mem_append.mpr
        ⟨known.queued, List.forall_mem_singleton.mpr isKnown⟩⟩
  | true =>
      exact ⟨List.forall_mem_cons.mpr ⟨isKnown, known.running⟩, known.queued⟩

theorem Known.putNoexcept (known : registry.Known) {inline : Bool}
    (isKnown : job.Known registry.created) :
    (registry.putNoexcept job inline).Known := by
  unfold Registry.putNoexcept
  split
  · exact ⟨known.running, known.queued⟩
  · exact known.put isKnown

theorem Known.stepped (known : registry.Known) {address : Nat}
    {resident : Resident} {next : WsSession} {inline : Bool} :
    (registry.stepped address resident next inline).Known := by
  have updated : (registry.update address
      (some ⟨resident.number, next⟩)).Known := ⟨known.running, known.queued⟩
  unfold Registry.stepped
  split
  · exact updated.putNoexcept (.of_isErase rfl)
  · exact updated

theorem Known.toStage (known : registry.Known)
    (top : registry.stack = ⟨job, stage⟩ :: rest) (stage' : Stage) :
    (registry.toStage job stage' rest).Known := by
  have running := known.running
  rw [top] at running
  exact ⟨List.forall_mem_cons.mpr (List.forall_mem_cons.mp running),
    known.queued⟩

theorem Known.shutdownFinished (known : registry.Known) (size : Nat) :
    (registry.shutdownFinished size).Known := by
  unfold Registry.shutdownFinished
  split <;> exact ⟨known.running, known.queued⟩

theorem Known.step (known : before.Known) (step : Step rules before after) :
    after.Known := by
  cases step with
  | called callable held free => exact known.put callable.known
  | shutdownCalled unlocked allowed => exact ⟨known.running, known.queued⟩
  | callerMoved moves =>
      cases moves with
      | deferred caller =>
          have deferred : (before.putNoexcept .onShutdown false).Known :=
            known.putNoexcept (.of_isShutdown rfl)
          exact ⟨deferred.running, deferred.queued⟩
      | _ => exact ⟨known.running, known.queued⟩
  | sessionMoved found stepped byIoThread free allowed => exact known.stepped
  | entered empty queued =>
      have known := known.queued
      rw [queued] at known
      obtain ⟨first, others⟩ := List.forall_mem_cons.mp known
      exact ⟨List.forall_mem_singleton.mpr first, others⟩
  | moved top moves => exact known.toStage top _
  | dispatched top calls handed found stepped =>
      exact ⟨(known.toStage top _).running, known.queued⟩
  | wentOn top goesOn found stepped allowed => exact (known.toStage top _).stepped
  | loopEnded top atCursor last flag =>
      exact ⟨(known.toStage top _).running, known.queued⟩
  | missed top missing =>
      exact ⟨(known.toStage top _).running, known.queued⟩
  | erased top found inLoop =>
      exact ⟨(known.toStage top _).running, known.queued⟩
  | foundEmpty top empty =>
      have finished := known.shutdownFinished 0
      have moved := finished.toStage
        ((shutdownFinished_stack _ _).trans top) .finished
      exact ⟨moved.running, moved.queued⟩
  | finished top empty flag =>
      exact (known.shutdownFinished 0).toStage
        ((shutdownFinished_stack _ _).trans top) .finished
  | emplaced top connects fresh =>
      exact ⟨fun activation isThere =>
          ((known.toStage top _).running activation isThere).append _,
        fun job isQueued => (known.queued job isQueued).append _⟩
  | ended top =>
      have running := known.running
      rw [top] at running
      exact ⟨(List.forall_mem_cons.mp running).2, known.queued⟩

theorem known_of_reachable {registry : Registry Value}
    (reached : Reachable rules registry) : registry.Known := by
  refine reached.invariantOver Known ?_ ?_
  · exact ⟨(fun activation isThere => nomatch isThere),
      fun job isQueued => nomatch isQueued⟩
  · exact fun before after earlier known step => known.step step

end Registry

/-! ## Every run -/

namespace WsService

variable {Value : Type} {service next : WsService Value}

/-- All that was done on behalf of an identifier was done to its own
session. -/
def ActsOwn (service : WsService Value) : Prop :=
  ∀ act ∈ service.history.acts, act.number = act.identifier.owner

/-- When a job begins, no session younger than the one its identifier was
made for lives at the same address. -/
def NoSuccessor (service : WsService Value) (event : ServiceEvent Value) :
    Prop :=
  ∀ job rest identifier node, event = .begin →
    service.stack = ⟨job, .entered⟩ :: rest →
    job.identifier? = some identifier →
    service.map.find? identifier.session = some node →
    node.number ≤ identifier.owner

theorem actOf?_eq_some {event : ServiceEvent Value} {act : Act} :
    service.actOf? event = some act ↔
      ∃ job rest node, event = .begin ∧
        service.stack = ⟨job, .entered⟩ :: rest ∧
        job.identifier? = some act.identifier ∧
        service.map.find? act.identifier.session = some node ∧
        node.number = act.number := by
  constructor
  · intro acts
    unfold actOf? at acts
    split at acts
    · rename_i job rest top
      obtain ⟨identifier, isAbout, found⟩ := Option.bind_eq_some_iff.mp acts
      obtain ⟨node, isThere, rfl⟩ := Option.map_eq_some_iff.mp found
      exact ⟨job, rest, node, rfl, top, isAbout, isThere, rfl⟩
    · cases acts
  · rintro ⟨job, rest, node, rfl, top, isAbout, isThere, number⟩
    simp only [actOf?, top, isAbout, Option.bind_some, isThere,
      Option.map_some, number]

/-- An identifier that was handed out finds its own session or a younger
one. -/
theorem owner_le_of_actOf? {event : ServiceEvent Value} {act : Act}
    (reached : (serviceMachine Value).Reachable service)
    (acts : service.actOf? event = some act) :
    act.identifier.owner ≤ act.number := by
  obtain ⟨job, rest, node, -, top, isAbout, isThere, number⟩ :=
    actOf?_eq_some.mp acts
  have registry := registry_of_reachable reached
  have running := (Registry.known_of_reachable registry).running
  have isRunning : ⟨job, .entered⟩ ∈ service.registry.stack := by
    show ⟨job, .entered⟩ ∈ service.stack
    rw [top]
    exact List.mem_cons_self
  have latest := (Registry.roster_sound registry).latest
    (running _ isRunning _ isAbout) (residents_eq_some isThere)
  exact number ▸ latest

/-- A step acts on the owner of the identifier just when the owner has no
successor. -/
theorem noSuccessor_iff {event : ServiceEvent Value}
    (reached : (serviceMachine Value).Reachable service) :
    service.NoSuccessor event ↔
      ∀ act, service.actOf? event = some act →
        act.number = act.identifier.owner := by
  constructor
  · intro none_younger act acts
    obtain ⟨job, rest, node, begins, top, isAbout, isThere, number⟩ :=
      actOf?_eq_some.mp acts
    have small := none_younger job rest _ node begins top isAbout isThere
    exact Nat.le_antisymm (number ▸ small) (owner_le_of_actOf? reached acts)
  · intro own job rest identifier node begins top isAbout isThere
    exact Nat.le_of_eq (own ⟨identifier, node.number⟩ (actOf?_eq_some.mpr
      ⟨job, rest, node, begins, top, isAbout, isThere, rfl⟩))

theorem step_actsOwn {event : ServiceEvent Value}
    (reached : (serviceMachine Value).Reachable service)
    (stepped : service.step event = some next) :
    next.ActsOwn ↔ service.ActsOwn ∧ service.NoSuccessor event := by
  unfold ActsOwn
  rw [step_acts stepped, List.forall_mem_append, noSuccessor_iff reached]
  simp only [Option.mem_toList]

/-- Jobs act on the sessions their identifiers were made for, in exactly the
runs where no job begins after a younger session came to the address. -/
theorem actsOwn_iff {events : List (ServiceEvent Value)}
    (ran : (serviceMachine Value).run .constructed events = some service) :
    (∀ act ∈ service.history.acts, act.number = act.identifier.owner) ↔
      (serviceMachine Value).Admitted NoSuccessor .constructed events := by
  have start : (serviceMachine Value).Reachable .constructed := .initial rfl
  have exactly := Machine.run_iff_admitted ActsOwn
    (fun before event after => step_actsOwn) start ran
  refine exactly.trans ⟨And.right, fun admitted => ⟨?_, admitted⟩⟩
  exact fun act isThere => nomatch isThere

/-- One session comes and goes, and another takes its address. -/
def reused : List (ServiceEvent Unit) :=
  connected 8 () ++ peerCloses 8 ++ drains 8 ++ connected 8 ()

/-- A message for the first of two sessions is sent to the second. -/
theorem not_actsOwn_after_reuse :
    ∃ service, (serviceMachine Unit).run .constructed
        (reused ++ queued (.sendText ⟨8, 0⟩ [1])) = some service ∧
      ⟨8, 0⟩ ∈ service.history.created ∧
      service.history.acts = [⟨⟨8, 0⟩, 1⟩] ∧
      ¬∀ act ∈ service.history.acts,
        act.number = act.identifier.owner :=
  ⟨_, rfl, List.mem_cons_self, rfl, by decide⟩

/-- A message reaches the session it is for. -/
theorem actsOwn_iff_one_session :
    ∃ service, (serviceMachine Unit).run .constructed
        (connected 8 () ++ queued (.sendText ⟨8, 0⟩ [1])) = some service ∧
      service.history.acts = [⟨⟨8, 0⟩, 0⟩] ∧
      (serviceMachine Unit).Admitted NoSuccessor .constructed
        (connected 8 () ++ queued (.sendText ⟨8, 0⟩ [1])) := by
  have ran : (serviceMachine Unit).run .constructed
      (connected 8 () ++ queued (.sendText ⟨8, 0⟩ [1])) = some _ := rfl
  refine ⟨_, ran, rfl, (actsOwn_iff ran).mp fun act isThere => ?_⟩
  obtain rfl := List.mem_singleton.mp isThere
  rfl

end WsService

end Webservice
