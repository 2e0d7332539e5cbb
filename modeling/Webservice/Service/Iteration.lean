import Mathlib.Data.List.Nodup
import Webservice.Service.Lifetime

/-!
# Loops over the sessions of a service

A session is erased inside a loop over the map only where a job gives up the
last lock of a session: the job of `on_erase` then runs inside the call.  As
long as no job does this while a loop is under way, the iterators stay valid
and every loop visits each session that was there when it began once.
-/

namespace Webservice

/-- The loop under way; the session it has come to counts as visited. -/
def Stage.loop? : Stage → Option Loop
  | .visiting loop => some loop.visit
  | .called _ loop => loop
  | .inlined _ loop => loop
  | .left loop => some loop
  | _ => none

theorem Stage.loops_eq (stage : Stage) :
    stage.loops = stage.loop?.isSome := by
  cases stage <;> rfl

@[simp] theorem Stage.afterCall_loop? (loop : Option Loop) :
    (Stage.afterCall loop).loop? = loop := by
  cases loop <;> rfl

/-- The loop has visited every session that was there when it began, and none
twice. -/
def Loop.Complete (loop : Loop) : Prop :=
  loop.visited.Nodup ∧ ∀ identifier ∈ loop.present, identifier ∈ loop.visited

namespace WsSession

/-- A lock that is given up next to another one is not the last. -/
theorem step_callbacks_of_shared {session next : WsSession}
    {event : SessionEvent} (sound : session.LocksSound)
    (shared : 1 < session.locker.lockCount)
    (stepped : session.step event = some next) :
    next.locker.callbacks = session.locker.callbacks := by
  have notLast : session.locker.lockCount ≠ 1 := Nat.ne_of_gt shared
  cases event with
  | startReturns =>
      obtain ⟨-, rfl⟩ := step_startReturns stepped
      simp [unlocked, AsyncLocker.unlock, notLast]
  | release host =>
      obtain ⟨-, rfl⟩ := step_release stepped
      simp [unlocked, AsyncLocker.unlock, notLast]
  | callbackReturns =>
      obtain ⟨callback, -, rfl⟩ := step_callbackReturns stepped
      simp [unlocked, callBack, AsyncLocker.unlock, notLast]
  | _ => exact step_callbacks sound rfl stepped

end WsSession

namespace Registry

variable {Value : Type} {rules : Registry Value → Move → Prop}
  {registry before after : Registry Value} {job : ServiceJob Value}
  {stage stage' : Stage} {rest : List (Activation Value)} {loop : Loop}

/-- A loop over the map is under way. -/
def inLoop (registry : Registry Value) : Bool :=
  registry.stack.any (·.stage.loops)

/-- While a loop is under way, no job gives up the last lock of a session. -/
def Shares (registry : Registry Value) : Move → Prop
  | .session address event => registry.inLoop = true →
      event.byIoThread = false → event.releases = true →
      ∀ resident, registry.residents address = some resident →
        1 < resident.session.locker.lockCount
  | .enterShutdown => True

/-! ## Where sessions are erased -/

section

variable {busy : Stage → Bool}

/-- No job of `on_erase` runs inside a job that is busy. -/
def Apart (busy : Stage → Bool) (registry : Registry Value) : Prop :=
  registry.stack.Pairwise fun above below =>
    above.job.isErase = true → busy below.stage = false

/-- A job that goes on drains a session only where no job is busy. -/
def DrainsApart (busy : Stage → Bool) (rules : Registry Value → Move → Prop)
    (registry : Registry Value) : Prop :=
  ∀ job stage stage' rest target event resident next,
    registry.stack = ⟨job, stage⟩ :: rest →
    GoesOn stage target event stage' →
    registry.residents target.session = some resident →
    resident.session.step event = some next →
    rules registry (.session target.session event) →
    resident.session.locker.callbacks < next.locker.callbacks →
    (registry.toStage job stage' rest).stack.all (!busy ·.stage) = true

theorem Apart.toStage (apart : registry.Apart busy)
    (top : registry.stack = ⟨job, stage⟩ :: rest) :
    (registry.toStage job stage' rest).Apart busy := by
  unfold Apart at apart
  rw [top] at apart
  exact List.pairwise_cons.mpr (List.pairwise_cons.mp apart)

theorem Apart.of_stack (apart : before.Apart busy)
    (stack : after.stack = before.stack) : after.Apart busy := by
  unfold Apart
  rw [stack]
  exact apart

theorem Apart.put {inline : Bool} (apart : registry.Apart busy)
    (free : inline = true → job.isErase = true →
      registry.stack.all (!busy ·.stage) = true) :
    (registry.put job inline).Apart busy := by
  cases inline with
  | false => exact apart
  | true =>
      refine List.pairwise_cons.mpr ⟨?_, apart⟩
      intro activation isThere isErase
      have none_busy := List.all_eq_true.mp (free rfl isErase)
      simpa using none_busy activation isThere

theorem Apart.putNoexcept {inline : Bool} (apart : registry.Apart busy)
    (free : inline = true → job.isErase = true →
      registry.stack.all (!busy ·.stage) = true) :
    (registry.putNoexcept job inline).Apart busy := by
  unfold Registry.putNoexcept
  split
  · exact apart
  · exact apart.put free

theorem Apart.stepped {address : Nat} {resident : Resident}
    {next : WsSession} {inline : Bool} (apart : registry.Apart busy)
    (free : resident.session.locker.callbacks < next.locker.callbacks →
      inline = true → registry.stack.all (!busy ·.stage) = true) :
    (registry.stepped address resident next inline).Apart busy := by
  have updated : (registry.update address
      (some ⟨resident.number, next⟩)).Apart busy := apart
  unfold Registry.stepped
  split
  · rename_i drains
    exact updated.putNoexcept fun inline _ => free drains inline
  · exact updated

theorem Apart.step (apart : before.Apart busy)
    (drainsApart : before.DrainsApart busy rules)
    (step : Step rules before after) : after.Apart busy := by
  cases step with
  | called callable held free =>
      refine apart.put fun _ isErase => ?_
      simp [callable.plain.1] at isErase
  | shutdownCalled unlocked allowed => exact apart
  | callerMoved moves =>
      cases moves with
      | deferred caller => exact apart.putNoexcept (by simp)
      | _ => exact apart
  | sessionMoved found stepped byIoThread free allowed =>
      refine apart.stepped fun _ inline => ?_
      simp [(free inline).1]
  | entered empty queued => exact List.pairwise_singleton _ _
  | moved top moves => exact apart.toStage top
  | dispatched top calls handed found stepped => exact apart.toStage top
  | wentOn top goesOn found stepped allowed =>
      refine (apart.toStage top).stepped fun drains _ => ?_
      exact drainsApart _ _ _ _ _ _ _ _ top goesOn found stepped allowed drains
  | loopEnded top atCursor last flag => exact apart.toStage top
  | missed top missing => exact apart.toStage top
  | erased top found isInLoop => exact apart.toStage top
  | foundEmpty top empty =>
      have stack := shutdownFinished_stack before 0
      exact (apart.of_stack stack).toStage (stack.trans top)
  | finished top empty flag =>
      have stack := shutdownFinished_stack before 0
      exact (apart.of_stack stack).toStage (stack.trans top)
  | emplaced top connects fresh => exact apart.toStage top
  | ended top =>
      unfold Apart at apart
      rw [top] at apart
      exact (List.pairwise_cons.mp apart).2

theorem Apart.below {identifier : WsIdentifier} (apart : registry.Apart busy)
    (top : registry.stack = ⟨.onErase identifier, stage⟩ :: rest) :
    ∀ activation ∈ rest, busy activation.stage = false := by
  unfold Apart at apart
  rw [top] at apart
  intro activation isThere
  exact (List.pairwise_cons.mp apart).1 activation isThere rfl

/-- Only a job that gives up a lock drains a session. -/
theorem GoesOn.releases_of_drains {target : WsIdentifier}
    {event : SessionEvent} {resident : Resident} {next : WsSession}
    (goesOn : GoesOn stage target event stage')
    (locks : resident.session.LocksSound)
    (stepped : resident.session.step event = some next)
    (drains : resident.session.locker.callbacks < next.locker.callbacks) :
    event.byIoThread = false ∧ event.releases = true := by
  cases goesOn with
  | ran =>
      have silent := WsSession.step_callbacks locks rfl stepped
      omega
  | released => exact ⟨rfl, rfl⟩
  | started => exact ⟨rfl, rfl⟩

end

theorem GoesOn.loop? {target : WsIdentifier} {event : SessionEvent}
    (goesOn : GoesOn stage target event stage') :
    stage'.loop? = stage.loop? := by
  cases goesOn with
  | ran => rfl
  | released => exact Stage.afterCall_loop? _
  | started => rfl

/-- No session is drained inside a loop. -/
theorem drainsApart_of_shares (sound : registry.roster.Sound) :
    registry.DrainsApart Stage.loops Shares := by
  intro job stage stage' rest target event resident next top goesOn found
    stepped allowed drains
  have locks := WsSession.locksSound_of_reachable (sound.reached found)
  obtain ⟨byJob, releases⟩ := goesOn.releases_of_drains locks stepped drains
  have notInLoop : registry.inLoop = false := by
    apply Bool.eq_false_iff.mpr
    intro loops
    have shared := allowed loops byJob releases resident found
    have silent := WsSession.step_callbacks_of_shared locks shared stepped
    omega
  have same : stage'.loops = stage.loops := by
    simp only [Stage.loops_eq, goesOn.loop?]
  simpa [inLoop, toStage, top, same] using notInLoop

/-! ## Sessions that stay -/

/-- Every session of the one map is in the other. -/
def Stays (before after : Registry Value) : Prop :=
  ∀ address identifier, before.identifierAt? address = some identifier →
    after.identifierAt? address = some identifier

theorem Stays.of_residents (same : after.residents = before.residents) :
    Stays before after := by
  intro address identifier isThere
  unfold identifierAt? at isThere ⊢
  rw [same]
  exact isThere

/-- A session in the map has come to another state. -/
theorem Stays.update {address : Nat} {resident : Resident}
    {next : WsSession}
    (found : registry.residents address = some resident) :
    Stays registry
      (registry.update address (some ⟨resident.number, next⟩)) := by
  intro other identifier isThere
  unfold identifierAt? Registry.update at *
  by_cases same : other = address
  · subst same
    simpa [found] using isThere
  · simpa [Function.update_of_ne same] using isThere

/-- A session is put into the map. -/
theorem Stays.emplaced {address : Nat} {resident : Resident}
    (fresh : registry.residents address = none) :
    Stays registry (registry.update address (some resident)) := by
  intro other identifier isThere
  unfold identifierAt? Registry.update at *
  by_cases same : other = address
  · subst same
    simp [fresh] at isThere
  · simpa [Function.update_of_ne same] using isThere

theorem Stays.put (inline : Bool) : Stays registry (registry.put job inline) :=
  .of_residents (congrArg Roster.residents (aside_roster.put _ _ _))

theorem Stays.putNoexcept (inline : Bool) :
    Stays registry (registry.putNoexcept job inline) :=
  .of_residents (congrArg Roster.residents (aside_roster.putNoexcept _ _ _))

theorem Stays.stepped {address : Nat} {resident : Resident}
    {next : WsSession} {inline : Bool}
    (found : registry.residents address = some resident) :
    Stays registry (registry.stepped address resident next inline) := by
  intro other identifier isThere
  have residents := congrArg Roster.residents
    (aside_roster.stepped registry address resident next inline)
  exact Stays.of_residents residents other identifier
    (Stays.update found other identifier isThere)

theorem mem_addresses {address : Nat} :
    address ∈ registry.addresses ↔
      ∃ identifier, registry.identifierAt? address = some identifier := by
  cases found : registry.residents address with
  | none => simp [addresses, identifierAt?, found]
  | some resident => simp [addresses, identifierAt?, found]

/-! ## Loops under way -/

/-- The loop walks over the sessions in the map. -/
structure Walking (registry : Registry Value) (loop : Loop) : Prop where
  walk : Walk registry.addresses (loop.present.map WsIdentifier.session)
    (loop.visited.map WsIdentifier.session) loop.cursor.session
  present : ∀ identifier ∈ loop.present,
    registry.identifierAt? identifier.session = some identifier
  visited : ∀ identifier ∈ loop.visited,
    registry.identifierAt? identifier.session = some identifier
  atCursor : registry.identifierAt? loop.cursor.session = some loop.cursor

theorem Walking.stays (walking : before.Walking loop)
    (stays : Stays before after) : after.Walking loop where
  walk := walking.walk.grow fun address isThere => by
    obtain ⟨identifier, isThere⟩ := mem_addresses.mp isThere
    exact mem_addresses.mpr ⟨identifier, stays address identifier isThere⟩
  present identifier isPresent :=
    stays _ identifier (walking.present identifier isPresent)
  visited identifier isVisited :=
    stays _ identifier (walking.visited identifier isVisited)
  atCursor := stays _ _ walking.atCursor

theorem Walking.begins {cursor : WsIdentifier} {present : List WsIdentifier}
    (atCursor : registry.identifierAt? cursor.session = some cursor)
    (least : IsLeast registry.addresses cursor.session)
    (isPresent : ∀ identifier ∈ present,
      registry.identifierAt? identifier.session = some identifier) :
    registry.Walking (Loop.visit ⟨cursor, present, []⟩) where
  walk := by
    apply Walk.begins least
    intro address isThere
    obtain ⟨identifier, isIdentifier, rfl⟩ := List.mem_map.mp isThere
    exact mem_addresses.mpr ⟨identifier, isPresent identifier isIdentifier⟩
  present := isPresent
  visited := List.forall_mem_singleton.mpr atCursor
  atCursor := atCursor

theorem Walking.advances {cursor : WsIdentifier}
    (walking : registry.Walking loop)
    (atCursor : registry.identifierAt? cursor.session = some cursor)
    (least : IsLeast {address | address ∈ registry.addresses ∧
      loop.cursor.session < address} cursor.session) :
    registry.Walking (Loop.visit { loop with cursor := cursor }) where
  walk := by
    have advanced := walking.walk.advances least
    simpa [Loop.visit] using advanced
  present := walking.present
  visited := List.forall_mem_append.mpr
    ⟨walking.visited, List.forall_mem_singleton.mpr atCursor⟩
  atCursor := atCursor

theorem Walking.ends (walking : registry.Walking loop)
    (last : ∀ address ∈ registry.addresses, address ≤ loop.cursor.session) :
    loop.Complete := by
  obtain ⟨once, all⟩ := walking.walk.ends last
  refine ⟨List.Nodup.of_map _ once, fun identifier isPresent => ?_⟩
  have isVisited := all _ (List.mem_map_of_mem isPresent)
  obtain ⟨other, isOther, same⟩ := List.mem_map.mp isVisited
  have atOther := walking.visited other isOther
  rw [same, walking.present identifier isPresent] at atOther
  cases atOther
  exact isOther

/-- Every loop under way walks over the sessions in the map. -/
def Looping (registry : Registry Value) : Prop :=
  ∀ activation ∈ registry.stack, ∀ loop,
    activation.stage.loop? = some loop → registry.Walking loop

theorem Looping.stays (looping : before.Looping)
    (stack : after.stack = before.stack) (stays : Stays before after) :
    after.Looping := by
  intro activation isThere loop isLoop
  rw [stack] at isThere
  exact (looping activation isThere loop isLoop).stays stays

theorem Looping.put {inline : Bool} (looping : registry.Looping) :
    (registry.put job inline).Looping := by
  have stays : Stays registry (registry.put job inline) := .put inline
  cases inline with
  | false => exact looping.stays rfl stays
  | true =>
      refine List.forall_mem_cons.mpr ⟨fun loop isLoop => ?_, ?_⟩
      · cases isLoop
      · intro activation isThere loop isLoop
        exact (looping activation isThere loop isLoop).stays stays

theorem Looping.putNoexcept {inline : Bool} (looping : registry.Looping) :
    (registry.putNoexcept job inline).Looping := by
  unfold Registry.putNoexcept
  split
  · exact looping.stays rfl (.of_residents rfl)
  · exact looping.put

theorem Looping.stepped {address : Nat} {resident : Resident}
    {next : WsSession} {inline : Bool} (looping : registry.Looping)
    (found : registry.residents address = some resident) :
    (registry.stepped address resident next inline).Looping := by
  have updated : (registry.update address
      (some ⟨resident.number, next⟩)).Looping :=
    looping.stays rfl (.update found)
  unfold Registry.stepped
  split
  · exact updated.putNoexcept
  · exact updated

theorem Looping.toStage (looping : registry.Looping)
    (top : registry.stack = ⟨job, stage⟩ :: rest)
    (walks : ∀ loop, stage'.loop? = some loop → registry.Walking loop) :
    (registry.toStage job stage' rest).Looping := by
  unfold Looping at looping
  rw [top] at looping
  have below := (List.forall_mem_cons.mp looping).2
  have stays : Stays registry (registry.toStage job stage' rest) :=
    .of_residents rfl
  refine List.forall_mem_cons.mpr ⟨fun loop isLoop => ?_, ?_⟩
  · exact (walks loop isLoop).stays stays
  · intro activation isThere loop isLoop
    exact (below activation isThere loop isLoop).stays stays

theorem Looping.top (looping : registry.Looping)
    (top : registry.stack = ⟨job, stage⟩ :: rest)
    (isLoop : stage.loop? = some loop) : registry.Walking loop := by
  apply looping ⟨job, stage⟩ _ loop isLoop
  rw [top]
  exact List.mem_cons_self

/-- The job goes on with the loop it is in, or is done with it. -/
theorem Looping.moved (looping : registry.Looping)
    (top : registry.stack = ⟨job, stage⟩ :: rest)
    (same : stage'.loop? = none ∨ stage'.loop? = stage.loop?) :
    (registry.toStage job stage' rest).Looping := by
  refine looping.toStage top fun loop isLoop => ?_
  rcases same with noLoop | same
  · simp [noLoop] at isLoop
  · exact looping.top top (same.symm.trans isLoop)

theorem Looping.finished (looping : registry.Looping)
    (top : registry.stack = ⟨job, stage⟩ :: rest) :
    (registry.toStage job .finished rest).Looping :=
  looping.moved top (.inl rfl)

theorem Looping.moves (looping : registry.Looping)
    (top : registry.stack = ⟨job, stage⟩ :: rest)
    (moves : registry.Moves job stage stage') :
    (registry.toStage job stage' rest).Looping := by
  cases moves with
  | startLoop handed everyone atCursor least present =>
      refine looping.toStage top fun loop isLoop => ?_
      cases isLoop
      exact .begins atCursor least present
  | advanced atCursor atNext least =>
      refine looping.toStage top fun loop isLoop => ?_
      cases isLoop
      exact (looping.top top rfl).advances atNext least
  | passed notShutdown atCursor => exact looping.moved top (.inr rfl)
  | skipped =>
      exact looping.moved top (.inr (Stage.afterCall_loop? _))
  | _ => exact looping.moved top (.inl rfl)

theorem Calls.loop? {target : WsIdentifier} {called : Option Loop}
    (calls : registry.Calls job stage target called) :
    (Stage.called target called).loop? = stage.loop? := by
  cases calls <;> rfl

theorem Looping.step (looping : before.Looping)
    (apart : before.Apart Stage.loops)
    (step : Step rules before after) : after.Looping := by
  cases step with
  | called callable held free => exact looping.put
  | shutdownCalled unlocked allowed =>
      exact looping.stays rfl (.of_residents rfl)
  | callerMoved moves =>
      cases moves with
      | deferred caller =>
          have deferred := @Looping.putNoexcept _ before .onShutdown false
            looping
          exact deferred.stays rfl (.of_residents rfl)
      | _ => exact looping.stays rfl (.of_residents rfl)
  | sessionMoved found stepped byIoThread free allowed =>
      exact looping.stepped found
  | entered empty queued =>
      refine List.forall_mem_singleton.mpr fun loop isLoop => ?_
      cases isLoop
  | moved top moves => exact looping.moves top moves
  | @dispatched job stage rest target called _ resident next top calls handed
      found stepped =>
      have moved := looping.moved top (.inr calls.loop?)
      exact moved.stays rfl (.update found)
  | wentOn top goesOn found stepped allowed =>
      exact (looping.moved top (.inr goesOn.loop?)).stepped found
  | loopEnded top atCursor last flag =>
      exact (looping.finished top).stays rfl (.of_residents rfl)
  | missed top missing =>
      exact (looping.finished top).stays rfl (.of_residents rfl)
  | erased top found isInLoop =>
      refine List.forall_mem_cons.mpr ⟨fun loop isLoop => ?_, ?_⟩
      · cases isLoop
      · intro activation isThere loop isLoop
        have none_loops := apart.below top activation isThere
        simp [Stage.loops_eq, isLoop] at none_loops
  | foundEmpty top empty =>
      have stack := shutdownFinished_stack before 0
      have residents := congrArg Roster.residents
        (aside_roster.shutdownFinished before 0)
      have finished := (looping.stays stack (.of_residents residents)).finished
        (stack.trans top)
      exact finished.stays rfl (.of_residents rfl)
  | finished top empty flag =>
      have stack := shutdownFinished_stack before 0
      have residents := congrArg Roster.residents
        (aside_roster.shutdownFinished before 0)
      exact (looping.stays stack (.of_residents residents)).finished
        (stack.trans top)
  | @emplaced job rest role address top connects fresh =>
      have moved : (before.toStage job (.starting
          ⟨address, before.created.length⟩) rest).Looping :=
        looping.moved top (.inl rfl)
      have emplaced : (Registry.update _ address
          (some ⟨before.created.length, .launched role⟩)).Looping :=
        moved.stays rfl (.emplaced fresh)
      exact emplaced.stays rfl (.of_residents rfl)
  | ended top =>
      intro activation isThere loop isLoop
      have isRunning : activation ∈ before.stack := by
        rw [top]
        exact List.mem_cons_of_mem _ isThere
      exact (looping activation isRunning loop isLoop).stays
        (.of_residents rfl)

/-! ## Loops that came to their end -/

/-- What is recorded of loops. -/
structure LoopRecord where
  loops : List Loop
  erasedInLoop : List WsIdentifier

def loopRecord (registry : Registry Value) : LoopRecord :=
  ⟨registry.loops, registry.erasedInLoop⟩

theorem aside_loopRecord : @Aside Value _ loopRecord :=
  fun _ _ _ _ _ _ _ _ _ _ => rfl

/-- No session was erased inside a loop, and every loop that ended is
complete. -/
structure LoopRecord.Sound (record : LoopRecord) : Prop where
  kept : record.erasedInLoop = []
  complete : ∀ loop ∈ record.loops, loop.Complete

theorem loopRecord_step (recorded : before.loopRecord.Sound)
    (looping : before.Looping) (apart : before.Apart Stage.loops)
    (step : Step rules before after) : after.loopRecord.Sound := by
  cases step with
  | called callable held free =>
      rw [aside_loopRecord.put]
      exact recorded
  | callerMoved moves =>
      rw [aside_loopRecord.callerMoves moves]
      exact recorded
  | sessionMoved found stepped byIoThread free allowed =>
      rw [aside_loopRecord.stepped]
      exact recorded
  | wentOn top goesOn found stepped allowed =>
      rw [aside_loopRecord.stepped]
      exact recorded
  | @loopEnded job loop rest shutdown top atCursor last flag =>
      refine ⟨recorded.kept, List.forall_mem_append.mpr
        ⟨recorded.complete, List.forall_mem_singleton.mpr ?_⟩⟩
      exact (looping.top top rfl).ends last
  | @erased identifier rest resident inLoop top found isInLoop =>
      refine ⟨?_, recorded.complete⟩
      have none_loops : rest.any (·.stage.loops) = false := by
        apply List.any_eq_false.mpr
        intro activation isThere
        simp [apart.below top activation isThere]
      have none_erased : inLoop = [] := by
        simp [isInLoop, none_loops]
      have kept : before.erasedInLoop = [] := recorded.kept
      show before.erasedInLoop ++ inLoop = []
      rw [kept, none_erased]
      rfl
  | foundEmpty top empty =>
      have same := aside_loopRecord.shutdownFinished before 0
      exact same ▸ recorded
  | finished top empty flag =>
      have same := aside_loopRecord.shutdownFinished before 0
      exact same ▸ recorded
  | _ => exact recorded

theorem iterates_of_reachable {registry : Registry Value}
    (reached : Reachable Shares registry) :
    registry.Apart Stage.loops ∧ registry.Looping ∧
      registry.loopRecord.Sound := by
  refine reached.invariantOver (fun registry =>
    registry.Apart Stage.loops ∧ registry.Looping ∧
      registry.loopRecord.Sound) ?_ ?_
  · refine ⟨.nil, ?_, rfl, ?_⟩
    · intro activation isThere
      cases isThere
    · intro loop isLoop
      cases isLoop
  · rintro before after earlier ⟨apart, looping, recorded⟩ step
    have drainsApart := drainsApart_of_shares (roster_sound earlier)
    exact ⟨apart.step drainsApart step, looping.step apart step,
      loopRecord_step recorded looping apart step⟩

end Registry

/-! ## Every run -/

namespace WsService

variable {Value : Type} {service : WsService Value}

/-- While a loop over the map is under way, no job gives up the last lock of
a session. -/
def Shares (service : WsService Value) (event : ServiceEvent Value) : Prop :=
  service.inLoop = true → ∀ address sessionEvent node,
    service.move? event = some (.session address sessionEvent) →
    sessionEvent.byIoThread = false → sessionEvent.releases = true →
    service.map.find? address = some node →
    1 < node.session.locker.lockCount

/-- The map is stable under iteration in the runs where no job gives up the
last lock of a session while a loop is under way: no session is erased inside
a loop, the iterators stay valid, and every loop visits each session that was
there when it began exactly once. -/
theorem iterates_of_shares
    (reached : (serviceMachine Value).ReachableUnder Shares service) :
    service.history.erasedInLoop = [] ∧
      (∀ activation ∈ service.stack, ∀ loop,
        activation.stage.loop? = some loop →
        service.identifierAt? loop.cursor.session = some loop.cursor) ∧
      ∀ loop ∈ service.history.loops, loop.visited.Nodup ∧
        ∀ identifier ∈ loop.present, identifier ∈ loop.visited := by
  have obeys : ∀ (service : WsService Value) event move,
      service.Shares event → service.move? event = some move →
      service.registry.Shares move := by
    intro service event move shares moves
    cases move with
    | enterShutdown => trivial
    | session address sessionEvent =>
        intro inLoop byJob releases resident isThere
        obtain ⟨node, found, rfl⟩ := Option.map_eq_some_iff.mp isThere
        exact shares inLoop address sessionEvent node moves byJob releases found
  obtain ⟨-, looping, recorded⟩ :=
    Registry.iterates_of_reachable (registry_reachable obeys reached)
  refine ⟨recorded.kept, fun activation isThere loop isLoop => ?_,
    recorded.complete⟩
  rw [← identifierAt?_registry]
  exact (looping activation isThere loop isLoop).atCursor

/-- No loop is under way, or every session has two locks. -/
def sharesAll (service : WsService Value) : Bool :=
  !service.inLoop ||
    service.map.entries.all fun entry =>
      decide (1 < entry.2.session.locker.lockCount)

theorem shares_of_sharesAll {event : ServiceEvent Value}
    (shared : service.sharesAll = true) : service.Shares event := by
  intro inLoop address sessionEvent node _ _ _ found
  simp only [sharesAll, inLoop, Bool.not_true, Bool.false_or,
    List.all_eq_true, decide_eq_true_eq] at shared
  exact shared (address, node) (OrderedMap.find?_eq_some.mp found)

/-- All sessions are closed; the one session runs its job inside the loop. -/
def closesOne : List (ServiceEvent Unit) :=
  queued (.closeAll (.ofText "bye")) ++ [.visit, .runInline]

/-- The loop meets a session at work. -/
theorem iterates_over_one :
    ∃ service, (serviceMachine Unit).run .constructed
        (connected 8 () ++ closesOne ++ [.release, .advance, .finish]) =
          some service ∧
      service.history.loops = [⟨⟨8, 0⟩, [⟨8, 0⟩], [⟨8, 0⟩]⟩] ∧
      service.history.erasedInLoop = [] := by
  have ran : (serviceMachine Unit).run .constructed
      (connected 8 () ++ closesOne ++ [.release, .advance, .finish]) =
        some _ := rfl
  have admitted : (serviceMachine Unit).Admitted Shares .constructed
      (connected 8 () ++ closesOne ++ [.release, .advance, .finish]) :=
    Machine.admitted_of_checks
      (fun service _ => @shares_of_sharesAll _ service _) (by rfl)
  have reached := Machine.reachableUnder_of_run rfl admitted ran
  exact ⟨_, ran, rfl, (iterates_of_shares reached).1⟩

/-- The loop meets a session whose last callback returns just then: the loop
erases it and cannot go on. -/
theorem erased_inside_loop :
    ∃ service, (serviceMachine Unit).run .constructed
        (connected 8 () ++ peerCloses 8 ++ closesOne ++
          [.session 8 .callbackReturns false, .release, .begin, .eraseEntry,
            .conclude, .finish]) = some service ∧
      service.history.erasedInLoop = [⟨8, 0⟩] ∧
      ¬service.history.erasedInLoop = [] ∧
      service.step .advance = none := by
  refine ⟨_, rfl, rfl, ?_, rfl⟩
  intro none_erased
  exact List.cons_ne_nil _ _ none_erased

end WsService

end Webservice
