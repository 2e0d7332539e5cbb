import Webservice.Service.Settling

/-!
# Sessions inside the calls of their service

A session runs a job inside a call of its service, or is inside of
`do_accept` or `start`, exactly while the job on top of the stack is at the
stage that says so.
-/

namespace Webservice

/-- What a session does inside a call of its service. -/
structure Engagement where
  /-- Its strand runs a job. -/
  hosted : Bool
  /-- It is in `do_accept` or `start`. -/
  starting : Bool
  deriving DecidableEq

def Engagement.free : Engagement := ⟨false, false⟩

def WsSession.engagement (session : WsSession) : Engagement :=
  ⟨session.strandHost = some .caller, session.inStart⟩

/-- How a job at this stage engages the session at an address. -/
def Stage.engagement (address : Nat) : Stage → Engagement
  | .inlined target _ => ⟨target.session = address, false⟩
  | .starting target => ⟨false, target.session = address⟩
  | _ => .free

theorem Stage.engagement_of_waits {stage : Stage} (waits : stage.waits = true)
    (address : Nat) : stage.engagement address = .free := by
  cases stage <;> first | rfl | cases waits

namespace WsSession

open Effects

variable {session next : WsSession}

theorem engagement_of_frame {before after : WsSession}
    (frame : after.frame = before.frame) :
    after.engagement = before.engagement := by
  have strandHost := congrArg Frame.strandHost frame
  have inStart := congrArg Frame.inStart frame
  have strandHost : after.strandHost = before.strandHost := strandHost
  have inStart : after.inStart = before.inStart := inStart
  rw [engagement, engagement, strandHost, inStart]

/-- A handler engages the session if it runs inside of a call. -/
theorem runHandler_engagement {host : Host} {body : SessionCode Unit}
    (kept : KeepsAt CodeKept body session) :
    (runHandler host body session).engagement =
      ⟨host = .caller, session.inStart⟩ := by
  have frame := (runBody_codeKept host kept).frame
  have inStart : (runHandler host body session).inStart = session.inStart :=
    congrArg Frame.inStart frame
  have occupied : (runHandler host body session).strandHost = some host := rfl
  rw [engagement, inStart, occupied]
  cases host <;> rfl

theorem engagement_of_idle (idle : session.strandHost = none) :
    session.engagement = ⟨false, session.inStart⟩ := by
  rw [engagement, idle]
  rfl

/-- What the threads of the io context do to a session does not engage it. -/
theorem step_engagement {event : SessionEvent}
    (byIoThread : event.byIoThread = true)
    (stepped : session.step event = some next) :
    next.engagement = session.engagement := by
  have completes : ∀ (before : WsSession) (ws : WsStream)
      (body : SessionCode Unit), before.strandHost = none →
      before.engagement = session.engagement →
      KeepsAt CodeKept body { before with ws := ws } →
      (runHandler .ioThread body { before with ws := ws }).engagement =
        session.engagement := by
    intro before ws body idle same kept
    rw [runHandler_engagement kept, ← same, engagement_of_idle idle]
    rfl
  cases event with
  | acceptDone ec =>
      obtain ⟨idle, ws, done, rfl⟩ := complete_eq_some stepped
      exact completes session ws _ idle rfl (acceptHandler_codeKept ec _)
  | readDone ec chunk isText stillOpen =>
      obtain ⟨idle, ws, done, rfl⟩ := complete_eq_some stepped
      exact completes (session.receive ec chunk isText) ws _ idle rfl
        (readHandler_codeKept isText (WsStream.readDone?_closed done))
  | writeDone ec =>
      obtain ⟨idle, ws, done, rfl⟩ := complete_eq_some stepped
      exact completes session ws _ idle rfl (queue_codeKept.writeHandler ec _)
  | pingDone ec stillOpen =>
      obtain ⟨idle, ws, done, rfl⟩ := complete_eq_some stepped
      exact completes session ws _ idle rfl
        (parts_codeKept.pingHandler ec _)
  | closeDone ec stillOpen =>
      obtain ⟨idle, ws, done, rfl⟩ := complete_eq_some stepped
      exact completes session ws _ idle rfl
        (parts_codeKept.closeHandler ec _)
  | controlFrame =>
      obtain ⟨-, -, rfl⟩ := step_controlFrame stepped
      exact engagement_of_frame
        (runBody_codeKept .ioThread (activity_keeps parts_codeKept _)).frame
  | timerExpired =>
      obtain ⟨timer, -, rfl⟩ := step_timerExpired stepped
      rfl
  | timerDone ec =>
      obtain ⟨idle, timer, -, rfl⟩ := step_timerDone stepped
      rw [runHandler_engagement (timer_codeKept.timerHandler ec _),
        engagement_of_idle idle]
      rfl
  | runJob host =>
      obtain ⟨idle, job, jobs, -, -, rfl⟩ := step_runJob stepped
      have onThread : host = .ioThread := of_decide_eq_true byIoThread
      subst onThread
      rw [runHandler_engagement (queue_codeKept.runJob job _),
        engagement_of_idle idle]
      rfl
  | release host =>
      obtain ⟨occupied, rfl⟩ := step_release stepped
      have onThread : host = .ioThread := of_decide_eq_true byIoThread
      subst onThread
      rw [engagement, engagement, occupied]
      rfl
  | callbackBegins =>
      obtain ⟨-, callback, callbacks, -, rfl⟩ := step_callbackBegins stepped
      rfl
  | callbackReturns =>
      obtain ⟨callback, -, rfl⟩ := step_callbackReturns stepped
      rfl
  | streamEnds =>
      obtain ⟨ws, -, rfl⟩ := step_streamEnds stepped
      rfl
  | writeBlock blocked =>
      cases stepped
      rfl
  | startReturns => cases byIoThread
  | dispatch job => cases byIoThread
  | erase => cases byIoThread

/-- A job that is dispatched waits on the strand with its lock; a drained
session reports that there is none. -/
theorem step_dispatch_cases {job : StrandJob}
    (stepped : session.step (.dispatch job) = some next) :
    next = { session.locked with strand := session.strand ++ [job] } ∨
      next = session.report (.runtimeError "async call after shutdown") := by
  obtain ⟨-, rfl⟩ := step_dispatch stepped
  by_cases drained : session.locker.lockCount = 0
  · right
    have threw := makeLock_run_drained drained
    apply after_eq_of_ok
    rw [dispatch, catching, bind_run, threw]
    rfl
  · left
    apply after_eq_of_ok
    rw [dispatch, catching,
      bind_run_ok (makeLock_run (Nat.pos_of_ne_zero drained))]
    rfl

theorem dispatch_engagement {job : StrandJob}
    (stepped : session.step (.dispatch job) = some next) :
    next.engagement = session.engagement := by
  rcases step_dispatch_cases stepped with rfl | rfl <;> rfl

theorem launched_engagement (role : Role) :
    (launched role).engagement = ⟨false, true⟩ := by
  cases role <;> rfl

end WsSession

namespace Registry

variable {Value : Type} {rules : Registry Value → Move → Prop}
  {registry before after : Registry Value} {job : ServiceJob Value}
  {stage stage' : Stage} {rest : List (Activation Value)}

/-- What the session at the address does inside a call of the service. -/
def engaged (registry : Registry Value) (address : Nat) : Engagement :=
  match registry.residents address with
  | some resident => resident.session.engagement
  | none => .free

/-- What the job on top of the stack has it do. -/
def engages (registry : Registry Value) (address : Nat) : Engagement :=
  match registry.stack with
  | [] => .free
  | top :: _ => top.stage.engagement address

/-- The sessions are inside of calls exactly where the job on top says so. -/
def Hosting (registry : Registry Value) : Prop :=
  ∀ address, registry.engaged address = registry.engages address

theorem engages_top (top : registry.stack = ⟨job, stage⟩ :: rest)
    (address : Nat) :
    registry.engages address = stage.engagement address := by
  unfold engages
  rw [top]

theorem engaged_resident {address : Nat} {resident : Resident}
    (found : registry.residents address = some resident) :
    registry.engaged address = resident.session.engagement := by
  unfold engaged
  rw [found]

theorem engaged_update {address : Nat} {resident : Resident}
    (other : Nat) :
    (registry.update address (some resident)).engaged other =
      if other = address then resident.session.engagement
      else registry.engaged other := by
  by_cases isHere : other = address <;>
    simp [engaged, Registry.update, isHere]

theorem Hosting.congr (hosting : before.Hosting)
    (residents : after.residents = before.residents)
    (engages : after.engages = before.engages) : after.Hosting := by
  intro address
  rw [engages, ← hosting address]
  unfold engaged
  rw [residents]

theorem engages_of_waits
    (waits : ∀ activation ∈ registry.stack, activation.stage.waits = true)
    (address : Nat) : registry.engages address = .free := by
  unfold engages
  cases stack : registry.stack with
  | nil => rfl
  | cons top rest =>
      rw [stack] at waits
      exact Stage.engagement_of_waits (waits top List.mem_cons_self) address

/-- A job that starts inside of others engages no session, and neither do
these. -/
theorem engages_put {inline : Bool}
    (waits : inline = true →
      ∀ activation ∈ registry.stack, activation.stage.waits = true) :
    (registry.put job inline).engages = registry.engages := by
  funext address
  cases inline with
  | false => rfl
  | true =>
      rw [engages_of_waits (waits rfl)]
      rfl

theorem Hosting.put {inline : Bool} (hosting : registry.Hosting)
    (waits : inline = true →
      ∀ activation ∈ registry.stack, activation.stage.waits = true) :
    (registry.put job inline).Hosting :=
  hosting.congr (by cases inline <;> rfl) (engages_put waits)

theorem Hosting.putNoexcept {inline : Bool} (hosting : registry.Hosting)
    (waits : inline = true →
      ∀ activation ∈ registry.stack, activation.stage.waits = true) :
    (registry.putNoexcept job inline).Hosting := by
  unfold Registry.putNoexcept
  split
  · exact hosting
  · exact hosting.put waits

theorem Hosting.stepped {address : Nat} {resident : Resident}
    {next : WsSession} {inline : Bool}
    (hosting :
      (registry.update address (some ⟨resident.number, next⟩)).Hosting)
    (waits : resident.session.locker.callbacks < next.locker.callbacks →
      inline = true →
      ∀ activation ∈ registry.stack, activation.stage.waits = true) :
    (registry.stepped address resident next inline).Hosting := by
  unfold Registry.stepped
  split
  · rename_i drains
    exact hosting.putNoexcept (waits drains)
  · exact hosting

/-- A session keeps its engagement. -/
theorem Hosting.update {address : Nat} {resident : Resident}
    {next : WsSession} (hosting : registry.Hosting)
    (found : registry.residents address = some resident)
    (same : next.engagement = resident.session.engagement) :
    (registry.update address (some ⟨resident.number, next⟩)).Hosting := by
  intro other
  rw [engaged_update]
  split
  · rename_i isHere
    subst isHere
    rw [same, ← engaged_resident found]
    exact hosting other
  · exact hosting other

/-- A session that no job engages leaves the map. -/
theorem Hosting.erase {address : Nat} (hosting : registry.Hosting)
    (free : registry.engages address = .free) :
    (registry.update address none).Hosting := by
  intro other
  by_cases isHere : other = address
  · rw [isHere]
    show (registry.update address none).engaged address =
      registry.engages address
    rw [free]
    simp [engaged, Registry.update]
  · have same : (registry.update address none).engaged other =
        registry.engaged other := by
      simp [engaged, Registry.update, isHere]
    exact same.trans (hosting other)

theorem Hosting.shutdownFinished (hosting : registry.Hosting) (size : Nat) :
    (registry.shutdownFinished size).Hosting := by
  unfold Registry.shutdownFinished
  split
  · exact hosting
  · exact hosting

/-- The job on top goes from one stage to another that engages alike. -/
theorem Hosting.toStage (hosting : registry.Hosting)
    (top : registry.stack = ⟨job, stage⟩ :: rest)
    (same : ∀ address, stage'.engagement address = stage.engagement address) :
    (registry.toStage job stage' rest).Hosting := by
  refine hosting.congr rfl ?_
  funext address
  rw [engages_top top, ← same address]
  rfl

/-- The engagement of a session changes together with the stage. -/
theorem Hosting.engage {target : WsIdentifier} {number : Nat}
    {next : WsSession} (hosting : registry.Hosting)
    (top : registry.stack = ⟨job, stage⟩ :: rest)
    (here : next.engagement = stage'.engagement target.session)
    (elsewhere : ∀ address, address ≠ target.session →
      stage'.engagement address = stage.engagement address) :
    ((registry.toStage job stage' rest).update target.session
      (some ⟨number, next⟩)).Hosting := by
  intro address
  rw [engaged_update]
  split
  · rename_i isHere
    rw [isHere]
    exact here
  · rename_i isElsewhere
    have before := hosting address
    rw [engages_top top, ← elsewhere address isElsewhere] at before
    exact before

theorem engagement_afterCall (loop : Option Loop) (address : Nat) :
    (Stage.afterCall loop).engagement address = .free :=
  Stage.engagement_of_waits (Stage.afterCall_waits loop) address

/-- Steps that only move a job on engage no session and let none go. -/
theorem Moves.engagement (moves : registry.Moves job stage stage')
    (address : Nat) :
    stage'.engagement address = stage.engagement address := by
  cases moves with
  | skipped => exact engagement_afterCall _ address
  | _ => rfl

theorem Calls.engagement {target : WsIdentifier} {loop : Option Loop}
    (calls : registry.Calls job stage target loop) (address : Nat) :
    (Stage.called target loop).engagement address =
      stage.engagement address := by
  cases calls <;> rfl

/-- The stages before and after a step of the called session engage no other
session. -/
theorem GoesOn.elsewhere {target : WsIdentifier} {event : SessionEvent}
    (goesOn : GoesOn stage target event stage') {address : Nat}
    (other : address ≠ target.session) :
    stage'.engagement address = stage.engagement address := by
  have notHere : ¬target.session = address := fun same => other same.symm
  cases goesOn with
  | ran => simp [Stage.engagement, Engagement.free, notHere]
  | released =>
      rw [engagement_afterCall]
      simp [Stage.engagement, Engagement.free, notHere]
  | started => simp [Stage.engagement, Engagement.free, notHere]

/-- The called session comes into the call and leaves it. -/
theorem GoesOn.here {target : WsIdentifier} {event : SessionEvent}
    {session next : WsSession} (goesOn : GoesOn stage target event stage')
    (engaged : session.engagement = stage.engagement target.session)
    (stepped : session.step event = some next) :
    next.engagement = stage'.engagement target.session := by
  cases goesOn with
  | ran =>
      obtain ⟨idle, job, jobs, -, -, rfl⟩ := WsSession.step_runJob stepped
      have inStart : session.inStart = false :=
        congrArg Engagement.starting engaged
      have same : ({ session with strand := jobs } : WsSession).inStart =
        false := inStart
      rw [WsSession.runHandler_engagement
        (WsSession.queue_codeKept.runJob job _), same]
      simp [Stage.engagement]
  | released =>
      obtain ⟨-, rfl⟩ := WsSession.step_release stepped
      have inStart : session.inStart = false :=
        congrArg Engagement.starting engaged
      rw [engagement_afterCall, WsSession.engagement]
      simp [Engagement.free, WsSession.unlocked, inStart]
  | started =>
      obtain ⟨-, rfl⟩ := WsSession.step_startReturns stepped
      have hosted : decide (session.strandHost = some .caller) = false :=
        congrArg Engagement.hosted engaged
      have idle : session.strandHost ≠ some .caller :=
        of_decide_eq_false hosted
      simp [WsSession.engagement, Stage.engagement, Engagement.free,
        WsSession.unlocked, idle]

theorem Hosting.step (hosting : before.Hosting) (layered : before.Layered)
    (sound : before.roster.Sound) (step : Step rules before after) :
    after.Hosting := by
  cases step with
  | called callable held free =>
      exact hosting.put fun inline => layered.all_wait (free inline)
  | shutdownCalled unlocked allowed => exact hosting
  | callerMoved moves =>
      cases moves with
      | deferred caller =>
          exact @Hosting.putNoexcept _ _ .onShutdown false hosting
            fun inline => nomatch inline
      | _ => exact hosting
  | sessionMoved found stepped byIoThread free allowed =>
      refine (hosting.update found
        (WsSession.step_engagement byIoThread stepped)).stepped
          fun _ inline => ?_
      rw [(free inline).1]
      exact fun activation isThere => nomatch isThere
  | entered empty queued =>
      refine hosting.congr rfl ?_
      funext address
      unfold engages
      rw [empty]
      rfl
  | moved top moves => exact hosting.toStage top moves.engagement
  | dispatched top calls handed found stepped =>
      exact (hosting.toStage top calls.engagement).update found
        (WsSession.dispatch_engagement stepped)
  | @wentOn job stage stage' rest target event resident next inline top goesOn
      found stepped allowed =>
      have engaged := hosting target.session
      rw [engages_top top, engaged_resident found] at engaged
      refine Hosting.stepped (hosting.engage top
        (goesOn.here engaged stepped) fun address => goesOn.elsewhere)
          fun drains _ => ?_
      have waits := goesOn.waits_of_drains sound found stepped drains
      exact List.forall_mem_cons.mpr ⟨waits, layered.waits top⟩
  | loopEnded top atCursor last flag =>
      exact hosting.toStage top fun _ => rfl
  | missed top missing => exact hosting.toStage top fun _ => rfl
  | @erased identifier rest resident inLoop top found isInLoop =>
      have moved :
          (before.toStage (.onErase identifier) .erased rest).Hosting :=
        hosting.toStage top fun _ => rfl
      exact moved.erase rfl
  | foundEmpty top empty =>
      exact (hosting.shutdownFinished 0).toStage
        ((shutdownFinished_stack before 0).trans top) fun _ => rfl
  | finished top empty flag =>
      exact (hosting.shutdownFinished 0).toStage
        ((shutdownFinished_stack before 0).trans top) fun _ => rfl
  | @emplaced job rest role address top connects fresh =>
      have entered : ∀ other, other ≠ address →
          (Stage.starting ⟨address, before.created.length⟩).engagement
            other = Stage.admitted.engagement other := by
        intro other isElsewhere
        have notHere : ¬address = other := fun same => isElsewhere same.symm
        simp [Stage.engagement, Engagement.free, notHere]
      have launched : (WsSession.launched role).engagement =
          (Stage.starting ⟨address, before.created.length⟩).engagement
            address := by
        rw [WsSession.launched_engagement]
        simp [Stage.engagement]
      exact @Hosting.engage _ _ _ _ _ rest
        ⟨address, before.created.length⟩ _ _ hosting top launched entered
  | ended top =>
      refine hosting.congr rfl ?_
      funext address
      rw [engages_top top, engages_of_waits (layered.waits top)]
      rfl

theorem hosting_of_reachable {registry : Registry Value}
    (reached : Reachable rules registry) : registry.Hosting := by
  refine reached.invariantOver Hosting (fun _ => rfl) ?_
  intro before after earlier hosting step
  have sound := sound_of_reachable earlier
  exact hosting.step sound.layered sound.roster step

end Registry

end Webservice
