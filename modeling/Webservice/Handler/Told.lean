import Webservice.Handler.Integrity

/-!
# Services behind a handler that shuts down

The shutdown job tells the services that are registered when it runs.  A
service that `add_service` registers later is told by nobody.
-/

namespace Webservice

namespace WsServiceHandler

variable {movedFrom : String → String} {handler : WsServiceHandler}

/-- After the shutdown job every service has been told to shut down. -/
def Told (handler : WsServiceHandler) : Prop :=
  handler.shutdown = true → ∀ name service,
    handler.services.find? name = some service → service.isShutdown = true

/-- A service is only put into `services_` before the shutdown job. -/
def AddsInTime (handler : WsServiceHandler) (event : HandlerEvent) : Prop :=
  ∀ name, handler.runs? event = some (.addService name) →
    handler.services.find? name = none → handler.shutdown = false

/-- A service that holds its shutdown lock was told to shut down. -/
def Proper (service : Registered) : Prop :=
  service.base.shutdownLock = true → service.isShutdown = true

/-- What a step makes of the service under a name. -/
inductive Evolves (services : OrderedMap String Registered)
    (runs : Option HandlerJob) (name : String) : Registered → Prop where
  | similar {service after : Registered} :
      services.find? name = some service → Similar service after →
      runs ≠ some .onShutdown → Evolves services runs name after
  | told {service after : Registered} :
      services.find? name = some service →
      after.base = service.base.shutdown → Evolves services runs name after
  | added {number : Nat} :
      services.find? name = none → runs = some (.addService name) →
      Evolves services runs name (.constructed number)

theorem Similar.refl (service : Registered) : Similar service service :=
  ⟨rfl, rfl, rfl, id⟩

/-! ## Jobs -/

theorem shutdownFinished_services (handler : WsServiceHandler) :
    handler.shutdownFinished.services = handler.services ∧
      handler.shutdownFinished.shutdown = handler.shutdown := by
  rw [shutdownFinished]
  split <;> exact ⟨rfl, rfl⟩

/-- An erased entry leaves the others as they were. -/
theorem eraseEntryJob_find? {iter : ServiceIter} {name : String}
    {service : Registered}
    (found : (eraseEntryJob iter handler).services.find? name =
      some service) : handler.services.find? name = some service := by
  have fewer : ∀ {item : Registered},
      (handler.erased iter item).services.find? name = some service →
        handler.services.find? name = some service := by
    intro item stillFound
    have lookup := OrderedMap.find?_erase handler.services iter.name name
    rw [erased, lookup] at stillFound
    split at stillFound
    · cases stillFound
    · exact stillFound
  rw [eraseEntryJob] at found
  split at found
  · exact found
  · split at found
    · split at found
      · rw [(shutdownFinished_services _).1] at found
        exact fewer found
      · exact fewer found
    · exact found

theorem eraseEntryJob_shutdown (iter : ServiceIter)
    (handler : WsServiceHandler) :
    (eraseEntryJob iter handler).shutdown = handler.shutdown := by
  rw [eraseEntryJob]
  split
  · rfl
  · split
    · split
      · exact (shutdownFinished_services _).2
      · rfl
    · rfl

theorem perform_evolves {job : HandlerJob} {name : String}
    {after : Registered}
    (found : (handler.perform movedFrom job).services.find? name =
      some after) : Evolves handler.services (some job) name after := by
  cases job with
  | addService added =>
      rw [perform, addServiceJob] at found
      split at found
      · next free =>
          rw [emplaced_find? free] at found
          split at found
          · next same =>
              cases found
              subst same
              exact .added free rfl
          · exact .similar found (.refl _) (by simp)
      · exact .similar found (.refl _) (by simp)
  | eraseService erasedName =>
      rw [perform, eraseServiceJob] at found
      split at found
      · exact .similar found (.refl _) (by simp)
      · next service wasFound =>
          have lookup := OrderedMap.find?_modify handler.services erasedName
            name fun _ => service.shutdownWith ⟨erasedName, service.number⟩
          rw [lookup] at found
          split at found
          · next same =>
              subst same
              rw [wasFound] at found
              cases found
              exact .told wasFound rfl
          · exact .similar found (.refl _) (by simp)
  | serverConnect req =>
      rw [perform, connectJob] at found
      split at found <;> exact .similar found (.refl _) (by simp)
  | clientConnect host port resource =>
      rw [perform, connectJob] at found
      split at found <;> exact .similar found (.refl _) (by simp)
  | onShutdown =>
      rw [perform, onShutdownJob] at found
      split at found
      · next empty =>
          rw [OrderedMap.isEmpty_iff_find?] at empty
          have same := (shutdownFinished_services { handler with
            history :=
              { handler.history with
                lateJobs :=
                  handler.history.lateJobs + handler.complete.toNat } }).1
          rw [same, empty] at found
          cases found
      · rw [OrderedMap.find?_mapItems, Option.map_eq_some_iff] at found
        obtain ⟨service, wasFound, rfl⟩ := found
        exact .told wasFound rfl
  | eraseEntry iter =>
      exact .similar (eraseEntryJob_find? found) (.refl _) (by simp)

theorem perform_shutdown (handler : WsServiceHandler) (job : HandlerJob) :
    (handler.perform movedFrom job).shutdown =
      if job = .onShutdown then true else handler.shutdown := by
  cases job with
  | addService name =>
      rw [perform, addServiceJob]
      split <;> rfl
  | eraseService name =>
      rw [perform, eraseServiceJob]
      split <;> rfl
  | serverConnect req =>
      rw [perform, connectJob]
      split <;> rfl
  | clientConnect host port resource =>
      rw [perform, connectJob]
      split <;> rfl
  | onShutdown =>
      rw [perform, onShutdownJob]
      split <;> rfl
  | eraseEntry iter => exact eraseEntryJob_shutdown iter handler

/-! ## Steps -/

theorem releaseLock_shutdown (handler : WsServiceHandler) (name : String)
    (service changed : Registered) (inline : Bool) :
    (handler.releaseLock movedFrom name service changed inline).shutdown =
      handler.shutdown := by
  rw [releaseLock]
  split
  · rw [drained]
    split
    · rw [callBack]
      split
      · exact eraseEntryJob_shutdown _ _
      · rfl
    · rfl
  · rfl

theorem releaseLock_find? {name other : String}
    {service changed after : Registered} {inline : Bool}
    (found : (handler.releaseLock movedFrom name service changed
      inline).services.find? other = some after) :
    (handler.services.modify name fun _ => changed).find? other =
      some after := by
  rw [releaseLock] at found
  split at found
  · rw [drained] at found
    split at found
    · rw [callBack] at found
      split at found
      · exact eraseEntryJob_find? found
      · exact found
    · exact found
  · exact found

/-- The service under a name after a service, which may be the same, was
changed to a similar one. -/
theorem modify_evolves {name other : String}
    {service changed after : Registered}
    (wasFound : handler.services.find? name = some service)
    (similar : Similar service changed)
    (found : (handler.services.modify name fun _ => changed).find? other =
      some after) : Evolves handler.services none other after := by
  rw [OrderedMap.find?_modify] at found
  split at found
  · next same =>
      rw [same, wasFound] at found
      cases found
      rw [same]
      exact .similar wasFound similar nofun
  · exact .similar found (.refl _) nofun

theorem step_evolves {event : HandlerEvent} {next : WsServiceHandler}
    (stepped : handler.step movedFrom event = some next) {name : String}
    {after : Registered} (found : next.services.find? name = some after) :
    Evolves handler.services (handler.runs? event) name after := by
  have transition := step_transition stepped
  generalize handler.runs? event = runs at transition ⊢
  generalize handler.releases? event = releases at transition
  cases transition with
  | keeps same =>
      rw [same.services] at found
      exact .similar found (.refl _) nofun
  | pushes job _ same =>
      rw [same.services] at found
      exact .similar found (.refl _) nofun
  | performs job starts same =>
      rw [same.services] at found
      rw [← starts.services]
      exact perform_evolves found
  | acquires wasFound _ similar _ => exact modify_evolves wasFound similar found
  | releases inline wasFound similar _ =>
      exact modify_evolves wasFound similar (releaseLock_find? found)

theorem step_shutdown {event : HandlerEvent} {next : WsServiceHandler}
    (stepped : handler.step movedFrom event = some next) :
    next.shutdown =
      if handler.runs? event = some .onShutdown then true
      else handler.shutdown := by
  have transition := step_transition stepped
  generalize handler.runs? event = runs at transition ⊢
  generalize handler.releases? event = releases at transition
  cases transition with
  | keeps same => exact same.shutdown
  | pushes job _ same => exact same.shutdown
  | performs job starts same =>
      rw [same.shutdown, perform_shutdown, starts.shutdown]
      simp only [Option.some.injEq]
  | acquires _ _ _ _ => rfl
  | releases inline _ _ _ => exact releaseLock_shutdown _ _ _ _ _

/-- A name that `add_service` finds free gets a new service. -/
theorem step_adds {event : HandlerEvent} {next : WsServiceHandler}
    {name : String} (stepped : handler.step movedFrom event = some next)
    (runs : handler.runs? event = some (.addService name))
    (free : handler.services.find? name = none) :
    ∃ number, next.services.find? name = some (.constructed number) := by
  have transition := step_transition stepped
  rw [runs] at transition
  generalize handler.releases? event = releases at transition
  cases transition with
  | @performs start _ _ starts same =>
      rw [← starts.services] at free
      refine ⟨start.history.added.length, ?_⟩
      rw [same.services, perform, addServiceJob, free]
      exact (emplaced_find? free name).trans (if_pos rfl)

/-! ## Runs -/

theorem Proper.shutdown {service after : Registered}
    (proper : Proper service) (told : after.base = service.base.shutdown) :
    after.isShutdown = true := by
  rw [Registered.isShutdown, told, WsHandlerInterface.shutdown]
  split
  · next locked => exact proper locked
  · rfl

/-- Every service that holds its shutdown lock was told to shut down. -/
def AllProper (handler : WsServiceHandler) : Prop :=
  ∀ name service, handler.services.find? name = some service →
    Proper service

theorem AllProper.step {event : HandlerEvent} {next : WsServiceHandler}
    (proper : handler.AllProper)
    (stepped : handler.step movedFrom event = some next) :
    next.AllProper := by
  intro name after found locked
  have evolves := step_evolves stepped found
  generalize handler.runs? event = runs at evolves
  cases evolves with
  | similar wasFound similar _ =>
      rw [similar.isShutdown]
      exact proper name _ wasFound (similar.shutdownLock locked)
  | told wasFound told => exact (proper name _ wasFound).shutdown told
  | added _ _ => cases locked

theorem AllProper.told_iff {event : HandlerEvent} {next : WsServiceHandler}
    (proper : handler.AllProper) (told : handler.Told)
    (stepped : handler.step movedFrom event = some next) :
    next.Told ↔ handler.AddsInTime event := by
  have shutdown := step_shutdown stepped
  constructor
  · intro toldAfter name runs free
    obtain ⟨number, found⟩ := step_adds stepped runs free
    rw [runs, if_neg nofun] at shutdown
    rw [← shutdown, ← Bool.not_eq_true]
    intro isShutdown
    exact Bool.false_ne_true (toldAfter isShutdown name _ found)
  · intro inTime isShutdown name after found
    rw [isShutdown] at shutdown
    have evolves := step_evolves stepped found
    have isInTime := inTime name
    generalize handler.runs? event = runs at evolves shutdown isInTime
    cases evolves with
    | similar wasFound similar notShutdown =>
        rw [if_neg notShutdown] at shutdown
        rw [similar.isShutdown]
        exact told shutdown.symm name _ wasFound
    | told wasFound told => exact (proper name _ wasFound).shutdown told
    | added free runs =>
        rw [runs, if_neg nofun, isInTime runs free] at shutdown
        cases shutdown

theorem constructed_allProper : constructed.AllProper := by
  intro name service found
  cases found

theorem constructed_told : constructed.Told :=
  fun isShutdown => absurd isShutdown Bool.false_ne_true

/-- In a run of the handler every service behind a handler that shuts down
has always been told to shut down, exactly when no service is put into
`services_` after the shutdown job. -/
theorem told_iff_addsInTime {events : List HandlerEvent}
    {last : WsServiceHandler}
    (ran : (handlerMachine movedFrom).run constructed events = some last) :
    (handlerMachine movedFrom).Throughout Told constructed events ↔
      (handlerMachine movedFrom).Admitted AddsInTime constructed events :=
  Machine.throughout_iff_admitted AllProper Told
    (fun _ _ _ proper _ _ _ stepped => proper.step stepped)
    (fun _ _ _ proper _ told stepped => proper.told_iff told stepped)
    (Machine.admitted_true _ _) ran constructed_allProper constructed_told

/-- A thread calls `shutdown()`, and the deferred job runs. -/
def shuttingDown : List HandlerEvent :=
  [.callShutdown, .shutdownStep 0, .shutdownStep 0, .shutdownStep 0,
    .shutdownStep 0, .run, .finish]

/-- A service added while another one still drains is told by nobody. -/
theorem not_told_late :
    ∃ handler, (handlerMachine id).run constructed
        (.setExecutor :: adding "a" ++ shuttingDown ++ adding "b") =
          some handler ∧
      handler.running = none ∧ handler.shutdown = true ∧
      handler.services.find? "b" = some (.constructed 1) ∧
      ¬handler.Told := by
  refine ⟨_, rfl, rfl, rfl, rfl, fun told => ?_⟩
  exact Bool.false_ne_true (told rfl "b" _ rfl)

/-- The services added before the shutdown are told. -/
theorem told_iff_addsInTime_one :
    (handlerMachine id).Throughout Told constructed
      (.setExecutor :: adding "a" ++ shuttingDown) := by
  have ran : (handlerMachine id).run constructed
    (.setExecutor :: adding "a" ++ shuttingDown) = some _ := rfl
  have early : ∀ {handler : WsServiceHandler} {event : HandlerEvent},
      handler.shutdown = false → handler.AddsInTime event :=
    fun unset _ _ _ => unset
  apply (told_iff_addsInTime ran).mpr
  apply Machine.Admitted.cons rfl (early rfl)
  apply Machine.Admitted.cons rfl (early rfl)
  apply Machine.Admitted.cons rfl (early rfl)
  apply Machine.Admitted.cons rfl (early rfl)
  apply Machine.Admitted.cons rfl (early rfl)
  apply Machine.Admitted.cons rfl (early rfl)
  apply Machine.Admitted.cons rfl (early rfl)
  apply Machine.Admitted.cons rfl (early rfl)
  apply Machine.Admitted.cons rfl (early rfl)
  apply Machine.Admitted.cons rfl (early rfl)
  exact Machine.Admitted.cons rfl (fun _ _ _ => by contradiction) trivial

end WsServiceHandler

end Webservice
