import Webservice.Handler.Told

/-!
# The completion of the shutdown of the service handler

A service leaves `services_` through the callback that `erase_service`
registers, and the last one that leaves ends the shutdown.  The shutdown job
registers no callback: a service that was only told to shut down stays.
-/

namespace Webservice

/-- A job that may take back that the shutdown is complete, or complete it
again. -/
def HandlerJob.reopens : HandlerJob → Bool
  | .addService _ => true
  | .onShutdown => true
  | _ => false

namespace WsServiceHandler

variable {movedFrom : String → String} {handler : WsServiceHandler}

/-- Every service left by its callback, and nothing was added or shut down
after the shutdown was complete. -/
structure Clean (handler : WsServiceHandler) : Prop where
  drainedAlone : handler.history.drainedAlone = []
  lateJobs : handler.history.lateJobs = 0

/-- A job that runs does not reopen a shutdown that is complete. -/
def InTime (handler : WsServiceHandler) (runs : Option HandlerJob) : Prop :=
  handler.complete = true → ∀ job, runs = some job → job.reopens = false

/-- The last lock of a service is only released after `erase_service`. -/
def Awaited (releases : Option (String × Registered)) : Prop :=
  ∀ name service, releases = some (name, service) →
    service.lockCount = 1 → service.callback ≠ none

def Orderly (handler : WsServiceHandler) (event : HandlerEvent) : Prop :=
  handler.InTime (handler.runs? event) ∧ Awaited (handler.releases? event)

/-! ## Jobs -/

/-- What `shutdown_finished()` writes into the history. -/
theorem shutdownFinished_history (handler : WsServiceHandler) :
    { handler.shutdownFinished.history with reported := [] } =
      { handler.history with
        finishedCalls := handler.history.finishedCalls + 1
        reported := [] } := by
  rw [shutdownFinished]
  split <;> rfl

theorem eraseEntryJob_clean (iter : ServiceIter)
    (handler : WsServiceHandler) :
    (eraseEntryJob iter handler).history.lateJobs =
        handler.history.lateJobs ∧
      (eraseEntryJob iter handler).history.drainedAlone =
        handler.history.drainedAlone := by
  rw [eraseEntryJob]
  split
  · exact ⟨rfl, rfl⟩
  · next service _ =>
      split
      · split
        · have history := shutdownFinished_history
            (handler.erased iter service)
          exact ⟨(congrArg HandlerHistory.lateJobs history :),
            (congrArg HandlerHistory.drainedAlone history :)⟩
        · exact ⟨rfl, rfl⟩
      · exact ⟨rfl, rfl⟩

theorem complete_of_find? {name : String} {service : Registered}
    (found : handler.services.find? name = some service) :
    handler.complete = false := by
  rw [complete, OrderedMap.isEmpty_of_find? found, Bool.and_false]

theorem perform_clean (handler : WsServiceHandler) (job : HandlerJob) :
    (handler.perform movedFrom job).history.lateJobs =
        handler.history.lateJobs + (job.reopens && handler.complete).toNat ∧
      (handler.perform movedFrom job).history.drainedAlone =
        handler.history.drainedAlone := by
  cases job with
  | addService name =>
      rw [perform, addServiceJob]
      split
      · exact ⟨rfl, rfl⟩
      · next found =>
          rw [complete_of_find? found]
          exact ⟨rfl, rfl⟩
  | eraseService name =>
      rw [perform, eraseServiceJob]
      split <;> exact ⟨rfl, rfl⟩
  | serverConnect req =>
      rw [perform, connectJob]
      split <;> exact ⟨rfl, rfl⟩
  | clientConnect host port resource =>
      rw [perform, connectJob]
      split <;> exact ⟨rfl, rfl⟩
  | onShutdown =>
      rw [perform, onShutdownJob]
      split
      · have history := shutdownFinished_history { handler with
          history :=
            { handler.history with
              lateJobs :=
                handler.history.lateJobs + handler.complete.toNat } }
        exact ⟨(congrArg HandlerHistory.lateJobs history :),
          (congrArg HandlerHistory.drainedAlone history :)⟩
      · exact ⟨rfl, rfl⟩
  | eraseEntry iter => exact eraseEntryJob_clean iter handler

theorem callBack_clean (handler : WsServiceHandler) (iter : ServiceIter)
    (inline : Bool) :
    (handler.callBack movedFrom iter inline).history.lateJobs =
        handler.history.lateJobs ∧
      (handler.callBack movedFrom iter inline).history.drainedAlone =
        handler.history.drainedAlone := by
  rw [callBack]
  split
  · exact eraseEntryJob_clean iter handler
  · exact ⟨rfl, rfl⟩

theorem releaseLock_clean (handler : WsServiceHandler) (name : String)
    (service changed : Registered) (inline : Bool) :
    (handler.releaseLock movedFrom name service changed
        inline).history.lateJobs = handler.history.lateJobs ∧
      (handler.releaseLock movedFrom name service changed
        inline).history.drainedAlone = handler.history.drainedAlone ++
          if service.lockCount = 1 ∧ service.callback = none then
            [service.number]
          else [] := by
  rw [releaseLock]
  split
  · next last =>
      rw [drained]
      split
      · next iter registered =>
          rw [registered, if_neg (by simp), List.append_nil]
          exact callBack_clean _ iter inline
      · next alone =>
          rw [if_pos ⟨last, alone⟩]
          exact ⟨rfl, rfl⟩
  · next notLast =>
      rw [if_neg fun alone => notLast alone.1, List.append_nil]
      exact ⟨rfl, rfl⟩

/-! ## Steps -/

theorem clean_congr {before after : WsServiceHandler}
    (drainedAlone : after.history.drainedAlone = before.history.drainedAlone)
    (lateJobs : after.history.lateJobs = before.history.lateJobs) :
    after.Clean ↔ before.Clean := by
  constructor
  · rintro ⟨alone, late⟩
    exact ⟨drainedAlone.symm.trans alone, lateJobs.symm.trans late⟩
  · rintro ⟨alone, late⟩
    exact ⟨drainedAlone.trans alone, lateJobs.trans late⟩

theorem SameBooks.clean {before after : WsServiceHandler}
    (same : SameBooks before after) : after.Clean ↔ before.Clean :=
  clean_congr (congrArg HandlerHistory.drainedAlone same.history :)
    (congrArg HandlerHistory.lateJobs same.history :)

theorem inTime_none : handler.InTime none :=
  nofun

theorem awaited_none : Awaited none :=
  nofun

theorem inTime_some_iff {job : HandlerJob} :
    handler.InTime (some job) ↔
      (job.reopens && handler.complete) = false := by
  rw [Bool.and_eq_false_iff]
  constructor
  · intro inTime
    cases complete : handler.complete with
    | false => exact .inr rfl
    | true => exact .inl (inTime complete job rfl)
  · rintro (closed | incomplete) complete other isJob
    · rw [← Option.some.inj isJob]
      exact closed
    · rw [incomplete] at complete
      cases complete

theorem awaited_some_iff {name : String} {service : Registered} :
    Awaited (some (name, service)) ↔
      ¬(service.lockCount = 1 ∧ service.callback = none) := by
  constructor
  · rintro awaited ⟨last, alone⟩
    exact awaited name service rfl last alone
  · intro registered other item isService last alone
    cases isService
    exact registered ⟨last, alone⟩

/-- A step leaves the shutdown clean just when it is orderly. -/
theorem step_clean {event : HandlerEvent} {next : WsServiceHandler}
    (stepped : handler.step movedFrom event = some next) :
    next.Clean ↔ handler.Clean ∧ handler.Orderly event := by
  have transition := step_transition stepped
  rw [Orderly]
  generalize handler.runs? event = runs at transition ⊢
  generalize handler.releases? event = releases at transition ⊢
  cases transition with
  | keeps same => rw [same.clean, and_iff_left ⟨inTime_none, awaited_none⟩]
  | pushes job _ same =>
      rw [same.clean, and_iff_left ⟨inTime_none, awaited_none⟩]
      exact clean_congr rfl rfl
  | @performs start _ job starts same =>
      have complete : start.complete = handler.complete := by
        rw [WsServiceHandler.complete, starts.services, starts.shutdown,
          WsServiceHandler.complete]
      have lateJobs : start.history.lateJobs = handler.history.lateJobs :=
        (congrArg HandlerHistory.lateJobs starts.history :)
      have drainedAlone :
          start.history.drainedAlone = handler.history.drainedAlone :=
        (congrArg HandlerHistory.drainedAlone starts.history :)
      obtain ⟨late, alone⟩ := @perform_clean movedFrom start job
      rw [complete, lateJobs] at late
      rw [drainedAlone] at alone
      rw [same.clean, inTime_some_iff, and_iff_left awaited_none]
      constructor
      · rintro ⟨isAlone, isLate⟩
        rw [late, Nat.add_eq_zero_iff, Bool.toNat_eq_zero] at isLate
        exact ⟨⟨alone.symm.trans isAlone, isLate.1⟩, isLate.2⟩
      · rintro ⟨⟨isAlone, isLate⟩, inTime⟩
        exact ⟨alone.trans isAlone, by rw [late, isLate, inTime]; rfl⟩
  | acquires _ _ _ _ =>
      rw [and_iff_left ⟨inTime_none, awaited_none⟩]
      exact clean_congr rfl rfl
  | @releases name service changed inline _ _ _ =>
      obtain ⟨late, alone⟩ := @releaseLock_clean movedFrom handler name
        service changed inline
      rw [awaited_some_iff, and_iff_right inTime_none]
      constructor
      · rintro ⟨isAlone, isLate⟩
        rw [alone, List.append_eq_nil_iff] at isAlone
        refine ⟨⟨isAlone.1, late.symm.trans isLate⟩, fun isLast => ?_⟩
        rw [if_pos isLast] at isAlone
        exact List.cons_ne_nil _ _ isAlone.2
      · rintro ⟨⟨isAlone, isLate⟩, registered⟩
        rw [if_neg registered, List.append_nil] at alone
        exact ⟨alone.trans isAlone, late.trans isLate⟩

/-! ## Calls of `shutdown_finished()` -/

/-- How the calls of `shutdown_finished()` follow from the emptiness of
`services_`, the member `shutdown_` and the number of late jobs. -/
structure Tally (isEmpty shutdown : Bool) (finishedCalls lateJobs : Nat) :
    Prop where
  onTime : lateJobs = 0 → finishedCalls = (shutdown && isEmpty).toNat
  late : 0 < lateJobs → shutdown = true ∧ 0 < finishedCalls
  again : 0 < lateJobs → isEmpty = true → 2 ≤ finishedCalls

section

variable {isEmpty shutdown : Bool} {finishedCalls lateJobs : Nat}

theorem Tally.start : Tally true false 0 0 :=
  ⟨fun _ => rfl, nofun, nofun⟩

/-- A service is added. -/
theorem Tally.added (tally : Tally isEmpty shutdown finishedCalls lateJobs) :
    Tally false shutdown finishedCalls
      (lateJobs + (shutdown && isEmpty).toNat) := by
  cases completed : shutdown && isEmpty with
  | false =>
      constructor
      · intro onTime
        rw [tally.onTime onTime, completed, Bool.and_false]
      · exact tally.late
      · exact nofun
  | true =>
      obtain ⟨isShutdown, wasEmpty⟩ := Bool.and_eq_true_iff.mp completed
      refine ⟨nofun, fun _ => ⟨isShutdown, ?_⟩, nofun⟩
      rcases Nat.eq_zero_or_pos lateJobs with onTime | late
      · rw [tally.onTime onTime, completed]
        exact Nat.one_pos
      · exact (tally.late late).2

/-- The shutdown job finds no service. -/
theorem Tally.ends (tally : Tally true shutdown finishedCalls lateJobs) :
    Tally true true (finishedCalls + 1) (lateJobs + shutdown.toNat) := by
  cases shutdown with
  | false =>
      constructor
      · intro onTime
        rw [tally.onTime onTime]
        rfl
      · exact fun _ => ⟨rfl, Nat.succ_pos _⟩
      · exact fun late => nomatch (tally.late late).1
  | true =>
      refine ⟨nofun, fun _ => ⟨rfl, Nat.succ_pos _⟩, fun _ _ => ?_⟩
      rcases Nat.eq_zero_or_pos lateJobs with onTime | late
      · rw [tally.onTime onTime]
        rfl
      · exact Nat.succ_le_succ (tally.late late).2

/-- The shutdown job finds services. -/
theorem Tally.tells (tally : Tally false shutdown finishedCalls lateJobs) :
    Tally false true finishedCalls lateJobs := by
  constructor
  · intro onTime
    rw [tally.onTime onTime, Bool.and_false, Bool.and_false]
  · exact fun late => ⟨rfl, (tally.late late).2⟩
  · exact nofun

/-- A service is erased. -/
theorem Tally.erases (tally : Tally false shutdown finishedCalls lateJobs) :
    Tally isEmpty shutdown
      (finishedCalls + (shutdown && isEmpty).toNat) lateJobs := by
  constructor
  · intro onTime
    rw [tally.onTime onTime, Bool.and_false]
    exact Nat.zero_add _
  · intro late
    exact ⟨(tally.late late).1, Nat.add_pos_left (tally.late late).2 _⟩
  · intro late nowEmpty
    rw [(tally.late late).1, nowEmpty]
    exact Nat.succ_le_succ (tally.late late).2

end

def Counted (handler : WsServiceHandler) : Prop :=
  Tally handler.services.isEmpty handler.shutdown
    handler.history.finishedCalls handler.history.lateJobs

theorem Counted.congr {before after : WsServiceHandler}
    (counted : before.Counted)
    (services : after.services.isEmpty = before.services.isEmpty)
    (shutdown : after.shutdown = before.shutdown)
    (finishedCalls :
      after.history.finishedCalls = before.history.finishedCalls)
    (lateJobs : after.history.lateJobs = before.history.lateJobs) :
    after.Counted := by
  rw [Counted, services, shutdown, finishedCalls, lateJobs]
  exact counted

theorem Counted.history {before after : WsServiceHandler}
    (counted : before.Counted) (services : after.services = before.services)
    (shutdown : after.shutdown = before.shutdown)
    (history : { after.history with reported := [] } =
      { before.history with reported := [] }) : after.Counted :=
  counted.congr (congrArg OrderedMap.isEmpty services) shutdown
    (congrArg HandlerHistory.finishedCalls history :)
    (congrArg HandlerHistory.lateJobs history :)

/-- `shutdown_finished()` is called and `shutdown_` is left or set. -/
theorem shutdownFinished_counted {shutdown : Bool}
    (tally : Tally handler.services.isEmpty shutdown
      (handler.history.finishedCalls + 1) handler.history.lateJobs) :
    { handler.shutdownFinished with shutdown := shutdown }.Counted := by
  have history := shutdownFinished_history handler
  have finishedCalls := congrArg HandlerHistory.finishedCalls history
  have lateJobs := congrArg HandlerHistory.lateJobs history
  have services := (shutdownFinished_services handler).1
  simp only at finishedCalls lateJobs
  simpa only [Counted, services, finishedCalls, lateJobs] using tally

theorem eraseEntryJob_counted (counted : handler.Counted)
    (iter : ServiceIter) : (eraseEntryJob iter handler).Counted := by
  rw [eraseEntryJob]
  split
  · exact counted
  · next service found =>
      split
      · -- the entry was there, so the shutdown was not complete before
        have tally := counted
        rw [Counted, OrderedMap.isEmpty_of_find? found] at tally
        have erased : Tally (handler.erased iter service).services.isEmpty
            (handler.erased iter service).shutdown
            ((handler.erased iter service).history.finishedCalls +
              (handler.erased iter service).complete.toNat)
            (handler.erased iter service).history.lateJobs := tally.erases
        split
        · next complete =>
            rw [complete] at erased
            have same := (shutdownFinished_services
              (handler.erased iter service)).2
            have ended := shutdownFinished_counted erased
            rw [← same] at ended
            exact ended
        · next incomplete =>
            rw [Bool.eq_false_of_not_eq_true incomplete] at erased
            exact erased
      · exact counted

theorem perform_counted (counted : handler.Counted) (job : HandlerJob) :
    (handler.perform movedFrom job).Counted := by
  cases job with
  | addService name =>
      rw [perform, addServiceJob]
      split
      · next free =>
          have inserted := (emplaced_find? free name).trans (if_pos rfl)
          have tally := counted.added
          rw [Counted, OrderedMap.isEmpty_of_find? inserted]
          exact tally
      · exact counted
  | eraseService name =>
      rw [perform, eraseServiceJob]
      split
      · exact counted
      · exact counted.congr (OrderedMap.isEmpty_modify _ _ _) rfl rfl rfl
  | serverConnect req =>
      rw [perform, connectJob]
      split <;> exact counted
  | clientConnect host port resource =>
      rw [perform, connectJob]
      split <;> exact counted
  | onShutdown =>
      rw [perform, onShutdownJob]
      split
      · next isEmpty =>
          have tally := counted
          rw [Counted, isEmpty] at tally
          have ended := tally.ends
          apply shutdownFinished_counted
          rw [complete, isEmpty, Bool.and_true]
          exact ended
      · next notEmpty =>
          have tally := counted
          rw [Bool.not_eq_true] at notEmpty
          rw [Counted, notEmpty] at tally
          rw [Counted, OrderedMap.isEmpty_mapItems, notEmpty, complete,
            notEmpty, Bool.and_false]
          exact tally.tells
  | eraseEntry iter => exact eraseEntryJob_counted counted iter

theorem releaseLock_counted (counted : handler.Counted) (name : String)
    (service changed : Registered) (inline : Bool) :
    (handler.releaseLock movedFrom name service changed inline).Counted := by
  have updated : { handler with
      services := handler.services.modify name fun _ => changed }.Counted :=
    counted.congr (OrderedMap.isEmpty_modify _ _ _) rfl rfl rfl
  rw [releaseLock]
  split
  · rw [drained]
    split
    · next iter _ =>
        rw [callBack]
        split
        · exact eraseEntryJob_counted updated iter
        · exact updated
    · exact updated
  · exact updated

theorem Counted.step {event : HandlerEvent} {next : WsServiceHandler}
    (counted : handler.Counted)
    (stepped : handler.step movedFrom event = some next) : next.Counted := by
  have transition := step_transition stepped
  generalize handler.runs? event = runs at transition
  generalize handler.releases? event = releases at transition
  cases transition with
  | keeps same => exact counted.history same.services same.shutdown same.history
  | pushes job _ same =>
      exact counted.history same.services same.shutdown same.history
  | performs job starts same =>
      have started := counted.history starts.services starts.shutdown
        starts.history
      exact (perform_counted started job).history same.services same.shutdown
        same.history
  | acquires _ _ _ _ =>
      exact counted.congr (OrderedMap.isEmpty_modify _ _ _) rfl rfl rfl
  | releases inline _ _ _ => exact releaseLock_counted counted _ _ _ inline

theorem reachable_counted
    (reached : (handlerMachine movedFrom).Reachable handler) :
    handler.Counted := by
  induction reached with
  | initial isInitial =>
      rw [isInitial]
      exact Tally.start
  | step _ _ stepped induction => exact induction.step stepped

/-! ## Runs -/

/-- The shutdown job has run, every service is drained and no job is left on
the strand. -/
structure Settled (handler : WsServiceHandler) : Prop where
  shutdown : handler.shutdown = true
  drained : ∀ name service, handler.services.find? name = some service →
    service.lockCount = 0
  strand : handler.strand = []

/-- No service is left and `shutdown_finished()` was called once. -/
def Completed (handler : WsServiceHandler) : Prop :=
  handler.services.isEmpty = true ∧ handler.history.finishedCalls = 1

theorem Settled.completed_iff (settled : handler.Settled)
    (reached : (handlerMachine movedFrom).Reachable handler) :
    handler.Completed ↔ handler.Clean := by
  have intact := reachable_intact reached
  have counted := reachable_counted reached
  constructor
  · rintro ⟨isEmpty, once⟩
    constructor
    · apply List.eq_nil_iff_forall_not_mem.mpr
      intro number isAlone
      obtain ⟨name, service, found, -⟩ := intact.alone number isAlone
      rw [OrderedMap.isEmpty_of_find? found] at isEmpty
      cases isEmpty
    · apply Nat.eq_zero_of_not_pos
      intro late
      have again := counted.again late isEmpty
      rw [once] at again
      exact Nat.not_succ_le_self 1 again
  · rintro ⟨noneAlone, onTime⟩
    have isEmpty : handler.services.isEmpty = true := by
      rw [OrderedMap.isEmpty_iff_find?]
      intro name
      cases found : handler.services.find? name with
      | none => rfl
      | some service =>
          have isErasing := intact.settled found (settled.drained name _ found)
          rw [noneAlone, erasing, settled.strand] at isErasing
          rcases isErasing with isErasing | isAlone
          · cases isErasing
          · cases isAlone
    refine ⟨isEmpty, ?_⟩
    rw [counted.onTime onTime, settled.shutdown, isEmpty]
    rfl

/-- A run of the handler that has shut down, drained every service and left
nothing on the strand has completed its shutdown exactly when all its steps
were orderly. -/
theorem completed_iff_orderly {events : List HandlerEvent}
    (ran : (handlerMachine movedFrom).run constructed events = some handler)
    (settled : handler.Settled) :
    handler.Completed ↔
      (handlerMachine movedFrom).Admitted Orderly constructed events := by
  rw [settled.completed_iff (Machine.reachable_of_run rfl ran)]
  have exact_condition := Machine.run_iff_admitted Clean
    (fun _ _ _ _ stepped => step_clean stepped) (.initial rfl) ran
  rw [exact_condition, and_iff_right ⟨rfl, rfl⟩]

/-- A service that drains behind the shutdown without `erase_service` stays,
and the shutdown never completes. -/
theorem not_completed_told :
    ∃ handler, (handlerMachine id).run constructed
        (.setExecutor :: adding "a" ++ shuttingDown ++
          [.serviceFinished "a" false]) = some handler ∧
      handler.Settled ∧ handler.running = none ∧
      handler.services.isEmpty = false ∧
      handler.history.finishedCalls = 0 ∧ ¬handler.Completed := by
  refine ⟨_, rfl, ⟨rfl, ?_, rfl⟩, rfl, rfl, rfl, fun completed => ?_⟩
  · intro name service found
    have isOnly := List.mem_singleton.mp (OrderedMap.find?_eq_some.mp found)
    rw [(Prod.mk.inj isOnly).2]
    rfl
  · exact absurd completed.2 Nat.zero_ne_one

/-- A service that `erase_service` was called for before the shutdown leaves,
and the shutdown completes. -/
theorem completed_iff_orderly_erased :
    (handlerMachine id).Admitted Orderly constructed
      (.setExecutor :: adding "a" ++
        [.call (.eraseService "a") false, .run, .finish] ++ shuttingDown ++
        [.serviceFinished "a" false, .run, .finish]) := by
  have ran : (handlerMachine id).run constructed
    (.setExecutor :: adding "a" ++
      [.call (.eraseService "a") false, .run, .finish] ++ shuttingDown ++
      [.serviceFinished "a" false, .run, .finish]) = some _ := rfl
  apply (completed_iff_orderly ran _).mp
  · exact ⟨rfl, rfl⟩
  · refine ⟨rfl, ?_, rfl⟩
    intro name service found
    cases found

end WsServiceHandler

end Webservice
