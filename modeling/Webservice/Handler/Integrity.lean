import Webservice.Handler.Transition

/-!
# The integrity of the service registry

A service is erased by the job that its callback dispatched when its last
lock was released.  Its locker gives no lock after that, so the job is
dispatched once, and until it runs the entry stays where the iterator points.
-/

namespace Webservice

namespace WsServiceHandler

variable {movedFrom : String → String} {handler : WsServiceHandler}

/-- The iterators of the entries that are to be erased: the one that is owed
to a callback under way, and those on the strand. -/
def erasing (owed : Option ServiceIter) (handler : WsServiceHandler) :
    List ServiceIter :=
  owed.toList ++ handler.strand.filterMap HandlerJob.iter?

/-- The iterator points to its entry, whose service is drained. -/
def Due (handler : WsServiceHandler) (iter : ServiceIter) : Prop :=
  ∃ service, handler.services.find? iter.name = some service ∧
    service.number = iter.number ∧ service.lockCount = 0

structure Intact (owed : Option ServiceIter) (handler : WsServiceHandler) :
    Prop where
  named : ∀ {name service}, handler.services.find? name = some service →
    handler.history.added[service.number]? = some name
  callbacks : ∀ {name service iter},
    handler.services.find? name = some service →
    service.callback = some iter →
    iter = ⟨name, service.number⟩ ∧
      service.number ∈ handler.history.eraseCalled
  due : ∀ iter ∈ handler.erasing owed, handler.Due iter
  once : (handler.erasing owed).Nodup
  called : ∀ iter ∈ handler.erasing none,
    iter.number ∈ handler.history.eraseCalled
  settled : ∀ {name service}, handler.services.find? name = some service →
    service.lockCount = 0 →
    ⟨name, service.number⟩ ∈ handler.erasing owed ∨
      service.number ∈ handler.history.drainedAlone
  alone : ∀ number ∈ handler.history.drainedAlone, ∃ name service,
    handler.services.find? name = some service ∧
      service.number = number ∧ service.lockCount = 0 ∧
      ⟨name, number⟩ ∉ handler.erasing owed
  destroyed : ∀ destruction ∈ handler.history.destroyed,
    destruction.number ∈ handler.history.eraseCalled ∧
      destruction.lockCount = 0
  gone : ∀ destruction ∈ handler.history.destroyed,
    destruction.number < handler.history.added.length ∧
      ∀ name service, handler.services.find? name = some service →
        service.number ≠ destruction.number
  unique : (handler.history.destroyed.map Destruction.number).Nodup
  fresh : handler.history.stale = []

/-- What the invariant looks at, apart from the strand, is the same. -/
structure SameEntries (before after : WsServiceHandler) : Prop where
  services : after.services = before.services
  added : after.history.added = before.history.added
  eraseCalled : after.history.eraseCalled = before.history.eraseCalled
  destroyed : after.history.destroyed = before.history.destroyed
  stale : after.history.stale = before.history.stale
  drainedAlone : after.history.drainedAlone = before.history.drainedAlone

theorem Intact.congr {owed owed' : Option ServiceIter}
    {after : WsServiceHandler} (intact : handler.Intact owed)
    (same : SameEntries handler after)
    (erasing : (after.erasing owed').Perm (handler.erasing owed))
    (called : ∀ iter ∈ after.erasing none,
      iter.number ∈ handler.history.eraseCalled) :
    after.Intact owed' := by
  obtain ⟨services, added, eraseCalled, destroyed, stale, drainedAlone⟩ := same
  constructor
  · rw [services, added]
    exact intact.named
  · rw [services, eraseCalled]
    exact intact.callbacks
  · intro iter isErasing
    rw [Due, services]
    exact intact.due iter (erasing.mem_iff.mp isErasing)
  · exact erasing.nodup_iff.mpr intact.once
  · rw [eraseCalled]
    exact called
  · rw [services, drainedAlone]
    intro name service found drained
    rw [erasing.mem_iff]
    exact intact.settled found drained
  · rw [services, drainedAlone]
    intro number isAlone
    obtain ⟨name, service, found, same, drained, others⟩ :=
      intact.alone number isAlone
    exact ⟨name, service, found, same, drained,
      fun isErasing => others (erasing.mem_iff.mp isErasing)⟩
  · rw [destroyed, eraseCalled]
    exact intact.destroyed
  · rw [destroyed, added, services]
    exact intact.gone
  · rw [destroyed]
    exact intact.unique
  · rw [stale]
    exact intact.fresh

/-! ## Services change -/

/-- Only what services are like and which were asked to be erased may
differ. -/
structure KeptEntries (before after : WsServiceHandler) : Prop where
  strand : after.strand = before.strand
  added : after.history.added = before.history.added
  destroyed : after.history.destroyed = before.history.destroyed
  stale : after.history.stale = before.history.stale
  drainedAlone : after.history.drainedAlone = before.history.drainedAlone

/-- A change of a service that neither drains it nor gives it a callback of
another entry. -/
structure Follows (eraseCalled : List Nat) (name : String)
    (before after : Registered) : Prop where
  number : after.number = before.number
  drained : after.lockCount = 0 ↔ before.lockCount = 0
  callback : after.callback = before.callback ∨
    after.callback = some ⟨name, before.number⟩ ∧
      before.number ∈ eraseCalled

theorem Follows.refl (eraseCalled : List Nat) (name : String)
    (service : Registered) : Follows eraseCalled name service service :=
  ⟨rfl, Iff.rfl, .inl rfl⟩

theorem Intact.follow {owed : Option ServiceIter} {after : WsServiceHandler}
    (intact : handler.Intact owed) (change : String → Registered → Registered)
    (services : ∀ name, after.services.find? name =
      (handler.services.find? name).map (change name))
    (follows : ∀ name service, handler.services.find? name = some service →
      Follows after.history.eraseCalled name service (change name service))
    (eraseCalled : ∀ number ∈ handler.history.eraseCalled,
      number ∈ after.history.eraseCalled)
    (kept : KeptEntries handler after) : after.Intact owed := by
  obtain ⟨strand, added, destroyed, stale, drainedAlone⟩ := kept
  have erasing : ∀ owed, after.erasing owed = handler.erasing owed := by
    intro owed
    rw [WsServiceHandler.erasing, strand, WsServiceHandler.erasing]
  have earlier : ∀ {name changed},
      after.services.find? name = some changed →
      ∃ service, handler.services.find? name = some service ∧
        changed = change name service ∧
        Follows after.history.eraseCalled name service changed := by
    intro name changed found
    rw [services, Option.map_eq_some_iff] at found
    obtain ⟨service, wasFound, rfl⟩ := found
    exact ⟨service, wasFound, rfl, follows name service wasFound⟩
  have later : ∀ {name service},
      handler.services.find? name = some service →
      after.services.find? name = some (change name service) := by
    intro name service found
    rw [services, found, Option.map_some]
  constructor
  · intro name changed found
    obtain ⟨service, wasFound, -, follows⟩ := earlier found
    rw [added, follows.number]
    exact intact.named wasFound
  · intro name changed iter found registered
    obtain ⟨service, wasFound, -, follows⟩ := earlier found
    rw [follows.number]
    rcases follows.callback with same | ⟨own, called⟩
    · rw [same] at registered
      obtain ⟨isOwn, called⟩ := intact.callbacks wasFound registered
      exact ⟨isOwn, eraseCalled _ called⟩
    · rw [own] at registered
      exact ⟨(Option.some.inj registered).symm, called⟩
  · rw [erasing]
    intro iter isErasing
    obtain ⟨service, found, number, drained⟩ := intact.due iter isErasing
    have follows := follows iter.name service found
    exact ⟨_, later found, follows.number.trans number,
      follows.drained.mpr drained⟩
  · rw [erasing]
    exact intact.once
  · rw [erasing]
    exact fun iter isErasing => eraseCalled _ (intact.called iter isErasing)
  · intro name changed found drained
    obtain ⟨service, wasFound, -, follows⟩ := earlier found
    rw [erasing, drainedAlone, follows.number]
    exact intact.settled wasFound (follows.drained.mp drained)
  · rw [drainedAlone, erasing]
    intro number isAlone
    obtain ⟨name, service, found, same, drained, others⟩ :=
      intact.alone number isAlone
    have follows := follows name service found
    exact ⟨name, _, later found, follows.number.trans same,
      follows.drained.mpr drained, others⟩
  · rw [destroyed]
    intro destruction isDestruction
    obtain ⟨called, drained⟩ := intact.destroyed destruction isDestruction
    exact ⟨eraseCalled _ called, drained⟩
  · rw [destroyed, added]
    intro destruction isDestruction
    obtain ⟨small, others⟩ := intact.gone destruction isDestruction
    refine ⟨small, fun name changed found => ?_⟩
    obtain ⟨service, wasFound, -, follows⟩ := earlier found
    rw [follows.number]
    exact others name service wasFound
  · rw [destroyed]
    exact intact.unique
  · rw [stale]
    exact intact.fresh

theorem find?_changed (services : OrderedMap String Registered)
    (name other : String) (changed : Registered) :
    (services.modify name fun _ => changed).find? other =
      (services.find? other).map fun service =>
        if other = name then changed else service := by
  rw [OrderedMap.find?_modify]
  by_cases same : other = name
  · simp only [same, if_true]
  · simp only [if_neg same, Option.map_id']

/-- A change of one service. -/
theorem Intact.followOne {owed : Option ServiceIter}
    {after : WsServiceHandler} {name : String}
    {service changed : Registered} (intact : handler.Intact owed)
    (found : handler.services.find? name = some service)
    (services : after.services = handler.services.modify name fun _ => changed)
    (follows : Follows after.history.eraseCalled name service changed)
    (eraseCalled : ∀ number ∈ handler.history.eraseCalled,
      number ∈ after.history.eraseCalled)
    (kept : KeptEntries handler after) : after.Intact owed := by
  apply intact.follow
    (fun other item => if other = name then changed else item) _ _
    eraseCalled kept
  · intro other
    rw [services, find?_changed]
  · intro other item isFound
    by_cases same : other = name
    · subst same
      rw [found, Option.some.injEq] at isFound
      subst isFound
      rw [if_pos rfl]
      exact follows
    · rw [if_neg same]
      exact .refl _ _ _

theorem Intact.number_lt {owed : Option ServiceIter}
    (intact : handler.Intact owed) {name : String} {service : Registered}
    (found : handler.services.find? name = some service) :
    service.number < handler.history.added.length :=
  (List.getElem?_eq_some_iff.mp (intact.named found)).1

theorem emplaced_find? {name : String}
    (free : handler.services.find? name = none) (other : String) :
    (handler.emplaced name).services.find? other =
      if other = name then some (.constructed handler.history.added.length)
      else handler.services.find? other :=
  OrderedMap.find?_insert (OrderedMap.find?_eq_none.mp free) other

/-- A new service gets a new number. -/
theorem Intact.emplaced {owed : Option ServiceIter}
    (intact : handler.Intact owed) {name : String}
    (free : handler.services.find? name = none) :
    (handler.emplaced name).Intact owed := by
  have lookup := emplaced_find? free
  have kept : ∀ {other service}, handler.services.find? other = some service →
      (handler.emplaced name).services.find? other = some service := by
    intro other service found
    rw [lookup, if_neg, found]
    rintro rfl
    rw [free] at found
    cases found
  have cases : ∀ {other service},
      (handler.emplaced name).services.find? other = some service →
      (other = name ∧
        service = .constructed handler.history.added.length) ∨
      handler.services.find? other = some service := by
    intro other service found
    rw [lookup] at found
    split at found
    · next same => exact .inl ⟨same, (Option.some.inj found).symm⟩
    · exact .inr found
  have longer : (handler.emplaced name).history.added.length =
      handler.history.added.length + 1 := List.length_append
  constructor
  · intro other service found
    rcases cases found with ⟨rfl, rfl⟩ | wasFound
    · exact List.getElem?_concat_length
    · exact (List.getElem?_append_left (intact.number_lt wasFound)).trans
        (intact.named wasFound)
  · intro other service iter found registered
    rcases cases found with ⟨rfl, rfl⟩ | wasFound
    · cases registered
    · exact intact.callbacks wasFound registered
  · intro iter isErasing
    obtain ⟨service, found, drained⟩ := intact.due iter isErasing
    exact ⟨service, kept found, drained⟩
  · exact intact.once
  · exact intact.called
  · intro other service found drained
    rcases cases found with ⟨rfl, rfl⟩ | wasFound
    · cases drained
    · exact intact.settled wasFound drained
  · intro number isAlone
    obtain ⟨other, service, found, rest⟩ := intact.alone number isAlone
    exact ⟨other, service, kept found, rest⟩
  · exact intact.destroyed
  · intro destruction isDestruction
    obtain ⟨small, others⟩ := intact.gone destruction isDestruction
    refine ⟨longer ▸ Nat.lt_succ_of_lt small, fun other service found => ?_⟩
    rcases cases found with ⟨rfl, rfl⟩ | wasFound
    · exact Nat.ne_of_gt small
    · exact others other service wasFound
  · exact intact.unique
  · exact intact.fresh

/-! ## A service is erased -/

theorem Intact.erased {iter : ServiceIter} {service : Registered}
    (intact : handler.Intact (some iter))
    (called : iter.number ∈ handler.history.eraseCalled)
    (found : handler.services.find? iter.name = some service)
    (number : service.number = iter.number)
    (drained : service.lockCount = 0) :
    (handler.erased iter service).Intact none := by
  have lookup : ∀ other, (handler.erased iter service).services.find? other =
      if other = iter.name then none else handler.services.find? other :=
    OrderedMap.find?_erase handler.services iter.name
  have cases : ∀ {other found},
      (handler.erased iter service).services.find? other = some found →
      other ≠ iter.name ∧ handler.services.find? other = some found := by
    intro other item isFound
    rw [lookup] at isFound
    split at isFound
    · cases isFound
    · next different => exact ⟨different, isFound⟩
  have kept : ∀ {other found}, other ≠ iter.name →
      handler.services.find? other = some found →
      (handler.erased iter service).services.find? other = some found := by
    intro other item different isFound
    rw [lookup, if_neg different, isFound]
  have erasing : handler.erasing (some iter) =
      iter :: (handler.erased iter service).erasing none :=
    rfl
  have once := intact.once
  rw [erasing, List.nodup_cons] at once
  -- no other entry has this number
  have only : ∀ {other item}, handler.services.find? other = some item →
      item.number = service.number → other = iter.name := by
    intro other item isFound same
    have named := intact.named isFound
    rw [same, intact.named found] at named
    exact (Option.some.inj named).symm
  constructor
  · intro other item isFound
    exact intact.named (cases isFound).2
  · intro other item registered isFound
    exact intact.callbacks (cases isFound).2
  · intro later isErasing
    obtain ⟨item, isFound, same, isDrained⟩ :=
      intact.due later (erasing ▸ List.mem_cons_of_mem _ isErasing)
    refine ⟨item, kept (fun sameName => once.1 ?_) isFound, same, isDrained⟩
    rw [sameName, found] at isFound
    have sameNumber : later.number = iter.number := by
      rw [← same, ← Option.some.inj isFound, number]
    have sameIter : later = iter := by
      cases later
      cases iter
      cases sameName
      cases sameNumber
      rfl
    exact sameIter ▸ isErasing
  · exact once.2
  · exact intact.called
  · intro other item isFound isDrained
    obtain ⟨different, wasFound⟩ := cases isFound
    refine (intact.settled wasFound isDrained).imp_left fun isErasing => ?_
    rw [erasing] at isErasing
    refine (List.mem_cons.mp isErasing).resolve_left fun same => different ?_
    exact congrArg ServiceIter.name same
  · intro lone isAlone
    obtain ⟨other, item, isFound, same, isDrained, others⟩ :=
      intact.alone lone isAlone
    refine ⟨other, item, kept (fun sameName => others ?_) isFound, same,
      isDrained, fun isErasing => others ?_⟩
    · rw [sameName, found] at isFound
      have sameIter : (⟨other, lone⟩ : ServiceIter) = iter := by
        rw [← same, ← Option.some.inj isFound, number, sameName]
      rw [sameIter, erasing]
      exact List.mem_cons_self
    · rw [erasing]
      exact List.mem_cons_of_mem _ isErasing
  · intro destruction isDestruction
    rcases List.mem_append.mp isDestruction with earlier | last
    · exact intact.destroyed destruction earlier
    · rw [List.mem_singleton.mp last]
      exact ⟨number ▸ called, drained⟩
  · intro destruction isDestruction
    rcases List.mem_append.mp isDestruction with earlier | last
    · obtain ⟨small, others⟩ := intact.gone destruction earlier
      exact ⟨small, fun other item isFound =>
        others other item (cases isFound).2⟩
    · rw [List.mem_singleton.mp last]
      refine ⟨intact.number_lt found, fun other item isFound same => ?_⟩
      obtain ⟨different, wasFound⟩ := cases isFound
      exact different (only wasFound same)
  · have unique : (handler.history.destroyed.map Destruction.number ++
        [service.number]).Nodup := by
      rw [List.nodup_append]
      refine ⟨intact.unique, List.pairwise_singleton _ _, ?_⟩
      intro first isFirst second isSecond same
      obtain ⟨destruction, isDestruction, rfl⟩ := List.mem_map.mp isFirst
      have isLast : second = service.number := List.mem_singleton.mp isSecond
      exact (intact.gone destruction isDestruction).2 iter.name service found
        (isLast.symm.trans same.symm)
    exact List.map_append ▸ unique
  · exact intact.fresh

theorem shutdownFinished_sameEntries (handler : WsServiceHandler) :
    SameEntries handler handler.shutdownFinished ∧
      handler.shutdownFinished.strand = handler.strand := by
  rw [shutdownFinished]
  split <;> exact ⟨⟨rfl, rfl, rfl, rfl, rfl, rfl⟩, rfl⟩

/-- The strand is the same, too. -/
theorem Intact.same {owed : Option ServiceIter} {after : WsServiceHandler}
    (intact : handler.Intact owed) (same : SameEntries handler after)
    (strand : after.strand = handler.strand) : after.Intact owed := by
  have erasing : ∀ owed, after.erasing owed = handler.erasing owed := by
    intro owed
    rw [WsServiceHandler.erasing, strand, WsServiceHandler.erasing]
  apply intact.congr same
  · rw [erasing]
  · rw [erasing]
    exact intact.called

theorem Intact.eraseEntryJob {iter : ServiceIter}
    (intact : handler.Intact (some iter))
    (called : iter.number ∈ handler.history.eraseCalled) :
    (eraseEntryJob iter handler).Intact none := by
  obtain ⟨service, found, number, drained⟩ :=
    intact.due iter List.mem_cons_self
  have erased := intact.erased called found number drained
  simp only [WsServiceHandler.eraseEntryJob, found, number, if_true]
  split
  · obtain ⟨same, strand⟩ :=
      (handler.erased iter service).shutdownFinished_sameEntries
    exact erased.same same strand
  · exact erased

/-! ## Jobs -/

theorem shutdown_lockCount (service : Registered) :
    service.shutdown.lockCount = service.lockCount := by
  rw [Registered.shutdown, Registered.lockCount, WsHandlerInterface.shutdown]
  split <;> rfl

theorem Intact.report {owed : Option ServiceIter}
    (intact : handler.Intact owed) (error : Exception) :
    (handler.report error).Intact owed :=
  intact.same ⟨rfl, rfl, rfl, rfl, rfl, rfl⟩ rfl

theorem Intact.addServiceJob {owed : Option ServiceIter}
    (intact : handler.Intact owed) (name : String) :
    (addServiceJob movedFrom name handler).Intact owed := by
  rw [WsServiceHandler.addServiceJob]
  cases found : handler.services.find? name with
  | none => exact intact.emplaced found
  | some service => exact intact.report _

theorem Intact.eraseServiceJob {owed : Option ServiceIter}
    (intact : handler.Intact owed) (name : String) :
    (eraseServiceJob name handler).Intact owed := by
  rw [WsServiceHandler.eraseServiceJob]
  cases found : handler.services.find? name with
  | none => exact intact.report _
  | some service =>
      apply intact.followOne found rfl
      · refine ⟨rfl, ?_, .inr ⟨rfl, ?_⟩⟩
        · rw [Registered.shutdownWith, shutdown_lockCount]
          rfl
        · exact List.mem_append_right _ (List.mem_singleton.mpr rfl)
      · exact fun number called => List.mem_append_left _ called
      · exact ⟨rfl, rfl, rfl, rfl, rfl⟩

theorem Intact.connectJob {owed : Option ServiceIter}
    (intact : handler.Intact owed) (job : HandlerJob) (name : String) :
    (connectJob job name handler).Intact owed := by
  rw [WsServiceHandler.connectJob]
  split
  · exact intact.report _
  · exact intact.same ⟨rfl, rfl, rfl, rfl, rfl, rfl⟩ rfl

theorem Intact.onShutdownJob {owed : Option ServiceIter}
    (intact : handler.Intact owed) : handler.onShutdownJob.Intact owed := by
  have noted : Intact owed { handler with history :=
      { handler.history with
        lateJobs := handler.history.lateJobs + handler.complete.toNat } } :=
    intact.same ⟨rfl, rfl, rfl, rfl, rfl, rfl⟩ rfl
  rw [WsServiceHandler.onShutdownJob]
  split
  · obtain ⟨same, strand⟩ := shutdownFinished_sameEntries { handler with
      history :=
        { handler.history with
          lateJobs := handler.history.lateJobs + handler.complete.toNat } }
    have finished := noted.same same strand
    exact finished.same ⟨rfl, rfl, rfl, rfl, rfl, rfl⟩ rfl
  · apply intact.follow fun _ => Registered.shutdown
    · exact fun name => OrderedMap.find?_mapItems _ name _
    · intro name service _
      refine ⟨rfl, ?_, .inl rfl⟩
      rw [shutdown_lockCount]
    · exact fun number called => called
    · exact ⟨rfl, rfl, rfl, rfl, rfl⟩

/-- A job that has left the strand is run. -/
theorem Intact.perform {job : HandlerJob}
    (intact : handler.Intact job.iter?)
    (called : ∀ iter, job.iter? = some iter →
      iter.number ∈ handler.history.eraseCalled) :
    (handler.perform movedFrom job).Intact none := by
  cases job with
  | addService name => exact intact.addServiceJob name
  | eraseService name => exact intact.eraseServiceJob name
  | serverConnect req => exact intact.connectJob _ req.target
  | clientConnect host port resource => exact intact.connectJob _ resource
  | onShutdown => exact intact.onShutdownJob
  | eraseEntry iter => exact intact.eraseEntryJob (called iter rfl)

theorem Intact.pop {job : HandlerJob} {jobs : List HandlerJob}
    (intact : handler.Intact none) (strand : handler.strand = job :: jobs) :
    Intact job.iter? { handler with strand := jobs } ∧
      ∀ iter, job.iter? = some iter →
        iter.number ∈ handler.history.eraseCalled := by
  have erasing : handler.erasing none =
      job.iter?.toList ++ jobs.filterMap HandlerJob.iter? := by
    rw [WsServiceHandler.erasing, strand]
    cases job <;> rfl
  constructor
  · apply intact.congr
    · exact ⟨rfl, rfl, rfl, rfl, rfl, rfl⟩
    · rw [erasing]
      exact List.Perm.refl _
    · intro iter isErasing
      apply intact.called
      rw [erasing]
      exact List.mem_append_right _ isErasing
  · intro iter isIter
    apply intact.called
    rw [erasing, isIter]
    exact List.mem_append_left _ (List.mem_singleton.mpr rfl)

theorem Intact.push {job : HandlerJob} (intact : handler.Intact job.iter?)
    (called : ∀ iter, job.iter? = some iter →
      iter.number ∈ handler.history.eraseCalled) :
    (handler.push job).Intact none := by
  have erasing : (handler.push job).erasing none =
      handler.strand.filterMap HandlerJob.iter? ++ job.iter?.toList := by
    rw [WsServiceHandler.erasing, WsServiceHandler.push,
      List.filterMap_append]
    cases job <;> rfl
  apply intact.congr
  · exact ⟨rfl, rfl, rfl, rfl, rfl, rfl⟩
  · rw [erasing]
    exact List.perm_append_comm
  · rw [erasing]
    intro iter isErasing
    rcases List.mem_append.mp isErasing with earlier | last
    · exact intact.called iter earlier
    · exact called iter (Option.mem_toList.mp last)

/-! ## Locks of services -/

/-- The last lock of a service is released: its entry is owed. -/
theorem Intact.drains {name : String} {service changed : Registered}
    (intact : handler.Intact none)
    (found : handler.services.find? name = some service)
    (last : service.lockCount = 1) (number : changed.number = service.number)
    (callback : changed.callback = service.callback)
    (drained : changed.lockCount = 0) :
    Intact (some ⟨name, service.number⟩) { handler with
      services := handler.services.modify name fun _ => changed } := by
  have lookup := fun other => find?_changed handler.services name other changed
  have others : ∀ {other}, other ≠ name →
      (handler.services.modify name fun _ => changed).find? other =
        handler.services.find? other := by
    intro other different
    simp only [lookup, if_neg different, Option.map_id']
  have cases : ∀ {other item},
      (handler.services.modify name fun _ => changed).find? other =
        some item →
      (other = name ∧ item = changed) ∨
        (other ≠ name ∧ handler.services.find? other = some item) := by
    intro other item isFound
    by_cases same : other = name
    · subst same
      rw [lookup, found] at isFound
      simp only [if_true, Option.map_some, Option.some.injEq] at isFound
      exact .inl ⟨rfl, isFound.symm⟩
    · exact .inr ⟨same, others same ▸ isFound⟩
  -- a service with a lock is not about to be erased
  have notDrained : ∀ {other item}, handler.services.find? other = some item →
      item.lockCount = 0 → other ≠ name := by
    rintro other item isFound isDrained rfl
    rw [found, Option.some.injEq] at isFound
    rw [← isFound, last] at isDrained
    cases isDrained
  have here : (handler.services.modify name fun _ => changed).find? name =
      some changed := by
    simp only [lookup, found, if_true, Option.map_some]
  constructor
  · intro other item isFound
    rcases cases isFound with ⟨rfl, rfl⟩ | ⟨-, wasFound⟩
    · exact number ▸ intact.named found
    · exact intact.named wasFound
  · intro other item iter isFound registered
    rcases cases isFound with ⟨rfl, rfl⟩ | ⟨-, wasFound⟩
    · rw [number]
      exact intact.callbacks found (callback ▸ registered)
    · exact intact.callbacks wasFound registered
  · intro iter isErasing
    rcases List.mem_cons.mp isErasing with rfl | queued
    · exact ⟨changed, here, number, drained⟩
    · obtain ⟨item, isFound, same, isDrained⟩ := intact.due iter queued
      refine ⟨item, ?_, same, isDrained⟩
      exact (others (notDrained isFound isDrained)).trans isFound
  · refine List.nodup_cons.mpr ⟨fun queued => ?_, intact.once⟩
    obtain ⟨item, isFound, -, isDrained⟩ := intact.due _ queued
    exact notDrained isFound isDrained rfl
  · exact intact.called
  · intro other item isFound isDrained
    rcases cases isFound with ⟨rfl, rfl⟩ | ⟨-, wasFound⟩
    · left
      rw [number]
      exact List.mem_cons_self
    · exact (intact.settled wasFound isDrained).imp_left
        (List.mem_cons_of_mem _)
  · intro lone isAlone
    obtain ⟨other, item, isFound, same, isDrained, notQueued⟩ :=
      intact.alone lone isAlone
    have different := notDrained isFound isDrained
    refine ⟨other, item, (others different).trans isFound, same, isDrained,
      fun isErasing => ?_⟩
    rcases List.mem_cons.mp isErasing with isOwed | queued
    · exact different (congrArg ServiceIter.name isOwed)
    · exact notQueued queued
  · exact intact.destroyed
  · intro destruction isDestruction
    obtain ⟨small, areOthers⟩ := intact.gone destruction isDestruction
    refine ⟨small, fun other item isFound => ?_⟩
    rcases cases isFound with ⟨rfl, rfl⟩ | ⟨-, wasFound⟩
    · rw [number]
      exact areOthers _ _ found
    · exact areOthers _ _ wasFound
  · exact intact.unique
  · exact intact.fresh

/-- Nothing erases a service that drained without a callback. -/
theorem Intact.leftAlone {iter : ServiceIter}
    (intact : handler.Intact (some iter)) :
    Intact none { handler with history :=
      { handler.history with
        drainedAlone := handler.history.drainedAlone ++ [iter.number] } } := by
  obtain ⟨service, found, number, drained⟩ :=
    intact.due iter List.mem_cons_self
  have once := List.nodup_cons.mp intact.once
  constructor
  · exact intact.named
  · exact intact.callbacks
  · exact fun later queued => intact.due later (List.mem_cons_of_mem _ queued)
  · exact once.2
  · exact intact.called
  · intro name item isFound isDrained
    rcases intact.settled isFound isDrained with isErasing | isAlone
    · rcases List.mem_cons.mp isErasing with isOwed | queued
      · right
        rw [← isOwed]
        exact List.mem_append_right _ (List.mem_singleton.mpr rfl)
      · exact .inl queued
    · exact .inr (List.mem_append_left _ isAlone)
  · intro lone isAlone
    rcases List.mem_append.mp isAlone with earlier | isLast
    · obtain ⟨name, item, isFound, same, isDrained, notErasing⟩ :=
        intact.alone lone earlier
      exact ⟨name, item, isFound, same, isDrained,
        fun queued => notErasing (List.mem_cons_of_mem _ queued)⟩
    · rw [List.mem_singleton.mp isLast]
      exact ⟨iter.name, service, found, number, drained, once.1⟩
  · exact intact.destroyed
  · exact intact.gone
  · exact intact.unique
  · exact intact.fresh

theorem Intact.callBack {iter : ServiceIter}
    (intact : handler.Intact (some iter))
    (called : iter.number ∈ handler.history.eraseCalled) (inline : Bool) :
    (handler.callBack movedFrom iter inline).Intact none := by
  have isCalled : ∀ other, (HandlerJob.eraseEntry iter).iter? = some other →
      other.number ∈ handler.history.eraseCalled := by
    rintro other isIter
    rw [← Option.some.inj isIter]
    exact called
  have owed : handler.Intact (HandlerJob.eraseEntry iter).iter? := intact
  rw [WsServiceHandler.callBack]
  split
  · exact owed.perform isCalled
  · exact owed.push isCalled

/-- A lock of a service is released. -/
theorem Intact.releaseLock {name : String} {service changed : Registered}
    (intact : handler.Intact none)
    (found : handler.services.find? name = some service)
    (number : changed.number = service.number)
    (callback : changed.callback = service.callback)
    (unlocked : changed.lockCount = service.lockCount - 1) (inline : Bool) :
    (handler.releaseLock movedFrom name service changed inline).Intact
      none := by
  rw [WsServiceHandler.releaseLock]
  split
  · next last =>
      have drained : changed.lockCount = 0 := by
        rw [unlocked, last]
      have owed := intact.drains found last number callback drained
      rw [WsServiceHandler.drained]
      cases registered : service.callback with
      | none => exact owed.leftAlone
      | some iter =>
          obtain ⟨rfl, called⟩ := intact.callbacks found registered
          exact owed.callBack called inline
  · next notLast =>
      apply intact.followOne found rfl
      · refine ⟨number, ?_, .inl callback⟩
        rw [unlocked]
        omega
      · exact fun number called => called
      · exact ⟨rfl, rfl, rfl, rfl, rfl⟩

/-! ## Steps -/

theorem SameBooks.sameEntries {before after : WsServiceHandler}
    (same : SameBooks before after) : SameEntries before after :=
  ⟨same.services, (congrArg HandlerHistory.added same.history :),
    (congrArg HandlerHistory.eraseCalled same.history :),
    (congrArg HandlerHistory.destroyed same.history :),
    (congrArg HandlerHistory.stale same.history :),
    (congrArg HandlerHistory.drainedAlone same.history :)⟩

theorem Intact.books {owed : Option ServiceIter} {after : WsServiceHandler}
    (intact : handler.Intact owed) (same : SameBooks handler after) :
    after.Intact owed :=
  intact.same same.sameEntries same.strand

theorem Intact.starts {start : WsServiceHandler} {job : HandlerJob}
    (intact : handler.Intact none) (starts : Starts handler start job) :
    start.Intact job.iter? ∧ ∀ iter, job.iter? = some iter →
      iter.number ∈ start.history.eraseCalled := by
  obtain ⟨services, shutdown, history, strand⟩ := starts
  have called : start.history.eraseCalled = handler.history.eraseCalled :=
    (congrArg HandlerHistory.eraseCalled history :)
  rcases strand with popped | ⟨same, isCall⟩
  · obtain ⟨owed, isCalled⟩ := intact.pop popped
    exact ⟨owed.books ⟨services, rfl, shutdown, history⟩, called ▸ isCalled⟩
  · rw [iter?_of_isCall isCall]
    exact ⟨intact.books ⟨services, same.symm, shutdown, history⟩, nofun⟩

theorem Intact.step {event : HandlerEvent} {next : WsServiceHandler}
    (intact : handler.Intact none)
    (stepped : handler.step movedFrom event = some next) :
    next.Intact none := by
  have transition := step_transition stepped
  generalize handler.runs? event = runs at transition
  generalize handler.releases? event = releases at transition
  cases transition with
  | keeps same => exact intact.books same
  | pushes job notErase same =>
      have pushed : (handler.push job).Intact none := by
        apply Intact.push
        · rw [notErase]
          exact intact
        · intro iter isIter
          rw [notErase] at isIter
          cases isIter
      exact pushed.books same
  | performs job starts same =>
      obtain ⟨owed, called⟩ := intact.starts starts
      exact (owed.perform called).books same
  | acquires found held similar stillHeld =>
      apply intact.followOne found rfl
      · exact ⟨similar.number, iff_of_false stillHeld held,
          .inl similar.callback⟩
      · exact fun number called => called
      · exact ⟨rfl, rfl, rfl, rfl, rfl⟩
  | releases inline found similar unlocked =>
      exact intact.releaseLock found similar.number similar.callback unlocked
        inline

theorem constructed_intact : constructed.Intact none := by
  constructor
  · intro name service found
    cases found
  · intro name service iter found
    cases found
  · intro iter isErasing
    cases isErasing
  · exact List.nodup_nil
  · intro iter isErasing
    cases isErasing
  · intro name service found
    cases found
  · intro number isAlone
    cases isAlone
  · intro destruction isDestruction
    cases isDestruction
  · intro destruction isDestruction
    cases isDestruction
  · exact List.nodup_nil
  · rfl

theorem reachable_intact
    (reached : (handlerMachine movedFrom).Reachable handler) :
    handler.Intact none := by
  induction reached with
  | initial isInitial =>
      rw [isInitial]
      exact constructed_intact
  | step _ _ stepped induction => exact induction.step stepped

/-! ## Connects -/

/-- Connects were passed on between the two states to nothing but services
found under the very name they asked for. -/
def Forwards (before after : WsServiceHandler) : Prop :=
  after.history.forwarded = before.history.forwarded ∨
    ∃ job name service, job.target? = some name ∧
      before.services.find? name = some service ∧
      before.history.added[service.number]? = some name ∧
      after.history.forwarded =
        before.history.forwarded ++ [⟨job, service.number⟩]

theorem shutdownFinished_forwarded (handler : WsServiceHandler) :
    handler.shutdownFinished.history.forwarded =
      handler.history.forwarded := by
  rw [shutdownFinished]
  split <;> rfl

theorem eraseEntryJob_forwarded (iter : ServiceIter)
    (handler : WsServiceHandler) :
    (eraseEntryJob iter handler).history.forwarded =
      handler.history.forwarded := by
  rw [eraseEntryJob]
  split
  · rfl
  · split
    · split
      · exact shutdownFinished_forwarded _
      · rfl
    · rfl

theorem connectJob_forwards {owed : Option ServiceIter}
    (intact : handler.Intact owed) {job : HandlerJob} {name : String}
    (target : job.target? = some name) :
    Forwards handler (connectJob job name handler) := by
  rw [connectJob]
  split
  · exact .inl rfl
  · next service found =>
      exact .inr ⟨job, name, service, target, found, intact.named found, rfl⟩

theorem perform_forwards {owed : Option ServiceIter}
    (intact : handler.Intact owed) (job : HandlerJob) :
    Forwards handler (handler.perform movedFrom job) := by
  cases job with
  | addService name =>
      left
      rw [perform, addServiceJob]
      split <;> rfl
  | eraseService name =>
      left
      rw [perform, eraseServiceJob]
      split <;> rfl
  | serverConnect req => exact connectJob_forwards intact rfl
  | clientConnect host port resource => exact connectJob_forwards intact rfl
  | onShutdown =>
      left
      rw [perform, onShutdownJob]
      split
      · exact shutdownFinished_forwarded _
      · rfl
  | eraseEntry iter => exact .inl (eraseEntryJob_forwarded iter handler)

theorem releaseLock_forwarded (handler : WsServiceHandler) (name : String)
    (service changed : Registered) (inline : Bool) :
    (handler.releaseLock movedFrom name service changed
      inline).history.forwarded = handler.history.forwarded := by
  rw [releaseLock]
  split
  · rw [drained]
    split
    · rw [callBack]
      split
      · exact eraseEntryJob_forwarded _ _
      · rfl
    · rfl
  · rfl

theorem step_forwards {event : HandlerEvent} {next : WsServiceHandler}
    (intact : handler.Intact none)
    (stepped : handler.step movedFrom event = some next) :
    Forwards handler next := by
  have transition := step_transition stepped
  generalize handler.runs? event = runs at transition
  generalize handler.releases? event = releases at transition
  cases transition with
  | keeps same => exact .inl (congrArg HandlerHistory.forwarded same.history :)
  | pushes job _ same =>
      exact .inl (congrArg HandlerHistory.forwarded same.history :)
  | performs job starts same =>
      obtain ⟨owed, -⟩ := intact.starts starts
      have before := congrArg HandlerHistory.forwarded starts.history
      have after := congrArg HandlerHistory.forwarded same.history
      have added := congrArg HandlerHistory.added starts.history
      rcases perform_forwards owed job with none_new |
        ⟨connect, name, service, target, found, named, new⟩
      · exact .inl (after.trans (none_new.trans before))
      · rw [starts.services] at found
        refine .inr ⟨connect, name, service, target, found, added ▸ named, ?_⟩
        exact after.trans (new.trans (before ▸ rfl))
  | acquires _ _ _ _ => exact .inl rfl
  | releases inline _ _ _ => exact .inl (releaseLock_forwarded _ _ _ _ _)

/-! ## Failures -/

/-- A call of `add_service` or `erase_service` that is refused. -/
def Refuses (handler : WsServiceHandler) : HandlerEvent → Prop
  | .call _ _ => handler.hasImpl = false ∨ handler.base.locker.lockCount = 0
  | _ => False

/-- A job of `add_service` or `erase_service` that finds the name taken, or
that finds no service. -/
def Fails (handler : WsServiceHandler) : HandlerJob → Prop
  | .addService name => handler.services.find? name ≠ none
  | .eraseService name => handler.services.find? name = none
  | _ => False

theorem refused_services {event : HandlerEvent} {next : WsServiceHandler}
    (refuses : handler.Refuses event)
    (stepped : handler.step movedFrom event = some next) :
    next.services = handler.services := by
  cases event with
  | call job inline =>
      rw [step, Option.ite_none_right_eq_some] at stepped
      obtain ⟨-, called⟩ := stepped
      simp only [call] at called
      split at called
      · next hasImpl =>
          have drained : handler.base.locker.lockCount = 0 :=
            refuses.resolve_left (by simp [hasImpl])
          cases called
          rw [dispatch, AsyncLocker.makeLock_of_zero drained]
          rfl
      · split at called
        · cases called
          rfl
        · cases called
          rfl
        · cases called
  | setExecutor | callShutdown | shutdownStep _ | run | finish | acquire _
  | release _ _ | serviceFinished _ _ => exact refuses.elim

theorem perform_fails {job : HandlerJob} (fails : handler.Fails job) :
    (handler.perform movedFrom job).services = handler.services := by
  cases job with
  | addService name =>
      obtain ⟨service, found⟩ := Option.ne_none_iff_exists'.mp fails
      rw [perform, addServiceJob, found]
      rfl
  | eraseService name =>
      have missing : handler.services.find? name = none := fails
      rw [perform, eraseServiceJob, missing]
      rfl
  | serverConnect _ | clientConnect _ _ _ | onShutdown | eraseEntry _ =>
      exact fails.elim

theorem failed_services {event : HandlerEvent} {job : HandlerJob}
    {next : WsServiceHandler} (runs : handler.runs? event = some job)
    (fails : handler.Fails job)
    (stepped : handler.step movedFrom event = some next) :
    next.services = handler.services := by
  have transition := step_transition stepped
  rw [runs] at transition
  generalize handler.releases? event = releases at transition
  cases transition with
  | @performs start _ _ starts same =>
      have stillFails : start.Fails job := by
        cases job <;> simp only [Fails, starts.services] at fails ⊢ <;> exact fails
      rw [same.services, perform_fails stillFails, starts.services]

/-- The registry of services stays intact: services are destroyed once, after
`erase_service` and with no lock left, through iterators that still point to
them; connects go to the services they name; and a failed `add_service` or
`erase_service` changes nothing. -/
theorem registry_intact
    (reached : (handlerMachine movedFrom).Reachable handler) :
    (∀ destruction ∈ handler.history.destroyed,
        destruction.number ∈ handler.history.eraseCalled ∧
          destruction.lockCount = 0) ∧
      handler.history.stale = [] ∧
      (handler.history.destroyed.map Destruction.number).Nodup ∧
      ∀ event next, handler.step movedFrom event = some next →
        Forwards handler next ∧
          (handler.Refuses event → next.services = handler.services) ∧
          ∀ job, handler.runs? event = some job → handler.Fails job →
            next.services = handler.services := by
  have intact := reachable_intact reached
  refine ⟨intact.destroyed, intact.fresh, intact.unique, ?_⟩
  intro event next stepped
  exact ⟨step_forwards intact stepped,
    fun refuses => refused_services refuses stepped,
    fun job runs fails => failed_services runs fails stepped⟩

/-- A service is added. -/
def adding (name : String) : List HandlerEvent :=
  [.call (.addService name) false, .run, .finish]

/-- `erase_service` is called and the service drains. -/
def erasingService (name : String) : List HandlerEvent :=
  [.call (.eraseService name) false, .run, .finish,
    .serviceFinished name false, .run, .finish]

/-- A service that was erased is destroyed with no lock left, and its name is
free again. -/
theorem registry_intact_readded :
    ∃ handler, (handlerMachine id).run constructed
        (.setExecutor :: adding "a" ++ erasingService "a" ++ adding "a") =
          some handler ∧
      handler.history.destroyed = [⟨0, 0⟩] ∧
      handler.history.added = ["a", "a"] ∧
      handler.history.stale = [] := by
  have ran : (handlerMachine id).run constructed
    (.setExecutor :: adding "a" ++ erasingService "a" ++ adding "a") =
      some _ := rfl
  obtain ⟨-, fresh, -⟩ := registry_intact (Machine.reachable_of_run rfl ran)
  exact ⟨_, ran, rfl, rfl, fresh⟩

end WsServiceHandler

end Webservice
