import Webservice.Library.Lists
import Webservice.Service.Hosting
import Webservice.Session.Settling

/-!
# A service whose connections have ended

Once the streams of its sessions have ended and nobody calls it any more, a
service runs the jobs it has and erases its sessions.  Every step takes
something away: a session comes nearer to its end, a job to its last stage,
a loop to the last key, a call of `shutdown()` to its return.
-/

namespace Webservice

/-! ## Weights -/

namespace Stage

/-- How many keys a loop has still to come to. -/
def keysAhead (keys : List Nat) (loop : Loop) : Nat :=
  (keys.filter fun key => decide (loop.cursor.session < key)).length

/-- What a job has left to do when it has called a session. -/
def leftWeight (keys : List Nat) : Option Loop → Nat
  | none => 1
  | some loop => 6 * keysAhead keys loop + 2

end Stage

/-- What a job has left to do when it starts, in a map with these keys. -/
def ServiceJob.weight {Value : Type} (keys : List Nat)
    (job : ServiceJob Value) : Nat :=
  if job.isErase then 4 else 6 * keys.length + 7

/-- What a job has left to do at its stage. -/
def Activation.weight {Value : Type} (keys : List Nat) :
    Activation Value → Nat
  | ⟨job, .entered⟩ => job.weight keys
  | ⟨_, .visiting loop⟩ => Stage.leftWeight keys (some loop) + 5
  | ⟨_, .called _ loop⟩ => Stage.leftWeight keys loop + 2
  | ⟨_, .inlined _ loop⟩ => Stage.leftWeight keys loop + 1
  | ⟨_, .left loop⟩ => Stage.leftWeight keys (some loop)
  | ⟨_, .erasing⟩ => 3
  | ⟨_, .erased⟩ => 2
  | ⟨_, .admitted⟩ => 2
  | ⟨_, .starting _⟩ => 2
  | ⟨_, .finished⟩ => 1

/-- What a call of `shutdown()` has left to do, with the job it defers. -/
def ShutdownCall.weight (keys : List Nat) : ShutdownCall → Nat
  | .deferring => 6 * keys.length + 9
  | .testing => 6 * keys.length + 10
  | .storing _ => 6 * keys.length + 11
  | .exchanging => 6 * keys.length + 12

/-- What a session has left to do, with the job that erases it. -/
def Node.weight {Value : Type} (node : Node Value) : Nat :=
  node.session.rank + if node.session.locker.callbacks = 0 then 5 else 0

/-- The events by which the job on top goes on. -/
def ServiceEvent.byJob {Value : Type} : ServiceEvent Value → Bool
  | .call _ _ => false
  | .callShutdown => false
  | .shutdownStep _ => false
  | .session _ _ _ => false
  | .enter => false
  | .emplace _ => false
  | _ => true

namespace WsService

variable {Value : Type}

/-- The jobs and the calls of `shutdown()`, in a map with these keys. -/
def load (service : WsService Value) (keys : List Nat) : Nat :=
  (service.queue.map fun job => job.weight keys + 1).sum +
    (service.stack.map fun activation => activation.weight keys).sum +
    (service.callers.map fun caller => caller.weight keys).sum

def rank (service : WsService Value) : Nat :=
  service.map.total Node.weight + service.load service.map.keys

/-- The events by which a service goes on when nobody calls it, no session
comes in and nothing more arrives on the sockets. -/
def Works (service : WsService Value) : ServiceEvent Value → Prop
  | .call _ _ => False
  | .callShutdown => False
  | .emplace _ => False
  | .session address event _ => ∀ node,
      service.map.find? address = some node → node.session.Works event
  | _ => True

/-- The loop of the job on top stands at a session that was erased. -/
def Dangles (service : WsService Value) : Prop :=
  ∃ job loop rest, (service.stack = ⟨job, .visiting loop⟩ :: rest ∨
    service.stack = ⟨job, .left loop⟩ :: rest) ∧
      service.atCursor? loop = none

/-- The sessions in the map have run as sessions do, and their streams have
ended. -/
def Ended (service : WsService Value) : Prop :=
  ∀ address node, service.map.find? address = some node →
    sessionMachine.Reachable node.session ∧ node.session.ws.phase = .ended

/-- A step takes something away and brings no stream back. -/
structure Lowers (service next : WsService Value) : Prop where
  ended : next.Ended
  lower : next.rank < service.rank

end WsService

namespace Stage

variable {keys : List Nat}

theorem keysAhead_le {fewer : List Nat} (sublist : fewer.Sublist keys)
    (loop : Loop) : keysAhead fewer loop ≤ keysAhead keys loop :=
  (sublist.filter _).length_le

/-- A key that comes after the iterator is one that lies ahead of it. -/
theorem keysAhead_lt {loop : Loop} {cursor : WsIdentifier}
    (isKey : cursor.session ∈ keys)
    (ahead : loop.cursor.session < cursor.session) :
    keysAhead keys { loop with cursor := cursor } < keysAhead keys loop := by
  have same : (keys.filter fun key => decide (cursor.session < key)) =
      (keys.filter fun key => decide (loop.cursor.session < key)).filter
        fun key => decide (cursor.session < key) := by
    rw [List.filter_filter]
    apply List.filter_congr
    intro key _
    by_cases behind : cursor.session < key
    · simp [behind, Nat.lt_trans ahead behind]
    · simp [behind]
  rw [keysAhead, same, keysAhead]
  apply List.length_filter_lt_length_iff_exists.mpr
  refine ⟨cursor.session, List.mem_filter.mpr ⟨isKey, ?_⟩, ?_⟩
  · exact decide_eq_true ahead
  · simp

/-- The first key is not ahead of itself. -/
theorem keysAhead_lt_length (loop : Loop)
    (isKey : loop.cursor.session ∈ keys) :
    keysAhead keys loop < keys.length := by
  apply List.length_filter_lt_length_iff_exists.mpr
  exact ⟨loop.cursor.session, isKey, by simp⟩

theorem leftWeight_le {fewer : List Nat} (sublist : fewer.Sublist keys)
    (loop : Option Loop) : leftWeight fewer loop ≤ leftWeight keys loop := by
  cases loop with
  | none => exact Nat.le_refl _
  | some loop =>
      have fewerAhead := keysAhead_le sublist loop
      simp only [leftWeight]
      omega

end Stage

section

variable {Value : Type} {keys fewer : List Nat}

theorem Activation.weight_afterCall (job : ServiceJob Value)
    (loop : Option Loop) :
    Activation.weight keys ⟨job, .afterCall loop⟩ =
      Stage.leftWeight keys loop := by
  cases loop <;> rfl

theorem ServiceJob.weight_le (sublist : fewer.Sublist keys)
    (job : ServiceJob Value) : job.weight fewer ≤ job.weight keys := by
  have fewerKeys := sublist.length_le
  unfold ServiceJob.weight
  split <;> omega

theorem Activation.weight_le (sublist : fewer.Sublist keys)
    (activation : Activation Value) :
    activation.weight fewer ≤ activation.weight keys := by
  obtain ⟨job, stage⟩ := activation
  cases stage with
  | entered => exact ServiceJob.weight_le sublist job
  | visiting loop =>
      exact Nat.add_le_add_right (Stage.leftWeight_le sublist _) 5
  | called target loop =>
      exact Nat.add_le_add_right (Stage.leftWeight_le sublist _) 2
  | inlined target loop =>
      exact Nat.add_le_add_right (Stage.leftWeight_le sublist _) 1
  | left loop => exact Stage.leftWeight_le sublist (some loop)
  | _ => exact Nat.le_refl _

theorem ShutdownCall.weight_le (sublist : fewer.Sublist keys)
    (caller : ShutdownCall) : caller.weight fewer ≤ caller.weight keys := by
  have fewerKeys := sublist.length_le
  cases caller <;> simp only [ShutdownCall.weight] <;> omega

end

namespace WsSession

variable {session next : WsSession}

/-- A job that is dispatched is one more job on the strand. -/
theorem dispatch_rank {job : StrandJob}
    (stepped : session.step (.dispatch job) = some next) :
    next.ws.phase = session.ws.phase ∧ next.rank ≤ session.rank + 2 := by
  rcases step_dispatch_cases stepped with rfl | rfl
  · refine ⟨rfl, ?_⟩
    simp only [rank, load, operations, locked, List.length_append,
      List.length_singleton]
    omega
  · exact ⟨rfl, Nat.le_add_right _ 2⟩

end WsSession

namespace WsService

variable {Value : Type} {service next : WsService Value}

/-- Jobs have less to do in a smaller map. -/
theorem load_le {keys fewer : List Nat} (service : WsService Value)
    (sublist : fewer.Sublist keys) :
    service.load fewer ≤ service.load keys := by
  have queue := List.sum_le_sum (l := service.queue)
    (f := fun job => job.weight fewer + 1)
    (g := fun job => job.weight keys + 1)
    fun job _ => Nat.add_le_add_right (job.weight_le sublist) 1
  have stack := List.sum_le_sum (l := service.stack)
    (f := fun activation => activation.weight fewer)
    (g := fun activation => activation.weight keys)
    fun activation _ => activation.weight_le sublist
  have callers := List.sum_le_sum (l := service.callers)
    (f := fun caller => caller.weight fewer)
    (g := fun caller => caller.weight keys)
    fun caller _ => caller.weight_le sublist
  unfold load
  omega

/-! ## What the operations do to the rank -/

theorem rank_setValue (address : Nat) (change : Node Value → Value) :
    ({ service with map := service.map.modify address fun node =>
        { node with value := change node } } : WsService Value).rank =
      service.rank := by
  have total : (service.map.modify address fun node =>
      { node with value := change node }).total Node.weight =
        service.map.total Node.weight := by
    unfold OrderedMap.total OrderedMap.modify
    rw [List.map_map]
    congr 1
    apply List.map_congr_left
    intro entry _
    simp only [Function.comp_apply]
    split <;> rfl
  unfold rank
  rw [total, OrderedMap.modify_keys]
  rfl

/-- The job on top comes to another stage. -/
theorem rank_toStage {job : ServiceJob Value} {stage : Stage}
    {rest : List (Activation Value)}
    (top : service.stack = ⟨job, stage⟩ :: rest) (stage' : Stage) :
    (service.toStage stage').rank +
        Activation.weight service.map.keys ⟨job, stage⟩ =
      service.rank + Activation.weight service.map.keys ⟨job, stage'⟩ := by
  have moved : service.toStage stage' =
      { service with stack := ⟨job, stage'⟩ :: rest } := by
    unfold toStage
    rw [top]
  simp only [moved, rank, load, top, List.map_cons, List.sum_cons]
  omega

theorem rank_put (locker : AsyncLocker) (job : ServiceJob Value)
    (inline : Bool) :
    (service.put locker job inline).rank ≤
      service.rank + (job.weight service.map.keys + 1) := by
  cases inline with
  | false =>
      simp only [put, rank, load, List.map_append, List.sum_append,
        List.map_cons, List.map_nil, List.sum_cons, List.sum_nil,
        Bool.false_eq_true, if_false]
      omega
  | true =>
      simp only [put, rank, load, List.map_cons, List.sum_cons, if_true,
        Activation.weight]
      omega

theorem rank_putNoexcept (service : WsService Value)
    (job : ServiceJob Value) (inline : Bool) :
    (service.putNoexcept job inline).rank ≤
      service.rank + (job.weight service.map.keys + 1) := by
  unfold putNoexcept
  split
  · exact rank_put _ job inline
  · exact Nat.le_add_right _ _

/-- `shutdown_finished` writes to the locks and to the history only. -/
theorem shutdownFinished_apart {Field : Type}
    (field : WsService Value → Field)
    (apart : ∀ (service : WsService Value) locker lock history,
      field { service with
        locker := locker
        shutdownLock := lock
        history := history } = field service) :
    field service.shutdownFinished = field service := by
  unfold shutdownFinished
  dsimp only
  split
  · exact apart service service.locker service.shutdownLock _
  · split
    · exact apart service service.locker.unlock false _
    · exact apart service service.locker service.shutdownLock _

theorem rank_shutdownFinished :
    service.shutdownFinished.rank = service.rank :=
  shutdownFinished_apart rank fun _ _ _ _ => rfl

theorem shutdownFinished_map : service.shutdownFinished.map = service.map :=
  shutdownFinished_apart map fun _ _ _ _ => rfl

theorem shutdownFinished_sameStack :
    service.shutdownFinished.stack = service.stack :=
  shutdownFinished_apart stack fun _ _ _ _ => rfl

/-- A session takes a step in its place in the map. -/
theorem rank_setSession {address : Nat} {node : Node Value}
    (found : service.map.find? address = some node) (session : WsSession) :
    (service.setSession address session).rank + node.weight =
      service.rank + Node.weight { node with session := session } := by
  have total := OrderedMap.total_modify found
    (fun node => { node with session := session }) Node.weight
  have keys := OrderedMap.modify_keys service.map address
    fun node => { node with session := session }
  have same : (service.setSession address session).rank =
      (service.map.modify address fun node =>
        { node with session := session }).total Node.weight +
          service.load service.map.keys := by
    rw [rank, setSession, keys]
    rfl
  rw [same]
  unfold rank
  omega

/-! ## Sessions whose streams have ended -/

theorem Ended.of_map (ended : service.Ended) (same : next.map = service.map) :
    next.Ended := by
  unfold Ended
  rw [same]
  exact ended

theorem Ended.setSession {address : Nat} {node : Node Value}
    {event : SessionEvent} {session : WsSession} (ended : service.Ended)
    (found : service.map.find? address = some node)
    (stepped : node.session.step event = some session)
    (stillEnded : session.ws.phase = .ended) :
    (service.setSession address session).Ended := by
  intro other resident isThere
  simp only [WsService.setSession, OrderedMap.find?_modify] at isThere
  split at isThere
  · rename_i isHere
    rw [isHere, found] at isThere
    cases isThere
    exact ⟨.step (ended address node found).1 trivial stepped, stillEnded⟩
  · exact ended other resident isThere

theorem putNoexcept_map (job : ServiceJob Value) (inline : Bool) :
    (service.putNoexcept job inline).map = service.map := by
  unfold putNoexcept
  split
  · cases inline <;> rfl
  · rfl

/-- The rank of the service follows the rank of the session, and covers the
job that erases it. -/
theorem stepSession_rank {address : Nat} {event : SessionEvent}
    {inline : Bool} {gain bound : Nat} (ended : service.Ended)
    (changes : ∀ node session, service.map.find? address = some node →
      node.session.step event = some session →
      session.ws.phase = .ended ∧
        session.rank + gain ≤ node.session.rank + bound)
    (stepped : service.stepSession address event inline = some next) :
    next.Ended ∧ next.rank + gain ≤ service.rank + bound := by
  unfold stepSession at stepped
  cases found : service.map.find? address with
  | none => rw [found] at stepped; cases stepped
  | some node =>
      simp only [found, Option.map_eq_some_iff] at stepped
      obtain ⟨session, sessionStepped, rfl⟩ := stepped
      obtain ⟨stillEnded, less⟩ := changes node session found sessionStepped
      have locks := WsSession.locksSound_of_reachable
        (ended address node found).1
      have moved := ended.setSession found sessionStepped stillEnded
      have rank := rank_setSession found session
      have calledBack := WsSession.callbacks_eq locks
      have grows := (WsSession.step_kept locks sessionStepped).callbacks
      simp only [Node.weight] at rank
      split
      · rename_i drains
        have before : node.session.locker.callbacks = 0 := by
          have latched := WsSession.callbacks_eq
            (WsSession.step_locksSound locks sessionStepped)
          split at latched <;> omega
        have after : session.locker.callbacks ≠ 0 := by omega
        rw [if_pos before, if_neg after] at rank
        have erases := rank_putNoexcept (service.setSession address session)
          (.onErase ⟨address, node.number⟩) inline
        have weight : ServiceJob.weight
            (service.setSession address session).map.keys
              (ServiceJob.onErase ⟨address, node.number⟩ :
                ServiceJob Value) = 4 := rfl
        rw [weight] at erases
        refine ⟨moved.of_map (putNoexcept_map _ _), ?_⟩
        unfold onErase
        omega
      · rename_i silent
        have same : session.locker.callbacks =
            node.session.locker.callbacks := by omega
        rw [same] at rank
        exact ⟨moved, by omega⟩

theorem stepSession_keys {address : Nat} {event : SessionEvent}
    {inline : Bool}
    (stepped : service.stepSession address event inline = some next) :
    next.map.keys = service.map.keys := by
  unfold stepSession at stepped
  cases found : service.map.find? address with
  | none => rw [found] at stepped; cases stepped
  | some node =>
      simp only [found, Option.map_eq_some_iff] at stepped
      obtain ⟨session, -, rfl⟩ := stepped
      have keys := OrderedMap.modify_keys service.map address
        fun node => { node with session := session }
      split
      · exact (congrArg OrderedMap.keys (putNoexcept_map _ _)).trans keys
      · exact keys

theorem stepSession_stack {address : Nat} {event : SessionEvent}
    (stepped : service.stepSession address event false = some next) :
    next.stack = service.stack := by
  obtain ⟨resident, session, -, -, after⟩ := stepSession_registry stepped
  exact (congrArg Registry.stack after).trans
    (Registry.stepped_stack _ _ _ _)

/-- What a session does by itself brings it nearer to its end. -/
theorem stepSession_lowers {address : Nat} {event : SessionEvent}
    {inline : Bool} (ended : service.Ended)
    (works : ∀ node, service.map.find? address = some node →
      node.session.Works event)
    (stepped : service.stepSession address event inline = some next) :
    service.Lowers next := by
  have changes : ∀ node session, service.map.find? address = some node →
      node.session.step event = some session →
      session.ws.phase = .ended ∧
        session.rank + 1 ≤ node.session.rank + 0 := by
    intro node session found sessionStepped
    obtain ⟨reached, isEnded⟩ := ended address node found
    exact WsSession.step_lowers
      (WsSession.handshakeSound_of_reachable reached) isEnded
      (works node found) sessionStepped
  obtain ⟨stillEnded, less⟩ := stepSession_rank ended changes stepped
  exact ⟨stillEnded, less⟩

/-! ## Jobs -/

section

variable {job : ServiceJob Value} {stage : Stage}
  {rest : List (Activation Value)}

theorem toStage_map (stage' : Stage) :
    (service.toStage stage').map = service.map := by
  unfold toStage
  split <;> rfl

/-- The job on top comes to a stage with less to do. -/
theorem movedOn_lowers (service other : WsService Value) {stage' : Stage}
    (ended : other.Ended) (same : other.rank = service.rank)
    (top : other.stack = ⟨job, stage⟩ :: rest)
    (lighter : Activation.weight other.map.keys ⟨job, stage'⟩ <
      Activation.weight other.map.keys ⟨job, stage⟩) :
    service.Lowers (other.toStage stage') := by
  have moved := rank_toStage top stage'
  exact ⟨ended.of_map (toStage_map stage'), by omega⟩

/-- A job calls a session, which gets one more job. -/
theorem callSession_lowers (service other : WsService Value)
    {target : WsIdentifier} {strandJob : StrandJob} {loop : Option Loop}
    (ended : other.Ended) (same : other.rank = service.rank)
    (top : other.stack = ⟨job, stage⟩ :: rest)
    (lighter : Stage.leftWeight other.map.keys loop + 5 ≤
      Activation.weight other.map.keys ⟨job, stage⟩)
    (called : other.callSession target strandJob loop = some next) :
    service.Lowers next := by
  obtain ⟨between, stepped, rfl⟩ := Option.map_eq_some_iff.mp called
  have dispatched : ∀ node session,
      other.map.find? target.session = some node →
      node.session.step (.dispatch strandJob) = some session →
      session.ws.phase = .ended ∧
        session.rank + 0 ≤ node.session.rank + 2 := by
    intro node session found sessionStepped
    obtain ⟨phase, more⟩ := WsSession.dispatch_rank sessionStepped
    exact ⟨phase.trans (ended _ node found).2, more⟩
  obtain ⟨stillEnded, more⟩ := stepSession_rank ended dispatched stepped
  have moved := rank_toStage ((stepSession_stack stepped).trans top)
    (.called target loop)
  rw [stepSession_keys stepped] at moved
  have weight : Activation.weight other.map.keys
      (⟨job, .called target loop⟩ : Activation Value) =
        Stage.leftWeight other.map.keys loop + 2 := rfl
  exact ⟨stillEnded.of_map (toStage_map _), by omega⟩

theorem entered_weight (plain : job.isErase = false) (keys : List Nat) :
    Activation.weight keys ⟨job, .entered⟩ = 6 * keys.length + 7 := by
  show job.weight keys = _
  rw [ServiceJob.weight, plain]
  rfl

/-- A job that has just started finds nothing to do. -/
theorem finished_lowers (service other : WsService Value)
    (ended : other.Ended) (same : other.rank = service.rank)
    (top : other.stack = ⟨job, .entered⟩ :: rest)
    (plain : job.isErase = false) :
    service.Lowers (other.toStage .finished) := by
  apply movedOn_lowers service other ended same top
  rw [entered_weight plain]
  exact Nat.succ_lt_succ (Nat.succ_pos _)

/-- A job on one session calls it, or does not find it. -/
theorem actOn_lowers {identifier : WsIdentifier} {strandJob : StrandJob}
    (ended : service.Ended)
    (top : service.stack = ⟨job, .entered⟩ :: rest)
    (plain : job.isErase = false)
    (acted : service.actOn identifier (fun service _ =>
      service.callSession identifier strandJob none) = some next) :
    service.Lowers next := by
  have weight := entered_weight plain service.map.keys
  unfold actOn at acted
  split at acted
  · cases acted
    exact finished_lowers service service ended rfl top plain
  · rename_i node found
    have noted : (service.note identifier node.number).Ended := ended
    apply callSession_lowers service _ noted rfl top _ acted
    have same : Activation.weight
        (service.note identifier node.number).map.keys ⟨job, .entered⟩ =
          6 * service.map.keys.length + 7 := weight
    rw [same]
    simp only [Stage.leftWeight]
    omega

theorem startLoop_lowers (ended : service.Ended)
    (top : service.stack = ⟨job, .entered⟩ :: rest)
    (plain : job.isErase = false) : service.Lowers service.startLoop := by
  have weight := entered_weight plain service.map.keys
  unfold startLoop
  cases first : service.map.first?.bind service.identifierAt? with
  | none => exact finished_lowers service service ended rfl top plain
  | some cursor =>
      obtain ⟨address, isFirst, isThere⟩ := Option.bind_eq_some_iff.mp first
      have isKey := (OrderedMap.first?_eq_some isFirst).1
      obtain ⟨node, -, rfl⟩ := Option.map_eq_some_iff.mp isThere
      apply movedOn_lowers service service ended rfl top
      rw [weight]
      have fewer := Stage.keysAhead_lt_length
        ⟨⟨address, node.number⟩, service.identifiers, []⟩ isKey
      simp only [Activation.weight, Stage.leftWeight]
      omega

theorem admitConnect_lowers (ended : service.Ended)
    (top : service.stack = ⟨job, .entered⟩ :: rest)
    (plain : job.isErase = false) :
    service.Lowers service.admitConnect := by
  unfold admitConnect
  split
  · exact finished_lowers service (service.report _) ended rfl top plain
  · apply movedOn_lowers service service ended rfl top
    rw [entered_weight plain]
    exact Nat.succ_lt_succ (Nat.succ_lt_succ (Nat.succ_pos _))

theorem setValue_ended (ended : service.Ended) (address : Nat)
    (change : Node Value → Value) :
    ({ service with map := service.map.modify address fun node =>
        { node with value := change node } } : WsService Value).Ended := by
  intro other node isThere
  simp only [OrderedMap.find?_modify] at isThere
  split at isThere
  · obtain ⟨before, found, rfl⟩ := Option.map_eq_some_iff.mp isThere
    exact ended other before found
  · exact ended other node isThere

theorem begin_lowers (ended : service.Ended)
    (top : service.stack = ⟨job, .entered⟩ :: rest)
    (begun : service.begin job = some next) : service.Lowers next := by
  cases job with
  | send identifier isText data => exact actOn_lowers ended top rfl begun
  | close identifier reason => exact actOn_lowers ended top rfl begun
  | modifyValue identifier fn =>
      simp only [begin, actOn] at begun
      split at begun
      · cases begun
        exact finished_lowers service service ended rfl top rfl
      · rename_i node found
        have noted : (service.note identifier node.number).Ended := ended
        have modified := setValue_ended noted identifier.session
          fun node => (fn node.value).2
        have same := @rank_setValue _ (service.note identifier node.number)
          identifier.session fun node => (fn node.value).2
        split at begun
        · cases begun
          exact finished_lowers service _ modified same top rfl
        · cases begun
          exact finished_lowers service _ modified same top rfl
  | sendIf fn isText data =>
      cases begun
      exact startLoop_lowers ended top rfl
  | closeIf fn reason =>
      cases begun
      exact startLoop_lowers ended top rfl
  | onShutdown =>
      simp only [begin] at begun
      split at begun
      · cases begun
        exact finished_lowers service { service.shutdownFinished with
          shutdown := true } (ended.of_map shutdownFinished_map)
            rank_shutdownFinished (shutdownFinished_sameStack.trans top) rfl
      · cases begun
        exact startLoop_lowers ended top rfl
  | onErase identifier =>
      simp only [begin] at begun
      split at begun
      · cases begun
        apply movedOn_lowers service (service.miss identifier) ended rfl top
        show 1 < 4
        omega
      · cases begun
        apply movedOn_lowers service service ended rfl top
        show 3 < 4
        omega
  | serverConnect value =>
      cases begun
      exact admitConnect_lowers ended top rfl
  | clientConnect value =>
      cases begun
      exact admitConnect_lowers ended top rfl

theorem visitIf_lowers {fn : UnaryFunction Value} {node : Node Value}
    {loop : Loop} {strandJob : StrandJob} (ended : service.Ended)
    (top : service.stack = ⟨job, stage⟩ :: rest)
    (weight : Activation.weight service.map.keys ⟨job, stage⟩ =
      Stage.leftWeight service.map.keys (some loop) + 5)
    (visited : service.visitIf fn node loop strandJob = some next) :
    service.Lowers next := by
  have modified := setValue_ended ended loop.cursor.session
    fun node => (fn loop.cursor.session node.value).2
  have same := @rank_setValue _ service loop.cursor.session
    fun node => (fn loop.cursor.session node.value).2
  have keys := OrderedMap.modify_keys service.map loop.cursor.session
    fun node =>
      { node with value := (fn loop.cursor.session node.value).2 }
  have left : ∀ other : WsService Value, other.Ended →
      other.rank = service.rank → other.stack = service.stack →
      other.map.keys = service.map.keys →
      service.Lowers (other.toStage (.left loop)) := by
    intro other stillEnded same stack keys
    apply movedOn_lowers service other stillEnded same (stack.trans top)
    rw [keys, weight]
    exact Nat.lt_add_of_pos_right (Nat.succ_pos _)
  unfold visitIf at visited
  dsimp only at visited
  split at visited
  · apply callSession_lowers service _ modified same top _ visited
    rw [keys, weight]
  · cases visited
    exact left _ modified same rfl keys
  · cases visited
    exact left _ modified same rfl keys

theorem visit_lowers {loop : Loop} (ended : service.Ended)
    (top : service.stack = ⟨job, .visiting loop⟩ :: rest)
    (visited : service.visit job loop = some next) :
    service.Lowers next := by
  unfold visit at visited
  split at visited
  · cases visited
  · have weight :
        Activation.weight service.map.keys ⟨job, .visiting loop⟩ =
          Stage.leftWeight service.map.keys (some
            { loop with visited := loop.visited ++ [loop.cursor] }) + 5 := rfl
    dsimp only at visited
    split at visited
    · exact visitIf_lowers ended top weight visited
    · exact visitIf_lowers ended top weight visited
    · exact callSession_lowers service service ended rfl top weight.ge visited
    · cases visited

/-- The loop goes on at a key that lay ahead, or ends. -/
theorem advance_lowers {loop : Loop} (ended : service.Ended)
    (top : service.stack = ⟨job, .left loop⟩ :: rest)
    (advanced : service.advance job loop = some next) :
    service.Lowers next := by
  have finished : ∀ other : WsService Value, other.Ended →
      other.rank = service.rank → other.stack = service.stack →
      service.Lowers (other.toStage .finished) := by
    intro other stillEnded same stack
    apply movedOn_lowers service other stillEnded same (stack.trans top)
    exact Nat.succ_lt_succ (Nat.succ_pos _)
  unfold advance at advanced
  split at advanced
  · cases advanced
  · split at advanced
    · rename_i cursor follows
      cases advanced
      obtain ⟨address, isNext, isThere⟩ :=
        Option.bind_eq_some_iff.mp follows
      obtain ⟨isKey, ahead⟩ := (OrderedMap.next?_eq_some isNext).1
      obtain ⟨node, -, rfl⟩ := Option.map_eq_some_iff.mp isThere
      apply movedOn_lowers service service ended rfl top
      have fewer := @Stage.keysAhead_lt service.map.keys loop
        ⟨address, node.number⟩ isKey ahead
      simp only [Activation.weight, Stage.leftWeight]
      omega
    · dsimp only at advanced
      split at advanced
      · cases advanced
        exact finished _ ended rfl rfl
      · cases advanced
        exact finished _ ended rfl rfl

theorem Ended.erase (ended : service.Ended) (address : Nat)
    (history : ServiceHistory) :
    ({ service with
      map := service.map.erase address
      history := history } : WsService Value).Ended := by
  intro other node isThere
  simp only [OrderedMap.find?_erase] at isThere
  split at isThere
  · cases isThere
  · exact ended other node isThere

theorem eraseEntry_lowers {identifier : WsIdentifier}
    (ended : service.Ended)
    (top : service.stack = ⟨job, .erasing⟩ :: rest)
    (erased : service.eraseEntry identifier = some next) :
    service.Lowers next := by
  unfold eraseEntry at erased
  split at erased
  · cases erased
  · cases erased
    have fewerSessions := OrderedMap.total_erase_le service.map
      identifier.session Node.weight
    have fewerKeys : (service.map.erase identifier.session).keys.Sublist
        service.map.keys := List.filter_sublist.map _
    have fewerJobs := service.load_le fewerKeys
    let fewer (history : ServiceHistory) : WsService Value := { service with
      map := service.map.erase identifier.session
      history := history }
    have less : ∀ history, (fewer history).rank ≤ service.rank :=
      fun _ => Nat.add_le_add fewerSessions fewerJobs
    have moved : ∀ history,
        (fewer history).Lowers ((fewer history).toStage .erased) :=
      fun history => movedOn_lowers _ _
        (ended.erase identifier.session history) rfl top (Nat.lt_succ_self 2)
    exact ⟨(moved _).ended, Nat.lt_of_lt_of_le (moved _).lower (less _)⟩

theorem conclude_lowers (ended : service.Ended)
    (top : service.stack = ⟨job, .erased⟩ :: rest) :
    service.Lowers service.conclude := by
  unfold conclude
  split
  · exact movedOn_lowers service service.shutdownFinished
      (ended.of_map shutdownFinished_map) rank_shutdownFinished
      (shutdownFinished_sameStack.trans top) (Nat.lt_succ_self 1)
  · exact movedOn_lowers service service ended rfl top (Nat.lt_succ_self 1)

/-- A session that the job on top has called goes on inside the call. -/
theorem wentOn_lowers {target : WsIdentifier} {event : SessionEvent}
    {stage' : Stage} {inline : Bool} (ended : service.Ended)
    (top : service.stack = ⟨job, stage⟩ :: rest)
    (works : ∀ session : WsSession, session.Works event)
    (lighter : Activation.weight service.map.keys ⟨job, stage'⟩ <
      Activation.weight service.map.keys ⟨job, stage⟩)
    (stepped : (service.toStage stage').stepSession target.session event
      inline = some next) : service.Lowers next := by
  have moved := movedOn_lowers service service ended rfl top lighter
  have goesOn := stepSession_lowers moved.ended
    (fun node _ => works node.session) stepped
  exact ⟨goesOn.ended, Nat.lt_trans goesOn.lower moved.lower⟩

theorem ranInline_lowers {target : WsIdentifier} {loop : Option Loop}
    (ended : service.Ended)
    (top : service.stack = ⟨job, .called target loop⟩ :: rest)
    (ran : (service.stepSession target.session (.runJob .caller) false).map
      (fun service => service.toStage (.inlined target loop)) = some next) :
    service.Lowers next := by
  obtain ⟨between, stepped, rfl⟩ := Option.map_eq_some_iff.mp ran
  have runs : ∀ node, service.map.find? target.session = some node →
      node.session.Works (.runJob .caller) := fun _ _ => trivial
  have goesOn := stepSession_lowers ended runs stepped
  have moved : between.Lowers (between.toStage (.inlined target loop)) :=
    movedOn_lowers between between goesOn.ended rfl
      ((stepSession_stack stepped).trans top) (Nat.lt_succ_self _)
  exact ⟨moved.ended, Nat.lt_trans moved.lower goesOn.lower⟩

theorem work_lowers {event : ServiceEvent Value} (ended : service.Ended)
    (works : service.Works event)
    (top : service.stack = ⟨job, stage⟩ :: rest)
    (worked : service.work rest job stage event = some next) :
    service.Lowers next := by
  unfold work at worked
  split at worked
  · exact begin_lowers ended top worked
  · exact visit_lowers ended top worked
  · cases worked
    apply movedOn_lowers service service ended rfl top
    rw [Activation.weight_afterCall]
    exact Nat.lt_add_of_pos_right (Nat.succ_pos 1)
  · exact ranInline_lowers ended top worked
  · have releases : ∀ session : WsSession,
        session.Works (.release .caller) := fun _ => trivial
    apply wentOn_lowers ended top releases _ worked
    rw [Activation.weight_afterCall]
    exact Nat.lt_succ_self _
  · exact advance_lowers ended top worked
  · have returns : ∀ session : WsSession, session.Works .startReturns :=
      fun _ => trivial
    apply wentOn_lowers ended top returns _ worked
    exact Nat.lt_succ_self 1
  · split at worked
    · exact eraseEntry_lowers ended top worked
    · cases worked
  · cases worked
    exact conclude_lowers ended top
  · cases works
  · cases worked
    exact movedOn_lowers service (service.report _) ended rfl top
      (Nat.lt_succ_self 1)
  · cases worked
    refine ⟨ended, ?_⟩
    simp only [finish, rank, load, top, List.map_cons, List.sum_cons,
      Activation.weight]
    omega
  · cases worked

/-! ## Steps -/

/-- A call of `shutdown()` takes its next step. -/
theorem rank_setCaller {index : Nat} {caller : ShutdownCall}
    (isThere : service.callers[index]? = some caller)
    (caller' : ShutdownCall) :
    ({ service with
        callers := service.callers.set index caller' } :
          WsService Value).rank + caller.weight service.map.keys =
      service.rank + caller'.weight service.map.keys := by
  have callers := Lists.sum_set isThere caller'
    fun caller => caller.weight service.map.keys
  unfold rank load
  dsimp only
  omega

theorem rank_eraseCaller {index : Nat} {caller : ShutdownCall}
    (isThere : service.callers[index]? = some caller) :
    ({ service with
        callers := service.callers.eraseIdx index } :
          WsService Value).rank + caller.weight service.map.keys =
      service.rank := by
  have callers := Lists.sum_eraseIdx isThere
    fun caller => caller.weight service.map.keys
  unfold rank load
  dsimp only
  omega

theorem shutdownStep_lowers {index : Nat} (ended : service.Ended)
    (stepped : service.shutdownStep index = some next) :
    service.Lowers next := by
  have moved : ∀ caller caller' : ShutdownCall,
      service.callers[index]? = some caller →
      caller'.weight service.map.keys < caller.weight service.map.keys →
      ({ service with
        callers := service.callers.set index caller' } :
          WsService Value).rank < service.rank := by
    intro caller caller' isThere lighter
    have rank := rank_setCaller isThere caller'
    omega
  unfold shutdownStep at stepped
  split at stepped
  · cases stepped
  · rename_i caller
    cases stepped
    exact ⟨ended, moved _ _ caller (Nat.lt_succ_self _)⟩
  · rename_i caller
    cases stepped
    exact ⟨ended, moved _ _ caller (Nat.lt_succ_self _)⟩
  · rename_i caller
    split at stepped
    · cases stepped
      exact ⟨ended, moved _ _ caller (Nat.lt_succ_self _)⟩
    · cases stepped
      have rank := rank_eraseCaller caller
      exact ⟨ended, rank ▸ Nat.lt_add_of_pos_right (Nat.succ_pos _)⟩
  · rename_i caller
    cases stepped
    have rank := rank_eraseCaller caller
    have deferred := rank_putNoexcept { service with
      callers := service.callers.eraseIdx index } .onShutdown false
    have same : WsService.putNoexcept { service with
        callers := service.callers.eraseIdx index } .onShutdown false =
        { service.onShutdown with
          callers := service.callers.eraseIdx index } := by
      unfold onShutdown putNoexcept
      dsimp only
      split <;> rfl
    have job : ServiceJob.weight service.map.keys
        (ServiceJob.onShutdown : ServiceJob Value) =
          6 * service.map.keys.length + 7 := rfl
    have call : ShutdownCall.weight service.map.keys .deferring =
      6 * service.map.keys.length + 9 := rfl
    rw [same, job] at deferred
    exact ⟨ended.of_map (putNoexcept_map _ _), by omega⟩

theorem step_lowers {event : ServiceEvent Value} (ended : service.Ended)
    (works : service.Works event)
    (stepped : service.step event = some next) : service.Lowers next := by
  unfold step at stepped
  split at stepped
  · cases stepped
  split at stepped
  · cases works
  · cases works
  · exact shutdownStep_lowers ended stepped
  · split at stepped
    · exact stepSession_lowers ended works stepped
    · cases stepped
  · split at stepped
    · rename_i empty queued
      cases stepped
      refine ⟨ended, ?_⟩
      simp only [rank, load, empty, queued, List.map_cons, List.map_nil,
        List.sum_cons, List.sum_nil, Activation.weight]
      omega
    · cases stepped
  · split at stepped
    · cases stepped
    · rename_i top
      exact work_lowers ended works top stepped

end

/-! ## Nothing gets stuck -/

section

variable {job : ServiceJob Value} {stage : Stage}
  {rest : List (Activation Value)}

theorem callSession_isSome {other : WsService Value} {target : WsIdentifier}
    {node : Node Value} {strandJob : StrandJob} {loop : Option Loop}
    (found : other.map.find? target.session = some node)
    (alive : node.session.erased = false) :
    other.callSession target strandJob loop ≠ none := by
  simp [callSession, stepSession, found, WsSession.step, alive]

/-- No session in the map has been erased. -/
def Alive (service : WsService Value) : Prop :=
  ∀ address node, service.map.find? address = some node →
    node.session.erased = false

theorem begin_isSome (alive : service.Alive) (job : ServiceJob Value) :
    service.begin job ≠ none := by
  have acts : ∀ (identifier : WsIdentifier) (strandJob : StrandJob),
      service.actOn identifier (fun service _ =>
        service.callSession identifier strandJob none) ≠ none := by
    intro identifier strandJob
    unfold actOn
    split
    · exact Option.some_ne_none _
    · rename_i node found
      have noted : (service.note identifier node.number).map.find?
        identifier.session = some node := found
      exact callSession_isSome noted (alive _ node found)
  cases job with
  | send identifier isText data => exact acts identifier _
  | close identifier reason => exact acts identifier _
  | modifyValue identifier fn =>
      simp only [begin, actOn]
      split
      · exact Option.some_ne_none _
      · split <;> exact Option.some_ne_none _
  | onShutdown =>
      simp only [begin]
      split <;> exact Option.some_ne_none _
  | onErase identifier =>
      simp only [begin]
      split <;> exact Option.some_ne_none _
  | _ => exact Option.some_ne_none _

theorem visit_isSome {loop : Loop} {node : Node Value}
    (alive : service.Alive) (walks : job.walks = true)
    (atCursor : service.atCursor? loop = some node) :
    service.visit job loop ≠ none := by
  have found := (Option.filter_eq_some_iff.mp atCursor).1
  have isAlive := alive _ node found
  have visits : ∀ (fn : UnaryFunction Value) (strandJob : StrandJob)
      (loop' : Loop), loop'.cursor = loop.cursor →
      service.visitIf fn node loop' strandJob ≠ none := by
    intro fn strandJob loop' same
    unfold visitIf
    dsimp only
    split
    · have modified : (service.map.modify loop'.cursor.session fun node =>
          { node with
            value := (fn loop'.cursor.session node.value).2 }).find?
              loop'.cursor.session =
          some { node with
            value := (fn loop'.cursor.session node.value).2 } := by
        rw [OrderedMap.find?_modify, if_pos rfl, same, found]
        rfl
      exact callSession_isSome modified isAlive
    · exact Option.some_ne_none _
    · exact Option.some_ne_none _
  simp only [visit, atCursor]
  cases job with
  | sendIf fn isText data => exact visits fn _ _ rfl
  | closeIf fn reason => exact visits fn _ _ rfl
  | onShutdown => exact callSession_isSome found isAlive
  | _ => cases walks

theorem advance_isSome {loop : Loop} {node : Node Value}
    (atCursor : service.atCursor? loop = some node) :
    service.advance job loop ≠ none := by
  simp only [advance, atCursor]
  split
  · exact Option.some_ne_none _
  · split <;> exact Option.some_ne_none _

/-- A session inside of a call is in the map. -/
theorem engaged_node {address : Nat}
    (busy : service.registry.engaged address ≠ .free) :
    ∃ node, service.map.find? address = some node ∧
      node.session.engagement = service.registry.engaged address := by
  cases found : service.map.find? address with
  | none =>
      have absent : service.registry.engaged address = .free := by
        unfold Registry.engaged
        rw [residents_eq_none.mpr found]
      exact absurd absent busy
  | some node =>
      exact ⟨node, rfl,
        (Registry.engaged_resident (residents_eq_some found)).symm⟩

/-- The job on top can go on, unless its loop has lost its place. -/
theorem work_isSome (sound : service.registry.Sound)
    (proper : service.registry.Proper) (hosting : service.registry.Hosting)
    (alive : service.Alive) (top : service.stack = ⟨job, stage⟩ :: rest)
    (holds : ¬service.Dangles) :
    ∃ event, ServiceEvent.byJob event = true ∧
      service.work rest job stage event ≠ none := by
  have comes := proper.top top
  have engaged : ∀ address, service.registry.engaged address =
      stage.engagement address := fun address =>
    (hosting address).trans (Registry.engages_top top address)
  cases stage with
  | entered => exact ⟨.begin, rfl, begin_isSome alive job⟩
  | visiting loop =>
      cases atCursor : service.atCursor? loop with
      | none => exact absurd ⟨job, loop, rest, .inl top, atCursor⟩ holds
      | some node => exact ⟨.visit, rfl, visit_isSome alive comes atCursor⟩
  | called target loop => exact ⟨.skip, rfl, Option.some_ne_none _⟩
  | inlined target loop =>
      have hosted : service.registry.engaged target.session =
          ⟨true, false⟩ := by
        rw [engaged]
        simp [Stage.engagement]
      have busy : service.registry.engaged target.session ≠ .free := by
        rw [hosted]
        decide
      obtain ⟨node, found, same⟩ := engaged_node busy
      rw [hosted] at same
      have host : node.session.strandHost = some .caller :=
        of_decide_eq_true (congrArg Engagement.hosted same)
      refine ⟨.release, rfl, ?_⟩
      simp [work, stepSession, toStage_map, found, WsSession.step, host]
  | left loop =>
      cases atCursor : service.atCursor? loop with
      | none => exact absurd ⟨job, loop, rest, .inr top, atCursor⟩ holds
      | some node => exact ⟨.advance, rfl, advance_isSome atCursor⟩
  | starting target =>
      have starts : service.registry.engaged target.session =
          ⟨false, true⟩ := by
        rw [engaged]
        simp [Stage.engagement]
      have busy : service.registry.engaged target.session ≠ .free := by
        rw [starts]
        decide
      obtain ⟨node, found, same⟩ := engaged_node busy
      rw [starts] at same
      have inStart : node.session.inStart = true :=
        congrArg Engagement.starting same
      refine ⟨.startReturns, rfl, ?_⟩
      simp [work, stepSession, toStage_map, found, WsSession.step, inStart]
  | erasing =>
      cases job with
      | onErase identifier =>
          obtain ⟨resident, isThere, -⟩ :=
            sound.balanced.found sound.roster top rfl
          obtain ⟨node, found, -⟩ := Option.map_eq_some_iff.mp isThere
          refine ⟨.eraseEntry, rfl, ?_⟩
          simp [work, eraseEntry, found]
      | _ => cases comes
  | erased => exact ⟨.conclude, rfl, Option.some_ne_none _⟩
  | admitted =>
      exact ⟨.refuse (.logicError ""), rfl, Option.some_ne_none _⟩
  | finished => exact ⟨.finish, rfl, Option.some_ne_none _⟩

theorem works_of_byJob {event : ServiceEvent Value}
    (byJob : event.byJob = true) : service.Works event := by
  cases event <;> trivial

theorem step_byJob {event : ServiceEvent Value}
    (goesOn : service.terminated = false)
    (top : service.stack = ⟨job, stage⟩ :: rest)
    (byJob : event.byJob = true) :
    service.step event = service.work rest job stage event := by
  unfold step
  rw [goesOn, top]
  cases event <;> first | rfl | cases byJob

end

/-- A session that is in no call goes on by the threads of the io context. -/
theorem step_isSome_of_session {address : Nat} {node : Node Value}
    (goesOn : service.terminated = false)
    (found : service.map.find? address = some node)
    (free : node.session.engagement = .free)
    (some_holder : 0 < node.session.holders) :
    ∃ event, service.Works event ∧ service.step event ≠ none := by
  have onThread : ∀ event : SessionEvent, node.session.Works event →
      event.byIoThread = true → node.session.step event ≠ none →
      ∃ event, service.Works event ∧ service.step event ≠ none := by
    intro event works byIoThread goes
    refine ⟨.session address event false, fun other isThere => ?_, ?_⟩
    · rw [found] at isThere
      cases isThere
      exact works
    · simpa [step, goesOn, byIoThread, stepSession, found] using goes
  obtain ⟨event, works, goes⟩ :=
    WsSession.step_isSome_of_holders some_holder
  cases event with
  | startReturns =>
      have inStart : node.session.inStart = false :=
        congrArg Engagement.starting free
      simp [WsSession.step, inStart] at goes
  | runJob host =>
      obtain ⟨next, stepped⟩ := Option.ne_none_iff_exists'.mp goes
      obtain ⟨idle, job, jobs, queued, -⟩ := WsSession.step_runJob stepped
      apply onThread (.runJob .ioThread) trivial rfl
      simp [WsSession.step, queued, WsSession.strandIdle, idle]
  | release host =>
      cases host with
      | ioThread => exact onThread _ works rfl goes
      | caller =>
          have host : decide (node.session.strandHost = some .caller) =
            false := congrArg Engagement.hosted free
          simp [WsSession.step, of_decide_eq_false host] at goes
  | dispatch job => cases works
  | erase => cases works
  | _ => exact onThread _ works rfl goes

/-! ## Runs -/

/-- A service that is not at rest can go on, unless the loop of the job on
top has lost its place. -/
theorem step_isSome_of_busy
    (reached : (serviceMachine Value).ReachableUnder NoOverlap service)
    (holds : ¬service.Dangles) (busy : ¬service.AtRest) :
    ∃ event, service.Works event ∧ service.step event ≠ none := by
  have registry := single_of_noOverlap (fun _ _ => id) reached
  have sound := Registry.sound_of_reachable registry
  have regular := Registry.regular_of_reachable registry
  have hosting := Registry.hosting_of_reachable registry
  have goesOn : service.terminated = false := regular.alive
  have alive : service.Alive := fun address node found =>
    sound.roster.alive (residents_eq_some found)
  cases stack : service.stack with
  | cons activation rest =>
      obtain ⟨event, byJob, goes⟩ :=
        work_isSome sound regular.proper hosting alive stack holds
      refine ⟨event, works_of_byJob byJob, ?_⟩
      rw [step_byJob goesOn stack byJob]
      exact goes
  | nil =>
      cases queue : service.queue with
      | cons job jobs =>
          refine ⟨.enter, trivial, ?_⟩
          simp [step, goesOn, stack, queue]
      | nil =>
          cases callers : service.callers with
          | cons caller others =>
              refine ⟨.shutdownStep 0, trivial, ?_⟩
              have isThere : service.callers[0]? = some caller := by
                rw [callers]
                rfl
              simp only [step, goesOn, shutdownStep, isThere]
              cases caller with
              | testing => cases service.shutdownLock <;> simp
              | _ => simp
          | nil =>
              by_contra stuck
              apply busy
              refine Idle.atRest ⟨queue, stack, callers, ?_⟩
                (single_of_noOverlap (fun _ _ => id) reached)
              intro address node found
              by_contra some_holder
              have free : node.session.engagement = .free := by
                have engaged := hosting address
                rw [Registry.engaged_resident (residents_eq_some found)]
                  at engaged
                rw [engaged]
                unfold Registry.engages
                have noStack : service.registry.stack = [] := stack
                rw [noStack]
              exact stuck (step_isSome_of_session goesOn found free
                (Nat.pos_of_ne_zero some_holder))

theorem noOverlap_of_works {event : ServiceEvent Value}
    (works : service.Works event) : service.NoOverlap event := by
  rintro rfl
  exact absurd works id

/-- Once the streams of its sessions have ended, a service that is called no
more does not go on forever; where it can go no further it is at rest, with
all sessions erased, or the loop of a job stands at a session that was
erased. -/
theorem rests_after_end
    (reached : (serviceMachine Value).ReachableUnder NoOverlap service)
    (ended : ∀ address node, service.map.find? address = some node →
      node.session.ws.phase = .ended) :
    ¬(serviceMachine Value).Endless Works service ∧
      ∀ events last, (serviceMachine Value).Admitted Works service events →
        (serviceMachine Value).run service events = some last →
        (∀ event, last.Works event → last.step event = none) →
        last.AtRest ∨ last.Dangles := by
  have registry := single_of_noOverlap (fun _ _ => id) reached
  have sound := Registry.sound_of_reachable registry
  have isEnded : service.Ended := fun address node found =>
    ⟨sound.roster.reached (residents_eq_some found),
      ended address node found⟩
  have lowered : ∀ (before : WsService Value) (event : ServiceEvent Value)
      (after : WsService Value), before.Ended → before.Works event →
      before.step event = some after →
      after.Ended ∧ after.rank < before.rank := by
    intro before event after isEnded works stepped
    have lowers := step_lowers isEnded works stepped
    exact ⟨lowers.ended, lowers.lower⟩
  constructor
  · exact Machine.not_endless_of_rank Nat.lt_wfRel.wf _ rank lowered isEnded
  · intro events last admitted ran stuck
    have isReached : (serviceMachine Value).ReachableUnder NoOverlap last :=
      Machine.run_keeps _ (fun before event after isReached works stepped =>
        .step isReached (noOverlap_of_works works) stepped) reached admitted
          ran
    by_cases dangles : last.Dangles
    · exact .inr dangles
    · left
      by_contra busy
      obtain ⟨event, works, goes⟩ :=
        step_isSome_of_busy isReached dangles busy
      exact goes (stuck event works)

/-- One session is closed by its peer, the connection of another one is lost,
and the service is shut down meanwhile. -/
def losesBoth : List (ServiceEvent Unit) :=
  connected 8 () ++ connected 16 () ++ peerCloses 8 ++
    [.session 16 .streamEnds false, .callShutdown, .shutdownStep 0,
      .shutdownStep 0]

/-- The shutdown goes on, and both sessions drain. -/
def drainsBoth : List (ServiceEvent Unit) :=
  [.shutdownStep 0, .shutdownStep 0, .enter, .begin, .visit, .skip, .advance,
    .visit, .skip, .advance, .finish, .session 8 (.runJob .ioThread) false,
    .session 8 (.release .ioThread) false] ++ drains 8 ++
  (.runJob .ioThread :: .release .ioThread :: WsSession.handlersLeft).map
    (fun event => .session 16 event false) ++
  [.enter, .begin, .eraseEntry, .conclude, .finish]

theorem rests_after_end_both :
    ∃ service last, (serviceMachine Unit).run .constructed losesBoth =
        some service ∧
      service.map.keys = [8, 16] ∧ service.runLock = false ∧
      ¬(serviceMachine Unit).Endless Works service ∧
      (serviceMachine Unit).run service drainsBoth = some last ∧
      last.AtRest := by
  have ran : ∃ service last,
      (serviceMachine Unit).run .constructed losesBoth = some service ∧
      service.map.keys = [8, 16] ∧ service.runLock = false ∧
      (∀ entry ∈ service.map.entries,
        entry.2.session.ws.phase = .ended) ∧
      (serviceMachine Unit).run service drainsBoth = some last ∧
      last.stack = [] ∧
      ∀ event, last.Works event → last.step event = none := by
    refine ⟨_, _, rfl, rfl, rfl, by decide, rfl, rfl, fun event works => ?_⟩
    cases event with
    | call job inline => exact absurd works id
    | callShutdown => exact absurd works id
    | session address event inline => exact ite_self none
    | _ => rfl
  obtain ⟨service, last, ran, keys, shut, phases, ranOn, stack, stuck⟩ := ran
  have standing : ¬last.Dangles := by
    rintro ⟨job, loop, rest, top | top, -⟩ <;> cases stack.symm.trans top
  have admitted : (serviceMachine Unit).Admitted NoOverlap .constructed
      losesBoth :=
    Machine.admitted_of_checks
      (fun service event => @noOverlap_of_isSingle _ service event) (by rfl)
  have reached := Machine.reachableUnder_of_run rfl admitted ran
  have ended : ∀ address node, service.map.find? address = some node →
      node.session.ws.phase = .ended := fun address node found =>
    phases (address, node) (OrderedMap.find?_eq_some.mp found)

  have works : (serviceMachine Unit).Admitted Works service drainsBoth := by
    apply Machine.admitted_of_forall
    simp [drainsBoth, drains, Works, WsSession.Works, WsSession.handlersLeft]
  obtain ⟨ends, rests⟩ := rests_after_end reached ended
  exact ⟨service, last, ran, keys, shut, ends, ranOn,
    (rests drainsBoth last works ranOn stuck).resolve_right standing⟩

end WsService

end Webservice
