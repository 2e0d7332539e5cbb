import Webservice.Session.Invariant

/-!
# The write queue of a session

`write_list_` keeps the entry being written at its front, moved-from.  What
`send` accepted is therefore what was written followed by the rest of the
queue, as long as a write is outstanding.
-/

namespace Webservice

namespace StreamOp

def written? : StreamOp → Option WriteData
  | .write entry => some entry
  | _ => none

def isClose : StreamOp → Bool
  | .close _ => true
  | _ => false

/-- Operations that the session must not start after a close. -/
def transmits : StreamOp → Bool
  | .write _ => true
  | .close _ => true
  | _ => false

/-- `later` may be started after `earlier`. -/
def MayFollow (earlier later : StreamOp) : Prop :=
  earlier.isClose = true → later.transmits = false

instance : DecidableRel MayFollow := fun earlier later =>
  inferInstanceAs
    (Decidable (earlier.isClose = true → later.transmits = false))

end StreamOp

namespace WsSession

open Effects

/-- Messages passed to `async_write`, oldest first. -/
def written (session : WsSession) : List WriteData :=
  session.history.started.filterMap StreamOp.written?

/-- `async_close` has been started. -/
def closing (session : WsSession) : Bool :=
  session.history.started.any StreamOp.isClose

structure WritingSound (session : WsSession) : Prop where
  single : session.ws.writes ≤ 1
  ordered : session.history.started.Pairwise StreamOp.MayFollow
  reason : session.closing = true → session.closeReason.isSome = true
  idle : session.closing = true → session.ws.writes = 0
  busy : session.ws.writes = 1 → session.writeList.items ≠ [] ∧
    session.history.accepted = session.written ++ session.writeList.items.tail
  rest : session.ws.isOpen = true → session.closing = false →
    session.ws.writes = 0 → session.writeList.items = [] ∧
      session.history.accepted = session.written
  queued : session.written <+: session.history.accepted
  opening : 0 < session.ws.accepts → session.ws.isOpen = false ∧
    session.writeList.items = [] ∧ session.history.accepted = []
  intact : session.history.overwritten = []

/-- Nothing of the queue was touched. -/
theorem WritingSound.congr {before after : WsSession}
    (sound : before.WritingSound)
    (writes : after.ws.writes = before.ws.writes)
    (accepts : after.ws.accepts = before.ws.accepts)
    (phase : after.ws.isOpen = true → before.ws.isOpen = true)
    (writeList : after.writeList = before.writeList)
    (closeReason : after.closeReason = before.closeReason)
    (started : after.history.started = before.history.started)
    (accepted : after.history.accepted = before.history.accepted)
    (overwritten : after.history.overwritten = before.history.overwritten) :
    after.WritingSound := by
  have written : after.written = before.written := by
    rw [WsSession.written, started, WsSession.written]
  have closing : after.closing = before.closing := by
    rw [WsSession.closing, started, WsSession.closing]
  constructor
  · rw [writes]
    exact sound.single
  · rw [started]
    exact sound.ordered
  · rw [closing, closeReason]
    exact sound.reason
  · rw [closing, writes]
    exact sound.idle
  · rw [writes, writeList, accepted, written]
    exact sound.busy
  · rw [writes, writeList, accepted, written, closing]
    exact fun isOpen => sound.rest (phase isOpen)
  · rw [accepted, written]
    exact sound.queued
  · rw [accepts, writeList, accepted]
    intro some_accept
    obtain ⟨notOpen, nothing⟩ := sound.opening some_accept
    refine ⟨Bool.eq_false_iff.mpr fun isOpen => ?_, nothing⟩
    exact absurd (notOpen.symm.trans (phase isOpen)) Bool.false_ne_true
  · rw [overwritten]
    exact sound.intact

/-! ## Notes in the history -/

theorem note_written (session : WsSession) (op : StreamOp) :
    (session.note op).written = session.written ++ op.written?.toList := by
  simp only [written, note, List.filterMap_append, List.filterMap_cons,
    List.filterMap_nil]
  cases op.written? <;> rfl

theorem note_closing (session : WsSession) (op : StreamOp) :
    (session.note op).closing = (session.closing || op.isClose) := by
  simp [closing, note]

theorem note_ordered {session : WsSession} {op : StreamOp}
    (ordered : session.history.started.Pairwise StreamOp.MayFollow)
    (allowed : session.closing = true → op.transmits = false) :
    (session.note op).history.started.Pairwise StreamOp.MayFollow := by
  refine List.pairwise_append.mpr ⟨ordered, List.pairwise_singleton _ _, ?_⟩
  intro earlier started later isOp isClose
  rw [List.mem_singleton.mp isOp]
  exact allowed (List.any_eq_true.mpr ⟨earlier, started, isClose⟩)

/-- Other operations leave the queue alone. -/
theorem WritingSound.noted {session : WsSession} {op : StreamOp}
    (sound : session.WritingSound) (other : op.transmits = false) :
    (session.note op).WritingSound := by
  have written : (session.note op).written = session.written := by
    rw [note_written]
    cases op <;> simp_all [StreamOp.written?, StreamOp.transmits]
  have closing : (session.note op).closing = session.closing := by
    rw [note_closing]
    cases op <;> simp_all [StreamOp.isClose, StreamOp.transmits]
  constructor
  · exact sound.single
  · exact note_ordered sound.ordered fun _ => other
  · rw [closing]
    exact sound.reason
  · rw [closing]
    exact sound.idle
  · rw [written]
    exact sound.busy
  · rw [written, closing]
    exact sound.rest
  · rw [written]
    exact sound.queued
  · exact sound.opening
  · exact sound.intact

/-! ## Starting the next operation -/

/-- No write is outstanding and none of the entries in the queue has been
written: the state in which `do_write` is called. -/
structure Resting (session : WsSession) : Prop where
  idle : session.ws.writes = 0
  opened : session.ws.accepts = 0
  ordered : session.history.started.Pairwise StreamOp.MayFollow
  notClosing : session.closing = false
  queue : session.history.accepted =
    session.written ++ session.writeList.items
  intact : session.history.overwritten = []

def closeStarted (session : WsSession) (reason : CloseReason) : WsSession :=
  { session.locked with ws := session.ws.asyncClose }.note (.close reason)

def writeStarted (session : WsSession) (entry : WriteData) : WsSession :=
  { session.locked with
    ws := { session.ws with text := entry.isText }.asyncWrite
    writeList := session.writeList.modifyFront WriteData.moved }.note
    (.write entry)

theorem doWrite_closes {session : WsSession} {reason : CloseReason}
    (held : session.Held) (closeReason : session.closeReason = some reason) :
    doWrite session = .ok () (session.closeStarted reason) := by
  simp only [doWrite, get_bind_run, closeReason, asyncClose]
  exact startOp_run held.pos _ _

theorem doWrite_writes {session : WsSession} {entry : WriteData}
    {entries : List WriteData} (held : session.Held)
    (closeReason : session.closeReason = none)
    (queue : session.writeList.items = entry :: entries) :
    doWrite session = .ok () (session.writeStarted entry) := by
  have front : session.writeList.front? = some entry := by
    simp [RingBuffer.front?, queue]
  simp only [doWrite, get_bind_run, closeReason, front]
  rw [modify_bind_run, asyncWrite]
  have stillHeld : 0 < ({ session with
      ws := { session.ws with text := entry.isText } } :
        WsSession).locker.lockCount := held.pos
  exact startOp_run stillHeld _ _

theorem Resting.closeStarted {session : WsSession} (resting : session.Resting)
    {reason : CloseReason} (closeReason : session.closeReason = some reason) :
    (session.closeStarted reason).WritingSound := by
  have written : (session.closeStarted reason).written = session.written := by
    rw [WsSession.closeStarted, note_written]
    exact List.append_nil _
  have closing : (session.closeStarted reason).closing = true := by
    rw [WsSession.closeStarted, note_closing]
    exact Bool.or_true _
  have idle : (session.closeStarted reason).ws.writes = 0 := resting.idle
  constructor
  · rw [idle]
    exact Nat.zero_le _
  · exact note_ordered resting.ordered fun isClosing =>
      absurd (resting.notClosing.symm.trans isClosing) Bool.false_ne_true
  · intro _
    show session.closeReason.isSome = true
    rw [closeReason]
    rfl
  · exact fun _ => idle
  · rw [idle]
    exact fun writing => nomatch writing
  · rw [closing]
    exact fun _ notClosing => nomatch notClosing
  · rw [written]
    exact ⟨_, resting.queue.symm⟩
  · exact fun opening => absurd resting.opened (Nat.ne_of_gt opening)
  · exact resting.intact

theorem Resting.writeStarted {session : WsSession} (resting : session.Resting)
    {entry : WriteData} {entries : List WriteData}
    (queue : session.writeList.items = entry :: entries) :
    (session.writeStarted entry).WritingSound := by
  have written : (session.writeStarted entry).written =
      session.written ++ [entry] := by
    rw [WsSession.writeStarted, note_written]
    rfl
  have closing : (session.writeStarted entry).closing = false := by
    rw [WsSession.writeStarted, note_closing]
    exact (Bool.or_false _).trans resting.notClosing
  have writes : (session.writeStarted entry).ws.writes = 1 := by
    show session.ws.writes + 1 = 1
    rw [resting.idle]
  have items : (session.writeStarted entry).writeList.items =
      entry.moved :: entries := by
    show session.writeList.items.modifyHead WriteData.moved = _
    rw [queue]
    rfl
  have accepted : session.history.accepted =
      (session.written ++ [entry]) ++ entries := by
    rw [resting.queue, queue, List.append_assoc]
    rfl
  constructor
  · exact Nat.le_of_eq writes
  · exact note_ordered resting.ordered fun isClosing =>
      absurd (resting.notClosing.symm.trans isClosing) Bool.false_ne_true
  · rw [closing]
    exact fun isClosing => nomatch isClosing
  · rw [closing]
    exact fun isClosing => nomatch isClosing
  · intro _
    rw [items, written]
    exact ⟨List.cons_ne_nil _ _, accepted⟩
  · rw [writes]
    exact fun _ _ idle => nomatch idle
  · rw [written]
    exact ⟨entries, accepted.symm⟩
  · exact fun opening => absurd resting.opened (Nat.ne_of_gt opening)
  · exact resting.intact

theorem doWrite_writingSound {session : WsSession} (held : session.Held)
    (resting : session.Resting)
    (work : session.closeReason.isSome = true ∨
      session.writeList.items ≠ []) :
    WritingSound (after doWrite session) := by
  cases closeReason : session.closeReason with
  | some reason =>
      rw [after_eq_of_ok (doWrite_closes held closeReason)]
      exact resting.closeStarted closeReason
  | none =>
      have nonempty : session.writeList.items ≠ [] :=
        work.resolve_left (by simp [closeReason])
      obtain ⟨entry, entries, queue⟩ := List.exists_cons_of_ne_nil nonempty
      rw [after_eq_of_ok (doWrite_writes held closeReason queue)]
      exact resting.writeStarted queue

/-! ## The functions -/

theorem writingSound_ofCore : OfCore WritingSound :=
  .of_iff fun _ =>
    ⟨fun sound => sound.congr rfl rfl id rfl rfl rfl rfl rfl,
      fun sound => sound.congr rfl rfl id rfl rfl rfl rfl rfl⟩

theorem cancelTimer_writingSound (session : WsSession) :
    KeepsAt (Carried WritingSound) cancelTimer session :=
  ⟨cancelTimer_codeKept session, fun _ sound =>
    sound.congr rfl rfl id rfl rfl rfl rfl rfl⟩

theorem restartTimer_writingSound :
    Keeps (Carried WritingSound) restartTimer :=
  restartTimer_carried fun session sound => by
    unfold restarted
    split
    · have unnoted : WritingSound { session.locked with
          timer := session.timer.cancel.asyncWait } :=
        sound.congr rfl rfl id rfl rfl rfl rfl rfl
      exact unnoted.noted rfl
    · exact sound.congr rfl rfl id rfl rfl rfl rfl rfl

/-- The session once `send` has put an entry into the queue. -/
def pushed (session : WsSession) (entry : WriteData) : WsSession :=
  { session with
    writeList := session.writeList.pushBack entry
    history :=
      { session.history with
        accepted := session.history.accepted ++ [entry]
        overwritten :=
          session.history.overwritten ++ session.writeList.overwritten } }

theorem WritingSound.opened {session : WsSession}
    (sound : session.WritingSound) (isOpen : session.ws.isOpen = true) :
    session.ws.accepts = 0 := by
  by_contra some_accept
  have notOpen := (sound.opening (Nat.pos_of_ne_zero some_accept)).1
  exact absurd (notOpen.symm.trans isOpen) Bool.false_ne_true

theorem WritingSound.resting {session : WsSession}
    (sound : session.WritingSound) (isOpen : session.ws.isOpen = true)
    (notClosing : session.closing = false)
    (empty : session.writeList.items = []) : session.Resting := by
  have idle : session.ws.writes = 0 := by
    by_contra writing
    have single := sound.single
    exact (sound.busy (by omega)).1 empty
  refine ⟨idle, sound.opened isOpen, sound.ordered, notClosing, ?_,
    sound.intact⟩
  rw [empty, List.append_nil]
  exact (sound.rest isOpen notClosing idle).2

theorem Resting.pushed {session : WsSession} (resting : session.Resting)
    (entry : WriteData) (room : session.writeList.isFull = false) :
    (session.pushed entry).Resting where
  idle := resting.idle
  opened := resting.opened
  ordered := resting.ordered
  notClosing := resting.notClosing
  queue := by
    show session.history.accepted ++ [entry] =
      session.written ++ (session.writeList.pushBack entry).items
    rw [RingBuffer.pushBack_items room, resting.queue, List.append_assoc]
  intact := by
    show session.history.overwritten ++ session.writeList.overwritten = []
    rw [RingBuffer.overwritten_eq_nil room, resting.intact]
    rfl

/-- An entry that waits behind the one being written. -/
theorem WritingSound.pushed {session : WsSession}
    (sound : session.WritingSound) (isOpen : session.ws.isOpen = true)
    (notClosing : session.closing = false) (entry : WriteData)
    (room : session.writeList.isFull = false)
    (nonempty : session.writeList.items ≠ []) :
    (session.pushed entry).WritingSound := by
  have single := sound.single
  have writing : session.ws.writes = 1 := by
    by_contra notWriting
    exact nonempty (sound.rest isOpen notClosing (by omega)).1
  have items : (session.pushed entry).writeList.items =
      session.writeList.items ++ [entry] := RingBuffer.pushBack_items room entry
  obtain ⟨-, accepted⟩ := sound.busy writing
  constructor
  · exact single
  · exact sound.ordered
  · exact sound.reason
  · exact sound.idle
  · intro _
    rw [items]
    refine ⟨by simp, ?_⟩
    show session.history.accepted ++ [entry] = session.written ++ _
    rw [accepted, List.tail_append_of_ne_nil nonempty, List.append_assoc]
  · exact fun _ _ idle => absurd (writing.symm.trans idle) (by decide)
  · exact sound.queued.trans (List.prefix_append _ _)
  · exact fun opening => absurd (sound.opened isOpen) (Nat.ne_of_gt opening)
  · show session.history.overwritten ++ session.writeList.overwritten = []
    rw [RingBuffer.overwritten_eq_nil room, sound.intact]
    rfl

theorem WritingSound.notClosing {session : WsSession}
    (sound : session.WritingSound)
    (closeReason : ¬session.closeReason.isSome = true) :
    session.closing = false :=
  Bool.eq_false_iff.mpr fun closing => closeReason (sound.reason closing)

theorem sendJob_run (isText : Bool) (data : List UInt8)
    (session : WsSession) :
    sendJob isText data session =
      if ¬session.ws.isOpen then cancelTimer session
      else if session.closeReason.isSome then .ok () session
      else if session.writeList.isFull then
        .error (.runtimeError "write buffer is full") session
      else if session.writeList.isEmpty then
        doWrite (session.pushed ⟨isText, some data⟩)
      else .ok () (session.pushed ⟨isText, some data⟩) := by
  rw [sendJob, get_bind_run]
  by_cases isOpen : session.ws.isOpen = true
  · rw [if_neg (not_not_intro isOpen), if_neg (not_not_intro isOpen)]
    by_cases closeReason : session.closeReason.isSome = true
    · rw [if_pos closeReason, if_pos closeReason]
      rfl
    · rw [if_neg closeReason, if_neg closeReason]
      by_cases full : session.writeList.isFull = true
      · rw [if_pos full, if_pos full]
        rfl
      · rw [if_neg full, if_neg full, modify_bind_run]
        by_cases empty : session.writeList.isEmpty = true
        · rw [if_pos empty, if_pos empty]
          rfl
        · rw [if_neg empty, if_neg empty]
          rfl
  · rw [if_pos isOpen, if_pos isOpen]

theorem closeJob_run (reason : CloseReason) (session : WsSession) :
    closeJob reason session =
      if ¬session.ws.isOpen then cancelTimer session
      else if session.closeReason.isSome then .ok () session
      else if session.writeList.isEmpty then
        doWrite { session with closeReason := some reason }
      else .ok () { session with closeReason := some reason } := by
  rw [closeJob, get_bind_run]
  by_cases isOpen : session.ws.isOpen = true
  · rw [if_neg (not_not_intro isOpen), if_neg (not_not_intro isOpen)]
    by_cases closeReason : session.closeReason.isSome = true
    · rw [if_pos closeReason, if_pos closeReason]
      rfl
    · rw [if_neg closeReason, if_neg closeReason, modify_bind_run]
      by_cases empty : session.writeList.isEmpty = true
      · rw [if_pos empty, if_pos empty]
      · rw [if_neg empty, if_neg empty]
        rfl
  · rw [if_pos isOpen, if_pos isOpen]

/-- `send` into an idle queue starts the write, into a busy one it waits. -/
theorem sendJob_writingSound (isText : Bool) (data : List UInt8) :
    Keeps (Carried WritingSound) (sendJob isText data) := by
  intro session
  refine ⟨queue_codeKept.sendJob isText data session, fun held sound => ?_⟩
  have cancelled := (cancelTimer_writingSound session).carried held sound
  have run := sendJob_run isText data session
  by_cases isOpen : session.ws.isOpen = true
  case neg =>
    rw [if_pos isOpen] at run
    exact after_congr run ▸ cancelled
  rw [if_neg (not_not_intro isOpen)] at run
  by_cases closeReason : session.closeReason.isSome = true
  case pos =>
    rw [if_pos closeReason] at run
    rw [after_eq_of_ok run]
    exact sound
  rw [if_neg closeReason] at run
  have notClosing := sound.notClosing closeReason
  by_cases full : session.writeList.isFull = true
  case pos =>
    rw [if_pos full] at run
    rw [after_eq_of_error run]
    exact sound
  rw [if_neg full] at run
  have room := Bool.eq_false_iff.mpr full
  by_cases empty : session.writeList.isEmpty = true
  · rw [if_pos empty] at run
    have resting := (sound.resting isOpen notClosing
      ((RingBuffer.isEmpty_iff _).mp empty)).pushed ⟨isText, some data⟩ room
    have items := RingBuffer.pushBack_items room (⟨isText, some data⟩ : WriteData)
    have work : (session.pushed ⟨isText, some data⟩).writeList.items ≠ [] := by
      show (session.writeList.pushBack _).items ≠ []
      simp [items]
    have heldPushed : (session.pushed ⟨isText, some data⟩).Held := held
    exact after_congr run ▸
      doWrite_writingSound heldPushed resting (.inr work)
  · rw [if_neg empty] at run
    have nonempty : session.writeList.items ≠ [] :=
      fun items => empty ((RingBuffer.isEmpty_iff _).mpr items)
    exact after_eq_of_ok run ▸
      sound.pushed isOpen notClosing _ room nonempty

theorem closeJob_writingSound (reason : CloseReason) :
    Keeps (Carried WritingSound) (closeJob reason) := by
  intro session
  refine ⟨queue_codeKept.closeJob reason session, fun held sound => ?_⟩
  have cancelled := (cancelTimer_writingSound session).carried held sound
  have run := closeJob_run reason session
  by_cases isOpen : session.ws.isOpen = true
  case neg =>
    rw [if_pos isOpen] at run
    exact after_congr run ▸ cancelled
  rw [if_neg (not_not_intro isOpen)] at run
  by_cases closeReason : session.closeReason.isSome = true
  case pos =>
    rw [if_pos closeReason] at run
    rw [after_eq_of_ok run]
    exact sound
  rw [if_neg closeReason] at run
  have notClosing := sound.notClosing closeReason
  by_cases empty : session.writeList.isEmpty = true
  · rw [if_pos empty] at run
    have resting := sound.resting isOpen notClosing
      ((RingBuffer.isEmpty_iff _).mp empty)
    have restingSet :
        Resting { session with closeReason := some reason } :=
      ⟨resting.idle, resting.opened, resting.ordered, notClosing, resting.queue,
        resting.intact⟩
    have heldSet :
        Held { session with closeReason := some reason } := held
    exact after_congr run ▸
      doWrite_writingSound heldSet restingSet (.inl rfl)
  · rw [if_neg empty] at run
    rw [after_eq_of_ok run]
    exact ⟨sound.single, sound.ordered, fun _ => rfl, sound.idle, sound.busy,
      sound.rest, sound.queued, sound.opening, sound.intact⟩

theorem startOp_writingSound {op : WsSession → StreamOp}
    {begins : WsSession → WsSession} {session : WsSession}
    (code : KeepsAt CodeKept (startOp op begins) session)
    (other : (op session.locked).transmits = false)
    (sound : session.WritingSound → (begins session.locked).WritingSound) :
    KeepsAt (Carried WritingSound) (startOp op begins) session :=
  startOp_carried code fun holds => (sound holds).noted other

theorem doRead_writingSound : Keeps (Carried WritingSound) doRead :=
  doRead_keeps restartTimer_writingSound fun session =>
    startOp_writingSound (asyncRead_codeKept session) rfl fun sound =>
      sound.congr rfl rfl id rfl rfl rfl rfl rfl

theorem parts_writingSound : KeptByParts (Carried WritingSound) where
  cancelTimer session _ := cancelTimer_writingSound session
  restartTimer := restartTimer_writingSound
  pongSeen _ := modify_carried rfl rfl rfl rfl id fun sound =>
    sound.congr rfl rfl id rfl rfl rfl rfl rfl
  onException := onException_carried writingSound_ofCore
  close reason :=
    close_carried writingSound_ofCore (closeJob_writingSound reason)

theorem onMessage_writingSound (isText : Bool) :
    Keeps (Carried WritingSound) (onMessage isText) :=
  deferCallback_carried (onMessage_codeKept isText) fun _ sound =>
    sound.congr rfl rfl id rfl rfl rfl rfl rfl

theorem acceptHandler_writingSound (ec : Option ErrorCode) :
    Keeps (Carried WritingSound) (acceptHandler ec) := by
  have onOpen : Keeps (Carried WritingSound) onOpen :=
    deferCallback_carried onOpen_codeKept fun _ sound =>
      sound.congr rfl rfl id rfl rfl rfl rfl rfl
  exact acceptHandler_keeps (fun _ => modify_carried rfl rfl rfl rfl id
    fun sound => sound.congr rfl rfl id rfl rfl rfl rfl rfl) onOpen
    doRead_writingSound parts_writingSound.onException ec

theorem timer_writingSound : KeptByTimer (Carried WritingSound) where
  cancelTimer := cancelTimer_writingSound
  restartTimer := restartTimer_writingSound
  doTimer session :=
    startOp_writingSound (doTimer_codeKept session) rfl fun sound =>
      sound.congr rfl rfl id rfl rfl rfl rfl rfl
  onException := onException_carried writingSound_ofCore
  pongDue _ := modify_carried rfl rfl rfl rfl id fun sound =>
    sound.congr rfl rfl id rfl rfl rfl rfl rfl
  pingCounted _ := modify_carried rfl rfl rfl rfl id fun sound =>
    sound.congr rfl rfl id rfl rfl rfl rfl rfl
  asyncPing payload session :=
    startOp_writingSound (asyncPing_codeKept payload session) rfl fun sound =>
      sound.congr rfl rfl id rfl rfl rfl rfl rfl
  socketClosed _ := modify_carried rfl rfl rfl rfl id fun sound =>
    sound.congr rfl rfl id rfl rfl rfl rfl rfl

/-! ## The handler of a write -/

/-- A stream at rest that is not open, or that has nothing to do, stays so. -/
theorem Resting.writingSound {session : WsSession} (resting : session.Resting)
    (nothing : session.ws.isOpen = true → session.writeList.items = []) :
    session.WritingSound := by
  constructor
  · rw [resting.idle]
    exact Nat.zero_le 1
  · exact resting.ordered
  · exact fun closing =>
      absurd (resting.notClosing.symm.trans closing) Bool.false_ne_true
  · exact fun _ => resting.idle
  · exact fun writing => absurd (resting.idle.symm.trans writing) (by decide)
  · intro isOpen _ _
    refine ⟨nothing isOpen, ?_⟩
    rw [resting.queue, nothing isOpen, List.append_nil]
  · exact ⟨_, resting.queue.symm⟩
  · exact fun opening => absurd resting.opened (Nat.ne_of_gt opening)
  · exact resting.intact

theorem writeHandler_run (session : WsSession) :
    writeHandler none session =
      if session.ws.isOpen ∧ (¬session.writeList.popFront.isEmpty ∨
          session.closeReason.isSome) then
        doWrite { session with writeList := session.writeList.popFront }
      else
        .ok () { session with writeList := session.writeList.popFront } := by
  simp only [writeHandler, modify_bind_run, get_bind_run]
  split <;> rfl

theorem WritingSound.notClosing_of_writing {session : WsSession}
    (sound : session.WritingSound) (writing : session.ws.writes = 1) :
    session.closing = false :=
  Bool.eq_false_iff.mpr fun closing =>
    absurd (writing.symm.trans (sound.idle closing)) (by decide)

theorem writeHandler_writingSound {session : WsSession}
    {ec : Option ErrorCode} {ws : WsStream} (sound : session.WritingSound)
    (done : session.ws.writeDone? ec = some ws)
    (held : Held { session with ws := ws }) :
    WritingSound (after (writeHandler ec) { session with ws := ws }) := by
  obtain ⟨some_write, wsAfter⟩ := WsStream.writeDone?_eq_some done
  have single := sound.single
  have writing : session.ws.writes = 1 := by omega
  have idle : ws.writes = 0 := by
    rw [wsAfter]
    show session.ws.writes - 1 = 0
    omega
  have notClosing := sound.notClosing_of_writing writing
  obtain ⟨nonempty, accepted⟩ := sound.busy writing
  have opened : ws.accepts = 0 := by
    rw [(WsStream.writeDone?_narrows done).accepts]
    by_contra some_accept
    exact nonempty (sound.opening (Nat.pos_of_ne_zero some_accept)).2.1
  cases ec with
  | none =>
      have run := writeHandler_run { session with ws := ws }
      have resting : Resting { session with
          ws := ws, writeList := session.writeList.popFront } :=
        ⟨idle, opened, sound.ordered, notClosing, accepted, sound.intact⟩
      split at run
      · rename_i work
        rw [after_congr run]
        refine doWrite_writingSound held resting ?_
        rcases work.2 with nonempty | closeReason
        · exact .inr fun empty =>
            nonempty ((RingBuffer.isEmpty_iff _).mpr empty)
        · exact .inl closeReason
      · rename_i noWork
        rw [after_eq_of_ok run]
        refine resting.writingSound fun isOpen => ?_
        by_contra nonempty
        exact noWork ⟨isOpen, .inl fun empty =>
          nonempty ((RingBuffer.isEmpty_iff _).mp empty)⟩
  | some ec =>
      have ended : ws.isOpen = false := by
        simp [wsAfter, WsStream.isOpen, StreamPhase.afterEnd_ne_opened]
      have failed : WritingSound { session with ws := ws } := by
        refine ⟨?_, sound.ordered, sound.reason, fun _ => idle, ?_, ?_,
          sound.queued, ?_, sound.intact⟩
        · exact idle ▸ Nat.zero_le 1
        · exact fun writing => absurd (idle.symm.trans writing) (by decide)
        · exact fun isOpen => absurd (ended.symm.trans isOpen) (by decide)
        · exact fun opening => absurd opened (Nat.ne_of_gt opening)
      have closes : Keeps (Carried WritingSound) (do
          WsSession.onError "write" ec
          WsSession.close (.ofText "write error")) :=
        .bind (parts_writingSound.onException _) fun _ =>
          parts_writingSound.close _
      cases ec with
      | operationAborted => exact failed
      | closed => exact (closes _).carried held failed
      | other value => exact (closes _).carried held failed

/-! ## Every reachable state -/

/-- A completion of another operation, or the end of the stream. -/
theorem WritingSound.narrowed {session : WsSession} {ws : WsStream}
    (sound : session.WritingSound) (narrows : WsStream.Narrows session.ws ws)
    (writes : ws.writes = session.ws.writes) :
    WritingSound { session with ws := ws } :=
  sound.congr writes narrows.accepts narrows.isOpen rfl rfl rfl rfl rfl

theorem writingSound_inductive : Inductive HandshakeSound WritingSound where
  ofCore := writingSound_ofCore
  launched role := by
    cases role <;> constructor <;> decide
  parts := parts_writingSound
  runJob job := by
    cases job with
    | send isText data => exact sendJob_writingSound isText data
    | close reason => exact closeJob_writingSound reason
  acceptDone := by
    intro session ec ws handshake sound done held
    refine (acceptHandler_writingSound ec _).carried held ?_
    obtain ⟨some_accept, wsAfter⟩ := WsStream.acceptDone?_eq_some done
    have last : ws.accepts = 0 := by
      have single := handshake.single
      rw [wsAfter]
      show session.ws.accepts - 1 = 0
      omega
    have writes : ws.writes = session.ws.writes := by rw [wsAfter]
    obtain ⟨-, empty, nothing⟩ := sound.opening some_accept
    have written : session.written = [] := by
      have queued := sound.queued
      rw [nothing] at queued
      exact List.prefix_nil.mp queued
    refine ⟨writes ▸ sound.single, sound.ordered, sound.reason,
      writes ▸ sound.idle, writes ▸ sound.busy, fun _ _ _ => ⟨empty, ?_⟩,
      sound.queued, fun opening => absurd last (Nat.ne_of_gt opening),
      sound.intact⟩
    exact nothing.trans written.symm
  readDone := by
    intro session ec chunk isText stillOpen ws _ sound done held
    have closed := WsStream.readDone?_closed done
    have received : (session.receive ec chunk isText).WritingSound :=
      sound.congr rfl rfl id rfl rfl rfl rfl rfl
    refine (readHandler_keeps parts_writingSound onMessage_writingSound
      doRead_writingSound isText closed).carried held
      (received.narrowed (WsStream.readDone?_narrows done) ?_)
    rw [(WsStream.readDone?_eq_some done).2]
    rfl
  writeDone _ := writeHandler_writingSound
  pingDone := by
    intro session ec stillOpen ws sound done
    refine sound.narrowed (WsStream.pingDone?_narrows done) ?_
    rw [(WsStream.pingDone?_eq_some done).2]
  closeDone := by
    intro session stillOpen ws sound done
    refine sound.narrowed (WsStream.closeDone?_narrows done) ?_
    rw [(WsStream.closeDone?_eq_some done).2]
  timerExpired sound _ := sound.congr rfl rfl id rfl rfl rfl rfl rfl
  timerDone sound _ held := (timer_writingSound.timerHandler _ _).carried held
    (sound.congr rfl rfl id rfl rfl rfl rfl rfl)
  callbackBegins sound _ _ := sound.congr rfl rfl id rfl rfl rfl rfl rfl
  callbackReturns sound _ := sound.congr rfl rfl id rfl rfl rfl rfl rfl
  streamEnds := by
    intro session ws sound ends
    refine sound.narrowed (WsStream.endStream?_narrows ends) ?_
    rw [(WsStream.endStream?_eq_some ends).2]
  writeBlock sound := sound.congr rfl rfl id rfl rfl rfl rfl rfl
  erase _ sound _ _ := by
    unfold destroyed
    split <;> exact sound.congr rfl rfl id rfl rfl rfl rfl rfl

theorem writingSound_of_reachable {session : WsSession}
    (reached : sessionMachine.Reachable session) : session.WritingSound :=
  writingSound_inductive.of_reachable handshakeSound_of_reachable reached

/-- The write queue: one write at a time, nothing after a close, no stall
while the stream is open, messages in the order in which `send` accepted
them, and none overwritten. -/
theorem writeQueue_of_reachable {session : WsSession}
    (reached : sessionMachine.Reachable session) :
    session.ws.writes ≤ 1 ∧
      session.history.started.Pairwise StreamOp.MayFollow ∧
      (session.ws.isOpen = true → session.closing = false →
        (session.ws.writes = 1 ↔ session.writeList.items ≠ [])) ∧
      session.written <+: session.history.accepted ∧
      session.history.overwritten = [] := by
  have sound := writingSound_of_reachable reached
  refine ⟨sound.single, sound.ordered, fun isOpen notClosing => ?_,
    sound.queued, sound.intact⟩
  constructor
  · exact fun writing => (sound.busy writing).1
  · intro nonempty
    by_contra notWriting
    have single := sound.single
    exact nonempty (sound.rest isOpen notClosing (by omega)).1

/-- A text and a binary message, the second sent while the first is being
written. -/
def twoSends : List SessionEvent :=
  [.startReturns, .dispatch (.send true [1]), .runJob .caller, .release .caller,
    .dispatch (.send false [2]), .runJob .ioThread, .release .ioThread,
    .writeDone none]

theorem writeQueue_two_messages :
    ∃ session,
      sessionMachine.run (launched .client) twoSends = some session ∧
        session.written = [⟨true, some [1]⟩, ⟨false, some [2]⟩] ∧
        session.written <+: session.history.accepted := by
  have initial : sessionMachine.initial (launched .client) := ⟨.client, rfl⟩
  have ran : sessionMachine.run (launched .client) twoSends = some _ := rfl
  have reached := Machine.reachable_of_run initial ran
  exact ⟨_, ran, rfl, (writeQueue_of_reachable reached).2.2.2.1⟩

end WsSession

end Webservice
