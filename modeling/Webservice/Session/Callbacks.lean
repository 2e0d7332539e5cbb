import Webservice.Session.Invariant

/-!
# The callbacks of a session

Messages travel from a read over `buffer_` and `handler_strand_` to a
callback of the service.  The callbacks that began, followed by those that
are queued, are at every point what the session owes its service: `on_open`
once it is open, every delivered message, and `on_close` once it is erased.
-/

namespace Webservice

/-- The members on the way from a read to a callback. -/
structure Inbox where
  accepts : Nat
  reads : Nat
  received : List UInt8
  buffer : List UInt8
  isOpen : Bool
  handlerStrand : List Callback
  running : Option Callback
  erased : Bool
  delivered : List Message
  callbacks : List CallbackEvent

namespace Inbox

/-- The callbacks of an open session that delivered these messages, up to
its end. -/
def script (delivered : List Message) : List Callback :=
  .onOpen :: delivered.map .onMessage ++ [.onClose]

/-- The callbacks owed so far. -/
def owed (inbox : Inbox) : List Callback :=
  if inbox.isOpen then
    .onOpen :: inbox.delivered.map .onMessage ++
      if inbox.erased then [.onClose] else []
  else []

theorem owed_of_closed {inbox : Inbox} (closed : inbox.isOpen = false) :
    inbox.owed = [] := by
  simp [owed, closed]

/-- At most `limit` reads are outstanding. -/
structure Sound (limit : Nat) (inbox : Inbox) : Prop where
  reads : inbox.reads ≤ limit
  opening : 0 < inbox.accepts → inbox.isOpen = false
  notOpened : inbox.isOpen = false → inbox.reads = 0 ∧ inbox.delivered = []
  buffer : inbox.buffer = inbox.received
  sequence : CallEvent.begun inbox.callbacks ++ inbox.handlerStrand =
    inbox.owed
  serial : CallEvent.Serial inbox.running inbox.callbacks

theorem Sound.mono {few many : Nat} {inbox : Inbox}
    (sound : inbox.Sound few) (fewer : few ≤ many) : inbox.Sound many :=
  { sound with reads := Nat.le_trans sound.reads fewer }

/-- Some reads are outstanding, so the session has opened. -/
theorem Sound.isOpen {limit : Nat} {inbox : Inbox}
    (sound : inbox.Sound limit) (reading : 0 < inbox.reads) :
    inbox.isOpen = true := by
  by_contra closed
  have idle := (sound.notOpened (by simpa using closed)).1
  omega

/-- The handshake succeeds. -/
theorem Sound.opens {inbox : Inbox} (sound : inbox.Sound 1)
    (closed : inbox.isOpen = false) (alive : inbox.erased = false) :
    Sound 0 { inbox with
      accepts := 0
      isOpen := true
      handlerStrand := inbox.handlerStrand ++ [.onOpen] } := by
  obtain ⟨idle, nothing⟩ := sound.notOpened closed
  have sequence := sound.sequence
  rw [owed_of_closed closed] at sequence
  refine ⟨Nat.le_of_eq idle, fun opening => (nomatch opening),
    fun notOpen => (nomatch notOpen), sound.buffer, ?_, sound.serial⟩
  show CallEvent.begun inbox.callbacks ++
    (inbox.handlerStrand ++ [.onOpen]) = _
  rw [← List.append_assoc, sequence]
  simp [owed, nothing, alive]

/-- A read completes a message, which goes to the handler strand. -/
theorem Sound.delivers {inbox : Inbox} (sound : inbox.Sound 1)
    (reading : 0 < inbox.reads) (alive : inbox.erased = false)
    (message : Message) :
    Sound 0 { inbox with
      reads := inbox.reads - 1
      received := []
      buffer := []
      handlerStrand := inbox.handlerStrand ++ [.onMessage message]
      delivered := inbox.delivered ++ [message] } := by
  have single := sound.reads
  have isOpen := sound.isOpen reading
  have sequence := sound.sequence
  simp only [owed, isOpen, alive, if_true, Bool.false_eq_true, if_false,
    List.append_nil] at sequence
  refine ⟨?_, sound.opening, fun closed => ?_, rfl, ?_, sound.serial⟩
  · show inbox.reads - 1 ≤ 0
    omega
  · exact absurd (isOpen.symm.trans closed) (by decide)
  · show CallEvent.begun inbox.callbacks ++
      (inbox.handlerStrand ++ [.onMessage message]) = _
    rw [← List.append_assoc, sequence]
    simp [owed, isOpen, alive]

/-- A read fails after it handed over some bytes. -/
theorem Sound.fails {inbox : Inbox} (sound : inbox.Sound 1)
    (reading : 0 < inbox.reads) (chunk : List UInt8) :
    Sound 0 { inbox with
      reads := inbox.reads - 1
      received := inbox.received ++ chunk
      buffer := inbox.buffer ++ chunk } := by
  have single := sound.reads
  have isOpen := sound.isOpen reading
  refine ⟨?_, sound.opening, fun closed => ?_, ?_, sound.sequence,
    sound.serial⟩
  · show inbox.reads - 1 ≤ 0
    omega
  · exact absurd (isOpen.symm.trans closed) (by decide)
  · show inbox.buffer ++ chunk = inbox.received ++ chunk
    rw [sound.buffer]

theorem Sound.begins {limit : Nat} {inbox : Inbox} {callback : Callback}
    {callbacks : List Callback} (sound : inbox.Sound limit)
    (free : inbox.running = none)
    (queued : inbox.handlerStrand = callback :: callbacks) :
    Sound limit { inbox with
      running := some callback
      handlerStrand := callbacks
      callbacks := inbox.callbacks ++ [.began callback] } := by
  have serial := sound.serial
  rw [free] at serial
  refine { sound with sequence := ?_, serial := .began callback serial }
  have sequence := sound.sequence
  rw [queued] at sequence
  show CallEvent.begun (inbox.callbacks ++ [.began callback]) ++ callbacks =
    inbox.owed
  simpa using sequence

theorem Sound.returns {limit : Nat} {inbox : Inbox} {callback : Callback}
    (sound : inbox.Sound limit) (busy : inbox.running = some callback) :
    Sound limit { inbox with
      running := none
      callbacks := inbox.callbacks ++ [.returned callback] } := by
  have serial := sound.serial
  rw [busy] at serial
  refine { sound with sequence := ?_, serial := .returned serial }
  have sequence := sound.sequence
  show CallEvent.begun (inbox.callbacks ++ [.returned callback]) ++
    inbox.handlerStrand = inbox.owed
  simpa using sequence

/-- The destructor of an open session calls `on_close`; nothing is queued
any more. -/
theorem Sound.closes {limit : Nat} {inbox : Inbox}
    (sound : inbox.Sound limit) (isOpen : inbox.isOpen = true)
    (alive : inbox.erased = false) (free : inbox.running = none)
    (empty : inbox.handlerStrand = []) :
    Sound limit { inbox with
      erased := true
      callbacks :=
        inbox.callbacks ++ [.began .onClose] ++ [.returned .onClose] } := by
  have sequence := sound.sequence
  simp only [empty, List.append_nil, owed, isOpen, alive, if_true,
    Bool.false_eq_true, if_false] at sequence
  have serial := sound.serial
  rw [free] at serial
  refine { sound with sequence := ?_, serial := ?_ }
  · show CallEvent.begun (inbox.callbacks ++ [.began .onClose] ++
      [.returned .onClose]) ++ inbox.handlerStrand = _
    simp only [CallEvent.begun_append, CallEvent.begun_began,
      CallEvent.begun_returned, sequence, empty, owed, isOpen, if_true,
      List.append_nil]
  · show CallEvent.Serial inbox.running _
    rw [free]
    exact .returned (.began .onClose serial)

/-- A session that never opened owes nothing at its end either. -/
theorem Sound.endsUnopened {limit : Nat} {inbox : Inbox}
    (sound : inbox.Sound limit) (closed : inbox.isOpen = false) :
    Sound limit { inbox with erased := true } := by
  refine { sound with sequence := ?_ }
  have sequence := sound.sequence
  rw [owed_of_closed closed] at sequence
  have nothing : ({ inbox with erased := true } : Inbox).owed = [] :=
    owed_of_closed closed
  exact sequence.trans nothing.symm

theorem owed_prefix_script (inbox : Inbox) :
    inbox.owed <+: script inbox.delivered := by
  unfold owed script
  split
  · split
    · exact List.prefix_refl _
    · rw [List.append_nil]
      exact List.prefix_append _ _
  · exact List.nil_prefix

end Inbox

namespace WsSession

open Effects

def inbox (session : WsSession) : Inbox :=
  { accepts := session.ws.accepts
    reads := session.ws.reads
    received := session.ws.received
    buffer := session.buffer
    isOpen := session.isOpen
    handlerStrand := session.handlerStrand
    running := session.running
    erased := session.erased
    delivered := session.history.delivered
    callbacks := session.history.callbacks }

/-- As long as the stream is open, the session reads from it. -/
structure CallbacksSound (limit : Nat) (session : WsSession) : Prop where
  inbox : session.inbox.Sound limit
  opened : session.ws.isOpen = true →
    session.isOpen = true ∧ session.ws.reads = limit

variable {limit : Nat}

theorem CallbacksSound.congr {before after : WsSession}
    (sound : before.CallbacksSound limit)
    (inbox : after.inbox = before.inbox)
    (phase : after.ws.isOpen = true → before.ws.isOpen = true) :
    after.CallbacksSound limit := by
  refine ⟨inbox ▸ sound.inbox, fun isOpen => ?_⟩
  have sameFlag : after.isOpen = before.isOpen := congrArg Inbox.isOpen inbox
  have sameReads : after.ws.reads = before.ws.reads :=
    congrArg Inbox.reads inbox
  rw [sameFlag, sameReads]
  exact sound.opened (phase isOpen)

theorem CallbacksSound.mono {few many : Nat} {session : WsSession}
    (sound : session.CallbacksSound few) (fewer : few ≤ many)
    (ended : session.ws.isOpen = false) : session.CallbacksSound many :=
  ⟨sound.inbox.mono fewer, fun isOpen =>
    absurd (ended.symm.trans isOpen) Bool.false_ne_true⟩

theorem callbacksSound_ofCore : OfCore (CallbacksSound limit) :=
  .of_iff fun _ => ⟨fun sound => sound.congr rfl id,
    fun sound => sound.congr rfl id⟩

/-! ## Functions that leave the inbox alone -/

theorem cancelTimer_callbacksSound (session : WsSession) :
    KeepsAt (Carried (CallbacksSound limit)) cancelTimer session :=
  ⟨cancelTimer_codeKept session, fun _ sound => sound.congr rfl id⟩

theorem restarted_inbox (session : WsSession) :
    session.restarted.inbox = session.inbox := by
  unfold restarted
  split <;> rfl

theorem restartTimer_callbacksSound :
    Keeps (Carried (CallbacksSound limit)) restartTimer :=
  restartTimer_carried fun session sound =>
    sound.congr (restarted_inbox session) (by rw [restarted_ws]; exact id)

theorem queue_callbacksSound :
    KeptByQueue (Carried (CallbacksSound limit)) where
  cancelTimer session _ := cancelTimer_callbacksSound session
  onException := onException_carried callbacksSound_ofCore
  withLock := withLock_carried callbacksSound_ofCore
  pushed _ _ := modify_carried rfl rfl rfl rfl id fun sound =>
    sound.congr rfl id
  popped _ := modify_carried rfl rfl rfl rfl id fun sound =>
    sound.congr rfl id
  requested _ _ := modify_carried rfl rfl rfl rfl (fun _ => rfl) fun sound =>
    sound.congr rfl id
  kindSet _ _ := modify_carried rfl rfl rfl rfl id fun sound =>
    sound.congr rfl id
  asyncWrite data session :=
    startOp_carried (asyncWrite_codeKept data session) fun sound =>
      sound.congr rfl id
  asyncClose reason session :=
    startOp_carried (asyncClose_codeKept reason session) fun sound =>
      sound.congr rfl WsStream.isOpen_of_asyncClose

theorem parts_callbacksSound :
    KeptByParts (Carried (CallbacksSound limit)) :=
  queue_callbacksSound.parts restartTimer_callbacksSound fun _ =>
    modify_carried rfl rfl rfl rfl id fun sound => sound.congr rfl id

theorem timer_callbacksSound :
    KeptByTimer (Carried (CallbacksSound limit)) where
  cancelTimer := cancelTimer_callbacksSound
  restartTimer := restartTimer_callbacksSound
  doTimer session := startOp_carried (doTimer_codeKept session) fun sound =>
    sound.congr rfl id
  onException := onException_carried callbacksSound_ofCore
  pongDue _ := modify_carried rfl rfl rfl rfl id fun sound =>
    sound.congr rfl id
  pingCounted _ := modify_carried rfl rfl rfl rfl id fun sound =>
    sound.congr rfl id
  asyncPing payload session :=
    startOp_carried (asyncPing_codeKept payload session) fun sound =>
      sound.congr rfl id
  socketClosed _ := modify_carried rfl rfl rfl rfl id fun sound =>
    sound.congr rfl id

/-! ## Reading -/

/-- The session once the next read has been started. -/
def readStarted (session : WsSession) : WsSession :=
  { session.restarted.locked with
    ws := session.restarted.ws.asyncRead }.note .read

theorem doRead_run {session : WsSession}
    (held : 0 < session.locker.lockCount) (isOpen : session.ws.isOpen = true) :
    doRead session = .ok () session.readStarted := by
  have stillHeld : 0 < session.restarted.locker.lockCount :=
    Nat.lt_of_lt_of_le held (restarted_lockCount_le session)
  rw [doRead, get_bind_run, if_pos isOpen,
    bind_run_ok (restartTimer_run held), asyncRead]
  exact startOp_run stillHeld _ _

theorem readStarted_inbox (session : WsSession) :
    session.readStarted.inbox =
      { session.inbox with reads := session.ws.reads + 1 } := by
  show { session.restarted.inbox with
    reads := session.restarted.ws.reads + 1 } = _
  rw [restarted_inbox, restarted_ws]

/-- The next read is started where none is outstanding. -/
theorem doRead_callbacksSound {session : WsSession} (held : session.Held)
    (sound : session.CallbacksSound 0) :
    CallbacksSound 1 (after doRead session) := by
  by_cases isOpen : session.ws.isOpen = true
  · obtain ⟨opened, idle⟩ := sound.opened isOpen
    rw [after_eq_of_ok (doRead_run held.pos isOpen)]
    refine ⟨?_, fun _ => ?_⟩
    · rw [readStarted_inbox]
      refine { sound.inbox with
        reads := Nat.succ_le_succ sound.inbox.reads
        notOpened := fun closed => ?_ }
      exact absurd (opened.symm.trans closed) (by decide)
    · have flag : session.readStarted.isOpen = session.isOpen :=
        congrArg Inbox.isOpen (readStarted_inbox session)
      have reads : session.readStarted.ws.reads = session.ws.reads + 1 :=
        congrArg Inbox.reads (readStarted_inbox session)
      rw [flag, reads, idle]
      exact ⟨opened, rfl⟩
  · rw [after_eq_of_ok (by rw [doRead, get_bind_run, if_neg isOpen]; rfl)]
    exact sound.mono (Nat.zero_le 1) (by simpa using isOpen)

/-! ## The handlers that defer callbacks -/

/-- The session once a callback has been deferred. -/
def deferred (session : WsSession) (callback : Callback)
    (buffer : List UInt8) : WsSession :=
  { session.locked with
    handlerStrand := session.handlerStrand ++ [callback]
    buffer := buffer }

theorem onOpen_run {session : WsSession}
    (held : 0 < session.locker.lockCount) :
    onOpen session = .ok () (session.deferred .onOpen session.buffer) := by
  rw [onOpen, deferCallback, catching, bind_run_ok (makeLock_run held),
    modify_run]
  rfl

theorem onMessage_run {session : WsSession} (isText : Bool)
    (held : 0 < session.locker.lockCount) :
    onMessage isText session = .ok ()
      (session.deferred (.onMessage ⟨isText, session.buffer⟩) []) := by
  rw [onMessage, deferCallback, catching, bind_run_ok (makeLock_run held),
    modify_run]
  rfl

theorem deferred_inbox (session : WsSession) (callback : Callback)
    (buffer : List UInt8) :
    (session.deferred callback buffer).inbox =
      { session.inbox with
        handlerStrand := session.inbox.handlerStrand ++ [callback]
        buffer := buffer } :=
  rfl

theorem Held.restarted {session : WsSession} (held : session.Held) :
    session.restarted.Held := by
  have surplus := (restarted_locks session).1
  unfold Held at held ⊢
  omega

theorem Held.deferred {session : WsSession} (held : session.Held)
    (callback : Callback) (buffer : List UInt8) :
    (session.deferred callback buffer).Held := by
  simp only [Held, WsSession.deferred, holders, List.length_append,
    List.length_singleton, locked_lockCount] at held ⊢
  simp only [locked]
  omega

/-- A session that accepts its client opens and starts to read. -/
theorem acceptHandler_callbacksSound {session : WsSession}
    {ec : Option ErrorCode} {ws : WsStream} (locks : session.LocksSound)
    (handshake : session.HandshakeSound) (sound : session.CallbacksSound 1)
    (done : session.ws.acceptDone? ec = some ws)
    (held : Held { session with ws := ws }) :
    CallbacksSound 1 (after (acceptHandler ec) { session with ws := ws }) := by
  obtain ⟨some_accept, wsAfter⟩ := WsStream.acceptDone?_eq_some done
  have closed : session.isOpen = false := sound.inbox.opening some_accept
  have last : session.ws.accepts - 1 = 0 := by
    have single := handshake.single
    omega
  have inboxAfter : ({ session with ws := ws } : WsSession).inbox =
      { session.inbox with accepts := 0 } := by
    rw [wsAfter]
    simp only [inbox, last]
  have reads : ws.reads = session.ws.reads := by rw [wsAfter]
  cases ec with
  | none =>
      have alive : session.erased = false := locks.alive (by
        simp only [holders, WsStream.outstanding]
        omega)
      have heldOpen : Held { session with ws := ws, isOpen := true } := held
      have opens : CallbacksSound 0 (deferred
          { session with ws := ws, isOpen := true } .onOpen
          session.buffer) := by
        refine ⟨?_, fun _ => ⟨rfl, ?_⟩⟩
        case refine_2 =>
          exact reads.trans (sound.inbox.notOpened closed).1
        have inboxOpen : (deferred { session with ws := ws, isOpen := true }
            .onOpen session.buffer).inbox =
            { ({ session with ws := ws } : WsSession).inbox with
              isOpen := true
              handlerStrand := session.handlerStrand ++ [.onOpen] } := rfl
        rw [inboxOpen, inboxAfter]
        exact sound.inbox.opens closed alive
      rw [after_congr (by
        rw [acceptHandler, modify_bind_run,
          bind_run_ok (onOpen_run heldOpen.pos)])]
      exact doRead_callbacksSound (heldOpen.deferred _ _) opens
  | some ec =>
      have ended : ws.isOpen = false := by simp [wsAfter, WsStream.isOpen]
      have failed : CallbacksSound 1 { session with ws := ws } := by
        refine ⟨?_, fun isOpen => absurd (ended.symm.trans isOpen) (by decide)⟩
        rw [inboxAfter]
        exact { sound.inbox with
          opening := fun opening => absurd opening (Nat.lt_irrefl 0) }
      have reported : ∀ error, CallbacksSound 1
          (after (onException error) { session with ws := ws }) :=
        fun error => (parts_callbacksSound.onException error _).carried held
          failed
      cases ec with
      | operationAborted => exact failed
      | closed => exact reported _
      | other value => exact reported _

/-- The state in which the handler of a read starts, for the inbox. -/
theorem receive_inbox {session : WsSession} {ec : Option ErrorCode}
    {chunk : List UInt8} {stillOpen : Bool} {ws : WsStream} (isText : Bool)
    (done : session.ws.readDone? ec chunk stillOpen = some ws) :
    ({ session.receive ec chunk isText with ws := ws } : WsSession).inbox =
      { session.inbox with
        reads := session.inbox.reads - 1
        received := if ec = none then [] else session.inbox.received ++ chunk
        buffer := session.inbox.buffer ++ chunk
        delivered := session.inbox.delivered ++
          if ec = none then [⟨isText, session.inbox.received ++ chunk⟩]
          else [] } := by
  rw [(WsStream.readDone?_eq_some done).2]
  rfl

/-- `activity` and `on_text` or `on_binary`, run one after the other. -/
def received (session : WsSession) (isText : Bool) : WsSession :=
  let active := ({ session with waitOnPong := false } : WsSession).restarted
  active.deferred (.onMessage ⟨isText, active.buffer⟩) []

theorem readHandler_run {session : WsSession} (isText : Bool)
    (held : 0 < session.locker.lockCount) :
    readHandler isText none session =
      doRead (session.received isText) := by
  have stillHeld := Nat.lt_of_lt_of_le held
    (restarted_lockCount_le { session with waitOnPong := false })
  rw [readHandler, bind_run_ok (activity_run held),
    bind_run_ok (onMessage_run isText stillHeld)]
  rfl

theorem received_inbox (session : WsSession) (isText : Bool) :
    (session.received isText).inbox =
      { session.inbox with
        handlerStrand := session.inbox.handlerStrand ++
          [.onMessage ⟨isText, session.inbox.buffer⟩]
        buffer := [] } := by
  have same : ({ session with
      waitOnPong := false } : WsSession).restarted.inbox = session.inbox :=
    restarted_inbox _
  have buffer : ({ session with
      waitOnPong := false } : WsSession).restarted.buffer =
        session.inbox.buffer :=
    congrArg Inbox.buffer same
  simp only [received, deferred_inbox, same, buffer]

/-- Code that leaves the inbox alone and returns, followed by code that may
start the next read. -/
theorem bind_callbacksSound {first : SessionCode Unit}
    {second : Unit → SessionCode Unit} {session : WsSession}
    (kept : KeepsAt (Carried (CallbacksSound 0)) first session)
    (returns : first session = .ok () (after first session))
    (next : ∀ session : WsSession, session.Held →
      session.CallbacksSound 0 → CallbacksSound 1 (after (second ()) session))
    (held : session.Held) (sound : session.CallbacksSound 0) :
    CallbacksSound 1 (after (first >>= second) session) := by
  rw [after_congr (bind_run_ok returns)]
  exact next _ (kept.code.held held) (kept.carried held sound)

theorem catching_returns (body : SessionCode Unit) (session : WsSession) :
    catching body session = .ok () (after (catching body) session) := by
  unfold after catching
  cases body session with
  | ok result next => rfl
  | error error next => rfl

theorem readFailed_callbacksSound {session : WsSession} (isText : Bool)
    (value : Nat) (held : session.Held)
    (sound : session.CallbacksSound 0) :
    CallbacksSound 1
      (after (readHandler isText (some (.other value))) session) := by
  have active := activity_run held.pos
  refine bind_callbacksSound (activity_keeps parts_callbacksSound session)
    (by rw [after_eq_of_ok active]; exact active)
    (fun session held sound => ?_) held sound
  refine bind_callbacksSound (parts_callbacksSound.onException _ session)
    rfl (fun session held sound => ?_) held sound
  by_cases isOpen : session.ws.isOpen = true
  · rw [after_congr (by rw [get_bind_run, if_pos isOpen])]
    exact bind_callbacksSound (parts_callbacksSound.close _ session)
      (catching_returns _ session) (fun _ => doRead_callbacksSound) held sound
  · rw [after_eq_of_ok (by rw [get_bind_run, if_neg isOpen]; rfl)]
    exact sound.mono (Nat.zero_le 1) (by simpa using isOpen)

/-- A message that was read goes to the handler strand before the next read
starts. -/
theorem readHandler_callbacksSound {session : WsSession}
    {ec : Option ErrorCode} {chunk : List UInt8} {isText stillOpen : Bool}
    {ws : WsStream} (locks : session.LocksSound)
    (sound : session.CallbacksSound 1)
    (done : session.ws.readDone? ec chunk stillOpen = some ws)
    (held : Held { session with ws := ws }) :
    CallbacksSound 1 (after (readHandler isText ec)
      { session.receive ec chunk isText with ws := ws }) := by
  have reading : 0 < session.ws.reads := (WsStream.readDone?_eq_some done).1
  have inboxAfter := receive_inbox isText done
  have narrows := WsStream.readDone?_narrows done
  have opened : ws.isOpen = true → session.isOpen = true ∧ ws.reads = 0 := by
    intro isOpen
    obtain ⟨opened, oneRead⟩ := sound.opened (narrows.isOpen isOpen)
    rw [(WsStream.readDone?_eq_some done).2]
    refine ⟨opened, ?_⟩
    show session.ws.reads - 1 = 0
    omega
  have heldEntered :
      Held { session.receive ec chunk isText with ws := ws } := held
  cases ec with
  | none =>
      rw [after_congr (readHandler_run isText heldEntered.pos)]
      have heldActive : Held { session.receive none chunk isText with
          ws := ws, waitOnPong := false } := held
      refine doRead_callbacksSound (heldActive.restarted.deferred _ _)
        ⟨?_, ?_⟩
      · have alive : session.erased = false := locks.alive (by
          simp only [holders, WsStream.outstanding]
          omega)
        rw [received_inbox, inboxAfter]
        have delivers := sound.inbox.delivers reading alive
          ⟨isText, session.inbox.received ++ chunk⟩
        simpa [sound.inbox.buffer] using delivers
      · have sameStream : (received { session.receive none chunk isText with
            ws := ws } isText).ws = ws := restarted_ws _
        have sameFlag : (received { session.receive none chunk isText with
            ws := ws } isText).isOpen = session.isOpen :=
          congrArg Inbox.isOpen (received_inbox _ isText)
        rw [sameStream, sameFlag]
        exact opened
  | some ec =>
      have failed : CallbacksSound 0
          { session.receive (some ec) chunk isText with ws := ws } := by
        refine ⟨?_, opened⟩
        rw [inboxAfter]
        simpa using sound.inbox.fails reading chunk
      cases ec with
      | operationAborted =>
          exact failed.mono (Nat.zero_le 1)
            (WsStream.readDone?_aborted done rfl)
      | closed =>
          exact ((cancelTimer_callbacksSound _).carried heldEntered
            failed).mono (Nat.zero_le 1) (WsStream.readDone?_closed done rfl)
      | other value =>
          exact readFailed_callbacksSound isText value heldEntered failed

/-! ## Every reachable state -/

theorem CallbacksSound.narrowed {session : WsSession} {ws : WsStream}
    (sound : session.CallbacksSound limit)
    (narrows : WsStream.Narrows session.ws ws)
    (reads : ws.reads = session.ws.reads)
    (received : ws.received = session.ws.received) :
    CallbacksSound limit { session with ws := ws } := by
  refine sound.congr ?_ narrows.isOpen
  simp only [WsSession.inbox, reads, received, narrows.accepts]

/-- An erased session has nothing queued, so `on_close` comes last. -/
theorem CallbacksSound.destroyed {session : WsSession}
    (sound : session.CallbacksSound 1) (unowned : session.holders = 0)
    (alive : session.erased = false) :
    session.destroyed.CallbacksSound 1 := by
  simp only [holders, Nat.add_eq_zero_iff, List.length_eq_zero_iff,
    Option.toList_eq_nil_iff] at unowned
  obtain ⟨⟨-, empty⟩, free⟩ := unowned
  unfold WsSession.destroyed
  by_cases isOpen : session.isOpen = true
  · rw [if_pos isOpen]
    exact ⟨sound.inbox.closes isOpen alive free empty, sound.opened⟩
  · rw [if_neg isOpen]
    have closed : session.isOpen = false := by simpa using isOpen
    exact ⟨sound.inbox.endsUnopened closed, sound.opened⟩

theorem callbacksSound_inductive :
    Inductive (fun session => session.LocksSound ∧ session.HandshakeSound)
      (CallbacksSound 1) where
  ofCore := callbacksSound_ofCore
  launched role := by
    cases role <;>
      exact ⟨⟨by decide, by decide, by decide, rfl, rfl, .nil⟩, by decide⟩
  parts := parts_callbacksSound
  runJob := queue_callbacksSound.runJob
  acceptDone base := acceptHandler_callbacksSound base.1 base.2
  readDone base := readHandler_callbacksSound base.1
  writeDone := by
    intro session ec ws _ sound done held
    refine (queue_callbacksSound.writeHandler ec _).carried held
      (sound.narrowed (WsStream.writeDone?_narrows done) ?_ ?_) <;>
      rw [(WsStream.writeDone?_eq_some done).2]
  pingDone := by
    intro session ec stillOpen ws sound done
    refine sound.narrowed (WsStream.pingDone?_narrows done) ?_ ?_ <;>
      rw [(WsStream.pingDone?_eq_some done).2]
  closeDone := by
    intro session stillOpen ws sound done
    refine sound.narrowed (WsStream.closeDone?_narrows done) ?_ ?_ <;>
      rw [(WsStream.closeDone?_eq_some done).2]
  timerExpired sound _ := sound.congr rfl id
  timerDone sound _ held := (timer_callbacksSound.timerHandler _ _).carried held
    (sound.congr rfl id)
  callbackBegins := by
    intro session callback callbacks sound free queued
    exact ⟨sound.inbox.begins free queued, sound.opened⟩
  callbackReturns := by
    intro session callback sound busy
    exact ⟨sound.inbox.returns busy, sound.opened⟩
  streamEnds := by
    intro session ws sound ends
    refine sound.narrowed (WsStream.endStream?_narrows ends) ?_ ?_ <;>
      rw [(WsStream.endStream?_eq_some ends).2]
  writeBlock sound := sound.congr rfl id
  erase _ sound unowned alive := sound.destroyed unowned alive

theorem callbacksSound_of_reachable {session : WsSession}
    (reached : sessionMachine.Reachable session) :
    session.CallbacksSound 1 :=
  callbacksSound_inductive.of_reachable
    (fun reached => ⟨locksSound_of_reachable reached,
      handshakeSound_of_reachable reached⟩) reached

/-- The callbacks that began, oldest first. -/
def begun (session : WsSession) : List Callback :=
  CallEvent.begun session.history.callbacks

/-- The callback protocol: the callbacks follow the script, completely once
the session is erased, if it opened; `on_close` waits for the others to
return; and there is at most one read. -/
theorem callbacks_of_reachable {session : WsSession}
    (reached : sessionMachine.Reachable session) :
    session.begun <+: Inbox.script session.history.delivered ∧
      (session.erased = true → session.begun =
        if session.isOpen then Inbox.script session.history.delivered
        else []) ∧
      (session.ws.isOpen = true → session.isOpen = true) ∧
      (∀ before after,
        session.history.callbacks = before ++ .began .onClose :: after →
        CallEvent.begun before = CallEvent.finished before) ∧
      session.ws.reads ≤ 1 := by
  have callbacks := callbacksSound_of_reachable reached
  have sound := callbacks.inbox
  have locks := locksSound_of_reachable reached
  have sequence : session.begun ++ session.handlerStrand =
    session.inbox.owed := sound.sequence
  refine ⟨?_, fun erased => ?_, fun isOpen => (callbacks.opened isOpen).1,
    fun _ _ => sound.serial.finished_before, sound.reads⟩
  · have begins : session.begun <+: session.inbox.owed :=
      ⟨session.handlerStrand, sequence⟩
    exact begins.trans (Inbox.owed_prefix_script _)
  · have unowned : session.holders = 0 :=
      locks.counted.symm.trans (locks.erased erased)
    simp only [holders, Nat.add_eq_zero_iff,
      List.length_eq_zero_iff] at unowned
    rw [unowned.1.2, List.append_nil] at sequence
    rw [sequence]
    simp [Inbox.owed, Inbox.script, inbox, erased]

/-- One message, then the peer closes. -/
def oneMessage : List SessionEvent :=
  [.startReturns, .readDone none [104, 105] true true, .release .ioThread,
    .callbackBegins, .readDone (some .closed) [] false false,
    .release .ioThread, .callbackReturns, .callbackBegins,
    .callbackReturns] ++
  (List.replicate 5 [.timerDone (some .operationAborted),
    .release .ioThread]).flatten ++ [.erase]

theorem callbacks_one_message :
    ∃ session,
      sessionMachine.run (launched .client) oneMessage = some session ∧
        session.erased = true ∧
        session.begun =
          [.onOpen, .onMessage ⟨true, [104, 105]⟩, .onClose] := by
  have initial : sessionMachine.initial (launched .client) := ⟨.client, rfl⟩
  have ran : sessionMachine.run (launched .client) oneMessage = some _ := rfl
  have reached := Machine.reachable_of_run initial ran
  exact ⟨_, ran, rfl, (callbacks_of_reachable reached).2.1 rfl⟩

end WsSession

end Webservice
