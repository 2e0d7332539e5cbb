/-!
# WebSocket streams

The part of `beast::websocket::stream` that a session relies on: whether
`is_open()` holds, which operations are outstanding, and what their
completions may do to it.  Where Beast leaves a choice, such as when a
closing handshake makes `is_open()` false, the completion carries it.
-/

namespace Webservice

/-- The values of `error_code` that the handlers tell apart; success is the
absent code. -/
inductive ErrorCode where
  | operationAborted
  | closed
  | other (value : Nat)
  deriving DecidableEq

inductive StreamPhase where
  /-- The opening handshake has not completed. -/
  | handshake
  | opened
  /-- `is_open()` was true and no longer is, or the handshake failed. -/
  | ended
  deriving DecidableEq

/-- The phase after the stream stopped being open, if it was. -/
def StreamPhase.afterEnd : StreamPhase → StreamPhase
  | .opened => .ended
  | phase => phase

@[simp] theorem StreamPhase.afterEnd_afterEnd (phase : StreamPhase) :
    phase.afterEnd.afterEnd = phase.afterEnd := by
  cases phase <;> rfl

theorem StreamPhase.afterEnd_ne_opened (phase : StreamPhase) :
    phase.afterEnd ≠ .opened := by
  cases phase <;> simp [afterEnd]

structure WsStream where
  phase : StreamPhase
  /-- A control frame that the stream sends by itself holds its write
  block, so a closing handshake has to wait for it. -/
  writeBlocked : Bool
  /-- The option `text`: the kind of the next message written. -/
  text : Bool
  /-- The socket below the stream has not been closed by the session. -/
  socketOpen : Bool
  accepts : Nat
  reads : Nat
  writes : Nat
  pings : Nat
  closes : Nat
  /-- Bytes of the message being received that earlier reads handed over. -/
  received : List UInt8
  deriving DecidableEq

namespace WsStream

def isOpen (ws : WsStream) : Bool := decide (ws.phase = .opened)

/-- Operations whose handler has not run. -/
def outstanding (ws : WsStream) : Nat :=
  ws.accepts + ws.reads + ws.writes + ws.pings + ws.closes

def fresh (phase : StreamPhase) : WsStream :=
  { phase := phase
    writeBlocked := false
    text := true
    socketOpen := true
    accepts := 0
    reads := 0
    writes := 0
    pings := 0
    closes := 0
    received := [] }

/-! ## Starting operations -/

def asyncAccept (ws : WsStream) : WsStream :=
  { ws with accepts := ws.accepts + 1 }

def asyncRead (ws : WsStream) : WsStream := { ws with reads := ws.reads + 1 }

def asyncWrite (ws : WsStream) : WsStream :=
  { ws with writes := ws.writes + 1 }

def asyncPing (ws : WsStream) : WsStream := { ws with pings := ws.pings + 1 }

/-- The closing handshake begins at once, which ends `is_open()`, unless
something else holds the write block. -/
def asyncClose (ws : WsStream) : WsStream :=
  { ws with
    closes := ws.closes + 1
    phase := if ws.writeBlocked then ws.phase else ws.phase.afterEnd }

def closeSocket (ws : WsStream) : WsStream := { ws with socketOpen := false }

/-! ## Completions

Each is defined only while such an operation is outstanding. -/

/-- The phase after an operation of an open stream failed. -/
def failed (ws : WsStream) (stillOpen : Bool) : StreamPhase :=
  if stillOpen then ws.phase else ws.phase.afterEnd

def acceptDone? (ws : WsStream) (ec : Option ErrorCode) : Option WsStream :=
  if 0 < ws.accepts then
    some { ws with
      accepts := ws.accepts - 1
      phase := if ec = none then .opened else .ended }
  else none

/-- With `closed` or `operation_aborted` the stream is no longer open. -/
def phaseAfterRead (ws : WsStream) (stillOpen : Bool) :
    Option ErrorCode → StreamPhase
  | none => ws.phase
  | some (.other _) => ws.failed stillOpen
  | some _ => ws.phase.afterEnd

/-- A read hands over `chunk`; without an error it completes a message. -/
def readDone? (ws : WsStream) (ec : Option ErrorCode)
    (chunk : List UInt8) (stillOpen : Bool) : Option WsStream :=
  if 0 < ws.reads then
    some { ws with
      reads := ws.reads - 1
      received := if ec = none then [] else ws.received ++ chunk
      phase := ws.phaseAfterRead stillOpen ec }
  else none

/-- A write that completes with an error leaves `is_open()` false. -/
def writeDone? (ws : WsStream) (ec : Option ErrorCode) : Option WsStream :=
  if 0 < ws.writes then
    some { ws with
      writes := ws.writes - 1
      phase := if ec = none then ws.phase else ws.phase.afterEnd }
  else none

def pingDone? (ws : WsStream) (ec : Option ErrorCode) (stillOpen : Bool) :
    Option WsStream :=
  if 0 < ws.pings then
    some { ws with
      pings := ws.pings - 1
      phase := if ec = none then ws.phase else ws.failed stillOpen }
  else none

def closeDone? (ws : WsStream) (stillOpen : Bool) : Option WsStream :=
  if 0 < ws.closes then
    some { ws with closes := ws.closes - 1, phase := ws.failed stillOpen }
  else none

/-- The stream stops being open for a reason of its own: a close frame, an
error, or a closing handshake that gets the write block. -/
def endStream? (ws : WsStream) : Option WsStream :=
  if ws.phase = .opened then some { ws with phase := .ended } else none

/-! ## What the operations change -/

theorem isOpen_of_asyncClose {ws : WsStream}
    (stillOpen : ws.asyncClose.isOpen = true) : ws.isOpen = true := by
  unfold isOpen asyncClose at stillOpen
  unfold isOpen
  cases blocked : ws.writeBlocked with
  | true => simpa [blocked] using stillOpen
  | false =>
      simp only [blocked, Bool.false_eq_true, if_false,
        decide_eq_true_eq] at stillOpen
      exact absurd stillOpen (StreamPhase.afterEnd_ne_opened _)

theorem acceptDone?_eq_some {ws after : WsStream} {ec : Option ErrorCode}
    (done : ws.acceptDone? ec = some after) :
    0 < ws.accepts ∧ after = { ws with
      accepts := ws.accepts - 1
      phase := if ec = none then .opened else .ended } := by
  simp only [acceptDone?, Option.ite_none_right_eq_some,
    Option.some.injEq] at done
  exact ⟨done.1, done.2.symm⟩

theorem acceptDone?_outstanding {ws after : WsStream}
    {ec : Option ErrorCode} (done : ws.acceptDone? ec = some after) :
    ws.outstanding = after.outstanding + 1 := by
  obtain ⟨some_accept, rfl⟩ := acceptDone?_eq_some done
  simp only [outstanding]
  omega

theorem readDone?_eq_some {ws after : WsStream} {ec : Option ErrorCode}
    {chunk : List UInt8} {stillOpen : Bool}
    (done : ws.readDone? ec chunk stillOpen = some after) :
    0 < ws.reads ∧ after = { ws with
      reads := ws.reads - 1
      received := if ec = none then [] else ws.received ++ chunk
      phase := ws.phaseAfterRead stillOpen ec } := by
  simp only [readDone?, Option.ite_none_right_eq_some,
    Option.some.injEq] at done
  exact ⟨done.1, done.2.symm⟩

theorem readDone?_closed {ws after : WsStream} {ec : Option ErrorCode}
    {chunk : List UInt8} {stillOpen : Bool}
    (done : ws.readDone? ec chunk stillOpen = some after)
    (closed : ec = some .closed) : after.isOpen = false := by
  obtain ⟨-, rfl⟩ := readDone?_eq_some done
  simp [isOpen, phaseAfterRead, closed, StreamPhase.afterEnd_ne_opened]

theorem readDone?_aborted {ws after : WsStream} {ec : Option ErrorCode}
    {chunk : List UInt8} {stillOpen : Bool}
    (done : ws.readDone? ec chunk stillOpen = some after)
    (aborted : ec = some .operationAborted) : after.isOpen = false := by
  obtain ⟨-, rfl⟩ := readDone?_eq_some done
  simp [isOpen, phaseAfterRead, aborted, StreamPhase.afterEnd_ne_opened]

theorem readDone?_outstanding {ws after : WsStream} {ec : Option ErrorCode}
    {chunk : List UInt8} {stillOpen : Bool}
    (done : ws.readDone? ec chunk stillOpen = some after) :
    ws.outstanding = after.outstanding + 1 := by
  obtain ⟨some_read, rfl⟩ := readDone?_eq_some done
  simp only [outstanding]
  omega

theorem writeDone?_eq_some {ws after : WsStream} {ec : Option ErrorCode}
    (done : ws.writeDone? ec = some after) :
    0 < ws.writes ∧ after = { ws with
      writes := ws.writes - 1
      phase := if ec = none then ws.phase else ws.phase.afterEnd } := by
  simp only [writeDone?, Option.ite_none_right_eq_some,
    Option.some.injEq] at done
  exact ⟨done.1, done.2.symm⟩

theorem writeDone?_outstanding {ws after : WsStream} {ec : Option ErrorCode}
    (done : ws.writeDone? ec = some after) :
    ws.outstanding = after.outstanding + 1 := by
  obtain ⟨some_write, rfl⟩ := writeDone?_eq_some done
  simp only [outstanding]
  omega

theorem pingDone?_eq_some {ws after : WsStream} {ec : Option ErrorCode}
    {stillOpen : Bool} (done : ws.pingDone? ec stillOpen = some after) :
    0 < ws.pings ∧ after = { ws with
      pings := ws.pings - 1
      phase := if ec = none then ws.phase else ws.failed stillOpen } := by
  simp only [pingDone?, Option.ite_none_right_eq_some,
    Option.some.injEq] at done
  exact ⟨done.1, done.2.symm⟩

theorem pingDone?_outstanding {ws after : WsStream} {ec : Option ErrorCode}
    {stillOpen : Bool} (done : ws.pingDone? ec stillOpen = some after) :
    ws.outstanding = after.outstanding + 1 := by
  obtain ⟨some_ping, rfl⟩ := pingDone?_eq_some done
  simp only [outstanding]
  omega

theorem closeDone?_eq_some {ws after : WsStream} {stillOpen : Bool}
    (done : ws.closeDone? stillOpen = some after) :
    0 < ws.closes ∧ after = { ws with
      closes := ws.closes - 1
      phase := ws.failed stillOpen } := by
  simp only [closeDone?, Option.ite_none_right_eq_some,
    Option.some.injEq] at done
  exact ⟨done.1, done.2.symm⟩

theorem closeDone?_outstanding {ws after : WsStream} {stillOpen : Bool}
    (done : ws.closeDone? stillOpen = some after) :
    ws.outstanding = after.outstanding + 1 := by
  obtain ⟨some_close, rfl⟩ := closeDone?_eq_some done
  simp only [outstanding]
  omega

theorem endStream?_eq_some {ws after : WsStream}
    (ends : ws.endStream? = some after) :
    ws.phase = .opened ∧ after = { ws with phase := .ended } := by
  simp only [endStream?, Option.ite_none_right_eq_some,
    Option.some.injEq] at ends
  exact ⟨ends.1, ends.2.symm⟩

theorem endStream?_outstanding {ws after : WsStream}
    (ends : ws.endStream? = some after) :
    after.outstanding = ws.outstanding := by
  obtain ⟨-, rfl⟩ := endStream?_eq_some ends
  rfl

/-- Apart from a handshake, no step of the stream opens it. -/
structure Narrows (before after : WsStream) : Prop where
  accepts : after.accepts = before.accepts
  socketOpen : after.socketOpen = before.socketOpen
  phase : after.phase = before.phase ∨ after.phase = before.phase.afterEnd

theorem Narrows.isOpen {before after : WsStream}
    (narrows : Narrows before after) (stillOpen : after.isOpen = true) :
    before.isOpen = true := by
  unfold WsStream.isOpen at stillOpen ⊢
  rcases narrows.phase with same | ended
  · rwa [same] at stillOpen
  · rw [ended, decide_eq_true_eq] at stillOpen
    exact absurd stillOpen (StreamPhase.afterEnd_ne_opened _)

theorem failed_narrows (ws : WsStream) (stillOpen : Bool) :
    ws.failed stillOpen = ws.phase ∨
      ws.failed stillOpen = ws.phase.afterEnd := by
  cases stillOpen
  · exact .inr rfl
  · exact .inl rfl

theorem readDone?_narrows {ws after : WsStream} {ec : Option ErrorCode}
    {chunk : List UInt8} {stillOpen : Bool}
    (done : ws.readDone? ec chunk stillOpen = some after) :
    Narrows ws after := by
  obtain ⟨-, rfl⟩ := readDone?_eq_some done
  refine ⟨rfl, rfl, ?_⟩
  cases ec with
  | none => exact .inl rfl
  | some ec =>
      cases ec with
      | operationAborted => exact .inr rfl
      | closed => exact .inr rfl
      | other value => exact failed_narrows ws stillOpen

theorem writeDone?_narrows {ws after : WsStream} {ec : Option ErrorCode}
    (done : ws.writeDone? ec = some after) : Narrows ws after := by
  obtain ⟨-, rfl⟩ := writeDone?_eq_some done
  cases ec with
  | none => exact ⟨rfl, rfl, .inl rfl⟩
  | some ec => exact ⟨rfl, rfl, .inr rfl⟩

theorem pingDone?_narrows {ws after : WsStream} {ec : Option ErrorCode}
    {stillOpen : Bool} (done : ws.pingDone? ec stillOpen = some after) :
    Narrows ws after := by
  obtain ⟨-, rfl⟩ := pingDone?_eq_some done
  cases ec with
  | none => exact ⟨rfl, rfl, .inl rfl⟩
  | some ec => exact ⟨rfl, rfl, failed_narrows ws stillOpen⟩

theorem closeDone?_narrows {ws after : WsStream} {stillOpen : Bool}
    (done : ws.closeDone? stillOpen = some after) : Narrows ws after := by
  obtain ⟨-, rfl⟩ := closeDone?_eq_some done
  exact ⟨rfl, rfl, failed_narrows ws stillOpen⟩

theorem endStream?_narrows {ws after : WsStream}
    (ends : ws.endStream? = some after) : Narrows ws after := by
  obtain ⟨opened, rfl⟩ := endStream?_eq_some ends
  refine ⟨rfl, rfl, .inr ?_⟩
  rw [opened]
  rfl

end WsStream

end Webservice
