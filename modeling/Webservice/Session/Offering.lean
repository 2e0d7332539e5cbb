import Webservice.Service.Ordering

/-!
# What a session is offered to write

Only the lambda of `send` puts a message into `write_list_`, and only the
caller of `send` puts that lambda on the strand.  The messages that a session
accepts are therefore among those it was offered, in the order of the calls.
-/

namespace Webservice

/-- The message that the lambda of `send` carries. -/
def StrandJob.entry? : StrandJob → Option WriteData
  | .send isText data => some ⟨isText, some data⟩
  | .close _ => none

/-- The message that the event offers. -/
def SessionEvent.offers? : SessionEvent → Option WriteData
  | .dispatch job => job.entry?
  | _ => none

namespace WsSession

open Effects SendingService

/-- The messages accepted so far and those on the strand. -/
def offered (session : WsSession) : List WriteData :=
  session.history.accepted ++ session.strand.filterMap StrandJob.entry?

section

variable {session next : WsSession}

/-! ## Other code accepts nothing -/

theorem cancelTimer_accepted : Keeps SameAccepted cancelTimer :=
  .modify fun _ => rfl

theorem onException_accepted (error : Exception) :
    Keeps SameAccepted (onException error) :=
  .modify fun _ => rfl

theorem closeJob_accepted (reason : CloseReason) :
    Keeps SameAccepted (closeJob reason) := by
  have requested : Keeps SameAccepted (modify fun session =>
      { session with closeReason := some reason } : SessionCode Unit) :=
    .modify fun _ => rfl
  refine .bind .get fun session => ?_
  apply Keeps.ite
  · exact fun _ => cancelTimer_accepted
  · intro _
    apply Keeps.ite
    · exact fun _ => .pure _
    · intro _
      apply Keeps.bind requested
      intro _
      exact .ite (fun _ => doWrite_accepted) fun _ => .pure _

theorem restartTimer_accepted : Keeps SameAccepted restartTimer := by
  have cancelled : Keeps SameAccepted expiresAfter :=
    .bind .get fun _ => .bind cancelTimer_accepted fun _ => .pure _
  refine .bind cancelled fun _ => .bind .get fun _ => ?_
  exact .ite (fun _ => startOp_accepted fun _ => rfl) fun _ => .pure _

theorem parts_accepted : KeptByParts SameAccepted where
  cancelTimer session _ := cancelTimer_accepted session
  restartTimer := restartTimer_accepted
  pongSeen := .modify fun _ => rfl
  onException := onException_accepted
  close reason := catching_keeps
    (withLock_keeps (fun _ _ => rfl) (closeJob_accepted reason))
    onException_accepted

theorem timer_accepted : KeptByTimer SameAccepted where
  cancelTimer := cancelTimer_accepted
  restartTimer := restartTimer_accepted
  doTimer := startOp_accepted fun _ => rfl
  onException := onException_accepted
  pongDue := .modify fun _ => rfl
  pingCounted := .modify fun _ => rfl
  asyncPing _ := startOp_accepted fun _ => rfl
  socketClosed := .modify fun _ => rfl

theorem doRead_accepted : Keeps SameAccepted doRead :=
  doRead_keeps restartTimer_accepted (startOp_accepted fun _ => rfl)

theorem deferCallback_accepted (callback : WsSession → Callback)
    {captures : WsSession → WsSession}
    (same : ∀ session, SameAccepted session (captures session)) :
    Keeps SameAccepted (deferCallback callback captures) := by
  apply catching_keeps
  · exact .bind (makeLock_keeps fun _ _ => rfl) fun _ => .modify same
  · exact onException_accepted

theorem writeHandler_accepted (ec : Option ErrorCode) :
    Keeps SameAccepted (writeHandler ec) := by
  have failed : ∀ ec, Keeps SameAccepted (do
      onError "write" ec
      close (.ofText "write error") : SessionCode Unit) := fun ec =>
    .bind (onException_accepted _) fun _ => parts_accepted.close _
  cases ec with
  | none =>
      have popped : Keeps SameAccepted (modify fun session =>
          { session with writeList := session.writeList.popFront } :
          SessionCode Unit) := .modify fun _ => rfl
      refine .bind popped fun _ => .bind .get fun _ => ?_
      exact .ite (fun _ => doWrite_accepted) fun _ => .pure _
  | some ec =>
      cases ec with
      | operationAborted => exact .pure _
      | closed => exact failed _
      | other value => exact failed _

theorem acceptHandler_accepted (ec : Option ErrorCode) :
    Keeps SameAccepted (acceptHandler ec) := by
  have opened : Keeps SameAccepted (modify fun session =>
      { session with isOpen := true } : SessionCode Unit) :=
    .modify fun _ => rfl
  exact acceptHandler_keeps opened (deferCallback_accepted _ fun _ => rfl)
    doRead_accepted onException_accepted ec

/-! ## Steps -/

/-- Code that accepts nothing leaves what is offered. -/
theorem offered_of_kept (host : Host) {body : SessionCode Unit}
    (code : KeepsAt CodeKept body session)
    (accepted : KeepsAt SameAccepted body session) :
    (runHandler host body session).offered = session.offered := by
  have strand : (runHandler host body session).strand = session.strand :=
    congrArg Frame.strand (runBody_codeKept host code).frame
  have same : (runHandler host body session).history.accepted =
      session.history.accepted :=
    (runBody_accepted host body session).trans accepted
  rw [offered, offered, strand, same]

/-- A job accepts the message that it carries, or nothing. -/
theorem runJob_accepted (job : StrandJob) :
    (after (runJob job) session).history.accepted.Sublist
      (session.history.accepted ++ job.entry?.toList) := by
  cases job with
  | send isText data =>
      rcases sendJob_accepted session ⟨0, none, isText, data⟩ with
        same | longer
      · exact same ▸ List.sublist_append_left _ _
      · exact longer ▸ List.Sublist.refl _
  | close reason =>
      have same : (after (closeJob reason) session).history.accepted =
          session.history.accepted := closeJob_accepted reason session
      exact same ▸ List.sublist_append_left _ _

/-- The first job of the strand has run. -/
theorem runJob_offered (host : Host) {job : StrandJob}
    {jobs : List StrandJob} (queued : session.strand = job :: jobs) :
    (runHandler host (runJob job)
      { session with strand := jobs }).offered.Sublist session.offered := by
  have strand : (runHandler host (runJob job)
      { session with strand := jobs }).strand = jobs :=
    congrArg Frame.strand
      (runBody_codeKept host (queue_codeKept.runJob job _)).frame
  have accepted : (runHandler host (runJob job)
      { session with strand := jobs }).history.accepted.Sublist
        (session.history.accepted ++ job.entry?.toList) :=
    (runBody_accepted host (runJob job) _).symm ▸ runJob_accepted job
  have both := accepted.append_right (jobs.filterMap StrandJob.entry?)
  rw [offered, offered, strand, queued, List.filterMap_cons]
  cases entry : job.entry? with
  | none => simpa [entry] using both
  | some entry => simpa [entry] using both

theorem dispatch_offered (job : StrandJob) :
    (after (dispatch job) session).offered.Sublist
      (session.offered ++ job.entry?.toList) := by
  by_cases drained : session.locker.lockCount = 0
  · have threw := makeLock_run_drained drained
    rw [after_eq_of_ok (by
      rw [dispatch, catching, bind_run, threw]
      rfl)]
    exact List.sublist_append_left _ _
  · rw [after_eq_of_ok (by
      rw [dispatch, catching,
        bind_run_ok (makeLock_run (Nat.pos_of_ne_zero drained))]
      rfl)]
    have longer : (session.strand ++ [job]).filterMap StrandJob.entry? =
        session.strand.filterMap StrandJob.entry? ++ job.entry?.toList := by
      rw [List.filterMap_append]
      cases entry : job.entry? <;> simp [entry]
    rw [offered, offered, List.append_assoc, ← longer]
    exact List.Sublist.refl _

/-- Whatever a session does, nothing gets into what it was offered but the
message of a call of `send`, at the end. -/
theorem step_offered {event : SessionEvent}
    (stepped : session.step event = some next) :
    next.offered.Sublist (session.offered ++ event.offers?.toList) := by
  have silent : ∀ {after : WsSession}, after.offered = session.offered →
      after.offered.Sublist (session.offered ++ []) := by
    intro after same
    rw [same, List.append_nil]
  cases event with
  | startReturns =>
      obtain ⟨-, rfl⟩ := step_startReturns stepped
      exact silent rfl
  | acceptDone ec =>
      obtain ⟨-, ws, -, rfl⟩ := complete_eq_some stepped
      exact silent (offered_of_kept _ (acceptHandler_codeKept ec _)
        (acceptHandler_accepted ec _))
  | readDone ec chunk isText stillOpen =>
      obtain ⟨-, ws, done, rfl⟩ := complete_eq_some stepped
      have closed := WsStream.readDone?_closed done
      exact silent (offered_of_kept _ (readHandler_codeKept isText closed)
        (readHandler_keeps parts_accepted
          (fun _ => deferCallback_accepted _ fun _ => rfl) doRead_accepted
          isText closed))
  | writeDone ec =>
      obtain ⟨-, ws, -, rfl⟩ := complete_eq_some stepped
      exact silent (offered_of_kept _ (queue_codeKept.writeHandler ec _)
        (writeHandler_accepted ec _))
  | pingDone ec stillOpen =>
      obtain ⟨-, ws, -, rfl⟩ := complete_eq_some stepped
      exact silent (offered_of_kept _ (parts_codeKept.pingHandler ec _)
        (parts_accepted.pingHandler ec _))
  | closeDone ec stillOpen =>
      obtain ⟨-, ws, -, rfl⟩ := complete_eq_some stepped
      exact silent (offered_of_kept _ (parts_codeKept.closeHandler ec _)
        (parts_accepted.closeHandler ec _))
  | controlFrame =>
      obtain ⟨-, -, rfl⟩ := step_controlFrame stepped
      have same := offered_of_kept .ioThread
        (activity_keeps parts_codeKept session)
        (activity_keeps parts_accepted session)
      exact silent same
  | timerExpired =>
      obtain ⟨timer, -, rfl⟩ := step_timerExpired stepped
      exact silent rfl
  | timerDone ec =>
      obtain ⟨-, timer, -, rfl⟩ := step_timerDone stepped
      exact silent (offered_of_kept _ (timer_codeKept.timerHandler ec _)
        (timer_accepted.timerHandler ec _))
  | runJob host =>
      obtain ⟨-, job, jobs, queued, -, rfl⟩ := step_runJob stepped
      exact (runJob_offered host queued).trans
        (List.sublist_append_left _ _)
  | release host =>
      obtain ⟨-, rfl⟩ := step_release stepped
      exact silent rfl
  | callbackBegins =>
      obtain ⟨-, callback, callbacks, -, rfl⟩ := step_callbackBegins stepped
      exact silent rfl
  | callbackReturns =>
      obtain ⟨callback, -, rfl⟩ := step_callbackReturns stepped
      exact silent rfl
  | dispatch job =>
      obtain ⟨-, rfl⟩ := step_dispatch stepped
      exact dispatch_offered job
  | streamEnds =>
      obtain ⟨ws, -, rfl⟩ := step_streamEnds stepped
      exact silent rfl
  | writeBlock blocked =>
      cases stepped
      exact silent rfl
  | erase =>
      obtain ⟨-, -, rfl⟩ := step_erase stepped
      apply silent
      unfold destroyed
      split <;> rfl

end

end WsSession

end Webservice
