import Webservice.Service.Sending
import Webservice.Session.Writing

/-!
# Sends are not reordered

A call by one of the callers enters the strand of the service from outside,
and the job it dispatches there runs on a stack without a strand of a
session.  So on both strands a message is dispatched from outside, and cannot
overtake one that waits.
-/

namespace Webservice

/-- The rank of a message among those that have a caller. -/
def Sent.rank (sent : Sent) : Option Nat :=
  if sent.caller.isSome then some sent.number else none

def SendingJob.rank (job : SendingJob) : Option Nat := job.sent?.bind Sent.rank

namespace SendingService

open Strands Effects

variable {ioThread : Nat → Bool} {service : SendingService} {thread : Nat}

/-- Below a message with a caller there is no strand of a session, and below
a callback there is nothing. -/
structure Clear (frame : Frame StrandId SendingJob)
    (below : List (Frame StrandId SendingJob)) : Prop where
  ranked : frame.job.rank ≠ none → ∀ other ∈ below,
    ∀ number, other.strand ≠ .session number
  callback : ∀ index, frame.job = .callback index → below = []

def Cleared : List (Frame StrandId SendingJob) → Prop
  | [] => True
  | frame :: below => Clear frame below ∧ Cleared below

/-- Messages that a session has queued come in order, and before all that
are still on their way. -/
structure InLine (strands : Strands StrandId SendingJob) (calls number : Nat)
    (queued : List Sent) : Prop where
  order : queued.Pairwise fun first second =>
    Precedes first.rank second.rank
  numbered : ∀ sent ∈ queued, ∀ rank, sent.rank = some rank →
    rank < calls
  first : ∀ sent ∈ queued, ∀ job,
    strands.On (.session number) job ∨ strands.On .service job →
      Precedes sent.rank job.rank

structure Ordered (service : SendingService) : Prop where
  sound : service.strands.Sound
  cleared : ∀ thread, Cleared (service.strands.stack thread)
  order : ∀ strand, InOrder SendingJob.rank service.strands strand
  crossing : ∀ number first second,
    service.strands.On (.session number) first →
    service.strands.On .service second → Precedes first.rank second.rank
  numbered : ∀ strand job, service.strands.On strand job →
    ∀ rank, job.rank = some rank → rank < service.calls
  queued : ∀ number,
    InLine service.strands service.calls number
      (service.recipients number).queued

theorem constructed_ordered : constructed.Ordered := by
  constructor
  · exact fresh_sound
  · exact fun thread => trivial
  · exact fun strand => fresh_inOrder
  · exact fun number first second isOn => absurd isOn fresh_on
  · exact fun strand job isOn => absurd isOn fresh_on
  · exact fun number => ⟨List.Pairwise.nil, nofun, nofun⟩

/-! ## Dispatching -/

/-- What has to be known of a job for its dispatch to keep the order. -/
structure Fits (service : SendingService) (thread : Nat) (strand : StrandId)
    (job : SendingJob) : Prop where
  clear : Clear ⟨strand, job⟩ (service.strands.stack thread)
  outside : service.strands.isIn thread strand = true → job.rank = none
  last : ∀ earlier, service.strands.On strand earlier →
    Precedes earlier.rank job.rank
  toSession : ∀ number, strand = .session number →
    ∀ later, service.strands.On .service later → Precedes job.rank later.rank
  toService : strand = .service → ∀ number earlier,
    service.strands.On (.session number) earlier →
    Precedes earlier.rank job.rank
  numbered : ∀ rank, job.rank = some rank → rank < service.calls
  queued : ∀ number, strand = .session number ∨ strand = .service →
    ∀ sent ∈ (service.recipients number).queued, Precedes sent.rank job.rank

theorem Cleared.dispatch {strands : Strands StrandId SendingJob}
    (cleared : ∀ thread, Cleared (strands.stack thread)) {runs : Bool}
    {thread : Nat} {strand : StrandId} {job : SendingJob}
    (clear : Clear ⟨strand, job⟩ (strands.stack thread)) (other : Nat) :
    Cleared ((strands.dispatch runs thread strand job).stack other) := by
  rw [Strands.dispatch]
  split
  · rw [run_stack]
    split
    · exact ⟨clear, cleared thread⟩
    · exact cleared other
  · exact cleared other

theorem Ordered.dispatch (ordered : service.Ordered) {runs : Bool}
    {thread : Nat} {strand : StrandId} {job : SendingJob}
    (fits : service.Fits thread strand job) :
    Ordered { service with
      strands := service.strands.dispatch runs thread strand job } := by
  constructor
  · exact ordered.sound.dispatch runs thread strand job
  · exact Cleared.dispatch ordered.cleared fits.clear
  · exact fun other => (ordered.order other).dispatch ordered.sound
      (fun _ => fits.last) fits.outside
  · intro number first second isFirst isSecond
    rcases dispatch_on.mp isFirst with wasFirst | ⟨isStrand, rfl⟩
    · rcases dispatch_on.mp isSecond with wasSecond | ⟨isStrand, rfl⟩
      · exact ordered.crossing number first second wasFirst wasSecond
      · exact fits.toService isStrand.symm number first wasFirst
    · rcases dispatch_on.mp isSecond with wasSecond | ⟨-, rfl⟩
      · exact fits.toSession number isStrand.symm second wasSecond
      · exact .refl _
  · intro other found isOn
    rcases dispatch_on.mp isOn with wasOn | ⟨-, rfl⟩
    · exact ordered.numbered other found wasOn
    · exact fits.numbered
  · intro number
    obtain ⟨order, numbered, first⟩ := ordered.queued number
    refine ⟨order, numbered, fun sent isQueued found isOn => ?_⟩
    rw [dispatch_on, dispatch_on] at isOn
    rcases isOn with (wasOn | ⟨same, rfl⟩) | (wasOn | ⟨same, rfl⟩)
    · exact first sent isQueued found (.inl wasOn)
    · exact fits.queued number (.inl same.symm) sent isQueued
    · exact first sent isQueued found (.inr wasOn)
    · exact fits.queued number (.inr same.symm) sent isQueued

theorem fits_other (service : SendingService) (thread : Nat)
    (strand : StrandId) : service.Fits thread strand .other := by
  constructor
  · exact ⟨fun ranked => absurd rfl ranked, nofun⟩
  · exact fun _ => rfl
  · exact fun earlier _ => .none_right _
  · exact fun _ _ later _ => .none_left _
  · exact fun _ _ earlier _ => .none_right _
  · exact fun rank isRank => nomatch isRank
  · exact fun _ _ sent _ => .none_right _

theorem Ordered.counted (ordered : service.Ordered) :
    Ordered { service with calls := service.calls + 1 } := by
  obtain ⟨sound, cleared, order, crossing, numbered, queued⟩ := ordered
  refine ⟨sound, cleared, order, crossing, ?_, fun number => ?_⟩
  · exact fun strand job isOn rank isRank =>
      Nat.lt_succ_of_lt (numbered strand job isOn rank isRank)
  · obtain ⟨order, numbered, first⟩ := queued number
    exact ⟨order, fun sent isQueued rank isRank =>
      Nat.lt_succ_of_lt (numbered sent isQueued rank isRank), first⟩

/-- A caller is in no strand but its own. -/
theorem caller_stack (cleared : Cleared (service.strands.stack thread))
    (isCaller : service.caller? ioThread thread ≠ none) :
    ∀ frame ∈ service.strands.stack thread,
      ∃ number, frame.strand = .handler number := by
  rw [caller?] at isCaller
  split at isCaller
  · next runs =>
      rw [runs]
      exact fun frame isFrame => nomatch isFrame
  · next number index below runs =>
      rw [runs] at cleared ⊢
      rw [cleared.1.callback index rfl]
      intro frame isFrame
      rw [List.mem_singleton.mp isFrame]
      exact ⟨number, rfl⟩
  · exact absurd rfl isCaller

theorem message_rank (thread : Nat) (isText : Bool) (data : List UInt8) :
    (service.message ioThread thread isText data).rank =
      if (service.caller? ioThread thread).isSome then some service.calls
      else none :=
  rfl

theorem Ordered.fits_call (ordered : service.Ordered) {thread : Nat}
    {isText : Bool} {data : List UInt8} {job : SendingJob}
    (isSent : job.sent? = some (service.message ioThread thread isText data)) :
    Fits { service with calls := service.calls + 1 } thread .service job := by
  have isRank : job.rank =
      if (service.caller? ioThread thread).isSome then some service.calls
      else none := by
    rw [SendingJob.rank, isSent, Option.bind_some, message_rank]
  have callerStack : job.rank ≠ none →
      ∀ frame ∈ service.strands.stack thread,
        ∃ number, frame.strand = .handler number := by
    intro ranked
    apply @caller_stack ioThread service thread (ordered.cleared thread)
    intro noCaller
    rw [isRank, noCaller] at ranked
    exact ranked rfl
  have last : ∀ {rank : Option Nat},
      (∀ number, rank = some number → number < service.calls) →
      Precedes rank job.rank := by
    intro rank numbered low high isLow isHigh
    have small := numbered low isLow
    rw [isRank, Option.ite_none_right_eq_some, Option.some.injEq] at isHigh
    rw [← isHigh.2]
    exact Nat.le_of_lt small
  constructor
  · constructor
    · intro ranked other isBelow number isSession
      obtain ⟨handler, isHandler⟩ := callerStack ranked other isBelow
      rw [isSession] at isHandler
      cases isHandler
    · rintro index rfl
      cases isSent
  · intro isIn
    obtain ⟨frame, isFrame, isService⟩ := isIn_iff.mp isIn
    by_contra ranked
    obtain ⟨handler, isHandler⟩ := callerStack ranked frame isFrame
    rw [isService] at isHandler
    cases isHandler
  · exact fun earlier isOn => last (ordered.numbered _ earlier isOn)
  · exact fun number isSession => nomatch isSession
  · exact fun _ number earlier isOn => last (ordered.numbered _ earlier isOn)
  · intro rank same
    rw [isRank, Option.ite_none_right_eq_some, Option.some.injEq] at same
    rw [← same.2]
    exact Nat.lt_succ_self _
  · exact fun number _ sent isQueued =>
      last ((ordered.queued number).numbered sent isQueued)

theorem Ordered.dispatchSend (ordered : service.Ordered) {thread : Nat}
    {isText : Bool} {data : List UInt8} {job : SendingJob}
    (isSent : job.sent? = some (service.message ioThread thread isText data)) :
    (service.dispatchSend ioThread thread job).Ordered :=
  ordered.counted.dispatch (ordered.fits_call isSent)

/-! ## Moving jobs -/

/-- No rank comes to a strand that was not there before. -/
def Older (before after : Strands StrandId SendingJob) : Prop :=
  ∀ strand found, after.On strand found → found.rank = none ∨
    ∃ was, before.On strand was ∧ was.rank = found.rank

theorem Older.of_on {before after : Strands StrandId SendingJob}
    (isOn : ∀ strand found, after.On strand found → before.On strand found) :
    Older before after :=
  fun strand found on => .inr ⟨found, isOn strand found on, rfl⟩

theorem Ordered.move (ordered : service.Ordered)
    {strands : Strands StrandId SendingJob} (sound : strands.Sound)
    (cleared : ∀ thread, Cleared (strands.stack thread))
    (order : ∀ strand, InOrder SendingJob.rank strands strand)
    (older : Older service.strands strands) :
    Ordered { service with strands := strands } := by
  constructor
  · exact sound
  · exact cleared
  · exact order
  · intro number first second isFirst isSecond
    rcases older _ first isFirst with unranked | ⟨was, wasOn, isRank⟩
    · rw [unranked]
      exact .none_left _
    · rcases older _ second isSecond with unranked | ⟨later, laterOn, same⟩
      · rw [unranked]
        exact .none_right _
      · rw [← isRank, ← same]
        exact ordered.crossing number was later wasOn laterOn
  · intro strand found isOn
    rcases older strand found isOn with unranked | ⟨was, wasOn, isRank⟩
    · rw [unranked]
      exact fun rank isRank => nomatch isRank
    · rw [← isRank]
      exact ordered.numbered strand was wasOn
  · intro number
    obtain ⟨order, numbered, first⟩ := ordered.queued number
    refine ⟨order, numbered, fun sent isQueued found isOn => ?_⟩
    have first := first sent isQueued
    rcases isOn with isOn | isOn
    · rcases older _ found isOn with unranked | ⟨was, wasOn, isRank⟩
      · rw [unranked]
        exact .none_right _
      · rw [← isRank]
        exact first was (.inl wasOn)
    · rcases older _ found isOn with unranked | ⟨was, wasOn, isRank⟩
      · rw [unranked]
        exact .none_right _
      · rw [← isRank]
        exact first was (.inr wasOn)

theorem Ordered.append (ordered : service.Ordered) (strand : StrandId)
    (job : SendingJob) (unranked : job.rank = none) :
    Ordered { service with
      strands := service.strands.append strand job } := by
  apply ordered.move
  · exact ordered.sound
  · exact ordered.cleared
  · intro other
    apply (ordered.order other).append
    intro _ earlier _
    rw [unranked]
    exact .none_right _
  · intro other found isOn
    rcases append_on.mp isOn with wasOn | ⟨-, rfl⟩
    · exact .inr ⟨found, wasOn, rfl⟩
    · exact .inl unranked

theorem Ordered.start (ordered : service.Ordered) {strand : StrandId}
    {strands : Strands StrandId SendingJob}
    (started : service.strands.start? thread strand = some strands) :
    Ordered { service with strands := strands } := by
  apply ordered.move
  · exact ordered.sound.start? started
  · intro other
    obtain ⟨job, stack⟩ := start?_stack started
    rw [stack]
    split
    · exact ⟨⟨fun _ other isBelow => (nomatch isBelow), fun _ _ => rfl⟩,
        trivial⟩
    · exact ordered.cleared other
  · exact fun other => (ordered.order other).start? ordered.sound started
  · exact .of_on fun other found => (start?_on started).mp

theorem Ordered.finish (ordered : service.Ordered) (thread : Nat) :
    Ordered { service with strands := service.strands.finish thread } := by
  apply ordered.move
  · exact ordered.sound.finish thread
  · intro other
    rw [finish_stack]
    split
    · have cleared := ordered.cleared thread
      cases runs : service.strands.stack thread with
      | nil => trivial
      | cons frame below =>
          rw [runs] at cleared
          exact cleared.2
    · exact ordered.cleared other
  · exact fun strand => (ordered.order strand).finish thread
  · refine .of_on fun strand found isOn => ?_
    rcases isOn with active | waits
    · exact .inl (finish_active active)
    · rw [finish_queue] at waits
      exact .inr waits

/-- A job may go on as another of no rank or of the same. -/
structure Continues (job next : SendingJob) : Prop where
  rank : next.rank = none ∨ next.rank = job.rank
  notCallback : ∀ index, next ≠ .callback index

theorem continues_other (job : SendingJob) : Continues job .other :=
  ⟨.inl rfl, nofun⟩

theorem continues_sendIf (point later : LoopPoint) (sent : Sent) :
    Continues (.sendIf point sent) (.sendIf later sent) :=
  ⟨.inr rfl, nofun⟩

theorem Ordered.become (ordered : service.Ordered)
    {frame : Frame StrandId SendingJob}
    {below : List (Frame StrandId SendingJob)} {job : SendingJob}
    (runs : service.strands.stack thread = frame :: below)
    (continues : Continues frame.job job) :
    (service.become thread job).Ordered := by
  obtain ⟨same, notCallback⟩ := continues
  apply ordered.move
  · exact ordered.sound.become runs job
  · intro other
    rw [become_stack runs]
    split
    · have cleared := ordered.cleared thread
      rw [runs] at cleared
      obtain ⟨⟨ranked, -⟩, belowCleared⟩ := cleared
      refine ⟨⟨fun isRanked => ?_, fun index isCallback =>
        absurd isCallback (notCallback index)⟩, belowCleared⟩
      rcases same with unranked | isRank
      · exact absurd unranked isRanked
      · exact ranked (isRank ▸ isRanked)
    · exact ordered.cleared other
  · exact fun strand => (ordered.order strand).become runs same
  · exact fun strand found isOn => become_ranked runs same isOn

/-! ## The jobs of the service -/

theorem rank_eq_of_sent? {job : SendingJob} {sent : Sent}
    (isSent : job.sent? = some sent) : job.rank = sent.rank := by
  rw [SendingJob.rank, isSent, Option.bind_some]

/-- A job of the service calls `send` of a session and goes on. -/
theorem Ordered.sessionSend (ordered : service.Ordered)
    {job next : SendingJob} {sent : Sent}
    {below : List (Frame StrandId SendingJob)}
    (runs : service.strands.stack thread = ⟨.service, job⟩ :: below)
    (isSent : job.sent? = some sent)
    (continues : Continues job next) (number : Nat) (locks : Bool) :
    ((service.become thread next).sessionSend ioThread thread number sent
      locks).Ordered := by
  have isRank : (SendingJob.deliver sent).rank = job.rank :=
    (rank_eq_of_sent? rfl).trans (rank_eq_of_sent? isSent).symm
  have became := ordered.become runs continues
  have isOn : service.strands.On .service job := .inl (active_of_top runs)
  have clear := ordered.cleared thread
  rw [runs] at clear
  have older : Older service.strands (service.strands.become thread next) :=
    fun strand found isOn => become_ranked runs continues.rank isOn
  rw [SendingService.sessionSend]
  split
  · apply became.dispatch
    constructor
    · refine ⟨fun ranked => ?_, nofun⟩
      rw [SendingService.become, become_stack runs, if_pos rfl]
      refine List.forall_mem_cons.mpr ⟨nofun, ?_⟩
      exact clear.1.ranked (isRank ▸ ranked)
    · intro isIn
      by_contra ranked
      obtain ⟨frame, isFrame, isSession⟩ :=
        (become_inside runs next _ _).mp (isIn_iff.mp isIn)
      rw [runs] at isFrame
      rcases List.mem_cons.mp isFrame with rfl | isBelow
      · cases isSession
      · exact clear.1.ranked (isRank ▸ ranked) frame isBelow number isSession
    · intro earlier wasOn
      rcases older _ earlier wasOn with unranked | ⟨was, wasOn, isSame⟩
      · rw [unranked]
        exact .none_left _
      · rw [← isSame, isRank]
        exact ordered.crossing number was job wasOn isOn
    · intro _ _ later wasOn
      rcases older _ later wasOn with unranked | ⟨was, wasOn, isSame⟩
      · rw [unranked]
        exact .none_right _
      · rw [← isSame, isRank]
        exact (ordered.order .service).active job was (active_of_top runs)
          wasOn
    · exact fun isService => nomatch isService
    · rw [isRank]
      exact ordered.numbered .service job isOn
    · intro other _ queued isQueued
      rw [isRank]
      exact (ordered.queued other).first queued isQueued job (.inr isOn)
  · exact became

theorem Ordered.find (ordered : service.Ordered) {identifier : Nat}
    {sent : Sent} {below : List (Frame StrandId SendingJob)}
    (runs : service.strands.stack thread =
      ⟨.service, .send identifier sent⟩ :: below) (locks : Bool) :
    (service.find ioThread thread identifier sent locks).Ordered := by
  rw [SendingService.find]
  split
  · exact ordered.become runs (continues_other _)
  · next number _ =>
      exact ordered.sessionSend runs rfl (continues_other _) number locks

theorem Ordered.begin (ordered : service.Ordered) {sent : Sent}
    {below : List (Frame StrandId SendingJob)}
    (runs : service.strands.stack thread =
      ⟨.service, .sendIf .entered sent⟩ :: below) :
    (service.begin thread sent).Ordered := by
  rw [SendingService.begin]
  split
  · exact ordered.become runs (continues_other _)
  · exact ordered.become runs (continues_sendIf _ _ _)

theorem Ordered.visit (ordered : service.Ordered) {address : Nat}
    {sent : Sent} {below : List (Frame StrandId SendingJob)}
    (runs : service.strands.stack thread =
      ⟨.service, .sendIf (.visiting address) sent⟩ :: below)
    {verdict locks : Bool} {next : SendingService}
    (visited : service.visit ioThread thread address sent verdict locks =
      some next) : next.Ordered := by
  rw [SendingService.visit] at visited
  split at visited
  · cases visited
  · next number _ =>
      split at visited
      · cases visited
        exact ordered.sessionSend runs rfl (continues_sendIf _ _ _) number
          locks
      · cases visited
        exact ordered.become runs (continues_sendIf _ _ _)

theorem Ordered.advance (ordered : service.Ordered) {address : Nat}
    {sent : Sent} {below : List (Frame StrandId SendingJob)}
    (runs : service.strands.stack thread =
      ⟨.service, .sendIf (.left address) sent⟩ :: below)
    {next : SendingService}
    (advanced : service.advance thread address sent = some next) :
    next.Ordered := by
  rw [SendingService.advance] at advanced
  split at advanced
  · cases advanced
  · split at advanced
    · cases advanced
      exact ordered.become runs (continues_other _)
    · cases advanced
      exact ordered.become runs (continues_sendIf _ _ _)

/-! ## Sessions -/

theorem setRecipient_recipients (service : SendingService)
    (number other : Nat) (recipient : Recipient) :
    (service.setRecipient number recipient).recipients other =
      if other = number then recipient else service.recipients other :=
  Function.update_apply _ _ _ _

theorem Ordered.setRecipient (ordered : service.Ordered) {number : Nat}
    {recipient : Recipient}
    (inLine : InLine service.strands service.calls number
      recipient.queued) :
    (service.setRecipient number recipient).Ordered := by
  obtain ⟨sound, cleared, order, crossing, numbered, queued⟩ := ordered
  refine ⟨sound, cleared, order, crossing, numbered, fun other => ?_⟩
  rw [setRecipient_recipients]
  split
  · next same => exact same ▸ inLine
  · exact queued other

/-- The lambda of `send` puts its message at the end of the queue. -/
theorem Ordered.deliver (ordered : service.Ordered) {number : Nat}
    {sent : Sent} {below : List (Frame StrandId SendingJob)}
    (runs : service.strands.stack thread =
      ⟨.session number, .deliver sent⟩ :: below) :
    (service.deliver thread number sent below).Ordered := by
  have active : service.strands.Active (.session number) (.deliver sent) :=
    active_of_top runs
  obtain ⟨order, numbered, first⟩ := ordered.queued number
  have longer : InLine service.strands service.calls number
      ((service.recipients number).queued ++ [sent]) := by
    constructor
    · refine List.pairwise_append.mpr
        ⟨order, List.pairwise_singleton _ _, ?_⟩
      intro earlier isQueued isLast isSent
      rw [List.mem_singleton.mp isSent]
      exact first earlier isQueued (.deliver sent) (.inl (.inl active))
    · intro other isQueued
      rcases List.mem_append.mp isQueued with earlier | isLast
      · exact numbered other earlier
      · rw [List.mem_singleton.mp isLast]
        exact ordered.numbered _ _ (.inl active)
    · intro other isQueued job isOn
      rcases List.mem_append.mp isQueued with earlier | isLast
      · exact first other earlier job isOn
      · rw [List.mem_singleton.mp isLast]
        rcases isOn with isOn | isOn
        · exact (ordered.order _).active (.deliver sent) job active isOn
        · exact ordered.crossing number (.deliver sent) job (.inl active) isOn
  have taken (host : Host) : InLine service.strands service.calls number
      (take (service.recipients number) host sent).queued := by
    rw [take]
    split
    · exact longer
    · rw [List.append_nil]
      exact ordered.queued number
  exact (ordered.setRecipient (taken _)).become runs (continues_other _)

theorem Ordered.step (ordered : service.Ordered) {event : SendingEvent}
    {next : SendingService}
    (stepped : service.step ioThread event = some next) : next.Ordered := by
  cases event with
  | send thread identifier isText data =>
      cases stepped
      exact ordered.dispatchSend rfl
  | sendIf thread isText data =>
      cases stepped
      exact ordered.dispatchSend rfl
  | dispatch thread strand =>
      cases stepped
      exact ordered.dispatch (fits_other service thread strand)
  | defer thread =>
      simp only [SendingService.step] at stepped
      split at stepped
      · next number below runs =>
          cases stepped
          obtain ⟨sound, cleared, order, crossing, numbered, queued⟩ :=
            ordered.append (.handler number) (.callback _) rfl
          exact ⟨sound, cleared, order, crossing, numbered, queued⟩
      · cases stepped
  | start thread strand =>
      rw [SendingService.step, Option.ite_none_right_eq_some,
        Option.map_eq_some_iff] at stepped
      obtain ⟨-, strands, started, rfl⟩ := stepped
      exact ordered.start started
  | find thread locks =>
      simp only [SendingService.step] at stepped
      split at stepped
      · next runs =>
          cases stepped
          exact ordered.find runs locks
      · cases stepped
  | begin thread =>
      simp only [SendingService.step] at stepped
      split at stepped
      · next runs =>
          cases stepped
          exact ordered.begin runs
      · cases stepped
  | visit thread verdict locks =>
      simp only [SendingService.step] at stepped
      split at stepped
      · next runs => exact ordered.visit runs stepped
      · cases stepped
  | advance thread =>
      simp only [SendingService.step] at stepped
      split at stepped
      · next runs => exact ordered.advance runs stepped
      · cases stepped
  | deliver thread =>
      simp only [SendingService.step] at stepped
      split at stepped
      · next runs =>
          cases stepped
          exact ordered.deliver runs
      · cases stepped
  | handle thread session =>
      simp only [SendingService.step] at stepped
      split at stepped
      · next number below runs =>
          rw [Option.ite_none_right_eq_some, Option.some.injEq] at stepped
          obtain ⟨-, rfl⟩ := stepped
          exact ordered.setRecipient (ordered.queued number)
      · cases stepped
  | emplace thread address role =>
      simp only [SendingService.step] at stepped
      split at stepped
      · rw [Option.ite_none_left_eq_some, Option.some.injEq] at stepped
        obtain ⟨-, rfl⟩ := stepped
        apply Ordered.setRecipient
        · obtain ⟨sound, cleared, order, crossing, numbered, queued⟩ := ordered
          exact ⟨sound, cleared, order, crossing, numbered, queued⟩
        · exact ⟨List.Pairwise.nil, nofun, nofun⟩
      · cases stepped
  | erase thread address =>
      simp only [SendingService.step] at stepped
      split at stepped
      · cases stepped
        obtain ⟨sound, cleared, order, crossing, numbered, queued⟩ := ordered
        exact ⟨sound, cleared, order, crossing, numbered, queued⟩
      · cases stepped
  | finish thread =>
      simp only [SendingService.step] at stepped
      split at stepped
      · cases stepped
        exact ordered.finish thread
      · cases stepped
        exact ordered.finish thread
      · cases stepped

theorem reachable_ordered
    (reached : (sendingMachine ioThread).Reachable service) :
    service.Ordered := by
  induction reached with
  | initial isInitial =>
      rw [isInitial]
      exact constructed_ordered
  | step _ _ stepped induction => exact induction.step stepped

/-! ## What the sessions accept -/

/-- The messages queued are those that the session accepted. -/
def Mirrors (recipient : Recipient) : Prop :=
  recipient.queued.map Sent.entry = recipient.session.history.accepted

/-- A program that accepts no message. -/
def SameAccepted (before after : WsSession) : Prop :=
  after.history.accepted = before.history.accepted

instance : IsPreorder WsSession SameAccepted where
  refl _ := rfl
  trans _ _ _ first second := Eq.trans second first

theorem startOp_accepted {op : WsSession → StreamOp}
    {begins : WsSession → WsSession}
    (same : ∀ session, SameAccepted session (begins session)) :
    Keeps SameAccepted (WsSession.startOp op begins) := by
  have locks : Keeps SameAccepted WsSession.makeLock := by
    intro session
    by_cases drained : session.locker.lockCount = 0
    · exact .of_error (WsSession.makeLock_run_drained drained) rfl
    · exact .of_ok (WsSession.makeLock_run (Nat.pos_of_ne_zero drained)) rfl
  exact .bind locks fun _ => .modify same

theorem doWrite_accepted : Keeps SameAccepted WsSession.doWrite := by
  refine .bind .get fun session => ?_
  cases session.closeReason with
  | some reason => exact startOp_accepted fun _ => rfl
  | none =>
      cases session.writeList.front? with
      | none => exact .throw _
      | some entry =>
          have kindSet : Keeps SameAccepted (modify fun session =>
              { session with ws := { session.ws with text := entry.isText } } :
              SessionCode Unit) := .modify fun _ => rfl
          exact .bind kindSet fun _ => startOp_accepted fun _ => rfl

/-- The lambda of `send` accepts its message or nothing. -/
theorem sendJob_accepted (session : WsSession) (sent : Sent) :
    (after (WsSession.sendJob sent.isText sent.data)
        session).history.accepted = session.history.accepted ∨
      (after (WsSession.sendJob sent.isText sent.data)
        session).history.accepted =
          session.history.accepted ++ [sent.entry] := by
  rw [after, WsSession.sendJob_run]
  split_ifs
  · exact .inl rfl
  · exact .inl rfl
  · exact .inr (doWrite_accepted (session.pushed sent.entry))
  · exact .inr rfl
  · exact .inl rfl

theorem runBody_accepted (host : Host) (body : SessionCode Unit)
    (session : WsSession) :
    (WsSession.runBody host body session).history.accepted =
      (after body session).history.accepted :=
  (congrArg (fun core => core.history.accepted)
    (WsSession.runBody_core host body session) :)

theorem Mirrors.take {recipient : Recipient} (mirrors : Mirrors recipient)
    (host : Host) (sent : Sent) : Mirrors (take recipient host sent) := by
  rw [Mirrors, SendingService.take]
  rw [runBody_accepted]
  rcases sendJob_accepted recipient.session sent with same | longer
  · rw [same, if_neg (Nat.lt_irrefl _), List.append_nil]
    exact mirrors
  · have grows : recipient.session.history.accepted.length <
        (recipient.session.history.accepted ++ [sent.entry]).length := by
      rw [List.length_append]
      exact Nat.lt_succ_self _
    rw [longer, if_pos grows, List.map_append, mirrors]
    rfl

theorem setRecipient_mirrors {number : Nat} {recipient : Recipient}
    (mirrors : ∀ number, Mirrors (service.recipients number))
    (also : Mirrors recipient) (other : Nat) :
    Mirrors ((service.setRecipient number recipient).recipients other) := by
  rw [setRecipient_recipients]
  split
  · exact also
  · exact mirrors other

theorem sessionSend_recipients (service : SendingService)
    (thread number : Nat) (sent : Sent) (locks : Bool) :
    (service.sessionSend ioThread thread number sent locks).recipients =
      service.recipients := by
  rw [SendingService.sessionSend]
  split <;> rfl

theorem step_mirrors {event : SendingEvent} {next : SendingService}
    (mirrors : ∀ number, Mirrors (service.recipients number))
    (stepped : service.step ioThread event = some next) :
    ∀ number, Mirrors (next.recipients number) := by
  cases event with
  | send _ _ _ _ | sendIf _ _ _ | dispatch _ _ =>
      cases stepped
      exact mirrors
  | start thread strand =>
      rw [SendingService.step, Option.ite_none_right_eq_some,
        Option.map_eq_some_iff] at stepped
      obtain ⟨-, strands, -, rfl⟩ := stepped
      exact mirrors
  | defer _ | erase _ _ =>
      simp only [SendingService.step] at stepped
      split at stepped
      · cases stepped
        exact mirrors
      · cases stepped
  | find thread locks =>
      simp only [SendingService.step] at stepped
      split at stepped
      · cases stepped
        rw [SendingService.find]
        split
        · exact mirrors
        · rw [sessionSend_recipients]
          exact mirrors
      · cases stepped
  | begin thread =>
      simp only [SendingService.step] at stepped
      split at stepped
      · cases stepped
        rw [SendingService.begin]
        split <;> exact mirrors
      · cases stepped
  | visit thread verdict locks =>
      simp only [SendingService.step, SendingService.visit] at stepped
      split at stepped
      · split at stepped
        · cases stepped
        · split at stepped
          · cases stepped
            rw [sessionSend_recipients]
            exact mirrors
          · cases stepped
            exact mirrors
      · cases stepped
  | advance thread =>
      simp only [SendingService.step, SendingService.advance] at stepped
      split at stepped
      · split at stepped
        · cases stepped
        · split at stepped
          · cases stepped
            exact mirrors
          · cases stepped
            exact mirrors
      · cases stepped
  | deliver thread =>
      simp only [SendingService.step] at stepped
      split at stepped
      · next number sent below _ =>
          cases stepped
          have taken (host : Host) : Mirrors
              (take (service.recipients number) host sent) :=
            (mirrors number).take host sent
          exact setRecipient_mirrors mirrors (taken _)
      · cases stepped
  | handle thread session =>
      simp only [SendingService.step] at stepped
      split at stepped
      · next number _ _ =>
          rw [Option.ite_none_right_eq_some, Option.some.injEq] at stepped
          obtain ⟨same, rfl⟩ := stepped
          have also : Mirrors
              { service.recipients number with session := session } :=
            (mirrors number).trans same.symm
          exact setRecipient_mirrors mirrors also
      · cases stepped
  | emplace thread address role =>
      simp only [SendingService.step] at stepped
      split at stepped
      · rw [Option.ite_none_left_eq_some, Option.some.injEq] at stepped
        obtain ⟨-, rfl⟩ := stepped
        have also : Mirrors ⟨.constructed role, []⟩ := rfl
        exact setRecipient_mirrors mirrors also
      · cases stepped
  | finish thread =>
      simp only [SendingService.step] at stepped
      split at stepped
      · cases stepped
        exact mirrors
      · cases stepped
        exact mirrors
      · cases stepped

theorem reachable_mirrors
    (reached : (sendingMachine ioThread).Reachable service) (number : Nat) :
    Mirrors (service.recipients number) := by
  induction reached generalizing number with
  | initial isInitial =>
      rw [isInitial]
      rfl
  | step _ _ stepped induction => exact step_mirrors induction stepped number

/-- Of two messages of one caller that a session accepts, the one whose call
came first is queued first. -/
theorem sends_ordered (reached : (sendingMachine ioThread).Reachable service)
    {number first second : Nat} {earlier later : Sent}
    (isCaller : earlier.caller ≠ none) (same : later.caller = earlier.caller)
    (issued : earlier.number < later.number)
    (firstQueued : (service.recipients number).queued[first]? = some earlier)
    (secondQueued : (service.recipients number).queued[second]? = some later) :
    (service.recipients number).session.history.accepted =
        (service.recipients number).queued.map Sent.entry ∧
      first < second := by
  refine ⟨(reachable_mirrors reached number).symm, ?_⟩
  have ordered := (reachable_ordered reached).queued number
  by_contra notBefore
  have isSome := Option.isSome_iff_ne_none.mpr isCaller
  have ranks : earlier.rank = some earlier.number ∧
      later.rank = some later.number := by
    rw [Sent.rank, if_pos isSome, Sent.rank, same, if_pos isSome]
    exact ⟨rfl, rfl⟩
  rcases Nat.lt_or_eq_of_le (Nat.le_of_not_lt notBefore) with before | rfl
  · obtain ⟨firstIn, isFirst⟩ := List.getElem?_eq_some_iff.mp firstQueued
    obtain ⟨secondIn, isSecond⟩ := List.getElem?_eq_some_iff.mp secondQueued
    have precedes := List.pairwise_iff_getElem.mp ordered.order second first
      secondIn firstIn before
    rw [isFirst, isSecond] at precedes
    exact Nat.not_le_of_lt issued (precedes _ _ ranks.2 ranks.1)
  · rw [firstQueued] at secondQueued
    cases secondQueued
    exact Nat.lt_irrefl _ issued

/-- Thread 1 does not run the io context.  Its first message waits on the
strand of the session while its second one waits on that of the service. -/
def twoSends : List SendingEvent :=
  [.dispatch 0 .service, .emplace 0 8 .client, .finish 0,
    .dispatch 2 (.session 0), .handle 2 (.started .client),
    .send 1 8 true [1], .sendIf 1 false [2],
    .start 0 .service, .find 0 true, .finish 0, .finish 2,
    .start 0 .service, .begin 0, .visit 0 true true,
    .start 2 (.session 0), .deliver 2, .finish 2,
    .advance 0, .finish 0, .start 2 (.session 0), .deliver 2, .finish 2]

theorem sends_ordered_two :
    ∃ service, (sendingMachine fun thread => thread ≠ 1).run constructed
        twoSends = some service ∧
      (service.recipients 0).queued =
        [⟨0, some (.foreign 1), true, [1]⟩,
          ⟨1, some (.foreign 1), false, [2]⟩] ∧
      (service.recipients 0).session.history.accepted =
        (service.recipients 0).queued.map Sent.entry ∧ 0 < 1 := by
  obtain ⟨service, ran, queued⟩ : ∃ service,
      (sendingMachine fun thread => thread ≠ 1).run constructed twoSends =
        some service ∧ (service.recipients 0).queued =
          [⟨0, some (.foreign 1), true, [1]⟩,
            ⟨1, some (.foreign 1), false, [2]⟩] := ⟨_, rfl, rfl⟩
  have first : (service.recipients 0).queued[0]? =
      some ⟨0, some (.foreign 1), true, [1]⟩ := by
    rw [queued]
    rfl
  have second : (service.recipients 0).queued[1]? =
      some ⟨1, some (.foreign 1), false, [2]⟩ := by
    rw [queued]
    rfl
  refine ⟨service, ran, queued, ?_⟩
  exact sends_ordered (Machine.reachable_of_run rfl ran)
    (Option.some_ne_none _) (by rfl) Nat.zero_lt_one first second

end SendingService

end Webservice
