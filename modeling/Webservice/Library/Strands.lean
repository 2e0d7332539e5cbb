import Mathlib.Data.List.Basic
import Mathlib.Logic.Function.Basic

/-!
# Strands and the threads that run their jobs

A strand runs its jobs one after the other, in the order of its queue.  A
dispatch runs the job inside the call when the thread is in the strand
already, or when the strand is idle and the thread may run jobs; it appends
the job to the queue otherwise.  A queued job starts on an empty stack.

When jobs are ranked, a strand whose ranked jobs come in the order of their
ranks stays so, as long as no ranked job is dispatched from inside it.
-/

/-- A job that a thread runs on a strand. -/
structure Frame (Strand : Type u) (Job : Type v) where
  strand : Strand
  job : Job

structure Strands (Strand : Type u) (Job : Type v) where
  /-- Jobs that have not started, oldest first. -/
  queue : Strand → List Job
  /-- The thread that is in the strand. -/
  holder : Strand → Option Nat
  /-- What each thread runs, the innermost job first. -/
  stack : Nat → List (Frame Strand Job)

namespace Strands

variable {Strand : Type u} {Job : Type v}

def fresh : Strands Strand Job := ⟨fun _ => [], fun _ => none, fun _ => []⟩

variable [DecidableEq Strand] {strands : Strands Strand Job}

def isIn (strands : Strands Strand Job) (thread : Nat) (strand : Strand) :
    Bool :=
  (strands.stack thread).any fun frame => frame.strand = strand

def isIdle (strands : Strands Strand Job) (strand : Strand) : Bool :=
  (strands.holder strand).isNone && (strands.queue strand).isEmpty

def setQueue (strands : Strands Strand Job) (strand : Strand)
    (jobs : List Job) : Strands Strand Job :=
  { strands with queue := Function.update strands.queue strand jobs }

def setStack (strands : Strands Strand Job) (thread : Nat)
    (frames : List (Frame Strand Job)) : Strands Strand Job :=
  { strands with stack := Function.update strands.stack thread frames }

def setHolder (strands : Strands Strand Job) (strand : Strand)
    (holder : Option Nat) : Strands Strand Job :=
  { strands with holder := Function.update strands.holder strand holder }

/-- The thread runs a job on top of what it runs. -/
def run (strands : Strands Strand Job) (thread : Nat) (strand : Strand)
    (job : Job) : Strands Strand Job :=
  (strands.setStack thread (⟨strand, job⟩ :: strands.stack thread)).setHolder
    strand (some thread)

/-- `defer` and `post` -/
def append (strands : Strands Strand Job) (strand : Strand) (job : Job) :
    Strands Strand Job :=
  strands.setQueue strand (strands.queue strand ++ [job])

/-- `runs` tells whether the thread may run the jobs of an idle strand. -/
def dispatch (runs : Bool) (strands : Strands Strand Job) (thread : Nat)
    (strand : Strand) (job : Job) : Strands Strand Job :=
  if strands.isIn thread strand ∨ (runs ∧ strands.isIdle strand) then
    strands.run thread strand job
  else strands.append strand job

/-- A thread that runs nothing starts the first job of a strand that nobody
is in. -/
def start? (strands : Strands Strand Job) (thread : Nat) (strand : Strand) :
    Option (Strands Strand Job) :=
  match strands.stack thread, strands.holder strand,
    strands.queue strand with
  | [], none, job :: jobs =>
      some ((strands.setQueue strand jobs).run thread strand job)
  | _, _, _ => none

/-- The innermost job of the thread goes on as another. -/
def become (strands : Strands Strand Job) (thread : Nat) (job : Job) :
    Strands Strand Job :=
  match strands.stack thread with
  | [] => strands
  | frame :: below => strands.setStack thread (⟨frame.strand, job⟩ :: below)

/-- The innermost job of the thread ends. -/
def finish (strands : Strands Strand Job) (thread : Nat) :
    Strands Strand Job :=
  match strands.stack thread with
  | [] => strands
  | frame :: below =>
      if below.any fun other => other.strand = frame.strand then
        strands.setStack thread below
      else (strands.setStack thread below).setHolder frame.strand none

omit [DecidableEq Strand] in
theorem setStack_stack (strands : Strands Strand Job) (thread other : Nat)
    (frames : List (Frame Strand Job)) :
    (strands.setStack thread frames).stack other =
      if other = thread then frames else strands.stack other :=
  Function.update_apply _ _ _ _

theorem run_stack (strands : Strands Strand Job) (thread other : Nat)
    (strand : Strand) (job : Job) :
    (strands.run thread strand job).stack other =
      if other = thread then ⟨strand, job⟩ :: strands.stack thread
      else strands.stack other :=
  Function.update_apply _ _ _ _

theorem append_queue (strands : Strands Strand Job) (strand other : Strand)
    (job : Job) :
    (strands.append strand job).queue other =
      if other = strand then strands.queue strand ++ [job]
      else strands.queue other :=
  Function.update_apply _ _ _ _

theorem setQueue_queue (strands : Strands Strand Job) (strand other : Strand)
    (jobs : List Job) :
    (strands.setQueue strand jobs).queue other =
      if other = strand then jobs else strands.queue other :=
  Function.update_apply _ _ _ _

theorem setHolder_holder (strands : Strands Strand Job)
    (strand other : Strand) (holder : Option Nat) :
    (strands.setHolder strand holder).holder other =
      if other = strand then holder else strands.holder other :=
  Function.update_apply _ _ _ _

/-- What a thread has left to run when its innermost job ends. -/
theorem finish_stack (strands : Strands Strand Job) (thread other : Nat) :
    (strands.finish thread).stack other =
      if other = thread then (strands.stack thread).tail
      else strands.stack other := by
  rw [finish]
  split
  · next runs =>
      split
      · next same => rw [same, runs, List.tail_nil]
      · rfl
  · next frame below runs =>
      rw [runs, List.tail_cons]
      split <;> exact setStack_stack _ _ _ _

theorem finish_queue (strands : Strands Strand Job) (thread : Nat) :
    (strands.finish thread).queue = strands.queue := by
  rw [finish]
  split
  · rfl
  · split <;> rfl

omit [DecidableEq Strand] in
theorem become_stack {thread : Nat} {frame : Frame Strand Job}
    {below : List (Frame Strand Job)}
    (runs : strands.stack thread = frame :: below) (job : Job) (other : Nat) :
    (strands.become thread job).stack other =
      if other = thread then ⟨frame.strand, job⟩ :: below
      else strands.stack other := by
  rw [become, runs]
  exact setStack_stack _ _ _ _

omit [DecidableEq Strand] in
theorem become_queue (strands : Strands Strand Job) (thread : Nat)
    (job : Job) : (strands.become thread job).queue = strands.queue := by
  rw [become]
  split <;> rfl

theorem start?_stack {thread : Nat} {strand : Strand}
    {next : Strands Strand Job}
    (started : strands.start? thread strand = some next) :
    ∃ job, ∀ other, next.stack other =
      if other = thread then [⟨strand, job⟩] else strands.stack other := by
  rw [start?] at started
  split at started
  · next job jobs empty _ _ =>
      cases started
      refine ⟨job, fun other => (run_stack _ _ _ _ _).trans ?_⟩
      rw [← empty]
      rfl
  · cases started

/-! ## Which jobs are where -/

/-- Some thread runs the job on the strand. -/
def Active (strands : Strands Strand Job) (strand : Strand) (job : Job) :
    Prop :=
  ∃ thread, ⟨strand, job⟩ ∈ strands.stack thread

/-- The job runs on the strand or waits for it. -/
def On (strands : Strands Strand Job) (strand : Strand) (job : Job) : Prop :=
  strands.Active strand job ∨ job ∈ strands.queue strand

omit [DecidableEq Strand] in
theorem fresh_on {strand : Strand} {job : Job} :
    ¬(fresh : Strands Strand Job).On strand job := by
  rintro (⟨thread, active⟩ | waiting)
  · cases active
  · cases waiting

omit [DecidableEq Strand] in
theorem active_of_top {thread : Nat} {frame : Frame Strand Job}
    {below : List (Frame Strand Job)}
    (runs : strands.stack thread = frame :: below) :
    strands.Active frame.strand frame.job :=
  ⟨thread, runs ▸ List.mem_cons_self⟩

theorem isIn_iff {thread : Nat} {strand : Strand} :
    strands.isIn thread strand = true ↔
      ∃ frame ∈ strands.stack thread, frame.strand = strand := by
  simp only [isIn, List.any_eq_true, decide_eq_true_eq]

theorem run_active {thread : Nat} {strand other : Strand} {job found : Job} :
    (strands.run thread strand job).Active other found ↔
      strands.Active other found ∨ other = strand ∧ found = job := by
  constructor
  · rintro ⟨runner, runs⟩
    rw [run_stack] at runs
    split at runs
    · next same =>
        rcases List.mem_cons.mp runs with isNew | older
        · cases isNew
          exact .inr ⟨rfl, rfl⟩
        · exact .inl ⟨thread, older⟩
    · exact .inl ⟨runner, runs⟩
  · rintro (⟨runner, runs⟩ | ⟨rfl, rfl⟩)
    · refine ⟨runner, ?_⟩
      rw [run_stack]
      split
      · next same => exact List.mem_cons_of_mem _ (same ▸ runs)
      · exact runs
    · refine ⟨thread, ?_⟩
      rw [run_stack, if_pos rfl]
      exact List.mem_cons_self

theorem run_on {thread : Nat} {strand other : Strand} {job found : Job} :
    (strands.run thread strand job).On other found ↔
      strands.On other found ∨ other = strand ∧ found = job := by
  rw [On, run_active, On, or_right_comm]
  rfl

theorem append_on {strand other : Strand} {job found : Job} :
    (strands.append strand job).On other found ↔
      strands.On other found ∨ other = strand ∧ found = job := by
  have waiting : found ∈ (strands.append strand job).queue other ↔
      found ∈ strands.queue other ∨ other = strand ∧ found = job := by
    rw [append_queue]
    split
    · next same =>
        rw [List.mem_append, List.mem_singleton, same, and_iff_right rfl]
    · next different => rw [or_iff_left fun isNew => different isNew.1]
  rw [On, waiting, ← or_assoc]
  rfl

theorem dispatch_on {runs : Bool} {thread : Nat} {strand other : Strand}
    {job found : Job} :
    (dispatch runs strands thread strand job).On other found ↔
      strands.On other found ∨ other = strand ∧ found = job := by
  rw [dispatch]
  split
  · exact run_on
  · exact append_on

theorem start?_on {thread : Nat} {strand other : Strand} {found : Job}
    {next : Strands Strand Job}
    (started : strands.start? thread strand = some next) :
    next.On other found ↔ strands.On other found := by
  rw [start?] at started
  split at started
  · next job jobs _ _ waiting =>
      cases started
      rw [run_on, On, On, or_assoc]
      apply or_congr Iff.rfl
      rw [setQueue_queue]
      split
      · next same =>
          rw [same, waiting, List.mem_cons, and_iff_right rfl, or_comm]
      · next different => rw [or_iff_left fun isNew => different isNew.1]
  · cases started

omit [DecidableEq Strand] in
theorem become_active {thread : Nat} {frame : Frame Strand Job}
    {below : List (Frame Strand Job)}
    (runs : strands.stack thread = frame :: below) {strand : Strand}
    {job found : Job}
    (active : (strands.become thread job).Active strand found) :
    strands.Active strand found ∨ strand = frame.strand ∧ found = job := by
  obtain ⟨runner, active⟩ := active
  rw [become_stack runs] at active
  split at active
  · rcases List.mem_cons.mp active with isNew | older
    · cases isNew
      exact .inr ⟨rfl, rfl⟩
    · exact .inl ⟨thread, runs ▸ List.mem_cons_of_mem _ older⟩
  · exact .inl ⟨runner, active⟩

theorem finish_active {thread : Nat} {strand : Strand} {found : Job}
    (active : (strands.finish thread).Active strand found) :
    strands.Active strand found := by
  obtain ⟨runner, active⟩ := active
  rw [finish_stack] at active
  split at active
  · exact ⟨thread, List.mem_of_mem_tail active⟩
  · exact ⟨runner, active⟩

/-! ## Who is in a strand -/

/-- The holder of a strand is the one thread that is in it. -/
def Sound (strands : Strands Strand Job) : Prop :=
  ∀ strand thread, strands.holder strand = some thread ↔
    ∃ frame ∈ strands.stack thread, frame.strand = strand

omit [DecidableEq Strand] in
theorem Sound.not_active (sound : strands.Sound) {strand : Strand}
    (free : strands.holder strand = none) (job : Job) :
    ¬strands.Active strand job := by
  rintro ⟨thread, runs⟩
  have holds := (sound strand thread).mpr ⟨_, runs, rfl⟩
  rw [free] at holds
  cases holds

omit [DecidableEq Strand] in
theorem fresh_sound : (fresh : Strands Strand Job).Sound := by
  intro strand thread
  constructor
  · intro holds
    cases holds
  · rintro ⟨frame, runs, -⟩
    cases runs

theorem Sound.setQueue (sound : strands.Sound) (strand : Strand)
    (jobs : List Job) : (strands.setQueue strand jobs).Sound :=
  sound

theorem Sound.run (sound : strands.Sound) {thread : Nat} {strand : Strand}
    (mayRun : strands.isIn thread strand = true ∨
      strands.holder strand = none) (job : Job) :
    (strands.run thread strand job).Sound := by
  intro other runner
  rw [run_stack, Strands.run, setHolder_holder]
  by_cases same : other = strand
  · subst same
    rw [if_pos rfl, Option.some.injEq]
    constructor
    · rintro rfl
      exact ⟨_, by rw [if_pos rfl]; exact List.mem_cons_self, rfl⟩
    · intro isIn
      by_contra different
      rw [if_neg (Ne.symm different)] at isIn
      have holds := (sound other runner).mpr isIn
      rcases mayRun with nested | free
      · have alsoHolds := (sound other thread).mpr (isIn_iff.mp nested)
        rw [holds] at alsoHolds
        exact different (Option.some.inj alsoHolds).symm
      · rw [free] at holds
        cases holds
  · rw [if_neg same]
    refine (sound other runner).trans ?_
    split
    · next isRunner =>
        subst isRunner
        simp only [List.exists_mem_cons_iff, Ne.symm same, false_or]
    · rfl

theorem Sound.dispatch (sound : strands.Sound) (runs : Bool) (thread : Nat)
    (strand : Strand) (job : Job) :
    (dispatch runs strands thread strand job).Sound := by
  rw [Strands.dispatch]
  split
  · next inside =>
      apply sound.run
      refine inside.imp_right fun idle => ?_
      have free := (Bool.and_eq_true_iff.mp idle.2).1
      rwa [Option.isNone_iff_eq_none] at free
  · exact sound

theorem Sound.start? (sound : strands.Sound) {thread : Nat} {strand : Strand}
    {next : Strands Strand Job}
    (started : strands.start? thread strand = some next) : next.Sound := by
  rw [Strands.start?] at started
  split at started
  · next job jobs _ free _ =>
      cases started
      exact (sound.setQueue strand jobs).run (.inr free) job
  · cases started

omit [DecidableEq Strand] in
theorem become_inside {thread : Nat} {frame : Frame Strand Job}
    {below : List (Frame Strand Job)}
    (runs : strands.stack thread = frame :: below) (job : Job)
    (strand : Strand) (runner : Nat) :
    (∃ frame ∈ (strands.become thread job).stack runner,
        frame.strand = strand) ↔
      ∃ frame ∈ strands.stack runner, frame.strand = strand := by
  rw [become_stack runs]
  split
  · next same =>
      rw [same, runs]
      simp only [List.exists_mem_cons_iff]
  · rfl

omit [DecidableEq Strand] in
theorem Sound.become (sound : strands.Sound) {thread : Nat}
    {frame : Frame Strand Job} {below : List (Frame Strand Job)}
    (runs : strands.stack thread = frame :: below) (job : Job) :
    (strands.become thread job).Sound := by
  intro strand runner
  rw [become_inside runs]
  rw [Strands.become, runs]
  exact sound strand runner

theorem Sound.finish (sound : strands.Sound) (thread : Nat) :
    (strands.finish thread).Sound := by
  intro strand runner
  rw [finish_stack, Strands.finish]
  split
  · next runs =>
      rw [runs, List.tail_nil]
      split
      · next same =>
          rw [← runs, ← same]
          exact sound strand runner
      · exact sound strand runner
  · next frame below runs =>
      rw [runs, List.tail_cons]
      have before := sound strand runner
      by_cases same : runner = thread
      · subst same
        rw [runs, List.exists_mem_cons_iff] at before
        rw [if_pos rfl]
        split
        · next stillIn =>
            rw [List.any_eq_true] at stillIn
            obtain ⟨other, isBelow, isStrand⟩ := stillIn
            refine before.trans ⟨?_, .inr⟩
            rintro (rfl | isIn)
            · exact ⟨other, isBelow, of_decide_eq_true isStrand⟩
            · exact isIn
        · next left =>
            rw [setHolder_holder]
            split
            · next same =>
                subst same
                refine ⟨nofun, ?_⟩
                rintro ⟨other, isBelow, isStrand⟩
                refine absurd (List.any_eq_true.mpr ?_) left
                exact ⟨other, isBelow, decide_eq_true isStrand⟩
            · next different =>
                exact before.trans (or_iff_right (Ne.symm different))
      · rw [if_neg same]
        split
        · exact before
        · rw [setHolder_holder]
          split
          · next isStrand =>
              subst isStrand
              refine ⟨nofun, fun isIn => ?_⟩
              have holds := (sound frame.strand thread).mpr
                ⟨frame, runs ▸ List.mem_cons_self, rfl⟩
              rw [before.mpr isIn] at holds
              exact absurd (Option.some.inj holds) same
          · exact before

/-! ## Order -/

/-- Of two jobs with a rank, the first has no larger one. -/
def Precedes (first second : Option Nat) : Prop :=
  ∀ low high, first = some low → second = some high → low ≤ high

omit [DecidableEq Strand] in
theorem Precedes.refl (rank : Option Nat) : Precedes rank rank := by
  intro low high isLow isHigh
  rw [isLow] at isHigh
  exact Nat.le_of_eq (Option.some.inj isHigh)

theorem Precedes.none_left (rank : Option Nat) : Precedes none rank :=
  nofun

theorem Precedes.none_right (rank : Option Nat) : Precedes rank none :=
  fun _ _ _ isHigh => nomatch isHigh

/-- The ranked jobs that a strand runs and those that wait for it come in
the order of their ranks. -/
structure InOrder (rank : Job → Option Nat) (strands : Strands Strand Job)
    (strand : Strand) : Prop where
  waiting : (strands.queue strand).Pairwise fun first second =>
    Precedes (rank first) (rank second)
  active : ∀ first second, strands.Active strand first →
    strands.On strand second → Precedes (rank first) (rank second)

section

variable {rank : Job → Option Nat} {strand : Strand}

omit [DecidableEq Strand] in
theorem fresh_inOrder : InOrder rank (fresh : Strands Strand Job) strand :=
  ⟨List.Pairwise.nil, fun _ _ active _ => absurd (.inl active) fresh_on⟩

theorem InOrder.append {other : Strand} {job : Job}
    (order : InOrder rank strands other)
    (last : other = strand → ∀ earlier, strands.On strand earlier →
      Precedes (rank earlier) (rank job)) :
    InOrder rank (strands.append strand job) other := by
  constructor
  · rw [append_queue]
    split
    · next same =>
        subst same
        refine List.pairwise_append.mpr
          ⟨order.waiting, List.pairwise_singleton _ _, ?_⟩
        intro earlier waits isLast isJob
        rw [List.mem_singleton.mp isJob]
        exact last rfl earlier (.inr waits)
    · exact order.waiting
  · intro first second active isOn
    rcases append_on.mp isOn with wasOn | ⟨rfl, rfl⟩
    · exact order.active first second active wasOn
    · exact last rfl first (.inl active)

theorem InOrder.run {thread : Nat} {other : Strand} {job : Job}
    (order : InOrder rank strands other)
    (first : other = strand → ∀ found, strands.On strand found →
      Precedes (rank job) (rank found) ∧ Precedes (rank found) (rank job)) :
    InOrder rank (strands.run thread strand job) other := by
  refine ⟨order.waiting, fun earlier later active isOn => ?_⟩
  rcases run_active.mp active with wasActive | ⟨rfl, rfl⟩
  · rcases run_on.mp isOn with wasOn | ⟨rfl, rfl⟩
    · exact order.active earlier later wasActive wasOn
    · exact (first rfl earlier (.inl wasActive)).2
  · rcases run_on.mp isOn with wasOn | ⟨-, rfl⟩
    · exact (first rfl later wasOn).1
    · exact .refl _

/-- A job that does not overtake a strand from inside keeps its order. -/
theorem InOrder.dispatch {runs : Bool} {thread : Nat} {other : Strand}
    {job : Job} (sound : strands.Sound)
    (order : InOrder rank strands other)
    (last : other = strand → ∀ earlier, strands.On strand earlier →
      Precedes (rank earlier) (rank job))
    (outside : strands.isIn thread strand = true → rank job = none) :
    InOrder rank (dispatch runs strands thread strand job) other := by
  rw [Strands.dispatch]
  split
  · next inside =>
      apply order.run
      intro same found isOn
      rcases inside with nested | ⟨-, idle⟩
      · rw [outside nested]
        exact ⟨.none_left _, .none_right _⟩
      · obtain ⟨free, empty⟩ := Bool.and_eq_true_iff.mp idle
        rw [Option.isNone_iff_eq_none] at free
        rw [List.isEmpty_iff] at empty
        rcases isOn with active | waits
        · exact absurd active (sound.not_active free found)
        · rw [empty] at waits
          cases waits
  · exact order.append last

theorem InOrder.start? {thread : Nat} {other : Strand}
    {next : Strands Strand Job} (sound : strands.Sound)
    (order : InOrder rank strands other)
    (started : strands.start? thread strand = some next) :
    InOrder rank next other := by
  rw [Strands.start?] at started
  split at started
  · next job jobs _ free waiting =>
      cases started
      by_cases same : other = strand
      · subst same
        have sorted := order.waiting
        rw [waiting, List.pairwise_cons] at sorted
        have none_active := sound.not_active free
        constructor
        · change ((strands.setQueue other jobs).queue other).Pairwise _
          rw [setQueue_queue, if_pos rfl]
          exact sorted.2
        · intro first second active isOn
          rcases run_active.mp active with wasActive | ⟨-, rfl⟩
          · exact absurd wasActive (none_active first)
          · rcases run_on.mp isOn with (wasActive | waits) | ⟨-, rfl⟩
            · exact absurd wasActive (none_active second)
            · rw [setQueue_queue, if_pos rfl] at waits
              exact sorted.1 second waits
            · exact .refl _
      · apply InOrder.run
        · constructor
          · rw [setQueue_queue, if_neg same]
            exact order.waiting
          · intro first second active isOn
            apply order.active first second active
            rcases isOn with isActive | waits
            · exact .inl isActive
            · rw [setQueue_queue, if_neg same] at waits
              exact .inr waits
        · exact fun isStrand => absurd isStrand same
  · cases started

omit [DecidableEq Strand] in
/-- A job that goes on as one of no rank or of the same rank brings no new
rank to the strands. -/
theorem become_ranked {thread : Nat} {frame : Frame Strand Job}
    {below : List (Frame Strand Job)} {job found : Job}
    (runs : strands.stack thread = frame :: below)
    (same : rank job = none ∨ rank job = rank frame.job)
    (isOn : (strands.become thread job).On strand found) :
    rank found = none ∨
      ∃ was, strands.On strand was ∧ rank was = rank found := by
  rcases isOn with active | waits
  · rcases become_active runs active with wasActive | ⟨rfl, rfl⟩
    · exact .inr ⟨found, .inl wasActive, rfl⟩
    · exact same.imp_right fun isRank =>
        ⟨frame.job, .inl (active_of_top runs), isRank.symm⟩
  · rw [become_queue] at waits
    exact .inr ⟨found, .inr waits, rfl⟩

omit [DecidableEq Strand] in
/-- The innermost job of a thread goes on as one of no rank or of the same
rank. -/
theorem InOrder.become {thread : Nat} {frame : Frame Strand Job}
    {below : List (Frame Strand Job)} {job : Job}
    (order : InOrder rank strands strand)
    (runs : strands.stack thread = frame :: below)
    (same : rank job = none ∨ rank job = rank frame.job) :
    InOrder rank (strands.become thread job) strand := by
  have queue := congrFun (become_queue strands thread job) strand
  have older : ∀ {found}, (strands.become thread job).Active strand found →
      rank found = none ∨
        ∃ was, strands.Active strand was ∧ rank found = rank was := by
    intro found active
    rcases become_active runs active with wasActive | ⟨rfl, rfl⟩
    · exact .inr ⟨found, wasActive, rfl⟩
    · exact same.imp_right fun isRank =>
        ⟨frame.job, active_of_top runs, isRank⟩
  constructor
  · rw [queue]
    exact order.waiting
  · intro first second active isOn
    rcases older active with unranked | ⟨was, wasActive, isRank⟩
    · rw [unranked]
      exact .none_left _
    · rw [isRank]
      rcases isOn with active | waits
      · rcases older active with unranked | ⟨other, otherActive, isRank⟩
        · rw [unranked]
          exact .none_right _
        · rw [isRank]
          exact order.active was other wasActive (.inl otherActive)
      · rw [queue] at waits
        exact order.active was second wasActive (.inr waits)

theorem InOrder.finish (order : InOrder rank strands strand) (thread : Nat) :
    InOrder rank (strands.finish thread) strand := by
  have queue := congrFun (finish_queue strands thread) strand
  constructor
  · rw [queue]
    exact order.waiting
  · intro first second active isOn
    apply order.active first second (finish_active active)
    rcases isOn with isActive | waits
    · exact .inl (finish_active isActive)
    · rw [queue] at waits
      exact .inr waits

end

end Strands
