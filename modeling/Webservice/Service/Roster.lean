import Webservice.Service.Simulation

/-!
# The sessions of a service and their numbers

Which sessions are in the map, which were created and which were erased.
Every session in the map has run as a session does on its own, so what is
proved of sessions holds in a service; and no number is given twice.
-/

namespace Webservice

/-- The part of a registry that tells which sessions there are and were. -/
structure Roster where
  residents : Nat → Option Resident
  created : List WsIdentifier
  removals : List Removal

namespace Roster

inductive Step (roster : Roster) : Roster → Prop where
  | same : Step roster roster
  | moved {address : Nat} {event : SessionEvent} {resident : Resident}
      {next : WsSession} :
      roster.residents address = some resident →
      resident.session.step event = some next → event ≠ .erase →
      Step roster { roster with
        residents := Function.update roster.residents address
          (some ⟨resident.number, next⟩) }
  | erased {identifier : WsIdentifier} {resident : Resident} :
      roster.residents identifier.session = some resident →
      Step roster { roster with
        residents :=
          Function.update roster.residents identifier.session none
        removals := roster.removals ++ [⟨identifier,
          ⟨identifier.session, resident.number⟩,
          resident.session.locker.callbacks, resident.session.holders⟩] }
  | emplaced {address : Nat} {role : Role} :
      roster.residents address = none →
      Step roster { roster with
        residents := Function.update roster.residents address
          (some ⟨roster.created.length, .launched role⟩)
        created := roster.created ++ [⟨address, roster.created.length⟩] }

theorem Step.of_eq {before after : Roster} (same : after = before) :
    before.Step after :=
  same ▸ .same

/-- A session in the map has run on its own, and its number tells it from
all other sessions, the erased ones included. -/
structure Sound (roster : Roster) : Prop where
  reached : ∀ {address : Nat} {resident : Resident},
    roster.residents address = some resident →
    sessionMachine.Reachable resident.session
  alive : ∀ {address : Nat} {resident : Resident},
    roster.residents address = some resident →
    resident.session.erased = false
  created : ∀ {address : Nat} {resident : Resident},
    roster.residents address = some resident →
    roster.created[resident.number]? = some ⟨address, resident.number⟩
  owners : ∀ {number : Nat} {identifier : WsIdentifier},
    roster.created[number]? = some identifier → identifier.owner = number
  /-- No session at the address is older than the one that is there now. -/
  latest : ∀ {identifier : WsIdentifier} {resident : Resident},
    identifier ∈ roster.created →
    roster.residents identifier.session = some resident →
    identifier.owner ≤ resident.number
  removed : ∀ {removal : Removal}, removal ∈ roster.removals →
    removal.session ∈ roster.created
  gone : ∀ {removal : Removal} {resident : Resident},
    removal ∈ roster.removals →
    roster.residents removal.session.session = some resident →
    removal.session.owner ≠ resident.number
  once : (roster.removals.map Removal.session).Nodup

variable {roster : Roster}

theorem update_eq_some {residents : Nat → Option Resident}
    {address other : Nat} {value : Option Resident} {resident : Resident} :
    Function.update residents address value other = some resident ↔
      (other = address ∧ value = some resident) ∨
        (other ≠ address ∧ residents other = some resident) := by
  rw [Function.update_apply]
  by_cases same : other = address <;> simp [same]

/-- Sessions are created with numbers counted up. -/
theorem Sound.owner_lt {identifier : WsIdentifier} (sound : roster.Sound)
    (isCreated : identifier ∈ roster.created) :
    identifier.owner < roster.created.length := by
  obtain ⟨number, small, isThere⟩ := List.getElem_of_mem isCreated
  have owner := sound.owners (List.getElem?_eq_some_iff.mpr ⟨small, isThere⟩)
  rw [owner]
  exact small

theorem Sound.moved {address : Nat} {event : SessionEvent}
    {resident : Resident} {next : WsSession} (sound : roster.Sound)
    (found : roster.residents address = some resident)
    (stepped : resident.session.step event = some next)
    (alive : event ≠ .erase) :
    Sound { roster with
      residents := Function.update roster.residents address
        (some ⟨resident.number, next⟩) } := by
  have locks := WsSession.locksSound_of_reachable (sound.reached found)
  have numbers : ∀ {other : Nat} {other' : Resident},
      Function.update roster.residents address
        (some ⟨resident.number, next⟩) other = some other' →
      ∃ before, roster.residents other = some before ∧
        before.number = other'.number := by
    intro other other' isThere
    rcases update_eq_some.mp isThere with ⟨rfl, same⟩ | ⟨-, same⟩
    · cases same
      exact ⟨resident, found, rfl⟩
    · exact ⟨other', same, rfl⟩
  refine { sound with
    reached := fun isThere => ?_
    alive := fun isThere => ?_
    created := fun isThere => ?_
    latest := fun isCreated isThere => ?_
    gone := fun isRemoved isThere => ?_ }
  · rcases update_eq_some.mp isThere with ⟨rfl, same⟩ | ⟨-, same⟩
    · cases same
      exact .step (sound.reached found) trivial stepped
    · exact sound.reached same
  · rcases update_eq_some.mp isThere with ⟨rfl, same⟩ | ⟨-, same⟩
    · cases same
      exact ((WsSession.step_kept locks stepped).erased alive).trans
        (sound.alive found)
    · exact sound.alive same
  · obtain ⟨before, was, number⟩ := numbers isThere
    rw [← number]
    exact sound.created was
  · obtain ⟨before, was, number⟩ := numbers isThere
    rw [← number]
    exact sound.latest isCreated was
  · obtain ⟨before, was, number⟩ := numbers isThere
    rw [← number]
    exact sound.gone isRemoved was

theorem Sound.erased {identifier : WsIdentifier} {resident : Resident}
    (sound : roster.Sound)
    (found : roster.residents identifier.session = some resident) :
    Sound { roster with
      residents := Function.update roster.residents identifier.session none
      removals := roster.removals ++ [⟨identifier,
        ⟨identifier.session, resident.number⟩,
        resident.session.locker.callbacks, resident.session.holders⟩] } := by
  have remaining : ∀ {other : Nat} {other' : Resident},
      Function.update roster.residents identifier.session none other =
        some other' →
      other ≠ identifier.session ∧ roster.residents other = some other' := by
    intro other other' isThere
    rcases update_eq_some.mp isThere with ⟨-, same⟩ | same
    · cases same
    · exact same
  refine {
    reached := fun isThere => sound.reached (remaining isThere).2
    alive := fun isThere => sound.alive (remaining isThere).2
    created := fun isThere => sound.created (remaining isThere).2
    owners := sound.owners
    latest := fun isCreated isThere =>
      sound.latest isCreated (remaining isThere).2
    removed := fun isRemoved => ?_
    gone := fun isRemoved isThere => ?_
    once := ?_ }
  · rcases List.mem_append.mp isRemoved with earlier | last
    · exact sound.removed earlier
    · cases List.mem_singleton.mp last
      exact List.mem_of_getElem? (sound.created found)
  · obtain ⟨different, isThere⟩ := remaining isThere
    rcases List.mem_append.mp isRemoved with earlier | last
    · exact sound.gone earlier isThere
    · cases List.mem_singleton.mp last
      exact absurd rfl different
  · rw [List.map_append]
    refine List.nodup_append.mpr ⟨sound.once, List.pairwise_singleton _ _, ?_⟩
    intro earlier isEarlier last isLast same
    obtain ⟨removal, isRemoved, rfl⟩ := List.mem_map.mp isEarlier
    obtain rfl := List.mem_singleton.mp isLast
    have there : roster.residents removal.session.session = some resident := by
      rw [same]
      exact found
    exact sound.gone isRemoved there (by rw [same])

theorem Sound.emplaced {address : Nat} {role : Role} (sound : roster.Sound)
    (fresh : roster.residents address = none) :
    Sound { roster with
      residents := Function.update roster.residents address
        (some ⟨roster.created.length, .launched role⟩)
      created := roster.created ++ [⟨address, roster.created.length⟩] } where
  reached isThere := by
    rcases update_eq_some.mp isThere with ⟨-, same⟩ | ⟨-, same⟩
    · cases same
      exact .initial ⟨role, rfl⟩
    · exact sound.reached same
  alive isThere := by
    rcases update_eq_some.mp isThere with ⟨-, same⟩ | ⟨-, same⟩
    · cases same
      cases role <;> rfl
    · exact sound.alive same
  created isThere := by
    rcases update_eq_some.mp isThere with ⟨rfl, same⟩ | ⟨-, same⟩
    · cases same
      exact List.getElem?_concat_length
    · have before := sound.created same
      rw [List.getElem?_append_left (List.getElem?_eq_some_iff.mp before).1]
      exact before
  owners isThere := by
    rename_i number identifier
    rcases Nat.lt_trichotomy number roster.created.length with
      before | same | after
    · rw [List.getElem?_append_left before] at isThere
      exact sound.owners isThere
    · rw [same, List.getElem?_concat_length] at isThere
      cases isThere
      exact same.symm
    · rw [List.getElem?_eq_none (by rw [List.length_append]; exact after)]
        at isThere
      cases isThere
  latest isCreated isThere := by
    rcases List.mem_append.mp isCreated with earlier | last
    · rcases update_eq_some.mp isThere with ⟨-, same⟩ | ⟨-, same⟩
      · cases same
        exact Nat.le_of_lt (sound.owner_lt earlier)
      · exact sound.latest earlier same
    · cases List.mem_singleton.mp last
      rcases update_eq_some.mp isThere with ⟨-, same⟩ | ⟨different, -⟩
      · cases same
        exact Nat.le_refl _
      · exact absurd rfl different
  removed isRemoved := List.mem_append_left _ (sound.removed isRemoved)
  gone isRemoved isThere := by
    rcases update_eq_some.mp isThere with ⟨-, same⟩ | ⟨-, same⟩
    · cases same
      exact Nat.ne_of_lt (sound.owner_lt (sound.removed isRemoved))
    · exact sound.gone isRemoved same
  once := sound.once

theorem Sound.step {after : Roster} (sound : roster.Sound)
    (step : roster.Step after) : after.Sound := by
  cases step with
  | same => exact sound
  | moved found stepped alive => exact sound.moved found stepped alive
  | erased found => exact sound.erased found
  | emplaced fresh => exact sound.emplaced fresh

end Roster

namespace Registry

variable {Value : Type} {rules : Registry Value → Move → Prop}

/-- The invariant rule for registries. -/
theorem Reachable.invariantOver (property : Registry Value → Prop)
    (start : property .constructed)
    (kept : ∀ before after, Reachable rules before → property before →
      Step rules before after → property after)
    {registry : Registry Value} (reached : Reachable rules registry) :
    property registry := by
  induction reached with
  | constructed => exact start
  | step earlier step induction => exact kept _ _ earlier induction step

/-! ## Fields that tell about sessions -/

/-- The field has nothing to do with locks, jobs and calls of
`shutdown()`. -/
def Aside {Field : Type} (field : Registry Value → Field) : Prop :=
  ∀ (registry : Registry Value) lockCount queue stack terminated runLock
    shutdownLock shutdown callers finishedWith,
    field { registry with
      lockCount := lockCount
      queue := queue
      stack := stack
      terminated := terminated
      runLock := runLock
      shutdownLock := shutdownLock
      shutdown := shutdown
      callers := callers
      finishedWith := finishedWith } = field registry

section

variable {Field : Type} {field : Registry Value → Field}

theorem Aside.put (aside : Aside field) (registry : Registry Value)
    (job : ServiceJob Value) (inline : Bool) :
    field (registry.put job inline) = field registry := by
  cases inline <;> exact aside registry _ _ _ _ _ _ _ _ _

theorem Aside.putNoexcept (aside : Aside field) (registry : Registry Value)
    (job : ServiceJob Value) (inline : Bool) :
    field (registry.putNoexcept job inline) = field registry := by
  unfold Registry.putNoexcept
  split
  · exact aside registry _ _ _ _ _ _ _ _ _
  · exact aside.put registry job inline

theorem Aside.stepped (aside : Aside field) (registry : Registry Value)
    (address : Nat) (resident : Resident) (next : WsSession)
    (inline : Bool) :
    field (registry.stepped address resident next inline) =
      field (registry.update address (some ⟨resident.number, next⟩)) := by
  unfold Registry.stepped
  split
  · exact aside.putNoexcept _ _ _
  · rfl

theorem Aside.shutdownFinished (aside : Aside field)
    (registry : Registry Value) (size : Nat) :
    field (registry.shutdownFinished size) = field registry := by
  unfold Registry.shutdownFinished
  split <;> exact aside registry _ _ _ _ _ _ _ _ _

theorem Aside.callerMoves (aside : Aside field)
    {before after : Registry Value} (moves : before.CallerMoves after) :
    field after = field before := by
  cases moves with
  | exchanged caller => exact aside before _ _ _ _ _ _ _ _ _
  | stored caller => exact aside before _ _ _ _ _ _ _ _ _
  | locked caller locked => exact aside before _ _ _ _ _ _ _ _ _
  | unlocked caller unlocked => exact aside before _ _ _ _ _ _ _ _ _
  | deferred caller =>
      exact (aside _ _ _ _ _ _ _ _ _ _).trans (aside.putNoexcept _ _ _)

end

def roster (registry : Registry Value) : Roster :=
  { residents := registry.residents
    created := registry.created
    removals := registry.removals }

theorem aside_roster : @Aside Value _ roster :=
  fun _ _ _ _ _ _ _ _ _ _ => rfl

theorem GoesOn.ne_erase {stage stage' : Stage} {target : WsIdentifier}
    {event : SessionEvent} (goesOn : GoesOn stage target event stage') :
    event ≠ .erase := by
  cases goesOn <;> exact fun same => nomatch same

theorem ne_erase_of_byIoThread {event : SessionEvent}
    (byIoThread : event.byIoThread = true) : event ≠ .erase := by
  rintro rfl
  cases byIoThread

/-- A step of the service is a step of its roster. -/
theorem Step.roster {before after : Registry Value}
    (step : Step rules before after) : before.roster.Step after.roster := by
  cases step with
  | called callable held free => exact .of_eq (aside_roster.put _ _ _)
  | shutdownCalled unlocked allowed => exact .same
  | callerMoved moves => exact .of_eq (aside_roster.callerMoves moves)
  | sessionMoved found stepped byIoThread free allowed =>
      rw [aside_roster.stepped]
      exact .moved found stepped (ne_erase_of_byIoThread byIoThread)
  | entered empty queued => exact .same
  | moved top moves => exact .same
  | dispatched top calls handed found stepped =>
      exact .moved found stepped fun same => nomatch same
  | wentOn top goesOn found stepped allowed =>
      rw [aside_roster.stepped]
      exact .moved found stepped goesOn.ne_erase
  | loopEnded top atCursor last flag => exact .same
  | missed top missing => exact .same
  | erased top found inLoop => exact .erased found
  | foundEmpty top empty =>
      exact .of_eq (aside_roster.shutdownFinished before 0)
  | finished top empty flag =>
      exact .of_eq (aside_roster.shutdownFinished before 0)
  | emplaced top connects fresh => exact .emplaced fresh
  | ended top => exact .same

theorem roster_sound {registry : Registry Value}
    (reached : Reachable rules registry) : registry.roster.Sound := by
  refine reached.invariantOver (fun registry => registry.roster.Sound) ?_ ?_
  · exact {
      reached := fun isThere => nomatch isThere
      alive := fun isThere => nomatch isThere
      created := fun isThere => nomatch isThere
      owners := fun isThere => nomatch isThere
      latest := fun isThere => nomatch isThere
      removed := fun isThere => nomatch isThere
      gone := fun isThere => nomatch isThere
      once := List.Pairwise.nil }
  · exact fun _ _ _ sound step => sound.step step.roster

end Registry

end Webservice
