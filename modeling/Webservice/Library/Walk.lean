import Mathlib.Order.Bounds.Defs
import Mathlib.Order.Lattice

/-!
# Walks over a changing set

A walk visits the members of a linearly ordered set in increasing order: it
starts at the least one and goes on to the least one above its cursor, in
the set as it is then.  As long as nothing is taken out of the set, it visits
everything that was there when it began, each member once, whatever is put in
on the way.
-/

/-- A walk that began when `present` were members has visited `visited` and
is at `cursor`. -/
structure Walk {Key : Type u} [LinearOrder Key] (members : Set Key)
    (present visited : List Key) (cursor : Key) : Prop where
  stays : ∀ key ∈ present, key ∈ members
  increasing : visited.Pairwise (· < ·)
  upTo : ∀ key ∈ visited, key ≤ cursor
  complete : ∀ key ∈ present, key ≤ cursor → key ∈ visited

namespace Walk

variable {Key : Type u} [LinearOrder Key] {members : Set Key}
  {present visited : List Key} {cursor next : Key}

theorem begins (least : IsLeast members cursor)
    (isPresent : ∀ key ∈ present, key ∈ members) :
    Walk members present [cursor] cursor where
  stays := isPresent
  increasing := List.pairwise_singleton _ _
  upTo _ isVisited := le_of_eq (List.mem_singleton.mp isVisited)
  complete key isKey small := List.mem_singleton.mpr
    (le_antisymm small (least.2 (isPresent key isKey)))

/-- Members may be put in while the walk goes on. -/
theorem grow {more : Set Key} (walk : Walk members present visited cursor)
    (kept : ∀ key ∈ members, key ∈ more) :
    Walk more present visited cursor where
  stays key isPresent := kept key (walk.stays key isPresent)
  increasing := walk.increasing
  upTo := walk.upTo
  complete := walk.complete

theorem advances (walk : Walk members present visited cursor)
    (least : IsLeast {key | key ∈ members ∧ cursor < key} next) :
    Walk members present (visited ++ [next]) next := by
  obtain ⟨⟨-, above⟩, least⟩ := least
  refine ⟨walk.stays, ?_, fun key isVisited => ?_,
    fun key isPresent small => ?_⟩
  · refine List.pairwise_append.mpr
      ⟨walk.increasing, List.pairwise_singleton _ _, ?_⟩
    intro key isVisited last isLast
    rw [List.mem_singleton.mp isLast]
    exact lt_of_le_of_lt (walk.upTo key isVisited) above
  · rcases List.mem_append.mp isVisited with earlier | last
    · exact le_of_lt (lt_of_le_of_lt (walk.upTo key earlier) above)
    · exact le_of_eq (List.mem_singleton.mp last)
  · by_cases done : key ≤ cursor
    · exact List.mem_append_left _ (walk.complete key isPresent done)
    · have ahead := least ⟨walk.stays key isPresent, not_le.mp done⟩
      rw [le_antisymm small ahead]
      exact List.mem_append_right _ (List.mem_singleton.mpr rfl)

/-- A finished walk has visited every member once. -/
theorem ends (walk : Walk members present visited cursor)
    (last : ∀ key ∈ members, key ≤ cursor) :
    visited.Nodup ∧ ∀ key ∈ present, key ∈ visited :=
  ⟨walk.increasing.imp ne_of_lt, fun key isPresent =>
    walk.complete key isPresent (last key (walk.stays key isPresent))⟩

end Walk
