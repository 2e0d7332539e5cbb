import Mathlib.Algebra.Order.BigOperators.Group.List
import Mathlib.Algebra.Order.Ring.Nat
import Mathlib.Data.List.Basic
import Mathlib.Order.Bounds.Defs
import Mathlib.Order.Lattice
import Webservice.Library.Walk

/-!
# Ordered maps

A map from ordered keys to items, kept as a sorted list, with the operations
of a balanced tree: lookup, insertion, erasure, change in place, and the
first and the next key for walking over it.
-/

/-- Entries with strictly increasing keys. -/
structure OrderedMap (Key : Type u) [LinearOrder Key] (Item : Type v) where
  entries : List (Key × Item)
  sorted : entries.Pairwise fun left right => left.1 < right.1

namespace OrderedMap

variable {Key : Type u} [LinearOrder Key] {Item : Type v}

def empty : OrderedMap Key Item := ⟨[], .nil⟩

def isEmpty (map : OrderedMap Key Item) : Bool := map.entries.isEmpty

def keys (map : OrderedMap Key Item) : List Key := map.entries.map Prod.fst

def find? (map : OrderedMap Key Item) (key : Key) : Option Item :=
  (map.entries.find? fun entry => entry.1 = key).map Prod.snd

/-- Insert an entry, unless the key is there already. -/
def insertEntry (key : Key) (item : Item) :
    List (Key × Item) → List (Key × Item)
  | [] => [(key, item)]
  | entry :: entries =>
      if key < entry.1 then (key, item) :: entry :: entries
      else if key = entry.1 then entry :: entries
      else entry :: insertEntry key item entries

theorem insertEntry_subset {key : Key} {item : Item}
    {entries : List (Key × Item)} {entry : Key × Item}
    (inserted : entry ∈ insertEntry key item entries) :
    entry = (key, item) ∨ entry ∈ entries := by
  induction entries with
  | nil => exact .inl (List.mem_singleton.mp inserted)
  | cons head tail induction =>
      unfold insertEntry at inserted
      split at inserted
      · exact List.mem_cons.mp inserted
      · split at inserted
        · exact .inr inserted
        · rcases List.mem_cons.mp inserted with rfl | later
          · exact .inr List.mem_cons_self
          · rcases induction later with new | old
            · exact .inl new
            · exact .inr (List.mem_cons_of_mem _ old)

theorem insertEntry_sorted (key : Key) (item : Item)
    {entries : List (Key × Item)}
    (sorted : entries.Pairwise fun left right => left.1 < right.1) :
    (insertEntry key item entries).Pairwise
      fun left right => left.1 < right.1 := by
  induction entries with
  | nil => exact List.pairwise_singleton _ _
  | cons head tail induction =>
      obtain ⟨above, tailSorted⟩ := List.pairwise_cons.mp sorted
      unfold insertEntry
      split
      · rename_i smaller
        refine List.pairwise_cons.mpr ⟨fun entry isEntry => ?_, sorted⟩
        rcases List.mem_cons.mp isEntry with rfl | later
        · exact smaller
        · exact lt_trans smaller (above entry later)
      · rename_i notSmaller
        split
        · exact sorted
        · rename_i different
          refine List.pairwise_cons.mpr
            ⟨fun entry isEntry => ?_, induction tailSorted⟩
          rcases insertEntry_subset isEntry with rfl | old
          · exact lt_of_le_of_ne (not_lt.mp notSmaller) (Ne.symm different)
          · exact above entry old

def insert (map : OrderedMap Key Item) (key : Key) (item : Item) :
    OrderedMap Key Item :=
  ⟨insertEntry key item map.entries, insertEntry_sorted key item map.sorted⟩

def erase (map : OrderedMap Key Item) (key : Key) : OrderedMap Key Item :=
  ⟨map.entries.filter fun entry => entry.1 ≠ key, map.sorted.filter _⟩

/-- Change the item of a key in place. -/
def modify (map : OrderedMap Key Item) (key : Key) (change : Item → Item) :
    OrderedMap Key Item :=
  ⟨map.entries.map fun entry =>
      (entry.1, if entry.1 = key then change entry.2 else entry.2),
    List.pairwise_map.mpr map.sorted⟩

/-- Change all items in place. -/
def mapItems (map : OrderedMap Key Item) (change : Item → Item) :
    OrderedMap Key Item :=
  ⟨map.entries.map fun entry => (entry.1, change entry.2),
    List.pairwise_map.mpr map.sorted⟩

/-- The least key. -/
def first? (map : OrderedMap Key Item) : Option Key :=
  map.entries.head?.map Prod.fst

/-- The least key above the given one. -/
def next? (map : OrderedMap Key Item) (key : Key) : Option Key :=
  (map.entries.find? fun entry => key < entry.1).map Prod.fst

/-! ## Entries -/

theorem mem_keys {map : OrderedMap Key Item} {key : Key} :
    key ∈ map.keys ↔ ∃ item, (key, item) ∈ map.entries := by
  simp [keys]

theorem entry_unique {map : OrderedMap Key Item} {key : Key}
    {first second : Item} (isFirst : (key, first) ∈ map.entries)
    (isSecond : (key, second) ∈ map.entries) : first = second := by
  obtain ⟨entries, sorted⟩ := map
  induction entries with
  | nil => cases isFirst
  | cons head tail induction =>
      obtain ⟨above, tailSorted⟩ := List.pairwise_cons.mp sorted
      rcases List.mem_cons.mp isFirst with rfl | firstLater
      · rcases List.mem_cons.mp isSecond with same | secondLater
        · exact (Prod.mk.inj same).2.symm
        · exact absurd (above _ secondLater) (lt_irrefl key)
      · rcases List.mem_cons.mp isSecond with rfl | secondLater
        · exact absurd (above _ firstLater) (lt_irrefl key)
        · exact induction tailSorted firstLater secondLater

theorem find?_eq_some {map : OrderedMap Key Item} {key : Key} {item : Item} :
    map.find? key = some item ↔ (key, item) ∈ map.entries := by
  simp only [find?, Option.map_eq_some_iff, Prod.exists]
  constructor
  · rintro ⟨found, item, isFound, rfl⟩
    have same := List.find?_some isFound
    simp only [decide_eq_true_eq] at same
    exact same ▸ List.mem_of_find?_eq_some isFound
  · intro isEntry
    have present : (map.entries.find? fun entry => entry.1 = key).isSome :=
      List.find?_isSome.mpr ⟨_, isEntry, by simp⟩
    obtain ⟨⟨found, other⟩, isFound⟩ := Option.isSome_iff_exists.mp present
    have same := List.find?_some isFound
    simp only [decide_eq_true_eq] at same
    subst same
    exact ⟨found, item, by
      rw [isFound, entry_unique (List.mem_of_find?_eq_some isFound) isEntry],
      rfl⟩

theorem find?_eq_none {map : OrderedMap Key Item} {key : Key} :
    map.find? key = none ↔ key ∉ map.keys := by
  rw [mem_keys, not_exists]
  constructor
  · intro missing item isEntry
    rw [find?_eq_some.mpr isEntry] at missing
    cases missing
  · intro missing
    cases found : map.find? key with
    | none => rfl
    | some item => exact absurd (find?_eq_some.mp found) (missing item)

theorem isEmpty_iff {map : OrderedMap Key Item} :
    map.isEmpty = true ↔ map.entries = [] := by
  simp [isEmpty]

/-! ## Changes -/

theorem mem_insertEntry {key : Key} {item : Item}
    {entries : List (Key × Item)} {entry : Key × Item}
    (fresh : ∀ entry ∈ entries, key ≠ entry.1)
    (wanted : entry = (key, item) ∨ entry ∈ entries) :
    entry ∈ insertEntry key item entries := by
  induction entries with
  | nil => simpa [insertEntry] using wanted
  | cons head tail induction =>
      have tailFresh := fun entry isEntry =>
        fresh entry (List.mem_cons_of_mem _ isEntry)
      unfold insertEntry
      split
      · exact List.mem_cons.mpr wanted
      · rw [if_neg (fresh head List.mem_cons_self)]
        rcases wanted with new | old
        · exact List.mem_cons_of_mem _ (induction tailFresh (.inl new))
        · rcases List.mem_cons.mp old with rfl | later
          · exact List.mem_cons_self
          · exact List.mem_cons_of_mem _ (induction tailFresh (.inr later))

theorem mem_insert {map : OrderedMap Key Item} {key : Key} {item : Item}
    (fresh : key ∉ map.keys) {entry : Key × Item} :
    entry ∈ (map.insert key item).entries ↔
      entry = (key, item) ∨ entry ∈ map.entries :=
  ⟨insertEntry_subset, mem_insertEntry fun entry isEntry same =>
    fresh (mem_keys.mpr ⟨entry.2, same ▸ isEntry⟩)⟩

theorem mem_erase {map : OrderedMap Key Item} {key : Key}
    {entry : Key × Item} :
    entry ∈ (map.erase key).entries ↔
      entry ∈ map.entries ∧ entry.1 ≠ key := by
  simp [erase]

theorem mem_modify {map : OrderedMap Key Item} {key : Key}
    {change : Item → Item} {entry : Key × Item} :
    entry ∈ (map.modify key change).entries ↔
      ∃ item, (entry.1, item) ∈ map.entries ∧
        entry.2 = if entry.1 = key then change item else item := by
  obtain ⟨found, item⟩ := entry
  simp only [modify, List.mem_map, Prod.mk.injEq]
  constructor
  · rintro ⟨⟨old, before⟩, isEntry, rfl, rfl⟩
    exact ⟨before, isEntry, rfl⟩
  · rintro ⟨before, isEntry, same⟩
    exact ⟨(found, before), isEntry, rfl, same.symm⟩

@[simp] theorem modify_keys (map : OrderedMap Key Item) (key : Key)
    (change : Item → Item) : (map.modify key change).keys = map.keys := by
  simp only [keys, modify, List.map_map]
  rfl

theorem find?_insert {map : OrderedMap Key Item} {key : Key} {item : Item}
    (fresh : key ∉ map.keys) (other : Key) :
    (map.insert key item).find? other =
      if other = key then some item else map.find? other := by
  apply Option.ext
  intro found
  rw [find?_eq_some, mem_insert fresh, Prod.mk.injEq]
  split
  · rename_i same
    subst same
    have missing : (other, found) ∉ map.entries := fun isEntry =>
      fresh (mem_keys.mpr ⟨found, isEntry⟩)
    simp [missing, eq_comm]
  · rename_i different
    simp [different, find?_eq_some]

theorem find?_erase (map : OrderedMap Key Item) (key other : Key) :
    (map.erase key).find? other =
      if other = key then none else map.find? other := by
  apply Option.ext
  intro found
  rw [find?_eq_some, mem_erase]
  split
  · rename_i same
    simp [same]
  · rename_i different
    simp [different, find?_eq_some]

theorem find?_modify (map : OrderedMap Key Item) (key other : Key)
    (change : Item → Item) :
    (map.modify key change).find? other =
      if other = key then (map.find? other).map change
      else map.find? other := by
  apply Option.ext
  intro found
  rw [find?_eq_some, mem_modify]
  by_cases same : other = key
  · simp only [same, if_true, Option.map_eq_some_iff, find?_eq_some,
      @eq_comm _ found]
  · simp [same, find?_eq_some]

theorem find?_mapItems (map : OrderedMap Key Item) (key : Key)
    (change : Item → Item) :
    (map.mapItems change).find? key = (map.find? key).map change := by
  apply Option.ext
  intro found
  simp only [find?_eq_some, Option.map_eq_some_iff, mapItems, List.mem_map,
    Prod.mk.injEq, Prod.exists]
  constructor
  · rintro ⟨other, item, isEntry, rfl, rfl⟩
    exact ⟨item, isEntry, rfl⟩
  · rintro ⟨item, isEntry, rfl⟩
    exact ⟨key, item, isEntry, rfl, rfl⟩

theorem isEmpty_iff_find? {map : OrderedMap Key Item} :
    map.isEmpty = true ↔ ∀ key, map.find? key = none := by
  rw [isEmpty_iff]
  constructor
  · intro empty key
    rw [find?_eq_none, keys, empty]
    exact List.not_mem_nil
  · intro missing
    apply List.eq_nil_iff_forall_not_mem.mpr
    intro entry isEntry
    have found := find?_eq_some.mpr isEntry
    rw [missing] at found
    cases found

theorem isEmpty_of_find? {map : OrderedMap Key Item} {key : Key} {item : Item}
    (found : map.find? key = some item) : map.isEmpty = false := by
  rw [← Bool.not_eq_true, isEmpty_iff_find?]
  intro empty
  rw [empty] at found
  cases found

@[simp] theorem isEmpty_mapItems (map : OrderedMap Key Item)
    (change : Item → Item) : (map.mapItems change).isEmpty = map.isEmpty := by
  rw [Bool.eq_iff_iff, isEmpty_iff_find?, isEmpty_iff_find?]
  apply forall_congr'
  intro key
  rw [find?_mapItems, Option.map_eq_none_iff]

@[simp] theorem isEmpty_modify (map : OrderedMap Key Item) (key : Key)
    (change : Item → Item) :
    (map.modify key change).isEmpty = map.isEmpty := by
  rw [Bool.eq_iff_iff, isEmpty_iff_find?, isEmpty_iff_find?]
  apply forall_congr'
  intro other
  rw [find?_modify]
  split
  · rw [Option.map_eq_none_iff]
  · rfl

/-! ## Walking -/

theorem first?_eq_some {map : OrderedMap Key Item} {key : Key}
    (found : map.first? = some key) :
    IsLeast {key | key ∈ map.keys} key := by
  obtain ⟨entries, sorted⟩ := map
  cases entries with
  | nil => cases found
  | cons head tail =>
      cases found
      refine ⟨List.mem_cons_self, fun other isKey => ?_⟩
      rcases List.mem_cons.mp isKey with rfl | later
      · exact le_refl _
      · obtain ⟨entry, isEntry, rfl⟩ := List.mem_map.mp later
        exact le_of_lt ((List.pairwise_cons.mp sorted).1 entry isEntry)

theorem first?_eq_none {map : OrderedMap Key Item} :
    map.first? = none ↔ map.isEmpty = true := by
  simp [first?, isEmpty_iff]

theorem next?_eq_some {map : OrderedMap Key Item} {key next : Key}
    (follows : map.next? key = some next) :
    IsLeast {other | other ∈ map.keys ∧ key < other} next := by
  simp only [next?, Option.map_eq_some_iff, Prod.exists,
    exists_and_right, exists_eq_right] at follows
  obtain ⟨item, found⟩ := follows
  obtain ⟨above, before, after, split, skipped⟩ :=
    List.find?_eq_some_iff_append.mp found
  have sorted := map.sorted
  rw [split] at sorted
  refine ⟨⟨mem_keys.mpr ⟨item, split ▸ by simp⟩, by simpa using above⟩, ?_⟩
  rintro other ⟨isKey, larger⟩
  obtain ⟨otherItem, isEntry⟩ := mem_keys.mp isKey
  rw [split] at isEntry
  rcases List.mem_append.mp isEntry with earlier | later
  · have notLarger := skipped _ earlier
    simp only [Bool.not_eq_true', decide_eq_false_iff_not] at notLarger
    exact absurd larger notLarger
  · rcases List.mem_cons.mp later with same | afterwards
    · exact le_of_eq (Prod.mk.inj same).1.symm
    · have tailSorted := (List.pairwise_append.mp sorted).2.1
      exact le_of_lt ((List.pairwise_cons.mp tailSorted).1 _ afterwards)

theorem next?_eq_none {map : OrderedMap Key Item} {key other : Key}
    (last : map.next? key = none) (isKey : other ∈ map.keys) :
    other ≤ key := by
  obtain ⟨item, isEntry⟩ := mem_keys.mp isKey
  simp only [next?, Option.map_eq_none_iff, List.find?_eq_none,
    decide_eq_true_eq] at last
  exact not_lt.mp (last _ isEntry)

/-! ## Weights -/

/-- The weights of all items together. -/
def total (map : OrderedMap Key Item) (weight : Item → Nat) : Nat :=
  (map.entries.map fun entry => weight entry.2).sum

theorem total_erase_le (map : OrderedMap Key Item) (key : Key)
    (weight : Item → Nat) :
    (map.erase key).total weight ≤ map.total weight :=
  (List.filter_sublist.map _).sum_le_sum fun _ _ => Nat.zero_le _

/-- Changing one item changes the total by the difference of its weights. -/
theorem total_modify {map : OrderedMap Key Item} {key : Key} {item : Item}
    (found : map.find? key = some item) (change : Item → Item)
    (weight : Item → Nat) :
    (map.modify key change).total weight + weight item =
      map.total weight + weight (change item) := by
  have isEntry := find?_eq_some.mp found
  obtain ⟨entries, sorted⟩ := map
  simp only [total, modify, List.map_map] at isEntry ⊢
  induction entries with
  | nil => cases isEntry
  | cons head tail induction =>
      obtain ⟨above, tailSorted⟩ := List.pairwise_cons.mp sorted
      rw [List.map_cons, List.map_cons, List.sum_cons, List.sum_cons]
      rcases List.mem_cons.mp isEntry with rfl | later
      · have others : tail.map ((fun entry => weight entry.2) ∘ fun entry =>
            (entry.1, if entry.1 = key then change entry.2 else entry.2)) =
            tail.map fun entry => weight entry.2 := by
          apply List.map_congr_left
          intro entry isEntry
          simp [ne_of_gt (above entry isEntry)]
        rw [others]
        simp only [Function.comp_apply, if_true]
        omega
      · have different := ne_of_lt (above _ later)
        have rest := induction tailSorted
          (find?_eq_some.mpr later) later
        simp only [Function.comp_apply, if_neg different]
        omega

end OrderedMap
