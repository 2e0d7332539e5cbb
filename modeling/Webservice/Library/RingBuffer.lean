import Mathlib.Data.List.Basic

/-!
# Bounded ring buffers

A ring holds at most `capacity` elements.  Appending to a full ring drops
the oldest element, as circular buffers do; `overwritten` names the element
that is lost.
-/

/-- A queue that never holds more than `capacity` elements. -/
structure RingBuffer (Element : Type u) (capacity : Nat) where
  items : List Element
  bounded : items.length ≤ capacity

namespace RingBuffer

variable {Element : Type u} {capacity : Nat}

def nil : RingBuffer Element capacity := ⟨[], Nat.zero_le _⟩

def isEmpty (ring : RingBuffer Element capacity) : Bool := ring.items.isEmpty

def isFull (ring : RingBuffer Element capacity) : Bool :=
  decide (capacity ≤ ring.items.length)

def front? (ring : RingBuffer Element capacity) : Option Element :=
  ring.items.head?

/-- The element that `pushBack` drops to make room. -/
def overwritten (ring : RingBuffer Element capacity) : List Element :=
  if ring.isFull then ring.items.take 1 else []

def pushBack (ring : RingBuffer Element capacity) (element : Element) :
    RingBuffer Element capacity :=
  if room : ring.items.length < capacity then
    ⟨ring.items ++ [element], by
      rw [List.length_append]
      exact room⟩
  else
    ⟨(ring.items ++ [element]).tail, by simpa using ring.bounded⟩

def popFront (ring : RingBuffer Element capacity) : RingBuffer Element capacity :=
  ⟨ring.items.tail, by
    have bounded := ring.bounded
    rw [List.length_tail]
    omega⟩

/-- Replace the oldest element in place. -/
def modifyFront (ring : RingBuffer Element capacity)
    (change : Element → Element) : RingBuffer Element capacity :=
  ⟨ring.items.modifyHead change, by simpa using ring.bounded⟩

@[simp] theorem nil_items :
    (nil : RingBuffer Element capacity).items = [] :=
  rfl

theorem isEmpty_iff (ring : RingBuffer Element capacity) :
    ring.isEmpty = true ↔ ring.items = [] := by
  simp [isEmpty]

theorem isFull_iff (ring : RingBuffer Element capacity) :
    ring.isFull = true ↔ capacity ≤ ring.items.length := by
  simp [isFull]

theorem pushBack_items {ring : RingBuffer Element capacity}
    (room : ring.isFull = false) (element : Element) :
    (ring.pushBack element).items = ring.items ++ [element] := by
  have space : ring.items.length < capacity := by
    simpa [isFull] using room
  simp [pushBack, space]

theorem pushBack_items_of_full {ring : RingBuffer Element capacity}
    (full : ring.isFull = true) (element : Element) :
    (ring.pushBack element).items = (ring.items ++ [element]).tail := by
  have noSpace : ¬ring.items.length < capacity := by
    simpa [isFull] using full
  simp [pushBack, noSpace]

/-- Behind the oldest element a push drops at most an element. -/
theorem pushBack_tail_sublist {ring : RingBuffer Element capacity}
    (some_item : ring.items ≠ []) (element : Element) :
    (ring.pushBack element).items.tail.Sublist
      (ring.items.tail ++ [element]) := by
  have behind : (ring.items ++ [element]).tail = ring.items.tail ++ [element] :=
    List.tail_append_of_ne_nil some_item
  cases full : ring.isFull with
  | false => rw [pushBack_items full, behind]
  | true =>
      rw [pushBack_items_of_full full, behind]
      exact List.tail_sublist _

theorem pushBack_length (ring : RingBuffer Element capacity) (element : Element) :
    (ring.pushBack element).items.length =
      min (ring.items.length + 1) capacity := by
  have bounded := ring.bounded
  by_cases room : ring.items.length < capacity
  · simp only [pushBack, room, dif_pos, List.length_append,
      List.length_singleton]
    omega
  · simp only [pushBack, room, dif_neg, not_false_eq_true, List.length_tail,
      List.length_append, List.length_singleton]
    omega

theorem overwritten_eq_nil {ring : RingBuffer Element capacity}
    (room : ring.isFull = false) : ring.overwritten = [] := by
  simp [overwritten, room]

/-- A push to a ring of some size drops nothing if and only if there is
room. -/
theorem overwritten_eq_nil_iff {ring : RingBuffer Element capacity}
    (some_size : 0 < capacity) :
    ring.overwritten = [] ↔ ring.isFull = false := by
  refine ⟨fun nothing => ?_, overwritten_eq_nil⟩
  rw [← Bool.not_eq_true, isFull_iff]
  intro full
  rw [overwritten, if_pos ((isFull_iff ring).mpr full),
    List.take_eq_nil_iff] at nothing
  have empty := nothing.resolve_left Nat.one_ne_zero
  rw [empty] at full
  exact Nat.not_le_of_gt some_size full

@[simp] theorem popFront_items (ring : RingBuffer Element capacity) :
    ring.popFront.items = ring.items.tail :=
  rfl

@[simp] theorem modifyFront_items (ring : RingBuffer Element capacity)
    (change : Element → Element) :
    (ring.modifyFront change).items = ring.items.modifyHead change :=
  rfl

end RingBuffer
