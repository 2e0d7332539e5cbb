import Mathlib.Data.List.Basic

/-!
# Conversion of messages

`to_shared_const_buffer_t` shows the bytes of a contiguous container and
`from_multi_buffer_t` inserts what it reads from the chunks of a multi buffer
into a new one.  A container is the list of its elements.
-/

namespace Webservice

/-- A type of elements that are given by their `width` bytes. -/
structure TriviallyCopyable (Element : Type u) where
  /-- `sizeof(typename T::value_type)` -/
  width : Nat
  pos : 0 < width
  bytes : Element → List UInt8
  /-- The element that a piece of memory is read as. -/
  value : List UInt8 → Element
  bytes_length : ∀ element, (bytes element).length = width
  value_bytes : ∀ element, value (bytes element) = element

namespace TriviallyCopyable

variable {Element : Type u} (type : TriviallyCopyable Element)

/-- `boost::asio::buffer` of a container: `size() * sizeof(value_type)` bytes
from `data()` on. -/
def toSharedConstBuffer (data : List Element) : List UInt8 :=
  data.flatMap type.bytes

/-- Read `count` elements through a typed pointer to the beginning of the
memory, if all of them lie within it. -/
def readRange (memory : List UInt8) : Nat → Option (List Element)
  | 0 => some []
  | count + 1 =>
      if type.width ≤ memory.length then
        (readRange (memory.drop type.width) count).map
          (type.value (memory.take type.width) :: ·)
      else none

/-- `result.insert(result.end(), data, data + size)`, where `size` is the
size of the chunk in bytes. -/
def insertChunk (result : List Element) (chunk : List UInt8) :
    Option (List Element) :=
  (type.readRange chunk chunk.length).map (result ++ ·)

/-- `from_multi_buffer_t`; `none` if it reads outside of a chunk. -/
def fromMultiBuffer (chunks : List (List UInt8)) : Option (List Element) :=
  chunks.foldlM type.insertChunk []

/-! ## Elements of several bytes -/

theorem readRange_within {type : TriviallyCopyable Element}
    {memory : List UInt8} {count : Nat} {elements : List Element}
    (read : type.readRange memory count = some elements) :
    count * type.width ≤ memory.length := by
  induction count generalizing memory elements with
  | zero => simp
  | succ count induction =>
      rw [readRange] at read
      split at read
      · next fits =>
          obtain ⟨rest, isRest, -⟩ := Option.map_eq_some_iff.mp read
          have later := induction isRest
          rw [List.length_drop] at later
          rw [Nat.succ_mul]
          omega
      · cases read

/-- A chunk is read as many elements as it has bytes. -/
theorem readRange_wide {type : TriviallyCopyable Element}
    {chunk : List UInt8} {elements : List Element} (wide : 1 < type.width)
    (read : type.readRange chunk chunk.length = some elements) :
    chunk = [] := by
  have within := readRange_within read
  by_contra nonempty
  have some_byte := List.length_pos_iff.mpr nonempty
  have beyond := Nat.mul_lt_mul_of_pos_left wide some_byte
  omega

theorem foldlM_insertChunk_wide {type : TriviallyCopyable Element}
    {chunks : List (List UInt8)} {start result : List Element}
    (wide : 1 < type.width)
    (inserted : chunks.foldlM type.insertChunk start = some result) :
    chunks.flatten = [] := by
  induction chunks generalizing start with
  | nil => rfl
  | cons chunk chunks induction =>
      rw [List.foldlM_cons] at inserted
      obtain ⟨next, isNext, rest⟩ := Option.bind_eq_some_iff.mp inserted
      obtain ⟨elements, read, -⟩ := Option.map_eq_some_iff.mp isNext
      rw [List.flatten_cons, readRange_wide wide read, induction rest]
      rfl

theorem toSharedConstBuffer_eq_nil_iff {type : TriviallyCopyable Element}
    {data : List Element} :
    type.toSharedConstBuffer data = [] ↔ data = [] := by
  constructor
  · intro none
    cases data with
    | nil => rfl
    | cons element data =>
        have noBytes := List.length_eq_zero_iff.mpr
          (List.append_eq_nil_iff.mp none).1
        rw [type.bytes_length] at noBytes
        exact absurd noBytes (Nat.ne_of_gt type.pos)
  · rintro rfl
    rfl

theorem foldlM_insertChunk_of_nil {type : TriviallyCopyable Element}
    {chunks : List (List UInt8)} {start : List Element}
    (none : chunks.flatten = []) :
    chunks.foldlM type.insertChunk start = some start := by
  induction chunks with
  | nil => rfl
  | cons chunk chunks induction =>
      obtain ⟨rfl, rest⟩ := List.append_eq_nil_iff.mp none
      rw [List.foldlM_cons, insertChunk, List.length_nil, readRange]
      simpa using induction rest

/-! ## Elements of one byte -/

theorem readRange_of_one {type : TriviallyCopyable Element}
    (one : type.width = 1) (memory : List UInt8) :
    type.readRange memory memory.length =
      some (memory.map fun byte => type.value [byte]) := by
  induction memory with
  | nil => rfl
  | cons byte memory induction =>
      rw [List.length_cons, readRange, one, if_pos (by simp)]
      simp [induction]

theorem foldlM_insertChunk_of_one {type : TriviallyCopyable Element}
    (one : type.width = 1) (chunks : List (List UInt8))
    (start : List Element) :
    chunks.foldlM type.insertChunk start =
      some (start ++ chunks.flatten.map fun byte => type.value [byte]) := by
  induction chunks generalizing start with
  | nil => simp
  | cons chunk chunks induction =>
      rw [List.foldlM_cons, insertChunk, readRange_of_one one]
      simp [induction]

theorem map_value_bytes {type : TriviallyCopyable Element}
    (one : type.width = 1) (data : List Element) :
    (type.toSharedConstBuffer data).map (fun byte => type.value [byte]) =
      data := by
  induction data with
  | nil => rfl
  | cons element data induction =>
      have single := type.bytes_length element
      rw [one] at single
      obtain ⟨byte, isByte⟩ := List.length_eq_one_iff.mp single
      have same := type.value_bytes element
      rw [isByte] at same
      rw [toSharedConstBuffer] at induction
      rw [toSharedConstBuffer, List.flatMap_cons, isByte, List.map_append,
        induction, List.map_singleton, same, List.singleton_append]

/-! ## Round trips -/

/-- A container comes back just when its elements have one byte each or it is
empty, in however many chunks its bytes arrive. -/
theorem fromMultiBuffer_eq_some_iff {data : List Element}
    {chunks : List (List UInt8)}
    (splits : chunks.flatten = type.toSharedConstBuffer data) :
    type.fromMultiBuffer chunks = some data ↔
      type.width = 1 ∨ data = [] := by
  constructor
  · intro returned
    by_cases one : type.width = 1
    · exact .inl one
    · right
      have wide : 1 < type.width := Nat.lt_of_le_of_ne type.pos (Ne.symm one)
      rw [← toSharedConstBuffer_eq_nil_iff, ← splits]
      exact foldlM_insertChunk_wide wide returned
  · rintro (one | rfl)
    · rw [fromMultiBuffer, foldlM_insertChunk_of_one one, splits,
        map_value_bytes one, List.nil_append]
    · exact foldlM_insertChunk_of_nil splits

/-- The elements that are just `width` bytes, such as integers. -/
def raw (width : Nat) (pos : 0 < width) :
    TriviallyCopyable { bytes : List UInt8 // bytes.length = width } where
  width := width
  pos := pos
  bytes := Subtype.val
  value memory :=
    if fits : memory.length = width then ⟨memory, fits⟩
    else ⟨List.replicate width 0, List.length_replicate⟩
  bytes_length := Subtype.property
  value_bytes element := dif_pos element.property

/-- A text comes back, although it is cut in the middle. -/
theorem returned_text :
    (raw 1 Nat.one_pos).fromMultiBuffer [[104], [], [105, 33]] =
      some [⟨[104], rfl⟩, ⟨[105], rfl⟩, ⟨[33], rfl⟩] := by
  have splits : [[104], [], [105, 33]].flatten =
      (raw 1 Nat.one_pos).toSharedConstBuffer
        [⟨[104], rfl⟩, ⟨[105], rfl⟩, ⟨[33], rfl⟩] := rfl
  exact (fromMultiBuffer_eq_some_iff _ splits).mpr (.inl rfl)

/-- One `std::uint64_t` that arrives in one chunk is read as eight. -/
theorem not_returned_uint64 :
    ∃ data chunks, chunks.flatten =
        (raw 8 (by decide)).toSharedConstBuffer data ∧
      (raw 8 (by decide)).fromMultiBuffer chunks ≠ some data := by
  refine ⟨[⟨[7, 0, 0, 0, 0, 0, 0, 0], rfl⟩], [[7, 0, 0, 0, 0, 0, 0, 0]],
    rfl, ?_⟩
  have isNone : (raw 8 (by decide)).fromMultiBuffer
      [[7, 0, 0, 0, 0, 0, 0, 0]] = none := rfl
  rw [isNone]
  simp

end TriviallyCopyable

end Webservice
