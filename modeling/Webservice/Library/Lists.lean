import Mathlib.Algebra.BigOperators.Group.List.Basic
import Mathlib.Algebra.Order.Ring.Nat
import Mathlib.Data.List.Perm.Basic

/-!
# Lists whose items change

What becomes of a sum of weights and of a count when one item of a list is
replaced or taken out.  A count is the sum of the weights zero and one.
-/

namespace Lists

variable {Item : Type*} {items : List Item} {index : Nat} {item : Item}

theorem sum_eraseIdx (found : items[index]? = some item)
    (weight : Item → Nat) :
    ((items.eraseIdx index).map weight).sum + weight item =
      (items.map weight).sum := by
  obtain ⟨bound, rfl⟩ := List.getElem?_eq_some_iff.mp found
  have permuted := (List.getElem_cons_eraseIdx_perm bound).map weight
  have sums := permuted.sum_eq
  rw [List.map_cons, List.sum_cons] at sums
  omega

theorem sum_set (found : items[index]? = some item) (next : Item)
    (weight : Item → Nat) :
    ((items.set index next).map weight).sum + weight item =
      (items.map weight).sum + weight next := by
  have bound := (List.getElem?_eq_some_iff.mp found).1
  have others := sum_eraseIdx found weight
  have replaced := sum_eraseIdx
    (List.getElem?_set_self (a := next) bound) weight
  rw [List.eraseIdx_set_eq] at replaced
  omega

theorem countP_eq_sum (items : List Item) (test : Item → Bool) :
    items.countP test = (items.map fun item => (test item).toNat).sum := by
  induction items with
  | nil => rfl
  | cons item items induction =>
      rw [List.countP_cons, List.map_cons, List.sum_cons, induction]
      cases test item <;> simp [Nat.add_comm]

theorem countP_eraseIdx (found : items[index]? = some item)
    (test : Item → Bool) :
    (items.eraseIdx index).countP test + (test item).toNat =
      items.countP test := by
  simp only [countP_eq_sum]
  exact sum_eraseIdx found fun item => (test item).toNat

theorem countP_set (found : items[index]? = some item) (next : Item)
    (test : Item → Bool) :
    (items.set index next).countP test + (test item).toNat =
      items.countP test + (test next).toNat := by
  simp only [countP_eq_sum]
  exact sum_set found next fun item => (test item).toNat

theorem count_eraseIdx [DecidableEq Item]
    (found : items[index]? = some item) (value : Item) :
    (items.eraseIdx index).count value + (decide (item = value)).toNat =
      items.count value :=
  countP_eraseIdx found fun item => item = value

theorem count_set [DecidableEq Item] (found : items[index]? = some item)
    (next value : Item) :
    (items.set index next).count value + (decide (item = value)).toNat =
      items.count value + (decide (next = value)).toNat :=
  countP_set found next fun item => item = value

/-- Of items that exclude each other there is at most one. -/
theorem countP_le_one {test : Item → Bool}
    (excluding : items.Pairwise fun earlier later =>
      test earlier = true → test later = false) :
    items.countP test ≤ 1 := by
  induction excluding with
  | nil => exact Nat.zero_le 1
  | @cons item items others _ induction =>
      by_cases holds : test item = true
      · have none_later : items.countP test = 0 :=
          List.countP_eq_zero.mpr fun later isLater =>
            Bool.eq_false_iff.mp (others later isLater holds)
        exact Nat.le_of_eq (by rw [List.countP_cons_of_pos holds, none_later])
      · rw [List.countP_cons_of_neg holds]
        exact induction

/-- A prefix grows by the item that comes next. -/
theorem concat_prefix {others : List Item} (begins : items <+: others)
    (isNext : others[items.length]? = some item) :
    items ++ [item] <+: others := by
  obtain ⟨rest, rfl⟩ := begins
  rw [List.getElem?_append_right (Nat.le_refl _), Nat.sub_self] at isNext
  cases rest with
  | nil => cases isNext
  | cons first rest =>
      cases isNext
      exact ⟨rest, by simp⟩

end Lists
