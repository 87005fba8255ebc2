import PurchaseAgent.Collections.StableSort

/-!
Keeping the best of a list: the elements that come first in the order of a rank,
put back into the order of their places.
-/

namespace Collections
variable {α κ π : Type} [LinearOrder κ] [LinearOrder π]

/-- `sorted(sorted(xs, key=rank)[:n], key=place)`. -/
def bestOf (rank : α → κ) (place : α → π) (n : Nat) (xs : List α) : List α :=
  sortedBy place ((sortedBy rank xs).take n)

variable (rank : α → κ) (place : α → π) (n : Nat) (xs : List α)

theorem bestOf_perm : (bestOf rank place n xs).Perm ((sortedBy rank xs).take n) :=
  sortedBy_perm place _

theorem length_bestOf : (bestOf rank place n xs).length = min n xs.length := by
  rw [(bestOf_perm rank place n xs).length_eq, List.length_take,
    (sortedBy_perm rank xs).length_eq]

variable {xs}

/-- What is kept stays in its order. -/
theorem bestOf_sublist (inOrder : xs.Pairwise fun a b => place a < place b) :
    (bestOf rank place n xs).Sublist xs := by
  have chosen : (bestOf rank place n xs).Subperm xs :=
    (bestOf_perm rank place n xs).subperm.trans
      ((List.take_sublist n _).subperm.trans (sortedBy_perm rank xs).subperm)
  have distinct : (xs.map place).Nodup := List.pairwise_map.mpr (inOrder.imp ne_of_lt)
  have distinct' : ((bestOf rank place n xs).map place).Nodup := by
    obtain ⟨middle, same, within⟩ := id chosen
    exact (same.map place).nodup_iff.mp (distinct.sublist (within.map place))
  have sorted : (bestOf rank place n xs).Pairwise fun a b => place a < place b :=
    ((List.pairwise_map.mp distinct').and (sortedBy_pairwise place _)).imp fun both =>
      lt_of_le_of_ne both.2 both.1
  have : Std.Antisymm fun a b : α => place a < place b :=
    ⟨fun a b less more => absurd (less.trans more) (lt_irrefl _)⟩
  exact List.sublist_of_subperm_of_pairwise chosen sorted inOrder

/-- Nothing is left out unless the list is full. -/
theorem bestOf_full {b : α} (inside : b ∈ xs) (left : b ∉ bestOf rank place n xs) :
    (bestOf rank place n xs).length = n := by
  rw [length_bestOf]
  apply min_eq_left
  by_contra short
  have all : (sortedBy rank xs).take n = sortedBy rank xs := by
    apply List.take_of_length_le
    rw [(sortedBy_perm rank xs).length_eq]
    omega
  apply left
  rw [(bestOf_perm rank place n xs).mem_iff, all]
  exact (mem_sortedBy rank xs).mpr inside

/-- What is left out ranks behind everything that is kept. -/
theorem rank_le_of_left {a b : α} (kept : a ∈ bestOf rank place n xs) (inside : b ∈ xs)
    (left : b ∉ bestOf rank place n xs) : rank a ≤ rank b := by
  rw [(bestOf_perm rank place n xs).mem_iff] at kept left
  have sorted := sortedBy_pairwise rank xs
  rw [← List.take_append_drop n (sortedBy rank xs), List.pairwise_append] at sorted
  apply sorted.2.2 a kept b
  have listed := (mem_sortedBy rank xs).mpr inside
  rw [← List.take_append_drop n (sortedBy rank xs), List.mem_append] at listed
  exact listed.resolve_left left

end Collections
