import Mathlib.Data.List.Dedup
import Mathlib.Data.List.Sort
import Mathlib.Order.Defs.LinearOrder

namespace Foundation

/-!
# Sorted sets

The distinct elements of a list in ascending order.  The order and the number
of times they occur in the list do not matter.
-/

variable {α : Type} [LinearOrder α]

/-- `sorted(set(xs))`. -/
def sortedSet (xs : List α) : List α :=
  xs.dedup.insertionSort (· ≤ ·)

theorem mem_sortedSet {xs : List α} {x : α} : x ∈ sortedSet xs ↔ x ∈ xs := by
  rw [sortedSet, List.mem_insertionSort, List.mem_dedup]

theorem sortedSet_nodup (xs : List α) : (sortedSet xs).Nodup :=
  (List.perm_insertionSort _ _).nodup_iff.mpr (List.nodup_dedup xs)

theorem sortedSet_sorted (xs : List α) : (sortedSet xs).Pairwise (· ≤ ·) :=
  List.pairwise_insertionSort _ _

/-- Sorted lists without repetition that have the same elements are equal. -/
theorem eq_of_same_elements {xs ys : List α} (sorted : xs.Pairwise (· ≤ ·))
    (sorted' : ys.Pairwise (· ≤ ·)) (nodup : xs.Nodup) (nodup' : ys.Nodup)
    (same : forall x, x ∈ xs ↔ x ∈ ys) : xs = ys := by
  have perm : xs.Perm ys := (List.perm_ext_iff_of_nodup nodup nodup').mpr same
  exact perm.eq_of_pairwise (fun _ _ _ _ => le_antisymm) sorted sorted'

theorem sortedSet_congr {xs ys : List α} (same : forall x, x ∈ xs ↔ x ∈ ys) :
    sortedSet xs = sortedSet ys := by
  apply eq_of_same_elements (sortedSet_sorted xs) (sortedSet_sorted ys) (sortedSet_nodup xs)
    (sortedSet_nodup ys)
  intro x
  rw [mem_sortedSet, mem_sortedSet]
  exact same x

/-- Dropping elements before sorting is dropping them after. -/
theorem sortedSet_filter (keep : α -> Bool) (xs : List α) :
    sortedSet (xs.filter keep) = (sortedSet xs).filter keep := by
  apply eq_of_same_elements (sortedSet_sorted _) ((sortedSet_sorted xs).filter keep)
    (sortedSet_nodup _) ((sortedSet_nodup xs).filter keep)
  intro x
  rw [mem_sortedSet, List.mem_filter, List.mem_filter, mem_sortedSet]

end Foundation
