import Mathlib.Algebra.Order.BigOperators.Group.Finset
import Mathlib.Algebra.BigOperators.Intervals

/-! # Collecting the chunks of a batch

A batch is cut into chunks of one size, the last of which takes what remains. The
chunks arrive one by one, in any order. If no index is collected twice, counting
is enough: what has been collected never exceeds the batch, and as many indices
as there are chunks are all of them.
-/

namespace Evm

open Finset List

/-- How many items the chunk of an index holds. -/
def chunkLength (total size count index : Nat) : Nat :=
  if index + 1 = count then total - size * (count - 1) else size

/-- The chunks cover the batch, and the last one is not empty. -/
structure Splits (total size count : Nat) : Prop where
  chunks : 0 < count
  started : size * (count - 1) < total
  covered : total ≤ size * count

variable {total size count : Nat}

theorem chunkLength_bounds (h : Splits total size count) (positive : 0 < size) (index : Nat) :
    0 < chunkLength total size count index ∧ chunkLength total size count index ≤ size := by
  obtain ⟨last, rfl⟩ := Nat.exists_eq_succ_of_ne_zero (Nat.ne_of_gt h.chunks)
  have started : size * last < total := h.started
  have covered : total ≤ size * last + size := h.covered
  unfold chunkLength
  rw [Nat.succ_sub_one]
  split <;> omega

theorem sum_chunkLength (h : Splits total size count) :
    ∑ index ∈ Finset.range count, chunkLength total size count index = total := by
  obtain ⟨last, rfl⟩ := Nat.exists_eq_succ_of_ne_zero (Nat.ne_of_gt h.chunks)
  have full : ∀ index ∈ Finset.range last, chunkLength total size (last + 1) index = size := by
    intro index member
    have below := Finset.mem_range.mp member
    exact if_neg (by omega)
  have final : chunkLength total size (last + 1) last = total - size * last := if_pos rfl
  rw [Finset.sum_range_succ, Finset.sum_const_nat full, final, Finset.card_range, Nat.mul_comm]
  have started : size * last < total := h.started
  omega

variable {indices : List Nat}

section

variable (h : Splits total size count) (distinct : indices.Nodup)
  (below : ∀ index ∈ indices, index < count)

include h distinct below

theorem collected_le :
    (indices.map (chunkLength total size count)).sum ≤ total := by
  calc (indices.map (chunkLength total size count)).sum
      = ∑ index ∈ indices.toFinset, chunkLength total size count index :=
        (sum_toFinset _ distinct).symm
    _ ≤ ∑ index ∈ range count, chunkLength total size count index := by
        refine sum_le_sum_of_subset fun index member => ?_
        exact Finset.mem_range.mpr (below index (List.mem_toFinset.mp member))
    _ = total := sum_chunkLength h

theorem collected_room
    (missing : index ∉ indices)
    (inside : index < count) :
    (indices.map (chunkLength total size count)).sum + chunkLength total size count index ≤ total := by
  have more := @collected_le total size count (index :: indices) h
    (List.nodup_cons.mpr ⟨missing, distinct⟩) (List.forall_mem_cons.mpr ⟨inside, below⟩)
  rw [List.map_cons, List.sum_cons, Nat.add_comm] at more
  exact more

end

theorem collected_length (distinct : indices.Nodup) (below : ∀ index ∈ indices, index < count) :
    indices.length ≤ count := by
  have subset : indices ⊆ range count := fun index member =>
    List.mem_range.mpr (below index member)
  simpa using distinct.length_le_of_subset subset

theorem collected_complete (distinct : indices.Nodup) (below : ∀ index ∈ indices, index < count)
    (full : indices.length = count) (inside : index < count) : index ∈ indices := by
  by_contra missing
  have more := collected_length (nodup_cons.mpr ⟨missing, distinct⟩)
    (forall_mem_cons.mpr ⟨inside, below⟩)
  rw [length_cons, full] at more
  exact Nat.not_succ_le_self count more

end Evm
