import Mathlib.Algebra.Order.BigOperators.Group.List
import Mathlib.Data.List.Sort

/-! # Adding up the strongest

What the first `k` of a list weigh once the heaviest come first. A list that has
more entries never weighs less.
-/

namespace AntSeed.Strongest

open List

variable {α M : Type*} [AddCommMonoid M] [LinearOrder M] [IsOrderedAddMonoid M] {weight : α → M} {k : Nat}
  {part list : List α}

theorem sum_le_sum_take (sorted : list.Pairwise fun a b => weight b ≤ weight a) (weighs : ∀ a ∈ list, 0 ≤ weight a)
    (isPart : part.Sublist list) (short : part.length ≤ k) :
    (part.map weight).sum ≤ ((list.take k).map weight).sum := by
  induction isPart generalizing k with
  | slnil => simp
  | @cons part list first isPart ih =>
    obtain ⟨heaviest, sorted⟩ := pairwise_cons.mp sorted
    have others := fun a member => weighs a (mem_cons_of_mem first member)
    refine (ih sorted others short).trans ?_
    cases k with
    | zero => simp
    | succ k =>
      rw [take_add_one, map_append, sum_append, take_succ_cons, map_cons, sum_cons,
        add_comm]
      gcongr
      cases found : list[k]? with
      | none => simpa using weighs first (by simp)
      | some last => simpa using heaviest last (mem_of_getElem? found)
  | @cons_cons part list first isPart ih =>
    obtain ⟨-, sorted⟩ := pairwise_cons.mp sorted
    have others := fun a member => weighs a (mem_cons_of_mem first member)
    cases k with
    | zero => simp at short
    | succ =>
      rw [take_succ_cons, map_cons, sum_cons, map_cons, sum_cons]
      gcongr
      exact ih sorted others (by simpa using short)

/-- The sum of the first `k` weights in the given order. -/
def strongest (weight : α → M) (before : α → α → Bool) (k : Nat) (list : List α) : M :=
  (((list.mergeSort before).take k).map weight).sum

theorem strongest_mono {before : α → α → Bool}
    (trans : ∀ a b c, before a b = true → before b c = true → before a c = true)
    (total : ∀ a b, (before a b || before b a) = true) (heavier : ∀ a b, before a b = true → weight b ≤ weight a)
    (weighs : ∀ a ∈ list, 0 ≤ weight a) (isPart : part.Sublist list) :
    strongest weight before k part ≤ strongest weight before k list := by
  obtain ⟨entries, same, isPart⟩ : ((part.mergeSort before).take k).Subperm (list.mergeSort before) :=
    ((take_sublist k _).subperm.trans (mergeSort_perm part before).subperm).trans
      (isPart.subperm.trans (mergeSort_perm list before).symm.subperm)
  have sorted : (list.mergeSort before).Pairwise fun a b => weight b ≤ weight a :=
    (pairwise_mergeSort trans total list).imp fun {a b} => heavier a b
  unfold strongest
  rw [← (same.map weight).sum_eq]
  refine sum_le_sum_take sorted (fun a member => weighs a (mem_mergeSort.mp member)) isPart ?_
  rw [same.length_eq]
  exact length_take_le k _

theorem filterMap_sublist {β : Type*} {f g : α → Option β} (picks : ∀ a ∈ list, ∀ b, f a = some b → g a = some b) :
    (list.filterMap f).Sublist (list.filterMap g) := by
  induction list with
  | nil => simp
  | cons a list ih =>
    have rest := ih fun other member => picks other (mem_cons_of_mem a member)
    cases picked : f a with
    | none =>
      rw [filterMap_cons_none picked]
      exact rest.trans (List.Sublist.filterMap g (sublist_cons_self a list))
    | some b =>
      rw [filterMap_cons_some picked, filterMap_cons_some (picks a (by simp) b picked)]
      exact rest.cons_cons b

end AntSeed.Strongest
