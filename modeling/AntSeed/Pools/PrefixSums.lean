import AntSeed.Pools.PowerTree

/-! # Sums of a power tree

A tree is asked for the sum of what was added up to an epoch. An addition succeeds where it fits its lanes and
so does every node it is added to.
-/

namespace AntSeed.Pools.FenwickTree

open Evm
open Fenwick
open List

structure Delta where
  epoch : Nat
  amount : Int
  weightedEnd : Int

/-- Additions one after the other. -/
def addAll (tree : FenwickTree) (deltas : List Delta) : Tx Error FenwickTree :=
  deltas.foldlM (fun tree delta => tree.fenwickAdd delta.epoch delta.amount delta.weightedEnd) tree

/-- What was added at the epochs that are picked. -/
def sumOf (picked : Nat → Bool) (deltas : List Delta) : Int × Int :=
  ((deltas.filter fun delta => picked delta.epoch).map fun delta => (delta.amount, delta.weightedEnd)).sum

def FitsInt128 (value : Int) : Prop := -2 ^ 127 ≤ value ∧ value < 2 ^ 127

/-- Every delta fits both lanes, and so does what a node has been given at any time. -/
structure Fitting (deltas : List Delta) : Prop where
  each : ∀ delta ∈ deltas, delta.epoch < fenwickSize ∧ FitsInt128 delta.amount ∧ FitsInt128 delta.weightedEnd
  running : ∀ done, done <+: deltas → ∀ k, 0 < k → k ≤ fenwickSize →
    FitsInt128 (sumOf (fun epoch => Covers k (epoch + 1)) done).1 ∧
      FitsInt128 (sumOf (fun epoch => Covers k (epoch + 1)) done).2

variable {deltas done : List Delta} {delta : Delta} {tree tree' : FenwickTree}

theorem sumOf_append (picked : Nat → Bool) : sumOf picked (done ++ [delta]) =
    sumOf picked done + if picked delta.epoch then (delta.amount, delta.weightedEnd) else 0 := by
  rw [sumOf, filter_append, map_append, sum_append]
  congr 1
  cases here : picked delta.epoch <;> simp [here]

theorem addAll_append (h : tree.addAll (done ++ [delta]) = .ok tree') : ∃ before, tree.addAll done = .ok before ∧
    before.fenwickAdd delta.epoch delta.amount delta.weightedEnd = .ok tree' := by
  rw [addAll, foldlM_append] at h
  obtain ⟨before, added, h⟩ := ran h
  obtain ⟨after, last, h⟩ := ran h
  cases h
  exact ⟨before, added, last⟩

theorem node_empty (k : Nat) : empty.node k = 0 := by
  simp [node, empty, unpackFenwickValue]

theorem node_addAll (h : empty.addAll done = .ok tree) (positive : 0 < k) (within : k ≤ fenwickSize) :
    tree.node k = sumOf (fun epoch => Covers k (epoch + 1)) done := by
  induction done using reverseRecOn generalizing tree with
  | nil =>
    cases h
    exact node_empty k
  | append_singleton done delta ih =>
    obtain ⟨before, added, last⟩ := addAll_append h
    rw [node_fenwickAdd last positive within, ih added, sumOf_append]
    simp only [decide_eq_true_eq]

theorem sumAt_addAll (h : empty.addAll done = .ok tree) (small : e < fenwickSize) :
    tree.sumAt e = sumOf (· ≤ e) done := by
  induction done using reverseRecOn generalizing tree with
  | nil =>
    cases h
    exact sumAt_empty e
  | append_singleton done delta ih =>
    obtain ⟨before, added, last⟩ := addAll_append h
    rw [(sumAt_fenwickAdd last).2 e small, ih added, sumOf_append]
    simp only [decide_eq_true_eq]

theorem toInt128_ok (fits : FitsInt128 value) : toInt128 value = .ok (BitVec.ofInt 128 value) := by
  obtain ⟨low, high⟩ := fits
  have passed : require (¬ (value < -2 ^ 127 ∨ value > 2 ^ 127 - 1)) Error.invalidValue = .ok () :=
    require_eq_ok.mpr (by omega)
  rw [toInt128, passed]
  rfl

theorem fenwickAdd_ok (tree : FenwickTree) (inside : delta.epoch < fenwickSize) (amount : FitsInt128 delta.amount)
    (weightedEnd : FitsInt128 delta.weightedEnd)
    (nodes : ∀ k, 0 < k → k ≤ fenwickSize → Covers k (delta.epoch + 1) →
      FitsInt128 ((tree.node k).1 + delta.amount) ∧ FitsInt128 ((tree.node k).2 + delta.weightedEnd)) :
    ∃ tree', tree.fenwickAdd delta.epoch delta.amount delta.weightedEnd = .ok tree' := by
  have amountIs := toInt128_eq_ok (toInt128_ok amount)
  have weightedIs := toInt128_eq_ok (toInt128_ok weightedEnd)
  obtain ⟨values, climbed⟩ : ∃ values, ascend fenwickSize
      (addToNode (.ofInt 128 delta.amount) (.ofInt 128 delta.weightedEnd)) fenwickSize (delta.epoch + 1)
      tree.values = .ok values := ascend_ok (Nat.succ_pos _) (by decide) (fun k positive within covers => by
    obtain ⟨first, second⟩ := nodes k positive within covers
    rw [addToNode, amountIs, weightedIs]
    exact ⟨_, bind_eq_ok.mpr ⟨_, toInt128_ok first, bind_eq_ok.mpr ⟨_, toInt128_ok second, rfl⟩⟩⟩) fenwickSize
  exact ⟨⟨values⟩, bind_eq_ok.mpr ⟨_, fenwickIndex_inside inside, bind_eq_ok.mpr ⟨_, toInt128_ok amount,
    bind_eq_ok.mpr ⟨_, toInt128_ok weightedEnd, bind_eq_ok.mpr ⟨values, climbed, rfl⟩⟩⟩⟩⟩

theorem addAll_ok (fitting : Fitting deltas) : ∃ tree, empty.addAll deltas = .ok tree := by
  suffices run : ∀ done, done <+: deltas → ∃ tree, empty.addAll done = .ok tree from run deltas (prefix_refl _)
  intro done
  induction done using reverseRecOn with
  | nil => exact fun _ => ⟨_, rfl⟩
  | append_singleton done delta ih =>
    intro begins
    obtain ⟨tree, added⟩ := ih ((prefix_append _ _).trans begins)
    obtain ⟨inside, amount, weightedEnd⟩ := fitting.each delta (begins.subset (by simp))
    obtain ⟨tree', last⟩ := fenwickAdd_ok tree inside amount weightedEnd
      fun k positive within covers => by
        have fits := fitting.running _ begins k positive within
        rw [sumOf_append, if_pos (by simpa using covers), ← node_addAll added positive within] at fits
        exact fits
    refine ⟨tree', ?_⟩
    rw [addAll, foldlM_append]
    exact bind_eq_ok.mpr ⟨tree, added, bind_eq_ok.mpr ⟨tree', last, rfl⟩⟩

/-- However the deltas were added, an epoch is told their sum up to it, lane by lane; nothing reverts while
    the running sums fit; and both loops come to their end. -/
theorem tree_sums_prefixes (deltas : List Delta) :
    (∀ tree, empty.addAll deltas = .ok tree → ∀ epoch < fenwickSize,
      tree.fenwickPrefixSum epoch = .ok (sumOf (· ≤ epoch) deltas)) ∧
    (Fitting deltas → ∃ tree, empty.addAll deltas = .ok tree) ∧
    (∀ amount weightedEnd, unpackFenwickValue (packFenwickValue amount weightedEnd) = (amount, weightedEnd)) ∧
    ∀ epoch index, fenwickIndex epoch = .ok index →
      (∃ steps ≤ fenwickSize, fenwickSize < (fun k => k + lowbit k)^[steps] index) ∧
      ∃ steps ≤ fenwickSize, (fun k => k - lowbit k)^[steps] index = 0 := by
  refine ⟨fun tree added epoch inside => ?_, addAll_ok, unpack_pack, fun epoch index admitted => ?_⟩
  · rw [fenwickPrefixSum_inside tree inside, sumAt_addAll added inside]
  · obtain ⟨inside, rfl⟩ := fenwickIndex_eq_ok admitted
    have small : epoch + 1 < 2 ^ 256 := Nat.lt_of_le_of_lt inside (by decide)
    exact ⟨climb_ends (Nat.succ_pos _) (by decide) (by omega), descent_ends small inside⟩

/-- Two deltas of one epoch, and one of an earlier epoch between them. -/
def threeDeltas : List Delta := [⟨2, 5, -7⟩, ⟨0, 4, 1⟩, ⟨2, -3, 2⟩]

theorem fitting_threeDeltas : Fitting threeDeltas := by
  refine ⟨by simp [threeDeltas, fenwickSize, FitsInt128], fun done begins k _ _ => ?_⟩
  by_cases first : Fenwick.Covers k 1 <;> by_cases third : Fenwick.Covers k 3 <;>
    rcases done with _ | ⟨a, _ | ⟨b, _ | ⟨c, rest⟩⟩⟩ <;>
    simp only [threeDeltas, cons_prefix_cons, prefix_nil] at begins <;>
    simp [sumOf, first, third, begins, FitsInt128]

theorem three_deltas_sum : ∃ tree, empty.addAll threeDeltas = .ok tree ∧ tree.fenwickPrefixSum 1 = .ok (4, 1) ∧
    tree.fenwickPrefixSum 3 = .ok (6, -4) := by
  obtain ⟨sums, succeeds, -⟩ := tree_sums_prefixes threeDeltas
  obtain ⟨tree, added⟩ := succeeds fitting_threeDeltas
  exact ⟨tree, added, sums tree added 1 (by decide), sums tree added 3 (by decide)⟩

end AntSeed.Pools.FenwickTree
