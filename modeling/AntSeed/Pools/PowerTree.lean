import AntSeed.Lib.Fenwick

/-! # The power trees of AntseedSellerPools

A range of power is a pair of numbers, the staked weight and the weight times
its end epoch, that holds from a start epoch up to an end epoch. A tree node
packs both numbers as two `int128` lanes of one storage word.
-/

namespace AntSeed.Pools

open Evm
open Fenwick

/-- Errors of AntseedSellerPools and of the contracts it inherits from. -/
inductive Error where
  | invalidAddress | invalidValue | invalidPosition | notPositionOwner | notRewardStaker
  | positionClosed | positionChangePending | alreadyWithdrawn | stakeDurationOutOfBounds
  | ownableUnauthorizedAccount | ownableInvalidOwner
  deriving DecidableEq, Repr

def fenwickSize : Nat := 4096

structure FenwickTree where
  values : Nat → BitVec 256

namespace FenwickTree

def empty : FenwickTree := ⟨fun _ => 0⟩

instance : Inhabited FenwickTree := ⟨empty⟩

def fenwickIndex (epoch : Nat) : Tx Error Nat := do
  let index ← uint 256 (epoch + 1)
  require (¬ (index = 0 ∨ index > fenwickSize)) .invalidValue
  pure index

def toInt128 (value : Int) : Tx Error (BitVec 128) := do
  require (¬ (value < -2 ^ 127 ∨ value > 2 ^ 127 - 1)) .invalidValue
  pure (BitVec.ofInt 128 value)

def packFenwickValue (amount weightedEnd : BitVec 128) : BitVec 256 :=
  amount.setWidth 256 ||| (weightedEnd.setWidth 256 <<< 128)

def unpackFenwickValue (value : BitVec 256) : BitVec 128 × BitVec 128 :=
  (value.setWidth 128, (value >>> 128).setWidth 128)

/-- The body of the climbing loop: both lanes of one node. -/
def addToNode (amountDelta weightedEndDelta : BitVec 128) (value : BitVec 256) :
    Tx Error (BitVec 256) := do
  let lanes := unpackFenwickValue value
  let amount ← toInt128 (lanes.1.toInt + amountDelta.toInt)
  let weightedEnd ← toInt128 (lanes.2.toInt + weightedEndDelta.toInt)
  pure (packFenwickValue amount weightedEnd)

def fenwickAdd (tree : FenwickTree) (epoch : Nat) (amountDelta weightedEndDelta : Int) :
    Tx Error FenwickTree := do
  let index ← fenwickIndex epoch
  let amountDelta128 ← toInt128 amountDelta
  let weightedEndDelta128 ← toInt128 weightedEndDelta
  let values ← ascend fenwickSize (addToNode amountDelta128 weightedEndDelta128)
    fenwickSize index tree.values
  pure ⟨values⟩

/-- Both lanes of a node as numbers. -/
def node (tree : FenwickTree) (index : Nat) : Int × Int :=
  let lanes := unpackFenwickValue (tree.values index)
  (lanes.1.toInt, lanes.2.toInt)

/-- At most thirteen `int128` numbers are added up, which an `int256` always holds. -/
def fenwickPrefixSum (tree : FenwickTree) (epoch : Nat) : Tx Error (Int × Int) := do
  let index ← fenwickIndex epoch
  pure (descend tree.node fenwickSize index 0)

def applyRangeDelta (tree : FenwickTree) (startEpoch stakeEndEpoch : Nat)
    (amountDelta weightedEndDelta : Int) : Tx Error FenwickTree := do
  let tree ← tree.fenwickAdd startEpoch amountDelta weightedEndDelta
  let amountBack ← int 256 (-amountDelta)
  let weightedEndBack ← int 256 (-weightedEndDelta)
  tree.fenwickAdd stakeEndEpoch amountBack weightedEndBack

theorem unpack_pack (amount weightedEnd : BitVec 128) :
    unpackFenwickValue (packFenwickValue amount weightedEnd) = (amount, weightedEnd) := by
  unfold unpackFenwickValue packFenwickValue
  congr 1
  · ext i inside
    simp
  · ext i inside
    have low : i < 256 := by omega
    have high : 128 + i < 256 := by omega
    simp [inside, low, high]

variable {word : BitVec 128} {epoch : Nat} {amountDelta weightedEndDelta : Int}
  {tree tree' : FenwickTree}

theorem toInt128_eq_ok {value : Int} (h : toInt128 value = .ok word) : word.toInt = value := by
  obtain ⟨_, inside, h⟩ := ran h
  cases h
  rw [require_eq_ok] at inside
  rw [BitVec.toInt_ofInt]
  apply Int.bmod_eq_of_le <;> omega

theorem toInt128_fits (h : toInt128 value = .ok word) : value < 2 ^ 127 := by
  obtain ⟨_, inside, -⟩ := ran h
  have := require_eq_ok.mp inside
  omega

theorem fenwickIndex_eq_ok {epoch index : Nat} (h : fenwickIndex epoch = .ok index) :
    epoch < fenwickSize ∧ index = epoch + 1 := by
  replace h := uint_rest h
  obtain ⟨_, inside, h⟩ := ran h
  cases h
  have := require_eq_ok.mp inside
  exact ⟨by omega, rfl⟩

theorem fenwickIndex_inside (inside : epoch < fenwickSize) : fenwickIndex epoch = .ok (epoch + 1) := by
  unfold fenwickSize at inside
  have fits : (uint 256 (epoch + 1) : Tx Error Nat) = .ok (epoch + 1) :=
    uint_eq_ok.mpr ⟨by omega, rfl⟩
  have passed : require (¬ (epoch + 1 = 0 ∨ epoch + 1 > fenwickSize)) Error.invalidValue = .ok () :=
    require_eq_ok.mpr (by unfold fenwickSize; omega)
  exact bind_eq_ok.mpr ⟨_, fits, bind_eq_ok.mpr ⟨_, passed, rfl⟩⟩

def sumAt (tree : FenwickTree) (epoch : Nat) : Int × Int :=
  descend tree.node fenwickSize (epoch + 1) 0

theorem fenwickPrefixSum_inside (tree : FenwickTree) (inside : epoch < fenwickSize) :
    tree.fenwickPrefixSum epoch = .ok (tree.sumAt epoch) := by
  unfold fenwickPrefixSum
  rw [fenwickIndex_inside inside]
  rfl

theorem sumAt_empty (epoch : Nat) : empty.sumAt epoch = 0 := by
  have zero : ∀ fuel i, descend empty.node fuel i 0 = 0 := by
    intro fuel
    induction fuel with
    | zero => intro i; rfl
    | succ fuel ih =>
      intro i
      unfold descend
      split
      · rfl
      · have nothing : empty.node i = 0 := by
          simp [node, empty, unpackFenwickValue]
        rw [nothing, add_zero]
        exact ih _
  exact zero _ _

theorem sumAt_bounds (tree : FenwickTree) (epoch : Nat) :
    (-2 ^ 139 ≤ (tree.sumAt epoch).1 ∧ (tree.sumAt epoch).1 ≤ 2 ^ 139) ∧
      (-2 ^ 139 ≤ (tree.sumAt epoch).2 ∧ (tree.sumAt epoch).2 ≤ 2 ^ 139) := by
  have lanes : ∀ k, (-2 ^ 127 ≤ (tree.node k).1 ∧ (tree.node k).1 ≤ 2 ^ 127) ∧
      (-2 ^ 127 ≤ (tree.node k).2 ∧ (tree.node k).2 ≤ 2 ^ 127) := by
    intro k
    have first := BitVec.toInt_lt (x := (unpackFenwickValue (tree.values k)).1)
    have first' := BitVec.le_toInt (unpackFenwickValue (tree.values k)).1
    have second := BitVec.toInt_lt (x := (unpackFenwickValue (tree.values k)).2)
    have second' := BitVec.le_toInt (unpackFenwickValue (tree.values k)).2
    unfold node
    simp only
    omega
  have sums : ∀ fuel i : Nat,
      (-(fuel * 2 ^ 127) ≤ (descend tree.node fuel i 0).1 ∧
        (descend tree.node fuel i 0).1 ≤ fuel * 2 ^ 127) ∧
      (-(fuel * 2 ^ 127) ≤ (descend tree.node fuel i 0).2 ∧
        (descend tree.node fuel i 0).2 ≤ fuel * 2 ^ 127) := by
    intro fuel
    induction fuel with
    | zero =>
      intro i
      simp [descend]
    | succ fuel ih =>
      intro i
      unfold descend
      split
      · simp only [Prod.fst_zero, Prod.snd_zero]
        omega
      · rw [descend_acc, zero_add]
        have rest := ih (i - lowbit i)
        have here := lanes i
        simp only [Prod.fst_add, Prod.snd_add]
        push_cast
        omega
  have := sums fenwickSize (epoch + 1)
  unfold sumAt
  unfold fenwickSize at *
  omega

section

variable (h : tree.fenwickAdd epoch amountDelta weightedEndDelta = .ok tree')

include h

theorem node_fenwickAdd
    (positive : 0 < k) (within : k ≤ fenwickSize) : tree'.node k =
      tree.node k + if Fenwick.Covers k (epoch + 1) then (amountDelta, weightedEndDelta) else 0 := by
  obtain ⟨index, found, h⟩ := ran h
  obtain ⟨amount128, amountFits, h⟩ := ran h
  obtain ⟨weighted128, weightedFits, h⟩ := ran h
  obtain ⟨values, climbed, h⟩ := ran h
  cases h
  obtain ⟨-, rfl⟩ := fenwickIndex_eq_ok found
  have step := ascend_spec (by omega) (by decide) (by omega) climbed k
  by_cases covers : Fenwick.Covers k (epoch + 1)
  · rw [if_pos ⟨positive, within, covers⟩] at step
    obtain ⟨amount, first, step⟩ := ran step
    obtain ⟨weightedEnd, second, step⟩ := ran step
    have packed := pure_eq_ok.mp step
    simp only [node, ← packed, unpack_pack, if_pos covers, toInt128_eq_ok first,
      toInt128_eq_ok second, toInt128_eq_ok amountFits, toInt128_eq_ok weightedFits, Prod.mk_add_mk]
  · rw [if_neg fun c => covers c.2.2] at step
    simp only [node, step, if_neg covers, add_zero]

theorem sumAt_fenwickAdd :
    epoch < fenwickSize ∧ ∀ e, e < fenwickSize → tree'.sumAt e =
      tree.sumAt e + if epoch ≤ e then (amountDelta, weightedEndDelta) else 0 := by
  obtain ⟨index, found, -⟩ := ran h
  refine ⟨(fenwickIndex_eq_ok found).1, fun e small => ?_⟩
  have sums := descend_add_covered (n := fenwickSize) (j := e + 1) (by omega) (by decide)
    (fun k => node_fenwickAdd h) (by omega) (by omega)
  simp only [Nat.add_le_add_iff_right] at sums
  exact sums

end

theorem applyRangeDelta_fits {startEpoch stakeEndEpoch : Nat}
    (h : tree.applyRangeDelta startEpoch stakeEndEpoch amountDelta weightedEndDelta = .ok tree') :
    amountDelta < 2 ^ 127 := by
  obtain ⟨opened, first, -⟩ := ran h
  obtain ⟨index, -, first⟩ := ran first
  obtain ⟨amount128, amountFits, -⟩ := ran first
  exact toInt128_fits amountFits

/-- What a range adds to the sum of an epoch. -/
def rangeAt (startEpoch stakeEndEpoch : Nat) (delta : Int × Int) (epoch : Nat) : Int × Int :=
  (if startEpoch ≤ epoch then delta else 0) - (if stakeEndEpoch ≤ epoch then delta else 0)

theorem sumAt_applyRangeDelta
    (h : tree.applyRangeDelta startEpoch stakeEndEpoch amountDelta weightedEndDelta = .ok tree') :
    startEpoch < fenwickSize ∧ stakeEndEpoch < fenwickSize ∧ ∀ e, e < fenwickSize → tree'.sumAt e =
      tree.sumAt e + rangeAt startEpoch stakeEndEpoch (amountDelta, weightedEndDelta) e := by
  obtain ⟨opened, first, h⟩ := ran h
  obtain ⟨amountBack, amountFits, h⟩ := ran h
  obtain ⟨weightedBack, weightedFits, second⟩ := ran h
  obtain ⟨-, rfl⟩ := int_eq_ok.mp amountFits
  obtain ⟨-, rfl⟩ := int_eq_ok.mp weightedFits
  obtain ⟨startInside, raised⟩ := sumAt_fenwickAdd first
  obtain ⟨endInside, lowered⟩ := sumAt_fenwickAdd second
  refine ⟨startInside, endInside, fun e small => ?_⟩
  rw [lowered e small, raised e small, rangeAt, add_assoc, sub_eq_add_neg]
  congr 2
  by_cases past : stakeEndEpoch ≤ e
  · simp [past]
  · simp [past]

end FenwickTree

end AntSeed.Pools
