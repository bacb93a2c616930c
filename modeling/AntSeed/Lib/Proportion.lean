import Mathlib.Algebra.BigOperators.Ring.Finset
import AntSeed.Lib.Mapping

/-! # Proportional shares that round down

A pot divided in proportion, each part rounded down on its own, never pays out
more than the pot.
-/

namespace Evm

open Nat

variable {K : Type}

theorem sum_div_le (s : Finset K) (f : K → Nat) (d : Nat) : ∑ k ∈ s, f k / d ≤ (∑ k ∈ s, f k) / d := by
  rcases Nat.eq_zero_or_pos d with rfl | positive
  · simp
  · rw [le_div_iff_mul_le positive, Finset.sum_mul]
    exact Finset.sum_le_sum fun k _ => div_mul_le_self (f k) d

theorem sum_share_le (s : Finset K) (share : K → Nat) (positive : 0 < whole)
    (bounded : ∑ k ∈ s, share k ≤ whole) : ∑ k ∈ s, pot * share k / whole ≤ pot := by
  calc ∑ k ∈ s, pot * share k / whole
      ≤ (∑ k ∈ s, pot * share k) / whole := sum_div_le s _ whole
    _ = pot * (∑ k ∈ s, share k) / whole := by rw [Finset.mul_sum]
    _ ≤ pot * whole / whole := Nat.div_le_div_right (Nat.mul_le_mul_left pot bounded)
    _ = pot := Nat.mul_div_cancel pot positive

theorem share_add_le (part : share ≤ whole) (positive : 0 < whole) (a b : Nat) :
    (a + b) * share / whole ≤ a * share / whole + b := by
  calc (a + b) * share / whole
      ≤ (a * share + b * whole) / whole := by
        refine Nat.div_le_div_right ?_
        rw [Nat.add_mul]
        exact Nat.add_le_add_left (Nat.mul_le_mul_left b part) _
    _ = a * share / whole + b := add_mul_div_right _ _ positive

/-! ## Payments in turn

Shares of a pot are paid one after the other, each in proportion to a whole that
may have shrunk since the last one. Nothing is overpaid as long as what was taken
so far is part of every whole.
-/

def Fair (pot whole paid taken : Nat) : Prop := paid * whole ≤ pot * taken

section Turns

variable {pot whole paid taken : Nat}

theorem fair_unpaid (pot whole taken : Nat) : Fair pot whole 0 taken := by
  unfold Fair
  rw [zero_mul]
  exact zero_le _

theorem Fair.pay (h : Fair pot whole paid taken) {amount part : Nat}
    (share : Fair pot whole amount part) : Fair pot whole (paid + amount) (taken + part) := by
  unfold Fair at *
  rw [add_mul, mul_add]
  exact Nat.add_le_add h share

theorem Fair.shrink (h : Fair pot whole paid taken) (le : smaller ≤ whole) :
    Fair pot smaller paid taken :=
  le_trans (mul_le_mul_left paid le) h

theorem Fair.within (h : Fair pot whole paid taken) (part : taken ≤ whole) (positive : 0 < whole) :
    paid ≤ pot :=
  Nat.le_of_mul_le_mul_right (Nat.le_trans h (Nat.mul_le_mul_left pot part)) positive

end Turns

/-! ## Claims

Of the parts of a pot some have been claimed, each of them once.
-/

variable [Fintype K] (part : K → Nat)

/-- What the claimed parts add up to. -/
def claimedSum (claimed : K → Bool) : Nat := ∑ k, if claimed k then part k else 0

theorem claimedSum_none (none : ∀ k, claimed k = false) :
    claimedSum part claimed = 0 := by
  simp [claimedSum, none]

theorem claimedSum_le (claimed : K → Bool) : claimedSum part claimed ≤ ∑ k, part k := by
  refine Finset.sum_le_sum fun k _ => ?_
  split
  · exact le_refl _
  · exact zero_le _

theorem claimedSum_update [DecidableEq K] (first : claimed k = false) :
    claimedSum part (Function.update claimed k true) = claimedSum part claimed + part k := by
  have moved := sum_update_add (fun x (c : Bool) => if c then part x else 0) claimed true
    (Finset.mem_univ k)
  simpa [claimedSum, first] using moved

end Evm
