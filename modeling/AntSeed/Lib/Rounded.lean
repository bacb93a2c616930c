import Mathlib.Algebra.BigOperators.Intervals
import Mathlib.Algebra.BigOperators.Ring.Finset
import Mathlib.Algebra.Order.BigOperators.Group.Finset

/-! # Amounts rounded down over stretches of epochs

What an epoch is worth is a number of `scale`-th parts. An amount for a stretch of
epochs is rounded if it is worth no more than all of them together and no less than
each of them rounded down. How often it was rounded on the way does not matter.
-/

namespace Evm

open Finset (Ico)
open Nat Finset

/-- An amount for the epochs from `x` on and before `y`. -/
structure Rounded (scale : Nat) (worth : Nat → Nat) (x y amount : Nat) : Prop where
  least : ∑ e ∈ Ico x y, worth e / scale ≤ amount
  most : amount * scale ≤ ∑ e ∈ Ico x y, worth e

namespace Rounded

variable {scale x y z amount amount' : Nat} {worth worth' : Nat → Nat}

theorem nothing (scale x : Nat) (worth : Nat → Nat) : Rounded scale worth x x 0 := by
  constructor <;> simp

theorem div (scale : Nat) (worth : Nat → Nat) (x y : Nat) :
    Rounded scale worth x y ((∑ e ∈ Ico x y, worth e) / scale) where
  least := by
    rcases Nat.eq_zero_or_pos scale with rfl | positive
    · simp
    · rw [le_div_iff_mul_le positive, sum_mul]
      exact sum_le_sum fun e _ => div_mul_le_self _ _
  most := div_mul_le_self _ _

theorem append (first : Rounded scale worth x y amount) (second : Rounded scale worth y z amount')
    (order : x ≤ y) (order' : y ≤ z) : Rounded scale worth x z (amount + amount') where
  least := by
    rw [← sum_Ico_consecutive _ order order']
    exact Nat.add_le_add first.least second.least
  most := by
    rw [add_mul, ← sum_Ico_consecutive _ order order']
    exact Nat.add_le_add first.most second.most

section

variable (h : Rounded scale worth x y amount)

include h

theorem congr (same : ∀ e, x ≤ e → e < y → worth' e = worth e) :
    Rounded scale worth' x y amount := by
  have each : ∀ e ∈ Ico x y, worth' e = worth e := by
    intro e member
    obtain ⟨after, before⟩ := mem_Ico.mp member
    exact same e after before
  constructor
  · rw [sum_congr rfl fun e member => congrArg (· / scale) (each e member)]
    exact h.least
  · rw [sum_congr rfl each]
    exact h.most

theorem extend (order : x ≤ y) (order' : y ≤ z)
    (worthless : ∀ e, y ≤ e → e < z → worth e = 0) : Rounded scale worth x z amount := by
  have nothing : ∀ e ∈ Ico y z, worth e = 0 := by
    intro e member
    obtain ⟨after, before⟩ := mem_Ico.mp member
    exact worthless e after before
  have rest : Rounded scale worth y z 0 := by
    constructor
    · exact Nat.le_of_eq (Finset.sum_eq_zero fun e member => by rw [nothing e member, Nat.zero_div])
    · rw [zero_mul]
      exact zero_le _
  exact h.append rest order order'

theorem lt (positive : 0 < scale) (some : x < y) :
    amount < ∑ e ∈ Ico x y, worth e / scale + (y - x) := by
  refine Nat.lt_of_mul_lt_mul_right (a := scale) ?_
  calc amount * scale ≤ ∑ e ∈ Ico x y, worth e := h.most
    _ < ∑ e ∈ Ico x y, (worth e / scale + 1) * scale := by
        refine Finset.sum_lt_sum_of_nonempty (Finset.nonempty_Ico.mpr some) fun e _ => ?_
        rw [Nat.mul_comm]
        exact Nat.lt_mul_div_succ _ positive
    _ = (∑ e ∈ Ico x y, worth e / scale + (y - x)) * scale := by
        rw [← Finset.sum_mul, Finset.sum_add_distrib]
        simp

end

end Rounded

/-- While cursors moved ahead, everyone was paid for exactly the epochs they passed. -/
def Covers {P : Type} (scale : Nat) (worth : P → Nat → Nat) (before after paid : P → Nat) : Prop :=
  ∀ p, before p ≤ after p ∧ Rounded scale (worth p) (before p) (after p) (paid p)

namespace Covers

variable {P : Type} {scale : Nat} {worth worth' : P → Nat → Nat} {before between after paid paid' : P → Nat}

theorem refl (scale : Nat) (worth : P → Nat → Nat) (before : P → Nat) :
    Covers scale worth before before 0 :=
  fun _ => ⟨le_refl _, .nothing _ _ _⟩

theorem trans (first : Covers scale worth before between paid)
    (second : Covers scale worth between after paid') : Covers scale worth before after (paid + paid') :=
  fun p => ⟨(first p).1.trans (second p).1, (first p).2.append (second p).2 (first p).1 (second p).1⟩

theorem congr (h : Covers scale worth before after paid)
    (same : ∀ p e, e < after p → worth' p e = worth p e) : Covers scale worth' before after paid :=
  fun p => ⟨(h p).1, (h p).2.congr fun e _ => same p e⟩

theorem single [DecidableEq P] (order : before p ≤ stop)
    (rounded : Rounded scale (worth p) (before p) stop amount) :
    Covers scale worth before (Function.update before p stop) (Pi.single p amount) := by
  intro q
  by_cases here : q = p
  · subst here
    rw [Function.update_self, Pi.single_eq_same]
    exact ⟨order, rounded⟩
  · rw [Function.update_of_ne here, Pi.single_eq_of_ne here]
    exact ⟨le_refl _, .nothing _ _ _⟩

end Covers

end Evm
