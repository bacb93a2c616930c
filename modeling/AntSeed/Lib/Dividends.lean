import AntSeed.Lib.Mapping
import Mathlib.Algebra.BigOperators.Ring.Finset
import Mathlib.Tactic.Ring

/-! # Dividends by a cumulative index

A pot is shared among accounts in proportion to their shares. A distribution
raises one number, what a share has earned so far, and sets something aside; an
account is settled lazily, when it is touched. Everything is an integer, so both
sides round: what is set aside once for each distribution, what an account gets
once for each touch. The books balance exactly if both fractions are counted.
-/

namespace Evm

open Function
open Finset Nat

/-- What a share has earned, what each account was settled for, is owed and holds, and what
    has been set aside. -/
structure Dividends (K : Type) where
  perShare : Nat
  settled : K → Nat
  owed : K → Nat
  shares : K → Nat
  totalShares : Nat
  reserved : Nat

namespace Dividends

variable {K : Type} {scale : Nat} {d : Dividends K}

/-- What an account has earned since it was last settled, before it is rounded. -/
def pending (d : Dividends K) (k : K) : Nat := d.shares k * (d.perShare - d.settled k)

def earned (scale : Nat) (d : Dividends K) (k : K) : Nat := d.owed k + d.pending k / scale

/-- Settle an account. -/
def touch [DecidableEq K] (scale : Nat) (d : Dividends K) (k : K) : Dividends K :=
  { d with
    owed := update d.owed k (d.earned scale k)
    settled := update d.settled k d.perShare }

def distribute (scale : Nat) (d : Dividends K) (delta : Nat) : Dividends K :=
  { d with
    perShare := d.perShare + delta
    reserved := d.reserved + delta * d.totalShares / scale }

def setShares [DecidableEq K] (d : Dividends K) (k : K) (shares totalShares : Nat) : Dividends K :=
  { d with shares := update d.shares k shares, totalShares := totalShares }

def pay [DecidableEq K] (d : Dividends K) (k : K) : Dividends K :=
  { d with owed := update d.owed k 0, reserved := d.reserved - d.owed k }

/-- An account gives up what it is owed, without anything leaving what was set aside. -/
def forgive [DecidableEq K] (d : Dividends K) (k : K) : Dividends K :=
  { d with owed := update d.owed k 0 }

/-- Raise the index without anybody earning from it. -/
def rebase (d : Dividends K) (delta : Nat) : Dividends K :=
  { d with perShare := d.perShare + delta, settled := fun k => d.settled k + delta }

theorem earned_touch [DecidableEq K] (d : Dividends K) (k x : K) :
    (d.touch scale k).earned scale x = d.earned scale x := by
  by_cases here : x = k
  · subst here
    simp [earned, touch, pending]
  · simp [earned, touch, pending, here]

theorem earned_setShares [DecidableEq K] {shares totalShares : Nat} (fresh : d.settled k = d.perShare) (x : K) :
    (d.setShares k shares totalShares).earned scale x = d.earned scale x := by
  by_cases here : x = k
  · subst here
    simp [earned, setShares, pending, fresh]
  · simp [earned, setShares, pending, here]

theorem earned_distribute (d : Dividends K) (delta : Nat) (x : K) :
    d.earned scale x ≤ (d.distribute scale delta).earned scale x := by
  have grown : d.perShare - d.settled x ≤ d.perShare + delta - d.settled x := by omega
  exact Nat.add_le_add_left (Nat.div_le_div_right (Nat.mul_le_mul_left (d.shares x) grown)) _

theorem earned_pay [DecidableEq K] (other : x ≠ k) : (d.pay k).earned scale x = d.earned scale x := by
  simp [earned, pay, pending, other]

theorem pending_touch [DecidableEq K] (d : Dividends K) (k : K) : (d.touch scale k).pending k = 0 := by
  simp [touch, pending]

theorem touch_touch [DecidableEq K] (d : Dividends K) (k : K) :
    (d.touch scale k).touch scale k = d.touch scale k := by
  have same := @earned_touch K scale _ d k k
  unfold touch at same ⊢
  rw [same]
  simp

/-- The books balance, if distributions have dropped `dropped` and touches `rounded`. -/
structure Balanced [Fintype K] (scale : Nat) (d : Dividends K) (dropped rounded : Nat) : Prop where
  settled : ∀ k, d.settled k ≤ d.perShare
  total : ∑ k, d.shares k = d.totalShares
  books : ∑ k, (d.owed k * scale + d.pending k) + rounded = d.reserved * scale + dropped

variable [Fintype K] {dropped rounded : Nat}

section

variable (h : Balanced scale d dropped rounded)

include h

theorem Balanced.touch [DecidableEq K] (k : K) :
    Balanced scale (d.touch scale k) dropped (rounded + d.pending k % scale) where
  settled x := by
    by_cases here : x = k
    · subst here
      simp [Dividends.touch]
    · simp [Dividends.touch, here, h.settled x]
  total := h.total
  books := by
    have value : ∀ x, (d.touch scale k).owed x * scale + (d.touch scale k).pending x =
        update (fun x => d.owed x * scale + d.pending x) k (d.earned scale k * scale) x := by
      intro x
      by_cases here : x = k
      · subst here
        simp [Dividends.touch, Dividends.pending]
      · simp [Dividends.touch, Dividends.pending, here]
    have moved := sum_update_add (fun _ (v : Nat) => v) (fun x => d.owed x * scale + d.pending x)
      (d.earned scale k * scale) (mem_univ k)
    have whole : d.earned scale k * scale + d.pending k % scale = d.owed k * scale + d.pending k := by
      rw [earned, add_mul, add_assoc, mul_comm (d.pending k / scale), div_add_mod]
    have books := h.books
    have reserved : (d.touch scale k).reserved = d.reserved := rfl
    simp only [value, reserved]
    omega

theorem Balanced.distribute (delta : Nat) :
    Balanced scale (d.distribute scale delta) (dropped + delta * d.totalShares % scale) rounded where
  settled k := le_trans (h.settled k) (le_add_right _ _)
  total := h.total
  books := by
    have value : ∀ k, (d.distribute scale delta).owed k * scale +
        (d.distribute scale delta).pending k =
          (d.owed k * scale + d.pending k) + delta * d.shares k := by
      intro k
      have growth : d.perShare + delta - d.settled k = d.perShare - d.settled k + delta := by
        have := h.settled k
        omega
      simp only [Dividends.distribute, pending, growth, mul_add, mul_comm delta, add_assoc]
    have shared : ∑ k, delta * d.shares k = delta * d.totalShares := by
      rw [← mul_sum, h.total]
    have whole := div_add_mod (delta * d.totalShares) scale
    have set : (d.distribute scale delta).reserved * scale =
        d.reserved * scale + scale * (delta * d.totalShares / scale) := by
      rw [Dividends.distribute, add_mul, mul_comm (_ / scale)]
    have books := h.books
    rw [sum_congr rfl fun k _ => value k, sum_add_distrib, shared, set]
    omega

theorem Balanced.setShares [DecidableEq K] {shares totalShares : Nat} (fresh : d.settled k = d.perShare)
    (moved : totalShares + d.shares k = d.totalShares + shares) :
    Balanced scale (d.setShares k shares totalShares) dropped rounded where
  settled := h.settled
  total := by
    have sums := sum_update_add (fun _ (v : Nat) => v) d.shares shares (mem_univ k)
    have total := h.total
    change ∑ x, update d.shares k shares x = totalShares
    omega
  books := by
    have value : ∀ x, (d.setShares k shares totalShares).pending x = d.pending x := by
      intro x
      by_cases here : x = k
      · subst here
        simp [Dividends.setShares, pending, fresh]
      · simp [Dividends.setShares, pending, here]
    simp only [value]
    exact h.books

theorem Balanced.pay [DecidableEq K] {k : K}
    (enough : d.owed k ≤ d.reserved) : Balanced scale (d.pay k) dropped rounded where
  settled := h.settled
  total := h.total
  books := by
    have value : ∀ x, (d.pay k).owed x * scale + (d.pay k).pending x =
        update (fun x => d.owed x * scale + d.pending x) k (d.pending k) x := by
      intro x
      by_cases here : x = k
      · subst here
        simp [Dividends.pay, pending]
      · simp [Dividends.pay, pending, here]
    have moved := sum_update_add (fun _ (v : Nat) => v) (fun x => d.owed x * scale + d.pending x)
      (d.pending k) (mem_univ k)
    have paid : (d.pay k).reserved * scale + d.owed k * scale = d.reserved * scale := by
      rw [← Nat.add_mul, Dividends.pay, Nat.sub_add_cancel enough]
    have books := h.books
    simp only [value]
    omega

theorem Balanced.forgive [DecidableEq K] (k : K) :
    Balanced scale (d.forgive k) dropped (rounded + d.owed k * scale) where
  settled := h.settled
  total := h.total
  books := by
    have value : ∀ x, (d.forgive k).owed x * scale + (d.forgive k).pending x =
        update (fun x => d.owed x * scale + d.pending x) k (d.pending k) x := by
      intro x
      by_cases here : x = k
      · subst here
        simp [Dividends.forgive, pending]
      · simp [Dividends.forgive, pending, here]
    have moved := sum_update_add (fun _ (v : Nat) => v) (fun x => d.owed x * scale + d.pending x)
      (d.pending k) (mem_univ k)
    have books := h.books
    have reserved : (d.forgive k).reserved = d.reserved := rfl
    simp only [value, reserved]
    omega

theorem Balanced.rebase (delta : Nat) : Balanced scale (d.rebase delta) dropped rounded where
  settled k := Nat.add_le_add_right (h.settled k) delta
  total := h.total
  books := by
    have value : ∀ k, (d.rebase delta).pending k = d.pending k := by
      intro k
      simp only [Dividends.rebase, pending, Nat.add_sub_add_right]
    simp only [value]
    exact h.books

theorem Balanced.reserve_earned :
    (∑ k, d.earned scale k) * scale + (rounded + ∑ k, d.pending k % scale) =
      d.reserved * scale + dropped := by
  have split : ∀ k, d.owed k * scale + d.pending k = d.earned scale k * scale + d.pending k % scale := by
    intro k
    rw [earned, add_mul, add_assoc, mul_comm (d.pending k / scale), div_add_mod]
  have books := h.books
  rw [sum_congr rfl fun k _ => split k, sum_add_distrib, ← sum_mul] at books
  omega

end

/-- What is set aside covers what has been earned, and what was given up before, exactly if
    distributions have dropped no more than the accounts. -/
theorem Balanced.spent_covered_iff (positive : 0 < scale)
    (h : Balanced scale d dropped (rounded + spent * scale)) :
    spent + ∑ k, d.earned scale k ≤ d.reserved ↔ dropped ≤ rounded + ∑ k, d.pending k % scale := by
  have identity := h.reserve_earned
  rw [← Nat.mul_le_mul_right_iff positive, Nat.add_mul]
  omega

theorem Balanced.spent_covered_of_lt
    (h : Balanced scale d dropped (rounded + spent * scale)) (small : dropped < scale) :
    spent + ∑ k, d.earned scale k ≤ d.reserved := by
  have identity := h.reserve_earned
  have bound : (spent + ∑ k, d.earned scale k) * scale < (d.reserved + 1) * scale := by
    rw [add_mul, add_mul d.reserved]
    omega
  exact Nat.lt_succ_iff.mp (Nat.lt_of_mul_lt_mul_right bound)

theorem Balanced.covered_iff (positive : 0 < scale) (h : Balanced scale d dropped rounded) :
    ∑ k, d.earned scale k ≤ d.reserved ↔ dropped ≤ rounded + ∑ k, d.pending k % scale := by
  have none : Balanced scale d dropped (rounded + 0 * scale) := by rwa [zero_mul]
  have covered := none.spent_covered_iff positive
  rwa [zero_add] at covered

theorem Balanced.covered_of_lt (h : Balanced scale d dropped rounded) (small : dropped < scale) :
    ∑ k, d.earned scale k ≤ d.reserved := by
  have none : Balanced scale d dropped (rounded + 0 * scale) := by rwa [zero_mul]
  have covered := none.spent_covered_of_lt small
  rwa [zero_add] at covered

theorem balanced_empty (scale : Nat) :
    Balanced scale (⟨0, fun _ => 0, fun _ => 0, fun _ => 0, 0, 0⟩ : Dividends K) 0 0 where
  settled _ := le_refl 0
  total := by simp
  books := by simp [pending]

end Dividends

end Evm
