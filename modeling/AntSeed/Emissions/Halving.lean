import AntSeed.Emissions.Gate
import Mathlib.Algebra.BigOperators.Intervals

/-! # Emission that halves

The schedule halves after every interval of epochs, whatever the interval is. Its closed form adds up whole
intervals and what is begun of the next one, in checked arithmetic.
-/

namespace AntSeed.Emissions

open Evm
open Finset Nat

/-- `getEpochEmission` with another halving interval. -/
def emissionEvery (interval epoch : Nat) : Nat := initialEmission >>> (epoch / interval)

/-- The loop of `cumulativeEmissionThrough`. -/
def wholeIntervals (interval : Nat) : Nat → Tx ε Nat
  | 0 => pure 0
  | period + 1 => do
    let total ← wholeIntervals interval period
    let emitted ← uint 256 ((initialEmission >>> period) * interval)
    uint 256 (total + emitted)

/-- `cumulativeEmissionThrough` with another halving interval. -/
def emissionThrough (interval epochExclusive : Nat) : Tx ε Nat := do
  let total ← wholeIntervals interval (epochExclusive / interval)
  let emitted ← uint 256 ((initialEmission >>> (epochExclusive / interval)) * (epochExclusive % interval))
  uint 256 (total + emitted)

theorem sum_interval (count : Nat) (within : count ≤ interval) (period : Nat) :
    ∑ k ∈ Finset.range count, emissionEvery interval (interval * period + k) =
      (initialEmission >>> period) * count := by
  have constant : ∀ k ∈ Finset.range count, emissionEvery interval (interval * period + k) =
      initialEmission >>> period := by
    intro k member
    have inside : k < interval := Nat.lt_of_lt_of_le (Finset.mem_range.mp member) within
    rw [emissionEvery, Nat.mul_add_div (Nat.zero_lt_of_lt inside), Nat.div_eq_of_lt inside, Nat.add_zero]
  rw [Finset.sum_congr rfl constant, Finset.sum_const, Finset.card_range, Nat.nsmul_eq_mul, Nat.mul_comm]

theorem uint_sum (a b : Nat) : (do
      let total ← uint 256 a
      let emitted ← uint 256 b
      uint 256 (total + emitted) : Tx ε Nat) = uint 256 (a + b) := by
  by_cases fits : a < 2 ^ 256
  · rw [uint_fits fits]
    exact uint_add_steps a b
  · rw [uint_exceeds fits, uint_exceeds (n := a + b) (by omega)]
    rfl

theorem wholeIntervals_eq (interval periods : Nat) : (wholeIntervals interval periods : Tx ε Nat) =
    uint 256 (∑ e ∈ range (interval * periods), emissionEvery interval e) := by
  induction periods with
  | zero => rfl
  | succ period ih =>
    rw [wholeIntervals, ih, uint_sum, mul_add_one, sum_range_add, sum_interval interval (le_refl _)]

/-- The closed form adds up the schedule, in checked arithmetic. -/
theorem emissionThrough_eq (positive : 0 < interval) (n : Nat) : (emissionThrough interval n : Tx ε Nat) =
    uint 256 (∑ e ∈ range n, emissionEvery interval e) := by
  have split : ∑ e ∈ range n, emissionEvery interval e =
      ∑ e ∈ range (interval * (n / interval) + n % interval), emissionEvery interval e := by
    rw [div_add_mod]
  rw [emissionThrough, wholeIntervals_eq, uint_sum, split, sum_range_add,
    sum_interval _ (mod_lt n positive).le]

/-- What is emitted in all and what is still to come are never more than two first intervals. -/
theorem sum_shifts_le (periods : Nat) :
    ∑ period ∈ range periods, initialEmission >>> period + 2 * (initialEmission >>> periods) ≤
      2 * initialEmission := by
  induction periods with
  | zero => simp
  | succ period ih =>
    have half : 2 * (initialEmission >>> (period + 1)) ≤ initialEmission >>> period := by
      rw [shiftRight_succ]
      omega
    rw [sum_range_succ]
    omega

theorem sum_emissionEvery_le (positive : 0 < interval) (n : Nat) :
    ∑ e ∈ range n, emissionEvery interval e ≤ 2 * initialEmission * interval := by
  have whole : ∀ periods, ∑ e ∈ range (interval * periods), emissionEvery interval e =
      (∑ period ∈ range periods, initialEmission >>> period) * interval := by
    intro periods
    induction periods with
    | zero => simp
    | succ period ih =>
      rw [mul_add_one, sum_range_add, ih, sum_interval interval (le_refl _), sum_range_succ,
        add_mul]
  have begun : n ≤ interval * (n / interval + 1) := (lt_mul_div_succ n positive).le
  refine (sum_le_sum_of_subset (range_subset_range.mpr begun)).trans ?_
  rw [whole]
  have := sum_shifts_le (n / interval + 1)
  exact mul_le_mul_right interval (by omega)

theorem sum_fullPeriods (n : Nat) :
    ∑ e ∈ range (halvingInterval * n), getEpochEmission e = fullPeriodsEmission n := by
  induction n with
  | zero => simp [fullPeriodsEmission]
  | succ n ih =>
    rw [mul_add_one, sum_range_add, ih, fullPeriodsEmission]
    exact congrArg _ (sum_interval halvingInterval (le_refl _) n)

theorem cumulativeEmissionThrough_eq_sum (n : Nat) :
    cumulativeEmissionThrough n = ∑ e ∈ range n, getEpochEmission e := by
  have begun := sum_interval (n % halvingInterval) (mod_lt n (by decide)).le (n / halvingInterval)
  calc cumulativeEmissionThrough n
      = ∑ e ∈ range (halvingInterval * (n / halvingInterval) + n % halvingInterval),
          getEpochEmission e := by
        rw [cumulativeEmissionThrough, sum_range_add, sum_fullPeriods]
        exact congrArg _ begun.symm
    _ = ∑ e ∈ range n, getEpochEmission e := by rw [div_add_mod]

/-- The closed form is the sum of the schedule where that fits its type, and reverts elsewhere. It fits for every
    interval up to a bound, the contract's own included. -/
theorem closed_form_sums_schedule (interval n : Nat) (positive : 0 < interval) :
    (∑ e ∈ range n, emissionEvery interval e < 2 ^ 256 →
      (emissionThrough interval n : Tx GateError Nat) =
        .ok (∑ e ∈ range n, emissionEvery interval e)) ∧
    (2 ^ 256 ≤ ∑ e ∈ range n, emissionEvery interval e →
      (emissionThrough interval n : Tx GateError Nat) = .error .overflow) ∧
    (interval ≤ 2 ^ 172 → ∑ e ∈ range n, emissionEvery interval e < 2 ^ 256) ∧
    (emissionThrough halvingInterval n : Tx GateError Nat) = .ok (cumulativeEmissionThrough n) ∧
    cumulativeEmissionThrough n = ∑ e ∈ range n, getEpochEmission e := by
  have bound : ∀ interval, 0 < interval → interval ≤ 2 ^ 172 →
      ∑ e ∈ range n, emissionEvery interval e < 2 ^ 256 := fun interval positive small =>
    (sum_emissionEvery_le positive n).trans_lt ((mul_le_mul_left _ small).trans_lt (by decide))
  have own := cumulativeEmissionThrough_eq_sum n
  refine ⟨fun fits => ?_, fun exceeds => ?_, bound interval positive, ?_, own⟩
  · rw [emissionThrough_eq positive, uint_fits fits]
  · rw [emissionThrough_eq positive, uint_exceeds (not_lt.mpr exceeds)]
  · rw [emissionThrough_eq (by decide), uint_fits (bound halvingInterval (by decide) (by decide)), own]
    rfl

theorem two_intervals_sum_schedule :
    (emissionThrough 3 7 : Tx GateError Nat) = .ok (∑ e ∈ range 7, emissionEvery 3 e) :=
  (closed_form_sums_schedule 3 7 (by decide)).1 (by decide)

/-- An interval so long that its emission does not fit. -/
theorem long_interval_overflows : ¬ ∀ interval n, 0 < interval → interval < 2 ^ 256 → n < 2 ^ 256 →
    (emissionThrough interval n : Tx GateError Nat) = .ok (∑ e ∈ range n, emissionEvery interval e) := by
  intro sums
  have returned := sums (2 ^ 255) (2 ^ 255) (by decide) (by decide) (by decide)
  have reverts : (emissionThrough (2 ^ 255) (2 ^ 255) : Tx GateError Nat) = .error .overflow := by decide +kernel
  rw [reverts] at returned
  cases returned

end AntSeed.Emissions
