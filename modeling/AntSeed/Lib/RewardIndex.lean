import AntSeed.Lib.Checkpoints
import Mathlib.Algebra.BigOperators.Intervals
import Mathlib.Algebra.BigOperators.Ring.Finset
import Mathlib.Algebra.Order.BigOperators.Group.Finset

/-! # Cumulative indexes

A pair of traces that sum up a rate over epochs, plainly and weighted by the
epoch. The difference of the first between two epochs is the sum of the rates in
between, and with the second also the sum of rates times the epochs left until
some end can be read off.
-/

namespace Evm

open Finset (Ico)
open Trace
open Nat Finset

namespace Trace

/-- What an index gains in an epoch. -/
def rise (t : Trace) (e : Nat) : Nat := t.upperLookupRecent (e + 1) - t.upperLookupRecent e

end Trace

/-- The two indexes are complete below `next`; no rate is above `limit`, and there is none from
    `size` on. -/
structure Indexed (size limit next : Nat) (plain weighted : Trace) : Prop where
  within : plain.Within next
  weightedWithin : weighted.Within next
  rises : ∀ e, plain.upperLookupRecent (e + 1) = plain.upperLookupRecent e + plain.rise e
  weightedRises : ∀ e, weighted.upperLookupRecent (e + 1) =
    weighted.upperLookupRecent e + e * plain.rise e
  limited : ∀ e, plain.rise e ≤ limit
  ended : ∀ e, size ≤ e → plain.rise e = 0

variable {ε : Type} {size limit next : Nat} {plain weighted : Trace}

theorem indexed_empty (size limit next : Nat) : Indexed size limit next .empty .empty where
  within := within_empty next
  weightedWithin := within_empty next
  rises _ := rfl
  weightedRises e := by simp [rise]
  limited _ := zero_le limit
  ended _ _ := rfl

theorem sub_weighted_sum (rate : Nat → Nat) (inside : y ≤ stop) :
    (sub (stop * ∑ e ∈ Ico x y, rate e) (∑ e ∈ Ico x y, e * rate e) : Tx ε Nat) =
      .ok (∑ e ∈ Ico x y, (stop - e) * rate e) := by
  have split : ∑ e ∈ Ico x y, (stop - e) * rate e + ∑ e ∈ Ico x y, e * rate e =
      stop * ∑ e ∈ Ico x y, rate e := by
    rw [← sum_add_distrib, mul_sum]
    refine sum_congr rfl fun e member => ?_
    have before := (mem_Ico.mp member).2
    rw [← Nat.add_mul, Nat.sub_add_cancel (by omega)]
  exact sub_eq_ok.mpr ⟨by omega, by omega⟩

namespace Indexed

variable (h : Indexed size limit next plain weighted)

include h

theorem rise_ahead (beyond : next ≤ e) : plain.rise e = 0 := by
  unfold rise
  rw [lookup_of_within h.within beyond, lookup_of_within h.within (by omega), Nat.sub_self]

theorem lookup_eq_add_sum (order : x ≤ y) :
    plain.upperLookupRecent y = plain.upperLookupRecent x + ∑ e ∈ Ico x y, plain.rise e := by
  induction y, order using le_induction with
  | base => simp
  | succ y order ih => rw [h.rises, ih, sum_Ico_succ_top order, add_assoc]

theorem weighted_eq_add_sum (order : x ≤ y) :
    weighted.upperLookupRecent y = weighted.upperLookupRecent x + ∑ e ∈ Ico x y, e * plain.rise e := by
  induction y, order using le_induction with
  | base => simp
  | succ y order ih => rw [h.weightedRises, ih, sum_Ico_succ_top order, add_assoc]

theorem delta (order : x ≤ y) :
    (sub (plain.upperLookupRecent y) (plain.upperLookupRecent x) : Tx ε Nat) =
      .ok (∑ e ∈ Ico x y, plain.rise e) := by
  have sum := h.lookup_eq_add_sum order
  exact sub_eq_ok.mpr ⟨by omega, by omega⟩

theorem weightedDelta (order : x ≤ y) :
    (sub (weighted.upperLookupRecent y) (weighted.upperLookupRecent x) : Tx ε Nat) =
      .ok (∑ e ∈ Ico x y, e * plain.rise e) := by
  have sum := h.weighted_eq_add_sum order
  exact sub_eq_ok.mpr ⟨by omega, by omega⟩

theorem sum_rise_le (x y : Nat) : ∑ e ∈ Ico x y, plain.rise e ≤ size * limit := by
  calc ∑ e ∈ Ico x y, plain.rise e
      = ∑ e ∈ (Ico x y).filter (· < size), plain.rise e := by
        rw [sum_filter]
        refine sum_congr rfl fun e _ => ?_
        split
        · rfl
        next beyond => exact h.ended e (Nat.le_of_not_lt beyond)
    _ ≤ ∑ e ∈ range size, plain.rise e := by
        refine sum_le_sum_of_subset fun e member => ?_
        exact mem_range.mpr (mem_filter.mp member).2
    _ ≤ size * limit := by
        simpa using sum_le_card_nsmul (range size) plain.rise limit fun e _ => h.limited e

theorem skip : Indexed size limit (next + 1) plain weighted where
  within := h.within.mono (le_succ next)
  weightedWithin := h.weightedWithin.mono (le_succ next)
  rises := h.rises
  weightedRises := h.weightedRises
  limited := h.limited
  ended := h.ended

section

variable (pushed : (plain.push (next + 1) (plain.latest + rate) : Tx ε Trace) = .ok plain')

include pushed

theorem rise_push
    (e : Nat) :
    plain'.rise e = if e = next then rate else plain.rise e := by
  have latest := lookup_of_within h.within (le_refl next)
  unfold rise
  rw [lookup_push pushed, lookup_push pushed]
  rcases lt_trichotomy e next with before | rfl | after
  · rw [if_neg (by omega), if_neg (by omega), if_neg (by omega)]
  · rw [if_pos (le_refl _), if_neg (by omega), if_pos rfl, latest]
    omega
  · rw [if_pos (by omega), if_pos (by omega), if_neg (by omega), Nat.sub_self]
    exact (h.rise_ahead (le_of_lt after)).symm

theorem push
    (weightedPushed : (weighted.push (next + 1) (weighted.latest + rate * next) : Tx ε Trace) =
      .ok weighted')
    (fits : rate ≤ limit) (inside : next < size) :
    Indexed size limit (next + 1) plain' weighted' := by
  have latest := lookup_of_within h.within (le_refl next)
  have weightedLatest := lookup_of_within h.weightedWithin (le_refl next)
  have rise := h.rise_push pushed
  refine ⟨within_push pushed, within_push weightedPushed, ?_, ?_, ?_, ?_⟩
  · intro e
    rw [rise, lookup_push pushed, lookup_push pushed]
    rcases lt_trichotomy e next with before | rfl | after
    · rw [if_neg (by omega), if_neg (by omega), if_neg (by omega)]
      exact h.rises e
    · rw [if_pos (le_refl _), if_neg (by omega), if_pos rfl, latest]
    · rw [if_pos (by omega), if_pos (by omega), if_neg (by omega),
        h.rise_ahead (le_of_lt after), add_zero]
  · intro e
    rw [rise, lookup_push weightedPushed, lookup_push weightedPushed]
    rcases lt_trichotomy e next with before | rfl | after
    · rw [if_neg (by omega), if_neg (by omega), if_neg (by omega)]
      exact h.weightedRises e
    · rw [if_pos (le_refl _), if_neg (by omega), if_pos rfl, weightedLatest, mul_comm]
    · rw [if_pos (by omega), if_pos (by omega), if_neg (by omega),
        h.rise_ahead (le_of_lt after), mul_zero, add_zero]
  · intro e
    rw [rise]
    split
    · exact fits
    · exact h.limited e
  · intro e beyond
    rw [rise, if_neg (by omega)]
    exact h.ended e beyond

end

end Indexed

end Evm
