import Mathlib.Algebra.Order.Ring.Nat

/-! # Plans for one-off channels

A channel for one request opens with what a first reserve may hold. A price above that
needs a top-up, and the contract wants a share of the first reserve settled before it.
-/

namespace AntSeed.Protocol

/-- The amounts are texts in the message; here they are the numbers these texts write. -/
structure OneOffChannelPlan where
  openingReserveAmount : Nat
  /-- settled by the top-up; zero if there is none -/
  requiredCumulativeAmount : Nat
  requestCost : Nat
  deriving DecidableEq, Repr

def computeOneOffChannelPlan (requestCost firstSignCap thresholdBps : Nat) : OneOffChannelPlan :=
  let openingReserveAmount := if requestCost < firstSignCap then requestCost else firstSignCap
  { openingReserveAmount
    requiredCumulativeAmount :=
      if openingReserveAmount < requestCost then (openingReserveAmount * thresholdBps + 9999) / 10000
      else 0
    requestCost }

variable {price cap bps : Nat}

theorem opening_eq_min : (computeOneOffChannelPlan price cap bps).openingReserveAmount = min price cap := by
  dsimp only [computeOneOffChannelPlan]
  split <;> omega

theorem required_eq : (computeOneOffChannelPlan price cap bps).requiredCumulativeAmount
    = if cap < price then (cap * bps + 9999) / 10000 else 0 := by
  have opening := @opening_eq_min price cap bps
  dsimp only [computeOneOffChannelPlan] at opening ⊢
  rw [opening]
  by_cases above : cap < price
  · rw [if_pos above, min_eq_right (Nat.le_of_lt above), if_pos above]
  · rw [if_neg above, min_eq_left (not_lt.mp above), if_neg (lt_irrefl price)]

theorem required_pos_iff (someCap : 0 < cap) (someShare : 0 < bps) :
    0 < (computeOneOffChannelPlan price cap bps).requiredCumulativeAmount ↔ cap < price := by
  have product := Nat.mul_pos someCap someShare
  rw [required_eq]
  split <;> omega

theorem required_le_opening (share : bps ≤ 10000) :
    (computeOneOffChannelPlan price cap bps).requiredCumulativeAmount
      ≤ (computeOneOffChannelPlan price cap bps).openingReserveAmount := by
  have most := Nat.mul_le_mul_left cap share
  rw [required_eq, opening_eq_min]
  split <;> omega

theorem threshold_le_required (above : cap < price) :
    cap * bps / 10000 ≤ (computeOneOffChannelPlan price cap bps).requiredCumulativeAmount := by
  rw [required_eq, if_pos above]
  omega

end AntSeed.Protocol
