import AntSeed.Emissions.Bucket
import AntSeed.Emissions.Ledger
import AntSeed.Emissions.UsageRewards
import Mathlib.Data.Fintype.BigOperators

/-! # What usage rewards take from their bucket

The budgets of an epoch are frozen with the first payment, at most the bucket
together. From then on every payment is a fixed part of its side's budget, made
once, and the remainder is what neither side can claim. The bucket has been
charged for exactly the payments made, so there is room for every one still to
come.
-/

namespace AntSeed.Emissions

open Evm Function
open Gate (Bucketed Held Spares Pays Room)
open UsageRewards
open UsageAccounting Meets

/-- Who a reward is for: an agent or a buyer. -/
abbrev Claimant := Word ⊕ Address

/-- The reward of a claimant under the budgets of an epoch. -/
def rewardOf (budgets : FrozenUsageBudgets) (accounting : UsageAccounting) (epoch : Nat) :
    Claimant → Nat
  | .inl agentId => budgets.sellerBudget * accounting.weightedPoolPointsByEpoch epoch agentId /
      accounting.totalWeightedPoolPointsByEpoch epoch
  | .inr buyer => budgets.buyerBudget * accounting.weightedBuyerPointsByEpoch epoch buyer /
      accounting.totalWeightedBuyerPointsByEpoch epoch

/-- What the claimants of an epoch can get together. -/
def allocation (budgets : FrozenUsageBudgets) (accounting : UsageAccounting) (epoch : Nat) : Nat :=
  (if accounting.totalWeightedBuyerPointsByEpoch epoch ≠ 0 then budgets.buyerBudget else 0) +
    if accounting.totalWeightedPoolPointsByEpoch epoch ≠ 0 then budgets.sellerBudget else 0

def UsageRewards.claimed (r : UsageRewards) (epoch : Nat) : Claimant → Bool
  | .inl agentId => r.agentEpochClaimed agentId epoch
  | .inr buyer => r.buyerEpochClaimed buyer epoch

variable {budgets : FrozenUsageBudgets} {accounting accounting' : UsageAccounting}
  {c epoch : Nat} {id : Word} {holder : Address} {g g' : Gate} {r r' : UsageRewards}

theorem side_le (budget : Nat) {K : Type} [Fintype K] {points : K → Nat} {total : Nat}
    (sum : ∑ k, points k = total) :
    ∑ k, budget * points k / total ≤ if total ≠ 0 then budget else 0 := by
  split
  next some => exact sum_share_le _ _ (Nat.pos_of_ne_zero some) (Nat.le_of_eq sum)
  next none =>
    have zero : total = 0 := Decidable.not_not.mp none
    simp [zero]

theorem sum_rewardOf_le (balanced : accounting.Balanced) (budgets : FrozenUsageBudgets) (epoch : Nat) :
    ∑ k, rewardOf budgets accounting epoch k ≤ allocation budgets accounting epoch := by
  rw [Fintype.sum_sum_type, allocation, Nat.add_comm]
  exact Nat.add_le_add (side_le _ (balanced.buyers epoch)) (side_le _ (balanced.sellers epoch))

theorem allocation_le (budgets : FrozenUsageBudgets) (accounting : UsageAccounting) (epoch : Nat) :
    allocation budgets accounting epoch ≤ budgets.buyerBudget + budgets.sellerBudget := by
  unfold allocation
  split <;> split <;> omega

theorem rewardOf_records (records : accounting.Records c accounting') (elapsed : epoch < c) :
    rewardOf budgets accounting' epoch = rewardOf budgets accounting epoch := by
  funext k
  cases k with
  | inl =>
    simp only [rewardOf, weightedPoolPointsByEpoch,
      totalWeightedPoolPointsByEpoch, records.agents epoch elapsed,
      records.totals epoch elapsed]
  | inr =>
    simp only [rewardOf, weightedBuyerPointsByEpoch,
      totalWeightedBuyerPointsByEpoch, records.buyers epoch elapsed,
      records.totals epoch elapsed]

theorem allocation_records (records : accounting.Records c accounting') (elapsed : epoch < c) :
    allocation budgets accounting' epoch = allocation budgets accounting epoch := by
  unfold allocation totalWeightedBuyerPointsByEpoch
    totalWeightedPoolPointsByEpoch
  rw [records.totals epoch elapsed]

/-- What has been sent to the reserve as the remainder of an epoch. -/
def remainder (budget : Nat) (accounting : UsageAccounting) (r : UsageRewards) (epoch : Nat) : Nat :=
  if r.epochRemainderSettled epoch then
    budget - allocation (r.frozenUsageBudgets epoch) accounting epoch
  else 0

noncomputable def payments (budget : Nat) (accounting : UsageAccounting) (r : UsageRewards) (epoch : Nat) : Nat :=
  claimedSum (rewardOf (r.frozenUsageBudgets epoch) accounting epoch) (r.claimed epoch) +
    remainder budget accounting r epoch

structure Committed (c : Nat) (id : Word) (holder : Address) (g : Gate)
    (accounting : UsageAccounting) (r : UsageRewards) : Prop where
  balanced : accounting.Balanced
  bucketed : Bucketed c id holder g
  untouched : ∀ e, (r.frozenUsageBudgets e).frozen = false →
    (∀ k, r.claimed e k = false) ∧ r.epochRemainderSettled e = false
  elapsed : ∀ e, (r.frozenUsageBudgets e).frozen = true → e < c ∧ Held id holder g
  within : ∀ e, (r.frozenUsageBudgets e).frozen = true →
    (r.frozenUsageBudgets e).buyerBudget + (r.frozenUsageBudgets e).sellerBudget ≤
      shareBudget e (g.share id e)
  spent : ∀ e, g.minterEpochMinted id e =
    payments (shareBudget e (g.share id e)) accounting r e

theorem payments_untouched (none : ∀ k, r.claimed epoch k = false)
    (unsettled : r.epochRemainderSettled epoch = false) :
    payments budget accounting r epoch = 0 := by
  simp [payments, claimedSum_none _ none, remainder, unsettled]

theorem Committed.frame (h : Committed c id holder g accounting r) (le : c ≤ c')
    (spares : Spares c id holder g g') (records : accounting.Records c accounting')
    (frozen : r'.frozenUsageBudgets = r.frozenUsageBudgets) (claimed : r'.claimed = r.claimed)
    (settled : r'.epochRemainderSettled = r.epochRemainderSettled) :
    Committed c' id holder g' accounting' r' := by
  refine ⟨records.balanced h.balanced, spares.bucketed.mono le, ?_, ?_, ?_, ?_⟩
  · rw [frozen, claimed, settled]
    exact h.untouched
  · intro e isFrozen
    rw [frozen] at isFrozen
    obtain ⟨before, held⟩ := h.elapsed e isFrozen
    exact ⟨Nat.lt_of_lt_of_le before le, spares.held held⟩
  · intro e isFrozen
    rw [frozen] at isFrozen ⊢
    obtain ⟨before, -⟩ := h.elapsed e isFrozen
    rw [spares.frozen e (Nat.le_of_lt before)]
    exact h.within e isFrozen
  · intro e
    rw [spares.spent, h.spent e]
    cases isFrozen : (r.frozenUsageBudgets e).frozen with
    | true =>
      obtain ⟨before, -⟩ := h.elapsed e isFrozen
      simp only [payments, remainder, frozen, claimed, settled, rewardOf_records records before,
        allocation_records records before, spares.frozen e (Nat.le_of_lt before)]
    | false =>
      obtain ⟨none, unsettled⟩ := h.untouched e isFrozen
      rw [payments_untouched none unsettled,
        payments_untouched (by rw [claimed]; exact none) (by rw [settled]; exact unsettled)]

/-- The budgets of an epoch: those already frozen, or new ones within the bucket. -/
structure Freezes (r : UsageRewards) (bucket epoch : Nat) (budgets : FrozenUsageBudgets) : Prop where
  frozen : budgets.frozen = true
  record : r.frozenUsageBudgets epoch = budgets ∨
    (r.frozenUsageBudgets epoch).frozen = false ∧
      budgets.buyerBudget + budgets.sellerBudget ≤ bucket

/-- The controller with the budgets of an epoch stored. -/
def UsageRewards.freeze (r : UsageRewards) (epoch : Nat) (budgets : FrozenUsageBudgets) :
    UsageRewards :=
  { r with frozenUsageBudgets := update r.frozenUsageBudgets epoch budgets }

theorem Committed.freeze (h : Committed c id holder g accounting r) (elapsed : epoch < c)
    (held : Held id holder g) (freezes : Freezes r (shareBudget epoch (g.share id epoch)) epoch budgets) :
    Committed c id holder g accounting (r.freeze epoch budgets) := by
  rcases freezes.record with already | ⟨notYet, fits⟩
  · have same : r.freeze epoch budgets = r := by
      unfold UsageRewards.freeze
      rw [← already, Function.update_eq_self]
    rw [same]
    exact h
  have entry : ∀ e, (r.freeze epoch budgets).frozenUsageBudgets e =
      if e = epoch then budgets else r.frozenUsageBudgets e :=
    fun e => Function.update_apply _ _ _ _
  refine ⟨h.balanced, h.bucketed, ?_, ?_, ?_, ?_⟩
  · intro e unfrozen
    rw [entry] at unfrozen
    split at unfrozen
    · exact absurd (unfrozen.symm.trans freezes.frozen) Bool.false_ne_true
    · exact h.untouched e unfrozen
  · intro e isFrozen
    rw [entry] at isFrozen
    split at isFrozen
    next here => exact ⟨here ▸ elapsed, held⟩
    · exact h.elapsed e isFrozen
  · intro e isFrozen
    rw [entry] at isFrozen ⊢
    split
    next here =>
      subst here
      exact fits
    next other =>
      rw [if_neg other] at isFrozen
      exact h.within e isFrozen
  · intro e
    rw [h.spent e]
    by_cases here : e = epoch
    · subst here
      obtain ⟨none, unsettled⟩ := h.untouched e notYet
      rw [payments_untouched none unsettled, payments_untouched (r := r.freeze e budgets) none unsettled]
    · have same : (r.freeze epoch budgets).frozenUsageBudgets e = r.frozenUsageBudgets e := by
        rw [entry, if_neg here]
      unfold payments remainder
      rw [same]
      rfl

variable {k : Claimant} {ctx : CallContext} {buyer : Address} {reward : PreparedReward}

section

variable (h : Committed c id holder g accounting r)
  (isFrozen : (r.frozenUsageBudgets epoch).frozen = true)

include h isFrozen

theorem Committed.room_claim
    (first : r.claimed epoch k = false) :
    g.minterEpochMinted id epoch + rewardOf (r.frozenUsageBudgets epoch) accounting epoch k ≤
      shareBudget epoch (g.share id epoch) := by
  have parts := sum_rewardOf_le h.balanced (r.frozenUsageBudgets epoch) epoch
  have claims := claimedSum_le (rewardOf (r.frozenUsageBudgets epoch) accounting epoch)
    (update (r.claimed epoch) k true)
  rw [claimedSum_update _ first] at claims
  have allocated := allocation_le (r.frozenUsageBudgets epoch) accounting epoch
  have within := h.within epoch isFrozen
  rw [h.spent epoch, payments, remainder]
  split <;> omega

theorem Committed.room_remainder
    (first : r.epochRemainderSettled epoch = false) :
    g.minterEpochMinted id epoch + (shareBudget epoch (g.share id epoch) -
        allocation (r.frozenUsageBudgets epoch) accounting epoch) ≤
      shareBudget epoch (g.share id epoch) := by
  have parts := sum_rewardOf_le h.balanced (r.frozenUsageBudgets epoch) epoch
  have claims := claimedSum_le (rewardOf (r.frozenUsageBudgets epoch) accounting epoch) (r.claimed epoch)
  have allocated := allocation_le (r.frozenUsageBudgets epoch) accounting epoch
  have within := h.within epoch isFrozen
  rw [h.spent epoch, payments, remainder, first]
  simp only [Bool.false_eq_true, if_false]
  omega

theorem Committed.pay {amount : Nat}
    (pays : Pays c id holder g g' epoch amount)
    (frozen : r'.frozenUsageBudgets = r.frozenUsageBudgets)
    (claimed : ∀ e, e ≠ epoch → r'.claimed e = r.claimed e)
    (settled : ∀ e, e ≠ epoch → r'.epochRemainderSettled e = r.epochRemainderSettled e)
    (paid : payments (shareBudget epoch (g.share id epoch)) accounting r' epoch =
      payments (shareBudget epoch (g.share id epoch)) accounting r epoch + amount) :
    Committed c id holder g' accounting r' := by
  refine ⟨h.balanced, pays.bucketed, ?_, ?_, ?_, ?_⟩
  · intro e unfrozen
    rw [frozen] at unfrozen
    have other : e ≠ epoch := by
      rintro rfl
      exact absurd (unfrozen.symm.trans isFrozen) Bool.false_ne_true
    rw [claimed e other, settled e other]
    exact h.untouched e unfrozen
  · intro e
    rw [frozen]
    exact fun already => ⟨(h.elapsed e already).1, pays.stays⟩
  · intro e
    rw [frozen, pays.share]
    exact h.within e
  · intro e
    rw [pays.spent, pays.share]
    by_cases here : e = epoch
    · subst here
      rw [update_self, paid, h.spent e]
    · rw [update_of_ne here, h.spent e]
      simp only [payments, remainder, frozen, claimed e here, settled e here]

end

def NotExceeded (reason : Revert RewardsError) : Prop :=
  reason ≠ .custom (.gate .bucketBudgetExceeded)

theorem saturatingShareBps_meets :
    Meets (saturatingShareBps metric minShareBps maxShareBps target) NotExceeded fun _ => True := by
  refine .ite (fun _ => trivial) fun _ => ite (fun _ => trivial) fun _ => ?_
  refine .bind (sub_meets nofun) fun _ _ => ?_
  refine .bind (uint_meets nofun) fun _ _ => ?_
  refine .bind (mulDiv_meets nofun nofun) fun _ _ => ?_
  exact .bind (uint_meets nofun) fun _ _ => trivial

theorem desiredBudget_meets :
    Meets (desiredBudget epochEmission shareBps) NotExceeded fun _ => True := by
  exact .ite (fun _ => trivial) fun _ => (mulDiv_meets nofun nofun).mono fun _ _ => trivial

theorem liveUsageEpochBudgets_meets :
    Meets (r.liveUsageEpochBudgets accounting epoch maxBudget) NotExceeded
      fun budgets => budgets.1 + budgets.2 ≤ maxBudget := by
  refine .bind saturatingShareBps_meets fun buyerShareBps _ => ?_
  refine .bind desiredBudget_meets fun desiredBuyerBudget _ => ?_
  refine .bind saturatingShareBps_meets fun sellerShareBps _ => ?_
  refine .bind desiredBudget_meets fun desiredSellerBudget _ => ?_
  refine .bind (uint_meets nofun) fun desiredTotal isTotal => ?_
  refine .ite (fun fits => ?_) fun exceeds => ?_
  · rw [isTotal.2] at fits
    exact fits
  refine .ite (fun _ => Nat.zero_le _) fun positive => ?_
  refine .bind (mulDiv_meets nofun nofun) fun buyerBudget isBuyers => ?_
  refine .bind (sub_meets nofun) fun sellerBudget isSellers => ?_
  obtain ⟨enough, rfl⟩ := isSellers
  exact .pure (Nat.le_of_eq (Nat.add_sub_cancel' enough))

theorem controllerEpochBudget_meets (h : Bucketed c id holder g) (nonzero : holder ≠ 0) :
    Meets (bubble RewardsError.gate (g.controllerEpochBudget holder epoch)) NotExceeded
      fun bucket => Held id holder g → bucket = shareBudget epoch (g.share id epoch) := by
  rcases h.controllerEpochBudget nonzero epoch with ⟨-, isBudget⟩ | ⟨unheld, isBudget⟩
  · rw [isBudget]
    exact fun _ => rfl
  · rw [isBudget]
    exact fun held => absurd held unheld

theorem freezeUsageEpochBudgetsTo_meets {bucket : Nat} :
    Meets (r.freezeUsageEpochBudgetsTo accounting epoch bucket) NotExceeded fun result =>
      Freezes r bucket epoch ⟨true, result.2.1, result.2.2⟩ ∧
        result.1 = r.freeze epoch ⟨true, result.2.1, result.2.2⟩ := by
  refine .ite (fun already => ?_) fun notYet => ?_
  · have record : r.frozenUsageBudgets epoch = ⟨true, (r.frozenUsageBudgets epoch).buyerBudget,
        (r.frozenUsageBudgets epoch).sellerBudget⟩ := by
      rw [← already]
    refine .pure ⟨⟨rfl, .inl record⟩, ?_⟩
    unfold freeze
    rw [← record, Function.update_eq_self]
  · refine .bind liveUsageEpochBudgets_meets fun budgets fits => ?_
    exact .pure ⟨⟨rfl, .inr ⟨by simpa using notYet, fits⟩⟩, rfl⟩

theorem freezeUsageEpochBudgets_meets (h : Bucketed c id holder g) (nonzero : holder ≠ 0) :
    Meets (r.freezeUsageEpochBudgets g accounting holder epoch) NotExceeded fun result =>
      (Held id holder g → Freezes r (shareBudget epoch (g.share id epoch)) epoch
        ⟨true, result.2.1, result.2.2⟩) ∧
        result.1 = r.freeze epoch ⟨true, result.2.1, result.2.2⟩ := by
  refine .ite (fun already => ?_) fun notYet => ?_
  · have record : r.frozenUsageBudgets epoch = ⟨true, (r.frozenUsageBudgets epoch).buyerBudget,
        (r.frozenUsageBudgets epoch).sellerBudget⟩ := by
      rw [← already]
    refine .pure ⟨fun _ => ⟨rfl, .inl record⟩, ?_⟩
    unfold freeze
    rw [← record, Function.update_eq_self]
  · refine .bind (controllerEpochBudget_meets h nonzero) fun bucket isBucket => ?_
    refine freezeUsageEpochBudgetsTo_meets.mono fun result ⟨freezes, same⟩ => ⟨fun held => ?_, same⟩
    rw [← isBucket held]
    exact freezes

theorem rewardAmounts_meets :
    Meets (rewardAmounts epochBudget weightedPoints totalWeightedPoints) NotExceeded
      fun amounts => amounts.1 = epochBudget * weightedPoints / totalWeightedPoints ∧
        amounts.2.1 + amounts.2.2 = amounts.1 ∧ amounts.1 ≠ 0 := by
  apply check nofun
  refine .bind (uint_meets nofun) fun scaled isScaled => ?_
  refine .bind (div_meets nofun) fun grossAmount isGross => ?_
  apply require nofun
  intro some
  refine .bind (uint_meets nofun) fun scaledCap _ => ?_
  refine .bind (sub_meets nofun) fun reserveAmount isReserve => ?_
  apply check nofun
  obtain ⟨-, rfl⟩ := isScaled
  obtain ⟨enough, rfl⟩ := isReserve
  exact .pure ⟨isGross.2, Nat.add_sub_cancel' enough, some⟩

/-- Frozen budgets and marks of claims stay. -/
structure Extends (r r' : UsageRewards) : Prop where
  frozen : ∀ e, (r.frozenUsageBudgets e).frozen = true →
    r'.frozenUsageBudgets e = r.frozenUsageBudgets e
  claimed : ∀ e k, r.claimed e k = true → r'.claimed e k = true

theorem Extends.of_same (frozen : r'.frozenUsageBudgets = r.frozenUsageBudgets)
    (claimed : r'.claimed = r.claimed) : Extends r r' :=
  ⟨fun e _ => by rw [frozen], fun e k already => by rw [claimed]; exact already⟩

theorem Extends.trans {r'' : UsageRewards} (first : Extends r r') (second : Extends r' r'') :
    Extends r r'' := by
  refine ⟨fun e already => ?_, fun e k already => second.claimed e k (first.claimed e k already)⟩
  have same := first.frozen e already
  rw [second.frozen e (by rw [same]; exact already), same]

theorem extends_freeze (freezes : Freezes r c epoch budgets) : Extends r (r.freeze epoch budgets) := by
  refine ⟨fun e already => ?_, fun e k claimed => claimed⟩
  by_cases here : e = epoch
  · subst here
    rcases freezes.record with same | ⟨notYet, -⟩
    · exact (update_self _ _ _).trans same.symm
    · exact absurd (notYet.symm.trans already) Bool.false_ne_true
  · exact update_of_ne here _ _

/-- A claim that has been checked and marked, and is still to be paid. -/
structure Prepared (id : Word) (holder : Address) (g : Gate) (accounting : UsageAccounting)
    (r r' : UsageRewards) (k : Claimant) (epoch : Nat) (reward : PreparedReward)
    (budgets : FrozenUsageBudgets) : Prop where
  first : r.claimed epoch k = false
  isFrozen : budgets.frozen = true
  freezes : Held id holder g → Freezes r (shareBudget epoch (g.share id epoch)) epoch budgets
  frozen : r'.frozenUsageBudgets = (r.freeze epoch budgets).frozenUsageBudgets
  claimed : r'.claimed epoch = update (r.claimed epoch) k true
  others : ∀ e, e ≠ epoch → r'.claimed e = r.claimed e
  settled : r'.epochRemainderSettled = r.epochRemainderSettled
  gross : reward.claimableAmount + reward.reserveAmount = rewardOf budgets accounting epoch k
  some : reward.claimableAmount + reward.reserveAmount ≠ 0

theorem claimed_agent (id : Word) (epoch : Nat) (r r' : UsageRewards)
    (claimed : r'.agentEpochClaimed = update r.agentEpochClaimed id
      (update (r.agentEpochClaimed id) epoch true))
    (buyers : r'.buyerEpochClaimed = r.buyerEpochClaimed) (e : Nat) :
    r'.claimed e = if e = epoch then update (r.claimed e) (.inl id) true else r.claimed e := by
  funext k
  cases k with
  | inl agentId =>
    by_cases here : agentId = id
    · subst here
      by_cases isThat : e = epoch <;> simp [UsageRewards.claimed, claimed, isThat]
    · by_cases isThat : e = epoch <;> simp [UsageRewards.claimed, claimed, isThat, here]
  | inr => by_cases isThat : e = epoch <;> simp [UsageRewards.claimed, buyers, isThat]

theorem claimed_buyer (holder : Address) (epoch : Nat) (r r' : UsageRewards)
    (claimed : r'.buyerEpochClaimed = update r.buyerEpochClaimed holder
      (update (r.buyerEpochClaimed holder) epoch true))
    (agents : r'.agentEpochClaimed = r.agentEpochClaimed) (e : Nat) :
    r'.claimed e = if e = epoch then update (r.claimed e) (.inr holder) true else r.claimed e := by
  funext k
  cases k with
  | inl => by_cases isThat : e = epoch <;> simp [UsageRewards.claimed, agents, isThat]
  | inr buyer =>
    by_cases here : buyer = holder
    · subst here
      by_cases isThat : e = epoch <;> simp [UsageRewards.claimed, claimed, isThat]
    · by_cases isThat : e = epoch <;> simp [UsageRewards.claimed, claimed, isThat, here]

theorem agentOwner_meets :
    Meets (agentOwner ctx agentId) NotExceeded fun _ => True := by
  refine .bind (answer_meets nofun) fun _ _ => ?_
  apply require nofun
  exact fun _ => trivial

theorem buyerRewardRecipient_meets :
    Meets (r.buyerRewardRecipient ctx buyer) NotExceeded fun _ => True := by
  apply check nofun
  refine .bind (answer_meets nofun) fun _ _ => ?_
  apply require nofun
  exact fun _ => trivial

section

variable (h : Bucketed c id ctx.addresses.usageRewards g) (nonzero : ctx.addresses.usageRewards ≠ 0)

include h nonzero

theorem prepareAgentReward_meets :
    Meets (r.prepareAgentReward g accounting ctx agentId epoch claimant) NotExceeded
      fun result => ∃ budgets, Prepared id ctx.addresses.usageRewards g accounting r result.1
        (.inl agentId) epoch result.2 budgets := by
  apply check nofun
  apply require nofun
  intro first
  refine .bind (freezeUsageEpochBudgets_meets h nonzero)
    fun ⟨frozen, buyerBudget, sellerBudget⟩ ⟨freezes, isFreeze⟩ => ?_
  refine .bind rewardAmounts_meets fun ⟨gross, claimable, reserve⟩ ⟨isGross, split, nonzeroGross⟩ => ?_
  refine .bind agentOwner_meets fun recipient _ => ?_
  apply check nofun
  dsimp only at isFreeze isGross split nonzeroGross freezes ⊢
  subst isFreeze
  have marks := claimed_agent agentId epoch r
    { r.freeze epoch ⟨true, buyerBudget, sellerBudget⟩ with
      agentEpochClaimed := update r.agentEpochClaimed agentId
        (update (r.agentEpochClaimed agentId) epoch true) } rfl rfl
  refine .pure ⟨⟨true, buyerBudget, sellerBudget⟩, first, rfl, freezes, rfl, ?_, ?_, rfl, ?_, ?_⟩
  · exact (marks epoch).trans (if_pos rfl)
  · exact fun e other => (marks e).trans (if_neg other)
  · exact split.trans isGross
  · exact fun zero => nonzeroGross (split.symm.trans zero)

theorem prepareBuyerReward_meets :
    Meets (r.prepareBuyerReward g accounting ctx buyer epoch) NotExceeded
      fun result => ∃ budgets, Prepared id ctx.addresses.usageRewards g accounting r result.1
        (.inr buyer) epoch result.2 budgets := by
  apply check nofun
  apply require nofun
  intro first
  refine .bind (freezeUsageEpochBudgets_meets h nonzero)
    fun ⟨frozen, buyerBudget, sellerBudget⟩ ⟨freezes, isFreeze⟩ => ?_
  refine .bind rewardAmounts_meets fun ⟨gross, claimable, reserve⟩ ⟨isGross, split, nonzeroGross⟩ => ?_
  refine .bind buyerRewardRecipient_meets fun recipient _ => ?_
  apply check nofun
  dsimp only at isFreeze isGross split nonzeroGross freezes ⊢
  subst isFreeze
  have marks := claimed_buyer buyer epoch r
    { r.freeze epoch ⟨true, buyerBudget, sellerBudget⟩ with
      buyerEpochClaimed := update r.buyerEpochClaimed buyer
        (update (r.buyerEpochClaimed buyer) epoch true) } rfl rfl
  refine .pure ⟨⟨true, buyerBudget, sellerBudget⟩, first, rfl, freezes, rfl, ?_, ?_, rfl, ?_, ?_⟩
  · exact (marks epoch).trans (if_pos rfl)
  · exact fun e other => (marks e).trans (if_neg other)
  · exact split.trans isGross
  · exact fun zero => nonzeroGross (split.symm.trans zero)

end

theorem Prepared.room (prepared : Prepared id holder g accounting r r' k epoch reward budgets)
    (h : Committed c id holder g accounting r) :
    Room c id holder g epoch (reward.claimableAmount + reward.reserveAmount) := by
  intro elapsed held
  have here : (r.freeze epoch budgets).frozenUsageBudgets epoch = budgets := update_self _ _ _
  have room := (h.freeze elapsed held (prepared.freezes held)).room_claim
    (by rw [here]; exact prepared.isFrozen) (k := k) prepared.first
  rw [here] at room
  rw [prepared.gross]
  exact room

structure PaidOnce (c : Nat) (id : Word) (holder : Address) (g g' : Gate)
    (accounting : UsageAccounting) (r r' : UsageRewards) (k : Claimant) (epoch : Nat) : Prop where
  committed : Committed c id holder g' accounting r'
  grows : Extends r r'
  first : r.claimed epoch k = false
  marked : r'.claimed epoch k = true
  frozen : (r'.frozenUsageBudgets epoch).frozen = true
  spent : g'.minterEpochMinted id epoch = g.minterEpochMinted id epoch +
    rewardOf (r'.frozenUsageBudgets epoch) accounting epoch k

theorem Prepared.paid (prepared : Prepared id holder g accounting r r' k epoch reward budgets)
    (h : Committed c id holder g accounting r)
    (pays : Pays c id holder g g' epoch (reward.claimableAmount + reward.reserveAmount)) :
    PaidOnce c id holder g g' accounting r r' k epoch := by
  have freezes := prepared.freezes pays.held
  have frozen := h.freeze pays.finalized pays.held freezes
  have here : (r.freeze epoch budgets).frozenUsageBudgets epoch = budgets := update_self _ _ _
  have here' : r'.frozenUsageBudgets epoch = budgets := by rw [prepared.frozen, here]
  refine ⟨?_, ?_, prepared.first, ?_, ?_, ?_⟩
  · refine frozen.pay (by rw [here]; exact prepared.isFrozen) pays prepared.frozen prepared.others
      (fun e _ => by rw [prepared.settled]; rfl) ?_
    have sum := claimedSum_update (rewardOf budgets accounting epoch) prepared.first
    simp only [payments, remainder, here, here', prepared.claimed, prepared.settled, prepared.gross, sum]
    exact Nat.add_right_comm _ _ _
  · have grows := extends_freeze freezes
    refine ⟨fun e already => by rw [prepared.frozen]; exact grows.frozen e already, fun e q already => ?_⟩
    by_cases isThat : e = epoch
    · subst isThat
      rw [prepared.claimed]
      by_cases same : q = k
      · rw [same, update_self]
      · rw [update_of_ne same]
        exact already
    · rw [prepared.others e isThat]
      exact already
  · rw [prepared.claimed, update_self]
  · rw [here']
    exact prepared.isFrozen
  · rw [here', pays.spent, update_self, prepared.gross]

end AntSeed.Emissions
