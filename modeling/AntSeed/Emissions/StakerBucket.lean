import AntSeed.Emissions.UsageRuns

/-! # The bucket of the staker rewards

The budget of an epoch is frozen with the first pool that is settled, or with the
remainder, whichever comes first. The pools share it in proportion to their
weighted usage, each of them once, and the remainder is the rest of the bucket;
without weighted usage that is the whole bucket, and then no pool gets anything.
So the bucket always has room for what is still to be settled.
-/

namespace AntSeed.Emissions

open Evm Function
open Gate (Bucketed Held Spares Pays Room)
open Pools (SellerPools)

namespace SellerPoolsRewards

def poolShare (budget : Nat) (accounting : UsageAccounting) (epoch : Nat) (agentId : Word) : Nat :=
  budget * accounting.weightedPoolPointsByEpoch epoch agentId /
    accounting.totalWeightedPoolPointsByEpoch epoch

/-- What the pools of an epoch can get together, once it is frozen. -/
def allocation (r : SellerPoolsRewards) (accounting : UsageAccounting) (epoch : Nat) : Nat :=
  if accounting.totalWeightedPoolPointsByEpoch epoch = 0 then 0 else r.frozenStakerBudgets epoch - 1

/-- What has been sent to the reserve as the remainder of an epoch. -/
def remainder (budget : Nat) (accounting : UsageAccounting) (r : SellerPoolsRewards) (epoch : Nat) :
    Nat :=
  if r.epochRemainderSettled epoch then budget - r.allocation accounting epoch else 0

noncomputable def payments (budget : Nat) (accounting : UsageAccounting) (r : SellerPoolsRewards)
    (epoch : Nat) : Nat :=
  ∑ a, (r.poolEpochEmissions epoch a).amount + remainder budget accounting r epoch

/-- The bucket in epoch `c`. -/
structure Pledged (c : Nat) (id : Word) (holder : Address) (g : Gate) (accounting : UsageAccounting)
    (r : SellerPoolsRewards) : Prop where
  balanced : accounting.Balanced
  bucketed : Bucketed c id holder g
  frozen : ∀ e, r.frozenStakerBudgets e ≠ 0 →
    e < c ∧ r.frozenStakerBudgets e - 1 ≤ shareBudget e (g.share id e)
  settled : ∀ e a, (r.poolEpochEmissions e a).settled = true → r.frozenStakerBudgets e ≠ 0
  emission : ∀ e a, (r.poolEpochEmissions e a).amount =
    if (r.poolEpochEmissions e a).settled then
      poolShare (r.frozenStakerBudgets e - 1) accounting e a else 0
  remained : ∀ e, r.epochRemainderSettled e = true → e < c ∧
    (accounting.totalWeightedPoolPointsByEpoch e ≠ 0 → r.frozenStakerBudgets e ≠ 0)
  held : ∀ e, 0 < g.minterEpochMinted id e → Held id holder g
  spent : ∀ e, g.minterEpochMinted id e = payments (shareBudget e (g.share id e)) accounting r e

/-- Settled emissions and frozen budgets stay. -/
structure Extends (r r' : SellerPoolsRewards) : Prop where
  settled : ∀ e a, (r.poolEpochEmissions e a).settled = true →
    r'.poolEpochEmissions e a = r.poolEpochEmissions e a
  frozen : ∀ e, r.frozenStakerBudgets e ≠ 0 → r'.frozenStakerBudgets e = r.frozenStakerBudgets e
  remained : ∀ e, r.epochRemainderSettled e = true → r'.epochRemainderSettled e = true

/-- The records of settlements are the same. -/
structure Alike (r r' : SellerPoolsRewards) : Prop where
  frozen : r'.frozenStakerBudgets = r.frozenStakerBudgets
  emissions : r'.poolEpochEmissions = r.poolEpochEmissions
  settled : r'.epochRemainderSettled = r.epochRemainderSettled

variable {c epoch : Nat} {id agentId : Word} {holder : Address} {g g' : Gate}
  {accounting accounting' : UsageAccounting} {r r' r'' : SellerPoolsRewards}

theorem Extends.refl (r : SellerPoolsRewards) : Extends r r :=
  ⟨fun _ _ _ => rfl, fun _ _ => rfl, fun _ settled => settled⟩

theorem Extends.trans (first : Extends r r') (second : Extends r' r'') : Extends r r'' := by
  refine ⟨fun e a settled => ?_, fun e frozen => ?_, fun e settled => ?_⟩
  · have here := first.settled e a settled
    exact (second.settled e a (by rw [here, settled])).trans here
  · have here := first.frozen e frozen
    exact (second.frozen e (by rw [here]; exact frozen)).trans here
  · exact second.remained e (first.remained e settled)

theorem Alike.refl (r : SellerPoolsRewards) : Alike r r := ⟨rfl, rfl, rfl⟩

theorem Alike.extends (alike : Alike r r') : Extends r r' := by
  refine ⟨fun e a _ => ?_, fun e _ => ?_, fun e already => ?_⟩
  · rw [alike.emissions]
  · rw [alike.frozen]
  · rw [alike.settled]
    exact already

theorem poolShare_records (records : accounting.Records c accounting') (elapsed : epoch < c)
    (budget : Nat) : poolShare budget accounting' epoch = poolShare budget accounting epoch := by
  funext a
  simp only [poolShare, UsageAccounting.weightedPoolPointsByEpoch,
    UsageAccounting.totalWeightedPoolPointsByEpoch, records.agents epoch elapsed,
    records.totals epoch elapsed]

namespace Pledged

section

variable (h : Pledged c id holder g accounting r)

include h

theorem emissions_le (e : Nat) : ∑ a, (r.poolEpochEmissions e a).amount ≤ r.allocation accounting e := by
  calc ∑ a, (r.poolEpochEmissions e a).amount
      ≤ ∑ a, poolShare (r.frozenStakerBudgets e - 1) accounting e a := by
        refine Finset.sum_le_sum fun a _ => ?_
        rw [h.emission]
        split
        · exact Nat.le_refl _
        · exact Nat.zero_le _
    _ ≤ if accounting.totalWeightedPoolPointsByEpoch e ≠ 0 then r.frozenStakerBudgets e - 1 else 0 :=
        side_le _ (h.balanced.sellers e)
    _ = r.allocation accounting e := by
        unfold allocation
        split <;> simp_all

theorem emissions_add_le (first : (r.poolEpochEmissions e a).settled = false) :
    ∑ b, (r.poolEpochEmissions e b).amount + poolShare (r.frozenStakerBudgets e - 1) accounting e a ≤
      r.allocation accounting e := by
  have none : (r.poolEpochEmissions e a).amount = 0 := by
    rw [h.emission, first]
    rfl
  calc ∑ b, (r.poolEpochEmissions e b).amount + poolShare (r.frozenStakerBudgets e - 1) accounting e a
      = ∑ b, update (fun b => (r.poolEpochEmissions e b).amount) a
          (poolShare (r.frozenStakerBudgets e - 1) accounting e a) b := by
        have moved := sum_update_add (fun _ (n : Nat) => n) (fun b => (r.poolEpochEmissions e b).amount)
          (poolShare (r.frozenStakerBudgets e - 1) accounting e a) (Finset.mem_univ a)
        omega
    _ ≤ ∑ b, poolShare (r.frozenStakerBudgets e - 1) accounting e b := by
        refine Finset.sum_le_sum fun b _ => ?_
        by_cases here : b = a
        · subst here
          rw [update_self]
        · rw [update_of_ne here, h.emission]
          split
          · exact Nat.le_refl _
          · exact Nat.zero_le _
    _ ≤ if accounting.totalWeightedPoolPointsByEpoch e ≠ 0 then r.frozenStakerBudgets e - 1 else 0 :=
        side_le _ (h.balanced.sellers e)
    _ = r.allocation accounting e := by
        unfold allocation
        split <;> simp_all

theorem unsettled {e : Nat}
    (notYet : r.frozenStakerBudgets e = 0) (a : Word) : (r.poolEpochEmissions e a).settled = false := by
  cases isSettled : (r.poolEpochEmissions e a).settled with
  | false => rfl
  | true => exact absurd notYet (h.settled e a isSettled)

theorem unremained (still : ¬ e < c) : r.epochRemainderSettled e = false := by
  cases isSettled : r.epochRemainderSettled e with
  | false => rfl
  | true => exact absurd (h.remained e isSettled).1 still

theorem payments_open (still : ¬ e < c)
    (budget : Nat) : payments budget accounting r e = 0 := by
  have notYet : r.frozenStakerBudgets e = 0 := by
    by_contra isFrozen
    exact still (h.frozen e isFrozen).1
  have none : ∀ a, (r.poolEpochEmissions e a).amount = 0 := by
    intro a
    rw [h.emission, h.unsettled notYet]
    rfl
  simp [payments, remainder, none, h.unremained still]

theorem frame (le : c ≤ c')
    (spares : Spares c id holder g g') (records : accounting.Records c accounting')
    (alike : Alike r r') : Pledged c' id holder g' accounting' r' := by
  obtain ⟨frozen, emissions, settled⟩ := alike
  have totals : ∀ e, e < c → accounting'.totalWeightedPoolPointsByEpoch e =
      accounting.totalWeightedPoolPointsByEpoch e := by
    intro e elapsed
    unfold UsageAccounting.totalWeightedPoolPointsByEpoch
    rw [records.totals e elapsed]
  refine ⟨records.balanced h.balanced, spares.bucketed.mono le, ?_, ?_, ?_, ?_, ?_, ?_⟩
  · intro e isFrozen
    rw [frozen] at isFrozen ⊢
    obtain ⟨elapsed, within⟩ := h.frozen e isFrozen
    rw [spares.frozen e (Nat.le_of_lt elapsed)]
    exact ⟨Nat.lt_of_lt_of_le elapsed le, within⟩
  · rw [frozen, emissions]
    exact h.settled
  · intro e a
    rw [frozen, emissions, h.emission]
    cases isSettled : (r.poolEpochEmissions e a).settled with
    | false => rfl
    | true =>
      have elapsed := (h.frozen e (h.settled e a isSettled)).1
      rw [poolShare_records records elapsed]
  · intro e isSettled
    rw [settled] at isSettled
    obtain ⟨elapsed, some⟩ := h.remained e isSettled
    rw [totals e elapsed, frozen]
    exact ⟨Nat.lt_of_lt_of_le elapsed le, some⟩
  · intro e some
    rw [spares.spent] at some
    exact spares.held (h.held e some)
  · intro e
    rw [spares.spent, h.spent e]
    by_cases elapsed : e < c
    · simp only [payments, remainder, allocation, totals e elapsed, frozen, emissions, settled,
        spares.frozen e (Nat.le_of_lt elapsed)]
    · have same : payments (shareBudget e (g'.share id e)) accounting' r' e =
          payments (shareBudget e (g'.share id e)) accounting r e := by
        simp only [payments, remainder, emissions, settled, h.unremained elapsed]
        rfl
      rw [same, h.payments_open elapsed, h.payments_open elapsed]

end

end Pledged

/-- The budget of an epoch: the one already frozen, or a new one within the bucket. -/
def Freezes (r : SellerPoolsRewards) (bucket epoch budget : Nat) : Prop :=
  r.frozenStakerBudgets epoch = budget + 1 ∨ r.frozenStakerBudgets epoch = 0 ∧ budget ≤ bucket

/-- The controller with the budget of an epoch stored. -/
def freeze (r : SellerPoolsRewards) (epoch budget : Nat) : SellerPoolsRewards :=
  { r with frozenStakerBudgets := update r.frozenStakerBudgets epoch (budget + 1) }

variable {bucket budget : Nat}

@[simp] theorem freeze_here : (r.freeze epoch budget).frozenStakerBudgets epoch = budget + 1 :=
  update_self _ _ _

theorem freeze_elsewhere (other : e ≠ epoch) :
    (r.freeze epoch budget).frozenStakerBudgets e = r.frozenStakerBudgets e :=
  update_of_ne other _ _

theorem freeze_same (already : r.frozenStakerBudgets epoch = budget + 1) :
    r.freeze epoch budget = r := by
  unfold freeze
  rw [← already, Function.update_eq_self]

theorem extends_freeze (freezes : Freezes r bucket epoch budget) : Extends r (r.freeze epoch budget) := by
  refine ⟨fun _ _ _ => rfl, fun e isFrozen => ?_, fun _ settled => settled⟩
  by_cases here : e = epoch
  · subst here
    rcases freezes with already | ⟨notYet, -⟩
    · rw [freeze_here, already]
    · exact absurd notYet isFrozen
  · exact freeze_elsewhere here

theorem Pledged.freeze (h : Pledged c id holder g accounting r) (elapsed : epoch < c)
    (freezes : Freezes r (shareBudget epoch (g.share id epoch)) epoch budget) :
    Pledged c id holder g accounting (r.freeze epoch budget) := by
  rcases freezes with already | ⟨notYet, fits⟩
  · rw [freeze_same already]
    exact h
  refine ⟨h.balanced, h.bucketed, ?_, ?_, ?_, ?_, h.held, ?_⟩
  · intro e isFrozen
    by_cases here : e = epoch
    · subst here
      rw [freeze_here]
      exact ⟨elapsed, fits⟩
    · rw [freeze_elsewhere here] at isFrozen ⊢
      exact h.frozen e isFrozen
  · intro e a isSettled
    have other : e ≠ epoch := by
      rintro rfl
      exact h.settled e a isSettled notYet
    rw [freeze_elsewhere other]
    exact h.settled e a isSettled
  · intro e a
    refine (h.emission e a).trans ?_
    cases isSettled : (r.poolEpochEmissions e a).settled with
    | false => simp [SellerPoolsRewards.freeze, isSettled]
    | true =>
      have other : e ≠ epoch := by
        rintro rfl
        exact h.settled e a isSettled notYet
      rw [freeze_elsewhere other]
      simp [SellerPoolsRewards.freeze, isSettled]
  · intro e isSettled
    refine ⟨(h.remained e isSettled).1, fun some => ?_⟩
    by_cases here : e = epoch
    · subst here
      simp
    · rw [freeze_elsewhere here]
      exact (h.remained e isSettled).2 some
  · intro e
    rw [h.spent e]
    by_cases here : e = epoch
    · subst here
      -- a remainder can have been settled only if there is nothing to allocate
      cases isSettled : r.epochRemainderSettled e with
      | false => simp [payments, remainder, SellerPoolsRewards.freeze, isSettled]
      | true =>
        have none : accounting.totalWeightedPoolPointsByEpoch e = 0 := by
          by_contra some
          exact (h.remained e isSettled).2 some notYet
        simp [payments, remainder, allocation, SellerPoolsRewards.freeze, none]
    · simp only [payments, remainder, allocation, freeze_elsewhere here]
      rfl

structure Draws (c : Nat) (id : Word) (holder : Address) (g g' : Gate) (epoch amount : Nat) :
    Prop where
  bucketed : Bucketed c id holder g'
  stays : Held id holder g → Held id holder g'
  held : amount ≠ 0 → Held id holder g
  share : ∀ e, g'.share id e = g.share id e
  spent : g'.minterEpochMinted id =
    update (g.minterEpochMinted id) epoch (g.minterEpochMinted id epoch + amount)

variable {amount : Nat}

theorem draws_of_pays (pays : Pays c id holder g g' epoch amount) :
    Draws c id holder g g' epoch amount :=
  ⟨pays.bucketed, fun _ => pays.stays, fun _ => pays.held, pays.share, pays.spent⟩

theorem draws_nothing (h : Bucketed c id holder g) : Draws c id holder g g epoch 0 :=
  ⟨h, fun held => held, fun some => absurd rfl some, fun _ => rfl, (Function.update_eq_self _ _).symm⟩

theorem Draws.held_of_spent (draws : Draws c id holder g g' epoch amount)
    (h : ∀ e, 0 < g.minterEpochMinted id e → Held id holder g) (e : Nat)
    (some : 0 < g'.minterEpochMinted id e) : Held id holder g' := by
  apply draws.stays
  rw [draws.spent] at some
  by_cases here : e = epoch
  · subst here
    rw [update_self] at some
    by_cases already : 0 < g.minterEpochMinted id e
    · exact h e already
    · exact draws.held (by omega)
  · rw [update_of_ne here] at some
    exact h e some

/-- The emission of a pool, recorded. -/
def record (r : SellerPoolsRewards) (epoch : Nat) (agentId : Word) (amount : Nat) :
    SellerPoolsRewards :=
  { r with
    poolEpochEmissions := update r.poolEpochEmissions epoch
      (update (r.poolEpochEmissions epoch) agentId ⟨true, amount⟩) }

theorem record_apply (e : Nat) (a : Word) :
    (r.record epoch agentId amount).poolEpochEmissions e a =
      if e = epoch ∧ a = agentId then ⟨true, amount⟩ else r.poolEpochEmissions e a := by
  simp only [record, Function.update_apply]
  split_ifs <;> simp_all

theorem extends_record (first : (r.poolEpochEmissions epoch agentId).settled = false) :
    Extends r (r.record epoch agentId amount) := by
  refine ⟨fun e a already => ?_, fun _ _ => rfl, fun _ settled => settled⟩
  rw [record_apply, if_neg]
  rintro ⟨rfl, rfl⟩
  exact absurd (first.symm.trans already) Bool.false_ne_true

section

variable (h : Pledged c id holder g accounting r) (isFrozen : r.frozenStakerBudgets epoch ≠ 0)
  (first : (r.poolEpochEmissions epoch agentId).settled = false)

include h isFrozen first

theorem Pledged.settle
    (isShare : amount = poolShare (r.frozenStakerBudgets epoch - 1) accounting epoch agentId)
    (draws : Draws c id holder g g' epoch amount) :
    Pledged c id holder g' accounting (r.record epoch agentId amount) := by
  have none : (r.poolEpochEmissions epoch agentId).amount = 0 := by
    rw [h.emission, first]
    rfl
  refine ⟨h.balanced, draws.bucketed, ?_, ?_, ?_, h.remained, draws.held_of_spent h.held, ?_⟩
  · intro e already
    rw [draws.share]
    exact h.frozen e already
  · intro e a
    rw [record_apply]
    split
    next here => exact fun _ => here.1 ▸ isFrozen
    · exact h.settled e a
  · intro e a
    rw [record_apply]
    split
    next here =>
      obtain ⟨rfl, rfl⟩ := here
      exact isShare
    · exact h.emission e a
  · intro e
    rw [draws.spent, draws.share]
    by_cases here : e = epoch
    · subst here
      have sum : ∑ a, ((r.record e agentId amount).poolEpochEmissions e a).amount =
          ∑ a, (r.poolEpochEmissions e a).amount + amount := by
        have moved := sum_update_add (fun _ (n : PoolEpochEmission) => n.amount)
          (r.poolEpochEmissions e) ⟨true, amount⟩ (Finset.mem_univ agentId)
        dsimp only at moved
        simp only [record, update_self]
        omega
      rw [update_self, h.spent e]
      simp only [payments, sum]
      exact Nat.add_right_comm _ _ _
    · rw [update_of_ne here, h.spent e]
      simp only [payments, record, update_of_ne here]
      rfl

theorem Pledged.room_pool :
    Room c id holder g epoch (poolShare (r.frozenStakerBudgets epoch - 1) accounting epoch agentId) := by
  intro _ _
  have pools := h.emissions_add_le first
  have within := (h.frozen epoch isFrozen).2
  have allocated : r.allocation accounting epoch ≤ r.frozenStakerBudgets epoch - 1 := by
    unfold allocation
    split <;> omega
  rw [h.spent epoch, payments, remainder]
  split <;> omega

end

def remain (r : SellerPoolsRewards) (epoch : Nat) : SellerPoolsRewards :=
  { r with epochRemainderSettled := update r.epochRemainderSettled epoch true }

theorem extends_remain : Extends r (r.remain epoch) := by
  refine ⟨fun _ _ _ => rfl, fun _ _ => rfl, fun e settled => ?_⟩
  simp only [remain, Function.update_apply]
  split
  · rfl
  · exact settled

section

variable (h : Pledged c id holder g accounting r) (first : r.epochRemainderSettled epoch = false)

include h first

theorem Pledged.remain
    (isFrozen : accounting.totalWeightedPoolPointsByEpoch epoch ≠ 0 → r.frozenStakerBudgets epoch ≠ 0)
    (pays : Pays c id holder g g' epoch
      (shareBudget epoch (g.share id epoch) - r.allocation accounting epoch)) :
    Pledged c id holder g' accounting (r.remain epoch) := by
  refine ⟨h.balanced, pays.bucketed, ?_, h.settled, h.emission, ?_,
    (draws_of_pays pays).held_of_spent h.held, ?_⟩
  · intro e already
    rw [pays.share]
    exact h.frozen e already
  · intro e
    simp only [SellerPoolsRewards.remain, Function.update_apply]
    split
    next here =>
      subst here
      exact fun _ => ⟨pays.finalized, isFrozen⟩
    · exact h.remained e
  · intro e
    rw [pays.spent, pays.share]
    by_cases here : e = epoch
    · subst here
      rw [update_self, h.spent e]
      simp [payments, remainder, SellerPoolsRewards.remain, first, allocation]
    · rw [update_of_ne here, h.spent e]
      simp only [payments, remainder, SellerPoolsRewards.remain, update_of_ne here]
      rfl

theorem Pledged.room_remainder :
    Room c id holder g epoch (shareBudget epoch (g.share id epoch) - r.allocation accounting epoch) := by
  intro _ _
  have pools := h.emissions_le epoch
  have allocated : r.allocation accounting epoch ≤ shareBudget epoch (g.share id epoch) := by
    unfold allocation
    by_cases isFrozen : r.frozenStakerBudgets epoch = 0
    · rw [isFrozen]
      split <;> exact Nat.zero_le _
    · have within := (h.frozen epoch isFrozen).2
      split
      · exact Nat.zero_le _
      · exact within
  rw [h.spent epoch, payments, remainder, first]
  simp only [Bool.false_eq_true, if_false]
  omega

end

end SellerPoolsRewards

end AntSeed.Emissions
