import AntSeed.Emissions.UsageAccounting

/-! # The ledger of usage adds up

The points of an epoch are those of its agents together and those of its buyers
together, and once an epoch has elapsed nothing is recorded under it any more.
-/

namespace AntSeed.Emissions

open Evm Function

attribute [ext] Usage

namespace Usage

instance : Zero Usage := ⟨{}⟩
instance : Add Usage := ⟨fun u v => ⟨u.points + v.points, u.weightedPoints + v.weightedPoints⟩⟩

@[simp] theorem zero_points : (0 : Usage).points = 0 := rfl
@[simp] theorem zero_weightedPoints : (0 : Usage).weightedPoints = 0 := rfl
@[simp] theorem add_points (u v : Usage) : (u + v).points = u.points + v.points := rfl
@[simp] theorem add_weightedPoints (u v : Usage) :
    (u + v).weightedPoints = u.weightedPoints + v.weightedPoints := rfl

instance : AddCommMonoid Usage where
  add_assoc u v w := by ext <;> simp [Nat.add_assoc]
  zero_add u := by ext <;> simp
  add_zero u := by ext <;> simp
  add_comm u v := by ext <;> simp [Nat.add_comm]
  nsmul := nsmulRec

/-- A sum that `uint256` holds. -/
def Fits (u v : Usage) : Prop :=
  u.points + v.points < 2 ^ 256 ∧ u.weightedPoints + v.weightedPoints < 2 ^ 256

instance (u v : Usage) : Decidable (u.Fits v) := inferInstanceAs (Decidable (_ ∧ _))

theorem add_eq_ok {u u' : Usage} {points weightedPoints : Nat} :
    u.add points weightedPoints = .ok u' ↔
      u.Fits ⟨points, weightedPoints⟩ ∧ u' = u + ⟨points, weightedPoints⟩ := by
  simp only [add, bind_eq_ok, uint_eq_ok, pure_eq_ok, Fits]
  constructor
  · rintro ⟨_, ⟨first, rfl⟩, _, ⟨second, rfl⟩, rfl⟩
    exact ⟨⟨first, second⟩, rfl⟩
  · rintro ⟨⟨first, second⟩, rfl⟩
    exact ⟨_, ⟨first, rfl⟩, _, ⟨second, rfl⟩, rfl⟩

end Usage

variable {buyerPoints buyerWeightedPoints epoch sellerPoints sellerWeightedPoints : Nat}

theorem UsageTotals.add_eq_ok {u u' : UsageTotals} :
    u.add buyerPoints buyerWeightedPoints sellerPoints sellerWeightedPoints = .ok u' ↔
      (u.buyers.Fits ⟨buyerPoints, buyerWeightedPoints⟩ ∧
        u.sellers.Fits ⟨sellerPoints, sellerWeightedPoints⟩) ∧
      u' = ⟨u.buyers + ⟨buyerPoints, buyerWeightedPoints⟩,
        u.sellers + ⟨sellerPoints, sellerWeightedPoints⟩⟩ := by
  simp only [add, bind_eq_ok, Usage.add_eq_ok, pure_eq_ok]
  constructor
  · rintro ⟨_, ⟨buyers, rfl⟩, _, ⟨sellers, rfl⟩, rfl⟩
    exact ⟨⟨buyers, sellers⟩, rfl⟩
  · rintro ⟨⟨buyers, sellers⟩, rfl⟩
    exact ⟨_, ⟨buyers, rfl⟩, _, ⟨sellers, rfl⟩, rfl⟩

/-- A settlement as the ledger records it. -/
structure UsageRecord where
  epoch : Nat
  buyer : Address
  seller : Address
  agentId : Word
  bought : Usage
  sold : Usage

namespace UsageAccounting

/-- The ledger with one more settlement in every map. -/
def enter (s : UsageAccounting) (r : UsageRecord) : UsageAccounting :=
  { s with
    totalUsage := ⟨s.totalUsage.buyers + r.bought, s.totalUsage.sellers + r.sold⟩
    epochUsage := update s.epochUsage r.epoch
      ⟨(s.epochUsage r.epoch).buyers + r.bought, (s.epochUsage r.epoch).sellers + r.sold⟩
    buyerUsageTotal := update s.buyerUsageTotal r.buyer (s.buyerUsageTotal r.buyer + r.bought)
    buyerAgentUsageTotal := update s.buyerAgentUsageTotal r.buyer
      (update (s.buyerAgentUsageTotal r.buyer) r.agentId
        (s.buyerAgentUsageTotal r.buyer r.agentId + r.bought))
    buyerEpochUsage := update s.buyerEpochUsage r.epoch
      (update (s.buyerEpochUsage r.epoch) r.buyer (s.buyerEpochUsage r.epoch r.buyer + r.bought))
    buyerAgentEpochUsage := update s.buyerAgentEpochUsage r.epoch
      (update (s.buyerAgentEpochUsage r.epoch) r.buyer
        (update (s.buyerAgentEpochUsage r.epoch r.buyer) r.agentId
          (s.buyerAgentEpochUsage r.epoch r.buyer r.agentId + r.bought)))
    agentEpochUsage := update s.agentEpochUsage r.epoch
      (update (s.agentEpochUsage r.epoch) r.agentId (s.agentEpochUsage r.epoch r.agentId + r.sold))
    sellerAgentIdByEpoch :=
      if s.sellerAgentIdByEpoch r.epoch r.seller = 0 then
        update s.sellerAgentIdByEpoch r.epoch
          (update (s.sellerAgentIdByEpoch r.epoch) r.seller r.agentId)
      else s.sellerAgentIdByEpoch }

/-- No entry that the settlement is added to leaves its type. -/
structure Room (r : UsageRecord) (s : UsageAccounting) : Prop where
  total : s.totalUsage.buyers.Fits r.bought ∧ s.totalUsage.sellers.Fits r.sold
  inEpoch : (s.epochUsage r.epoch).buyers.Fits r.bought ∧ (s.epochUsage r.epoch).sellers.Fits r.sold
  ofBuyer : (s.buyerUsageTotal r.buyer).Fits r.bought
  ofBuyerAgent : (s.buyerAgentUsageTotal r.buyer r.agentId).Fits r.bought
  ofBuyerEpoch : (s.buyerEpochUsage r.epoch r.buyer).Fits r.bought
  ofBuyerAgentEpoch : (s.buyerAgentEpochUsage r.epoch r.buyer r.agentId).Fits r.bought
  ofAgentEpoch : (s.agentEpochUsage r.epoch r.agentId).Fits r.sold

variable {buyer seller sender : Address} {ctx : CallContext} {pools : Pools.SellerPools}
  {pointsDelta : Nat}

theorem credit_eq_ok {s s' : UsageAccounting} {agentId : Word}
    :
    s.credit epoch buyer seller agentId buyerPoints buyerWeightedPoints sellerPoints
      sellerWeightedPoints = .ok s' ↔
      s.Room ⟨epoch, buyer, seller, agentId, ⟨buyerPoints, buyerWeightedPoints⟩,
        ⟨sellerPoints, sellerWeightedPoints⟩⟩ ∧
      s' = s.enter ⟨epoch, buyer, seller, agentId, ⟨buyerPoints, buyerWeightedPoints⟩,
        ⟨sellerPoints, sellerWeightedPoints⟩⟩ := by
  simp only [credit, bind_eq_ok, Usage.add_eq_ok, UsageTotals.add_eq_ok, pure_eq_ok]
  constructor
  · rintro ⟨_, ⟨total, rfl⟩, _, ⟨inEpoch, rfl⟩, _, ⟨ofBuyer, rfl⟩, _, ⟨ofBuyerAgent, rfl⟩, _,
      ⟨ofBuyerEpoch, rfl⟩, _, ⟨ofBuyerAgentEpoch, rfl⟩, _, ⟨ofAgentEpoch, rfl⟩, rfl⟩
    exact ⟨⟨total, inEpoch, ofBuyer, ofBuyerAgent, ofBuyerEpoch, ofBuyerAgentEpoch, ofAgentEpoch⟩, rfl⟩
  · rintro ⟨room, rfl⟩
    exact ⟨_, ⟨room.total, rfl⟩, _, ⟨room.inEpoch, rfl⟩, _, ⟨room.ofBuyer, rfl⟩, _,
      ⟨room.ofBuyerAgent, rfl⟩, _, ⟨room.ofBuyerEpoch, rfl⟩, _, ⟨room.ofBuyerAgentEpoch, rfl⟩, _,
      ⟨room.ofAgentEpoch, rfl⟩, rfl⟩

/-- The entries, and the epoch before which nothing is entered. -/
def ledger (s : UsageAccounting) :=
  (s.firstRewardedEpoch, s.totalUsage, s.epochUsage, s.buyerUsageTotal, s.buyerAgentUsageTotal,
    s.buyerEpochUsage, s.buyerAgentEpochUsage, s.agentEpochUsage, s.sellerAgentIdByEpoch)

/-- What a call in epoch `c` can do to the ledger: nothing, or enter one settlement, under the
    epoch itself or the first rewarded one if that is still to come. -/
inductive Logs (c : Nat) (s s' : UsageAccounting) : Prop where
  | nothing (same : s'.ledger = s.ledger)
  | settlement (r : UsageRecord) (epoch : r.epoch = max c s.firstRewardedEpoch)
      (entered : s'.ledger = (s.enter r).ledger)

variable {c : Nat} {s s' : UsageAccounting}

theorem accountedEpoch_eq (s : UsageAccounting) (ctx : CallContext) :
    s.accountedEpoch ctx = max (currentEpoch ctx.now) s.firstRewardedEpoch := by
  unfold accountedEpoch
  split <;> omega

theorem recordUsage_logs {channelId : Word} {rawPoints : Nat}
    (h : s.recordUsage pools ctx channelId buyer seller rawPoints = .ok s') :
    Logs (currentEpoch ctx.now) s s' := by
  replace h := rest_ok h
  replace h := rest_ok h
  dsimp only at h
  split at h
  · cases h
    exact .nothing rfl
  obtain ⟨agentId, -, h⟩ := ran h
  split at h
  · cases h
    exact .nothing rfl
  obtain ⟨poolPower, -, h⟩ := ran h
  split at h
  · cases h
    exact .nothing rfl
  split at h
  · cases h
    exact .nothing rfl
  split at h
  · cases h
    exact .nothing rfl
  obtain ⟨_, -, h⟩ := ran h
  obtain ⟨_, -, h⟩ := ran h
  obtain ⟨-, rfl⟩ := credit_eq_ok.mp h
  exact .settlement _ (s.accountedEpoch_eq ctx) rfl

theorem accrueSellerPoints_logs (h : s.accrueSellerPoints ctx seller pointsDelta = .ok s') :
    Logs c s s' := by
  unfold accrueSellerPoints at h
  split at h
  · cases h
    exact .nothing rfl
  split at h
  · cases h
    exact .nothing rfl
  replace h := rest_ok h
  replace h := rest_ok h
  cases h
  exact .nothing rfl

theorem accrueBuyerPoints_logs (h : s.accrueBuyerPoints pools ctx buyer pointsDelta = .ok s') :
    Logs (currentEpoch ctx.now) s s' := by
  unfold accrueBuyerPoints at h
  split at h
  · cases h
    exact .nothing rfl
  split at h
  · cases h
    exact .nothing rfl
  replace h := rest_ok h
  replace h := rest_ok h
  replace h := rest_ok h
  -- the accrual that was pending is no part of the ledger
  cases recordUsage_logs h with
  | nothing same => exact .nothing same
  | settlement r epoch entered => exact .settlement r epoch entered

theorem accruePoints_logs (h : s.accruePoints pools ctx channelId buyer seller pointsDelta = .ok s') :
    Logs (currentEpoch ctx.now) s s' := by
  unfold accruePoints at h
  split at h
  · cases h
    exact .nothing rfl
  split at h
  · cases h
    exact .nothing rfl
  exact recordUsage_logs h

theorem set_logs (h : s.set sender setting = .ok s') : Logs c s s' := by
  replace h := rest_ok h
  cases setting with
  | minimumAccountedPoolPower | usageRecorder =>
    replace h := rest_ok h
    cases h
    exact .nothing rfl
  | _ =>
    cases h
    exact .nothing rfl

theorem administer_logs (h : s.administer sender call = .ok s') : Logs c s s' := by
  obtain ⟨_, -, h⟩ := ran h
  cases h
  exact .nothing rfl

structure Balanced (s : UsageAccounting) : Prop where
  sellers : ∀ e, ∑ a, s.weightedPoolPointsByEpoch e a = s.totalWeightedPoolPointsByEpoch e
  buyers : ∀ e, ∑ b, s.weightedBuyerPointsByEpoch e b = s.totalWeightedBuyerPointsByEpoch e

/-- What the calls of the ledger do in epoch `c`. -/
structure Records (c : Nat) (s s' : UsageAccounting) : Prop where
  balanced : s.Balanced → s'.Balanced
  totals : ∀ e, e < c → s'.epochUsage e = s.epochUsage e
  agents : ∀ e, e < c → s'.agentEpochUsage e = s.agentEpochUsage e
  buyers : ∀ e, e < c → s'.buyerEpochUsage e = s.buyerEpochUsage e

theorem Records.of_same (totals : s'.epochUsage = s.epochUsage)
    (agents : s'.agentEpochUsage = s.agentEpochUsage)
    (buyers : s'.buyerEpochUsage = s.buyerEpochUsage) : Records c s s' := by
  refine ⟨fun h => ⟨?_, ?_⟩, fun e _ => by rw [totals], fun e _ => by rw [agents],
    fun e _ => by rw [buyers]⟩
  · intro e
    have := h.sellers e
    simp only [weightedPoolPointsByEpoch, totalWeightedPoolPointsByEpoch] at this ⊢
    rw [agents, totals, this]
  · intro e
    have := h.buyers e
    simp only [weightedBuyerPointsByEpoch, totalWeightedBuyerPointsByEpoch] at this ⊢
    rw [buyers, totals, this]

theorem Records.refl (s : UsageAccounting) : Records c s s := .of_same rfl rfl rfl

theorem sum_credited {K : Type} [Fintype K] [DecidableEq K] {entries : Nat → K → Usage}
    {total total' : Nat → Nat} {epoch weighted : Nat} {k : K} {entry : Usage}
    (sums : ∀ e, ∑ x, (entries e x).weightedPoints = total e)
    (isEntry : entry.weightedPoints = (entries epoch k).weightedPoints + weighted)
    (isTotal : total' epoch = total epoch + weighted) (others : ∀ e, e ≠ epoch → total' e = total e)
    (e : Nat) :
    ∑ x, (update entries epoch (update (entries epoch) k entry) e x).weightedPoints = total' e := by
  by_cases here : e = epoch
  · subst here
    have moved := sum_update_add (fun _ (u : Usage) => u.weightedPoints) (entries e) entry
      (Finset.mem_univ k)
    have old := sums e
    rw [update_self, isTotal]
    omega
  · rw [update_of_ne here, others e here]
    exact sums e

theorem enter_records {r : UsageRecord} (later : c ≤ r.epoch)
    (entered : s'.ledger = (s.enter r).ledger) : Records c s s' := by
  simp only [ledger, Prod.mk.injEq] at entered
  obtain ⟨-, -, totals, -, -, buyers, -, agents, -⟩ := entered
  refine ⟨fun balanced => ⟨?_, ?_⟩, ?_, ?_, ?_⟩
  · simp only [weightedPoolPointsByEpoch, totalWeightedPoolPointsByEpoch, totals, agents]
    refine sum_credited balanced.sellers (Usage.add_weightedPoints _ r.sold) ?_ ?_
    · simp [enter, totalWeightedPoolPointsByEpoch]
    · intro e other
      simp [enter, totalWeightedPoolPointsByEpoch, other]
  · simp only [weightedBuyerPointsByEpoch, totalWeightedBuyerPointsByEpoch, totals, buyers]
    refine sum_credited balanced.buyers (Usage.add_weightedPoints _ r.bought) ?_ ?_
    · simp [enter, totalWeightedBuyerPointsByEpoch]
    · intro e other
      simp [enter, totalWeightedBuyerPointsByEpoch, other]
  · intro e before
    rw [totals]
    exact update_of_ne (by omega) _ _
  · intro e before
    rw [agents]
    exact update_of_ne (by omega) _ _
  · intro e before
    rw [buyers]
    exact update_of_ne (by omega) _ _

theorem Logs.records (logs : Logs c s s') : Records c s s' := by
  cases logs with
  | nothing same =>
    simp only [ledger, Prod.mk.injEq] at same
    obtain ⟨-, -, totals, -, -, buyers, -, agents, -⟩ := same
    exact .of_same totals agents buyers
  | settlement r epoch entered => exact enter_records (by omega) entered

theorem construct_balanced {sender sellerPools initialRecorder emissionsGate : Address}
    {effectiveEpoch : Nat}
    (h : construct sender sellerPools initialRecorder emissionsGate effectiveEpoch = .ok s) :
    s.Balanced := by
  replace h := rest_ok h
  cases h
  exact ⟨fun e => by simp [weightedPoolPointsByEpoch, totalWeightedPoolPointsByEpoch],
    fun e => by simp [weightedBuyerPointsByEpoch, totalWeightedBuyerPointsByEpoch]⟩

end UsageAccounting

end AntSeed.Emissions
