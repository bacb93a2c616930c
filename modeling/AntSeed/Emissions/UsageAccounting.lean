import AntSeed.Emissions.Controllers

/-! # AntseedUsageAccounting

The ledger of recognized usage. A settlement names a buyer and a seller; what it
is worth is decided by the points policy and by the weight of the seller's pool,
and is added to the totals of the epoch, of the buyer and of the agent. The pools
and both policies are asked, and may revert; the policies' reverts are caught.
-/

namespace AntSeed.Emissions

open Evm Function

structure Usage where
  points : Nat := 0
  weightedPoints : Nat := 0
  deriving DecidableEq, Repr

structure UsageTotals where
  buyers : Usage := {}
  sellers : Usage := {}
  deriving DecidableEq, Repr

structure UsageAccounting where
  firstRewardedEpoch : Nat
  sellerPools : Address
  pointsPolicy : Address := 0
  poolWeightPolicy : Address := 0
  minimumAccountedPoolPower : Nat := 1
  usageRewards : Address := 0
  pendingSellerAccrual : Address := 0
  usageRecorders : Address → Bool
  totalUsage : UsageTotals := {}
  epochUsage : Nat → UsageTotals := fun _ => {}
  buyerUsageTotal : Address → Usage := fun _ => {}
  buyerAgentUsageTotal : Address → Word → Usage := fun _ _ => {}
  buyerEpochUsage : Nat → Address → Usage := fun _ _ => {}
  buyerAgentEpochUsage : Nat → Address → Word → Usage := fun _ _ _ => {}
  agentEpochUsage : Nat → Word → Usage := fun _ _ => {}
  sellerAgentIdByEpoch : Nat → Address → Word := fun _ _ => 0
  admin : Admin

/-- The ledger's setters. -/
inductive UsageSetting where
  | sellerPools (pools : Address)
  | pointsPolicy (policy : Address)
  | poolWeightPolicy (policy : Address)
  | usageRewards (rewards : Address)
  | minimumAccountedPoolPower (minimumPoolPower : Nat)
  | usageRecorder (recorder : Address) (allowed : Bool)

def Usage.add (u : Usage) (points weightedPoints : Nat) : Tx RewardsError Usage := do
  let points ← uint 256 (u.points + points)
  let weightedPoints ← uint 256 (u.weightedPoints + weightedPoints)
  pure ⟨points, weightedPoints⟩

def UsageTotals.add (u : UsageTotals) (buyerPoints buyerWeightedPoints sellerPoints
    sellerWeightedPoints : Nat) : Tx RewardsError UsageTotals := do
  let buyers ← u.buyers.add buyerPoints buyerWeightedPoints
  let sellers ← u.sellers.add sellerPoints sellerWeightedPoints
  pure ⟨buyers, sellers⟩

namespace UsageAccounting

def construct (sender sellerPools initialRecorder emissionsGate : Address) (effectiveEpoch : Nat) :
    Tx RewardsError UsageAccounting := do
  require (¬ (initialRecorder = 0 ∨ emissionsGate = 0)) .invalidAddress
  pure {
    firstRewardedEpoch := effectiveEpoch
    sellerPools := sellerPools
    usageRecorders := update (fun _ => false) initialRecorder true
    admin := { owner := sender } }

variable (s : UsageAccounting)

/-- Without a policy the weight is the power of the pool; `none` if the policy failed. -/
def policyPoolWeight (ctx : CallContext) (agentId : Word)
    (epoch poolPower : Nat) : Option Nat :=
  if s.poolWeightPolicy = 0 then some poolPower
  else (ctx.outside.poolWeight s.poolWeightPolicy agentId epoch poolPower).map fun w => w.word.toNat

/-- The points of the seller and of the buyer; none of either if the policy failed. -/
def policyPoints (ctx : CallContext) (channelId : Word)
    (buyer seller : Address) (rawPoints : Nat) : Nat × Nat :=
  if s.pointsPolicy = 0 then (rawPoints, rawPoints)
  else
    match ctx.outside.points s.pointsPolicy channelId buyer seller rawPoints with
    | some (sellerPoints, buyerPoints) => (sellerPoints.word.toNat, buyerPoints.word.toNat)
    | none => (0, 0)

/-- The ledger entries of one settlement. -/
def credit (epoch : Nat) (buyer seller : Address) (agentId : Word)
    (buyerPoints buyerWeightedPoints sellerPoints sellerWeightedPoints : Nat) :
    Tx RewardsError UsageAccounting := do
  let total ← s.totalUsage.add buyerPoints buyerWeightedPoints sellerPoints sellerWeightedPoints
  let inEpoch ←
    (s.epochUsage epoch).add buyerPoints buyerWeightedPoints sellerPoints sellerWeightedPoints
  let ofBuyer ← (s.buyerUsageTotal buyer).add buyerPoints buyerWeightedPoints
  let ofBuyerAgent ← (s.buyerAgentUsageTotal buyer agentId).add buyerPoints buyerWeightedPoints
  let ofBuyerEpoch ← (s.buyerEpochUsage epoch buyer).add buyerPoints buyerWeightedPoints
  let ofBuyerAgentEpoch ←
    (s.buyerAgentEpochUsage epoch buyer agentId).add buyerPoints buyerWeightedPoints
  let ofAgentEpoch ← (s.agentEpochUsage epoch agentId).add sellerPoints sellerWeightedPoints
  pure { s with
    totalUsage := total
    epochUsage := update s.epochUsage epoch inEpoch
    buyerUsageTotal := update s.buyerUsageTotal buyer ofBuyer
    buyerAgentUsageTotal := update s.buyerAgentUsageTotal buyer
      (update (s.buyerAgentUsageTotal buyer) agentId ofBuyerAgent)
    buyerEpochUsage := update s.buyerEpochUsage epoch
      (update (s.buyerEpochUsage epoch) buyer ofBuyerEpoch)
    buyerAgentEpochUsage := update s.buyerAgentEpochUsage epoch
      (update (s.buyerAgentEpochUsage epoch) buyer
        (update (s.buyerAgentEpochUsage epoch buyer) agentId ofBuyerAgentEpoch))
    agentEpochUsage := update s.agentEpochUsage epoch
      (update (s.agentEpochUsage epoch) agentId ofAgentEpoch)
    sellerAgentIdByEpoch :=
      if s.sellerAgentIdByEpoch epoch seller = 0 then
        update s.sellerAgentIdByEpoch epoch (update (s.sellerAgentIdByEpoch epoch) seller agentId)
      else s.sellerAgentIdByEpoch }

/-- The epoch usage is accounted under: never one the gate refuses to mint. -/
def accountedEpoch (ctx : CallContext) : Nat :=
  if currentEpoch ctx.now < s.firstRewardedEpoch then s.firstRewardedEpoch
  else currentEpoch ctx.now

def recordUsage (pools : Pools.SellerPools) (ctx : CallContext)
    (channelId : Word) (buyer seller : Address) (rawPoints : Nat) : Tx RewardsError UsageAccounting := do
  require (¬ (buyer = 0 ∨ seller = 0)) .invalidAddress
  require (rawPoints ≠ 0) .invalidValue
  let epoch := s.accountedEpoch ctx
  if s.sellerPools = 0 then pure s
  else do
    let agentId ← answer (ctx.agentIdForSeller pools s.sellerPools seller)
    if agentId = 0 then pure s
    else do
      let poolPower ← answer (ctx.poolWeightAtEpoch pools s.sellerPools agentId epoch)
      if poolPower < s.minimumAccountedPoolPower then pure s
      else
        match s.policyPoolWeight ctx agentId epoch poolPower with
        | none => pure s
        | some poolWeight => do
            let (sellerPoints, buyerPoints) := s.policyPoints ctx channelId buyer seller rawPoints
            if sellerPoints = 0 ∧ buyerPoints = 0 then pure s
            else do
              let sellerWeightedPoints ← uint 256 (sellerPoints * poolWeight)
              let buyerWeightedPoints ← uint 256 (buyerPoints * poolWeight)
              s.credit epoch buyer seller agentId buyerPoints buyerWeightedPoints sellerPoints
                sellerWeightedPoints

/-- Callers that are not recorders are ignored, and so is everybody while paused. -/
def accrueSellerPoints (ctx : CallContext) (seller : Address)
    (pointsDelta : Nat) : Tx RewardsError UsageAccounting :=
  if s.usageRecorders ctx.sender = false then pure s
  else if s.admin.paused then pure s
  else do
    require (seller ≠ 0) .invalidAddress
    require (pointsDelta ≠ 0) .invalidValue
    pure { s with pendingSellerAccrual := seller }

def accrueBuyerPoints (pools : Pools.SellerPools) (ctx : CallContext)
    (buyer : Address) (pointsDelta : Nat) : Tx RewardsError UsageAccounting :=
  if s.usageRecorders ctx.sender = false then pure s
  else if s.admin.paused then pure { s with pendingSellerAccrual := 0 }
  else do
    require (buyer ≠ 0) .invalidAddress
    require (pointsDelta ≠ 0) .invalidValue
    let pendingSeller := s.pendingSellerAccrual
    require (pendingSeller ≠ 0) .noPendingSellerAccrual
    let s := { s with pendingSellerAccrual := 0 }
    s.recordUsage pools ctx 0 buyer pendingSeller pointsDelta

def accruePoints (pools : Pools.SellerPools) (ctx : CallContext)
    (channelId : Word) (buyer seller : Address) (pointsDelta : Nat) : Tx RewardsError UsageAccounting :=
  if s.usageRecorders ctx.sender = false then pure s
  else if s.admin.paused then pure s
  else s.recordUsage pools ctx channelId buyer seller pointsDelta

def set (sender : Address) (setting : UsageSetting) :
    Tx RewardsError UsageAccounting := do
  bubble .admin (s.admin.requireOwner sender)
  match setting with
  | .sellerPools pools => pure { s with sellerPools := pools }
  | .pointsPolicy policy => pure { s with pointsPolicy := policy }
  | .poolWeightPolicy policy => pure { s with poolWeightPolicy := policy }
  | .usageRewards rewards => pure { s with usageRewards := rewards }
  | .minimumAccountedPoolPower minimumPoolPower => do
      require (minimumPoolPower ≠ 0) .invalidValue
      pure { s with minimumAccountedPoolPower := minimumPoolPower }
  | .usageRecorder recorder allowed => do
      require (recorder ≠ 0) .invalidAddress
      pure { s with usageRecorders := update s.usageRecorders recorder allowed }

def administer (sender : Address) (call : AdminCall) :
    Tx RewardsError UsageAccounting := do
  let admin ← bubble .admin (s.admin.perform sender call)
  pure { s with admin := admin }

def totalBuyerPointsByEpoch (epoch : Nat) : Nat :=
  (s.epochUsage epoch).buyers.points

def totalSellerPointsByEpoch (epoch : Nat) : Nat :=
  (s.epochUsage epoch).sellers.points

def totalWeightedBuyerPointsByEpoch (epoch : Nat) : Nat :=
  (s.epochUsage epoch).buyers.weightedPoints

def totalWeightedPoolPointsByEpoch (epoch : Nat) : Nat :=
  (s.epochUsage epoch).sellers.weightedPoints

def weightedBuyerPointsByEpoch (epoch : Nat) (buyer : Address) : Nat :=
  (s.buyerEpochUsage epoch buyer).weightedPoints

def weightedPoolPointsByEpoch (epoch : Nat) (agentId : Word) : Nat :=
  (s.agentEpochUsage epoch agentId).weightedPoints

end UsageAccounting

end AntSeed.Emissions
