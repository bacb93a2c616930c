import AntSeed.Emissions.UsageAccounting

/-! # AntseedSellerPoolsRewards

Rewards for the stakers of the pools. An elapsed epoch of a pool is settled once:
the pool's share of the epoch's budget is minted to this contract, and divided by
the weight of the pool it raises two cumulative indexes, one of them weighted by
the epoch. A position's reward is read off the indexes, segment by segment of
its power.
-/

namespace AntSeed.Emissions

open Evm Function
open Pools (SellerPools Position)

def indexScale : Nat := 10 ^ 30
def maxStakerShareBps : Nat := 40000

structure DynamicStakerConfig where
  minShareBps : Nat := 0
  maxShareBps : Nat := 0
  stakeShareTarget : Nat := 0
  deriving DecidableEq, Repr, Inhabited

structure PoolEpochEmission where
  settled : Bool := false
  amount : Nat := 0
  deriving DecidableEq, Repr

structure SellerPoolsRewards where
  initialIndexEpoch : Nat
  epochRemainderSettled : Nat → Bool := fun _ => false
  /-- the budget plus one, so that a frozen zero differs from unset -/
  frozenStakerBudgets : Nat → Nat := fun _ => 0
  poolEpochEmissions : Nat → Word → PoolEpochEmission := fun _ _ => {}
  poolRewardIndexNextEpoch : Word → Nat := fun _ => 0
  positionClaimCursor : Nat → Nat := fun _ => 0
  poolCumulativeRewardPerWeight : Word → Trace := fun _ => .empty
  poolCumulativeEpochRewardPerWeight : Word → Trace := fun _ => .empty
  config : Scheduled DynamicStakerConfig
  admin : Admin

namespace SellerPoolsRewards

def initialConfig : DynamicStakerConfig where
  minShareBps := 2000
  maxShareBps := 40000
  stakeShareTarget := 400000000 * 10 ^ 18

def construct (now : Nat) (sender emissionsGate sellerPools usageAccounting antsToken : Address) :
    Tx RewardsError SellerPoolsRewards := do
  require (¬ (emissionsGate = 0 ∨ sellerPools = 0 ∨ usageAccounting = 0)) .invalidAddress
  require (initialEmission ≠ 0) .invalidValue
  require (antsToken ≠ 0) .invalidAddress
  pure {
    initialIndexEpoch := currentEpoch now
    config := .initial initialConfig
    admin := { owner := sender } }

section

variable (r : SellerPoolsRewards)

def administer (sender : Address) (call : AdminCall) :
    Tx RewardsError SellerPoolsRewards := do
  let admin ← bubble .admin (r.admin.perform sender call)
  pure { r with admin := admin }

def setDynamicStakerConfig (now : Nat) (sender : Address)
    (config : DynamicStakerConfig) : Tx RewardsError SellerPoolsRewards := do
  decode 32 config.minShareBps
  decode 32 config.maxShareBps
  bubble .admin (r.admin.requireOwner sender)
  require (¬ (config.minShareBps > config.maxShareBps ∨ config.maxShareBps > maxStakerShareBps ∨
    config.stakeShareTarget = 0)) .invalidValue
  let fromEpoch ← uint 256 (currentEpoch now + 1)
  pure { r with config := r.config.schedule fromEpoch config }

def dynamicStakerConfigAt (epoch : Nat) : DynamicStakerConfig :=
  r.config.configAt epoch

/-- The target is meant for the first emission and shrinks with it. -/
def liveStakerEpochBudget (pools : SellerPools) (epoch maxBudget : Nat) :
    Tx RewardsError Nat := do
  let activeStake ← bubble .pools (pools.totalActiveStakeAtEpoch epoch)
  let config := r.dynamicStakerConfigAt epoch
  let emission := getEpochEmission epoch
  let scaledTarget ← mulDiv config.stakeShareTarget emission initialEmission
  let shareBps ← saturatingShareBps activeStake config.minShareBps config.maxShareBps scaledTarget
  if shareBps = 0 then pure 0
  else do
    let desiredBudget ← mulDiv emission shareBps gateShareDenominator
    pure (if desiredBudget < maxBudget then desiredBudget else maxBudget)

variable (gate : Gate)

def stakerEpochBudget (pools : SellerPools) (self : Address)
    (epoch : Nat) : Tx RewardsError Nat :=
  let frozen := r.frozenStakerBudgets epoch
  if frozen ≠ 0 then pure (frozen - 1)
  else do
    let maxBudget ← bubble .gate (gate.controllerEpochBudget self epoch)
    r.liveStakerEpochBudget pools epoch maxBudget

/-- `_freezeStakerEpochBudget` for a bucket that is already known. -/
def freezeStakerEpochBudgetTo (pools : SellerPools)
    (epoch maxBudget : Nat) : Tx RewardsError (SellerPoolsRewards × Nat) :=
  let frozen := r.frozenStakerBudgets epoch
  if frozen ≠ 0 then pure (r, frozen - 1)
  else do
    let budget ← r.liveStakerEpochBudget pools epoch maxBudget
    let stored ← uint 256 (budget + 1)
    pure ({ r with frozenStakerBudgets := update r.frozenStakerBudgets epoch stored }, budget)

def freezeStakerEpochBudget (pools : SellerPools)
    (self : Address) (epoch : Nat) : Tx RewardsError (SellerPoolsRewards × Nat) :=
  let frozen := r.frozenStakerBudgets epoch
  if frozen ≠ 0 then pure (r, frozen - 1)
  else do
    let maxBudget ← bubble .gate (gate.controllerEpochBudget self epoch)
    r.freezeStakerEpochBudgetTo pools epoch maxBudget

/-- What claimants can get of an epoch: without weighted usage nothing is ever minted. -/
def allocateEpochBudget (accounting : UsageAccounting)
    (pools : SellerPools) (epoch maxBudget : Nat) : Tx RewardsError (SellerPoolsRewards × Nat) :=
  if accounting.totalWeightedPoolPointsByEpoch epoch = 0 then pure (r, 0)
  else r.freezeStakerEpochBudgetTo pools epoch maxBudget

def settleEpochRemainder (ants : Erc20)
    (accounting : UsageAccounting) (pools : SellerPools) (ctx : CallContext) (epoch : Nat) :
    Tx RewardsError (SellerPoolsRewards × Gate × Erc20) := do
  let self := ctx.addresses.poolsRewards
  bubble .admin r.admin.requireNotPaused
  require (r.epochRemainderSettled epoch = false) .alreadyClaimed
  let maxBudget ← bubble .gate (gate.controllerEpochBudget self epoch)
  let (r, allocatedBudget) ← r.allocateEpochBudget accounting pools epoch maxBudget
  require (allocatedBudget < maxBudget) .nothingToClaim
  let unallocatedAmount ← sub maxBudget allocatedBudget
  let r := { r with epochRemainderSettled := update r.epochRemainderSettled epoch true }
  let reserve ← requireReserve gate
  let (gate, ants, _) ←
    bubble .gate (gate.claimRemainder ants ctx.now self epoch reserve unallocatedAmount)
  pure (r, gate, ants)

def poolGrossReward (accounting : UsageAccounting)
    (pools : SellerPools) (self : Address) (agentId : Word) (epoch : Nat) : Tx RewardsError Nat :=
  let poolPoints := accounting.weightedPoolPointsByEpoch epoch agentId
  let totalPoints := accounting.totalWeightedPoolPointsByEpoch epoch
  if poolPoints = 0 ∨ totalPoints = 0 then pure 0
  else do
    let budget ← r.stakerEpochBudget gate pools self epoch
    if budget = 0 then pure 0 else mulDiv budget poolPoints totalPoints

def poolRewardPreview (accounting : UsageAccounting)
    (pools : SellerPools) (self : Address) (agentId : Word) (epoch : Nat) : Tx RewardsError Nat :=
  let emission := r.poolEpochEmissions epoch agentId
  if emission.settled then pure emission.amount
  else r.poolGrossReward gate accounting pools self agentId epoch

def settlePoolEpoch (ants : Erc20)
    (accounting : UsageAccounting) (pools : SellerPools) (ctx : CallContext) (agentId : Word)
    (epoch : Nat) : Tx RewardsError (SellerPoolsRewards × Gate × Erc20) :=
  let self := ctx.addresses.poolsRewards
  if (r.poolEpochEmissions epoch agentId).settled then pure (r, gate, ants)
  else do
    let (r, _) ← r.freezeStakerEpochBudget gate pools self epoch
    let amount ← r.poolRewardPreview gate accounting pools self agentId epoch
    let emissions := update r.poolEpochEmissions epoch
      (update (r.poolEpochEmissions epoch) agentId ⟨true, amount⟩)
    let (gate, ants) ← claimNonzero gate ants ctx.now self epoch self amount
    pure ({ r with poolEpochEmissions := emissions }, gate, ants)

/-- The reward of an epoch for each unit of weight. -/
def rewardPerWeight (amount poolWeight : Nat) : Tx RewardsError Nat :=
  if poolWeight ≠ 0 ∧ amount ≠ 0 then mulDiv amount indexScale poolWeight else pure 0

/-- Both indexes move from the next epoch on. -/
def raiseIndexes (agentId : Word) (epoch perWeight : Nat) :
    Tx RewardsError SellerPoolsRewards := do
  let cumulativeReward ← uint 256 ((r.poolCumulativeRewardPerWeight agentId).latest + perWeight)
  let weighted ← uint 256 (perWeight * epoch)
  let cumulativeEpochReward ←
    uint 256 ((r.poolCumulativeEpochRewardPerWeight agentId).latest + weighted)
  if perWeight ≠ 0 then do
    let next ← uint 256 (epoch + 1)
    let rewards ← (r.poolCumulativeRewardPerWeight agentId).push next cumulativeReward
    let epochRewards ←
      (r.poolCumulativeEpochRewardPerWeight agentId).push next cumulativeEpochReward
    pure { r with
      poolCumulativeRewardPerWeight := update r.poolCumulativeRewardPerWeight agentId rewards
      poolCumulativeEpochRewardPerWeight :=
        update r.poolCumulativeEpochRewardPerWeight agentId epochRewards }
  else pure r

def indexPoolRewardEpoch (ants : Erc20)
    (accounting : UsageAccounting) (pools : SellerPools) (ctx : CallContext) (agentId : Word)
    (epoch : Nat) : Tx RewardsError (SellerPoolsRewards × Gate × Erc20) := do
  let (r, gate, ants) ← r.settlePoolEpoch gate ants accounting pools ctx agentId epoch
  let poolWeight ← bubble .pools (pools.poolWeightAtEpoch agentId epoch)
  let perWeight ← rewardPerWeight (r.poolEpochEmissions epoch agentId).amount poolWeight
  let r ← r.raiseIndexes agentId epoch perWeight
  pure (r, gate, ants)

end

/-- The loop of `indexPoolRewards`, for a number of epochs from `nextEpoch` on. -/
def indexEpochs (accounting : UsageAccounting) (pools : SellerPools) (ctx : CallContext)
    (agentId : Word) : Nat → Nat → SellerPoolsRewards → Gate → Erc20 →
      Tx RewardsError (SellerPoolsRewards × Gate × Erc20)
  | 0, _, r, gate, ants => pure (r, gate, ants)
  | count + 1, nextEpoch, r, gate, ants => do
      let (r, gate, ants) ←
        r.indexPoolRewardEpoch gate ants accounting pools ctx agentId nextEpoch
      indexEpochs accounting pools ctx agentId count (nextEpoch + 1) r gate ants

section

variable (r : SellerPoolsRewards)

def nextIndexEpoch (agentId : Word) : Nat :=
  if r.poolRewardIndexNextEpoch agentId = 0 then r.initialIndexEpoch
  else r.poolRewardIndexNextEpoch agentId

def indexPoolRewards (gate : Gate) (ants : Erc20)
    (accounting : UsageAccounting) (pools : SellerPools) (ctx : CallContext) (agentId : Word)
    (maxEpochs : Nat) : Tx RewardsError (SellerPoolsRewards × Gate × Erc20) := do
  bubble .admin r.admin.requireNotPaused
  require (¬ (agentId = 0 ∨ maxEpochs = 0)) .invalidValue
  let nextEpoch := r.nextIndexEpoch agentId
  let last ← uint 256 (nextEpoch + maxEpochs)
  let limit := if last > currentEpoch ctx.now then currentEpoch ctx.now else last
  let (r, gate, ants) ←
    indexEpochs accounting pools ctx agentId (limit - nextEpoch) nextEpoch r gate ants
  let reached := max nextEpoch limit
  pure ({ r with
    poolRewardIndexNextEpoch := update r.poolRewardIndexNextEpoch agentId reached }, gate, ants)

def cumulativeDelta (trace : Trace) (fromEpoch toEpoch : Nat) : Tx RewardsError Nat :=
  sub (trace.upperLookupRecent toEpoch) (trace.upperLookupRecent fromEpoch)

def lockedReward (agentId : Word) (maxLockPower fromEpoch toEpoch : Nat) :
    Tx RewardsError Nat := do
  let rewardDelta ← cumulativeDelta (r.poolCumulativeRewardPerWeight agentId) fromEpoch toEpoch
  mulDiv maxLockPower rewardDelta indexScale

/-- The reward of power that runs out at `normalEndEpoch`, between two epochs. -/
def runningReward (agentId : Word)
    (weightAmount normalEndEpoch fromEpoch toEpoch : Nat) : Tx RewardsError Nat := do
  let rewardDelta ← cumulativeDelta (r.poolCumulativeRewardPerWeight agentId) fromEpoch toEpoch
  let epochRewardDelta ←
    cumulativeDelta (r.poolCumulativeEpochRewardPerWeight agentId) fromEpoch toEpoch
  let scaled ← uint 256 (normalEndEpoch * rewardDelta)
  let net ← sub scaled epochRewardDelta
  mulDiv weightAmount net indexScale

/-- The loop of `_positionIndexedReward`. Every round moves the cursor, so as many rounds as
    there are epochs are enough. -/
def walkSegments (r : SellerPoolsRewards) (pools : SellerPools) (agentId : Word)
    (weightAmount toEpoch positionId : Nat) : Nat → Nat → Nat → Tx RewardsError Nat
  | 0, _, rewardAmount => pure rewardAmount
  | rounds + 1, cursor, rewardAmount =>
    if cursor < toEpoch then do
      let segment ← bubble .pools (pools.positionPowerSegmentAt positionId cursor)
      let segmentEnd :=
        if segment.nextChangeEpoch < toEpoch then segment.nextChangeEpoch else toEpoch
      if segmentEnd ≤ cursor then pure rewardAmount
      else if segment.maxLockPower ≠ 0 then do
        let reward ← r.lockedReward agentId segment.maxLockPower cursor segmentEnd
        let rewardAmount ← uint 256 (rewardAmount + reward)
        r.walkSegments pools agentId weightAmount toEpoch positionId rounds segmentEnd rewardAmount
      else if segment.normalEndEpoch ≠ 0 ∧ cursor < segment.normalEndEpoch then do
        let segmentEnd :=
          if segmentEnd > segment.normalEndEpoch then segment.normalEndEpoch else segmentEnd
        let reward ←
          r.runningReward agentId weightAmount segment.normalEndEpoch cursor segmentEnd
        let rewardAmount ← uint 256 (rewardAmount + reward)
        r.walkSegments pools agentId weightAmount toEpoch positionId rounds segmentEnd rewardAmount
      else
        r.walkSegments pools agentId weightAmount toEpoch positionId rounds segmentEnd rewardAmount
    else pure rewardAmount

def positionIndexedReward (pools : SellerPools) (agentId : Word)
    (weightAmount fromEpoch toEpoch positionId : Nat) : Tx RewardsError Nat :=
  r.walkSegments pools agentId weightAmount toEpoch positionId (toEpoch - fromEpoch) fromEpoch 0

/-- The epochs a position can claim for: from its cursor or its start to the last indexed
    epoch or its closing. -/
def claimWindow (position : Position) (positionId : Nat) :
    Option (Nat × Nat) :=
  let cursor := r.positionClaimCursor positionId
  let fromEpoch := if cursor < position.stakeStartEpoch then position.stakeStartEpoch else cursor
  let indexed := r.poolRewardIndexNextEpoch position.agentId
  if indexed = 0 ∨ indexed ≤ fromEpoch then none
  else
    let toEpoch := if position.closedAtEpoch ≠ 0 ∧ indexed > position.closedAtEpoch then
      position.closedAtEpoch else indexed
    if toEpoch ≤ fromEpoch then none else some (fromEpoch, toEpoch)

def pendingIndexedStakerReward (pools : SellerPools) (positionId : Nat) :
    Tx RewardsError Nat := do
  let position := pools.positions positionId
  require (position.owner ≠ 0) .invalidValue
  match r.claimWindow position positionId with
  | none => pure 0
  | some (fromEpoch, toEpoch) =>
    r.positionIndexedReward pools position.agentId position.weightAmount fromEpoch toEpoch
      positionId

/-- `_claimIndexedStakerRewards`; returns the claimed amount. -/
def claimIndexedStakerRewards (ants : Erc20) (pools : SellerPools)
    (self : Address) (positionId : Nat) (recipient staker : Address) :
    Tx RewardsError (SellerPoolsRewards × Erc20 × Nat) := do
  let position := pools.positions positionId
  require (position.owner ≠ 0) .invalidValue
  require (position.owner = staker) .notPositionOwner
  match r.claimWindow position positionId with
  | none => pure (r, ants, 0)
  | some (fromEpoch, toEpoch) => do
      let claimableAmount ← r.positionIndexedReward pools position.agentId position.weightAmount
        fromEpoch toEpoch positionId
      if claimableAmount = 0 then pure (r, ants, 0)
      else do
        let ants ← ants.transfer self recipient claimableAmount
        let cursors := update r.positionClaimCursor positionId toEpoch
        pure ({ r with positionClaimCursor := cursors }, ants, claimableAmount)

def claimStakerRewards (ants : Erc20) (pools : SellerPools)
    (ctx : CallContext) (positionId : Nat) (recipient : Address) :
    Tx RewardsError (SellerPoolsRewards × Erc20) := do
  bubble .admin r.admin.requireNotPaused
  require (recipient ≠ 0) .invalidAddress
  let (r, ants, claimedAmount) ←
    r.claimIndexedStakerRewards ants pools ctx.addresses.poolsRewards positionId recipient ctx.sender
  require (claimedAmount ≠ 0) .nothingToClaim
  pure (r, ants)

end

/-- The loop of `claimStakerRewardsBatch`. -/
def claimPositions (pools : SellerPools) (self recipient staker : Address) :
    List Nat → SellerPoolsRewards → Erc20 → Nat →
      Tx RewardsError (SellerPoolsRewards × Erc20 × Nat)
  | [], r, ants, totalClaimed => pure (r, ants, totalClaimed)
  | positionId :: rest, r, ants, totalClaimed => do
      let (r, ants, claimed) ←
        r.claimIndexedStakerRewards ants pools self positionId recipient staker
      let totalClaimed ← uint 256 (totalClaimed + claimed)
      claimPositions pools self recipient staker rest r ants totalClaimed

def claimStakerRewardsBatch (r : SellerPoolsRewards) (ants : Erc20) (pools : SellerPools)
    (ctx : CallContext) (positionIds : List Nat) (recipient : Address) :
    Tx RewardsError (SellerPoolsRewards × Erc20) := do
  decode 64 positionIds.length
  bubble .admin r.admin.requireNotPaused
  require (recipient ≠ 0) .invalidAddress
  require (positionIds.length ≠ 0) .invalidValue
  let (r, ants, totalClaimed) ←
    claimPositions pools ctx.addresses.poolsRewards recipient ctx.sender positionIds r ants 0
  require (totalClaimed ≠ 0) .nothingToClaim
  pure (r, ants)

def restakeStakerRewards (r : SellerPoolsRewards) (ants : Erc20) (pools : SellerPools)
    (ctx : CallContext) (positionId stakeEpochs : Nat) :
    Tx RewardsError (SellerPoolsRewards × Erc20 × SellerPools) := do
  let self := ctx.addresses.poolsRewards
  bubble .admin r.admin.requireNotPaused
  let (r, ants, totalRestaked) ←
    r.claimIndexedStakerRewards ants pools self positionId ctx.addresses.pools ctx.sender
  require (totalRestaked ≠ 0) .nothingToClaim
  let (pools, _) ← bubble .pools
    (pools.stakeMintedReward (ctx.toPools self) ctx.sender positionId totalRestaked stakeEpochs)
  pure (r, ants, pools)

/-- The loop of `restakeStakerRewardsBatch`: positions without a reward are skipped. -/
def restakePositions (ctx : CallContext) (stakeEpochs : Nat) :
    List Nat → SellerPoolsRewards → Erc20 → SellerPools → Nat →
      Tx RewardsError (SellerPoolsRewards × Erc20 × SellerPools × Nat)
  | [], r, ants, pools, totalRestakedAll => pure (r, ants, pools, totalRestakedAll)
  | positionId :: rest, r, ants, pools, totalRestakedAll => do
      let self := ctx.addresses.poolsRewards
      let (r, ants, totalRestaked) ←
        r.claimIndexedStakerRewards ants pools self positionId ctx.addresses.pools ctx.sender
      if totalRestaked = 0 then restakePositions ctx stakeEpochs rest r ants pools totalRestakedAll
      else do
        let totalRestakedAll ← uint 256 (totalRestakedAll + totalRestaked)
        let (pools, _) ← bubble .pools
          (pools.stakeMintedReward (ctx.toPools self) ctx.sender positionId totalRestaked stakeEpochs)
        restakePositions ctx stakeEpochs rest r ants pools totalRestakedAll

variable (r : SellerPoolsRewards)

def restakeStakerRewardsBatch (ants : Erc20) (pools : SellerPools)
    (ctx : CallContext) (positionIds : List Nat) (stakeEpochs : Nat) :
    Tx RewardsError (SellerPoolsRewards × Erc20 × SellerPools) := do
  decode 64 positionIds.length
  bubble .admin r.admin.requireNotPaused
  require (positionIds.length ≠ 0) .invalidValue
  let (r, ants, pools, totalRestakedAll) ←
    restakePositions ctx stakeEpochs positionIds r ants pools 0
  require (totalRestakedAll ≠ 0) .nothingToClaim
  pure (r, ants, pools)

end SellerPoolsRewards

end AntSeed.Emissions
