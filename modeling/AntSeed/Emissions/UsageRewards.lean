import AntSeed.Emissions.UsageAccounting

/-! # AntseedUsageRewards

Rewards for recognized usage, one side for the owners of agents and one for the
operators of buyers. Both sides share one bucket of the gate. The budgets of an
epoch are frozen by the first claim or settlement that uses them; a claim pays a
share of its side's budget up to a cap, and sends the rest to the reserve.
-/

namespace AntSeed.Emissions

open Evm Function

def rewardBpsDenominator : Nat := 10000
def maxRewardShareBps : Nat := 500
def maxBuyerShareBps : Nat := 10000
def maxSellerShareBps : Nat := 10000

structure FrozenUsageBudgets where
  frozen : Bool := false
  buyerBudget : Nat := 0
  sellerBudget : Nat := 0
  deriving DecidableEq, Repr

structure DynamicUsageConfig where
  buyerMinShareBps : Nat := 0
  buyerMaxShareBps : Nat := 0
  sellerMinShareBps : Nat := 0
  sellerMaxShareBps : Nat := 0
  volumeShareTarget : Nat := 0
  deriving DecidableEq, Repr, Inhabited

structure UsageRewards where
  sellerPools : Address := 0
  operatorSource : Address
  claimForwarder : Address := 0
  frozenUsageBudgets : Nat → FrozenUsageBudgets := fun _ => {}
  agentEpochClaimed : Word → Nat → Bool := fun _ _ => false
  buyerEpochClaimed : Address → Nat → Bool := fun _ _ => false
  epochRemainderSettled : Nat → Bool := fun _ => false
  config : Scheduled DynamicUsageConfig
  admin : Admin

/-- The controller's plain setters. -/
inductive UsageRewardsSetting where
  | claimForwarder (forwarder : Address)
  | sellerPools (pools : Address)
  | operatorSource (source : Address)

/-- What a claim has computed before it mints. -/
structure PreparedReward where
  recipient : Address
  weightedPoints : Nat
  totalWeightedPoints : Nat
  grossAmount : Nat
  claimableAmount : Nat
  reserveAmount : Nat
  deriving DecidableEq, Repr

namespace UsageRewards

def initialConfig : DynamicUsageConfig where
  buyerMinShareBps := 5000
  buyerMaxShareBps := 10000
  sellerMinShareBps := 5000
  sellerMaxShareBps := 10000
  volumeShareTarget := 1000000 * 10 ^ 6

def construct (sender emissionsGate usageAccounting identityRegistry operatorSource : Address) :
    Tx RewardsError UsageRewards := do
  require (¬ (emissionsGate = 0 ∨ usageAccounting = 0 ∨ identityRegistry = 0 ∨
    operatorSource = 0)) .invalidAddress
  pure {
    operatorSource := operatorSource
    config := .initial initialConfig
    admin := { owner := sender } }

variable (r : UsageRewards)

def set (sender : Address) (setting : UsageRewardsSetting) :
    Tx RewardsError UsageRewards := do
  bubble .admin (r.admin.requireOwner sender)
  match setting with
  | .claimForwarder forwarder => pure { r with claimForwarder := forwarder }
  | .sellerPools pools => do
      require (pools ≠ 0) .invalidAddress
      pure { r with sellerPools := pools }
  | .operatorSource source => do
      require (source ≠ 0) .invalidAddress
      pure { r with operatorSource := source }

def administer (sender : Address) (call : AdminCall) :
    Tx RewardsError UsageRewards := do
  let admin ← bubble .admin (r.admin.perform sender call)
  pure { r with admin := admin }

def setDynamicUsageConfig (now : Nat) (sender : Address)
    (config : DynamicUsageConfig) : Tx RewardsError UsageRewards := do
  decode 32 config.buyerMinShareBps
  decode 32 config.buyerMaxShareBps
  decode 32 config.sellerMinShareBps
  decode 32 config.sellerMaxShareBps
  bubble .admin (r.admin.requireOwner sender)
  require (¬ (config.buyerMinShareBps > config.buyerMaxShareBps ∨
    config.sellerMinShareBps > config.sellerMaxShareBps ∨
    config.buyerMaxShareBps > maxBuyerShareBps ∨ config.sellerMaxShareBps > maxSellerShareBps ∨
    config.volumeShareTarget = 0)) .invalidValue
  let fromEpoch ← uint 256 (currentEpoch now + 1)
  pure { r with config := r.config.schedule fromEpoch config }

def dynamicUsageConfigAt (epoch : Nat) : DynamicUsageConfig :=
  r.config.configAt epoch

def epochVolume (accounting : UsageAccounting) (epoch : Nat) : Nat :=
  let buyerPoints := accounting.totalBuyerPointsByEpoch epoch
  let sellerPoints := accounting.totalSellerPointsByEpoch epoch
  if buyerPoints > sellerPoints then buyerPoints else sellerPoints

/-- `_shareBudget` -/
def desiredBudget (epochEmission shareBps : Nat) : Tx RewardsError Nat :=
  if shareBps = 0 then pure 0 else mulDiv epochEmission shareBps gateShareDenominator

def buyerShareBpsAt (epoch volume : Nat) : Tx RewardsError Nat :=
  let config := r.dynamicUsageConfigAt epoch
  saturatingShareBps volume config.buyerMinShareBps config.buyerMaxShareBps config.volumeShareTarget

def sellerShareBpsAt (epoch volume : Nat) : Tx RewardsError Nat :=
  let config := r.dynamicUsageConfigAt epoch
  saturatingShareBps volume config.sellerMinShareBps config.sellerMaxShareBps
    config.volumeShareTarget

/-- The budgets of the buyers and of the sellers, scaled down to the bucket. -/
def liveUsageEpochBudgets (accounting : UsageAccounting)
    (epoch maxBudget : Nat) : Tx RewardsError (Nat × Nat) := do
  let volume := epochVolume accounting epoch
  let emission := getEpochEmission epoch
  let buyerShareBps ← r.buyerShareBpsAt epoch volume
  let desiredBuyerBudget ← desiredBudget emission buyerShareBps
  let sellerShareBps ← r.sellerShareBpsAt epoch volume
  let desiredSellerBudget ← desiredBudget emission sellerShareBps
  let desiredTotal ← uint 256 (desiredBuyerBudget + desiredSellerBudget)
  if desiredTotal ≤ maxBudget then pure (desiredBuyerBudget, desiredSellerBudget)
  else if desiredTotal = 0 then pure (0, 0)
  else do
    let buyerBudget ← mulDiv desiredBuyerBudget maxBudget desiredTotal
    let sellerBudget ← sub maxBudget buyerBudget
    pure (buyerBudget, sellerBudget)

variable (gate : Gate)

variable (accounting : UsageAccounting)

def usageEpochBudgets
    (self : Address) (epoch : Nat) : Tx RewardsError (Nat × Nat) :=
  let frozen := r.frozenUsageBudgets epoch
  if frozen.frozen then pure (frozen.buyerBudget, frozen.sellerBudget)
  else do
    let maxBudget ← bubble .gate (gate.controllerEpochBudget self epoch)
    r.liveUsageEpochBudgets accounting epoch maxBudget

/-- `_freezeUsageEpochBudgets` for a bucket that is already known. -/
def freezeUsageEpochBudgetsTo
    (epoch maxBudget : Nat) : Tx RewardsError (UsageRewards × Nat × Nat) :=
  let frozen := r.frozenUsageBudgets epoch
  if frozen.frozen then pure (r, frozen.buyerBudget, frozen.sellerBudget)
  else do
    let (buyerBudget, sellerBudget) ← r.liveUsageEpochBudgets accounting epoch maxBudget
    let budgets := update r.frozenUsageBudgets epoch ⟨true, buyerBudget, sellerBudget⟩
    pure ({ r with frozenUsageBudgets := budgets }, buyerBudget, sellerBudget)

def freezeUsageEpochBudgets
    (self : Address) (epoch : Nat) : Tx RewardsError (UsageRewards × Nat × Nat) :=
  let frozen := r.frozenUsageBudgets epoch
  if frozen.frozen then pure (r, frozen.buyerBudget, frozen.sellerBudget)
  else do
    let maxBudget ← bubble .gate (gate.controllerEpochBudget self epoch)
    r.freezeUsageEpochBudgetsTo accounting epoch maxBudget

def rewardAmounts (epochBudget weightedPoints totalWeightedPoints : Nat) :
    Tx RewardsError (Nat × Nat × Nat) := do
  require (¬ (weightedPoints = 0 ∨ totalWeightedPoints = 0)) .nothingToClaim
  let scaled ← uint 256 (epochBudget * weightedPoints)
  let grossAmount ← div scaled totalWeightedPoints
  require (grossAmount ≠ 0) .nothingToClaim
  let scaledCap ← uint 256 (epochBudget * maxRewardShareBps)
  let cap := scaledCap / rewardBpsDenominator
  let claimableAmount := if grossAmount < cap then grossAmount else cap
  let reserveAmount ← sub grossAmount claimableAmount
  require (¬ (claimableAmount = 0 ∧ reserveAmount = 0)) .nothingToClaim
  pure (grossAmount, claimableAmount, reserveAmount)

section

variable (ants : Erc20)

/-- The reserve is looked up only if there is something to send to it. -/
def mintReserve (now : Nat) (self : Address)
    (epoch reserveAmount : Nat) : Tx RewardsError (Gate × Erc20) :=
  if reserveAmount ≠ 0 then do
    let reserve ← requireReserve gate
    bubble .gate (gate.claim ants now self epoch reserve reserveAmount)
  else pure (gate, ants)

def mintReward (now : Nat) (self : Address) (epoch : Nat)
    (recipient : Address) (claimableAmount reserveAmount : Nat) :
    Tx RewardsError (Gate × Erc20) := do
  let (gate, ants) ← claimNonzero gate ants now self epoch recipient claimableAmount
  mintReserve gate ants now self epoch reserveAmount

def agentOwner (ctx : CallContext) (agentId : Word) : Tx RewardsError Address := do
  let owner ← answer (ctx.outside.identityOwnerOf agentId)
  require (owner ≠ 0) .invalidAddress
  pure owner

def buyerRewardRecipient (ctx : CallContext) (buyer : Address) :
    Tx RewardsError Address := do
  require (r.operatorSource ≠ 0) .rewardRecipientUnavailable
  let operator ← answer (ctx.outside.getOperator r.operatorSource buyer)
  require (operator ≠ 0) .rewardRecipientUnavailable
  pure operator

def prepareAgentReward
    (ctx : CallContext) (agentId : Word) (epoch : Nat) (claimant : Address) :
    Tx RewardsError (UsageRewards × PreparedReward) := do
  require (agentId ≠ 0) .invalidAddress
  require (r.agentEpochClaimed agentId epoch = false) .alreadyClaimed
  let weightedPoints := accounting.weightedPoolPointsByEpoch epoch agentId
  let totalWeightedPoints := accounting.totalWeightedPoolPointsByEpoch epoch
  let (r, _, sellerBudget) ←
    r.freezeUsageEpochBudgets gate accounting ctx.addresses.usageRewards epoch
  let (grossAmount, claimableAmount, reserveAmount) ←
    rewardAmounts sellerBudget weightedPoints totalWeightedPoints
  let recipient ← agentOwner ctx agentId
  require (claimant = recipient) .notRewardRecipient
  let claimed := update r.agentEpochClaimed agentId (update (r.agentEpochClaimed agentId) epoch true)
  pure ({ r with agentEpochClaimed := claimed },
    ⟨recipient, weightedPoints, totalWeightedPoints, grossAmount, claimableAmount, reserveAmount⟩)

def prepareBuyerReward
    (ctx : CallContext) (buyer : Address) (epoch : Nat) :
    Tx RewardsError (UsageRewards × PreparedReward) := do
  require (buyer ≠ 0) .invalidAddress
  require (r.buyerEpochClaimed buyer epoch = false) .alreadyClaimed
  let weightedPoints := accounting.weightedBuyerPointsByEpoch epoch buyer
  let totalWeightedPoints := accounting.totalWeightedBuyerPointsByEpoch epoch
  let (r, buyerBudget, _) ←
    r.freezeUsageEpochBudgets gate accounting ctx.addresses.usageRewards epoch
  let (grossAmount, claimableAmount, reserveAmount) ←
    rewardAmounts buyerBudget weightedPoints totalWeightedPoints
  let recipient ← r.buyerRewardRecipient ctx buyer
  require (ctx.sender = recipient) .notRewardRecipient
  let claimed := update r.buyerEpochClaimed buyer (update (r.buyerEpochClaimed buyer) epoch true)
  pure ({ r with buyerEpochClaimed := claimed },
    ⟨recipient, weightedPoints, totalWeightedPoints, grossAmount, claimableAmount, reserveAmount⟩)

/-- Pools at another address take what they want of the approved amount. -/
def stakeApproved (pools : Pools.SellerPools) (ctx : CallContext)
    (staker : Address) (stakeAgentId : Word) (amount stakeEpochs : Nat) :
    Tx RewardsError (Erc20 × Pools.SellerPools) :=
  let self := ctx.addresses.usageRewards
  if r.sellerPools = ctx.addresses.pools then do
    let (pools, ants) ← bubble .pools
      (pools.stakeFor ants (ctx.toPools self) staker stakeAgentId amount stakeEpochs)
    pure (ants, pools)
  else do
    let taken ← answer (ctx.outside.stakeFor r.sellerPools amount)
    let ants ← ants.transferFrom r.sellerPools self r.sellerPools taken
    pure (ants, pools)

def stakeClaimedReward (pools : Pools.SellerPools)
    (ctx : CallContext) (stakeAgentId : Word) (stakeEpochs epoch : Nat) (reward : PreparedReward) :
    Tx RewardsError (Gate × Erc20 × Pools.SellerPools) := do
  let self := ctx.addresses.usageRewards
  require (r.sellerPools ≠ 0) .invalidAddress
  let (gate, ants) ←
    mintReward gate ants ctx.now self epoch self reward.claimableAmount reward.reserveAmount
  let ants := ants.approve self r.sellerPools reward.claimableAmount
  let (ants, pools) ← r.stakeApproved ants pools ctx reward.recipient stakeAgentId
    reward.claimableAmount stakeEpochs
  pure (gate, ants.approve self r.sellerPools 0, pools)

/-- The tail of every claim. -/
def payReward (ctx : CallContext) (epoch : Nat)
    (reward : PreparedReward) : Tx RewardsError (UsageRewards × Gate × Erc20) := do
  let (gate, ants) ← mintReward gate ants ctx.now ctx.addresses.usageRewards epoch reward.recipient
    reward.claimableAmount reward.reserveAmount
  pure (r, gate, ants)

/-- `_claimAgentReward` -/
def claimAgentRewardOf
    (accounting : UsageAccounting) (ctx : CallContext) (agentId : Word) (epoch : Nat)
    (claimant : Address) : Tx RewardsError (UsageRewards × Gate × Erc20) := do
  let (r, reward) ← r.prepareAgentReward gate accounting ctx agentId epoch claimant
  r.payReward gate ants ctx epoch reward

def claimAgentReward (accounting : UsageAccounting)
    (ctx : CallContext) (agentId : Word) (epoch : Nat) :
    Tx RewardsError (UsageRewards × Gate × Erc20) := do
  bubble .admin r.admin.requireNotPaused
  r.claimAgentRewardOf gate ants accounting ctx agentId epoch ctx.sender

def claimAgentRewardFor
    (accounting : UsageAccounting) (ctx : CallContext) (seller : Address) (agentId : Word)
    (epoch : Nat) : Tx RewardsError (UsageRewards × Gate × Erc20) := do
  bubble .admin r.admin.requireNotPaused
  require (¬ (ctx.sender ≠ r.claimForwarder ∨ r.claimForwarder = 0)) .notClaimForwarder
  r.claimAgentRewardOf gate ants accounting ctx agentId epoch seller

def stakeAgentReward (accounting : UsageAccounting)
    (pools : Pools.SellerPools) (ctx : CallContext) (agentId : Word) (epoch stakeEpochs : Nat) :
    Tx RewardsError (UsageRewards × Gate × Erc20 × Pools.SellerPools) := do
  bubble .admin r.admin.requireNotPaused
  let (r, reward) ← r.prepareAgentReward gate accounting ctx agentId epoch ctx.sender
  let (gate, ants, pools) ←
    r.stakeClaimedReward gate ants pools ctx agentId stakeEpochs epoch reward
  pure (r, gate, ants, pools)

def claimBuyerReward (accounting : UsageAccounting)
    (ctx : CallContext) (buyer : Address) (epoch : Nat) :
    Tx RewardsError (UsageRewards × Gate × Erc20) := do
  bubble .admin r.admin.requireNotPaused
  let (r, reward) ← r.prepareBuyerReward gate accounting ctx buyer epoch
  r.payReward gate ants ctx epoch reward

def stakeBuyerReward (accounting : UsageAccounting)
    (pools : Pools.SellerPools) (ctx : CallContext) (buyer : Address) (epoch : Nat)
    (stakeAgentId : Word) (stakeEpochs : Nat) :
    Tx RewardsError (UsageRewards × Gate × Erc20 × Pools.SellerPools) := do
  bubble .admin r.admin.requireNotPaused
  require (stakeAgentId ≠ 0) .invalidAddress
  let (r, reward) ← r.prepareBuyerReward gate accounting ctx buyer epoch
  let (gate, ants, pools) ←
    r.stakeClaimedReward gate ants pools ctx stakeAgentId stakeEpochs epoch reward
  pure (r, gate, ants, pools)

/-- What claimants can get of an epoch: a side without points has none. -/
def allocatedBudget (epoch buyerBudget sellerBudget : Nat) :
    Tx RewardsError Nat := do
  let buyers := if accounting.totalWeightedBuyerPointsByEpoch epoch ≠ 0 then buyerBudget else 0
  let sellers := if accounting.totalWeightedPoolPointsByEpoch epoch ≠ 0 then sellerBudget else 0
  uint 256 (buyers + sellers)

def settleEpochRemainder
    (accounting : UsageAccounting) (ctx : CallContext) (epoch : Nat) :
    Tx RewardsError (UsageRewards × Gate × Erc20) := do
  let self := ctx.addresses.usageRewards
  bubble .admin r.admin.requireNotPaused
  require (r.epochRemainderSettled epoch = false) .alreadyClaimed
  let maxBudget ← bubble .gate (gate.controllerEpochBudget self epoch)
  let (r, buyerBudget, sellerBudget) ← r.freezeUsageEpochBudgetsTo accounting epoch maxBudget
  let allocated ← allocatedBudget accounting epoch buyerBudget sellerBudget
  require (allocated < maxBudget) .nothingToClaim
  let unallocatedAmount ← sub maxBudget allocated
  let r := { r with epochRemainderSettled := update r.epochRemainderSettled epoch true }
  let reserve ← requireReserve gate
  let (gate, ants, _) ←
    bubble .gate (gate.claimRemainder ants ctx.now self epoch reserve unallocatedAmount)
  pure (r, gate, ants)

end

def pendingReward (epochBudget weightedPoints totalWeightedPoints : Nat) : Tx RewardsError Nat :=
  if weightedPoints = 0 ∨ totalWeightedPoints = 0 then pure 0
  else do
    let scaled ← uint 256 (epochBudget * weightedPoints)
    let grossAmount ← div scaled totalWeightedPoints
    let scaledCap ← uint 256 (epochBudget * maxRewardShareBps)
    let cap := scaledCap / rewardBpsDenominator
    pure (if grossAmount < cap then grossAmount else cap)

def pendingAgentReward
    (self : Address) (agentId : Word) (epoch : Nat) : Tx RewardsError Nat := do
  let (_, sellerBudget) ← r.usageEpochBudgets gate accounting self epoch
  pendingReward sellerBudget (accounting.weightedPoolPointsByEpoch epoch agentId)
    (accounting.totalWeightedPoolPointsByEpoch epoch)

def pendingBuyerReward
    (self buyer : Address) (epoch : Nat) : Tx RewardsError Nat := do
  let (buyerBudget, _) ← r.usageEpochBudgets gate accounting self epoch
  pendingReward buyerBudget (accounting.weightedBuyerPointsByEpoch epoch buyer)
    (accounting.totalWeightedBuyerPointsByEpoch epoch)

end UsageRewards

namespace UsageAccounting

def sellerPoolAgentId (s : UsageAccounting) (pools : Pools.SellerPools) (ctx : CallContext)
    (seller : Address) : Tx RewardsError Word :=
  if s.sellerPools = 0 then pure 0 else answer (ctx.agentIdForSeller pools s.sellerPools seller)

/-- A revert of `rewardRecipient` is caught. -/
def isAgentRewardRecipient (ctx : CallContext) (agentId : Word) (account : Address) : Bool :=
  match UsageRewards.agentOwner ctx agentId with
  | .ok recipient => decide (recipient = account)
  | .error _ => false

/-- The loop of `claimSellerEmissions`: the ledger claims for the seller that called it. -/
def claimEpochs (s : UsageAccounting) (ctx : CallContext) (agentId : Word) :
    List Nat → UsageRewards → Gate → Erc20 → Tx RewardsError (UsageRewards × Gate × Erc20)
  | [], rewards, gate, ants => pure (rewards, gate, ants)
  | epoch :: rest, rewards, gate, ants =>
    if epoch < s.firstRewardedEpoch then s.claimEpochs ctx agentId rest rewards gate ants
    else if rewards.agentEpochClaimed agentId epoch then
      s.claimEpochs ctx agentId rest rewards gate ants
    else do
      let pending ←
        rewards.pendingAgentReward gate s ctx.addresses.usageRewards agentId epoch
      if pending = 0 then s.claimEpochs ctx agentId rest rewards gate ants
      else do
        let forwarded := { ctx with sender := ctx.addresses.accounting }
        let (rewards, gate, ants) ←
          rewards.claimAgentRewardFor gate ants s forwarded ctx.sender agentId epoch
        s.claimEpochs ctx agentId rest rewards gate ants

/-- `claimSellerEmissions` of a ledger that points at the modelled controller. -/
def claimSellerEmissions (s : UsageAccounting) (rewards : UsageRewards) (gate : Gate) (ants : Erc20)
    (pools : Pools.SellerPools) (ctx : CallContext) (epochs : List Nat) :
    Tx RewardsError (UsageRewards × Gate × Erc20) := do
  require (s.usageRewards ≠ 0) .usageRewardsNotSet
  let agentId ← s.sellerPoolAgentId pools ctx ctx.sender
  if agentId = 0 then pure (rewards, gate, ants)
  else if isAgentRewardRecipient ctx agentId ctx.sender = false then pure (rewards, gate, ants)
  else s.claimEpochs ctx agentId epochs rewards gate ants

end UsageAccounting

end AntSeed.Emissions
