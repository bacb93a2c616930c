import AntSeed.Emissions.SellerPoolsRewards
import AntSeed.Emissions.UsageRewards
import AntSeed.Pools.System

/-! # The emission contracts together

The gate, the token, the pools, the ledger and the two reward controllers as one
state, and everything that can be done to it from outside: calls of any of the
contracts by accounts that are not one of them, moves of ANTS, and the passage
of time. Block timestamps are 64-bit numbers.
-/

namespace AntSeed.Emissions

open Evm
open Pools (SellerPools)

structure Protocol where
  now : Nat
  gate : Gate
  ants : Erc20
  pools : SellerPools
  accounting : UsageAccounting
  usageRewards : UsageRewards
  poolsRewards : SellerPoolsRewards

/-- The contracts have addresses of their own. -/
structure Addresses.Separate (a : Addresses) : Prop where
  usage_pools : a.usageRewards ≠ a.pools
  staker_pools : a.poolsRewards ≠ a.pools
  usage_staker : a.usageRewards ≠ a.poolsRewards
  accounting_pools : a.accounting ≠ a.pools
  accounting_usage : a.accounting ≠ a.usageRewards
  accounting_staker : a.accounting ≠ a.poolsRewards
  pools_zero : a.pools ≠ 0
  usage_zero : a.usageRewards ≠ 0
  staker_zero : a.poolsRewards ≠ 0
  accounting_zero : a.accounting ≠ 0

/-- An account that can start a call: none of the contracts, which only act when called. -/
def Addresses.Outsider (a : Addresses) (account : Address) : Prop :=
  account ≠ 0 ∧ account ≠ a.pools ∧ account ≠ a.accounting ∧ account ≠ a.usageRewards ∧
    account ≠ a.poolsRewards

instance (a : Addresses) (account : Address) : Decidable (a.Outsider account) :=
  inferInstanceAs (Decidable (_ ∧ _ ∧ _ ∧ _ ∧ _))

inductive ProtocolOperation where
  /-- the gate, the token and the clock -/
  | gate (op : GateOperation)
  | pools (op : Pools.Operation)
  | accrueSellerPoints (seller : Address) (pointsDelta : Nat)
  | accrueBuyerPoints (buyer : Address) (pointsDelta : Nat)
  | accruePoints (channelId : Word) (buyer seller : Address) (pointsDelta : Nat)
  | claimSellerEmissions (epochs : List Nat)
  | setAccounting (setting : UsageSetting)
  | administerAccounting (call : AdminCall)
  | claimAgentReward (agentId : Word) (epoch : Nat)
  | claimAgentRewardFor (seller : Address) (agentId : Word) (epoch : Nat)
  | stakeAgentReward (agentId : Word) (epoch stakeEpochs : Nat)
  | claimBuyerReward (buyer : Address) (epoch : Nat)
  | stakeBuyerReward (buyer : Address) (epoch : Nat) (stakeAgentId : Word) (stakeEpochs : Nat)
  | settleUsageRemainder (epoch : Nat)
  | setUsageRewards (setting : UsageRewardsSetting)
  | setDynamicUsageConfig (config : DynamicUsageConfig)
  | administerUsageRewards (call : AdminCall)
  | indexPoolRewards (agentId : Word) (maxEpochs : Nat)
  | claimStakerRewards (positionId : Nat) (recipient : Address)
  | claimStakerRewardsBatch (positionIds : List Nat) (recipient : Address)
  | restakeStakerRewards (positionId stakeEpochs : Nat)
  | restakeStakerRewardsBatch (positionIds : List Nat) (stakeEpochs : Nat)
  | settleStakerRemainder (epoch : Nat)
  | setDynamicStakerConfig (config : DynamicStakerConfig)
  | administerPoolsRewards (call : AdminCall)

structure ProtocolCall where
  sender : Address
  outside : Outside
  op : ProtocolOperation

namespace Protocol

section

variable (p : Protocol)

def gateState : GateState := ⟨p.now, p.gate, p.ants⟩

def context (addresses : Addresses) (call : ProtocolCall) : CallContext :=
  ⟨call.sender, p.now, addresses, call.outside⟩

def poolsCall (call : ProtocolCall) (op : Pools.Operation) : Pools.Call where
  sender := call.sender
  identityOwnerOf := call.outside.identityOwnerOf
  stakingAgentId := call.outside.stakingAgentId
  onERC721Received := call.outside.onERC721Received
  op := op

/-- What a claim or a settlement of usage rewards left. -/
def withUsage (result : UsageRewards × Gate × Erc20) : Protocol :=
  { p with usageRewards := result.1, gate := result.2.1, ants := result.2.2 }

def withUsageStake (result : UsageRewards × Gate × Erc20 × SellerPools) : Protocol :=
  { p with
    usageRewards := result.1, gate := result.2.1, ants := result.2.2.1, pools := result.2.2.2 }

def withIndex (result : SellerPoolsRewards × Gate × Erc20) : Protocol :=
  { p with poolsRewards := result.1, gate := result.2.1, ants := result.2.2 }

def withClaim (result : SellerPoolsRewards × Erc20) : Protocol :=
  { p with poolsRewards := result.1, ants := result.2 }

def withRestake (result : SellerPoolsRewards × Erc20 × SellerPools) : Protocol :=
  { p with poolsRewards := result.1, ants := result.2.1, pools := result.2.2 }

/-- A ledger that points at another controller has that one pay. -/
def claimSellerEmissions (ctx : CallContext) (epochs : List Nat) :
    Tx RewardsError Protocol :=
  if p.accounting.usageRewards = 0 ∨ p.accounting.usageRewards = ctx.addresses.usageRewards then do
    let result ← p.accounting.claimSellerEmissions p.usageRewards p.gate p.ants p.pools ctx epochs
    pure (p.withUsage result)
  else pure p

end

def perform (addresses : Addresses) (p : Protocol) (call : ProtocolCall) :
    Tx RewardsError Protocol :=
  let ctx := p.context addresses call
  match call.op with
  | .gate op => do
      let g ← bubble .gate (p.gateState.step ⟨call.sender, op⟩)
      decode 64 g.now
      pure { p with now := g.now, gate := g.gate, ants := g.ants }
  | .pools op => do
      let (pools, ants) ← bubble .pools
        (p.pools.perform p.ants addresses.pools (currentEpoch p.now) (poolsCall call op))
      pure { p with pools := pools, ants := ants }
  | .accrueSellerPoints seller pointsDelta => do
      let accounting ← p.accounting.accrueSellerPoints ctx seller pointsDelta
      pure { p with accounting := accounting }
  | .accrueBuyerPoints buyer pointsDelta => do
      let accounting ← p.accounting.accrueBuyerPoints p.pools ctx buyer pointsDelta
      pure { p with accounting := accounting }
  | .accruePoints channelId buyer seller pointsDelta => do
      let accounting ← p.accounting.accruePoints p.pools ctx channelId buyer seller pointsDelta
      pure { p with accounting := accounting }
  | .claimSellerEmissions epochs => p.claimSellerEmissions ctx epochs
  | .setAccounting setting => do
      let accounting ← p.accounting.set call.sender setting
      pure { p with accounting := accounting }
  | .administerAccounting admin => do
      let accounting ← p.accounting.administer call.sender admin
      pure { p with accounting := accounting }
  | .claimAgentReward agentId epoch => do
      let result ← p.usageRewards.claimAgentReward p.gate p.ants p.accounting ctx agentId epoch
      pure (p.withUsage result)
  | .claimAgentRewardFor seller agentId epoch => do
      let result ←
        p.usageRewards.claimAgentRewardFor p.gate p.ants p.accounting ctx seller agentId epoch
      pure (p.withUsage result)
  | .stakeAgentReward agentId epoch stakeEpochs => do
      let result ← p.usageRewards.stakeAgentReward p.gate p.ants p.accounting p.pools ctx agentId
        epoch stakeEpochs
      pure (p.withUsageStake result)
  | .claimBuyerReward buyer epoch => do
      let result ← p.usageRewards.claimBuyerReward p.gate p.ants p.accounting ctx buyer epoch
      pure (p.withUsage result)
  | .stakeBuyerReward buyer epoch stakeAgentId stakeEpochs => do
      let result ← p.usageRewards.stakeBuyerReward p.gate p.ants p.accounting p.pools ctx buyer
        epoch stakeAgentId stakeEpochs
      pure (p.withUsageStake result)
  | .settleUsageRemainder epoch => do
      let result ← p.usageRewards.settleEpochRemainder p.gate p.ants p.accounting ctx epoch
      pure (p.withUsage result)
  | .setUsageRewards setting => do
      let rewards ← p.usageRewards.set call.sender setting
      pure { p with usageRewards := rewards }
  | .setDynamicUsageConfig config => do
      let rewards ← p.usageRewards.setDynamicUsageConfig p.now call.sender config
      pure { p with usageRewards := rewards }
  | .administerUsageRewards admin => do
      let rewards ← p.usageRewards.administer call.sender admin
      pure { p with usageRewards := rewards }
  | .indexPoolRewards agentId maxEpochs => do
      let result ← p.poolsRewards.indexPoolRewards p.gate p.ants p.accounting p.pools ctx agentId
        maxEpochs
      pure (p.withIndex result)
  | .claimStakerRewards positionId recipient => do
      let result ← p.poolsRewards.claimStakerRewards p.ants p.pools ctx positionId recipient
      pure (p.withClaim result)
  | .claimStakerRewardsBatch positionIds recipient => do
      let result ← p.poolsRewards.claimStakerRewardsBatch p.ants p.pools ctx positionIds recipient
      pure (p.withClaim result)
  | .restakeStakerRewards positionId stakeEpochs => do
      let result ← p.poolsRewards.restakeStakerRewards p.ants p.pools ctx positionId stakeEpochs
      pure (p.withRestake result)
  | .restakeStakerRewardsBatch positionIds stakeEpochs => do
      let result ←
        p.poolsRewards.restakeStakerRewardsBatch p.ants p.pools ctx positionIds stakeEpochs
      pure (p.withRestake result)
  | .settleStakerRemainder epoch => do
      let result ←
        p.poolsRewards.settleEpochRemainder p.gate p.ants p.accounting p.pools ctx epoch
      pure (p.withIndex result)
  | .setDynamicStakerConfig config => do
      let rewards ← p.poolsRewards.setDynamicStakerConfig p.now call.sender config
      pure { p with poolsRewards := rewards }
  | .administerPoolsRewards admin => do
      let rewards ← p.poolsRewards.administer call.sender admin
      pure { p with poolsRewards := rewards }

def step (addresses : Addresses) (p : Protocol) (call : ProtocolCall) : Tx RewardsError Protocol := do
  require (addresses.Outsider call.sender) .invalidAddress
  p.perform addresses call

end Protocol

def protocolMachine (addresses : Addresses) :
    Machine Protocol ProtocolCall (Revert RewardsError) := ⟨Protocol.step addresses⟩

/-- What the deployer chooses; it becomes the owner of every contract. -/
structure Deployment where
  deployer : Address
  emissionsGate : Address
  antsToken : Address
  identityRegistry : Address
  teamWallet : Address
  protocolReserve : Address
  teamShareBps : Nat
  reserveShareBps : Nat
  stakingSource : Address
  initialRecorder : Address
  operatorSource : Address

/-- Every contract is deployed at the given time, over a token that may have a history. -/
def Deployment.deploy (d : Deployment) (addresses : Addresses) (now : Nat) (ants : Erc20) :
    Tx RewardsError Protocol := do
  decode 64 now
  let gate ← bubble .gate (Gate.construct now d.deployer d.teamWallet d.protocolReserve
    d.teamShareBps d.reserveShareBps)
  require (¬ (d.antsToken = 0 ∨ d.emissionsGate = 0 ∨ d.identityRegistry = 0)) .invalidAddress
  let accounting ← UsageAccounting.construct d.deployer addresses.pools d.initialRecorder
    d.emissionsGate gate.effectiveEpoch
  let usageRewards ← UsageRewards.construct d.deployer d.emissionsGate addresses.accounting
    d.identityRegistry d.operatorSource
  let poolsRewards ← SellerPoolsRewards.construct now d.deployer d.emissionsGate addresses.pools
    addresses.accounting d.antsToken
  pure {
    now := now
    gate := gate
    ants := ants
    pools := { owner := d.deployer, stakingSource := d.stakingSource }
    accounting := accounting
    usageRewards := usageRewards
    poolsRewards := poolsRewards }

/-! A deployment to try runs on. Account 6 owns agent 1 and operates for every buyer. -/

def contracts : Addresses := ⟨⟨101⟩, ⟨102⟩, ⟨103⟩, ⟨104⟩⟩

theorem contracts_separate : contracts.Separate := by
  constructor <;> decide

def world : Outside where
  identityOwnerOf _ := some ⟨6⟩
  stakingAgentId _ _ := some ⟨1⟩
  getOperator _ _ := some ⟨6⟩
  onERC721Received _ := some []
  agentIdForSeller _ _ := none
  poolWeightAtEpoch _ _ _ := none
  stakeFor _ _ := none
  poolWeight _ _ _ _ := none
  points _ _ _ _ _ := none

def launchPlan : Deployment where
  deployer := ⟨9⟩
  emissionsGate := ⟨100⟩
  antsToken := ⟨105⟩
  identityRegistry := ⟨106⟩
  teamWallet := ⟨1⟩
  protocolReserve := ⟨2⟩
  teamShareBps := 10000
  reserveShareBps := 20000
  stakingSource := ⟨107⟩
  initialRecorder := ⟨8⟩
  operatorSource := ⟨108⟩

end AntSeed.Emissions
