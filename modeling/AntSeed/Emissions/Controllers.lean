import AntSeed.Lib.Admin
import AntSeed.Emissions.Gate
import AntSeed.Pools.SellerPools

/-! # What the reward controllers share

Both reward controllers mint through the gate and size their budgets on a
saturating curve whose parameters the owner may change. A change takes effect in
the next epoch; the outgoing parameters stay in storage beside the scheduled
ones. The contracts the controllers only ask (identities, operators, policies)
are outside the model and may answer anything or revert.
-/

namespace AntSeed.Emissions

open Evm

/-- Errors of the ledger and of the reward controllers. Calls between the contracts bubble. -/
inductive RewardsError where
  | invalidAddress | invalidValue | alreadyClaimed | nothingToClaim | notRewardRecipient
  | rewardRecipientUnavailable | notClaimForwarder | notPositionOwner | noPendingSellerAccrual
  | usageRewardsNotSet
  | admin (error : AdminError)
  | gate (error : GateError)
  | pools (error : Pools.Error)
  deriving DecidableEq, Repr

structure Scheduled (κ : Type) where
  currentConfig : κ
  pendingConfig : κ
  /-- first epoch the successor applies to; 0 = none scheduled -/
  pendingFromEpoch : Nat := 0

namespace Scheduled

variable {κ : Type}

/-- The storage left by the constructor. -/
def initial [Inhabited κ] (config : κ) : Scheduled κ :=
  { currentConfig := config, pendingConfig := default }

/-- The body of both setters. A scheduled successor that has taken effect becomes current. -/
def schedule (s : Scheduled κ) (fromEpoch : Nat) (config : κ) : Scheduled κ where
  currentConfig :=
    if s.pendingFromEpoch ≠ 0 ∧ s.pendingFromEpoch < fromEpoch then s.pendingConfig
    else s.currentConfig
  pendingConfig := config
  pendingFromEpoch := fromEpoch

/-- The body of both views. -/
def configAt (s : Scheduled κ) (epoch : Nat) : κ :=
  if s.pendingFromEpoch ≠ 0 ∧ epoch ≥ s.pendingFromEpoch then s.pendingConfig
  else s.currentConfig

end Scheduled

def gateShareDenominator : Nat := 100000

/-- `AntseedShareMath.saturatingShareBps`: from the minimum towards the maximum as the metric
    grows past the target. -/
def saturatingShareBps (metric minShareBps maxShareBps target : Nat) : Tx RewardsError Nat :=
  if metric = 0 then pure 0
  else if target = 0 then pure maxShareBps
  else do
    let spread ← sub maxShareBps minShareBps
    let scale ← uint 256 (metric + target)
    let rise ← mulDiv spread metric scale
    let share ← uint 256 (minShareBps + rise)
    pure (share % 2 ^ 32)

/-- `_emissionsReserve` of both controllers. -/
def requireReserve (gate : Gate) : Tx RewardsError Address := do
  require (gate.emissionsReserve ≠ 0) .invalidAddress
  pure gate.emissionsReserve

/-- `if (amount != 0) emissionsGate.claim(epoch, recipient, amount);` -/
def claimNonzero (gate : Gate) (ants : Erc20) (now : Nat) (self : Address) (epoch : Nat)
    (recipient : Address) (amount : Nat) : Tx RewardsError (Gate × Erc20) :=
  if amount ≠ 0 then bubble .gate (gate.claim ants now self epoch recipient amount)
  else pure (gate, ants)

/-- The answers of the contracts outside the model during one call; `none` reverts. -/
structure Outside where
  identityOwnerOf : Word → Option Address
  stakingAgentId : Address → Address → Option Word
  /-- `getOperator` of the deposits contract at an address -/
  getOperator : Address → Address → Option Address
  onERC721Received : Nat → Option (List (Address × Pools.Unguarded))
  /-- `agentIdForSeller` of other pools, at an address -/
  agentIdForSeller : Address → Address → Option Word
  /-- `poolWeightAtEpoch` of other pools, at an address -/
  poolWeightAtEpoch : Address → Word → Nat → Option Word
  /-- how much other pools, at an address, take of an amount they were approved for -/
  stakeFor : Address → Nat → Option Nat
  /-- `poolWeight` of the policy at an address, for an agent, an epoch and a power -/
  poolWeight : Address → Word → Nat → Nat → Option Word
  /-- `points` of the policy at an address: those of the seller and those of the buyer -/
  points : Address → Word → Address → Address → Nat → Option (Word × Word)

/-- The addresses of the contracts of the model. -/
structure Addresses where
  pools : Address
  accounting : Address
  usageRewards : Address
  poolsRewards : Address
  deriving DecidableEq

/-- A call of one of the contracts. -/
structure CallContext where
  sender : Address
  now : Nat
  addresses : Addresses
  outside : Outside

namespace CallContext

/-- The same call as the pools see it, made by one of the contracts or passed on. -/
def toPools (ctx : CallContext) (sender : Address) : Pools.Context where
  sender := sender
  self := ctx.addresses.pools
  epoch := currentEpoch ctx.now
  identityOwnerOf := ctx.outside.identityOwnerOf
  stakingAgentId := ctx.outside.stakingAgentId
  onERC721Received := ctx.outside.onERC721Received

/-- `agentIdForSeller` of the pools at an address. -/
def agentIdForSeller (ctx : CallContext) (pools : Pools.SellerPools) (target seller : Address) :
    Option Word :=
  if target = ctx.addresses.pools then pools.agentIdForSeller ctx.outside.stakingAgentId seller
  else ctx.outside.agentIdForSeller target seller

/-- `poolWeightAtEpoch` of the pools at an address. -/
def poolWeightAtEpoch (ctx : CallContext) (pools : Pools.SellerPools) (target : Address)
    (agentId : Word) (epoch : Nat) : Option Nat :=
  if target = ctx.addresses.pools then (pools.poolWeightAtEpoch agentId epoch).toOption
  else (ctx.outside.poolWeightAtEpoch target agentId epoch).map fun w => w.word.toNat

end CallContext

end AntSeed.Emissions
