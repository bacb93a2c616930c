import AntSeed.Lib.Machine
import AntSeed.Pools.SellerPools

/-! # Runs of AntseedSellerPools

Everything that can happen to the pools: calls by anyone, transfers of positions,
the owner's configuration, the passage of epochs, and moves of ANTS between
other accounts. Block timestamps are 64-bit numbers, so epochs are too.
-/

namespace AntSeed.Pools

open Evm

inductive Operation where
  | stakeFor (staker : Address) (agentId : Word) (amount stakeEpochs : Nat)
  | stakeMintedReward (staker : Address) (sourcePositionId amount stakeEpochs : Nat)
  | moveStake (positionId : Nat) (toAgentId : Word)
  | moveStakes (positionIds : List Nat) (toAgentId : Word)
  | extendLock (positionId additionalEpochs : Nat)
  | enableMaxLock (positionId : Nat)
  | disableMaxLock (positionId : Nat)
  | splitStake (positionId splitAmount : Nat)
  | mergeStakes (positionIds : List Nat)
  | withdrawStake (positionId : Nat)
  | withdrawStakes (positionIds : List Nat)
  | safeTransferFrom (source target : Address) (positionId : Nat)
  | unguarded (call : Unguarded)

/-- A call of the contract with the answers of the world around it. -/
structure Call where
  sender : Address
  identityOwnerOf : Word → Option Address
  stakingAgentId : Address → Address → Option Word
  onERC721Received : Nat → Option (List (Address × Unguarded))
  op : Operation

def Call.context (call : Call) (self : Address) (epoch : Nat) : Context where
  sender := call.sender
  self := self
  epoch := epoch
  identityOwnerOf := call.identityOwnerOf
  stakingAgentId := call.stakingAgentId
  onERC721Received := call.onERC721Received

namespace SellerPools

def perform (s : SellerPools) (ants : Erc20) (self : Address) (epoch : Nat) (call : Call) :
    Tx Error (SellerPools × Erc20) :=
  let ctx := call.context self epoch
  match call.op with
  | .stakeFor staker agentId amount stakeEpochs =>
    s.stakeFor ants ctx staker agentId amount stakeEpochs
  | .stakeMintedReward staker sourcePositionId amount stakeEpochs => do
      let (s, _) ← s.stakeMintedReward ctx staker sourcePositionId amount stakeEpochs
      pure (s, ants)
  | .moveStake positionId toAgentId => do
      let s ← s.moveStake ctx positionId toAgentId
      pure (s, ants)
  | .moveStakes positionIds toAgentId => do
      let s ← s.moveStakes ctx positionIds toAgentId
      pure (s, ants)
  | .extendLock positionId additionalEpochs => do
      let s ← s.extendLock ctx positionId additionalEpochs
      pure (s, ants)
  | .enableMaxLock positionId => do
      let s ← s.enableMaxLock ctx positionId
      pure (s, ants)
  | .disableMaxLock positionId => do
      let s ← s.disableMaxLock ctx positionId
      pure (s, ants)
  | .splitStake positionId splitAmount => do
      let s ← s.splitStake ctx positionId splitAmount
      pure (s, ants)
  | .mergeStakes positionIds => do
      let s ← s.mergeStakes ctx positionIds
      pure (s, ants)
  | .withdrawStake positionId => s.withdrawStake ants ctx positionId
  | .withdrawStakes positionIds => s.withdrawStakes ants ctx positionIds
  | .safeTransferFrom source target positionId => do
      let s ← s.safeTransferFrom ctx source target positionId
      pure (s, ants)
  | .unguarded op => do
      let s ← s.unguarded call.sender op
      pure (s, ants)

end SellerPools

structure State where
  epoch : Nat
  pools : SellerPools
  ants : Erc20

inductive Event where
  | call (call : Call)
  | elapse (epochs : Nat)
  | antsMint (target : Address) (amount : Nat)
  | antsApprove (owner spender : Address) (amount : Nat)
  | antsTransfer (source target : Address) (amount : Nat)

def step (self : Address) (s : State) : Event → Tx Error State
  | .call call => do
      require (call.sender ≠ self ∧ call.sender ≠ 0) .invalidAddress
      let (pools, ants) ← s.pools.perform s.ants self s.epoch call
      pure { s with pools := pools, ants := ants }
  | .elapse epochs => do
      decode 64 (s.epoch + epochs)
      pure { s with epoch := s.epoch + epochs }
  | .antsMint target amount => do
      let ants ← s.ants.mint target amount
      pure { s with ants := ants }
  | .antsApprove owner spender amount =>
    pure { s with ants := s.ants.approve owner spender amount }
  | .antsTransfer source target amount => do
      require (source ≠ self) .invalidAddress
      let ants ← s.ants.transfer source target amount
      pure { s with ants := ants }

/-- The freshly deployed contract. -/
def deployed (owner stakingSource : Address) : State where
  epoch := 0
  pools := { owner := owner, stakingSource := stakingSource }
  ants := .empty

def machine (self : Address) : Machine State Event (Revert Error) := ⟨step self⟩

def run (self owner stakingSource : Address) (events : List Event) : State :=
  (machine self).run (deployed owner stakingSource) events

end AntSeed.Pools
