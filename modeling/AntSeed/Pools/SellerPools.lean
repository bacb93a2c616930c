import AntSeed.Lib.BinarySearch
import AntSeed.Lib.Checkpoints
import AntSeed.Lib.Erc20
import AntSeed.Lib.Erc721
import AntSeed.Pools.PowerTree

/-! # AntseedSellerPools

Stake pools keyed by agent id. A position locks ANTS for a window of epochs; its
power at an epoch is its weight times the epochs left, or the maximum while it
is max-locked. Pools keep their power twice: as checkpoint histories of every
position, and as range deltas in one tree per agent and one for all agents.

The emissions gate is read only for the current epoch, so the epoch is an input
of every call. The identity registry and the staking source are outside
contracts that may answer anything. A receiver of a position token that is a
contract is called back and may call the functions that are not guarded against
reentrancy before it accepts or refuses.
-/

namespace AntSeed.Pools

open Evm Function

def bpsDenominator : Nat := 10000
def maxStakeEpochs : Nat := 104
def maxRestakedRewardWeightBonusBps : Nat := 2000
def deadAddress : Address := ⟨0xdEaD⟩

structure Position where
  owner : Address
  agentId : Word
  amount : Nat
  weightAmount : Nat
  stakeStartEpoch : Nat
  stakeEndEpoch : Nat
  closedAtEpoch : Nat
  withdrawn : Bool
  deriving DecidableEq, Repr

instance : Inhabited Position := ⟨⟨0, 0, 0, 0, 0, 0, 0, false⟩⟩

structure SellerPools where
  stakingSource : Address
  minStakeEpochs : Nat := 1
  stakeActivationDelay : Nat := 1
  maxSlashBps : Nat := 5000
  minEarlyExitSlashBps : Nat := 500
  restakedRewardWeightBonusBps : Nat := 500
  moveWeightPenaltyBps : Nat := 0
  nextPositionId : Nat := 1
  positions : Nat → Position := fun _ => default
  poolPowerTree : Word → FenwickTree := fun _ => .empty
  totalPowerTree : FenwickTree := .empty
  poolMaxLockWeightAmount : Word → Trace := fun _ => .empty
  totalMaxLockWeightAmount : Trace := .empty
  positionMaxLockPower : Nat → Trace := fun _ => .empty
  positionNormalStartEpoch : Nat → Trace := fun _ => .empty
  positionNormalEndEpoch : Nat → Trace := fun _ => .empty
  positionWithdrawableEpoch : Nat → Nat := fun _ => 0
  rewardStakers : Address → Bool := fun _ => false
  stakerPositionIds : Address → List Nat := fun _ => []
  stakerPositionIndex : Nat → Nat := fun _ => 0
  stakerTotalActiveStake : Address → Nat := fun _ => 0
  stakerAgentActiveStake : Address → Word → Nat := fun _ _ => 0
  nft : Erc721 := {}
  owner : Address
  pendingOwner : Address := 0

/-- The owner's setters. -/
inductive Setting where
  | stakingSource (source : Address)
  | poolConfig (minStakeEpochs stakeActivationDelay maxSlashBps minEarlyExitSlashBps : Nat)
  | rewardStaker (rewardStaker : Address) (allowed : Bool)
  | restakedRewardWeightBonus (bonusBps : Nat)
  | moveWeightPenalty (penaltyBps : Nat)

/-- The functions without a reentrancy guard. -/
inductive Unguarded where
  | transferFrom (source target : Address) (positionId : Nat)
  | approve (target : Address) (positionId : Nat)
  | setApprovalForAll (operator : Address) (approved : Bool)
  | set (setting : Setting)
  | transferOwnership (newOwner : Address)
  | acceptOwnership
  | renounceOwnership

/-- What a call sees of the world around the contract. -/
structure Context where
  sender : Address
  self : Address
  /-- `emissionsGate.currentEpoch()` -/
  epoch : Nat
  /-- `identityRegistry.ownerOf`, which may revert -/
  identityOwnerOf : Word → Option Address
  /-- `IAntseedStaking(source).getAgentId`, which may revert -/
  stakingAgentId : Address → Address → Option Word
  /-- what the receiver of a position does when called back; `none` refuses it -/
  onERC721Received : Nat → Option (List (Address × Unguarded))

namespace SellerPools

section

variable (s : SellerPools)

def addStakerPosition (staker : Address) (positionId : Nat) : SellerPools :=
  let ids := s.stakerPositionIds staker ++ [positionId]
  { s with
    stakerPositionIds := update s.stakerPositionIds staker ids
    stakerPositionIndex := update s.stakerPositionIndex positionId ids.length }

def removeStakerPosition (staker : Address) (positionId : Nat) :
    Tx Error SellerPools :=
  let index := s.stakerPositionIndex positionId
  if index = 0 then pure s
  else do
    let ids := s.stakerPositionIds staker
    let lastIndex ← sub ids.length 1
    if index - 1 ≠ lastIndex then
      match ids[lastIndex]? with
      | none => .error .outOfBounds
      | some lastPositionId =>
        if index - 1 < ids.length then
          pure { s with
            stakerPositionIds := update s.stakerPositionIds staker
              (ids.set (index - 1) lastPositionId).dropLast
            stakerPositionIndex := update (update s.stakerPositionIndex lastPositionId index)
              positionId 0 }
        else .error .outOfBounds
    else
      pure { s with
        stakerPositionIds := update s.stakerPositionIds staker ids.dropLast
        stakerPositionIndex := update s.stakerPositionIndex positionId 0 }

def setActiveStake (staker : Address) (agentId : Word) (total agent : Nat) :
    SellerPools :=
  { s with
    stakerTotalActiveStake := update s.stakerTotalActiveStake staker total
    stakerAgentActiveStake := update s.stakerAgentActiveStake staker
      (update (s.stakerAgentActiveStake staker) agentId agent) }

def increaseActiveStake (staker : Address) (agentId : Word) (amount : Nat) :
    Tx Error SellerPools := do
  let newTotalStake ← uint 256 (s.stakerTotalActiveStake staker + amount)
  let newAgentStake ← uint 256 (s.stakerAgentActiveStake staker agentId + amount)
  pure (s.setActiveStake staker agentId newTotalStake newAgentStake)

def decreaseActiveStake (staker : Address) (agentId : Word) (amount : Nat) :
    Tx Error SellerPools := do
  let newTotalStake ← sub (s.stakerTotalActiveStake staker) amount
  let newAgentStake ← sub (s.stakerAgentActiveStake staker agentId) amount
  pure (s.setActiveStake staker agentId newTotalStake newAgentStake)

def setPosition (positionId : Nat) (position : Position) : SellerPools :=
  { s with positions := update s.positions positionId position }

def ownerOf (positionId : Nat) : Tx Error Address := s.nft.requireOwned positionId

/-- `_update` with the portfolio bookkeeping of the override. -/
def handOver (target : Address) (tokenId : Nat) (auth : Address) :
    Tx Error (SellerPools × Address) := do
  let (nft, source) ← s.nft.handOver target tokenId auth
  let s := { s with nft := nft }
  if source = 0 then pure (s.addStakerPosition target tokenId, source)
  else if target = 0 then do
    let s ← s.removeStakerPosition source tokenId
    pure (s, source)
  else do
    let position := s.positions tokenId
    let s ← s.removeStakerPosition source tokenId
    let s := s.addStakerPosition target tokenId
    let s ← s.decreaseActiveStake source position.agentId position.amount
    let s ← s.increaseActiveStake target position.agentId position.amount
    pure (s.setPosition tokenId { position with owner := target }, source)

def transferFrom (sender source target : Address) (tokenId : Nat) :
    Tx Error SellerPools :=
  if target = 0 then .error (.erc721 .invalidReceiver)
  else do
    let (s, previousOwner) ← s.handOver target tokenId sender
    if previousOwner = source then pure s else .error (.erc721 .incorrectOwner)

def burn (tokenId : Nat) : Tx Error SellerPools := do
  let (s, previousOwner) ← s.handOver 0 tokenId 0
  if previousOwner = 0 then .error (.erc721 .nonexistentToken) else pure s

def set (sender : Address) (setting : Setting) : Tx Error SellerPools := do
  require (sender = s.owner) .ownableUnauthorizedAccount
  match setting with
  | .stakingSource source => do
      require (source ≠ 0) .invalidAddress
      pure { s with stakingSource := source }
  | .poolConfig minStakeEpochs stakeActivationDelay maxSlashBps minEarlyExitSlashBps => do
      require (¬ (minStakeEpochs = 0 ∨ minStakeEpochs > maxStakeEpochs ∨ stakeActivationDelay = 0 ∨
        stakeActivationDelay > maxStakeEpochs)) .invalidValue
      require (¬ (maxSlashBps > bpsDenominator ∨ minEarlyExitSlashBps > maxSlashBps)) .invalidValue
      pure { s with
        minStakeEpochs := minStakeEpochs
        stakeActivationDelay := stakeActivationDelay
        maxSlashBps := maxSlashBps
        minEarlyExitSlashBps := minEarlyExitSlashBps }
  | .rewardStaker rewardStaker allowed => do
      require (rewardStaker ≠ 0) .invalidAddress
      pure { s with rewardStakers := update s.rewardStakers rewardStaker allowed }
  | .restakedRewardWeightBonus bonusBps => do
      require (bonusBps ≤ maxRestakedRewardWeightBonusBps) .invalidValue
      pure { s with restakedRewardWeightBonusBps := bonusBps }
  | .moveWeightPenalty penaltyBps => do
      require (penaltyBps ≤ bpsDenominator) .invalidValue
      pure { s with moveWeightPenaltyBps := penaltyBps }

def unguarded (sender : Address) : Unguarded → Tx Error SellerPools
  | .transferFrom source target positionId => s.transferFrom sender source target positionId
  | .approve target positionId => do
      let nft ← s.nft.approve sender target positionId
      pure { s with nft := nft }
  | .setApprovalForAll operator approved => do
      let nft ← s.nft.setApprovalForAll sender operator approved
      pure { s with nft := nft }
  | .set setting => s.set sender setting
  | .transferOwnership newOwner => do
      require (sender = s.owner) .ownableUnauthorizedAccount
      pure { s with pendingOwner := newOwner }
  | .acceptOwnership => do
      require (sender = s.pendingOwner) .ownableUnauthorizedAccount
      pure { s with owner := sender, pendingOwner := 0 }
  | .renounceOwnership => do
      require (sender = s.owner) .ownableUnauthorizedAccount
      pure { s with owner := 0, pendingOwner := 0 }

/-- One call by a receiver or by another account it calls; a receiver may go on after
    such a call reverted. The zero address never calls. -/
def reenter (call : Address × Unguarded) : SellerPools :=
  if call.1 = 0 then s
  else
    match s.unguarded call.1 call.2 with
    | .ok s' => s'
    | .error _ => s

variable (ctx : Context)

/-- `ERC721Utils.checkOnERC721Received`; an account without code is not asked. -/
def checkOnERC721Received (positionId : Nat) :
    Tx Error SellerPools :=
  match ctx.onERC721Received positionId with
  | none => .error (.erc721 .invalidReceiver)
  | some calls => pure (calls.foldl reenter s)

def safeTransferFrom (source target : Address)
    (tokenId : Nat) : Tx Error SellerPools := do
  let s ← s.transferFrom ctx.sender source target tokenId
  s.checkOnERC721Received ctx tokenId

def safeMint (target : Address) (tokenId : Nat) :
    Tx Error SellerPools :=
  if target = 0 then .error (.erc721 .invalidReceiver)
  else do
    let (s, previousOwner) ← s.handOver target tokenId 0
    if previousOwner = 0 then s.checkOnERC721Received ctx tokenId
    else .error (.erc721 .invalidSender)

/-- `int256(amount)` keeps the bits; the negation is checked. -/
def signedAmount (amount : Nat) (add : Bool) : Tx Error Int :=
  let signed := (BitVec.ofNat 256 amount).toInt
  if add then pure signed else int 256 (-signed)

def applyPowerRange (agentId : Word) (startEpoch stakeEndEpoch amount : Nat)
    (add : Bool) : Tx Error SellerPools := do
  let signed ← signedAmount amount add
  let weightedEnd ← uint 256 (amount * stakeEndEpoch)
  let signedWeightedEnd ← signedAmount weightedEnd add
  let pool ← (s.poolPowerTree agentId).applyRangeDelta startEpoch stakeEndEpoch signed
    signedWeightedEnd
  let total ← s.totalPowerTree.applyRangeDelta startEpoch stakeEndEpoch signed signedWeightedEnd
  pure { s with poolPowerTree := update s.poolPowerTree agentId pool, totalPowerTree := total }

def addPowerRange (agentId : Word) (startEpoch stakeEndEpoch amount : Nat) :
    Tx Error SellerPools := s.applyPowerRange agentId startEpoch stakeEndEpoch amount true

def removePowerRange (agentId : Word) (startEpoch stakeEndEpoch amount : Nat) :
    Tx Error SellerPools := s.applyPowerRange agentId startEpoch stakeEndEpoch amount false

/-- Push the latest value of a trace, moved by `amount`. -/
def pushMoved (trace : Trace) (epoch amount : Nat) (add : Bool) : Tx Error Trace := do
  let value ← (if add then uint 256 (trace.latest + amount) else sub trace.latest amount)
  trace.push epoch value

def applyMaxLockWeightAmount (agentId : Word) (epoch amount : Nat) (add : Bool) :
    Tx Error SellerPools := do
  let poolTrace ← pushMoved (s.poolMaxLockWeightAmount agentId) epoch amount add
  let totalTrace ← pushMoved s.totalMaxLockWeightAmount epoch amount add
  pure { s with
    poolMaxLockWeightAmount := update s.poolMaxLockWeightAmount agentId poolTrace
    totalMaxLockWeightAmount := totalTrace }

def pushNormalStart (positionId epoch value : Nat) : Tx Error SellerPools := do
  let trace ← (s.positionNormalStartEpoch positionId).push epoch value
  pure { s with positionNormalStartEpoch := update s.positionNormalStartEpoch positionId trace }

def pushNormalEnd (positionId epoch value : Nat) : Tx Error SellerPools := do
  let trace ← (s.positionNormalEndEpoch positionId).push epoch value
  pure { s with positionNormalEndEpoch := update s.positionNormalEndEpoch positionId trace }

def pushMaxLock (positionId epoch value : Nat) : Tx Error SellerPools := do
  let trace ← (s.positionMaxLockPower positionId).push epoch value
  pure { s with positionMaxLockPower := update s.positionMaxLockPower positionId trace }

def requireRegisteredSellerAgent (agentId : Word) :
    Tx Error Unit := do
  require (agentId ≠ 0) .invalidValue
  match ctx.identityOwnerOf agentId with
  | none => .error (.custom .invalidValue)
  | some owner => do
      require (owner ≠ 0) .invalidValue
      require (s.stakingSource ≠ 0) .invalidAddress
      match ctx.stakingAgentId s.stakingSource owner with
      | none => .error (.custom .invalidValue)
      | some registered => require (registered = agentId) .invalidValue

def createWeightedPosition (owner : Address) (agentId : Word)
    (amount weightAmount startEpoch normalStartEpoch stakeEndEpoch : Nat) :
    Tx Error (SellerPools × Nat) := do
  let positionId := s.nextPositionId
  let next ← uint 256 (positionId + 1)
  let s := { s with nextPositionId := next }
  let s := s.setPosition positionId
    { owner := owner, agentId := agentId, amount := amount, weightAmount := weightAmount,
      stakeStartEpoch := startEpoch % 2 ^ 64, stakeEndEpoch := stakeEndEpoch % 2 ^ 64,
      closedAtEpoch := 0, withdrawn := false }
  let s ← s.pushNormalStart positionId startEpoch normalStartEpoch
  let s ← s.pushNormalEnd positionId startEpoch stakeEndEpoch
  let s ← s.addPowerRange agentId startEpoch stakeEndEpoch weightAmount
  let s ← s.increaseActiveStake owner agentId amount
  let s ← s.safeMint ctx owner positionId
  pure (s, positionId)

def createRestructuredPosition (owner : Address) (agentId : Word)
    (amount weightAmount startEpoch normalStartEpoch stakeEndEpoch : Nat) :
    Tx Error (SellerPools × Nat) := do
  let (s, positionId) ← s.createWeightedPosition ctx owner agentId amount weightAmount startEpoch
    normalStartEpoch stakeEndEpoch
  pure ({ s with
    positionWithdrawableEpoch := update s.positionWithdrawableEpoch positionId
      (startEpoch % 2 ^ 64) }, positionId)

/-- `_closePositionForRestructure`; returns the window the position had. -/
def closePositionForRestructure (positionId effectiveEpoch : Nat) :
    Tx Error (SellerPools × Nat × Nat) := do
  let position := s.positions positionId
  require (position.withdrawn = false) .alreadyWithdrawn
  require (position.closedAtEpoch = 0) .positionClosed
  require ((s.positionMaxLockPower positionId).upperLookupRecent effectiveEpoch = 0) .positionClosed
  let normalStartEpoch := (s.positionNormalStartEpoch positionId).upperLookupRecent effectiveEpoch
  let normalEndEpoch := (s.positionNormalEndEpoch positionId).upperLookupRecent effectiveEpoch
  require (¬ (normalEndEpoch = 0 ∨ effectiveEpoch ≥ normalEndEpoch)) .stakeDurationOutOfBounds
  let s ← s.removePowerRange position.agentId effectiveEpoch normalEndEpoch position.weightAmount
  let s := s.setPosition positionId { position with closedAtEpoch := effectiveEpoch % 2 ^ 64 }
  let s ← s.decreaseActiveStake position.owner position.agentId position.amount
  let s ← s.burn positionId
  pure (s, normalStartEpoch, normalEndEpoch)

/-- The checks that open the functions a position owner calls. -/
def requirePositionOwner (sender : Address) (positionId : Nat) :
    Tx Error Unit := do
  require ((s.positions positionId).owner ≠ 0) .invalidPosition
  let owner ← s.ownerOf positionId
  require (owner = sender) .notPositionOwner

def requireOpen (positionId : Nat) : Tx Error Unit :=
  require (¬ ((s.positions positionId).withdrawn = true ∨ (s.positions positionId).closedAtEpoch ≠ 0))
    .positionClosed

/-- `stakeFor`; `stake` is the case where the sender stakes for itself. -/
def stakeFor (ants : Erc20) (ctx : Context) (staker : Address) (agentId : Word)
    (amount stakeEpochs : Nat) : Tx Error (SellerPools × Erc20) := do
  require (staker ≠ 0) .invalidAddress
  s.requireRegisteredSellerAgent ctx agentId
  require (amount ≠ 0) .invalidValue
  require (¬ (stakeEpochs < s.minStakeEpochs ∨ stakeEpochs > maxStakeEpochs))
    .stakeDurationOutOfBounds
  let ants ← ants.transferFrom ctx.self ctx.sender ctx.self amount
  let startEpoch ← uint 256 (ctx.epoch + s.stakeActivationDelay)
  let stakeEndEpoch ← uint 256 (startEpoch + stakeEpochs)
  let (s, _) ← s.createWeightedPosition ctx staker agentId amount amount startEpoch startEpoch
    stakeEndEpoch
  pure (s, ants)

/-- `stakeMintedReward`: the reward has already been minted to the contract. -/
def stakeMintedReward (staker : Address)
    (sourcePositionId amount stakeEpochs : Nat) : Tx Error (SellerPools × Nat) := do
  require (s.rewardStakers ctx.sender = true) .notRewardStaker
  require (staker ≠ 0) .invalidAddress
  require (amount ≠ 0) .invalidValue
  require (¬ (stakeEpochs < s.minStakeEpochs ∨ stakeEpochs > maxStakeEpochs))
    .stakeDurationOutOfBounds
  let sourcePosition := s.positions sourcePositionId
  require (sourcePosition.owner ≠ 0) .invalidPosition
  require (sourcePosition.owner = staker) .notPositionOwner
  let startEpoch ← uint 256 (ctx.epoch + s.stakeActivationDelay)
  let stakeEndEpoch ← uint 256 (startEpoch + stakeEpochs)
  let scaledBonus ← uint 256 (s.restakedRewardWeightBonusBps * stakeEpochs)
  let bonusBps := scaledBonus / maxStakeEpochs
  let multiplier ← uint 256 (bpsDenominator + bonusBps)
  let scaledAmount ← uint 256 (amount * multiplier)
  s.createWeightedPosition ctx staker sourcePosition.agentId amount (scaledAmount / bpsDenominator)
    startEpoch startEpoch stakeEndEpoch

/-- The weight a moved position keeps. -/
def movedWeight (weightAmount : Nat) : Tx Error Nat :=
  if s.moveWeightPenaltyBps ≠ 0 then do
    let kept ← sub bpsDenominator s.moveWeightPenaltyBps
    let scaled ← uint 256 (weightAmount * kept)
    pure (scaled / bpsDenominator)
  else pure weightAmount

def movePosition (positionId : Nat) (toAgentId : Word)
    (staker : Address) (effectiveEpoch : Nat) : Tx Error SellerPools := do
  s.requirePositionOwner staker positionId
  let position := s.positions positionId
  let effectiveEpoch := max effectiveEpoch position.stakeStartEpoch
  let (s, normalStartEpoch, normalEndEpoch) ←
    s.closePositionForRestructure positionId effectiveEpoch
  let movedWeightAmount ← s.movedWeight position.weightAmount
  let (s, _) ← s.createRestructuredPosition ctx staker toAgentId position.amount movedWeightAmount
    effectiveEpoch normalStartEpoch normalEndEpoch
  pure s

def moveStake (positionId : Nat) (toAgentId : Word) :
    Tx Error SellerPools := do
  s.requireRegisteredSellerAgent ctx toAgentId
  let effectiveEpoch ← uint 256 (ctx.epoch + 1)
  s.movePosition ctx positionId toAgentId ctx.sender effectiveEpoch

end

/-- The loop of `moveStakes`. -/
def movePositions (ctx : Context) (toAgentId : Word) (effectiveEpoch : Nat) :
    List Nat → SellerPools → Tx Error SellerPools
  | [], s => pure s
  | positionId :: rest, s => do
      let s ← s.movePosition ctx positionId toAgentId ctx.sender effectiveEpoch
      movePositions ctx toAgentId effectiveEpoch rest s

def moveStakes (s : SellerPools) (ctx : Context) (positionIds : List Nat) (toAgentId : Word) :
    Tx Error SellerPools := do
  decode 64 positionIds.length
  require (positionIds.length ≠ 0) .invalidValue
  s.requireRegisteredSellerAgent ctx toAgentId
  let effectiveEpoch ← uint 256 (ctx.epoch + 1)
  movePositions ctx toAgentId effectiveEpoch positionIds s

def splitStake (s : SellerPools) (ctx : Context) (positionId splitAmount : Nat) :
    Tx Error SellerPools := do
  s.requirePositionOwner ctx.sender positionId
  let position := s.positions positionId
  require (¬ (splitAmount = 0 ∨ splitAmount ≥ position.amount)) .invalidValue
  let nextEpoch ← uint 256 (ctx.epoch + 1)
  let effectiveEpoch := max nextEpoch position.stakeStartEpoch
  let firstAmount ← sub position.amount splitAmount
  let scaled ← uint 256 (position.weightAmount * splitAmount)
  let secondWeight ← div scaled position.amount
  let firstWeight ← sub position.weightAmount secondWeight
  require (¬ (firstWeight = 0 ∨ secondWeight = 0)) .invalidValue
  let (s, normalStartEpoch, normalEndEpoch) ←
    s.closePositionForRestructure positionId effectiveEpoch
  let (s, _) ← s.createRestructuredPosition ctx ctx.sender position.agentId firstAmount firstWeight
    effectiveEpoch normalStartEpoch normalEndEpoch
  let (s, _) ← s.createRestructuredPosition ctx ctx.sender position.agentId splitAmount secondWeight
    effectiveEpoch normalStartEpoch normalEndEpoch
  pure s

/-- The first loop of `mergeStakes`: the merged position starts with the latest source. -/
def mergeEffectiveEpoch (s : SellerPools) (sender : Address) : List Nat → Nat → Tx Error Nat
  | [], effectiveEpoch => pure effectiveEpoch
  | positionId :: rest, effectiveEpoch => do
      s.requirePositionOwner sender positionId
      s.mergeEffectiveEpoch sender rest (max effectiveEpoch (s.positions positionId).stakeStartEpoch)

/-- What the second loop of `mergeStakes` has gathered; the window is that of the first
    source. -/
structure Merge where
  mergedAmount : Nat := 0
  mergedWeight : Nat := 0
  shared : Option (Nat × Nat) := none

/-- One round of the second loop of `mergeStakes`. -/
def mergeOne (s : SellerPools) (agentId : Word) (effectiveEpoch positionId : Nat) (merge : Merge) :
    Tx Error (SellerPools × Merge) := do
  let position := s.positions positionId
  require (position.agentId = agentId) .invalidValue
  let mergedAmount ← uint 256 (merge.mergedAmount + position.amount)
  let mergedWeight ← uint 256 (merge.mergedWeight + position.weightAmount)
  let (s, window) ← s.closePositionForRestructure positionId effectiveEpoch
  require (merge.shared = none ∨ merge.shared = some window) .invalidValue
  pure (s, { mergedAmount := mergedAmount, mergedWeight := mergedWeight, shared := some window })

def mergeAll (agentId : Word) (effectiveEpoch : Nat) :
    List Nat → SellerPools → Merge → Tx Error (SellerPools × Merge)
  | [], s, merge => pure (s, merge)
  | positionId :: rest, s, merge => do
      let (s, merge) ← s.mergeOne agentId effectiveEpoch positionId merge
      mergeAll agentId effectiveEpoch rest s merge

section

variable (s : SellerPools)

def mergeStakes (ctx : Context) (positionIds : List Nat) :
    Tx Error SellerPools := do
  decode 64 positionIds.length
  require (¬ positionIds.length < 2) .invalidValue
  let nextEpoch ← uint 256 (ctx.epoch + 1)
  let effectiveEpoch ← s.mergeEffectiveEpoch ctx.sender positionIds nextEpoch
  let agentId := (s.positions (positionIds.headD 0)).agentId
  let (s, merge) ← mergeAll agentId effectiveEpoch positionIds s {}
  let window := merge.shared.getD (0, 0)
  let (s, _) ← s.createRestructuredPosition ctx ctx.sender agentId merge.mergedAmount
    merge.mergedWeight effectiveEpoch window.1 window.2
  pure s

def extendLock (ctx : Context) (positionId additionalEpochs : Nat) :
    Tx Error SellerPools := do
  require (additionalEpochs ≠ 0) .invalidValue
  s.requirePositionOwner ctx.sender positionId
  s.requireOpen positionId
  let position := s.positions positionId
  let nextEpoch ← uint 256 (ctx.epoch + 1)
  let effectiveEpoch := max nextEpoch position.stakeStartEpoch
  require ((s.positionMaxLockPower positionId).upperLookupRecent effectiveEpoch = 0) .positionClosed
  let oldEndEpoch := (s.positionNormalEndEpoch positionId).upperLookupRecent effectiveEpoch
  require (¬ (oldEndEpoch = 0 ∨ effectiveEpoch ≥ oldEndEpoch)) .stakeDurationOutOfBounds
  let maxEndEpoch ← uint 256 (effectiveEpoch + maxStakeEpochs)
  let requestedEndEpoch ← uint 256 (oldEndEpoch + additionalEpochs)
  let newEndEpoch := if requestedEndEpoch > maxEndEpoch then maxEndEpoch else requestedEndEpoch
  require (newEndEpoch > oldEndEpoch) .stakeDurationOutOfBounds
  let s := s.setPosition positionId { position with stakeEndEpoch := newEndEpoch % 2 ^ 64 }
  let s ← s.pushNormalEnd positionId effectiveEpoch newEndEpoch
  let s ← s.removePowerRange position.agentId effectiveEpoch oldEndEpoch position.weightAmount
  s.addPowerRange position.agentId effectiveEpoch newEndEpoch position.weightAmount

def enableMaxLock (ctx : Context) (positionId : Nat) : Tx Error SellerPools := do
  s.requirePositionOwner ctx.sender positionId
  s.requireOpen positionId
  let position := s.positions positionId
  let effectiveEpoch ← uint 256 (ctx.epoch + 1)
  require (effectiveEpoch ≥ position.stakeStartEpoch) .stakeDurationOutOfBounds
  require ((s.positionMaxLockPower positionId).upperLookupRecent effectiveEpoch = 0) .invalidValue
  let normalEndEpoch := (s.positionNormalEndEpoch positionId).upperLookupRecent effectiveEpoch
  require (¬ (normalEndEpoch = 0 ∨ effectiveEpoch ≥ normalEndEpoch)) .stakeDurationOutOfBounds
  let s ← s.removePowerRange position.agentId effectiveEpoch normalEndEpoch position.weightAmount
  let maxLockPower ← uint 256 (position.weightAmount * maxStakeEpochs)
  let s ← s.pushMaxLock positionId effectiveEpoch maxLockPower
  let s ← s.pushNormalStart positionId effectiveEpoch 0
  let s ← s.pushNormalEnd positionId effectiveEpoch 0
  s.applyMaxLockWeightAmount position.agentId effectiveEpoch position.weightAmount true

def disableMaxLock (ctx : Context) (positionId : Nat) : Tx Error SellerPools := do
  s.requirePositionOwner ctx.sender positionId
  s.requireOpen positionId
  let position := s.positions positionId
  let effectiveEpoch ← uint 256 (ctx.epoch + 1)
  require ((s.positionMaxLockPower positionId).upperLookupRecent effectiveEpoch ≠ 0) .invalidValue
  let newStakeEndEpoch ← uint 256 (effectiveEpoch + maxStakeEpochs)
  let s := s.setPosition positionId { position with stakeEndEpoch := newStakeEndEpoch % 2 ^ 64 }
  let s ← s.pushMaxLock positionId effectiveEpoch 0
  let s ← s.pushNormalStart positionId effectiveEpoch effectiveEpoch
  let s ← s.pushNormalEnd positionId effectiveEpoch newStakeEndEpoch
  let s ← s.applyMaxLockWeightAmount position.agentId effectiveEpoch position.weightAmount false
  s.addPowerRange position.agentId effectiveEpoch newStakeEndEpoch position.weightAmount

/-- `_earlyExitSlashBps` -/
def earlyExitSlashBpsAt (positionId effectiveCloseEpoch : Nat) : Tx Error Nat :=
  let normalStartEpoch :=
    (s.positionNormalStartEpoch positionId).upperLookupRecent effectiveCloseEpoch
  let normalEndEpoch := (s.positionNormalEndEpoch positionId).upperLookupRecent effectiveCloseEpoch
  if normalStartEpoch = 0 ∨ normalEndEpoch = 0 ∨ effectiveCloseEpoch ≥ normalEndEpoch then pure 0
  else do
    let originalStakeEpochs ← sub normalEndEpoch normalStartEpoch
    if originalStakeEpochs = 0 then pure 0
    else do
      let remainingEpochs ← sub normalEndEpoch effectiveCloseEpoch
      let scaled ← uint 256 (s.maxSlashBps * remainingEpochs)
      let slashBps ← div scaled originalStakeEpochs
      pure (if slashBps < s.minEarlyExitSlashBps then s.minEarlyExitSlashBps
        else if slashBps > s.maxSlashBps then s.maxSlashBps
        else slashBps)

/-- What a closed position pays back and what it loses. -/
def exitAmounts (positionId closeEpoch normalEndEpoch amount : Nat) :
    Tx Error (Nat × Nat) :=
  if closeEpoch < normalEndEpoch then do
    let slashBps ← s.earlyExitSlashBpsAt positionId closeEpoch
    let scaled ← uint 256 (amount * slashBps)
    let slashedAmount := scaled / bpsDenominator
    let returnedAmount ← sub amount slashedAmount
    pure (returnedAmount, slashedAmount)
  else pure (amount, 0)

def withdrawPosition (positionId : Nat) (staker : Address) (epoch : Nat) :
    Tx Error (SellerPools × Nat × Nat) := do
  s.requirePositionOwner staker positionId
  let position := s.positions positionId
  require (position.withdrawn = false) .alreadyWithdrawn
  require (position.closedAtEpoch = 0) .positionClosed
  require (epoch ≥ s.positionWithdrawableEpoch positionId) .positionChangePending
  let closeEpoch := if epoch < position.stakeStartEpoch then position.stakeStartEpoch else epoch
  require ((s.positionMaxLockPower positionId).upperLookupRecent closeEpoch = 0) .positionClosed
  let nextEpoch ← uint 256 (closeEpoch + 1)
  require ((s.positionMaxLockPower positionId).upperLookupRecent nextEpoch = 0)
    .positionChangePending
  let s := s.setPosition positionId
    { position with withdrawn := true, closedAtEpoch := closeEpoch % 2 ^ 64 }
  let normalEndEpoch := (s.positionNormalEndEpoch positionId).upperLookupRecent closeEpoch
  require (normalEndEpoch ≠ 0) .stakeDurationOutOfBounds
  require ((s.positionNormalEndEpoch positionId).upperLookupRecent nextEpoch = normalEndEpoch)
    .positionChangePending
  let s ← (if closeEpoch < normalEndEpoch then
    s.removePowerRange position.agentId closeEpoch normalEndEpoch position.weightAmount else pure s)
  let s ← s.decreaseActiveStake staker position.agentId position.amount
  let amounts ← s.exitAmounts positionId closeEpoch normalEndEpoch position.amount
  let s ← s.burn positionId
  pure (s, amounts)

/-- The transfers that end a withdrawal. -/
def payExit (ants : Erc20) (ctx : Context) (returnedAmount slashedAmount : Nat) :
    Tx Error Erc20 := do
  let ants ← (if returnedAmount > 0 then ants.transfer ctx.self ctx.sender returnedAmount
    else pure ants)
  if slashedAmount > 0 then ants.transfer ctx.self deadAddress slashedAmount else pure ants

def withdrawStake (ants : Erc20) (ctx : Context) (positionId : Nat) :
    Tx Error (SellerPools × Erc20) := do
  let (s, returnedAmount, slashedAmount) ← s.withdrawPosition positionId ctx.sender ctx.epoch
  let ants ← payExit ants ctx returnedAmount slashedAmount
  pure (s, ants)

end

/-- The loop of `withdrawStakes`. -/
def withdrawPositions (staker : Address) (epoch : Nat) :
    List Nat → SellerPools → Nat → Nat → Tx Error (SellerPools × Nat × Nat)
  | [], s, returnedAmount, slashedAmount => pure (s, returnedAmount, slashedAmount)
  | positionId :: rest, s, returnedAmount, slashedAmount => do
      let (s, positionReturned, positionSlashed) ← s.withdrawPosition positionId staker epoch
      let returnedAmount ← uint 256 (returnedAmount + positionReturned)
      let slashedAmount ← uint 256 (slashedAmount + positionSlashed)
      withdrawPositions staker epoch rest s returnedAmount slashedAmount

variable (s : SellerPools)

def withdrawStakes (ants : Erc20) (ctx : Context) (positionIds : List Nat) :
    Tx Error (SellerPools × Erc20) := do
  decode 64 positionIds.length
  require (positionIds.length ≠ 0) .invalidValue
  let (s, returnedAmount, slashedAmount) ← withdrawPositions ctx.sender ctx.epoch positionIds s 0 0
  let ants ← payExit ants ctx returnedAmount slashedAmount
  pure (s, ants)

def earlyExitSlashBps (currentEpoch positionId : Nat) : Tx Error Nat := do
  let position := s.positions positionId
  require (position.owner ≠ 0) .invalidPosition
  require (currentEpoch ≥ s.positionWithdrawableEpoch positionId) .positionChangePending
  let closeEpoch :=
    if currentEpoch < position.stakeStartEpoch then position.stakeStartEpoch else currentEpoch
  if (s.positionMaxLockPower positionId).upperLookupRecent closeEpoch ≠ 0 then pure s.maxSlashBps
  else if closeEpoch ≥ position.stakeEndEpoch then pure 0
  else s.earlyExitSlashBpsAt positionId closeEpoch

def positionWeightAtEpoch (positionId epoch : Nat) : Tx Error Nat := do
  let position := s.positions positionId
  require (position.owner ≠ 0) .invalidPosition
  if epoch < position.stakeStartEpoch then pure 0
  else if position.closedAtEpoch ≠ 0 ∧ epoch ≥ position.closedAtEpoch then pure 0
  else
    let maxLockPower := (s.positionMaxLockPower positionId).upperLookupRecent epoch
    if maxLockPower ≠ 0 then pure maxLockPower
    else
      let normalEndEpoch := (s.positionNormalEndEpoch positionId).upperLookupRecent epoch
      if normalEndEpoch = 0 ∨ epoch ≥ normalEndEpoch then pure 0
      else do
        let remaining ← sub normalEndEpoch epoch
        uint 256 (position.weightAmount * remaining)

/-- `type(uint256).max` if there is no later checkpoint; the array is read at `uint32` indices. -/
def nextCheckpointKeyAfter (trace : Trace) (epoch : Nat) : Tx Error Nat := do
  let low ← upperBound (fun mid => do
    let c ← trace.checkpointAt (mid % 2 ^ 32)
    pure (decide (c.key ≤ epoch))) trace.length 0 trace.length
  if low = trace.length then pure (2 ^ 256 - 1)
  else do
    let c ← trace.checkpointAt (low % 2 ^ 32)
    pure c.key

/-- The end of the lock, the max-lock power and the next epoch either may change in. -/
structure PowerSegment where
  normalEndEpoch : Nat
  maxLockPower : Nat
  nextChangeEpoch : Nat
  deriving DecidableEq, Repr

def positionPowerSegmentAt (positionId epoch : Nat) : Tx Error PowerSegment := do
  let position := s.positions positionId
  require (position.owner ≠ 0) .invalidPosition
  if position.closedAtEpoch ≠ 0 ∧ epoch ≥ position.closedAtEpoch then
    pure ⟨0, 0, position.closedAtEpoch⟩
  else do
    let normalEndEpoch := (s.positionNormalEndEpoch positionId).upperLookupRecent epoch
    let maxLockPower := (s.positionMaxLockPower positionId).upperLookupRecent epoch
    let nextNormalChange ← nextCheckpointKeyAfter (s.positionNormalEndEpoch positionId) epoch
    let nextMaxLockChange ← nextCheckpointKeyAfter (s.positionMaxLockPower positionId) epoch
    let nextChangeEpoch :=
      if nextNormalChange < nextMaxLockChange then nextNormalChange else nextMaxLockChange
    pure ⟨normalEndEpoch, maxLockPower,
      if position.closedAtEpoch ≠ 0 ∧ position.closedAtEpoch < nextChangeEpoch then
        position.closedAtEpoch else nextChangeEpoch⟩

/-- The staking source may answer anything. -/
def agentIdForSeller (stakingAgentId : Address → Address → Option Word)
    (seller : Address) : Option Word :=
  if seller = 0 then some 0
  else if s.stakingSource = 0 then some 0
  else stakingAgentId s.stakingSource seller

def powerAndActiveWeightAtEpoch (tree : FenwickTree) (epoch : Nat) : Tx Error (Nat × Nat) := do
  let (activeAmount, activeWeightedEnd) ← tree.fenwickPrefixSum epoch
  if activeAmount ≤ 0 ∨ activeWeightedEnd ≤ 0 then pure (0, 0)
  else do
    let elapsed ← int 256 (activeAmount * epoch)
    let signedPower ← int 256 (activeWeightedEnd - elapsed)
    if signedPower ≤ 0 then pure (0, 0) else pure (signedPower.toNat, activeAmount.toNat)

def poolPowerAndActiveWeightAtEpoch (agentId : Word) (epoch : Nat) :
    Tx Error (Nat × Nat) := do
  let (power, activeWeight) ← powerAndActiveWeightAtEpoch (s.poolPowerTree agentId) epoch
  let maxLockWeightAmount := (s.poolMaxLockWeightAmount agentId).upperLookupRecent epoch
  if maxLockWeightAmount ≠ 0 then do
    let maxLockPower ← uint 256 (maxLockWeightAmount * maxStakeEpochs)
    let power ← uint 256 (power + maxLockPower)
    let activeWeight ← uint 256 (activeWeight + maxLockWeightAmount)
    pure (power, activeWeight)
  else pure (power, activeWeight)

def poolWeightAtEpoch (agentId : Word) (epoch : Nat) : Tx Error Nat := do
  let (weight, _) ← s.poolPowerAndActiveWeightAtEpoch agentId epoch
  pure weight

def totalMaxLockPowerAtEpoch (epoch : Nat) : Tx Error Nat :=
  uint 256 (s.totalMaxLockWeightAmount.upperLookupRecent epoch * maxStakeEpochs)

def totalActiveStakeAtEpoch (epoch : Nat) : Tx Error Nat := do
  let (_, activeStake) ← powerAndActiveWeightAtEpoch s.totalPowerTree epoch
  uint 256 (activeStake + s.totalMaxLockWeightAmount.upperLookupRecent epoch)

def totalPowerWeightAtEpoch (epoch : Nat) : Tx Error Nat := do
  let (power, _) ← powerAndActiveWeightAtEpoch s.totalPowerTree epoch
  let maxLockPower ← s.totalMaxLockPowerAtEpoch epoch
  uint 256 (power + maxLockPower)

end SellerPools

end AntSeed.Pools
