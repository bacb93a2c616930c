import AntSeed.Lib.Erc20
import AntSeed.Lib.Machine

/-! # DiemStakingProxy

A seller façade owned by the stakers of DIEM. Revenue of its channels, less the
operator's fee, is shared among the stakers in proportion to their stake, and
the ANTS of an emission epoch in proportion to the revenue earned in it. Unstakes
are queued and leave in batches. The base contract AntseedSellerDelegation is
part of the model.

Channels, staking and emissions are outside contracts: what such a call paid to
the proxy, if it did not revert, is an input. DIEM is a token with a staking
ledger that releases everything that cools down at once.
-/

namespace AntSeed.Staking

open Evm Function

/-- Errors of the proxy, of its base contracts and of the DIEM token. -/
inductive ProxyError where
  | invalidAddress | notOperator | operatorFeeTooLarge
  | invalidAmount | insufficientStake | unstakeBatchFull | nothingToFlush
  | priorUnstakeBatchUnclaimed | unstakeBatchNotReady | unstakeBatchAlreadyClaimed
  | unstakeBatchTooYoung | backlogTooLarge | nothingToClaim | nothingToSync | maxStakeExceeded
  | minUnstakeBatchOpenSecsTooLarge | rewardEpochNotFinalized
  | ownableUnauthorizedAccount | ownableInvalidOwner | enforcedPause | expectedPause
  | safeCastOverflowedUintDowncast
  | stakeZero | unstakeZero | insufficientStaked | noCooldown | cooldownNotOver
  deriving DecidableEq, Repr

def ray : Nat := 10 ^ 27
def maxPerUnstakeBatch : Nat := 50
def maxEpochsPerCapture : Nat := 16
def alphaMaxTotalStake : Nat := 10 * 10 ^ 18
def alphaMinUnstakeBatchOpenSecs : Nat := 86400
def maxMinUnstakeBatchOpenSecs : Nat := 7 * 86400
def defaultOperatorFeeBps : Nat := 1000
def maxOperatorFeeBps : Nat := 2000
def feeDenominator : Nat := 10000

/-- `SafeCast` to an unsigned type of the given width. -/
def safeCast (bits n : Nat) : Tx ProxyError Nat := do
  require (n < 2 ^ bits) .safeCastOverflowedUintDowncast
  pure n

structure StakedInfo where
  amountStaked : Nat := 0
  coolDownEnd : Nat := 0
  coolDownAmount : Nat := 0
  deriving DecidableEq, Repr

structure Diem where
  self : Address
  token : Erc20
  cooldownDuration : Nat
  stakedInfos : Address → StakedInfo := fun _ => {}

namespace Diem

def stake (d : Diem) (sender : Address) (amount : Nat) : Tx ProxyError Diem := do
  require (amount ≠ 0) .stakeZero
  let info := d.stakedInfos sender
  let amountStaked ← uint 256 (info.amountStaked + amount)
  let token ← d.token.transfer sender d.self amount
  let infos := update d.stakedInfos sender { info with amountStaked := amountStaked }
  pure { d with stakedInfos := infos, token := token }

def initiateUnstake (d : Diem) (now : Nat) (sender : Address) (amount : Nat) :
    Tx ProxyError Diem := do
  require (amount ≠ 0) .unstakeZero
  let info := d.stakedInfos sender
  require (amount ≤ info.amountStaked) .insufficientStaked
  let coolDownEnd ← uint 256 (now + d.cooldownDuration)
  let coolDownAmount ← uint 256 (info.coolDownAmount + amount)
  let infos := update d.stakedInfos sender ⟨info.amountStaked - amount, coolDownEnd, coolDownAmount⟩
  pure { d with stakedInfos := infos }

def unstake (d : Diem) (now : Nat) (sender : Address) : Tx ProxyError Diem := do
  let info := d.stakedInfos sender
  require (info.coolDownAmount ≠ 0) .noCooldown
  require (info.coolDownEnd ≤ now) .cooldownNotOver
  let token ← d.token.transfer d.self sender info.coolDownAmount
  let infos := update d.stakedInfos sender ⟨info.amountStaked, 0, 0⟩
  pure { d with stakedInfos := infos, token := token }

end Diem

structure UnstakeBatch where
  total : Nat := 0
  /-- 0 = not yet flushed -/
  unlockAt : Nat := 0
  userCount : Nat := 0
  claimed : Bool := false
  deriving DecidableEq, Repr

structure RewardEpoch where
  revenuePerTokenAtEnd : Nat := 0
  totalPoints : Nat := 0
  antsPot : Nat := 0
  funded : Bool := false
  deriving DecidableEq, Repr

structure DiemStakingProxy where
  owner : Address
  paused : Bool := false
  isOperator : Address → Bool
  operatorFeeBps : Nat := defaultOperatorFeeBps
  operatorFeeRecipient : Address
  firstRewardEpoch : Nat
  totalStaked : Nat := 0
  staked : Address → Nat := fun _ => 0
  maxTotalStake : Nat := alphaMaxTotalStake
  stakerCount : Nat := 0
  unstakeBatches : Nat → UnstakeBatch := fun _ => {}
  unstakeBatchUsers : Nat → List Address := fun _ => []
  unstakeBatchUserAmount : Nat → Address → Nat := fun _ _ => 0
  currentUnstakeBatch : Nat := 1
  oldestUnclaimedUnstakeBatch : Nat := 1
  currentUnstakeBatchOpenedAt : Nat := 0
  minUnstakeBatchOpenSecs : Nat := alphaMinUnstakeBatchOpenSecs
  usdcRewardPerTokenStored : Nat := 0
  userUsdcRewardPerTokenPaid : Address → Nat := fun _ => 0
  usdcRewards : Address → Nat := fun _ => 0
  totalUsdcReservedForStakers : Nat := 0
  totalUsdcDistributedEver : Nat := 0
  currentEpochRevenuePoints : Nat := 0
  rewardEpochs : Nat → RewardEpoch := fun _ => {}
  syncedRewardEpoch : Nat
  userPoints : Address → Nat → Nat := fun _ _ => 0
  userRevenuePerTokenSnap : Address → Nat := fun _ => 0
  userCurrentEpoch : Address → Nat := fun _ => 0
  userLastClaimedEpoch : Address → Nat := fun _ => 0
  userEpochClaimed : Address → Nat → Bool := fun _ _ => false

/-- What a call sees of the world around the proxy. -/
structure ProxyContext where
  sender : Address
  self : Address
  now : Nat
  /-- `registry.emissions().currentEpoch()` -/
  epoch : Nat
  /-- who paid how much USDC to the proxy during a call of Channels or of the staking contract -/
  payment : Option (Address × Nat)
  /-- who paid how much ANTS to the proxy when an epoch's emissions were claimed -/
  emission : Nat → Option (Address × Nat)

namespace DiemStakingProxy

def construct (sender diem usdc registry operator ants emissions antseedStaking : Address)
    (epoch : Nat) : Tx ProxyError DiemStakingProxy := do
  require (registry ≠ 0) .invalidAddress
  require (operator ≠ 0) .invalidAddress
  require (¬ (diem = 0 ∨ usdc = 0)) .invalidAddress
  require (¬ (ants = 0 ∨ emissions = 0 ∨ antseedStaking = 0)) .invalidAddress
  let firstRewardEpoch ← safeCast 32 epoch
  pure {
    owner := sender
    isOperator := update (fun _ => false) operator true
    operatorFeeRecipient := operator
    firstRewardEpoch := firstRewardEpoch
    syncedRewardEpoch := firstRewardEpoch }

section

variable (s : DiemStakingProxy)

def requireOwner (sender : Address) : Tx ProxyError Unit :=
  require (sender = s.owner) .ownableUnauthorizedAccount

def requireNotPaused : Tx ProxyError Unit :=
  require (s.paused = false) .enforcedPause

def operatorFeeAmount (grossAmount : Nat) : Tx ProxyError Nat := do
  let scaled ← uint 256 (grossAmount * s.operatorFeeBps)
  pure (scaled / feeDenominator)

/-- Pays the operator's fee; returns what is left of the amount. -/
def takeOperatorFee (token : Erc20) (self : Address) (grossAmount : Nat) :
    Tx ProxyError (Erc20 × Nat) := do
  let fee ← s.operatorFeeAmount grossAmount
  if fee = 0 then pure (token, grossAmount)
  else do
    let token ← token.transfer self s.operatorFeeRecipient fee
    let net ← sub grossAmount fee
    pure (token, net)

/-- An outside call that may pay the proxy, and by how much its balance grew. -/
def collect (token : Erc20) (self : Address) (payment : Option (Address × Nat)) :
    Tx ProxyError (Erc20 × Nat) := do
  let (payer, amount) ← answer payment
  let paid ← token.transfer payer self amount
  let gross ← sub (paid.balanceOf self) (token.balanceOf self)
  pure (paid, gross)

def updateUsdcForUser (account : Address) : Tx ProxyError DiemStakingProxy :=
  if account ≠ 0 then do
    let growth ← sub s.usdcRewardPerTokenStored (s.userUsdcRewardPerTokenPaid account)
    let scaled ← uint 256 (s.staked account * growth)
    let delta := scaled / ray
    let rewards ← uint 256 (s.usdcRewards account + delta)
    pure { s with
      usdcRewards := if delta > 0 then update s.usdcRewards account rewards else s.usdcRewards
      userUsdcRewardPerTokenPaid :=
        update s.userUsdcRewardPerTokenPaid account s.usdcRewardPerTokenStored }
  else pure s

def earnedUsdc (account : Address) : Tx ProxyError Nat := do
  let growth ← sub s.usdcRewardPerTokenStored (s.userUsdcRewardPerTokenPaid account)
  let scaled ← uint 256 (s.staked account * growth)
  uint 256 (s.usdcRewards account + scaled / ray)

def finalizedRewardEpoch (ctx : ProxyContext) : Tx ProxyError Nat := safeCast 32 ctx.epoch

/-- One round of `_syncRewardEpochsUntil`. -/
def closeRewardEpoch : DiemStakingProxy :=
  let rewardEpoch := s.syncedRewardEpoch
  let closed := { s.rewardEpochs rewardEpoch with
    revenuePerTokenAtEnd := s.usdcRewardPerTokenStored
    totalPoints := s.currentEpochRevenuePoints }
  { s with
    rewardEpochs := update s.rewardEpochs rewardEpoch closed
    currentEpochRevenuePoints := 0
    syncedRewardEpoch := rewardEpoch + 1 }

def syncRewardEpochsUntil (target : Nat) : DiemStakingProxy :=
  closeRewardEpoch^[target - s.syncedRewardEpoch] s

def syncFinalizedRewardEpochsForUpdate (ctx : ProxyContext) :
    Tx ProxyError DiemStakingProxy := do
  let finalized ← finalizedRewardEpoch ctx
  let synced := s.syncedRewardEpoch
  require (¬ (finalized > synced ∧ finalized - synced > maxEpochsPerCapture)) .backlogTooLarge
  pure (s.syncRewardEpochsUntil finalized)

/-- Returns how many epochs were closed. -/
def syncFinalizedRewardEpochsBounded (ctx : ProxyContext) (maxEpochs : Nat) :
    Tx ProxyError (DiemStakingProxy × Nat) := do
  let finalized ← finalizedRewardEpoch ctx
  let requested ← uint 32 (s.syncedRewardEpoch + maxEpochs)
  let target := if requested > finalized then finalized else requested
  if target > s.syncedRewardEpoch then
    pure (s.syncRewardEpochsUntil target, target - s.syncedRewardEpoch)
  else pure (s, 0)

def syncRewardEpochs (ctx : ProxyContext) (maxEpochs : Nat) :
    Tx ProxyError DiemStakingProxy := do
  decode 32 maxEpochs
  require (maxEpochs ≠ 0) .invalidAmount
  let (s, synced) ← s.syncFinalizedRewardEpochsBounded ctx maxEpochs
  require (synced ≠ 0) .nothingToSync
  pure s

def addUserPoints (account : Address) (epoch stake segStart segEnd : Nat) :
    Tx ProxyError DiemStakingProxy :=
  if stake = 0 ∨ segEnd ≤ segStart then pure s
  else do
    let scaled ← uint 256 (stake * (segEnd - segStart))
    let points ← uint 256 (s.userPoints account epoch + scaled / ray)
    pure { s with
      userPoints := update s.userPoints account (update (s.userPoints account) epoch points) }

/-- Where a segment of a staker's points starts: at its snapshot in its own epoch, at the
    close of the previous epoch later on. -/
def segmentStart (userEp userSnap epoch : Nat) : Nat :=
  if epoch = userEp then userSnap else (s.rewardEpochs (epoch - 1)).revenuePerTokenAtEnd

end

/-- The loop over closed epochs shared by `_captureUserPoints` and `catchUpPoints`. -/
def addClosedPoints (account : Address) (stake userEp userSnap : Nat) :
    Nat → Nat → DiemStakingProxy → Tx ProxyError DiemStakingProxy
  | 0, _, s => pure s
  | count + 1, epoch, s => do
      let s ← s.addUserPoints account epoch stake (s.segmentStart userEp userSnap epoch)
        (s.rewardEpochs epoch).revenuePerTokenAtEnd
      addClosedPoints account stake userEp userSnap count (epoch + 1) s

section

variable (s : DiemStakingProxy)

def snapUser (account : Address) (snap epoch : Nat) : DiemStakingProxy :=
  { s with
    userRevenuePerTokenSnap := update s.userRevenuePerTokenSnap account snap
    userCurrentEpoch := update s.userCurrentEpoch account epoch }

def captureUserPoints (account : Address) : Tx ProxyError DiemStakingProxy :=
  if account = 0 then pure s
  else
    let stake := s.staked account
    let currentEp := s.syncedRewardEpoch
    if stake = 0 then pure (s.snapUser account s.usdcRewardPerTokenStored currentEp)
    else do
      let userEp := s.userCurrentEpoch account
      require (¬ (currentEp > userEp ∧ currentEp - userEp > maxEpochsPerCapture)) .backlogTooLarge
      let userSnap := s.userRevenuePerTokenSnap account
      let s ← addClosedPoints account stake userEp userSnap (currentEp - userEp) userEp s
      let s ← s.addUserPoints account currentEp stake (s.segmentStart userEp userSnap currentEp)
        s.usdcRewardPerTokenStored
      pure (s.snapUser account s.usdcRewardPerTokenStored currentEp)

/-- The modifier `updateRewards`. -/
def updateRewards (ctx : ProxyContext) (account : Address) :
    Tx ProxyError DiemStakingProxy := do
  let s ← s.updateUsdcForUser account
  let s ← s.syncFinalizedRewardEpochsForUpdate ctx
  s.captureUserPoints account

def catchUpPoints (ctx : ProxyContext) (numEpochs : Nat) :
    Tx ProxyError DiemStakingProxy := do
  decode 32 numEpochs
  s.requireNotPaused
  require (numEpochs ≠ 0) .invalidAmount
  let s ← s.updateUsdcForUser ctx.sender
  let (s, _) ← s.syncFinalizedRewardEpochsBounded ctx numEpochs
  let userEp := s.userCurrentEpoch ctx.sender
  let requested ← uint 32 (userEp + numEpochs)
  let targetEp := if requested > s.syncedRewardEpoch then s.syncedRewardEpoch else requested
  require (targetEp ≠ userEp) .nothingToClaim
  let stake := s.staked ctx.sender
  let userSnap := s.userRevenuePerTokenSnap ctx.sender
  let s ← addClosedPoints ctx.sender stake userEp userSnap (targetEp - userEp) userEp s
  let last ← sub targetEp 1
  pure (s.snapUser ctx.sender (s.rewardEpochs last).revenuePerTokenAtEnd targetEp)

def stake (diem : Diem) (ctx : ProxyContext) (amount : Nat) :
    Tx ProxyError (DiemStakingProxy × Diem) := do
  s.requireNotPaused
  let s ← s.updateRewards ctx ctx.sender
  require (amount ≠ 0) .invalidAmount
  let newTotal ← uint 256 (s.totalStaked + amount)
  require (¬ (s.maxTotalStake ≠ 0 ∧ newTotal > s.maxTotalStake)) .maxStakeExceeded
  let count ← uint 32 (if s.staked ctx.sender = 0 then s.stakerCount + 1 else s.stakerCount)
  let newStake ← uint 256 (s.staked ctx.sender + amount)
  let token ← diem.token.transferFrom ctx.self ctx.sender ctx.self amount
  let diem ← { diem with token := token }.stake ctx.self amount
  pure ({ s with
    stakerCount := count
    staked := update s.staked ctx.sender newStake
    totalStaked := newTotal }, diem)

/-- A user that is new to a batch needs a free place in it. -/
def joinBatch (batchId : Nat) (user : Address) :
    Tx ProxyError DiemStakingProxy :=
  if s.unstakeBatchUserAmount batchId user = 0 then do
    let e := s.unstakeBatches batchId
    require (¬ e.userCount ≥ maxPerUnstakeBatch) .unstakeBatchFull
    let userCount ← uint 32 (e.userCount + 1)
    pure { s with
      unstakeBatchUsers := update s.unstakeBatchUsers batchId (s.unstakeBatchUsers batchId ++ [user])
      unstakeBatches := update s.unstakeBatches batchId { e with userCount := userCount } }
  else pure s

def initiateUnstake (ctx : ProxyContext) (amount : Nat) :
    Tx ProxyError DiemStakingProxy := do
  s.requireNotPaused
  let s ← s.updateRewards ctx ctx.sender
  require (amount ≠ 0) .invalidAmount
  require (amount ≤ s.staked ctx.sender) .insufficientStake
  let batchId := s.currentUnstakeBatch
  let openedAt := if (s.unstakeBatches batchId).total = 0 then ctx.now % 2 ^ 64
    else s.currentUnstakeBatchOpenedAt
  let existing := s.unstakeBatchUserAmount batchId ctx.sender
  let s ← s.joinBatch batchId ctx.sender
  let newStake ← sub (s.staked ctx.sender) amount
  let newTotal ← sub s.totalStaked amount
  let count ← (if newStake = 0 then sub s.stakerCount 1 else pure s.stakerCount)
  let amt128 ← safeCast 128 amount
  let queued ← uint 128 (existing + amt128)
  let e := s.unstakeBatches batchId
  let total ← uint 128 (e.total + amt128)
  pure { s with
    currentUnstakeBatchOpenedAt := openedAt
    staked := update s.staked ctx.sender newStake
    totalStaked := newTotal
    stakerCount := count
    unstakeBatchUserAmount := update s.unstakeBatchUserAmount batchId
      (update (s.unstakeBatchUserAmount batchId) ctx.sender queued)
    unstakeBatches := update s.unstakeBatches batchId { e with total := total } }

def flush (diem : Diem) (ctx : ProxyContext) :
    Tx ProxyError (DiemStakingProxy × Diem) := do
  s.requireNotPaused
  require (s.currentUnstakeBatch = s.oldestUnclaimedUnstakeBatch) .priorUnstakeBatchUnclaimed
  let batchId := s.currentUnstakeBatch
  let e := s.unstakeBatches batchId
  require (e.total ≠ 0) .nothingToFlush
  require (¬ (e.userCount < maxPerUnstakeBatch ∧
    ctx.now < s.currentUnstakeBatchOpenedAt + s.minUnstakeBatchOpenSecs)) .unstakeBatchTooYoung
  let until_ ← uint 256 (ctx.now + diem.cooldownDuration)
  let unlockAt ← safeCast 64 until_
  let next ← uint 32 (batchId + 1)
  let diem ← diem.initiateUnstake ctx.now ctx.self e.total
  pure ({ s with
    unstakeBatches := update s.unstakeBatches batchId { e with unlockAt := unlockAt }
    currentUnstakeBatch := next
    currentUnstakeBatchOpenedAt := 0 }, diem)

end

/-- The loop of `claimUnstakeBatch`: every user of the batch is paid what it queued. -/
def payUsers (self : Address) (batchId : Nat) :
    List Address → DiemStakingProxy → Erc20 → Tx ProxyError (DiemStakingProxy × Erc20)
  | [], s, token => pure (s, token)
  | user :: rest, s, token => do
      let amount := s.unstakeBatchUserAmount batchId user
      let amounts := update s.unstakeBatchUserAmount batchId
        (update (s.unstakeBatchUserAmount batchId) user 0)
      let token ← token.transfer self user amount
      payUsers self batchId rest { s with unstakeBatchUserAmount := amounts } token

section

variable (s : DiemStakingProxy)

def claimUnstakeBatch (diem : Diem) (ctx : ProxyContext) (batchId : Nat) :
    Tx ProxyError (DiemStakingProxy × Diem) := do
  decode 32 batchId
  let e := s.unstakeBatches batchId
  require (¬ (e.unlockAt = 0 ∨ ctx.now < e.unlockAt)) .unstakeBatchNotReady
  require (e.claimed = false) .unstakeBatchAlreadyClaimed
  let oldest ← (if batchId = s.oldestUnclaimedUnstakeBatch then uint 32 (batchId + 1)
    else pure s.oldestUnclaimedUnstakeBatch)
  let s := { s with
    unstakeBatches := update s.unstakeBatches batchId { e with claimed := true }
    oldestUnclaimedUnstakeBatch := oldest }
  let diem ← diem.unstake ctx.now ctx.self
  let (s, token) ← payUsers ctx.self batchId (s.unstakeBatchUsers batchId) s diem.token
  pure (s, { diem with token := token })

def claimUsdc (usdc : Erc20) (ctx : ProxyContext) :
    Tx ProxyError (DiemStakingProxy × Erc20) := do
  s.requireNotPaused
  let s ← s.updateRewards ctx ctx.sender
  let owed := s.usdcRewards ctx.sender
  require (owed ≠ 0) .nothingToClaim
  let reserved ← sub s.totalUsdcReservedForStakers owed
  let usdc ← usdc.transfer ctx.self ctx.sender owed
  pure ({ s with
    usdcRewards := update s.usdcRewards ctx.sender 0
    totalUsdcReservedForStakers := reserved }, usdc)

/-- The first loop of `claimAnts`: the epoch that has to be finalized. -/
def claimTarget (firstRewardEpoch : Nat) : List Nat → Nat → Tx ProxyError Nat
  | [], target => pure target
  | rewardEpoch :: rest, target => do
      require (¬ rewardEpoch < firstRewardEpoch) .rewardEpochNotFinalized
      let next ← uint 32 (rewardEpoch + 1)
      claimTarget firstRewardEpoch rest (if next > target then next else target)

def fundRewardEpoch (ants : Erc20) (ctx : ProxyContext) (rewardEpoch : Nat) :
    Tx ProxyError (DiemStakingProxy × Erc20 × Nat) := do
  let (ants, gross) ← collect ants ctx.self (ctx.emission rewardEpoch)
  let (ants, antsPot) ← s.takeOperatorFee ants ctx.self gross
  let funded := { s.rewardEpochs rewardEpoch with antsPot := antsPot, funded := true }
  pure ({ s with rewardEpochs := update s.rewardEpochs rewardEpoch funded }, ants, antsPot)

/-- The pot of an epoch, claimed from the emissions the first time it is needed. -/
def epochPot (ants : Erc20) (ctx : ProxyContext) (rewardEpoch : Nat) :
    Tx ProxyError (DiemStakingProxy × Erc20 × Nat) :=
  if (s.rewardEpochs rewardEpoch).funded then
    pure (s, ants, (s.rewardEpochs rewardEpoch).antsPot)
  else s.fundRewardEpoch ants ctx rewardEpoch

def clearUserPoints (account : Address) (epoch : Nat) : DiemStakingProxy :=
  { s with userPoints := update s.userPoints account (update (s.userPoints account) epoch 0) }

/-- One epoch of the second loop of `claimAnts`; returns the ANTS it pays. -/
def claimEpoch (ants : Erc20) (ctx : ProxyContext) (epoch : Nat) :
    Tx ProxyError (DiemStakingProxy × Erc20 × Nat) :=
  let user := ctx.sender
  let userPts := s.userPoints user epoch
  let totalPoints := (s.rewardEpochs epoch).totalPoints
  let claimed := update s.userEpochClaimed user (update (s.userEpochClaimed user) epoch true)
  let s := { s with userEpochClaimed := claimed }
  if userPts = 0 then pure (s, ants, 0)
  else if totalPoints = 0 then pure (s.clearUserPoints user epoch, ants, 0)
  else do
    let (s, ants, antsPot) ← s.epochPot ants ctx epoch
    if antsPot = 0 then pure (s.clearUserPoints user epoch, ants, 0)
    else do
      let scaled ← uint 256 (antsPot * userPts)
      let paid ← div scaled totalPoints
      pure (s.clearUserPoints user epoch, ants, paid)

end

/-- The second loop of `claimAnts`, with what has been gathered and whether anything was
    processed. -/
def claimEpochs (ctx : ProxyContext) : List Nat → DiemStakingProxy → Erc20 → Nat → Bool →
    Tx ProxyError (DiemStakingProxy × Erc20 × Nat × Bool)
  | [], s, ants, totalAnts, processed => pure (s, ants, totalAnts, processed)
  | epoch :: rest, s, ants, totalAnts, processed =>
    if s.userEpochClaimed ctx.sender epoch then claimEpochs ctx rest s ants totalAnts processed
    else do
      let (s, ants, paid) ← s.claimEpoch ants ctx epoch
      let totalAnts ← uint 256 (totalAnts + paid)
      claimEpochs ctx rest s ants totalAnts true

/-- The loop of `_advanceUserClaimCursor`. -/
def advanceCursor (s : DiemStakingProxy) (account : Address) : Nat → Nat → Nat
  | 0, cursor => cursor
  | scans + 1, cursor =>
    if cursor < s.syncedRewardEpoch ∧ s.userEpochClaimed account cursor = true then
      s.advanceCursor account scans (cursor + 1)
    else cursor

variable (s : DiemStakingProxy)

def advanceUserClaimCursor (account : Address) : DiemStakingProxy :=
  let last := s.userLastClaimedEpoch account
  let cursor := if last < s.firstRewardEpoch then s.firstRewardEpoch else last
  let reached := s.advanceCursor account maxEpochsPerCapture cursor
  { s with userLastClaimedEpoch := update s.userLastClaimedEpoch account reached }

/-- Closed epochs the claim needs, at most as many as a capture allows. -/
def syncForClaim (target : Nat) : Tx ProxyError DiemStakingProxy :=
  if target > s.syncedRewardEpoch then do
    require (¬ target - s.syncedRewardEpoch > maxEpochsPerCapture) .backlogTooLarge
    pure (s.syncRewardEpochsUntil target)
  else pure s

def claimAnts (ants : Erc20) (ctx : ProxyContext)
    (rewardEpochIds : List Nat) : Tx ProxyError (DiemStakingProxy × Erc20) := do
  s.requireNotPaused
  let len := rewardEpochIds.length
  require (¬ (len = 0 ∨ len > maxEpochsPerCapture)) .invalidAmount
  let target ← claimTarget s.firstRewardEpoch rewardEpochIds s.firstRewardEpoch
  let finalized ← finalizedRewardEpoch ctx
  require (¬ target > finalized) .rewardEpochNotFinalized
  let s ← s.updateUsdcForUser ctx.sender
  let s ← s.syncForClaim target
  let s ← s.captureUserPoints ctx.sender
  let (s, ants, totalAnts, processed) ← claimEpochs ctx rewardEpochIds s ants 0 false
  require (processed = true) .nothingToClaim
  let s := s.advanceUserClaimCursor ctx.sender
  if totalAnts > 0 then do
    let ants ← ants.transfer ctx.self ctx.sender totalAnts
    pure (s, ants)
  else pure (s, ants)

def distributeUsdcInstant (ctx : ProxyContext) (amount : Nat) :
    Tx ProxyError DiemStakingProxy :=
  if amount = 0 ∨ s.totalStaked = 0 then pure s
  else do
    let s ← s.syncFinalizedRewardEpochsForUpdate ctx
    let scaled ← uint 256 (amount * ray)
    let rewardPerTokenDelta ← div scaled s.totalStaked
    if rewardPerTokenDelta = 0 then pure s
    else do
      let stored ← uint 256 (s.usdcRewardPerTokenStored + rewardPerTokenDelta)
      let product ← uint 256 (rewardPerTokenDelta * s.totalStaked)
      let distributable := product / ray
      let points ← uint 256 (s.currentEpochRevenuePoints + distributable)
      let reserved ← uint 256 (s.totalUsdcReservedForStakers + distributable)
      let ever ← uint 256 (s.totalUsdcDistributedEver + distributable)
      pure { s with
        usdcRewardPerTokenStored := stored
        currentEpochRevenuePoints := points
        totalUsdcReservedForStakers := reserved
        totalUsdcDistributedEver := ever }

/-- A call forwarded to Channels, whose payout less the fee goes to the stakers. -/
def forwardRevenue (usdc : Erc20) (ctx : ProxyContext) :
    Tx ProxyError (DiemStakingProxy × Erc20) := do
  s.requireNotPaused
  require (s.isOperator ctx.sender = true) .notOperator
  let (usdc, gross) ← collect usdc ctx.self ctx.payment
  let (usdc, netPayout) ← s.takeOperatorFee usdc ctx.self gross
  let s ← s.distributeUsdcInstant ctx netPayout
  pure (s, usdc)

def topUp (usdc : Erc20) (ctx : ProxyContext) :
    Tx ProxyError (DiemStakingProxy × Erc20) := s.forwardRevenue usdc ctx

def settle (usdc : Erc20) (ctx : ProxyContext) :
    Tx ProxyError (DiemStakingProxy × Erc20) := s.forwardRevenue usdc ctx

def close (usdc : Erc20) (ctx : ProxyContext) :
    Tx ProxyError (DiemStakingProxy × Erc20) := s.forwardRevenue usdc ctx

def sweepOrphanUsdc (usdc : Erc20) (ctx : ProxyContext)
    (recipient : Address) : Tx ProxyError Erc20 := do
  s.requireOwner ctx.sender
  require (recipient ≠ 0) .invalidAddress
  let balance := usdc.balanceOf ctx.self
  let reserved := s.totalUsdcReservedForStakers
  if balance ≤ reserved then pure usdc else usdc.transfer ctx.self recipient (balance - reserved)

def withdrawAntseedStake (usdc : Erc20) (ctx : ProxyContext)
    (recipient : Address) : Tx ProxyError Erc20 := do
  s.requireOwner ctx.sender
  require (recipient ≠ 0) .invalidAddress
  let (usdc, payout) ← collect usdc ctx.self ctx.payment
  if payout > 0 then usdc.transfer ctx.self recipient payout else pure usdc

/-- The owner's other functions. -/
inductive ProxySetting where
  | operator (op : Address) (enabled : Bool)
  | operatorFee (feeBps : Nat) (recipient : Address)
  | maxTotalStake (newMaxTotalStake : Nat)
  | minUnstakeBatchOpenSecs (newMinUnstakeBatchOpenSecs : Nat)
  | pause
  | unpause
  | transferOwnership (newOwner : Address)
  | renounceOwnership

def set (sender : Address) (setting : ProxySetting) :
    Tx ProxyError DiemStakingProxy := do
  s.requireOwner sender
  match setting with
  | .operator op enabled => do
      require (op ≠ 0) .invalidAddress
      pure { s with isOperator := update s.isOperator op enabled }
  | .operatorFee feeBps recipient => do
      require (¬ feeBps > maxOperatorFeeBps) .operatorFeeTooLarge
      require (¬ (feeBps > 0 ∧ recipient = 0)) .invalidAddress
      pure { s with operatorFeeBps := feeBps, operatorFeeRecipient := recipient }
  | .maxTotalStake newMaxTotalStake => pure { s with maxTotalStake := newMaxTotalStake }
  | .minUnstakeBatchOpenSecs newMinUnstakeBatchOpenSecs => do
      require (¬ newMinUnstakeBatchOpenSecs > maxMinUnstakeBatchOpenSecs)
        .minUnstakeBatchOpenSecsTooLarge
      pure { s with minUnstakeBatchOpenSecs := newMinUnstakeBatchOpenSecs }
  | .pause => do
      require (s.paused = false) .enforcedPause
      pure { s with paused := true }
  | .unpause => do
      require (s.paused = true) .expectedPause
      pure { s with paused := false }
  | .transferOwnership newOwner => do
      require (newOwner ≠ 0) .ownableInvalidOwner
      pure { s with owner := newOwner }
  | .renounceOwnership => pure { s with owner := 0 }

def pendingRewardEpochEmissions (pending : Nat) : Tx ProxyError Nat := do
  let fee ← s.operatorFeeAmount pending
  sub pending fee

/-- Points of an epoch a staker has not captured yet. -/
def uncapturedPoints (account : Address) (rewardEpoch : Nat) :
    Tx ProxyError Nat :=
  let userEp := s.userCurrentEpoch account
  let stake := s.staked account
  if stake > 0 ∧ userEp ≤ rewardEpoch then
    let segStart := if userEp = rewardEpoch then s.userRevenuePerTokenSnap account
      else if rewardEpoch > 0 then (s.rewardEpochs (rewardEpoch - 1)).revenuePerTokenAtEnd else 0
    let segEnd := (s.rewardEpochs rewardEpoch).revenuePerTokenAtEnd
    if segEnd > segStart then do
      let scaled ← uint 256 (stake * (segEnd - segStart))
      pure (scaled / ray)
    else pure 0
  else pure 0

/-- The emissions contract answers what it would pay the proxy for the epoch. -/
def pendingAntsForEpoch (pending : Nat → Option Nat) (account : Address)
    (rewardEpoch : Nat) : Tx ProxyError Nat :=
  if s.userEpochClaimed account rewardEpoch then pure 0
  else if rewardEpoch ≥ s.syncedRewardEpoch then pure 0
  else do
    let re := s.rewardEpochs rewardEpoch
    let antsPot ← (if re.funded then pure re.antsPot
      else do
        let gross ← answer (pending rewardEpoch)
        s.pendingRewardEpochEmissions gross)
    if antsPot = 0 then pure 0
    else if re.totalPoints = 0 then pure 0
    else do
      let uncaptured ← s.uncapturedPoints account rewardEpoch
      let userPts ← uint 256 (s.userPoints account rewardEpoch + uncaptured)
      if userPts = 0 then pure 0
      else do
        let scaled ← uint 256 (antsPot * userPts)
        div scaled re.totalPoints

end DiemStakingProxy

structure ProxyState where
  now : Nat
  epoch : Nat
  proxy : DiemStakingProxy
  diem : Diem
  usdc : Erc20
  ants : Erc20

inductive ProxyOperation where
  | stake (amount : Nat)
  | initiateUnstake (amount : Nat)
  | flush
  | claimUnstakeBatch (batchId : Nat)
  | claimUsdc
  | claimAnts (rewardEpochIds : List Nat)
  | catchUpPoints (numEpochs : Nat)
  | topUp
  | settle
  | close
  | syncRewardEpochs (maxEpochs : Nat)
  | sweepOrphanUsdc (recipient : Address)
  | withdrawAntseedStake (recipient : Address)
  | set (setting : DiemStakingProxy.ProxySetting)

inductive ProxyEvent where
  /-- a call of the proxy and what outside contracts paid during it -/
  | call (sender : Address) (payment : Option (Address × Nat))
      (emission : Nat → Option (Address × Nat)) (op : ProxyOperation)
  | elapse (seconds : Nat)
  /-- the emission epoch the registry reports -/
  | epoch (epoch : Nat)
  | usdcMint (target : Address) (amount : Nat)
  | usdcTransfer (source target : Address) (amount : Nat)
  | antsMint (target : Address) (amount : Nat)
  | antsTransfer (source target : Address) (amount : Nat)
  | diemMint (target : Address) (amount : Nat)
  | diemTransfer (source target : Address) (amount : Nat)
  | diemApprove (owner spender : Address) (amount : Nat)
  | diemCooldown (duration : Nat)

namespace ProxyState

def perform (s : ProxyState) (ctx : ProxyContext) : ProxyOperation → Tx ProxyError ProxyState
  | .stake amount => do
      let (proxy, diem) ← s.proxy.stake s.diem ctx amount
      pure { s with proxy := proxy, diem := diem }
  | .initiateUnstake amount => do
      let proxy ← s.proxy.initiateUnstake ctx amount
      pure { s with proxy := proxy }
  | .flush => do
      let (proxy, diem) ← s.proxy.flush s.diem ctx
      pure { s with proxy := proxy, diem := diem }
  | .claimUnstakeBatch batchId => do
      let (proxy, diem) ← s.proxy.claimUnstakeBatch s.diem ctx batchId
      pure { s with proxy := proxy, diem := diem }
  | .claimUsdc => do
      let (proxy, usdc) ← s.proxy.claimUsdc s.usdc ctx
      pure { s with proxy := proxy, usdc := usdc }
  | .claimAnts rewardEpochIds => do
      let (proxy, ants) ← s.proxy.claimAnts s.ants ctx rewardEpochIds
      pure { s with proxy := proxy, ants := ants }
  | .catchUpPoints numEpochs => do
      let proxy ← s.proxy.catchUpPoints ctx numEpochs
      pure { s with proxy := proxy }
  | .topUp => do
      let (proxy, usdc) ← s.proxy.topUp s.usdc ctx
      pure { s with proxy := proxy, usdc := usdc }
  | .settle => do
      let (proxy, usdc) ← s.proxy.settle s.usdc ctx
      pure { s with proxy := proxy, usdc := usdc }
  | .close => do
      let (proxy, usdc) ← s.proxy.close s.usdc ctx
      pure { s with proxy := proxy, usdc := usdc }
  | .syncRewardEpochs maxEpochs => do
      let proxy ← s.proxy.syncRewardEpochs ctx maxEpochs
      pure { s with proxy := proxy }
  | .sweepOrphanUsdc recipient => do
      let usdc ← s.proxy.sweepOrphanUsdc s.usdc ctx recipient
      pure { s with usdc := usdc }
  | .withdrawAntseedStake recipient => do
      let usdc ← s.proxy.withdrawAntseedStake s.usdc ctx recipient
      pure { s with usdc := usdc }
  | .set setting => do
      let proxy ← s.proxy.set ctx.sender setting
      pure { s with proxy := proxy }

def step (self : Address) (s : ProxyState) : ProxyEvent → Tx ProxyError ProxyState
  | .call sender payment emission op => do
      require (sender ≠ self ∧ sender ≠ 0) .invalidAddress
      s.perform ⟨sender, self, s.now, s.epoch, payment, emission⟩ op
  | .elapse seconds => pure { s with now := s.now + seconds }
  | .epoch epoch => pure { s with epoch := epoch }
  | .usdcMint target amount => do
      let usdc ← s.usdc.mint target amount
      pure { s with usdc := usdc }
  | .usdcTransfer source target amount => do
      require (source ≠ self) .invalidAddress
      let usdc ← s.usdc.transfer source target amount
      pure { s with usdc := usdc }
  | .antsMint target amount => do
      let ants ← s.ants.mint target amount
      pure { s with ants := ants }
  | .antsTransfer source target amount => do
      require (source ≠ self) .invalidAddress
      let ants ← s.ants.transfer source target amount
      pure { s with ants := ants }
  | .diemMint target amount => do
      let token ← s.diem.token.mint target amount
      pure { s with diem := { s.diem with token := token } }
  | .diemTransfer source target amount => do
      require (source ≠ self ∧ source ≠ s.diem.self) .invalidAddress
      let token ← s.diem.token.transfer source target amount
      pure { s with diem := { s.diem with token := token } }
  | .diemApprove owner spender amount => do
      require (owner ≠ self ∧ owner ≠ s.diem.self) .invalidAddress
      pure { s with diem := { s.diem with token := s.diem.token.approve owner spender amount } }
  | .diemCooldown duration => pure { s with diem := { s.diem with cooldownDuration := duration } }

end ProxyState

def proxyMachine (self : Address) : Machine ProxyState ProxyEvent (Revert ProxyError) :=
  ⟨ProxyState.step self⟩

end AntSeed.Staking
