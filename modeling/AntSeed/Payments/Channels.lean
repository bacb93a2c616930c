import AntSeed.Payments.Deposits

/-! # AntseedChannels

The channel lifecycle. The buyer signs cumulative amounts; the seller opens,
tops up, settles and closes, and the buyer's operator can request a close and
withdraw after the grace period. All money moves happen in AntseedDeposits.

Answers of contracts outside the pair (staking, emissions, the registry's
reserve address) are arbitrary: every call carries its own `External`.
-/

namespace AntSeed.Payments

open Evm Function

inductive ChannelStatus where
  | none | active | settled | timedOut
  deriving DecidableEq, Repr

structure Channel where
  buyer : Address
  seller : Address
  deposit : Nat
  settled : Nat
  metadataHash : Word
  deadline : Nat
  settledAt : Nat
  closeRequestedAt : Nat
  status : ChannelStatus

instance : Inhabited Channel := ⟨⟨0, 0, 0, 0, 0, 0, 0, 0, .none⟩⟩

structure AgentStats where
  channelCount : Nat := 0
  ghostCount : Nat := 0
  totalVolumeUsdc : Nat := 0
  lastSettledAt : Nat := 0

structure Channels where
  firstSignCap : Nat := 1000000
  platformFeeBps : Nat := 200
  maxPlatformFeeBps : Nat := 1000
  timeoutGracePeriod : Nat := 900
  topUpSettledThresholdBps : Nat := 8500
  channels : Word → Channel := fun _ => default
  activeChannelCount : Address → Nat := fun _ => 0
  agentStats : Word → AgentStats := fun _ => {}
  paused : Bool := false
  owner : Address

/-- The answers of the contracts a call reaches outside the pair. -/
structure External where
  isStakedAboveMin : Bool
  /-- `getAgentId(seller)`; zero when the seller has no agent -/
  agentId : Word
  /-- `none` while the registry has no emissions contract, else whether both accruals return -/
  emissions : Option Bool
  protocolReserve : Address

/-- The two contracts, their token and the clock. -/
structure State where
  now : Nat
  deposits : Deposits
  channels : Channels
  usdc : Erc20
  signed : List Signature

namespace State

section

variable (s : State)

def setChannel (channelId : Word) (channel : Channel) : State :=
  { s with channels := { s.channels with
    channels := update s.channels.channels channelId channel } }

def channel (channelId : Word) : Channel := s.channels.channels channelId

def setStats (agentId : Word) (stats : AgentStats) : State :=
  { s with channels := { s.channels with
    agentStats := update s.channels.agentStats agentId stats } }

def setActiveCount (seller : Address) (count : Nat) : State :=
  { s with channels := { s.channels with
    activeChannelCount := update s.channels.activeChannelCount seller count } }

/-- `nonReentrant whenNotPaused` of the lifecycle calls: no call is nested here. -/
def whenNotPaused : Tx Error Unit := require (s.channels.paused = false) .enforcedPause

/-- The stats part of `_settleSpend`. The metadata copy to the stats contract is
    wrapped in try/catch and cannot stop the settlement. -/
def recordVolume (ext : External) (delta : Nat) : Tx Error State :=
  if ext.agentId = 0 then pure s
  else do
    let stats := s.channels.agentStats ext.agentId
    let volume ← uint 256 (stats.totalVolumeUsdc + delta)
    pure (s.setStats ext.agentId { stats with
      totalVolumeUsdc := volume, lastSettledAt := s.now % 2 ^ 64 })

end

section

variable (r : Deployment)

variable (s : State)

variable (ext : External)

/-- `_settleSpend`: verify the SpendingAuth, charge the delta, record the stats. -/
def settleSpend (channelId : Word)
    (cumulativeAmount : Nat) (metadata : List UInt8) (buyerSig : Signature) : Tx Error State := do
  let channel := s.channel channelId
  let metadataHash := r.keccak256 metadata
  Deposits.verifySignature s.signed (.spendingAuth channelId cumulativeAmount metadataHash)
    buyerSig channel.buyer
  let delta ← sub cumulativeAmount channel.settled
  if delta = 0 then pure s
  else do
    let feeProduct ← uint 256 (delta * s.channels.platformFeeBps)
    let platformFee := feeProduct / 10000
    let s := s.setChannel channelId { channel with
      settled := cumulativeAmount, metadataHash := metadataHash, settledAt := s.now }
    let s ← s.recordVolume ext delta
    external (ext.emissions.getD true)
    let (deposits, usdc) ← s.deposits.chargeAndCreditPayouts r s.usdc s.now ext.protocolReserve
      r.channels channel.buyer channel.seller delta platformFee
    pure { s with deposits := deposits, usdc := usdc }

def reserve (sender buyer : Address) (salt : Word)
    (maxAmount deadline : Nat) (buyerSig : Signature) : Tx Error State := do
  decode 128 maxAmount
  s.whenNotPaused
  require (s.now ≤ deadline) .channelExpired
  require (ext.isStakedAboveMin = true) .sellerNotStaked
  require (maxAmount ≠ 0) .invalidAmount
  let channelId := r.computeChannelId buyer sender salt
  require ((s.channel channelId).status = .none) .channelExists
  require (maxAmount ≤ s.channels.firstSignCap) .firstSignCapExceeded
  Deposits.verifySignature s.signed (.reserveAuth channelId maxAmount deadline) buyerSig buyer
  let s := s.setChannel channelId {
    buyer := buyer, seller := sender, deposit := maxAmount, settled := 0, metadataHash := 0,
    deadline := deadline, settledAt := 0, closeRequestedAt := 0, status := .active }
  let count ← uint 256 (s.channels.activeChannelCount sender + 1)
  let s := s.setActiveCount sender count
  let deposits ← s.deposits.lockForChannel r s.now r.channels buyer maxAmount
  pure { s with deposits := deposits }

variable (sender : Address)

variable (channelId : Word)

def topUp
    (cumulativeAmount : Nat) (metadata : List UInt8) (spendingSig : Signature)
    (newMaxAmount deadline : Nat) (reserveSig : Signature) : Tx Error State := do
  decode 128 cumulativeAmount
  decode 128 newMaxAmount
  s.whenNotPaused
  let channel := s.channel channelId
  require (channel.status = .active) .channelNotActive
  require (sender = channel.seller) .notAuthorized
  require (channel.closeRequestedAt = 0) .closeAlreadyRequested
  require (s.now ≤ deadline) .channelExpired
  require (channel.deposit < newMaxAmount) .topUpAmountTooLow
  let s ← (if channel.settled < cumulativeAmount then do
      require (cumulativeAmount ≤ channel.deposit) .invalidAmount
      s.settleSpend r ext channelId cumulativeAmount metadata spendingSig
    else pure s)
  -- the settlement above has written `settled`; everything else is as it was read
  let channel := s.channel channelId
  let scaled ← uint 256 (channel.deposit * s.channels.topUpSettledThresholdBps)
  require (scaled / 10000 ≤ channel.settled) .topUpThresholdNotMet
  Deposits.verifySignature s.signed (.reserveAuth channelId newMaxAmount deadline) reserveSig
    channel.buyer
  let additionalAmount ← sub newMaxAmount channel.deposit
  let deposits ← s.deposits.lockForChannel r s.now r.channels channel.buyer additionalAmount
  pure ({ s with deposits := deposits }.setChannel channelId
    { channel with deposit := newMaxAmount, deadline := deadline })

def settle
    (cumulativeAmount : Nat) (metadata : List UInt8) (buyerSig : Signature) : Tx Error State := do
  decode 128 cumulativeAmount
  s.whenNotPaused
  let channel := s.channel channelId
  require (channel.status = .active) .channelNotActive
  require (sender = channel.seller) .notAuthorized
  require (channel.settled < cumulativeAmount) .invalidAmount
  require (cumulativeAmount ≤ channel.deposit) .invalidAmount
  s.settleSpend r ext channelId cumulativeAmount metadata buyerSig

/-- Count a finished channel for its seller's agent: a ghost if nothing was settled. -/
def recordFinish (ghost : Bool) : Tx Error State :=
  if ext.agentId = 0 then pure s
  else if ghost then do
    let stats := s.channels.agentStats ext.agentId
    let ghosts ← uint 64 (stats.ghostCount + 1)
    pure (s.setStats ext.agentId { stats with ghostCount := ghosts })
  else do
    let stats := s.channels.agentStats ext.agentId
    let finished ← uint 64 (stats.channelCount + 1)
    pure (s.setStats ext.agentId { stats with channelCount := finished })

/-- The common end of `close` and `withdraw`: set the status, drop the seller's
    count, count the channel for its agent and release what was not spent. -/
def finish
    (status : ChannelStatus) (ghost : Bool) (remaining : Nat) : Tx Error State := do
  let channel := s.channel channelId
  let s := s.setChannel channelId { channel with status := status }
  let count ← sub (s.channels.activeChannelCount channel.seller) 1
  let s := s.setActiveCount channel.seller count
  let s ← s.recordFinish ext ghost
  if remaining > 0 then do
    let deposits ← s.deposits.releaseLock r r.channels channel.buyer remaining
    pure { s with deposits := deposits }
  else pure s

def close
    (finalAmount : Nat) (metadata : List UInt8) (buyerSig : Signature) : Tx Error State := do
  decode 128 finalAmount
  s.whenNotPaused
  let channel := s.channel channelId
  require (channel.status = .active) .channelNotActive
  require (sender = channel.seller) .notAuthorized
  require (channel.settled ≤ finalAmount) .finalAmountBelowSettled
  require (finalAmount ≤ channel.deposit) .invalidAmount
  let s ← (if channel.settled < finalAmount then
      s.settleSpend r ext channelId finalAmount metadata buyerSig
    else pure s)
  let channel := s.channel channelId
  let unsettled ← sub channel.deposit channel.settled
  s.finish r ext channelId .settled false unsettled

/-- `_requireOperator`: the caller is the buyer's operator in Deposits. -/
def requireOperator (sender buyer : Address) : Tx Error Unit :=
  require (sender = (s.deposits.buyers buyer).operator) .notAuthorized

def requestClose : Tx Error State := do
  let channel := s.channel channelId
  require (channel.status = .active) .channelNotActive
  s.requireOperator sender channel.buyer
  require (channel.closeRequestedAt = 0) .closeAlreadyRequested
  -- the event computes the end of the grace period
  let _ ← uint 256 (s.now + s.channels.timeoutGracePeriod)
  pure (s.setChannel channelId { channel with closeRequestedAt := s.now })

def withdraw :
    Tx Error State := do
  let channel := s.channel channelId
  require (channel.status = .active) .channelNotActive
  s.requireOperator sender channel.buyer
  require (channel.closeRequestedAt ≠ 0) .closeNotReady
  let ready ← uint 256 (channel.closeRequestedAt + s.channels.timeoutGracePeriod)
  require (ready ≤ s.now) .closeNotReady
  let remainingReserved ← sub channel.deposit channel.settled
  s.finish r ext channelId .timedOut (channel.settled = 0) remainingReserved

end

/-- The owner's setters and the pause switch. -/
inductive Setting where
  | firstSignCap (value : Nat)
  | platformFeeBps (value : Nat)
  | topUpSettledThresholdBps (value : Nat)
  | pause
  | unpause

def set (s : State) (sender : Address) (setting : Setting) : Tx Error State := do
  require (sender = s.channels.owner) .ownableUnauthorizedAccount
  match setting with
  | .firstSignCap value => pure { s with channels := { s.channels with firstSignCap := value } }
  | .platformFeeBps value => do
      require (value ≤ s.channels.maxPlatformFeeBps) .invalidFee
      pure { s with channels := { s.channels with platformFeeBps := value } }
  | .topUpSettledThresholdBps value => do
      require (value ≤ 10000) .invalidAmount
      pure { s with channels := { s.channels with topUpSettledThresholdBps := value } }
  | .pause => do
      require (s.channels.paused = false) .enforcedPause
      pure { s with channels := { s.channels with paused := true } }
  | .unpause => do
      require (s.channels.paused = true) .expectedPause
      pure { s with channels := { s.channels with paused := false } }

end State

/-- Everything that can happen: calls of the two contracts by anyone, signatures,
    the passage of time, and moves of USDC between other accounts. -/
inductive Operation where
  | deposit (buyer : Address) (amount : Nat)
  | depositsWithdraw (buyer : Address) (amount : Nat)
  | lockForChannel (buyer : Address) (amount : Nat)
  | chargeAndCreditPayouts (buyer seller : Address) (amount platformFee : Nat)
  | releaseLock (buyer : Address) (amount : Nat)
  | setOperator (buyer operator : Address) (nonce : Nat) (buyerSig : Signature)
  | transferOperator (buyer newOperator : Address)
  | reserve (buyer : Address) (salt : Word) (maxAmount deadline : Nat) (buyerSig : Signature)
  | topUp (channelId : Word) (cumulativeAmount : Nat) (metadata : List UInt8)
      (spendingSig : Signature) (newMaxAmount deadline : Nat) (reserveSig : Signature)
  | settle (channelId : Word) (cumulativeAmount : Nat) (metadata : List UInt8)
      (buyerSig : Signature)
  | close (channelId : Word) (finalAmount : Nat) (metadata : List UInt8) (buyerSig : Signature)
  | requestClose (channelId : Word)
  | withdraw (channelId : Word)
  | depositsSetting (setting : Deposits.Setting)
  | channelsSetting (setting : State.Setting)
  | sign (message : Auth)
  | elapse (seconds : Nat)
  | usdcMint (target : Address) (amount : Nat)
  | usdcApprove (spender : Address) (amount : Nat)
  | usdcTransfer (target : Address) (amount : Nat)

structure Call where
  sender : Address
  ext : External
  op : Operation

variable (r : Deployment)

/-- One call. The sender is never one of the two contracts: these act only through
    the code above. -/
def step (s : State) (call : Call) : Tx Error State := do
  require (call.sender ≠ r.deposits ∧ call.sender ≠ r.channels ∧ call.sender ≠ 0) .notAuthorized
  match call.op with
  | .deposit buyer amount => do
      let (deposits, usdc) ← s.deposits.deposit r s.usdc s.now call.sender buyer amount
      pure { s with deposits := deposits, usdc := usdc }
  | .depositsWithdraw buyer amount => do
      let (deposits, usdc) ← s.deposits.withdraw r s.usdc call.sender buyer amount
      pure { s with deposits := deposits, usdc := usdc }
  | .lockForChannel buyer amount => do
      let deposits ← s.deposits.lockForChannel r s.now call.sender buyer amount
      pure { s with deposits := deposits }
  | .chargeAndCreditPayouts buyer seller amount platformFee => do
      let (deposits, usdc) ← s.deposits.chargeAndCreditPayouts r s.usdc s.now
        call.ext.protocolReserve call.sender buyer seller amount platformFee
      pure { s with deposits := deposits, usdc := usdc }
  | .releaseLock buyer amount => do
      let deposits ← s.deposits.releaseLock r call.sender buyer amount
      pure { s with deposits := deposits }
  | .setOperator buyer operator nonce buyerSig => do
      let deposits ← s.deposits.setOperator s.signed buyer operator nonce buyerSig
      pure { s with deposits := deposits }
  | .transferOperator buyer newOperator => do
      let deposits ← s.deposits.transferOperator call.sender buyer newOperator
      pure { s with deposits := deposits }
  | .reserve buyer salt maxAmount deadline buyerSig =>
    s.reserve r call.ext call.sender buyer salt maxAmount deadline buyerSig
  | .topUp channelId cumulativeAmount metadata spendingSig newMaxAmount deadline reserveSig =>
    s.topUp r call.ext call.sender channelId cumulativeAmount metadata spendingSig newMaxAmount
      deadline reserveSig
  | .settle channelId cumulativeAmount metadata buyerSig =>
    s.settle r call.ext call.sender channelId cumulativeAmount metadata buyerSig
  | .close channelId finalAmount metadata buyerSig =>
    s.close r call.ext call.sender channelId finalAmount metadata buyerSig
  | .requestClose channelId => s.requestClose call.sender channelId
  | .withdraw channelId => s.withdraw r call.ext call.sender channelId
  | .depositsSetting setting => do
      let deposits ← s.deposits.set call.sender setting
      pure { s with deposits := deposits }
  | .channelsSetting setting => s.set call.sender setting
  | .sign message => pure { s with signed := ⟨call.sender, message⟩ :: s.signed }
  | .elapse seconds => pure { s with now := s.now + seconds }
  | .usdcMint target amount => do
      let usdc ← s.usdc.mint target amount
      pure { s with usdc := usdc }
  | .usdcApprove spender amount => pure { s with usdc := s.usdc.approve call.sender spender amount }
  | .usdcTransfer target amount => do
      let usdc ← s.usdc.transfer call.sender target amount
      pure { s with usdc := usdc }

/-- The freshly deployed pair. -/
def deployed (now : Nat) : State where
  now := now
  deposits := { owner := r.owner }
  channels := { owner := r.owner }
  usdc := .empty
  signed := []

def machine : Machine State Call (Revert Error) := ⟨step r⟩

def run (now : Nat) (calls : List Call) : State :=
  (machine r).run (deployed r now) calls

end AntSeed.Payments
