import AntSeed.Lib.Async
import AntSeed.Seller.ChannelStore

/-! # SellerPaymentManager: its state

The maps a seller keeps in memory, and the updates that do not await anything.
Log texts are left out, and with them the reasons that only get logged. So are
the waiters for an accepted amount: whoever waits there may go on at any time.
-/

namespace AntSeed.Seller

open Evm
open AntSeed.Payments (Signature Channel)
open Function

/-- The buyer's latest SpendingAuth; no signature stands for the empty string. -/
structure LatestAuth where
  spendingAuthSig : Option Signature
  cumulativeAmount : Int
  metadata : HexData
  deriving DecidableEq, Repr

structure PendingTopUp where
  newMaxAmount : Int
  deadline : Int
  reserveAuthSig : Option Signature
  deriving DecidableEq, Repr

structure PendingOneOffPlan where
  openingReserveAmount : Int
  requiredCumulativeAmount : Int
  requestCost : Int
  expiresAt : Nat
  deriving DecidableEq, Repr

/-- The errors that handlers tell apart. -/
inductive ChainError where
  | topUpThresholdNotMet | inFlightLimit | insufficientBalance | channelNotActive | other
  deriving DecidableEq, Repr

/-- What a close comes to, with the amount it was sent with. -/
inductive CloseResult where
  | closed (amount : Int)
  | failed (error : ChainError)
  deriving DecidableEq, Repr

structure Manager where
  store : ChannelStore := []
  activeBuyers : PeerId → Bool := fun _ => false
  /-- every marker is an object of its own; `markers` were made so far -/
  buyerDisconnectMarkers : PeerId → Option Nat := fun _ => none
  markers : Nat := 0
  hydratedChannelIds : Hex → Bool := fun _ => false
  acceptedCumulative : Hex → Option Int := fun _ => none
  spent : Hex → Option Int := fun _ => none
  reserveMax : Hex → Option Int := fun _ => none
  latestAuth : Hex → Option LatestAuth := fun _ => none
  closeRetryCount : Hex → Option Nat := fun _ => none
  pendingOneOffCloses : Hex → Bool := fun _ => false
  pendingTopUp : Hex → Option PendingTopUp := fun _ => none
  blockedChannels : Hex → Bool := fun _ => false
  idleCloses : Hex → Bool := fun _ => false
  /-- every close is a promise of its own; `closes` were made so far -/
  closingChannels : Hex → Option Nat := fun _ => none
  closes : Nat := 0
  closeResults : Hex → Nat → Option CloseResult := fun _ _ => none
  inFlightRequests : PeerId → Nat := fun _ => 0
  lastSettledCumulative : Hex → Option Int := fun _ => none
  pendingOneOffPlans : PeerId × String → Option PendingOneOffPlan := fun _ => none
  oneOffChannelIds : Hex → Bool := fun _ => false
  timedOutCloseAttempts : Hex → Option Nat := fun _ => none
  /-- milliseconds -/
  now : Nat := 0

/-- What is sent along to settle, top up or close; no signature stands for `0x`. -/
structure SettleParams where
  amount : Int
  metadata : HexData
  sig : Option Signature
  deriving DecidableEq, Repr

namespace Manager

variable (s : Manager)

def maxCloseRetries : Nat := 3
def oneOffPlanTtlMs : Nat := 2 * 60000
def oneOffChannelTtlMs : Nat := 24 * 60 * 60000
def reserveVisibilityGraceMs : Nat := 5 * 60000
def oneOffUnclaimedTtlMs : Nat := 10 * 60000
def timedOutAuthCloseAttempts : Nat := 6

def nowSecs : Int := (s.now / 1000 : Nat)

section

variable (channelId : Hex)

def getSettleParams : SettleParams :=
  match s.latestAuth channelId with
  | some ⟨some sig, cumulativeAmount, metadata⟩ =>
    ⟨cumulativeAmount, metadata.orZeroMetadata, some sig⟩
  | some ⟨none, _, _⟩ => ⟨0, .bytes zeroMetadata, none⟩
  | none => ⟨0, .bytes zeroMetadata, none⟩

section

variable (buyerPeerId : PeerId)

def hasInFlightRequests : Bool := s.inFlightRequests buyerPeerId > 0

def mayNotBeVisibleYet (channel : StoredChannel) : Bool :=
  (s.now : Int) - channel.reservedAt < reserveVisibilityGraceMs

def canAcknowledgeRetainedChannel (channelId : Hex)
    (disconnectMarker : Option Nat) : Bool :=
  (s.store.getActiveChannelByPeer buyerPeerId).any (·.sessionId = channelId)
    && (s.acceptedCumulative channelId).isSome
    && (s.closingChannels channelId).isNone
    && !s.blockedChannels channelId
    && s.buyerDisconnectMarkers buyerPeerId == disconnectMarker

/-- A new promise for the close of a channel. -/
def beginClose : Manager :=
  { s with
    closingChannels := update s.closingChannels channelId (some s.closes)
    closes := s.closes + 1 }

/-- The promise resolves, and the channel forgets it. -/
def endClose (operation : Nat) (result : CloseResult) : Manager :=
  { s with
    closeResults := update s.closeResults channelId (update (s.closeResults channelId) operation
      ((s.closeResults channelId operation).or (some result)))
    closingChannels :=
      if s.closingChannels channelId = some operation then update s.closingChannels channelId none
      else s.closingChannels }

/-- `_buyerDisconnectMarkers.set(buyerPeerId, {})` -/
def markDisconnect : Manager :=
  { s with
    buyerDisconnectMarkers := update s.buyerDisconnectMarkers buyerPeerId (some s.markers)
    markers := s.markers + 1 }

def deactivateBuyerForChannel (peerId : PeerId) (channelId : Hex) : Manager :=
  match s.store.getActiveChannelByPeer peerId with
  | none => { s with
      activeBuyers := update s.activeBuyers peerId false
      buyerDisconnectMarkers := update s.buyerDisconnectMarkers peerId none }
  | some current =>
    if current.sessionId = channelId then
      { s with activeBuyers := update s.activeBuyers peerId false }.markDisconnect peerId
    else s

def deleteChannel : Manager :=
  { s with
    acceptedCumulative := update s.acceptedCumulative channelId none
    spent := update s.spent channelId none
    latestAuth := update s.latestAuth channelId none
    closeRetryCount := update s.closeRetryCount channelId none
    hydratedChannelIds := update s.hydratedChannelIds channelId false
    reserveMax := update s.reserveMax channelId none
    pendingTopUp := update s.pendingTopUp channelId none
    blockedChannels := update s.blockedChannels channelId false
    lastSettledCumulative := update s.lastSettledCumulative channelId none }

def setStatus (status : ChannelStatus) (settledAmount : Option Int) : Manager :=
  { s with store := s.store.updateChannelStatus channelId status settledAmount s.now }

/-- A one-off channel leaves its set; any other leaves its buyer, if it has one. -/
def releaseBuyer (peerId : Option PeerId) (channelId : Hex) : Manager :=
  if s.oneOffChannelIds channelId then
    { s with oneOffChannelIds := update s.oneOffChannelIds channelId false }
  else
    match peerId with
    | some peerId => s.deactivateBuyerForChannel peerId channelId
    | none => s

def evictStaleChannel (peerId : PeerId) (status : ChannelStatus) : Manager :=
  ((s.setStatus channelId status none).deleteChannel channelId).releaseBuyer (some peerId) channelId

def forgetChannelState : Manager :=
  { s.deleteChannel channelId with
    pendingOneOffCloses := update s.pendingOneOffCloses channelId false }

def forgetChannel (buyerPeerId : Option PeerId) : Manager :=
  (s.forgetChannelState channelId).releaseBuyer buyerPeerId channelId

def activateSession (session : StoredChannel) (buyerPeerId : PeerId)
    (cumulativeAmount reserveMaxAmount spent : Int) (auth : LatestAuth) : Manager :=
  { s with
    store := s.store.upsertChannel session
    hydratedChannelIds := update s.hydratedChannelIds session.sessionId false
    acceptedCumulative := update s.acceptedCumulative session.sessionId (some cumulativeAmount)
    reserveMax := update s.reserveMax session.sessionId (some reserveMaxAmount)
    spent := update s.spent session.sessionId (some spent)
    latestAuth := update s.latestAuth session.sessionId (some auth)
    activeBuyers := update s.activeBuyers buyerPeerId true }

section

variable (channel : StoredChannel)

/-- The auth a row keeps. -/
def persistedAuth : LatestAuth :=
  ⟨channel.latestSpendingAuthSig, channel.authMax, channel.latestMetadata⟩

/-- What `_restorePersistedSpendingAuth` returns. -/
def persistedCumulative : Option Int :=
  if channel.authMax ≤ 0 ∨ channel.latestSpendingAuthSig = none then none else some channel.authMax

def restorePersistedSpendingAuth : Manager :=
  match persistedCumulative channel with
  | none => s
  | some cumulativeAmount => { s with
      acceptedCumulative := update s.acceptedCumulative channel.sessionId (some cumulativeAmount)
      latestAuth := update s.latestAuth channel.sessionId (some (persistedAuth channel))
      spent := update s.spent channel.sessionId (some channel.tokensDelivered)
      reserveMax :=
        if channel.previousConsumption > 0 then
          update s.reserveMax channel.sessionId (some channel.previousConsumption)
        else s.reserveMax
      hydratedChannelIds := update s.hydratedChannelIds channel.sessionId false }

/-- The constructor's loop over session channels. -/
def hydrateSession : Manager :=
  { s with
    activeBuyers := update s.activeBuyers channel.peerId true
    hydratedChannelIds := update s.hydratedChannelIds channel.sessionId true
    acceptedCumulative := update s.acceptedCumulative channel.sessionId (some channel.authMax)
    spent := update s.spent channel.sessionId (some channel.tokensDelivered)
    reserveMax :=
      if channel.previousConsumption > 0 then
        update s.reserveMax channel.sessionId (some channel.previousConsumption)
      else s.reserveMax
    latestAuth :=
      if channel.latestSpendingAuthSig.isSome then
        update s.latestAuth channel.sessionId (some (persistedAuth channel))
      else s.latestAuth }

/-- The constructor's loop over one-off channels. -/
def hydrateOneOff : Manager :=
  { s with
    oneOffChannelIds := update s.oneOffChannelIds channel.sessionId true
    acceptedCumulative := update s.acceptedCumulative channel.sessionId (some channel.authMax)
    spent := update s.spent channel.sessionId (some channel.tokensDelivered)
    reserveMax := update s.reserveMax channel.sessionId (some channel.previousConsumption)
    latestAuth :=
      if channel.latestSpendingAuthSig.isSome then
        update s.latestAuth channel.sessionId (some (persistedAuth channel))
      else s.latestAuth }

end

/-- The constructor: a manager over the rows an earlier one left. -/
def hydrate (store : ChannelStore) (now : Nat) : Manager :=
  let opened : Manager := { store := store, now := now }
  let sessions := (store.getActiveChannels .paid).foldl hydrateSession opened
  (store.getActiveChannels .oneOff).foldl hydrateOneOff sessions

/-- Write a channel's row again, if it has one. -/
def rewriteChannel (change : StoredChannel → StoredChannel) : Manager :=
  match s.store.getChannel channelId with
  | some session => { s with store := s.store.upsertChannel (change session) }
  | none => s

/-- Take a verified SpendingAuth as the channel's latest, in memory and on disk. -/
def recordSpendingAuth (auth : LatestAuth) : Manager :=
  { s with
    acceptedCumulative := update s.acceptedCumulative channelId (some auth.cumulativeAmount)
    latestAuth := update s.latestAuth channelId (some auth) }.rewriteChannel channelId
      fun session => { session with
        authMax := auth.cumulativeAmount
        latestSpendingAuthSig := auth.spendingAuthSig
        latestMetadata := auth.metadata }

/-- Take a larger reserve that the chain confirmed. -/
def recordTopUp (newMaxAmount deadline : Int) : Manager :=
  { s with
    reserveMax := update s.reserveMax channelId (some newMaxAmount) }.rewriteChannel channelId
      fun session => { session with previousConsumption := newMaxAmount, deadline := deadline }

def storePendingTopUp (pending : PendingTopUp) : Manager :=
  if (s.pendingTopUp channelId).all (fun existing => existing.newMaxAmount ≤ pending.newMaxAmount)
  then { s with pendingTopUp := update s.pendingTopUp channelId (some pending) }
  else s

def deletePendingTopUp : Manager :=
  { s with pendingTopUp := update s.pendingTopUp channelId none }

/-- `_blockedChannels.add(channelId)` -/
def blockChannel : Manager :=
  { s with blockedChannels := update s.blockedChannels channelId true }

def acknowledgeRetainedChannel (channelId : Hex)
    (disconnectMarker : Option Nat) : Manager :=
  if s.canAcknowledgeRetainedChannel buyerPeerId channelId disconnectMarker then
    { s with
      hydratedChannelIds := update s.hydratedChannelIds channelId false
      activeBuyers := update s.activeBuyers buyerPeerId true }
  else s

def holdsAtLeast (amount : Int) : Bool :=
  (s.latestAuth channelId).any fun current =>
    current.spendingAuthSig.isSome && decide (amount ≤ current.cumulativeAmount)

def adoptBuyerCloseAuth (buyerAuth : LatestAuth) : Manager :=
  if s.holdsAtLeast channelId buyerAuth.cumulativeAmount then s
  else
    { s with
      latestAuth := update s.latestAuth channelId (some buyerAuth)
      acceptedCumulative :=
        if buyerAuth.cumulativeAmount > (s.acceptedCumulative channelId).getD 0 then
          update s.acceptedCumulative channelId (some buyerAuth.cumulativeAmount)
        else s.acceptedCumulative }.rewriteChannel channelId
      fun stored => { stored with
        authMax := max buyerAuth.cumulativeAmount stored.authMax
        latestSpendingAuthSig := buyerAuth.spendingAuthSig
        latestMetadata := buyerAuth.metadata }

def recordSpend (sessionId : Hex) (costUsdc : Int) : Manager :=
  match s.spent sessionId with
  | none => s
  | some current =>
    let requestCount := ((s.store.getChannel sessionId).map (·.requestCount)).getD 0
    { s with
      spent := update s.spent sessionId (some (current + costUsdc))
      store := s.store.updateTokensDelivered sessionId (current + costUsdc) requestCount }

def beginBillableRequest : Manager :=
  { s with
    inFlightRequests := update s.inFlightRequests buyerPeerId (s.inFlightRequests buyerPeerId + 1) }

def endBillableRequest : Manager :=
  { s with
    inFlightRequests := update s.inFlightRequests buyerPeerId (s.inFlightRequests buyerPeerId - 1) }

/-- A plan replaces an older one of the same request; expired plans go. -/
def registerOneOffPlan (requestId : String)
    (openingReserveAmount requiredCumulativeAmount requestCost : Int) : Manager :=
  let unexpired := fun key => (s.pendingOneOffPlans key).filter fun pending => s.now < pending.expiresAt
  { s with
    pendingOneOffPlans := update unexpired (buyerPeerId, requestId) (some
      ⟨openingReserveAmount, requiredCumulativeAmount, requestCost, s.now + oneOffPlanTtlMs⟩) }

end

def claimOneOffChannel : Manager :=
  match s.store.getChannel channelId with
  | none => s
  | some channel =>
    if s.oneOffChannelIds channelId ∧ channel.status = .active ∧ channel.requestCount = 0 then
      { s with store := s.store.upsertChannel { channel with requestCount := 1 } }
    else s

end

variable {s} {channelId : Hex}

theorem rewriteChannel_eq :
    s.rewriteChannel channelId change = { s with store := (s.rewriteChannel channelId change).store } := by
  unfold rewriteChannel
  split <;> rfl

theorem deactivateBuyerForChannel_eq :
    s.deactivateBuyerForChannel peerId channelId = { s with
      activeBuyers := (s.deactivateBuyerForChannel peerId channelId).activeBuyers
      buyerDisconnectMarkers := (s.deactivateBuyerForChannel peerId channelId).buyerDisconnectMarkers
      markers := (s.deactivateBuyerForChannel peerId channelId).markers } := by
  unfold deactivateBuyerForChannel
  split
  · rfl
  · split <;> rfl

theorem releaseBuyer_eq :
    s.releaseBuyer peerId channelId = { s with
      oneOffChannelIds := (s.releaseBuyer peerId channelId).oneOffChannelIds
      activeBuyers := (s.releaseBuyer peerId channelId).activeBuyers
      buyerDisconnectMarkers := (s.releaseBuyer peerId channelId).buyerDisconnectMarkers
      markers := (s.releaseBuyer peerId channelId).markers } := by
  unfold releaseBuyer
  split
  · rfl
  · split
    · rw [deactivateBuyerForChannel_eq]
    · rfl

end Manager

end AntSeed.Seller
