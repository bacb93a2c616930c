import AntSeed.Seller.Manager

/-! # SellerPaymentManager: its handlers

Every `await` of the source is a `wait` here, and the label says what is awaited:
for a transaction, the arguments it is sent with. Its answer is arbitrary, with
two exceptions that the contract guarantees: a reserve succeeds only if the
buyer signed it for the channel its salt gives, and an active channel is stored
under the id of its own parties.

The lock of a buyer is an await like any other. It only takes interleavings
away, so whatever holds here holds with it.
-/

namespace AntSeed.Seller

open Evm Async
open AntSeed.Payments (Signature Channel)
open Function

structure ReserveTx where
  buyer : Address
  salt : Hex
  maxAmount : Int
  deadline : Int
  sig : Option Signature
  /-- the request a one-off channel is for -/
  oneOffRequestId : Option String := none

structure CloseTx where
  channelId : Hex
  params : SettleParams
  /-- the promise that waits for it -/
  operation : Nat
  /-- the buyer that asked for it, if one did -/
  requester : Option PeerId

inductive Wait where
  | lock (buyerPeerId : PeerId) (payload : SpendingAuthPayload) (isOneOff : Bool)
  | pendingAuths
  | addresses
  /-- the addresses for a SpendingAuth, and what was accepted of its channel when it was taken up -/
  | checked (channelId : Hex) (existingCumulative : Option Int)
  /-- the addresses for taking an open channel up again, as it was read -/
  | recovering (channelId : Hex) (cumulativeAmount : Int) (onChain : Channel)
  /-- the addresses for a channel whose reserve went through -/
  | reserved (channelId : Hex)
  /-- the check of a close request's auth, which has passed -/
  | closeAuth (channelId : Hex) (amount : Int)
  | session (channelId : Hex)
  | reserve (tx : ReserveTx)
  | topUp (channelId : Hex) (params : SettleParams) (pending : PendingTopUp)
  | settle (channelId : Hex) (params : SettleParams)
  | close (tx : CloseTx)
  /-- a close that another task has sent -/
  | closing (channelId : Hex) (operation : Nat)
  | accepted (channelId : Hex) (target : Int)
  | timer
  | closeRequests
  /-- an async function that is done -/
  | returned

/-- What an await may answer; an error means it throws. -/
structure Reply where
  error : Option ChainError := none
  /-- a channel as the contract stores it, and the salt of its id -/
  channel : Channel := default
  salt : Word := default

abbrev Op := Async Manager Wait Reply

/-- Wait for something that may throw. -/
def call (label : Wait) : Op (Except ChainError Reply) := do
  let reply ← wait label
  match reply.error with
  | some error => pure (.error error)
  | none => pure (.ok reply)

/-- `await` of an async function: others may run before its caller goes on. -/
def awaited {α : Type} (x : Op α) : Op α := do
  let result ← x
  let _ ← wait .returned
  pure result

section Chain

variable (node : Node)

inductive OnChainStatus where
  | missing | active | settled | timeout | unknown
  deriving DecidableEq, Repr

def classifyOnChainChannel (channel : Channel) : OnChainStatus :=
  if channel.buyer = 0 ∧ channel.seller = 0 ∧ channel.deposit = 0 ∧ channel.status = .none then
    .missing
  else
    match channel.status with
    | .active => .active
    | .settled => .settled
    | .timedOut => .timeout
    | .none => .unknown

/-- Neither active nor unknown. -/
def OnChainStatus.isGone (status : OnChainStatus) : Bool := status ≠ .active ∧ status ≠ .unknown

def matchesChannelParties (channel : Channel) (buyerEvmAddr : Address) : Bool :=
  channel.buyer = buyerEvmAddr ∧ channel.seller = node.seller

/-- What the contract stores under an id. -/
def storedAt (id : Word) (reply : Reply) : Channel :=
  if reply.channel.status = .active ∧
      node.chain.computeChannelId reply.channel.buyer reply.channel.seller reply.salt ≠ id then
    default
  else reply.channel

def getSession (channelId : Hex) : Op (Except ChainError Channel) := do
  let answer ← call (.session channelId)
  match channelId.bytes32, answer with
  | some id, .ok reply => pure (.ok (storedAt node id reply))
  | none, .ok _ => pure (.error .other)
  | _, .error error => pure (.error error)

/-- The buyer signed the reserve for the channel its salt gives. -/
def ReserveTx.isSigned (tx : ReserveTx) : Bool :=
  match tx.salt.bytes32 with
  | none => false
  | some salt =>
    let channelId := Hex.ofWord (node.chain.computeChannelId tx.buyer node.seller salt)
    verifyTypedData (reserveAuthMessage channelId tx.maxAmount tx.deadline) tx.sig tx.buyer = some true

def submitReserve (tx : ReserveTx) : Op (Except ChainError Unit) := do
  let answer ← call (.reserve tx)
  match answer with
  | .error error => pure (.error error)
  | .ok _ => pure (if tx.isSigned node then .ok () else .error .other)

/-- `_reserveWithBackpressureRetry`, with the retries that are left. -/
def reserveWithBackpressureRetry (tx : ReserveTx) : Nat → Op (Except ChainError Unit)
  | 0 => submitReserve node tx
  | retries + 1 => do
      let result ← submitReserve node tx
      match result with
      | .error .inFlightLimit => do
          let _ ← wait .timer
          reserveWithBackpressureRetry tx retries
      | _ => pure result

end Chain

/-- `_retryUntilChannelVisible` of a top-up, with the retries that are left. -/
def topUpUntilVisible (channelId : Hex) (params : SettleParams) (pending : PendingTopUp) :
    Nat → Op (Except ChainError Reply)
  | 0 => call (.topUp channelId params pending)
  | retries + 1 => do
      let result ← call (.topUp channelId params pending)
      match result with
      | .error .channelNotActive => do
          let _ ← wait .timer
          topUpUntilVisible channelId params pending retries
      | _ => pure result

/-- What the answer to a close makes of it. -/
def CloseTx.result (tx : CloseTx) (reply : Reply) : CloseResult :=
  match reply.error with
  | some error => .failed error
  | none => .closed tx.params.amount

/-- Wait for the close another task has sent. -/
def joinClose (channelId : Hex) (operation : Nat) : Op CloseResult := do
  let _ ← wait (.closing channelId operation)
  let s ← get
  pure ((s.closeResults channelId operation).getD (.failed .other))

/-- `_submitClose`: one close per channel; later callers share its promise. -/
def submitClose (requester : Option PeerId) (channelId : Hex) (params : SettleParams) :
    Op CloseResult := do
  let s ← get
  match s.closingChannels channelId with
  | some operation => joinClose channelId operation
  | none => do
      let tx : CloseTx := ⟨channelId, params, s.closes, requester⟩
      modify (·.beginClose channelId)
      let reply ← wait (.close tx)
      modify (·.endClose channelId tx.operation (tx.result reply))
      pure (tx.result reply)

/-- A close without a signature, at the amount that is settled already. -/
def closeAtSettled (channel : Channel) : SettleParams := ⟨channel.settled, .bytes [], none⟩

section Settling

variable (node : Node)

def setLastSettled (channelId : Hex) (amount : Int) : Op Unit :=
  modify fun s => { s with
    lastSettledCumulative := update s.lastSettledCumulative channelId (some amount) }

def submitSettle (channelId : Hex) (params : SettleParams) : Op Unit := do
  let answer ← call (.settle channelId params)
  match answer with
  | .ok _ => setLastSettled channelId params.amount
  | .error _ => pure ()

def settleLatestAuth (channelId : Hex) (respectMinSettleDelta : Bool) : Op Unit := do
  let s ← get
  let params := s.getSettleParams channelId
  if params.amount ≤ 0 ∨ params.sig = none then pure ()
  else if respectMinSettleDelta = false then submitSettle channelId params
  else if (s.lastSettledCumulative channelId).any (fun settled => decide (params.amount ≤ settled)) then
    pure ()
  else do
    let session ← getSession node channelId
    let onChainSettled : Int := match session with
      | .ok channel => channel.settled
      | .error _ => 0
    if params.amount ≤ onChainSettled then setLastSettled channelId onChainSettled
    else if params.amount - onChainSettled < node.minSettleDelta then
      setLastSettled channelId params.amount
    else submitSettle channelId params

def setCloseRetries (channelId : Hex) (retries : Option Nat) : Op Unit :=
  modify fun s => { s with closeRetryCount := update s.closeRetryCount channelId retries }

/-- A session that stays known after a failed close; its buyer may be let go. -/
def keepAfterFailure (buyerPeerId : PeerId) (channelId : Hex) (cleanupOnFailure : Bool) : Op Unit :=
  if cleanupOnFailure then modify fun s => s.deactivateBuyerForChannel buyerPeerId channelId
  else pure ()

/-- The closing part of `settleSession`. -/
def closeSession (buyerPeerId : PeerId) (channelId : Hex) (cleanupOnFailure : Bool) : Op Unit := do
  let s ← get
  let retries := (s.closeRetryCount channelId).getD 0
  if retries ≥ Manager.maxCloseRetries then
    modify fun s => (s.setStatus channelId .timeout none).forgetChannel channelId (some buyerPeerId)
  else do
    let result ← submitClose none channelId (s.getSettleParams channelId)
    match result with
    | .closed amount =>
      modify fun s =>
        (s.setStatus channelId .settled (some amount)).forgetChannel channelId (some buyerPeerId)
    | .failed .inFlightLimit => keepAfterFailure buyerPeerId channelId cleanupOnFailure
    | .failed _ => do
        setCloseRetries channelId (some (retries + 1))
        if retries + 1 < Manager.maxCloseRetries then
          keepAfterFailure buyerPeerId channelId cleanupOnFailure
        else
          modify fun s => (s.setStatus channelId .timeout none).forgetChannel channelId (some buyerPeerId)

def settleSession (buyerPeerId : PeerId) (cleanupOnFailure settleOnly : Bool) : Op Unit := do
  let s ← get
  match s.store.getActiveChannelByPeer buyerPeerId with
  | none => pure ()
  | some session =>
    let channelId := session.sessionId
    if (s.acceptedCumulative channelId).getD 0 = 0 then
      -- left to the timeout checker, with its row still active
      if settleOnly then pure ()
      else modify fun s => s.forgetChannel channelId (some buyerPeerId)
    else if settleOnly then awaited (settleLatestAuth node channelId true)
    else closeSession buyerPeerId channelId cleanupOnFailure

def closeWithoutAuth (channelId : Hex) (peerId : PeerId) (onChain : Channel) : Op Unit := do
  let s ← get
  let retries := (s.closeRetryCount channelId).getD 0
  if retries ≥ Manager.maxCloseRetries then
    modify fun s => s.evictStaleChannel channelId peerId .timeout
  else do
    let result ← submitClose none channelId (closeAtSettled onChain)
    match result with
    | .closed _ => modify fun s => s.evictStaleChannel channelId peerId .settled
    | .failed .inFlightLimit => pure ()
    | .failed _ => setCloseRetries channelId (some (retries + 1))

def setPendingOneOffClose (channelId : Hex) : Op Unit :=
  modify fun s => { s with pendingOneOffCloses := update s.pendingOneOffCloses channelId true }

def closeOneOffChannel (channelId : Hex) : Op Bool := do
  let s ← get
  match s.store.getChannel channelId with
  | none => pure false
  | some channel =>
    let retries := (s.closeRetryCount channelId).getD 0
    if s.oneOffChannelIds channelId = false then pure false
    else if retries ≥ Manager.maxCloseRetries then do
      modify fun s => (s.setStatus channelId .timeout none).forgetChannel channelId (some channel.peerId)
      pure false
    else do
      let result ← submitClose none channelId (s.getSettleParams channelId)
      match result with
      | .closed amount => do
          modify fun s => (s.setStatus channelId .settled (some amount)).forgetChannel channelId
            (some channel.peerId)
          pure true
      | .failed .inFlightLimit => do
          setPendingOneOffClose channelId
          pure false
      | .failed _ => do
          setCloseRetries channelId (some (retries + 1))
          setPendingOneOffClose channelId
          pure false

end Settling

inductive Outcome where
  | accepted | reserved | rejected
  deriving DecidableEq, Repr

/-- `_classifyTopUpFailure`: whether the top-up may be tried again later. -/
def ChainError.isRetryableTopUp (error : ChainError) : Bool :=
  error = .topUpThresholdNotMet ∨ error = .inFlightLimit

variable (node : Node) (buyerPeerId : PeerId) (payload : SpendingAuthPayload)

section

variable (cumulativeAmount : Int)

/-- The signature is the sender's SpendingAuth for this amount. -/
def verifySpendingAuth : Option Bool :=
  verifyTypedData (spendingAuthMessage payload.channelId cumulativeAmount payload.metadataHash)
    payload.spendingAuthSig (peerIdToAddress buyerPeerId)

/-- The signature is the sender's ReserveAuth for this ceiling. -/
def verifyReserveAuth (maxAmount deadline : Int) : Option Bool :=
  verifyTypedData (reserveAuthMessage payload.channelId maxAmount deadline)
    payload.spendingAuthSig (peerIdToAddress buyerPeerId)

/-- The deadline of the reserve, in an hour if the message names none. -/
def SpendingAuthPayload.deadlineAt (s : Manager) : Option Int :=
  match payload.reserveDeadline with
  | some deadline => deadline.toBigInt
  | none => some (s.nowSecs + 3600)

/-- The ceiling of the reserve, the amount itself if the message names none. -/
def SpendingAuthPayload.ceiling : Option Int :=
  match payload.reserveMaxAmount with
  | some .blank => some cumulativeAmount
  | some (.integer maxAmount) => some maxAmount
  | some .malformed => none
  | none => some cumulativeAmount

def SpendingAuthPayload.hasReserveFields : Bool :=
  payload.reserveSalt.isSome || payload.reserveMaxAmount.isSome || payload.reserveDeadline.isSome

/-- The auth a message carries. -/
def SpendingAuthPayload.latestAuth : LatestAuth :=
  ⟨payload.spendingAuthSig, cumulativeAmount, payload.metadata⟩

/-- The end of `_recoverOnChainSession`: take an open channel of the sender's as its session. -/
def activateRecovered (onChain : Channel) : Op (Except ChainError Bool) :=
  match verifySpendingAuth buyerPeerId payload cumulativeAmount with
  | none => pure (.error .other)
  | some false => pure (.ok false)
  | some true =>
    if cumulativeAmount < onChain.settled then pure (.ok false)
    else do
      modify fun s => s.activateSession
        { sessionId := payload.channelId
          peerId := buyerPeerId
          buyerEvmAddr := peerIdToAddress buyerPeerId
          authMax := cumulativeAmount
          previousConsumption := onChain.deposit
          deadline := onChain.deadline
          tokensDelivered := onChain.settled
          reservedAt := s.now
          settledAmount := if onChain.settled > 0 then some onChain.settled else none
          latestSpendingAuthSig := payload.spendingAuthSig
          latestMetadata := payload.metadata }
        buyerPeerId cumulativeAmount onChain.deposit onChain.settled
        (payload.latestAuth cumulativeAmount)
      pure (.ok true)

def recoverOnChainSession : Op (Except ChainError Bool) := do
  let session ← getSession node payload.channelId
  match session with
  | .error error => pure (.error error)
  | .ok onChain => do
      let resolved ← call (.recovering payload.channelId cumulativeAmount onChain)
      match resolved with
      | .error error => pure (.error error)
      | .ok _ =>
        if classifyOnChainChannel onChain = .active
            ∧ matchesChannelParties node onChain (peerIdToAddress buyerPeerId)
            ∧ (onChain.closeRequestedAt = 0 ∨ node.serveWhileClosePending) then
          activateRecovered buyerPeerId payload cumulativeAmount onChain
        else pure (.ok false)

/-- `_closeSupersededChannel`, once it is known what was accepted. -/
def closeReplaced (channel : StoredChannel) (accepted : Int) : Op Bool := do
  let s ← get
  if accepted > 0 then do
    let result ← submitClose none channel.sessionId (s.getSettleParams channel.sessionId)
    match result with
    | .failed _ => pure false
    | .closed _ => do
        modify fun s => s.evictStaleChannel channel.sessionId channel.peerId .settled
        pure true
  else do
    let session ← getSession node channel.sessionId
    match session with
    | .error _ => pure false
    | .ok onChain =>
      if classifyOnChainChannel onChain ≠ .active then do
        modify fun s => s.evictStaleChannel channel.sessionId channel.peerId .settled
        pure true
      else do
        let result ← submitClose none channel.sessionId (closeAtSettled onChain)
        match result with
        | .failed _ => pure false
        | .closed _ => do
            modify fun s => s.evictStaleChannel channel.sessionId channel.peerId .settled
            pure true

def closeSupersededChannel (channel : StoredChannel) : Op Bool := do
  let s ← get
  if s.hasInFlightRequests channel.peerId then pure false
  else
    match s.acceptedCumulative channel.sessionId with
    | some accepted => closeReplaced node channel accepted
    | none => do
        modify fun s => s.restorePersistedSpendingAuth channel
        closeReplaced node channel ((Manager.persistedCumulative channel).getD 0)

/-- Close the channel that a new one replaces, if there is one. -/
def closeSuperseded : Op Bool := do
  let s ← get
  match s.store.getActiveChannelByPeer buyerPeerId with
  | none => pure true
  | some superseded =>
    if superseded.sessionId = payload.channelId then pure true
    else awaited (closeSupersededChannel node superseded)

/-- Store and activate a session whose reserve went through. No SpendingAuth has been signed yet. -/
def activateReserved (cumulativeAmount reserveMaxAmount reserveDeadline : Int) : Op Outcome := do
  let s ← get
  let resolved ← call (.reserved payload.channelId)
  match resolved with
  | .error _ => pure .rejected
  | .ok _ => do
      modify (·.activateSession
        { sessionId := payload.channelId
          peerId := buyerPeerId
          buyerEvmAddr := peerIdToAddress buyerPeerId
          authMax := cumulativeAmount
          previousConsumption := reserveMaxAmount
          deadline := reserveDeadline
          reservedAt := s.now
          latestSpendingAuthSig := none
          latestMetadata := payload.metadata }
        buyerPeerId 0 reserveMaxAmount 0 ⟨none, 0, payload.metadata⟩)
      pure .reserved

/-- The first SpendingAuth: verify its ReserveAuth and reserve on chain. -/
def reserveSession : Op Outcome := do
  let s ← get
  match payload.ceiling cumulativeAmount, payload.deadlineAt s with
  | some reserveMaxAmount, some reserveDeadline =>
    if verifyReserveAuth buyerPeerId payload reserveMaxAmount reserveDeadline = some true then do
      let closed ← closeSuperseded node buyerPeerId payload
      if closed = false then pure .rejected
      else do
        let tx : ReserveTx :=
          { buyer := peerIdToAddress buyerPeerId
            salt := payload.reserveSalt.getD payload.channelId
            maxAmount := reserveMaxAmount
            deadline := reserveDeadline
            sig := payload.spendingAuthSig }
        let result ← awaited (reserveWithBackpressureRetry node tx 5)
        match result with
        | .error _ => pure .rejected
        | .ok _ => activateReserved buyerPeerId payload cumulativeAmount reserveMaxAmount reserveDeadline
    else pure .rejected
  | none, _ => pure .rejected
  | some _, none => pure .rejected

/-- An auth for a channel that was not tracked when the message was taken up. -/
def openSession : Op Outcome :=
  if payload.hasReserveFields then reserveSession node buyerPeerId payload cumulativeAmount
  else do
    let recovered ← awaited (recoverOnChainSession node buyerPeerId payload cumulativeAmount)
    match recovered with
    | .error _ => pure .rejected
    | .ok true => pure .accepted
    | .ok false => reserveSession node buyerPeerId payload cumulativeAmount

/-- A top-up: the buyer extends the reserve's ceiling. -/
def extendReserve (newMaxAmount : Int) : Op Outcome := do
  let s ← get
  let channelId := payload.channelId
  match payload.deadlineAt s with
  | none => pure .rejected
  | some topUpDeadline =>
    if verifyReserveAuth buyerPeerId payload newMaxAmount topUpDeadline = some true then do
      let pending : PendingTopUp := ⟨newMaxAmount, topUpDeadline, payload.spendingAuthSig⟩
      let result ← call (.topUp channelId (s.getSettleParams channelId) pending)
      match result with
      | .ok _ => do
          modify fun s => { s with hydratedChannelIds := update s.hydratedChannelIds channelId false }
          modify fun s => s.recordTopUp channelId newMaxAmount topUpDeadline
          pure .accepted
      | .error error =>
        if error.isRetryableTopUp then do
          modify fun s => s.storePendingTopUp channelId pending
          pure .accepted
        else do
          modify fun s => (s.deletePendingTopUp channelId).blockChannel channelId
          awaited (settleSession node buyerPeerId false false)
          pure .rejected
    else pure .rejected

def retryPendingTopUp (channelId : Hex) (pending : PendingTopUp) (params : SettleParams) :
    Op Unit := do
  modify fun s => s.deletePendingTopUp channelId
  let result ← call (.topUp channelId params pending)
  match result with
  | .ok _ => modify fun s => s.recordTopUp channelId pending.newMaxAmount pending.deadline
  | .error error =>
    if error.isRetryableTopUp then modify fun s => s.storePendingTopUp channelId pending
    else do
      modify fun s => s.blockChannel channelId
      awaited (settleSession node buyerPeerId false false)

def retryDeferredTopUp (channelId : Hex) : Op Unit := do
  let s ← get
  match s.pendingTopUp channelId with
  | none => pure ()
  | some pending =>
    awaited (retryPendingTopUp node buyerPeerId channelId pending (s.getSettleParams channelId))

/-- The chain has the buyer's channel open, and the amount fits it. -/
def isRetained (onChain : Channel) : Bool :=
  classifyOnChainChannel onChain = .active
    ∧ matchesChannelParties node onChain (peerIdToAddress buyerPeerId)
    ∧ (onChain.closeRequestedAt = 0 ∨ node.serveWhileClosePending)
    ∧ onChain.settled ≤ cumulativeAmount
    ∧ cumulativeAmount ≤ onChain.deposit

end

def validateRetainedChannel (channelId : Hex) (cumulativeAmount : Int)
    (disconnectMarker : Option Nat) : Op Bool := do
  let s ← get
  if s.canAcknowledgeRetainedChannel buyerPeerId channelId disconnectMarker = false then pure false
  else do
    let session ← getSession node channelId
    match session with
    | .error _ => pure false
    | .ok onChain => do
        let resolved ← call .addresses
        let s ← get
        match resolved with
        | .error _ => pure false
        | .ok _ => pure (isRetained node buyerPeerId cumulativeAmount onChain
            && s.canAcknowledgeRetainedChannel buyerPeerId channelId disconnectMarker)

/-- Acknowledge a channel kept over a disconnect once the chain confirms it. -/
def reactivate (channelId : Hex) (cumulativeAmount : Int) (disconnectMarker : Option Nat) :
    Op Bool := do
  let valid ← awaited
    (validateRetainedChannel node buyerPeerId channelId cumulativeAmount disconnectMarker)
  if valid then do
    modify fun s => s.acknowledgeRetainedChannel buyerPeerId channelId disconnectMarker
    pure true
  else pure false

/-- A subsequent SpendingAuth on a tracked channel. -/
def acceptSpendingAuth (cumulativeAmount existingCumulative : Int)
    (disconnectMarker : Option Nat) : Op Outcome := do
  let s ← get
  let channelId := payload.channelId
  let requiresReactivation := !s.activeBuyers buyerPeerId || s.hydratedChannelIds channelId
  let ceiling := (s.reserveMax channelId).getD 0
  if verifySpendingAuth buyerPeerId payload cumulativeAmount ≠ some true then pure .rejected
  else if cumulativeAmount < existingCumulative then pure .rejected
  else if cumulativeAmount = existingCumulative then
    -- the same auth again
    if requiresReactivation then do
      let reactivated ← reactivate node buyerPeerId channelId cumulativeAmount disconnectMarker
      pure (if reactivated then .accepted else .rejected)
    else do
      modify fun s => s.acknowledgeRetainedChannel buyerPeerId channelId disconnectMarker
      pure .accepted
  else if cumulativeAmount < (s.spent channelId).getD 0 then pure .rejected
  else if ceiling > 0 ∧ cumulativeAmount > ceiling then pure .rejected
  else do
    modify fun s => s.recordSpendingAuth channelId (payload.latestAuth cumulativeAmount)
    retryDeferredTopUp node buyerPeerId channelId
    if requiresReactivation then do
      let _ ← reactivate node buyerPeerId channelId cumulativeAmount disconnectMarker
      pure .accepted
    else pure .accepted

/-- An auth for a tracked channel: a higher ceiling is a top-up, all else a SpendingAuth. -/
def updateSession (cumulativeAmount existingCumulative : Int) (disconnectMarker : Option Nat) :
    Op Outcome := do
  let s ← get
  match payload.reserveMaxAmount with
  | some (.integer newMaxAmount) =>
    if newMaxAmount > (s.reserveMax payload.channelId).getD 0 then
      extendReserve node buyerPeerId payload newMaxAmount
    else acceptSpendingAuth node buyerPeerId payload cumulativeAmount existingCumulative disconnectMarker
  | some .malformed => pure .rejected
  | some .blank =>
    acceptSpendingAuth node buyerPeerId payload cumulativeAmount existingCumulative disconnectMarker
  | none =>
    acceptSpendingAuth node buyerPeerId payload cumulativeAmount existingCumulative disconnectMarker

def handleSpendingAuthInner (disconnectMarker : Option Nat) : Op Outcome := do
  let s ← get
  match payload.cumulativeAmount.toBigInt with
  | none => pure .rejected
  | some cumulativeAmount =>
    if metadataMatchesHash node payload = false then pure .rejected
    else do
      let resolved ← call (.checked payload.channelId (s.acceptedCumulative payload.channelId))
      match resolved, s.acceptedCumulative payload.channelId with
      | .error _, _ => pure .rejected
      | .ok _, none => openSession node buyerPeerId payload cumulativeAmount
      | .ok _, some existingCumulative =>
        updateSession node buyerPeerId payload cumulativeAmount existingCumulative disconnectMarker

end AntSeed.Seller
