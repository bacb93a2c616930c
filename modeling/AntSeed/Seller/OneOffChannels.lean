import AntSeed.Seller.SellerPaymentManager

/-! # One-off channels and buyer-requested closes

The rest of what buyers can ask for: a channel for a single request, opened on
terms the seller offered, and the immediate close of their session channel.
-/

namespace AntSeed.Seller

open Evm Async
open AntSeed.Payments (Signature Channel)
open Function

section OneOff

variable (node : Node) (buyerPeerId : PeerId) (payload : SpendingAuthPayload)

/-- `_verifyReserveBatch`; `none` also where it throws, as the message is rejected either way. -/
def verifyReserveBatch (batch : ReserveBatch) (openingReserve : Int) : Option LatestAuth := do
  let cumulativeAmount ← batch.cumulativeAmount.toBigInt
  let finalReserveMax ← batch.maxAmount.toBigInt
  let deadline ← batch.deadline.toBigInt
  let buyerEvmAddr := peerIdToAddress buyerPeerId
  let spendingSigned ← verifyTypedData
    (spendingAuthMessage payload.channelId cumulativeAmount batch.metadataHash)
    batch.spendingAuthSig buyerEvmAddr
  let topUpSigned ← verifyTypedData
    (reserveAuthMessage payload.channelId finalReserveMax deadline) batch.reserveAuthSig buyerEvmAddr
  if 0 < cumulativeAmount ∧ cumulativeAmount ≤ openingReserve ∧ openingReserve < finalReserveMax
      ∧ keccak256 node batch.metadata = some batch.metadataHash ∧ spendingSigned ∧ topUpSigned then
    some ⟨batch.spendingAuthSig, cumulativeAmount, batch.metadata⟩
  else none

/-- What a one-off channel is opened with. -/
structure OneOffTerms where
  latestAuth : LatestAuth
  finalReserve : Int
  finalDeadline : Int
  /-- the ReserveAuth of the top-up, if there is one -/
  topUp : Option PendingTopUp

/-- The terms of a message, if they match the plan. -/
def oneOffTerms (plan : PendingOneOffPlan) (openingReserve reserveDeadline : Int) :
    Option OneOffTerms :=
  if plan.requiredCumulativeAmount > 0 then do
    let batch ← payload.reserveBatch
    let verified ← verifyReserveBatch node buyerPeerId payload batch openingReserve
    let maxAmount ← batch.maxAmount.toBigInt
    let deadline ← batch.deadline.toBigInt
    if verified.cumulativeAmount = plan.requiredCumulativeAmount ∧ maxAmount = plan.requestCost then
      some ⟨verified, plan.requestCost, deadline,
        some ⟨plan.requestCost, deadline, batch.reserveAuthSig⟩⟩
    else none
  else if payload.reserveBatch.isSome ∨ openingReserve ≠ plan.requestCost then none
  else some ⟨⟨none, 0, payload.metadata⟩, openingReserve, reserveDeadline, none⟩

def oneOffRow (requestId : String) (auth : LatestAuth) (reserve deadline : Int) (now : Nat) :
    StoredChannel :=
  { sessionId := payload.channelId
    peerId := buyerPeerId
    channelKind := .oneOff
    oneOffRequestId := some requestId
    buyerEvmAddr := peerIdToAddress buyerPeerId
    authMax := auth.cumulativeAmount
    previousConsumption := reserve
    deadline := deadline
    reservedAt := now
    latestSpendingAuthSig := auth.spendingAuthSig
    latestMetadata := auth.metadata }

/-- Store and track a one-off channel whose reserve is in place. -/
def Manager.activateOneOff (s : Manager) (row : StoredChannel) (auth : LatestAuth) : Manager :=
  { s with
    store := s.store.upsertChannel row
    oneOffChannelIds := update s.oneOffChannelIds row.sessionId true
    acceptedCumulative := update s.acceptedCumulative row.sessionId (some auth.cumulativeAmount)
    reserveMax := update s.reserveMax row.sessionId (some row.previousConsumption)
    spent := update s.spent row.sessionId (some 0)
    latestAuth := update s.latestAuth row.sessionId (some auth)
    lastSettledCumulative :=
      if auth.cumulativeAmount > 0 then
        update s.lastSettledCumulative row.sessionId (some auth.cumulativeAmount)
      else s.lastSettledCumulative }

/-- A one-off channel whose top-up failed: it stays known until it is closed. -/
def Manager.trackUntopped (s : Manager) (channelId : Hex) (openingReserve : Int) : Manager :=
  { s with
    oneOffChannelIds := update s.oneOffChannelIds channelId true
    reserveMax := update s.reserveMax channelId (some openingReserve) }

/-- `_openOneOffChannel` after its reserve went through. -/
def activateOneOff (requestId : String) (terms : OneOffTerms) (openingReserve reserveDeadline : Int) :
    Op Outcome := do
  let s ← get
  let resolved ← call .addresses
  let row := oneOffRow buyerPeerId payload requestId terms.latestAuth terms.finalReserve
    terms.finalDeadline s.now
  match resolved, terms.topUp with
  | .error _, _ => pure .rejected
  | .ok _, none => do
      modify (·.activateOneOff row terms.latestAuth)
      pure .reserved
  | .ok _, some topUp => do
      -- recorded first: whatever fails below, the buyer's reserve must not be lost
      modify fun s => { s with store := s.store.upsertChannel (oneOffRow buyerPeerId payload
        requestId ⟨none, 0, payload.metadata⟩ openingReserve reserveDeadline row.reservedAt) }
      let params : SettleParams := ⟨terms.latestAuth.cumulativeAmount, terms.latestAuth.metadata,
        terms.latestAuth.spendingAuthSig⟩
      let result ← awaited (topUpUntilVisible payload.channelId params topUp 4)
      match result with
      | .ok _ => do
          modify (·.activateOneOff row terms.latestAuth)
          pure .reserved
      | .error _ => do
          modify (·.trackUntopped payload.channelId openingReserve)
          let _ ← awaited (closeOneOffChannel payload.channelId)
          pure .rejected

/-- `_openOneOffChannel`, once its fields are there and match an offered plan. -/
def reserveOneOff (requestId : String) (salt : Hex) (plan : PendingOneOffPlan)
    (openingReserve reserveDeadline : Int) : Op Outcome :=
  if verifyReserveAuth buyerPeerId payload openingReserve reserveDeadline = some true then
    match oneOffTerms node buyerPeerId payload plan openingReserve reserveDeadline with
    | none => pure .rejected
    | some terms => do
        modify fun s => { s with
          pendingOneOffPlans := update s.pendingOneOffPlans (buyerPeerId, requestId) none }
        let tx : ReserveTx :=
          { buyer := peerIdToAddress buyerPeerId
            salt := salt
            maxAmount := openingReserve
            deadline := reserveDeadline
            sig := payload.spendingAuthSig
            oneOffRequestId := some requestId }
        let result ← awaited (reserveWithBackpressureRetry node tx 5)
        match result with
        | .error _ => pure .rejected
        | .ok _ =>
          activateOneOff buyerPeerId payload requestId terms openingReserve reserveDeadline
  else pure .rejected

def openOneOffChannel : Op Outcome := do
  let s ← get
  match payload.oneOffRequestId, payload.reserveSalt, payload.reserveMaxAmount,
      payload.reserveDeadline with
  | some requestId, some salt, some (.integer openingReserve), some (.integer reserveDeadline) =>
    match s.pendingOneOffPlans (buyerPeerId, requestId) with
    | none => pure .rejected
    | some plan =>
      if requestId = "" ∨ salt = .empty ∨ plan.expiresAt ≤ s.now
          ∨ (s.store.getOneOffChannelByRequest buyerPeerId requestId).any (·.status = .active)
          ∨ openingReserve ≠ plan.openingReserveAmount then
        pure .rejected
      else reserveOneOff node buyerPeerId payload requestId salt plan openingReserve reserveDeadline
  -- a field is left out, empty or no number
  | _, _, _, _ => pure .rejected

def acceptOneOffSpendingAuth : Op Outcome := do
  let s ← get
  let channelId := payload.channelId
  match payload.cumulativeAmount.toBigInt, s.store.getChannel channelId with
  | some cumulativeAmount, some channel =>
    let accepted := (s.acceptedCumulative channelId).getD 0
    let spent := (s.spent channelId).getD 0
    if channel.peerId ≠ buyerPeerId ∨ channel.status ≠ .active then pure .rejected
    else if verifySpendingAuth buyerPeerId payload cumulativeAmount ≠ some true then pure .rejected
    else if cumulativeAmount < accepted ∨ cumulativeAmount < spent
        ∨ cumulativeAmount > (s.reserveMax channelId).getD 0 then
      pure .rejected
    else do
      modify fun s =>
        if cumulativeAmount > accepted then
          s.recordSpendingAuth channelId (payload.latestAuth cumulativeAmount)
        else s
      if spent > 0 ∧ cumulativeAmount ≥ spent then do
        let _ ← awaited (closeOneOffChannel channelId)
        pure .accepted
      else pure .accepted
  | none, _ => pure .rejected
  | some _, none => pure .rejected

def handleOneOffSpendingAuth : Op Outcome :=
  if metadataMatchesHash node payload = false then pure .rejected
  else do
    let resolved ← call .addresses
    let s ← get
    match resolved with
    | .error _ => pure .rejected
    | .ok _ =>
      if s.oneOffChannelIds payload.channelId then acceptOneOffSpendingAuth buyerPeerId payload
      else openOneOffChannel node buyerPeerId payload

/-- Whose turn it is, and on which kind of channel, is decided when the message arrives. -/
def handleSpendingAuth : Op Outcome := do
  let s ← get
  let isOneOff := payload.oneOffRequestId.isSome || s.oneOffChannelIds payload.channelId
  let _ ← wait (.lock buyerPeerId payload isOneOff)
  if isOneOff then handleOneOffSpendingAuth node buyerPeerId payload
  else handleSpendingAuthInner node buyerPeerId payload (s.buyerDisconnectMarkers buyerPeerId)

end OneOff

variable (node : Node)

inductive CloseChannelRejectCode where
  | noChannel | busy | invalidAuth | pendingAuth | closeFailed
  deriving DecidableEq, Repr

inductive CloseChannelResult where
  | closed (finalAmount : Int)
  | rejected (code : CloseChannelRejectCode)
  deriving DecidableEq, Repr

/-- `_verifyBuyerCloseAuth` up to its await: the amount an auth is checked with. -/
def readCloseAuth (auth : CloseAuth) : Option Int := do
  let amount ← auth.cumulativeAmount.toBigInt
  let hash ← keccak256 node auth.metadata
  if 0 ≤ amount ∧ hash.toLowerCase = auth.metadataHash.toLowerCase then some amount else none

/-- `_verifyBuyerCloseAuth` after it: the signature is the channel's buyer's. -/
def verifyCloseAuth (session : StoredChannel) (auth : CloseAuth) (amount : Int) : Bool :=
  verifyTypedData (spendingAuthMessage session.sessionId amount auth.metadataHash)
    auth.spendingAuthSig session.buyerEvmAddr = some true

/-- Verify the auth a close request brings along, and take it if it authorizes more. -/
def takeCloseAuth (session : StoredChannel) : Option CloseAuth → Op Bool
  | none => awaited (pure true)
  | some auth =>
    match readCloseAuth node auth with
    | none => awaited (pure false)
    | some amount => do
        let resolved ← call .addresses
        match resolved with
        | .error _ => awaited (pure false)
        | .ok _ =>
          if verifyCloseAuth session auth amount then do
            let _ ← wait (.closeAuth session.sessionId amount)
            modify (·.adoptBuyerCloseAuth session.sessionId
              ⟨auth.spendingAuthSig, amount, auth.metadata⟩)
            pure true
          else awaited (pure false)

/-- Served but not signed for. -/
def Manager.hasUnsignedSpend (s : Manager) (channelId : Hex) : Bool :=
  (s.spent channelId).getD 0 > (s.getSettleParams channelId).amount

/-- The best signed amount if it is above what is settled, else the settled amount itself. -/
def Manager.finalParams (s : Manager) (channelId : Hex) (onChain : Channel) : SettleParams :=
  let best := s.getSettleParams channelId
  if best.sig.isSome ∧ best.amount > onChain.settled then best else closeAtSettled onChain

/-- The end of a close request: nothing is in flight, everything served is signed for. -/
def closeOnRequest (buyerPeerId : PeerId) (channelId : Hex) : Op CloseChannelResult := do
  let session ← getSession node channelId
  match session with
  | .error _ => pure (.rejected .closeFailed)
  | .ok onChain => do
      let s ← get
      if s.hasInFlightRequests buyerPeerId then pure (.rejected .busy)
      else if s.hasUnsignedSpend channelId then pure (.rejected .pendingAuth)
      else do
        let result ← submitClose (some buyerPeerId) channelId (s.finalParams channelId onChain)
        match result with
        | .failed _ => pure (.rejected .closeFailed)
        | .closed amount => do
            modify fun s =>
              (s.setStatus channelId .settled (some amount)).forgetChannel channelId (some buyerPeerId)
            pure (.closed amount)

/-- Wait once for the auth of what was served last. -/
def awaitCatchUp (channelId : Hex) : Op Unit := do
  let s ← get
  let spent := (s.spent channelId).getD 0
  if s.hasUnsignedSpend channelId then do
    let _ ← wait (.accepted channelId spent)
    pure ()
  else pure ()

/-- A close request for the sender's own session channel. -/
def closeOwnSession (buyerPeerId : PeerId) (channelId : Hex) (auth : Option CloseAuth) :
    Op CloseChannelResult := do
  let _ ← wait .pendingAuths
  let s ← get
  match s.store.getActiveChannelByPeer buyerPeerId with
  | none => pure (.rejected .noChannel)
  | some session =>
    if session.sessionId ≠ channelId then pure (.rejected .noChannel)
    else do
      let taken ← takeCloseAuth node session auth
      if taken = false then pure (.rejected .invalidAuth)
      else do
        awaitCatchUp channelId
        let s ← get
        if s.hasUnsignedSpend channelId then pure (.rejected .pendingAuth)
        else closeOnRequest node buyerPeerId channelId

def handleCloseChannelRequest (buyerPeerId : PeerId) (payload : CloseChannelRequestPayload) :
    Op CloseChannelResult := do
  let s ← get
  match s.store.getActiveChannelByPeer buyerPeerId with
  | none => pure (.rejected .noChannel)
  | some session =>
    if session.sessionId.toLowerCase ≠ payload.channelId.toLowerCase then
      pure (.rejected .noChannel)
    else if s.hasInFlightRequests buyerPeerId ∨ (s.closingChannels session.sessionId).isSome then
      pure (.rejected .busy)
    else closeOwnSession node buyerPeerId session.sessionId payload.auth

end AntSeed.Seller
