import AntSeed.Seller.OneOffChannels

/-! # A seller's run

Besides what buyers ask for there is what the node does by itself: it serves and
bills requests, closes channels of buyers that left, looks after stale ones and
restarts from its rows. All of these may go on at the same time; what happens at
each step is one event.
-/

namespace AntSeed.Seller

open Evm Async
open AntSeed.Payments (Channel)
open Function

section Upkeep

variable (node : Node)

def onBuyerDisconnect (buyerPeerId : PeerId) : Op Unit := do
  let s ← get
  match s.store.getActiveChannelByPeer buyerPeerId with
  | none => pure ()
  | some session => do
      modify (·.markDisconnect buyerPeerId)
      if node.settleOnDisconnect ∧ (s.acceptedCumulative session.sessionId).getD 0 > 0 then
        settleSession node buyerPeerId true false
      else modify fun s => { s with activeBuyers := update s.activeBuyers buyerPeerId false }

def handleCloseRequested (channelId : Hex) : Op Unit := do
  let s ← get
  let forget (status : ChannelStatus) (settledAmount : Option Int) : Op Unit := modify fun s =>
    (s.setStatus channelId status settledAmount).forgetChannel channelId
      ((s.store.getChannel channelId).map (·.peerId))
  if (s.acceptedCumulative channelId).getD 0 > 0 then do
    let result ← submitClose none channelId (s.getSettleParams channelId)
    match result with
    | .failed _ => pure ()
    | .closed amount => forget .settled (some amount)
  else forget .timeout none

def pollCloseRequested (channelIds : List Hex) : Op Unit := do
  let answer ← call .closeRequests
  match answer with
  | .error _ => pure ()
  | .ok _ => channelIds |> forEach fun channelId => do
      let s ← get
      if (s.acceptedCumulative channelId).isSome
          ∨ (s.store.getChannel channelId).any (·.status = .active) then
        awaited (handleCloseRequested channelId)
      else pure ()

/-- Whether a one-off channel is done with: paid, given up on, or past its time. -/
def Manager.isOneOffDone (s : Manager) (now : Nat) (channel : StoredChannel) : Bool :=
  let spent := (s.spent channel.sessionId).getD 0
  let age : Int := now - channel.reservedAt
  (spent > 0 ∧ (s.acceptedCumulative channel.sessionId).getD 0 ≥ spent)
    ∨ s.pendingOneOffCloses channel.sessionId
    ∨ age > oneOffChannelTtlMs
    ∨ (channel.requestCount = 0 ∧ age > oneOffUnclaimedTtlMs)

def checkOneOffChannel (now : Nat) (channel : StoredChannel) : Op Unit := do
  let session ← getSession node channel.sessionId
  let s ← get
  match session with
  | .error _ => pure ()
  | .ok onChain =>
    let status := classifyOnChainChannel onChain
    if status = .missing ∧ s.mayNotBeVisibleYet channel then pure ()
    else if status.isGone then
      modify (·.evictStaleChannel channel.sessionId channel.peerId .settled)
    else do
      modify fun s => { s with
        oneOffChannelIds := update s.oneOffChannelIds channel.sessionId true }
      if s.isOneOffDone now channel then do
        let _ ← awaited (closeOneOffChannel channel.sessionId)
        pure ()
      else pure ()

def checkOneOffChannels : Op Unit := do
  let s ← get
  forEach (checkOneOffChannel node s.now) (s.store.getActiveChannels .oneOff)

/-- Take over what the chain has settled; an auth that is not above it is of no use. -/
def Manager.reconcileSpent (s : Manager) (channelId : Hex) (onChainSettled : Int) : Manager :=
  if onChainSettled > (s.spent channelId).getD 0 then
    { s with
      spent := update s.spent channelId (some onChainSettled)
      latestAuth :=
        if (s.latestAuth channelId).any (fun auth => decide (auth.cumulativeAmount ≤ onChainSettled))
        then update s.latestAuth channelId none
        else s.latestAuth }
  else s

def validateHydratedChannel (channel : StoredChannel) : Op Unit := do
  let session ← getSession node channel.sessionId
  let s ← get
  match session with
  | .error _ => pure ()
  | .ok onChain =>
    let status := classifyOnChainChannel onChain
    if status = .missing ∧ s.mayNotBeVisibleYet channel then pure ()
    else if status.isGone ∨ matchesChannelParties node onChain channel.buyerEvmAddr = false then
      modify (·.evictStaleChannel channel.sessionId channel.peerId .settled)
    else if onChain.closeRequestedAt > 0 ∧ node.serveWhileClosePending = false then
      awaited (handleCloseRequested channel.sessionId)
    else modify (·.reconcileSpent channel.sessionId onChain.settled)

def validateHydratedChannels : Op Unit := do
  awaited (checkOneOffChannels node)
  let s ← get
  let resolved ← call .addresses
  match resolved with
  | .error _ => pure ()
  | .ok _ => forEach (validateHydratedChannel node) (s.store.getActiveChannels .paid)

def checkTimeout (nowSecs : Int) (channel : StoredChannel) (accepted : Int) : Op Unit := do
  let session ← getSession node channel.sessionId
  let s ← get
  match session with
  | .error _ => pure ()
  | .ok onChain =>
    let status := classifyOnChainChannel onChain
    let buyerDisconnected := !s.activeBuyers channel.peerId
    if status = .missing ∧ s.mayNotBeVisibleYet channel then pure ()
    else if status.isGone then
      modify (·.evictStaleChannel channel.sessionId channel.peerId .settled)
    else if accepted > 0 ∧ buyerDisconnected then
      awaited (settleSession node channel.peerId false false)
    else if accepted = 0 ∧ (buyerDisconnected ∨ s.hydratedChannelIds channel.sessionId)
        ∧ nowSecs > channel.deadline then
      if status = .active then
        awaited (closeWithoutAuth channel.sessionId channel.peerId onChain)
      else modify (·.evictStaleChannel channel.sessionId channel.peerId .timeout)
    else pure ()

/-- One round of `checkTimeouts`: an auth that only the row still has is restored first. -/
def checkTimeoutRestored (nowSecs : Int) (channel : StoredChannel) : Op Unit := do
  let s ← get
  let accepted := (s.acceptedCumulative channel.sessionId).getD 0
  if accepted = 0 then do
    modify (·.restorePersistedSpendingAuth channel)
    checkTimeout node nowSecs channel ((Manager.persistedCumulative channel).getD 0)
  else checkTimeout node nowSecs channel accepted

/-- What is sent to close a timed-out channel: the auth for a while, then the settled amount. -/
def timedOutParams (attempts : Nat) (channel : StoredChannel) (onChain : Channel) : SettleParams :=
  if channel.latestSpendingAuthSig.isSome ∧ attempts < Manager.timedOutAuthCloseAttempts
      ∧ channel.authMax > onChain.settled ∧ channel.authMax ≤ onChain.deposit then
    ⟨channel.authMax, channel.latestMetadata.orZeroMetadata, channel.latestSpendingAuthSig⟩
  else closeAtSettled onChain

def setTimedOutAttempts (channelId : Hex) (attempts : Option Nat) : Op Unit :=
  modify fun s => { s with
    timedOutCloseAttempts := update s.timedOutCloseAttempts channelId attempts }

/-- Only the attempts with the buyer's auth count. -/
def countTimedOutAttempt (channelId : Hex) (attempts : Nat) (params : SettleParams)
    (error : ChainError) : Op Unit :=
  if params.sig.isSome ∧ error ≠ .inFlightLimit then
    setTimedOutAttempts channelId (some (attempts + 1))
  else pure ()

def retryTimedOutClose (channel : StoredChannel) : Op Unit := do
  let channelId := channel.sessionId
  let s ← get
  if (s.closingChannels channelId).isSome then pure ()
  else do
    let session ← getSession node channelId
    let s ← get
    let attempts := (s.timedOutCloseAttempts channelId).getD 0
    match session with
    | .error _ => modify (·.setStatus channelId .timeout none)
    | .ok onChain =>
      match classifyOnChainChannel onChain with
      | .settled => do
          modify (·.setStatus channelId .settled (some onChain.settled))
          setTimedOutAttempts channelId none
      -- withdrawn by the buyer
      | .missing => do
          modify (·.setStatus channelId .timeout (some 0))
          setTimedOutAttempts channelId none
      | .timeout => do
          modify (·.setStatus channelId .timeout (some onChain.settled))
          setTimedOutAttempts channelId none
      | .unknown => modify (·.setStatus channelId .timeout none)
      | .active => do
          let params := timedOutParams attempts channel onChain
          let result ← submitClose none channelId params
          match result with
          | .closed amount => do
              modify (·.setStatus channelId .settled (some amount))
              setTimedOutAttempts channelId none
          | .failed error => do
              countTimedOutAttempt channelId attempts params error
              modify (·.setStatus channelId .timeout none)

/-- `_retryTimedOutCloses` of a batch; which of the unsettled channels are due is left open. -/
def retryTimedOutCloses (batch : List Hex) : Op Unit := do
  let s ← get
  forEach (retryTimedOutClose node) <|
    (s.store.getUnsettledChannelsByStatus .timeout).filter fun channel => channel.sessionId ∈ batch

def checkTimeouts (batch : List Hex) : Op Unit := do
  awaited (checkOneOffChannels node)
  let s ← get
  forEach (checkTimeoutRestored node s.nowSecs) (s.store.getActiveChannels .paid)
  retryTimedOutCloses node batch

/-- Poll until the buyer's requests are served, or the drain's time is over. -/
def drainRequests (buyerPeerId : PeerId) (drainDeadline : Nat) : Nat → Op Unit
  | 0 => pure ()
  | polls + 1 => do
      let s ← get
      if s.hasInFlightRequests buyerPeerId ∧ s.now < drainDeadline then do
        let _ ← wait .timer
        drainRequests buyerPeerId drainDeadline polls
      else pure ()

/-- What `closeSessionWhenIdle` does once nothing is in flight. -/
def closeIdleSession (buyerPeerId : PeerId) (channelId : Hex) : Op Unit := do
  let s ← get
  if (s.store.getActiveChannelByPeer buyerPeerId).all (·.sessionId ≠ channelId) then pure ()
  else if (s.acceptedCumulative channelId).getD 0 > 0 ∨ s.blockedChannels channelId = false then
    awaited (settleSession node buyerPeerId false false)
  else do
    let session ← getSession node channelId
    match session with
    | .error _ => pure ()
    | .ok onChain =>
      if classifyOnChainChannel onChain = .active then
        awaited (closeWithoutAuth channelId buyerPeerId onChain)
      else pure ()

def setIdleClose (channelId : Hex) (pending : Bool) : Op Unit :=
  modify fun s => { s with idleCloses := update s.idleCloses channelId pending }

def closeSessionWhenIdle (buyerPeerId : PeerId) : Op Unit := do
  let s ← get
  match s.store.getActiveChannelByPeer buyerPeerId with
  | none => pure ()
  | some session =>
    if s.idleCloses session.sessionId then pure ()
    else do
      setIdleClose session.sessionId true
      -- a poll takes a quarter of a second, so the drain's time is over after this many
      drainRequests buyerPeerId (s.now + 15 * 60000) 3600
      closeIdleSession node buyerPeerId session.sessionId
      setIdleClose session.sessionId false

def blockChannelForBuyer (buyerPeerId : PeerId) : Op Unit := do
  let s ← get
  match s.store.getActiveChannelByPeer buyerPeerId with
  | none => pure ()
  | some session =>
    if s.blockedChannels session.sessionId then pure ()
    else do
      modify (·.blockChannel session.sessionId)
      closeSessionWhenIdle node buyerPeerId

end Upkeep

/-- What the node itself asks its manager for. -/
inductive Chore where
  | recordSpend (sessionId : Hex) (costUsdc : Int)
  | beginBillableRequest (buyerPeerId : PeerId)
  | endBillableRequest (buyerPeerId : PeerId)
  | registerOneOffPlan (buyerPeerId : PeerId) (requestId : String)
      (openingReserveAmount requiredCumulativeAmount requestCost : Int)
  | claimOneOffChannel (channelId : Hex)
  | closeOneOffChannel (channelId : Hex)
  | settleSession (buyerPeerId : PeerId) (cleanupOnFailure settleOnly : Bool)
  | onBuyerDisconnect (buyerPeerId : PeerId)
  | blockChannelForBuyer (buyerPeerId : PeerId)
  | closeSessionWhenIdle (buyerPeerId : PeerId)
  | validateHydratedChannels
  | checkTimeouts (batch : List Hex)
  | pollCloseRequested (channelIds : List Hex)
  /-- the clock moves -/
  | elapse (ms : Nat)

def Chore.run (node : Node) : Chore → Op Unit
  | .recordSpend sessionId costUsdc => modify (·.recordSpend sessionId costUsdc)
  | .beginBillableRequest buyerPeerId => modify (·.beginBillableRequest buyerPeerId)
  | .endBillableRequest buyerPeerId => modify (·.endBillableRequest buyerPeerId)
  | .registerOneOffPlan buyerPeerId requestId opening required cost =>
    modify (·.registerOneOffPlan buyerPeerId requestId opening required cost)
  | .claimOneOffChannel channelId => modify (·.claimOneOffChannel channelId)
  | .closeOneOffChannel channelId => do
      let _ ← Seller.closeOneOffChannel channelId
      pure ()
  | .settleSession buyerPeerId cleanupOnFailure settleOnly =>
    Seller.settleSession node buyerPeerId cleanupOnFailure settleOnly
  | .onBuyerDisconnect buyerPeerId => Seller.onBuyerDisconnect node buyerPeerId
  | .blockChannelForBuyer buyerPeerId => Seller.blockChannelForBuyer node buyerPeerId
  | .closeSessionWhenIdle buyerPeerId => Seller.closeSessionWhenIdle node buyerPeerId
  | .validateHydratedChannels => Seller.validateHydratedChannels node
  | .checkTimeouts batch => Seller.checkTimeouts node batch
  | .pollCloseRequested channelIds => Seller.pollCloseRequested channelIds
  | .elapse ms => modify fun s => { s with now := s.now + ms }

inductive Event where
  | spendingAuth (buyerPeerId : PeerId) (payload : SpendingAuthPayload)
  | closeChannelRequest (buyerPeerId : PeerId) (payload : CloseChannelRequestPayload)
  | chore (chore : Chore)
  /-- the `n`-th waiting task goes on -/
  | resume (n : Nat) (reply : Reply)
  /-- the process ends, and a new one starts from the rows -/
  | restart

/-- The state and the tasks that wait; a task belongs to the buyer whose message it handles. -/
abbrev Process := Pool Manager Wait Reply (Option PeerId)

def Process.start : Process := ⟨Manager.hydrate [] 0, []⟩

/-- A promise that was joined has to be resolved before the task goes on. -/
def Manager.answers (s : Manager) : Wait → Bool
  | .closing channelId operation => (s.closeResults channelId operation).isSome
  | _ => true

/-- The `n`-th waiting task may go on. -/
def Process.ready (process : Process) (n : Nat) : Bool :=
  (process.tasks[n]?).all fun task => process.state.answers task.label

def Process.step (node : Node) (process : Process) : Event → Process
  | .spendingAuth buyerPeerId payload => process.advance (some buyerPeerId) do
      let _ ← handleSpendingAuth node buyerPeerId payload
      pure ()
  | .closeChannelRequest buyerPeerId payload => process.advance (some buyerPeerId) do
      let _ ← handleCloseChannelRequest node buyerPeerId payload
      pure ()
  | .chore chore => process.advance none (chore.run node)
  | .resume n reply => if process.ready n then process.resume n reply else process
  -- the promises of the new process are other ones
  | .restart => ⟨{ Manager.hydrate process.state.store process.state.now with
      closes := process.state.closes }, []⟩

def machine (node : Node) : Machine Process Event Empty where
  step process event := .ok (process.step node event)

/-- What is asked for to serve a request is done at once. -/
def Chore.serving : Chore → Option (Manager → Manager)
  | .recordSpend sessionId costUsdc => some (·.recordSpend sessionId costUsdc)
  | .beginBillableRequest buyerPeerId => some (·.beginBillableRequest buyerPeerId)
  | .endBillableRequest buyerPeerId => some (·.endBillableRequest buyerPeerId)
  | .registerOneOffPlan buyerPeerId requestId opening required cost =>
    some (·.registerOneOffPlan buyerPeerId requestId opening required cost)
  | .claimOneOffChannel channelId => some (·.claimOneOffChannel channelId)
  | _ => none

def Event.isServing : Event → Bool
  | .chore chosen => chosen.serving.isSome
  | _ => false

/-- The buyer whose message is handled in a step, if any. -/
def Event.sender (process : Process) : Event → Option PeerId
  | .spendingAuth buyerPeerId _ => some buyerPeerId
  | .closeChannelRequest buyerPeerId _ => some buyerPeerId
  | .chore _ => none
  | .resume n _ => process.tasks[n]?.bind (·.owner)
  | .restart => none

end AntSeed.Seller
