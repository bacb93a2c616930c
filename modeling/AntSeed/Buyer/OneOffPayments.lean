import AntSeed.Buyer.OneOffChannels

/-! # Opening, charging and delivering

The negotiator checks the seller's plan and has the manager open the channel.
The seller's NeedAuth for it is answered once the buyer has seen the delivery.
Every `await` of the source is a `wait` here; a path that throws ends. Openings
for one request queue up in the source; here they may overlap as well.
-/

namespace AntSeed.Buyer.OneOff

open Async Protocol

structure Config where
  maxVideoRequestUsdc : Nat

inductive Wait where
  | contractValue
  /-- the seller's address, for a channel with a new salt -/
  | terms
  | sign (message : Signed)
  | committing (row : StoredChannel)
  | committed
  | flush
  | oneOffAck (channelId : String)
  | session (channelId : String)
  | observedUnitUsage (waiter : Waiter)
  /-- an async function that is done -/
  | returned

inductive Reply where
  | done
  | failed
  | value (amount : Nat)
  | terms (channelId : String) (deadline : Int)
  /-- the channel on the chain, and whether its deposit has been there for long enough -/
  | session (deposit : Nat) (status : Option Nat) (graceOver : Bool)
  deriving DecidableEq, Repr

abbrev Op := Async State Wait Reply

/-- `await` of an async function: others may run before its caller goes on. -/
def awaited {α : Type} (x : Op α) : Op α := do
  let result ← x
  let _ ← wait .returned
  pure result

/-- Have the wallet sign; it may refuse. -/
def sign (message : Signed) : Op Bool := do
  modify (·.note (.signed message))
  let reply ← wait (.sign message)
  pure (reply = .done)

/-- `_commitAuthorization`: store the whole row; `false` if it throws. -/
def commitAuthorization (row : StoredChannel) : Op Bool := do
  let reply ← wait (.committing row)
  if reply = .done then do
    modify (·.upsertChannel row)
    let _ ← wait .committed
    pure true
  else pure false

def signAndCommitSpendingAuth (channel : StoredChannel) (cumulativeAmount : Nat) : Op Bool := do
  let signed ← sign (.spendingAuth channel.sessionId cumulativeAmount)
  if signed then awaited (commitAuthorization { channel with authMax := cumulativeAmount }) else pure false

def signReserveBatch (channelId : String) (cumulativeAmount maxAmount : Nat) (deadline : Int) : Op Bool := do
  let signed ← sign (.spendingAuth channelId cumulativeAmount)
  if signed then sign (.reserveAuth channelId maxAmount deadline) else pure false

def keepOneOffChannel (sellerPeerId requestId : String) (plan : OneOffChannelPlan) (channelId : String) :
    Op (Option String) := do
  let row : StoredChannel :=
    { sessionId := channelId
      peerId := sellerPeerId
      oneOffRequestId := some requestId
      authMax := plan.requiredCumulativeAmount
      reserveMaxAmount := plan.requestCost
      active := true
      reserveAuthPending := true
      oneOffVideoJob := none }
  let committed ← awaited (commitAuthorization row)
  if committed then do
    let state : OneOffChannelState :=
      { channelId := channelId
        sellerPeerId := sellerPeerId
        requestId := requestId
        price := plan.requestCost
        cumulative := plan.requiredCumulativeAmount
        confirmed := false }
    modify fun s => { s with oneOffChannels := Keyed.set OneOffChannelState.channelId state s.oneOffChannels }
    pure (some channelId)
  else pure none

/-- `openOneOffChannel` once its terms are known; `none` if it throws. -/
def openWithTerms (sellerPeerId requestId : String) (plan : OneOffChannelPlan) (channelId : String) (deadline : Int) :
    Op (Option String) := do
  modify (·.note (.opening ⟨channelId, requestId, plan⟩))
  let opened ← sign (.reserveAuth channelId plan.openingReserveAmount deadline)
  let batched ←
    if opened = true ∧ plan.requiredCumulativeAmount > 0 then
      awaited (signReserveBatch channelId plan.requiredCumulativeAmount plan.requestCost deadline)
    else pure opened
  if batched then keepOneOffChannel sellerPeerId requestId plan channelId else pure none

section Negotiation

variable (config : Config)

def openOneOffChannel (sellerPeerId requestId : String) (plan : OneOffChannelPlan) : Op (Option String) := do
  let s ← get
  match s.request requestId with
  | none => pure none
  | some billing =>
    if billing.entry.isVideoCreate = false ∨ billing.entry.sellerPeerId ≠ sellerPeerId
        ∨ billing.entry.estimatedCostUsdc ≠ some plan.requestCost then pure none
    else if plan.requestCost > config.maxVideoRequestUsdc ∨ plan.requiredCumulativeAmount ≥ plan.requestCost then
      pure none
    else
      match s.getOneOffChannelForRequest sellerPeerId requestId with
      | some existing => pure (some existing)
      | none => do
          let reply ← wait .terms
          match reply with
          | .terms channelId deadline => openWithTerms sellerPeerId requestId plan channelId deadline
          | _ => pure none

def confirmOneOffChannel (channelId : String) : Op Unit := do
  let s ← get
  match s.channel channelId with
  | none => pure ()
  | some state =>
    let confirm : Op Unit := modify fun s => { s with
      oneOffChannels := s.oneOffChannels.map fun state : OneOffChannelState =>
        if state.channelId = channelId then { state with confirmed := true } else state }
    if state.confirmed then pure ()
    else
      match s.row channelId with
      | none => confirm
      | some row => do
          modify (·.upsertChannel { row with reserveAuthPending := false })
          let _ ← wait .flush
          confirm

def confirmOneOffChannelOnChain (channelId : String) (onChainDeposit : Nat) : Op Unit := do
  let s ← get
  if (s.channel channelId).any (·.price ≤ onChainDeposit) then awaited (confirmOneOffChannel channelId) else pure ()

/-- `_waitForOneOffChannel`, with as many polls as come before the deadline. -/
def waitForOneOffChannel (channelId : String) (price : Nat) : Nat → Op Unit
  | 0 => pure ()
  | polls + 1 => do
      let acked ← wait (.oneOffAck channelId)
      if acked = .done then pure ()
      else do
        let reading ← wait (.session channelId)
        let s ← get
        match reading with
        | .session deposit status graceOver =>
          if s.isOneOffChannelConfirmed channelId then pure ()
          else if price ≤ deposit ∧ (status = none ∨ status = some 1) then
            if graceOver then awaited (confirmOneOffChannelOnChain channelId deposit)
            else waitForOneOffChannel channelId price polls
          else if status.any (1 < ·) then modify (·.retireOneOffChannel channelId)
          else waitForOneOffChannel channelId price polls
        | _ => waitForOneOffChannel channelId price polls

/-- The buyer's own price, if the plan names it. -/
def State.videoRequestCost (s : State) (sellerPeerId requestId : String) (plan : OneOffChannelPlan) : Option Nat :=
  (s.request requestId).bind fun billing =>
    if billing.entry.isVideoCreate ∧ billing.entry.sellerPeerId = sellerPeerId then
      billing.entry.estimatedCostUsdc.filter fun videoCost => videoCost ≠ 0 ∧ plan.requestCost = videoCost
    else none

def Reply.asValue : Reply → Option Nat
  | .value amount => some amount
  | _ => none

/-- `_openOneOffChannel` -/
def openOneOffChannelForRequest (sellerPeerId requestId : String) (plan : OneOffChannelPlan) (polls : Nat) :
    Op Unit := do
  let s ← get
  let existing := s.getOneOffChannelForRequest sellerPeerId requestId
  if existing.any s.isOneOffChannelConfirmed then pure ()
  else
    match s.videoRequestCost sellerPeerId requestId plan with
    | none => pure ()
    | some price =>
      if price > config.maxVideoRequestUsdc then pure ()
      else do
        let firstSignCap ← wait .contractValue
        let thresholdBps ← wait .contractValue
        match firstSignCap.asValue, thresholdBps.asValue with
        | some cap, some bps =>
          if cap = 0 ∨ bps = 0 ∨ bps > 10000 ∨ plan ≠ computeOneOffChannelPlan price cap bps then pure ()
          else do
            modify (·.note (.limits cap bps))
            let channelId ←
              match existing with
              | some channelId => pure (some channelId)
              | none => awaited (openOneOffChannel config sellerPeerId requestId plan)
            match channelId with
            | none => pure ()
            | some channelId => waitForOneOffChannel channelId price polls
        | none, _ => pure ()
        | some _, none => pure ()

end Negotiation

/-- `handleAuthAck` for a one-off channel. -/
def handleAuthAck (sellerPeerId channelId : String) : Op Unit := do
  let s ← get
  if (s.channel channelId).any (·.sellerPeerId = sellerPeerId) then awaited (confirmOneOffChannel channelId)
  else pure ()

structure NeedAuthPayload where
  channelId : String
  requestId : Option String
  requiredCumulativeAmount : Int
  lastRequestCost : Option Int
  billingUsage : Option UnitBillingUsageReport

/-- `_waitForObservedUnitUsage`, on behalf of a channel. -/
def waitForObservedUnitUsage (requestId channelId : String) : Op (Option UnitBillingUsage) := do
  let s ← get
  match (s.request requestId).bind (·.entry.observedUnitUsage) with
  | some usage => pure (some usage)
  | none =>
    if (s.request requestId).any (·.notDelivered) then pure none
    else do
      let waiter : Waiter := ⟨s.tickets, requestId, channelId⟩
      modify fun s => { s with waiters := waiter :: s.waiters, tickets := s.tickets + 1 }
      let _ ← wait (.observedUnitUsage waiter)
      let s ← get
      pure ((s.settled.find? fun answer => answer.1 = waiter).bind (·.2))

/-- What a charge that names the channel's price is checked against. -/
structure Charge where
  requestId : String
  observedUnitUsage : Option UnitBillingUsage
  pricing : UnitPricing
  report : UnitBillingUsageReport

/-- The charge of a NeedAuth, if it is for the price and for a request bound to the channel. -/
def State.charge (s : State) (state : OneOffChannelState) (payload : NeedAuthPayload) : Option Charge :=
  payload.requestId.bind fun requestId => payload.billingUsage.bind fun report =>
    (s.request requestId).bind fun billing => billing.entry.unitModel.bind fun pricing =>
      if payload.requiredCumulativeAmount = state.price ∧ payload.lastRequestCost.getD 0 = state.price ∧ requestId ≠ ""
          ∧ billing.oneOffChannelId = some payload.channelId then
        some ⟨requestId, billing.entry.observedUnitUsage, pricing, report⟩
      else none

/-- The price is signed: the channel pays for nothing else. -/
def State.charged (s : State) (channelId requestId : String) (price : Nat) : State :=
  let paid := { s with
    oneOffChannels := s.oneOffChannels.map fun state : OneOffChannelState =>
      if state.channelId = channelId then { state with cumulative := price } else state }
  (paid.clearRequestBilling requestId).retireOneOffChannel channelId

def signCharge (state : OneOffChannelState) (channel : StoredChannel) (channelId : String) (charge : Charge)
    (observed : Option UnitBillingUsage) : Op Unit :=
  if validateUnitBillingUsage charge.pricing charge.report state.price observed then do
    let signed ← awaited (signAndCommitSpendingAuth channel state.price)
    if signed then modify (·.charged channelId charge.requestId state.price) else pure ()
  else pure ()

def handleOneOffNeedAuth (sellerPeerId : String) (payload : NeedAuthPayload) : Op Unit := do
  let s ← get
  match s.channel payload.channelId, s.row payload.channelId with
  | some state, some channel =>
    if state.sellerPeerId ≠ sellerPeerId ∨ payload.requiredCumulativeAmount ≤ state.cumulative then pure ()
    else
      match s.charge state payload with
      | none => pure ()
      | some charge => do
          let observed ←
            match charge.observedUnitUsage with
            | some usage => pure (some usage)
            | none => awaited (waitForObservedUnitUsage charge.requestId payload.channelId)
          signCharge state channel payload.channelId charge observed
  | none, _ => pure ()
  | some _, none => pure ()

variable (config : Config)
  -- the job that a request retrieves; a request's id names one request
  (retrieves : String → Option VideoJobKey)

/-- The price of a video create, and its entry. -/
def State.trackRequestBillingContext (s : State) (requestId sellerPeerId : String) (facts : BillingRequestFacts)
    (unitModel : Option UnitPricing) (cost : Nat) : State :=
  let isVideo := facts ≠ .other
  let estimatedCost := if isVideo ∧ unitModel.isSome then cost else 0
  if estimatedCost > config.maxVideoRequestUsdc then s
  else if estimatedCost > 0 then
    (s.note (.priced requestId estimatedCost)).trackRequestBilling requestId
      ⟨sellerPeerId, some facts, unitModel, some estimatedCost, none⟩
  else s.trackRequestBilling requestId ⟨sellerPeerId, some facts, unitModel, none, none⟩

/-- A response to a create may accept a job; without one its channel is given up. What others delivered is
    observed. -/
def State.estimateCostFromResponse (s : State) (sellerPeerId requestId : String) (jobId : Option String)
    (usage : UnitBillingUsage) (saves : Bool) : State :=
  match s.request requestId with
  | none => s
  | some billing =>
    match billing.entry.videoFacts with
    | none => s.recordObservedUnitUsage requestId usage
    | some video =>
      if video.action = .create then
        match jobId with
        | some jobId => s.trackVideoJob sellerPeerId video.protocol jobId
            { billing.entry with observedUnitUsage := none } requestId saves
        | none =>
          match s.getOneOffChannelForRequest sellerPeerId requestId with
          | some channelId => s.retireOneOffChannel channelId
          | none => s
      else s

/-- The wait for what was delivered ends without it. -/
def State.expire (s : State) (waiter : Waiter) : State :=
  if waiter ∈ s.waiters then
    { s with
      waiters := s.waiters.filter (· ≠ waiter)
      settled := (waiter, (s.request waiter.requestId).bind (·.entry.observedUnitUsage)) :: s.settled }
  else s

inductive Event where
  | trackRequestBillingContext (requestId sellerPeerId : String) (facts : BillingRequestFacts)
      (unitModel : Option UnitPricing) (cost : Nat)
  | openOneOffChannelForRequest (sellerPeerId requestId : String) (plan : OneOffChannelPlan) (polls : Nat)
  | handleNeedAuth (sellerPeerId : String) (payload : NeedAuthPayload)
  | handleAuthAck (sellerPeerId channelId : String)
  | estimateCostFromResponse (sellerPeerId requestId : String) (jobId : Option String) (usage : UnitBillingUsage)
      (saves : Bool)
  | trackVideoRetrieve (requestId : String)
  | recordVideoDelivered (requestId : String) (saves : Bool)
  | videoDeliveryUnsaved (requestId : String) (saves : Bool)
  /-- a request's entry is used up, or leaves the cache -/
  | forgetRequest (requestId : String)
  | forgetVideoJob (key : VideoJobKey) (saves : Bool)
  | expire (waiter : Waiter)
  /-- the `n`-th waiting path goes on -/
  | resume (n : Nat) (reply : Reply)
  | restart

abbrev Process := Pool State Wait Reply Unit

/-- A change that waits for nothing. -/
def Process.act (process : Process) (change : State → State) : Process :=
  { process with state := change process.state }

/-- Requests that retrieve a job are free: they are neither priced nor estimated. -/
def Process.step (process : Process) : Event → Process
  | .trackRequestBillingContext requestId sellerPeerId facts unitModel cost =>
    match retrieves requestId with
    | some _ => process
    | none => process.act (·.trackRequestBillingContext config requestId sellerPeerId facts unitModel cost)
  | .openOneOffChannelForRequest sellerPeerId requestId plan polls =>
    process.advance () (OneOff.openOneOffChannelForRequest config sellerPeerId requestId plan polls)
  | .handleNeedAuth sellerPeerId payload => process.advance () (handleOneOffNeedAuth sellerPeerId payload)
  | .handleAuthAck sellerPeerId channelId => process.advance () (OneOff.handleAuthAck sellerPeerId channelId)
  | .estimateCostFromResponse sellerPeerId requestId jobId usage saves =>
    match retrieves requestId with
    | some _ => process
    | none => process.act (·.estimateCostFromResponse sellerPeerId requestId jobId usage saves)
  | .trackVideoRetrieve requestId =>
    match retrieves requestId with
    | none => process
    | some key => process.act (·.trackVideoRetrieve key requestId)
  | .recordVideoDelivered requestId saves =>
    match retrieves requestId with
    | none => process
    | some key => process.act (·.recordVideoDelivered key requestId saves)
  | .videoDeliveryUnsaved requestId saves =>
    match retrieves requestId with
    | none => process
    | some key => process.act (·.videoDeliveryUnsaved key saves)
  | .forgetRequest requestId => process.act (·.clearRequestBilling requestId)
  | .forgetVideoJob key saves => process.act (·.forgetVideoJob key saves)
  | .expire waiter => process.act (·.expire waiter)
  | .resume n reply => process.resume n reply
  | .restart => ⟨process.state.restart, []⟩

def machine : Machine Process Event Empty where
  step process event := .ok (process.step config retrieves event)

end AntSeed.Buyer.OneOff
