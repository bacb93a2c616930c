import AntSeed.Seller.Events

/-! # SellerRequestHandler

Priced requests, from their arrival to the recording of their cost, beside the
manager whose state they read and write. A request is in one of a few stages,
each named after the await it is in; what it has read before stays with it.
Requests that are served for free pass by all of this and are left out, but for
downloads of videos, which are charged to a one-off channel. Of the answers to a
buyer only remains that its request is done.
-/

namespace AntSeed.Seller

open Evm Async
open Function

structure Shop where
  node : Node
  reserveEstimateOverdraftUsdc : Option Int

namespace Manager

variable (s : Manager)

def hasSession (buyerPeerId : PeerId) : Bool := s.activeBuyers buyerPeerId
def getChannelByPeer (buyerPeerId : PeerId) : Option StoredChannel :=
  s.store.getActiveChannelByPeer buyerPeerId
def getCumulativeSpend (sessionId : Hex) : Int := (s.spent sessionId).getD 0
def getAcceptedCumulative (sessionId : Hex) : Int := (s.acceptedCumulative sessionId).getD 0
def getReserveMax (sessionId : Hex) : Int := (s.reserveMax sessionId).getD 0

def hasClosingChannel (buyerPeerId : PeerId) : Bool :=
  (s.getChannelByPeer buyerPeerId).any fun session => (s.closingChannels session.sessionId).isSome

def getOneOffChannelForRequest (buyerPeerId : PeerId) (requestId : String) : Option StoredChannel :=
  (s.store.getOneOffChannelByRequest buyerPeerId requestId).filter fun channel =>
    channel.status = .active && s.oneOffChannelIds channel.sessionId

/-- What `claimOneOffChannel` returns. -/
def canClaimOneOffChannel (channelId : Hex) : Bool :=
  (s.store.getChannel channelId).any fun channel =>
    s.oneOffChannelIds channelId ∧ channel.status = .active ∧ channel.requestCount = 0

end Manager

namespace Service

/-- What the budget check has read of the buyer's channel. -/
structure Reading where
  channelId : Hex
  spent : Int
  reserveMax : Int
  isBlocked : Bool
  isAtExactSpendLimit : Bool
  deriving DecidableEq, Repr

def readBudget (s : Manager) (session : StoredChannel) : Reading :=
  let accepted := s.getAcceptedCumulative session.sessionId
  let spent := s.getCumulativeSpend session.sessionId
  let reserveMax := s.getReserveMax session.sessionId
  { channelId := session.sessionId
    spent := spent
    reserveMax := reserveMax
    isBlocked := s.blockedChannels session.sessionId
    isAtExactSpendLimit := 0 < spent ∧ spent = accepted ∧ 0 < reserveMax ∧ reserveMax ≤ accepted }

variable (shop : Shop)

def Reading.remainingLockedReserve (reading : Reading) : Int :=
  if reading.reserveMax > reading.spent then reading.reserveMax - reading.spent else 0

/-- `estimatedCostExceedsLockedReserve`; without an overdraft there is no such check. -/
def Reading.exceedsLockedReserve (reading : Reading) (estimatedRequestCost : Int) : Bool :=
  shop.reserveEstimateOverdraftUsdc.any fun reserveEstimateOverdraft =>
    0 < reading.reserveMax ∧ 0 < estimatedRequestCost
      ∧ reading.remainingLockedReserve + reserveEstimateOverdraft < estimatedRequestCost

/-- The request is refused. -/
def Reading.isOverBudget (reading : Reading) (accepted estimatedRequestCost : Int) : Bool :=
  reading.isBlocked
    || decide (0 < reading.spent ∧ (accepted < reading.spent ∨ reading.isAtExactSpendLimit))
    || reading.exceedsLockedReserve shop estimatedRequestCost

/-- The channel is closed on this occasion. -/
def Reading.isFullyExhausted (reading : Reading) (accepted estimatedRequestCost : Int) : Bool :=
  reading.isBlocked
    || reading.exceedsLockedReserve shop estimatedRequestCost
    || decide (0 < reading.reserveMax
        ∧ (reading.reserveMax ≤ accepted ∨ reading.reserveMax < reading.spent))

inductive Stage where
  | waitForPendingAuths
  | awaitAccepted (reading : Reading)
  /-- the provider is asked; the channel is the one that was checked -/
  | executeRequest (isBillable : Bool) (admitted : Option Hex)
  | recordMetering (isBillable : Bool) (admitted : Option Hex) (costUsdc : Nat)
  /-- the terms of a one-off channel are made up -/
  | buildOneOffPlan
  /-- the provider is asked to make a video -/
  | createVideo (oneOffChannelId : Hex)
  | done
  deriving DecidableEq, Repr

structure Request where
  buyerPeerId : PeerId
  requestId : String
  estimatedRequestCost : Int
  stage : Stage
  deriving DecidableEq, Repr

/-- A video job: the protocol and the provider's id of it. -/
abbrev Resource := String × String

/-- The price of an accepted video job. -/
structure PendingResourceCharge where
  resource : Resource
  buyerPeerId : PeerId
  channelId : Hex
  amount : Int
  charged : Bool := false
  deriving DecidableEq, Repr

end Service

/-- The manager with its tasks, the requests in the order they came, and the charges of video jobs. -/
structure Service where
  process : Process := .start
  requests : List Service.Request := []
  charges : List Service.PendingResourceCharge := []

namespace Service

variable (shop : Shop) (s : Service)

def manager : Manager := s.process.state

def write (change : Manager → Manager) : Service :=
  { s with process := { s.process with state := change s.process.state } }

/-- Start a task of the manager and do not wait for it. -/
def spawn (x : Op Unit) : Service := { s with process := s.process.advance none x }

def setStage (n : Nat) (stage : Stage) : Service :=
  { s with requests := s.requests.modify n fun request => { request with stage := stage } }

/-- Ask the provider, unless the buyer's channel is being closed. -/
def forward (n : Nat) (request : Request) (admitted : Option Hex) : Service :=
  let isBillable := s.manager.hasSession request.buyerPeerId
  if isBillable ∧ s.manager.hasClosingChannel request.buyerPeerId then s.setStage n .done
  else
    let s := if isBillable then s.write (·.beginBillableRequest request.buyerPeerId) else s
    s.setStage n (.executeRequest isBillable admitted)

def checkBudget (n : Nat) (request : Request) (reading : Reading) : Service :=
  let accepted := s.manager.getAcceptedCumulative reading.channelId
  if reading.isOverBudget shop accepted request.estimatedRequestCost then
    let s := s.setStage n .done
    if reading.isFullyExhausted shop accepted request.estimatedRequestCost then
      s.spawn (closeSessionWhenIdle shop.node request.buyerPeerId)
    else s
  else s.forward n request (some reading.channelId)

/-- A priced request that arrives: it needs a session, and its channel, if there is one, a budget. -/
def receive (buyerPeerId : PeerId) (requestId : String) (estimatedRequestCost : Int) : Service :=
  let n := s.requests.length
  let request : Request := ⟨buyerPeerId, requestId, estimatedRequestCost, .waitForPendingAuths⟩
  let received : Service := { s with requests := s.requests ++ [request] }
  if s.manager.hasSession buyerPeerId = false then received.setStage n .done
  else if (s.manager.getChannelByPeer buyerPeerId).isSome then received
  else received.forward n request none

/-- The pending auths are done. -/
def startBudgetCheck (n : Nat) (request : Request) : Service :=
  match s.manager.getChannelByPeer request.buyerPeerId with
  | none => s.setStage n .done
  | some session =>
    let reading := readBudget s.manager session
    if 0 < reading.spent ∧ s.manager.getAcceptedCumulative session.sessionId < reading.spent then
      s.setStage n (.awaitAccepted reading)
    else s.checkBudget shop n request reading

/-- The channel a cost is recorded on: the one the buyer has by then. -/
def billedChannel (buyerPeerId : PeerId) : Option Hex :=
  if s.manager.hasSession buyerPeerId then
    (s.manager.getChannelByPeer buyerPeerId).map (·.sessionId)
  else none

def bill (n : Nat) (request : Request) (isBillable : Bool) (costUsdc : Nat) : Service :=
  let recorded := match s.billedChannel request.buyerPeerId with
    | none => s
    | some sessionId => s.write (·.recordSpend sessionId costUsdc)
  let ended := if isBillable then recorded.write (·.endBillableRequest request.buyerPeerId) else recorded
  ended.setStage n .done

/-- An await of the request ends. -/
def goOn (n : Nat) (request : Request) : Service :=
  match request.stage with
  | .waitForPendingAuths => s.startBudgetCheck shop n request
  | .awaitAccepted reading => s.checkBudget shop n request reading
  | .recordMetering isBillable _ costUsdc => s.bill n request isBillable costUsdc
  | .executeRequest _ _ => s
  | .buildOneOffPlan => s
  | .createVideo _ => s
  | .done => s

/-- The provider has answered, at this cost. -/
def complete (n : Nat) (request : Request) (costUsdc : Nat) : Service :=
  match request.stage with
  | .executeRequest isBillable admitted => s.setStage n (.recordMetering isBillable admitted costUsdc)
  | .waitForPendingAuths => s
  | .awaitAccepted _ => s
  | .recordMetering _ _ _ => s
  | .buildOneOffPlan => s
  | .createVideo _ => s
  | .done => s

/-- A request to make a video: it is paid from a one-off channel of its own. -/
def receiveCreate (buyerPeerId : PeerId) (requestId : String) (estimatedRequestCost : Int) : Service :=
  let n := s.requests.length
  let received : Service :=
    { s with requests := s.requests ++ [⟨buyerPeerId, requestId, estimatedRequestCost, .buildOneOffPlan⟩] }
  match s.manager.getOneOffChannelForRequest buyerPeerId requestId with
  | none => received
  | some oneOff =>
    if s.manager.getReserveMax oneOff.sessionId < estimatedRequestCost then received.setStage n .done
    else if s.manager.canClaimOneOffChannel oneOff.sessionId then
      (received.write (·.claimOneOffChannel oneOff.sessionId)).setStage n (.createVideo oneOff.sessionId)
    else received.setStage n .done

/-- The terms are made up and offered; they depend on what the chain asks for. -/
def offer (n : Nat) (request : Request) (openingReserveAmount requiredCumulativeAmount : Int) : Service :=
  match request.stage with
  | .buildOneOffPlan =>
    (s.write (·.registerOneOffPlan request.buyerPeerId request.requestId openingReserveAmount
      requiredCumulativeAmount request.estimatedRequestCost)).setStage n .done
  | .waitForPendingAuths => s
  | .awaitAccepted _ => s
  | .executeRequest _ _ => s
  | .recordMetering _ _ _ => s
  | .createVideo _ => s
  | .done => s

/-- `recordAcceptedCreate`: a job keeps the charge it was recorded with. -/
def recordAcceptedCreate (charge : PendingResourceCharge) : Service :=
  if s.charges.any (·.resource = charge.resource) then s
  else { s with charges := charge :: s.charges }

def closeOneOffBestEffort (channelId : Hex) : Service :=
  if s.manager.oneOffChannelIds channelId then s.spawn do
    let _ ← closeOneOffChannel channelId
    pure ()
  else s

/-- `_acceptVideoCreate`: the provider has taken the job on, or refused it; it may be free. -/
def acceptVideoCreate (n : Nat) (request : Request) (job : Option (Resource × Nat)) : Service :=
  match request.stage with
  | .createVideo channelId =>
    let s := s.setStage n .done
    match job with
    | none => s.closeOneOffBestEffort channelId
    | some (resource, costUsdc) =>
      if 0 < costUsdc then
        s.recordAcceptedCreate ⟨resource, request.buyerPeerId, channelId, costUsdc, false⟩
      else s.closeOneOffBestEffort channelId
  | .waitForPendingAuths => s
  | .awaitAccepted _ => s
  | .executeRequest _ _ => s
  | .recordMetering _ _ _ => s
  | .buildOneOffPlan => s
  | .done => s

def getPendingCharge (resource : Resource) (buyerPeerId : PeerId) : Option PendingResourceCharge :=
  s.charges.find? fun charge =>
    charge.resource = resource ∧ charge.buyerPeerId = buyerPeerId ∧ charge.charged = false

def markCharged (resource : Resource) : Service :=
  { s with charges := s.charges.map fun charge =>
      if charge.resource = resource then { charge with charged := true } else charge }

def deliveryCharge (resource : Resource) (buyerPeerId : PeerId) : Option (Hex × Int) := do
  let charge ← s.getPendingCharge resource buyerPeerId
  let channel ← s.manager.store.getChannel charge.channelId
  if channel.status = .active ∧ s.manager.oneOffChannelIds channel.sessionId then
    some (channel.sessionId, charge.amount - s.manager.getCumulativeSpend channel.sessionId)
  else none

/-- `_chargeDeliveredVideo`: the buyer has received the finished file. -/
def chargeDeliveredVideo (resource : Resource) (buyerPeerId : PeerId) : Service :=
  match s.deliveryCharge resource buyerPeerId with
  | none => s
  | some (channelId, amount) =>
    let s := s.markCharged resource
    if 0 < amount then s.write (·.recordSpend channelId amount) else s

inductive Event where
  | seller (event : Seller.Event)
  | receive (buyerPeerId : PeerId) (requestId : String) (estimatedRequestCost : Int)
  | goOn (n : Nat)
  | complete (n : Nat) (costUsdc : Nat)
  | receiveCreate (buyerPeerId : PeerId) (requestId : String) (estimatedRequestCost : Int)
  | offer (n : Nat) (openingReserveAmount requiredCumulativeAmount : Int)
  | acceptVideoCreate (n : Nat) (job : Option (Resource × Nat))
  | chargeDeliveredVideo (resource : Resource) (buyerPeerId : PeerId)

/-- A step of the manager; only the request handler asks it to serve, and a process ends with its
    requests. -/
def runSeller (event : Seller.Event) : Service :=
  if event.isServing then s
  else
    { s with
      process := s.process.step shop.node event
      requests := match event with
        | .restart => s.requests.map fun request => { request with stage := .done }
        | _ => s.requests }

/-- A request that has come goes on. -/
def withRequest (n : Nat) (f : Request → Service) : Service :=
  match s.requests[n]? with
  | none => s
  | some request => f request

def step : Event → Service
  | .seller event => s.runSeller shop event
  | .receive buyerPeerId requestId estimatedRequestCost =>
    s.receive buyerPeerId requestId estimatedRequestCost
  | .goOn n => s.withRequest n (s.goOn shop n)
  | .complete n costUsdc => s.withRequest n fun request => s.complete n request costUsdc
  | .receiveCreate buyerPeerId requestId estimatedRequestCost =>
    s.receiveCreate buyerPeerId requestId estimatedRequestCost
  | .offer n opening required => s.withRequest n fun request => s.offer n request opening required
  | .acceptVideoCreate n job => s.withRequest n fun request => s.acceptVideoCreate n request job
  | .chargeDeliveredVideo resource buyerPeerId => s.chargeDeliveredVideo resource buyerPeerId

def machine : Machine Service Event Empty where
  step s event := .ok (s.step shop event)

/-- The request a step is a step of. -/
def Event.request (s : Service) : Event → Option Nat
  | .receive _ _ _ => some s.requests.length
  | .goOn n => some n
  | .complete n _ => some n
  | .receiveCreate _ _ _ => some s.requests.length
  | .offer n _ _ => some n
  | .acceptVideoCreate n _ => some n
  | .chargeDeliveredVideo _ _ => none
  | .seller _ => none

/-- What the manager keeps by itself, and what is asked of it to serve requests keeps as well. -/
structure Kept (I : Process → Prop) : Prop where
  seller : ∀ {p event}, I p → event.isServing = false → I (p.step shop.node event)
  beginBillableRequest : ∀ {p : Process} {buyerPeerId}, I p →
    p.state.hasClosingChannel buyerPeerId = false →
      I { p with state := p.state.beginBillableRequest buyerPeerId }
  endBillableRequest : ∀ {p : Process} {buyerPeerId}, I p →
    I { p with state := p.state.endBillableRequest buyerPeerId }
  recordSpend : ∀ {p : Process} {sessionId costUsdc}, I p → 0 ≤ costUsdc →
    I { p with state := p.state.recordSpend sessionId costUsdc }
  registerOneOffPlan : ∀ {p : Process} {buyerPeerId requestId opening required cost}, I p →
    I { p with state := p.state.registerOneOffPlan buyerPeerId requestId opening required cost }
  claimOneOffChannel : ∀ {p : Process} {channelId}, I p →
    p.state.canClaimOneOffChannel channelId = true →
      I { p with state := p.state.claimOneOffChannel channelId }

section Kept

variable {shop : Shop} {I : Process → Prop} (kept : Kept shop I) {s : Service} {n : Nat}
  {request : Request}

include kept

section

variable (holds : I s.process)

include holds

theorem Kept.forward : I (s.forward n request admitted).process := by
  unfold Service.forward
  dsimp only
  split
  · exact holds
  next open_ =>
    split
    next billable =>
      refine kept.beginBillableRequest holds ?_
      exact Bool.eq_false_of_not_eq_true fun closing => open_ ⟨billable, closing⟩
    · exact holds

theorem Kept.checkBudget : I (s.checkBudget shop n request reading).process := by
  unfold Service.checkBudget
  dsimp only
  split
  · split
    · exact @Kept.seller _ _ kept _ (.chore (.closeSessionWhenIdle request.buyerPeerId)) holds rfl
    · exact holds
  · exact kept.forward holds

theorem Kept.bill :
    I (s.bill n request isBillable costUsdc).process := by
  have recorded : I (match s.billedChannel request.buyerPeerId with
      | none => s
      | some sessionId => s.write (·.recordSpend sessionId costUsdc)).process := by
    split
    · exact holds
    · exact kept.recordSpend holds (Int.natCast_nonneg costUsdc)
  cases isBillable with
  | false => exact recorded
  | true => exact kept.endBillableRequest recorded

theorem Kept.goOn : I (s.goOn shop n request).process := by
  unfold Service.goOn
  split
  · unfold startBudgetCheck
    split
    · exact holds
    · dsimp only
      split
      · exact holds
      · exact kept.checkBudget holds
  · exact kept.checkBudget holds
  · exact kept.bill holds
  all_goals exact holds

theorem Kept.closeOneOffBestEffort :
    I (s.closeOneOffBestEffort channelId).process := by
  unfold Service.closeOneOffBestEffort
  split
  · exact @Kept.seller _ _ kept _ (.chore (.closeOneOffChannel channelId)) holds rfl
  · exact holds

theorem Kept.step (event : Event) : I (s.step shop event).process := by
  have found : ∀ {n : Nat} {f : Request → Service}, (∀ request, I (f request).process) →
      I (s.withRequest n f).process := by
    intro n f each
    unfold withRequest
    split
    · exact holds
    · exact each _
  cases event with
  | seller =>
    dsimp only [Service.step, runSeller]
    split
    · exact holds
    next plain => exact kept.seller holds (Bool.eq_false_of_not_eq_true plain)
  | receive =>
    dsimp only [Service.step, receive]
    split
    · exact holds
    · split
      · exact holds
      · refine kept.forward ?_
        exact holds
  | goOn => exact found fun request => kept.goOn holds
  | complete =>
    refine found fun request => ?_
    unfold complete
    split <;> exact holds
  | receiveCreate =>
    dsimp only [Service.step, receiveCreate]
    split
    · exact holds
    · split
      · exact holds
      · split
        next claims => exact kept.claimOneOffChannel holds claims
        · exact holds
  | offer =>
    refine found fun request => ?_
    unfold offer
    split
    · exact kept.registerOneOffPlan holds
    all_goals exact holds
  | acceptVideoCreate =>
    refine found fun request => ?_
    unfold acceptVideoCreate
    split
    · dsimp only
      split
      · refine kept.closeOneOffBestEffort ?_
        exact holds
      · split
        · unfold recordAcceptedCreate
          split <;> exact holds
        · refine kept.closeOneOffBestEffort ?_
          exact holds
    all_goals exact holds
  | chargeDeliveredVideo =>
    dsimp only [Service.step, chargeDeliveredVideo]
    split
    · exact holds
    · split
      next more => exact kept.recordSpend holds more.le
      · exact holds

end

end Kept

end Service

end AntSeed.Seller
