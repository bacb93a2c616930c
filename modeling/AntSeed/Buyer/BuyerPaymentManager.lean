import AntSeed.Lib.Paused
import AntSeed.Buyer.Account

/-! # BuyerPaymentManager: its authorization paths

Every `await` of the source is a `wait` here. A commit is two of them, so that
it may land in the store at any time before it is reported; it lands as a
whole, or not at all. A path that throws ends.

What a response costs is arbitrary: the estimates of its tokens and units, and
what the buyer has seen of it in time, come with the event.
-/

namespace AntSeed.Buyer

open Async

inductive Wait where
  | sign (message : Signed)
  | committing (channel : StoredChannel)
  | committed
  | balance
  /-- the buyer's own look at what was delivered -/
  | observedUsage
  /-- an async function that is done -/
  | returned
  deriving DecidableEq

inductive Reply where
  | done
  | failed
  | insufficient
  deriving DecidableEq

instance : Fintype Reply := ⟨{.done, .failed, .insufficient}, fun reply => by cases reply <;> decide⟩

abbrev Op := Async Account Wait Reply

/-- `await` of an async function: others may run before its caller goes on. -/
def awaited {α : Type} (x : Op α) : Op α := do
  let result ← x
  let _ ← wait .returned
  pure result

/-- Sign with the wallet, which may refuse. -/
def sign (message : Signed) : Op (Option Signed) := do
  let reply ← wait (.sign message)
  pure (if reply = .done then some message else none)

/-- `_commitAuthorization`: store the whole row; `false` if it throws. -/
def commitAuthorization (channel : StoredChannel) : Op Bool := do
  let reply ← wait (.committing channel)
  if reply = .done then do
    modify fun s => { s with session := some channel }
    let _ ← wait .committed
    pure true
  else pure false

def send (frame : Frame) : Op Unit := modify fun s => { s with sent := frame :: s.sent }

/-- The row with a new SpendingAuth. -/
def StoredChannel.withSpendingAuth (channel : StoredChannel) (cumulativeAmount : Int) (sig : Signed) :
    StoredChannel :=
  { channel with authMax := cumulativeAmount, latestSpendingAuthSig := some sig }

def signAndCommitSpendingAuth (channel : StoredChannel) (cumulativeAmount : Int) :
    Op (Option Signed) := do
  let signed ← sign (.spendingAuth channel.sessionId cumulativeAmount)
  match signed with
  | none => pure none
  | some sig => do
      let committed ← commitAuthorization (channel.withSpendingAuth cumulativeAmount sig)
      pure (if committed then some sig else none)

def commitUpdatedSpendingAuth (session : StoredChannel) (cumulativeAmount : Int) :
    Op (Option Signed) := do
  let signed ← awaited (signAndCommitSpendingAuth session cumulativeAmount)
  match signed with
  | none => pure none
  | some sig => do
      modify fun s => { s with cumulativeAmount := some cumulativeAmount }
      pure (some sig)

section Reserves

variable (config : BuyerPaymentConfig)

/-- The row with a ReserveAuth that waits to be confirmed. -/
def StoredChannel.withReserveAuth (channel : StoredChannel) (pending : PendingReserveAuthorization)
    (initialReserveAmount : Option Int) : StoredChannel :=
  { channel with
    reserveSalt := some pending.salt
    initialReserveAmount := initialReserveAmount
    reserveMaxAmount := some pending.maxAmount
    latestReserveAuthSig := some pending.signature
    latestReserveDeadline := some pending.deadline
    reserveAuthPending := some true
    confirmedReserveAmount := some pending.confirmedAmount }

def commitAndSendReserveAuth (session : StoredChannel) (pending : PendingReserveAuthorization)
    (cumulativeAmount : Int) (initialReserveAmount : Option Int) : Op Unit := do
  let committed ← commitAuthorization (session.withReserveAuth pending initialReserveAmount)
  if committed then
    modify fun s => { s with
      pendingReserveAuth := some pending
      sent := .reserveAuth session.sessionId cumulativeAmount pending :: s.sent
      currentReserveCeiling := some pending.maxAmount }
  else pure ()

/-- `'0x' + '00'.repeat(32)` -/
def zeroSalt : String := "0x" ++ String.ofList (List.replicate 64 '0')

/-- `topUpReserve`; whether it throws makes no difference to its callers. -/
def topUpReserve : Op Unit := do
  let s ← get
  match s.session with
  | none => pure ()
  | some session =>
    let prevCeiling := s.ceiling config
    let newCeiling := prevCeiling + config.maxReserveAmountUsdc
    let deadline := s.authDeadline config
    let balance ← wait .balance
    -- a balance that cannot be read does not stop the top-up
    if balance = .insufficient then pure ()
    else do
      let signed ← sign (.reserveAuth session.sessionId newCeiling deadline)
      let s ← get
      match signed with
      | none => pure ()
      | some sig =>
        let pending : PendingReserveAuthorization :=
          ⟨sig, s.reserveSalt.getD zeroSalt, newCeiling, deadline, prevCeiling⟩
        awaited (commitAndSendReserveAuth session pending (s.cumulativeAmount.getD 0)
          (some (session.initialReserveAmount.getD prevCeiling)))

def Account.replayAmount (s : Account) : Int :=
  min ((s.initialReserveAmount.or s.currentReserveCeiling).getD config.maxReserveAmountUsdc)
    config.maxReserveAmountUsdc

def resendReserveAuth : Op Unit := do
  let s ← get
  match s.session, s.reserveSalt with
  | some session, some salt =>
    let maxAmount := s.replayAmount config
    let deadline := s.authDeadline config
    let signed ← sign (.reserveAuth session.sessionId maxAmount deadline)
    match signed with
    | none => pure ()
    | some sig => awaited (commitAndSendReserveAuth session ⟨sig, salt, maxAmount, deadline, 0⟩
        session.authMax (some maxAmount))
  | none, _ => pure ()
  | some _, none => pure ()

/-- Replay the latest ReserveAuth that is not acknowledged, signed anew once its deadline is near. -/
def resendPendingReserveAuth : Op Unit := do
  let s ← get
  match s.session, s.pendingReserveAuth with
  | some session, some pending =>
    if pending.deadline ≤ s.now + 30 then do
      let deadline := s.authDeadline config
      let signed ← sign (.reserveAuth session.sessionId pending.maxAmount deadline)
      match signed with
      | none => pure ()
      | some sig => awaited (commitAndSendReserveAuth session
          { pending with signature := sig, deadline := deadline } session.authMax
          session.initialReserveAmount)
    else awaited (commitAndSendReserveAuth session pending session.authMax
      session.initialReserveAmount)
  | none, _ => pure ()
  | some _, none => pure ()

/-- The chain is authoritative: its deposit is the ceiling, and may confirm what is pending. -/
def Account.adoptDeposit (s : Account) (onChainAmount : Int) : Account :=
  { s with
    currentReserveCeiling := some onChainAmount
    pendingReserveAuth := s.pendingReserveAuth.filter (onChainAmount < ·.maxAmount)
    depositSeen := max s.depositSeen onChainAmount }

def reconcileReserveAmount (onChainAmount : Int) : Op Unit := do
  let s ← get
  match s.session with
  | none => pure ()
  | some session => do
      modify (·.adoptDeposit onChainAmount)
      let stillPending := s.pendingReserveAuth.any (onChainAmount < ·.maxAmount)
      let _ ← commitAuthorization { session with
        reserveAuthPending := some stillPending
        confirmedReserveAmount := some onChainAmount }
      pure ()

end Reserves

section SpendingAuths

variable (config : BuyerPaymentConfig)

def resendCurrentSpendingAuth : Op Unit := do
  let s ← get
  match s.session with
  | none => pure ()
  | some session =>
    let cumulativeAmount := s.cumulativeAmount.getD session.authMax
    let signed ← sign (.spendingAuth session.sessionId cumulativeAmount)
    match signed with
    | none => pure ()
    | some sig => do
        let committed ← commitAuthorization { session with latestSpendingAuthSig := some sig }
        if committed then send (.spendingAuth session.sessionId cumulativeAmount sig)
        else pure ()

/-- What an extension aims at, may sign, and takes for verified. -/
structure Extension where
  requestedAmount : Int
  window : Account.Window

def Account.extension (s : Account) (currentCumulative minBudgetPerRequest : Int)
    (targetCumulative : Option Int) (inFlightRequests : Nat) : Extension :=
  let verified := s.verifiedCost.getD 0
  let reopened := s.reopenOverdraftWindowIfCollapsed config currentCumulative
    (s.maxSignableForVerified config verified) verified
  let minAdvance := currentCumulative + minBudgetPerRequest
  match targetCumulative with
  | none => ⟨minAdvance, reopened⟩
  | some target =>
    -- one per-request window for each request in flight, still capped at the ceiling
    let catchUpMax := reopened.verifiedCost + config.maxPerRequestUsdc * inFlightRequests
    ⟨max target minAdvance, { reopened with
      maxSignable := if inFlightRequests > 1 then min catchUpMax (s.ceiling config)
        else reopened.maxSignable }⟩

def extendCurrentSpendingAuth (minBudgetPerRequest : Int) (targetCumulative : Option Int)
    (inFlightRequests : Nat) : Op Unit := do
  let s ← get
  match s.session with
  | none => pure ()
  | some session =>
    let currentCumulative := s.cumulativeAmount.getD session.authMax
    let extension := s.extension config currentCumulative minBudgetPerRequest targetCumulative
      inFlightRequests
    let maxSignable := extension.window.maxSignable
    let nextCumulative := min extension.requestedAmount maxSignable
    let extendNeedsTopUp := s.needsCeilingAdvance config extension.requestedAmount maxSignable
    if nextCumulative ≤ currentCumulative then
      if extendNeedsTopUp then awaited (topUpReserve config) else pure ()
    else do
      let committed ← awaited (commitUpdatedSpendingAuth session nextCumulative)
      match committed with
      | none => pure ()
      | some sig => do
          modify fun s => { s with verifiedCost := some extension.window.verifiedCost }
          send (.spendingAuth session.sessionId nextCumulative sig)
          if extendNeedsTopUp then awaited (topUpReserve config) else pure ()

/-- `buildCloseChannelRequest`: the channel and the auth to send; `none` if it throws. -/
def buildCloseChannelRequest (includeAuth : Bool) (maxCumulative : Option Int) :
    Op (Option (String × Option (Int × Signed))) := do
  let s ← get
  match s.session with
  | none => pure none
  | some session =>
    let signedCumulative := s.cumulativeAmount.getD session.authMax
    let cumulativeAmount := (maxCumulative.map (min signedCumulative)).getD signedCumulative
    if includeAuth = false ∨ cumulativeAmount ≤ 0 then pure (some (session.sessionId, none))
    else do
      let signed ← sign (.spendingAuth session.sessionId cumulativeAmount)
      match signed with
      | none => pure none
      | some sig =>
        if cumulativeAmount < signedCumulative then
          pure (some (session.sessionId, some (cumulativeAmount, sig)))
        else do
          let committed ← commitAuthorization { session with latestSpendingAuthSig := some sig }
          pure (if committed then some (session.sessionId, some (cumulativeAmount, sig))
            else none)

/-- The last part of `requestChannelClose`. -/
def sendCloseChannelRequest (includeAuth : Bool) (maxCumulative : Option Int) : Op Unit := do
  let payload ← awaited (buildCloseChannelRequest includeAuth maxCumulative)
  match payload with
  | none => pure ()
  | some (channelId, auth) => send (.closeRequest channelId auth)

structure ResponseStats where
  requestId : Option String
  sellerClaimedCost : Option Int
  buyerEstimatedRequestCost : Int
  maxAcceptable : Int
  verifiedCostDelta : Int

/-- A claim is accepted up to the buyer's tolerance; without one the estimate counts. -/
def ResponseStats.acceptedCost (stats : ResponseStats) : Int :=
  match stats.sellerClaimedCost with
  | none => stats.buyerEstimatedRequestCost
  | some claimed =>
    if claimed ≤ 0 then stats.buyerEstimatedRequestCost
    else if stats.buyerEstimatedRequestCost > 0 then min claimed stats.maxAcceptable
    else claimed

/-- What is recorded once a response's auth is committed. -/
def Account.recordPerRequestAuth (s : Account) (requestId : Option String) (alreadyCounted : Bool)
    (newAmount nextVerifiedCost signedDelta : Int) : Account :=
  { s with
    cumulativeAmount := some newAmount
    verifiedCost := some nextVerifiedCost
    serviceTokensCounted :=
      if alreadyCounted then s.serviceTokensCounted.pay requestId signedDelta
      else s.serviceTokensCounted.mark requestId 0 }

/-- `signPerRequestAuth`: the message, and whether a top-up is needed; `none` if it throws. -/
def signPerRequestAuth (stats : ResponseStats) : Op (Option (Frame × Bool)) := do
  let s ← get
  match s.session with
  | none => pure none
  | some session =>
    let alreadyCounted := s.serviceTokensCounted.has stats.requestId
    let acceptedCost :=
      if alreadyCounted then s.serviceTokensCounted.unpaid stats.requestId else stats.acceptedCost
    let prevAmount := s.cumulativeAmount.getD 0
    let nextVerifiedCost :=
      s.verifiedCost.getD 0 + (if alreadyCounted then 0 else stats.verifiedCostDelta)
    -- an authorization is cumulative and must never move backward
    let newAmount := max prevAmount
      (min (prevAmount + acceptedCost) (s.maxSignableForVerified config nextVerifiedCost))
    let signed ← sign (.spendingAuth session.sessionId newAmount)
    match signed with
    | none => pure none
    | some sig => do
        let committed ← commitAuthorization (session.withSpendingAuth newAmount sig)
        if committed then do
          modify (·.recordPerRequestAuth stats.requestId alreadyCounted newAmount nextVerifiedCost
            (newAmount - prevAmount))
          let s ← get
          pure (some (.spendingAuth session.sessionId newAmount sig, s.needsTopUp config))
        else pure none

def sendPerRequestAuth (stats : ResponseStats) : Op Unit := do
  let result ← awaited (signPerRequestAuth config stats)
  match result with
  | none => pure ()
  | some (payload, topUpNeeded) => do
      send payload
      if topUpNeeded then awaited (topUpReserve config) else pure ()

/-- What the unit model of a request makes of the units a NeedAuth reports. -/
structure UnitReport where
  /-- it is well formed, and within what the request allowed -/
  valid : Bool
  /-- what the model charges; `none` where a unit has no price -/
  buyerEstimate : Option Int
  /-- whether the delivered response covers the units, if the buyer has seen it -/
  observed : Option Bool
  /-- the same, for a response that comes while the buyer waits for it -/
  later : Option Bool

/-- `validateUnitBillingUsage`: the buyer's estimate; `none` if it throws. -/
def UnitReport.validate (report : UnitReport) (sellerCost : Int) (maxAcceptable : Int → Int) (observed : Option Bool) :
    Option Int :=
  if report.valid = false ∨ observed = some false ∨ observed = none ∧ sellerCost > 0 then none
  else report.buyerEstimate.filter fun buyerEstimate =>
    ¬ (sellerCost > 0 ∧ buyerEstimate ≤ 0) ∧ sellerCost ≤ maxAcceptable buyerEstimate

/-- What a NeedAuth reports of a response. -/
inductive Claim where
  | nothing
  /-- with the buyer's estimate, if it knows a price -/
  | cost (lastRequestCost : Int) (buyerEstimate : Option Int) (hasUnitModel isUnitBilled : Bool)
  /-- with billing usage, for a request that may have a unit model -/
  | usage (lastRequestCost tokenEstimate : Int) (isVideo : Bool) (units : Option UnitReport)

/-- The message describes a response that was delivered. -/
def Claim.isDelivered : Claim → Bool
  | .nothing => false
  | .cost _ _ _ _ => true
  | .usage _ _ _ _ => true

/-- The buyer's estimate of a cost with billing usage; `none` if the usage is rejected. -/
def unitsEstimate (sellerTotalCost tokenEstimate : Int) (isVideo : Bool) : Option UnitReport → Option Int
  | none => if sellerTotalCost > 0 then none else some tokenEstimate
  | some report =>
    let observed := report.observed.or (if sellerTotalCost > 0 then report.later else none)
    (report.validate (max (sellerTotalCost - tokenEstimate) 0) (config.maxAcceptable isVideo) observed).map
      (tokenEstimate + ·)

/-- The cost that is accepted; `none` if the message is refused. -/
def Claim.accepted : Claim → Option Int
  | .nothing => some 0
  | .cost sellerCost buyerEstimate hasUnitModel isUnitBilled =>
    if sellerCost > 0 ∧ ((hasUnitModel ∧ isUnitBilled) ∨ ∃ estimate ∈ buyerEstimate,
        (estimate ≤ 0 ∧ isUnitBilled) ∨ (estimate > 0 ∧ sellerCost > config.maxAcceptable false estimate)) then none
    else some sellerCost
  | .usage sellerTotalCost tokenEstimate isVideo units =>
    (unitsEstimate config sellerTotalCost tokenEstimate isVideo units).bind fun buyerEstimate =>
      if (sellerTotalCost > 0 ∧ buyerEstimate ≤ 0) ∨ sellerTotalCost > config.maxAcceptable isVideo buyerEstimate then
        none
      else some sellerTotalCost

/-- The NeedAuth may come before the response it is about; the buyer gives that one a moment. -/
def Claim.waits : Claim → Bool
  | .usage sellerTotalCost _ _ (some report) => report.observed.isNone && sellerTotalCost > 0
  | _ => false

structure NeedAuthPayload where
  channelId : String
  requiredCumulativeAmount : Int
  requestId : Option String
  claim : Claim

def Claim.accept (claim : Claim) : Op (Option Int) :=
  if claim.waits then do
    let _ ← wait .observedUsage
    pure (claim.accepted config)
  else pure (claim.accepted config)

/-- What a NeedAuth may be answered with; `none` once the overdraft limit is reached. -/
structure Answer where
  window : Account.Window
  needsTopUp : Bool

def Account.answer (s : Account) (requiredCumulativeAmount currentCumulative acceptedCost : Int) :
    Option Answer :=
  let verified := s.verifiedCost.getD 0 + acceptedCost
  let maxSignable := s.maxSignableForVerified config verified
  let needsTopUp := s.needsCeilingAdvance config requiredCumulativeAmount maxSignable
  if maxSignable ≤ currentCumulative ∧ needsTopUp = false then
    let reopened := s.reopenOverdraftWindowIfCollapsed config currentCumulative maxSignable verified
    let needsTopUp := s.needsCeilingAdvance config requiredCumulativeAmount reopened.maxSignable
    if reopened.maxSignable ≤ currentCumulative ∧ needsTopUp = false then none
    else some ⟨reopened, needsTopUp⟩
  else some ⟨⟨maxSignable, verified⟩, needsTopUp⟩

/-- With a top-up due, sign up to the present ceiling first. -/
def Answer.effectiveAmount (answer : Answer) (requiredCumulativeAmount currentCumulative : Int) :
    Int :=
  if answer.needsTopUp then max answer.window.maxSignable currentCumulative
  else min requiredCumulativeAmount answer.window.maxSignable

def Account.recordNeedAuth (s : Account) (payload : NeedAuthPayload) (alreadyCounted : Bool)
    (verifiedCost acceptedCost signedDelta : Int) : Account :=
  let serviceAmount := if acceptedCost > 0 then min acceptedCost signedDelta else 0
  { s with
    verifiedCost := some verifiedCost
    serviceTokensCounted :=
      if payload.claim.isDelivered ∧ alreadyCounted = false then
        s.serviceTokensCounted.mark payload.requestId (acceptedCost - serviceAmount)
      else s.serviceTokensCounted }

/-- `handleNeedAuth` once its claim is accepted. -/
def answerNeedAuth (payload : NeedAuthPayload) (session : StoredChannel)
    (currentCumulative acceptedCost : Int) : Op Unit := do
  let s ← get
  match s.answer config payload.requiredCumulativeAmount currentCumulative acceptedCost with
  | none => pure ()
  | some answer =>
    let effectiveAmount :=
      answer.effectiveAmount payload.requiredCumulativeAmount currentCumulative
    if effectiveAmount ≤ currentCumulative then
      if answer.needsTopUp then awaited (topUpReserve config) else pure ()
    else do
      let alreadyCounted := s.serviceTokensCounted.has payload.requestId
      let committed ← awaited (commitUpdatedSpendingAuth session effectiveAmount)
      match committed with
      | none => pure ()
      | some sig => do
          modify (·.recordNeedAuth payload alreadyCounted answer.window.verifiedCost acceptedCost
            (effectiveAmount - currentCumulative))
          send (.spendingAuth session.sessionId effectiveAmount sig)
          let s ← get
          if answer.needsTopUp ∨ s.needsTopUp config then awaited (topUpReserve config)
          else pure ()

/-- A NeedAuth for a request the seller covered is refused before anything is read, and those of
    one-off channels are handled apart; neither is modelled. -/
def handleNeedAuth (payload : NeedAuthPayload) : Op Unit := do
  let s ← get
  match s.session with
  | none => pure ()
  | some session =>
    let currentCumulative := s.cumulativeAmount.getD 0
    if session.sessionId ≠ payload.channelId
        ∨ payload.requiredCumulativeAmount ≤ currentCumulative then
      pure ()
    else do
      let accepted ← payload.claim.accept config
      match accepted with
      | none => pure ()
      | some acceptedCost =>
        answerNeedAuth config payload session currentCumulative acceptedCost

end SpendingAuths

/-- A path that authorizes something. -/
inductive Path where
  | signPerRequestAuth (stats : ResponseStats)
  | handleNeedAuth (payload : NeedAuthPayload)
  | extendCurrentSpendingAuth (minBudgetPerRequest : Int) (targetCumulative : Option Int)
      (inFlightRequests : Nat)
  | resendCurrentSpendingAuth
  | requestChannelClose (includeAuth : Bool)
  | topUpReserve
  | resendReserveAuth
  | resendPendingReserveAuth
  | reconcileReserveAmount (onChainAmount : Int)

/-- A path's program; close requests are uncapped. -/
def Path.run (config : BuyerPaymentConfig) : Path → Op Unit
  | .signPerRequestAuth stats => sendPerRequestAuth config stats
  | .handleNeedAuth payload => Buyer.handleNeedAuth config payload
  | .extendCurrentSpendingAuth minBudgetPerRequest targetCumulative inFlightRequests =>
    Buyer.extendCurrentSpendingAuth config minBudgetPerRequest targetCumulative inFlightRequests
  | .resendCurrentSpendingAuth => Buyer.resendCurrentSpendingAuth
  | .requestChannelClose includeAuth => sendCloseChannelRequest includeAuth none
  | .topUpReserve => Buyer.topUpReserve config
  | .resendReserveAuth => Buyer.resendReserveAuth config
  | .resendPendingReserveAuth => Buyer.resendPendingReserveAuth config
  | .reconcileReserveAmount onChainAmount => Buyer.reconcileReserveAmount onChainAmount

inductive Event where
  | path (path : Path)
  /-- the `n`-th waiting path goes on -/
  | resume (n : Nat) (reply : Reply)
  /-- requests of other sellers are counted in the same tracker -/
  | count (tracker : CountedRequestTracker)
  | elapse (seconds : Nat)
  | restart

abbrev Process := Pool Account Wait Reply (Paused Unit Account)

def Process.step (config : BuyerPaymentConfig) (process : Process) : Event → Process
  | .path path => process.pause () (path.run config)
  | .resume n reply => process.wake n reply
  | .count tracker =>
    { process with state := { process.state with serviceTokensCounted := tracker } }
  | .elapse seconds =>
    { process with state := { process.state with now := process.state.now + seconds } }
  | .restart => ⟨process.state.restart, []⟩

def machine (config : BuyerPaymentConfig) : Machine Process Event Empty where
  step process event := .ok (process.step config event)

end AntSeed.Buyer
