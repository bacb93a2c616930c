import AntSeed.Seller.Events

/-! # What handlers do

Every write of a handler is one of a few acts, and each comes with the reasons
the handler has for it: what it has verified, what its awaits were answered, and
what it has read. Reasons do not wear off, so they may be older than the state
the act is done in. What holds of all acts holds of all handlers.
-/

namespace AntSeed.Seller

open Evm Async
open AntSeed.Payments (Signature Channel)
open Function

def Belongs (node : Node) (buyer : Address) (channelId : Hex) : Prop :=
  ∃ seller salt, channelId.bytes32 = some (node.chain.computeChannelId buyer seller salt)

/-- A task of this owner works for this buyer. -/
def Serves (owner : Option PeerId) (buyerPeerId : PeerId) : Prop :=
  ∀ other, owner = some other → other = buyerPeerId

def isReserveAuth : Payments.Auth → Bool
  | .reserveAuth _ _ _ => true
  | _ => false

/-- A message for a tracked channel passes its checks: it carries the sender's SpendingAuth over more than
    was accepted, or a ReserveAuth of the sender's. -/
def SpendingAuthPayload.passes (payload : SpendingAuthPayload) (node : Node) (buyerPeerId : PeerId)
    (existing : Int) : Bool :=
  metadataMatchesHash node payload ∧
    ((payload.cumulativeAmount.toBigInt.any fun amount =>
        existing < amount ∧ verifySpendingAuth buyerPeerId payload amount = some true) ∨
      payload.spendingAuthSig.any fun sig =>
        sig.signer = peerIdToAddress buyerPeerId ∧ isReserveAuth sig.message)

section Reasons

variable (C : Contract Manager Wait Reply) (node : Node) (owner : Option PeerId)

/-- An await has ended with this reply. -/
def Heard (label : Wait) (reply : Reply) : Prop :=
  ∃ s, C.invariant s ∧ C.resumes label reply s

/-- This was so when a handler looked. -/
def Was (P : Manager → Prop) : Prop := ∃ s, C.invariant s ∧ P s

/-- This was so, and what lasts has lasted since. -/
def Since (P : Manager → Prop) (s : Manager) : Prop := ∃ s₀, C.invariant s₀ ∧ P s₀ ∧ C.lasts s₀ s

structure Read (channelId : Hex) (onChain : Channel) : Prop where
  heard : ∃ id reply, channelId.bytes32 = some id ∧ reply.error = none ∧
    onChain = storedAt node id reply ∧ Heard C (.session channelId) reply

def WentThrough (label : Wait) : Prop := ∃ reply, reply.error = none ∧ Heard C label reply

/-- A message was taken up when this much was accepted of its channel. -/
def TakenUp (buyerPeerId : PeerId) (payload : SpendingAuthPayload) (existing : Option Int)
    (s : Manager) : Prop :=
  s.acceptedCumulative payload.channelId = existing ∧
    ∃ reply, C.resumes (.lock buyerPeerId payload false) reply s

/-- Why a task may work on a channel. -/
inductive Works (channelId : Hex) : Prop
  | seller (own : owner = none)
  | row (row : StoredChannel) (was : Was C fun s => row ∈ s.store) (serves : Serves owner row.peerId)
      (named : row.sessionId = channelId)
  | signed (buyerPeerId : PeerId) (payload : SpendingAuthPayload) (existing : Int)
      (own : owner = some buyerPeerId) (taken : Was C (TakenUp C buyerPeerId payload (some existing)))
      (passes : payload.passes node buyerPeerId existing = true) (named : payload.channelId = channelId)
  | belongs (buyerPeerId : PeerId) (own : owner = some buyerPeerId)
      (belongs : Belongs node (peerIdToAddress buyerPeerId) channelId)

/-- A close of the channel went through with this amount: the task's own, or the one it joined. -/
inductive Closed (channelId : Hex) (amount : Int) : Prop
  | own (tx : CloseTx) (reply : Reply) (heard : Heard C (.close tx) reply)
      (named : tx.channelId = channelId) (result : tx.result reply = .closed amount)
  | joined (operation : Nat) (joined : Was C fun s => s.closingChannels channelId = some operation)
      (result : Was C fun s => s.closeResults channelId operation = some (.closed amount))

/-- What a channel's row is marked with, and why. -/
inductive Verdict (channelId : Hex) : ChannelStatus → Option Int → Prop
  | closed (amount : Int) (closed : Closed C channelId amount) :
      Verdict channelId .settled (some amount)
  | closedAway (amount : Int) (closed : Closed C channelId amount) : Verdict channelId .settled none
  | notOpen (onChain : Channel) (read : Read C node channelId onChain)
      (gone : classifyOnChainChannel onChain ≠ .active) : Verdict channelId .settled none
  | notOurs (row : StoredChannel) (onChain : Channel) (read : Read C node channelId onChain)
      (was : Was C fun s => row ∈ s.store) (named : row.sessionId = channelId)
      (other : matchesChannelParties node onChain row.buyerEvmAddr = false) :
      Verdict channelId .settled none
  | givenUp : Verdict channelId .timeout none
  | readSettled (onChain : Channel) (read : Read C node channelId onChain)
      (settled : classifyOnChainChannel onChain = .settled) :
      Verdict channelId .settled (some onChain.settled)
  | readTimeout (onChain : Channel) (read : Read C node channelId onChain)
      (timeout : classifyOnChainChannel onChain = .timeout) :
      Verdict channelId .timeout (some onChain.settled)
  | readMissing (onChain : Channel) (read : Read C node channelId onChain)
      (missing : classifyOnChainChannel onChain = .missing) : Verdict channelId .timeout (some 0)

structure OnRequest (tx : CloseTx) (buyerPeerId : PeerId) (s : Manager) : Prop where
  own : owner = some buyerPeerId
  idle : s.hasInFlightRequests buyerPeerId = false
  signedFor : s.hasUnsignedSpend tx.channelId = false
  params : ∃ onChain, Read C node tx.channelId onChain ∧ tx.params = s.finalParams tx.channelId onChain
  active : ∃ row, row.sessionId = tx.channelId ∧
    Since C (fun s => s.store.getActiveChannelByPeer buyerPeerId = some row) s
  resumed : ∃ reply, C.resumes (.session tx.channelId) reply s

/-- The terms of a one-off channel: those of a plan offered to the buyer that had not expired. -/
structure Agreed (buyerPeerId : PeerId) (payload : SpendingAuthPayload) (requestId : String)
    (plan : PendingOneOffPlan) (reserveDeadline : Int) (terms : OneOffTerms) : Prop where
  was : Was C fun s =>
    s.pendingOneOffPlans (buyerPeerId, requestId) = some plan ∧ s.now < plan.expiresAt
  named : payload.oneOffRequestId = some requestId
  verified : verifyReserveAuth buyerPeerId payload plan.openingReserveAmount reserveDeadline = some true
  terms : oneOffTerms node buyerPeerId payload plan plan.openingReserveAmount reserveDeadline = some terms

/-- Why a reserve is sent. -/
inductive Reserves (tx : ReserveTx) : Prop
  | session (buyerPeerId : PeerId) (payload : SpendingAuthPayload) (own : owner = some buyerPeerId)
      (buyer : tx.buyer = peerIdToAddress buyerPeerId) (sig : tx.sig = payload.spendingAuthSig)
      (verified : verifyReserveAuth buyerPeerId payload tx.maxAmount tx.deadline = some true)
      (request : tx.oneOffRequestId = none)
  | oneOff (buyerPeerId : PeerId) (payload : SpendingAuthPayload) (requestId : String)
      (plan : PendingOneOffPlan) (terms : OneOffTerms) (own : owner = some buyerPeerId)
      (buyer : tx.buyer = peerIdToAddress buyerPeerId) (sig : tx.sig = payload.spendingAuthSig)
      (agreed : Agreed C node buyerPeerId payload requestId plan tx.deadline terms)
      (amount : tx.maxAmount = plan.openingReserveAmount)
      (request : tx.oneOffRequestId = some requestId)

structure ReservedBy (buyerPeerId : PeerId) (payload : SpendingAuthPayload) (tx : ReserveTx) : Prop where
  through : WentThrough C (.reserve tx)
  signed : tx.isSigned node = true
  buyer : tx.buyer = peerIdToAddress buyerPeerId
  sig : tx.sig = payload.spendingAuthSig
  verified : verifyReserveAuth buyerPeerId payload tx.maxAmount tx.deadline = some true

end Reasons

/-- Nothing has changed but what is kept of retries, timers and settlements, and which channels wait
    to be acknowledged. -/
structure Alike (s s' : Manager) : Prop where
  store : s'.store = s.store
  acceptedCumulative : s'.acceptedCumulative = s.acceptedCumulative
  spent : s'.spent = s.spent
  reserveMax : s'.reserveMax = s.reserveMax
  latestAuth : s'.latestAuth = s.latestAuth
  pendingTopUp : s'.pendingTopUp = s.pendingTopUp
  blockedChannels : s'.blockedChannels = s.blockedChannels
  closingChannels : s'.closingChannels = s.closingChannels
  closes : s'.closes = s.closes
  closeResults : s'.closeResults = s.closeResults
  inFlightRequests : s'.inFlightRequests = s.inFlightRequests
  pendingOneOffPlans : s'.pendingOneOffPlans = s.pendingOneOffPlans
  oneOffChannelIds : s'.oneOffChannelIds = s.oneOffChannelIds
  now : s'.now = s.now
  /-- who is connected may only change for one buyer -/
  activeBuyers : ∃ buyerPeerId, ∀ other, other ≠ buyerPeerId → s'.activeBuyers other = s.activeBuyers other

section Alike

variable {s s' : Manager} {buyerPeerId : PeerId} {channelId : Hex}

theorem Alike.of_eq (same : s' = { s with
      activeBuyers := s'.activeBuyers
      buyerDisconnectMarkers := s'.buyerDisconnectMarkers
      markers := s'.markers
      hydratedChannelIds := s'.hydratedChannelIds
      closeRetryCount := s'.closeRetryCount
      pendingOneOffCloses := s'.pendingOneOffCloses
      idleCloses := s'.idleCloses
      lastSettledCumulative := s'.lastSettledCumulative
      timedOutCloseAttempts := s'.timedOutCloseAttempts })
    (buyerPeerId : PeerId)
    (others : ∀ other, other ≠ buyerPeerId → s'.activeBuyers other = s.activeBuyers other) :
    Alike s s' := by
  constructor
  case activeBuyers => exact ⟨buyerPeerId, others⟩
  all_goals rw [same]

theorem Alike.refl : Alike s s := .of_eq rfl ⟨0⟩ fun _ _ => rfl

theorem alike_markDisconnect : Alike s (s.markDisconnect buyerPeerId) :=
  .of_eq rfl buyerPeerId fun _ _ => rfl

theorem alike_deactivateBuyer :
    Alike s { s with activeBuyers := update s.activeBuyers buyerPeerId false } :=
  .of_eq rfl buyerPeerId fun _ other => Function.update_of_ne other _ _

theorem alike_deactivateBuyerForChannel :
    Alike s (s.deactivateBuyerForChannel buyerPeerId channelId) := by
  unfold Manager.deactivateBuyerForChannel
  split
  · exact .of_eq rfl buyerPeerId fun _ other => Function.update_of_ne other _ _
  · split
    · exact .of_eq rfl buyerPeerId fun _ other => Function.update_of_ne other _ _
    · exact .refl

theorem alike_acknowledgeRetainedChannel :
    Alike s (s.acknowledgeRetainedChannel buyerPeerId channelId disconnectMarker) := by
  unfold Manager.acknowledgeRetainedChannel
  split
  · exact .of_eq rfl buyerPeerId fun _ other => Function.update_of_ne other _ _
  · exact .refl

end Alike

/-- The row of a channel taken up again. -/
def recoveredRow (buyerPeerId : PeerId) (payload : SpendingAuthPayload) (cumulativeAmount : Int)
    (onChain : Channel) (now : Nat) : StoredChannel where
  sessionId := payload.channelId
  peerId := buyerPeerId
  buyerEvmAddr := peerIdToAddress buyerPeerId
  authMax := cumulativeAmount
  previousConsumption := onChain.deposit
  deadline := onChain.deadline
  tokensDelivered := onChain.settled
  reservedAt := now
  settledAmount := if onChain.settled > 0 then some onChain.settled else none
  latestSpendingAuthSig := payload.spendingAuthSig
  latestMetadata := payload.metadata

def reservedRow (buyerPeerId : PeerId) (payload : SpendingAuthPayload)
    (cumulativeAmount reserveMaxAmount reserveDeadline : Int) (now : Nat) : StoredChannel where
  sessionId := payload.channelId
  peerId := buyerPeerId
  buyerEvmAddr := peerIdToAddress buyerPeerId
  authMax := cumulativeAmount
  previousConsumption := reserveMaxAmount
  deadline := reserveDeadline
  reservedAt := now
  latestSpendingAuthSig := none
  latestMetadata := payload.metadata

section Acts

variable (C : Contract Manager Wait Reply) (node : Node) (owner : Option PeerId)

inductive Act : Manager → Manager → Prop
  | quiet {s s' : Manager} (alike : Alike s s') : Act s s'
  | storePendingTopUp {s : Manager} (channelId : Hex) (pending : PendingTopUp)
      (works : Works C node owner channelId) : Act s (s.storePendingTopUp channelId pending)
  | deletePendingTopUp {s : Manager} (channelId : Hex) (works : Works C node owner channelId) :
      Act s (s.deletePendingTopUp channelId)
  | blockChannel {s : Manager} (channelId : Hex) (works : Works C node owner channelId) :
      Act s (s.blockChannel channelId)
  | beginClose {s : Manager} (channelId : Hex) (works : Works C node owner channelId)
      (free : s.closingChannels channelId = none) : Act s (s.beginClose channelId)
  | endClose {s : Manager} (tx : CloseTx) (reply : Reply) (heard : Heard C (.close tx) reply) :
      Act s (s.endClose tx.channelId tx.operation (tx.result reply))
  /-- the channel is over, and nothing is kept of it but its row -/
  | retire {s : Manager} (channelId : Hex) (status : ChannelStatus) (settledAmount : Option Int)
      (peerId : Option PeerId) (works : Works C node owner channelId)
      (verdict : Verdict C node channelId status settledAmount) :
      Act s ((s.setStatus channelId status settledAmount).forgetChannel channelId peerId)
  | evict {s : Manager} (channelId : Hex) (peerId : PeerId) (status : ChannelStatus)
      (works : Works C node owner channelId) (verdict : Verdict C node channelId status none) :
      Act s (s.evictStaleChannel channelId peerId status)
  /-- a session without anything accepted is left to its row, which stays active -/
  | forget {s : Manager} (channelId : Hex) (buyerPeerId : PeerId)
      (works : Works C node owner channelId)
      (active : (s.store.getActiveChannelByPeer buyerPeerId).any (·.sessionId = channelId))
      (nothing : (s.acceptedCumulative channelId).getD 0 = 0) :
      Act s (s.forgetChannel channelId (some buyerPeerId))
  | setStatus {s : Manager} (channelId : Hex) (status : ChannelStatus) (settledAmount : Option Int)
      (works : Works C node owner channelId)
      (verdict : Verdict C node channelId status settledAmount) :
      Act s (s.setStatus channelId status settledAmount)
  | restore {s : Manager} (row : StoredChannel) (works : Works C node owner row.sessionId)
      (since : Since C (fun s => row ∈ s.store) s)
      (nothing : (s.acceptedCumulative row.sessionId).getD 0 = 0) :
      Act s (s.restorePersistedSpendingAuth row)
  | recover {s : Manager} (buyerPeerId : PeerId) (payload : SpendingAuthPayload)
      (cumulativeAmount : Int) (onChain : Channel) (own : owner = some buyerPeerId)
      (taken : Was C (TakenUp C buyerPeerId payload none))
      (fits : metadataMatchesHash node payload = true)
      (read : Read C node payload.channelId onChain)
      (active : classifyOnChainChannel onChain = .active)
      (parties : matchesChannelParties node onChain (peerIdToAddress buyerPeerId) = true)
      (verified : verifySpendingAuth buyerPeerId payload cumulativeAmount = some true)
      (settled : onChain.settled ≤ cumulativeAmount)
      (resumed : ∃ reply, C.resumes (.recovering payload.channelId cumulativeAmount onChain) reply s) :
      Act s (s.activateSession (recoveredRow buyerPeerId payload cumulativeAmount onChain s.now)
        buyerPeerId cumulativeAmount onChain.deposit onChain.settled
        (payload.latestAuth cumulativeAmount))
  | reserve {s : Manager} (buyerPeerId : PeerId) (payload : SpendingAuthPayload)
      (cumulativeAmount : Int) (tx : ReserveTx) (now : Nat) (own : owner = some buyerPeerId)
      (taken : Was C (TakenUp C buyerPeerId payload none))
      (named : payload.cumulativeAmount.toBigInt = some cumulativeAmount)
      (reserved : ReservedBy C node buyerPeerId payload tx)
      (resumed : ∃ reply, C.resumes (.reserved payload.channelId) reply s) :
      Act s (s.activateSession
        (reservedRow buyerPeerId payload cumulativeAmount tx.maxAmount tx.deadline now)
        buyerPeerId 0 tx.maxAmount 0 ⟨none, 0, payload.metadata⟩)
  | recordSpendingAuth {s : Manager} (buyerPeerId : PeerId) (payload : SpendingAuthPayload)
      (cumulativeAmount existing : Int) (own : owner = some buyerPeerId)
      (since : Since C (TakenUp C buyerPeerId payload (some existing)) s)
      (fits : metadataMatchesHash node payload = true)
      (named : payload.cumulativeAmount.toBigInt = some cumulativeAmount)
      (verified : verifySpendingAuth buyerPeerId payload cumulativeAmount = some true)
      (more : existing < cumulativeAmount)
      (spent : (s.spent payload.channelId).getD 0 ≤ cumulativeAmount)
      (ceiling : 0 < (s.reserveMax payload.channelId).getD 0 →
        cumulativeAmount ≤ (s.reserveMax payload.channelId).getD 0)
      (resumed : ∃ reply, C.resumes (.checked payload.channelId (some existing)) reply s) :
      Act s (s.recordSpendingAuth payload.channelId (payload.latestAuth cumulativeAmount))
  | recordOneOffAuth {s : Manager} (buyerPeerId : PeerId) (payload : SpendingAuthPayload)
      (cumulativeAmount : Int) (row : StoredChannel) (own : owner = some buyerPeerId)
      (found : s.store.getChannel payload.channelId = some row) (peer : row.peerId = buyerPeerId)
      (oneOff : s.oneOffChannelIds payload.channelId = true)
      (fits : metadataMatchesHash node payload = true)
      (verified : verifySpendingAuth buyerPeerId payload cumulativeAmount = some true)
      (more : (s.acceptedCumulative payload.channelId).getD 0 < cumulativeAmount)
      (spent : (s.spent payload.channelId).getD 0 ≤ cumulativeAmount)
      (ceiling : cumulativeAmount ≤ (s.reserveMax payload.channelId).getD 0) :
      Act s (s.recordSpendingAuth payload.channelId (payload.latestAuth cumulativeAmount))
  | recordTopUp {s : Manager} (channelId : Hex) (params : SettleParams) (pending : PendingTopUp)
      (works : Works C node owner channelId)
      (through : WentThrough C (.topUp channelId params pending)) :
      Act s (s.recordTopUp channelId pending.newMaxAmount pending.deadline)
  | adopt {s : Manager} (row : StoredChannel) (auth : CloseAuth) (amount : Int)
      (serves : Serves owner row.peerId)
      (since : Since C (fun s => row ∈ s.store ∧ row.channelKind = .paid) s)
      (reads : readCloseAuth node auth = some amount)
      (verified : verifyCloseAuth row auth amount = true)
      (resumed : ∃ reply, C.resumes (.closeAuth row.sessionId amount) reply s) :
      Act s (s.adoptBuyerCloseAuth row.sessionId ⟨auth.spendingAuthSig, amount, auth.metadata⟩)
  | reconcileSpent {s : Manager} (channelId : Hex) (onChain : Channel) (own : owner = none)
      (read : Read C node channelId onChain) : Act s (s.reconcileSpent channelId onChain.settled)
  /-- a plan is taken up -/
  | agree {s : Manager} (buyerPeerId : PeerId) (requestId : String) (own : owner = some buyerPeerId) :
      Act s { s with
        pendingOneOffPlans := update s.pendingOneOffPlans (buyerPeerId, requestId) none }
  /-- the opening reserve is recorded before its top-up -/
  | recordOpening {s : Manager} (buyerPeerId : PeerId) (payload : SpendingAuthPayload)
      (requestId : String) (plan : PendingOneOffPlan) (terms : OneOffTerms) (tx : ReserveTx) (now : Nat)
      (own : owner = some buyerPeerId)
      (agreed : Agreed C node buyerPeerId payload requestId plan tx.deadline terms)
      (reserved : ReservedBy C node buyerPeerId payload tx)
      (amount : tx.maxAmount = plan.openingReserveAmount) (request : tx.oneOffRequestId = some requestId) :
      Act s { s with store := s.store.upsertChannel (oneOffRow buyerPeerId payload requestId
        ⟨none, 0, payload.metadata⟩ plan.openingReserveAmount tx.deadline now) }
  | activateOneOff {s : Manager} (buyerPeerId : PeerId) (payload : SpendingAuthPayload)
      (requestId : String) (plan : PendingOneOffPlan) (terms : OneOffTerms) (tx : ReserveTx) (now : Nat)
      (own : owner = some buyerPeerId)
      (agreed : Agreed C node buyerPeerId payload requestId plan tx.deadline terms)
      (reserved : ReservedBy C node buyerPeerId payload tx)
      (amount : tx.maxAmount = plan.openingReserveAmount) (request : tx.oneOffRequestId = some requestId)
      (through : ∀ pending ∈ terms.topUp,
        ∃ params, WentThrough C (.topUp payload.channelId params pending)) :
      Act s (s.activateOneOff (oneOffRow buyerPeerId payload requestId terms.latestAuth
        terms.finalReserve terms.finalDeadline now) terms.latestAuth)
  | trackUntopped {s : Manager} (buyerPeerId : PeerId) (payload : SpendingAuthPayload)
      (requestId : String) (plan : PendingOneOffPlan) (terms : OneOffTerms) (tx : ReserveTx)
      (own : owner = some buyerPeerId)
      (agreed : Agreed C node buyerPeerId payload requestId plan tx.deadline terms)
      (reserved : ReservedBy C node buyerPeerId payload tx)
      (amount : tx.maxAmount = plan.openingReserveAmount) (request : tx.oneOffRequestId = some requestId) :
      Act s (s.trackUntopped payload.channelId plan.openingReserveAmount)
  /-- an active one-off row is in its set -/
  | keepOneOff {s : Manager} (row : StoredChannel) (own : owner = none)
      (was : Was C fun s => row ∈ s.store ∧ row.channelKind = .oneOff) :
      Act s { s with oneOffChannelIds := update s.oneOffChannelIds row.sessionId true }
  | elapse {s : Manager} (ms : Nat) (own : owner = none) : Act s { s with now := s.now + ms }

/-- What needs no reason to wait for. -/
def Wait.isPlain : Wait → Bool
  | .close _ => false
  | .reserve _ => false
  | _ => true

/-- The contract lets its owner do every act, and wait for whatever there is a reason to wait for. -/
structure Permits : Prop where
  lawful : C.Lawful
  acts : ∀ {s s'}, C.invariant s → Act C node owner s s' → C.invariant s' ∧ C.allows s s'
  asks : ∀ {label since s}, label.isPlain = true → C.asks label since s
  closes : ∀ {since s : Manager} (tx : CloseTx), C.invariant s → C.allows since s →
    s.closingChannels tx.channelId = none → tx.operation = s.closes →
    (∀ buyerPeerId ∈ tx.requester, OnRequest C node owner tx buyerPeerId s) →
    C.asks (.close tx) since (s.beginClose tx.channelId)
  reserves : ∀ {since s} (tx : ReserveTx), C.invariant s → C.allows since s →
    Reserves C node owner tx → C.asks (.reserve tx) since s

end Acts

/-! ## Contracts that promise less

Reasons by a contract are reasons by any that promises no more than it.
-/

/-- Whatever the second contract promises, the first does. -/
structure Implies (C C' : Contract Manager Wait Reply) : Prop where
  invariant : ∀ {s}, C.invariant s → C'.invariant s
  lasts : ∀ {s s'}, C.lasts s s' → C'.lasts s s'
  resumes : ∀ {label reply s}, C.resumes label reply s → C'.resumes label reply s

variable {C C' : Contract Manager Wait Reply} {node : Node} {owner : Option PeerId} {s s' : Manager}
  {channelId : Hex} {label : Wait} {reply : Reply} {buyerPeerId : PeerId} {payload : SpendingAuthPayload}
  (implies : Implies C C')

include implies

theorem Heard.mono (heard : Heard C label reply) : Heard C' label reply := by
  obtain ⟨s, holds, resumes⟩ := heard
  exact ⟨s, implies.invariant holds, implies.resumes resumes⟩

theorem Was.mono {P P' : Manager → Prop} (was : Was C P) (weaker : ∀ s, P s → P' s) : Was C' P' := by
  obtain ⟨s, holds, so⟩ := was
  exact ⟨s, implies.invariant holds, weaker s so⟩

theorem Since.mono {P P' : Manager → Prop} (since : Since C P s) (weaker : ∀ s, P s → P' s) :
    Since C' P' s := by
  obtain ⟨s₀, holds, so, lasts⟩ := since
  exact ⟨s₀, implies.invariant holds, weaker s₀ so, implies.lasts lasts⟩

theorem Read.mono {onChain : Channel} (read : Read C node channelId onChain) :
    Read C' node channelId onChain := by
  obtain ⟨id, reply, reads, answered, stored, heard⟩ := read.heard
  exact ⟨id, reply, reads, answered, stored, heard.mono implies⟩

theorem WentThrough.mono (through : WentThrough C label) : WentThrough C' label := by
  obtain ⟨reply, answered, heard⟩ := through
  exact ⟨reply, answered, heard.mono implies⟩

theorem TakenUp.mono {existing : Option Int} (taken : TakenUp C buyerPeerId payload existing s) :
    TakenUp C' buyerPeerId payload existing s := by
  obtain ⟨accepted, reply, resumes⟩ := taken
  exact ⟨accepted, reply, implies.resumes resumes⟩

theorem Works.mono (works : Works C node owner channelId) : Works C' node owner channelId := by
  cases works with
  | seller own => exact .seller own
  | row row was serves named => exact .row row (was.mono implies fun _ so => so) serves named
  | signed buyerPeerId payload existing own taken passes named =>
    exact .signed buyerPeerId payload existing own
      (taken.mono implies fun _ taken => taken.mono implies) passes named
  | belongs buyerPeerId own belongs => exact .belongs buyerPeerId own belongs

theorem Closed.mono {amount : Int} (closed : Closed C channelId amount) : Closed C' channelId amount := by
  cases closed with
  | own tx reply heard named result => exact .own tx reply (heard.mono implies) named result
  | joined operation joined result =>
    exact .joined operation (joined.mono implies fun _ so => so) (result.mono implies fun _ so => so)

theorem Verdict.mono {status : ChannelStatus} {settledAmount : Option Int}
    (verdict : Verdict C node channelId status settledAmount) :
    Verdict C' node channelId status settledAmount := by
  cases verdict with
  | closed amount closed => exact .closed amount (closed.mono implies)
  | closedAway amount closed => exact .closedAway amount (closed.mono implies)
  | notOpen onChain read gone => exact .notOpen onChain (read.mono implies) gone
  | notOurs row onChain read was named other =>
    exact .notOurs row onChain (read.mono implies) (was.mono implies fun _ so => so) named other
  | givenUp => exact .givenUp
  | readSettled onChain read settled => exact .readSettled onChain (read.mono implies) settled
  | readTimeout onChain read timeout => exact .readTimeout onChain (read.mono implies) timeout
  | readMissing onChain read missing => exact .readMissing onChain (read.mono implies) missing

theorem Agreed.mono {requestId : String} {plan : PendingOneOffPlan} {reserveDeadline : Int}
    {terms : OneOffTerms} (agreed : Agreed C node buyerPeerId payload requestId plan reserveDeadline terms) :
    Agreed C' node buyerPeerId payload requestId plan reserveDeadline terms :=
  { agreed with was := agreed.was.mono implies fun _ so => so }

theorem ReservedBy.mono {tx : ReserveTx} (reserved : ReservedBy C node buyerPeerId payload tx) :
    ReservedBy C' node buyerPeerId payload tx :=
  { reserved with through := reserved.through.mono implies }

theorem Act.mono (act : Act C node owner s s') : Act C' node owner s s' := by
  cases act with
  | quiet alike => exact .quiet alike
  | storePendingTopUp channelId pending works =>
    exact .storePendingTopUp channelId pending (works.mono implies)
  | deletePendingTopUp channelId works => exact .deletePendingTopUp channelId (works.mono implies)
  | blockChannel channelId works => exact .blockChannel channelId (works.mono implies)
  | beginClose channelId works free => exact .beginClose channelId (works.mono implies) free
  | endClose tx reply heard => exact .endClose tx reply (heard.mono implies)
  | retire channelId status settledAmount peerId works verdict =>
    exact .retire channelId status settledAmount peerId (works.mono implies) (verdict.mono implies)
  | evict channelId peerId status works verdict =>
    exact .evict channelId peerId status (works.mono implies) (verdict.mono implies)
  | forget channelId buyerPeerId works active nothing =>
    exact .forget channelId buyerPeerId (works.mono implies) active nothing
  | setStatus channelId status settledAmount works verdict =>
    exact .setStatus channelId status settledAmount (works.mono implies) (verdict.mono implies)
  | restore row works since nothing =>
    exact .restore row (works.mono implies) (since.mono implies fun _ so => so) nothing
  | recover buyerPeerId payload cumulativeAmount onChain own taken fits read active parties verified
      settled resumed =>
      obtain ⟨reply, resumes⟩ := resumed
      exact .recover buyerPeerId payload cumulativeAmount onChain own
        (taken.mono implies fun _ taken => taken.mono implies) fits (read.mono implies) active parties
        verified settled ⟨reply, implies.resumes resumes⟩
  | reserve buyerPeerId payload cumulativeAmount tx now own taken named reserved resumed =>
    obtain ⟨reply, resumes⟩ := resumed
    exact .reserve buyerPeerId payload cumulativeAmount tx now own
      (taken.mono implies fun _ taken => taken.mono implies) named (reserved.mono implies)
      ⟨reply, implies.resumes resumes⟩
  | recordSpendingAuth buyerPeerId payload cumulativeAmount existing own since fits named verified more
      spent ceiling resumed =>
      obtain ⟨reply, resumes⟩ := resumed
      exact .recordSpendingAuth buyerPeerId payload cumulativeAmount existing own
        (since.mono implies fun _ taken => taken.mono implies) fits named verified more spent ceiling
        ⟨reply, implies.resumes resumes⟩
  | recordOneOffAuth buyerPeerId payload cumulativeAmount row own found peer oneOff fits verified more
      spent ceiling =>
      exact .recordOneOffAuth buyerPeerId payload cumulativeAmount row own found peer oneOff fits verified
        more spent ceiling
  | recordTopUp channelId params pending works through =>
    exact .recordTopUp channelId params pending (works.mono implies) (through.mono implies)
  | adopt row auth amount serves since reads verified resumed =>
    obtain ⟨reply, resumes⟩ := resumed
    exact .adopt row auth amount serves (since.mono implies fun _ so => so) reads verified
      ⟨reply, implies.resumes resumes⟩
  | reconcileSpent channelId onChain own read =>
    exact .reconcileSpent channelId onChain own (read.mono implies)
  | agree buyerPeerId requestId own => exact .agree buyerPeerId requestId own
  | recordOpening buyerPeerId payload requestId plan terms tx now own agreed reserved amount request =>
    exact .recordOpening buyerPeerId payload requestId plan terms tx now own (agreed.mono implies)
      (reserved.mono implies) amount request
  | activateOneOff buyerPeerId payload requestId plan terms tx now own agreed reserved amount request through =>
    refine .activateOneOff buyerPeerId payload requestId plan terms tx now own (agreed.mono implies)
      (reserved.mono implies) amount request fun pending asked => ?_
    obtain ⟨params, topUp⟩ := through pending asked
    exact ⟨params, topUp.mono implies⟩
  | trackUntopped buyerPeerId payload requestId plan terms tx own agreed reserved amount request =>
    exact .trackUntopped buyerPeerId payload requestId plan terms tx own (agreed.mono implies)
      (reserved.mono implies) amount request
  | keepOneOff row own was => exact .keepOneOff row own (was.mono implies fun _ so => so)
  | elapse ms own => exact .elapse ms own

end AntSeed.Seller
