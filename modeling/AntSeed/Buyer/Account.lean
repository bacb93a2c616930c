import Mathlib.Order.Lattice

/-! # BuyerPaymentManager: what it keeps of a seller

Every map of the manager is keyed by the seller, and what is done for one seller
leaves the entries of the others alone. So the model keeps the entries of one
seller, its active row in the store, and the messages that went out to it.

Usage metadata is signed and stored along with every amount, but no amount
depends on it; it is left out, and so are the listeners that only report.
-/

namespace AntSeed.Buyer

structure BuyerPaymentConfig where
  maxPerRequestUsdc : Int
  maxReserveAmountUsdc : Int
  defaultAuthDurationSecs : Int
  /-- `BigInt(Math.ceil(Number(estimate) * costTolerance))`, however the product is rounded -/
  tolerated : Int → Int

/-- The most that is accepted where the buyer estimates a cost; a video is paid by its exact price. -/
def BuyerPaymentConfig.maxAcceptable (config : BuyerPaymentConfig) (isVideo : Bool) (buyerEstimate : Int) : Int :=
  if isVideo then buyerEstimate else config.tolerated buyerEstimate

/-- What a signature of the buyer's wallet is over. -/
inductive Signed where
  | spendingAuth (channelId : String) (cumulativeAmount : Int)
  | reserveAuth (channelId : String) (maxAmount deadline : Int)
  deriving DecidableEq, Repr

/-- A row of the channel store; an amount stands for the number its string writes. -/
structure StoredChannel where
  sessionId : String
  authMax : Int
  latestSpendingAuthSig : Option Signed := none
  reserveSalt : Option String := none
  initialReserveAmount : Option Int := none
  reserveMaxAmount : Option Int := none
  latestReserveAuthSig : Option Signed := none
  latestReserveDeadline : Option Int := none
  reserveAuthPending : Option Bool := none
  confirmedReserveAmount : Option Int := none
  deriving DecidableEq, Repr

structure PendingReserveAuthorization where
  signature : Signed
  salt : String
  maxAmount : Int
  deadline : Int
  confirmedAmount : Int
  deriving DecidableEq, Repr

/-- A message to the seller. A close request may bring a SpendingAuth along. -/
inductive Frame where
  | spendingAuth (channelId : String) (cumulativeAmount : Int) (sig : Signed)
  | reserveAuth (channelId : String) (cumulativeAmount : Int) (pending : PendingReserveAuthorization)
  | closeRequest (channelId : String) (auth : Option (Int × Signed))
  deriving DecidableEq, Repr

/-- The cumulative amount a message names. -/
def Frame.amount : Frame → Option Int
  | .spendingAuth _ cumulativeAmount _ => some cumulativeAmount
  | .reserveAuth _ cumulativeAmount _ => some cumulativeAmount
  | .closeRequest _ auth => auth.map (·.1)

def Frame.signedAmount : Frame → Option Int
  | .spendingAuth _ cumulativeAmount _ => some cumulativeAmount
  | .reserveAuth _ _ _ => none
  | .closeRequest _ auth => auth.map (·.1)

/-- Requests by id, the oldest first, with the part of their cost that is not signed yet. -/
abbrev CountedRequestTracker := List (String × Int)

namespace CountedRequestTracker

variable (tracker : CountedRequestTracker)

def limit : Nat := 512

variable (requestId : Option String)

def has : Bool :=
  requestId.any fun id => tracker.any (·.1 = id)

def unpaid : Int :=
  (requestId.bind fun id => if id = "" then none else tracker.lookup id).getD 0

/-- `Map.set`: a key that is there keeps its place. -/
def set (id : String) (amount : Int) : CountedRequestTracker :=
  if tracker.any (·.1 = id) then tracker.map fun entry => if entry.1 = id then (id, amount) else entry
  else tracker ++ [(id, amount)]

/-- `trimOldestMapEntry` -/
def trim : CountedRequestTracker :=
  if tracker.length < limit then tracker else tracker.tail

def mark (unpaidAmount : Int) : CountedRequestTracker :=
  match requestId with
  | none => tracker
  | some id => if id = "" then tracker else tracker.trim.set id (max unpaidAmount 0)

/-- `amount` of the unpaid cost has now been signed. -/
def pay (amount : Int) : CountedRequestTracker :=
  match requestId with
  | none => tracker
  | some id =>
    if id = "" ∨ amount ≤ 0 then tracker
    else
      match tracker.lookup id with
      | none => tracker
      | some remaining => tracker.set id (max (remaining - amount) 0)

end CountedRequestTracker

structure Account where
  /-- the seller's active channel, as the store has it -/
  session : Option StoredChannel
  cumulativeAmount : Option Int := none
  verifiedCost : Option Int := none
  currentReserveCeiling : Option Int := none
  initialReserveAmount : Option Int := none
  reserveSalt : Option String := none
  pendingReserveAuth : Option PendingReserveAuthorization := none
  serviceTokensCounted : CountedRequestTracker := []
  /-- seconds -/
  now : Int := 0
  /-- what went out to the seller, the latest first -/
  sent : List Frame := []
  /-- the largest deposit a read of the chain has shown -/
  depositSeen : Int := 0

namespace Account

variable (config : BuyerPaymentConfig) (s : Account)

/-- `_getCeiling` -/
def ceiling : Int := s.currentReserveCeiling.getD config.maxReserveAmountUsdc

def authDeadline : Int := s.now + config.defaultAuthDurationSecs

def maxSignableForVerified (verified : Int) : Int :=
  min (verified + config.maxPerRequestUsdc) (s.ceiling config)

def needsTopUp : Bool :=
  let ceiling := s.ceiling config
  let initialReserve := s.initialReserveAmount.getD config.maxReserveAmountUsdc
  let threshold := if ceiling ≤ initialReserve then (initialReserve * 35).tdiv 100 else 500000
  max (ceiling - s.cumulativeAmount.getD 0) 0 ≤ threshold

/-- What may be signed, and the verified cost that goes with it. -/
structure Window where
  maxSignable : Int
  verifiedCost : Int

def reopenOverdraftWindowIfCollapsed (currentCumulative maxSignable verifiedCost : Int) : Window :=
  if maxSignable > currentCumulative ∨ currentCumulative ≤ verifiedCost then
    ⟨maxSignable, verifiedCost⟩
  else ⟨s.maxSignableForVerified config currentCumulative, currentCumulative⟩

def needsCeilingAdvance (requestedAmount maxSignable : Int) : Bool :=
  requestedAmount > maxSignable ∧ maxSignable ≥ s.ceiling config

/-- The reserve of a row that counts as confirmed, if the row says anything of reserves. -/
def confirmedReserve (channel : StoredChannel) : Option Int :=
  if channel.confirmedReserveAmount.isSome ∨ channel.reserveMaxAmount.isSome
      ∨ channel.reserveAuthPending.isSome then
    match channel.confirmedReserveAmount, channel.reserveMaxAmount with
    | some confirmed, _ => some confirmed
    | none, some maxAmount => some (if channel.reserveAuthPending = some true then 0 else maxAmount)
    | none, none => some 0
  else none

/-- The ReserveAuth of a row that still waits to be confirmed. -/
def storedReserveAuth (channel : StoredChannel) : Option PendingReserveAuthorization :=
  match channel.latestReserveAuthSig, channel.reserveSalt, channel.reserveMaxAmount,
      channel.latestReserveDeadline with
  | some signature, some salt, some maxAmount, some deadline =>
    if channel.reserveAuthPending = some true then
      some ⟨signature, salt, maxAmount, deadline, (confirmedReserve channel).getD 0⟩
    else none
  | _, _, _, _ => none

/-- `_hydrateFromStore`: a manager over the row an earlier one left. -/
def hydrate (session : Option StoredChannel) : Account where
  session := session
  cumulativeAmount := session.map (·.authMax)
  verifiedCost := session.map (·.authMax)
  currentReserveCeiling := session.bind confirmedReserve
  initialReserveAmount := session.bind (·.initialReserveAmount)
  reserveSalt := session.bind (·.reserveSalt)
  pendingReserveAuth := session.bind storedReserveAuth

/-- `authorizeSpending`, once its ReserveAuth is stored and sent. -/
def opened (channelId salt : String) (maxAmount deadline now : Int) : Account :=
  let signature := Signed.reserveAuth channelId maxAmount deadline
  let pending : PendingReserveAuthorization := ⟨signature, salt, maxAmount, deadline, 0⟩
  { session := some
      { sessionId := channelId
        authMax := 0
        reserveSalt := some salt
        initialReserveAmount := some maxAmount
        reserveMaxAmount := some maxAmount
        latestReserveAuthSig := some signature
        latestReserveDeadline := some deadline
        reserveAuthPending := some true
        confirmedReserveAmount := some 0 }
    cumulativeAmount := some 0
    verifiedCost := some 0
    currentReserveCeiling := some maxAmount
    initialReserveAmount := some maxAmount
    reserveSalt := some salt
    pendingReserveAuth := some pending
    now := now
    sent := [.reserveAuth channelId 0 pending] }

/-- How a process comes by a channel: it opens it, or finds it in the store. -/
inductive Begins : Account → Prop where
  | opened (channelId salt : String) (maxAmount deadline now : Int) :
      Begins (opened channelId salt maxAmount deadline now)
  | loaded (channel : StoredChannel) : Begins (hydrate (some channel))

/-- The process ends, and a new one starts from the store. -/
def restart : Account :=
  { hydrate s.session with now := s.now, sent := s.sent, depositSeen := s.depositSeen }

end Account

end AntSeed.Buyer
