import AntSeed.Lib.Erc20
import AntSeed.Lib.Machine

/-! # AntseedDeposits

Buyer USDC custody. A buyer's `balance` is what the contract holds for it and
`reserved` the part locked by open channels; only the Channels contract may
lock, charge and release.

The registry pointers are fixed, so the two contract addresses are parameters of
the deployment. Signatures are ideal: a `Signature` value names its signer and
its message, and a check accepts it only if that signer has really signed that
message (`State.signed` records who signed what so far).
-/

namespace AntSeed.Payments

open Evm Function

/-- Errors of AntseedDeposits and AntseedChannels; the shared ones have one selector. -/
inductive Error where
  | notAuthorized | invalidAmount | invalidAddress | insufficientBalance | belowMinDeposit
  | creditLimitExceeded | invalidSignature | invalidNonce | operatorAlreadySet
  | channelExists | channelNotActive | channelExpired | invalidFee | firstSignCapExceeded
  | sellerNotStaked | finalAmountBelowSettled | closeNotReady | closeAlreadyRequested
  | topUpThresholdNotMet | topUpAmountTooLow
  | enforcedPause | expectedPause | ownableUnauthorizedAccount
  deriving DecidableEq, Repr

/-- The typed messages a buyer signs. -/
inductive Auth where
  | spendingAuth (channelId : Word) (cumulativeAmount : Nat) (metadataHash : Word)
  | reserveAuth (channelId : Word) (maxAmount : Nat) (deadline : Nat)
  | setOperator (operator : Address) (nonce : Nat)
  deriving DecidableEq, Repr

structure Signature where
  signer : Address
  message : Auth
  deriving DecidableEq, Repr

structure BuyerAccount where
  balance : Nat
  reserved : Nat
  lastActivityAt : Nat
  firstChannelAt : Nat
  operator : Address
  operatorNonce : Nat

instance : Inhabited BuyerAccount := ⟨⟨0, 0, 0, 0, 0, 0⟩⟩

structure Deposits where
  minBuyerDeposit : Nat := 1000000
  baseCreditLimit : Nat := 10000000
  peerInteractionBonus : Nat := 5000000
  timeBonus : Nat := 500000
  maxCreditLimit : Nat := 50000000
  buyers : Address → BuyerAccount := fun _ => default
  creditLimitOverride : Address → Nat := fun _ => 0
  uniqueSellersCharged : Address → Nat := fun _ => 0
  buyerSellerPairs : Address → Address → Bool := fun _ _ => false
  owner : Address

/-- What does not change while the pair runs: the registry pointers and the hashes. -/
structure Deployment where
  deposits : Address
  channels : Address
  owner : Address
  keccak256 : List UInt8 → Word
  computeChannelId : Address → Address → Word → Word

namespace Deposits

section

variable (d : Deposits)

def setBuyer (buyer : Address) (account : BuyerAccount) : Deposits :=
  { d with buyers := update d.buyers buyer account }

@[simp] theorem setBuyer_buyers (buyer : Address) (account : BuyerAccount) :
    (d.setBuyer buyer account).buyers = update d.buyers buyer account := rfl

def oneDay : Nat := 86400

def getBuyerCreditLimit (now : Nat) (buyer : Address) : Tx Error Nat :=
  if d.creditLimitOverride buyer > 0 then pure (d.creditLimitOverride buyer)
  else do
    let ba := d.buyers buyer
    let sinceFirst ← (if ba.firstChannelAt > 0 then sub now ba.firstChannelAt else pure 0)
    let bonus ← uint 256 (d.peerInteractionBonus * d.uniqueSellersCharged buyer)
    let earned ← uint 256 (d.timeBonus * (sinceFirst / oneDay))
    let partialLimit ← uint 256 (d.baseCreditLimit + bonus)
    let limit ← uint 256 (partialLimit + earned)
    pure (if limit > d.maxCreditLimit then d.maxCreditLimit else limit)

section

variable (r : Deployment)

/-- `deposit`: USDC is pulled from the caller and credited to `buyer`. -/
def deposit (d : Deposits) (usdc : Erc20) (now : Nat) (sender buyer : Address)
    (amount : Nat) : Tx Error (Deposits × Erc20) := do
  require (amount ≠ 0) .invalidAmount
  let ba := d.buyers buyer
  require (¬ (ba.balance = 0 ∧ amount < d.minBuyerDeposit)) .belowMinDeposit
  let newBalance ← uint 256 (ba.balance + amount)
  let limit ← d.getBuyerCreditLimit now buyer
  require (newBalance ≤ limit) .creditLimitExceeded
  let usdc ← usdc.transferFrom r.deposits sender r.deposits amount
  pure (d.setBuyer buyer { ba with balance := newBalance, lastActivityAt := now }, usdc)

/-- `withdraw`: the operator takes available USDC out. -/
def withdraw (d : Deposits) (usdc : Erc20) (sender buyer : Address)
    (amount : Nat) : Tx Error (Deposits × Erc20) := do
  require (amount ≠ 0) .invalidAmount
  let ba := d.buyers buyer
  require (sender = ba.operator) .notAuthorized
  let available ← sub ba.balance ba.reserved
  require (amount ≤ available) .insufficientBalance
  let newBalance ← sub ba.balance amount
  let usdc ← usdc.transfer r.deposits sender amount
  pure (d.setBuyer buyer { ba with balance := newBalance }, usdc)

def lockForChannel (d : Deposits) (now : Nat) (sender buyer : Address)
    (amount : Nat) : Tx Error Deposits := do
  require (sender = r.channels) .notAuthorized
  let ba := d.buyers buyer
  let available ← sub ba.balance ba.reserved
  require (amount ≤ available) .insufficientBalance
  let reserved ← uint 256 (ba.reserved + amount)
  pure (d.setBuyer buyer { ba with
    reserved := reserved
    lastActivityAt := now
    firstChannelAt := if ba.firstChannelAt = 0 then now else ba.firstChannelAt })

/-- `if (amount > 0) usdc.safeTransfer(target, amount);` out of custody. -/
def payout (usdc : Erc20) (target : Address) (amount : Nat) : Tx Error Erc20 :=
  if amount > 0 then usdc.transfer r.deposits target amount else pure usdc

/-- Count a seller the first time it charges a buyer. -/
def recordPair (buyer seller : Address) : Tx Error Deposits :=
  if d.buyerSellerPairs buyer seller then pure d
  else do
    let count ← uint 256 (d.uniqueSellersCharged buyer + 1)
    pure { d with
      buyerSellerPairs := update d.buyerSellerPairs buyer
        (update (d.buyerSellerPairs buyer) seller true)
      uniqueSellersCharged := update d.uniqueSellersCharged buyer count }

def chargeAndCreditPayouts (d : Deposits) (usdc : Erc20) (now : Nat)
    (protocolReserve sender buyer seller : Address) (amount platformFee : Nat) :
    Tx Error (Deposits × Erc20) := do
  require (sender = r.channels) .notAuthorized
  require (platformFee ≤ amount) .invalidAmount
  let ba := d.buyers buyer
  let balance ← sub ba.balance amount
  let reserved ← sub ba.reserved amount
  let d := d.setBuyer buyer { ba with
    balance := balance, reserved := reserved, lastActivityAt := now }
  let fee := if protocolReserve = 0 then 0 else platformFee
  let sellerPayout ← sub amount fee
  let d ← d.recordPair buyer seller
  let usdc ← payout r usdc protocolReserve fee
  let usdc ← payout r usdc seller sellerPayout
  pure (d, usdc)

def releaseLock (d : Deposits) (sender buyer : Address) (amount : Nat) :
    Tx Error Deposits := do
  require (sender = r.channels) .notAuthorized
  let ba := d.buyers buyer
  let reserved ← sub ba.reserved amount
  pure (d.setBuyer buyer { ba with reserved := reserved })

end

/-- `ECDSA.recover(digest, sig) == signer` for ideal signatures. -/
def verifySignature (signed : List Signature) (message : Auth) (signature : Signature)
    (signer : Address) : Tx Error Unit :=
  require (signature ∈ signed ∧ signature.message = message ∧ signature.signer = signer)
    .invalidSignature

def setOperator (signed : List Signature) (buyer operator : Address) (nonce : Nat)
    (buyerSig : Signature) : Tx Error Deposits := do
  require (¬ (buyer = 0 ∨ operator = 0)) .invalidAddress
  let ba := d.buyers buyer
  require (ba.operator = 0) .operatorAlreadySet
  require (nonce = ba.operatorNonce) .invalidNonce
  verifySignature signed (.setOperator operator nonce) buyerSig buyer
  let next ← uint 256 (ba.operatorNonce + 1)
  pure (d.setBuyer buyer { ba with operator := operator, operatorNonce := next })

def transferOperator (sender buyer newOperator : Address) : Tx Error Deposits := do
  let ba := d.buyers buyer
  require (sender = ba.operator) .notAuthorized
  pure (d.setBuyer buyer { ba with operator := newOperator })

/-- The owner's setters. -/
inductive Setting where
  | creditLimitOverride (buyer : Address) (limit : Nat)
  | minBuyerDeposit (value : Nat)
  | baseCreditLimit (value : Nat)
  | peerInteractionBonus (value : Nat)
  | timeBonus (value : Nat)
  | maxCreditLimit (value : Nat)

def set (sender : Address) (setting : Setting) : Tx Error Deposits := do
  require (sender = d.owner) .ownableUnauthorizedAccount
  match setting with
  | .creditLimitOverride buyer limit =>
    pure { d with creditLimitOverride := update d.creditLimitOverride buyer limit }
  | .minBuyerDeposit value => pure { d with minBuyerDeposit := value }
  | .baseCreditLimit value => pure { d with baseCreditLimit := value }
  | .peerInteractionBonus value => pure { d with peerInteractionBonus := value }
  | .timeBonus value => pure { d with timeBonus := value }
  | .maxCreditLimit value => pure { d with maxCreditLimit := value }

end

theorem signed_of_verified {signed : List Signature} {message : Auth} {signature : Signature}
    {signer : Address}
    (h : signature ∈ signed ∧ signature.message = message ∧ signature.signer = signer) :
    ⟨signer, message⟩ ∈ signed := by
  obtain ⟨member, rfl, rfl⟩ := h
  exact member

theorem recordPair_buyers {d d' : Deposits} {buyer seller : Address}
    (h : d.recordPair buyer seller = .ok d') : d'.buyers = d.buyers := by
  unfold recordPair at h
  split at h
  · cases h
    rfl
  · obtain ⟨count, -, h⟩ := ran h
    cases h
    rfl

theorem set_buyers {d d' : Deposits} {sender : Address} {setting : Setting}
    (h : d.set sender setting = .ok d') : d'.buyers = d.buyers := by
  obtain ⟨-, -, h⟩ := ran h
  cases setting <;> cases h <;> rfl

end Deposits

end AntSeed.Payments
