import AntSeed.Lib.Abi
import AntSeed.Lib.Machine

/-! # AntseedFreeUsage

Channels for usage that is not charged. The buyer signs when a channel is opened
and then every state of its usage, with a sequence number and metadata that the
contract does not read; the seller submits what was signed. The metadata is
forwarded to AntseedStats, which keeps cumulative counters, if that contract has
made the sender a writer.

Signatures are ideal: a check accepts one only if its signer has signed its
message. Staking and the registry are outside contracts, so every call carries
their answers.
-/

namespace AntSeed.FreeUsage

open Evm Function

inductive Error where
  | invalidAddress | invalidAmount | invalidSignature | channelExists | channelNotActive
  | channelExpired | notAuthorized | sellerNotStaked
  | enforcedPause | expectedPause | ownableUnauthorizedAccount | ownableInvalidOwner
  deriving DecidableEq, Repr

structure ChannelMetadataSnapshot where
  inputTokens : Nat := 0
  outputTokens : Nat := 0
  requestCount : Nat := 0
  deriving DecidableEq, Repr

structure BuyerMetadataStats where
  totalInputTokens : Nat := 0
  totalOutputTokens : Nat := 0
  totalRequestCount : Nat := 0
  lastUpdatedAt : Nat := 0
  deriving DecidableEq, Repr

structure AntseedStats where
  owner : Address
  writers : Address → Bool := fun _ => false
  buyerMetadataStats : Word → Address → BuyerMetadataStats := fun _ _ => {}
  channelSnapshots : Word → ChannelMetadataSnapshot := fun _ => {}

namespace AntseedStats

/-- `abi.decode(metadata, (uint256, uint256, uint256, uint256))`, less the first word. -/
def decodeMetadata (metadata : List UInt8) : Tx Error (Nat × Nat × Nat) := do
  Abi.requireWords metadata 4
  pure (Abi.wordAt metadata 1, Abi.wordAt metadata 2, Abi.wordAt metadata 3)

def recordMetadata (s : AntseedStats) (now : Nat) (sender : Address) (agentId : Word)
    (buyer : Address) (channelId : Word) (metadata : List UInt8) : Tx Error AntseedStats := do
  require (s.writers sender = true) .notAuthorized
  require (buyer ≠ 0) .invalidAddress
  let (cumulativeInputTokens, cumulativeOutputTokens, cumulativeRequestCount) ← decodeMetadata metadata
  let snapshot := s.channelSnapshots channelId
  if cumulativeInputTokens < snapshot.inputTokens ∨ cumulativeOutputTokens < snapshot.outputTokens ∨
      cumulativeRequestCount < snapshot.requestCount then
    pure s
  else do
    let inputDelta ← sub cumulativeInputTokens snapshot.inputTokens
    let outputDelta ← sub cumulativeOutputTokens snapshot.outputTokens
    let requestDelta ← sub cumulativeRequestCount snapshot.requestCount
    let stats := s.buyerMetadataStats agentId buyer
    let totalInputTokens ← uint 256 (stats.totalInputTokens + inputDelta)
    let totalOutputTokens ← uint 256 (stats.totalOutputTokens + outputDelta)
    let totalRequestCount ← uint 256 (stats.totalRequestCount + requestDelta)
    pure { s with
      channelSnapshots := update s.channelSnapshots channelId
        ⟨cumulativeInputTokens, cumulativeOutputTokens, cumulativeRequestCount⟩
      buyerMetadataStats := update s.buyerMetadataStats agentId
        (update (s.buyerMetadataStats agentId) buyer
          ⟨totalInputTokens, totalOutputTokens, totalRequestCount, now % 2 ^ 64⟩) }

def setWriter (s : AntseedStats) (sender writer : Address) (allowed : Bool) :
    Tx Error AntseedStats := do
  require (sender = s.owner) .ownableUnauthorizedAccount
  require (writer ≠ 0) .invalidAddress
  pure { s with writers := update s.writers writer allowed }

end AntseedStats

/-- The typed messages a buyer signs. -/
inductive Auth where
  | freeUsageOpen (channelId : Word) (deadline : Nat)
  | freeUsageAuth (channelId : Word) (sequence : Nat) (metadataHash : Word) (deadline : Nat)
  deriving DecidableEq, Repr

structure Signature where
  signer : Address
  message : Auth
  deriving DecidableEq, Repr

inductive ChannelStatus where
  | none | active | closed
  deriving DecidableEq, Repr

structure Channel where
  buyer : Address := 0
  seller : Address := 0
  latestSequence : Nat := 0
  metadataHash : Word := 0
  deadline : Nat := 0
  updatedAt : Nat := 0
  closedAt : Nat := 0
  status : ChannelStatus := .none
  deriving DecidableEq, Repr

structure AgentStats where
  channelCount : Nat := 0
  lastSettledAt : Nat := 0
  deriving DecidableEq, Repr

structure AntseedFreeUsage where
  owner : Address
  paused : Bool := false
  channels : Word → Channel := fun _ => {}
  activeChannelCount : Address → Nat := fun _ => 0
  agentStats : Word → AgentStats := fun _ => {}

/-- What does not change while the contracts run: the address of the contract and the hashes. -/
structure Deployment where
  self : Address
  keccak256 : List UInt8 → Word
  computeChannelId : Address → Address → Word → Word

/-- The answers of the outside contracts a call reaches. -/
structure External where
  isStakedAboveMin : Bool
  /-- `getAgentId(seller)`; zero when the seller has no agent -/
  agentId : Word
  /-- whether `registry.stats()` is the contract above -/
  syncsStats : Bool

/-- The two contracts, the clock and who has signed what. -/
structure State where
  now : Nat
  freeUsage : AntseedFreeUsage
  stats : AntseedStats
  signed : List Signature

namespace State

variable (s : State)

def channel (channelId : Word) : Channel := s.freeUsage.channels channelId

def setChannel (channelId : Word) (channel : Channel) : State :=
  { s with freeUsage := { s.freeUsage with channels := update s.freeUsage.channels channelId channel } }

def setActiveCount (seller : Address) (count : Nat) : State :=
  { s with freeUsage := { s.freeUsage with
    activeChannelCount := update s.freeUsage.activeChannelCount seller count } }

def setAgentStats (agentId : Word) (stats : AgentStats) : State :=
  { s with freeUsage := { s.freeUsage with
    agentStats := update s.freeUsage.agentStats agentId stats } }

def whenNotPaused : Tx Error Unit := require (s.freeUsage.paused = false) .enforcedPause

/-- `ECDSA.recover(digest, signature) == signer` for ideal signatures. -/
def verifySignature (message : Auth) (signature : Signature) (signer : Address) :
    Tx Error Unit :=
  require (signature ∈ s.signed ∧ signature.message = message ∧ signature.signer = signer)
    .invalidSignature

section

variable (r : Deployment)

def open_ (s : State) (ext : External) (sender buyer : Address) (salt : Word)
    (deadline : Nat) (buyerSig : Signature) : Tx Error State := do
  s.whenNotPaused
  require (buyer ≠ 0) .invalidAddress
  require (¬ s.now > deadline) .channelExpired
  require (ext.isStakedAboveMin = true) .sellerNotStaked
  let channelId := r.computeChannelId buyer sender salt
  require ((s.channel channelId).status = .none) .channelExists
  s.verifySignature (.freeUsageOpen channelId deadline) buyerSig buyer
  let s := s.setChannel channelId {
    buyer := buyer, seller := sender, latestSequence := 0, metadataHash := 0, deadline := deadline,
    updatedAt := 0, closedAt := 0, status := .active }
  let count ← uint 256 (s.freeUsage.activeChannelCount sender + 1)
  pure (s.setActiveCount sender count)

/-- `_syncExternalMetadata`: a revert of the stats contract is caught. -/
def syncExternalMetadata (s : State) (ext : External) (buyer : Address)
    (channelId : Word) (metadata : List UInt8) : State :=
  if ext.syncsStats then
    match s.stats.recordMetadata s.now r.self ext.agentId buyer channelId metadata with
    | .ok stats => { s with stats := stats }
    | .error _ => s
  else s

/-- The part of `_recordUsage` for a channel whose sequence has grown. -/
def countUsage (s : State) (ext : External) (channelId : Word) (buyer : Address)
    (metadata : List UInt8) (firstUsage : Bool) : Tx Error State :=
  if ext.agentId = 0 then pure s
  else do
    let stats := s.freeUsage.agentStats ext.agentId
    let channelCount ← (if firstUsage then uint 64 (stats.channelCount + 1)
      else pure stats.channelCount)
    let s := s.setAgentStats ext.agentId ⟨channelCount, s.now % 2 ^ 64⟩
    pure (s.syncExternalMetadata r ext buyer channelId metadata)

def recordUsage (s : State) (ext : External) (channelId : Word) (sequence : Nat)
    (metadata : List UInt8) (deadline : Nat) (buyerSig : Signature) (allowSameSequence : Bool) :
    Tx Error State := do
  let channel := s.channel channelId
  require (¬ (s.now > channel.deadline ∨ s.now > deadline)) .channelExpired
  require (¬ sequence < channel.latestSequence) .invalidAmount
  require (¬ (allowSameSequence = false ∧ sequence = channel.latestSequence)) .invalidAmount
  let metadataHash := r.keccak256 metadata
  s.verifySignature (.freeUsageAuth channelId sequence metadataHash deadline) buyerSig channel.buyer
  let sequenceDelta ← sub sequence channel.latestSequence
  let firstUsage := channel.updatedAt = 0 ∧ sequence > 0
  let s := s.setChannel channelId { channel with
    latestSequence := sequence, metadataHash := metadataHash, updatedAt := s.now }
  if sequenceDelta > 0 then
    s.countUsage r ext channelId channel.buyer metadata firstUsage
  else pure s

def record (s : State) (ext : External) (sender : Address) (channelId : Word)
    (sequence : Nat) (metadata : List UInt8) (deadline : Nat) (buyerSig : Signature) :
    Tx Error State := do
  s.whenNotPaused
  let channel := s.channel channelId
  require (channel.status = .active) .channelNotActive
  require (sender = channel.seller) .notAuthorized
  s.recordUsage r ext channelId sequence metadata deadline buyerSig false

def close (s : State) (ext : External) (sender : Address) (channelId : Word)
    (sequence : Nat) (metadata : List UInt8) (deadline : Nat) (buyerSig : Signature) :
    Tx Error State := do
  s.whenNotPaused
  let channel := s.channel channelId
  require (channel.status = .active) .channelNotActive
  require (sender = channel.seller) .notAuthorized
  let s ← s.recordUsage r ext channelId sequence metadata deadline buyerSig true
  let channel := s.channel channelId
  let s := s.setChannel channelId { channel with status := .closed, closedAt := s.now }
  let count ← sub (s.freeUsage.activeChannelCount channel.seller) 1
  pure (s.setActiveCount channel.seller count)

end

/-- The owner's functions that the others read something of. -/
inductive Setting where
  | pause
  | unpause
  | transferOwnership (newOwner : Address)
  | renounceOwnership

def set (sender : Address) (setting : Setting) : Tx Error State := do
  require (sender = s.freeUsage.owner) .ownableUnauthorizedAccount
  match setting with
  | .pause => do
      require (s.freeUsage.paused = false) .enforcedPause
      pure { s with freeUsage := { s.freeUsage with paused := true } }
  | .unpause => do
      require (s.freeUsage.paused = true) .expectedPause
      pure { s with freeUsage := { s.freeUsage with paused := false } }
  | .transferOwnership newOwner => do
      require (newOwner ≠ 0) .ownableInvalidOwner
      pure { s with freeUsage := { s.freeUsage with owner := newOwner } }
  | .renounceOwnership => pure { s with freeUsage := { s.freeUsage with owner := 0 } }

end State

/-- Everything that can happen: calls of the two contracts by anyone, signatures and the passage
    of time. -/
inductive Operation where
  | open_ (buyer : Address) (salt : Word) (deadline : Nat) (buyerSig : Signature)
  | record (channelId : Word) (sequence : Nat) (metadata : List UInt8) (deadline : Nat)
      (buyerSig : Signature)
  | close (channelId : Word) (sequence : Nat) (metadata : List UInt8) (deadline : Nat)
      (buyerSig : Signature)
  | set (setting : State.Setting)
  | recordMetadata (agentId : Word) (buyer : Address) (channelId : Word) (metadata : List UInt8)
  | setWriter (writer : Address) (allowed : Bool)
  | sign (message : Auth)
  | elapse (seconds : Nat)

structure Call where
  sender : Address
  ext : External
  op : Operation

/-- One call. The contract itself calls only through the code above. -/
def step (r : Deployment) (s : State) (call : Call) : Tx Error State := do
  require (call.sender ≠ r.self ∧ call.sender ≠ 0) .notAuthorized
  match call.op with
  | .open_ buyer salt deadline buyerSig =>
    s.open_ r call.ext call.sender buyer salt deadline buyerSig
  | .record channelId sequence metadata deadline buyerSig =>
    s.record r call.ext call.sender channelId sequence metadata deadline buyerSig
  | .close channelId sequence metadata deadline buyerSig =>
    s.close r call.ext call.sender channelId sequence metadata deadline buyerSig
  | .set setting => s.set call.sender setting
  | .recordMetadata agentId buyer channelId metadata => do
      let stats ← s.stats.recordMetadata s.now call.sender agentId buyer channelId metadata
      pure { s with stats := stats }
  | .setWriter writer allowed => do
      let stats ← s.stats.setWriter call.sender writer allowed
      pure { s with stats := stats }
  | .sign message => pure { s with signed := ⟨call.sender, message⟩ :: s.signed }
  | .elapse seconds => pure { s with now := s.now + seconds }

/-- The freshly deployed contracts. -/
def deployed (now : Nat) (owner statsOwner : Address) : State where
  now := now
  freeUsage := { owner := owner }
  stats := { owner := statsOwner }
  signed := []

def machine (r : Deployment) : Machine State Call (Revert Error) := ⟨step r⟩

end AntSeed.FreeUsage
