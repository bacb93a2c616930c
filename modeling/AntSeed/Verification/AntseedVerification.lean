import AntSeed.Emissions.Gate
import AntSeed.Lib.Admin

/-! # AntseedVerification

Approved auditors record, one model at a time, whether the services of agents
answer as that model. A service keeps its latest verdict and the epoch it was given
in, an agent one counter of verdicts for each epoch, so that its status is a sum
over the epochs that still count. Audits earn credits, and the credits of a
finalized epoch share the budget of the verification bucket of the gate.

The identity registry and the seller pools are outside: what a call of them comes
to is an input. Events are left out.
-/

namespace AntSeed.Verification

open Evm Emissions
open Function

/-- Errors of the contract, of its ownership and of the gate. -/
inductive VerificationError where
  | invalidAddress | invalidValue | notApprovedAuditor | invalidEvidenceUri | invalidResults
  | unknownAgent | selfAudit | epochChanged | epochNotFinalized | alreadyClaimed
  | admin (error : AdminError)
  | gate (error : GateError)
  deriving DecidableEq, Repr

def maxResultsPerAudit : Nat := 256
def maxEvidenceUriBytes : Nat := 200
def maxValidityEpochs : Nat := 4
def bps : Nat := 10000

/-- What trying an outside call comes to: the call cannot be made or its answer not be read, and
    the caller reverts; it reverts and is caught; or it answers. -/
inductive Tried (α : Type) where
  | fails
  | reverts
  | returns (a : α)

def Tried.caught {α ε : Type} : Tried α → Tx ε (Option α)
  | .fails => .error .callee
  | .reverts => pure none
  | .returns a => pure (some a)

inductive Verdict where
  | none | same | diff | undetermined
  deriving DecidableEq, Repr

structure ServiceResult where
  agentId : Word
  serviceHash : Word
  verdict : Verdict
  deriving DecidableEq, Repr

structure ServiceStatus where
  modelHash : Word := 0
  verdict : Verdict := .none
  updatedAt : Nat := 0
  epoch : Nat := 0
  deriving DecidableEq, Repr

/-- A record without a verdict. -/
def ServiceStatus.reset (service : ServiceStatus) (now : Nat) : ServiceStatus :=
  { service with verdict := .none, epoch := 0, updatedAt := now % 2 ^ 64 }

structure AgentStatus where
  verifiedCount : Nat
  diffCount : Nat
  deriving DecidableEq, Repr

structure EpochCounts where
  same : Nat := 0
  diff : Nat := 0
  deriving DecidableEq, Repr

structure AntseedVerification where
  admin : Admin
  emissionsGate : Address
  sellerPools : Address
  validityEpochs : Nat := 2
  maxCreditsPerAuditorPerEpoch : Nat := 100
  maxCreditsPerModelPerEpoch : Nat := 1
  maxAuditorShareBps : Nat := 2000
  /-- `type(uint256).max` keeps rewards off -/
  rewardsStartEpoch : Nat := 2 ^ 256 - 1
  approvedAuditors : Address → Bool := fun _ => false
  serviceStatus : Word → Word → ServiceStatus := fun _ _ => {}
  epochCounts : Word → Nat → EpochCounts := fun _ _ => {}
  epochCredits : Nat → Nat := fun _ => 0
  auditorEpochCredits : Nat → Address → Nat := fun _ _ => 0
  modelCredits : Nat → Address → Word → Nat := fun _ _ _ => 0
  auditorEpochClaimed : Nat → Address → Bool := fun _ _ => false

/-- The contracts outside the model during one call. -/
structure AuditOutside where
  /-- `ownerOf` of the identity registry, if the registry names one -/
  ownerOf : Word → Tried Address
  /-- `poolWeightAtEpoch` of the pools at an address -/
  poolWeightAtEpoch : Address → Word → Nat → Tried Word
  hasCode : Address → Bool
  /-- `emissions` of the registry at an address -/
  emissions : Address → Option Address
  /-- `emissionsGate` of the contract at an address -/
  emissionsGate : Address → Tried Address

structure AuditContext where
  sender : Address
  now : Nat
  outside : AuditOutside

namespace AntseedVerification

section

variable (s : AntseedVerification)

def requireOwner (sender : Address) : Tx VerificationError Unit :=
  bubble .admin (s.admin.requireOwner sender)

/-- `_setSellerPools` -/
def putSellerPools (ctx : AuditContext) (sellerPools : Address) :
    Tx VerificationError AntseedVerification := do
  require (ctx.outside.hasCode sellerPools = true) .invalidAddress
  pure { s with sellerPools := sellerPools }

/-- The constructor. The registry names the emissions contract, which is the gate itself or
    knows the gate. -/
def construct (ctx : AuditContext) (registry sellerPools : Address) :
    Tx VerificationError AntseedVerification := do
  require (ctx.outside.hasCode registry = true) .invalidAddress
  let emissions ← answer (ctx.outside.emissions registry)
  require (ctx.outside.hasCode emissions = true) .invalidAddress
  let source ← (ctx.outside.emissionsGate emissions).caught
  let gate := match source with
    | none => emissions
    | some source => if ctx.outside.hasCode source then source else emissions
  putSellerPools { admin := { owner := ctx.sender }, emissionsGate := gate, sellerPools := 0 } ctx
    sellerPools

/-- The owner's setters. -/
inductive VerificationSetting where
  | auditor (auditor : Address) (approved : Bool)
  | sellerPools (sellerPools : Address)
  | validityEpochs (epochs : Nat)
  | maxCreditsPerAuditorPerEpoch (maxCredits : Nat)
  | maxCreditsPerModelPerEpoch (maxCredits : Nat)
  | maxAuditorShareBps (shareBps : Nat)
  | rewardsStartEpoch (epoch : Nat)

def set (ctx : AuditContext) :
    VerificationSetting → Tx VerificationError AntseedVerification
  | .auditor auditor approved => do
      s.requireOwner ctx.sender
      require (auditor ≠ 0) .invalidAddress
      pure { s with approvedAuditors := update s.approvedAuditors auditor approved }
  | .sellerPools sellerPools => do
      s.requireOwner ctx.sender
      s.putSellerPools ctx sellerPools
  | .validityEpochs epochs => do
      decode 8 epochs
      s.requireOwner ctx.sender
      require (¬ (epochs = 0 ∨ epochs > maxValidityEpochs)) .invalidValue
      pure { s with validityEpochs := epochs }
  | .maxCreditsPerAuditorPerEpoch maxCredits => do
      decode 32 maxCredits
      s.requireOwner ctx.sender
      require (maxCredits ≠ 0) .invalidValue
      pure { s with maxCreditsPerAuditorPerEpoch := maxCredits }
  | .maxCreditsPerModelPerEpoch maxCredits => do
      decode 32 maxCredits
      s.requireOwner ctx.sender
      require (maxCredits ≠ 0) .invalidValue
      pure { s with maxCreditsPerModelPerEpoch := maxCredits }
  | .maxAuditorShareBps shareBps => do
      decode 16 shareBps
      s.requireOwner ctx.sender
      require (¬ (shareBps = 0 ∨ shareBps > bps)) .invalidValue
      pure { s with maxAuditorShareBps := shareBps }
  | .rewardsStartEpoch epoch => do
      decode 256 epoch
      s.requireOwner ctx.sender
      pure { s with rewardsStartEpoch := epoch }

/-- The contract is owned in two steps; it cannot be paused. -/
inductive OwnershipCall where
  | transferOwnership (newOwner : Address)
  | acceptOwnership
  | renounceOwnership

def OwnershipCall.toAdmin : OwnershipCall → AdminCall
  | .transferOwnership newOwner => .transferOwnership newOwner
  | .acceptOwnership => .acceptOwnership
  | .renounceOwnership => .renounceOwnership

def administer (sender : Address) (call : OwnershipCall) :
    Tx VerificationError AntseedVerification := do
  let admin ← bubble .admin (s.admin.perform sender call.toAdmin)
  pure { s with admin := admin }

def voidAuditorCredits (sender : Address) (epoch : Nat)
    (auditor : Address) : Tx VerificationError AntseedVerification := do
  s.requireOwner sender
  require (s.auditorEpochClaimed epoch auditor = false) .alreadyClaimed
  let credits := s.auditorEpochCredits epoch auditor
  if credits = 0 then pure s
  else do
    let rest ← sub (s.epochCredits epoch) credits
    pure { s with
      auditorEpochCredits := update s.auditorEpochCredits epoch
        (update (s.auditorEpochCredits epoch) auditor 0)
      epochCredits := update s.epochCredits epoch rest }

def setService (agentId serviceHash : Word) (service : ServiceStatus) :
    AntseedVerification :=
  { s with
    serviceStatus := update s.serviceStatus agentId
      (update (s.serviceStatus agentId) serviceHash service) }

def setCounts (agentId : Word) (epoch : Nat) (counts : EpochCounts) :
    AntseedVerification :=
  { s with
    epochCounts := update s.epochCounts agentId (update (s.epochCounts agentId) epoch counts) }

def isLive (givenEpoch epoch : Nat) : Bool :=
  epoch < givenEpoch + s.validityEpochs

def liveVerdict (service : ServiceStatus) (epoch : Nat) : Verdict :=
  if service.verdict = .none ∨ ¬ s.isLive service.epoch epoch then .none else service.verdict

/-- Takes the stored verdict of a service out of the counter of its epoch. -/
def uncount (agentId : Word) (service : ServiceStatus) :
    Tx VerificationError AntseedVerification :=
  let counts := s.epochCounts agentId service.epoch
  match service.verdict with
  | .none => pure s
  | .same => do
      let same ← sub counts.same 1
      pure (s.setCounts agentId service.epoch { counts with same := same })
  | .diff => do
      let diff ← sub counts.diff 1
      pure (s.setCounts agentId service.epoch { counts with diff := diff })
  | .undetermined => pure s

def count (agentId : Word) (epoch : Nat) (verdict : Verdict) :
    Tx VerificationError AntseedVerification :=
  let counts := s.epochCounts agentId epoch
  match verdict with
  | .same => do
      let same ← uint 32 (counts.same + 1)
      pure (s.setCounts agentId epoch { counts with same := same })
  | .diff => do
      let diff ← uint 32 (counts.diff + 1)
      pure (s.setCounts agentId epoch { counts with diff := diff })
  | _ => pure s

def resetService (now : Nat) (agentId serviceHash : Word) :
    Tx VerificationError AntseedVerification := do
  let service := s.serviceStatus agentId serviceHash
  let s ← s.uncount agentId service
  pure (s.setService agentId serviceHash (service.reset now))

/-- The first part of `_applyResult`: a service that was audited as another model starts over. -/
def adoptModel (now : Nat) (agentId serviceHash modelHash : Word) :
    Tx VerificationError AntseedVerification :=
  let before := (s.serviceStatus agentId serviceHash).modelHash
  if before ≠ modelHash then do
    let s ← (if before ≠ 0 then s.resetService now agentId serviceHash else pure s)
    pure (s.setService agentId serviceHash
      { s.serviceStatus agentId serviceHash with modelHash := modelHash })
  else pure s

def applyResult (now : Nat) (agentId serviceHash modelHash : Word)
    (verdict : Verdict) (epoch : Nat) : Tx VerificationError AntseedVerification := do
  let s ← s.adoptModel now agentId serviceHash modelHash
  let service := s.serviceStatus agentId serviceHash
  let previous := s.liveVerdict service epoch
  if service.verdict = verdict ∧ service.epoch = epoch then pure s
  else do
    let s ← s.uncount agentId service
    let s ← s.count agentId epoch verdict
    let updatedAt := if previous = verdict then service.updatedAt else now % 2 ^ 64
    pure (s.setService agentId serviceHash
      { service with verdict := verdict, epoch := epoch % 2 ^ 64, updatedAt := updatedAt })

end

/-- The loop of `clearServiceStatuses`. -/
def clearServices (now : Nat) : List (Word × Word) → AntseedVerification →
    Tx VerificationError AntseedVerification
  | [], s => pure s
  | (agentId, serviceHash) :: rest, s => do
      let s ← s.resetService now agentId serviceHash
      clearServices now rest s

section

variable (s : AntseedVerification)

def clearServiceStatuses (ctx : AuditContext)
    (agentIds serviceHashes : List Word) : Tx VerificationError AntseedVerification := do
  s.requireOwner ctx.sender
  require (agentIds.length = serviceHashes.length) .invalidValue
  clearServices ctx.now (agentIds.zip serviceHashes) s

/-- The bytes of `ipfs://`. -/
def ipfsScheme : List UInt8 := [0x69, 0x70, 0x66, 0x73, 0x3a, 0x2f, 0x2f]

def validateEvidenceUri (evidenceUri : List UInt8) : Tx VerificationError Unit :=
  if evidenceUri.length = 0 then pure ()
  else require (¬ (evidenceUri.length ≤ 7 ∨ evidenceUri.length > maxEvidenceUriBytes ∨
    evidenceUri.take 7 ≠ ipfsScheme)) .invalidEvidenceUri

/-- Agents the identity registry cannot resolve, or resolves to nobody, are not known. -/
def agentOwner (outside : AuditOutside) (agentId : Word) :
    Tx VerificationError (Bool × Address) := do
  let owner ← (outside.ownerOf agentId).caught
  match owner with
  | some agentOwner => pure (decide (agentOwner ≠ 0), agentOwner)
  | none => pure (false, 0)

def hasPoolPower (outside : AuditOutside) (agentId : Word)
    (epoch : Nat) : Tx VerificationError Bool := do
  let weight ← (outside.poolWeightAtEpoch s.sellerPools agentId epoch).caught
  match weight with
  | some weight => pure (decide (weight ≠ 0))
  | none => pure false

/-- What the loop of `submitModelAudit` carries along. -/
structure AuditCursor where
  first : Bool := true
  staked : Bool := false
  skipAgent : Bool := false
  previousAgent : Word := 0
  previousService : Word := 0
  deriving DecidableEq, Repr

/-- Results are strictly ordered by agent and service, and say something. -/
def requireOrdered (cursor : AuditCursor) (result : ServiceResult) : Tx VerificationError Unit :=
  require (¬ (result.serviceHash = 0 ∨ result.verdict = .none ∨
    result.agentId.word < cursor.previousAgent.word ∨
    (result.agentId = cursor.previousAgent ∧
      result.serviceHash.word ≤ cursor.previousService.word))) .invalidResults

def enterAgent (ctx : AuditContext) (epoch : Nat) (cursor : AuditCursor)
    (result : ServiceResult) : Tx VerificationError AuditCursor :=
  if cursor.first = true ∨ result.agentId ≠ cursor.previousAgent then do
    require (result.agentId ≠ 0) .unknownAgent
    let (known, owner) ← agentOwner ctx.outside result.agentId
    require (¬ (known = true ∧ ctx.sender = owner)) .selfAudit
    let staked ← (if known = true ∧ cursor.staked = false then
      s.hasPoolPower ctx.outside result.agentId epoch else pure cursor.staked)
    pure { cursor with
      first := false, staked := staked, skipAgent := !known, previousAgent := result.agentId }
  else pure cursor

end

/-- The loop of `submitModelAudit`; returns whether an agent with staked power was audited. -/
def auditLoop (ctx : AuditContext) (modelHash : Word) (epoch : Nat) : List ServiceResult →
    AuditCursor → AntseedVerification → Tx VerificationError (AntseedVerification × Bool)
  | [], cursor, s => pure (s, cursor.staked)
  | result :: rest, cursor, s => do
      requireOrdered cursor result
      let cursor ← s.enterAgent ctx epoch cursor result
      let cursor := { cursor with previousService := result.serviceHash }
      if cursor.skipAgent then auditLoop ctx modelHash epoch rest cursor s
      else do
        let s ← s.applyResult ctx.now result.agentId result.serviceHash modelHash result.verdict epoch
        auditLoop ctx modelHash epoch rest cursor s

section

variable (s : AntseedVerification)

def creditAudit (auditor : Address) (epoch : Nat) (modelHash : Word) :
    Tx VerificationError AntseedVerification :=
  if s.modelCredits epoch auditor modelHash ≥ s.maxCreditsPerModelPerEpoch then pure s
  else if s.auditorEpochCredits epoch auditor ≥ s.maxCreditsPerAuditorPerEpoch then pure s
  else do
    let ofModel ← uint 256 (s.modelCredits epoch auditor modelHash + 1)
    let ofAuditor ← uint 256 (s.auditorEpochCredits epoch auditor + 1)
    let ofEpoch ← uint 256 (s.epochCredits epoch + 1)
    pure { s with
      modelCredits := update s.modelCredits epoch (update (s.modelCredits epoch) auditor
        (update (s.modelCredits epoch auditor) modelHash ofModel))
      auditorEpochCredits := update s.auditorEpochCredits epoch
        (update (s.auditorEpochCredits epoch) auditor ofAuditor)
      epochCredits := update s.epochCredits epoch ofEpoch }

def submitModelAudit (ctx : AuditContext) (expectedEpoch : Nat)
    (modelHash evidenceHash : Word) (evidenceUri : List UInt8) (results : List ServiceResult) :
    Tx VerificationError AntseedVerification := do
  require (s.approvedAuditors ctx.sender = true) .notApprovedAuditor
  require (¬ (modelHash = 0 ∨ evidenceHash = 0)) .invalidValue
  validateEvidenceUri evidenceUri
  require (¬ (results.length = 0 ∨ results.length > maxResultsPerAudit)) .invalidResults
  let epoch := currentEpoch ctx.now
  require (epoch = expectedEpoch) .epochChanged
  let (s, staked) ← auditLoop ctx modelHash epoch results {} s
  if staked = true ∧ epoch ≥ s.rewardsStartEpoch then s.creditAudit ctx.sender epoch modelHash
  else pure s

/-- The loop of `_agentStatusAt`: the counters of the epochs `epoch - i`. -/
def sumWindow (counts : Nat → EpochCounts) (epoch : Nat) : Nat → Nat → EpochCounts →
    Tx VerificationError EpochCounts
  | 0, _, sums => pure sums
  | rounds + 1, i, sums =>
    if i ≤ epoch then do
      let same ← uint 256 (sums.same + (counts (epoch - i)).same)
      let diff ← uint 256 (sums.diff + (counts (epoch - i)).diff)
      sumWindow counts epoch rounds (i + 1) ⟨same, diff⟩
    else pure sums

/-- `type(uint16).max` at most. -/
def saturate (n : Nat) : Nat := if n > 65535 then 65535 else n

def agentStatusAt (agentId : Word) (epoch : Nat) :
    Tx VerificationError AgentStatus := do
  let sums ← sumWindow (s.epochCounts agentId) epoch s.validityEpochs 0 {}
  pure ⟨saturate sums.same, saturate sums.diff⟩

def agentStatus (now : Nat) (agentId : Word) :
    Tx VerificationError AgentStatus := s.agentStatusAt agentId (currentEpoch now)

def isVerified (now : Nat) (agentId : Word) : Tx VerificationError Bool := do
  let agent ← s.agentStatus now agentId
  pure (decide (agent.verifiedCount > 0 ∧ agent.diffCount = 0))

def rewardShare (auditor : Address) (epoch budget : Nat) :
    Tx VerificationError Nat := do
  let scaled ← uint 256 (budget * s.auditorEpochCredits epoch auditor)
  let reward ← div scaled (s.epochCredits epoch)
  let capped ← uint 256 (budget * s.maxAuditorShareBps)
  let cap := capped / bps
  pure (if reward < cap then reward else cap)

def pendingReward (gate : Gate) (now : Nat) (self auditor : Address)
    (epoch : Nat) : Tx VerificationError Nat :=
  if s.auditorEpochCredits epoch auditor = 0 ∨ s.auditorEpochClaimed epoch auditor = true ∨
      epoch ≥ currentEpoch now then pure 0
  else do
    let budget ← bubble .gate (gate.controllerEpochBudget self epoch)
    s.rewardShare auditor epoch budget

def markClaimed (epoch : Nat) (auditor : Address) : AntseedVerification :=
  { s with
    auditorEpochClaimed := update s.auditorEpochClaimed epoch
      (update (s.auditorEpochClaimed epoch) auditor true) }

/-- What `claimAuditorRewards` does for an epoch with something to claim. -/
def payReward (gate : Gate) (ants : Erc20) (self : Address)
    (ctx : AuditContext) (epoch amount : Nat) :
    Tx VerificationError (AntseedVerification × Gate × Erc20) := do
  let (gate, ants) ← bubble .gate (gate.claim ants ctx.now self epoch ctx.sender amount)
  pure (s.markClaimed epoch ctx.sender, gate, ants)

end

/-- The loop of `claimAuditorRewards`, with what it has paid so far. -/
def claimRewards (self : Address) (ctx : AuditContext) : List Nat → AntseedVerification → Gate →
    Erc20 → Nat → Tx VerificationError (AntseedVerification × Gate × Erc20 × Nat)
  | [], s, gate, ants, total => pure (s, gate, ants, total)
  | epoch :: rest, s, gate, ants, total => do
      require (¬ epoch ≥ currentEpoch ctx.now) .epochNotFinalized
      let amount ← s.pendingReward gate ctx.now self ctx.sender epoch
      if amount = 0 then claimRewards self ctx rest s gate ants total
      else do
        let total ← uint 256 (total + amount)
        let (s, gate, ants) ← s.payReward gate ants self ctx epoch amount
        claimRewards self ctx rest s gate ants total

def claimAuditorRewards (s : AntseedVerification) (gate : Gate) (ants : Erc20) (self : Address)
    (ctx : AuditContext) (epochs : List Nat) :
    Tx VerificationError (AntseedVerification × Gate × Erc20 × Nat) :=
  claimRewards self ctx epochs s gate ants 0

end AntseedVerification

structure AuditState where
  now : Nat
  gate : Gate
  ants : Erc20
  verification : AntseedVerification

inductive AuditOperation where
  /-- the gate, the token and the clock -/
  | gate (op : GateOperation)
  | submitModelAudit (expectedEpoch : Nat) (modelHash evidenceHash : Word)
      (evidenceUri : List UInt8) (results : List ServiceResult)
  | clearServiceStatuses (agentIds serviceHashes : List Word)
  | voidAuditorCredits (epoch : Nat) (auditor : Address)
  | claimAuditorRewards (epochs : List Nat)
  | set (setting : AntseedVerification.VerificationSetting)
  | administer (call : AntseedVerification.OwnershipCall)

structure AuditCall where
  sender : Address
  outside : AuditOutside
  op : AuditOperation

namespace AuditState

def perform (self : Address) (s : AuditState) (ctx : AuditContext) :
    AuditOperation → Tx VerificationError AuditState
  | .gate op => do
      let g ← bubble .gate (GateState.step ⟨s.now, s.gate, s.ants⟩ ⟨ctx.sender, op⟩)
      decode 64 g.now
      pure { s with now := g.now, gate := g.gate, ants := g.ants }
  | .submitModelAudit expectedEpoch modelHash evidenceHash evidenceUri results => do
      let verification ← s.verification.submitModelAudit ctx expectedEpoch modelHash evidenceHash
        evidenceUri results
      pure { s with verification := verification }
  | .clearServiceStatuses agentIds serviceHashes => do
      let verification ← s.verification.clearServiceStatuses ctx agentIds serviceHashes
      pure { s with verification := verification }
  | .voidAuditorCredits epoch auditor => do
      let verification ← s.verification.voidAuditorCredits ctx.sender epoch auditor
      pure { s with verification := verification }
  | .claimAuditorRewards epochs => do
      let (verification, gate, ants, _) ←
        s.verification.claimAuditorRewards s.gate s.ants self ctx epochs
      pure { s with verification := verification, gate := gate, ants := ants }
  | .set setting => do
      let verification ← s.verification.set ctx setting
      pure { s with verification := verification }
  | .administer call => do
      let verification ← s.verification.administer ctx.sender call
      pure { s with verification := verification }

/-- The contract and nobody act only when called. -/
def step (self : Address) (s : AuditState) (call : AuditCall) : Tx VerificationError AuditState := do
  require (call.sender ≠ self ∧ call.sender ≠ 0) .invalidAddress
  s.perform self ⟨call.sender, s.now, call.outside⟩ call.op

end AuditState

def auditMachine (self : Address) : Machine AuditState AuditCall (Revert VerificationError) :=
  ⟨AuditState.step self⟩

/-- The gate and the contract are deployed at one time, over a token that may have a history.
    Block timestamps are 64-bit numbers. -/
def deployAudits (ctx : AuditContext) (registry sellerPools teamWallet protocolReserve : Address)
    (teamShareBps reserveShareBps : Nat) (ants : Erc20) : Tx VerificationError AuditState := do
  decode 64 ctx.now
  let gate ← bubble .gate (Gate.construct ctx.now ctx.sender teamWallet protocolReserve teamShareBps
    reserveShareBps)
  let verification ← AntseedVerification.construct ctx registry sellerPools
  pure ⟨ctx.now, gate, ants, verification⟩

end AntSeed.Verification
