import AntSeed.Lib.Abi
import AntSeed.Lib.Machine

/-! # AntseedWashTradingRegistry

A proof that some of a seller's volume was wash trading is staged first: a
verified journal names the seller, the volumes and how many block references the
evidence rests on. The references are then authenticated in chunks, which anyone
may submit in any order, against the hashes of the chain. When all of them are,
the result is recorded for the seller.

The verifier, the hashes and the hashes of the chain are parameters. The store of
block hashes knows some of the blocks, more and more of them, and never tells a
hash that is not the chain's; what it knows is an input of every call.
-/

namespace AntSeed.Integrity

open Evm Function
open Abi

inductive Error where
  | invalidSellerProof | sellerProofAlreadyStaged | sellerProofNotStaged | sellerProofAlreadyFinalized
  | emptyBlockReferenceChunk | tooManyBlockReferences | invalidBlockAuthenticationChunk
  | blockAuthenticationChunkAlreadySubmitted | unorderedBlockReference | nonCanonicalBlock
  | incompleteBlockAuthentication | strongerResultRequired | totalVolumeMismatch
  deriving DecidableEq, Repr

def schemaVersion : Nat := 1
def baseChainId : Nat := 8453
def washTradingThresholdBps : Nat := 2500

structure SellerJournal where
  schemaVersion : Nat
  chainId : Nat
  periodStartBlock : Nat
  periodEndBlock : Nat
  seller : Address
  provenWashVolume : Nat
  totalSellerVolume : Nat
  evidenceDigest : Word
  blockReferenceCount : Nat
  blockAuthenticationChunkSize : Nat
  blockAuthenticationChunkCount : Nat
  blockAuthenticationRoot : Word
  deriving DecidableEq, Repr

structure StagedProof where
  seller : Address := 0
  provenWashVolume : Nat := 0
  totalSellerVolume : Nat := 0
  evidenceDigest : Word := 0
  blockReferenceCount : Nat := 0
  blockAuthenticationChunkSize : Nat := 0
  blockAuthenticationChunkCount : Nat := 0
  blockAuthenticationRoot : Word := 0
  authenticatedBlockReferenceCount : Nat := 0
  authenticatedBlockChunkCount : Nat := 0
  finalized : Bool := false
  exists_ : Bool := false
  deriving DecidableEq, Repr

structure SellerRecord where
  provenWashVolume : Nat := 0
  totalSellerVolume : Nat := 0
  evidenceDigest : Word := 0
  deriving DecidableEq, Repr

structure BlockRef where
  number : Nat
  blockHash : Word
  deriving DecidableEq, Repr

/-- What is fixed when the registry is deployed, and what it rests on. -/
structure Deployment where
  sellerProgramVKey : Word
  periodStartBlock : Nat
  periodEndBlock : Nat
  /-- whether the verifier accepts a proof of some public values for a program -/
  verifyProof : Word → List UInt8 → List UInt8 → Bool
  keccak256 : List UInt8 → Word
  /-- `keccak256(abi.encode(chunkIndex, references))` -/
  chunkHash : Nat → List BlockRef → Word
  /-- `keccak256(abi.encode(left, right))` -/
  nodeHash : Word → Word → Word
  /-- the hashes of the chain -/
  blockhash : Nat → Word

structure AntseedWashTradingRegistry where
  stagedProofs : Word → StagedProof := fun _ => {}
  authenticatedChunks : Word → Nat → Bool := fun _ _ => false
  sellerRecords : Address → SellerRecord := fun _ => {}

namespace AntseedWashTradingRegistry

/-- `abi.decode(publicValues, (SellerJournal))` -/
def decodeJournal (publicValues : List UInt8) : Tx Error SellerJournal := do
  requireWords publicValues 12
  let schemaVersion ← uintAt 32 publicValues 0
  let chainId ← uintAt 64 publicValues 1
  let periodStartBlock ← uintAt 64 publicValues 2
  let periodEndBlock ← uintAt 64 publicValues 3
  let seller ← addressAt publicValues 4
  let provenWashVolume ← uintAt 128 publicValues 5
  let totalSellerVolume ← uintAt 128 publicValues 6
  let evidenceDigest := bytes32At publicValues 7
  let blockReferenceCount ← uintAt 32 publicValues 8
  let blockAuthenticationChunkSize ← uintAt 32 publicValues 9
  let blockAuthenticationChunkCount ← uintAt 32 publicValues 10
  let blockAuthenticationRoot := bytes32At publicValues 11
  pure ⟨schemaVersion, chainId, periodStartBlock, periodEndBlock, seller, provenWashVolume,
    totalSellerVolume, evidenceDigest, blockReferenceCount, blockAuthenticationChunkSize,
    blockAuthenticationChunkCount, blockAuthenticationRoot⟩

def stageSellerProof (r : Deployment) (s : AntseedWashTradingRegistry)
    (publicValues proofBytes : List UInt8) : Tx Error AntseedWashTradingRegistry := do
  let proofId := r.keccak256 publicValues
  require ((s.stagedProofs proofId).exists_ = false) .sellerProofAlreadyStaged
  external (r.verifyProof r.sellerProgramVKey publicValues proofBytes)
  let journal ← decodeJournal publicValues
  require (¬ (journal.schemaVersion ≠ schemaVersion ∨ journal.chainId ≠ baseChainId ∨
    journal.periodStartBlock ≠ r.periodStartBlock ∨ journal.periodEndBlock ≠ r.periodEndBlock ∨
    journal.seller = 0 ∨ journal.provenWashVolume = 0 ∨ journal.evidenceDigest = 0 ∨
    journal.totalSellerVolume = 0 ∨ journal.blockReferenceCount = 0 ∨
    journal.blockAuthenticationChunkSize = 0 ∨ journal.blockAuthenticationChunkCount = 0 ∨
    journal.blockAuthenticationRoot = 0)) .invalidSellerProof
  let maximumReferences ← uint 256
    (journal.blockAuthenticationChunkSize * journal.blockAuthenticationChunkCount)
  let lowered ← sub maximumReferences journal.blockAuthenticationChunkSize
  let minimumReferences ← uint 256 (lowered + 1)
  require (¬ (journal.blockReferenceCount < minimumReferences ∨
    journal.blockReferenceCount > maximumReferences)) .invalidSellerProof
  pure { s with
    stagedProofs := update s.stagedProofs proofId {
      seller := journal.seller
      provenWashVolume := journal.provenWashVolume
      totalSellerVolume := journal.totalSellerVolume
      evidenceDigest := journal.evidenceDigest
      blockReferenceCount := journal.blockReferenceCount
      blockAuthenticationChunkSize := journal.blockAuthenticationChunkSize
      blockAuthenticationChunkCount := journal.blockAuthenticationChunkCount
      blockAuthenticationRoot := journal.blockAuthenticationRoot
      authenticatedBlockReferenceCount := 0
      authenticatedBlockChunkCount := 0
      finalized := false
      exists_ := true } }

def finalChunkSize (staged : StagedProof) : Tx Error Nat := do
  let before ← sub staged.blockAuthenticationChunkCount 1
  let full ← uint 32 (staged.blockAuthenticationChunkSize * before)
  sub staged.blockReferenceCount full

/-- `_canonicalBlockhash`: a block that the store does not know has no hash. -/
def canonicalBlockhash (r : Deployment) (stored : Nat → Bool) (blockNumber : Nat) : Word :=
  if stored blockNumber then r.blockhash blockNumber else 0

/-- The loop over the references: their numbers grow, and their hashes are the chain's. -/
def checkReferences (r : Deployment) (stored : Nat → Bool) : Option Nat → List BlockRef → Tx Error Unit
  | _, [] => pure ()
  | previous, blockRef :: rest => do
      decode 64 blockRef.number
      require (∀ previousNumber ∈ previous, ¬ blockRef.number ≤ previousNumber) .unorderedBlockReference
      require (¬ (blockRef.blockHash = 0 ∨
        canonicalBlockhash r stored blockRef.number ≠ blockRef.blockHash)) .nonCanonicalBlock
      checkReferences r stored (some blockRef.number) rest

def merkleRoot (r : Deployment) : List Word → Word → Nat → Word
  | [], computed, _ => computed
  | sibling :: rest, computed, path =>
    merkleRoot r rest
      (if path % 2 = 0 then r.nodeHash computed sibling else r.nodeHash sibling computed) (path / 2)

def authenticateBlockReferences (r : Deployment) (s : AntseedWashTradingRegistry) (stored : Nat → Bool)
    (proofId : Word) (chunkIndex : Nat) (references : List BlockRef) (proof : List Word) :
    Tx Error AntseedWashTradingRegistry := do
  decode 32 chunkIndex
  let staged := s.stagedProofs proofId
  require (staged.exists_ = true) .sellerProofNotStaged
  require (staged.finalized = false) .sellerProofAlreadyFinalized
  require (references.length ≠ 0) .emptyBlockReferenceChunk
  require (¬ (chunkIndex ≥ staged.blockAuthenticationChunkCount ∨
    references.length > staged.blockAuthenticationChunkSize)) .invalidBlockAuthenticationChunk
  require (s.authenticatedChunks proofId chunkIndex = false) .blockAuthenticationChunkAlreadySubmitted
  let next ← uint 32 (chunkIndex + 1)
  -- `_finalChunkSize` is computed for the last chunk only
  let expected ← (if next = staged.blockAuthenticationChunkCount then finalChunkSize staged
    else pure staged.blockAuthenticationChunkSize)
  require (references.length = expected) .invalidBlockAuthenticationChunk
  let wouldBe ← uint 256 (staged.authenticatedBlockReferenceCount + references.length)
  require (¬ wouldBe > staged.blockReferenceCount) .tooManyBlockReferences
  checkReferences r stored none references
  require (merkleRoot r proof (r.chunkHash chunkIndex references) chunkIndex =
    staged.blockAuthenticationRoot) .invalidBlockAuthenticationChunk
  let referenceCount ← uint 32
    (staged.authenticatedBlockReferenceCount + references.length % 2 ^ 32)
  let chunkCount ← uint 32 (staged.authenticatedBlockChunkCount + 1)
  pure { s with
    authenticatedChunks := update s.authenticatedChunks proofId
      (update (s.authenticatedChunks proofId) chunkIndex true)
    stagedProofs := update s.stagedProofs proofId { staged with
      authenticatedBlockReferenceCount := referenceCount
      authenticatedBlockChunkCount := chunkCount } }

variable (s : AntseedWashTradingRegistry)

def finalizeSellerProof (proofId : Word) :
    Tx Error AntseedWashTradingRegistry := do
  let staged := s.stagedProofs proofId
  require (staged.exists_ = true) .sellerProofNotStaged
  require (staged.finalized = false) .sellerProofAlreadyFinalized
  require (¬ (staged.authenticatedBlockReferenceCount ≠ staged.blockReferenceCount ∨
    staged.authenticatedBlockChunkCount ≠ staged.blockAuthenticationChunkCount))
    .incompleteBlockAuthentication
  let current := s.sellerRecords staged.seller
  require (¬ staged.provenWashVolume ≤ current.provenWashVolume) .strongerResultRequired
  require (¬ (current.totalSellerVolume ≠ 0 ∧ staged.totalSellerVolume ≠ current.totalSellerVolume))
    .totalVolumeMismatch
  pure { s with
    sellerRecords := update s.sellerRecords staged.seller
      ⟨staged.provenWashVolume, staged.totalSellerVolume, staged.evidenceDigest⟩
    stagedProofs := update s.stagedProofs proofId { staged with finalized := true } }

def provenWashVolume (seller : Address) : Nat :=
  (s.sellerRecords seller).provenWashVolume

def provenWashShareBps (seller : Address) : Tx Error Nat :=
  let record := s.sellerRecords seller
  if record.totalSellerVolume = 0 then pure 0
  else do
    let scaled ← uint 256 (record.provenWashVolume * 10000)
    div scaled record.totalSellerVolume

def isProvenWashTrader (seller : Address) : Tx Error Bool :=
  let record := s.sellerRecords seller
  if record.totalSellerVolume = 0 then pure false
  else do
    let proven ← uint 256 (record.provenWashVolume * 10000)
    let threshold ← uint 256 (record.totalSellerVolume * washTradingThresholdBps)
    pure (proven ≥ threshold)

end AntseedWashTradingRegistry

/-- A call of the registry by anyone; the second one with the blocks the store knows. -/
inductive Call where
  | stageSellerProof (publicValues proofBytes : List UInt8)
  | authenticateBlockReferences (stored : Nat → Bool) (proofId : Word) (chunkIndex : Nat)
      (references : List BlockRef) (proof : List Word)
  | finalizeSellerProof (proofId : Word)

def step (r : Deployment) (s : AntseedWashTradingRegistry) : Call → Tx Error AntseedWashTradingRegistry
  | .stageSellerProof publicValues proofBytes => s.stageSellerProof r publicValues proofBytes
  | .authenticateBlockReferences stored proofId chunkIndex references proof =>
    s.authenticateBlockReferences r stored proofId chunkIndex references proof
  | .finalizeSellerProof proofId => s.finalizeSellerProof proofId

def machine (r : Deployment) : Machine AntseedWashTradingRegistry Call (Revert Error) := ⟨step r⟩

end AntSeed.Integrity
