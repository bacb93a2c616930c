import AntSeed.Integrity.AntseedWashTradingRegistry
import AntSeed.Lib.Chunks

/-! # A batch is complete when it is finalized

The registry does not look at the chunks again when it finalizes: it compares two
counters. They are enough because an accepted chunk has the length its index
calls for and no index is accepted twice, in whatever order the chunks arrive.
-/

namespace AntSeed.Integrity

open Evm Function
open AntseedWashTradingRegistry
open List Meets Nat

/-- A chunk of block references that was authenticated. -/
structure Chunk where
  proofId : Word
  index : Nat
  references : List BlockRef
  deriving DecidableEq, Repr

def authenticated (_ : AntseedWashTradingRegistry) : Call → List Chunk
  | .authenticateBlockReferences _ proofId chunkIndex references _ => [⟨proofId, chunkIndex, references⟩]
  | .stageSellerProof _ _ | .finalizeSellerProof _ => []

/-- The chunks of one batch. -/
def chunksOf (chunks : List Chunk) (proofId : Word) : List Chunk :=
  chunks.filter fun chunk => chunk.proofId = proofId

def indicesOf (chunks : List Chunk) (proofId : Word) : List Nat :=
  (chunksOf chunks proofId).map Chunk.index

def StagedProof.expected (staged : StagedProof) (index : Nat) : Nat :=
  chunkLength staged.blockReferenceCount staged.blockAuthenticationChunkSize
    staged.blockAuthenticationChunkCount index

/-- What the registration of a batch has checked. -/
structure StagedProof.Registered (staged : StagedProof) : Prop where
  splits : Splits staged.blockReferenceCount staged.blockAuthenticationChunkSize
    staged.blockAuthenticationChunkCount
  chunkSize : 0 < staged.blockAuthenticationChunkSize
  referenceCount : staged.blockReferenceCount < 2 ^ 32
  chunkCount : staged.blockAuthenticationChunkCount < 2 ^ 32
  washVolume : staged.provenWashVolume < 2 ^ 128
  totalVolume : 0 < staged.totalSellerVolume ∧ staged.totalSellerVolume < 2 ^ 128

/-- Reverts of checks that the registration of a batch makes superfluous do not happen. -/
def NotSuperfluous (reason : Revert Error) : Prop :=
  reason ≠ .custom .tooManyBlockReferences ∧ reason ≠ .overflow ∧ reason ≠ .underflow

/-- What holds after any run, if it has authenticated these chunks. -/
structure Kept (r : Deployment) (chunks : List Chunk) (s : AntseedWashTradingRegistry) : Prop where
  registered : ∀ id, (s.stagedProofs id).exists_ = true → (s.stagedProofs id).Registered
  unstaged : ∀ id, (s.stagedProofs id).exists_ = false → s.stagedProofs id = {} ∧ chunksOf chunks id = []
  marked : ∀ id index, s.authenticatedChunks id index = true ↔ index ∈ indicesOf chunks id
  distinct : ∀ id, (indicesOf chunks id).Nodup
  expected : ∀ chunk ∈ chunks, chunk.index < (s.stagedProofs chunk.proofId).blockAuthenticationChunkCount ∧
    chunk.references.length = (s.stagedProofs chunk.proofId).expected chunk.index
  canonical : ∀ chunk ∈ chunks, ∀ blockRef ∈ chunk.references,
    blockRef.blockHash ≠ 0 ∧ blockRef.blockHash = r.blockhash blockRef.number
  chunkCount : ∀ id, (s.stagedProofs id).authenticatedBlockChunkCount = (chunksOf chunks id).length
  referenceCount : ∀ id, (s.stagedProofs id).authenticatedBlockReferenceCount =
    ((chunksOf chunks id).map fun chunk => chunk.references.length).sum
  finalized : ∀ id, (s.stagedProofs id).finalized = true →
    (s.stagedProofs id).authenticatedBlockReferenceCount = (s.stagedProofs id).blockReferenceCount ∧
      (s.stagedProofs id).authenticatedBlockChunkCount = (s.stagedProofs id).blockAuthenticationChunkCount
  recorded : ∀ seller, s.sellerRecords seller = {} ∨
    ((s.sellerRecords seller).provenWashVolume < 2 ^ 128 ∧
      0 < (s.sellerRecords seller).totalSellerVolume ∧ (s.sellerRecords seller).totalSellerVolume < 2 ^ 128)

theorem kept_deployed (r : Deployment) : Kept r [] {} where
  registered _ staged := by cases staged
  unstaged _ _ := ⟨rfl, rfl⟩
  marked _ _ := by simp [indicesOf, chunksOf]
  distinct _ := nodup_nil
  expected := nofun
  canonical := nofun
  chunkCount _ := rfl
  referenceCount _ := rfl
  finalized _ done := by cases done
  recorded _ := .inl rfl

variable {chunks : List Chunk} {id : Word}

theorem not_mem_of_chunksOf (none : chunksOf chunks id = [])
    {chunk : Chunk} (member : chunk ∈ chunks) : chunk.proofId ≠ id := by
  intro same
  have listed : chunk ∈ chunksOf chunks id := mem_filter.mpr ⟨member, by simpa using same⟩
  rw [none] at listed
  cases listed

theorem Kept.stage {r : Deployment} {s : AntseedWashTradingRegistry}
    (kept : Kept r chunks s) (fresh : (s.stagedProofs id).exists_ = false)
    {staged : StagedProof} (registered : staged.Registered) (exists_ : staged.exists_ = true)
    (open_ : staged.finalized = false) (references : staged.authenticatedBlockReferenceCount = 0)
    (count : staged.authenticatedBlockChunkCount = 0) :
    Kept r chunks { s with stagedProofs := update s.stagedProofs id staged } where
  registered x isStaged := by
    by_cases here : x = id
    · subst here
      simpa using registered
    · simp only [update_of_ne here] at isStaged ⊢
      exact kept.registered x isStaged
  unstaged x isFresh := by
    by_cases here : x = id
    · subst here
      simp [exists_] at isFresh
    · simp only [update_of_ne here] at isFresh ⊢
      exact kept.unstaged x isFresh
  marked := kept.marked
  distinct := kept.distinct
  expected chunk member := by
    have other := not_mem_of_chunksOf (kept.unstaged id fresh).2 member
    simp only [update_of_ne other]
    exact kept.expected chunk member
  canonical := kept.canonical
  chunkCount x := by
    by_cases here : x = id
    · subst here
      simp [count, (kept.unstaged x fresh).2]
    · simp only [update_of_ne here]
      exact kept.chunkCount x
  referenceCount x := by
    by_cases here : x = id
    · subst here
      simp [references, (kept.unstaged x fresh).2]
    · simp only [update_of_ne here]
      exact kept.referenceCount x
  finalized x done := by
    by_cases here : x = id
    · subst here
      simp [open_] at done
    · simp only [update_of_ne here] at done ⊢
      exact kept.finalized x done
  recorded := kept.recorded

namespace AntseedWashTradingRegistry

variable {r : Deployment} {s s' : AntseedWashTradingRegistry} {chunks : List Chunk}

theorem decodeJournal_meets (publicValues : List UInt8) :
    Meets (decodeJournal publicValues) NotSuperfluous fun journal =>
      journal.blockReferenceCount < 2 ^ 32 ∧ journal.blockAuthenticationChunkSize < 2 ^ 32 ∧
        journal.blockAuthenticationChunkCount < 2 ^ 32 ∧ journal.provenWashVolume < 2 ^ 128 ∧
        journal.totalSellerVolume < 2 ^ 128 := by
  have refused : NotSuperfluous .calldata := ⟨nofun, nofun, nofun⟩
  refine .bind (Abi.requireWords_meets refused) fun _ _ => ?_
  refine .bind (Abi.uintAt_meets refused) fun _ _ => bind (Abi.uintAt_meets refused) fun _ _ => ?_
  refine .bind (Abi.uintAt_meets refused) fun _ _ => bind (Abi.uintAt_meets refused) fun _ _ => ?_
  refine .bind (Abi.addressAt_meets refused) fun _ _ => ?_
  refine .bind (Abi.uintAt_meets refused) fun _ wash => ?_
  refine .bind (Abi.uintAt_meets refused) fun _ total => ?_
  refine .bind (Abi.uintAt_meets refused) fun _ references => ?_
  refine .bind (Abi.uintAt_meets refused) fun _ size => ?_
  refine .bind (Abi.uintAt_meets refused) fun _ count => ?_
  exact .pure ⟨references, size, count, wash, total⟩

theorem stageSellerProof_meets (kept : Kept r chunks s) (publicValues proofBytes : List UInt8) :
    Meets (s.stageSellerProof r publicValues proofBytes) NotSuperfluous fun s' =>
      Kept r chunks s' ∧ s'.sellerRecords = s.sellerRecords := by
  refine .require ⟨nofun, nofun, nofun⟩ fun fresh => ?_
  refine .external ⟨nofun, nofun, nofun⟩ ?_
  refine .bind (decodeJournal_meets publicValues) fun journal bounds => ?_
  obtain ⟨references, size, count, wash, total⟩ := bounds
  refine .require ⟨nofun, nofun, nofun⟩ fun valid => ?_
  push Not at valid
  obtain ⟨-, -, -, -, -, -, -, someTotal, -, someSize, someCount, -⟩ := valid
  have chunked : journal.blockAuthenticationChunkSize * journal.blockAuthenticationChunkCount <
      2 ^ 32 * 2 ^ 32 := mul_lt_mul'' size count
  have least : journal.blockAuthenticationChunkSize ≤
      journal.blockAuthenticationChunkSize * journal.blockAuthenticationChunkCount :=
    Nat.le_mul_of_pos_right _ (Nat.pos_of_ne_zero someCount)
  refine .fits (by omega) (sub least (fits (by omega) ?_))
  refine .require ⟨nofun, nofun, nofun⟩ fun within => pure ⟨?_, rfl⟩
  have before : journal.blockAuthenticationChunkSize * (journal.blockAuthenticationChunkCount - 1) =
      journal.blockAuthenticationChunkSize * journal.blockAuthenticationChunkCount -
        journal.blockAuthenticationChunkSize := by rw [Nat.mul_sub, Nat.mul_one]
  have registered : Splits journal.blockReferenceCount journal.blockAuthenticationChunkSize
      journal.blockAuthenticationChunkCount :=
    ⟨pos_of_ne_zero someCount, by omega, by omega⟩
  exact kept.stage fresh ⟨registered, pos_of_ne_zero someSize, references, count, wash,
    pos_of_ne_zero someTotal, total⟩ rfl rfl rfl rfl

theorem finalChunkSize_meets (registered : staged.Registered) :
    Meets (finalChunkSize staged) NotSuperfluous fun size =>
      size = staged.blockReferenceCount - staged.blockAuthenticationChunkSize *
        (staged.blockAuthenticationChunkCount - 1) := by
  have started := registered.splits.started
  have small := registered.referenceCount
  refine .sub registered.splits.chunks (fits (by omega) ?_)
  exact .of_ok (sub_eq_ok.mpr ⟨le_of_lt started, rfl⟩) rfl

theorem checkReferences_meets (stored : Nat → Bool) (previous : Option Nat) (references : List BlockRef) :
    Meets (checkReferences r stored previous references) NotSuperfluous fun _ =>
      ∀ blockRef ∈ references, blockRef.blockHash ≠ 0 ∧
        blockRef.blockHash = r.blockhash blockRef.number := by
  induction references generalizing previous with
  | nil => exact .pure nofun
  | cons blockRef rest ih =>
    refine .decode ⟨nofun, nofun, nofun⟩ fun _ => ?_
    refine .require ⟨nofun, nofun, nofun⟩ fun _ => ?_
    refine .require ⟨nofun, nofun, nofun⟩ fun known => ?_
    push Not at known
    obtain ⟨some, answered⟩ := known
    refine (ih _).mono fun _ later => forall_mem_cons.mpr ⟨⟨some, ?_⟩, later⟩
    unfold canonicalBlockhash at answered
    split at answered
    · exact answered.symm
    · exact absurd answered.symm some

end AntseedWashTradingRegistry

section Authenticate

variable {r : Deployment} {chunks : List Chunk} {s : AntseedWashTradingRegistry} {id : Word} {index : Nat}
  {references : List BlockRef}

@[simp] theorem chunksOf_concat (chunks : List Chunk) (chunk : Chunk) (x : Word) :
    chunksOf (chunks ++ [chunk]) x = chunksOf chunks x ++ if chunk.proofId = x then [chunk] else [] := by
  unfold chunksOf
  rw [filter_append, filter_cons]
  simp

@[simp] theorem indicesOf_concat (chunks : List Chunk) (chunk : Chunk) (x : Word) :
    indicesOf (chunks ++ [chunk]) x =
      indicesOf chunks x ++ if chunk.proofId = x then [chunk.index] else [] := by
  unfold indicesOf
  rw [chunksOf_concat, map_append]
  split <;> rfl

section

variable (kept : Kept r chunks s)

include kept

theorem Kept.indices_below (id : Word) :
    ∀ index ∈ indicesOf chunks id, index < (s.stagedProofs id).blockAuthenticationChunkCount := by
  intro index member
  obtain ⟨chunk, listed, rfl⟩ := mem_map.mp member
  obtain ⟨inside, isId⟩ := mem_filter.mp listed
  have same : chunk.proofId = id := by simpa using isId
  rw [← same]
  exact (kept.expected chunk inside).1

theorem Kept.referenceCount_expected (id : Word) :
    (s.stagedProofs id).authenticatedBlockReferenceCount =
      ((indicesOf chunks id).map (s.stagedProofs id).expected).sum := by
  rw [kept.referenceCount, indicesOf, map_map]
  congr 1
  refine map_congr_left fun chunk listed => ?_
  obtain ⟨inside, isId⟩ := mem_filter.mp listed
  have same : chunk.proofId = id := by simpa using isId
  rw [← same]
  exact (kept.expected chunk inside).2

theorem Kept.room (staged : (s.stagedProofs id).exists_ = true)
    (inside : index < (s.stagedProofs id).blockAuthenticationChunkCount)
    (missing : s.authenticatedChunks id index = false) :
    (s.stagedProofs id).authenticatedBlockReferenceCount + (s.stagedProofs id).expected index ≤
        (s.stagedProofs id).blockReferenceCount ∧
      (s.stagedProofs id).authenticatedBlockChunkCount + 1 ≤
        (s.stagedProofs id).blockAuthenticationChunkCount := by
  have absent : index ∉ indicesOf chunks id := by
    intro member
    rw [← kept.marked, missing] at member
    cases member
  constructor
  · rw [kept.referenceCount_expected]
    exact collected_room (kept.registered id staged).splits (kept.distinct id) (kept.indices_below id)
      absent inside
  · have more := collected_length (nodup_cons.mpr ⟨absent, kept.distinct id⟩)
      (forall_mem_cons.mpr ⟨inside, kept.indices_below id⟩)
    rw [kept.chunkCount]
    simpa [indicesOf] using more

theorem Kept.authenticate (staged : (s.stagedProofs id).exists_ = true)
    (open_ : (s.stagedProofs id).finalized = false)
    (inside : index < (s.stagedProofs id).blockAuthenticationChunkCount)
    (missing : s.authenticatedChunks id index = false)
    (length : references.length = (s.stagedProofs id).expected index)
    (canonical : ∀ blockRef ∈ references, blockRef.blockHash ≠ 0 ∧
      blockRef.blockHash = r.blockhash blockRef.number) :
    Kept r (chunks ++ [⟨id, index, references⟩]) { s with
      authenticatedChunks := update s.authenticatedChunks id
        (update (s.authenticatedChunks id) index true)
      stagedProofs := update s.stagedProofs id { s.stagedProofs id with
        authenticatedBlockReferenceCount :=
          (s.stagedProofs id).authenticatedBlockReferenceCount + references.length
        authenticatedBlockChunkCount := (s.stagedProofs id).authenticatedBlockChunkCount + 1 } } where
  registered x isStaged := by
    by_cases here : x = id
    · subst here
      have before := kept.registered x staged
      simp only [update_self]
      exact ⟨before.splits, before.chunkSize, before.referenceCount, before.chunkCount,
        before.washVolume, before.totalVolume⟩
    · simp only [update_of_ne here] at isStaged ⊢
      exact kept.registered x isStaged
  unstaged x isFresh := by
    by_cases here : x = id
    · subst here
      simp [staged] at isFresh
    · simp only [update_of_ne here] at isFresh ⊢
      obtain ⟨empty, none⟩ := kept.unstaged x isFresh
      simp [empty, none, Ne.symm here]
  marked x i := by
    dsimp only
    rw [update_nested, indicesOf_concat, mem_append, ← kept.marked]
    by_cases here : id = x
    · subst here
      by_cases now : i = index
      · simp [now]
      · simp [now]
    · simp [here, Ne.symm here]
  distinct x := by
    rw [indicesOf_concat]
    by_cases here : id = x
    · subst here
      have absent : index ∉ indicesOf chunks id := by
        intro member
        rw [← kept.marked, missing] at member
        cases member
      rw [if_pos rfl]
      refine nodup_append.mpr ⟨kept.distinct id, nodup_singleton _, fun a listed b now => ?_⟩
      have isNow : b = index := mem_singleton.mp now
      rw [isNow]
      exact fun same => absent (same ▸ listed)
    · simpa [here] using kept.distinct x
  expected chunk member := by
    rcases mem_append.mp member with before | now
    · have same := kept.expected chunk before
      by_cases here : chunk.proofId = id
      · rw [here] at same
        simp only [here, update_self]
        exact same
      · simp only [update_of_ne here]
        exact same
    · obtain rfl := mem_singleton.mp now
      simp only [update_self]
      exact ⟨inside, length⟩
  canonical chunk member := by
    rcases mem_append.mp member with before | now
    · exact kept.canonical chunk before
    · obtain rfl := mem_singleton.mp now
      exact canonical
  chunkCount x := by
    rw [chunksOf_concat]
    by_cases here : id = x
    · subst here
      simp [kept.chunkCount]
    · simp [here, Ne.symm here, kept.chunkCount]
  referenceCount x := by
    rw [chunksOf_concat]
    by_cases here : id = x
    · subst here
      simp [kept.referenceCount]
    · simp [here, Ne.symm here, kept.referenceCount]
  finalized x done := by
    by_cases here : x = id
    · subst here
      simp [open_] at done
    · simp only [update_of_ne here] at done ⊢
      exact kept.finalized x done
  recorded := kept.recorded

end

end Authenticate

namespace AntseedWashTradingRegistry

variable {r : Deployment} {s s' : AntseedWashTradingRegistry} {chunks : List Chunk}

theorem authenticateBlockReferences_meets (kept : Kept r chunks s) (stored : Nat → Bool) (id : Word)
    (index : Nat) (references : List BlockRef) (proof : List Word) :
    Meets (s.authenticateBlockReferences r stored id index references proof) NotSuperfluous fun s' =>
      Kept r (chunks ++ [⟨id, index, references⟩]) s' ∧ s'.sellerRecords = s.sellerRecords := by
  refine .decode ⟨nofun, nofun, nofun⟩ fun _ => ?_
  refine .require ⟨nofun, nofun, nofun⟩ fun staged => ?_
  refine .require ⟨nofun, nofun, nofun⟩ fun open_ => ?_
  refine .require ⟨nofun, nofun, nofun⟩ fun _ => ?_
  refine .require ⟨nofun, nofun, nofun⟩ fun bounds => ?_
  refine .require ⟨nofun, nofun, nofun⟩ fun missing => ?_
  have registered := kept.registered id staged
  have inside : index < (s.stagedProofs id).blockAuthenticationChunkCount := by omega
  have fewChunks := registered.chunkCount
  have fewReferences := registered.referenceCount
  obtain ⟨room, slot⟩ := kept.room staged inside missing
  refine .fits (by omega) ?_
  have isExpected : Meets (if index + 1 = (s.stagedProofs id).blockAuthenticationChunkCount then
      finalChunkSize (s.stagedProofs id) else pure (s.stagedProofs id).blockAuthenticationChunkSize)
      NotSuperfluous fun size => size = (s.stagedProofs id).expected index := by
    refine .ite (fun last => ?_) fun earlier => pure ?_
    · refine (finalChunkSize_meets registered).mono fun size isSize => ?_
      rw [isSize]
      exact (if_pos last).symm
    · exact (if_neg earlier).symm
  refine .bind isExpected fun size isSize => ?_
  refine .require ⟨nofun, nofun, nofun⟩ fun length => ?_
  rw [isSize] at length
  refine .fits (by omega) (passes (by omega) ?_)
  refine .bind (checkReferences_meets stored none references) fun _ canonical => ?_
  refine .require ⟨nofun, nofun, nofun⟩ fun _ => ?_
  rw [mod_eq_of_lt (by omega)]
  refine .fits (by omega) (fits (by omega) (pure ⟨?_, rfl⟩))
  exact kept.authenticate staged open_ inside missing length canonical

end AntseedWashTradingRegistry

/-- The recorded wash volumes only rise, and a total that was recorded once stays. -/
structure Raises (s s' : AntseedWashTradingRegistry) : Prop where
  volume : ∀ seller, s.provenWashVolume seller ≤ s'.provenWashVolume seller
  total : ∀ seller, (s.sellerRecords seller).totalSellerVolume ≠ 0 →
    (s'.sellerRecords seller).totalSellerVolume = (s.sellerRecords seller).totalSellerVolume

theorem Raises.refl (s : AntseedWashTradingRegistry) : Raises s s :=
  ⟨fun _ => le_refl _, fun _ _ => rfl⟩

theorem Raises.trans {a b c : AntseedWashTradingRegistry} (first : Raises a b) (second : Raises b c) :
    Raises a c where
  volume seller := le_trans (first.volume seller) (second.volume seller)
  total seller some := by
    have same := first.total seller some
    rw [second.total seller (same ▸ some), same]

theorem raises_of_same (same : s'.sellerRecords = s.sellerRecords) :
    Raises s s' := by
  refine ⟨fun seller => ?_, fun seller _ => by rw [same]⟩
  unfold provenWashVolume
  rw [same]

section Finalize

variable {r : Deployment} {chunks : List Chunk} {s s' : AntseedWashTradingRegistry}

theorem Kept.finalize (kept : Kept r chunks s) (staged : (s.stagedProofs id).exists_ = true)
    (references : (s.stagedProofs id).authenticatedBlockReferenceCount =
      (s.stagedProofs id).blockReferenceCount)
    (count : (s.stagedProofs id).authenticatedBlockChunkCount =
      (s.stagedProofs id).blockAuthenticationChunkCount) :
    Kept r chunks { s with
      sellerRecords := update s.sellerRecords (s.stagedProofs id).seller
        ⟨(s.stagedProofs id).provenWashVolume, (s.stagedProofs id).totalSellerVolume,
          (s.stagedProofs id).evidenceDigest⟩
      stagedProofs := update s.stagedProofs id { s.stagedProofs id with finalized := true } } := by
  have registered := kept.registered id staged
  -- Only the mark of the batch changes, and the record of its seller.
  have same : ∀ x, ∃ done, update s.stagedProofs id { s.stagedProofs id with finalized := true } x =
      { s.stagedProofs x with finalized := done } := by
    intro x
    by_cases here : x = id
    · subst here
      exact ⟨true, update_self ..⟩
    · exact ⟨(s.stagedProofs x).finalized, update_of_ne here _ _⟩
  refine ⟨fun x isStaged => ?_, fun x isFresh => ?_, kept.marked, kept.distinct, fun chunk member => ?_,
    kept.canonical, fun x => ?_, fun x => ?_, fun x done => ?_, fun seller => ?_⟩
  · obtain ⟨done, isSame⟩ := same x
    dsimp only at isStaged ⊢
    rw [isSame] at isStaged ⊢
    have before := kept.registered x isStaged
    exact ⟨before.splits, before.chunkSize, before.referenceCount, before.chunkCount, before.washVolume,
      before.totalVolume⟩
  · by_cases here : x = id
    · subst here
      simp [staged] at isFresh
    · simp only [update_of_ne here] at isFresh ⊢
      exact kept.unstaged x isFresh
  · obtain ⟨done, isSame⟩ := same chunk.proofId
    dsimp only
    rw [isSame]
    exact kept.expected chunk member
  · obtain ⟨done, isSame⟩ := same x
    dsimp only
    rw [isSame]
    exact kept.chunkCount x
  · obtain ⟨done, isSame⟩ := same x
    dsimp only
    rw [isSame]
    exact kept.referenceCount x
  · by_cases here : x = id
    · subst here
      simp only [update_self]
      exact ⟨references, count⟩
    · simp only [update_of_ne here] at done ⊢
      exact kept.finalized x done
  · by_cases own : seller = (s.stagedProofs id).seller
    · subst own
      simp only [update_self]
      exact .inr ⟨registered.washVolume, registered.totalVolume⟩
    · simp only [update_of_ne own]
      exact kept.recorded seller

theorem AntseedWashTradingRegistry.finalizeSellerProof_meets (kept : Kept r chunks s) (id : Word) :
    Meets (s.finalizeSellerProof id) NotSuperfluous fun s' =>
      Kept r chunks s' ∧ Raises s s' ∧ s.provenWashVolume (s.stagedProofs id).seller <
        s'.provenWashVolume (s.stagedProofs id).seller := by
  refine .require ⟨nofun, nofun, nofun⟩ fun staged => ?_
  refine .require ⟨nofun, nofun, nofun⟩ fun _ => ?_
  refine .require ⟨nofun, nofun, nofun⟩ fun complete => ?_
  refine .require ⟨nofun, nofun, nofun⟩ fun stronger => ?_
  refine .require ⟨nofun, nofun, nofun⟩ fun matching => pure ?_
  push Not at complete matching
  refine ⟨kept.finalize staged complete.1 complete.2, ⟨fun seller => ?_, fun seller some => ?_⟩, ?_⟩
  · unfold provenWashVolume
    by_cases own : seller = (s.stagedProofs id).seller
    · subst own
      simp only [update_self]
      omega
    · simp only [update_of_ne own]
      exact le_refl _
  · by_cases own : seller = (s.stagedProofs id).seller
    · subst own
      simp only [update_self]
      exact matching some
    · simp only [update_of_ne own]
  · unfold provenWashVolume
    simp only [update_self]
    omega

end Finalize

variable {r : Deployment} {chunks : List Chunk} {s s' : AntseedWashTradingRegistry} {call : Call}

theorem step_meets (kept : Kept r chunks s) (call : Call) :
    Meets (step r s call) NotSuperfluous fun s' =>
      Kept r (chunks ++ authenticated s call) s' ∧ Raises s s' := by
  cases call with
  | stageSellerProof publicValues proofBytes =>
    refine (stageSellerProof_meets kept publicValues proofBytes).mono ?_
    rintro s' ⟨after, same⟩
    rw [authenticated, append_nil]
    exact ⟨after, raises_of_same same⟩
  | authenticateBlockReferences stored proofId chunkIndex references proof =>
    refine (authenticateBlockReferences_meets kept stored proofId chunkIndex references proof).mono ?_
    rintro s' ⟨after, same⟩
    exact ⟨after, raises_of_same same⟩
  | finalizeSellerProof proofId =>
    refine (finalizeSellerProof_meets kept proofId).mono ?_
    rintro s' ⟨after, raises, -⟩
    rw [authenticated, append_nil]
    exact ⟨after, raises⟩

theorem run_kept (r : Deployment) (calls : List Call) :
    Kept r ((machine r).log authenticated {} calls) ((machine r).run {} calls) :=
  (machine r).run_invariant_log (I := Kept r)
    (fun _ _ call _ kept taken => ((step_meets kept call).result taken).1) (kept_deployed r) calls

theorem run_raises (kept : Kept r chunks s) (later : List Call) : Raises s ((machine r).run s later) :=
  (machine r).run_progress (I := fun s => ∃ chunks, Kept r chunks s) (R := Raises) .refl Raises.trans
    (fun _ call _ ⟨_, kept⟩ taken => ⟨_, ((step_meets kept call).result taken).1⟩)
    (fun _ call _ ⟨_, kept⟩ taken => ((step_meets kept call).result taken).2) ⟨chunks, kept⟩ later

/-- What the view answers: the seller is on record, with a wash volume of at least the threshold. -/
theorem isProvenWashTrader_eq (kept : Kept r chunks s) (seller : Address) :
    s.isProvenWashTrader seller = .ok ((s.sellerRecords seller).totalSellerVolume ≠ 0 ∧
      (s.sellerRecords seller).totalSellerVolume * washTradingThresholdBps ≤
        s.provenWashVolume seller * 10000) := by
  unfold isProvenWashTrader provenWashVolume
  dsimp only
  rcases kept.recorded seller with none | ⟨wash, some, total⟩
  · rw [none, if_pos rfl]
    rfl
  · rw [if_neg (ne_of_gt some)]
    have proven : (s.sellerRecords seller).provenWashVolume * 10000 < 2 ^ 256 :=
      Nat.lt_of_lt_of_le (Nat.mul_lt_mul_of_pos_right wash (by decide)) (by decide)
    have threshold : (s.sellerRecords seller).totalSellerVolume * washTradingThresholdBps < 2 ^ 256 :=
      Nat.lt_of_lt_of_le (Nat.mul_lt_mul_of_pos_right total (by decide)) (by decide)
    simp [uint_fits proven, uint_fits threshold, ne_of_gt some]

theorem provenWashShareBps_eq (kept : Kept r chunks s) (seller : Address) :
    s.provenWashShareBps seller =
      .ok (s.provenWashVolume seller * 10000 / (s.sellerRecords seller).totalSellerVolume) := by
  unfold provenWashShareBps provenWashVolume
  dsimp only
  rcases kept.recorded seller with none | ⟨wash, some, -⟩
  · rw [none, if_pos rfl]
    rfl
  · have scaled : (s.sellerRecords seller).provenWashVolume * 10000 < 2 ^ 256 :=
      Nat.lt_of_lt_of_le (Nat.mul_lt_mul_of_pos_right wash (by decide)) (by decide)
    rw [if_neg (ne_of_gt some)]
    exact bind_eq_ok.mpr ⟨_, uint_fits scaled, div_eq_ok.mpr ⟨ne_of_gt some, rfl⟩⟩

/-- The share of its volume that a seller is proven to have traded with itself is always quoted. It
    never falls, whatever is proven later, and a proven wash trader is exactly a seller whose quoted
    share has reached the threshold. -/
theorem quoted_share_decides (r : Deployment) (calls later : List Call) (seller : Address) :
    let s := (machine r).run {} calls
    ∃ share raised, s.provenWashShareBps seller = .ok share ∧
      ((machine r).run s later).provenWashShareBps seller = .ok raised ∧ share ≤ raised ∧
      s.isProvenWashTrader seller = .ok (washTradingThresholdBps ≤ share) := by
  intro s
  obtain ⟨chunks, kept⟩ : ∃ chunks, Kept r chunks s := ⟨_, run_kept r calls⟩
  obtain ⟨more, after⟩ : ∃ more, Kept r more ((machine r).run s later) :=
    ⟨_, Machine.run_append _ _ calls later ▸ run_kept r (calls ++ later)⟩
  have raises := run_raises kept later
  refine ⟨_, _, provenWashShareBps_eq kept seller, provenWashShareBps_eq after seller, ?_, ?_⟩
  · by_cases none : (s.sellerRecords seller).totalSellerVolume = 0
    · rw [none, Nat.div_zero]
      exact Nat.zero_le _
    · rw [raises.total seller none]
      exact Nat.div_le_div_right (Nat.mul_le_mul_right _ (raises.volume seller))
  · rw [isProvenWashTrader_eq kept]
    by_cases none : (s.sellerRecords seller).totalSellerVolume = 0
    · simp [none, washTradingThresholdBps]
    · congr 1
      rw [decide_eq_decide, Nat.le_div_iff_mul_le (Nat.pos_of_ne_zero none), Nat.mul_comm]
      exact and_iff_right none

/-- For every run of the registry. A batch that is finalized has had each of its chunks authenticated
    exactly once, with the number of references its index calls for, and as many references in all as
    it was registered with. Every authenticated reference is canonical. No call, in any state reached,
    trips over `TooManyBlockReferences` or checked arithmetic, and every chunk of a registered batch
    has a length that the size checks admit. Recorded wash volumes only rise, strictly when a batch is
    finalized, and a proven wash trader stays one. -/
theorem batches_complete_when_finalized (r : Deployment) (calls : List Call) :
    let s := (machine r).run {} calls
    let chunks := (machine r).log authenticated {} calls
    (∀ id, (s.stagedProofs id).finalized = true →
      (∀ index, index < (s.stagedProofs id).blockAuthenticationChunkCount →
        (indicesOf chunks id).count index = 1) ∧
      (∀ chunk ∈ chunksOf chunks id,
        chunk.index < (s.stagedProofs id).blockAuthenticationChunkCount ∧
          chunk.references.length =
            if chunk.index + 1 = (s.stagedProofs id).blockAuthenticationChunkCount then
              (s.stagedProofs id).blockReferenceCount - (s.stagedProofs id).blockAuthenticationChunkSize *
                ((s.stagedProofs id).blockAuthenticationChunkCount - 1)
            else (s.stagedProofs id).blockAuthenticationChunkSize) ∧
      ((chunksOf chunks id).map fun chunk => chunk.references.length).sum =
        (s.stagedProofs id).blockReferenceCount) ∧
    (∀ chunk ∈ chunks, ∀ blockRef ∈ chunk.references,
      blockRef.blockHash ≠ 0 ∧ blockRef.blockHash = r.blockhash blockRef.number) ∧
    (∀ call reason, step r s call = .error reason →
      reason ≠ .custom .tooManyBlockReferences ∧ reason ≠ .overflow ∧ reason ≠ .underflow) ∧
    (∀ id index, (s.stagedProofs id).exists_ = true → 0 < (s.stagedProofs id).expected index ∧
      (s.stagedProofs id).expected index ≤ (s.stagedProofs id).blockAuthenticationChunkSize) ∧
    (∀ id s', step r s (.finalizeSellerProof id) = .ok s' →
      s.provenWashVolume (s.stagedProofs id).seller < s'.provenWashVolume (s.stagedProofs id).seller) ∧
    ∀ later seller, s.provenWashVolume seller ≤ ((machine r).run s later).provenWashVolume seller ∧
      (s.isProvenWashTrader seller = .ok true →
        ((machine r).run s later).isProvenWashTrader seller = .ok true) := by
  intro s chunks
  have kept : Kept r chunks s := run_kept r calls
  refine ⟨fun id done => ⟨fun index inside => ?_, fun chunk listed => ?_, ?_⟩, kept.canonical,
    fun call reason => (step_meets kept call).reason, fun id index staged => ?_, fun id s' taken => ?_,
    fun later seller => ⟨(run_raises kept later).volume seller, fun proven => ?_⟩⟩
  · have full : (indicesOf chunks id).length = (s.stagedProofs id).blockAuthenticationChunkCount := by
      rw [← (kept.finalized id done).2, kept.chunkCount, indicesOf, length_map]
    exact count_eq_one_of_mem (kept.distinct id)
      (collected_complete (kept.distinct id) (kept.indices_below id) full inside)
  · obtain ⟨member, isId⟩ := mem_filter.mp listed
    have same : chunk.proofId = id := by simpa using isId
    rw [← same]
    exact kept.expected chunk member
  · rw [← kept.referenceCount, (kept.finalized id done).1]
  · have registered := kept.registered id staged
    exact chunkLength_bounds registered.splits registered.chunkSize index
  · exact ((finalizeSellerProof_meets kept id).result taken).2.2
  · have raises := run_raises kept later
    obtain ⟨more, after⟩ : ∃ more, Kept r more ((machine r).run s later) :=
      ⟨_, (machine r).run_invariant_log (I := Kept r)
        (fun _ _ call _ kept taken => ((step_meets kept call).result taken).1) kept later⟩
    rw [isProvenWashTrader_eq kept] at proven
    rw [isProvenWashTrader_eq after]
    have threshold := of_decide_eq_true (Except.ok.inj proven)
    have total := raises.total seller threshold.1
    have volume := raises.volume seller
    congr 1
    refine decide_eq_true ⟨by rw [total]; exact threshold.1, ?_⟩
    rw [total]
    exact le_trans threshold.2 (mul_le_mul_right _ volume)

end AntSeed.Integrity
