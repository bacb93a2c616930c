import AntSeed.FreeUsage.AntseedFreeUsage

/-! # Free-usage records cannot be replayed

Signatures are never consumed. What keeps a signed record from being submitted
again is the sequence of its channel: `record` only accepts a larger one, and
`close`, which also accepts the latest one, accepts nothing after it.
-/

namespace AntSeed.FreeUsage

open Evm Function AntseedStats
open Nat

variable {r : Deployment} {s s' : State} {ext : External} {id : Word}

namespace AntseedStats

/-- No counter of the stats contract is smaller than before. -/
structure Grows (a b : AntseedStats) : Prop where
  inputTokens : ∀ id, (a.channelSnapshots id).inputTokens ≤ (b.channelSnapshots id).inputTokens
  outputTokens : ∀ id, (a.channelSnapshots id).outputTokens ≤ (b.channelSnapshots id).outputTokens
  requestCount : ∀ id, (a.channelSnapshots id).requestCount ≤ (b.channelSnapshots id).requestCount
  totalInputTokens : ∀ agent buyer, (a.buyerMetadataStats agent buyer).totalInputTokens ≤
    (b.buyerMetadataStats agent buyer).totalInputTokens
  totalOutputTokens : ∀ agent buyer, (a.buyerMetadataStats agent buyer).totalOutputTokens ≤
    (b.buyerMetadataStats agent buyer).totalOutputTokens
  totalRequestCount : ∀ agent buyer, (a.buyerMetadataStats agent buyer).totalRequestCount ≤
    (b.buyerMetadataStats agent buyer).totalRequestCount

variable {a b c : AntseedStats}

theorem grows_of_same (snapshots : b.channelSnapshots = a.channelSnapshots)
    (totals : b.buyerMetadataStats = a.buyerMetadataStats) : Grows a b := by
  constructor <;> simp [snapshots, totals]

theorem Grows.refl (a : AntseedStats) : Grows a a := grows_of_same rfl rfl

theorem Grows.trans (first : Grows a b) (second : Grows b c) : Grows a c where
  inputTokens id := le_trans (first.inputTokens id) (second.inputTokens id)
  outputTokens id := le_trans (first.outputTokens id) (second.outputTokens id)
  requestCount id := le_trans (first.requestCount id) (second.requestCount id)
  totalInputTokens agent buyer :=
    le_trans (first.totalInputTokens agent buyer) (second.totalInputTokens agent buyer)
  totalOutputTokens agent buyer :=
    le_trans (first.totalOutputTokens agent buyer) (second.totalOutputTokens agent buyer)
  totalRequestCount agent buyer :=
    le_trans (first.totalRequestCount agent buyer) (second.totalRequestCount agent buyer)

theorem le_update {K : Type} [DecidableEq K] {V : Type} (f : V → Nat) {m : K → V} {k : K} {v : V}
    (more : f (m k) ≤ f v) (x : K) : f (m x) ≤ f (update m k v x) := by
  by_cases here : x = k
  · subst here
    rwa [update_self]
  · rw [update_of_ne here]

theorem grows_recordMetadata {now : Nat} {sender buyer : Address} {agentId channelId : Word}
    {metadata : List UInt8}
    (h : a.recordMetadata now sender agentId buyer channelId metadata = .ok b) : Grows a b := by
  replace h := rest_ok h
  replace h := rest_ok h
  obtain ⟨⟨input, output, requests⟩, -, h⟩ := ran h
  dsimp only at h
  split at h
  · cases h
    exact .refl a
  next monotonic =>
    obtain ⟨inputDelta, -, h⟩ := ran h
    obtain ⟨outputDelta, -, h⟩ := ran h
    obtain ⟨requestDelta, -, h⟩ := ran h
    replace h := uint_rest h
    replace h := uint_rest h
    replace h := uint_rest h
    cases h
    have nested : ∀ (f : BuyerMetadataStats → Nat) (v : BuyerMetadataStats),
        f (a.buyerMetadataStats agentId buyer) ≤ f v → ∀ x y, f (a.buyerMetadataStats x y) ≤
          f (update a.buyerMetadataStats agentId
            (update (a.buyerMetadataStats agentId) buyer v) x y) := by
      intro f v more x y
      rw [update_nested]
      split
      next here => rwa [here.1, here.2]
      · exact le_refl _
    push Not at monotonic
    exact ⟨le_update _ monotonic.1, le_update _ monotonic.2.1, le_update _ monotonic.2.2,
      nested (·.totalInputTokens) _ (le_add_right _ _),
      nested (·.totalOutputTokens) _ (le_add_right _ _),
      nested (·.totalRequestCount) _ (le_add_right _ _)⟩

end AntseedStats

namespace State

/-- The agent whose channel count goes up, if a usage of this sequence is recorded now. -/
def countedFor (s : State) (ext : External) (id : Word) (sequence : Nat) : Option Word :=
  if (s.channel id).latestSequence < sequence ∧ (s.channel id).updatedAt = 0 ∧ ext.agentId ≠ 0 then
    some ext.agentId
  else none

/-- The channel after a usage was recorded. -/
def usedChannel (s : State) (id : Word) (sequence : Nat) (hash : Word) : Channel :=
  { s.channel id with latestSequence := sequence, metadataHash := hash, updatedAt := s.now }

structure Records (s s' : State) (ext : External) (id : Word) (sequence : Nat) (used : Channel) :
    Prop where
  channels : s'.freeUsage.channels = update s.freeUsage.channels id used
  counts : ∀ agent, (s'.freeUsage.agentStats agent).channelCount =
    (s.freeUsage.agentStats agent).channelCount +
      if s.countedFor ext id sequence = some agent then 1 else 0
  now : s'.now = s.now
  stats : Grows s.stats s'.stats

theorem grows_syncExternalMetadata (r : Deployment) (s : State) (ext : External) (id : Word)
    (buyer : Address) (metadata : List UInt8) :
    (s.syncExternalMetadata r ext buyer id metadata).freeUsage = s.freeUsage ∧
      (s.syncExternalMetadata r ext buyer id metadata).now = s.now ∧
      Grows s.stats (s.syncExternalMetadata r ext buyer id metadata).stats := by
  unfold syncExternalMetadata
  split
  · split
    next recorded => exact ⟨rfl, rfl, grows_recordMetadata recorded⟩
    · exact ⟨rfl, rfl, .refl _⟩
  · exact ⟨rfl, rfl, .refl _⟩

theorem countUsage_counts
    (h : s.countUsage r ext id buyer metadata firstUsage = .ok s') :
    s'.freeUsage.channels = s.freeUsage.channels ∧
      (∀ agent, (s'.freeUsage.agentStats agent).channelCount =
        (s.freeUsage.agentStats agent).channelCount +
          if ext.agentId ≠ 0 ∧ firstUsage = true ∧ ext.agentId = agent then 1 else 0) ∧
      s'.freeUsage.activeChannelCount = s.freeUsage.activeChannelCount ∧
      s'.now = s.now ∧ Grows s.stats s'.stats := by
  unfold countUsage at h
  split at h
  next nobody =>
    cases h
    exact ⟨rfl, by simp [nobody], rfl, rfl, .refl _⟩
  next somebody =>
    obtain ⟨count, isCount, h⟩ := ran h
    have counted : count = (s.freeUsage.agentStats ext.agentId).channelCount +
        if firstUsage = true then 1 else 0 := by
      split at isCount
      next first => rw [if_pos first, (uint_eq_ok.mp isCount).2]
      next later =>
        cases isCount
        rw [if_neg later, add_zero]
    cases h
    obtain ⟨same, sameNow, grows⟩ := grows_syncExternalMetadata r
      (s.setAgentStats ext.agentId ⟨count, s.now % 2 ^ 64⟩) ext id buyer metadata
    refine ⟨by rw [same]; rfl, fun agent => ?_, by rw [same]; rfl, sameNow, grows⟩
    rw [same]
    by_cases here : agent = ext.agentId
    · subst here
      simp [setAgentStats, counted, somebody]
    · simp [setAgentStats, here, Ne.symm here]

theorem recordUsage_records {sequence : Nat} (h : s.recordUsage r ext id sequence metadata deadline buyerSig allowSameSequence = .ok s') :
    Records s s' ext id sequence (s.usedChannel id sequence (r.keccak256 metadata)) ∧
      s'.freeUsage.activeChannelCount = s.freeUsage.activeChannelCount ∧
      (s.channel id).latestSequence ≤ sequence ∧
      (allowSameSequence = false → (s.channel id).latestSequence < sequence) ∧
      buyerSig ∈ s.signed ∧ buyerSig = ⟨(s.channel id).buyer,
        .freeUsageAuth id sequence (r.keccak256 metadata) deadline⟩ := by
  replace h := rest_ok h
  obtain ⟨_, notBelow, h⟩ := ran h
  obtain ⟨_, notSame, h⟩ := ran h
  obtain ⟨_, verified, h⟩ := ran h
  obtain ⟨delta, isDelta, h⟩ := ran h
  obtain ⟨reached, rfl⟩ := sub_eq_ok.mp isDelta
  have fresh := require_eq_ok.mp notSame
  obtain ⟨member, isMessage, isSigner⟩ := require_eq_ok.mp verified
  have recorded : Records s s' ext id sequence (s.usedChannel id sequence (r.keccak256 metadata)) ∧
      s'.freeUsage.activeChannelCount = s.freeUsage.activeChannelCount := by
    dsimp only at h
    split at h
    next more =>
      have longer : (s.channel id).latestSequence < sequence := by omega
      have positive : 0 < sequence := by omega
      obtain ⟨channels, counts, active, now, stats⟩ := countUsage_counts h
      refine ⟨⟨channels, fun agent => ?_, now, stats⟩, active⟩
      rw [counts agent]
      congr 1
      simp only [countedFor, longer, true_and, decide_eq_true_eq, positive, and_true]
      grind
    next same =>
      cases h
      refine ⟨⟨rfl, fun agent => ?_, rfl, .refl _⟩, rfl⟩
      have shorter : ¬ (s.channel id).latestSequence < sequence := by omega
      simp [countedFor, shorter, setChannel]
  refine ⟨recorded.1, recorded.2, reached, fun strict => ?_, member, ?_⟩
  · have other : sequence ≠ (s.channel id).latestSequence := fun same => fresh ⟨strict, same⟩
    omega
  · rw [← isMessage, ← isSigner]

end State

/-- What an accepted call does to the channels, to the counts and to the clock. -/
def Effect (r : Deployment) (s s' : State) (call : Call) : Prop :=
  match call.op with
  | .open_ buyer salt deadline _ =>
    let id := r.computeChannelId buyer call.sender salt
    (s.channel id).status = .none ∧
      s'.freeUsage.channels = update s.freeUsage.channels id
        { buyer := buyer, seller := call.sender, deadline := deadline, status := .active } ∧
      s'.freeUsage.activeChannelCount = update s.freeUsage.activeChannelCount call.sender
        (s.freeUsage.activeChannelCount call.sender + 1) ∧
      s'.freeUsage.agentStats = s.freeUsage.agentStats ∧ s'.now = s.now ∧
      Grows s.stats s'.stats
  | .record id sequence metadata deadline buyerSig =>
    (s.channel id).status = .active ∧ (s.channel id).latestSequence < sequence ∧
      s.Records s' call.ext id sequence (s.usedChannel id sequence (r.keccak256 metadata)) ∧
      s'.freeUsage.activeChannelCount = s.freeUsage.activeChannelCount ∧ buyerSig ∈ s.signed ∧
      buyerSig = ⟨(s.channel id).buyer, .freeUsageAuth id sequence (r.keccak256 metadata) deadline⟩
  | .close id sequence metadata deadline buyerSig =>
    (s.channel id).status = .active ∧ (s.channel id).latestSequence ≤ sequence ∧
      s.Records s' call.ext id sequence { s.usedChannel id sequence (r.keccak256 metadata) with
        status := .closed, closedAt := s.now } ∧
      s'.freeUsage.activeChannelCount = update s.freeUsage.activeChannelCount (s.channel id).seller
        (s.freeUsage.activeChannelCount (s.channel id).seller - 1) ∧
      buyerSig ∈ s.signed ∧
      buyerSig = ⟨(s.channel id).buyer, .freeUsageAuth id sequence (r.keccak256 metadata) deadline⟩
  | _ =>
    s'.freeUsage.channels = s.freeUsage.channels ∧
      s'.freeUsage.activeChannelCount = s.freeUsage.activeChannelCount ∧
      s'.freeUsage.agentStats = s.freeUsage.agentStats ∧ s.now ≤ s'.now ∧
      Grows s.stats s'.stats

theorem State.set_same (h : s.set sender setting = .ok s') :
    s'.freeUsage.channels = s.freeUsage.channels ∧
      s'.freeUsage.activeChannelCount = s.freeUsage.activeChannelCount ∧
      s'.freeUsage.agentStats = s.freeUsage.agentStats ∧ s.now ≤ s'.now ∧
      Grows s.stats s'.stats := by
  replace h := rest_ok h
  cases setting with
  | pause | unpause | transferOwnership =>
    replace h := rest_ok h
    cases h
    exact ⟨rfl, rfl, rfl, le_refl _, .refl _⟩
  | renounceOwnership =>
    cases h
    exact ⟨rfl, rfl, rfl, le_refl _, .refl _⟩

theorem step_effect (taken : step r s call = .ok s') : Effect r s s' call := by
  obtain ⟨sender, ext, op⟩ := call
  replace taken := rest_ok taken
  cases op with
  | open_ =>
    replace taken := rest_ok taken
    replace taken := rest_ok taken
    replace taken := rest_ok taken
    replace taken := rest_ok taken
    obtain ⟨_, unused, taken⟩ := ran taken
    replace taken := rest_ok taken
    replace taken := uint_rest taken
    cases taken
    exact ⟨require_eq_ok.mp unused, rfl, rfl, rfl, rfl, .refl _⟩
  | record =>
    replace taken := rest_ok taken
    obtain ⟨_, active, taken⟩ := ran taken
    replace taken := rest_ok taken
    obtain ⟨records, counts, -, later, member, isSig⟩ := State.recordUsage_records taken
    exact ⟨require_eq_ok.mp active, later rfl, records, counts, member, isSig⟩
  | close channelId sequence metadata =>
    replace taken := rest_ok taken
    obtain ⟨_, active, taken⟩ := ran taken
    replace taken := rest_ok taken
    obtain ⟨t, recorded, taken⟩ := ran taken
    obtain ⟨count, isCount, taken⟩ := ran taken
    obtain ⟨records, counts, reached, -, member, isSig⟩ := State.recordUsage_records recorded
    obtain ⟨-, rfl⟩ := sub_eq_ok.mp isCount
    cases taken
    have used : t.channel channelId = s.usedChannel channelId sequence (r.keccak256 metadata) := by
      unfold State.channel
      rw [records.channels, update_self]
    have seller : (t.channel channelId).seller = (s.channel channelId).seller := by rw [used]; rfl
    refine ⟨require_eq_ok.mp active, reached, ⟨?_, records.counts, records.now, records.stats⟩, ?_,
      member, isSig⟩
    · rw [used, records.now]
      change update t.freeUsage.channels channelId _ = _
      rw [records.channels, Function.update_idem]
    · rw [seller, ← counts]
      rfl
  | set => exact State.set_same taken
  | recordMetadata =>
    obtain ⟨stats, recorded, taken⟩ := ran taken
    cases taken
    exact ⟨rfl, rfl, rfl, le_refl _, grows_recordMetadata recorded⟩
  | setWriter =>
    obtain ⟨stats, written, taken⟩ := ran taken
    replace written := rest_ok written
    replace written := rest_ok written
    cases written
    cases taken
    exact ⟨rfl, rfl, rfl, le_refl _, grows_of_same rfl rfl⟩
  | sign =>
    cases taken
    exact ⟨rfl, rfl, rfl, le_refl _, .refl _⟩
  | elapse =>
    cases taken
    exact ⟨rfl, rfl, rfl, le_add_right _ _, .refl _⟩

end AntSeed.FreeUsage
