import AntSeed.Pools.System

/-! # What the calls of AntseedSellerPools do to power

Every call is a chain of a few kinds of changes: a position opens, closes, gets a
longer lock, or enters or leaves max lock; anything else is quiet and concerns
owners, approvals, portfolios and configuration only. The invariants are proved
once for each kind of change.
-/

namespace AntSeed.Pools

open Evm Function
open FenwickTree

namespace SellerPools

/-- Position tokens exist only for positions. -/
structure Owned (s : SellerPools) : Prop where
  proper : s.nft.Proper
  recorded : ∀ q, s.nft.owners q ≠ 0 → (s.positions q).owner ≠ 0

/-- The configuration is one the setters accept. -/
structure Configured (s : SellerPools) : Prop where
  delay : s.stakeActivationDelay ≠ 0
  least : s.minStakeEpochs ≠ 0

/-- Nothing that power depends on has changed. -/
structure Quiet (s s' : SellerPools) : Prop where
  next : s'.nextPositionId = s.nextPositionId
  pool : s'.poolPowerTree = s.poolPowerTree
  total : s'.totalPowerTree = s.totalPowerTree
  poolLock : s'.poolMaxLockWeightAmount = s.poolMaxLockWeightAmount
  totalLock : s'.totalMaxLockWeightAmount = s.totalMaxLockWeightAmount
  ends : s'.positionNormalEndEpoch = s.positionNormalEndEpoch
  locks : s'.positionMaxLockPower = s.positionMaxLockPower
  terms : ∀ q, ∃ owner, s'.positions q = { s.positions q with owner := owner }
  exists_iff : s.Owned → ∀ q, (s'.positions q).owner = 0 ↔ (s.positions q).owner = 0
  owned : s.Owned → s'.Owned
  configured : s.Configured → s'.Configured

namespace Quiet

variable {s s' s'' : SellerPools}

theorem refl (s : SellerPools) : Quiet s s :=
  ⟨rfl, rfl, rfl, rfl, rfl, rfl, rfl, fun _ => ⟨_, rfl⟩, fun _ _ => Iff.rfl, id, id⟩

theorem trans (first : Quiet s s') (second : Quiet s' s'') : Quiet s s'' where
  next := second.next.trans first.next
  pool := second.pool.trans first.pool
  total := second.total.trans first.total
  poolLock := second.poolLock.trans first.poolLock
  totalLock := second.totalLock.trans first.totalLock
  ends := second.ends.trans first.ends
  locks := second.locks.trans first.locks
  terms q := by
    obtain ⟨owner, before⟩ := first.terms q
    obtain ⟨owner', after⟩ := second.terms q
    exact ⟨owner', by rw [after, before]⟩
  exists_iff owned q := (second.exists_iff (first.owned owned) q).trans (first.exists_iff owned q)
  owned h := second.owned (first.owned h)
  configured h := second.configured (first.configured h)

end Quiet

/-- Only the portfolio bookkeeping has changed. -/
def Booked (s s' : SellerPools) : Prop :=
  s' = { s with
    stakerPositionIds := s'.stakerPositionIds
    stakerPositionIndex := s'.stakerPositionIndex
    stakerTotalActiveStake := s'.stakerTotalActiveStake
    stakerAgentActiveStake := s'.stakerAgentActiveStake }

variable {s s' s'' : SellerPools}

theorem Booked.trans (first : Booked s s') (second : Booked s' s'') :
    Booked s s'' := by
  unfold Booked at first second ⊢
  rw [second, first]

theorem Booked.quiet (h : Booked s s') : Quiet s s' := by
  rw [h]
  exact ⟨rfl, rfl, rfl, rfl, rfl, rfl, rfl, fun _ => ⟨_, rfl⟩, fun _ _ => Iff.rfl,
    fun h => ⟨h.proper, h.recorded⟩, fun h => ⟨h.delay, h.least⟩⟩

theorem booked_addStakerPosition (s : SellerPools) (staker : Address) (positionId : Nat) :
    Booked s (s.addStakerPosition staker positionId) := rfl

variable {amount positionId stakeEndEpoch startEpoch tokenId : Nat}
  {auth sender source staker target : Address} {agentId : Word} {ctx : Context}

section

variable {s s' : SellerPools}

theorem booked_removeStakerPosition
    (h : s.removeStakerPosition staker positionId = .ok s') : Booked s s' := by
  simp only [removeStakerPosition] at h
  split at h
  · cases h
    rfl
  · obtain ⟨last, -, h⟩ := ran h
    split at h
    · split at h
      · cases h
      · split at h
        · cases h
          rfl
        · cases h
    · cases h
      rfl

theorem booked_increaseActiveStake
    (h : s.increaseActiveStake staker agentId amount = .ok s') : Booked s s' := by
  obtain ⟨total, -, h⟩ := ran h
  obtain ⟨agent, -, h⟩ := ran h
  cases h
  rfl

theorem booked_decreaseActiveStake
    (h : s.decreaseActiveStake staker agentId amount = .ok s') : Booked s s' := by
  obtain ⟨total, -, h⟩ := ran h
  obtain ⟨agent, -, h⟩ := ran h
  cases h
  rfl

theorem quiet_of_nft {nft : Erc721} {positions : Nat → Position}
    (terms : ∀ q, ∃ owner, positions q = { s.positions q with owner := owner })
    (exists_iff : s.Owned → ∀ q, (positions q).owner = 0 ↔ (s.positions q).owner = 0)
    (proper : s.Owned → nft.Proper)
    (recorded : s.Owned → ∀ q, nft.owners q ≠ 0 → (positions q).owner ≠ 0) :
    Quiet s { s with nft := nft, positions := positions } :=
  ⟨rfl, rfl, rfl, rfl, rfl, rfl, rfl, terms, exists_iff,
    fun owned => ⟨proper owned, recorded owned⟩, fun h => ⟨h.delay, h.least⟩⟩

theorem handOver_token (h : s.handOver target tokenId auth = .ok (s', source)) :
    ∃ nft, (s.nft.handOver target tokenId auth : Tx Error _) = .ok (nft, source) := by
  obtain ⟨⟨nft, previous⟩, handed, h⟩ := ran h
  dsimp only at h
  split at h
  · cases h
    exact ⟨nft, handed⟩
  · split at h
    · obtain ⟨_, -, h⟩ := ran h
      cases h
      exact ⟨nft, handed⟩
    · obtain ⟨_, -, h⟩ := ran h
      obtain ⟨_, -, h⟩ := ran h
      obtain ⟨_, -, h⟩ := ran h
      cases h
      exact ⟨nft, handed⟩

/-- Handing a token over is quiet: one that has an owner, or one whose position is
    already recorded. -/
theorem quiet_handOver (h : s.handOver target tokenId auth = .ok (s', source))
    (recorded : s.Owned → source ≠ 0 ∨ (s.positions tokenId).owner ≠ 0) : Quiet s s' := by
  obtain ⟨⟨nft, previous⟩, handed, h⟩ := ran h
  obtain ⟨rfl, owners⟩ := Erc721.handOver_eq_ok handed
  have known : s.Owned → s.nft.owners tokenId = source → (s.positions tokenId).owner ≠ 0 := by
    intro owned same
    rcases recorded owned with held | present
    · exact owned.recorded tokenId (same ▸ held)
    · exact present
  have token : s.nft.owners tokenId = source → Quiet s { s with nft := nft } := by
    intro same
    apply quiet_of_nft (fun q => ⟨_, rfl⟩) (fun _ _ => Iff.rfl) fun owned => owned.proper.handOver handed
    intro owned q held
    by_cases here : q = tokenId
    · subst here
      exact known owned same
    · rw [owners, update_of_ne here] at held
      exact owned.recorded q held
  dsimp only at h
  split at h
  · cases h
    exact (token rfl).trans (booked_addStakerPosition _ _ _).quiet
  · split at h
    · obtain ⟨removed, first, h⟩ := ran h
      cases h
      exact (token rfl).trans (booked_removeStakerPosition first).quiet
    next toSomebody =>
      obtain ⟨removed, first, h⟩ := ran h
      obtain ⟨decreased, second, h⟩ := ran h
      obtain ⟨increased, third, h⟩ := ran h
      cases h
      have booked : Booked { s with nft := nft } increased :=
        (((booked_removeStakerPosition first).trans (booked_addStakerPosition _ _ _)).trans
          (booked_decreaseActiveStake second)).trans (booked_increaseActiveStake third)
      refine ((token rfl).trans booked.quiet).trans ?_
      have same : increased.positions = s.positions := by rw [booked]
      apply quiet_of_nft
      · intro q
        by_cases here : q = tokenId
        · subst here
          exact ⟨target, by rw [update_self, same]⟩
        · exact ⟨_, by rw [update_of_ne here]⟩
      · intro owned q
        by_cases here : q = tokenId
        · subst here
          rw [update_self]
          have : (increased.positions q).owner ≠ 0 :=
            owned.recorded q (by rw [booked]; simp [owners, toSomebody])
          exact ⟨fun zero => absurd zero toSomebody, fun zero => absurd zero this⟩
        · rw [update_of_ne here]
      · exact fun owned => owned.proper
      · intro owned q held
        by_cases here : q = tokenId
        · subst here
          rwa [update_self]
        · rw [update_of_ne here]
          exact owned.recorded q held

theorem quiet_transferFrom (somebody : sender ≠ 0)
    (h : s.transferFrom sender source target tokenId = .ok s') : Quiet s s' := by
  unfold transferFrom at h
  split at h
  · cases h
  · obtain ⟨⟨handed, previous⟩, moved, h⟩ := ran h
    dsimp only at h
    split at h
    · cases h
      refine quiet_handOver moved fun owned => .inl ?_
      obtain ⟨nft, token⟩ := handOver_token moved
      exact Erc721.owned_of_handOver owned.proper somebody token
    · cases h

theorem quiet_burn (h : s.burn tokenId = .ok s') : Quiet s s' := by
  obtain ⟨⟨handed, previous⟩, moved, h⟩ := ran h
  dsimp only at h
  split at h
  · cases h
  next held =>
    cases h
    exact quiet_handOver moved fun _ => .inl held

theorem quiet_of_config (positions : s'.positions = s.positions)
    (nft : s'.nft = s.nft) (next : s'.nextPositionId = s.nextPositionId)
    (pool : s'.poolPowerTree = s.poolPowerTree) (total : s'.totalPowerTree = s.totalPowerTree)
    (poolLock : s'.poolMaxLockWeightAmount = s.poolMaxLockWeightAmount)
    (totalLock : s'.totalMaxLockWeightAmount = s.totalMaxLockWeightAmount)
    (ends : s'.positionNormalEndEpoch = s.positionNormalEndEpoch)
    (locks : s'.positionMaxLockPower = s.positionMaxLockPower)
    (configured : s.Configured → s'.Configured) : Quiet s s' where
  next := next
  pool := pool
  total := total
  poolLock := poolLock
  totalLock := totalLock
  ends := ends
  locks := locks
  terms q := ⟨_, by rw [positions]⟩
  exists_iff _ q := by rw [positions]
  owned h := ⟨nft ▸ h.proper, by rw [nft, positions]; exact h.recorded⟩
  configured := configured

theorem quiet_set (h : s.set sender setting = .ok s') : Quiet s s' := by
  replace h := rest_ok h
  cases setting with
  | stakingSource | rewardStaker | restakedRewardWeightBonus | moveWeightPenalty =>
    replace h := rest_ok h
    cases h
    exact quiet_of_config rfl rfl rfl rfl rfl rfl rfl rfl rfl fun h => ⟨h.delay, h.least⟩
  | poolConfig =>
    obtain ⟨_, bounds, h⟩ := ran h
    replace h := rest_ok h
    cases h
    refine quiet_of_config rfl rfl rfl rfl rfl rfl rfl rfl rfl fun h => ⟨?_, ?_⟩
    · have := require_eq_ok.mp bounds
      tauto
    · have := require_eq_ok.mp bounds
      tauto

theorem quiet_unguarded {call : Unguarded} (somebody : sender ≠ 0)
    (h : s.unguarded sender call = .ok s') : Quiet s s' := by
  cases call with
  | transferFrom => exact quiet_transferFrom somebody h
  | approve =>
    obtain ⟨nft, approved, h⟩ := ran h
    cases h
    exact quiet_of_nft (fun q => ⟨_, rfl⟩) (fun _ _ => Iff.rfl)
      (fun owned => (owned.proper.approve approved).1)
      fun owned q held => owned.recorded q ((owned.proper.approve approved).2 ▸ held)
  | setApprovalForAll =>
    obtain ⟨nft, approved, h⟩ := ran h
    cases h
    exact quiet_of_nft (fun q => ⟨_, rfl⟩) (fun _ _ => Iff.rfl)
      (fun owned => (owned.proper.setApprovalForAll somebody approved).1)
      fun owned q held =>
        owned.recorded q ((owned.proper.setApprovalForAll somebody approved).2 ▸ held)
  | set => exact quiet_set h
  | transferOwnership | acceptOwnership | renounceOwnership =>
    replace h := rest_ok h
    cases h
    exact quiet_of_config rfl rfl rfl rfl rfl rfl rfl rfl rfl fun h => ⟨h.delay, h.least⟩

theorem quiet_reenter (s : SellerPools) (call : Address × Unguarded) : Quiet s (s.reenter call) := by
  unfold reenter
  split
  · exact .refl s
  next somebody =>
    split
    next taken => exact quiet_unguarded somebody taken
    · exact .refl s

theorem quiet_checkOnERC721Received
    (h : s.checkOnERC721Received ctx positionId = .ok s') : Quiet s s' := by
  unfold checkOnERC721Received at h
  split at h
  · cases h
  next calls _ =>
    cases h
    clear * -
    induction calls generalizing s with
    | nil => exact .refl s
    | cons call calls ih => exact (quiet_reenter s call).trans ih

theorem quiet_safeMint (recorded : (s.positions tokenId).owner ≠ 0)
    (h : s.safeMint ctx target tokenId = .ok s') : Quiet s s' := by
  unfold safeMint at h
  split at h
  · cases h
  · obtain ⟨⟨handed, previous⟩, moved, h⟩ := ran h
    dsimp only at h
    split at h
    · exact (quiet_handOver moved fun _ => .inr recorded).trans (quiet_checkOnERC721Received h)
    · cases h

theorem quiet_safeTransferFrom (somebody : ctx.sender ≠ 0)
    (h : s.safeTransferFrom ctx source target tokenId = .ok s') : Quiet s s' := by
  obtain ⟨moved, transferred, h⟩ := ran h
  exact (quiet_transferFrom somebody transferred).trans (quiet_checkOnERC721Received h)

end

def weightDelta (amount stakeEndEpoch : Nat) : Int × Int :=
  ((BitVec.ofNat 256 amount).toInt, (BitVec.ofNat 256 (amount * stakeEndEpoch)).toInt)

/-- What a range of power adds at an epoch. -/
def range (startEpoch stakeEndEpoch amount epoch : Nat) : Int × Int :=
  rangeAt startEpoch stakeEndEpoch (weightDelta amount stakeEndEpoch) epoch

/-- The trees of one agent and of all agents have moved by `delta`. -/
structure Shifted (s s' : SellerPools) (agentId : Word) (delta : Nat → Int × Int) : Prop where
  pool : ∀ e, e < fenwickSize →
    (s'.poolPowerTree agentId).sumAt e = (s.poolPowerTree agentId).sumAt e + delta e
  others : ∀ b, b ≠ agentId → s'.poolPowerTree b = s.poolPowerTree b
  total : ∀ e, e < fenwickSize → s'.totalPowerTree.sumAt e = s.totalPowerTree.sumAt e + delta e

theorem Shifted.trans {delta delta' : Nat → Int × Int}
    (first : Shifted s s' agentId delta) (second : Shifted s' s'' agentId delta') :
    Shifted s s'' agentId fun e => delta e + delta' e where
  pool e inside := by rw [second.pool e inside, first.pool e inside, add_assoc]
  others b other := by rw [second.others b other, first.others b other]
  total e inside := by rw [second.total e inside, first.total e inside, add_assoc]

theorem rangeAt_neg (startEpoch stakeEndEpoch : Nat) (delta : Int × Int) (epoch : Nat) :
    rangeAt startEpoch stakeEndEpoch (-delta) epoch =
      -rangeAt startEpoch stakeEndEpoch delta epoch := by
  unfold rangeAt
  by_cases started : startEpoch ≤ epoch
  · by_cases ended : stakeEndEpoch ≤ epoch <;> simp [started, ended]
  · by_cases ended : stakeEndEpoch ≤ epoch <;> simp [started, ended]

/-- The trees changed and nothing else did. -/
def OnlyTrees (s s' : SellerPools) : Prop :=
  s' = { s with poolPowerTree := s'.poolPowerTree, totalPowerTree := s'.totalPowerTree }

theorem signedAmount_eq_ok (h : signedAmount amount add = .ok signed) :
    signed = if add then (BitVec.ofNat 256 amount).toInt else -(BitVec.ofNat 256 amount).toInt := by
  cases add with
  | true =>
    cases h
    rfl
  | false => exact (int_eq_ok.mp h).2.symm

theorem applyPowerRange_spec
    (h : s.applyPowerRange agentId startEpoch stakeEndEpoch amount add = .ok s') :
    startEpoch < fenwickSize ∧ stakeEndEpoch < fenwickSize ∧ OnlyTrees s s' ∧
      (add = true → (weightDelta amount stakeEndEpoch).1 < 2 ^ 127 ∧ amount * stakeEndEpoch < 2 ^ 256) ∧
      Shifted s s' agentId fun e => if add then range startEpoch stakeEndEpoch amount e
        else -range startEpoch stakeEndEpoch amount e := by
  obtain ⟨signed, isSigned, h⟩ := ran h
  obtain ⟨weighted, fits, h⟩ := ran h
  obtain ⟨signedEnd, isSignedEnd, h⟩ := ran h
  obtain ⟨pool, poolApplied, h⟩ := ran h
  obtain ⟨total, totalApplied, h⟩ := ran h
  cases h
  obtain ⟨small, rfl⟩ := uint_eq_ok.mp fits
  have delta : (signed, signedEnd) = if add then weightDelta amount stakeEndEpoch
      else -weightDelta amount stakeEndEpoch := by
    rw [signedAmount_eq_ok isSigned, signedAmount_eq_ok isSignedEnd]
    cases add <;> rfl
  have shift : ∀ e, rangeAt startEpoch stakeEndEpoch (signed, signedEnd) e =
      if add then range startEpoch stakeEndEpoch amount e
        else -range startEpoch stakeEndEpoch amount e := by
    intro e
    rw [delta]
    cases add with
    | true => rfl
    | false => exact rangeAt_neg _ _ _ _
  obtain ⟨startInside, endInside, poolSums⟩ := sumAt_applyRangeDelta poolApplied
  obtain ⟨-, -, totalSums⟩ := sumAt_applyRangeDelta totalApplied
  refine ⟨startInside, endInside, rfl, ?_, ?_, ?_, ?_⟩
  · rintro rfl
    have := applyRangeDelta_fits poolApplied
    rw [signedAmount_eq_ok isSigned] at this
    exact ⟨this, small⟩
  · intro e inside
    simp only [update_self]
    rw [poolSums e inside, shift]
  · intro b other
    exact update_of_ne other _ _
  · intro e inside
    simp only
    rw [totalSums e inside, shift]

theorem toInt_ofNat_of_lt (small : n < 2 ^ 255) : (BitVec.ofNat 256 n).toInt = n := by
  rw [BitVec.toInt_ofNat']
  apply Int.bmod_eq_of_le <;> omega

/-- The product of weight and end has to fit, so from an end of 2 on the weight is not negative as
    a signed number, and the tree's own check bounds it. -/
theorem addPowerRange_spec (h : s.addPowerRange agentId startEpoch stakeEndEpoch amount = .ok s') :
    startEpoch < fenwickSize ∧ stakeEndEpoch < fenwickSize ∧ OnlyTrees s s' ∧
      (2 ≤ stakeEndEpoch → amount < 2 ^ 127) ∧
      Shifted s s' agentId (range startEpoch stakeEndEpoch amount) := by
  obtain ⟨first, second, only, fits, shifted⟩ := applyPowerRange_spec h
  refine ⟨first, second, only, fun late => ?_, shifted⟩
  obtain ⟨light, product⟩ := fits rfl
  have doubled : amount * 2 ≤ amount * stakeEndEpoch := Nat.mul_le_mul_left amount late
  rw [weightDelta, toInt_ofNat_of_lt (by omega)] at light
  omega

theorem removePowerRange_spec
    (h : s.removePowerRange agentId startEpoch stakeEndEpoch amount = .ok s') :
    startEpoch < fenwickSize ∧ stakeEndEpoch < fenwickSize ∧ OnlyTrees s s' ∧
      Shifted s s' agentId fun e => -range startEpoch stakeEndEpoch amount e := by
  obtain ⟨first, second, only, -, shifted⟩ := applyPowerRange_spec h
  exact ⟨first, second, only, shifted⟩

structure Rewritten (s s' : SellerPools) (positionId : Nat) (position : Position)
    (ends locks : Trace) : Prop where
  positions : s'.positions = update s.positions positionId position
  ends : s'.positionNormalEndEpoch = update s.positionNormalEndEpoch positionId ends
  locks : s'.positionMaxLockPower = update s.positionMaxLockPower positionId locks
  nft : s'.nft = s.nft
  delay : s'.stakeActivationDelay = s.stakeActivationDelay
  least : s'.minStakeEpochs = s.minStakeEpochs

structure LocksKept (s s' : SellerPools) : Prop where
  pool : s'.poolMaxLockWeightAmount = s.poolMaxLockWeightAmount
  total : s'.totalMaxLockWeightAmount = s.totalMaxLockWeightAmount

/-- The max-lock weights of one agent and of all agents have moved from an epoch on. -/
structure LocksMoved (s s' : SellerPools) (agentId : Word) (epoch amount : Nat) (add : Bool) :
    Prop where
  pool : pushMoved (s.poolMaxLockWeightAmount agentId) epoch amount add =
    .ok (s'.poolMaxLockWeightAmount agentId)
  others : ∀ b, b ≠ agentId → s'.poolMaxLockWeightAmount b = s.poolMaxLockWeightAmount b
  total : pushMoved s.totalMaxLockWeightAmount epoch amount add = .ok s'.totalMaxLockWeightAmount

/-- What a call in epoch `c` can do to power, from epoch `first` on. -/
inductive Change (c first : Nat) (s s' : SellerPools) : Prop where
  | quiet (h : Quiet s s')
  /-- a new position has power from its start to its end -/
  | opened (position : Position) (ends : Trace) (stakeEndEpoch : Nat)
      (present : position.owner ≠ 0)
      (stillOpen : position.closedAtEpoch = 0)
      (pushed : (s.positionNormalEndEpoch s.nextPositionId).push position.stakeStartEpoch
        stakeEndEpoch = (.ok ends : Tx Error Trace))
      (rewritten : Rewritten s s' s.nextPositionId position ends
        (s.positionMaxLockPower s.nextPositionId))
      (next : s'.nextPositionId = s.nextPositionId + 1)
      (shifted : Shifted s s' position.agentId
        (range position.stakeStartEpoch stakeEndEpoch position.weightAmount))
      (kept : LocksKept s s')
      (future : c < position.stakeStartEpoch)
      (order : position.stakeStartEpoch ≤ stakeEndEpoch)
      (inside : stakeEndEpoch < fenwickSize)
      (light : position.weightAmount < 2 ^ 127)
      (recorded : position.stakeEndEpoch = stakeEndEpoch)
  /-- a position loses the rest of its power; its histories do not change between
      `effectiveEpoch` and `horizon` -/
  | closed (positionId : Nat) (withdrawn : Bool) (effectiveEpoch horizon normalEndEpoch : Nat)
      (wasOpen : (s.positions positionId).closedAtEpoch = 0)
      (late : first ≤ effectiveEpoch)
      (started : (s.positions positionId).stakeStartEpoch ≤ effectiveEpoch)
      (reached : c < horizon)
      (near : horizon = effectiveEpoch ∨ horizon = effectiveEpoch + 1)
      (unlocked : (s.positionMaxLockPower positionId).upperLookupRecent effectiveEpoch = 0)
      (staysUnlocked : (s.positionMaxLockPower positionId).upperLookupRecent horizon = 0)
      (ends : (s.positionNormalEndEpoch positionId).upperLookupRecent effectiveEpoch =
        normalEndEpoch)
      (staysEnding : (s.positionNormalEndEpoch positionId).upperLookupRecent horizon =
        normalEndEpoch)
      (normal : normalEndEpoch ≠ 0)
      (rewritten : Rewritten s s' positionId
        { s.positions positionId with closedAtEpoch := effectiveEpoch, withdrawn := withdrawn }
        (s.positionNormalEndEpoch positionId) (s.positionMaxLockPower positionId))
      (next : s'.nextPositionId = s.nextPositionId)
      (shifted : Shifted s s' (s.positions positionId).agentId fun e =>
        if effectiveEpoch < normalEndEpoch then
          -range effectiveEpoch normalEndEpoch (s.positions positionId).weightAmount e
        else 0)
      (kept : LocksKept s s')
  /-- the end of a lock moves -/
  | extended (positionId effectiveEpoch oldEndEpoch newEndEpoch : Nat) (ends : Trace)
      (wasOpen : (s.positions positionId).closedAtEpoch = 0)
      (effective : effectiveEpoch = max (c + 1) (s.positions positionId).stakeStartEpoch)
      (unlocked : (s.positionMaxLockPower positionId).upperLookupRecent effectiveEpoch = 0)
      (old : (s.positionNormalEndEpoch positionId).upperLookupRecent effectiveEpoch = oldEndEpoch)
      (running : effectiveEpoch < oldEndEpoch)
      (later : oldEndEpoch < newEndEpoch)
      (inside : newEndEpoch < fenwickSize)
      (pushed : (s.positionNormalEndEpoch positionId).push effectiveEpoch newEndEpoch =
        (.ok ends : Tx Error Trace))
      (rewritten : Rewritten s s' positionId
        { s.positions positionId with stakeEndEpoch := newEndEpoch % 2 ^ 64 }
        ends (s.positionMaxLockPower positionId))
      (next : s'.nextPositionId = s.nextPositionId)
      (shifted : Shifted s s' (s.positions positionId).agentId fun e =>
        -range effectiveEpoch oldEndEpoch (s.positions positionId).weightAmount e +
          range effectiveEpoch newEndEpoch (s.positions positionId).weightAmount e)
      (kept : LocksKept s s')
  /-- a position trades its range for constant power -/
  | enabled (positionId normalEndEpoch : Nat) (ends locks : Trace)
      (wasOpen : (s.positions positionId).closedAtEpoch = 0)
      (started : (s.positions positionId).stakeStartEpoch ≤ c + 1)
      (unlocked : (s.positionMaxLockPower positionId).upperLookupRecent (c + 1) = 0)
      (old : (s.positionNormalEndEpoch positionId).upperLookupRecent (c + 1) = normalEndEpoch)
      (running : c + 1 < normalEndEpoch)
      (pushedEnd : (s.positionNormalEndEpoch positionId).push (c + 1) 0 = (.ok ends : Tx Error Trace))
      (pushedLock : (s.positionMaxLockPower positionId).push (c + 1)
        ((s.positions positionId).weightAmount * maxStakeEpochs) = (.ok locks : Tx Error Trace))
      (rewritten : Rewritten s s' positionId (s.positions positionId) ends locks)
      (next : s'.nextPositionId = s.nextPositionId)
      (shifted : Shifted s s' (s.positions positionId).agentId fun e =>
        -range (c + 1) normalEndEpoch (s.positions positionId).weightAmount e)
      (moved : LocksMoved s s' (s.positions positionId).agentId (c + 1)
        (s.positions positionId).weightAmount true)
  /-- a position trades constant power for a full range -/
  | disabled (positionId : Nat) (ends locks : Trace)
      (wasOpen : (s.positions positionId).closedAtEpoch = 0)
      (locked : (s.positionMaxLockPower positionId).upperLookupRecent (c + 1) ≠ 0)
      (inside : c + 1 + maxStakeEpochs < fenwickSize)
      (pushedEnd : (s.positionNormalEndEpoch positionId).push (c + 1) (c + 1 + maxStakeEpochs) =
        (.ok ends : Tx Error Trace))
      (pushedLock : (s.positionMaxLockPower positionId).push (c + 1) 0 =
        (.ok locks : Tx Error Trace))
      (rewritten : Rewritten s s' positionId
        { s.positions positionId with stakeEndEpoch := (c + 1 + maxStakeEpochs) % 2 ^ 64 }
        ends locks)
      (next : s'.nextPositionId = s.nextPositionId)
      (shifted : Shifted s s' (s.positions positionId).agentId
        (range (c + 1) (c + 1 + maxStakeEpochs) (s.positions positionId).weightAmount))
      (moved : LocksMoved s s' (s.positions positionId).agentId (c + 1)
        (s.positions positionId).weightAmount false)

/-- A chain of changes. -/
abbrev Changes (c first : Nat) : SellerPools → SellerPools → Prop :=
  Relation.ReflTransGen (Change c first)

variable {c first : Nat} {s s' s'' : SellerPools}

theorem Quiet.changes (h : Quiet s s') : Changes c first s s' := .single (.quiet h)

theorem Booked.changes (h : Booked s s') : Changes c first s s' := h.quiet.changes

/-- No position weighs more than an `int128` holds. -/
def Tame (s : SellerPools) : Prop := ∀ q, (s.positions q).weightAmount < 2 ^ 127

theorem Rewritten.tame {ends locks : Trace}
    (h : Rewritten s s' positionId position ends locks) (tame : s.Tame)
    (small : position.weightAmount < 2 ^ 127) : s'.Tame := by
  intro q
  rw [h.positions]
  by_cases here : q = positionId
  · subst here
    rwa [update_self]
  · rw [update_of_ne here]
    exact tame q

theorem Change.tame (h : Change c first s s') (tame : s.Tame) : s'.Tame := by
  cases h
  case quiet h =>
    intro q
    obtain ⟨owner, same⟩ := h.terms q
    rw [same]
    exact tame q
  case opened rewritten _ _ _ _ _ _ light _ =>
    exact rewritten.tame tame light
  case closed rewritten _ _ _ | extended rewritten _ _ _ | enabled rewritten _ _ _ | disabled rewritten _ _ _ =>
    exact rewritten.tame tame (tame _)

theorem Changes.tame (h : Changes c first s s') (tame : s.Tame) : s'.Tame := by
  induction h with
  | refl => exact tame
  | tail _ last ih => exact last.tame ih

end SellerPools

end AntSeed.Pools
