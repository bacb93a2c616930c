import AntSeed.Emissions.StakerLedger
import AntSeed.Lib.Rounded

/-! # Claims of staker rewards

The walk over the segments of a position's power never reverts and returns, rounded
down segment by segment, what the position has earned in the epochs it covers. So
every claim finds its reward, alone and in batches, paid out or staked
again.
-/

namespace AntSeed.Emissions

open Evm Function Finset
open Finset (Ico)
open Pools (SellerPools Position fenwickSize)
open SellerPoolsRewards
open Nat Meets

variable {c : Nat} {next : Word → Nat} {paid : Nat → Nat} {r r' : SellerPoolsRewards}
  {pools pools' : SellerPools} {ants ants' : Erc20}

/-- What a position earns in an epoch under the index of an agent. -/
def SellerPoolsRewards.earned (r : SellerPoolsRewards) (pools : SellerPools) (a : Word) (q e : Nat) :
    Nat :=
  pools.weightAt q e * (r.poolCumulativeRewardPerWeight a).rise e

section Walk

variable {a : Word} {q : Nat}
  (indexed : Indexed fenwickSize (initialEmission * indexScale) (next a)
    (r.poolCumulativeRewardPerWeight a) (r.poolCumulativeEpochRewardPerWeight a))

include indexed

section

variable (steady : pools.Steady c)

include steady

theorem fits_of_earned
    (bounded : n * indexScale ≤ ∑ e ∈ Ico x y, r.earned pools a q e) : n < 2 ^ 256 := by
  have most : ∑ e ∈ Ico x y, r.earned pools a q e ≤
      2 ^ 127 * fenwickSize * (fenwickSize * (initialEmission * indexScale)) := by
    calc ∑ e ∈ Ico x y, r.earned pools a q e
        ≤ ∑ e ∈ Ico x y, 2 ^ 127 * fenwickSize * (r.poolCumulativeRewardPerWeight a).rise e :=
          sum_le_sum fun e _ => Nat.mul_le_mul_right _ (SellerPools.weightAt_le steady q e)
      _ = 2 ^ 127 * fenwickSize * ∑ e ∈ Ico x y, (r.poolCumulativeRewardPerWeight a).rise e :=
          (mul_sum _ _ _).symm
      _ ≤ _ := Nat.mul_le_mul_left _ (indexed.sum_rise_le x y)
  have small : n * indexScale < 2 ^ 256 * indexScale :=
    lt_of_le_of_lt (le_trans bounded most) (by decide)
  exact Nat.lt_of_mul_lt_mul_right small

theorem lockedReward_spec (order : x ≤ y)
    (constant : ∀ e, x ≤ e → e < y → pools.weightAt q e = power) :
    ∃ reward, r.lockedReward a power x y = .ok reward ∧
      Rounded indexScale (r.earned pools a q) x y reward := by
  have total : power * ∑ e ∈ Ico x y, (r.poolCumulativeRewardPerWeight a).rise e =
      ∑ e ∈ Ico x y, r.earned pools a q e := by
    rw [mul_sum]
    refine sum_congr rfl fun e member => ?_
    obtain ⟨after, before⟩ := mem_Ico.mp member
    unfold earned
    rw [constant e after before]
  have rounded := Rounded.div indexScale (r.earned pools a q) x y
  refine ⟨_, bind_eq_ok.mpr ⟨_, indexed.delta order, ?_⟩, rounded⟩
  rw [mulDiv_eq_ok, total]
  exact ⟨by decide, fits_of_earned indexed steady rounded.most, rfl⟩

theorem runningReward_spec (order : x ≤ y)
    (inside : y ≤ stop) (small : stop < fenwickSize)
    (runs : ∀ e, x ≤ e → e < y → pools.weightAt q e = weightAmount * (stop - e)) :
    ∃ reward, r.runningReward a weightAmount stop x y = .ok reward ∧
      Rounded indexScale (r.earned pools a q) x y reward := by
  have total : weightAmount * ∑ e ∈ Ico x y, (stop - e) * (r.poolCumulativeRewardPerWeight a).rise e =
      ∑ e ∈ Ico x y, r.earned pools a q e := by
    rw [mul_sum]
    refine sum_congr rfl fun e member => ?_
    obtain ⟨after, before⟩ := mem_Ico.mp member
    unfold earned
    rw [runs e after before, mul_assoc]
  have rounded := Rounded.div indexScale (r.earned pools a q) x y
  have scaled : stop * ∑ e ∈ Ico x y, (r.poolCumulativeRewardPerWeight a).rise e < 2 ^ 256 := by
    calc stop * ∑ e ∈ Ico x y, (r.poolCumulativeRewardPerWeight a).rise e
        ≤ fenwickSize * (fenwickSize * (initialEmission * indexScale)) :=
          Nat.mul_le_mul (Nat.le_of_lt small) (indexed.sum_rise_le x y)
      _ < 2 ^ 256 := by decide
  refine ⟨_, ?_, rounded⟩
  refine bind_eq_ok.mpr ⟨_, indexed.delta order, ?_⟩
  refine bind_eq_ok.mpr ⟨_, indexed.weightedDelta order, ?_⟩
  refine bind_eq_ok.mpr ⟨_, uint_fits scaled, ?_⟩
  refine bind_eq_ok.mpr ⟨_, sub_weighted_sum _ inside, ?_⟩
  rw [mulDiv_eq_ok, total]
  exact ⟨by decide, fits_of_earned indexed steady rounded.most, rfl⟩

theorem walkSegments_spec (present : (pools.positions q).owner ≠ 0)
    (timely : toEpoch < 2 ^ 64)
    (enough : toEpoch ≤ cursor + rounds) (order : first ≤ cursor) (inside : cursor ≤ toEpoch)
    (gathered : Rounded indexScale (r.earned pools a q) first cursor rewardAmount) :
    ∃ total, r.walkSegments pools a (pools.positions q).weightAmount toEpoch q rounds cursor
        rewardAmount = .ok total ∧
      Rounded indexScale (r.earned pools a q) first toEpoch total := by
  induction rounds generalizing cursor rewardAmount with
  | zero =>
    have done : cursor = toEpoch := by omega
    exact ⟨rewardAmount, rfl, done ▸ gathered⟩
  | succ rounds ih =>
    -- a reward for the epochs up to `stop` continues the walk there
    have further : ∀ {stop reward : Nat}, cursor < stop → stop ≤ toEpoch →
        Rounded indexScale (r.earned pools a q) cursor stop reward →
        ∃ total, (do
            let rewardAmount ← uint 256 (rewardAmount + reward)
            r.walkSegments pools a (pools.positions q).weightAmount toEpoch q rounds stop
              rewardAmount) = .ok total ∧
          Rounded indexScale (r.earned pools a q) first toEpoch total := by
      intro stop reward more reaches earned
      have sum := gathered.append earned order (Nat.le_of_lt more)
      rw [uint_fits (fits_of_earned indexed steady sum.most), ok_bind]
      exact ih (by omega) (by omega) reaches sum
    unfold walkSegments
    by_cases more : cursor < toEpoch
    · rw [if_pos more]
      by_cases closed : (pools.positions q).closedAtEpoch ≠ 0 ∧
          (pools.positions q).closedAtEpoch ≤ cursor
      · -- the walk stops at a position that has closed, and so do its earnings
        have found := SellerPools.positionPowerSegmentAt_closed present closed.1 closed.2
        rw [bubble_eq_ok.mpr found, ok_bind]
        dsimp only
        rw [if_pos (by split <;> omega)]
        refine ⟨rewardAmount, rfl, gathered.extend order inside fun e after _ => ?_⟩
        unfold earned
        rw [SellerPools.weightAt_closed closed.1 (by omega), Nat.zero_mul]
      · obtain ⟨segment, found, changes, -, ended, weights⟩ :=
          SellerPools.positionPowerSegmentAt_spec steady present (by omega)
            (show cursor < 2 ^ 256 - 1 by omega)
        rw [bubble_eq_ok.mpr found, ok_bind]
        dsimp only
        generalize isEnd : (if segment.nextChangeEpoch < toEpoch then segment.nextChangeEpoch
          else toEpoch) = segmentEnd
        have bounds : cursor < segmentEnd ∧ segmentEnd ≤ toEpoch ∧
            segmentEnd ≤ segment.nextChangeEpoch := by
          split at isEnd <;> omega
        rw [if_neg (by omega)]
        by_cases locked : segment.maxLockPower ≠ 0
        · rw [if_pos locked]
          obtain ⟨reward, returned, earned⟩ := lockedReward_spec (q := q) indexed steady
            (Nat.le_of_lt bounds.1) fun e after before => by
              rw [weights e after (by omega), if_pos locked]
          rw [returned, ok_bind]
          exact further bounds.1 bounds.2.1 earned
        · rw [if_neg locked]
          by_cases running : segment.normalEndEpoch ≠ 0 ∧ cursor < segment.normalEndEpoch
          · rw [if_pos running]
            generalize isStop : (if segmentEnd > segment.normalEndEpoch then segment.normalEndEpoch
              else segmentEnd) = stop
            have limits : cursor < stop ∧ stop ≤ segmentEnd ∧ stop ≤ segment.normalEndEpoch := by
              split at isStop <;> omega
            obtain ⟨reward, returned, earned⟩ := runningReward_spec (q := q) indexed steady
              (Nat.le_of_lt limits.1) limits.2.2 ended fun e after before => by
                rw [weights e after (by omega), if_neg locked]
            rw [returned, ok_bind]
            exact further limits.1 (by omega) earned
          · rw [if_neg running]
            refine ih (by omega) (by omega) bounds.2.1 ?_
            refine gathered.extend order (Nat.le_of_lt bounds.1) fun e after before => ?_
            have spent : segment.normalEndEpoch - e = 0 := by omega
            unfold earned
            rw [weights e after (by omega), if_neg locked, spent, Nat.mul_zero, Nat.zero_mul]
    · have done : cursor = toEpoch := by omega
      rw [if_neg more]
      exact ⟨rewardAmount, rfl, done ▸ gathered⟩

end

end Walk

/-- A window starts where the position has not claimed and ends where it is indexed. The epochs it
    leaves out before that are those before the start of the position. -/
theorem claimWindow_spec
    (h : r.claimWindow position q = some (fromEpoch, toEpoch)) :
    r.positionClaimCursor q ≤ fromEpoch ∧ position.stakeStartEpoch ≤ fromEpoch ∧
      fromEpoch < toEpoch ∧ toEpoch ≤ r.nextIndexEpoch position.agentId ∧
      ∀ e, r.positionClaimCursor q ≤ e → e < fromEpoch → e < position.stakeStartEpoch := by
  unfold claimWindow at h
  dsimp only at h
  generalize isFrom : (if r.positionClaimCursor q < position.stakeStartEpoch then
    position.stakeStartEpoch else r.positionClaimCursor q) = start at h
  generalize isTo : (if position.closedAtEpoch ≠ 0 ∧
    r.poolRewardIndexNextEpoch position.agentId > position.closedAtEpoch then
    position.closedAtEpoch else r.poolRewardIndexNextEpoch position.agentId) = stop at h
  split at h
  · cases h
  next some =>
    have next : r.nextIndexEpoch position.agentId =
        r.poolRewardIndexNextEpoch position.agentId := if_neg fun zero => some (.inl zero)
    split at h
    · cases h
    · cases h
      rw [next]
      refine ⟨?_, ?_, by omega, ?_, fun e _ _ => ?_⟩
      · split at isFrom <;> omega
      · split at isFrom <;> omega
      · split at isTo <;> omega
      · split at isFrom <;> omega

section Claims

variable {holder : Address} {q : Nat}
  (h : Solid c holder r.nextIndexEpoch paid r pools ants) (steady : pools.Steady c)
  (timely : c < 2 ^ 64)

include h steady timely

theorem window_spec (present : (pools.positions q).owner ≠ 0)
    (window : r.claimWindow (pools.positions q) q = some (fromEpoch, toEpoch)) :
    ∃ reward, r.positionIndexedReward pools (pools.positions q).agentId
        (pools.positions q).weightAmount fromEpoch toEpoch q = .ok reward ∧
      Rounded indexScale (r.earned pools (pools.positions q).agentId q) (r.positionClaimCursor q)
        toEpoch reward := by
  obtain ⟨after, started, order, inside, dormant⟩ := claimWindow_spec window
  have reached := h.reached (pools.positions q).agentId
  obtain ⟨reward, returned, earned⟩ := walkSegments_spec (q := q)
    (h.indexed (pools.positions q).agentId) steady present (show toEpoch < 2 ^ 64 by omega)
    (show toEpoch ≤ fromEpoch + (toEpoch - fromEpoch) by omega) (le_refl _) (le_of_lt order)
    (.nothing _ _ _)
  refine ⟨reward, returned, ?_⟩
  have skipped := (Rounded.nothing indexScale (r.positionClaimCursor q)
    (r.earned pools (pools.positions q).agentId q)).extend (Nat.le_refl _) after fun e late before => by
      unfold SellerPoolsRewards.earned
      rw [SellerPools.weightAt_before (dormant e late before), Nat.zero_mul]
  have whole := skipped.append earned after (le_of_lt order)
  rwa [zero_add] at whole

theorem pendingIndexedStakerReward_spec (present : (pools.positions q).owner ≠ 0) :
    ∃ pending, r.pendingIndexedStakerReward pools q = .ok pending ∧
      pending * indexScale ≤
        (stakerLedger r.nextIndexEpoch paid r pools (ants.balanceOf holder)).owed q := by
  have passed : require ((pools.positions q).owner ≠ 0) RewardsError.invalidValue = .ok () :=
    require_eq_ok.mpr present
  simp only [pendingIndexedStakerReward, passed, ok_bind]
  cases window : r.claimWindow (pools.positions q) q with
  | none => exact ⟨0, rfl, by simp⟩
  | some bounds =>
    obtain ⟨reward, returned, earned⟩ := window_spec h steady timely present window
    obtain ⟨-, -, -, inside, -⟩ := claimWindow_spec window
    refine ⟨reward, returned, le_trans earned.most ?_⟩
    exact sum_le_sum_of_subset (Ico_subset_Ico_right inside)

/-- A refusal for another reason than a missing balance. -/
def NotShort (reason : Revert RewardsError) : Prop := reason ≠ .erc20 .insufficientBalance

omit h steady timely in
theorem add_single_eq_update (paid : Nat → Nat) (q n : Nat) :
    paid + Pi.single q n = update paid q (paid q + n) := by
  funext k
  by_cases here : k = q
  · subst here
    simp
  · simp [here]

theorem claimIndexedStakerRewards_meets (recipient staker : Address) :
    Meets (r.claimIndexedStakerRewards ants pools holder q recipient staker) NotShort
      fun result => Solid c holder result.1.nextIndexEpoch (paid + Pi.single q result.2.2) result.1
        pools result.2.1 := by
  have nothing : Solid c holder r.nextIndexEpoch (paid + Pi.single q 0) r pools ants := by
    rw [Pi.single_zero, add_zero]
    exact h
  apply Meets.require nofun
  intro present
  apply Meets.check nofun
  cases window : r.claimWindow (pools.positions q) q with
  | none => exact nothing
  | some bounds =>
    obtain ⟨fromEpoch, toEpoch⟩ := bounds
    obtain ⟨reward, returned, earned⟩ := window_spec h steady timely present window
    obtain ⟨after, -, order, inside, -⟩ := claimWindow_spec window
    have isHolder : q ∈ (stakerLedger r.nextIndexEpoch paid r pools (ants.balanceOf holder)).holders :=
      mem_filter.mpr ⟨mem_range.mpr (steady.known present), present⟩
    dsimp only
    rw [returned, ok_bind]
    refine .ite (fun _ => nothing) fun _ => ?_
    refine .bind (Q := fun ants' => ants' = ants.move holder recipient reward) ?_ fun ants' moved => ?_
    · refine .ite (fun _ => nofun) fun _ => Meets.ite (fun short => ?_) fun _ => rfl
      have enough : reward ≤ ants.balanceOf holder :=
        h.solvent.le_held (by decide) isHolder inside earned.most
      omega
    · subst moved
      refine Meets.pure ⟨h.indexed, h.reached, h.unsettled, h.closed, ?_⟩
      refine EpochRewards.Move.solvent
        (l := stakerLedger r.nextIndexEpoch paid r pools (ants.balanceOf holder))
        (.claimed q toEpoch reward isHolder (by simp only [stakerLedger]; omega) inside earned.most
          rfl rfl rfl rfl rfl rfl rfl (add_single_eq_update paid q reward) ?_) h.solvent
      have bound := ants.balance_le_move holder recipient holder reward
      rwa [if_pos rfl] at bound

end Claims

namespace SellerPoolsRewards

/-- What the loop of `claimStakerRewardsBatch` pays for every position. -/
def claimedBy (pools : SellerPools) (self recipient staker : Address) :
    List Nat → SellerPoolsRewards → Erc20 → Nat → Nat
  | [], _, _ => 0
  | positionId :: rest, r, ants =>
    match r.claimIndexedStakerRewards ants pools self positionId recipient staker with
    | .ok (r, ants, claimed) =>
      Pi.single positionId claimed + claimedBy pools self recipient staker rest r ants
    | .error _ => 0

/-- What the loop of `restakeStakerRewardsBatch` pays for every position. -/
def restakedBy (ctx : CallContext) (stakeEpochs : Nat) :
    List Nat → SellerPoolsRewards → Erc20 → SellerPools → Nat → Nat
  | [], _, _, _ => 0
  | positionId :: rest, r, ants, pools =>
    match r.claimIndexedStakerRewards ants pools ctx.addresses.poolsRewards positionId
      ctx.addresses.pools ctx.sender with
    | .ok (r, ants, restaked) =>
      if restaked = 0 then restakedBy ctx stakeEpochs rest r ants pools
      else
        match pools.stakeMintedReward (ctx.toPools ctx.addresses.poolsRewards) ctx.sender
          positionId restaked stakeEpochs with
        | .ok (pools, _) =>
          Pi.single positionId restaked + restakedBy ctx stakeEpochs rest r ants pools
        | .error _ => 0
    | .error _ => 0

end SellerPoolsRewards

theorem notShort_of_tokenless {ε α : Type} (rename : ε → RewardsError) {x : Tx ε α}
    (h : Tokenless x) : Meets (bubble rename x) NotShort fun a => x = .ok a := by
  cases x with
  | ok => exact rfl
  | error reason =>
    cases reason with
    | erc20 error => exact absurd rfl (h error)
    | _ => exact nofun

theorem requireNotPaused_notShort {admin : Admin} :
    Meets (bubble RewardsError.admin admin.requireNotPaused) NotShort fun _ => True :=
  (notShort_of_tokenless _ (tokenless_require _ _)).mono fun _ _ => trivial

/-- The pools and the rewards of their stakers in epoch `c`. -/
structure Staked (c : Nat) (holder : Address) (paid : Nat → Nat) (r : SellerPoolsRewards)
    (pools : SellerPools) (ants : Erc20) : Prop where
  steady : pools.Steady c
  timely : c < 2 ^ 64
  solid : Solid c holder r.nextIndexEpoch paid r pools ants

theorem claimPositions_meets
    (h : Staked c holder paid r pools ants) :
    Meets (claimPositions pools holder recipient staker positionIds r ants totalClaimed) NotShort
      fun result => Staked c holder (paid + claimedBy pools holder recipient staker positionIds r ants)
        result.1 pools result.2.1 := by
  induction positionIds generalizing paid r ants totalClaimed with
  | nil =>
    refine .pure ?_
    rw [claimedBy, add_zero]
    exact h
  | cons positionId rest ih =>
    unfold claimPositions claimedBy
    have one := claimIndexedStakerRewards_meets (q := positionId) h.solid h.steady h.timely
      recipient staker
    cases claimed : r.claimIndexedStakerRewards ants pools holder positionId recipient staker with
    | error => exact one.reason claimed
    | ok result =>
      rw [ok_bind]
      refine .bind (uint_meets nofun) fun total _ => ?_
      dsimp only
      rw [← add_assoc]
      exact ih ⟨h.steady, h.timely, one.result claimed⟩

theorem Staked.stakeMintedReward {ctx : CallContext} {staker sender : Address}
    {sourcePositionId amount stakeEpochs id : Nat}
    (h : Staked (currentEpoch ctx.now) ctx.addresses.poolsRewards paid r pools ants)
    (staked : pools.stakeMintedReward (ctx.toPools sender) staker sourcePositionId amount
      stakeEpochs = .ok (pools', id)) :
    Staked (currentEpoch ctx.now) ctx.addresses.poolsRewards paid r pools' ants := by
  have changes : SellerPools.Changes (currentEpoch ctx.now) (currentEpoch ctx.now) pools pools' :=
    SellerPools.changes_stakeMintedReward h.steady.configured staked
  have after := changes.steady h.steady
  exact ⟨after, h.timely, h.solid.grows h.steady.toSound after.toSound
    (changes.grows h.steady.toSound (Nat.le_succ _)) (.refl _ _)⟩

variable {ctx : CallContext}
  (h : Staked (currentEpoch ctx.now) ctx.addresses.poolsRewards paid r pools ants)

include h

variable {positionIds : List Nat} {recipient : Address}

theorem restakePositions_meets {stakeEpochs totalRestakedAll : Nat} :
    Meets (restakePositions ctx stakeEpochs positionIds r ants pools totalRestakedAll) NotShort
      fun result => Staked (currentEpoch ctx.now) ctx.addresses.poolsRewards
        (paid + restakedBy ctx stakeEpochs positionIds r ants pools)
        result.1 result.2.2.1 result.2.1 := by
  induction positionIds generalizing paid r ants pools totalRestakedAll with
  | nil =>
    refine .pure ?_
    rw [restakedBy, add_zero]
    exact h
  | cons positionId rest ih =>
    unfold restakePositions restakedBy
    have one := claimIndexedStakerRewards_meets (q := positionId) h.solid h.steady h.timely
      ctx.addresses.pools ctx.sender
    dsimp only
    cases claimed : r.claimIndexedStakerRewards ants pools ctx.addresses.poolsRewards positionId
      ctx.addresses.pools ctx.sender with
    | error => exact one.reason claimed
    | ok result =>
      obtain ⟨r1, ants1, amount⟩ := result
      have solid := one.result claimed
      rw [ok_bind]
      dsimp only at solid ⊢
      by_cases none : amount = 0
      · subst none
        rw [if_pos rfl, if_pos rfl]
        rw [Pi.single_zero, add_zero] at solid
        exact ih ⟨h.steady, h.timely, solid⟩
      · rw [if_neg none, if_neg none]
        refine .bind (uint_meets nofun) fun total _ => ?_
        have calm := notShort_of_tokenless RewardsError.pools
          (SellerPools.tokenless_stakeMintedReward pools (ctx.toPools ctx.addresses.poolsRewards)
            ctx.sender positionId amount stakeEpochs)
        cases staked : pools.stakeMintedReward (ctx.toPools ctx.addresses.poolsRewards)
          ctx.sender positionId amount stakeEpochs with
        | error =>
          rw [staked] at calm
          exact .bind calm fun _ impossible => nomatch impossible
        | ok result =>
          have next : Staked (currentEpoch ctx.now) ctx.addresses.poolsRewards
              (paid + Pi.single positionId amount) r1 pools ants1 :=
            ⟨h.steady, h.timely, solid⟩
          dsimp only [bubble]
          rw [ok_bind, ← add_assoc]
          exact ih (next.stakeMintedReward staked)

theorem claimStakerRewards_meets {positionId : Nat} :
    Meets (r.claimStakerRewards ants pools ctx positionId recipient) NotShort
      fun result => Staked (currentEpoch ctx.now) ctx.addresses.poolsRewards
        (paid + claimedBy pools ctx.addresses.poolsRewards recipient ctx.sender
          [positionId] r ants) result.1 pools result.2 := by
  refine .bind requireNotPaused_notShort fun _ _ => Meets.require nofun fun _ => ?_
  have one := claimIndexedStakerRewards_meets (q := positionId) h.solid h.steady h.timely recipient
    ctx.sender
  simp only [claimedBy]
  cases claimed : r.claimIndexedStakerRewards ants pools ctx.addresses.poolsRewards positionId
    recipient ctx.sender with
  | error => exact one.reason claimed
  | ok =>
    rw [ok_bind]
    refine .require (by rintro ⟨⟩) fun _ => Meets.pure ?_
    dsimp only
    rw [add_zero]
    exact ⟨h.steady, h.timely, one.result claimed⟩

theorem claimStakerRewardsBatch_meets :
    Meets (r.claimStakerRewardsBatch ants pools ctx positionIds recipient) NotShort
      fun result => Staked (currentEpoch ctx.now) ctx.addresses.poolsRewards
        (paid + claimedBy pools ctx.addresses.poolsRewards recipient ctx.sender
          positionIds r ants) result.1 pools result.2 := by
  refine .decode nofun fun _ => Meets.bind requireNotPaused_notShort fun _ _ => ?_
  refine .require nofun fun _ => require nofun fun _ => ?_
  refine .bind (claimPositions_meets h) fun result staked => ?_
  exact .require nofun fun _ => pure staked

theorem restakeStakerRewards_meets {positionId stakeEpochs : Nat} :
    Meets (r.restakeStakerRewards ants pools ctx positionId stakeEpochs) NotShort
      fun result => Staked (currentEpoch ctx.now) ctx.addresses.poolsRewards
        (paid + restakedBy ctx stakeEpochs [positionId] r ants pools)
        result.1 result.2.2 result.2.1 := by
  refine .bind requireNotPaused_notShort fun _ _ => ?_
  have one := claimIndexedStakerRewards_meets (q := positionId) h.solid h.steady h.timely
    ctx.addresses.pools ctx.sender
  simp only [restakedBy]
  cases claimed : r.claimIndexedStakerRewards ants pools ctx.addresses.poolsRewards positionId
    ctx.addresses.pools ctx.sender with
  | error => exact one.reason claimed
  | ok result =>
    obtain ⟨r1, ants1, amount⟩ := result
    have claimer : Staked (currentEpoch ctx.now) ctx.addresses.poolsRewards
        (paid + Pi.single positionId amount) r1 pools ants1 :=
      ⟨h.steady, h.timely, one.result claimed⟩
    rw [ok_bind]
    refine .require (by rintro ⟨⟩) fun some => ?_
    dsimp only at some ⊢
    rw [if_neg some]
    refine .bind (notShort_of_tokenless _
      (SellerPools.tokenless_stakeMintedReward _ _ _ _ _ _)) fun result staked => Meets.pure ?_
    rw [staked]
    rw [add_zero]
    exact claimer.stakeMintedReward staked

theorem restakeStakerRewardsBatch_meets {stakeEpochs : Nat} :
    Meets (r.restakeStakerRewardsBatch ants pools ctx positionIds stakeEpochs) NotShort
      fun result => Staked (currentEpoch ctx.now) ctx.addresses.poolsRewards
        (paid + restakedBy ctx stakeEpochs positionIds r ants pools)
        result.1 result.2.2 result.2.1 := by
  refine .decode nofun fun _ => Meets.bind requireNotPaused_notShort fun _ _ => ?_
  refine .require nofun fun _ => ?_
  refine .bind (restakePositions_meets h) fun result staked => ?_
  exact .require nofun fun _ => pure staked

end AntSeed.Emissions
