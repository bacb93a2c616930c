import AntSeed.Emissions.StakerRuns

/-! # Every epoch is paid once

The reward that is read off the indexes is the sum over the epochs it is for, each
rounded down, but for less than one unit an epoch. A claim that pays moves the
cursor of its position over exactly the epochs it pays for, so claims of whatever
size, one after another, leave no epoch out and pay none twice.
-/

namespace AntSeed.Emissions

open Evm Function
open Finset (Ico)
open Pools (SellerPools fenwickSize)
open SellerPoolsRewards
open Nat

variable {c : Nat} {paid : Nat → Nat} {r r' r'' : SellerPoolsRewards} {pools pools' pools'' : SellerPools}
  {ants ants' : Erc20}

theorem walkSegments_add {a : Word} {weightAmount toEpoch q rounds cursor rewardAmount : Nat} (extra : Nat)
    (enough : toEpoch ≤ cursor + rounds) :
    r.walkSegments pools a weightAmount toEpoch q (rounds + extra) cursor rewardAmount =
      r.walkSegments pools a weightAmount toEpoch q rounds cursor rewardAmount := by
  induction rounds generalizing cursor rewardAmount with
  | zero =>
    cases extra with
    | zero => rfl
    | succ =>
      rw [zero_add]
      unfold walkSegments
      rw [if_neg (by omega)]
  | succ rounds ih =>
    rw [add_right_comm]
    unfold walkSegments
    by_cases more : cursor < toEpoch
    · rw [if_pos more, if_pos more]
      congr 1
      funext segment
      dsimp only
      generalize isEnd : (if segment.nextChangeEpoch < toEpoch then segment.nextChangeEpoch
        else toEpoch) = segmentEnd
      by_cases stuck : segmentEnd ≤ cursor
      · rw [if_pos stuck, if_pos stuck]
      · rw [if_neg stuck, if_neg stuck]
        by_cases locked : segment.maxLockPower ≠ 0
        · rw [if_pos locked, if_pos locked]
          congr 1
          funext reward
          congr 1
          funext total
          exact ih (by omega)
        · rw [if_neg locked, if_neg locked]
          by_cases running : segment.normalEndEpoch ≠ 0 ∧ cursor < segment.normalEndEpoch
          · rw [if_pos running, if_pos running]
            have further : cursor < if segmentEnd > segment.normalEndEpoch then segment.normalEndEpoch
                else segmentEnd := by
              split <;> omega
            congr 1
            funext reward
            congr 1
            funext total
            exact ih (by omega)
          · rw [if_neg running, if_neg running]
            exact ih (by omega)
    · rw [if_neg more, if_neg more]

def worth (r : SellerPoolsRewards) (pools : SellerPools) (q e : Nat) : Nat :=
  r.earned pools (pools.positions q).agentId q e

/-- No cursor is ahead of the index of its pool. -/
def Behind (r : SellerPoolsRewards) (pools : SellerPools) : Prop :=
  ∀ q, r.positionClaimCursor q = 0 ∨ (pools.positions q).owner ≠ 0 ∧
    r.positionClaimCursor q ≤ r.nextIndexEpoch (pools.positions q).agentId

/-- What the index of a pool gained in an epoch is the emission of the pool for each unit of its
    weight. -/
def Priced (next : Word → Nat) (r : SellerPoolsRewards) (pools : SellerPools) : Prop :=
  ∀ a e, r.initialIndexEpoch ≤ e → e < next a → ∃ poolWeight,
    pools.poolWeightAtEpoch a e = .ok poolWeight ∧
      rewardPerWeight (r.poolEpochEmissions e a).amount poolWeight =
        .ok ((r.poolCumulativeRewardPerWeight a).rise e)

/-- Cursors moved over the epochs their positions were paid for, and nothing else that rewards
    depend on has changed. -/
structure Advanced (r r' : SellerPoolsRewards) (pools pools' : SellerPools) (amounts : Nat → Nat) : Prop where
  covers : Covers indexScale (worth r pools) r.positionClaimCursor r'.positionClaimCursor amounts
  worth : worth r' pools' = worth r pools
  behind : Behind r pools → Behind r' pools'
  priced : Priced r.nextIndexEpoch r pools → Priced r'.nextIndexEpoch r' pools'

theorem Advanced.refl (r : SellerPoolsRewards) (pools : SellerPools) : Advanced r r pools pools 0 :=
  ⟨.refl _ _ _, rfl, id, id⟩

theorem Advanced.trans {first second : Nat → Nat} (before : Advanced r r' pools pools' first)
    (after : Advanced r' r'' pools' pools'' second) : Advanced r r'' pools pools'' (first + second) where
  covers := before.covers.trans (before.worth ▸ after.covers)
  worth := after.worth.trans before.worth
  behind := after.behind ∘ before.behind
  priced := after.priced ∘ before.priced

variable {holder recipient staker : Address}

theorem worth_grows (solid : Solid c holder r.nextIndexEpoch paid r pools ants)
    (grows : pools.Grows c pools') : worth r pools' = worth r pools := by
  funext q e
  unfold worth earned
  have ahead : ∀ a, c ≤ e → (r.poolCumulativeRewardPerWeight a).rise e = 0 := by
    intro a late
    exact (solid.indexed a).rise_ahead (le_trans (solid.reached a) late)
  by_cases absent : (pools.positions q).owner = 0
  · rw [SellerPools.weightAt_absent absent, zero_mul]
    by_cases below : e < c
    · rw [grows.joined q absent e below, zero_mul]
    · rw [ahead _ (Nat.le_of_not_lt below), Nat.mul_zero]
  · rw [grows.agents q absent]
    by_cases below : e < c
    · rw [grows.toFrozen.weightAt absent below]
    · rw [ahead _ (Nat.le_of_not_lt below), Nat.mul_zero, Nat.mul_zero]

theorem Behind.grows (behind : Behind r pools) (grows : pools.Grows c pools') : Behind r pools' := by
  intro q
  rcases behind q with none | ⟨present, inside⟩
  · exact .inl none
  · refine .inr ⟨grows.persists q present, ?_⟩
    rw [grows.agents q present]
    exact inside

theorem Priced.grows (priced : Priced next r pools)
    (solid : Solid c holder next paid r pools ants) (grows : pools.Grows c pools') :
    Priced next r pools' := by
  intro a e initial below
  rw [grows.toFrozen.poolWeight a e (lt_of_lt_of_le below (solid.reached a))]
  exact priced a e initial below

theorem advanced_grows (solid : Solid c holder r.nextIndexEpoch paid r pools ants)
    (grows : pools.Grows c pools') : Advanced r r pools pools' 0 :=
  ⟨.refl _ _ _, worth_grows solid grows, fun behind => behind.grows grows,
    fun priced => priced.grows solid grows⟩

theorem claimIndexedStakerRewards_advances (h : Staked c holder paid r pools ants)
    (claimed : r.claimIndexedStakerRewards ants pools holder q recipient staker =
      .ok (r', ants', amount)) : Advanced r r' pools pools (Pi.single q amount) := by
  obtain ⟨_, present, claimed⟩ := ran claimed
  replace claimed := rest_ok claimed
  have nothing : Advanced r r pools pools (Pi.single q 0) := by
    rw [Pi.single_zero]
    exact .refl r pools
  rw [require_eq_ok] at present
  cases window : r.claimWindow (pools.positions q) q with
  | none =>
    rw [window] at claimed
    cases claimed
    exact nothing
  | some bounds =>
    obtain ⟨fromEpoch, toEpoch⟩ := bounds
    obtain ⟨reward, returned, rounded⟩ := window_spec h.solid h.steady h.timely present window
    obtain ⟨after, -, order, inside, -⟩ := claimWindow_spec window
    rw [window] at claimed
    dsimp only at claimed
    rw [returned, ok_bind] at claimed
    split at claimed
    · cases claimed
      exact nothing
    · obtain ⟨moved, -, claimed⟩ := ran claimed
      cases claimed
      refine ⟨.single (by omega) rounded, rfl, fun behind x => ?_, id⟩
      change update r.positionClaimCursor q toEpoch x = 0 ∨ (pools.positions x).owner ≠ 0 ∧
        update r.positionClaimCursor q toEpoch x ≤ r.nextIndexEpoch (pools.positions x).agentId
      by_cases here : x = q
      · subst here
        rw [update_self]
        exact .inr ⟨present, inside⟩
      · rw [update_of_ne here]
        exact behind x

theorem claimedBy_single
    (one : r.claimIndexedStakerRewards ants pools holder q recipient staker = .ok (r', ants', amount)) :
    claimedBy pools holder recipient staker [q] r ants = Pi.single q amount := by
  unfold claimedBy
  rw [one]
  exact add_zero _

theorem claimPositions_advances (h : Staked c holder paid r pools ants)
    (claimed : claimPositions pools holder recipient staker positionIds r ants
      totalClaimed = .ok (r', ants', total)) :
    Advanced r r' pools pools (claimedBy pools holder recipient staker positionIds r ants) := by
  induction positionIds generalizing paid r ants totalClaimed with
  | nil =>
    cases claimed
    exact .refl _ _
  | cons positionId rest ih =>
    obtain ⟨⟨r1, ants1, amount⟩, one, claimed⟩ := ran claimed
    obtain ⟨_, -, claimed⟩ := ran claimed
    have solid := (claimIndexedStakerRewards_meets (q := positionId) h.solid h.steady h.timely
      recipient staker).result one
    unfold claimedBy
    rw [one]
    exact (claimIndexedStakerRewards_advances h one).trans (ih ⟨h.steady, h.timely, solid⟩ claimed)

section Restaking

variable {ctx : CallContext}

theorem stakeMintedReward_advances {sourcePositionId amount stakeEpochs id : Nat}
    (h : Staked (currentEpoch ctx.now) ctx.addresses.poolsRewards paid r pools ants)
    (staked : pools.stakeMintedReward (ctx.toPools sender) staker sourcePositionId amount
      stakeEpochs = .ok (pools', id)) : Advanced r r pools pools' 0 := by
  have changes : SellerPools.Changes (currentEpoch ctx.now) (currentEpoch ctx.now) pools pools' :=
    SellerPools.changes_stakeMintedReward h.steady.configured staked
  exact advanced_grows h.solid (changes.grows h.steady.toSound (le_succ _))

theorem restakedBy_single {q amount stakeEpochs id : Nat} (some : amount ≠ 0)
    (one : r.claimIndexedStakerRewards ants pools ctx.addresses.poolsRewards q ctx.addresses.pools
      ctx.sender = .ok (r', ants', amount))
    (staked : pools.stakeMintedReward (ctx.toPools ctx.addresses.poolsRewards) ctx.sender q amount
      stakeEpochs = .ok (pools', id)) :
    restakedBy ctx stakeEpochs [q] r ants pools = Pi.single q amount := by
  unfold restakedBy
  rw [one]
  dsimp only
  rw [if_neg some, staked]
  exact add_zero _

theorem restakePositions_advances {stakeEpochs totalRestakedAll total : Nat}
    (h : Staked (currentEpoch ctx.now) ctx.addresses.poolsRewards paid r pools ants)
    (restaked : restakePositions ctx stakeEpochs positionIds r ants pools
      totalRestakedAll = .ok (r', ants', pools', total)) :
    Advanced r r' pools pools' (restakedBy ctx stakeEpochs positionIds r ants pools) := by
  induction positionIds generalizing paid r ants pools totalRestakedAll with
  | nil =>
    cases restaked
    exact .refl _ _
  | cons positionId rest ih =>
    obtain ⟨⟨r1, ants1, amount⟩, one, restaked⟩ := ran restaked
    have claimed := claimIndexedStakerRewards_advances h one
    have solid := (claimIndexedStakerRewards_meets (q := positionId) h.solid h.steady h.timely
      ctx.addresses.pools ctx.sender).result one
    dsimp only at restaked solid
    unfold restakedBy
    rw [one]
    dsimp only
    by_cases none : amount = 0
    · rw [if_pos none] at restaked ⊢
      subst none
      rw [Pi.single_zero, add_zero] at solid
      have rest := ih ⟨h.steady, h.timely, solid⟩ restaked
      rw [Pi.single_zero] at claimed
      have both := claimed.trans rest
      rwa [zero_add] at both
    · rw [if_neg none] at restaked ⊢
      obtain ⟨_, -, restaked⟩ := ran restaked
      obtain ⟨⟨pools1, id⟩, staking, restaked⟩ := ran restaked
      have staked := bubble_eq_ok.mp staking
      have before : Staked (currentEpoch ctx.now) ctx.addresses.poolsRewards
          (paid + Pi.single positionId amount) r1 pools ants1 := ⟨h.steady, h.timely, solid⟩
      rw [staked]
      dsimp only
      have opened := claimed.trans (stakeMintedReward_advances before staked)
      rw [add_zero] at opened
      exact opened.trans (ih (before.stakeMintedReward staked) restaked)

end Restaking

/-- Only indexes, emissions and budgets have changed, and below an epoch the index of an agent has
    not; nor have those of the others. -/
structure IndexedFrom (a : Word) (epoch : Nat) (r r' : SellerPoolsRewards) : Prop where
  cursors : r'.positionClaimCursor = r.positionClaimCursor
  initial : r'.initialIndexEpoch = r.initialIndexEpoch
  stored : r'.poolRewardIndexNextEpoch = r.poolRewardIndexNextEpoch
  past : ∀ b e, (b = a → e < epoch) →
    (r'.poolCumulativeRewardPerWeight b).rise e = (r.poolCumulativeRewardPerWeight b).rise e

section Indexing

variable {a : Word} {epoch : Nat} {g g' : Gate} {accounting : UsageAccounting} {ctx : CallContext}

theorem IndexedFrom.refl (a : Word) (epoch : Nat) (r : SellerPoolsRewards) : IndexedFrom a epoch r r :=
  ⟨rfl, rfl, rfl, fun _ _ _ => rfl⟩

theorem IndexedFrom.trans {epoch' : Nat} (first : IndexedFrom a epoch r r')
    (second : IndexedFrom a epoch' r' r'') (later : epoch ≤ epoch') : IndexedFrom a epoch r r'' where
  cursors := second.cursors.trans first.cursors
  initial := second.initial.trans first.initial
  stored := second.stored.trans first.stored
  past b e below :=
    (second.past b e fun here => lt_of_lt_of_le (below here) later).trans (first.past b e below)

theorem settlePoolEpoch_from (h : r.settlePoolEpoch g ants accounting pools ctx a epoch = .ok (r', g', ants')) :
    IndexedFrom a epoch r r' := by
  unfold settlePoolEpoch at h
  dsimp only at h
  split at h
  · cases h
    exact .refl a epoch _
  · obtain ⟨⟨frozen, budget⟩, freezing, h⟩ := ran h
    obtain ⟨amount, -, h⟩ := ran h
    obtain ⟨⟨charged, minted⟩, -, h⟩ := ran h
    cases h
    rw [freezeStakerEpochBudget_spec freezing]
    exact ⟨rfl, rfl, rfl, fun _ _ _ => rfl⟩

theorem raiseIndexes_from (h : r.raiseIndexes a epoch perWeight = .ok r') :
    IndexedFrom a epoch r r' := by
  obtain ⟨total, -, h⟩ := ran h
  obtain ⟨weighted, -, h⟩ := ran h
  obtain ⟨epochTotal, -, h⟩ := ran h
  split at h
  · replace h := uint_rest h
    obtain ⟨rewards, pushed, h⟩ := ran h
    obtain ⟨epochRewards, -, h⟩ := ran h
    cases h
    refine ⟨rfl, rfl, rfl, fun b e below => ?_⟩
    by_cases here : b = a
    · subst here
      have before := below rfl
      simp only [update_self]
      unfold Trace.rise
      rw [Trace.lookup_push pushed, Trace.lookup_push pushed, if_neg (by omega), if_neg (by omega)]
    · simp only [update_of_ne here]
  · cases h
    exact .refl a epoch _

theorem indexPoolRewardEpoch_from
    (h : r.indexPoolRewardEpoch g ants accounting pools ctx a epoch = .ok (r', g', ants')) :
    IndexedFrom a epoch r r' := by
  obtain ⟨⟨settled, charged, minted⟩, settling, h⟩ := ran h
  obtain ⟨_, -, h⟩ := ran h
  obtain ⟨_, -, h⟩ := ran h
  obtain ⟨raised, raising, h⟩ := ran h
  cases h
  exact (settlePoolEpoch_from settling).trans (raiseIndexes_from raising) (le_refl _)

theorem indexEpochs_from {count : Nat}
    (h : indexEpochs accounting pools ctx a count epoch r g ants = .ok (r', g', ants')) :
    IndexedFrom a epoch r r' := by
  induction count generalizing epoch r g ants with
  | zero =>
    cases h
    exact .refl a epoch _
  | succ count ih =>
    obtain ⟨⟨one, charged, minted⟩, first, h⟩ := ran h
    exact (indexPoolRewardEpoch_from first).trans (ih h) (le_succ _)

theorem indexPoolRewards_past
    (h : r.indexPoolRewards g ants accounting pools ctx a maxEpochs = .ok (r', g', ants')) :
    r'.positionClaimCursor = r.positionClaimCursor ∧ (∀ b, r.nextIndexEpoch b ≤ r'.nextIndexEpoch b) ∧
      ∀ b e, e < r.nextIndexEpoch b →
        (r'.poolCumulativeRewardPerWeight b).rise e = (r.poolCumulativeRewardPerWeight b).rise e := by
  replace h := rest_ok h
  replace h := rest_ok h
  obtain ⟨last, -, h⟩ := ran h
  obtain ⟨⟨looped, charged, minted⟩, looping, h⟩ := ran h
  have loop := indexEpochs_from looping
  generalize isLimit : (if last > currentEpoch ctx.now then currentEpoch ctx.now else last) = limit
    at h
  cases h
  refine ⟨loop.cursors, fun b => ?_, fun b e below => loop.past b e fun here => here ▸ below⟩
  simp only [nextIndexEpoch, loop.initial, loop.stored]
  by_cases here : b = a
  · subst here
    rw [update_self]
    split <;> split <;> omega
  · rw [update_of_ne here]

variable {next : Word → Nat}

section

variable (priced : Priced next r pools)
  (solid : Solid c ctx.addresses.poolsRewards next paid r pools ants)

include priced solid

theorem Priced.indexEpoch
    (h : r.indexPoolRewardEpoch g ants accounting pools ctx a (next a) = .ok (r', g', ants')) :
    Priced (update next a (next a + 1)) r' pools := by
  obtain ⟨⟨settled, charged, minted⟩, settling, h⟩ := ran h
  obtain ⟨poolWeight, weighing, h⟩ := ran h
  obtain ⟨perWeight, dividing, h⟩ := ran h
  obtain ⟨raised, raising, h⟩ := ran h
  cases h
  obtain ⟨amount, budgets, bounded, rfl, -, -⟩ :=
    settlePoolEpoch_spec (solid.unsettled a _ (le_refl _)) settling
  have weighed := bubble_eq_ok.mp weighing
  have small : perWeight ≤ initialEmission * indexScale := by
    rw [recordEmission_entry, if_pos ⟨rfl, rfl⟩] at dividing
    exact le_trans (rewardPerWeight_spec dividing).2 (mul_le_mul_right _ bounded)
  have complete : Indexed fenwickSize (initialEmission * indexScale) (next a)
      ((r.recordEmission (next a) a amount budgets).poolCumulativeRewardPerWeight a)
      ((r.recordEmission (next a) a amount budgets).poolCumulativeEpochRewardPerWeight a) :=
    solid.indexed a
  obtain ⟨rewards, epochRewards, rfl, -, rise⟩ :=
    raiseIndexes_spec complete small (SellerPools.inside_of_poolWeight weighed) raising
  intro b e initial below
  dsimp only
  by_cases here : b = a ∧ e = next a
  · obtain ⟨rfl, rfl⟩ := here
    rw [update_self, rise, if_pos rfl]
    exact ⟨poolWeight, weighed, dividing⟩
  · have before : e < next b := by
      by_cases same : b = a
      · subst same
        have other : e ≠ next b := fun isNext => here ⟨rfl, isNext⟩
        rw [update_self] at below
        omega
      · rwa [update_of_ne same] at below
    obtain ⟨weight, viewed, rate⟩ := priced b e initial before
    refine ⟨weight, viewed, ?_⟩
    rw [recordEmission_entry, if_neg here, rate]
    by_cases same : b = a
    · subst same
      rw [update_self, rise, if_neg (by omega)]
      rfl
    · rw [update_of_ne same]
      rfl

theorem Priced.indexEpochs {count : Nat}
    (steady : pools.Steady c)
    (elapsed : next a + count ≤ c)
    (h : indexEpochs accounting pools ctx a count (next a) r g ants =
      .ok (r', g', ants')) : Priced (update next a (next a + count)) r' pools := by
  induction count generalizing next r g ants with
  | zero =>
    cases h
    rw [add_zero, Function.update_eq_self]
    exact priced
  | succ count ih =>
    obtain ⟨⟨one, charged, minted⟩, first, h⟩ := ran h
    obtain ⟨after, -, -⟩ := solid.indexEpoch steady (by omega) first
    have here : update next a (next a + 1) a = next a + 1 := update_self _ _ _
    have rest := ih (priced.indexEpoch solid first) after (by rw [here]; omega) (by rwa [here])
    rwa [here, Function.update_idem, add_right_comm, add_assoc] at rest

end

theorem Priced.indexPoolRewards (priced : Priced r.nextIndexEpoch r pools)
    (solid : Solid (currentEpoch ctx.now) ctx.addresses.poolsRewards r.nextIndexEpoch paid r pools ants)
    (steady : pools.Steady (currentEpoch ctx.now))
    (h : r.indexPoolRewards g ants accounting pools ctx a maxEpochs = .ok (r', g', ants')) :
    Priced r'.nextIndexEpoch r' pools := by
  replace h := rest_ok h
  replace h := rest_ok h
  obtain ⟨last, -, h⟩ := ran h
  obtain ⟨⟨looped, charged, minted⟩, looping, h⟩ := ran h
  have reached := solid.reached a
  generalize isLimit : (if last > currentEpoch ctx.now then currentEpoch ctx.now else last) = limit
    at looping h
  have limited : limit ≤ currentEpoch ctx.now := by
    split at isLimit <;> omega
  have loop := priced.indexEpochs solid steady (by omega) looping
  have frame := indexEpochs_from looping
  cases h
  intro b e initial below
  refine loop b e initial ?_
  rw [nextIndexEpoch] at below
  simp only [frame.initial, frame.stored] at below initial
  by_cases here : b = a
  · subst here
    rw [update_self] at below ⊢
    split at below <;> omega
  · rw [update_of_ne here] at below ⊢
    exact below

end Indexing

namespace Protocol

variable {addresses : Addresses} {p p' : Protocol} {call : ProtocolCall} {since got : Nat → Nat}

theorem claims_advance (h : p.Staked addresses paid) (claims : call.op.claimsStakerRewards = true)
    (taken : p.perform addresses call = .ok p') :
    Advanced p.poolsRewards p'.poolsRewards p.pools p'.pools (p.stakerPayouts addresses call) := by
  obtain ⟨sender, outside, op⟩ := call
  cases op with
  | claimStakerRewards positionId recipient =>
    obtain ⟨⟨r1, ants1⟩, claimed, taken⟩ := ran taken
    cases taken
    replace claimed := rest_ok claimed
    replace claimed := rest_ok claimed
    obtain ⟨⟨r2, ants2, amount⟩, one, claimed⟩ := ran claimed
    replace claimed := rest_ok claimed
    cases claimed
    have payouts : p.stakerPayouts addresses ⟨sender, outside, .claimStakerRewards positionId recipient⟩ =
        Pi.single positionId amount := claimedBy_single one
    rw [payouts]
    exact claimIndexedStakerRewards_advances h one
  | claimStakerRewardsBatch =>
    obtain ⟨⟨r1, ants1⟩, claimed, taken⟩ := ran taken
    cases taken
    replace claimed := rest_ok claimed
    replace claimed := rest_ok claimed
    replace claimed := rest_ok claimed
    replace claimed := rest_ok claimed
    obtain ⟨⟨r2, ants2, total⟩, all, claimed⟩ := ran claimed
    replace claimed := rest_ok claimed
    cases claimed
    exact claimPositions_advances h all
  | restakeStakerRewards positionId stakeEpochs =>
    obtain ⟨⟨r1, ants1, pools1⟩, claimed, taken⟩ := ran taken
    cases taken
    replace claimed := rest_ok claimed
    obtain ⟨⟨r2, ants2, amount⟩, one, claimed⟩ := ran claimed
    obtain ⟨_, some, claimed⟩ := ran claimed
    obtain ⟨⟨pools2, id⟩, staking, claimed⟩ := ran claimed
    cases claimed
    have staked := bubble_eq_ok.mp staking
    have solid := (claimIndexedStakerRewards_meets (q := positionId) h.solid h.steady h.timely
      addresses.pools sender).result one
    have payouts : p.stakerPayouts addresses ⟨sender, outside, .restakeStakerRewards positionId stakeEpochs⟩ =
        Pi.single positionId amount := restakedBy_single (require_eq_ok.mp some) one staked
    let ctx := p.context addresses ⟨sender, outside, .restakeStakerRewards positionId stakeEpochs⟩
    have claimed : Emissions.Staked (currentEpoch ctx.now) ctx.addresses.poolsRewards
        (paid + Pi.single positionId amount) r1 p.pools ants1 := ⟨h.steady, h.timely, solid⟩
    have both := (claimIndexedStakerRewards_advances h one).trans
      (stakeMintedReward_advances claimed staked)
    rw [add_zero] at both
    rw [payouts]
    exact both
  | restakeStakerRewardsBatch positionIds stakeEpochs =>
    obtain ⟨⟨r1, ants1, pools1⟩, claimed, taken⟩ := ran taken
    cases taken
    replace claimed := rest_ok claimed
    replace claimed := rest_ok claimed
    replace claimed := rest_ok claimed
    obtain ⟨⟨r2, ants2, pools2, total⟩, all, claimed⟩ := ran claimed
    replace claimed := rest_ok claimed
    cases claimed
    let ctx := p.context addresses ⟨sender, outside, .restakeStakerRewardsBatch positionIds stakeEpochs⟩
    have before : Emissions.Staked (currentEpoch ctx.now) ctx.addresses.poolsRewards paid
        p.poolsRewards p.pools p.ants := h
    exact restakePositions_advances before all
  | _ => cases claims

/-- Since some state, every position has been paid for exactly the epochs its cursor has passed. -/
structure Accounted (since got : Nat → Nat) (p : Protocol) : Prop where
  covers : Covers indexScale p.stakerEarned since p.poolsRewards.positionClaimCursor got
  behind : Behind p.poolsRewards p.pools
  priced : Priced p.poolsRewards.nextIndexEpoch p.poolsRewards p.pools

theorem Accounted.restart (h : p.Accounted since got) :
    p.Accounted p.poolsRewards.positionClaimCursor 0 :=
  ⟨.refl _ _ _, h.behind, h.priced⟩

theorem Accounted.idle (h : p.Accounted since got)
    (cursors : p'.poolsRewards.positionClaimCursor = p.poolsRewards.positionClaimCursor)
    (worth : ∀ q e, e < p.poolsRewards.positionClaimCursor q → p'.stakerEarned q e = p.stakerEarned q e)
    (behind : Behind p'.poolsRewards p'.pools)
    (priced : Priced p'.poolsRewards.nextIndexEpoch p'.poolsRewards p'.pools) :
    p'.Accounted since got := by
  refine ⟨?_, behind, priced⟩
  rw [cursors]
  exact h.covers.congr worth

theorem StakerMove.accounted (move : StakerMove addresses p p') (staked : p.Staked addresses paid)
    (h : p.Accounted since got) : p'.Accounted since got := by
  cases move with
  | moved first changes late near keeps now rewards epochRewards emissions cursors next initial =>
    have grows := (changes.grows staked.steady.toSound near).mono late
    have same : worth p'.poolsRewards p'.pools = worth p.poolsRewards p.pools := by
      rw [← worth_grows staked.solid grows]
      funext q e
      unfold worth earned
      rw [rewards]
    refine h.idle cursors (fun q e _ => congrFun (congrFun same q) e) (fun q => ?_) ?_
    · rw [cursors, next]
      exact h.behind.grows grows q
    · intro a e first below
      rw [next] at below
      rw [rewards, emissions]
      exact h.priced.grows staked.solid grows a e (initial ▸ first) below
  | elapsed pools rewards =>
    refine h.idle (by rw [rewards]) (fun q e _ => ?_) ?_ ?_
    · unfold stakerEarned
      rw [rewards, pools]
    · rw [rewards, pools]
      exact h.behind
    · rw [rewards, pools]
      exact h.priced
  | indexed call agentId maxEpochs gate pools now indexed =>
    obtain ⟨cursors, further, past⟩ := indexPoolRewards_past indexed
    refine h.idle cursors (fun q e passed => ?_) (fun q => ?_) ?_
    · unfold stakerEarned earned
      rw [pools]
      rcases h.behind q with none | ⟨-, inside⟩
      · omega
      · rw [past _ e (by omega)]
    · rw [cursors, pools]
      exact (h.behind q).imp_right fun known => ⟨known.1, known.2.trans (further _)⟩
    · rw [pools]
      have before : Solid (currentEpoch (p.context addresses call).now)
          (p.context addresses call).addresses.poolsRewards p.poolsRewards.nextIndexEpoch paid
          p.poolsRewards p.pools p.ants := staked.solid
      exact h.priced.indexPoolRewards before staked.steady indexed

theorem step_accounted (separate : addresses.Separate) (staked : p.Staked addresses paid)
    (h : p.Accounted since got) (taken : p.step addresses call = .ok p') :
    p'.Accounted since (got + p.stakerPayouts addresses call) := by
  cases claims : call.op.claimsStakerRewards with
  | true =>
    replace taken := rest_ok taken
    have advanced := claims_advance staked claims taken
    have same : p'.stakerEarned = p.stakerEarned := advanced.worth
    refine ⟨?_, advanced.behind h.behind, advanced.priced h.priced⟩
    rw [same]
    exact h.covers.trans advanced.covers
  | false =>
    rw [stakerPayouts_eq_zero claims, add_zero]
    exact (step_moves separate staked taken claims).accounted staked h

end Protocol

theorem accounted_deploy {d : Deployment} {addresses : Addresses} {now : Nat} {p : Protocol}
    (deployed : d.deploy addresses now ants = .ok p) : p.Accounted 0 0 := by
  obtain ⟨-, gate, accounting, -, -, rfl⟩ := d.deploy_eq_ok deployed
  refine ⟨.refl _ _ _, fun _ => .inl rfl, fun a e initial below => ?_⟩
  have none : e < currentEpoch now := lt_of_lt_of_le below (le_of_eq (if_pos rfl))
  exact absurd none (Nat.not_lt_of_le initial)

theorem run_accounted {addresses : Addresses} {p : Protocol} {since got : Nat → Nat}
    (separate : addresses.Separate) (staked : p.Staked addresses paid) (accounted : p.Accounted since got)
    (calls : List ProtocolCall) :
    let more := (protocolMachine addresses).tally (Protocol.stakerPayouts addresses) p calls
    ((protocolMachine addresses).run p calls).Staked addresses (paid + more) ∧
      ((protocolMachine addresses).run p calls).Accounted since (got + more) := by
  let Both (more : Nat → Nat) (s : Protocol) : Prop :=
    s.Staked addresses (paid + more) ∧ s.Accounted since (got + more)
  have step : ∀ more s call s', Both more s → (protocolMachine addresses).step s call = .ok s' →
      Both (more + Protocol.stakerPayouts addresses s call) s' := by
    intro more s call s' h taken
    simp only [Both, ← add_assoc]
    exact ⟨Protocol.step_staked separate h.1 taken, Protocol.step_accounted separate h.1 h.2 taken⟩
  have start : Both 0 p := by
    simp only [Both, add_zero]
    exact ⟨staked, accounted⟩
  have run := (protocolMachine addresses).run_invariant_tally step start calls
  rwa [zero_add] at run

/-- Over every run: for any stretch of indexed epochs the walk over the segments of a position's
    power ends with the reward, and that is the sum over the epochs of the weight of the position
    times the reward for each unit of weight, where less than one unit an epoch is lost to rounding.
    In whatever follows, what a position is paid is that sum for exactly the epochs its cursor
    passes. -/
theorem indexed_rewards_are_epoch_sums (d : Deployment) (addresses : Addresses) (now : Nat)
    (ants : Erc20) (p : Protocol) (separate : addresses.Separate)
    (unapproved : ∀ spender, ants.allowance addresses.poolsRewards spender = 0)
    (deployed : d.deploy addresses now ants = .ok p) (calls : List ProtocolCall) :
    let s := (protocolMachine addresses).run p calls
    (∀ q fromEpoch toEpoch, (s.pools.positions q).owner ≠ 0 →
      s.poolsRewards.initialIndexEpoch ≤ fromEpoch → fromEpoch < toEpoch →
      toEpoch ≤ s.poolsRewards.nextIndexEpoch (s.pools.positions q).agentId →
      ∃ (weight rate : Nat → Nat) (reward : Nat),
        (∀ e, s.pools.positionWeightAtEpoch q e = .ok (weight e)) ∧
        (∀ e, fromEpoch ≤ e → e < toEpoch → ∃ poolWeight,
          s.pools.poolWeightAtEpoch (s.pools.positions q).agentId e = .ok poolWeight ∧
          rewardPerWeight
            (s.poolsRewards.poolEpochEmissions e (s.pools.positions q).agentId).amount poolWeight =
              .ok (rate e)) ∧
        s.poolsRewards.positionIndexedReward s.pools (s.pools.positions q).agentId
          (s.pools.positions q).weightAmount fromEpoch toEpoch q = .ok reward ∧
        (∀ extra, s.poolsRewards.walkSegments s.pools (s.pools.positions q).agentId
          (s.pools.positions q).weightAmount toEpoch q (toEpoch - fromEpoch + extra) fromEpoch 0 =
            .ok reward) ∧
        ∑ e ∈ Ico fromEpoch toEpoch, weight e * rate e / indexScale ≤ reward ∧
        reward < ∑ e ∈ Ico fromEpoch toEpoch, weight e * rate e / indexScale + (toEpoch - fromEpoch) ∧
        reward * indexScale ≤ ∑ e ∈ Ico fromEpoch toEpoch, weight e * rate e) ∧
    ∀ more q, let s' := (protocolMachine addresses).run s more
      let got := (protocolMachine addresses).tally (Protocol.stakerPayouts addresses) s more q
      let passed := Ico (s.poolsRewards.positionClaimCursor q) (s'.poolsRewards.positionClaimCursor q)
      s.poolsRewards.positionClaimCursor q ≤ s'.poolsRewards.positionClaimCursor q ∧
        ∑ e ∈ passed, s'.stakerEarned q e / indexScale ≤ got ∧
        got * indexScale ≤ ∑ e ∈ passed, s'.stakerEarned q e := by
  intro s
  obtain ⟨staked, accounted⟩ := run_accounted separate
    (staked_deploy unapproved deployed) (accounted_deploy deployed) calls
  refine ⟨fun q fromEpoch toEpoch present initial some indexed => ?_, fun more q => ?_⟩
  · have reached := staked.solid.reached (s.pools.positions q).agentId
    have timely : toEpoch < 2 ^ 64 :=
      lt_of_le_of_lt (indexed.trans reached) staked.timely
    have enough : toEpoch ≤ fromEpoch + (toEpoch - fromEpoch) := by omega
    obtain ⟨reward, returned, rounded⟩ := walkSegments_spec (q := q) (staked.solid.indexed _)
      staked.steady present timely enough (le_refl _) (le_of_lt some)
      (.nothing indexScale fromEpoch _)
    refine ⟨s.pools.weightAt q,
      (s.poolsRewards.poolCumulativeRewardPerWeight (s.pools.positions q).agentId).rise, reward,
      SellerPools.positionWeightAtEpoch_eq staked.steady present, fun e after before => ?_, returned,
      fun extra => ?_, rounded.least, rounded.lt (by decide) some, rounded.most⟩
    · exact accounted.priced _ e (initial.trans after) (lt_of_lt_of_le before indexed)
    · rw [walkSegments_add extra enough]
      exact returned
  · obtain ⟨-, further⟩ := run_accounted separate staked accounted.restart more
    rw [zero_add] at further
    obtain ⟨order, rounded⟩ := further.covers q
    exact ⟨order, rounded.least, rounded.most⟩

/-- The first position has claimed all that is indexed, and the second one has epoch 1 to claim. -/
theorem stakersShare_walked : ∃ p, launchPlan.deploy contracts genesis .empty = .ok p ∧
    let s := (protocolMachine contracts).run p stakersShare
    s.poolsRewards.positionClaimCursor 1 = 2 ∧ s.poolsRewards.positionClaimCursor 2 = 0 ∧
      s.poolsRewards.initialIndexEpoch = 0 ∧ s.poolsRewards.nextIndexEpoch ⟨1⟩ = 2 ∧
      ∃ (weight rate : Nat → Nat) (reward : Nat),
        (∀ e, s.pools.positionWeightAtEpoch 2 e = .ok (weight e)) ∧
        s.poolsRewards.positionIndexedReward s.pools (s.pools.positions 2).agentId
          (s.pools.positions 2).weightAmount 1 2 2 = .ok reward ∧
        reward * indexScale ≤ ∑ e ∈ Ico 1 2, weight e * rate e := by
  refine ⟨_, rfl, by decide +kernel, by decide +kernel, by decide +kernel, by decide +kernel, ?_⟩
  obtain ⟨weight, rate, reward, weights, -, returned, -, -, -, most⟩ :=
    (indexed_rewards_are_epoch_sums launchPlan contracts genesis .empty _ contracts_separate
      (fun _ => rfl) rfl stakersShare).1 2 1 2 (by decide +kernel) (by decide +kernel) (by decide)
      (by decide +kernel)
  exact ⟨weight, rate, reward, weights, returned, most⟩

end AntSeed.Emissions
