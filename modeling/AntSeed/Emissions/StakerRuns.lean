import AntSeed.Emissions.Moves
import AntSeed.Emissions.StakerClaims

/-! # Staker rewards are solvent

Over every run of the emission contracts the tokens of the staker rewards
controller cover what all positions can claim, so no claim is ever refused for
lack of balance, and for no epoch more is claimed than was minted for the pool.
-/

namespace AntSeed.Emissions

open Evm
open Pools (SellerPools)
open Nat SellerPoolsRewards

variable {account : Address} {ants ants' : Erc20} {pools pools' : SellerPools}

/-! ## Moves of tokens

Only the controller itself spends its tokens, in the calls that claim from it.
-/

section Gate

variable {g g' : Gate} {now epoch amount : Nat} {sender recipient : Address}

theorem keeps_claim (h : g.claim ants now sender epoch recipient amount = .ok (g', ants')) :
    ants.Keeps account ants' := by
  replace h := rest_ok h
  obtain ⟨_, -, h⟩ := ran h
  obtain ⟨minted, minting, h⟩ := ran h
  cases h
  exact keeps_antsMint minting

theorem keeps_mintNonzero (h : Gate.mintNonzero ants recipient amount = .ok ants') :
    ants.Keeps account ants' := by
  unfold Gate.mintNonzero at h
  split at h
  · exact keeps_antsMint h
  · cases h
    exact .refl account _

theorem keeps_claimRemainder
    (h : g.claimRemainder ants now sender epoch recipient amount = .ok (g', ants', parts)) :
    ants.Keeps account ants' := by
  replace h := rest_ok h
  replace h := rest_ok h
  obtain ⟨_, -, h⟩ := ran h
  obtain ⟨_, -, h⟩ := ran h
  obtain ⟨_, -, h⟩ := ran h
  obtain ⟨burned, burning, h⟩ := ran h
  obtain ⟨reserved, reserving, h⟩ := ran h
  cases h
  exact (keeps_mintNonzero burning).trans (keeps_mintNonzero reserving)

theorem keeps_gateStep (account : Address) {s s' : GateState} {call : GateCall} (other : account ≠ call.sender)
    (h : s.step call = .ok s') : s.ants.Keeps account s'.ants ∧ s.now ≤ s'.now := by
  have step := gateStep h
  generalize call.op = op at step
  cases step with
  | setMinter | setMinterController | removeMinter | owned => exact ⟨.refl account _, le_refl _⟩
  | claim claimed => exact ⟨keeps_claim claimed, le_refl _⟩
  | claimRemainder claimed => exact ⟨keeps_claimRemainder claimed, le_refl _⟩
  | fundLegacyEscrow _ _ _ minting => exact ⟨keeps_mintNonzero minting, le_refl _⟩
  | idle _ now _ keeps => exact ⟨keeps account other, now⟩

end Gate

section Pools

variable {ctx : Pools.Context}

theorem keeps_stakeFor
    (h : pools.stakeFor ants ctx staker agentId amount stakeEpochs = .ok (pools', ants')) :
    ants.Keeps account ants' := by
  replace h := rest_ok h
  replace h := rest_ok h
  replace h := rest_ok h
  replace h := rest_ok h
  obtain ⟨paid, paying, h⟩ := ran h
  obtain ⟨_, -, h⟩ := ran h
  obtain ⟨_, -, h⟩ := ran h
  obtain ⟨_, -, h⟩ := ran h
  cases h
  exact Erc20.keeps_transferFrom paying

theorem keeps_payExit (other : account ≠ ctx.self)
    (h : SellerPools.payExit ants ctx returnedAmount slashedAmount = .ok ants') :
    ants.Keeps account ants' := by
  obtain ⟨paid, paying, h⟩ := ran h
  have first : ants.Keeps account paid := by
    split at paying
    · exact Erc20.keeps_transfer other paying
    · cases paying
      exact .refl account _
  refine first.trans ?_
  split at h
  · exact Erc20.keeps_transfer other h
  · cases h
    exact .refl account _

theorem keeps_poolsPerform {self : Address} {epoch : Nat} {call : Pools.Call}
    (other : account ≠ self) (h : pools.perform ants self epoch call = .ok (pools', ants')) :
    ants.Keeps account ants' := by
  obtain ⟨sender, identity, staking, received, op⟩ := call
  cases op with
  | stakeFor => exact keeps_stakeFor h
  | withdrawStake =>
    obtain ⟨⟨closed, returned, slashed⟩, -, h⟩ := ran h
    obtain ⟨paid, paying, h⟩ := ran h
    cases h
    exact keeps_payExit other paying
  | withdrawStakes =>
    obtain ⟨_, -, h⟩ := ran h
    obtain ⟨_, -, h⟩ := ran h
    obtain ⟨⟨closed, returned, slashed⟩, -, h⟩ := ran h
    obtain ⟨paid, paying, h⟩ := ran h
    cases h
    exact keeps_payExit other paying
  | _ =>
    obtain ⟨_, -, h⟩ := ran h
    cases h
    exact .refl account _

end Pools

theorem GateClaims.keeps {g g' : Gate} {now : Nat} {sender : Address}
    (claims : GateClaims now sender g ants g' ants') : ants.Keeps account ants' := by
  induction claims with
  | refl => exact .refl account _
  | claim claimed => exact keeps_claim claimed
  | remainder claimed => exact keeps_claimRemainder claimed
  | trans first second ihFirst ihSecond => exact ihFirst.trans ihSecond

theorem UsageRewards.Stakes.keeps {r : UsageRewards} {g g' : Gate} {ctx : CallContext}
    (other : account ≠ ctx.addresses.usageRewards) (configured : pools.Configured)
    (stakes : r.Stakes g ants pools ctx g' ants' pools') :
    ants.Keeps account ants' ∧
      SellerPools.Changes (currentEpoch ctx.now) (currentEpoch ctx.now) pools pools' := by
  obtain ⟨minted, paid, staker, stakeAgentId, amount, stakeEpochs, claims, staking, rfl⟩ := stakes.takes
  have approved : minted.Keeps account
      (minted.approve ctx.addresses.usageRewards r.sellerPools amount) := Erc20.keeps_approve other
  have before := claims.keeps.trans approved
  unfold UsageRewards.stakeApproved at staking
  dsimp only at staking
  split at staking
  · obtain ⟨⟨opened, spent⟩, called, staking⟩ := ran staking
    cases staking
    have staked := bubble_eq_ok.mp called
    exact ⟨(before.trans (keeps_stakeFor staked)).trans (Erc20.keeps_approve other),
      SellerPools.changes_stakeFor configured staked⟩
  · obtain ⟨_, -, staking⟩ := ran staking
    obtain ⟨spent, called, staking⟩ := ran staking
    cases staking
    exact ⟨(before.trans (Erc20.keeps_transferFrom called)).trans (Erc20.keeps_approve other), .refl⟩

namespace Protocol

/-- What an accepted call pays for every position. -/
def stakerPayouts (addresses : Addresses) (p : Protocol) (call : ProtocolCall) : Nat → Nat :=
  match call.op with
  | .claimStakerRewards positionId recipient =>
    claimedBy p.pools addresses.poolsRewards recipient call.sender [positionId]
      p.poolsRewards p.ants
  | .claimStakerRewardsBatch positionIds recipient =>
    claimedBy p.pools addresses.poolsRewards recipient call.sender positionIds
      p.poolsRewards p.ants
  | .restakeStakerRewards positionId stakeEpochs =>
    restakedBy (p.context addresses call) stakeEpochs [positionId]
      p.poolsRewards p.ants p.pools
  | .restakeStakerRewardsBatch positionIds stakeEpochs =>
    restakedBy (p.context addresses call) stakeEpochs positionIds
      p.poolsRewards p.ants p.pools
  | _ => 0

/-- The accounts of the staker rewards are in order. -/
def Staked (addresses : Addresses) (paid : Nat → Nat) (p : Protocol) : Prop :=
  Emissions.Staked (currentEpoch p.now) addresses.poolsRewards paid p.poolsRewards p.pools p.ants

variable {addresses : Addresses} {paid : Nat → Nat} {p p' : Protocol} {call : ProtocolCall}

theorem Staked.claims (h : p.Staked addresses paid) (claims : call.op.claimsStakerRewards = true) :
    Meets (p.perform addresses call) NotShort
      fun p' => p'.Staked addresses (paid + p.stakerPayouts addresses call) := by
  obtain ⟨sender, outside, op⟩ := call
  have started : ∀ asked, Emissions.Staked
      (currentEpoch (p.context addresses ⟨sender, outside, asked⟩).now)
      (p.context addresses ⟨sender, outside, asked⟩).addresses.poolsRewards paid p.poolsRewards
      p.pools p.ants := fun _ => h
  cases op with
  | claimStakerRewards =>
    exact .bind (claimStakerRewards_meets (started _)) fun _ staked => Meets.pure staked
  | claimStakerRewardsBatch =>
    exact .bind (claimStakerRewardsBatch_meets (started _)) fun _ staked => Meets.pure staked
  | restakeStakerRewards =>
    exact .bind (restakeStakerRewards_meets (started _)) fun _ staked => Meets.pure staked
  | restakeStakerRewardsBatch =>
    exact .bind (restakeStakerRewardsBatch_meets (started _)) fun _ staked => Meets.pure staked
  | _ => cases claims

/-- What a call does to the rewards of stakers that claims none of them. -/
inductive StakerMove (addresses : Addresses) (p p' : Protocol) : Prop where
  /-- positions change from this epoch on, tokens of others move -/
  | moved (first : Nat) (changes : SellerPools.Changes (currentEpoch p.now) first p.pools p'.pools)
      (late : currentEpoch p.now ≤ first) (near : first ≤ currentEpoch p.now + 1)
      (keeps : p.ants.Keeps addresses.poolsRewards p'.ants) (now : p'.now = p.now)
      (rewards : p'.poolsRewards.poolCumulativeRewardPerWeight =
        p.poolsRewards.poolCumulativeRewardPerWeight)
      (epochRewards : p'.poolsRewards.poolCumulativeEpochRewardPerWeight =
        p.poolsRewards.poolCumulativeEpochRewardPerWeight)
      (emissions : p'.poolsRewards.poolEpochEmissions = p.poolsRewards.poolEpochEmissions)
      (cursors : p'.poolsRewards.positionClaimCursor = p.poolsRewards.positionClaimCursor)
      (next : p'.poolsRewards.nextIndexEpoch = p.poolsRewards.nextIndexEpoch)
      (initial : p'.poolsRewards.initialIndexEpoch = p.poolsRewards.initialIndexEpoch)
  | elapsed (pools : p'.pools = p.pools) (rewards : p'.poolsRewards = p.poolsRewards)
      (keeps : p.ants.Keeps addresses.poolsRewards p'.ants) (later : p.now ≤ p'.now)
      (fits : p'.now < 2 ^ 64)
  | indexed (call : ProtocolCall) (agentId : Word) (maxEpochs : Nat) (gate : Gate)
      (pools : p'.pools = p.pools) (now : p'.now = p.now)
      (indexed : p.poolsRewards.indexPoolRewards p.gate p.ants p.accounting p.pools
        (p.context addresses call) agentId maxEpochs = .ok (p'.poolsRewards, gate, p'.ants))

theorem StakerMove.kept (keeps : p.ants.Keeps addresses.poolsRewards p'.ants)
    (pools : p'.pools = p.pools) (rewards : p'.poolsRewards = p.poolsRewards) (now : p'.now = p.now) :
    StakerMove addresses p p' := by
  refine .moved (currentEpoch p.now) (pools ▸ .refl) (le_refl _) (le_succ _) keeps
    now ?_ ?_ ?_ ?_ ?_ ?_ <;> rw [rewards]

theorem StakerMove.staked (move : StakerMove addresses p p') (h : p.Staked addresses paid) :
    p'.Staked addresses paid := by
  cases move with
  | moved first changes late near keeps now rewards epochRewards emissions cursors next =>
    have after := changes.steady h.steady
    have grows := (changes.grows h.steady.toSound near).mono late
    have solid := (h.solid.grows h.steady.toSound after.toSound grows keeps).congr rewards epochRewards
      emissions cursors
    unfold Staked
    rw [now]
    exact ⟨after, h.timely, by rw [next]; exact solid⟩
  | elapsed pools rewards keeps later fits =>
    have epochs := currentEpoch_mono later
    have solid := (h.solid.grows h.steady.toSound h.steady.toSound (.refl _ _) keeps).mono epochs
    unfold Staked
    rw [pools, rewards]
    exact ⟨h.steady.mono epochs, currentEpoch_lt fits, solid⟩
  | indexed call agentId maxEpochs gate pools now indexed =>
    have before : Solid (currentEpoch (p.context addresses call).now)
        (p.context addresses call).addresses.poolsRewards p.poolsRewards.nextIndexEpoch paid
        p.poolsRewards p.pools p.ants := h.solid
    have solid := before.indexPoolRewards h.steady indexed
    unfold Staked
    rw [pools, now]
    exact ⟨h.steady, h.timely, solid⟩

theorem step_moves (separate : addresses.Separate) (h : p.Staked addresses paid)
    (taken : p.step addresses call = .ok p') (claims : call.op.claimsStakerRewards = false) :
    StakerMove addresses p p' := by
  have move := step_move taken
  obtain ⟨_, outsider, taken⟩ := ran taken
  obtain ⟨somebody, -, -, -, other⟩ := require_eq_ok.mp outsider
  have configured := h.steady.configured
  cases move with
  | gate is moved fits =>
    obtain ⟨keeps, later⟩ := keeps_gateStep addresses.poolsRewards (fun same => other same.symm) moved
    exact .elapsed rfl rfl keeps later fits
  | @pools op pools ants called =>
    obtain ⟨late, near⟩ := Pools.firstEpoch_bounds (currentEpoch p.now) op
    exact .moved _ (SellerPools.changes_perform configured h.steady.stamped h.timely somebody
      called) late near (keeps_poolsPerform separate.staker_pools called) rfl rfl rfl rfl rfl rfl rfl
  | usage _ claims => exact .kept claims.keeps rfl rfl rfl
  | usageStake _ stakes =>
    obtain ⟨keeps, changes⟩ := stakes.keeps separate.usage_staker.symm configured
    exact .moved _ changes (le_refl _) (le_succ _) keeps rfl rfl rfl rfl rfl rfl rfl
  | index _ indexed => exact .indexed _ _ _ _ rfl rfl indexed
  | stakerRemainder _ minted =>
    exact .moved (currentEpoch p.now) .refl (le_refl _) (le_succ _) minted.keeps rfl
      rfl rfl rfl rfl rfl rfl
  | stakers claimed => cases claims.symm.trans claimed
  | stakerSettings =>
    exact .moved (currentEpoch p.now) .refl (le_refl _) (le_succ _)
      (.refl _ _) rfl rfl rfl rfl rfl rfl rfl
  | _ => exact .kept (.refl _ _) rfl rfl rfl

theorem stakerPayouts_eq_zero (claims : call.op.claimsStakerRewards = false) :
    p.stakerPayouts addresses call = 0 := by
  obtain ⟨sender, outside, op⟩ := call
  cases op with
  | claimStakerRewards | claimStakerRewardsBatch | restakeStakerRewards | restakeStakerRewardsBatch => cases claims
  | _ => rfl

theorem step_staked (separate : addresses.Separate) (h : p.Staked addresses paid)
    (taken : p.step addresses call = .ok p') :
    p'.Staked addresses (paid + p.stakerPayouts addresses call) := by
  cases claims : call.op.claimsStakerRewards with
  | true =>
    replace taken := rest_ok taken
    exact (h.claims claims).result taken
  | false =>
    rw [stakerPayouts_eq_zero claims, add_zero]
    exact (step_moves separate h taken claims).staked h

/-- What a position earns in an epoch, in parts of the index scale. -/
def stakerEarned (p : Protocol) (q e : Nat) : Nat :=
  p.poolsRewards.earned p.pools (p.pools.positions q).agentId q e

end Protocol

theorem solvent_of_unindexed
    (unindexed : ∀ a, r.poolCumulativeRewardPerWeight a = .empty)
    (unpaid : ∀ q, paid q = 0) : (stakerLedger next paid r pools held).Solvent indexScale := by
  have rate : ∀ a e, (stakerLedger next paid r pools held).rate a e = 0 := by
    intro a e
    simp only [stakerLedger, unindexed a]
    rfl
  have nothing : ∀ q e, (stakerLedger next paid r pools held).earned q e = 0 := by
    intro q e
    unfold EpochRewards.earned
    rw [rate, mul_zero]
  refine ⟨fun a e => ?_, ?_, fun a e _ => rate a e, fun q => ?_, fun q _ => unpaid q⟩
  · rw [Finset.sum_eq_zero fun q _ => nothing q e]
    exact zero_le _
  · have owed : ∀ q, (stakerLedger next paid r pools held).owed q = 0 := fun q =>
      Finset.sum_eq_zero fun e _ => nothing q e
    rw [Finset.sum_eq_zero fun q _ => owed q]
    exact zero_le _
  · have none : (stakerLedger next paid r pools held).paid q = 0 := unpaid q
    rw [none, zero_mul]
    exact zero_le _

theorem staked_deploy {d : Deployment} {addresses : Addresses} {now : Nat} {p : Protocol}
    (unapproved : ∀ spender, ants.allowance addresses.poolsRewards spender = 0)
    (deployed : d.deploy addresses now ants = .ok p) : p.Staked addresses 0 := by
  obtain ⟨fits, gate, accounting, -, -, rfl⟩ := d.deploy_eq_ok deployed
  refine ⟨(SellerPools.steady_deployed d.deployer d.stakingSource).mono (zero_le _),
    currentEpoch_lt fits, fun _ => indexed_empty _ _ _, fun _ => le_of_eq (if_pos rfl),
    fun _ _ _ => rfl, unapproved, solvent_of_unindexed (fun _ => rfl) fun _ => rfl⟩

/-- Over every run: the view of every position's pending reward returns, and the controller holds
    all of them together; no claim is refused for lack of balance; what a position has been paid
    it has earned in the epochs it claimed; and of no epoch more is claimed than was minted for
    the pool. -/
theorem staker_rewards_are_solvent (d : Deployment) (addresses : Addresses) (now : Nat)
    (ants : Erc20) (p : Protocol) (separate : addresses.Separate)
    (unapproved : ∀ spender, ants.allowance addresses.poolsRewards spender = 0)
    (deployed : d.deploy addresses now ants = .ok p) (calls : List ProtocolCall) :
    let s := (protocolMachine addresses).run p calls
    let paid := (protocolMachine addresses).tally (Protocol.stakerPayouts addresses) p calls
    (∃ pending : Nat → Nat,
      (∀ q, (s.pools.positions q).owner ≠ 0 →
        s.poolsRewards.pendingIndexedStakerReward s.pools q = .ok (pending q)) ∧
      ∑ q ∈ (Finset.range s.pools.nextPositionId).filter (fun q => (s.pools.positions q).owner ≠ 0),
        pending q ≤ s.ants.balanceOf addresses.poolsRewards) ∧
    (∀ call, call.op.claimsStakerRewards = true →
      s.step addresses call ≠ .error (.erc20 .insufficientBalance)) ∧
    (∀ q, paid q * indexScale ≤
      ∑ e ∈ Finset.range (s.poolsRewards.positionClaimCursor q), s.stakerEarned q e) ∧
    ∀ a e, ∑ q ∈ s.pools.positionsOf a,
        (if e < s.poolsRewards.positionClaimCursor q then s.stakerEarned q e else 0) ≤
      (s.poolsRewards.poolEpochEmissions e a).amount * indexScale := by
  intro s paid
  have staked : s.Staked addresses paid := by
    have run := (protocolMachine addresses).run_invariant_tally
      (I := fun paid t => Protocol.Staked addresses paid t)
      (fun paid t call t' h taken => Protocol.step_staked separate h taken)
      (staked_deploy unapproved deployed) calls
    rwa [zero_add] at run
  have solvent := staked.solid.solvent
  refine ⟨?_, ?_, solvent.repaid, ?_⟩
  · have each : ∀ q, ∃ pending, (s.pools.positions q).owner ≠ 0 →
        s.poolsRewards.pendingIndexedStakerReward s.pools q = .ok pending ∧
          pending * indexScale ≤ (stakerLedger s.poolsRewards.nextIndexEpoch paid s.poolsRewards
            s.pools (s.ants.balanceOf addresses.poolsRewards)).owed q := by
      intro q
      by_cases present : (s.pools.positions q).owner ≠ 0
      · obtain ⟨pending, returned, owed⟩ :=
          pendingIndexedStakerReward_spec staked.solid staked.steady staked.timely present
        exact ⟨pending, fun _ => ⟨returned, owed⟩⟩
      · exact ⟨0, fun isPresent => absurd isPresent present⟩
    choose pending spec using each
    refine ⟨pending, fun q present => (spec q present).1, ?_⟩
    refine solvent.sum_le_held (by decide) fun q isHolder => ?_
    exact (spec q (Finset.mem_filter.mp isHolder).2).2
  · intro call claims refused
    have allowed : Meets (s.step addresses call) NotShort fun _ => True := by
      apply Meets.require nofun
      exact fun _ => (staked.claims claims).mono fun _ _ => trivial
    exact allowed.reason refused rfl
  · intro a e
    have bound := solvent.claimed_le_pot a e
    rw [stakerLedger_members] at bound
    exact bound

/-! Two positions of different length share the reward of epoch 1, and the first one claims. -/

def stakersShare : List ProtocolCall :=
  [⟨⟨9⟩, world, .gate (.setMinter ⟨78⟩ ⟨104⟩ 50000 true)⟩,
    ⟨⟨9⟩, world, .gate (.fundLegacyEscrow ⟨6⟩)⟩, ⟨⟨6⟩, world, .gate (.antsApprove ⟨101⟩ 300)⟩,
    ⟨⟨6⟩, world, .pools (.stakeFor ⟨6⟩ ⟨1⟩ 100 10)⟩,
    ⟨⟨6⟩, world, .pools (.stakeFor ⟨7⟩ ⟨1⟩ 200 19)⟩,
    ⟨⟨9⟩, world, .gate (.elapse epochDuration)⟩, ⟨⟨8⟩, world, .accruePoints 0 ⟨5⟩ ⟨6⟩ 1000⟩,
    ⟨⟨9⟩, world, .gate (.elapse epochDuration)⟩, ⟨⟨5⟩, world, .indexPoolRewards ⟨1⟩ 10⟩,
    ⟨⟨6⟩, world, .claimStakerRewards 1 ⟨6⟩⟩]

/-- Rounding leaves one unit behind. -/
theorem stakersShare_covered : ∃ p, launchPlan.deploy contracts genesis .empty = .ok p ∧
    let s := (protocolMachine contracts).run p stakersShare
    s.poolsRewards.pendingIndexedStakerReward s.pools 1 = .ok 0 ∧
      s.poolsRewards.pendingIndexedStakerReward s.pools 2 = .ok 79166666666666666666666 ∧
      s.ants.balanceOf ⟨104⟩ = 79166666666666666666667 ∧
      ∃ pending : Nat → Nat,
        (∀ q, (s.pools.positions q).owner ≠ 0 →
          s.poolsRewards.pendingIndexedStakerReward s.pools q = .ok (pending q)) ∧
        ∑ q ∈ (Finset.range s.pools.nextPositionId).filter
          (fun q => (s.pools.positions q).owner ≠ 0), pending q ≤ s.ants.balanceOf ⟨104⟩ :=
  ⟨_, rfl, by decide +kernel, by decide +kernel, by decide +kernel,
    (staker_rewards_are_solvent launchPlan contracts genesis .empty _ contracts_separate
      (fun _ => rfl) rfl stakersShare).1⟩

end AntSeed.Emissions
