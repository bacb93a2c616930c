import AntSeed.Emissions.Ledger
import AntSeed.Emissions.Protocol

/-! # What one call of the emission contracts can do

A controller reaches the gate and the token only through claims of its own, so a
call of it is a chain of such claims. Every accepted call is one of a few moves,
and what it does to a bucket, to the ledger or to the rewards of stakers follows
from its move.
-/

namespace AntSeed.Emissions

open Evm
open Pools (SellerPools)
open UsageAccounting

/-- Claims of a controller at the gate, one after the other. -/
inductive GateClaims (now : Nat) (sender : Address) : Gate → Erc20 → Gate → Erc20 → Prop
  | refl {g ants} : GateClaims now sender g ants g ants
  | claim {g ants g' ants' epoch recipient amount}
      (claimed : g.claim ants now sender epoch recipient amount = .ok (g', ants')) :
      GateClaims now sender g ants g' ants'
  | remainder {g ants g' ants' epoch recipient amount parts}
      (claimed : g.claimRemainder ants now sender epoch recipient amount = .ok (g', ants', parts)) :
      GateClaims now sender g ants g' ants'
  | trans {g ants g' ants' g'' ants''} (first : GateClaims now sender g ants g' ants')
      (second : GateClaims now sender g' ants' g'' ants'') : GateClaims now sender g ants g'' ants''

variable {g g' : Gate} {ants ants' : Erc20} {accounting : UsageAccounting} {pools : SellerPools}
  {ctx : CallContext} {agentId : Word} {epoch now : Nat} {sender : Address}

theorem claimNonzero_claims
    (h : claimNonzero g ants now sender epoch recipient amount = .ok (g', ants')) :
    GateClaims now sender g ants g' ants' := by
  unfold claimNonzero at h
  split at h
  · exact .claim (bubble_eq_ok.mp h)
  · cases h
    exact .refl

namespace UsageRewards

variable {r : UsageRewards} {result : UsageRewards × Gate × Erc20} {reward : PreparedReward}

theorem mintReward_claims
    (h : mintReward g ants now sender epoch recipient claimable reserve = .ok (g', ants')) :
    GateClaims now sender g ants g' ants' := by
  obtain ⟨⟨charged, minted⟩, minting, h⟩ := ran h
  refine (claimNonzero_claims minting).trans ?_
  dsimp only at h
  unfold mintReserve at h
  split at h
  · obtain ⟨_, -, h⟩ := ran h
    exact .claim (bubble_eq_ok.mp h)
  · cases h
    exact .refl

theorem payReward_claims (h : r.payReward g ants ctx epoch reward = .ok result) :
    GateClaims ctx.now ctx.addresses.usageRewards g ants result.2.1 result.2.2 := by
  obtain ⟨minted, minting, h⟩ := ran h
  cases h
  exact mintReward_claims minting

theorem claimAgentRewardOf_claims
    (h : r.claimAgentRewardOf g ants accounting ctx agentId epoch claimant = .ok result) :
    GateClaims ctx.now ctx.addresses.usageRewards g ants result.2.1 result.2.2 := by
  obtain ⟨_, -, h⟩ := ran h
  exact payReward_claims h

theorem claimAgentRewardFor_claims
    (h : r.claimAgentRewardFor g ants accounting ctx seller agentId epoch = .ok result) :
    GateClaims ctx.now ctx.addresses.usageRewards g ants result.2.1 result.2.2 := by
  replace h := rest_ok h
  replace h := rest_ok h
  exact claimAgentRewardOf_claims h

theorem claimEpochs_claims (h : accounting.claimEpochs ctx agentId epochs r g ants = .ok result) :
    GateClaims ctx.now ctx.addresses.usageRewards g ants result.2.1 result.2.2 := by
  induction epochs generalizing r g ants with
  | nil =>
    cases h
    exact .refl
  | cons epoch rest ih =>
    unfold claimEpochs at h
    split at h
    · exact ih h
    split at h
    · exact ih h
    obtain ⟨pending, -, h⟩ := ran h
    split at h
    · exact ih h
    obtain ⟨claimed, claiming, h⟩ := ran h
    exact (claimAgentRewardFor_claims claiming).trans (ih h)

theorem claimSellerEmissions_claims
    (h : accounting.claimSellerEmissions r g ants pools ctx epochs = .ok result) :
    GateClaims ctx.now ctx.addresses.usageRewards g ants result.2.1 result.2.2 := by
  replace h := rest_ok h
  obtain ⟨_, -, h⟩ := ran h
  split at h
  · cases h
    exact .refl
  split at h
  · cases h
    exact .refl
  exact claimEpochs_claims h

theorem settleEpochRemainder_claims
    (h : r.settleEpochRemainder g ants accounting ctx epoch = .ok result) :
    GateClaims ctx.now ctx.addresses.usageRewards g ants result.2.1 result.2.2 := by
  replace h := rest_ok h
  replace h := rest_ok h
  obtain ⟨_, -, h⟩ := ran h
  obtain ⟨_, -, h⟩ := ran h
  obtain ⟨_, -, h⟩ := ran h
  replace h := rest_ok h
  obtain ⟨_, -, h⟩ := ran h
  obtain ⟨_, -, h⟩ := ran h
  obtain ⟨⟨charged, minted, parts⟩, claimed, h⟩ := ran h
  cases h
  exact .remainder (bubble_eq_ok.mp claimed)

/-- A reward that is staked is minted to the controller, which lets the pools take it. -/
structure Stakes (r : UsageRewards) (g : Gate) (ants : Erc20) (pools : SellerPools)
    (ctx : CallContext) (g' : Gate) (ants' : Erc20) (pools' : SellerPools) : Prop where
  takes : ∃ minted paid staker stakeAgentId amount stakeEpochs,
    GateClaims ctx.now ctx.addresses.usageRewards g ants g' minted ∧
    r.stakeApproved (minted.approve ctx.addresses.usageRewards r.sellerPools amount) pools ctx staker
      stakeAgentId amount stakeEpochs = .ok (paid, pools') ∧
    ants' = paid.approve ctx.addresses.usageRewards r.sellerPools 0

theorem stakeClaimedReward_stakes {result : Gate × Erc20 × SellerPools}
    (h : r.stakeClaimedReward g ants pools ctx agentId stakeEpochs epoch reward = .ok result) :
    r.Stakes g ants pools ctx result.1 result.2.1 result.2.2 := by
  replace h := rest_ok h
  obtain ⟨⟨charged, minted⟩, minting, h⟩ := ran h
  obtain ⟨⟨paid, staked⟩, staking, h⟩ := ran h
  cases h
  exact ⟨_, _, _, _, _, _, mintReward_claims minting, staking, rfl⟩

theorem claimBuyerReward_claims (h : r.claimBuyerReward g ants accounting ctx buyer epoch = .ok result) :
    GateClaims ctx.now ctx.addresses.usageRewards g ants result.2.1 result.2.2 := by
  replace h := rest_ok h
  obtain ⟨_, -, h⟩ := ran h
  exact payReward_claims h

section

variable {result : UsageRewards × Gate × Erc20 × SellerPools}

theorem stakeAgentReward_stakes
    (h : r.stakeAgentReward g ants accounting pools ctx agentId epoch stakeEpochs = .ok result) :
    result.1.Stakes g ants pools ctx result.2.1 result.2.2.1 result.2.2.2 := by
  replace h := rest_ok h
  obtain ⟨_, -, h⟩ := ran h
  obtain ⟨_, staking, h⟩ := ran h
  cases h
  exact stakeClaimedReward_stakes staking

theorem stakeBuyerReward_stakes
    (h : r.stakeBuyerReward g ants accounting pools ctx buyer epoch agentId stakeEpochs = .ok result) :
    result.1.Stakes g ants pools ctx result.2.1 result.2.2.1 result.2.2.2 := by
  replace h := rest_ok h
  replace h := rest_ok h
  obtain ⟨_, -, h⟩ := ran h
  obtain ⟨_, staking, h⟩ := ran h
  cases h
  exact stakeClaimedReward_stakes staking

end

end UsageRewards

namespace SellerPoolsRewards

variable {r r' : SellerPoolsRewards} {result : SellerPoolsRewards × Gate × Erc20}

theorem settlePoolEpoch_claims
    (h : r.settlePoolEpoch g ants accounting pools ctx agentId epoch = .ok result) :
    GateClaims ctx.now ctx.addresses.poolsRewards g ants result.2.1 result.2.2 := by
  unfold settlePoolEpoch at h
  dsimp only at h
  split at h
  · cases h
    exact .refl
  obtain ⟨_, -, h⟩ := ran h
  obtain ⟨amount, -, h⟩ := ran h
  obtain ⟨⟨gate, ants⟩, claimed, h⟩ := ran h
  cases h
  exact claimNonzero_claims claimed

theorem indexEpochs_claims
    (h : indexEpochs accounting pools ctx agentId count nextEpoch r g ants = .ok result) :
    GateClaims ctx.now ctx.addresses.poolsRewards g ants result.2.1 result.2.2 := by
  induction count generalizing nextEpoch r g ants with
  | zero =>
    cases h
    exact .refl
  | succ count ih =>
    obtain ⟨next, one, h⟩ := ran h
    obtain ⟨settled, settling, one⟩ := ran one
    obtain ⟨_, -, one⟩ := ran one
    obtain ⟨_, -, one⟩ := ran one
    obtain ⟨_, -, one⟩ := ran one
    cases one
    exact (settlePoolEpoch_claims settling).trans (ih h)

theorem indexPoolRewards_claims
    (h : r.indexPoolRewards g ants accounting pools ctx agentId maxEpochs = .ok result) :
    GateClaims ctx.now ctx.addresses.poolsRewards g ants result.2.1 result.2.2 := by
  replace h := rest_ok h
  replace h := rest_ok h
  obtain ⟨_, -, h⟩ := ran h
  obtain ⟨next, epochs, h⟩ := ran h
  have claims := indexEpochs_claims epochs
  cases h
  exact claims

theorem settleEpochRemainder_claims
    (h : r.settleEpochRemainder g ants accounting pools ctx epoch = .ok (r', g', ants')) :
    GateClaims ctx.now ctx.addresses.poolsRewards g ants g' ants' ∧ ∃ budgets settled,
      r' = { r with frozenStakerBudgets := budgets, epochRemainderSettled := settled } := by
  replace h := rest_ok h
  replace h := rest_ok h
  obtain ⟨maxBudget, -, h⟩ := ran h
  obtain ⟨⟨frozen, budget⟩, freezing, h⟩ := ran h
  replace h := rest_ok h
  obtain ⟨_, -, h⟩ := ran h
  obtain ⟨_, -, h⟩ := ran h
  obtain ⟨⟨charged, minted, parts⟩, claimed, h⟩ := ran h
  cases h
  refine ⟨.remainder (bubble_eq_ok.mp claimed), ?_⟩
  unfold allocateEpochBudget at freezing
  split at freezing
  · cases freezing
    exact ⟨_, _, rfl⟩
  unfold freezeStakerEpochBudgetTo at freezing
  dsimp only at freezing
  split at freezing
  · cases freezing
    exact ⟨_, _, rfl⟩
  obtain ⟨_, -, freezing⟩ := ran freezing
  obtain ⟨_, -, freezing⟩ := ran freezing
  cases freezing
  exact ⟨_, _, rfl⟩

/-- Only claim cursors of positions have moved. -/
def MovesCursors (r r' : SellerPoolsRewards) : Prop := ∃ cursors, r' = { r with positionClaimCursor := cursors }

theorem MovesCursors.trans {r'' : SellerPoolsRewards} (first : r.MovesCursors r') (second : r'.MovesCursors r'') :
    r.MovesCursors r'' := by
  obtain ⟨_, rfl⟩ := first
  obtain ⟨cursors, rfl⟩ := second
  exact ⟨cursors, rfl⟩

theorem claimIndexedStakerRewards_cursor
    (h : r.claimIndexedStakerRewards ants pools self positionId recipient staker =
      .ok (r', ants', claimed)) : r.MovesCursors r' := by
  replace h := rest_ok h
  replace h := rest_ok h
  split at h
  · cases h
    exact ⟨_, rfl⟩
  obtain ⟨amount, -, h⟩ := ran h
  split at h
  · cases h
    exact ⟨_, rfl⟩
  obtain ⟨_, -, h⟩ := ran h
  cases h
  exact ⟨_, rfl⟩

theorem claimPositions_cursors
    {result : SellerPoolsRewards × Erc20 × Nat}
    (h : claimPositions pools self recipient staker positionIds r ants total = .ok result) :
    r.MovesCursors result.1 := by
  induction positionIds generalizing r ants total with
  | nil =>
    cases h
    exact ⟨_, rfl⟩
  | cons positionId rest ih =>
    obtain ⟨⟨next, paid, claimed⟩, claiming, h⟩ := ran h
    obtain ⟨_, -, h⟩ := ran h
    exact (claimIndexedStakerRewards_cursor claiming).trans (ih h)

theorem restakePositions_cursors {positionIds : List Nat} {stakeEpochs total : Nat}
    {result : SellerPoolsRewards × Erc20 × SellerPools × Nat}
    (h : restakePositions ctx stakeEpochs positionIds r ants pools total = .ok result) :
    r.MovesCursors result.1 := by
  induction positionIds generalizing r ants pools total with
  | nil =>
    cases h
    exact ⟨_, rfl⟩
  | cons positionId rest ih =>
    obtain ⟨⟨next, paid, claimed⟩, claiming, h⟩ := ran h
    have moves := claimIndexedStakerRewards_cursor claiming
    dsimp only at h
    split at h
    · exact moves.trans (ih h)
    obtain ⟨_, -, h⟩ := ran h
    obtain ⟨_, -, h⟩ := ran h
    exact moves.trans (ih h)

theorem claimStakerRewards_cursors {result : SellerPoolsRewards × Erc20}
    (h : r.claimStakerRewards ants pools ctx positionId recipient = .ok result) : r.MovesCursors result.1 := by
  replace h := rest_ok h
  replace h := rest_ok h
  obtain ⟨_, claiming, h⟩ := ran h
  replace h := rest_ok h
  cases h
  exact claimIndexedStakerRewards_cursor claiming

theorem claimStakerRewardsBatch_cursors {result : SellerPoolsRewards × Erc20}
    (h : r.claimStakerRewardsBatch ants pools ctx positionIds recipient = .ok result) : r.MovesCursors result.1 := by
  replace h := rest_ok h
  replace h := rest_ok h
  replace h := rest_ok h
  replace h := rest_ok h
  obtain ⟨_, claiming, h⟩ := ran h
  replace h := rest_ok h
  cases h
  exact claimPositions_cursors claiming

section

variable {result : SellerPoolsRewards × Erc20 × SellerPools}

theorem restakeStakerRewards_cursors
    (h : r.restakeStakerRewards ants pools ctx positionId stakeEpochs = .ok result) : r.MovesCursors result.1 := by
  replace h := rest_ok h
  obtain ⟨_, claiming, h⟩ := ran h
  replace h := rest_ok h
  obtain ⟨_, -, h⟩ := ran h
  cases h
  exact claimIndexedStakerRewards_cursor claiming

theorem restakeStakerRewardsBatch_cursors
    (h : r.restakeStakerRewardsBatch ants pools ctx positionIds stakeEpochs = .ok result) :
    r.MovesCursors result.1 := by
  replace h := rest_ok h
  replace h := rest_ok h
  replace h := rest_ok h
  obtain ⟨_, restaking, h⟩ := ran h
  replace h := rest_ok h
  cases h
  exact restakePositions_cursors restaking

end

end SellerPoolsRewards

theorem Deployment.deploy_eq_ok {d : Deployment} {addresses : Addresses} {p : Protocol}
    (deployed : d.deploy addresses now ants = .ok p) :
    now < 2 ^ 64 ∧ ∃ gate accounting,
      Gate.construct now d.deployer d.teamWallet d.protocolReserve d.teamShareBps d.reserveShareBps =
        .ok gate ∧
      construct d.deployer addresses.pools d.initialRecorder d.emissionsGate
        gate.effectiveEpoch = .ok accounting ∧
      p = {
        now := now
        gate := gate
        ants := ants
        pools := { owner := d.deployer, stakingSource := d.stakingSource }
        accounting := accounting
        usageRewards := {
          operatorSource := d.operatorSource
          config := .initial UsageRewards.initialConfig
          admin := { owner := d.deployer } }
        poolsRewards := {
          initialIndexEpoch := currentEpoch now
          config := .initial SellerPoolsRewards.initialConfig
          admin := { owner := d.deployer } } } := by
  obtain ⟨_, fits, deployed⟩ := ran deployed
  obtain ⟨gate, isGate, deployed⟩ := ran deployed
  replace deployed := rest_ok deployed
  obtain ⟨accounting, isAccounting, deployed⟩ := ran deployed
  obtain ⟨usageRewards, isUsage, deployed⟩ := ran deployed
  obtain ⟨poolsRewards, isStakers, deployed⟩ := ran deployed
  cases deployed
  replace isUsage := rest_ok isUsage
  cases isUsage
  replace isStakers := rest_ok isStakers
  replace isStakers := rest_ok isStakers
  replace isStakers := rest_ok isStakers
  cases isStakers
  exact ⟨decode_eq_ok.mp fits, gate, accounting, bubble_eq_ok.mp isGate, isAccounting, rfl⟩

namespace ProtocolOperation

def chargesUsage : ProtocolOperation → Bool
  | .claimAgentReward _ _ => true
  | .claimAgentRewardFor _ _ _ => true
  | .stakeAgentReward _ _ _ => true
  | .claimBuyerReward _ _ => true
  | .stakeBuyerReward _ _ _ _ => true
  | .settleUsageRemainder _ => true
  | .claimSellerEmissions _ => true
  | _ => false

def chargesStakers : ProtocolOperation → Bool
  | .indexPoolRewards _ _ => true
  | .settleStakerRemainder _ => true
  | _ => false

/-- The calls that claim indexed rewards, to be paid out or staked again. -/
def claimsStakerRewards : ProtocolOperation → Bool
  | .claimStakerRewards _ _ => true
  | .claimStakerRewardsBatch _ _ => true
  | .restakeStakerRewards _ _ => true
  | .restakeStakerRewardsBatch _ _ => true
  | _ => false

end ProtocolOperation

namespace Protocol

/-- What an accepted call has done. -/
inductive Move (addresses : Addresses) (p : Protocol) (call : ProtocolCall) : Protocol → Prop
  /-- the gate, the token and the clock -/
  | gate {op s} (is : call.op = .gate op) (moved : p.gateState.step ⟨call.sender, op⟩ = .ok s)
      (fits : s.now < 2 ^ 64) :
      Move addresses p call { p with now := s.now, gate := s.gate, ants := s.ants }
  | pools {op : Pools.Operation} {pools : SellerPools} {ants : Erc20}
      (called : p.pools.perform p.ants addresses.pools (currentEpoch p.now) (poolsCall call op) =
        .ok (pools, ants)) : Move addresses p call { p with pools := pools, ants := ants }
  | ledger {accounting : UsageAccounting}
      (logs : p.accounting.Logs (currentEpoch p.now) accounting) :
      Move addresses p call { p with accounting := accounting }
  /-- usage rewards are paid out, or a remainder of theirs is settled -/
  | usage {result : UsageRewards × Gate × Erc20} (charges : call.op.chargesUsage = true)
      (claims : GateClaims p.now addresses.usageRewards p.gate p.ants result.2.1 result.2.2) :
      Move addresses p call (p.withUsage result)
  | usageStake {result : UsageRewards × Gate × Erc20 × SellerPools} {r : UsageRewards}
      (charges : call.op.chargesUsage = true)
      (stakes : r.Stakes p.gate p.ants p.pools (p.context addresses call) result.2.1 result.2.2.1
        result.2.2.2) : Move addresses p call (p.withUsageStake result)
  | usageSettings {sellerPools operatorSource claimForwarder config admin} :
      Move addresses p call { p with usageRewards := { p.usageRewards with
        sellerPools := sellerPools, operatorSource := operatorSource,
        claimForwarder := claimForwarder, config := config, admin := admin } }
  | index {agentId : Word} {maxEpochs : Nat} {result : SellerPoolsRewards × Gate × Erc20}
      (charges : call.op.chargesStakers = true)
      (indexed : p.poolsRewards.indexPoolRewards p.gate p.ants p.accounting p.pools
        (p.context addresses call) agentId maxEpochs = .ok result) :
      Move addresses p call (p.withIndex result)
  | stakerRemainder {budgets : Nat → Nat} {settled : Nat → Bool} {gate : Gate} {ants : Erc20}
      (charges : call.op.chargesStakers = true)
      (claims : GateClaims p.now addresses.poolsRewards p.gate p.ants gate ants) :
      Move addresses p call { p with
        poolsRewards := { p.poolsRewards with
          frozenStakerBudgets := budgets, epochRemainderSettled := settled }
        gate := gate
        ants := ants }
  /-- stakers claim, and may stake again -/
  | stakers {cursors : Nat → Nat} {ants : Erc20} {pools : SellerPools}
      (claims : call.op.claimsStakerRewards = true) :
      Move addresses p call { p with
        poolsRewards := { p.poolsRewards with positionClaimCursor := cursors }
        ants := ants
        pools := pools }
  | stakerSettings {config admin} :
      Move addresses p call { p with poolsRewards := { p.poolsRewards with
        config := config, admin := admin } }

variable {addresses : Addresses} {p p' : Protocol} {call : ProtocolCall}

theorem Move.idle : Move addresses p call p := .ledger (.nothing rfl)

theorem setUsageRewards_move
    (set : p.usageRewards.set sender setting = .ok rewards) :
    Move addresses p call { p with usageRewards := rewards } := by
  replace set := rest_ok set
  cases setting with
  | claimForwarder =>
    cases set
    exact .usageSettings
  | sellerPools | operatorSource =>
    replace set := rest_ok set
    cases set
    exact .usageSettings

theorem setDynamicUsageConfig_move
    (set : p.usageRewards.setDynamicUsageConfig now sender config = .ok rewards) :
    Move addresses p call { p with usageRewards := rewards } := by
  replace set := rest_ok set
  replace set := rest_ok set
  replace set := rest_ok set
  replace set := rest_ok set
  replace set := rest_ok set
  replace set := rest_ok set
  obtain ⟨_, -, set⟩ := ran set
  cases set
  exact .usageSettings

theorem setDynamicStakerConfig_move
    (set : p.poolsRewards.setDynamicStakerConfig now sender config = .ok rewards) :
    Move addresses p call { p with poolsRewards := rewards } := by
  replace set := rest_ok set
  replace set := rest_ok set
  replace set := rest_ok set
  replace set := rest_ok set
  obtain ⟨_, -, set⟩ := ran set
  cases set
  exact .stakerSettings

theorem step_move (taken : p.step addresses call = .ok p') : Move addresses p call p' := by
  replace taken := rest_ok taken
  obtain ⟨sender, outside, op⟩ := call
  cases op with
  | gate =>
    obtain ⟨s, moved, taken⟩ := ran taken
    obtain ⟨_, fits, taken⟩ := ran taken
    cases taken
    exact .gate rfl (bubble_eq_ok.mp moved) (decode_eq_ok.mp fits)
  | pools =>
    obtain ⟨⟨pools, ants⟩, called, taken⟩ := ran taken
    cases taken
    exact .pools (bubble_eq_ok.mp called)
  | accrueSellerPoints =>
    obtain ⟨_, recorded, taken⟩ := ran taken
    cases taken
    exact .ledger (accrueSellerPoints_logs recorded)
  | accrueBuyerPoints =>
    obtain ⟨_, recorded, taken⟩ := ran taken
    cases taken
    exact .ledger (accrueBuyerPoints_logs recorded)
  | accruePoints =>
    obtain ⟨_, recorded, taken⟩ := ran taken
    cases taken
    exact .ledger (accruePoints_logs recorded)
  | setAccounting =>
    obtain ⟨_, recorded, taken⟩ := ran taken
    cases taken
    exact .ledger (set_logs recorded)
  | administerAccounting =>
    obtain ⟨_, recorded, taken⟩ := ran taken
    cases taken
    exact .ledger (administer_logs recorded)
  | claimSellerEmissions =>
    simp only [perform, claimSellerEmissions] at taken
    split at taken
    · obtain ⟨_, claimed, taken⟩ := ran taken
      cases taken
      exact .usage rfl (UsageRewards.claimSellerEmissions_claims claimed)
    · cases taken
      exact .idle
  | claimAgentReward =>
    obtain ⟨_, claimed, taken⟩ := ran taken
    cases taken
    exact .usage rfl (UsageRewards.claimAgentRewardOf_claims (rest_ok claimed))
  | claimAgentRewardFor =>
    obtain ⟨_, claimed, taken⟩ := ran taken
    cases taken
    exact .usage rfl (UsageRewards.claimAgentRewardFor_claims claimed)
  | stakeAgentReward =>
    obtain ⟨_, staked, taken⟩ := ran taken
    cases taken
    exact .usageStake rfl (UsageRewards.stakeAgentReward_stakes staked)
  | claimBuyerReward =>
    obtain ⟨_, claimed, taken⟩ := ran taken
    cases taken
    exact .usage rfl (UsageRewards.claimBuyerReward_claims claimed)
  | stakeBuyerReward =>
    obtain ⟨_, staked, taken⟩ := ran taken
    cases taken
    exact .usageStake rfl (UsageRewards.stakeBuyerReward_stakes staked)
  | settleUsageRemainder =>
    obtain ⟨_, settled, taken⟩ := ran taken
    cases taken
    exact .usage rfl (UsageRewards.settleEpochRemainder_claims settled)
  | setUsageRewards =>
    obtain ⟨_, set, taken⟩ := ran taken
    cases taken
    exact setUsageRewards_move set
  | setDynamicUsageConfig =>
    obtain ⟨_, set, taken⟩ := ran taken
    cases taken
    exact setDynamicUsageConfig_move set
  | administerUsageRewards =>
    obtain ⟨_, set, taken⟩ := ran taken
    cases taken
    obtain ⟨_, -, set⟩ := ran set
    cases set
    exact .usageSettings
  | indexPoolRewards =>
    obtain ⟨_, indexed, taken⟩ := ran taken
    cases taken
    exact .index rfl indexed
  | claimStakerRewards =>
    obtain ⟨⟨_, _⟩, claimed, taken⟩ := ran taken
    cases taken
    obtain ⟨cursors, rfl⟩ := SellerPoolsRewards.claimStakerRewards_cursors claimed
    exact .stakers rfl
  | claimStakerRewardsBatch =>
    obtain ⟨⟨_, _⟩, claimed, taken⟩ := ran taken
    cases taken
    obtain ⟨cursors, rfl⟩ := SellerPoolsRewards.claimStakerRewardsBatch_cursors claimed
    exact .stakers rfl
  | restakeStakerRewards =>
    obtain ⟨⟨_, _, _⟩, restaked, taken⟩ := ran taken
    cases taken
    obtain ⟨cursors, rfl⟩ := SellerPoolsRewards.restakeStakerRewards_cursors restaked
    exact .stakers rfl
  | restakeStakerRewardsBatch =>
    obtain ⟨⟨_, _, _⟩, restaked, taken⟩ := ran taken
    cases taken
    obtain ⟨cursors, rfl⟩ := SellerPoolsRewards.restakeStakerRewardsBatch_cursors restaked
    exact .stakers rfl
  | settleStakerRemainder =>
    obtain ⟨⟨rewards, gate, ants⟩, settled, taken⟩ := ran taken
    cases taken
    obtain ⟨claims, budgets, marks, rfl⟩ := SellerPoolsRewards.settleEpochRemainder_claims settled
    exact .stakerRemainder rfl claims
  | setDynamicStakerConfig =>
    obtain ⟨_, set, taken⟩ := ran taken
    cases taken
    exact setDynamicStakerConfig_move set
  | administerPoolsRewards =>
    obtain ⟨_, set, taken⟩ := ran taken
    cases taken
    obtain ⟨_, -, set⟩ := ran set
    cases set
    exact .stakerSettings

end Protocol

end AntSeed.Emissions
