import AntSeed.Lib.EpochRewards
import AntSeed.Lib.RewardIndex
import AntSeed.Emissions.SellerPoolsRewards
import AntSeed.Pools.Segments

/-! # The rewards of stakers, epoch by epoch

The positions of the pools are the holders, their agents the groups. The pot of an
epoch is what the controller minted for the pool, its rate what the cumulative
index gained. Indexing an epoch divides the pot by the weight of the pool, which is
the sum over its positions.
-/

namespace AntSeed.Emissions

open Evm Function
open Pools (SellerPools fenwickSize)
open SellerPoolsRewards
open Nat

/-- The ledger behind the state of the contracts. `next` is the first epoch of a pool that is
    not indexed, `paid` what every position has been paid. -/
def stakerLedger (next : Word → Nat) (paid : Nat → Nat) (r : SellerPoolsRewards)
    (pools : SellerPools) (held : Nat) : EpochRewards Nat Word where
  holders := (Finset.range pools.nextPositionId).filter fun q => (pools.positions q).owner ≠ 0
  group q := (pools.positions q).agentId
  weight := pools.weightAt
  rate a := (r.poolCumulativeRewardPerWeight a).rise
  pot a e := (r.poolEpochEmissions e a).amount
  next := next
  cursor := r.positionClaimCursor
  paid := paid
  held := held

theorem stakerLedger_members (next : Word → Nat) (paid : Nat → Nat) (r : SellerPoolsRewards)
    (pools : SellerPools) (held : Nat) (a : Word) :
    (stakerLedger next paid r pools held).members a = pools.positionsOf a :=
  Finset.filter_filter _ _ _

/-- The accounts of the rewards in epoch `c` are in order. -/
structure Solid (c : Nat) (holder : Address) (next : Word → Nat) (paid : Nat → Nat)
    (r : SellerPoolsRewards) (pools : SellerPools) (ants : Erc20) : Prop where
  indexed : ∀ a, Indexed fenwickSize (initialEmission * indexScale) (next a)
    (r.poolCumulativeRewardPerWeight a) (r.poolCumulativeEpochRewardPerWeight a)
  reached : ∀ a, next a ≤ c
  unsettled : ∀ a e, next a ≤ e → (r.poolEpochEmissions e a).settled = false
  closed : ∀ spender, ants.allowance holder spender = 0
  solvent : (stakerLedger next paid r pools (ants.balanceOf holder)).Solvent indexScale

variable {c : Nat} {holder : Address} {next : Word → Nat} {paid : Nat → Nat}
  {r r' : SellerPoolsRewards} {pools pools' : SellerPools} {ants ants' : Erc20}

section

variable (h : Solid c holder next paid r pools ants)

include h

theorem Solid.mono {c' : Nat} (le : c ≤ c') :
    Solid c' holder next paid r pools ants :=
  ⟨h.indexed, fun a => le_trans (h.reached a) le, h.unsettled, h.closed, h.solvent⟩

theorem Solid.congr
    (rewards : r'.poolCumulativeRewardPerWeight = r.poolCumulativeRewardPerWeight)
    (epochRewards : r'.poolCumulativeEpochRewardPerWeight = r.poolCumulativeEpochRewardPerWeight)
    (emissions : r'.poolEpochEmissions = r.poolEpochEmissions)
    (cursors : r'.positionClaimCursor = r.positionClaimCursor) :
    Solid c holder next paid r' pools ants := by
  refine ⟨?_, h.reached, ?_, h.closed, ?_⟩
  · rw [rewards, epochRewards]
    exact h.indexed
  · rw [emissions]
    exact h.unsettled
  · have same : stakerLedger next paid r' pools (ants.balanceOf holder) =
        stakerLedger next paid r pools (ants.balanceOf holder) := by
      unfold stakerLedger
      rw [rewards, emissions, cursors]
    rw [same]
    exact h.solvent

theorem Solid.grows (before : pools.Sound c)
    (after : pools'.Sound c) (grows : pools.Grows c pools') (keeps : ants.Keeps holder ants') :
    Solid c holder next paid r pools' ants' := by
  obtain ⟨balance, closed⟩ := keeps h.closed
  refine ⟨h.indexed, h.reached, h.unsettled, closed, ?_⟩
  have holders : ∀ {s : SellerPools}, s.Sound c → ∀ q,
      q ∈ (Finset.range s.nextPositionId).filter (fun q => (s.positions q).owner ≠ 0) ↔
        (s.positions q).owner ≠ 0 := by
    intro s sound q
    rw [Finset.mem_filter, Finset.mem_range]
    exact ⟨And.right, fun present => ⟨sound.known present, present⟩⟩
  refine EpochRewards.Move.solvent (l := stakerLedger next paid r pools (ants.balanceOf holder))
    (.reweighted ?_ ?_ ?_ ?_ rfl rfl rfl rfl rfl balance) h.solvent
  · intro q isHolder
    exact (holders after q).mpr (grows.persists q ((holders before q).mp isHolder))
  · exact fun q isHolder => grows.agents q ((holders before q).mp isHolder)
  · intro q isHolder e below
    exact grows.toFrozen.weightAt ((holders before q).mp isHolder)
      (lt_of_lt_of_le below (h.reached _))
  · intro q _ isNew e below
    refine grows.joined q ?_ e (lt_of_lt_of_le below (h.reached _))
    exact Decidable.not_not.mp fun present => isNew ((holders before q).mpr present)

end

theorem keeps_antsMint
    (h : antsMint ants target amount = .ok ants') : ants.Keeps account ants' := by
  replace h := rest_ok h
  obtain ⟨_, -, h⟩ := ran h
  replace h := rest_ok h
  exact Erc20.keeps_mint h

theorem getEpochEmission_le (epoch : Nat) : getEpochEmission epoch ≤ initialEmission := by
  unfold getEpochEmission
  rw [shiftRight_eq_div_pow]
  exact div_le_self _ _

theorem claimNonzero_spec
    (h : claimNonzero g ants now holder epoch holder amount = .ok (g', ants')) :
    amount ≤ initialEmission ∧ ants'.balanceOf holder = ants.balanceOf holder + amount ∧
      ants.Keeps holder ants' := by
  unfold claimNonzero at h
  split at h
  · obtain ⟨_, -, h⟩ := ran (bubble_eq_ok.mp h)
    obtain ⟨charged, charging, h⟩ := ran h
    obtain ⟨minted, minting, h⟩ := ran h
    cases h
    refine ⟨?_, ?_, keeps_antsMint minting⟩
    · replace charging := rest_ok charging
      replace charging := rest_ok charging
      replace charging := rest_ok charging
      replace charging := rest_ok charging
      replace charging := rest_ok charging
      obtain ⟨_, -, charging⟩ := ran charging
      obtain ⟨_, -, charging⟩ := ran charging
      replace charging := rest_ok charging
      obtain ⟨total, isTotal, charging⟩ := ran charging
      obtain ⟨_, within, -⟩ := ran charging
      have emission := getEpochEmission_le epoch
      have bounded := require_eq_ok.mp within
      have sum := (uint_eq_ok.mp isTotal).2
      omega
    · replace minting := rest_ok minting
      obtain ⟨_, -, minting⟩ := ran minting
      replace minting := rest_ok minting
      obtain ⟨-, -, balances⟩ := Erc20.mint_eq_ok minting
      rw [balances, update_self]
  next zero =>
    have none : amount = 0 := Decidable.not_not.mp zero
    cases h
    exact ⟨none ▸ zero_le _, by rw [none, add_zero], .refl holder _⟩

theorem freezeStakerEpochBudget_spec
    (h : r.freezeStakerEpochBudget g pools holder epoch = .ok (r', budget)) :
    r' = { r with frozenStakerBudgets := r'.frozenStakerBudgets } := by
  unfold freezeStakerEpochBudget at h
  dsimp only at h
  split at h
  · cases h
    rfl
  obtain ⟨_, -, h⟩ := ran h
  unfold freezeStakerEpochBudgetTo at h
  dsimp only at h
  split at h
  · cases h
    rfl
  obtain ⟨_, -, h⟩ := ran h
  obtain ⟨_, -, h⟩ := ran h
  cases h
  rfl

def SellerPoolsRewards.recordEmission (r : SellerPoolsRewards) (epoch : Nat) (agentId : Word)
    (amount : Nat) (budgets : Nat → Nat) : SellerPoolsRewards :=
  { r with
    frozenStakerBudgets := budgets
    poolEpochEmissions := update r.poolEpochEmissions epoch
      (update (r.poolEpochEmissions epoch) agentId ⟨true, amount⟩) }

theorem recordEmission_entry (b : Word) (e : Nat) :
    (r.recordEmission epoch a amount budgets).poolEpochEmissions e b =
      if b = a ∧ e = epoch then ⟨true, amount⟩ else r.poolEpochEmissions e b := by
  unfold recordEmission
  by_cases isEpoch : e = epoch
  · subst isEpoch
    by_cases isAgent : b = a
    · subst isAgent
      simp
    · simp [isAgent]
  · simp [isEpoch]

variable {g g' : Gate} {accounting : UsageAccounting} {ctx : CallContext} {a : Word} {epoch : Nat}

theorem settlePoolEpoch_spec (unsettled : (r.poolEpochEmissions epoch a).settled = false)
    (h : r.settlePoolEpoch g ants accounting pools ctx a epoch = .ok (r', g', ants')) :
    ∃ amount budgets, amount ≤ initialEmission ∧ r' = r.recordEmission epoch a amount budgets ∧
      ants'.balanceOf ctx.addresses.poolsRewards = ants.balanceOf ctx.addresses.poolsRewards + amount ∧
      ants.Keeps ctx.addresses.poolsRewards ants' := by
  unfold settlePoolEpoch at h
  dsimp only at h
  rw [unsettled, if_neg Bool.false_ne_true] at h
  obtain ⟨⟨frozen, budget⟩, freezing, h⟩ := ran h
  obtain ⟨amount, -, h⟩ := ran h
  obtain ⟨⟨charged, minted⟩, claiming, h⟩ := ran h
  cases h
  obtain ⟨bounded, balance, keeps⟩ := claimNonzero_spec claiming
  have frame := freezeStakerEpochBudget_spec freezing
  refine ⟨amount, frozen.frozenStakerBudgets, bounded, ?_, balance, keeps⟩
  unfold recordEmission
  rw [frame]

theorem rewardPerWeight_spec (h : rewardPerWeight amount poolWeight = .ok perWeight) :
    perWeight * poolWeight ≤ amount * indexScale ∧ perWeight ≤ amount * indexScale := by
  unfold rewardPerWeight at h
  split at h
  · obtain ⟨-, -, rfl⟩ := mulDiv_eq_ok.mp h
    exact ⟨div_mul_le_self _ _, div_le_self _ _⟩
  · cases h
    rw [zero_mul]
    exact ⟨zero_le _, zero_le _⟩

theorem raiseIndexes_spec (indexed : Indexed fenwickSize limit epoch (r.poolCumulativeRewardPerWeight a)
      (r.poolCumulativeEpochRewardPerWeight a))
    (fits : perWeight ≤ limit) (inside : epoch < fenwickSize)
    (h : r.raiseIndexes a epoch perWeight = .ok r') :
    ∃ rewards epochRewards,
      r' = { r with
        poolCumulativeRewardPerWeight := update r.poolCumulativeRewardPerWeight a rewards
        poolCumulativeEpochRewardPerWeight :=
          update r.poolCumulativeEpochRewardPerWeight a epochRewards } ∧
      Indexed fenwickSize limit (epoch + 1) rewards epochRewards ∧
      ∀ e, rewards.rise e =
        if e = epoch then perWeight else (r.poolCumulativeRewardPerWeight a).rise e := by
  replace h := uint_rest h
  replace h := uint_rest h
  replace h := uint_rest h
  split at h
  · replace h := uint_rest h
    obtain ⟨rewards, pushed, h⟩ := ran h
    obtain ⟨epochRewards, epochPushed, h⟩ := ran h
    cases h
    exact ⟨rewards, epochRewards, rfl, indexed.push pushed epochPushed fits inside,
      indexed.rise_push pushed⟩
  next zero =>
    have none : perWeight = 0 := Decidable.not_not.mp zero
    cases h
    refine ⟨_, _, ?_, indexed.skip, fun e => ?_⟩
    · rw [Function.update_eq_self, Function.update_eq_self]
    · split
      next here => rw [here, none, indexed.rise_ahead (le_refl epoch)]
      · rfl

section

variable (h : Solid c ctx.addresses.poolsRewards next paid r pools ants) (steady : pools.Steady c)

include h steady

theorem Solid.indexEpoch
    (elapsed : next a < c)
    (indexed : r.indexPoolRewardEpoch g ants accounting pools ctx a (next a) = .ok (r', g', ants')) :
    Solid c ctx.addresses.poolsRewards (update next a (next a + 1)) paid r' pools ants' ∧
      r'.initialIndexEpoch = r.initialIndexEpoch ∧
      r'.poolRewardIndexNextEpoch = r.poolRewardIndexNextEpoch := by
  obtain ⟨⟨settled, charged, minted⟩, settling, indexed⟩ := ran indexed
  obtain ⟨poolWeight, weighing, indexed⟩ := ran indexed
  obtain ⟨perWeight, dividing, indexed⟩ := ran indexed
  obtain ⟨raised, raising, indexed⟩ := ran indexed
  cases indexed
  obtain ⟨amount, budgets, bounded, rfl, balance, keeps⟩ :=
    settlePoolEpoch_spec (h.unsettled a _ (le_refl _)) settling
  have inside := SellerPools.inside_of_poolWeight (bubble_eq_ok.mp weighing)
  rw [bubble_eq_ok, SellerPools.poolWeight_eq_sum steady inside] at weighing
  obtain ⟨-, rfl⟩ := uint_eq_ok.mp weighing
  rw [recordEmission_entry, if_pos ⟨rfl, rfl⟩] at dividing
  obtain ⟨divides, small⟩ := rewardPerWeight_spec dividing
  have limited : perWeight ≤ initialEmission * indexScale :=
    le_trans small (mul_le_mul_right _ bounded)
  have complete : Indexed fenwickSize (initialEmission * indexScale) (next a)
      ((r.recordEmission (next a) a amount budgets).poolCumulativeRewardPerWeight a)
      ((r.recordEmission (next a) a amount budgets).poolCumulativeEpochRewardPerWeight a) :=
    h.indexed a
  obtain ⟨rewards, epochRewards, rfl, further, rise⟩ :=
    raiseIndexes_spec complete limited inside raising
  refine ⟨⟨?_, ?_, ?_, (keeps h.closed).2, ?_⟩, rfl, rfl⟩
  · intro b
    by_cases here : b = a
    · subst here
      simpa only [update_self] using further
    · simp only [update_of_ne here]
      exact h.indexed b
  · intro b
    rw [update_apply]
    split
    · exact elapsed
    · exact h.reached b
  · intro b e beyond
    have later : next b ≤ e ∧ ¬ (b = a ∧ e = next a) := by
      rw [update_apply] at beyond
      split at beyond
      next here =>
        subst here
        omega
      next other => exact ⟨beyond, fun both => other both.1⟩
    rw [recordEmission_entry, if_neg later.2]
    exact h.unsettled b e later.1
  · refine EpochRewards.Move.solvent
      (l := stakerLedger next paid r pools (ants.balanceOf ctx.addresses.poolsRewards))
      (.indexed a perWeight amount ?_ rfl rfl rfl ?_ ?_ ?_ rfl rfl ?_) h.solvent
    · rw [stakerLedger_members]
      exact divides
    · intro b e
      by_cases here : b = a
      · subst here
        simp only [stakerLedger, update_self, true_and]
        exact rise e
      · simp only [stakerLedger, update_of_ne here, here, false_and, if_false]
        rfl
    · intro b e
      simp only [stakerLedger, recordEmission_entry]
      exact apply_ite _ _ _ _
    · exact fun b => update_apply _ _ _ _
    · exact le_of_eq balance.symm

theorem Solid.indexEpochs {count : Nat}
    (elapsed : next a + count ≤ c)
    (indexed : indexEpochs accounting pools ctx a count (next a) r g ants = .ok (r', g', ants')) :
    Solid c ctx.addresses.poolsRewards (update next a (next a + count)) paid r' pools ants' ∧
      r'.initialIndexEpoch = r.initialIndexEpoch ∧
      r'.poolRewardIndexNextEpoch = r.poolRewardIndexNextEpoch := by
  induction count generalizing next r g ants with
  | zero =>
    cases indexed
    rw [add_zero, Function.update_eq_self]
    exact ⟨h, rfl, rfl⟩
  | succ count ih =>
    obtain ⟨⟨one, charged, minted⟩, first, indexed⟩ := ran indexed
    obtain ⟨solid, initial, stored⟩ := h.indexEpoch steady (by omega) first
    have here : update next a (next a + 1) a = next a + 1 := update_self _ _ _
    obtain ⟨solid, initial', stored'⟩ := ih solid (by rw [here]; omega) (by rwa [here])
    rw [here, Function.update_idem, add_right_comm, add_assoc] at solid
    exact ⟨solid, initial'.trans initial, stored'.trans stored⟩

end

theorem Solid.indexPoolRewards
    (h : Solid (currentEpoch ctx.now) ctx.addresses.poolsRewards r.nextIndexEpoch paid r pools ants)
    (steady : pools.Steady (currentEpoch ctx.now))
    (indexed : r.indexPoolRewards g ants accounting pools ctx a maxEpochs = .ok (r', g', ants')) :
    Solid (currentEpoch ctx.now) ctx.addresses.poolsRewards r'.nextIndexEpoch paid r' pools ants' := by
  replace indexed := rest_ok indexed
  replace indexed := rest_ok indexed
  replace indexed := uint_rest indexed
  obtain ⟨⟨looped, charged, minted⟩, looping, indexed⟩ := ran indexed
  have reached := h.reached a
  generalize isLimit : (if r.nextIndexEpoch a + maxEpochs > currentEpoch ctx.now then
    currentEpoch ctx.now else r.nextIndexEpoch a + maxEpochs) = limit at looping indexed
  have limited : limit ≤ currentEpoch ctx.now := by
    split at isLimit <;> omega
  obtain ⟨solid, initial, stored⟩ := h.indexEpochs steady (by omega) looping
  cases indexed
  have further : r.nextIndexEpoch a + (limit - r.nextIndexEpoch a) =
      max (r.nextIndexEpoch a) limit := by omega
  rw [further] at solid
  let stored' := update looped.poolRewardIndexNextEpoch a (max (r.nextIndexEpoch a) limit)
  have next : ({ looped with poolRewardIndexNextEpoch := stored' } : SellerPoolsRewards).nextIndexEpoch =
      update r.nextIndexEpoch a (max (r.nextIndexEpoch a) limit) := by
    funext b
    simp only [stored', nextIndexEpoch, initial, stored]
    by_cases here : b = a
    · subst here
      rw [update_self, update_self]
      split <;> split <;> omega
    · rw [update_of_ne here, update_of_ne here]
      rfl
  rw [next]
  exact solid.congr rfl rfl rfl rfl

end AntSeed.Emissions
