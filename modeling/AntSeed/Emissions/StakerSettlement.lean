import AntSeed.Emissions.StakerBucket

/-! # Settlements of the staker rewards controller

Indexing settles a pool for every elapsed epoch it reaches, and the remainder of
an epoch is settled on its own. Both keep the accounts of the bucket and are
never refused because it is exhausted.
-/

namespace AntSeed.Emissions

open Evm Function
open Gate (Bucketed Held Spares Pays Room)
open Pools (SellerPools)
open Meets

namespace SellerPoolsRewards

variable {c epoch maxBudget : Nat} {id agentId : Word} {holder : Address} {g : Gate} {ants : Erc20}
  {accounting : UsageAccounting} {pools : SellerPools} {r : SellerPoolsRewards} {ctx : CallContext}

theorem liveStakerEpochBudget_meets :
    Meets (r.liveStakerEpochBudget pools epoch maxBudget) NotExceeded fun budget => budget ≤ maxBudget := by
  refine .bind (bubble_other nofun) fun _ _ => ?_
  refine .bind (mulDiv_meets nofun nofun) fun _ _ => ?_
  refine .bind saturatingShareBps_meets fun _ _ => ?_
  refine .ite (fun _ => Nat.zero_le _) fun _ => ?_
  refine .bind (mulDiv_meets nofun nofun) fun desired _ => pure ?_
  split
  next less => exact Nat.le_of_lt less
  · exact Nat.le_refl _

theorem freezeStakerEpochBudgetTo_meets :
    Meets (r.freezeStakerEpochBudgetTo pools epoch maxBudget) NotExceeded fun result =>
      Freezes r maxBudget epoch result.2 ∧ result.1 = r.freeze epoch result.2 := by
  refine .ite (fun already => ?_) fun notYet => ?_
  · have stored : r.frozenStakerBudgets epoch = r.frozenStakerBudgets epoch - 1 + 1 := by omega
    exact .pure ⟨.inl stored, (freeze_same stored).symm⟩
  · refine .bind liveStakerEpochBudget_meets fun budget fits => ?_
    refine .bind (uint_meets nofun) fun stored isStored => ?_
    obtain ⟨-, rfl⟩ := isStored
    exact .pure ⟨.inr ⟨Decidable.not_not.mp notYet, fits⟩, rfl⟩

theorem stakerBucket_meets (h : Bucketed c id holder g) (nonzero : holder ≠ 0) :
    Meets (bubble RewardsError.gate (g.controllerEpochBudget holder epoch)) NotExceeded
      fun bucket => bucket ≤ shareBudget epoch (g.share id epoch) ∧
        (Held id holder g → bucket = shareBudget epoch (g.share id epoch)) := by
  rcases h.controllerEpochBudget nonzero epoch with ⟨-, isBudget⟩ | ⟨unheld, isBudget⟩
  · rw [isBudget]
    exact ⟨Nat.le_refl _, fun _ => rfl⟩
  · rw [isBudget]
    exact ⟨Nat.zero_le _, fun held => absurd held unheld⟩

theorem Freezes.mono {bucket budget : Nat} (freezes : Freezes r bucket epoch budget)
    (le : bucket ≤ maxBudget) : Freezes r maxBudget epoch budget :=
  freezes.imp_right fun ⟨notYet, fits⟩ => ⟨notYet, Nat.le_trans fits le⟩

theorem freezeStakerEpochBudget_meets (h : Bucketed c id holder g) (nonzero : holder ≠ 0) :
    Meets (r.freezeStakerEpochBudget g pools holder epoch) NotExceeded fun result =>
      Freezes r (shareBudget epoch (g.share id epoch)) epoch result.2 ∧
        result.1 = r.freeze epoch result.2 := by
  refine .ite (fun already => ?_) fun notYet => ?_
  · have stored : r.frozenStakerBudgets epoch = r.frozenStakerBudgets epoch - 1 + 1 := by omega
    exact .pure ⟨.inl stored, (freeze_same stored).symm⟩
  · refine .bind (stakerBucket_meets h nonzero) fun bucket ⟨within, _⟩ => ?_
    exact freezeStakerEpochBudgetTo_meets.mono fun result ⟨freezes, same⟩ =>
      ⟨freezes.mono within, same⟩

theorem poolRewardPreview_meets (isFrozen : r.frozenStakerBudgets epoch ≠ 0)
    (first : (r.poolEpochEmissions epoch agentId).settled = false) :
    Meets (r.poolRewardPreview g accounting pools holder agentId epoch) NotExceeded fun amount =>
      amount = poolShare (r.frozenStakerBudgets epoch - 1) accounting epoch agentId := by
  unfold poolRewardPreview poolGrossReward stakerEpochBudget
  dsimp only
  rw [first, if_neg Bool.false_ne_true, if_pos isFrozen]
  refine .ite (fun unused => pure ?_) fun used => ?_
  · rcases unused with none | none <;> simp [poolShare, none]
  · refine .ite (fun empty => pure ?_) fun _ => ?_
    · simp [poolShare, empty]
    · exact (mulDiv_meets (by rintro ⟨⟩) (by rintro ⟨⟩)).mono fun _ isAmount => isAmount.2

theorem claimNonzero_draws (h : Bucketed (currentEpoch now) id holder g)
    (room : Room (currentEpoch now) id holder g epoch amount) :
    Meets (claimNonzero g ants now holder epoch recipient amount) NotExceeded fun result =>
      Draws (currentEpoch now) id holder g result.1 epoch amount := by
  refine .ite (fun _ => ?_) fun none => ?_
  · exact (gateClaim_meets h room).mono fun _ pays => draws_of_pays pays
  · have zero : amount = 0 := Decidable.not_not.mp none
    subst zero
    exact .pure (draws_nothing h)

/-- The budgets are pledged as before, and what was frozen or settled stays so. -/
def Settles (id : Word) (ctx : CallContext) (accounting : UsageAccounting) (r : SellerPoolsRewards)
    (result : SellerPoolsRewards × Gate × Erc20) : Prop :=
  Pledged (currentEpoch ctx.now) id ctx.addresses.poolsRewards result.2.1 accounting result.1 ∧ Extends r result.1

variable (nonzero : ctx.addresses.poolsRewards ≠ 0)

include nonzero

theorem settlePoolEpoch_meets (elapsed : epoch < currentEpoch ctx.now)
    (h : Pledged (currentEpoch ctx.now) id ctx.addresses.poolsRewards g accounting r) :
    Meets (r.settlePoolEpoch g ants accounting pools ctx agentId epoch) NotExceeded (Settles id ctx accounting r) := by
  refine .ite (fun _ => pure ⟨h, .refl r⟩) fun notYet => ?_
  have first : (r.poolEpochEmissions epoch agentId).settled = false := by simpa using notYet
  refine .bind (freezeStakerEpochBudget_meets h.bucketed nonzero)
    fun ⟨frozen, budget⟩ ⟨freezes, isFreeze⟩ => ?_
  dsimp only at isFreeze freezes ⊢
  subst isFreeze
  have pledged := h.freeze elapsed freezes
  have isFrozen : (r.freeze epoch budget).frozenStakerBudgets epoch ≠ 0 := by simp
  refine .bind (poolRewardPreview_meets isFrozen first) fun amount isShare => ?_
  have room := pledged.room_pool isFrozen first
  rw [← isShare] at room
  refine .bind (claimNonzero_draws pledged.bucketed room) fun ⟨gate, minted⟩ draws => ?_
  exact .pure ⟨pledged.settle isFrozen first isShare draws,
    (extends_freeze freezes).trans (extends_record first)⟩

omit nonzero in
theorem raiseIndexes_meets :
    Meets (r.raiseIndexes agentId epoch perWeight) NotExceeded (Alike r) := by
  refine .bind (uint_meets nofun) fun _ _ => ?_
  refine .bind (uint_meets nofun) fun _ _ => ?_
  refine .bind (uint_meets nofun) fun _ _ => ?_
  refine .ite (fun _ => ?_) fun _ => pure ⟨rfl, rfl, rfl⟩
  refine .bind (uint_meets nofun) fun _ _ => ?_
  refine .bind (Trace.push_meets nofun _ _ _) fun _ _ => ?_
  refine .bind (Trace.push_meets nofun _ _ _) fun _ _ => ?_
  exact .pure ⟨rfl, rfl, rfl⟩

omit nonzero in
theorem Pledged.alike (h : Pledged c id holder g accounting r)
    (alike : Alike r r') : Pledged c id holder g accounting r' :=
  h.frame (Nat.le_refl c) (.refl h.bucketed) (.refl _) alike

theorem indexPoolRewardEpoch_meets (elapsed : epoch < currentEpoch ctx.now)
    (h : Pledged (currentEpoch ctx.now) id ctx.addresses.poolsRewards g accounting r) :
    Meets (r.indexPoolRewardEpoch g ants accounting pools ctx agentId epoch) NotExceeded (Settles id ctx accounting r) := by
  refine .bind (settlePoolEpoch_meets nonzero elapsed h)
    fun ⟨settled, gate, minted⟩ ⟨pledged, grows⟩ => ?_
  refine .bind (bubble_other nofun) fun poolWeight _ => ?_
  refine .bind (Q := fun _ => True) ?_ fun perWeight _ => ?_
  · exact .ite (fun _ => (mulDiv_meets nofun nofun).mono fun _ _ => trivial) fun _ => trivial
  refine .bind raiseIndexes_meets fun raised alike => ?_
  exact .pure ⟨pledged.alike alike, grows.trans alike.extends⟩

theorem indexEpochs_meets (count nextEpoch : Nat) (elapsed : nextEpoch + count ≤ currentEpoch ctx.now)
    (h : Pledged (currentEpoch ctx.now) id ctx.addresses.poolsRewards g accounting r) :
    Meets (indexEpochs accounting pools ctx agentId count nextEpoch r g ants) NotExceeded
      (Settles id ctx accounting r) := by
  induction count generalizing nextEpoch r g ants with
  | zero => exact .pure ⟨h, .refl r⟩
  | succ count ih =>
    refine .bind (indexPoolRewardEpoch_meets nonzero (by omega) h)
      fun ⟨next, gate, minted⟩ ⟨pledged, grows⟩ => ?_
    exact (ih (nextEpoch + 1) (by omega) pledged).mono
      fun result ⟨pledged, more⟩ => ⟨pledged, grows.trans more⟩

theorem indexPoolRewards_meets
    (h : Pledged (currentEpoch ctx.now) id ctx.addresses.poolsRewards g accounting r) :
    Meets (r.indexPoolRewards g ants accounting pools ctx agentId maxEpochs) NotExceeded
      (Settles id ctx accounting r) := by
  refine .bind requireNotPaused_meets fun _ _ => ?_
  apply check nofun
  refine .bind (uint_meets nofun) fun last _ => ?_
  by_cases behind : r.nextIndexEpoch agentId ≤ currentEpoch ctx.now
  · refine .bind (indexEpochs_meets nonzero _ _ ?_ h) fun ⟨indexed, gate, minted⟩ ⟨pledged, grows⟩ => ?_
    · split <;> omega
    · exact .pure ⟨pledged.alike ⟨rfl, rfl, rfl⟩, grows.trans (Alike.extends ⟨rfl, rfl, rfl⟩)⟩
  · -- the pool is indexed up to a later epoch, so the loop is empty
    have none : (if last > currentEpoch ctx.now then currentEpoch ctx.now else last) -
        r.nextIndexEpoch agentId = 0 := by
      split <;> omega
    dsimp only
    rw [none]
    exact .pure ⟨h.alike ⟨rfl, rfl, rfl⟩, Alike.extends ⟨rfl, rfl, rfl⟩⟩

omit nonzero in
theorem allocateEpochBudget_meets :
    Meets (r.allocateEpochBudget accounting pools epoch maxBudget) NotExceeded fun result =>
      result.2 = result.1.allocation accounting epoch ∧
        (accounting.totalWeightedPoolPointsByEpoch epoch = 0 ∧ result.1 = r ∨
          Freezes r maxBudget epoch result.2 ∧ result.1 = r.freeze epoch result.2) := by
  refine .ite (fun none => pure ⟨?_, .inl ⟨none, rfl⟩⟩) fun some => ?_
  · unfold allocation
    rw [if_pos none]
  · refine freezeStakerEpochBudgetTo_meets.mono fun result ⟨freezes, same⟩ => ⟨?_, .inr ⟨freezes, same⟩⟩
    unfold allocation
    rw [if_neg some, same, freeze_here]
    rfl

theorem settleStakerRemainder_meets
    (h : Pledged (currentEpoch ctx.now) id ctx.addresses.poolsRewards g accounting r) :
    Meets (r.settleEpochRemainder g ants accounting pools ctx epoch) NotExceeded (Settles id ctx accounting r) := by
  refine .bind requireNotPaused_meets fun _ _ => ?_
  apply require nofun
  intro first
  refine .bind (stakerBucket_meets h.bucketed nonzero) fun bucket ⟨within, isBucket⟩ => ?_
  refine .bind allocateEpochBudget_meets fun ⟨frozen, allocated⟩ ⟨isAllocated, allocates⟩ => ?_
  apply check nofun
  refine .bind (sub_meets nofun) fun unallocated isUnallocated => ?_
  refine .bind (Q := fun _ => True) ?_ fun reserve _ => ?_
  · apply require nofun
    exact fun _ => trivial
  dsimp only at isAllocated allocates
  -- the accounts after the budget has been frozen, if it was
  have started : epoch < currentEpoch ctx.now →
      Pledged (currentEpoch ctx.now) id ctx.addresses.poolsRewards g accounting frozen := by
    intro elapsed
    rcases allocates with ⟨-, rfl⟩ | ⟨freezes, rfl⟩
    · exact h
    · exact h.freeze elapsed (freezes.mono within)
  have unsettled : frozen.epochRemainderSettled epoch = false := by
    rcases allocates with ⟨-, rfl⟩ | ⟨-, rfl⟩ <;> exact first
  have isRest : Held id ctx.addresses.poolsRewards g → unallocated =
      shareBudget epoch (g.share id epoch) - frozen.allocation accounting epoch := by
    intro held
    rw [isUnallocated.2, isAllocated, isBucket held]
  have room : Room (currentEpoch ctx.now) id ctx.addresses.poolsRewards g epoch unallocated := by
    intro elapsed held
    rw [isRest held]
    exact (started elapsed).room_remainder unsettled elapsed held
  refine .bind ((Gate.claimRemainder_pays h.bucketed room).bubble_ne
    fun _ same => RewardsError.gate.inj same) fun ⟨gate, minted, parts⟩ pays => ?_
  have isFrozen : accounting.totalWeightedPoolPointsByEpoch epoch ≠ 0 →
      frozen.frozenStakerBudgets epoch ≠ 0 := by
    intro some
    rcases allocates with ⟨none, -⟩ | ⟨-, rfl⟩
    · exact absurd none some
    · simp
  have grows : Extends r frozen := by
    rcases allocates with ⟨-, rfl⟩ | ⟨freezes, rfl⟩
    · exact .refl _
    · exact extends_freeze freezes
  rw [isRest pays.held] at pays
  exact .pure ⟨(started pays.finalized).remain unsettled isFrozen pays, grows.trans extends_remain⟩

end SellerPoolsRewards

end AntSeed.Emissions
