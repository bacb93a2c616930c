import AntSeed.Emissions.UsagePayments

/-! # Calls of the usage rewards controller

Every claim, with or without staking, and every settlement keeps the accounts of
the bucket, and is never refused because the bucket is exhausted.
-/

namespace AntSeed.Emissions

open Evm Function
open Gate (Bucketed Held Spares Pays Room)
open Meets

variable {accounting : UsageAccounting} {epoch : Nat} {id : Word} {g : Gate} {r : UsageRewards}
  {ants : Erc20} {ctx : CallContext}

theorem requireNotPaused_meets {admin : Admin} :
    Meets (bubble RewardsError.admin admin.requireNotPaused) NotExceeded fun _ => True :=
  (bubble_other nofun).mono fun _ _ => trivial

variable {holder recipient : Address} {agentId : Word}

theorem gateClaim_meets {now amount : Nat} (h : Bucketed (currentEpoch now) id holder g)
    (room : Room (currentEpoch now) id holder g epoch amount) :
    Meets (bubble RewardsError.gate (g.claim ants now holder epoch recipient amount)) NotExceeded
      fun result => Pays (currentEpoch now) id holder g result.1 epoch amount :=
  (Gate.claim_pays h room).bubble_ne fun _ same => RewardsError.gate.inj same

theorem mintReserve_meets {now amount : Nat} (some : amount ≠ 0)
    (h : Bucketed (currentEpoch now) id holder g)
    (room : Room (currentEpoch now) id holder g epoch amount) :
    Meets (UsageRewards.mintReserve g ants now holder epoch amount) NotExceeded
      fun result => Pays (currentEpoch now) id holder g result.1 epoch amount := by
  unfold UsageRewards.mintReserve
  rw [if_pos some]
  refine .bind (Q := fun _ => True) ?_ fun reserve _ => gateClaim_meets h room
  apply require nofun
  exact fun _ => trivial

theorem mintReward_meets (some : claimable + reserve ≠ 0)
    (h : Bucketed (currentEpoch now) id holder g)
    (room : Room (currentEpoch now) id holder g epoch (claimable + reserve)) :
    Meets (UsageRewards.mintReward g ants now holder epoch recipient claimable reserve) NotExceeded
      fun result => Pays (currentEpoch now) id holder g result.1 epoch (claimable + reserve) := by
  unfold UsageRewards.mintReward claimNonzero
  by_cases first : claimable ≠ 0
  · rw [if_pos first]
    refine .bind (gateClaim_meets h (room.mono (Nat.le_add_right _ _))) fun ⟨charged, ants⟩ pays => ?_
    by_cases second : reserve ≠ 0
    · exact (mintReserve_meets second pays.bucketed (pays.room room)).mono
        fun result more => pays.trans more
    · have zero : reserve = 0 := Decidable.not_not.mp second
      subst zero
      exact .ite (fun isSome => absurd rfl isSome) fun _ => pure pays
  · have zero : claimable = 0 := Decidable.not_not.mp first
    subst zero
    rw [if_neg first, Nat.zero_add]
    rw [Nat.zero_add] at some room
    exact mintReserve_meets some h room

theorem pendingAgentReward_meets (h : Bucketed c id holder g) (nonzero : holder ≠ 0) :
    Meets (r.pendingAgentReward g accounting holder agentId epoch) NotExceeded fun _ => True := by
  refine .bind (Q := fun _ => True) ?_ fun budgets _ => ?_
  · refine .ite (fun _ => trivial) fun _ => ?_
    refine .bind (controllerEpochBudget_meets h nonzero) fun bucket _ => ?_
    exact liveUsageEpochBudgets_meets.mono fun _ _ => trivial
  · refine .ite (fun _ => trivial) fun _ => ?_
    refine .bind (uint_meets nofun) fun _ _ => ?_
    refine .bind (div_meets nofun) fun _ _ => ?_
    exact .bind (uint_meets nofun) fun _ _ => trivial

theorem stakeApproved_meets {staker : Address} {amount stakeEpochs : Nat} :
    Meets (r.stakeApproved ants pools ctx staker agentId amount stakeEpochs) NotExceeded
      fun _ => True := by
  refine .ite (fun _ => ?_) fun _ => ?_
  · exact .bind (bubble_other nofun) fun _ _ => trivial
  · refine .bind (answer_meets nofun) fun taken _ => ?_
    exact .bind (Erc20.transferFrom_meets nofun) fun _ _ => trivial

section Calls

variable (h : Committed (currentEpoch ctx.now) id ctx.addresses.usageRewards g accounting r)

include h

variable {k : Claimant} {r' : UsageRewards} {reward : PreparedReward} {agentId : Word}
  {pools : Pools.SellerPools} {stakeEpochs : Nat} {buyer : Address}

section

variable
  (prepared : ∃ budgets, Prepared id ctx.addresses.usageRewards g accounting r r' k epoch reward budgets)

include prepared

theorem payReward_meets :
    Meets (r'.payReward g ants ctx epoch reward) NotExceeded fun result =>
      PaidOnce (currentEpoch ctx.now) id ctx.addresses.usageRewards g result.2.1 accounting r
        result.1 k epoch := by
  obtain ⟨budgets, prepared⟩ := prepared
  refine .bind (mintReward_meets prepared.some h.bucketed (prepared.room h)) fun minted pays => ?_
  exact .pure (prepared.paid h pays)

theorem stakeClaimedReward_meets :
    Meets (r'.stakeClaimedReward g ants pools ctx agentId stakeEpochs epoch reward) NotExceeded
      fun result => PaidOnce (currentEpoch ctx.now) id ctx.addresses.usageRewards g result.1
        accounting r r' k epoch := by
  obtain ⟨budgets, prepared⟩ := prepared
  apply check nofun
  refine .bind (mintReward_meets prepared.some h.bucketed (prepared.room h)) fun minted pays => ?_
  exact .bind stakeApproved_meets fun _ _ => pure (prepared.paid h pays)

end

variable (nonzero : ctx.addresses.usageRewards ≠ 0)

include nonzero

theorem claimAgentRewardOf_meets {claimant : Address} :
    Meets (r.claimAgentRewardOf g ants accounting ctx agentId epoch claimant) NotExceeded
      fun result => PaidOnce (currentEpoch ctx.now) id ctx.addresses.usageRewards g result.2.1
        accounting r result.1 (.inl agentId) epoch :=
  bind (prepareAgentReward_meets h.bucketed nonzero) fun _ prepared =>
    payReward_meets h prepared

theorem claimAgentReward_meets :
    Meets (r.claimAgentReward g ants accounting ctx agentId epoch) NotExceeded
      fun result => PaidOnce (currentEpoch ctx.now) id ctx.addresses.usageRewards g result.2.1
        accounting r result.1 (.inl agentId) epoch :=
  bind requireNotPaused_meets fun _ _ => claimAgentRewardOf_meets h nonzero

theorem claimAgentRewardFor_meets {seller : Address} :
    Meets (r.claimAgentRewardFor g ants accounting ctx seller agentId epoch) NotExceeded
      fun result => PaidOnce (currentEpoch ctx.now) id ctx.addresses.usageRewards g result.2.1
        accounting r result.1 (.inl agentId) epoch := by
  refine .bind requireNotPaused_meets fun _ _ => ?_
  apply require nofun
  exact fun _ => claimAgentRewardOf_meets h nonzero

theorem claimBuyerReward_meets :
    Meets (r.claimBuyerReward g ants accounting ctx buyer epoch) NotExceeded
      fun result => PaidOnce (currentEpoch ctx.now) id ctx.addresses.usageRewards g result.2.1
        accounting r result.1 (.inr buyer) epoch := by
  refine .bind requireNotPaused_meets fun _ _ => ?_
  refine .bind (prepareBuyerReward_meets h.bucketed nonzero) fun _ prepared => ?_
  exact payReward_meets h prepared

theorem stakeAgentReward_meets :
    Meets (r.stakeAgentReward g ants accounting pools ctx agentId epoch stakeEpochs) NotExceeded
      fun result => PaidOnce (currentEpoch ctx.now) id ctx.addresses.usageRewards g result.2.1
        accounting r result.1 (.inl agentId) epoch := by
  refine .bind requireNotPaused_meets fun _ _ => ?_
  refine .bind (prepareAgentReward_meets h.bucketed nonzero) fun _ prepared => ?_
  exact .bind (stakeClaimedReward_meets h prepared) fun _ paid => pure paid

theorem stakeBuyerReward_meets :
    Meets (r.stakeBuyerReward g ants accounting pools ctx buyer epoch agentId stakeEpochs) NotExceeded
      fun result => PaidOnce (currentEpoch ctx.now) id ctx.addresses.usageRewards g result.2.1
        accounting r result.1 (.inr buyer) epoch := by
  refine .bind requireNotPaused_meets fun _ _ => ?_
  apply check nofun
  refine .bind (prepareBuyerReward_meets h.bucketed nonzero) fun _ prepared => ?_
  exact .bind (stakeClaimedReward_meets h prepared) fun _ paid => pure paid

theorem settleEpochRemainder_meets :
    Meets (r.settleEpochRemainder g ants accounting ctx epoch) NotExceeded fun result =>
      Committed (currentEpoch ctx.now) id ctx.addresses.usageRewards result.2.1 accounting result.1 ∧
        Extends r result.1 := by
  refine .bind requireNotPaused_meets fun _ _ => ?_
  apply require nofun
  intro first
  refine .bind (controllerEpochBudget_meets h.bucketed nonzero) fun bucket isBucket => ?_
  refine .bind freezeUsageEpochBudgetsTo_meets
    fun ⟨frozen, buyerBudget, sellerBudget⟩ ⟨freezes, isFreeze⟩ => ?_
  refine .bind (uint_meets nofun) fun allocated isAllocated => ?_
  apply require nofun
  intro less
  refine .bind (sub_meets nofun) fun unallocated isUnallocated => ?_
  refine .bind (Q := fun _ => True) ?_ fun reserve _ => ?_
  · apply require nofun
    exact fun _ => trivial
  dsimp only at isFreeze freezes
  have here : (r.freeze epoch ⟨true, buyerBudget, sellerBudget⟩).frozenUsageBudgets epoch =
      ⟨true, buyerBudget, sellerBudget⟩ := update_self _ _ _
  have isRest : unallocated =
      bucket - allocation ⟨true, buyerBudget, sellerBudget⟩ accounting epoch := by
    rw [isUnallocated.2, isAllocated.2]
    rfl
  have budgets : ∀ held : Held id ctx.addresses.usageRewards g,
      Freezes r (shareBudget epoch (g.share id epoch)) epoch ⟨true, buyerBudget, sellerBudget⟩ :=
    fun held => isBucket held ▸ freezes
  have room : Room (currentEpoch ctx.now) id ctx.addresses.usageRewards g epoch unallocated := by
    intro elapsed held
    have room := (h.freeze elapsed held (budgets held)).room_remainder (by rw [here]) first
    rw [here] at room
    rw [isRest, isBucket held]
    exact room
  refine .bind ((Gate.claimRemainder_pays h.bucketed room).bubble_ne
    fun _ same => RewardsError.gate.inj same) fun ⟨gate, ants, parts⟩ pays => ?_
  subst isFreeze
  have committed := h.freeze pays.finalized pays.held (budgets pays.held)
  refine .pure ⟨committed.pay (by rw [here]) pays rfl (fun _ _ => rfl)
    (fun e other => update_of_ne other _ _) ?_, ?_⟩
  · have unsettled : (r.freeze epoch ⟨true, buyerBudget, sellerBudget⟩).epochRemainderSettled epoch =
        false := first
    simp only [payments, remainder, here, unsettled, update_self, Bool.false_eq_true, if_false,
      if_true, Nat.add_zero, isRest, isBucket pays.held]
    rfl
  · exact (extends_freeze freezes).trans (.of_same rfl rfl)

end Calls

theorem claimEpochs_meets
    (h : Committed (currentEpoch ctx.now) id ctx.addresses.usageRewards g accounting r)
    (nonzero : ctx.addresses.usageRewards ≠ 0) (epochs : List Nat) :
    Meets (accounting.claimEpochs ctx agentId epochs r g ants) NotExceeded fun result =>
      Committed (currentEpoch ctx.now) id ctx.addresses.usageRewards result.2.1 accounting result.1 ∧
        Extends r result.1 := by
  induction epochs generalizing r g ants with
  | nil => exact .pure ⟨h, .of_same rfl rfl⟩
  | cons epoch rest ih =>
    refine .ite (fun _ => ih h) fun _ => ite (fun _ => ih h) fun _ => ?_
    refine .bind (Q := fun _ => True) (pendingAgentReward_meets h.bucketed nonzero) fun pending _ => ?_
    refine .ite (fun _ => ih h) fun _ => ?_
    let forwarded := { ctx with sender := ctx.addresses.accounting }
    have same : Committed (currentEpoch forwarded.now) id forwarded.addresses.usageRewards g
      accounting r := h
    refine .bind (claimAgentRewardFor_meets same nonzero) fun claimed paid => ?_
    exact (ih paid.committed).mono fun result ⟨committed, grows⟩ =>
      ⟨committed, paid.grows.trans grows⟩

end AntSeed.Emissions
