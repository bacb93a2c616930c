import AntSeed.Lib.BatchQueue
import AntSeed.Staking.Reserve

/-! # Stakes and unstake batches of DiemStakingProxy

What staking, queueing, flushing and claiming a batch do to the stakes and to the
queue of unstakes, and that nothing else touches them.
-/

namespace AntSeed.Staking

open Evm Function

/-- The stakes and the queue of unstakes. -/
structure Stakes where
  totalStaked : Nat
  staked : Address → Nat
  stakerCount : Nat
  unlockAt : Nat → Nat
  userCount : Nat → Nat
  claimed : Nat → Bool
  queue : BatchQueue Address

namespace Stakes

def stake (s : Stakes) (account : Address) (amount : Nat) : Stakes :=
  { s with
    totalStaked := s.totalStaked + amount
    staked := update s.staked account (s.staked account + amount)
    stakerCount := if s.staked account = 0 then s.stakerCount + 1 else s.stakerCount }

def initiateUnstake (s : Stakes) (account : Address) (amount : Nat) : Stakes :=
  { s with
    totalStaked := s.totalStaked - amount
    staked := update s.staked account (s.staked account - amount)
    stakerCount := if s.staked account - amount = 0 then s.stakerCount - 1 else s.stakerCount
    userCount := if s.queue.amount s.queue.current account = 0 then
      update s.userCount s.queue.current (s.userCount s.queue.current + 1) else s.userCount
    queue := s.queue.enqueue account amount }

def flush (s : Stakes) (unlockAt : Nat) : Stakes :=
  { s with
    unlockAt := update s.unlockAt s.queue.current unlockAt
    queue := s.queue.sealBatch }

def claim (s : Stakes) : Stakes :=
  { s with
    claimed := update s.claimed s.queue.oldest true
    queue := s.queue.payOut }

end Stakes

namespace DiemStakingProxy

variable {s s' : DiemStakingProxy} {ctx : ProxyContext} {account : Address}

def stakes (s : DiemStakingProxy) : Stakes where
  totalStaked := s.totalStaked
  staked := s.staked
  stakerCount := s.stakerCount
  unlockAt b := (s.unstakeBatches b).unlockAt
  userCount b := (s.unstakeBatches b).userCount
  claimed b := (s.unstakeBatches b).claimed
  queue :=
    { total := fun b => (s.unstakeBatches b).total
      users := s.unstakeBatchUsers
      amount := s.unstakeBatchUserAmount
      current := s.currentUnstakeBatch
      oldest := s.oldestUnclaimedUnstakeBatch }

/-- What bringing rewards up to date leaves alone: the stakes, the marks of claims and the terms
    they are paid on. -/
structure Spares (s s' : DiemStakingProxy) : Prop where
  stakes : s'.stakes = s.stakes
  claimed : s'.userEpochClaimed = s.userEpochClaimed
  feeBps : s'.operatorFeeBps = s.operatorFeeBps
  feeRecipient : s'.operatorFeeRecipient = s.operatorFeeRecipient
  first : s'.firstRewardEpoch = s.firstRewardEpoch
  paused : s'.paused = s.paused

theorem Spares.refl (s : DiemStakingProxy) : Spares s s := ⟨rfl, rfl, rfl, rfl, rfl, rfl⟩

variable {t : DiemStakingProxy} {epochs : List Nat} {batchId : Nat} {self : Address}
  {users : List Address}

theorem Spares.trans (first : Spares s t) (second : Spares t s') : Spares s s' :=
  ⟨second.stakes.trans first.stakes, second.claimed.trans first.claimed,
    second.feeBps.trans first.feeBps, second.feeRecipient.trans first.feeRecipient,
    second.first.trans first.first, second.paused.trans first.paused⟩

theorem Spares.cancel (first : Spares s t) (second : Spares s s') : Spares t s' :=
  ⟨second.stakes.trans first.stakes.symm, second.claimed.trans first.claimed.symm,
    second.feeBps.trans first.feeBps.symm, second.feeRecipient.trans first.feeRecipient.symm,
    second.first.trans first.first.symm, second.paused.trans first.paused.symm⟩

theorem spares_updateUsdcForUser (h : s.updateUsdcForUser account = .ok s') : Spares s s' := by
  unfold updateUsdcForUser at h
  split at h
  · obtain ⟨_, -, h⟩ := ran h
    obtain ⟨_, -, h⟩ := ran h
    obtain ⟨_, -, h⟩ := ran h
    cases h
    exact ⟨rfl, rfl, rfl, rfl, rfl, rfl⟩
  · cases h
    exact .refl _

theorem spares_syncRewardEpochsUntil (s : DiemStakingProxy) (target : Nat) :
    Spares s (s.syncRewardEpochsUntil target) := by
  unfold syncRewardEpochsUntil
  generalize target - s.syncedRewardEpoch = rounds
  induction rounds generalizing s with
  | zero => exact .refl s
  | succ rounds ih =>
    have one : Spares s s.closeRewardEpoch := ⟨rfl, rfl, rfl, rfl, rfl, rfl⟩
    exact one.trans (ih s.closeRewardEpoch)

theorem spares_syncForUpdate (h : s.syncFinalizedRewardEpochsForUpdate ctx = .ok s') : Spares s s' := by
  obtain ⟨finalized, -, h⟩ := ran h
  replace h := rest_ok h
  cases h
  exact spares_syncRewardEpochsUntil s finalized

theorem spares_syncBounded
    (h : s.syncFinalizedRewardEpochsBounded ctx maxEpochs = .ok (s', synced)) : Spares s s' := by
  obtain ⟨finalized, -, h⟩ := ran h
  obtain ⟨requested, -, h⟩ := ran h
  dsimp only at h
  generalize (if requested > finalized then finalized else requested) = target at h
  split at h
  · cases h
    exact spares_syncRewardEpochsUntil s target
  · cases h
    exact .refl s

theorem spares_syncForClaim (h : s.syncForClaim target = .ok s') : Spares s s' := by
  unfold syncForClaim at h
  split at h
  · replace h := rest_ok h
    cases h
    exact spares_syncRewardEpochsUntil s target
  · cases h
    exact .refl s

theorem spares_addUserPoints {epoch stake segStart segEnd : Nat}
    (h : s.addUserPoints account epoch stake segStart segEnd = .ok s') : Spares s s' := by
  unfold addUserPoints at h
  split at h
  · cases h
    exact .refl s
  · obtain ⟨_, -, h⟩ := ran h
    obtain ⟨_, -, h⟩ := ran h
    cases h
    exact ⟨rfl, rfl, rfl, rfl, rfl, rfl⟩

theorem spares_addClosedPoints {stake userEp userSnap count epoch : Nat}
    (h : addClosedPoints account stake userEp userSnap count epoch s = .ok s') : Spares s s' := by
  induction count generalizing epoch s with
  | zero =>
    cases h
    exact .refl _
  | succ count ih =>
    obtain ⟨t, one, h⟩ := ran h
    exact (spares_addUserPoints one).trans (ih h)

theorem spares_snapUser (s : DiemStakingProxy) (account : Address) (snap epoch : Nat) :
    Spares s (s.snapUser account snap epoch) := ⟨rfl, rfl, rfl, rfl, rfl, rfl⟩

theorem spares_captureUserPoints (h : s.captureUserPoints account = .ok s') : Spares s s' := by
  unfold captureUserPoints at h
  split at h
  · cases h
    exact .refl s
  dsimp only at h
  split at h
  · cases h
    exact spares_snapUser s _ _ _
  replace h := rest_ok h
  obtain ⟨t, closed, h⟩ := ran h
  obtain ⟨u, running, h⟩ := ran h
  cases h
  exact ((spares_addClosedPoints closed).trans (spares_addUserPoints running)).trans
    (spares_snapUser u _ _ _)

theorem stakes_updateRewards (h : s.updateRewards ctx account = .ok s') : s'.stakes = s.stakes := by
  obtain ⟨t, paid, h⟩ := ran h
  obtain ⟨u, synced, h⟩ := ran h
  exact (((spares_updateUsdcForUser paid).trans (spares_syncForUpdate synced)).trans
    (spares_captureUserPoints h)).stakes

theorem spares_catchUpPoints (h : s.catchUpPoints ctx numEpochs = .ok s') :
    Spares s s' := by
  replace h := rest_ok h
  replace h := rest_ok h
  replace h := rest_ok h
  obtain ⟨t, paid, h⟩ := ran h
  obtain ⟨⟨u, count⟩, synced, h⟩ := ran h
  obtain ⟨_, -, h⟩ := ran h
  replace h := rest_ok h
  obtain ⟨v, closed, h⟩ := ran h
  obtain ⟨_, -, h⟩ := ran h
  cases h
  exact (((spares_updateUsdcForUser paid).trans (spares_syncBounded synced)).trans
    (spares_addClosedPoints closed)).trans (spares_snapUser v _ _ _)

theorem stakes_claimUsdc (h : s.claimUsdc usdc ctx = .ok (s', usdc')) :
    s'.stakes = s.stakes := by
  obtain ⟨t, updated, -, rfl, -⟩ := claimUsdc_eq h
  exact (stakes_updateRewards updated :)

theorem stakes_claimEpochs
    (h : claimEpochs ctx epochs s ants total processed = .ok (s', ants', total', processed')) :
    s'.stakes = s.stakes := by
  induction epochs generalizing s ants total processed with
  | nil =>
    cases h
    rfl
  | cons epoch rest ih =>
    unfold claimEpochs at h
    split at h
    · exact ih h
    · obtain ⟨⟨t, paid, amount⟩, one, h⟩ := ran h
      obtain ⟨_, -, h⟩ := ran h
      obtain ⟨epochs, points, rfl⟩ := claimEpoch_frame one
      exact (ih h).trans rfl

theorem stakes_claimAnts (h : s.claimAnts ants ctx epochs = .ok (s', ants')) :
    s'.stakes = s.stakes := by
  replace h := rest_ok h
  replace h := rest_ok h
  obtain ⟨target, -, h⟩ := ran h
  obtain ⟨_, -, h⟩ := ran h
  replace h := rest_ok h
  obtain ⟨t, updated, h⟩ := ran h
  obtain ⟨u, synced, h⟩ := ran h
  obtain ⟨v, captured, h⟩ := ran h
  obtain ⟨⟨w, paid, total, processed⟩, claimed, h⟩ := ran h
  replace h := rest_ok h
  have same : w.stakes = s.stakes := (stakes_claimEpochs claimed).trans
    (((spares_updateUsdcForUser updated).trans (spares_syncForClaim synced)).trans
      (spares_captureUserPoints captured)).stakes
  split at h
  · obtain ⟨_, -, h⟩ := ran h
    cases h
    exact same
  · cases h
    exact same

theorem stakes_forwardRevenue
    (h : s.forwardRevenue usdc ctx = .ok (s', usdc')) : s'.stakes = s.stakes := by
  obtain ⟨net, distributed, -⟩ := forwardRevenue_eq h
  unfold distributeUsdcInstant at distributed
  split at distributed
  · cases distributed
    rfl
  obtain ⟨u, synced, distributed⟩ := ran distributed
  obtain ⟨_, -, distributed⟩ := ran distributed
  obtain ⟨_, -, distributed⟩ := ran distributed
  have same := (spares_syncForUpdate synced).stakes
  split at distributed
  · cases distributed
    exact same
  · obtain ⟨_, -, distributed⟩ := ran distributed
    obtain ⟨_, -, distributed⟩ := ran distributed
    obtain ⟨_, -, distributed⟩ := ran distributed
    obtain ⟨_, -, distributed⟩ := ran distributed
    obtain ⟨_, -, distributed⟩ := ran distributed
    cases distributed
    exact same

theorem stakes_set (h : s.set sender setting = .ok s') :
    s'.stakes = s.stakes := by
  replace h := rest_ok h
  cases setting with
  | operatorFee =>
    replace h := rest_ok h
    replace h := rest_ok h
    cases h
    rfl
  | maxTotalStake | renounceOwnership =>
    cases h
    rfl
  | _ =>
    replace h := rest_ok h
    cases h
    rfl

theorem stake_stakes (h : s.stake diem ctx amount = .ok (s', diem')) :
    amount ≠ 0 ∧ s'.stakes = s.stakes.stake ctx.sender amount ∧
      ∃ token, diem.token.transferFrom ctx.self ctx.sender ctx.self amount =
          (.ok token : Tx ProxyError Erc20) ∧
        Diem.stake { diem with token := token } ctx.self amount = .ok diem' := by
  obtain ⟨some, t, token, updated, moved, staked, rfl⟩ := stake_eq h
  refine ⟨some, ?_, token, moved, staked⟩
  rw [← stakes_updateRewards updated]
  rfl

theorem joinBatch_stakes (h : s.joinBatch batchId user = .ok s') :
    s'.totalStaked = s.totalStaked ∧ s'.staked = s.staked ∧ s'.stakerCount = s.stakerCount ∧
      s'.currentUnstakeBatch = s.currentUnstakeBatch ∧
      s'.oldestUnclaimedUnstakeBatch = s.oldestUnclaimedUnstakeBatch ∧
      s'.unstakeBatchUserAmount = s.unstakeBatchUserAmount ∧
      (∀ b, (s'.unstakeBatches b).total = (s.unstakeBatches b).total ∧
        (s'.unstakeBatches b).unlockAt = (s.unstakeBatches b).unlockAt ∧
        (s'.unstakeBatches b).claimed = (s.unstakeBatches b).claimed) ∧
      (fun b => (s'.unstakeBatches b).userCount) =
        (if s.unstakeBatchUserAmount batchId user = 0 then
          update (fun b => (s.unstakeBatches b).userCount) batchId
            ((s.unstakeBatches batchId).userCount + 1)
          else fun b => (s.unstakeBatches b).userCount) ∧
      s'.unstakeBatchUsers = if s.unstakeBatchUserAmount batchId user = 0 then
        update s.unstakeBatchUsers batchId (s.unstakeBatchUsers batchId ++ [user])
        else s.unstakeBatchUsers := by
  unfold joinBatch at h
  split at h
  next new =>
    replace h := rest_ok h
    replace h := uint_rest h
    cases h
    refine ⟨rfl, rfl, rfl, rfl, rfl, rfl, fun b => ?_, ?_, ?_⟩
    · by_cases here : b = batchId
      · subst here
        simp
      · simp [here]
    · rw [if_pos new]
      funext b
      by_cases here : b = batchId
      · subst here
        simp
      · simp [here]
    · rw [if_pos new]
  next already =>
    cases h
    refine ⟨rfl, rfl, rfl, rfl, rfl, rfl, fun b => ⟨rfl, rfl, rfl⟩, ?_, ?_⟩ <;> rw [if_neg already]

theorem safeCast_eq_ok (h : safeCast bits n = .ok m) : n = m := by
  replace h := rest_ok h
  exact pure_eq_ok.mp h

theorem initiateUnstake_stakes (h : s.initiateUnstake ctx amount = .ok s') :
    amount ≠ 0 ∧ amount ≤ s.staked ctx.sender ∧
      s'.stakes = s.stakes.initiateUnstake ctx.sender amount := by
  replace h := rest_ok h
  obtain ⟨t, updated, h⟩ := ran h
  obtain ⟨_, some, h⟩ := ran h
  obtain ⟨_, enough, h⟩ := ran h
  obtain ⟨u, joined, h⟩ := ran h
  obtain ⟨newStake, isStake, h⟩ := ran h
  obtain ⟨newTotal, isTotal, h⟩ := ran h
  obtain ⟨count, isCount, h⟩ := ran h
  obtain ⟨amt128, isAmount, h⟩ := ran h
  replace h := uint_rest h
  replace h := uint_rest h
  have same := stakes_updateRewards updated
  have before : t.staked = s.staked := congrArg Stakes.staked same
  refine ⟨require_eq_ok.mp some, before ▸ require_eq_ok.mp enough, ?_⟩
  rw [← same]
  obtain ⟨totalStaked, staked, stakerCount, current, oldest, amounts, batches, counts, users⟩ :=
    joinBatch_stakes joined
  obtain rfl := safeCast_eq_ok isAmount
  obtain ⟨-, rfl⟩ := sub_eq_ok.mp isStake
  obtain ⟨-, rfl⟩ := sub_eq_ok.mp isTotal
  have isCount : count = if t.staked ctx.sender - amount = 0 then t.stakerCount - 1
      else t.stakerCount := by
    rw [staked] at isCount
    split at isCount
    next none => rw [if_pos none, ← stakerCount, (sub_eq_ok.mp isCount).2]
    next left => rw [if_neg left, ← stakerCount, pure_eq_ok.mp isCount]
  cases h
  have entry : ∀ b, update u.unstakeBatches t.currentUnstakeBatch
      { u.unstakeBatches t.currentUnstakeBatch with
        total := (u.unstakeBatches t.currentUnstakeBatch).total + amount } b =
      { u.unstakeBatches b with
        total := if b = t.currentUnstakeBatch then (u.unstakeBatches b).total + amount
          else (u.unstakeBatches b).total } := by
    intro b
    by_cases here : b = t.currentUnstakeBatch
    · subst here
      simp
    · simp [here]
  simp only [stakes, Stakes.initiateUnstake, BatchQueue.enqueue, Stakes.mk.injEq, BatchQueue.mk.injEq,
    entry]
  refine ⟨?_, ?_, isCount, ?_, counts, ?_, ?_, users, ?_, current, oldest⟩
  · rw [totalStaked]
  · rw [staked]
  · simp only [batches]
  · simp only [batches]
  · funext b
    simp only [batches, Function.update_apply]
    split
    next here => rw [here]
    · rfl
  · rw [amounts]

/-- Everything a flush does: the open batch is sealed and starts to cool down. -/
structure Flushed (s s' : DiemStakingProxy) (diem diem' : Diem) (ctx : ProxyContext) : Prop where
  paidUp : s.currentUnstakeBatch = s.oldestUnclaimedUnstakeBatch
  some : (s.unstakeBatches s.currentUnstakeBatch).total ≠ 0
  next : s.currentUnstakeBatch + 1 < 2 ^ 32
  stakes : s'.stakes = s.stakes.flush (ctx.now + diem.cooldownDuration)
  diem : diem.initiateUnstake ctx.now ctx.self (s.unstakeBatches s.currentUnstakeBatch).total = .ok diem'

theorem flush_flushed (h : s.flush diem ctx = .ok (s', diem')) :
    Flushed s s' diem diem' ctx := by
  replace h := rest_ok h
  obtain ⟨_, paidUp, h⟩ := ran h
  obtain ⟨_, some, h⟩ := ran h
  replace h := rest_ok h
  replace h := uint_rest h
  obtain ⟨unlockAt, isUnlock, h⟩ := ran h
  obtain ⟨next, isNext, h⟩ := ran h
  obtain ⟨cooling, initiated, h⟩ := ran h
  obtain rfl := safeCast_eq_ok isUnlock
  obtain ⟨fits, rfl⟩ := uint_eq_ok.mp isNext
  cases h
  refine ⟨require_eq_ok.mp paidUp, require_eq_ok.mp some, fits, ?_, initiated⟩
  have entry : ∀ b, update s.unstakeBatches s.currentUnstakeBatch
      { s.unstakeBatches s.currentUnstakeBatch with unlockAt := ctx.now + diem.cooldownDuration } b =
      { s.unstakeBatches b with
        unlockAt := if b = s.currentUnstakeBatch then ctx.now + diem.cooldownDuration
          else (s.unstakeBatches b).unlockAt } := by
    intro b
    by_cases here : b = s.currentUnstakeBatch
    · subst here
      simp
    · simp [here]
  simp only [DiemStakingProxy.stakes, Stakes.flush, BatchQueue.sealBatch, Stakes.mk.injEq, entry,
    true_and, and_true]
  funext b
  simp only [Function.update_apply]

/-- `delete unstakeBatchUserAmount[batchId][user];` -/
def deleteAmount (s : DiemStakingProxy) (batchId : Nat) (user : Address) : DiemStakingProxy :=
  { s with
    unstakeBatchUserAmount := update s.unstakeBatchUserAmount batchId
      (update (s.unstakeBatchUserAmount batchId) user 0) }

@[simp] theorem deleteAmount_here (s : DiemStakingProxy) (batchId : Nat) (user : Address) :
    (s.deleteAmount batchId user).unstakeBatchUserAmount batchId =
      update (s.unstakeBatchUserAmount batchId) user 0 := update_self _ _ _

/-- What the loop of a claim transfers to every account. -/
def paidBy (batchId : Nat) : List Address → DiemStakingProxy → Address → Nat
  | [], _ => 0
  | user :: rest, s =>
    Pi.single user (s.unstakeBatchUserAmount batchId user) +
      paidBy batchId rest (s.deleteAmount batchId user)

def settleUsers (s : DiemStakingProxy) (batchId : Nat) (users : List Address) : DiemStakingProxy :=
  { s with
    unstakeBatchUserAmount := update s.unstakeBatchUserAmount batchId
      fun user => if user ∈ users then 0 else s.unstakeBatchUserAmount batchId user }

theorem settleUsers_nil (s : DiemStakingProxy) (batchId : Nat) : s.settleUsers batchId [] = s := by
  simp [settleUsers]

theorem settleUsers_cons (s : DiemStakingProxy) (batchId : Nat) (user : Address) (rest : List Address) :
    (s.deleteAmount batchId user).settleUsers batchId rest = s.settleUsers batchId (user :: rest) := by
  simp only [settleUsers, deleteAmount, Function.update_idem, update_self]
  congr 2
  funext u
  by_cases inRest : u ∈ rest
  · simp [inRest]
  · by_cases isUser : u = user <;> simp [inRest, isUser]

theorem payUsers_pays (h : payUsers self batchId users s token = .ok (s', token'))
    (others : ∀ user ∈ users, user ≠ self) :
    s' = s.settleUsers batchId users ∧ token'.allowance = token.allowance ∧
      ∀ account, account ≠ self → token'.balanceOf account =
        token.balanceOf account + paidBy batchId users s account := by
  induction users generalizing s token with
  | nil =>
    cases h
    exact ⟨(settleUsers_nil _ batchId).symm, rfl, fun _ _ => rfl⟩
  | cons user rest ih =>
    obtain ⟨paid, transferred, h⟩ := ran h
    obtain ⟨-, -, rfl⟩ := Erc20.transfer_eq_ok.mp transferred
    obtain ⟨isSettled, allowances, balances⟩ :=
      @ih (s.deleteAmount batchId user) _ h fun other inside =>
        others other (List.mem_cons_of_mem user inside)
    refine ⟨isSettled.trans (settleUsers_cons s batchId user rest), allowances, ?_⟩
    intro account other
    rw [balances account other, paidBy, Pi.add_apply, Pi.single_apply]
    by_cases isUser : account = user
    · subst isUser
      simp [Erc20.move, other]
      omega
    · simp [Erc20.move, isUser, other]

theorem paidBy_eq (distinct : users.Nodup) (account : Address) :
    paidBy batchId users s account =
      if account ∈ users then s.unstakeBatchUserAmount batchId account else 0 := by
  induction users generalizing s with
  | nil => rfl
  | cons user rest ih =>
    obtain ⟨fresh, distinct⟩ := List.nodup_cons.mp distinct
    rw [paidBy, Pi.add_apply, ih distinct, Pi.single_apply]
    by_cases isUser : account = user
    · subst isUser
      simp [fresh]
    · simp [isUser]

theorem payUsers_returns (accounts : ∀ user ∈ users, user ≠ 0 ∧ user ≠ self)
    (distinct : users.Nodup)
    (enough : (users.map (s.unstakeBatchUserAmount batchId)).sum ≤ token.balanceOf self) :
    ∃ result, payUsers self batchId users s token = .ok result := by
  induction users generalizing s token with
  | nil => exact ⟨_, rfl⟩
  | cons user rest ih =>
    obtain ⟨fresh, distinct⟩ := List.nodup_cons.mp distinct
    obtain ⟨somebody, notSelf⟩ := accounts user List.mem_cons_self
    rw [List.map_cons, List.sum_cons] at enough
    have transferred : token.transfer self user (s.unstakeBatchUserAmount batchId user) =
        (.ok (token.move self user (s.unstakeBatchUserAmount batchId user)) : Tx ProxyError Erc20) :=
      Erc20.transfer_eq_ok.mpr ⟨somebody, by omega, rfl⟩
    have left : (token.move self user (s.unstakeBatchUserAmount batchId user)).balanceOf self =
        token.balanceOf self - s.unstakeBatchUserAmount batchId user := by
      simp [Erc20.move, Ne.symm notSelf]
    have same : rest.map (update (s.unstakeBatchUserAmount batchId) user 0) =
        rest.map (s.unstakeBatchUserAmount batchId) :=
      List.map_congr_left fun other inside => update_of_ne (ne_of_mem_of_not_mem inside fresh) _ _
    obtain ⟨result, returned⟩ := @ih (s.deleteAmount batchId user)
      (token.move self user (s.unstakeBatchUserAmount batchId user))
      (fun other inside => accounts other (List.mem_cons_of_mem user inside)) distinct
      (by rw [deleteAmount_here, same, left]; omega)
    refine ⟨result, ?_⟩
    rw [payUsers, transferred]
    exact returned

end DiemStakingProxy

end AntSeed.Staking
