import AntSeed.Staking.UnstakeBatches

/-! # Unstake batches pay everyone exactly once

The proxy has one position with the DIEM token. What is staked there are the
stakes and the open batch, and what cools down is the one batch that is flushed
and not yet claimed. So a batch that can be claimed is paid in full, whatever was
queued, flushed or claimed before and after it.
-/

namespace AntSeed.Staking

open Evm Function BatchQueue
open DiemStakingProxy
open Finset Nat Erc20

variable {proxy : Address} {queued paid : Nat → Address → Nat} {stakes : Stakes} {diem diem' : Diem}

/-- The number of accounts with a stake. -/
noncomputable def stakers (staked : Address → Nat) : Nat := (univ.filter fun a => staked a ≠ 0).card

/-- The stakes and the queue are in order. -/
structure Batched (proxy : Address) (queued paid : Nat → Address → Nat) (stakes : Stakes) : Prop where
  total : stakes.totalStaked = ∑ a, stakes.staked a
  count : stakes.stakerCount = stakers stakes.staked
  sound : stakes.queue.Sound queued paid
  senders : ∀ b, ∀ user ∈ stakes.queue.users b, user ≠ 0 ∧ user ≠ proxy
  counted : ∀ b, stakes.userCount b = (stakes.queue.users b).length
  bounded : stakes.queue.current < 2 ^ 32
  unflushed : ∀ b, stakes.queue.current ≤ b → stakes.unlockAt b = 0
  unclaimed : ∀ b, stakes.queue.oldest ≤ b → stakes.claimed b = false
  claimed : ∀ b, 1 ≤ b → b < stakes.queue.oldest → stakes.claimed b = true
  /-- batches are numbered from one -/
  first : 1 ≤ stakes.queue.oldest
  unnumbered : stakes.unlockAt 0 = 0 ∧ ∀ a, queued 0 a = 0

/-- The DIEM token has what the stakes and the queue need. -/
structure Cooling (proxy : Address) (stakes : Stakes) (diem : Diem) : Prop where
  apart : diem.self ≠ proxy
  deposited : (diem.stakedInfos proxy).amountStaked =
    stakes.totalStaked + stakes.queue.total stakes.queue.current
  amount : (diem.stakedInfos proxy).coolDownAmount =
    if stakes.queue.oldest < stakes.queue.current then stakes.queue.total stakes.queue.oldest else 0
  ends : stakes.queue.oldest < stakes.queue.current →
    (diem.stakedInfos proxy).coolDownEnd = stakes.unlockAt stakes.queue.oldest ∧
      stakes.queue.total stakes.queue.oldest ≠ 0
  unapproved : ∀ spender, diem.token.allowance diem.self spender = 0
  backed : (diem.stakedInfos proxy).amountStaked + (diem.stakedInfos proxy).coolDownAmount ≤
    diem.token.balanceOf diem.self

theorem stakers_update (staked : Address → Nat) (account : Address) (amount : Nat) :
    stakers (update staked account amount) + (if staked account = 0 then 0 else 1) =
      stakers staked + if amount = 0 then 0 else 1 := by
  have moved := sum_update_add (fun _ (n : Nat) => if n = 0 then 0 else 1) staked amount
    (mem_univ account)
  simpa only [stakers, card_filter, ne_eq, ite_not] using moved

variable {amount now : Nat} {account : Address}

section

variable (h : Batched proxy queued paid stakes)

include h

theorem Batched.stake (account : Address) (some : amount ≠ 0) :
    Batched proxy queued paid (stakes.stake account amount) := by
  refine ⟨?_, ?_, h.sound, h.senders, h.counted, h.bounded, h.unflushed, h.unclaimed, h.claimed,
    h.first, h.unnumbered⟩
  · have moved := sum_update_add (fun _ (n : Nat) => n) stakes.staked
      (stakes.staked account + amount) (mem_univ account)
    have before := h.total
    simp only [Stakes.stake]
    omega
  · have moved := stakers_update stakes.staked account (stakes.staked account + amount)
    rw [if_neg (show ¬ stakes.staked account + amount = 0 by omega)] at moved
    have before := h.count
    simp only [Stakes.stake]
    split at moved <;> split <;> omega

theorem Batched.initiateUnstake (somebody : account ≠ 0)
    (notSelf : account ≠ proxy) (some : amount ≠ 0) (enough : amount ≤ stakes.staked account) :
    Batched proxy (queued + entry stakes.queue.current account amount) paid
      (stakes.initiateUnstake account amount) := by
  refine ⟨?_, ?_, h.sound.enqueue account some, ?_, ?_, h.bounded, h.unflushed, h.unclaimed, h.claimed,
    h.first, h.unnumbered.1, ?_⟩
  · have moved := sum_update_add (fun _ (n : Nat) => n) stakes.staked
      (stakes.staked account - amount) (mem_univ account)
    have before := h.total
    simp only [Stakes.initiateUnstake]
    omega
  · have moved := stakers_update stakes.staked account (stakes.staked account - amount)
    rw [if_neg (show ¬ stakes.staked account = 0 by omega)] at moved
    have before := h.count
    simp only [Stakes.initiateUnstake]
    split at moved <;> split <;> omega
  · intro b user inside
    simp only [Stakes.initiateUnstake, enqueue] at inside
    split at inside
    · by_cases here : b = stakes.queue.current
      · subst here
        rw [update_self] at inside
        rcases List.mem_append.mp inside with already | new
        · exact h.senders _ user already
        · rw [List.mem_singleton.mp new]
          exact ⟨somebody, notSelf⟩
      · rw [update_of_ne here] at inside
        exact h.senders b user inside
    · exact h.senders b user inside
  · intro b
    simp only [Stakes.initiateUnstake, enqueue]
    split
    · by_cases here : b = stakes.queue.current
      · subst here
        simp [h.counted]
      · simp [here, h.counted]
    · exact h.counted b
  · intro a
    have numbered : 0 ≠ stakes.queue.current :=
      Nat.ne_of_lt (Nat.lt_of_lt_of_le h.first h.sound.reached)
    simp [entry, numbered, h.unnumbered.2 a]

theorem Batched.flush (paidUp : stakes.queue.current = stakes.queue.oldest)
    (next : stakes.queue.current + 1 < 2 ^ 32) :
    Batched proxy queued paid (stakes.flush unlockAt) := by
  refine ⟨h.total, h.count, h.sound.sealBatch paidUp, h.senders, h.counted, next, ?_, h.unclaimed,
    h.claimed, h.first, ?_, h.unnumbered.2⟩
  · intro b later
    have later : stakes.queue.current < b := later
    simp [Stakes.flush, Nat.ne_of_gt later, h.unflushed b (Nat.le_of_lt later)]
  · have numbered : 0 ≠ stakes.queue.current :=
      Nat.ne_of_lt (Nat.lt_of_lt_of_le h.first h.sound.reached)
    simp [Stakes.flush, numbered, h.unnumbered.1]

theorem Batched.claim (flushed : stakes.queue.oldest < stakes.queue.current) : Batched proxy queued
      (paid + entries stakes.queue.oldest (stakes.queue.amount stakes.queue.oldest)) stakes.claim := by
  refine ⟨h.total, h.count, h.sound.payOut flushed, h.senders, h.counted, h.bounded, h.unflushed, ?_, ?_,
    le_succ_of_le h.first, h.unnumbered⟩
  · intro b later
    have later : stakes.queue.oldest < b := later
    simp [Stakes.claim, Nat.ne_of_gt later, h.unclaimed b (Nat.le_of_lt later)]
  · intro b numbered past
    by_cases here : b = stakes.queue.oldest
    · subst here
      simp [Stakes.claim]
    · have past : b < stakes.queue.oldest + 1 := past
      simp only [Stakes.claim, update_of_ne here]
      exact h.claimed b numbered (by omega)

end

theorem Cooling.keeps (h : Cooling proxy stakes diem)
    (keeps : diem.token.Keeps diem.self token) :
    Cooling proxy stakes { diem with token := token, cooldownDuration := duration } := by
  obtain ⟨more, unapproved⟩ := keeps h.unapproved
  exact ⟨h.apart, h.deposited, h.amount, h.ends, unapproved, le_trans h.backed more⟩

theorem diemStake_eq_ok (h : diem.stake proxy amount = .ok diem') :
    amount ≤ diem.token.balanceOf proxy ∧
      diem' = { diem with
        token := diem.token.move proxy diem.self amount
        stakedInfos := update diem.stakedInfos proxy
          { diem.stakedInfos proxy with
            amountStaked := (diem.stakedInfos proxy).amountStaked + amount } } := by
  replace h := rest_ok h
  replace h := uint_rest h
  obtain ⟨token, transferred, h⟩ := ran h
  obtain ⟨-, enough, rfl⟩ := transfer_eq_ok.mp transferred
  exact ⟨enough, (pure_eq_ok.mp h).symm⟩

theorem diemInitiateUnstake_eq_ok (h : diem.initiateUnstake now proxy amount = .ok diem') :
    amount ≤ (diem.stakedInfos proxy).amountStaked ∧
      diem' = { diem with
        stakedInfos := update diem.stakedInfos proxy
          ⟨(diem.stakedInfos proxy).amountStaked - amount, now + diem.cooldownDuration,
            (diem.stakedInfos proxy).coolDownAmount + amount⟩ } := by
  replace h := rest_ok h
  obtain ⟨_, enough, h⟩ := ran h
  replace h := uint_rest h
  replace h := uint_rest h
  exact ⟨require_eq_ok.mp enough, (pure_eq_ok.mp h).symm⟩

theorem diemUnstake_eq_ok (h : diem.unstake now proxy = .ok diem') :
    (diem.stakedInfos proxy).coolDownAmount ≤ diem.token.balanceOf diem.self ∧
      diem' = { diem with
        token := diem.token.move diem.self proxy (diem.stakedInfos proxy).coolDownAmount
        stakedInfos := update diem.stakedInfos proxy
          ⟨(diem.stakedInfos proxy).amountStaked, 0, 0⟩ } := by
  replace h := rest_ok h
  replace h := rest_ok h
  obtain ⟨token, transferred, h⟩ := ran h
  obtain ⟨-, enough, rfl⟩ := transfer_eq_ok.mp transferred
  exact ⟨enough, (pure_eq_ok.mp h).symm⟩

section

variable (h : Cooling proxy stakes diem)

include h

theorem Cooling.stake (staked : diem.stake proxy amount = .ok diem') :
    Cooling proxy (stakes.stake account amount) diem' := by
  obtain ⟨enough, rfl⟩ := diemStake_eq_ok staked
  have received : (diem.token.move proxy diem.self amount).balanceOf diem.self =
      diem.token.balanceOf diem.self + amount := by
    have moved := Erc20.move_balance enough diem.self diem.self
    rw [if_neg h.apart, if_pos rfl] at moved
    exact moved
  refine ⟨h.apart, ?_, ?_, ?_, h.unapproved, ?_⟩
  · have before := h.deposited
    simp only [update_self, Stakes.stake]
    omega
  · simp only [update_self]
    exact h.amount
  · simp only [update_self]
    exact h.ends
  · have before := h.backed
    simp only [update_self, received]
    omega

theorem Cooling.initiateUnstake (enough : amount ≤ stakes.totalStaked) :
    Cooling proxy (stakes.initiateUnstake account amount) diem := by
  have oldest : stakes.queue.oldest < stakes.queue.current →
      (stakes.queue.enqueue account amount).total stakes.queue.oldest =
        stakes.queue.total stakes.queue.oldest := by
    intro flushed
    exact update_of_ne (Nat.ne_of_lt flushed) _ _
  refine ⟨h.apart, ?_, ?_, ?_, h.unapproved, h.backed⟩
  · have before := h.deposited
    simp only [Stakes.initiateUnstake, enqueue, update_self]
    omega
  · rw [h.amount]
    by_cases flushed : stakes.queue.oldest < stakes.queue.current
    · rw [if_pos flushed]
      exact ((if_pos flushed).trans (oldest flushed)).symm
    · rw [if_neg flushed]
      exact (if_neg flushed).symm
  · intro flushed
    obtain ⟨ends, some⟩ := h.ends flushed
    refine ⟨ends, ?_⟩
    rw [← oldest flushed] at some
    exact some

theorem Cooling.flush
    (paidUp : stakes.queue.current = stakes.queue.oldest)
    (some : stakes.queue.total stakes.queue.current ≠ 0)
    (next : stakes.queue.total (stakes.queue.current + 1) = 0)
    (initiated : diem.initiateUnstake now proxy (stakes.queue.total stakes.queue.current) = .ok diem') :
    Cooling proxy (stakes.flush (now + diem.cooldownDuration)) diem' := by
  obtain ⟨enough, rfl⟩ := diemInitiateUnstake_eq_ok initiated
  have idle : (diem.stakedInfos proxy).coolDownAmount = 0 :=
    h.amount.trans (if_neg (by omega))
  have after : stakes.queue.oldest < stakes.queue.current + 1 := by omega
  refine ⟨h.apart, ?_, ?_, ?_, h.unapproved, ?_⟩
  · have before := h.deposited
    simp only [update_self, Stakes.flush, sealBatch, next]
    omega
  · refine Eq.trans ?_ (if_pos after).symm
    simp only [update_self, idle, Nat.zero_add, Stakes.flush, sealBatch]
    rw [paidUp]
  · intro _
    simp only [update_self, Stakes.flush, sealBatch, ← paidUp]
    exact ⟨trivial, some⟩
  · have before := h.backed
    simp only [update_self]
    omega

theorem Cooling.claim
    (flushed : stakes.queue.oldest < stakes.queue.current)
    (near : stakes.queue.current ≤ stakes.queue.oldest + 1)
    (unstaked : diem.unstake now proxy = .ok diem')
    (allowances : token.allowance = diem'.token.allowance)
    (kept : diem'.token.balanceOf diem.self ≤ token.balanceOf diem.self) :
    Cooling proxy stakes.claim { diem' with token := token } := by
  obtain ⟨enough, rfl⟩ := diemUnstake_eq_ok unstaked
  have spent : (diem.token.move diem.self proxy (diem.stakedInfos proxy).coolDownAmount).balanceOf
      diem.self + (diem.stakedInfos proxy).coolDownAmount = diem.token.balanceOf diem.self := by
    have moved := move_balance enough proxy diem.self
    rw [if_neg h.apart, if_pos rfl] at moved
    exact moved
  have after : ¬ stakes.queue.oldest + 1 < stakes.queue.current := by omega
  refine ⟨h.apart, ?_, ?_, fun more => absurd more after, ?_, ?_⟩
  · simp only [update_self]
    exact h.deposited
  · simp only [update_self]
    exact (if_neg after).symm
  · rw [allowances]
    exact h.unapproved
  · have before := h.backed
    dsimp only at kept
    simp only [update_self]
    omega

end

namespace DiemStakingProxy

variable {s s' : DiemStakingProxy} {ctx : ProxyContext} {batchId : Nat}

section

variable (h : Batched proxy queued paid s.stakes) (waiting : s.oldestUnclaimedUnstakeBatch ≤ batchId)

include h waiting

theorem amount_outside
    (outside : account ∉ s.unstakeBatchUsers batchId) : s.unstakeBatchUserAmount batchId account = 0 := by
  have recorded : s.unstakeBatchUserAmount batchId account = queued batchId account :=
    h.sound.amount_eq waiting account
  rw [recorded]
  by_contra some
  exact outside ((h.sound.members batchId account).mpr some)

theorem paidBy_batch :
    paidBy batchId (s.unstakeBatchUsers batchId) s = s.unstakeBatchUserAmount batchId := by
  funext account
  have distinct : (s.unstakeBatchUsers batchId).Nodup := h.sound.distinct batchId
  rw [paidBy_eq distinct]
  split
  · rfl
  next outside => exact (amount_outside h waiting outside).symm

end

def markClaimed (s : DiemStakingProxy) (batchId : Nat) : DiemStakingProxy :=
  { s with
    unstakeBatches := update s.unstakeBatches batchId { s.unstakeBatches batchId with claimed := true }
    oldestUnclaimedUnstakeBatch := batchId + 1 }

theorem claimable (h : Batched proxy queued paid s.stakes)
    (flushed : (s.unstakeBatches batchId).unlockAt ≠ 0)
    (first : (s.unstakeBatches batchId).claimed = false) :
    batchId = s.oldestUnclaimedUnstakeBatch ∧ s.oldestUnclaimedUnstakeBatch < s.currentUnstakeBatch := by
  have before : batchId < s.currentUnstakeBatch := by
    by_contra still
    exact flushed (h.unflushed batchId (Nat.le_of_not_lt still))
  have notPast : ¬ batchId < s.oldestUnclaimedUnstakeBatch := by
    intro past
    have numbered : 1 ≤ batchId := by
      rcases Nat.eq_zero_or_pos batchId with rfl | positive
      · exact absurd h.unnumbered.1 flushed
      · exact positive
    exact absurd (first.symm.trans (h.claimed batchId numbered past)) Bool.false_ne_true
  have near : s.currentUnstakeBatch ≤ s.oldestUnclaimedUnstakeBatch + 1 := h.sound.near
  omega

theorem stakes_settled (h : Batched proxy queued paid s.stakes) :
    ((s.markClaimed s.oldestUnclaimedUnstakeBatch).settleUsers s.oldestUnclaimedUnstakeBatch
      (s.unstakeBatchUsers s.oldestUnclaimedUnstakeBatch)).stakes = s.stakes.claim := by
  have entry : ∀ b, update s.unstakeBatches s.oldestUnclaimedUnstakeBatch
      { s.unstakeBatches s.oldestUnclaimedUnstakeBatch with claimed := true } b =
      { s.unstakeBatches b with
        claimed := if b = s.oldestUnclaimedUnstakeBatch then true else (s.unstakeBatches b).claimed } := by
    intro b
    by_cases here : b = s.oldestUnclaimedUnstakeBatch
    · subst here
      simp
    · simp [here]
  have cleared : (fun user => if user ∈ s.unstakeBatchUsers s.oldestUnclaimedUnstakeBatch then 0
      else s.unstakeBatchUserAmount s.oldestUnclaimedUnstakeBatch user) = fun _ => 0 := by
    funext user
    split
    · rfl
    next outside => exact amount_outside h (Nat.le_refl _) outside
  simp only [stakes, Stakes.claim, payOut, settleUsers, markClaimed, entry, cleared,
    Stakes.mk.injEq, true_and, and_true]
  funext b
  simp only [Function.update_apply]

/-- Everything a claim does. -/
structure Claimed (s s' : DiemStakingProxy) (diem diem' : Diem) (ctx : ProxyContext) (batchId : Nat) :
    Prop where
  oldest : batchId = s.oldestUnclaimedUnstakeBatch
  flushed : s.oldestUnclaimedUnstakeBatch < s.currentUnstakeBatch
  stakes : s'.stakes = s.stakes.claim
  diem : ∃ unstaked token, diem.unstake ctx.now ctx.self = .ok unstaked ∧
    diem' = { unstaked with token := token } ∧ token.allowance = unstaked.token.allowance ∧
    ∀ account, account ≠ ctx.self → token.balanceOf account =
      unstaked.token.balanceOf account + s.unstakeBatchUserAmount batchId account

theorem claimUnstakeBatch_claimed (batched : Batched ctx.self queued paid s.stakes)
    (h : s.claimUnstakeBatch diem ctx batchId = .ok (s', diem')) :
    Claimed s s' diem diem' ctx batchId := by
  replace h := rest_ok h
  obtain ⟨_, isReady, h⟩ := ran h
  obtain ⟨_, isFirst, h⟩ := ran h
  obtain ⟨oldest, isOldest, h⟩ := ran h
  obtain ⟨unstaked, unstaking, h⟩ := ran h
  obtain ⟨⟨settled, token⟩, paying, h⟩ := ran h
  cases h
  have ready := require_eq_ok.mp isReady
  obtain ⟨rfl, flushed⟩ := claimable batched (fun zero => ready (.inl zero)) (require_eq_ok.mp isFirst)
  rw [if_pos rfl] at isOldest
  obtain ⟨-, rfl⟩ := uint_eq_ok.mp isOldest
  have others := fun user inside => (batched.senders s.oldestUnclaimedUnstakeBatch user inside).2
  obtain ⟨isSettled, allowances, balances⟩ :=
    @payUsers_pays (s.markClaimed s.oldestUnclaimedUnstakeBatch) _ _ _ _ _ _ paying others
  refine ⟨rfl, flushed, ?_, unstaked, token, unstaking, rfl, allowances, fun account other => ?_⟩
  · rw [isSettled]
    exact stakes_settled batched
  · have distinct : (s.unstakeBatchUsers s.oldestUnclaimedUnstakeBatch).Nodup :=
      batched.sound.distinct _
    rw [balances account other]
    congr 1
    refine (paidBy_eq distinct account).trans ?_
    split
    · rfl
    next outside => exact (amount_outside batched (le_refl _) outside).symm

theorem claimUnstakeBatch_returns (batched : Batched ctx.self queued paid s.stakes)
    (cooling : Cooling ctx.self s.stakes diem) (somewhere : ctx.self ≠ 0)
    (flushed : (s.unstakeBatches batchId).unlockAt ≠ 0)
    (first : (s.unstakeBatches batchId).claimed = false)
    (elapsed : (s.unstakeBatches batchId).unlockAt ≤ ctx.now) :
    ∃ result, s.claimUnstakeBatch diem ctx batchId = .ok result := by
  obtain ⟨rfl, sealed⟩ := claimable batched flushed first
  obtain ⟨ends, some⟩ := cooling.ends sealed
  have bounded : s.currentUnstakeBatch < 2 ^ 32 := batched.bounded
  have amount : (diem.stakedInfos ctx.self).coolDownAmount =
      (s.unstakeBatches s.oldestUnclaimedUnstakeBatch).total := cooling.amount.trans (if_pos sealed)
  have backed := cooling.backed
  have ends : (diem.stakedInfos ctx.self).coolDownEnd =
      (s.unstakeBatches s.oldestUnclaimedUnstakeBatch).unlockAt := ends
  obtain ⟨unstaked, unstaking⟩ : ∃ unstaked, diem.unstake ctx.now ctx.self = .ok unstaked := by
    refine ⟨_, bind_eq_ok.mpr ⟨(), require_eq_ok.mpr (by rw [amount]; exact some), bind_eq_ok.mpr ⟨(),
      require_eq_ok.mpr (by rw [ends]; exact elapsed), bind_eq_ok.mpr ⟨_,
        transfer_eq_ok.mpr ⟨somewhere, by omega, rfl⟩, rfl⟩⟩⟩⟩
  have received : (s.unstakeBatches s.oldestUnclaimedUnstakeBatch).total ≤
      unstaked.token.balanceOf ctx.self := by
    obtain ⟨enough, rfl⟩ := diemUnstake_eq_ok unstaking
    have moved := move_balance enough ctx.self ctx.self
    rw [if_neg (Ne.symm cooling.apart), if_pos rfl] at moved
    dsimp only
    omega
  have sum : ((s.unstakeBatchUsers s.oldestUnclaimedUnstakeBatch).map
      (s.unstakeBatchUserAmount s.oldestUnclaimedUnstakeBatch)).sum =
      (s.unstakeBatches s.oldestUnclaimedUnstakeBatch).total :=
    batched.sound.sum_users (le_refl _)
  obtain ⟨⟨settled, token⟩, paying⟩ := @payUsers_returns
    (s.markClaimed s.oldestUnclaimedUnstakeBatch) s.oldestUnclaimedUnstakeBatch ctx.self
    (s.unstakeBatchUsers s.oldestUnclaimedUnstakeBatch) unstaked.token
    (batched.senders s.oldestUnclaimedUnstakeBatch) (batched.sound.distinct _)
    (le_trans (le_of_eq sum) received)
  refine ⟨(settled, { unstaked with token := token }), ?_⟩
  refine bind_eq_ok.mpr ⟨(), decode_eq_ok.mpr (by omega), bind_eq_ok.mpr ⟨(), require_eq_ok.mpr ?_,
    bind_eq_ok.mpr ⟨(), require_eq_ok.mpr first, bind_eq_ok.mpr ⟨s.oldestUnclaimedUnstakeBatch + 1, ?_,
      bind_eq_ok.mpr ⟨unstaked, unstaking, bind_eq_ok.mpr ⟨(settled, token), paying, rfl⟩⟩⟩⟩⟩⟩
  · rintro (zero | early)
    · exact flushed zero
    · exact absurd elapsed (Nat.not_le_of_lt early)
  · rw [if_pos rfl]
    exact uint_eq_ok.mpr ⟨by omega, rfl⟩

end DiemStakingProxy

/-- What an accepted call queues in, and what it pays out of, every batch. -/
def ProxyState.unstakeSums (s : ProxyState) :
    ProxyEvent → (Nat → Address → Nat) × (Nat → Address → Nat)
  | .call sender _ _ (.initiateUnstake amount) =>
    (entry s.proxy.currentUnstakeBatch sender amount, 0)
  | .call _ _ _ (.claimUnstakeBatch batchId) =>
    (0, entries batchId
      (paidBy batchId (s.proxy.unstakeBatchUsers batchId) s.proxy))
  | _ => 0

/-- Every flushed batch that is not claimed has a positive time of release. -/
def Stakes.Released (stakes : Stakes) : Prop :=
  ∀ b, stakes.queue.oldest ≤ b → b < stakes.queue.current → stakes.unlockAt b ≠ 0

/-- The accounts of the batches, after sums of what was queued and paid; `started` says that time
    started after zero. -/
structure Unstaking (proxy : Address) (started : Prop)
    (sums : (Nat → Address → Nat) × (Nat → Address → Nat)) (s : ProxyState) : Prop where
  batched : Batched proxy sums.1 sums.2 s.proxy.stakes
  cooling : Cooling proxy s.proxy.stakes s.diem
  ticking : started → 0 < s.now
  released : started → s.proxy.stakes.Released

variable {started : Prop} {sums : (Nat → Address → Nat) × (Nat → Address → Nat)} {s s' : ProxyState}

theorem Unstaking.unaffected (h : Unstaking proxy started sums s)
    (stakes : s'.proxy.stakes = s.proxy.stakes) (cooling : Cooling proxy s.proxy.stakes s'.diem)
    (now : s.now ≤ s'.now) : Unstaking proxy started (sums + 0) s' := by
  rw [add_zero]
  refine ⟨?_, ?_, fun isStarted => lt_of_lt_of_le (h.ticking isStarted) now, ?_⟩ <;> rw [stakes]
  · exact h.batched
  · exact cooling
  · exact h.released

theorem Unstaking.same (h : Unstaking proxy started sums s)
    (stakes : s'.proxy.stakes = s.proxy.stakes) (diem : s'.diem = s.diem) (now : s'.now = s.now) :
    Unstaking proxy started (sums + 0) s' :=
  h.unaffected stakes (diem ▸ h.cooling) (le_of_eq now.symm)

section Calls

variable {ctx : ProxyContext} {p' : DiemStakingProxy}

section

variable (h : Unstaking ctx.self started sums s)

include h

theorem Unstaking.stake (one : s.proxy.stake s.diem ctx amount = .ok (p', diem')) :
    Unstaking ctx.self started (sums + 0) { s with proxy := p', diem := diem' } := by
  obtain ⟨some, stakes, token, transferred, staked⟩ := stake_stakes one
  have kept : Cooling ctx.self s.proxy.stakes { s.diem with token := token } :=
    h.cooling.keeps (keeps_transferFrom transferred)
  rw [add_zero]
  refine ⟨?_, ?_, h.ticking, ?_⟩ <;> rw [stakes]
  · exact h.batched.stake ctx.sender some
  · exact kept.stake staked
  · exact h.released

theorem Unstaking.initiateUnstake (somebody : ctx.sender ≠ 0) (notSelf : ctx.sender ≠ ctx.self)
    (one : s.proxy.initiateUnstake ctx amount = .ok p') :
    Unstaking ctx.self started
      (sums + (entry s.proxy.currentUnstakeBatch ctx.sender amount, 0)) { s with proxy := p' } := by
  obtain ⟨some, enough, stakes⟩ := initiateUnstake_stakes one
  have staked : s.proxy.stakes.staked ctx.sender ≤ s.proxy.stakes.totalStaked := by
    rw [h.batched.total]
    exact single_le_sum (fun _ _ => zero_le _) (mem_univ ctx.sender)
  refine ⟨?_, ?_, h.ticking, ?_⟩ <;> rw [stakes]
  · rw [Prod.snd_add, add_zero]
    exact h.batched.initiateUnstake somebody notSelf some enough
  · exact h.cooling.initiateUnstake (le_trans enough staked)
  · exact h.released

theorem Unstaking.flush (now : ctx.now = s.now) (one : s.proxy.flush s.diem ctx = .ok (p', diem')) :
    Unstaking ctx.self started (sums + 0) { s with proxy := p', diem := diem' } := by
  have flushed := DiemStakingProxy.flush_flushed one
  have next : s.proxy.stakes.queue.total (s.proxy.stakes.queue.current + 1) = 0 := by
    rw [h.batched.sound.total]
    exact Finset.sum_eq_zero fun a _ => h.batched.sound.fresh _ (Nat.lt_succ_self _) a
  rw [add_zero]
  refine ⟨?_, ?_, h.ticking, fun isStarted => ?_⟩ <;> rw [flushed.stakes]
  · exact h.batched.flush flushed.paidUp flushed.next
  · exact h.cooling.flush flushed.paidUp flushed.some next flushed.diem
  · intro b waiting before
    have waiting : s.proxy.oldestUnclaimedUnstakeBatch ≤ b := waiting
    have before : b < s.proxy.currentUnstakeBatch + 1 := before
    have paidUp := flushed.paidUp
    have here : b = s.proxy.stakes.queue.current := show b = s.proxy.currentUnstakeBatch by omega
    have ticking := h.ticking isStarted
    simp only [Stakes.flush, here, update_self]
    omega

theorem Unstaking.claim (one : s.proxy.claimUnstakeBatch s.diem ctx batchId = .ok (p', diem')) :
    Unstaking ctx.self started
      (sums + (0, entries batchId (paidBy batchId (s.proxy.unstakeBatchUsers batchId) s.proxy)))
      { s with proxy := p', diem := diem' } := by
  obtain ⟨rfl, flushed, stakes, unstaked, token, unstaking, rfl, allowances, balances⟩ :=
    claimUnstakeBatch_claimed h.batched one
  refine ⟨?_, ?_, h.ticking, fun isStarted => ?_⟩ <;> rw [stakes]
  · rw [Prod.fst_add, add_zero, paidBy_batch h.batched (le_refl _)]
    exact h.batched.claim flushed
  · refine h.cooling.claim flushed h.batched.sound.near unstaking allowances ?_
    rw [balances _ h.cooling.apart]
    exact le_add_right _ _
  · intro b waiting before
    exact h.released isStarted b (le_of_succ_le waiting) before

theorem perform_unstaking (now : ctx.now = s.now)
    (somebody : ctx.sender ≠ 0) (notSelf : ctx.sender ≠ ctx.self) (taken : s.perform ctx op = .ok s') :
    Unstaking ctx.self started
      (sums + s.unstakeSums (.call ctx.sender ctx.payment ctx.emission op)) s' := by
  cases op with
  | stake =>
    obtain ⟨⟨proxy, diem⟩, one, taken⟩ := ran taken
    cases taken
    exact h.stake one
  | initiateUnstake =>
    obtain ⟨proxy, one, taken⟩ := ran taken
    cases taken
    exact h.initiateUnstake somebody notSelf one
  | flush =>
    obtain ⟨⟨proxy, diem⟩, one, taken⟩ := ran taken
    cases taken
    exact h.flush now one
  | claimUnstakeBatch =>
    obtain ⟨⟨proxy, diem⟩, one, taken⟩ := ran taken
    cases taken
    exact h.claim one
  | claimUsdc =>
    obtain ⟨⟨proxy, usdc⟩, one, taken⟩ := ran taken
    cases taken
    exact h.same (stakes_claimUsdc one) rfl rfl
  | claimAnts =>
    obtain ⟨⟨proxy, ants⟩, one, taken⟩ := ran taken
    cases taken
    exact h.same (stakes_claimAnts one) rfl rfl
  | catchUpPoints =>
    obtain ⟨proxy, one, taken⟩ := ran taken
    cases taken
    exact h.same (spares_catchUpPoints one).stakes rfl rfl
  | topUp | settle | close =>
    obtain ⟨⟨proxy, usdc⟩, one, taken⟩ := ran taken
    cases taken
    exact h.same (stakes_forwardRevenue one) rfl rfl
  | syncRewardEpochs =>
    obtain ⟨proxy, one, taken⟩ := ran taken
    cases taken
    replace one := rest_ok one
    replace one := rest_ok one
    obtain ⟨⟨synced, count⟩, bounded, one⟩ := ran one
    replace one := rest_ok one
    have same := (spares_syncBounded bounded).stakes
    cases one
    exact h.same same rfl rfl
  | sweepOrphanUsdc | withdrawAntseedStake =>
    obtain ⟨usdc, one, taken⟩ := ran taken
    cases taken
    exact h.same rfl rfl rfl
  | set =>
    obtain ⟨proxy, one, taken⟩ := ran taken
    cases taken
    exact h.same (stakes_set one) rfl rfl

end

end Calls

theorem step_unstaking (h : Unstaking proxy started sums s)
    (taken : s.step proxy event = .ok s') :
    Unstaking proxy started (sums + s.unstakeSums event) s' := by
  cases event with
  | call sender payment emission =>
    obtain ⟨_, outsider, taken⟩ := ran taken
    obtain ⟨notSelf, somebody⟩ := require_eq_ok.mp outsider
    have h : Unstaking (ProxyContext.mk sender proxy s.now s.epoch payment emission).self started
        sums s := h
    exact perform_unstaking h rfl somebody notSelf taken
  | elapse =>
    cases taken
    exact h.unaffected rfl h.cooling (le_add_right _ _)
  | epoch =>
    cases taken
    exact h.same rfl rfl rfl
  | usdcMint | antsMint =>
    obtain ⟨_, -, taken⟩ := ran taken
    cases taken
    exact h.same rfl rfl rfl
  | usdcTransfer | antsTransfer =>
    replace taken := rest_ok taken
    obtain ⟨_, -, taken⟩ := ran taken
    cases taken
    exact h.same rfl rfl rfl
  | diemMint =>
    obtain ⟨token, minted, taken⟩ := ran taken
    cases taken
    exact h.unaffected rfl (h.cooling.keeps (keeps_mint minted)) (le_refl _)
  | diemTransfer =>
    obtain ⟨_, outsider, taken⟩ := ran taken
    obtain ⟨token, transferred, taken⟩ := ran taken
    cases taken
    have other := (require_eq_ok.mp outsider).2
    exact h.unaffected rfl (h.cooling.keeps (keeps_transfer (Ne.symm other) transferred))
      (le_refl _)
  | diemApprove =>
    obtain ⟨_, outsider, taken⟩ := ran taken
    cases taken
    have other := (require_eq_ok.mp outsider).2
    exact h.unaffected rfl (h.cooling.keeps (keeps_approve (Ne.symm other))) (le_refl _)
  | diemCooldown =>
    cases taken
    exact h.unaffected rfl (h.cooling.keeps (.refl _ _)) (le_refl _)

theorem unstaking_construct
    (apart : diem.self ≠ proxy) (idle : diem.stakedInfos proxy = {})
    (unapproved : ∀ spender, diem.token.allowance diem.self spender = 0)
    (h : construct sender diemToken usdcToken registry operator antsToken emissions
      staking epoch = .ok p) :
    Unstaking proxy (0 < now) 0 ⟨now, epoch, p, diem, usdc, ants⟩ := by
  replace h := rest_ok h
  replace h := rest_ok h
  replace h := rest_ok h
  replace h := rest_ok h
  obtain ⟨_, -, h⟩ := ran h
  cases h
  refine ⟨⟨?_, ?_, sound_empty 1, fun _ _ => nofun, fun _ => rfl, (by decide : 1 < 2 ^ 32), fun _ _ => rfl,
    fun _ _ => rfl, fun b numbered past => ?_, le_refl _, rfl, fun _ => rfl⟩,
    ⟨apart, ?_, ?_, fun flushed => ?_, unapproved, ?_⟩, fun positive => positive, fun _ b waiting before => ?_⟩
  · exact sum_const_zero.symm
  · simp [stakes, stakers]
  · exact absurd numbered (Nat.not_le_of_lt past)
  · rw [idle]
    rfl
  · rw [idle]
    rfl
  · exact absurd flushed (lt_irrefl 1)
  · rw [idle]
    exact zero_le _
  · exact absurd (lt_of_le_of_lt waiting before) (lt_irrefl 1)

/-- Over every run of the proxy, with a DIEM token in which it starts with nothing: the stakes add
    up; a batch's total is what was queued in it, by distinct users; at most one flushed batch is
    unclaimed; what was queued is still recorded or was paid, and it is paid when its batch is
    claimed; and a batch that is ready can be claimed, which pays its users what they queued. -/
theorem unstake_batches_pay_once
    (self sender diemToken usdcToken registry operator antsToken emissions staking : Address)
    (now epoch : Nat) (proxy : DiemStakingProxy) (diem : Diem) (usdc ants : Erc20)
    (deployed : construct sender diemToken usdcToken registry operator antsToken
      emissions staking epoch = .ok proxy)
    (somewhere : self ≠ 0) (apart : diem.self ≠ self) (idle : diem.stakedInfos self = {})
    (unapproved : ∀ spender, diem.token.allowance diem.self spender = 0)
    (events : List ProxyEvent) :
    let start : ProxyState := ⟨now, epoch, proxy, diem, usdc, ants⟩
    let s := (proxyMachine self).run start events
    let sums := (proxyMachine self).tally ProxyState.unstakeSums start events
    let p := s.proxy
    (p.totalStaked = ∑ a, p.staked a ∧ p.stakerCount = stakers p.staked) ∧
    (∀ b, (p.unstakeBatches b).total = ∑ a, sums.1 b a ∧
      ((p.unstakeBatches b).claimed = false →
        (p.unstakeBatches b).total = ∑ a, p.unstakeBatchUserAmount b a)) ∧
    (∀ b, (p.unstakeBatchUsers b).Nodup ∧ ∀ a, a ∈ p.unstakeBatchUsers b ↔ sums.1 b a ≠ 0) ∧
    (p.oldestUnclaimedUnstakeBatch ≤ p.currentUnstakeBatch ∧
      p.currentUnstakeBatch ≤ p.oldestUnclaimedUnstakeBatch + 1) ∧
    (∀ b a, sums.1 b a = p.unstakeBatchUserAmount b a + sums.2 b a ∧
      ((p.unstakeBatches b).claimed = true → p.unstakeBatchUserAmount b a = 0) ∧
      ((p.unstakeBatches b).claimed = false → sums.2 b a = 0)) ∧
    (∀ b, (p.unstakeBatches b).unlockAt ≠ 0 → (p.unstakeBatches b).claimed = false →
      (p.unstakeBatches b).unlockAt ≤ s.now →
      ∀ caller payment emission, caller ≠ self ∧ caller ≠ 0 → ∃ s',
        s.step self (.call caller payment emission (.claimUnstakeBatch b)) = .ok s' ∧
        ∀ a, a ≠ self → a ≠ s.diem.self →
          s'.diem.token.balanceOf a = s.diem.token.balanceOf a + p.unstakeBatchUserAmount b a) ∧
    (0 < now → ∀ b, p.oldestUnclaimedUnstakeBatch ≤ b → b < p.currentUnstakeBatch →
      (p.unstakeBatches b).unlockAt ≠ 0) := by
  intro start s sums p
  have unstaking : Unstaking self (0 < now) (0 + sums) s :=
    (proxyMachine self).run_invariant_tally (fun _ _ _ _ => step_unstaking)
      (unstaking_construct apart idle unapproved deployed) events
  rw [zero_add] at unstaking
  obtain ⟨batched, cooling, -, released⟩ := unstaking
  have sound := batched.sound
  -- a batch that is not claimed is still waiting, or is not a batch at all
  have waiting : ∀ b, (p.unstakeBatches b).claimed = false →
      p.oldestUnclaimedUnstakeBatch ≤ b ∨ ∀ a, sums.1 b a = 0 := by
    intro b unclaimed
    by_contra neither
    rw [not_or] at neither
    have numbered : 1 ≤ b := by
      rcases Nat.eq_zero_or_pos b with rfl | positive
      · exact absurd batched.unnumbered.2 neither.2
      · exact positive
    exact absurd (unclaimed.symm.trans (batched.claimed b numbered (Nat.lt_of_not_le neither.1)))
      Bool.false_ne_true
  refine ⟨⟨batched.total, batched.count⟩, fun b => ⟨sound.total b, fun unclaimed => ?_⟩,
    fun b => ⟨sound.distinct b, sound.members b⟩, ⟨sound.reached, sound.near⟩,
    fun b a => ⟨sound.split b a, fun isClaimed => ?_, fun unclaimed => ?_⟩, ?_, released⟩
  · rcases waiting b unclaimed with waits | none
    · exact sound.total_waiting waits
    · have nothing : ∀ a, p.unstakeBatchUserAmount b a = 0 := fun a =>
        Nat.eq_zero_of_add_eq_zero_right ((sound.split b a).symm.trans (none a))
      rw [show (p.unstakeBatches b).total = _ from sound.total b]
      simp only [none, nothing]
  · refine sound.settled b ?_ a
    by_contra waits
    exact Bool.false_ne_true ((batched.unclaimed b (Nat.le_of_not_lt waits)).symm.trans isClaimed)
  · rcases waiting b unclaimed with waits | none
    · exact sound.unpaid b waits a
    · exact Nat.eq_zero_of_add_eq_zero_left ((sound.split b a).symm.trans (none a))
  · intro b flushed first ready caller payment emission outsider
    let ctx : ProxyContext := ⟨caller, self, s.now, s.epoch, payment, emission⟩
    have batched : Batched ctx.self sums.1 sums.2 p.stakes := batched
    have returns : ∃ result, p.claimUnstakeBatch s.diem ctx b = .ok result :=
      claimUnstakeBatch_returns batched cooling somewhere flushed first ready
    obtain ⟨⟨p', diem'⟩, returned⟩ := returns
    refine ⟨{ s with proxy := p', diem := diem' }, ?_, fun a other notToken => ?_⟩
    · exact bind_eq_ok.mpr ⟨(), require_eq_ok.mpr outsider, bind_eq_ok.mpr ⟨(p', diem'), returned, rfl⟩⟩
    · obtain ⟨-, -, -, unstaked, token, unstakes, rfl, -, balances⟩ :=
        claimUnstakeBatch_claimed batched returned
      obtain ⟨enough, rfl⟩ := diemUnstake_eq_ok unstakes
      have moved := move_balance enough self a
      rw [if_neg notToken, if_neg other] at moved
      exact (balances a other).trans (congrArg (· + p.unstakeBatchUserAmount b a) moved)

/-- Two accounts stake and unstake, one of them in two steps, the other also in the next batch; the
    first batch is flushed and claimed. -/
def twoBatches : List ProxyEvent :=
  [.diemMint ⟨5⟩ 100, .diemMint ⟨6⟩ 100, .diemApprove ⟨5⟩ ⟨100⟩ 100, .diemApprove ⟨6⟩ ⟨100⟩ 100,
    .call ⟨5⟩ none (fun _ => none) (.stake 100), .call ⟨6⟩ none (fun _ => none) (.stake 100),
    .call ⟨5⟩ none (fun _ => none) (.initiateUnstake 30),
    .call ⟨6⟩ none (fun _ => none) (.initiateUnstake 100),
    .call ⟨5⟩ none (fun _ => none) (.initiateUnstake 20), .elapse 86400,
    .call ⟨7⟩ none (fun _ => none) .flush, .call ⟨5⟩ none (fun _ => none) (.initiateUnstake 10),
    .elapse 86400, .call ⟨7⟩ none (fun _ => none) (.claimUnstakeBatch 1),
    .call ⟨7⟩ none (fun _ => none) (.claimUnstakeBatch 1)]

/-- The first batch has been paid once, the second one is still queued. -/
theorem twoBatches_paid : ∃ proxy,
    construct ⟨9⟩ ⟨50⟩ ⟨60⟩ ⟨1⟩ ⟨8⟩ ⟨2⟩ ⟨3⟩ ⟨4⟩ 0 = .ok proxy ∧
      let start : ProxyState :=
        ⟨1, 0, proxy, ⟨⟨50⟩, .empty, 86400, fun _ => {}⟩, .empty, .empty⟩
      let s := (proxyMachine ⟨100⟩).run start twoBatches
      let sums := (proxyMachine ⟨100⟩).tally ProxyState.unstakeSums start twoBatches
      s.diem.token.balanceOf ⟨5⟩ = 50 ∧ s.diem.token.balanceOf ⟨6⟩ = 100 ∧
        sums.1 1 ⟨5⟩ = 50 ∧ s.proxy.unstakeBatchUserAmount 2 ⟨5⟩ = 10 ∧
        s.proxy.totalStaked = ∑ a, s.proxy.staked a ∧
        sums.1 1 ⟨5⟩ = s.proxy.unstakeBatchUserAmount 1 ⟨5⟩ + sums.2 1 ⟨5⟩ := by
  refine ⟨_, rfl, ?_⟩
  have paid := unstake_batches_pay_once ⟨100⟩ ⟨9⟩ ⟨50⟩ ⟨60⟩ ⟨1⟩ ⟨8⟩ ⟨2⟩ ⟨3⟩ ⟨4⟩ 1 0 _
    ⟨⟨50⟩, .empty, 86400, fun _ => {}⟩ .empty .empty rfl (by decide) (by decide) rfl (fun _ => rfl) twoBatches
  exact ⟨by decide +kernel, by decide +kernel, by decide +kernel, by decide +kernel, paid.1.1,
    (paid.2.2.2.2.1 1 ⟨5⟩).1⟩

end AntSeed.Staking
