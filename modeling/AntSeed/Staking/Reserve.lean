import AntSeed.Lib.Dividends
import AntSeed.Staking.DiemStakingProxy

/-! # What the USDC reserve of DiemStakingProxy covers

The USDC side of the proxy is a dividend index. A distribution sets aside what it
raises the index by, rounded down; a staker's share is rounded down only when
the staker is settled. So the reserve covers what stakers have earned exactly as
long as distributions have dropped no more than stakers have.
-/

namespace AntSeed.Staking

open Evm Function
open Meets DiemStakingProxy
open Dividends

namespace DiemStakingProxy

variable {s s' : DiemStakingProxy} {ctx : ProxyContext} {account : Address}

def books (s : DiemStakingProxy) : Dividends Address where
  perShare := s.usdcRewardPerTokenStored
  settled := s.userUsdcRewardPerTokenPaid
  owed := s.usdcRewards
  shares := s.staked
  totalShares := s.totalStaked
  reserved := s.totalUsdcReservedForStakers

theorem earnedUsdc_eq_ok {v : Nat} (h : s.earnedUsdc account = .ok v) :
    v = s.books.earned ray account := by
  obtain ⟨growth, grown, h⟩ := ran h
  replace h := uint_rest h
  obtain ⟨-, rfl⟩ := sub_eq_ok.mp grown
  exact (uint_eq_ok.mp h).2.symm

def NotUnderflow (r : Revert ProxyError) : Prop := r ≠ .underflow

theorem updateUsdcForUser_returns_iff (somebody : account ≠ 0) :
    (∃ s', s.updateUsdcForUser account = .ok s') ↔
      s.books.settled account ≤ s.books.perShare ∧ s.books.pending account < 2 ^ 256 ∧
        s.books.earned ray account < 2 ^ 256 := by
  unfold updateUsdcForUser
  rw [if_pos somebody]
  constructor
  · rintro ⟨s', h⟩
    obtain ⟨growth, grown, h⟩ := ran h
    obtain ⟨scaled, fits, h⟩ := ran h
    obtain ⟨rewards, room, h⟩ := ran h
    obtain ⟨settled, rfl⟩ := sub_eq_ok.mp grown
    obtain ⟨small, rfl⟩ := uint_eq_ok.mp fits
    exact ⟨settled, small, (uint_eq_ok.mp room).1⟩
  · rintro ⟨settled, small, room⟩
    exact ⟨_, bind_eq_ok.mpr ⟨_, sub_eq_ok.mpr ⟨settled, rfl⟩,
      bind_eq_ok.mpr ⟨_, uint_fits small, bind_eq_ok.mpr ⟨_, uint_fits room, rfl⟩⟩⟩⟩

theorem books_updateUsdcForUser (somebody : account ≠ 0) (h : s.updateUsdcForUser account = .ok s') :
    s'.books = s.books.touch ray account := by
  unfold updateUsdcForUser at h
  rw [if_pos somebody] at h
  obtain ⟨growth, grown, h⟩ := ran h
  replace h := uint_rest h
  replace h := uint_rest h
  obtain ⟨-, rfl⟩ := sub_eq_ok.mp grown
  cases h
  dsimp only [books, touch, earned, pending]
  split
  · rfl
  next none =>
    have same : s.staked account * (s.usdcRewardPerTokenStored -
        s.userUsdcRewardPerTokenPaid account) / ray = 0 := Nat.eq_zero_of_not_pos none
    rw [same, Nat.add_zero, Function.update_eq_self]

theorem updateUsdcForUser_meets (settled : ∀ a, s.books.settled a ≤ s.books.perShare) :
    Meets (s.updateUsdcForUser account) NotUnderflow fun s' =>
      s'.books = if account = 0 then s.books else s.books.touch ray account := by
  by_cases nobody : account = 0
  · rw [if_pos nobody]
    exact .ite (fun somebody => absurd nobody somebody) fun _ => pure rfl
  · rw [if_neg nobody]
    have reverts : Meets (s.updateUsdcForUser account) NotUnderflow fun _ => True :=
      ite (fun _ => sub (settled account) (uint nofun fun _ => uint nofun fun _ => pure trivial))
        fun _ => pure trivial
    exact reverts.strengthen fun s' updated _ => books_updateUsdcForUser nobody updated

theorem books_closeRewardEpoch (s : DiemStakingProxy) : s.closeRewardEpoch.books = s.books := rfl

theorem books_syncRewardEpochsUntil (s : DiemStakingProxy) (target : Nat) :
    (s.syncRewardEpochsUntil target).books = s.books := by
  unfold syncRewardEpochsUntil
  generalize target - s.syncedRewardEpoch = rounds
  induction rounds generalizing s with
  | zero => rfl
  | succ rounds ih => rw [Function.iterate_succ_apply, ih, books_closeRewardEpoch]

theorem finalizedRewardEpoch_meets : Meets (finalizedRewardEpoch ctx) NotUnderflow fun _ => True :=
  require nofun fun _ => pure trivial

theorem syncForUpdate_meets : Meets (s.syncFinalizedRewardEpochsForUpdate ctx) NotUnderflow fun s' =>
    s'.books = s.books :=
  bind finalizedRewardEpoch_meets fun _ _ =>
    require nofun fun _ => pure (books_syncRewardEpochsUntil s _)

theorem addUserPoints_meets {epoch stake segStart segEnd : Nat} :
    Meets (s.addUserPoints account epoch stake segStart segEnd) NotUnderflow fun s' =>
      s'.books = s.books :=
  ite (fun _ => pure rfl) fun _ =>
    uint nofun fun _ => uint nofun fun _ => pure rfl

theorem addClosedPoints_meets {stake userEp userSnap count epoch : Nat} :
    Meets (addClosedPoints account stake userEp userSnap count epoch s) NotUnderflow fun s' =>
      s'.books = s.books := by
  induction count generalizing epoch s with
  | zero => exact .pure rfl
  | succ count ih =>
    exact .bind addUserPoints_meets fun t same => ih.mono fun _ kept => kept.trans same

theorem captureUserPoints_meets : Meets (s.captureUserPoints account) NotUnderflow fun s' =>
    s'.books = s.books := by
  refine .ite (fun _ => pure rfl) fun _ => ite (fun _ => pure rfl) fun _ => ?_
  refine .require nofun fun _ => bind addClosedPoints_meets fun t closed => ?_
  exact .bind addUserPoints_meets fun u opened => pure (opened.trans closed)

theorem updateRewards_meets (settled : ∀ a, s.books.settled a ≤ s.books.perShare) :
    Meets (s.updateRewards ctx account) NotUnderflow fun s' =>
      s'.books = if account = 0 then s.books else s.books.touch ray account := by
  refine .bind (updateUsdcForUser_meets settled) fun t touched => ?_
  refine .bind syncForUpdate_meets fun u synced => ?_
  exact captureUserPoints_meets.mono fun v captured => by rw [captured, synced, touched]

variable {dropped rounded : Nat}

theorem balanced_updateRewards (h : s.books.Balanced ray dropped rounded)
    (somebody : account ≠ 0) (updated : s.updateRewards ctx account = .ok s') :
    s'.books = s.books.touch ray account := by
  rw [(updateRewards_meets h.settled).result updated, if_neg somebody]

theorem touched_settled (d : Dividends Address) (a : Address) :
    (d.touch ray a).settled a = (d.touch ray a).perShare := by
  simp [touch]

variable {amount : Nat} {ants ants' : Erc20} {epochs : List Nat} {self : Address}

/-- Everything a stake writes, and the tokens it moves. -/
theorem stake_eq (taken : s.stake diem ctx amount = .ok (s', diem')) : amount ≠ 0 ∧ ∃ t token,
    s.updateRewards ctx ctx.sender = .ok t ∧
    diem.token.transferFrom ctx.self ctx.sender ctx.self amount = (.ok token : Tx ProxyError Erc20) ∧
    Diem.stake { diem with token := token } ctx.self amount = .ok diem' ∧
    s' = { t with
      stakerCount := if t.staked ctx.sender = 0 then t.stakerCount + 1 else t.stakerCount
      staked := update t.staked ctx.sender (t.staked ctx.sender + amount)
      totalStaked := t.totalStaked + amount } := by
  replace taken := rest_ok taken
  obtain ⟨t, updated, taken⟩ := ran taken
  obtain ⟨_, some, taken⟩ := ran taken
  replace taken := uint_rest taken
  replace taken := rest_ok taken
  replace taken := uint_rest taken
  replace taken := uint_rest taken
  obtain ⟨token, moved, taken⟩ := ran taken
  obtain ⟨next, staked, taken⟩ := ran taken
  cases taken
  exact ⟨require_eq_ok.mp some, t, token, updated, moved, staked, rfl⟩

theorem balanced_stake (h : s.books.Balanced ray dropped rounded)
    (somebody : ctx.sender ≠ 0) (taken : s.stake diem ctx amount = .ok (s', diem')) :
    s'.books.Balanced ray dropped (rounded + s.books.pending ctx.sender % ray) ∧
      ∀ a, s'.books.earned ray a = s.books.earned ray a := by
  obtain ⟨-, t, -, updated, -, -, rfl⟩ := stake_eq taken
  have touched := balanced_updateRewards h somebody updated
  have fresh : t.books.settled ctx.sender = t.books.perShare := touched ▸ touched_settled s.books ctx.sender
  have balanced : t.books.Balanced ray dropped _ := touched ▸ h.touch ctx.sender
  refine ⟨balanced.setShares (k := ctx.sender) fresh ?_, fun a => ?_⟩
  · change t.totalStaked + amount + t.staked ctx.sender = t.totalStaked + (t.staked ctx.sender + amount)
    omega
  · exact (earned_setShares fresh a).trans (touched ▸ earned_touch s.books ctx.sender a)

theorem books_joinBatch (h : s.joinBatch batchId user = .ok s') :
    s'.books = s.books := by
  unfold joinBatch at h
  split at h
  · replace h := rest_ok h
    obtain ⟨_, -, h⟩ := ran h
    cases h
    rfl
  · cases h
    rfl

theorem balanced_initiateUnstake (h : s.books.Balanced ray dropped rounded)
    (somebody : ctx.sender ≠ 0) (taken : s.initiateUnstake ctx amount = .ok s') :
    s'.books.Balanced ray dropped (rounded + s.books.pending ctx.sender % ray) ∧
      ∀ a, s'.books.earned ray a = s.books.earned ray a := by
  replace taken := rest_ok taken
  obtain ⟨t, updated, taken⟩ := ran taken
  replace taken := rest_ok taken
  replace taken := rest_ok taken
  obtain ⟨u, joined, taken⟩ := ran taken
  obtain ⟨newStake, isStake, taken⟩ := ran taken
  obtain ⟨newTotal, isTotal, taken⟩ := ran taken
  obtain ⟨count, -, taken⟩ := ran taken
  obtain ⟨amt128, -, taken⟩ := ran taken
  obtain ⟨queued, -, taken⟩ := ran taken
  obtain ⟨total, -, taken⟩ := ran taken
  cases taken
  obtain ⟨enough, rfl⟩ := sub_eq_ok.mp isStake
  obtain ⟨covered, rfl⟩ := sub_eq_ok.mp isTotal
  have touched : u.books = s.books.touch ray ctx.sender :=
    (books_joinBatch joined).trans (balanced_updateRewards h somebody updated)
  have fresh : u.books.settled ctx.sender = u.books.perShare := touched ▸ touched_settled s.books ctx.sender
  have balanced : u.books.Balanced ray dropped _ := touched ▸ h.touch ctx.sender
  refine ⟨balanced.setShares (k := ctx.sender) fresh ?_, fun a => ?_⟩
  · change u.totalStaked - amount + u.staked ctx.sender = u.totalStaked + (u.staked ctx.sender - amount)
    omega
  · exact (earned_setShares fresh a).trans (touched ▸ earned_touch s.books ctx.sender a)

/-- Everything a claim of USDC writes, and the tokens it moves. -/
theorem claimUsdc_eq (taken : s.claimUsdc usdc ctx = .ok (s', usdc')) : ∃ t,
    s.updateRewards ctx ctx.sender = .ok t ∧ t.books.owed ctx.sender ≤ t.books.reserved ∧
    s' = { t with
      usdcRewards := update t.usdcRewards ctx.sender 0
      totalUsdcReservedForStakers := t.totalUsdcReservedForStakers - t.usdcRewards ctx.sender } ∧
    usdc.transfer ctx.self ctx.sender (t.books.owed ctx.sender) = (.ok usdc' : Tx ProxyError Erc20) := by
  replace taken := rest_ok taken
  obtain ⟨t, updated, taken⟩ := ran taken
  replace taken := rest_ok taken
  obtain ⟨reserved, isReserved, taken⟩ := ran taken
  obtain ⟨paid, moved, taken⟩ := ran taken
  cases taken
  obtain ⟨enough, rfl⟩ := sub_eq_ok.mp isReserved
  exact ⟨t, updated, enough, rfl, moved⟩

theorem balanced_claimUsdc (h : s.books.Balanced ray dropped rounded)
    (somebody : ctx.sender ≠ 0) (taken : s.claimUsdc usdc ctx = .ok (s', usdc')) :
    s'.books.Balanced ray dropped (rounded + s.books.pending ctx.sender % ray) ∧
      ∀ a, ctx.sender ≠ a → s'.books.earned ray a = s.books.earned ray a := by
  obtain ⟨t, updated, enough, rfl, -⟩ := claimUsdc_eq taken
  have touched := balanced_updateRewards h somebody updated
  have balanced : t.books.Balanced ray dropped _ := touched ▸ h.touch ctx.sender
  refine ⟨balanced.pay enough, fun a other => ?_⟩
  change (t.books.pay ctx.sender).earned ray a = _
  rw [touched, earned_pay other.symm, earned_touch]

theorem claimUsdc_quoted (somebody : ctx.sender ≠ 0) (h : s.books.Balanced ray dropped rounded)
    (taken : s.claimUsdc usdc ctx = .ok (s', usdc')) :
    s.earnedUsdc ctx.sender = .ok (s.books.earned ray ctx.sender) ∧
      s'.earnedUsdc ctx.sender = .ok 0 ∧
      usdc.transfer ctx.self ctx.sender (s.books.earned ray ctx.sender) =
        (.ok usdc' : Tx ProxyError Erc20) := by
  obtain ⟨t, updated, -, rfl, moved⟩ := claimUsdc_eq taken
  have touched := balanced_updateRewards h somebody updated
  have owed : t.books.owed ctx.sender = s.books.earned ray ctx.sender := by simp [touched, touch]
  obtain ⟨t', first, -⟩ := ran updated
  obtain ⟨settled, small, room⟩ := (updateUsdcForUser_returns_iff somebody).mp ⟨t', first⟩
  refine ⟨?_, ?_, owed ▸ moved⟩
  · exact bind_eq_ok.mpr ⟨_, sub_eq_ok.mpr ⟨settled, rfl⟩, bind_eq_ok.mpr ⟨_, uint_fits small, uint_fits room⟩⟩
  · have fresh : t.books.settled ctx.sender = t.books.perShare := touched ▸ touched_settled s.books ctx.sender
    have idle : (t.books.pay ctx.sender).pending ctx.sender = 0 := by simp [pending, pay, fresh]
    have nothing : (t.books.pay ctx.sender).earned ray ctx.sender = 0 := by
      rw [earned, idle]
      simp [pay]
    refine bind_eq_ok.mpr ⟨_, sub_eq_ok.mpr ⟨fresh.le, rfl⟩, bind_eq_ok.mpr ⟨_, uint_fits ?_, ?_⟩⟩
    · exact idle.trans_lt (Nat.two_pow_pos 256)
    · exact (uint_fits (nothing.trans_lt (Nat.two_pow_pos 256))).trans (congrArg Except.ok nothing)

theorem epochPot_frame (h : s.epochPot ants ctx rewardEpoch = .ok (s', ants', pot)) :
    ∃ epochs, s' = { s with rewardEpochs := epochs } := by
  unfold epochPot at h
  split at h
  · cases h
    exact ⟨s.rewardEpochs, rfl⟩
  · obtain ⟨⟨collected, gross⟩, -, h⟩ := ran h
    obtain ⟨⟨charged, net⟩, -, h⟩ := ran h
    cases h
    exact ⟨_, rfl⟩

/-- All that one epoch of a claim writes: the mark that it is claimed, the reward epochs and the
    points. -/
theorem claimEpoch_frame (h : s.claimEpoch ants ctx epoch = .ok (s', ants', paid)) :
    ∃ epochs points,
      let claimed := update s.userEpochClaimed ctx.sender
        (update (s.userEpochClaimed ctx.sender) epoch true)
      s' = { s with userEpochClaimed := claimed, rewardEpochs := epochs, userPoints := points } := by
  unfold claimEpoch at h
  dsimp only at h
  split at h
  · cases h
    exact ⟨s.rewardEpochs, s.userPoints, rfl⟩
  split at h
  · cases h
    exact ⟨s.rewardEpochs, _, rfl⟩
  obtain ⟨⟨t, funded, pot⟩, isPot, h⟩ := ran h
  obtain ⟨epochs, rfl⟩ := epochPot_frame isPot
  split at h
  · cases h
    exact ⟨epochs, _, rfl⟩
  · obtain ⟨scaled, -, h⟩ := ran h
    obtain ⟨share, -, h⟩ := ran h
    cases h
    exact ⟨epochs, _, rfl⟩

theorem books_claimEpochs
    (h : claimEpochs ctx epochs s ants total processed = .ok (s', ants', total', processed')) :
    s'.books = s.books := by
  induction epochs generalizing s ants total processed with
  | nil =>
    cases h
    rfl
  | cons epoch epochs ih =>
    unfold claimEpochs at h
    split at h
    · exact ih h
    · obtain ⟨⟨t, claimed, paid⟩, one, h⟩ := ran h
      obtain ⟨sum, -, h⟩ := ran h
      obtain ⟨epochs, points, rfl⟩ := claimEpoch_frame one
      exact (ih h).trans rfl

theorem books_syncForClaim (h : s.syncForClaim target = .ok s') : s'.books = s.books := by
  unfold syncForClaim at h
  split at h
  · replace h := rest_ok h
    cases h
    exact books_syncRewardEpochsUntil s target
  · cases h
    rfl

theorem books_claimAnts (somebody : ctx.sender ≠ 0)
    (taken : s.claimAnts ants ctx epochs = .ok (s', ants')) : s'.books = s.books.touch ray ctx.sender := by
  replace taken := rest_ok taken
  replace taken := rest_ok taken
  obtain ⟨target, -, taken⟩ := ran taken
  obtain ⟨finalized, -, taken⟩ := ran taken
  replace taken := rest_ok taken
  obtain ⟨t, updated, taken⟩ := ran taken
  obtain ⟨u, synced, taken⟩ := ran taken
  obtain ⟨v, captured, taken⟩ := ran taken
  obtain ⟨⟨w, claimed, total, processed⟩, loop, taken⟩ := ran taken
  replace taken := rest_ok taken
  have touched : w.books = s.books.touch ray ctx.sender := by
    rw [books_claimEpochs loop, captureUserPoints_meets.result captured,
      books_syncForClaim synced, books_updateUsdcForUser somebody updated]
  have final : s'.books = w.books := by
    split at taken
    · obtain ⟨_, -, taken⟩ := ran taken
      cases taken
      rfl
    · cases taken
      rfl
  rw [final, touched]

theorem books_syncBounded (h : s.syncFinalizedRewardEpochsBounded ctx maxEpochs = .ok (s', synced)) :
    s'.books = s.books := by
  obtain ⟨finalized, -, h⟩ := ran h
  obtain ⟨requested, -, h⟩ := ran h
  dsimp only at h
  generalize (if requested > finalized then finalized else requested) = target at h
  split at h
  · cases h
    exact books_syncRewardEpochsUntil s target
  · cases h
    rfl

theorem books_catchUpPoints (somebody : ctx.sender ≠ 0)
    (taken : s.catchUpPoints ctx numEpochs = .ok s') :
    s'.books = s.books.touch ray ctx.sender := by
  replace taken := rest_ok taken
  replace taken := rest_ok taken
  replace taken := rest_ok taken
  obtain ⟨t, updated, taken⟩ := ran taken
  obtain ⟨⟨u, closed⟩, synced, taken⟩ := ran taken
  obtain ⟨requested, -, taken⟩ := ran taken
  replace taken := rest_ok taken
  obtain ⟨v, added, taken⟩ := ran taken
  obtain ⟨last, -, taken⟩ := ran taken
  cases taken
  change v.books = _
  rw [addClosedPoints_meets.result added, books_syncBounded synced,
    books_updateUsdcForUser somebody updated]

/-- What a payment leaves for the stakers after the operator's fee. -/
def netPayout (s : DiemStakingProxy) (self payer : Address) (amount : Nat) : Nat :=
  let gross := if payer = self then 0 else amount
  gross - gross * s.operatorFeeBps / feeDenominator

/-- The fraction of a unit that the reserve drops when a payment is distributed. -/
def reserveFraction (s : DiemStakingProxy) (self : Address) : Option (Address × Nat) → Nat
  | none => 0
  | some (payer, amount) =>
    s.netPayout self payer amount * ray / s.totalStaked * s.totalStaked % ray

/-- The fraction of a unit that a staker drops when it is settled. -/
def stakerFraction (s : DiemStakingProxy) (account : Address) : Nat := s.books.pending account % ray

theorem collect_eq_ok
    (h : collect token self payment = .ok (token', gross)) :
    ∃ payer amount, payment = some (payer, amount) ∧ gross = if payer = self then 0 else amount := by
  obtain ⟨⟨payer, amount⟩, answered, h⟩ := ran h
  obtain ⟨paid, moved, h⟩ := ran h
  obtain ⟨received, isReceived, h⟩ := ran h
  cases h
  obtain ⟨-, enough, rfl⟩ := Erc20.transfer_eq_ok.mp moved
  obtain ⟨-, rfl⟩ := sub_eq_ok.mp isReceived
  refine ⟨payer, amount, answer_eq_ok.mp answered, ?_⟩
  by_cases own : payer = self
  · subst own
    simp [Erc20.move]
    omega
  · simp [Erc20.move, own, Ne.symm own]

theorem takeOperatorFee_eq_ok
    (h : s.takeOperatorFee token self gross = .ok (token', net)) :
    net = gross - gross * s.operatorFeeBps / feeDenominator := by
  obtain ⟨fee, isFee, h⟩ := ran h
  replace isFee := uint_rest isFee
  cases isFee
  split at h
  next free =>
    cases h
    omega
  · obtain ⟨paid, -, h⟩ := ran h
    obtain ⟨rest, isRest, h⟩ := ran h
    cases h
    exact (sub_eq_ok.mp isRest).2.symm

theorem books_distributeUsdcInstant (h : s.distributeUsdcInstant ctx amount = .ok s') :
    s'.books = s.books.distribute ray (amount * ray / s.totalStaked) := by
  unfold distributeUsdcInstant at h
  split at h
  next idle =>
    cases h
    have none : amount * ray / s.totalStaked = 0 := by
      rcases idle with zero | zero
      · simp [zero]
      · simp [zero]
    simp [none, distribute, books]
  · obtain ⟨t, synced, h⟩ := ran h
    replace h := uint_rest h
    obtain ⟨delta, isDelta, h⟩ := ran h
    obtain ⟨-, rfl⟩ := div_eq_ok.mp isDelta
    have same := syncForUpdate_meets.result synced
    have stakes : t.totalStaked = s.totalStaked := congrArg totalShares same
    rw [stakes] at h
    rw [← same]
    split at h
    next nothing =>
      cases h
      simp [nothing, distribute]
    · replace h := uint_rest h
      replace h := uint_rest h
      obtain ⟨points, -, h⟩ := ran h
      replace h := uint_rest h
      obtain ⟨ever, -, h⟩ := ran h
      cases h
      simp only [books, distribute, stakes]

theorem forwardRevenue_eq (taken : s.forwardRevenue usdc ctx = .ok (s', usdc')) : ∃ net,
    s.distributeUsdcInstant ctx net = .ok s' ∧
      s.reserveFraction ctx.self ctx.payment = net * ray / s.totalStaked * s.totalStaked % ray := by
  replace taken := rest_ok taken
  replace taken := rest_ok taken
  obtain ⟨⟨collected, gross⟩, isGross, taken⟩ := ran taken
  obtain ⟨⟨charged, net⟩, isNet, taken⟩ := ran taken
  obtain ⟨t, distributed, taken⟩ := ran taken
  cases taken
  obtain ⟨payer, amount, isPayment, rfl⟩ := collect_eq_ok isGross
  refine ⟨net, distributed, ?_⟩
  rw [isPayment, takeOperatorFee_eq_ok isNet]
  rfl

theorem balanced_forwardRevenue (h : s.books.Balanced ray dropped rounded)
    (taken : s.forwardRevenue usdc ctx = .ok (s', usdc')) :
    s'.books.Balanced ray (dropped + s.reserveFraction ctx.self ctx.payment) rounded ∧
      ∀ a, s.books.earned ray a ≤ s'.books.earned ray a := by
  obtain ⟨net, distributed, fraction⟩ := forwardRevenue_eq taken
  rw [books_distributeUsdcInstant distributed, fraction]
  exact ⟨h.distribute (net * ray / s.totalStaked), earned_distribute s.books _⟩

end DiemStakingProxy

/-- The fractions of a unit, in parts of `ray`, that an event drops from the reserve and from a
    staker. -/
def ProxyState.fractions (self : Address) (s : ProxyState) : ProxyEvent → Nat × Nat
  | .call sender payment _ op =>
    match op with
    | .topUp | .settle | .close => (s.proxy.reserveFraction self payment, 0)
    | .stake _ | .initiateUnstake _ | .claimUsdc | .claimAnts _ | .catchUpPoints _ =>
      (0, s.proxy.stakerFraction sender)
    | _ => (0, 0)
  | _ => (0, 0)

/-- The books balance, for what has been dropped from the reserve and from stakers. -/
def Accounted (dropped : Nat × Nat) (s : ProxyState) : Prop :=
  s.proxy.books.Balanced ray dropped.1 dropped.2

variable {p p' : DiemStakingProxy} {self : Address}

theorem payUsers_books
    (h : payUsers self batchId users p token = .ok (p', token')) :
    p'.books = p.books := by
  induction users generalizing p token with
  | nil =>
    cases h
    rfl
  | cons user users ih =>
    obtain ⟨_, -, h⟩ := ran h
    exact (ih h).trans rfl

theorem set_books (h : p.set sender setting = .ok p') : p'.books = p.books := by
  replace h := rest_ok h
  cases setting with
  | operatorFee =>
    replace h := rest_ok h
    replace h := rest_ok h
    cases h
    rfl
  | operator | minUnstakeBatchOpenSecs | pause | unpause | transferOwnership =>
    replace h := rest_ok h
    cases h
    rfl
  | maxTotalStake | renounceOwnership =>
    cases h
    rfl

def ProxyEvent.ClaimsUsdc (account : Address) : ProxyEvent → Prop
  | .call sender _ _ .claimUsdc => sender = account
  | _ => False

/-- What an account has earned falls only when it claims. -/
def Spares (event : ProxyEvent) (s s' : ProxyState) : Prop :=
  ∀ a, ¬ event.ClaimsUsdc a → s.proxy.books.earned ray a ≤ s'.proxy.books.earned ray a

theorem perform_books (h : Accounted dropped s) (somebody : ctx.sender ≠ 0) (taken : s.perform ctx op = .ok s') :
    let event : ProxyEvent := .call ctx.sender ctx.payment ctx.emission op
    Accounted (dropped + s.fractions ctx.self event) s' ∧ Spares event s s' := by
  intro event
  have same : s'.proxy.books = s.proxy.books → Accounted dropped s' ∧ Spares event s s' := by
    intro same
    unfold Accounted Spares
    rw [same]
    exact ⟨h, fun _ _ => le_refl _⟩
  have touched : s'.proxy.books = s.proxy.books.touch ray ctx.sender →
      Accounted (dropped + (0, s.proxy.stakerFraction ctx.sender)) s' ∧ Spares event s s' := by
    intro touched
    unfold Accounted Spares
    rw [touched]
    exact ⟨h.touch ctx.sender, fun a _ => le_of_eq (earned_touch s.proxy.books ctx.sender a).symm⟩
  cases op with
  | stake =>
    obtain ⟨⟨proxy, diem⟩, one, taken⟩ := ran taken
    cases taken
    obtain ⟨balanced, kept⟩ := balanced_stake h somebody one
    exact ⟨balanced, fun a _ => le_of_eq (kept a).symm⟩
  | initiateUnstake =>
    obtain ⟨proxy, one, taken⟩ := ran taken
    cases taken
    obtain ⟨balanced, kept⟩ := balanced_initiateUnstake h somebody one
    exact ⟨balanced, fun a _ => le_of_eq (kept a).symm⟩
  | claimUsdc =>
    obtain ⟨⟨proxy, usdc⟩, one, taken⟩ := ran taken
    cases taken
    obtain ⟨balanced, kept⟩ := balanced_claimUsdc h somebody one
    exact ⟨balanced, fun a other => le_of_eq (kept a other).symm⟩
  | claimAnts =>
    obtain ⟨⟨proxy, ants⟩, one, taken⟩ := ran taken
    cases taken
    exact touched (books_claimAnts somebody one)
  | catchUpPoints =>
    obtain ⟨proxy, one, taken⟩ := ran taken
    cases taken
    exact touched (books_catchUpPoints somebody one)
  | topUp | settle | close =>
    obtain ⟨⟨proxy, usdc⟩, one, taken⟩ := ran taken
    cases taken
    obtain ⟨balanced, kept⟩ := balanced_forwardRevenue h one
    exact ⟨balanced, fun a _ => kept a⟩
  | flush =>
    obtain ⟨⟨proxy, diem⟩, one, taken⟩ := ran taken
    cases taken
    refine same ?_
    replace one := rest_ok one
    replace one := rest_ok one
    replace one := rest_ok one
    replace one := rest_ok one
    obtain ⟨_, -, one⟩ := ran one
    obtain ⟨_, -, one⟩ := ran one
    obtain ⟨_, -, one⟩ := ran one
    obtain ⟨_, -, one⟩ := ran one
    cases one
    rfl
  | claimUnstakeBatch =>
    obtain ⟨⟨proxy, diem⟩, one, taken⟩ := ran taken
    cases taken
    refine same ?_
    replace one := rest_ok one
    replace one := rest_ok one
    replace one := rest_ok one
    obtain ⟨_, -, one⟩ := ran one
    obtain ⟨_, -, one⟩ := ran one
    obtain ⟨⟨paid, token⟩, loop, one⟩ := ran one
    cases one
    exact (payUsers_books loop).trans rfl
  | syncRewardEpochs =>
    obtain ⟨proxy, one, taken⟩ := ran taken
    cases taken
    refine same ?_
    replace one := rest_ok one
    replace one := rest_ok one
    obtain ⟨⟨synced, count⟩, bounded, one⟩ := ran one
    replace one := rest_ok one
    cases one
    exact books_syncBounded bounded
  | sweepOrphanUsdc | withdrawAntseedStake =>
    obtain ⟨usdc, one, taken⟩ := ran taken
    cases taken
    exact same rfl
  | set =>
    obtain ⟨proxy, one, taken⟩ := ran taken
    cases taken
    exact same (set_books one)

theorem step_books {dropped : Nat × Nat} {s s' : ProxyState} {event : ProxyEvent}
    (h : Accounted dropped s) (taken : s.step self event = .ok s') :
    Accounted (dropped + s.fractions self event) s' ∧ Spares event s s' := by
  cases event with
  | call sender payment emission op =>
    obtain ⟨_, outsider, taken⟩ := ran taken
    exact perform_books h (require_eq_ok.mp outsider).2 taken
  | elapse | epoch | diemCooldown =>
    cases taken
    exact ⟨h, fun _ _ => le_refl _⟩
  | usdcMint | antsMint | diemMint =>
    obtain ⟨_, -, taken⟩ := ran taken
    cases taken
    exact ⟨h, fun _ _ => le_refl _⟩
  | usdcTransfer | antsTransfer | diemTransfer =>
    replace taken := rest_ok taken
    obtain ⟨_, -, taken⟩ := ran taken
    cases taken
    exact ⟨h, fun _ _ => le_refl _⟩
  | diemApprove =>
    replace taken := rest_ok taken
    cases taken
    exact ⟨h, fun _ _ => le_refl _⟩

theorem step_accounted {dropped : Nat × Nat} {s s' : ProxyState} {event : ProxyEvent}
    (h : Accounted dropped s) (taken : s.step self event = .ok s') :
    Accounted (dropped + s.fractions self event) s' := (step_books h taken).1

theorem accounted_construct {sender diem usdc registry operator ants emissions staking : Address}
    {epoch : Nat} {proxy : DiemStakingProxy}
    (h : construct sender diem usdc registry operator ants emissions staking epoch =
      .ok proxy) : proxy.books.Balanced ray 0 0 := by
  replace h := rest_ok h
  replace h := rest_ok h
  replace h := rest_ok h
  replace h := rest_ok h
  obtain ⟨_, -, h⟩ := ran h
  cases h
  exact balanced_empty ray

theorem claimUsdc_meets {s : DiemStakingProxy} {usdc : Erc20} {ctx : ProxyContext}
    (settled : ∀ a, s.books.settled a ≤ s.books.perShare)
    (covered : ∑ a, s.books.earned ray a ≤ s.books.reserved) :
    Meets (s.claimUsdc usdc ctx) DiemStakingProxy.NotUnderflow fun _ => True := by
  refine .require nofun fun _ => ?_
  refine .bind (updateRewards_meets settled) fun t touched => ?_
  refine .require nofun fun _ => ?_
  have single : s.books.earned ray ctx.sender ≤ ∑ a, s.books.earned ray a :=
    Finset.single_le_sum (fun _ _ => Nat.zero_le _) (Finset.mem_univ ctx.sender)
  have enough : t.books.owed ctx.sender ≤ t.books.reserved := by
    rw [touched]
    split
    · exact Nat.le_trans (Nat.le_add_right _ _) (Nat.le_trans single covered)
    · simpa [touch] using Nat.le_trans single covered
  refine .sub enough (bind (Erc20.transfer_meets fun _ => by rintro ⟨⟩) fun _ _ => ?_)
  exact .pure trivial

theorem sweepOrphanUsdc_leaves {s : DiemStakingProxy} {usdc usdc' : Erc20} {ctx : ProxyContext}
    {recipient : Address} (h : s.sweepOrphanUsdc usdc ctx recipient = .ok usdc') :
    usdc' = usdc ∨ s.totalUsdcReservedForStakers ≤ usdc'.balanceOf ctx.self := by
  replace h := rest_ok h
  replace h := rest_ok h
  dsimp only at h
  split at h
  · cases h
    exact .inl rfl
  next above =>
    obtain ⟨-, -, rfl⟩ := Erc20.transfer_eq_ok.mp h
    refine .inr ?_
    by_cases own : recipient = ctx.self
    · subst own
      simp [Erc20.move]
      omega
    · simp [Erc20.move, Ne.symm own]
      omega

/-- In every state the proxy can reach, the reserve covers what all stakers have earned exactly
    if the fractions dropped from the reserve so far are at most those dropped from stakers,
    settled or not; less than one unit dropped from the reserve is always harmless. While the
    condition holds no claim underflows, and no sweep takes what a staker has earned. -/
theorem reserve_covers_earned_iff
    (self sender diemToken usdcToken registry operator antsToken emissions staking : Address)
    (now epoch : Nat) (proxy : DiemStakingProxy) (diem : Diem) (usdc ants : Erc20)
    (deployed : construct sender diemToken usdcToken registry operator antsToken
      emissions staking epoch = .ok proxy)
    (events : List ProxyEvent) :
    let start : ProxyState := ⟨now, epoch, proxy, diem, usdc, ants⟩
    let s := (proxyMachine self).run start events
    let dropped := (proxyMachine self).tally (ProxyState.fractions self) start events
    let condition := dropped.1 ≤ dropped.2 + ∑ a, s.proxy.stakerFraction a
    (∀ a v, s.proxy.earnedUsdc a = .ok v → v = s.proxy.books.earned ray a) ∧
    (∑ a, s.proxy.books.earned ray a ≤ s.proxy.totalUsdcReservedForStakers ↔ condition) ∧
    (dropped.1 < ray → condition) ∧
    (condition → ∀ ctx, s.proxy.claimUsdc s.usdc ctx ≠ .error .underflow) ∧
    (condition → ∀ ctx recipient usdc', s.proxy.sweepOrphanUsdc s.usdc ctx recipient = .ok usdc' →
      usdc' = s.usdc ∨ ∑ a, s.proxy.books.earned ray a ≤ usdc'.balanceOf ctx.self) := by
  intro start s dropped condition
  have accounted : Accounted (0 + dropped) s :=
    (proxyMachine self).run_invariant_tally (fun _ _ _ _ => step_accounted)
      (accounted_construct deployed) events
  rw [zero_add] at accounted
  have covered : ∑ a, s.proxy.books.earned ray a ≤ s.proxy.totalUsdcReservedForStakers ↔ condition :=
    accounted.covered_iff (by decide)
  refine ⟨fun a v => earnedUsdc_eq_ok, covered, ?_, ?_, ?_⟩
  · exact fun small => covered.mp (accounted.covered_of_lt small)
  · intro holds ctx underflow
    exact (claimUsdc_meets accounted.settled (covered.mpr holds)).reason underflow rfl
  · intro holds ctx recipient usdc' swept
    rcases sweepOrphanUsdc_leaves swept with same | kept
    · exact .inl same
    · exact .inr (Nat.le_trans (covered.mpr holds) kept)

/-- Three DIEM are staked and one USDC, after the fee, is paid out. -/
def onePayout : List ProxyEvent :=
  [.diemMint ⟨5⟩ (3 * 10 ^ 18), .diemApprove ⟨5⟩ ⟨100⟩ (3 * 10 ^ 18), .usdcMint ⟨7⟩ (10 ^ 9),
    .call ⟨5⟩ none (fun _ => none) (.stake (3 * 10 ^ 18)),
    .call ⟨8⟩ (some (⟨7⟩, 1111111)) (fun _ => none) .settle]

/-- One payout drops less than a unit, so its staker is covered. -/
theorem onePayout_covered : ∃ proxy,
    construct ⟨9⟩ ⟨50⟩ ⟨60⟩ ⟨1⟩ ⟨8⟩ ⟨2⟩ ⟨3⟩ ⟨4⟩ 0 = .ok proxy ∧
      let s := (proxyMachine ⟨100⟩).run
        ⟨0, 0, proxy, ⟨⟨50⟩, .empty, 86400, fun _ => {}⟩, .empty, .empty⟩ onePayout
      ∑ a, s.proxy.books.earned ray a ≤ s.proxy.totalUsdcReservedForStakers := by
  refine ⟨_, rfl, ?_⟩
  obtain ⟨-, covered, harmless, -, -⟩ := reserve_covers_earned_iff ⟨100⟩ ⟨9⟩ ⟨50⟩ ⟨60⟩ ⟨1⟩ ⟨8⟩ ⟨2⟩ ⟨3⟩
    ⟨4⟩ 0 0 _ ⟨⟨50⟩, .empty, 86400, fun _ => {}⟩ .empty .empty rfl onePayout
  exact covered.mpr (harmless (by decide))

/-- What the proxy quotes to a staker never falls until the staker claims it, whatever the staker and
    all others do meanwhile, and a claim pays the quote to the unit. -/
theorem earned_until_claimed
    (self sender diemToken usdcToken registry operator antsToken emissions staking : Address)
    (now epoch : Nat) (proxy : DiemStakingProxy) (diem : Diem) (usdc ants : Erc20)
    (deployed : construct sender diemToken usdcToken registry operator antsToken
      emissions staking epoch = .ok proxy)
    (events later : List ProxyEvent) (staker : Address) (somebody : staker ≠ 0)
    (unclaimed : ∀ event ∈ later, ¬ event.ClaimsUsdc staker) :
    let s := (proxyMachine self).run ⟨now, epoch, proxy, diem, usdc, ants⟩ events
    let t := (proxyMachine self).run s later
    (∀ v w, s.proxy.earnedUsdc staker = .ok v → t.proxy.earnedUsdc staker = .ok w → v ≤ w) ∧
    ∀ ctx proxy' usdc', ctx.sender = staker → t.proxy.claimUsdc t.usdc ctx = .ok (proxy', usdc') →
      ∃ v, t.proxy.earnedUsdc staker = .ok v ∧ proxy'.earnedUsdc staker = .ok 0 ∧
        t.usdc.transfer ctx.self staker v = (.ok usdc' : Tx ProxyError Erc20) := by
  intro s t
  have accounted : ∃ dropped, Accounted dropped s :=
    (proxyMachine self).run_invariant (I := fun s => ∃ dropped, Accounted dropped s)
      (fun _ _ _ ⟨_, h⟩ taken => ⟨_, step_accounted h taken⟩) ⟨(0, 0), accounted_construct deployed⟩ events
  have kept : (∃ dropped, Accounted dropped t) ∧
      s.proxy.books.earned ray staker ≤ t.proxy.books.earned ray staker := by
    refine (proxyMachine self).run_invariant_on (P := fun event => ¬ event.ClaimsUsdc staker)
      (I := fun u => (∃ dropped, Accounted dropped u) ∧
        s.proxy.books.earned ray staker ≤ u.proxy.books.earned ray staker) ?_
      ⟨accounted, le_refl _⟩ unclaimed
    rintro u event u' other ⟨⟨_, h⟩, grown⟩ taken
    obtain ⟨next, more⟩ := step_books h taken
    exact ⟨⟨_, next⟩, grown.trans (more staker other)⟩
  obtain ⟨⟨_, balanced⟩, grown⟩ := kept
  refine ⟨fun v w before after => ?_, ?_⟩
  · rw [earnedUsdc_eq_ok before, earnedUsdc_eq_ok after]
    exact grown
  · rintro ctx proxy' usdc' rfl claimed
    exact ⟨_, claimUsdc_quoted somebody balanced claimed⟩

/-- The staker of `onePayout` unstakes a third, and what it has earned stays. -/
theorem unstaker_keeps_its_earnings : ∃ proxy v,
    construct ⟨9⟩ ⟨50⟩ ⟨60⟩ ⟨1⟩ ⟨8⟩ ⟨2⟩ ⟨3⟩ ⟨4⟩ 0 = .ok proxy ∧ 999999 ≤ v ∧
      let s := (proxyMachine ⟨100⟩).run
        ⟨0, 0, proxy, ⟨⟨50⟩, .empty, 86400, fun _ => {}⟩, .empty, .empty⟩ onePayout
      let unstake : ProxyEvent := .call ⟨5⟩ none (fun _ => none) (.initiateUnstake (10 ^ 18))
      ((proxyMachine ⟨100⟩).run s [unstake]).proxy.earnedUsdc ⟨5⟩ = .ok v := by
  obtain ⟨kept, -⟩ := earned_until_claimed ⟨100⟩ ⟨9⟩ ⟨50⟩ ⟨60⟩ ⟨1⟩ ⟨8⟩ ⟨2⟩ ⟨3⟩ ⟨4⟩ 0 0 _
    ⟨⟨50⟩, .empty, 86400, fun _ => {}⟩ .empty .empty rfl onePayout
    [.call ⟨5⟩ none (fun _ => none) (.initiateUnstake (10 ^ 18))] ⟨5⟩ (by decide)
    (by simp [ProxyEvent.ClaimsUsdc])
  exact ⟨_, 999999, rfl, kept 999999 999999 rfl rfl, rfl⟩

/-- The same with a second payout of one USDC. -/
def twoPayouts : List ProxyEvent :=
  onePayout ++ [.call ⟨8⟩ (some (⟨7⟩, 1111111)) (fun _ => none) .settle]

def proxyAfterTwoPayouts (proxy : DiemStakingProxy) : ProxyState :=
  (proxyMachine ⟨100⟩).run ⟨0, 0, proxy, ⟨⟨50⟩, .empty, 86400, fun _ => {}⟩, .empty, .empty⟩ twoPayouts

/-- After the two payouts the only staker has earned one unit more than is set aside, and its
    claim underflows. -/
theorem twoPayouts_short : ∃ proxy,
    construct ⟨9⟩ ⟨50⟩ ⟨60⟩ ⟨1⟩ ⟨8⟩ ⟨2⟩ ⟨3⟩ ⟨4⟩ 0 = .ok proxy ∧
      (proxyAfterTwoPayouts proxy).proxy.totalUsdcReservedForStakers = 1999998 ∧
      (proxyAfterTwoPayouts proxy).proxy.earnedUsdc ⟨5⟩ = .ok 1999999 ∧
      (proxyAfterTwoPayouts proxy).proxy.totalUsdcReservedForStakers <
        ∑ a, (proxyAfterTwoPayouts proxy).proxy.books.earned ray a ∧
      (proxyAfterTwoPayouts proxy).proxy.claimUsdc (proxyAfterTwoPayouts proxy).usdc
        ⟨⟨5⟩, ⟨100⟩, 0, 0, none, fun _ => none⟩ = .error .underflow := by
  refine ⟨_, rfl, ?_⟩
  generalize isState : proxyAfterTwoPayouts _ = s
  have reserved : s.proxy.totalUsdcReservedForStakers = 1999998 := by subst isState; rfl
  have earned : s.proxy.earnedUsdc ⟨5⟩ = .ok 1999999 := by subst isState; rfl
  refine ⟨reserved, earned, ?_, by subst isState; rfl⟩
  have single : s.proxy.books.earned ray ⟨5⟩ ≤ ∑ a, s.proxy.books.earned ray a :=
    Finset.single_le_sum (fun _ _ => Nat.zero_le _) (Finset.mem_univ _)
  rw [← earnedUsdc_eq_ok earned] at single
  omega

end AntSeed.Staking
