import AntSeed.Legacy.SellerRewards
import AntSeed.Lib.Proportion

/-! # What the calls of the legacy contracts do

The reward of a seller for an epoch is fixed once the epoch is over: points and
shares are only written for the current epoch. A claim turns such rewards into
claimed ones, and the policy counts exactly the claimed ones again.
-/

namespace AntSeed.Legacy

open Evm Function
open Finset (range sum_congr)
open AntseedEmissionsV2 Meets
open Nat AntseedLegacySellerClaimPolicy

variable {r : Deployment}

/-- The epoch at a time after the genesis. -/
def Deployment.epochAt (r : Deployment) (now : Nat) : Nat := (now - r.genesis) / r.epochDuration

theorem Deployment.currentEpoch_eq_ok (h : r.currentEpoch now = .ok epoch) :
    epoch = r.epochAt now := by
  obtain ⟨elapsed, isElapsed, h⟩ := ran h
  obtain ⟨-, rfl⟩ := sub_eq_ok.mp isElapsed
  exact (div_eq_ok.mp h).2.symm

theorem Deployment.epochAt_mono (le : now ≤ later) : r.epochAt now ≤ r.epochAt later :=
  Nat.div_le_div_right (Nat.sub_le_sub_right le _)

section Rewards

variable (r) (legacy : AntseedEmissions) (v2 : AntseedEmissionsV2) (seller : Address)

def userPointsOf (epoch : Nat) : Nat :=
  v2.sellers.userPoints seller epoch +
    if epoch ≤ r.migrationEpoch then legacy.sellers.userPoints seller epoch else 0

def totalPointsOf (epoch : Nat) : Nat :=
  v2.sellers.epochTotalPoints epoch +
    if epoch ≤ r.migrationEpoch then legacy.sellers.epochTotalPoints epoch else 0

def budgetOf (epoch : Nat) : Nat :=
  r.getEpochEmission epoch * (v2.epochParams epoch).shares.sellerSharePct / 100

def rewardOf (epoch : Nat) : Nat :=
  min (userPointsOf r legacy v2 seller epoch * budgetOf r v2 epoch / totalPointsOf r legacy v2 epoch)
    (budgetOf r v2 epoch * (v2.epochParams epoch).shares.maxSellerSharePct / 100)

def claimedTotal (epochs : Nat) : Nat :=
  ∑ epoch ∈ range epochs,
    if v2.sellers.epochClaimed seller epoch = true then rewardOf r legacy v2 seller epoch else 0

variable {r legacy v2 seller}

theorem claimedTotal_eq (le : m ≤ n)
    (below : ∀ epoch, v2.sellers.epochClaimed seller epoch = true → epoch < m) :
    claimedTotal r legacy v2 seller n = claimedTotal r legacy v2 seller m := by
  refine (Finset.sum_subset (Finset.range_mono le) fun epoch _ outside => ?_).symm
  refine if_neg fun claimed => outside ?_
  exact Finset.mem_range.mpr (below epoch claimed)

theorem combinedUserPoints_meets (overflows : allowed .overflow)
    (epoch : Nat) :
    Meets (combinedUserPoints r v2.sellers legacy.sellers seller epoch) allowed
      fun points => points = userPointsOf r legacy v2 seller epoch := by
  unfold combinedUserPoints userPointsOf
  split
  · exact (uint_meets overflows).mono fun _ known => known.2
  · exact .pure rfl

theorem combinedTotalPoints_meets (overflows : allowed .overflow)
    (epoch : Nat) :
    Meets (combinedTotalPoints r v2.sellers legacy.sellers epoch) allowed
      fun points => points = totalPointsOf r legacy v2 epoch := by
  unfold combinedTotalPoints totalPointsOf
  split
  · exact (uint_meets overflows).mono fun _ known => known.2
  · exact .pure rfl

theorem cappedReward_meets (emission sharePct maxSharePct userPoints totalPoints : Nat) :
    Meets (cappedReward emission sharePct maxSharePct userPoints totalPoints) (fun _ => True)
      fun part => part.1 = min (userPoints * (emission * sharePct / 100) / totalPoints)
        (emission * sharePct / 100 * maxSharePct / 100) := by
  refine .uint trivial fun _ => uint trivial fun _ => ?_
  refine .bind (div_meets trivial) fun reward isReward => ?_
  obtain ⟨-, rfl⟩ := isReward
  refine .uint trivial fun _ => ite (fun less => ?_) fun notLess => ?_
  · exact .pure (min_eq_right (le_of_lt less)).symm
  · exact .pure (Nat.min_eq_left (Nat.le_of_not_lt notLess)).symm

theorem addEpoch_meets (total epoch : Nat) :
    Meets (addEpoch (r := r) legacy v2 seller total epoch)
      (· ≠ .underflow)
      fun sum => sum = total +
        if v2.sellers.epochClaimed seller epoch = true then rewardOf r legacy v2 seller epoch else 0 := by
  refine .ite (fun unclaimed => pure (by simp [unclaimed])) fun claimed => ?_
  rw [if_pos (Bool.eq_true_of_not_eq_false claimed)]
  refine .bind (Q := fun points : Nat × Nat => points.1 = userPointsOf r legacy v2 seller epoch ∧
    points.2 = totalPointsOf r legacy v2 epoch) ?_ ?_
  · unfold mergedPoints userPointsOf totalPointsOf
    split
    · exact .uint nofun fun _ => uint nofun fun _ => pure ⟨rfl, rfl⟩
    · exact .pure ⟨rfl, rfl⟩
  · rintro ⟨sellerPoints, totalSellerPoints⟩ ⟨rfl, rfl⟩
    refine .ite (fun none => pure ?_) fun some => ?_
    · unfold rewardOf
      rcases none with none | none <;> simp [none]
    · refine .uint nofun fun _ => uint nofun fun _ => ?_
      refine .bind (div_meets nofun) fun reward isReward => ?_
      obtain ⟨-, rfl⟩ := isReward
      refine .uint nofun fun _ => (uint_meets nofun).mono fun sum isSum => ?_
      rw [isSum.2]
      congr 1
      split
      next less => exact (min_eq_right (le_of_lt less)).symm
      next notLess => exact (Nat.min_eq_left (Nat.le_of_not_lt notLess)).symm

theorem cumulativeThrough_meets (epochs : Nat) :
    Meets (cumulativeThrough (r := r) legacy v2 seller epochs)
      (· ≠ .underflow) fun sum => sum = claimedTotal r legacy v2 seller epochs := by
  induction epochs with
  | zero => exact .pure rfl
  | succ epochs ih =>
    refine .bind ih fun total isTotal => ?_
    subst isTotal
    refine (addEpoch_meets _ epochs).mono fun sum isSum => ?_
    rw [isSum, claimedTotal, claimedTotal, Finset.sum_range_succ]

/-- What the policy allows: nothing, or a share of everything it counts less what it takes for
    released. -/
def AntseedLegacySellerClaimPolicy.allowance (p : AntseedLegacySellerClaimPolicy r)
    (counted locked : Nat) : Nat :=
  min locked (max counted locked * p.releaseBps / BPS - (max counted locked - locked))

theorem claimableSellerRewards_meets (p : AntseedLegacySellerClaimPolicy r) (ext : External)
    (locked : Nat) :
    Meets (p.claimableSellerRewards legacy v2 ext seller locked) (· ≠ .underflow)
      fun amount => amount = 0 ∨
        amount = p.allowance (claimedTotal r legacy v2 seller (p.lastEpoch + 1)) locked := by
  refine .ite (fun _ => pure (.inl rfl)) fun _ => ?_
  refine .bind (answer_meets nofun) fun isWashTrader _ => ?_
  refine .ite (fun _ => pure (.inl rfl)) fun _ => ?_
  refine .bind (cumulativeThrough_meets _) fun counted isCounted => ?_
  subst isCounted
  generalize claimedTotal r legacy v2 seller (p.lastEpoch + 1) = counted
  have cumulative : (if counted < locked then locked else counted) = max counted locked := by
    split
    next less => exact (max_eq_right (le_of_lt less)).symm
    next notLess => exact (Nat.max_eq_left (Nat.le_of_not_lt notLess)).symm
  rw [cumulative]
  refine .sub (le_max_right counted locked) ?_
  refine .bind (Q := fun entitled => entitled = max counted locked * p.releaseBps / BPS) ?_ ?_
  · exact .uint nofun fun _ => pure rfl
  · intro entitled isEntitled
    refine .pure (.inr ?_)
    unfold allowance
    rw [← isEntitled]
    generalize max counted locked - locked = released
    split <;> split <;> omega

end Rewards

theorem rewardOf_congr
    (points : v2'.sellers.userPoints seller epoch = v2.sellers.userPoints seller epoch)
    (totals : v2'.sellers.epochTotalPoints epoch = v2.sellers.epochTotalPoints epoch)
    (params : v2'.epochParams epoch = v2.epochParams epoch)
    (oldPoints : legacy'.sellers.userPoints seller epoch = legacy.sellers.userPoints seller epoch)
    (oldTotals : legacy'.sellers.epochTotalPoints epoch = legacy.sellers.epochTotalPoints epoch) :
    rewardOf r legacy' v2' seller epoch = rewardOf r legacy v2 seller epoch := by
  unfold rewardOf userPointsOf totalPointsOf budgetOf
  rw [points, totals, params, oldPoints, oldTotals]

/-- A seller's claims turned rewards of past epochs into claimed ones. -/
structure Claims (r : Deployment) (legacy : AntseedEmissions) (sender : Address)
    (currentEpoch : Nat) (e e' : AntseedEmissionsV2) (reward : Nat) : Prop where
  points : e'.sellers.userPoints = e.sellers.userPoints
  totals : e'.sellers.epochTotalPoints = e.sellers.epochTotalPoints
  params : e'.epochParams = e.epochParams
  past : ∀ seller epoch, e'.sellers.epochClaimed seller epoch = true →
    e.sellers.epochClaimed seller epoch = true ∨ epoch < currentEpoch
  gained : ∀ seller, claimedTotal r legacy e' seller currentEpoch =
    claimedTotal r legacy e seller currentEpoch + if seller = sender then reward else 0

section Claims

variable {legacy : AntseedEmissions} {sender : Address} {currentEpoch reward : Nat}
  {e e' e'' : AntseedEmissionsV2}

theorem Claims.refl : Claims r legacy sender currentEpoch e e 0 :=
  ⟨rfl, rfl, rfl, fun _ _ => .inl, fun seller => by simp⟩

theorem Claims.trans {more : Nat} (first : Claims r legacy sender currentEpoch e e' reward)
    (second : Claims r legacy sender currentEpoch e' e'' more) :
    Claims r legacy sender currentEpoch e e'' (reward + more) where
  points := second.points.trans first.points
  totals := second.totals.trans first.totals
  params := second.params.trans first.params
  past seller epoch claimed := by
    rcases second.past seller epoch claimed with before | past
    · exact first.past seller epoch before
    · exact .inr past
  gained seller := by
    rw [second.gained, first.gained]
    split
    · omega
    · omega

theorem Claims.one {base : Base} (past : epoch < currentEpoch)
    (unclaimed : e.sellers.epochClaimed sender epoch = false) :
    Claims r legacy sender currentEpoch e
      { e with sellers := e.sellers.claim sender epoch, base }
      (rewardOf r legacy e sender epoch) where
  points := rfl
  totals := rfl
  params := rfl
  past seller x claimed := by
    dsimp only [Side.claim] at claimed
    rw [update_nested] at claimed
    split at claimed
    next here => exact .inr (here.2 ▸ past)
    · exact .inl claimed
  gained seller := by
    have same : ∀ x, rewardOf r legacy { e with sellers := e.sellers.claim sender epoch, base } seller x =
        rewardOf r legacy e seller x := fun x => rewardOf_congr rfl rfl rfl rfl rfl
    unfold claimedTotal
    simp only [same]
    dsimp only [Side.claim]
    by_cases own : seller = sender
    · subst own
      have moved := sum_update_add
        (fun x (c : Bool) => if c = true then rewardOf r legacy e seller x else 0)
        (e.sellers.epochClaimed seller) true (Finset.mem_range.mpr past)
      simpa [unclaimed] using moved
    · simp [own]

theorem accountReserveAndTeam_meets (epoch : Nat) :
    Meets (e.accountReserveAndTeam r epoch) (fun _ => True) fun e' => ∃ base, e' = { e with base } := by
  refine .skip fun treasury => ?_
  exact .pure ⟨{ e.base with treasury }, rfl⟩

theorem claimSellerEpochs_meets (totalReward : Nat) (epochs : List Nat) :
    Meets (e.claimSellerEpochs r legacy sender currentEpoch totalReward epochs) (fun _ => True)
      fun out => ∃ reward, out.2 = totalReward + reward ∧
        Claims r legacy sender currentEpoch e out.1 reward := by
  induction epochs generalizing e totalReward with
  | nil => exact .pure ⟨0, rfl, .refl⟩
  | cons epoch epochs ih =>
    rw [claimSellerEpochs]
    refine .require trivial fun past => ite (fun _ => ih _) fun open_ => ?_
    refine .bind (combinedUserPoints_meets trivial epoch) fun userSP isUser => ?_
    refine .ite (fun _ => ih _) fun _ => ?_
    refine .bind (combinedTotalPoints_meets trivial epoch) fun totalSP isTotal => ?_
    refine .ite (fun _ => ih _) fun _ => ?_
    subst isUser
    subst isTotal
    have unclaimed : e.sellers.epochClaimed sender epoch = false := by
      unfold epochClaimed at open_
      split at open_
      · exact absurd rfl open_
      next unset => exact Bool.eq_false_of_not_eq_true unset
    refine .bind (accountReserveAndTeam_meets epoch) fun accounted isAccounted => ?_
    obtain ⟨base, rfl⟩ := isAccounted
    refine .bind (cappedReward_meets _ _ _ _ _) ?_
    rintro ⟨reward, excess⟩ isReward
    refine .skip fun treasury => uint trivial fun _ => ?_
    refine (ih _).mono fun out known => ?_
    obtain ⟨more, isOut, claims⟩ := known
    refine ⟨reward + more, by rw [isOut, Nat.add_assoc], ?_⟩
    have first : Claims r legacy sender currentEpoch e { e with
        sellers := e.sellers.claim sender epoch
        base := { base with treasury } } (rewardOf r legacy e sender epoch) :=
      .one past unclaimed
    have isOne : reward = rewardOf r legacy e sender epoch := isReward
    rw [isOne]
    exact first.trans claims

end Claims

/-- Points of past epochs stay. -/
def Side.Frozen (currentEpoch : Nat) (side side' : Side) : Prop :=
  ∀ epoch < currentEpoch, (∀ account, side'.userPoints account epoch = side.userPoints account epoch) ∧
    side'.epochTotalPoints epoch = side.epochTotalPoints epoch

/-- Past epochs of V2 stay, and so does what has been claimed of them. -/
structure AntseedEmissionsV2.Frozen (currentEpoch : Nat) (e e' : AntseedEmissionsV2) : Prop where
  claimed : e'.sellers.epochClaimed = e.sellers.epochClaimed
  points : Side.Frozen currentEpoch e.sellers e'.sellers
  params : ∀ epoch < currentEpoch, e'.epochParams epoch = e.epochParams epoch

theorem Side.accrue_meets (side : Side) (account : Address) (currentEpoch pointsDelta : Nat) :
    Meets (side.accrue account currentEpoch pointsDelta) (fun _ => True)
      fun side' => Side.Frozen currentEpoch side side' ∧ side'.epochClaimed = side.epochClaimed := by
  refine .uint trivial fun _ => uint trivial fun _ => pure ⟨fun epoch past => ?_, rfl⟩
  have other : epoch ≠ currentEpoch := Nat.ne_of_lt past
  exact ⟨fun who => by simp [update_nested, other], update_of_ne other _ _⟩

section Quiet

variable {now currentEpoch : Nat} {ext : External} {sender account : Address}

theorem currentEpoch_meets : Meets (r.currentEpoch now) (fun _ => True) fun epoch => epoch = r.epochAt now :=
  of_returned (fun _ => trivial) fun _ => r.currentEpoch_eq_ok

namespace AntseedEmissions

variable {e : AntseedEmissions}

theorem snapshotEpoch_sellers (epoch : Nat) : (e.snapshotEpoch epoch).sellers = e.sellers := by
  unfold snapshotEpoch
  split <;> rfl

theorem accrueSellerPoints_meets (pointsDelta : Nat) :
    Meets (e.accrueSellerPoints r now ext sender account pointsDelta) (fun _ => True)
      fun e' => Side.Frozen (r.epochAt now) e.sellers e'.sellers := by
  refine .skip fun _ => skip fun _ => ?_
  refine .bind currentEpoch_meets fun epoch isEpoch => ?_
  subst isEpoch
  refine .bind (Side.accrue_meets _ account _ pointsDelta) fun sellers known => ?_
  rw [snapshotEpoch_sellers] at known
  exact .pure known.1

theorem accrueBuyerPoints_meets (pointsDelta : Nat) :
    Meets (e.accrueBuyerPoints r now ext sender account pointsDelta) (fun _ => True)
      fun e' => e'.sellers = e.sellers := by
  refine .skip fun _ => skip fun _ => skip fun epoch => skip fun buyers => ?_
  exact .pure (snapshotEpoch_sellers epoch)

theorem claimSellerEpochs_meets (totalReward : Nat) (epochs : List Nat) :
    Meets (e.claimSellerEpochs r sender currentEpoch totalReward epochs) (fun _ => True)
      fun out => out.1.sellers.userPoints = e.sellers.userPoints ∧
        out.1.sellers.epochTotalPoints = e.sellers.epochTotalPoints := by
  induction epochs generalizing e totalReward with
  | nil => exact .pure ⟨rfl, rfl⟩
  | cons epoch epochs ih =>
    rw [claimSellerEpochs]
    refine .require trivial fun _ => ite (fun _ => ih _) fun _ => ?_
    refine .bind (Q := fun e' : AntseedEmissions => e'.sellers = e.sellers.claim sender epoch) ?_ ?_
    · exact .skip fun treasury => pure rfl
    · intro accounted isSellers
      refine .skip fun reward => skip fun treasury => skip fun total => ?_
      refine (ih _).mono fun out known => ?_
      obtain ⟨points, totals⟩ := known
      rw [points, totals, isSellers]
      exact ⟨rfl, rfl⟩

theorem claimBuyerEpochs_meets (totalReward : Nat) (epochs : List Nat) :
    Meets (e.claimBuyerEpochs r account currentEpoch totalReward epochs) (fun _ => True)
      fun out => out.1.sellers = e.sellers := by
  induction epochs generalizing e totalReward with
  | nil => exact .pure rfl
  | cons epoch epochs ih =>
    rw [claimBuyerEpochs]
    refine .require trivial fun _ => ite (fun _ => ih _) fun _ => ?_
    refine .bind (Q := fun e' : AntseedEmissions => e'.sellers = e.sellers) ?_ ?_
    · exact .skip fun treasury => pure rfl
    · intro accounted isSellers
      refine .skip fun share => skip fun weighted => skip fun reward => ?_
      refine .skip fun total => (ih _).mono fun out known => ?_
      exact known.trans isSellers

end AntseedEmissions

namespace AntseedEmissionsV2

variable {e e' : AntseedEmissionsV2} {legacy : AntseedEmissions}

theorem Frozen.of_eq (sellers : e'.sellers = e.sellers) (params : e'.epochParams = e.epochParams) :
    Frozen currentEpoch e e' :=
  ⟨by rw [sellers], fun _ _ => by rw [sellers]; exact ⟨fun _ => rfl, rfl⟩, fun _ _ => by rw [params]⟩

theorem Frozen.trans {e'' : AntseedEmissionsV2} (first : Frozen currentEpoch e e')
    (second : Frozen currentEpoch e' e'') : Frozen currentEpoch e e'' where
  claimed := second.claimed.trans first.claimed
  points epoch past :=
    ⟨fun who => ((second.points epoch past).1 who).trans ((first.points epoch past).1 who),
      (second.points epoch past).2.trans (first.points epoch past).2⟩
  params epoch past := (second.params epoch past).trans (first.params epoch past)

theorem frozen_snapshotEpoch : Frozen currentEpoch e (e.snapshotEpoch currentEpoch) := by
  unfold snapshotEpoch
  split
  · exact .of_eq rfl rfl
  · exact ⟨rfl, fun _ _ => ⟨fun _ => rfl, rfl⟩, fun epoch past => update_of_ne (Nat.ne_of_lt past) _ _⟩

theorem frozen_accrue {sellers buyers : Side}
    (known : Side.Frozen currentEpoch e.sellers sellers ∧ sellers.epochClaimed = e.sellers.epochClaimed) :
    Frozen currentEpoch e { e with sellers, buyers } :=
  ⟨known.2, known.1, fun _ _ => rfl⟩

theorem accrueSellerPoints_meets (pointsDelta : Nat) :
    Meets (e.accrueSellerPoints r now ext sender account pointsDelta) (fun _ => True)
      (Frozen (r.epochAt now) e) := by
  refine .skip fun _ => skip fun _ => ?_
  refine .bind currentEpoch_meets fun epoch isEpoch => ?_
  subst isEpoch
  refine .bind (Side.accrue_meets _ account _ pointsDelta) fun sellers known => ?_
  exact .pure (frozen_snapshotEpoch.trans (frozen_accrue known))

theorem accrueBuyerPoints_meets (pointsDelta : Nat) :
    Meets (e.accrueBuyerPoints r now ext sender account pointsDelta) (fun _ => True)
      (Frozen (r.epochAt now) e) := by
  refine .skip fun _ => skip fun _ => ?_
  refine .bind currentEpoch_meets fun epoch isEpoch => skip fun buyers => ?_
  subst isEpoch
  exact .pure (frozen_snapshotEpoch.trans (.of_eq rfl rfl))

theorem accruePoints_meets {seller : Address} (pointsDelta : Nat) :
    Meets (e.accruePoints r now ext sender account seller pointsDelta) (fun _ => True)
      (Frozen (r.epochAt now) e) := by
  refine .skip fun _ => skip fun _ => ?_
  refine .bind currentEpoch_meets fun epoch isEpoch => ?_
  subst isEpoch
  refine .bind (Side.accrue_meets _ seller _ _) fun sellers known => skip fun buyers => ?_
  exact .pure (frozen_snapshotEpoch.trans (frozen_accrue known))

theorem claimBuyerEpochs_meets (totalReward : Nat) (epochs : List Nat) :
    Meets (e.claimBuyerEpochs r legacy account currentEpoch totalReward epochs) (fun _ => True)
      fun out => out.1.sellers = e.sellers ∧ out.1.epochParams = e.epochParams := by
  induction epochs generalizing e totalReward with
  | nil => exact .pure ⟨rfl, rfl⟩
  | cons epoch epochs ih =>
    rw [claimBuyerEpochs]
    refine .require trivial fun _ => ite (fun _ => ih _) fun _ => ?_
    refine .skip fun userBP => ite (fun _ => ih _) fun _ => ?_
    refine .skip fun totalBP => ite (fun _ => ih _) fun _ => ?_
    refine .bind (accountReserveAndTeam_meets epoch) fun accounted isAccounted => ?_
    obtain ⟨base, rfl⟩ := isAccounted
    exact .skip fun reward => skip fun treasury => skip fun total => ih _

theorem administer_meets {ants : Erc20} (call : V2OwnerCall) :
    Meets (e.administer ants ext sender call) (fun _ => True)
      fun out => out.1.sellers = e.sellers ∧ out.1.epochParams = e.epochParams := by
  cases call with
  | shared => exact .skip fun out => pure ⟨rfl, rfl⟩
  | setMaxBuyerSharePct value | setSellerRewardsPool pool =>
    exact .skip fun _ => skip fun _ => pure ⟨rfl, rfl⟩
  | setSellerUnlockPolicy policy | setPointsPolicy policy =>
    exact .skip fun _ => pure ⟨rfl, rfl⟩

end AntseedEmissionsV2

end Quiet

/-- Time only moves on, and what was claimed of past epochs stays. -/
structure State.Settles (s s' : State r) : Prop where
  later : s.now ≤ s'.now
  claimed : s'.v2.sellers.epochClaimed = s.v2.sellers.epochClaimed
  rewards : ∀ seller epoch, epoch < r.epochAt s.now →
    rewardOf r s'.legacy s'.v2 seller epoch = rewardOf r s.legacy s.v2 seller epoch

variable {s s' : State r} {call : Call r}

theorem State.Settles.legacy {legacy : AntseedEmissions} {ants : Erc20}
    (frozen : Side.Frozen (r.epochAt s.now) s.legacy.sellers legacy.sellers) :
    s.Settles { s with legacy, ants } :=
  ⟨le_refl _, rfl, fun seller epoch past =>
    rewardOf_congr rfl rfl rfl ((frozen epoch past).1 seller) (frozen epoch past).2⟩

theorem State.Settles.legacySame {legacy : AntseedEmissions} {ants : Erc20}
    (points : legacy.sellers.userPoints = s.legacy.sellers.userPoints)
    (totals : legacy.sellers.epochTotalPoints = s.legacy.sellers.epochTotalPoints) :
    s.Settles { s with legacy, ants } :=
  .legacy fun _ _ => ⟨fun _ => by rw [points], by rw [totals]⟩

theorem State.Settles.v2 {v2 : AntseedEmissionsV2} {ants : Erc20}
    (frozen : AntseedEmissionsV2.Frozen (r.epochAt s.now) s.v2 v2) : s.Settles { s with v2, ants } :=
  ⟨le_refl _, frozen.claimed, fun seller epoch past =>
    rewardOf_congr ((frozen.points epoch past).1 seller) (frozen.points epoch past).2
      (frozen.params epoch past) rfl rfl⟩

/-- Everything a call can do to the locked rewards and to what they are counted from. -/
inductive Effect (s : State r) (call : Call r) : State r → Prop where
  | quiet {t : State r} (settles : s.Settles t) (owner : Address)
      (pool : t.pool = { s.pool with owner }) : Effect s call t
  | policySet (policy : Option (AntseedLegacySellerClaimPolicy r)) :
      Effect s call { s with pool := { s.pool with
        sellerClaimPolicy := policy
        events := .sellerClaimPolicySet policy :: s.pool.events } }
  | rewarded {v2 : AntseedEmissionsV2} {ants : Erc20} {reward : Nat}
      (claims : Claims r s.legacy call.sender (r.epochAt s.now) s.v2 v2 reward) :
      Effect s call { s with v2, ants }
  | locked {v2 : AntseedEmissionsV2} {ants : Erc20} {reward : Nat}
      (claims : Claims r s.legacy call.sender (r.epochAt s.now) s.v2 v2 reward) :
      Effect s call { s with
        v2
        ants
        pool := { s.pool with
          lockedRewards := update s.pool.lockedRewards call.sender
            (s.pool.lockedRewards call.sender + reward)
          totalLockedRewards := s.pool.totalLockedRewards + reward
          events := .lockedRewardRecorded call.sender reward :: s.pool.events } }
  | released {recipient : Address} {t : State r} (isClaim : call.op = .claim recipient)
      (taken : s.claim call.ext call.sender recipient = .ok t) : Effect s call t

theorem recordLockedReward_meets {pool : AntseedSellerRewardsPool r} {sender seller : Address}
    {amount : Nat} :
    Meets (pool.recordLockedReward sender seller amount) (fun _ => True) fun pool' =>
      sender = r.v2 ∧ pool' = { pool with
        lockedRewards := update pool.lockedRewards seller (pool.lockedRewards seller + amount)
        totalLockedRewards := pool.totalLockedRewards + amount
        events := .lockedRewardRecorded seller amount :: pool.events } := by
  refine .require trivial fun isV2 => require trivial fun _ => ?_
  refine .require trivial fun _ => uint trivial fun _ => uint trivial fun _ => ?_
  exact .pure ⟨isV2, rfl⟩

theorem claimSellerEmissions_meets {epochs : List Nat} :
    Meets (s.claimSellerEmissions call.ext call.sender epochs) (fun _ => True) (Effect s call) := by
  refine .skip fun _ => bind currentEpoch_meets fun epoch isEpoch => ?_
  subst isEpoch
  refine .bind (claimSellerEpochs_meets 0 epochs) ?_
  rintro ⟨v2, totalReward⟩ ⟨reward, isReward, claims⟩
  obtain rfl : totalReward = reward := by simpa using isReward
  refine .ite (fun _ => ite (fun _ => ?_) fun _ => ?_) fun _ => ?_
  · exact .skip fun ants => pure (.rewarded claims)
  · refine .skip fun ants => ite (fun _ => ?_) fun _ => ?_
    · refine .bind recordLockedReward_meets fun pool recorded => ?_
      obtain ⟨-, rfl⟩ := recorded
      exact .pure (.locked claims)
    · exact .skip fun _ => pure (.rewarded claims)
  · exact .pure (.rewarded claims)

theorem step_meets : Meets (step s call) (fun _ => True) (Effect s call) := by
  unfold step
  split
  · refine .bind (AntseedEmissions.accrueSellerPoints_meets _) fun legacy frozen => ?_
    exact .pure (.quiet (.legacy frozen) s.pool.owner rfl)
  · refine .bind (AntseedEmissions.accrueBuyerPoints_meets _) fun legacy same => ?_
    exact .pure (.quiet (.legacySame (by rw [same]) (by rw [same])) s.pool.owner rfl)
  · refine .bind (Q := fun out : AntseedEmissions × Erc20 => s.Settles { s with
      legacy := out.1, ants := out.2 }) ?_ fun out settles => pure (.quiet settles s.pool.owner rfl)
    refine .skip fun _ => skip fun epoch => ?_
    refine .bind (AntseedEmissions.claimSellerEpochs_meets 0 _) ?_
    rintro ⟨legacy, totalReward⟩ ⟨points, totals⟩
    refine .ite (fun _ => skip fun ants => ?_) fun _ => ?_
    · exact .pure (.legacySame points totals)
    · exact .pure (.legacySame points totals)
  · refine .bind (Q := fun out : AntseedEmissions × Erc20 => s.Settles { s with
      legacy := out.1, ants := out.2 }) ?_ fun out settles => pure (.quiet settles s.pool.owner rfl)
    refine .skip fun _ => skip fun _ => skip fun epoch => ?_
    refine .bind (AntseedEmissions.claimBuyerEpochs_meets 0 _) ?_
    rintro ⟨legacy, totalReward⟩ same
    have sellers : legacy.sellers = s.legacy.sellers := same
    refine .ite (fun _ => skip fun ants => ?_) fun _ => ?_
    · exact .pure (.legacySame (by rw [sellers]) (by rw [sellers]))
    · exact .pure (.legacySame (by rw [sellers]) (by rw [sellers]))
  · exact .skip fun out => pure (.quiet (.legacySame rfl rfl) s.pool.owner rfl)
  · refine .bind (accrueSellerPoints_meets _) fun v2 frozen => ?_
    exact .pure (.quiet (.v2 frozen) s.pool.owner rfl)
  · refine .bind (accrueBuyerPoints_meets _) fun v2 frozen => ?_
    exact .pure (.quiet (.v2 frozen) s.pool.owner rfl)
  · refine .bind (accruePoints_meets _) fun v2 frozen => ?_
    exact .pure (.quiet (.v2 frozen) s.pool.owner rfl)
  · exact claimSellerEmissions_meets
  · refine .bind (Q := fun out : AntseedEmissionsV2 × Erc20 => s.Settles { s with
      v2 := out.1, ants := out.2 }) ?_ fun out settles => pure (.quiet settles s.pool.owner rfl)
    refine .skip fun _ => skip fun _ => skip fun epoch => ?_
    refine .bind (claimBuyerEpochs_meets 0 _) ?_
    rintro ⟨v2, totalReward⟩ ⟨sellers, params⟩
    refine .ite (fun _ => skip fun ants => ?_) fun _ => ?_
    · exact .pure (.v2 (.of_eq sellers params))
    · exact .pure (.v2 (.of_eq sellers params))
  · refine .bind (administer_meets _) ?_
    rintro ⟨v2, ants⟩ ⟨sellers, params⟩
    exact .pure (.quiet (.v2 (.of_eq sellers params)) s.pool.owner rfl)
  · refine .bind recordLockedReward_meets fun pool recorded => ?_
    exact absurd recorded.1 call.outside.1
  next recipient isClaim => exact .of_returned (fun _ => trivial) fun _ taken => .released isClaim taken
  next policy _ =>
    refine .bind (Q := fun pool => pool = { s.pool with
      sellerClaimPolicy := policy
      events := .sellerClaimPolicySet policy :: s.pool.events }) ?_ ?_
    · exact .skip fun _ => pure rfl
    · rintro pool rfl
      exact .pure (.policySet policy)
  · refine .bind (Q := fun pool => ∃ owner, pool = { s.pool with owner }) ?_ ?_
    · exact .skip fun _ => skip fun _ => pure ⟨_, rfl⟩
    · rintro pool ⟨owner, rfl⟩
      exact .pure (.quiet ⟨le_refl _, rfl, fun _ _ _ => rfl⟩ owner rfl)
  · exact .skip fun ants => pure (.quiet (.legacySame rfl rfl) s.pool.owner rfl)
  · exact .pure (.quiet ⟨le_add_right _ _, rfl, fun _ _ _ => rfl⟩ s.pool.owner rfl)

end AntSeed.Legacy
