import AntSeed.Lib.EpochPoints
import AntSeed.Staking.Reserve

/-! # The reward points of DiemStakingProxy

The ANTS of an epoch are shared by points, and points are read off the USDC
index: an epoch is closed by writing the index down, and a staker that is
captured gets, for every epoch since it was last seen, its stake times the growth
of the index in that epoch. This module says what each function of the proxy does
to the points, and to the pots they are for.
-/

namespace AntSeed.Staking

open Evm Function Nat
open EpochPoints

namespace DiemStakingProxy

variable {s s' t : DiemStakingProxy} {ctx : ProxyContext} {account : Address}

def points (s : DiemStakingProxy) : EpochPoints Address where
  index := s.usdcRewardPerTokenStored
  indexAtEnd n := (s.rewardEpochs n).revenuePerTokenAtEnd
  epoch := s.syncedRewardEpoch
  total n := (s.rewardEpochs n).totalPoints
  running := s.currentEpochRevenuePoints
  points := s.userPoints
  snap := s.userRevenuePerTokenSnap
  seen := s.userCurrentEpoch
  shares := s.staked
  totalShares := s.totalStaked

/-- Epochs may have been closed, but no pot has changed. -/
structure Carries (s s' : DiemStakingProxy) : Prop where
  later : s.syncedRewardEpoch ≤ s'.syncedRewardEpoch
  pots : ∀ n, (s'.rewardEpochs n).antsPot = (s.rewardEpochs n).antsPot
  funded : ∀ n, (s'.rewardEpochs n).funded = (s.rewardEpochs n).funded
  totals : ∀ n, n < s.syncedRewardEpoch →
    (s'.rewardEpochs n).totalPoints = (s.rewardEpochs n).totalPoints

theorem Carries.trans (first : Carries s t) (second : Carries t s') : Carries s s' where
  later := le_trans first.later second.later
  pots n := (second.pots n).trans (first.pots n)
  funded n := (second.funded n).trans (first.funded n)
  totals n closed :=
    (second.totals n (lt_of_lt_of_le closed first.later)).trans (first.totals n closed)

theorem carries_of_same (synced : s'.syncedRewardEpoch = s.syncedRewardEpoch)
    (epochs : s'.rewardEpochs = s.rewardEpochs) : Carries s s' where
  later := le_of_eq synced.symm
  pots n := by rw [epochs]
  funded n := by rw [epochs]
  totals n _ := by rw [epochs]

theorem points_closeRewardEpoch (s : DiemStakingProxy) : s.closeRewardEpoch.points = s.points.close := by
  have ends : (fun n => (s.closeRewardEpoch.rewardEpochs n).revenuePerTokenAtEnd) =
      update (fun n => (s.rewardEpochs n).revenuePerTokenAtEnd) s.syncedRewardEpoch
        s.usdcRewardPerTokenStored := by
    funext n
    by_cases here : n = s.syncedRewardEpoch
    · subst here
      simp [closeRewardEpoch]
    · simp [closeRewardEpoch, here]
  have totals : (fun n => (s.closeRewardEpoch.rewardEpochs n).totalPoints) =
      update (fun n => (s.rewardEpochs n).totalPoints) s.syncedRewardEpoch
        s.currentEpochRevenuePoints := by
    funext n
    by_cases here : n = s.syncedRewardEpoch
    · subst here
      simp [closeRewardEpoch]
    · simp [closeRewardEpoch, here]
  unfold points
  rw [ends, totals]
  rfl

theorem carries_closeRewardEpoch (s : DiemStakingProxy) : Carries s s.closeRewardEpoch where
  later := le_succ _
  pots n := by
    by_cases here : n = s.syncedRewardEpoch
    · subst here
      simp [closeRewardEpoch]
    · simp [closeRewardEpoch, here]
  funded n := by
    by_cases here : n = s.syncedRewardEpoch
    · subst here
      simp [closeRewardEpoch]
    · simp [closeRewardEpoch, here]
  totals n closed := by
    simp [closeRewardEpoch, Nat.ne_of_lt closed]

/-- What a function does that closes epochs and nothing else: the books of every epoch are as
    before, and so is everything that is read of a staker. -/
structure Closes (s s' : DiemStakingProxy) : Prop where
  carries : Carries s s'
  points : ∃ rounds, s'.points = EpochPoints.close^[rounds] s.points

theorem Closes.refl (s : DiemStakingProxy) : Closes s s where
  carries := carries_of_same rfl rfl
  points := ⟨0, rfl⟩

theorem Closes.trans (first : Closes s t) (second : Closes t s') : Closes s s' where
  carries := first.carries.trans second.carries
  points := by
    obtain ⟨before, isMiddle⟩ := first.points
    obtain ⟨after, isEnd⟩ := second.points
    exact ⟨after + before, by rw [isEnd, isMiddle, Function.iterate_add_apply]⟩

theorem closes_of_same (points : s'.points = s.points) (epochs : s'.rewardEpochs = s.rewardEpochs) :
    Closes s s' where
  carries := carries_of_same (congrArg EpochPoints.epoch points) epochs
  points := ⟨0, points⟩

theorem updateUsdcForUser_points (h : s.updateUsdcForUser account = .ok s') :
    s'.points = s.points ∧ s'.rewardEpochs = s.rewardEpochs := by
  unfold updateUsdcForUser at h
  split at h
  · obtain ⟨_, -, h⟩ := ran h
    obtain ⟨_, -, h⟩ := ran h
    obtain ⟨_, -, h⟩ := ran h
    cases h
    exact ⟨rfl, rfl⟩
  · cases h
    exact ⟨rfl, rfl⟩

theorem closes_updateUsdcForUser (h : s.updateUsdcForUser account = .ok s') : Closes s s' :=
  closes_of_same (updateUsdcForUser_points h).1 (updateUsdcForUser_points h).2

theorem closes_syncRewardEpochsUntil (s : DiemStakingProxy) (target : Nat) :
    Closes s (s.syncRewardEpochsUntil target) ∧
      (s.syncRewardEpochsUntil target).syncedRewardEpoch = max s.syncedRewardEpoch target := by
  unfold syncRewardEpochsUntil
  generalize isRounds : target - s.syncedRewardEpoch = rounds
  induction rounds generalizing s with
  | zero => exact ⟨.refl s, by simp only [Function.iterate_zero, id_eq]; omega⟩
  | succ rounds ih =>
    have synced : s.closeRewardEpoch.syncedRewardEpoch = s.syncedRewardEpoch + 1 := rfl
    obtain ⟨⟨carries, more, closed⟩, reached⟩ := ih s.closeRewardEpoch (by omega)
    rw [Function.iterate_succ_apply]
    refine ⟨⟨(carries_closeRewardEpoch s).trans carries, more + 1, ?_⟩, by omega⟩
    rw [closed, points_closeRewardEpoch, Function.iterate_succ_apply]

section Closed

variable {n dropped rounded : Nat}

theorem Closes.kept (h : Closes s s') (kept : s.points.Kept ray n dropped rounded) :
    s'.points.Kept ray n dropped rounded := by
  obtain ⟨rounds, closed⟩ := h.points
  rw [closed]
  clear closed
  induction rounds with
  | zero => exact kept
  | succ rounds ih =>
    rw [Function.iterate_succ_apply']
    exact ih.close

theorem Closes.closing (h : Closes s s') : EpochPoints.Closing s.points s'.points := by
  obtain ⟨rounds, closed⟩ := h.points
  rw [closed]
  exact EpochPoints.closing_iterate s.points rounds

theorem Closes.books (h : Closes s s') (n : Nat) : s'.points.books n = s.points.books n :=
  h.closing.books n

theorem Closes.seen (h : Closes s s') : s'.userCurrentEpoch = s.userCurrentEpoch :=
  h.closing.seen

end Closed

theorem closes_syncForUpdate (h : s.syncFinalizedRewardEpochsForUpdate ctx = .ok s') :
    Closes s s' ∧ s'.syncedRewardEpoch = max s.syncedRewardEpoch ctx.epoch := by
  obtain ⟨finalized, isFinalized, h⟩ := ran h
  replace h := rest_ok h
  replace isFinalized := rest_ok isFinalized
  cases isFinalized
  cases h
  exact closes_syncRewardEpochsUntil s ctx.epoch

theorem closes_syncBounded (h : s.syncFinalizedRewardEpochsBounded ctx maxEpochs = .ok (s', synced)) :
    Closes s s' ∧ s'.syncedRewardEpoch =
      max s.syncedRewardEpoch (min (s.syncedRewardEpoch + maxEpochs) ctx.epoch) := by
  obtain ⟨finalized, isFinalized, h⟩ := ran h
  replace isFinalized := rest_ok isFinalized
  cases isFinalized
  replace h := uint_rest h
  have target : (if s.syncedRewardEpoch + maxEpochs > ctx.epoch then ctx.epoch
      else s.syncedRewardEpoch + maxEpochs) = min (s.syncedRewardEpoch + maxEpochs) ctx.epoch := by
    split <;> omega
  dsimp only at h
  rw [target] at h
  split at h
  · cases h
    exact closes_syncRewardEpochsUntil s _
  · cases h
    exact ⟨.refl s, by omega⟩

theorem closes_syncForClaim (h : s.syncForClaim target = .ok s') :
    Closes s s' ∧ s'.syncedRewardEpoch = max s.syncedRewardEpoch target := by
  unfold syncForClaim at h
  split at h
  · replace h := rest_ok h
    cases h
    exact closes_syncRewardEpochsUntil s target
  · cases h
    exact ⟨.refl s, by omega⟩

/-- The points of one staker, changed as a whole. -/
def withPoints (s : DiemStakingProxy) (account : Address) (points : Nat → Nat) : DiemStakingProxy :=
  { s with userPoints := update s.userPoints account points }

theorem withPoints_self (s : DiemStakingProxy) (account : Address) :
    s.withPoints account (s.userPoints account) = s := by
  unfold withPoints
  rw [Function.update_eq_self]

theorem withPoints_withPoints (s : DiemStakingProxy) (account : Address) (first second : Nat → Nat) :
    (s.withPoints account first).withPoints account second = s.withPoints account second := by
  simp [withPoints]

@[simp] theorem withPoints_userPoints (s : DiemStakingProxy) (account : Address)
    (points : Nat → Nat) : (s.withPoints account points).userPoints account = points :=
  update_self ..

theorem addUserPoints_eq {epoch stake segStart segEnd : Nat}
    (h : s.addUserPoints account epoch stake segStart segEnd = .ok s') :
    s' = s.withPoints account (update (s.userPoints account) epoch
      (s.userPoints account epoch + stake * (segEnd - segStart) / ray)) := by
  unfold addUserPoints at h
  split at h
  next idle =>
    cases h
    have nothing : stake * (segEnd - segStart) = 0 := by
      rcases idle with none | short
      · rw [none, zero_mul]
      · rw [Nat.sub_eq_zero_of_le short, Nat.mul_zero]
    rw [nothing, Nat.zero_div, Nat.add_zero, Function.update_eq_self, withPoints_self]
  · replace h := uint_rest h
    replace h := uint_rest h
    cases h
    rfl

def closedSegment (s : DiemStakingProxy) (stake userEp userSnap epoch : Nat) : Nat :=
  stake * ((s.rewardEpochs epoch).revenuePerTokenAtEnd - s.segmentStart userEp userSnap epoch) / ray

theorem addClosedPoints_eq {stake userEp userSnap count epoch : Nat}
    (h : addClosedPoints account stake userEp userSnap count epoch s = .ok s') :
    s' = s.withPoints account fun n =>
      if epoch ≤ n ∧ n < epoch + count then
        s.userPoints account n + s.closedSegment stake userEp userSnap n
      else s.userPoints account n := by
  induction count generalizing epoch s with
  | zero =>
    cases h
    have none : ∀ n, ¬ (epoch ≤ n ∧ n < epoch + 0) := fun n => by omega
    simp only [none, if_false]
    exact (withPoints_self _ account).symm
  | succ count ih =>
    obtain ⟨t, added, h⟩ := ran h
    have rest := ih h
    have one := addUserPoints_eq added
    have segment : ∀ n, t.closedSegment stake userEp userSnap n =
        s.closedSegment stake userEp userSnap n := fun n => by subst one; rfl
    simp only [segment] at rest
    rw [rest, one, withPoints_withPoints, withPoints_userPoints]
    congr 1
    funext n
    by_cases here : n = epoch
    · subst here
      rw [if_neg (fun inside => not_succ_le_self n inside.1), if_pos (by omega), update_self]
      rfl
    · rw [update_of_ne here]
      exact if_congr (by omega) rfl rfl

theorem pending_segment {n : Nat} (reached : s.userCurrentEpoch account ≤ n)
    (known : n ≤ s.syncedRewardEpoch) :
    (s.points.books n).pending account = s.staked account * (s.points.indexAt n -
      s.segmentStart (s.userCurrentEpoch account) (s.userRevenuePerTokenSnap account) n) := by
  have settled : s.points.settledAt n account = s.segmentStart (s.userCurrentEpoch account)
      (s.userRevenuePerTokenSnap account) n := by
    unfold settledAt segmentStart indexAt
    dsimp only [points]
    grind
  rw [← settled]
  rfl

theorem earned_segment (reached : s.userCurrentEpoch account ≤ n)
    (known : n ≤ s.syncedRewardEpoch) :
    (s.points.books n).earned ray account = s.userPoints account n + s.staked account *
      (s.points.indexAt n - s.segmentStart (s.userCurrentEpoch account)
        (s.userRevenuePerTokenSnap account) n) / ray := by
  rw [← pending_segment reached known]
  rfl

theorem earned_past (past : n < s.userCurrentEpoch account) :
    (s.points.books n).earned ray account = s.userPoints account n := by
  rw [Dividends.earned, EpochPoints.pending_of_seen past, Nat.zero_div, Nat.add_zero]
  rfl

theorem addClosedPoints_earned (closed : target ≤ s.syncedRewardEpoch)
    (h : addClosedPoints account (s.staked account) (s.userCurrentEpoch account)
      (s.userRevenuePerTokenSnap account) (target - s.userCurrentEpoch account)
      (s.userCurrentEpoch account) s = .ok s') :
    s' = s.withPoints account fun n =>
      if n < target then (s.points.books n).earned ray account else s.userPoints account n := by
  rw [addClosedPoints_eq h]
  congr 1
  funext n
  by_cases inside : n < target
  · by_cases reached : s.userCurrentEpoch account ≤ n
    · have index : s.points.indexAt n = (s.rewardEpochs n).revenuePerTokenAtEnd :=
        if_pos (lt_of_lt_of_le inside closed)
      rw [if_pos (by omega), if_pos inside, earned_segment reached (by omega), index]
      rfl
    · rw [if_neg (by omega), if_pos inside, earned_past (by omega)]
  · rw [if_neg (by omega), if_neg inside]

theorem earned_idle (idle : s.staked account = 0) (n : Nat) :
    (s.points.books n).earned ray account = s.userPoints account n := by
  have none : (s.points.books n).pending account = 0 := by
    simp [Dividends.pending, EpochPoints.books, points, idle]
  rw [Dividends.earned, none, Nat.zero_div, Nat.add_zero]
  rfl

theorem points_capture (s : DiemStakingProxy) (account : Address) :
    ((s.withPoints account fun n =>
        if n < s.syncedRewardEpoch + 1 then (s.points.books n).earned ray account
        else s.userPoints account n).snapUser account s.usdcRewardPerTokenStored
          s.syncedRewardEpoch).points = s.points.capture ray account := rfl

theorem captureUserPoints_eq (somebody : account ≠ 0)
    (begun : s.userCurrentEpoch account ≤ s.syncedRewardEpoch)
    (h : s.captureUserPoints account = .ok s') :
    s'.points = s.points.capture ray account ∧ Carries s s' := by
  unfold captureUserPoints at h
  rw [if_neg somebody] at h
  dsimp only at h
  split at h
  next idle =>
    cases h
    refine ⟨?_, carries_of_same rfl rfl⟩
    have same : (fun n => if n < s.syncedRewardEpoch + 1 then (s.points.books n).earned ray account
        else s.userPoints account n) = s.userPoints account := by
      simp only [earned_idle idle, ite_self]
    rw [← points_capture, same, withPoints_self]
  · replace h := rest_ok h
    obtain ⟨t, closed, h⟩ := ran h
    obtain ⟨u, opened, h⟩ := ran h
    cases h
    have first := addClosedPoints_earned (le_refl _) closed
    have second := addUserPoints_eq opened
    have index : t.usdcRewardPerTokenStored = s.points.indexAt s.syncedRewardEpoch := by
      rw [first]
      exact (if_neg (lt_irrefl _)).symm
    have start : t.segmentStart (s.userCurrentEpoch account) (s.userRevenuePerTokenSnap account)
        s.syncedRewardEpoch = s.segmentStart (s.userCurrentEpoch account)
          (s.userRevenuePerTokenSnap account) s.syncedRewardEpoch := by rw [first]; rfl
    have both : u = s.withPoints account fun n =>
        if n < s.syncedRewardEpoch + 1 then (s.points.books n).earned ray account
        else s.userPoints account n := by
      rw [second, index, start, first, withPoints_withPoints, withPoints_userPoints]
      congr 1
      funext n
      by_cases here : n = s.syncedRewardEpoch
      · subst here
        rw [update_self, if_neg (lt_irrefl _), if_pos (lt_succ_self _),
          earned_segment begun (le_refl _)]
      · rw [update_of_ne here]
        exact if_congr (by omega) rfl rfl
    subst both
    exact ⟨points_capture s account, carries_of_same rfl rfl⟩

/-- The fraction of a point of an epoch that a staker drops when it is captured. -/
def pointFraction (s : DiemStakingProxy) (n : Nat) (account : Address) : Nat :=
  (s.points.books n).pending account % ray

/-- A staker has been brought up to date. -/
structure Captured (account : Address) (s s' : DiemStakingProxy) : Prop where
  kept : ∀ {n dropped rounded : Nat}, s.points.Kept ray n dropped rounded →
    s'.points.Kept ray n dropped (rounded + s.pointFraction n account)
  carries : Carries s s'
  seen : s'.userCurrentEpoch account = s'.syncedRewardEpoch
  snap : s'.userRevenuePerTokenSnap account = s'.usdcRewardPerTokenStored

theorem captured_of_closes (somebody : account ≠ 0) (begun : ∀ a, s.points.seen a ≤ s.points.epoch)
    (closes : Closes s t) (h : t.captureUserPoints account = .ok s') :
    Captured account s s' ∧ t.syncedRewardEpoch ≤ s'.syncedRewardEpoch := by
  have known : t.userCurrentEpoch account ≤ t.syncedRewardEpoch := by
    rw [closes.seen]
    exact le_trans (begun account) closes.carries.later
  obtain ⟨captured, carries⟩ := captureUserPoints_eq somebody known h
  refine ⟨⟨fun kept => ?_, closes.carries.trans carries, ?_, ?_⟩, carries.later⟩
  · unfold pointFraction
    rw [captured, ← closes.books]
    exact (closes.kept kept).capture account
  · calc s'.points.seen account
        = (t.points.capture ray account).seen account := by rw [captured]
      _ = (t.points.capture ray account).epoch := update_self ..
      _ = s'.points.epoch := by rw [captured]
  · calc s'.points.snap account
        = (t.points.capture ray account).snap account := by rw [captured]
      _ = (t.points.capture ray account).index := update_self ..
      _ = s'.points.index := by rw [captured]

theorem captured_updateRewards (somebody : account ≠ 0) (begun : ∀ a, s.points.seen a ≤ s.points.epoch)
    (h : s.updateRewards ctx account = .ok s') : Captured account s s' := by
  obtain ⟨t, updated, h⟩ := ran h
  obtain ⟨u, synced, h⟩ := ran h
  exact (captured_of_closes somebody begun
    ((closes_updateUsdcForUser updated).trans (closes_syncForUpdate synced).1) h).1

/-- Where `catchUpPoints` brings a staker to. -/
def catchUpTarget (s : DiemStakingProxy) (epoch : Nat) (account : Address) (numEpochs : Nat) : Nat :=
  min (s.userCurrentEpoch account + numEpochs)
    (max s.syncedRewardEpoch (min (s.syncedRewardEpoch + numEpochs) epoch))

/-- What `catchUpPoints` does: epochs are closed, and the staker is brought to the end of one of
    them. -/
structure CaughtUp (account : Address) (target : Nat) (s u s' : DiemStakingProxy) : Prop where
  closes : Closes s u
  later : u.userCurrentEpoch account < target
  closed : target ≤ u.syncedRewardEpoch
  points : s'.points = u.points.catchUp ray account target
  carries : Carries u s'

theorem catchUpPoints_caughtUp (begun : s.userCurrentEpoch ctx.sender ≤ s.syncedRewardEpoch)
    (taken : s.catchUpPoints ctx numEpochs = .ok s') :
    ∃ u, CaughtUp ctx.sender (s.catchUpTarget ctx.epoch ctx.sender numEpochs) s u s' ∧
      u.syncedRewardEpoch =
        max s.syncedRewardEpoch (min (s.syncedRewardEpoch + numEpochs) ctx.epoch) := by
  replace taken := rest_ok taken
  replace taken := rest_ok taken
  replace taken := rest_ok taken
  obtain ⟨t, updated, taken⟩ := ran taken
  obtain ⟨⟨u, closed⟩, synced, taken⟩ := ran taken
  replace taken := uint_rest taken
  obtain ⟨_, moving, taken⟩ := ran taken
  obtain ⟨v, added, taken⟩ := ran taken
  obtain ⟨last, isLast, taken⟩ := ran taken
  obtain ⟨same, epochs⟩ := updateUsdcForUser_points updated
  obtain ⟨second, reached⟩ := closes_syncBounded synced
  have closes : Closes s u := (closes_of_same same epochs).trans second
  have unsynced : t.syncedRewardEpoch = s.syncedRewardEpoch := congrArg EpochPoints.epoch same
  rw [unsynced] at reached
  generalize isTarget : (if u.userCurrentEpoch ctx.sender + numEpochs > u.syncedRewardEpoch then
    u.syncedRewardEpoch else u.userCurrentEpoch ctx.sender + numEpochs) = target at *
  have targeted : target = s.catchUpTarget ctx.epoch ctx.sender numEpochs := by
    rw [catchUpTarget, ← isTarget, closes.seen, reached]
    split <;> omega
  have closed : target ≤ u.syncedRewardEpoch := by
    rw [← isTarget]
    split <;> omega
  have known : u.userCurrentEpoch ctx.sender ≤ u.syncedRewardEpoch := by
    rw [closes.seen]
    exact le_trans begun closes.carries.later
  have later : u.userCurrentEpoch ctx.sender < target := by
    have different := require_eq_ok.mp moving
    have reaches : u.userCurrentEpoch ctx.sender ≤ target := by
      rw [← isTarget]
      split <;> omega
    exact lt_of_le_of_ne reaches (Ne.symm different)
  obtain ⟨-, rfl⟩ := sub_eq_ok.mp isLast
  have isAdded := addClosedPoints_earned closed added
  have index : (v.rewardEpochs (target - 1)).revenuePerTokenAtEnd = u.points.indexAt (target - 1) := by
    rw [isAdded]
    exact (if_pos (by change target - 1 < u.syncedRewardEpoch; omega)).symm
  have caughtUp : s'.points = u.points.catchUp ray ctx.sender target := by
    cases taken
    rw [index, isAdded]
    rfl
  have carries : Carries u s' := by
    cases taken
    subst isAdded
    exact carries_of_same rfl rfl
  rw [← targeted]
  exact ⟨u, ⟨closes, later, closed, caughtUp, carries⟩, reached⟩

section Calls

variable {n dropped rounded : Nat} (kept : s.points.Kept ray n dropped rounded)

include kept

theorem stake_points (somebody : ctx.sender ≠ 0)
    (taken : s.stake diem ctx amount = .ok (s', diem')) :
    s'.points.Kept ray n dropped (rounded + s.pointFraction n ctx.sender) ∧ Carries s s' := by
  obtain ⟨-, t, -, updated, -, -, rfl⟩ := stake_eq taken
  have captured := captured_updateRewards somebody kept.begun updated
  refine ⟨(captured.kept kept).setShares (k := ctx.sender) captured.seen captured.snap ?_,
    captured.carries.trans (carries_of_same rfl rfl)⟩
  change t.totalStaked + amount + t.staked ctx.sender = t.totalStaked + (t.staked ctx.sender + amount)
  omega

omit kept in
theorem joinBatch_points (h : s.joinBatch batchId user = .ok s') :
    s'.points = s.points ∧ s'.rewardEpochs = s.rewardEpochs := by
  unfold joinBatch at h
  split at h
  · replace h := rest_ok h
    obtain ⟨_, -, h⟩ := ran h
    cases h
    exact ⟨rfl, rfl⟩
  · cases h
    exact ⟨rfl, rfl⟩

theorem initiateUnstake_points (somebody : ctx.sender ≠ 0)
    (taken : s.initiateUnstake ctx amount = .ok s') :
    s'.points.Kept ray n dropped (rounded + s.pointFraction n ctx.sender) ∧ Carries s s' := by
  replace taken := rest_ok taken
  obtain ⟨t, updated, taken⟩ := ran taken
  replace taken := rest_ok taken
  replace taken := rest_ok taken
  obtain ⟨u, joined, taken⟩ := ran taken
  obtain ⟨newStake, isStake, taken⟩ := ran taken
  obtain ⟨newTotal, isTotal, taken⟩ := ran taken
  obtain ⟨count, -, taken⟩ := ran taken
  obtain ⟨amt128, -, taken⟩ := ran taken
  obtain ⟨queued, -, taken⟩ := ran taken
  obtain ⟨total, -, taken⟩ := ran taken
  cases taken
  obtain ⟨enough, rfl⟩ := sub_eq_ok.mp isStake
  obtain ⟨covered, rfl⟩ := sub_eq_ok.mp isTotal
  have captured := captured_updateRewards somebody kept.begun updated
  obtain ⟨same, epochs⟩ := joinBatch_points joined
  have before : u.points.Kept ray n dropped _ := same ▸ captured.kept kept
  have seen : u.points.seen ctx.sender = u.points.epoch := same ▸ captured.seen
  have snap : u.points.snap ctx.sender = u.points.index := same ▸ captured.snap
  have joins : Carries t u := carries_of_same (congrArg epoch same) epochs
  refine ⟨before.setShares (k := ctx.sender) seen snap ?_,
    (captured.carries.trans joins).trans (carries_of_same rfl rfl)⟩
  change u.totalStaked - amount + u.staked ctx.sender = u.totalStaked + (u.staked ctx.sender - amount)
  omega

theorem claimUsdc_points (somebody : ctx.sender ≠ 0)
    (taken : s.claimUsdc usdc ctx = .ok (s', usdc')) :
    s'.points.Kept ray n dropped (rounded + s.pointFraction n ctx.sender) ∧ Carries s s' := by
  obtain ⟨t, updated, -, rfl, -⟩ := claimUsdc_eq taken
  have captured := captured_updateRewards somebody kept.begun updated
  exact ⟨captured.kept kept, captured.carries.trans (carries_of_same rfl rfl)⟩

theorem catchUpPoints_points (taken : s.catchUpPoints ctx numEpochs = .ok s') :
    s'.points.Kept ray n dropped
      (rounded + if n < s.catchUpTarget ctx.epoch ctx.sender numEpochs then
        s.pointFraction n ctx.sender else 0) ∧ Carries s s' := by
  obtain ⟨u, caughtUp, -⟩ := catchUpPoints_caughtUp (kept.begun ctx.sender) taken
  refine ⟨?_, caughtUp.closes.carries.trans caughtUp.carries⟩
  rw [caughtUp.points, pointFraction, ← caughtUp.closes.books]
  exact (caughtUp.closes.kept kept).catchUp caughtUp.later caughtUp.closed

theorem syncRewardEpochs_points (taken : s.syncRewardEpochs ctx maxEpochs = .ok s') :
    s'.points.Kept ray n dropped rounded ∧ Carries s s' := by
  replace taken := rest_ok taken
  replace taken := rest_ok taken
  obtain ⟨⟨synced, count⟩, bounded, taken⟩ := ran taken
  replace taken := rest_ok taken
  cases taken
  obtain ⟨closes, -⟩ := closes_syncBounded bounded
  exact ⟨closes.kept kept, closes.carries⟩

theorem distributeUsdcInstant_points (taken : s.distributeUsdcInstant ctx amount = .ok s') :
    s'.points.Kept ray n
      (dropped + if n = max s.syncedRewardEpoch ctx.epoch then
        amount * ray / s.totalStaked * s.totalStaked % ray else 0) rounded ∧ Carries s s' := by
  unfold distributeUsdcInstant at taken
  split at taken
  next idle =>
    cases taken
    have none : amount * ray / s.totalStaked * s.totalStaked = 0 := by
      rcases idle with zero | zero
      · simp [zero]
      · simp [zero]
    rw [none, zero_mod, ite_self]
    exact ⟨kept, carries_of_same rfl rfl⟩
  · obtain ⟨t, synced, taken⟩ := ran taken
    replace taken := uint_rest taken
    obtain ⟨delta, isDelta, taken⟩ := ran taken
    obtain ⟨-, rfl⟩ := div_eq_ok.mp isDelta
    have stakes : t.totalStaked = s.totalStaked :=
      congrArg Dividends.totalShares (syncForUpdate_meets.result synced)
    obtain ⟨closes, opened⟩ := closes_syncForUpdate synced
    rw [← opened, ← stakes]
    split at taken
    next nothing =>
      cases taken
      rw [nothing, zero_mul, zero_mod, ite_self]
      exact ⟨closes.kept kept, closes.carries⟩
    · replace taken := uint_rest taken
      replace taken := uint_rest taken
      replace taken := uint_rest taken
      obtain ⟨reserved, -, taken⟩ := ran taken
      obtain ⟨ever, -, taken⟩ := ran taken
      cases taken
      exact ⟨(closes.kept kept).distribute _, closes.carries.trans (carries_of_same rfl rfl)⟩

theorem forwardRevenue_points (taken : s.forwardRevenue usdc ctx = .ok (s', usdc')) :
    s'.points.Kept ray n
      (dropped + if n = max s.syncedRewardEpoch ctx.epoch then
        s.reserveFraction ctx.self ctx.payment else 0) rounded ∧ Carries s s' := by
  obtain ⟨net, distributed, fraction⟩ := forwardRevenue_eq taken
  rw [fraction]
  exact distributeUsdcInstant_points kept distributed

end Calls

end DiemStakingProxy

end AntSeed.Staking
