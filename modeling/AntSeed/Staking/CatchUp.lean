import AntSeed.Staking.AntsPot
import AntSeed.Staking.UnstakeBatches

/-! # Catching up on points

A capture may cross only so many epochs, so a staker that was away for longer
brings itself forward with `catchUpPoints`, in steps of any size. What it has
earned in an epoch does not depend on the steps: the points it is captured with
are the same, and so is what its claims are paid.
-/

namespace AntSeed.Staking

open Evm Function
open DiemStakingProxy

namespace DiemStakingProxy

variable {s s' t t' : DiemStakingProxy} {ctx : ProxyContext} {account : Address}

/-- A segment of a staker's points does not overflow. -/
def Fits (points scaled : Nat) : Prop :=
  scaled ≠ 0 → scaled < 2 ^ 256 ∧ points + scaled / ray < 2 ^ 256

theorem addUserPoints_returns_iff {epoch stake segStart segEnd : Nat} :
    (∃ s', s.addUserPoints account epoch stake segStart segEnd = .ok s') ↔
      Fits (s.userPoints account epoch) (stake * (segEnd - segStart)) := by
  unfold addUserPoints Fits
  split
  next idle =>
    have nothing : stake * (segEnd - segStart) = 0 := by
      rcases idle with none | short
      · rw [none, Nat.zero_mul]
      · rw [Nat.sub_eq_zero_of_le short, Nat.mul_zero]
    exact ⟨fun _ some => absurd nothing some, fun _ => ⟨s, rfl⟩⟩
  next busy =>
    have some : stake * (segEnd - segStart) ≠ 0 := Nat.mul_ne_zero (by omega) (by omega)
    constructor
    · rintro ⟨s', h⟩ _
      obtain ⟨scaled, isScaled, h⟩ := ran h
      obtain ⟨points, isPoints, h⟩ := ran h
      obtain ⟨small, rfl⟩ := uint_eq_ok.mp isScaled
      exact ⟨small, (uint_eq_ok.mp isPoints).1⟩
    · intro fits
      obtain ⟨small, room⟩ := fits some
      simp [uint_fits small, uint_fits room]

theorem addClosedPoints_returns_iff {stake userEp userSnap count epoch : Nat} :
    (∃ s', addClosedPoints account stake userEp userSnap count epoch s = .ok s') ↔
      ∀ n, epoch ≤ n → n < epoch + count →
        Fits (s.userPoints account n)
          (stake * ((s.rewardEpochs n).revenuePerTokenAtEnd - s.segmentStart userEp userSnap n)) := by
  induction count generalizing epoch s with
  | zero => exact ⟨fun _ n _ _ => by omega, fun _ => ⟨s, rfl⟩⟩
  | succ count ih =>
    -- Adding the points of one epoch leaves the segments of the others as they were.
    have later : ∀ t, s.addUserPoints account epoch stake (s.segmentStart userEp userSnap epoch)
        (s.rewardEpochs epoch).revenuePerTokenAtEnd = .ok t → ∀ n, epoch < n →
        Fits (t.userPoints account n)
          (stake * ((t.rewardEpochs n).revenuePerTokenAtEnd - t.segmentStart userEp userSnap n)) =
        Fits (s.userPoints account n)
          (stake * ((s.rewardEpochs n).revenuePerTokenAtEnd - s.segmentStart userEp userSnap n)) := by
      intro t added n after
      have isAdded := addUserPoints_eq added
      subst isAdded
      rw [withPoints_userPoints, update_of_ne (Nat.ne_of_gt after)]
      rfl
    constructor
    · rintro ⟨s', h⟩ n from_ until_
      obtain ⟨t, added, h⟩ := ran h
      rcases Nat.eq_or_lt_of_le from_ with rfl | after
      · exact addUserPoints_returns_iff.mp ⟨t, added⟩
      · rw [← later t added n after]
        exact ih.mp ⟨s', h⟩ n after (by omega)
    · intro fits
      obtain ⟨t, added⟩ := addUserPoints_returns_iff.mpr (fits epoch (Nat.le_refl _) (by omega))
      have returns : ∃ s', addClosedPoints account stake userEp userSnap count (epoch + 1) t =
          .ok s' := by
        refine ih.mpr fun n after until_ => ?_
        rw [later t added n after]
        exact fits n (Nat.le_of_succ_le after) (by omega)
      obtain ⟨s', rest⟩ := returns
      exact ⟨s', bind_eq_ok.mpr ⟨t, added, rest⟩⟩

/-- A capture returns exactly if the staker was not away for too long and none of its segments
    overflows. -/
theorem captureUserPoints_returns_iff (somebody : account ≠ 0)
    (begun : s.userCurrentEpoch account ≤ s.syncedRewardEpoch) :
    (∃ s', s.captureUserPoints account = .ok s') ↔
      s.staked account = 0 ∨
        (s.syncedRewardEpoch - s.userCurrentEpoch account ≤ maxEpochsPerCapture ∧
          ∀ n, Fits (s.userPoints account n) ((s.points.books n).pending account)) := by
  have shut : ∀ n, s.userCurrentEpoch account ≤ n → n < s.syncedRewardEpoch →
      (s.points.books n).pending account = s.staked account *
        ((s.rewardEpochs n).revenuePerTokenAtEnd - s.segmentStart (s.userCurrentEpoch account)
          (s.userRevenuePerTokenSnap account) n) := by
    intro n reached closed
    rw [pending_segment reached (Nat.le_of_lt closed)]
    exact congrArg (fun index => s.staked account * (index - _)) (if_pos closed)
  have running : (s.points.books s.syncedRewardEpoch).pending account = s.staked account *
      (s.usdcRewardPerTokenStored - s.segmentStart (s.userCurrentEpoch account)
        (s.userRevenuePerTokenSnap account) s.syncedRewardEpoch) := by
    rw [pending_segment begun (Nat.le_refl _)]
    exact congrArg (fun index => s.staked account * (index - _)) (if_neg (Nat.lt_irrefl _))
  -- The loop leaves what is read of the open epoch alone.
  have opened : ∀ t, addClosedPoints account (s.staked account) (s.userCurrentEpoch account)
      (s.userRevenuePerTokenSnap account) (s.syncedRewardEpoch - s.userCurrentEpoch account)
      (s.userCurrentEpoch account) s = .ok t →
      ((∃ u, t.addUserPoints account s.syncedRewardEpoch (s.staked account)
        (t.segmentStart (s.userCurrentEpoch account) (s.userRevenuePerTokenSnap account)
          s.syncedRewardEpoch) t.usdcRewardPerTokenStored = .ok u) ↔
        Fits (s.userPoints account s.syncedRewardEpoch)
          ((s.points.books s.syncedRewardEpoch).pending account)) := by
    intro t closed
    have isClosed := addClosedPoints_eq closed
    subst isClosed
    rw [addUserPoints_returns_iff, withPoints_userPoints, if_neg (by omega), running]
    rfl
  have further : ¬ (s.syncedRewardEpoch > s.userCurrentEpoch account ∧
      s.syncedRewardEpoch - s.userCurrentEpoch account > maxEpochsPerCapture) ↔
      s.syncedRewardEpoch - s.userCurrentEpoch account ≤ maxEpochsPerCapture := by omega
  unfold captureUserPoints
  rw [if_neg somebody]
  by_cases idle : s.staked account = 0
  · rw [if_pos idle]
    exact ⟨fun _ => .inl idle, fun _ => ⟨_, rfl⟩⟩
  rw [if_neg idle]
  constructor
  · rintro ⟨s', h⟩
    obtain ⟨_, near, h⟩ := ran h
    obtain ⟨t, closed, h⟩ := ran h
    obtain ⟨u, added, h⟩ := ran h
    refine .inr ⟨further.mp (require_eq_ok.mp near), fun n => ?_⟩
    rcases Nat.lt_or_ge n (s.userCurrentEpoch account) with past | reached
    · rw [EpochPoints.pending_of_seen past]
      exact fun some => absurd rfl some
    rcases Nat.lt_trichotomy n s.syncedRewardEpoch with before | rfl | after
    · rw [shut n reached before]
      exact addClosedPoints_returns_iff.mp ⟨t, closed⟩ n reached (by omega)
    · exact (opened t closed).mp ⟨u, added⟩
    · rw [EpochPoints.pending_ahead begun after]
      exact fun some => absurd rfl some
  · rintro (none | ⟨near, fits⟩)
    · exact absurd none idle
    have closes : ∃ t, addClosedPoints account (s.staked account) (s.userCurrentEpoch account)
        (s.userRevenuePerTokenSnap account) (s.syncedRewardEpoch - s.userCurrentEpoch account)
        (s.userCurrentEpoch account) s = .ok t := by
      refine addClosedPoints_returns_iff.mpr fun n reached before => ?_
      rw [← shut n reached (by omega)]
      exact fits n
    obtain ⟨t, closed⟩ := closes
    obtain ⟨u, added⟩ := (opened t closed).mpr (fits _)
    exact ⟨_, bind_eq_ok.mpr ⟨(), require_eq_ok.mpr (further.mpr near),
      bind_eq_ok.mpr ⟨t, closed, bind_eq_ok.mpr ⟨u, added, rfl⟩⟩⟩⟩

/-- The second state is the first one with epochs closed and one staker brought further. -/
structure Follows (account : Address) (s t : DiemStakingProxy) : Prop where
  points : EpochPoints.Ahead ray account s.points t.points
  pots : ∀ n, (t.rewardEpochs n).antsPot = (s.rewardEpochs n).antsPot
  funded : ∀ n, (t.rewardEpochs n).funded = (s.rewardEpochs n).funded
  spares : Spares s t
  usdc : t.books = s.books ∨ t.books = s.books.touch ray account

theorem Follows.refl (begun : s.userCurrentEpoch account ≤ s.syncedRewardEpoch) :
    Follows account s s where
  points := .refl begun
  pots _ := rfl
  funded _ := rfl
  spares := .refl s
  usdc := .inl rfl

section

variable (h : Follows account s t)

include h

/-- Another step of `catchUpPoints` on the second side: the staker moves by as many epochs as are
    closed, so it is never further behind than on the first. -/
theorem Follows.catchUp (somebody : account ≠ 0) (isSender : ctx.sender = account)
    (taken : t.catchUpPoints ctx numEpochs = .ok t') : Follows account s t' := by
  subst isSender
  obtain ⟨u, caughtUp, synced⟩ := catchUpPoints_caughtUp h.points.begun.2 taken
  have carries := caughtUp.closes.carries.trans caughtUp.carries
  refine ⟨?_, fun n => (carries.pots n).trans (h.pots n),
    fun n => (carries.funded n).trans (h.funded n), h.spares.trans (spares_catchUpPoints taken), ?_⟩
  · rw [caughtUp.points]
    refine h.points.catchUp caughtUp.closes.closing caughtUp.later caughtUp.closed ?_
    have closer : t.syncedRewardEpoch - t.userCurrentEpoch ctx.sender ≤
        s.syncedRewardEpoch - s.userCurrentEpoch ctx.sender := h.points.closer
    change u.syncedRewardEpoch - t.catchUpTarget ctx.epoch ctx.sender numEpochs ≤
      s.syncedRewardEpoch - s.userCurrentEpoch ctx.sender
    unfold catchUpTarget
    omega
  · right
    rw [books_catchUpPoints somebody taken]
    rcases h.usdc with same | touched
    · rw [same]
    · rw [touched, Dividends.touch_touch]

theorem Follows.staked : t.staked = s.staked :=
  congrArg Stakes.staked h.spares.stakes

theorem Follows.capture (somebody : account ≠ 0) (captured : s.captureUserPoints account = .ok s') :
    ∃ t', t.captureUserPoints account = .ok t' ∧ t'.userPoints = s'.userPoints ∧
      Follows account s' t' := by
  have returns : ∃ t', t.captureUserPoints account = .ok t' := by
    rw [captureUserPoints_returns_iff somebody h.points.begun.2, h.staked]
    rcases (captureUserPoints_returns_iff somebody h.points.begun.1).mp ⟨s', captured⟩ with
      idle | ⟨near, fits⟩
    · exact .inl idle
    refine .inr ⟨Nat.le_trans h.points.closer near, fun n => ?_⟩
    rcases h.points.pending n with none | same
    · rw [none]
      exact fun some => absurd rfl some
    · have earned : t.userPoints account n + (t.points.books n).pending account / ray =
          s.userPoints account n + (s.points.books n).pending account / ray := h.points.earned n
      rw [same] at earned ⊢
      rw [Nat.add_right_cancel earned]
      exact fits n
  obtain ⟨t', isCaptured⟩ := returns
  obtain ⟨left, carries⟩ := captureUserPoints_eq somebody h.points.begun.1 captured
  obtain ⟨right, carried⟩ := captureUserPoints_eq somebody h.points.begun.2 isCaptured
  have same : t'.userPoints = s'.userPoints := by
    have points := h.points.points_capture
    rw [← left, ← right] at points
    exact points
  refine ⟨t', isCaptured, same, ⟨?_, fun n => ?_, fun n => ?_, ?_, ?_⟩⟩
  · rw [left, right]
    exact h.points.capture
  · rw [carried.pots, carries.pots, h.pots]
  · rw [carried.funded, carries.funded, h.funded]
  · have before := spares_captureUserPoints captured
    have after := h.spares.trans (spares_captureUserPoints isCaptured)
    exact before.cancel after
  · rw [captureUserPoints_meets.result captured, captureUserPoints_meets.result isCaptured]
    exact h.usdc

theorem Follows.update (somebody : account ≠ 0) (updated : s.updateUsdcForUser account = .ok s') :
    ∃ t', t.updateUsdcForUser account = .ok t' ∧ Follows account s' t' := by
  have returns : ∃ t', t.updateUsdcForUser account = .ok t' := by
    have fits := (updateUsdcForUser_returns_iff somebody).mp ⟨s', updated⟩
    rw [updateUsdcForUser_returns_iff somebody]
    rcases h.usdc with same | touched
    · rwa [same]
    · rw [touched, Dividends.pending_touch, Dividends.earned_touch]
      exact ⟨Nat.le_of_eq (touched_settled s.books account), by decide, fits.2.2⟩
  obtain ⟨t', isUpdated⟩ := returns
  obtain ⟨left, epochs⟩ := updateUsdcForUser_points updated
  obtain ⟨right, epochs'⟩ := updateUsdcForUser_points isUpdated
  refine ⟨t', isUpdated, ⟨?_, fun n => ?_, fun n => ?_, ?_, .inl ?_⟩⟩
  · rw [left, right]
    exact h.points
  · rw [epochs, epochs', h.pots]
  · rw [epochs, epochs', h.funded]
  · exact (spares_updateUsdcForUser updated).cancel (h.spares.trans (spares_updateUsdcForUser isUpdated))
  · rw [books_updateUsdcForUser somebody updated, books_updateUsdcForUser somebody isUpdated]
    rcases h.usdc with same | touched
    · rw [same]
    · rw [touched, Dividends.touch_touch]

theorem Follows.sync {target : Nat} (synced : s.syncForClaim target = .ok s') :
    ∃ t', t.syncForClaim target = .ok t' ∧ Follows account s' t' := by
  have returns : ∃ t', t.syncForClaim target = .ok t' := by
    have later : s.syncedRewardEpoch ≤ t.syncedRewardEpoch := h.points.later
    unfold syncForClaim at synced ⊢
    split
    · rw [if_pos (by omega)] at synced
      obtain ⟨_, near, -⟩ := ran synced
      have close := require_eq_ok.mp near
      exact ⟨_, bind_eq_ok.mpr ⟨(), require_eq_ok.mpr (by omega), rfl⟩⟩
    · exact ⟨t, rfl⟩
  obtain ⟨t', isSynced⟩ := returns
  obtain ⟨left, reached⟩ := closes_syncForClaim synced
  obtain ⟨right, reaches⟩ := closes_syncForClaim isSynced
  refine ⟨t', isSynced, ⟨h.points.closing left.closing right.closing reached reaches,
    fun n => ?_, fun n => ?_, ?_, ?_⟩⟩
  · rw [left.carries.pots, right.carries.pots, h.pots]
  · rw [left.carries.funded, right.carries.funded, h.funded]
  · exact (spares_syncForClaim synced).cancel (h.spares.trans (spares_syncForClaim isSynced))
  · rw [books_syncForClaim synced, books_syncForClaim isSynced]
    exact h.usdc

theorem Follows.rewardEpoch (closed : n < s.syncedRewardEpoch) :
    t.rewardEpochs n = s.rewardEpochs n := by
  have shut : n < t.syncedRewardEpoch := Nat.lt_of_lt_of_le closed h.points.later
  have index : (t.rewardEpochs n).revenuePerTokenAtEnd = (s.rewardEpochs n).revenuePerTokenAtEnd := by
    calc (t.rewardEpochs n).revenuePerTokenAtEnd
        = t.points.indexAt n := (if_pos shut).symm
      _ = s.points.indexAt n := h.points.perShare n
      _ = (s.rewardEpochs n).revenuePerTokenAtEnd := if_pos closed
  have total : (t.rewardEpochs n).totalPoints = (s.rewardEpochs n).totalPoints := by
    calc (t.rewardEpochs n).totalPoints
        = t.points.pointsIn n := (if_pos shut).symm
      _ = s.points.pointsIn n := h.points.reserved n
      _ = (s.rewardEpochs n).totalPoints := if_pos closed
  have pot := h.pots n
  have funded := h.funded n
  cases one : t.rewardEpochs n
  cases other : s.rewardEpochs n
  simp_all

end

/-- What a claim of a staker for closed epochs reads is the same on both sides. -/
structure ClaimsAlike (account : Address) (limit : Nat) (s t : DiemStakingProxy) : Prop where
  points : t.userPoints account = s.userPoints account
  epochs : ∀ n, n < limit → t.rewardEpochs n = s.rewardEpochs n
  claimed : t.userEpochClaimed account = s.userEpochClaimed account
  feeBps : t.operatorFeeBps = s.operatorFeeBps
  feeRecipient : t.operatorFeeRecipient = s.operatorFeeRecipient

section Alike

variable {limit n : Nat} {ants ants' : Erc20}

section

variable (h : ClaimsAlike account limit s t)

include h

theorem takeOperatorFee_alike (token : Erc20) (self : Address)
    (gross : Nat) : t.takeOperatorFee token self gross = s.takeOperatorFee token self gross := by
  unfold takeOperatorFee operatorFeeAmount
  rw [h.feeBps, h.feeRecipient]

theorem ClaimsAlike.markClaimed (n : Nat) : ClaimsAlike account limit { s with
        userEpochClaimed := update s.userEpochClaimed account
          (update (s.userEpochClaimed account) n true) }
      { t with
        userEpochClaimed := update t.userEpochClaimed account
          (update (t.userEpochClaimed account) n true) } where
  points := h.points
  epochs := h.epochs
  claimed := by simp [h.claimed]
  feeBps := h.feeBps
  feeRecipient := h.feeRecipient

theorem ClaimsAlike.clearUserPoints (n : Nat) :
    ClaimsAlike account limit (s.clearUserPoints account n) (t.clearUserPoints account n) where
  points := by simp [DiemStakingProxy.clearUserPoints, h.points]
  epochs := h.epochs
  claimed := h.claimed
  feeBps := h.feeBps
  feeRecipient := h.feeRecipient

theorem ClaimsAlike.epochPot (closed : n < limit)
    (found : s.epochPot ants ctx n = .ok (s', ants', pot)) :
    ∃ t', t.epochPot ants ctx n = .ok (t', ants', pot) ∧ ClaimsAlike account limit s' t' := by
  unfold DiemStakingProxy.epochPot at found ⊢
  rw [h.epochs n closed]
  split at found
  next full =>
    cases found
    rw [if_pos full]
    exact ⟨t, rfl, h⟩
  next open_ =>
    obtain ⟨⟨collected, gross⟩, isGross, found⟩ := ran found
    obtain ⟨⟨charged, net⟩, isNet, found⟩ := ran found
    cases found
    rw [← takeOperatorFee_alike h] at isNet
    rw [if_neg open_]
    refine ⟨_, bind_eq_ok.mpr ⟨_, isGross, bind_eq_ok.mpr ⟨_, isNet, rfl⟩⟩,
      ⟨h.points, fun m below => ?_, h.claimed, h.feeBps, h.feeRecipient⟩⟩
    by_cases here : m = n
    · subst here
      simp [h.epochs m below]
    · simp [here, h.epochs m below]

end

theorem ClaimsAlike.claimEpoch (h : ClaimsAlike ctx.sender limit s t) (closed : n < limit)
    (claimed : s.claimEpoch ants ctx n = .ok (s', ants', paid)) :
    ∃ t', t.claimEpoch ants ctx n = .ok (t', ants', paid) ∧ ClaimsAlike ctx.sender limit s' t' := by
  unfold DiemStakingProxy.claimEpoch at claimed ⊢
  dsimp only at claimed ⊢
  rw [h.points, h.epochs n closed]
  have marked := h.markClaimed n
  split at claimed
  next none =>
    cases claimed
    rw [if_pos none]
    exact ⟨_, rfl, marked⟩
  next some =>
    rw [if_neg some]
    split at claimed
    next empty =>
      cases claimed
      rw [if_pos empty]
      exact ⟨_, rfl, marked.clearUserPoints n⟩
    next shared =>
      rw [if_neg shared]
      obtain ⟨⟨u, filled, pot⟩, found, claimed⟩ := ran claimed
      obtain ⟨u', found', alike⟩ := marked.epochPot closed found
      split at claimed
      next dry =>
        cases claimed
        refine ⟨_, bind_eq_ok.mpr ⟨_, found', ?_⟩, alike.clearUserPoints n⟩
        rw [if_pos dry]
        rfl
      next wet =>
        obtain ⟨scaled, isScaled, claimed⟩ := ran claimed
        obtain ⟨share, isShare, claimed⟩ := ran claimed
        cases claimed
        refine ⟨_, bind_eq_ok.mpr ⟨_, found', ?_⟩, alike.clearUserPoints n⟩
        rw [if_neg wet]
        exact bind_eq_ok.mpr ⟨_, isScaled, bind_eq_ok.mpr ⟨_, isShare, rfl⟩⟩

theorem ClaimsAlike.claimEpochs {epochs : List Nat} {total total' : Nat} {processed processed' : Bool}
    (h : ClaimsAlike ctx.sender limit s t) (closed : ∀ n ∈ epochs, n < limit)
    (claimed : claimEpochs ctx epochs s ants total processed = .ok (s', ants', total', processed')) :
    ∃ t', claimEpochs ctx epochs t ants total processed =
        .ok (t', ants', total', processed') ∧ ClaimsAlike ctx.sender limit s' t' := by
  induction epochs generalizing s t ants total processed with
  | nil =>
    cases claimed
    exact ⟨t, rfl, h⟩
  | cons n epochs ih =>
    obtain ⟨here, rest⟩ := List.forall_mem_cons.mp closed
    unfold claimEpochs at claimed ⊢
    rw [h.claimed]
    split at claimed
    next already =>
      rw [if_pos already]
      exact ih h rest claimed
    next fresh =>
      rw [if_neg fresh]
      obtain ⟨⟨u, held, paid⟩, one, claimed⟩ := ran claimed
      obtain ⟨sum, isSum, claimed⟩ := ran claimed
      obtain ⟨u', one', alike⟩ := h.claimEpoch here one
      obtain ⟨t', loop, after⟩ := ih alike rest claimed
      exact ⟨t', bind_eq_ok.mpr ⟨_, one', bind_eq_ok.mpr ⟨_, isSum, loop⟩⟩, after⟩

end Alike

theorem Follows.claims (h : Follows account s t) (same : t.userPoints = s.userPoints) :
    ClaimsAlike account s.syncedRewardEpoch s t where
  points := congrFun same account
  epochs _ closed := h.rewardEpoch closed
  claimed := congrFun h.spares.claimed account
  feeBps := h.spares.feeBps
  feeRecipient := h.spares.feeRecipient

theorem Follows.claimAnts {ants ants' : Erc20} {epochs : List Nat} (h : Follows ctx.sender s t)
    (somebody : ctx.sender ≠ 0) (claimed : s.claimAnts ants ctx epochs = .ok (s', ants')) :
    ∃ t', t.claimAnts ants ctx epochs = .ok (t', ants') ∧
      t'.userPoints ctx.sender = s'.userPoints ctx.sender := by
  obtain ⟨running, sized, target, u, v, w, x, held, total, isTarget, small, final, updated, synced,
    captured, loop, rfl, sent⟩ := claimAnts_eq_ok.mp claimed
  obtain ⟨u', updated', settled⟩ := h.update somebody updated
  obtain ⟨v', synced', shut⟩ := settled.sync synced
  obtain ⟨w', captured', same, follows⟩ := shut.capture somebody captured
  have closed : ∀ n ∈ epochs, n < w.syncedRewardEpoch := by
    intro n member
    have below := (claimTarget_bounds isTarget).2 n member
    have reached := (closes_syncForClaim synced).2
    have later := (captureUserPoints_eq somebody shut.points.begun.1 captured).2.later
    omega
  obtain ⟨x', loop', alike⟩ := (follows.claims same).claimEpochs closed loop
  refine ⟨x'.advanceUserClaimCursor ctx.sender, claimAnts_eq_ok.mpr ⟨?_, sized, target, u', v', w', x',
    held, total, ?_, small, final, updated', synced', captured', loop', rfl, sent⟩, alike.points⟩
  · rw [h.spares.paused]
    exact running
  · rw [h.spares.first]
    exact isTarget

section Worth

variable {n pot : Nat} {ants ants' : Erc20}

/-- The pot a claim finds for an epoch: the one it was funded with, or what the emissions pay for
    it, less the operator's fee. -/
def potFor (s : DiemStakingProxy) (ctx : ProxyContext) (n : Nat) : Option Nat :=
  if (s.rewardEpochs n).funded then some (s.rewardEpochs n).antsPot
  else (ctx.emission n).map fun paid => s.netPayout ctx.self paid.1 paid.2

theorem epochPot_found (h : s.epochPot ants ctx n = .ok (s', ants', pot)) :
    s.potFor ctx n = some pot := by
  unfold epochPot at h
  unfold potFor
  split at h
  next full =>
    cases h
    rw [if_pos full]
  next unfunded =>
    rw [if_neg unfunded]
    obtain ⟨⟨collected, gross⟩, isGross, h⟩ := ran h
    obtain ⟨⟨charged, net⟩, isNet, h⟩ := ran h
    cases h
    obtain ⟨payer, amount, isPaid, rfl⟩ := collect_eq_ok isGross
    rw [isPaid, takeOperatorFee_eq_ok isNet]
    rfl

theorem claimEpoch_pays (found : s.potFor ctx n = some pot)
    (h : s.claimEpoch ants ctx n = .ok (s', ants', paid)) :
    paid = pot * s.userPoints ctx.sender n / (s.rewardEpochs n).totalPoints := by
  unfold claimEpoch at h
  dsimp only at h
  split at h
  next none =>
    cases h
    rw [none, Nat.mul_zero, Nat.zero_div]
  split at h
  next none =>
    cases h
    rw [none, Nat.div_zero]
  obtain ⟨⟨t, filled, share⟩, isPot, h⟩ := ran h
  have same : share = pot := by
    have isFound := epochPot_found isPot
    exact Option.some.inj (isFound.symm.trans found)
  subst same
  dsimp only at h
  split at h
  next none =>
    cases h
    rw [none, Nat.zero_mul, Nat.zero_div]
  · replace h := uint_rest h
    obtain ⟨share', isShare, h⟩ := ran h
    cases h
    exact (div_eq_ok.mp isShare).2.symm

variable {epochs : List Nat} {pending : Nat → Option Nat}

theorem claimShares_claimed (already : s.userEpochClaimed ctx.sender n = true) :
    shareIn n (claimShares ctx epochs s ants) = 0 := by
  induction epochs generalizing s ants with
  | nil => rfl
  | cons epoch epochs ih =>
    unfold claimShares
    split
    · exact ih already
    next fresh =>
      have other : epoch ≠ n := fun same => fresh (same ▸ already)
      split
      next t held paid one =>
        obtain ⟨rewardEpochs, points, rfl⟩ := claimEpoch_frame one
        rw [shareIn_cons, if_neg other, zero_add]
        exact ih (by simp [Ne.symm other, already])
      · rfl

theorem claimShares_pays (member : n ∈ epochs)
    (fresh : s.userEpochClaimed ctx.sender n = false) (found : s.potFor ctx n = some pot)
    (h : claimEpochs ctx epochs s ants total processed = .ok (s', ants', total', processed')) :
    (shareIn n (claimShares ctx epochs s ants)).2 =
      pot * s.userPoints ctx.sender n / (s.rewardEpochs n).totalPoints := by
  induction epochs generalizing s ants total processed with
  | nil => cases member
  | cons epoch epochs ih =>
    unfold claimEpochs at h
    unfold claimShares
    by_cases here : epoch = n
    · subst here
      rw [fresh] at h ⊢
      obtain ⟨⟨t, held, paid⟩, one, h⟩ := ran h
      have none : shareIn epoch (claimShares ctx epochs t held) = 0 := by
        obtain ⟨rewardEpochs, points, rfl⟩ := claimEpoch_frame one
        exact claimShares_claimed (by simp)
      rw [if_neg Bool.false_ne_true, one]
      simp [none, claimEpoch_pays found one]
    · have later : n ∈ epochs := (List.mem_cons.mp member).resolve_left (Ne.symm here)
      split at h
      next already =>
        rw [if_pos already]
        exact ih later fresh found h
      next due =>
        rw [if_neg due]
        obtain ⟨⟨t, held, paid⟩, one, h⟩ := ran h
        obtain ⟨sum, -, h⟩ := ran h
        have claimed := claimEpoch_claimed one
        have epochSame := claimed.others n (Ne.symm here)
        have points : t.userPoints ctx.sender n = s.userPoints ctx.sender n := by
          have forfeited := congrFun (congrFun (congrArg EpochPoints.points claimed.points) ctx.sender) n
          simpa [EpochPoints.forfeit, points, Ne.symm here] using forfeited
        obtain ⟨rewardEpochs, userPoints, rfl⟩ := claimEpoch_frame one
        have marks : ({ s with
            userEpochClaimed := update s.userEpochClaimed ctx.sender
              (update (s.userEpochClaimed ctx.sender) epoch true)
            rewardEpochs := rewardEpochs
            userPoints := userPoints } : DiemStakingProxy).userEpochClaimed ctx.sender n = false := by
          simp [Ne.symm here, fresh]
        have pots := found
        unfold potFor at pots
        rw [← epochSame] at pots
        have rest := ih later marks pots h
        rw [points, epochSame] at rest
        rw [one]
        simpa [here] using rest

theorem pendingAntsForEpoch_eq_ok (fresh : s.userEpochClaimed account n = false)
    (closed : n < s.syncedRewardEpoch) (h : s.pendingAntsForEpoch pending account n = .ok v) :
    ∃ pot, (if (s.rewardEpochs n).funded then pot = (s.rewardEpochs n).antsPot
        else ∃ gross, pending n = some gross ∧ pot = gross - gross * s.operatorFeeBps / feeDenominator) ∧
      v = pot * (s.points.books n).earned ray account / (s.rewardEpochs n).totalPoints := by
  unfold pendingAntsForEpoch at h
  rw [if_neg (by simp [fresh]), if_neg (Nat.not_le_of_lt closed)] at h
  obtain ⟨pot, isPot, h⟩ := ran h
  refine ⟨pot, ?_, ?_⟩
  · split at isPot
    next full =>
      cases isPot
      rw [if_pos full]
    next unfunded =>
      rw [if_neg unfunded]
      obtain ⟨gross, answered, isPot⟩ := ran isPot
      obtain ⟨fee, isFee, isPot⟩ := ran isPot
      replace isFee := uint_rest isFee
      cases isFee
      exact ⟨gross, answer_eq_ok.mp answered, (sub_eq_ok.mp isPot).2.symm⟩
  · split at h
    next none =>
      cases h
      rw [none, Nat.zero_mul, Nat.zero_div]
    split at h
    next none =>
      cases h
      rw [none, Nat.div_zero]
    obtain ⟨uncaptured, isUncaptured, h⟩ := ran h
    replace h := uint_rest h
    have earned : s.userPoints account n + uncaptured = (s.points.books n).earned ray account := by
      rw [uncapturedPoints_eq_ok closed isUncaptured]
      rfl
    rw [earned] at h
    split at h
    next none =>
      cases h
      rw [none, Nat.mul_zero, Nat.zero_div]
    · replace h := uint_rest h
      exact (div_eq_ok.mp h).2.symm

/-- The pot of an epoch is known: it is funded, or the emissions pay the proxy what they announce. -/
def PotKnown (s : DiemStakingProxy) (ctx : ProxyContext) (pending : Nat → Option Nat) (n : Nat) : Prop :=
  (s.rewardEpochs n).funded = true ∨
    pending n = (ctx.emission n).map fun paid => if paid.1 = ctx.self then 0 else paid.2

theorem claimAnts_pays_pending (somebody : ctx.sender ≠ 0)
    (begun : s.userCurrentEpoch ctx.sender ≤ s.syncedRewardEpoch) (closed : n < s.syncedRewardEpoch)
    (member : n ∈ epochs) (known : s.PotKnown ctx pending n)
    (view : s.pendingAntsForEpoch pending ctx.sender n = .ok v)
    (h : s.claimAnts ants ctx epochs = .ok (s', ants')) :
    (shareIn n (s.antsShares ants ctx epochs)).2 = v := by
  obtain ⟨-, -, target, t, u, w, x, held, total, isTarget, -, -, updated, synced, captured, loop, -, -⟩ :=
    claimAnts_eq_ok.mp h
  have closes := (closes_updateUsdcForUser updated).trans (closes_syncForClaim synced).1
  have spares := ((spares_updateUsdcForUser updated).trans (spares_syncForClaim synced)).trans
    (spares_captureUserPoints captured)
  have known' : u.userCurrentEpoch ctx.sender ≤ u.syncedRewardEpoch := by
    rw [closes.seen]
    exact Nat.le_trans begun closes.carries.later
  obtain ⟨isCaptured, carried⟩ := captureUserPoints_eq somebody known' captured
  have carries := closes.carries.trans carried
  have points : w.userPoints ctx.sender n = (s.points.books n).earned ray ctx.sender := by
    calc w.points.points ctx.sender n
        = (u.points.capture ray ctx.sender).points ctx.sender n := by rw [isCaptured]
      _ = (u.points.books n).earned ray ctx.sender := EpochPoints.points_capture known' n
      _ = (s.points.books n).earned ray ctx.sender := by rw [closes.books]
  rw [antsShares_eq isTarget updated synced captured]
  by_cases already : s.userEpochClaimed ctx.sender n = true
  · have nothing : v = 0 := by
      unfold pendingAntsForEpoch at view
      rw [if_pos already] at view
      cases view
      rfl
    rw [claimShares_claimed (by rw [spares.claimed]; exact already), nothing]
    rfl
  have fresh : s.userEpochClaimed ctx.sender n = false := Bool.eq_false_of_not_eq_true already
  obtain ⟨pot, isPot, isView⟩ := pendingAntsForEpoch_eq_ok fresh closed view
  have found : w.potFor ctx n = some pot := by
    unfold potFor
    rw [carries.funded, carries.pots]
    split at isPot
    next full => rw [if_pos full, isPot]
    next unfunded =>
      obtain ⟨gross, announced, rfl⟩ := isPot
      rw [if_neg unfunded]
      rcases known with full | pays
      · exact absurd full unfunded
      rw [announced] at pays
      obtain ⟨⟨payer, amount⟩, isPaid, isGross⟩ := Option.map_eq_some_iff.mp pays.symm
      rw [isPaid, ← isGross, ← spares.feeBps]
      rfl
  rw [claimShares_pays member (by rw [spares.claimed]; exact fresh) found loop, points,
    carries.totals n closed, isView]

end Worth

/-- Any number of calls of `catchUpPoints` by one staker. -/
def catchUps (account : Address) :
    List (ProxyContext × Nat) → DiemStakingProxy → Tx ProxyError DiemStakingProxy
  | [], s => pure s
  | (ctx, numEpochs) :: rest, s => do
      let s ← s.catchUpPoints { ctx with sender := account } numEpochs
      catchUps account rest s

theorem Follows.catchUps (h : Follows account s t)
    (somebody : account ≠ 0) (taken : catchUps account steps t = .ok t') : Follows account s t' := by
  induction steps generalizing t with
  | nil =>
    cases taken
    exact h
  | cons step rest ih =>
    obtain ⟨u, one, taken⟩ := ran taken
    exact ih (h.catchUp somebody rfl one) taken

end DiemStakingProxy

/-- In every state the proxy can reach and for every account: after any steps of `catchUpPoints` a
    capture returns if it would have returned without them, with the same points of every epoch, and
    claims made from either state leave the same ANTS; and a claim pays, for each closed epoch whose
    pot is known, what the view answers for it. -/
theorem catch_up_path_independent
    (self sender diemToken usdcToken registry operator antsToken emissions staking : Address)
    (now epoch : Nat) (proxy : DiemStakingProxy) (diem : Diem) (usdc ants : Erc20)
    (deployed : construct sender diemToken usdcToken registry operator antsToken
      emissions staking epoch = .ok proxy)
    (events : List ProxyEvent) (account : Address) (somebody : account ≠ 0) :
    let s := ((proxyMachine self).run ⟨now, epoch, proxy, diem, usdc, ants⟩ events).proxy
    (∀ steps t, catchUps account steps s = .ok t →
      (∀ s', s.captureUserPoints account = .ok s' →
        ∃ t', t.captureUserPoints account = .ok t' ∧ t'.userPoints = s'.userPoints ∧
          ∀ ctx token epochs s'' token', ctx.sender = account →
            s'.claimAnts token ctx epochs = .ok (s'', token') →
            ∃ t'', t'.claimAnts token ctx epochs = .ok (t'', token')) ∧
      ∀ ctx token epochs s' token', ctx.sender = account →
        s.claimAnts token ctx epochs = .ok (s', token') →
        ∃ t', t.claimAnts token ctx epochs = .ok (t', token')) ∧
    ∀ ctx token epochs s' token', ctx.sender = account →
      s.claimAnts token ctx epochs = .ok (s', token') →
      (∃ held : Erc20, let total := ((s.antsShares token ctx epochs).map ClaimShare.ants).sum
        (if total > 0 then held.transfer ctx.self account total else pure held :
          Tx ProxyError Erc20) = .ok token') ∧
      ∀ pending n v, n < s.syncedRewardEpoch → n ∈ epochs → s.PotKnown ctx pending n →
        s.pendingAntsForEpoch pending account n = .ok v →
        (shareIn n (s.antsShares token ctx epochs)).2 = v := by
  intro s
  have kept := run_potKept self ⟨now, epoch, proxy, diem, usdc, ants⟩ 0 deployed events
  have begun : s.userCurrentEpoch account ≤ s.syncedRewardEpoch := kept.points.begun account
  refine ⟨fun steps t caught => ⟨fun s' captured => ?_, ?_⟩, ?_⟩
  · have follows := (DiemStakingProxy.Follows.refl begun).catchUps somebody caught
    obtain ⟨t', isCaptured, same, after⟩ := follows.capture somebody captured
    refine ⟨t', isCaptured, same, ?_⟩
    rintro ctx token epochs s'' token' rfl claimed
    obtain ⟨t'', isClaimed, -⟩ := after.claimAnts somebody claimed
    exact ⟨t'', isClaimed⟩
  · rintro ctx token epochs s' token' rfl claimed
    have follows := (DiemStakingProxy.Follows.refl begun).catchUps somebody caught
    obtain ⟨t', isClaimed, -⟩ := follows.claimAnts somebody claimed
    exact ⟨t', isClaimed⟩
  · rintro ctx token epochs s' token' rfl claimed
    refine ⟨claimAnts_transfers claimed, ?_⟩
    intro pending n v closed member known view
    exact claimAnts_pays_pending somebody begun closed member known view claimed

/-- The epoch of `onePayout` is over and closed, and three more have passed. -/
def payoutClosed : List ProxyEvent :=
  onePayout ++ [.antsMint ⟨7⟩ (10 ^ 9), .epoch 4, .call ⟨5⟩ none (fun _ => none) (.syncRewardEpochs 1)]

/-- A call of the staker of `onePayout`, whose emissions for every epoch are the given ones. -/
def stakerCalls (gross : Nat) : ProxyContext :=
  ⟨⟨5⟩, ⟨100⟩, 0, 4, none, fun _ => some (⟨7⟩, gross)⟩

/-- The staker of `onePayout` catches up in two steps or not at all: its points are the same, and a
    claim pays what the view answers. -/
theorem payoutClosed_caughtUp : ∃ proxy,
    construct ⟨9⟩ ⟨50⟩ ⟨60⟩ ⟨1⟩ ⟨8⟩ ⟨2⟩ ⟨3⟩ ⟨4⟩ 0 = .ok proxy ∧
      let s := (proxyMachine ⟨100⟩).run
        ⟨0, 0, proxy, ⟨⟨50⟩, .empty, 86400, fun _ => {}⟩, .empty, .empty⟩ payoutClosed
      ∃ t s' t', catchUps ⟨5⟩ [(stakerCalls 0, 1), (stakerCalls 0, 2)] s.proxy = .ok t ∧
        s.proxy.captureUserPoints ⟨5⟩ = .ok s' ∧ t.captureUserPoints ⟨5⟩ = .ok t' ∧
        t'.userPoints = s'.userPoints ∧
        s.proxy.pendingAntsForEpoch (fun _ => some 2222222) ⟨5⟩ 0 = .ok 2000000 ∧
        (shareIn 0 (s.proxy.antsShares s.ants (stakerCalls 2222222) [0])).2 = 2000000 := by
  refine ⟨_, rfl, ?_⟩
  intro s
  obtain ⟨paths, claims⟩ := catch_up_path_independent ⟨100⟩ ⟨9⟩ ⟨50⟩ ⟨60⟩ ⟨1⟩ ⟨8⟩ ⟨2⟩ ⟨3⟩ ⟨4⟩ 0 0
    _ ⟨⟨50⟩, .empty, 86400, fun _ => {}⟩ .empty .empty rfl payoutClosed ⟨5⟩ (by decide)
  obtain ⟨t, caught⟩ : ∃ t, catchUps ⟨5⟩ [(stakerCalls 0, 1), (stakerCalls 0, 2)]
    s.proxy = .ok t := returned_of_isOk (by decide +kernel)
  obtain ⟨s', captured⟩ : ∃ s', s.proxy.captureUserPoints ⟨5⟩ = .ok s' :=
    returned_of_isOk (by decide +kernel)
  obtain ⟨t', isCaptured, same, -⟩ := (paths _ t caught).1 s' captured
  have view : s.proxy.pendingAntsForEpoch (fun _ => some 2222222) ⟨5⟩ 0 = .ok 2000000 := by
    decide +kernel
  obtain ⟨after, claimed⟩ : ∃ after, s.proxy.claimAnts s.ants (stakerCalls 2222222) [0] = .ok after :=
    returned_of_isOk (by decide +kernel)
  refine ⟨t, s', t', caught, captured, isCaptured, same, view, ?_⟩
  exact (claims (stakerCalls 2222222) s.ants [0] after.1 after.2 rfl claimed).2 _ 0 _
    (by decide +kernel) (by decide) (.inr rfl) view

/-- If the emissions announce a reward but lock it away instead of paying it to the proxy, a claim
    pays nothing of what the view answers. -/
theorem payoutClosed_lockedAway : ∃ proxy,
    construct ⟨9⟩ ⟨50⟩ ⟨60⟩ ⟨1⟩ ⟨8⟩ ⟨2⟩ ⟨3⟩ ⟨4⟩ 0 = .ok proxy ∧
      let s := (proxyMachine ⟨100⟩).run
        ⟨0, 0, proxy, ⟨⟨50⟩, .empty, 86400, fun _ => {}⟩, .empty, .empty⟩ payoutClosed
      ∃ after, s.proxy.claimAnts s.ants (stakerCalls 0) [0] = .ok after ∧ 0 < s.proxy.syncedRewardEpoch ∧
        s.proxy.pendingAntsForEpoch (fun _ => some 2222222) ⟨5⟩ 0 = .ok 2000000 ∧
        (shareIn 0 (s.proxy.antsShares s.ants (stakerCalls 0) [0])).2 = 0 ∧
        after.2.balanceOf ⟨5⟩ = 0 := by
  refine ⟨_, rfl, _, rfl, by decide, rfl, rfl, rfl⟩

end AntSeed.Staking
