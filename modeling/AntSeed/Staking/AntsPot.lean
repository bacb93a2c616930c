import AntSeed.Lib.Proportion
import AntSeed.Staking.Points

/-! # What the ANTS pot of an epoch covers

A claim pays a staker the share of an epoch's pot that its points have in the
total written down when the epoch was closed. So no more than the pot is paid as
long as the points of all stakers, claimed, captured or still to be captured, add
up to at most that total, and by the books of the epoch that is a question of the
fractions dropped on either side.
-/

namespace AntSeed.Staking

open Evm Function
open EpochPoints DiemStakingProxy

/-- One epoch of a claim: the points given up for it and the ANTS they are worth. -/
structure ClaimShare where
  epoch : Nat
  points : Nat
  ants : Nat
  deriving DecidableEq, Repr

/-- What a claim gives up and gets for one epoch. -/
def shareIn (n : Nat) (shares : List ClaimShare) : Nat × Nat :=
  (shares.map fun share => if share.epoch = n then (share.points, share.ants) else 0).sum

namespace DiemStakingProxy

variable {s s' t : DiemStakingProxy} {ctx : ProxyContext} {ants ants' : Erc20}

/-- The second loop of `claimAnts`, epoch by epoch. -/
def claimShares (ctx : ProxyContext) : List Nat → DiemStakingProxy → Erc20 → List ClaimShare
  | [], _, _ => []
  | epoch :: rest, s, ants =>
    if s.userEpochClaimed ctx.sender epoch then claimShares ctx rest s ants
    else
      match s.claimEpoch ants ctx epoch with
      | .ok (s', ants', paid) =>
        ⟨epoch, s.userPoints ctx.sender epoch, paid⟩ :: claimShares ctx rest s' ants'
      | .error _ => []

/-- What `claimAnts` does before its second loop. -/
def prepareClaim (s : DiemStakingProxy) (ctx : ProxyContext) (rewardEpochIds : List Nat) :
    Tx ProxyError DiemStakingProxy := do
  let target ← claimTarget s.firstRewardEpoch rewardEpochIds s.firstRewardEpoch
  let s ← s.updateUsdcForUser ctx.sender
  let s ← s.syncForClaim target
  s.captureUserPoints ctx.sender

/-- What a call of `claimAnts` pays, epoch by epoch. -/
def antsShares (s : DiemStakingProxy) (ants : Erc20) (ctx : ProxyContext)
    (rewardEpochIds : List Nat) : List ClaimShare :=
  match s.prepareClaim ctx rewardEpochIds with
  | .ok prepared => claimShares ctx rewardEpochIds prepared ants
  | .error _ => []

theorem points_fund (s : DiemStakingProxy) (n pot : Nat) (epochs : Nat → RewardEpoch)
    (filled : epochs = update s.rewardEpochs n
      { s.rewardEpochs n with antsPot := pot, funded := true }) :
    { s with rewardEpochs := epochs }.points = s.points := by
  have ends : ∀ m, (epochs m).revenuePerTokenAtEnd = (s.rewardEpochs m).revenuePerTokenAtEnd := by
    intro m
    by_cases here : m = n
    · simp [filled, here]
    · simp [filled, here]
  have totals : ∀ m, (epochs m).totalPoints = (s.rewardEpochs m).totalPoints := by
    intro m
    by_cases here : m = n
    · simp [filled, here]
    · simp [filled, here]
  unfold points
  simp only [ends, totals]

/-- The pot of one epoch may have been filled, if it was not before. -/
structure Funds (n : Nat) (s s' : DiemStakingProxy) : Prop where
  points : s'.points = s.points
  others : ∀ m, m ≠ n → s'.rewardEpochs m = s.rewardEpochs m
  once : (s.rewardEpochs n).funded = true → s'.rewardEpochs n = s.rewardEpochs n

theorem epochPot_funds (h : s.epochPot ants ctx n = .ok (s', ants', pot)) :
    Funds n s s' ∧ (s'.rewardEpochs n).antsPot = pot ∧ (s'.rewardEpochs n).funded = true := by
  unfold epochPot at h
  split at h
  next already =>
    cases h
    exact ⟨⟨rfl, fun _ _ => rfl, fun _ => rfl⟩, rfl, already⟩
  next unfunded =>
    obtain ⟨⟨collected, gross⟩, -, h⟩ := ran h
    obtain ⟨⟨charged, net⟩, -, h⟩ := ran h
    cases h
    exact ⟨⟨points_fund s n pot _ rfl, fun m other => update_of_ne other _ _,
      fun already => absurd already unfunded⟩, by simp, by simp⟩

/-- What one epoch of a claim does: the staker gives its points up, and gets no more of the pot
    than they are of the total. -/
structure ClaimedEpoch (account : Address) (n paid : Nat) (s s' : DiemStakingProxy) : Prop where
  points : s'.points = s.points.forfeit account n
  others : ∀ m, m ≠ n → s'.rewardEpochs m = s.rewardEpochs m
  once : (s.rewardEpochs n).funded = true → s'.rewardEpochs n = s.rewardEpochs n
  fair : Fair (s'.rewardEpochs n).antsPot (s'.rewardEpochs n).totalPoints paid
    (s.userPoints account n)
  due : 0 < paid → (s'.rewardEpochs n).funded = true ∧ 0 < (s'.rewardEpochs n).totalPoints

theorem points_clearUserPoints (s : DiemStakingProxy) (account : Address) (n : Nat) :
    (s.clearUserPoints account n).points = s.points.forfeit account n := rfl

theorem claimEpoch_claimed (h : s.claimEpoch ants ctx n = .ok (s', ants', paid)) :
    ClaimedEpoch ctx.sender n paid s s' := by
  unfold claimEpoch at h
  dsimp only at h
  split at h
  next none =>
    cases h
    refine ⟨?_, fun _ _ => rfl, fun _ => rfl, fair_unpaid _ _ _, nofun⟩
    have same : s.points.forfeit ctx.sender n = s.points := by
      have empty : s.points.points ctx.sender n = 0 := none
      unfold forfeit
      rw [← empty, Function.update_eq_self, Function.update_eq_self]
    exact same.symm
  · split at h
    · cases h
      exact ⟨rfl, fun _ _ => rfl, fun _ => rfl, fair_unpaid _ _ _, nofun⟩
    next points total =>
      obtain ⟨⟨t, filled, pot⟩, found, h⟩ := ran h
      obtain ⟨funds, isPot, isFunded⟩ := epochPot_funds found
      have given : (t.clearUserPoints ctx.sender n).points = s.points.forfeit ctx.sender n := by
        rw [points_clearUserPoints, funds.points]
        rfl
      split at h
      · cases h
        exact ⟨given, funds.others, funds.once, fair_unpaid _ _ _, nofun⟩
      · replace h := uint_rest h
        obtain ⟨share, isShare, h⟩ := ran h
        cases h
        obtain ⟨-, rfl⟩ := div_eq_ok.mp isShare
        have same : (t.rewardEpochs n).totalPoints = (s.rewardEpochs n).totalPoints :=
          congrFun (congrArg EpochPoints.total funds.points) n
        refine ⟨given, funds.others, funds.once, ?_, fun _ => ⟨isFunded, ?_⟩⟩
        · change Fair (t.rewardEpochs n).antsPot (t.rewardEpochs n).totalPoints _ _
          rw [same, isPot]
          exact Nat.div_mul_le_self _ _
        · change 0 < (t.rewardEpochs n).totalPoints
          rw [same]
          exact Nat.pos_of_ne_zero total

/-- What has been paid for an epoch is fair for the points given up, and paid out of a pot. -/
structure Paid (n spent paid : Nat) (s : DiemStakingProxy) : Prop where
  fair : Fair (s.rewardEpochs n).antsPot (s.rewardEpochs n).totalPoints paid spent
  due : 0 < paid → n < s.syncedRewardEpoch ∧ (s.rewardEpochs n).funded = true ∧
    0 < (s.rewardEpochs n).totalPoints

section Paid

variable {n spent paid : Nat}

theorem paid_nothing (n : Nat) (s : DiemStakingProxy) : Paid n 0 0 s :=
  ⟨fair_unpaid _ _ _, nofun⟩

theorem Paid.carried (h : Paid n spent paid s) (carries : Carries s s') : Paid n spent paid s' := by
  rcases Nat.eq_zero_or_pos paid with rfl | some
  · exact ⟨fair_unpaid _ _ _, nofun⟩
  · obtain ⟨closed, funded, positive⟩ := h.due some
    have total := carries.totals n closed
    refine ⟨?_, fun _ => ⟨Nat.lt_of_lt_of_le closed carries.later, ?_, ?_⟩⟩
    · rw [total, carries.pots]
      exact h.fair
    · rwa [carries.funded]
    · rwa [total]

theorem Paid.claimed (h : Paid n spent paid s) {account : Address} {epoch amount : Nat}
    (closed : epoch < s.syncedRewardEpoch) (claimed : ClaimedEpoch account epoch amount s s') :
    Paid n (spent + if epoch = n then s.userPoints account epoch else 0)
      (paid + if epoch = n then amount else 0) s' := by
  have synced : s'.syncedRewardEpoch = s.syncedRewardEpoch :=
    congrArg EpochPoints.epoch claimed.points
  by_cases here : epoch = n
  · subst here
    rw [if_pos rfl, if_pos rfl]
    have before : Fair (s'.rewardEpochs epoch).antsPot (s'.rewardEpochs epoch).totalPoints paid
        spent := by
      rcases Nat.eq_zero_or_pos paid with rfl | some
      · exact fair_unpaid _ _ _
      · rw [claimed.once (h.due some).2.1]
        exact h.fair
    refine ⟨before.pay claimed.fair, fun some => ⟨synced ▸ closed, ?_⟩⟩
    · rcases Nat.eq_zero_or_pos amount with rfl | gained
      · obtain ⟨-, funded, positive⟩ := h.due some
        rw [claimed.once funded]
        exact ⟨funded, positive⟩
      · exact claimed.due gained
  · have same := claimed.others n (Ne.symm here)
    rw [if_neg here, if_neg here, Nat.add_zero, Nat.add_zero]
    refine ⟨?_, fun some => ?_⟩
    · rw [same]
      exact h.fair
    · rw [same, synced]
      exact h.due some

theorem Paid.within (h : Paid n spent paid s) (covered : spent ≤ s.points.pointsIn n) :
    paid ≤ (s.rewardEpochs n).antsPot := by
  rcases Nat.eq_zero_or_pos paid with rfl | some
  · exact Nat.zero_le _
  · obtain ⟨closed, -, positive⟩ := h.due some
    have total : s.points.pointsIn n = (s.rewardEpochs n).totalPoints := if_pos closed
    exact h.fair.within (total ▸ covered) positive

end Paid

@[simp] theorem shareIn_nil (n : Nat) : shareIn n [] = 0 := rfl

@[simp] theorem shareIn_cons (n : Nat) (share : ClaimShare) (shares : List ClaimShare) :
    shareIn n (share :: shares) =
      (if share.epoch = n then (share.points, share.ants) else 0) + shareIn n shares := by
  simp [shareIn]

variable {epochs : List Nat}

theorem claimTarget_bounds (h : claimTarget first epochs target = .ok target') :
    target ≤ target' ∧ ∀ epoch ∈ epochs, epoch < target' := by
  induction epochs generalizing target with
  | nil =>
    cases h
    exact ⟨Nat.le_refl _, nofun⟩
  | cons epoch epochs ih =>
    replace h := rest_ok h
    replace h := uint_rest h
    obtain ⟨above, below⟩ := ih h
    have reached : target ≤ target' ∧ epoch < target' := by
      split at above <;> omega
    exact ⟨reached.1, List.forall_mem_cons.mpr ⟨reached.2, below⟩⟩

variable {epoch total total' : Nat} {processed processed' : Bool}

theorem claimEpochs_total
    (h : claimEpochs ctx epochs s ants total processed = .ok (s', ants', total', processed')) :
    total' = total + ((claimShares ctx epochs s ants).map ClaimShare.ants).sum := by
  induction epochs generalizing s ants total processed with
  | nil =>
    cases h
    rfl
  | cons epoch epochs ih =>
    unfold claimEpochs at h
    unfold claimShares
    split at h
    next already =>
      rw [if_pos already]
      exact ih h
    next fresh =>
      rw [if_neg fresh]
      obtain ⟨⟨t, claimed, paid⟩, one, h⟩ := ran h
      replace h := uint_rest h
      rw [one, ih h]
      simp only [List.map_cons, List.sum_cons]
      omega

section Claims

variable {n dropped rounded spent paid : Nat}

variable {epochs : List Nat}

theorem claimEpochs_kept
    (closed : ∀ epoch ∈ epochs, epoch < s.syncedRewardEpoch)
    (kept : s.points.Kept scale n dropped (rounded + spent * scale)) (isPaid : Paid n spent paid s)
    (h : claimEpochs ctx epochs s ants total processed = .ok (s', ants', total', processed')) :
    s'.points.Kept scale n dropped
        (rounded + (spent + (shareIn n (claimShares ctx epochs s ants)).1) * scale) ∧
      Paid n (spent + (shareIn n (claimShares ctx epochs s ants)).1)
        (paid + (shareIn n (claimShares ctx epochs s ants)).2) s' := by
  induction epochs generalizing s ants total processed spent paid with
  | nil =>
    cases h
    simpa [claimShares] using And.intro kept isPaid
  | cons epoch epochs ih =>
    obtain ⟨here, rest⟩ := List.forall_mem_cons.mp closed
    unfold claimEpochs at h
    unfold claimShares
    split at h
    next already =>
      rw [if_pos already]
      exact ih rest kept isPaid h
    next fresh =>
      rw [if_neg fresh]
      obtain ⟨⟨t, claimed, amount⟩, one, h⟩ := ran h
      obtain ⟨sum, -, h⟩ := ran h
      have isClaimed := claimEpoch_claimed one
      have synced : t.syncedRewardEpoch = s.syncedRewardEpoch :=
        congrArg EpochPoints.epoch isClaimed.points
      have next : t.points.Kept scale n dropped
          (rounded + (spent + if epoch = n then s.userPoints ctx.sender epoch else 0) * scale) := by
        have forfeited := kept.forfeit ctx.sender epoch
        rw [← isClaimed.points] at forfeited
        by_cases now : epoch = n
        · subst now
          rw [if_pos rfl] at forfeited ⊢
          rw [Nat.add_mul, ← Nat.add_assoc]
          exact forfeited
        · rw [if_neg (Ne.symm now)] at forfeited
          rwa [if_neg now]
      rw [one]
      simp only [shareIn_cons, Prod.fst_add, Prod.snd_add, apply_ite Prod.fst,
        apply_ite Prod.snd, Prod.fst_zero, Prod.snd_zero, ← Nat.add_assoc]
      exact ih (synced ▸ rest) next (isPaid.claimed here isClaimed) h

theorem claimAnts_eq_ok :
    s.claimAnts ants ctx epochs = .ok (s', ants') ↔
      s.paused = false ∧ ¬ (epochs.length = 0 ∨ epochs.length > maxEpochsPerCapture) ∧
      ∃ target t u v w held total,
        claimTarget s.firstRewardEpoch epochs s.firstRewardEpoch = .ok target ∧
        ctx.epoch < 2 ^ 32 ∧ target ≤ ctx.epoch ∧ s.updateUsdcForUser ctx.sender = .ok t ∧
        t.syncForClaim target = .ok u ∧ u.captureUserPoints ctx.sender = .ok v ∧
        claimEpochs ctx epochs v ants 0 false = .ok (w, held, total, true) ∧
        s' = w.advanceUserClaimCursor ctx.sender ∧
        (if total > 0 then held.transfer ctx.self ctx.sender total else pure held :
          Tx ProxyError Erc20) = .ok ants' := by
  constructor
  · intro h
    obtain ⟨_, running, h⟩ := ran h
    obtain ⟨_, sized, h⟩ := ran h
    obtain ⟨target, isTarget, h⟩ := ran h
    obtain ⟨finalized, isFinalized, h⟩ := ran h
    obtain ⟨_, final, h⟩ := ran h
    obtain ⟨t, updated, h⟩ := ran h
    obtain ⟨u, synced, h⟩ := ran h
    obtain ⟨v, captured, h⟩ := ran h
    obtain ⟨⟨w, held, total, processed⟩, loop, h⟩ := ran h
    obtain ⟨_, worked, h⟩ := ran h
    have sent : s' = w.advanceUserClaimCursor ctx.sender ∧
        (if total > 0 then held.transfer ctx.self ctx.sender total else pure held :
          Tx ProxyError Erc20) = .ok ants' := by
      split at h
      next positive =>
        obtain ⟨sent, transferred, h⟩ := ran h
        cases h
        exact ⟨rfl, by rwa [if_pos positive]⟩
      next nothing =>
        cases h
        exact ⟨rfl, by rw [if_neg nothing]; rfl⟩
    obtain ⟨_, small, isFinalized⟩ := ran isFinalized
    cases isFinalized
    have isWorked : processed = true := require_eq_ok.mp worked
    rw [isWorked] at loop
    exact ⟨require_eq_ok.mp running, require_eq_ok.mp sized, target, t, u, v, w, held, total,
      isTarget, require_eq_ok.mp small, Nat.le_of_not_lt (require_eq_ok.mp final), updated, synced,
      captured, loop, sent⟩
  · rintro ⟨running, sized, target, t, u, v, w, held, total, isTarget, small, final, updated, synced,
      captured, loop, rfl, sent⟩
    refine bind_eq_ok.mpr ⟨(), require_eq_ok.mpr running, ?_⟩
    refine bind_eq_ok.mpr ⟨(), require_eq_ok.mpr sized, ?_⟩
    refine bind_eq_ok.mpr ⟨target, isTarget, ?_⟩
    refine bind_eq_ok.mpr ⟨ctx.epoch, bind_eq_ok.mpr ⟨(), require_eq_ok.mpr small, rfl⟩, ?_⟩
    refine bind_eq_ok.mpr ⟨(), require_eq_ok.mpr (Nat.not_lt_of_le final), ?_⟩
    refine bind_eq_ok.mpr ⟨t, updated, bind_eq_ok.mpr ⟨u, synced, ?_⟩⟩
    refine bind_eq_ok.mpr ⟨v, captured, bind_eq_ok.mpr ⟨_, loop, ?_⟩⟩
    refine bind_eq_ok.mpr ⟨(), require_eq_ok.mpr rfl, ?_⟩
    split at sent
    next positive =>
      rw [if_pos positive]
      exact bind_eq_ok.mpr ⟨ants', sent, rfl⟩
    next nothing =>
      cases sent
      rw [if_neg nothing]
      rfl

theorem antsShares_eq {target : Nat} {u v : DiemStakingProxy}
    (isTarget : claimTarget s.firstRewardEpoch epochs s.firstRewardEpoch = .ok target)
    (updated : s.updateUsdcForUser ctx.sender = .ok t) (synced : t.syncForClaim target = .ok u)
    (captured : u.captureUserPoints ctx.sender = .ok v) :
    s.antsShares ants ctx epochs = claimShares ctx epochs v ants := by
  have prepared : s.prepareClaim ctx epochs = .ok v := by
    simp [prepareClaim, isTarget, updated, synced, captured]
  simp [antsShares, prepared]

theorem claimAnts_transfers (h : s.claimAnts ants ctx epochs = .ok (s', ants')) :
    ∃ held : Erc20, let total := ((s.antsShares ants ctx epochs).map ClaimShare.ants).sum
      (if total > 0 then held.transfer ctx.self ctx.sender total else pure held : Tx ProxyError Erc20) =
        .ok ants' := by
  obtain ⟨-, -, target, t, u, v, w, held, total, isTarget, -, -, updated, synced, captured, loop, -,
    sent⟩ := claimAnts_eq_ok.mp h
  have worth := claimEpochs_total loop
  rw [Nat.zero_add] at worth
  refine ⟨held, ?_⟩
  rw [antsShares_eq isTarget updated synced captured, ← worth]
  exact sent

theorem claimAnts_kept (somebody : ctx.sender ≠ 0)
    (kept : s.points.Kept ray n dropped (rounded + spent * ray)) (isPaid : Paid n spent paid s)
    (h : s.claimAnts ants ctx epochs = .ok (s', ants')) :
    s'.points.Kept ray n dropped (rounded + s.pointFraction n ctx.sender +
        (spent + (shareIn n (s.antsShares ants ctx epochs)).1) * ray) ∧
      Paid n (spent + (shareIn n (s.antsShares ants ctx epochs)).1)
        (paid + (shareIn n (s.antsShares ants ctx epochs)).2) s' := by
  obtain ⟨-, -, target, t, u, v, w, held, total, isTarget, -, -, updated, synced, captured, loop, rfl,
    -⟩ := claimAnts_eq_ok.mp h
  obtain ⟨closes, reached⟩ := closes_syncForClaim synced
  obtain ⟨isCaptured, later⟩ := captured_of_closes somebody kept.begun
    ((closes_updateUsdcForUser updated).trans closes) captured
  have closed : ∀ epoch ∈ epochs, epoch < v.syncedRewardEpoch := by
    intro epoch member
    have below := (claimTarget_bounds isTarget).2 epoch member
    omega
  have before : v.points.Kept ray n dropped (rounded + s.pointFraction n ctx.sender + spent * ray) := by
    have touched := isCaptured.kept kept
    rwa [Nat.add_right_comm] at touched
  rw [antsShares_eq isTarget updated synced captured]
  obtain ⟨after, isPaidAfter⟩ :=
    claimEpochs_kept closed before (isPaid.carried isCaptured.carries) loop
  exact ⟨after, isPaidAfter.carried (carries_of_same rfl rfl)⟩

end Claims

theorem uncapturedPoints_eq_ok (closed : n < s.syncedRewardEpoch)
    (h : s.uncapturedPoints account n = .ok v) : v = (s.points.books n).pending account / ray := by
  have isPending : (s.points.books n).pending account =
      s.staked account * ((s.rewardEpochs n).revenuePerTokenAtEnd - s.points.settledAt n account) :=
    congrArg (fun index => s.staked account * (index - s.points.settledAt n account)) (if_pos closed)
  unfold uncapturedPoints at h
  dsimp only at h
  split at h
  next staked =>
    have start : s.points.settledAt n account =
        if s.userCurrentEpoch account = n then s.userRevenuePerTokenSnap account
        else if n > 0 then (s.rewardEpochs (n - 1)).revenuePerTokenAtEnd else 0 := by
      unfold settledAt indexAt
      dsimp only [points]
      grind
    rw [← start] at h
    split at h
    · replace h := uint_rest h
      cases h
      rw [isPending]
    next flat =>
      cases h
      rw [isPending, Nat.sub_eq_zero_of_le (Nat.le_of_not_lt flat), Nat.mul_zero, Nat.zero_div]
  next idle =>
    cases h
    by_cases seen : n < s.userCurrentEpoch account
    · rw [pending_of_seen seen, Nat.zero_div]
    · have none : s.staked account = 0 := by omega
      rw [isPending, none, Nat.zero_mul, Nat.zero_div]

end DiemStakingProxy

/-- The fractions of a point of an epoch, in parts of `ray`, that an event drops from the total
    and from a staker. -/
def ProxyState.pointFractions (self : Address) (n : Nat) (s : ProxyState) : ProxyEvent → Nat × Nat
  | .call sender payment _ op =>
    match op with
    | .topUp | .settle | .close =>
      (if n = max s.proxy.syncedRewardEpoch s.epoch then s.proxy.reserveFraction self payment
        else 0, 0)
    | .stake _ | .initiateUnstake _ | .claimUsdc | .claimAnts _ =>
      (0, s.proxy.pointFraction n sender)
    | .catchUpPoints numEpochs =>
      (0, if n < s.proxy.catchUpTarget s.epoch sender numEpochs then
        s.proxy.pointFraction n sender else 0)
    | _ => (0, 0)
  | _ => (0, 0)

/-- The points of an epoch that an event gives up, and the ANTS it pays for them. -/
def ProxyState.claimsIn (self : Address) (n : Nat) (s : ProxyState) : ProxyEvent → Nat × Nat
  | .call sender payment emission (.claimAnts rewardEpochIds) =>
    shareIn n (s.proxy.antsShares s.ants ⟨sender, self, s.now, s.epoch, payment, emission⟩
      rewardEpochIds)
  | _ => 0

/-- The books of an epoch balance if points that were claimed count as dropped, and claims were
    paid fairly out of its pot. -/
structure PotKept (n : Nat) (sums : (Nat × Nat) × Nat × Nat) (s : ProxyState) : Prop where
  points : s.proxy.points.Kept ray n sums.1.1 (sums.1.2 + sums.2.1 * ray)
  paid : s.proxy.Paid n sums.2.1 sums.2.2

section Steps

variable {n : Nat} {sums : (Nat × Nat) × Nat × Nat} {s s' : ProxyState}

section

variable (h : PotKept n sums s)

include h

theorem PotKept.moved (fractions : Nat × Nat)
    (kept : s'.proxy.points.Kept ray n (sums.1.1 + fractions.1)
      (sums.1.2 + sums.2.1 * ray + fractions.2))
    (carries : s.proxy.Carries s'.proxy) : PotKept n (sums + (fractions, 0)) s' where
  points := by
    rw [Nat.add_right_comm] at kept
    exact kept
  paid := h.paid.carried carries

theorem PotKept.captured {fraction : Nat}
    (moved : s'.proxy.points.Kept ray n sums.1.1 (sums.1.2 + sums.2.1 * ray + fraction) ∧
      s.proxy.Carries s'.proxy) : PotKept n (sums + ((0, fraction), 0)) s' := by
  refine h.moved (0, fraction) ?_ moved.2
  simpa using moved.1

theorem PotKept.distributed
    (moved : s'.proxy.points.Kept ray n (sums.1.1 + fraction) (sums.1.2 + sums.2.1 * ray) ∧
      s.proxy.Carries s'.proxy) : PotKept n (sums + ((fraction, 0), 0)) s' := by
  refine h.moved (fraction, 0) ?_ moved.2
  simpa using moved.1

theorem PotKept.unmoved
    (moved : s'.proxy.points.Kept ray n sums.1.1 (sums.1.2 + sums.2.1 * ray) ∧
      s.proxy.Carries s'.proxy) : PotKept n (sums + 0) s' := by
  rw [add_zero]
  exact ⟨moved.1, h.paid.carried moved.2⟩

theorem PotKept.same
    (same : s'.proxy.points = s.proxy.points ∧ s'.proxy.rewardEpochs = s.proxy.rewardEpochs) :
    PotKept n (sums + 0) s' := by
  refine h.unmoved ⟨same.1 ▸ h.points, ?_⟩
  exact carries_of_same (congrArg epoch same.1) same.2

end

variable {p p' : DiemStakingProxy} {self sender : Address} {ctx : ProxyContext}

theorem payUsers_points
    (h : payUsers self batchId users p token = .ok (p', token')) :
    p'.points = p.points ∧ p'.rewardEpochs = p.rewardEpochs := by
  induction users generalizing p token with
  | nil =>
    cases h
    exact ⟨rfl, rfl⟩
  | cons user users ih =>
    obtain ⟨_, -, h⟩ := ran h
    exact ⟨(ih h).1.trans rfl, (ih h).2.trans rfl⟩

theorem flush_points (h : p.flush diem ctx = .ok (p', diem')) :
    p'.points = p.points ∧ p'.rewardEpochs = p.rewardEpochs := by
  replace h := rest_ok h
  replace h := rest_ok h
  replace h := rest_ok h
  replace h := rest_ok h
  obtain ⟨_, -, h⟩ := ran h
  obtain ⟨_, -, h⟩ := ran h
  obtain ⟨_, -, h⟩ := ran h
  obtain ⟨_, -, h⟩ := ran h
  cases h
  exact ⟨rfl, rfl⟩

theorem claimUnstakeBatch_points
    (h : p.claimUnstakeBatch diem ctx batchId = .ok (p', diem')) :
    p'.points = p.points ∧ p'.rewardEpochs = p.rewardEpochs := by
  replace h := rest_ok h
  replace h := rest_ok h
  replace h := rest_ok h
  obtain ⟨_, -, h⟩ := ran h
  obtain ⟨_, -, h⟩ := ran h
  obtain ⟨⟨paid, token⟩, loop, h⟩ := ran h
  cases h
  obtain ⟨points, epochs⟩ := payUsers_points loop
  exact ⟨points.trans rfl, epochs.trans rfl⟩

theorem set_points (h : p.set sender setting = .ok p') :
    p'.points = p.points ∧ p'.rewardEpochs = p.rewardEpochs := by
  replace h := rest_ok h
  cases setting with
  | operatorFee =>
    replace h := rest_ok h
    replace h := rest_ok h
    cases h
    exact ⟨rfl, rfl⟩
  | operator | minUnstakeBatchOpenSecs | pause | unpause | transferOwnership =>
    replace h := rest_ok h
    cases h
    exact ⟨rfl, rfl⟩
  | maxTotalStake | renounceOwnership =>
    cases h
    exact ⟨rfl, rfl⟩

def ProxyState.potSums (self : Address) (n : Nat) (s : ProxyState) (event : ProxyEvent) :
    (Nat × Nat) × Nat × Nat :=
  (s.pointFractions self n event, s.claimsIn self n event)

theorem perform_potKept
    (h : PotKept n sums s) (somebody : sender ≠ 0)
    (taken : s.perform ⟨sender, self, s.now, s.epoch, payment, emission⟩ op = .ok s') :
    PotKept n (sums + s.potSums self n (.call sender payment emission op)) s' := by
  cases op with
  | stake =>
    obtain ⟨⟨proxy, diem⟩, one, taken⟩ := ran taken
    cases taken
    exact h.captured (stake_points h.points somebody one)
  | initiateUnstake =>
    obtain ⟨proxy, one, taken⟩ := ran taken
    cases taken
    exact h.captured (initiateUnstake_points h.points somebody one)
  | claimUsdc =>
    obtain ⟨⟨proxy, usdc⟩, one, taken⟩ := ran taken
    cases taken
    exact h.captured (claimUsdc_points h.points somebody one)
  | catchUpPoints =>
    obtain ⟨proxy, one, taken⟩ := ran taken
    cases taken
    exact h.captured (catchUpPoints_points h.points one)
  | claimAnts =>
    obtain ⟨⟨proxy, ants⟩, one, taken⟩ := ran taken
    cases taken
    obtain ⟨kept, isPaid⟩ := claimAnts_kept somebody h.points h.paid one
    exact ⟨kept, isPaid⟩
  | topUp | settle | close =>
    obtain ⟨⟨proxy, usdc⟩, one, taken⟩ := ran taken
    cases taken
    exact h.distributed (forwardRevenue_points h.points one)
  | syncRewardEpochs =>
    obtain ⟨proxy, one, taken⟩ := ran taken
    cases taken
    exact h.unmoved (syncRewardEpochs_points h.points one)
  | flush =>
    obtain ⟨⟨proxy, diem⟩, one, taken⟩ := ran taken
    cases taken
    exact h.same (flush_points one)
  | claimUnstakeBatch =>
    obtain ⟨⟨proxy, diem⟩, one, taken⟩ := ran taken
    cases taken
    exact h.same (claimUnstakeBatch_points one)
  | sweepOrphanUsdc | withdrawAntseedStake =>
    obtain ⟨usdc, one, taken⟩ := ran taken
    cases taken
    exact h.same ⟨rfl, rfl⟩
  | set =>
    obtain ⟨proxy, one, taken⟩ := ran taken
    cases taken
    exact h.same (set_points one)

theorem step_potKept (h : PotKept n sums s)
    (taken : s.step self event = .ok s') : PotKept n (sums + s.potSums self n event) s' := by
  cases event with
  | call =>
    obtain ⟨_, outsider, taken⟩ := ran taken
    exact perform_potKept h (require_eq_ok.mp outsider).2 taken
  | elapse | epoch | diemCooldown =>
    cases taken
    exact h.same ⟨rfl, rfl⟩
  | usdcMint | antsMint | diemMint =>
    obtain ⟨_, -, taken⟩ := ran taken
    cases taken
    exact h.same ⟨rfl, rfl⟩
  | usdcTransfer | antsTransfer | diemTransfer =>
    replace taken := rest_ok taken
    obtain ⟨_, -, taken⟩ := ran taken
    cases taken
    exact h.same ⟨rfl, rfl⟩
  | diemApprove =>
    replace taken := rest_ok taken
    cases taken
    exact h.same ⟨rfl, rfl⟩

theorem potKept_construct {epoch : Nat} {proxy : DiemStakingProxy} (n : Nat)
    (h : construct sender diem usdc registry operator ants emissions staking epoch =
      .ok proxy) : proxy.points.Kept ray n 0 0 := by
  replace h := rest_ok h
  replace h := rest_ok h
  replace h := rest_ok h
  replace h := rest_ok h
  obtain ⟨first, -, h⟩ := ran h
  cases h
  exact kept_fresh ray first n

end Steps

theorem run_potKept (self : Address) (start : ProxyState) (n : Nat)
    {epoch : Nat}
    (deployed : construct sender diemToken usdcToken registry operator antsToken
      emissions staking epoch = .ok start.proxy) (events : List ProxyEvent) :
    PotKept n
      ((proxyMachine self).tally (ProxyState.pointFractions self n) start events,
        (proxyMachine self).tally (ProxyState.claimsIn self n) start events)
      ((proxyMachine self).run start events) := by
  have fresh : PotKept n 0 start :=
    ⟨by simpa using potKept_construct n deployed, paid_nothing n _⟩
  have kept := (proxyMachine self).run_invariant_tally (fun _ _ _ _ => step_potKept) fresh events
  rw [zero_add] at kept
  rwa [Machine.tally_pair] at kept

/-- In every state the proxy can reach and for every epoch: what claims pay is what they transfer;
    the points of a closed epoch, claimed, captured or still to be captured, add up to at most its
    total exactly if the fractions dropped from the total are at most those dropped from stakers;
    less than one point dropped from the total is always harmless; and while the condition holds,
    no more has been paid for the epoch than its pot. -/
theorem ants_pot_covers_iff
    (self sender diemToken usdcToken registry operator antsToken emissions staking : Address)
    (now epoch : Nat) (proxy : DiemStakingProxy) (diem : Diem) (usdc ants : Erc20)
    (deployed : construct sender diemToken usdcToken registry operator antsToken
      emissions staking epoch = .ok proxy)
    (events : List ProxyEvent) (n : Nat) :
    let start : ProxyState := ⟨now, epoch, proxy, diem, usdc, ants⟩
    let s := (proxyMachine self).run start events
    let dropped := (proxyMachine self).tally (ProxyState.pointFractions self n) start events
    let claims := (proxyMachine self).tally (ProxyState.claimsIn self n) start events
    let condition := dropped.1 ≤ dropped.2 + ∑ a, s.proxy.pointFraction n a
    (∀ ctx epochs p' ants', s.proxy.claimAnts s.ants ctx epochs = .ok (p', ants') →
      ∃ held : Erc20, let total := ((s.proxy.antsShares s.ants ctx epochs).map ClaimShare.ants).sum
        (if total > 0 then held.transfer ctx.self ctx.sender total else pure held :
          Tx ProxyError Erc20) = .ok ants') ∧
    (∀ a v, n < s.proxy.syncedRewardEpoch → s.proxy.uncapturedPoints a n = .ok v →
      s.proxy.userPoints a n + v = (s.proxy.points.books n).earned ray a) ∧
    (n < s.proxy.syncedRewardEpoch →
      (claims.1 + ∑ a, (s.proxy.points.books n).earned ray a ≤ (s.proxy.rewardEpochs n).totalPoints ↔
        condition)) ∧
    (dropped.1 < ray → condition) ∧
    (condition → claims.2 ≤ (s.proxy.rewardEpochs n).antsPot) := by
  intro start s dropped claims condition
  have kept : PotKept n (dropped, claims) s := run_potKept self start n deployed events
  have covered : claims.1 + ∑ a, (s.proxy.points.books n).earned ray a ≤ s.proxy.points.pointsIn n ↔
      condition := kept.points.balanced.spent_covered_iff (by decide)
  refine ⟨fun ctx epochs p' ants' => claimAnts_transfers, ?_, ?_, ?_, ?_⟩
  · intro a v closed uncaptured
    rw [uncapturedPoints_eq_ok closed uncaptured]
    rfl
  · intro closed
    have total : s.proxy.points.pointsIn n = (s.proxy.rewardEpochs n).totalPoints := if_pos closed
    rw [← total]
    exact covered
  · exact fun small => covered.mp (kept.points.balanced.spent_covered_of_lt small)
  · intro holds
    exact kept.paid.within (Nat.le_trans (Nat.le_add_right _ _) (covered.mpr holds))

/-- The payout of `onePayout` is claimed in the next epoch. -/
def antsClaim : List ProxyEvent :=
  [.epoch 1, .antsMint ⟨7⟩ (10 ^ 9), .antsMint ⟨100⟩ 1,
    .call ⟨5⟩ none (fun _ => some (⟨7⟩, 2222222)) (.claimAnts [0])]

/-- One payout drops less than a point, so its staker gets no more than the pot. -/
theorem onePayout_within_pot : ∃ proxy,
    construct ⟨9⟩ ⟨50⟩ ⟨60⟩ ⟨1⟩ ⟨8⟩ ⟨2⟩ ⟨3⟩ ⟨4⟩ 0 = .ok proxy ∧
      let start : ProxyState := ⟨0, 0, proxy, ⟨⟨50⟩, .empty, 86400, fun _ => {}⟩, .empty, .empty⟩
      let events := onePayout ++ antsClaim
      ((proxyMachine ⟨100⟩).tally (ProxyState.claimsIn ⟨100⟩ 0) start events).2 ≤
        (((proxyMachine ⟨100⟩).run start events).proxy.rewardEpochs 0).antsPot := by
  refine ⟨_, rfl, ?_⟩
  obtain ⟨-, -, -, harmless, within⟩ := ants_pot_covers_iff ⟨100⟩ ⟨9⟩ ⟨50⟩ ⟨60⟩ ⟨1⟩ ⟨8⟩ ⟨2⟩ ⟨3⟩ ⟨4⟩ 0 0
    _ ⟨⟨50⟩, .empty, 86400, fun _ => {}⟩ .empty .empty rfl (onePayout ++ antsClaim) 0
  exact within (harmless (by decide))

/-- After two payouts the only staker has one point more than the total, and its claim takes one
    unit more than the pot. -/
theorem twoPayouts_overpaid : ∃ proxy,
    construct ⟨9⟩ ⟨50⟩ ⟨60⟩ ⟨1⟩ ⟨8⟩ ⟨2⟩ ⟨3⟩ ⟨4⟩ 0 = .ok proxy ∧
      let start : ProxyState := ⟨0, 0, proxy, ⟨⟨50⟩, .empty, 86400, fun _ => {}⟩, .empty, .empty⟩
      let events := twoPayouts ++ antsClaim
      let pot := ((proxyMachine ⟨100⟩).run start events).proxy.rewardEpochs 0
      let claims := (proxyMachine ⟨100⟩).tally (ProxyState.claimsIn ⟨100⟩ 0) start events
      pot.totalPoints = 1999998 ∧ pot.antsPot = 2000000 ∧ claims = (1999999, 2000001) ∧
        pot.totalPoints < claims.1 ∧ pot.antsPot < claims.2 ∧
        ((proxyMachine ⟨100⟩).run start events).ants.balanceOf ⟨5⟩ = 2000001 := by
  refine ⟨_, rfl, ?_⟩
  exact ⟨rfl, rfl, rfl, by decide, by decide, rfl⟩

end AntSeed.Staking
