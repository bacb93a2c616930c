import AntSeed.Legacy.Effects

/-! # Releases over whole runs

Nothing the pool locks is lost: it is still locked, or it was released. As long
as a policy looks at every epoch a seller has claimed, what it takes for released
is at least what was, so it never releases more than its share. A policy that
stops short of a claimed epoch takes locked rewards for new ones and releases a
share of what is left, again and again.
-/

namespace AntSeed.Legacy

open Evm Function
open Nat

variable {r : Deployment} {s s' : State r} {call : Call r}

/-- Everything ever locked for a seller. -/
def recorded (seller : Address) : List (PoolEvent r) → Nat
  | [] => 0
  | .lockedRewardRecorded who amount :: events =>
    (if who = seller then amount else 0) + recorded seller events
  | .sellerRewardsClaimed _ _ _ :: events => recorded seller events
  | .sellerClaimPolicySet _ :: events => recorded seller events

/-- Everything ever released to a seller. -/
def released (seller : Address) : List (PoolEvent r) → Nat
  | [] => 0
  | .sellerRewardsClaimed who _ amount :: events =>
    (if who = seller then amount else 0) + released seller events
  | .lockedRewardRecorded _ _ :: events => released seller events
  | .sellerClaimPolicySet _ :: events => released seller events

/-- The largest `releaseBps` of a policy the pool has had. -/
def largestReleaseBps : List (PoolEvent r) → Nat
  | [] => 0
  | .sellerClaimPolicySet (some policy) :: events => max policy.releaseBps (largestReleaseBps events)
  | .sellerClaimPolicySet none :: events => largestReleaseBps events
  | .lockedRewardRecorded _ _ :: events => largestReleaseBps events
  | .sellerRewardsClaimed _ _ _ :: events => largestReleaseBps events

theorem largestReleaseBps_le (policy : Option (AntseedLegacySellerClaimPolicy r))
    (events : List (PoolEvent r)) :
    largestReleaseBps events ≤ largestReleaseBps (.sellerClaimPolicySet policy :: events) := by
  cases policy with
  | none => exact le_refl _
  | some => exact le_max_right _ _

variable {recipient seller sender : Address}

theorem claim_meets (enough : s.pool.lockedRewards sender ≤ s.pool.totalLockedRewards) :
    Meets (s.claim ext sender recipient) (· ≠ .underflow) fun s' =>
      ∃ policy amount ants, s.pool.sellerClaimPolicy = some policy ∧ amount ≠ 0 ∧
        amount ≤ s.pool.lockedRewards sender ∧
        amount = policy.allowance (claimedTotal r s.legacy s.v2 sender (policy.lastEpoch + 1))
          (s.pool.lockedRewards sender) ∧
        s' = { s with
          ants
          pool := { s.pool with
            lockedRewards := update s.pool.lockedRewards sender (s.pool.lockedRewards sender - amount)
            totalLockedRewards := s.pool.totalLockedRewards - amount
            events := .sellerRewardsClaimed sender recipient amount :: s.pool.events } } := by
  refine .require nofun fun _ => ?_
  cases isPolicy : s.pool.sellerClaimPolicy with
  | none => exact nofun
  | some policy =>
    refine .bind (claimableSellerRewards_meets policy ext _) fun claimable known => ?_
    refine .require nofun fun some => ?_
    have within : policy.allowance (claimedTotal r s.legacy s.v2 sender (policy.lastEpoch + 1))
        (s.pool.lockedRewards sender) ≤ s.pool.lockedRewards sender := min_le_left _ _
    have isAmount : (if s.pool.lockedRewards sender < claimable then s.pool.lockedRewards sender
        else claimable) = policy.allowance
          (claimedTotal r s.legacy s.v2 sender (policy.lastEpoch + 1)) (s.pool.lockedRewards sender) := by
      rcases known with rfl | rfl
      · exact absurd (if_neg (not_lt_zero _)) some
      · exact if_neg (not_lt.mpr within)
    rw [isAmount] at some ⊢
    refine .sub within (Meets.sub (le_trans within enough) (Meets.external nofun ?_))
    refine .bind (Erc20.transfer_meets fun _ => nofun) fun ants _ => Meets.pure ?_
    exact ⟨policy, _, ants, rfl, some, within, rfl, rfl⟩

structure Kept (s : State r) : Prop where
  /-- only epochs that are over have been claimed -/
  past : ∀ seller epoch, s.v2.sellers.epochClaimed seller epoch = true → epoch < r.epochAt s.now
  /-- what was locked is locked or released -/
  conserved : ∀ seller, released seller s.pool.events + s.pool.lockedRewards seller =
    recorded seller s.pool.events
  /-- what was locked was claimed -/
  counted : ∀ seller, recorded seller s.pool.events ≤
    claimedTotal r s.legacy s.v2 seller (r.epochAt s.now)
  total : s.pool.totalLockedRewards = ∑ seller, s.pool.lockedRewards seller
  policy : ∀ policy, s.pool.sellerClaimPolicy = some policy →
    policy.releaseBps ≤ largestReleaseBps s.pool.events

theorem kept_deployed (legacy : AntseedEmissions) (ants : Erc20) (v2Owner poolOwner : Address) :
    Kept (deployed r legacy ants v2Owner poolOwner) where
  past := nofun
  conserved _ := rfl
  counted _ := zero_le _
  total := by simp [deployed]
  policy := nofun

theorem Kept.enough (kept : Kept s) (seller : Address) :
    s.pool.lockedRewards seller ≤ s.pool.totalLockedRewards := by
  rw [kept.total]
  exact Finset.single_le_sum (fun _ _ => zero_le _) (Finset.mem_univ seller)

theorem State.Settles.claimedTotal (settles : s.Settles s')
    (past : ∀ epoch, s.v2.sellers.epochClaimed seller epoch = true → epoch < r.epochAt s.now) :
    claimedTotal r s'.legacy s'.v2 seller (r.epochAt s'.now) =
      claimedTotal r s.legacy s.v2 seller (r.epochAt s.now) := by
  rw [claimedTotal_eq (Deployment.epochAt_mono settles.later) (by rw [settles.claimed]; exact past)]
  refine Finset.sum_congr rfl fun epoch inside => ?_
  rw [settles.claimed, settles.rewards seller epoch (Finset.mem_range.mp inside)]

theorem Claims.pastEpochs
    (claims : Claims r s.legacy sender (r.epochAt s.now) s.v2 v2 reward) (kept : Kept s)
    (seller : Address) (epoch : Nat) (claimed : v2.sellers.epochClaimed seller epoch = true) :
    epoch < r.epochAt s.now := by
  rcases claims.past seller epoch claimed with before | past
  · exact kept.past seller epoch before
  · exact past

theorem effect_kept (kept : Kept s) (effect : Effect s call s') : Kept s' := by
  cases effect with
  | quiet settles owner pool =>
    refine ⟨fun seller epoch claimed => ?_, fun seller => ?_, fun seller => ?_, ?_, fun policy => ?_⟩
    · rw [settles.claimed] at claimed
      exact lt_of_lt_of_le (kept.past seller epoch claimed) (Deployment.epochAt_mono settles.later)
    · rw [pool]
      exact kept.conserved seller
    · rw [pool, settles.claimedTotal (kept.past seller)]
      exact kept.counted seller
    · rw [pool]
      exact kept.total
    · rw [pool]
      exact kept.policy policy
  | policySet policy =>
    refine ⟨kept.past, kept.conserved, kept.counted, kept.total, fun current isCurrent => ?_⟩
    obtain rfl : policy = some current := isCurrent
    exact le_max_left _ _
  | rewarded claims =>
    refine ⟨claims.pastEpochs kept, kept.conserved, fun seller => ?_, kept.total, kept.policy⟩
    exact le_trans (kept.counted seller) (claims.gained seller ▸ le_add_right _ _)
  | @locked v2 ants reward claims =>
    refine ⟨claims.pastEpochs kept, fun seller => ?_, fun seller => ?_, ?_, kept.policy⟩
    · have before := kept.conserved seller
      simp only [released, recorded, update_apply]
      by_cases own : seller = call.sender
      · subst own
        simp only [if_true]
        omega
      · simp only [if_neg own, if_neg (Ne.symm own)]
        omega
    · have before := kept.counted seller
      have gained := claims.gained seller
      simp only [recorded]
      rw [gained]
      by_cases own : seller = call.sender
      · subst own
        simp only [if_true]
        omega
      · simp only [if_neg own, if_neg (Ne.symm own)]
        omega
    · have moved := sum_update_add (fun _ amount => amount) s.pool.lockedRewards
        (s.pool.lockedRewards call.sender + reward) (Finset.mem_univ call.sender)
      have before := kept.total
      dsimp only
      omega
  | released isClaim taken =>
    obtain ⟨policy, amount, ants, -, -, within, -, rfl⟩ := (claim_meets (kept.enough _)).result taken
    refine ⟨kept.past, fun seller => ?_, fun seller => kept.counted seller, ?_, kept.policy⟩
    · have before := kept.conserved seller
      simp only [released, recorded, update_apply]
      by_cases own : seller = call.sender
      · subst own
        simp only [if_true]
        omega
      · simp only [if_neg own, if_neg (Ne.symm own)]
        omega
    · have moved := sum_update_add (fun _ amount => amount) s.pool.lockedRewards
        (s.pool.lockedRewards call.sender - amount) (Finset.mem_univ call.sender)
      have before := kept.total
      dsimp only
      omega

theorem step_kept (kept : Kept s) (taken : step s call = .ok s') : Kept s' :=
  effect_kept kept (step_meets.result taken)

theorem run_kept (legacy : AntseedEmissions) (ants : Erc20) (v2Owner poolOwner : Address)
    (calls : List (Call r)) :
    Kept ((machine r).run (deployed r legacy ants v2Owner poolOwner) calls) :=
  (machine r).run_invariant (fun _ _ _ => step_kept) (kept_deployed legacy ants v2Owner poolOwner) calls

/-- If the call is the seller's claim, the policy looks at every epoch the seller has claimed. -/
def Covers (seller : Address) (s : State r) (call : Call r) : Prop :=
  call.sender = seller → ∀ recipient, call.op = .claim recipient →
    ∀ policy, s.pool.sellerClaimPolicy = some policy →
      ∀ epoch, s.v2.sellers.epochClaimed seller epoch = true → epoch ≤ policy.lastEpoch

theorem Kept.counts (kept : Kept s) {lastEpoch : Nat}
    (covers : ∀ epoch, s.v2.sellers.epochClaimed seller epoch = true → epoch ≤ lastEpoch) :
    recorded seller s.pool.events ≤ claimedTotal r s.legacy s.v2 seller (lastEpoch + 1) := by
  refine le_trans (kept.counted seller) (le_of_eq ?_)
  rcases le_total (lastEpoch + 1) (r.epochAt s.now) with less | more
  · exact claimedTotal_eq less fun epoch claimed => lt_succ_of_le (covers epoch claimed)
  · exact (claimedTotal_eq more (kept.past seller)).symm

theorem Kept.covers (kept : Kept s) (seller : Address)
    (reaches : ∀ policy, s.pool.sellerClaimPolicy = some policy →
      r.epochAt s.now ≤ policy.lastEpoch + 1) : Covers seller s call := by
  intro _ _ _ policy isPolicy epoch claimed
  have past := kept.past seller epoch claimed
  have reached := reaches policy isPolicy
  omega

/-- What was released is at most the largest share of what was locked. -/
def Within (seller : Address) (s : State r) : Prop :=
  released seller s.pool.events ≤
    recorded seller s.pool.events * largestReleaseBps s.pool.events / BPS

theorem allowance_within (policy : AntseedLegacySellerClaimPolicy r)
    {counted locked released recorded : Nat} (conserved : released + locked = recorded)
    (all : recorded ≤ counted) (some : policy.allowance counted locked ≠ 0) :
    released + policy.allowance counted locked ≤ recorded * policy.releaseBps / BPS := by
  unfold AntseedLegacySellerClaimPolicy.allowance at some ⊢
  rw [Nat.max_eq_left (by omega)] at some ⊢
  -- rewards paid out directly count as released, and their share is at most themselves
  have share := share_add_le policy.bounded (by decide) recorded (counted - recorded)
  rw [Nat.add_sub_cancel' all] at share
  omega

theorem effect_within (kept : Kept s) (covers : Covers seller s call) (within : Within seller s)
    (effect : Effect s call s') : Within seller s' := by
  unfold Within at within ⊢
  cases effect with
  | quiet settles owner pool =>
    rw [pool]
    exact within
  | policySet policy =>
    refine Nat.le_trans within (Nat.div_le_div_right (Nat.mul_le_mul_left _ ?_))
    exact largestReleaseBps_le policy s.pool.events
  | rewarded => exact within
  | locked =>
    refine Nat.le_trans within (Nat.div_le_div_right (Nat.mul_le_mul_right _ ?_))
    exact Nat.le_add_left _ _
  | released isClaim taken =>
    obtain ⟨policy, amount, ants, isPolicy, some, -, isAmount, rfl⟩ :=
      (claim_meets (kept.enough _)).result taken
    simp only [released, recorded, largestReleaseBps]
    by_cases own : call.sender = seller
    · subst own
      have all := kept.counts (covers rfl _ isClaim policy isPolicy)
      have share := allowance_within policy (kept.conserved call.sender) all (isAmount ▸ some)
      rw [if_pos rfl, Nat.add_comm, isAmount]
      refine Nat.le_trans share (Nat.div_le_div_right (Nat.mul_le_mul_left _ ?_))
      exact kept.policy policy isPolicy
    · rw [if_neg own, Nat.zero_add]
      exact within

theorem allowance_taken (policy : AntseedLegacySellerClaimPolicy r) {counted locked : Nat}
    (all : locked ≤ counted) :
    policy.allowance counted (locked - policy.allowance counted locked) = 0 := by
  unfold AntseedLegacySellerClaimPolicy.allowance
  rw [max_eq_left all, max_eq_left (by omega)]
  generalize counted * policy.releaseBps / BPS = entitled
  omega

theorem claim_twice (kept : Kept s) (covers : Covers seller s call)
    (isSeller : call.sender = seller) (isClaim : call.op = .claim recipient)
    (taken : step s call = .ok s') (sameSeller : again.sender = seller)
    (isAgain : again.op = .claim other) (s'' : State r) :
    step s' again ≠ .ok s'' := by
  subst isSeller
  have first : s.claim call.ext call.sender recipient = .ok s' := by
    simpa only [step, isClaim] using taken
  intro repeated
  have second : s'.claim again.ext call.sender other = .ok s'' := by
    simpa only [step, isAgain, sameSeller] using repeated
  have kept' := step_kept kept taken
  obtain ⟨policy, amount, ants, isPolicy, -, within, isAmount, rfl⟩ :=
    (claim_meets (kept.enough _)).result first
  obtain ⟨policy', amount', ants', isPolicy', some, -, isAmount', -⟩ :=
    (claim_meets (kept'.enough _)).result second
  obtain rfl : policy = policy' := Option.some.inj (isPolicy.symm.trans isPolicy')
  have all := kept.counts (covers rfl _ isClaim policy isPolicy)
  have conserved := kept.conserved call.sender
  refine some (isAmount'.trans ?_)
  dsimp only
  rw [update_self, isAmount]
  exact allowance_taken policy (by omega)

theorem legacy_release_within_share (r : Deployment) (legacy : AntseedEmissions) (ants : Erc20)
    (v2Owner poolOwner : Address) (calls : List (Call r)) :
    let start := deployed r legacy ants v2Owner poolOwner
    let s := (machine r).run start calls
    (∀ seller, released seller s.pool.events + s.pool.lockedRewards seller =
      recorded seller s.pool.events) ∧
    (∀ call : Call r, ∀ recipient, call.op = .claim recipient → step s call ≠ .error .underflow) ∧
    ∀ seller, (machine r).Along (Covers seller) start calls →
      released seller s.pool.events ≤
        recorded seller s.pool.events * largestReleaseBps s.pool.events / BPS ∧
      ∀ call again : Call r, call.sender = seller → again.sender = seller → Covers seller s call →
        ∀ recipient other, call.op = .claim recipient → again.op = .claim other →
          ∀ s' s'', step s call = .ok s' → step s' again ≠ .ok s'' := by
  intro start s
  have kept : Kept s := run_kept legacy ants v2Owner poolOwner calls
  refine ⟨kept.conserved, fun call recipient isClaim => ?_, fun seller along => ⟨?_, ?_⟩⟩
  · intro underflows
    have reverted : s.claim call.ext call.sender recipient = .error .underflow := by
      simpa only [step, isClaim] using underflows
    exact (claim_meets (kept.enough _)).reason reverted rfl
  · have both : Kept s ∧ Within seller s :=
      (machine r).run_invariant_along (I := fun s => Kept s ∧ Within seller s)
        (fun s call s' covers both taken => ⟨step_kept both.1 taken,
          effect_within both.1 covers both.2 (step_meets.result taken)⟩)
        ⟨kept_deployed legacy ants v2Owner poolOwner, zero_le _⟩ along
    exact both.2
  · intro call again isSeller sameSeller covers recipient other isClaim isAgain s' s'' taken
    exact claim_twice kept covers isSeller isClaim taken sameSeller isAgain s''

/-! ## Two policies

A seller earns in epoch 1, locks the reward and claims twice. A policy up to
epoch 1 releases a tenth once; one that stops at epoch 0 releases a tenth of what
is left a second time.
-/

def oneWeek : Deployment where
  genesis := 0
  epochDuration := 7
  halvingInterval := 104
  initialEmission := 1000000
  deployedAt := 0
  v2 := ⟨1⟩
  pool := ⟨2⟩
  lasting := by decide
  started := by decide

def quietExternal : External where
  channels := ⟨3⟩
  protocolReserve := 0
  teamWallet := 0
  operator := 0
  mints := true
  transfers := true
  points := none
  unlocked := none
  provenWashTrader := some false
  records := false

def releaseTenth (lastEpoch : Nat) : AntseedLegacySellerClaimPolicy oneWeek where
  lastEpoch := lastEpoch
  releaseBps := 1000
  reaches := zero_le _
  positive := by decide
  bounded := by decide

def soleSeller : Address := ⟨7⟩

def claimCall : Call oneWeek := ⟨soleSeller, quietExternal, .claim soleSeller, by decide⟩

def lockAndClaim (lastEpoch : Nat) : List (Call oneWeek) :=
  [⟨⟨4⟩, quietExternal, .setSellerClaimPolicy (some (releaseTenth lastEpoch)), by decide⟩,
    ⟨⟨3⟩, quietExternal, .elapse 7, by decide⟩,
    ⟨⟨3⟩, quietExternal, .accrueSellerPoints soleSeller 100, by decide⟩,
    ⟨⟨3⟩, quietExternal, .elapse 7, by decide⟩,
    ⟨soleSeller, quietExternal, .claimSellerEmissions [1], by decide⟩,
    claimCall]

def oneWeekStart : State oneWeek :=
  deployed oneWeek ⟨{ owner := ⟨5⟩, shares := ⟨50, 20, 15, 15, 50⟩ }, fun _ => {}, {}, {}⟩ .empty ⟨5⟩ ⟨4⟩

/-- The policy stops short of the claimed epoch: the second claim is accepted too, and more than
    a tenth of what was locked is released. -/
theorem lockAndClaim_shortPolicy : let s := (machine oneWeek).run oneWeekStart (lockAndClaim 0)
    let s' := (machine oneWeek).run oneWeekStart (lockAndClaim 0 ++ [claimCall])
    ((step s claimCall).isOk = true) ∧ s'.pool.lockedRewards soleSeller = 202500 ∧
      released soleSeller s'.pool.events = 47500 ∧ recorded soleSeller s'.pool.events = 250000 ∧
      ¬ released soleSeller s'.pool.events ≤
        recorded soleSeller s'.pool.events * largestReleaseBps s'.pool.events / BPS := by
  decide +kernel

theorem lockAndClaim_covered :
    (machine oneWeek).Along (Covers soleSeller) oneWeekStart (lockAndClaim 1) := by
  refine ⟨nofun, nofun, nofun, nofun, nofun, ?_, trivial⟩
  let s := (machine oneWeek).run oneWeekStart ((lockAndClaim 1).take 5)
  have isNow : oneWeek.epochAt s.now = 2 := by decide +kernel
  have isLast : s.pool.sellerClaimPolicy.map (·.lastEpoch) = some 1 := by decide +kernel
  have kept : Kept s := run_kept _ _ _ _ _
  have covers : Covers soleSeller s claimCall := kept.covers soleSeller fun policy isPolicy => by
    rw [isPolicy] at isLast
    have isOne : policy.lastEpoch = 1 := Option.some.inj isLast
    rw [isNow, isOne]
  exact covers

theorem lockAndClaim_withinShare : let s := (machine oneWeek).run oneWeekStart (lockAndClaim 1)
    released soleSeller s.pool.events = 25000 ∧
      released soleSeller s.pool.events ≤
        recorded soleSeller s.pool.events * largestReleaseBps s.pool.events / BPS :=
  ⟨by decide +kernel, ((legacy_release_within_share oneWeek _ _ _ _ (lockAndClaim 1)).2.2 soleSeller
    lockAndClaim_covered).1⟩

end AntSeed.Legacy
