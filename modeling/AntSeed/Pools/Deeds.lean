import AntSeed.Pools.Restructure

/-! # Every call keeps the records of ownership

The staker index, the owner in the position, the token and the totals agree in every
reachable state, and no call that withdraws, moves or transfers a position can
be stopped by them.
-/

namespace AntSeed.Pools

open Evm Function
open Meets
open Nat SellerPools

namespace SellerPools

variable {s s' s'' : SellerPools}

/-- The lock of a position has new histories. -/
structure Relocked (s s' : SellerPools) (q : Nat) (starts ends locks : Trace) : Prop where
  owned : s.nft.owners q ≠ 0
  next : s'.nextPositionId = s.nextPositionId
  nft : s'.nft = s.nft
  terms : ∀ x, ∃ stakeEndEpoch, s'.positions x =
    { s.positions x with stakeEndEpoch := stakeEndEpoch }
  starts : s'.positionNormalStartEpoch = update s.positionNormalStartEpoch q starts
  ends : s'.positionNormalEndEpoch = update s.positionNormalEndEpoch q ends
  locks : s'.positionMaxLockPower = update s.positionMaxLockPower q locks
  withdrawable : s'.positionWithdrawableEpoch = s.positionWithdrawableEpoch

/-- What the three calls about a lock do in epoch `c`. -/
inductive Relock (c : Nat) (s s' : SellerPools) (q : Nat) : Prop where
  | extended (ends : Trace) (epoch stakeEndEpoch : Nat)
      (effective : epoch = max (c + 1) (s.positions q).stakeStartEpoch)
      (running : (s.positionNormalEndEpoch q).upperLookupRecent epoch ≠ 0)
      (later : (s.positionNormalEndEpoch q).upperLookupRecent epoch < stakeEndEpoch)
      (limit : stakeEndEpoch ≤ epoch + maxStakeEpochs)
      (pushed : (s.positionNormalEndEpoch q).push epoch stakeEndEpoch = (.ok ends : Tx Error Trace))
      (relocked : Relocked s s' q (s.positionNormalStartEpoch q) ends (s.positionMaxLockPower q))
  | enabled (starts ends locks : Trace) (started : (s.positions q).stakeStartEpoch ≤ c + 1)
      (pushedStart : (s.positionNormalStartEpoch q).push (c + 1) 0 = (.ok starts : Tx Error Trace))
      (pushedEnd : (s.positionNormalEndEpoch q).push (c + 1) 0 = (.ok ends : Tx Error Trace))
      (relocked : Relocked s s' q starts ends locks)
  | disabled (starts ends locks : Trace)
      (locked : (s.positionMaxLockPower q).upperLookupRecent (c + 1) ≠ 0)
      (pushedStart : (s.positionNormalStartEpoch q).push (c + 1) (c + 1) =
        (.ok starts : Tx Error Trace))
      (pushedEnd : (s.positionNormalEndEpoch q).push (c + 1) (c + 1 + maxStakeEpochs) =
        (.ok ends : Tx Error Trace))
      (relocked : Relocked s s' q starts ends locks)

variable {q : Nat} {ctx : Context} {staker : Address}

theorem Tidy.relocked (tidy : s.Tidy)
    (relocked : Relocked s s' q starts ends locks) (begun : ∀ k, starts.upperLookupRecent k ≤ k)
    (bounded : s.Bounded → s'.Bounded) (ids : s'.stakerPositionIds = s.stakerPositionIds)
    (index : s'.stakerPositionIndex = s.stakerPositionIndex)
    (total : s'.stakerTotalActiveStake = s.stakerTotalActiveStake)
    (agent : s'.stakerAgentActiveStake = s.stakerAgentActiveStake) : s'.Tidy where
  portfolio := tidy.portfolio.congr relocked.next relocked.terms (by rw [relocked.nft])
    (relocked.nft ▸ tidy.portfolio.proper) ids index total agent
  bounded := bounded tidy.bounded
  begun x := by
    rw [relocked.starts]
    by_cases here : x = q
    · subst here
      rw [update_self]
      exact begun
    · rw [update_of_ne here]
      exact tidy.begun x

theorem terms_of_setPosition {positions : Nat → Position}
    (written : positions =
      update s.positions q { s.positions q with stakeEndEpoch := stakeEndEpoch }) (x : Nat) :
    ∃ stakeEndEpoch, positions x = { s.positions x with stakeEndEpoch := stakeEndEpoch } := by
  rw [written]
  by_cases here : x = q
  · subst here
    exact ⟨_, update_self ..⟩
  · exact ⟨_, update_of_ne here ..⟩

theorem extendLock_relocks (tidy : s.Tidy) {q additionalEpochs : Nat}
    (h : s.extendLock ctx q additionalEpochs = .ok s') : s'.Tidy ∧ Relock ctx.epoch s s' q := by
  replace h := rest_ok h
  obtain ⟨_, isOwner, h⟩ := ran h
  replace h := rest_ok h
  replace h := uint_rest h
  replace h := rest_ok h
  obtain ⟨_, running, h⟩ := ran h
  replace h := uint_rest h
  obtain ⟨requestedEndEpoch, -, h⟩ := ran h
  obtain ⟨_, later, h⟩ := ran h
  obtain ⟨s1, pushedEnd, h⟩ := ran h
  obtain ⟨ends, pushed, pushedEnd⟩ := ran pushedEnd
  cases pushedEnd
  obtain ⟨s2, removed, added⟩ := ran h
  rw [require_eq_ok] at running later
  obtain ⟨-, -, onlyRemoved, -⟩ := removePowerRange_spec removed
  obtain ⟨-, -, only, -, -⟩ := addPowerRange_spec added
  rw [onlyRemoved] at only
  have owned : s.nft.owners q ≠ 0 := by
    obtain ⟨isSender, somebody⟩ := requirePositionOwner_meets.result isOwner
    exact isSender ▸ somebody
  have relocked : Relocked s s' q (s.positionNormalStartEpoch q) ends (s.positionMaxLockPower q) := by
    rw [only]
    refine ⟨owned, rfl, rfl, terms_of_setPosition rfl, ?_, rfl, ?_, rfl⟩
    · exact (Function.update_eq_self _ _).symm
    · exact (Function.update_eq_self _ _).symm
  refine ⟨tidy.relocked relocked (tidy.begun q) ?_ ?_ ?_ ?_ ?_, .extended ends _ _ rfl
    (fun none => running (.inl none)) later ?_ pushed relocked⟩
  · rw [only]
    exact fun b => b.congr
  · rw [only]
    rfl
  · rw [only]
    rfl
  · rw [only]
    rfl
  · rw [only]
    rfl
  · split <;> omega

theorem enableMaxLock_relocks (tidy : s.Tidy) (h : s.enableMaxLock ctx q = .ok s') :
    s'.Tidy ∧ Relock ctx.epoch s s' q := by
  obtain ⟨_, isOwner, h⟩ := ran h
  replace h := rest_ok h
  replace h := uint_rest h
  obtain ⟨_, started, h⟩ := ran h
  replace h := rest_ok h
  replace h := rest_ok h
  obtain ⟨s1, removed, h⟩ := ran h
  obtain ⟨maxLockPower, -, h⟩ := ran h
  obtain ⟨s2, lockStep, h⟩ := ran h
  obtain ⟨locks, -, lockStep⟩ := ran lockStep
  cases lockStep
  obtain ⟨s3, startStep, h⟩ := ran h
  obtain ⟨starts, pushedStart, startStep⟩ := ran startStep
  cases startStep
  obtain ⟨s4, endStep, moving⟩ := ran h
  obtain ⟨ends, pushedEnd, endStep⟩ := ran endStep
  cases endStep
  obtain ⟨-, -, onlyTrees, -⟩ := removePowerRange_spec removed
  obtain ⟨-, only⟩ := locksMoved_of_apply moving
  rw [onlyTrees] at only pushedStart pushedEnd
  have owned : s.nft.owners q ≠ 0 := by
    obtain ⟨isSender, somebody⟩ := requirePositionOwner_meets.result isOwner
    exact isSender ▸ somebody
  have relocked : Relocked s s' q starts ends locks := by
    rw [only]
    exact ⟨owned, rfl, rfl, fun x => ⟨_, rfl⟩, rfl, rfl, rfl, rfl⟩
  refine ⟨tidy.relocked relocked (begun_push pushedStart (zero_le _) (tidy.begun q)) ?_ ?_ ?_ ?_ ?_,
    .enabled starts ends locks (require_eq_ok.mp started) pushedStart pushedEnd relocked⟩
  · rw [only]
    exact fun b => b.congr
  · rw [only]
  · rw [only]
  · rw [only]
  · rw [only]

theorem disableMaxLock_relocks (tidy : s.Tidy) (h : s.disableMaxLock ctx q = .ok s') :
    s'.Tidy ∧ Relock ctx.epoch s s' q := by
  obtain ⟨_, isOwner, h⟩ := ran h
  replace h := rest_ok h
  replace h := uint_rest h
  obtain ⟨_, locked, h⟩ := ran h
  replace h := uint_rest h
  obtain ⟨s1, lockStep, h⟩ := ran h
  obtain ⟨locks, -, lockStep⟩ := ran lockStep
  cases lockStep
  obtain ⟨s2, startStep, h⟩ := ran h
  obtain ⟨starts, pushedStart, startStep⟩ := ran startStep
  cases startStep
  obtain ⟨s3, endStep, h⟩ := ran h
  obtain ⟨ends, pushedEnd, endStep⟩ := ran endStep
  cases endStep
  obtain ⟨s4, moving, added⟩ := ran h
  obtain ⟨-, onlyLocks⟩ := locksMoved_of_apply moving
  obtain ⟨-, -, only, -, -⟩ := addPowerRange_spec added
  rw [onlyLocks] at only
  have owned : s.nft.owners q ≠ 0 := by
    obtain ⟨isSender, somebody⟩ := requirePositionOwner_meets.result isOwner
    exact isSender ▸ somebody
  have relocked : Relocked s s' q starts ends locks := by
    rw [only]
    exact ⟨owned, rfl, rfl, terms_of_setPosition rfl, rfl, rfl, rfl, rfl⟩
  refine ⟨tidy.relocked relocked (begun_push pushedStart (le_refl _) (tidy.begun q)) ?_ ?_ ?_ ?_ ?_,
    .disabled starts ends locks (require_eq_ok.mp locked) pushedStart pushedEnd relocked⟩
  · rw [only]
    exact fun b => b.congr
  · rw [only]
    rfl
  · rw [only]
    rfl
  · rw [only]
    rfl
  · rw [only]
    rfl

/-- A new stake, locked from a later epoch on for at most the maximum duration. -/
def Staked (c : Nat) (s s' : SellerPools) (amount : Nat) : Prop :=
  ∃ position stakeEndEpoch, Gained s s' position position.stakeStartEpoch stakeEndEpoch
      (s.positionWithdrawableEpoch s.nextPositionId) ∧
    position.amount = amount ∧ position.closedAtEpoch = 0 ∧ c < position.stakeStartEpoch ∧
    stakeEndEpoch ≤ position.stakeStartEpoch + maxStakeEpochs

theorem createWeightedPosition_stakes (tidy : s.Tidy) {owner : Address} {agentId : Word}
    {c amount weightAmount startEpoch stakeEpochs : Nat} (somebody : owner ≠ 0)
    (future : c < startEpoch) (limit : stakeEpochs ≤ maxStakeEpochs) :
    Meets (s.createWeightedPosition ctx owner agentId amount weightAmount startEpoch startEpoch
      (startEpoch + stakeEpochs)) Orderly fun out => out.1.Tidy ∧ Staked c s out.1 amount := by
  refine (createWeightedPosition_gains tidy somebody (by omega) (le_refl _)).mono ?_
  rintro ⟨created, id⟩ ⟨tidy', -, start, gained⟩
  have same : (newPosition owner agentId amount weightAmount startEpoch
    (startEpoch + stakeEpochs)).stakeStartEpoch = startEpoch := start
  refine ⟨tidy', newPosition owner agentId amount weightAmount startEpoch
    (startEpoch + stakeEpochs), startEpoch + stakeEpochs, ?_, rfl, rfl, ?_, ?_⟩
  · rw [same]
    exact gained
  · rw [same]
    exact future
  · rw [same]
    omega

theorem stakeFor_meets (tidy : s.Tidy) {amount stakeEpochs : Nat} :
    Meets (s.stakeFor ants ctx staker agentId amount stakeEpochs) Orderly fun out =>
      out.1.Tidy ∧ Staked ctx.epoch s out.1 amount ∧
      (ants.transferFrom ctx.self ctx.sender ctx.self amount : Tx Error Erc20) = .ok out.2 := by
  apply require (orderly_custom _)
  intro somebody
  refine .bind requireRegisteredSellerAgent_meets fun _ _ => ?_
  apply check (orderly_custom _)
  apply require (orderly_custom _)
  intro duration
  refine .bind (Q := fun ants' => (ants.transferFrom ctx.self ctx.sender ctx.self amount :
      Tx Error Erc20) = .ok ants') ?_ fun ants' paid => ?_
  · exact (Erc20.transferFrom_meets fun _ => ⟨nofun, nofun⟩).strengthen fun _ paid _ => paid
  apply uint orderly_overflow
  intro _
  apply uint orderly_overflow
  intro _
  have delay := tidy.bounded.configured.delay
  refine .bind (createWeightedPosition_stakes (c := ctx.epoch) tidy somebody (by omega) (by omega)) ?_
  rintro ⟨created, id⟩ ⟨tidy', staked⟩
  exact .pure ⟨tidy', staked, paid⟩

theorem stakeMintedReward_meets (tidy : s.Tidy) {sourcePositionId amount stakeEpochs : Nat} :
    Meets (s.stakeMintedReward ctx staker sourcePositionId amount stakeEpochs) Orderly fun out =>
      out.1.Tidy ∧ Staked ctx.epoch s out.1 amount := by
  apply check (orderly_custom _)
  apply require (orderly_custom _)
  intro somebody
  apply check (orderly_custom _)
  apply require (orderly_custom _)
  intro duration
  apply check (orderly_custom _)
  apply check (orderly_custom _)
  apply uint orderly_overflow
  intro _
  apply uint orderly_overflow
  intro _
  apply uint orderly_overflow
  intro _
  apply uint orderly_overflow
  intro _
  apply uint orderly_overflow
  intro _
  have delay := tidy.bounded.configured.delay
  exact createWeightedPosition_stakes tidy somebody (by omega) (by omega)

/-- Positions are withdrawn one after another, each for its own amounts. -/
inductive Withdrawals (c : Nat) :
    SellerPools → SellerPools → List Nat → List (Nat × Nat) → Prop where
  | nil {s : SellerPools} : Withdrawals c s s [] []
  | cons {s s' s'' : SellerPools} {q : Nat} {rest : List Nat} {amounts : Nat × Nat}
      {more : List (Nat × Nat)} (withdrawn : Withdrawn s s' q c amounts)
      (withdrawals : Withdrawals c s' s'' rest more) :
      Withdrawals c s s'' (q :: rest) (amounts :: more)

theorem withdrawPositions_meets (timely : epoch < 2 ^ 64) (positionIds : List Nat)
    (tidy : s.Tidy) :
    Meets (withdrawPositions staker epoch positionIds s returned slashed) Orderly fun out =>
      out.1.Tidy ∧ ∃ amounts, Withdrawals epoch s out.1 positionIds amounts ∧
        out.2 = (returned + (amounts.map Prod.fst).sum, slashed + (amounts.map Prod.snd).sum) := by
  induction positionIds generalizing s returned slashed with
  | nil => exact .pure ⟨tidy, [], .nil, rfl⟩
  | cons q rest ih =>
    refine .bind (withdrawPosition_meets tidy timely) ?_
    rintro ⟨closed, amounts⟩ ⟨tidy', withdrawn⟩
    apply uint orderly_overflow
    intro _
    apply uint orderly_overflow
    intro _
    refine (ih tidy').mono ?_
    rintro ⟨finished, sums⟩ ⟨tidy'', more, withdrawals, isSum⟩
    refine ⟨tidy'', amounts :: more, .cons withdrawn withdrawals, ?_⟩
    rw [isSum]
    simp only [List.map_cons, List.sum_cons, add_assoc]

theorem payExit_meets :
    Meets (payExit ants ctx returned slashed) Orderly fun ants' =>
      payExit ants ctx returned slashed = .ok ants' := by
  have orderly : Meets (payExit ants ctx returned slashed) Orderly fun _ => True := by
    refine .bind (Q := fun _ => True) ?_ fun _ _ => ?_
    · exact .ite (fun _ => Erc20.transfer_meets fun _ => ⟨nofun, nofun⟩) fun _ => trivial
    · exact .ite (fun _ => Erc20.transfer_meets fun _ => ⟨nofun, nofun⟩) fun _ => trivial
  exact orderly.strengthen fun _ paid _ => paid

end SellerPools

/-- The groups of positions a call replaces, each with the number of replacements. -/
def Operation.restructures : Operation → List (List Nat × Nat)
  | .moveStake positionId _ => [([positionId], 1)]
  | .moveStakes positionIds _ => positionIds.map fun positionId => ([positionId], 1)
  | .splitStake positionId _ => [([positionId], 2)]
  | .mergeStakes positionIds => [(positionIds, 1)]
  | _ => []

/-- Calls about the terms of a lock. -/
def Operation.relocks : Operation → Bool
  | .extendLock _ _ | .enableMaxLock _ | .disableMaxLock _ => true
  | _ => false

namespace SellerPools

variable {s s' : SellerPools}

/-- What an accepted call does to the positions and to the token. -/
def Performed (self : Address) (c : Nat) (call : Call) (s : SellerPools) (ants : Erc20)
    (s' : SellerPools) (ants' : Erc20) : Prop :=
  match call.op with
  | .stakeFor _ _ amount _ => Staked c s s' amount ∧
      (ants.transferFrom self call.sender self amount : Tx Error Erc20) = .ok ants'
  | .stakeMintedReward _ _ amount _ => Staked c s s' amount ∧ ants' = ants
  | .moveStake _ _ | .moveStakes _ _ | .splitStake _ _ | .mergeStakes _ =>
    Restructures c s s' call.op.restructures ∧ ants' = ants
  | .extendLock positionId _ | .enableMaxLock positionId | .disableMaxLock positionId =>
    Relock c s s' positionId ∧ ants' = ants
  | .withdrawStake positionId => ∃ amounts, Withdrawals c s s' [positionId] [amounts] ∧
      payExit ants (call.context self c) amounts.1 amounts.2 = .ok ants'
  | .withdrawStakes positionIds => ∃ amounts, Withdrawals c s s' positionIds amounts ∧
      payExit ants (call.context self c) (amounts.map Prod.fst).sum
        (amounts.map Prod.snd).sum = .ok ants'
  | .safeTransferFrom _ _ _ | .unguarded _ => Trade s s' ∧ ants' = ants

/-- Any revert of a call about locks, and otherwise one that is not about bookkeeping. -/
def Excused (op : Operation) (r : Revert Error) : Prop := op.relocks = true ∨ Orderly r

theorem perform_meets (tidy : s.Tidy) {call : Call}
    (timely : epoch < 2 ^ 64) (somebody : call.sender ≠ 0) :
    Meets (s.perform ants self epoch call) (Excused call.op) fun out =>
      out.1.Tidy ∧ Performed self epoch call s ants out.1 out.2 := by
  obtain ⟨sender, identityOwnerOf, stakingAgentId, onERC721Received, op⟩ := call
  cases op with
  | stakeFor =>
    exact (stakeFor_meets tidy).weaken fun _ => .inr
  | stakeMintedReward =>
    refine .weaken ?_ fun _ => .inr
    refine .bind (stakeMintedReward_meets tidy) ?_
    rintro ⟨staked, id⟩ ⟨tidy', result⟩
    exact .pure ⟨tidy', result, rfl⟩
  | moveStake positionId =>
    refine .weaken ?_ fun _ => .inr
    refine .bind (Q := fun s' => s'.Tidy ∧ Restructured epoch s s' [positionId] 1) ?_ ?_
    · refine .bind requireRegisteredSellerAgent_meets fun _ _ => ?_
      apply uint orderly_overflow
      intro _
      exact movePosition_meets tidy (lt_succ_self epoch)
    · rintro moved ⟨tidy', one⟩
      exact .pure ⟨tidy', one.single, rfl⟩
  | moveStakes positionIds =>
    refine .weaken ?_ fun _ => .inr
    refine .bind (Q := fun s' => s'.Tidy ∧ Restructures epoch s s'
      (positionIds.map fun q => ([q], 1))) ?_ ?_
    · apply decode ⟨nofun, nofun⟩
      intro _
      apply check (orderly_custom _)
      refine .bind requireRegisteredSellerAgent_meets fun _ _ => ?_
      apply uint orderly_overflow
      intro _
      exact movePositions_meets (lt_succ_self epoch) positionIds tidy
    · rintro moved ⟨tidy', restructures⟩
      exact .pure ⟨tidy', restructures, rfl⟩
  | extendLock =>
    refine .of_returned (fun _ => .inl rfl) fun out returned => ?_
    obtain ⟨s', extended, h⟩ := ran returned
    cases h
    obtain ⟨tidy', relock⟩ := extendLock_relocks tidy extended
    exact ⟨tidy', relock, rfl⟩
  | enableMaxLock =>
    refine .of_returned (fun _ => .inl rfl) fun out returned => ?_
    obtain ⟨s', enabled, h⟩ := ran returned
    cases h
    obtain ⟨tidy', relock⟩ := enableMaxLock_relocks tidy enabled
    exact ⟨tidy', relock, rfl⟩
  | disableMaxLock =>
    refine .of_returned (fun _ => .inl rfl) fun out returned => ?_
    obtain ⟨s', disabled, h⟩ := ran returned
    cases h
    obtain ⟨tidy', relock⟩ := disableMaxLock_relocks tidy disabled
    exact ⟨tidy', relock, rfl⟩
  | splitStake =>
    refine .weaken ?_ fun _ => .inr
    refine .bind (splitStake_meets tidy) ?_
    rintro split ⟨tidy', one⟩
    exact .pure ⟨tidy', one.single, rfl⟩
  | mergeStakes =>
    refine .weaken ?_ fun _ => .inr
    refine .bind (mergeStakes_meets tidy) ?_
    rintro merged ⟨tidy', one⟩
    exact .pure ⟨tidy', one.single, rfl⟩
  | withdrawStake =>
    refine .weaken ?_ fun _ => .inr
    refine .bind (withdrawPosition_meets tidy timely) ?_
    rintro ⟨closed, amounts⟩ ⟨tidy', withdrawn⟩
    refine .bind payExit_meets fun ants' paid => ?_
    exact .pure ⟨tidy', amounts, .cons withdrawn .nil, paid⟩
  | withdrawStakes positionIds =>
    refine .weaken ?_ fun _ => .inr
    apply decode ⟨nofun, nofun⟩
    intro _
    apply check (orderly_custom _)
    refine .bind (withdrawPositions_meets timely positionIds tidy) ?_
    rintro ⟨closed, sums⟩ ⟨tidy', amounts, withdrawals, isSum⟩
    dsimp only at isSum ⊢
    rw [isSum, zero_add, zero_add]
    refine .bind payExit_meets fun ants' paid => ?_
    exact .pure ⟨tidy', amounts, withdrawals, paid⟩
  | safeTransferFrom =>
    refine .weaken ?_ fun _ => .inr
    refine .bind (safeTransferFrom_trades tidy.portfolio somebody) ?_
    rintro moved ⟨portfolio, trade⟩
    exact .pure ⟨trade.tidy tidy portfolio, trade, rfl⟩
  | unguarded call =>
    refine .weaken ?_ fun _ => .inr
    refine .bind (unguarded_trades tidy.portfolio somebody call) ?_
    rintro moved ⟨portfolio, trade⟩
    exact .pure ⟨trade.tidy tidy portfolio, trade, rfl⟩

theorem tidy_deployed (owner stakingSource : Address) : (deployed owner stakingSource).pools.Tidy where
  portfolio :=
    { proper := ⟨fun _ => rfl, fun _ _ => rfl⟩
      fresh := fun _ _ => rfl
      recorded := fun _ held => absurd rfl held
      unclosed := fun _ held => absurd rfl held
      closed := fun _ present => absurd rfl present
      dated := fun _ held => absurd rfl held
      index := OwnerIndex.empty
      total := fun _ => rfl
      agent := fun _ _ => rfl }
  bounded := ⟨(by decide : 5000 ≤ bpsDenominator), (by decide : 500 ≤ 5000), zero_le _,
    one_ne_zero, one_ne_zero⟩
  begun _ k := zero_le k

theorem holder_eq_some : s.holder q = some a ↔ s.ownerOf q = .ok a := by
  unfold ownerOf holder
  rw [Erc721.requireOwned_eq_ok]
  by_cases none : s.nft.owners q = 0
  · rw [if_pos none]
    constructor
    · exact nofun
    · rintro ⟨rfl, somebody⟩
      exact absurd none somebody
  · rw [if_neg none, Option.some.injEq]
    exact ⟨fun same => ⟨same, same ▸ none⟩, And.left⟩

end SellerPools

theorem step_performs (tidy : s.pools.Tidy) (timely : s.epoch < 2 ^ 64)
    (event : Event) :
    Meets (step self s event)
      (fun r => ∀ call, event = .call call → SellerPools.Excused call.op r) fun s' =>
      s'.pools.Tidy ∧
        ((∃ call, event = .call call ∧ s'.epoch = s.epoch ∧ call.sender ≠ self ∧
          SellerPools.Performed self s.epoch call s.pools s.ants s'.pools s'.ants) ∨
        ((∀ call, event ≠ .call call) ∧ s'.pools = s.pools)) := by
  cases event with
  | call call =>
    apply Meets.require
    · rintro _ ⟨⟩
      exact .inr (orderly_custom _)
    · rintro ⟨other, somebody⟩
      refine .bind ((perform_meets tidy timely somebody).weaken ?_) ?_
      · rintro r excused _ ⟨⟩
        exact excused
      · rintro ⟨pools, ants⟩ ⟨tidy', performed⟩
        exact .pure ⟨tidy', .inl ⟨call, rfl, rfl, other, performed⟩⟩
  | elapse =>
    exact .decode nofun fun _ => pure ⟨tidy, .inr ⟨nofun, rfl⟩⟩
  | antsMint =>
    exact .weaken (skip fun _ => pure ⟨tidy, .inr ⟨nofun, rfl⟩⟩) fun _ _ => nofun
  | antsApprove => exact .pure ⟨tidy, .inr ⟨nofun, rfl⟩⟩
  | antsTransfer =>
    exact .weaken (skip fun _ => skip fun _ =>
      pure ⟨tidy, .inr ⟨nofun, rfl⟩⟩) fun _ _ => nofun

theorem run_tidy (self owner stakingSource : Address) (events : List Event) :
    (run self owner stakingSource events).pools.Tidy := by
  have both := (machine self).run_invariant (I := fun s => s.pools.Tidy ∧ Sound s)
    (fun s event s' h taken => ⟨((step_performs h.1 h.2.timely event).result taken).1,
      step_sound h.2 taken⟩)
    ⟨tidy_deployed owner stakingSource,
      SellerPools.sound_deployed owner stakingSource, Nat.two_pow_pos 64⟩ events
  exact both.1

/-- Every account's list holds exactly the positions it owns, with the index as the one-based
    inverse; a live position records its owner; the totals are the sums of the live positions;
    and no call but one about a lock ever fails in a subtraction or beyond the end of a list. -/
theorem portfolios_agree (self owner stakingSource : Address) (events : List Event) :
    let s := (run self owner stakingSource events).pools
    (∀ a, (s.stakerPositionIds a).Nodup ∧ ∀ q, q ∈ s.stakerPositionIds a ↔ s.ownerOf q = .ok a) ∧
    (∀ a i q, (s.stakerPositionIds a)[i]? = some q ↔
      s.ownerOf q = .ok a ∧ s.stakerPositionIndex q = i + 1) ∧
    (∀ q a, s.ownerOf q = .ok a → (s.positions q).owner = a) ∧
    (∀ a, s.stakerTotalActiveStake a = s.stakeOf Position.amount a) ∧
    (∀ a agentId, s.stakerAgentActiveStake a agentId = s.stakeOf (amountIn agentId) a) ∧
    ∀ call r, call.op.relocks = false →
      step self (run self owner stakingSource events) (.call call) = .error r →
      r ≠ .underflow ∧ r ≠ .outOfBounds := by
  intro s
  have tidy : s.Tidy := run_tidy self owner stakingSource events
  have timely := (run_sound self owner stakingSource events).timely
  have index := tidy.portfolio.index
  refine ⟨fun a => ⟨index.nodup a, fun q => ?_⟩, fun a i q => ?_, fun q a owned => ?_,
    tidy.portfolio.total, tidy.portfolio.agent, fun call r other refused => ?_⟩
  · rw [← holder_eq_some]
    exact index.mem_iff
  · rw [← holder_eq_some]
    constructor
    · exact index.held a i q
    · rintro ⟨owned, place⟩
      have found := (index.placed q a owned).2
      rwa [place] at found
  · obtain ⟨rfl, somebody⟩ := Erc721.requireOwned_eq_ok.mp owned
    exact tidy.portfolio.recorded q somebody
  · rcases (step_performs tidy timely _).reason refused call rfl with relocks | orderly
    · rw [other] at relocks
      cases relocks
    · exact orderly

end AntSeed.Pools
