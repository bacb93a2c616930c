import AntSeed.Pools.Changes

/-! # Every call is a chain of changes

One lemma for each call of AntseedSellerPools: what it does to power, and from
which epoch on. Only withdrawals reach into the current epoch.
-/

namespace AntSeed.Pools

open Evm Function

namespace SellerPools

variable {c n : Nat} {s s' s'' : SellerPools}

variable {amount effectiveEpoch epoch positionId : Nat} {owner sender staker : Address}
  {agentId toAgentId : Word} {ctx : Context} {positionIds : List Nat} {amounts : Nat × Nat}

theorem requirePositionOwner_eq_ok (h : s.requirePositionOwner sender positionId = .ok u) :
    (s.positions positionId).owner ≠ 0 ∧ sender ≠ 0 := by
  obtain ⟨_, present, h⟩ := ran h
  obtain ⟨owner, owned, h⟩ := ran h
  obtain ⟨-, somebody⟩ := Erc721.requireOwned_eq_ok.mp owned
  have same := require_eq_ok.mp h
  exact ⟨require_eq_ok.mp present, same ▸ somebody⟩

theorem mod_of_inside (inside : n < fenwickSize) : n % 2 ^ 64 = n := by
  apply Nat.mod_eq_of_lt
  unfold fenwickSize at inside
  omega

variable {amount id normalStartEpoch stakeEndEpoch stakeEpochs startEpoch weightAmount : Nat}

theorem changes_createWeightedPosition
    (somebody : owner ≠ 0)
    (future : c < startEpoch) (order : startEpoch < stakeEndEpoch)
    (h : s.createWeightedPosition ctx owner agentId amount weightAmount startEpoch normalStartEpoch
      stakeEndEpoch = .ok (s', id)) : Changes c n s s' := by
  replace h := uint_rest h
  obtain ⟨s1, pushedStart, h⟩ := ran h
  obtain ⟨starts, -, pushedStart⟩ := ran pushedStart
  cases pushedStart
  obtain ⟨s2, pushedEnd, h⟩ := ran h
  obtain ⟨ends, pushed, pushedEnd⟩ := ran pushedEnd
  cases pushedEnd
  obtain ⟨s3, added, h⟩ := ran h
  obtain ⟨s4, increased, h⟩ := ran h
  obtain ⟨s5, minted, h⟩ := ran h
  cases h
  obtain ⟨startInside, endInside, only, small, shifted⟩ := addPowerRange_spec added
  have booked := booked_increaseActiveStake increased
  have start : startEpoch % 2 ^ 64 = startEpoch := mod_of_inside startInside
  have opening : Change c n s s3 := by
    rw [only]
    refine .opened _ ends stakeEndEpoch somebody rfl ?_ ⟨rfl, rfl, ?_, rfl, rfl, rfl⟩ rfl ?_
      ⟨rfl, rfl⟩ ?_ ?_ endInside (small (by omega)) (mod_of_inside endInside)
    · simp only [start]
      exact pushed
    · exact (Function.update_eq_self _ _).symm
    · simp only [start]
      exact ⟨shifted.pool, shifted.others, shifted.total⟩
    · simpa only [start] using future
    · simpa only [start] using Nat.le_of_lt order
  have recorded : (s4.positions s.nextPositionId).owner ≠ 0 := by
    rw [booked, only]
    simpa [setPosition] using somebody
  exact ((Relation.ReflTransGen.single opening).trans booked.changes).trans
    (quiet_safeMint recorded minted).changes

theorem changes_createRestructuredPosition
    (somebody : owner ≠ 0)
    (future : c < startEpoch) (order : startEpoch < stakeEndEpoch)
    (h : s.createRestructuredPosition ctx owner agentId amount weightAmount startEpoch
      normalStartEpoch stakeEndEpoch = .ok (s', id)) : Changes c n s s' := by
  obtain ⟨⟨created, newId⟩, creation, h⟩ := ran h
  cases h
  refine (changes_createWeightedPosition somebody future order creation).trans ?_
  exact Quiet.changes (quiet_of_config rfl rfl rfl rfl rfl rfl rfl rfl rfl fun h => ⟨h.delay, h.least⟩)

theorem changes_stakeFor {ants ants' : Erc20} (configured : s.Configured)
    (h : s.stakeFor ants ctx staker agentId amount stakeEpochs = .ok (s', ants')) :
    Changes ctx.epoch n s s' := by
  obtain ⟨_, somebody, h⟩ := ran h
  replace h := rest_ok h
  replace h := rest_ok h
  obtain ⟨_, duration, h⟩ := ran h
  obtain ⟨paid, -, h⟩ := ran h
  replace h := uint_rest h
  replace h := uint_rest h
  obtain ⟨⟨created, id⟩, creation, h⟩ := ran h
  cases h
  have delay := configured.delay
  have least := configured.least
  have bounds := require_eq_ok.mp duration
  exact changes_createWeightedPosition (require_eq_ok.mp somebody) (by omega) (by omega) creation

theorem changes_stakeMintedReward {sourcePositionId amount stakeEpochs id : Nat}
    (configured : s.Configured)
    (h : s.stakeMintedReward ctx staker sourcePositionId amount stakeEpochs = .ok (s', id)) :
    Changes ctx.epoch n s s' := by
  replace h := rest_ok h
  obtain ⟨_, somebody, h⟩ := ran h
  replace h := rest_ok h
  obtain ⟨_, duration, h⟩ := ran h
  replace h := rest_ok h
  replace h := rest_ok h
  replace h := uint_rest h
  replace h := uint_rest h
  replace h := uint_rest h
  replace h := uint_rest h
  obtain ⟨scaledAmount, amountFits, creation⟩ := ran h
  obtain ⟨-, rfl⟩ := uint_eq_ok.mp amountFits
  have delay := configured.delay
  have least := configured.least
  have bounds := require_eq_ok.mp duration
  exact changes_createWeightedPosition (require_eq_ok.mp somebody) (by omega) (by omega) creation

theorem start_of_closing {ends locks : Trace}
    (rewritten : Rewritten s s' positionId position ends locks)
    (same : position.stakeStartEpoch = (s.positions positionId).stakeStartEpoch)
    (quiet : Quiet s' s'') (q : Nat) :
    (s''.positions q).stakeStartEpoch = (s.positions q).stakeStartEpoch := by
  obtain ⟨owner, after⟩ := quiet.terms q
  rw [after, rewritten.positions]
  by_cases here : q = positionId
  · subst here
    simpa using same
  · rw [update_of_ne here]

theorem changes_closePositionForRestructure (late : n ≤ effectiveEpoch)
    (future : c < effectiveEpoch)
    (started : (s.positions positionId).stakeStartEpoch ≤ effectiveEpoch)
    (h : s.closePositionForRestructure positionId effectiveEpoch = .ok (s', window)) :
    Changes c n s s' ∧ effectiveEpoch < window.2 ∧
      ∀ q, (s'.positions q).stakeStartEpoch = (s.positions q).stakeStartEpoch := by
  replace h := rest_ok h
  obtain ⟨_, isOpen, h⟩ := ran h
  obtain ⟨_, unlocked, h⟩ := ran h
  obtain ⟨_, running, h⟩ := ran h
  obtain ⟨s1, removed, h⟩ := ran h
  obtain ⟨s2, decreased, h⟩ := ran h
  obtain ⟨s3, burned, h⟩ := ran h
  cases h
  rw [require_eq_ok] at isOpen unlocked running
  obtain ⟨startInside, endInside, only, shifted⟩ := removePowerRange_spec removed
  have running' : effectiveEpoch <
      (s.positionNormalEndEpoch positionId).upperLookupRecent effectiveEpoch := by omega
  have quiet := (booked_decreaseActiveStake decreased).quiet.trans (quiet_burn burned)
  have rewritten : Rewritten s
      (s1.setPosition positionId
        { s.positions positionId with closedAtEpoch := effectiveEpoch % 2 ^ 64 })
      positionId
      { s.positions positionId with
        closedAtEpoch := effectiveEpoch, withdrawn := (s.positions positionId).withdrawn }
      (s.positionNormalEndEpoch positionId) (s.positionMaxLockPower positionId) := by
    rw [only]
    refine ⟨?_, ?_, ?_, rfl, rfl, rfl⟩
    · simp only [setPosition, mod_of_inside startInside]
    · exact (Function.update_eq_self _ _).symm
    · exact (Function.update_eq_self _ _).symm
  refine ⟨?_, running', start_of_closing rewritten rfl quiet⟩
  refine (Relation.ReflTransGen.single ?_).trans quiet.changes
  refine .closed positionId _ effectiveEpoch effectiveEpoch _ isOpen late started future (.inl rfl)
    unlocked unlocked rfl rfl (by omega) rewritten ?_ ?_ ?_
  · rw [only]
    rfl
  · simp only [if_pos running']
    rw [only]
    exact ⟨shifted.pool, shifted.others, shifted.total⟩
  · rw [only]
    exact ⟨rfl, rfl⟩

theorem changes_movePosition (late : n ≤ effectiveEpoch) (future : c < effectiveEpoch)
    (h : s.movePosition ctx positionId toAgentId staker effectiveEpoch = .ok s') :
    Changes c n s s' := by
  obtain ⟨_, isOwner, h⟩ := ran h
  obtain ⟨⟨closed, window⟩, closing, h⟩ := ran h
  obtain ⟨moved, -, h⟩ := ran h
  obtain ⟨⟨created, id⟩, creation, h⟩ := ran h
  cases h
  obtain ⟨changes, running, -⟩ := changes_closePositionForRestructure (c := c)
    (n := n) (by omega) (by omega) (by omega) closing
  exact changes.trans (changes_createRestructuredPosition (requirePositionOwner_eq_ok isOwner).2
    (by omega) running creation)

theorem changes_moveStake (h : s.moveStake ctx positionId toAgentId = .ok s') :
    Changes ctx.epoch (ctx.epoch + 1) s s' := by
  replace h := rest_ok h
  replace h := uint_rest h
  exact changes_movePosition (by omega) (by omega) h

theorem changes_movePositions (late : n ≤ effectiveEpoch) (future : c < effectiveEpoch)
    (h : movePositions ctx toAgentId effectiveEpoch positionIds s = .ok s') : Changes c n s s' := by
  induction positionIds generalizing s with
  | nil =>
    cases h
    exact .refl
  | cons positionId rest ih =>
    obtain ⟨moved, one, h⟩ := ran h
    have changes := changes_movePosition late future one
    exact changes.trans (ih h)

theorem changes_moveStakes (h : s.moveStakes ctx positionIds toAgentId = .ok s') :
    Changes ctx.epoch (ctx.epoch + 1) s s' := by
  replace h := rest_ok h
  replace h := rest_ok h
  replace h := rest_ok h
  replace h := uint_rest h
  exact changes_movePositions (by omega) (by omega) h

theorem changes_splitStake (h : s.splitStake ctx positionId splitAmount = .ok s') :
    Changes ctx.epoch (ctx.epoch + 1) s s' := by
  obtain ⟨_, isOwner, h⟩ := ran h
  replace h := rest_ok h
  replace h := uint_rest h
  obtain ⟨firstAmount, -, h⟩ := ran h
  obtain ⟨scaled, -, h⟩ := ran h
  obtain ⟨secondWeight, -, h⟩ := ran h
  obtain ⟨firstWeight, -, h⟩ := ran h
  replace h := rest_ok h
  obtain ⟨⟨closed, window⟩, closing, h⟩ := ran h
  obtain ⟨⟨created, id⟩, firstCreation, h⟩ := ran h
  obtain ⟨⟨created', id'⟩, secondCreation, h⟩ := ran h
  cases h
  have somebody := (requirePositionOwner_eq_ok isOwner).2
  obtain ⟨changes, running, -⟩ := changes_closePositionForRestructure (c := ctx.epoch)
    (n := ctx.epoch + 1) (by omega) (by omega) (by omega) closing
  exact (changes.trans (changes_createRestructuredPosition somebody (by omega) running
    firstCreation)).trans (changes_createRestructuredPosition somebody (by omega) running secondCreation)

theorem mergeEffectiveEpoch_spec
    (h : s.mergeEffectiveEpoch sender positionIds effectiveEpoch = .ok result) :
    effectiveEpoch ≤ result ∧
      ∀ q ∈ positionIds, (s.positions q).stakeStartEpoch ≤ result ∧ sender ≠ 0 := by
  induction positionIds generalizing effectiveEpoch with
  | nil =>
    cases h
    exact ⟨Nat.le_refl _, nofun⟩
  | cons positionId rest ih =>
    obtain ⟨_, isOwner, h⟩ := ran h
    obtain ⟨grown, all⟩ := ih h
    refine ⟨by omega, fun q member => ?_⟩
    rcases List.mem_cons.mp member with rfl | member
    · exact ⟨by omega, (requirePositionOwner_eq_ok isOwner).2⟩
    · exact all q member

theorem changes_mergeOne (late : n ≤ effectiveEpoch) (future : c < effectiveEpoch)
    (started : (s.positions positionId).stakeStartEpoch ≤ effectiveEpoch)
    (h : s.mergeOne agentId effectiveEpoch positionId merge = .ok (s', merge')) :
    Changes c n s s' ∧ (∀ q, (s'.positions q).stakeStartEpoch = (s.positions q).stakeStartEpoch) ∧
      ∃ window, merge'.shared = some window ∧ effectiveEpoch < window.2 := by
  replace h := rest_ok h
  obtain ⟨mergedAmount, -, h⟩ := ran h
  obtain ⟨mergedWeight, -, h⟩ := ran h
  obtain ⟨⟨closed, window⟩, closing, h⟩ := ran h
  replace h := rest_ok h
  cases h
  obtain ⟨changes, running, starts⟩ := changes_closePositionForRestructure (c := c)
    (n := n) late future started closing
  exact ⟨changes, starts, window, rfl, running⟩

theorem changes_mergeAll (late : n ≤ effectiveEpoch) (future : c < effectiveEpoch)
    (started : ∀ q ∈ positionIds, (s.positions q).stakeStartEpoch ≤ effectiveEpoch)
    (h : mergeAll agentId effectiveEpoch positionIds s merge = .ok (s', merge')) :
    Changes c n s s' ∧
      (positionIds = [] ∧ merge' = merge ∨
        ∃ window, merge'.shared = some window ∧ effectiveEpoch < window.2) := by
  induction positionIds generalizing s merge with
  | nil =>
    cases h
    exact ⟨.refl, .inl ⟨rfl, rfl⟩⟩
  | cons positionId rest ih =>
    obtain ⟨⟨closed, merged⟩, one, h⟩ := ran h
    obtain ⟨changes, starts, window, shared, running⟩ :=
      changes_mergeOne late future (started positionId List.mem_cons_self) one
    obtain ⟨changes', shared'⟩ := ih
      (fun q member => starts q ▸ started q (List.mem_cons_of_mem _ member)) h
    refine ⟨changes.trans changes', .inr ?_⟩
    rcases shared' with ⟨-, rfl⟩ | later
    · exact ⟨window, shared, running⟩
    · exact later

theorem changes_mergeStakes (h : s.mergeStakes ctx positionIds = .ok s') :
    Changes ctx.epoch (ctx.epoch + 1) s s' := by
  replace h := rest_ok h
  obtain ⟨_, several, h⟩ := ran h
  replace h := uint_rest h
  obtain ⟨effectiveEpoch, effective, h⟩ := ran h
  obtain ⟨⟨merged, merge⟩, merging, h⟩ := ran h
  obtain ⟨⟨created, id⟩, creation, h⟩ := ran h
  cases h
  have several' := require_eq_ok.mp several
  obtain ⟨grown, all⟩ := mergeEffectiveEpoch_spec effective
  obtain ⟨changes, shared⟩ := changes_mergeAll (c := ctx.epoch)
    (n := ctx.epoch + 1) grown (by omega) (fun q member => (all q member).1) merging
  rcases shared with ⟨rfl, -⟩ | ⟨window, shared, running⟩
  · simp at several'
  · have somebody : ctx.sender ≠ 0 := by
      cases positionIds with
      | nil => simp at several'
      | cons q => exact (all q List.mem_cons_self).2
    rw [shared] at creation
    exact changes.trans (changes_createRestructuredPosition somebody (by omega) running creation)

theorem requireOpen_eq_ok (h : s.requireOpen positionId = .ok u) :
    (s.positions positionId).closedAtEpoch = 0 := by
  have := require_eq_ok.mp h
  tauto

theorem changes_extendLock (h : s.extendLock ctx positionId additionalEpochs = .ok s') :
    Changes ctx.epoch (ctx.epoch + 1) s s' := by
  replace h := rest_ok h
  replace h := rest_ok h
  obtain ⟨_, isOpen, h⟩ := ran h
  replace h := uint_rest h
  obtain ⟨_, unlocked, h⟩ := ran h
  obtain ⟨_, running, h⟩ := ran h
  obtain ⟨maxEndEpoch, -, h⟩ := ran h
  obtain ⟨requestedEndEpoch, -, h⟩ := ran h
  obtain ⟨_, later, h⟩ := ran h
  obtain ⟨s1, pushedEnd, h⟩ := ran h
  obtain ⟨ends, pushed, pushedEnd⟩ := ran pushedEnd
  cases pushedEnd
  obtain ⟨s2, removed, added⟩ := ran h
  rw [require_eq_ok] at unlocked running later
  obtain ⟨-, -, onlyRemoved, shiftedRemoved⟩ := removePowerRange_spec removed
  obtain ⟨-, endInside, onlyAdded, -, shiftedAdded⟩ := addPowerRange_spec added
  have shifted := shiftedRemoved.trans shiftedAdded
  have only := onlyAdded
  rw [onlyRemoved] at only
  refine .single (.extended positionId _ _ _ ends (requireOpen_eq_ok isOpen) rfl unlocked rfl
    (by omega) later endInside pushed ?_ ?_ ?_ ?_)
  · rw [only]
    refine ⟨rfl, rfl, ?_, rfl, rfl, rfl⟩
    exact (Function.update_eq_self _ _).symm
  · rw [only]
    rfl
  · exact ⟨shifted.pool, shifted.others, shifted.total⟩
  · rw [only]
    exact ⟨rfl, rfl⟩

theorem locksMoved_of_apply (h : s.applyMaxLockWeightAmount agentId epoch amount add = .ok s') :
    LocksMoved s s' agentId epoch amount add ∧
      s' = { s with
        poolMaxLockWeightAmount := s'.poolMaxLockWeightAmount
        totalMaxLockWeightAmount := s'.totalMaxLockWeightAmount } := by
  obtain ⟨pool, poolPushed, h⟩ := ran h
  obtain ⟨total, totalPushed, h⟩ := ran h
  cases h
  refine ⟨⟨?_, ?_, totalPushed⟩, rfl⟩
  · simpa only [update_self] using poolPushed
  · intro b other
    exact update_of_ne other _ _

theorem changes_enableMaxLock (h : s.enableMaxLock ctx positionId = .ok s') :
    Changes ctx.epoch (ctx.epoch + 1) s s' := by
  replace h := rest_ok h
  obtain ⟨_, isOpen, h⟩ := ran h
  replace h := uint_rest h
  obtain ⟨_, started, h⟩ := ran h
  obtain ⟨_, unlocked, h⟩ := ran h
  obtain ⟨_, running, h⟩ := ran h
  obtain ⟨s1, removed, h⟩ := ran h
  replace h := uint_rest h
  obtain ⟨s2, lockStep, h⟩ := ran h
  obtain ⟨locks, pushedLock, lockStep⟩ := ran lockStep
  cases lockStep
  obtain ⟨s3, startStep, h⟩ := ran h
  obtain ⟨starts, -, startStep⟩ := ran startStep
  cases startStep
  obtain ⟨s4, endStep, moving⟩ := ran h
  obtain ⟨ends, pushedEnd, endStep⟩ := ran endStep
  cases endStep
  rw [require_eq_ok] at started unlocked running
  obtain ⟨-, -, only, shifted⟩ := removePowerRange_spec removed
  obtain ⟨moved, onlyLocks⟩ := locksMoved_of_apply moving
  rw [only] at pushedLock pushedEnd
  refine .single (.enabled positionId _ ends locks (requireOpen_eq_ok isOpen) started unlocked rfl
    (by omega) pushedEnd pushedLock ?_ ?_ ?_ ?_)
  · rw [onlyLocks, only]
    exact ⟨(Function.update_eq_self _ _).symm, rfl, rfl, rfl, rfl, rfl⟩
  · rw [onlyLocks, only]
  · rw [onlyLocks]
    exact ⟨shifted.pool, shifted.others, shifted.total⟩
  · rw [only] at moved
    exact ⟨moved.pool, moved.others, moved.total⟩

theorem changes_disableMaxLock (h : s.disableMaxLock ctx positionId = .ok s') :
    Changes ctx.epoch (ctx.epoch + 1) s s' := by
  replace h := rest_ok h
  obtain ⟨_, isOpen, h⟩ := ran h
  replace h := uint_rest h
  obtain ⟨_, locked, h⟩ := ran h
  replace h := uint_rest h
  obtain ⟨s1, lockStep, h⟩ := ran h
  obtain ⟨locks, pushedLock, lockStep⟩ := ran lockStep
  cases lockStep
  obtain ⟨s2, startStep, h⟩ := ran h
  obtain ⟨starts, -, startStep⟩ := ran startStep
  cases startStep
  obtain ⟨s3, endStep, h⟩ := ran h
  obtain ⟨ends, pushedEnd, endStep⟩ := ran endStep
  cases endStep
  obtain ⟨s4, moving, added⟩ := ran h
  rw [require_eq_ok] at locked
  obtain ⟨moved, onlyLocks⟩ := locksMoved_of_apply moving
  obtain ⟨-, endInside, only, -, shifted⟩ := addPowerRange_spec added
  rw [onlyLocks] at only shifted
  refine .single (.disabled positionId ends locks (requireOpen_eq_ok isOpen) locked endInside
    pushedEnd pushedLock ?_ ?_ ?_ ?_)
  · rw [only]
    exact ⟨rfl, rfl, rfl, rfl, rfl, rfl⟩
  · rw [only]
    rfl
  · exact ⟨shifted.pool, shifted.others, shifted.total⟩
  · rw [only]
    exact ⟨moved.pool, moved.others, moved.total⟩

/-- Start epochs are 64-bit numbers. -/
def Stamped (s : SellerPools) : Prop := ∀ q, (s.positions q).stakeStartEpoch < 2 ^ 64

theorem removed_spec (h : (if closeEpoch < normalEndEpoch then
      s.removePowerRange agentId closeEpoch normalEndEpoch weightAmount else pure s) = .ok s') :
    OnlyTrees s s' ∧ Shifted s s' agentId fun e =>
      if closeEpoch < normalEndEpoch then -range closeEpoch normalEndEpoch weightAmount e else 0 := by
  split at h
  next running =>
    obtain ⟨-, -, only, shifted⟩ := removePowerRange_spec h
    simp only [if_pos running]
    exact ⟨only, shifted⟩
  next past =>
    cases h
    simp only [if_neg past]
    exact ⟨rfl, fun e _ => (add_zero _).symm, fun _ _ => rfl, fun e _ => (add_zero _).symm⟩

theorem changes_withdrawPosition (timely : epoch < 2 ^ 64) (stamped : s.Stamped)
    (h : s.withdrawPosition positionId staker epoch = .ok (s', amounts)) :
    Changes epoch epoch s s' ∧
      ∀ q, (s'.positions q).stakeStartEpoch = (s.positions q).stakeStartEpoch := by
  replace h := rest_ok h
  replace h := rest_ok h
  obtain ⟨_, isOpen, h⟩ := ran h
  replace h := rest_ok h
  obtain ⟨_, unlocked, h⟩ := ran h
  replace h := uint_rest h
  obtain ⟨_, staysUnlocked, h⟩ := ran h
  obtain ⟨_, normal, h⟩ := ran h
  obtain ⟨_, staysEnding, h⟩ := ran h
  obtain ⟨s1, removed, h⟩ := ran h
  obtain ⟨s2, decreased, h⟩ := ran h
  obtain ⟨amounts', -, h⟩ := ran h
  obtain ⟨s3, burned, h⟩ := ran h
  cases h
  rw [require_eq_ok] at isOpen unlocked staysUnlocked normal staysEnding
  have isMax : (if epoch < (s.positions positionId).stakeStartEpoch then
      (s.positions positionId).stakeStartEpoch else epoch) =
      max epoch (s.positions positionId).stakeStartEpoch := by
    split <;> omega
  rw [isMax] at unlocked staysUnlocked normal staysEnding removed
  generalize isClose : max epoch (s.positions positionId).stakeStartEpoch = closeEpoch at *
  have short : closeEpoch % 2 ^ 64 = closeEpoch := by
    have := stamped positionId
    exact Nat.mod_eq_of_lt (by omega)
  obtain ⟨only, shifted⟩ := removed_spec removed
  have quiet := (booked_decreaseActiveStake decreased).quiet.trans (quiet_burn burned)
  have rewritten : Rewritten s s1 positionId
      { s.positions positionId with closedAtEpoch := closeEpoch, withdrawn := true }
      (s.positionNormalEndEpoch positionId) (s.positionMaxLockPower positionId) := by
    rw [only]
    refine ⟨?_, ?_, ?_, rfl, rfl, rfl⟩
    · simp only [setPosition, short]
    · exact (Function.update_eq_self _ _).symm
    · exact (Function.update_eq_self _ _).symm
  refine ⟨?_, start_of_closing rewritten rfl quiet⟩
  refine (Relation.ReflTransGen.single ?_).trans quiet.changes
  refine .closed positionId true closeEpoch (closeEpoch + 1) _ isOpen (by omega) (by omega)
    (by omega) (.inr rfl) unlocked staysUnlocked rfl staysEnding normal rewritten ?_
    ⟨shifted.pool, shifted.others, shifted.total⟩ ?_
  · rw [only]
    rfl
  · rw [only]
    exact ⟨rfl, rfl⟩

theorem changes_withdrawPositions (timely : epoch < 2 ^ 64)
    (stamped : s.Stamped)
    (h : withdrawPositions staker epoch positionIds s returned slashed = .ok (s', amounts)) :
    Changes epoch epoch s s' := by
  induction positionIds generalizing s returned slashed with
  | nil =>
    cases h
    exact .refl
  | cons positionId rest ih =>
    obtain ⟨⟨closed, exited⟩, one, h⟩ := ran h
    obtain ⟨returned', -, h⟩ := ran h
    obtain ⟨slashed', -, h⟩ := ran h
    obtain ⟨changes, starts⟩ := changes_withdrawPosition timely stamped one
    exact changes.trans (ih (fun q => starts q ▸ stamped q) h)

/-- The first epoch whose power a call may change. -/
def firstEpoch (epoch : Nat) : Operation → Nat
  | .withdrawStake _ | .withdrawStakes _ => epoch
  | _ => epoch + 1

theorem changes_perform
    (configured : s.Configured) (stamped : s.Stamped) (timely : epoch < 2 ^ 64)
    (somebody : call.sender ≠ 0) (h : s.perform ants self epoch call = .ok (s', ants')) :
    Changes epoch (firstEpoch epoch call.op) s s' := by
  obtain ⟨sender, identityOwnerOf, stakingAgentId, onERC721Received, op⟩ := call
  cases op with
  | stakeFor => exact changes_stakeFor configured h
  | stakeMintedReward =>
    obtain ⟨⟨result, id⟩, called, h⟩ := ran h
    cases h
    exact changes_stakeMintedReward configured called
  | moveStake =>
    obtain ⟨result, called, h⟩ := ran h
    cases h
    exact changes_moveStake called
  | moveStakes =>
    obtain ⟨result, called, h⟩ := ran h
    cases h
    exact changes_moveStakes called
  | extendLock =>
    obtain ⟨result, called, h⟩ := ran h
    cases h
    exact changes_extendLock called
  | enableMaxLock =>
    obtain ⟨result, called, h⟩ := ran h
    cases h
    exact changes_enableMaxLock called
  | disableMaxLock =>
    obtain ⟨result, called, h⟩ := ran h
    cases h
    exact changes_disableMaxLock called
  | splitStake =>
    obtain ⟨result, called, h⟩ := ran h
    cases h
    exact changes_splitStake called
  | mergeStakes =>
    obtain ⟨result, called, h⟩ := ran h
    cases h
    exact changes_mergeStakes called
  | withdrawStake =>
    obtain ⟨⟨result, amounts⟩, called, h⟩ := ran h
    obtain ⟨paid, -, h⟩ := ran h
    cases h
    exact (changes_withdrawPosition timely stamped called).1
  | withdrawStakes =>
    replace h := rest_ok h
    replace h := rest_ok h
    obtain ⟨⟨result, amounts⟩, called, h⟩ := ran h
    obtain ⟨paid, -, h⟩ := ran h
    cases h
    exact changes_withdrawPositions timely stamped called
  | safeTransferFrom =>
    obtain ⟨result, called, h⟩ := ran h
    cases h
    exact (quiet_safeTransferFrom somebody called).changes
  | unguarded =>
    obtain ⟨result, called, h⟩ := ran h
    cases h
    exact (quiet_unguarded somebody called).changes

theorem tokenless_ascend {V : Type} {size : Nat} {f : V → Tx Error V} (each : ∀ v, Tokenless (f v))
    (fuel i : Nat) (values : Nat → V) : Tokenless (Fenwick.ascend size f fuel i values) := by
  induction fuel generalizing i values with
  | zero => exact .ok values
  | succ fuel ih => exact .ite (.bind (each _) fun v => ih _ _) (.ok values)

theorem tokenless_fenwickAdd (tree : FenwickTree) (epoch : Nat) (amountDelta weightedEndDelta : Int) :
    Tokenless (tree.fenwickAdd epoch amountDelta weightedEndDelta) := by
  have narrow : ∀ value, Tokenless (FenwickTree.toInt128 value) := fun value =>
    .bind (tokenless_require _ _) fun _ => .ok _
  refine .bind (.bind (tokenless_uint _ _) fun _ => .bind (tokenless_require _ _) fun _ => .ok _)
    fun index => ?_
  refine .bind (narrow _) fun amount => .bind (narrow _) fun weightedEnd => ?_
  refine .bind (tokenless_ascend (fun value => ?_) _ _ _) fun values => .ok _
  exact .bind (narrow _) fun _ => .bind (narrow _) fun _ => .ok _

variable (s : SellerPools)

theorem tokenless_applyPowerRange (agentId : Word) (startEpoch stakeEndEpoch amount : Nat) (add : Bool) :
    Tokenless (s.applyPowerRange agentId startEpoch stakeEndEpoch amount add) := by
  have signed : ∀ n, Tokenless (signedAmount n add) := fun n =>
    .ite (.ok _) (tokenless_int _ _)
  have ranged : ∀ (tree : FenwickTree) (x y : Int),
      Tokenless (tree.applyRangeDelta startEpoch stakeEndEpoch x y) := fun tree x y =>
    .bind (tokenless_fenwickAdd _ _ _ _) fun _ => .bind (tokenless_int _ _) fun _ =>
      .bind (tokenless_int _ _) fun _ => tokenless_fenwickAdd _ _ _ _
  refine .bind (signed _) fun _ => .bind (tokenless_uint _ _) fun _ => .bind (signed _) fun _ => ?_
  exact .bind (ranged _ _ _) fun _ => .bind (ranged _ _ _) fun _ => .ok _

theorem tokenless_push (trace : Trace) (key value : Nat) :
    Tokenless (trace.push key value : Tx Error Trace) := by
  unfold Trace.push
  split
  · exact .ok _
  · split
    · rintro _ ⟨⟩
    · split
      · exact .ok _
      · exact .ok _

theorem tokenless_removeStakerPosition (staker : Address) (positionId : Nat) :
    Tokenless (s.removeStakerPosition staker positionId) := by
  refine .ite (.ok _) (.bind (tokenless_sub _ _) fun last => .ite ?_ (.ok _))
  split
  · exact fun _ => nofun
  · exact .ite (.ok _) fun _ => nofun

theorem tokenless_handOver (target : Address) (tokenId : Nat) (auth : Address) :
    Tokenless (s.handOver target tokenId auth) := by
  refine .bind ?_ fun result => ?_
  · refine .bind (.ite (.ok _) (.ite (.ok _) (.ite ?_ ?_))) fun _ => .ok _
    · exact fun _ => nofun
    · exact fun _ => nofun
  · refine .ite (.ok _) (.ite ?_ ?_)
    · exact .bind (tokenless_removeStakerPosition _ _ _) fun _ => .ok _
    · refine .bind (tokenless_removeStakerPosition _ _ _) fun _ => ?_
      refine .bind ?_ fun _ => .bind ?_ fun _ => .ok _
      · exact .bind (tokenless_sub _ _) fun _ => .bind (tokenless_sub _ _) fun _ => .ok _
      · exact .bind (tokenless_uint _ _) fun _ => .bind (tokenless_uint _ _) fun _ => .ok _

theorem tokenless_safeMint (ctx : Context) (target : Address) (tokenId : Nat) :
    Tokenless (s.safeMint ctx target tokenId) := by
  refine .ite (fun _ => nofun) (.bind (tokenless_handOver _ _ _ _) fun handed => .ite ?_ fun _ => nofun)
  unfold checkOnERC721Received
  split
  · exact fun _ => nofun
  · exact .ok _

theorem tokenless_createWeightedPosition (ctx : Context) (owner : Address)
    (agentId : Word) (amount weightAmount startEpoch normalStartEpoch stakeEndEpoch : Nat) :
    Tokenless (s.createWeightedPosition ctx owner agentId amount weightAmount startEpoch
      normalStartEpoch stakeEndEpoch) := by
  refine .bind (tokenless_uint _ _) fun _ => ?_
  refine .bind (.bind (tokenless_push _ _ _) fun _ => .ok _) fun _ => ?_
  refine .bind (.bind (tokenless_push _ _ _) fun _ => .ok _) fun _ => ?_
  refine .bind (tokenless_applyPowerRange _ _ _ _ _ _) fun _ => ?_
  refine .bind (.bind (tokenless_uint _ _) fun _ => .bind (tokenless_uint _ _) fun _ => .ok _)
    fun _ => ?_
  exact .bind (tokenless_safeMint _ _ _ _) fun _ => .ok _

theorem tokenless_stakeMintedReward (ctx : Context) (staker : Address)
    (sourcePositionId amount stakeEpochs : Nat) :
    Tokenless (s.stakeMintedReward ctx staker sourcePositionId amount stakeEpochs) := by
  refine .bind (tokenless_require _ _) fun _ => .bind (tokenless_require _ _) fun _ => ?_
  refine .bind (tokenless_require _ _) fun _ => .bind (tokenless_require _ _) fun _ => ?_
  refine .bind (tokenless_require _ _) fun _ => .bind (tokenless_require _ _) fun _ => ?_
  refine .bind (tokenless_uint _ _) fun _ => .bind (tokenless_uint _ _) fun _ => ?_
  refine .bind (tokenless_uint _ _) fun _ => .bind (tokenless_uint _ _) fun _ => ?_
  exact .bind (tokenless_uint _ _) fun _ => tokenless_createWeightedPosition _ _ _ _ _ _ _ _ _

end SellerPools

end AntSeed.Pools
