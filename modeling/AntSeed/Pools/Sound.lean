import AntSeed.Pools.Calls

/-! # What holds of every position

The histories of a position never look further ahead than the next epoch, or the
position's own start; max lock begins after the start and is worth the weight
times the maximum duration; ends stay inside the trees. These facts hold in
every reachable state.
-/

namespace AntSeed.Pools

open Evm Function
open Trace Nat

/-- What holds of a position and its histories in epoch `c`. -/
structure Terms (c : Nat) (position : Position) (ends locks : Trace) : Prop where
  started : position.stakeStartEpoch < fenwickSize
  positive : position.owner ≠ 0 → 0 < position.stakeStartEpoch
  absent : position.owner = 0 → ends = .empty ∧ locks = .empty
  endsKnown : ends.Within (max (c + 1) position.stakeStartEpoch)
  locksKnown : locks.Within (max (c + 1) position.stakeStartEpoch)
  locked : ∀ e, locks.upperLookupRecent e = 0 ∨
    (locks.upperLookupRecent e = position.weightAmount * maxStakeEpochs ∧
      position.stakeStartEpoch ≤ e)
  ended : ∀ e, ends.upperLookupRecent e < fenwickSize
  dormant : ∀ e, e < position.stakeStartEpoch → ends.upperLookupRecent e = 0

namespace Terms

variable {c c' : Nat} {position position' : Position} {ends locks : Trace}

theorem bare (started : position.stakeStartEpoch < fenwickSize)
    (positive : position.owner ≠ 0 → 0 < position.stakeStartEpoch) :
    Terms c position .empty .empty where
  started := started
  positive := positive
  absent _ := ⟨rfl, rfl⟩
  endsKnown := within_empty _
  locksKnown := within_empty _
  locked _ := .inl rfl
  ended _ := succ_pos 4095
  dormant _ _ := rfl

section

variable (h : Terms c position ends locks)

include h

theorem mono (le : c ≤ c') : Terms c' position ends locks where
  started := h.started
  positive := h.positive
  absent := h.absent
  endsKnown := h.endsKnown.mono (by omega)
  locksKnown := h.locksKnown.mono (by omega)
  locked := h.locked
  ended := h.ended
  dormant := h.dormant

theorem congr (start : position'.stakeStartEpoch = position.stakeStartEpoch)
    (weight : position'.weightAmount = position.weightAmount)
    (present : position'.owner = 0 ↔ position.owner = 0) : Terms c position' ends locks where
  started := start ▸ h.started
  positive h' := start ▸ h.positive fun zero => h' (present.mpr zero)
  absent h' := h.absent (present.mp h')
  endsKnown := start ▸ h.endsKnown
  locksKnown := start ▸ h.locksKnown
  locked e := by
    rw [weight, start]
    exact h.locked e
  ended := h.ended
  dormant := start ▸ h.dormant

theorem present_of_end (some : ends.upperLookupRecent e ≠ 0) : position.owner ≠ 0 := by
  intro zero
  obtain ⟨rfl, -⟩ := h.absent zero
  exact some rfl

theorem present_of_lock (some : locks.upperLookupRecent e ≠ 0) : position.owner ≠ 0 := by
  intro zero
  obtain ⟨-, rfl⟩ := h.absent zero
  exact some rfl

theorem pushEnd
    (pushed : (ends.push epoch value : Tx Error Trace) = .ok ends') (present : position.owner ≠ 0)
    (near : epoch ≤ max (c + 1) position.stakeStartEpoch) (begun : position.stakeStartEpoch ≤ epoch)
    (inside : value < fenwickSize) : Terms c position ends' locks where
  started := h.started
  positive := h.positive
  absent zero := absurd zero present
  endsKnown := (within_push pushed).mono near
  locksKnown := h.locksKnown
  locked := h.locked
  ended e := by
    rw [lookup_push pushed]
    split
    · exact inside
    · exact h.ended e
  dormant e before := by
    rw [lookup_push pushed, if_neg (by omega)]
    exact h.dormant e before

theorem pushLock
    (pushed : (locks.push epoch value : Tx Error Trace) = .ok locks') (present : position.owner ≠ 0)
    (near : epoch ≤ max (c + 1) position.stakeStartEpoch)
    (worth : value = 0 ∨
      value = position.weightAmount * maxStakeEpochs ∧ position.stakeStartEpoch ≤ epoch) :
    Terms c position ends locks' where
  started := h.started
  positive := h.positive
  absent zero := absurd zero present
  endsKnown := h.endsKnown
  locksKnown := (within_push pushed).mono near
  locked e := by
    rw [lookup_push pushed]
    split
    next reached =>
      rcases worth with none | ⟨full, started⟩
      · exact .inl none
      · exact .inr ⟨full, by omega⟩
    · exact h.locked e
  ended := h.ended
  dormant := h.dormant

end

end Terms

namespace SellerPools

/-- What holds of the pools in epoch `c`. -/
structure Sound (c : Nat) (s : SellerPools) : Prop where
  configured : s.Configured
  owned : s.Owned
  fresh : ∀ q, s.nextPositionId ≤ q → (s.positions q).owner = 0
  terms : ∀ q, Terms c (s.positions q) (s.positionNormalEndEpoch q) (s.positionMaxLockPower q)
  poolLocks : ∀ a, (s.poolMaxLockWeightAmount a).Within (c + 1)
  totalLocks : s.totalMaxLockWeightAmount.Within (c + 1)

variable {c first : Nat} {s s' : SellerPools}

theorem Sound.mono {c' : Nat} (h : Sound c s) (le : c ≤ c') : Sound c' s where
  configured := h.configured
  owned := h.owned
  fresh := h.fresh
  terms q := (h.terms q).mono le
  poolLocks a := (h.poolLocks a).mono (by omega)
  totalLocks := h.totalLocks.mono (by omega)

theorem Sound.stamped (h : Sound c s) : s.Stamped := by
  intro q
  have := (h.terms q).started
  unfold fenwickSize at this
  omega

theorem Sound.known (h : Sound c s) {q : Nat} (present : (s.positions q).owner ≠ 0) :
    q < s.nextPositionId := by
  by_contra beyond
  exact present (h.fresh q (by omega))

theorem sound_quiet (h : Sound c s) (quiet : Quiet s s') : Sound c s' where
  configured := quiet.configured h.configured
  owned := quiet.owned h.owned
  fresh q beyond := (quiet.exists_iff h.owned q).mpr (h.fresh q (quiet.next ▸ beyond))
  terms q := by
    rw [quiet.ends, quiet.locks]
    obtain ⟨owner, same⟩ := quiet.terms q
    exact (h.terms q).congr (by rw [same]) (by rw [same]) (quiet.exists_iff h.owned q)
  poolLocks a := by
    rw [quiet.poolLock]
    exact h.poolLocks a
  totalLocks := by
    rw [quiet.totalLock]
    exact h.totalLocks

theorem sound_rewritten (h : Sound c s)
    (rewritten : Rewritten s s' p position ends locks) (terms : Terms c position ends locks)
    (present : position.owner ≠ 0) (known : p < s'.nextPositionId)
    (grows : s.nextPositionId ≤ s'.nextPositionId)
    (poolLocks : ∀ a, (s'.poolMaxLockWeightAmount a).Within (c + 1))
    (totalLocks : s'.totalMaxLockWeightAmount.Within (c + 1)) : Sound c s' where
  configured := ⟨rewritten.delay ▸ h.configured.delay, rewritten.least ▸ h.configured.least⟩
  owned := by
    refine ⟨rewritten.nft ▸ h.owned.proper, fun q held => ?_⟩
    rw [rewritten.positions]
    by_cases here : q = p
    · subst here
      rwa [update_self]
    · rw [update_of_ne here]
      exact h.owned.recorded q (rewritten.nft ▸ held)
  fresh q beyond := by
    have other : q ≠ p := by omega
    rw [rewritten.positions, update_of_ne other]
    exact h.fresh q (by omega)
  terms q := by
    rw [rewritten.positions, rewritten.ends, rewritten.locks]
    by_cases here : q = p
    · subst here
      simpa only [update_self] using terms
    · simpa only [update_of_ne here] using h.terms q
  poolLocks := poolLocks
  totalLocks := totalLocks

theorem within_pushMoved
    (h : pushMoved trace epoch amount add = .ok trace') : trace'.Within epoch := by
  obtain ⟨value, -, pushed⟩ := ran h
  exact within_push pushed

theorem LocksMoved.within {agentId : Word} {amount : Nat} {add : Bool} (h : Sound c s)
    (moved : LocksMoved s s' agentId (c + 1) amount add) :
    (∀ a, (s'.poolMaxLockWeightAmount a).Within (c + 1)) ∧
      s'.totalMaxLockWeightAmount.Within (c + 1) := by
  refine ⟨fun a => ?_, within_pushMoved moved.total⟩
  by_cases here : a = agentId
  · subst here
    exact within_pushMoved moved.pool
  · rw [moved.others a here]
    exact h.poolLocks a

theorem Change.sound (change : Change c first s s') (h : Sound c s) : Sound c s' := by
  cases change
  case quiet quiet => exact sound_quiet h quiet
  case opened position _ _ present _ pushed rewritten _ _ kept _ _ inside _ _ =>
    obtain ⟨noEnds, noLocks⟩ := (h.terms _).absent (h.fresh _ (le_refl _))
    refine sound_rewritten h rewritten ?_ present (by omega) (by omega) ?_ ?_
    · have bare : Terms c position (s.positionNormalEndEpoch s.nextPositionId)
          (s.positionMaxLockPower s.nextPositionId) := by
        rw [noEnds, noLocks]
        exact .bare (by omega) fun _ => by omega
      exact bare.pushEnd pushed present (by omega) (le_refl _) inside
    · exact kept.pool ▸ h.poolLocks
    · exact kept.total ▸ h.totalLocks
  case closed positionId _ _ _ _ _ _ _ _ _ _ _ ends _ normal rewritten next _ kept =>
    have present := (h.terms positionId).present_of_end (ends ▸ normal)
    refine sound_rewritten h rewritten ?_ present ?_ (by omega) ?_ ?_
    · exact (h.terms positionId).congr rfl rfl Iff.rfl
    · exact next ▸ h.known present
    · exact kept.pool ▸ h.poolLocks
    · exact kept.total ▸ h.totalLocks
  case extended positionId effectiveEpoch _ _ _ _ _ _ _ _ _ inside pushed rewritten next _ kept =>
    have present := (h.terms positionId).present_of_end (e := effectiveEpoch) (by omega)
    refine sound_rewritten h rewritten ?_ present ?_ (by omega) ?_ ?_
    · exact ((h.terms positionId).pushEnd pushed present (by omega) (by omega) inside).congr rfl rfl Iff.rfl
    · exact next ▸ h.known present
    · exact kept.pool ▸ h.poolLocks
    · exact kept.total ▸ h.totalLocks
  case enabled positionId _ _ _ _ started _ _ _ pushedEnd pushedLock rewritten next _ moved =>
    have present := (h.terms positionId).present_of_end (e := c + 1) (by omega)
    refine sound_rewritten h rewritten ?_ present ?_ (by omega) (moved.within h).1 (moved.within h).2
    · exact ((h.terms positionId).pushEnd pushedEnd present (by omega) started
        (succ_pos 4095)).pushLock pushedLock present (by omega) (.inr ⟨rfl, started⟩)
    · exact next ▸ h.known present
  case disabled positionId _ _ _ locked inside pushedEnd pushedLock rewritten next _ moved =>
    have present := (h.terms positionId).present_of_lock locked
    have started : (s.positions positionId).stakeStartEpoch ≤ c + 1 :=
      (((h.terms positionId).locked (c + 1)).resolve_left locked).2
    refine sound_rewritten h rewritten ?_ present ?_ (by omega) (moved.within h).1 (moved.within h).2
    · exact (((h.terms positionId).pushEnd pushedEnd present (by omega) started inside).pushLock
        pushedLock present (by omega) (.inl rfl)).congr rfl rfl Iff.rfl
    · exact next ▸ h.known present

theorem Changes.sound (changes : Changes c first s s') (h : Sound c s) : Sound c s' := by
  induction changes with
  | refl => exact h
  | tail _ last ih => exact last.sound ih

theorem sound_deployed (owner stakingSource : Address) :
    Sound 0 (deployed owner stakingSource).pools where
  configured := ⟨one_ne_zero, one_ne_zero⟩
  owned := ⟨⟨fun _ => rfl, fun _ _ => rfl⟩, fun _ held => absurd rfl held⟩
  fresh _ _ := rfl
  terms _ := .bare (succ_pos 4095) fun present => absurd rfl present
  poolLocks _ := within_empty _
  totalLocks := within_empty _

end SellerPools

/-- The pools are sound for the current epoch, which is a 64-bit number. -/
structure Sound (s : State) : Prop where
  pools : s.pools.Sound s.epoch
  timely : s.epoch < 2 ^ 64

section

variable (sound : Sound s) (h : step self s event = .ok s')

include sound h

theorem step_changes :
    (∃ call, event = .call call ∧ s'.epoch = s.epoch ∧
      SellerPools.Changes s.epoch (SellerPools.firstEpoch s.epoch call.op) s.pools s'.pools) ∨
    (s'.pools = s.pools ∧ s.epoch ≤ s'.epoch ∧ s'.epoch < 2 ^ 64) := by
  cases event with
  | call call =>
    obtain ⟨_, sender, h⟩ := ran h
    obtain ⟨⟨pools, ants⟩, performed, h⟩ := ran h
    cases h
    exact .inl ⟨call, rfl, rfl, SellerPools.changes_perform sound.pools.configured
      sound.pools.stamped sound.timely (require_eq_ok.mp sender).2 performed⟩
  | elapse =>
    obtain ⟨_, fits, h⟩ := ran h
    cases h
    exact .inr ⟨rfl, le_add_right _ _, decode_eq_ok.mp fits⟩
  | antsMint =>
    obtain ⟨_, -, h⟩ := ran h
    cases h
    exact .inr ⟨rfl, le_refl _, sound.timely⟩
  | antsApprove =>
    cases h
    exact .inr ⟨rfl, le_refl _, sound.timely⟩
  | antsTransfer =>
    replace h := rest_ok h
    obtain ⟨_, -, h⟩ := ran h
    cases h
    exact .inr ⟨rfl, le_refl _, sound.timely⟩

theorem step_epoch : s.epoch ≤ s'.epoch := by
  rcases step_changes sound h with
    ⟨call, rfl, same, -⟩ | ⟨-, later, -⟩
  · exact le_of_eq same.symm
  · exact later

theorem step_sound : Sound s' := by
  rcases step_changes sound h with
    ⟨call, -, same, changes⟩ | ⟨same, later, timely⟩
  · exact ⟨same ▸ changes.sound sound.pools, same ▸ sound.timely⟩
  · exact ⟨same ▸ sound.pools.mono later, timely⟩

end

theorem run_sound (self owner stakingSource : Address) (events : List Event) :
    Sound (run self owner stakingSource events) := by
  refine (machine self).run_invariant (fun s event s' => step_sound) ?_ events
  exact ⟨SellerPools.sound_deployed owner stakingSource, Nat.two_pow_pos 64⟩

end AntSeed.Pools
