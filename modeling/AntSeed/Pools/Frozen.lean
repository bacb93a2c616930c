import AntSeed.Pools.Sound

/-! # Finalized epochs are frozen

A change rewrites histories and trees only from its effective epoch on, so no
view of an earlier epoch changes. A withdrawal may take effect in the current
epoch; every other call takes effect later.
-/

namespace AntSeed.Pools

open Evm Function
open SellerPools

namespace SellerPools

variable {c first e : Nat} {s s' s'' : SellerPools}

/-- No view of an epoch below `n` has changed. -/
structure Frozen (n : Nat) (s s' : SellerPools) : Prop where
  poolWeight : ∀ a e, e < n → s'.poolWeightAtEpoch a e = s.poolWeightAtEpoch a e
  totalPower : ∀ e, e < n → s'.totalPowerWeightAtEpoch e = s.totalPowerWeightAtEpoch e
  activeStake : ∀ e, e < n → s'.totalActiveStakeAtEpoch e = s.totalActiveStakeAtEpoch e
  positionWeight : ∀ q e, (s.positions q).owner ≠ 0 → e < n →
    s'.positionWeightAtEpoch q e = s.positionWeightAtEpoch q e
  persists : ∀ q, (s.positions q).owner ≠ 0 → (s'.positions q).owner ≠ 0

theorem Frozen.refl (n : Nat) (s : SellerPools) : Frozen n s s :=
  ⟨fun _ _ _ => rfl, fun _ _ => rfl, fun _ _ => rfl, fun _ _ _ _ => rfl, fun _ h => h⟩

theorem Frozen.trans {n : Nat} (first : Frozen n s s') (second : Frozen n s' s'') : Frozen n s s'' where
  poolWeight a e below := (second.poolWeight a e below).trans (first.poolWeight a e below)
  totalPower e below := (second.totalPower e below).trans (first.totalPower e below)
  activeStake e below := (second.activeStake e below).trans (first.activeStake e below)
  positionWeight q e present below :=
    (second.positionWeight q e (first.persists q present) below).trans
      (first.positionWeight q e present below)
  persists q present := second.persists q (first.persists q present)

theorem Frozen.mono {n m : Nat} (h : Frozen n s s') (le : m ≤ n) : Frozen m s s' where
  poolWeight a e below := h.poolWeight a e (Nat.lt_of_lt_of_le below le)
  totalPower e below := h.totalPower e (Nat.lt_of_lt_of_le below le)
  activeStake e below := h.activeStake e (Nat.lt_of_lt_of_le below le)
  positionWeight q e present below := h.positionWeight q e present (Nat.lt_of_lt_of_le below le)
  persists := h.persists

theorem powerAndActiveWeight_congr (same : e < fenwickSize → tree'.sumAt e = tree.sumAt e) :
    powerAndActiveWeightAtEpoch tree' e = powerAndActiveWeightAtEpoch tree e := by
  have sums : tree'.fenwickPrefixSum e = tree.fenwickPrefixSum e := by
    by_cases inside : e < fenwickSize
    · rw [tree'.fenwickPrefixSum_inside inside, tree.fenwickPrefixSum_inside inside, same inside]
    · unfold FenwickTree.fenwickPrefixSum
      cases index : FenwickTree.fenwickIndex e with
      | ok => exact absurd (FenwickTree.fenwickIndex_eq_ok index).1 inside
      | error => simp only [error_bind]
  unfold powerAndActiveWeightAtEpoch
  rw [sums]

theorem poolWeight_congr
    (tree : e < fenwickSize → (s'.poolPowerTree a).sumAt e = (s.poolPowerTree a).sumAt e)
    (lock : (s'.poolMaxLockWeightAmount a).upperLookupRecent e =
      (s.poolMaxLockWeightAmount a).upperLookupRecent e) :
    s'.poolWeightAtEpoch a e = s.poolWeightAtEpoch a e := by
  unfold poolWeightAtEpoch poolPowerAndActiveWeightAtEpoch
  rw [powerAndActiveWeight_congr tree, lock]

theorem positionWeight_congr (present : (s'.positions q).owner = 0 ↔ (s.positions q).owner = 0)
    (start : (s'.positions q).stakeStartEpoch = (s.positions q).stakeStartEpoch)
    (weight : (s'.positions q).weightAmount = (s.positions q).weightAmount)
    (isClosed : ((s'.positions q).closedAtEpoch ≠ 0 ∧ e ≥ (s'.positions q).closedAtEpoch) ↔
      ((s.positions q).closedAtEpoch ≠ 0 ∧ e ≥ (s.positions q).closedAtEpoch))
    (lock : (s'.positionMaxLockPower q).upperLookupRecent e =
      (s.positionMaxLockPower q).upperLookupRecent e)
    (ends : (s'.positionNormalEndEpoch q).upperLookupRecent e =
      (s.positionNormalEndEpoch q).upperLookupRecent e) :
    s'.positionWeightAtEpoch q e = s.positionWeightAtEpoch q e := by
  simp only [positionWeightAtEpoch, ne_eq, present, start, weight, lock, ends]
  simp only [ne_eq] at isClosed
  simp only [isClosed]

/-- Everything the views of an epoch read is the same. -/
structure Unmoved (e : Nat) (s s' : SellerPools) : Prop where
  pool : ∀ a, e < fenwickSize → (s'.poolPowerTree a).sumAt e = (s.poolPowerTree a).sumAt e
  total : e < fenwickSize → s'.totalPowerTree.sumAt e = s.totalPowerTree.sumAt e
  poolLock : ∀ a, (s'.poolMaxLockWeightAmount a).upperLookupRecent e =
    (s.poolMaxLockWeightAmount a).upperLookupRecent e
  totalLock : s'.totalMaxLockWeightAmount.upperLookupRecent e =
    s.totalMaxLockWeightAmount.upperLookupRecent e

theorem unmoved_of_shifted (shifted : Shifted s s' a delta)
    (nothing : delta e = 0)
    (poolLock : ∀ b, (s'.poolMaxLockWeightAmount b).upperLookupRecent e =
      (s.poolMaxLockWeightAmount b).upperLookupRecent e)
    (totalLock : s'.totalMaxLockWeightAmount.upperLookupRecent e =
      s.totalMaxLockWeightAmount.upperLookupRecent e) : Unmoved e s s' where
  pool b inside := by
    by_cases here : b = a
    · subst here
      rw [shifted.pool e inside, nothing, add_zero]
    · rw [shifted.others b here]
  total inside := by rw [shifted.total e inside, nothing, add_zero]
  poolLock := poolLock
  totalLock := totalLock

theorem range_before (before : e < startEpoch)
    (order : startEpoch ≤ stakeEndEpoch) : range startEpoch stakeEndEpoch amount e = 0 := by
  unfold range FenwickTree.rangeAt
  rw [if_neg (by omega), if_neg (by omega), sub_zero]

theorem lookup_pushMoved_before
    (h : pushMoved trace epoch amount add = .ok trace') (before : e < epoch) :
    trace'.upperLookupRecent e = trace.upperLookupRecent e := by
  obtain ⟨value, -, pushed⟩ := ran h
  rw [Trace.lookup_push pushed, if_neg (by omega)]

theorem LocksKept.lookup (kept : LocksKept s s') :
    (∀ a, (s'.poolMaxLockWeightAmount a).upperLookupRecent e =
      (s.poolMaxLockWeightAmount a).upperLookupRecent e) ∧
    s'.totalMaxLockWeightAmount.upperLookupRecent e =
      s.totalMaxLockWeightAmount.upperLookupRecent e := by
  rw [kept.pool, kept.total]
  exact ⟨fun _ => rfl, rfl⟩

theorem LocksMoved.lookup_before
    (moved : LocksMoved s s' a epoch amount add) (before : e < epoch) :
    (∀ b, (s'.poolMaxLockWeightAmount b).upperLookupRecent e =
      (s.poolMaxLockWeightAmount b).upperLookupRecent e) ∧
    s'.totalMaxLockWeightAmount.upperLookupRecent e =
      s.totalMaxLockWeightAmount.upperLookupRecent e := by
  refine ⟨fun b => ?_, lookup_pushMoved_before moved.total before⟩
  by_cases here : b = a
  · subst here
    exact lookup_pushMoved_before moved.pool before
  · rw [moved.others b here]

theorem positionWeight_rewritten
    (rewritten : Rewritten s s' p position ends locks)
    (present : position.owner = 0 ↔ (s.positions p).owner = 0)
    (start : position.stakeStartEpoch = (s.positions p).stakeStartEpoch)
    (weight : position.weightAmount = (s.positions p).weightAmount)
    (isOpen : (s.positions p).closedAtEpoch = 0)
    (stillOpen : position.closedAtEpoch = 0 ∨ e < position.closedAtEpoch)
    (lock : locks.upperLookupRecent e = (s.positionMaxLockPower p).upperLookupRecent e)
    (endsAt : ends.upperLookupRecent e = (s.positionNormalEndEpoch p).upperLookupRecent e) :
    s'.positionWeightAtEpoch q e = s.positionWeightAtEpoch q e := by
  by_cases here : q = p
  · subst here
    have same : s'.positions q = position := by rw [rewritten.positions, update_self]
    apply positionWeight_congr
    · rw [same]
      exact present
    · rw [same, start]
    · rw [same, weight]
    · rw [same, isOpen]
      omega
    · rw [rewritten.locks, update_self, lock]
    · rw [rewritten.ends, update_self, endsAt]
  · have same : s'.positions q = s.positions q := by rw [rewritten.positions, update_of_ne here]
    apply positionWeight_congr
    · rw [same]
    · rw [same]
    · rw [same]
    · rw [same]
    · rw [rewritten.locks, update_of_ne here]
    · rw [rewritten.ends, update_of_ne here]

theorem lookup_push_before {trace trace' : Trace} {epoch value : Nat}
    (pushed : (trace.push epoch value : Tx Error Trace) = .ok trace') (before : e < epoch) :
    trace'.upperLookupRecent e = trace.upperLookupRecent e := by
  rw [Trace.lookup_push pushed, if_neg (by omega)]

theorem Change.unmoved (change : Change c first s s') (sound : Sound c s) (near : first ≤ c + 1)
    (below : e < first) :
    Unmoved e s s' ∧ ∀ q, (s.positions q).owner ≠ 0 →
      s'.positionWeightAtEpoch q e = s.positionWeightAtEpoch q e := by
  cases change
  case quiet quiet =>
    refine ⟨⟨fun a _ => by rw [quiet.pool], fun _ => by rw [quiet.total],
      fun a => by rw [quiet.poolLock], by rw [quiet.totalLock]⟩, fun q present => ?_⟩
    obtain ⟨owner, same⟩ := quiet.terms q
    apply positionWeight_congr (quiet.exists_iff sound.owned q)
    · rw [same]
    · rw [same]
    · rw [same]
    · rw [quiet.locks]
    · rw [quiet.ends]
  case opened rewritten _ shifted kept _ order _ _ _ =>
    refine ⟨unmoved_of_shifted shifted (range_before (by omega) order) kept.lookup.1
      kept.lookup.2, fun q existing => ?_⟩
    have other : q ≠ s.nextPositionId := by
      have := sound.known existing
      omega
    have same : s'.positions q = s.positions q := by
      rw [rewritten.positions, update_of_ne other]
    apply positionWeight_congr
    · rw [same]
    · rw [same]
    · rw [same]
    · rw [same]
    · rw [rewritten.locks, update_of_ne other]
    · rw [rewritten.ends, update_of_ne other]
  case closed wasOpen _ _ _ _ _ _ _ _ _ rewritten _ shifted kept =>
    refine ⟨unmoved_of_shifted shifted ?_ kept.lookup.1 kept.lookup.2, fun q present => ?_⟩
    · split
      · rw [range_before (by omega) (by omega), neg_zero]
      · rfl
    · exact positionWeight_rewritten rewritten Iff.rfl rfl rfl wasOpen
        (.inr (by simp only; omega)) rfl rfl
  case extended wasOpen _ _ _ _ _ _ pushed rewritten _ shifted kept =>
    refine ⟨unmoved_of_shifted shifted ?_ kept.lookup.1 kept.lookup.2, fun q present => ?_⟩
    · rw [range_before (by omega) (by omega), range_before (by omega) (by omega), neg_zero, add_zero]
    · exact positionWeight_rewritten rewritten Iff.rfl rfl rfl wasOpen (.inl wasOpen) rfl
        (lookup_push_before pushed (by omega))
  case enabled wasOpen _ _ _ _ pushedEnd pushedLock rewritten _ shifted moved =>
    obtain ⟨poolLock, totalLock⟩ := moved.lookup_before (e := e) (by omega)
    refine ⟨unmoved_of_shifted shifted ?_ poolLock totalLock, fun q present => ?_⟩
    · rw [range_before (by omega) (by omega), neg_zero]
    · exact positionWeight_rewritten rewritten Iff.rfl rfl rfl wasOpen (.inl wasOpen)
        (lookup_push_before pushedLock (by omega)) (lookup_push_before pushedEnd (by omega))
  case disabled wasOpen _ _ pushedEnd pushedLock rewritten _ shifted moved =>
    obtain ⟨poolLock, totalLock⟩ := moved.lookup_before (e := e) (by omega)
    refine ⟨unmoved_of_shifted shifted ?_ poolLock totalLock, fun q present => ?_⟩
    · exact range_before (by omega) (by omega)
    · exact positionWeight_rewritten rewritten Iff.rfl rfl rfl wasOpen (.inl wasOpen)
        (lookup_push_before pushedLock (by omega)) (lookup_push_before pushedEnd (by omega))

theorem Rewritten.persists {ends locks : Trace}
    (rewritten : Rewritten s s' p position ends locks)
    (present : (s.positions p).owner ≠ 0 → position.owner ≠ 0)
    (existing : (s.positions q).owner ≠ 0) : (s'.positions q).owner ≠ 0 := by
  rw [rewritten.positions]
  by_cases here : q = p
  · subst here
    rw [update_self]
    exact present existing
  · rwa [update_of_ne here]

theorem Change.persists (change : Change c first s s') (sound : Sound c s) {q : Nat}
    (existing : (s.positions q).owner ≠ 0) : (s'.positions q).owner ≠ 0 := by
  cases change
  case quiet quiet => exact fun zero => existing ((quiet.exists_iff sound.owned q).mp zero)
  case opened present _ _ rewritten _ _ _ _ _ _ _ _ =>
    exact rewritten.persists (fun _ => present) existing
  case closed rewritten _ _ _ | extended rewritten _ _ _ | enabled rewritten _ _ _ | disabled rewritten _ _ _ =>
    exact rewritten.persists id existing

theorem Change.frozen (change : Change c first s s') (sound : Sound c s) (near : first ≤ c + 1) :
    Frozen first s s' where
  poolWeight a e below := by
    obtain ⟨unmoved, -⟩ := change.unmoved sound near below
    exact poolWeight_congr (unmoved.pool a) (unmoved.poolLock a)
  totalPower e below := by
    obtain ⟨unmoved, -⟩ := change.unmoved sound near below
    unfold totalPowerWeightAtEpoch totalMaxLockPowerAtEpoch
    rw [powerAndActiveWeight_congr unmoved.total, unmoved.totalLock]
  activeStake e below := by
    obtain ⟨unmoved, -⟩ := change.unmoved sound near below
    unfold totalActiveStakeAtEpoch
    rw [powerAndActiveWeight_congr unmoved.total, unmoved.totalLock]
  positionWeight q e present below := (change.unmoved sound near below).2 q present
  persists _ existing := change.persists sound existing

theorem Changes.frozen (changes : Changes c first s s') (sound : Sound c s)
    (near : first ≤ c + 1) : Frozen first s s' := by
  induction changes with
  | refl => exact Frozen.refl first s
  | tail earlier last ih => exact ih.trans (last.frozen (Changes.sound earlier sound) near)

end SellerPools

/-- The event is a call of `withdrawStake` or `withdrawStakes`. -/
def Event.withdraws : Event → Bool
  | .call c =>
    match c.op with
    | .withdrawStake _ | .withdrawStakes _ => true
    | _ => false
  | _ => false

theorem firstEpoch_bounds (epoch : Nat) (op : Operation) :
    epoch ≤ firstEpoch epoch op ∧ firstEpoch epoch op ≤ epoch + 1 := by
  cases op <;> simp [firstEpoch]

theorem firstEpoch_of_keeps (epoch : Nat) (keeps : (Event.call call).withdraws = false) :
    firstEpoch epoch call.op = epoch + 1 := by
  cases h : call.op <;> simp_all [firstEpoch, Event.withdraws]

theorem step_frozen (sound : Sound s)
    (h : step self s event = .ok s') :
    s.pools.Frozen s.epoch s'.pools ∧
      (event.withdraws = false → s.pools.Frozen (s.epoch + 1) s'.pools) := by
  rcases step_changes sound h with
    ⟨call, rfl, -, changes⟩ | ⟨same, -, -⟩
  · obtain ⟨low, high⟩ := firstEpoch_bounds s.epoch call.op
    have frozen := changes.frozen sound.pools high
    exact ⟨frozen.mono low, fun keeps => firstEpoch_of_keeps s.epoch keeps ▸ frozen⟩
  · rw [same]
    exact ⟨.refl _ _, fun _ => .refl _ _⟩

theorem run_frozen (sound : Sound s) (events : List Event) :
    s.pools.Frozen s.epoch ((machine self).run s events).pools := by
  have progress : s.epoch ≤ ((machine self).run s events).epoch ∧
      s.pools.Frozen s.epoch ((machine self).run s events).pools := by
    refine (machine self).run_progress (I := Sound)
      (R := fun a b => a.epoch ≤ b.epoch ∧ a.pools.Frozen a.epoch b.pools)
      (fun a => ⟨Nat.le_refl _, .refl _ _⟩) ?_ (fun a event b => step_sound) ?_ sound events
    · rintro a b c ⟨early, first⟩ ⟨late, second⟩
      exact ⟨Nat.le_trans early late, first.trans (second.mono early)⟩
    · intro a event b holds taken
      exact ⟨step_epoch holds taken, (step_frozen holds taken).1⟩
  exact progress.2

/-- In every reachable state, any event leaves every view of an elapsed epoch as it was, and
    any event but a withdrawal also those of the current epoch; so no later run changes the
    views of an epoch below the current one. -/
theorem elapsed_epochs_are_frozen (self owner stakingSource : Address) (events : List Event)
    (event : Event) (later : List Event) :
    let s := run self owner stakingSource events
    let s' := (machine self).exec s event
    s.pools.Frozen s.epoch s'.pools ∧ (event.withdraws = false → s.pools.Frozen (s.epoch + 1) s'.pools) ∧
      s.pools.Frozen s.epoch ((machine self).run s later).pools := by
  intro s s'
  have sound : Sound s := run_sound self owner stakingSource events
  refine ⟨run_frozen sound [event], ?_, run_frozen sound later⟩
  intro keeps
  rcases (machine self).exec_cases s event with taken | skipped
  · exact (step_frozen sound taken).2 keeps
  · have same : s' = s := skipped
    rw [same]
    exact .refl _ _

end AntSeed.Pools
