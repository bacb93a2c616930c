import AntSeed.Pools.Frozen
import AntSeed.Pools.Power

/-! # Segments of a position's power

Between two checkpoints of its histories a position is at max lock, or its power
runs down by its weight each epoch, or it has none. The view of a segment finds
where the current one ends: histories are short, so the search never reads past
`uint32` indices.
-/

namespace AntSeed.Pools

open Evm Function
open Trace Nat

namespace SellerPools

variable {c first n e : Nat} {s s' s'' : SellerPools}

/-- The histories of positions have no key outside the trees. -/
def Brief (s : SellerPools) : Prop :=
  ∀ q, (s.positionNormalEndEpoch q).Within (fenwickSize - 1) ∧
    (s.positionMaxLockPower q).Within (fenwickSize - 1)

variable {position : Position} {epoch q : Nat}

variable {ends locks trace : Trace}

theorem Rewritten.brief {p : Nat}
    (rewritten : Rewritten s s' p position ends locks) (brief : s.Brief)
    (newEnds : ends.Within (fenwickSize - 1)) (newLocks : locks.Within (fenwickSize - 1)) :
    s'.Brief := by
  intro q
  rw [rewritten.ends, rewritten.locks]
  by_cases here : q = p
  · subst here
    simp only [update_self]
    exact ⟨newEnds, newLocks⟩
  · simp only [update_of_ne here]
    exact brief q

theorem within_of_push {trace trace' : Trace} {epoch value : Nat}
    (pushed : (trace.push epoch value : Tx Error Trace) = .ok trace') (inside : epoch < fenwickSize) :
    trace'.Within (fenwickSize - 1) :=
  (within_push pushed).mono (by omega)

theorem Change.brief (change : Change c first s s') (sound : Sound c s) (brief : s.Brief) :
    s'.Brief := by
  cases change
  case quiet quiet =>
    intro q
    rw [quiet.ends, quiet.locks]
    exact brief q
  case opened pushed rewritten _ _ _ _ _ _ _ _ =>
    exact rewritten.brief brief (within_of_push pushed (by omega)) (brief _).2
  case closed rewritten _ _ _ =>
    exact rewritten.brief brief (brief _).1 (brief _).2
  case extended pushed rewritten _ _ _ =>
    exact rewritten.brief brief (within_of_push pushed (by omega)) (brief _).2
  case enabled positionId _ _ _ _ _ _ _ _ pushedEnd pushedLock rewritten _ _ _ =>
    have ended := (sound.terms positionId).ended (c + 1)
    exact rewritten.brief brief (within_of_push pushedEnd (by omega))
      (within_of_push pushedLock (by omega))
  case disabled pushedEnd pushedLock rewritten _ _ _ =>
    exact rewritten.brief brief (within_of_push pushedEnd (by omega))
      (within_of_push pushedLock (by omega))

/-- Everything that holds of the pools in epoch `c`. -/
structure Steady (c : Nat) (s : SellerPools) : Prop extends Sound c s where
  tame : s.Tame
  balanced : s.Balanced
  brief : s.Brief

theorem Steady.mono {c' : Nat} (h : Steady c s) (le : c ≤ c') : Steady c' s :=
  ⟨h.toSound.mono le, h.tame, h.balanced, h.brief⟩

theorem Changes.steady (changes : Changes c first s s') (h : Steady c s) : Steady c s' := by
  induction changes with
  | refl => exact h
  | tail earlier last ih =>
    exact ⟨last.sound ih.toSound, last.tame ih.tame, last.balanced ih.toSound ih.tame ih.balanced,
      last.brief ih.toSound ih.brief⟩

theorem steady_deployed (owner stakingSource : Address) :
    Steady 0 (deployed owner stakingSource).pools :=
  ⟨sound_deployed owner stakingSource, fun _ => Nat.two_pow_pos 127,
    balanced_deployed owner stakingSource, fun _ => ⟨within_empty _, within_empty _⟩⟩

def weightAt (s : SellerPools) (q e : Nat) : Nat :=
  match s.positionWeightAtEpoch q e with
  | .ok weight => weight
  | .error _ => 0

theorem weightAt_absent (absent : (s.positions q).owner = 0) (e : Nat) : s.weightAt q e = 0 := by
  have refused : s.positionWeightAtEpoch q e = .error (.custom .invalidPosition) := by
    simp only [positionWeightAtEpoch, require, absent, ne_eq, not_true_eq_false, if_false, error_bind]
  unfold weightAt
  rw [refused]

theorem weightAt_of_view (viewed : s.positionWeightAtEpoch q e = .ok weight) :
    s.weightAt q e = weight := by
  unfold weightAt
  rw [viewed]

theorem positionWeightAtEpoch_before (present : (s.positions q).owner ≠ 0)
    (before : e < (s.positions q).stakeStartEpoch) : s.positionWeightAtEpoch q e = .ok 0 := by
  simp only [positionWeightAtEpoch, require, present, ne_eq, not_false_eq_true, if_true, ok_bind, before]
  rfl

theorem weightAt_before (before : e < (s.positions q).stakeStartEpoch) : s.weightAt q e = 0 := by
  by_cases absent : (s.positions q).owner = 0
  · exact weightAt_absent absent e
  · exact weightAt_of_view (positionWeightAtEpoch_before absent before)

section

variable (steady : Steady c s) (present : (s.positions q).owner ≠ 0)
  (started : (s.positions q).stakeStartEpoch ≤ e)
  (isOpen : ¬ ((s.positions q).closedAtEpoch ≠ 0 ∧ e ≥ (s.positions q).closedAtEpoch))

include steady present started isOpen

theorem positionWeightAtEpoch_running :
    s.positionWeightAtEpoch q e = .ok (
      if (s.positionMaxLockPower q).upperLookupRecent e ≠ 0 then
        (s.positionMaxLockPower q).upperLookupRecent e
      else (s.positions q).weightAmount * ((s.positionNormalEndEpoch q).upperLookupRecent e - e)) := by
  have passed : require ((s.positions q).owner ≠ 0) Error.invalidPosition = .ok () :=
    require_eq_ok.mpr present
  have light := steady.tame q
  have ended := (steady.terms q).ended e
  simp only [positionWeightAtEpoch, passed, ok_bind]
  rw [if_neg (by omega), if_neg isOpen]
  by_cases locked : (s.positionMaxLockPower q).upperLookupRecent e ≠ 0
  · rw [if_pos locked, if_pos locked]
    rfl
  · simp only [if_neg locked]
    split
    next past =>
      have zero : (s.positionNormalEndEpoch q).upperLookupRecent e - e = 0 := by omega
      rw [zero, mul_zero]
      rfl
    next running =>
      have fits : (s.positions q).weightAmount *
          ((s.positionNormalEndEpoch q).upperLookupRecent e - e) < 2 ^ 256 := by
        calc (s.positions q).weightAmount *
              ((s.positionNormalEndEpoch q).upperLookupRecent e - e)
            ≤ 2 ^ 127 * 4096 := Nat.mul_le_mul (Nat.le_of_lt light) (by
              unfold fenwickSize at ended
              omega)
          _ < 2 ^ 256 := by decide
      exact bind_eq_ok.mpr ⟨_, sub_eq_ok.mpr ⟨by omega, rfl⟩, uint_eq_ok.mpr ⟨fits, rfl⟩⟩

theorem weightAt_running :
    s.weightAt q e =
      if (s.positionMaxLockPower q).upperLookupRecent e ≠ 0 then
        (s.positionMaxLockPower q).upperLookupRecent e
      else (s.positions q).weightAmount * ((s.positionNormalEndEpoch q).upperLookupRecent e - e) :=
  weightAt_of_view (positionWeightAtEpoch_running steady present started isOpen)

end

theorem positionWeightAtEpoch_closed (present : (s.positions q).owner ≠ 0)
    (closed : (s.positions q).closedAtEpoch ≠ 0) (after : (s.positions q).closedAtEpoch ≤ e) :
    s.positionWeightAtEpoch q e = .ok 0 := by
  by_cases before : e < (s.positions q).stakeStartEpoch
  · exact positionWeightAtEpoch_before present before
  · simp only [positionWeightAtEpoch, require, present, ne_eq, not_false_eq_true, if_true, ok_bind,
      before, if_false, closed, ge_iff_le, after, and_self]
    rfl

theorem weightAt_closed (closed : (s.positions q).closedAtEpoch ≠ 0)
    (after : (s.positions q).closedAtEpoch ≤ e) : s.weightAt q e = 0 := by
  by_cases absent : (s.positions q).owner = 0
  · exact weightAt_absent absent e
  · exact weightAt_of_view (positionWeightAtEpoch_closed absent closed after)

theorem positionWeightAtEpoch_eq (steady : Steady c s) (present : (s.positions q).owner ≠ 0)
    (e : Nat) : s.positionWeightAtEpoch q e = .ok (s.weightAt q e) := by
  have returns : ∃ weight, s.positionWeightAtEpoch q e = .ok weight := by
    by_cases before : e < (s.positions q).stakeStartEpoch
    · exact ⟨_, positionWeightAtEpoch_before present before⟩
    · by_cases closed : (s.positions q).closedAtEpoch ≠ 0 ∧ e ≥ (s.positions q).closedAtEpoch
      · exact ⟨_, positionWeightAtEpoch_closed present closed.1 closed.2⟩
      · exact ⟨_, positionWeightAtEpoch_running steady present (Nat.le_of_not_lt before) closed⟩
  obtain ⟨weight, viewed⟩ := returns
  rw [viewed, weightAt_of_view viewed]

theorem weightAt_le (steady : Steady c s) (q e : Nat) : s.weightAt q e ≤ 2 ^ 127 * fenwickSize := by
  by_cases absent : (s.positions q).owner = 0
  · exact weightAt_absent absent e ▸ zero_le _
  by_cases before : e < (s.positions q).stakeStartEpoch
  · exact weightAt_before before ▸ zero_le _
  by_cases closed : (s.positions q).closedAtEpoch ≠ 0 ∧ e ≥ (s.positions q).closedAtEpoch
  · exact weightAt_closed closed.1 closed.2 ▸ zero_le _
  rw [weightAt_running steady absent (by omega) closed]
  have light := le_of_lt (steady.tame q)
  have ended := (steady.terms q).ended e
  split
  · rcases (steady.terms q).locked e with none | ⟨full, -⟩
    · rw [none]
      exact zero_le _
    · rw [full]
      exact Nat.mul_le_mul light (by decide)
  · exact Nat.mul_le_mul light (by omega)

theorem poolWeight_eq_sum (steady : Steady c s) (inside : e < fenwickSize) (a : Word) :
    s.poolWeightAtEpoch a e = uint 256 (∑ q ∈ s.positionsOf a, s.weightAt q e) := by
  obtain ⟨weight, positions, pools, -⟩ :=
    powerAgrees steady.toSound steady.tame steady.balanced inside
  rw [pools a]
  refine congrArg (uint 256) (Finset.sum_congr rfl fun q member => ?_)
  have present := (Finset.mem_filter.mp member).2.1
  unfold weightAt
  rw [positions q present]

theorem inside_of_poolWeight (h : s.poolWeightAtEpoch a e = .ok weight) :
    e < fenwickSize := by
  obtain ⟨_, h, -⟩ := ran h
  obtain ⟨_, h, -⟩ := ran h
  obtain ⟨_, h, -⟩ := ran h
  obtain ⟨_, h, -⟩ := ran h
  exact (FenwickTree.fenwickIndex_eq_ok h).1

theorem nextCheckpointKeyAfter_spec (brief : trace.length ≤ 2 ^ 32)
    (timely : epoch < 2 ^ 256 - 1) :
    ∃ key, nextCheckpointKeyAfter trace epoch = .ok key ∧ epoch < key ∧
      ∀ e, epoch ≤ e → e < key → trace.upperLookupRecent e = trace.upperLookupRecent epoch := by
  have size : trace.newestFirst.reverse.length = trace.length := List.length_reverse
  have known : ∀ i, i < trace.length → ∃ d, trace.newestFirst.reverse[i]? = some d := fun i inside =>
    ⟨_, List.getElem?_eq_getElem (size ▸ inside)⟩
  let below : Nat → Bool := fun i => (trace.newestFirst.reverse[i]?).any fun d => d.key ≤ epoch
  have read : ∀ i d, trace.newestFirst.reverse[i]? = some d → below i = decide (d.key ≤ epoch) := by
    intro i d found
    simp only [below, found, Option.any_some]
  have reads : ∀ i, i < trace.length →
      (do let d ← trace.checkpointAt (i % 2 ^ 32)
          pure (decide (d.key ≤ epoch)) : Tx Error Bool) = .ok (below i) := by
    intro i inside
    obtain ⟨d, found⟩ := known i inside
    rw [mod_eq_of_lt (by omega), checkpointAt_eq_ok.mpr found, ok_bind, read i d found]
    rfl
  have sorted : ∀ i j, i ≤ j → j < trace.length → below j = true → below i = true := by
    intro i j order inside later
    obtain ⟨d, found⟩ := known i (by omega)
    obtain ⟨d', found'⟩ := known j inside
    rw [read j d' found', decide_eq_true_eq] at later
    rw [read i d found, decide_eq_true_eq]
    exact le_trans (key_le_key found found' order) later
  obtain ⟨low, searched, atMost, before, after⟩ := upperBound_spec reads sorted (k := trace.length)
    (zero_le _) (le_refl _) (by omega) (by omega) (by omega)
  unfold nextCheckpointKeyAfter
  rw [searched, ok_bind]
  by_cases last : low = trace.length
  · rw [if_pos last]
    refine ⟨_, rfl, timely, fun e order _ => lookup_of_no_key order fun d member _ => ?_⟩
    obtain ⟨i, inside, isEntry⟩ := List.getElem_of_mem (List.mem_reverse.mpr member)
    have found : trace.newestFirst.reverse[i]? = some d :=
      List.getElem?_eq_some_iff.mpr ⟨inside, isEntry⟩
    have isBelow := before i (by omega)
    rwa [read i d found, decide_eq_true_eq] at isBelow
  · rw [if_neg last]
    obtain ⟨d, found⟩ := known low (by omega)
    have above := after low (le_refl _) (by omega)
    rw [read low d found, decide_eq_false_iff_not] at above
    rw [mod_eq_of_lt (by omega), checkpointAt_eq_ok.mpr found, ok_bind]
    refine ⟨_, rfl, by omega, fun e order earlier => lookup_of_no_key order ?_⟩
    intro d' member reached
    obtain ⟨i, inside, isEntry⟩ := List.getElem_of_mem (List.mem_reverse.mpr member)
    have found' : trace.newestFirst.reverse[i]? = some d' :=
      List.getElem?_eq_some_iff.mpr ⟨inside, isEntry⟩
    have isBefore : i < low := by
      by_contra late
      have := Trace.key_le_key found found' (Nat.le_of_not_lt late)
      omega
    have isBelow := before i isBefore
    rwa [read i d' found', decide_eq_true_eq] at isBelow

theorem brief_length (within : trace.Within (fenwickSize - 1)) : trace.length ≤ 2 ^ 32 :=
  le_trans (length_le_of_within within) (by decide)

/-- An open position has one segment from `epoch` to the next change, and weighs the same
    max-lock power or the rest of the same lock all through it. Before its start that is nothing. -/
theorem positionPowerSegmentAt_spec (steady : Steady c s) (present : (s.positions q).owner ≠ 0)
    (isOpen : (s.positions q).closedAtEpoch = 0 ∨ epoch < (s.positions q).closedAtEpoch)
    (timely : epoch < 2 ^ 256 - 1) :
    ∃ segment, s.positionPowerSegmentAt q epoch = .ok segment ∧ epoch < segment.nextChangeEpoch ∧
      segment.maxLockPower ≤ 2 ^ 127 * maxStakeEpochs ∧ segment.normalEndEpoch < fenwickSize ∧
      ∀ e, epoch ≤ e → e < segment.nextChangeEpoch →
        s.weightAt q e = if segment.maxLockPower ≠ 0 then segment.maxLockPower
          else (s.positions q).weightAmount * (segment.normalEndEpoch - e) := by
  obtain ⟨endsBrief, locksBrief⟩ := steady.brief q
  obtain ⟨nextEnd, readEnd, laterEnd, sameEnd⟩ :=
    nextCheckpointKeyAfter_spec (brief_length endsBrief) timely
  obtain ⟨nextLock, readLock, laterLock, sameLock⟩ :=
    nextCheckpointKeyAfter_spec (brief_length locksBrief) timely
  have passed : require ((s.positions q).owner ≠ 0) Error.invalidPosition = .ok () :=
    require_eq_ok.mpr present
  have locked : (s.positionMaxLockPower q).upperLookupRecent epoch ≤ 2 ^ 127 * maxStakeEpochs := by
    rcases (steady.terms q).locked epoch with none | ⟨full, -⟩
    · rw [none]
      exact zero_le _
    · rw [full]
      exact mul_le_mul_right _ (le_of_lt (steady.tame q))
  have ended := (steady.terms q).ended epoch
  simp only [positionPowerSegmentAt, passed, ok_bind, readEnd, readLock]
  rw [if_neg (by omega)]
  refine ⟨_, rfl, ?_, locked, ended, ?_⟩
  · dsimp only
    split <;> split <;> omega
  · intro e order inside
    dsimp only at inside ⊢
    have before : e < nextEnd ∧ e < nextLock ∧
        ((s.positions q).closedAtEpoch = 0 ∨ e < (s.positions q).closedAtEpoch) := by
      split at inside <;> split at inside <;> omega
    rw [← sameEnd e order before.1, ← sameLock e order before.2.1]
    by_cases started : (s.positions q).stakeStartEpoch ≤ e
    · rw [weightAt_running steady present started (by omega)]
    · have unlocked : (s.positionMaxLockPower q).upperLookupRecent e = 0 :=
        ((steady.terms q).locked e).resolve_right fun full => started full.2
      rw [weightAt_before (Nat.lt_of_not_le started), unlocked,
        (steady.terms q).dormant e (Nat.lt_of_not_le started)]
      simp

theorem positionPowerSegmentAt_closed (present : (s.positions q).owner ≠ 0)
    (closed : (s.positions q).closedAtEpoch ≠ 0) (after : (s.positions q).closedAtEpoch ≤ epoch) :
    s.positionPowerSegmentAt q epoch = .ok ⟨0, 0, (s.positions q).closedAtEpoch⟩ := by
  have passed : require ((s.positions q).owner ≠ 0) Error.invalidPosition = .ok () :=
    require_eq_ok.mpr present
  simp only [positionPowerSegmentAt, passed, ok_bind]
  rw [if_pos ⟨closed, after⟩]
  rfl

/-- Nothing below epoch `n` has changed, and new positions weigh nothing there. -/
structure Grows (n : Nat) (s s' : SellerPools) : Prop extends Frozen n s s' where
  agents : ∀ q, (s.positions q).owner ≠ 0 → (s'.positions q).agentId = (s.positions q).agentId
  joined : ∀ q, (s.positions q).owner = 0 → ∀ e, e < n → s'.weightAt q e = 0

theorem Frozen.weightAt (h : Frozen n s s') (present : (s.positions q).owner ≠ 0) (below : e < n) :
    s'.weightAt q e = s.weightAt q e := by
  unfold SellerPools.weightAt
  rw [h.positionWeight q e present below]

theorem Grows.refl (n : Nat) (s : SellerPools) : Grows n s s :=
  ⟨.refl n s, fun _ _ => rfl, fun _ absent e _ => weightAt_absent absent e⟩

theorem Grows.trans (first : Grows n s s') (second : Grows n s' s'') : Grows n s s'' where
  toFrozen := first.toFrozen.trans second.toFrozen
  agents q present :=
    (second.agents q (first.persists q present)).trans (first.agents q present)
  joined q absent e below := by
    by_cases still : (s'.positions q).owner = 0
    · exact second.joined q still e below
    · rw [second.toFrozen.weightAt still below]
      exact first.joined q absent e below

theorem Grows.mono {m : Nat} (h : Grows n s s') (le : m ≤ n) : Grows m s s' :=
  ⟨h.toFrozen.mono le, h.agents,
    fun q absent e below => h.joined q absent e (lt_of_lt_of_le below le)⟩

theorem Rewritten.grows
    (rewritten : Rewritten s s' p position ends locks) (frozen : Frozen n s s')
    (owner : position.owner = (s.positions p).owner)
    (agent : position.agentId = (s.positions p).agentId) : Grows n s s' := by
  refine ⟨frozen, fun q _ => ?_, fun q absent e _ => weightAt_absent ?_ e⟩
  · rw [rewritten.positions]
    by_cases here : q = p
    · subst here
      rw [update_self, agent]
    · rw [update_of_ne here]
  · rw [rewritten.positions]
    by_cases here : q = p
    · subst here
      rw [update_self, owner, absent]
    · rw [update_of_ne here, absent]

theorem Change.grows (change : Change c first s s') (sound : Sound c s) (near : first ≤ c + 1) :
    Grows first s s' := by
  have frozen := change.frozen sound near
  cases change
  case quiet quiet =>
    refine ⟨frozen, fun q _ => ?_, fun q absent e _ => ?_⟩
    · obtain ⟨owner, same⟩ := quiet.terms q
      rw [same]
    · exact weightAt_absent ((quiet.exists_iff sound.owned q).mpr absent) e
  case opened rewritten _ _ _ _ _ _ _ _ =>
    refine ⟨frozen, fun q existing => ?_, fun q absent e below => ?_⟩
    · have other : q ≠ s.nextPositionId := by
        have := sound.known existing
        omega
      rw [rewritten.positions, update_of_ne other]
    · by_cases here : q = s.nextPositionId
      · refine weightAt_before ?_
        rw [rewritten.positions, here, update_self]
        omega
      · refine weightAt_absent ?_ e
        rw [rewritten.positions, update_of_ne here, absent]
  case closed rewritten _ _ _ | extended rewritten _ _ _ | enabled rewritten _ _ _ | disabled rewritten _ _ _ =>
    exact rewritten.grows frozen rfl rfl

theorem Changes.grows (changes : Changes c first s s') (sound : Sound c s) (near : first ≤ c + 1) :
    Grows first s s' := by
  induction changes with
  | refl => exact .refl first s
  | tail earlier last ih => exact ih.trans (last.grows (Changes.sound earlier sound) near)

end SellerPools

end AntSeed.Pools
