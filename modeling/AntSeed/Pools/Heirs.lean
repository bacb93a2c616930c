import AntSeed.Pools.Principal

/-! # Early exits stay as dear as they were

An early exit is slashed by the part of the lock that is left. Operations can give
a position, and the positions that replace it, only windows that begin and end
later, so at no epoch is leaving cheaper than it would have been without them.
-/

namespace AntSeed.Pools

open Evm Function
open Trace

/-- What holds of the window of a position in epoch `c`. -/
structure Timeline (c start : Nat) (starts ends : Trace) : Prop where
  startsKnown : starts.Within (max (c + 1) start)
  endsKnown : ends.Within (max (c + 1) start)
  limit : ∀ k, start ≤ k → ends.upperLookupRecent k ≤ max (c + 1) start + maxStakeEpochs
  bound : ∀ k, start ≤ k → ends.upperLookupRecent k ≤ k + maxStakeEpochs
  renewed : ∀ k, start ≤ k → starts.upperLookupRecent (k + 1) = starts.upperLookupRecent k ∨
    starts.upperLookupRecent (k + 1) = 0 ∨
    k + 1 + maxStakeEpochs ≤ ends.upperLookupRecent (k + 1)

theorem Timeline.mono {c c' start : Nat} {starts ends : Trace} (h : Timeline c start starts ends)
    (le : c ≤ c') : Timeline c' start starts ends where
  startsKnown := h.startsKnown.mono (by omega)
  endsKnown := h.endsKnown.mono (by omega)
  limit k reached := by
    have bound := h.limit k reached
    omega
  bound := h.bound
  renewed := h.renewed

theorem Timeline.fresh {starts ends starts' ends' : Trace}
    (pushedStart : (starts.push epoch first : Tx Error Trace) = .ok starts')
    (pushedEnd : (ends.push epoch last : Tx Error Trace) = .ok ends')
    (limit : last ≤ epoch + maxStakeEpochs) : Timeline c epoch starts' ends' where
  startsKnown := (within_push pushedStart).mono (by omega)
  endsKnown := (within_push pushedEnd).mono (by omega)
  limit k reached := by
    rw [lookup_push pushedEnd, if_pos reached]
    omega
  bound k reached := by
    rw [lookup_push pushedEnd, if_pos reached]
    omega
  renewed k reached := by
    rw [lookup_push pushedStart, lookup_push pushedStart, if_pos reached, if_pos (by omega)]
    exact .inl rfl

namespace SellerPools

variable {c : Nat} {s s' s'' : SellerPools}

/-- The windows of all positions in epoch `c`. -/
def Timed (c : Nat) (s : SellerPools) : Prop :=
  ∀ q, Timeline c (s.positions q).stakeStartEpoch (s.positionNormalStartEpoch q)
    (s.positionNormalEndEpoch q)

theorem Timed.mono {c' : Nat} (timed : Timed c s) (le : c ≤ c') : Timed c' s :=
  fun q => (timed q).mono le

/-- Nothing has happened to the windows. -/
structure SameWindows (s s' : SellerPools) : Prop extends SameHistories s s' where
  start : ∀ q, (s'.positions q).stakeStartEpoch = (s.positions q).stakeStartEpoch

theorem Trade.windows (trade : Trade s s') : SameWindows s s' where
  toSameHistories := trade.toSameHistories
  start q := by
    obtain ⟨_, same⟩ := trade.terms q
    rw [same]

variable {epoch first last q withdrawable : Nat} {amounts sources : List Nat} {position : Position}

theorem Ended.windows {withdrawn : Bool} (ended : Ended s s' q epoch withdrawn) : SameWindows s s' where
  toSameHistories := ended.same.toSameHistories
  start x := by
    obtain ⟨_, _, same⟩ := ended.terms x
    rw [same]

theorem SameWindows.trans (first : SameWindows s s') (second : SameWindows s' s'') :
    SameWindows s s'' where
  toSameHistories := first.toSameHistories.trans second.toSameHistories
  start q := (second.start q).trans (first.start q)

theorem SameWindows.timed (same : SameWindows s s') (timed : Timed c s) : Timed c s' := by
  intro q
  rw [same.start, same.starts, same.ends]
  exact timed q

theorem Closings.windows {window : Nat × Nat} (closings : Closings epoch window s s' sources) :
    SameWindows s s' := by
  induction closings with
  | nil => exact ⟨.refl _, fun _ => rfl⟩
  | cons carried _ ih => exact carried.toEnded.windows.trans ih

theorem Withdrawals.windows {positionIds : List Nat} {amounts : List (Nat × Nat)}
    (withdrawals : Withdrawals c s s' positionIds amounts) : SameWindows s s' := by
  induction withdrawals with
  | nil => exact ⟨.refl _, fun _ => rfl⟩
  | cons withdrawn _ ih => exact withdrawn.toEnded.windows.trans ih

theorem Closings.window {window : Nat × Nat} (closings : Closings epoch window s s' sources)
    (member : q ∈ sources) :
    (s.positionNormalStartEpoch q).upperLookupRecent epoch = window.1 ∧
      (s.positionNormalEndEpoch q).upperLookupRecent epoch = window.2 ∧ epoch < window.2 := by
  induction closings with
  | nil => cases member
  | cons carried closings ih =>
    rcases List.mem_cons.mp member with rfl | member
    · exact ⟨carried.begins, carried.ends, carried.running⟩
    · have same := carried.toEnded.windows
      rw [← same.starts, ← same.ends]
      exact ih member

theorem Gained.timed (gained : Gained s s' position first last withdrawable) (timed : Timed c s)
    (limit : last ≤ position.stakeStartEpoch + maxStakeEpochs) : Timed c s' := by
  intro q
  obtain ⟨starts, pushedStart, startsWritten⟩ := gained.starts
  obtain ⟨ends, pushedEnd, endsWritten⟩ := gained.ends
  rw [startsWritten, endsWritten]
  by_cases here : q = s.nextPositionId
  · subst here
    obtain ⟨_, same⟩ := gained.here
    rw [same, update_self, update_self]
    exact .fresh pushedStart pushedEnd limit
  · obtain ⟨_, same⟩ := gained.others q here
    rw [same, update_of_ne here, update_of_ne here]
    exact timed q

theorem Openings.timed (openings : Openings epoch window s s' amounts)
    (limit : window.2 ≤ epoch + maxStakeEpochs) (timed : Timed c s) : Timed c s' := by
  induction openings with
  | nil => exact timed
  | cons gained start _ _ ih => exact ih (gained.timed timed (start ▸ limit))

theorem Restructured.timed (restructured : Restructured c s s' sources count)
    (timed : Timed c s) : Timed c s' := by
  obtain ⟨epoch, window, closed, amounts, future, started, closings, openings, -, -⟩ :=
    restructured.account
  obtain ⟨q, member⟩ := List.exists_mem_of_ne_nil sources restructured.several
  obtain ⟨-, ends, -⟩ := closings.window member
  have reached := started q member
  have limit := (timed q).limit epoch reached
  exact openings.timed (by omega) (closings.windows.timed timed)

theorem Relocked.timed {starts ends locks : Trace} (relocked : Relocked s s' q starts ends locks)
    (timed : Timed c s) (timeline : Timeline c (s.positions q).stakeStartEpoch starts ends) :
    Timed c s' := by
  intro x
  obtain ⟨_, same⟩ := relocked.terms x
  rw [same, relocked.starts, relocked.ends]
  by_cases here : x = q
  · subst here
    rw [update_self, update_self]
    exact timeline
  · rw [update_of_ne here, update_of_ne here]
    exact timed x

theorem Relock.timed (relock : Relock c s s' q) (timed : Timed c s) : Timed c s' := by
  have before := timed q
  cases relock with
  | extended ends epoch stakeEndEpoch effective running later limit pushed relocked =>
    refine relocked.timed timed ⟨before.startsKnown, ?_, fun k reached => ?_,
      fun k reached => ?_, fun k reached => ?_⟩
    · exact (within_push pushed).mono (by omega)
    · rw [lookup_push pushed]
      split
      · omega
      · exact before.limit k reached
    · rw [lookup_push pushed]
      split
      · omega
      · exact before.bound k reached
    · rw [lookup_push pushed]
      split
      next beyond =>
        -- the new end is later than the one that was known from there on
        have known := lookup_const (before.endsKnown.mono (Nat.le_of_eq effective.symm)) beyond
        have renewed := before.renewed k reached
        omega
      · exact before.renewed k reached
  | enabled starts ends locks started pushedStart pushedEnd relocked =>
    refine relocked.timed timed ⟨?_, ?_, fun k reached => ?_, fun k reached => ?_, fun k reached => ?_⟩
    · exact (within_push pushedStart).mono (by omega)
    · exact (within_push pushedEnd).mono (by omega)
    · rw [lookup_push pushedEnd]
      split
      · exact Nat.zero_le _
      · exact before.limit k reached
    · rw [lookup_push pushedEnd]
      split
      · exact Nat.zero_le _
      · exact before.bound k reached
    · rw [lookup_push pushedStart, lookup_push pushedStart, lookup_push pushedEnd]
      by_cases beyond : c + 1 ≤ k + 1
      · rw [if_pos beyond]
        exact .inr (.inl rfl)
      · rw [if_neg beyond, if_neg beyond, if_neg (by omega)]
        exact before.renewed k reached
  | disabled starts ends locks locked pushedStart pushedEnd relocked =>
    refine relocked.timed timed ⟨?_, ?_, fun k reached => ?_, fun k reached => ?_, fun k reached => ?_⟩
    · exact (within_push pushedStart).mono (by omega)
    · exact (within_push pushedEnd).mono (by omega)
    · rw [lookup_push pushedEnd]
      split
      · omega
      · exact before.limit k reached
    · rw [lookup_push pushedEnd]
      split
      · omega
      · exact before.bound k reached
    · rw [lookup_push pushedStart, lookup_push pushedStart, lookup_push pushedEnd]
      -- the start moves in the epoch whose end is a full lock away, and not after it
      by_cases beyond : c + 1 ≤ k
      · rw [if_pos beyond, if_pos (by omega)]
        exact .inl rfl
      · by_cases here : c + 1 ≤ k + 1
        · rw [if_pos here, if_pos here]
          exact .inr (.inr (by omega))
        · rw [if_neg here, if_neg here, if_neg beyond]
          exact before.renewed k reached

theorem Restructures.timed
    (restructures : Restructures c s s' groups) (timed : Timed c s) : Timed c s' := by
  induction restructures with
  | nil => exact timed
  | cons one _ ih => exact ih (one.timed timed)

theorem Staked.timed (staked : Staked c s s' amount) (timed : Timed c s) :
    Timed c s' := by
  obtain ⟨position, stakeEndEpoch, gained, -, -, future, limit⟩ := staked
  exact gained.timed timed limit

theorem Performed.timed
    (performed : Performed self c call s ants s' ants') (timed : Timed c s) : Timed c s' := by
  obtain ⟨sender, identityOwnerOf, stakingAgentId, onERC721Received, op⟩ := call
  cases op with
  | stakeFor staker agentId amount stakeEpochs
  | stakeMintedReward => exact performed.1.timed timed
  | moveStake positionId toAgentId | moveStakes positionIds toAgentId
  | splitStake positionId splitAmount | mergeStakes positionIds => exact performed.1.timed timed
  | extendLock positionId additionalEpochs | enableMaxLock positionId
  | disableMaxLock => exact performed.1.timed timed
  | withdrawStake positionId | withdrawStakes positionIds =>
    obtain ⟨amounts, withdrawals, -⟩ := performed
    exact withdrawals.windows.timed timed
  | safeTransferFrom source target positionId | unguarded inner =>
    exact performed.1.windows.timed timed

/-- The window a position had in epoch `since`, with what was known of it then. -/
structure Legacy where
  since : Nat
  start : Nat
  starts : Trace
  ends : Trace
  timeline : Timeline since start starts ends
  begun : ∀ k, starts.upperLookupRecent k ≤ k

namespace Legacy

variable (legacy : Legacy)

/-- The epoch after which nothing in the old window changes any more. -/
def settled : Nat := max (legacy.since + 1) legacy.start

variable {legacy}

theorem starts_const (late : legacy.settled ≤ epoch) (after : epoch ≤ k) :
    legacy.starts.upperLookupRecent k = legacy.starts.upperLookupRecent epoch :=
  lookup_const (legacy.timeline.startsKnown.mono late) after

theorem ends_const (late : legacy.settled ≤ epoch) (after : epoch ≤ k) :
    legacy.ends.upperLookupRecent k = legacy.ends.upperLookupRecent epoch :=
  lookup_const (legacy.timeline.endsKnown.mono late) after

end Legacy

/-- A window that begins and ends no earlier than the old one, whenever it is not max-locked.
    Replacements cannot be withdrawn before they start. -/
structure Heir (legacy : Legacy) (s : SellerPools) (d : Nat) : Prop where
  known : d < s.nextPositionId
  start : legacy.start ≤ (s.positions d).stakeStartEpoch
  later : ∀ k, legacy.since ≤ k → (s.positions d).stakeStartEpoch ≤ k →
    (s.positionNormalEndEpoch d).upperLookupRecent k ≠ 0 →
      legacy.starts.upperLookupRecent k ≤ (s.positionNormalStartEpoch d).upperLookupRecent k ∧
      legacy.ends.upperLookupRecent k ≤ (s.positionNormalEndEpoch d).upperLookupRecent k
  due : (s.positions d).stakeStartEpoch = legacy.start ∨
    (s.positions d).stakeStartEpoch ≤ s.positionWithdrawableEpoch d

variable {legacy : Legacy} {d : Nat}

theorem SameWindows.heir (same : SameWindows s s') (heir : Heir legacy s d) : Heir legacy s' d := by
  obtain ⟨known, start, later, due⟩ := heir
  refine ⟨same.next ▸ known, ?_, ?_, ?_⟩
  · rw [same.start]
    exact start
  · rw [same.start, same.starts, same.ends]
    exact later
  · rw [same.start, same.withdrawable]
    exact due

theorem Gained.heir (gained : Gained s s' position first last withdrawable) (heir : Heir legacy s d) :
    Heir legacy s' d := by
  obtain ⟨known, start, later, due⟩ := heir
  have other : d ≠ s.nextPositionId := Nat.ne_of_lt known
  obtain ⟨_, same⟩ := gained.others d other
  obtain ⟨starts, -, startsWritten⟩ := gained.starts
  obtain ⟨ends, -, endsWritten⟩ := gained.ends
  refine ⟨?_, ?_, ?_, ?_⟩
  · rw [gained.next]
    omega
  · rw [same]
    exact start
  · rw [same, startsWritten, endsWritten, update_of_ne other, update_of_ne other]
    exact later
  · rw [same, gained.withdrawable, update_of_ne other]
    exact due

theorem Gained.heir_born (gained : Gained s s' position first last withdrawable)
    (late : legacy.settled ≤ position.stakeStartEpoch)
    (begins : legacy.starts.upperLookupRecent position.stakeStartEpoch ≤ first)
    (ends : legacy.ends.upperLookupRecent position.stakeStartEpoch ≤ last)
    (due : withdrawable = position.stakeStartEpoch) : Heir legacy s' s.nextPositionId := by
  obtain ⟨_, same⟩ := gained.here
  obtain ⟨startTrace, pushedStart, startsWritten⟩ := gained.starts
  obtain ⟨endTrace, pushedEnd, endsWritten⟩ := gained.ends
  refine ⟨?_, ?_, fun k _ reached _ => ?_, ?_⟩
  · rw [gained.next]
    exact Nat.lt_succ_self _
  · rw [same]
    unfold Legacy.settled at late
    show legacy.start ≤ position.stakeStartEpoch
    omega
  · rw [same] at reached
    rw [startsWritten, endsWritten, update_self, update_self, lookup_push pushedStart,
      lookup_push pushedEnd, if_pos reached, if_pos reached,
      Legacy.starts_const late reached, Legacy.ends_const late reached]
    exact ⟨begins, ends⟩
  · rw [same, gained.withdrawable, update_self, due]
    exact .inr (Nat.le_refl _)

section

variable (openings : Openings epoch window s s' amounts)

include openings

theorem Openings.heir
    (heir : Heir legacy s d) : Heir legacy s' d := by
  induction openings with
  | nil => exact heir
  | cons gained _ _ _ ih => exact ih (gained.heir heir)

theorem Openings.heirs_born
    (late : legacy.settled ≤ epoch) (begins : legacy.starts.upperLookupRecent epoch ≤ window.1)
    (ends : legacy.ends.upperLookupRecent epoch ≤ window.2)
    (born : d ∈ List.range' s.nextPositionId amounts.length) : Heir legacy s' d := by
  induction openings with
  | nil => cases born
  | cons gained start _ openings ih =>
    rw [List.length_cons, List.range'_succ] at born
    rcases List.mem_cons.mp born with rfl | born
    · exact openings.heir (gained.heir_born (start ▸ late) (start ▸ begins) (start ▸ ends) start.symm)
    · exact ih (gained.next ▸ born)

theorem Openings.next :
    s'.nextPositionId = s.nextPositionId + amounts.length := by
  induction openings with
  | nil => rfl
  | cons gained _ _ _ ih =>
    rw [ih, gained.next, List.length_cons]
    omega

end

theorem Relock.heir (relock : Relock c s s' q) (timed : Timed c s)
    (started : (s.positionMaxLockPower q).upperLookupRecent (c + 1) ≠ 0 →
      (s.positions q).stakeStartEpoch ≤ c + 1) (since : legacy.since ≤ c) (heir : Heir legacy s d) :
    Heir legacy s' d := by
  obtain ⟨known, start, later, due⟩ := heir
  have carry : ∀ {starts ends locks : Trace}, Relocked s s' q starts ends locks →
      (∀ k, legacy.since ≤ k → (s.positions q).stakeStartEpoch ≤ k → d = q →
        ends.upperLookupRecent k ≠ 0 →
        legacy.starts.upperLookupRecent k ≤ starts.upperLookupRecent k ∧
        legacy.ends.upperLookupRecent k ≤ ends.upperLookupRecent k) → Heir legacy s' d := by
    intro starts ends locks relocked here
    obtain ⟨_, same⟩ := relocked.terms d
    refine ⟨relocked.next ▸ known, same ▸ start, ?_, ?_⟩
    · rw [same, relocked.starts, relocked.ends]
      by_cases isHere : d = q
      · subst isHere
        rw [update_self, update_self]
        exact fun k after reached => here k after reached rfl
      · rw [update_of_ne isHere, update_of_ne isHere]
        exact later
    · rw [same, relocked.withdrawable]
      exact due
  cases relock with
  | extended ends epoch stakeEndEpoch effective running later' limit pushed relocked =>
    refine carry relocked fun k after reached isHere ending => ?_
    subst isHere
    rw [lookup_push pushed] at ending ⊢
    split
    next beyond =>
      obtain ⟨begins, ends⟩ := later epoch (by omega) (by omega) running
      have late : legacy.settled ≤ epoch := by
        unfold Legacy.settled
        omega
      rw [Legacy.starts_const late beyond, Legacy.ends_const late beyond,
        lookup_const ((timed d).startsKnown.mono (Nat.le_of_eq effective.symm)) beyond]
      exact ⟨begins, by omega⟩
    next earlier =>
      rw [if_neg earlier] at ending
      exact later k after reached ending
  | enabled starts ends locks started' pushedStart pushedEnd relocked =>
    refine carry relocked fun k after reached isHere ending => ?_
    subst isHere
    rw [lookup_push pushedEnd] at ending ⊢
    split at ending
    · exact absurd rfl ending
    next earlier =>
      rw [lookup_push pushedStart, if_neg earlier, if_neg earlier]
      exact later k after reached ending
  | disabled starts ends locks locked pushedStart pushedEnd relocked =>
    refine carry relocked fun k after reached isHere ending => ?_
    subst isHere
    rw [lookup_push pushedEnd] at ending
    rw [lookup_push pushedStart, lookup_push pushedEnd]
    split
    next beyond =>
      have late : legacy.settled ≤ c + 1 := by
        unfold Legacy.settled
        omega
      rw [Legacy.starts_const (Nat.le_refl legacy.settled) (by omega)]
      have old := legacy.begun legacy.settled
      have limit := legacy.timeline.limit k (by omega)
      exact ⟨by omega, by omega⟩
    next earlier =>
      rw [if_neg earlier] at ending
      exact later k after reached ending

end SellerPools

/-- A family after the groups have been replaced: the replacements of a member belong to it.
    Replacements get the next free numbers, one group after another. -/
def familyAfter : Nat → List Nat → List (List Nat × Nat) → List Nat
  | _, family, [] => family
  | next, family, (sources, count) :: rest =>
    familyAfter (next + count)
      (if sources.any fun q => q ∈ family then family ++ List.range' next count else family) rest

def Event.family (next : Nat) (family : List Nat) : Event → List Nat
  | .call made => familyAfter next family made.op.restructures
  | _ => family

/-- The positions that descend from a family over a run. -/
def descendants (self : Address) : State → List Nat → List Event → List Nat
  | _, family, [] => family
  | s, family, event :: rest =>
    match step self s event with
    | .ok s' => descendants self s' (event.family s.pools.nextPositionId family) rest
    | .error _ => descendants self s family rest

namespace SellerPools

variable {c : Nat} {s s' s'' : SellerPools} {legacy : Legacy}

/-- All members of a family have later windows. -/
def Heirs (legacy : Legacy) (s : SellerPools) (family : List Nat) : Prop :=
  ∀ d ∈ family, Heir legacy s d

theorem Restructured.heirs
    (restructured : Restructured c s s' sources count) (since : legacy.since ≤ c)
    (heirs : Heirs legacy s family) :
    s'.nextPositionId = s.nextPositionId + count ∧
      Heirs legacy s' (if sources.any fun q => q ∈ family then
        family ++ List.range' s.nextPositionId count else family) := by
  obtain ⟨epoch, window, closed, amounts, future, started, closings, openings, rfl, -⟩ :=
    restructured.account
  have same := closings.windows
  have old : Heirs legacy s' family := fun d member => openings.heir (same.heir (heirs d member))
  refine ⟨by rw [openings.next, same.next], ?_⟩
  split
  next related =>
    obtain ⟨q, isSource, member⟩ := List.any_eq_true.mp related
    have heir := heirs q (by simpa using member)
    obtain ⟨begins, ends, running⟩ := closings.window isSource
    have reached := started q isSource
    have late : legacy.settled ≤ epoch := by
      have start := heir.start
      unfold Legacy.settled
      omega
    have window' := heir.later epoch (by omega) reached (by omega)
    rw [begins, ends] at window'
    intro d isMember
    rcases List.mem_append.mp isMember with before | born
    · exact old d before
    · exact openings.heirs_born late window'.1 window'.2 (same.next ▸ born)
  · exact old

theorem Restructures.heirs
    (restructures : Restructures c s s' groups) (since : legacy.since ≤ c)
    (heirs : Heirs legacy s family) :
    Heirs legacy s' (familyAfter s.nextPositionId family groups) := by
  induction restructures generalizing family with
  | nil => exact heirs
  | cons one _ ih =>
    obtain ⟨next, heirs'⟩ := one.heirs since heirs
    have rest := ih heirs'
    rw [next] at rest
    exact rest

theorem Performed.heirs
    (performed : Performed self c call s ants s' ants') (timed : Timed c s) (sound : Sound c s)
    (since : legacy.since ≤ c) (heirs : Heirs legacy s family) :
    Heirs legacy s' (familyAfter s.nextPositionId family call.op.restructures) := by
  have started : ∀ q, (s.positionMaxLockPower q).upperLookupRecent (c + 1) ≠ 0 →
      (s.positions q).stakeStartEpoch ≤ c + 1 := by
    intro q locked
    rcases (sound.terms q).locked (c + 1) with none | ⟨-, reached⟩
    · exact absurd none locked
    · exact reached
  obtain ⟨sender, identityOwnerOf, stakingAgentId, onERC721Received, op⟩ := call
  cases op with
  | stakeFor staker agentId amount stakeEpochs
  | stakeMintedReward =>
    obtain ⟨⟨position, stakeEndEpoch, gained, -⟩, -⟩ := performed
    exact fun d member => gained.heir (heirs d member)
  | moveStake positionId toAgentId | moveStakes positionIds toAgentId
  | splitStake positionId splitAmount | mergeStakes positionIds =>
    exact performed.1.heirs since heirs
  | extendLock positionId additionalEpochs | enableMaxLock positionId
  | disableMaxLock =>
    exact fun d member => performed.1.heir timed (started _) since (heirs d member)
  | withdrawStake positionId | withdrawStakes positionIds =>
    obtain ⟨amounts, withdrawals, -⟩ := performed
    exact fun d member => withdrawals.windows.heir (heirs d member)
  | safeTransferFrom source target positionId | unguarded inner =>
    exact fun d member => performed.1.windows.heir (heirs d member)

end SellerPools

/-- What holds of every reachable state of the pools. -/
structure Intact (s : State) : Prop where
  tidy : s.pools.Tidy
  sound : Sound s
  timed : s.pools.Timed s.epoch

variable {self : Address}

theorem step_intact (intact : Intact s)
    (taken : step self s event = .ok s') : Intact s' ∧ s.epoch ≤ s'.epoch := by
  obtain ⟨tidy, done⟩ := (step_performs intact.tidy intact.sound.timely event).result taken
  have sound := step_sound intact.sound taken
  rcases done with ⟨call, -, epoch, -, performed⟩ | ⟨-, same⟩
  · exact ⟨⟨tidy, sound, epoch ▸ performed.timed intact.timed⟩, Nat.le_of_eq epoch.symm⟩
  · have later := step_epoch intact.sound taken
    exact ⟨⟨tidy, sound, same ▸ intact.timed.mono later⟩, later⟩

theorem intact_deployed (owner stakingSource : Address) : Intact (deployed owner stakingSource) where
  tidy := SellerPools.tidy_deployed owner stakingSource
  sound := ⟨SellerPools.sound_deployed owner stakingSource, Nat.two_pow_pos 64⟩
  timed _ := ⟨within_empty _, within_empty _, fun _ _ => Nat.zero_le _,
    fun _ _ => Nat.zero_le _, fun _ _ => .inl rfl⟩

theorem run_intact (intact : Intact s) (events : List Event) :
    Intact ((machine self).run s events) :=
  (machine self).run_invariant (fun _ _ _ intact taken => (step_intact intact taken).1) intact events

theorem heirs_descendants (self : Address)
    (intact : Intact s) (since : legacy.since ≤ s.epoch)
    (heirs : s.pools.Heirs legacy family) (events : List Event) :
    SellerPools.Heirs legacy ((machine self).run s events).pools (descendants self s family events) := by
  induction events generalizing s family with
  | nil => exact heirs
  | cons event rest ih =>
    rw [Machine.run_cons]
    unfold descendants
    cases taken : step self s event with
    | error =>
      have skipped : (machine self).exec s event = s := by simp [Machine.exec, machine, taken]
      rw [skipped]
      exact ih intact since heirs
    | ok s' =>
      have moved : (machine self).exec s event = s' := (machine self).exec_eq_of_step taken
      rw [moved]
      obtain ⟨intact', later⟩ := step_intact intact taken
      refine ih intact' (by omega) ?_
      have done := (step_performs intact.tidy intact.sound.timely event).result taken
      rcases done.2 with ⟨call, rfl, -, -, performed⟩ | ⟨none, same⟩
      · exact performed.heirs intact.timed intact.sound.pools since heirs
      · rw [same]
        cases event with
        | call call => exact absurd rfl (none call)
        | _ => exact heirs

end AntSeed.Pools
