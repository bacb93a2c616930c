import AntSeed.Pools.Heirs

/-! # No early-exit slash evasion

What an early exit costs at an epoch is a function of the window read there, and
it grows with both ends of the window. So the family of a position never leaves
for less than the position itself would have, and a replacement cannot leave in
the epoch it was made in.
-/

namespace AntSeed.Pools

open Evm Function
open Nat

def windowSlashBps (maxSlashBps minSlashBps normalStartEpoch normalEndEpoch epoch : Nat) : Nat :=
  if normalStartEpoch = 0 ∨ normalEndEpoch ≤ epoch then 0
  else max minSlashBps (maxSlashBps * (normalEndEpoch - epoch) / (normalEndEpoch - normalStartEpoch))

theorem remaining_le {total begins ends begins' ends' epoch : Nat} (later : begins ≤ begins')
    (longer : ends ≤ ends') (begun : begins' ≤ epoch) (running : epoch < ends) :
    total * (ends - epoch) / (ends - begins) ≤ total * (ends' - epoch) / (ends' - begins') := by
  generalize isPart : total * (ends - epoch) / (ends - begins) = part
  rw [le_div_iff_mul_le (by omega)]
  have part_le : part * (ends - begins) ≤ total * (ends - epoch) := by
    rw [← isPart]
    exact div_mul_le_self _ _
  -- with `ends = epoch + rest` and `epoch = begins + gone` both sides are products of sums
  obtain ⟨rest, rfl⟩ : ∃ rest, ends = epoch + rest := ⟨ends - epoch, by omega⟩
  obtain ⟨rest', rfl⟩ : ∃ rest', ends' = epoch + rest' := ⟨ends' - epoch, by omega⟩
  obtain ⟨gone, rfl⟩ : ∃ gone, epoch = begins' + gone := ⟨epoch - begins', by omega⟩
  obtain ⟨more, rfl⟩ : ∃ more, begins' = begins + more := ⟨begins' - begins, by omega⟩
  have width : begins + more + gone + rest - begins = more + gone + rest := by omega
  have left : begins + more + gone + rest - (begins + more + gone) = rest := by omega
  have width' : begins + more + gone + rest' - (begins + more) = gone + rest' := by omega
  have left' : begins + more + gone + rest' - (begins + more + gone) = rest' := by omega
  rw [width, left] at part_le
  rw [width', left']
  have shrinks : rest ≤ rest' := by omega
  have positive : 0 < rest := by omega
  refine le_of_mul_le_mul_right ?_ positive
  calc part * (gone + rest') * rest
      = part * gone * rest + part * rest' * rest := by ring
    _ ≤ part * gone * rest' + part * more * rest' + part * rest' * rest := by
        have := mul_le_mul_left (part * gone) shrinks
        omega
    _ = part * (more + gone + rest) * rest' := by ring
    _ ≤ total * rest * rest' := mul_le_mul_right _ part_le
    _ = total * rest' * rest := by ring

theorem windowSlashBps_mono {maxSlashBps minSlashBps begins ends begins' ends' epoch : Nat}
    (later : begins ≤ begins') (longer : ends ≤ ends') (begun : begins' ≤ epoch) :
    windowSlashBps maxSlashBps minSlashBps begins ends epoch ≤
      windowSlashBps maxSlashBps minSlashBps begins' ends' epoch := by
  unfold windowSlashBps
  split
  · exact zero_le _
  next running =>
    rw [if_neg (by omega)]
    exact max_le_max (le_refl _) (remaining_le later longer begun (by omega))

namespace SellerPools

variable {c : Nat} {s s' : SellerPools}

/-- The slash that `withdrawPosition` applies in an epoch. -/
def exitSlashBps (s : SellerPools) (positionId epoch : Nat) : Tx Error Nat :=
  let position := s.positions positionId
  let closeEpoch := if epoch < position.stakeStartEpoch then position.stakeStartEpoch else epoch
  let normalEndEpoch := (s.positionNormalEndEpoch positionId).upperLookupRecent closeEpoch
  if closeEpoch < normalEndEpoch then s.earlyExitSlashBpsAt positionId closeEpoch else pure 0

theorem earlyExitSlashBpsAt_eq (bounded : s.Bounded)
    (begun : (s.positionNormalStartEpoch q).upperLookupRecent epoch ≤ epoch)
    (inside : (s.positionNormalEndEpoch q).upperLookupRecent epoch < 2 ^ 128) :
    s.earlyExitSlashBpsAt q epoch = .ok (windowSlashBps s.maxSlashBps s.minEarlyExitSlashBps
      ((s.positionNormalStartEpoch q).upperLookupRecent epoch)
      ((s.positionNormalEndEpoch q).upperLookupRecent epoch) epoch) := by
  unfold earlyExitSlashBpsAt windowSlashBps
  generalize (s.positionNormalStartEpoch q).upperLookupRecent epoch = begins at *
  generalize (s.positionNormalEndEpoch q).upperLookupRecent epoch = ends at *
  dsimp only
  by_cases spent : begins = 0 ∨ ends ≤ epoch
  · rw [if_pos spent, if_pos (by omega)]
    rfl
  · have original : (sub ends begins : Tx Error Nat) = .ok (ends - begins) :=
      sub_eq_ok.mpr ⟨by omega, rfl⟩
    have remaining : (sub ends epoch : Tx Error Nat) = .ok (ends - epoch) :=
      sub_eq_ok.mpr ⟨by omega, rfl⟩
    have slash := bounded.slash
    have small : s.maxSlashBps * (ends - epoch) < 2 ^ 256 := by
      calc s.maxSlashBps * (ends - epoch)
          ≤ 10000 * 2 ^ 128 := Nat.mul_le_mul slash (by omega)
        _ < 2 ^ 256 := by decide
    have quotient : (div (s.maxSlashBps * (ends - epoch)) (ends - begins) : Tx Error Nat) =
        .ok (s.maxSlashBps * (ends - epoch) / (ends - begins)) :=
      div_eq_ok.mpr ⟨by omega, rfl⟩
    have part : s.maxSlashBps * (ends - epoch) / (ends - begins) ≤ s.maxSlashBps :=
      Nat.div_le_of_le_mul (Nat.mul_comm _ _ ▸ Nat.mul_le_mul_right _ (by omega))
    rw [if_neg spent, if_neg (by omega), original, ok_bind, if_neg (by omega), remaining, ok_bind,
      uint_fits small, ok_bind, quotient, ok_bind]
    congr 1
    split
    · omega
    · split <;> omega

theorem exitAmounts_slash
    (h : s.exitAmounts q epoch normalEndEpoch amount = .ok amounts) :
    ∃ slashBps, (if epoch < normalEndEpoch then s.earlyExitSlashBpsAt q epoch else pure 0) =
      .ok slashBps ∧ amounts.2 = amount * slashBps / bpsDenominator := by
  unfold exitAmounts at h
  split at h
  next running =>
    obtain ⟨slashBps, slash, h⟩ := ran h
    replace h := uint_rest h
    obtain ⟨returned, -, h⟩ := ran h
    cases h
    rw [if_pos running]
    exact ⟨slashBps, slash, rfl⟩
  next spent =>
    cases h
    rw [if_neg spent]
    exact ⟨0, rfl, by simp⟩

theorem withdrawPosition_slash
    (h : s.withdrawPosition q staker epoch = .ok (s', amounts)) :
    s.positionWithdrawableEpoch q ≤ epoch ∧
    (s.positionNormalEndEpoch q).upperLookupRecent (max epoch (s.positions q).stakeStartEpoch) ≠ 0 ∧
    ∃ slashBps, s.exitSlashBps q epoch = .ok slashBps ∧
      amounts.2 = (s.positions q).amount * slashBps / bpsDenominator := by
  replace h := rest_ok h
  replace h := rest_ok h
  replace h := rest_ok h
  obtain ⟨_, due, h⟩ := ran h
  replace h := rest_ok h
  obtain ⟨nextEpoch, -, h⟩ := ran h
  replace h := rest_ok h
  obtain ⟨_, ending, h⟩ := ran h
  replace h := rest_ok h
  obtain ⟨removed, removing, h⟩ := ran h
  obtain ⟨decreased, decreasing, h⟩ := ran h
  obtain ⟨paid, exit, h⟩ := ran h
  obtain ⟨burned, -, h⟩ := ran h
  cases h
  rw [require_eq_ok] at due ending
  have only := (removed_spec removing).1
  have booked := booked_decreaseActiveStake decreasing
  rw [only] at booked
  have close : (if epoch < (s.positions q).stakeStartEpoch then (s.positions q).stakeStartEpoch
      else epoch) = max epoch (s.positions q).stakeStartEpoch := by
    split <;> omega
  obtain ⟨slashBps, slash, amount⟩ := exitAmounts_slash exit
  rw [booked] at slash
  exact ⟨due, close ▸ ending, slashBps, slash, amount⟩

theorem exitSlashBps_eq (tidy : s.Tidy) (timed : Timed c s) (q epoch : Nat)
    (early : c < 2 ^ 64) (dated : (s.positions q).stakeStartEpoch < 2 ^ 64) :
    s.exitSlashBps q epoch = .ok (windowSlashBps s.maxSlashBps s.minEarlyExitSlashBps
      ((s.positionNormalStartEpoch q).upperLookupRecent (max epoch (s.positions q).stakeStartEpoch))
      ((s.positionNormalEndEpoch q).upperLookupRecent (max epoch (s.positions q).stakeStartEpoch))
      (max epoch (s.positions q).stakeStartEpoch)) := by
  have close : (if epoch < (s.positions q).stakeStartEpoch then (s.positions q).stakeStartEpoch
      else epoch) = max epoch (s.positions q).stakeStartEpoch := by
    split <;> omega
  have limit := (timed q).limit (max epoch (s.positions q).stakeStartEpoch) (by omega)
  unfold maxStakeEpochs at limit
  unfold exitSlashBps
  dsimp only
  rw [close]
  split
  · exact earlyExitSlashBpsAt_eq tidy.bounded (tidy.begun q _) (by omega)
  next spent =>
    unfold windowSlashBps
    rw [if_pos (by omega)]
    rfl

/-- Positions keep the epoch they wait for. -/
structure Lasting (s s' : SellerPools) : Prop where
  next : s.nextPositionId ≤ s'.nextPositionId
  same : ∀ x, x < s.nextPositionId →
    s'.positionWithdrawableEpoch x = s.positionWithdrawableEpoch x

/-- All new positions wait until after epoch `c`. -/
structure Delayed (c : Nat) (s s' : SellerPools) : Prop extends Lasting s s' where
  waits : ∀ x, s.nextPositionId ≤ x → x < s'.nextPositionId → c < s'.positionWithdrawableEpoch x

variable {s'' : SellerPools}

theorem Lasting.refl (s : SellerPools) : Lasting s s := ⟨le_refl _, fun _ _ => rfl⟩

theorem Lasting.trans (first : Lasting s s') (second : Lasting s' s'') : Lasting s s'' where
  next := le_trans first.next second.next
  same x before :=
    (second.same x (lt_of_lt_of_le before first.next)).trans (first.same x before)

theorem Delayed.trans (first : Delayed c s s') (second : Delayed c s' s'') : Delayed c s s'' where
  toLasting := first.toLasting.trans second.toLasting
  waits x low high := by
    by_cases early : x < s'.nextPositionId
    · rw [second.same x early]
      exact first.waits x low early
    · exact second.waits x (Nat.le_of_not_lt early) high

theorem SameWindows.delayed (same : SameWindows s s') : Delayed c s s' where
  next := le_of_eq same.next.symm
  same x _ := by rw [same.withdrawable]
  waits x low high := by
    rw [same.next] at high
    omega

theorem Gained.lasting {first last withdrawable : Nat}
    (gained : Gained s s' position first last withdrawable) : Lasting s s' where
  next := by
    rw [gained.next]
    exact le_succ _
  same x before := by rw [gained.withdrawable, update_of_ne (Nat.ne_of_lt before)]

theorem Openings.delayed {epoch : Nat} {window : Nat × Nat} {amounts : List Nat}
    (openings : Openings epoch window s s' amounts) (future : c < epoch) : Delayed c s s' := by
  induction openings with
  | nil => exact ⟨.refl _, fun x low high => by omega⟩
  | cons gained _ _ _ ih =>
    refine Delayed.trans ⟨gained.lasting, fun x low high => ?_⟩ ih
    rw [gained.next] at high
    have isNext := le_antisymm (le_of_lt_succ high) low
    rw [isNext, gained.withdrawable, update_self]
    exact future

theorem Restructures.delayed (restructures : Restructures c s s' groups) : Delayed c s s' := by
  induction restructures with
  | nil => exact ⟨.refl _, fun x low high => by omega⟩
  | cons one _ ih =>
    obtain ⟨epoch, window, closed, amounts, future, -, closings, openings, -, -⟩ := one.account
    exact (closings.windows.delayed.trans (openings.delayed future)).trans ih

theorem Performed.lasting
    (performed : Performed self c call s ants s' ants') :
    Lasting s s' ∧ (call.op.restructures ≠ [] → Delayed c s s') := by
  obtain ⟨sender, identityOwnerOf, stakingAgentId, onERC721Received, op⟩ := call
  cases op with
  | stakeFor staker agentId amount stakeEpochs
  | stakeMintedReward =>
    obtain ⟨⟨position, stakeEndEpoch, gained, -⟩, -⟩ := performed
    exact ⟨gained.lasting, fun some => absurd rfl some⟩
  | moveStake positionId toAgentId | moveStakes positionIds toAgentId
  | splitStake positionId splitAmount | mergeStakes positionIds =>
    have delayed := performed.1.delayed
    exact ⟨delayed.toLasting, fun _ => delayed⟩
  | extendLock positionId additionalEpochs | enableMaxLock positionId
  | disableMaxLock =>
    obtain ⟨_, _, _, relocked⟩ := performed.1.relocked
    exact ⟨⟨le_of_eq relocked.next.symm, fun x _ => by rw [relocked.withdrawable]⟩,
      fun some => absurd rfl some⟩
  | withdrawStake positionId | withdrawStakes positionIds =>
    obtain ⟨amounts, withdrawals, -⟩ := performed
    exact ⟨(withdrawals.windows.delayed (c := c)).toLasting, fun some => absurd rfl some⟩
  | safeTransferFrom source target positionId | unguarded inner =>
    exact ⟨(performed.1.windows.delayed (c := c)).toLasting, fun some => absurd rfl some⟩

end SellerPools

theorem step_lasting (intact : Intact s)
    (taken : step self s event = .ok s') : s.epoch ≤ s'.epoch ∧ s.pools.Lasting s'.pools := by
  refine ⟨(step_intact intact taken).2, ?_⟩
  have done := (step_performs intact.tidy intact.sound.timely event).result taken
  rcases done.2 with ⟨call, -, -, -, performed⟩ | ⟨-, same⟩
  · exact performed.lasting.1
  · rw [same]
    exact .refl _

theorem run_lasting (self : Address) (intact : Intact s) (events : List Event) :
    s.epoch ≤ ((machine self).run s events).epoch ∧
      s.pools.Lasting ((machine self).run s events).pools :=
  (machine self).run_progress (I := Intact) (R := fun a b => a.epoch ≤ b.epoch ∧ a.pools.Lasting b.pools)
    (fun _ => ⟨le_refl _, .refl _⟩)
    (fun first second => ⟨le_trans first.1 second.1, first.2.trans second.2⟩)
    (fun _ _ _ intact taken => (step_intact intact taken).1)
    (fun _ _ _ intact taken => step_lasting intact taken) intact events

/-- However a position and what comes of it are extended, max-locked, moved, split, merged or
    transferred: with the same slash settings, a descendant that can be withdrawn at an epoch is
    slashed there by at least what the position would have been without these operations. And a
    position made by moving, splitting or merging cannot be withdrawn in the epoch it was made in. -/
theorem no_slash_evasion (self owner stakingSource : Address) (before : List Event) :
    let s := run self owner stakingSource before
    (∀ p after, (s.pools.positions p).owner ≠ 0 → (s.pools.positions p).closedAtEpoch = 0 →
      let s' := (machine self).run s after
      s'.pools.maxSlashBps = s.pools.maxSlashBps →
      s'.pools.minEarlyExitSlashBps = s.pools.minEarlyExitSlashBps →
      ∀ d ∈ descendants self s [p] after, ∀ staker closed amounts,
        s'.pools.withdrawPosition d staker s'.epoch = .ok (closed, amounts) →
        ∃ slashBps slashBps', s.pools.exitSlashBps p s'.epoch = .ok slashBps ∧
          s'.pools.exitSlashBps d s'.epoch = .ok slashBps' ∧
          amounts.2 = (s'.pools.positions d).amount * slashBps' / bpsDenominator ∧
          slashBps ≤ slashBps') ∧
    ∀ call s' after, call.op.restructures ≠ [] → step self s (.call call) = .ok s' →
      let s'' := (machine self).run s' after
      s''.epoch = s.epoch → ∀ d, s.pools.nextPositionId ≤ d → d < s'.pools.nextPositionId →
        ∀ staker result, s''.pools.withdrawPosition d staker s''.epoch ≠ .ok result := by
  intro s
  have intact : Intact s := run_intact (intact_deployed owner stakingSource) before
  constructor
  · intro p after present _ s' sameMax sameMin d member staker closed amounts withdrawn
    have intact' : Intact s' := run_intact intact after
    have later : s.epoch ≤ s'.epoch := (run_lasting self intact after).1
    let legacy : SellerPools.Legacy :=
      { since := s.epoch
        start := (s.pools.positions p).stakeStartEpoch
        starts := s.pools.positionNormalStartEpoch p
        ends := s.pools.positionNormalEndEpoch p
        timeline := intact.timed p
        begun := intact.tidy.begun p }
    have itself : s.pools.Heirs legacy [p] := by
      intro q isMember
      rw [List.mem_singleton.mp isMember]
      exact ⟨intact.sound.pools.known present, le_refl _,
        fun _ _ _ _ => ⟨le_refl _, le_refl _⟩, .inl rfl⟩
    have heir := heirs_descendants self intact (le_refl _) itself after d member
    obtain ⟨due, ending, slashBps', slash, amount⟩ := SellerPools.withdrawPosition_slash withdrawn
    have start : (s.pools.positions p).stakeStartEpoch ≤ (s'.pools.positions d).stakeStartEpoch :=
      heir.start
    -- both are closed in the same epoch: a replacement waits until it has started
    have close : max s'.epoch (s.pools.positions p).stakeStartEpoch =
        max s'.epoch (s'.pools.positions d).stakeStartEpoch := by
      rcases heir.due with same | waited
      · rw [same]
      · have waited' : (s'.pools.positions d).stakeStartEpoch ≤
          s'.pools.positionWithdrawableEpoch d := waited
        omega
    have old := SellerPools.exitSlashBps_eq intact.tidy intact.timed p s'.epoch
      intact.sound.timely (intact.sound.pools.stamped p)
    have new := SellerPools.exitSlashBps_eq intact'.tidy intact'.timed d s'.epoch
      intact'.sound.timely (intact'.sound.pools.stamped d)
    obtain ⟨begins, ends⟩ := heir.later (max s'.epoch (s'.pools.positions d).stakeStartEpoch)
      (le_trans later (le_max_left _ _)) (le_max_right _ _) ending
    rw [new] at slash
    cases slash
    refine ⟨_, _, old, new, amount, ?_⟩
    rw [sameMax, sameMin, close]
    exact windowSlashBps_mono begins ends (intact'.tidy.begun d _)
  · intro call s' after restructures taken s'' sameEpoch d low high staker result withdrawn
    have intact' : Intact s' := (step_intact intact taken).1
    have lasting := (run_lasting self intact' after).2
    have done := (step_performs intact.tidy intact.sound.timely _).result taken
    obtain ⟨closed, amounts⟩ := result
    have due := (SellerPools.withdrawPosition_slash withdrawn).1
    rcases done.2 with ⟨call', isCall, -, -, performed⟩ | ⟨none, -⟩
    · cases isCall
      have waits := (performed.lasting.2 restructures).waits d low high
      have same : s''.pools.positionWithdrawableEpoch d = s'.pools.positionWithdrawableEpoch d :=
        lasting.same d high
      omega
    · exact none call rfl

end AntSeed.Pools
