import AntSeed.Pools.Bookkeeping

/-! # What the calls do to positions

Every call opens, closes or rewrites positions one after another. Each has its own
account of that here, in terms of the positions alone, and none of them can be
stopped by the bookkeeping of a live position.
-/

namespace AntSeed.Pools

open Evm Function
open Meets

namespace SellerPools

variable {s s' s'' : SellerPools}

variable {epoch q : Nat} {sender staker : Address} {agentId : Word} {ctx : Context}
  {window : Nat × Nat} {positionIds : List Nat} {withdrawn : Bool}

theorem requirePositionOwner_meets :
    Meets (s.requirePositionOwner sender q) Orderly fun _ =>
      s.nft.owners q = sender ∧ sender ≠ 0 := by
  unfold requirePositionOwner
  apply check (orderly_custom _)
  unfold ownerOf Erc721.requireOwned
  by_cases none : s.nft.owners q = 0
  · rw [if_pos none]
    exact ⟨nofun, nofun⟩
  · rw [if_neg none]
    exact .ite (fun same => ⟨same, same ▸ none⟩) fun _ => orderly_custom _

theorem requireRegisteredSellerAgent_meets :
    Meets (s.requireRegisteredSellerAgent ctx agentId) Orderly fun _ => True := by
  apply check (orderly_custom _)
  cases ctx.identityOwnerOf agentId with
  | none => exact orderly_custom _
  | some owner =>
    apply check (orderly_custom _)
    apply check (orderly_custom _)
    cases ctx.stakingAgentId s.stakingSource owner with
    | none => exact orderly_custom _
    | some => exact .ite (fun _ => trivial) fun _ => orderly_custom _

/-- A new position, which its receiver may have traded on since. -/
structure Gained (s s' : SellerPools) (position : Position)
    (normalStartEpoch stakeEndEpoch withdrawableEpoch : Nat) : Prop where
  next : s'.nextPositionId = s.nextPositionId + 1
  starts : ∃ trace, (s.positionNormalStartEpoch s.nextPositionId).push position.stakeStartEpoch
      normalStartEpoch = (.ok trace : Tx Error Trace) ∧
    s'.positionNormalStartEpoch = update s.positionNormalStartEpoch s.nextPositionId trace
  ends : ∃ trace, (s.positionNormalEndEpoch s.nextPositionId).push position.stakeStartEpoch
      stakeEndEpoch = (.ok trace : Tx Error Trace) ∧
    s'.positionNormalEndEpoch = update s.positionNormalEndEpoch s.nextPositionId trace
  locks : s'.positionMaxLockPower = s.positionMaxLockPower
  withdrawable : s'.positionWithdrawableEpoch =
    update s.positionWithdrawableEpoch s.nextPositionId withdrawableEpoch
  here : ∃ owner, s'.positions s.nextPositionId = { position with owner := owner }
  others : ∀ q, q ≠ s.nextPositionId → ∃ owner, s'.positions q = { s.positions q with owner := owner }
  alive : s'.nft.owners s.nextPositionId ≠ 0
  live : ∀ q, q ≠ s.nextPositionId → (s'.nft.owners q = 0 ↔ s.nft.owners q = 0)

theorem Opened.gained {position : Position} {startEpoch normalStartEpoch stakeEndEpoch : Nat}
    (opened : Opened s s' position startEpoch normalStartEpoch stakeEndEpoch)
    (trade : Trade s' s'') (somebody : position.owner ≠ 0) :
    Gained s s'' position normalStartEpoch stakeEndEpoch
      (s.positionWithdrawableEpoch s.nextPositionId) where
  next := trade.next.trans opened.next
  starts := by
    rw [trade.starts, opened.start]
    exact opened.starts
  ends := by
    rw [trade.ends, opened.start]
    exact opened.ends
  locks := trade.locks.trans opened.locks
  withdrawable := by rw [trade.withdrawable, opened.withdrawable, Function.update_eq_self]
  here := by
    obtain ⟨owner, same⟩ := trade.terms s.nextPositionId
    rw [opened.positions, update_self] at same
    exact ⟨owner, same⟩
  others q other := by
    obtain ⟨owner, same⟩ := trade.terms q
    rw [opened.positions, update_of_ne other] at same
    exact ⟨owner, same⟩
  alive := by
    rw [ne_eq, trade.live, opened.owners, update_self]
    exact somebody
  live q other := by rw [trade.live, opened.owners, update_of_ne other]

theorem createWeightedPosition_gains (tidy : s.Tidy) {owner : Address}
    {amount weightAmount startEpoch normalStartEpoch stakeEndEpoch : Nat} (somebody : owner ≠ 0)
    (positive : 0 < startEpoch) (begun : normalStartEpoch ≤ startEpoch) :
    Meets (s.createWeightedPosition ctx owner agentId amount weightAmount startEpoch
      normalStartEpoch stakeEndEpoch) Orderly fun out => out.1.Tidy ∧
        out.2 = s.nextPositionId ∧ startEpoch % 2 ^ 64 = startEpoch ∧ Gained s out.1
          (newPosition owner agentId amount weightAmount startEpoch stakeEndEpoch)
          normalStartEpoch stakeEndEpoch (s.positionWithdrawableEpoch s.nextPositionId) := by
  refine (createWeightedPosition_meets tidy somebody positive begun).mono ?_
  rintro out ⟨tidy', id, opened, isOpened, trade⟩
  exact ⟨tidy', id, isOpened.start, isOpened.gained trade somebody⟩

theorem Tidy.withdrawable (tidy : s.Tidy) (epochs : Nat → Nat) :
    ({ s with positionWithdrawableEpoch := epochs } : SellerPools).Tidy :=
  ⟨SameOwners.portfolio (s := s) ⟨rfl, rfl, id, rfl, rfl, rfl, rfl⟩ rfl tidy.portfolio,
    ⟨tidy.bounded.slash, tidy.bounded.least, tidy.bounded.penalty, tidy.bounded.configured.delay,
      tidy.bounded.configured.least⟩, tidy.begun⟩

theorem createRestructuredPosition_gains (tidy : s.Tidy) {owner : Address}
    {amount weightAmount startEpoch normalStartEpoch stakeEndEpoch : Nat} (somebody : owner ≠ 0)
    (positive : 0 < startEpoch) (begun : normalStartEpoch ≤ startEpoch) :
    Meets (s.createRestructuredPosition ctx owner agentId amount weightAmount startEpoch
      normalStartEpoch stakeEndEpoch) Orderly fun out => out.1.Tidy ∧
        startEpoch % 2 ^ 64 = startEpoch ∧ Gained s out.1
          (newPosition owner agentId amount weightAmount startEpoch stakeEndEpoch)
          normalStartEpoch stakeEndEpoch startEpoch := by
  refine .bind (createWeightedPosition_gains tidy somebody positive begun) ?_
  rintro ⟨created, id⟩ ⟨tidy', isNext, start, gained⟩
  subst isNext
  refine .pure ⟨tidy'.withdrawable _, start, ?_⟩
  exact { gained with
    withdrawable := by
      rw [gained.withdrawable, Function.update_idem, start] }

/-- A position has ended in favour of a replacement with the same window. -/
structure Carried (s s' : SellerPools) (q epoch : Nat) (window : Nat × Nat) : Prop extends
    Ended s s' q epoch (s.positions q).withdrawn where
  begins : (s.positionNormalStartEpoch q).upperLookupRecent epoch = window.1
  ends : (s.positionNormalEndEpoch q).upperLookupRecent epoch = window.2
  running : epoch < window.2

theorem closePositionForRestructure_meets (tidy : s.Tidy) (present : (s.positions q).owner ≠ 0)
    (positive : 0 < epoch) :
    Meets (s.closePositionForRestructure q epoch) Orderly fun out =>
      out.1.Tidy ∧ Carried s out.1 q epoch out.2 := by
  apply check (orderly_custom _)
  apply require (orderly_custom _)
  intro isOpen
  apply check (orderly_custom _)
  apply require (orderly_custom _)
  intro running
  have owned : s.nft.owners q ≠ 0 := fun none => tidy.portfolio.closed q present none isOpen
  refine .bind (applyPowerRange_meets _ _ _ _ _) ?_
  rintro trees ⟨inside, -, only⟩
  rw [mod_of_inside inside, tidy.portfolio.recorded q owned]
  refine .bind (decreaseActiveStake_retires tidy.portfolio epoch (s.positions q).withdrawn
    owned ?_ ?_ ?_ ?_ ?_ ?_ ?_) ?_
  · exact only.sameTerms.trans (sameTerms_of_nft trees trees.nft _)
  · show update trees.positions _ _ = _
    rw [only.sameOwners.positions, ← tidy.portfolio.recorded q owned]
  · show trees.nft = _
    rw [only]
  · exact only.sameOwners.ids
  · exact only.sameOwners.index
  · exact only.sameOwners.total
  · exact only.sameOwners.agent
  · intro retired isRetired
    refine .bind (isRetired.burn tidy owned (by omega)) ?_
    rintro burned ⟨tidy', ended⟩
    exact .pure ⟨tidy', ended, rfl, rfl, Nat.lt_of_not_le fun late => running (.inr late)⟩

section

variable (bounded : s.Bounded) (begun : (s.positionNormalStartEpoch q).upperLookupRecent epoch ≤ epoch)

include bounded begun

theorem earlyExitSlashBpsAt_meets :
    Meets (s.earlyExitSlashBpsAt q epoch) Orderly fun slashBps => slashBps ≤ bpsDenominator := by
  refine .ite (fun _ => pure (Nat.zero_le _)) fun running => ?_
  refine .sub (by omega) ?_
  refine .ite (fun _ => pure (Nat.zero_le _)) fun nonzero => ?_
  refine .sub (by omega) ?_
  apply uint orderly_overflow
  intro _
  refine .bind (div_meets ⟨nofun, nofun⟩) fun slashBps _ => pure ?_
  have slash := bounded.slash
  have least := bounded.least
  split
  · omega
  · split <;> omega

theorem exitAmounts_meets :
    Meets (s.exitAmounts q epoch normalEndEpoch amount) Orderly fun amounts =>
      amounts.1 + amounts.2 = amount := by
  refine .ite (fun _ => ?_) fun _ => pure rfl
  refine .bind (earlyExitSlashBpsAt_meets bounded begun) fun slashBps small => ?_
  apply uint orderly_overflow
  intro _
  have part : amount * slashBps / bpsDenominator ≤ amount :=
    calc amount * slashBps / bpsDenominator
        ≤ amount * bpsDenominator / bpsDenominator := Nat.div_le_div_right (Nat.mul_le_mul_left _ small)
      _ = amount := Nat.mul_div_cancel _ (by decide)
  exact .sub part (pure (Nat.sub_add_cancel part))

end

/-- A position has ended for good, and `amounts` are what its owner gets and what is slashed. -/
structure Withdrawn (s s' : SellerPools) (q epoch : Nat) (amounts : Nat × Nat) : Prop extends
    Ended s s' q (max epoch (s.positions q).stakeStartEpoch) true where
  whole : amounts.1 + amounts.2 = (s.positions q).amount
  due : s.positionWithdrawableEpoch q ≤ epoch

theorem withdrawPosition_meets (tidy : s.Tidy) (timely : epoch < 2 ^ 64) :
    Meets (s.withdrawPosition q staker epoch) Orderly fun out =>
      out.1.Tidy ∧ Withdrawn s out.1 q epoch out.2 := by
  refine .bind requirePositionOwner_meets fun _ isOwner => ?_
  obtain ⟨rfl, owned⟩ := isOwner
  apply check (orderly_custom _)
  apply require (orderly_custom _)
  intro isOpen
  apply require (orderly_custom _)
  intro due
  have dated := tidy.portfolio.dated q owned
  have close : (if epoch < (s.positions q).stakeStartEpoch then (s.positions q).stakeStartEpoch
      else epoch) = max epoch (s.positions q).stakeStartEpoch := by
    split <;> omega
  rw [close]
  apply check (orderly_custom _)
  apply uint orderly_overflow
  intro _
  apply check (orderly_custom _)
  apply check (orderly_custom _)
  apply check (orderly_custom _)
  rw [Nat.mod_eq_of_lt (by omega : max epoch (s.positions q).stakeStartEpoch < 2 ^ 64)]
  generalize isRecorded : s.setPosition q { s.positions q with
    withdrawn := true, closedAtEpoch := max epoch (s.positions q).stakeStartEpoch } = recorded
  refine .bind (Q := fun removed => OnlyTrees recorded removed) ?_ fun removed only => ?_
  · refine .ite (fun _ => ?_) fun _ => pure rfl
    exact (applyPowerRange_meets _ _ _ _ _).mono fun _ result => result.2.2
  have positions : recorded.positions = update s.positions q { s.positions q with
      closedAtEpoch := max epoch (s.positions q).stakeStartEpoch, withdrawn := true } := by
    rw [← isRecorded]
    rfl
  have same : SameTerms s recorded := by
    rw [← isRecorded]
    exact sameTerms_of_nft s s.nft _
  refine .bind (decreaseActiveStake_retires tidy.portfolio
    (max epoch (s.positions q).stakeStartEpoch) true owned
    (same.trans only.sameTerms) ?_ ?_ ?_ ?_ ?_ ?_) ?_
  · rw [only.sameOwners.positions, positions]
  · rw [only, ← isRecorded]
    rfl
  · rw [only.sameOwners.ids, ← isRecorded]
    rfl
  · rw [only.sameOwners.index, ← isRecorded]
    rfl
  · rw [only.sameOwners.total, ← isRecorded]
    rfl
  · rw [only.sameOwners.agent, ← isRecorded]
    rfl
  · intro retired isRetired
    refine .bind (exitAmounts_meets (isRetired.same.bounded tidy.bounded)
      (isRetired.same.starts ▸ tidy.begun q _)) fun amounts whole => ?_
    refine .bind (isRetired.burn tidy owned (by omega)) ?_
    rintro burned ⟨tidy', ended⟩
    exact .pure ⟨tidy', ended, whole, due⟩

/-- Positions end one after another, all at one epoch and with one window. -/
inductive Closings (epoch : Nat) (window : Nat × Nat) :
    SellerPools → SellerPools → List Nat → Prop where
  | nil {s : SellerPools} : Closings epoch window s s []
  | cons {s s' s'' : SellerPools} {q : Nat} {rest : List Nat} (carried : Carried s s' q epoch window)
      (closings : Closings epoch window s' s'' rest) : Closings epoch window s s'' (q :: rest)

/-- Positions with one window open one after another. -/
inductive Openings (epoch : Nat) (window : Nat × Nat) :
    SellerPools → SellerPools → List Nat → Prop where
  | nil {s : SellerPools} : Openings epoch window s s []
  | cons {s s' s'' : SellerPools} {position : Position} {amounts : List Nat}
      (gained : Gained s s' position window.1 window.2 epoch)
      (start : position.stakeStartEpoch = epoch) (isOpen : position.closedAtEpoch = 0)
      (openings : Openings epoch window s' s'' amounts) :
      Openings epoch window s s'' (position.amount :: amounts)

/-- Sources give way to new positions with their window and their principal. -/
structure Restructured (c : Nat) (s s' : SellerPools) (sources : List Nat) (count : Nat) :
    Prop where
  several : sources ≠ []
  account : ∃ epoch window closed amounts, c < epoch ∧
    (∀ q ∈ sources, (s.positions q).stakeStartEpoch ≤ epoch) ∧
    Closings epoch window s closed sources ∧ Openings epoch window closed s' amounts ∧
    amounts.length = count ∧ amounts.sum = (sources.map fun q => (s.positions q).amount).sum

/-- One restructure after another. -/
inductive Restructures (c : Nat) : SellerPools → SellerPools → List (List Nat × Nat) → Prop where
  | nil {s : SellerPools} : Restructures c s s []
  | cons {s s' s'' : SellerPools} {sources : List Nat} {count : Nat} {rest : List (List Nat × Nat)}
      (one : Restructured c s s' sources count) (more : Restructures c s' s'' rest) :
      Restructures c s s'' ((sources, count) :: rest)

theorem Restructured.single
    (one : Restructured c s s' sources count) : Restructures c s s' [(sources, count)] :=
  .cons one .nil

theorem Openings.one {owner : Address} {amount weightAmount : Nat} (start : epoch % 2 ^ 64 = epoch)
    (gained : Gained s s' (newPosition owner agentId amount weightAmount epoch window.2) window.1
      window.2 epoch) {amounts : List Nat} (more : Openings epoch window s' s'' amounts) :
    Openings epoch window s s'' (amount :: amounts) :=
  .cons gained start rfl more

theorem Carried.begun (tidy : s.Tidy) (carried : Carried s s' q epoch window) : window.1 ≤ epoch :=
  carried.begins ▸ tidy.begun q epoch

theorem movedWeight_meets (bounded : s.Bounded) (weightAmount : Nat) :
    Meets (s.movedWeight weightAmount) Orderly fun _ => True := by
  refine .ite (fun _ => ?_) fun _ => trivial
  refine .sub bounded.penalty ?_
  exact .uint orderly_overflow fun _ => trivial

theorem movePosition_meets (tidy : s.Tidy) (future : c < effectiveEpoch) :
    Meets (s.movePosition ctx q toAgentId staker effectiveEpoch) Orderly fun s' =>
      s'.Tidy ∧ Restructured c s s' [q] 1 := by
  refine .bind requirePositionOwner_meets fun _ isOwner => ?_
  obtain ⟨rfl, owned⟩ := isOwner
  refine .bind (closePositionForRestructure_meets tidy (tidy.portfolio.present owned) (by omega)) ?_
  rintro ⟨closed, window⟩ ⟨tidy', carried⟩
  refine .bind (movedWeight_meets tidy'.bounded _) fun weight _ => ?_
  refine .bind (createRestructuredPosition_gains tidy' owned (by omega) (carried.begun tidy)) ?_
  rintro ⟨created, id⟩ ⟨tidy'', start, gained⟩
  refine .pure ⟨tidy'', ⟨List.cons_ne_nil _ _, _, window, closed, [_], ?_, ?_,
    .cons carried .nil, .one start gained .nil, rfl, rfl⟩⟩
  · omega
  · intro x member
    rw [List.mem_singleton.mp member]
    omega

theorem movePositions_meets {toAgentId : Word}
    (future : c < effectiveEpoch) (positionIds : List Nat) (tidy : s.Tidy) :
    Meets (movePositions ctx toAgentId effectiveEpoch positionIds s) Orderly fun s' =>
      s'.Tidy ∧ Restructures c s s' (positionIds.map fun q => ([q], 1)) := by
  induction positionIds generalizing s with
  | nil => exact .pure ⟨tidy, .nil⟩
  | cons q rest ih =>
    refine .bind (movePosition_meets tidy future) fun moved ⟨tidy', one⟩ => ?_
    exact (ih tidy').mono fun s' ⟨tidy'', more⟩ => ⟨tidy'', .cons one more⟩

theorem splitStake_meets (tidy : s.Tidy) {q splitAmount : Nat} :
    Meets (s.splitStake ctx q splitAmount) Orderly fun s' =>
      s'.Tidy ∧ Restructured ctx.epoch s s' [q] 2 := by
  refine .bind requirePositionOwner_meets fun _ isOwner => ?_
  obtain ⟨isSender, owned⟩ := isOwner
  apply require (orderly_custom _)
  intro inner
  apply uint orderly_overflow
  intro _
  refine .sub (by omega) ?_
  apply uint orderly_overflow
  intro _
  refine .bind (div_meets ⟨nofun, nofun⟩) fun secondWeight ⟨_, isQuotient⟩ => ?_
  have lighter : (s.positions q).weightAmount * splitAmount / (s.positions q).amount ≤
      (s.positions q).weightAmount := by
    apply Nat.div_le_of_le_mul
    rw [Nat.mul_comm]
    exact Nat.mul_le_mul_right _ (by omega)
  refine .sub (isQuotient ▸ lighter) ?_
  apply check (orderly_custom _)
  refine .bind (closePositionForRestructure_meets tidy
    (tidy.portfolio.present (isSender ▸ owned)) (by omega)) ?_
  rintro ⟨closed, window⟩ ⟨tidy', carried⟩
  refine .bind (createRestructuredPosition_gains tidy' owned (by omega) (carried.begun tidy)) ?_
  rintro ⟨created, id⟩ ⟨tidy'', start, gained⟩
  refine .bind (createRestructuredPosition_gains tidy'' owned (by omega) (carried.begun tidy)) ?_
  rintro ⟨created', id'⟩ ⟨tidyEnd, start', gained'⟩
  refine .pure ⟨tidyEnd, ⟨List.cons_ne_nil _ _, _, window, closed, [_, _], ?_, ?_,
    .cons carried .nil, .one start gained (.one start' gained' .nil), rfl, ?_⟩⟩
  · omega
  · intro x member
    rw [List.mem_singleton.mp member]
    omega
  · simp only [List.sum_cons, List.sum_nil, List.map_cons, List.map_nil]
    omega

theorem mergeEffectiveEpoch_meets :
    Meets (s.mergeEffectiveEpoch sender positionIds epoch) Orderly fun effectiveEpoch =>
      epoch ≤ effectiveEpoch ∧ ∀ q ∈ positionIds,
        (s.positions q).stakeStartEpoch ≤ effectiveEpoch ∧ s.nft.owners q = sender ∧ sender ≠ 0 := by
  induction positionIds generalizing epoch with
  | nil => exact .pure ⟨Nat.le_refl _, nofun⟩
  | cons q rest ih =>
    refine .bind requirePositionOwner_meets fun _ isOwner => ?_
    refine ih.mono fun effectiveEpoch ⟨grown, all⟩ => ⟨by omega, fun x member => ?_⟩
    rcases List.mem_cons.mp member with rfl | member
    · exact ⟨by omega, isOwner⟩
    · exact all x member

section

variable (ended : Ended s s' q epoch withdrawn) (x : Nat)

include ended x

theorem Ended.terms :
    ∃ closedAtEpoch withdrawn, s'.positions x =
      { s.positions x with closedAtEpoch := closedAtEpoch, withdrawn := withdrawn } := by
  rw [ended.positions]
  by_cases here : x = q
  · subst here
    exact ⟨_, _, update_self ..⟩
  · exact ⟨_, _, update_of_ne here ..⟩

theorem Ended.amount :
    (s'.positions x).amount = (s.positions x).amount := by
  obtain ⟨_, _, same⟩ := ended.terms x
  rw [same]

theorem Ended.owner :
    (s'.positions x).owner = (s.positions x).owner := by
  obtain ⟨_, _, same⟩ := ended.terms x
  rw [same]

end

theorem mergeOne_meets (tidy : s.Tidy) (present : (s.positions q).owner ≠ 0)
    (positive : 0 < epoch) :
    Meets (s.mergeOne agentId epoch q merge) Orderly fun out => out.1.Tidy ∧
      out.2.mergedAmount = merge.mergedAmount + (s.positions q).amount ∧
      ∃ window, out.2.shared = some window ∧
        (merge.shared = none ∨ merge.shared = some window) ∧ Carried s out.1 q epoch window := by
  apply check (orderly_custom _)
  apply uint orderly_overflow
  intro _
  apply uint orderly_overflow
  intro _
  refine .bind (closePositionForRestructure_meets tidy present positive) ?_
  rintro ⟨closed, window⟩ ⟨tidy', carried⟩
  apply require (orderly_custom _)
  intro same
  exact .pure ⟨tidy', rfl, window, rfl, same, carried⟩

theorem mergeAll_meets (positive : 0 < epoch) (positionIds : List Nat) {merge : Merge}
    (tidy : s.Tidy) (present : ∀ q ∈ positionIds, (s.positions q).owner ≠ 0) :
    Meets (mergeAll agentId epoch positionIds s merge) Orderly fun out => out.1.Tidy ∧
      out.2.mergedAmount = merge.mergedAmount + (positionIds.map fun q => (s.positions q).amount).sum ∧
      ∃ window, (out.2.shared = some window ∨ positionIds = [] ∧ out.2.shared = merge.shared) ∧
        (merge.shared = none ∨ merge.shared = some window) ∧
        Closings epoch window s out.1 positionIds := by
  induction positionIds generalizing s merge with
  | nil =>
    refine .pure ⟨tidy, rfl, merge.shared.getD (0, 0), .inr ⟨rfl, rfl⟩, ?_, .nil⟩
    cases merge.shared with
    | none => exact .inl rfl
    | some => exact .inr rfl
  | cons q rest ih =>
    refine .bind (mergeOne_meets tidy (present q List.mem_cons_self) positive) ?_
    rintro ⟨closed, merged⟩ ⟨tidy', amount, window, shared, same, carried⟩
    dsimp only at tidy' amount shared carried
    have present' : ∀ x ∈ rest, (closed.positions x).owner ≠ 0 := by
      intro x member
      rw [carried.owner]
      exact present x (List.mem_cons_of_mem q member)
    refine (ih tidy' present').mono ?_
    rintro ⟨finished, merge'⟩ ⟨tidy'', amount', window', shared', same', closings⟩
    dsimp only at tidy'' amount' shared' closings ⊢
    rw [shared] at same' shared'
    obtain rfl : window = window' := by simpa using same'
    refine ⟨tidy'', ?_, window, .inl ?_, same, .cons carried closings⟩
    · simp only [carried.amount] at amount'
      rw [amount', amount, List.map_cons, List.sum_cons]
      omega
    · rcases shared' with kept | ⟨-, kept⟩ <;> exact kept

theorem Closings.running {rest : List Nat} (tidy : s.Tidy)
    (closings : Closings epoch window s s' (q :: rest)) : window.1 ≤ epoch := by
  cases closings with
  | cons carried => exact carried.begun tidy

theorem mergeStakes_meets (tidy : s.Tidy) :
    Meets (s.mergeStakes ctx positionIds) Orderly fun s' =>
      s'.Tidy ∧ Restructured ctx.epoch s s' positionIds 1 := by
  apply decode ⟨nofun, nofun⟩
  intro _
  apply require (orderly_custom _)
  intro several
  apply uint orderly_overflow
  intro _
  refine .bind mergeEffectiveEpoch_meets fun epoch ⟨grown, all⟩ => ?_
  have positive : 0 < epoch := by omega
  refine .bind (mergeAll_meets positive positionIds tidy fun q member =>
    tidy.portfolio.present ((all q member).2.1 ▸ (all q member).2.2)) ?_
  rintro ⟨closed, merge⟩ ⟨tidy', amount, window, shared, -, closings⟩
  dsimp only at tidy' amount shared closings ⊢
  cases positionIds with
  | nil => simp at several
  | cons q =>
    obtain shared | ⟨none, -⟩ := shared
    · rw [shared]
      refine .bind (createRestructuredPosition_gains tidy'
        (all q List.mem_cons_self).2.2 positive (closings.running tidy)) ?_
      rintro ⟨created, id⟩ ⟨tidy'', start, gained⟩
      refine .pure ⟨tidy'', ⟨List.cons_ne_nil _ _, epoch, window, closed, [_], by omega,
        fun x member => (all x member).1, closings, .one start gained .nil, rfl, ?_⟩⟩
      rw [List.sum_singleton, amount]
      exact Nat.zero_add _
    · cases none

end SellerPools

end AntSeed.Pools
