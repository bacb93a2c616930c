import AntSeed.Pools.Deeds

/-! # Staked principal is conserved

The ANTS in the contract cover the open positions: stakes bring their amount,
restructures only regroup it, and a withdrawal pays out exactly the amount of the
position it closes. A position leaves once, by a withdrawal or by a replacement.
-/

namespace AntSeed.Pools

open Evm Function
open SellerPools
open Nat List

namespace SellerPools

/-- What the open positions add up to. -/
def principal (s : SellerPools) : Nat :=
  ∑ q ∈ Finset.range s.nextPositionId,
    if (s.positions q).closedAtEpoch = 0 then (s.positions q).amount else 0

/-- How often a position can still leave: once if it is live or not there yet. -/
def exitsLeft (s : SellerPools) (q : Nat) : Nat :=
  if q < s.nextPositionId ∧ s.nft.owners q = 0 then 0 else 1

variable {s s' s'' : SellerPools}

theorem principal_congr (next : s'.nextPositionId = s.nextPositionId)
    (closed : ∀ q, (s'.positions q).closedAtEpoch = (s.positions q).closedAtEpoch)
    (amount : ∀ q, (s'.positions q).amount = (s.positions q).amount) :
    s'.principal = s.principal := by
  unfold principal
  simp only [next, closed, amount]

theorem Trade.principal (trade : Trade s s') : s'.principal = s.principal := by
  refine principal_congr trade.next (fun q => ?_) fun q => ?_
  · obtain ⟨_, same⟩ := trade.terms q
    rw [same]
  · obtain ⟨_, same⟩ := trade.terms q
    rw [same]

theorem Trade.exitsLeft (trade : Trade s s') (x : Nat) : s'.exitsLeft x = s.exitsLeft x := by
  unfold SellerPools.exitsLeft
  rw [trade.next]
  simp only [trade.live x]

variable {c epoch q : Nat} {position : Position} {positionIds sources : List Nat}
  {window : Nat × Nat} {amounts : List (Nat × Nat)}

theorem Relocked.principal {starts ends locks : Trace}
    (relocked : Relocked s s' q starts ends locks) : s'.principal = s.principal := by
  refine principal_congr relocked.next (fun x => ?_) fun x => ?_
  · obtain ⟨_, same⟩ := relocked.terms x
    rw [same]
  · obtain ⟨_, same⟩ := relocked.terms x
    rw [same]

theorem Relock.relocked (relock : Relock c s s' q) :
    ∃ starts ends locks, Relocked s s' q starts ends locks := by
  cases relock with
  | extended _ _ _ _ _ _ _ _ relocked => exact ⟨_, _, _, relocked⟩
  | enabled _ _ _ _ _ _ relocked => exact ⟨_, _, _, relocked⟩
  | disabled _ _ _ _ _ _ relocked => exact ⟨_, _, _, relocked⟩

theorem Gained.principal {normalStart stakeEnd withdrawable : Nat}
    (gained : Gained s s' position normalStart stakeEnd withdrawable)
    (isOpen : position.closedAtEpoch = 0) : s'.principal = s.principal + position.amount := by
  unfold SellerPools.principal
  rw [gained.next, Finset.sum_range_succ]
  congr 1
  · refine Finset.sum_congr rfl fun q before => ?_
    obtain ⟨_, same⟩ := gained.others q (Nat.ne_of_lt (Finset.mem_range.mp before))
    rw [same]
  · obtain ⟨_, here⟩ := gained.here
    rw [here, if_pos isOpen]

theorem Gained.exitsLeft {normalStart stakeEnd withdrawable : Nat}
    (gained : Gained s s' position normalStart stakeEnd withdrawable) (x : Nat) :
    s'.exitsLeft x = s.exitsLeft x := by
  unfold SellerPools.exitsLeft
  rw [gained.next]
  by_cases here : x = s.nextPositionId
  · subst here
    rw [if_neg fun both => gained.alive both.2, if_neg fun both => lt_irrefl _ both.1]
  · have before : x < s.nextPositionId + 1 ↔ x < s.nextPositionId := by omega
    simp only [gained.live x here, before]

theorem Ended.principal {withdrawn : Bool} (ended : Ended s s' q epoch withdrawn) :
    s'.principal + (s.positions q).amount = s.principal := by
  have sums := sum_update_add (fun _ position => if Position.closedAtEpoch position = 0 then
    position.amount else 0) s.positions { s.positions q with
      closedAtEpoch := epoch, withdrawn := withdrawn } (Finset.mem_range.mpr ended.known)
  rw [if_pos ended.wasOpen, if_neg ended.closed, ← ended.positions] at sums
  unfold SellerPools.principal
  rw [ended.same.next]
  exact sums

theorem Ended.exitsLeft (ended : Ended s s' q epoch withdrawn) (x : Nat) :
    s'.exitsLeft x + (if q = x then 1 else 0) = s.exitsLeft x := by
  unfold SellerPools.exitsLeft
  rw [ended.same.next, ended.owners]
  by_cases here : q = x
  · subst here
    rw [update_self, if_pos ⟨ended.known, rfl⟩, if_pos rfl, if_neg fun both => ended.owned both.2]
  · rw [update_of_ne (Ne.symm here), if_neg here, add_zero]

theorem Closings.principal (closings : Closings epoch window s s' sources) :
    s'.principal + (sources.map fun q => (s.positions q).amount).sum = s.principal := by
  induction closings with
  | nil => rfl
  | cons carried _ ih =>
    have one := carried.toEnded.principal
    simp only [carried.toEnded.amount] at ih
    rw [map_cons, sum_cons]
    omega

theorem Closings.exitsLeft (closings : Closings epoch window s s' sources) (x : Nat) :
    s'.exitsLeft x + sources.count x = s.exitsLeft x := by
  induction closings with
  | nil => rfl
  | cons carried =>
    have one := carried.toEnded.exitsLeft x
    rw [count_cons]
    simp only [beq_iff_eq] at one ⊢
    omega

theorem Openings.principal {amounts : List Nat} (openings : Openings epoch window s s' amounts) :
    s'.principal = s.principal + amounts.sum := by
  induction openings with
  | nil => rfl
  | cons gained _ isOpen _ ih =>
    rw [ih, gained.principal isOpen, sum_cons, add_assoc]

theorem Openings.exitsLeft {amounts : List Nat} (openings : Openings epoch window s s' amounts)
    (x : Nat) : s'.exitsLeft x = s.exitsLeft x := by
  induction openings with
  | nil => rfl
  | cons gained _ _ _ ih => rw [ih, gained.exitsLeft x]

theorem Restructures.conserve {groups : List (List Nat × Nat)}
    (restructures : Restructures c s s' groups) : s'.principal = s.principal ∧
      ∀ x, s'.exitsLeft x + (groups.map fun group => group.1.count x).sum = s.exitsLeft x := by
  induction restructures with
  | nil => exact ⟨rfl, fun _ => rfl⟩
  | cons one _ ih =>
    obtain ⟨epoch, window, closed, amounts, -, -, closings, openings, -, whole⟩ := one.account
    refine ⟨?_, fun x => ?_⟩
    · have lost := closings.principal
      have gained := openings.principal
      rw [ih.1]
      omega
    · have lost := closings.exitsLeft x
      have kept := openings.exitsLeft x
      have rest := ih.2 x
      simp only [map_cons, sum_cons]
      omega

theorem Withdrawals.conserve (withdrawals : Withdrawals c s s' positionIds amounts) :
    s'.principal + ((amounts.map Prod.fst).sum + (amounts.map Prod.snd).sum) = s.principal ∧
      ∀ x, s'.exitsLeft x + positionIds.count x = s.exitsLeft x := by
  induction withdrawals with
  | nil => exact ⟨rfl, fun _ => rfl⟩
  | cons withdrawn _ ih =>
    refine ⟨?_, fun x => ?_⟩
    · have one := withdrawn.toEnded.principal
      have whole := withdrawn.whole
      have rest := ih.1
      simp only [map_cons, sum_cons]
      omega
    · have one := withdrawn.toEnded.exitsLeft x
      have rest := ih.2 x
      rw [count_cons]
      simp only [beq_iff_eq] at one ⊢
      omega

theorem Withdrawals.whole (withdrawals : Withdrawals c s s' positionIds amounts) :
    List.Forall₂ (fun q paid => paid.1 + paid.2 = (s.positions q).amount) positionIds amounts := by
  induction withdrawals with
  | nil => exact .nil
  | cons withdrawn _ ih =>
    simp only [withdrawn.toEnded.amount] at ih
    exact .cons withdrawn.whole ih

/-- Both parts leave the contract, one for the sender and one for nobody. -/
def Paid (ctx : Context) (returned slashed : Nat) (ants ants' : Erc20) : Prop :=
  ∀ a, ants'.balanceOf a + (if a = ctx.self then returned + slashed else 0) =
    ants.balanceOf a + (if a = ctx.sender then returned else 0) +
      if a = deadAddress then slashed else 0

theorem paid_of_payExit
    (h : payExit ants ctx returned slashed = .ok ants') : Paid ctx returned slashed ants ants' := by
  obtain ⟨first, toSender, toNobody⟩ := ran h
  have moves : ∀ {t t' : Erc20} {target : Address} {amount : Nat},
      (if amount > 0 then t.transfer ctx.self target amount else pure t : Tx Error Erc20) = .ok t' →
      ∀ a, t'.balanceOf a + (if a = ctx.self then amount else 0) =
        t.balanceOf a + if a = target then amount else 0 := by
    intro t t' target amount moved a
    split at moved
    · obtain ⟨-, enough, rfl⟩ := Erc20.transfer_eq_ok.mp moved
      exact Erc20.move_balance enough target a
    next none =>
      cases moved
      have zero : amount = 0 := by omega
      simp [zero]
  intro a
  have one := moves toSender a
  have two := moves toNobody a
  have split : (if a = ctx.self then returned + slashed else 0) =
      (if a = ctx.self then returned else 0) + if a = ctx.self then slashed else 0 := by
    split <;> rfl
  rw [split]
  omega

end SellerPools

def Operation.withdrawals : Operation → List Nat
  | .withdrawStake positionId => [positionId]
  | .withdrawStakes positionIds => positionIds
  | _ => []

/-- How often a call ends a position, by a withdrawal or for a replacement. -/
def Operation.exits (op : Operation) (q : Nat) : Nat :=
  op.withdrawals.count q + (op.restructures.map fun group => group.1.count q).sum

def Event.exits (q : Nat) : Event → Nat
  | .call made => made.op.exits q
  | _ => 0

/-- What others mint or transfer to the contract. -/
def Event.received (self : Address) : Event → Nat
  | .antsMint target amount => if target = self then amount else 0
  | .antsTransfer _ target amount => if target = self then amount else 0
  | _ => 0

/-- What a reward staker stakes out of tokens that are already in the contract. -/
def Operation.restaked : Operation → Nat
  | .stakeMintedReward _ _ amount _ => amount
  | _ => 0

def Event.restaked : Event → Nat
  | .call made => made.op.restaked
  | _ => 0

section

variable (self owner stakingSource : Address)

/-- Tokens minted or transferred to the contract in a run. -/
def received (events : List Event) : Nat :=
  (machine self).tally (fun _ event => event.received self) (deployed owner stakingSource) events

/-- Rewards restaked in a run. -/
def restaked (events : List Event) : Nat :=
  (machine self).tally (fun _ event => event.restaked) (deployed owner stakingSource) events

/-- How often a position has ended in a run. -/
def exits (q : Nat) (events : List Event) : Nat :=
  (machine self).tally (fun _ event => event.exits q) (deployed owner stakingSource) events

end

namespace SellerPools

variable {s s' : SellerPools}

variable {self : Address}

theorem Performed.principal
    (performed : Performed self c call s ants s' ants') (other : call.sender ≠ self) :
    s'.principal + ants.balanceOf self ≤ s.principal + ants'.balanceOf self + call.op.restaked := by
  obtain ⟨sender, identityOwnerOf, stakingAgentId, onERC721Received, op⟩ := call
  cases op with
  | stakeFor =>
    obtain ⟨⟨position, stakeEnd, gained, rfl, isOpen, -, -⟩, paid⟩ := performed
    obtain ⟨-, enough, balances, -⟩ := Erc20.transferFrom_eq_ok paid
    have moved := Erc20.move_balance enough self self
    rw [if_neg (Ne.symm other), if_pos rfl, ← balances] at moved
    rw [gained.principal isOpen]
    omega
  | stakeMintedReward =>
    obtain ⟨⟨position, stakeEnd, gained, rfl, isOpen, -, -⟩, rfl⟩ := performed
    rw [gained.principal isOpen]
    show _ ≤ _ + position.amount
    omega
  | moveStake positionId toAgentId | moveStakes positionIds toAgentId
  | splitStake positionId splitAmount | mergeStakes positionIds =>
    obtain ⟨restructures, rfl⟩ := performed
    rw [restructures.conserve.1]
    exact le_add_right _ _
  | extendLock positionId additionalEpochs | enableMaxLock positionId
  | disableMaxLock =>
    obtain ⟨relock, rfl⟩ := performed
    obtain ⟨_, _, _, relocked⟩ := relock.relocked
    rw [relocked.principal]
    exact le_add_right _ _
  | withdrawStake =>
    obtain ⟨amounts, withdrawals, paid⟩ := performed
    have balance := paid_of_payExit paid self
    have taken := withdrawals.conserve.1
    simp only [map_cons, map_nil, sum_cons, sum_nil] at taken
    simp only [Call.context, if_true] at balance
    omega
  | withdrawStakes =>
    obtain ⟨amounts, withdrawals, paid⟩ := performed
    have balance := paid_of_payExit paid self
    have taken := withdrawals.conserve.1
    simp only [Call.context, if_true] at balance
    omega
  | safeTransferFrom source target positionId | unguarded inner =>
    obtain ⟨trade, rfl⟩ := performed
    rw [trade.principal]
    exact le_add_right _ _

theorem Performed.exitsLeft
    (performed : Performed self c call s ants s' ants') (x : Nat) :
    s'.exitsLeft x + call.op.exits x = s.exitsLeft x := by
  unfold Performed at performed
  obtain ⟨sender, identityOwnerOf, stakingAgentId, onERC721Received, op⟩ := call
  cases op with
  | stakeFor staker agentId amount stakeEpochs
  | stakeMintedReward =>
    obtain ⟨⟨position, stakeEnd, gained, -, -, -, -⟩, -⟩ := performed
    exact gained.exitsLeft x
  | moveStake positionId toAgentId | moveStakes positionIds toAgentId
  | splitStake positionId splitAmount | mergeStakes positionIds =>
    have left := performed.1.conserve.2 x
    unfold Operation.exits
    rw [← left]
    congr 1
    exact zero_add _
  | extendLock positionId additionalEpochs | enableMaxLock positionId
  | disableMaxLock =>
    obtain ⟨_, _, _, relocked⟩ := performed.1.relocked
    unfold SellerPools.exitsLeft
    rw [relocked.next, relocked.nft]
    rfl
  | withdrawStake | withdrawStakes =>
    obtain ⟨amounts, withdrawals, -⟩ := performed
    exact withdrawals.conserve.2 x
  | safeTransferFrom source target positionId | unguarded inner =>
    exact performed.1.exitsLeft x

end SellerPools

variable {self : Address}

section

variable (tidy : s.pools.Tidy) (timely : s.epoch < 2 ^ 64) (taken : step self s event = .ok s')

include tidy timely taken

/-- One event: what it adds to the open positions it adds to the balance, or it is a reward that
    is staked out of what was received. -/
theorem step_principal :
    s'.pools.principal + s.ants.balanceOf self + event.received self ≤
      s.pools.principal + s'.ants.balanceOf self + event.restaked := by
  rcases ((step_performs tidy timely event).result taken).2 with
    ⟨call, rfl, -, other, performed⟩ | ⟨none, same⟩
  · exact performed.principal other
  · rw [same]
    cases event with
    | call call => exact absurd rfl (none call)
    | elapse =>
      have h := rest_ok taken
      cases h
      exact le_refl _
    | antsMint target amount =>
      obtain ⟨ants, minted, h⟩ := ran taken
      cases h
      obtain ⟨-, -, balances⟩ := Erc20.mint_eq_ok minted
      show _ + (if target = self then amount else 0) ≤ _ + ants.balanceOf self + 0
      rw [balances, Function.update_apply]
      by_cases own : target = self
      · subst own
        simp only [if_true]
        omega
      · rw [if_neg own, if_neg (Ne.symm own)]
    | antsApprove =>
      cases taken
      exact le_refl _
    | antsTransfer source target amount =>
      obtain ⟨_, notSelf, h⟩ := ran taken
      obtain ⟨ants, moved, h⟩ := ran h
      cases h
      obtain ⟨-, enough, rfl⟩ := Erc20.transfer_eq_ok.mp moved
      have balance := Erc20.move_balance enough target self
      rw [if_neg (Ne.symm (require_eq_ok.mp notSelf))] at balance
      show _ + s.ants.balanceOf self + (if target = self then amount else 0) ≤
        _ + (s.ants.move source target amount).balanceOf self + 0
      simp only [eq_comm (a := self)] at balance
      omega

theorem step_exitsLeft
    (q : Nat) :
    s'.pools.exitsLeft q + event.exits q = s.pools.exitsLeft q := by
  rcases ((step_performs tidy timely event).result taken).2 with
    ⟨call, rfl, -, -, performed⟩ | ⟨none, same⟩
  · exact performed.exitsLeft q
  · rw [same]
    cases event with
    | call call => exact absurd rfl (none call)
    | _ => rfl

end

variable (self owner stakingSource : Address)

theorem run_principal (events : List Event) :
    (run self owner stakingSource events).pools.principal + received self owner stakingSource events ≤
      (run self owner stakingSource events).ants.balanceOf self +
        restaked self owner stakingSource events := by
  have preserved : ∀ (a : Nat × Nat) s event s', ((s.pools.Tidy ∧ Sound s) ∧
      s.pools.principal + a.1 ≤ s.ants.balanceOf self + a.2) → (machine self).step s event = .ok s' →
      (s'.pools.Tidy ∧ Sound s') ∧
        s'.pools.principal + (a + (event.received self, event.restaked)).1 ≤
          s'.ants.balanceOf self + (a + (event.received self, event.restaked)).2 := by
    rintro a s event s' ⟨⟨tidy, sound⟩, covered⟩ taken
    have moved := step_principal tidy sound.timely taken
    refine ⟨⟨((step_performs tidy sound.timely event).result taken).1, step_sound sound taken⟩, ?_⟩
    show _ + (a.1 + event.received self) ≤ _ + (a.2 + event.restaked)
    omega
  have counted := (machine self).run_invariant_tally
    (I := fun (a : Nat × Nat) s => (s.pools.Tidy ∧ Sound s) ∧
      s.pools.principal + a.1 ≤ s.ants.balanceOf self + a.2) preserved (a := 0)
    ⟨⟨tidy_deployed owner stakingSource,
      sound_deployed owner stakingSource, Nat.two_pow_pos 64⟩, Nat.le_refl 0⟩ events
  have covered := counted.2
  rw [(machine self).tally_pair, zero_add] at covered
  exact covered

theorem run_exits (events : List Event) (q : Nat) : exits self owner stakingSource q events ≤ 1 := by
  have preserved : ∀ a s event s', ((s.pools.Tidy ∧ Sound s) ∧ s.pools.exitsLeft q + a ≤ 1) →
      (machine self).step s event = .ok s' →
      (s'.pools.Tidy ∧ Sound s') ∧ s'.pools.exitsLeft q + (a + event.exits q) ≤ 1 := by
    rintro a s event s' ⟨⟨tidy, sound⟩, few⟩ taken
    have used := step_exitsLeft tidy sound.timely taken q
    exact ⟨⟨((step_performs tidy sound.timely event).result taken).1, step_sound sound taken⟩,
      by omega⟩
  have counted := (machine self).run_invariant_tally
    (I := fun a s => (s.pools.Tidy ∧ Sound s) ∧ s.pools.exitsLeft q + a ≤ 1) preserved (a := 0)
    ⟨⟨tidy_deployed owner stakingSource,
      sound_deployed owner stakingSource, Nat.two_pow_pos 64⟩, by
        unfold exitsLeft
        split <;> omega⟩ events
  have few := counted.2
  rw [zero_add] at few
  exact (le_add_left _ _).trans few

/-- As long as the rewards restaked were received before, the balance of the contract covers the
    open positions. Moving, splitting and merging leave the principal as it is; a withdrawal pays
    every position in two parts that add up to its amount; and a position ends at most once,
    whether it is withdrawn or replaced. -/
theorem principal_conserved (events : List Event) : let s := run self owner stakingSource events
    (restaked self owner stakingSource events ≤ received self owner stakingSource events →
      s.pools.principal ≤ s.ants.balanceOf self) ∧
    (∀ call s', step self s (.call call) = .ok s' →
      (call.op.restructures ≠ [] → s'.pools.principal = s.pools.principal ∧ s'.ants = s.ants) ∧
      (call.op.withdrawals ≠ [] → ∃ amounts : List (Nat × Nat),
        List.Forall₂ (fun q paid => paid.1 + paid.2 = (s.pools.positions q).amount)
          call.op.withdrawals amounts ∧
        SellerPools.Paid (call.context self s.epoch) (amounts.map Prod.fst).sum
          (amounts.map Prod.snd).sum s.ants s'.ants)) ∧
    ∀ q, exits self owner stakingSource q events ≤ 1 := by
  intro s
  have covered := run_principal self owner stakingSource events
  refine ⟨fun funded => ?_, fun call s' taken => ?_, run_exits self owner stakingSource events⟩
  · show (run self owner stakingSource events).pools.principal ≤
      (run self owner stakingSource events).ants.balanceOf self
    omega
  have tidy := run_tidy self owner stakingSource events
  have timely := (run_sound self owner stakingSource events).timely
  rcases ((step_performs tidy timely _).result taken).2 with
    ⟨call', isCall, -, -, performed⟩ | ⟨none, -⟩
  · cases isCall
    obtain ⟨sender, identityOwnerOf, stakingAgentId, onERC721Received, op⟩ := call
    cases op with
    | moveStake positionId toAgentId | moveStakes positionIds toAgentId
    | splitStake positionId splitAmount | mergeStakes positionIds =>
      obtain ⟨restructures, same⟩ := performed
      exact ⟨fun _ => ⟨restructures.conserve.1, same⟩, fun some => absurd rfl some⟩
    | withdrawStake =>
      obtain ⟨amounts, withdrawals, paid⟩ := performed
      refine ⟨fun some => absurd rfl some, fun _ => ⟨[amounts], withdrawals.whole, ?_⟩⟩
      simpa using paid_of_payExit paid
    | withdrawStakes =>
      obtain ⟨amounts, withdrawals, paid⟩ := performed
      exact ⟨fun some => absurd rfl some, fun _ =>
        ⟨amounts, withdrawals.whole, paid_of_payExit paid⟩⟩
    | _ => exact ⟨fun some => absurd rfl some, fun some => absurd rfl some⟩
  · exact absurd rfl (none call)

end AntSeed.Pools
