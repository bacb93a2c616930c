import AntSeed.Lib.OwnerIndex
import AntSeed.Pools.Sound

/-! # Portfolios

Who owns a position is recorded four times: by the token, in the position, in the
list of its owner with an index back, and in the owner's totals. The records
agree before and after every call and whenever a receiver is called back, so the
bookkeeping can never be what stops an owner.
-/

namespace AntSeed.Pools

open Evm Function
open Finset Meets

namespace SellerPools

/-- The owner of a position token, if it exists. -/
def holder (s : SellerPools) (q : Nat) : Option Address :=
  if s.nft.owners q = 0 then none else some (s.nft.owners q)

/-- What the live positions of an owner add up to. -/
def stakeOf (weight : Position → Nat) (s : SellerPools) (a : Address) : Nat :=
  ∑ q ∈ Finset.range s.nextPositionId, if s.holder q = some a then weight (s.positions q) else 0

def amountIn (agentId : Word) (position : Position) : Nat :=
  if position.agentId = agentId then position.amount else 0

/-- All records of ownership agree. -/
structure Portfolio (s : SellerPools) : Prop where
  proper : s.nft.Proper
  fresh : ∀ q, s.nextPositionId ≤ q → s.nft.owners q = 0
  recorded : ∀ q, s.nft.owners q ≠ 0 → (s.positions q).owner = s.nft.owners q
  unclosed : ∀ q, s.nft.owners q ≠ 0 →
    (s.positions q).closedAtEpoch = 0 ∧ (s.positions q).withdrawn = false
  closed : ∀ q, (s.positions q).owner ≠ 0 → s.nft.owners q = 0 → (s.positions q).closedAtEpoch ≠ 0
  dated : ∀ q, s.nft.owners q ≠ 0 →
    0 < (s.positions q).stakeStartEpoch ∧ (s.positions q).stakeStartEpoch < 2 ^ 64
  index : OwnerIndex s.stakerPositionIds s.stakerPositionIndex s.holder
  total : ∀ a, s.stakerTotalActiveStake a = s.stakeOf Position.amount a
  agent : ∀ a agentId, s.stakerAgentActiveStake a agentId = s.stakeOf (amountIn agentId) a

/-- The settings are ones the setters accept. -/
structure Bounded (s : SellerPools) : Prop where
  slash : s.maxSlashBps ≤ bpsDenominator
  least : s.minEarlyExitSlashBps ≤ s.maxSlashBps
  penalty : s.moveWeightPenaltyBps ≤ bpsDenominator
  configured : s.Configured

theorem Bounded.congr {s s' : SellerPools} (b : s.Bounded) (slash : s'.maxSlashBps = s.maxSlashBps := by rfl)
    (least : s'.minEarlyExitSlashBps = s.minEarlyExitSlashBps := by rfl)
    (penalty : s'.moveWeightPenaltyBps = s.moveWeightPenaltyBps := by rfl)
    (delay : s'.stakeActivationDelay = s.stakeActivationDelay := by rfl)
    (epochs : s'.minStakeEpochs = s.minStakeEpochs := by rfl) : s'.Bounded :=
  ⟨slash ▸ b.slash, slash ▸ least ▸ b.least, penalty ▸ b.penalty, delay ▸ b.configured.delay,
    epochs ▸ b.configured.least⟩

/-- No position has been opened, and the histories of all are the same. -/
structure SameHistories (s s' : SellerPools) : Prop where
  next : s'.nextPositionId = s.nextPositionId
  starts : s'.positionNormalStartEpoch = s.positionNormalStartEpoch
  ends : s'.positionNormalEndEpoch = s.positionNormalEndEpoch
  withdrawable : s'.positionWithdrawableEpoch = s.positionWithdrawableEpoch

/-- The parts of the state that ownership does not touch. -/
structure SameTerms (s s' : SellerPools) : Prop extends SameHistories s s' where
  locks : s'.positionMaxLockPower = s.positionMaxLockPower
  bounded : s.Bounded → s'.Bounded

/-- Only owners, approvals and settings have changed. -/
structure Trade (s s' : SellerPools) : Prop extends SameTerms s s' where
  terms : ∀ q, ∃ owner, s'.positions q = { s.positions q with owner := owner }
  live : ∀ q, s'.nft.owners q = 0 ↔ s.nft.owners q = 0

/-- Reverts other than those of broken bookkeeping. -/
def Orderly (r : Revert Error) : Prop := r ≠ .underflow ∧ r ≠ .outOfBounds

variable {s s' s'' : SellerPools}

theorem SameHistories.refl (s : SellerPools) : SameHistories s s := ⟨rfl, rfl, rfl, rfl⟩

theorem SameHistories.trans (first : SameHistories s s') (second : SameHistories s' s'') : SameHistories s s'' where
  next := second.next.trans first.next
  starts := second.starts.trans first.starts
  ends := second.ends.trans first.ends
  withdrawable := second.withdrawable.trans first.withdrawable

theorem SameTerms.trans (first : SameTerms s s') (second : SameTerms s' s'') : SameTerms s s'' where
  toSameHistories := first.toSameHistories.trans second.toSameHistories
  locks := second.locks.trans first.locks
  bounded h := second.bounded (first.bounded h)

theorem Trade.refl (s : SellerPools) : Trade s s :=
  ⟨⟨.refl s, rfl, id⟩, fun _ => ⟨_, rfl⟩, fun _ => Iff.rfl⟩

theorem Trade.trans (first : Trade s s') (second : Trade s' s'') : Trade s s'' where
  toSameTerms := first.toSameTerms.trans second.toSameTerms
  terms q := by
    obtain ⟨owner, before⟩ := first.terms q
    obtain ⟨owner', after⟩ := second.terms q
    exact ⟨owner', by rw [after, before]⟩
  live q := (second.live q).trans (first.live q)

variable {amount q : Nat} {a sender source target : Address} {agentId : Word} {ctx : Context}
  {position : Position}

theorem holder_of_owned (owned : s.nft.owners q ≠ 0) : s.holder q = some (s.nft.owners q) := if_neg owned

theorem removeStakerPosition_meets
    (index : OwnerIndex s.stakerPositionIds s.stakerPositionIndex holders)
    (owned : holders q = some a) :
    Meets (s.removeStakerPosition a q) Orderly fun s' => Booked s s' ∧
      s'.stakerTotalActiveStake = s.stakerTotalActiveStake ∧
      s'.stakerAgentActiveStake = s.stakerAgentActiveStake ∧
      OwnerIndex s'.stakerPositionIds s'.stakerPositionIndex (update holders q none) := by
  obtain ⟨positive, found⟩ := index.placed q a owned
  have inside := (List.getElem?_eq_some_iff.mp found).1
  simp only [removeStakerPosition]
  rw [if_neg positive]
  refine .sub (by omega) ?_
  refine .ite (fun inner => ?_) fun atEnd => ?_
  · cases last : (s.stakerPositionIds a)[(s.stakerPositionIds a).length - 1]? with
    | none =>
      have beyond := List.getElem?_eq_none_iff.mp last
      omega
    | some =>
      dsimp only
      rw [if_pos inside]
      exact .pure ⟨rfl, rfl, rfl, index.swapAndPop owned last inner⟩
  · exact .pure ⟨rfl, rfl, rfl, index.removeLast owned (Decidable.not_not.mp atEnd)⟩

/-- New totals of one owner in one pool, and nothing else. -/
structure Restaked (s s' : SellerPools) (a : Address) (agentId : Word) (total agent : Nat) :
    Prop where
  booked : Booked s s'
  ids : s'.stakerPositionIds = s.stakerPositionIds
  index : s'.stakerPositionIndex = s.stakerPositionIndex
  total : s'.stakerTotalActiveStake = update s.stakerTotalActiveStake a total
  agent : s'.stakerAgentActiveStake = update s.stakerAgentActiveStake a
    (update (s.stakerAgentActiveStake a) agentId agent)

theorem restaked_setActiveStake (s : SellerPools) (a : Address) (agentId : Word)
    (total agent : Nat) : Restaked s (s.setActiveStake a agentId total agent) a agentId total agent :=
  ⟨rfl, rfl, rfl, rfl, rfl⟩

theorem decreaseActiveStake_meets (total : amount ≤ s.stakerTotalActiveStake a)
    (agent : amount ≤ s.stakerAgentActiveStake a agentId) :
    Meets (s.decreaseActiveStake a agentId amount) Orderly fun s' =>
      Restaked s s' a agentId (s.stakerTotalActiveStake a - amount)
        (s.stakerAgentActiveStake a agentId - amount) := by
  refine .sub total ?_
  exact .sub agent (pure (restaked_setActiveStake ..))

theorem increaseActiveStake_meets :
    Meets (s.increaseActiveStake a agentId amount) Orderly fun s' =>
      Restaked s s' a agentId (s.stakerTotalActiveStake a + amount)
        (s.stakerAgentActiveStake a agentId + amount) := by
  apply uint ⟨nofun, nofun⟩
  intro _
  apply uint ⟨nofun, nofun⟩
  intro _
  exact .pure (restaked_setActiveStake ..)

theorem Restaked.agent_apply {total agent : Nat} (h : Restaked s s' a agentId total agent)
    (b : Address) (g : Word) :
    s'.stakerAgentActiveStake b g =
      if b = a ∧ g = agentId then agent else s.stakerAgentActiveStake b g := by
  rw [h.agent]
  simp only [Function.update_apply]
  by_cases owner : b = a
  · subst owner
    by_cases pool : g = agentId <;> simp [pool]
  · simp [owner]

theorem le_stakeOf (inv : s.Portfolio) (weight : Position → Nat) (owned : s.nft.owners q ≠ 0) :
    weight (s.positions q) ≤ s.stakeOf weight (s.nft.owners q) := by
  have known : q ∈ Finset.range s.nextPositionId := by
    rw [mem_range]
    by_contra beyond
    exact owned (inv.fresh q (by omega))
  have single := single_le_sum (f := fun x => if s.holder x = some (s.nft.owners q) then
    weight (s.positions x) else 0) (fun _ _ => Nat.zero_le _) known
  rwa [if_pos (holder_of_owned owned)] at single

theorem amount_le_total (inv : s.Portfolio) (owned : s.nft.owners q ≠ 0) :
    (s.positions q).amount ≤ s.stakerTotalActiveStake (s.nft.owners q) := by
  rw [inv.total]
  exact le_stakeOf inv Position.amount owned

theorem amount_le_agent (inv : s.Portfolio) (owned : s.nft.owners q ≠ 0) :
    (s.positions q).amount ≤ s.stakerAgentActiveStake (s.nft.owners q) (s.positions q).agentId := by
  rw [inv.agent]
  have single := le_stakeOf inv (amountIn (s.positions q).agentId) owned
  simpa [amountIn] using single

theorem stakeOf_handOver (weight : Position → Nat) {target : Option Address}
    (known : q < s.nextPositionId) (next : s'.nextPositionId = s.nextPositionId)
    (holders : s'.holder = update s.holder q target)
    (same : ∀ x, weight (s'.positions x) = weight (s.positions x)) (a : Address) :
    s'.stakeOf weight a + (if s.holder q = some a then weight (s.positions q) else 0) =
      s.stakeOf weight a + if target = some a then weight (s.positions q) else 0 := by
  unfold stakeOf
  simp only [next, holders, same]
  exact sum_update_add (fun x o => if o = some a then weight (s.positions x) else 0) s.holder target
    (mem_range.mpr known)

theorem totals_of_transfer (total : amount ≤ s.stakerTotalActiveStake a)
    (agent : amount ≤ s.stakerAgentActiveStake a agentId)
    (first : Restaked s s' a agentId (s.stakerTotalActiveStake a - amount)
      (s.stakerAgentActiveStake a agentId - amount))
    (second : Restaked s' s'' b agentId (s'.stakerTotalActiveStake b + amount)
      (s'.stakerAgentActiveStake b agentId + amount)) (x : Address) :
    (s''.stakerTotalActiveStake x + (if x = a then amount else 0) =
      s.stakerTotalActiveStake x + if x = b then amount else 0) ∧
    ∀ g, s''.stakerAgentActiveStake x g + (if x = a ∧ g = agentId then amount else 0) =
      s.stakerAgentActiveStake x g + if x = b ∧ g = agentId then amount else 0 := by
  constructor
  · rw [second.total, first.total]
    exact shift_add total b x
  · intro g
    rw [second.agent_apply, first.agent_apply, first.agent_apply]
    by_cases pool : g = agentId
    · subst pool
      have moved := shift_add (m := fun y => s.stakerAgentActiveStake y g) agent b x
      simp only [shift, Function.update_apply] at moved
      simpa using moved
    · simp [pool]

theorem holder_eq (owners : s'.nft.owners = update s.nft.owners q target) :
    s'.holder = update s.holder q (if target = 0 then none else some target) := by
  funext x
  unfold holder
  rw [owners]
  by_cases here : x = q
  · subst here
    rw [update_self, update_self]
  · rw [update_of_ne here, update_of_ne here]

section

variable (inv : s.Portfolio) (owned : s.nft.owners q ≠ 0)

include inv owned

theorem Portfolio.known : q < s.nextPositionId := by
  by_contra beyond
  exact owned (inv.fresh q (by omega))

theorem Portfolio.present :
    (s.positions q).owner ≠ 0 := by
  rw [inv.recorded q owned]
  exact owned

theorem Portfolio.handed (receiver : target ≠ 0)
    (proper : s'.nft.Proper) (next : s'.nextPositionId = s.nextPositionId)
    (owners : s'.nft.owners = update s.nft.owners q target)
    (positions : s'.positions = update s.positions q { s.positions q with owner := target })
    (index : OwnerIndex s'.stakerPositionIds s'.stakerPositionIndex
      (update s.holder q (some target))) (total : ∀ x, s'.stakerTotalActiveStake x +
        (if x = s.nft.owners q then (s.positions q).amount else 0) =
      s.stakerTotalActiveStake x + if x = target then (s.positions q).amount else 0)
    (agent : ∀ x g, s'.stakerAgentActiveStake x g +
        (if x = s.nft.owners q ∧ g = (s.positions q).agentId then (s.positions q).amount else 0) =
      s.stakerAgentActiveStake x g +
        if x = target ∧ g = (s.positions q).agentId then (s.positions q).amount else 0) :
    s'.Portfolio := by
  have known := inv.known owned
  have terms : ∀ x, (s'.positions x).closedAtEpoch = (s.positions x).closedAtEpoch ∧
      (s'.positions x).withdrawn = (s.positions x).withdrawn ∧
      (s'.positions x).amount = (s.positions x).amount ∧
      (s'.positions x).agentId = (s.positions x).agentId ∧
      (s'.positions x).stakeStartEpoch = (s.positions x).stakeStartEpoch := by
    intro x
    rw [positions]
    by_cases here : x = q
    · subst here
      rw [update_self]
      exact ⟨rfl, rfl, rfl, rfl, rfl⟩
    · rw [update_of_ne here]
      exact ⟨rfl, rfl, rfl, rfl, rfl⟩
  have live : ∀ x, s'.nft.owners x = 0 ↔ s.nft.owners x = 0 := by
    intro x
    rw [owners]
    by_cases here : x = q
    · subst here
      rw [update_self]
      exact ⟨fun zero => absurd zero receiver, fun zero => absurd zero owned⟩
    · rw [update_of_ne here]
  have holders : s'.holder = update s.holder q (some target) := by
    rw [holder_eq owners, if_neg receiver]
  constructor
  · exact proper
  · intro x beyond
    exact (live x).mpr (inv.fresh x (next ▸ beyond))
  · intro x held
    rw [owners, positions] at *
    by_cases here : x = q
    · subst here
      rw [update_self, update_self]
    · rw [update_of_ne here] at held ⊢
      rw [update_of_ne here]
      exact inv.recorded x held
  · intro x held
    rw [(terms x).1, (terms x).2.1]
    exact inv.unclosed x fun zero => held ((live x).mpr zero)
  · intro x present gone
    have other : x ≠ q := by
      rintro rfl
      exact owned ((live x).mp gone)
    rw [positions, update_of_ne other] at present
    rw [(terms x).1]
    exact inv.closed x present ((live x).mp gone)
  · intro x held
    rw [(terms x).2.2.2.2]
    exact inv.dated x fun zero => held ((live x).mpr zero)
  · rw [holders]
    exact index
  · intro x
    have sums := stakeOf_handOver Position.amount known next holders (fun y => (terms y).2.2.1) x
    have before := inv.total x
    have moved := total x
    simp only [holder_of_owned owned, Option.some.injEq, eq_comm (b := x)] at sums
    omega
  · intro x g
    have sums := stakeOf_handOver (amountIn g) known next holders (fun y => by
      unfold amountIn
      rw [(terms y).2.2.1, (terms y).2.2.2.1]) x
    have before := inv.agent x g
    have moved := agent x g
    have worth : amountIn g (s.positions q) =
      if (s.positions q).agentId = g then (s.positions q).amount else 0 := rfl
    rw [worth] at sums
    simp only [holder_of_owned owned, Option.some.injEq, eq_comm (b := x), ← ite_and,
      eq_comm (a := g)] at sums moved
    omega

end

theorem Booked.sameTerms (h : Booked s s') : SameTerms s s' := by
  rw [h]
  exact ⟨⟨rfl, rfl, rfl, rfl⟩, rfl, fun b => b.congr⟩

theorem sameTerms_of_nft (s : SellerPools) (nft : Erc721) (positions : Nat → Position) :
    SameTerms s { s with nft := nft, positions := positions } :=
  ⟨⟨rfl, rfl, rfl, rfl⟩, rfl, fun b => b.congr⟩

theorem Trade.of_handed (same : SameTerms s s') (owned : s.nft.owners q ≠ 0) (receiver : target ≠ 0)
    (owners : s'.nft.owners = update s.nft.owners q target)
    (positions : s'.positions = update s.positions q { s.positions q with owner := target }) :
    Trade s s' where
  toSameTerms := same
  terms x := by
    rw [positions]
    by_cases here : x = q
    · subst here
      exact ⟨target, update_self ..⟩
    · exact ⟨_, update_of_ne here ..⟩
  live x := by
    rw [owners]
    by_cases here : x = q
    · subst here
      rw [update_self]
      exact ⟨fun zero => absurd zero receiver, fun zero => absurd zero owned⟩
    · rw [update_of_ne here]

theorem handOver_transfers (inv : s.Portfolio) (receiver : target ≠ 0)
    (somebody : auth ≠ 0) :
    Meets (s.handOver target q auth) Orderly fun out => out.1.Portfolio ∧ Trade s out.1 := by
  unfold handOver
  refine .bind (Erc721.handOver_meets fun _ => ⟨nofun, nofun⟩) ?_
  rintro ⟨nft, source⟩ ⟨isOwner, owners, proper, held⟩
  dsimp only at isOwner owners proper held ⊢
  have owned : s.nft.owners q ≠ 0 := isOwner ▸ held inv.proper somebody
  subst isOwner
  rw [if_neg owned, if_neg receiver]
  refine .bind (removeStakerPosition_meets inv.index (holder_of_owned owned)) ?_
  rintro removed ⟨booked, total, agent, index⟩
  have added := index.add (update_self q none s.holder) target
  rw [Function.update_idem] at added
  have enough : (s.positions q).amount ≤
      (removed.addStakerPosition target q).stakerTotalActiveStake (s.nft.owners q) := by
    show _ ≤ removed.stakerTotalActiveStake _
    rw [total]
    exact amount_le_total inv owned
  have enoughAgent : (s.positions q).amount ≤ (removed.addStakerPosition target q).stakerAgentActiveStake
      (s.nft.owners q) (s.positions q).agentId := by
    show _ ≤ removed.stakerAgentActiveStake _ _
    rw [agent]
    exact amount_le_agent inv owned
  refine .bind (decreaseActiveStake_meets enough enoughAgent) fun decreased first => ?_
  refine .bind increaseActiveStake_meets fun increased second => pure ?_
  have totals := totals_of_transfer enough enoughAgent first second
  have all : Booked { s with nft := nft } increased :=
    ((booked.trans (booked_addStakerPosition ..)).trans first.booked).trans second.booked
  have nft' : increased.nft = nft := by rw [all]
  have owners' : (increased.setPosition q { s.positions q with owner := target }).nft.owners =
      update s.nft.owners q target := by
    show increased.nft.owners = _
    rw [nft', owners]
  have positions' : (increased.setPosition q { s.positions q with owner := target }).positions =
      update s.positions q { s.positions q with owner := target } := by
    show update increased.positions _ _ = _
    rw [all]
  have same : SameTerms s (increased.setPosition q { s.positions q with owner := target }) :=
    ((sameTerms_of_nft s nft s.positions).trans all.sameTerms).trans
      (sameTerms_of_nft increased increased.nft _)
  refine ⟨inv.handed owned receiver ?_ same.next owners' positions' ?_ (fun x => ?_) fun x => ?_,
    .of_handed same owned receiver owners' positions'⟩
  · show increased.nft.Proper
    rw [nft']
    exact proper inv.proper
  · show OwnerIndex increased.stakerPositionIds increased.stakerPositionIndex _
    rw [second.ids, second.index, first.ids, first.index]
    exact added
  · rw [← total]
    exact (totals x).1
  · rw [← agent]
    exact (totals x).2

/-- The records of ownership are the same, up to approvals. -/
structure SameOwners (s s' : SellerPools) : Prop where
  positions : s'.positions = s.positions
  owners : s'.nft.owners = s.nft.owners
  proper : s.nft.Proper → s'.nft.Proper
  ids : s'.stakerPositionIds = s.stakerPositionIds
  index : s'.stakerPositionIndex = s.stakerPositionIndex
  total : s'.stakerTotalActiveStake = s.stakerTotalActiveStake
  agent : s'.stakerAgentActiveStake = s.stakerAgentActiveStake

theorem Portfolio.congr (inv : s.Portfolio) (next : s'.nextPositionId = s.nextPositionId)
    (terms : ∀ q, ∃ stakeEndEpoch, s'.positions q =
      { s.positions q with stakeEndEpoch := stakeEndEpoch })
    (owners : s'.nft.owners = s.nft.owners) (proper : s'.nft.Proper)
    (ids : s'.stakerPositionIds = s.stakerPositionIds)
    (index : s'.stakerPositionIndex = s.stakerPositionIndex)
    (total : s'.stakerTotalActiveStake = s.stakerTotalActiveStake)
    (agent : s'.stakerAgentActiveStake = s.stakerAgentActiveStake) : s'.Portfolio := by
  have holders : s'.holder = s.holder := by
    funext q
    unfold holder
    rw [owners]
  have sums : ∀ (weight : Position → Nat), (∀ q, weight (s'.positions q) = weight (s.positions q)) →
      ∀ a, s'.stakeOf weight a = s.stakeOf weight a := by
    intro weight same a
    unfold stakeOf
    rw [next, holders]
    simp only [same]
  constructor
  · exact proper
  · rw [next, owners]
    exact inv.fresh
  · intro q held
    obtain ⟨_, same⟩ := terms q
    rw [owners] at held ⊢
    rw [same]
    exact inv.recorded q held
  · intro q held
    obtain ⟨_, same⟩ := terms q
    rw [owners] at held
    rw [same]
    exact inv.unclosed q held
  · intro q present gone
    obtain ⟨_, same⟩ := terms q
    rw [owners] at gone
    rw [same] at present ⊢
    exact inv.closed q present gone
  · intro q held
    obtain ⟨_, same⟩ := terms q
    rw [owners] at held
    rw [same]
    exact inv.dated q held
  · rw [ids, index, holders]
    exact inv.index
  · intro a
    rw [total, sums Position.amount (fun q => by obtain ⟨_, same⟩ := terms q; rw [same])]
    exact inv.total a
  · intro a agentId
    rw [agent, sums (amountIn agentId) (fun q => by obtain ⟨_, same⟩ := terms q; rw [same]; rfl)]
    exact inv.agent a agentId

theorem SameOwners.portfolio (same : SameOwners s s') (next : s'.nextPositionId = s.nextPositionId)
    (inv : s.Portfolio) : s'.Portfolio :=
  inv.congr next (fun q => ⟨_, by rw [same.positions]⟩) same.owners (same.proper inv.proper) same.ids
    same.index same.total same.agent

theorem SameOwners.trade (same : SameOwners s s') (terms : SameTerms s s') : Trade s s' where
  toSameTerms := terms
  terms q := ⟨_, by rw [same.positions]⟩
  live q := by rw [same.owners]

section

variable (inv : s.Portfolio)

include inv

theorem trade_of_same (same : SameOwners s s') (terms : SameTerms s s') : s'.Portfolio ∧ Trade s s' :=
  ⟨same.portfolio terms.next inv, same.trade terms⟩

theorem set_trades :
    Meets (s.set sender setting) Orderly fun s' => s'.Portfolio ∧ Trade s s' := by
  apply check ⟨nofun, nofun⟩
  cases setting with
  | stakingSource | rewardStaker | restakedRewardWeightBonus =>
    apply check ⟨nofun, nofun⟩
    exact .pure (trade_of_same inv ⟨rfl, rfl, id, rfl, rfl, rfl, rfl⟩
      ⟨⟨rfl, rfl, rfl, rfl⟩, rfl, fun b => b.congr⟩)
  | poolConfig =>
    apply require ⟨nofun, nofun⟩
    intro epochs
    apply require ⟨nofun, nofun⟩
    intro slashes
    refine .pure (trade_of_same inv ⟨rfl, rfl, id, rfl, rfl, rfl, rfl⟩
      ⟨⟨rfl, rfl, rfl, rfl⟩, rfl, fun b => ⟨?_, ?_, b.penalty, ?_, ?_⟩⟩) <;> dsimp only <;> omega
  | moveWeightPenalty =>
    apply require ⟨nofun, nofun⟩
    intro small
    exact .pure (trade_of_same inv ⟨rfl, rfl, id, rfl, rfl, rfl, rfl⟩
      ⟨⟨rfl, rfl, rfl, rfl⟩, rfl, fun b =>
        ⟨b.slash, b.least, small, b.configured.delay, b.configured.least⟩⟩)

theorem transferFrom_trades (somebody : sender ≠ 0) :
    Meets (s.transferFrom sender source target q) Orderly fun s' => s'.Portfolio ∧ Trade s s' := by
  refine .ite (fun _ => ⟨nofun, nofun⟩) fun receiver => ?_
  refine .bind (handOver_transfers inv receiver somebody) ?_
  rintro ⟨handed, previous⟩ ⟨portfolio, trade⟩
  exact .ite (fun _ => pure ⟨portfolio, trade⟩) fun _ => ⟨nofun, nofun⟩

theorem unguarded_trades (somebody : sender ≠ 0) (call : Unguarded) :
    Meets (s.unguarded sender call) Orderly fun s' => s'.Portfolio ∧ Trade s s' := by
  cases call with
  | transferFrom => exact transferFrom_trades inv somebody
  | approve target positionId =>
    refine .bind (Q := fun nft => nft.Proper ∧ nft.owners = s.nft.owners) ?_ ?_
    · cases h : (s.nft.approve sender target positionId : Tx Error Erc721) with
      | ok => exact inv.proper.approve h
      | error =>
        unfold Erc721.approve Erc721.requireOwned at h
        split at h
        · cases h
          exact ⟨nofun, nofun⟩
        · simp only [ok_bind] at h
          split at h
          · cases h
            exact ⟨nofun, nofun⟩
          · cases h
    · rintro nft ⟨proper, owners⟩
      exact .pure (trade_of_same inv ⟨rfl, owners, fun _ => proper, rfl, rfl, rfl, rfl⟩
        (sameTerms_of_nft s nft s.positions))
  | setApprovalForAll operator approved =>
    refine .bind (Q := fun nft => nft.Proper ∧ nft.owners = s.nft.owners) ?_ ?_
    · cases h : (s.nft.setApprovalForAll sender operator approved : Tx Error Erc721) with
      | ok => exact inv.proper.setApprovalForAll somebody h
      | error =>
        unfold Erc721.setApprovalForAll at h
        split at h
        · cases h
          exact ⟨nofun, nofun⟩
        · cases h
    · rintro nft ⟨proper, owners⟩
      exact .pure (trade_of_same inv ⟨rfl, owners, fun _ => proper, rfl, rfl, rfl, rfl⟩
        (sameTerms_of_nft s nft s.positions))
  | set => exact set_trades inv
  | transferOwnership newOwner | acceptOwnership | renounceOwnership =>
    refine .require ⟨nofun, nofun⟩ fun _ => pure ?_
    exact trade_of_same inv ⟨rfl, rfl, id, rfl, rfl, rfl, rfl⟩ ⟨⟨rfl, rfl, rfl, rfl⟩, rfl, fun b => b.congr⟩

theorem reenter_trades (call : Address × Unguarded) :
    (s.reenter call).Portfolio ∧ Trade s (s.reenter call) := by
  unfold reenter
  split
  · exact ⟨inv, .refl s⟩
  next somebody =>
    split
    next taken => exact (unguarded_trades inv somebody call.2).result taken
    · exact ⟨inv, .refl s⟩

theorem checkOnERC721Received_trades :
    Meets (s.checkOnERC721Received ctx q) Orderly fun s' => s'.Portfolio ∧ Trade s s' := by
  unfold checkOnERC721Received
  split
  · exact ⟨nofun, nofun⟩
  next calls _ =>
    refine .pure ?_
    clear * - inv
    induction calls generalizing s with
    | nil => exact ⟨inv, .refl s⟩
    | cons call calls ih =>
      obtain ⟨portfolio, trade⟩ := reenter_trades inv call
      obtain ⟨portfolio', trades⟩ := ih portfolio
      exact ⟨portfolio', trade.trans trades⟩

theorem safeTransferFrom_trades (somebody : ctx.sender ≠ 0) :
    Meets (s.safeTransferFrom ctx source target q) Orderly fun s' =>
      s'.Portfolio ∧ Trade s s' := by
  refine .bind (transferFrom_trades inv somebody) ?_
  rintro moved ⟨portfolio, trade⟩
  exact (checkOnERC721Received_trades portfolio).mono fun s' ⟨portfolio', trades⟩ =>
    ⟨portfolio', trade.trans trades⟩

end

theorem stakeOf_opened {owner : Address}
    (next : s'.nextPositionId = s.nextPositionId + 1)
    (holders : s'.holder = update s.holder s.nextPositionId (some owner))
    (positions : s'.positions = update s.positions s.nextPositionId position) (a : Address) :
    s'.stakeOf weight a = s.stakeOf weight a + if owner = a then weight position else 0 := by
  unfold stakeOf
  rw [next, sum_range_succ, holders, positions, update_self, update_self]
  simp only [Option.some.injEq]
  congr 1
  refine sum_congr rfl fun q before => ?_
  have other : q ≠ s.nextPositionId := Nat.ne_of_lt (mem_range.mp before)
  rw [update_of_ne other, update_of_ne other]

theorem Portfolio.opened (inv : s.Portfolio) (somebody : position.owner ≠ 0)
    (isOpen : position.closedAtEpoch = 0 ∧ position.withdrawn = false)
    (dated : 0 < position.stakeStartEpoch ∧ position.stakeStartEpoch < 2 ^ 64)
    (proper : s'.nft.Proper) (next : s'.nextPositionId = s.nextPositionId + 1)
    (owners : s'.nft.owners = update s.nft.owners s.nextPositionId position.owner)
    (positions : s'.positions = update s.positions s.nextPositionId position)
    (index : OwnerIndex s'.stakerPositionIds s'.stakerPositionIndex
      (update s.holder s.nextPositionId (some position.owner)))
    (total : ∀ x, s'.stakerTotalActiveStake x =
      s.stakerTotalActiveStake x + if position.owner = x then position.amount else 0)
    (agent : ∀ x g, s'.stakerAgentActiveStake x g =
      s.stakerAgentActiveStake x g + if position.owner = x then amountIn g position else 0) :
    s'.Portfolio := by
  have holders : s'.holder = update s.holder s.nextPositionId (some position.owner) := by
    rw [holder_eq owners, if_neg somebody]
  constructor
  · exact proper
  · intro x beyond
    rw [owners, update_of_ne (by omega)]
    exact inv.fresh x (by omega)
  · intro x held
    rw [owners, positions] at *
    by_cases here : x = s.nextPositionId
    · subst here
      rw [update_self, update_self]
    · rw [update_of_ne here] at held ⊢
      rw [update_of_ne here]
      exact inv.recorded x held
  · intro x held
    rw [owners] at held
    rw [positions]
    by_cases here : x = s.nextPositionId
    · subst here
      rw [update_self]
      exact isOpen
    · rw [update_of_ne here] at held ⊢
      exact inv.unclosed x held
  · intro x present gone
    rw [owners] at gone
    rw [positions] at present ⊢
    by_cases here : x = s.nextPositionId
    · subst here
      rw [update_self] at gone
      exact absurd gone somebody
    · rw [update_of_ne here] at gone present ⊢
      exact inv.closed x present gone
  · intro x held
    rw [owners] at held
    rw [positions]
    by_cases here : x = s.nextPositionId
    · subst here
      rw [update_self]
      exact dated
    · rw [update_of_ne here] at held ⊢
      exact inv.dated x held
  · rw [holders]
    exact index
  · intro x
    rw [total, stakeOf_opened next holders positions, inv.total]
  · intro x g
    rw [agent, stakeOf_opened next holders positions, inv.agent]

theorem Portfolio.gone (inv : s.Portfolio) (position : Position) (owned : s.nft.owners q ≠ 0)
    (amount : position.amount = (s.positions q).amount)
    (agentId : position.agentId = (s.positions q).agentId) (closed : position.closedAtEpoch ≠ 0)
    (proper : s'.nft.Proper) (next : s'.nextPositionId = s.nextPositionId)
    (owners : s'.nft.owners = update s.nft.owners q 0)
    (positions : s'.positions = update s.positions q position)
    (index : OwnerIndex s'.stakerPositionIds s'.stakerPositionIndex (update s.holder q none))
    (total : ∀ x, s'.stakerTotalActiveStake x +
        (if x = s.nft.owners q then (s.positions q).amount else 0) = s.stakerTotalActiveStake x)
    (agent : ∀ x g, s'.stakerAgentActiveStake x g +
        (if x = s.nft.owners q ∧ g = (s.positions q).agentId then (s.positions q).amount else 0) =
      s.stakerAgentActiveStake x g) : s'.Portfolio := by
  have known := inv.known owned
  have others : ∀ x, s'.nft.owners x ≠ 0 → x ≠ q ∧ s.nft.owners x ≠ 0 ∧
      s'.nft.owners x = s.nft.owners x ∧ s'.positions x = s.positions x := by
    intro x held
    rw [owners] at held
    by_cases here : x = q
    · subst here
      rw [update_self] at held
      exact absurd rfl held
    · rw [update_of_ne here] at held
      rw [owners, positions, update_of_ne here, update_of_ne here]
      exact ⟨here, held, rfl, rfl⟩
  have holders : s'.holder = update s.holder q none := by
    rw [holder_eq owners, if_pos rfl]
  constructor
  · exact proper
  · intro x beyond
    rw [owners]
    by_cases here : x = q
    · subst here
      exact update_self ..
    · rw [update_of_ne here]
      exact inv.fresh x (next ▸ beyond)
  · intro x held
    obtain ⟨-, before, sameOwner, same⟩ := others x held
    rw [sameOwner, same]
    exact inv.recorded x before
  · intro x held
    obtain ⟨-, before, -, same⟩ := others x held
    rw [same]
    exact inv.unclosed x before
  · intro x present gone
    rw [owners] at gone
    rw [positions] at present ⊢
    by_cases here : x = q
    · subst here
      rw [update_self]
      exact closed
    · rw [update_of_ne here] at gone present ⊢
      exact inv.closed x present gone
  · intro x held
    obtain ⟨-, before, -, same⟩ := others x held
    rw [same]
    exact inv.dated x before
  · rw [holders]
    exact index
  · intro x
    have sums := stakeOf_handOver Position.amount known next holders (fun y => by
      rw [positions]
      by_cases here : y = q
      · subst here
        rw [update_self, amount]
      · rw [update_of_ne here]) x
    have before := inv.total x
    have moved := total x
    simp only [holder_of_owned owned, Option.some.injEq, reduceCtorEq, if_false,
      eq_comm (b := x)] at sums
    omega
  · intro x g
    have sums := stakeOf_handOver (amountIn g) known next holders (fun y => by
      rw [positions]
      by_cases here : y = q
      · subst here
        rw [update_self]
        unfold amountIn
        rw [amount, agentId]
      · rw [update_of_ne here]) x
    have before := inv.agent x g
    have moved := agent x g
    have worth : amountIn g (s.positions q) =
      if (s.positions q).agentId = g then (s.positions q).amount else 0 := rfl
    rw [worth] at sums
    simp only [holder_of_owned owned, Option.some.injEq, reduceCtorEq, eq_comm (b := x),
      ← ite_and, false_and, if_false, eq_comm (a := g)] at sums moved
    omega

end SellerPools

end AntSeed.Pools
