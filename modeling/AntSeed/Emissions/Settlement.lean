import AntSeed.Emissions.UsageJournal

/-! # What a settlement can expect of the ledger

AntseedChannels reports every settlement in two calls, one for the seller and one
for the buyer, and does not catch their reverts. Both policies are asked in the
second call. If they fail, the settlement is not recorded; but what they answer is
multiplied and added up, and an answer that is too large reverts the settlement.
-/

namespace AntSeed.Emissions

open Evm

namespace UsageAccounting

/-- The calls of a settlement. -/
def accrueSettlement (s : UsageAccounting) (pools : Pools.SellerPools) (ctx : CallContext)
    (seller buyer : Address) (delta : Nat) : Tx RewardsError UsageAccounting := do
  let s ← s.accrueSellerPoints ctx seller delta
  s.accrueBuyerPoints pools ctx buyer delta

/-- What is recorded of a settlement, for an agent whose pool has the given weight. -/
def settlement (s : UsageAccounting) (ctx : CallContext) (agentId : Word) (poolWeight : Nat)
    (seller buyer : Address) (delta : Nat) : UsageRecord :=
  let (sellerPoints, buyerPoints) := s.policyPoints ctx 0 buyer seller delta
  { epoch := s.accountedEpoch ctx
    buyer := buyer
    seller := seller
    agentId := agentId
    bought := ⟨buyerPoints, buyerPoints * poolWeight⟩
    sold := ⟨sellerPoints, sellerPoints * poolWeight⟩ }

def cleared (s : UsageAccounting) : UsageAccounting := { s with pendingSellerAccrual := 0 }

/-- The settlement gets through: nothing stays pending, and it is recorded everywhere or nowhere. -/
def Unblocked (s : UsageAccounting) (ctx : CallContext) (agentId : Word) (seller buyer : Address)
    (delta : Nat) (result : Tx RewardsError UsageAccounting) : Prop :=
  ∃ s', result = .ok s' ∧ s'.pendingSellerAccrual = 0 ∧
    (s'.ledger = s.ledger ∨ ∃ poolWeight,
      s'.ledger = (s.enter (s.settlement ctx agentId poolWeight seller buyer delta)).ledger)

theorem not_unblocked {s : UsageAccounting} {ctx : CallContext} {agentId : Word}
    {seller buyer : Address} {delta : Nat} {result : Tx RewardsError UsageAccounting}
    (reverts : result.isOk = false) : ¬ s.Unblocked ctx agentId seller buyer delta result := by
  rintro ⟨s', rfl, -⟩
  cases reverts

variable {s : UsageAccounting} {pools : Pools.SellerPools} {ctx : CallContext}
  {seller buyer : Address} {delta poolPower : Nat} {agentId : Word}

theorem accrueSettlement_eq (recorder : s.usageRecorders ctx.sender = true) (isSeller : seller ≠ 0)
    (isBuyer : buyer ≠ 0) (some : delta ≠ 0) :
    s.accrueSettlement pools ctx seller buyer delta = if s.admin.paused then .ok s.cleared
      else s.cleared.recordUsage pools ctx 0 buyer seller delta := by
  unfold accrueSettlement accrueSellerPoints cleared
  rw [if_neg (by simp [recorder])]
  by_cases paused : s.admin.paused = true
  · simp [paused, accrueBuyerPoints, recorder]
  · simp [paused, accrueBuyerPoints, recorder, isSeller, isBuyer, some, require]

def Answers (s : UsageAccounting) (pools : Pools.SellerPools) (ctx : CallContext) (seller : Address)
    (agentId : Word) (poolPower : Nat) : Prop :=
  s.sellerPools ≠ 0 → ctx.agentIdForSeller pools s.sellerPools seller = some agentId ∧
    ctx.poolWeightAtEpoch pools s.sellerPools agentId (s.accountedEpoch ctx) = some poolPower

/-- The settlement is one the ledger records, at the given weight: nothing is paused, the pool has
    the power it needs, and both policies have an answer. -/
structure Recognized (s : UsageAccounting) (ctx : CallContext) (agentId : Word)
    (poolPower poolWeight : Nat) (seller buyer : Address) (delta : Nat) : Prop where
  unpaused : s.admin.paused = false
  pools : s.sellerPools ≠ 0
  agent : agentId ≠ 0
  power : s.minimumAccountedPoolPower ≤ poolPower
  weight : s.policyPoolWeight ctx agentId (s.accountedEpoch ctx) poolPower = some poolWeight
  points : s.policyPoints ctx 0 buyer seller delta ≠ (0, 0)

/-- Its products and the entries it is added to fit their type. -/
structure Affordable (s : UsageAccounting) (ctx : CallContext) (agentId : Word) (poolWeight : Nat)
    (seller buyer : Address) (delta : Nat) : Prop where
  sold : (s.policyPoints ctx 0 buyer seller delta).1 * poolWeight < 2 ^ 256
  bought : (s.policyPoints ctx 0 buyer seller delta).2 * poolWeight < 2 ^ 256
  room : s.Room (s.settlement ctx agentId poolWeight seller buyer delta)

theorem recognized_cleared :
    s.cleared.Recognized ctx agentId poolPower poolWeight seller buyer delta ↔
      s.Recognized ctx agentId poolPower poolWeight seller buyer delta :=
  ⟨fun h => ⟨h.unpaused, h.pools, h.agent, h.power, h.weight, h.points⟩,
    fun h => ⟨h.unpaused, h.pools, h.agent, h.power, h.weight, h.points⟩⟩

theorem room_cleared : s.cleared.Room r ↔ s.Room r :=
  ⟨fun h => ⟨h.total, h.inEpoch, h.ofBuyer, h.ofBuyerAgent, h.ofBuyerEpoch, h.ofBuyerAgentEpoch,
    h.ofAgentEpoch⟩, fun h => ⟨h.total, h.inEpoch, h.ofBuyer, h.ofBuyerAgent, h.ofBuyerEpoch,
    h.ofBuyerAgentEpoch, h.ofAgentEpoch⟩⟩

theorem affordable_cleared :
    s.cleared.Affordable ctx agentId poolWeight seller buyer delta ↔
      s.Affordable ctx agentId poolWeight seller buyer delta :=
  ⟨fun h => ⟨h.sold, h.bought, room_cleared.mp h.room⟩,
    fun h => ⟨h.sold, h.bought, room_cleared.mpr h.room⟩⟩

variable (isSeller : seller ≠ 0) (isBuyer : buyer ≠ 0) (some : delta ≠ 0)
  (answers : s.Answers pools ctx seller agentId poolPower)

include isSeller isBuyer some answers

theorem recordUsage_recognized
    (h : s.Recognized ctx agentId poolPower poolWeight seller buyer delta) :
    s.recordUsage pools ctx 0 buyer seller delta = .ok s' ↔
      s.Affordable ctx agentId poolWeight seller buyer delta ∧
        s' = s.enter (s.settlement ctx agentId poolWeight seller buyer delta) := by
  obtain ⟨isAgent, isPower⟩ := answers h.pools
  have points := h.points
  unfold recordUsage
  rw [require, if_pos (by simp [isSeller, isBuyer]), ok_bind, require, if_pos some, ok_bind]
  simp only [if_neg h.pools, isAgent, answer, ok_bind, if_neg h.agent, isPower,
    if_neg (Nat.not_lt.mpr h.power), h.weight]
  rw [if_neg (by simpa [Prod.ext_iff] using points)]
  simp only [bind_eq_ok, uint_eq_ok, credit_eq_ok]
  constructor
  · rintro ⟨_, ⟨sold, rfl⟩, _, ⟨bought, rfl⟩, room, rfl⟩
    exact ⟨⟨sold, bought, room⟩, rfl⟩
  · rintro ⟨affordable, rfl⟩
    exact ⟨_, ⟨affordable.sold, rfl⟩, _, ⟨affordable.bought, rfl⟩, affordable.room, rfl⟩

theorem recordUsage_skipped (unpaused : s.admin.paused = false)
    (h : ∀ poolWeight, ¬ s.Recognized ctx agentId poolPower poolWeight seller buyer delta) :
    s.recordUsage pools ctx 0 buyer seller delta = .ok s := by
  unfold recordUsage
  rw [require, if_pos (by simp [isSeller, isBuyer]), ok_bind, require, if_pos some, ok_bind]
  split
  · rfl
  next hasPools =>
    obtain ⟨isAgent, isPower⟩ := answers hasPools
    simp only [isAgent, answer, ok_bind, isPower]
    split
    · rfl
    next agent =>
    split
    · rfl
    next power =>
    split
    · rfl
    next poolWeight weight =>
    split
    · rfl
    next points =>
    refine absurd ⟨unpaused, hasPools, agent, Nat.not_lt.mp power, weight, ?_⟩ (h poolWeight)
    simpa [Prod.ext_iff] using points

/-- A settlement gets through exactly if it is not recorded or can be afforded. -/
theorem settlement_unblocked_iff (recorder : s.usageRecorders ctx.sender = true) :
    s.Unblocked ctx agentId seller buyer delta (s.accrueSettlement pools ctx seller buyer delta) ↔
      ∀ poolWeight, s.Recognized ctx agentId poolPower poolWeight seller buyer delta →
        s.Affordable ctx agentId poolWeight seller buyer delta := by
  rw [accrueSettlement_eq recorder isSeller isBuyer some]
  have asked : s.cleared.Answers pools ctx seller agentId poolPower := answers
  constructor
  · rintro ⟨s', done, -, -⟩ poolWeight recognized
    rw [if_neg (by simp [recognized.unpaused])] at done
    have recorded := (recordUsage_recognized isSeller isBuyer some asked
      (recognized_cleared.mpr recognized)).mp done
    exact affordable_cleared.mp recorded.1
  · intro affords
    by_cases paused : s.admin.paused = true
    · rw [if_pos paused]
      exact ⟨_, rfl, rfl, .inl rfl⟩
    · rw [if_neg paused]
      have unpaused : s.admin.paused = false := by simpa using paused
      by_cases recorded : ∃ w, s.Recognized ctx agentId poolPower w seller buyer delta
      · obtain ⟨poolWeight, recognized⟩ := recorded
        have affordable := affordable_cleared.mpr (affords poolWeight recognized)
        refine ⟨_, (recordUsage_recognized isSeller isBuyer some asked
          (recognized_cleared.mpr recognized)).mpr ⟨affordable, rfl⟩, rfl, .inr ⟨poolWeight, rfl⟩⟩
      · have skipped := recordUsage_skipped isSeller isBuyer some asked unpaused
          fun w recognized => recorded ⟨w, recognized_cleared.mp recognized⟩
        exact ⟨_, skipped, rfl, .inl rfl⟩

end UsageAccounting

/-! Account 6 has staked for its agent 1, account 8 records. With a points policy at address 200 that
answers with the largest number, the settlement reverts. -/

def beforeSettlement : List ProtocolCall :=
  [⟨⟨9⟩, world, .gate (.fundLegacyEscrow ⟨6⟩)⟩, ⟨⟨6⟩, world, .gate (.antsApprove ⟨101⟩ 100)⟩,
    ⟨⟨6⟩, world, .pools (.stakeFor ⟨6⟩ ⟨1⟩ 100 10)⟩, ⟨⟨9⟩, world, .gate (.elapse epochDuration)⟩,
    ⟨⟨9⟩, world, .setAccounting (.pointsPolicy ⟨200⟩)⟩]

def settlementContext (points : Option (Word × Word)) : CallContext where
  sender := ⟨8⟩
  now := genesis + epochDuration
  addresses := contracts
  outside := { world with points := fun _ _ _ _ _ => points }

/-- The pools answer, and still the settlement does not get through. -/
theorem largest_points_block : ∃ p, launchPlan.deploy contracts genesis .empty = .ok p ∧
    let s := (protocolMachine contracts).run p beforeSettlement
    let ctx := settlementContext (some (⟨BitVec.allOnes 256⟩, 0))
    s.now = ctx.now ∧ s.accounting.usageRecorders ctx.sender = true ∧
      s.accounting.Answers s.pools ctx ⟨6⟩ ⟨1⟩ 1000 ∧
      ¬ s.accounting.Unblocked ctx ⟨1⟩ ⟨6⟩ ⟨5⟩ 20
        (s.accounting.accrueSettlement s.pools ctx ⟨6⟩ ⟨5⟩ 20) := by
  refine ⟨_, rfl, by decide +kernel, by decide +kernel, fun _ => by decide +kernel, ?_⟩
  exact UsageAccounting.not_unblocked (by decide +kernel)

/-- With answers that can be afforded it gets through. -/
theorem small_points_pass : ∃ p, launchPlan.deploy contracts genesis .empty = .ok p ∧
    let s := (protocolMachine contracts).run p beforeSettlement
    let ctx := settlementContext (some (⟨30⟩, ⟨40⟩))
    s.accounting.Recognized ctx ⟨1⟩ 1000 1000 ⟨6⟩ ⟨5⟩ 20 ∧
      s.accounting.Unblocked ctx ⟨1⟩ ⟨6⟩ ⟨5⟩ 20
        (s.accounting.accrueSettlement s.pools ctx ⟨6⟩ ⟨5⟩ 20) := by
  refine ⟨_, rfl, by constructor <;> decide +kernel, ?_⟩
  refine (@UsageAccounting.settlement_unblocked_iff _ _ _ _ _ _ 1000 _ (by decide) (by decide)
    (by decide) (fun _ => by decide +kernel) (by decide +kernel)).mpr ?_
  intro poolWeight recognized
  have isWeight : poolWeight = 1000 :=
    Option.some.inj (recognized.weight.symm.trans (by decide +kernel))
  subst isWeight
  refine ⟨by decide +kernel, by decide +kernel, ?_⟩
  constructor <;> decide +kernel

end AntSeed.Emissions
