import AntSeed.Emissions.Moves
import AntSeed.Emissions.UsageClaims

/-! # Usage rewards never over-commit their bucket

Over every run of the emission contracts in which one bucket of the gate stays
with the usage rewards controller: the bucket is charged for the rewards paid and
the remainders settled and for nothing else, so it always has room for the next
payment; every reward is paid once; and the budgets of an epoch, once frozen,
price all of its payments.
-/

namespace AntSeed.Emissions

open Evm
open Gate (Bucketed Spares)
open Pools (SellerPools)
open Meets UsageRewards UsageAccounting

variable {addresses : Addresses} {ants : Erc20} {e now : Nat} {id : Word} {op : ProtocolOperation}
  {p : Protocol}

theorem GateClaims.spares {sender : Address} {holder : Address} {g g' : Gate}
    {ants ants' : Erc20} (claims : GateClaims now sender g ants g' ants') (other : sender ≠ holder)
    (nonzero : sender ≠ 0) (h : Bucketed (currentEpoch now) id holder g) :
    Spares (currentEpoch now) id holder g g' := by
  induction claims with
  | refl => exact .refl h
  | claim claimed => exact Gate.claim_spares h other nonzero claimed
  | remainder claimed => exact Gate.claimRemainder_spares h other nonzero claimed
  | trans first second ihFirst ihSecond =>
    have spared := ihFirst h
    exact spared.trans (ihSecond spared.bucketed)

namespace ProtocolOperation

/-- The call leaves the bucket with its controller. -/
def Dedicates (id : Word) (holder : Address) : ProtocolOperation → Prop
  | .gate op => op.Dedicates id holder
  | _ => True

def claims (k : Claimant) (e : Nat) : ProtocolOperation → Bool
  | .claimAgentReward agentId epoch => decide (.inl agentId = k ∧ epoch = e)
  | .claimAgentRewardFor _ agentId epoch => decide (.inl agentId = k ∧ epoch = e)
  | .stakeAgentReward agentId epoch _ => decide (.inl agentId = k ∧ epoch = e)
  | .claimBuyerReward buyer epoch => decide (.inr buyer = k ∧ epoch = e)
  | .stakeBuyerReward buyer epoch _ _ => decide (.inr buyer = k ∧ epoch = e)
  | _ => false

end ProtocolOperation

/-- The accounts of the bucket are in order. -/
def Protocol.Committed (addresses : Addresses) (id : Word) (p : Protocol) : Prop :=
  Emissions.Committed (currentEpoch p.now) id addresses.usageRewards p.gate p.accounting
    p.usageRewards

/-- What a claimant is quoted for an epoch. -/
def Protocol.quote (addresses : Addresses) (e : Nat) (p : Protocol) : Claimant → Tx RewardsError Nat
  | .inl agentId =>
    p.usageRewards.pendingAgentReward p.gate p.accounting addresses.usageRewards agentId e
  | .inr buyer =>
    p.usageRewards.pendingBuyerReward p.gate p.accounting addresses.usageRewards buyer e

/-- What a call that charges the bucket has done. -/
structure Charged (addresses : Addresses) (id : Word) (op : ProtocolOperation) (p p' : Protocol) :
    Prop where
  committed : p'.Committed addresses id
  grows : Extends p.usageRewards p'.usageRewards
  paid : ∀ k e, op.claims k e = true → PaidOnce (currentEpoch p.now) id addresses.usageRewards
    p.gate p'.gate p.accounting p.usageRewards p'.usageRewards k e

theorem PaidOnce.charged
    {p p' : Protocol} {k : Claimant} (now : p'.now = p.now)
    (accounting : p'.accounting = p.accounting)
    (claims : ∀ k' e', op.claims k' e' = true → k = k' ∧ e = e')
    (paid : PaidOnce (currentEpoch p.now) id addresses.usageRewards p.gate p'.gate p.accounting
      p.usageRewards p'.usageRewards k e) : Charged addresses id op p p' := by
  refine ⟨?_, paid.grows, ?_⟩
  · unfold Protocol.Committed
    rw [now, accounting]
    exact paid.committed
  · intro k' e' isClaim
    obtain ⟨rfl, rfl⟩ := claims k' e' isClaim
    exact paid

theorem perform_meets (nonzero : addresses.usageRewards ≠ 0)
    (h : p.Committed addresses id) {call : ProtocolCall}
    (charges : call.op.chargesUsage = true) :
    Meets (p.perform addresses call) NotExceeded (Charged addresses id call.op p) := by
  obtain ⟨sender, outside, op⟩ := call
  have started : ∀ asked, Emissions.Committed
      (currentEpoch (p.context addresses ⟨sender, outside, asked⟩).now) id
      (p.context addresses ⟨sender, outside, asked⟩).addresses.usageRewards p.gate p.accounting
      p.usageRewards := fun _ => h
  cases op with
  | claimAgentReward =>
    exact .bind (claimAgentReward_meets (started _) nonzero) fun _ paid =>
      pure (paid.charged rfl rfl fun _ _ => of_decide_eq_true)
  | claimAgentRewardFor =>
    exact .bind (claimAgentRewardFor_meets (started _) nonzero) fun _ paid =>
      pure (paid.charged rfl rfl fun _ _ => of_decide_eq_true)
  | stakeAgentReward =>
    exact .bind (stakeAgentReward_meets (started _) nonzero) fun _ paid =>
      pure (paid.charged rfl rfl fun _ _ => of_decide_eq_true)
  | claimBuyerReward =>
    exact .bind (claimBuyerReward_meets (started _) nonzero) fun _ paid =>
      pure (paid.charged rfl rfl fun _ _ => of_decide_eq_true)
  | stakeBuyerReward =>
    exact .bind (stakeBuyerReward_meets (started _) nonzero) fun _ paid =>
      pure (paid.charged rfl rfl fun _ _ => of_decide_eq_true)
  | settleUsageRemainder =>
    exact .bind (settleEpochRemainder_meets (started _) nonzero) fun _ ⟨committed, grows⟩ =>
      pure ⟨committed, grows, fun _ _ => nofun⟩
  | claimSellerEmissions epochs =>
    refine .ite (fun _ => ?_) fun _ => pure ⟨h, .of_same rfl rfl, fun _ _ => nofun⟩
    refine .bind (Q := fun result =>
      (p.withUsage result).Committed addresses id ∧ Extends p.usageRewards result.1) ?_
        fun _ ⟨committed, grows⟩ => pure ⟨committed, grows, fun _ _ => nofun⟩
    apply check nofun
    refine .bind (Q := fun _ => True) ?_ fun agentId _ => ?_
    · exact .ite (fun _ => trivial) fun _ => (answer_meets nofun).mono fun _ _ => trivial
    refine .ite (fun _ => pure ⟨h, .of_same rfl rfl⟩) fun _ => ?_
    refine .ite (fun _ => pure ⟨h, .of_same rfl rfl⟩) fun _ => ?_
    exact claimEpochs_meets (started _) nonzero epochs
  | _ => cases charges

section Steps

variable {addresses : Addresses} {id : Word} {p p' : Protocol} {call : ProtocolCall}

theorem Protocol.Committed.unaffected (h : p.Committed addresses id) (now : p'.now = p.now)
    (gate : p'.gate = p.gate) (accounting : p'.accounting = p.accounting)
    (frozen : p'.usageRewards.frozenUsageBudgets = p.usageRewards.frozenUsageBudgets)
    (claimed : p'.usageRewards.claimed = p.usageRewards.claimed)
    (settled : p'.usageRewards.epochRemainderSettled = p.usageRewards.epochRemainderSettled) :
    p'.Committed addresses id ∧ Extends p.usageRewards p'.usageRewards := by
  refine ⟨?_, .of_same frozen claimed⟩
  unfold Protocol.Committed
  rw [now, gate, accounting]
  exact Emissions.Committed.frame h (Nat.le_refl _) (.refl h.bucketed) (.refl _) frozen claimed settled

theorem Protocol.Committed.recorded (h : p.Committed addresses id) {accounting : UsageAccounting}
    (records : p.accounting.Records (currentEpoch p.now) accounting) :
    ({ p with accounting := accounting } : Protocol).Committed addresses id ∧
      Extends p.usageRewards p.usageRewards :=
  ⟨Emissions.Committed.frame h (Nat.le_refl _) (.refl h.bucketed) records rfl rfl rfl, .of_same rfl rfl⟩

theorem Protocol.Committed.spared (h : p.Committed addresses id) {gate : Gate}
    {poolsRewards : SellerPoolsRewards} (later : p.now ≤ now)
    (spares : Spares (currentEpoch p.now) id addresses.usageRewards p.gate gate) :
    ({ p with now := now, gate := gate, ants := ants, poolsRewards := poolsRewards } :
      Protocol).Committed addresses id ∧ Extends p.usageRewards p.usageRewards :=
  ⟨Emissions.Committed.frame h (currentEpoch_mono later) spares (.refl _) rfl rfl rfl, .of_same rfl rfl⟩

theorem step_committed (separate : addresses.Separate) (dedicates : call.op.Dedicates id
      addresses.usageRewards) (h : p.Committed addresses id)
    (taken : p.step addresses call = .ok p') :
    p'.Committed addresses id ∧ Extends p.usageRewards p'.usageRewards := by
  have accepted := taken
  obtain ⟨_, outsider, taken⟩ := ran taken
  obtain ⟨nonzero, -, -, notUsage, -⟩ := require_eq_ok.mp outsider
  have other : addresses.poolsRewards ≠ addresses.usageRewards := separate.usage_staker.symm
  cases charges : call.op.chargesUsage with
  | true =>
    have charged := (perform_meets separate.usage_zero h charges).result taken
    exact ⟨charged.committed, charged.grows⟩
  | false =>
    cases Protocol.step_move accepted with
    | gate is moved =>
      rw [is] at dedicates
      obtain ⟨later, spares⟩ := step_spares (s := p.gateState) ⟨call.sender, _⟩ h.bucketed dedicates
        notUsage nonzero moved
      exact h.spared later spares
    | ledger logs => exact h.recorded logs.records
    | usage charged => cases charges.symm.trans charged
    | usageStake charged => cases charges.symm.trans charged
    | index _ indexed =>
      have claims := SellerPoolsRewards.indexPoolRewards_claims indexed
      exact h.spared (Nat.le_refl _) (claims.spares other separate.staker_zero h.bucketed)
    | stakerRemainder _ claims =>
      exact h.spared (Nat.le_refl _) (claims.spares other separate.staker_zero h.bucketed)
    | _ => exact h.unaffected rfl rfl rfl rfl rfl rfl

theorem step_quote (separate : addresses.Separate) (dedicates : call.op.Dedicates id
      addresses.usageRewards) (h : p.Committed addresses id)
    (frozen : (p.usageRewards.frozenUsageBudgets e).frozen = true)
    (taken : p.step addresses call = .ok p') :
    (p'.usageRewards.frozenUsageBudgets e).frozen = true ∧ p'.quote addresses e = p.quote addresses e := by
  have same := (step_committed separate dedicates h taken).2.frozen e frozen
  have elapsed := (h.elapsed e frozen).1
  have records : p.accounting.Records (currentEpoch p.now) p'.accounting := by
    cases Protocol.step_move taken with
    | ledger logs => exact logs.records
    | _ => exact .refl _
  refine ⟨same ▸ frozen, ?_⟩
  funext k
  cases k <;>
    simp [Protocol.quote, pendingAgentReward, pendingBuyerReward, usageEpochBudgets, same, frozen,
      weightedPoolPointsByEpoch, totalWeightedPoolPointsByEpoch, weightedBuyerPointsByEpoch,
      totalWeightedBuyerPointsByEpoch, records.agents e elapsed, records.buyers e elapsed,
      records.totals e elapsed]

variable {k : Claimant}

theorem ProtocolOperation.chargesUsage_of_claims
    (claims : op.claims k e = true) : op.chargesUsage = true := by
  cases op with
  | claimAgentReward | claimAgentRewardFor | stakeAgentReward | claimBuyerReward | stakeBuyerReward => rfl
  | _ => cases claims

theorem step_claims (separate : addresses.Separate) (h : p.Committed addresses id)
    (claims : call.op.claims k e = true) (taken : p.step addresses call = .ok p') :
    PaidOnce (currentEpoch p.now) id addresses.usageRewards p.gate p'.gate p.accounting
      p.usageRewards p'.usageRewards k e := by
  replace taken := rest_ok taken
  exact ((perform_meets separate.usage_zero h (ProtocolOperation.chargesUsage_of_claims claims)).result
    taken).paid k e claims

end Steps

theorem committed_deploy {d : Deployment}
    (separate : addresses.Separate)
    (team : teamMinterId = id ↔ d.teamWallet = addresses.usageRewards)
    (reserve : reserveMinterId = id ↔ d.protocolReserve = addresses.usageRewards)
    (deployed : d.deploy addresses now ants = .ok p) : p.Committed addresses id := by
  obtain ⟨-, gate, accounting, isGate, isAccounting, rfl⟩ := d.deploy_eq_ok deployed
  obtain ⟨bucketed, nothing⟩ := bucketed_construct separate.usage_zero team reserve isGate
  have unclaimed : ∀ e k, UsageRewards.claimed
      { operatorSource := d.operatorSource, config := .initial UsageRewards.initialConfig,
        admin := { owner := d.deployer } } e k = false := by
    intro e k
    cases k <;> rfl
  refine ⟨UsageAccounting.construct_balanced isAccounting, bucketed, fun e _ => ⟨unclaimed e, rfl⟩,
    fun e => nofun, fun e => nofun, fun e => ?_⟩
  rw [payments_untouched (unclaimed e) rfl, nothing]

/-- Over every run in which a bucket stays with the usage rewards controller: the bucket is never
    charged more than its budget, but exactly the rewards claimed, each once, and the settled
    remainder; no call that charges it is refused for its budget; no reward is claimed twice;
    a claim is paid with the frozen budgets of its epoch; and these never change. -/
theorem usage_rewards_never_overcommit (d : Deployment) (addresses : Addresses) (now : Nat)
    (ants : Erc20) (p : Protocol) (separate : addresses.Separate)
    (deployed : d.deploy addresses now ants = .ok p) (id : Word)
    (team : teamMinterId = id ↔ d.teamWallet = addresses.usageRewards)
    (reserve : reserveMinterId = id ↔ d.protocolReserve = addresses.usageRewards)
    (calls : List ProtocolCall)
    (dedicated : ∀ call ∈ calls, call.op.Dedicates id addresses.usageRewards) :
    let s := (protocolMachine addresses).run p calls
    (∀ e, ∃ budget, s.gate.controllerEpochBudget addresses.usageRewards e = .ok budget ∧
      s.gate.minterEpochMinted id e = payments budget s.accounting s.usageRewards e ∧
      s.gate.minterEpochMinted id e ≤ budget) ∧
    (∀ call, call.op.chargesUsage = true →
      s.step addresses call ≠ .error (.custom (.gate .bucketBudgetExceeded))) ∧
    (∀ k e, ((protocolMachine addresses).accepted p calls).countP (·.op.claims k e) ≤ 1) ∧
    (∀ call s' k e, call.op.claims k e = true → s.step addresses call = .ok s' →
      (s'.usageRewards.frozenUsageBudgets e).frozen = true ∧
        s'.gate.minterEpochMinted id e = s.gate.minterEpochMinted id e +
          rewardOf (s'.usageRewards.frozenUsageBudgets e) s.accounting e k) ∧
    ∀ later, (∀ call ∈ later, call.op.Dedicates id addresses.usageRewards) → ∀ e,
      (s.usageRewards.frozenUsageBudgets e).frozen = true →
        ((protocolMachine addresses).run s later).usageRewards.frozenUsageBudgets e =
          s.usageRewards.frozenUsageBudgets e := by
  intro s
  have started := committed_deploy separate team reserve deployed
  have preserved : ∀ (t : Protocol) (call : ProtocolCall) (t' : Protocol),
      call.op.Dedicates id addresses.usageRewards → t.Committed addresses id →
      t.step addresses call = .ok t' → t'.Committed addresses id :=
    fun t call t' dedicates h taken => (step_committed separate dedicates h taken).1
  have committed : s.Committed addresses id :=
    (protocolMachine addresses).run_invariant_on preserved started dedicated
  refine ⟨?_, ?_, ?_, ?_, ?_⟩
  · intro e
    have spent := committed.spent e
    rcases committed.bucketed.controllerEpochBudget separate.usage_zero e with
      ⟨-, isBudget⟩ | ⟨unheld, isBudget⟩
    · exact ⟨_, isBudget, spent, committed.bucketed.minted.budget id e⟩
    · have unfrozen : (s.usageRewards.frozenUsageBudgets e).frozen = false := by
        cases frozen : (s.usageRewards.frozenUsageBudgets e).frozen with
        | false => rfl
        | true => exact absurd (committed.elapsed e frozen).2 unheld
      obtain ⟨none, unsettled⟩ := committed.untouched e unfrozen
      rw [payments_untouched none unsettled] at spent
      exact ⟨0, isBudget, by rw [spent, payments_untouched none unsettled], Nat.le_of_eq spent⟩
  · intro call charges refused
    have allowed : Meets (s.step addresses call) NotExceeded fun _ => True := by
      apply require nofun
      exact fun _ => (perform_meets separate.usage_zero committed charges).mono fun _ _ => trivial
    exact allowed.reason refused rfl
  · intro k e
    refine (protocolMachine addresses).accepted_once (fun t => t.usageRewards.claimed e k = true)
      preserved ?_ ?_ ?_ started dedicated
    · intro t call t' h claims marked taken
      have first := (step_claims separate h claims taken).first
      exact absurd (first.symm.trans marked) Bool.false_ne_true
    · intro t call t' dedicates h marked taken
      exact (step_committed separate dedicates h taken).2.claimed e k marked
    · exact fun t call t' h claims taken => (step_claims separate h claims taken).marked
  · intro call s' k e claims taken
    have paid := step_claims separate committed claims taken
    exact ⟨paid.frozen, paid.spent⟩
  · intro later dedicatedLater e frozen
    have kept := (protocolMachine addresses).run_invariant_on
      (I := fun t => t.Committed addresses id ∧ Extends s.usageRewards t.usageRewards)
      (fun t call t' dedicates h taken =>
        have next := step_committed separate dedicates h.1 taken
        ⟨next.1, h.2.trans next.2⟩) ⟨committed, .of_same rfl rfl⟩ dedicatedLater
    exact kept.2.frozen e frozen

/-! A bucket in use: the pools get a stake, usage is recorded in epoch 1, and in epoch 2 the agent
claims twice, the buyer claims and the remainder is settled. -/

def firstWeeks : List ProtocolCall :=
  [⟨⟨9⟩, world, .gate (.setMinter ⟨77⟩ ⟨103⟩ 50000 true)⟩,
    ⟨⟨9⟩, world, .gate (.fundLegacyEscrow ⟨6⟩)⟩, ⟨⟨6⟩, world, .gate (.antsApprove ⟨101⟩ 100)⟩,
    ⟨⟨6⟩, world, .pools (.stakeFor ⟨6⟩ ⟨1⟩ 100 10)⟩, ⟨⟨9⟩, world, .gate (.elapse epochDuration)⟩,
    ⟨⟨8⟩, world, .accruePoints 0 ⟨5⟩ ⟨6⟩ 1000⟩, ⟨⟨9⟩, world, .gate (.elapse epochDuration)⟩,
    ⟨⟨6⟩, world, .claimAgentReward ⟨1⟩ 1⟩, ⟨⟨6⟩, world, .claimAgentReward ⟨1⟩ 1⟩,
    ⟨⟨6⟩, world, .claimBuyerReward ⟨5⟩ 1⟩, ⟨⟨6⟩, world, .settleUsageRemainder 1⟩]

/-- The bucket of epoch 1 is used up to its last unit, and not further. -/
theorem firstWeeks_exhaust_bucket : ∃ p, launchPlan.deploy contracts genesis .empty = .ok p ∧
    let s := (protocolMachine contracts).run p firstWeeks
    s.gate.minterEpochMinted ⟨77⟩ 1 = 2500000 * 10 ^ 18 ∧
      s.usageRewards.frozenUsageBudgets 1 = ⟨true, 250000 * 10 ^ 18, 250000 * 10 ^ 18⟩ ∧
      ∃ budget, s.gate.controllerEpochBudget contracts.usageRewards 1 = .ok budget ∧
        s.gate.minterEpochMinted ⟨77⟩ 1 = payments budget s.accounting s.usageRewards 1 ∧
        s.gate.minterEpochMinted ⟨77⟩ 1 ≤ budget :=
  ⟨_, rfl, by decide +kernel, by decide +kernel,
    (usage_rewards_never_overcommit launchPlan contracts genesis .empty _ contracts_separate rfl
      ⟨77⟩ (by decide) (by decide) firstWeeks
      (by simp [firstWeeks, ProtocolOperation.Dedicates, GateOperation.Dedicates, contracts])).1 1⟩

/-- Once the budgets of an epoch are frozen, its quotes stay the same whatever is claimed, settled,
    recorded or configured, in every run in which the bucket stays with the controller. -/
theorem frozen_quotes_stay (d : Deployment) (addresses : Addresses) (now : Nat)
    (ants : Erc20) (p : Protocol) (separate : addresses.Separate)
    (deployed : d.deploy addresses now ants = .ok p) (id : Word)
    (team : teamMinterId = id ↔ d.teamWallet = addresses.usageRewards)
    (reserve : reserveMinterId = id ↔ d.protocolReserve = addresses.usageRewards)
    (calls later : List ProtocolCall)
    (dedicated : ∀ call ∈ calls ++ later, call.op.Dedicates id addresses.usageRewards) (e : Nat) :
    let s := (protocolMachine addresses).run p calls
    (s.usageRewards.frozenUsageBudgets e).frozen = true →
      ((protocolMachine addresses).run s later).quote addresses e = s.quote addresses e := by
  intro s frozen
  have committed : s.Committed addresses id := (protocolMachine addresses).run_invariant_on
    (fun _ _ _ dedicates h taken => (step_committed separate dedicates h taken).1)
    (committed_deploy separate team reserve deployed)
    fun call mem => dedicated call (List.mem_append_left _ mem)
  have kept := (protocolMachine addresses).run_invariant_on
    (I := fun t => t.Committed addresses id ∧ (t.usageRewards.frozenUsageBudgets e).frozen = true ∧
      t.quote addresses e = s.quote addresses e)
    (fun t call t' dedicates h taken =>
      have next := step_quote separate dedicates h.1 h.2.1 taken
      ⟨(step_committed separate dedicates h.1 taken).1, next.1, next.2.trans h.2.2⟩)
    ⟨committed, frozen, rfl⟩ fun call mem => dedicated call (List.mem_append_right _ mem)
  exact kept.2.2

theorem firstWeeks_buyer_quote : ∃ p, launchPlan.deploy contracts genesis .empty = .ok p ∧
    let s := (protocolMachine contracts).run p (firstWeeks.take 8)
    s.quote contracts 1 (.inr ⟨5⟩) = .ok (12500 * 10 ^ 18) ∧
      ((protocolMachine contracts).run s (firstWeeks.drop 8)).quote contracts 1 = s.quote contracts 1 :=
  ⟨_, rfl, by decide +kernel, frozen_quotes_stay launchPlan contracts genesis .empty _
    contracts_separate rfl ⟨77⟩ (by decide) (by decide) (firstWeeks.take 8) (firstWeeks.drop 8)
    (by simp [firstWeeks, ProtocolOperation.Dedicates, GateOperation.Dedicates, contracts]) 1
    (by decide +kernel)⟩

end AntSeed.Emissions
