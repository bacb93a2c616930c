import AntSeed.Emissions.StakerSettlement

/-! # The staker bucket is never over-committed

Over every run of the emission contracts in which one bucket of the gate stays
with the staker rewards controller: whatever the order of settlements, the bucket
is charged for the emissions of the pools and the settled remainder, each once,
and never beyond its budget; and a budget that has been used stays as it is.
-/

namespace AntSeed.Emissions

open Evm
open Gate (Bucketed Held Spares)
open Pools (SellerPools)
open SellerPoolsRewards (Alike)
open SellerPoolsRewards

/-- The accounts of the bucket are in order. -/
def Protocol.Pledged (addresses : Addresses) (id : Word) (p : Protocol) : Prop :=
  SellerPoolsRewards.Pledged (currentEpoch p.now) id addresses.poolsRewards p.gate p.accounting
    p.poolsRewards

section Steps

variable {addresses : Addresses} {id : Word} {p p' : Protocol} {call : ProtocolCall}

theorem settles_meets (nonzero : addresses.poolsRewards ≠ 0) (h : p.Pledged addresses id)
    (charges : call.op.chargesStakers = true) :
    Meets (p.perform addresses call) NotExceeded fun p' =>
      p'.Pledged addresses id ∧ SellerPoolsRewards.Extends p.poolsRewards p'.poolsRewards := by
  obtain ⟨sender, outside, op⟩ := call
  have started : ∀ asked, SellerPoolsRewards.Pledged
      (currentEpoch (p.context addresses ⟨sender, outside, asked⟩).now) id
      (p.context addresses ⟨sender, outside, asked⟩).addresses.poolsRewards p.gate p.accounting
      p.poolsRewards := fun _ => h
  cases op with
  | indexPoolRewards =>
    exact .bind (indexPoolRewards_meets nonzero (started _)) fun _ pledged => Meets.pure pledged
  | settleStakerRemainder =>
    exact .bind (settleStakerRemainder_meets nonzero (started _)) fun _ pledged => Meets.pure pledged
  | _ => cases charges

/-- Calls that spare the bucket, record usage from the current epoch on, and leave the
    controller's records alone. -/
theorem Protocol.Pledged.frame (h : p.Pledged addresses id) (later : p.now ≤ p'.now)
    (spares : Spares (currentEpoch p.now) id addresses.poolsRewards p.gate p'.gate)
    (records : p.accounting.Records (currentEpoch p.now) p'.accounting)
    (alike : Alike p.poolsRewards p'.poolsRewards) :
    p'.Pledged addresses id ∧ SellerPoolsRewards.Extends p.poolsRewards p'.poolsRewards :=
  ⟨SellerPoolsRewards.Pledged.frame h (currentEpoch_mono later) spares records alike, alike.extends⟩

variable {ants : Erc20} {pools : SellerPools} {recipient self staker : Address}
  {positionIds : List Nat} {r : SellerPoolsRewards}

theorem Protocol.Pledged.spared (h : p.Pledged addresses id) {usageRewards : UsageRewards}
    {gate : Gate} (spares : Spares (currentEpoch p.now) id addresses.poolsRewards p.gate gate) :
    ({ p with usageRewards := usageRewards, gate := gate, ants := ants, pools := pools } :
      Protocol).Pledged addresses id ∧ SellerPoolsRewards.Extends p.poolsRewards p.poolsRewards :=
  h.frame (Nat.le_refl _) spares (.refl _) (.refl _)

theorem Protocol.Pledged.recorded (h : p.Pledged addresses id) {accounting : UsageAccounting}
    (records : p.accounting.Records (currentEpoch p.now) accounting) :
    ({ p with accounting := accounting } : Protocol).Pledged addresses id ∧
      SellerPoolsRewards.Extends p.poolsRewards p.poolsRewards :=
  h.frame (Nat.le_refl _) (.refl h.bucketed) records (.refl _)

theorem Protocol.Pledged.unaffected (h : p.Pledged addresses id) (now : p'.now = p.now)
    (gate : p'.gate = p.gate) (accounting : p'.accounting = p.accounting)
    (alike : Alike p.poolsRewards p'.poolsRewards) :
    p'.Pledged addresses id ∧ SellerPoolsRewards.Extends p.poolsRewards p'.poolsRewards := by
  refine h.frame (Nat.le_of_eq now.symm) ?_ ?_ alike
  · rw [gate]
    exact .refl h.bucketed
  · rw [accounting]
    exact .refl _

theorem step_pledged (separate : addresses.Separate)
    (dedicates : call.op.Dedicates id addresses.poolsRewards) (h : p.Pledged addresses id)
    (taken : p.step addresses call = .ok p') :
    p'.Pledged addresses id ∧ SellerPoolsRewards.Extends p.poolsRewards p'.poolsRewards := by
  have accepted := taken
  obtain ⟨_, outsider, taken⟩ := ran taken
  obtain ⟨nonzero, -, -, -, notStakers⟩ := require_eq_ok.mp outsider
  have other : addresses.usageRewards ≠ addresses.poolsRewards := separate.usage_staker
  have usage : addresses.usageRewards ≠ 0 := separate.usage_zero
  cases charges : call.op.chargesStakers with
  | true => exact (settles_meets separate.staker_zero h charges).result taken
  | false =>
    cases Protocol.step_move accepted with
    | gate is moved =>
      rw [is] at dedicates
      obtain ⟨later, spares⟩ := step_spares (s := p.gateState) ⟨call.sender, _⟩ h.bucketed dedicates
        notStakers nonzero moved
      exact h.frame later spares (.refl _) (.refl _)
    | ledger logs => exact h.recorded logs.records
    | usage _ claims => exact h.spared (claims.spares other usage h.bucketed)
    | usageStake _ stakes =>
      obtain ⟨_, _, _, _, _, _, claims, -⟩ := stakes.takes
      exact h.spared (claims.spares other usage h.bucketed)
    | index charged => cases charges.symm.trans charged
    | stakerRemainder charged => cases charges.symm.trans charged
    | _ => exact h.unaffected rfl rfl rfl ⟨rfl, rfl, rfl⟩

end Steps

variable {addresses : Addresses} {id : Word} {p : Protocol}

theorem pledged_deploy {d : Deployment} {now : Nat} {ants : Erc20}
    (separate : addresses.Separate)
    (team : teamMinterId = id ↔ d.teamWallet = addresses.poolsRewards)
    (reserve : reserveMinterId = id ↔ d.protocolReserve = addresses.poolsRewards)
    (deployed : d.deploy addresses now ants = .ok p) : p.Pledged addresses id := by
  obtain ⟨-, gate, accounting, isGate, isAccounting, rfl⟩ := d.deploy_eq_ok deployed
  obtain ⟨bucketed, nothing⟩ := bucketed_construct separate.staker_zero team reserve isGate
  refine ⟨UsageAccounting.construct_balanced isAccounting, bucketed, fun e isFrozen => absurd rfl isFrozen,
    fun e a => nofun, fun e a => rfl, fun e => nofun, fun e some => ?_, fun e => ?_⟩
  · rw [nothing] at some
    exact absurd some (Nat.lt_irrefl 0)
  · rw [nothing]
    simp [SellerPoolsRewards.payments, SellerPoolsRewards.remainder]

theorem Protocol.Pledged.within
    (nonzero : addresses.poolsRewards ≠ 0) (h : p.Pledged addresses id) (e : Nat) :
    ∃ budget, p.gate.controllerEpochBudget addresses.poolsRewards e = .ok budget ∧
      p.gate.minterEpochMinted id e = SellerPoolsRewards.payments budget p.accounting p.poolsRewards e ∧
      p.gate.minterEpochMinted id e ≤ budget := by
  have spent := h.spent e
  rcases h.bucketed.controllerEpochBudget nonzero e with ⟨-, isBudget⟩ | ⟨unheld, isBudget⟩
  · exact ⟨_, isBudget, spent, h.bucketed.minted.budget id e⟩
  · have none : p.gate.minterEpochMinted id e = 0 := by
      by_contra some
      exact unheld (h.held e (Nat.pos_of_ne_zero some))
    refine ⟨0, isBudget, ?_, Nat.le_of_eq none⟩
    rw [none, SellerPoolsRewards.payments] at spent
    rw [none, SellerPoolsRewards.payments, SellerPoolsRewards.remainder]
    split <;> omega

/-- Over every run in which a bucket stays with the staker rewards controller: the emissions of
    the pools and the settled remainder of an epoch are what the bucket is charged, at most its
    budget; no settlement is refused for its budget; an emission is recorded when it is settled
    and never again; and the budget used by a settlement stays as it is. -/
theorem staker_bucket_never_overcommitted (d : Deployment) (addresses : Addresses) (now : Nat)
    (ants : Erc20) (p : Protocol) (separate : addresses.Separate)
    (deployed : d.deploy addresses now ants = .ok p) (id : Word)
    (team : teamMinterId = id ↔ d.teamWallet = addresses.poolsRewards)
    (reserve : reserveMinterId = id ↔ d.protocolReserve = addresses.poolsRewards)
    (calls : List ProtocolCall)
    (dedicated : ∀ call ∈ calls, call.op.Dedicates id addresses.poolsRewards) :
    let s := (protocolMachine addresses).run p calls
    (∀ e, ∃ budget, s.gate.controllerEpochBudget addresses.poolsRewards e = .ok budget ∧
      s.gate.minterEpochMinted id e = SellerPoolsRewards.payments budget s.accounting s.poolsRewards e ∧
      s.gate.minterEpochMinted id e ≤ budget) ∧
    (∀ call, call.op.chargesStakers = true →
      s.step addresses call ≠ .error (.custom (.gate .bucketBudgetExceeded))) ∧
    (∀ e a, (s.poolsRewards.poolEpochEmissions e a).settled = false →
      (s.poolsRewards.poolEpochEmissions e a).amount = 0) ∧
    ∀ later, (∀ call ∈ later, call.op.Dedicates id addresses.poolsRewards) →
      let t := (protocolMachine addresses).run s later
      (∀ e a, (s.poolsRewards.poolEpochEmissions e a).settled = true →
        t.poolsRewards.poolEpochEmissions e a = s.poolsRewards.poolEpochEmissions e a) ∧
      ∀ e, (∃ a, (s.poolsRewards.poolEpochEmissions e a).settled = true) ∨
          s.poolsRewards.epochRemainderSettled e = true ∧
            s.accounting.totalWeightedPoolPointsByEpoch e ≠ 0 →
        ∃ budget, s.poolsRewards.stakerEpochBudget s.gate s.pools addresses.poolsRewards e = .ok budget ∧
          t.poolsRewards.stakerEpochBudget t.gate t.pools addresses.poolsRewards e = .ok budget := by
  intro s
  have started := pledged_deploy separate team reserve deployed
  have pledged : s.Pledged addresses id :=
    (protocolMachine addresses).run_invariant_on
      (fun t call t' dedicates h taken => (step_pledged separate dedicates h taken).1) started dedicated
  refine ⟨pledged.within separate.staker_zero, ?_, ?_, ?_⟩
  · intro call charges refused
    have allowed : Meets (s.step addresses call) NotExceeded fun _ => True := by
      apply Meets.require nofun
      exact fun _ => (settles_meets separate.staker_zero pledged charges).mono fun _ _ => trivial
    exact allowed.reason refused rfl
  · intro e a unsettled
    rw [pledged.emission, unsettled]
    rfl
  · intro later dedicatedLater t
    have kept := (protocolMachine addresses).run_invariant_on
      (I := fun t => t.Pledged addresses id ∧ SellerPoolsRewards.Extends s.poolsRewards t.poolsRewards)
      (fun t call t' dedicates h taken =>
        have next := step_pledged separate dedicates h.1 taken
        ⟨next.1, h.2.trans next.2⟩) ⟨pledged, .refl _⟩ dedicatedLater
    refine ⟨kept.2.settled, fun e used => ?_⟩
    have isFrozen : s.poolsRewards.frozenStakerBudgets e ≠ 0 := by
      rcases used with ⟨a, isSettled⟩ | ⟨isSettled, some⟩
      · exact pledged.settled e a isSettled
      · exact (pledged.remained e isSettled).2 some
    have same : t.poolsRewards.frozenStakerBudgets e = s.poolsRewards.frozenStakerBudgets e :=
      kept.2.frozen e isFrozen
    refine ⟨s.poolsRewards.frozenStakerBudgets e - 1, ?_, ?_⟩
    · simp [stakerEpochBudget, isFrozen]
    · simp [stakerEpochBudget, same, isFrozen]

/-! The remainder of epoch 1 is settled first, then two agents are indexed, one of them twice. -/

def pooledWeeks : List ProtocolCall :=
  [⟨⟨9⟩, world, .gate (.setMinter ⟨78⟩ ⟨104⟩ 50000 true)⟩,
    ⟨⟨9⟩, world, .gate (.fundLegacyEscrow ⟨6⟩)⟩, ⟨⟨6⟩, world, .gate (.antsApprove ⟨101⟩ 100)⟩,
    ⟨⟨6⟩, world, .pools (.stakeFor ⟨6⟩ ⟨1⟩ 100 10)⟩, ⟨⟨9⟩, world, .gate (.elapse epochDuration)⟩,
    ⟨⟨8⟩, world, .accruePoints 0 ⟨5⟩ ⟨6⟩ 1000⟩, ⟨⟨9⟩, world, .gate (.elapse epochDuration)⟩,
    ⟨⟨6⟩, world, .settleStakerRemainder 1⟩, ⟨⟨6⟩, world, .indexPoolRewards ⟨2⟩ 5⟩,
    ⟨⟨6⟩, world, .indexPoolRewards ⟨1⟩ 1⟩, ⟨⟨6⟩, world, .indexPoolRewards ⟨1⟩ 5⟩]

/-- The bucket of epoch 1 is used up to its last unit, and not further. -/
theorem pooledWeeks_exhaust_bucket : ∃ p, launchPlan.deploy contracts genesis .empty = .ok p ∧
    let s := (protocolMachine contracts).run p pooledWeeks
    (s.poolsRewards.poolEpochEmissions 1 ⟨1⟩).settled = true ∧
      (s.poolsRewards.poolEpochEmissions 1 ⟨2⟩).settled = true ∧
      s.poolsRewards.epochRemainderSettled 1 = true ∧
      s.gate.minterEpochMinted ⟨78⟩ 1 = 2500000 * 10 ^ 18 ∧
      ∃ budget, s.gate.controllerEpochBudget contracts.poolsRewards 1 = .ok budget ∧
        s.gate.minterEpochMinted ⟨78⟩ 1 =
          SellerPoolsRewards.payments budget s.accounting s.poolsRewards 1 ∧
        s.gate.minterEpochMinted ⟨78⟩ 1 ≤ budget :=
  ⟨_, rfl, by decide +kernel, by decide +kernel, by decide +kernel, by decide +kernel,
    (staker_bucket_never_overcommitted launchPlan contracts genesis .empty _ contracts_separate rfl
      ⟨78⟩ (by decide) (by decide) pooledWeeks
      (by simp [pooledWeeks, ProtocolOperation.Dedicates, GateOperation.Dedicates, contracts])).1 1⟩

end AntSeed.Emissions
