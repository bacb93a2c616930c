import AntSeed.Emissions.Halving
import AntSeed.Emissions.Shares

/-! # Supply stays on the schedule

Every token the gate mints is either the one-time backlog of the escrow or is
charged to an elapsed epoch from the effective one on. So the supply is the
larger of what circulated and what was owed when the escrow was funded, plus what
has been charged since, and no epoch is charged more than its emission.
-/

namespace AntSeed.Emissions

open Evm Function
open Finset

/-- What the supply starts from once the escrow has been looked after. -/
def base (supply : Nat) (g : Gate) : Nat :=
  if g.legacyEscrow = 0 then supply else max supply (cumulativeEmissionThrough g.effectiveEpoch)

/-- What holds of the supply, if it was `supply` when the gate was deployed. -/
structure OnSchedule (supply : Nat) (s : GateState) : Prop extends Orderly s where
  total : s.ants.totalSupply = base supply s.gate +
    ∑ e ∈ Finset.Ico s.gate.effectiveEpoch (currentEpoch s.now), s.gate.epochMinted e
  unfunded : s.gate.legacyEscrow = 0 → ∀ e, s.gate.epochMinted e = 0
  early : ∀ e, e < s.gate.effectiveEpoch → s.gate.epochMinted e = 0

variable {s s' : GateState} {supply : Nat}

theorem OnSchedule.later (h : OnSchedule supply s) {e : Nat} (open_ : currentEpoch s.now ≤ e) :
    s.gate.epochMinted e = 0 := by
  rw [← h.minted.sum e]
  exact sum_eq_zero fun id _ => h.minted.finalized id e open_

theorem OnSchedule.capped (h : OnSchedule supply s) (e : Nat) :
    s.gate.epochMinted e ≤ getEpochEmission e := by
  rw [← h.minted.sum e]
  exact Nat.le_trans (sum_le_sum fun id _ => h.minted.budget id e) (h.shared.sum_budget_le e)

theorem GateMove.onSchedule (move : GateMove op s s') (h : OnSchedule supply s) :
    OnSchedule supply s' := by
  have orderly := move.orderly h.toOrderly
  cases move with
  | configured reconfigures now supply =>
    refine ⟨orderly, ?_, ?_, ?_⟩
    · rw [supply, now, reconfigures.effective, reconfigures.epochMinted, base,
        reconfigures.escrow, reconfigures.effective]
      exact h.total
    · rw [reconfigures.escrow, reconfigures.epochMinted]
      exact h.unfunded
    · rw [reconfigures.effective, reconfigures.epochMinted]
      exact h.early
  | claimed id epoch recipient amount asked claimed now =>
    obtain ⟨charged, charges, same⟩ := claimed.charges
    have minted : s'.gate.epochMinted =
        update s.gate.epochMinted epoch (s.gate.epochMinted epoch + amount) := by
      rw [same, charges.result]
    have effective : s'.gate.effectiveEpoch = s.gate.effectiveEpoch := by
      rw [same, charges.result]
    have escrow : s'.gate.legacyEscrow = s.gate.legacyEscrow := by rw [same, charges.result]
    refine ⟨orderly, ?_, ?_, ?_⟩
    · have member : epoch ∈ Finset.Ico s.gate.effectiveEpoch (currentEpoch s.now) :=
        mem_Ico.mpr ⟨charges.effective, charges.finalized⟩
      have moved := sum_update_add (fun _ (x : Nat) => x) s.gate.epochMinted
        (s.gate.epochMinted epoch + amount) member
      have total := h.total
      rw [claimed.supply, now, effective, minted, base, escrow, effective]
      rw [base] at total
      omega
    · intro none
      exact absurd (escrow ▸ none) charges.funded
    · intro e before
      rw [effective] at before
      have other : e ≠ epoch := by
        have := charges.effective
        omega
      rw [minted, update_of_ne other]
      exact h.early e before
  | funded escrow asked some unfunded gate now supply =>
    refine ⟨orderly, ?_, ?_, ?_⟩
    · have total := h.total
      have nothing := h.unfunded unfunded
      rw [base, if_pos unfunded, sum_eq_zero fun e _ => nothing e, Nat.add_zero] at total
      rw [supply, now, gate, base, total]
      simp only [if_neg some]
      rw [sum_eq_zero fun e _ => nothing e, Nat.add_zero]
    · intro none
      rw [gate] at none
      exact absurd none some
    · rw [gate]
      exact h.early
  | idle now gate supply =>
    refine ⟨orderly, ?_, gate ▸ h.unfunded, gate ▸ h.early⟩
    rw [supply, gate, h.total]
    congr 1
    have later := currentEpoch_mono now
    apply sum_subset
    · exact Finset.Ico_subset_Ico (Nat.le_refl _) later
    · intro e member outside
      rw [mem_Ico] at member outside
      exact h.later (by omega)

theorem run_onSchedule (h : OnSchedule supply s) (calls : List GateCall) :
    OnSchedule supply (gateMachine.run s calls) :=
  gateMachine.run_invariant
    (fun _ _ _ holds taken => (step_moves holds.toOrderly taken).onSchedule holds) h calls

theorem onSchedule_construct {now : Nat} {sender teamWallet protocolReserve : Address}
    {teamShareBps reserveShareBps : Nat} {g : Gate} {ants : Erc20}
    (h : Gate.construct now sender teamWallet protocolReserve teamShareBps reserveShareBps = .ok g) :
    OnSchedule ants.totalSupply ⟨now, g, ants⟩ := by
  obtain ⟨orderly, escrow, minted, -⟩ := orderly_construct ants h
  refine ⟨orderly, ?_, ?_, ?_⟩
  · simp [base, escrow, minted]
  · intro _ e
    simp [minted]
  · intro e _
    simp [minted]

theorem escrow_stays (h : Orderly s) (funded : s.gate.legacyEscrow ≠ 0) (calls : List GateCall) :
    (gateMachine.run s calls).gate.legacyEscrow = s.gate.legacyEscrow := by
  have kept : Orderly (gateMachine.run s calls) ∧
      (gateMachine.run s calls).gate.legacyEscrow = s.gate.legacyEscrow := by
    refine gateMachine.run_invariant
      (I := fun t => Orderly t ∧ t.gate.legacyEscrow = s.gate.legacyEscrow) ?_ ⟨h, rfl⟩ calls
    rintro t call t' ⟨orderly, same⟩ taken
    have move := step_moves orderly taken
    refine ⟨move.orderly orderly, ?_⟩
    cases move with
    | configured reconfigures => rw [reconfigures.escrow, same]
    | claimed id epoch recipient amount asked claimed =>
      obtain ⟨charged, charges, result⟩ := claimed.charges
      rw [result, charges.result, ← same]
    | funded escrow asked some unfunded => exact absurd (same ▸ unfunded) funded
    | idle now gate => rw [gate, same]
  exact kept.2

theorem fundLegacyEscrow_once {g : Gate} {ants : Erc20} {sender escrow : Address}
    (funded : g.legacyEscrow ≠ 0) (result : Gate × Erc20) :
    g.fundLegacyEscrow ants sender escrow ≠ .ok result := by
  intro h
  replace h := rest_ok h
  replace h := rest_ok h
  obtain ⟨_, unfunded, -⟩ := ran h
  exact funded (require_eq_ok.mp unfunded)

/-- A call that mints is the funding of an unfunded escrow, or a claim for an elapsed epoch
    from the effective one on, with the escrow funded. -/
def MintsProperly (s : GateState) (call : GateCall) : Prop :=
  (∃ escrow, call.op = .fundLegacyEscrow escrow ∧ s.gate.legacyEscrow = 0) ∨
  ∃ epoch recipient amount,
    (call.op = .claim epoch recipient amount ∨ call.op = .claimRemainder epoch recipient amount) ∧
      s.gate.legacyEscrow ≠ 0 ∧ s.gate.effectiveEpoch ≤ epoch ∧ epoch < currentEpoch s.now

theorem mintsProperly {call : GateCall} (orderly : Orderly s) (taken : s.step call = .ok s')
    (minted : s'.ants.totalSupply ≠ s.ants.totalSupply) : MintsProperly s call := by
  cases step_moves orderly taken with
  | configured reconfigures now supply => exact absurd supply minted
  | claimed id epoch recipient amount asked claimed =>
    obtain ⟨charged, charges, -⟩ := claimed.charges
    exact .inr ⟨epoch, recipient, amount, asked, charges.funded, charges.effective, charges.finalized⟩
  | funded escrow asked some unfunded => exact .inl ⟨escrow, asked, unfunded⟩
  | idle now gate supply => exact absurd supply minted

/-- In every state the gate can reach: before the escrow is funded nothing has been minted, so
    the supply at the time of funding is that at deployment; from then on the supply stays on
    the schedule; every call that mints does so properly; and the escrow is funded once. -/
theorem supply_stays_on_schedule (now : Nat)
    (sender teamWallet protocolReserve : Address) (teamShareBps reserveShareBps : Nat) (g : Gate)
    (ants : Erc20)
    (deployed : Gate.construct now sender teamWallet protocolReserve teamShareBps reserveShareBps =
      .ok g)
    (calls : List GateCall) :
    let s := gateMachine.run ⟨now, g, ants⟩ calls
    (s.gate.legacyEscrow = 0 → s.ants.totalSupply = ants.totalSupply) ∧
    (s.gate.legacyEscrow ≠ 0 → s.ants.totalSupply ≤
      max ants.totalSupply (cumulativeEmissionThrough s.gate.effectiveEpoch) +
        ∑ e ∈ Finset.Ico s.gate.effectiveEpoch (currentEpoch s.now), getEpochEmission e) ∧
    (∀ call s', s.step call = .ok s' → s'.ants.totalSupply ≠ s.ants.totalSupply → MintsProperly s call) ∧
    (s.gate.legacyEscrow ≠ 0 → ∀ later caller escrow result, let t := gateMachine.run s later
      t.gate.fundLegacyEscrow t.ants caller escrow ≠ .ok result) := by
  intro s
  have schedule : OnSchedule ants.totalSupply s := run_onSchedule (onSchedule_construct deployed) calls
  refine ⟨?_, ?_, fun call s' => mintsProperly schedule.toOrderly, ?_⟩
  · intro unfunded
    rw [schedule.total, base, if_pos unfunded,
      sum_eq_zero fun e _ => schedule.unfunded unfunded e, Nat.add_zero]
  · intro funded
    rw [schedule.total, base, if_neg funded]
    exact Nat.add_le_add_left (sum_le_sum fun e _ => schedule.capped e) _
  · intro funded later caller escrow result
    apply fundLegacyEscrow_once
    rwa [escrow_stays schedule.toOrderly funded later]

theorem launch_supply : ∃ g, Gate.construct genesis ⟨9⟩ ⟨1⟩ ⟨2⟩ 10000 20000 = .ok g ∧
    let s := gateMachine.run ⟨genesis, g, .empty⟩ launch
    s.gate.legacyEscrow ≠ 0 → s.ants.totalSupply ≤
      max 0 (cumulativeEmissionThrough s.gate.effectiveEpoch) +
        ∑ e ∈ Finset.Ico s.gate.effectiveEpoch (currentEpoch s.now), getEpochEmission e := by
  obtain ⟨g, deployed⟩ := launch_deploys
  exact ⟨g, deployed,
    (supply_stays_on_schedule genesis ⟨9⟩ ⟨1⟩ ⟨2⟩ 10000 20000 g .empty deployed launch).2.1⟩

end AntSeed.Emissions
