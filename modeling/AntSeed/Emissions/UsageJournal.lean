import AntSeed.Lib.Journal
import AntSeed.Emissions.Moves

/-! # The journal behind the ledger

Every map of the usage ledger is what the settlements recorded so far post under
one key: the epoch, the buyer, the agent, or some of these together. So the maps
agree with each other wherever one forgets a part of another's key, and because
settlements are only ever entered under the open epoch, those of elapsed epochs
stay as they are.
-/

namespace AntSeed.Emissions

open Evm Function
open Finset

namespace UsageAccounting

/-- The maps of the ledger in epoch `c` are those of the journal. -/
structure Books (c : Nat) (journal : List UsageRecord) (s : UsageAccounting) : Prop where
  total : s.totalUsage = ⟨posted (fun _ => ()) (·.bought) journal (),
    posted (fun _ => ()) (·.sold) journal ()⟩
  inEpoch : ∀ e, s.epochUsage e = ⟨posted (·.epoch) (·.bought) journal e,
    posted (·.epoch) (·.sold) journal e⟩
  ofBuyer : ∀ b, s.buyerUsageTotal b = posted (·.buyer) (·.bought) journal b
  ofBuyerAgent : ∀ b a, s.buyerAgentUsageTotal b a =
    posted (fun r => (r.buyer, r.agentId)) (·.bought) journal (b, a)
  ofBuyerEpoch : ∀ e b, s.buyerEpochUsage e b =
    posted (fun r => (r.epoch, r.buyer)) (·.bought) journal (e, b)
  ofBuyerAgentEpoch : ∀ e b a, s.buyerAgentEpochUsage e b a =
    posted (fun r => (r.epoch, r.buyer, r.agentId)) (·.bought) journal (e, b, a)
  ofAgentEpoch : ∀ e a, s.agentEpochUsage e a =
    posted (fun r => (r.epoch, r.agentId)) (·.sold) journal (e, a)
  begun : ∀ r ∈ journal, r.epoch ≤ max c s.firstRewardedEpoch

variable {c : Nat} {journal : List UsageRecord} {s s' : UsageAccounting}

namespace Books

section

variable (h : Books c journal s)

include h

theorem same (same : s'.ledger = s.ledger) : Books c journal s' := by
  simp only [ledger, Prod.mk.injEq] at same
  obtain ⟨first, total, inEpoch, ofBuyer, ofBuyerAgent, ofBuyerEpoch, ofBuyerAgentEpoch,
    ofAgentEpoch, -⟩ := same
  constructor
  · exact total ▸ h.total
  · exact inEpoch ▸ h.inEpoch
  · exact ofBuyer ▸ h.ofBuyer
  · exact ofBuyerAgent ▸ h.ofBuyerAgent
  · exact ofBuyerEpoch ▸ h.ofBuyerEpoch
  · exact ofBuyerAgentEpoch ▸ h.ofBuyerAgentEpoch
  · exact ofAgentEpoch ▸ h.ofAgentEpoch
  · exact first ▸ h.begun

theorem mono {c' : Nat} (le : c ≤ c') : Books c' journal s :=
  { h with begun := fun r member => Nat.le_trans (h.begun r member) (by omega) }

theorem enter
    (epoch : r.epoch = max c s.firstRewardedEpoch) : Books c (journal ++ [r]) (s.enter r) := by
  constructor
  · simp [UsageAccounting.enter, posted_append, h.total]
  · intro e
    simp only [UsageAccounting.enter, posted_append, update_apply, h.inEpoch]
    split <;> rfl
  · intro b
    simp only [UsageAccounting.enter, posted_append, update_apply, h.ofBuyer]
  · intro b a
    simp [UsageAccounting.enter, posted_append, update_nested, h.ofBuyerAgent]
  · intro e b
    simp [UsageAccounting.enter, posted_append, update_nested, h.ofBuyerEpoch]
  · intro e b a
    simp [UsageAccounting.enter, posted_append, update_nested_twice, h.ofBuyerAgentEpoch]
  · intro e a
    simp [UsageAccounting.enter, posted_append, update_nested, h.ofAgentEpoch]
  · intro x member
    rcases List.mem_append.mp member with old | new
    · exact h.begun x old
    · rw [List.mem_singleton.mp new]
      exact Nat.le_of_eq epoch

theorem agree : (∀ e, (s.epochUsage e).sellers = ∑ a, s.agentEpochUsage e a) ∧
    (∀ e, (s.epochUsage e).buyers = ∑ b, s.buyerEpochUsage e b) ∧
    ∀ e b, s.buyerEpochUsage e b = ∑ a, s.buyerAgentEpochUsage e b a := by
  simp only [h.inEpoch, h.ofAgentEpoch, h.ofBuyerEpoch, h.ofBuyerAgentEpoch]
  refine ⟨fun e => ?_, fun e => ?_, fun e b => ?_⟩
  · exact (sum_posted _ (·.agentId) _ _ (fun r a => by simp) fun r _ => mem_univ _).symm
  · exact (sum_posted _ (·.buyer) _ _ (fun r b => by simp) fun r _ => mem_univ _).symm
  · exact (sum_posted _ (·.agentId) _ _ (fun r a => by simp [and_assoc])
      fun r _ => mem_univ _).symm

theorem running (all : max c s.firstRewardedEpoch < n) :
    s.totalUsage.sellers = ∑ e ∈ range n, (s.epochUsage e).sellers ∧
    s.totalUsage.buyers = ∑ e ∈ range n, (s.epochUsage e).buyers ∧
    (∀ b, s.buyerUsageTotal b = ∑ e ∈ range n, s.buyerEpochUsage e b) ∧
    ∀ b a, s.buyerAgentUsageTotal b a = ∑ e ∈ range n, s.buyerAgentEpochUsage e b a := by
  have inside : ∀ r ∈ journal, r.epoch ∈ range n := fun r member =>
    mem_range.mpr (Nat.lt_of_le_of_lt (h.begun r member) all)
  simp only [h.total, h.inEpoch, h.ofBuyer, h.ofBuyerAgent, h.ofBuyerEpoch, h.ofBuyerAgentEpoch]
  refine ⟨?_, ?_, fun b => ?_, fun b a => ?_⟩
  · exact (sum_posted _ (·.epoch) _ _ (fun r e => by simp) inside).symm
  · exact (sum_posted _ (·.epoch) _ _ (fun r e => by simp) inside).symm
  · exact (sum_posted _ (·.epoch) _ _ (fun r e => by simp [and_comm]) inside).symm
  · exact (sum_posted _ (·.epoch) _ _ (fun r e => by simp [and_comm]) inside).symm

end

end Books

def entriesOf (s : UsageAccounting) (e : Nat) :=
  (s.epochUsage e, s.buyerEpochUsage e, s.buyerAgentEpochUsage e, s.agentEpochUsage e,
    s.sellerAgentIdByEpoch e)

theorem Logs.books (logs : Logs c s s') (h : Books c journal s) : ∃ journal', Books c journal' s' := by
  cases logs with
  | nothing same => exact ⟨journal, h.same same⟩
  | settlement r epoch entered => exact ⟨journal ++ [r], (h.enter epoch).same entered⟩

theorem Logs.elapsed (logs : Logs c s s') {e : Nat} (before : e < c) :
    s'.entriesOf e = s.entriesOf e := by
  cases logs with
  | nothing same =>
    simp only [ledger, Prod.mk.injEq] at same
    obtain ⟨-, -, inEpoch, -, -, ofBuyer, ofBuyerAgent, ofAgent, ids⟩ := same
    simp [entriesOf, inEpoch, ofBuyer, ofBuyerAgent, ofAgent, ids]
  | settlement r epoch entered =>
    simp only [ledger, Prod.mk.injEq] at entered
    obtain ⟨-, -, inEpoch, -, -, ofBuyer, ofBuyerAgent, ofAgent, ids⟩ := entered
    have other : e ≠ r.epoch := by omega
    simp only [entriesOf, inEpoch, ofBuyer, ofBuyerAgent, ofAgent, ids, enter]
    split <;> simp [other]

end UsageAccounting

namespace Protocol

variable {addresses : Addresses} {p p' : Protocol}

theorem step_logs (taken : p.step addresses call = .ok p') :
    p.now ≤ p'.now ∧ p.accounting.Logs (currentEpoch p.now) p'.accounting := by
  cases step_move taken with
  | gate is moved => exact ⟨GateState.step_now moved, .nothing rfl⟩
  | ledger logs => exact ⟨Nat.le_refl _, logs⟩
  | _ => exact ⟨Nat.le_refl _, .nothing rfl⟩

end Protocol

theorem UsageAccounting.construct_books {sender sellerPools initialRecorder emissionsGate : Address}
    {effectiveEpoch : Nat} {s : UsageAccounting}
    (h : construct sender sellerPools initialRecorder emissionsGate effectiveEpoch = .ok s) (c : Nat) :
    s.Books c [] := by
  replace h := rest_ok h
  cases h
  exact ⟨rfl, fun _ => rfl, fun _ => rfl, fun _ _ => rfl, fun _ _ => rfl, fun _ _ _ => rfl,
    fun _ _ => rfl, nofun⟩

/-- In every state the contracts can reach, the maps of the ledger agree, points and weighted points
    alike: the totals of an epoch with the entries of its agents and of its buyers, the entry of a
    buyer with those of the agents it used, and every running total with the entries of all epochs.
    And whatever is called later, the entries of an elapsed epoch stay as they are. -/
theorem usage_ledger_consistent (d : Deployment) (addresses : Addresses) (now : Nat) (ants : Erc20)
    (p : Protocol) (deployed : d.deploy addresses now ants = .ok p) (calls : List ProtocolCall) :
    let s := (protocolMachine addresses).run p calls
    let u := s.accounting
    (∀ e, (u.epochUsage e).sellers = ∑ a, u.agentEpochUsage e a) ∧
    (∀ e, (u.epochUsage e).buyers = ∑ b, u.buyerEpochUsage e b) ∧
    (∀ e b, u.buyerEpochUsage e b = ∑ a, u.buyerAgentEpochUsage e b a) ∧
    (∀ n, max (currentEpoch s.now) u.firstRewardedEpoch < n →
      u.totalUsage.sellers = ∑ e ∈ range n, (u.epochUsage e).sellers ∧
      u.totalUsage.buyers = ∑ e ∈ range n, (u.epochUsage e).buyers ∧
      (∀ b, u.buyerUsageTotal b = ∑ e ∈ range n, u.buyerEpochUsage e b) ∧
      ∀ b a, u.buyerAgentUsageTotal b a = ∑ e ∈ range n, u.buyerAgentEpochUsage e b a) ∧
    ∀ later e, e < currentEpoch s.now →
      ((protocolMachine addresses).run s later).accounting.entriesOf e = u.entriesOf e := by
  intro s u
  have started : ∃ journal, p.accounting.Books (currentEpoch p.now) journal := by
    obtain ⟨-, gate, accounting, -, isAccounting, rfl⟩ := d.deploy_eq_ok deployed
    exact ⟨[], UsageAccounting.construct_books isAccounting _⟩
  obtain ⟨journal, books⟩ : ∃ journal, u.Books (currentEpoch s.now) journal := by
    refine (protocolMachine addresses).run_invariant
      (I := fun s => ∃ journal, s.accounting.Books (currentEpoch s.now) journal) ?_ started calls
    rintro t call t' ⟨journal, books⟩ taken
    obtain ⟨later, logs⟩ := Protocol.step_logs taken
    obtain ⟨journal', next⟩ := logs.books books
    exact ⟨journal', next.mono (currentEpoch_mono later)⟩
  obtain ⟨sellers, buyers, ofBuyers⟩ := books.agree
  refine ⟨sellers, buyers, ofBuyers, fun n all => books.running all, fun later e before => ?_⟩
  have kept := (protocolMachine addresses).run_invariant
    (I := fun t => e < currentEpoch t.now ∧ t.accounting.entriesOf e = u.entriesOf e) ?_
    ⟨before, rfl⟩ later
  · exact kept.2
  · rintro t call t' ⟨elapsed, same⟩ taken
    obtain ⟨later, logs⟩ := Protocol.step_logs taken
    exact ⟨Nat.lt_of_lt_of_le elapsed (currentEpoch_mono later), (logs.elapsed elapsed).trans same⟩

/-! Two settlements of one buyer in epoch 1. Account 6 stakes for agent 1; account 8 is the recorder,
and the settlement is recorded in one call, then in two. -/

def firstSettlements : List ProtocolCall :=
  [⟨⟨9⟩, world, .gate (.fundLegacyEscrow ⟨6⟩)⟩, ⟨⟨6⟩, world, .gate (.antsApprove ⟨101⟩ 100)⟩,
    ⟨⟨6⟩, world, .pools (.stakeFor ⟨6⟩ ⟨1⟩ 100 10)⟩, ⟨⟨9⟩, world, .gate (.elapse epochDuration)⟩,
    ⟨⟨8⟩, world, .accruePoints 0 ⟨5⟩ ⟨6⟩ 1000⟩, ⟨⟨8⟩, world, .accrueSellerPoints ⟨6⟩ 20⟩,
    ⟨⟨8⟩, world, .accrueBuyerPoints ⟨5⟩ 20⟩]

/-- Both settlements are in the total, and so in the sum over all agents. -/
theorem firstSettlements_agree : ∃ p, launchPlan.deploy contracts genesis .empty = .ok p ∧
    let u := ((protocolMachine contracts).run p firstSettlements).accounting
    (u.epochUsage 1).sellers.points = 1020 ∧ (u.agentEpochUsage 1 ⟨1⟩).points = 1020 ∧
      (u.epochUsage 1).sellers = ∑ a, u.agentEpochUsage 1 a :=
  ⟨_, rfl, by decide +kernel, by decide +kernel,
    (usage_ledger_consistent launchPlan contracts genesis .empty _ rfl firstSettlements).1 1⟩

end AntSeed.Emissions
