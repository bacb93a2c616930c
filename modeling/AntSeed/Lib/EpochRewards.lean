import Mathlib.Algebra.BigOperators.Intervals
import Mathlib.Algebra.BigOperators.Ring.Finset
import Mathlib.Algebra.Order.BigOperators.Group.Finset

/-! # Rewards divided by weight, epoch by epoch

Holders belong to groups and have a weight in every epoch. Once an epoch is over
a group may get a pot for it, and every unit of weight in the group gets the same
rate, rounded down. A holder claims what it has earned over a stretch of epochs,
whenever it likes. Holders may join and weights may change as long as the epochs
that have a pot keep their weights. Then what is held always covers what all
holders can still claim.
-/

namespace Evm

open Finset Nat Function

variable {P A : Type}

/-- Rates and earnings are numbers of `scale`-th parts. -/
structure EpochRewards (P A : Type) where
  holders : Finset P
  group : P → A
  weight : P → Nat → Nat
  rate : A → Nat → Nat
  pot : A → Nat → Nat
  /-- the first epoch of a group without a pot -/
  next : A → Nat
  /-- the first epoch a holder has not claimed -/
  cursor : P → Nat
  /-- what a holder has been paid so far -/
  paid : P → Nat
  held : Nat

namespace EpochRewards

variable (l : EpochRewards P A)

/-- What a holder earns in an epoch. -/
def earned (p : P) (e : Nat) : Nat := l.weight p e * l.rate (l.group p) e

/-- What a holder has not claimed yet. -/
def owed (p : P) : Nat := ∑ e ∈ Finset.Ico (l.cursor p) (l.next (l.group p)), l.earned p e

variable [DecidableEq A]

def members (a : A) : Finset P := l.holders.filter fun p => l.group p = a

structure Solvent (scale : Nat) : Prop where
  /-- no epoch is divided beyond its pot -/
  funded : ∀ a e, ∑ p ∈ l.members a, l.earned p e ≤ l.pot a e * scale
  covered : ∑ p ∈ l.holders, l.owed p ≤ l.held * scale
  ahead : ∀ a e, l.next a ≤ e → l.rate a e = 0
  repaid : ∀ p, l.paid p * scale ≤ ∑ e ∈ range (l.cursor p), l.earned p e
  strangers : ∀ p, p ∉ l.holders → l.paid p = 0

variable {l} {l' l'' : EpochRewards P A} {scale : Nat}

theorem Solvent.le_held (h : l.Solvent scale) (positive : 0 < scale)
    (isHolder : p ∈ l.holders) (inside : stop ≤ l.next (l.group p))
    (bounded : n * scale ≤ ∑ e ∈ Finset.Ico (l.cursor p) stop, l.earned p e) : n ≤ l.held := by
  have part : ∑ e ∈ Finset.Ico (l.cursor p) stop, l.earned p e ≤ l.owed p :=
    sum_le_sum_of_subset (Finset.Ico_subset_Ico_right inside)
  have whole : l.owed p ≤ ∑ q ∈ l.holders, l.owed q :=
    single_le_sum (f := l.owed) (fun _ _ => zero_le _) isHolder
  have covered := h.covered
  exact Nat.le_of_mul_le_mul_right (by omega) positive

theorem Solvent.sum_le_held (h : l.Solvent scale) (positive : 0 < scale) {pending : P → Nat}
    (bounded : ∀ p ∈ l.holders, pending p * scale ≤ l.owed p) :
    ∑ p ∈ l.holders, pending p ≤ l.held := by
  refine Nat.le_of_mul_le_mul_right ?_ positive
  rw [Finset.sum_mul]
  exact le_trans (sum_le_sum bounded) h.covered

theorem Solvent.claimed_le_pot (h : l.Solvent scale) (a : A) (e : Nat) :
    ∑ p ∈ l.members a, (if e < l.cursor p then l.earned p e else 0) ≤ l.pot a e * scale := by
  refine le_trans (sum_le_sum fun p _ => ?_) (h.funded a e)
  split
  · exact le_refl _
  · exact zero_le _

variable [DecidableEq P]

/-- What can happen to the rewards. -/
inductive Move (scale : Nat) (l l' : EpochRewards P A) : Prop where
  /-- holders join and weights change, but not in epochs that have a pot; more may be held -/
  | reweighted (kept : l.holders ⊆ l'.holders)
      (group : ∀ p ∈ l.holders, l'.group p = l.group p)
      (weight : ∀ p ∈ l.holders, ∀ e, e < l.next (l.group p) → l'.weight p e = l.weight p e)
      (joined : ∀ p ∈ l'.holders, p ∉ l.holders →
        ∀ e, e < l.next (l'.group p) → l'.weight p e = 0)
      (rate : l'.rate = l.rate) (pot : l'.pot = l.pot) (next : l'.next = l.next)
      (cursor : l'.cursor = l.cursor) (paid : l'.paid = l.paid) (held : l.held ≤ l'.held)
  /-- the next epoch of a group gets a pot, divided with rounding -/
  | indexed (a : A) (perWeight amount : Nat)
      (divides : perWeight * ∑ p ∈ l.members a, l.weight p (l.next a) ≤ amount * scale)
      (holders : l'.holders = l.holders) (group : l'.group = l.group)
      (weight : l'.weight = l.weight)
      (rate : ∀ b e, l'.rate b e = if b = a ∧ e = l.next a then perWeight else l.rate b e)
      (pot : ∀ b e, l'.pot b e = if b = a ∧ e = l.next a then amount else l.pot b e)
      (next : ∀ b, l'.next b = if b = a then l.next a + 1 else l.next b)
      (cursor : l'.cursor = l.cursor) (paid : l'.paid = l.paid)
      (held : l.held + amount ≤ l'.held)
  /-- a holder is paid at most what it has earned up to `stop` -/
  | claimed (p : P) (stop amount : Nat) (isHolder : p ∈ l.holders)
      (order : l.cursor p ≤ stop) (inside : stop ≤ l.next (l.group p))
      (bounded : amount * scale ≤ ∑ e ∈ Finset.Ico (l.cursor p) stop, l.earned p e)
      (holders : l'.holders = l.holders) (group : l'.group = l.group)
      (weight : l'.weight = l.weight) (rate : l'.rate = l.rate) (pot : l'.pot = l.pot)
      (next : l'.next = l.next)
      (cursor : l'.cursor = update l.cursor p stop)
      (paid : l'.paid = update l.paid p (l.paid p + amount))
      (held : l.held ≤ l'.held + amount)

theorem reweighted_solvent (h : l.Solvent scale) (kept : l.holders ⊆ l'.holders)
    (group : ∀ p ∈ l.holders, l'.group p = l.group p)
    (weight : ∀ p ∈ l.holders, ∀ e, e < l.next (l.group p) → l'.weight p e = l.weight p e)
    (joined : ∀ p ∈ l'.holders, p ∉ l.holders → ∀ e, e < l.next (l'.group p) → l'.weight p e = 0)
    (rate : l'.rate = l.rate) (pot : l'.pot = l.pot) (next : l'.next = l.next)
    (cursor : l'.cursor = l.cursor) (paid : l'.paid = l.paid) (held : l.held ≤ l'.held) :
    l'.Solvent scale := by
  -- where the weight may have changed, the rate is still zero
  have same : ∀ p ∈ l.holders, ∀ e, l'.earned p e = l.earned p e := by
    intro p isHolder e
    unfold earned
    rw [rate, group p isHolder]
    by_cases past : e < l.next (l.group p)
    · rw [weight p isHolder e past]
    · rw [h.ahead _ e (Nat.le_of_not_lt past), Nat.mul_zero, Nat.mul_zero]
  have nothing : ∀ p ∈ l'.holders, p ∉ l.holders → ∀ e, l'.earned p e = 0 := by
    intro p isHolder isNew e
    unfold earned
    rw [rate]
    by_cases past : e < l.next (l'.group p)
    · rw [joined p isHolder isNew e past, zero_mul]
    · rw [h.ahead _ e (Nat.le_of_not_lt past), Nat.mul_zero]
  refine ⟨?_, ?_, ?_, ?_, ?_⟩
  · intro a e
    have subset : l.members a ⊆ l'.members a := by
      intro p member
      obtain ⟨isHolder, here⟩ := mem_filter.mp member
      exact mem_filter.mpr ⟨kept isHolder, (group p isHolder).trans here⟩
    rw [pot, ← sum_subset subset]
    · refine le_trans (le_of_eq (sum_congr rfl fun p member => ?_)) (h.funded a e)
      exact same p (mem_filter.mp member).1 e
    · intro p member other
      obtain ⟨isHolder, here⟩ := mem_filter.mp member
      refine nothing p isHolder (fun old => other ?_) e
      exact mem_filter.mpr ⟨old, (group p old).symm.trans here⟩
  · rw [← sum_subset kept]
    · calc ∑ p ∈ l.holders, l'.owed p
          = ∑ p ∈ l.holders, l.owed p := by
            refine sum_congr rfl fun p isHolder => ?_
            unfold owed
            rw [cursor, next, group p isHolder]
            exact sum_congr rfl fun e _ => same p isHolder e
        _ ≤ l.held * scale := h.covered
        _ ≤ l'.held * scale := mul_le_mul_right scale held
    · exact fun p isHolder isNew => sum_eq_zero fun e _ => nothing p isHolder isNew e
  · rw [next, rate]
    exact h.ahead
  · intro p
    rw [paid, cursor]
    by_cases isHolder : p ∈ l.holders
    · refine le_trans (h.repaid p) (le_of_eq ?_)
      exact sum_congr rfl fun e _ => (same p isHolder e).symm
    · rw [h.strangers p isHolder, zero_mul]
      exact zero_le _
  · intro p other
    rw [paid]
    exact h.strangers p fun old => other (kept old)

omit [DecidableEq P] in
theorem indexed_solvent (h : l.Solvent scale)
    (divides : perWeight * ∑ p ∈ l.members a, l.weight p (l.next a) ≤ amount * scale)
    (holders : l'.holders = l.holders) (group : l'.group = l.group) (weight : l'.weight = l.weight)
    (rate : ∀ b e, l'.rate b e = if b = a ∧ e = l.next a then perWeight else l.rate b e)
    (pot : ∀ b e, l'.pot b e = if b = a ∧ e = l.next a then amount else l.pot b e)
    (next : ∀ b, l'.next b = if b = a then l.next a + 1 else l.next b)
    (cursor : l'.cursor = l.cursor) (paid : l'.paid = l.paid)
    (held : l.held + amount ≤ l'.held) : l'.Solvent scale := by
  have same : ∀ p e, ¬ (l.group p = a ∧ e = l.next a) → l'.earned p e = l.earned p e := by
    intro p e other
    unfold earned
    rw [weight, group, rate, if_neg other]
  have fresh : ∀ p, l.group p = a → l'.earned p (l.next a) = l.weight p (l.next a) * perWeight := by
    intro p here
    unfold earned
    rw [weight, group, rate, if_pos ⟨here, rfl⟩]
  have members : ∀ b, l'.members b = l.members b := fun b => by
    unfold EpochRewards.members
    rw [holders, group]
  have divided : ∑ p ∈ l.members a, l'.earned p (l.next a) ≤ amount * scale := by
    refine le_trans (le_of_eq ?_) divides
    rw [mul_sum]
    refine sum_congr rfl fun p member => ?_
    rw [fresh p (mem_filter.mp member).2, mul_comm]
  refine ⟨?_, ?_, ?_, ?_, ?_⟩
  · intro b e
    rw [members, pot]
    by_cases here : b = a ∧ e = l.next a
    · obtain ⟨rfl, rfl⟩ := here
      rw [if_pos ⟨rfl, rfl⟩]
      exact divided
    · rw [if_neg here]
      refine le_trans (le_of_eq (sum_congr rfl fun p member => ?_)) (h.funded b e)
      have isMember := (mem_filter.mp member).2
      exact same p e fun both => here ⟨isMember.symm.trans both.1, both.2⟩
  · -- the new epoch adds at most the pot to what is owed
    have each : ∀ p ∈ l.holders, l'.owed p ≤
        l.owed p + if l.group p = a then l'.earned p (l.next a) else 0 := by
      intro p _
      unfold owed
      rw [cursor, group, next]
      by_cases here : l.group p = a
      · rw [if_pos here, if_pos here, here]
        have old : ∑ e ∈ Finset.Ico (l.cursor p) (l.next a), l'.earned p e =
            ∑ e ∈ Finset.Ico (l.cursor p) (l.next a), l.earned p e := by
          refine sum_congr rfl fun e inside => same p e fun both => ?_
          have := (mem_Ico.mp inside).2
          omega
        by_cases order : l.cursor p ≤ l.next a
        · rw [sum_Ico_succ_top order, old]
        · rw [Finset.Ico_eq_empty (by omega), sum_empty]
          exact zero_le _
      · rw [if_neg here, if_neg here, add_zero]
        exact le_of_eq (sum_congr rfl fun e _ => same p e fun both => here both.1)
    rw [holders]
    calc ∑ p ∈ l.holders, l'.owed p
        ≤ ∑ p ∈ l.holders, (l.owed p + if l.group p = a then l'.earned p (l.next a) else 0) :=
          sum_le_sum each
      _ = ∑ p ∈ l.holders, l.owed p + ∑ p ∈ l.members a, l'.earned p (l.next a) := by
          rw [sum_add_distrib, EpochRewards.members, sum_filter]
      _ ≤ l.held * scale + amount * scale := Nat.add_le_add h.covered divided
      _ = (l.held + amount) * scale := (add_mul _ _ _).symm
      _ ≤ l'.held * scale := mul_le_mul_right scale held
  · intro b e beyond
    rw [next] at beyond
    rw [rate]
    by_cases here : b = a
    · subst here
      rw [if_pos rfl] at beyond
      rw [if_neg (by omega)]
      exact h.ahead b e (by omega)
    · rw [if_neg here] at beyond
      rw [if_neg fun both => here both.1]
      exact h.ahead b e beyond
  · intro p
    rw [paid, cursor]
    refine le_trans (h.repaid p) (sum_le_sum fun e _ => ?_)
    by_cases here : l.group p = a ∧ e = l.next a
    · obtain ⟨isGroup, rfl⟩ := here
      have zero : l.earned p (l.next a) = 0 := by
        unfold earned
        rw [isGroup, h.ahead a _ (le_refl _), mul_zero]
      rw [zero]
      exact zero_le _
    · exact le_of_eq (same p e here).symm
  · rw [holders, paid]
    exact h.strangers

theorem claimed_solvent (h : l.Solvent scale)
    (isHolder : p ∈ l.holders) (order : l.cursor p ≤ stop) (inside : stop ≤ l.next (l.group p))
    (bounded : amount * scale ≤ ∑ e ∈ Finset.Ico (l.cursor p) stop, l.earned p e)
    (holders : l'.holders = l.holders) (group : l'.group = l.group) (weight : l'.weight = l.weight)
    (rate : l'.rate = l.rate) (pot : l'.pot = l.pot) (next : l'.next = l.next)
    (cursor : l'.cursor = update l.cursor p stop)
    (paid : l'.paid = update l.paid p (l.paid p + amount))
    (held : l.held ≤ l'.held + amount) : l'.Solvent scale := by
  have same : l'.earned = l.earned := by
    funext q e
    unfold earned
    rw [weight, rate, group]
  refine ⟨?_, ?_, ?_, ?_, ?_⟩
  · unfold EpochRewards.members
    rw [same, pot, holders, group]
    exact h.funded
  · have others : ∀ q ∈ l.holders.erase p, l'.owed q = l.owed q := by
      intro q member
      unfold owed
      rw [same, next, group, cursor, update_of_ne (ne_of_mem_erase member)]
    have here : l.owed p = ∑ e ∈ Finset.Ico (l.cursor p) stop, l.earned p e + l'.owed p := by
      unfold owed
      rw [same, next, group, cursor, update_self]
      exact (sum_Ico_consecutive _ order inside).symm
    have rest : ∑ q ∈ l.holders.erase p, l'.owed q = ∑ q ∈ l.holders.erase p, l.owed q :=
      sum_congr rfl others
    have before := h.covered
    rw [← add_sum_erase l.holders l.owed isHolder] at before
    rw [holders, ← add_sum_erase l.holders l'.owed isHolder, rest]
    have after := mul_le_mul_right scale held
    rw [add_mul] at after
    omega
  · rw [next, rate]
    exact h.ahead
  · intro q
    rw [paid, same, cursor]
    by_cases here : q = p
    · subst here
      rw [update_self, update_self, add_mul,
        ← sum_range_add_sum_Ico _ order]
      exact Nat.add_le_add (h.repaid q) bounded
    · rw [update_of_ne here, update_of_ne here]
      exact h.repaid q
  · intro q other
    rw [holders] at other
    have different : q ≠ p := fun here => other (here ▸ isHolder)
    rw [paid, update_of_ne different]
    exact h.strangers q other

theorem Move.solvent (move : Move scale l l') (h : l.Solvent scale) : l'.Solvent scale := by
  cases move with
  | reweighted kept group weight joined rate pot next cursor paid held =>
    exact reweighted_solvent h kept group weight joined rate pot next cursor paid held
  | indexed a perWeight amount divides holders group weight rate pot next cursor paid held =>
    exact indexed_solvent h divides holders group weight rate pot next cursor paid held
  | claimed p stop amount isHolder order inside bounded holders group weight rate pot next cursor
      paid held =>
      exact claimed_solvent h isHolder order inside bounded holders group weight rate pot next
        cursor paid held

end EpochRewards

end Evm
