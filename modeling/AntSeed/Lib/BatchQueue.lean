import AntSeed.Lib.Mapping
import Mathlib.Data.Fintype.BigOperators

/-! # Queues that are paid out in batches

Accounts queue amounts in the open batch. The open batch is sealed, which opens
the next one, and a sealed batch is paid out as a whole; the next one can be
sealed only after that. Two ledgers say what has been queued in and what has been
paid out of every batch for every account. A sound queue loses nothing: what was
queued is still recorded or has been paid.
-/

namespace Evm

open Function

structure BatchQueue (K : Type) where
  total : Nat → Nat
  users : Nat → List K
  amount : Nat → K → Nat
  current : Nat
  oldest : Nat

/-- An amount of one account in one batch. -/
def entry {K : Type} [DecidableEq K] (batch : Nat) (k : K) (n : Nat) : Nat → K → Nat :=
  fun b x => if b = batch ∧ x = k then n else 0

def entries {K : Type} (batch : Nat) (amounts : K → Nat) : Nat → K → Nat :=
  fun b x => if b = batch then amounts x else 0

namespace BatchQueue

variable {K : Type} [DecidableEq K] {q : BatchQueue K} {queued paid : Nat → K → Nat}

def empty (first : Nat) : BatchQueue K where
  total _ := 0
  users _ := []
  amount _ _ := 0
  current := first
  oldest := first

/-- Queue an amount in the open batch. -/
def enqueue (q : BatchQueue K) (k : K) (n : Nat) : BatchQueue K :=
  { q with
    total := update q.total q.current (q.total q.current + n)
    users := if q.amount q.current k = 0 then update q.users q.current (q.users q.current ++ [k])
      else q.users
    amount := update q.amount q.current
      (update (q.amount q.current) k (q.amount q.current k + n)) }

/-- Seal the open batch and open the next one. -/
def sealBatch (q : BatchQueue K) : BatchQueue K := { q with current := q.current + 1 }

/-- Pay the oldest batch out. -/
def payOut (q : BatchQueue K) : BatchQueue K :=
  { q with amount := update q.amount q.oldest fun _ => 0, oldest := q.oldest + 1 }

structure Sound [Fintype K] (queued paid : Nat → K → Nat) (q : BatchQueue K) : Prop where
  reached : q.oldest ≤ q.current
  near : q.current ≤ q.oldest + 1
  total : ∀ b, q.total b = ∑ k, queued b k
  members : ∀ b k, k ∈ q.users b ↔ queued b k ≠ 0
  distinct : ∀ b, (q.users b).Nodup
  split : ∀ b k, queued b k = q.amount b k + paid b k
  unpaid : ∀ b, q.oldest ≤ b → ∀ k, paid b k = 0
  settled : ∀ b, b < q.oldest → ∀ k, q.amount b k = 0
  fresh : ∀ b, q.current < b → ∀ k, queued b k = 0

variable [Fintype K]

omit [DecidableEq K] in
theorem sound_empty (first : Nat) : (empty first : BatchQueue K).Sound 0 0 := by
  constructor <;> simp [empty]

omit [DecidableEq K] in
theorem Sound.amount_eq (h : q.Sound queued paid) (waiting : q.oldest ≤ b) (k : K) :
    q.amount b k = queued b k := by
  have := h.split b k
  rw [h.unpaid b waiting k] at this
  omega

omit [DecidableEq K] in
theorem Sound.total_waiting (h : q.Sound queued paid) (waiting : q.oldest ≤ b) :
    q.total b = ∑ k, q.amount b k := by
  rw [h.total]
  exact Finset.sum_congr rfl fun k _ => (h.amount_eq waiting k).symm

theorem Sound.sum_users (h : q.Sound queued paid) (waiting : q.oldest ≤ b) :
    ((q.users b).map (q.amount b)).sum = q.total b := by
  rw [h.total_waiting waiting, ← List.sum_toFinset (q.amount b) (h.distinct b)]
  refine Finset.sum_subset (Finset.subset_univ _) fun k _ absent => ?_
  rw [h.amount_eq waiting k]
  by_contra some
  exact absent (List.mem_toFinset.mpr ((h.members b k).mpr some))

omit [Fintype K] in
@[simp] theorem entry_self (b : Nat) (k : K) (n : Nat) : entry b k n b k = n := by
  simp [entry]

theorem sum_entry (b batch : Nat) (k : K) (n : Nat) :
    ∑ x, entry batch k n b x = if b = batch then n else 0 := by
  by_cases here : b = batch <;> simp [entry, here]

theorem Sound.enqueue (h : q.Sound queued paid) (k : K) (some : n ≠ 0) :
    (q.enqueue k n).Sound (queued + entry q.current k n) paid := by
  have recorded := h.amount_eq h.reached k
  refine ⟨h.reached, h.near, ?_, ?_, ?_, ?_, h.unpaid, ?_, ?_⟩
  · intro b
    simp only [Pi.add_apply, Finset.sum_add_distrib, sum_entry, ← h.total]
    by_cases here : b = q.current
    · subst here
      simp [BatchQueue.enqueue]
    · simp [BatchQueue.enqueue, here]
  · intro b x
    by_cases here : b = q.current
    · subst here
      by_cases new : q.amount q.current k = 0
      · by_cases isThat : x = k
        · simp [BatchQueue.enqueue, new, isThat, some]
        · simp [BatchQueue.enqueue, new, isThat, entry, h.members]
      · by_cases isThat : x = k
        · subst isThat
          simp [BatchQueue.enqueue, new, h.members, some, ← recorded]
        · simp [BatchQueue.enqueue, new, isThat, entry, h.members]
    · have same : (q.enqueue k n).users b = q.users b := by
        simp only [BatchQueue.enqueue]
        split
        · exact update_of_ne here _ _
        · rfl
      rw [same, h.members]
      simp [entry, here]
  · intro b
    simp only [BatchQueue.enqueue]
    split
    next new =>
      by_cases here : b = q.current
      · subst here
        have absent : k ∉ q.users q.current := by
          rw [h.members, ← recorded]
          simp [new]
        simpa [List.nodup_append, absent] using ⟨h.distinct q.current, fun x inside isThat =>
          absent (isThat ▸ inside)⟩
      · rw [update_of_ne here]
        exact h.distinct b
    · exact h.distinct b
  · intro b x
    have before := h.split b x
    simp only [BatchQueue.enqueue, Pi.add_apply, entry, update_nested]
    by_cases here : b = q.current ∧ x = k
    · obtain ⟨rfl, rfl⟩ := here
      simp only [and_self, if_true]
      omega
    · simp only [if_neg here]
      omega
  · intro b past x
    have other : b ≠ q.current := Nat.ne_of_lt (Nat.lt_of_lt_of_le past h.reached)
    simp only [BatchQueue.enqueue, update_of_ne other]
    exact h.settled b past x
  · intro b later x
    have other : b ≠ q.current := Nat.ne_of_gt later
    simp [entry, other, h.fresh b later x]

omit [DecidableEq K] in
theorem Sound.sealBatch (h : q.Sound queued paid) (paidUp : q.current = q.oldest) :
    q.sealBatch.Sound queued paid where
  reached := Nat.le_succ_of_le h.reached
  near := Nat.succ_le_succ (Nat.le_of_eq paidUp)
  total := h.total
  members := h.members
  distinct := h.distinct
  split := h.split
  unpaid := h.unpaid
  settled := h.settled
  fresh b later := h.fresh b (Nat.lt_of_succ_lt later)

omit [DecidableEq K] in
theorem Sound.payOut (h : q.Sound queued paid) (sealed : q.oldest < q.current) :
    q.payOut.Sound queued (paid + entries q.oldest (q.amount q.oldest)) := by
  refine ⟨sealed, Nat.le_succ_of_le h.near, h.total, h.members, h.distinct, ?_, ?_, ?_, h.fresh⟩
  · intro b k
    have before := h.split b k
    by_cases here : b = q.oldest
    · subst here
      simp only [BatchQueue.payOut, update_self, Pi.add_apply, entries, if_true]
      omega
    · simpa [BatchQueue.payOut, entries, here] using before
  · intro b waiting k
    have later : q.oldest < b := waiting
    simp [entries, Nat.ne_of_gt later, h.unpaid b (Nat.le_of_lt later) k]
  · intro b past k
    by_cases here : b = q.oldest
    · subst here
      simp [BatchQueue.payOut]
    · have earlier : b < q.oldest := by
        have : b < q.oldest + 1 := past
        omega
      simp [BatchQueue.payOut, here, h.settled b earlier k]

end BatchQueue

end Evm
