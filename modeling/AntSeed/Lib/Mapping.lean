import Mathlib.Algebra.BigOperators.Group.Finset.Piecewise
import Mathlib.Algebra.Order.BigOperators.Group.Finset
import Mathlib.Data.Fintype.Pi
import Mathlib.Tactic.Abel

/-! # Storage mappings

A storage mapping is a total function on its keys: a key that was never written
holds the default value. Keys are words of a fixed width, so a sum over all keys
is a finite sum, and one write changes it by one summand.
-/

namespace Evm

/-- An account address. -/
structure Address where
  word : BitVec 160
  deriving DecidableEq, Repr

/-- A 32-byte word used as a name: a hash or an identifier nobody computes with. -/
structure Word where
  word : BitVec 256
  deriving DecidableEq, Repr

instance : Zero Address := ⟨⟨0⟩⟩
instance : Zero Word := ⟨⟨0⟩⟩
instance : Inhabited Address := ⟨0⟩
instance : Inhabited Word := ⟨0⟩

instance : Finite Address :=
  Finite.of_injective (fun a => a.word.toFin) fun a b same => by
    cases a; cases b; simpa using BitVec.toFin_inj.mp same

instance : Finite Word :=
  Finite.of_injective (fun a => a.word.toFin) fun a b same => by
    cases a; cases b; simpa using BitVec.toFin_inj.mp same

noncomputable instance : Fintype Address := Fintype.ofFinite Address
noncomputable instance : Fintype Word := Fintype.ofFinite Word

section Nested

open Function

variable {I J K V : Type} [DecidableEq I] [DecidableEq J] [DecidableEq K]

theorem update_nested (m : I → J → V) (i x : I) (j y : J) (v : V) :
    update m i (update (m i) j v) x y = if x = i ∧ y = j then v else m x y := by
  by_cases here : x = i
  · subst here
    simp [update_apply]
  · simp [here]

theorem update_nested_twice (m : I → J → K → V) (i x : I) (j y : J) (k z : K) (v : V) :
    update m i (update (m i) j (update (m i j) k v)) x y z =
      if x = i ∧ y = j ∧ z = k then v else m x y z := by
  by_cases here : x = i
  · subst here
    rw [update_self, update_nested]
    simp
  · simp [here]

end Nested

section Moves

open Function

variable {K : Type} [DecidableEq K]

/-- Take `amount` from one key and give it to another. -/
def shift (m : K → Nat) (source target : K) (amount : Nat) : K → Nat :=
  update (update m source (m source - amount)) target
    (update m source (m source - amount) target + amount)

theorem shift_add (enough : amount ≤ m source)
    (target k : K) : shift m source target amount k + (if k = source then amount else 0) =
      m k + if k = target then amount else 0 := by
  unfold shift
  simp only [update_apply]
  by_cases received : k = target
  · by_cases spent : k = source
    · subst received
      subst spent
      simp only [if_true]
      omega
    · subst received
      simp [spent]
  · by_cases spent : k = source
    · subst spent
      simp only [if_neg received, if_true]
      omega
    · simp [received, spent]

end Moves

open Function

variable {K V M : Type} [DecidableEq K] [AddCommMonoid M] {s : Finset K}

theorem sum_update_add (f : K → V → M) (m : K → V) (v : V) (inside : k ∈ s) :
    ∑ x ∈ s, f x (update m k v x) + f k (m k) = ∑ x ∈ s, f x (m x) + f k v := by
  have rest : ∑ x ∈ s.erase k, f x (update m k v x) = ∑ x ∈ s.erase k, f x (m x) :=
    Finset.sum_congr rfl fun x member => by rw [update_of_ne (Finset.ne_of_mem_erase member)]
  calc ∑ x ∈ s, f x (update m k v x) + f k (m k)
      = f k v + ∑ x ∈ s.erase k, f x (m x) + f k (m k) := by
        rw [← Finset.add_sum_erase s _ inside, rest, update_self]
    _ = (f k (m k) + ∑ x ∈ s.erase k, f x (m x)) + f k v := by abel
    _ = ∑ x ∈ s, f x (m x) + f k v := by rw [Finset.add_sum_erase s (fun x => f x (m x)) inside]

theorem sum_update_same (f : K → V → M) (m : K → V) (v : V) (same : f k v = f k (m k)) :
    ∑ x ∈ s, f x (update m k v x) = ∑ x ∈ s, f x (m x) :=
  Finset.sum_congr rfl fun x _ => by
    by_cases h : x = k
    · subst h
      rw [update_self, same]
    · rw [update_of_ne h]

theorem card_update_add (P : V → Prop) [DecidablePred P] (m : K → V) (v : V) (inside : k ∈ s) :
    {x ∈ s | P (update m k v x)}.card + (if P (m k) then 1 else 0) =
      {x ∈ s | P (m x)}.card + if P v then 1 else 0 := by
  simp only [Finset.card_filter]
  exact sum_update_add (fun _ v => if P v then 1 else 0) m v inside

end Evm
