import AntSeed.Lib.Reverting

/-! # Upper-bound binary search

`while (low < high)` over the positions of a sorted array: the result is the
number of entries that lie below the bound. Reading an entry may revert.
-/

namespace Evm

variable {ε : Type}

def upperBound (below : Nat → Tx ε Bool) : (fuel low high : Nat) → Tx ε Nat
  | 0, low, _ => pure low
  | fuel + 1, low, high =>
    if low < high then do
      let isBelow ← below ((low + high) / 2)
      if isBelow then upperBound below fuel ((low + high) / 2 + 1) high
      else upperBound below fuel low ((low + high) / 2)
    else pure low

/-- On a sorted array of `n` entries the search finds where the entries below the bound
    end. -/
theorem upperBound_spec {f : Nat → Tx ε Bool} {b : Nat → Bool} {n : Nat}
    (reads : ∀ i, i < n → f i = .ok (b i))
    (sorted : ∀ i j, i ≤ j → j < n → b j = true → b i = true)
    {k low high : Nat} (order : low ≤ high) (inside : high ≤ n) (enough : high ≤ low + k)
    (left : ∀ i, i < low → b i = true) (right : ∀ i, high ≤ i → i < n → b i = false) :
    ∃ r, upperBound f k low high = .ok r ∧ r ≤ n ∧ (∀ i, i < r → b i = true) ∧
      ∀ i, r ≤ i → i < n → b i = false := by
  induction k generalizing low high with
  | zero =>
    have same : low = high := by omega
    exact ⟨low, rfl, by omega, left, same ▸ right⟩
  | succ k ih =>
    unfold upperBound
    by_cases more : low < high
    · rw [if_pos more, reads ((low + high) / 2) (by omega), ok_bind]
      cases here : b ((low + high) / 2) with
      | true =>
        rw [if_pos rfl]
        refine ih (by omega) inside (by omega) ?_ right
        exact fun i before => sorted i _ (by omega) (by omega) here
      | false =>
        rw [if_neg (by simp)]
        refine ih (by omega) (by omega) (by omega) left ?_
        intro i after known
        cases high' : b i with
        | true =>
          have := sorted _ i after known high'
          simp [here] at this
        | false => rfl
    · rw [if_neg more]
      have same : low = high := by omega
      exact ⟨low, rfl, by omega, left, same ▸ right⟩

end Evm
