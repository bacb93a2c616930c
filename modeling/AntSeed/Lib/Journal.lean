import Mathlib.Algebra.BigOperators.Group.Finset.Piecewise
import Mathlib.Data.Fintype.Basic

/-! # Journals

Accounts that are only ever posted to are determined by the journal of what was
posted. An account that gathers several others, because its key forgets a part of
theirs, holds their sum.
-/

namespace Evm

variable {R K J A : Type} [DecidableEq K] [DecidableEq J] [AddCommMonoid A]

/-- What the entries of a journal post under a key. -/
def posted (key : R → K) (amount : R → A) (journal : List R) (k : K) : A :=
  (journal.map fun r => if key r = k then amount r else 0).sum

variable (key : R → K) (part : R → J) (amount : R → A) (journal : List R)

@[simp] theorem posted_nil (k : K) : posted key amount [] k = 0 := rfl

theorem posted_cons (r : R) (k : K) :
    posted key amount (r :: journal) k = (if key r = k then amount r else 0) +
      posted key amount journal k := by
  simp [posted]

theorem posted_append (r : R) (k : K) :
    posted key amount (journal ++ [r]) k = if k = key r then
      posted key amount journal (key r) + amount r else posted key amount journal k := by
  by_cases here : k = key r
  · subst here
    simp [posted]
  · simp [posted, here, Ne.symm here]

theorem sum_posted {L : Type} [DecidableEq L] {finer : R → L} {join : J → L} {k : K}
    (meaning : ∀ r j, finer r = join j ↔ key r = k ∧ part r = j) {parts : Finset J}
    (inside : ∀ r ∈ journal, part r ∈ parts) :
    ∑ j ∈ parts, posted finer amount journal (join j) = posted key amount journal k := by
  induction journal with
  | nil => simp
  | cons r rest ih =>
    have member := inside r List.mem_cons_self
    simp only [posted_cons, Finset.sum_add_distrib, meaning]
    rw [ih fun r later => inside r (List.mem_cons_of_mem _ later)]
    congr 1
    by_cases here : key r = k
    · simp [here, member]
    · simp [here]

end Evm
