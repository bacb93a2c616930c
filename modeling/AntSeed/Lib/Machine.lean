import Mathlib.Data.List.Basic
import Mathlib.Algebra.Group.Prod

/-! # Machines whose steps may revert

The state of a system of contracts changes one call at a time, and a call that
reverts changes nothing. A run is any list of calls, whoever makes them and in
whatever order; the state it reaches is computed, so every theorem about
`run` is a theorem about every reachable state.
-/

variable {σ ι ε : Type}

/-- A state machine: every input either moves the state or is rejected. -/
structure Machine (σ ι ε : Type) where
  step : σ → ι → Except ε σ

namespace Machine

open List

variable (M : Machine σ ι ε)

/-- One input, with rejected inputs leaving the state as it was. -/
def exec (s : σ) (i : ι) : σ :=
  match M.step s i with
  | .ok s' => s'
  | .error _ => s

/-- The state after a list of inputs. -/
def run (s : σ) (is : List ι) : σ := is.foldl M.exec s

/-- The inputs of a run that were not rejected. -/
def accepted (s : σ) : List ι → List ι
  | [] => []
  | i :: is =>
    match M.step s i with
    | .ok s' => i :: accepted s' is
    | .error _ => accepted s is

/-- What the accepted inputs of a run add up to, each weighed in the state it was taken in. -/
def tally {A : Type} [AddMonoid A] (weight : σ → ι → A) (s : σ) : List ι → A
  | [] => 0
  | i :: is =>
    match M.step s i with
    | .ok s' => weight s i + tally weight s' is
    | .error _ => tally weight s is

/-- What the accepted inputs of a run report, in order. -/
def log {A : Type} (report : σ → ι → List A) (s : σ) : List ι → List A
  | [] => []
  | i :: is =>
    match M.step s i with
    | .ok s' => report s i ++ log report s' is
    | .error _ => log report s is

@[simp] theorem run_nil (s : σ) : M.run s [] = s := rfl

@[simp] theorem run_cons (s : σ) (i : ι) (is : List ι) : M.run s (i :: is) = M.run (M.exec s i) is := rfl

theorem run_append (s : σ) (is js : List ι) : M.run s (is ++ js) = M.run (M.run s is) js := by
  simp [run, foldl_append]

theorem run_concat (s : σ) (is : List ι) (i : ι) : M.run s (is ++ [i]) = M.exec (M.run s is) i := by
  simp [run_append]

variable {i : ι} {s : σ} {is : List ι}

theorem exec_eq_of_step (h : M.step s i = .ok s') : M.exec s i = s' := by
  simp [exec, h]

theorem exec_cases (s : σ) (i : ι) : M.step s i = .ok (M.exec s i) ∨ M.exec s i = s := by
  cases h : M.step s i with
  | ok => exact .inl (by simp [exec, h])
  | error => exact .inr (by simp [exec, h])

theorem run_eq_foldl {τ : Type} (part : σ → τ) (act : τ → ι → τ)
    (acts : ∀ s i s', M.step s i = .ok s' → part s' = act (part s) i) (s : σ) (is : List ι) :
    part (M.run s is) = (M.accepted s is).foldl act (part s) := by
  induction is generalizing s with
  | nil => rfl
  | cons i is ih =>
    rw [run_cons]
    unfold accepted
    cases taken : M.step s i with
    | ok s' => simp [exec, taken, ih, acts s i s' taken]
    | error => simp [exec, taken, ih]

theorem accepted_sublist (s : σ) (is : List ι) : (M.accepted s is).Sublist is := by
  induction is generalizing s with
  | nil => exact .slnil
  | cons i is ih =>
    unfold accepted
    cases M.step s i with
    | ok s' => exact (ih s').cons_cons i
    | error => exact (ih s).cons i

theorem exec_invariant {I : σ → Prop} (preserved : ∀ s s', I s → M.step s i = .ok s' → I s')
    (holds : I s) : I (M.exec s i) := by
  rcases M.exec_cases s i with taken | skipped
  · exact preserved s _ holds taken
  · rwa [skipped]

/-- Every input of a run comes in a state in which it meets a condition. -/
def Along (P : σ → ι → Prop) (s : σ) : List ι → Prop
  | [] => True
  | i :: is => P s i ∧ Along P (M.exec s i) is

instance decidableAlong {P : σ → ι → Prop} [∀ s i, Decidable (P s i)] (s : σ) :
    ∀ is, Decidable (M.Along P s is)
  | [] => .isTrue trivial
  | i :: is =>
    @instDecidableAnd (P s i) (M.Along P (M.exec s i) is) _ (decidableAlong (M.exec s i) is)

theorem along_append :
    M.Along P s (is ++ js) ↔ M.Along P s is ∧ M.Along P (M.run s is) js := by
  induction is generalizing s with
  | nil => simp [Along]
  | cons i is ih => simp [Along, ih, and_assoc]

/-- What an accepted input preserves whenever it meets a condition, a run of such inputs preserves. -/
theorem run_invariant_along {I : σ → Prop} {P : σ → ι → Prop}
    (preserved : ∀ s i s', P s i → I s → M.step s i = .ok s' → I s') (holds : I s)
    (along : M.Along P s is) : I (M.run s is) := by
  induction is generalizing s with
  | nil => exact holds
  | cons i is ih =>
    obtain ⟨here, rest⟩ := along
    refine ih ?_ rest
    rcases M.exec_cases s i with taken | skipped
    · exact preserved s i _ here holds taken
    · rwa [skipped]

theorem along_of_all {P : ι → Prop} (all : ∀ i ∈ is, P i) : M.Along (fun _ i => P i) s is := by
  induction is generalizing s with
  | nil => trivial
  | cons i is ih => exact ⟨all i mem_cons_self, ih fun j member => all j (mem_cons_of_mem i member)⟩

theorem run_invariant_on {I : σ → Prop} {P : ι → Prop}
    (preserved : ∀ s i s', P i → I s → M.step s i = .ok s' → I s') (holds : I s)
    (all : ∀ i ∈ is, P i) : I (M.run s is) :=
  M.run_invariant_along (P := fun _ i => P i) preserved holds (M.along_of_all all)

theorem run_invariant {I : σ → Prop} (preserved : ∀ s i s', I s → M.step s i = .ok s' → I s')
    (holds : I s) (is : List ι) : I (M.run s is) :=
  M.run_invariant_on (P := fun _ => True) (fun s i s' _ => preserved s i s') holds fun _ _ => trivial

theorem run_invariant_tally_on {A : Type} [AddMonoid A] {I : A → σ → Prop} {P : ι → Prop}
    {weight : σ → ι → A}
    (preserved : ∀ a s i s', P i → I a s → M.step s i = .ok s' → I (a + weight s i) s') {a : A}
    (holds : I a s) (all : ∀ i ∈ is, P i) : I (a + M.tally weight s is) (M.run s is) := by
  induction is generalizing s a with
  | nil => simpa [tally] using holds
  | cons i is ih =>
    have here := all i mem_cons_self
    have rest : ∀ j ∈ is, P j := fun j member => all j (mem_cons_of_mem i member)
    rw [run_cons]
    unfold tally
    cases taken : M.step s i with
    | ok s' => simpa [exec, taken, add_assoc] using ih (preserved a s i s' here holds taken) rest
    | error => simpa [exec, taken] using ih holds rest

theorem run_invariant_tally {A : Type} [AddMonoid A] {I : A → σ → Prop} {weight : σ → ι → A}
    (preserved : ∀ a s i s', I a s → M.step s i = .ok s' → I (a + weight s i) s') {a : A}
    (holds : I a s) (is : List ι) : I (a + M.tally weight s is) (M.run s is) :=
  M.run_invariant_tally_on (P := fun _ => True) (fun a s i s' _ => preserved a s i s') holds
    fun _ _ => trivial

theorem run_invariant_log_along {A : Type} {I : List A → σ → Prop} {P : σ → ι → Prop}
    {report : σ → ι → List A}
    (preserved : ∀ l s i s', P s i → I l s → M.step s i = .ok s' → I (l ++ report s i) s')
    {l : List A} (holds : I l s) (along : M.Along P s is) :
    I (l ++ M.log report s is) (M.run s is) := by
  induction is generalizing s l with
  | nil => simpa [log] using holds
  | cons i is ih =>
    obtain ⟨here, rest⟩ := along
    rw [run_cons]
    unfold log
    cases taken : M.step s i with
    | ok s' =>
      rw [M.exec_eq_of_step taken] at rest ⊢
      simpa only [append_assoc] using ih (preserved l s i s' here holds taken) rest
    | error =>
      have idle : M.exec s i = s := by simp [exec, taken]
      rw [idle] at rest ⊢
      exact ih holds rest

theorem run_invariant_log_on {A : Type} {I : List A → σ → Prop} {P : ι → Prop} {report : σ → ι → List A}
    (preserved : ∀ l s i s', P i → I l s → M.step s i = .ok s' → I (l ++ report s i) s')
    {l : List A} (holds : I l s) (all : ∀ i ∈ is, P i) :
    I (l ++ M.log report s is) (M.run s is) :=
  M.run_invariant_log_along (P := fun _ i => P i) preserved holds (M.along_of_all all)

theorem run_invariant_log {A : Type} {I : List A → σ → Prop} {report : σ → ι → List A}
    (preserved : ∀ l s i s', I l s → M.step s i = .ok s' → I (l ++ report s i) s') {l : List A}
    (holds : I l s) (is : List ι) : I (l ++ M.log report s is) (M.run s is) :=
  M.run_invariant_log_on (P := fun _ => True) (fun l s i s' _ => preserved l s i s') holds
    fun _ _ => trivial

theorem log_append {A : Type} (report : σ → ι → List A) (s : σ) (is js : List ι) :
    M.log report s (is ++ js) = M.log report s is ++ M.log report (M.run s is) js := by
  induction is generalizing s with
  | nil => rfl
  | cons i is ih =>
    cases taken : M.step s i with
    | ok => simp only [cons_append, log, run_cons, exec, taken, ih, append_assoc]
    | error => simp only [cons_append, log, run_cons, exec, taken, ih]

theorem tally_accepted {A : Type} [AddMonoid A] (weight : σ → ι → A)
    (taken : M.step s i = .ok s') (is : List ι) :
    M.tally weight s (i :: is) = weight s i + M.tally weight s' is := by
  simp [tally, taken]

theorem tally_rejected {A : Type} [AddMonoid A] (weight : σ → ι → A)
    (rejected : M.step s i = .error e) (is : List ι) :
    M.tally weight s (i :: is) = M.tally weight s is := by
  simp [tally, rejected]

theorem tally_pair {A B : Type} [AddMonoid A] [AddMonoid B] (f : σ → ι → A) (g : σ → ι → B) (s : σ)
    (is : List ι) :
    M.tally (fun s i => (f s i, g s i)) s is = (M.tally f s is, M.tally g s is) := by
  induction is generalizing s with
  | nil => rfl
  | cons i is ih =>
    unfold tally
    cases M.step s i with
    | ok | error => simp [ih]

section Once

variable (marked : σ → Prop) {I : σ → Prop} {P : ι → Bool} {Q : ι → Prop}
  (preserved : ∀ s i s', Q i → I s → M.step s i = .ok s' → I s')
  (refused : ∀ s i s', I s → P i → marked s → M.step s i ≠ .ok s')
  (stays : ∀ s i s', Q i → I s → marked s → M.step s i = .ok s' → marked s')

include preserved refused stays

variable {is : List ι}

theorem accepted_none (holds : I s) (already : marked s) (all : ∀ i ∈ is, Q i) :
    (M.accepted s is).countP P = 0 := by
  induction is generalizing s with
  | nil => rfl
  | cons i is ih =>
    have here := all i mem_cons_self
    have rest : ∀ j ∈ is, Q j := fun j member => all j (mem_cons_of_mem i member)
    unfold accepted
    cases taken : M.step s i with
    | error => exact ih holds already rest
    | ok s' =>
      have other : ¬ P i := fun isP => refused s i s' holds isP already taken
      simpa [countP_cons_of_neg other] using
        ih (preserved s i s' here holds taken) (stays s i s' here holds already taken) rest

theorem accepted_once (marks : ∀ s i s', I s → P i → M.step s i = .ok s' → marked s')
    (holds : I s) (all : ∀ i ∈ is, Q i) : (M.accepted s is).countP P ≤ 1 := by
  induction is generalizing s with
  | nil => exact Nat.zero_le 1
  | cons i is ih =>
    have here := all i mem_cons_self
    have rest : ∀ j ∈ is, Q j := fun j member => all j (mem_cons_of_mem i member)
    unfold accepted
    cases taken : M.step s i with
    | error => exact ih holds rest
    | ok s' =>
      have next := preserved s i s' here holds taken
      by_cases isP : P i
      · have none := M.accepted_none marked preserved refused stays next
          (marks s i s' holds isP taken) rest
        simp [countP_cons_of_pos isP, none]
      · simpa [countP_cons_of_neg isP] using ih next rest

end Once

/-- A preorder that every accepted input moves along, every run moves along,
    from a state in which an invariant holds. -/
theorem run_progress {I : σ → Prop} {R : σ → σ → Prop} (refl : ∀ s, R s s)
    (trans : ∀ {a b c}, R a b → R b c → R a c)
    (preserved : ∀ s i s', I s → M.step s i = .ok s' → I s')
    (moves : ∀ s i s', I s → M.step s i = .ok s' → R s s') (holds : I s) (is : List ι) :
    R s (M.run s is) := by
  induction is generalizing s with
  | nil => exact refl s
  | cons i is ih =>
    have next : I (M.exec s i) := M.exec_invariant (fun s s' => preserved s i s') holds
    refine trans ?_ (ih next)
    rcases M.exec_cases s i with taken | skipped
    · exact moves s i _ holds taken
    · rw [skipped]
      exact refl s

end Machine
