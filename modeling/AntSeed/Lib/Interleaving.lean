import AntSeed.Lib.Machine

/-! # Interleaved lanes

Inputs come in lanes, each in its own order, and between them come inputs of no lane. A run that
gets them in any such order keeps what the next input of a lane keeps and what the others keep.
-/

variable {κ ι σ ε A : Type} [DecidableEq κ]

/-- The inputs are those of some lanes and others. The lanes are given by what is still to come of them,
    before the inputs and after them. -/
inductive Interleaved (foreign : ι → Prop) : (κ → List ι) → List ι → (κ → List ι) → Prop where
  | done (lanes : κ → List ι) : Interleaved foreign lanes [] lanes
  | next {lanes left : κ → List ι} (lane : κ) {i : ι} {rest is : List ι} (first : lanes lane = i :: rest)
      (later : Interleaved foreign (Function.update lanes lane rest) is left) :
      Interleaved foreign lanes (i :: is) left
  | other {lanes left : κ → List ι} {i : ι} {is : List ι} (strange : foreign i)
      (later : Interleaved foreign lanes is left) : Interleaved foreign lanes (i :: is) left

namespace Interleaved

variable {foreign : ι → Prop} {lanes left : κ → List ι} {is : List ι}

theorem append {rest front : List ι} (lane : κ) (same : lanes lane = front ++ rest)
    (later : Interleaved foreign (Function.update lanes lane rest) is left) :
    Interleaved foreign lanes (front ++ is) left := by
  induction front generalizing lanes with
  | nil =>
    rwa [show Function.update lanes lane rest = lanes from by
      rw [show rest = lanes lane from same.symm, Function.update_eq_self]] at later
  | cons i front ih =>
    refine .next lane same (ih (Function.update_self ..) ?_)
    rwa [Function.update_idem]

theorem run_invariant_log (M : Machine σ ι ε) {I : (κ → List ι) → List A → σ → Prop} {report : σ → ι → List A}
    (taken : ∀ lanes l s lane i rest s', lanes lane = i :: rest → I lanes l s → M.step s i = .ok s' →
      I (Function.update lanes lane rest) (l ++ report s i) s')
    (passed : ∀ lanes l s i s', foreign i → I lanes l s → M.step s i = .ok s' → I lanes (l ++ report s i) s')
    (total : ∀ s i, ∃ s', M.step s i = .ok s') {s : σ} {l : List A}
    (interleaved : Interleaved foreign lanes is left) (holds : I lanes l s) :
    I left (l ++ M.log report s is) (M.run s is) := by
  induction interleaved generalizing s l with
  | done => simpa [Machine.log] using holds
  | @next lanes left lane i rest is first later ih =>
    obtain ⟨s', step⟩ := total s i
    have next := ih (taken lanes l s lane i rest s' first holds step)
    rw [Machine.run_cons, M.exec_eq_of_step step]
    simpa [Machine.log, step] using next
  | @other lanes left i is strange later ih =>
    obtain ⟨s', step⟩ := total s i
    have next := ih (passed lanes l s i s' strange holds step)
    rw [Machine.run_cons, M.exec_eq_of_step step]
    simpa [Machine.log, step] using next

end Interleaved
