import AntSeed.Lib.Async
import Mathlib.Data.Fintype.Basic

/-! # Tasks that remember where they paused

A pool in which every waiting task keeps the state it paused in. Whether that
state has been moved since is then a condition on the pool. In a run in which
no task goes on after a move it cannot stand, each task is reasoned about alone.
-/

namespace Async

variable {σ κ ρ ω : Type}

/-- Whose a waiting task is, and the state it paused in. -/
structure Paused (ω σ : Type) where
  owner : ω
  state : σ

/-- Run a task of an owner up to its next await, where it pauses. -/
def Pool.pause (p : Pool σ κ ρ (Paused ω σ)) (owner : ω) (x : Async σ κ ρ Unit) :
    Pool σ κ ρ (Paused ω σ) :=
  p.advance ⟨owner, (x.advance p.state).1⟩ x

/-- Take a waiting task out and run it with its reply. -/
def Pool.wake (p : Pool σ κ ρ (Paused ω σ)) (n : Nat) (reply : ρ) : Pool σ κ ρ (Paused ω σ) :=
  match p.tasks[n]? with
  | none => p
  | some task => Pool.pause { p with tasks := p.tasks.eraseIdx n } task.owner.owner (task.next reply)

/-- The invariant holds, and every task will keep its contract from where it paused. -/
structure Pool.Steady (contract : ω → Contract σ κ ρ) (invariant : σ → Prop)
    (p : Pool σ κ ρ (Paused ω σ)) : Prop where
  holds : invariant p.state
  safe : ∀ task ∈ p.tasks, task.Safe (fun paused => contract paused.owner) task.owner.state

section Steady

variable {contract : ω → Contract σ κ ρ} {invariant : σ → Prop}
  (shared : ∀ owner, (contract owner).invariant = invariant)
  {p : Pool σ κ ρ (Paused ω σ)} {owner : ω}

include shared

theorem Pool.Steady.pause (steady : p.Steady contract invariant)
    (runs : Runs contract owner x p.state p.state) :
    (p.pause owner x).Steady contract invariant ∧
      (contract owner).allows p.state (p.pause owner x).state := by
  obtain ⟨holds, allowed, rest⟩ := runs.advance
  rw [shared] at holds
  unfold Pool.pause Pool.advance
  split
  next s done =>
    rw [done] at holds allowed
    exact ⟨⟨holds, steady.safe⟩, allowed⟩
  next s label next waits =>
    rw [waits] at holds allowed rest
    refine ⟨⟨holds, fun task member => ?_⟩, allowed⟩
    rcases List.mem_append.mp member with old | new
    · exact steady.safe task old
    · rw [List.mem_singleton.mp new, waits]
      exact (rest label next rfl).2

theorem Pool.Steady.goOn (steady : p.Steady contract invariant) (found : p.tasks[n]? = some task)
    (runs : Runs contract task.owner.owner (task.next reply) p.state p.state) :
    (p.wake n reply).Steady contract invariant ∧
      (contract task.owner.owner).allows p.state (p.wake n reply).state := by
  have rest : Pool.Steady contract invariant { p with tasks := p.tasks.eraseIdx n } :=
    ⟨steady.holds, fun other inside => steady.safe other (List.mem_of_mem_eraseIdx inside)⟩
  unfold Pool.wake
  rw [found]
  exact rest.pause shared runs

theorem Pool.Steady.wake (steady : p.Steady contract invariant)
    (found : p.tasks[n]? = some task)
    (stands : (contract task.owner.owner).lasts task.owner.state p.state)
    (resumes : (contract task.owner.owner).resumes task.label reply p.state) :
    (p.wake n reply).Steady contract invariant ∧
      (contract task.owner.owner).allows p.state (p.wake n reply).state :=
  have member : task ∈ p.tasks := List.mem_of_getElem? found
  steady.goOn shared found
    (steady.safe task member p.state reply (by rw [shared]; exact steady.holds) stands resumes)

end Steady

/-- Nothing is left to do but wait. -/
def Idle {α : Type} : Async σ κ ρ α → Prop
  | .ret _ => True
  | .act _ _ => False
  | .await _ next => ∀ reply, (next reply).Idle

instance decidableIdle [Fintype ρ] {α : Type} : ∀ x : Async σ κ ρ α, Decidable x.Idle
  | .ret _ => .isTrue trivial
  | .act _ _ => .isFalse id
  | .await _ next =>
    have (reply : ρ) := decidableIdle (next reply)
    inferInstanceAs (Decidable (∀ reply, (next reply).Idle))

/-! ## Following a view of the state

A task that stands nothing but a change outside some view of the state knows
that view at every point.
-/

variable {τ α β : Type}

/-- A contract for tasks that go on only while a view of the state is as they left it. -/
structure Contract.Follows (C : Contract σ κ ρ) (view : σ → τ) : Prop where
  asks : ∀ label since s, C.asks label since s
  lasts : ∀ {s s'}, C.lasts s s' → view s' = view s
  idle : ∀ s, C.allows s s
  andThen : ∀ {a b c}, C.allows a b → C.allows b c → C.allows a c

/-- From any state with a view, the task keeps its contract; its result goes with the view it leaves. -/
def Tracks (C : Contract σ κ ρ) (view : σ → τ) (k : τ) (x : Async σ κ ρ α) (result : τ → α → Prop) :
    Prop :=
  ∀ since s, C.invariant s → C.allows since s → view s = k →
    x.Keeps C (fun since a s => C.invariant s ∧ C.allows since s ∧ result (view s) a) since s

/-- Any result will do. -/
def anything : τ → α → Prop := fun _ _ => True

variable {C : Contract σ κ ρ} {view : σ → τ} {k k' : τ} {mid : τ → α → Prop} {result result' : τ → β → Prop}

theorem tracks_pure {b : β} (proper : result k b) : Tracks C view k (pure b : Async σ κ ρ β) result :=
  fun _ _ holds allowed same => ⟨holds, allowed, same ▸ proper⟩

theorem Tracks.weaken (tracks : Tracks C view k x result')
    (weaker : ∀ k b, result' k b → result k b) : Tracks C view k x result :=
  fun since s holds allowed same => (tracks since s holds allowed same).mono
    fun _ _ _ done => ⟨done.1, done.2.1, weaker _ _ done.2.2⟩

theorem Tracks.bind {x : Async σ κ ρ α} {f : α → Async σ κ ρ β} (first : Tracks C view k x mid)
    (rest : ∀ k a, mid k a → Tracks C view k (f a) result) : Tracks C view k (x >>= f) result :=
  fun since s holds allowed same => keeps_bind.mpr <| (first since s holds allowed same).mono
    fun since a s done => rest _ a done.2.2 since s done.1 done.2.1 rfl

theorem tracks_get (rest : ∀ s, C.invariant s → view s = k → Tracks C view k (f s) result) :
    Tracks C view k (get >>= f) result :=
  fun since s holds allowed same => rest s holds same since s holds allowed same

theorem tracks_ite {c : Prop} [Decidable c] (yes : c → Tracks C view k x result)
    (no : ¬ c → Tracks C view k y result) : Tracks C view k (if c then x else y) result := by
  split
  next holds => exact yes holds
  next fails => exact no fails

section Follows

variable (follows : C.Follows view)

include follows

theorem tracks_wait_bind
    (rest : ∀ reply s, C.invariant s → C.resumes label reply s → view s = k → Tracks C view k (f reply) result) :
    Tracks C view k (wait label >>= f) result := by
  intro since s holds allowed same
  refine ⟨holds, allowed, follows.asks label since s, fun s' reply holds' lasts resumes => ?_⟩
  have same' : view s' = k := (follows.lasts lasts).trans same
  exact rest reply s' holds' resumes same' s' s' holds' (follows.idle s') same'

theorem tracks_modify (step : ∀ s, C.invariant s → view s = k →
      C.invariant (change s) ∧ C.allows s (change s) ∧ view (change s) = k') :
    Tracks C view k (modify change : Async σ κ ρ Unit) fun left _ => left = k' := by
  intro since s holds allowed same
  obtain ⟨holds', allowed', moved⟩ := step s holds same
  exact ⟨holds', follows.andThen allowed allowed', moved⟩

theorem Tracks.runs {ω : Type} {contract : ω → Contract σ κ ρ} {owner : ω} {x : Async σ κ ρ Unit}
    {result : τ → Unit → Prop} {s : σ} (same : contract owner = C)
    (tracks : Tracks C view (view s) x result) (holds : C.invariant s) :
    Runs contract owner x s s := by
  subst same
  exact (tracks s s holds (follows.idle s) rfl).mono fun _ _ _ done => ⟨done.1, done.2.1⟩

/-- A task that only waits need not know anything. -/
theorem Idle.runs {ω : Type} {contract : ω → Contract σ κ ρ} {owner : ω} {x : Async σ κ ρ Unit} {since s : σ}
    (same : contract owner = C) (idle : x.Idle) (holds : C.invariant s) (allowed : C.allows since s) :
    Runs contract owner x since s := by
  subst same
  induction x generalizing since s with
  | ret => exact ⟨holds, allowed⟩
  | act => exact idle.elim
  | await label next ih =>
    exact ⟨holds, allowed, follows.asks label since s, fun s' reply holds' _ _ =>
      ih reply (idle reply) holds' (follows.idle s')⟩

end Follows

end Async
