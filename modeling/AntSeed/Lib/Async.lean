import AntSeed.Lib.Machine

/-! # Cooperative tasks

A task reads and writes a shared state until it awaits something; only then do
other tasks run, in any order and any number of times. What a task may rely on
when it goes on is therefore an invariant of the state, and whatever no task
ever undoes. In return every stretch between two awaits has to keep the
invariant and to leave alone what is not the task's to change.
-/

/-- A task over a shared state: at an await it says what it waits for, and goes on with the reply. -/
inductive Async (σ κ ρ : Type) (α : Type) where
  | ret (a : α)
  | act (write : σ → σ) (next : σ → Async σ κ ρ α)
  | await (label : κ) (next : ρ → Async σ κ ρ α)

namespace Async

variable {σ κ ρ α β : Type}

protected def bind : Async σ κ ρ α → (α → Async σ κ ρ β) → Async σ κ ρ β
  | .ret a, f => f a
  | .act write next, f => .act write fun s => (next s).bind f
  | .await label next, f => .await label fun r => (next r).bind f

instance : Monad (Async σ κ ρ) where
  pure := .ret
  bind := Async.bind

def get : Async σ κ ρ σ := .act id .ret

/-- Write the shared state. -/
def modify (write : σ → σ) : Async σ κ ρ Unit := .act write fun _ => .ret ()

/-- Wait for a reply. -/
def wait (label : κ) : Async σ κ ρ ρ := .await label .ret

/-- One after the other. -/
def forEach {ι : Type} (f : ι → Async σ κ ρ Unit) : List ι → Async σ κ ρ Unit
  | [] => .ret ()
  | i :: is => (f i).bind fun _ => forEach f is

/-- The state up to the next await, and what is awaited there. -/
def advance : Async σ κ ρ α → σ → σ × Option (κ × (ρ → Async σ κ ρ α))
  | .ret _, s => (s, none)
  | .act write next, s => (next s).advance (write s)
  | .await label next, s => (s, some (label, next))

/-- What tasks keep: an invariant, what no task undoes, and what one stretch of this task may change.
    A stretch that ends in an await has to answer for what it asks; when the await ends, something is
    known of the reply and the state. -/
structure Contract (σ κ ρ : Type) where
  invariant : σ → Prop
  lasts : σ → σ → Prop
  allows : σ → σ → Prop
  asks : κ → σ → σ → Prop
  resumes : κ → ρ → σ → Prop

variable (C : Contract σ κ ρ)

/-- Every stretch of the task, this one begun in `since`, keeps the contract; at its end `post`
    holds. -/
def Keeps (post : σ → α → σ → Prop) : Async σ κ ρ α → σ → σ → Prop
  | .ret a, since, s => post since a s
  | .act write next, since, s => (next s).Keeps post since (write s)
  | .await label next, since, s => C.invariant s ∧ C.allows since s ∧ C.asks label since s ∧
      ∀ s' reply, C.invariant s' → C.lasts s s' → C.resumes label reply s' →
        (next reply).Keeps post s' s'

variable {C} {post post' : σ → α → σ → Prop} {since s : σ}

variable {x : Async σ κ ρ α}

theorem Keeps.mono (keeps : x.Keeps C post since s)
    (weaker : ∀ since a s, post since a s → post' since a s) : x.Keeps C post' since s := by
  induction x generalizing since s with
  | ret => exact weaker _ _ _ keeps
  | act write next ih => exact ih _ keeps
  | await label next ih =>
    obtain ⟨holds, allowed, asked, rest⟩ := keeps
    exact ⟨holds, allowed, asked, fun s' reply holds' lasts resumes =>
      ih reply (rest s' reply holds' lasts resumes)⟩

theorem keeps_bind {f : α → Async σ κ ρ β} {post : σ → β → σ → Prop} :
    (x >>= f).Keeps C post since s ↔
      x.Keeps C (fun since a s => (f a).Keeps C post since s) since s := by
  induction x generalizing since s with
  | ret => rfl
  | act write next ih => exact ih _
  | await label next ih =>
    refine and_congr_right fun _ => and_congr_right fun _ => and_congr_right fun _ => ?_
    exact forall₅_congr fun s' reply _ _ _ => ih reply

@[simp] theorem keeps_get {post : σ → σ → σ → Prop} :
    (get : Async σ κ ρ σ).Keeps C post since s ↔ post since s s := Iff.rfl

@[simp] theorem keeps_modify {write : σ → σ} {post : σ → Unit → σ → Prop} :
    (modify write : Async σ κ ρ Unit).Keeps C post since s ↔ post since () (write s) := Iff.rfl

/-! ## Tasks that forget the state

Most of a task does not depend on the very state it is in, only on what lasts
since some state it knew.
-/

/-- From any state reached from `known`, the task keeps the contract and gives a proper result. -/
def Safe (C : Contract σ κ ρ) (known : σ) (x : Async σ κ ρ α) (result : α → Prop) : Prop :=
  ∀ since s, C.invariant s → C.allows since s → C.lasts known s →
    x.Keeps C (fun since a s => C.invariant s ∧ C.allows since s ∧ C.lasts known s ∧ result a) since s

/-- The two relations of a contract compose. -/
structure Contract.Lawful (C : Contract σ κ ρ) : Prop where
  refl : ∀ s, C.lasts s s
  trans : ∀ {a b c}, C.lasts a b → C.lasts b c → C.lasts a c
  idle : ∀ s, C.allows s s
  andThen : ∀ {a b c}, C.allows a b → C.allows b c → C.allows a c
  within : ∀ {a b}, C.allows a b → C.lasts a b

section Rules

variable (lawful : C.Lawful) {known : σ}

theorem safe_pure {result : α → Prop} {a : α} (proper : result a) :
    Safe C known (pure a : Async σ κ ρ α) result :=
  fun _ _ holds allowed lasts => ⟨holds, allowed, lasts, proper⟩

variable {x : Async σ κ ρ α}

theorem Safe.weaken (safe : Safe C known x result)
    (weaker : ∀ a, result a → result' a) : Safe C known x result' :=
  fun since s holds allowed lasts => (safe since s holds allowed lasts).mono
    fun _ a _ done => ⟨done.1, done.2.1, done.2.2.1, weaker a done.2.2.2⟩

theorem Safe.bind {f : α → Async σ κ ρ β} {mid : α → Prop} {result : β → Prop}
    (first : Safe C known x mid) (rest : ∀ a, mid a → Safe C known (f a) result) :
    Safe C known (x >>= f) result :=
  fun since s holds allowed lasts => keeps_bind.mpr <| (first since s holds allowed lasts).mono
    fun since a s done => rest a done.2.2.2 since s done.1 done.2.1 done.2.2.1

include lawful in
theorem safe_get {f : σ → Async σ κ ρ β} {result : β → Prop}
    (rest : ∀ s, C.invariant s → C.lasts known s → Safe C s (f s) result) :
    Safe C known (get >>= f) result := by
  intro since s holds allowed lasts
  rw [keeps_bind, keeps_get]
  refine (rest s holds lasts since s holds allowed (lawful.refl s)).mono fun _ _ _ done => ?_
  exact ⟨done.1, done.2.1, lawful.trans lasts done.2.2.1, done.2.2.2⟩

include lawful in
theorem safe_modify (proper : result ())
    (step : ∀ s, C.invariant s → C.lasts known s → C.invariant (write s) ∧ C.allows s (write s)) :
    Safe C known (modify write : Async σ κ ρ Unit) result := by
  intro since s holds allowed lasts
  obtain ⟨holds', allowed'⟩ := step s holds lasts
  exact ⟨holds', lawful.andThen allowed allowed', lawful.trans lasts (lawful.within allowed'), proper⟩

include lawful in
theorem safe_modify_bind {write : σ → σ} {f : Unit → Async σ κ ρ β} {result : β → Prop}
    (step : ∀ s, C.invariant s → C.lasts known s → C.invariant (write s) ∧ C.allows s (write s))
    (rest : ∀ s, C.lasts known s → Safe C (write s) (f ()) result) :
    Safe C known (modify write >>= f) result := by
  intro since s holds allowed lasts
  obtain ⟨holds', allowed'⟩ := step s holds lasts
  have later := lawful.trans lasts (lawful.within allowed')
  rw [keeps_bind, keeps_modify]
  refine (rest s lasts since (write s) holds' (lawful.andThen allowed allowed') (lawful.refl _)).mono
    fun _ _ _ done => ?_
  exact ⟨done.1, done.2.1, lawful.trans later done.2.2.1, done.2.2.2⟩

include lawful in
theorem safe_wait
    (asks : ∀ since s, C.invariant s → C.allows since s → C.lasts known s → C.asks label since s) :
    Safe C known (wait label : Async σ κ ρ ρ) fun reply =>
      ∃ s, C.invariant s ∧ C.lasts known s ∧ C.resumes label reply s := by
  intro since s holds allowed lasts
  refine ⟨holds, allowed, asks since s holds allowed lasts, fun s' reply holds' after resumes => ?_⟩
  have later := lawful.trans lasts after
  exact ⟨holds', lawful.idle s', later, s', holds', later, resumes⟩

include lawful in
theorem Safe.here {result : α → Prop} (safe : Safe C s x result) (holds : C.invariant s)
    (lasts : C.lasts known s) :
    x.Keeps C (fun since a s' => C.invariant s' ∧ C.allows since s' ∧ C.lasts known s' ∧ result a) s s :=
  (safe s s holds (lawful.idle s) (lawful.refl s)).mono fun _ _ _ done =>
    ⟨done.1, done.2.1, lawful.trans lasts done.2.2.1, done.2.2.2⟩

theorem safe_ite {c : Prop} [Decidable c]
    (yes : c → Safe C known x result) (no : ¬ c → Safe C known y result) :
    Safe C known (if c then x else y) result := by
  split
  next holds => exact yes holds
  next fails => exact no fails

theorem safe_forEach {ι : Type} {f : ι → Async σ κ ρ Unit} {is : List ι}
    (each : ∀ i ∈ is, Safe C known (f i) fun _ => True) :
    Safe C known (forEach f is) fun _ => True := by
  induction is with
  | nil => exact safe_pure trivial
  | cons i is ih =>
    refine .bind (each i List.mem_cons_self) fun _ _ => ih fun j member => ?_
    exact each j (List.mem_cons_of_mem i member)

end Rules

/-- From this very state, the task keeps the contract and gives a proper result. -/
def SafeAt (C : Contract σ κ ρ) (s : σ) (x : Async σ κ ρ α) (result : α → Prop) : Prop :=
  ∀ since, C.allows since s →
    x.Keeps C (fun since a s' => C.invariant s' ∧ C.allows since s' ∧ C.lasts s s' ∧ result a) since s

section ExactRules

variable (lawful : C.Lawful) {known s : σ} {result : α → Prop}

variable {f : σ → Async σ κ ρ α}

theorem safeAt_get (rest : SafeAt C s (f s) result) : SafeAt C s (get >>= f) result :=
  fun since allowed => rest since allowed

theorem safeAt_ite {c : Prop} [Decidable c] (yes : c → SafeAt C s x result)
    (no : ¬ c → SafeAt C s y result) : SafeAt C s (if c then x else y) result := by
  split
  next holds => exact yes holds
  next fails => exact no fails

theorem SafeAt.bind {x : Async σ κ ρ β} {f : β → Async σ κ ρ α} {mid : β → Prop}
    (first : SafeAt C s x mid) (rest : ∀ a, mid a → Safe C s (f a) result) :
    SafeAt C s (x >>= f) result :=
  fun since allowed => keeps_bind.mpr <| (first since allowed).mono fun since a s' done =>
    rest a done.2.2.2 since s' done.1 done.2.1 done.2.2.1

include lawful

theorem Safe.at {x : Async σ κ ρ α} (safe : Safe C s x result) (holds : C.invariant s) :
    SafeAt C s x result :=
  fun since allowed => safe since s holds allowed (lawful.refl s)

theorem safeAt_modify {f : Unit → Async σ κ ρ α}
    (step : C.invariant (write s) ∧ C.allows s (write s)) (rest : Safe C s (f ()) result) :
    SafeAt C s (modify write >>= f) result := by
  intro since allowed
  have after := lawful.andThen allowed step.2
  exact rest since (write s) step.1 after (lawful.within step.2)

theorem safe_get_at (rest : ∀ s, C.invariant s → C.lasts known s → SafeAt C s (f s) result) :
    Safe C known (get >>= f) result := by
  intro since s holds allowed lasts
  refine (rest s holds lasts since allowed).mono fun _ _ _ done => ?_
  exact ⟨done.1, done.2.1, lawful.trans lasts done.2.2.1, done.2.2.2⟩

theorem safe_wait_at {f : ρ → Async σ κ ρ α}
    (asks : ∀ since s, C.invariant s → C.allows since s → C.lasts known s → C.asks label since s)
    (rest : ∀ s reply, C.invariant s → C.lasts known s → C.resumes label reply s →
      SafeAt C s (f reply) result) : Safe C known (wait label >>= f) result := by
  intro since s holds allowed lasts
  refine ⟨holds, allowed, asks since s holds allowed lasts, fun s' reply holds' after resumes => ?_⟩
  have later := lawful.trans lasts after
  refine (rest s' reply holds' later resumes s' (lawful.idle s')).mono fun _ _ _ done => ?_
  exact ⟨done.1, done.2.1, lawful.trans later done.2.2.1, done.2.2.2⟩

end ExactRules

/-! ## Tasks that learn

What a task gives may hold only of a state that it came through on its way.
-/

/-- From this very state, the task keeps the contract, and gives what is proper in a state that was there since. -/
def LearnsAt (C : Contract σ κ ρ) (s : σ) (x : Async σ κ ρ α) (result : α → σ → Prop) : Prop :=
  ∀ since, C.allows since s → x.Keeps C (fun since a s' => C.invariant s' ∧ C.allows since s' ∧
    ∃ seen, C.lasts s seen ∧ C.lasts seen s' ∧ result a seen) since s

section LearningRules

variable (lawful : C.Lawful) {s : σ} {result : α → σ → Prop} {mid : β → σ → Prop}

theorem learnsAt_get (rest : LearnsAt C s (f s) result) : LearnsAt C s (get >>= f) result :=
  fun since allowed => rest since allowed

variable {f : β → Async σ κ ρ α} {x : Async σ κ ρ β}

theorem LearnsAt.andThen (first : LearnsAt C s x mid)
    (rest : ∀ b seen, C.lasts s seen → mid b seen → Safe C seen (f b) fun a => result a seen) :
    LearnsAt C s (x >>= f) result := by
  intro since allowed
  refine keeps_bind.mpr ((first since allowed).mono fun since b s' learnt => ?_)
  obtain ⟨holds', allowed', seen, before, later, proper⟩ := learnt
  refine (rest b seen before proper since s' holds' allowed' later).mono fun _ _ _ done => ?_
  exact ⟨done.1, done.2.1, seen, before, done.2.2.1, done.2.2.2⟩

include lawful

theorem learnsAt_pure (holds : C.invariant s) (proper : result a s) :
    LearnsAt C s (pure a : Async σ κ ρ α) result :=
  fun _ allowed => ⟨holds, allowed, s, lawful.refl s, lawful.refl s, proper⟩

theorem learnsAt_modify {f : Unit → Async σ κ ρ α} (allowed : C.allows s (write s))
    (rest : LearnsAt C (write s) (f ()) result) : LearnsAt C s (modify write >>= f) result := by
  intro since before
  refine (rest since (lawful.andThen before allowed)).mono fun _ _ _ done => ?_
  obtain ⟨holds', allowed', seen, after, later, proper⟩ := done
  exact ⟨holds', allowed', seen, lawful.trans (lawful.within allowed) after, later, proper⟩

theorem learnsAt_wait {label : κ} {f : ρ → Async σ κ ρ α} (holds : C.invariant s)
    (asks : ∀ since, C.allows since s → C.asks label since s)
    (rest : ∀ s' reply, C.invariant s' → C.lasts s s' → C.resumes label reply s' → LearnsAt C s' (f reply) result) :
    LearnsAt C s (wait label >>= f) result := by
  intro since allowed
  refine ⟨holds, allowed, asks since allowed, fun s' reply holds' after resumes => ?_⟩
  refine (rest s' reply holds' after resumes s' (lawful.idle s')).mono fun _ _ _ done => ?_
  obtain ⟨holds'', allowed'', seen, before, later, proper⟩ := done
  exact ⟨holds'', allowed'', seen, lawful.trans after before, later, proper⟩

theorem LearnsAt.bind {result : α → Prop} (first : LearnsAt C s x mid)
    (rest : ∀ b seen, C.lasts s seen → mid b seen → Safe C seen (f b) result) :
    SafeAt C s (x >>= f) result := by
  intro since allowed
  refine keeps_bind.mpr ((first since allowed).mono fun since b s' learnt => ?_)
  obtain ⟨holds', allowed', seen, before, later, proper⟩ := learnt
  refine (rest b seen before proper since s' holds' allowed' later).mono fun _ _ _ done => ?_
  exact ⟨done.1, done.2.1, lawful.trans before done.2.2.1, done.2.2.2⟩

end LearningRules

/-- A task that waits, and whose it is. -/
structure Task (σ κ ρ ω : Type) where
  owner : ω
  label : κ
  next : ρ → Async σ κ ρ Unit

/-- The shared state and the tasks that wait. -/
structure Pool (σ κ ρ ω : Type) where
  state : σ
  tasks : List (Task σ κ ρ ω)

variable {ω : Type}

/-- Run a task of an owner up to its next await. -/
def Pool.advance (p : Pool σ κ ρ ω) (owner : ω) (x : Async σ κ ρ Unit) : Pool σ κ ρ ω :=
  match x.advance p.state with
  | (s, none) => { p with state := s }
  | (s, some (label, next)) => ⟨s, p.tasks ++ [⟨owner, label, next⟩]⟩

/-- Take a waiting task out and run it with its reply. -/
def Pool.resume (p : Pool σ κ ρ ω) (n : Nat) (reply : ρ) : Pool σ κ ρ ω :=
  match p.tasks[n]? with
  | none => p
  | some task => Pool.advance { p with tasks := p.tasks.eraseIdx n } task.owner (task.next reply)

section Pools

variable (contract : ω → Contract σ κ ρ)

/-- A stretch of a task whose result nobody uses. -/
def Runs (owner : ω) (x : Async σ κ ρ Unit) (since s : σ) : Prop :=
  x.Keeps (contract owner)
    (fun since _ s => (contract owner).invariant s ∧ (contract owner).allows since s) since s

/-- Whenever the task goes on, it keeps its contract. -/
def Task.Safe (task : Task σ κ ρ ω) (s : σ) : Prop :=
  ∀ s' reply, (contract task.owner).invariant s' → (contract task.owner).lasts s s' →
    (contract task.owner).resumes task.label reply s' →
      Runs contract task.owner (task.next reply) s' s'

variable {contract}

theorem Runs.advance {x : Async σ κ ρ Unit} (runs : Runs contract owner x since s) :
    (contract owner).invariant (x.advance s).1 ∧ (contract owner).allows since (x.advance s).1 ∧
      ∀ label next, (x.advance s).2 = some (label, next) →
        (contract owner).asks label since (x.advance s).1 ∧
          Task.Safe contract ⟨owner, label, next⟩ (x.advance s).1 := by
  induction x generalizing s with
  | ret => exact ⟨runs.1, runs.2, nofun⟩
  | act write next ih => exact ih _ runs
  | await =>
    obtain ⟨holds, allowed, asked, rest⟩ := runs
    refine ⟨holds, allowed, fun label' next' same => ?_⟩
    obtain ⟨rfl, rfl⟩ := Prod.mk.inj (Option.some.inj same)
    exact ⟨asked, rest⟩

end Pools

/-- Contracts that share their invariant and what lasts, and differ in what they allow. -/
structure Shared (contract : ω → Contract σ κ ρ) (invariant : σ → Prop) (lasts : σ → σ → Prop) :
    Prop where
  lawful : ∀ owner, (contract owner).Lawful
  invariant : ∀ owner, (contract owner).invariant = invariant
  lasts : ∀ owner, (contract owner).lasts = lasts

/-- The invariant holds and every waiting task will keep its contract. -/
structure Pool.Sound (contract : ω → Contract σ κ ρ) (invariant : σ → Prop) (p : Pool σ κ ρ ω) :
    Prop where
  holds : invariant p.state
  safe : ∀ task ∈ p.tasks, task.Safe contract p.state

variable {contract : ω → Contract σ κ ρ} {invariant : σ → Prop} {lasts : σ → σ → Prop}
  (shared : Shared contract invariant lasts) {p : Pool σ κ ρ ω} {owner : ω}

include shared

variable {task : Task σ κ ρ ω}

theorem Task.Safe.later {s s' : σ} (safe : task.Safe contract s) (after : lasts s s') :
    task.Safe contract s' := by
  intro s'' reply holds later resumes
  refine safe s'' reply holds ((shared.lawful _).trans ?_ later) resumes
  rwa [shared.lasts]

theorem Pool.Sound.write (sound : p.Sound contract invariant) (holds : invariant s)
    (after : lasts p.state s) : Pool.Sound contract invariant { p with state := s } :=
  ⟨holds, fun task member => (sound.safe task member).later shared after⟩

/-- What a stretch does to a pool: the tasks that wait stay, and one more may wait now, which answers
    for what it asks. -/
structure Pool.Stretch (p p' : Pool σ κ ρ ω) (C : Contract σ κ ρ) : Prop where
  allows : C.allows p.state p'.state
  tasks : p'.tasks = p.tasks ∨ ∃ task, p'.tasks = p.tasks ++ [task] ∧ C.asks task.label p.state p'.state

theorem Pool.Sound.advance (sound : p.Sound contract invariant) {x : Async σ κ ρ Unit}
    (runs : Runs contract owner x p.state p.state) :
    (p.advance owner x).Sound contract invariant ∧ p.Stretch (p.advance owner x) (contract owner) := by
  obtain ⟨holds, allowed, rest⟩ := runs.advance
  have after : lasts p.state (x.advance p.state).1 := by
    rw [← shared.lasts owner]
    exact (shared.lawful owner).within allowed
  rw [shared.invariant] at holds
  unfold Pool.advance
  split
  next s done =>
    rw [done] at holds allowed after
    exact ⟨⟨holds, fun task member => (sound.safe task member).later shared after⟩, allowed, .inl rfl⟩
  next s label next waits =>
    rw [waits] at holds allowed after rest
    obtain ⟨asked, safe⟩ := rest label next rfl
    refine ⟨⟨holds, fun task member => ?_⟩, allowed, .inr ⟨_, rfl, asked⟩⟩
    rcases List.mem_append.mp member with old | new
    · exact (sound.safe task old).later shared after
    · rw [List.mem_singleton.mp new]
      exact safe

theorem Pool.Sound.resume (sound : p.Sound contract invariant) {n : Nat} {reply : ρ}
    (found : p.tasks[n]? = some task)
    (resumes : (contract task.owner).resumes task.label reply p.state) :
    (p.resume n reply).Sound contract invariant ∧
      Pool.Stretch { p with tasks := p.tasks.eraseIdx n } (p.resume n reply) (contract task.owner) := by
  have member : task ∈ p.tasks := List.mem_of_getElem? found
  have runs := sound.safe task member p.state reply (by rw [shared.invariant]; exact sound.holds)
    ((shared.lawful _).refl _) resumes
  have rest : Pool.Sound contract invariant { p with tasks := p.tasks.eraseIdx n } :=
    ⟨sound.holds, fun other inside => sound.safe other (List.mem_of_mem_eraseIdx inside)⟩
  unfold Pool.resume
  rw [found]
  exact rest.advance shared runs

end Async
