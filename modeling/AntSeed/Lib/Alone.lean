import AntSeed.Lib.Async

/-! # Tasks one at a time

A task that runs alone goes from one await to the next with whatever replies it
gets, and nobody else moves the state. What holds at its end for all replies is
found by going through its text once.
-/

namespace Async

variable {σ κ ρ α β : Type}

/-- The task has run to its end, with some replies. -/
inductive Ends : Async σ κ ρ α → σ → α → σ → Prop where
  | ret {a s} : Ends (.ret a) s a s
  | act {write next s a s'} : Ends (next s) (write s) a s' → Ends (.act write next) s a s'
  | await {label next s a s'} (reply : ρ) : Ends (next reply) s a s' → Ends (.await label next) s a s'

/-- What holds at the end of the task, whatever the replies. -/
def Alone (post : α → σ → Prop) : Async σ κ ρ α → σ → Prop
  | .ret a, s => post a s
  | .act write next, s => (next s).Alone post (write s)
  | .await _ next, s => ∀ reply, (next reply).Alone post s

variable {x : Async σ κ ρ α}

section Rules

variable {post : α → σ → Prop} {s s' : σ} {a : α}

theorem Alone.ends (alone : x.Alone post s) (ends : x.Ends s a s') : post a s' := by
  induction ends with
  | ret => exact alone
  | act _ ih => exact ih alone
  | await reply _ ih => exact ih (alone reply)

theorem Alone.mono {post' : α → σ → Prop} (alone : x.Alone post s)
    (weaker : ∀ a s, post a s → post' a s) : x.Alone post' s := by
  induction x generalizing s with
  | ret a => exact weaker a s alone
  | act write next ih => exact ih s alone
  | await label next ih => exact fun reply => ih reply (alone reply)

theorem alone_bind {post : β → σ → Prop} {f : α → Async σ κ ρ β} :
    (x >>= f).Alone post s ↔ x.Alone (fun a s => (f a).Alone post s) s := by
  induction x generalizing s with
  | ret => rfl
  | act write next ih => exact ih s
  | await label next ih => exact forall_congr' fun reply => ih reply

@[simp]
theorem alone_pure : (pure a : Async σ κ ρ α).Alone post s ↔ post a s := Iff.rfl

@[simp]
theorem alone_get {post : σ → σ → Prop} : (get : Async σ κ ρ σ).Alone post s ↔ post s s := Iff.rfl

@[simp]
theorem alone_modify {post : Unit → σ → Prop} :
    (modify write : Async σ κ ρ Unit).Alone post s ↔ post () (write s) := Iff.rfl

@[simp]
theorem alone_wait {post : ρ → σ → Prop} :
    (wait label : Async σ κ ρ ρ).Alone post s ↔ ∀ reply, post reply s := Iff.rfl

theorem alone_ite {c : Prop} [Decidable c] {x y : Async σ κ ρ α} (yes : c → x.Alone post s)
    (no : ¬ c → y.Alone post s) : (if c then x else y).Alone post s := by
  split
  next holds => exact yes holds
  next fails => exact no fails

end Rules

/-- The run in which every await is answered in the same way. -/
def runWith (answer : κ → ρ) : Async σ κ ρ α → σ → α × σ
  | .ret a, s => (a, s)
  | .act write next, s => (next s).runWith answer (write s)
  | .await label next, s => (next (answer label)).runWith answer s

theorem ends_runWith {x : Async σ κ ρ α} {s : σ} :
    x.Ends s (x.runWith answer s).1 (x.runWith answer s).2 := by
  induction x generalizing s with
  | ret => exact .ret
  | act write next ih => exact .act (ih s)
  | await label next ih => exact .await (answer label) (ih (answer label))

end Async
