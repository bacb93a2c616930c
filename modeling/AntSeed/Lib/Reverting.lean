import Mathlib.Algebra.Group.Int.Defs
import Mathlib.Algebra.Group.Nat.Defs
import Mathlib.Data.Nat.Basic

/-! # Reverting calls

A call of a contract either returns or reverts, and a revert undoes everything
the call did. The model of a call is therefore a value of `Tx`: a result, or
the reason of the revert. Checked arithmetic reverts for its own reasons, kept
apart from the errors a contract declares, so that "this subtraction cannot
underflow" is a statement about which reverts are possible.
-/

namespace Evm

/-- Why a standard ERC-20 token refuses a transfer. -/
inductive Erc20Error where
  | insufficientBalance
  | insufficientAllowance
  | invalidReceiver
  deriving DecidableEq, Repr

/-- Why a standard ERC-721 token refuses a call. -/
inductive Erc721Error where
  | nonexistentToken
  | incorrectOwner
  | insufficientApproval
  | invalidSender
  | invalidReceiver
  | invalidApprover
  | invalidOperator
  deriving DecidableEq, Repr

/-- Why a call reverted. -/
inductive Revert (ε : Type) where
  /-- `revert SomeError()` -/
  | custom (error : ε)
  /-- checked arithmetic left its type at the top -/
  | overflow
  /-- checked arithmetic left its type at zero -/
  | underflow
  | divisionByZero
  /-- an array was read past its end -/
  | outOfBounds
  /-- an argument does not fit its declared type -/
  | calldata
  | erc20 (error : Erc20Error)
  | erc721 (error : Erc721Error)
  /-- a checkpoint was inserted before the newest one -/
  | checkpointUnorderedInsertion
  /-- a contract outside the model reverted and the caller did not catch it -/
  | callee
  deriving DecidableEq, Repr

/-- The outcome of a call. -/
abbrev Tx (ε α : Type) := Except (Revert ε) α

variable {ε α β : Type}

/-- `if (!c) revert error();` -/
def require (c : Prop) [Decidable c] (error : ε) : Tx ε Unit :=
  if c then .ok () else .error (.custom error)

/-- A result of an unsigned type of the given width. -/
def uint (bits n : Nat) : Tx ε Nat :=
  if n < 2 ^ bits then .ok n else .error .overflow

/-- A result of a signed type of the given width. -/
def int (bits : Nat) (n : Int) : Tx ε Int :=
  if -2 ^ (bits - 1) ≤ n ∧ n < 2 ^ (bits - 1) then .ok n
  else if n < 0 then .error .underflow
  else .error .overflow

/-- Checked subtraction of unsigned numbers. -/
def sub (a b : Nat) : Tx ε Nat :=
  if b ≤ a then .ok (a - b) else .error .underflow

/-- Checked division: the quotient rounds down. -/
def div (a b : Nat) : Tx ε Nat :=
  if b = 0 then .error .divisionByZero else .ok (a / b)

/-- Decoding of an unsigned argument of the given width. -/
def decode (bits n : Nat) : Tx ε Unit :=
  if n < 2 ^ bits then .ok () else .error .calldata

/-- A call of a contract outside the model, which may revert. -/
def external (succeeds : Bool) : Tx ε Unit :=
  if succeeds then .ok () else .error .callee

/-- A question to a contract outside the model, which may revert instead of answering. -/
def answer : Option α → Tx ε α
  | some a => .ok a
  | none => .error .callee

/-- `Math.mulDiv`: the product is exact, the quotient rounds down and has to fit. -/
def mulDiv (a b d : Nat) : Tx ε Nat :=
  if d = 0 then .error .divisionByZero else uint 256 (a * b / d)

/-- A call of another contract whose errors bubble up under new names. -/
def bubble {ε' : Type} (rename : ε' → ε) : Tx ε' α → Tx ε α
  | .ok a => .ok a
  | .error (.custom error) => .error (.custom (rename error))
  | .error .overflow => .error .overflow
  | .error .underflow => .error .underflow
  | .error .divisionByZero => .error .divisionByZero
  | .error .outOfBounds => .error .outOfBounds
  | .error .calldata => .error .calldata
  | .error (.erc20 error) => .error (.erc20 error)
  | .error (.erc721 error) => .error (.erc721 error)
  | .error .checkpointUnorderedInsertion => .error .checkpointUnorderedInsertion
  | .error .callee => .error .callee

variable {f : α → Tx ε β} {u : Unit} {a b bits c n : Nat} {x : Option α}

theorem ran {x : Tx ε α} {b : β} (h : (x >>= f) = .ok b) : ∃ a, x = .ok a ∧ f a = .ok b := by
  cases x with
  | ok a => exact ⟨a, rfl, h⟩
  | error => cases h

theorem bind_eq_ok {x : Tx ε α} {b : β} : (x >>= f) = .ok b ↔ ∃ a, x = .ok a ∧ f a = .ok b := by
  constructor
  · exact ran
  · rintro ⟨a, rfl, h⟩
    exact h

theorem rest_ok {x : Tx ε Unit} {f : Unit → Tx ε β} {b : β} (h : (x >>= f) = .ok b) : f () = .ok b := by
  obtain ⟨_, -, h⟩ := ran h
  exact h

theorem returned_of_isOk {x : Tx ε α} (returns : x.isOk = true) : ∃ a, x = .ok a := by
  cases x with
  | ok a => exact ⟨a, rfl⟩
  | error => cases returns

@[simp] theorem error_bind {r : Revert ε} : ((.error r : Tx ε α) >>= f) = .error r := rfl

@[simp] theorem ok_bind {a : α} : ((.ok a : Tx ε α) >>= f) = f a := rfl

@[simp] theorem pure_eq_ok {a b : α} : (pure a : Tx ε α) = .ok b ↔ a = b :=
  Except.ok.injEq a b ▸ Iff.rfl

@[simp] theorem require_eq_ok {c : Prop} [Decidable c] {error : ε} : require c error = .ok u ↔ c := by
  unfold require
  split <;> simp_all

@[simp] theorem uint_eq_ok :
    (uint bits n : Tx ε Nat) = .ok m ↔ n < 2 ^ bits ∧ n = m := by
  unfold uint
  split
  · simp_all
  next h => simp [h]

theorem uint_rest {f : Nat → Tx ε β} {b : β} (h : (uint bits n >>= f) = .ok b) : f n = .ok b := by
  obtain ⟨_, fits, h⟩ := ran h
  obtain ⟨-, rfl⟩ := uint_eq_ok.mp fits
  exact h

theorem uint_fits (fits : n < 2 ^ bits) : (uint bits n : Tx ε Nat) = .ok n :=
  if_pos fits

theorem uint_exceeds (exceeds : ¬ n < 2 ^ bits) : (uint bits n : Tx ε Nat) = .error .overflow :=
  if_neg exceeds

theorem uint_add_steps (a b : Nat) :
    (uint bits b >>= fun y => uint bits (a + y) : Tx ε Nat) = uint bits (a + b) := by
  by_cases fits : b < 2 ^ bits
  · rw [uint_fits fits]
    rfl
  · rw [uint_exceeds fits, uint_exceeds (by omega)]
    rfl

@[simp] theorem int_eq_ok {n m : Int} :
    (int bits n : Tx ε Int) = .ok m ↔ (-2 ^ (bits - 1) ≤ n ∧ n < 2 ^ (bits - 1)) ∧ n = m := by
  unfold int
  split
  next h => simp [h]
  next h => split <;> simp [h]

@[simp] theorem sub_eq_ok : (sub a b : Tx ε Nat) = .ok c ↔ b ≤ a ∧ a - b = c := by
  unfold sub
  split
  · simp_all
  next h => simp [h]

@[simp] theorem div_eq_ok : (div a b : Tx ε Nat) = .ok c ↔ b ≠ 0 ∧ a / b = c := by
  unfold div
  split <;> simp_all

@[simp] theorem decode_eq_ok : (decode bits n : Tx ε Unit) = .ok u ↔ n < 2 ^ bits := by
  unfold decode
  split <;> simp_all

@[simp] theorem answer_eq_ok {a : α} : (answer x : Tx ε α) = .ok a ↔ x = some a := by
  cases x <;> simp [answer]

@[simp] theorem mulDiv_eq_ok {a b d c : Nat} :
    (mulDiv a b d : Tx ε Nat) = .ok c ↔ d ≠ 0 ∧ a * b / d < 2 ^ 256 ∧ a * b / d = c := by
  unfold mulDiv
  split <;> simp_all

@[simp] theorem bubble_eq_ok {ε' : Type} {rename : ε' → ε} {x : Tx ε' α} {a : α} :
    bubble rename x = .ok a ↔ x = .ok a := by
  cases x with
  | ok => simp [bubble]
  | error r => cases r <;> simp [bubble]

/-! ## Outcomes

`Meets x allowed post` says everything about an outcome at once: a result
satisfies `post`, and a revert is one of the `allowed` ones. The rules below
follow the shape of a call, statement by statement.
-/

/-- A result satisfies `post`; a revert has an allowed reason. -/
def Meets (x : Tx ε α) (allowed : Revert ε → Prop) (post : α → Prop) : Prop :=
  match x with
  | .ok a => post a
  | .error r => allowed r

variable {allowed : Revert ε → Prop}

namespace Meets

variable {x : Tx ε α} {f : Unit → Tx ε β} {bits n : Nat}

section

variable {post : α → Prop}

theorem result {a : α} (h : Meets x allowed post) (returned : x = .ok a) : post a := by
  subst returned
  exact h

theorem reason (h : Meets x allowed post) (reverted : x = .error r) : allowed r := by
  subst reverted
  exact h

theorem of_ok {a : α} (returned : x = .ok a) (h : post a) : Meets x allowed post := by
  subst returned
  exact h

theorem pure {a : α} (h : post a) : Meets (pure a) allowed post := h

theorem mono {post post' : α → Prop} (h : Meets x allowed post) (weaker : ∀ a, post a → post' a) :
    Meets x allowed post' := by
  cases x with
  | ok a => exact weaker a h
  | error => exact h

theorem weaken (h : Meets x allowed post)
    (weaker : ∀ r, allowed r → allowed' r) : Meets x allowed' post := by
  cases x with
  | ok => exact h
  | error r => exact weaker r h

theorem strengthen (h : Meets x allowed post)
    (also : ∀ a, x = .ok a → post a → post' a) : Meets x allowed post' := by
  cases x with
  | ok a => exact also a rfl h
  | error => exact h

theorem of_returned (any : ∀ r, allowed r) (h : ∀ a, x = .ok a → post a) : Meets x allowed post := by
  cases x with
  | ok a => exact h a rfl
  | error r => exact any r

end

theorem bubble_ne {ε' : Type} {rename : ε' → ε} {x : Tx ε' α} {post : α → Prop} {error : ε'}
    (h : Meets x (fun r => r ≠ .custom error) post)
    (injective : ∀ other, rename other = rename error → other = error) :
    Meets (Evm.bubble rename x) (fun r => r ≠ .custom (rename error)) post := by
  cases x with
  | ok => exact h
  | error r =>
    cases r with
    | custom other => exact fun same => h (congrArg _ (injective other (Revert.custom.inj same)))
    | _ => exact nofun

theorem bubble_other {ε' : Type} {rename : ε' → ε} {x : Tx ε' α} {error : ε}
    (other : ∀ inner, rename inner ≠ error) :
    Meets (Evm.bubble rename x) (fun r => r ≠ .custom error) fun a => x = .ok a := by
  cases x with
  | ok => exact rfl
  | error r =>
    cases r with
    | custom inner => exact fun same => other inner (Revert.custom.inj same)
    | _ => exact nofun

theorem bind {f : α → Tx ε β} {Q : α → Prop} {post : β → Prop} (first : Meets x allowed Q)
    (rest : ∀ a, Q a → Meets (f a) allowed post) : Meets (x >>= f) allowed post := by
  cases x with
  | ok a => exact rest a first
  | error => exact first

theorem skip {f : α → Tx ε β} {post : β → Prop} (rest : ∀ a, Meets (f a) (fun _ => True) post) :
    Meets (x >>= f) (fun _ => True) post := by
  cases x with
  | ok a => exact rest a
  | error => trivial

theorem require {c : Prop} [Decidable c] {error : ε} {post : β → Prop}
    (refused : allowed (.custom error)) (rest : c → Meets (f ()) allowed post) :
    Meets (Evm.require c error >>= f) allowed post := by
  unfold Evm.require
  split
  next h => exact rest h
  · exact refused

theorem check {c : Prop} [Decidable c] (refused : allowed (.custom error))
    (rest : Meets (f ()) allowed post) : Meets (Evm.require c error >>= f) allowed post :=
  require refused fun _ => rest

theorem uint {f : Nat → Tx ε β} {post : β → Prop} (refused : allowed .overflow)
    (rest : n < 2 ^ bits → Meets (f n) allowed post) :
    Meets (Evm.uint bits n >>= f) allowed post := by
  unfold Evm.uint
  split
  next h => exact rest h
  · exact refused

theorem sub {a b : Nat} {f : Nat → Tx ε β} {post : β → Prop}
    (enough : b ≤ a) (rest : Meets (f (a - b)) allowed post) :
    Meets (Evm.sub a b >>= f) allowed post := by
  unfold Evm.sub
  rw [if_pos enough]
  exact rest

theorem passes {c : Prop} [Decidable c] {error : ε} {post : β → Prop} (held : c)
    (rest : Meets (f ()) allowed post) : Meets (Evm.require c error >>= f) allowed post := by
  unfold Evm.require
  rw [if_pos held]
  exact rest

theorem fits {f : Nat → Tx ε β} {post : β → Prop} (small : n < 2 ^ bits)
    (rest : Meets (f n) allowed post) : Meets (Evm.uint bits n >>= f) allowed post := by
  rw [Evm.uint_fits small]
  exact rest

theorem decode {post : β → Prop} (refused : allowed .calldata)
    (rest : n < 2 ^ bits → Meets (f ()) allowed post) :
    Meets (Evm.decode bits n >>= f) allowed post := by
  unfold Evm.decode
  split
  next h => exact rest h
  · exact refused

theorem external {succeeds : Bool} (refused : allowed .callee)
    (rest : Meets (f ()) allowed post) : Meets (Evm.external succeeds >>= f) allowed post := by
  cases succeeds with
  | true => exact rest
  | false => exact refused

theorem ite {c : Prop} [Decidable c] {x y : Tx ε α} {post : α → Prop}
    (yes : c → Meets x allowed post) (no : ¬ c → Meets y allowed post) :
    Meets (if c then x else y) allowed post := by
  split
  next h => exact yes h
  next h => exact no h

end Meets

theorem sub_meets (refused : allowed .underflow) :
    Meets (sub a b : Tx ε Nat) allowed fun c => b ≤ a ∧ c = a - b := by
  unfold sub
  split
  next enough => exact ⟨enough, rfl⟩
  · exact refused

theorem uint_meets (refused : allowed .overflow) :
    Meets (uint bits n : Tx ε Nat) allowed fun c => n < 2 ^ bits ∧ c = n := by
  unfold uint
  split
  next fits => exact ⟨fits, rfl⟩
  · exact refused

theorem div_meets (refused : allowed .divisionByZero) :
    Meets (div a b : Tx ε Nat) allowed fun c => b ≠ 0 ∧ c = a / b := by
  unfold div
  split
  · exact refused
  next nonzero => exact ⟨nonzero, rfl⟩

theorem mulDiv_meets (refused : allowed .overflow) (zero : allowed .divisionByZero) :
    Meets (mulDiv a b d : Tx ε Nat) allowed fun c => d ≠ 0 ∧ c = a * b / d := by
  unfold mulDiv
  split
  · exact zero
  next nonzero => exact (uint_meets refused).mono fun c isQuotient => ⟨nonzero, isQuotient.2⟩

theorem answer_meets (refused : allowed .callee) :
    Meets (answer x : Tx ε α) allowed fun a => x = some a := by
  cases x with
  | some => exact rfl
  | none => exact refused

end Evm
