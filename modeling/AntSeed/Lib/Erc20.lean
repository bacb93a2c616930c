import AntSeed.Lib.Reverting
import AntSeed.Lib.Mapping

/-! # A standard ERC-20 ledger

Transfers move exactly the amount asked for, minting is the only way new tokens
appear, and the sum of all balances is the supply.
-/

namespace Evm

open Function

structure Erc20 where
  balanceOf : Address → Nat
  allowance : Address → Address → Nat
  totalSupply : Nat

namespace Erc20

variable {ε : Type}

def empty : Erc20 := ⟨fun _ => 0, fun _ _ => 0, 0⟩

/-- Take `amount` from one account and give it to another. -/
def move (t : Erc20) (source target : Address) (amount : Nat) : Erc20 :=
  let debited := update t.balanceOf source (t.balanceOf source - amount)
  { t with balanceOf := update debited target (debited target + amount) }

def transfer (t : Erc20) (sender target : Address) (amount : Nat) : Tx ε Erc20 :=
  if target = 0 then .error (.erc20 .invalidReceiver)
  else if t.balanceOf sender < amount then .error (.erc20 .insufficientBalance)
  else .ok (t.move sender target amount)

def approve (t : Erc20) (owner spender : Address) (amount : Nat) : Erc20 :=
  { t with allowance := update t.allowance owner (update (t.allowance owner) spender amount) }

/-- Spend an allowance; the largest allowance is unlimited and is not reduced. -/
def spendAllowance (t : Erc20) (owner spender : Address) (amount : Nat) : Tx ε Erc20 :=
  if t.allowance owner spender = 2 ^ 256 - 1 then .ok t
  else if t.allowance owner spender < amount then .error (.erc20 .insufficientAllowance)
  else .ok (t.approve owner spender (t.allowance owner spender - amount))

def transferFrom (t : Erc20) (spender owner target : Address) (amount : Nat) : Tx ε Erc20 := do
  let t ← t.spendAllowance owner spender amount
  t.transfer owner target amount

def mint (t : Erc20) (target : Address) (amount : Nat) : Tx ε Erc20 :=
  if target = 0 then .error (.erc20 .invalidReceiver)
  else do
    let supply ← uint 256 (t.totalSupply + amount)
    pure { t with
      totalSupply := supply
      balanceOf := update t.balanceOf target (t.balanceOf target + amount) }

variable {amount : Nat} {owner sender spender target : Address}

variable {allowed : Revert ε → Prop} {t t' : Erc20} {x : Tx ε α}

theorem transfer_eq_ok :
    (t.transfer sender target amount : Tx ε Erc20) = .ok t' ↔
      target ≠ 0 ∧ amount ≤ t.balanceOf sender ∧ t.move sender target amount = t' := by
  unfold transfer
  split
  next h => simp [h]
  next h =>
    split
    next short => simp [h, short]
    next enough => simp [h, Nat.le_of_not_lt enough]

theorem spendAllowance_eq_ok
    (h : (t.spendAllowance owner spender amount : Tx ε Erc20) = .ok t') :
    t'.balanceOf = t.balanceOf ∧ t'.totalSupply = t.totalSupply := by
  unfold spendAllowance at h
  split at h
  · cases h
    exact ⟨rfl, rfl⟩
  · split at h
    · cases h
    · cases h
      exact ⟨rfl, rfl⟩

theorem transferFrom_eq_ok
    (h : (t.transferFrom spender owner target amount : Tx ε Erc20) = .ok t') :
    target ≠ 0 ∧ amount ≤ t.balanceOf owner ∧ t'.balanceOf = (t.move owner target amount).balanceOf ∧
      t'.totalSupply = t.totalSupply := by
  obtain ⟨spent, allowed, moved⟩ := ran h
  obtain ⟨balances, supply⟩ := spendAllowance_eq_ok allowed
  obtain ⟨receiver, enough, rfl⟩ := transfer_eq_ok.mp moved
  refine ⟨receiver, balances ▸ enough, ?_, supply⟩
  simp only [move, balances]

theorem mint_eq_ok (h : (t.mint target amount : Tx ε Erc20) = .ok t') :
    target ≠ 0 ∧ t'.totalSupply = t.totalSupply + amount ∧
      t'.balanceOf = update t.balanceOf target (t.balanceOf target + amount) := by
  unfold mint at h
  split at h
  · cases h
  next receiver =>
    replace h := uint_rest h
    cases h
    exact ⟨receiver, rfl, rfl⟩

theorem transfer_eq_error {r : Revert ε}
    (h : (t.transfer sender target amount : Tx ε Erc20) = .error r) :
    r = .erc20 .invalidReceiver ∨ (r = .erc20 .insufficientBalance ∧ t.balanceOf sender < amount) := by
  unfold transfer at h
  split at h
  · cases h
    exact .inl rfl
  · split at h
    next short =>
      cases h
      exact .inr ⟨rfl, short⟩
    · cases h

theorem transfer_meets (token : ∀ e, allowed (.erc20 e)) :
    Meets (t.transfer sender target amount : Tx ε Erc20) allowed fun _ => True := by
  cases h : (t.transfer sender target amount : Tx ε Erc20) with
  | ok => trivial
  | error =>
    rcases transfer_eq_error h with rfl | ⟨rfl, -⟩
    · exact token _
    · exact token _

theorem transferFrom_meets (token : ∀ e, allowed (.erc20 e)) :
    Meets (t.transferFrom spender owner target amount : Tx ε Erc20) allowed fun _ => True := by
  refine .bind (Q := fun _ => True) ?_ fun _ _ => transfer_meets token
  exact .ite (fun _ => trivial) fun _ => Meets.ite (fun _ => token _) fun _ => trivial

theorem balance_le_move (t : Erc20) (source target account : Address) (amount : Nat) :
    t.balanceOf account ≤ (t.move source target amount).balanceOf account +
      if account = source then amount else 0 := by
  unfold move
  dsimp only
  by_cases received : account = target
  · subst received
    rw [update_self, update_apply]
    split
    next spent =>
      subst spent
      omega
    · omega
  · rw [update_of_ne received, update_apply]
    split
    next spent =>
      subst spent
      omega
    · omega

theorem move_balance {source : Address} (enough : amount ≤ t.balanceOf source)
    (target account : Address) :
    (t.move source target amount).balanceOf account + (if account = source then amount else 0) =
      t.balanceOf account + if account = target then amount else 0 :=
  shift_add enough target account

/-- As long as an account approves nobody it loses nothing. -/
def Keeps (account : Address) (t t' : Erc20) : Prop :=
  (∀ spender, t.allowance account spender = 0) →
    t.balanceOf account ≤ t'.balanceOf account ∧ ∀ spender, t'.allowance account spender = 0

variable {account : Address} {t t' t'' : Erc20}

theorem Keeps.refl (account : Address) (t : Erc20) : Keeps account t t :=
  fun closed => ⟨Nat.le_refl _, closed⟩

theorem Keeps.trans (first : Keeps account t t') (second : Keeps account t' t'') :
    Keeps account t t'' := by
  intro closed
  obtain ⟨before, closed⟩ := first closed
  obtain ⟨after, closed⟩ := second closed
  exact ⟨Nat.le_trans before after, closed⟩

theorem mint_allowance (h : (t.mint target amount : Tx ε Erc20) = .ok t') :
    t'.allowance = t.allowance := by
  unfold mint at h
  split at h
  · cases h
  · obtain ⟨_, -, h⟩ := ran h
    cases h
    rfl

theorem keeps_mint (h : (t.mint target amount : Tx ε Erc20) = .ok t') : Keeps account t t' := by
  intro closed
  obtain ⟨-, -, balances⟩ := mint_eq_ok h
  rw [balances, mint_allowance h, update_apply]
  refine ⟨?_, closed⟩
  split
  next here =>
    subst here
    exact Nat.le_add_right _ _
  · exact Nat.le_refl _

theorem keeps_transfer (other : account ≠ sender)
    (h : (t.transfer sender target amount : Tx ε Erc20) = .ok t') : Keeps account t t' := by
  obtain ⟨-, -, rfl⟩ := transfer_eq_ok.mp h
  have bound := t.balance_le_move sender target account amount
  rw [if_neg other] at bound
  exact fun closed => ⟨bound, closed⟩

theorem approve_allowance (t : Erc20) (other : account ≠ owner) :
    (t.approve owner spender amount).allowance account = t.allowance account :=
  update_of_ne other _ _

theorem keeps_approve (other : account ≠ owner) : Keeps account t (t.approve owner spender amount) := by
  intro closed
  rw [approve_allowance t other]
  exact ⟨Nat.le_refl _, closed⟩

theorem keeps_transferFrom (h : (t.transferFrom spender owner target amount : Tx ε Erc20) = .ok t') :
    Keeps account t t' := by
  obtain ⟨spent, allowed, moved⟩ := ran h
  obtain ⟨-, -, rfl⟩ := transfer_eq_ok.mp moved
  have bound := spent.balance_le_move owner target account amount
  obtain ⟨balances, -⟩ := spendAllowance_eq_ok allowed
  rw [balances] at bound
  intro closed
  unfold spendAllowance at allowed
  by_cases own : account = owner
  · subst own
    rw [closed spender, if_neg (by decide)] at allowed
    split at allowed
    · cases allowed
    next enough =>
      cases allowed
      have zero : amount = 0 := by omega
      subst zero
      refine ⟨by simpa using bound, fun other => ?_⟩
      show (t.approve account spender 0).allowance account other = 0
      unfold approve
      dsimp only
      rw [update_self, update_apply]
      split
      · rfl
      · exact closed other
  · rw [if_neg own] at bound
    refine ⟨bound, fun other => ?_⟩
    split at allowed
    · cases allowed
      exact closed other
    · split at allowed
      · cases allowed
      · cases allowed
        show (t.approve owner spender _).allowance account other = 0
        rw [approve_allowance t own]
        exact closed other

end Erc20

variable {ε α β : Type}

/-- Whatever happens, no token refuses anything. -/
def Tokenless (x : Tx ε α) : Prop := Meets x (fun r => ∀ error, r ≠ .erc20 error) fun _ => True

theorem Tokenless.ok (a : α) : Tokenless (.ok a : Tx ε α) := trivial

theorem Tokenless.bind {x : Tx ε α} {f : α → Tx ε β} (first : Tokenless x)
    (rest : ∀ a, Tokenless (f a)) : Tokenless (x >>= f) :=
  Meets.bind first fun a _ => rest a

theorem Tokenless.ite {c : Prop} [Decidable c] {x y : Tx ε α} (yes : Tokenless x) (no : Tokenless y) :
    Tokenless (if c then x else y) :=
  Meets.ite (fun _ => yes) fun _ => no

theorem tokenless_require (c : Prop) [Decidable c] (error : ε) : Tokenless (require c error) :=
  Meets.ite (fun _ => trivial) fun _ _ => nofun

theorem tokenless_uint (bits n : Nat) : Tokenless (uint bits n : Tx ε Nat) :=
  Meets.ite (fun _ => trivial) fun _ _ => nofun

theorem tokenless_int (bits : Nat) (n : Int) : Tokenless (int bits n : Tx ε Int) :=
  Meets.ite (fun _ => trivial) fun _ => Meets.ite (fun _ _ => nofun) fun _ _ => nofun

theorem tokenless_sub (a b : Nat) : Tokenless (sub a b : Tx ε Nat) :=
  Meets.ite (fun _ => trivial) fun _ _ => nofun

end Evm
