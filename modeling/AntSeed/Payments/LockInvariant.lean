import AntSeed.Payments.Channels

/-! # The lock invariant

What a buyer has reserved is exactly what its active channels have not settled
yet. The invariant couples the two contracts, so it is stated over the four
parts of the state it reads, and one lemma (`LockInv.replace`) says when a
channel and its buyer's account may change together.

Along the same steps no checked subtraction underflows: the lemmas about calls
are `Meets` statements whose allowed reverts exclude `underflow`.
-/

namespace AntSeed.Payments

open Evm Function

/-- What a channel keeps locked of a buyer's balance. -/
def lockedBy (buyer : Address) (c : Channel) : Nat :=
  if c.status = .active ∧ c.buyer = buyer then c.deposit - c.settled else 0

def openFor (seller : Address) (c : Channel) : Nat :=
  if c.status = .active ∧ c.seller = seller then 1 else 0

structure LockInv (now : Nat) (buyers : Address → BuyerAccount) (channels : Word → Channel)
    (count : Address → Nat) : Prop where
  reserved : ∀ b, (buyers b).reserved = ∑ id, lockedBy b (channels id)
  settled : ∀ id, (channels id).settled ≤ (channels id).deposit
  covered : ∀ b, (buyers b).reserved ≤ (buyers b).balance
  counted : ∀ seller, count seller = ∑ id, openFor seller (channels id)
  past : ∀ b, (buyers b).firstChannelAt ≤ now

/-- The invariant of a whole state. -/
abbrev State.Locked (s : State) : Prop :=
  LockInv s.now s.deposits.buyers s.channels.channels s.channels.activeChannelCount

def NoUnderflow (r : Revert Error) : Prop := r ≠ .underflow

namespace LockInv

variable {now : Nat} {buyers : Address → BuyerAccount} {channels : Word → Channel}
  {count : Address → Nat}

theorem deployed : LockInv now (fun _ => default) (fun _ => default) (fun _ => 0) where
  reserved b := by simp [lockedBy, default]
  settled id := by simp [default]
  covered b := by simp [default]
  counted seller := by simp [openFor, default]
  past b := by simp [default]

section

variable (inv : LockInv now buyers channels count)

include inv

theorem elapse (seconds : Nat) : LockInv (now + seconds) buyers channels count :=
  { inv with past := fun b => Nat.le_add_right_of_le (inv.past b) }

theorem setBuyer
    (sameLock : account.reserved = (buyers b).reserved) (enough : account.reserved ≤ account.balance)
    (past : account.firstChannelAt ≤ now) :
    LockInv now (update buyers b account) channels count where
  reserved x := by
    by_cases h : x = b
    · subst h
      rw [update_self, sameLock, inv.reserved]
    · rw [update_of_ne h, inv.reserved]
  settled := inv.settled
  covered x := by
    by_cases h : x = b
    · subst h
      rwa [update_self]
    · rw [update_of_ne h]
      exact inv.covered x
  counted := inv.counted
  past x := by
    by_cases h : x = b
    · subst h
      rwa [update_self]
    · rw [update_of_ne h]
      exact inv.past x

theorem locked_le (b : Address) (id : Word) : lockedBy b (channels id) ≤ (buyers b).reserved := by
  rw [inv.reserved b]
  exact Finset.single_le_sum (f := fun id => lockedBy b (channels id))
    (fun _ _ => Nat.zero_le _) (Finset.mem_univ id)

theorem open_le (seller : Address) (id : Word) : openFor seller (channels id) ≤ count seller := by
  rw [inv.counted seller]
  exact Finset.single_le_sum (f := fun id => openFor seller (channels id))
    (fun _ _ => Nat.zero_le _) (Finset.mem_univ id)

/-- A channel and the account of its buyer change together: the account's reserve
    moves by what the channel's lock moves, the seller's count by what its activity does. -/
theorem replace {id : Word} {c : Channel} {b : Address} {account : BuyerAccount} {count' : Address → Nat}
    (owned : (channels id).status = .active → (channels id).buyer = b) (buyer : c.buyer = b)
    (lock : account.reserved + lockedBy b (channels id) = (buyers b).reserved + lockedBy b c)
    (settled : c.settled ≤ c.deposit) (enough : account.reserved ≤ account.balance)
    (past : account.firstChannelAt ≤ now)
    (counts : ∀ seller, count' seller + openFor seller (channels id) = count seller + openFor seller c) :
    LockInv now (update buyers b account) (update channels id c) count' where
  reserved x := by
    have moved := sum_update_add (fun _ => lockedBy x) channels c (Finset.mem_univ id)
    have before := inv.reserved x
    by_cases h : x = b
    · subst h
      rw [update_self]
      omega
    · -- another buyer's locks do not involve this channel, before or after
      have free : lockedBy x (channels id) = 0 := by
        unfold lockedBy
        rw [if_neg]
        rintro ⟨active, mine⟩
        exact h (mine ▸ owned active)
      have stillFree : lockedBy x c = 0 := by
        unfold lockedBy
        rw [if_neg]
        rintro ⟨-, mine⟩
        exact h (mine ▸ buyer)
      rw [update_of_ne h]
      omega
  settled x := by
    by_cases h : x = id
    · subst h
      rwa [update_self]
    · rw [update_of_ne h]
      exact inv.settled x
  covered x := by
    by_cases h : x = b
    · subst h
      rwa [update_self]
    · rw [update_of_ne h]
      exact inv.covered x
  counted seller := by
    have moved := sum_update_add (fun _ => openFor seller) channels c (Finset.mem_univ id)
    have before := inv.counted seller
    have after := counts seller
    omega
  past x := by
    by_cases h : x = b
    · subst h
      rwa [update_self]
    · rw [update_of_ne h]
      exact inv.past x

end

end LockInv

namespace Deposits

variable {r : Deployment} {d : Deposits} {now : Nat}

theorem getBuyerCreditLimit_meets (past : (d.buyers buyer).firstChannelAt ≤ now) :
    Meets (d.getBuyerCreditLimit now buyer) NoUnderflow fun _ => True := by
  refine .ite (fun _ => trivial) fun _ => ?_
  refine .bind (Q := fun _ => True) ?_ fun days _ => ?_
  · refine .ite (fun _ => ?_) fun _ => trivial
    exact .of_ok (sub_eq_ok.mpr ⟨past, rfl⟩) trivial
  · apply Meets.uint nofun
    intro _
    apply Meets.uint nofun
    intro _
    apply Meets.uint nofun
    intro _
    exact .uint nofun fun _ => trivial

theorem lockForChannel_meets {buyer : Address} {amount : Nat}
    (covered : (d.buyers buyer).reserved ≤ (d.buyers buyer).balance)
    (past : (d.buyers buyer).firstChannelAt ≤ now) {sender : Address} :
    Meets (d.lockForChannel r now sender buyer amount) NoUnderflow fun d' =>
      sender = r.channels ∧ ∃ account, d'.buyers = update d.buyers buyer account ∧
        account.reserved = (d.buyers buyer).reserved + amount ∧
        account.reserved ≤ account.balance ∧ account.balance = (d.buyers buyer).balance ∧
        account.firstChannelAt ≤ now := by
  apply Meets.require nofun
  intro allowed
  refine .sub covered ?_
  apply Meets.require nofun
  intro available
  apply Meets.uint nofun
  intro _
  refine .pure ⟨allowed, _, rfl, rfl, ?_, rfl, ?_⟩
  · show (d.buyers buyer).reserved + amount ≤ (d.buyers buyer).balance
    omega
  · show (if (d.buyers buyer).firstChannelAt = 0 then now else (d.buyers buyer).firstChannelAt) ≤ now
    split <;> omega

theorem payout_meets :
    Meets (payout r usdc target amount) NoUnderflow fun _ => True := by
  exact .ite (fun _ => Erc20.transfer_meets nofun) fun _ => trivial

theorem recordPair_meets :
    Meets (d.recordPair buyer seller) NoUnderflow fun d' => d'.buyers = d.buyers := by
  cases h : d.recordPair buyer seller with
  | ok => exact recordPair_buyers h
  | error reason =>
    unfold recordPair at h
    split at h
    · cases h
    · have overflow : reason = .overflow := by
        unfold uint at h
        split at h <;> cases h
        rfl
      subst overflow
      exact nofun

theorem chargeAndCreditPayouts_meets
    (locked : amount ≤ (d.buyers buyer).reserved)
    (covered : (d.buyers buyer).reserved ≤ (d.buyers buyer).balance) :
    Meets (d.chargeAndCreditPayouts r usdc now protocolReserve sender buyer seller amount platformFee)
      NoUnderflow fun out => sender = r.channels ∧
        out.1.buyers = update d.buyers buyer { d.buyers buyer with
          balance := (d.buyers buyer).balance - amount
          reserved := (d.buyers buyer).reserved - amount
          lastActivityAt := now } := by
  apply Meets.require nofun
  intro allowed
  apply Meets.require nofun
  intro fee
  refine .sub (Nat.le_trans locked covered) ?_
  refine .sub locked ?_
  refine .sub (by split <;> omega) ?_
  refine .bind recordPair_meets fun d' same => ?_
  refine .bind payout_meets fun _ _ => ?_
  refine .bind payout_meets fun _ _ => ?_
  exact .pure ⟨allowed, same⟩

theorem releaseLock_meets (locked : amount ≤ (d.buyers buyer).reserved) :
    Meets (d.releaseLock r sender buyer amount) NoUnderflow fun d' =>
      sender = r.channels ∧ d'.buyers = update d.buyers buyer
        { d.buyers buyer with reserved := (d.buyers buyer).reserved - amount } := by
  apply Meets.require nofun
  intro allowed
  exact .sub locked (Meets.pure ⟨allowed, rfl⟩)

end Deposits

end AntSeed.Payments
