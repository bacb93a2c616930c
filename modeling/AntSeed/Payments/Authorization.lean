import AntSeed.Payments.Lifecycle

/-! # A buyer pays only what it signed

Signatures are never consumed: anyone may replay, reorder and relay them for as
long as they like. What keeps the buyer safe is that every charge brings the
channel's `settled` to a cumulative amount the buyer signed for this very
channel, and that `settled` only grows.
-/

namespace AntSeed.Payments

open Evm

def spendingAmounts (signed : List Signature) (buyer : Address) (id : Word) : List Nat :=
  signed.filterMap fun sig =>
    match sig.message with
    | .spendingAuth channelId amount _ =>
      if sig.signer = buyer ∧ channelId = id then some amount else none
    | _ => none

/-- The largest of them; zero when there is none. -/
def largestSpendingAuth (signed : List Signature) (buyer : Address) (id : Word) : Nat :=
  (spendingAmounts signed buyer id).foldr max 0

/-- What a call takes from the Deposits balance of the buyer of the channel it is about. -/
def debit (r : Deployment) (id : Word) (s : State) (call : Call) : Nat :=
  let s' := (machine r).exec s call
  if call.channelId r = some id then
    (s.deposits.buyers (s'.channel id).buyer).balance -
      (s'.deposits.buyers (s'.channel id).buyer).balance
  else 0

/-- What a run takes from the buyer's balance for one channel, call by call. -/
def totalDebited (r : Deployment) (id : Word) (s : State) : List Call → Nat
  | [] => 0
  | call :: calls => debit r id s call + totalDebited r id ((machine r).exec s call) calls

theorem le_foldr_max {amounts : List Nat} {amount : Nat} (member : amount ∈ amounts) :
    amount ≤ amounts.foldr max 0 := by
  induction amounts with
  | nil => cases member
  | cons head tail ih =>
    rw [List.foldr_cons]
    rcases List.mem_cons.mp member with rfl | later
    · exact le_max_left _ _
    · exact le_max_of_le_right (ih later)

theorem le_largestSpendingAuth {signed : List Signature} {buyer : Address} {id hash : Word}
    {amount : Nat} (member : ⟨buyer, .spendingAuth id amount hash⟩ ∈ signed) :
    amount ≤ largestSpendingAuth signed buyer id := by
  have listed : amount ∈ spendingAmounts signed buyer id :=
    List.mem_filterMap.mpr ⟨_, member, by simp⟩
  exact le_foldr_max listed

/-- Every open channel has the buyer's signatures for its deposit and for what it settled. -/
structure Authorized (s : State) : Prop where
  spending : ∀ id, (s.channel id).settled ≠ 0 → ∃ hash,
    ⟨(s.channel id).buyer, .spendingAuth id (s.channel id).settled hash⟩ ∈ s.signed
  ceiling : ∀ id, (s.channel id).status ≠ .none → ∃ deadline,
    ⟨(s.channel id).buyer, .reserveAuth id (s.channel id).deposit deadline⟩ ∈ s.signed

theorem Authorized.moves {s s' : State} {id : Word} {spent : Nat} (auth : Authorized s)
    (sound : s.Sound) (moved : s.Moves s' id spent) : Authorized s' where
  spending x settled := by
    rw [moved.signed]
    by_cases h : x = id
    · subst h
      by_cases charged : spent = 0
      · rw [moved.settled, charged, add_zero] at settled ⊢
        have opened : (s.channel x).status ≠ .none := fun none => settled (sound.unused x none)
        rw [moved.buyer opened]
        exact auth.spending x settled
      · exact moved.spending charged
    · rw [moved.others x h] at settled ⊢
      exact auth.spending x settled
  ceiling x opened := by
    rw [moved.signed]
    by_cases h : x = id
    · subst h
      rcases moved.ceiling with ⟨before, same⟩ | fresh
      · rw [same, moved.buyer before]
        exact auth.ceiling x before
      · exact fresh
    · rw [moved.others x h] at opened ⊢
      exact auth.ceiling x opened

theorem step_authorized {r : Deployment} {s s' : State} {call : Call} (sound : s.Sound)
    (auth : Authorized s) (taken : step r s call = .ok s') : Authorized s' := by
  have effect := ((step_meets sound call).result taken).2
  unfold Effect at effect
  split at effect
  · obtain ⟨spent, moved⟩ := effect
    exact auth.moves sound moved
  · obtain ⟨channels, signed⟩ := effect
    have same : ∀ id, s'.channel id = s.channel id := fun id => congrFun channels id
    constructor
    · intro id settled
      rw [same] at settled ⊢
      obtain ⟨hash, member⟩ := auth.spending id settled
      exact ⟨hash, signed _ member⟩
    · intro id opened
      rw [same] at opened ⊢
      obtain ⟨deadline, member⟩ := auth.ceiling id opened
      exact ⟨deadline, signed _ member⟩

theorem run_authorized (r : Deployment) (now : Nat) (calls : List Call) :
    Authorized (run r now calls) := by
  have both := (machine r).run_invariant (I := fun s => s.Sound ∧ Authorized s)
    (fun _ _ _ inv taken => ⟨step_sound inv.1 taken, step_authorized inv.1 inv.2 taken⟩)
    ⟨run_sound r now [], ⟨fun _ h => absurd rfl h, fun _ h => absurd rfl h⟩⟩ calls
  exact both.2

theorem settled_exec (sound : s.Sound) (id : Word) (call : Call) :
    (((machine r).exec s call).channel id).settled = (s.channel id).settled + debit r id s call := by
  unfold debit
  rcases (machine r).exec_cases s call with taken | skipped
  · have effect := ((step_meets sound call).result taken).2
    unfold Effect at effect
    split at effect
    next x about =>
      obtain ⟨spent, moved⟩ := effect
      rw [about]
      by_cases h : id = x
      · subst h
        have paid := moved.balances (((machine r).exec s call).channel id).buyer
        rw [if_pos rfl] at paid
        rw [moved.settled, if_pos rfl]
        omega
      · rw [moved.others id h, if_neg fun same => h (Option.some.inj same).symm, add_zero]
    next about =>
      rw [about, if_neg (by simp), add_zero, State.channel, effect.1, State.channel]
  · rw [skipped]
    dsimp only
    split <;> omega

theorem settled_run (sound : s.Sound) (id : Word) (calls : List Call) :
    (((machine r).run s calls).channel id).settled =
      (s.channel id).settled + totalDebited r id s calls := by
  induction calls generalizing s with
  | nil => rfl
  | cons call calls ih =>
    have next : ((machine r).exec s call).Sound :=
      (machine r).exec_invariant (fun _ _ h taken => step_sound h taken) sound
    rw [Machine.run_cons, ih next, settled_exec sound, totalDebited, add_assoc]

/-- For every run and every channel: what the buyer was debited for the channel is its
    `settled`, which is at most the largest amount the buyer signed for it; the deposit is
    a ceiling the buyer signed; and no later run lowers `settled`. -/
theorem charges_are_authorized (r : Deployment) (now : Nat) (calls : List Call) (id : Word) :
    totalDebited r id (deployed r now) calls = ((run r now calls).channel id).settled ∧
    ((run r now calls).channel id).settled ≤
      largestSpendingAuth (run r now calls).signed ((run r now calls).channel id).buyer id ∧
    (((run r now calls).channel id).status ≠ .none → ∃ deadline,
      ⟨((run r now calls).channel id).buyer,
        .reserveAuth id ((run r now calls).channel id).deposit deadline⟩ ∈ (run r now calls).signed) ∧
    ∀ later, ((run r now calls).channel id).settled ≤
      ((run r now (calls ++ later)).channel id).settled := by
  have auth := run_authorized r now calls
  refine ⟨?_, ?_, auth.ceiling id, fun later => ?_⟩
  · have total := settled_run (r := r) (run_sound r now []) id calls
    exact ((Nat.zero_add _).symm.trans total.symm)
  · by_cases settled : ((run r now calls).channel id).settled = 0
    · omega
    · obtain ⟨hash, member⟩ := auth.spending id settled
      exact le_largestSpendingAuth member
  · have longer : run r now (calls ++ later) = (machine r).run (run r now calls) later :=
      (machine r).run_append _ _ _
    rw [longer, settled_run (run_sound r now calls) id later]
    exact Nat.le_add_right _ _

end AntSeed.Payments
