import AntSeed.Payments.LockInvariant

/-! # What the lifecycle calls do

For each call of AntseedChannels one lemma says everything later proofs use: it
keeps the lock invariant, it cannot underflow, and it `Moves` one channel, with
the buyer's signatures for what it moved.
-/

namespace AntSeed.Payments

open Evm Function Deposits
open Meets

namespace State

variable {r : Deployment} {s : State} {ext : External}

@[simp] theorem setChannel_channels (s : State) (id : Word) (c : Channel) :
    (s.setChannel id c).channels.channels = update s.channels.channels id c := rfl

@[simp] theorem setChannel_channel (s : State) (id : Word) (c : Channel) :
    (s.setChannel id c).channel id = c := by simp [channel]

/-- From `s` to `s'` one channel changed and its buyer paid `spent` for it. -/
structure Moves (s s' : State) (id : Word) (spent : Nat) : Prop where
  signed : s'.signed = s.signed
  others : ∀ x, x ≠ id → s'.channel x = s.channel x
  opened : (s'.channel id).status ≠ .none
  buyer : (s.channel id).status ≠ .none → (s'.channel id).buyer = (s.channel id).buyer
  balances : ∀ b, (s'.deposits.buyers b).balance + (if b = (s'.channel id).buyer then spent else 0) =
    (s.deposits.buyers b).balance
  settled : (s'.channel id).settled = (s.channel id).settled + spent
  /-- what was charged reaches a cumulative amount the buyer signed -/
  spending : spent ≠ 0 → ∃ hash,
    ⟨(s'.channel id).buyer, .spendingAuth id (s'.channel id).settled hash⟩ ∈ s.signed
  /-- a new ceiling is one the buyer signed -/
  ceiling : ((s.channel id).status ≠ .none ∧ (s'.channel id).deposit = (s.channel id).deposit) ∨
    ∃ deadline, ⟨(s'.channel id).buyer, .reserveAuth id (s'.channel id).deposit deadline⟩ ∈ s.signed

variable {id : Word} {amount : Nat} {metadata : List UInt8} {sig : Signature} {sender : Address}

theorem Moves.andThen {s s' s'' : State} {spent : Nat} (first : s.Moves s' id spent)
    (next : s'.Moves s'' id 0) : s.Moves s'' id spent := by
  have sameBuyer := next.buyer first.opened
  refine ⟨next.signed.trans first.signed, fun x h => ?_, next.opened, fun h => ?_, fun b => ?_,
    ?_, fun h => ?_, ?_⟩
  · exact (next.others x h).trans (first.others x h)
  · exact sameBuyer.trans (first.buyer h)
  · have unchanged := next.balances b
    rw [ite_self, add_zero] at unchanged
    rw [sameBuyer, unchanged, first.balances b]
  · rw [next.settled, first.settled, add_zero]
  · rw [sameBuyer, next.settled, add_zero]
    exact first.spending h
  · rcases next.ceiling with ⟨-, same⟩ | fresh
    · rw [same, sameBuyer]
      exact first.ceiling
    · rw [first.signed] at fresh
      exact .inr fresh

theorem Moves.refl (opened : (s.channel id).status ≠ .none) : s.Moves s id 0 :=
  ⟨rfl, fun _ _ => rfl, opened, fun _ => rfl, by simp, rfl, fun h => absurd rfl h, .inl ⟨opened, rfl⟩⟩

theorem moves_of_update {s' : State} {c : Channel} {account : BuyerAccount} {spent : Nat}
    (signed : s'.signed = s.signed)
    (channels : s'.channels.channels = update s.channels.channels id c)
    (buyers : s'.deposits.buyers = update s.deposits.buyers c.buyer account)
    (buyer : (s.channel id).status ≠ .none → c.buyer = (s.channel id).buyer)
    (status : c.status ≠ .none)
    (paid : account.balance + spent = (s.deposits.buyers c.buyer).balance)
    (settled : c.settled = (s.channel id).settled + spent)
    (spending : spent ≠ 0 → ∃ hash, ⟨c.buyer, .spendingAuth id c.settled hash⟩ ∈ s.signed)
    (ceiling : ((s.channel id).status ≠ .none ∧ c.deposit = (s.channel id).deposit) ∨
      ∃ deadline, ⟨c.buyer, .reserveAuth id c.deposit deadline⟩ ∈ s.signed) :
    s.Moves s' id spent := by
  have written : s'.channel id = c := by rw [channel, channels, update_self]
  refine ⟨signed, fun x h => ?_, ?_, ?_, fun b => ?_, ?_, ?_, ?_⟩
  · simp only [channel, channels, update_of_ne h]
  · rwa [written]
  · rwa [written]
  · rw [written, buyers]
    by_cases h : b = c.buyer
    · subst h
      rw [update_self, if_pos rfl, paid]
    · rw [update_of_ne h, if_neg h, add_zero]
  · rw [written, settled]
  · rwa [written]
  · rwa [written]

/-- The statistics of agents are outside of everything the invariant reads. -/
def SameButStats (s s' : State) : Prop := ∃ stats, s' = { s with
  channels := { s.channels with agentStats := stats } }

theorem recordVolume_meets :
    Meets (s.recordVolume ext delta) NoUnderflow s.SameButStats := by
  refine .ite (fun _ => pure ⟨_, rfl⟩) fun _ => ?_
  exact .uint nofun fun _ => pure ⟨_, rfl⟩

theorem recordFinish_meets :
    Meets (s.recordFinish ext ghost) NoUnderflow s.SameButStats := by
  refine .ite (fun _ => pure ⟨_, rfl⟩) fun _ => ?_
  refine .ite (fun _ => ?_) fun _ => ?_
  · exact .uint nofun fun _ => pure ⟨_, rfl⟩
  · exact .uint nofun fun _ => pure ⟨_, rfl⟩

section

variable (inv : s.Locked)

include inv

/-- A settlement up to `amount` moves the same delta out of the channel's lock and of
    the buyer's account. -/
theorem settleSpend_meets (active : (s.channel id).status = .active)
    (above : (s.channel id).settled < amount) (within : amount ≤ (s.channel id).deposit) :
    Meets (s.settleSpend r ext id amount metadata sig) NoUnderflow fun s' =>
      s'.Locked ∧ s.Moves s' id (amount - (s.channel id).settled) ∧
        (s'.channel id).status = .active ∧ (s'.channel id).deposit = (s.channel id).deposit := by
  apply Meets.require nofun
  intro authorized
  refine .sub (Nat.le_of_lt above) ?_
  refine .ite (fun none => by omega) fun _ => ?_
  apply Meets.uint nofun
  intro _
  refine .bind recordVolume_meets fun s' recorded => ?_
  obtain ⟨stats, rfl⟩ := recorded
  refine .external nofun ?_
  have lock : lockedBy (s.channel id).buyer (s.channel id) =
      (s.channel id).deposit - (s.channel id).settled := by simp [lockedBy, active]
  have locked := inv.locked_le (s.channel id).buyer id
  change lockedBy _ (s.channel id) ≤ _ at locked
  have covered := inv.covered (s.channel id).buyer
  refine .bind (chargeAndCreditPayouts_meets (by dsimp only [setChannel]; omega) covered) ?_
  rintro ⟨deposits, usdc⟩ ⟨-, charged⟩
  refine .pure ⟨?_, ?_, ?_, ?_⟩
  · show LockInv _ deposits.buyers _ _
    rw [charged]
    refine inv.replace (fun _ => rfl) rfl ?_ within ?_ (inv.past _) fun seller => rfl
    · have lock' : ∀ hash at', lockedBy (s.channel id).buyer { s.channel id with
          settled := amount, metadataHash := hash, settledAt := at' } =
          (s.channel id).deposit - amount := by simp [lockedBy, active]
      dsimp only [setChannel]
      rw [lock']
      change _ + lockedBy _ (s.channel id) = _
      omega
    · dsimp only [setChannel]
      omega
  · refine moves_of_update rfl rfl charged (fun _ => rfl) (by simp [active]) ?_ ?_ ?_ ?_
    · dsimp only [setChannel]
      omega
    · dsimp only
      omega
    · intro _
      exact ⟨r.keccak256 metadata, signed_of_verified authorized⟩
    · exact .inl ⟨by simp [active], rfl⟩
  · simpa [channel, setChannel] using active
  · simp [channel, setChannel]

theorem finish_meets
    (active : (s.channel id).status = .active) (ended : status ≠ .active) (some' : status ≠ .none)
    (rest : remaining = (s.channel id).deposit - (s.channel id).settled) :
    Meets (s.finish r ext id status ghost remaining) NoUnderflow fun s' =>
      s'.Locked ∧ s.Moves s' id 0 := by
  have locked := inv.locked_le (s.channel id).buyer id
  have counted := inv.open_le (s.channel id).seller id
  change lockedBy _ (s.channel id) ≤ _ at locked
  change openFor _ (s.channel id) ≤ _ at counted
  have lock : lockedBy (s.channel id).buyer (s.channel id) = remaining := by
    simp [lockedBy, active, rest]
  have isOpen : openFor (s.channel id).seller (s.channel id) = 1 := by simp [openFor, active]
  rw [isOpen] at counted
  have unlocked : lockedBy (s.channel id).buyer { s.channel id with status := status } = 0 := by
    simp [lockedBy, ended]
  have covered := inv.covered (s.channel id).buyer
  have counts : ∀ seller, update s.channels.activeChannelCount (s.channel id).seller
      (s.channels.activeChannelCount (s.channel id).seller - 1) seller + openFor seller (s.channel id) =
      s.channels.activeChannelCount seller + openFor seller { s.channel id with status := status } := by
    intro seller
    by_cases h : seller = (s.channel id).seller
    · subst h
      rw [update_self, isOpen]
      simp [openFor, ended]
      omega
    · rw [update_of_ne h]
      simp [openFor, ended, Ne.symm h]
  -- releasing nothing is the case of an account written back unchanged
  have after : ∀ (s' : State) (account : BuyerAccount), s'.now = s.now → s'.signed = s.signed →
      s'.channels.channels = update s.channels.channels id { s.channel id with status := status } →
      s'.channels.activeChannelCount = update s.channels.activeChannelCount (s.channel id).seller
        (s.channels.activeChannelCount (s.channel id).seller - 1) →
      s'.deposits.buyers = update s.deposits.buyers (s.channel id).buyer account →
      account.reserved + remaining = (s.deposits.buyers (s.channel id).buyer).reserved →
      account.balance = (s.deposits.buyers (s.channel id).buyer).balance →
      account.firstChannelAt ≤ s.now → s'.Locked ∧ s.Moves s' id 0 := by
    intro s' account now signed channels count buyers released balance past
    constructor
    · unfold Locked
      rw [now, channels, count, buyers]
      refine inv.replace (fun _ => rfl) rfl ?_ (inv.settled id) (by omega) past counts
      rw [unlocked]
      change _ + lockedBy _ (s.channel id) = _
      omega
    · exact moves_of_update signed channels buyers (fun _ => rfl) some' balance rfl
        (fun h => absurd rfl h) (.inl ⟨by simp [active], rfl⟩)
  refine .sub counted ?_
  refine .bind recordFinish_meets fun s' recorded => ?_
  obtain ⟨stats, rfl⟩ := recorded
  refine .ite (fun _ => ?_) fun nothing => ?_
  · refine .bind (releaseLock_meets (by
      show remaining ≤ (s.deposits.buyers _).reserved
      omega)) fun deposits released => ?_
    refine .pure (after _ _ rfl rfl rfl rfl released.2 ?_ rfl (inv.past _))
    show (s.deposits.buyers _).reserved - remaining + remaining = _
    omega
  · refine .pure (after _ (s.deposits.buyers (s.channel id).buyer) rfl rfl rfl rfl ?_ ?_ rfl
      (inv.past _))
    · exact (Function.update_eq_self _ _).symm
    · omega

theorem reserve_meets {sender buyer : Address} {salt : Word}
    {maxAmount deadline : Nat} (unused : ∀ id, (s.channel id).status = .none →
      (s.channel id).settled = 0) :
    Meets (s.reserve r ext sender buyer salt maxAmount deadline sig) NoUnderflow fun s' =>
      s'.Locked ∧ s.Moves s' (r.computeChannelId buyer sender salt) 0 := by
  apply Meets.decode nofun
  intro _
  apply Meets.check nofun
  apply Meets.check nofun
  apply Meets.check nofun
  apply Meets.check nofun
  apply Meets.require nofun
  intro fresh
  apply Meets.check nofun
  apply Meets.require nofun
  intro authorized
  apply Meets.uint nofun
  intro _
  refine .bind (lockForChannel_meets (inv.covered _) (inv.past _)) ?_
  rintro deposits ⟨-, account, locked, reserved, enough, balance, past⟩
  refine .pure ⟨?_, ?_⟩
  · show LockInv _ deposits.buyers _ _
    rw [locked]
    refine inv.replace (fun active => ?_) rfl ?_ (Nat.zero_le _) enough past fun seller => ?_
    · change (s.channel _).status = .active at active
      rw [fresh] at active
      cases active
    · change _ + lockedBy _ (s.channel _) = _
      simpa [lockedBy, fresh] using reserved
    · change update s.channels.activeChannelCount _ (s.channels.activeChannelCount _ + 1) _ +
        openFor _ (s.channel _) = _
      by_cases h : seller = sender
      · subst h
        simp [openFor, fresh]
      · rw [update_of_ne h]
        simp [openFor, fresh, Ne.symm h]
  · refine moves_of_update rfl rfl locked (fun h => absurd fresh h) (by rintro ⟨⟩) balance ?_
      (fun h => absurd rfl h) (.inr ⟨deadline, signed_of_verified authorized⟩)
    exact (unused _ fresh).symm

theorem topUp_meets {spendingSig : Signature} {newMaxAmount deadline : Nat} {reserveSig : Signature} :
    Meets (s.topUp r ext sender id amount metadata spendingSig newMaxAmount deadline reserveSig)
      NoUnderflow fun s' => s'.Locked ∧ ∃ spent, s.Moves s' id spent := by
  apply Meets.decode nofun
  intro _
  apply Meets.decode nofun
  intro _
  apply Meets.check nofun
  apply Meets.require nofun
  intro active
  apply Meets.check nofun
  apply Meets.check nofun
  apply Meets.check nofun
  apply Meets.require nofun
  intro higher
  have existed : (s.channel id).status ≠ .none := by simp [active]
  refine .bind (Q := fun s' => s'.Locked ∧ (∃ spent, s.Moves s' id spent) ∧
    (s'.channel id).status = .active ∧ (s'.channel id).deposit = (s.channel id).deposit) ?_ ?_
  · refine .ite (fun above => ?_) fun _ => Meets.pure ⟨inv, ⟨0, .refl existed⟩, active, rfl⟩
    apply Meets.require nofun
    intro within
    exact (settleSpend_meets inv active above within).mono fun s' ⟨l, m, a, d⟩ => ⟨l, ⟨_, m⟩, a, d⟩
  · rintro s' ⟨inv', ⟨spent, moved⟩, active', sameDeposit⟩
    apply Meets.uint nofun
    intro _
    apply Meets.check nofun
    apply Meets.require nofun
    intro authorized
    refine .sub (by omega) ?_
    refine .bind (lockForChannel_meets (inv'.covered _) (inv'.past _)) ?_
    rintro deposits ⟨-, account, locked, reserved, enough, balance, past⟩
    refine .pure ⟨?_, spent, moved.andThen ?_⟩
    · show LockInv _ deposits.buyers _ _
      rw [locked]
      have settled := inv'.settled id
      change (s'.channel id).settled ≤ (s'.channel id).deposit at settled
      refine inv'.replace (fun _ => rfl) rfl ?_ (by dsimp only; omega) enough past fun _ => rfl
      change _ + lockedBy _ (s'.channel id) = _
      simp only [lockedBy, active', true_and, if_true]
      omega
    · exact moves_of_update rfl rfl locked (fun _ => rfl) (by simp [active']) balance rfl
        (fun h => absurd rfl h) (.inr ⟨deadline, signed_of_verified authorized⟩)

theorem settle_meets : Meets (s.settle r ext sender id amount metadata sig) NoUnderflow fun s' =>
      s'.Locked ∧ ∃ spent, s.Moves s' id spent := by
  apply Meets.decode nofun
  intro _
  apply Meets.check nofun
  apply Meets.require nofun
  intro active
  apply Meets.check nofun
  apply Meets.require nofun
  intro above
  apply Meets.require nofun
  intro within
  exact (settleSpend_meets inv active above within).mono fun s' h => ⟨h.1, _, h.2.1⟩

theorem close_meets : Meets (s.close r ext sender id amount metadata sig) NoUnderflow fun s' =>
      s'.Locked ∧ ∃ spent, s.Moves s' id spent := by
  apply Meets.decode nofun
  intro _
  apply Meets.check nofun
  apply Meets.require nofun
  intro active
  apply Meets.check nofun
  apply Meets.check nofun
  apply Meets.require nofun
  intro within
  have existed : (s.channel id).status ≠ .none := by simp [active]
  refine .bind (Q := fun s' => s'.Locked ∧ (∃ spent, s.Moves s' id spent) ∧
    (s'.channel id).status = .active) ?_ ?_
  · refine .ite (fun above => ?_) fun _ => Meets.pure ⟨inv, ⟨0, .refl existed⟩, active⟩
    exact (settleSpend_meets inv active above within).mono fun s' ⟨l, m, a, _⟩ => ⟨l, ⟨_, m⟩, a⟩
  · rintro s' ⟨inv', ⟨spent, moved⟩, active'⟩
    refine .sub (inv'.settled id) ?_
    exact (finish_meets inv' active' (by decide) (by decide) rfl).mono fun s'' ⟨l, m⟩ =>
      ⟨l, spent, moved.andThen m⟩

theorem requestClose_meets :
    Meets (s.requestClose sender id) NoUnderflow fun s' => s'.Locked ∧ s.Moves s' id 0 := by
  apply Meets.require nofun
  intro active
  apply Meets.check nofun
  apply Meets.check nofun
  apply Meets.uint nofun
  intro _
  have same : s.deposits.buyers = update s.deposits.buyers (s.channel id).buyer
    (s.deposits.buyers (s.channel id).buyer) := (Function.update_eq_self _ _).symm
  refine .pure ⟨?_, ?_⟩
  · show LockInv s.now s.deposits.buyers _ _
    rw [same]
    exact inv.replace (fun _ => rfl) rfl rfl (inv.settled id) (inv.covered _) (inv.past _) fun _ => rfl
  · exact moves_of_update rfl rfl same (fun _ => rfl) (by simp [active]) rfl rfl
      (fun h => absurd rfl h) (.inl ⟨by simp [active], rfl⟩)

theorem withdraw_meets :
    Meets (s.withdraw r ext sender id) NoUnderflow fun s' => s'.Locked ∧ s.Moves s' id 0 := by
  apply Meets.require nofun
  intro active
  apply Meets.check nofun
  apply Meets.check nofun
  apply Meets.uint nofun
  intro _
  apply Meets.check nofun
  refine .sub (inv.settled id) ?_
  exact finish_meets inv active (by decide) (by decide) rfl

end

end State

/-- What every reachable state satisfies: the lock invariant, and channels that were
    never opened hold nothing. -/
structure State.Sound (s : State) : Prop where
  locked : s.Locked
  unused : ∀ id, (s.channel id).status = .none → (s.channel id).settled = 0

theorem State.Moves.unused {s s' : State} {id : Word} {spent : Nat} (moved : s.Moves s' id spent)
    (before : ∀ x, (s.channel x).status = .none → (s.channel x).settled = 0) :
    ∀ x, (s'.channel x).status = .none → (s'.channel x).settled = 0 := by
  intro x none
  by_cases h : x = id
  · subst h
    exact absurd none moved.opened
  · rw [moved.others x h] at none ⊢
    exact before x none

/-- The channel a lifecycle call is about. -/
def Call.channelId (r : Deployment) (call : Call) : Option Word :=
  match call.op with
  | .reserve buyer salt _ _ _ => some (r.computeChannelId buyer call.sender salt)
  | .topUp channelId .. | .settle channelId .. | .close channelId .. | .requestClose channelId
  | .withdraw channelId => some channelId
  | _ => none

/-- What one call does: a lifecycle call moves its channel, every other call leaves
    all channels alone. -/
def Effect (r : Deployment) (s : State) (call : Call) (s' : State) : Prop :=
  match call.channelId r with
  | some id => ∃ spent, s.Moves s' id spent
  | none => s'.channels.channels = s.channels.channels ∧ ∀ sig ∈ s.signed, sig ∈ s'.signed

theorem step_meets (sound : s.Sound) (call : Call) :
    Meets (step r s call) NoUnderflow fun s' => s'.Locked ∧ Effect r s call s' := by
  have inv := sound.locked
  obtain ⟨sender, ext, op⟩ := call
  apply Meets.require nofun
  intro outside
  cases op with
  | deposit buyer =>
    refine .bind (Q := fun out => ∃ account, out.1.buyers = update s.deposits.buyers buyer account ∧
      account.reserved = (s.deposits.buyers buyer).reserved ∧
      (s.deposits.buyers buyer).balance ≤ account.balance ∧
      account.firstChannelAt = (s.deposits.buyers buyer).firstChannelAt) ?_ ?_
    · apply Meets.check nofun
      apply Meets.check nofun
      apply Meets.uint nofun
      intro _
      refine .bind (getBuyerCreditLimit_meets (inv.past buyer)) fun _ _ => ?_
      apply Meets.check nofun
      refine .bind (Erc20.transferFrom_meets nofun) fun _ _ => ?_
      exact .pure ⟨_, rfl, rfl, Nat.le_add_right _ _, rfl⟩
    · rintro ⟨deposits, usdc⟩ ⟨account, buyers, reserved, balance, first⟩
      refine .pure ⟨?_, rfl, fun _ h => h⟩
      show LockInv _ deposits.buyers _ _
      have covered := inv.covered buyer
      rw [buyers]
      exact inv.setBuyer reserved (by omega) (first ▸ inv.past buyer)
  | depositsWithdraw buyer =>
    refine .bind (Q := fun out => ∃ account, out.1.buyers = update s.deposits.buyers buyer account ∧
      account.reserved = (s.deposits.buyers buyer).reserved ∧
      account.reserved ≤ account.balance ∧
      account.firstChannelAt = (s.deposits.buyers buyer).firstChannelAt) ?_ ?_
    · apply Meets.check nofun
      apply Meets.check nofun
      refine .sub (inv.covered buyer) ?_
      apply Meets.require nofun
      intro available
      refine .sub (by omega) ?_
      refine .bind (Erc20.transfer_meets nofun) fun _ _ => ?_
      have covered := inv.covered buyer
      exact .pure ⟨_, rfl, rfl, by dsimp only; omega, rfl⟩
    · rintro ⟨deposits, usdc⟩ ⟨account, buyers, reserved, balance, first⟩
      refine .pure ⟨?_, rfl, fun _ h => h⟩
      show LockInv _ deposits.buyers _ _
      rw [buyers]
      exact inv.setBuyer reserved balance (first ▸ inv.past buyer)
  | lockForChannel =>
    refine .bind (lockForChannel_meets (inv.covered _) (inv.past _)) ?_
    rintro deposits ⟨privileged, -⟩
    exact absurd privileged outside.2.1
  | chargeAndCreditPayouts | releaseLock =>
    refine .bind (Q := fun _ => sender = r.channels) ?_ fun _ privileged =>
      absurd privileged outside.2.1
    exact .require nofun fun privileged => absurd privileged outside.2.1
  | setOperator buyer operator =>
    refine .bind (Q := fun d => d.buyers = update s.deposits.buyers buyer
      { s.deposits.buyers buyer with
        operator := operator, operatorNonce := (s.deposits.buyers buyer).operatorNonce + 1 }) ?_ ?_
    · apply Meets.check nofun
      apply Meets.check nofun
      apply Meets.check nofun
      apply Meets.check nofun
      exact .uint nofun fun _ => rfl
    · intro deposits buyers
      refine .pure ⟨?_, rfl, fun _ h => h⟩
      show LockInv _ deposits.buyers _ _
      rw [buyers]
      exact inv.setBuyer rfl (inv.covered buyer) (inv.past buyer)
  | transferOperator buyer newOperator =>
    refine .bind (Q := fun d => d.buyers = update s.deposits.buyers buyer
      { s.deposits.buyers buyer with operator := newOperator }) ?_ ?_
    · exact .require nofun fun _ => rfl
    · intro deposits buyers
      refine .pure ⟨?_, rfl, fun _ h => h⟩
      show LockInv _ deposits.buyers _ _
      rw [buyers]
      exact inv.setBuyer rfl (inv.covered buyer) (inv.past buyer)
  | reserve =>
    exact (State.reserve_meets inv sound.unused).mono fun s' ⟨l, m⟩ => ⟨l, 0, m⟩
  | topUp => exact State.topUp_meets inv
  | settle => exact State.settle_meets inv
  | close => exact State.close_meets inv
  | requestClose => exact (State.requestClose_meets inv).mono fun s' ⟨l, m⟩ => ⟨l, 0, m⟩
  | withdraw => exact (State.withdraw_meets inv).mono fun s' ⟨l, m⟩ => ⟨l, 0, m⟩
  | depositsSetting setting =>
    refine .bind (Q := fun d => d.buyers = s.deposits.buyers) ?_ ?_
    · apply Meets.check nofun
      cases setting <;> exact rfl
    · intro deposits buyers
      refine .pure ⟨?_, rfl, fun _ h => h⟩
      show LockInv _ deposits.buyers _ _
      rwa [buyers]
  | channelsSetting setting =>
    apply Meets.check nofun
    cases setting with
    | firstSignCap => exact .pure ⟨inv, rfl, fun _ h => h⟩
    | platformFeeBps =>
      exact .require nofun fun _ => Meets.pure ⟨inv, rfl, fun _ h => h⟩
    | topUpSettledThresholdBps =>
      exact .require nofun fun _ => Meets.pure ⟨inv, rfl, fun _ h => h⟩
    | pause => exact .require nofun fun _ => Meets.pure ⟨inv, rfl, fun _ h => h⟩
    | unpause => exact .require nofun fun _ => Meets.pure ⟨inv, rfl, fun _ h => h⟩
  | sign => exact .pure ⟨inv, rfl, fun _ h => List.mem_cons_of_mem _ h⟩
  | elapse seconds => exact .pure ⟨inv.elapse seconds, rfl, fun _ h => h⟩
  | usdcMint =>
    refine .bind (Q := fun _ => True) ?_ fun _ _ => Meets.pure ⟨inv, rfl, fun _ h => h⟩
    exact .ite (fun _ => nofun) fun _ => Meets.uint nofun fun _ => trivial
  | usdcApprove => exact .pure ⟨inv, rfl, fun _ h => h⟩
  | usdcTransfer =>
    exact .bind (Erc20.transfer_meets nofun) fun _ _ => Meets.pure ⟨inv, rfl, fun _ h => h⟩

theorem step_sound {r : Deployment} {s s' : State} {call : Call} (sound : s.Sound)
    (taken : step r s call = .ok s') : s'.Sound := by
  obtain ⟨locked, effect⟩ := (step_meets sound call).result taken
  refine ⟨locked, ?_⟩
  unfold Effect at effect
  split at effect
  · obtain ⟨spent, moved⟩ := effect
    exact moved.unused sound.unused
  · intro id none
    simp only [State.channel, effect.1] at none ⊢
    exact sound.unused id none

theorem run_sound (r : Deployment) (now : Nat) (calls : List Call) : (run r now calls).Sound :=
  (machine r).run_invariant (fun _ _ _ sound taken => step_sound sound taken)
    ⟨LockInv.deployed, fun _ _ => rfl⟩ calls

/-- In every reachable state a buyer's reserve is exactly what its active channels have
    not settled, no channel has settled more than its deposit, every reserve is covered by
    its balance, and no call can fail for an underflow. -/
theorem reserved_eq_unsettled (r : Deployment) (now : Nat) (calls : List Call) :
    (∀ buyer, ((run r now calls).deposits.buyers buyer).reserved =
      ∑ id, if ((run r now calls).channel id).status = .active ∧
          ((run r now calls).channel id).buyer = buyer
        then ((run r now calls).channel id).deposit - ((run r now calls).channel id).settled
        else 0) ∧
    (∀ id, ((run r now calls).channel id).settled ≤ ((run r now calls).channel id).deposit) ∧
    (∀ buyer, ((run r now calls).deposits.buyers buyer).reserved ≤
      ((run r now calls).deposits.buyers buyer).balance) ∧
    ∀ call, step r (run r now calls) call ≠ .error .underflow := by
  have sound := run_sound r now calls
  refine ⟨sound.locked.reserved, sound.locked.settled, sound.locked.covered, fun call failed => ?_⟩
  exact (step_meets sound call).reason failed rfl

end AntSeed.Payments
