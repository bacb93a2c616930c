import AntSeed.Payments.Turns

/-! # USDC custody

The Deposits contract holds what it owes its buyers, to the unit. A charge takes
the same amount from a buyer's account and from the contract's balance, and pays
it out in two parts; only gifts make the contract hold more than it owes.
-/

namespace AntSeed.Payments

open Evm Function
open State Meets
open Erc20 Deposits

noncomputable def State.owed (s : State) : Nat := ∑ b, (s.deposits.buyers b).balance

/-- The contract's own USDC. -/
def State.held (r : Deployment) (s : State) : Nat := s.usdc.balanceOf r.deposits

/-- A charge of `amount`: debited to the buyer, and paid out of custody in two parts. -/
structure Charged (r : Deployment) (reserve : Address) (s s' : State) (buyer seller : Address)
    (amount fee sellerPayout : Nat) : Prop where
  split : fee + sellerPayout = amount
  debited : ∀ b, (s'.deposits.buyers b).balance + (if b = buyer then amount else 0) =
    (s.deposits.buyers b).balance
  paid : ∀ account, s'.usdc.balanceOf account + (if account = r.deposits then amount else 0) =
    s.usdc.balanceOf account + (if account = reserve then fee else 0) +
      (if account = seller then sellerPayout else 0)

/-- No money has moved. -/
structure SameFunds (s s' : State) : Prop where
  balances : ∀ b, (s'.deposits.buyers b).balance = (s.deposits.buyers b).balance
  usdc : s'.usdc = s.usdc

theorem SameFunds.charged {s s' : State} (same : SameFunds s s') (r : Deployment)
    (reserve buyer seller : Address) : Charged r reserve s s' buyer seller 0 0 0 where
  split := rfl
  debited b := by simp [same.balances]
  paid account := by simp [same.usdc]

theorem Charged.andThen {r : Deployment} {reserve buyer seller : Address} {s s' s'' : State}
    {amount fee sellerPayout : Nat}
    (charged : Charged r reserve s s' buyer seller amount fee sellerPayout)
    (same : SameFunds s' s'') : Charged r reserve s s'' buyer seller amount fee sellerPayout where
  split := charged.split
  debited b := by rw [same.balances, charged.debited]
  paid account := by rw [same.usdc, charged.paid]

/-- A charge leaves what is held above what is owed as it was, up to what it paid to the
    contract itself. -/
theorem Charged.funds {reserve buyer seller : Address} {s s' : State}
    {amount fee sellerPayout : Nat}
    (charged : Charged r reserve s s' buyer seller amount fee sellerPayout)
    (other : seller ≠ r.deposits) :
    s'.held r + s.owed = s.held r + s'.owed + if r.deposits = reserve then fee else 0 := by
  have total : s'.owed + amount = s.owed := by
    unfold owed
    rw [← Finset.sum_congr rfl fun b _ => charged.debited b, Finset.sum_add_distrib]
    simp
  have paid := charged.paid r.deposits
  rw [if_pos rfl, if_neg (Ne.symm other)] at paid
  unfold held
  omega

namespace Deposits

variable {r : Deployment} {d : Deposits} {usdc : Erc20} {now : Nat}

variable {amount : Nat} {buyer sender : Address}

theorem payout_pays :
    Meets (payout r usdc target amount) State.Anything fun usdc' => ∀ account,
      usdc'.balanceOf account + (if account = r.deposits then amount else 0) =
        usdc.balanceOf account + if account = target then amount else 0 := by
  refine .ite (fun _ => ?_) fun nothing => pure fun account => ?_
  · cases h : usdc.transfer (ε := Error) r.deposits target amount with
    | error => trivial
    | ok =>
      obtain ⟨-, enough, rfl⟩ := transfer_eq_ok.mp h
      exact move_balance enough target
  · have zero : amount = 0 := by omega
    simp [zero]

theorem chargeAndCreditPayouts_charges :
    Meets (s.deposits.chargeAndCreditPayouts r s.usdc now protocolReserve sender buyer seller amount
        platformFee) State.Anything fun out =>
      ∃ sellerPayout, Charged r protocolReserve s { s with deposits := out.1, usdc := out.2 } buyer
        seller amount (if protocolReserve = 0 then 0 else platformFee) sellerPayout := by
  unfold chargeAndCreditPayouts
  apply check trivial
  apply require trivial
  intro within
  refine .bind (sub_meets trivial) fun balance ⟨enough, left⟩ => ?_
  refine .bind (sub_meets trivial) fun reserved _ => ?_
  refine .bind (sub_meets trivial) fun sellerPayout ⟨small, rest⟩ => ?_
  refine .bind (recordPair_meets.weaken fun _ _ => trivial) fun d' same => ?_
  refine .bind payout_pays fun usdc feePaid => ?_
  refine .bind payout_pays fun usdc' sellerPaid => ?_
  refine .pure ⟨sellerPayout, ?_, fun b => ?_, fun account => ?_⟩
  · rw [rest]
    exact Nat.add_sub_of_le small
  · simp only [same, setBuyer_buyers]
    by_cases h : b = buyer
    · subst h
      rw [update_self, if_pos rfl, left]
      exact Nat.sub_add_cancel enough
    · rw [update_of_ne h, if_neg h, add_zero]
  · have first := feePaid account
    have second := sellerPaid account
    dsimp only
    split at first
    next here =>
      rw [if_pos here] at second ⊢
      omega
    next elsewhere =>
      rw [if_neg elsewhere] at second ⊢
      omega

theorem lockForChannel_balances :
    Meets (d.lockForChannel r now sender buyer amount) State.Anything fun d' =>
      ∀ b, (d'.buyers b).balance = (d.buyers b).balance := by
  apply check trivial
  refine .bind (sub_meets trivial) fun _ _ => ?_
  apply check trivial
  apply uint trivial
  intro _
  refine .pure fun b => ?_
  rw [setBuyer_buyers]
  by_cases h : b = buyer
  · subst h
    rw [update_self]
  · rw [update_of_ne h]

theorem releaseLock_balances :
    Meets (d.releaseLock r sender buyer amount) State.Anything fun d' =>
      ∀ b, (d'.buyers b).balance = (d.buyers b).balance := by
  apply check trivial
  refine .bind (sub_meets trivial) fun _ _ => pure fun b => ?_
  rw [setBuyer_buyers]
  by_cases h : b = buyer
  · subst h
    rw [update_self]
  · rw [update_of_ne h]

end Deposits

namespace State

variable {r : Deployment} {s : State} {ext : External} {sender : Address} {id : Word}

/-- What a lifecycle call charges: the rise of `settled`, at the fee of the moment. -/
def Pays (r : Deployment) (ext : External) (id : Word) (s s' : State) : Prop :=
  ∃ sellerPayout, Charged r ext.protocolReserve s s' (s'.channel id).buyer (s'.channel id).seller
    ((s'.channel id).settled - (s.channel id).settled)
    (if ext.protocolReserve = 0 then 0
      else ((s'.channel id).settled - (s.channel id).settled) * s.channels.platformFeeBps / 10000)
    sellerPayout

theorem Pays.of_same {s' : State} (same : SameFunds s s')
    (settled : (s'.channel id).settled = (s.channel id).settled) : s.Pays r ext id s' := by
  refine ⟨0, ?_⟩
  rw [settled, Nat.sub_self, Nat.zero_mul, Nat.zero_div, ite_self]
  exact same.charged r _ _ _

variable {amount : Nat} {metadata : List UInt8} {sig : Signature}

theorem settleSpend_pays (above : (s.channel id).settled < amount) :
    Meets (s.settleSpend r ext id amount metadata sig) Anything fun s' => s.Pays r ext id s' := by
  have charges : Meets (s.settleSpend r ext id amount metadata sig) Anything fun s' =>
      ∃ sellerPayout, Charged r ext.protocolReserve s s' (s.channel id).buyer (s.channel id).seller
        (amount - (s.channel id).settled) (if ext.protocolReserve = 0 then 0
          else (amount - (s.channel id).settled) * s.channels.platformFeeBps / 10000)
        sellerPayout := by
    apply check trivial
    refine .sub (Nat.le_of_lt above) ?_
    refine .ite (fun none => by omega) fun _ => ?_
    apply uint trivial
    intro _
    refine .bind (recordVolume_meets.weaken fun _ _ => trivial) fun s' recorded => ?_
    obtain ⟨stats, rfl⟩ := recorded
    refine .external trivial ?_
    refine .bind chargeAndCreditPayouts_charges ?_
    rintro ⟨deposits, usdc⟩ ⟨sellerPayout, charged⟩
    exact .pure ⟨sellerPayout, charged.split, charged.debited, charged.paid⟩
  refine charges.strengthen fun s' returned pays => ?_
  have written := (settleSpend_channel above).result returned
  unfold Pays
  rw [written]
  exact pays

theorem Pays.andThen {s' s'' : State} (pays : s.Pays r ext id s') (same : SameFunds s' s'')
    (buyer : (s''.channel id).buyer = (s'.channel id).buyer)
    (seller : (s''.channel id).seller = (s'.channel id).seller)
    (settled : (s''.channel id).settled = (s'.channel id).settled) : s.Pays r ext id s'' := by
  obtain ⟨sellerPayout, charged⟩ := pays
  refine ⟨sellerPayout, ?_⟩
  rw [buyer, seller, settled]
  exact charged.andThen same

theorem finish_funds :
    Meets (s.finish r ext id status ghost remaining) Anything fun s' => SameFunds s s' := by
  refine .bind (sub_meets trivial) fun count _ => ?_
  refine .bind (recordFinish_meets.weaken fun _ _ => trivial) fun s' recorded => ?_
  obtain ⟨stats, rfl⟩ := recorded
  refine .ite (fun _ => ?_) fun _ => pure ⟨fun _ => rfl, rfl⟩
  refine .bind releaseLock_balances fun deposits balances => ?_
  exact .pure ⟨balances, rfl⟩

theorem reserve_pays (named : r.computeChannelId buyer sender salt = id)
    (unused : (s.channel id).status = .none → (s.channel id).settled = 0) :
    Meets (s.reserve r ext sender buyer salt maxAmount deadline sig) Anything fun s' =>
      s.Pays r ext id s' := by
  subst named
  apply decode trivial
  intro _
  apply check trivial
  apply check trivial
  apply check trivial
  apply check trivial
  apply require trivial
  intro fresh
  apply check trivial
  apply check trivial
  apply uint trivial
  intro _
  refine .bind lockForChannel_balances fun deposits balances => pure ?_
  refine .of_same ⟨balances, rfl⟩ ?_
  rw [unused fresh]
  simp [channel, setChannel, setActiveCount]

theorem topUp_pays :
    Meets (s.topUp r ext sender id amount metadata spendingSig newMaxAmount deadline reserveSig)
      Anything fun s' => s.Pays r ext id s' := by
  apply decode trivial
  intro _
  apply decode trivial
  intro _
  apply check trivial
  apply check trivial
  apply check trivial
  apply check trivial
  apply check trivial
  apply check trivial
  refine .bind (Q := fun s' => s.Pays r ext id s') ?_ fun s' pays => ?_
  · refine .ite (fun above => ?_) fun _ => pure (Pays.of_same ⟨fun _ => rfl, rfl⟩ rfl)
    exact .require trivial fun _ => settleSpend_pays above
  · apply uint trivial
    intro _
    apply check trivial
    apply check trivial
    refine .bind (sub_meets trivial) fun additionalAmount _ => ?_
    refine .bind lockForChannel_balances fun deposits balances => pure ?_
    refine pays.andThen ⟨balances, rfl⟩ ?_ ?_ ?_ <;> rw [setChannel_channel]

theorem settle_pays :
    Meets (s.settle r ext sender id amount metadata sig) Anything fun s' => s.Pays r ext id s' := by
  apply decode trivial
  intro _
  apply check trivial
  apply check trivial
  apply check trivial
  apply require trivial
  intro above
  exact .require trivial fun _ => settleSpend_pays above

theorem close_pays :
    Meets (s.close r ext sender id amount metadata sig) Anything fun s' => s.Pays r ext id s' := by
  apply decode trivial
  intro _
  apply check trivial
  apply check trivial
  apply check trivial
  apply check trivial
  apply check trivial
  refine .bind (Q := fun s' => s.Pays r ext id s') ?_ fun s' pays => ?_
  · exact .ite (fun above => settleSpend_pays above) fun _ =>
      pure (Pays.of_same ⟨fun _ => rfl, rfl⟩ rfl)
  · refine .bind (sub_meets trivial) fun unsettled _ => ?_
    refine finish_funds.strengthen fun s'' returned same => ?_
    have written := finish_channel.result returned
    exact pays.andThen same (by rw [written]) (by rw [written]) (by rw [written])

theorem requestClose_pays : Meets (s.requestClose sender id) Anything fun s' => s.Pays r ext id s' := by
  apply check trivial
  apply check trivial
  apply check trivial
  apply uint trivial
  intro _
  exact .pure (Pays.of_same ⟨fun _ => rfl, rfl⟩ (by rw [setChannel_channel]))

theorem withdraw_pays : Meets (s.withdraw r ext sender id) Anything fun s' => s.Pays r ext id s' := by
  apply check trivial
  apply check trivial
  apply check trivial
  apply uint trivial
  intro _
  apply check trivial
  refine .bind (sub_meets trivial) fun remaining _ => ?_
  refine finish_funds.strengthen fun s' returned same => ?_
  have written := finish_channel.result returned
  exact .of_same same (by rw [written])

end State

variable {call : Call} {c c' : Channel} {amount : Nat} {out : Deposits × Erc20}

section

variable {r : Deployment}

variable {s s' : State}

theorem step_pays {id : Word} (sound : s.Sound)
    (about : call.channelId r = some id) (taken : step r s call = .ok s') :
    s.Pays r call.ext id s' := by
  obtain ⟨-, -, taken⟩ := ran taken
  obtain ⟨sender, ext, op⟩ := call
  cases op with
  | reserve =>
    exact (reserve_pays (Option.some.inj about) (sound.unused id)).result taken
  | topUp =>
    cases about
    exact topUp_pays.result taken
  | settle =>
    cases about
    exact settle_pays.result taken
  | close =>
    cases about
    exact close_pays.result taken
  | requestClose =>
    cases about
    exact requestClose_pays.result taken
  | withdraw =>
    cases about
    exact withdraw_pays.result taken
  | _ => cases about

/-- Who is none of the two contracts and not the zero address. -/
def Deployment.Outside (r : Deployment) (account : Address) : Prop :=
  account ≠ r.deposits ∧ account ≠ r.channels ∧ account ≠ 0

def State.SellersOutside (r : Deployment) (s : State) : Prop :=
  ∀ id, (s.channel id).status ≠ .none → r.Outside (s.channel id).seller

theorem Turn.seller {now : Nat} {sender : Address} {P : Address → Prop}
    (turn : Turn now sender c c') (caller : P sender) (before : c.status ≠ .none → P c.seller) :
    c'.status ≠ .none → P c'.seller := by
  intro _
  cases turn with
  | opened => exact caller
  | spent _ _ active => exact before (by simp [active])
  | raised _ _ active => exact before (by simp [active])
  | requested active => exact before (by simp [active])
  | finished _ active => exact before (by simp [active])

theorem Turns.seller {now : Nat} {sender : Address} {P : Address → Prop}
    (turns : Turns now sender c c') (caller : P sender) (before : c.status ≠ .none → P c.seller) :
    c'.status ≠ .none → P c'.seller := by
  induction turns with
  | refl => exact before
  | tail _ turn ih => exact turn.seller caller ih

theorem step_outside (taken : step r s call = .ok s') : r.Outside call.sender := by
  obtain ⟨_, outside, _⟩ := ran taken
  have caller := require_eq_ok.mp outside
  exact caller

theorem step_sellersOutside (sound : s.Sound)
    (before : s.SellersOutside r) (taken : step r s call = .ok s') : s'.SellersOutside r :=
  fun id => (step_turns sound taken id).seller (step_outside taken) (before id)

/-- A call by which the contract gets USDC it owes to nobody: someone sends it tokens, or
    fees go to it because it is the protocol reserve. -/
def Call.Donates (r : Deployment) (call : Call) : Prop :=
  match call.op with
  | .usdcMint target _ | .usdcTransfer target _ => target = r.deposits
  | .topUp .. | .settle .. | .close .. => call.ext.protocolReserve = r.deposits
  | _ => False

def Balanced (r : Deployment) (s : State) (call : Call) (s' : State) : Prop :=
  ∃ gift, s'.held r + s.owed = s.held r + s'.owed + gift ∧ (¬ call.Donates r → gift = 0)

theorem Balanced.of_same (same : SameFunds s s') : Balanced r s call s' := by
  refine ⟨0, ?_, fun _ => rfl⟩
  simp only [held, owed, same.usdc, same.balances, add_zero]

/-- A charge is balanced if it adds nothing to `settled`, or if donating through it is
    what the call is told apart by. -/
theorem Balanced.of_pays {id : Word}
    (pays : s.Pays r call.ext id s') (outside : r.Outside (s'.channel id).seller)
    (spends : (s'.channel id).settled = (s.channel id).settled ∨
      (call.ext.protocolReserve = r.deposits → call.Donates r)) : Balanced r s call s' := by
  obtain ⟨sellerPayout, charged⟩ := pays
  refine ⟨_, charged.funds outside.1, fun keeps => ?_⟩
  rcases spends with same | donates
  · simp [same]
  · exact if_neg fun toItself => keeps (donates toItself.symm)

theorem owed_setBuyer (s : State) (buyer : Address) (account : BuyerAccount) (usdc : Erc20) :
    owed { s with deposits := s.deposits.setBuyer buyer account, usdc := usdc } +
      (s.deposits.buyers buyer).balance = s.owed + account.balance := by
  simp only [owed, setBuyer_buyers]
  exact sum_update_add (fun _ a => a.balance) s.deposits.buyers account (Finset.mem_univ buyer)

theorem deposit_balanced {s : State} {ext : External} {sender buyer : Address}
    (outside : r.Outside sender)
    (taken : s.deposits.deposit r s.usdc s.now sender buyer amount = .ok out) :
    Balanced r s ⟨sender, ext, .deposit buyer amount⟩
      { s with deposits := out.1, usdc := out.2 } := by
  obtain ⟨_, _, taken⟩ := ran taken
  obtain ⟨_, _, taken⟩ := ran taken
  replace taken := uint_rest taken
  obtain ⟨_, _, taken⟩ := ran taken
  obtain ⟨_, _, taken⟩ := ran taken
  obtain ⟨usdc, pulled, taken⟩ := ran taken
  obtain ⟨-, enough, balances, -⟩ := transferFrom_eq_ok pulled
  cases taken
  have owed := owed_setBuyer s buyer { s.deposits.buyers buyer with
    balance := (s.deposits.buyers buyer).balance + amount, lastActivityAt := s.now } usdc
  have received := move_balance enough r.deposits r.deposits
  rw [if_pos rfl, if_neg (Ne.symm outside.1), ← balances] at received
  refine ⟨0, ?_, fun _ => rfl⟩
  simp only [held] at received ⊢
  dsimp only at owed
  omega

theorem withdraw_balanced {s : State} {ext : External} {sender buyer : Address}
    (outside : r.Outside sender)
    (taken : s.deposits.withdraw r s.usdc sender buyer amount = .ok out) :
    Balanced r s ⟨sender, ext, .depositsWithdraw buyer amount⟩
      { s with deposits := out.1, usdc := out.2 } := by
  obtain ⟨_, _, taken⟩ := ran taken
  obtain ⟨_, _, taken⟩ := ran taken
  obtain ⟨_, _, taken⟩ := ran taken
  obtain ⟨_, _, taken⟩ := ran taken
  obtain ⟨newBalance, left, taken⟩ := ran taken
  obtain ⟨usdc, sent, taken⟩ := ran taken
  obtain ⟨covered, rfl⟩ := sub_eq_ok.mp left
  obtain ⟨-, enough, rfl⟩ := transfer_eq_ok.mp sent
  cases taken
  have owed := owed_setBuyer s buyer { s.deposits.buyers buyer with
    balance := (s.deposits.buyers buyer).balance - amount } (s.usdc.move r.deposits sender amount)
  have paid := move_balance enough sender r.deposits
  rw [if_pos rfl, if_neg (Ne.symm outside.1)] at paid
  refine ⟨0, ?_, fun _ => rfl⟩
  simp only [held] at paid ⊢
  dsimp only at owed
  omega

theorem SameFunds.setBuyer {s : State} {buyer : Address} {account : BuyerAccount}
    (same : account.balance = (s.deposits.buyers buyer).balance) :
    SameFunds s { s with deposits := s.deposits.setBuyer buyer account } := by
  refine ⟨fun b => ?_, rfl⟩
  rw [setBuyer_buyers]
  by_cases h : b = buyer
  · subst h
    rw [update_self, same]
  · rw [update_of_ne h]

theorem usdc_balanced {s : State} (target : Address) (amount : Nat) {usdc : Erc20}
    (received : usdc.balanceOf r.deposits =
      s.usdc.balanceOf r.deposits + if r.deposits = target then amount else 0)
    (donates : target = r.deposits → call.Donates r) :
    Balanced r s call { s with usdc := usdc } := by
  refine ⟨if r.deposits = target then amount else 0, ?_, fun keeps =>
    if_neg fun toIt => keeps (donates toIt.symm)⟩
  simp only [held, received]
  exact Nat.add_right_comm _ _ _

theorem step_balanced (sound : s.Sound)
    (outside : s.SellersOutside r) (taken : step r s call = .ok s') : Balanced r s call s' := by
  have caller := step_outside taken
  have sellers := step_sellersOutside sound outside taken
  have pays : ∀ id, call.channelId r = some id → s.Pays r call.ext id s' :=
    fun id about => step_pays sound about taken
  have effect := ((step_meets sound call).result taken).2
  obtain ⟨_, _, taken⟩ := ran taken
  obtain ⟨sender, ext, op⟩ := call
  cases op with
  | deposit =>
    obtain ⟨out, moved, taken⟩ := ran taken
    cases taken
    exact deposit_balanced caller moved
  | depositsWithdraw =>
    obtain ⟨out, moved, taken⟩ := ran taken
    cases taken
    exact withdraw_balanced caller moved
  | lockForChannel =>
    obtain ⟨deposits, locked, taken⟩ := ran taken
    cases taken
    exact .of_same ⟨lockForChannel_balances.result locked, rfl⟩
  | chargeAndCreditPayouts =>
    -- only the Channels contract may charge, and it is not the caller
    obtain ⟨out, charged, -⟩ := ran taken
    obtain ⟨_, privileged, -⟩ := ran charged
    exact absurd (require_eq_ok.mp privileged) caller.2.1
  | releaseLock =>
    obtain ⟨deposits, released, taken⟩ := ran taken
    cases taken
    exact .of_same ⟨releaseLock_balances.result released, rfl⟩
  | setOperator =>
    obtain ⟨deposits, written, taken⟩ := ran taken
    cases taken
    obtain ⟨_, _, written⟩ := ran written
    obtain ⟨_, _, written⟩ := ran written
    obtain ⟨_, _, written⟩ := ran written
    obtain ⟨_, _, written⟩ := ran written
    obtain ⟨_, _, written⟩ := ran written
    cases written
    exact .of_same (.setBuyer rfl)
  | transferOperator =>
    obtain ⟨deposits, written, taken⟩ := ran taken
    cases taken
    obtain ⟨_, _, written⟩ := ran written
    cases written
    exact .of_same (.setBuyer rfl)
  | reserve =>
    have same := ((reserve_meets sound.locked sound.unused).result taken).2
    exact .of_pays (pays _ rfl) (sellers _ same.opened) (.inl same.settled)
  | topUp id =>
    obtain ⟨spent, moved⟩ := effect
    exact .of_pays (pays id rfl) (sellers id moved.opened) (.inr fun toIt => toIt)
  | settle id =>
    obtain ⟨spent, moved⟩ := effect
    exact .of_pays (pays id rfl) (sellers id moved.opened) (.inr fun toIt => toIt)
  | close id =>
    obtain ⟨spent, moved⟩ := effect
    exact .of_pays (pays id rfl) (sellers id moved.opened) (.inr fun toIt => toIt)
  | requestClose id =>
    have same := ((requestClose_meets sound.locked).result taken).2
    exact .of_pays (pays id rfl) (sellers id same.opened) (.inl same.settled)
  | withdraw id =>
    have same := ((withdraw_meets sound.locked).result taken).2
    exact .of_pays (pays id rfl) (sellers id same.opened) (.inl same.settled)
  | depositsSetting =>
    obtain ⟨deposits, written, taken⟩ := ran taken
    cases taken
    exact .of_same ⟨fun b => by rw [set_buyers written], rfl⟩
  | channelsSetting setting =>
    obtain ⟨_, _, taken⟩ := ran taken
    cases setting with
    | firstSignCap =>
      cases taken
      exact .of_same ⟨fun _ => rfl, rfl⟩
    | _ =>
      obtain ⟨_, _, taken⟩ := ran taken
      cases taken
      exact .of_same ⟨fun _ => rfl, rfl⟩
  | sign | elapse =>
    cases taken
    exact .of_same ⟨fun _ => rfl, rfl⟩
  | usdcMint target amount =>
    obtain ⟨usdc, minted, taken⟩ := ran taken
    cases taken
    obtain ⟨-, -, balances⟩ := mint_eq_ok minted
    refine usdc_balanced target amount ?_ fun toIt => toIt
    rw [balances, Function.update_apply]
    split
    next here => rw [here]
    · rfl
  | usdcApprove =>
    cases taken
    exact ⟨0, rfl, fun _ => rfl⟩
  | usdcTransfer target amount =>
    obtain ⟨usdc, sent, taken⟩ := ran taken
    cases taken
    obtain ⟨-, enough, rfl⟩ := transfer_eq_ok.mp sent
    have moved := move_balance enough target r.deposits
    rw [if_neg (Ne.symm caller.1), add_zero] at moved
    exact usdc_balanced target amount moved fun toIt => toIt

end

/-- What every reachable state satisfies of the money. -/
structure State.Custody (r : Deployment) (s : State) : Prop where
  sound : s.Sound
  sellers : s.SellersOutside r
  covered : s.owed ≤ s.held r

theorem step_custody (custody : s.Custody r)
    (taken : step r s call = .ok s') : s'.Custody r := by
  obtain ⟨gift, moved, -⟩ := step_balanced custody.sound custody.sellers taken
  have covered := custody.covered
  exact ⟨step_sound custody.sound taken, step_sellersOutside custody.sound custody.sellers taken,
    by omega⟩

theorem deployed_custody (r : Deployment) (now : Nat) :
    (deployed r now).Custody r ∧ (deployed r now).owed = (deployed r now).held r := by
  have empty : (deployed r now).owed = (deployed r now).held r := by
    simp [owed, held, deployed, empty, default]
  exact ⟨⟨run_sound r now [], fun _ none => absurd rfl none, Nat.le_of_eq empty⟩, empty⟩

theorem run_custody (r : Deployment) (now : Nat) (calls : List Call) : (run r now calls).Custody r :=
  (machine r).run_invariant (fun _ _ _ custody taken => step_custody custody taken)
    (deployed_custody r now).1 calls

theorem run_exact {r : Deployment} {calls : List Call} (none : ∀ call ∈ calls, ¬ call.Donates r)
    (now : Nat) : (run r now calls).owed = (run r now calls).held r := by
  have both := (machine r).run_invariant_on (P := fun call => ¬ call.Donates r)
    (I := fun s => s.Custody r ∧ s.owed = s.held r) (fun s call s' keeps inv taken => ?_)
    (deployed_custody r now) none
  · exact both.2
  · obtain ⟨gift, moved, nothing⟩ := step_balanced inv.1.sound inv.1.sellers taken
    have zero := nothing keeps
    exact ⟨step_custody inv.1 taken, by omega⟩

/-- In every reachable state the Deposits contract holds at least what it owes its buyers,
    and exactly that if no call gave it tokens. Every call about a channel debits the
    channel's buyer, and nobody else, by what it adds to `settled`, and pays exactly this
    out of custody: the fee of the moment to the reserve, which is nothing while there is
    no reserve, and the rest to the seller. -/
theorem usdc_custody (r : Deployment) (now : Nat) (calls : List Call) :
    (∑ b, ((run r now calls).deposits.buyers b).balance ≤ (run r now calls).usdc.balanceOf r.deposits) ∧
    ((∀ call ∈ calls, ¬ call.Donates r) →
      (run r now calls).usdc.balanceOf r.deposits = ∑ b, ((run r now calls).deposits.buyers b).balance) ∧
    ∀ call id s', call.channelId r = some id → step r (run r now calls) call = .ok s' →
      ∃ amount fee sellerPayout,
        (s'.channel id).settled = ((run r now calls).channel id).settled + amount ∧
        fee = (if call.ext.protocolReserve = 0 then 0
          else amount * (run r now calls).channels.platformFeeBps / 10000) ∧
        Charged r call.ext.protocolReserve (run r now calls) s' (s'.channel id).buyer
          (s'.channel id).seller amount fee sellerPayout := by
  have custody := run_custody r now calls
  refine ⟨custody.covered, fun none => (run_exact none now).symm, ?_⟩
  intro call id s' about taken
  obtain ⟨sellerPayout, charged⟩ := step_pays custody.sound about taken
  refine ⟨_, _, sellerPayout, ?_, rfl, charged⟩
  have effect := ((step_meets custody.sound call).result taken).2
  unfold Effect at effect
  rw [about] at effect
  obtain ⟨spent, moved⟩ := effect
  rw [moved.settled]
  omega

end AntSeed.Payments
