import AntSeed.Payments.Custody

/-! # The grace period

A buyer's operator can ask for a close at any time and take the rest of the
deposit back when the grace period is over. The seller is meant to use that time
to close with the last amount the buyer signed. It can, but only while the
contract is not paused: a pause stops the seller and not the clock.
-/

namespace AntSeed.Payments

open Evm Function Meets
open Nat

namespace State

variable {r : Deployment} {s : State} {ext : External} {sender : Address} {id : Word}

/-- A lifecycle call writes channels, counts and statistics, no setting, and takes no time. -/
def SameSettings (s s' : State) : Prop :=
  s'.now = s.now ∧ ∃ channels counts stats, s'.channels = { s.channels with
    channels := channels, activeChannelCount := counts, agentStats := stats }

theorem SameSettings.refl (s : State) : s.SameSettings s := ⟨rfl, _, _, _, rfl⟩

theorem SameSettings.trans {s s' s'' : State} (first : s.SameSettings s')
    (second : s'.SameSettings s'') : s.SameSettings s'' := by
  obtain ⟨now, _, _, _, same⟩ := first
  obtain ⟨now', channels, counts, stats, same'⟩ := second
  rw [same] at same'
  exact ⟨now'.trans now, channels, counts, stats, same'⟩

variable {amount : Nat} {metadata : List UInt8} {sig : Signature}

theorem settleSpend_settings :
    Meets (s.settleSpend r ext id amount metadata sig) Anything s.SameSettings := by
  refine .skip fun _ => ?_
  refine .skip fun delta => ?_
  refine .ite (fun _ => pure (.refl s)) fun _ => ?_
  refine .skip fun _ => ?_
  refine .bind (recordVolume_meets.weaken fun _ _ => trivial) fun s' recorded => ?_
  obtain ⟨stats, rfl⟩ := recorded
  refine .skip fun _ => ?_
  exact .skip fun _ => pure ⟨rfl, _, _, _, rfl⟩

theorem finish_settings :
    Meets (s.finish r ext id status ghost remaining) Anything s.SameSettings := by
  refine .skip fun _ => ?_
  refine .bind (recordFinish_meets.weaken fun _ _ => trivial) fun s' recorded => ?_
  obtain ⟨stats, rfl⟩ := recorded
  refine .ite (fun _ => ?_) fun _ => pure ⟨rfl, _, _, _, rfl⟩
  exact .skip fun _ => pure ⟨rfl, _, _, _, rfl⟩

theorem reserve_settings :
    Meets (s.reserve r ext sender buyer salt maxAmount deadline sig) Anything s.SameSettings := by
  iterate 10 refine .skip fun _ => ?_
  exact .pure ⟨rfl, _, _, _, rfl⟩

theorem topUp_settings :
    Meets (s.topUp r ext sender id amount metadata spendingSig newMaxAmount deadline reserveSig)
      Anything s.SameSettings := by
  iterate 8 refine .skip fun _ => ?_
  refine .bind (Q := s.SameSettings) ?_ fun s' same => ?_
  · refine .ite (fun _ => ?_) fun _ => pure (.refl s)
    exact .skip fun _ => settleSpend_settings
  · iterate 5 refine .skip fun _ => ?_
    exact .pure (same.trans ⟨rfl, _, _, _, rfl⟩)

theorem settle_settings :
    Meets (s.settle r ext sender id amount metadata sig) Anything s.SameSettings := by
  iterate 6 refine .skip fun _ => ?_
  exact settleSpend_settings

theorem close_settings :
    Meets (s.close r ext sender id amount metadata sig) Anything s.SameSettings := by
  iterate 6 refine .skip fun _ => ?_
  refine .bind (Q := s.SameSettings) ?_ fun s' same => ?_
  · exact .ite (fun _ => settleSpend_settings) fun _ => pure (.refl s)
  · refine .skip fun _ => ?_
    exact finish_settings.mono fun s'' next => same.trans next

theorem requestClose_settings : Meets (s.requestClose sender id) Anything s.SameSettings := by
  iterate 4 refine .skip fun _ => ?_
  exact .pure ⟨rfl, _, _, _, rfl⟩

theorem withdraw_settings : Meets (s.withdraw r ext sender id) Anything s.SameSettings := by
  iterate 6 refine .skip fun _ => ?_
  exact finish_settings

/-- The settings that never leave their bounds: the fee, and the fixed grace period. -/
structure Settings (s : State) : Prop where
  fee : s.channels.platformFeeBps ≤ 1000
  maxFee : s.channels.maxPlatformFeeBps = 1000
  grace : s.channels.timeoutGracePeriod = 900

theorem SameSettings.settings {s' : State} (same : s.SameSettings s') (before : s.Settings) :
    s'.Settings := by
  obtain ⟨-, _, _, _, written⟩ := same
  constructor <;> rw [written]
  · exact before.fee
  · exact before.maxFee
  · exact before.grace

end State

/-- The time a call takes. -/
def Call.seconds (call : Call) : Nat :=
  match call.op with
  | .elapse seconds => seconds
  | _ => 0

theorem step_settings {r : Deployment} {s s' : State} {call : Call} (taken : step r s call = .ok s') :
    (s.Settings → s'.Settings) ∧ s'.now = s.now + call.seconds := by
  obtain ⟨_, _, taken⟩ := ran taken
  obtain ⟨sender, ext, op⟩ := call
  -- the lifecycle calls
  have of_same : s.SameSettings s' → (s.Settings → s'.Settings) ∧ s'.now = s.now + 0 :=
    fun same => ⟨same.settings, same.1⟩
  cases op with
  | reserve => exact of_same (State.reserve_settings.result taken)
  | topUp => exact of_same (State.topUp_settings.result taken)
  | settle => exact of_same (State.settle_settings.result taken)
  | close => exact of_same (State.close_settings.result taken)
  | requestClose => exact of_same (State.requestClose_settings.result taken)
  | withdraw => exact of_same (State.withdraw_settings.result taken)
  | channelsSetting setting =>
    obtain ⟨_, _, taken⟩ := ran taken
    cases setting with
    | firstSignCap =>
      cases taken
      exact ⟨fun before => ⟨before.fee, before.maxFee, before.grace⟩, rfl⟩
    | platformFeeBps =>
      obtain ⟨_, small, taken⟩ := ran taken
      cases taken
      have capped := require_eq_ok.mp small
      exact ⟨fun before => ⟨before.maxFee ▸ capped, before.maxFee, before.grace⟩, rfl⟩
    | _ =>
      obtain ⟨_, _, taken⟩ := ran taken
      cases taken
      exact ⟨fun before => ⟨before.fee, before.maxFee, before.grace⟩, rfl⟩
  | sign | elapse | usdcApprove =>
    cases taken
    exact ⟨fun before => ⟨before.fee, before.maxFee, before.grace⟩, rfl⟩
  | _ =>
    obtain ⟨_, _, taken⟩ := ran taken
    cases taken
    exact ⟨fun before => ⟨before.fee, before.maxFee, before.grace⟩, rfl⟩

def OnlyIf (full : Prop) (reason : Revert Error) : Prop := reason = .overflow ∧ full

theorem counter_meets {α : Type} {bits n : Nat} {full : Prop} {f : Nat → Tx Error α}
    {post : α → Prop} (limit : 2 ^ bits ≤ n → full)
    (rest : Meets (f n) (OnlyIf full) post) : Meets (uint bits n >>= f) (OnlyIf full) post := by
  by_cases small : n < 2 ^ bits
  · exact .fits small rest
  · rw [uint_exceeds small]
    exact ⟨rfl, limit (Nat.le_of_not_lt small)⟩

namespace Deposits

variable {r : Deployment} {d : Deposits} {usdc : Erc20} {now : Nat} {full : Prop}

theorem payout_succeeds
    (receiver : 0 < amount → target ≠ 0) (enough : amount ≤ usdc.balanceOf r.deposits) :
    Meets (payout r usdc target amount) allowed fun usdc' => ∀ account,
      usdc'.balanceOf account + (if account = r.deposits then amount else 0) =
        usdc.balanceOf account + if account = target then amount else 0 := by
  refine .of_ok (a := if amount > 0 then usdc.move r.deposits target amount else usdc) ?_ ?_
  · unfold payout
    split
    next some => exact Erc20.transfer_eq_ok.mpr ⟨receiver some, enough, rfl⟩
    · rfl
  · intro account
    split
    · exact Erc20.move_balance enough target account
    next nothing =>
      have zero : amount = 0 := by omega
      simp [zero]

theorem recordPair_succeeds (limit : 2 ^ 256 ≤ d.uniqueSellersCharged buyer + 1 → full) :
    Meets (d.recordPair buyer seller) (OnlyIf full) fun _ => True := by
  refine .ite (fun _ => trivial) fun _ => ?_
  exact counter_meets limit trivial

theorem chargeAndCreditPayouts_succeeds {protocolReserve buyer seller : Address}
    {amount platformFee : Nat} (fee : platformFee ≤ amount)
    (locked : amount ≤ (d.buyers buyer).reserved)
    (covered : (d.buyers buyer).reserved ≤ (d.buyers buyer).balance)
    (held : amount ≤ usdc.balanceOf r.deposits) (receiver : seller ≠ 0)
    (limit : 2 ^ 256 ≤ d.uniqueSellersCharged buyer + 1 → full) :
    Meets (d.chargeAndCreditPayouts r usdc now protocolReserve r.channels buyer seller amount
      platformFee) (OnlyIf full) fun _ => True := by
  refine .passes rfl ?_
  refine .passes fee ?_
  refine .sub (le_trans locked covered) ?_
  refine .sub locked ?_
  have small : (if protocolReserve = 0 then 0 else platformFee) ≤ amount := by split <;> omega
  refine .sub small ?_
  refine .bind (recordPair_succeeds limit) fun d' _ => ?_
  refine .bind (payout_succeeds (fun paid none => ?_) (le_trans small held)) fun usdc' feePaid => ?_
  · rw [if_pos none] at paid
    omega
  · have left := feePaid r.deposits
    rw [if_pos rfl] at left
    refine .bind (payout_succeeds (fun _ => receiver) ?_) fun _ _ => trivial
    apply sub_le_of_le_add
    rw [left]
    exact le_add_right_of_le held

end Deposits

namespace State

variable {r : Deployment} {s : State} {ext : External} {id : Word} {full : Prop}

/-- A statistics counter that a close with this amount adds to is at the end of its type. -/
def CounterFull (s : State) (ext : External) (id : Word) (amount : Nat) : Prop :=
  (ext.agentId ≠ 0 ∧
    (2 ^ 256 ≤ (s.channels.agentStats ext.agentId).totalVolumeUsdc +
        (amount - (s.channel id).settled) ∨
      2 ^ 64 ≤ (s.channels.agentStats ext.agentId).channelCount + 1)) ∨
  2 ^ 256 ≤ s.deposits.uniqueSellersCharged (s.channel id).buyer + 1

/-- What the code relies on to pay a channel's delta. -/
structure Payable (r : Deployment) (s : State) : Prop where
  custody : s.Custody r
  settings : s.Settings
  deposits : ∀ id, (s.channel id).deposit < 2 ^ 128

theorem Payable.held (payable : s.Payable r) (id : Word) (active : (s.channel id).status = .active) :
    (s.channel id).deposit - (s.channel id).settled ≤ (s.deposits.buyers (s.channel id).buyer).reserved ∧
      (s.deposits.buyers (s.channel id).buyer).reserved ≤ s.usdc.balanceOf r.deposits := by
  have inv := payable.custody.sound.locked
  have locked := inv.locked_le (s.channel id).buyer id
  change lockedBy _ (s.channel id) ≤ _ at locked
  simp only [lockedBy, active, true_and, if_true] at locked
  refine ⟨locked, le_trans (inv.covered _) (le_trans ?_ payable.custody.covered)⟩
  exact Finset.single_le_sum (f := fun b => (s.deposits.buyers b).balance)
    (fun _ _ => zero_le _) (Finset.mem_univ (s.channel id).buyer)

theorem recordVolume_succeeds {delta : Nat} (limit : ext.agentId ≠ 0 →
      2 ^ 256 ≤ (s.channels.agentStats ext.agentId).totalVolumeUsdc + delta → full) :
    Meets (s.recordVolume ext delta) (OnlyIf full) fun s' => s.SameButStats s' ∧
      ∀ agent, (s'.channels.agentStats agent).channelCount =
        (s.channels.agentStats agent).channelCount := by
  refine .ite (fun _ => pure ⟨⟨_, rfl⟩, fun _ => rfl⟩) fun known => ?_
  refine counter_meets (limit known) (pure ⟨⟨_, rfl⟩, fun agent => ?_⟩)
  simp only [setStats]
  by_cases h : agent = ext.agentId
  · subst h
    rw [update_self]
  · rw [update_of_ne h]

theorem settleSpend_succeeds (ext : External) (payable : s.Payable r) (active : (s.channel id).status = .active)
    (answers : ext.emissions.getD true = true)
    (signed : ⟨(s.channel id).buyer, .spendingAuth id amount (r.keccak256 metadata)⟩ ∈ s.signed)
    (above : (s.channel id).settled < amount) (within : amount ≤ (s.channel id).deposit) :
    Meets (s.settleSpend r ext id amount metadata
        ⟨(s.channel id).buyer, .spendingAuth id amount (r.keccak256 metadata)⟩)
      (OnlyIf (s.CounterFull ext id amount)) fun s' => ∀ agent,
        (s'.channels.agentStats agent).channelCount = (s.channels.agentStats agent).channelCount := by
  have small := payable.deposits id
  have bps := payable.settings.fee
  obtain ⟨locked, held⟩ := payable.held id active
  have opened : (s.channel id).status ≠ .none := by simp [active]
  have product : (amount - (s.channel id).settled) * s.channels.platformFeeBps ≤
      (amount - (s.channel id).settled) * 1000 := mul_le_mul_left _ bps
  refine .passes ⟨signed, rfl, rfl⟩ ?_
  refine .sub (le_of_lt above) ?_
  refine .ite (fun none => by omega) fun _ => ?_
  refine .fits (by omega) ?_
  refine .bind (recordVolume_succeeds fun known limit => .inl ⟨known, .inl limit⟩) ?_
  rintro s' ⟨⟨stats, rfl⟩, counts⟩
  rw [answers]
  refine .bind (Q := fun _ => True) trivial fun _ _ => ?_
  refine .bind (Deposits.chargeAndCreditPayouts_succeeds (by omega) (by
    dsimp only [setChannel]
    omega) (payable.custody.sound.locked.covered _) (by
    dsimp only [setChannel]
    omega) (payable.custody.sellers id opened).2.2 fun limit => .inr limit) fun _ _ => ?_
  exact .pure counts

/-- A channel without a lock left over can always end, and releases what is left of its lock, unless
    the count of finished channels, or of ghosts, is full. -/
theorem finish_succeeds (inv : s.Locked) {status : ChannelStatus} {remaining : Nat} {ghost : Bool}
    (active : (s.channel id).status = .active)
    (rest : remaining = (s.channel id).deposit - (s.channel id).settled)
    (limit : ext.agentId ≠ 0 → 2 ^ 64 ≤ (if ghost then (s.channels.agentStats ext.agentId).ghostCount
      else (s.channels.agentStats ext.agentId).channelCount) + 1 → full) :
    Meets (s.finish r ext id status ghost remaining) (OnlyIf full) fun s' =>
      (s'.deposits.buyers (s.channel id).buyer).reserved + remaining =
        (s.deposits.buyers (s.channel id).buyer).reserved := by
  have counted := inv.open_le (s.channel id).seller id
  change openFor _ (s.channel id) ≤ _ at counted
  simp only [openFor, active, true_and, if_true] at counted
  have locked := inv.locked_le (s.channel id).buyer id
  change lockedBy _ (s.channel id) ≤ _ at locked
  simp only [lockedBy, active, true_and, if_true] at locked
  rw [← rest] at locked
  unfold finish
  refine .sub counted ?_
  refine .bind (Q := fun s' => s'.deposits = s.deposits) ?_ fun s' same => ?_
  · unfold recordFinish
    refine .ite (fun _ => pure rfl) fun known => ?_
    refine .ite (fun isGhost => ?_) fun notGhost => ?_
    · exact counter_meets (fun full => limit known (by rwa [if_pos isGhost])) (pure rfl)
    · exact counter_meets (fun full => limit known (by rwa [if_neg notGhost])) (pure rfl)
  · rw [same]
    refine .ite (fun _ => ?_) fun none => pure (by rw [same]; omega)
    unfold Deposits.releaseLock
    refine .bind (Q := fun d => (d.buyers (s.channel id).buyer).reserved + remaining =
      (s.deposits.buyers (s.channel id).buyer).reserved) ?_ fun _ released => pure released
    refine .passes rfl ?_
    refine .sub locked (pure ?_)
    simpa [Deposits.setBuyer] using Nat.sub_add_cancel locked

end State

variable {c c' : Channel}

theorem Turn.deposit (turn : Turn now sender c c')
    (before : c.deposit < 2 ^ 128) : c'.deposit < 2 ^ 128 := by
  cases turn with
  | opened _ _ _ _ fits => exact fits
  | spent | requested | finished => exact before
  | raised _ _ _ _ _ _ fits => exact fits

theorem Turns.deposit (turns : Turns now sender c c')
    (before : c.deposit < 2 ^ 128) : c'.deposit < 2 ^ 128 := by
  induction turns with
  | refl => exact before
  | tail _ turn ih => exact turn.deposit ih

section

variable {r : Deployment}

variable {call : Call} {id : Word} {s s' : State}

theorem step_payable (payable : s.Payable r)
    (taken : step r s call = .ok s') : s'.Payable r where
  custody := step_custody payable.custody taken
  settings := (step_settings taken).1 payable.settings
  deposits id := (step_turns payable.custody.sound taken id).deposit (payable.deposits id)

theorem run_payable (r : Deployment) (now : Nat) (calls : List Call) : (run r now calls).Payable r := by
  refine (machine r).run_invariant (fun _ _ _ payable taken => step_payable payable taken) ?_ calls
  exact ⟨(deployed_custody r now).1, ⟨show 200 ≤ 1000 by decide, rfl, rfl⟩,
    fun _ => show 0 < 2 ^ 128 by decide⟩

theorem State.Payable.later (payable : s.Payable r) (seconds : Nat) :
    State.Payable r { s with now := s.now + seconds } where
  custody := ⟨⟨payable.custody.sound.locked.elapse seconds, payable.custody.sound.unused⟩,
    payable.custody.sellers, payable.custody.covered⟩
  settings := ⟨payable.settings.fee, payable.settings.maxFee, payable.settings.grace⟩
  deposits := payable.deposits

def State.authFor (r : Deployment) (s : State) (id : Word) (amount : Nat)
    (metadata : List UInt8) : Signature :=
  ⟨(s.channel id).buyer, .spendingAuth id amount (r.keccak256 metadata)⟩

/-- The seller's `close` with an amount the buyer has signed. -/
def sellerClose (r : Deployment) (s : State) (ext : External) (id : Word) (amount : Nat)
    (metadata : List UInt8) : Tx Error State :=
  step r { s with signed := s.authFor r id amount metadata :: s.signed }
    ⟨(s.channel id).seller, ext, .close id amount metadata (s.authFor r id amount metadata)⟩

/-- The seller can close now: whatever amount up to the deposit the buyer has signed, and as
    long as the emissions contract answers, only a full counter stops it. -/
def CanClose (r : Deployment) (id : Word) (s : State) : Prop :=
  ∀ ext amount metadata reason, ext.emissions.getD true = true →
    (s.channel id).settled ≤ amount → amount ≤ (s.channel id).deposit →
    sellerClose r s ext id amount metadata = .error reason →
    reason = .overflow ∧ s.CounterFull ext id amount

theorem canClose_of_unpaused (payable : s.Payable r)
    (active : (s.channel id).status = .active) (unpaused : s.channels.paused = false) :
    CanClose r id s := by
  intro ext amount metadata reason answers above within reverted
  have opened : (s.channel id).status ≠ .none := by simp [active]
  have small := payable.deposits id
  have signedPayable : State.Payable r { s with signed := s.authFor r id amount metadata :: s.signed } :=
    ⟨⟨⟨payable.custody.sound.locked, payable.custody.sound.unused⟩, payable.custody.sellers,
        payable.custody.covered⟩,
      ⟨payable.settings.fee, payable.settings.maxFee, payable.settings.grace⟩, payable.deposits⟩
  suffices closes : Meets (sellerClose r s ext id amount metadata)
      (OnlyIf (s.CounterFull ext id amount)) fun _ => True from closes.reason reverted
  refine .passes (payable.custody.sellers id opened) ?_
  refine .bind (Q := fun _ => True) ?_ fun _ _ => ?_
  · exact .of_ok (decode_eq_ok.mpr (by omega) : decode 128 amount = .ok ()) trivial
  refine .passes unpaused ?_
  refine .passes active ?_
  refine .passes rfl ?_
  refine .passes above ?_
  refine .passes within ?_
  -- after the settlement the channel is active with the same ceiling, and no count moved
  refine .bind (Q := fun s' => s'.Locked ∧ (s'.channel id).status = .active ∧
    ∀ agent, (s'.channels.agentStats agent).channelCount =
      (s.channels.agentStats agent).channelCount) ?_ ?_
  · refine .ite (fun more => ?_) fun _ =>
      pure ⟨payable.custody.sound.locked, active, fun _ => rfl⟩
    have settles := State.settleSpend_succeeds ext signedPayable active answers
      List.mem_cons_self more within
    refine settles.strengthen fun s' returned counts => ?_
    obtain ⟨locked, -, active', -⟩ := (State.settleSpend_meets signedPayable.custody.sound.locked
      active more within).result returned
    exact ⟨locked, active', counts⟩
  · rintro s' ⟨locked, active', counts⟩
    refine .sub (locked.settled id) ?_
    refine (State.finish_succeeds locked active' rfl fun known limit => ?_).mono fun _ _ => trivial
    exact .inl ⟨known, .inr (counts _ ▸ limit)⟩

theorem not_canClose_of_paused (payable : s.Payable r)
    (opened : (s.channel id).status ≠ .none) (paused : s.channels.paused = true) :
    ¬ CanClose r id s := by
  intro possible
  have settled := payable.custody.sound.locked.settled id
  have stopped : Meets (sellerClose r s ⟨true, 0, none, 0⟩ id (s.channel id).settled [])
      (fun reason => reason ≠ .overflow) fun _ => False := by
    refine .passes (payable.custody.sellers id opened) ?_
    apply Meets.decode nofun
    intro _
    refine .require nofun fun unpaused => ?_
    rw [paused] at unpaused
    cases unpaused
  cases outcome : sellerClose r s ⟨true, 0, none, 0⟩ id (s.channel id).settled [] with
  | ok => exact stopped.result outcome
  | error reason =>
    exact stopped.reason outcome (possible _ _ _ reason rfl (Nat.le_refl _) settled outcome).1

theorem canClose_iff (payable : s.Payable r)
    (active : (s.channel id).status = .active) :
    CanClose r id s ↔ s.channels.paused = false := by
  refine ⟨fun possible => ?_, canClose_of_unpaused payable active⟩
  cases paused : s.channels.paused with
  | false => rfl
  | true => exact absurd possible (not_canClose_of_paused payable (by simp [active]) paused)

open Classical in
/-- The seconds a call lets pass in which a property of the state holds. -/
noncomputable def secondsOf (P : State → Prop) (s : State) (call : Call) : Nat :=
  ((Finset.range call.seconds).filter fun k => P { s with now := s.now + k }).card

/-- The seconds of a run in which a property of the state holds. -/
noncomputable def secondsWhile (r : Deployment) (P : State → Prop) (s : State)
    (calls : List Call) : Nat :=
  (machine r).tally (secondsOf P) s calls

theorem secondsOf_congr
    (same : ∀ k, P { s with now := s.now + k } ↔ Q { s with now := s.now + k }) (call : Call) :
    secondsOf P s call = secondsOf Q s call := by
  classical
  unfold secondsOf
  rw [Finset.filter_congr fun k _ => same k]

theorem secondsOf_true (s : State) (call : Call) : secondsOf (fun _ => True) s call = call.seconds := by
  simp [secondsOf]

theorem secondsOf_unpaused (s : State) (call : Call) :
    secondsOf (fun s => s.channels.paused = false) s call =
      if s.channels.paused = false then call.seconds else 0 := by
  unfold secondsOf
  by_cases paused : s.channels.paused = false <;> simp [paused]

theorem now_run (r : Deployment) (s : State) (calls : List Call) :
    ((machine r).run s calls).now = s.now + secondsWhile r (fun _ => True) s calls := by
  induction calls generalizing s with
  | nil => rfl
  | cons call calls ih =>
    rw [Machine.run_cons, ih]
    unfold secondsWhile
    cases taken : (machine r).step s call with
    | ok =>
      rw [(machine r).tally_accepted _ taken, (machine r).exec_eq_of_step taken,
        (step_settings taken).2, secondsOf_true, add_assoc]
    | error =>
      rw [(machine r).tally_rejected _ taken]
      simp [Machine.exec, taken]

/-- As long as a channel is going to be active, a second in which its seller can close is a
    second in which the contract is not paused. -/
theorem closable_eq_unpaused (payable : s.Payable r)
    (opened : (s.channel id).status ≠ .none) {calls : List Call}
    (active : (((machine r).run s calls).channel id).status = .active) :
    secondsWhile r (CanClose r id) s calls =
      secondsWhile r (fun s => s.channels.paused = false) s calls := by
  induction calls generalizing s with
  | nil => rfl
  | cons call calls ih =>
    have before := before_run (r := r) payable.custody.sound id (call :: calls)
    have activeNow : (s.channel id).status = .active := by
      cases status : (s.channel id).status with
      | active => rfl
      | none => exact absurd status opened
      | settled => rw [before.ended (.inl status), status] at active; cases active
      | timedOut => rw [before.ended (.inr status), status] at active; cases active
    have weights : secondsOf (CanClose r id) s call =
        secondsOf (fun s => s.channels.paused = false) s call :=
      secondsOf_congr (fun k => canClose_iff (payable.later k) activeNow) call
    rw [Machine.run_cons] at active
    unfold secondsWhile
    cases taken : (machine r).step s call with
    | ok =>
      rw [(machine r).exec_eq_of_step taken] at active
      have stays := Channel.Before.of_turns (step_turns payable.custody.sound taken id)
      have rest := ih (step_payable payable taken) (stays.parties opened).1 active
      unfold secondsWhile at rest
      rw [(machine r).tally_accepted _ taken, (machine r).tally_accepted _ taken, weights, rest]
    | error =>
      have skipped : (machine r).exec s call = s := by simp [Machine.exec, taken]
      rw [skipped] at active
      rw [(machine r).tally_rejected _ taken, (machine r).tally_rejected _ taken]
      exact ih payable opened active

theorem Turn.requestedAt {sender : Address} (turn : Turn now sender c c')
    (opened : c.status ≠ .none) (since : t ≤ now) (before : t ≤ c.closeRequestedAt) :
    t ≤ c'.closeRequestedAt := by
  cases turn with
  | opened _ _ _ fresh => exact absurd fresh opened
  | requested => exact since
  | spent | raised | finished => exact before

theorem Turns.requestedAt (turns : Turns now sender c c')
    (opened : c.status ≠ .none) (since : t ≤ now) (before : t ≤ c.closeRequestedAt) :
    c'.status ≠ .none ∧ t ≤ c'.closeRequestedAt := by
  induction turns with
  | refl => exact ⟨opened, before⟩
  | tail _ turn ih =>
    exact ⟨((Channel.Before.of_turn turn).parties ih.1).1, turn.requestedAt ih.1 since ih.2⟩

theorem requestedAt_run {t : Nat} (sound : s.Sound)
    (opened : (s.channel id).status ≠ .none) (since : t ≤ s.now)
    (before : t ≤ (s.channel id).closeRequestedAt) (calls : List Call) :
    t ≤ (((machine r).run s calls).channel id).closeRequestedAt := by
  have all := (machine r).run_invariant (I := fun s => s.Sound ∧ (s.channel id).status ≠ .none ∧
    t ≤ s.now ∧ t ≤ (s.channel id).closeRequestedAt) ?_ ⟨sound, opened, since, before⟩ calls
  · exact all.2.2.2
  · rintro s call s' ⟨sound, opened, since, before⟩ taken
    obtain ⟨still, after⟩ := (step_turns sound taken id).requestedAt opened since before
    have later := (step_settings taken).2
    exact ⟨step_sound sound taken, still, by omega, after⟩

end

/-- For every run with a close request and the withdrawal that follows it: the seller had the
    grace period to close in exactly if the contract was unpaused for that long between the
    two calls. That much time did pass, so it had it whenever no pause fell into it. -/
theorem seller_has_grace_iff (r : Deployment) (now : Nat) (before between : List Call) (id : Word)
    (request withdrawal : Call) (s₁ s₂ : State) (asks : request.op = .requestClose id)
    (requested : step r (run r now before) request = .ok s₁)
    (ends : withdrawal.op = .withdraw id)
    (withdrawn : step r ((machine r).run s₁ between) withdrawal = .ok s₂) :
    (s₂.channels.timeoutGracePeriod ≤ secondsWhile r (CanClose r id) s₁ between ↔
      s₂.channels.timeoutGracePeriod ≤ secondsWhile r (fun s => s.channels.paused = false) s₁ between) ∧
    s₂.channels.timeoutGracePeriod ≤ secondsWhile r (fun _ => True) s₁ between := by
  have payable₁ := step_payable (run_payable r now before) requested
  have payable := (machine r).run_invariant (I := State.Payable r)
    (fun _ _ _ payable taken => step_payable payable taken) payable₁ between
  have grace₂ := ((step_settings withdrawn).1 payable.settings).grace
  obtain ⟨sender, ext, op⟩ := request
  obtain ⟨sender', ext', op'⟩ := withdrawal
  subst asks
  subst ends
  -- what the withdrawal has checked
  obtain ⟨_, _, withdrawn⟩ := ran withdrawn
  obtain ⟨_, active, withdrawn⟩ := ran withdrawn
  obtain ⟨_, _, withdrawn⟩ := ran withdrawn
  obtain ⟨_, _, withdrawn⟩ := ran withdrawn
  obtain ⟨ready, sum, withdrawn⟩ := ran withdrawn
  obtain ⟨_, elapsed, -⟩ := ran withdrawn
  have active := require_eq_ok.mp active
  obtain ⟨-, rfl⟩ := uint_eq_ok.mp sum
  have elapsed := require_eq_ok.mp elapsed
  -- what the request has written
  have now₁ := (step_settings requested).2
  obtain ⟨_, _, requested⟩ := ran requested
  obtain ⟨_, active₀, requested⟩ := ran requested
  obtain ⟨_, _, requested⟩ := ran requested
  obtain ⟨_, _, requested⟩ := ran requested
  obtain ⟨_, _, requested⟩ := ran requested
  have active₀ := require_eq_ok.mp active₀
  have opened₁ : (s₁.channel id).status ≠ .none := by
    cases requested
    rw [State.setChannel_channel]
    simp [active₀]
  have at₁ : (s₁.channel id).closeRequestedAt = s₁.now := by
    cases requested
    rw [State.setChannel_channel]
    rfl
  have since := requestedAt_run (r := r) payable₁.custody.sound opened₁ (le_refl s₁.now)
    (le_of_eq at₁.symm) between
  have clock := now_run r s₁ between
  have grace := payable.settings.grace
  rw [closable_eq_unpaused payable₁ opened₁ active]
  exact ⟨Iff.rfl, by omega⟩

/-- The money of a channel is never stuck. In every state reached, the seller can close an active
    channel exactly while the contract is not paused. And once the grace period of a close request is
    over, a pause or not, the withdrawal of the buyer's operator goes through and frees all that is not
    settled, unless the counter of the seller's agent is full. -/
theorem channel_never_stuck (r : Deployment) (now : Nat) (calls : List Call) (id : Word) (ext : External)
    (operator : Address) (outside : operator ≠ r.deposits ∧ operator ≠ r.channels ∧ operator ≠ 0) :
    let s := run r now calls
    let c := s.channel id
    let stats := s.channels.agentStats ext.agentId
    c.status = .active →
    (CanClose r id s ↔ s.channels.paused = false) ∧
    (operator = (s.deposits.buyers c.buyer).operator → c.closeRequestedAt ≠ 0 → s.now < 2 ^ 256 →
      c.closeRequestedAt + s.channels.timeoutGracePeriod ≤ s.now →
      Meets (step r s ⟨operator, ext, .withdraw id⟩)
        (OnlyIf (ext.agentId ≠ 0 ∧
          2 ^ 64 ≤ (if c.settled = 0 then stats.ghostCount else stats.channelCount) + 1))
        fun s' => (s'.deposits.buyers c.buyer).reserved + (c.deposit - c.settled) =
          (s.deposits.buyers c.buyer).reserved) := by
  intro s c stats active
  have payable : s.Payable r := run_payable r now calls
  refine ⟨canClose_iff payable active, fun isOperator asked clock late => ?_⟩
  refine .passes outside ?_
  refine .passes active ?_
  refine .passes isOperator ?_
  refine .passes asked ?_
  refine .fits (Nat.lt_of_le_of_lt late clock) ?_
  refine .passes late ?_
  refine .sub (payable.custody.sound.locked.settled id) ?_
  refine State.finish_succeeds payable.custody.sound.locked active rfl fun known limit => ⟨known, ?_⟩
  simpa only [decide_eq_true_eq] using limit

/-- A pair of contracts whose channel ids are their salts. -/
def pair : Deployment where
  deposits := ⟨1⟩
  channels := ⟨2⟩
  owner := ⟨3⟩
  keccak256 _ := 0
  computeChannelId _ _ salt := salt

/-- A call by one of the accounts: 10 is the buyer, 11 the seller, 12 the buyer's operator. -/
def callBy (account : BitVec 160) (op : Operation) : Call :=
  ⟨⟨account⟩, ⟨true, 0, none, 0⟩, op⟩

/-- The buyer deposits 5 USDC, the seller opens channel 7 with 1 USDC, and the buyer signs
    for half of it. -/
def opening : List Call := [
  callBy 3 (.usdcMint ⟨10⟩ 5000000),
  callBy 10 (.usdcApprove ⟨1⟩ 5000000),
  callBy 10 (.deposit ⟨10⟩ 5000000),
  callBy 10 (.sign (.setOperator ⟨12⟩ 0)),
  callBy 12 (.setOperator ⟨10⟩ ⟨12⟩ 0 ⟨⟨10⟩, .setOperator ⟨12⟩ 0⟩),
  callBy 10 (.sign (.reserveAuth ⟨7⟩ 1000000 5000)),
  callBy 11 (.reserve ⟨10⟩ ⟨7⟩ 1000000 5000 ⟨⟨10⟩, .reserveAuth ⟨7⟩ 1000000 5000⟩),
  callBy 10 (.sign (.spendingAuth ⟨7⟩ 500000 0))]

def request : Call := callBy 12 (.requestClose ⟨7⟩)

def withdrawal : Call := callBy 12 (.withdraw ⟨7⟩)

theorem quiet_grace_suffices : ∃ s₁ s₂, step pair (run pair 1000 opening) request = .ok s₁ ∧
    step pair ((machine pair).run s₁ [callBy 3 (.elapse 900)]) withdrawal = .ok s₂ ∧
    s₂.channels.timeoutGracePeriod ≤
      secondsWhile pair (CanClose pair ⟨7⟩) s₁ [callBy 3 (.elapse 900)] := by
  refine ⟨_, _, rfl, rfl, ?_⟩
  have grace := seller_has_grace_iff pair 1000 opening [callBy 3 (.elapse 900)] ⟨7⟩ request
    withdrawal _ _ rfl rfl rfl rfl
  refine grace.1.mpr ?_
  unfold secondsWhile
  rw [(machine pair).tally_accepted _ rfl, secondsOf_unpaused]
  decide +kernel

/-- After the grace period the withdrawal frees the whole USDC that the channel has locked. -/
theorem operator_frees_the_rest :
    let s := run pair 1000 (opening ++ [request, callBy 3 (.elapse 900)])
    ∃ s', step pair s withdrawal = .ok s' ∧ (s'.deposits.buyers ⟨10⟩).reserved + 1000000 =
      (s.deposits.buyers ⟨10⟩).reserved := by
  have frees := channel_never_stuck pair 1000 (opening ++ [request, callBy 3 (.elapse 900)]) ⟨7⟩
    ⟨true, 0, none, 0⟩ ⟨12⟩ (by decide) (by decide +kernel)
  exact ⟨_, rfl, (frees.2 (by decide +kernel) (by decide +kernel) (by decide +kernel)
    (by decide +kernel)).result rfl⟩

/-- With a pause over the same time the seller cannot close in any of its seconds, and the
    operator withdraws all the same. -/
theorem paused_grace_is_lost : ∃ s₁ s₂, step pair (run pair 1000 opening) request = .ok s₁ ∧
    step pair ((machine pair).run s₁ [callBy 3 (.channelsSetting .pause), callBy 3 (.elapse 900)])
      withdrawal = .ok s₂ ∧
    ¬ s₂.channels.timeoutGracePeriod ≤ secondsWhile pair (CanClose pair ⟨7⟩) s₁
      [callBy 3 (.channelsSetting .pause), callBy 3 (.elapse 900)] := by
  refine ⟨_, _, rfl, rfl, ?_⟩
  have payable := step_payable (run_payable pair 1000 opening)
    (rfl : step pair (run pair 1000 opening) request = .ok _)
  rw [closable_eq_unpaused payable (by decide +kernel) (by decide +kernel)]
  unfold secondsWhile
  rw [(machine pair).tally_accepted _ rfl, secondsOf_unpaused, (machine pair).tally_accepted _ rfl,
    secondsOf_unpaused]
  decide +kernel

end AntSeed.Payments
