import AntSeed.Payments.Authorization
import AntSeed.Payments.GracePeriod
import AntSeed.Protocol.OneOffPlan

/-! # One-off plans on chain

A plan is carried out by a reserve, a top-up if the price is above the first reserve, and
a close. The amounts of the plan pass every guard of the contract, and a close before the
buyer has signed the price charges the fee at most.
-/

namespace AntSeed.Payments

open Evm Protocol
open Relation (ReflTransGen)

def AmountGuard : Revert Error → Prop
  | .custom .invalidAmount | .custom .firstSignCapExceeded | .custom .topUpAmountTooLow
  | .custom .topUpThresholdNotMet | .custom .finalAmountBelowSettled => True
  | _ => False

/-- A call returns, or reverts for a reason that is not about amounts. -/
def Passes {α : Type} (x : Tx Error α) : Prop := Meets x (fun reason => ¬ AmountGuard reason) fun _ => True

section Guards

variable {α β : Type} {r : Deployment} {s : State} {ext : External} {sender : Address} {channelId : Word}

theorem passes_ok : Passes (.ok a) := trivial

theorem Passes.bind {x : Tx Error α} {f : α → Tx Error β} (first : Passes x)
    (rest : ∀ a, x = .ok a → Passes (f a)) : Passes (x >>= f) :=
  Meets.bind (first.strengthen fun _ returned _ => returned) rest

theorem passes_require {c : Prop} [Decidable c] (other : ¬ AmountGuard (.custom error)) :
    Passes (require c error) := by
  unfold require
  split
  · trivial
  · exact other

theorem passes_held {c : Prop} [Decidable c] (held : c) : Passes (require c error) := by
  rw [require, if_pos held]
  trivial

theorem passes_uint : Passes (uint bits n) := by
  unfold uint
  split
  · trivial
  · exact id

theorem passes_sub : Passes (sub a b) := by
  unfold sub
  split
  · trivial
  · exact id

theorem passes_decode : Passes (decode bits n) := by
  unfold decode
  split
  · trivial
  · exact id

theorem passes_external {succeeds : Bool} : Passes (external succeeds) := by
  cases succeeds with
  | true => trivial
  | false => exact id

theorem passes_ite {c : Prop} [Decidable c] {x y : Tx Error α} (yes : c → Passes x) (no : ¬ c → Passes y) :
    Passes (if c then x else y) :=
  Meets.ite yes no

theorem passes_verifySignature : Passes (Deposits.verifySignature signed message signature signer) :=
  passes_require id

variable {amount : Nat} {buyer : Address} {d : Deposits} {metadata : List UInt8} {sig : Signature}

theorem passes_lockForChannel : Passes (d.lockForChannel r now sender buyer amount) := by
  refine (passes_require id).bind fun _ _ => passes_sub.bind fun _ _ => (passes_require id).bind fun _ _ => ?_
  exact passes_uint.bind fun _ _ => passes_ok

theorem passes_releaseLock : Passes (d.releaseLock r sender buyer amount) :=
  (passes_require id).bind fun _ _ => passes_sub.bind fun _ _ => passes_ok

theorem passes_payout :
    Passes (Deposits.payout r usdc target amount) :=
  passes_ite (fun _ => Erc20.transfer_meets fun _ => id) fun _ => passes_ok

theorem passes_recordPair : Passes (d.recordPair buyer seller) :=
  passes_ite (fun _ => passes_ok) fun _ => passes_uint.bind fun _ _ => passes_ok

theorem passes_chargeAndCreditPayouts
    (fee : platformFee ≤ amount) :
    Passes (d.chargeAndCreditPayouts r usdc now protocolReserve sender buyer seller amount platformFee) := by
  refine (passes_require id).bind fun _ _ => (passes_held fee).bind fun _ _ => ?_
  refine passes_sub.bind fun _ _ => passes_sub.bind fun _ _ => passes_sub.bind fun _ _ => ?_
  refine passes_recordPair.bind fun _ _ => passes_payout.bind fun _ _ => passes_payout.bind fun _ _ => ?_
  exact passes_ok

theorem passes_recordVolume : Passes (s.recordVolume ext delta) :=
  passes_ite (fun _ => passes_ok) fun _ => passes_uint.bind fun _ _ => passes_ok

theorem passes_recordFinish : Passes (s.recordFinish ext ghost) :=
  passes_ite (fun _ => passes_ok) fun _ => passes_ite (fun _ => passes_uint.bind fun _ _ => passes_ok)
    fun _ => passes_uint.bind fun _ _ => passes_ok

theorem passes_settleSpend (settings : s.Settings) :
    Passes (s.settleSpend r ext channelId amount metadata sig) := by
  refine passes_verifySignature.bind fun _ _ => passes_sub.bind fun delta _ => ?_
  refine passes_ite (fun _ => passes_ok) fun _ => passes_uint.bind fun product computed => ?_
  obtain ⟨-, rfl⟩ := uint_eq_ok.mp computed
  have share := Nat.mul_le_mul_left delta (settings.fee.trans (by decide : 1000 ≤ 10000))
  refine passes_recordVolume.bind fun _ _ => passes_external.bind fun _ _ => ?_
  refine (passes_chargeAndCreditPayouts ?_).bind fun _ _ => passes_ok
  omega

theorem passes_finish :
    Passes (s.finish r ext channelId status ghost remaining) := by
  refine passes_sub.bind fun _ _ => passes_recordFinish.bind fun _ _ => ?_
  exact passes_ite (fun _ => passes_releaseLock.bind fun _ _ => passes_ok) fun _ => passes_ok

theorem passes_reserve (some_ : maxAmount ≠ 0)
    (capped : maxAmount ≤ s.channels.firstSignCap) :
    Passes (s.reserve r ext sender buyer salt maxAmount deadline sig) := by
  refine passes_decode.bind fun _ _ => (passes_require id).bind fun _ _ => ?_
  refine (passes_require id).bind fun _ _ => (passes_require id).bind fun _ _ => ?_
  refine (passes_held some_).bind fun _ _ => (passes_require id).bind fun _ _ => ?_
  refine (passes_held capped).bind fun _ _ => passes_verifySignature.bind fun _ _ => ?_
  exact passes_uint.bind fun _ _ => passes_lockForChannel.bind fun _ _ => passes_ok

theorem passes_topUp (settings : s.Settings)
    (above : (s.channel channelId).settled < amount)
    (within : amount ≤ (s.channel channelId).deposit)
    (higher : (s.channel channelId).deposit < newMaxAmount)
    (share : (s.channel channelId).deposit * s.channels.topUpSettledThresholdBps / 10000 ≤ amount) :
    Passes (s.topUp r ext sender channelId amount metadata spendingSig newMaxAmount deadline reserveSig) := by
  refine passes_decode.bind fun _ _ => passes_decode.bind fun _ _ => (passes_require id).bind fun _ _ => ?_
  refine (passes_require id).bind fun _ _ => (passes_require id).bind fun _ _ => ?_
  refine (passes_require id).bind fun _ _ => (passes_require id).bind fun _ _ => ?_
  refine (passes_held higher).bind fun _ _ => ?_
  rw [if_pos above]
  refine ((passes_held within).bind fun _ _ => passes_settleSpend settings).bind fun s' settles => ?_
  obtain ⟨_, _, settles⟩ := ran settles
  have written := (State.settleSpend_channel above).result settles
  obtain ⟨-, _, _, _, same⟩ := State.settleSpend_settings.result settles
  have threshold : s'.channels.topUpSettledThresholdBps = s.channels.topUpSettledThresholdBps := by
    rw [same]
  refine passes_uint.bind fun scaled computed => ?_
  obtain ⟨-, rfl⟩ := uint_eq_ok.mp computed
  rw [written, threshold]
  refine (passes_held share).bind fun _ _ => passes_verifySignature.bind fun _ _ => ?_
  exact passes_sub.bind fun _ _ => passes_lockForChannel.bind fun _ _ => passes_ok

theorem passes_close (settings : s.Settings) (above : (s.channel channelId).settled ≤ amount)
    (within : amount ≤ (s.channel channelId).deposit) :
    Passes (s.close r ext sender channelId amount metadata sig) := by
  refine passes_decode.bind fun _ _ => (passes_require id).bind fun _ _ => ?_
  refine (passes_require id).bind fun _ _ => (passes_require id).bind fun _ _ => ?_
  refine (passes_held above).bind fun _ _ => (passes_held within).bind fun _ _ => ?_
  refine (passes_ite (fun _ => passes_settleSpend settings) fun _ => passes_ok).bind fun _ _ => ?_
  exact passes_sub.bind fun _ _ => passes_finish

end Guards

/-- Whose channel it is. -/
structure Parties where
  seller : Address
  buyer : Address
  salt : Word

def Parties.channelId (r : Deployment) (parties : Parties) : Word :=
  r.computeChannelId parties.buyer parties.seller parties.salt

inductive Stage where
  | planned | opened | raised
  deriving DecidableEq, Repr

/-- The plan carried out as far as a stage. In between, anybody may do anything but the seller on this
    channel, and the two settings stay. -/
inductive Carried (r : Deployment) (parties : Parties) (plan : OneOffChannelPlan) (s : State) :
    Stage → State → Prop where
  | start : Carried r parties plan s .planned s
  | between {stage s' s'' call} : Carried r parties plan s stage s' → step r s' call = .ok s'' →
      (call.sender = parties.seller → call.channelId r ≠ some (parties.channelId r)) →
      s''.channels.firstSignCap = s'.channels.firstSignCap →
      s''.channels.topUpSettledThresholdBps = s'.channels.topUpSettledThresholdBps →
      Carried r parties plan s stage s''
  | reserve {s' s'' ext deadline sig} : Carried r parties plan s .planned s' →
      step r s' ⟨parties.seller, ext,
        .reserve parties.buyer parties.salt plan.openingReserveAmount deadline sig⟩ = .ok s'' →
      Carried r parties plan s .opened s''
  | topUp {s' s'' ext metadata spendingSig deadline reserveSig} : Carried r parties plan s .opened s' →
      0 < plan.requiredCumulativeAmount →
      step r s' ⟨parties.seller, ext, .topUp (parties.channelId r) plan.requiredCumulativeAmount metadata
        spendingSig plan.requestCost deadline reserveSig⟩ = .ok s'' →
      Carried r parties plan s .raised s''

/-- A channel of the two parties that holds and has charged certain amounts. -/
structure Channel.Stands (c : Channel) (parties : Parties) (deposit settled : Nat) : Prop where
  opened : c.status ≠ .none
  seller : c.seller = parties.seller
  buyer : c.buyer = parties.buyer
  deposit : c.deposit = deposit
  settled : c.settled = settled

def Stage.Holds (parties : Parties) (plan : OneOffChannelPlan) : Stage → Channel → Prop
  | .planned, _ => True
  | .opened, c => c.Stands parties plan.openingReserveAmount 0
  | .raised, c => c.Stands parties plan.requestCost plan.requiredCumulativeAmount

section Carrying

variable {r : Deployment} {parties : Parties} {plan : OneOffChannelPlan} {s s' s'' : State} {stage : Stage}
  {ext : External} {deposit settled amount deadline : Nat} {sig : Signature} {c c' : Channel}

variable {sender : Address} {metadata : List UInt8}

section

variable (stands : c.Stands parties deposit settled) (other : sender ≠ parties.seller)

include stands other

theorem Channel.Stands.of_turn
    (turn : Turn now sender c c') :
    c'.Stands parties deposit settled := by
  cases turn with
  | opened _ _ _ fresh => exact absurd fresh stands.opened
  | spent _ _ _ mine => exact absurd (mine.trans stands.seller) other
  | raised _ _ _ mine => exact absurd (mine.trans stands.seller) other
  | requested => exact ⟨stands.opened, stands.seller, stands.buyer, stands.deposit, stands.settled⟩
  | finished status _ ends =>
    refine ⟨?_, stands.seller, stands.buyer, stands.deposit, stands.settled⟩
    cases ends with
    | inl same => simp [same]
    | inr same => simp [same]

theorem Channel.Stands.of_turns
    (turns : Turns now sender c c') :
    c'.Stands parties deposit settled := by
  induction turns with
  | refl => exact stands
  | tail _ turn ih => exact ih.of_turn other turn

end

theorem stands_between (sound : s'.Sound) (taken : step r s' call = .ok s'')
    (apart : call.sender = parties.seller → call.channelId r ≠ some (parties.channelId r))
    (stands : (s'.channel (parties.channelId r)).Stands parties deposit settled) :
    (s''.channel (parties.channelId r)).Stands parties deposit settled := by
  by_cases own : call.sender = parties.seller
  · have same : s''.channel (parties.channelId r) = s'.channel (parties.channelId r) := by
      have effect := ((step_meets sound call).result taken).2
      unfold Effect at effect
      split at effect
      next x about =>
        obtain ⟨spent, moved⟩ := effect
        exact moved.others _ fun same => apart own (same ▸ about)
      · exact congrFun effect.1 _
    rw [same]
    exact stands
  · exact stands.of_turns own (step_turns sound taken _)

theorem stands_reserve (taken : step r s' ⟨parties.seller, ext,
      .reserve parties.buyer parties.salt amount deadline sig⟩ = .ok s'') :
    (s''.channel (parties.channelId r)).Stands parties amount 0 := by
  obtain ⟨_, _, taken⟩ := ran taken
  iterate 9 obtain ⟨_, _, taken⟩ := ran taken
  obtain ⟨_, _, taken⟩ := ran taken
  cases taken
  constructor <;> simp [State.channel, State.setChannel, State.setActiveCount, Parties.channelId]

theorem stands_topUp
    (stands : (s'.channel (parties.channelId r)).Stands parties deposit 0) (above : 0 < amount)
    (taken : step r s' ⟨parties.seller, ext, .topUp (parties.channelId r) amount metadata spendingSig
      newMaxAmount deadline reserveSig⟩ = .ok s'') :
    (s''.channel (parties.channelId r)).Stands parties newMaxAmount amount := by
  obtain ⟨_, _, taken⟩ := ran taken
  iterate 8 obtain ⟨_, _, taken⟩ := ran taken
  rw [if_pos (by rw [stands.settled]; exact above)] at taken
  obtain ⟨between, settles, taken⟩ := ran taken
  obtain ⟨_, _, settles⟩ := ran settles
  have written := (State.settleSpend_channel (by rw [stands.settled]; exact above)).result settles
  iterate 5 obtain ⟨_, _, taken⟩ := ran taken
  cases taken
  rw [State.setChannel_channel, written]
  exact ⟨stands.opened, stands.seller, stands.buyer, rfl, rfl⟩

structure Underway (r : Deployment) (parties : Parties) (plan : OneOffChannelPlan) (s : State)
    (stage : Stage) (s' : State) : Prop where
  payable : s'.Payable r
  authorized : Authorized s'
  cap : s'.channels.firstSignCap = s.channels.firstSignCap
  threshold : s'.channels.topUpSettledThresholdBps = s.channels.topUpSettledThresholdBps
  holds : stage.Holds parties plan (s'.channel (parties.channelId r))

theorem Underway.step {call : Call} (underway : Underway r parties plan s stage s')
    (taken : step r s' call = .ok s'') (cap : s''.channels.firstSignCap = s'.channels.firstSignCap)
    (threshold : s''.channels.topUpSettledThresholdBps = s'.channels.topUpSettledThresholdBps)
    {next : Stage} (holds : next.Holds parties plan (s''.channel (parties.channelId r))) :
    Underway r parties plan s next s'' where
  payable := step_payable underway.payable taken
  authorized := step_authorized underway.payable.custody.sound underway.authorized taken
  cap := cap.trans underway.cap
  threshold := threshold.trans underway.threshold
  holds := holds

theorem Carried.underway (payable : s.Payable r) (authorized : Authorized s)
    (carried : Carried r parties plan s stage s') : Underway r parties plan s stage s' := by
  induction carried with
  | start => exact ⟨payable, authorized, rfl, rfl, trivial⟩
  | @between stage s' s'' call _ taken apart cap threshold ih =>
    refine ih.step taken cap threshold ?_
    cases stage with
    | planned => trivial
    | opened | raised => exact stands_between ih.payable.custody.sound taken apart ih.holds
  | reserve _ taken ih =>
    obtain ⟨_, _, returned⟩ := ran taken
    obtain ⟨-, _, _, _, same⟩ := State.reserve_settings.result returned
    exact ih.step taken (by rw [same]) (by rw [same]) (stands_reserve taken)
  | topUp _ above taken ih =>
    obtain ⟨_, _, returned⟩ := ran taken
    obtain ⟨-, _, _, _, same⟩ := State.topUp_settings.result returned
    exact ih.step taken (by rw [same]) (by rw [same]) (stands_topUp ih.holds above taken)

theorem Underway.charges (underway : Underway r parties plan s stage s')
    (started : stage ≠ .planned)
    (signed : ∀ amount hash, ⟨parties.buyer, .spendingAuth (parties.channelId r) amount hash⟩ ∈ s'.signed →
      amount ≤ most) (taken : AntSeed.Payments.step r s' ⟨parties.seller, ext,
      .close (parties.channelId r) final metadata sig⟩ = .ok s'') :
    (s''.channel (parties.channelId r)).settled ≤ most := by
  have stands : (s'.channel (parties.channelId r)).status ≠ .none ∧
      (s'.channel (parties.channelId r)).buyer = parties.buyer := by
    have holds := underway.holds
    cases stage with
    | planned => exact absurd rfl started
    | opened | raised => exact ⟨holds.opened, holds.buyer⟩
  have sound := underway.payable.custody.sound
  obtain ⟨spent, moved⟩ := ((step_meets sound _).result taken).2
  have authorized := step_authorized sound underway.authorized taken
  by_cases nothing : (s''.channel (parties.channelId r)).settled = 0
  · omega
  · obtain ⟨hash, member⟩ := authorized.spending _ nothing
    rw [moved.buyer stands.1, stands.2, moved.signed] at member
    exact signed _ hash member

end Carrying

/-- For every price the plan's amounts pass the guards of each call it makes, all of them are within the
    price, and until the buyer signs more than the fee a close charges no more than the fee. -/
theorem oneOffPlan_passes_guards (r : Deployment) (now : Nat) (before : List Call) (parties : Parties)
    (price : Nat) (plan : OneOffChannelPlan) (stage : Stage) (s : State) (someCost : 0 < price)
    (someCap : 0 < (run r now before).channels.firstSignCap)
    (someShare : 0 < (run r now before).channels.topUpSettledThresholdBps)
    (share : (run r now before).channels.topUpSettledThresholdBps ≤ 10000)
    (planned : plan = computeOneOffChannelPlan price (run r now before).channels.firstSignCap
      (run r now before).channels.topUpSettledThresholdBps)
    (carried : Carried r parties plan (run r now before) stage s) :
    (plan.openingReserveAmount ≤ price ∧ plan.requiredCumulativeAmount ≤ price ∧ plan.requestCost = price) ∧
    (stage = .planned → ∀ ext deadline sig, Passes (step r s ⟨parties.seller, ext,
      .reserve parties.buyer parties.salt plan.openingReserveAmount deadline sig⟩)) ∧
    (stage = .opened → 0 < plan.requiredCumulativeAmount → ∀ ext metadata spendingSig deadline reserveSig,
      Passes (step r s ⟨parties.seller, ext, .topUp (parties.channelId r) plan.requiredCumulativeAmount
        metadata spendingSig plan.requestCost deadline reserveSig⟩)) ∧
    (stage = .opened ∧ plan.requiredCumulativeAmount = 0 ∨ stage = .raised → ∀ ext metadata sig,
      Passes (step r s ⟨parties.seller, ext, .close (parties.channelId r) price metadata sig⟩)) ∧
    (stage ≠ .planned →
      (∀ amount hash, ⟨parties.buyer, .spendingAuth (parties.channelId r) amount hash⟩ ∈ s.signed →
        amount ≤ plan.requiredCumulativeAmount) →
      ∀ ext final metadata sig s', step r s ⟨parties.seller, ext,
        .close (parties.channelId r) final metadata sig⟩ = .ok s' →
          (s'.channel (parties.channelId r)).settled ≤ plan.requiredCumulativeAmount) := by
  have underway := carried.underway (run_payable r now before) (run_authorized r now before)
  have cap := underway.cap
  have threshold := underway.threshold
  have holds := underway.holds
  have settings := underway.payable.settings
  have opening := @opening_eq_min price (run r now before).channels.firstSignCap
    (run r now before).channels.topUpSettledThresholdBps
  have fee := @required_le_opening price (run r now before).channels.firstSignCap _ share
  have needed := @required_pos_iff price _ _ someCap someShare
  have cost : plan.requestCost = price := by rw [planned]; rfl
  rw [← planned] at opening fee needed
  refine ⟨⟨by omega, by omega, cost⟩, ?_, ?_, ?_, ?_⟩
  · rintro - ext deadline sig
    exact (passes_require id).bind fun _ _ => passes_reserve (by omega) (by omega)
  · rintro rfl above ext metadata spendingSig deadline reserveSig
    have enough := @threshold_le_required price _ (run r now before).channels.topUpSettledThresholdBps
      (needed.mp above)
    rw [← planned, ← min_eq_right (Nat.le_of_lt (needed.mp above)), ← opening] at enough
    refine (passes_require id).bind fun _ _ => passes_topUp settings ?_ ?_ ?_ ?_
    · rw [holds.settled]; exact above
    · rw [holds.deposit]; exact fee
    · rw [holds.deposit, cost, opening]; exact min_lt_of_right_lt (needed.mp above)
    · rw [holds.deposit, threshold]; exact enough
  · intro last ext metadata sig
    have stands : (s.channel (parties.channelId r)).settled ≤ price ∧
        price ≤ (s.channel (parties.channelId r)).deposit := by
      cases last with
      | inl unraised =>
        obtain ⟨rfl, none_⟩ := unraised
        rw [holds.settled, holds.deposit]
        omega
      | inr raised =>
        cases raised
        rw [holds.settled, holds.deposit, cost]
        omega
    exact (passes_require id).bind fun _ _ => passes_close settings stands.1 stands.2
  · intro started signed ext final metadata sig s' taken
    exact underway.charges started signed taken

/-- The buyer deposits 5 USDC and signs for a request that costs 2 of them. -/
def videoRequest : List Call := [
  callBy 3 (.usdcMint ⟨10⟩ 5000000),
  callBy 10 (.usdcApprove ⟨1⟩ 5000000),
  callBy 10 (.deposit ⟨10⟩ 5000000),
  callBy 10 (.sign (.reserveAuth ⟨7⟩ 1000000 5000)),
  callBy 10 (.sign (.spendingAuth ⟨7⟩ 850000 0)),
  callBy 10 (.sign (.reserveAuth ⟨7⟩ 2000000 5000))]

def videoParties : Parties := ⟨⟨11⟩, ⟨10⟩, ⟨7⟩⟩

theorem oneOffPlan_passes_guards_video : ∃ s,
    Carried pair videoParties ⟨1000000, 850000, 2000000⟩ (run pair 1000 videoRequest) .raised s ∧
      ∀ ext metadata sig, Passes (step pair s ⟨⟨11⟩, ext, .close ⟨7⟩ 2000000 metadata sig⟩) := by
  have carried : Carried pair videoParties ⟨1000000, 850000, 2000000⟩ (run pair 1000 videoRequest) .raised _ :=
    .topUp (.reserve .start
      (rfl : step pair (run pair 1000 videoRequest) ⟨⟨11⟩, ⟨true, 0, none, 0⟩,
        .reserve ⟨10⟩ ⟨7⟩ 1000000 5000 ⟨⟨10⟩, .reserveAuth ⟨7⟩ 1000000 5000⟩⟩ = .ok _)) (by decide)
      (rfl : step pair _ ⟨⟨11⟩, ⟨true, 0, none, 0⟩, .topUp ⟨7⟩ 850000 [] ⟨⟨10⟩, .spendingAuth ⟨7⟩ 850000 0⟩
        2000000 5000 ⟨⟨10⟩, .reserveAuth ⟨7⟩ 2000000 5000⟩⟩ = .ok _)
  exact ⟨_, carried, (oneOffPlan_passes_guards pair 1000 videoRequest videoParties 2000000 _ _ _ (by decide)
    (by decide) (by decide) (by decide) rfl carried).2.2.2.1 (.inr rfl)⟩

end AntSeed.Payments
