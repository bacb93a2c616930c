import AntSeed.Payments.GracePeriod
import AntSeed.Seller.SellerPaymentManager

/-! # What a seller may expect of the contracts

Two answers of the chain are not taken as arbitrary. That a reserve went through
means that the buyer signed it for the id its salt gives, and an open channel
carries the parties its id was made from. Both hold in every run of the
contracts, so no answer they can give is left out.
-/

namespace AntSeed.Payments

open Evm
open Meets

namespace State

variable {r : Deployment} {s : State} {ext : External} {sender : Address} {id : Word}

theorem meets_anything {α : Type} {x : Tx Error α} {P : Prop} (holds : P) :
    Meets x Anything fun _ => P := by
  cases x with
  | ok => exact holds
  | error => exact trivial

variable {sig : Signature} {amount : Nat} {metadata : List UInt8}

theorem reserve_opens :
    Meets (s.reserve r ext sender buyer salt maxAmount deadline sig) Anything fun s' =>
      maxAmount < 2 ^ 128 ∧
      sig = ⟨buyer, .reserveAuth (r.computeChannelId buyer sender salt) maxAmount deadline⟩ ∧
      (s'.channel (r.computeChannelId buyer sender salt)).buyer = buyer ∧
      (s'.channel (r.computeChannelId buyer sender salt)).seller = sender := by
  apply decode trivial
  intro fits
  apply check trivial
  apply check trivial
  apply check trivial
  apply check trivial
  apply check trivial
  apply check trivial
  apply require trivial
  intro signed
  apply uint trivial
  intro _
  refine .bind (meets_anything trivial) fun deposits _ => pure ⟨fits, ?_, ?_, ?_⟩
  · exact congrArg₂ Signature.mk signed.2.2 signed.2.1
  · simp [channel, setChannel, setActiveCount]
  · simp [channel, setChannel, setActiveCount]

theorem topUp_active {newMaxAmount deadline : Nat} {reserveSig : Signature} :
    Meets (s.topUp r ext sender id amount metadata spendingSig newMaxAmount deadline reserveSig)
      Anything fun _ => (s.channel id).status = .active := by
  apply decode trivial
  intro _
  apply decode trivial
  intro _
  apply check trivial
  apply require trivial
  intro active
  exact meets_anything active

theorem settle_active :
    Meets (s.settle r ext sender id amount metadata sig) Anything fun _ =>
      (s.channel id).status = .active := by
  apply decode trivial
  intro _
  apply check trivial
  apply require trivial
  intro active
  exact meets_anything active

theorem close_active :
    Meets (s.close r ext sender id amount metadata sig) Anything fun _ =>
      (s.channel id).status = .active := by
  apply decode trivial
  intro _
  apply check trivial
  apply require trivial
  intro active
  exact meets_anything active

theorem requestClose_active :
    Meets (s.requestClose sender id) Anything fun _ => (s.channel id).status = .active :=
  require trivial fun active => meets_anything active

theorem withdraw_active :
    Meets (s.withdraw r ext sender id) Anything fun _ => (s.channel id).status = .active :=
  require trivial fun active => meets_anything active

end State

def Named (r : Deployment) (s : State) : Prop :=
  ∀ id, (s.channel id).status ≠ .none →
    ∃ salt, r.computeChannelId (s.channel id).buyer (s.channel id).seller salt = id

theorem step_opens (sound : s.Sound)
    (taken : step r s call = .ok s') {id : Word} (fresh : (s.channel id).status = .none)
    (opened : (s'.channel id).status ≠ .none) :
    ∃ salt, r.computeChannelId (s'.channel id).buyer (s'.channel id).seller salt = id := by
  have effect := ((step_meets sound call).result taken).2
  unfold Effect at effect
  split at effect
  next x about =>
    obtain ⟨spent, moved⟩ := effect
    by_cases h : id = x
    · subst h
      have inactive : (s.channel id).status ≠ .active := by simp [fresh]
      obtain ⟨-, -, taken⟩ := ran taken
      obtain ⟨sender, ext, op⟩ := call
      cases op with
      | reserve buyer salt =>
        cases about
        obtain ⟨-, -, isBuyer, isSeller⟩ := State.reserve_opens.result taken
        exact ⟨salt, by rw [isBuyer, isSeller]⟩
      | topUp =>
        cases about
        exact absurd (State.topUp_active.result taken) inactive
      | settle =>
        cases about
        exact absurd (State.settle_active.result taken) inactive
      | close =>
        cases about
        exact absurd (State.close_active.result taken) inactive
      | requestClose =>
        cases about
        exact absurd (State.requestClose_active.result taken) inactive
      | withdraw =>
        cases about
        exact absurd (State.withdraw_active.result taken) inactive
      | _ => cases about
    · rw [moved.others id h] at opened
      exact absurd fresh opened
  · have same : s'.channel id = s.channel id := congrFun effect.1 id
    rw [same] at opened
    exact absurd fresh opened

theorem step_named {r : Deployment} {s s' : State} {call : Call} (sound : s.Sound)
    (named : Named r s) (taken : step r s call = .ok s') : Named r s' := by
  intro id opened
  by_cases fresh : (s.channel id).status = .none
  · exact step_opens sound taken fresh opened
  · obtain ⟨-, buyer, seller⟩ := (Channel.Before.of_turns (step_turns sound taken id)).parties fresh
    rw [buyer, seller]
    exact named id fresh

theorem run_named (r : Deployment) (now : Nat) (calls : List Call) : Named r (run r now calls) := by
  have both : (run r now calls).Sound ∧ Named r (run r now calls) := by
    refine (machine r).run_invariant (I := fun s => s.Sound ∧ Named r s)
      (fun s call s' known taken => ?_) ⟨run_sound r now [], ?_⟩ calls
    · exact ⟨step_sound known.1 taken, step_named known.1 known.2 taken⟩
    · intro id opened
      exact absurd rfl opened
  exact both.2

/-- The id of a channel is made from its buyer and its seller, and they stay the same in every later
    state, whatever is called. -/
theorem ids_name_their_parties (r : Deployment) (now : Nat) (calls later : List Call) (id : Word)
    (opened : ((run r now calls).channel id).status ≠ .none) :
    let c := (run r now calls).channel id
    let c' := ((machine r).run (run r now calls) later).channel id
    c'.buyer = c.buyer ∧ c'.seller = c.seller ∧ ∃ salt, r.computeChannelId c.buyer c.seller salt = id := by
  intro c c'
  obtain ⟨-, buyer, seller⟩ := (before_run (run_sound r now calls) id later).parties opened
  exact ⟨buyer, seller, run_named r now calls id opened⟩

theorem opening_names_its_parties : let c := (run pair 1000 opening).channel ⟨7⟩
    c.status = .active ∧ ∃ salt, pair.computeChannelId c.buyer c.seller salt = ⟨7⟩ := by
  have opened : ((run pair 1000 opening).channel ⟨7⟩).status = .active := by decide +kernel
  obtain ⟨-, -, named⟩ := ids_name_their_parties pair 1000 opening [request] ⟨7⟩ (by rw [opened]; decide)
  exact ⟨opened, named⟩

end AntSeed.Payments

namespace AntSeed.Seller

open Evm
open AntSeed.Payments (Signature)

variable {node : Node}

theorem toUint_natCast {bits value : Nat} (small : value < 2 ^ bits) :
    toUint bits value = some value := by
  have below : (value : Int) < 2 ^ bits := by exact_mod_cast small
  rw [toUint, if_pos ⟨Int.natCast_nonneg value, below⟩, Int.toNat_natCast]

theorem storedAt_run (now : Nat) (calls : List Payments.Call) (id : Word) :
    ∃ reply : Reply, reply.error = none ∧
      storedAt node id reply = (Payments.run node.chain now calls).channel id := by
  have named := Payments.run_named node.chain now calls id
  by_cases opened : ((Payments.run node.chain now calls).channel id).status = .none
  · refine ⟨{ channel := (Payments.run node.chain now calls).channel id }, rfl, ?_⟩
    simp [storedAt, opened]
  · obtain ⟨salt, made⟩ := named opened
    refine ⟨{ channel := (Payments.run node.chain now calls).channel id, salt := salt }, rfl, ?_⟩
    simp [storedAt, made]

theorem isSigned_of_reserve {s s' : Payments.State} {ext : Payments.External} {buyer : Address}
    {salt : Word} {maxAmount deadline : Nat} {sig : Signature} {oneOffRequestId : Option String}
    (fits : deadline < 2 ^ 256)
    (taken : s.reserve node.chain ext node.seller buyer salt maxAmount deadline sig = .ok s') :
    ReserveTx.isSigned node
      ⟨buyer, .ofWord salt, maxAmount, deadline, some sig, oneOffRequestId⟩ = true := by
  obtain ⟨small, rfl, -⟩ := Payments.State.reserve_opens.result taken
  simp [ReserveTx.isSigned, reserveAuthMessage, verifyTypedData, toUint_natCast small,
    toUint_natCast fits]

end AntSeed.Seller
