import AntSeed.Emissions.ShareHistory

/-! # Controllers and minters

The gate keeps the controller of every minter and, the other way round, the
minter of every controller. The two mappings are inverse to each other, so an
address that was replaced can claim nothing more, and its successor is charged
where it was. A removed minter stays with its controller: the share it had in the
epochs up to its removal can still be claimed, and it has none in later epochs.
-/

namespace AntSeed.Emissions

open Evm Function
open Gate

/-- A call that makes the address a controller. -/
def GateOperation.Registers (account : Address) : GateOperation → Prop
  | .setMinter _ controller _ _ => controller = account
  | .setMinterController _ controller => controller = account
  | _ => False

/-- A call that gives the minter a share. -/
def GateOperation.Restores (id : Word) : GateOperation → Prop
  | .setMinter q _ _ _ => q = id
  | _ => False

namespace Gate

/-- The two mappings are inverse to each other. -/
structure Indexed (g : Gate) : Prop where
  unnamed : (g.minters 0).controller = 0
  nobody : g.controllerMinterIds 0 = 0
  agree : ∀ account id, account ≠ 0 → id ≠ 0 →
    (g.controllerMinterIds account = id ↔ (g.minters id).controller = account)

/-- What a call does to both of them: nothing, or it puts an address in charge of a minter. -/
inductive Rewires (op : GateOperation) (g g' : Gate) : Prop where
  | not (controllers : ∀ q, (g'.minters q).controller = (g.minters q).controller)
      (ids : g'.controllerMinterIds = g.controllerMinterIds)
  | assigned (id : Word) (controller : Address) (registers : op.Registers controller)
      (named : id ≠ 0) (nonzero : controller ≠ 0)
      (free : g.controllerMinterIds controller = 0 ∨ g.controllerMinterIds controller = id)
      (controllers : ∀ q, (g'.minters q).controller =
        if q = id then controller else (g.minters q).controller)
      (ids : ∀ a, g'.controllerMinterIds a = if a = controller then id
        else if a = (g.minters id).controller ∧ a ≠ 0 then 0 else g.controllerMinterIds a)

variable {op : GateOperation} {g g' : Gate}

theorem Indexed.iff (h : Indexed g) (account : Address) (id : Word) :
    (g.controllerMinterIds account = id ∧ id ≠ 0) ↔
      ((g.minters id).controller = account ∧ account ≠ 0) := by
  constructor
  · rintro ⟨isId, named⟩
    have some : account ≠ 0 := by
      rintro rfl
      exact named (isId.symm.trans h.nobody)
    exact ⟨(h.agree account id some named).mp isId, some⟩
  · rintro ⟨isController, some⟩
    have named : id ≠ 0 := by
      rintro rfl
      exact some (isController.symm.trans h.unnamed)
    exact ⟨(h.agree account id some named).mpr isController, named⟩

theorem Indexed.rewired (h : Indexed g) (rewires : Rewires op g g') : Indexed g' := by
  cases rewires with
  | not controllers ids =>
    refine ⟨(controllers 0).trans h.unnamed, by rw [ids, h.nobody], fun account id some named => ?_⟩
    rw [ids, controllers]
    exact h.agree account id some named
  | assigned q controller _ named nonzero free controllers ids =>
    refine ⟨?_, ?_, fun account id some isId => ?_⟩
    · rw [controllers, if_neg (Ne.symm named)]
      exact h.unnamed
    · rw [ids, if_neg (Ne.symm nonzero), if_neg (by simp)]
      exact h.nobody
    · rw [ids, controllers]
      by_cases new : account = controller
      · subst new
        by_cases here : id = q
        · simp [here]
        · -- the new controller had no other minter
          have other : (g.minters id).controller ≠ account := by
            intro already
            have before := (h.agree account id some isId).mpr already
            rcases free with none | same
            · exact isId (before.symm.trans none)
            · exact here (before.symm.trans same)
          simp [here, Ne.symm here, other]
      · by_cases old : account = (g.minters q).controller
        · by_cases here : id = q
          · simp [here, new, old.symm, some, Ne.symm new, Ne.symm named]
          · -- nor had the old one
            have other : (g.minters id).controller ≠ account := by
              intro already
              have first := (h.agree account id some isId).mpr already
              have second := (h.agree account q some named).mpr old.symm
              exact here (first.symm.trans second)
            simp [here, new, old.symm, some, other, Ne.symm isId]
        · by_cases here : id = q
          · have other : g.controllerMinterIds account ≠ q := fun isQ =>
              old ((h.agree account q some named).mp isQ).symm
            simp [here, new, old, other, Ne.symm new]
          · simp only [new, old, here, if_false, false_and]
            exact h.agree account id some isId

variable {account controller sender : Address} {id : Word} {epoch now : Nat}

theorem setMinterAs_rewires (registers : op.Registers controller)
    (set : g.setMinterAs now id controller shareBps editable = .ok g') : Rewires op g g' := by
  obtain ⟨⟨named, nonzero, free⟩, _, -, -, -, rfl⟩ := setMinterAs_ok set
  refine .assigned id controller registers named nonzero ?_ (fun q => ?_) (fun a => ?_)
  · by_cases none : g.controllerMinterIds controller = 0
    · exact .inl none
    · exact .inr (by simpa [none] using free)
  · by_cases here : q = id
    · simp [here]
    · simp [here]
  · by_cases new : a = controller
    · simp [new]
    · simp only [update_of_ne new, if_neg new]
      by_cases old : a = (g.minters id).controller
      · subst old
        by_cases none : (g.minters id).controller = 0
        · simp [none]
        · simp [none, new]
      · rw [if_neg fun both : _ ∧ _ => old both.1]
        split
        · exact update_of_ne old _ _
        · rfl

theorem setMinterController_rewires (registers : op.Registers controller)
    (set : g.setMinterController sender id controller = .ok g') : Rewires op g g' := by
  replace set := rest_ok set
  obtain ⟨_, named, set⟩ := ran set
  obtain ⟨_, nonzero, set⟩ := ran set
  obtain ⟨_, registered, set⟩ := ran set
  obtain ⟨_, free, set⟩ := ran set
  have free := require_eq_ok.mp free
  split at set
  next other =>
    cases set
    refine .assigned id controller registers (require_eq_ok.mp named) (require_eq_ok.mp nonzero) ?_
      (fun q => ?_) (fun a => ?_)
    · by_cases none : g.controllerMinterIds controller = 0
      · exact .inl none
      · exact .inr (by simpa [none] using free)
    · by_cases here : q = id
      · simp [here]
      · simp [here]
    · by_cases new : a = controller
      · simp [new]
      · simp only [update_of_ne new, if_neg new]
        by_cases old : a = (g.minters id).controller
        · subst old
          simp [require_eq_ok.mp registered]
        · rw [if_neg fun both : _ ∧ _ => old both.1]
          exact update_of_ne old _ _
  · cases set
    exact .not (fun _ => rfl) rfl

theorem removeMinter_rewires (removed : g.removeMinter now sender id = .ok g') : Rewires op g g' := by
  replace removed := rest_ok removed
  replace removed := rest_ok removed
  replace removed := rest_ok removed
  replace removed := rest_ok removed
  obtain ⟨_, -, removed⟩ := ran removed
  obtain ⟨_, -, removed⟩ := ran removed
  cases removed
  refine .not (fun q => ?_) rfl
  by_cases here : q = id
  · simp [here]
  · simp [here]

theorem charge_refused (h : Indexed g) (out : g.controllerMinterIds account = 0) :
    g.chargeMinterBudget now (g.controllerMinterIds account) account epoch amount ≠ .ok g' := by
  intro charged
  obtain ⟨_, authorized, -⟩ := ran charged
  exact require_eq_ok.mp authorized (.inl (by rw [out]; exact h.unnamed))

theorem charge_empty (shared : Shared c g) (nothing : g.share id epoch = 0) :
    g.chargeMinterBudget now id account epoch amount ≠ .ok g' := by
  intro charged
  replace charged := rest_ok charged
  obtain ⟨_, some, charged⟩ := ran charged
  replace charged := rest_ok charged
  replace charged := rest_ok charged
  replace charged := rest_ok charged
  replace charged := uint_rest charged
  rw [shared.minterShareBpsAt, ok_bind, nothing] at charged
  obtain ⟨_, within, -⟩ := ran charged
  have within := require_eq_ok.mp within
  have some := require_eq_ok.mp some
  simp [shareBudget] at within
  omega

def CanClaim (g : Gate) (ants : Erc20) (now : Nat) (account : Address) (epoch : Nat) : Prop :=
  ∃ recipient amount, (g.claim ants now account epoch recipient amount).isOk = true ∨
    (g.claimRemainder ants now account epoch recipient amount).isOk = true

theorem CanClaim.charges (h : g.CanClaim ants now account epoch) : ∃ amount charged,
    g.chargeMinterBudget now (g.controllerMinterIds account) account epoch amount = .ok charged := by
  obtain ⟨recipient, amount, claimed | claimed⟩ := h
  · cases result : g.claim ants now account epoch recipient amount with
    | error =>
      rw [result] at claimed
      cases claimed
    | ok =>
      replace result := rest_ok result
      obtain ⟨charged, isCharged, -⟩ := ran result
      exact ⟨amount, charged, isCharged⟩
  · cases result : g.claimRemainder ants now account epoch recipient amount with
    | error =>
      rw [result] at claimed
      cases claimed
    | ok =>
      replace result := rest_ok result
      replace result := rest_ok result
      obtain ⟨charged, isCharged, -⟩ := ran result
      exact ⟨amount, charged, isCharged⟩

end Gate

/-- The gate is in order, and its two mappings agree. -/
structure Registered (s : GateState) : Prop where
  orderly : Orderly s
  indexed : s.gate.Indexed

variable {s s' : GateState} {call : GateCall}

theorem step_rewires (orderly : Orderly s) (taken : s.step call = .ok s') :
    Gate.Rewires call.op s.gate s'.gate := by
  have step := gateStep taken
  generalize call.op = op at step ⊢
  cases step with
  | setMinter set => exact setMinterAs_rewires rfl set
  | setMinterController set => exact setMinterController_rewires rfl set
  | removeMinter removed => exact removeMinter_rewires removed
  | claim claimed =>
    obtain ⟨charged, charges, same⟩ :=
      ((claim_meets orderly.shared orderly.minted).result claimed).charges
    dsimp only at same
    exact .not (fun q => by rw [same, charges.result]) (by rw [same, charges.result])
  | claimRemainder claimed =>
    obtain ⟨charged, charges, same⟩ :=
      ((claimRemainder_meets orderly.shared orderly.minted).result claimed).charges
    dsimp only at same
    exact .not (fun q => by rw [same, charges.result]) (by rw [same, charges.result])
  | fundLegacyEscrow | owned | idle => exact .not (fun _ => rfl) rfl

section

variable (h : Registered s) (taken : s.step call = .ok s')

include h taken

theorem step_registered : Registered s' :=
  ⟨(step_moves h.orderly taken).orderly h.orderly, h.indexed.rewired (step_rewires h.orderly taken)⟩

theorem step_replaced {id : Word}
    (replaced : (s'.gate.minters id).controller ≠ (s.gate.minters id).controller) :
    s'.gate.controllerMinterIds (s.gate.minters id).controller = 0 := by
  cases step_rewires h.orderly taken with
  | not controllers => exact absurd (controllers id) replaced
  | assigned q controller registers named nonzero free controllers ids =>
    rw [controllers] at replaced
    by_cases here : id = q
    · subst here
      rw [if_pos rfl] at replaced
      rw [ids, if_neg (Ne.symm replaced)]
      by_cases none : (s.gate.minters id).controller = 0
      · simp [none, h.indexed.nobody]
      · simp [none]
    · rw [if_neg here] at replaced
      exact absurd rfl replaced

theorem step_out {account : Address}
    (out : s.gate.controllerMinterIds account = 0) (unregistered : ¬ call.op.Registers account) :
    s'.gate.controllerMinterIds account = 0 := by
  cases step_rewires h.orderly taken with
  | not controllers ids => rw [ids, out]
  | assigned q controller registers named nonzero free controllers ids =>
    have other : account ≠ controller := by
      rintro rfl
      exact unregistered registers
    rw [ids, if_neg other, out]
    split <;> rfl

theorem step_ended {id : Word} {e : Nat}
    (ended : s.gate.share id e = 0) (kept : ¬ call.op.Restores id) : s'.gate.share id e = 0 := by
  rw [step_share h.orderly taken, ended]
  obtain ⟨sender, op⟩ := call
  cases op with
  | setMinter q =>
    have other : q ≠ id := kept
    simp [GateState.shareChanges, changedShare, other]
  | removeMinter => simp [GateState.shareChanges, changedShare]
  | _ => rfl

end

/-- A call that is a claim. -/
def GateOperation.Claims (epoch amount : Nat) (op : GateOperation) : Prop :=
  ∃ recipient, op = .claim epoch recipient amount ∨ op = .claimRemainder epoch recipient amount

theorem step_claimed (h : Registered s) (claims : call.op.Claims epoch amount)
    (taken : s.step call = .ok s') :
    let id := s.gate.controllerMinterIds call.sender
    (s.gate.minters id).controller = call.sender ∧
      s'.gate.minterEpochMinted = update s.gate.minterEpochMinted id
        (update (s.gate.minterEpochMinted id) epoch (s.gate.minterEpochMinted id epoch + amount)) ∧
      s.gate.minterEpochMinted id epoch + amount ≤ shareBudget epoch (s.gate.share id epoch) := by
  obtain ⟨sender, op⟩ := call
  obtain ⟨recipient, rfl | rfl⟩ := claims
  · obtain ⟨⟨gate, ants⟩, claimed, taken⟩ := ran taken
    cases taken
    have claim := (claim_meets h.orderly.shared h.orderly.minted).result claimed
    replace claimed := rest_ok claimed
    obtain ⟨_, charged, -⟩ := ran claimed
    obtain ⟨_, charges, -⟩ := claim.charges
    exact ⟨charge_authorized charged, claim.spent, charges.within⟩
  · obtain ⟨⟨gate, ants, parts⟩, claimed, taken⟩ := ran taken
    cases taken
    have claim := (claimRemainder_meets h.orderly.shared h.orderly.minted).result claimed
    replace claimed := rest_ok claimed
    replace claimed := rest_ok claimed
    obtain ⟨_, charged, -⟩ := ran claimed
    obtain ⟨_, charges, -⟩ := claim.charges
    exact ⟨charge_authorized charged, claim.spent, charges.within⟩

theorem step_unclaimed (h : Registered s) (none : ∀ epoch amount, ¬ call.op.Claims epoch amount)
    (taken : s.step call = .ok s') : s'.gate.minterEpochMinted = s.gate.minterEpochMinted := by
  cases step_moves h.orderly taken with
  | configured reconfigures => exact reconfigures.minted
  | claimed id epoch recipient amount asked =>
    exact absurd ⟨recipient, asked⟩ (none epoch amount)
  | funded escrow asked some unfunded gate => rw [gate]
  | idle now gate => rw [gate]

theorem registered_construct (ants : Erc20)
    (h : construct now sender teamWallet protocolReserve teamShareBps reserveShareBps = .ok g) :
    Registered ⟨now, g, ants⟩ := by
  refine ⟨(orderly_construct ants h).1, ?_⟩
  replace h := rest_ok h
  replace h := rest_ok h
  replace h := rest_ok h
  obtain ⟨effectiveEpoch, -, h⟩ := ran h
  obtain ⟨_, setTeam, setReserve⟩ := ran h
  have fresh : Gate.Indexed { effectiveEpoch := effectiveEpoch, owner := sender } :=
    ⟨rfl, rfl, fun account id some named => ⟨fun isId => absurd isId.symm named,
      fun isAccount => absurd isAccount.symm some⟩⟩
  have team : GateOperation.Registers teamWallet (.setMinterController 0 teamWallet) := rfl
  have reserve : GateOperation.Registers protocolReserve (.setMinterController 0 protocolReserve) := rfl
  exact (fresh.rewired (setMinterAs_rewires team setTeam)).rewired
    (setMinterAs_rewires reserve setReserve)

/-- In every state the gate can reach from its constructor, the two mappings are inverse to each
    other, so no two minters have one controller. From there on: an address that is replaced cannot
    claim for any epoch until it is put in charge again; of a minter that is removed nothing can be
    claimed for later epochs until it is set again; a claim counts against the minter of the address
    that makes it, whoever was its controller before, within the minter's budget; and no other call
    touches what was counted. -/
theorem controllers_match_minters (now : Nat) (sender teamWallet protocolReserve : Address)
    (teamShareBps reserveShareBps : Nat) (g : Gate) (ants : Erc20)
    (deployed : construct now sender teamWallet protocolReserve teamShareBps reserveShareBps =
      .ok g)
    (calls : List GateCall) :
    let s := gateMachine.run ⟨now, g, ants⟩ calls
    (∀ account id, (s.gate.controllerMinterIds account = id ∧ id ≠ 0) ↔
      ((s.gate.minters id).controller = account ∧ account ≠ 0)) ∧
    (∀ id id', (s.gate.minters id).controller ≠ 0 →
      (s.gate.minters id).controller = (s.gate.minters id').controller → id = id') ∧
    (∀ call s' id, s.step call = .ok s' →
      (s'.gate.minters id).controller ≠ (s.gate.minters id).controller →
      ∀ later, (∀ call ∈ later, ¬ call.op.Registers (s.gate.minters id).controller) →
        let t := gateMachine.run s' later
        ∀ epoch, ¬ t.gate.CanClaim t.ants t.now (s.gate.minters id).controller epoch) ∧
    (∀ sender s' id, s.step ⟨sender, .removeMinter id⟩ = .ok s' →
      ∀ later, (∀ call ∈ later, ¬ call.op.Restores id) → let t := gateMachine.run s' later
        ∀ account epoch, t.gate.controllerMinterIds account = id → currentEpoch s.now < epoch →
          ¬ t.gate.CanClaim t.ants t.now account epoch) ∧
    (∀ call s' epoch amount, call.op.Claims epoch amount → s.step call = .ok s' →
      let id := s.gate.controllerMinterIds call.sender
      (s.gate.minters id).controller = call.sender ∧
        s'.gate.minterEpochMinted = update s.gate.minterEpochMinted id
          (update (s.gate.minterEpochMinted id) epoch (s.gate.minterEpochMinted id epoch + amount)) ∧
        s.gate.minterEpochMinted id epoch + amount ≤ shareBudget epoch (s.gate.share id epoch)) ∧
    ∀ call s', (∀ epoch amount, ¬ call.op.Claims epoch amount) → s.step call = .ok s' →
      s'.gate.minterEpochMinted = s.gate.minterEpochMinted := by
  intro s
  have registered : Registered s := gateMachine.run_invariant
    (fun _ _ _ h taken => step_registered h taken) (registered_construct ants deployed) calls
  refine ⟨registered.indexed.iff, ?_, ?_, ?_, ?_, ?_⟩
  · intro id id' some same
    have first := ((registered.indexed.iff _ id).mpr ⟨rfl, some⟩).1
    have second := ((registered.indexed.iff _ id').mpr ⟨same.symm, some⟩).1
    exact first.symm.trans second
  · intro call s' id taken replaced later unregistered t epoch claims
    obtain ⟨then_, out⟩ := gateMachine.run_invariant_on
      (I := fun t => Registered t ∧ t.gate.controllerMinterIds (s.gate.minters id).controller = 0)
      (fun u call u' other h taken => ⟨step_registered h.1 taken, step_out h.1 taken h.2 other⟩)
      ⟨step_registered registered taken, step_replaced registered taken replaced⟩ unregistered
    obtain ⟨amount, charged, isCharged⟩ := claims.charges
    exact charge_refused then_.indexed out isCharged
  · intro remover s' id taken later kept t account epoch isId after claims
    have first : s'.gate.share id epoch = 0 := by
      rw [step_share registered.orderly taken]
      simp [GateState.shareChanges, changedShare]
      omega
    obtain ⟨then_, ended⟩ := gateMachine.run_invariant_on
      (I := fun t => Registered t ∧ t.gate.share id epoch = 0)
      (fun u call u' other h taken => ⟨step_registered h.1 taken, step_ended h.1 taken h.2 other⟩)
      ⟨step_registered registered taken, first⟩ kept
    obtain ⟨amount, charged, isCharged⟩ := claims.charges
    rw [isId] at isCharged
    exact charge_empty then_.orderly.shared ended isCharged
  · exact fun call s' epoch amount claims taken => step_claimed registered claims taken
  · exact fun call s' none taken => step_unclaimed registered none taken

/-! Minter 77 is given to account 3 and removed in epoch 1. -/

def removal : List GateCall :=
  [⟨⟨9⟩, .setMinter ⟨77⟩ ⟨3⟩ 70000 true⟩, ⟨⟨9⟩, .fundLegacyEscrow ⟨4⟩⟩,
    ⟨⟨9⟩, .elapse epochDuration⟩, ⟨⟨9⟩, .removeMinter ⟨77⟩⟩, ⟨⟨9⟩, .elapse epochDuration⟩]

/-- The removed minter has no share left, and is still found under its controller. -/
theorem removal_keeps_entry : ∃ g, construct genesis ⟨9⟩ ⟨1⟩ ⟨2⟩ 10000 20000 = .ok g ∧
    let s := gateMachine.run ⟨genesis, g, .empty⟩ removal
    (s.gate.minters ⟨77⟩).shareBps = 0 ∧ s.gate.controllerMinterIds ⟨3⟩ = ⟨77⟩ ∧
      (s.gate.minters ⟨77⟩).controller = ⟨3⟩ := by
  have computed : (construct genesis ⟨9⟩ ⟨1⟩ ⟨2⟩ 10000 20000).toOption.map (fun g =>
      let s := gateMachine.run ⟨genesis, g, .empty⟩ removal
      ((s.gate.minters ⟨77⟩).shareBps, s.gate.controllerMinterIds ⟨3⟩)) = some (0, ⟨77⟩) := by
    decide +kernel
  obtain ⟨g, deployed⟩ := launch_deploys
  rw [deployed] at computed
  obtain ⟨share, isId⟩ := Prod.mk.inj (Option.some.inj computed)
  have inverse := (controllers_match_minters genesis ⟨9⟩ ⟨1⟩ ⟨2⟩ 10000 20000 g .empty deployed
    removal).1 ⟨3⟩ ⟨77⟩
  exact ⟨g, deployed, share, isId, (inverse.mp ⟨isId, by decide⟩).1⟩

/-- And the controller can still claim the share of the epoch of the removal. -/
theorem removed_still_claims : ∃ g, construct genesis ⟨9⟩ ⟨1⟩ ⟨2⟩ 10000 20000 = .ok g ∧
    let s := gateMachine.run ⟨genesis, g, .empty⟩ (removal.take 3)
    let t := gateMachine.run ⟨genesis, g, .empty⟩ removal
    (s.step ⟨⟨9⟩, .removeMinter ⟨77⟩⟩).isOk = true ∧ t.gate.CanClaim t.ants t.now ⟨3⟩ 1 := by
  have computed : (construct genesis ⟨9⟩ ⟨1⟩ ⟨2⟩ 10000 20000).toOption.map (fun g =>
      let s := gateMachine.run ⟨genesis, g, .empty⟩ (removal.take 3)
      let t := gateMachine.run ⟨genesis, g, .empty⟩ removal
      ((s.step ⟨⟨9⟩, .removeMinter ⟨77⟩⟩).isOk, (t.gate.claim t.ants t.now ⟨3⟩ 1 ⟨3⟩ 1000).isOk)) =
      some (true, true) := by
    decide +kernel
  obtain ⟨g, deployed⟩ := launch_deploys
  rw [deployed] at computed
  obtain ⟨removed, claimed⟩ := Prod.mk.inj (Option.some.inj computed)
  exact ⟨g, deployed, removed, ⟨3⟩, 1000, .inl claimed⟩

end AntSeed.Emissions
