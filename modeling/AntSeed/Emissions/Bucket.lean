import AntSeed.Emissions.Shares

/-! # A bucket that belongs to one controller

A bucket of the gate is dedicated if nobody but its controller is ever put in
charge of it and the controller is never put in charge of another one. Then only
the controller's own claims are charged to it. Its share of an epoch that has
begun does not change, so what is left of an elapsed epoch is decided by the
controller alone.
-/

namespace AntSeed.Emissions

open Evm Function

/-- A call that puts an address in charge of a bucket puts `holder` in charge of `id`, or
    another address in charge of another bucket. -/
def GateOperation.Dedicates (id : Word) (holder : Address) : GateOperation → Prop
  | .setMinter q controller _ _ => q = id ↔ controller = holder
  | .setMinterController q controller => q = id ↔ controller = holder
  | _ => True

namespace Gate

structure Dedicated (id : Word) (holder : Address) (g : Gate) : Prop where
  unnamed : (g.minters 0).controller = 0
  controller : (g.minters id).controller = holder ∨ (g.minters id).controller = 0
  only : ∀ q, (g.minters q).controller = holder → q = id
  assigned : g.controllerMinterIds holder = if (g.minters id).controller = holder then id else 0

/-- The bucket has been given to its controller. -/
def Held (id : Word) (holder : Address) (g : Gate) : Prop := (g.minters id).controller = holder

variable {c : Nat} {id : Word} {holder : Address} {g g' g'' : Gate}

theorem Dedicated.same (h : Dedicated id holder g) (minters : g'.minters = g.minters)
    (ids : g'.controllerMinterIds = g.controllerMinterIds) : Dedicated id holder g' := by
  refine ⟨?_, ?_, ?_, ?_⟩
  · rw [minters]
    exact h.unnamed
  · rw [minters]
    exact h.controller
  · rw [minters]
    exact h.only
  · rw [minters, ids]
    exact h.assigned

variable {q : Word} {controller recipient reserveRecipient sender target : Address}
  {amount epoch now : Nat} {ants ants' : Erc20}

section

variable (h : Dedicated id holder g)

include h

theorem Dedicated.assign (named : q ≠ 0)
    (dedicates : q = id ↔ m.controller = holder) (minters : g'.minters = update g.minters q m)
    (new : g'.controllerMinterIds m.controller = q)
    (others : ∀ a, a ≠ m.controller → a ≠ (g.minters q).controller →
      g'.controllerMinterIds a = g.controllerMinterIds a) :
    Dedicated id holder g' ∧ (Held id holder g → Held id holder g') := by
  have elsewhere : q ≠ id → g'.minters id = g.minters id := fun other => by
    rw [minters, update_of_ne fun same => other same.symm]
  refine ⟨⟨?_, ?_, ?_, ?_⟩, ?_⟩
  · rw [minters, update_of_ne fun same => named same.symm]
    exact h.unnamed
  · by_cases here : q = id
    · exact .inl (by rw [minters, ← here, update_self, dedicates.mp here])
    · rw [elsewhere here]
      exact h.controller
  · intro r isHolder
    rw [minters] at isHolder
    by_cases here : r = q
    · subst here
      rw [update_self] at isHolder
      exact dedicates.mpr isHolder
    · rw [update_of_ne here] at isHolder
      exact h.only r isHolder
  · by_cases here : q = id
    · have isHolder := dedicates.mp here
      rw [isHolder] at new
      rw [new, minters, ← here, update_self, if_pos isHolder]
    · have notHolder : holder ≠ m.controller := fun same => here (dedicates.mpr same.symm)
      have notBefore : holder ≠ (g.minters q).controller := fun same => here (h.only q same.symm)
      rw [others holder notHolder notBefore, elsewhere here]
      exact h.assigned
  · intro held
    unfold Held
    by_cases here : q = id
    · rw [minters, ← here, update_self, dedicates.mp here]
    · rw [elsewhere here]
      exact held

theorem Dedicated.setMinterAs
    (dedicates : q = id ↔ controller = holder)
    (set : g.setMinterAs now q controller shareBps editable = .ok g') :
    Dedicated id holder g' ∧ (Held id holder g → Held id holder g') := by
  obtain ⟨⟨named, -⟩, _, -, -, -, rfl⟩ := setMinterAs_ok set
  refine h.assign (m := ⟨controller, shareBps, editable⟩) named dedicates rfl (update_self _ _ _) ?_
  intro a notNew notBefore
  dsimp only
  rw [update_of_ne notNew]
  split
  · exact update_of_ne notBefore _ _
  · rfl

theorem Dedicated.setMinterController
    (dedicates : q = id ↔ controller = holder)
    (set : g.setMinterController sender q controller = .ok g') :
    Dedicated id holder g' ∧ (Held id holder g → Held id holder g') := by
  replace set := rest_ok set
  obtain ⟨_, named, set⟩ := ran set
  replace set := rest_ok set
  replace set := rest_ok set
  replace set := rest_ok set
  split at set
  · cases set
    refine h.assign (m := ⟨controller, (g.minters q).shareBps, (g.minters q).editable⟩)
      (require_eq_ok.mp named) dedicates rfl (update_self _ _ _) ?_
    intro a notNew notBefore
    dsimp only
    rw [update_of_ne notNew, update_of_ne notBefore]
  · cases set
    exact ⟨h, fun held => held⟩

theorem Dedicated.removeMinter
    (removed : g.removeMinter now sender q = .ok g') :
    Dedicated id holder g' ∧ (Held id holder g → Held id holder g') := by
  replace removed := rest_ok removed
  replace removed := rest_ok removed
  replace removed := rest_ok removed
  replace removed := rest_ok removed
  obtain ⟨_, -, removed⟩ := ran removed
  obtain ⟨_, -, removed⟩ := ran removed
  cases removed
  have same : ∀ r, (update g.minters q ⟨(g.minters q).controller, 0, (g.minters q).editable⟩
      r).controller = (g.minters r).controller := by
    intro r
    by_cases here : r = q
    · subst here
      rw [update_self]
    · rw [update_of_ne here]
  refine ⟨⟨?_, ?_, ?_, ?_⟩, ?_⟩
  · exact (same 0).trans h.unnamed
  · exact h.controller.imp (same id).trans (same id).trans
  · exact fun r isHolder => h.only r ((same r).symm.trans isHolder)
  · exact h.assigned.trans (by rw [same id])
  · exact (same id).trans

end

/-- The gate in epoch `c`, with a dedicated bucket. -/
structure Bucketed (c : Nat) (id : Word) (holder : Address) (g : Gate) : Prop where
  shared : Shared c g
  minted : Minted c g
  dedicated : Dedicated id holder g

theorem Bucketed.mono {c' : Nat} (h : Bucketed c id holder g) (le : c ≤ c') : Bucketed c' id holder g :=
  ⟨h.shared.mono le, h.minted.mono le, h.dedicated⟩

theorem Bucketed.controllerEpochBudget (h : Bucketed c id holder g) (nonzero : holder ≠ 0) (e : Nat) :
    (Held id holder g ∧ g.controllerEpochBudget holder e = .ok (shareBudget e (g.share id e))) ∨
      (¬ Held id holder g ∧ g.controllerEpochBudget holder e = .ok 0) := by
  unfold Gate.controllerEpochBudget minterEpochBudget Held
  rw [h.dedicated.assigned]
  by_cases held : (g.minters id).controller = holder
  · refine .inl ⟨held, ?_⟩
    rw [if_pos held, if_neg (held ▸ nonzero), h.shared.minterShareBpsAt id e, ok_bind]
    rfl
  · refine .inr ⟨held, ?_⟩
    rw [if_neg held, if_pos h.dedicated.unnamed]
    rfl

/-- What calls that are not claims of the controller do to the bucket. -/
structure Spares (c : Nat) (id : Word) (holder : Address) (g g' : Gate) : Prop where
  bucketed : Bucketed c id holder g'
  held : Held id holder g → Held id holder g'
  frozen : ∀ e, e ≤ c → g'.share id e = g.share id e
  spent : g'.minterEpochMinted id = g.minterEpochMinted id

theorem Spares.refl (h : Bucketed c id holder g) : Spares c id holder g g :=
  ⟨h, fun held => held, fun _ _ => rfl, rfl⟩

theorem Spares.trans (first : Spares c id holder g g') (second : Spares c id holder g' g'') :
    Spares c id holder g g'' :=
  ⟨second.bucketed, fun held => second.held (first.held held),
    fun e begun => (second.frozen e begun).trans (first.frozen e begun),
    second.spent.trans first.spent⟩

theorem Bucketed.reconfigured (h : Bucketed c id holder g) (reconfigures : Reconfigures c g g')
    (dedicated : Dedicated id holder g' ∧ (Held id holder g → Held id holder g')) :
    Spares c id holder g g' :=
  ⟨⟨reconfigures.shared, h.minted.reconfigured reconfigures, dedicated.1⟩, dedicated.2,
    fun e begun => reconfigures.frozen id e begun, by rw [reconfigures.minted]⟩

theorem Bucketed.unconfigured (h : Bucketed c id holder g)
    (checkpoints : g'.minterShareCheckpoints = g.minterShareCheckpoints)
    (minters : g'.minters = g.minters) (ids : g'.controllerMinterIds = g.controllerMinterIds)
    (total : g'.totalMinterShareBps = g.totalMinterShareBps)
    (minted : g'.minterEpochMinted = g.minterEpochMinted)
    (epochMinted : g'.epochMinted = g.epochMinted) : Spares c id holder g g' := by
  have shares : ∀ q e, g'.share q e = g.share q e := fun q e => by
    unfold share
    rw [checkpoints]
  refine ⟨⟨?_, ?_, h.dedicated.same minters ids⟩, ?_, fun e _ => shares id e, by rw [minted]⟩
  · refine ⟨checkpoints ▸ h.shared.ordered, ?_, minters ▸ h.shared.absent, ?_, total ▸ h.shared.cap, ?_⟩
    · intro q e later
      rw [shares, minters, h.shared.latest q e later]
    · rw [minters, total, h.shared.total]
    · intro e
      simp only [shares]
      exact h.shared.bounded e
  · refine ⟨?_, minted ▸ h.minted.finalized, ?_⟩
    · intro q e
      rw [minted, shares]
      exact h.minted.budget q e
    · rw [minted, epochMinted]
      exact h.minted.sum
  · unfold Held
    rw [minters]
    exact fun held => held

theorem charge_authorized (charged : g.chargeMinterBudget now q sender epoch amount = .ok g') :
    (g.minters q).controller = sender := by
  obtain ⟨_, authorized, -⟩ := ran charged
  have := require_eq_ok.mp authorized
  by_contra other
  exact this (.inr other)

section

variable (claimed : Claimed c g g' ants ants' q epoch amount)

include claimed

theorem Claimed.dedicated (h : Bucketed c id holder g) :
    Bucketed c id holder g' ∧ (Held id holder g → Held id holder g') := by
  obtain ⟨charged, charges, same⟩ := claimed.charges
  have shared := charges.shared h.shared
  have minted := charges.minted h.minted
  have minters : g'.minters = g.minters := by rw [same, charges.result]
  refine ⟨⟨?_, ?_, h.dedicated.same minters (by rw [same, charges.result])⟩, ?_⟩
  · rw [same]
    exact ⟨shared.ordered, shared.latest, shared.absent, shared.total, shared.cap, shared.bounded⟩
  · rw [same]
    exact ⟨minted.budget, minted.finalized, minted.sum⟩
  · unfold Held
    rw [minters]
    exact fun held => held

theorem Claimed.share (r : Word) (e : Nat) : g'.share r e = g.share r e := by
  obtain ⟨charged, charges, same⟩ := claimed.charges
  rw [← charges.share r e, same]
  rfl

theorem Claimed.spent : g'.minterEpochMinted = update g.minterEpochMinted q
      (update (g.minterEpochMinted q) epoch (g.minterEpochMinted q epoch + amount)) := by
  obtain ⟨charged, charges, same⟩ := claimed.charges
  rw [same, charges.result]

theorem Claimed.spares (h : Bucketed c id holder g) (other : q ≠ id) : Spares c id holder g g' := by
  obtain ⟨bucketed, held⟩ := claimed.dedicated h
  refine ⟨bucketed, held, fun e _ => claimed.share id e, ?_⟩
  rw [claimed.spent, update_of_ne fun same => other same.symm]

end

theorem Dedicated.elsewhere (h : Dedicated id holder g) (other : sender ≠ holder)
    (nonzero : sender ≠ 0) (charged : g.chargeMinterBudget now q sender epoch amount = .ok g') :
    q ≠ id := by
  rintro rfl
  have authorized := charge_authorized charged
  rcases h.controller with isHolder | none
  · exact other (authorized.symm.trans isHolder)
  · exact nonzero (authorized.symm.trans none)

section

variable (h : Bucketed (currentEpoch now) id holder g) (other : sender ≠ holder) (nonzero : sender ≠ 0)

include h other nonzero

theorem claim_spares
    (claimed : g.claim ants now sender epoch recipient amount = .ok (g', ants')) :
    Spares (currentEpoch now) id holder g g' := by
  refine ((claim_meets h.shared h.minted).result claimed).spares h ?_
  replace claimed := rest_ok claimed
  obtain ⟨_, charged, -⟩ := ran claimed
  exact h.dedicated.elsewhere other nonzero charged

theorem claimRemainder_spares
    (claimed : g.claimRemainder ants now sender epoch reserveRecipient amount = .ok result) :
    Spares (currentEpoch now) id holder g result.1 := by
  refine ((claimRemainder_meets h.shared h.minted).result claimed).spares h ?_
  replace claimed := rest_ok claimed
  replace claimed := rest_ok claimed
  obtain ⟨_, charged, -⟩ := ran claimed
  exact h.dedicated.elsewhere other nonzero charged

end

/-- What a claim of the controller does to the bucket. -/
structure Pays (c : Nat) (id : Word) (holder : Address) (g g' : Gate) (epoch amount : Nat) :
    Prop where
  bucketed : Bucketed c id holder g'
  finalized : epoch < c
  held : Held id holder g
  stays : Held id holder g'
  share : ∀ e, g'.share id e = g.share id e
  spent : g'.minterEpochMinted id =
    update (g.minterEpochMinted id) epoch (g.minterEpochMinted id epoch + amount)

theorem Pays.trans {epoch amount amount' : Nat} (first : Pays c id holder g g' epoch amount)
    (second : Pays c id holder g' g'' epoch amount') :
    Pays c id holder g g'' epoch (amount + amount') := by
  refine ⟨second.bucketed, first.finalized, first.held, second.stays,
    fun e => (second.share e).trans (first.share e), ?_⟩
  rw [second.spent, first.spent, update_self, Function.update_idem, Nat.add_assoc]

/-- There is room in the bucket, if the claim gets as far as being measured against it. -/
def Room (c : Nat) (id : Word) (holder : Address) (g : Gate) (epoch amount : Nat) : Prop :=
  epoch < c → Held id holder g →
    g.minterEpochMinted id epoch + amount ≤ shareBudget epoch (g.share id epoch)

theorem Room.mono {epoch amount smaller : Nat} (h : Room c id holder g epoch amount)
    (le : smaller ≤ amount) : Room c id holder g epoch smaller := by
  intro finalized held
  have := h finalized held
  omega

theorem Pays.room {epoch amount rest : Nat} (pays : Pays c id holder g g' epoch amount)
    (h : Room c id holder g epoch (amount + rest)) : Room c id holder g' epoch rest := by
  intro finalized _
  have := h finalized pays.held
  rw [pays.spent, update_self, pays.share]
  omega

theorem charge_within (h : Bucketed (currentEpoch now) id holder g)
    (room : Room (currentEpoch now) id holder g epoch amount) :
    Meets (g.chargeMinterBudget now (g.controllerMinterIds holder) holder epoch amount)
      (fun r => r ≠ .custom .bucketBudgetExceeded)
      fun g' => Held id holder g ∧ g.controllerMinterIds holder = id ∧
        Charges (currentEpoch now) g g' id epoch amount := by
  by_cases held : Held id holder g
  · have assigned : g.controllerMinterIds holder = id := h.dedicated.assigned.trans (if_pos held)
    rw [assigned]
    have reasons : Meets (g.chargeMinterBudget now id holder epoch amount)
        (fun r => r ≠ .custom .bucketBudgetExceeded) fun _ => True := by
      apply Meets.check nofun
      apply Meets.check nofun
      apply Meets.require nofun
      intro finalized
      apply Meets.check nofun
      apply Meets.check nofun
      apply Meets.uint nofun
      intro _
      rw [h.shared.minterShareBpsAt id epoch, ok_bind]
      unfold Evm.require
      rw [if_pos (room finalized held)]
      apply Meets.uint nofun
      intro _
      split
      · exact .pure trivial
      · exact nofun
    exact reasons.strengthen fun g' charged _ =>
      ⟨held, rfl, (chargeMinterBudget_meets h.shared h.minted).result charged⟩
  · have unassigned : g.controllerMinterIds holder = 0 := h.dedicated.assigned.trans (if_neg held)
    rw [unassigned]
    apply Meets.require nofun
    intro authorized
    exact absurd (.inl h.dedicated.unnamed) authorized

theorem antsMint_within :
    Meets (antsMint ants target amount) (fun r => r ≠ .custom .bucketBudgetExceeded) fun _ => True := by
  apply Meets.require nofun
  intro target
  apply Meets.uint nofun
  intro _
  apply Meets.check nofun
  unfold Erc20.mint
  rw [if_neg target]
  apply Meets.uint nofun
  intro _
  exact .pure trivial

theorem mintNonzero_within :
    Meets (mintNonzero ants target amount) (fun r => r ≠ .custom .bucketBudgetExceeded)
      fun _ => True := by
  exact .ite (fun _ => antsMint_within) fun _ => trivial

theorem Claimed.pays (claimed : Claimed c g g' ants ants' id epoch amount)
    (h : Bucketed c id holder g) (held : Held id holder g) :
    Pays c id holder g g' epoch amount := by
  obtain ⟨bucketed, stays⟩ := claimed.dedicated h
  obtain ⟨charged, charges, -⟩ := claimed.charges
  refine ⟨bucketed, charges.finalized, held, stays held, claimed.share id, ?_⟩
  rw [claimed.spent, update_self]

section

variable (h : Bucketed (currentEpoch now) id holder g)
  (room : Room (currentEpoch now) id holder g epoch amount)

include h room

theorem claim_pays :
    Meets (g.claim ants now holder epoch recipient amount) (fun r => r ≠ .custom .bucketBudgetExceeded)
      fun result => Pays (currentEpoch now) id holder g result.1 epoch amount := by
  have reasons : Meets (g.claim ants now holder epoch recipient amount)
      (fun r => r ≠ .custom .bucketBudgetExceeded)
      fun _ => Held id holder g ∧ g.controllerMinterIds holder = id := by
    apply Meets.check nofun
    refine .bind (charge_within h room) fun charged ⟨held, assigned, _⟩ => ?_
    exact .bind antsMint_within fun _ _ => Meets.pure ⟨held, assigned⟩
  refine reasons.strengthen fun result claimed ⟨held, assigned⟩ => ?_
  exact (assigned ▸ (claim_meets h.shared h.minted).result claimed).pays h held

theorem claimRemainder_pays :
    Meets (g.claimRemainder ants now holder epoch reserveRecipient amount)
      (fun r => r ≠ .custom .bucketBudgetExceeded)
      fun result => Pays (currentEpoch now) id holder g result.1 epoch amount := by
  have reasons : Meets (g.claimRemainder ants now holder epoch reserveRecipient amount)
      (fun r => r ≠ .custom .bucketBudgetExceeded)
      fun _ => Held id holder g ∧ g.controllerMinterIds holder = id := by
    apply Meets.check nofun
    apply Meets.check nofun
    refine .bind (charge_within h room) fun charged ⟨held, assigned, _⟩ => ?_
    apply Meets.uint nofun
    intro _
    apply Meets.sub (charged.burnedPart_le epoch amount)
    refine .bind mintNonzero_within fun _ _ => ?_
    exact .bind mintNonzero_within fun _ _ => Meets.pure ⟨held, assigned⟩
  refine reasons.strengthen fun result claimed ⟨held, assigned⟩ => ?_
  exact (assigned ▸ (claimRemainder_meets h.shared h.minted).result claimed).pays h held

end

end Gate

theorem step_spares {s s' : GateState} (call : GateCall) {id : Word} {holder : Address}
    (h : Gate.Bucketed (currentEpoch s.now) id holder s.gate) (dedicates : call.op.Dedicates id holder)
    (other : call.sender ≠ holder) (nonzero : call.sender ≠ 0) (taken : s.step call = .ok s') :
    s.now ≤ s'.now ∧ Gate.Spares (currentEpoch s.now) id holder s.gate s'.gate := by
  obtain ⟨sender, op⟩ := call
  have step := gateStep taken
  dsimp only at step dedicates other nonzero
  cases step with
  | setMinter set =>
    exact ⟨Nat.le_refl _, h.reconfigured (Gate.reconfigures_setMinterAs h.shared set)
      (h.dedicated.setMinterAs dedicates set)⟩
  | setMinterController set =>
    exact ⟨Nat.le_refl _, h.reconfigured (Gate.reconfigures_setMinterController h.shared set)
      (h.dedicated.setMinterController dedicates set)⟩
  | removeMinter removed =>
    exact ⟨Nat.le_refl _, h.reconfigured (Gate.reconfigures_removeMinter h.shared removed)
      (h.dedicated.removeMinter removed)⟩
  | claim claimed => exact ⟨Nat.le_refl _, Gate.claim_spares h other nonzero claimed⟩
  | claimRemainder claimed =>
    exact ⟨Nat.le_refl _, Gate.claimRemainder_spares h other nonzero claimed⟩
  | fundLegacyEscrow | owned =>
    exact ⟨Nat.le_refl _, h.unconfigured rfl rfl rfl rfl rfl rfl⟩
  | idle _ now => exact ⟨now, .refl h⟩

theorem bucketed_construct {now : Nat} {sender teamWallet protocolReserve : Address}
    {id : Word} {holder : Address}
    (nonzero : holder ≠ 0) (team : teamMinterId = id ↔ teamWallet = holder)
    (reserve : reserveMinterId = id ↔ protocolReserve = holder)
    (h : Gate.construct now sender teamWallet protocolReserve teamShareBps reserveShareBps = .ok g) :
    Gate.Bucketed (currentEpoch now) id holder g ∧ g.minterEpochMinted = fun _ _ => 0 := by
  have orderly := (orderly_construct .empty h).1
  replace h := rest_ok h
  replace h := rest_ok h
  replace h := rest_ok h
  obtain ⟨effectiveEpoch, -, h⟩ := ran h
  obtain ⟨_, setTeam, setReserve⟩ := ran h
  have fresh : Gate.Dedicated id holder { effectiveEpoch := effectiveEpoch, owner := sender } :=
    ⟨rfl, .inr rfl, fun q isHolder => absurd isHolder.symm nonzero,
      (if_neg fun isHolder => nonzero (Eq.symm isHolder)).symm⟩
  have first := fresh.setMinterAs team setTeam
  have firstShares := Gate.reconfigures_setMinterAs (shared_initial (currentEpoch now) _ _) setTeam
  have secondShares := Gate.reconfigures_setMinterAs firstShares.shared setReserve
  exact ⟨⟨orderly.shared, orderly.minted, (first.1.setMinterAs reserve setReserve).1⟩,
    secondShares.minted.trans firstShares.minted⟩

end AntSeed.Emissions
