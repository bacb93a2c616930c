import AntSeed.Emissions.Bucket

/-! # The history of a share

Whoever reads the share of a minter at an epoch finds the one that was recorded
last for that epoch or an earlier one: the binary search finds the last
checkpoint that has started, and a checkpoint that is overwritten in place has not
started yet. So what is read for an epoch that has begun never changes.
-/

namespace AntSeed.Emissions

open Evm Function
open Gate

theorem shareOf_eq_getLast (checkpoints : List ShareCheckpoint) (e : Nat) :
    shareOf checkpoints e =
      ((checkpoints.filter (·.startEpoch ≤ e)).getLast?.map (·.shareBps)).getD 0 := by
  induction checkpoints using List.reverseRecOn with
  | nil => rfl
  | append_singleton init c ih =>
    rw [shareOf_concat]
    by_cases started : c.startEpoch ≤ e
    · simp [started]
    · simp [started, ih]

structure ShareChange where
  id : Word
  startEpoch : Nat
  shareBps : Nat
  deriving DecidableEq, Repr

def lastShare (history : List ShareChange) (id : Word) (e : Nat) : Nat :=
  ((history.filter fun c => c.id = id ∧ c.startEpoch ≤ e).getLast?.map (·.shareBps)).getD 0

/-- A share after some changes of the configuration. -/
def changedShare (share : Nat) (changes : List ShareChange) (id : Word) (e : Nat) : Nat :=
  changes.foldl (fun share c => if c.id = id ∧ c.startEpoch ≤ e then c.shareBps else share) share

theorem lastShare_append (history changes : List ShareChange) (id : Word) (e : Nat) :
    lastShare (history ++ changes) id e = changedShare (lastShare history id e) changes id e := by
  induction changes using List.reverseRecOn with
  | nil => simp [changedShare]
  | append_singleton changes c ih =>
    rw [← List.append_assoc]
    by_cases said : c.id = id ∧ c.startEpoch ≤ e
    · simp [lastShare, changedShare, said]
    · simp only [changedShare, List.foldl_append, List.foldl_cons, List.foldl_nil, if_neg said]
      rw [changedShare] at ih
      rw [← ih]
      simp [lastShare, said]

/-- What a call records. -/
def GateState.shareChanges (s : GateState) (call : GateCall) : List ShareChange :=
  match call.op with
  | .setMinter id _ shareBps _ => [⟨id, currentEpoch s.now + 1, shareBps⟩]
  | .removeMinter id => [⟨id, currentEpoch s.now + 1, 0⟩]
  | _ => []

namespace Gate

variable {c : Nat} {g g' : Gate}

variable {id : Word} {controller sender : Address}

theorem Reconfigures.share_recorded (h : Reconfigures c g g') (shared : Shared c g)
    (shares : ∀ q, (g'.minters q).shareBps = if q = id then shareBps else (g.minters q).shareBps)
    (q : Word) (e : Nat) : g'.share q e = if id = q ∧ c + 1 ≤ e then shareBps else g.share q e := by
  by_cases begun : e ≤ c
  · rw [h.frozen q e begun, if_neg (by omega)]
  · rw [h.shared.latest q e (by omega), shares, shared.latest q e (by omega)]
    have ahead : c + 1 ≤ e := by omega
    simp [ahead, eq_comm]

theorem Reconfigures.share_kept (h : Reconfigures c g g') (shared : Shared c g)
    (shares : ∀ q, (g'.minters q).shareBps = (g.minters q).shareBps) (q : Word) (e : Nat) :
    g'.share q e = g.share q e := by
  by_cases begun : e ≤ c
  · exact h.frozen q e begun
  · rw [h.shared.latest q e (by omega), shares, shared.latest q e (by omega)]

theorem setMinterAs_share (shared : Shared (currentEpoch now) g)
    (set : g.setMinterAs now id controller shareBps editable = .ok g') (q : Word) (e : Nat) :
    g'.share q e = if id = q ∧ currentEpoch now + 1 ≤ e then shareBps else g.share q e := by
  refine (reconfigures_setMinterAs shared set).share_recorded shared (fun r => ?_) q e
  obtain ⟨-, _, -, -, -, rfl⟩ := setMinterAs_ok set
  by_cases here : r = id
  · simp [here]
  · simp [here]

theorem removeMinter_share (shared : Shared (currentEpoch now) g)
    (removed : g.removeMinter now sender id = .ok g') (q : Word) (e : Nat) :
    g'.share q e = if id = q ∧ currentEpoch now + 1 ≤ e then 0 else g.share q e := by
  refine (reconfigures_removeMinter shared removed).share_recorded shared (fun r => ?_) q e
  replace removed := rest_ok removed
  replace removed := rest_ok removed
  replace removed := rest_ok removed
  replace removed := rest_ok removed
  obtain ⟨_, -, removed⟩ := ran removed
  obtain ⟨_, -, removed⟩ := ran removed
  cases removed
  by_cases here : r = id
  · simp [here]
  · simp [here]

theorem setMinterController_share (shared : Shared c g)
    (set : g.setMinterController sender id controller = .ok g') (q : Word) (e : Nat) :
    g'.share q e = g.share q e := by
  refine (reconfigures_setMinterController shared set).share_kept shared (fun r => ?_) q e
  replace set := rest_ok set
  replace set := rest_ok set
  replace set := rest_ok set
  replace set := rest_ok set
  replace set := rest_ok set
  split at set
  · cases set
    by_cases here : r = id
    · simp [here]
    · simp [here]
  · cases set
    rfl

end Gate

variable {s s' : GateState}

theorem shareChanges_aside (aside : op.aside = true) :
    s.shareChanges ⟨sender, op⟩ = [] := by
  cases op <;> first | rfl | cases aside

theorem step_share (orderly : Orderly s) (taken : s.step call = .ok s') (q : Word)
    (e : Nat) : s'.gate.share q e = changedShare (s.gate.share q e) (s.shareChanges call) q e := by
  obtain ⟨sender, op⟩ := call
  have step := gateStep taken
  dsimp only at step
  cases step with
  | setMinter set => exact setMinterAs_share orderly.shared set q e
  | setMinterController set => exact setMinterController_share orderly.shared set q e
  | removeMinter removed => exact removeMinter_share orderly.shared removed q e
  | claim claimed =>
    exact ((claim_meets orderly.shared orderly.minted).result claimed).share q e
  | claimRemainder claimed =>
    exact ((claimRemainder_meets orderly.shared orderly.minted).result claimed).share q e
  | fundLegacyEscrow => rfl
  | owned _ _ aside | idle aside =>
    rw [shareChanges_aside aside]
    rfl

/-- The shares are those the history tells. -/
def Told (history : List ShareChange) (g : Gate) : Prop :=
  ∀ id e, g.share id e = lastShare history id e

theorem Told.append {history changes : List ShareChange} {g g' : Gate} (h : Told history g)
    (shares : ∀ q e, g'.share q e = changedShare (g.share q e) changes q e) :
    Told (history ++ changes) g' := by
  intro q e
  rw [lastShare_append, shares, h q e]

theorem GateMove.frozen {op : GateOperation} (move : GateMove op s s') :
    s.now ≤ s'.now ∧ ∀ id e, e ≤ currentEpoch s.now → s'.gate.share id e = s.gate.share id e := by
  cases move with
  | configured reconfigures now => exact ⟨Nat.le_of_eq now.symm, reconfigures.frozen⟩
  | claimed id epoch recipient amount asked claimed now =>
    exact ⟨Nat.le_of_eq now.symm, fun id e _ => claimed.share id e⟩
  | funded escrow asked some unfunded gate now =>
    refine ⟨Nat.le_of_eq now.symm, fun id e _ => ?_⟩
    rw [gate]
    rfl
  | idle now gate => exact ⟨now, fun id e _ => by rw [gate]⟩

/-- What the constructor records. -/
def constructedShares (now teamShareBps reserveShareBps : Nat) : List ShareChange :=
  [⟨teamMinterId, currentEpoch now + 1, teamShareBps⟩,
    ⟨reserveMinterId, currentEpoch now + 1, reserveShareBps⟩]

theorem told_construct
    (h : construct now sender teamWallet protocolReserve teamShareBps reserveShareBps = .ok g) :
    Told (constructedShares now teamShareBps reserveShareBps) g := by
  replace h := rest_ok h
  replace h := rest_ok h
  replace h := rest_ok h
  obtain ⟨effectiveEpoch, -, h⟩ := ran h
  obtain ⟨_, setTeam, setReserve⟩ := ran h
  have shared := shared_initial (currentEpoch now) effectiveEpoch sender
  have fresh : Told [] { effectiveEpoch := effectiveEpoch, owner := sender } := fun _ _ => rfl
  have first : Told ([] ++ [⟨teamMinterId, currentEpoch now + 1, teamShareBps⟩]) _ :=
    fresh.append (setMinterAs_share shared setTeam)
  have second := (reconfigures_setMinterAs shared setTeam).shared
  have told : Told (_ ++ [⟨reserveMinterId, currentEpoch now + 1, reserveShareBps⟩]) g :=
    first.append (setMinterAs_share second setReserve)
  exact told

/-- In every state the gate can reach from its constructor: the checkpoints of a minter are strictly
    ordered by epoch; the search returns the last of them that has started, or zero, which is the
    share that was recorded last for the epoch or an earlier one; and whatever is called later, it
    returns the same for every epoch that has begun. -/
theorem share_history_exact (now : Nat) (sender teamWallet protocolReserve : Address)
    (teamShareBps reserveShareBps : Nat) (g : Gate) (ants : Erc20)
    (deployed : construct now sender teamWallet protocolReserve teamShareBps reserveShareBps =
      .ok g)
    (calls : List GateCall) :
    let s := gateMachine.run ⟨now, g, ants⟩ calls
    (∀ id, (s.gate.minterShareCheckpoints id).Pairwise fun earlier later =>
      earlier.startEpoch < later.startEpoch) ∧
    (∀ id e, s.gate.minterShareBpsAt id e = .ok
      ((((s.gate.minterShareCheckpoints id).filter (·.startEpoch ≤ e)).getLast?.map
        (·.shareBps)).getD 0)) ∧
    (∀ id e, s.gate.minterShareBpsAt id e = .ok
      (lastShare (constructedShares now teamShareBps reserveShareBps ++
        gateMachine.log GateState.shareChanges ⟨now, g, ants⟩ calls) id e)) ∧
    ∀ later id e, e ≤ currentEpoch s.now →
      (gateMachine.run s later).gate.minterShareBpsAt id e = s.gate.minterShareBpsAt id e := by
  intro s
  obtain ⟨orderly, told⟩ := gateMachine.run_invariant_log
    (I := fun history s => Orderly s ∧ Told history s.gate)
    (fun history t call t' h taken => ⟨(step_moves h.1 taken).orderly h.1, h.2.append (step_share h.1 taken)⟩)
    ⟨(orderly_construct ants deployed).1, told_construct deployed⟩ calls
  refine ⟨fun id => (orderly.shared.ordered id).sorted, fun id e => ?_, fun id e => ?_, ?_⟩
  · rw [orderly.shared.minterShareBpsAt, share, shareOf_eq_getLast]
  · rw [orderly.shared.minterShareBpsAt, told id e]
  · intro later id e begun
    obtain ⟨then_, -, same⟩ := gateMachine.run_invariant
      (I := fun t => Orderly t ∧ e ≤ currentEpoch t.now ∧ t.gate.share id e = s.gate.share id e)
      (fun t call t' h taken =>
        have move := step_moves h.1 taken
        ⟨move.orderly h.1, Nat.le_trans h.2.1 (currentEpoch_mono move.frozen.1),
          (move.frozen.2 id e h.2.1).trans h.2.2⟩)
      ⟨orderly, begun, rfl⟩ later
    rw [then_.shared.minterShareBpsAt, same, orderly.shared.minterShareBpsAt]

/-! A share that is changed twice in one epoch and removed in the next. -/

def reshuffles : List GateCall :=
  [⟨⟨9⟩, .setMinter ⟨77⟩ ⟨3⟩ 70000 true⟩, ⟨⟨9⟩, .setMinter ⟨77⟩ ⟨3⟩ 60000 true⟩,
    ⟨⟨9⟩, .elapse epochDuration⟩, ⟨⟨9⟩, .removeMinter ⟨77⟩⟩]

/-- The first change never took effect; the second holds for one epoch. -/
theorem reshuffles_told : ∃ g, construct genesis ⟨9⟩ ⟨1⟩ ⟨2⟩ 10000 20000 = .ok g ∧
    let s := gateMachine.run ⟨genesis, g, .empty⟩ reshuffles
    s.gate.minterShareCheckpoints ⟨77⟩ = [⟨1, 60000⟩, ⟨2, 0⟩] ∧
      ∀ e, s.gate.minterShareBpsAt ⟨77⟩ e = .ok
        ((((s.gate.minterShareCheckpoints ⟨77⟩).filter (·.startEpoch ≤ e)).getLast?.map
          (·.shareBps)).getD 0) := by
  have computed : (construct genesis ⟨9⟩ ⟨1⟩ ⟨2⟩ 10000 20000).toOption.map (fun g =>
      (gateMachine.run ⟨genesis, g, .empty⟩ reshuffles).gate.minterShareCheckpoints ⟨77⟩) =
      some [⟨1, 60000⟩, ⟨2, 0⟩] := by decide +kernel
  obtain ⟨g, deployed⟩ := launch_deploys
  rw [deployed] at computed
  exact ⟨g, deployed, Option.some.inj computed, (share_history_exact genesis ⟨9⟩ ⟨1⟩ ⟨2⟩ 10000 20000
    g .empty deployed reshuffles).2.1 ⟨77⟩⟩

end AntSeed.Emissions
