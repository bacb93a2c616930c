import AntSeed.Lib.BinarySearch
import AntSeed.Lib.Erc20
import AntSeed.Lib.Machine

/-! # AntseedEmissionsGate

The one minter of ANTS. Every epoch has a fixed emission that halves on
schedule; every minter id owns a share of it, recorded as checkpoints that take
effect in the next epoch. The address configured for an id may mint up to the
id's share of an elapsed epoch. Everything owed before the gate took effect is
minted once, into an escrow.
-/

namespace AntSeed.Emissions

open Evm Function

/-- Errors of the gate, of its ownership and of the token it mints. -/
inductive GateError where
  | invalidAddress | invalidValue | epochNotFinalized | notEmissionMinter | minterNotEditable
  | bucketBudgetExceeded | epochEmissionExceeded | preEffectiveEpoch | legacyEscrowAlreadyFunded
  | legacyEscrowNotFunded | mintersNotSet | invalidMinterId
  | ownableUnauthorizedAccount | maxSupplyExceeded
  deriving DecidableEq, Repr

def genesis : Nat := 1775728461
def epochDuration : Nat := 604800
def halvingInterval : Nat := 104
def initialEmission : Nat := 5000000 * 10 ^ 18
def shareDenominator : Nat := 100000
def burnCapBps : Nat := 30000
def maxSupply : Nat := 1040000000 * 10 ^ 18
def deadAddress : Address := ⟨0xdEaD⟩

/-- `keccak256("antseed.emissions.team.v1")` -/
def teamMinterId : Word :=
  ⟨0x34122b5459e2da08531926b6b4824cc655b2042f1cf2d88aaaf4c6d19308669e⟩

/-- `keccak256("antseed.emissions.reserve.v1")` -/
def reserveMinterId : Word :=
  ⟨0xc5ff0896e227b527ec15c29fed8fdddb30dd7562dccfe4eafd612355a4391db1⟩

/-- `mint` of the ANTS token, called by the gate. -/
def antsMint (ants : Erc20) (target : Address) (amount : Nat) : Tx GateError Erc20 := do
  require (target ≠ 0) .invalidAddress
  let supply ← uint 256 (ants.totalSupply + amount)
  require (supply ≤ maxSupply) .maxSupplyExceeded
  ants.mint target amount

structure Minter where
  controller : Address
  shareBps : Nat
  editable : Bool
  deriving DecidableEq, Repr

instance : Inhabited Minter := ⟨⟨0, 0, false⟩⟩

structure ShareCheckpoint where
  startEpoch : Nat
  shareBps : Nat
  deriving DecidableEq, Repr

structure Gate where
  effectiveEpoch : Nat
  legacyEscrow : Address := 0
  epochMinted : Nat → Nat := fun _ => 0
  epochBurnedAmount : Nat → Nat := fun _ => 0
  totalMinterShareBps : Nat := 0
  minters : Word → Minter := fun _ => default
  controllerMinterIds : Address → Word := fun _ => 0
  minterShareCheckpoints : Word → List ShareCheckpoint := fun _ => []
  minterEpochMinted : Word → Nat → Nat := fun _ _ => 0
  owner : Address
  pendingOwner : Address := 0

def currentEpoch (now : Nat) : Nat :=
  if now ≤ genesis then 0 else (now - genesis) / epochDuration

theorem currentEpoch_mono (le : now ≤ later) :
    currentEpoch now ≤ currentEpoch later := by
  unfold currentEpoch
  split
  · exact Nat.zero_le _
  · rw [if_neg (by omega)]
    exact Nat.div_le_div_right (by omega)

theorem currentEpoch_lt (fits : now < 2 ^ 64) : currentEpoch now < 2 ^ 64 := by
  unfold currentEpoch
  split
  · exact Nat.two_pow_pos 64
  · exact Nat.lt_of_le_of_lt (Nat.div_le_self _ _) (by omega)

def getEpochEmission (epoch : Nat) : Nat := initialEmission >>> (epoch / halvingInterval)

/-- The loop of `cumulativeEmissionThrough`. -/
def fullPeriodsEmission : Nat → Nat
  | 0 => 0
  | period + 1 => fullPeriodsEmission period + (initialEmission >>> period) * halvingInterval

/-- The whole schedule is below twice its first period, so the sum never overflows. -/
def cumulativeEmissionThrough (epochExclusive : Nat) : Nat :=
  fullPeriodsEmission (epochExclusive / halvingInterval) +
    (initialEmission >>> (epochExclusive / halvingInterval)) * (epochExclusive % halvingInterval)

def shareBudget (epoch shareBps : Nat) : Nat := getEpochEmission epoch * shareBps / shareDenominator

def recordMinterShare (checkpoints : List ShareCheckpoint) (startEpoch shareBps : Nat) :
    List ShareCheckpoint :=
  match checkpoints.getLast? with
  | none => [⟨startEpoch, shareBps⟩]
  | some last =>
    if last.startEpoch = startEpoch then checkpoints.dropLast ++ [⟨startEpoch, shareBps⟩]
    else checkpoints ++ [⟨startEpoch, shareBps⟩]

def readCheckpoint (checkpoints : List ShareCheckpoint) (i : Nat) : Tx GateError ShareCheckpoint :=
  match checkpoints[i]? with
  | none => .error .outOfBounds
  | some c => .ok c

def shareBpsAt (checkpoints : List ShareCheckpoint) (epoch : Nat) : Tx GateError Nat :=
  match checkpoints with
  | [] => pure 0
  | first :: _ =>
    if epoch < first.startEpoch then pure 0
    else do
      let low ← upperBound (fun mid => do
        let c ← readCheckpoint checkpoints mid
        pure (decide (c.startEpoch ≤ epoch))) checkpoints.length 0 checkpoints.length
      let index ← sub low 1
      let c ← readCheckpoint checkpoints index
      pure c.shareBps

namespace Gate

section

variable (g : Gate)

def minterShareBpsAt (id : Word) (epoch : Nat) : Tx GateError Nat :=
  shareBpsAt (g.minterShareCheckpoints id) epoch

def setMinterAs (now : Nat) (id : Word) (controller : Address) (shareBps : Nat)
    (editable : Bool) : Tx GateError Gate := do
  require (id ≠ 0) .invalidMinterId
  require (controller ≠ 0) .invalidAddress
  require (shareBps ≠ 0) .invalidValue
  let existing := g.minters id
  require (¬ (existing.controller ≠ 0 ∧ existing.editable = false)) .minterNotEditable
  let assignedId := g.controllerMinterIds controller
  require (¬ (assignedId ≠ 0 ∧ assignedId ≠ id)) .invalidMinterId
  let previousShareBps := if existing.controller = 0 then 0 else existing.shareBps
  let others ← sub g.totalMinterShareBps previousShareBps
  let nextTotalMinterShareBps ← uint 32 (others + shareBps)
  require (nextTotalMinterShareBps ≤ shareDenominator) .invalidValue
  let ids := if existing.controller ≠ 0 ∧ existing.controller ≠ controller then
    update g.controllerMinterIds existing.controller 0 else g.controllerMinterIds
  let startEpoch ← uint 256 (currentEpoch now + 1)
  pure { g with
    controllerMinterIds := update ids controller id
    totalMinterShareBps := nextTotalMinterShareBps
    minters := update g.minters id ⟨controller, shareBps, editable⟩
    minterShareCheckpoints := update g.minterShareCheckpoints id
      (recordMinterShare (g.minterShareCheckpoints id) startEpoch shareBps) }

def requireOwner (sender : Address) : Tx GateError Unit :=
  require (sender = g.owner) .ownableUnauthorizedAccount

def setMinter (now : Nat) (sender : Address) (id : Word) (controller : Address)
    (shareBps : Nat) (editable : Bool) : Tx GateError Gate := do
  decode 32 shareBps
  g.requireOwner sender
  g.setMinterAs now id controller shareBps editable

def setMinterController (sender : Address) (id : Word) (controller : Address) :
    Tx GateError Gate := do
  g.requireOwner sender
  require (id ≠ 0) .invalidMinterId
  require (controller ≠ 0) .invalidAddress
  let existing := g.minters id
  require (existing.controller ≠ 0) .notEmissionMinter
  let assignedId := g.controllerMinterIds controller
  require (¬ (assignedId ≠ 0 ∧ assignedId ≠ id)) .invalidMinterId
  if existing.controller ≠ controller then
    pure { g with
      controllerMinterIds := update (update g.controllerMinterIds existing.controller 0) controller id
      minters := update g.minters id ⟨controller, existing.shareBps, existing.editable⟩ }
  else pure g

def removeMinter (now : Nat) (sender : Address) (id : Word) : Tx GateError Gate := do
  g.requireOwner sender
  require (id ≠ 0) .invalidMinterId
  let existing := g.minters id
  require (existing.controller ≠ 0) .notEmissionMinter
  require (existing.editable = true) .minterNotEditable
  let total ← sub g.totalMinterShareBps existing.shareBps
  let startEpoch ← uint 256 (currentEpoch now + 1)
  pure { g with
    totalMinterShareBps := total
    minterShareCheckpoints := update g.minterShareCheckpoints id
      (recordMinterShare (g.minterShareCheckpoints id) startEpoch 0)
    minters := update g.minters id ⟨existing.controller, 0, existing.editable⟩ }

end

/-- The constructor; `sender` becomes the owner. -/
def construct (now : Nat) (sender teamWallet protocolReserve : Address)
    (teamShareBps reserveShareBps : Nat) : Tx GateError Gate := do
  decode 32 teamShareBps
  decode 32 reserveShareBps
  require (¬ (teamWallet = 0 ∨ protocolReserve = 0)) .invalidAddress
  let effectiveEpoch ← uint 256 (currentEpoch now + 1)
  let g : Gate := { effectiveEpoch := effectiveEpoch, owner := sender }
  let g ← g.setMinterAs now teamMinterId teamWallet teamShareBps false
  g.setMinterAs now reserveMinterId protocolReserve reserveShareBps false

variable (g : Gate)

def transferOwnership (sender newOwner : Address) : Tx GateError Gate := do
  g.requireOwner sender
  pure { g with pendingOwner := newOwner }

def acceptOwnership (sender : Address) : Tx GateError Gate := do
  require (sender = g.pendingOwner) .ownableUnauthorizedAccount
  pure { g with owner := sender, pendingOwner := 0 }

def renounceOwnership (sender : Address) : Tx GateError Gate := do
  g.requireOwner sender
  require (g.totalMinterShareBps = shareDenominator) .mintersNotSet
  require (g.legacyEscrow ≠ 0) .legacyEscrowNotFunded
  pure { g with owner := 0, pendingOwner := 0 }

def chargeMinterBudget (now : Nat) (id : Word) (controller : Address)
    (epoch amount : Nat) : Tx GateError Gate := do
  let minter := g.minters id
  require (¬ (minter.controller = 0 ∨ minter.controller ≠ controller)) .notEmissionMinter
  require (amount ≠ 0) .invalidValue
  require (epoch < currentEpoch now) .epochNotFinalized
  require (g.effectiveEpoch ≤ epoch) .preEffectiveEpoch
  require (g.legacyEscrow ≠ 0) .legacyEscrowNotFunded
  let newMinterMinted ← uint 256 (g.minterEpochMinted id epoch + amount)
  let shareBps ← g.minterShareBpsAt id epoch
  require (newMinterMinted ≤ shareBudget epoch shareBps) .bucketBudgetExceeded
  let minted ← uint 256 (g.epochMinted epoch + amount)
  require (minted ≤ getEpochEmission epoch) .epochEmissionExceeded
  pure { g with
    minterEpochMinted := update g.minterEpochMinted id
      (update (g.minterEpochMinted id) epoch newMinterMinted)
    epochMinted := update g.epochMinted epoch minted }

def claim (ants : Erc20) (now : Nat) (sender : Address) (epoch : Nat)
    (recipient : Address) (amount : Nat) : Tx GateError (Gate × Erc20) := do
  require (recipient ≠ 0) .invalidAddress
  let g ← g.chargeMinterBudget now (g.controllerMinterIds sender) sender epoch amount
  let ants ← antsMint ants recipient amount
  pure (g, ants)

def emissionsReserve : Address := (g.minters reserveMinterId).controller

/-- `if (amount != 0) _antsToken.mint(target, amount);` -/
def mintNonzero (ants : Erc20) (target : Address) (amount : Nat) : Tx GateError Erc20 :=
  if amount ≠ 0 then antsMint ants target amount else pure ants

/-- How much of a remainder is burned: up to the burn cap of the epoch. -/
def burnedPart (epoch amount : Nat) : Nat :=
  let burnCap := shareBudget epoch burnCapBps
  let alreadyBurned := g.epochBurnedAmount epoch
  if alreadyBurned < burnCap then
    if amount < burnCap - alreadyBurned then amount else burnCap - alreadyBurned
  else 0

/-- `claimRemainder`; returns the burned and the reserve part. -/
def claimRemainder (ants : Erc20) (now : Nat) (sender : Address) (epoch : Nat)
    (reserveRecipient : Address) (amount : Nat) : Tx GateError (Gate × Erc20 × Nat × Nat) := do
  let id := g.controllerMinterIds sender
  require (amount ≠ 0) .invalidValue
  let expectedReserve := g.emissionsReserve
  require (¬ (expectedReserve = 0 ∨ reserveRecipient ≠ expectedReserve)) .invalidAddress
  let g ← g.chargeMinterBudget now id sender epoch amount
  let burnedAmount := g.burnedPart epoch amount
  let burned ← uint 256 (g.epochBurnedAmount epoch + burnedAmount)
  let g := { g with epochBurnedAmount := update g.epochBurnedAmount epoch burned }
  let reserveAmount ← sub amount burnedAmount
  let ants ← mintNonzero ants deadAddress burnedAmount
  let ants ← mintNonzero ants reserveRecipient reserveAmount
  pure (g, ants, burnedAmount, reserveAmount)

def fundLegacyEscrow (ants : Erc20) (sender escrow : Address) :
    Tx GateError (Gate × Erc20) := do
  g.requireOwner sender
  require (escrow ≠ 0) .invalidAddress
  require (g.legacyEscrow = 0) .legacyEscrowAlreadyFunded
  let scheduled := cumulativeEmissionThrough g.effectiveEpoch
  let supply := ants.totalSupply
  let amount := if scheduled > supply then scheduled - supply else 0
  let ants ← mintNonzero ants escrow amount
  pure ({ g with legacyEscrow := escrow }, ants)

def minterEpochBudget (id : Word) (epoch : Nat) : Tx GateError Nat :=
  if (g.minters id).controller = 0 then pure 0
  else do
    let shareBps ← g.minterShareBpsAt id epoch
    pure (shareBudget epoch shareBps)

def controllerEpochBudget (controller : Address) (epoch : Nat) : Tx GateError Nat :=
  g.minterEpochBudget (g.controllerMinterIds controller) epoch

end Gate

structure GateState where
  now : Nat
  gate : Gate
  ants : Erc20

/-- Everything that can happen around the gate. -/
inductive GateOperation where
  | setMinter (id : Word) (controller : Address) (shareBps : Nat) (editable : Bool)
  | setMinterController (id : Word) (controller : Address)
  | removeMinter (id : Word)
  | claim (epoch : Nat) (recipient : Address) (amount : Nat)
  | claimRemainder (epoch : Nat) (reserveRecipient : Address) (amount : Nat)
  | fundLegacyEscrow (escrow : Address)
  | transferOwnership (newOwner : Address)
  | acceptOwnership
  | renounceOwnership
  | elapse (seconds : Nat)
  | antsTransfer (target : Address) (amount : Nat)
  | antsApprove (spender : Address) (amount : Nat)
  | antsTransferFrom (source target : Address) (amount : Nat)

structure GateCall where
  sender : Address
  op : GateOperation

def GateState.step (s : GateState) (call : GateCall) : Tx GateError GateState :=
  match call.op with
  | .setMinter id controller shareBps editable => do
      let gate ← s.gate.setMinter s.now call.sender id controller shareBps editable
      pure { s with gate := gate }
  | .setMinterController id controller => do
      let gate ← s.gate.setMinterController call.sender id controller
      pure { s with gate := gate }
  | .removeMinter id => do
      let gate ← s.gate.removeMinter s.now call.sender id
      pure { s with gate := gate }
  | .claim epoch recipient amount => do
      let (gate, ants) ← s.gate.claim s.ants s.now call.sender epoch recipient amount
      pure { s with gate := gate, ants := ants }
  | .claimRemainder epoch reserveRecipient amount => do
      let (gate, ants, _) ←
        s.gate.claimRemainder s.ants s.now call.sender epoch reserveRecipient amount
      pure { s with gate := gate, ants := ants }
  | .fundLegacyEscrow escrow => do
      let (gate, ants) ← s.gate.fundLegacyEscrow s.ants call.sender escrow
      pure { s with gate := gate, ants := ants }
  | .transferOwnership newOwner => do
      let gate ← s.gate.transferOwnership call.sender newOwner
      pure { s with gate := gate }
  | .acceptOwnership => do
      let gate ← s.gate.acceptOwnership call.sender
      pure { s with gate := gate }
  | .renounceOwnership => do
      let gate ← s.gate.renounceOwnership call.sender
      pure { s with gate := gate }
  | .elapse seconds => pure { s with now := s.now + seconds }
  | .antsTransfer target amount => do
      let ants ← s.ants.transfer call.sender target amount
      pure { s with ants := ants }
  | .antsApprove spender amount =>
    pure { s with ants := s.ants.approve call.sender spender amount }
  | .antsTransferFrom source target amount => do
      let ants ← s.ants.transferFrom call.sender source target amount
      pure { s with ants := ants }

/-- The operations that leave the shares and the mints of the gate alone. -/
def GateOperation.aside : GateOperation → Bool
  | .transferOwnership _ | .acceptOwnership | .renounceOwnership | .elapse _ | .antsTransfer ..
  | .antsApprove .. | .antsTransferFrom .. => true
  | _ => false

/-- What a call comes to that succeeds. -/
inductive GateStep (s : GateState) (sender : Address) : GateOperation → GateState → Prop where
  | setMinter {id : Word} {controller : Address} {shareBps : Nat} {editable : Bool} {gate : Gate} :
      s.gate.setMinterAs s.now id controller shareBps editable = .ok gate →
      GateStep s sender (.setMinter id controller shareBps editable) { s with gate := gate }
  | setMinterController {id : Word} {controller : Address} {gate : Gate} :
      s.gate.setMinterController sender id controller = .ok gate →
      GateStep s sender (.setMinterController id controller) { s with gate := gate }
  | removeMinter {id : Word} {gate : Gate} : s.gate.removeMinter s.now sender id = .ok gate →
      GateStep s sender (.removeMinter id) { s with gate := gate }
  | claim {epoch amount : Nat} {recipient : Address} {gate : Gate} {ants : Erc20} :
      s.gate.claim s.ants s.now sender epoch recipient amount = .ok (gate, ants) →
      GateStep s sender (.claim epoch recipient amount) { s with gate := gate, ants := ants }
  | claimRemainder {epoch amount : Nat} {recipient : Address} {gate : Gate} {ants : Erc20}
      {parts : Nat × Nat} :
      s.gate.claimRemainder s.ants s.now sender epoch recipient amount = .ok (gate, ants, parts) →
      GateStep s sender (.claimRemainder epoch recipient amount) { s with gate := gate, ants := ants }
  | fundLegacyEscrow {escrow : Address} {amount : Nat} {ants : Erc20} : escrow ≠ 0 →
      s.gate.legacyEscrow = 0 →
      s.ants.totalSupply + amount =
        max s.ants.totalSupply (cumulativeEmissionThrough s.gate.effectiveEpoch) →
      Gate.mintNonzero s.ants escrow amount = .ok ants →
      GateStep s sender (.fundLegacyEscrow escrow)
        { s with gate := { s.gate with legacyEscrow := escrow }, ants := ants }
  | owned {op : GateOperation} (owner pendingOwner : Address) : op.aside = true →
      GateStep s sender op { s with
        gate := { s.gate with owner := owner, pendingOwner := pendingOwner } }
  | idle {op : GateOperation} {now : Nat} {ants : Erc20} : op.aside = true → s.now ≤ now →
      ants.totalSupply = s.ants.totalSupply →
      (∀ account, account ≠ sender → s.ants.Keeps account ants) →
      GateStep s sender op { s with now := now, ants := ants }

theorem gateStep (h : s.step call = .ok s') :
    GateStep s call.sender call.op s' := by
  obtain ⟨sender, op⟩ := call
  cases op with
  | setMinter =>
    obtain ⟨gate, set, h⟩ := ran h
    cases h
    replace set := rest_ok set
    exact .setMinter (rest_ok set)
  | setMinterController =>
    obtain ⟨gate, set, h⟩ := ran h
    cases h
    exact .setMinterController set
  | removeMinter =>
    obtain ⟨gate, removed, h⟩ := ran h
    cases h
    exact .removeMinter removed
  | claim =>
    obtain ⟨⟨gate, ants⟩, claimed, h⟩ := ran h
    cases h
    exact .claim claimed
  | claimRemainder =>
    obtain ⟨⟨gate, ants, parts⟩, claimed, h⟩ := ran h
    cases h
    exact .claimRemainder claimed
  | fundLegacyEscrow =>
    obtain ⟨⟨gate, ants⟩, funded, h⟩ := ran h
    cases h
    replace funded := rest_ok funded
    obtain ⟨_, some, funded⟩ := ran funded
    obtain ⟨_, unfunded, funded⟩ := ran funded
    obtain ⟨minted, minting, funded⟩ := ran funded
    cases funded
    refine .fundLegacyEscrow (require_eq_ok.mp some) (require_eq_ok.mp unfunded) ?_ minting
    split <;> omega
  | transferOwnership | acceptOwnership =>
    obtain ⟨gate, set, h⟩ := ran h
    cases h
    replace set := rest_ok set
    cases set
    exact .owned _ _ rfl
  | renounceOwnership =>
    obtain ⟨gate, set, h⟩ := ran h
    cases h
    replace set := rest_ok set
    replace set := rest_ok set
    replace set := rest_ok set
    cases set
    exact .owned _ _ rfl
  | elapse =>
    cases h
    exact .idle rfl (Nat.le_add_right _ _) rfl fun account _ => .refl account _
  | antsTransfer =>
    obtain ⟨ants, moved, h⟩ := ran h
    cases h
    refine .idle rfl (Nat.le_refl _) ?_ fun account other => Erc20.keeps_transfer other moved
    obtain ⟨-, -, rfl⟩ := Erc20.transfer_eq_ok.mp moved
    rfl
  | antsApprove =>
    cases h
    exact .idle rfl (Nat.le_refl _) rfl fun account other => Erc20.keeps_approve other
  | antsTransferFrom =>
    obtain ⟨ants, moved, h⟩ := ran h
    cases h
    exact .idle rfl (Nat.le_refl _) (Erc20.transferFrom_eq_ok moved).2.2.2 fun account _ =>
      Erc20.keeps_transferFrom moved

theorem GateState.step_now {s s' : GateState} {call : GateCall} (h : s.step call = .ok s') :
    s.now ≤ s'.now := by
  have step := gateStep h
  generalize call.op = op at step
  cases step with
  | idle _ now => exact now
  | _ => exact Nat.le_refl _

def gateMachine : Machine GateState GateCall (Revert GateError) := ⟨GateState.step⟩

end AntSeed.Emissions
