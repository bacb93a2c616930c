import AntSeed.Emissions.Gate

/-! # AntseedEmissions and AntseedEmissionsV2

The two emissions contracts before the gate. Each epoch's emission is divided
among sellers and buyers by the points they earned in it, and a participant
claims every epoch once. V2 took over in the middle of the migration epoch: up
to that epoch it adds the points the first contract still holds to its own, and
it locks the rewards of sellers in a pool unless a policy lets them go.
-/

namespace AntSeed.Legacy

open Evm Function

/-- Errors of the emissions contracts, of the rewards pool and of the contracts they inherit. -/
inductive Error where
  | notAuthorized | epochNotFinalized | invalidShareSum | noProtocolReserve | noTeamWallet
  | noReserve | noTeamAccumulated | invalidAddress | invalidValue
  | invalidAmount | notEmissionsContract | noSellerClaimPolicy | nothingToClaim
  | ownableUnauthorizedAccount | enforcedPause | expectedPause
  | antsToken (error : Emissions.GateError)
  deriving DecidableEq, Repr

/-- What never changes: the clock and the schedule V2 reads from the first contract,
    the moment V2 was deployed, and the addresses of V2 and of the pool. -/
structure Deployment where
  genesis : Nat
  epochDuration : Nat
  halvingInterval : Nat
  initialEmission : Nat
  deployedAt : Nat
  v2 : Address
  pool : Address
  lasting : 0 < epochDuration
  started : genesis ≤ deployedAt

namespace Deployment

variable (r : Deployment)

def currentEpoch (now : Nat) : Tx Error Nat := do
  let elapsed ← sub now r.genesis
  div elapsed r.epochDuration

/-- `MIGRATION_EPOCH`: the epoch of the first contract when V2 was deployed. -/
def migrationEpoch : Nat := (r.deployedAt - r.genesis) / r.epochDuration

def getEpochEmission (epoch : Nat) : Nat := r.initialEmission >>> (epoch / r.halvingInterval)

end Deployment

/-- The answers of the outside contracts a call reaches. -/
structure External where
  /-- `registry.channels()` -/
  channels : Address
  protocolReserve : Address
  teamWallet : Address
  /-- `getOperator(buyer)` of the deposits -/
  operator : Address
  /-- whether the ANTS token lets the caller mint -/
  mints : Bool
  /-- whether the ANTS token lets the pool transfer -/
  transfers : Bool
  /-- the points policy; `none` if it reverts -/
  points : Option (Nat × Nat)
  /-- the unlock policy; `none` if it reverts -/
  unlocked : Option Bool
  /-- the registry of wash traders; `none` if it reverts -/
  provenWashTrader : Option Bool
  /-- whether a rewards pool other than the modelled one takes the record -/
  records : Bool

/-- `mint` of the ANTS token. -/
def antsMint (ants : Erc20) (ext : External) (target : Address) (amount : Nat) :
    Tx Error Erc20 := do
  external ext.mints
  bubble .antsToken (Emissions.antsMint ants target amount)

structure Side where
  epochTotalPoints : Nat → Nat := fun _ => 0
  userPoints : Address → Nat → Nat := fun _ _ => 0
  epochClaimed : Address → Nat → Bool := fun _ _ => false

namespace Side

def accrue (side : Side) (account : Address) (epoch pointsDelta : Nat) : Tx Error Side := do
  let points ← uint 256 (side.userPoints account epoch + pointsDelta)
  let total ← uint 256 (side.epochTotalPoints epoch + pointsDelta)
  pure { side with
    userPoints := update side.userPoints account (update (side.userPoints account) epoch points)
    epochTotalPoints := update side.epochTotalPoints epoch total }

def claim (side : Side) (account : Address) (epoch : Nat) : Side :=
  { side with
    epochClaimed := update side.epochClaimed account (update (side.epochClaimed account) epoch true) }

end Side

/-- Percentages of an epoch's emission, and the cap on one seller's part. -/
structure Shares where
  sellerSharePct : Nat := 0
  buyerSharePct : Nat := 0
  reserveSharePct : Nat := 0
  teamSharePct : Nat := 0
  maxSellerSharePct : Nat := 0
  deriving DecidableEq, Repr

def Shares.setSharePercentages (shares : Shares) (sellerPct buyerPct reservePct teamPct : Nat) :
    Tx Error Shares := do
  let sum ← uint 256 (sellerPct + buyerPct + reservePct + teamPct)
  require (sum = 100) .invalidShareSum
  pure { shares with
    sellerSharePct := sellerPct
    buyerSharePct := buyerPct
    reserveSharePct := reservePct
    teamSharePct := teamPct }

/-- A participant's part of the budget, capped, and what the cap cut off. -/
def cappedReward (emission sharePct maxSharePct userPoints totalPoints : Nat) :
    Tx Error (Nat × Nat) := do
  let share ← uint 256 (emission * sharePct)
  let budget := share / 100
  let weighted ← uint 256 (userPoints * budget)
  let reward ← div weighted totalPoints
  let cap ← uint 256 (budget * maxSharePct)
  let maxReward := cap / 100
  if maxReward < reward then pure (maxReward, reward - maxReward) else pure (reward, 0)

/-- What is set aside of an epoch for the reserve and for the team. -/
structure Treasury where
  reserveAccumulated : Nat := 0
  teamAccumulated : Nat := 0
  epochNonUserAccounted : Nat → Bool := fun _ => false

namespace Treasury

/-- `epochNonUserAccounted[epoch] = true`, with the shares if this contract owes them. -/
def account (t : Treasury) (emission : Nat) (shares : Shares) (owed : Bool) (epoch : Nat) :
    Tx Error Treasury :=
  if t.epochNonUserAccounted epoch = true then pure t
  else do
    let t := { t with epochNonUserAccounted := update t.epochNonUserAccounted epoch true }
    if owed = true then do
      let reserve ← uint 256 (emission * shares.reserveSharePct)
      let reserveAccumulated ← uint 256 (t.reserveAccumulated + reserve / 100)
      let team ← uint 256 (emission * shares.teamSharePct)
      let teamAccumulated ← uint 256 (t.teamAccumulated + team / 100)
      pure { t with reserveAccumulated, teamAccumulated }
    else pure t

/-- What a cap cut off goes to the reserve. -/
def keep (t : Treasury) (excess : Nat) : Tx Error Treasury := do
  let reserveAccumulated ← uint 256 (t.reserveAccumulated + excess)
  pure { t with reserveAccumulated }

def flushReserve (t : Treasury) (ants : Erc20) (ext : External) : Tx Error (Treasury × Erc20) := do
  require (ext.protocolReserve ≠ 0) .noProtocolReserve
  require (t.reserveAccumulated ≠ 0) .noReserve
  let ants ← antsMint ants ext ext.protocolReserve t.reserveAccumulated
  pure ({ t with reserveAccumulated := 0 }, ants)

def flushTeam (t : Treasury) (ants : Erc20) (ext : External) : Tx Error (Treasury × Erc20) := do
  require (ext.teamWallet ≠ 0) .noTeamWallet
  require (t.teamAccumulated ≠ 0) .noTeamAccumulated
  let ants ← antsMint ants ext ext.teamWallet t.teamAccumulated
  pure ({ t with teamAccumulated := 0 }, ants)

end Treasury

/-- `Ownable` and `Pausable`. -/
def requireOwner (owner sender : Address) : Tx Error Unit :=
  require (sender = owner) .ownableUnauthorizedAccount

def whenNotPaused (paused : Bool) : Tx Error Unit := require (paused = false) .enforcedPause

def onlyChannels (ext : External) (sender : Address) : Tx Error Unit :=
  require (sender = ext.channels) .notAuthorized

/-- What the two contracts share: their owner, the shares of the epochs to come and the treasury. -/
structure Base where
  owner : Address
  paused : Bool := false
  shares : Shares
  treasury : Treasury := {}

/-- A call that only the owner of an emissions contract may make. -/
inductive OwnerCall where
  | flushReserve
  | flushTeam
  | setSharePercentages (sellerPct buyerPct reservePct teamPct : Nat)
  | setMaxSellerSharePct (value : Nat)
  | pause
  | unpause
  | transferOwnership (newOwner : Address)

def Base.administer (b : Base) (ants : Erc20) (ext : External) (sender : Address)
    (call : OwnerCall) : Tx Error (Base × Erc20) := do
  requireOwner b.owner sender
  match call with
  | .flushReserve => do
      let (treasury, ants) ← b.treasury.flushReserve ants ext
      pure ({ b with treasury }, ants)
  | .flushTeam => do
      let (treasury, ants) ← b.treasury.flushTeam ants ext
      pure ({ b with treasury }, ants)
  | .setSharePercentages sellerPct buyerPct reservePct teamPct => do
      let shares ← b.shares.setSharePercentages sellerPct buyerPct reservePct teamPct
      pure ({ b with shares }, ants)
  | .setMaxSellerSharePct value => do
      require (value ≤ 100) .invalidValue
      pure ({ b with shares := { b.shares with maxSellerSharePct := value } }, ants)
  | .pause => do
      whenNotPaused b.paused
      pure ({ b with paused := true }, ants)
  | .unpause => do
      require (b.paused = true) .expectedPause
      pure ({ b with paused := false }, ants)
  | .transferOwnership newOwner => do
      require (newOwner ≠ 0) .invalidAddress
      pure ({ b with owner := newOwner }, ants)

namespace V1

structure EpochParams where
  shares : Shares := {}
  initialized : Bool := false
  deriving DecidableEq, Repr

end V1

/-- The first emissions contract. -/
structure AntseedEmissions where
  base : Base
  epochParams : Nat → V1.EpochParams := fun _ => {}
  sellers : Side := {}
  buyers : Side := {}

namespace AntseedEmissions

variable (r : Deployment)

def snapshotEpoch (e : AntseedEmissions) (epoch : Nat) : AntseedEmissions :=
  if (e.epochParams epoch).initialized = true then e
  else { e with epochParams := update e.epochParams epoch ⟨e.base.shares, true⟩ }

def accrueSellerPoints (e : AntseedEmissions) (now : Nat) (ext : External) (sender seller : Address)
    (pointsDelta : Nat) : Tx Error AntseedEmissions := do
  onlyChannels ext sender
  whenNotPaused e.base.paused
  let epoch ← r.currentEpoch now
  let e := e.snapshotEpoch epoch
  let sellers ← e.sellers.accrue seller epoch pointsDelta
  pure { e with sellers }

def accrueBuyerPoints (e : AntseedEmissions) (now : Nat) (ext : External) (sender buyer : Address)
    (pointsDelta : Nat) : Tx Error AntseedEmissions := do
  onlyChannels ext sender
  whenNotPaused e.base.paused
  let epoch ← r.currentEpoch now
  let e := e.snapshotEpoch epoch
  let buyers ← e.buyers.accrue buyer epoch pointsDelta
  pure { e with buyers }

def accountReserveAndTeam (e : AntseedEmissions) (epoch : Nat) : Tx Error AntseedEmissions := do
  let treasury ← e.base.treasury.account (r.getEpochEmission epoch) (e.epochParams epoch).shares true epoch
  pure { e with base.treasury := treasury }

/-- The loop of `claimSellerEmissions`. -/
def claimSellerEpochs (sender : Address) (currentEpoch : Nat) :
    AntseedEmissions → Nat → List Nat → Tx Error (AntseedEmissions × Nat)
  | e, totalReward, [] => pure (e, totalReward)
  | e, totalReward, epoch :: epochs => do
      require (epoch < currentEpoch) .epochNotFinalized
      if e.sellers.epochClaimed sender epoch = true ∨ e.sellers.userPoints sender epoch = 0 then
        claimSellerEpochs sender currentEpoch e totalReward epochs
      else do
        let e := { e with sellers := e.sellers.claim sender epoch }
        let e ← e.accountReserveAndTeam r epoch
        let shares := (e.epochParams epoch).shares
        let (reward, excess) ← cappedReward (r.getEpochEmission epoch) shares.sellerSharePct
          shares.maxSellerSharePct (e.sellers.userPoints sender epoch) (e.sellers.epochTotalPoints epoch)
        let treasury ← e.base.treasury.keep excess
        let totalReward ← uint 256 (totalReward + reward)
        claimSellerEpochs sender currentEpoch { e with base.treasury := treasury } totalReward epochs

/-- The loop of `claimBuyerEmissions`; the first contract caps no buyer. -/
def claimBuyerEpochs (buyer : Address) (currentEpoch : Nat) :
    AntseedEmissions → Nat → List Nat → Tx Error (AntseedEmissions × Nat)
  | e, totalReward, [] => pure (e, totalReward)
  | e, totalReward, epoch :: epochs => do
      require (epoch < currentEpoch) .epochNotFinalized
      if e.buyers.epochClaimed buyer epoch = true ∨ e.buyers.userPoints buyer epoch = 0 then
        claimBuyerEpochs buyer currentEpoch e totalReward epochs
      else do
        let e := { e with buyers := e.buyers.claim buyer epoch }
        let e ← e.accountReserveAndTeam r epoch
        let share ← uint 256 (r.getEpochEmission epoch * (e.epochParams epoch).shares.buyerSharePct)
        let weighted ← uint 256 (e.buyers.userPoints buyer epoch * (share / 100))
        let reward ← div weighted (e.buyers.epochTotalPoints epoch)
        let totalReward ← uint 256 (totalReward + reward)
        claimBuyerEpochs buyer currentEpoch e totalReward epochs

def claimSellerEmissions (e : AntseedEmissions) (ants : Erc20) (now : Nat) (ext : External)
    (sender : Address) (epochs : List Nat) : Tx Error (AntseedEmissions × Erc20) := do
  whenNotPaused e.base.paused
  let currentEpoch ← r.currentEpoch now
  let (e, totalReward) ← claimSellerEpochs r sender currentEpoch e 0 epochs
  if 0 < totalReward then do
    let ants ← antsMint ants ext sender totalReward
    pure (e, ants)
  else pure (e, ants)

def claimBuyerEmissions (e : AntseedEmissions) (ants : Erc20) (now : Nat) (ext : External)
    (sender buyer : Address) (epochs : List Nat) : Tx Error (AntseedEmissions × Erc20) := do
  whenNotPaused e.base.paused
  require (ext.operator = sender) .notAuthorized
  let currentEpoch ← r.currentEpoch now
  let (e, totalReward) ← claimBuyerEpochs r buyer currentEpoch e 0 epochs
  if 0 < totalReward then do
    let ants ← antsMint ants ext sender totalReward
    pure (e, ants)
  else pure (e, ants)

end AntseedEmissions

structure EpochParams where
  shares : Shares := {}
  maxBuyerSharePct : Nat := 0
  initialized : Bool := false
  deriving DecidableEq, Repr

structure AntseedEmissionsV2 where
  base : Base
  sellerRewardsPool : Address
  sellerUnlockPolicy : Address := 0
  pointsPolicy : Address := 0
  maxBuyerSharePct : Nat := 5
  epochParams : Nat → EpochParams := fun _ => {}
  sellers : Side := {}
  buyers : Side := {}

namespace AntseedEmissionsV2

variable (r : Deployment)

def legacyParamsForEpoch (legacy : AntseedEmissions) (epoch : Nat) : EpochParams :=
  ⟨(legacy.epochParams epoch).shares, 100, (legacy.epochParams epoch).initialized⟩

/-- The constructor: the epochs up to the migration are snapshotted as the first contract has them. -/
def deployed (legacy : AntseedEmissions) (owner : Address) : AntseedEmissionsV2 where
  base := { owner, shares := legacy.base.shares }
  sellerRewardsPool := r.pool
  epochParams epoch := if epoch ≤ r.migrationEpoch then legacyParamsForEpoch legacy epoch else {}

section

variable (e : AntseedEmissionsV2)

def snapshotEpoch (epoch : Nat) : AntseedEmissionsV2 :=
  if (e.epochParams epoch).initialized = true then e
  else { e with epochParams := update e.epochParams epoch ⟨e.base.shares, e.maxBuyerSharePct, true⟩ }

/-- `_policyPoints`: a policy that reverts counts as no policy. -/
def policyPoints (ext : External) (rawPoints : Nat) : Nat × Nat :=
  if e.pointsPolicy = 0 then (rawPoints, rawPoints)
  else ext.points.getD (rawPoints, rawPoints)

def accrueSellerPoints (now : Nat) (ext : External)
    (sender seller : Address) (pointsDelta : Nat) : Tx Error AntseedEmissionsV2 := do
  onlyChannels ext sender
  whenNotPaused e.base.paused
  let epoch ← r.currentEpoch now
  let e := e.snapshotEpoch epoch
  let sellers ← e.sellers.accrue seller epoch pointsDelta
  pure { e with sellers }

def accrueBuyerPoints (now : Nat) (ext : External) (sender buyer : Address)
    (pointsDelta : Nat) : Tx Error AntseedEmissionsV2 := do
  onlyChannels ext sender
  whenNotPaused e.base.paused
  let epoch ← r.currentEpoch now
  let e := e.snapshotEpoch epoch
  let buyers ← e.buyers.accrue buyer epoch pointsDelta
  pure { e with buyers }

def accruePoints (now : Nat) (ext : External) (sender buyer seller : Address)
    (pointsDelta : Nat) : Tx Error AntseedEmissionsV2 := do
  onlyChannels ext sender
  whenNotPaused e.base.paused
  let epoch ← r.currentEpoch now
  let (creditedSellerPoints, creditedBuyerPoints) := e.policyPoints ext pointsDelta
  let e := e.snapshotEpoch epoch
  let sellers ← e.sellers.accrue seller epoch creditedSellerPoints
  let buyers ← e.buyers.accrue buyer epoch creditedBuyerPoints
  pure { e with sellers, buyers }

/-- `_sellerEpochClaimed` and `_buyerEpochClaimed` -/
def epochClaimed (side legacy : Side) (account : Address) (epoch : Nat) : Bool :=
  if side.epochClaimed account epoch = true then true
  else if epoch < r.migrationEpoch then legacy.epochClaimed account epoch
  else false

/-- `_combinedUserSellerPoints` and `_combinedUserBuyerPoints` -/
def combinedUserPoints (side legacy : Side) (account : Address) (epoch : Nat) : Tx Error Nat :=
  if epoch ≤ r.migrationEpoch then
    uint 256 (side.userPoints account epoch + legacy.userPoints account epoch)
  else pure (side.userPoints account epoch)

/-- `_combinedTotalSellerPoints` and `_combinedTotalBuyerPoints` -/
def combinedTotalPoints (side legacy : Side) (epoch : Nat) : Tx Error Nat :=
  if epoch ≤ r.migrationEpoch then
    uint 256 (side.epochTotalPoints epoch + legacy.epochTotalPoints epoch)
  else pure (side.epochTotalPoints epoch)

/-- Epochs before the migration were accounted for by the first contract. -/
def accountReserveAndTeam (epoch : Nat) : Tx Error AntseedEmissionsV2 := do
  let treasury ← e.base.treasury.account (r.getEpochEmission epoch) (e.epochParams epoch).shares
    (decide (r.migrationEpoch ≤ epoch)) epoch
  pure { e with base.treasury := treasury }

end

/-- The loop of `claimSellerEmissions`. -/
def claimSellerEpochs (legacy : AntseedEmissions) (sender : Address) (currentEpoch : Nat) :
    AntseedEmissionsV2 → Nat → List Nat → Tx Error (AntseedEmissionsV2 × Nat)
  | e, totalReward, [] => pure (e, totalReward)
  | e, totalReward, epoch :: epochs => do
      require (epoch < currentEpoch) .epochNotFinalized
      if epochClaimed r e.sellers legacy.sellers sender epoch = true then
        claimSellerEpochs legacy sender currentEpoch e totalReward epochs
      else do
        let userSP ← combinedUserPoints r e.sellers legacy.sellers sender epoch
        if userSP = 0 then claimSellerEpochs legacy sender currentEpoch e totalReward epochs
        else do
          let totalSP ← combinedTotalPoints r e.sellers legacy.sellers epoch
          if totalSP = 0 then claimSellerEpochs legacy sender currentEpoch e totalReward epochs
          else do
            let e := { e with sellers := e.sellers.claim sender epoch }
            let e ← e.accountReserveAndTeam r epoch
            let params := e.epochParams epoch
            let (reward, excess) ← cappedReward (r.getEpochEmission epoch)
              params.shares.sellerSharePct params.shares.maxSellerSharePct userSP totalSP
            let treasury ← e.base.treasury.keep excess
            let totalReward ← uint 256 (totalReward + reward)
            claimSellerEpochs legacy sender currentEpoch { e with base.treasury := treasury } totalReward epochs

/-- The loop of `claimBuyerEmissions`. -/
def claimBuyerEpochs (legacy : AntseedEmissions) (buyer : Address) (currentEpoch : Nat) :
    AntseedEmissionsV2 → Nat → List Nat → Tx Error (AntseedEmissionsV2 × Nat)
  | e, totalReward, [] => pure (e, totalReward)
  | e, totalReward, epoch :: epochs => do
      require (epoch < currentEpoch) .epochNotFinalized
      if epochClaimed r e.buyers legacy.buyers buyer epoch = true then
        claimBuyerEpochs legacy buyer currentEpoch e totalReward epochs
      else do
        let userBP ← combinedUserPoints r e.buyers legacy.buyers buyer epoch
        if userBP = 0 then claimBuyerEpochs legacy buyer currentEpoch e totalReward epochs
        else do
          let totalBP ← combinedTotalPoints r e.buyers legacy.buyers epoch
          if totalBP = 0 then claimBuyerEpochs legacy buyer currentEpoch e totalReward epochs
          else do
            let e := { e with buyers := e.buyers.claim buyer epoch }
            let e ← e.accountReserveAndTeam r epoch
            let params := e.epochParams epoch
            let (reward, excess) ← cappedReward (r.getEpochEmission epoch)
              params.shares.buyerSharePct params.maxBuyerSharePct userBP totalBP
            let treasury ← e.base.treasury.keep excess
            let totalReward ← uint 256 (totalReward + reward)
            claimBuyerEpochs legacy buyer currentEpoch { e with base.treasury := treasury } totalReward epochs

variable (e : AntseedEmissionsV2)

def claimBuyerEmissions (legacy : AntseedEmissions) (ants : Erc20)
    (now : Nat) (ext : External) (sender buyer : Address) (epochs : List Nat) :
    Tx Error (AntseedEmissionsV2 × Erc20) := do
  whenNotPaused e.base.paused
  require (ext.operator = sender) .notAuthorized
  let currentEpoch ← r.currentEpoch now
  let (e, totalReward) ← claimBuyerEpochs r legacy buyer currentEpoch e 0 epochs
  if 0 < totalReward then do
    let ants ← antsMint ants ext sender totalReward
    pure (e, ants)
  else pure (e, ants)

/-- `_canClaimSellerUnlocked`: a policy that reverts unlocks nothing. -/
def canClaimSellerUnlocked (ext : External) : Bool :=
  if e.sellerUnlockPolicy = 0 then false else ext.unlocked.getD false

inductive V2OwnerCall where
  | shared (call : OwnerCall)
  | setMaxBuyerSharePct (value : Nat)
  | setSellerRewardsPool (pool : Address)
  | setSellerUnlockPolicy (policy : Address)
  | setPointsPolicy (policy : Address)

def administer (ants : Erc20) (ext : External) (sender : Address) :
    V2OwnerCall → Tx Error (AntseedEmissionsV2 × Erc20)
  | .shared call => do
      let (base, ants) ← e.base.administer ants ext sender call
      pure ({ e with base }, ants)
  | .setMaxBuyerSharePct value => do
      requireOwner e.base.owner sender
      require (value ≤ 100) .invalidValue
      pure ({ e with maxBuyerSharePct := value }, ants)
  | .setSellerRewardsPool pool => do
      requireOwner e.base.owner sender
      require (pool ≠ 0) .invalidAddress
      pure ({ e with sellerRewardsPool := pool }, ants)
  | .setSellerUnlockPolicy policy => do
      requireOwner e.base.owner sender
      pure ({ e with sellerUnlockPolicy := policy }, ants)
  | .setPointsPolicy policy => do
      requireOwner e.base.owner sender
      pure ({ e with pointsPolicy := policy }, ants)

end AntseedEmissionsV2

end AntSeed.Legacy
