import AntSeed.Legacy.AntseedEmissions

/-! # AntseedSellerRewardsPool and AntseedLegacySellerClaimPolicy

The pool keeps the locked rewards of every seller and lets a seller take what a
policy allows. The policy keeps nothing: it adds up again, epoch by epoch, what
V2 ever locked for the seller, takes the difference to what is still locked for
released, and allows a fixed share of the total less that.
-/

namespace AntSeed.Legacy

open Evm Function

def BPS : Nat := 10000

/-- A claim policy for this V2, with what its constructor checks. -/
structure AntseedLegacySellerClaimPolicy (r : Deployment) where
  lastEpoch : Nat
  releaseBps : Nat
  reaches : r.migrationEpoch ≤ lastEpoch
  positive : 0 < releaseBps
  bounded : releaseBps ≤ BPS

variable (r : Deployment)

inductive PoolEvent where
  | lockedRewardRecorded (seller : Address) (amount : Nat)
  | sellerRewardsClaimed (seller recipient : Address) (amount : Nat)
  | sellerClaimPolicySet (policy : Option (AntseedLegacySellerClaimPolicy r))

/-- The pool, with the events it has emitted, the latest first. -/
structure AntseedSellerRewardsPool where
  owner : Address
  sellerClaimPolicy : Option (AntseedLegacySellerClaimPolicy r) := none
  lockedRewards : Address → Nat := fun _ => 0
  totalLockedRewards : Nat := 0
  events : List (PoolEvent r) := []

/-- The contracts as one system. -/
structure State where
  now : Nat
  legacy : AntseedEmissions
  v2 : AntseedEmissionsV2
  pool : AntseedSellerRewardsPool r
  ants : Erc20

/-- V2 and the pool as they are deployed beside the first contract, whatever state that is in. -/
def deployed (legacy : AntseedEmissions) (ants : Erc20) (v2Owner poolOwner : Address) : State r where
  now := r.deployedAt
  legacy := legacy
  v2 := .deployed r legacy v2Owner
  pool := { owner := poolOwner }
  ants := ants

variable {r}

namespace AntseedLegacySellerClaimPolicy

variable (p : AntseedLegacySellerClaimPolicy r)

variable (legacy : AntseedEmissions)

variable (v2 : AntseedEmissionsV2)

/-- The points of a seller and of all sellers; those of the first contract are merged up to the
    migration. -/
def mergedPoints (seller : Address)
    (epoch : Nat) : Tx Error (Nat × Nat) :=
  if epoch ≤ r.migrationEpoch then do
    let sellerPoints ← uint 256
      (v2.sellers.userPoints seller epoch + legacy.sellers.userPoints seller epoch)
    let totalSellerPoints ← uint 256
      (v2.sellers.epochTotalPoints epoch + legacy.sellers.epochTotalPoints epoch)
    pure (sellerPoints, totalSellerPoints)
  else pure (v2.sellers.userPoints seller epoch, v2.sellers.epochTotalPoints epoch)

/-- One round of the loop of `cumulativeLocked`. -/
def addEpoch (seller : Address)
    (total epoch : Nat) : Tx Error Nat :=
  if v2.sellers.epochClaimed seller epoch = false then pure total
  else do
    let (sellerPoints, totalSellerPoints) ← mergedPoints (r := r) legacy v2 seller epoch
    if sellerPoints = 0 ∨ totalSellerPoints = 0 then pure total
    else do
      let shares := (v2.epochParams epoch).shares
      let share ← uint 256 (r.getEpochEmission epoch * shares.sellerSharePct)
      let sellerBudget := share / 100
      let weighted ← uint 256 (sellerPoints * sellerBudget)
      let reward ← div weighted totalSellerPoints
      let cap ← uint 256 (sellerBudget * shares.maxSellerSharePct)
      let maxReward := cap / 100
      uint 256 (total + if maxReward < reward then maxReward else reward)

/-- The loop over the first epochs. -/
def cumulativeThrough (legacy : AntseedEmissions) (v2 : AntseedEmissionsV2) (seller : Address) :
    Nat → Tx Error Nat
  | 0 => pure 0
  | epochs + 1 => do
      let total ← cumulativeThrough legacy v2 seller epochs
      addEpoch (r := r) legacy v2 seller total epochs

def cumulativeLocked (seller : Address) :
    Tx Error Nat :=
  cumulativeThrough (r := r) legacy v2 seller (p.lastEpoch + 1)

def entitledOf (cumulative : Nat) : Tx Error Nat := do
  let product ← uint 256 (cumulative * p.releaseBps)
  pure (product / BPS)

def claimableSellerRewards (ext : External)
    (seller : Address) (locked : Nat) : Tx Error Nat :=
  if locked = 0 then pure 0
  else do
    let isWashTrader ← answer ext.provenWashTrader
    if isWashTrader = true then pure 0
    else do
      let counted ← p.cumulativeLocked legacy v2 seller
      let cumulative := if counted < locked then locked else counted
      let released ← sub cumulative locked
      let entitled ← p.entitledOf cumulative
      let claimable := if released < entitled then entitled - released else 0
      pure (if locked < claimable then locked else claimable)

end AntseedLegacySellerClaimPolicy

namespace AntseedSellerRewardsPool

variable (pool : AntseedSellerRewardsPool r)

def recordLockedReward (sender seller : Address) (amount : Nat) :
    Tx Error (AntseedSellerRewardsPool r) := do
  require (sender = r.v2) .notEmissionsContract
  require (seller ≠ 0) .invalidAddress
  require (amount ≠ 0) .invalidAmount
  let locked ← uint 256 (pool.lockedRewards seller + amount)
  let total ← uint 256 (pool.totalLockedRewards + amount)
  pure { pool with
    lockedRewards := update pool.lockedRewards seller locked
    totalLockedRewards := total
    events := .lockedRewardRecorded seller amount :: pool.events }

def setSellerClaimPolicy (sender : Address) (policy : Option (AntseedLegacySellerClaimPolicy r)) :
    Tx Error (AntseedSellerRewardsPool r) := do
  requireOwner pool.owner sender
  pure { pool with
    sellerClaimPolicy := policy
    events := .sellerClaimPolicySet policy :: pool.events }

def transferOwnership (sender newOwner : Address) : Tx Error (AntseedSellerRewardsPool r) := do
  requireOwner pool.owner sender
  require (newOwner ≠ 0) .invalidAddress
  pure { pool with owner := newOwner }

end AntseedSellerRewardsPool

namespace State

variable (s : State r)

/-- `claim` of the pool. -/
def claim (ext : External) (sender recipient : Address) : Tx Error (State r) := do
  require (recipient ≠ 0) .invalidAddress
  match s.pool.sellerClaimPolicy with
  | none => .error (.custom .noSellerClaimPolicy)
  | some policy => do
      let locked := s.pool.lockedRewards sender
      let claimable ← policy.claimableSellerRewards s.legacy s.v2 ext sender locked
      let amount := if locked < claimable then locked else claimable
      require (amount ≠ 0) .nothingToClaim
      let remaining ← sub locked amount
      let total ← sub s.pool.totalLockedRewards amount
      external ext.transfers
      let ants ← s.ants.transfer r.pool recipient amount
      pure { s with
        ants
        pool := { s.pool with
          lockedRewards := update s.pool.lockedRewards sender remaining
          totalLockedRewards := total
          events := .sellerRewardsClaimed sender recipient amount :: s.pool.events } }

/-- `claimSellerEmissions` of V2. -/
def claimSellerEmissions (ext : External) (sender : Address) (epochs : List Nat) :
    Tx Error (State r) := do
  whenNotPaused s.v2.base.paused
  let currentEpoch ← r.currentEpoch s.now
  let (v2, totalReward) ← s.v2.claimSellerEpochs r s.legacy sender currentEpoch 0 epochs
  if 0 < totalReward then
    if v2.canClaimSellerUnlocked ext = true then do
      let ants ← antsMint s.ants ext sender totalReward
      pure { s with v2, ants }
    else do
      let ants ← antsMint s.ants ext v2.sellerRewardsPool totalReward
      if v2.sellerRewardsPool = r.pool then do
        let pool ← s.pool.recordLockedReward r.v2 sender totalReward
        pure { s with v2, ants, pool }
      else do
        external ext.records
        pure { s with v2, ants }
  else pure { s with v2 }

end State

inductive Op (r : Deployment) where
  | legacyAccrueSellerPoints (seller : Address) (pointsDelta : Nat)
  | legacyAccrueBuyerPoints (buyer : Address) (pointsDelta : Nat)
  | legacyClaimSellerEmissions (epochs : List Nat)
  | legacyClaimBuyerEmissions (buyer : Address) (epochs : List Nat)
  | legacyAdminister (call : OwnerCall)
  | accrueSellerPoints (seller : Address) (pointsDelta : Nat)
  | accrueBuyerPoints (buyer : Address) (pointsDelta : Nat)
  | accruePoints (buyer seller : Address) (pointsDelta : Nat)
  | claimSellerEmissions (epochs : List Nat)
  | claimBuyerEmissions (buyer : Address) (epochs : List Nat)
  | administer (call : AntseedEmissionsV2.V2OwnerCall)
  | recordLockedReward (seller : Address) (amount : Nat)
  | claim (recipient : Address)
  | setSellerClaimPolicy (policy : Option (AntseedLegacySellerClaimPolicy r))
  | transferPoolOwnership (newOwner : Address)
  | antsTransfer (target : Address) (amount : Nat)
  | elapse (seconds : Nat)

/-- A call from outside: V2 and the pool make none of their own. -/
structure Call (r : Deployment) where
  sender : Address
  ext : External
  op : Op r
  outside : sender ≠ r.v2 ∧ sender ≠ r.pool

def step (s : State r) (call : Call r) : Tx Error (State r) :=
  match call.op with
  | .legacyAccrueSellerPoints seller pointsDelta => do
      let legacy ← s.legacy.accrueSellerPoints r s.now call.ext call.sender seller pointsDelta
      pure { s with legacy }
  | .legacyAccrueBuyerPoints buyer pointsDelta => do
      let legacy ← s.legacy.accrueBuyerPoints r s.now call.ext call.sender buyer pointsDelta
      pure { s with legacy }
  | .legacyClaimSellerEmissions epochs => do
      let (legacy, ants) ← s.legacy.claimSellerEmissions r s.ants s.now call.ext call.sender epochs
      pure { s with legacy, ants }
  | .legacyClaimBuyerEmissions buyer epochs => do
      let (legacy, ants) ← s.legacy.claimBuyerEmissions r s.ants s.now call.ext call.sender buyer epochs
      pure { s with legacy, ants }
  | .legacyAdminister owned => do
      let (base, ants) ← s.legacy.base.administer s.ants call.ext call.sender owned
      pure { s with legacy := { s.legacy with base }, ants }
  | .accrueSellerPoints seller pointsDelta => do
      let v2 ← s.v2.accrueSellerPoints r s.now call.ext call.sender seller pointsDelta
      pure { s with v2 }
  | .accrueBuyerPoints buyer pointsDelta => do
      let v2 ← s.v2.accrueBuyerPoints r s.now call.ext call.sender buyer pointsDelta
      pure { s with v2 }
  | .accruePoints buyer seller pointsDelta => do
      let v2 ← s.v2.accruePoints r s.now call.ext call.sender buyer seller pointsDelta
      pure { s with v2 }
  | .claimSellerEmissions epochs => s.claimSellerEmissions call.ext call.sender epochs
  | .claimBuyerEmissions buyer epochs => do
      let (v2, ants) ← s.v2.claimBuyerEmissions r s.legacy s.ants s.now call.ext call.sender buyer epochs
      pure { s with v2, ants }
  | .administer owned => do
      let (v2, ants) ← s.v2.administer s.ants call.ext call.sender owned
      pure { s with v2, ants }
  | .recordLockedReward seller amount => do
      let pool ← s.pool.recordLockedReward call.sender seller amount
      pure { s with pool }
  | .claim recipient => s.claim call.ext call.sender recipient
  | .setSellerClaimPolicy policy => do
      let pool ← s.pool.setSellerClaimPolicy call.sender policy
      pure { s with pool }
  | .transferPoolOwnership newOwner => do
      let pool ← s.pool.transferOwnership call.sender newOwner
      pure { s with pool }
  | .antsTransfer target amount => do
      let ants ← s.ants.transfer call.sender target amount
      pure { s with ants }
  | .elapse seconds => pure { s with now := s.now + seconds }

def machine (r : Deployment) : Machine (State r) (Call r) (Revert Error) := ⟨step⟩

end AntSeed.Legacy
