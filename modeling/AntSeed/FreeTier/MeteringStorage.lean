import Mathlib.Data.List.Basic

/-! # The free tier's usage on disk

A request is counted under the address and the remote address of its buyer, or on the staked positions
that back it, and is admitted if each of these has room in a window that slides.
-/

namespace AntSeed.FreeTier

inductive FreeTierLimitKind where
  | address
  | ip
  | stake
  | stakeRequired
  deriving DecidableEq

structure FreeTierConsumption where
  allowed : Bool
  remaining : Int
  retryAfterMs : Int
  limitedBy : Option FreeTierLimitKind
  deriving DecidableEq

structure FreeTierLimitCheck where
  kind : FreeTierLimitKind
  limit : Int
  /-- Requests already recorded for this key inside the window. -/
  count : Nat
  oldestTimestamp : Option Int
  deriving DecidableEq

/-- How long until the oldest request leaves the window. -/
def FreeTierLimitCheck.retryAfterMs (check : FreeTierLimitCheck) (windowMs nowMs : Int) : Int :=
  match check.oldestTimestamp with
  | none => windowMs
  | some oldestTimestamp => max 1 (oldestTimestamp + windowMs - nowMs)

/-- One more check: the denial with the longest wait, and how many requests remain. -/
def evaluateFreeTierLimit (windowMs nowMs : Int) (verdict : Option FreeTierConsumption × Option Int)
    (check : FreeTierLimitCheck) : Option FreeTierConsumption × Option Int :=
  let retryAfterMs := check.retryAfterMs windowMs nowMs
  let denied :=
    if check.limit ≤ check.count ∧ verdict.1.all fun denied => retryAfterMs > denied.retryAfterMs then
      some { allowed := false, remaining := 0, retryAfterMs, limitedBy := some check.kind }
    else verdict.1
  let room := check.limit - check.count - 1
  (denied, some (verdict.2.elim room (min · room)))

/-- Whether one more request fits under every limit. -/
def evaluateFreeTierLimits (checks : List FreeTierLimitCheck) (windowMs nowMs : Int) : FreeTierConsumption :=
  match checks.foldl (evaluateFreeTierLimit windowMs nowMs) (none, none) with
  | (some denied, _) => denied
  | (none, remaining) => { allowed := true, remaining := remaining.getD 0, retryAfterMs := 0, limitedBy := none }

structure FreeTierStake where
  positionIds : List Nat
  limit : Option Int

structure FreeTierUsageInput where
  buyerAddress : String
  remoteIp : Option String
  maxRequestsPerAddress : Option Int
  maxRequestsPerIp : Option Int
  windowMs : Int
  nowMs : Int
  scope : String := ""
  retentionMs : Option Int := none
  stake : Option FreeTierStake := none

structure FreeTierUsageRow where
  buyerAddress : String
  remoteIp : String
  service : String
  timestamp : Int
  staked : Bool
  scope : String
  deriving DecidableEq

structure FreeTierPositionUsageRow where
  positionId : Nat
  timestamp : Int
  scope : String
  deriving DecidableEq

structure MeteringStorage where
  freeTierUsage : List FreeTierUsageRow := []
  freeTierPositionUsage : List FreeTierPositionUsageRow := []
  lastFreeTierPruneAt : Option Int := none
  deriving DecidableEq

namespace MeteringStorage

variable (storage : MeteringStorage)

/-- Both tables without what is older than some time. -/
def prune (retainFrom nowMs : Int) : MeteringStorage where
  freeTierUsage := storage.freeTierUsage.filter fun row => retainFrom ≤ row.timestamp
  freeTierPositionUsage := storage.freeTierPositionUsage.filter fun row => retainFrom ≤ row.timestamp
  lastFreeTierPruneAt := some nowMs

/-- When the requests of a buyer were recorded that are not staked. -/
def addressUsage (scope buyerAddress : String) : List Int :=
  (storage.freeTierUsage.filter fun row =>
    row.scope = scope ∧ row.buyerAddress = buyerAddress ∧ ¬ row.staked).map (·.timestamp)

def ipUsage (scope remoteIp : String) : List Int :=
  (storage.freeTierUsage.filter fun row =>
    row.scope = scope ∧ row.remoteIp = remoteIp ∧ ¬ row.staked).map (·.timestamp)

def positionUsage (scope : String) (positionId : Nat) : List Int :=
  (storage.freeTierPositionUsage.filter fun row =>
    row.scope = scope ∧ row.positionId = positionId).map (·.timestamp)

/-- `COUNT` and `MIN` of what was recorded from a time on. -/
def countUsage (kind : FreeTierLimitKind) (limit windowStart : Int) (timestamps : List Int) : FreeTierLimitCheck :=
  let counted := timestamps.filter (windowStart ≤ ·)
  { kind, limit, count := counted.length, oldestTimestamp := counted.min? }

variable (input : FreeTierUsageInput)

/-- Now and then, before a request is consumed, what no program counts any more is deleted. -/
def pruneFreeTierUsage (service : Option String) :
    MeteringStorage :=
  let pruneIntervalMs := min input.windowMs (60 * 60000)
  if service.isSome ∧ storage.lastFreeTierPruneAt.all fun last =>
      input.nowMs < last ∨ input.nowMs - last ≥ pruneIntervalMs then
    storage.prune (input.nowMs - max input.windowMs (input.retentionMs.getD 0)) input.nowMs
  else storage

/-- The checks of a request: on every staked position, or on the address and the remote address. -/
def freeTierChecks : List FreeTierLimitCheck :=
  let windowStart := input.nowMs - input.windowMs
  let remoteIp := input.remoteIp.getD ""
  match input.stake with
  | some stake =>
    match stake.limit with
    | some limit =>
      stake.positionIds.map fun positionId =>
        countUsage .stake limit windowStart (storage.positionUsage input.scope positionId)
    | none => []
  | none =>
    (match input.maxRequestsPerAddress with
    | some limit =>
      [countUsage .address limit windowStart (storage.addressUsage input.scope input.buyerAddress.toLower)]
    | none => []) ++
    match input.maxRequestsPerIp with
    | some limit =>
      if remoteIp ≠ "" then [countUsage .ip limit windowStart (storage.ipUsage input.scope remoteIp)] else []
    | none => []

def recordFreeTierRequest (service : String) :
    MeteringStorage :=
  let positionIds := input.stake.elim [] fun stake => if stake.limit.isSome then stake.positionIds else []
  { storage with
    freeTierUsage := storage.freeTierUsage ++
      [{ buyerAddress := input.buyerAddress.toLower
         remoteIp := input.remoteIp.getD ""
         service
         timestamp := input.nowMs
         staked := input.stake.isSome
         scope := input.scope }]
    freeTierPositionUsage := storage.freeTierPositionUsage ++
      positionIds.map fun positionId => { positionId, timestamp := input.nowMs, scope := input.scope } }

def evaluateFreeTierRequest (service : Option String) :
    FreeTierConsumption × MeteringStorage :=
  let storage := storage.pruneFreeTierUsage input service
  let decision := evaluateFreeTierLimits (storage.freeTierChecks input) input.windowMs input.nowMs
  match service with
  | none => (decision, storage)
  | some service =>
    if decision.allowed then (decision, storage.recordFreeTierRequest input service) else (decision, storage)

def consumeFreeTierRequest (service : String) :
    FreeTierConsumption × MeteringStorage := storage.evaluateFreeTierRequest input (some service)

def checkFreeTierRequest :
    FreeTierConsumption × MeteringStorage := storage.evaluateFreeTierRequest input none

end MeteringStorage

end AntSeed.FreeTier
