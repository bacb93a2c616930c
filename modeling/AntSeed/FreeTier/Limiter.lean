import AntSeed.FreeTier.MeteringStorage
import AntSeed.FreeTier.RemoteIp
import AntSeed.Lib.Keyed
import AntSeed.Lib.Machine

/-! # The free tier of a seller

A program limits the requests of a buyer and of a remote address, or, for buyers with stake, of each
position that backs them. Usage is kept on disk, or in memory if there is no disk.
-/

namespace AntSeed.FreeTier

def MAX_IN_MEMORY_KEYS : Nat := 20000
def MAX_SAFE_INTEGER : Int := 2 ^ 53 - 1
def ANTS_WEI : Nat := 10 ^ 18

structure FreeTierStakeTier where
  minPower : Nat
  /-- A multiple of the base allowance, or no limit. -/
  multiplier : Option Nat
  deriving DecidableEq

/-- The highest tier that some power qualifies for. -/
def freeTierStakeTierForPower (tiers : List FreeTierStakeTier) (power : Nat) : Option FreeTierStakeTier :=
  tiers.foldl (fun found tier => if power ≥ tier.minPower * ANTS_WEI then some tier else found) none

structure FreeTierStakeStanding where
  /-- The buyer and every staker that delegated to it. -/
  stakers : List String
  /-- What the positions have together. -/
  power : Nat
  positionIds : List Nat
  deriving DecidableEq

/-- A program and the scope that its usage is counted under. -/
structure FreeTierPolicy where
  scope : String
  maxRequestsPerAddress : Option Int
  maxRequestsPerIp : Option Int
  windowMs : Int
  stakeTiers : List FreeTierStakeTier
  stakersOnly : Bool
  deriving DecidableEq

/-- A program as it is advertised. -/
structure FreeTierProgram where
  maxRequestsPerAddress : Option Int
  maxRequestsPerIp : Option Int
  windowMs : Int
  stakersOnly : Bool
  stakeTiers : List FreeTierStakeTier
  deriving DecidableEq

def FreeTierPolicy.program (policy : FreeTierPolicy) (tiersActive : Bool) : FreeTierProgram where
  maxRequestsPerAddress := policy.maxRequestsPerAddress
  maxRequestsPerIp := policy.maxRequestsPerIp
  windowMs := policy.windowMs
  stakersOnly := policy.stakersOnly
  stakeTiers := if tiersActive then policy.stakeTiers else []

def FreeTierPolicy.limitForTier (policy : FreeTierPolicy) (tier : FreeTierStakeTier) : Option Int :=
  tier.multiplier.map fun multiplier =>
    min MAX_SAFE_INTEGER ((policy.maxRequestsPerAddress.getD (policy.maxRequestsPerIp.getD 0)) * multiplier)

structure SellerFreeTierLimiter where
  /-- The program of services without their own. -/
  seller : Option FreeTierPolicy
  services : List FreeTierPolicy
  /-- Priced services. -/
  paidServices : List String := []
  /-- Zero-priced services, if they are known. -/
  freeServices : Option (List String) := none
  stakeResolver : Bool := false
  /-- What is not in the repository: 4, 6 or 0. -/
  isIP : String → Nat
  sellerScope : ∀ policy ∈ seller, policy.scope = ""
  serviceScopes : ∀ policy ∈ services, policy.scope ≠ ""
  distinct : (services.map FreeTierPolicy.scope).Nodup

namespace SellerFreeTierLimiter

variable (limiter : SellerFreeTierLimiter)

def policies : List FreeTierPolicy := limiter.seller.toList ++ limiter.services

/-- The longest window of any program. -/
def retentionMs : Int :=
  ((limiter.policies.map FreeTierPolicy.windowMs).max?).getD 0

def stakeTiersActive : Bool :=
  limiter.stakeResolver ∧ limiter.policies.any fun policy => policy.stakeTiers.length > 0

def policyFor (service : String) (paid : Bool) : Option FreeTierPolicy :=
  match Keyed.get FreeTierPolicy.scope service limiter.services with
  | some policy => some policy
  | none => if paid then none else limiter.seller

end SellerFreeTierLimiter

/-- What a limit counts. -/
inductive FreeTierSubject where
  | address (buyerAddress : String)
  | ip (remoteIp : String)
  | position (positionId : Nat)
  deriving DecidableEq

def FreeTierSubject.key : FreeTierSubject → String
  | .address buyerAddress => "address:" ++ buyerAddress
  | .ip remoteIp => "ip:" ++ remoteIp
  | .position positionId => "position:" ++ toString positionId

def scopedKey (scope : String) (subject : FreeTierSubject) : String := scope ++ "|" ++ subject.key

/-- A limit that a request has to fit under. -/
structure FreeTierLimit where
  kind : FreeTierLimitKind
  subject : FreeTierSubject
  limit : Int
  deriving DecidableEq

/-- When requests were admitted, for each key. -/
abbrev InMemoryUsage := List (String × List Int)

namespace InMemoryUsage

variable (usage : InMemoryUsage)

def timestamps (key : String) : List Int :=
  (Keyed.get Prod.fst key usage).elim [] Prod.snd

/-- Without the keys that nothing was recorded under for a while. -/
def pruneExpiredBuckets (windowStart : Int) : InMemoryUsage :=
  usage.filter fun bucket => windowStart ≤ bucket.2.getLast?.getD 0

variable (policy : FreeTierPolicy)

def track (windowStart : Int) (limit : FreeTierLimit) :
    (String × List Int) × FreeTierLimitCheck :=
  let key := scopedKey policy.scope limit.subject
  let timestamps := (usage.timestamps key).filter (windowStart ≤ ·)
  ((key, timestamps),
    { kind := limit.kind, limit := limit.limit, count := timestamps.length, oldestTimestamp := timestamps.head? })

/-- The limits that apply to a request. -/
def limits (buyerAddress : String) (remoteIp : Option String)
    (standing : Option FreeTierStakeStanding) (ownerLimit : Option Int) : List FreeTierLimit :=
  match standing with
  | some standing =>
    match ownerLimit with
    | some limit =>
      standing.positionIds.map fun positionId =>
        { kind := .stake, subject := .position positionId, limit }
    | none => []
  | none =>
    (match policy.maxRequestsPerAddress with
    | some limit => [{ kind := .address, subject := .address buyerAddress, limit }]
    | none => []) ++
    match policy.maxRequestsPerIp, remoteIp with
    | some limit, some remoteIp => [{ kind := .ip, subject := .ip remoteIp, limit }]
    | _, _ => []

def CAPACITY_REACHED : String := "free-tier limiter capacity reached while persistent metering is unavailable"

/-- Whether the keys of a request fit in. -/
def hasRoom (buckets : List (String × List Int)) : Bool :=
  usage.length + (buckets.filter fun bucket => (Keyed.get Prod.fst bucket.1 usage).isNone).length
    ≤ MAX_IN_MEMORY_KEYS

def trackAll (nowMs : Int) (limits : List FreeTierLimit) :
    List ((String × List Int) × FreeTierLimitCheck) :=
  limits.map (usage.track policy (nowMs - policy.windowMs))

def bucketsOf (tracked : List ((String × List Int) × FreeTierLimitCheck)) : List (String × List Int) :=
  Keyed.ofList Prod.fst (tracked.map Prod.fst)

/-- A request is added to the buckets of all its limits. -/
def commit (buckets : List (String × List Int)) (nowMs : Int) : InMemoryUsage :=
  buckets.foldl (fun usage bucket => Keyed.set Prod.fst (bucket.1, bucket.2 ++ [nowMs]) usage) usage

def evaluateInMemory (retentionMs : Int) (buyerAddress : String)
    (remoteIp : Option String) (standing : Option FreeTierStakeStanding) (ownerLimit : Option Int) (nowMs : Int)
    (consume : Bool) : Except String FreeTierConsumption × InMemoryUsage :=
  let tracked := usage.trackAll policy nowMs (limits policy buyerAddress remoteIp standing ownerLimit)
  let decision := evaluateFreeTierLimits (tracked.map Prod.snd) policy.windowMs nowMs
  if decision.allowed ∧ consume then
    let usage := usage.pruneExpiredBuckets (nowMs - retentionMs)
    if usage.hasRoom (bucketsOf tracked) then (.ok decision, usage.commit (bucketsOf tracked) nowMs)
    else (.error CAPACITY_REACHED, usage)
  else (.ok decision, usage)

end InMemoryUsage

inductive BackEnd where
  | disk (storage : MeteringStorage)
  | memory (usage : InMemoryUsage)

/-- 40 hexadecimal digits. -/
structure PeerId where
  text : String
  hex : text.toList.length = 40
    ∧ text.toList.all fun char => '0' ≤ char ∧ char ≤ '9' ∨ 'a' ≤ char ∧ char ≤ 'f'

/-- A request, or one that is asked about. -/
structure FreeTierConsumeInput where
  buyerPeerId : PeerId
  remoteIp : Option String
  standing : Option FreeTierStakeStanding
  nowMs : Int

structure FreeTierDecision where
  consumption : FreeTierConsumption
  buyerAddress : String
  remoteIp : Option String
  standing : Option FreeTierStakeStanding
  tier : Option FreeTierStakeTier
  limit : Option Int
  program : FreeTierProgram
  deriving DecidableEq

def peerIdToAddress (peerId : PeerId) : String := "0x" ++ peerId.text

def FreeTierConsumeInput.buyerAddress (input : FreeTierConsumeInput) : String :=
  (peerIdToAddress input.buyerPeerId).toLower

section

variable (policy : FreeTierPolicy)

/-- The tier that a standing earns under a program. -/
def FreeTierPolicy.tierOf (input : FreeTierConsumeInput) : Option FreeTierStakeTier :=
  input.standing.bind fun standing => freeTierStakeTierForPower policy.stakeTiers standing.power

def FreeTierPolicy.standingOf (input : FreeTierConsumeInput) :
    Option FreeTierStakeStanding :=
  if (policy.tierOf input).isSome then input.standing else none

def FreeTierPolicy.ownerLimitOf (input : FreeTierConsumeInput) : Option Int :=
  (policy.tierOf input).bind policy.limitForTier

def bindingLimit (decision : FreeTierConsumption) (standing : Option FreeTierStakeStanding)
    (ownerLimit : Option Int) : Option Int :=
  if standing.isSome then ownerLimit
  else if decision.limitedBy = some .ip then policy.maxRequestsPerIp
  else policy.maxRequestsPerAddress.or policy.maxRequestsPerIp

/-- What the disk is asked. -/
def usageInput (retentionMs : Int) (buyerAddress : String) (remoteIp : Option String)
    (standing : Option FreeTierStakeStanding) (ownerLimit : Option Int) (nowMs : Int) : FreeTierUsageInput where
  buyerAddress
  remoteIp
  maxRequestsPerAddress := policy.maxRequestsPerAddress
  maxRequestsPerIp := policy.maxRequestsPerIp
  windowMs := policy.windowMs
  retentionMs := some retentionMs
  scope := policy.scope
  nowMs
  stake := standing.map fun standing => { positionIds := standing.positionIds, limit := ownerLimit }

end

/-- What the disk or the memory decides on a request. -/
def BackEnd.decide (backEnd : BackEnd) (policy : FreeTierPolicy) (retentionMs : Int) (buyerAddress : String)
    (remoteIp : Option String) (standing : Option FreeTierStakeStanding) (ownerLimit : Option Int) (nowMs : Int)
    (service : Option String) : Except String FreeTierConsumption × BackEnd :=
  match backEnd with
  | .disk storage =>
    let usage := usageInput policy retentionMs buyerAddress remoteIp standing ownerLimit nowMs
    let evaluated :=
      match service with
      | none => storage.checkFreeTierRequest usage
      | some service => storage.consumeFreeTierRequest usage service
    (.ok evaluated.1, .disk evaluated.2)
  | .memory usage =>
    let evaluated :=
      usage.evaluateInMemory policy retentionMs buyerAddress remoteIp standing ownerLimit nowMs service.isSome
    (evaluated.1, .memory evaluated.2)

namespace SellerFreeTierLimiter

variable (limiter : SellerFreeTierLimiter)

def remoteIpOf (input : FreeTierConsumeInput) : Option String :=
  normalizeRemoteIp limiter.isIP input.remoteIp

/-- A program for stakers refuses a buyer without a tier. -/
def refusal (policy : FreeTierPolicy) (input : FreeTierConsumeInput) :
    FreeTierDecision where
  consumption := { allowed := false, remaining := 0, retryAfterMs := 0, limitedBy := some .stakeRequired }
  buyerAddress := input.buyerAddress
  remoteIp := limiter.remoteIpOf input
  standing := input.standing
  tier := none
  limit := some 0
  program := policy.program limiter.stakeTiersActive

/-- A decision with what it was based on. -/
def decision (policy : FreeTierPolicy) (input : FreeTierConsumeInput)
    (consumption : FreeTierConsumption) : FreeTierDecision where
  consumption
  buyerAddress := input.buyerAddress
  remoteIp := limiter.remoteIpOf input
  standing := policy.standingOf input
  tier := policy.tierOf input
  limit := bindingLimit policy consumption (policy.standingOf input) (policy.ownerLimitOf input)
  program := policy.program limiter.stakeTiersActive

def evaluate (backEnd : BackEnd) (policy : FreeTierPolicy)
    (input : FreeTierConsumeInput) (service : Option String) : Except String FreeTierDecision × BackEnd :=
  if policy.stakersOnly ∧ (policy.tierOf input).isNone then (.ok (limiter.refusal policy input), backEnd)
  else
    let decided :=
      backEnd.decide policy limiter.retentionMs input.buyerAddress (limiter.remoteIpOf input)
        (policy.standingOf input) (policy.ownerLimitOf input) input.nowMs service
    (decided.1.map (limiter.decision policy input), decided.2)

def consume (backEnd : BackEnd) (service : String) (paid : Bool)
    (input : FreeTierConsumeInput) : Except String FreeTierDecision × BackEnd :=
  match limiter.policyFor service paid with
  | none => (.error ("no free-tier program applies to " ++ service), backEnd)
  | some policy => limiter.evaluate backEnd policy input (some service)

/-- The programs that decide whether a channel opens, the seller-wide one first, unless some free service is
    not limited at all. -/
def channelPolicies : Option (List FreeTierPolicy) :=
  match limiter.freeServices with
  | some services =>
    if services = [] then none
    else
      (services.mapM fun service => limiter.policyFor service false).map fun applicable =>
        let once := applicable.eraseDups
        once.filter (limiter.seller = some ·) ++ once.filter (limiter.seller ≠ some ·)
  | none =>
    if limiter.seller.isNone then none
    else some (limiter.policies.filter fun policy => policy.scope ∉ limiter.paidServices)

/-- The programs are asked one after the other. -/
def evaluateAll (limiter : SellerFreeTierLimiter) (input : FreeTierConsumeInput) (backEnd : BackEnd) :
    List FreeTierPolicy → Except String (List FreeTierDecision) × BackEnd
  | [] => (.ok [], backEnd)
  | policy :: policies =>
    match limiter.evaluate backEnd policy input none with
    | (.error message, backEnd) => (.error message, backEnd)
    | (.ok decision, backEnd) =>
      let (decisions, backEnd) := limiter.evaluateAll input backEnd policies
      (decisions.map (decision :: ·), backEnd)

/-- Whether a channel may open. Nothing is consumed. -/
def check (backEnd : BackEnd) (input : FreeTierConsumeInput) :
    Except String (Option FreeTierDecision) × BackEnd :=
  match limiter.channelPolicies with
  | none => (.ok none, backEnd)
  | some policies =>
    let (decisions, backEnd) := limiter.evaluateAll input backEnd policies
    (decisions.map fun decisions => (decisions.find? (·.consumption.allowed)).or decisions.head?, backEnd)

end SellerFreeTierLimiter

end AntSeed.FreeTier
