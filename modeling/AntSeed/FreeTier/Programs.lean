import AntSeed.FreeTier.Limiter
import Mathlib.Algebra.Order.Ring.Rat
import Mathlib.Data.List.Sort

/-! # Free-tier programs of a seller

A seller is configured with a program for all its services and programs of single services. They are
advertised as short texts that buyers read them from:

  free-tier.v1.base[.a<perAddress>][.i<perIp>].w<windowMs>[.s1][.t1]
  free-tier.v1.tier.p<minPower>.x<multiplier>

A service's own program has the same texts under a scope, which is the beginning of a hash.
-/

namespace AntSeed.FreeTier

def MAX_FREE_TIER_STAKE_TIERS : Nat := 4
def MAX_FREE_TIER_MULTIPLIER : Nat := 10000
def MAX_PEER_CAPABILITY_LENGTH : Nat := 64
def DEFAULT_FREE_TIER_WINDOW_MS : Int := 24 * 60 * 60000
def FREE_TIER_EPOCHS_PER_YEAR : Nat := 52

def DEFAULT_FREE_TIER_STAKE_TIERS : List FreeTierStakeTier :=
  [⟨10000 * FREE_TIER_EPOCHS_PER_YEAR, some 5⟩, ⟨50000 * FREE_TIER_EPOCHS_PER_YEAR, some 20⟩,
    ⟨200000 * FREE_TIER_EPOCHS_PER_YEAR, none⟩]

def isSafeInteger (value : Int) : Bool := -MAX_SAFE_INTEGER ≤ value ∧ value ≤ MAX_SAFE_INTEGER

/-- What the tiers before have. -/
structure TierScan where
  previousPower : Nat := 0
  previousMultiplier : Nat := 0
  sawUnlimited : Bool := false

def validateTier (scan : TierScan) (place : String) (tier : FreeTierStakeTier) : Except String TierScan :=
  if ¬ isSafeInteger tier.minPower ∨ tier.minPower < 1 then
    .error (place ++ ".minPower must be a positive safe integer")
  else if tier.minPower ≤ scan.previousPower then
    .error (place ++ ".minPower must be greater than the previous tier")
  else if scan.sawUnlimited then .error (place ++ " follows an unlimited tier")
  else
    match tier.multiplier with
    | none => .ok { scan with previousPower := tier.minPower, sawUnlimited := true }
    | some multiplier =>
      if ¬ isSafeInteger multiplier ∨ multiplier ≤ scan.previousMultiplier ∨ multiplier > MAX_FREE_TIER_MULTIPLIER
      then .error (place ++ ".multiplier must be an integer above the previous tier (minimum 1, maximum "
        ++ toString MAX_FREE_TIER_MULTIPLIER ++ ") or \"unlimited\"")
      else .ok { scan with previousPower := tier.minPower, previousMultiplier := multiplier }

def validateTiersFrom (label : String) (index : Nat) (scan : TierScan) : List FreeTierStakeTier → Except String Unit
  | [] => .ok ()
  | tier :: rest => do
      let scan ← validateTier scan (label ++ "[" ++ toString index ++ "]") tier
      validateTiersFrom label (index + 1) scan rest

def validateFreeTierStakeTiers (tiers : List FreeTierStakeTier) (label : String) : Except String Unit :=
  if tiers.length > MAX_FREE_TIER_STAKE_TIERS then
    .error (label ++ " accepts at most " ++ toString MAX_FREE_TIER_STAKE_TIERS ++ " tiers")
  else validateTiersFrom label 0 {} tiers

def CAPABILITY_PREFIX : String := "free-tier.v1."

/-- A hash as `0x` and its digits, the highest first. -/
def hexlify (hash : BitVec 256) : String :=
  .ofList ('0' :: 'x' :: (List.range 64).map fun place => Nat.digitChar (hash.toNat / 16 ^ (63 - place) % 16))

def sameStakeTiers (a b : List FreeTierStakeTier) : Bool :=
  a.length = b.length && (a.zip b).all fun pair =>
    pair.1.minPower = pair.2.minPower && pair.1.multiplier = pair.2.multiplier

section Capabilities

-- the hash of a text
variable (id : String → BitVec 256)

/-- `m` and the first eight digits of the hash. -/
def freeTierServiceScope (serviceId : String) : String :=
  "m" ++ .ofList (((hexlify (id serviceId)).toList.drop 2).take 8)

/-- What the texts of a program begin with. -/
def capabilityPrefix : Option String → String
  | none => CAPABILITY_PREFIX
  | some serviceId => CAPABILITY_PREFIX ++ freeTierServiceScope id serviceId ++ "."

/-- Whether a service's own program says only that it has the tiers of the seller-wide one. -/
def inheritsTiers (program : FreeTierProgram) (serviceId : Option String)
    (sellerWideTiers : Option (List FreeTierStakeTier)) : Bool :=
  serviceId.isSome && sellerWideTiers.any fun tiers =>
    program.stakeTiers.length > 0 && sameStakeTiers program.stakeTiers tiers

def encodeBase (front : String) (program : FreeTierProgram) (inheritTiers : Bool) : String :=
  ".".intercalate ([front ++ "base"]
    ++ program.maxRequestsPerAddress.toList.map (fun limit => "a" ++ toString limit)
    ++ program.maxRequestsPerIp.toList.map (fun limit => "i" ++ toString limit)
    ++ ["w" ++ toString program.windowMs]
    ++ (if program.stakersOnly then ["s1"] else [])
    ++ (if inheritTiers then ["t1"] else []))

/-- `x0` stands for no limit. -/
def encodeTier (front : String) (tier : FreeTierStakeTier) : String :=
  front ++ "tier.p" ++ toString tier.minPower ++ ".x" ++ toString (tier.multiplier.getD 0)

def encodeFreeTierCapabilities (program : FreeTierProgram) (serviceId : Option String)
    (sellerWideTiers : Option (List FreeTierStakeTier)) : List String :=
  let inheritTiers := inheritsTiers program serviceId sellerWideTiers
  let front := capabilityPrefix id serviceId
  encodeBase front program inheritTiers
    :: (if inheritTiers then [] else program.stakeTiers).map (encodeTier front)

end Capabilities

/-- `^m[0-9a-f]{8}$` -/
def isScope : List Char → Bool
  | 'm' :: digits => digits.length = 8 && digits.all fun digit => digit.isDigit || ('a' ≤ digit && digit ≤ 'f')
  | _ => false

/-- `^([a-z])(\d{1,16})$`, if the number is a safe integer. -/
def readField : List Char → Option (Char × Nat)
  | [] => none
  | letter :: digits =>
    if 'a' ≤ letter ∧ letter ≤ 'z' ∧ 1 ≤ digits.length ∧ digits.length ≤ 16 ∧ digits.all Char.isDigit
      ∧ isSafeInteger (Nat.ofDigitChars 10 digits 0)
    then some (letter, Nat.ofDigitChars 10 digits 0)
    else none

structure FreeTierBaseLimits where
  maxRequestsPerAddress : Option Int
  maxRequestsPerIp : Option Int
  windowMs : Int
  stakersOnly : Bool
  deriving DecidableEq

/-- What is read of a program so far. -/
structure ProgramReading where
  base : Option FreeTierBaseLimits := none
  inheritTiers : Bool := false
  stakeTiers : List FreeTierStakeTier := []
  deriving DecidableEq

/-- The value of a letter, the last one if it stands more than once. -/
def valueOf (letter : Char) (values : List (Char × Nat)) : Option Nat :=
  (Keyed.get Prod.fst letter (Keyed.ofList Prod.fst values)).map Prod.snd

def readBase (ownScope : Bool) (found : ProgramReading) (values : List (Char × Nat)) : Option ProgramReading :=
  match valueOf 'w' values with
  | none => none
  | some windowMs =>
    if windowMs < 1000 then none
    else
      let base : FreeTierBaseLimits := {
        maxRequestsPerAddress := (valueOf 'a' values).map Int.ofNat
        maxRequestsPerIp := (valueOf 'i' values).map Int.ofNat
        windowMs := windowMs
        stakersOnly := valueOf 's' values = some 1 }
      some { found with base := some base, inheritTiers := ownScope && valueOf 't' values = some 1 }

def readTier (found : ProgramReading) (values : List (Char × Nat)) : Option ProgramReading :=
  match valueOf 'p' values, valueOf 'x' values with
  | some minPower, some multiplier =>
    let tier : FreeTierStakeTier := ⟨minPower, if multiplier = 0 then none else some multiplier⟩
    some { found with stakeTiers := found.stakeTiers ++ [tier] }
  | _, _ => none

/-- Reads the parts of a text after its scope. -/
def readParts (ownScope : Bool) (found : ProgramReading) (parts : List (List Char)) : Option ProgramReading :=
  match parts.tail.mapM readField with
  | none => none
  | some values =>
    if parts.head? = some "base".toList then readBase ownScope found values
    else if parts.head? = some "tier".toList then readTier found values
    else some found

/-- Texts of other scopes and of other things are left. Nothing is read if a text is malformed. -/
def readCapability (scope : Option String) (found : ProgramReading) (capability : String) :
    Option ProgramReading :=
  if ¬ CAPABILITY_PREFIX.toList <+: capability.toList then some found
  else
    let parts := capability.toList.splitOn '.'
    let part := parts.getD 2 []
    let capabilityScope := if isScope part then some (String.ofList part) else none
    if capabilityScope ≠ scope then some found
    else readParts scope.isSome found (parts.drop (if capabilityScope.isSome then 3 else 2))

def readCapabilities (capabilities : List String) (scope : Option String) : Option ProgramReading :=
  capabilities.foldlM (readCapability scope) {}

/-- Tiers by what they need, if they are a program's. -/
def finishProgram (base : FreeTierBaseLimits) (stakeTiers : List FreeTierStakeTier) : Option FreeTierProgram :=
  let sorted := stakeTiers.mergeSort fun a b => a.minPower ≤ b.minPower
  match validateFreeTierStakeTiers sorted "freeTier.stakeTiers" with
  | .error _ => none
  | .ok () => some {
      maxRequestsPerAddress := base.maxRequestsPerAddress
      maxRequestsPerIp := base.maxRequestsPerIp
      windowMs := base.windowMs
      stakersOnly := base.stakersOnly
      stakeTiers := sorted }

/-- The program without a scope, which has no tiers but its own. -/
def parseSellerWide (capabilities : List String) : Option FreeTierProgram := do
  let found ← readCapabilities capabilities none
  let base ← found.base
  finishProgram base found.stakeTiers

def parseScopedFreeTierProgram (capabilities : List String) (scope : String) : Option FreeTierProgram := do
  let found ← readCapabilities capabilities (some scope)
  let base ← found.base
  if found.inheritTiers then
    let sellerWide ← parseSellerWide capabilities
    finishProgram base (found.stakeTiers ++ sellerWide.stakeTiers)
  else finishProgram base found.stakeTiers

/-- The program that a service is served under, or the seller-wide one. -/
def parseFreeTierProgram (id : String → BitVec 256) (capabilities : Option (List String))
    (serviceId : Option String) : Option FreeTierProgram :=
  match capabilities, serviceId with
  | none, _ => none
  | some capabilities, none => parseSellerWide capabilities
  | some capabilities, some serviceId =>
    if capabilities.any fun capability => (capabilityPrefix id (some serviceId)).toList.isPrefixOf capability.toList
    then parseScopedFreeTierProgram capabilities (freeTierServiceScope id serviceId)
    else parseSellerWide capabilities

structure SellerFreeTierProgramConfig where
  maxRequestsPerAddress : Option Int := none
  maxRequestsPerIp : Option Int := none
  windowMs : Option Int := none
  stakeTiers : Option (List FreeTierStakeTier) := none
  stakersOnly : Option Bool := none

structure SellerFreeTierConfig extends SellerFreeTierProgramConfig where
  /-- Programs of single services. -/
  services : List (String × SellerFreeTierProgramConfig) := []
  distinct : (services.map Prod.fst).Nodup := by decide

def hasSellerWideProgram (config : SellerFreeTierConfig) : Bool :=
  config.maxRequestsPerAddress.isSome || config.maxRequestsPerIp.isSome || config.windowMs.isSome
    || config.stakeTiers.isSome || config.stakersOnly.isSome

section Construction

variable (id : String → BitVec 256)

/-- The texts that a program may be advertised in. -/
def FreeTierPolicy.encodings (policy : FreeTierPolicy) : List String :=
  let serviceId := if policy.scope = "" then none else some policy.scope
  encodeFreeTierCapabilities id (policy.program true) serviceId none
    ++ (if serviceId.isSome then
      encodeFreeTierCapabilities id (policy.program true) serviceId (some policy.stakeTiers) else [])

def FreeTierPolicy.construct (scope : String) (config : SellerFreeTierProgramConfig) (label : String) :
    Except String FreeTierPolicy := do
  if config.maxRequestsPerAddress.any fun limit => ¬ isSafeInteger limit ∨ limit < 1 then
    throw (label ++ ".maxRequestsPerAddress must be a positive safe integer")
  if config.maxRequestsPerIp.any fun limit => ¬ isSafeInteger limit ∨ limit < 1 then
    throw (label ++ ".maxRequestsPerIp must be a positive safe integer")
  if config.maxRequestsPerAddress.isNone ∧ config.maxRequestsPerIp.isNone then
    throw (label ++ " requires maxRequestsPerAddress and/or maxRequestsPerIp")
  let windowMs := config.windowMs.getD DEFAULT_FREE_TIER_WINDOW_MS
  if ¬ isSafeInteger windowMs ∨ windowMs < 1000 then
    throw (label ++ ".windowMs must be a safe integer of at least 1000")
  let stakeTiers := config.stakeTiers.getD DEFAULT_FREE_TIER_STAKE_TIERS
  validateFreeTierStakeTiers stakeTiers (label ++ ".stakeTiers")
  if config.stakersOnly = some true ∧ stakeTiers.length = 0 then
    throw (label ++ ".stakersOnly requires at least one stake tier")
  let policy : FreeTierPolicy := {
    scope := scope
    maxRequestsPerAddress := config.maxRequestsPerAddress
    maxRequestsPerIp := config.maxRequestsPerIp
    windowMs := windowMs
    stakeTiers := stakeTiers
    stakersOnly := config.stakersOnly = some true }
  match (policy.encodings id).find? fun capability => capability.length > MAX_PEER_CAPABILITY_LENGTH with
  | some tooLong =>
    throw (label ++ " is too large to advertise (\"" ++ tooLong ++ "\" exceeds "
      ++ toString MAX_PEER_CAPABILITY_LENGTH ++ " characters): lower its limits or window")
  | none => pure policy

def configure (config : SellerFreeTierConfig) : Except String (Option FreeTierPolicy × List FreeTierPolicy) := do
  if ¬ hasSellerWideProgram config ∧ config.services.length = 0 then
    throw "freeTier requires maxRequestsPerAddress and/or maxRequestsPerIp"
  let seller ← if hasSellerWideProgram config then
      some <$> FreeTierPolicy.construct id "" config.toSellerFreeTierProgramConfig "freeTier"
    else pure none
  let services ← config.services.mapM fun entry => do
    if entry.1.length = 0 then throw "freeTier.services keys must be non-empty service ids"
    FreeTierPolicy.construct id entry.1 entry.2 ("freeTier.services." ++ entry.1)
  pure (seller, services)

end Construction

namespace SellerFreeTierLimiter

/-- The program that a service is served under, or the seller-wide one. -/
def program (limiter : SellerFreeTierLimiter) (service : Option String) (paid : Bool) : Option FreeTierProgram :=
  let policy := match service with
    | none => limiter.seller
    | some service => limiter.policyFor service paid
  policy.map fun policy => policy.program limiter.stakeTiersActive

/-- The seller-wide program, then those of the services in the order of their names. -/
def programs (limiter : SellerFreeTierLimiter) (collates : String → String → Bool) :
    List (Option String × FreeTierPolicy) :=
  limiter.seller.toList.map (fun policy => (none, policy))
    ++ (limiter.services.mergeSort fun a b => collates a.scope b.scope).map fun policy => (some policy.scope, policy)

/-- What is advertised so far, and the tiers of the seller-wide program once it is. -/
abbrev Advertised := List String × Option (List FreeTierStakeTier)

/-- A program that would exceed the budget is skipped whole. -/
def advertise (id : String → BitVec 256) (active : Bool) (budget : Option ℚ) (out : Advertised)
    (entry : Option String × FreeTierPolicy) : Advertised :=
  let strings := encodeFreeTierCapabilities id (entry.2.program active) entry.1 out.2
  if budget.any fun budget => ((out.1.length + strings.length : Nat) : ℚ) > budget then out
  else (out.1 ++ strings, if entry.1.isNone then some (entry.2.program active).stakeTiers else out.2)

def capabilities (limiter : SellerFreeTierLimiter) (id : String → BitVec 256) (collates : String → String → Bool)
    (budget : Option ℚ) : List String :=
  ((limiter.programs collates).foldl (advertise id limiter.stakeTiersActive budget) ([], none)).1

end SellerFreeTierLimiter

end AntSeed.FreeTier
