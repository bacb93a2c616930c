import AntSeed.FreeTier.Programs
import AntSeed.Lib.Decimal

/-! # Readings of a program

The checks of tiers say what they have to be, and the texts of a program whose numbers passed them are
read back as the program, under its own scope only.
-/

namespace AntSeed.FreeTier

open Option List Nat

/-- Powers and multipliers that rise, with no limit at the last tier only. -/
structure ValidStakeTiers (tiers : List FreeTierStakeTier) : Prop where
  few : tiers.length ≤ MAX_FREE_TIER_STAKE_TIERS
  powers : ∀ tier ∈ tiers, 1 ≤ tier.minPower ∧ (tier.minPower : Int) ≤ MAX_SAFE_INTEGER
  multipliers : ∀ tier ∈ tiers, ∀ multiplier ∈ tier.multiplier,
    1 ≤ multiplier ∧ multiplier ≤ MAX_FREE_TIER_MULTIPLIER
  rising : tiers.Pairwise fun a b => a.minPower < b.minPower
  growing : tiers.Pairwise fun a b => ∃ least ∈ a.multiplier, ∀ multiplier ∈ b.multiplier, least < multiplier

structure TiersAfter (scan : TierScan) (tiers : List FreeTierStakeTier) : Prop where
  powers : ∀ tier ∈ tiers, scan.previousPower < tier.minPower ∧ 1 ≤ tier.minPower
    ∧ (tier.minPower : Int) ≤ MAX_SAFE_INTEGER
  multipliers : ∀ tier ∈ tiers, scan.sawUnlimited = false ∧ ∀ multiplier ∈ tier.multiplier,
    scan.previousMultiplier < multiplier ∧ multiplier ≤ MAX_FREE_TIER_MULTIPLIER
  rising : tiers.Pairwise fun a b => a.minPower < b.minPower
  growing : tiers.Pairwise fun a b => ∃ least ∈ a.multiplier, ∀ multiplier ∈ b.multiplier, least < multiplier

section Checks

variable {scan scan' : TierScan} {tier : FreeTierStakeTier} {tiers : List FreeTierStakeTier} {label place : String}
  {index : Nat}

/-- A tier that goes on from those before. -/
def GoesOn (scan : TierScan) (tier : FreeTierStakeTier) : Prop :=
  (scan.previousPower < tier.minPower ∧ 1 ≤ tier.minPower ∧ (tier.minPower : Int) ≤ MAX_SAFE_INTEGER)
    ∧ scan.sawUnlimited = false ∧ ∀ multiplier ∈ tier.multiplier,
      scan.previousMultiplier < multiplier ∧ multiplier ≤ MAX_FREE_TIER_MULTIPLIER

def TierScan.after (scan : TierScan) (tier : FreeTierStakeTier) : TierScan :=
  ⟨tier.minPower, tier.multiplier.getD scan.previousMultiplier, scan.sawUnlimited || tier.multiplier.isNone⟩

theorem isSafeInteger_natCast {n : Nat} : isSafeInteger n = true ↔ (n : Int) ≤ MAX_SAFE_INTEGER := by
  simp only [isSafeInteger, decide_eq_true_eq]
  omega

theorem validateTier_eq_ok : validateTier scan place tier = .ok scan' ↔ GoesOn scan tier ∧ scan' = scan.after tier := by
  have bound : (MAX_FREE_TIER_MULTIPLIER : Int) ≤ MAX_SAFE_INTEGER := by decide
  simp only [validateTier, GoesOn, TierScan.after, isSafeInteger_natCast]
  split_ifs with size order unlimited
  · have small : ¬ (1 ≤ tier.minPower ∧ (tier.minPower : Int) ≤ MAX_SAFE_INTEGER) := by omega
    simp only [false_iff]
    exact fun goesOn => small goesOn.1.1.2
  · simp only [false_iff]
    exact fun goesOn => absurd goesOn.1.1.1 (by omega)
  · simp [unlimited]
  · have large : scan.previousPower < tier.minPower ∧ 1 ≤ tier.minPower ∧ (tier.minPower : Int) ≤ MAX_SAFE_INTEGER := by
      omega
    rw [Bool.not_eq_true] at unlimited
    cases grade : tier.multiplier with
    | none => simp [large, unlimited, eq_comm]
    | some multiplier =>
      dsimp only
      split_ifs with bounds
      · simp only [false_iff, mem_def, some.injEq]
        rintro ⟨⟨-, -, above⟩, -⟩
        have within := above multiplier rfl
        omega
      · have within : scan.previousMultiplier < multiplier ∧ multiplier ≤ MAX_FREE_TIER_MULTIPLIER := by omega
        simp [large, unlimited, within, eq_comm]

theorem tiersAfter_cons : TiersAfter scan (tier :: tiers) ↔ GoesOn scan tier ∧ TiersAfter (scan.after tier) tiers := by
  constructor
  · intro valid
    have rising := pairwise_cons.mp valid.rising
    have growing := pairwise_cons.mp valid.growing
    have later : ∀ next ∈ tiers, tier.multiplier.isNone = false ∧ ∀ multiplier ∈ next.multiplier,
        tier.multiplier.getD scan.previousMultiplier < multiplier := by
      intro next member
      obtain ⟨least, here, above⟩ := growing.1 next member
      rw [mem_def] at here
      simp only [here, isNone_some, getD_some, true_and]
      exact above
    refine ⟨⟨valid.powers tier (by simp), valid.multipliers tier (by simp)⟩, ?_, ?_, rising.2, growing.2⟩
    · intro next member
      exact ⟨rising.1 next member, (valid.powers next (by simp [member])).2⟩
    · intro next member
      have before := valid.multipliers next (by simp [member])
      refine ⟨?_, fun multiplier here => ⟨(later next member).2 multiplier here, (before.2 multiplier here).2⟩⟩
      simp [TierScan.after, before.1, (later next member).1]
  · rintro ⟨goesOn, valid⟩
    have proper : ∀ next ∈ tiers, ∃ least ∈ tier.multiplier, ∀ multiplier ∈ next.multiplier, least < multiplier := by
      intro next member
      have after := valid.multipliers next member
      cases grade : tier.multiplier with
      | none => simp [TierScan.after, grade] at after
      | some least =>
        refine ⟨least, rfl, fun multiplier here => ?_⟩
        have above := (after.2 multiplier here).1
        simpa [TierScan.after, grade] using above
    constructor
    · intro next member
      cases mem_cons.mp member with
      | inl same => exact same ▸ goesOn.1
      | inr member =>
        have after := valid.powers next member
        exact ⟨lt_trans goesOn.1.1 after.1, after.2⟩
    · intro next member
      cases mem_cons.mp member with
      | inl same => exact same ▸ goesOn.2
      | inr member =>
        obtain ⟨least, here, above⟩ := proper next member
        refine ⟨goesOn.2.1, fun multiplier there => ?_⟩
        exact ⟨lt_trans (goesOn.2.2 least here).1 (above multiplier there),
          ((valid.multipliers next member).2 multiplier there).2⟩
    · exact pairwise_cons.mpr ⟨fun next member => (valid.powers next member).1, valid.rising⟩
    · exact pairwise_cons.mpr ⟨proper, valid.growing⟩

theorem validateTiersFrom_eq_ok : validateTiersFrom label index scan tiers = .ok () ↔ TiersAfter scan tiers := by
  induction tiers generalizing index scan with
  | nil =>
    simp only [validateTiersFrom, true_iff]
    constructor <;> simp
  | cons tier rest ih =>
    rw [tiersAfter_cons, validateTiersFrom]
    cases checked : validateTier scan (label ++ "[" ++ toString index ++ "]") tier with
    | error =>
      have refused : ¬ GoesOn scan tier := fun goesOn => by
        have fine := checked.symm.trans (validateTier_eq_ok.mpr ⟨goesOn, rfl⟩)
        cases fine
      simp [refused, bind, Except.bind]
    | ok =>
      obtain ⟨goesOn, rfl⟩ := validateTier_eq_ok.mp checked
      simpa [goesOn, bind, Except.bind] using ih

theorem validateFreeTierStakeTiers_eq_ok : validateFreeTierStakeTiers tiers label = .ok () ↔ ValidStakeTiers tiers := by
  rw [validateFreeTierStakeTiers]
  split_ifs with many
  · simp only [false_iff]
    exact fun valid => absurd valid.few (by omega)
  · rw [validateTiersFrom_eq_ok]
    constructor
    · intro valid
      refine ⟨by omega, fun tier member => (valid.powers tier member).2, ?_, valid.rising, valid.growing⟩
      exact fun tier member multiplier here => (valid.multipliers tier member).2 multiplier here
    · intro valid
      refine ⟨fun tier member => ?_, fun tier member => ⟨rfl, valid.multipliers tier member⟩, valid.rising, valid.growing⟩
      exact ⟨(valid.powers tier member).1, valid.powers tier member⟩

end Checks

section Texts

variable {id : String → BitVec 256} {serviceId scope : Option String} {text front back word : String}
  {found : ProgramReading} {letter : Char} {n : Nat}

/-- What stands between the points of a text. -/
def parts (text : String) : List (List Char) := text.toList.splitOn '.'

theorem parts_word (clear : '.' ∉ word.toList) : parts word = [word.toList] := splitOn_eq_singleton clear

theorem parts_append : parts (front ++ "." ++ back) = parts front ++ parts back := by
  have points : ".".toList = ['.'] := rfl
  rw [parts, parts, parts, String.toList_append, String.toList_append, points, append_assoc, singleton_append,
    splitOn_append_cons_self]

theorem parts_intercalate {first : String} {rest : List String} :
    parts (".".intercalate (first :: rest)) = parts first ++ rest.flatMap parts := by
  induction rest generalizing first with
  | nil => simp
  | cons second rest ih => rw [String.intercalate_cons_cons, parts_append, ih, flatMap_cons]

/-- A letter and a number. -/
def fieldText (field : Char × Nat) : List Char := field.1 :: (toString field.2).toList

theorem parts_field (clear : '.' ≠ letter) : parts (.singleton letter ++ toString n) = [fieldText (letter, n)] := by
  have noPoint : '.' ∉ (toString n).toList := fun member => by simpa using isDigit_of_mem_toString member
  have written : (String.singleton letter ++ toString n).toList = fieldText (letter, n) := by
    simp [fieldText, String.toList_append]
  rw [parts, written, fieldText, splitOn_eq_singleton]
  exact not_mem_cons_of_ne_of_not_mem clear noPoint

theorem readField_text (lower : 'a' ≤ letter ∧ letter ≤ 'z') (safe : (n : Int) ≤ MAX_SAFE_INTEGER) :
    readField (fieldText (letter, n)) = some (letter, n) := by
  have digits : (toString n).toList = toDigits 10 n := by simp
  have short : (toDigits 10 n).length ≤ 16 := by
    rw [length_toDigits_le_iff (by decide) (by decide)]
    simp only [MAX_SAFE_INTEGER] at safe
    omega
  have proper : (toDigits 10 n).all Char.isDigit := by
    simp only [List.all_eq_true]
    exact fun digit => isDigit_of_mem_toDigits (by decide) (by decide)
  have some_ : 1 ≤ (toDigits 10 n).length := length_toDigits_pos
  rw [fieldText, digits, readField, ofDigitChars_ten_toDigits, if_pos]
  exact ⟨lower.1, lower.2, some_, short, proper, isSafeInteger_natCast.mpr safe⟩

theorem mapM_readField {fields : List (Char × Nat)} (lower : ∀ field ∈ fields, 'a' ≤ field.1 ∧ field.1 ≤ 'z')
    (safe : ∀ field ∈ fields, (field.2 : Int) ≤ MAX_SAFE_INTEGER) :
    (fields.map fieldText).mapM readField = some fields := by
  induction fields with
  | nil => rfl
  | cons field fields ih =>
    simp only [forall_mem_cons] at lower safe
    simp [readField_text lower.1 safe.1, ih lower.2 safe.2]

theorem parts_limit {limit : Int} (nonneg : 0 ≤ limit) (clear : '.' ≠ letter) :
    parts (.singleton letter ++ toString limit) = [fieldText (letter, limit.toNat)] := by
  obtain ⟨number, rfl⟩ := Int.eq_ofNat_of_zero_le nonneg
  exact parts_field clear

theorem scope_toList {serviceId : String} : (freeTierServiceScope id serviceId).toList
    = 'm' :: (range 8).map fun place => digitChar ((id serviceId).toNat / 16 ^ (63 - place) % 16) := by
  simp only [freeTierServiceScope, hexlify, String.toList_append, String.toList_ofList]
  rfl

theorem isScope_scope {serviceId : String} : isScope (freeTierServiceScope id serviceId).toList = true := by
  have hex : ∀ digit < 16, (Nat.digitChar digit).isDigit || ('a' ≤ Nat.digitChar digit && Nat.digitChar digit ≤ 'f') := by
    decide
  rw [scope_toList]
  simp only [isScope, List.length_map, List.length_range, decide_true, Bool.true_and, List.all_eq_true, List.mem_map]
  rintro digit ⟨place, -, rfl⟩
  exact hex _ (Nat.mod_lt _ (by decide))

theorem point_notMem_scope {part : List Char} (proper : isScope part = true) : '.' ∉ part := by
  cases part with
  | nil => simp
  | cons =>
    rw [isScope.eq_def] at proper
    split at proper
    · rename_i digits' same
      obtain ⟨rfl, rfl⟩ := List.cons.inj same
      simp only [Bool.and_eq_true, List.all_eq_true] at proper
      refine List.not_mem_cons_of_ne_of_not_mem (by decide) fun member => ?_
      simpa using proper.2 '.' member
    · cases proper

/-- What the texts of a scope begin with. -/
def frontParts (scope : Option String) : List (List Char) :=
  "free-tier".toList :: "v1".toList :: scope.toList.map String.toList

theorem parts_front : parts (capabilityPrefix id serviceId ++ word)
    = frontParts (serviceId.map (freeTierServiceScope id)) ++ parts word := by
  have begins : ∀ rest, CAPABILITY_PREFIX ++ rest = "free-tier" ++ "." ++ ("v1" ++ "." ++ rest) := by
    intro rest
    have same : CAPABILITY_PREFIX = "free-tier" ++ "." ++ "v1" ++ "." := rfl
    rw [same]
    simp only [String.append_assoc]
  have first : parts "free-tier" = ["free-tier".toList] := parts_word (by decide)
  have second : parts "v1" = ["v1".toList] := parts_word (by decide)
  cases serviceId with
  | none =>
    rw [capabilityPrefix, begins, parts_append, parts_append, first, second]
    rfl
  | some serviceId =>
    have grouped : CAPABILITY_PREFIX ++ freeTierServiceScope id serviceId ++ "." ++ word
        = CAPABILITY_PREFIX ++ (freeTierServiceScope id serviceId ++ "." ++ word) := by
      simp only [String.append_assoc]
    rw [capabilityPrefix, grouped, begins, parts_append, parts_append, parts_append, first, second,
      parts_word (point_notMem_scope isScope_scope)]
    rfl

theorem toList_of_parts (splits : parts text = frontParts scope ++ rest) (some_ : rest ≠ []) :
    CAPABILITY_PREFIX.toList ++ (scope.toList.flatMap fun scope => scope.toList ++ ['.']) <+: text.toList := by
  have whole : ['.'].intercalate (parts text) = text.toList := intercalate_splitOn '.'
  have begins : CAPABILITY_PREFIX.toList = "free-tier".toList ++ ['.'] ++ ("v1".toList ++ ['.']) := by decide
  obtain ⟨kind, fields, rfl⟩ := exists_cons_of_ne_nil some_
  rw [← whole, splits, frontParts, begins]
  cases scope <;>
    simp only [toList_none, toList_some, map_nil, map_cons, flatMap_nil, flatMap_cons,
      cons_append, nil_append, append_nil, intercalate_cons_cons, append_assoc,
      prefix_append_right_inj, cons_prefix_cons, true_and, nil_prefix]

end Texts

def FreeTierProgram.base (program : FreeTierProgram) : FreeTierBaseLimits :=
  ⟨program.maxRequestsPerAddress, program.maxRequestsPerIp, program.windowMs, program.stakersOnly⟩

def FreeTierBaseLimits.program (base : FreeTierBaseLimits) (stakeTiers : List FreeTierStakeTier) : FreeTierProgram :=
  ⟨base.maxRequestsPerAddress, base.maxRequestsPerIp, base.windowMs, base.stakersOnly, stakeTiers⟩

/-- What the checks of a configuration leave. -/
structure FreeTierProgram.Sound (program : FreeTierProgram) : Prop where
  perAddress : ∀ limit ∈ program.maxRequestsPerAddress, 1 ≤ limit ∧ limit ≤ MAX_SAFE_INTEGER
  perIp : ∀ limit ∈ program.maxRequestsPerIp, 1 ≤ limit ∧ limit ≤ MAX_SAFE_INTEGER
  window : 1000 ≤ program.windowMs ∧ program.windowMs ≤ MAX_SAFE_INTEGER
  tiers : ValidStakeTiers program.stakeTiers

def baseFields (program : FreeTierProgram) (inheritTiers : Bool) : List (Char × Nat) :=
  program.maxRequestsPerAddress.toList.map (fun limit => ('a', limit.toNat))
    ++ program.maxRequestsPerIp.toList.map (fun limit => ('i', limit.toNat))
    ++ [('w', program.windowMs.toNat)]
    ++ (if program.stakersOnly then [('s', 1)] else [])
    ++ (if inheritTiers then [('t', 1)] else [])

def tierFields (tier : FreeTierStakeTier) : List (Char × Nat) := [('p', tier.minPower), ('x', tier.multiplier.getD 0)]

variable {id : String → BitVec 256} {serviceId scope other : Option String} {text : String}
  {found : ProgramReading} {program : FreeTierProgram} {tier : FreeTierStakeTier} {inheritTiers ownScope : Bool}

theorem flatMap_limits {limit : Option Int} {name : String} {letter : Char} (nonneg : ∀ n ∈ limit, 1 ≤ n)
    (named : name = .singleton letter) (clear : '.' ≠ letter) :
    (limit.toList.map fun n => name ++ toString n).flatMap parts
      = (limit.toList.map fun n => (letter, n.toNat)).map fieldText := by
  cases limit with
  | none => rfl
  | some n =>
    have one := nonneg n rfl
    have piece : parts (name ++ toString n) = [fieldText (letter, n.toNat)] := by
      rw [named, parts_limit (by omega) clear]
    simp only [toList_some, map_cons, map_nil, flatMap_cons, flatMap_nil, piece,
      append_nil]

theorem parts_encodeBase (sound : program.Sound) :
    parts (encodeBase (capabilityPrefix id serviceId) program inheritTiers)
      = frontParts (serviceId.map (freeTierServiceScope id))
        ++ "base".toList :: (baseFields program inheritTiers).map fieldText := by
  have address := flatMap_limits (fun n member => (sound.perAddress n member).1) (show "a" = .singleton 'a' from rfl)
    (by decide)
  have ip := flatMap_limits (fun n member => (sound.perIp n member).1) (show "i" = .singleton 'i' from rfl) (by decide)
  have window : parts ("w" ++ toString program.windowMs) = [fieldText ('w', program.windowMs.toNat)] := by
    have positive := sound.window.1
    have letter : "w" = .singleton 'w' := rfl
    rw [letter, parts_limit (by omega) (by decide)]
  have stakers : (if program.stakersOnly then ["s1"] else []).flatMap parts
      = (if program.stakersOnly then [('s', 1)] else []).map fieldText := by
    cases program.stakersOnly <;> decide
  have inherits : (if inheritTiers then ["t1"] else []).flatMap parts
      = (if inheritTiers then [('t', 1)] else []).map fieldText := by
    cases inheritTiers <;> decide
  rw [encodeBase, append_assoc, append_assoc, append_assoc, append_assoc, singleton_append,
    parts_intercalate, parts_front, parts_word (by decide)]
  simp only [flatMap_append, flatMap_cons, baseFields, map_append, map_cons, stakers, inherits, window,
    address, ip, append_assoc, cons_append, nil_append]

theorem parts_encodeTier : parts (encodeTier (capabilityPrefix id serviceId) tier)
    = frontParts (serviceId.map (freeTierServiceScope id)) ++ "tier".toList :: (tierFields tier).map fieldText := by
  have pieces : encodeTier (capabilityPrefix id serviceId) tier
      = capabilityPrefix id serviceId ++ "tier" ++ "." ++ (.singleton 'p' ++ toString tier.minPower) ++ "."
        ++ (.singleton 'x' ++ toString (tier.multiplier.getD 0)) := by
    have power : "tier.p" = "tier" ++ "." ++ .singleton 'p' := rfl
    have multiplier : ".x" = "." ++ .singleton 'x' := rfl
    rw [encodeTier, power, multiplier]
    simp only [String.append_assoc]
  rw [pieces, parts_append, parts_append, parts_front, parts_word (by decide), parts_field (by decide),
    parts_field (by decide), append_assoc, append_assoc]
  rfl

theorem readCapability_text {kind : List Char} {fields : List (List Char)} (kinded : isScope kind = false)
    (named : ∀ scope ∈ other, isScope scope.toList = true) (splits : parts text = frontParts other ++ kind :: fields) :
    readCapability scope found text
      = if other = scope then readParts scope.isSome found (kind :: fields) else some found := by
  have begins := (prefix_append _ _).trans (toList_of_parts splits (cons_ne_nil _ _))
  rw [readCapability, if_neg (not_not_intro begins)]
  change (let capabilityScope := if isScope ((parts text).getD 2 []) then some (String.ofList ((parts text).getD 2 []))
      else none
    if capabilityScope ≠ scope then some found
    else readParts scope.isSome found ((parts text).drop (if capabilityScope.isSome then 3 else 2))) = _
  rw [splits]
  cases other with
  | none =>
    simp only [frontParts, toList_none, map_nil, cons_append, nil_append, getD_cons_succ,
      getD_cons_zero, kinded, Bool.false_eq_true, if_false, isSome_none, drop_succ_cons, drop_zero,
      ne_eq, ite_not]
  | some name =>
    have proper := named name rfl
    simp only [frontParts, toList_some, map_cons, map_nil, cons_append, nil_append,
      getD_cons_succ, getD_cons_zero, proper, if_true, String.ofList_toList, isSome_some,
      drop_succ_cons, drop_zero, ne_eq, ite_not]

theorem readBase_fields (sound : program.Sound) : readBase ownScope found (baseFields program inheritTiers)
    = some { found with base := some program.base, inheritTiers := ownScope && inheritTiers } := by
  have address : ∀ limit ∈ program.maxRequestsPerAddress, Int.ofNat limit.toNat = limit := by
    intro limit member
    have positive := (sound.perAddress limit member).1
    exact Int.toNat_of_nonneg (by omega)
  have ip : ∀ limit ∈ program.maxRequestsPerIp, Int.ofNat limit.toNat = limit := by
    intro limit member
    have positive := (sound.perIp limit member).1
    exact Int.toNat_of_nonneg (by omega)
  have window : Int.ofNat program.windowMs.toNat = program.windowMs := by
    have positive := sound.window.1
    exact Int.toNat_of_nonneg (by omega)
  have long : ¬ program.windowMs.toNat < 1000 := by
    have positive := sound.window.1
    omega
  obtain ⟨maxRequestsPerAddress, maxRequestsPerIp, windowMs, stakersOnly, stakeTiers⟩ := program
  cases maxRequestsPerAddress <;> cases maxRequestsPerIp <;> cases stakersOnly <;> cases inheritTiers <;>
    simp_all [readBase, baseFields, valueOf, Keyed.get, Keyed.ofList, Keyed.set, FreeTierProgram.base]

theorem readTier_fields (positive : ∀ multiplier ∈ tier.multiplier, 1 ≤ multiplier) :
    readTier found (tierFields tier) = some { found with stakeTiers := found.stakeTiers ++ [tier] } := by
  obtain ⟨minPower, multiplier⟩ := tier
  cases multiplier with
  | none => simp [readTier, tierFields, valueOf, Keyed.get, Keyed.ofList, Keyed.set]
  | some multiplier =>
    have nonzero : multiplier ≠ 0 := by
      have one := positive multiplier rfl
      omega
    simp [readTier, tierFields, valueOf, Keyed.get, Keyed.ofList, Keyed.set, nonzero]

theorem scope_named : ∀ scope ∈ serviceId.map (freeTierServiceScope id), isScope scope.toList = true := by
  intro scope member
  obtain ⟨service, -, rfl⟩ := mem_map.mp member
  exact isScope_scope

theorem forall_baseFields {P : Char × Nat → Prop}
    (address : ∀ limit ∈ program.maxRequestsPerAddress, P ('a', limit.toNat))
    (ip : ∀ limit ∈ program.maxRequestsPerIp, P ('i', limit.toNat)) (window : P ('w', program.windowMs.toNat))
    (stakers : P ('s', 1)) (inherits : P ('t', 1)) : ∀ field ∈ baseFields program inheritTiers, P field := by
  intro field member
  simp only [baseFields, List.mem_append, List.mem_map, Option.mem_toList, List.mem_singleton] at member
  obtain (((⟨limit, here, rfl⟩ | ⟨limit, here, rfl⟩) | rfl) | here) | here := member
  · exact address limit here
  · exact ip limit here
  · exact window
  · cases only : program.stakersOnly with
    | false => simp [only] at here
    | true =>
      rw [only, if_pos rfl, List.mem_singleton] at here
      exact here ▸ stakers
  · cases inheritTiers with
    | false => simp at here
    | true =>
      rw [if_pos rfl, List.mem_singleton] at here
      exact here ▸ inherits

theorem readCapability_base (sound : program.Sound) :
    readCapability scope found (encodeBase (capabilityPrefix id serviceId) program inheritTiers)
      = some (if serviceId.map (freeTierServiceScope id) = scope then
          { found with base := some program.base, inheritTiers := scope.isSome && inheritTiers } else found) := by
  have lower : ∀ field ∈ baseFields program inheritTiers, 'a' ≤ field.1 ∧ field.1 ≤ 'z' :=
    forall_baseFields (by simp) (by simp) (by simp) (by simp) (by simp)
  have safe : ∀ field ∈ baseFields program inheritTiers, (field.2 : Int) ≤ MAX_SAFE_INTEGER := by
    have one : ((1 : Nat) : Int) ≤ MAX_SAFE_INTEGER := by decide
    have window := sound.window
    refine forall_baseFields (fun limit member => ?_) (fun limit member => ?_) (by omega) one one
    · have within := sound.perAddress limit member
      omega
    · have within := sound.perIp limit member
      omega
  rw [readCapability_text (by decide) scope_named (parts_encodeBase sound)]
  split_ifs with same
  · rw [readParts, tail_cons, mapM_readField lower safe, head?_cons]
    exact readBase_fields sound
  · rfl

theorem readCapability_tier (valid : ValidStakeTiers program.stakeTiers) (member : tier ∈ program.stakeTiers) :
    readCapability scope found (encodeTier (capabilityPrefix id serviceId) tier)
      = some (if serviceId.map (freeTierServiceScope id) = scope then
          { found with stakeTiers := found.stakeTiers ++ [tier] } else found) := by
  have bound : (MAX_FREE_TIER_MULTIPLIER : Int) ≤ MAX_SAFE_INTEGER := by decide
  have lower : ∀ field ∈ tierFields tier, 'a' ≤ field.1 ∧ field.1 ≤ 'z' := by
    simp [tierFields]
  have multiplier : (tier.multiplier.getD 0 : Int) ≤ MAX_SAFE_INTEGER := by
    cases grade : tier.multiplier with
    | none => decide
    | some multiplier =>
      have within := (valid.multipliers tier member multiplier grade).2
      simp only [getD_some]
      omega
  have safe : ∀ field ∈ tierFields tier, (field.2 : Int) ≤ MAX_SAFE_INTEGER := by
    simpa [tierFields] using ⟨(valid.powers tier member).2, multiplier⟩
  rw [readCapability_text (by decide) scope_named parts_encodeTier]
  split_ifs with same
  · rw [readParts, tail_cons, mapM_readField lower safe, head?_cons]
    exact readTier_fields fun multiplier here => (valid.multipliers tier member multiplier here).1
  · rfl

theorem read_tiers (valid : ValidStakeTiers program.stakeTiers) {tiers : List FreeTierStakeTier}
    (within : ∀ tier ∈ tiers, tier ∈ program.stakeTiers) :
    (tiers.map (encodeTier (capabilityPrefix id serviceId))).foldlM (readCapability scope) found
      = some (if serviceId.map (freeTierServiceScope id) = scope then
          { found with stakeTiers := found.stakeTiers ++ tiers } else found) := by
  induction tiers generalizing found with
  | nil => split_ifs <;> simp
  | cons tier rest ih =>
    simp only [forall_mem_cons] at within
    rw [map_cons, foldlM_cons, readCapability_tier valid within.1, bind_eq_bind, bind_some,
      ih within.2]
    split_ifs with same <;> simp

end AntSeed.FreeTier
