import AntSeed.FreeTier.Advertised

/-! # What buyers are told

Programs that pass the checks are read back as they are. What a buyer reads of a service is the program
that it is served under, unless the programs that stand for it in the advertisement are others.
-/

namespace AntSeed.FreeTier

open FreeTierPolicy

section Configurations

variable {id : String → BitVec 256} {config : SellerFreeTierProgramConfig} {scope label : String}
  {policy : FreeTierPolicy} {limiter : SellerFreeTierLimiter}

theorem validStakeTiers_nil : ValidStakeTiers [] := by
  constructor <;> simp

theorem positive_safe {limit : Option Int} (fine : ¬ (limit.any fun limit => ¬ isSafeInteger limit ∨ limit < 1) = true) :
    ∀ n ∈ limit, 1 ≤ n ∧ n ≤ MAX_SAFE_INTEGER := by
  intro n member
  rw [Option.mem_def] at member
  simp only [member, Option.any_some, decide_eq_true_eq, not_or, not_not, isSafeInteger] at fine
  omega

theorem construct_sound (accepted : construct id scope config label = .ok policy) (active : Bool) :
    (policy.program active).Sound := by
  simp only [construct, bind, Except.bind, pure, Except.pure, throw, throwThe, MonadExceptOf.throw] at accepted
  split_ifs at accepted with address ip some_ window tierless
  · -- a program for stakers only without tiers is refused whether or not the tiers are accepted
    cases checked : validateFreeTierStakeTiers (config.stakeTiers.getD DEFAULT_FREE_TIER_STAKE_TIERS)
      (label ++ ".stakeTiers") <;> simp [checked] at accepted
  · cases checked : validateFreeTierStakeTiers (config.stakeTiers.getD DEFAULT_FREE_TIER_STAKE_TIERS)
        (label ++ ".stakeTiers") with
    | error => simp [checked] at accepted
    | ok =>
      rw [checked] at accepted
      dsimp only at accepted
      split at accepted
      · cases accepted
      · cases accepted
        have bounds : isSafeInteger (config.windowMs.getD DEFAULT_FREE_TIER_WINDOW_MS) = true
            ∧ ¬ config.windowMs.getD DEFAULT_FREE_TIER_WINDOW_MS < 1000 := by
          simpa only [not_or, not_not] using window
        rw [isSafeInteger, decide_eq_true_eq] at bounds
        have valid := validateFreeTierStakeTiers_eq_ok.mp checked
        refine ⟨positive_safe address, positive_safe ip, ⟨Int.not_lt.mp bounds.2, bounds.1.2⟩, ?_⟩
        cases active with
        | false => exact validStakeTiers_nil
        | true => exact valid

theorem mapM_ok {α β ε : Type} {f : α → Except ε β} {entries : List α} {results : List β}
    (accepted : entries.mapM f = .ok results) {result : β} (member : result ∈ results) :
    ∃ entry ∈ entries, f entry = .ok result := by
  induction entries generalizing results with
  | nil =>
    cases accepted
    cases member
  | cons entry rest ih =>
    rw [List.mapM_cons] at accepted
    cases first : f entry with
    | error => simp [first, bind, Except.bind] at accepted
    | ok =>
      cases others : rest.mapM f with
      | error => simp [first, others, bind, Except.bind] at accepted
      | ok =>
        simp only [first, others, bind, Except.bind, pure, Except.pure, Except.ok.injEq] at accepted
        subst accepted
        cases List.mem_cons.mp member with
        | inl same => exact ⟨entry, List.mem_cons_self, same ▸ first⟩
        | inr later =>
          obtain ⟨other, there, made⟩ := ih others later
          exact ⟨other, List.mem_cons_of_mem _ there, made⟩

theorem services_sound {entries : List (String × SellerFreeTierProgramConfig)} {policies : List FreeTierPolicy}
    (accepted : entries.mapM (fun entry =>
      if entry.1.length = 0 then Except.error "freeTier.services keys must be non-empty service ids"
      else construct id entry.1 entry.2 ("freeTier.services." ++ entry.1)) = .ok policies)
    (active : Bool) : ∀ policy ∈ policies, (policy.program active).Sound := by
  intro policy member
  obtain ⟨entry, -, made⟩ := mapM_ok accepted member
  split_ifs at made
  exact construct_sound made active

theorem configure_sound {config : SellerFreeTierConfig}
    (accepted : configure id config = .ok (limiter.seller, limiter.services)) (active : Bool) :
    ∀ policy ∈ limiter.policies, (policy.program active).Sound := by
  simp only [configure, bind, Except.bind, pure, Except.pure, throw, throwThe, MonadExceptOf.throw] at accepted
  rw [SellerFreeTierLimiter.policies, List.forall_mem_append]
  split_ifs at accepted with bare seller
  · cases made : construct id "" config.toSellerFreeTierProgramConfig "freeTier" with
    | error => simp [made, Functor.map, Except.map] at accepted
    | ok =>
      simp only [made, Functor.map, Except.map] at accepted
      split at accepted
      · cases accepted
      · rename_i policies services
        simp only [Except.ok.injEq, Prod.mk.injEq] at accepted
        rw [← accepted.1, ← accepted.2]
        simpa using ⟨construct_sound made active, services_sound services active⟩
  · split at accepted
    · cases accepted
    · rename_i policies services
      simp only [Except.ok.injEq, Prod.mk.injEq] at accepted
      rw [← accepted.1, ← accepted.2]
      simpa using services_sound services active

end Configurations

variable {id : String → BitVec 256} {program : FreeTierProgram} {config : SellerFreeTierConfig}
  {limiter : SellerFreeTierLimiter}

theorem parse_encode (sound : program.Sound) (serviceId : Option String) :
    parseFreeTierProgram id (some (encodeFreeTierCapabilities id program serviceId none)) serviceId = some program := by
  have alone : Proper [⟨serviceId, program, false⟩] := by
    refine ⟨by simpa using sound, List.length_filter_le _ _, ?_, ?_⟩ <;> simp
  have texts : encodeFreeTierCapabilities id program serviceId none
      = [(⟨serviceId, program, false⟩ : Advertisement)].flatMap (Advertisement.texts id) := by
    cases serviceId <;> simp [encodeFreeTierCapabilities, inheritsTiers, Advertisement.texts, Advertisement.ownTiers]
  rw [texts]
  cases serviceId with
  | none =>
    rw [parseFreeTierProgram, parseSellerWide_ads alone]
    rfl
  | some serviceId =>
    rw [parse_ads alone]
    have stands : standIns id [⟨some serviceId, program, false⟩] serviceId = [⟨some serviceId, program, false⟩] := by
      simp [standIns, Advertisement.scope]
    rw [stands]
    change finishProgram program.base ([] ++ (program.stakeTiers ++ [])) = some program
    rw [List.nil_append, List.append_nil, finishProgram_sound sound]

/-- Every program that a configuration is accepted for is read back from its advertisement as it is. -/
theorem accepted_program_reads_back {policy : FreeTierPolicy} {config : SellerFreeTierProgramConfig} {scope label : String}
    (accepted : construct id scope config label = .ok policy) (active : Bool) (serviceId : Option String) :
    parseFreeTierProgram id (some (encodeFreeTierCapabilities id (policy.program active) serviceId none)) serviceId
      = some (policy.program active) :=
  parse_encode (construct_sound accepted active) serviceId

/-- The last of some programs has the limits of another one, and all have its tiers together, unless these
    are not the tiers of any program. -/
def SpeaksFor (ads : List Advertisement) (program : Option FreeTierProgram) : Prop :=
  ∀ last ∈ ads.getLast?, ValidStakeTiers (sortTiers (gathered ads)) →
    ∃ enforced ∈ program, last.program.base = enforced.base ∧ sortTiers (gathered ads) = enforced.stakeTiers

/-- Buyers read the program that a service is served under, or none, if and only if what is advertised under
    the scope of the service, or else the seller-wide program, speaks for it. -/
theorem told_program_is_enforced_iff (accepted : configure id config = .ok (limiter.seller, limiter.services))
    (collates : String → String → Bool) (budget : Option ℚ) (service : String) (paid : Bool) :
    (parseFreeTierProgram id (some (limiter.capabilities id collates budget)) (some service) = none
      ∨ parseFreeTierProgram id (some (limiter.capabilities id collates budget)) (some service)
        = limiter.program (some service) paid)
    ↔ SpeaksFor (standIns id (limiter.advertisements collates budget) service)
        (limiter.program (some service) paid) := by
  have proper : Proper (limiter.advertisements collates budget) :=
    proper_advertisements (configure_sound accepted limiter.stakeTiersActive)
  rw [capabilities_eq, parse_ads proper, SpeaksFor]
  generalize standIns id (limiter.advertisements collates budget) service = ads
  generalize limiter.program (some service) paid = enforced
  cases ads.getLast? with
  | none => simp
  | some last =>
    simp only [Option.bind_some, Option.mem_def, Option.some.injEq, forall_eq']
    cases read : finishProgram last.program.base (gathered ads) with
    | none =>
      have refused : ¬ ValidStakeTiers (sortTiers (gathered ads)) := fun valid => by
        rw [finishProgram_eq_some.mpr ⟨valid, rfl⟩] at read
        cases read
      simp [refused]
    | some =>
      obtain ⟨valid, rfl⟩ := finishProgram_eq_some.mp read
      simp only [reduceCtorEq, false_or, valid, forall_true_left]
      constructor
      · rintro rfl
        exact ⟨_, rfl, rfl, rfl⟩
      · rintro ⟨program, rfl, base, tiers⟩
        rw [base, tiers]
        rfl

/-- The hashes of three names. -/
def hashes (name : String) : BitVec 256 :=
  if name = "z-model" then 0xebe6ad8278a5d61cad04464b2ec3d74a5226be14d8c8d6965312d104c039e318#256
  else if name = "model-22196" then 0x163494caf93ee198aa3d3a9f13111dcb1eea13b44fc4b2dfe2e2df982801f714#256
  else if name = "model-90574" then 0x163494ca8418d18c5097ea59adaff5d21c15eea9c0c91e11b6f2463115e2a0e6#256
  else 0

def sellerWideAndOwn : SellerFreeTierConfig := {
  maxRequestsPerAddress := some 10, stakeTiers := some []
  services := [("z-model", { maxRequestsPerAddress := some 5, stakeTiers := some [] })] }

def sameScope : SellerFreeTierConfig := {
  services := [("model-22196", { maxRequestsPerAddress := some 5, stakeTiers := some [] }),
    ("model-90574", { maxRequestsPerAddress := some 50, stakeTiers := some [] })] }

/-- A program of some requests from an address in a day. -/
def perAddress (scope : String) (limit : Int) : FreeTierPolicy := ⟨scope, some limit, none, 86400000, [], false⟩

theorem perAddress_reads_back :
    parseFreeTierProgram hashes (some (encodeFreeTierCapabilities hashes ((perAddress "z-model" 5).program true)
      (some "z-model") none)) (some "z-model") = some ((perAddress "z-model" 5).program true) :=
  have accepted : construct hashes "z-model" { maxRequestsPerAddress := some 5, stakeTiers := some [] } ""
      = .ok (perAddress "z-model" 5) := by decide +kernel
  accepted_program_reads_back accepted true (some "z-model")

def limiterOf (seller : Option FreeTierPolicy) (services : List FreeTierPolicy)
    (sellerScope : ∀ policy ∈ seller, policy.scope = "" := by decide)
    (serviceScopes : ∀ policy ∈ services, policy.scope ≠ "" := by decide)
    (distinct : (services.map scope).Nodup := by decide) : SellerFreeTierLimiter where
  seller := seller
  services := services
  isIP := fun _ => 0
  sellerScope := sellerScope
  serviceScopes := serviceScopes
  distinct := distinct

/-- The programs of `sellerWideAndOwn`. -/
def wideAndOwn : SellerFreeTierLimiter := limiterOf (some (perAddress "" 10)) [perAddress "z-model" 5]

theorem program_that_fits_is_told :
    configure hashes sellerWideAndOwn = .ok (some (perAddress "" 10), [perAddress "z-model" 5])
      ∧ ((parseFreeTierProgram hashes (some (wideAndOwn.capabilities hashes (fun _ _ => true) (some 2)))
          (some "z-model") = none
        ∨ parseFreeTierProgram hashes (some (wideAndOwn.capabilities hashes (fun _ _ => true) (some 2)))
          (some "z-model") = wideAndOwn.program (some "z-model") false)
      ↔ SpeaksFor (standIns hashes (wideAndOwn.advertisements (fun _ _ => true) (some 2)) "z-model")
          (wideAndOwn.program (some "z-model") false)) :=
  have accepted : configure hashes sellerWideAndOwn = .ok (wideAndOwn.seller, wideAndOwn.services) := by
    decide +kernel
  ⟨accepted, told_program_is_enforced_iff accepted _ _ _ _⟩

theorem programs_inOrder : limiter.programs (fun _ _ => true)
    = limiter.seller.toList.map (fun policy => (none, policy))
      ++ limiter.services.map fun policy => (some policy.scope, policy) := by
  rw [SellerFreeTierLimiter.programs, List.mergeSort_of_pairwise (List.pairwise_of_forall fun _ _ => rfl)]

/-- A service whose program does not fit is told the seller-wide one, and one that shares its scope the other's. -/
theorem other_programs_are_told :
    configure hashes sellerWideAndOwn = .ok (some (perAddress "" 10), [perAddress "z-model" 5])
      ∧ parseFreeTierProgram hashes (some (wideAndOwn.capabilities hashes (fun _ _ => true) (some 1)))
          (some "z-model") = some ((perAddress "" 10).program false)
      ∧ wideAndOwn.program (some "z-model") false = some ((perAddress "z-model" 5).program false)
      ∧ configure hashes sameScope = .ok (none, [perAddress "model-22196" 5, perAddress "model-90574" 50])
      ∧ parseFreeTierProgram hashes (some ((limiterOf none [perAddress "model-22196" 5, perAddress "model-90574" 50]
          ).capabilities hashes (fun _ _ => true) none)) (some "model-22196")
          = some ((perAddress "model-90574" 50).program false)
      ∧ (limiterOf none [perAddress "model-22196" 5, perAddress "model-90574" 50]).program (some "model-22196") false
          = some ((perAddress "model-22196" 5).program false) := by
  refine ⟨by decide +kernel, by decide +kernel, by decide +kernel, by decide +kernel, ?_, by decide +kernel⟩
  rw [SellerFreeTierLimiter.capabilities, programs_inOrder]
  decide +kernel

end AntSeed.FreeTier
