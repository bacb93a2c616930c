import AntSeed.FreeTier.Readings

/-! # Programs that are advertised

What a buyer reads of a service is put together from all programs that are advertised under its scope,
or is the seller-wide program if there are none.
-/

namespace AntSeed.FreeTier

open SellerFreeTierLimiter
open List Option

/-- A program as it is advertised: with its tiers, or with those of the seller-wide program. -/
structure Advertisement where
  service : Option String
  program : FreeTierProgram
  inheritTiers : Bool

open Advertisement

namespace Advertisement

/-- How many texts it takes. -/
def size (ad : Advertisement) : Nat := 1 + if ad.inheritTiers then 0 else ad.program.stakeTiers.length

/-- The tiers that it names itself. -/
def ownTiers (ad : Advertisement) : List FreeTierStakeTier := if ad.inheritTiers then [] else ad.program.stakeTiers

def texts (id : String → BitVec 256) (ad : Advertisement) : List String :=
  encodeBase (capabilityPrefix id ad.service) ad.program ad.inheritTiers
    :: ad.ownTiers.map (encodeTier (capabilityPrefix id ad.service))

def scope (id : String → BitVec 256) (ad : Advertisement) : Option String :=
  ad.service.map (freeTierServiceScope id)

/-- What a reading becomes with it. -/
def read (ad : Advertisement) (found : ProgramReading) : ProgramReading :=
  { base := some ad.program.base, inheritTiers := ad.service.isSome && ad.inheritTiers,
    stakeTiers := found.stakeTiers ++ ad.ownTiers }

end Advertisement

/-- Tiers in the order of what they need. -/
def sortTiers (tiers : List FreeTierStakeTier) : List FreeTierStakeTier :=
  tiers.mergeSort fun a b => a.minPower ≤ b.minPower

def gathered (ads : List Advertisement) : List FreeTierStakeTier :=
  ads.dropLast.flatMap ownTiers ++ ads.getLast?.toList.flatMap fun ad => ad.program.stakeTiers

/-- The programs that are advertised under the scope of a service, or the seller-wide one if there are none. -/
def standIns (id : String → BitVec 256) (ads : List Advertisement) (serviceId : String) : List Advertisement :=
  let named := ads.filter fun ad => ad.scope id = some (freeTierServiceScope id serviceId)
  if named.isEmpty then ads.filter fun ad => ad.service.isNone else named

/-- One program at most is the seller-wide one, and others have its tiers only if it is there. -/
structure Proper (ads : List Advertisement) : Prop where
  sound : ∀ ad ∈ ads, ad.program.Sound
  single : (ads.filter fun ad => ad.service.isNone).length ≤ 1
  names : ∀ ad ∈ ads, ad.service = none → ad.inheritTiers = false
  inherits : ∀ ad ∈ ads, ad.inheritTiers = true →
    ∃ seller ∈ ads, seller.service = none ∧ seller.program.stakeTiers = ad.program.stakeTiers

section Texts

variable {id : String → BitVec 256} {service scope : Option String} {ad : Advertisement} {ads : List Advertisement}
  {found : ProgramReading} {tiers : List FreeTierStakeTier} {base : FreeTierBaseLimits} {program : FreeTierProgram}

theorem Advertisement.length_texts : (ad.texts id).length = ad.size := by
  rw [texts, size, ownTiers, length_cons, length_map, Nat.add_comm]
  cases ad.inheritTiers <;> rfl

theorem sameStakeTiers_iff : sameStakeTiers a b = true ↔ a = b := by
  rw [sameStakeTiers]
  induction a generalizing b with
  | nil => cases b <;> simp
  | cons tier a ih =>
    cases b with
    | nil => simp
    | cons other =>
      simp only [Bool.and_eq_true, decide_eq_true_eq] at ih
      cases tier
      cases other
      simp only [length_cons, Nat.add_right_cancel_iff, zip_cons_cons, all_cons, Bool.and_eq_true,
        decide_eq_true_eq, cons.injEq, ← ih, FreeTierStakeTier.mk.injEq]
      tauto

theorem read_texts (sound : ad.program.Sound) : (ad.texts id).foldlM (readCapability scope) found
    = some (if ad.scope id = scope then ad.read found else found) := by
  have named : ∀ tier ∈ ad.ownTiers, tier ∈ ad.program.stakeTiers := by
    intro tier member
    rw [ownTiers] at member
    split at member
    · cases member
    · exact member
  rw [texts, foldlM_cons, readCapability_base sound, bind_eq_bind, bind_some,
    read_tiers sound.tiers named]
  rw [Advertisement.scope]
  split_ifs with same
  · rw [← same, isSome_map]
    rfl
  · rfl

theorem read_ads (sound : ∀ ad ∈ ads, ad.program.Sound) :
    (ads.flatMap (texts id)).foldlM (readCapability scope) found
      = some ((ads.filter fun ad => ad.scope id = scope).foldl (fun found ad => ad.read found) found) := by
  induction ads generalizing found with
  | nil => rfl
  | cons ad ads ih =>
    simp only [forall_mem_cons] at sound
    rw [flatMap_cons, foldlM_append, read_texts sound.1, bind_eq_bind, bind_some, ih sound.2]
    by_cases same : ad.scope id = scope
    · rw [if_pos same, filter_cons_of_pos (by simpa using same), foldl_cons]
    · rw [if_neg same, filter_cons_of_neg (by simpa using same)]

theorem read_all (nonempty : ads ≠ []) :
    ads.foldl (fun found ad => ad.read found) {} = (ads.getLast nonempty).read
      { stakeTiers := ads.dropLast.flatMap ownTiers } := by
  have collects : ∀ (ads : List Advertisement) (found : ProgramReading),
      (ads.foldl (fun found ad => ad.read found) found).stakeTiers
        = found.stakeTiers ++ ads.flatMap ownTiers := by
    intro ads
    induction ads with
    | nil => simp
    | cons ad ads ih =>
      intro found
      rw [foldl_cons, ih, Advertisement.read, flatMap_cons, append_assoc]
  have split := dropLast_append_getLast nonempty
  have before := collects ads.dropLast {}
  rw [nil_append] at before
  calc ads.foldl (fun found ad => ad.read found) {}
      = (ads.dropLast ++ [ads.getLast nonempty]).foldl (fun found ad => ad.read found) {} := by rw [split]
    _ = (ads.getLast nonempty).read (ads.dropLast.foldl (fun found ad => ad.read found) {}) := by
      rw [foldl_append, foldl_cons, foldl_nil]
    _ = _ := by rw [Advertisement.read, Advertisement.read, before]

theorem finishProgram_eq_some : finishProgram base tiers = some program
    ↔ ValidStakeTiers (sortTiers tiers) ∧ program = base.program (sortTiers tiers) := by
  rw [finishProgram, ← sortTiers]
  cases checked : validateFreeTierStakeTiers (sortTiers tiers) "freeTier.stakeTiers" with
  | error =>
    have refused : ¬ ValidStakeTiers (sortTiers tiers) := fun valid => by
      rw [validateFreeTierStakeTiers_eq_ok.mpr valid] at checked
      cases checked
    simp [refused]
  | ok =>
    have valid := validateFreeTierStakeTiers_eq_ok.mp checked
    exact ⟨fun same => ⟨valid, (Option.some.inj same).symm⟩, fun both => congrArg _ both.2.symm⟩

theorem sortTiers_valid (valid : ValidStakeTiers tiers) : sortTiers tiers = tiers :=
  mergeSort_of_pairwise (valid.rising.imp fun less => by simpa using less.le)

theorem begins_iff
    (kinded : isScope kind = false) (splits : parts text = frontParts (ad.scope id) ++ kind :: fields) :
    (capabilityPrefix id (some serviceId)).toList.isPrefixOf text.toList = true
      ↔ ad.scope id = some (freeTierServiceScope id serviceId) := by
  refine Iff.trans isPrefixOf_iff_prefix ?_
  constructor
  · rintro ⟨rest, same⟩
    have whole : text = capabilityPrefix id (some serviceId) ++ .ofList rest := by
      rw [String.ext_iff, String.toList_append, String.toList_ofList, same]
    rw [whole, parts_front] at splits
    cases ownScope : ad.scope id with
    | none =>
      rw [ownScope] at splits
      simp only [frontParts, map_some, toList_some, toList_none, map_cons, map_nil,
        cons_append, nil_append, cons.injEq, true_and] at splits
      rw [← splits.1, isScope_scope] at kinded
      cases kinded
    | some =>
      rw [ownScope] at splits
      simp only [frontParts, map_some, toList_some, map_cons, map_nil,
        cons_append, nil_append, cons.injEq, true_and] at splits
      rw [String.ext_iff.mpr splits.1]
  · intro ownScope
    rw [ownScope] at splits
    have begins := toList_of_parts splits (cons_ne_nil _ _)
    simpa [capabilityPrefix, String.toList_append] using begins

theorem texts_begin (sound : ad.program.Sound) :
    ((ad.texts id).any fun text => (capabilityPrefix id (some serviceId)).toList.isPrefixOf text.toList) = true
      ↔ ad.scope id = some (freeTierServiceScope id serviceId) := by
  have base : (capabilityPrefix id (some serviceId)).toList.isPrefixOf
      (encodeBase (capabilityPrefix id ad.service) ad.program ad.inheritTiers).toList = true
        ↔ ad.scope id = some (freeTierServiceScope id serviceId) :=
    begins_iff (by decide) (parts_encodeBase sound)
  have tier : ∀ tier, (capabilityPrefix id (some serviceId)).toList.isPrefixOf
      (encodeTier (capabilityPrefix id ad.service) tier).toList = true
        ↔ ad.scope id = some (freeTierServiceScope id serviceId) := by
    intro tier
    exact begins_iff (by decide) parts_encodeTier
  simp only [texts, List.any_cons, Bool.or_eq_true, base, List.any_eq_true, List.mem_map,
    or_iff_left_iff_imp]
  rintro ⟨text, ⟨shown, -, rfl⟩, begins⟩
  exact (tier shown).mp begins

theorem finishProgram_sound (sound : program.Sound) : finishProgram program.base program.stakeTiers = some program := by
  rw [finishProgram_eq_some, sortTiers_valid sound.tiers]
  exact ⟨sound.tiers, rfl⟩

theorem sellerWide_cases (proper : Proper ads) : (ads.filter fun ad => ad.service.isNone) = []
    ∨ ∃ seller ∈ ads, seller.service = none ∧ (ads.filter fun ad => ad.service.isNone) = [seller] := by
  cases found : ads.filter fun ad => ad.service.isNone with
  | nil => exact .inl rfl
  | cons seller rest =>
    have short := proper.single
    rw [found, length_cons] at short
    have none_ : rest = [] := eq_nil_of_length_eq_zero (by omega)
    have here : seller ∈ ads.filter fun ad => ad.service.isNone := by simp [found]
    rw [mem_filter, isNone_iff_eq_none] at here
    exact .inr ⟨seller, here.1, here.2, by rw [none_]⟩

theorem parseSellerWide_ads (proper : Proper ads) : parseSellerWide (ads.flatMap (texts id))
    = (ads.filter fun ad => ad.service.isNone).getLast?.map Advertisement.program := by
  have bare : (ads.filter fun ad => ad.scope id = none) = ads.filter fun ad => ad.service.isNone := by
    refine filter_congr fun ad _ => ?_
    rw [scope]
    cases ad.service <;> rfl
  rw [parseSellerWide, readCapabilities, read_ads proper.sound, bare]
  rcases sellerWide_cases proper with none_ | ⟨seller, member, unnamed, only⟩
  · rw [none_]
    rfl
  · have own : seller.ownTiers = seller.program.stakeTiers := by
      rw [ownTiers, proper.names seller member unnamed]
      rfl
    rw [only]
    change finishProgram seller.program.base ([] ++ seller.ownTiers) = some seller.program
    rw [nil_append, own, finishProgram_sound (proper.sound seller member)]

/-- What is read of a service is the last of the programs that stand for it, with all tiers together. -/
theorem parse_ads (proper : Proper ads) :
    parseFreeTierProgram id (some (ads.flatMap (Advertisement.texts id))) (some serviceId)
      = (standIns id ads serviceId).getLast?.bind fun last =>
          finishProgram last.program.base (gathered (standIns id ads serviceId)) := by
  have begins : ((ads.flatMap (Advertisement.texts id)).any fun text =>
      (capabilityPrefix id (some serviceId)).toList.isPrefixOf text.toList) = true
        ↔ (ads.filter fun ad => ad.scope id = some (freeTierServiceScope id serviceId)).isEmpty = false := by
    rw [List.any_flatMap, List.any_eq_true, List.isEmpty_eq_false_iff_exists_mem]
    simp only [mem_filter, decide_eq_true_eq]
    exact exists_congr fun ad => and_congr_right fun member => texts_begin (proper.sound ad member)
  rw [parseFreeTierProgram, standIns]
  cases named : (ads.filter fun ad => ad.scope id = some (freeTierServiceScope id serviceId)).isEmpty with
  | true =>
    rw [named] at begins
    rw [if_neg (by rw [begins]; exact Bool.noConfusion), if_pos rfl, parseSellerWide_ads proper]
    rcases sellerWide_cases proper with none_ | ⟨seller, member, -, only⟩
    · rw [none_]
      rfl
    · rw [only]
      change some seller.program = finishProgram seller.program.base ([] ++ (seller.program.stakeTiers ++ []))
      rw [nil_append, append_nil, finishProgram_sound (proper.sound seller member)]
  | false =>
    rw [if_pos (begins.mpr named), if_neg (by simp)]
    have nonempty := isEmpty_eq_false_iff.mp named
    rw [parseScopedFreeTierProgram, readCapabilities, read_ads proper.sound, bind_eq_bind, bind_some,
      read_all nonempty, gathered, getLast?_eq_getLast_of_ne_nil nonempty]
    have member := mem_filter.mp (getLast_mem nonempty)
    generalize (ads.filter fun ad => ad.scope id = some (freeTierServiceScope id serviceId)).getLast nonempty = last
      at member ⊢
    cases inherits : last.inheritTiers with
    | false =>
      have own : last.ownTiers = last.program.stakeTiers := by
        rw [Advertisement.ownTiers, inherits]
        rfl
      simp [Advertisement.read, inherits, own]
    | true =>
      obtain ⟨seller, here, unnamed, same⟩ := proper.inherits last member.1 inherits
      have named : last.service.isSome = true := by
        cases service : last.service with
        | none => simp [Advertisement.scope, service] at member
        | some => rfl
      have only : (ads.filter fun ad => ad.service.isNone) = [seller] := by
        rcases sellerWide_cases proper with none_ | ⟨other, -, -, only⟩
        · exact absurd (filter_eq_nil_iff.mp none_ seller here) (by simp [unnamed])
        · have among : seller ∈ ads.filter fun ad => ad.service.isNone := by simp [here, unnamed]
          rw [only, mem_singleton] at among
          rw [only, among]
      have own : last.ownTiers = [] := by
        rw [Advertisement.ownTiers, inherits]
        rfl
      simp [Advertisement.read, inherits, own, named, parseSellerWide_ads proper, only, same]

end Texts

/-- Whether so many texts are too many. -/
def exceeds (budget : Option ℚ) (count : Nat) : Bool := budget.any fun budget => ((count : Nat) : ℚ) > budget

/-- Programs of services that fit after texts that are there, each whole or not at all. -/
def serviceAds (active : Bool) (budget : Option ℚ) (sellerWideTiers : Option (List FreeTierStakeTier)) :
    Nat → List FreeTierPolicy → List Advertisement
  | _, [] => []
  | used, policy :: rest =>
    let program := policy.program active
    let ad : Advertisement := ⟨some policy.scope, program, inheritsTiers program (some policy.scope) sellerWideTiers⟩
    if exceeds budget (used + ad.size) then serviceAds active budget sellerWideTiers used rest
    else ad :: serviceAds active budget sellerWideTiers (used + ad.size) rest

namespace SellerFreeTierLimiter

def sellerAd (limiter : SellerFreeTierLimiter) (budget : Option ℚ) : Option Advertisement :=
  (limiter.seller.map fun policy => ⟨none, policy.program limiter.stakeTiersActive, false⟩).filter fun ad =>
    ¬ exceeds budget ad.size

def ownAds (limiter : SellerFreeTierLimiter) (collates : String → String → Bool) (budget : Option ℚ) :
    List Advertisement :=
  let seller := limiter.sellerAd budget
  serviceAds limiter.stakeTiersActive budget (seller.map fun ad => ad.program.stakeTiers)
    ((seller.map size).getD 0) (limiter.services.mergeSort fun a b => collates a.scope b.scope)

def advertisements (limiter : SellerFreeTierLimiter) (collates : String → String → Bool) (budget : Option ℚ) :
    List Advertisement :=
  (limiter.sellerAd budget).toList ++ limiter.ownAds collates budget

end SellerFreeTierLimiter

variable {id : String → BitVec 256} {collates : String → String → Bool} {budget : Option ℚ} {active : Bool}
  {limiter : SellerFreeTierLimiter} {policies : List FreeTierPolicy} {used : Nat}
  {sellerWideTiers : Option (List FreeTierStakeTier)} {ad : Advertisement}

theorem advertise_services :
    ((policies.map fun policy => (some policy.scope, policy)).foldl (advertise id active budget)
      (out, sellerWideTiers)).1
      = out ++ (serviceAds active budget sellerWideTiers out.length policies).flatMap (texts id) := by
  induction policies generalizing out with
  | nil => simp [serviceAds]
  | cons policy rest ih =>
    let ad : Advertisement := ⟨some policy.scope, policy.program active,
      inheritsTiers (policy.program active) (some policy.scope) sellerWideTiers⟩
    have next : advertise id active budget (out, sellerWideTiers) (some policy.scope, policy)
        = if exceeds budget (out.length + ad.size) then (out, sellerWideTiers)
          else (out ++ ad.texts id, sellerWideTiers) := by
      have counted : ad.size = (ad.texts id).length := length_texts.symm
      rw [counted]
      rfl
    rw [map_cons, foldl_cons, next, serviceAds]
    split_ifs with many
    · exact ih
    · rw [ih, flatMap_cons, length_append, length_texts, append_assoc]

theorem capabilities_eq : limiter.capabilities id collates budget
    = (limiter.advertisements collates budget).flatMap (texts id) := by
  rw [capabilities, programs, List.foldl_append, advertisements, ownAds, sellerAd]
  cases seller : limiter.seller with
  | none =>
    rw [advertise_services]
    rfl
  | some policy =>
    let ad : Advertisement := ⟨none, policy.program limiter.stakeTiersActive, false⟩
    have first : advertise id limiter.stakeTiersActive budget ([], none) (none, policy)
        = if exceeds budget ad.size then ([], none) else (ad.texts id, some ad.program.stakeTiers) := by
      have counted : ad.size = 0 + (ad.texts id).length := by
        rw [Nat.zero_add, length_texts]
      rw [counted]
      rfl
    change ((List.map _ _).foldl _ (advertise id _ budget ([], none) (none, policy))).1 = _
    rw [first]
    cases fits : exceeds budget ad.size with
    | true =>
      rw [if_pos rfl, advertise_services]
      simp [Option.filter, fits, ad]
    | false =>
      rw [if_neg Bool.false_ne_true, advertise_services]
      simp [Option.filter, fits, ad, length_texts]

theorem mem_serviceAds (member : ad ∈ serviceAds active budget sellerWideTiers used policies) :
    ∃ policy ∈ policies, ad = ⟨some policy.scope, policy.program active,
      inheritsTiers (policy.program active) (some policy.scope) sellerWideTiers⟩ := by
  induction policies generalizing used with
  | nil => cases member
  | cons policy rest ih =>
    rw [serviceAds] at member
    split_ifs at member with many
    · obtain ⟨other, there, same⟩ := ih member
      exact ⟨other, mem_cons_of_mem _ there, same⟩
    · cases mem_cons.mp member with
      | inl same => exact ⟨policy, mem_cons_self, same⟩
      | inr later =>
        obtain ⟨other, there, same⟩ := ih later
        exact ⟨other, mem_cons_of_mem _ there, same⟩

theorem mem_sellerAd (member : ad ∈ limiter.sellerAd budget) :
    ∃ policy ∈ limiter.seller, ad = ⟨none, policy.program limiter.stakeTiersActive, false⟩ := by
  rw [sellerAd, mem_filter_iff] at member
  obtain ⟨policy, here, same⟩ := mem_map.mp member.1
  exact ⟨policy, here, same.symm⟩

section

variable (sound : ∀ policy ∈ limiter.policies, (policy.program limiter.stakeTiersActive).Sound)

include sound

theorem ownAds_spec
    (member : ad ∈ limiter.ownAds collates budget) :
    ad.service.isSome ∧ ad.program.Sound ∧ (ad.inheritTiers = true →
      ∃ seller ∈ limiter.sellerAd budget, seller.program.stakeTiers = ad.program.stakeTiers) := by
  obtain ⟨policy, here, rfl⟩ := mem_serviceAds member
  have known : policy ∈ limiter.policies := by
    rw [mem_mergeSort] at here
    simp [policies, here]
  refine ⟨rfl, sound policy known, fun inherits => ?_⟩
  simp only [inheritsTiers, isSome_some, Bool.true_and] at inherits
  cases seller : limiter.sellerAd budget with
  | none => simp [seller] at inherits
  | some ad =>
    rw [seller, map_some, any_some, Bool.and_eq_true, sameStakeTiers_iff] at inherits
    exact ⟨ad, rfl, inherits.2.symm⟩

theorem sellerAd_spec
    (member : ad ∈ limiter.sellerAd budget) : ad.service = none ∧ ad.program.Sound ∧ ad.inheritTiers = false := by
  obtain ⟨policy, here, rfl⟩ := mem_sellerAd member
  refine ⟨rfl, sound policy ?_, rfl⟩
  rw [mem_def] at here
  simp [policies, here]

end

theorem mem_advertisements :
    ad ∈ limiter.advertisements collates budget ↔ ad ∈ limiter.sellerAd budget ∨ ad ∈ limiter.ownAds collates budget := by
  rw [advertisements, mem_append, mem_toList, mem_def]

theorem proper_advertisements (sound : ∀ policy ∈ limiter.policies, (policy.program limiter.stakeTiersActive).Sound) :
    Proper (limiter.advertisements collates budget) := by
  constructor
  · intro ad member
    cases mem_advertisements.mp member with
    | inl first => exact (sellerAd_spec sound first).2.1
    | inr own => exact (ownAds_spec sound own).2.1
  · have named : (limiter.ownAds collates budget).filter (fun ad => ad.service.isNone) = [] := by
      refine filter_eq_nil_iff.mpr fun ad member => ?_
      have service := (ownAds_spec sound member).1
      simpa [ne_none_iff_isSome] using service
    rw [advertisements, filter_append, named, append_nil]
    exact (length_filter_le _ _).trans (by cases limiter.sellerAd budget <;> simp)
  · intro ad member unnamed
    cases mem_advertisements.mp member with
    | inl first => exact (sellerAd_spec sound first).2.2
    | inr own =>
      have service := (ownAds_spec sound own).1
      simp [unnamed] at service
  · intro ad member inherits
    cases mem_advertisements.mp member with
    | inl first => simp [(sellerAd_spec sound first).2.2] at inherits
    | inr own =>
      obtain ⟨first, here, same⟩ := (ownAds_spec sound own).2.2 inherits
      exact ⟨first, mem_advertisements.mpr (.inl here), (sellerAd_spec sound here).1, same⟩

end AntSeed.FreeTier
