import AntSeed.Lib.Keyed
import Mathlib.Algebra.Order.BigOperators.Group.List
import Mathlib.Algebra.Order.Group.Nat
import Mathlib.Data.List.Count

/-! # Usage by service

A spending authorization carries the usage of its channel by service. The list is
bounded: what exceeds it is added up in an entry for all other services.
-/

namespace AntSeed.Protocol

open Keyed

def MAX_METADATA_SERVICES : Nat := 32

/-- A service's id stands for its text, whose order is that of the numbers. -/
structure SpendingAuthServiceMetadata where
  serviceId : Nat
  cumulativeAmount : Nat
  cumulativeInputTokens : Nat
  cumulativeCachedInputTokens : Nat
  cumulativeOutputTokens : Nat
  cumulativeRequestCount : Nat
  cumulativeOutputImages : Nat
  cumulativeVideoGenerations : Option Nat
  cumulativeVideoSeconds : Option Nat
  deriving DecidableEq, Repr

structure SpendingAuthMetadata where
  cumulativeInputTokens : Nat
  cumulativeOutputTokens : Nat
  cumulativeRequestCount : Nat
  cumulativeOutputImages : Option Nat
  cumulativeVideoGenerations : Option Nat
  cumulativeVideoSeconds : Option Nat
  services : Option (List SpendingAuthServiceMetadata)
  deriving DecidableEq, Repr

/-- `metadata.services ?? []` -/
def SpendingAuthMetadata.listed (metadata : SpendingAuthMetadata) : List SpendingAuthServiceMetadata :=
  metadata.services.getD []

structure ServiceMetadataDelta where
  amount : Nat
  inputTokens : Nat
  cachedInputTokens : Nat
  outputTokens : Nat
  requests : Nat
  outputImages : Nat
  videoGenerations : Option Nat
  videoSeconds : Option Nat
  deriving DecidableEq, Repr

/-- What is counted by service. -/
inductive Counter where
  | amount
  | inputTokens
  | cachedInputTokens
  | outputTokens
  | requests
  | outputImages
  | videoGenerations
  | videoSeconds
  deriving DecidableEq, Repr

/-- A counter that is missing stands at zero. -/
def SpendingAuthServiceMetadata.counter (entry : SpendingAuthServiceMetadata) : Counter → Nat
  | .amount => entry.cumulativeAmount
  | .inputTokens => entry.cumulativeInputTokens
  | .cachedInputTokens => entry.cumulativeCachedInputTokens
  | .outputTokens => entry.cumulativeOutputTokens
  | .requests => entry.cumulativeRequestCount
  | .outputImages => entry.cumulativeOutputImages
  | .videoGenerations => entry.cumulativeVideoGenerations.getD 0
  | .videoSeconds => entry.cumulativeVideoSeconds.getD 0

def ServiceMetadataDelta.counter (delta : ServiceMetadataDelta) : Counter → Nat
  | .amount => delta.amount
  | .inputTokens => delta.inputTokens
  | .cachedInputTokens => delta.cachedInputTokens
  | .outputTokens => delta.outputTokens
  | .requests => delta.requests
  | .outputImages => delta.outputImages
  | .videoGenerations => delta.videoGenerations.getD 0
  | .videoSeconds => delta.videoSeconds.getD 0

def addServiceTotals (target source : SpendingAuthServiceMetadata) : SpendingAuthServiceMetadata where
  serviceId := target.serviceId
  cumulativeAmount := target.cumulativeAmount + source.cumulativeAmount
  cumulativeInputTokens := target.cumulativeInputTokens + source.cumulativeInputTokens
  cumulativeCachedInputTokens := target.cumulativeCachedInputTokens + source.cumulativeCachedInputTokens
  cumulativeOutputTokens := target.cumulativeOutputTokens + source.cumulativeOutputTokens
  cumulativeRequestCount := target.cumulativeRequestCount + source.cumulativeRequestCount
  cumulativeOutputImages := target.cumulativeOutputImages + source.cumulativeOutputImages
  cumulativeVideoGenerations :=
    some (target.cumulativeVideoGenerations.getD 0 + source.cumulativeVideoGenerations.getD 0)
  cumulativeVideoSeconds :=
    some (target.cumulativeVideoSeconds.getD 0 + source.cumulativeVideoSeconds.getD 0)

def emptyServiceTotals (serviceId : Nat) : SpendingAuthServiceMetadata :=
  ⟨serviceId, 0, 0, 0, 0, 0, 0, some 0, some 0⟩

def sortServices (services : List SpendingAuthServiceMetadata) : List SpendingAuthServiceMetadata :=
  services.mergeSort fun a b => a.serviceId ≤ b.serviceId

/-- The entry after a request of the service. -/
def increased (existing : SpendingAuthServiceMetadata) (delta : ServiceMetadataDelta) :
    SpendingAuthServiceMetadata where
  serviceId := existing.serviceId
  cumulativeAmount := existing.cumulativeAmount + delta.amount
  cumulativeInputTokens := existing.cumulativeInputTokens + delta.inputTokens
  cumulativeCachedInputTokens := existing.cumulativeCachedInputTokens + delta.cachedInputTokens
  cumulativeOutputTokens := existing.cumulativeOutputTokens + delta.outputTokens
  cumulativeRequestCount := existing.cumulativeRequestCount + delta.requests
  cumulativeOutputImages := existing.cumulativeOutputImages + delta.outputImages
  cumulativeVideoGenerations :=
    some (existing.cumulativeVideoGenerations.getD 0 + delta.videoGenerations.getD 0)
  cumulativeVideoSeconds := some (existing.cumulativeVideoSeconds.getD 0 + delta.videoSeconds.getD 0)

def entryWith (serviceId : Nat) (byServiceId : List SpendingAuthServiceMetadata) :
    SpendingAuthServiceMetadata :=
  (get SpendingAuthServiceMetadata.serviceId serviceId byServiceId).getD (emptyServiceTotals serviceId)

/-- White space and the ends of lines. -/
def isWhitespace (char : Char) : Bool :=
  (0x9 ≤ char.val ∧ char.val ≤ 0xD) ∨ char.val = 0x20 ∨ char.val = 0xA0 ∨ char.val = 0x1680
    ∨ (0x2000 ≤ char.val ∧ char.val ≤ 0x200A) ∨ char.val = 0x2028 ∨ char.val = 0x2029
    ∨ char.val = 0x202F ∨ char.val = 0x205F ∨ char.val = 0x3000 ∨ char.val = 0xFEFF

def trim (text : String) : String :=
  .ofList (((text.toList.dropWhile isWhitespace).reverse.dropWhile isWhitespace).reverse)

section Services

-- the hash that a service's name is known by
variable (id : String → Nat)

def OTHER_SERVICES_METADATA_ID : Nat := id "antseed:other-services"

def getServiceMetadataId (service : String) : Nat := id (trim service)

/-- The services with entries of their own, the largest first. -/
def explicitServices (services : List SpendingAuthServiceMetadata) : List SpendingAuthServiceMetadata :=
  (services.filter fun entry => entry.serviceId ≠ OTHER_SERVICES_METADATA_ID id).mergeSort fun a b =>
    if a.cumulativeAmount ≠ b.cumulativeAmount then a.cumulativeAmount > b.cumulativeAmount
    else a.serviceId ≤ b.serviceId

def otherServices (services : List SpendingAuthServiceMetadata) : SpendingAuthServiceMetadata :=
  let other := (services.filter fun entry => entry.serviceId = OTHER_SERVICES_METADATA_ID id).foldl
    addServiceTotals (emptyServiceTotals (OTHER_SERVICES_METADATA_ID id))
  ((explicitServices id services).drop (MAX_METADATA_SERVICES - 1)).foldl addServiceTotals other

def boundServiceMetadata (metadata : SpendingAuthMetadata) : SpendingAuthMetadata :=
  let services := metadata.listed
  if services.length ≤ MAX_METADATA_SERVICES then metadata
  else
    let kept := (explicitServices id services).take (MAX_METADATA_SERVICES - 1)
    { metadata with services := some (sortServices (kept ++ [otherServices id services])) }

/-- No service, or one without a name. -/
def isUnnamed : Option String → Bool
  | none => true
  | some service => trim service = ""

/-- The id of the entry that a service is counted in. Services that are listed keep theirs, new ones
    beyond the bound share one. -/
def entryId (byServiceId : List SpendingAuthServiceMetadata) (service : Option String) : Nat :=
  let ids := byServiceId.map SpendingAuthServiceMetadata.serviceId
  let serviceId := getServiceMetadataId id (service.getD "")
  let explicitCount := (ids.filter fun key => key ≠ OTHER_SERVICES_METADATA_ID id).length
  if serviceId ∉ ids ∧ explicitCount ≥ MAX_METADATA_SERVICES - 1 then OTHER_SERVICES_METADATA_ID id
  else serviceId

def withServiceMetadata (metadata : SpendingAuthMetadata) (service : Option String)
    (delta : ServiceMetadataDelta) : SpendingAuthMetadata :=
  if isUnnamed service then metadata
  else
    let byServiceId := ofList SpendingAuthServiceMetadata.serviceId
      (boundServiceMetadata id metadata).listed
    let existing := entryWith (entryId id byServiceId service) byServiceId
    { metadata with
      services := some (sortServices
        (set SpendingAuthServiceMetadata.serviceId (increased existing delta) byServiceId)) }

end Services

def ids (services : List SpendingAuthServiceMetadata) : List Nat :=
  services.map SpendingAuthServiceMetadata.serviceId

/-- What all entries count together. -/
def total (c : Counter) (services : List SpendingAuthServiceMetadata) : Nat :=
  (services.map fun entry => entry.counter c).sum

section Totals

variable {c : Counter} {services others : List SpendingAuthServiceMetadata}
  {target source entry : SpendingAuthServiceMetadata} {delta : ServiceMetadataDelta}

@[simp] theorem counter_addServiceTotals :
    (addServiceTotals target source).counter c = target.counter c + source.counter c := by
  cases c <;> rfl

@[simp] theorem counter_emptyServiceTotals :
    (emptyServiceTotals serviceId).counter c = 0 := by
  cases c <;> rfl

@[simp] theorem counter_increased : (increased target delta).counter c = target.counter c + delta.counter c := by
  cases c <;> rfl

@[simp] theorem total_append : total c (services ++ others) = total c services + total c others := by
  simp [total]

@[simp] theorem total_cons : total c (entry :: services) = entry.counter c + total c services := by
  simp [total]

theorem total_perm (same : services.Perm others) : total c services = total c others :=
  (same.map _).sum_eq

theorem counter_foldl :
    (services.foldl addServiceTotals target).counter c = target.counter c + total c services := by
  induction services generalizing target with
  | nil => rfl
  | cons first rest ih => simp [ih, Nat.add_assoc]

theorem serviceId_foldl : (services.foldl addServiceTotals target).serviceId = target.serviceId := by
  induction services generalizing target with
  | nil => rfl
  | cons first rest ih => exact ih

theorem counter_le_total (here : entry ∈ services) : entry.counter c ≤ total c services :=
  List.le_sum_of_mem (List.mem_map_of_mem here)

theorem sortServices_perm : (sortServices services).Perm services := List.mergeSort_perm _ _

end Totals

section Bound

variable {id : String → Nat} {c : Counter} {services : List SpendingAuthServiceMetadata}
  {entry : SpendingAuthServiceMetadata} {metadata : SpendingAuthMetadata}

theorem explicitServices_perm : (explicitServices id services).Perm
    (services.filter fun entry => entry.serviceId ≠ OTHER_SERVICES_METADATA_ID id) :=
  List.mergeSort_perm _ _

theorem mem_explicitServices : entry ∈ explicitServices id services
    ↔ entry ∈ services ∧ entry.serviceId ≠ OTHER_SERVICES_METADATA_ID id := by
  rw [explicitServices_perm.mem_iff, List.mem_filter, decide_eq_true_eq]

theorem serviceId_otherServices :
    (otherServices id services).serviceId = OTHER_SERVICES_METADATA_ID id := by
  rw [otherServices, serviceId_foldl, serviceId_foldl]
  rfl

theorem counter_otherServices : (otherServices id services).counter c
    = total c (services.filter fun entry => entry.serviceId = OTHER_SERVICES_METADATA_ID id)
      + total c ((explicitServices id services).drop (MAX_METADATA_SERVICES - 1)) := by
  rw [otherServices, counter_foldl, counter_foldl, counter_emptyServiceTotals, Nat.zero_add]

/-- The entries that are left of a list that is too long. -/
def foldedServices (id : String → Nat) (services : List SpendingAuthServiceMetadata) :
    List SpendingAuthServiceMetadata :=
  (explicitServices id services).take (MAX_METADATA_SERVICES - 1) ++ [otherServices id services]

theorem listed_bound : (boundServiceMetadata id metadata).listed
    = if metadata.listed.length ≤ MAX_METADATA_SERVICES then metadata.listed
      else sortServices (foldedServices id metadata.listed) := by
  unfold boundServiceMetadata
  dsimp only
  split <;> rfl

theorem total_foldedServices : total c (foldedServices id services) = total c services := by
  have parts := List.take_append_drop (MAX_METADATA_SERVICES - 1) (explicitServices id services)
  have kinds := List.filter_append_perm
    (fun entry : SpendingAuthServiceMetadata => decide (entry.serviceId = OTHER_SERVICES_METADATA_ID id))
    services
  have explicit := @total_perm c _ _ (@explicitServices_perm id services)
  rw [← parts, total_append] at explicit
  rw [← total_perm kinds, foldedServices, total_append, total_append, total_cons, counter_otherServices]
  simp only [decide_not, ne_eq] at explicit ⊢
  change _ + (_ + 0) = _
  omega

theorem length_foldedServices : (foldedServices id services).length ≤ MAX_METADATA_SERVICES := by
  rw [foldedServices, List.length_append, List.length_take, List.length_singleton]
  unfold MAX_METADATA_SERVICES
  omega

theorem nodup_foldedServices (distinct : (ids services).Nodup) : (ids (foldedServices id services)).Nodup := by
  have explicit : (ids (explicitServices id services)).Nodup := by
    rw [ids, (explicitServices_perm.map _).nodup_iff]
    exact distinct.sublist (List.filter_sublist.map _)
  rw [foldedServices, ids, List.map_append, List.nodup_append]
  refine ⟨explicit.sublist ((List.take_sublist _ _).map _), List.nodup_singleton _, ?_⟩
  intro one here another there same
  obtain ⟨entry, among, rfl⟩ := List.mem_map.mp here
  rw [List.map_singleton, List.mem_singleton, serviceId_otherServices] at there
  exact (mem_explicitServices.mp (List.mem_of_mem_take among)).2 (same.trans there)

theorem mem_foldedServices (here : entry ∈ services) :
    entry ∈ foldedServices id services ∨ ∀ c, entry.counter c ≤ (otherServices id services).counter c := by
  by_cases other : entry.serviceId = OTHER_SERVICES_METADATA_ID id
  · right
    intro c
    have among : entry ∈ services.filter fun entry => entry.serviceId = OTHER_SERVICES_METADATA_ID id :=
      List.mem_filter.mpr ⟨here, by simpa using other⟩
    have part := @counter_le_total c _ _ among
    rw [counter_otherServices]
    omega
  · have among := mem_explicitServices.mpr ⟨here, other⟩
    rw [← List.take_append_drop (MAX_METADATA_SERVICES - 1) (explicitServices id services),
      List.mem_append] at among
    cases among with
    | inl kept => exact .inl (List.mem_append_left _ kept)
    | inr dropped =>
      right
      intro c
      have part := @counter_le_total c _ _ dropped
      rw [counter_otherServices]
      omega

theorem total_bound : total c (boundServiceMetadata id metadata).listed = total c metadata.listed := by
  rw [listed_bound]
  split
  · rfl
  · rw [total_perm sortServices_perm, total_foldedServices]

theorem length_bound : (boundServiceMetadata id metadata).listed.length ≤ MAX_METADATA_SERVICES := by
  rw [listed_bound]
  split
  next short => exact short
  · rw [sortServices_perm.length_eq]
    exact length_foldedServices

theorem nodup_bound (distinct : (ids metadata.listed).Nodup) :
    (ids (boundServiceMetadata id metadata).listed).Nodup := by
  rw [listed_bound]
  split
  · exact distinct
  · rw [ids, (sortServices_perm.map _).nodup_iff]
    exact nodup_foldedServices distinct

theorem other_mem_bound (long : ¬ metadata.listed.length ≤ MAX_METADATA_SERVICES) :
    OTHER_SERVICES_METADATA_ID id ∈ ids (boundServiceMetadata id metadata).listed := by
  rw [listed_bound, if_neg long, ids, (sortServices_perm.map _).mem_iff, ← serviceId_otherServices]
  exact List.mem_map_of_mem (List.mem_append_right _ (List.mem_singleton_self _))

end Bound

def Kept (services : List SpendingAuthServiceMetadata) (entry : SpendingAuthServiceMetadata) : Prop :=
  ∃ later ∈ services, later.serviceId = entry.serviceId ∧ ∀ c, entry.counter c ≤ later.counter c

/-- The entry for all other services counts no less. -/
def Folded (id : String → Nat) (services : List SpendingAuthServiceMetadata)
    (entry : SpendingAuthServiceMetadata) : Prop :=
  ∃ other ∈ services, other.serviceId = OTHER_SERVICES_METADATA_ID id ∧
    ∀ c, entry.counter c ≤ other.counter c

/-- Nothing is lost between two lists, and what one request used is added. -/
structure Accounted (id : String → Nat) (before after : List SpendingAuthServiceMetadata)
    (delta : ServiceMetadataDelta) : Prop where
  distinct : (ids after).Nodup
  totals : ∀ c, total c after = total c before + delta.counter c
  kept : before.length ≤ MAX_METADATA_SERVICES → ∀ entry ∈ before, Kept after entry
  folded : ∀ entry ∈ before, Kept after entry ∨ Folded id after entry

section Request

variable {id : String → Nat} {c : Counter} {services : List SpendingAuthServiceMetadata} {serviceId : Nat}
  {entry : SpendingAuthServiceMetadata} {metadata : SpendingAuthMetadata} {service : Option String}
  {delta : ServiceMetadataDelta}

theorem serviceId_entryWith : (entryWith serviceId services).serviceId = serviceId := by
  unfold entryWith
  cases found : get SpendingAuthServiceMetadata.serviceId serviceId services with
  | none => rfl
  | some => exact (mem_of_get found).2

theorem counter_entryWith : (entryWith serviceId services).counter c
    = (get SpendingAuthServiceMetadata.serviceId serviceId services).elim 0 fun entry =>
        entry.counter c := by
  unfold entryWith
  cases get SpendingAuthServiceMetadata.serviceId serviceId services with
  | none => exact counter_emptyServiceTotals
  | some => rfl

/-- The list after a request in a certain entry. -/
def advanced (services : List SpendingAuthServiceMetadata) (serviceId : Nat) (delta : ServiceMetadataDelta) :
    List SpendingAuthServiceMetadata :=
  set SpendingAuthServiceMetadata.serviceId (increased (entryWith serviceId services) delta) services

theorem total_advanced :
    total c (advanced services serviceId delta) = total c services + delta.counter c := by
  have sum := @Keyed.sum_set _ _ _ SpendingAuthServiceMetadata.serviceId
    (increased (entryWith serviceId services) delta) services _ _ fun entry => entry.counter c
  have same : (increased (entryWith serviceId services) delta).serviceId = serviceId := serviceId_entryWith
  rw [same, counter_increased, counter_entryWith] at sum
  unfold advanced total
  omega

theorem kept_advanced (distinct : (ids services).Nodup) (here : entry ∈ services) :
    Kept (advanced services serviceId delta) entry := by
  by_cases same : entry.serviceId = serviceId
  · refine ⟨_, mem_set_self, serviceId_entryWith.trans same.symm, fun c => ?_⟩
    have found : entryWith serviceId services = entry := by
      rw [entryWith, ← same, get_of_mem distinct here]
      rfl
    rw [counter_increased, found]
    exact Nat.le_add_right _ _
  · refine ⟨entry, mem_set_of_ne here ?_, rfl, fun c => le_rfl⟩
    exact fun other => same (other.trans serviceId_entryWith)

theorem listed_with (named : ¬ isUnnamed service) (distinct : (ids metadata.listed).Nodup) :
    (withServiceMetadata id metadata service delta).listed
      = sortServices (advanced (boundServiceMetadata id metadata).listed
          (entryId id (boundServiceMetadata id metadata).listed service) delta) := by
  rw [withServiceMetadata, if_neg named, ofList_distinct (nodup_bound distinct)]
  rfl

theorem kept_of_perm (same : services.Perm others)
    (kept : Kept services entry) : Kept others entry := by
  obtain ⟨later, here, more⟩ := kept
  exact ⟨later, same.mem_iff.mp here, more⟩

theorem accounted_with (named : ¬ isUnnamed service) (distinct : (ids metadata.listed).Nodup) :
    Accounted id metadata.listed (withServiceMetadata id metadata service delta).listed delta := by
  have bounded := @nodup_bound id metadata distinct
  have kept : ∀ entry ∈ (boundServiceMetadata id metadata).listed,
      Kept (withServiceMetadata id metadata service delta).listed entry := by
    intro entry here
    rw [listed_with named distinct]
    exact kept_of_perm sortServices_perm.symm (kept_advanced bounded here)
  constructor
  · rw [listed_with named distinct, ids, (sortServices_perm.map _).nodup_iff]
    exact nodup_keys_set bounded
  · intro c
    rw [listed_with named distinct, total_perm sortServices_perm, total_advanced, total_bound]
  · intro short entry here
    apply kept
    rw [listed_bound, if_pos short]
    exact here
  · intro entry here
    by_cases short : metadata.listed.length ≤ MAX_METADATA_SERVICES
    · left
      apply kept
      rw [listed_bound, if_pos short]
      exact here
    · have among : ∀ entry ∈ foldedServices id metadata.listed,
          entry ∈ (boundServiceMetadata id metadata).listed := by
        intro entry here
        rw [listed_bound, if_neg short]
        exact sortServices_perm.mem_iff.mpr here
      cases @mem_foldedServices id _ _ here with
      | inl stays => exact .inl (kept _ (among _ stays))
      | inr part =>
        right
        obtain ⟨later, there, same, more⟩ :=
          kept _ (among _ (List.mem_append_right _ (List.mem_singleton_self _)))
        exact ⟨later, there, same.trans serviceId_otherServices, fun c => (part c).trans (more c)⟩

/-- The list is full of services with entries of their own, and neither the service nor the others have
    one. -/
def AtCap (id : String → Nat) (services : List SpendingAuthServiceMetadata) (service : Option String) : Prop :=
  services.length = MAX_METADATA_SERVICES ∧ OTHER_SERVICES_METADATA_ID id ∉ ids services ∧
    getServiceMetadataId id (service.getD "") ∉ ids services

instance {id : String → Nat} : Decidable (AtCap id services service) :=
  inferInstanceAs (Decidable (_ ∧ _))

theorem length_ids (distinct : (ids services).Nodup) : services.length
    = ((ids services).filter fun key => key ≠ OTHER_SERVICES_METADATA_ID id).length
      + if OTHER_SERVICES_METADATA_ID id ∈ ids services then 1 else 0 := by
  have parts := List.length_eq_length_filter_add
    (fun key : Nat => decide (key ≠ OTHER_SERVICES_METADATA_ID id)) (l := ids services)
  have one := distinct.count (a := OTHER_SERVICES_METADATA_ID id)
  rw [List.count_eq_length_filter] at one
  simp only [decide_not, Bool.not_not, ne_eq, ids, List.length_map] at parts one ⊢
  simp only [beq_eq_decide] at one
  omega

theorem length_advanced : (advanced services serviceId delta).length
    = if serviceId ∈ ids services then services.length else services.length + 1 := by
  rw [advanced, Keyed.length_set]
  exact if_congr (by rw [increased, serviceId_entryWith]; rfl) rfl rfl

theorem length_advanced_le_iff (short : services.length ≤ MAX_METADATA_SERVICES)
    (distinct : (ids services).Nodup) :
    (advanced services (entryId id services service) delta).length ≤ MAX_METADATA_SERVICES
      ↔ ¬ AtCap id services service := by
  have parts := @length_ids id _ distinct
  rw [length_advanced, AtCap]
  by_cases listed : getServiceMetadataId id (service.getD "") ∈ ids services
  · have own : entryId id services service = getServiceMetadataId id (service.getD "") :=
      if_neg fun new => new.1 listed
    rw [own, if_pos listed]
    exact ⟨fun _ full => full.2.2 listed, fun _ => short⟩
  · by_cases many : ((ids services).filter fun key => key ≠ OTHER_SERVICES_METADATA_ID id).length
        ≥ MAX_METADATA_SERVICES - 1
    · have other : entryId id services service = OTHER_SERVICES_METADATA_ID id := if_pos ⟨listed, many⟩
      rw [other]
      split
      next present => exact ⟨fun _ full => full.2.1 present, fun _ => short⟩
      next alone =>
        rw [if_neg alone] at parts
        constructor
        · rintro fits ⟨full, -⟩
          omega
        · intro room
          have less : services.length ≠ MAX_METADATA_SERVICES := fun full => room ⟨full, alone, listed⟩
          omega
    · have own : entryId id services service = getServiceMetadataId id (service.getD "") :=
        if_neg fun new => many new.2
      have few : services.length < MAX_METADATA_SERVICES := by
        split at parts <;> omega
      rw [own, if_neg listed]
      exact ⟨fun _ full => few.ne full.1, fun _ => few⟩

theorem atCap_bound : AtCap id (boundServiceMetadata id metadata).listed service
    ↔ AtCap id metadata.listed service := by
  by_cases short : metadata.listed.length ≤ MAX_METADATA_SERVICES
  · rw [listed_bound, if_pos short]
  · constructor
    · intro full
      exact absurd (other_mem_bound short) full.2.1
    · intro full
      exact absurd full.1.le short

theorem length_with_le_iff (named : ¬ isUnnamed service) (distinct : (ids metadata.listed).Nodup) :
    (withServiceMetadata id metadata service delta).listed.length ≤ MAX_METADATA_SERVICES
      ↔ ¬ AtCap id metadata.listed service := by
  rw [listed_with named distinct, sortServices_perm.length_eq,
    length_advanced_le_iff length_bound (nodup_bound distinct), atCap_bound]

end Request

/-- A request of a service loses nothing of what was counted, and exceeds the bound only where the list
    was full without an entry for all others. Bounding a list alone keeps every total. -/
theorem withServiceMetadata_bounded_iff (id : String → Nat) (metadata : SpendingAuthMetadata)
    (service : Option String) (delta : ServiceMetadataDelta) (distinct : (ids metadata.listed).Nodup) :
    (isUnnamed service → withServiceMetadata id metadata service delta = metadata) ∧
      (¬ isUnnamed service →
        Accounted id metadata.listed (withServiceMetadata id metadata service delta).listed delta ∧
          ((withServiceMetadata id metadata service delta).listed.length ≤ MAX_METADATA_SERVICES
            ↔ ¬ AtCap id metadata.listed service)) ∧
      ∀ c, total c (boundServiceMetadata id metadata).listed = total c metadata.listed :=
  ⟨fun unnamed => if_pos unnamed,
    fun named => ⟨accounted_with named distinct, length_with_le_iff named distinct⟩,
    fun _ => total_bound⟩

/-- As many services with entries of their own as the list may hold. -/
def fullMetadata : SpendingAuthMetadata where
  cumulativeInputTokens := 0
  cumulativeOutputTokens := 0
  cumulativeRequestCount := 32
  cumulativeOutputImages := none
  cumulativeVideoGenerations := none
  cumulativeVideoSeconds := none
  services := some ((List.range 32).map fun n => ⟨n, 1, 0, 0, 0, 1, 0, none, none⟩)

/-- The hashes of the two names that occur. -/
def knownHash (name : String) : Nat :=
  if name = "antseed:other-services" then
    0xdf272795a7e70eaa82b1bf2af386b73356011399851ba588a5adc58dec594909
  else if name = "gpt-5" then
    0xeb4cedadc0eee09de6afe3956fa641b21f35a34354dec299dabae2063279f103
  else 0

def oneRequest : ServiceMetadataDelta := ⟨1, 10, 0, 20, 1, 0, none, none⟩

theorem nodup_fullMetadata : (ids fullMetadata.listed).Nodup := by decide

theorem named_gpt : ¬ isUnnamed (some "gpt-5") := by decide

theorem withServiceMetadata_bounded_full : Accounted knownHash fullMetadata.listed
    (withServiceMetadata knownHash fullMetadata (some "gpt-5") oneRequest).listed oneRequest :=
  ((withServiceMetadata_bounded_iff knownHash fullMetadata (some "gpt-5") oneRequest
    nodup_fullMetadata).2.1 named_gpt).1

theorem full_list_exceeds_bound :
    ¬ (withServiceMetadata knownHash fullMetadata (some "gpt-5") oneRequest).listed.length
      ≤ MAX_METADATA_SERVICES := by
  rw [length_with_le_iff named_gpt nodup_fullMetadata, not_not]
  decide

end AntSeed.Protocol
