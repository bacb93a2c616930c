import AntSeed.Protocol.ServiceMetadata

/-! # The usage of a channel

Every SpendingAuth carries the usage of its channel so far, in all and by
service. What a request adds to it is what its response used, unless another
path has counted the request before.
-/

namespace AntSeed.Buyer

open Protocol

def ZERO_METADATA : SpendingAuthMetadata := ⟨0, 0, 0, some 0, some 0, some 0, some []⟩

def normalizeRequestUsageDelta (delta : ServiceMetadataDelta) (deliveredResponse alreadyCounted : Bool) :
    ServiceMetadataDelta :=
  if deliveredResponse ∧ alreadyCounted = false then delta else ⟨0, 0, 0, 0, 0, 0, some 0, some 0⟩

section Advance

-- the hash that a service's name is known by
variable (id : String → Nat)

def advanceUsageMetadata (previous : Option SpendingAuthMetadata) (service : Option String)
    (delta : ServiceMetadataDelta) : SpendingAuthMetadata :=
  let prev := previous.getD ZERO_METADATA
  withServiceMetadata id
    { cumulativeInputTokens := prev.cumulativeInputTokens + delta.inputTokens
      cumulativeOutputTokens := prev.cumulativeOutputTokens + delta.outputTokens
      cumulativeRequestCount := prev.cumulativeRequestCount + delta.requests
      cumulativeOutputImages := some (prev.cumulativeOutputImages.getD 0 + delta.outputImages)
      cumulativeVideoGenerations :=
        some (prev.cumulativeVideoGenerations.getD 0 + delta.videoGenerations.getD 0)
      cumulativeVideoSeconds := some (prev.cumulativeVideoSeconds.getD 0 + delta.videoSeconds.getD 0)
      services := some prev.listed }
    service delta

variable (disableMetadataV2Services : Bool)

def sanitizeMetadata (metadata : Option SpendingAuthMetadata) : SpendingAuthMetadata :=
  let current := metadata.getD ZERO_METADATA
  if disableMetadataV2Services then
    { current with
      cumulativeOutputImages := some (current.cumulativeOutputImages.getD 0)
      cumulativeVideoGenerations := some (current.cumulativeVideoGenerations.getD 0)
      cumulativeVideoSeconds := some (current.cumulativeVideoSeconds.getD 0)
      services := some [] }
  else boundServiceMetadata id current

/-- `_advanceUsageMetadata` -/
def nextUsageMetadata (previous : Option SpendingAuthMetadata) (service : Option String)
    (delta : ServiceMetadataDelta) : SpendingAuthMetadata :=
  advanceUsageMetadata id (some (sanitizeMetadata id disableMetadataV2Services previous))
    (if disableMetadataV2Services then none else service) delta

end Advance

/-- What is counted over all services. Amounts and cached tokens are counted by service only. -/
def overall (metadata : SpendingAuthMetadata) : Counter → Nat
  | .amount => 0
  | .inputTokens => metadata.cumulativeInputTokens
  | .cachedInputTokens => 0
  | .outputTokens => metadata.cumulativeOutputTokens
  | .requests => metadata.cumulativeRequestCount
  | .outputImages => metadata.cumulativeOutputImages.getD 0
  | .videoGenerations => metadata.cumulativeVideoGenerations.getD 0
  | .videoSeconds => metadata.cumulativeVideoSeconds.getD 0

variable {id : String → Nat} {disableMetadataV2Services : Bool} {c : Counter} {metadata : SpendingAuthMetadata}
  {previous : Option SpendingAuthMetadata} {service : Option String} {delta : ServiceMetadataDelta}

theorem counter_normalize :
    (normalizeRequestUsageDelta delta deliveredResponse alreadyCounted).counter c
      = if deliveredResponse ∧ alreadyCounted = false then delta.counter c else 0 := by
  unfold normalizeRequestUsageDelta
  split
  · rfl
  · cases c <;> rfl

@[simp] theorem overall_withServiceMetadata : overall (withServiceMetadata id metadata service delta) c = overall metadata c := by
  unfold withServiceMetadata
  split
  · rfl
  · cases c <;> rfl

@[simp] theorem overall_boundServiceMetadata : overall (boundServiceMetadata id metadata) c = overall metadata c := by
  unfold boundServiceMetadata
  dsimp only
  split
  · rfl
  · cases c <;> rfl

@[simp] theorem overall_sanitizeMetadata :
    overall (sanitizeMetadata id disableMetadataV2Services previous) c = overall (previous.getD ZERO_METADATA) c := by
  unfold sanitizeMetadata
  dsimp only
  split
  · cases c <;> rfl
  · exact overall_boundServiceMetadata

theorem overall_next_le : overall (nextUsageMetadata id disableMetadataV2Services previous service delta) c
    ≤ overall (previous.getD ZERO_METADATA) c + delta.counter c := by
  rw [nextUsageMetadata, advanceUsageMetadata, overall_withServiceMetadata,
    ← @overall_sanitizeMetadata id disableMetadataV2Services c previous]
  cases c <;> simp [overall, ServiceMetadataDelta.counter]

theorem total_withServiceMetadata_le : total c (withServiceMetadata id metadata service delta).listed
    ≤ total c metadata.listed + delta.counter c := by
  unfold withServiceMetadata
  split
  · exact Nat.le_add_right _ _
  · have known := @Keyed.sum_ofList_le _ _ _ SpendingAuthServiceMetadata.serviceId
      (boundServiceMetadata id metadata).listed fun entry => entry.counter c
    have bounded := @total_bound id c metadata
    change total c (sortServices (advanced _ _ delta)) ≤ _
    rw [total_perm sortServices_perm, total_advanced]
    unfold total at *
    omega

theorem total_sanitizeMetadata_le : total c (sanitizeMetadata id disableMetadataV2Services previous).listed
    ≤ total c (previous.getD ZERO_METADATA).listed := by
  unfold sanitizeMetadata
  dsimp only
  split
  · exact Nat.zero_le _
  · exact total_bound.le

theorem total_next_le : total c (nextUsageMetadata id disableMetadataV2Services previous service delta).listed
    ≤ total c (previous.getD ZERO_METADATA).listed + delta.counter c := by
  have before := @total_sanitizeMetadata_le id disableMetadataV2Services c previous
  refine total_withServiceMetadata_le.trans ?_
  exact Nat.add_le_add_right before _

end AntSeed.Buyer
