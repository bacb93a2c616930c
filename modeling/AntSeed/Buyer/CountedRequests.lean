import AntSeed.Buyer.Overdraft
import Mathlib.Data.List.Nodup
import Mathlib.Data.List.Perm.Subperm

/-! # How long a counted request is known

The tracker holds 512 requests and drops the oldest for a new one. A request
stays known until 512 others have been counted after it.
-/

namespace AntSeed.Buyer.CountedRequestTracker

open List

variable (tracker : CountedRequestTracker)

def keys : List String := tracker.map (·.1)

/-- The request is known, and those that were counted after it are among the names. -/
structure Holds (requestId : String) (unpaid : Int) (names : List String) : Prop where
  found : tracker.lookup requestId = some unpaid
  newer : ∃ older newer, tracker.keys = older ++ requestId :: newer ∧ ∀ id ∈ newer, id ∈ names
  named : requestId ∈ names

/-- What a path does to the tracker. -/
inductive Step (requestId : Option String) : CountedRequestTracker → Prop where
  | same : Step requestId tracker
  | mark {unpaidAmount : Int} : tracker.has requestId = false → Step requestId (tracker.mark requestId unpaidAmount)
  | pay {amount : Int} : Step requestId (tracker.pay requestId amount)

section Keys

variable {tracker : CountedRequestTracker} {id other : String} {amount : Int} {requestId : Option String}
  {tracker' : CountedRequestTracker}

theorem has_iff : tracker.has (some id) ↔ id ∈ tracker.keys := by
  simp [has, keys]

theorem mem_keys_of_lookup (found : tracker.lookup id = some amount) : id ∈ tracker.keys :=
  mem_map_of_mem (mem_of_lookup found)

theorem keys_set : (tracker.set id amount).keys = if id ∈ tracker.keys then tracker.keys else tracker.keys ++ [id] := by
  have there : tracker.any (·.1 = id) = true ↔ id ∈ tracker.keys := has_iff
  unfold set
  split
  next present =>
    rw [if_pos (there.mp present), keys, keys, map_map]
    refine map_congr_left fun entry _ => ?_
    dsimp only [Function.comp]
    split
    next same => exact same.symm
    · rfl
  next absent =>
    rw [if_neg fun present => absent (there.mpr present)]
    simp [keys]

theorem lookup_cons :
    List.lookup id (entry :: rest) = if id = entry.1 then some entry.2 else rest.lookup id := by
  rw [List.lookup_cons]
  by_cases same : id = entry.1
  · simp [same]
  · simp [same, beq_false_of_ne same]

theorem lookup_none (absent : id ∉ tracker.keys) : tracker.lookup id = none := by
  cases found : tracker.lookup id with
  | none => rfl
  | some => exact absurd (mem_keys_of_lookup found) absent

theorem lookup_some (present : id ∈ tracker.keys) : ∃ amount, tracker.lookup id = some amount := by
  cases found : tracker.lookup id with
  | some amount => exact ⟨amount, rfl⟩
  | none =>
    rw [lookup_eq_none_iff] at found
    obtain ⟨entry, here, same⟩ := mem_map.mp present
    have other := found entry here
    simp [same] at other

theorem lookup_map : (tracker.map fun entry => if entry.1 = id then (id, amount) else entry).lookup other
    = (tracker.lookup other).map fun old => if other = id then amount else old := by
  induction tracker with
  | nil => rfl
  | cons entry rest ih =>
    rw [map_cons, lookup_cons, lookup_cons, ih]
    by_cases asked : other = entry.1
    · by_cases mine : entry.1 = id <;> simp [asked, mine]
    · by_cases mine : entry.1 = id
      · have differ : other ≠ id := mine ▸ asked
        simp [mine, differ]
      · simp [asked, mine]

theorem lookup_set : (tracker.set id amount).lookup other = if other = id then some amount else tracker.lookup other := by
  have there : tracker.any (·.1 = id) = true ↔ id ∈ tracker.keys := has_iff
  unfold set
  split
  next present =>
    rw [lookup_map]
    by_cases asked : other = id
    · obtain ⟨old, found⟩ := lookup_some (there.mp present)
      simp [asked, found]
    · simp [asked]
  next absent =>
    rw [lookup_append, lookup_cons]
    by_cases asked : other = id
    · simp [asked, lookup_none fun here => absent (there.mpr here)]
    · simp [asked]

theorem keys_trim : tracker.trim.keys = if tracker.keys.length < limit then tracker.keys else tracker.keys.tail := by
  have length : tracker.keys.length = tracker.length := length_map _
  rw [trim, length]
  split
  · rfl
  · exact map_tail

theorem keys_pay : (tracker.pay requestId amount).keys = tracker.keys := by
  unfold pay
  split
  · rfl
  · split
    · rfl
    · split
      · rfl
      next found => rw [keys_set, if_pos (mem_keys_of_lookup found)]

theorem lookup_pay (different : requestId ≠ some other) : (tracker.pay requestId amount).lookup other = tracker.lookup other := by
  unfold pay
  split
  · rfl
  next id =>
    split
    · rfl
    · split
      · rfl
      · rw [lookup_set, if_neg fun same => different (congrArg some same.symm)]

theorem nodup_trim (distinct : tracker.keys.Nodup) : tracker.trim.keys.Nodup := by
  rw [keys_trim]
  split
  · exact distinct
  · exact distinct.tail

theorem keys_trim_subset (here : id ∈ tracker.trim.keys) : id ∈ tracker.keys := by
  rw [keys_trim] at here
  split at here
  · exact here
  · exact mem_of_mem_tail here

theorem keys_mark (named : id ≠ "") (new : tracker.has (some id) = false) :
    (tracker.mark (some id) amount).keys = tracker.trim.keys ++ [id] := by
  have absent : id ∉ tracker.trim.keys := fun here => by
    have known := has_iff.mpr (keys_trim_subset here)
    simp [new] at known
  change (if id = "" then tracker else _ : CountedRequestTracker).keys = _
  rw [if_neg named, keys_set, if_neg absent]

theorem Step.nodup (step : tracker.Step requestId tracker') (distinct : tracker.keys.Nodup) : tracker'.keys.Nodup := by
  cases step with
  | same => exact distinct
  | pay => rwa [keys_pay]
  | mark new =>
    cases requestId with
    | none => exact distinct
    | some id =>
      by_cases named : id = ""
      · simpa [CountedRequestTracker.mark, named] using distinct
      · rw [keys_mark named new]
        refine nodup_append.mpr ⟨nodup_trim distinct, nodup_singleton id, ?_⟩
        intro one here another there same
        have known := has_iff.mpr (keys_trim_subset (mem_singleton.mp there ▸ same ▸ here))
        simp [new] at known

theorem Step.uncounted (step : tracker.Step requestId tracker') (different : requestId ≠ some other)
    (new : tracker.has (some other) = false) : tracker'.has (some other) = false := by
  have absent : other ∉ tracker.keys := by simpa [← has_iff] using new
  suffices other ∉ tracker'.keys by simpa [← has_iff] using this
  cases step with
  | same => exact absent
  | pay => rwa [keys_pay]
  | mark fresh =>
    cases requestId with
    | none => exact absent
    | some id =>
      by_cases named : id = ""
      · simpa [CountedRequestTracker.mark, named] using absent
      · rw [keys_mark named fresh, mem_append, mem_singleton]
        rintro (here | same)
        · exact absent (keys_trim_subset here)
        · exact different (congrArg some same.symm)

end Keys

variable {tracker tracker' : CountedRequestTracker} {requestId : String} {unpaid amount : Int} {names : List String}
  {other : Option String}

theorem Holds.known (holds : tracker.Holds requestId unpaid names) : tracker.has (some requestId) :=
  has_iff.mpr (mem_keys_of_lookup holds.found)

theorem Holds.unpaid_eq (holds : tracker.Holds requestId unpaid names) (named : requestId ≠ "") :
    tracker.unpaid (some requestId) = unpaid := by
  simp [CountedRequestTracker.unpaid, named, holds.found]

theorem holds_mark (named : requestId ≠ "") (new : tracker.has (some requestId) = false) (among : requestId ∈ names) :
    (tracker.mark (some requestId) unpaid).Holds requestId (max unpaid 0) names where
  found := by
    change (if requestId = "" then tracker else _ : CountedRequestTracker).lookup requestId = _
    rw [if_neg named, lookup_set, if_pos rfl]
  newer := ⟨tracker.trim.keys, [], keys_mark named new, nofun⟩
  named := among

variable (holds : tracker.Holds requestId unpaid names)

include holds

theorem Holds.pay (named : requestId ≠ "") (positive : 0 ≤ amount)
    (within : amount ≤ unpaid) : (tracker.pay (some requestId) amount).Holds requestId (unpaid - amount) names where
  found := by
    unfold CountedRequestTracker.pay
    dsimp only
    split
    next nothing =>
      have zero : amount = 0 := by
        cases nothing with
        | inl unnamed => exact absurd unnamed named
        | inr => omega
      simpa [zero] using holds.found
    · rw [holds.found]
      rw [lookup_set, if_pos rfl, max_eq_left (by omega)]
  newer := by
    rw [keys_pay]
    exact holds.newer
  named := holds.named

theorem Holds.mark {id : String} (distinct : tracker.keys.Nodup)
    (few : names.length ≤ limit) (named : id ≠ "") (new : tracker.has (some id) = false) (among : id ∈ names) :
    (tracker.mark (some id) amount).Holds requestId unpaid names := by
  obtain ⟨older, newer, split_, after⟩ := holds.newer
  have absent : id ∉ tracker.keys := by simpa [← has_iff] using new
  have different : requestId ≠ id := fun same => absent (same ▸ mem_keys_of_lookup holds.found)
  have trimmed : tracker.trim.lookup requestId = some unpaid ∧
      ∃ older', tracker.trim.keys = older' ++ requestId :: newer := by
    cases older with
    | nil =>
      rw [nil_append] at split_
      rw [split_] at absent distinct
      have fresh : (id :: requestId :: newer).Nodup := nodup_cons.mpr ⟨absent, distinct⟩
      have within : id :: requestId :: newer ⊆ names :=
        cons_subset.mpr ⟨among, cons_subset.mpr ⟨holds.named, after⟩⟩
      have count := (subperm_of_subset fresh within).length_le
      have short : tracker.length < limit := by
        have same := congrArg length split_
        simp [keys] at same count
        omega
      rw [trim, if_pos short]
      exact ⟨holds.found, [], split_⟩
    | cons first rest =>
      cases tracker with
      | nil => cases split_
      | cons entry others =>
        simp only [keys, map_cons, cons_append, cons.injEq] at split_
        obtain ⟨rfl, others_⟩ := split_
        rw [trim]
        split
        · exact ⟨holds.found, entry.1 :: rest, by simp [keys, others_]⟩
        · refine ⟨?_, rest, others_⟩
          have skipped := holds.found
          have later : requestId ∈ others.map (·.1) := by simp [others_]
          have first_ : requestId ≠ entry.1 := by
            rintro rfl
            exact (nodup_cons.mp distinct).1 later
          rwa [List.lookup_cons, beq_false_of_ne first_] at skipped
  obtain ⟨found, older', kept⟩ := trimmed
  refine ⟨?_, ⟨older', newer ++ [id], ?_, ?_⟩, holds.named⟩
  · change (if id = "" then tracker else _ : CountedRequestTracker).lookup requestId = _
    rw [if_neg named, lookup_set, if_neg different, found]
  · rw [keys_mark named new, kept, append_assoc, cons_append]
  · simpa [among, or_imp, forall_and] using after

theorem Holds.step (distinct : tracker.keys.Nodup)
    (few : names.length ≤ limit) (step : tracker.Step other tracker') (different : other ≠ some requestId)
    (room : ∀ id, tracker.has (some id) = false → tracker'.has (some id) → id ∈ names) :
    tracker'.Holds requestId unpaid names := by
  cases step with
  | same => exact holds
  | pay =>
    refine ⟨(lookup_pay different).trans holds.found, ?_, holds.named⟩
    rw [keys_pay]
    exact holds.newer
  | mark new =>
    cases other with
    | none => exact holds
    | some id =>
      by_cases named : id = ""
      · simpa [CountedRequestTracker.mark, named] using holds
      · refine holds.mark distinct few named new (room id new (has_iff.mpr ?_))
        rw [keys_mark named new]
        exact mem_append_right _ (mem_singleton_self id)

end AntSeed.Buyer.CountedRequestTracker
