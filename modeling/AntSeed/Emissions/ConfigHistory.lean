import AntSeed.Emissions.SellerPoolsRewards
import AntSeed.Emissions.UsageRewards

/-! # Which configuration an elapsed epoch reads

A controller keeps the configuration scheduled last and the one that was in force
in the epoch it was scheduled in. An epoch from before an earlier change
therefore reads a configuration that was set after it ran.
-/

namespace AntSeed.Emissions

open Evm
open SellerPoolsRewards UsageRewards
open List

/-- An accepted change: the epoch it was made in and what it set. -/
structure ConfigChange (κ : Type) where
  epoch : Nat
  config : κ

variable {κ : Type}

def lastBefore (initial : κ) (changes : List (ConfigChange κ)) (e : Nat) : κ :=
  ((changes.filter fun c => c.epoch < e).getLast?.map ConfigChange.config).getD initial

/-- The latest change came before the epoch, or the configuration in force when it was made
    is the one in force in the epoch. -/
def Retained (initial : κ) (changes : List (ConfigChange κ)) (e : Nat) : Prop :=
  ∀ last, changes.getLast? = some last → e ≤ last.epoch →
    lastBefore initial changes last.epoch = lastBefore initial changes e

def scheduleChange (s : Scheduled κ) (change : ConfigChange κ) : Scheduled κ :=
  s.schedule (change.epoch + 1) change.config

theorem lastBefore_nil (initial : κ) (e : Nat) : lastBefore initial [] e = initial := rfl

theorem lastBefore_concat (initial : κ) (changes : List (ConfigChange κ)) (last : ConfigChange κ)
    (e : Nat) :
    lastBefore initial (changes ++ [last]) e =
      if last.epoch < e then last.config else lastBefore initial changes e := by
  unfold lastBefore
  by_cases before : last.epoch < e
  · simp [filter_append, before]
  · simp [filter_append, before]

variable {changes : List (ConfigChange κ)} {now : Nat} {sender : Address}

theorem scheduled_concat [Inhabited κ]
    (ordered : (changes ++ [last]).Pairwise fun earlier later => earlier.epoch ≤ later.epoch) :
    (changes ++ [last]).foldl scheduleChange (.initial initial) =
      ⟨lastBefore initial changes last.epoch, last.config, last.epoch + 1⟩ := by
  induction changes using reverseRecOn generalizing last with
  | nil => rfl
  | append_singleton changes previous ih =>
    obtain ⟨sorted, -, below⟩ := pairwise_append.mp ordered
    have order : previous.epoch ≤ last.epoch := below previous (by simp) last (by simp)
    rw [foldl_append, ih sorted, lastBefore_concat]
    simp only [foldl_cons, foldl_nil, scheduleChange, Scheduled.schedule]
    by_cases before : previous.epoch < last.epoch
    · simp [before]
    · have same : previous.epoch = last.epoch := by omega
      simp [same]

theorem configAt_iff_retained [Inhabited κ]
    (ordered : changes.Pairwise fun earlier later => earlier.epoch ≤ later.epoch) (e : Nat) :
    (changes.foldl scheduleChange (.initial initial)).configAt e = lastBefore initial changes e ↔
      Retained initial changes e := by
  induction changes using reverseRecOn with
  | nil => simp [Scheduled.initial, Scheduled.configAt, lastBefore_nil, Retained]
  | append_singleton changes last =>
    rw [scheduled_concat ordered]
    unfold Retained
    simp only [Scheduled.configAt, lastBefore_concat, getLast?_concat, Option.some.injEq]
    by_cases before : last.epoch < e
    · simp [before, Nat.succ_le_of_lt before]
    · simp [before, Nat.not_lt.mp before]

/-- A call of a setter. -/
structure ConfigCall (κ : Type) where
  now : Nat
  sender : Address
  config : κ

open ConfigCall

def ConfigCall.change (call : ConfigCall κ) : ConfigChange κ := ⟨currentEpoch call.now, call.config⟩

/-- The calls were made one after the other. -/
def InTime (calls : List (ConfigCall κ)) : Prop :=
  calls.Pairwise fun earlier later => earlier.now ≤ later.now

def stakerConfigMachine :
    Machine SellerPoolsRewards (ConfigCall DynamicStakerConfig) (Revert RewardsError) :=
  ⟨fun r call => r.setDynamicStakerConfig call.now call.sender call.config⟩

def usageConfigMachine :
    Machine UsageRewards (ConfigCall DynamicUsageConfig) (Revert RewardsError) :=
  ⟨fun r call => r.setDynamicUsageConfig call.now call.sender call.config⟩

theorem setDynamicStakerConfig_schedules {r r' : SellerPoolsRewards} {config : DynamicStakerConfig}
    (h : r.setDynamicStakerConfig now sender config = .ok r') :
    r'.config = r.config.schedule (currentEpoch now + 1) config := by
  replace h := rest_ok h
  replace h := rest_ok h
  replace h := rest_ok h
  replace h := rest_ok h
  replace h := uint_rest h
  cases h
  rfl

theorem setDynamicUsageConfig_schedules {r r' : UsageRewards} {config : DynamicUsageConfig}
    (h : r.setDynamicUsageConfig now sender config = .ok r') :
    r'.config = r.config.schedule (currentEpoch now + 1) config := by
  replace h := rest_ok h
  replace h := rest_ok h
  replace h := rest_ok h
  replace h := rest_ok h
  replace h := rest_ok h
  replace h := rest_ok h
  replace h := uint_rest h
  cases h
  rfl

/-- A machine whose accepted calls schedule their configuration reads what was in force in an
    epoch exactly if that was retained. -/
theorem configAt_run_iff [Inhabited κ] {σ : Type}
    (M : Machine σ (ConfigCall κ) (Revert RewardsError)) (config : σ → Scheduled κ)
    (schedules : ∀ s call s', M.step s call = .ok s' → config s' = scheduleChange (config s) call.change)
    {s : σ} {initial : κ} (fresh : config s = .initial initial) {calls : List (ConfigCall κ)}
    (inTime : InTime calls) (e : Nat) :
    (config (M.run s calls)).configAt e = lastBefore initial ((M.accepted s calls).map change) e ↔
      Retained initial ((M.accepted s calls).map change) e := by
  have ordered : ((M.accepted s calls).map change).Pairwise
      fun earlier later => earlier.epoch ≤ later.epoch := by
    rw [pairwise_map]
    exact (inTime.sublist (M.accepted_sublist s calls)).imp currentEpoch_mono
  rw [← configAt_iff_retained ordered e, foldl_map, ← fresh,
    M.run_eq_foldl config (fun t call => scheduleChange t call.change) schedules]

theorem construct_staker_config {sender gate pools accounting ants : Address} {r : SellerPoolsRewards}
    (constructed : construct now sender gate pools accounting ants = .ok r) :
    r.config = .initial initialConfig := by
  replace constructed := rest_ok constructed
  replace constructed := rest_ok constructed
  replace constructed := rest_ok constructed
  cases constructed
  rfl

theorem construct_usage_config {sender gate accounting identity operatorSource : Address}
    {r : UsageRewards}
    (constructed : construct sender gate accounting identity operatorSource = .ok r) :
    r.config = .initial initialConfig := by
  replace constructed := rest_ok constructed
  cases constructed
  rfl

/-- For both controllers, from their constructors and for any calls of the setter in time: an
    epoch reads what the last accepted call made before it set exactly if that was retained. -/
theorem config_kept_iff_retained {now : Nat}
    {sender gate pools accounting ants identity operatorSource : Address}
    {staker : SellerPoolsRewards} {usage : UsageRewards}
    (constructedStaker : construct now sender gate pools accounting ants = .ok staker)
    (constructedUsage : construct sender gate accounting identity operatorSource = .ok usage)
    {stakerCalls : List (ConfigCall DynamicStakerConfig)}
    {usageCalls : List (ConfigCall DynamicUsageConfig)}
    (stakerInTime : InTime stakerCalls) (usageInTime : InTime usageCalls) (e : Nat) :
    (let changes := (stakerConfigMachine.accepted staker stakerCalls).map change
     (stakerConfigMachine.run staker stakerCalls).dynamicStakerConfigAt e =
        lastBefore SellerPoolsRewards.initialConfig changes e ↔
      Retained SellerPoolsRewards.initialConfig changes e) ∧
    (let changes := (usageConfigMachine.accepted usage usageCalls).map change
     (usageConfigMachine.run usage usageCalls).dynamicUsageConfigAt e =
        lastBefore UsageRewards.initialConfig changes e ↔
      Retained UsageRewards.initialConfig changes e) := by
  constructor
  · exact configAt_run_iff stakerConfigMachine config
      (fun _ _ _ => setDynamicStakerConfig_schedules) (construct_staker_config constructedStaker)
      stakerInTime e
  · exact configAt_run_iff usageConfigMachine config
      (fun _ _ _ => setDynamicUsageConfig_schedules) (construct_usage_config constructedUsage)
      usageInTime e

def threeChanges (config : Nat → κ) : List (ConfigCall κ) :=
  [⟨genesis, ⟨9⟩, config 1⟩, ⟨genesis + epochDuration, ⟨9⟩, config 2⟩,
    ⟨genesis + 2 * epochDuration, ⟨9⟩, config 3⟩]

theorem threeChanges_inTime (config : Nat → κ) : InTime (threeChanges config) := by
  simp [threeChanges, InTime, epochDuration]

def stakerConfig (n : Nat) : DynamicStakerConfig := ⟨1000, 2000, n⟩

def usageConfig (n : Nat) : DynamicUsageConfig := ⟨1000, 2000, 1000, 2000, n⟩

/-- After the three changes, epoch 2 still reads what was in force while it ran. -/
theorem threeChanges_keep_second :
    ∃ staker usage, construct genesis ⟨9⟩ ⟨1⟩ ⟨2⟩ ⟨3⟩ ⟨4⟩ = .ok staker ∧
      construct ⟨9⟩ ⟨1⟩ ⟨3⟩ ⟨5⟩ ⟨6⟩ = .ok usage ∧
      (stakerConfigMachine.run staker (threeChanges stakerConfig)).dynamicStakerConfigAt 2 =
        lastBefore SellerPoolsRewards.initialConfig ((stakerConfigMachine.accepted staker
          (threeChanges stakerConfig)).map change) 2 ∧
      (usageConfigMachine.run usage (threeChanges usageConfig)).dynamicUsageConfigAt 2 =
        lastBefore UsageRewards.initialConfig ((usageConfigMachine.accepted usage
          (threeChanges usageConfig)).map change) 2 := by
  refine ⟨_, _, rfl, rfl, (@config_kept_iff_retained genesis ⟨9⟩ ⟨1⟩ ⟨2⟩ ⟨3⟩ ⟨4⟩ ⟨5⟩ ⟨6⟩
    _ _ rfl rfl _ _ (threeChanges_inTime stakerConfig) (threeChanges_inTime usageConfig) 2).imp
      (·.mpr ?_) (·.mpr ?_)⟩
  · intro last isLast _
    cases isLast
    rfl
  · intro last isLast _
    cases isLast
    rfl

/-- Epoch 1 ran under the first change; in epoch 2 both controllers price it with the second. -/
theorem threeChanges_forget_first :
    (∃ r, SellerPoolsRewards.construct genesis ⟨9⟩ ⟨1⟩ ⟨2⟩ ⟨3⟩ ⟨4⟩ = .ok r ∧
      (stakerConfigMachine.accepted r (threeChanges stakerConfig)).map change =
        [⟨0, stakerConfig 1⟩, ⟨1, stakerConfig 2⟩, ⟨2, stakerConfig 3⟩] ∧
      lastBefore SellerPoolsRewards.initialConfig ((stakerConfigMachine.accepted r
        (threeChanges stakerConfig)).map change) 1 = stakerConfig 1 ∧
      (stakerConfigMachine.run r (threeChanges stakerConfig)).dynamicStakerConfigAt 1 =
        stakerConfig 2 ∧ stakerConfig 2 ≠ stakerConfig 1) ∧
    (∃ r, UsageRewards.construct ⟨9⟩ ⟨1⟩ ⟨2⟩ ⟨3⟩ ⟨4⟩ = .ok r ∧
      (usageConfigMachine.accepted r (threeChanges usageConfig)).map change =
        [⟨0, usageConfig 1⟩, ⟨1, usageConfig 2⟩, ⟨2, usageConfig 3⟩] ∧
      lastBefore UsageRewards.initialConfig ((usageConfigMachine.accepted r
        (threeChanges usageConfig)).map change) 1 = usageConfig 1 ∧
      (usageConfigMachine.run r (threeChanges usageConfig)).dynamicUsageConfigAt 1 =
        usageConfig 2 ∧ usageConfig 2 ≠ usageConfig 1) :=
  ⟨⟨_, rfl, rfl, rfl, rfl, by decide⟩, ⟨_, rfl, rfl, rfl, rfl, by decide⟩⟩

end AntSeed.Emissions
