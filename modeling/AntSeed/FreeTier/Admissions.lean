import AntSeed.FreeTier.Limiter
import AntSeed.Lib.SlidingWindow

/-! # Admitted requests

What the limiter is for: a request is admitted if every limit that applies to it has room in the requests
that were admitted before and count under it. Nothing is forgotten here.
-/

namespace AntSeed.FreeTier

open SlidingWindow
open List

/-- A request that was admitted, with the limits that it fit under. -/
structure Admission where
  scope : String
  limits : List FreeTierLimit
  timestamp : Int
  deriving DecidableEq

open Admission

/-- Whether a request counts under a subject. -/
def Admission.charges (scope : String) (subject : FreeTierSubject) (admission : Admission) : Bool :=
  admission.scope = scope ∧ subject ∈ admission.limits.map FreeTierLimit.subject

/-- Whether a request counts under a subject and was admitted under a limit for it. -/
def Admission.chargesAt (scope : String) (subject : FreeTierSubject) (limit : Int) (admission : Admission) : Bool :=
  admission.scope = scope ∧ ∃ found ∈ admission.limits, found.subject = subject ∧ found.limit = limit

/-- When the requests were admitted that count under a subject. -/
def usageOf (history : List Admission) (scope : String) (subject : FreeTierSubject) : List Int :=
  (history.filter (charges scope subject)).map timestamp

def checkOf (history : List Admission) (policy : FreeTierPolicy) (nowMs : Int) (limit : FreeTierLimit) :
    FreeTierLimitCheck :=
  let counted := since (nowMs - policy.windowMs) (usageOf history policy.scope limit.subject)
  { kind := limit.kind, limit := limit.limit, count := counted.length, oldestTimestamp := counted.head? }

/-- What is decided on a request after all those that were admitted. -/
def verdict (history : List Admission) (policy : FreeTierPolicy) (limits : List FreeTierLimit) (nowMs : Int) :
    FreeTierConsumption :=
  evaluateFreeTierLimits (limits.map (checkOf history policy nowMs)) policy.windowMs nowMs

/-- The request itself, if it is admitted and consumed. -/
def admits (policy : FreeTierPolicy) (limits : List FreeTierLimit) (nowMs : Int) (allowed consumed : Bool) :
    List Admission :=
  if allowed ∧ consumed then [{ scope := policy.scope, limits, timestamp := nowMs }] else []

section Evaluation

variable {checks : List FreeTierLimitCheck} {windowMs nowMs : Int} {check : FreeTierLimitCheck}
  {verdict : Option FreeTierConsumption × Option Int}

/-- A denial is one, and stays one. -/
def Denies (verdict : Option FreeTierConsumption × Option Int) : Prop :=
  ∃ denial, verdict.1 = some denial ∧ denial.allowed = false

theorem Denies.next (denies : Denies verdict) : Denies (evaluateFreeTierLimit windowMs nowMs verdict check) := by
  unfold evaluateFreeTierLimit
  dsimp only
  split
  · exact ⟨_, rfl, rfl⟩
  · exact denies

theorem Denies.all (denies : Denies verdict) :
    Denies (checks.foldl (evaluateFreeTierLimit windowMs nowMs) verdict) := by
  induction checks generalizing verdict with
  | nil => exact denies
  | cons check checks ih => exact ih denies.next

theorem denies_full (full : check.limit ≤ check.count) (proper : verdict.1 = none ∨ Denies verdict) :
    Denies (evaluateFreeTierLimit windowMs nowMs verdict check) := by
  cases proper with
  | inr denies => exact denies.next
  | inl nothing =>
    unfold evaluateFreeTierLimit
    dsimp only
    rw [if_pos ⟨full, by simp [nothing]⟩]
    exact ⟨_, rfl, rfl⟩

theorem proper_next (proper : verdict.1 = none ∨ Denies verdict) :
    (evaluateFreeTierLimit windowMs nowMs verdict check).1 = none
      ∨ Denies (evaluateFreeTierLimit windowMs nowMs verdict check) := by
  cases proper with
  | inr denies => exact .inr denies.next
  | inl nothing =>
    unfold evaluateFreeTierLimit
    dsimp only
    split
    · exact .inr ⟨_, rfl, rfl⟩
    · exact .inl nothing

theorem proper_all (proper : verdict.1 = none ∨ Denies verdict) :
    (checks.foldl (evaluateFreeTierLimit windowMs nowMs) verdict).1 = none
      ∨ Denies (checks.foldl (evaluateFreeTierLimit windowMs nowMs) verdict) := by
  induction checks generalizing verdict with
  | nil => exact proper
  | cons check checks ih => exact ih (proper_next proper)

theorem count_lt_of_allowed (allowed : (evaluateFreeTierLimits checks windowMs nowMs).allowed = true)
    (here : check ∈ checks) : (check.count : Int) < check.limit := by
  by_contra full
  obtain ⟨before, after, rfl⟩ := append_of_mem here
  have denies : Denies ((before ++ check :: after).foldl (evaluateFreeTierLimit windowMs nowMs) (none, none)) := by
    rw [foldl_append, foldl_cons]
    exact (denies_full (Int.not_lt.mp full) (proper_all (.inl rfl))).all
  obtain ⟨denial, found, refused⟩ := denies
  simp only [evaluateFreeTierLimits] at allowed
  split at allowed
  next same =>
    rw [same, Option.some.injEq] at found
    simp [found, refused] at allowed
  next same => simp [same] at found

end Evaluation

variable {history : List Admission} {admission : Admission} {policy : FreeTierPolicy} {scope : String}
  {subject : FreeTierSubject} {limits : List FreeTierLimit} {nowMs now : Int} {allowed consumed : Bool}

theorem usageOf_append :
    usageOf (history ++ more) scope subject = usageOf history scope subject ++ usageOf more scope subject := by
  simp [usageOf]

theorem usageOf_admits : usageOf (admits policy limits nowMs allowed consumed) scope subject
    = if allowed ∧ consumed ∧ policy.scope = scope ∧ subject ∈ limits.map FreeTierLimit.subject then [nowMs]
      else [] := by
  unfold admits usageOf
  by_cases admitted : allowed ∧ consumed
  · by_cases counts : policy.scope = scope ∧ subject ∈ limits.map FreeTierLimit.subject
    · simp [admitted, charges, counts]
    · have other : charges scope subject { scope := policy.scope, limits, timestamp := nowMs } = false := by
        simpa [charges] using counts
      simp [admitted, other]
      simpa using counts
  · have never : ¬ (allowed ∧ consumed ∧ policy.scope = scope ∧ subject ∈ limits.map FreeTierLimit.subject) :=
      fun all => admitted ⟨all.1, all.2.1⟩
    rw [if_neg admitted, if_neg never]
    rfl

/-- Requests are admitted one after the other. -/
structure Timely (now : Int) (history : List Admission) : Prop where
  inOrder : (history.map timestamp).Pairwise (· ≤ ·)
  past : ∀ admission ∈ history, admission.timestamp ≤ now

theorem Timely.usage (timely : Timely now history) : (usageOf history scope subject).Pairwise (· ≤ ·) :=
  timely.inOrder.sublist (filter_sublist.map timestamp)

theorem Timely.admits (timely : Timely now history) (later : now ≤ nowMs) :
    Timely nowMs (history ++ admits policy limits nowMs allowed consumed) := by
  unfold FreeTier.admits
  split
  · constructor
    · rw [map_append, pairwise_append]
      refine ⟨timely.inOrder, pairwise_singleton _ _, ?_⟩
      intro time here new there
      obtain ⟨admission, member, rfl⟩ := mem_map.mp here
      rw [mem_singleton.mp there]
      exact (timely.past admission member).trans later
    · intro admission here
      cases mem_append.mp here with
      | inl before => exact (timely.past admission before).trans later
      | inr new => exact (mem_singleton.mp new) ▸ le_refl nowMs
  · rw [append_nil]
    exact ⟨timely.inOrder, fun admission here => (timely.past admission here).trans later⟩

theorem fits_of_allowed (allowed : (verdict history policy limits nowMs).allowed = true)
    (here : limit ∈ limits) :
    ((since (nowMs - policy.windowMs) (usageOf history policy.scope limit.subject)).length : Int) < limit.limit :=
  count_lt_of_allowed allowed (mem_map_of_mem here)

/-- Every admission under a limit came when fewer requests than that lay in the window before it. -/
theorem paced_admits (paced : Paced timestamp policy.windowMs limit (charges policy.scope subject)
      (chargesAt policy.scope subject limit) history) :
    Paced timestamp policy.windowMs limit (charges policy.scope subject)
      (chargesAt policy.scope subject limit)
      (history ++ admits policy limits nowMs (verdict history policy limits nowMs).allowed consumed) := by
  unfold admits
  split
  next admitted =>
    rw [paced_concat]
    refine ⟨paced, fun charged => ?_⟩
    simp only [chargesAt, true_and, decide_eq_true_eq] at charged
    obtain ⟨found, here, rfl, rfl⟩ := charged
    have fits := fits_of_allowed admitted.1 here
    rwa [since, usageOf, filter_map, length_map, filter_filter,
      ← countP_eq_length_filter, countP_congr] at fits
    intro other _
    simp [and_comm]
  · rwa [append_nil]

end AntSeed.FreeTier
