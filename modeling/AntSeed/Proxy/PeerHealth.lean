import AntSeed.Lib.Keyed
import Mathlib.Data.List.Induction
import Mathlib.Data.List.Sort

/-!
# The buyer proxy's bookkeeping of failing peers

A peer that stops answering cools down for a while. Whether a failure may
escalate is decided elsewhere; one that may not is recorded for diagnostics and
has no say in a cooldown, but for one timestamp.
-/

namespace AntSeed.Proxy

open List

def maxFailures : Nat := 3
def baseCooldownMs : Nat := 30000
def maxDoublings : Nat := 4
def peerHealthWindowMs : Nat := 5 * 60000
def peerHealthCoalesceMs : Nat := 1000
def peerHealthMaxCooldownMs : Nat := 8 * 60000
def peerHealthRetentionMs : Nat := 24 * 60 * 60000
def peerHealthMaxEntries : Nat := 512

inductive PeerFailureReason where
  | requestFailed
  | seller5xx
  | sellerTimeout
  | sellerBusy
  | buyerLocal

structure PeerHealthEntry where
  failureStreak : Nat := 0
  windowStartedAt : Nat := 0
  /-- start of the current coalesced episode; 0 for none -/
  episodeStartedAt : Nat := 0
  lastFailureAt : Nat := 0
  lastReason : PeerFailureReason := .requestFailed
  /-- 0 when the peer is not cooling down -/
  cooldownUntil : Nat := 0
  lastSuccessAt : Nat := 0

def emptyEntry : PeerHealthEntry := {}

def computeCooldownMs (failureStreak : Nat) : Nat :=
  if failureStreak < maxFailures then 0
  else min (baseCooldownMs * 2 ^ min maxDoublings (failureStreak - maxFailures)) peerHealthMaxCooldownMs

namespace PeerHealthEntry

variable (prev : PeerHealthEntry) (reason : PeerFailureReason) (now : Nat)

/-- The failure belongs to the episode in progress. Differences of times are written as sums. -/
def Coalesced : Prop :=
  0 < prev.episodeStartedAt ∧ now < prev.episodeStartedAt + peerHealthCoalesceMs ∧ prev.lastFailureAt ≤ now

def WindowLapsed : Prop :=
  prev.lastFailureAt = 0 ∨ prev.lastFailureAt + peerHealthWindowMs < now ∨ now < prev.lastFailureAt

instance : Decidable (prev.Coalesced now) := inferInstanceAs (Decidable (_ ∧ _ ∧ _))

instance : Decidable (prev.WindowLapsed now) := inferInstanceAs (Decidable (_ ∨ _ ∨ _))

def failureStreakAt : Nat := if prev.WindowLapsed now then 1 else prev.failureStreak + 1

end PeerHealthEntry

def recordPeerFailureEntry (previous : Option PeerHealthEntry) (reason : PeerFailureReason) (now : Nat)
    (escalate : Bool) : PeerHealthEntry :=
  let prev := previous.getD emptyEntry
  if escalate = false ∨ prev.Coalesced now then { prev with lastFailureAt := now, lastReason := reason }
  else
    let failureStreak := prev.failureStreakAt now
    let cooldownMs := computeCooldownMs failureStreak
    { failureStreak := failureStreak
      windowStartedAt := if prev.WindowLapsed now ∨ prev.windowStartedAt = 0 then now else prev.windowStartedAt
      episodeStartedAt := now
      lastFailureAt := now
      lastReason := reason
      cooldownUntil := if 0 < cooldownMs then now + cooldownMs else 0
      lastSuccessAt := prev.lastSuccessAt }

def clearPeerHealthEntry (previous : Option PeerHealthEntry) (now : Nat) : PeerHealthEntry :=
  { previous.getD emptyEntry with
    failureStreak := 0, windowStartedAt := 0, episodeStartedAt := 0, cooldownUntil := 0, lastSuccessAt := now }

def isCoolingDown (entry : Option PeerHealthEntry) (now : Nat) : Bool :=
  match entry with
  | none => false
  | some entry => now < entry.cooldownUntil ∧ entry.cooldownUntil ≤ now + peerHealthMaxCooldownMs

def lastActivity (entry : PeerHealthEntry) : Nat := max entry.lastFailureAt entry.lastSuccessAt

def isEntryMeaningful (entry : PeerHealthEntry) (now : Nat) : Bool :=
  now < entry.cooldownUntil ∨ 0 < lastActivity entry ∧ now < lastActivity entry + peerHealthRetentionMs

def prunePeerHealth (entries : List (String × PeerHealthEntry)) (now : Nat) : List (String × PeerHealthEntry) :=
  let kept := entries.filter fun entry => isEntryMeaningful entry.2 now
  if kept.length > peerHealthMaxEntries then
    (kept.mergeSort fun a b => lastActivity b.2 ≤ lastActivity a.2).take peerHealthMaxEntries
  else kept

/-- An entry of the file: `none` for what is not a finite non-negative number or a known reason. -/
structure PersistedEntry where
  failureStreak : Option Nat
  windowStartedAt : Option Nat
  episodeStartedAt : Option Nat
  lastFailureAt : Option Nat
  lastReason : Option PeerFailureReason
  cooldownUntil : Option Nat
  lastSuccessAt : Option Nat

def finiteNonNegative (value : Option Nat) : Nat := value.getD 0

/-- `/^[0-9a-f]{40}$/` -/
def isPeerId (peerId : String) : Bool :=
  peerId.length = 40 ∧ peerId.toList.all fun char => '0' ≤ char ∧ char ≤ '9' ∨ 'a' ≤ char ∧ char ≤ 'f'

/-- The body of the loop of `parsePersistedPeerHealth`; `none` where it goes on with the next entry. -/
def parseEntry (now : Nat) : String × Option PersistedEntry → Option (String × PeerHealthEntry)
  | (_, none) => none
  | (rawPeerId, some entry) =>
    let peerId := rawPeerId.toLower
    let lastFailureAt := finiteNonNegative entry.lastFailureAt
    let lastSuccessAt := finiteNonNegative entry.lastSuccessAt
    let rawCooldown := finiteNonNegative entry.cooldownUntil
    let episode := finiteNonNegative entry.episodeStartedAt
    let candidate : PeerHealthEntry := {
      failureStreak := min 64 (finiteNonNegative entry.failureStreak)
      windowStartedAt := min (finiteNonNegative entry.windowStartedAt) now
      episodeStartedAt := min (if episode = 0 then lastFailureAt else episode) now
      lastFailureAt := lastFailureAt
      lastReason := entry.lastReason.getD .requestFailed
      cooldownUntil :=
        if now < rawCooldown ∧ rawCooldown ≤ now + peerHealthMaxCooldownMs then rawCooldown else 0
      lastSuccessAt := lastSuccessAt }
    if isPeerId peerId ∧ lastFailureAt ≤ now ∧ lastSuccessAt ≤ now ∧ isEntryMeaningful candidate now then
      some (peerId, candidate)
    else none

/-- `none` is a file without a `peerHealth` object. -/
def parsePersistedPeerHealth (parsed : Option (List (String × Option PersistedEntry))) (now : Nat) :
    List (String × PeerHealthEntry) :=
  match parsed with
  | none => []
  | some raw => prunePeerHealth (Keyed.ofList Prod.fst (raw.filterMap (parseEntry now))) now

def serializePeerHealth (entries : List (String × PeerHealthEntry)) :
    List (String × Option PersistedEntry) :=
  entries.map fun (peerId, entry) =>
    (peerId, some ⟨some entry.failureStreak, some entry.windowStartedAt, some entry.episodeStartedAt,
      some entry.lastFailureAt, some entry.lastReason, some entry.cooldownUntil, some entry.lastSuccessAt⟩)

theorem mem_of_mem_prune
    (kept : entry ∈ prunePeerHealth entries now) : entry ∈ entries := by
  unfold prunePeerHealth at kept
  dsimp only at kept
  split at kept
  · exact mem_of_mem_filter (mem_mergeSort.mp (mem_of_mem_take kept))
  · exact mem_of_mem_filter kept

theorem coolingDown_of_persisted
    (read : (peerId, entry) ∈ parsePersistedPeerHealth (some (serializePeerHealth entries)) now)
    (cooling : isCoolingDown (some entry) time = true) :
    ∃ key before, (key, before) ∈ entries ∧ key.toLower = peerId ∧
      before.cooldownUntil = entry.cooldownUntil ∧ isCoolingDown (some before) time = true := by
  have parsed := Keyed.mem_of_mem_ofList (mem_of_mem_prune read)
  obtain ⟨raw, written, parsed⟩ := mem_filterMap.mp parsed
  obtain ⟨⟨key, before⟩, here, rfl⟩ := mem_map.mp written
  have same : key.toLower = peerId ∧
      (if now < before.cooldownUntil ∧ before.cooldownUntil ≤ now + peerHealthMaxCooldownMs then
        before.cooldownUntil else 0) = entry.cooldownUntil := by
    simp only [parseEntry, Option.ite_none_right_eq_some, Option.some.injEq, Prod.mk.injEq] at parsed
    obtain ⟨-, lower, rfl⟩ := parsed
    exact ⟨lower, rfl⟩
  have until_ : before.cooldownUntil = entry.cooldownUntil := by
    rw [← same.2, if_pos]
    by_contra out
    rw [if_neg out] at same
    simp [isCoolingDown, ← same.2] at cooling
  refine ⟨key, before, here, same.1, until_, ?_⟩
  simpa [isCoolingDown, until_] using cooling

inductive HealthEvent where
  | failure (reason : PeerFailureReason) (now : Nat) (escalate : Bool)
  | success (now : Nat)

namespace HealthEvent

def now : HealthEvent → Nat
  | .failure _ now _ => now
  | .success now => now

@[simp] theorem now_failure (reason : PeerFailureReason) (time : Nat) (escalate : Bool) :
    (HealthEvent.failure reason time escalate).now = time := rfl

def isFailure : HealthEvent → Bool
  | .failure _ _ _ => true
  | .success _ => false

def counts : HealthEvent → Bool
  | .failure _ _ escalate => escalate
  | .success _ => true

def apply (entry : Option PeerHealthEntry) : HealthEvent → Option PeerHealthEntry
  | .failure reason now escalate => some (recordPeerFailureEntry entry reason now escalate)
  | .success now => some (clearPeerHealthEntry entry now)

def failureTime (last : Nat) : HealthEvent → Nat
  | .failure _ now _ => now
  | .success _ => last

def streakGoes (going : Bool) : HealthEvent → Bool
  | .failure _ _ escalate => going || escalate
  | .success _ => false

end HealthEvent

open HealthEvent

section

variable (events : List HealthEvent)

def healthAfter : Option PeerHealthEntry := events.foldl apply none

def entryAfter : PeerHealthEntry := (healthAfter events).getD emptyEntry

def lastFailure : Nat := events.foldl failureTime 0

def counting : List HealthEvent := events.filter counts

def lastEscalated : Nat := lastFailure (counting events)

/-- A failure that may escalate came after the last success. -/
def streaking : Bool := events.foldl streakGoes false

end

/-- A failure at `now` meets a streak that lapsed but for a later failure without a say. -/
def Revived (before : List HealthEvent) (now : Nat) : Prop :=
  streaking before = true ∧ (lastEscalated before = 0 ∨ lastEscalated before + peerHealthWindowMs < now) ∧
    0 < lastFailure before ∧ now ≤ lastFailure before + peerHealthWindowMs

/-- The failures that may not escalate make no difference. -/
structure Unmoved (events : List HealthEvent) : Prop where
  streak : (entryAfter events).failureStreak = (entryAfter (counting events)).failureStreak
  cooldown : (entryAfter events).cooldownUntil = (entryAfter (counting events)).cooldownUntil

theorem isCoolingDown_entry (health : Option PeerHealthEntry) (time : Nat) :
    isCoolingDown health time = isCoolingDown (some (health.getD emptyEntry)) time := by
  cases health with
  | none => simp [isCoolingDown, emptyEntry]
  | some => rfl

theorem Unmoved.cooling (h : Unmoved events) (time : Nat) :
    isCoolingDown (healthAfter events) time = isCoolingDown (healthAfter (counting events)) time := by
  rw [isCoolingDown_entry, isCoolingDown_entry (healthAfter (counting events))]
  exact congrArg (fun until_ => decide (time < until_ ∧ until_ ≤ time + peerHealthMaxCooldownMs)) h.cooldown

section Snoc

variable {events : List HealthEvent} {reason : PeerFailureReason} {now : Nat} {escalate : Bool}

theorem entryAfter_failure : entryAfter (events ++ [.failure reason now escalate]) =
    recordPeerFailureEntry (some (entryAfter events)) reason now escalate := by
  simp only [entryAfter, healthAfter, foldl_append]
  rfl

theorem entryAfter_success : entryAfter (events ++ [.success now]) =
    clearPeerHealthEntry (some (entryAfter events)) now := by
  simp only [entryAfter, healthAfter, foldl_append]
  rfl

theorem counting_append (event : HealthEvent) : counting (events ++ [event]) =
    if event.counts then counting events ++ [event] else counting events := by
  simp only [counting, filter_append, filter_cons, filter_nil]
  split <;> simp

@[simp] theorem lastFailure_failure : lastFailure (events ++ [.failure reason now escalate]) = now := by
  simp [lastFailure, failureTime]

@[simp] theorem lastFailure_success : lastFailure (events ++ [.success now]) = lastFailure events := by
  simp [lastFailure, failureTime]

@[simp] theorem streaking_failure : streaking (events ++ [.failure reason now escalate]) =
    (streaking events || escalate) := by
  simp [streaking, streakGoes]

@[simp] theorem streaking_success : streaking (events ++ [.success now]) = false := by
  simp [streaking, streakGoes]

variable {prev : PeerHealthEntry}

theorem record_kept (kept : escalate = false ∨ prev.Coalesced now) :
    recordPeerFailureEntry (some prev) reason now escalate =
      { prev with lastFailureAt := now, lastReason := reason } := if_pos kept

theorem record_counted (counted : ¬ prev.Coalesced now) :
    let next := recordPeerFailureEntry (some prev) reason now true
    let cooldownMs := computeCooldownMs (prev.failureStreakAt now)
    next.failureStreak = prev.failureStreakAt now ∧ next.episodeStartedAt = now ∧
      next.lastFailureAt = now ∧ next.cooldownUntil = if 0 < cooldownMs then now + cooldownMs else 0 := by
  intro next cooldownMs
  have step : next = _ := if_neg (not_or.mpr ⟨Bool.true_eq_false.mp, counted⟩)
  rw [step]
  exact ⟨rfl, rfl, rfl, rfl⟩

end Snoc

variable {events : List HealthEvent} {now : Nat}

section

variable (events : List HealthEvent)

theorem lastFailureAt_after : (entryAfter events).lastFailureAt = lastFailure events := by
  induction events using reverseRecOn with
  | nil => rfl
  | append_singleton events event ih =>
    cases event with
    | success => rw [entryAfter_success, lastFailure_success, ← ih, clearPeerHealthEntry, Option.getD_some]
    | failure reason now escalate =>
      rw [entryAfter_failure, lastFailure_failure]
      by_cases kept : escalate = false ∨ (entryAfter events).Coalesced now
      · rw [record_kept kept]
      · obtain ⟨rfl, counted⟩ : escalate = true ∧ ¬ (entryAfter events).Coalesced now := by simpa using kept
        exact (record_counted counted).2.2.1

theorem streak_after :
    (0 < (entryAfter events).failureStreak ↔ streaking events = true) ∧
      (0 < (entryAfter events).episodeStartedAt → streaking events = true) := by
  induction events using reverseRecOn with
  | nil => simp [entryAfter, healthAfter, emptyEntry, streaking]
  | append_singleton events event ih =>
    cases event with
    | success => simp [entryAfter_success, clearPeerHealthEntry]
    | failure reason now escalate =>
      rw [entryAfter_failure, streaking_failure]
      by_cases kept : escalate = false ∨ (entryAfter events).Coalesced now
      · rw [record_kept kept]
        rcases kept with rfl | coalesced
        · simpa using ih
        · simp [ih, ih.2 coalesced.1]
      · obtain ⟨rfl, counted⟩ : escalate = true ∧ ¬ (entryAfter events).Coalesced now := by simpa using kept
        obtain ⟨streak, -⟩ := @record_counted reason _ _ counted
        rw [streak, PeerHealthEntry.failureStreakAt]
        split <;> simp

def Ordered : Prop := events.Pairwise fun first second => first.now ≤ second.now

end

instance : Decidable (Ordered events) := inferInstanceAs (Decidable (events.Pairwise _))

theorem lastFailure_le (past : ∀ event ∈ events, event.now ≤ now) : lastFailure events ≤ now := by
  induction events using reverseRecOn with
  | nil => exact Nat.zero_le now
  | append_singleton events event ih =>
    cases event with
    | success => simpa using ih fun event member => past event (by simp [member])
    | failure reason time escalate => simpa using past (.failure reason time escalate) (by simp)

theorem Ordered.init (h : Ordered (events ++ [event])) :
    Ordered events ∧ ∀ earlier ∈ events, earlier.now ≤ event.now := by
  obtain ⟨before, -, past⟩ := pairwise_append.mp h
  exact ⟨before, fun earlier member => past earlier member event (by simp)⟩

theorem lastEscalated_le (past : ∀ event ∈ events, event.now ≤ now) : lastEscalated events ≤ now :=
  lastFailure_le fun event member => past event (mem_of_mem_filter member)

theorem lastEscalated_le_lastFailure (ordered : Ordered events) : lastEscalated events ≤ lastFailure events := by
  induction events using reverseRecOn with
  | nil => exact Nat.le_refl 0
  | append_singleton events event ih =>
    obtain ⟨before, past⟩ := ordered.init
    unfold lastEscalated
    rw [counting_append]
    cases event with
    | success => simpa [counts, lastEscalated] using ih before
    | failure reason now escalate =>
      cases escalate with
      | true => simp [counts]
      | false =>
        have le : lastFailure (counting events) ≤ now := lastEscalated_le past
        simpa [counts] using le

theorem coalesced_iff (past : lastFailure events ≤ now) : (entryAfter events).Coalesced now ↔
    0 < (entryAfter events).episodeStartedAt ∧
      now < (entryAfter events).episodeStartedAt + peerHealthCoalesceMs := by
  rw [← lastFailureAt_after] at past
  simp [PeerHealthEntry.Coalesced, past]

theorem windowLapsed_iff (past : lastFailure events ≤ now) : (entryAfter events).WindowLapsed now ↔
    lastFailure events = 0 ∨ lastFailure events + peerHealthWindowMs < now := by
  simp [PeerHealthEntry.WindowLapsed, lastFailureAt_after, Nat.not_lt.mpr past]

theorem episode_counting (ordered : Ordered events) :
    (entryAfter events).episodeStartedAt = (entryAfter (counting events)).episodeStartedAt ∧
      (entryAfter events).episodeStartedAt ≤ lastEscalated events := by
  induction events using reverseRecOn with
  | nil => exact ⟨rfl, Nat.le_refl 0⟩
  | append_singleton events event ih =>
    obtain ⟨before, past⟩ := ordered.init
    obtain ⟨same, early⟩ := ih before
    unfold lastEscalated at early ⊢
    rw [counting_append]
    cases event with
    | success => simp [counts, entryAfter_success, clearPeerHealthEntry]
    | failure reason now escalate =>
      cases escalate with
      | false => simp [counts, entryAfter_failure, record_kept, same ▸ early, same]
      | true =>
        have now_ : lastFailure events ≤ now := lastFailure_le past
        have then_ : lastFailure (counting events) ≤ now := lastEscalated_le past
        simp only [counts, if_true, entryAfter_failure, lastFailure_failure]
        by_cases coalesced : (entryAfter events).Coalesced now
        · have also : (entryAfter (counting events)).Coalesced now := by
            rwa [coalesced_iff then_, ← same, ← coalesced_iff now_]
          rw [record_kept (.inr coalesced), record_kept (.inr also)]
          exact ⟨same, Nat.le_trans early then_⟩
        · have also : ¬ (entryAfter (counting events)).Coalesced now := by
            rwa [coalesced_iff then_, ← same, ← coalesced_iff now_]
          rw [(record_counted coalesced).2.1, (record_counted also).2.1]
          exact ⟨rfl, Nat.le_refl now⟩

theorem computeCooldownMs_le (failureStreak : Nat) :
    computeCooldownMs failureStreak ≤ peerHealthMaxCooldownMs := by
  unfold computeCooldownMs
  split
  · exact Nat.zero_le _
  · exact Nat.min_le_right _ _

theorem cooldown_le (ordered : Ordered events) : (entryAfter events).cooldownUntil = 0 ∨
    (entryAfter events).cooldownUntil ≤ lastEscalated events + peerHealthMaxCooldownMs := by
  induction events using reverseRecOn with
  | nil => exact .inl rfl
  | append_singleton events event ih =>
    obtain ⟨before, past⟩ := ordered.init
    have earlier := ih before
    have since : lastFailure (counting events) ≤ event.now := lastEscalated_le past
    unfold lastEscalated at earlier ⊢
    rw [counting_append]
    cases event with
    | success => simp [entryAfter_success, clearPeerHealthEntry]
    | failure reason now escalate =>
      rw [entryAfter_failure]
      by_cases kept : escalate = false ∨ (entryAfter events).Coalesced now
      · rw [record_kept kept]
        change lastFailure (counting events) ≤ now at since
        cases escalate <;> simp only [counts, if_true, lastFailure_failure] <;> grind
      · obtain ⟨rfl, counted⟩ : escalate = true ∧ ¬ (entryAfter events).Coalesced now := by simpa using kept
        obtain ⟨-, -, -, until_⟩ := @record_counted reason _ _ counted
        have short := computeCooldownMs_le ((entryAfter events).failureStreakAt now)
        simp only [counts, if_true, lastFailure_failure, until_]
        split
        · exact .inr (Nat.add_le_add_left short now)
        · exact .inl rfl

theorem streak_episode (ordered : Ordered (before ++ more))
    (going : 0 < (entryAfter before).episodeStartedAt)
    (within : ∀ event ∈ more, event.isFailure = true ∧
      event.now < (entryAfter before).episodeStartedAt + peerHealthCoalesceMs) :
    (entryAfter (before ++ more)).failureStreak = (entryAfter before).failureStreak ∧
      (entryAfter (before ++ more)).episodeStartedAt = (entryAfter before).episodeStartedAt := by
  induction more using reverseRecOn with
  | nil => simp
  | append_singleton more event ih =>
    rw [← append_assoc] at ordered ⊢
    obtain ⟨init, past⟩ := ordered.init
    obtain ⟨streak, episode⟩ := ih init fun event member => within event (by simp [member])
    obtain ⟨failed, soon⟩ := within event (by simp)
    cases event with
    | success => cases failed
    | failure reason now =>
      have coalesced : (entryAfter (before ++ more)).Coalesced now := by
        refine (coalesced_iff (lastFailure_le past)).mpr ?_
        rw [episode]
        exact ⟨going, soon⟩
      rw [entryAfter_failure, record_kept (.inr coalesced)]
      exact ⟨streak, episode⟩

theorem Revived.streaks (revived : Revived events now) (ordered : Ordered events)
    (past : ∀ event ∈ events, event.now ≤ now) :
    ¬ (entryAfter events).Coalesced now ∧ ¬ (entryAfter (counting events)).Coalesced now ∧
      (entryAfter events).failureStreakAt now = (entryAfter events).failureStreak + 1 ∧
      (entryAfter (counting events)).failureStreakAt now = 1 := by
  obtain ⟨-, lapsed, known, recent⟩ := revived
  obtain ⟨same, early⟩ := episode_counting ordered
  have now_ : lastFailure events ≤ now := lastFailure_le past
  have then_ : lastFailure (counting events) ≤ now := lastEscalated_le past
  rw [coalesced_iff now_, coalesced_iff then_, ← same]
  have over_ : ¬ (0 < (entryAfter events).episodeStartedAt ∧
      now < (entryAfter events).episodeStartedAt + peerHealthCoalesceMs) := by
    simp only [peerHealthCoalesceMs, peerHealthWindowMs] at lapsed ⊢
    omega
  refine ⟨over_, over_, if_neg ?_, if_pos ((windowLapsed_iff then_).mpr lapsed)⟩
  rw [windowLapsed_iff now_]
  omega

theorem Unmoved.step {event : HealthEvent} (h : Unmoved events) (ordered : Ordered (events ++ [event]))
    (lapses : ∀ reason now, event = .failure reason now true → ¬ Revived events now) :
    Unmoved (events ++ [event]) := by
  obtain ⟨before, past⟩ := ordered.init
  cases event with
  | success =>
    constructor <;> simp [counting_append, counts, entryAfter_success, clearPeerHealthEntry]
  | failure reason now escalate =>
    cases escalate with
    | false =>
      constructor
      · simpa [counting_append, counts, entryAfter_failure, record_kept] using h.streak
      · simpa [counting_append, counts, entryAfter_failure, record_kept] using h.cooldown
    | true =>
      have now_ : lastFailure events ≤ now := lastFailure_le past
      have then_ : lastFailure (counting events) ≤ now := lastEscalated_le past
      have same := (episode_counting before).1
      by_cases coalesced : (entryAfter events).Coalesced now
      · have also : (entryAfter (counting events)).Coalesced now := by
          rwa [coalesced_iff then_, ← same, ← coalesced_iff now_]
        constructor
        · simpa [counting_append, counts, entryAfter_failure, record_kept (.inr coalesced),
            record_kept (.inr also)] using h.streak
        · simpa [counting_append, counts, entryAfter_failure, record_kept (.inr coalesced),
            record_kept (.inr also)] using h.cooldown
      · have also : ¬ (entryAfter (counting events)).Coalesced now := by
          rwa [coalesced_iff then_, ← same, ← coalesced_iff now_]
        have alike : (entryAfter events).failureStreakAt now =
            (entryAfter (counting events)).failureStreakAt now := by
          have apart := lapses reason now rfl
          have going := (streak_after events).1
          have le := lastEscalated_le_lastFailure before
          simp only [PeerHealthEntry.failureStreakAt, windowLapsed_iff now_, windowLapsed_iff then_, ← h.streak]
          simp only [Revived, ← going, lastEscalated] at apart le
          split <;> split <;> omega
        obtain ⟨streak, -, -, until_⟩ := @record_counted reason _ _ coalesced
        obtain ⟨streak', -, -, until_'⟩ := @record_counted reason _ _ also
        constructor
        · simp only [counting_append, counts, if_true, entryAfter_failure, streak, streak', alike]
        · simp only [counting_append, counts, if_true, entryAfter_failure, until_, until_', alike]

/-- Failures that may not escalate have no influence on a peer's cooldowns exactly if none of them
    keeps a streak alive that lapsed without it. Whether or not, a cooldown ends in time, an episode
    counts once, and a restart neither starts nor extends a cooldown. -/
theorem cooldowns_ignore_diagnostics_iff (events : List HealthEvent) (ordered : Ordered events) :
    ((∀ before, before <+: events → Unmoved before ∧ ∀ time,
        isCoolingDown (healthAfter before) time = isCoolingDown (healthAfter (counting before)) time) ∧
      (∀ before, before <+: events → (entryAfter before).cooldownUntil = 0 ∨
        (entryAfter before).cooldownUntil ≤ lastEscalated before + peerHealthMaxCooldownMs) ∧
      (∀ before more, before ++ more <+: events → 0 < (entryAfter before).episodeStartedAt →
        (∀ event ∈ more, event.isFailure = true ∧
          event.now < (entryAfter before).episodeStartedAt + peerHealthCoalesceMs) →
        (entryAfter (before ++ more)).failureStreak = (entryAfter before).failureStreak) ∧
      (∀ entries now peerId entry time,
        (peerId, entry) ∈ parsePersistedPeerHealth (some (serializePeerHealth entries)) now →
        isCoolingDown (some entry) time = true →
        ∃ key before, (key, before) ∈ entries ∧ key.toLower = peerId ∧
          before.cooldownUntil = entry.cooldownUntil ∧ isCoolingDown (some before) time = true)) ↔
    ∀ before reason now, before ++ [.failure reason now true] <+: events → ¬ Revived before now := by
  have within {before : List HealthEvent} (start : before <+: events) : Ordered before :=
    ordered.sublist start.sublist
  constructor
  · intro ⟨unmoved, _⟩ before reason now start revived
    obtain ⟨init, past⟩ := (within start).init
    obtain ⟨counted, alone, grows, fresh⟩ := revived.streaks init past
    have going : 0 < (entryAfter before).failureStreak := (streak_after before).1.mpr revived.1
    have same := (unmoved _ start).1.streak
    simp only [counting_append, counts, if_true, entryAfter_failure, (record_counted counted).1,
      (record_counted alone).1, grows, fresh] at same
    omega
  · intro quiet
    refine ⟨fun before start => ?_, fun before start => cooldown_le (within start),
      fun before more start going soon => (streak_episode (within start) going soon).1,
      fun _ _ _ _ _ read cooling => coolingDown_of_persisted read cooling⟩
    have unmoved : Unmoved before := by
      induction before using reverseRecOn with
      | nil => exact ⟨rfl, rfl⟩
      | append_singleton before event ih =>
        refine (ih ((prefix_append before [event]).trans start)).step (within start) ?_
        intro reason now same
        exact quiet before reason now (same ▸ start)
    exact ⟨unmoved, unmoved.cooling⟩

/-- Two failures more than five minutes apart, with a busy seller soon after the first. -/
def lapsing : List HealthEvent :=
  [.failure .requestFailed 1 true, .failure .requestFailed 2000 false, .failure .requestFailed 500000 true]

theorem lapsed_unmoved : Ordered lapsing ∧ ∀ before, before <+: lapsing → Unmoved before := by
  refine ⟨by decide, fun before start => (((cooldowns_ignore_diagnostics_iff lapsing (by decide)).mpr ?_).1 before start).1⟩
  intro before reason now start revived
  rcases before with _ | ⟨first, _ | ⟨second, _ | ⟨third, rest⟩⟩⟩
  · exact Bool.false_ne_true revived.1
  · simp [lapsing] at start
  · simp only [lapsing, cons_append, nil_append, cons_prefix_cons] at start
    obtain ⟨rfl, rfl, late, -⟩ := start
    cases late
    have recent := revived.2.2.2
    simp [lastFailure, failureTime, peerHealthWindowMs] at recent
  · have short := start.length_le
    simp only [lapsing, length_append, length_cons, length_nil] at short
    omega

/-- A busy seller between the second failure and the third, ten minutes later, makes the third one
    start a cooldown. -/
def busyBetween : List HealthEvent :=
  [.failure .requestFailed 1 true, .failure .requestFailed 2000 true, .failure .sellerBusy 250000 false,
    .failure .requestFailed 500000 true]

theorem busyBetween_cools : Ordered busyBetween ∧ isCoolingDown (healthAfter busyBetween) 500001 = true ∧
    isCoolingDown (healthAfter (counting busyBetween)) 500001 = false := by
  decide

end AntSeed.Proxy
