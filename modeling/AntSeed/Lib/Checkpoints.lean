import AntSeed.Lib.Reverting
import Mathlib.Data.List.Pairwise
import Mathlib.Data.List.Nodup
import Mathlib.Data.List.Find

/-! # Checkpoint traces

The history of a number over keys that never decrease. A value pushed at a key
holds from that key on; pushing at the newest key replaces its value, pushing
before it reverts. Reading a trace is therefore a step function, and a push
rewrites it only from its key on.
-/

namespace Evm

open List

structure Checkpoint where
  key : Nat
  value : Nat
  deriving DecidableEq, Repr

structure Trace where
  newestFirst : List Checkpoint
  ordered : newestFirst.Pairwise fun later earlier => earlier.key < later.key

namespace Trace

variable {ε : Type}

def empty : Trace := ⟨[], List.Pairwise.nil⟩

instance : Inhabited Trace := ⟨empty⟩

def length (t : Trace) : Nat := t.newestFirst.length

/-- The checkpoint at a position, oldest first. -/
def checkpointAt (t : Trace) (i : Nat) : Tx ε Checkpoint :=
  match t.newestFirst.reverse[i]? with
  | some c => .ok c
  | none => .error .outOfBounds

def latest (t : Trace) : Nat :=
  match t.newestFirst with
  | [] => 0
  | c :: _ => c.value

/-- The value at the last key that is not above `key`, zero if there is none. -/
def upperLookupRecent (t : Trace) (key : Nat) : Nat :=
  match t.newestFirst.find? fun c => decide (c.key ≤ key) with
  | none => 0
  | some c => c.value

def push (t : Trace) (key value : Nat) : Tx ε Trace :=
  match h : t.newestFirst with
  | [] => .ok ⟨[⟨key, value⟩], pairwise_singleton _ _⟩
  | c :: earlier =>
    have sorted : (c :: earlier).Pairwise fun later earlier => earlier.key < later.key :=
      h ▸ t.ordered
    have order := pairwise_cons.mp sorted
    if before : key < c.key then .error .checkpointUnorderedInsertion
    else if same : c.key = key then
      .ok ⟨⟨key, value⟩ :: earlier, pairwise_cons.mpr ⟨same ▸ order.1, order.2⟩⟩
    else
      .ok ⟨⟨key, value⟩ :: c :: earlier, pairwise_cons.mpr ⟨fun e member => by
        have := mem_cons.mp member
        grind, sorted⟩⟩

theorem push_meets (refused : allowed .checkpointUnorderedInsertion)
    (t : Trace) (key value : Nat) :
    Meets (t.push key value : Tx ε Trace) allowed fun t' =>
      (t.push key value : Tx ε Trace) = .ok t' := by
  cases pushed : (t.push key value : Tx ε Trace) with
  | ok => exact rfl
  | error =>
    unfold push at pushed
    split at pushed
    · cases pushed
    · split at pushed
      · cases pushed
        exact refused
      · split at pushed <;> cases pushed

/-- No key is above `n`. -/
def Within (t : Trace) (n : Nat) : Prop := ∀ c ∈ t.newestFirst, c.key ≤ n

theorem within_empty (n : Nat) : empty.Within n := nofun

variable {t t' : Trace} {key n value : Nat}

theorem Within.mono {n m : Nat} (h : t.Within n) (le : n ≤ m) : t.Within m :=
  fun c member => Nat.le_trans (h c member) le

section

variable (h : (t.push key value : Tx ε Trace) = .ok t')

include h

theorem push_cases : (∃ c earlier, t.newestFirst = c :: earlier ∧ c.key = key ∧
      t'.newestFirst = ⟨key, value⟩ :: earlier) ∨
    ((∀ c ∈ t.newestFirst, c.key < key) ∧ t'.newestFirst = ⟨key, value⟩ :: t.newestFirst) := by
  unfold push at h
  split at h
  next none =>
    cases h
    exact .inr ⟨by simp [none], by simp [none]⟩
  next c earlier some =>
    have order := (pairwise_cons.mp (some ▸ t.ordered)).1
    split at h
    · cases h
    · split at h
      next same =>
        cases h
        exact .inl ⟨c, earlier, some, same, rfl⟩
      · cases h
        refine .inr ⟨?_, by simp [some]⟩
        intro e member
        rcases mem_cons.mp (some ▸ member) with rfl | member
        · omega
        · have := order e member
          omega

theorem latest_push : t'.latest = value := by
  unfold latest
  rcases push_cases h with ⟨c, earlier, before, same, after⟩ | ⟨-, after⟩
  · rw [after]
  · rw [after]

theorem lookup_push (k : Nat) :
    t'.upperLookupRecent k = if key ≤ k then value else t.upperLookupRecent k := by
  rcases push_cases h with ⟨c, earlier, before, same, after⟩ | ⟨-, after⟩
  · unfold upperLookupRecent
    rw [after, before]
    by_cases reached : key ≤ k
    · simp [reached]
    · simp [reached, same]
  · unfold upperLookupRecent
    rw [after]
    by_cases reached : key ≤ k
    · simp [reached]
    · simp [reached]

theorem within_push : t'.Within key := by
  intro e member
  rcases push_cases h with ⟨c, earlier, before, same, after⟩ | ⟨below, after⟩
  · rw [after] at member
    rcases mem_cons.mp member with rfl | member
    · exact Nat.le_refl key
    · exact Nat.le_of_lt (same ▸ (pairwise_cons.mp (before ▸ t.ordered)).1 e member)
  · rw [after] at member
    rcases mem_cons.mp member with rfl | member
    · exact Nat.le_refl key
    · exact Nat.le_of_lt (below e member)

end

theorem lookup_of_within (h : t.Within n) (le : n ≤ k) :
    t.upperLookupRecent k = t.latest := by
  unfold upperLookupRecent latest
  cases entries : t.newestFirst with
  | nil => rfl
  | cons c =>
    have : c.key ≤ k := Nat.le_trans (h c (by simp [entries])) le
    simp [this]

theorem lookup_const (h : t.Within n) (le : n ≤ k) :
    t.upperLookupRecent k = t.upperLookupRecent n := by
  rw [lookup_of_within h le, lookup_of_within h (Nat.le_refl n)]

theorem lookup_of_no_key (order : x ≤ y)
    (none : ∀ c ∈ t.newestFirst, c.key ≤ y → c.key ≤ x) :
    t.upperLookupRecent y = t.upperLookupRecent x := by
  unfold upperLookupRecent
  rw [find?_congr fun c member => ?_]
  rw [decide_eq_decide]
  exact ⟨none c member, fun before => Nat.le_trans before order⟩

theorem length_le_of_decreasing {l : List Checkpoint}
    (ordered : l.Pairwise fun later earlier => earlier.key < later.key)
    (bounded : ∀ c ∈ l, c.key ≤ n) : l.length ≤ n + 1 := by
  induction l generalizing n with
  | nil => exact Nat.zero_le _
  | cons c earlier ih =>
    obtain ⟨below, rest⟩ := pairwise_cons.mp ordered
    have first := bounded c mem_cons_self
    rw [length_cons]
    cases earlier with
    | nil => simp
    | cons d older =>
      have some := below d mem_cons_self
      have fewer : (d :: older).length ≤ c.key - 1 + 1 := by
        refine ih rest fun e member => ?_
        have := below e member
        omega
      omega

theorem length_le_of_within (h : t.Within n) : t.length ≤ n + 1 :=
  length_le_of_decreasing t.ordered h

theorem checkpointAt_eq_ok {c : Checkpoint} :
    (t.checkpointAt i : Tx ε Checkpoint) = .ok c ↔ t.newestFirst.reverse[i]? = some c := by
  unfold checkpointAt
  split
  next found => simp [found]
  next missing => simp [missing]

theorem key_le_key {i j : Nat} {c d : Checkpoint} (first : t.newestFirst.reverse[i]? = some c)
    (second : t.newestFirst.reverse[j]? = some d) (order : i ≤ j) : c.key ≤ d.key := by
  rcases Nat.lt_or_eq_of_le order with before | rfl
  · have increasing : t.newestFirst.reverse.Pairwise fun earlier later => earlier.key < later.key :=
      pairwise_reverse.mpr t.ordered
    obtain ⟨iInside, rfl⟩ := List.getElem?_eq_some_iff.mp first
    obtain ⟨jInside, rfl⟩ := List.getElem?_eq_some_iff.mp second
    exact Nat.le_of_lt (pairwise_iff_getElem.mp increasing i j iInside jInside before)
  · rw [first] at second
    cases second
    exact Nat.le_refl _

@[simp] theorem lookup_empty (k : Nat) : empty.upperLookupRecent k = 0 := rfl

end Trace

end Evm
