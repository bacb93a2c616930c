import Mathlib.Data.List.Induction
import Mathlib.Tactic.Linarith

/-! # Sliding windows

Entries are made at certain times. What an evaluation counts are the entries from some time on, so a
record may forget older ones. If every entry came when fewer than so many lay in the window before it,
no window holds more than that.
-/

namespace SlidingWindow

open List

section Records

variable {τ : Type*} [LinearOrder τ] {start moment bound : τ} {times others new : List τ}

def since (start : τ) (times : List τ) : List τ := times.filter (start ≤ ·)

theorem since_since (inOrder : start ≤ moment) : since moment (since start times) = since moment times := by
  unfold since
  rw [filter_filter]
  refine filter_congr fun time _ => ?_
  by_cases recent : moment ≤ time
  · simp [recent, inOrder.trans recent]
  · simp [recent]

theorem since_append : since start (times ++ new) = since start times ++ since start new :=
  filter_append ..

theorem since_eq_nil (past : ∀ time ∈ times, time < start) : since start times = [] := by
  rw [since, filter_eq_nil_iff]
  intro time here
  simpa using past time here

/-- Two records that do not differ from a start on. -/
def Agree (start : τ) (times others : List τ) : Prop := since start times = since start others

theorem Agree.trans {more : List τ} (agree : Agree start times others) (agree' : Agree start others more) :
    Agree start times more := Eq.trans agree agree'

theorem Agree.later (agree : Agree start times others) (inOrder : start ≤ moment) : Agree moment times others := by
  unfold Agree at *
  rw [← since_since inOrder, agree, since_since inOrder]

theorem Agree.append (agree : Agree start times others) : Agree start (times ++ new) (others ++ new) := by
  unfold Agree at *
  rw [since_append, since_append, agree]

theorem agree_since (early : bound ≤ start) : Agree start (since bound times) times := since_since early

theorem min?_since (inOrder : times.Pairwise (· ≤ ·)) : (since start times).min? = (since start times).head? := by
  have ordered : (since start times).Pairwise (· ≤ ·) := inOrder.sublist filter_sublist
  cases counted : since start times with
  | nil => rfl
  | cons =>
    rw [counted, pairwise_cons] at ordered
    rw [head?_cons, min?_eq_some_iff]
    refine ⟨mem_cons_self, fun time here => ?_⟩
    cases mem_cons.mp here with
    | inl same => exact same ▸ le_refl _
    | inr later => exact ordered.1 time later

end Records

variable {τ α : Type*} [AddCommGroup τ] [LinearOrder τ] {time : α → τ} {window : τ}
  {limit : Int} {mine marked : α → Bool} {entries : List α} {entry : α}

/-- Every marked entry came when fewer than so many of the others lay in the window before it. -/
def Paced (time : α → τ) (window : τ) (limit : Int) (mine marked : α → Bool) (entries : List α) : Prop :=
  ∀ before entry after, entries = before ++ entry :: after → marked entry →
    (before.countP fun other => mine other ∧ time entry - window ≤ time other : Int) < limit

theorem paced_nil : Paced time window limit mine marked [] := by
  intro before entry after split_
  simp at split_

theorem paced_concat : Paced time window limit mine marked (entries ++ [entry]) ↔
    Paced time window limit mine marked entries ∧ (marked entry →
      (entries.countP fun other => mine other ∧ time entry - window ≤ time other : Int) < limit) := by
  constructor
  · intro paced
    refine ⟨fun before one after split_ => ?_, paced entries entry [] rfl⟩
    exact paced before one (after ++ [entry]) (by simp [split_])
  · rintro ⟨paced, last⟩ before one after split_ isMarked
    cases eq_nil_or_concat after with
    | inl none_ =>
      subst none_
      obtain ⟨rfl, same⟩ := append_inj' split_ rfl
      cases same
      exact last isMarked
    | inr more =>
      obtain ⟨rest, final, rfl⟩ := more
      rw [concat_eq_append, ← cons_append, ← append_assoc] at split_
      exact paced before one rest (append_inj' split_ rfl).1 isMarked

variable [IsOrderedAddMonoid τ]

theorem Paced.count_le (paced : Paced time window limit mine marked entries)
    (proper : ∀ entry, marked entry → mine entry) (enough : 0 ≤ limit) (start : τ) :
    (entries.countP fun entry => marked entry ∧ start ≤ time entry ∧ time entry ≤ start + window : Int)
      ≤ limit := by
  induction entries using reverseRecOn with
  | nil => simpa using enough
  | append_singleton entries entry ih =>
    obtain ⟨earlier, last⟩ := paced_concat.mp paced
    by_cases counted : marked entry ∧ start ≤ time entry ∧ time entry ≤ start + window
    · have fewer := last counted.1
      have sooner : (entries.countP fun entry => marked entry ∧ start ≤ time entry ∧ time entry ≤ start + window)
          ≤ entries.countP fun other => mine other ∧ time entry - window ≤ time other := by
        refine countP_mono_left fun other _ isCounted => ?_
        simp only [decide_eq_true_eq] at isCounted ⊢
        exact ⟨proper other isCounted.1, (sub_le_iff_le_add.mpr counted.2.2).trans isCounted.2.1⟩
      rw [countP_append]
      simp only [countP_singleton, counted, and_self, decide_true, ↓reduceIte]
      omega
    · rw [countP_append]
      simp only [countP_singleton, counted, decide_false, Bool.false_eq_true, ↓reduceIte, Nat.add_zero]
      exact ih earlier

end SlidingWindow
