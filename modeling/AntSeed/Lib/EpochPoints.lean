import AntSeed.Lib.Dividends

/-! # Points by epoch from one cumulative index

An index that never falls says what a share has earned so far. Time is cut into
epochs, and the points of an epoch are what an account earned while it lasted:
closing an epoch writes the index down, and an account keeps the index and the
epoch it was last seen at. Read epoch by epoch this is a dividend index: the
books of an epoch start where the epoch before it ended and stop growing when it
is closed.
-/

namespace Evm

open Function
open Dividends
open Nat

structure EpochPoints (K : Type) where
  index : Nat
  indexAtEnd : Nat → Nat
  /-- the open epoch -/
  epoch : Nat
  /-- the points set aside for a closed epoch -/
  total : Nat → Nat
  /-- those of the open epoch so far -/
  running : Nat
  points : K → Nat → Nat
  snap : K → Nat
  seen : K → Nat
  shares : K → Nat
  totalShares : Nat

namespace EpochPoints

variable {K : Type} {scale : Nat} {p : EpochPoints K} {n : Nat}

section

variable (p : EpochPoints K)

def indexAt (n : Nat) : Nat := if n < p.epoch then p.indexAtEnd n else p.index

def pointsIn (n : Nat) : Nat :=
  if n < p.epoch then p.total n else if n = p.epoch then p.running else 0

def settledAt (n : Nat) (k : K) : Nat :=
  if p.seen k < n then p.indexAt (n - 1)
  else if p.seen k = n then p.snap k
  else p.indexAt n

def books (n : Nat) : Dividends K where
  perShare := p.indexAt n
  settled := p.settledAt n
  owed k := p.points k n
  shares := p.shares
  totalShares := p.totalShares
  reserved := p.pointsIn n

def close : EpochPoints K :=
  { p with
    indexAtEnd := update p.indexAtEnd p.epoch p.index
    total := update p.total p.epoch p.running
    running := 0
    epoch := p.epoch + 1 }

end

def distribute (scale : Nat) (p : EpochPoints K) (delta : Nat) : EpochPoints K :=
  { p with
    index := p.index + delta
    running := p.running + delta * p.totalShares / scale }

/-- The points of every epoch before `target`, and where the account is seen next. -/
def gather [DecidableEq K] (scale : Nat) (p : EpochPoints K) (k : K) (target snap seen : Nat) :
    EpochPoints K :=
  { p with
    points := update p.points k fun n =>
      if n < target then (p.books n).earned scale k else p.points k n
    snap := update p.snap k snap
    seen := update p.seen k seen }

/-- Bring an account up to date. -/
def capture [DecidableEq K] (scale : Nat) (p : EpochPoints K) (k : K) : EpochPoints K :=
  p.gather scale k (p.epoch + 1) p.index p.epoch

/-- Bring an account to the end of a closed epoch. -/
def catchUp [DecidableEq K] (scale : Nat) (p : EpochPoints K) (k : K) (target : Nat) :
    EpochPoints K :=
  p.gather scale k target (p.indexAt (target - 1)) target

def setShares [DecidableEq K] (p : EpochPoints K) (k : K) (shares totalShares : Nat) :
    EpochPoints K :=
  { p with shares := update p.shares k shares, totalShares := totalShares }

/-- An account gives up its points of an epoch. -/
def forfeit [DecidableEq K] (p : EpochPoints K) (k : K) (n : Nat) : EpochPoints K :=
  { p with points := update p.points k (update (p.points k) n 0) }

/-- The index never falls, and every account was last seen at an index of an epoch that has
    begun; the books of one epoch balance. -/
structure Kept [Fintype K] (scale : Nat) (p : EpochPoints K) (n dropped rounded : Nat) : Prop where
  grows : ∀ m, p.indexAt m ≤ p.indexAt (m + 1)
  snapped : ∀ k, p.snap k ≤ p.indexAt (p.seen k)
  begun : ∀ k, p.seen k ≤ p.epoch
  balanced : (p.books n).Balanced scale dropped rounded

theorem kept_fresh [Fintype K] (scale epoch n : Nat) :
    Kept scale (⟨0, fun _ => 0, epoch, fun _ => 0, 0, fun _ _ => 0, fun _ => 0, fun _ => 0,
      fun _ => 0, 0⟩ : EpochPoints K) n 0 0 where
  grows m := by simp [indexAt]
  snapped k := by simp [indexAt]
  begun k := zero_le epoch
  balanced := by
    refine ⟨fun k => ?_, by simp [books], ?_⟩
    · simp [books, settledAt, indexAt]
    · simp [books, pending, pointsIn]

section

variable (p : EpochPoints K)

theorem indexAt_close (n : Nat) : p.close.indexAt n = p.indexAt n := by
  change (if n < p.epoch + 1 then update p.indexAtEnd p.epoch p.index n else p.index) = p.indexAt n
  unfold indexAt
  rcases lt_trichotomy n p.epoch with before | rfl | after
  · rw [if_pos before, if_pos (lt_succ_of_lt before), update_of_ne before.ne]
  · rw [if_neg (lt_irrefl _), if_pos (lt_succ_self _), update_self]
  · rw [if_neg after.not_gt, if_neg (Nat.not_lt.mpr after)]

theorem pointsIn_close (n : Nat) : p.close.pointsIn n = p.pointsIn n := by
  change (if n < p.epoch + 1 then update p.total p.epoch p.running n else if n = p.epoch + 1 then 0 else 0) = p.pointsIn n
  unfold pointsIn
  rcases lt_trichotomy n p.epoch with before | rfl | after
  · rw [if_pos before, if_pos (lt_succ_of_lt before), update_of_ne before.ne]
  · rw [if_neg (lt_irrefl _), if_pos rfl, if_pos (lt_succ_self _), update_self]
  · rw [if_neg after.not_gt, if_neg after.ne', if_neg (Nat.not_lt.mpr after), ite_self]

theorem books_close (n : Nat) : p.close.books n = p.books n := by
  have settled : p.close.settledAt n = p.settledAt n := by
    funext k
    simp only [settledAt, indexAt_close]
    rfl
  simp only [books, indexAt_close, pointsIn_close, settled]
  rfl

theorem indexAt_distribute (delta m : Nat) :
    (p.distribute scale delta).indexAt m = if m < p.epoch then p.indexAt m else p.indexAt m + delta := by
  unfold indexAt distribute
  split <;> rfl

end

/-- A distribution counts for the open epoch; the index of the later ones moves along with
    everybody's place in them. -/
theorem books_distribute (begun : ∀ k, p.seen k ≤ p.epoch) (delta : Nat) :
    (p.distribute scale delta).books n = if n < p.epoch then p.books n
      else if n = p.epoch then (p.books n).distribute scale delta
      else (p.books n).rebase delta := by
  have settled : ∀ k, (p.distribute scale delta).settledAt n k =
      if n ≤ p.epoch then p.settledAt n k else p.settledAt n k + delta := by
    intro k
    have seen : (p.distribute scale delta).seen = p.seen := rfl
    have snap : (p.distribute scale delta).snap = p.snap := rfl
    unfold settledAt
    rw [seen, snap]
    simp only [indexAt_distribute]
    grind
  unfold books
  rw [funext settled, indexAt_distribute]
  rcases lt_trichotomy n p.epoch with before | rfl | after
  · simp [before, le_of_lt before, pointsIn, distribute]
  · simp [pointsIn, distribute, Dividends.distribute]
  · simp [not_lt_of_gt after, not_le_of_gt after, ne_of_gt after, pointsIn, distribute,
      rebase]

theorem books_gather [DecidableEq K] (p : EpochPoints K) (k : K) (target snap seen n : Nat) :
    (p.gather scale k target snap seen).books n =
      { p.books n with
        owed := update (p.books n).owed k
          (if n < target then (p.books n).earned scale k else p.points k n)
        settled := update (p.books n).settled k
          (if seen < n then p.indexAt (n - 1) else if seen = n then snap else p.indexAt n) } := by
  have settled : (p.gather scale k target snap seen).settledAt n = update (p.settledAt n) k
      (if seen < n then p.indexAt (n - 1) else if seen = n then snap else p.indexAt n) := by
    funext x
    have index : (p.gather scale k target snap seen).indexAt = p.indexAt := rfl
    unfold settledAt
    rw [index]
    by_cases here : x = k
    · subst here
      simp [gather]
    · simp [gather, here]
  have owed : (fun x => (p.gather scale k target snap seen).points x n) =
      update (fun x => p.points x n) k
        (if n < target then (p.books n).earned scale k else p.points k n) := by
    funext x
    by_cases here : x = k
    · subst here
      simp [gather]
    · simp [gather, here]
  unfold books
  rw [settled, owed]
  rfl

theorem pending_of_seen (past : n < p.seen k) : (p.books n).pending k = 0 := by
  simp [pending, books, settledAt, not_lt_of_gt past, ne_of_gt past]

theorem pending_ahead (begun : p.seen k ≤ p.epoch) (ahead : p.epoch < n) :
    (p.books n).pending k = 0 := by
  have same : p.indexAt (n - 1) = p.indexAt n := by
    simp only [indexAt]
    rw [if_neg (by omega), if_neg (by omega)]
  simp [pending, books, settledAt, lt_of_le_of_lt begun ahead, same]

theorem books_capture [DecidableEq K] {k : K} (begun : p.seen k ≤ p.epoch) (n : Nat) :
    (p.capture scale k).books n = (p.books n).touch scale k := by
  rw [capture, books_gather]
  unfold touch
  have owed : (if n < p.epoch + 1 then (p.books n).earned scale k else p.points k n) =
      (p.books n).earned scale k := by
    split
    · rfl
    next ahead =>
      have none := pending_ahead begun (n := n) (by omega)
      rw [earned, none, Nat.zero_div, Nat.add_zero]
      rfl
  have settled : (if p.epoch < n then p.indexAt (n - 1) else if p.epoch = n then p.index
      else p.indexAt n) = (p.books n).perShare := by
    simp only [books, indexAt]
    grind
  rw [owed, settled]

theorem books_catchUp [DecidableEq K] {k : K} {target : Nat} (later : p.seen k < target) (n : Nat) :
    (p.catchUp scale k target).books n =
      if n < target then (p.books n).touch scale k else p.books n := by
  rw [catchUp, books_gather]
  by_cases before : n < target
  · rw [if_pos before, if_pos before, if_neg (by omega), if_neg (by omega)]
    rfl
  · rw [if_neg before, if_neg before]
    have settled : (if target < n then p.indexAt (n - 1) else if target = n then
        p.indexAt (target - 1) else p.indexAt n) = (p.books n).settled k := by
      simp only [books, settledAt]
      grind
    have owed : p.points k n = (p.books n).owed k := rfl
    rw [settled, owed, Function.update_eq_self, Function.update_eq_self]

theorem points_capture [DecidableEq K] {k : K} (begun : p.seen k ≤ p.epoch) (n : Nat) :
    (p.capture scale k).points k n = (p.books n).earned scale k := by
  have books := @books_capture K scale p _ k begun n
  have owed := congrFun (congrArg owed books) k
  exact owed.trans (update_self _ _ _)

theorem earned_catchUp [DecidableEq K] {k : K} {target : Nat} (later : p.seen k < target) (n : Nat) :
    ((p.catchUp scale k target).books n).earned scale k = (p.books n).earned scale k := by
  rw [books_catchUp later]
  split
  · exact earned_touch _ k k
  · rfl

theorem pending_catchUp [DecidableEq K] {k : K} {target : Nat} (later : p.seen k < target) (n : Nat) :
    ((p.catchUp scale k target).books n).pending k = 0 ∨
      ((p.catchUp scale k target).books n).pending k = (p.books n).pending k := by
  rw [books_catchUp later]
  split
  · exact .inl (pending_touch _ k)
  · exact .inr rfl

theorem books_forfeit [DecidableEq K] (p : EpochPoints K) (k : K) (m n : Nat) :
    (p.forfeit k m).books n = if n = m then (p.books n).forgive k else p.books n := by
  have owed : (fun x => (p.forfeit k m).points x n) =
      if n = m then update (fun x => p.points x n) k 0 else fun x => p.points x n := by
    funext x
    by_cases here : x = k
    · subst here
      by_cases now : n = m
      · subst now
        simp [forfeit]
      · simp [forfeit, now]
    · by_cases now : n = m
      · simp [forfeit, now, here]
      · simp [forfeit, now, here]
  unfold books forgive
  rw [owed]
  split <;> rfl

/-- Epochs have been closed, and nothing else. -/
structure Closing (p q : EpochPoints K) : Prop where
  books : ∀ n, q.books n = p.books n
  index : q.index = p.index
  points : q.points = p.points
  seen : q.seen = p.seen
  later : p.epoch ≤ q.epoch

theorem closing_iterate (p : EpochPoints K) (rounds : Nat) : Closing p (close^[rounds] p) := by
  induction rounds with
  | zero => exact ⟨fun _ => rfl, rfl, rfl, rfl, le_refl _⟩
  | succ rounds ih =>
    rw [Function.iterate_succ_apply']
    exact ⟨fun n => (books_close _ n).trans (ih.books n), ih.index, ih.points, ih.seen,
      le_succ_of_le ih.later⟩

/-- The second state is the first one with epochs closed and one account brought further. -/
structure Ahead (scale : Nat) (k : K) (p q : EpochPoints K) : Prop where
  index : q.index = p.index
  perShare : ∀ n, (q.books n).perShare = (p.books n).perShare
  reserved : ∀ n, (q.books n).reserved = (p.books n).reserved
  others : ∀ x, x ≠ k → q.points x = p.points x
  earned : ∀ n, (q.books n).earned scale k = (p.books n).earned scale k
  pending : ∀ n, (q.books n).pending k = 0 ∨ (q.books n).pending k = (p.books n).pending k
  begun : p.seen k ≤ p.epoch ∧ q.seen k ≤ q.epoch
  later : p.epoch ≤ q.epoch
  further : p.seen k ≤ q.seen k
  closer : q.epoch - q.seen k ≤ p.epoch - p.seen k

namespace Ahead

variable {k : K} {q r : EpochPoints K}

theorem refl (begun : p.seen k ≤ p.epoch) : Ahead scale k p p where
  index := rfl
  perShare _ := rfl
  reserved _ := rfl
  others _ _ := rfl
  earned _ := rfl
  pending _ := .inr rfl
  begun := ⟨begun, begun⟩
  later := le_refl _
  further := le_refl _
  closer := le_refl _

theorem closing (h : Ahead scale k p q) {p' q' : EpochPoints K} {target : Nat}
    (left : Closing p p') (right : Closing q q') (reached : p'.epoch = max p.epoch target)
    (reaches : q'.epoch = max q.epoch target) : Ahead scale k p' q' where
  index := by rw [left.index, right.index, h.index]
  perShare n := by rw [left.books, right.books, h.perShare]
  reserved n := by rw [left.books, right.books, h.reserved]
  others x other := by rw [left.points, right.points, h.others x other]
  earned n := by rw [left.books, right.books, h.earned]
  pending n := by
    rw [left.books, right.books]
    exact h.pending n
  begun := by
    rw [left.seen, right.seen]
    exact ⟨le_trans h.begun.1 left.later, le_trans h.begun.2 right.later⟩
  later := by
    have before := h.later
    omega
  further := by
    rw [left.seen, right.seen]
    exact h.further
  closer := by
    have before := h.closer
    have further := h.further
    rw [left.seen, right.seen]
    omega

section Accounts

variable [DecidableEq K]

theorem catchUp (h : Ahead scale k p q) (closing : Closing q r) {target : Nat}
    (later : r.seen k < target) (closed : target ≤ r.epoch)
    (closer : r.epoch - target ≤ p.epoch - p.seen k) :
    Ahead scale k p (r.catchUp scale k target) where
  index := closing.index.trans h.index
  perShare n := by
    rw [books_catchUp later, ← h.perShare, ← closing.books]
    split <;> rfl
  reserved n := by
    rw [books_catchUp later, ← h.reserved, ← closing.books]
    split <;> rfl
  others x other := by
    rw [← h.others x other, ← closing.points]
    exact update_of_ne other _ _
  earned n := by rw [earned_catchUp later, closing.books, h.earned]
  pending n := by
    have before := h.pending n
    rw [← closing.books] at before
    rcases @pending_catchUp K scale r _ k target later n with none | same
    · exact .inl none
    · rwa [same]
  begun := by
    refine ⟨h.begun.1, ?_⟩
    simpa [EpochPoints.catchUp, gather] using closed
  later := le_trans h.later closing.later
  further := by
    have before := h.further
    rw [← closing.seen] at before
    simpa [EpochPoints.catchUp, gather] using le_of_lt (lt_of_le_of_lt before later)
  closer := by simpa [EpochPoints.catchUp, gather] using closer

theorem points_capture (h : Ahead scale k p q) :
    (q.capture scale k).points = (p.capture scale k).points := by
  funext x
  by_cases here : x = k
  · subst here
    funext n
    rw [EpochPoints.points_capture h.begun.1, EpochPoints.points_capture h.begun.2, h.earned]
  · exact ((update_of_ne here _ _).trans (h.others x here)).trans (update_of_ne here _ _).symm

theorem capture (h : Ahead scale k p q) : Ahead scale k (p.capture scale k) (q.capture scale k) where
  index := h.index
  perShare := h.perShare
  reserved := h.reserved
  others x _ := by rw [h.points_capture]
  earned n := by
    rw [books_capture h.begun.1, books_capture h.begun.2, earned_touch, earned_touch, h.earned]
  pending n := by
    rw [books_capture h.begun.2]
    exact .inl (pending_touch _ k)
  begun := by simp [EpochPoints.capture, gather]
  later := h.later
  further := by simpa [EpochPoints.capture, gather] using h.later
  closer := by simp [EpochPoints.capture, gather]

end Accounts

end Ahead

section Keeps

variable [Fintype K] {dropped rounded : Nat}

theorem Kept.close (h : Kept scale p n dropped rounded) : Kept scale p.close n dropped rounded where
  grows m := by
    rw [indexAt_close, indexAt_close]
    exact h.grows m
  snapped k := by
    rw [indexAt_close]
    exact h.snapped k
  begun k := le_succ_of_le (h.begun k)
  balanced := by
    rw [books_close]
    exact h.balanced

theorem Kept.distribute (h : Kept scale p n dropped rounded) (delta : Nat) :
    Kept scale (p.distribute scale delta) n
      (dropped + if n = p.epoch then delta * p.totalShares % scale else 0) rounded where
  grows m := by
    have before := h.grows m
    rw [indexAt_distribute, indexAt_distribute]
    grind
  snapped k := by
    have before := h.snapped k
    rw [indexAt_distribute]
    have snap : (p.distribute scale delta).snap = p.snap := rfl
    have seen : (p.distribute scale delta).seen = p.seen := rfl
    rw [snap, seen]
    split
    · exact before
    · exact le_trans before (le_add_right _ delta)
  begun := h.begun
  balanced := by
    rw [books_distribute h.begun]
    rcases lt_trichotomy n p.epoch with before | rfl | after
    · simpa [before, Nat.ne_of_lt before] using h.balanced
    · rw [if_neg (lt_irrefl _), if_pos rfl, if_pos rfl]
      exact h.balanced.distribute delta
    · simpa [not_lt_of_gt after, ne_of_gt after] using h.balanced.rebase delta

section Accounts

variable [DecidableEq K]

section

variable (h : Kept scale p n dropped rounded)

include h

theorem Kept.capture (k : K) :
    Kept scale (p.capture scale k) n dropped (rounded + (p.books n).pending k % scale) where
  grows := h.grows
  snapped x := by
    by_cases here : x = k
    · subst here
      simp [EpochPoints.capture, gather, indexAt]
    · simpa [EpochPoints.capture, gather, here, indexAt] using h.snapped x
  begun x := by
    by_cases here : x = k
    · subst here
      simp [EpochPoints.capture, gather]
    · simpa [EpochPoints.capture, gather, here] using h.begun x
  balanced := by
    rw [books_capture (h.begun k)]
    exact h.balanced.touch k

theorem Kept.catchUp {k : K} {target : Nat} (later : p.seen k < target) (closed : target ≤ p.epoch) :
    Kept scale (p.catchUp scale k target) n dropped
      (rounded + if n < target then (p.books n).pending k % scale else 0) where
  grows := h.grows
  snapped x := by
    by_cases here : x = k
    · subst here
      have reached := h.grows (target - 1)
      rw [Nat.sub_add_cancel (by omega)] at reached
      simpa [EpochPoints.catchUp, gather, indexAt] using reached
    · simpa [EpochPoints.catchUp, gather, here, indexAt] using h.snapped x
  begun x := by
    by_cases here : x = k
    · subst here
      simpa [EpochPoints.catchUp, gather] using closed
    · simpa [EpochPoints.catchUp, gather, here] using h.begun x
  balanced := by
    rw [books_catchUp later]
    split
    · exact h.balanced.touch k
    · exact h.balanced

theorem Kept.setShares {shares totalShares : Nat}
    (seen : p.seen k = p.epoch) (snap : p.snap k = p.index)
    (moved : totalShares + p.shares k = p.totalShares + shares) :
    Kept scale (p.setShares k shares totalShares) n dropped rounded where
  grows := h.grows
  snapped := h.snapped
  begun := h.begun
  balanced := by
    refine h.balanced.setShares (k := k) ?_ moved
    simp only [books, settledAt, indexAt, seen, snap]
    grind

theorem Kept.forfeit (k : K) (m : Nat) : Kept scale (p.forfeit k m) n dropped
      (rounded + if n = m then p.points k n * scale else 0) where
  grows := h.grows
  snapped := h.snapped
  begun := h.begun
  balanced := by
    rw [books_forfeit]
    split
    · exact h.balanced.forgive k
    · exact h.balanced

end

end Accounts

end Keeps

end EpochPoints

end Evm
