import AntSeed.Pools.Sound
import Mathlib.Tactic.Linarith

/-! # Pool power is the sum of position power

The power of a position at an epoch, read off its own histories, is a triple of
numbers: the weight and the weighted end of its running lock, and the weight it
holds at max lock. The trees and the max-lock traces of a pool hold the same
triple for the pool. Every change moves the triple of one position and the
triples of its pool and of all pools alike.
-/

namespace AntSeed.Pools

open Evm Function Prod
open Trace
open Finset Nat

/-- Weight, weighted end, and weight at max lock. -/
abbrev Power := (Int × Int) × Int

/-- The power of a position at an epoch. -/
def positionPower (position : Position) (ends locks : Trace) (e : Nat) : Power :=
  if e < position.stakeStartEpoch then 0
  else if position.closedAtEpoch ≠ 0 ∧ position.closedAtEpoch ≤ e then 0
  else if locks.upperLookupRecent e ≠ 0 then ((0, 0), position.weightAmount)
  else if e < ends.upperLookupRecent e then
    ((position.weightAmount, position.weightAmount * ends.upperLookupRecent e), 0)
  else 0

/-- The part of power that comes from a running lock. -/
def lane (startEpoch stakeEndEpoch weight e : Nat) : Power :=
  if startEpoch ≤ e ∧ e < stakeEndEpoch then ((weight, weight * stakeEndEpoch), 0) else 0

/-- The part of power that comes from max lock. -/
def constant (startEpoch weight e : Nat) : Power :=
  if startEpoch ≤ e then ((0, 0), weight) else 0

namespace SellerPools

def poolPower (s : SellerPools) (a : Word) (e : Nat) : Power :=
  ((s.poolPowerTree a).sumAt e, (s.poolMaxLockWeightAmount a).upperLookupRecent e)

def totalPower (s : SellerPools) (e : Nat) : Power :=
  (s.totalPowerTree.sumAt e, s.totalMaxLockWeightAmount.upperLookupRecent e)

def powerOf (s : SellerPools) (q e : Nat) : Power :=
  positionPower (s.positions q) (s.positionNormalEndEpoch q) (s.positionMaxLockPower q) e

/-- The trees and traces hold what the positions have. -/
structure Balanced (s : SellerPools) : Prop where
  pool : ∀ a e, e < fenwickSize → s.poolPower a e =
    ∑ q ∈ Finset.range s.nextPositionId, if (s.positions q).agentId = a then s.powerOf q e else 0
  total : ∀ e, e < fenwickSize → s.totalPower e =
    ∑ q ∈ Finset.range s.nextPositionId, s.powerOf q e

/-- The power of one position, of its pool and of all pools moved alike. -/
structure PowerShift (s s' : SellerPools) (p : Nat) (a : Word) (delta : Nat → Power) : Prop where
  position : ∀ q e, e < fenwickSize → s'.powerOf q e = s.powerOf q e + if q = p then delta e else 0
  agent : (s'.positions p).agentId = a
  agents : ∀ q, q ≠ p → (s'.positions q).agentId = (s.positions q).agentId
  before : (s.positions p).agentId = a ∨ ∀ e, s.powerOf p e = 0
  pool : ∀ b e, e < fenwickSize → s'.poolPower b e = s.poolPower b e + if b = a then delta e else 0
  total : ∀ e, e < fenwickSize → s'.totalPower e = s.totalPower e + delta e
  inside : p < s'.nextPositionId
  next : s'.nextPositionId = s.nextPositionId ∨
    s'.nextPositionId = s.nextPositionId + 1 ∧ ∀ e, s.powerOf s.nextPositionId e = 0

variable {c first : Nat} {s s' : SellerPools}

variable {a : Word} {delta : Nat → Power} {e p stakeEndEpoch startEpoch weight : Nat}
  {ends locks : Trace} {position : Position} {tree : FenwickTree}

theorem PowerShift.sum (shift : PowerShift s s' p a delta) (e : Nat)
    (part part' : Nat → Power → Power) (zero : ∀ q, part q 0 = 0)
    (moved : ∀ q, part' q (s'.powerOf q e) =
      part q (s.powerOf q e) + if q = p then part' p (delta e) else 0) :
    ∑ q ∈ Finset.range s'.nextPositionId, part' q (s'.powerOf q e) =
      ∑ q ∈ Finset.range s.nextPositionId, part q (s.powerOf q e) + part' p (delta e) := by
  have old : ∑ q ∈ Finset.range s'.nextPositionId, part q (s.powerOf q e) =
      ∑ q ∈ Finset.range s.nextPositionId, part q (s.powerOf q e) := by
    rcases shift.next with same | ⟨grown, nothing⟩
    · rw [same]
    · rw [grown, sum_range_succ, nothing, zero, add_zero]
  simp only [moved]
  rw [sum_add_distrib, old, sum_ite_eq']
  rw [if_pos (mem_range.mpr shift.inside)]

theorem PowerShift.balanced (shift : PowerShift s s' p a delta) (h : Balanced s) : Balanced s' where
  pool b e small := by
    rw [shift.pool b e small, h.pool b e small]
    have sum := shift.sum e (fun q power => if (s.positions q).agentId = b then power else 0)
      (fun q power => if (s'.positions q).agentId = b then power else 0)
      (fun q => by simp) ?_
    · rw [sum, shift.agent]
      simp only [eq_comm]
    · intro q
      rw [shift.position q e small]
      by_cases here : q = p
      · subst here
        simp only [shift.agent, if_true]
        rcases shift.before with same | nothing
        · rw [same]
          by_cases mine : a = b <;> simp [mine]
        · rw [nothing]
          simp
      · simp only [if_neg here, add_zero, shift.agents q here]
  total e small := by
    rw [shift.total e small, h.total e small]
    have sum := shift.sum e (fun _ power => power) (fun _ power => power)
      (fun _ => rfl) (fun q => shift.position q e small)
    exact sum.symm

/-! ## Every change moves power alike -/

theorem range_eq_lane (order : startEpoch ≤ stakeEndEpoch) (inside : stakeEndEpoch < fenwickSize)
    (light : weight < 2 ^ 127) (e : Nat) :
    range startEpoch stakeEndEpoch weight e = (lane startEpoch stakeEndEpoch weight e).1 := by
  have product : weight * stakeEndEpoch < 2 ^ 255 := by
    calc weight * stakeEndEpoch ≤ 2 ^ 127 * 4096 :=
          Nat.mul_le_mul (Nat.le_of_lt light) (Nat.le_of_lt inside)
      _ < 2 ^ 255 := by decide
  have delta : weightDelta weight stakeEndEpoch = ((weight : Int), (weight * stakeEndEpoch : Int)) := by
    unfold weightDelta
    rw [toInt_ofNat_of_lt (by omega), toInt_ofNat_of_lt product, cast_mul]
  unfold range FenwickTree.rangeAt lane
  rw [delta]
  by_cases started : startEpoch ≤ e
  · by_cases ended : stakeEndEpoch ≤ e
    · have : ¬ e < stakeEndEpoch := by omega
      simp [started, ended, this]
    · have : e < stakeEndEpoch := by omega
      simp [started, ended, this]
  · have : ¬ stakeEndEpoch ≤ e := by omega
    simp [started, this]

theorem lane_lock (startEpoch stakeEndEpoch weight e : Nat) :
    (lane startEpoch stakeEndEpoch weight e).2 = 0 := by
  unfold lane
  split <;> rfl

theorem constant_lanes (startEpoch weight e : Nat) : (constant startEpoch weight e).1 = 0 := by
  unfold constant
  split <;> rfl

/-- A rewritten position moves power if its histories, the trees and the traces agree on
    the move. -/
theorem powerShift_of_rewritten {tree : Nat → Int × Int} {D : Nat → Power}
    (rewritten : Rewritten s s' p position ends locks)
    (shifted : Shifted s s' position.agentId tree)
    (before : position.agentId = (s.positions p).agentId ∨ ∀ e, s.powerOf p e = 0)
    (moved : ∀ e, e < fenwickSize → positionPower position ends locks e = s.powerOf p e + D e)
    (lanes : ∀ e, tree e = (D e).1)
    (poolLock : ∀ e, ((s'.poolMaxLockWeightAmount position.agentId).upperLookupRecent e : Int) =
      (s.poolMaxLockWeightAmount position.agentId).upperLookupRecent e + (D e).2)
    (otherLock : ∀ b, b ≠ position.agentId → s'.poolMaxLockWeightAmount b = s.poolMaxLockWeightAmount b)
    (totalLock : ∀ e, (s'.totalMaxLockWeightAmount.upperLookupRecent e : Int) =
      s.totalMaxLockWeightAmount.upperLookupRecent e + (D e).2) (inside : p < s'.nextPositionId)
    (next : s'.nextPositionId = s.nextPositionId ∨
      s'.nextPositionId = s.nextPositionId + 1 ∧ ∀ e, s.powerOf s.nextPositionId e = 0) :
    PowerShift s s' p position.agentId D where
  position q e small := by
    unfold powerOf
    rw [rewritten.positions, rewritten.ends, rewritten.locks]
    by_cases here : q = p
    · subst here
      simp only [update_self, if_true]
      exact moved e small
    · simp only [update_of_ne here, if_neg here, add_zero]
  agent := by rw [rewritten.positions, update_self]
  agents q other := by rw [rewritten.positions, update_of_ne other]
  before := before.imp Eq.symm id
  pool b e small := by
    unfold poolPower
    by_cases mine : b = position.agentId
    · subst mine
      rw [if_pos rfl, shifted.pool e small, lanes e, poolLock e]
      rfl
    · rw [if_neg mine, add_zero, shifted.others b mine, otherLock b mine]
  total e small := by
    unfold totalPower
    rw [shifted.total e small, lanes e, totalLock e]
    rfl
  inside := inside
  next := next

theorem LocksKept.moved (kept : LocksKept s s') (a : Word) (e : Nat) :
    ((s'.poolMaxLockWeightAmount a).upperLookupRecent e : Int) =
      (s.poolMaxLockWeightAmount a).upperLookupRecent e + 0 ∧
    (s'.totalMaxLockWeightAmount.upperLookupRecent e : Int) =
      s.totalMaxLockWeightAmount.upperLookupRecent e + 0 := by
  rw [kept.pool, kept.total, add_zero, add_zero]
  exact ⟨rfl, rfl⟩

theorem lookup_pushMoved
    (known : trace.Within epoch) (h : pushMoved trace epoch amount add = .ok trace') (e : Nat) :
    (trace'.upperLookupRecent e : Int) = trace.upperLookupRecent e +
      if add then (constant epoch amount e).2 else -(constant epoch amount e).2 := by
  obtain ⟨value, isValue, pushed⟩ := ran h
  rw [lookup_push pushed]
  unfold constant
  by_cases reached : epoch ≤ e
  · rw [if_pos reached, if_pos reached, lookup_of_within known reached]
    cases add with
    | true =>
      obtain ⟨-, rfl⟩ := uint_eq_ok.mp isValue
      simp
    | false =>
      obtain ⟨enough, rfl⟩ := sub_eq_ok.mp isValue
      simp only [Bool.false_eq_true, if_false]
      omega
  · cases add <;> simp [reached]

theorem LocksMoved.moved {amount : Nat} {add : Bool} (sound : Sound c s)
    (h : LocksMoved s s' a (c + 1) amount add) (e : Nat) :
    ((s'.poolMaxLockWeightAmount a).upperLookupRecent e : Int) =
      (s.poolMaxLockWeightAmount a).upperLookupRecent e +
        (if add then (constant (c + 1) amount e).2 else -(constant (c + 1) amount e).2) ∧
    (s'.totalMaxLockWeightAmount.upperLookupRecent e : Int) =
      s.totalMaxLockWeightAmount.upperLookupRecent e +
        (if add then (constant (c + 1) amount e).2 else -(constant (c + 1) amount e).2) :=
  ⟨lookup_pushMoved (sound.poolLocks a) h.pool e, lookup_pushMoved sound.totalLocks h.total e⟩

/-! ## The power of one position -/

theorem positionPower_empty (position : Position) (e : Nat) :
    positionPower position .empty .empty e = 0 := by
  unfold positionPower
  simp

section

variable (started : position.stakeStartEpoch ≤ e) (isOpen : position.closedAtEpoch = 0)

include started isOpen

theorem positionPower_running
    (unlocked : locks.upperLookupRecent e = 0) :
    positionPower position ends locks e = lane e (ends.upperLookupRecent e) position.weightAmount e := by
  unfold positionPower lane
  rw [if_neg (by omega), isOpen, unlocked]
  simp

theorem positionPower_locked
    (isLocked : locks.upperLookupRecent e ≠ 0) :
    positionPower position ends locks e = ((0, 0), (position.weightAmount : Int)) := by
  unfold positionPower
  rw [if_neg (by omega), isOpen, if_pos isLocked]
  simp

end

theorem positionPower_congr
    (start : position'.stakeStartEpoch = position.stakeStartEpoch)
    (weight : position'.weightAmount = position.weightAmount) (isOpen : position.closedAtEpoch = 0)
    (stillOpen : position'.closedAtEpoch = 0 ∨ e < position'.closedAtEpoch)
    (lock : locks'.upperLookupRecent e = locks.upperLookupRecent e)
    (endsAt : ends'.upperLookupRecent e = ends.upperLookupRecent e) :
    positionPower position' ends' locks' e = positionPower position ends locks e := by
  have gone : ¬ (position'.closedAtEpoch ≠ 0 ∧ position'.closedAtEpoch ≤ e) := by omega
  unfold positionPower
  rw [start, weight, lock, endsAt, if_neg gone, isOpen]
  simp

theorem lane_later (reached : startEpoch ≤ e) :
    lane e stakeEndEpoch weight e = lane startEpoch stakeEndEpoch weight e := by
  unfold lane
  simp [reached]

theorem lane_before (before : e < startEpoch) : lane startEpoch stakeEndEpoch weight e = 0 := by
  unfold lane
  rw [if_neg (by omega)]

theorem constant_before (before : e < startEpoch) : constant startEpoch weight e = 0 := by
  unfold constant
  rw [if_neg (by omega)]

theorem constant_later (reached : startEpoch ≤ e) :
    constant startEpoch weight e = ((0, 0), (weight : Int)) := by
  unfold constant
  rw [if_pos reached]

section

variable (sound : Sound c s)

include sound

theorem powerOf_opened (isOpen : position.closedAtEpoch = 0)
    (pushed : (s.positionNormalEndEpoch s.nextPositionId).push position.stakeStartEpoch
      stakeEndEpoch = (.ok ends : Tx Error Trace)) (e : Nat) :
    s.powerOf s.nextPositionId e = 0 ∧
      positionPower position ends (s.positionMaxLockPower s.nextPositionId) e =
        lane position.stakeStartEpoch stakeEndEpoch position.weightAmount e := by
  obtain ⟨noEnds, noLocks⟩ := (sound.terms _).absent (sound.fresh _ (le_refl _))
  constructor
  · unfold powerOf
    rw [noEnds, noLocks]
    exact positionPower_empty _ e
  · by_cases started : position.stakeStartEpoch ≤ e
    · rw [positionPower_running started isOpen (by rw [noLocks]; rfl), lookup_push pushed,
        if_pos started, lane_later started]
    · rw [lane_before (by omega)]
      unfold positionPower
      rw [if_pos (by omega)]

theorem powerOf_closed {p effectiveEpoch horizon normalEndEpoch : Nat} {withdrawn : Bool}
    (wasOpen : (s.positions p).closedAtEpoch = 0)
    (started : (s.positions p).stakeStartEpoch ≤ effectiveEpoch) (reached : c < horizon)
    (near : horizon = effectiveEpoch ∨ horizon = effectiveEpoch + 1)
    (unlocked : (s.positionMaxLockPower p).upperLookupRecent effectiveEpoch = 0)
    (staysUnlocked : (s.positionMaxLockPower p).upperLookupRecent horizon = 0)
    (ends : (s.positionNormalEndEpoch p).upperLookupRecent effectiveEpoch = normalEndEpoch)
    (staysEnding : (s.positionNormalEndEpoch p).upperLookupRecent horizon = normalEndEpoch)
    (positive : 0 < effectiveEpoch) (e : Nat) :
    positionPower
        { s.positions p with closedAtEpoch := effectiveEpoch, withdrawn := withdrawn }
        (s.positionNormalEndEpoch p) (s.positionMaxLockPower p) e =
      s.powerOf p e + -lane effectiveEpoch normalEndEpoch (s.positions p).weightAmount e := by
  by_cases later : effectiveEpoch ≤ e
  · -- no history changes between the effective epoch and the horizon, and none after it
    have known := sound.terms p
    have lookups : (s.positionMaxLockPower p).upperLookupRecent e = 0 ∧
        (s.positionNormalEndEpoch p).upperLookupRecent e = normalEndEpoch := by
      by_cases here : e = effectiveEpoch
      · subst here
        exact ⟨unlocked, ends⟩
      · have locksKnown := known.locksKnown.mono (m := horizon) (by omega)
        have endsKnown := known.endsKnown.mono (m := horizon) (by omega)
        rw [lookup_const locksKnown (by omega), lookup_const endsKnown (by omega)]
        exact ⟨staysUnlocked, staysEnding⟩
    have old : s.powerOf p e = lane effectiveEpoch normalEndEpoch (s.positions p).weightAmount e := by
      unfold powerOf
      rw [positionPower_running (by omega) wasOpen lookups.1, lookups.2, lane_later later]
    rw [old, add_neg_cancel]
    unfold positionPower
    simp only
    rw [if_neg (by omega), if_pos (by omega)]
  · rw [lane_before (by omega), neg_zero, add_zero]
    exact positionPower_congr rfl rfl wasOpen (.inr (by simp only; omega)) rfl rfl

theorem powerOf_extended {p effectiveEpoch oldEndEpoch newEndEpoch : Nat}
    (wasOpen : (s.positions p).closedAtEpoch = 0)
    (effective : effectiveEpoch = max (c + 1) (s.positions p).stakeStartEpoch)
    (unlocked : (s.positionMaxLockPower p).upperLookupRecent effectiveEpoch = 0)
    (old : (s.positionNormalEndEpoch p).upperLookupRecent effectiveEpoch = oldEndEpoch)
    (pushed : (s.positionNormalEndEpoch p).push effectiveEpoch newEndEpoch =
      (.ok ends : Tx Error Trace)) (e : Nat) :
    positionPower (s.positions p) ends (s.positionMaxLockPower p) e =
      s.powerOf p e + (-lane effectiveEpoch oldEndEpoch (s.positions p).weightAmount e +
        lane effectiveEpoch newEndEpoch (s.positions p).weightAmount e) := by
  by_cases later : effectiveEpoch ≤ e
  · have known := sound.terms p
    have lock : (s.positionMaxLockPower p).upperLookupRecent e = 0 := by
      rw [lookup_const (effective ▸ known.locksKnown) later, unlocked]
    have endsAt : (s.positionNormalEndEpoch p).upperLookupRecent e = oldEndEpoch := by
      rw [lookup_const (effective ▸ known.endsKnown) later, old]
    have before : s.powerOf p e = lane effectiveEpoch oldEndEpoch (s.positions p).weightAmount e := by
      unfold powerOf
      rw [positionPower_running (by omega) wasOpen lock, endsAt, lane_later later]
    rw [before, positionPower_running (by omega) wasOpen lock,
      lookup_push pushed, if_pos later, lane_later later, add_neg_cancel_left]
  · rw [lane_before (by omega), lane_before (by omega), neg_zero, add_zero, add_zero]
    exact positionPower_congr rfl rfl wasOpen (.inl wasOpen) rfl
      (by rw [lookup_push pushed, if_neg later])

theorem powerOf_enabled {p normalEndEpoch : Nat}
    (wasOpen : (s.positions p).closedAtEpoch = 0)
    (started : (s.positions p).stakeStartEpoch ≤ c + 1)
    (unlocked : (s.positionMaxLockPower p).upperLookupRecent (c + 1) = 0)
    (old : (s.positionNormalEndEpoch p).upperLookupRecent (c + 1) = normalEndEpoch)
    (pushedEnd : (s.positionNormalEndEpoch p).push (c + 1) 0 = (.ok ends : Tx Error Trace))
    (pushedLock : (s.positionMaxLockPower p).push (c + 1)
      ((s.positions p).weightAmount * maxStakeEpochs) = (.ok locks : Tx Error Trace)) (e : Nat) :
    positionPower (s.positions p) ends locks e =
      s.powerOf p e + (-lane (c + 1) normalEndEpoch (s.positions p).weightAmount e +
        constant (c + 1) (s.positions p).weightAmount e) := by
  by_cases later : c + 1 ≤ e
  · have known := sound.terms p
    have locksKnown := known.locksKnown.mono (m := c + 1) (by omega)
    have endsKnown := known.endsKnown.mono (m := c + 1) (by omega)
    have lock : (s.positionMaxLockPower p).upperLookupRecent e = 0 := by
      rw [lookup_const locksKnown later, unlocked]
    have endsAt : (s.positionNormalEndEpoch p).upperLookupRecent e = normalEndEpoch := by
      rw [lookup_const endsKnown later, old]
    have before : s.powerOf p e = lane (c + 1) normalEndEpoch (s.positions p).weightAmount e := by
      unfold powerOf
      rw [positionPower_running (by omega) wasOpen lock, endsAt, lane_later later]
    have newLock : locks.upperLookupRecent e = (s.positions p).weightAmount * maxStakeEpochs := by
      rw [lookup_push pushedLock, if_pos later]
    have newEnd : ends.upperLookupRecent e = 0 := by
      rw [lookup_push pushedEnd, if_pos later]
    rw [before, add_neg_cancel_left, constant_later later]
    -- a position without weight has no power either way
    by_cases weightless : (s.positions p).weightAmount = 0
    · rw [positionPower_running (by omega) wasOpen (by rw [newLock, weightless]; rfl), newEnd,
        weightless]
      unfold lane
      simp
      rfl
    · apply positionPower_locked (by omega) wasOpen
      rw [newLock]
      exact mul_ne_zero weightless (by decide)
  · rw [lane_before (by omega), constant_before (by omega), neg_zero, add_zero, add_zero]
    exact positionPower_congr rfl rfl wasOpen (.inl wasOpen)
      (by rw [lookup_push pushedLock, if_neg later])
      (by rw [lookup_push pushedEnd, if_neg later])

theorem powerOf_disabled (wasOpen : (s.positions p).closedAtEpoch = 0)
    (locked : (s.positionMaxLockPower p).upperLookupRecent (c + 1) ≠ 0)
    (pushedEnd : (s.positionNormalEndEpoch p).push (c + 1) (c + 1 + maxStakeEpochs) =
      (.ok ends : Tx Error Trace))
    (pushedLock : (s.positionMaxLockPower p).push (c + 1) 0 = (.ok locks : Tx Error Trace))
    (e : Nat) :
    positionPower (s.positions p) ends locks e =
      s.powerOf p e + (-constant (c + 1) (s.positions p).weightAmount e +
        lane (c + 1) (c + 1 + maxStakeEpochs) (s.positions p).weightAmount e) := by
  have known := sound.terms p
  have started : (s.positions p).stakeStartEpoch ≤ c + 1 := by
    rcases known.locked (c + 1) with none | ⟨-, started⟩
    · exact absurd none locked
    · exact started
  by_cases later : c + 1 ≤ e
  · have locksKnown := known.locksKnown.mono (m := c + 1) (by omega)
    have lock : (s.positionMaxLockPower p).upperLookupRecent e ≠ 0 := by
      rwa [lookup_const locksKnown later]
    have before : s.powerOf p e = constant (c + 1) (s.positions p).weightAmount e := by
      unfold powerOf
      rw [positionPower_locked (by omega) wasOpen lock, constant_later later]
    have newLock : locks.upperLookupRecent e = 0 := by
      rw [lookup_push pushedLock, if_pos later]
    rw [before, add_neg_cancel_left, positionPower_running (by omega) wasOpen newLock,
      lookup_push pushedEnd, if_pos later, lane_later later]
  · rw [lane_before (by omega), constant_before (by omega), neg_zero, add_zero, add_zero]
    exact positionPower_congr rfl rfl wasOpen (.inl wasOpen)
      (by rw [lookup_push pushedLock, if_neg later])
      (by rw [lookup_push pushedEnd, if_neg later])

end

/-! ## Balance is kept -/

theorem Quiet.powerOf (quiet : Quiet s s') (q e : Nat) : s'.powerOf q e = s.powerOf q e := by
  obtain ⟨owner, same⟩ := quiet.terms q
  unfold SellerPools.powerOf
  rw [same, quiet.ends, quiet.locks]
  rfl

theorem Quiet.balanced (quiet : Quiet s s') (h : Balanced s) : Balanced s' where
  pool a e small := by
    have agents : ∀ q, (s'.positions q).agentId = (s.positions q).agentId := by
      intro q
      obtain ⟨owner, same⟩ := quiet.terms q
      rw [same]
    have pool := h.pool a e small
    simp only [quiet.powerOf, agents, quiet.next]
    rw [← pool]
    unfold poolPower
    rw [quiet.pool, quiet.poolLock]
  total e small := by
    have total := h.total e small
    simp only [quiet.powerOf, quiet.next]
    rw [← total]
    unfold totalPower
    rw [quiet.total, quiet.totalLock]

theorem Change.balanced (change : Change c first s s') (sound : Sound c s)
    (tame : s.Tame) (h : Balanced s) : Balanced s' := by
  cases change with
  | quiet quiet => exact quiet.balanced h
  | opened position ends stakeEndEpoch present stillOpen pushed rewritten next shifted kept future
      order inside light =>
      have power := powerOf_opened sound stillOpen pushed
      refine (powerShift_of_rewritten
        (D := lane position.stakeStartEpoch stakeEndEpoch position.weightAmount) rewritten shifted
        (.inr fun e => (power e).1) ?_ (range_eq_lane order inside light) ?_ ?_ ?_ (by omega)
        (.inr ⟨next, fun e => (power e).1⟩)).balanced h
      · intro e _
        rw [(power e).1, (power e).2, zero_add]
      · intro e
        rw [lane_lock]
        exact (kept.moved _ e).1
      · exact fun b _ => by rw [kept.pool]
      · intro e
        rw [lane_lock]
        exact (kept.moved position.agentId e).2
  | closed positionId withdrawn effectiveEpoch horizon normalEndEpoch wasOpen late started reached
      near unlocked staysUnlocked ends staysEnding normal rewritten next shifted kept =>
      have known := sound.terms positionId
      have present := known.present_of_end (ends ▸ normal)
      have positive := known.positive present
      have endInside : normalEndEpoch < fenwickSize := ends ▸ known.ended effectiveEpoch
      refine (powerShift_of_rewritten
        (D := fun e => -lane effectiveEpoch normalEndEpoch (s.positions positionId).weightAmount e)
        rewritten shifted (.inl rfl) ?_ ?_ ?_ ?_ ?_ (next ▸ sound.known present)
        (.inl next)).balanced h
      · intro e _
        exact powerOf_closed sound wasOpen started reached near unlocked staysUnlocked ends
          staysEnding (by omega) e
      · intro e
        by_cases running : effectiveEpoch < normalEndEpoch
        · rw [if_pos running, range_eq_lane (by omega) endInside (tame positionId)]
          rfl
        · have nothing : lane effectiveEpoch normalEndEpoch (s.positions positionId).weightAmount e =
              0 := by
            unfold lane
            rw [if_neg (by omega)]
          rw [if_neg running, nothing]
          rfl
      · intro e
        rw [snd_neg, lane_lock, neg_zero]
        exact (kept.moved _ e).1
      · exact fun b _ => by rw [kept.pool]
      · intro e
        rw [snd_neg, lane_lock, neg_zero]
        exact (kept.moved (s.positions positionId).agentId e).2
  | extended positionId effectiveEpoch oldEndEpoch newEndEpoch ends wasOpen effective unlocked old
      running later inside pushed rewritten next shifted kept =>
      have present := (sound.terms positionId).present_of_end (e := effectiveEpoch) (by omega)
      refine (powerShift_of_rewritten
        (D := fun e => -lane effectiveEpoch oldEndEpoch (s.positions positionId).weightAmount e +
          lane effectiveEpoch newEndEpoch (s.positions positionId).weightAmount e)
        rewritten shifted (.inl rfl) ?_ ?_ ?_ ?_ ?_ (next ▸ sound.known present)
        (.inl next)).balanced h
      · exact fun e _ => powerOf_extended sound wasOpen effective unlocked old pushed e
      · intro e
        rw [range_eq_lane (by omega) (by omega) (tame positionId),
          range_eq_lane (by omega) inside (tame positionId)]
        rfl
      · intro e
        rw [snd_add, snd_neg, lane_lock, lane_lock, neg_zero, add_zero]
        exact (kept.moved _ e).1
      · exact fun b _ => by rw [kept.pool]
      · intro e
        rw [snd_add, snd_neg, lane_lock, lane_lock, neg_zero, add_zero]
        exact (kept.moved (s.positions positionId).agentId e).2
  | enabled positionId normalEndEpoch ends locks wasOpen started unlocked old running pushedEnd
      pushedLock rewritten next shifted moved =>
      have known := sound.terms positionId
      have present := known.present_of_end (e := c + 1) (by omega)
      have endInside : normalEndEpoch < fenwickSize := old ▸ known.ended (c + 1)
      refine (powerShift_of_rewritten
        (D := fun e => -lane (c + 1) normalEndEpoch (s.positions positionId).weightAmount e +
          constant (c + 1) (s.positions positionId).weightAmount e)
        rewritten shifted (.inl rfl) ?_ ?_ ?_ moved.others ?_ (next ▸ sound.known present)
        (.inl next)).balanced h
      · exact fun e _ => powerOf_enabled sound wasOpen started unlocked old pushedEnd pushedLock e
      · intro e
        rw [range_eq_lane (by omega) endInside (tame positionId), fst_add, constant_lanes, add_zero]
        rfl
      · intro e
        rw [snd_add, snd_neg, lane_lock, neg_zero, zero_add]
        exact (moved.moved sound e).1
      · intro e
        rw [snd_add, snd_neg, lane_lock, neg_zero, zero_add]
        exact (moved.moved sound e).2
  | disabled positionId ends locks wasOpen locked inside pushedEnd pushedLock rewritten next shifted
      moved =>
      have present := (sound.terms positionId).present_of_lock locked
      refine (powerShift_of_rewritten
        (D := fun e => -constant (c + 1) (s.positions positionId).weightAmount e +
          lane (c + 1) (c + 1 + maxStakeEpochs) (s.positions positionId).weightAmount e)
        rewritten shifted (.inl rfl) ?_ ?_ ?_ moved.others ?_ (next ▸ sound.known present)
        (.inl next)).balanced h
      · exact fun e _ => powerOf_disabled sound wasOpen locked pushedEnd pushedLock e
      · intro e
        rw [range_eq_lane (by omega) inside (tame positionId), fst_add, fst_neg,
          constant_lanes, neg_zero, zero_add]
      · intro e
        rw [snd_add, snd_neg, lane_lock, add_zero]
        exact (moved.moved sound e).1
      · intro e
        rw [snd_add, snd_neg, lane_lock, add_zero]
        exact (moved.moved sound e).2

theorem Changes.balanced (changes : Changes c first s s') (sound : Sound c s)
    (tame : s.Tame) (h : Balanced s) : Balanced s' := by
  induction changes with
  | refl => exact h
  | tail earlier last ih =>
    exact last.balanced (Changes.sound earlier sound) (Changes.tame earlier tame) ih

/-! ## Weights -/

/-- The weight that power amounts to at an epoch. -/
def worth (e : Nat) : Power →+ Int where
  toFun power := power.1.2 - power.1.1 * e + power.2 * maxStakeEpochs
  map_zero' := by simp
  map_add' := by
    intro x y
    simp only [fst_add, snd_add]
    ring

theorem worth_lane (running : e < stakeEndEpoch) :
    worth e ((weight, weight * stakeEndEpoch), 0) = (weight * (stakeEndEpoch - e) : Nat) := by
  rw [cast_mul, cast_sub (le_of_lt running)]
  simp only [worth, AddMonoidHom.coe_mk, ZeroHom.coe_mk]
  ring

/-- Power that locks can add up to at an epoch: every lock still runs, and none ends
    outside the trees. -/
structure Regular (e : Nat) (power : Power) : Prop where
  weight : 0 ≤ power.1.1
  running : power.1.1 * (e + 1) ≤ power.1.2
  inside : power.1.2 ≤ power.1.1 * fenwickSize
  lock : 0 ≤ power.2

theorem Regular.zero (e : Nat) : Regular e 0 :=
  ⟨le_rfl, by simp, by simp, le_rfl⟩

theorem Regular.add (hx : Regular e x) (hy : Regular e y) : Regular e (x + y) := by
  obtain ⟨h1, h2, h3, h4⟩ := hx
  obtain ⟨k1, k2, k3, k4⟩ := hy
  refine ⟨?_, ?_, ?_, ?_⟩ <;> simp only [fst_add, snd_add, add_mul] <;> linarith

theorem regular_powerOf (sound : Sound c s) (q e : Nat) : Regular e (s.powerOf q e) := by
  have known := sound.terms q
  unfold powerOf positionPower
  split
  · exact .zero e
  · split
    · exact .zero e
    · split
      · exact ⟨le_rfl, by simp, by simp, Int.natCast_nonneg _⟩
      · split
        next running =>
          have inside := known.ended e
          refine ⟨Int.natCast_nonneg _, ?_, ?_, le_rfl⟩
          · exact Int.mul_le_mul_of_nonneg_left (by omega) (Int.natCast_nonneg _)
          · exact Int.mul_le_mul_of_nonneg_left (by omega) (Int.natCast_nonneg _)
        · exact .zero e

theorem positionWeight_eq (sound : Sound c s) (tame : s.Tame)
    (present : (s.positions q).owner ≠ 0) (e : Nat) :
    s.positionWeightAtEpoch q e = .ok (worth e (s.powerOf q e)).toNat := by
  have known := sound.terms q
  have passed : require ((s.positions q).owner ≠ 0) Error.invalidPosition = .ok () :=
    require_eq_ok.mpr present
  have nothing : (pure 0 : Tx Error Nat) = .ok (worth e 0).toNat := by rw [map_zero]; rfl
  simp only [positionWeightAtEpoch, passed, ok_bind]
  unfold powerOf positionPower
  split
  · exact nothing
  · split
    · exact nothing
    · split
      next isLocked =>
        rcases known.locked e with none | ⟨full, -⟩
        · exact absurd none isLocked
        · rw [full]
          simp [worth, pure, Except.pure]
          omega
      · split
        next past =>
          rw [if_neg (by omega)]
          exact nothing
        next running =>
          have inside := known.ended e
          have light := tame q
          have order : e < (s.positionNormalEndEpoch q).upperLookupRecent e := by omega
          rw [if_pos order]
          have fits : (s.positions q).weightAmount *
              ((s.positionNormalEndEpoch q).upperLookupRecent e - e) < 2 ^ 256 := by
            calc (s.positions q).weightAmount *
                  ((s.positionNormalEndEpoch q).upperLookupRecent e - e)
                ≤ 2 ^ 127 * 4096 := Nat.mul_le_mul (Nat.le_of_lt light) (by
                  unfold fenwickSize at inside
                  omega)
              _ < 2 ^ 256 := by decide
          refine bind_eq_ok.mpr ⟨_, sub_eq_ok.mpr ⟨Nat.le_of_lt order, rfl⟩, uint_eq_ok.mpr ⟨fits, ?_⟩⟩
          rw [worth_lane order, Int.toNat_natCast]

theorem powerAndActiveWeight_eq (inside : e < fenwickSize)
    (regular : Regular e (tree.sumAt e, m)) :
    powerAndActiveWeightAtEpoch tree e =
      .ok (((tree.sumAt e).2 - (tree.sumAt e).1 * e).toNat, (tree.sumAt e).1.toNat) := by
  obtain ⟨weight, running, bounded, -⟩ := regular
  obtain ⟨⟨-, high⟩, -, high'⟩ := tree.sumAt_bounds e
  have read := tree.fenwickPrefixSum_inside inside
  simp only at weight running bounded
  generalize isSum : tree.sumAt e = sum at *
  obtain ⟨amount, weightedEnd⟩ := sum
  simp only [powerAndActiveWeightAtEpoch, read, ok_bind]
  simp only at weight running bounded high high'
  split
  next none =>
    have zero : amount = 0 := by
      rcases none with small | small
      · omega
      · by_contra positive
        have : 0 < amount := by omega
        nlinarith
    subst zero
    have : weightedEnd = 0 := by omega
    subst this
    rw [Int.zero_mul]
    rfl
  next some =>
    have elapsedLow : 0 ≤ amount * e := Int.mul_nonneg (by omega) (by omega)
    have gain : amount * e + amount ≤ weightedEnd := by linarith
    have first : (int 256 (amount * e) : Tx Error Int) = .ok (amount * e) :=
      int_eq_ok.mpr ⟨by omega, rfl⟩
    have second : (int 256 (weightedEnd - amount * e) : Tx Error Int) =
        .ok (weightedEnd - amount * e) := int_eq_ok.mpr ⟨by omega, rfl⟩
    rw [first, ok_bind, second, ok_bind, if_neg (by omega)]
    rfl

theorem worth_regular {power : Power} (regular : Regular e power) :
    0 ≤ worth e power ∧ worth e power =
      ((power.1.2 - power.1.1 * e).toNat + power.2.toNat * maxStakeEpochs : Nat) ∧
      power.1.1.toNat ≤ (power.1.2 - power.1.1 * e).toNat := by
  obtain ⟨⟨amount, weightedEnd⟩, lock⟩ := power
  obtain ⟨weight, running, -, locked⟩ := regular
  simp only at weight running locked
  have gain : amount * e + amount ≤ weightedEnd := by linarith
  have value : worth e ((amount, weightedEnd), lock) =
      weightedEnd - amount * e + lock * maxStakeEpochs := rfl
  rw [value]
  simp only [maxStakeEpochs]
  push_cast
  omega

theorem lanes_fit (regular : Regular e (tree.sumAt e, m)) :
    ((tree.sumAt e).2 - (tree.sumAt e).1 * e).toNat < 2 ^ 256 := by
  have bounds := tree.sumAt_bounds e
  have weight := regular.weight
  have : 0 ≤ (tree.sumAt e).1 * (e : Int) := Int.mul_nonneg weight (Int.natCast_nonneg e)
  omega

theorem poolWeight_eq (inside : e < fenwickSize) (regular : Regular e (s.poolPower a e)) :
    s.poolWeightAtEpoch a e = uint 256 (worth e (s.poolPower a e)).toNat := by
  obtain ⟨-, value, active⟩ := worth_regular regular
  have net := lanes_fit regular
  rw [value, Int.toNat_natCast]
  simp only [poolWeightAtEpoch, poolPowerAndActiveWeightAtEpoch,
    powerAndActiveWeight_eq inside regular, ok_bind]
  simp only [poolPower, Int.toNat_natCast] at active net ⊢
  generalize (((s.poolPowerTree a).sumAt e).2 -
    ((s.poolPowerTree a).sumAt e).1 * (e : Int)).toNat = power at *
  generalize (s.poolMaxLockWeightAmount a).upperLookupRecent e = locked at *
  by_cases none : locked = 0
  · subst none
    rw [uint_fits (n := power + 0 * maxStakeEpochs) (by omega)]
    rfl
  · rw [if_pos none]
    by_cases fits : locked * maxStakeEpochs < 2 ^ 256
    · rw [uint_fits fits, ok_bind]
      by_cases whole : power + locked * maxStakeEpochs < 2 ^ 256
      · have activeFits : ((s.poolPowerTree a).sumAt e).1.toNat + locked < 2 ^ 256 := by
          unfold maxStakeEpochs at whole
          omega
        rw [uint_fits whole, ok_bind, uint_fits activeFits]
        rfl
      · rw [uint_exceeds whole]
        rfl
    · have whole : ¬ power + locked * maxStakeEpochs < 2 ^ 256 := by omega
      rw [uint_exceeds fits, uint_exceeds whole]
      rfl

theorem totalPowerWeight_eq (inside : e < fenwickSize) (regular : Regular e (s.totalPower e)) :
    s.totalPowerWeightAtEpoch e = uint 256 (worth e (s.totalPower e)).toNat := by
  obtain ⟨-, value, -⟩ := worth_regular regular
  rw [value, Int.toNat_natCast]
  simp only [totalPowerWeightAtEpoch, totalMaxLockPowerAtEpoch,
    powerAndActiveWeight_eq inside regular, ok_bind, uint_add_steps]
  rfl

/-! ## Sums of weights -/

def positionsOf (s : SellerPools) (a : Word) : Finset Nat :=
  (Finset.range s.nextPositionId).filter fun q =>
    (s.positions q).owner ≠ 0 ∧ (s.positions q).agentId = a

theorem powerOf_absent (sound : Sound c s) (absent : (s.positions q).owner = 0) (e : Nat) :
    s.powerOf q e = 0 := by
  obtain ⟨noEnds, noLocks⟩ := (sound.terms q).absent absent
  unfold powerOf
  rw [noEnds, noLocks]
  exact positionPower_empty _ e

theorem poolPower_eq_sum (sound : Sound c s) (balanced : Balanced s) (inside : e < fenwickSize)
    (a : Word) : s.poolPower a e = ∑ q ∈ s.positionsOf a, s.powerOf q e := by
  rw [balanced.pool a e inside, positionsOf, sum_filter]
  refine sum_congr rfl fun q _ => ?_
  by_cases absent : (s.positions q).owner = 0
  · rw [powerOf_absent sound absent]
    simp
  · simp [absent]

theorem totalPower_eq_sum (balanced : Balanced s) (inside : e < fenwickSize) :
    s.totalPower e = ∑ a, s.poolPower a e := by
  rw [balanced.total e inside]
  simp only [balanced.pool _ e inside]
  rw [sum_comm]
  refine sum_congr rfl fun q _ => ?_
  rw [sum_ite_eq]
  simp

theorem regular_sum {K : Type} (t : Finset K) {f : K → Power} (each : ∀ k ∈ t, Regular e (f k)) :
    Regular e (∑ k ∈ t, f k) :=
  sum_induction f (Regular e) (fun _ _ => .add) (.zero e) each

theorem toNat_worth_sum {K : Type} (t : Finset K) {f : K → Power} (each : ∀ k ∈ t, Regular e (f k)) :
    (worth e (∑ k ∈ t, f k)).toNat = ∑ k ∈ t, (worth e (f k)).toNat := by
  rw [map_sum, ← Int.natCast_inj, cast_sum, Int.toNat_of_nonneg]
  · refine sum_congr rfl fun k member => ?_
    rw [Int.toNat_of_nonneg (worth_regular (each k member)).1]
  · exact sum_nonneg fun k member => (worth_regular (each k member)).1

/-- At epoch `e` every position has a weight, the weight of a pool is the sum over its
    positions and the total is the sum over the pools. The views revert exactly if such a
    sum does not fit 256 bits. -/
def PowerAgrees (s : SellerPools) (e : Nat) : Prop :=
  ∃ weight : Nat → Nat,
    (∀ q, (s.positions q).owner ≠ 0 → s.positionWeightAtEpoch q e = .ok (weight q)) ∧
    (∀ a, s.poolWeightAtEpoch a e = uint 256 (∑ q ∈ s.positionsOf a, weight q)) ∧
    s.totalPowerWeightAtEpoch e = uint 256 (∑ a, ∑ q ∈ s.positionsOf a, weight q)

theorem powerAgrees (sound : Sound c s) (tame : s.Tame) (balanced : Balanced s)
    (inside : e < fenwickSize) : s.PowerAgrees e := by
  have regular : ∀ a, ∀ q ∈ s.positionsOf a, Regular e (s.powerOf q e) :=
    fun _ q _ => regular_powerOf sound q e
  have pools : ∀ a, Regular e (s.poolPower a e) := fun a => by
    rw [poolPower_eq_sum sound balanced inside a]
    exact regular_sum _ (regular a)
  have weights : ∀ a, (worth e (s.poolPower a e)).toNat =
      ∑ q ∈ s.positionsOf a, (worth e (s.powerOf q e)).toNat := fun a => by
    rw [poolPower_eq_sum sound balanced inside a, toNat_worth_sum _ (regular a)]
  refine ⟨fun q => (worth e (s.powerOf q e)).toNat, ?_, ?_, ?_⟩
  · exact fun q present => positionWeight_eq sound tame present e
  · intro a
    rw [poolWeight_eq inside (pools a), weights a]
  · have total := totalPower_eq_sum balanced inside
    rw [totalPowerWeight_eq inside (total ▸ regular_sum _ fun a _ => pools a), total,
      toNat_worth_sum _ fun a _ => pools a]
    simp only [weights]

theorem balanced_deployed (owner stakingSource : Address) :
    Balanced (deployed owner stakingSource).pools where
  pool a e _ := by
    have nothing : (deployed owner stakingSource).pools.poolPower a e = 0 := by
      exact congrArg (fun x => (x, (0 : Int))) (FenwickTree.sumAt_empty e)
    rw [nothing]
    refine (sum_eq_zero fun q _ => ?_).symm
    rw [powerOf_absent (sound_deployed owner stakingSource) rfl]
    exact ite_self 0
  total e _ := by
    have nothing : (deployed owner stakingSource).pools.totalPower e = 0 := by
      exact congrArg (fun x => (x, (0 : Int))) (FenwickTree.sumAt_empty e)
    rw [nothing]
    exact (sum_eq_zero fun q _ =>
      powerOf_absent (sound_deployed owner stakingSource) rfl e).symm

end SellerPools

/-! ## Every reachable state -/

/-- Sound pools with small weights and balanced power. -/
structure Even (s : State) : Prop extends Sound s where
  tame : s.pools.Tame
  balanced : s.pools.Balanced

theorem step_even
    (even : Even s) (h : step self s event = .ok s') : Even s' := by
  have sound := step_sound even.toSound h
  rcases step_changes even.toSound h with ⟨call, -, -, changes⟩ | ⟨same, -, -⟩
  · exact ⟨sound, changes.tame even.tame, changes.balanced even.pools even.tame even.balanced⟩
  · exact ⟨sound, same ▸ even.tame, same ▸ even.balanced⟩

theorem even_deployed (owner stakingSource : Address) : Even (deployed owner stakingSource) :=
  ⟨⟨SellerPools.sound_deployed owner stakingSource, Nat.two_pow_pos 64⟩, fun _ => Nat.two_pow_pos 127,
    SellerPools.balanced_deployed owner stakingSource⟩

/-- In every reachable state pool power is the sum of position power and total power the sum
    of pool power. -/
theorem pool_power_is_sum_of_positions (self owner stakingSource : Address) (events : List Event)
    (e : Nat) (inside : e < fenwickSize) :
    (run self owner stakingSource events).pools.PowerAgrees e := by
  have even : Even (run self owner stakingSource events) :=
    (machine self).run_invariant (fun s event s' => step_even) (even_deployed owner stakingSource) events
  exact SellerPools.powerAgrees even.pools even.tame even.balanced inside

/-- A run in which an account stakes for ten epochs and then locks at the maximum. -/
def stakeThenMaxLock : List Event :=
  let ask (op : Operation) : Event := .call
    { sender := ⟨7⟩, identityOwnerOf := fun _ => some ⟨7⟩, stakingAgentId := fun _ _ => some ⟨1⟩,
      onERC721Received := fun _ => some [], op := op }
  [.antsMint ⟨7⟩ 100, .antsApprove ⟨7⟩ ⟨5⟩ 100, ask (.stakeFor ⟨7⟩ ⟨1⟩ 100 10), .elapse 1,
    ask (.enableMaxLock 1)]

theorem stakeThenMaxLock_agrees :
    ((run ⟨5⟩ ⟨9⟩ ⟨8⟩ stakeThenMaxLock).pools.positions 1).owner = ⟨7⟩ ∧
      (run ⟨5⟩ ⟨9⟩ ⟨8⟩ stakeThenMaxLock).pools.poolWeightAtEpoch ⟨1⟩ 1 = .ok 1000 ∧
      (run ⟨5⟩ ⟨9⟩ ⟨8⟩ stakeThenMaxLock).pools.poolWeightAtEpoch ⟨1⟩ 2 = .ok 10400 ∧
      (run ⟨5⟩ ⟨9⟩ ⟨8⟩ stakeThenMaxLock).pools.PowerAgrees 2 :=
  ⟨by decide +kernel, by decide +kernel, by decide +kernel,
    pool_power_is_sum_of_positions ⟨5⟩ ⟨9⟩ ⟨8⟩ stakeThenMaxLock 2 (by decide)⟩

end AntSeed.Pools
