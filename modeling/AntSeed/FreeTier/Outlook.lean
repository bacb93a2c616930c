import AntSeed.FreeTier.Limiter
import AntSeed.Lib.Strongest
import Mathlib.Data.Rat.Floor
import Mathlib.Data.Finset.Max

/-!
# When a buyer's stake drops to a lower tier

The power of a stake is what its strongest positions weigh, each by the epochs
left on its lock. It can only shrink where an epoch starts or a code expires, so
the outlook looks at these times alone. Numbers are exact.
-/

namespace AntSeed.FreeTier

open Strongest
open List

def MAX_FREE_TIER_COUNTED_POSITIONS : Nat := 64
def FREE_TIER_MAX_LOCK_EPOCHS : Int := 104

structure FreeTierStakePositionView where
  id : Int
  ants : ℚ
  startEpoch : Int
  endEpoch : Int
  closedAtEpoch : Option Int
  maxLocked : Bool
  maxLockedNext : Bool
  expiresAt : Option ℚ

structure FreeTierStakeView where
  currentEpoch : Int
  genesis : ℚ
  epochDuration : ℚ

namespace FreeTierStakeView

variable (view : FreeTierStakeView) (positions : List FreeTierStakePositionView) (tiers : List FreeTierStakeTier)

def freeTierEpochStart (epoch : Int) : ℚ := view.genesis + epoch * view.epochDuration

def epochAt (time : ℚ) : Int := ⌊(time - view.genesis) / view.epochDuration⌋

def locked (epoch : Int) (position : FreeTierStakePositionView) : Bool :=
  if epoch ≤ view.currentEpoch then position.maxLocked else position.maxLockedNext

def countedAt (time : ℚ) (position : FreeTierStakePositionView) : Option (Int × ℚ) :=
  let epoch := view.epochAt time
  let epochs : Int :=
    if view.locked epoch position then FREE_TIER_MAX_LOCK_EPOCHS else max 0 (position.endEpoch - epoch)
  let power := position.ants * epochs
  if (∀ expiry ∈ position.expiresAt, time < expiry) ∧ position.startEpoch ≤ epoch ∧
      (∀ closing ∈ position.closedAtEpoch, epoch < closing) ∧ 0 < power then some (position.id, power)
  else none

/-- The comparator of the sort: more power first, then the lower id. -/
def countsBefore (a b : Int × ℚ) : Bool := if a.2 = b.2 then a.1 ≤ b.1 else b.2 < a.2

def freeTierPowerAt (time : ℚ) : ℚ :=
  strongest Prod.snd countsBefore MAX_FREE_TIER_COUNTED_POSITIONS (positions.filterMap (view.countedAt time))

end FreeTierStakeView

/-- The tier that some power reaches. Tiers are told apart by their place on the ladder. -/
def freeTierTierAt (tiers : List FreeTierStakeTier) (power : ℚ) : Option (FreeTierStakeTier × Nat) :=
  tiers.zipIdx.foldl (fun found tier => if (tier.1.minPower : ℚ) ≤ power then some tier else found) none

def rank : Option (FreeTierStakeTier × Nat) → Int
  | none => -1
  | some candidate => candidate.2

structure FreeTierOutlook where
  power : ℚ
  tier : Option (FreeTierStakeTier × Nat)
  dropsAt : Option ℚ
  tierAfterDrop : Option (FreeTierStakeTier × Nat)

namespace FreeTierStakeView

variable (view : FreeTierStakeView) (positions : List FreeTierStakePositionView) (tiers : List FreeTierStakeTier)
  (now : ℚ)

def lastEpoch : Int :=
  min ((positions.map (·.endEpoch)).foldl max view.currentEpoch + 1)
    (view.currentEpoch + 10 * FREE_TIER_MAX_LOCK_EPOCHS)

/-- Writing an epoch start twice changes nothing, and an expiry does not replace one. -/
def addPoint (points : List (ℚ × Bool)) (point : ℚ × Bool) : List (ℚ × Bool) :=
  if point.1 ∈ points.map Prod.fst then points else points ++ [point]

def writtenPoints : List (ℚ × Bool) :=
  ((range (view.lastEpoch positions - view.currentEpoch).toNat).map fun n : Nat =>
      (view.freeTierEpochStart (view.currentEpoch + 1 + (n : Int)), true)) ++
    ((positions.filterMap (·.expiresAt)).filter (now < ·)).map fun expiry => (expiry, false)

/-- The times at which power may shrink, and whether an epoch starts then. -/
def changePoints : List (ℚ × Bool) :=
  (((view.writtenPoints positions now).foldl addPoint []).filter fun point => now < point.1).mergeSort
    fun a b => a.1 ≤ b.1

def tierAt (time : ℚ) : Option (FreeTierStakeTier × Nat) :=
  freeTierTierAt tiers (view.freeTierPowerAt positions time)

def Lower (time : ℚ) : Prop :=
  rank (view.tierAt positions tiers time) < rank (view.tierAt positions tiers now)

instance (time : ℚ) : Decidable (view.Lower positions tiers now time) := inferInstanceAs (Decidable (_ < _))

def freeTierOutlook : FreeTierOutlook :=
  let power := view.freeTierPowerAt positions now
  let tier := freeTierTierAt tiers power
  if tier.isNone then ⟨power, tier, none, none⟩
  else match (view.changePoints positions now).find? fun point => view.Lower positions tiers now point.1 with
    | some point => ⟨power, tier, some point.1, view.tierAt positions tiers point.1⟩
    | none => ⟨power, tier, none, none⟩

end FreeTierStakeView

theorem freeTierTierAt_append (tiers : List FreeTierStakeTier) (tier : FreeTierStakeTier) (power : ℚ) :
    freeTierTierAt (tiers ++ [tier]) power =
      if (tier.minPower : ℚ) ≤ power then some (tier, tiers.length) else freeTierTierAt tiers power := by
  simp [freeTierTierAt, zipIdx_append]

theorem rank_lt (tiers : List FreeTierStakeTier) (power : ℚ) : rank (freeTierTierAt tiers power) < tiers.length := by
  induction tiers using reverseRecOn with
  | nil => simp [freeTierTierAt, rank]
  | append_singleton =>
    rw [freeTierTierAt_append, length_append, length_singleton]
    split
    · simp [rank]
    · omega

theorem neg_one_le_rank (tier : Option (FreeTierStakeTier × Nat)) : -1 ≤ rank tier := by
  cases tier with
  | none => exact le_rfl
  | some => simp only [rank]; omega

theorem rank_mono (tiers : List FreeTierStakeTier) (le : less ≤ more) :
    rank (freeTierTierAt tiers less) ≤ rank (freeTierTierAt tiers more) := by
  induction tiers using reverseRecOn with
  | nil => exact le_rfl
  | append_singleton tiers tier ih =>
    rw [freeTierTierAt_append, freeTierTierAt_append]
    by_cases reached : (tier.minPower : ℚ) ≤ less
    · rw [if_pos reached, if_pos (reached.trans le)]
    · rw [if_neg reached]
      split
      · exact (rank_lt tiers less).le
      · exact ih

namespace FreeTierStakeView

variable {view : FreeTierStakeView} {positions : List FreeTierStakePositionView} {tiers : List FreeTierStakeTier}
  {now time : ℚ}

theorem freeTierPowerAt_mono {earlier : ℚ}
    (counts : ∀ position ∈ positions, ∀ counted, view.countedAt earlier position = some counted →
      view.countedAt time position = some counted) :
    view.freeTierPowerAt positions earlier ≤ view.freeTierPowerAt positions time := by
  refine strongest_mono ?_ ?_ ?_ ?_ (filterMap_sublist counts)
  · intro a b c
    simp only [countsBefore]
    grind
  · intro a b
    simp only [countsBefore]
    grind
  · intro a b
    simp only [countsBefore]
    grind
  · intro counted member
    obtain ⟨position, -, isCounted⟩ := mem_filterMap.mp member
    unfold countedAt at isCounted
    simp only [Option.ite_none_right_eq_some, Option.some.injEq] at isCounted
    obtain ⟨⟨-, -, -, positive⟩, rfl⟩ := isCounted
    exact positive.le

theorem mem_foldl_addPoint {points added : List (ℚ × Bool)} {moment : ℚ} :
    moment ∈ (added.foldl addPoint points).map Prod.fst ↔
      moment ∈ points.map Prod.fst ∨ moment ∈ added.map Prod.fst := by
  induction added generalizing points with
  | nil => simp
  | cons point added ih =>
    rw [foldl_cons, ih, addPoint, map_cons, mem_cons]
    split
    · grind
    · rw [map_append, mem_append, map_singleton, mem_singleton, or_assoc]

theorem mem_changePoints {moment : ℚ} : moment ∈ (view.changePoints positions now).map Prod.fst ↔
    now < moment ∧ ((∃ epoch, view.currentEpoch < epoch ∧ epoch ≤ view.lastEpoch positions ∧
      moment = view.freeTierEpochStart epoch) ∨ ∃ position ∈ positions, position.expiresAt = some moment) := by
  have sorted (point : ℚ × Bool) : point ∈ view.changePoints positions now ↔ _ := mem_mergeSort
  have written := @mem_foldl_addPoint [] (view.writtenPoints positions now) moment
  simp only [mem_map, not_mem_nil, false_and, exists_false, false_or] at written
  simp only [mem_map, sorted, mem_filter, decide_eq_true_eq]
  constructor
  · rintro ⟨point, ⟨added, later⟩, rfl⟩
    refine ⟨later, ?_⟩
    obtain ⟨point', given, same⟩ := written.mp ⟨point, added, rfl⟩
    rcases mem_append.mp given with epochs | expiries
    · obtain ⟨n, inRange, rfl⟩ := mem_map.mp epochs
      have below := mem_range.mp inRange
      exact .inl ⟨view.currentEpoch + 1 + n, by omega, by omega, same.symm⟩
    · obtain ⟨expiry, isExpiry, rfl⟩ := mem_map.mp expiries
      obtain ⟨position, member, expires⟩ := mem_filterMap.mp (mem_of_mem_filter isExpiry)
      exact .inr ⟨position, member, same ▸ expires⟩
  · rintro ⟨later, given⟩
    obtain ⟨point, added, same⟩ := written.mpr (by
      rcases given with ⟨epoch, after, last, same⟩ | ⟨position, member, expires⟩
      · refine ⟨(moment, true), mem_append_left _ (mem_map.mpr
          ⟨(epoch - view.currentEpoch - 1).toNat, mem_range.mpr (by omega), ?_⟩), rfl⟩
        rw [same, show view.currentEpoch + 1 + ((epoch - view.currentEpoch - 1).toNat : Int) = epoch by omega]
      · have kept : moment ∈ (positions.filterMap (·.expiresAt)).filter (now < ·) :=
          mem_filter.mpr ⟨mem_filterMap.mpr ⟨position, member, expires⟩, by simpa using later⟩
        exact ⟨(moment, false), mem_append_right _ (mem_map_of_mem kept), rfl⟩)
    exact ⟨point, ⟨added, same ▸ later⟩, same⟩

theorem changePoints_sorted :
    (view.changePoints positions now).Pairwise fun first second => first.1 ≤ second.1 := by
  refine (pairwise_mergeSort ?_ ?_ _).imp fun le => by simpa using le
  · intro a b c
    simpa using le_trans
  · intro a b
    simpa using le_total a.1 b.1

theorem epochAt_mono (lasts : 0 < view.epochDuration) (le : earlier ≤ time) :
    view.epochAt earlier ≤ view.epochAt time := by
  unfold epochAt
  gcongr

theorem le_epochAt_iff (lasts : 0 < view.epochDuration) :
    epoch ≤ view.epochAt time ↔ view.freeTierEpochStart epoch ≤ time := by
  rw [epochAt, Int.le_floor, le_div_iff₀ lasts, freeTierEpochStart, le_sub_iff_add_le']

theorem le_foldl_max {start : Int} {numbers : List Int} :
    start ≤ numbers.foldl max start ∧ ∀ number ∈ numbers, number ≤ numbers.foldl max start := by
  induction numbers generalizing start with
  | nil => simp
  | cons first numbers ih =>
    obtain ⟨most, others⟩ := @ih (max start first)
    rw [max_le_iff] at most
    exact ⟨most.1, forall_mem_cons.mpr ⟨most.2, others⟩⟩

theorem currentEpoch_lt_lastEpoch : view.currentEpoch < view.lastEpoch positions := by
  have most := (@le_foldl_max view.currentEpoch (positions.map (·.endEpoch))).1
  simp only [lastEpoch, FREE_TIER_MAX_LOCK_EPOCHS]
  omega

/-- A view that is not ahead of the clock, and whose locks end where the outlook looks. -/
structure Foreseeable (view : FreeTierStakeView) (positions : List FreeTierStakePositionView) (now : ℚ) : Prop where
  lasts : 0 < view.epochDuration
  begun : view.freeTierEpochStart view.currentEpoch ≤ now
  ends : ∀ position ∈ positions, position.maxLockedNext = false →
    position.endEpoch ≤ view.currentEpoch + 10 * FREE_TIER_MAX_LOCK_EPOCHS
  closes : ∀ position ∈ positions, position.maxLockedNext = true → ∀ closing ∈ position.closedAtEpoch,
    closing ≤ view.lastEpoch positions

section

variable (fore : view.Foreseeable positions now)

include fore

theorem Foreseeable.ends_le {position : FreeTierStakePositionView}
    (member : position ∈ positions) (unlocked : position.maxLockedNext = false) :
    position.endEpoch ≤ view.lastEpoch positions := by
  have most := (@le_foldl_max view.currentEpoch (positions.map (·.endEpoch))).2 _ (mem_map_of_mem member)
  have ends := fore.ends position member unlocked
  simp only [lastEpoch]
  omega

theorem Foreseeable.exists_point (later : now ≤ time) :
    ∃ last, (last = now ∨ last ∈ (view.changePoints positions now).map Prod.fst) ∧ last ≤ time ∧
      view.freeTierPowerAt positions last ≤ view.freeTierPowerAt positions time := by
  obtain ⟨last, member, latest⟩ :=
    (insert now (((view.changePoints positions now).map Prod.fst).toFinset.filter (· ≤ time))).exists_max_image id
      ⟨now, Finset.mem_insert_self _ _⟩
  simp only [Finset.mem_insert, Finset.mem_filter, mem_toFinset, id, forall_eq_or_imp, and_imp] at member latest
  obtain ⟨since, latest⟩ := latest
  have before : last ≤ time := member.elim (fun isNow => isNow ▸ later) And.right
  refine ⟨last, member.imp_right And.left, before, ?_⟩
  have lasts := fore.lasts
  have current : view.currentEpoch ≤ view.epochAt last := (le_epochAt_iff lasts).mpr (fore.begun.trans since)
  have epochs : view.epochAt last = view.epochAt time ∨
      view.lastEpoch positions ≤ view.epochAt last ∧ view.epochAt last ≤ view.epochAt time := by
    by_contra apart
    have le := epochAt_mono lasts before
    have start : view.freeTierEpochStart (view.epochAt last + 1) ≤ time := (le_epochAt_iff lasts).mp (by omega)
    have beyond : last < view.freeTierEpochStart (view.epochAt last + 1) := by
      rw [← not_le, ← le_epochAt_iff lasts]
      omega
    have point : _ ∈ (view.changePoints positions now).map Prod.fst :=
      mem_changePoints.mpr ⟨since.trans_lt beyond, .inl ⟨_, by omega, by omega, rfl⟩⟩
    exact absurd (latest _ point start) beyond.not_ge
  refine freeTierPowerAt_mono fun position ofList counted isCounted => ?_
  unfold countedAt at isCounted ⊢
  simp only [Option.ite_none_right_eq_some, Option.some.injEq] at isCounted ⊢
  obtain ⟨⟨valid, started, isOpen, positive⟩, rfl⟩ := isCounted
  have stillValid : ∀ expiry ∈ position.expiresAt, time < expiry := by
    intro expiry expires
    by_contra expired
    have point : expiry ∈ (view.changePoints positions now).map Prod.fst :=
      mem_changePoints.mpr ⟨since.trans_lt (valid expiry expires), .inr ⟨position, ofList, expires⟩⟩
    exact absurd (latest expiry point (not_lt.mp expired)) (valid expiry expires).not_ge
  rcases epochs with same | ⟨past, le⟩
  · rw [← same]
    exact ⟨⟨stillValid, started, isOpen, positive⟩, rfl⟩
  -- beyond the last epoch only max-locked positions count, and they stay as they are
  have next : view.currentEpoch < view.epochAt last := currentEpoch_lt_lastEpoch.trans_le past
  have lockedNext : position.maxLockedNext = true := by
    by_contra unlocked
    have ended := fore.ends_le ofList (by simpa using unlocked)
    have none : max 0 (position.endEpoch - view.epochAt last) = 0 := by omega
    simp [locked, not_le.mpr next, unlocked, none] at positive
  have stays (epoch : Int) (after : view.currentEpoch < epoch) : view.locked epoch position = true := by
    rw [locked, if_neg (not_le.mpr after), lockedNext]
  rw [stays _ next] at positive ⊢
  rw [stays _ (next.trans_le le)]
  refine ⟨⟨stillValid, started.trans le, fun closing closes => ?_, positive⟩, rfl⟩
  exact absurd (isOpen closing closes) (not_lt.mpr ((fore.closes position ofList lockedNext closing closes).trans past))

theorem Foreseeable.exists_lower (later : now ≤ time)
    (lower : view.Lower positions tiers now time) :
    ∃ point ∈ view.changePoints positions now, point.1 ≤ time ∧ view.Lower positions tiers now point.1 := by
  obtain ⟨last, isLooked, before, power⟩ := fore.exists_point later
  have lowerThen : view.Lower positions tiers now last := lt_of_le_of_lt (rank_mono tiers power) lower
  rcases isLooked with rfl | listed
  · exact absurd lowerThen (lt_irrefl _)
  · obtain ⟨point, member, rfl⟩ := mem_map.mp listed
    exact ⟨point, member, before, lowerThen⟩

end

/-- The outlook names the first time at which the tier is lower, and none exactly if it never is. -/
theorem outlook_predicts_drop (view : FreeTierStakeView) (positions : List FreeTierStakePositionView)
    (tiers : List FreeTierStakeTier) (now : ℚ) (fore : view.Foreseeable positions now) :
    let outlook := view.freeTierOutlook positions tiers now
    outlook.tier = view.tierAt positions tiers now ∧
    (∀ drop, outlook.dropsAt = some drop → now < drop ∧
      (∀ time, now ≤ time → time < drop → ¬ view.Lower positions tiers now time) ∧
      view.Lower positions tiers now drop ∧ outlook.tierAfterDrop = view.tierAt positions tiers drop) ∧
    (outlook.dropsAt = none ↔ ∀ time, now ≤ time → ¬ view.Lower positions tiers now time) := by
  intro outlook
  have shape : outlook = view.freeTierOutlook positions tiers now := rfl
  unfold freeTierOutlook at shape
  dsimp only at shape
  cases below : (freeTierTierAt tiers (view.freeTierPowerAt positions now)).isNone with
  | true =>
    rw [below, if_pos rfl] at shape
    have never (time : ℚ) : ¬ view.Lower positions tiers now time := by
      have nothing : view.tierAt positions tiers now = none := Option.isNone_iff_eq_none.mp below
      rw [Lower, nothing, not_lt]
      exact neg_one_le_rank _
    rw [shape]
    exact ⟨rfl, nofun, fun _ time _ => never time, fun _ => rfl⟩
  | false =>
    rw [below, if_neg Bool.false_ne_true] at shape
    cases found : (view.changePoints positions now).find? fun point => view.Lower positions tiers now point.1 with
    | none =>
      rw [found] at shape
      rw [shape]
      refine ⟨rfl, nofun, fun _ time later lower => ?_, fun _ => rfl⟩
      obtain ⟨point, member, -, lowerThen⟩ := fore.exists_lower later lower
      exact find?_eq_none.mp found point member (by simpa using lowerThen)
    | some point =>
      rw [found] at shape
      obtain ⟨lower, earlier, rest, points, sooner⟩ := find?_eq_some_iff_append.mp found
      have lower : view.Lower positions tiers now point.1 := by simpa using lower
      have member : point ∈ view.changePoints positions now := mem_of_find?_eq_some found
      have after : now < point.1 := (mem_changePoints.mp (mem_map_of_mem member)).1
      rw [shape]
      refine ⟨rfl, fun drop same => ?_, nofun, fun never => absurd lower (never point.1 after.le)⟩
      obtain rfl := Option.some.inj same
      refine ⟨after, fun time later before lowerThen => ?_, lower, rfl⟩
      obtain ⟨other, listed, le, lowerAlready⟩ := fore.exists_lower later lowerThen
      have sorted := @changePoints_sorted view positions now
      rw [points] at listed sorted
      rcases mem_append.mp listed with first | second
      · exact absurd lowerAlready (by simpa using sooner other first)
      · rcases mem_cons.mp second with rfl | last
        · exact absurd before (not_lt.mpr le)
        · have ordered := (pairwise_cons.mp (pairwise_append.mp sorted).2.1).1 other last
          exact absurd before (not_lt.mpr (ordered.trans le))

/-- A max-locked position whose code expires with the epoch. -/
def sharedUntil (expiry : ℚ) : FreeTierStakePositionView := ⟨1, 1, 0, 0, none, true, true, some expiry⟩

theorem sharedUntil_drops :
    (freeTierOutlook ⟨0, 0, 1⟩ [sharedUntil 1] [⟨1, none⟩] 0).dropsAt = some 1 ∧
      ∀ time, 0 ≤ time → time < 1 → ¬ Lower ⟨0, 0, 1⟩ [sharedUntil 1] [⟨1, none⟩] 0 time := by
  have drops : (freeTierOutlook ⟨0, 0, 1⟩ [sharedUntil 1] [⟨1, none⟩] 0).dropsAt = some 1 := by decide +kernel
  refine ⟨drops, ((outlook_predicts_drop _ _ _ _ ?_).2.1 1 drops).2.1⟩
  exact ⟨by decide +kernel, by decide +kernel, by simp [sharedUntil], by simp [sharedUntil]⟩

theorem freeTierPowerAt_one (position : FreeTierStakePositionView) :
    view.freeTierPowerAt [position] time = ((view.countedAt time position).map Prod.snd).getD 0 := by
  unfold freeTierPowerAt
  cases counted : view.countedAt time position with
  | none => simp [counted, strongest]
  | some => simp [counted, strongest, MAX_FREE_TIER_COUNTED_POSITIONS]

theorem dropsAt_eq_none
    (never : ∀ point ∈ view.changePoints positions now, ¬ view.Lower positions tiers now point.1) :
    (view.freeTierOutlook positions tiers now).dropsAt = none := by
  have found : ((view.changePoints positions now).find? fun point => view.Lower positions tiers now point.1) = none :=
    find?_eq_none.mpr fun point member => by simpa using never point member
  unfold freeTierOutlook
  rw [found]
  dsimp only
  split <;> rfl

/-- One unit, locked for a given number of epochs. -/
def lockedFor (epochs : Int) : FreeTierStakePositionView := ⟨1, 1, 0, epochs, none, false, false, none⟩

/-- Where the view is ahead of the clock the drop is told an epoch late, and it is not told where a max-locked
    position closes, or a lock ends, after the last epoch that is looked at. -/
theorem unforeseen_drops :
    ((freeTierOutlook ⟨5, 0, 1⟩ [lockedFor 5] [⟨1, none⟩] 4).dropsAt = some 6 ∧
        Lower ⟨5, 0, 1⟩ [lockedFor 5] [⟨1, none⟩] 4 5) ∧
      ((freeTierOutlook ⟨0, 0, 1⟩ [{ lockedFor 0 with maxLocked := true, maxLockedNext := true
                                                      closedAtEpoch := some 3 }] [⟨1, none⟩] 0).dropsAt = none ∧
        Lower ⟨0, 0, 1⟩ [{ lockedFor 0 with maxLocked := true, maxLockedNext := true
                                            closedAtEpoch := some 3 }] [⟨1, none⟩] 0 3) ∧
      (freeTierOutlook ⟨0, 0, 1⟩ [lockedFor 1042] [⟨1, none⟩] 0).dropsAt = none ∧
        Lower ⟨0, 0, 1⟩ [lockedFor 1042] [⟨1, none⟩] 0 1042 := by
  refine ⟨by decide +kernel, by decide +kernel, ?_, by decide +kernel⟩
  refine dropsAt_eq_none fun point member lower => ?_
  obtain ⟨later, ⟨epoch, after, last, start⟩ | ⟨_, shared, expires⟩⟩ :=
    mem_changePoints.mp (mem_map_of_mem member)
  · have last : epoch ≤ 1040 := by
      simpa [lastEpoch, lockedFor, FREE_TIER_MAX_LOCK_EPOCHS] using last
    have after : 0 < epoch := after
    have time : point.1 = epoch := start.trans (by simp [freeTierEpochStart])
    have enough : (1 : ℚ) ≤ ((1042 - epoch : Int) : ℚ) := Int.cast_one_le_of_pos (by omega)
    have counted : countedAt ⟨0, 0, 1⟩ epoch (lockedFor 1042) = some (1, ((1042 - epoch : Int) : ℚ)) := by
      have left : max 0 (1042 - epoch) = 1042 - epoch := max_eq_right (by omega)
      simp only [countedAt, epochAt, locked, lockedFor, sub_zero, div_one, Int.floor_intCast, left, ite_self,
        Bool.false_eq_true, if_false, one_mul]
      exact if_pos ⟨nofun, after.le, nofun, lt_of_lt_of_le one_pos enough⟩
    have reached : tierAt ⟨0, 0, 1⟩ [lockedFor 1042] [⟨1, none⟩] point.1 = some (⟨1, none⟩, 0) := by
      rw [tierAt, time, freeTierPowerAt_one, counted]
      simpa [freeTierTierAt] using enough
    have most := rank_lt [⟨1, none⟩] (freeTierPowerAt ⟨0, 0, 1⟩ [lockedFor 1042] 0)
    have lower : rank (tierAt _ _ _ point.1) < rank _ := lower
    rw [reached] at lower
    exact absurd lower (not_lt.mpr (Int.lt_add_one_iff.mp most))
  · cases mem_singleton.mp shared
    cases expires

end FreeTierStakeView

end AntSeed.FreeTier
