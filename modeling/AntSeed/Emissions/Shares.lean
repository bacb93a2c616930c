import AntSeed.Emissions.Gate
import AntSeed.Lib.Proportion

/-! # Emission shares never exceed the whole

The checkpoints of a minter id describe a step function of the epoch. A change
of configuration rewrites it from the next epoch on, where it equals the current
configuration, whose total the setters bound; earlier epochs keep the shares
they had. So the shares of every epoch add up to at most the whole, and no bucket
can exhaust the emission another bucket is entitled to.
-/

namespace AntSeed.Emissions

open Evm Function
open List Nat Finset Gate

def shareOf (checkpoints : List ShareCheckpoint) (epoch : Nat) : Nat :=
  checkpoints.foldl (fun share c => if c.startEpoch ≤ epoch then c.shareBps else share) 0

theorem shareOf_concat (checkpoints : List ShareCheckpoint) (c : ShareCheckpoint) (epoch : Nat) :
    shareOf (checkpoints ++ [c]) epoch =
      if c.startEpoch ≤ epoch then c.shareBps else shareOf checkpoints epoch := by
  simp [shareOf, foldl_append]

/-- Checkpoints in order of their start, none after `n`. -/
structure Ordered (n : Nat) (checkpoints : List ShareCheckpoint) : Prop where
  sorted : checkpoints.Pairwise fun earlier later => earlier.startEpoch < later.startEpoch
  known : ∀ c ∈ checkpoints, c.startEpoch ≤ n

theorem Ordered.nil (n : Nat) : Ordered n [] := ⟨List.Pairwise.nil, nofun⟩

variable {checkpoints : List ShareCheckpoint} {s s' : GateState}

theorem Ordered.mono {n m : Nat} (h : Ordered n checkpoints) (le : n ≤ m) : Ordered m checkpoints :=
  ⟨h.sorted, fun c member => le_trans (h.known c member) le⟩

theorem shareOf_eq (inside : r ≤ checkpoints.length)
    (started : ∀ i c, i < r → checkpoints[i]? = some c → c.startEpoch ≤ e)
    (ahead : ∀ i c, r ≤ i → checkpoints[i]? = some c → e < c.startEpoch) :
    shareOf checkpoints e =
      if r = 0 then 0 else (checkpoints[r - 1]?.map ShareCheckpoint.shareBps).getD 0 := by
  induction checkpoints using reverseRecOn generalizing r with
  | nil =>
    have : r = 0 := by simpa using inside
    simp [this, shareOf]
  | append_singleton init c ih =>
    rw [shareOf_concat]
    rw [length_append, length_singleton] at inside
    by_cases last : r = init.length + 1
    · have here := started init.length c (by omega) (by simp)
      simp [last, here]
    · have later : e < c.startEpoch := ahead init.length c (by omega) (by simp)
      have within : ∀ i, i < init.length → (init ++ [c])[i]? = init[i]? := by
        intro i small
        simp [getElem?_append_left small]
      rw [if_neg (by omega), ih (r := r) (by omega) ?_ ?_]
      · by_cases zero : r = 0
        · simp [zero]
        · rw [if_neg zero, if_neg zero, within (r - 1) (by omega)]
      · intro i d small found
        exact started i d small (by rw [within i (by omega), found])
      · intro i d large found
        have small : i < init.length := (List.getElem?_eq_some_iff.mp found).1
        exact ahead i d large (by rw [within i small, found])

theorem shareBpsAt_eq (ordered : Ordered n checkpoints) (epoch : Nat) :
    shareBpsAt checkpoints epoch = .ok (shareOf checkpoints epoch) := by
  have order : ∀ {i j : Nat} {c d : ShareCheckpoint}, i < j → checkpoints[i]? = some c →
      checkpoints[j]? = some d → c.startEpoch < d.startEpoch := by
    intro i j c d less foundI foundJ
    obtain ⟨insideI, rfl⟩ := List.getElem?_eq_some_iff.mp foundI
    obtain ⟨insideJ, rfl⟩ := List.getElem?_eq_some_iff.mp foundJ
    exact List.pairwise_iff_getElem.mp ordered.sorted i j insideI insideJ less
  cases shape : checkpoints with
  | nil => rfl
  | cons first =>
    have zeroth : checkpoints[0]? = some first := by rw [shape]; rfl
    simp only [shareBpsAt]
    rw [← shape]
    split
    next early =>
      have ahead : ∀ i c, 0 ≤ i → checkpoints[i]? = some c → epoch < c.startEpoch := by
        intro i c _ found
        rcases Nat.eq_zero_or_pos i with rfl | positive
        · rw [zeroth] at found
          cases found
          exact early
        · exact Nat.lt_trans early (order positive zeroth found)
      rw [shareOf_eq (r := 0) (Nat.zero_le _) (fun i c small => absurd small (Nat.not_lt_zero i)) ahead]
      rfl
    next begun =>
      let below : Nat → Bool := fun i => (checkpoints[i]?).any fun c => c.startEpoch ≤ epoch
      have read : ∀ {i : Nat} {c : ShareCheckpoint}, checkpoints[i]? = some c →
          below i = decide (c.startEpoch ≤ epoch) := by
        intro i c found
        simp only [below, found, Option.any_some]
      obtain ⟨r, found, inside, left, right⟩ :=
        upperBound_spec (b := below) (n := checkpoints.length) (k := checkpoints.length)
          (f := fun mid => do
            let c ← readCheckpoint checkpoints mid
            pure (decide (c.startEpoch ≤ epoch)))
          (by
            intro i small
            have found := List.getElem?_eq_getElem small
            rw [read found]
            simp only [readCheckpoint, found, ok_bind]
            rfl)
          (by
            intro i j le small isBelow
            have foundI := List.getElem?_eq_getElem (Nat.lt_of_le_of_lt le small)
            have foundJ := List.getElem?_eq_getElem small
            rw [read foundJ, decide_eq_true_iff] at isBelow
            rw [read foundI, decide_eq_true_iff]
            rcases Nat.lt_or_eq_of_le le with less | rfl
            · exact Nat.le_of_lt (Nat.lt_of_lt_of_le (order less foundI foundJ) isBelow)
            · exact isBelow)
          (Nat.zero_le _) (Nat.le_refl _) (by omega) (fun i small => absurd small (Nat.not_lt_zero i)) (by omega)
      have positive : r ≠ 0 := by
        rintro rfl
        have isAhead := right 0 (Nat.le_refl 0) (by simp [shape])
        rw [read zeroth, decide_eq_false_iff_not] at isAhead
        exact begun (by omega)
      have value := shareOf_eq (e := epoch) inside
        (fun i c small isC => by
          have := left i small
          rwa [read isC, decide_eq_true_iff] at this)
        (fun i c large isC => by
          have small := (List.getElem?_eq_some_iff.mp isC).1
          have := right i large small
          rw [read isC, decide_eq_false_iff_not] at this
          omega)
      rw [found, ok_bind, value, if_neg positive]
      obtain ⟨c, isC⟩ : ∃ c, checkpoints[r - 1]? = some c :=
        ⟨_, List.getElem?_eq_getElem (by omega)⟩
      refine bind_eq_ok.mpr ⟨r - 1, sub_eq_ok.mpr ⟨by omega, rfl⟩, ?_⟩
      simp only [readCheckpoint, isC, ok_bind]
      rfl

theorem recordMinterShare_spec {n s : Nat} (ordered : Ordered n checkpoints) :
    Ordered n (recordMinterShare checkpoints n s) ∧
      ∀ epoch, shareOf (recordMinterShare checkpoints n s) epoch =
        if n ≤ epoch then s else shareOf checkpoints epoch := by
  unfold recordMinterShare
  rcases eq_nil_or_concat checkpoints with rfl | ⟨init, last, rfl⟩
  · exact ⟨⟨pairwise_singleton _ _, by simp⟩, fun epoch => shareOf_concat [] _ epoch⟩
  · obtain ⟨sorted, known⟩ := ordered
    rw [concat_eq_append] at sorted known ⊢
    obtain ⟨initSorted, -, below⟩ := pairwise_append.mp sorted
    have lastKnown := known last (by simp)
    rw [getLast?_concat, dropLast_concat]
    dsimp only
    split
    next same =>
      refine ⟨⟨pairwise_append.mpr ⟨initSorted, pairwise_singleton _ _, ?_⟩, ?_⟩, ?_⟩
      · intro c member d isNew
        rw [List.mem_singleton.mp isNew]
        exact same ▸ below c member last (by simp)
      · intro c member
        rcases mem_append.mp member with old | new
        · exact known c (by simp [old])
        · simp [List.mem_singleton.mp new]
      · intro epoch
        rw [shareOf_concat, shareOf_concat, same]
        split <;> rfl
    next different =>
      refine ⟨⟨pairwise_append.mpr ⟨sorted, pairwise_singleton _ _, ?_⟩, ?_⟩, ?_⟩
      · intro c member d isNew
        rw [List.mem_singleton.mp isNew]
        rcases mem_append.mp member with old | newest
        · have := below c old last (by simp)
          simp only
          omega
        · rw [List.mem_singleton.mp newest]
          simp only
          omega
      · intro c member
        rcases mem_append.mp member with old | new
        · exact known c old
        · simp [List.mem_singleton.mp new]
      · exact fun epoch => shareOf_concat _ _ epoch

namespace Gate

def share (g : Gate) (id : Word) (epoch : Nat) : Nat := shareOf (g.minterShareCheckpoints id) epoch

/-- What holds of the shares in epoch `c`. -/
structure Shared (c : Nat) (g : Gate) : Prop where
  ordered : ∀ id, Ordered (c + 1) (g.minterShareCheckpoints id)
  latest : ∀ id e, c < e → g.share id e = (g.minters id).shareBps
  absent : ∀ id, (g.minters id).controller = 0 → (g.minters id).shareBps = 0
  total : ∑ id, (g.minters id).shareBps = g.totalMinterShareBps
  cap : g.totalMinterShareBps ≤ shareDenominator
  bounded : ∀ e, ∑ id, g.share id e ≤ shareDenominator

variable {c : Nat} {g g' : Gate}

theorem Shared.mono {c' : Nat} (h : Shared c g) (le : c ≤ c') : Shared c' g where
  ordered id := (h.ordered id).mono (by omega)
  latest id e later := h.latest id e (by omega)
  absent := h.absent
  total := h.total
  cap := h.cap
  bounded := h.bounded

theorem Shared.minterShareBpsAt (h : Shared c g) (id : Word) (e : Nat) :
    g.minterShareBpsAt id e = .ok (g.share id e) := shareBpsAt_eq (h.ordered id) e

/-- What the configuration calls do to the shares: they stay sound, and no share of an epoch
    that has begun changes. -/
structure Reconfigures (c : Nat) (g g' : Gate) : Prop where
  shared : Shared c g'
  frozen : ∀ q e, e ≤ c → g'.share q e = g.share q e
  minted : g'.minterEpochMinted = g.minterEpochMinted
  epochMinted : g'.epochMinted = g.epochMinted
  escrow : g'.legacyEscrow = g.legacyEscrow
  effective : g'.effectiveEpoch = g.effectiveEpoch

variable {id : Word} {controller sender target : Address} {amount epoch now : Nat} {ants : Erc20}

theorem reconfigures_record (h : Shared c g) (minters : g'.minters = update g.minters id m)
    (checkpoints : g'.minterShareCheckpoints = update g.minterShareCheckpoints id
      (recordMinterShare (g.minterShareCheckpoints id) (c + 1) m.shareBps))
    (present : m.controller ≠ 0) (total : g'.totalMinterShareBps + (g.minters id).shareBps =
      g.totalMinterShareBps + m.shareBps) (cap : g'.totalMinterShareBps ≤ shareDenominator)
    (minted : g'.minterEpochMinted = g.minterEpochMinted)
    (epochMinted : g'.epochMinted = g.epochMinted) (escrow : g'.legacyEscrow = g.legacyEscrow)
    (effective : g'.effectiveEpoch = g.effectiveEpoch) : Reconfigures c g g' := by
  obtain ⟨recordOrdered, recordShare⟩ := recordMinterShare_spec (s := m.shareBps) (h.ordered id)
  have shares : ∀ q e, g'.share q e = if q = id ∧ c < e then m.shareBps else g.share q e := by
    intro q e
    unfold share
    rw [checkpoints]
    by_cases here : q = id
    · subst here
      rw [update_self, recordShare]
      simp only [true_and, succ_le_iff]
    · rw [update_of_ne here, if_neg fun both => here both.1]
  have frozen : ∀ q e, e ≤ c → g'.share q e = g.share q e := by
    intro q e early
    rw [shares, if_neg (by omega)]
  have latest : ∀ q e, c < e → g'.share q e = (g'.minters q).shareBps := by
    intro q e later
    rw [shares, minters]
    by_cases here : q = id
    · subst here
      rw [if_pos ⟨rfl, later⟩, update_self]
    · rw [if_neg fun both => here both.1, update_of_ne here, h.latest q e later]
  have sum : ∑ q, (g'.minters q).shareBps = g'.totalMinterShareBps := by
    have moved := sum_update_add (fun _ (x : Minter) => x.shareBps) g.minters m (mem_univ id)
    rw [minters]
    have old := h.total
    omega
  refine ⟨⟨?_, latest, ?_, sum, cap, ?_⟩, frozen, minted, epochMinted, escrow, effective⟩
  · intro q
    rw [checkpoints]
    by_cases here : q = id
    · subst here
      rwa [update_self]
    · rw [update_of_ne here]
      exact h.ordered q
  · intro q zero
    rw [minters] at zero ⊢
    by_cases here : q = id
    · subst here
      rw [update_self] at zero
      exact absurd zero present
    · rw [update_of_ne here] at zero ⊢
      exact h.absent q zero
  · intro e
    by_cases early : e ≤ c
    · rw [sum_congr rfl fun q _ => frozen q e early]
      exact h.bounded e
    · rw [sum_congr rfl fun q _ => latest q e (by omega), sum]
      exact cap

theorem setMinterAs_ok {editable : Bool}
    (set : g.setMinterAs now id controller shareBps editable = .ok g') :
    (id ≠ 0 ∧ controller ≠ 0 ∧
      ¬ (g.controllerMinterIds controller ≠ 0 ∧ g.controllerMinterIds controller ≠ id)) ∧
    ∃ previous, previous = (if (g.minters id).controller = 0 then 0 else (g.minters id).shareBps) ∧
      previous ≤ g.totalMinterShareBps ∧
      g.totalMinterShareBps - previous + shareBps ≤ shareDenominator ∧
      g' = { g with
        controllerMinterIds := update
          (if (g.minters id).controller ≠ 0 ∧ (g.minters id).controller ≠ controller then
            update g.controllerMinterIds (g.minters id).controller 0
          else g.controllerMinterIds) controller id
        totalMinterShareBps := g.totalMinterShareBps - previous + shareBps
        minters := update g.minters id ⟨controller, shareBps, editable⟩
        minterShareCheckpoints := update g.minterShareCheckpoints id
          (recordMinterShare (g.minterShareCheckpoints id) (currentEpoch now + 1) shareBps) } := by
  obtain ⟨_, named, set⟩ := ran set
  obtain ⟨_, present, set⟩ := ran set
  replace set := rest_ok set
  replace set := rest_ok set
  obtain ⟨_, free, set⟩ := ran set
  obtain ⟨others, isOthers, set⟩ := ran set
  replace set := uint_rest set
  obtain ⟨_, cap, set⟩ := ran set
  replace set := uint_rest set
  cases set
  obtain ⟨enough, rfl⟩ := sub_eq_ok.mp isOthers
  exact ⟨⟨require_eq_ok.mp named, require_eq_ok.mp present, require_eq_ok.mp free⟩, _, rfl, enough,
    require_eq_ok.mp cap, rfl⟩

theorem reconfigures_setMinterAs (h : Shared (currentEpoch now) g)
    (set : g.setMinterAs now id controller shareBps editable = .ok g') :
    Reconfigures (currentEpoch now) g g' := by
  obtain ⟨⟨-, present, -⟩, previous, isPrevious, enough, cap, rfl⟩ := setMinterAs_ok set
  have recorded : previous = (g.minters id).shareBps := by
    rw [isPrevious]
    split
    next zero => exact (h.absent id zero).symm
    · rfl
  refine reconfigures_record (m := ⟨controller, shareBps, editable⟩) h rfl rfl present ?_ cap rfl rfl
    rfl rfl
  simp only
  omega

theorem reconfigures_removeMinter (h : Shared (currentEpoch now) g)
    (removed : g.removeMinter now sender id = .ok g') : Reconfigures (currentEpoch now) g g' := by
  replace removed := rest_ok removed
  replace removed := rest_ok removed
  obtain ⟨_, present, removed⟩ := ran removed
  replace removed := rest_ok removed
  obtain ⟨total, isTotal, removed⟩ := ran removed
  replace removed := uint_rest removed
  cases removed
  obtain ⟨enough, rfl⟩ := sub_eq_ok.mp isTotal
  have cap := h.cap
  refine reconfigures_record (m := ⟨(g.minters id).controller, 0, (g.minters id).editable⟩) h rfl
    rfl (require_eq_ok.mp present) ?_ ?_ rfl rfl rfl rfl
  · simp only
    omega
  · simp only
    omega

theorem reconfigures_of_same (h : Shared c g)
    (checkpoints : g'.minterShareCheckpoints = g.minterShareCheckpoints)
    (minters : g'.minters = g.minters) (total : g'.totalMinterShareBps = g.totalMinterShareBps)
    (minted : g'.minterEpochMinted = g.minterEpochMinted)
    (epochMinted : g'.epochMinted = g.epochMinted) (escrow : g'.legacyEscrow = g.legacyEscrow)
    (effective : g'.effectiveEpoch = g.effectiveEpoch) : Reconfigures c g g' := by
  have shares : ∀ q e, g'.share q e = g.share q e := fun q e => by
    unfold share
    rw [checkpoints]
  refine ⟨⟨?_, ?_, ?_, ?_, ?_, ?_⟩, fun q e _ => shares q e, minted, epochMinted, escrow, effective⟩
  · rw [checkpoints]
    exact h.ordered
  · intro q e later
    rw [shares, minters, h.latest q e later]
  · rw [minters]
    exact h.absent
  · rw [minters, total, h.total]
  · rw [total]
    exact h.cap
  · intro e
    simp only [shares]
    exact h.bounded e

theorem reconfigures_setMinterController (h : Shared c g)
    (set : g.setMinterController sender id controller = .ok g') : Reconfigures c g g' := by
  replace set := rest_ok set
  replace set := rest_ok set
  obtain ⟨_, present, set⟩ := ran set
  replace set := rest_ok set
  replace set := rest_ok set
  split at set
  · cases set
    have same : ∀ q, (update g.minters id
        ⟨controller, (g.minters id).shareBps, (g.minters id).editable⟩ q).shareBps =
        (g.minters q).shareBps := by
      intro q
      by_cases here : q = id
      · subst here
        rw [update_self]
      · rw [update_of_ne here]
    refine ⟨⟨h.ordered, ?_, ?_, ?_, h.cap, h.bounded⟩, fun _ _ _ => rfl, rfl, rfl, rfl, rfl⟩
    · intro q e later
      exact (h.latest q e later).trans (same q).symm
    · intro q zero
      dsimp only at zero ⊢
      by_cases here : q = id
      · subst here
        rw [update_self] at zero
        exact absurd zero (require_eq_ok.mp present)
      · rw [update_of_ne here] at zero ⊢
        exact h.absent q zero
    · exact (sum_congr rfl fun q _ => same q).trans h.total
  · cases set
    exact reconfigures_of_same h rfl rfl rfl rfl rfl rfl rfl

/-- What holds of the minted amounts in epoch `c`. -/
structure Minted (c : Nat) (g : Gate) : Prop where
  budget : ∀ id e, g.minterEpochMinted id e ≤ shareBudget e (g.share id e)
  finalized : ∀ id e, c ≤ e → g.minterEpochMinted id e = 0
  sum : ∀ e, ∑ id, g.minterEpochMinted id e = g.epochMinted e

theorem Minted.mono {c' : Nat} (h : Minted c g) (le : c ≤ c') : Minted c' g :=
  ⟨h.budget, fun id e later => h.finalized id e (by omega), h.sum⟩

theorem Minted.reconfigured (h : Minted c g) (reconfigures : Reconfigures c g g') : Minted c g' where
  budget id e := by
    rw [reconfigures.minted]
    by_cases begun : e ≤ c
    · rw [reconfigures.frozen id e begun]
      exact h.budget id e
    · rw [h.finalized id e (by omega)]
      exact zero_le _
  finalized id e later := by
    rw [reconfigures.minted]
    exact h.finalized id e later
  sum e := by
    rw [reconfigures.minted, reconfigures.epochMinted]
    exact h.sum e

theorem Shared.sum_budget_le (h : Shared c g) (e : Nat) :
    ∑ id, shareBudget e (g.share id e) ≤ getEpochEmission e :=
  sum_share_le univ _ (by decide) (h.bounded e)

/-- What a charge has done. -/
structure Charges (c : Nat) (g g' : Gate) (id : Word) (epoch amount : Nat) : Prop where
  finalized : epoch < c
  effective : g.effectiveEpoch ≤ epoch
  funded : g.legacyEscrow ≠ 0
  result : g' = { g with
    minterEpochMinted := update g.minterEpochMinted id
      (update (g.minterEpochMinted id) epoch (g.minterEpochMinted id epoch + amount))
    epochMinted := update g.epochMinted epoch (g.epochMinted epoch + amount) }
  within : g.minterEpochMinted id epoch + amount ≤ shareBudget epoch (g.share id epoch)
  capped : g.epochMinted epoch + amount ≤ getEpochEmission epoch

theorem chargeMinterBudget_meets (shared : Shared (currentEpoch now) g)
    (minted : Minted (currentEpoch now) g) :
    Meets (g.chargeMinterBudget now id controller epoch amount)
      (fun r => r ≠ .custom .epochEmissionExceeded)
      fun g' => Charges (currentEpoch now) g g' id epoch amount := by
  apply Meets.check nofun
  apply Meets.check nofun
  apply Meets.require nofun
  intro finalized
  apply Meets.require nofun
  intro effective
  apply Meets.require nofun
  intro funded
  apply Meets.uint nofun
  intro _
  rw [shared.minterShareBpsAt id epoch, ok_bind]
  apply Meets.require nofun
  intro within
  apply Meets.uint nofun
  intro _
  have capped : g.epochMinted epoch + amount ≤ getEpochEmission epoch := by
    calc g.epochMinted epoch + amount
        = (∑ q, g.minterEpochMinted q epoch) + amount := by rw [minted.sum epoch]
      _ = ∑ q, update (fun q => g.minterEpochMinted q epoch) id
            (g.minterEpochMinted id epoch + amount) q := by
          have moved := sum_update_add (fun _ (x : Nat) => x) (fun q => g.minterEpochMinted q epoch)
            (g.minterEpochMinted id epoch + amount) (Finset.mem_univ id)
          omega
      _ ≤ ∑ q, shareBudget epoch (g.share q epoch) := by
          refine Finset.sum_le_sum fun q _ => ?_
          by_cases here : q = id
          · subst here
            rw [update_self]
            exact within
          · rw [update_of_ne here]
            exact minted.budget q epoch
      _ ≤ getEpochEmission epoch := shared.sum_budget_le epoch
  unfold Evm.require
  rw [if_pos capped]
  exact .pure ⟨finalized, effective, funded, rfl, within, capped⟩

section

variable (charges : Charges c g g' id epoch amount)

include charges

theorem Charges.share (q : Word) (e : Nat) :
    g'.share q e = g.share q e := by
  rw [charges.result]
  rfl

theorem Charges.shared (h : Shared c g) : Shared c g' := by
  rw [charges.result]
  exact ⟨h.ordered, h.latest, h.absent, h.total, h.cap, h.bounded⟩

theorem Charges.minted (h : Minted c g) : Minted c g' := by
  have entry : ∀ q e, g'.minterEpochMinted q e =
      if q = id ∧ e = epoch then g.minterEpochMinted id epoch + amount
      else g.minterEpochMinted q e := by
    intro q e
    rw [charges.result]
    by_cases here : q = id
    · subst here
      by_cases isThat : e = epoch
      · subst isThat
        simp
      · simp [isThat]
    · simp [here]
  refine ⟨?_, ?_, ?_⟩
  · intro q e
    rw [entry, charges.share]
    split
    next both =>
      obtain ⟨rfl, rfl⟩ := both
      exact charges.within
    · exact h.budget q e
  · intro q e later
    have := charges.finalized
    rw [entry, if_neg (by omega)]
    exact h.finalized q e later
  · intro e
    have total : g'.epochMinted e =
        if e = epoch then g.epochMinted epoch + amount else g.epochMinted e := by
      rw [charges.result]
      by_cases isThat : e = epoch
      · subst isThat
        simp
      · simp [isThat]
    rw [total]
    by_cases isThat : e = epoch
    · subst isThat
      have moved := sum_update_add (fun _ (x : Nat) => x) (fun q => g.minterEpochMinted q e)
        (g.minterEpochMinted id e + amount) (mem_univ id)
      have same : ∑ q, g'.minterEpochMinted q e = ∑ q, update (fun q => g.minterEpochMinted q e) id
          (g.minterEpochMinted id e + amount) q := by
        refine sum_congr rfl fun q _ => ?_
        rw [entry]
        by_cases here : q = id
        · subst here
          simp
        · simp [here]
      have old := h.sum e
      rw [if_pos rfl]
      omega
    · rw [if_neg isThat, ← h.sum e]
      refine sum_congr rfl fun q _ => ?_
      rw [entry, if_neg fun both => isThat both.2]

end

theorem antsMint_meets :
    Meets (antsMint ants target amount) (fun r => r ≠ .custom .epochEmissionExceeded)
      fun ants' => ants'.totalSupply = ants.totalSupply + amount := by
  apply Meets.require nofun
  intro target
  apply Meets.uint nofun
  intro fits
  apply Meets.check nofun
  unfold Erc20.mint
  rw [if_neg target]
  apply Meets.uint nofun
  intro _
  exact .pure rfl

theorem mintNonzero_meets :
    Meets (mintNonzero ants target amount) (fun r => r ≠ .custom .epochEmissionExceeded)
      fun ants' => ants'.totalSupply = ants.totalSupply + amount := by
  apply Meets.ite
  · exact fun _ => antsMint_meets
  · intro zero
    exact .pure (by omega)

/-- The gate after a charge, up to the burn record, and the tokens it minted. -/
structure Claimed (c : Nat) (g g' : Gate) (ants ants' : Erc20) (id : Word) (epoch amount : Nat) :
    Prop where
  charges : ∃ charged, Charges c g charged id epoch amount ∧
    g' = { charged with epochBurnedAmount := g'.epochBurnedAmount }
  supply : ants'.totalSupply = ants.totalSupply + amount

theorem claim_meets (shared : Shared (currentEpoch now) g)
    (minted : Minted (currentEpoch now) g) :
    Meets (g.claim ants now sender epoch recipient amount) (fun r => r ≠ .custom .epochEmissionExceeded)
      fun result => Claimed (currentEpoch now) g result.1 ants result.2
        (g.controllerMinterIds sender) epoch amount := by
  apply Meets.check nofun
  refine .bind (chargeMinterBudget_meets shared minted) fun charged charges => ?_
  refine .bind antsMint_meets fun ants' supply => ?_
  exact .pure ⟨⟨charged, charges, rfl⟩, supply⟩

theorem burnedPart_le (g : Gate) (epoch amount : Nat) : g.burnedPart epoch amount ≤ amount := by
  simp only [burnedPart]
  split
  · split <;> omega
  · exact zero_le _

theorem claimRemainder_meets
    (shared : Shared (currentEpoch now) g) (minted : Minted (currentEpoch now) g) :
    Meets (g.claimRemainder ants now sender epoch reserveRecipient amount)
      (fun r => r ≠ .custom .epochEmissionExceeded)
      fun result => Claimed (currentEpoch now) g result.1 ants result.2.1
        (g.controllerMinterIds sender) epoch amount := by
  apply Meets.check nofun
  apply Meets.check nofun
  refine .bind (chargeMinterBudget_meets shared minted) fun charged charges => ?_
  apply Meets.uint nofun
  intro _
  have part := charged.burnedPart_le epoch amount
  apply Meets.sub part
  refine .bind mintNonzero_meets fun burned first => ?_
  refine .bind mintNonzero_meets fun ants' second => ?_
  exact .pure ⟨⟨charged, charges, rfl⟩, by rw [second, first]; omega⟩

end Gate

inductive GateMove (op : GateOperation) (s s' : GateState) : Prop where
  | configured (reconfigures : Gate.Reconfigures (currentEpoch s.now) s.gate s'.gate)
      (now : s'.now = s.now) (supply : s'.ants.totalSupply = s.ants.totalSupply)
  | claimed (id : Word) (epoch : Nat) (recipient : Address) (amount : Nat)
      (asked : op = .claim epoch recipient amount ∨ op = .claimRemainder epoch recipient amount)
      (claimed : Gate.Claimed (currentEpoch s.now) s.gate s'.gate s.ants s'.ants id epoch amount)
      (now : s'.now = s.now)
  | funded (escrow : Address) (asked : op = .fundLegacyEscrow escrow) (some : escrow ≠ 0) (unfunded : s.gate.legacyEscrow = 0)
      (gate : s'.gate = { s.gate with legacyEscrow := escrow }) (now : s'.now = s.now)
      (supply : s'.ants.totalSupply =
        max s.ants.totalSupply (cumulativeEmissionThrough s.gate.effectiveEpoch))
  | idle (now : s.now ≤ s'.now) (gate : s'.gate = s.gate)
      (supply : s'.ants.totalSupply = s.ants.totalSupply)

structure Orderly (s : GateState) : Prop where
  shared : Gate.Shared (currentEpoch s.now) s.gate
  minted : Gate.Minted (currentEpoch s.now) s.gate

theorem step_moves (orderly : Orderly s) (h : s.step call = .ok s') :
    GateMove call.op s s' := by
  have step := gateStep h
  generalize call.op = op at step
  cases step with
  | setMinter set =>
    exact .configured (reconfigures_setMinterAs orderly.shared set) rfl rfl
  | setMinterController set =>
    exact .configured (reconfigures_setMinterController orderly.shared set) rfl rfl
  | removeMinter removed =>
    exact .configured (reconfigures_removeMinter orderly.shared removed) rfl rfl
  | claim claimed =>
    exact .claimed _ _ _ _ (.inl rfl)
      ((claim_meets orderly.shared orderly.minted).result claimed) rfl
  | claimRemainder claimed =>
    exact .claimed _ _ _ _ (.inr rfl)
      ((claimRemainder_meets orderly.shared orderly.minted).result claimed) rfl
  | fundLegacyEscrow some unfunded scheduled minting =>
    exact .funded _ rfl some unfunded rfl rfl ((mintNonzero_meets.result minting).trans scheduled)
  | owned =>
    exact .configured (reconfigures_of_same orderly.shared rfl rfl rfl rfl rfl rfl rfl) rfl rfl
  | idle _ now supply => exact .idle now rfl supply

theorem GateMove.orderly (move : GateMove op s s') (h : Orderly s) :
    Orderly s' := by
  cases move with
  | configured reconfigures now =>
    exact ⟨now ▸ reconfigures.shared, now ▸ h.minted.reconfigured reconfigures⟩
  | claimed id epoch recipient amount asked claimed now =>
    obtain ⟨charged, charges, same⟩ := claimed.charges
    have shared := charges.shared h.shared
    have minted := charges.minted h.minted
    refine ⟨?_, ?_⟩
    · rw [now, same]
      exact ⟨shared.ordered, shared.latest, shared.absent, shared.total, shared.cap, shared.bounded⟩
    · rw [now, same]
      exact ⟨minted.budget, minted.finalized, minted.sum⟩
  | funded escrow asked some unfunded gate now =>
    have shared := h.shared
    have minted := h.minted
    refine ⟨?_, ?_⟩
    · rw [now, gate]
      exact ⟨shared.ordered, shared.latest, shared.absent, shared.total, shared.cap, shared.bounded⟩
    · rw [now, gate]
      exact ⟨minted.budget, minted.finalized, minted.sum⟩
  | idle now gate =>
    have later := currentEpoch_mono now
    exact ⟨gate ▸ h.shared.mono later, gate ▸ h.minted.mono later⟩

theorem shared_initial (c effectiveEpoch : Nat) (owner : Address) :
    Gate.Shared c { effectiveEpoch := effectiveEpoch, owner := owner } where
  ordered _ := .nil _
  latest _ _ _ := rfl
  absent _ _ := rfl
  total := by simp [default]
  cap := zero_le _
  bounded e := by simp [share, shareOf]

theorem orderly_construct (ants : Erc20)
    (h : construct now sender teamWallet protocolReserve teamShareBps reserveShareBps = .ok g) :
    Orderly ⟨now, g, ants⟩ ∧ g.legacyEscrow = 0 ∧ g.epochMinted = (fun _ => 0) ∧
      g.effectiveEpoch = currentEpoch now + 1 := by
  replace h := rest_ok h
  replace h := rest_ok h
  replace h := rest_ok h
  replace h := uint_rest h
  obtain ⟨team, setTeam, setReserve⟩ := ran h
  have first := reconfigures_setMinterAs (shared_initial _ _ _) setTeam
  have second := reconfigures_setMinterAs first.shared setReserve
  have nothing : Gate.Minted (currentEpoch now)
      ({ effectiveEpoch := currentEpoch now + 1, owner := sender } : Gate) :=
    ⟨fun _ _ => zero_le _, fun _ _ _ => rfl, fun e => by simp⟩
  exact ⟨⟨second.shared, (nothing.reconfigured first).reconfigured second⟩,
    second.escrow.trans first.escrow, second.epochMinted.trans first.epochMinted,
    second.effective.trans first.effective⟩

theorem run_orderly (h : Orderly s) (calls : List GateCall) : Orderly (gateMachine.run s calls) :=
  gateMachine.run_invariant (fun _ _ _ holds taken => (step_moves holds taken).orderly holds) h calls

/-- In every state the gate can reach from its constructor, the shares of every epoch add up
    to at most the whole, and no claim is refused for the emission of an epoch once it has
    passed the check of its own bucket. -/
theorem shares_never_exceed_whole (now : Nat)
    (sender teamWallet protocolReserve : Address) (teamShareBps reserveShareBps : Nat) (g : Gate)
    (ants : Erc20)
    (deployed : construct now sender teamWallet protocolReserve teamShareBps reserveShareBps =
      .ok g)
    (calls : List GateCall) :
    let s := gateMachine.run ⟨now, g, ants⟩ calls
    (∀ e, ∃ share : Word → Nat, (∀ id, s.gate.minterShareBpsAt id e = .ok (share id)) ∧
      ∑ id, share id ≤ shareDenominator) ∧
    ∀ caller epoch recipient amount,
      s.gate.claim s.ants s.now caller epoch recipient amount ≠ .error (.custom .epochEmissionExceeded) ∧
      s.gate.claimRemainder s.ants s.now caller epoch recipient amount ≠
        .error (.custom .epochEmissionExceeded) := by
  intro s
  have orderly : Orderly s := run_orderly (orderly_construct ants deployed).1 calls
  refine ⟨fun e => ⟨fun id => s.gate.share id e, fun id => orderly.shared.minterShareBpsAt id e,
    orderly.shared.bounded e⟩, fun caller epoch recipient amount => ⟨fun refused => ?_, fun refused => ?_⟩⟩
  · exact (claim_meets orderly.shared orderly.minted).reason refused rfl
  · exact (claimRemainder_meets orderly.shared orderly.minted).reason refused rfl

/-- A launch: the shares are set, a week passes twice, the escrow is funded, and the team
    claims its first epoch. -/
def launch : List GateCall :=
  [⟨⟨9⟩, .setMinter ⟨77⟩ ⟨3⟩ 70000 true⟩, ⟨⟨9⟩, .fundLegacyEscrow ⟨4⟩⟩,
    ⟨⟨9⟩, .elapse (2 * epochDuration)⟩, ⟨⟨1⟩, .claim 1 ⟨1⟩ 1000⟩]

theorem launch_deploys : ∃ g, construct genesis ⟨9⟩ ⟨1⟩ ⟨2⟩ 10000 20000 = .ok g := by
  have succeeds :
      (construct genesis ⟨9⟩ ⟨1⟩ ⟨2⟩ 10000 20000).toOption.isSome = true := by decide +kernel
  cases deployed : construct genesis ⟨9⟩ ⟨1⟩ ⟨2⟩ 10000 20000 with
  | ok g => exact ⟨g, rfl⟩
  | error =>
    rw [deployed] at succeeds
    cases succeeds

theorem launch_shares : ∃ g, construct genesis ⟨9⟩ ⟨1⟩ ⟨2⟩ 10000 20000 = .ok g ∧
    ∃ share : Word → Nat,
      (∀ id, (gateMachine.run ⟨genesis, g, .empty⟩ launch).gate.minterShareBpsAt id 1 =
        .ok (share id)) ∧ ∑ id, share id ≤ shareDenominator := by
  obtain ⟨g, deployed⟩ := launch_deploys
  exact ⟨g, deployed,
    (shares_never_exceed_whole genesis ⟨9⟩ ⟨1⟩ ⟨2⟩ 10000 20000 g .empty deployed launch).1 1⟩

end AntSeed.Emissions
