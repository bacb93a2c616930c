import AntSeed.Verification.AntseedVerification
import Mathlib.Algebra.BigOperators.Intervals

/-! # Counters of verdicts

The counters of an agent say how many of its services have a verdict given in an
epoch. Whatever replaces the record of a service, an audit, another model or the
owner, first takes the old verdict out of its counter and then puts the new one
in, so the counters always agree with the records, and a status that sums the
counters of the last epochs counts the verdicts that are still live.
-/

namespace AntSeed.Verification

open Evm Emissions
open Function
open Meets AntseedVerification
open Nat EpochCounts Finset

def Verdict.Counts (v : Verdict) : Prop := v = .same ∨ v = .diff

/-- The counter of a verdict. -/
def EpochCounts.of (counts : EpochCounts) : Verdict → Nat
  | .same => counts.same
  | .diff => counts.diff
  | _ => 0

def ServiceStatus.Says (service : ServiceStatus) (v : Verdict) (e : Nat) : Prop :=
  service.verdict = v ∧ service.epoch = e

instance (service : ServiceStatus) (v : Verdict) (e : Nat) : Decidable (service.Says v e) :=
  inferInstanceAs (Decidable (_ ∧ _))

def NotUnderflow (r : Revert VerificationError) : Prop := r ≠ .underflow

namespace AntseedVerification

variable {s s' t : AntseedVerification} {now : Nat} {agentId serviceHash modelHash : Word}

/-- Only records and counters differ. -/
def SameBesides (s s' : AntseedVerification) : Prop :=
  s' = { s with serviceStatus := s'.serviceStatus, epochCounts := s'.epochCounts }

theorem SameBesides.refl (s : AntseedVerification) : SameBesides s s := rfl

theorem SameBesides.trans (first : SameBesides s t) (second : SameBesides t s') : SameBesides s s' := by
  unfold SameBesides at *
  rw [second, first]

/-- Counters are 32-bit numbers. -/
def Fits (s : AntseedVerification) : Prop :=
  ∀ a e v, v.Counts → (s.epochCounts a e).of v < 2 ^ 32

/-- The record of a service was replaced, and the counters followed. -/
structure Replaces (agentId serviceHash : Word) (new : ServiceStatus) (s s' : AntseedVerification) :
    Prop where
  besides : SameBesides s s'
  records : s'.serviceStatus = update s.serviceStatus agentId
    (update (s.serviceStatus agentId) serviceHash new)
  counters : ∀ a e v, v.Counts → (s'.epochCounts a e).of v +
      (if a = agentId ∧ (s.serviceStatus agentId serviceHash).Says v e then 1 else 0) =
    (s.epochCounts a e).of v + if a = agentId ∧ new.Says v e then 1 else 0
  fits : s.Fits → s'.Fits

theorem of_setCounts (s : AntseedVerification) (agentId a : Word) (epoch e : Nat)
    (counts : EpochCounts) (v : Verdict) :
    ((s.setCounts agentId epoch counts).epochCounts a e).of v =
      if a = agentId ∧ e = epoch then counts.of v else (s.epochCounts a e).of v := by
  unfold setCounts
  by_cases here : a = agentId
  · subst here
    by_cases now : e = epoch
    · subst now
      simp
    · simp [now]
  · simp [here]

variable {counts : EpochCounts} {epoch : Nat} {v verdict w : Verdict} {new service : ServiceStatus}
  {auditor sender : Address} {ctx : AuditContext} {cursor : AuditCursor}
  {results : List ServiceResult}

theorem of_setCounts_out (positive : 0 < (s.epochCounts agentId epoch).of w)
    (less : ∀ v, counts.of v = (s.epochCounts agentId epoch).of v - if v = w then 1 else 0)
    (a : Word) (e : Nat) (v : Verdict) :
    ((s.setCounts agentId epoch counts).epochCounts a e).of v +
      (if a = agentId ∧ w = v ∧ epoch = e then 1 else 0) = (s.epochCounts a e).of v := by
  rw [of_setCounts]
  by_cases here : a = agentId ∧ e = epoch
  · obtain ⟨rfl, rfl⟩ := here
    by_cases this : v = w
    · subst this
      simp only [less, and_self, if_true]
      omega
    · simp [less, this, Ne.symm this]
  · have elsewhere : ¬ (a = agentId ∧ w = v ∧ epoch = e) := fun same => here ⟨same.1, same.2.2.symm⟩
    rw [if_neg here, if_neg elsewhere, add_zero]

theorem of_setCounts_in
    (more : ∀ v, counts.of v = (s.epochCounts agentId epoch).of v + if v = w then 1 else 0)
    (a : Word) (e : Nat) (v : Verdict) :
    ((s.setCounts agentId epoch counts).epochCounts a e).of v =
      (s.epochCounts a e).of v + if a = agentId ∧ w = v ∧ epoch = e then 1 else 0 := by
  rw [of_setCounts]
  by_cases here : a = agentId ∧ e = epoch
  · obtain ⟨rfl, rfl⟩ := here
    by_cases this : v = w
    · subst this
      simp [more]
    · simp [more, this, Ne.symm this]
  · have elsewhere : ¬ (a = agentId ∧ w = v ∧ epoch = e) := fun same => here ⟨same.1, same.2.2.symm⟩
    rw [if_neg here, if_neg elsewhere, add_zero]

/-- What taking a verdict out, or putting one in, leaves as it is. -/
def OnlyCounts (s s' : AntseedVerification) : Prop := s' = { s with epochCounts := s'.epochCounts }

theorem silent (uncounted : ¬ service.verdict.Counts) (counts : v.Counts) :
    ¬ service.Says v e := by
  rintro ⟨rfl, -⟩
  exact uncounted counts

theorem uncount_meets (counted : service.verdict.Counts →
      0 < (s.epochCounts agentId service.epoch).of service.verdict) :
    Meets (s.uncount agentId service) NotUnderflow fun s' => OnlyCounts s s' ∧
      ∀ a e v, v.Counts → (s'.epochCounts a e).of v +
        (if a = agentId ∧ service.Says v e then 1 else 0) = (s.epochCounts a e).of v := by
  have untouched : ¬ service.verdict.Counts → ∀ a e v, v.Counts → (s.epochCounts a e).of v +
      (if a = agentId ∧ service.Says v e then 1 else 0) = (s.epochCounts a e).of v := by
    intro uncounted a e v counts
    simp [silent uncounted counts]
  unfold uncount
  cases isVerdict : service.verdict with
  | none | undetermined =>
    refine .pure ⟨rfl, untouched ?_⟩
    rw [isVerdict]
    nofun
  | same =>
    rw [isVerdict] at counted
    have positive := counted (.inl rfl)
    refine .sub positive (pure ⟨rfl, fun a e v _ => ?_⟩)
    have meaning : service.Says v e ↔ .same = v ∧ service.epoch = e := by
      rw [← isVerdict]
      rfl
    simp only [meaning]
    exact of_setCounts_out positive (fun v => by cases v <;> simp [of]) a e v
  | diff =>
    rw [isVerdict] at counted
    have positive := counted (.inr rfl)
    refine .sub positive (pure ⟨rfl, fun a e v _ => ?_⟩)
    have meaning : service.Says v e ↔ .diff = v ∧ service.epoch = e := by
      rw [← isVerdict]
      rfl
    simp only [meaning]
    exact of_setCounts_out positive (fun v => by cases v <;> simp [of]) a e v

theorem count_meets :
    Meets (s.count agentId epoch verdict) NotUnderflow fun s' => OnlyCounts s s' ∧
      (∀ a e v, v.Counts → (s'.epochCounts a e).of v = (s.epochCounts a e).of v +
        if a = agentId ∧ verdict = v ∧ epoch = e then 1 else 0) ∧
      (s.Fits → s'.Fits) := by
  cases verdict with
  | none | undetermined =>
    refine .pure ⟨rfl, fun a e v counts => ?_, fun fits => fits⟩
    rcases counts with rfl | rfl <;> simp
  | same =>
    refine .uint nofun fun small => pure ⟨rfl, fun a e v _ => ?_, fun fits a e v counts => ?_⟩
    · exact of_setCounts_in (fun v => by cases v <;> simp [of]) a e v
    · rw [of_setCounts]
      split
      · rcases counts with rfl | rfl
        · exact small
        · exact fits agentId epoch .diff (.inr rfl)
      · exact fits a e v counts
  | diff =>
    refine .uint nofun fun small => pure ⟨rfl, fun a e v _ => ?_, fun fits a e v counts => ?_⟩
    · exact of_setCounts_in (fun v => by cases v <;> simp [of]) a e v
    · rw [of_setCounts]
      split
      · rcases counts with rfl | rfl
        · exact fits agentId epoch .same (.inl rfl)
        · exact small
      · exact fits a e v counts

theorem setService_records (s : AntseedVerification) (agentId serviceHash : Word)
    (service : ServiceStatus) :
    (s.setService agentId serviceHash service).serviceStatus = update s.serviceStatus agentId
      (update (s.serviceStatus agentId) serviceHash service) := rfl

/-- What the counters say about the record of a service. -/
def Stands (s : AntseedVerification) (agentId serviceHash : Word) : Prop :=
  (s.serviceStatus agentId serviceHash).verdict.Counts →
    0 < (s.epochCounts agentId (s.serviceStatus agentId serviceHash).epoch).of
      (s.serviceStatus agentId serviceHash).verdict

theorem resetService_meets (stands : s.Stands agentId serviceHash) :
    Meets (s.resetService now agentId serviceHash) NotUnderflow
      (Replaces agentId serviceHash ((s.serviceStatus agentId serviceHash).reset now) s) := by
  refine .bind (uncount_meets stands) fun t ⟨only, out⟩ => pure ?_
  have records : t.serviceStatus = s.serviceStatus := by rw [only]
  refine ⟨?_, ?_, fun a e v counts => ?_, fun fits a e v counts => ?_⟩
  · unfold SameBesides setService
    rw [only]
  · rw [setService_records, records]
  · have quiet : ¬ ((s.serviceStatus agentId serviceHash).reset now).Says v e := silent nofun counts
    rw [if_neg fun here : _ ∧ _ => quiet here.2, add_zero]
    exact out a e v counts
  · have gone := out a e v counts
    have before := fits a e v counts
    change (t.epochCounts a e).of v < 2 ^ 32
    omega

theorem setService_replaces (s : AntseedVerification)
    (same : ∀ v e, new.Says v e ↔ (s.serviceStatus agentId serviceHash).Says v e) :
    Replaces agentId serviceHash new s (s.setService agentId serviceHash new) where
  besides := rfl
  records := rfl
  counters a e v _ := by
    simp only [same]
    rfl
  fits fits := fits

noncomputable def servicesSaying (s : AntseedVerification) (agentId : Word) (v : Verdict) (e : Nat) :
    Finset Word := {h | (s.serviceStatus agentId h).Says v e}

theorem mem_servicesSaying :
    serviceHash ∈ s.servicesSaying agentId v e ↔ (s.serviceStatus agentId serviceHash).Says v e := by
  simp [servicesSaying]

/-- The counters agree with the records, in epoch `c`. -/
structure Counted (c : Nat) (s : AntseedVerification) : Prop where
  agree : ∀ a e v, v.Counts → (s.epochCounts a e).of v = (s.servicesSaying a v e).card
  given : ∀ a h, (s.serviceStatus a h).epoch ≤ c
  fits : s.Fits

variable {c : Nat}

theorem counted_fresh (records : ∀ a h, s.serviceStatus a h = {})
    (counters : ∀ a e, s.epochCounts a e = {}) (c : Nat) : Counted c s := by
  have uncounted : ¬ Verdict.none.Counts := nofun
  refine ⟨fun a e v counts => ?_, fun a h => ?_, fun a e v counts => ?_⟩
  · have none : s.servicesSaying a v e = ∅ := by
      refine filter_eq_empty_iff.mpr fun h _ => ?_
      rw [records]
      exact silent uncounted counts
    rw [none, counters]
    rcases counts with rfl | rfl <;> rfl
  · rw [records]
    exact zero_le c
  · rw [counters]
    rcases counts with rfl | rfl <;> exact Nat.two_pow_pos 32

theorem Counted.mono {c' : Nat} (h : Counted c s) (le : c ≤ c') : Counted c' s :=
  ⟨h.agree, fun a x => le_trans (h.given a x) le, h.fits⟩

theorem Counted.stands (h : Counted c s) (agentId serviceHash : Word) :
    s.Stands agentId serviceHash := by
  intro counts
  rw [h.agree _ _ _ counts]
  exact card_pos.mpr ⟨serviceHash, mem_servicesSaying.mpr ⟨rfl, rfl⟩⟩

theorem servicesSaying_replaced (replaces : Replaces agentId serviceHash new s s') (a : Word)
    (v : Verdict) (e : Nat) :
    (s'.servicesSaying a v e).card +
        (if a = agentId ∧ (s.serviceStatus agentId serviceHash).Says v e then 1 else 0) =
      (s.servicesSaying a v e).card + if a = agentId ∧ new.Says v e then 1 else 0 := by
  unfold servicesSaying
  rw [replaces.records]
  by_cases here : a = agentId
  · subst here
    simp only [update_self, true_and]
    exact card_update_add (fun service : ServiceStatus => service.Says v e) (s.serviceStatus a) new
      (mem_univ serviceHash)
  · simp [here]

theorem Counted.replaced (h : Counted c s) (replaces : Replaces agentId serviceHash new s s')
    (recent : new.epoch ≤ c) : Counted c s' where
  agree a e v counts := by
    have counters := replaces.counters a e v counts
    have records := servicesSaying_replaced replaces a v e
    rw [h.agree a e v counts] at counters
    omega
  given a x := by
    rw [replaces.records]
    by_cases here : a = agentId
    · subst here
      by_cases this : x = serviceHash
      · subst this
        simpa using recent
      · simpa [this] using h.given a x
    · simpa [here] using h.given a x
  fits := replaces.fits h.fits

/-- The counters still agree, and nothing else has changed. -/
def Recounts (c : Nat) (s s' : AntseedVerification) : Prop := Counted c s' ∧ SameBesides s s'

theorem Recounts.trans (first : Recounts c s t) (second : Recounts c t s') : Recounts c s s' :=
  ⟨second.1, first.2.trans second.2⟩

theorem resetService_recounts (h : Counted c s) :
    Meets (s.resetService now agentId serviceHash) NotUnderflow (Recounts c s) :=
  (resetService_meets (h.stands agentId serviceHash)).mono fun _ replaces =>
    ⟨h.replaced replaces (zero_le c), replaces.besides⟩

theorem adoptModel_recounts (h : Counted c s) :
    Meets (s.adoptModel now agentId serviceHash modelHash) NotUnderflow (Recounts c s) := by
  have renamed : ∀ {t : AntseedVerification}, Counted c t → Recounts c t
      (t.setService agentId serviceHash
        { t.serviceStatus agentId serviceHash with modelHash := modelHash }) := by
    intro t counted
    have replaces : Replaces agentId serviceHash
        { t.serviceStatus agentId serviceHash with modelHash := modelHash } t _ :=
      setService_replaces t fun v e => Iff.rfl
    exact ⟨counted.replaced replaces (counted.given agentId serviceHash), replaces.besides⟩
  refine .ite (fun _ => ?_) fun _ => pure ⟨h, .refl s⟩
  refine .bind (Q := Recounts c s) ?_ fun t kept => pure (kept.trans (renamed kept.1))
  exact .ite (fun _ => resetService_recounts h) fun _ => pure ⟨h, .refl s⟩

theorem counted_replaces {u v : AntseedVerification} (only : OnlyCounts s u)
    (out : ∀ a e w, w.Counts → (u.epochCounts a e).of w +
      (if a = agentId ∧ (s.serviceStatus agentId serviceHash).Says w e then 1 else 0) =
        (s.epochCounts a e).of w) (onlyToo : OnlyCounts u v)
    (into : ∀ a e w, w.Counts → (v.epochCounts a e).of w = (u.epochCounts a e).of w +
      if a = agentId ∧ new.verdict = w ∧ new.epoch = e then 1 else 0) (small : u.Fits → v.Fits) :
    Replaces agentId serviceHash new s (v.setService agentId serviceHash new) where
  besides := by
    unfold SameBesides setService
    rw [onlyToo, only]
  records := by
    rw [setService_records, onlyToo, only]
  counters a e w counts := by
    have gone := out a e w counts
    have came := into a e w counts
    change (v.epochCounts a e).of w + _ = _ + if a = agentId ∧ new.verdict = w ∧ new.epoch = e then 1 else 0
    omega
  fits fits := by
    refine small fun a e w counts => ?_
    have gone := out a e w counts
    have before := fits a e w counts
    omega

theorem applyResult_recounts (h : Counted epoch s) (fits : epoch < 2 ^ 64) :
    Meets (s.applyResult now agentId serviceHash modelHash verdict epoch) NotUnderflow
      (Recounts epoch s) := by
  refine .bind (adoptModel_recounts h) fun t adopted => ?_
  refine .ite (fun _ => pure adopted) fun _ => ?_
  refine .bind (uncount_meets (adopted.1.stands agentId serviceHash)) fun u ⟨only, out⟩ => ?_
  refine .bind count_meets fun v ⟨onlyToo, into, small⟩ => pure (adopted.trans ?_)
  rw [mod_eq_of_lt fits]
  have replaces : Replaces agentId serviceHash
      ⟨(t.serviceStatus agentId serviceHash).modelHash, verdict,
        if t.liveVerdict (t.serviceStatus agentId serviceHash) epoch = verdict then
          (t.serviceStatus agentId serviceHash).updatedAt else now % 2 ^ 64, epoch⟩ t _ :=
    counted_replaces only out onlyToo into small
  exact ⟨adopted.1.replaced replaces (le_refl epoch), replaces.besides⟩

theorem clearServices_recounts {services : List (Word × Word)} (h : Counted c s) :
    Meets (clearServices now services s) NotUnderflow (Recounts c s) := by
  induction services generalizing s with
  | nil => exact .pure ⟨h, .refl s⟩
  | cons service services ih =>
    exact .bind (resetService_recounts h) fun t reset =>
      (ih reset.1).mono fun _ rest => reset.trans rest

theorem requireOwner_meets : Meets (s.requireOwner sender) NotUnderflow fun _ => True := by
  unfold requireOwner Admin.requireOwner Evm.require
  split
  · trivial
  · exact nofun

theorem clearServiceStatuses_recounts (h : Counted c s) :
    Meets (s.clearServiceStatuses ctx agentIds serviceHashes) NotUnderflow (Recounts c s) :=
  bind requireOwner_meets fun _ _ => require nofun fun _ => clearServices_recounts h

theorem caught_meets {α : Type} {x : Tried α} :
    Meets (x.caught : Tx VerificationError (Option α)) NotUnderflow fun _ => True := by
  cases x with
  | fails => exact nofun
  | reverts | returns => trivial

theorem enterAgent_meets {result : ServiceResult} :
    Meets (s.enterAgent ctx epoch cursor result) NotUnderflow fun _ => True := by
  refine .ite (fun _ => ?_) fun _ => pure trivial
  refine .require nofun fun _ => ?_
  refine .bind (Q := fun _ => True) ?_ fun owner _ => ?_
  · refine .bind caught_meets fun owner _ => ?_
    cases owner <;> exact .pure trivial
  · refine .require nofun fun _ => bind (Q := fun _ => True) ?_ fun _ _ => pure trivial
    refine .ite (fun _ => ?_) fun _ => pure trivial
    refine .bind caught_meets fun weight _ => ?_
    cases weight <;> exact .pure trivial

theorem auditLoop_recounts (h : Counted epoch s) (fits : epoch < 2 ^ 64) :
    Meets (auditLoop ctx modelHash epoch results cursor s) NotUnderflow
      fun result => Recounts epoch s result.1 := by
  induction results generalizing s cursor with
  | nil => exact .pure ⟨h, .refl s⟩
  | cons result results ih =>
    refine .require nofun fun _ => bind enterAgent_meets fun entered _ => ?_
    refine .ite (fun _ => ih h) fun _ => ?_
    exact .bind (applyResult_recounts h fits) fun t applied =>
      (ih applied.1).mono fun _ rest => applied.trans rest

theorem Counted.same (h : Counted c s) (records : s'.serviceStatus = s.serviceStatus)
    (counters : s'.epochCounts = s.epochCounts) : Counted c s' := by
  refine ⟨?_, ?_, ?_⟩
  · unfold servicesSaying
    rw [records, counters]
    exact h.agree
  · rw [records]
    exact h.given
  · unfold Fits
    rw [counters]
    exact h.fits

inductive Credited (auditor : Address) (epoch : Nat) (modelHash : Word) (s : AntseedVerification) :
    AntseedVerification → Prop
  | not : Credited auditor epoch modelHash s s
  | once : Credited auditor epoch modelHash s { s with
      modelCredits := update s.modelCredits epoch (update (s.modelCredits epoch) auditor
        (update (s.modelCredits epoch auditor) modelHash (s.modelCredits epoch auditor modelHash + 1)))
      auditorEpochCredits := update s.auditorEpochCredits epoch
        (update (s.auditorEpochCredits epoch) auditor (s.auditorEpochCredits epoch auditor + 1))
      epochCredits := update s.epochCredits epoch (s.epochCredits epoch + 1) }

theorem creditAudit_meets :
    Meets (s.creditAudit auditor epoch modelHash) NotUnderflow (Credited auditor epoch modelHash s) := by
  refine .ite (fun _ => pure .not) fun _ => ?_
  refine .ite (fun _ => pure .not) fun _ => ?_
  exact .uint nofun fun _ => uint nofun fun _ => uint nofun fun _ => pure .once

theorem submitModelAudit_meets
    (h : Counted (currentEpoch ctx.now) s)
    (fits : currentEpoch ctx.now < 2 ^ 64) :
    Meets (s.submitModelAudit ctx expectedEpoch modelHash evidenceHash evidenceUri results)
      NotUnderflow fun s' => ∃ t, Recounts (currentEpoch ctx.now) s t ∧
        Credited ctx.sender (currentEpoch ctx.now) modelHash t s' := by
  refine .require nofun fun _ => require nofun fun _ => ?_
  refine .bind (Q := fun _ => True) ?_ fun _ _ => ?_
  · refine .ite (fun _ => pure trivial) fun _ => ?_
    unfold Evm.require
    split
    · trivial
    · exact nofun
  · refine .require nofun fun _ => require nofun fun _ => ?_
    refine .bind (auditLoop_recounts h fits) fun ⟨t, staked⟩ recounted => ?_
    refine .ite (fun _ => ?_) fun _ => pure ⟨t, recounted, .not⟩
    exact creditAudit_meets.mono fun _ credited => ⟨t, recounted, credited⟩

theorem Credited.counted (credited : Credited auditor epoch modelHash s s') (h : Counted c s) :
    Counted c s' := by
  cases credited with
  | not => exact h
  | once => exact h.same rfl rfl

/-- Verdicts, credits and claims are as before, and the window stays within its bound. -/
structure KeepsRecords (s s' : AntseedVerification) : Prop where
  records : s'.serviceStatus = s.serviceStatus
  counters : s'.epochCounts = s.epochCounts
  credits : s'.epochCredits = s.epochCredits
  ofAuditors : s'.auditorEpochCredits = s.auditorEpochCredits
  claimed : s'.auditorEpochClaimed = s.auditorEpochClaimed
  window : s.validityEpochs ≤ maxValidityEpochs → s'.validityEpochs ≤ maxValidityEpochs

theorem set_keeps (taken : s.set ctx setting = .ok s') :
    KeepsRecords s s' := by
  cases setting with
  | auditor | sellerPools | rewardsStartEpoch =>
    replace taken := rest_ok taken
    replace taken := rest_ok taken
    cases taken
    exact ⟨rfl, rfl, rfl, rfl, rfl, fun window => window⟩
  | validityEpochs =>
    replace taken := rest_ok taken
    replace taken := rest_ok taken
    obtain ⟨_, inside, taken⟩ := ran taken
    cases taken
    have bounded := require_eq_ok.mp inside
    exact ⟨rfl, rfl, rfl, rfl, rfl, fun _ => Nat.le_of_not_lt fun above => bounded (.inr above)⟩
  | _ =>
    replace taken := rest_ok taken
    replace taken := rest_ok taken
    replace taken := rest_ok taken
    cases taken
    exact ⟨rfl, rfl, rfl, rfl, rfl, fun window => window⟩

theorem administer_keeps (taken : s.administer sender call = .ok s') :
    KeepsRecords s s' := by
  obtain ⟨_, -, taken⟩ := ran taken
  cases taken
  exact ⟨rfl, rfl, rfl, rfl, rfl, fun window => window⟩

theorem claimRewards_same
    (taken : claimRewards self ctx epochs s gate ants total = .ok (s', gate', ants', total')) :
    s' = { s with auditorEpochClaimed := s'.auditorEpochClaimed } := by
  induction epochs generalizing s gate ants total with
  | nil =>
    cases taken
    rfl
  | cons epoch epochs ih =>
    replace taken := rest_ok taken
    obtain ⟨amount, -, taken⟩ := ran taken
    split at taken
    · exact ih taken
    · obtain ⟨sum, -, taken⟩ := ran taken
      obtain ⟨⟨t, paying, paid⟩, one, taken⟩ := ran taken
      obtain ⟨claimed, -, one⟩ := ran one
      cases one
      exact (ih taken).trans rfl

theorem sumWindow_eq {counts : Nat → EpochCounts}
    (small : ∀ e v, Verdict.Counts v → (counts e).of v < 2 ^ 32) (rounds i : Nat)
    (sums : EpochCounts) (room : ∀ v, sums.of v + rounds * 2 ^ 32 ≤ 2 ^ 256) :
    ∃ sums', sumWindow counts epoch rounds i sums = .ok sums' ∧ ∀ v, v.Counts →
      sums'.of v = sums.of v +
        ∑ k ∈ Finset.Ico i (min (i + rounds) (epoch + 1)), (counts (epoch - k)).of v := by
  induction rounds generalizing i sums with
  | zero => exact ⟨sums, rfl, fun v _ => by simp⟩
  | succ rounds ih =>
    unfold sumWindow
    by_cases inside : i ≤ epoch
    · have sameSmall := small (epoch - i) .same (.inl rfl)
      have diffSmall := small (epoch - i) .diff (.inr rfl)
      have sameRoom := room .same
      have diffRoom := room .diff
      simp only [of] at sameSmall diffSmall sameRoom diffRoom
      rw [if_pos inside, uint_fits (by omega), ok_bind, uint_fits (by omega), ok_bind]
      obtain ⟨sums', isSum, sum⟩ := ih (i + 1) ⟨sums.same + (counts (epoch - i)).same,
        sums.diff + (counts (epoch - i)).diff⟩ fun v => by
          cases v <;> simp only [of] <;> omega
      refine ⟨sums', isSum, fun v isCounted => ?_⟩
      have first : i < min (i + (rounds + 1)) (epoch + 1) := by omega
      rw [sum v isCounted, sum_eq_sum_Ico_succ_bot first, add_right_comm i 1 rounds,
        ← add_assoc]
      rcases isCounted with rfl | rfl <;> rfl
    · refine ⟨sums, if_neg inside, fun v _ => ?_⟩
      rw [Finset.Ico_eq_empty (by omega), sum_empty, add_zero]

noncomputable def liveServices (s : AntseedVerification) (agentId : Word) (v : Verdict)
    (epoch : Nat) : Finset Word :=
  {h | (s.serviceStatus agentId h).verdict = v ∧
    epoch < (s.serviceStatus agentId h).epoch + s.validityEpochs}

theorem mem_liveServices :
    serviceHash ∈ s.liveServices agentId v epoch ↔
      (s.serviceStatus agentId serviceHash).verdict = v ∧
        epoch < (s.serviceStatus agentId serviceHash).epoch + s.validityEpochs := by
  simp [liveServices]

theorem liveServices_eq (given : ∀ a h, (s.serviceStatus a h).epoch ≤ c) (agentId : Word) (v : Verdict) :
    s.liveServices agentId v c = (Finset.Ico 0 (min s.validityEpochs (c + 1))).biUnion fun k =>
      s.servicesSaying agentId v (c - k) := by
  ext h
  have before := given agentId h
  rw [mem_liveServices, mem_biUnion]
  simp only [mem_servicesSaying, mem_Ico]
  constructor
  · rintro ⟨isVerdict, live⟩
    exact ⟨c - (s.serviceStatus agentId h).epoch, by omega, isVerdict, by omega⟩
  · rintro ⟨k, inside, isVerdict, isEpoch⟩
    exact ⟨isVerdict, by omega⟩

theorem card_liveServices (given : ∀ a h, (s.serviceStatus a h).epoch ≤ c) (agentId : Word)
    (v : Verdict) :
    (s.liveServices agentId v c).card = ∑ k ∈ Finset.Ico 0 (min s.validityEpochs (c + 1)),
      (s.servicesSaying agentId v (c - k)).card := by
  rw [liveServices_eq given, card_biUnion]
  intro k inK l inL apart
  refine disjoint_left.mpr fun h first second => apart ?_
  have firstEpoch := (mem_servicesSaying.mp first).2
  have secondEpoch := (mem_servicesSaying.mp second).2
  have kInside := (mem_Ico.mp inK).2
  have lInside := (mem_Ico.mp inL).2
  omega

theorem agentStatusAt_eq (h : Counted c s) (window : s.validityEpochs ≤ maxValidityEpochs)
    (agentId : Word) :
    s.agentStatusAt agentId c = .ok ⟨min 65535 (s.liveServices agentId .same c).card,
      min 65535 (s.liveServices agentId .diff c).card⟩ := by
  have bounded : s.validityEpochs ≤ 4 := window
  obtain ⟨sums, isSum, sum⟩ := @sumWindow_eq c _ (fun e v => h.fits agentId e v)
    s.validityEpochs 0 {} fun v => by cases v <;> simp only [of] <;> omega
  have counted : ∀ v, v.Counts → sums.of v = (s.liveServices agentId v c).card := by
    intro v counts
    have nothing : of {} v = 0 := by cases v <;> rfl
    rw [sum v counts, card_liveServices h.given, nothing, zero_add, zero_add]
    exact sum_congr rfl fun k _ => h.agree agentId (c - k) v counts
  have same : sums.same = _ := counted .same (.inl rfl)
  have diff : sums.diff = _ := counted .diff (.inr rfl)
  have saturates : ∀ n, saturate n = min 65535 n := by
    intro n
    unfold saturate
    split <;> omega
  unfold agentStatusAt
  rw [isSum, ok_bind, saturates, saturates, same, diff]
  rfl

end AntseedVerification

structure AuditState.Tallied (s : AuditState) : Prop where
  clock : s.now < 2 ^ 64
  counted : s.verification.Counted (currentEpoch s.now)
  window : s.verification.validityEpochs ≤ maxValidityEpochs

section Steps

variable {self : Address} {s s' : AuditState}

variable {t : AntseedVerification}

theorem AuditState.Tallied.recounted (h : s.Tallied)
    (recounted : AntseedVerification.Recounts (currentEpoch s.now) s.verification t) :
    AuditState.Tallied { s with verification := t } := by
  refine ⟨h.clock, recounted.1, ?_⟩
  have same := recounted.2
  rw [same]
  exact h.window

theorem AuditState.Tallied.kept (h : s.Tallied)
    (records : t.serviceStatus = s.verification.serviceStatus)
    (counters : t.epochCounts = s.verification.epochCounts)
    (window : t.validityEpochs ≤ maxValidityEpochs) :
    AuditState.Tallied { s with verification := t } :=
  ⟨h.clock, h.counted.same records counters, window⟩

theorem perform_tallied
    (h : s.Tallied) (taken : s.perform self ⟨sender, s.now, outside⟩ op = .ok s') : s'.Tallied := by
  have fits := currentEpoch_lt h.clock
  cases op with
  | gate =>
    obtain ⟨g, moved, taken⟩ := ran taken
    obtain ⟨_, clock, taken⟩ := ran taken
    cases taken
    have later : s.now ≤ g.now := GateState.step_now (bubble_eq_ok.mp moved)
    exact ⟨decode_eq_ok.mp clock, h.counted.mono (currentEpoch_mono later), h.window⟩
  | submitModelAudit =>
    obtain ⟨verification, audited, taken⟩ := ran taken
    cases taken
    obtain ⟨t, recounted, credited⟩ :=
      (submitModelAudit_meets h.counted fits).result audited
    have between := h.recounted recounted
    refine ⟨h.clock, credited.counted between.counted, ?_⟩
    cases credited <;> exact between.window
  | clearServiceStatuses =>
    obtain ⟨verification, cleared, taken⟩ := ran taken
    cases taken
    exact h.recounted ((clearServiceStatuses_recounts h.counted).result cleared)
  | voidAuditorCredits =>
    obtain ⟨verification, voided, taken⟩ := ran taken
    cases taken
    replace voided := rest_ok voided
    replace voided := rest_ok voided
    dsimp only at voided
    split at voided
    · cases voided
      exact h
    · obtain ⟨_, -, voided⟩ := ran voided
      cases voided
      exact h.kept rfl rfl h.window
  | claimAuditorRewards =>
    obtain ⟨⟨verification, gate, ants, total⟩, claimed, taken⟩ := ran taken
    cases taken
    have same := claimRewards_same claimed
    refine ⟨h.clock, h.counted.same ?_ ?_, ?_⟩
    · rw [same]
    · rw [same]
    · rw [same]
      exact h.window
  | set =>
    obtain ⟨verification, changed, taken⟩ := ran taken
    cases taken
    have keeps := set_keeps changed
    exact h.kept keeps.records keeps.counters (keeps.window h.window)
  | administer =>
    obtain ⟨verification, changed, taken⟩ := ran taken
    cases taken
    have keeps := administer_keeps changed
    exact h.kept keeps.records keeps.counters (keeps.window h.window)

theorem step_tallied (h : s.Tallied) (taken : s.step self call = .ok s') :
    s'.Tallied := by
  replace taken := rest_ok taken
  exact perform_tallied h taken

end Steps

theorem deployAudits_tallied
    {registry sellerPools teamWallet protocolReserve : Address} {teamShareBps reserveShareBps : Nat}
    {ants : Erc20} {s : AuditState}
    (deployed : deployAudits ctx registry sellerPools teamWallet protocolReserve teamShareBps
      reserveShareBps ants = .ok s) : s.Tallied := by
  obtain ⟨_, clock, deployed⟩ := ran deployed
  obtain ⟨gate, -, deployed⟩ := ran deployed
  obtain ⟨verification, made, deployed⟩ := ran deployed
  cases deployed
  replace made := rest_ok made
  obtain ⟨_, -, made⟩ := ran made
  replace made := rest_ok made
  obtain ⟨_, -, made⟩ := ran made
  replace made := rest_ok made
  cases made
  exact ⟨decode_eq_ok.mp clock, counted_fresh (fun _ _ => rfl) (fun _ _ => rfl) _, show 2 ≤ 4 by decide⟩

/-- In every state the contract can reach: the counters of an agent and an epoch say how many of
    its services have a verdict given in that epoch; no audit and no clearing underflows; and the
    status of an agent counts the verdicts that are live, up to what 16 bits hold. -/
theorem counters_match_verdicts (self : Address) (ctx : AuditContext)
    (registry sellerPools teamWallet protocolReserve : Address) (teamShareBps reserveShareBps : Nat)
    (ants : Erc20) (start : AuditState)
    (deployed : deployAudits ctx registry sellerPools teamWallet protocolReserve teamShareBps
      reserveShareBps ants = .ok start) (calls : List AuditCall) :
    let s := (auditMachine self).run start calls
    let v := s.verification
    (∀ agentId e,
      (v.epochCounts agentId e).same = card {h | (v.serviceStatus agentId h).verdict = .same ∧
        (v.serviceStatus agentId h).epoch = e} ∧
      (v.epochCounts agentId e).diff = card {h | (v.serviceStatus agentId h).verdict = .diff ∧
        (v.serviceStatus agentId h).epoch = e}) ∧
    (∀ sender outside expectedEpoch modelHash evidenceHash evidenceUri results,
      v.submitModelAudit ⟨sender, s.now, outside⟩ expectedEpoch modelHash evidenceHash evidenceUri
        results ≠ .error .underflow) ∧
    (∀ ctx agentIds serviceHashes,
      v.clearServiceStatuses ctx agentIds serviceHashes ≠ .error .underflow) ∧
    ∀ agentId, v.agentStatus s.now agentId = .ok
      ⟨min 65535 (card {h | (v.serviceStatus agentId h).verdict = .same ∧
        currentEpoch s.now < (v.serviceStatus agentId h).epoch + v.validityEpochs}),
      min 65535 (card {h | (v.serviceStatus agentId h).verdict = .diff ∧
        currentEpoch s.now < (v.serviceStatus agentId h).epoch + v.validityEpochs})⟩ := by
  intro s v
  have tallied : s.Tallied := (auditMachine self).run_invariant (fun _ _ _ => step_tallied)
    (deployAudits_tallied deployed) calls
  refine ⟨fun agentId e => ⟨tallied.counted.agree agentId e .same (.inl rfl),
    tallied.counted.agree agentId e .diff (.inr rfl)⟩, ?_, ?_, ?_⟩
  · intro sender outside expectedEpoch modelHash evidenceHash evidenceUri results underflow
    exact (submitModelAudit_meets tallied.counted (currentEpoch_lt tallied.clock)).reason underflow rfl
  · intro ctx agentIds serviceHashes underflow
    exact (clearServiceStatuses_recounts tallied.counted).reason underflow rfl
  · exact agentStatusAt_eq tallied.counted tallied.window

/-- In every state the contract can reach, an agent is verified exactly if some service of it is
    live with the verdict that it answers as its model, and none with the verdict that it does not. -/
theorem isVerified_iff_live (self : Address) (ctx : AuditContext)
    (registry sellerPools teamWallet protocolReserve : Address) (teamShareBps reserveShareBps : Nat)
    (ants : Erc20) (start : AuditState)
    (deployed : deployAudits ctx registry sellerPools teamWallet protocolReserve teamShareBps
      reserveShareBps ants = .ok start) (calls : List AuditCall) (agentId : Word) :
    let s := (auditMachine self).run start calls
    let live := fun h => s.verification.liveVerdict (s.verification.serviceStatus agentId h) (currentEpoch s.now)
    ∃ verified, s.verification.isVerified s.now agentId = .ok verified ∧
      (verified = true ↔ (∃ h, live h = .same) ∧ ∀ h, live h ≠ .diff) := by
  intro s live
  have tallied : s.Tallied := (auditMachine self).run_invariant (fun _ _ _ => step_tallied)
    (deployAudits_tallied deployed) calls
  have lists : ∀ v, v.Counts → ∀ h,
      h ∈ s.verification.liveServices agentId v (currentEpoch s.now) ↔ live h = v := by
    intro v counts h
    rw [mem_liveServices]
    dsimp only [live, liveVerdict, isLive]
    rcases counts with rfl | rfl <;> grind
  refine ⟨_, bind_eq_ok.mpr ⟨_, agentStatusAt_eq tallied.counted tallied.window agentId, rfl⟩, ?_⟩
  have none : ∀ n, min 65535 n = 0 ↔ n = 0 := by omega
  rw [decide_eq_true_iff, gt_iff_lt, Nat.pos_iff_ne_zero, Ne, none, none, Finset.card_eq_zero, Finset.card_eq_zero,
    ← Ne, ← nonempty_iff_ne_empty, eq_empty_iff_forall_notMem]
  simp only [Finset.Nonempty, lists .same (.inl rfl), lists .diff (.inr rfl), ne_eq]

/-! One audit of two services of an agent. Account 9 owns the contract, 7 is the auditor. -/

def auditWorld : AuditOutside where
  ownerOf _ := .returns ⟨6⟩
  poolWeightAtEpoch _ _ _ := .returns ⟨1⟩
  hasCode _ := true
  emissions _ := some ⟨100⟩
  emissionsGate _ := .returns ⟨100⟩

def firstAudit : List AuditCall :=
  [⟨⟨9⟩, auditWorld, .set (.auditor ⟨7⟩ true)⟩,
    ⟨⟨7⟩, auditWorld, .submitModelAudit 0 ⟨1⟩ ⟨2⟩ [] [⟨⟨1⟩, ⟨10⟩, .same⟩, ⟨⟨1⟩, ⟨11⟩, .diff⟩]⟩]

/-- The counter of the epoch says one, so one service has the verdict. -/
theorem firstAudit_counted : ∃ start,
    deployAudits ⟨⟨9⟩, genesis, auditWorld⟩ ⟨50⟩ ⟨51⟩ ⟨1⟩ ⟨2⟩ 10000 20000 .empty = .ok start ∧
      let v := ((auditMachine ⟨60⟩).run start firstAudit).verification
      (v.epochCounts ⟨1⟩ 0).same = 1 ∧
        card {h | (v.serviceStatus ⟨1⟩ h).verdict = .same ∧
          (v.serviceStatus ⟨1⟩ h).epoch = 0} = 1 := by
  refine ⟨_, rfl, by decide +kernel, ?_⟩
  obtain ⟨counters, -⟩ := counters_match_verdicts ⟨60⟩ ⟨⟨9⟩, genesis, auditWorld⟩ ⟨50⟩ ⟨51⟩ ⟨1⟩ ⟨2⟩ 10000
    20000 .empty _ rfl firstAudit
  exact (counters ⟨1⟩ 0).1.symm.trans (by decide +kernel)

/-- One of the two services is live and answers as another model, so the agent is not verified. -/
theorem firstAudit_unverified : ∃ start,
    deployAudits ⟨⟨9⟩, genesis, auditWorld⟩ ⟨50⟩ ⟨51⟩ ⟨1⟩ ⟨2⟩ 10000 20000 .empty = .ok start ∧
      let s := (auditMachine ⟨60⟩).run start firstAudit
      s.verification.isVerified s.now ⟨1⟩ = .ok false := by
  refine ⟨_, rfl, ?_⟩
  obtain ⟨verified, answered, exactly⟩ := isVerified_iff_live ⟨60⟩ ⟨⟨9⟩, genesis, auditWorld⟩ ⟨50⟩ ⟨51⟩
    ⟨1⟩ ⟨2⟩ 10000 20000 .empty _ rfl firstAudit ⟨1⟩
  cases verified with
  | false => exact answered
  | true => exact absurd (by decide +kernel) ((exactly.mp rfl).2 ⟨11⟩)

end AntSeed.Verification
