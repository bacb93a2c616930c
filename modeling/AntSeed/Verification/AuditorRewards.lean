import AntSeed.Emissions.Bucket
import AntSeed.Verification.Counters

/-! # What auditors are paid

The credits of an epoch share the budget of the verification bucket. The owner
may void credits between two claims, so the whole that shares are measured against
shrinks, but never below the credits of those who have claimed: these cannot be
voided any more. So every whole contains all that was claimed before, and the
bucket is never short.
-/

namespace AntSeed.Verification

open Evm Emissions
open Function
open AntseedVerification
open Nat

/-- A call that configures the gate leaves the bucket to the contract, and the contract to the
    bucket. -/
def AuditOperation.Dedicates (id : Word) (holder : Address) : AuditOperation → Prop
  | .gate op => op.Dedicates id holder
  | _ => True

def NotExceeded (r : Revert VerificationError) : Prop := r ≠ .custom (.gate .bucketBudgetExceeded)

/-- Nor for a division by zero. -/
def NotShort (r : Revert VerificationError) : Prop := r ≠ .divisionByZero ∧ NotExceeded r

/-- A reward that was paid. -/
structure RewardPayment where
  epoch : Nat
  amount : Nat
  deriving DecidableEq, Repr

/-- How often and how much was paid for an epoch. -/
def timesPaid (e : Nat) (payments : List RewardPayment) : Nat := payments.countP (·.epoch = e)

def amountPaid (e : Nat) (payments : List RewardPayment) : Nat :=
  (payments.map fun payment => if payment.epoch = e then payment.amount else 0).sum

namespace AntseedVerification

/-- What `claimAuditorRewards` pays, epoch by epoch. -/
def rewardPayments (self : Address) (ctx : AuditContext) : List Nat → AntseedVerification → Gate →
    Erc20 → List RewardPayment
  | [], _, _, _ => []
  | epoch :: rest, s, gate, ants =>
    match s.pendingReward gate ctx.now self ctx.sender epoch with
    | .error _ => []
    | .ok amount =>
      if amount = 0 then rewardPayments self ctx rest s gate ants
      else
        match s.payReward gate ants self ctx epoch amount with
        | .error _ => []
        | .ok (s', gate', ants') =>
          ⟨epoch, amount⟩ :: rewardPayments self ctx rest s' gate' ants'

theorem rewardShare_meets {s : AntseedVerification} {auditor : Address} {e : Nat} (budget : Nat)
    (some : s.epochCredits e ≠ 0) :
    Meets (s.rewardShare auditor e budget) NotShort fun amount =>
      Fair budget (s.epochCredits e) amount (s.auditorEpochCredits e auditor) := by
  have notShort : NotShort .overflow := ⟨nofun, nofun⟩
  refine .uint notShort fun _ => ?_
  refine .bind (Meets.of_ok (div_eq_ok.mpr ⟨some, rfl⟩) rfl) fun reward isReward => ?_
  have uncapped : Fair budget (s.epochCredits e) reward (s.auditorEpochCredits e auditor) := by
    rw [← isReward]
    exact div_mul_le_self _ _
  refine .uint notShort fun _ => Meets.pure ?_
  split
  · exact uncapped
  next above =>
    exact Nat.le_trans (Nat.mul_le_mul_right _ (Nat.le_of_not_lt above)) uncapped

variable {c : Nat} {id : Word} {holder : Address} {gate gate' : Gate} {s s' : AntseedVerification}

noncomputable def claimedCredits (s : AntseedVerification) (e : Nat) : Nat :=
  claimedSum (s.auditorEpochCredits e) (s.auditorEpochClaimed e)

/-- In epoch `c`: credits add up, no epoch was claimed before it was over, and what was charged
    to the bucket is fair for the credits claimed. -/
structure Rewarded (c : Nat) (id : Word) (holder : Address) (gate : Gate) (s : AntseedVerification) :
    Prop where
  bucketed : gate.Bucketed c id holder
  credits : ∀ e, s.epochCredits e = ∑ a, s.auditorEpochCredits e a
  unclaimed : ∀ e, c ≤ e → ∀ a, s.auditorEpochClaimed e a = false
  fair : ∀ e, Fair (shareBudget e (gate.share id e)) (s.epochCredits e)
    (gate.minterEpochMinted id e) (s.claimedCredits e)
  due : ∀ e, 0 < gate.minterEpochMinted id e → gate.Held id holder ∧ 0 < s.claimedCredits e

namespace Rewarded

variable (h : Rewarded c id holder gate s)

include h

variable {amount e : Nat} {auditor : Address}

theorem unspent (ahead : c ≤ e) : gate.minterEpochMinted id e = 0 :=
  h.bucketed.minted.finalized id e ahead

theorem credits_le (e : Nat) (auditor : Address) :
    s.auditorEpochCredits e auditor ≤ s.epochCredits e := by
  rw [h.credits]
  exact Finset.single_le_sum (fun _ _ => zero_le _) (Finset.mem_univ auditor)

theorem mono {c' : Nat} (le : c ≤ c') : Rewarded c' id holder gate s :=
  ⟨h.bucketed.mono le, h.credits, fun e later => h.unclaimed e (le_trans le later), h.fair, h.due⟩

theorem spared (spares : Gate.Spares c id holder gate gate') : Rewarded c id holder gate' s where
  bucketed := spares.bucketed
  credits := h.credits
  unclaimed := h.unclaimed
  fair e := by
    rw [spares.spent]
    by_cases begun : e ≤ c
    · rw [spares.frozen e begun]
      exact h.fair e
    · rw [h.unspent (by omega)]
      exact fair_unpaid _ _ _
  due e := by
    rw [spares.spent]
    exact fun some => ⟨spares.held (h.due e some).1, (h.due e some).2⟩

theorem same (credits : s'.epochCredits = s.epochCredits)
    (ofAuditors : s'.auditorEpochCredits = s.auditorEpochCredits)
    (claimed : s'.auditorEpochClaimed = s.auditorEpochClaimed) : Rewarded c id holder gate s' := by
  have taken : s'.claimedCredits = s.claimedCredits := by
    unfold claimedCredits
    rw [ofAuditors, claimed]
  refine ⟨h.bucketed, ?_, ?_, ?_, ?_⟩
  · rw [credits, ofAuditors]
    exact h.credits
  · rw [claimed]
    exact h.unclaimed
  · rw [credits, taken]
    exact h.fair
  · rw [taken]
    exact h.due

theorem credited (credited : Credited auditor c modelHash s s') :
    Rewarded c id holder gate s' := by
  cases credited with
  | not => exact h
  | once =>
    refine ⟨h.bucketed, fun e => ?_, h.unclaimed, fun e => ?_, fun e some => ?_⟩
    · by_cases here : e = c
      · subst here
        have moved := sum_update_add (fun _ (n : Nat) => n) (s.auditorEpochCredits e)
          (s.auditorEpochCredits e auditor + 1) (Finset.mem_univ auditor)
        have before := h.credits e
        simp only [update_self]
        omega
      · simp only [update_of_ne here]
        exact h.credits e
    · by_cases here : e = c
      · subst here
        rw [h.unspent (le_refl e)]
        exact fair_unpaid _ _ _
      · simpa [claimedCredits, update_of_ne here] using h.fair e
    · have past : e ≠ c := by
        rintro rfl
        rw [h.unspent (le_refl e)] at some
        exact lt_irrefl 0 some
      simpa [claimedCredits, update_of_ne past] using h.due e some

theorem voided
    (taken : s.voidAuditorCredits sender epoch auditor = .ok s') : Rewarded c id holder gate s' := by
  replace taken := rest_ok taken
  obtain ⟨_, unclaimed, taken⟩ := ran taken
  have first : s.auditorEpochClaimed epoch auditor = false := require_eq_ok.mp unclaimed
  dsimp only at taken
  split at taken
  · cases taken
    exact h
  · obtain ⟨rest, isRest, taken⟩ := ran taken
    obtain ⟨enough, rfl⟩ := sub_eq_ok.mp isRest
    cases taken
    have kept : ∀ e, claimedCredits { s with
        auditorEpochCredits := update s.auditorEpochCredits epoch
          (update (s.auditorEpochCredits epoch) auditor 0)
        epochCredits := update s.epochCredits epoch
          (s.epochCredits epoch - s.auditorEpochCredits epoch auditor) } e = s.claimedCredits e := by
      intro e
      unfold claimedCredits claimedSum
      by_cases here : e = epoch
      · subst here
        simp only [update_self]
        exact sum_update_same (fun a (n : Nat) => if s.auditorEpochClaimed e a then n else 0)
          (s.auditorEpochCredits e) 0 (by simp [first])
      · simp only [update_of_ne here]
    refine ⟨h.bucketed, fun e => ?_, h.unclaimed, fun e => ?_, fun e => ?_⟩
    · by_cases here : e = epoch
      · subst here
        have moved := sum_update_add (fun _ (n : Nat) => n) (s.auditorEpochCredits e) 0
          (Finset.mem_univ auditor)
        have before := h.credits e
        simp only [update_self]
        omega
      · simp only [update_of_ne here]
        exact h.credits e
    · rw [kept]
      by_cases here : e = epoch
      · subst here
        simp only [update_self]
        exact (h.fair e).shrink (sub_le _ _)
      · simp only [update_of_ne here]
        exact h.fair e
    · rw [kept]
      exact h.due e

theorem pendingReward_meets (nonzero : holder ≠ 0) :
    Meets (s.pendingReward gate now holder auditor e) NotShort fun amount => amount ≠ 0 →
      gate.Held id holder ∧ s.auditorEpochClaimed e auditor = false ∧
        0 < s.auditorEpochCredits e auditor ∧
        Fair (shareBudget e (gate.share id e)) (s.epochCredits e) amount
          (s.auditorEpochCredits e auditor) := by
  refine .ite (fun _ => Meets.pure nofun) fun claimable => ?_
  simp only [not_or, Bool.not_eq_true] at claimable
  obtain ⟨credited, unclaimed, -⟩ := claimable
  have whole : s.epochCredits e ≠ 0 := by
    have part := h.credits_le e auditor
    omega
  rcases h.bucketed.controllerEpochBudget nonzero e with ⟨held, isBudget⟩ | ⟨-, isBudget⟩
  · rw [isBudget]
    refine (rewardShare_meets (shareBudget e (gate.share id e)) whole).mono fun amount fair _ => ?_
    exact ⟨held, unclaimed, pos_of_ne_zero credited, fair⟩
  · rw [isBudget]
    refine (rewardShare_meets 0 whole).mono fun amount fair some => ?_
    unfold Fair at fair
    rw [zero_mul] at fair
    exact absurd (le_zero.mp fair) (mul_ne_zero some whole)

section

variable (credited : 0 < s.auditorEpochCredits e auditor)
  (unclaimed : s.auditorEpochClaimed e auditor = false)
  (share : Fair (shareBudget e (gate.share id e)) (s.epochCredits e) amount (s.auditorEpochCredits e auditor))

include credited unclaimed share

theorem room : Gate.Room c id holder gate e amount := by
  intro _ _
  have whole := h.credits_le e auditor
  refine ((h.fair e).pay share).within ?_ (by omega)
  have next := claimedSum_le (s.auditorEpochCredits e) (update (s.auditorEpochClaimed e) auditor true)
  rw [claimedSum_update _ unclaimed, ← h.credits] at next
  exact next

theorem paid
    (pays : Gate.Pays c id holder gate gate' e amount) :
    Rewarded c id holder gate' (s.markClaimed e auditor) := by
  have taken : ∀ x, (s.markClaimed e auditor).claimedCredits x =
      if x = e then s.claimedCredits e + s.auditorEpochCredits e auditor else s.claimedCredits x := by
    intro x
    unfold claimedCredits markClaimed
    by_cases here : x = e
    · subst here
      simp only [update_self, if_true]
      exact claimedSum_update _ unclaimed
    · simp only [update_of_ne here, if_neg here]
  refine ⟨pays.bucketed, h.credits, fun x later a => ?_, fun x => ?_, fun x => ?_⟩
  · have other : x ≠ e := by
      have finalized := pays.finalized
      omega
    simp only [markClaimed, update_of_ne other]
    exact h.unclaimed x later a
  · rw [taken, pays.spent, pays.share]
    by_cases here : x = e
    · subst here
      rw [update_self, if_pos rfl]
      exact (h.fair x).pay share
    · rw [update_of_ne here, if_neg here]
      exact h.fair x
  · rw [taken, pays.spent]
    by_cases here : x = e
    · subst here
      rw [if_pos rfl]
      exact fun _ => ⟨pays.stays, by omega⟩
    · rw [update_of_ne here, if_neg here]
      exact fun some => ⟨pays.stays, (h.due x some).2⟩

end

theorem payReward_meets (now : c = currentEpoch ctx.now)
    (credited : 0 < s.auditorEpochCredits e ctx.sender)
    (unclaimed : s.auditorEpochClaimed e ctx.sender = false)
    (share : Fair (shareBudget e (gate.share id e)) (s.epochCredits e) amount
      (s.auditorEpochCredits e ctx.sender)) :
    Meets (s.payReward gate ants holder ctx e amount) NotExceeded fun result =>
      Gate.Pays c id holder gate result.2.1 e amount ∧ result.1 = s.markClaimed e ctx.sender := by
  subst now
  refine .bind ((Gate.claim_pays h.bucketed (h.room credited unclaimed share)).bubble_ne ?_)
    fun result pays => Meets.pure ⟨pays, rfl⟩
  exact fun other same => VerificationError.gate.inj same

end Rewarded

theorem voidAuditorCredits_claimed
    (taken : s.voidAuditorCredits sender epoch auditor = .ok s') :
    s'.auditorEpochClaimed = s.auditorEpochClaimed := by
  replace taken := rest_ok taken
  replace taken := rest_ok taken
  dsimp only at taken
  split at taken
  · cases taken
    rfl
  · obtain ⟨_, -, taken⟩ := ran taken
    cases taken
    rfl

/-- What the loop of a claim has done: the bucket was charged with what it paid, and each payment
    has left its mark. -/
structure Claims (c : Nat) (id : Word) (holder sender : Address) (payments : List RewardPayment)
    (gate gate' : Gate) (s s' : AntseedVerification) : Prop where
  rewarded : Rewarded c id holder gate' s'
  spent : ∀ e, gate'.minterEpochMinted id e = gate.minterEpochMinted id e + amountPaid e payments
  marks : ∀ e a, (s'.auditorEpochClaimed e a).toNat = (s.auditorEpochClaimed e a).toNat +
    if a = sender then timesPaid e payments else 0

variable {ctx : AuditContext} {epochs : List Nat}

section

variable (nonzero : holder ≠ 0) (h : Rewarded (currentEpoch ctx.now) id holder gate s)

include nonzero h

theorem claimRewards_claims
    (taken : claimRewards holder ctx epochs s gate ants total = .ok (s', gate', ants', total')) :
    Claims (currentEpoch ctx.now) id holder ctx.sender
      (rewardPayments holder ctx epochs s gate ants) gate gate' s s' := by
  induction epochs generalizing s gate ants total with
  | nil =>
    cases taken
    exact ⟨h, fun e => rfl, fun e a => by simp [rewardPayments, timesPaid]⟩
  | cons epoch epochs ih =>
    replace taken := rest_ok taken
    obtain ⟨amount, isAmount, taken⟩ := ran taken
    unfold rewardPayments
    rw [isAmount]
    dsimp only
    split at taken
    next none =>
      rw [if_pos none]
      exact ih h taken
    next some =>
      rw [if_neg some]
      obtain ⟨sum, -, taken⟩ := ran taken
      obtain ⟨⟨t, paying, paid⟩, one, taken⟩ := ran taken
      obtain ⟨held, unclaimed, credited, share⟩ :=
        (h.pendingReward_meets nonzero).result isAmount some
      obtain ⟨pays, marked⟩ := (h.payReward_meets rfl credited unclaimed share).result one
      dsimp only at pays marked taken
      have next : Rewarded (currentEpoch ctx.now) id holder paying t := by
        rw [marked]
        exact h.paid credited unclaimed share pays
      have rest := ih next taken
      rw [one]
      refine ⟨rest.rewarded, fun e => ?_, fun e a => ?_⟩
      · rw [rest.spent, pays.spent]
        by_cases here : e = epoch
        · subst here
          simp only [update_self, amountPaid, List.map_cons, List.sum_cons, if_true]
          omega
        · simp [amountPaid, here, Ne.symm here]
      · rw [rest.marks, marked]
        unfold timesPaid markClaimed
        rw [List.countP_cons]
        by_cases here : e = epoch
        · subst here
          by_cases self : a = ctx.sender
          · subst self
            simp [unclaimed]
            omega
          · simp [self]
        · simp [here, Ne.symm here]

theorem claimRewards_meets :
    Meets (claimRewards holder ctx epochs s gate ants total) NotExceeded fun _ => True := by
  induction epochs generalizing s gate ants total with
  | nil => exact .pure trivial
  | cons epoch epochs ih =>
    refine .require nofun fun _ => ?_
    refine .bind ((h.pendingReward_meets nonzero).weaken fun r short => short.2) fun amount owed => ?_
    refine .ite (fun _ => ih h) fun some => Meets.uint nofun fun _ => ?_
    obtain ⟨held, unclaimed, credited, share⟩ := owed some
    refine .bind (h.payReward_meets rfl credited unclaimed share) fun ⟨t, paying, paid⟩ => ?_
    rintro ⟨pays, rfl⟩
    exact ih (h.paid credited unclaimed share pays)

end

end AntseedVerification

namespace AuditState

def payments (self : Address) (s : AuditState) (call : AuditCall) : List RewardPayment :=
  match call.op with
  | .claimAuditorRewards epochs =>
    rewardPayments self ⟨call.sender, s.now, call.outside⟩ epochs s.verification
      s.gate s.ants
  | _ => []

/-- What a call pays for an epoch in all, and how often it pays one auditor. -/
def rewards (self : Address) (e : Nat) (auditor : Address) (s : AuditState) (call : AuditCall) :
    Nat × Nat :=
  (amountPaid e (s.payments self call),
    if auditor = call.sender then timesPaid e (s.payments self call) else 0)

/-- What holds of every state, for what was paid for an epoch and how often to one auditor. -/
structure Settled (id : Word) (holder : Address) (e : Nat) (auditor : Address) (sums : Nat × Nat)
    (s : AuditState) : Prop where
  tallied : s.Tallied
  rewarded : s.verification.Rewarded (currentEpoch s.now) id holder s.gate
  spent : s.gate.minterEpochMinted id e = sums.1
  marks : (s.verification.auditorEpochClaimed e auditor).toNat = sums.2

variable {id : Word} {holder auditor : Address} {e : Nat} {sums : Nat × Nat} {s s' : AuditState}

variable {call : AuditCall}

theorem Settled.unpaid (h : Settled id holder e auditor sums s) (none : s.payments holder call = [])
    (tallied : s'.Tallied)
    (rewarded : s'.verification.Rewarded (currentEpoch s'.now) id holder s'.gate)
    (spent : s'.gate.minterEpochMinted id = s.gate.minterEpochMinted id)
    (claimed : s'.verification.auditorEpochClaimed = s.verification.auditorEpochClaimed) :
    Settled id holder e auditor (sums + s.rewards holder e auditor call) s' := by
  have nothing : s.rewards holder e auditor call = 0 := by
    simp [rewards, none, amountPaid, timesPaid]
  rw [nothing, add_zero]
  refine ⟨tallied, rewarded, ?_, ?_⟩
  · rw [spent]
    exact h.spent
  · rw [claimed]
    exact h.marks

open AntseedVerification in
theorem rewarded_audit {gate : Gate} {v t v' : AntseedVerification}
    (h : v.Rewarded c id holder gate) (recounted : SameBesides v t)
    (credited : Credited auditor c modelHash t v') :
    v'.Rewarded c id holder gate ∧ v'.auditorEpochClaimed = v.auditorEpochClaimed := by
  have same : t.Rewarded c id holder gate := h.same (by rw [recounted]) (by rw [recounted])
    (by rw [recounted])
  have kept : t.auditorEpochClaimed = v.auditorEpochClaimed := by rw [recounted]
  refine ⟨same.credited credited, ?_⟩
  cases credited <;> exact kept

theorem step_settled (nonzero : holder ≠ 0) (dedicates : call.op.Dedicates id holder)
    (h : Settled id holder e auditor sums s) (taken : s.step holder call = .ok s') :
    Settled id holder e auditor (sums + s.rewards holder e auditor call) s' := by
  have tallied := step_tallied h.tallied taken
  obtain ⟨sender, outside, op⟩ := call
  obtain ⟨_, outsider, taken⟩ := ran taken
  have outsider := require_eq_ok.mp outsider
  have fits := currentEpoch_lt h.tallied.clock
  cases op with
  | gate op =>
    obtain ⟨g, moved, taken⟩ := ran taken
    replace taken := rest_ok taken
    cases taken
    obtain ⟨later, spares⟩ := step_spares ⟨sender, op⟩ h.rewarded.bucketed dedicates outsider.1
      outsider.2 (bubble_eq_ok.mp moved)
    exact h.unpaid rfl tallied ((h.rewarded.spared spares).mono (currentEpoch_mono later))
      spares.spent rfl
  | submitModelAudit =>
    obtain ⟨v, audited, taken⟩ := ran taken
    cases taken
    obtain ⟨t, recounted, credited⟩ :=
      (submitModelAudit_meets h.tallied.counted fits).result audited
    obtain ⟨rewarded, claimed⟩ := rewarded_audit h.rewarded recounted.2 credited
    exact h.unpaid rfl tallied rewarded rfl claimed
  | clearServiceStatuses =>
    obtain ⟨v, cleared, taken⟩ := ran taken
    cases taken
    have same := ((clearServiceStatuses_recounts h.tallied.counted).result cleared).2
    refine h.unpaid rfl tallied (h.rewarded.same ?_ ?_ ?_) rfl ?_ <;> rw [same]
  | voidAuditorCredits =>
    obtain ⟨v, isVoided, taken⟩ := ran taken
    cases taken
    exact h.unpaid rfl tallied (h.rewarded.voided isVoided) rfl (voidAuditorCredits_claimed isVoided)
  | claimAuditorRewards =>
    obtain ⟨⟨v, gate, ants, total⟩, isClaimed, taken⟩ := ran taken
    cases taken
    have claims := claimRewards_claims nonzero h.rewarded isClaimed
    refine ⟨tallied, claims.rewarded, ?_, ?_⟩
    · exact (claims.spent e).trans (congrArg (· + _) h.spent)
    · exact (claims.marks e auditor).trans (congrArg (· + _) h.marks)
  | set =>
    obtain ⟨v, changed, taken⟩ := ran taken
    cases taken
    have keeps := set_keeps changed
    exact h.unpaid rfl tallied (h.rewarded.same keeps.credits keeps.ofAuditors keeps.claimed) rfl
      keeps.claimed
  | administer =>
    obtain ⟨v, changed, taken⟩ := ran taken
    cases taken
    have keeps := administer_keeps changed
    exact h.unpaid rfl tallied (h.rewarded.same keeps.credits keeps.ofAuditors keeps.claimed) rfl
      keeps.claimed

theorem deployAudits_settled
    {registry sellerPools teamWallet protocolReserve : Address} {teamShareBps reserveShareBps : Nat}
    {ants : Erc20} (nonzero : holder ≠ 0) (team : teamMinterId = id ↔ teamWallet = holder)
    (reserve : reserveMinterId = id ↔ protocolReserve = holder)
    (deployed : deployAudits ctx registry sellerPools teamWallet protocolReserve teamShareBps
      reserveShareBps ants = .ok s) (e : Nat) (auditor : Address) :
    Settled id holder e auditor 0 s := by
  have tallied := deployAudits_tallied deployed
  replace deployed := rest_ok deployed
  obtain ⟨gate, isGate, deployed⟩ := ran deployed
  obtain ⟨verification, made, deployed⟩ := ran deployed
  cases deployed
  replace made := rest_ok made
  obtain ⟨_, -, made⟩ := ran made
  replace made := rest_ok made
  obtain ⟨_, -, made⟩ := ran made
  replace made := rest_ok made
  cases made
  obtain ⟨bucketed, unminted⟩ := bucketed_construct nonzero team reserve (bubble_eq_ok.mp isGate)
  refine ⟨tallied, ⟨bucketed, fun e => ?_, fun _ _ _ => rfl, fun e => ?_, fun e => ?_⟩, ?_, rfl⟩
  · exact (Finset.sum_eq_zero fun _ _ => rfl).symm
  · rw [unminted]
    exact fair_unpaid _ _ _
  · rw [unminted]
    exact fun some => absurd some (lt_irrefl 0)
  · exact congrFun (congrFun unminted id) e

end AuditState

/-- Over every run in which a bucket stays with the contract: the credits of an epoch are those
    of its auditors, no reward divides by zero, nobody is paid twice for an epoch, what is paid for
    an epoch is what the bucket is charged with and within its budget, and no claim is refused
    for the budget. -/
theorem auditor_rewards_fit_bucket (self : Address) (ctx : AuditContext)
    (registry sellerPools teamWallet protocolReserve : Address) (teamShareBps reserveShareBps : Nat)
    (ants : Erc20) (start : AuditState)
    (deployed : deployAudits ctx registry sellerPools teamWallet protocolReserve teamShareBps
      reserveShareBps ants = .ok start) (nonzero : self ≠ 0) (id : Word)
    (team : teamMinterId = id ↔ teamWallet = self)
    (reserve : reserveMinterId = id ↔ protocolReserve = self) (calls : List AuditCall)
    (dedicated : ∀ call ∈ calls, call.op.Dedicates id self) :
    let M := auditMachine self
    let s := M.run start calls
    (∀ e, s.verification.epochCredits e = ∑ auditor, s.verification.auditorEpochCredits e auditor) ∧
    (∀ now auditor e, s.verification.pendingReward s.gate now self auditor e ≠ .error .divisionByZero) ∧
    (∀ e auditor, M.tally (fun t call =>
      if auditor = call.sender then timesPaid e (t.payments self call) else 0) start calls ≤ 1) ∧
    (∀ e, ∃ budget, s.gate.controllerEpochBudget self e = .ok budget ∧
      s.gate.minterEpochMinted id e =
        M.tally (fun t call => amountPaid e (t.payments self call)) start calls ∧
      s.gate.minterEpochMinted id e ≤ budget) ∧
    ∀ sender outside epochs, s.verification.claimAuditorRewards s.gate s.ants self
      ⟨sender, s.now, outside⟩ epochs ≠ .error (.custom (.gate .bucketBudgetExceeded)) := by
  intro M s
  have settled : ∀ e auditor, AuditState.Settled id self e auditor
      (M.tally (AuditState.rewards self e auditor) start calls) s := by
    intro e auditor
    have preserved : ∀ sums t call t', call.op.Dedicates id self →
        AuditState.Settled id self e auditor sums t → M.step t call = .ok t' →
        AuditState.Settled id self e auditor (sums + t.rewards self e auditor call) t' :=
      fun _ _ _ _ dedicates h taken => AuditState.step_settled nonzero dedicates h taken
    have ran := M.run_invariant_tally_on preserved
      (AuditState.deployAudits_settled nonzero team reserve deployed e auditor) dedicated
    rwa [zero_add] at ran
  have tallies : ∀ e auditor, M.tally (AuditState.rewards self e auditor) start calls =
      (M.tally (fun t call => amountPaid e (t.payments self call)) start calls,
        M.tally (fun t call => if auditor = call.sender then timesPaid e (t.payments self call) else 0)
          start calls) := fun e auditor => M.tally_pair _ _ start calls
  have rewarded := (settled 0 0).rewarded
  refine ⟨rewarded.credits, ?_, ?_, ?_, ?_⟩
  · intro now auditor e short
    exact ((rewarded.pendingReward_meets nonzero).reason short).1 rfl
  · intro e auditor
    have marks := (settled e auditor).marks
    rw [tallies] at marks
    exact Nat.le_trans (Nat.le_of_eq marks.symm) (Bool.toNat_le _)
  · intro e
    have spent := (settled e 0).spent
    rw [tallies] at spent
    rcases rewarded.bucketed.controllerEpochBudget nonzero e with ⟨-, isBudget⟩ | ⟨unheld, isBudget⟩
    · exact ⟨_, isBudget, spent, rewarded.bucketed.minted.budget id e⟩
    · refine ⟨0, isBudget, spent, Nat.le_of_not_lt fun some => ?_⟩
      exact unheld (rewarded.due e some).1
  · intro sender outside epochs refused
    exact (claimRewards_meets nonzero rewarded).reason refused rfl

/-! Two auditors in epoch 1, one credit each; the owner voids the first one's credit after the
second one has claimed. Account 9 owns the contracts, 77 is the bucket. -/

def contestedEpoch : List AuditCall :=
  [⟨⟨9⟩, auditWorld, .gate (.setMinter ⟨77⟩ ⟨60⟩ 50000 true)⟩,
    ⟨⟨9⟩, auditWorld, .set (.auditor ⟨7⟩ true)⟩, ⟨⟨9⟩, auditWorld, .set (.auditor ⟨8⟩ true)⟩,
    ⟨⟨9⟩, auditWorld, .set (.rewardsStartEpoch 1)⟩, ⟨⟨9⟩, auditWorld, .gate (.fundLegacyEscrow ⟨6⟩)⟩,
    ⟨⟨9⟩, auditWorld, .gate (.elapse epochDuration)⟩,
    ⟨⟨7⟩, auditWorld, .submitModelAudit 1 ⟨1⟩ ⟨2⟩ [] [⟨⟨1⟩, ⟨10⟩, .same⟩]⟩,
    ⟨⟨8⟩, auditWorld, .submitModelAudit 1 ⟨1⟩ ⟨2⟩ [] [⟨⟨1⟩, ⟨10⟩, .same⟩]⟩,
    ⟨⟨9⟩, auditWorld, .gate (.elapse epochDuration)⟩,
    ⟨⟨8⟩, auditWorld, .claimAuditorRewards [1]⟩, ⟨⟨9⟩, auditWorld, .voidAuditorCredits 1 ⟨7⟩⟩,
    ⟨⟨8⟩, auditWorld, .claimAuditorRewards [1]⟩]

/-- The second auditor is paid the capped fifth of the budget, once. -/
theorem contestedEpoch_within_bucket : ∃ start,
    deployAudits ⟨⟨9⟩, genesis, auditWorld⟩ ⟨50⟩ ⟨51⟩ ⟨1⟩ ⟨2⟩ 10000 20000 .empty = .ok start ∧
      let s := (auditMachine ⟨60⟩).run start contestedEpoch
      s.gate.minterEpochMinted ⟨77⟩ 1 = 500000 * 10 ^ 18 ∧ s.verification.epochCredits 1 = 1 ∧
        ∃ budget, s.gate.controllerEpochBudget ⟨60⟩ 1 = .ok budget ∧
          s.gate.minterEpochMinted ⟨77⟩ 1 =
            (auditMachine ⟨60⟩).tally (fun t call => amountPaid 1 (t.payments ⟨60⟩ call)) start
              contestedEpoch ∧
          s.gate.minterEpochMinted ⟨77⟩ 1 ≤ budget :=
  ⟨_, rfl, by decide +kernel, by decide +kernel,
    (auditor_rewards_fit_bucket ⟨60⟩ ⟨⟨9⟩, genesis, auditWorld⟩ ⟨50⟩ ⟨51⟩ ⟨1⟩ ⟨2⟩ 10000 20000 .empty _
      rfl (by decide) ⟨77⟩ (by decide) (by decide) contestedEpoch
      (by simp [contestedEpoch, AuditOperation.Dedicates, GateOperation.Dedicates])).2.2.2.1 1⟩

end AntSeed.Verification
