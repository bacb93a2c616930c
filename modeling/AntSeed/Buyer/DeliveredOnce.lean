import AntSeed.Buyer.CountedRequests
import AntSeed.Buyer.UsageMetadata

/-! # A delivered request is counted once

A delivered response is reported twice: by the seller's NeedAuth, and by the
response itself. Either may come first, and may come again. The one that comes
first counts the request; the other may only sign what was left unsigned.
-/

namespace AntSeed.Buyer

open Async Protocol
open CountedRequestTracker
open List Account

/-- What a response used, as one of the paths reads it. -/
structure RequestUsage where
  inputTokens : Nat
  cachedInputTokens : Nat
  outputTokens : Nat
  outputImages : Nat
  videoGenerations : Nat
  videoSeconds : Nat
  deriving DecidableEq, Repr

def RequestUsage.delta (usage : RequestUsage) (amount : Int) : ServiceMetadataDelta where
  amount := amount.toNat
  inputTokens := usage.inputTokens
  cachedInputTokens := usage.cachedInputTokens
  outputTokens := usage.outputTokens
  requests := 1
  outputImages := usage.outputImages
  videoGenerations := some usage.videoGenerations
  videoSeconds := some usage.videoSeconds

/-- What the buyer hears of a response. The service is the buyer's own knowledge. -/
inductive Report where
  | response (stats : ResponseStats) (usage : RequestUsage) (service : Option String)
  | needAuth (payload : NeedAuthPayload) (usage : RequestUsage) (service : Option String)

namespace Report

def requestId : Report → Option String
  | .response stats _ _ => stats.requestId
  | .needAuth payload _ _ => payload.requestId

def usage : Report → RequestUsage
  | .response _ usage _ => usage
  | .needAuth _ usage _ => usage

def service : Report → Option String
  | .response _ _ service => service
  | .needAuth _ _ service => service

/-- A NeedAuth may also ask for headroom alone. -/
def deliveredResponse : Report → Bool
  | .response _ _ _ => true
  | .needAuth payload _ _ => payload.claim.isDelivered

/-- The cost of the request that the path accepts, if it accepts it. -/
def acceptedCost : Report → Int
  | .response stats _ _ => stats.acceptedCost
  | .needAuth payload _ _ => payload.claim.claimedCost

def run (config : BuyerPaymentConfig) : Report → Op Unit
  | .response stats _ _ => sendPerRequestAuth config stats
  | .needAuth payload _ _ => handleNeedAuth config payload

/-- What of the signed amount is the request's: for a response all of it, for a NeedAuth no more than its
    cost, the rest being headroom. -/
def serviceAmount (signedDelta : Int) : Report → Int
  | .response _ _ _ => signedDelta
  | .needAuth payload _ _ =>
    if payload.claim.claimedCost > 0 then min payload.claim.claimedCost signedDelta else 0

def isNew (s : Account) (report : Report) : Bool :=
  report.deliveredResponse && !s.serviceTokensCounted.has report.requestId

/-- What its SpendingAuth adds to the usage. The remainder of a request that is counted already is still
    its service's amount. -/
def delta (s : Account) (signedDelta : Int) (report : Report) : ServiceMetadataDelta :=
  let normalized := normalizeRequestUsageDelta (report.usage.delta (report.serviceAmount signedDelta))
    report.deliveredResponse (s.serviceTokensCounted.has report.requestId)
  match report with
  | .response _ _ _ => { normalized with amount := signedDelta.toNat }
  | .needAuth _ _ _ => normalized

end Report

/-- The account, with the usage that goes with what it signed. -/
structure Meter where
  account : Account
  metadata : Option SpendingAuthMetadata

/-- One of the paths, from beginning to end. -/
structure Passage where
  before : Meter
  report : Report
  after : Meter

/-- What the signed amount advances by. -/
def Passage.signedDelta (passage : Passage) : Int :=
  passage.after.account.signedSoFar - passage.before.account.signedSoFar

section Runs

variable (config : BuyerPaymentConfig) (id : String → Nat) (disableMetadataV2Services : Bool)

/-- The usage is written together with the books, when a SpendingAuth goes out. -/
def Meter.usageAfter (m : Meter) (report : Report) (s' : Account) : Option SpendingAuthMetadata :=
  if s'.spendingAuths = m.account.spendingAuths then m.metadata
  else some (nextUsageMetadata id disableMetadataV2Services m.metadata report.service
    (report.delta m.account (s'.signedSoFar - m.account.signedSoFar)))

def Meter.passage (m : Meter) (report : Report) (s' : Account) : Passage :=
  ⟨m, report, ⟨s', m.usageAfter id disableMetadataV2Services report s'⟩⟩

/-- Passages one after the other, the latest first. Between them anything else may happen to the account: no
    other path touches the counted requests. -/
inductive Passages (m₀ : Meter) : List Passage → Meter → Prop where
  | start : Passages m₀ [] m₀
  | aside {run m m'} : Passages m₀ run m →
      m'.account.serviceTokensCounted = m.account.serviceTokensCounted → Passages m₀ run m'
  | next {run m report s'} : Passages m₀ run m → (report.run config).Ends m.account () s' →
      Passages m₀ (m.passage id disableMetadataV2Services report s' :: run)
        (m.passage id disableMetadataV2Services report s').after

end Runs

def Meter.overall (c : Counter) (m : Meter) : Int := Buyer.overall (m.metadata.getD ZERO_METADATA) c

/-- The counters of the services, added up. -/
def Meter.byService (c : Counter) (m : Meter) : Int := total c (m.metadata.getD ZERO_METADATA).listed

def gained (f : Passage → Int) (requestId : String) (run : List Passage) : Int :=
  ((run.filter fun passage => passage.report.requestId = some requestId).map f).sum

/-- How much a measure grows in a passage. -/
def Passage.growth (measure : Meter → Int) (passage : Passage) : Int :=
  measure passage.after - measure passage.before

/-- What is signed for the request and goes to its service. -/
def Passage.booked (passage : Passage) : Int :=
  (passage.report.delta passage.before.account passage.signedDelta).amount

def Passage.verifiedByResponse (passage : Passage) : Int :=
  match passage.report with
  | .response _ _ _ => passage.after.account.verifiedCost.getD 0 - passage.before.account.verifiedCost.getD 0
  | .needAuth _ _ _ => 0

/-- What one delivery counts as; amounts go apart. -/
def Report.used (c : Counter) (report : Report) : Int := (report.usage.delta 0).counter c

/-- The buyer's own estimate, which only a response comes with. -/
def Report.estimate : Report → Int
  | .response stats _ _ => stats.verifiedCostDelta
  | .needAuth _ _ _ => 0

def Report.cost (report : Report) : Int := max report.acceptedCost 0

/-- The path counts the request, which was not counted before. -/
def Passage.counts (requestId : String) (passage : Passage) : Prop :=
  passage.before.account.serviceTokensCounted.has (some requestId) = false ∧
    passage.after.account.serviceTokensCounted.has (some requestId)

/-- The passages of a request come to one delivery of it at most, less what is still owed; to nothing if none
    counted it. -/
structure CountedOnce (requestId : String) (run : List Passage) (delivery : Option Report) (owed : Int) : Prop where
  heard : ∀ report ∈ delivery, report.deliveredResponse ∧ report.requestId = some requestId ∧
    ∃ passage ∈ run, passage.report = report ∧ passage.counts requestId
  overall : ∀ c, c ≠ .amount → gained (Passage.growth (Meter.overall c)) requestId run ≤ delivery.elim 0 (Report.used c)
  byService : ∀ c, c ≠ .amount →
    gained (Passage.growth (Meter.byService c)) requestId run ≤ delivery.elim 0 (Report.used c)
  amount : gained (Passage.growth (Meter.byService .amount)) requestId run ≤ gained Passage.booked requestId run
  booked : gained Passage.booked requestId run + owed ≤ delivery.elim 0 Report.cost
  verified : gained Passage.verifiedByResponse requestId run ≤ delivery.elim 0 Report.estimate

structure Passage.Adds (passage : Passage) (used : Counter → Int) (booked estimate : Int) : Prop where
  overall : ∀ c, c ≠ .amount → passage.growth (Meter.overall c) ≤ used c
  byService : ∀ c, c ≠ .amount → passage.growth (Meter.byService c) ≤ used c
  amount : passage.growth (Meter.byService .amount) ≤ passage.booked
  booked : passage.booked = booked
  verified : passage.verifiedByResponse = estimate

section Gained

variable {f : Passage → Int} {requestId : String} {passage : Passage} {run : List Passage}
  {delivery delivery' : Option Report} {owed owed' : Int} {used : Counter → Int} {booked estimate : Int}

theorem gained_named (named : passage.report.requestId = some requestId) :
    gained f requestId (passage :: run) = f passage + gained f requestId run := by
  simp [gained, named]

theorem gained_other (other : passage.report.requestId ≠ some requestId) :
    gained f requestId (passage :: run) = gained f requestId run := by
  simp [gained, other]

theorem countedOnce_start : CountedOnce requestId [] none 0 where
  heard report here := absurd here (Option.not_mem_none report)
  overall _ _ := le_rfl
  byService _ _ := le_rfl
  amount := le_rfl
  booked := le_rfl
  verified := le_rfl

section

variable (once : CountedOnce requestId run delivery owed)

include once

theorem CountedOnce.heard_cons : ∀ report ∈ delivery,
    report.deliveredResponse ∧ report.requestId = some requestId ∧
      ∃ earlier ∈ passage :: run, earlier.report = report ∧ earlier.counts requestId := by
  intro report here
  obtain ⟨delivered, names, earlier, among, same⟩ := once.heard report here
  exact ⟨delivered, names, earlier, mem_cons_of_mem _ among, same⟩

theorem CountedOnce.other
    (other : passage.report.requestId ≠ some requestId) : CountedOnce requestId (passage :: run) delivery owed where
  heard := once.heard_cons
  overall c usage := (gained_other other).trans_le (once.overall c usage)
  byService c usage := (gained_other other).trans_le (once.byService c usage)
  amount := by simpa only [gained_other other] using once.amount
  booked := by simpa only [gained_other other] using once.booked
  verified := (gained_other other).trans_le once.verified

theorem CountedOnce.next
    (named : passage.report.requestId = some requestId) (adds : passage.Adds used booked estimate)
    (heard : ∀ report ∈ delivery', report.deliveredResponse ∧ report.requestId = some requestId ∧
      ∃ earlier ∈ passage :: run, earlier.report = report ∧ earlier.counts requestId)
    (counts : ∀ c, used c + delivery.elim 0 (Report.used c) ≤ delivery'.elim 0 (Report.used c))
    (pays : booked + owed' + delivery.elim 0 Report.cost ≤ owed + delivery'.elim 0 Report.cost)
    (estimates : estimate + delivery.elim 0 Report.estimate ≤ delivery'.elim 0 Report.estimate) :
    CountedOnce requestId (passage :: run) delivery' owed' where
  heard := heard
  overall c usage := by
    rw [gained_named named]
    exact (add_le_add (adds.overall c usage) (once.overall c usage)).trans (counts c)
  byService c usage := by
    rw [gained_named named]
    exact (add_le_add (adds.byService c usage) (once.byService c usage)).trans (counts c)
  amount := by
    rw [gained_named named, gained_named named]
    exact add_le_add adds.amount once.amount
  booked := by
    have before := once.booked
    rw [gained_named named, adds.booked]
    omega
  verified := by
    rw [gained_named named, adds.verified]
    exact (add_le_add_right once.verified _).trans estimates

theorem CountedOnce.again
    (named : passage.report.requestId = some requestId) (adds : passage.Adds (fun _ => 0) booked 0) :
    CountedOnce requestId (passage :: run) delivery (owed - booked) :=
  once.next named adds once.heard_cons (fun _ => (zero_add _).le) (by omega) (zero_add _).le

end

theorem CountedOnce.first (once : CountedOnce requestId run none 0) (named : passage.report.requestId = some requestId)
    (delivered : passage.report.deliveredResponse) (counts : passage.counts requestId)
    (adds : passage.Adds (fun c => passage.report.used c) booked passage.report.estimate)
    (pays : booked + owed' ≤ passage.report.cost) :
    CountedOnce requestId (passage :: run) (some passage.report) owed' := by
  refine once.next named adds ?_ (fun _ => (add_zero _).le) ?_ (add_zero _).le
  · intro report here
    obtain rfl := Option.mem_some_iff.mp here
    exact ⟨delivered, named, passage, mem_cons_self, rfl, counts⟩
  · simpa using pays

end Gained

section Step

variable {config : BuyerPaymentConfig} {id : String → Nat} {disableMetadataV2Services : Bool} {m : Meter}
  {report : Report} {s' : Account} {c : Counter} {stats : ResponseStats} {payload : NeedAuthPayload}
  {usage : RequestUsage} {service : Option String}

variable {s : Account}

theorem respond_written (went : (s.respond config stats).Authorized s') :
    let alreadyCounted := s.serviceTokensCounted.has stats.requestId
    let signedDelta := s'.signedSoFar - s.signedSoFar
    s'.serviceTokensCounted = (if alreadyCounted then s.serviceTokensCounted.pay stats.requestId signedDelta
        else s.serviceTokensCounted.mark stats.requestId 0) ∧
      0 ≤ signedDelta ∧
      signedDelta ≤ max (if alreadyCounted then s.serviceTokensCounted.unpaid stats.requestId else stats.acceptedCost) 0 ∧
      s'.verifiedCost.getD 0 - s.verifiedCost.getD 0 = if alreadyCounted then 0 else stats.verifiedCostDelta := by
  have signed : s'.signedSoFar = s.responseAmount config stats := by
    rw [signedSoFar, went.cumulativeAmount]
    rfl
  rw [signed, went.counted, went.verifiedCost]
  refine ⟨rfl, ?_, ?_, ?_⟩
  · unfold responseAmount
    dsimp only
    omega
  · unfold responseAmount
    dsimp only
    omega
  · change s.verifiedCost.getD 0 + _ - s.verifiedCost.getD 0 = _
    omega

theorem verified_needAuth : (s.needAuth config payload cost).verifiedCost.getD 0
    ≤ max (s.verifiedCost.getD 0) (max s.signedSoFar (s.verifiedCost.getD 0 + cost)) := by
  unfold needAuth
  cases found : s.answer config payload.requiredCumulativeAmount s.signedSoFar cost with
  | none => exact le_max_left _ _
  | some =>
    have verified := (answer_le found).1
    dsimp only
    split
    · exact le_max_left _ _
    · exact verified.trans (le_max_right _ _)

/-- A NeedAuth that is answered counts the request if nothing did, and leaves unpaid what it does not sign. -/
theorem needAuth_written (went : (s.needAuth config payload payload.claim.claimedCost).Authorized s')
    (more : s.signedSoFar < s'.signedSoFar) : s'.serviceTokensCounted
      = if (Report.needAuth payload usage service).isNew s then
          s.serviceTokensCounted.mark payload.requestId (payload.claim.claimedCost
            - (Report.needAuth payload usage service).serviceAmount (s'.signedSoFar - s.signedSoFar))
        else s.serviceTokensCounted := by
  have signed : s'.signedSoFar = (s.needAuth config payload payload.claim.claimedCost).signedSoFar := by
    rw [signedSoFar, went.cumulativeAmount]
    rfl
  rw [went.counted, signed]
  rw [signed] at more
  unfold needAuth at more ⊢
  cases found : s.answer config payload.requiredCumulativeAmount s.signedSoFar payload.claim.claimedCost with
  | none => simp [found] at more
  | some =>
    simp only [found] at more ⊢
    split at more
    · exact absurd more (lt_irrefl _)
    next above =>
      rw [if_neg above]
      refine if_congr ?_ rfl rfl
      simp [Report.isNew, Report.deliveredResponse, Report.requestId]

/-- What one passage counts of a delivery. -/
def Report.usedBy (report : Report) (s : Account) (c : Counter) : Int := if report.isNew s then report.used c else 0

theorem usedBy_new (new : report.isNew s) : report.usedBy s = fun c => report.used c :=
  funext fun _ => if_pos new

theorem usedBy_old (old : ¬ report.isNew s) : report.usedBy s = fun _ => 0 :=
  funext fun _ => if_neg old

theorem counter_delta (usage : c ≠ .amount) :
    (report.delta s signedDelta).counter c = report.usedBy s c := by
  have normalized : ((normalizeRequestUsageDelta (report.usage.delta (report.serviceAmount signedDelta))
      report.deliveredResponse (s.serviceTokensCounted.has report.requestId)).counter c : Int) = report.usedBy s c := by
    rw [counter_normalize, Report.usedBy, Report.isNew]
    cases report.deliveredResponse <;> cases s.serviceTokensCounted.has report.requestId <;>
      cases c <;> first | exact absurd rfl usage | rfl
  cases report with
  | needAuth => exact normalized
  | response =>
    rw [← normalized]
    cases c <;> first | exact absurd rfl usage | rfl

theorem amount_needAuth (positive : 0 ≤ signedDelta) :
    (((Report.needAuth payload usage service).delta s signedDelta).amount : Int)
      = if (Report.needAuth payload usage service).isNew s then
          (Report.needAuth payload usage service).serviceAmount signedDelta
        else 0 := by
  have amount : ((Report.needAuth payload usage service).serviceAmount signedDelta).toNat
      = (Report.needAuth payload usage service).serviceAmount signedDelta := by
    refine Int.toNat_of_nonneg ?_
    unfold Report.serviceAmount
    dsimp only
    split_ifs <;> omega
  rw [← amount]
  unfold Report.delta Report.isNew normalizeRequestUsageDelta
  dsimp only
  cases Report.deliveredResponse (.needAuth payload usage service) <;>
    cases s.serviceTokensCounted.has (Report.requestId (.needAuth payload usage service)) <;> rfl

theorem growth_quiet {measure : Meter → Int} (metadata : ∀ m m' : Meter, m'.metadata = m.metadata → measure m' = measure m)
    (quiet : m.account.Quiet s') : (m.passage id disableMetadataV2Services report s').growth measure = 0 :=
  sub_eq_zero.mpr (metadata m _ (if_pos quiet.auths))

theorem adds_quiet (quiet : m.account.Quiet s') :
    (m.passage id disableMetadataV2Services report s').Adds (fun _ => 0) 0 0 := by
  have still : s'.signedSoFar - m.account.signedSoFar = 0 := by
    simp [signedSoFar, quiet.cumulativeAmount]
  have nothing : (m.passage id disableMetadataV2Services report s').booked = 0 := by
    change ((report.delta m.account (s'.signedSoFar - m.account.signedSoFar)).amount : Int) = 0
    rw [still]
    cases report with
    | response => rfl
    | needAuth =>
      rw [amount_needAuth le_rfl, Report.serviceAmount]
      split_ifs <;> omega
  refine ⟨fun c _ => ?_, fun c _ => ?_, ?_, nothing, ?_⟩
  · exact (growth_quiet (fun m m' same => by rw [Meter.overall, same, Meter.overall]) quiet).le
  · exact (growth_quiet (fun m m' same => by rw [Meter.byService, same, Meter.byService]) quiet).le
  · rw [nothing]
    exact (growth_quiet (fun m m' same => by rw [Meter.byService, same, Meter.byService]) quiet).le
  · cases report with
    | needAuth => rfl
    | response => exact sub_eq_zero.mpr (congrArg (·.getD 0) quiet.verifiedCost)

theorem adds_written {amount estimate : Int} (went : s'.spendingAuths = m.account.spendingAuths + 1)
    (booked : (m.passage id disableMetadataV2Services report s').booked = amount)
    (verified : (m.passage id disableMetadataV2Services report s').verifiedByResponse = estimate) :
    (m.passage id disableMetadataV2Services report s').Adds (report.usedBy m.account) amount estimate := by
  have next : (m.passage id disableMetadataV2Services report s').after.metadata = some (nextUsageMetadata id
      disableMetadataV2Services m.metadata report.service (report.delta m.account (s'.signedSoFar - m.account.signedSoFar))) :=
    if_neg (by omega)
  have overall : ∀ c, (m.passage id disableMetadataV2Services report s').growth (Meter.overall c)
      ≤ (report.delta m.account (s'.signedSoFar - m.account.signedSoFar)).counter c := by
    intro c
    have bound := @overall_next_le id disableMetadataV2Services c m.metadata report.service
      (report.delta m.account (s'.signedSoFar - m.account.signedSoFar))
    rw [Passage.growth, Meter.overall, Meter.overall, next, Option.getD_some]
    change _ - (Buyer.overall (m.metadata.getD ZERO_METADATA) c : Int) ≤ _
    omega
  have byService : ∀ c, (m.passage id disableMetadataV2Services report s').growth (Meter.byService c)
      ≤ (report.delta m.account (s'.signedSoFar - m.account.signedSoFar)).counter c := by
    intro c
    have bound := @total_next_le id disableMetadataV2Services c m.metadata report.service
      (report.delta m.account (s'.signedSoFar - m.account.signedSoFar))
    rw [Passage.growth, Meter.byService, Meter.byService, next, Option.getD_some]
    change _ - (total c (m.metadata.getD ZERO_METADATA).listed : Int) ≤ _
    omega
  exact ⟨fun c usage => (overall c).trans (counter_delta usage).le, fun c usage => (byService c).trans (counter_delta usage).le,
    byService .amount, booked, verified⟩

end Step

/-- Where a request stands: not counted, or counted with what is still owed for it. -/
inductive Standing (requestId : String) (names : List String) (run : List Passage) (tracker : CountedRequestTracker) :
    Prop where
  | uncounted : tracker.has (some requestId) = false → CountedOnce requestId run none 0 → Standing requestId names run tracker
  | counted {delivery owed} : tracker.Holds requestId owed names → 0 ≤ owed →
      CountedOnce requestId run (some delivery) owed → Standing requestId names run tracker

section Standing

variable {config : BuyerPaymentConfig} {id : String → Nat} {disableMetadataV2Services : Bool} {m : Meter}
  {report : Report} {s' : Account} {requestId : String} {names : List String} {run : List Passage}

theorem report_step (ends : (report.run config).Ends m.account () s') :
    m.account.serviceTokensCounted.Step report.requestId s'.serviceTokensCounted := by
  cases report with
  | response =>
    cases sendPerRequestAuth_alone.ends ends with
    | inl quiet => exact quiet.counted ▸ .same
    | inr went =>
      rw [(respond_written went).1]
      split
      · exact .pay
      next new => exact .mark (Bool.eq_false_of_not_eq_true new)
  | needAuth payload usage service =>
    cases handleNeedAuth_alone.ends ends with
    | inl quiet => exact quiet.counted ▸ .same
    | inr done =>
      obtain ⟨cost, accepted, went, more⟩ := done
      obtain rfl := accepted_claims accepted
      rw [@needAuth_written _ _ _ usage service _ went more]
      split
      next new =>
        refine .mark ?_
        simpa [Report.isNew, Report.requestId] using (Bool.and_eq_true_iff.mp new).2
      · exact .same

theorem Standing.idle (standing : Standing requestId names run tracker)
    (named : passage.report.requestId = some requestId) (adds : passage.Adds (fun _ => 0) 0 0) :
    Standing requestId names (passage :: run) tracker := by
  cases standing with
  | uncounted new once => exact .uncounted new (once.again named adds)
  | @counted delivery owed holds positive once => exact .counted holds positive (sub_zero owed ▸ once.again named adds)

section

variable (standing : Standing requestId names run m.account.serviceTokensCounted)

include standing

theorem standing_response (valid : requestId ≠ "")
    (named : stats.requestId = some requestId) (went : (m.account.respond config stats).Authorized s')
    (among : m.account.serviceTokensCounted.has (some requestId) = false → requestId ∈ names) :
    Standing requestId names (m.passage id disableMetadataV2Services (.response stats usage service) s' :: run)
      s'.serviceTokensCounted := by
  obtain ⟨tracker, positive, within, verified⟩ := respond_written went
  have adds := @adds_written id disableMetadataV2Services m (.response stats usage service) s'
    (s'.signedSoFar - m.account.signedSoFar) _ went.auths (Int.toNat_of_nonneg positive) verified
  rw [named] at tracker within adds
  rw [tracker]
  cases standing with
  | uncounted new once =>
    have isNew : Report.isNew m.account (.response stats usage service) := by
      simp [Report.isNew, Report.deliveredResponse, Report.requestId, named, new]
    simp only [new, Bool.false_eq_true, if_false] at within adds ⊢
    rw [usedBy_new isNew] at adds
    have counts : (m.passage id disableMetadataV2Services (.response stats usage service) s').counts requestId := by
      refine ⟨new, ?_⟩
      change s'.serviceTokensCounted.has (some requestId)
      rw [tracker, if_neg (by simp [new]), has_iff, keys_mark valid new]
      exact mem_append_right _ (mem_singleton_self _)
    exact .counted (holds_mark valid new (among new)) (le_max_right 0 0)
      (once.first named rfl counts adds ((add_zero _).trans_le within))
  | counted holds owed once =>
    have old : ¬ Report.isNew m.account (.response stats usage service) := by
      simp [Report.isNew, Report.requestId, named, holds.known]
    simp only [holds.known, if_true] at within adds ⊢
    rw [usedBy_old old] at adds
    have unpaid : m.account.serviceTokensCounted.unpaid (some requestId) = _ := holds.unpaid_eq valid
    rw [unpaid, max_eq_left owed] at within
    exact .counted (holds.pay valid positive within) (by omega) (once.again named adds)

theorem standing_needAuth (valid : requestId ≠ "")
    (named : payload.requestId = some requestId)
    (went : (m.account.needAuth config payload payload.claim.claimedCost).Authorized s')
    (more : m.account.signedSoFar < s'.signedSoFar)
    (among : m.account.serviceTokensCounted.has (some requestId) = false →
      s'.serviceTokensCounted.has (some requestId) → requestId ∈ names) :
    Standing requestId names (m.passage id disableMetadataV2Services (.needAuth payload usage service) s' :: run)
      s'.serviceTokensCounted := by
  have tracker := @needAuth_written _ _ _ usage service _ went more
  have auths : s'.spendingAuths = m.account.spendingAuths + 1 :=
    went.auths.trans (congrArg (· + 1) spendingAuths_needAuth)
  have booked : (m.passage id disableMetadataV2Services (.needAuth payload usage service) s').booked
      = if (Report.needAuth payload usage service).isNew m.account then
          (Report.needAuth payload usage service).serviceAmount (s'.signedSoFar - m.account.signedSoFar)
        else 0 :=
    amount_needAuth (sub_nonneg.mpr more.le)
  have adds := @adds_written id disableMetadataV2Services m (.needAuth payload usage service) s' _ 0 auths booked rfl
  by_cases new : Report.isNew m.account (.needAuth payload usage service)
  · have fresh : payload.claim.isDelivered ∧ m.account.serviceTokensCounted.has payload.requestId = false := by
      simpa [Report.isNew, Report.deliveredResponse, Report.requestId] using new
    rw [if_pos new, named] at tracker
    rw [named] at fresh
    rw [usedBy_new new, if_pos new] at adds
    cases standing with
    | counted holds => exact absurd holds.known (by simp [fresh.2])
    | uncounted _ once =>
      have known : s'.serviceTokensCounted.has (some requestId) := by
        rw [tracker, has_iff, keys_mark valid fresh.2]
        exact mem_append_right _ (mem_singleton_self _)
      rw [tracker]
      refine .counted (holds_mark valid fresh.2 (among fresh.2 known)) (le_max_right _ 0)
        (once.first named fresh.1 ⟨fresh.2, known⟩ adds ?_)
      change _ ≤ max payload.claim.claimedCost 0
      unfold Report.serviceAmount
      dsimp only
      split_ifs <;> omega
  · rw [if_neg new] at tracker
    rw [usedBy_old new, if_neg new] at adds
    rw [tracker]
    exact standing.idle named adds

theorem Standing.named (valid : requestId ≠ "")
    (named : report.requestId = some requestId) (ends : (report.run config).Ends m.account () s')
    (room : ∀ id, m.account.serviceTokensCounted.has (some id) = false → s'.serviceTokensCounted.has (some id) → id ∈ names) :
    Standing requestId names (m.passage id disableMetadataV2Services report s' :: run) s'.serviceTokensCounted := by
  have idle : m.account.Quiet s' →
      Standing requestId names (m.passage id disableMetadataV2Services report s' :: run) s'.serviceTokensCounted := by
    intro quiet
    rw [quiet.counted]
    exact standing.idle named (adds_quiet quiet)
  cases report with
  | response stats =>
    cases sendPerRequestAuth_alone.ends ends with
    | inl quiet => exact idle quiet
    | inr went =>
      refine standing_response standing valid named went fun new => room requestId new ?_
      rw [(respond_written went).1]
      change stats.requestId = some requestId at named
      rw [named, new, if_neg Bool.false_ne_true, has_iff, keys_mark valid new]
      exact mem_append_right _ (mem_singleton_self _)
  | needAuth =>
    cases handleNeedAuth_alone.ends ends with
    | inl quiet => exact idle quiet
    | inr done =>
      obtain ⟨cost, accepted, went, more⟩ := done
      obtain rfl := accepted_claims accepted
      exact standing_needAuth standing valid named went more (room requestId)

theorem Standing.other
    (distinct : m.account.serviceTokensCounted.keys.Nodup) (few : names.length ≤ limit)
    (other : report.requestId ≠ some requestId) (ends : (report.run config).Ends m.account () s')
    (room : ∀ id, m.account.serviceTokensCounted.has (some id) = false → s'.serviceTokensCounted.has (some id) → id ∈ names) :
    Standing requestId names (m.passage id disableMetadataV2Services report s' :: run) s'.serviceTokensCounted := by
  have step := report_step ends
  cases standing with
  | uncounted new once => exact .uncounted (step.uncounted other new) (once.other other)
  | counted holds owed once => exact .counted (holds.step distinct few step other room) owed (once.other other)

end

end Standing

def Counts (names : List String) (run : List Passage) : Prop :=
  ∀ passage ∈ run, ∀ id, passage.before.account.serviceTokensCounted.has (some id) = false →
    passage.after.account.serviceTokensCounted.has (some id) → id ∈ names

section Once

variable {config : BuyerPaymentConfig} {id : String → Nat} {disableMetadataV2Services : Bool} {m₀ m : Meter}
  {requestId : String} {names : List String} {run : List Passage}

theorem passages_nodup (distinct : m₀.account.serviceTokensCounted.keys.Nodup)
    (passages : Passages config id disableMetadataV2Services m₀ run m) : m.account.serviceTokensCounted.keys.Nodup := by
  induction passages with
  | start => exact distinct
  | aside _ same ih => exact same ▸ ih
  | next _ ends ih => exact (report_step ends).nodup ih

theorem passages_standing (distinct : m₀.account.serviceTokensCounted.keys.Nodup)
    (new : m₀.account.serviceTokensCounted.has (some requestId) = false) (valid : requestId ≠ "")
    (few : names.length ≤ limit)
    (passages : Passages config id disableMetadataV2Services m₀ run m) (room : Counts names run) :
    Standing requestId names run m.account.serviceTokensCounted := by
  induction passages with
  | start => exact .uncounted new countedOnce_start
  | aside _ same ih => exact same ▸ ih room
  | @next run m report s' earlier ends ih =>
    have standing := ih fun passage here => room passage (mem_cons_of_mem _ here)
    have now := room _ mem_cons_self
    by_cases named : report.requestId = some requestId
    · exact standing.named valid named ends now
    · exact standing.other (passages_nodup distinct earlier) few named ends now

/-- A NeedAuth adds its own cost to the verified cost, or brings it up to what was signed before. -/
theorem passages_needAuth (passages : Passages config id disableMetadataV2Services m₀ run m) :
    ∀ passage ∈ run, ∀ payload usage service, passage.report = .needAuth payload usage service →
      passage.after.account.verifiedCost.getD 0 ≤ max passage.before.account.signedSoFar
        (passage.before.account.verifiedCost.getD 0 + passage.report.cost) := by
  induction passages with
  | start => exact fun passage here => absurd here not_mem_nil
  | aside _ _ ih => exact ih
  | @next run m report s' earlier ends ih =>
    intro passage here payload usage service same
    cases mem_cons.mp here with
    | inr among => exact ih passage among payload usage service same
    | inl now =>
      subst now
      subst same
      change s'.verifiedCost.getD 0 ≤ max m.account.signedSoFar
        (m.account.verifiedCost.getD 0 + max payload.claim.claimedCost 0)
      cases handleNeedAuth_alone.ends ends with
      | inl quiet =>
        rw [quiet.verifiedCost]
        omega
      | inr done =>
        obtain ⟨cost, accepted, went, _⟩ := done
        obtain rfl := accepted_claims accepted
        rw [went.verifiedCost]
        exact verified_needAuth.trans (by omega)

end Once

/-- In any order and with any repetitions, the passages of a request come to one delivery of it: that of the path
    that counted it. They book no more for it than was accepted then. A response adds the buyer's estimate to the
    verified cost, if it counted the request; a NeedAuth adds its own cost, or brings the verified cost up to what
    was signed before. -/
theorem delivered_once {config : BuyerPaymentConfig} {id : String → Nat} {disableMetadataV2Services : Bool} {m₀ m : Meter}
    {requestId : String} {names : List String} {run : List Passage}
    (distinct : m₀.account.serviceTokensCounted.keys.Nodup)
    (new : m₀.account.serviceTokensCounted.has (some requestId) = false) (valid : requestId ≠ "")
    (few : names.length ≤ limit)
    (passages : Passages config id disableMetadataV2Services m₀ run m) (room : Counts names run) :
    (∃ delivery owed, 0 ≤ owed ∧ CountedOnce requestId run delivery owed) ∧
      ∀ passage ∈ run, ∀ payload usage service, passage.report = .needAuth payload usage service →
        passage.after.account.verifiedCost.getD 0 ≤ max passage.before.account.signedSoFar
          (passage.before.account.verifiedCost.getD 0 + passage.report.cost) := by
  refine ⟨?_, passages_needAuth passages⟩
  cases passages_standing distinct new valid few passages room with
  | uncounted _ once => exact ⟨none, 0, le_rfl, once⟩
  | counted _ owed once => exact ⟨_, _, owed, once⟩

def freshMeter : Meter := ⟨untouchedChannel, none⟩

def textUsage : RequestUsage := ⟨100, 0, 20, 0, 0, 0⟩

/-- A response for which the seller claims half of what the buyer estimates. -/
def cheapResponse : Report := .response ⟨some "request", some 5, 10, 20, 10⟩ textUsage (some "text")

/-- A NeedAuth for the response, which asks for more than its cost. -/
def earlyNeedAuth : Report := .needAuth ⟨"channel", 50, some "request", .cost 10 (some 10) false false⟩ textUsage (some "text")

def Meter.granted (m : Meter) (report : Report) : Passage :=
  m.passage String.length false report ((report.run overdraftConfig).runWith (fun _ => .done) m.account).2

theorem granted_passages (report : Report)
    (earlier : Passages overdraftConfig String.length false freshMeter run m) :
    Passages overdraftConfig String.length false freshMeter (m.granted report :: run) (m.granted report).after :=
  .next earlier ends_runWith

/-- The verified cost grows by the estimate where less was accepted, and headroom is signed on top of a cost. -/
theorem one_report_exceeds_cost :
    (∃ m, Passages overdraftConfig String.length false freshMeter [freshMeter.granted cheapResponse] m ∧
      ¬ gained (Passage.growth fun m => m.account.verifiedCost.getD 0) "request" [freshMeter.granted cheapResponse]
        ≤ cheapResponse.acceptedCost) ∧
    ∃ m, Passages overdraftConfig String.length false freshMeter [freshMeter.granted earlyNeedAuth] m ∧
      ¬ gained Passage.signedDelta "request" [freshMeter.granted earlyNeedAuth] ≤ earlyNeedAuth.acceptedCost :=
  ⟨⟨_, granted_passages cheapResponse .start, by decide +kernel⟩,
    ⟨_, granted_passages earlyNeedAuth .start, by decide +kernel⟩⟩

/-- The response is already counted when it comes. -/
theorem delivered_once_twice : ∃ delivery owed, 0 ≤ owed ∧ CountedOnce "request"
    [(freshMeter.granted earlyNeedAuth).after.granted cheapResponse, freshMeter.granted earlyNeedAuth] delivery owed := by
  have counted : (freshMeter.granted earlyNeedAuth).after.account.serviceTokensCounted = [("request", 0)] := by
    decide +kernel
  have still : ((freshMeter.granted earlyNeedAuth).after.granted cheapResponse).after.account.serviceTokensCounted
      = [("request", 0)] := by
    decide +kernel
  have room : Counts ["request"]
      [(freshMeter.granted earlyNeedAuth).after.granted cheapResponse, freshMeter.granted earlyNeedAuth] := by
    intro passage here id _ known
    cases mem_cons.mp here with
    | inl last => simpa [last, still, has, eq_comm] using known
    | inr earlier =>
      rw [mem_singleton.mp earlier, counted] at known
      simpa [has, eq_comm] using known
  have distinct : freshMeter.account.serviceTokensCounted.keys.Nodup := nodup_nil
  exact (delivered_once distinct rfl (by decide) (by decide)
    (granted_passages cheapResponse (granted_passages earlyNeedAuth .start)) room).1

end AntSeed.Buyer
