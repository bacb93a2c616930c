import AntSeed.FreeTier.BackEnds

/-! # Runs of the free tier

A ledger that forgets nothing decides what the disk and the memory decide. Limits hold in every window of
the ledger, so they hold for both.
-/

namespace AntSeed.FreeTier

open SlidingWindow
open SellerFreeTierLimiter Admission
open List Machine

/-- What a limiter is asked. -/
inductive Ask where
  | consume (service : String) (paid : Bool) (input : FreeTierConsumeInput)
  | check (input : FreeTierConsumeInput)

def Ask.input : Ask → FreeTierConsumeInput
  | .consume _ _ input => input
  | .check input => input

def Ask.nowMs (ask : Ask) : Int := ask.input.nowMs

namespace SellerFreeTierLimiter

variable (limiter : SellerFreeTierLimiter)

def answer (backEnd : BackEnd) : Ask → Except String (Option FreeTierDecision) × BackEnd
  | .consume service paid input =>
    let (decision, backEnd) := limiter.consume backEnd service paid input
    (decision.map some, backEnd)
  | .check input => limiter.check backEnd input

/-- The limits that apply to a request. -/
def limitsOf (policy : FreeTierPolicy) (input : FreeTierConsumeInput) : List FreeTierLimit :=
  InMemoryUsage.limits policy input.buyerAddress (limiter.remoteIpOf input) (policy.standingOf input)
    (policy.ownerLimitOf input)

/-- The request that was admitted, if it was. -/
def admitted (backEnd : BackEnd) : Ask → List Admission
  | .consume service paid input =>
    match limiter.policyFor service paid, (limiter.answer backEnd (.consume service paid input)).1 with
    | some policy, .ok (some decision) =>
      admits policy (limiter.limitsOf policy input) input.nowMs decision.consumption.allowed true
    | _, _ => []
  | .check _ => []

/-- Whether the memory has room for what a request may add to it. -/
def hasRoom (backEnd : BackEnd) : Ask → Bool
  | .consume service paid input =>
    match backEnd, limiter.policyFor service paid with
    | .memory usage, some policy =>
      (usage.pruneExpiredBuckets (input.nowMs - limiter.retentionMs)).hasRoom
        (InMemoryUsage.bucketsOf (usage.trackAll policy input.nowMs (limiter.limitsOf policy input)))
    | _, _ => true
  | .check _ => true

/-- A limiter with its back end, asked one thing after the other. -/
def limited : Machine BackEnd Ask Empty where
  step backEnd ask := .ok (limiter.answer backEnd ask).2

/-- What `isIP` of the runtime promises. -/
structure IpOnly : Prop where
  empty : limiter.isIP "" = 0
  barless : ∀ ip, limiter.isIP ip ≠ 0 → '|' ∉ ip.toList

end SellerFreeTierLimiter

section Ledger

variable (limiter : SellerFreeTierLimiter)

/-- What is decided after the requests that were admitted. -/
def ruling (history : List Admission) (input : FreeTierConsumeInput) (policy : FreeTierPolicy) : FreeTierDecision :=
  if policy.stakersOnly ∧ (policy.tierOf input).isNone then limiter.refusal policy input
  else limiter.decision policy input (verdict history policy (limiter.limitsOf policy input) input.nowMs)

def rulings (history : List Admission) : Ask → Except String (Option FreeTierDecision)
  | .consume service paid input =>
    match limiter.policyFor service paid with
    | none => .error ("no free-tier program applies to " ++ service)
    | some policy => .ok (some (ruling limiter history input policy))
  | .check input =>
    .ok (limiter.channelPolicies.bind fun policies =>
      let decisions := policies.map (ruling limiter history input)
      (decisions.find? (·.consumption.allowed)).or decisions.head?)

def entered (history : List Admission) : Ask → List Admission
  | .consume service paid input =>
    match limiter.policyFor service paid with
    | none => []
    | some policy =>
      admits policy (limiter.limitsOf policy input) input.nowMs
        (ruling limiter history input policy).consumption.allowed true
  | .check _ => []

def ledger : Machine (List Admission) Ask Empty where
  step history ask := .ok (history ++ entered limiter history ask)

end Ledger

/-- A back end that holds what still counts of the requests that were admitted. -/
structure Holds (limiter : SellerFreeTierLimiter) (now : Int) (history : List Admission) (backEnd : BackEnd) :
    Prop where
  timely : Timely now history
  kept :
    match backEnd with
    | .disk storage => Stored limiter now history storage
    | .memory usage => Remembered limiter now history usage

section Refinement

variable {limiter : SellerFreeTierLimiter} {history : List Admission} {now moment : Int} {backEnd : BackEnd}
  {policy : FreeTierPolicy} {input : FreeTierConsumeInput} {ask : Ask} {asks : List Ask}

theorem Holds.later (holds : Holds limiter now history backEnd) (inOrder : now ≤ moment) :
    Holds limiter moment history backEnd where
  timely := ⟨holds.timely.inOrder, fun admission here => (holds.timely.past admission here).trans inOrder⟩
  kept := by
    have kept := holds.kept
    cases backEnd with
    | disk => exact Stored.later kept inOrder
    | memory => exact Remembered.later kept inOrder

theorem barless_address (peerId : PeerId) : '|' ∉ (peerIdToAddress peerId).toLower.toList := by
  refine toLower_barless ?_
  simp only [peerIdToAddress, String.toList_append, mem_append, not_or]
  refine ⟨by decide, fun bar => ?_⟩
  have digit := all_eq_true.mp peerId.hex.2 '|' bar
  revert digit
  decide

theorem asks_of (ips : limiter.IpOnly) (known : policy ∈ limiter.policies)
    (distinct : ∀ standing ∈ input.standing, standing.positionIds.Nodup) :
    Asks limiter policy input.buyerAddress (limiter.remoteIpOf input) (policy.standingOf input) where
  known := known
  lower := toLower_text _
  addressBarless := barless_address _
  given := normalizeRemoteIp_ne_empty ips.empty
  ipBarless ip found := normalizeRemoteIp_barless ips.barless found
  distinct standing found := by
    unfold FreeTierPolicy.standingOf at found
    split at found
    · exact distinct standing found
    · cases found

theorem backEnd_decides (service : Option String) (holds : Holds limiter now history backEnd)
    (asks : Asks limiter policy input.buyerAddress (limiter.remoteIpOf input) (policy.standingOf input))
    (inOrder : now ≤ input.nowMs)
    (room : ∀ usage, backEnd = .memory usage → service.isSome →
      (usage.pruneExpiredBuckets (input.nowMs - limiter.retentionMs)).hasRoom
        (InMemoryUsage.bucketsOf (usage.trackAll policy input.nowMs (limiter.limitsOf policy input)))) :
    let decided := verdict history policy (limiter.limitsOf policy input) input.nowMs
    ∃ after, backEnd.decide policy limiter.retentionMs input.buyerAddress (limiter.remoteIpOf input)
        (policy.standingOf input) (policy.ownerLimitOf input) input.nowMs service = (.ok decided, after)
      ∧ Holds limiter input.nowMs
        (history ++ admits policy (limiter.limitsOf policy input) input.nowMs decided.allowed service.isSome)
        after := by
  intro decided
  have kept := holds.kept
  cases backEnd with
  | disk =>
    obtain ⟨after, decides, stored⟩ :=
      disk_decides asks holds.timely kept inOrder (policy.ownerLimitOf input) service
    exact ⟨.disk after, decides, holds.timely.admits inOrder, stored⟩
  | memory usage =>
    obtain ⟨after, decides, remembered⟩ :=
      memory_decides asks kept inOrder (policy.ownerLimitOf input) service (room usage rfl)
    exact ⟨.memory after, decides, holds.timely.admits inOrder, remembered⟩

theorem evaluate_decides (service : Option String) (ips : limiter.IpOnly) (holds : Holds limiter now history backEnd)
    (known : policy ∈ limiter.policies) (distinct : ∀ standing ∈ input.standing, standing.positionIds.Nodup)
    (inOrder : now ≤ input.nowMs)
    (room : ∀ usage, backEnd = .memory usage → service.isSome →
      (usage.pruneExpiredBuckets (input.nowMs - limiter.retentionMs)).hasRoom
        (InMemoryUsage.bucketsOf (usage.trackAll policy input.nowMs (limiter.limitsOf policy input)))) :
    ∃ after, limiter.evaluate backEnd policy input service = (.ok (ruling limiter history input policy), after)
      ∧ Holds limiter input.nowMs (history ++ admits policy (limiter.limitsOf policy input) input.nowMs
        (ruling limiter history input policy).consumption.allowed service.isSome) after := by
  unfold evaluate ruling
  split
  · refine ⟨backEnd, rfl, ?_⟩
    simpa [refusal, admits] using holds.later inOrder
  · obtain ⟨after, decides, holds⟩ :=
      backEnd_decides service holds (asks_of ips known distinct) inOrder room
    refine ⟨after, ?_, holds⟩
    simp only [decides]
    rfl

theorem mapM_known {services : List String} {applicable : List FreeTierPolicy}
    (found : services.mapM (fun service => limiter.policyFor service false) = some applicable) :
    ∀ policy ∈ applicable, policy ∈ limiter.policies := by
  induction services generalizing applicable with
  | nil =>
    cases found
    simp
  | cons service services ih =>
    simp only [mapM_cons, Option.bind_eq_bind, Option.bind_eq_some_iff, Option.pure_def,
      Option.some.injEq] at found
    obtain ⟨policy, first, rest, others, rfl⟩ := found
    intro one here
    cases mem_cons.mp here with
    | inl same => exact same ▸ policyFor_known first
    | inr later => exact ih others one later

variable {policies : List FreeTierPolicy} {subject : FreeTierSubject}

theorem channelPolicies_known (found : limiter.channelPolicies = some policies) :
    ∀ policy ∈ policies, policy ∈ limiter.policies := by
  unfold channelPolicies at found
  intro policy here
  split at found
  · split at found
    · cases found
    · obtain ⟨applicable, all, rfl⟩ := Option.map_eq_some_iff.mp found
      have once : policy ∈ applicable.eraseDups := by
        cases mem_append.mp here with
        | inl seller => exact mem_of_mem_filter seller
        | inr service => exact mem_of_mem_filter service
      exact mapM_known all policy (mem_eraseDups.mp once)
  · split at found
    · cases found
    · cases found
      exact mem_of_mem_filter here

section

variable (ips : limiter.IpOnly) (holds : Holds limiter now history backEnd)

include ips holds

theorem evaluateAll_decides
    (known : ∀ policy ∈ policies, policy ∈ limiter.policies)
    (distinct : ∀ standing ∈ input.standing, standing.positionIds.Nodup)
    (inOrder : now ≤ input.nowMs) :
    ∃ after, limiter.evaluateAll input backEnd policies = (.ok (policies.map (ruling limiter history input)), after)
      ∧ Holds limiter input.nowMs history after := by
  induction policies generalizing backEnd now with
  | nil => exact ⟨backEnd, rfl, holds.later inOrder⟩
  | cons policy policies ih =>
    rw [forall_mem_cons] at known
    obtain ⟨middle, first, held⟩ := evaluate_decides none ips holds known.1 distinct inOrder (by simp)
    rw [Option.isSome_none, admits, if_neg (by simp), append_nil] at held
    obtain ⟨after, rest, held⟩ := ih held known.2 le_rfl
    refine ⟨after, ?_, held⟩
    simp only [evaluateAll, first, rest, Except.map, map_cons]

theorem answer_decides
    (distinct : ∀ standing ∈ ask.input.standing, standing.positionIds.Nodup) (inOrder : now ≤ ask.nowMs)
    (room : limiter.hasRoom backEnd ask) :
    ∃ after, limiter.answer backEnd ask = (rulings limiter history ask, after)
      ∧ limiter.admitted backEnd ask = entered limiter history ask
      ∧ Holds limiter ask.nowMs (history ++ entered limiter history ask) after := by
  cases ask with
  | consume service paid input =>
    change ∀ standing ∈ input.standing, standing.positionIds.Nodup at distinct
    change now ≤ input.nowMs at inOrder
    change ∃ after, _ ∧ _ ∧ Holds limiter input.nowMs _ after
    cases found : limiter.policyFor service paid with
    | none =>
      refine ⟨backEnd, ?_, ?_, ?_⟩
      · simp [answer, consume, rulings, found, Except.map]
      · simp [admitted, entered, found]
      · simpa [entered, found] using holds.later inOrder
    | some policy =>
      have enough : ∀ usage, backEnd = .memory usage → (some service).isSome →
          (usage.pruneExpiredBuckets (input.nowMs - limiter.retentionMs)).hasRoom
            (InMemoryUsage.bucketsOf
              (usage.trackAll policy input.nowMs (limiter.limitsOf policy input))) := by
        rintro usage rfl -
        simpa only [hasRoom, found] using room
      obtain ⟨after, decides, held⟩ :=
        evaluate_decides (some service) ips holds (policyFor_known found) distinct inOrder enough
      have answers : limiter.answer backEnd (.consume service paid input)
          = (.ok (some (ruling limiter history input policy)), after) := by
        simp [answer, consume, found, decides, Except.map]
      refine ⟨after, ?_, ?_, ?_⟩
      · simp [answers, rulings, found]
      · simp [admitted, answers, entered, found]
      · simpa [entered, found] using held
  | check input =>
    change ∀ standing ∈ input.standing, standing.positionIds.Nodup at distinct
    change now ≤ input.nowMs at inOrder
    change ∃ after, _ ∧ _ ∧ Holds limiter input.nowMs _ after
    simp only [answer, check, rulings, entered, List.append_nil, admitted, true_and]
    cases channels : limiter.channelPolicies with
    | none => exact ⟨backEnd, rfl, holds.later inOrder⟩
    | some =>
      obtain ⟨after, decides, held⟩ :=
        evaluateAll_decides ips holds (channelPolicies_known channels) distinct inOrder
      exact ⟨after, by simp [decides, Except.map], held⟩

/-- A run of a back end answers what the ledger answers, and ends with what still counts of the ledger. -/
theorem refines_ledger
    (inOrder : (now :: asks.map Ask.nowMs).Pairwise (· ≤ ·))
    (distinct : ∀ ask ∈ asks, ∀ standing ∈ ask.input.standing, standing.positionIds.Nodup)
    (room : limiter.limited.Along (fun backEnd ask => limiter.hasRoom backEnd ask) backEnd asks)
    (soon : now ≤ moment) (all : ∀ ask ∈ asks, ask.nowMs ≤ moment) :
    limiter.limited.log (fun backEnd ask => [(limiter.answer backEnd ask).1]) backEnd asks
        = (ledger limiter).log (fun history ask => [rulings limiter history ask]) history asks
      ∧ history ++ limiter.limited.log limiter.admitted backEnd asks = (ledger limiter).run history asks
      ∧ Holds limiter moment ((ledger limiter).run history asks) (limiter.limited.run backEnd asks) := by
  induction asks generalizing now history backEnd with
  | nil => exact ⟨rfl, by simp [log], holds.later soon⟩
  | cons ask asks ih =>
    rw [map_cons, pairwise_cons] at inOrder
    rw [forall_mem_cons] at distinct all
    obtain ⟨after, answers, enters, held⟩ :=
      answer_decides ips holds distinct.1 (inOrder.1 ask.nowMs mem_cons_self) room.1
    have next_ : limiter.limited.exec backEnd ask = after := by
      simp [exec, limited, answers]
    have rest := room.2
    rw [next_] at rest
    obtain ⟨same, entries, kept⟩ := ih held inOrder.2 distinct.2 rest all.1 all.2
    refine ⟨?_, ?_, ?_⟩
    · simpa [log, limited, ledger, answers] using same
    · rw [run_cons]
      simpa [log, exec, limited, ledger, answers, enters] using entries
    · rw [run_cons, run_cons, next_]
      exact kept

end

theorem paced_elsewhere {limits : List FreeTierLimit}
    {nowMs : Int} {allowed : Bool} (elsewhere : other.scope ≠ policy.scope)
    (paced : Paced timestamp policy.windowMs limit (charges policy.scope subject)
      (chargesAt policy.scope subject limit) history) :
    Paced timestamp policy.windowMs limit (charges policy.scope subject)
      (chargesAt policy.scope subject limit) (history ++ admits other limits nowMs allowed true) := by
  unfold admits
  split
  · rw [paced_concat]
    refine ⟨paced, fun charged => ?_⟩
    simp [chargesAt, elsewhere] at charged
  · rwa [append_nil]

theorem ledger_paced (known : policy ∈ limiter.policies) (subject : FreeTierSubject) (limit : Int) (asks : List Ask) :
    Paced timestamp policy.windowMs limit (charges policy.scope subject)
      (chargesAt policy.scope subject limit) ((ledger limiter).run [] asks) := by
  refine (ledger limiter).run_invariant (I := fun history => Paced timestamp policy.windowMs limit
    (charges policy.scope subject) (chargesAt policy.scope subject limit) history) ?_ paced_nil asks
  intro history ask after paced taken
  cases taken
  cases ask with
  | check => simpa [entered] using paced
  | consume service paid =>
    simp only [entered]
    cases found : limiter.policyFor service paid with
    | none => simpa using paced
    | some other =>
      simp only
      by_cases same : other.scope = policy.scope
      · cases policy_of_scope (policyFor_known found) known same
        unfold ruling
        split
        · simpa [refusal, admits] using paced
        · exact paced_admits paced
      · exact paced_elsewhere same paced

theorem ledger_within (known : policy ∈ limiter.policies) (subject : FreeTierSubject) (limit : Nat) (start : Int)
    (throughout : ∀ admission ∈ (ledger limiter).run [] asks, admission.charges policy.scope subject →
      admission.chargesAt policy.scope subject limit) :
    (((ledger limiter).run [] asks).countP fun admission => admission.charges policy.scope subject
      ∧ start ≤ admission.timestamp ∧ admission.timestamp ≤ start + policy.windowMs) ≤ limit := by
  have within := (ledger_paced known subject limit asks).count_le (fun admission marked => by
    simp only [chargesAt, decide_eq_true_eq] at marked
    obtain ⟨scope, found, here, same, -⟩ := marked
    simp only [charges, decide_eq_true_eq]
    exact ⟨scope, mem_map.mpr ⟨found, here, same⟩⟩) (Int.natCast_nonneg limit) start
  rw [Nat.cast_le] at within
  refine le_trans (countP_mono_left fun admission here counted => ?_) within
  simp only [decide_eq_true_eq] at counted ⊢
  exact ⟨throughout admission here counted.1, counted.2⟩

theorem evaluate_none : (limiter.evaluate backEnd policy input none).2 = backEnd := by
  unfold evaluate
  split
  · rfl
  · cases backEnd with
    | disk =>
      simp [BackEnd.decide, MeteringStorage.checkFreeTierRequest, MeteringStorage.evaluateFreeTierRequest,
        MeteringStorage.pruneFreeTierUsage]
    | memory => simp [BackEnd.decide, InMemoryUsage.evaluateInMemory]

theorem check_changes_nothing : limiter.limited.exec backEnd (.check input) = backEnd := by
  have all : ∀ policies, (limiter.evaluateAll input backEnd policies).2 = backEnd := by
    intro policies
    induction policies with
    | nil => rfl
    | cons policy policies ih =>
      have first := @evaluate_none limiter backEnd policy input
      rw [evaluateAll]
      cases evaluated : limiter.evaluate backEnd policy input none with
      | mk outcome =>
        rw [evaluated] at first
        subst first
        cases outcome with
        | error => rfl
        | ok => exact ih
  simp only [exec, limited, answer, check]
  cases limiter.channelPolicies with
  | none => rfl
  | some policies => exact all policies

/-- When a back end has it that requests were admitted which count under a subject. -/
def BackEnd.usage (backEnd : BackEnd) (scope : String) (subject : FreeTierSubject) : List Int :=
  match backEnd with
  | .disk storage =>
    match subject with
    | .address buyerAddress => storage.addressUsage scope buyerAddress
    | .ip remoteIp => storage.ipUsage scope remoteIp
    | .position positionId => storage.positionUsage scope positionId
  | .memory usage => usage.timestamps (scopedKey scope subject)

/-- A subject that some request of a program can count under. -/
def FreeTierPolicy.Counts (policy : FreeTierPolicy) (subject : FreeTierSubject) : Prop :=
  subject.Barless ∧
    match subject with
    | .address _ => policy.maxRequestsPerAddress.isSome
    | .ip remoteIp => policy.maxRequestsPerIp.isSome ∧ remoteIp ≠ ""
    | .position _ => True

theorem Holds.since_usage (holds : Holds limiter now history backEnd)
    (known : policy ∈ limiter.policies) (counts : policy.Counts subject) :
    since (now - policy.windowMs) (backEnd.usage policy.scope subject)
      = since (now - policy.windowMs) (usageOf history policy.scope subject) := by
  have early := Int.sub_le_sub_left (windowMs_le_retentionMs known) now
  have kept := holds.kept
  cases backEnd with
  | memory => exact Remembered.counted kept policy known subject counts.1
  | disk =>
    cases subject with
    | address buyerAddress => exact (Stored.address kept policy known counts.2 buyerAddress).later early
    | ip remoteIp => exact (Stored.ip kept policy known counts.2.1 remoteIp counts.2.2).later early
    | position positionId => exact (Stored.position kept policy known positionId).later early

end Refinement

section Whole

variable {limiter : SellerFreeTierLimiter} {asks : List Ask} {times : List Int}

theorem first_time (moment : Int) (inOrder : times.Pairwise (· ≤ ·)) (all : ∀ time ∈ times, time ≤ moment) :
    (times.headD moment :: times).Pairwise (· ≤ ·) ∧ times.headD moment ≤ moment := by
  cases times with
  | nil => exact ⟨pairwise_singleton _ _, le_rfl⟩
  | cons first =>
    refine ⟨pairwise_cons.mpr ⟨?_, inOrder⟩, all first mem_cons_self⟩
    intro time here
    cases mem_cons.mp here with
    | inl same => exact same.ge
    | inr later => exact (pairwise_cons.mp inOrder).1 time later

theorem last_time (times : List Int) : ∃ moment, ∀ time ∈ times, time ≤ moment := by
  cases found : times.max? with
  | none => exact ⟨0, by simp [max?_eq_none_iff.mp found]⟩
  | some longest => exact ⟨longest, (max?_eq_some_iff.mp found).2⟩

theorem holds_empty (empty : backEnd = .disk {} ∨ backEnd = .memory []) (now : Int) :
    Holds limiter now [] backEnd := by
  refine ⟨⟨List.Pairwise.nil, by simp⟩, ?_⟩
  cases empty with
  | inl disk =>
    subst disk
    exact ⟨fun _ _ _ _ => rfl, fun _ _ _ _ _ => rfl, fun _ _ _ => rfl⟩
  | inr memory =>
    subst memory
    exact ⟨nodup_nil, by simp, by simp, fun _ _ _ _ => rfl⟩

theorem exec_disk (ask : Ask) (storage : MeteringStorage) :
    ∃ after, limiter.limited.exec (.disk storage) ask = .disk after := by
  cases ask with
  | check => exact ⟨storage, check_changes_nothing⟩
  | consume service paid =>
    simp only [exec, limited, answer, consume]
    cases limiter.policyFor service paid with
    | none => exact ⟨storage, rfl⟩
    | some =>
      simp only [evaluate]
      split
      · exact ⟨storage, rfl⟩
      · exact ⟨_, rfl⟩

theorem along_disk (storage : MeteringStorage) :
    limiter.limited.Along (fun backEnd ask => limiter.hasRoom backEnd ask) (.disk storage) asks := by
  induction asks generalizing storage with
  | nil => trivial
  | cons ask asks ih =>
    obtain ⟨after, same⟩ := @exec_disk limiter ask storage
    refine ⟨?_, same ▸ ih after⟩
    cases ask <;> rfl

end Whole

/-- The disk and the memory give the same answers, as long as the memory has room; no window holds more
    admitted requests under a key than its limit; asking changes nothing; and whatever was pruned, a later
    evaluation still finds what it has to count. -/
theorem back_ends_agree (limiter : SellerFreeTierLimiter) (ips : limiter.IpOnly) (asks : List Ask)
    (inOrder : (asks.map Ask.nowMs).Pairwise (· ≤ ·))
    (distinct : ∀ ask ∈ asks, ∀ standing ∈ ask.input.standing, standing.positionIds.Nodup)
    (room : limiter.limited.Along (fun backEnd ask => limiter.hasRoom backEnd ask) (.memory []) asks) :
    let history := limiter.limited.log limiter.admitted (.disk {}) asks
    (limiter.limited.log (fun backEnd ask => [(limiter.answer backEnd ask).1]) (.memory []) asks
        = limiter.limited.log (fun backEnd ask => [(limiter.answer backEnd ask).1]) (.disk {}) asks
      ∧ limiter.limited.log limiter.admitted (.memory []) asks = history)
    ∧ (∀ policy ∈ limiter.policies, ∀ subject (limit : Nat) (start : Int),
      (∀ admission ∈ history, admission.charges policy.scope subject →
        admission.chargesAt policy.scope subject limit) →
      (history.countP fun admission => admission.charges policy.scope subject
        ∧ start ≤ admission.timestamp ∧ admission.timestamp ≤ start + policy.windowMs) ≤ limit)
    ∧ (∀ backEnd input, limiter.limited.exec backEnd (.check input) = backEnd)
    ∧ (∀ backEnd, backEnd = .disk {} ∨ backEnd = .memory [] →
      ∀ moment, (∀ ask ∈ asks, ask.nowMs ≤ moment) →
      ∀ policy ∈ limiter.policies, ∀ subject, policy.Counts subject →
        since (moment - policy.windowMs) ((limiter.limited.run backEnd asks).usage policy.scope subject)
          = since (moment - policy.windowMs) (usageOf history policy.scope subject)) := by
  intro history
  have refines : ∀ backEnd, backEnd = .disk {} ∨ backEnd = .memory [] →
      ∀ moment, (∀ ask ∈ asks, ask.nowMs ≤ moment) →
      limiter.limited.log (fun backEnd ask => [(limiter.answer backEnd ask).1]) backEnd asks
          = (ledger limiter).log (fun history ask => [rulings limiter history ask]) [] asks
        ∧ limiter.limited.log limiter.admitted backEnd asks = (ledger limiter).run [] asks
        ∧ Holds limiter moment ((ledger limiter).run [] asks) (limiter.limited.run backEnd asks) := by
    intro backEnd empty moment all
    obtain ⟨ordered, soon⟩ := first_time moment inOrder (by simpa using all)
    have enough : limiter.limited.Along (fun backEnd ask => limiter.hasRoom backEnd ask) backEnd asks := by
      cases empty with
      | inl disk => exact disk ▸ along_disk {}
      | inr memory => exact memory ▸ room
    exact refines_ledger ips (holds_empty empty _) ordered distinct enough soon all
  obtain ⟨last, all⟩ := last_time (asks.map Ask.nowMs)
  have past : ∀ ask ∈ asks, ask.nowMs ≤ last := by simpa using all
  have disk := refines (.disk {}) (.inl rfl) last past
  have memory := refines (.memory []) (.inr rfl) last past
  have same : history = (ledger limiter).run [] asks := disk.2.1
  refine ⟨⟨memory.1.trans disk.1.symm, memory.2.1.trans same.symm⟩, ?_, fun _ _ => check_changes_nothing, ?_⟩
  · intro policy known subject limit start throughout
    rw [same] at throughout ⊢
    exact ledger_within known subject limit start throughout
  · intro backEnd empty moment soon policy known subject counts
    rw [same]
    exact (refines backEnd empty moment soon).2.2.since_usage known counts

def twoPrograms : SellerFreeTierLimiter where
  seller := some {
    scope := ""
    maxRequestsPerAddress := some 1
    maxRequestsPerIp := some 2
    windowMs := 1000
    stakeTiers := []
    stakersOnly := false }
  services := [{
    scope := "chat"
    maxRequestsPerAddress := some 1
    maxRequestsPerIp := none
    windowMs := 5000
    stakeTiers := [{ minPower := 10, multiplier := some 2 }]
    stakersOnly := false }]
  stakeResolver := true
  isIP ip := if ip = "10.0.0.7" then 4 else 0
  sellerScope := by simp
  serviceScopes := by simp
  distinct := by simp

theorem twoPrograms_ipOnly : twoPrograms.IpOnly where
  empty := rfl
  barless := by
    intro ip given
    simp only [twoPrograms] at given
    split at given
    next same => simp [same]
    · exact absurd rfl given

def somePeer : PeerId := ⟨String.ofList (replicate 40 'a'), by decide⟩

/-- A buyer whose stake on two positions earns twice the allowance. -/
def stakedInput (nowMs : Int) : FreeTierConsumeInput where
  buyerPeerId := somePeer
  remoteIp := none
  standing := some { stakers := [], power := 20 * ANTS_WEI, positionIds := [3, 8] }
  nowMs

def someAsks : List Ask :=
  [.consume "chat" false (stakedInput 0), .check (stakedInput 5), .consume "chat" false (stakedInput 40),
    .consume "chat" false (stakedInput 4000)]

theorem twoPrograms_agree :
    (twoPrograms.limited.log twoPrograms.admitted (.disk {}) someAsks).map timestamp = [0, 40] ∧
    twoPrograms.limited.log (fun backEnd ask => [(twoPrograms.answer backEnd ask).1]) (.memory []) someAsks
      = twoPrograms.limited.log (fun backEnd ask => [(twoPrograms.answer backEnd ask).1]) (.disk {}) someAsks :=
  ⟨by decide +kernel,
    (back_ends_agree twoPrograms twoPrograms_ipOnly someAsks (by decide) (by decide) (by decide +kernel)).1.1⟩

end AntSeed.FreeTier
