import AntSeed.FreeTier.Admissions
import AntSeed.Lib.Decimal

/-! # The disk and the memory hold what still counts

Each back end holds, for every key that some program limits, the admitted requests that an evaluation from
now on can count. What either prunes is older than the longest window.
-/

namespace AntSeed.FreeTier

open SlidingWindow Prod
open InMemoryUsage FreeTierLimit FreeTierSubject
open List SellerFreeTierLimiter Option Keyed MeteringStorage InMemoryUsage

section Programs

variable {limiter : SellerFreeTierLimiter} {policy other : FreeTierPolicy}

theorem windowMs_le_retentionMs (known : policy ∈ limiter.policies) : policy.windowMs ≤ limiter.retentionMs := by
  have here := mem_map_of_mem (f := FreeTierPolicy.windowMs) known
  unfold retentionMs
  cases found : (limiter.policies.map FreeTierPolicy.windowMs).max? with
  | none =>
    rw [max?_eq_none_iff] at found
    simp [found] at here
  | some => exact (max?_eq_some_iff.mp found).2 _ here

theorem policy_of_scope (known : policy ∈ limiter.policies) (known' : other ∈ limiter.policies)
    (same : policy.scope = other.scope) : policy = other := by
  unfold policies at known known'
  rw [mem_append, mem_toList] at known known'
  cases known with
  | inl seller =>
    cases known' with
    | inl seller' => exact some.inj ((mem_def.mp seller).symm.trans (mem_def.mp seller'))
    | inr service' =>
      exact absurd (same.symm.trans (limiter.sellerScope policy seller)) (limiter.serviceScopes other service')
  | inr service =>
    cases known' with
    | inl seller' =>
      exact absurd (same.trans (limiter.sellerScope other seller')) (limiter.serviceScopes policy service)
    | inr service' => exact inj_on_of_nodup_map limiter.distinct service service' same

theorem policyFor_known (found : limiter.policyFor service paid = some policy) :
    policy ∈ limiter.policies := by
  unfold policyFor at found
  unfold policies
  rw [mem_append, mem_toList]
  split at found
  next own =>
    cases found
    exact .inr (mem_of_get own).1
  · split at found
    · cases found
    · exact .inl found

end Programs

variable {address ip : String} {positionId : Nat}

section Disk

variable {limiter : SellerFreeTierLimiter} {history more : List Admission} {now nowMs : Int}
  {storage : MeteringStorage} {policy : FreeTierPolicy} {input : FreeTierUsageInput} {service : Option String}

/-- What the tables hold, up to what is too old to count. -/
structure Stored (limiter : SellerFreeTierLimiter) (now : Int) (history : List Admission) (storage : MeteringStorage) :
    Prop where
  address : ∀ policy ∈ limiter.policies, policy.maxRequestsPerAddress.isSome → ∀ buyerAddress,
    Agree (now - limiter.retentionMs) (storage.addressUsage policy.scope buyerAddress)
      (usageOf history policy.scope (.address buyerAddress))
  ip : ∀ policy ∈ limiter.policies, policy.maxRequestsPerIp.isSome → ∀ remoteIp, remoteIp ≠ "" →
    Agree (now - limiter.retentionMs) (storage.ipUsage policy.scope remoteIp)
      (usageOf history policy.scope (.ip remoteIp))
  position : ∀ policy ∈ limiter.policies, ∀ positionId,
    Agree (now - limiter.retentionMs) (storage.positionUsage policy.scope positionId)
      (usageOf history policy.scope (.position positionId))

theorem Stored.later (stored : Stored limiter now history storage) (inOrder : now ≤ nowMs) :
    Stored limiter nowMs history storage where
  address policy known limited buyerAddress :=
    (stored.address policy known limited buyerAddress).later (Int.sub_le_sub_right inOrder _)
  ip policy known limited remoteIp given :=
    (stored.ip policy known limited remoteIp given).later (Int.sub_le_sub_right inOrder _)
  position policy known positionId :=
    (stored.position policy known positionId).later (Int.sub_le_sub_right inOrder _)

theorem addressUsage_prune :
    (storage.prune retainFrom now).addressUsage scope buyerAddress
      = since retainFrom (storage.addressUsage scope buyerAddress) := by
  simp only [MeteringStorage.addressUsage, MeteringStorage.prune, since, List.filter_map, List.filter_filter,
    Function.comp_def, Bool.and_comm]

theorem ipUsage_prune :
    (storage.prune retainFrom now).ipUsage scope remoteIp = since retainFrom (storage.ipUsage scope remoteIp) := by
  simp only [MeteringStorage.ipUsage, MeteringStorage.prune, since, List.filter_map, List.filter_filter,
    Function.comp_def, Bool.and_comm]

theorem positionUsage_prune :
    (storage.prune retainFrom now).positionUsage scope positionId
      = since retainFrom (storage.positionUsage scope positionId) := by
  simp only [MeteringStorage.positionUsage, MeteringStorage.prune, since, List.filter_map, List.filter_filter,
    Function.comp_def, Bool.and_comm]

theorem Stored.prune (stored : Stored limiter now history storage) :
    Stored limiter now history (storage.prune (now - limiter.retentionMs) nowMs) where
  address policy known limited buyerAddress := by
    rw [addressUsage_prune]
    exact (agree_since le_rfl).trans (stored.address policy known limited buyerAddress)
  ip policy known limited remoteIp given := by
    rw [ipUsage_prune]
    exact (agree_since le_rfl).trans (stored.ip policy known limited remoteIp given)
  position policy known positionId := by
    rw [positionUsage_prune]
    exact (agree_since le_rfl).trans (stored.position policy known positionId)

/-- The request of a program for which the disk is asked. -/
structure Asks (limiter : SellerFreeTierLimiter) (policy : FreeTierPolicy) (buyerAddress : String)
    (remoteIp : Option String) (standing : Option FreeTierStakeStanding) : Prop where
  known : policy ∈ limiter.policies
  lower : buyerAddress.toLower = buyerAddress
  addressBarless : '|' ∉ buyerAddress.toList
  given : remoteIp ≠ some ""
  ipBarless : ∀ ip ∈ remoteIp, '|' ∉ ip.toList
  distinct : ∀ known ∈ standing, known.positionIds.Nodup

variable {buyerAddress : String} {remoteIp : Option String} {standing : Option FreeTierStakeStanding}
  {ownerLimit : Option Int}

theorem countUsage_eq {timestamps : List Int} (limit : FreeTierLimit) (timely : Timely now history)
    (agree : Agree (nowMs - policy.windowMs) timestamps (usageOf history policy.scope limit.subject)) :
    countUsage limit.kind limit.limit (nowMs - policy.windowMs) timestamps
      = checkOf history policy nowMs limit := by
  have counted : timestamps.filter (nowMs - policy.windowMs ≤ ·)
      = since (nowMs - policy.windowMs) (usageOf history policy.scope limit.subject) := agree
  simp only [countUsage, checkOf, counted, min?_since timely.usage]

theorem mem_limits_address :
    .address address ∈ (limits policy buyerAddress remoteIp standing ownerLimit).map subject
      ↔ standing = none ∧ policy.maxRequestsPerAddress.isSome ∧ address = buyerAddress := by
  unfold limits
  cases standing with
  | some => cases ownerLimit <;> simp
  | none =>
    cases policy.maxRequestsPerAddress <;> cases policy.maxRequestsPerIp <;> cases remoteIp <;> simp

theorem mem_limits_ip :
    .ip ip ∈ (limits policy buyerAddress remoteIp standing ownerLimit).map subject
      ↔ standing = none ∧ policy.maxRequestsPerIp.isSome ∧ remoteIp = some ip := by
  unfold limits
  cases standing with
  | some => cases ownerLimit <;> simp
  | none =>
    cases policy.maxRequestsPerAddress <;> cases policy.maxRequestsPerIp <;> cases remoteIp <;> simp [eq_comm]

theorem mem_limits_position :
    .position positionId ∈ (limits policy buyerAddress remoteIp standing ownerLimit).map subject
      ↔ ∃ known, standing = some known ∧ ownerLimit.isSome ∧ positionId ∈ known.positionIds := by
  unfold limits
  cases standing with
  | some => cases ownerLimit <;> simp
  | none =>
    cases policy.maxRequestsPerAddress <;> cases policy.maxRequestsPerIp <;> cases remoteIp <;> simp

theorem freeTierChecks_eq (asks : Asks limiter policy buyerAddress remoteIp standing) (timely : Timely now history)
    (stored : Stored limiter nowMs history storage) :
    storage.freeTierChecks (usageInput policy limiter.retentionMs buyerAddress remoteIp standing ownerLimit nowMs)
      = (limits policy buyerAddress remoteIp standing ownerLimit).map
        (checkOf history policy nowMs) := by
  have early : nowMs - limiter.retentionMs ≤ nowMs - policy.windowMs :=
    Int.sub_le_sub_left (windowMs_le_retentionMs asks.known) nowMs
  unfold freeTierChecks limits usageInput
  cases standing with
  | some =>
    cases ownerLimit with
    | none => rfl
    | some limit =>
      simp only [Option.map_some, List.map_map]
      refine List.map_congr_left fun positionId _ => ?_
      exact countUsage_eq ⟨.stake, .position positionId, limit⟩ timely
        ((stored.position policy asks.known positionId).later early)
  | none =>
    simp only [map_none, map_append, asks.lower]
    congr 1
    · cases limited : policy.maxRequestsPerAddress with
      | none => rfl
      | some limit =>
        simp only [map_cons, map_nil, cons.injEq, and_true]
        exact countUsage_eq ⟨.address, .address buyerAddress, limit⟩ timely
          ((stored.address policy asks.known (by simp [limited]) buyerAddress).later early)
    · cases limited : policy.maxRequestsPerIp with
      | none => rfl
      | some limit =>
        cases remoteIp with
        | none => rfl
        | some ip =>
          have given : ip ≠ "" := fun same => asks.given (congrArg some same)
          simp only [getD_some, given, ne_eq, not_false_eq_true, ↓reduceIte, map_cons,
            map_nil, cons.injEq, and_true]
          exact countUsage_eq ⟨.ip, .ip ip, limit⟩ timely
            ((stored.ip policy asks.known (by simp [limited]) ip given).later early)

section Record

variable {scope : String} {name : String}

theorem addressUsage_record :
    (storage.recordFreeTierRequest input name).addressUsage scope address
      = storage.addressUsage scope address
        ++ if input.scope = scope ∧ input.buyerAddress.toLower = address ∧ input.stake = none then [input.nowMs]
          else [] := by
  unfold addressUsage recordFreeTierRequest
  rw [filter_append, map_append]
  congr 1
  cases input.stake <;> simp only [filter_cons, filter_nil] <;> split <;> simp_all

theorem ipUsage_record :
    (storage.recordFreeTierRequest input name).ipUsage scope ip
      = storage.ipUsage scope ip
        ++ if input.scope = scope ∧ input.remoteIp.getD "" = ip ∧ input.stake = none then [input.nowMs]
          else [] := by
  unfold ipUsage recordFreeTierRequest
  rw [filter_append, map_append]
  congr 1
  cases input.stake <;> simp only [filter_cons, filter_nil] <;> split <;> simp_all

theorem position_rows {positionIds : List Nat} {other : String} (distinct : positionIds.Nodup) :
    ((positionIds.map fun positionId =>
        ({ positionId, timestamp := nowMs, scope := other } : FreeTierPositionUsageRow)).filter fun row =>
          row.scope = scope ∧ row.positionId = positionId).map FreeTierPositionUsageRow.timestamp
      = if other = scope ∧ positionId ∈ positionIds then [nowMs] else [] := by
  induction positionIds with
  | nil => simp
  | cons first rest ih =>
    rw [nodup_cons] at distinct
    have later := ih distinct.2
    rw [map_cons, filter_cons]
    split
    next counts =>
      simp only [decide_eq_true_eq] at counts
      obtain ⟨rfl, rfl⟩ := counts
      rw [map_cons, later, if_neg fun again => distinct.1 again.2]
      simp
    next skipped =>
      simp only [decide_eq_true_eq, not_and] at skipped
      rw [later]
      refine if_congr (and_congr_right fun same => ?_) rfl rfl
      rw [mem_cons, or_iff_right (Ne.symm (skipped same))]

theorem positionUsage_record (distinct : ∀ stake ∈ input.stake, stake.positionIds.Nodup) :
    (storage.recordFreeTierRequest input name).positionUsage scope positionId
      = storage.positionUsage scope positionId
        ++ if input.scope = scope
            ∧ ∃ stake ∈ input.stake, stake.limit.isSome ∧ positionId ∈ stake.positionIds then [input.nowMs]
          else [] := by
  unfold positionUsage recordFreeTierRequest
  rw [filter_append, map_append]
  congr 1
  cases staked : input.stake with
  | none => simp
  | some stake =>
    rw [elim_some]
    split
    next limited =>
      rw [position_rows (distinct stake staked)]
      refine if_congr (and_congr_right fun _ => ?_) rfl rfl
      simp [limited]
    next unlimited => simp [unlimited]

end Record

theorem agree_if {times others new : List Int} {c c' : Prop} [Decidable c] [Decidable c']
    (agree : Agree start times others) (same : c ↔ c') :
    Agree start (times ++ if c then new else []) (others ++ if c' then new else []) := by
  rw [if_congr same rfl rfl]
  exact agree.append

theorem Stored.record (asks : Asks limiter policy buyerAddress remoteIp standing)
    (stored : Stored limiter nowMs history storage) (name : String) :
    Stored limiter nowMs
      (history ++ admits policy (limits policy buyerAddress remoteIp standing ownerLimit) nowMs true true)
      (storage.recordFreeTierRequest
        (usageInput policy limiter.retentionMs buyerAddress remoteIp standing ownerLimit nowMs) name) where
  address other known limited address := by
    rw [addressUsage_record, usageOf_append, usageOf_admits]
    refine agree_if (stored.address other known limited address) ?_
    rw [mem_limits_address]
    simp only [usageInput, asks.lower, map_eq_none_iff, true_and]
    refine and_congr_right fun same => ?_
    cases policy_of_scope asks.known known same
    simp [limited, eq_comm, and_comm]
  ip other known limited ip given := by
    rw [ipUsage_record, usageOf_append, usageOf_admits]
    refine agree_if (stored.ip other known limited ip given) ?_
    rw [mem_limits_ip]
    simp only [usageInput, map_eq_none_iff, true_and]
    refine and_congr_right fun same => ?_
    cases policy_of_scope asks.known known same
    cases remoteIp with
    | none => simp [Ne.symm given]
    | some => simp [limited, and_comm]
  position other known positionId := by
    have distinct : ∀ stake ∈
        (usageInput policy limiter.retentionMs buyerAddress remoteIp standing ownerLimit nowMs).stake,
        stake.positionIds.Nodup := by
      intro stake member
      obtain ⟨standing_, found, rfl⟩ := map_eq_some_iff.mp member
      exact asks.distinct standing_ found
    rw [positionUsage_record distinct, usageOf_append, usageOf_admits]
    refine agree_if (stored.position other known positionId) ?_
    rw [mem_limits_position]
    cases standing <;> simp [usageInput]

theorem evaluateFreeTierRequest_some {name : String} :
    storage.evaluateFreeTierRequest input (some name)
      = (evaluateFreeTierLimits ((storage.pruneFreeTierUsage input (some name)).freeTierChecks input) input.windowMs
          input.nowMs,
        if (evaluateFreeTierLimits ((storage.pruneFreeTierUsage input (some name)).freeTierChecks input) input.windowMs
            input.nowMs).allowed then
          (storage.pruneFreeTierUsage input (some name)).recordFreeTierRequest input name
        else storage.pruneFreeTierUsage input (some name)) := by
  unfold evaluateFreeTierRequest
  dsimp only
  split <;> rfl

theorem disk_decides (asks : Asks limiter policy buyerAddress remoteIp standing) (timely : Timely now history)
    (stored : Stored limiter now history storage) (inOrder : now ≤ nowMs) (ownerLimit : Option Int)
    (service : Option String) :
    let limits := limits policy buyerAddress remoteIp standing ownerLimit
    let decided := verdict history policy limits nowMs
    ∃ after, (BackEnd.disk storage).decide policy limiter.retentionMs buyerAddress remoteIp standing ownerLimit nowMs
        service = (.ok decided, .disk after)
      ∧ Stored limiter nowMs (history ++ admits policy limits nowMs decided.allowed service.isSome) after := by
  intro limits decided
  have window := windowMs_le_retentionMs asks.known
  have ready : Stored limiter nowMs history (storage.pruneFreeTierUsage
      (usageInput policy limiter.retentionMs buyerAddress remoteIp standing ownerLimit nowMs) service) := by
    unfold pruneFreeTierUsage
    dsimp only
    split
    · simp only [usageInput, getD_some, max_eq_right window]
      exact (stored.later inOrder).prune
    · exact stored.later inOrder
  have checks := @freeTierChecks_eq limiter history now nowMs _ policy _ _ _ ownerLimit asks timely ready
  cases service with
  | none =>
    refine ⟨_, ?_, by simpa [admits] using ready⟩
    simp only [BackEnd.decide, checkFreeTierRequest, evaluateFreeTierRequest, checks]
    rfl
  | some name =>
    simp only [BackEnd.decide, consumeFreeTierRequest, evaluateFreeTierRequest_some, checks]
    refine ⟨_, rfl, ?_⟩
    split
    next allowed =>
      have admitted : decided.allowed = true := allowed
      rw [admitted]
      exact ready.record asks name
    next refused =>
      have denied : decided.allowed = false := Bool.eq_false_iff.mpr refused
      simpa [admits, denied] using ready

end Disk

variable {limiter : SellerFreeTierLimiter} {history more : List Admission} {now nowMs : Int}
  {usage : InMemoryUsage} {policy : FreeTierPolicy} {buyerAddress : String} {remoteIp : Option String}
  {standing : Option FreeTierStakeStanding} {ownerLimit : Option Int} {subject other : FreeTierSubject}
  {scope scope' : String}

/-- No key has a bar in it. -/
def FreeTierSubject.Barless (subject : FreeTierSubject) : Prop := '|' ∉ subject.key.toList

theorem scopedKey_inj (barless : subject.Barless) (barless' : other.Barless)
    (same : scopedKey scope subject = scopedKey scope' other) : scope = scope' ∧ subject.key = other.key := by
  have texts : scope.toList ++ '|' :: subject.key.toList = scope'.toList ++ '|' :: other.key.toList := by
    simpa [scopedKey] using congrArg String.toList same
  have parts := append_cons_inj_of_notMem_back barless barless' texts
  exact ⟨String.toList_inj.mp parts.1, String.toList_inj.mp parts.2⟩

theorem key_inj (same : subject.key = other.key) : subject = other := by
  cases subject with
  | position positionId =>
    cases other with
    | position other =>
      have texts : toString positionId = toString other := by
        simpa [key, String.ext_iff] using same
      exact congrArg _ (toString_nat_inj.mp texts)
    | address | ip => simp [key, String.ext_iff] at same
  | address | ip => cases other <;> simp_all [key, String.ext_iff]

/-- What the buckets hold, up to what is too old to count. -/
structure Remembered (limiter : SellerFreeTierLimiter) (now : Int) (history : List Admission)
    (usage : InMemoryUsage) : Prop where
  distinct : (usage.map fst).Nodup
  inOrder : ∀ bucket ∈ usage, bucket.2.Pairwise (· ≤ ·)
  past : ∀ bucket ∈ usage, ∀ time ∈ bucket.2, time ≤ now
  counted : ∀ policy ∈ limiter.policies, ∀ subject : FreeTierSubject, subject.Barless →
    Agree (now - policy.windowMs) (usage.timestamps (scopedKey policy.scope subject))
      (usageOf history policy.scope subject)

theorem Remembered.later (remembered : Remembered limiter now history usage) (inOrder : now ≤ nowMs) :
    Remembered limiter nowMs history usage where
  distinct := remembered.distinct
  inOrder := remembered.inOrder
  past bucket here time member := (remembered.past bucket here time member).trans inOrder
  counted policy known subject barless :=
    (remembered.counted policy known subject barless).later (Int.sub_le_sub_right inOrder _)

theorem timestamps_cases (usage : InMemoryUsage) (key : String) :
    usage.timestamps key = [] ∨ ∃ bucket ∈ usage, bucket.1 = key ∧ usage.timestamps key = bucket.2 := by
  unfold timestamps
  cases found : get fst key usage with
  | none => exact .inl rfl
  | some bucket =>
    have here := mem_of_get found
    exact .inr ⟨bucket, here.1, here.2, rfl⟩

theorem timestamps_prune (remembered : Remembered limiter now history usage) (key : String) :
    Agree windowStart ((usage.pruneExpiredBuckets windowStart).timestamps key) (usage.timestamps key) := by
  unfold timestamps pruneExpiredBuckets
  rw [get_filter remembered.distinct]
  cases found : get fst key usage with
  | none => rfl
  | some bucket =>
    rw [Option.filter]
    split
    · rfl
    next expired =>
      simp only [decide_eq_true_eq, not_le] at expired
      have inOrder := remembered.inOrder bucket (mem_of_get found).1
      have old : since windowStart bucket.2 = [] := by
        refine since_eq_nil fun time here => ?_
        obtain ⟨front, last, split_⟩ : ∃ front last, bucket.2 = front ++ [last] := by
          cases eq_nil_or_concat bucket.2 with
          | inl none_ => simp [none_] at here
          | inr some_ => exact some_.imp fun front ⟨last, same⟩ => ⟨last, by simpa using same⟩
        rw [split_, getLast?_concat, getD_some] at expired
        rw [split_, pairwise_append] at inOrder
        rw [split_, mem_append, mem_singleton] at here
        cases here with
        | inl before => exact (inOrder.2.2 time before last (mem_singleton_self last)).trans_lt expired
        | inr same => exact same ▸ expired
      exact old.symm

theorem Remembered.prune (remembered : Remembered limiter now history usage) :
    Remembered limiter now history (usage.pruneExpiredBuckets (now - limiter.retentionMs)) where
  distinct := remembered.distinct.sublist (filter_sublist.map fst)
  inOrder bucket here := remembered.inOrder bucket (mem_of_mem_filter here)
  past bucket here := remembered.past bucket (mem_of_mem_filter here)
  counted policy known subject barless := by
    have early := Int.sub_le_sub_left (windowMs_le_retentionMs known) now
    exact ((timestamps_prune remembered _).later early).trans (remembered.counted policy known subject barless)

theorem limits_barless (asks : Asks limiter policy buyerAddress remoteIp standing) {limit : FreeTierLimit}
    (here : limit ∈ limits policy buyerAddress remoteIp standing ownerLimit) :
    limit.subject.Barless := by
  have member := mem_map_of_mem (f := subject) here
  unfold FreeTierSubject.Barless
  cases counted : limit.subject with
  | address =>
    rw [counted, mem_limits_address] at member
    simpa [key, member.2.2] using asks.addressBarless
  | ip ip =>
    rw [counted, mem_limits_ip] at member
    simpa [key] using asks.ipBarless ip member.2.2
  | position positionId =>
    have digits : ∀ char ∈ (toString positionId).toList, char ≠ '|' := by
      intro char here bar
      have digit := Nat.isDigit_of_mem_toDigits (by decide : 0 < 10) (le_refl 10) (by simpa using here)
      simp [bar] at digit
    simp only [key, String.toList_append, mem_append, not_or]
    exact ⟨by decide, fun bar => digits _ bar rfl⟩

theorem limits_distinct (asks : Asks limiter policy buyerAddress remoteIp standing) :
    ((InMemoryUsage.limits policy buyerAddress remoteIp standing ownerLimit).map FreeTierLimit.subject).Nodup := by
  unfold limits
  cases standing with
  | some standing =>
    cases ownerLimit with
    | none => exact List.nodup_nil
    | some =>
      simp only [List.map_map]
      exact (asks.distinct standing rfl).map fun _ _ same => position.inj same
  | none =>
    cases policy.maxRequestsPerAddress <;> cases policy.maxRequestsPerIp <;> cases remoteIp <;> simp

/-- The buckets of a request, as they are before it. -/
def limitBuckets (usage : InMemoryUsage) (policy : FreeTierPolicy) (nowMs : Int) (limits : List FreeTierLimit) :
    List (String × List Int) :=
  limits.map fun limit =>
    (scopedKey policy.scope limit.subject,
      since (nowMs - policy.windowMs) (usage.timestamps (scopedKey policy.scope limit.subject)))

section Request

variable {limits : List FreeTierLimit} (barless : ∀ limit ∈ limits, limit.subject.Barless)
  (distinct : (limits.map FreeTierLimit.subject).Nodup)

include barless distinct

theorem limitBuckets_distinct : ((limitBuckets usage policy nowMs limits).map fst).Nodup := by
  have subjects := List.inj_on_of_nodup_map distinct
  rw [limitBuckets, List.map_map]
  refine List.Nodup.map_on ?_ (List.Nodup.of_map _ distinct)
  intro one here other there same
  exact subjects here there (key_inj (scopedKey_inj (barless one here) (barless other there) same).2)

theorem bucketsOf_eq : bucketsOf (usage.trackAll policy nowMs limits)
    = limitBuckets usage policy nowMs limits := by
  have same : (usage.trackAll policy nowMs limits).map fst = limitBuckets usage policy nowMs limits := by
    simp [trackAll, track, limitBuckets, since]
  rw [bucketsOf, same, ofList_distinct (limitBuckets_distinct barless distinct)]

omit distinct in
theorem trackedChecks_eq (known : policy ∈ limiter.policies) (remembered : Remembered limiter nowMs history usage) :
    (usage.trackAll policy nowMs limits).map snd = limits.map (checkOf history policy nowMs) := by
  rw [InMemoryUsage.trackAll, List.map_map]
  refine List.map_congr_left fun limit here => ?_
  have agree := remembered.counted policy known limit.subject (barless limit here)
  unfold Agree at agree
  simp only [Function.comp, InMemoryUsage.track, checkOf, ← agree]
  rfl

theorem Remembered.commit (known : policy ∈ limiter.policies)
    (recorded : Remembered limiter nowMs history before) (remembered : Remembered limiter nowMs history usage) :
    Remembered limiter nowMs (history ++ admits policy limits nowMs true true)
      (usage.commit (limitBuckets before policy nowMs limits) nowMs) := by
  have added : usage.commit (limitBuckets before policy nowMs limits) nowMs
      = ((limitBuckets before policy nowMs limits).map fun bucket => (bucket.1, bucket.2 ++ [nowMs])).foldl
        (fun known entry => Keyed.set fst entry known) usage := by
    rw [List.foldl_map]
    rfl
  have entries : ∀ bucket ∈ usage.commit (limitBuckets before policy nowMs limits) nowMs, bucket ∈ usage ∨
      ∃ key, bucket.2 = since (nowMs - policy.windowMs) (before.timestamps key) ++ [nowMs] := by
    intro bucket here
    rw [added] at here
    refine (Keyed.mem_of_mem_foldl_set here).imp_right fun new => ?_
    obtain ⟨old, member, rfl⟩ := List.mem_map.mp new
    obtain ⟨limit, _, rfl⟩ := List.mem_map.mp member
    exact ⟨_, rfl⟩
  have old_past : ∀ key, ∀ time ∈ before.timestamps key, time ≤ nowMs := by
    intro key time here
    cases timestamps_cases before key with
    | inl none_ => simp [none_] at here
    | inr some_ =>
      obtain ⟨bucket, member, _, same⟩ := some_
      exact recorded.past bucket member time (same ▸ here)
  have old_inOrder : ∀ key, (before.timestamps key).Pairwise (· ≤ ·) := by
    intro key
    cases timestamps_cases before key with
    | inl none_ => simp [none_]
    | inr some_ =>
      obtain ⟨bucket, member, _, same⟩ := some_
      exact same ▸ recorded.inOrder bucket member
  constructor
  case distinct =>
    rw [added]
    exact Keyed.nodup_keys_foldl_set remembered.distinct
  case inOrder =>
    intro bucket here
    cases entries bucket here with
    | inl before => exact remembered.inOrder bucket before
    | inr new =>
      obtain ⟨key, same⟩ := new
      rw [same, List.pairwise_append]
      refine ⟨(old_inOrder key).sublist List.filter_sublist, List.pairwise_singleton _ _, ?_⟩
      intro time member last there
      rw [List.mem_singleton.mp there]
      exact old_past key time (List.mem_of_mem_filter member)
  case past =>
    intro bucket here time member
    cases entries bucket here with
    | inl before => exact remembered.past bucket before time member
    | inr new =>
      obtain ⟨key, same⟩ := new
      rw [same, List.mem_append, List.mem_singleton] at member
      cases member with
      | inl old => exact old_past key time (List.mem_of_mem_filter old)
      | inr last => exact last.le
  case counted =>
    intro other known' subject clear
    have keys : (((limitBuckets before policy nowMs limits).map fun bucket =>
        (bucket.1, bucket.2 ++ [nowMs])).map fst).Nodup := by
      have before_ : ((limitBuckets before policy nowMs limits).map fst).Nodup :=
        limitBuckets_distinct barless distinct
      simpa [List.map_map, Function.comp_def] using before_
    have found : (usage.commit (limitBuckets before policy nowMs limits) nowMs).timestamps
          (scopedKey other.scope subject)
        = ((Keyed.get fst (scopedKey other.scope subject)
            ((limitBuckets before policy nowMs limits).map fun bucket => (bucket.1, bucket.2 ++ [nowMs]))).or
          (Keyed.get fst (scopedKey other.scope subject) usage)).elim [] snd := by
      rw [InMemoryUsage.timestamps, added, Keyed.get_foldl_set keys]
    rw [found, usageOf_append, usageOf_admits]
    by_cases charged : policy.scope = other.scope ∧ subject ∈ limits.map FreeTierLimit.subject
    · -- The key is the one of a limit of this program.
      obtain ⟨scope, member⟩ := charged
      cases policy_of_scope known known' scope
      obtain ⟨limit, here, rfl⟩ := List.mem_map.mp member
      have entry := Keyed.get_of_mem keys (List.mem_map_of_mem (List.mem_map_of_mem here))
      rw [entry]
      simp only [Option.some_or, Option.elim_some, member, and_self, ↓reduceIte]
      exact ((agree_since le_rfl).trans (recorded.counted policy known limit.subject clear)).append
    · have none_ : Keyed.get fst (scopedKey other.scope subject)
          ((limitBuckets before policy nowMs limits).map fun bucket => (bucket.1, bucket.2 ++ [nowMs])) = none := by
        rw [Keyed.get_eq_none_iff]
        intro key
        simp only [limitBuckets, List.map_map, List.mem_map, Function.comp] at key
        obtain ⟨limit, here, same⟩ := key
        have parts := scopedKey_inj (barless limit here) clear same
        exact charged ⟨parts.1, List.mem_map.mpr ⟨limit, here, key_inj parts.2⟩⟩
      rw [none_, Option.none_or, if_neg fun all => charged ⟨all.2.2.1, all.2.2.2⟩, List.append_nil]
      exact remembered.counted other known' subject clear

end Request

theorem memory_decides (asks : Asks limiter policy buyerAddress remoteIp standing)
    (remembered : Remembered limiter now history usage) (inOrder : now ≤ nowMs) (ownerLimit : Option Int)
    (service : Option String)
    (room : service.isSome → (usage.pruneExpiredBuckets (nowMs - limiter.retentionMs)).hasRoom
      (bucketsOf (usage.trackAll policy nowMs
        (limits policy buyerAddress remoteIp standing ownerLimit)))) :
    let limits := limits policy buyerAddress remoteIp standing ownerLimit
    let decided := verdict history policy limits nowMs
    ∃ after, (BackEnd.memory usage).decide policy limiter.retentionMs buyerAddress remoteIp standing ownerLimit nowMs
        service = (.ok decided, .memory after)
      ∧ Remembered limiter nowMs (history ++ admits policy limits nowMs decided.allowed service.isSome) after := by
  intro limits decided
  have barless : ∀ limit ∈ limits, limit.subject.Barless := fun limit here => limits_barless asks here
  have distinct : (limits.map FreeTierLimit.subject).Nodup := limits_distinct asks
  have ready := remembered.later inOrder
  have checks : (usage.trackAll policy nowMs limits).map snd = limits.map (checkOf history policy nowMs) :=
    trackedChecks_eq barless asks.known ready
  have same : evaluateFreeTierLimits ((usage.trackAll policy nowMs limits).map snd) policy.windowMs nowMs
      = decided := by
    rw [checks]
    rfl
  unfold BackEnd.decide evaluateInMemory
  dsimp only
  by_cases admitted : decided.allowed ∧ service.isSome
  · have allowed : decided.allowed = true := admitted.1
    rw [if_pos (by rw [same]; exact admitted), if_pos (room admitted.2), same, allowed, admitted.2]
    refine ⟨_, rfl, ?_⟩
    rw [bucketsOf_eq barless distinct]
    exact ready.commit barless distinct asks.known ready.prune
  · rw [if_neg (by rw [same]; exact admitted), same]
    refine ⟨_, rfl, ?_⟩
    rw [admits, if_neg admitted, append_nil]
    exact ready

end AntSeed.FreeTier
