import AntSeed.Lib.JsString
import Mathlib.Algebra.Order.Field.Rat
import Mathlib.Data.List.Induction
import Mathlib.Data.List.Perm.Basic
import Mathlib.Data.Prod.Lex

/-! # Which seller a request goes to

A seller is rated by what one successful answer of it is expected to cost, in money and in time. Sellers
close to the best share the traffic, and now and then one that was not heard of lately goes first. What the
buyer has observed comes from its health book, which may tell anything here.
-/

namespace AntSeed.Routing

open List

structure SellerHealthStats where
  successes : ℚ
  failures : ℚ
  firstTokenMs : Option ℚ
  tokensPerSecond : Option ℚ
  lastSuccessAt : ℚ
  lastFailureAt : ℚ

def successProbability (stats : Option SellerHealthStats) : ℚ :=
  let successes := (stats.map (·.successes)).getD 0
  let failures := (stats.map (·.failures)).getD 0
  (successes + 2 * (4 / 5)) / (successes + failures + 2)

structure RouteRequestShape where
  inputTokens : ℚ
  outputTokens : ℚ

structure AdaptiveRouteInput where
  peerId : List Char
  serviceId : Option (List Char)
  inputUsdPerMillion : Option ℚ
  outputUsdPerMillion : Option ℚ
  requestUsd : Option ℚ
  coolingDown : Bool
  /-- `none` where it is not known -/
  channelOpen : Option Bool
  /-- also `false` where it is absent -/
  saturated : Bool

structure AdaptiveRouteScore where
  successProbability : ℚ
  expectedSeconds : ℚ
  expectedPriceUsd : Option ℚ
  score : ℚ
  unhealthy : Bool
  stale : Bool
  stats : Option SellerHealthStats

structure NetworkSpeed where
  firstTokenMs : ℚ
  tokensPerSecond : ℚ

def median (values : List ℚ) : Option ℚ :=
  let sorted := values.mergeSort (· ≤ ·)
  let middle := sorted.length / 2
  if sorted.length % 2 = 1 then sorted[middle]?
  else do return ((← sorted[middle - 1]?) + (← sorted[middle]?)) / 2

def networkSpeed (stats : List (Option SellerHealthStats)) : NetworkSpeed where
  firstTokenMs := (median (stats.filterMap (·.bind (·.firstTokenMs)))).getD 4000
  tokensPerSecond := (median (stats.filterMap (·.bind (·.tokensPerSecond)))).getD 50

def scoreAdaptiveRoute (input : AdaptiveRouteInput) (stats : Option SellerHealthStats)
    (shape : RouteRequestShape) (network : NetworkSpeed) (now timeValueUsdPerSecond : ℚ) : AdaptiveRouteScore :=
  let probability := successProbability stats
  let firstTokenMs := (stats.bind (·.firstTokenMs)).getD network.firstTokenMs
  let tokensPerSecond := (stats.bind (·.tokensPerSecond)).getD network.tokensPerSecond
  let expectedSeconds := firstTokenMs / 1000 + shape.outputTokens / max 1 tokensPerSecond +
    if input.channelOpen = some false then 5 else 0
  let expectedPriceUsd := input.requestUsd.filter (0 ≤ ·) <|> do
    return (shape.inputTokens * (← input.inputUsdPerMillion) +
      shape.outputTokens * (← input.outputUsdPerMillion)) / 1000000
  let pricePart := expectedPriceUsd.getD ((shape.inputTokens + shape.outputTokens) / 1000000)
  let lastObservedAt := max ((stats.map (·.lastSuccessAt)).getD 0) ((stats.map (·.lastFailureAt)).getD 0)
  { successProbability := probability
    expectedSeconds
    expectedPriceUsd
    score := (pricePart + timeValueUsdPerSecond * expectedSeconds) / max probability (1 / 100)
    unhealthy := probability < 1 / 2
    stale := 600000 ≤ now - lastObservedAt
    stats }

structure AdaptiveOrderOptions where
  now : ℚ
  affinityKey : Option (List Char)
  /-- what the calls of `random` give, one after the other -/
  random : ℕ → ℚ
  timeValueUsdPerSecond : Option ℚ
  spreadTolerance : Option ℚ
  explorationRate : Option ℚ
  /-- `Math.log` -/
  log : ℚ → ℚ

section Picks

variable {T : Type} {pool : List T}

def weightedPick (weight : T → ℚ) (pool : List T) (draw : ℚ) : Option T :=
  go (draw * (pool.map weight).sum) pool <|> pool.getLast?
where
  go (remaining : ℚ) : List T → Option T
    | [] => none
    | seller :: rest =>
      if remaining - weight seller < 0 then some seller else go (remaining - weight seller) rest

theorem weightedPick_mem (picked : weightedPick weight pool draw = some seller) : seller ∈ pool := by
  have go : ∀ remaining, weightedPick.go weight remaining pool = some seller → seller ∈ pool := by
    clear picked
    induction pool with
    | nil => nofun
    | cons first rest ih =>
      intro remaining found
      rw [weightedPick.go] at found
      split at found
      · cases found
        exact mem_cons_self
      · exact mem_cons_of_mem _ (ih _ found)
  rw [weightedPick, Option.orElse_eq_orElse, Option.orElse_eq_or, Option.or_eq_some_iff] at picked
  rcases picked with found | ⟨-, last⟩
  · exact go _ found
  · exact mem_of_getLast? last

/-- FNV-1a, mapped to (0, 1]. -/
def stableUnit (text : List Char) : ℚ :=
  let hash := (text.flatMap JsString.units).foldl
    (fun hash unit => (hash ^^^ unit.toUInt32) * 0x01000193) 0x811c9dc5
  (hash.toNat + 1) / 0x100000001

def better (score : T → ℚ) (best : Option (T × ℚ)) (seller : T) : Option (T × ℚ) :=
  match best with
  | some (_, highest) => if highest < score seller then some (seller, score seller) else best
  | none => some (seller, score seller)

def rendezvousPick (score : T → ℚ) (pool : List T) : Option T := (pool.foldl (better score) none).map Prod.fst

theorem better_cases (score : T → ℚ) (best : Option (T × ℚ)) (seller : T) :
    better score best seller = some (seller, score seller) ∨ best.isSome ∧ better score best seller = best := by
  cases best with
  | none => exact .inl rfl
  | some best =>
    rw [better]
    split
    · exact .inl rfl
    · exact .inr ⟨rfl, rfl⟩

/-- Some seller of the pool is picked, if it has one. -/
theorem rendezvousPick_spec (score : T → ℚ) (pool : List T) :
    (rendezvousPick score pool = none → pool = []) ∧
      ∀ seller, rendezvousPick score pool = some seller → seller ∈ pool := by
  induction pool using reverseRecOn with
  | nil => exact ⟨fun _ => rfl, nofun⟩
  | append_singleton pool last ih =>
    rw [rendezvousPick, foldl_append, foldl_cons, foldl_nil]
    rcases better_cases score (pool.foldl (better score) none) last with new | ⟨some, same⟩
    · rw [new]
      refine ⟨nofun, fun seller picked => ?_⟩
      cases picked
      exact mem_append_right _ mem_cons_self
    · rw [same]
      refine ⟨fun none => ?_, fun seller picked => mem_append_left _ (ih.2 seller picked)⟩
      rw [Option.map_eq_none_iff.mp none] at some
      cases some

end Picks

/-- The candidates of one request and what is known of them. -/
structure Ranking (T : Type) where
  candidates : List T
  inputs : T → AdaptiveRouteInput
  scores : T → AdaptiveRouteScore

def sortBy [LinearOrder κ] (key : T → κ) (sellers : List T) : List T :=
  sellers.mergeSort fun a b => key a ≤ key b

theorem sortBy_perm [LinearOrder κ] (key : T → κ) (sellers : List T) : (sortBy key sellers).Perm sellers :=
  mergeSort_perm _ _

theorem sorted_sortBy [LinearOrder κ] (key : T → κ) (sellers : List T) :
    (sortBy key sellers).Pairwise fun a b => key a ≤ key b := by
  have sorted : (sellers.mergeSort fun a b => decide (key a ≤ key b)).Pairwise
      fun a b => decide (key a ≤ key b) = true :=
    pairwise_mergeSort (by simpa using fun _ _ _ => le_trans)
      (by simpa using fun a b => le_total (key a) (key b)) sellers
  simpa [sortBy] using sorted

variable {T : Type} [DecidableEq T]

/-- The seller first, and the others behind it. -/
def ahead : Option T → List T → List T
  | none, sellers => sellers
  | some seller, sellers => seller :: sellers.filter (· ≠ seller)

theorem ahead_perm {seller : T} (distinct : sellers.Nodup) (here : seller ∈ sellers) :
    (ahead (some seller) sellers).Perm sellers := by
  have erased : sellers.filter (· ≠ seller) = sellers.erase seller := by
    rw [distinct.erase_eq_filter]
    exact filter_congr fun other _ => by by_cases same : other = seller <;> simp [same]
  rw [ahead, erased]
  exact (perm_cons_erase here).symm

namespace Ranking

variable {r : Ranking T} {sharers : List T}

section Order

variable (r : Ranking T)

/-- Priced sellers first, then by expected cost, then as they came. -/
def byScore (seller : T) : ℕ ×ₗ ℚ ×ₗ ℕ :=
  toLex ((r.scores seller).expectedPriceUsd.isNone.toNat,
    toLex ((r.scores seller).score, r.candidates.idxOf seller))

/-- Before that, sellers with room. -/
def byRoom (seller : T) : ℕ ×ₗ ℕ ×ₗ ℚ ×ₗ ℕ := toLex ((r.inputs seller).saturated.toNat, r.byScore seller)

def cooling : List T := sortBy r.byScore (r.candidates.filter fun seller => (r.inputs seller).coolingDown)

def ready : List T := r.candidates.filter fun seller => !(r.inputs seller).coolingDown

def healthy : List T := sortBy r.byRoom (r.ready.filter fun seller => !(r.scores seller).unhealthy)

def unhealthy : List T := sortBy r.byScore (r.ready.filter fun seller => (r.scores seller).unhealthy)

/-- The healthy sellers close to the best of them. -/
def sharing (tolerance : ℚ) : List T :=
  match r.healthy with
  | [] => []
  | leader :: _ => r.healthy.filter fun seller =>
      (r.scores seller).score ≤ (r.scores leader).score * (1 + tolerance) ∧
        (r.scores seller).expectedPriceUsd.isSome = (r.scores leader).expectedPriceUsd.isSome ∧
        (r.inputs seller).saturated = (r.inputs leader).saturated

/-- Traffic is not shared with a seller that needs a new channel. -/
def pool (tolerance : ℚ) : List T :=
  if ∃ seller ∈ r.sharing tolerance, (r.inputs seller).channelOpen = some false then
    let paid := (r.sharing tolerance).filter fun seller => (r.inputs seller).channelOpen ≠ some false
    if paid ≠ [] then paid else (r.sharing tolerance).take 1
  else r.sharing tolerance

def picked (options : AdaptiveOrderOptions) (affinity : Option (List Char)) (pool : List T) : Option T :=
  let weight seller := 1 / max (r.scores seller).score (1 / 1000000000) ^ 2
  if pool.length = 1 then pool.head?
  else match affinity with
    | some key => rendezvousPick (fun seller =>
        options.log (stableUnit (key ++ '|' :: (r.inputs seller).peerId)) / weight seller) pool
    | none => weightedPick weight pool (options.random 0)

def probed (pool : List T) : Option T :=
  (sortBy r.byScore (r.ready.filter fun seller => seller ∉ pool ∧ (r.scores seller).stale ∧
    (r.inputs seller).channelOpen ≠ some false ∧ ¬ (r.inputs seller).saturated)).head?

/-- Healthy, unhealthy or cooling down. -/
def tier (seller : T) : ℕ :=
  if (r.inputs seller).coolingDown then 2 else if (r.scores seller).unhealthy then 1 else 0

end Order

theorem mem_healthy : seller ∈ r.healthy ↔ seller ∈ r.candidates ∧ r.tier seller = 0 := by
  simp only [healthy, (sortBy_perm _ _).mem_iff, ready, mem_filter, tier]
  grind

theorem inOrder_perm : (r.healthy ++ r.unhealthy ++ r.cooling).Perm r.candidates := by
  have ready : (r.healthy ++ r.unhealthy).Perm r.ready :=
    ((sortBy_perm _ _).append (sortBy_perm _ _)).trans
      (perm_append_comm.trans (filter_append_perm _ _))
  exact ((ready.append (sortBy_perm _ _)).trans perm_append_comm).trans (filter_append_perm _ _)

theorem inOrder_tiers : (r.healthy ++ r.unhealthy ++ r.cooling).Pairwise fun a b => r.tier a ≤ r.tier b := by
  have one : ∀ seller ∈ r.healthy, r.tier seller = 0 := fun _ here => (mem_healthy.mp here).2
  have two : ∀ seller ∈ r.unhealthy, r.tier seller = 1 := fun seller here => by
    have := mem_filter.mp ((sortBy_perm _ _).subset here)
    simp_all [tier, ready]
  have three : ∀ seller ∈ r.cooling, r.tier seller = 2 := fun seller here => by
    have := mem_filter.mp ((sortBy_perm _ _).subset here)
    simp_all [tier]
  simp only [pairwise_append, mem_append]
  refine ⟨⟨?_, ?_, ?_⟩, ?_, ?_⟩ <;> grind [pairwise_of_forall_mem_list]

theorem leads (isHealthy : r.healthy = leader :: rest) :
    ∀ seller ∈ r.healthy, r.byRoom leader ≤ r.byRoom seller := by
  have sorted : r.healthy.Pairwise fun a b => r.byRoom a ≤ r.byRoom b := sorted_sortBy _ _
  rw [isHealthy] at sorted ⊢
  exact forall_mem_cons.mpr ⟨le_refl _, (pairwise_cons.mp sorted).1⟩

theorem sharing_healthy (here : seller ∈ r.sharing tolerance) : seller ∈ r.healthy := by
  rw [sharing] at here
  split at here
  · cases here
  · exact mem_of_mem_filter here

theorem pool_sharing (here : seller ∈ r.pool tolerance) : seller ∈ r.sharing tolerance := by
  simp only [pool] at here
  split at here
  · split at here
    · exact mem_of_mem_filter here
    · exact mem_of_mem_take here
  · exact here

omit [DecidableEq T] in
theorem picked_spec (options : AdaptiveOrderOptions) (affinity : Option (List Char)) (sharers : List T) :
    (r.picked options affinity sharers = none → sharers = []) ∧
      ∀ seller, r.picked options affinity sharers = some seller → seller ∈ sharers := by
  simp only [picked]
  split
  · exact ⟨head?_eq_none_iff.mp, fun _ => mem_of_head?⟩
  · split
    · exact rendezvousPick_spec _ _
    · refine ⟨fun none => ?_, fun _ => weightedPick_mem⟩
      rw [weightedPick, Option.orElse_eq_orElse, Option.orElse_eq_or, Option.or_eq_none_iff] at none
      exact getLast?_eq_none_iff.mp none.2

theorem saturated_of_byRoom (le : r.byRoom one ≤ r.byRoom other) (full : (r.inputs one).saturated) :
    (r.inputs other).saturated := by
  have fewer : (r.inputs one).saturated.toNat ≤ (r.inputs other).saturated.toNat := by
    rw [byRoom, byRoom, Prod.Lex.toLex_le_toLex] at le
    omega
  rw [full] at fewer
  exact Bool.toNat_eq_one.mp (le_antisymm (Bool.toNat_le _) fewer)

theorem score_of_byRoom (le : r.byRoom one ≤ r.byRoom other)
    (price : (r.scores other).expectedPriceUsd.isSome = (r.scores one).expectedPriceUsd.isSome)
    (room : (r.inputs other).saturated = (r.inputs one).saturated) :
    (r.scores one).score ≤ (r.scores other).score := by
  have price : (r.scores other).expectedPriceUsd.isNone = (r.scores one).expectedPriceUsd.isNone := by
    rw [← Option.not_isSome, price, Option.not_isSome]
  simp only [byRoom, byScore, Prod.Lex.toLex_le_toLex, room, price, lt_irrefl, false_or, true_and] at le
  exact le.elim le_of_lt fun same => same.1.le

/-- Where the traffic is shared, the best healthy seller has the first share. -/
theorem sharing_head (here : seller ∈ r.sharing tolerance) :
    ∃ leader rest, r.healthy = leader :: rest ∧ (r.sharing tolerance).head? = some leader ∧
      (r.inputs seller).saturated = (r.inputs leader).saturated := by
  cases isHealthy : r.healthy with
  | nil => simp [sharing, isHealthy] at here
  | cons leader rest =>
    have listed := sharing_healthy here
    simp only [sharing, isHealthy, mem_filter, decide_eq_true_eq] at here
    obtain ⟨-, close, price, room⟩ := here
    have near := (score_of_byRoom (leads isHealthy seller listed) price room).trans close
    exact ⟨leader, rest, rfl, by simp [sharing, isHealthy, near], room⟩

/-- What is said of the first seller that was not explored. -/
structure First (r : Ranking T) (tolerance : ℚ) (first : T) : Prop where
  paid : (∃ seller ∈ r.candidates, r.tier seller = 0) → (r.inputs first).channelOpen = some false →
    r.tier first = 0 ∧ (∀ seller ∈ r.candidates, r.tier seller = 0 → r.byRoom first ≤ r.byRoom seller) ∧
      ∀ seller ∈ r.sharing tolerance, (r.inputs seller).channelOpen = some false
  room : (r.inputs first).saturated → ∀ seller ∈ r.candidates, r.tier seller = 0 → (r.inputs seller).saturated

theorem first_leader (isHealthy : r.healthy = leader :: rest)
    (unpaid : (r.inputs leader).channelOpen = some false →
      ∀ seller ∈ r.sharing tolerance, (r.inputs seller).channelOpen = some false) :
    First r tolerance leader where
  paid _ closed := ⟨(mem_healthy.mp (isHealthy ▸ mem_cons_self)).2,
    fun seller here tier => leads isHealthy seller (mem_healthy.mpr ⟨here, tier⟩), unpaid closed⟩
  room full seller here tier := saturated_of_byRoom (leads isHealthy seller (mem_healthy.mpr ⟨here, tier⟩)) full

theorem first_pool (here : first ∈ r.pool tolerance) : First r tolerance first := by
  obtain ⟨leader, rest, isHealthy, isHead, room⟩ := sharing_head (pool_sharing here)
  by_cases closed : (r.inputs first).channelOpen = some false
  · -- a seller without a channel is only drawn where nobody has one
    simp only [pool] at here
    rw [if_pos ⟨first, pool_sharing here, closed⟩] at here
    split at here
    next => simp [closed] at here
    next none =>
      rw [take_one, isHead] at here
      cases mem_singleton.mp here
      refine first_leader isHealthy fun _ seller there => ?_
      by_contra opened
      exact none fun empty => filter_eq_nil_iff.mp empty seller there (by simpa using opened)
  · exact ⟨fun _ unpaid => absurd unpaid closed, fun full seller there tier =>
      saturated_of_byRoom (leads isHealthy seller (mem_healthy.mpr ⟨there, tier⟩)) (room ▸ full)⟩

theorem first_of_pool_nil (none : r.pool tolerance = [])
    (isFirst : (r.healthy ++ r.unhealthy ++ r.cooling).head? = some first) : First r tolerance first := by
  have nobody : r.sharing tolerance = [] := by
    simp only [pool] at none
    split at none
    · split at none
      · contradiction
      · simpa using none
    · exact none
  cases isHealthy : r.healthy with
  | nil =>
    have nobody : ∀ seller ∈ r.candidates, r.tier seller ≠ 0 := fun seller here tier =>
      not_mem_nil (isHealthy ▸ mem_healthy.mpr ⟨here, tier⟩)
    exact ⟨fun ⟨seller, here, tier⟩ => absurd tier (nobody seller here),
      fun _ seller here tier => absurd tier (nobody seller here)⟩
  | cons leader rest =>
    rw [isHealthy] at isFirst
    cases isFirst
    exact first_leader isHealthy fun _ seller here => absurd (nobody ▸ here) not_mem_nil

theorem drawn (distinct : r.candidates.Nodup) (ordered : List T) (isOrdered : ordered =
      ahead (r.picked options affinity (r.pool tolerance)) (r.healthy ++ r.unhealthy ++ r.cooling)) :
    ordered.Perm r.candidates ∧ ordered.Pairwise (fun a b => r.tier a ≤ r.tier b) ∧
      (∀ first ∈ ordered.head?, r.First tolerance first) ∧
      (r.pool tolerance ≠ [] → ∃ first ∈ r.pool tolerance, ordered.head? = some first) := by
  obtain ⟨nobody, someone⟩ := r.picked_spec options affinity (r.pool tolerance)
  cases picked : r.picked options affinity (r.pool tolerance) with
  | none =>
    rw [picked] at isOrdered
    subst isOrdered
    exact ⟨inOrder_perm, inOrder_tiers, fun first => first_of_pool_nil (nobody picked), absurd (nobody picked)⟩
  | some first =>
    have here := someone first picked
    have listed := mem_healthy.mp (sharing_healthy (pool_sharing here))
    rw [picked] at isOrdered
    subst isOrdered
    refine ⟨(ahead_perm (inOrder_perm.nodup_iff.mpr distinct)
        (inOrder_perm.mem_iff.mpr listed.1)).trans inOrder_perm,
      pairwise_cons.mpr ⟨fun other _ => listed.2 ▸ Nat.zero_le _, inOrder_tiers.filter _⟩, ?_,
      fun _ => ⟨first, here, rfl⟩⟩
    rintro _ ⟨⟩
    exact first_pool here

theorem probed_spec (probed : r.probed sharers = some seller) :
    seller ∈ r.candidates ∧ seller ∉ sharers ∧ (r.inputs seller).coolingDown = false ∧ (r.scores seller).stale ∧
      (r.inputs seller).channelOpen ≠ some false ∧ (r.inputs seller).saturated = false := by
  have here := (sortBy_perm _ _).subset (mem_of_head? probed)
  simp only [ready, mem_filter] at here
  grind

end Ranking

structure AdaptiveOrder (T : Type) where
  ordered : List T
  scores : T → AdaptiveRouteScore
  pool : List T
  explored : Option T

section Routes

-- `book` tells what was observed of a seller and a model
variable (candidates : List T) (input : T → AdaptiveRouteInput)
  (book : List Char → Option (List Char) → ℚ → Option SellerHealthStats) (shape : RouteRequestShape)
  (options : AdaptiveOrderOptions)

def ranking : Ranking T :=
  let stats seller := book (input seller).peerId (input seller).serviceId options.now
  { candidates
    inputs := input
    scores := fun seller => scoreAdaptiveRoute (input seller) (stats seller) shape
      (networkSpeed (candidates.map stats)) options.now (options.timeValueUsdPerSecond.getD (1 / 5000)) }

def orderAdaptiveRoutes : AdaptiveOrder T :=
  let r := ranking candidates input book shape options
  let affinity := options.affinityKey.filter (· ≠ [])
  let explorationRate := options.explorationRate.getD (1 / 20)
  let pool := r.pool (options.spreadTolerance.getD (3 / 10))
  let ordered := ahead (r.picked options affinity pool) (r.healthy ++ r.unhealthy ++ r.cooling)
  -- the first draw is spent where the pool was drawn from by weight
  let draws := if pool.length = 1 then 0 else 1
  let explored := if pool ≠ [] ∧ affinity = none ∧ 0 < explorationRate ∧
      options.random draws < explorationRate then r.probed pool else none
  { ordered := ahead explored ordered, scores := r.scores, pool, explored }

/-- The order keeps every candidate. Apart from the explored one, ahead of all, the healthy ones come before the
    unhealthy ones and these before the ones cooling down. -/
theorem routes_keep_tiers (distinct : candidates.Nodup) :
    let r : Ranking T := ranking candidates input book shape options
    let order := orderAdaptiveRoutes candidates input book shape options
    order.ordered.Perm candidates ∧
      (∃ rest, order.ordered = order.explored.toList ++ rest ∧
        rest.Pairwise (fun a b => r.tier a ≤ r.tier b) ∧
        ∀ first ∈ rest.head?, r.First (options.spreadTolerance.getD (3 / 10)) first) ∧
      ∀ seller ∈ order.explored, seller ∉ order.pool ∧ (r.inputs seller).coolingDown = false ∧
        (r.scores seller).stale ∧ (r.inputs seller).channelOpen ≠ some false ∧
        (r.inputs seller).saturated = false := by
  intro r order
  obtain ⟨perm, tiers, isFirst, inPool⟩ := r.drawn distinct _ rfl
  cases isExplored : order.explored with
  | none =>
    have same : order.ordered = _ := congrArg (ahead · _) isExplored
    rw [same]
    exact ⟨perm, ⟨_, rfl, tiers, isFirst⟩, nofun⟩
  | some seller =>
    obtain ⟨⟨some, -⟩, probed⟩ := Option.ite_none_right_eq_some.mp isExplored
    obtain ⟨listed, outside, facts⟩ := Ranking.probed_spec probed
    have same : order.ordered = _ := congrArg (ahead · _) isExplored
    obtain ⟨first, here, isHead⟩ := inPool some
    refine ⟨same ▸ (ahead_perm (perm.nodup_iff.mpr distinct) (perm.mem_iff.mpr listed)).trans perm,
      ⟨_, same, tiers.filter _, fun other isOther => ?_⟩, ?_⟩
    · obtain ⟨rest, isRest⟩ := List.head?_eq_some_iff.mp isHead
      rw [isRest, List.filter_cons_of_pos (by simpa using ne_of_mem_of_not_mem here outside)] at isOther
      cases isOther
      exact isFirst first isHead
    · rintro _ ⟨⟩
      exact ⟨outside, facts⟩

theorem two_routes_keep_tiers :
    (orderAdaptiveRoutes [false, true]
      (fun _ => ⟨['a'], none, some 1, some 1, none, false, some true, false⟩) (fun _ _ _ => none) ⟨1, 1⟩
      ⟨0, none, fun _ => 0, none, none, none, fun _ => 0⟩).ordered.Perm [false, true] :=
  (routes_keep_tiers _ _ _ _ _ (by decide)).1

end Routes

/-- With no healthy seller the first one may need a new channel. -/
theorem unhealthy_route_opens_channel :
    ¬ ∀ (candidates : List Unit) input book shape options, candidates.Nodup →
      let r := ranking candidates input book shape options
      let order := orderAdaptiveRoutes candidates input book shape options
      ∀ rest, order.ordered = order.explored.toList ++ rest → ∀ first ∈ rest.head?,
        (r.inputs first).channelOpen = some false → r.tier first = 0 := by
  intro all
  let input : Unit → AdaptiveRouteInput := fun _ =>
    ⟨['a'], none, some 1, some 1, none, false, some false, false⟩
  let book : List Char → Option (List Char) → ℚ → Option SellerHealthStats :=
    fun _ _ _ => some ⟨0, 8, none, none, 0, 0⟩
  let options : AdaptiveOrderOptions := ⟨0, none, fun _ => 0, none, none, some 0, fun _ => 0⟩
  have unhealthy : ((ranking [()] input book ⟨1, 1⟩ options).scores ()).unhealthy = true := by decide +kernel
  have ordered : (orderAdaptiveRoutes [()] input book ⟨1, 1⟩ options).ordered =
      (orderAdaptiveRoutes [()] input book ⟨1, 1⟩ options).explored.toList ++ [()] := by
    have candidates : (ranking [()] input book ⟨1, 1⟩ options).candidates = [()] := rfl
    have inputs : (ranking [()] input book ⟨1, 1⟩ options).inputs = input := rfl
    simp [orderAdaptiveRoutes, Ranking.pool, Ranking.sharing, Ranking.healthy, Ranking.unhealthy,
      Ranking.cooling, Ranking.ready, sortBy, unhealthy, candidates, inputs, input, options, ahead, Ranking.picked, weightedPick,
      weightedPick.go]
  have healthy := all [()] input book ⟨1, 1⟩ options (by decide) [()] ordered () rfl rfl
  simp only [Ranking.tier, unhealthy, if_true] at healthy
  split at healthy <;> cases healthy

end AntSeed.Routing
