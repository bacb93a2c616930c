import AntSeed.Gateway.GatewayStore
import AntSeed.Lib.Machine
import Mathlib.Algebra.BigOperators.Group.Finset.Piecewise
import Mathlib.Tactic.Linarith

/-! # The spend rollups

Admission reads spend from two tables that group the ledger, by scope and by scope and day. Migration v3
fills them from the ledger as it was, and from then on the trigger keeps them. They are what the ledger adds up to.
-/

namespace AntSeed.Gateway

open List ApiKeyRecord SpendDaily

section Groups

open scoped BigOperators

variable {α κ : Type} [DecidableEq κ] {key : α → κ} {value : α → Int} {rows : List α}

/-- `SUM(value) … WHERE p` -/
def summed (p : α → Prop) [DecidablePred p] (value : α → Int) (rows : List α) : Int :=
  ((rows.filter fun row => p row).map value).sum

/-- `GROUP BY key`, with the sum of each group. -/
def grouped (key : α → κ) (value : α → Int) (rows : List α) : List (κ × Int) :=
  (rows.map key).dedup.map fun name => (name, summed (key · = name) value rows)

theorem summed_eq [DecidablePred p] :
    summed p value rows = (rows.map fun row => if p row then value row else 0).sum := by
  unfold summed
  induction rows with
  | nil => rfl
  | cons row rest ih => by_cases met : p row <;> simp [met, ih]

theorem summed_append [DecidablePred p] :
    summed p value (rows ++ more) = summed p value rows + summed p value more := by
  simp [summed]

theorem summed_concat [DecidablePred p] :
    summed p value (rows ++ [row]) = summed p value rows + if p row then value row else 0 := by
  rw [summed_append, @summed_eq _ _ [row]]
  simp

theorem sum_names (names : Finset κ) (named : ∀ row ∈ rows, key row ∈ names) :
    ∑ name ∈ names, summed (key · = name) value rows = (rows.map value).sum := by
  simp only [summed_eq]
  induction rows with
  | nil => simp
  | cons row rest ih =>
    have one : ∑ name ∈ names, (if key row = name then value row else 0) = value row := by
      rw [Finset.sum_ite_eq, if_pos (named row mem_cons_self)]
    simp only [map_cons, sum_cons, Finset.sum_add_distrib, one,
      ih fun other here => named other (mem_cons_of_mem row here)]

theorem summed_grouped (p : κ → Prop) [DecidablePred p] :
    summed (p ·.1) Prod.snd (grouped key value rows) = summed (p <| key ·) value rows := by
  have each : ∀ name, (if p name then summed (key · = name) value rows else 0)
      = summed (key · = name) (fun row => if p (key row) then value row else 0) rows := by
    intro name
    simp only [summed_eq]
    split
    next met =>
      refine congrArg sum (map_congr_left fun row _ => ?_)
      by_cases same : key row = name <;> simp [same, met]
    next unmet =>
      rw [sum_eq_zero]
      intro x here
      obtain ⟨row, -, rfl⟩ := mem_map.mp here
      by_cases same : key row = name <;> simp [same, unmet]
  rw [summed_eq, summed_eq, grouped, map_map, ← sum_toFinset _ (nodup_dedup _)]
  simp only [Function.comp_apply, each]
  exact sum_names _ fun row here => by simpa using ⟨row, here, rfl⟩

end Groups

namespace GatewayStore

/-- The day that something is rolled up under. -/
def dayStart (createdAt : Int) : Int := createdAt.tdiv DAY_MS * DAY_MS

def isSpend (entry : LedgerEntry) : Bool := entry.kind = .spend

/-- Every key moves into a workspace that pays with its identity. -/
def workspaceOf (buyerIdentity : String) : String :=
  if buyerIdentity = DEFAULT_BUYER_IDENTITY then DEFAULT_WORKSPACE_ID else "ws_" ++ buyerIdentity

/-- An entry belongs where its request does, or without one where its key does. -/
def attributed (store : GatewayStore) (entry : LedgerEntry) : LedgerEntry :=
  match entry.requestTag.bind store.getRequest with
  | some request => { entry with
      workspaceId := request.workspaceId.or ((store.getKey request.keyId).map workspaceId)
      memberId := request.memberId
      model := request.model
      endUser := request.endUser }
  | none => { entry with
      workspaceId := (store.getKey entry.keyId).map workspaceId
      memberId := (store.getKey entry.keyId).bind ownerMemberId
      model := none
      endUser := none }

def dailyRows (scope : LedgerEntry → Option BudgetScope) (ledger : List LedgerEntry) : List SpendDaily :=
  (grouped (fun entry => ((scope entry).getD (.key entry.keyId), dayStart entry.createdAt)) (-·.amountUsdc)
      (ledger.filter fun entry => isSpend entry ∧ (scope entry).isSome)).map
    fun group => ⟨group.1.1, group.1.2, group.2⟩

/-- The columns that the migration adds are set and the rollups are filled, whatever was there. -/
def migrateToV3 (old : GatewayStore) : GatewayStore :=
  let keys := old.keys.map fun key => { key with
    workspaceId := workspaceOf key.buyerIdentity
    ownerMemberId := none }
  let requests := old.requests.map fun request => { request with
    workspaceId := (Keyed.get ApiKeyRecord.id request.keyId keys).map ApiKeyRecord.workspaceId
    memberId := none
    endUser := none }
  let ledger := old.ledger.map ({ old with keys, requests } : GatewayStore).attributed
  let spendDaily := dailyRows (fun entry => some (.key entry.keyId)) ledger ++
    dailyRows (fun entry => entry.memberId.map .member) ledger ++
    dailyRows (fun entry => entry.workspaceId.map .workspace) ledger
  { old with
    keys
    requests
    ledger
    spendDaily
    spendTotals := (grouped scope amountUsdc spendDaily).map fun group => ⟨group.1, group.2⟩ }

def counts (scope : BudgetScope) (entry : LedgerEntry) : Bool :=
  isSpend entry ∧ scope.covers entry.keyId entry.memberId entry.workspaceId

def totalOf (scope : BudgetScope) (totals : List SpendTotal) : Int :=
  (Keyed.get SpendTotal.scope scope totals).elim 0 SpendTotal.totalUsdc

def dailyOf (scope : BudgetScope) (days : Int → Bool) (daily : List SpendDaily) : Int :=
  summed (fun row => row.scope = scope ∧ days row.dayStart) amountUsdc daily

def spent (store : GatewayStore) (scope : BudgetScope) : Int := summed (counts scope ·) (-·.amountUsdc) store.ledger

/-- The spend of a scope from a time on. -/
def spentSince (store : GatewayStore) (scope : BudgetScope) (start : Int) : Int :=
  summed (fun entry => counts scope entry ∧ start ≤ entry.createdAt) (-·.amountUsdc) store.ledger

def spentOn (days : Int → Bool) (store : GatewayStore) (scope : BudgetScope) : Int :=
  summed (fun entry => counts scope entry ∧ days (dayStart entry.createdAt)) (-·.amountUsdc) store.ledger

/-- The rollups are what the ledger adds up to. -/
structure RolledUp (store : GatewayStore) : Prop where
  total : ∀ scope, totalOf scope store.spendTotals = store.spent scope
  daily : ∀ scope days, dailyOf scope days store.spendDaily = store.spentOn days scope

variable {store : GatewayStore} {entry : LedgerEntry} {scope : BudgetScope} {days : Int → Bool} {day amount : Int}

theorem sum_entryScopes : ((entryScopes entry).map fun one => if one = scope then amount else 0).sum =
    if scope.covers entry.keyId entry.memberId entry.workspaceId then amount else 0 := by
  unfold entryScopes
  cases scope <;> cases entry.memberId <;> cases entry.workspaceId <;> simp [BudgetScope.covers]

theorem total_addTotal (one : BudgetScope) :
    totalOf scope (addTotal amount totals one) = totalOf scope totals + if one = scope then amount else 0 := by
  unfold addTotal totalOf
  rw [Keyed.get_set]
  by_cases same : scope = one
  · simp [same]
  · simp [same, Ne.symm same]

theorem daily_addDaily (one : BudgetScope) :
    dailyOf scope days (addDaily day amount daily one) =
      dailyOf scope days daily + if one = scope then if days day then amount else 0 else 0 := by
  have changed := fun row => @Keyed.sum_set SpendDaily _ _ (fun row => (row.scope, row.dayStart)) row daily Int _
    fun row => if row.scope = scope ∧ days row.dayStart then row.amountUsdc else 0
  simp only [addDaily, dailyOf, summed_eq]
  cases found : Keyed.get (fun row : SpendDaily => (row.scope, row.dayStart)) (one, day) daily with
  | none =>
    have changed := changed ⟨one, day, 0 + amount⟩
    simp only [found, Option.elim] at changed ⊢
    split_ifs at changed ⊢ <;> first | linarith | simp_all
  | some row =>
    obtain ⟨-, named⟩ := Keyed.mem_of_get found
    obtain ⟨rfl, rfl⟩ := Prod.mk.inj named
    have changed := changed ⟨row.scope, row.dayStart, row.amountUsdc + amount⟩
    simp only [found, Option.elim] at changed ⊢
    split_ifs at changed ⊢ <;> first | linarith | simp_all

theorem total_foldl (scopes : List BudgetScope) (totals : List SpendTotal) :
    totalOf scope (scopes.foldl (addTotal amount) totals) =
      totalOf scope totals + (scopes.map fun one => if one = scope then amount else 0).sum := by
  induction scopes generalizing totals with
  | nil => simp
  | cons one rest ih => rw [foldl_cons, ih, total_addTotal, map_cons, sum_cons, add_assoc]

theorem daily_foldl (scopes : List BudgetScope) (daily : List SpendDaily) :
    dailyOf scope days (scopes.foldl (addDaily day amount) daily) = dailyOf scope days daily +
      (scopes.map fun one => if one = scope then if days day then amount else 0 else 0).sum := by
  induction scopes generalizing daily with
  | nil => simp
  | cons one rest ih => rw [foldl_cons, ih, daily_addDaily, map_cons, sum_cons, add_assoc]

theorem RolledUp.enter (h : store.RolledUp) :
    (rollUp { store with ledger := store.ledger ++ [entry] } entry).RolledUp := by
  unfold rollUp
  cases kind : entry.kind with
  | credit =>
    constructor
    · intro scope
      rw [h.total, spent, spent, summed_concat]
      simp [counts, isSpend, kind]
    · intro scope days
      rw [h.daily, spentOn, spentOn, summed_concat]
      simp [counts, isSpend, kind]
  | spend =>
    constructor
    · intro scope
      rw [total_foldl, h.total, sum_entryScopes, spent, spent, summed_concat]
      simp [counts, isSpend, kind]
    · intro scope days
      rw [daily_foldl, h.daily, sum_entryScopes, spentOn, spentOn, summed_concat]
      simp [counts, isSpend, kind, dayStart, ite_and]

theorem daily_dailyRows (of : LedgerEntry → Option BudgetScope) (ledger : List LedgerEntry) :
    dailyOf scope days (dailyRows of ledger) =
      summed (fun entry => isSpend entry ∧ of entry = some scope ∧ days (dayStart entry.createdAt))
        (-·.amountUsdc) ledger := by
  have grouping := @summed_grouped _ _ _ (fun entry : LedgerEntry =>
    ((of entry).getD (.key entry.keyId), dayStart entry.createdAt)) (-·.amountUsdc)
    (ledger.filter fun entry => isSpend entry ∧ (of entry).isSome) (fun name => name.1 = scope ∧ days name.2) _
  unfold dailyOf dailyRows
  simp only [summed, filter_map, map_map, filter_filter] at grouping ⊢
  refine grouping.trans (congrArg (fun rows => (map _ rows).sum) (filter_congr fun entry _ => ?_))
  rw [Bool.eq_iff_iff]
  simp only [Bool.and_eq_true, decide_eq_true_eq]
  cases of entry with
  | none => simp
  | some =>
    simp only [Option.getD_some, Option.isSome_some, Option.some.injEq]
    tauto

theorem total_grouped (daily : List SpendDaily) :
    totalOf scope ((grouped SpendDaily.scope SpendDaily.amountUsdc daily).map fun group => ⟨group.1, group.2⟩) =
      dailyOf scope (fun _ => true) daily := by
  unfold grouped totalOf dailyOf
  simp only [map_map, and_true]
  have distinct : ((map ((fun group => (⟨group.1, group.2⟩ : SpendTotal)) ∘ fun name =>
      (name, summed (·.scope = name) SpendDaily.amountUsdc daily)) (daily.map SpendDaily.scope).dedup).map
        SpendTotal.scope).Nodup := by
    simpa [List.map_map, Function.comp_def] using List.nodup_dedup (daily.map SpendDaily.scope)
  by_cases known : scope ∈ daily.map SpendDaily.scope
  · have here := Keyed.get_of_mem distinct (mem_map_of_mem (mem_dedup.mpr known))
    exact congrArg (Option.elim · 0 SpendTotal.totalUsdc) here
  · rw [Keyed.get_eq_none_iff.mpr (by simpa [map_map, Function.comp_def] using known), summed,
      filter_eq_nil_iff.mpr fun row here same => known (by simp at same; exact same ▸ mem_map_of_mem here)]
    rfl

theorem rolledUp_migrateToV3 (old : GatewayStore) : old.migrateToV3.RolledUp := by
  have daily : ∀ scope days, dailyOf scope days old.migrateToV3.spendDaily = old.migrateToV3.spentOn days scope := by
    intro scope days
    have parts : ∀ keys members workspaces, dailyOf scope days (keys ++ members ++ workspaces) =
        dailyOf scope days keys + dailyOf scope days members + dailyOf scope days workspaces := by
      simp [dailyOf, summed_append, add_assoc]
    refine (parts _ _ _).trans ?_
    simp only [daily_dailyRows, spentOn, summed_eq, ← List.sum_map_add]
    refine congrArg List.sum (List.map_congr_left fun entry _ => ?_)
    cases scope <;> cases member : entry.memberId <;> cases workspace : entry.workspaceId <;>
      simp [counts, BudgetScope.covers, and_assoc, member, workspace]
  refine ⟨fun scope => (total_grouped old.migrateToV3.spendDaily).trans ?_, daily⟩
  rw [daily, spentOn]
  simp [spent]

/-- Ledger entries are recorded one after the other; one that is refused changes nothing. -/
def recording : Machine GatewayStore LedgerEntryInput LedgerError :=
  ⟨fun store input => Prod.fst <$> store.recordLedgerEntry input⟩

def Timely (store : GatewayStore) : Prop := ∀ entry ∈ store.ledger, 0 ≤ entry.createdAt

theorem recording_keeps (timely : 0 ≤ input.createdAt)
    (holds : store.RolledUp ∧ store.Timely) (taken : recording.step store input = .ok store') :
    store'.RolledUp ∧ store'.Timely := by
  simp only [recording, recordLedgerEntry] at taken
  split_ifs at taken with counted known
  · cases taken
    exact holds
  · cases taken
    refine ⟨holds.1.enter, fun entry here => ?_⟩
    have ledger : (rollUp { store with ledger := store.ledger ++ [store.toEntry input] } (store.toEntry input)).ledger =
        store.ledger ++ [store.toEntry input] := by
      unfold rollUp
      split <;> rfl
    rw [ledger] at here
    cases mem_append.mp here with
    | inl before => exact holds.2 entry before
    | inr new => exact mem_singleton.mp new ▸ timely
  · cases taken

theorem timely_migrateToV3 {old : GatewayStore} (past : old.Timely) : old.migrateToV3.Timely := by
  intro entry here
  obtain ⟨before, known, rfl⟩ := mem_map.mp here
  have same : ∀ store : GatewayStore, (store.attributed before).createdAt = before.createdAt := by
    intro store
    unfold attributed
    split <;> rfl
  exact (same _).symm ▸ past before known

theorem periodStart_le_dayStart {period : BudgetPeriod} {now createdAt : Int} (past : 0 ≤ createdAt) :
    periodStart period now ≤ dayStart createdAt ↔ periodStart period now ≤ createdAt := by
  have aligned : ∃ day, periodStart period now = day * DAY_MS := by
    cases period with
    | total => exact ⟨0, rfl⟩
    | daily | weekly | monthly => exact ⟨_, rfl⟩
  obtain ⟨day, starts⟩ := aligned
  rw [starts, dayStart, Int.tdiv_eq_ediv_of_nonneg past, DAY_MS]
  omega

/-- After any calls, the spend of a scope in a period is what the ledger adds up to from the start of the period
    on, and the lifetime total is what it adds up to. -/
theorem spend_rollups_equal_the_ledger (old : GatewayStore) (past : old.Timely) (inputs : List LedgerEntryInput)
    (timely : ∀ input ∈ inputs, 0 ≤ input.createdAt) (scope : BudgetScope) (now : Int)
    (periods : List BudgetPeriod) :
    let store := recording.run old.migrateToV3 inputs
    (∀ period ∈ periods, (store.spendByPeriod scope now periods).get period =
      store.spentSince scope (periodStart period now)) ∧
    (.total ∈ periods → (store.spendByPeriod scope now periods).total = store.spent scope) := by
  intro store
  obtain ⟨rolledUp, after⟩ : store.RolledUp ∧ store.Timely :=
    recording.run_invariant_on (fun _ _ _ timely holds taken => recording_keeps timely holds taken)
      ⟨rolledUp_migrateToV3 old, timely_migrateToV3 past⟩ timely
  have total : .total ∈ periods → (store.spendByPeriod scope now periods).total = store.spent scope := by
    intro asked
    exact (if_neg (not_not.mpr asked)).trans (rolledUp.total scope)
  refine ⟨fun period asked => ?_, total⟩
  cases period with
  | total =>
    refine (total asked).trans ?_
    rw [spent, spentSince, summed_eq, summed_eq]
    refine congrArg sum (map_congr_left fun entry here => ?_)
    have since : periodStart .total now ≤ entry.createdAt := after entry here
    simp [since]
  | _ =>
    have days := fun period => rolledUp.daily scope fun day => periodStart period now ≤ day
    simp only [dailyOf, spentOn, summed_eq, decide_eq_true_eq] at days
    simp only [spendByPeriod, PerPeriod.of, PerPeriod.get, asked, not_true_eq_false, if_false, spentSince, summed_eq]
    refine Eq.trans (summed_eq (p := fun row : SpendDaily => _)) ((days _).trans ?_)
    refine congrArg sum (map_congr_left fun entry here => ?_)
    simp [periodStart_le_dayStart (after entry here)]

/-- One spend from before the migration, and two calls with one reference. -/
def spendAgain : List LedgerEntryInput :=
  let input : LedgerEntryInput := {
    kind := .spend
    keyId := "k"
    buyerIdentity := "default"
    amountUsdc := 5
    externalRef := "b"
    createdAt := 86400000 }
  [input, input]

theorem spendAgain_counts_once : ∃ old : GatewayStore, old.ledger.length = 1 ∧
    let store := recording.run old.migrateToV3 spendAgain
    (store.spendByPeriod (.workspace "ws_default") 86400001 [.daily, .total]).total =
        store.spent (.workspace "ws_default") ∧
      store.spent (.workspace "ws_default") = 8 := by
  let key : ApiKeyRecord := ⟨"k", .active, "default", "", none, NO_BUDGET_LIMITS, NO_BUDGET_LIMITS⟩
  let entry : LedgerEntry :=
    ⟨.spend, "k", "default", -3, "a", none, none, 0, 0, 0, none, 5, none, none, none, none, false, none, none⟩
  refine ⟨{ keys := [key], ledger := [entry] }, rfl, ?_, by decide +kernel⟩
  exact (spend_rollups_equal_the_ledger { keys := [key], ledger := [entry] } (by simp [Timely, entry]) spendAgain
    (by simp [spendAgain]) (.workspace "ws_default") 86400001 [.daily, .total]).2 (by decide)

end GatewayStore

end AntSeed.Gateway
