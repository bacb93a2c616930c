import Mathlib.Algebra.Order.Group.Int
import Mathlib.Data.List.Basic

/-! # Caps

A cap bounds the spend of a key, a member or a workspace in a calendar period, in base units of USDC.
-/

namespace AntSeed.Gateway

/-- Weeks start on Monday, every period at midnight UTC. -/
inductive BudgetPeriod where
  | daily
  | weekly
  | monthly
  | total
  deriving DecidableEq, Repr

def BUDGET_PERIODS : List BudgetPeriod := [.daily, .weekly, .monthly, .total]

/-- A value for each period. -/
structure PerPeriod (α : Type) where
  daily : α
  weekly : α
  monthly : α
  total : α
  deriving DecidableEq, Repr

def PerPeriod.get {α : Type} (values : PerPeriod α) : BudgetPeriod → α
  | .daily => values.daily
  | .weekly => values.weekly
  | .monthly => values.monthly
  | .total => values.total

def PerPeriod.of {α : Type} (value : BudgetPeriod → α) : PerPeriod α :=
  ⟨value .daily, value .weekly, value .monthly, value .total⟩

/-- No value is no cap. -/
abbrev BudgetLimits := PerPeriod (Option Int)

abbrev BudgetSpend := PerPeriod Int

def NO_BUDGET_LIMITS : BudgetLimits := ⟨none, none, none, none⟩

/-- Which level of the organization a cap belongs to. -/
inductive BudgetLevel where
  | key
  | member
  | workspace
  deriving DecidableEq, Repr

structure LimitBreach where
  period : BudgetPeriod
  limitUsdc : Int
  spentUsdc : Int
  heldUsdc : Int
  resetsAt : Option Int
  level : Option BudgetLevel := none
  deriving DecidableEq, Repr

def cappedPeriods (limits : BudgetLimits) : List BudgetPeriod := BUDGET_PERIODS.filter fun period => (limits.get period).isSome

def DAY_MS : Int := 24 * 60 * 60 * 1000

/-- The day number of 1 March of a year that is counted from March, days being counted from 1 January 1970. -/
def marchFirst (year : Int) : Int := 365 * year + year / 4 - year / 100 + year / 400 - 719468

/-- The year, counted from March, that a day belongs to. -/
def marchYear (day : Int) : Int :=
  let shifted := day + 719468
  let era := shifted / 146097
  let ofEra := shifted % 146097
  400 * era + (ofEra - ofEra / 1460 + ofEra / 36524 - ofEra / 146096) / 365

/-- The day before the first of a month that is counted from March, as a day of its year. -/
def daysBefore (month : Int) : Int := (153 * month + 2) / 5

/-- The month of a day, all months being counted from the March that the calendar year starts with. -/
def monthOf (day : Int) : Int :=
  let ofYear := day - marchFirst (marchYear day)
  12 * marchYear day + (5 * ofYear + 2) / 153

def monthStart (month : Int) : Int := marchFirst (month / 12) + daysBefore (month % 12)

def periodStart (period : BudgetPeriod) (now : Int) : Int :=
  let day := now / DAY_MS
  match period with
  | .total => 0
  | .daily => day * DAY_MS
  -- the first day of the count was a Thursday
  | .weekly => (day - (day + 3) % 7) * DAY_MS
  | .monthly => monthStart (monthOf day) * DAY_MS

def periodResetsAt (period : BudgetPeriod) (now : Int) : Option Int :=
  let day := now / DAY_MS
  match period with
  | .total => none
  | .daily => some ((day + 1) * DAY_MS)
  | .weekly => some (periodStart .weekly now + 7 * DAY_MS)
  | .monthly => some (monthStart (monthOf day + 1) * DAY_MS)

/-- The first cap that spend and holds have reached. -/
def findLimitBreach (limits : BudgetLimits) (spent : BudgetSpend) (heldUsdc now : Int) : Option LimitBreach :=
  BUDGET_PERIODS.findSome? fun period =>
    (limits.get period).bind fun limit =>
      if limit ≤ spent.get period + heldUsdc then
        some {
          period
          limitUsdc := limit
          spentUsdc := spent.get period
          heldUsdc
          resetsAt := periodResetsAt period now }
      else none

end AntSeed.Gateway
