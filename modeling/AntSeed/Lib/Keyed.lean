import Mathlib.Algebra.BigOperators.Group.List.Basic
import Mathlib.Data.List.Nodup
import Mathlib.Tactic.Abel

/-! # Maps that keep the order of insertion

A map is the list of its entries, each of which has a key. An entry that is set takes
the place of the one with its key, or the last place.
-/

namespace Keyed

open List

variable {α κ : Type*} [DecidableEq κ] {key : α → κ}

def set (key : α → κ) (entry : α) : List α → List α
  | [] => [entry]
  | old :: rest => if key old = key entry then entry :: rest else old :: set key entry rest

def get (key : α → κ) (name : κ) (entries : List α) : Option α := entries.find? fun entry => key entry = name

/-- What remains of a map without the entry of one name. -/
def erase (key : α → κ) (name : κ) (entries : List α) : List α := entries.filter fun entry => key entry ≠ name

/-- All entries of a list, set one after the other. -/
def ofList (key : α → κ) (entries : List α) : List α := entries.foldl (fun known entry => set key entry known) []

variable {entry old : α} {entries known others : List α} {name other : κ}

theorem set_absent (absent : key entry ∉ entries.map key) : set key entry entries = entries ++ [entry] := by
  induction entries with
  | nil => rfl
  | cons first rest ih =>
    rw [map_cons, mem_cons, not_or] at absent
    rw [set, if_neg (Ne.symm absent.1), ih absent.2]
    rfl

theorem keys_set_present (present : key entry ∈ entries.map key) :
    (set key entry entries).map key = entries.map key := by
  induction entries with
  | nil => cases present
  | cons first rest ih =>
    rw [set]
    split
    next same => simp [same]
    next other =>
      have later : key entry ∈ rest.map key := by simpa [Ne.symm other] using present
      rw [map_cons, ih later, map_cons]

theorem keys_set : (set key entry entries).map key
    = if key entry ∈ entries.map key then entries.map key else entries.map key ++ [key entry] := by
  split
  next present => exact keys_set_present present
  next absent => rw [set_absent absent, map_append, map_singleton]

theorem nodup_keys_set (distinct : (entries.map key).Nodup) : ((set key entry entries).map key).Nodup := by
  rw [keys_set]
  split
  · exact distinct
  next absent =>
    rw [nodup_append]
    refine ⟨distinct, nodup_singleton _, ?_⟩
    intro one here another there same
    exact absent (mem_singleton.mp there ▸ same ▸ here)

theorem length_set : (set key entry entries).length
    = if key entry ∈ entries.map key then entries.length else entries.length + 1 := by
  rw [← length_map (f := key), keys_set]
  split <;> simp

theorem mem_set_self : entry ∈ set key entry entries := by
  induction entries with
  | nil => exact mem_singleton_self entry
  | cons first rest ih =>
    rw [set]
    split
    · exact mem_cons_self
    · exact mem_cons_of_mem first ih

theorem mem_of_mem_set (here : old ∈ set key entry entries) : old = entry ∨ old ∈ entries := by
  induction entries with
  | nil => exact .inl (mem_singleton.mp here)
  | cons first rest ih =>
    rw [set] at here
    split at here
    · cases mem_cons.mp here with
      | inl same => exact .inl same
      | inr later => exact .inr (mem_cons_of_mem _ later)
    · cases mem_cons.mp here with
      | inl same => exact .inr (same ▸ mem_cons_self)
      | inr later => exact (ih later).imp_right (mem_cons_of_mem _)

theorem mem_of_mem_foldl_set (here : old ∈ others.foldl (fun known entry => set key entry known) known) :
    old ∈ known ∨ old ∈ others := by
  induction others generalizing known with
  | nil => exact .inl here
  | cons entry others ih =>
    cases ih here with
    | inr later => exact .inr (mem_cons_of_mem _ later)
    | inl before => exact (mem_of_mem_set before).elim (fun same => .inr (same ▸ mem_cons_self)) .inl

theorem mem_of_mem_ofList (here : old ∈ ofList key entries) : old ∈ entries :=
  (mem_of_mem_foldl_set here).resolve_left not_mem_nil

theorem mem_set_of_ne (here : old ∈ entries) (other : key old ≠ key entry) :
    old ∈ set key entry entries := by
  induction entries with
  | nil => cases here
  | cons first rest ih =>
    rw [set]
    split
    next same =>
      cases mem_cons.mp here with
      | inl first_ => exact absurd (first_ ▸ same) other
      | inr later => exact mem_cons_of_mem _ later
    · cases mem_cons.mp here with
      | inl first_ => exact first_ ▸ mem_cons_self
      | inr later => exact mem_cons_of_mem _ (ih later)

theorem get_of_mem (distinct : (entries.map key).Nodup) (here : old ∈ entries) :
    get key (key old) entries = some old := by
  induction entries with
  | nil => cases here
  | cons first rest ih =>
    rw [map_cons, nodup_cons] at distinct
    cases mem_cons.mp here with
    | inl first_ => simp [get, first_]
    | inr later =>
      have other : key first ≠ key old := fun same => distinct.1 (same ▸ mem_map_of_mem later)
      rw [get, find?_cons_of_neg (by simpa using other)]
      exact ih distinct.2 later

theorem mem_of_get (found : get key name entries = some entry) : entry ∈ entries ∧ key entry = name :=
  ⟨mem_of_find?_eq_some found, by simpa using find?_some found⟩

theorem get_eq_none_iff : get key name entries = none ↔ name ∉ entries.map key := by
  simp [get, find?_eq_none]

theorem get_set : get key name (set key entry entries)
    = if name = key entry then some entry else get key name entries := by
  induction entries with
  | nil => simp [set, get, eq_comm]
  | cons first rest ih =>
    unfold get at ih ⊢
    rw [set]
    split
    next same => by_cases named : name = key entry <;> simp [same, named, eq_comm]
    next other =>
      by_cases named : key first = name
      · rw [find?_cons_of_pos (by simpa using named), find?_cons_of_pos (by simpa using named),
          if_neg (named ▸ other)]
      · rw [find?_cons_of_neg (by simpa using named), find?_cons_of_neg (by simpa using named), ih]

theorem get_erase : get key name (erase key other entries)
    = if name = other then none else get key name entries := by
  unfold get erase
  rw [find?_filter]
  split
  next same => simp [find?_eq_none, same]
  next differs =>
    refine congrArg (fun p => find? p entries) (funext fun entry => ?_)
    by_cases named : key entry = name <;> simp [named, differs]

theorem get_filter (distinct : (entries.map key).Nodup) :
    get key name (entries.filter p) = (get key name entries).filter p := by
  induction entries with
  | nil => rfl
  | cons first rest ih =>
    rw [map_cons, nodup_cons] at distinct
    by_cases named : key first = name
    · have alone : get key name (rest.filter p) = none := by
        rw [get_eq_none_iff, ← named]
        exact fun again => distinct.1 ((filter_sublist.map key).subset again)
      cases kept : p first
      · rw [filter_cons_of_neg (by simp [kept]), alone]
        simp [get, named, kept, Option.filter]
      · simp [get, named, kept, Option.filter]
    · have later := ih distinct.2
      unfold get at later ⊢
      rw [find?_cons_of_neg (by simpa using named), ← later]
      cases kept : p first
      · rw [filter_cons_of_neg (by simp [kept])]
      · rw [filter_cons_of_pos kept, find?_cons_of_neg (by simpa using named)]

theorem nodup_keys_erase (distinct : (entries.map key).Nodup) : ((erase key name entries).map key).Nodup :=
  distinct.sublist (filter_sublist.map key)

theorem erase_absent (absent : name ∉ entries.map key) : erase key name entries = entries := by
  rw [erase, filter_eq_self]
  intro entry here
  have other : key entry ≠ name := fun same => absent (same ▸ mem_map_of_mem here)
  simpa using other

theorem erase_set : erase key (key entry) (set key entry entries) = erase key (key entry) entries := by
  induction entries with
  | nil => simp [set, erase]
  | cons first rest ih =>
    rw [set]
    split
    next same => simp [erase, same]
    next other =>
      unfold erase at ih ⊢
      rw [filter_cons_of_pos (by simpa using other), filter_cons_of_pos (by simpa using other), ih]

theorem sum_set {M : Type*} [AddCommMonoid M] (f : α → M) :
    ((set key entry entries).map f).sum + ((get key (key entry) entries).elim 0 f)
      = (entries.map f).sum + f entry := by
  induction entries with
  | nil => simp [set, get]
  | cons first rest ih =>
    rw [set]
    split
    next same =>
      simp only [get, find?_cons, same, decide_true, Option.elim, map_cons, sum_cons]
      abel
    next other =>
      rw [get, find?_cons_of_neg (by simpa using other)]
      change _ + (get key (key entry) rest).elim 0 f = _
      rw [map_cons, map_cons, sum_cons, sum_cons, add_assoc, ih, add_assoc]

theorem sum_erase {M : Type*} [AddCommMonoid M] (f : α → M) (distinct : (entries.map key).Nodup) :
    ((erase key name entries).map f).sum + ((get key name entries).elim 0 f) = (entries.map f).sum := by
  induction entries with
  | nil => simp [erase, get]
  | cons first rest ih =>
    rw [map_cons, nodup_cons] at distinct
    by_cases same : key first = name
    · have gone : erase key name (first :: rest) = rest := by
        rw [erase, filter_cons_of_neg (by simpa using same)]
        exact erase_absent (same ▸ distinct.1)
      rw [gone, get, find?_cons_of_pos (by simpa using same), map_cons, sum_cons]
      exact add_comm _ _
    · rw [erase, filter_cons_of_pos (by simpa using same), get,
        find?_cons_of_neg (by simpa using same), map_cons, map_cons, sum_cons,
        sum_cons, add_assoc]
      exact congrArg (f first + ·) (ih distinct.2)

theorem sum_foldl_set_le (f : α → ℕ) :
    ((others.foldl (fun known entry => set key entry known) known).map f).sum
      ≤ (known.map f).sum + (others.map f).sum := by
  induction others generalizing known with
  | nil => simp
  | cons entry others ih =>
    have one := @sum_set _ _ _ key entry known _ _ f
    have rest := @ih (set key entry known)
    rw [foldl_cons, map_cons, sum_cons]
    omega

theorem sum_ofList_le (f : α → ℕ) : ((ofList key entries).map f).sum ≤ (entries.map f).sum := by
  simpa [ofList] using @sum_foldl_set_le _ _ _ key [] entries f

theorem foldl_set_distinct (distinct : ((known ++ others).map key).Nodup) :
    others.foldl (fun known entry => set key entry known) known = known ++ others := by
  induction others generalizing known with
  | nil => exact (append_nil known).symm
  | cons entry others ih =>
    have absent : key entry ∉ known.map key := by
      intro present
      rw [map_append, nodup_append] at distinct
      exact distinct.2.2 _ present _ (by simp) rfl
    have shift : known ++ entry :: others = known ++ [entry] ++ others := by simp
    rw [foldl_cons, set_absent absent, shift]
    exact ih (shift ▸ distinct)

theorem nodup_keys_foldl_set (distinct : (known.map key).Nodup) :
    ((others.foldl (fun known entry => set key entry known) known).map key).Nodup := by
  induction others generalizing known with
  | nil => exact distinct
  | cons entry others ih => exact ih (nodup_keys_set distinct)

theorem get_foldl_set (distinct : (others.map key).Nodup) :
    get key name (others.foldl (fun known entry => set key entry known) known)
      = (get key name others).or (get key name known) := by
  induction others generalizing known with
  | nil => rfl
  | cons entry others ih =>
    rw [map_cons, nodup_cons] at distinct
    rw [foldl_cons, ih distinct.2, get_set]
    by_cases named : name = key entry
    · have alone : get key name others = none := get_eq_none_iff.mpr (named ▸ distinct.1)
      rw [alone, if_pos named]
      simp [get, named]
    · have other : key entry ≠ name := Ne.symm named
      rw [if_neg named]
      simp [get, other]

theorem ofList_distinct (distinct : (entries.map key).Nodup) : ofList key entries = entries :=
  foldl_set_distinct distinct

end Keyed
