import Mathlib.Data.List.Nodup
import Mathlib.Data.Nat.Init

/-! # Lists of owned things with a one-based inverse

Every owner has a list of the things it owns, and every thing knows its place in
the list of its owner, counted from one; zero says that it has no owner. A thing
is added at the end, and removed by moving the last one into its place.
-/

namespace Evm

open Function
open List Option

variable {α κ : Type}

/-- The lists hold what is owned, and the index is their inverse. -/
structure OwnerIndex (lists : α → List κ) (index : κ → Nat) (owner : κ → Option α) : Prop where
  held : ∀ a i k, (lists a)[i]? = some k → owner k = some a ∧ index k = i + 1
  placed : ∀ k a, owner k = some a → index k ≠ 0 ∧ (lists a)[index k - 1]? = some k
  free : ∀ k, owner k = none → index k = 0

namespace OwnerIndex

variable {lists : α → List κ} {index : κ → Nat} {owner : κ → Option α}

theorem empty : OwnerIndex (fun _ : α => ([] : List κ)) (fun _ => 0) (fun _ => none) where
  held _ _ _ found := by simp at found
  placed _ _ owned := by cases owned
  free _ _ := rfl

theorem mem_iff (h : OwnerIndex lists index owner) : k ∈ lists a ↔ owner k = some a := by
  constructor
  · intro member
    obtain ⟨i, found⟩ := mem_iff_getElem?.mp member
    exact (h.held a i k found).1
  · intro owned
    exact mem_of_getElem? (h.placed k a owned).2

theorem nodup (h : OwnerIndex lists index owner) (a : α) : (lists a).Nodup := by
  rw [nodup_iff_getElem?_ne_getElem?]
  intro i j before inside same
  have found : (lists a)[i]? = some ((lists a)[i]) := getElem?_eq_getElem (by omega)
  have first := (h.held a i _ found).2
  have second := (h.held a j _ (same ▸ found)).2
  omega

section Changes

variable [DecidableEq α] [DecidableEq κ]

section

variable (h : OwnerIndex lists index owner)

include h

theorem add (unowned : owner k = none) (a : α) :
    OwnerIndex (update lists a (lists a ++ [k])) (update index k (lists a ++ [k]).length)
      (update owner k (some a)) where
  held b i x found := by
    by_cases own : b = a
    · subst own
      rw [update_self] at found
      rcases Nat.lt_trichotomy i (lists b).length with before | last | beyond
      · rw [getElem?_append_left before] at found
        obtain ⟨owned, place⟩ := h.held b i x found
        have other : x ≠ k := by
          rintro rfl
          rw [unowned] at owned
          cases owned
        rw [update_of_ne other, update_of_ne other]
        exact ⟨owned, place⟩
      · subst last
        simp only [getElem?_concat_length, some.injEq] at found
        subst found
        simp
      · rw [getElem?_eq_none (by simp; omega)] at found
        cases found
    · rw [update_of_ne own] at found
      obtain ⟨owned, place⟩ := h.held b i x found
      have other : x ≠ k := by
        rintro rfl
        rw [unowned] at owned
        cases owned
      rw [update_of_ne other, update_of_ne other]
      exact ⟨owned, place⟩
  placed x b owned := by
    by_cases same : x = k
    · subst same
      rw [update_self] at owned
      cases owned
      simp
    · rw [update_of_ne same] at owned
      obtain ⟨positive, found⟩ := h.placed x b owned
      rw [update_of_ne same]
      refine ⟨positive, ?_⟩
      by_cases own : b = a
      · subst own
        have inside := (List.getElem?_eq_some_iff.mp found).1
        rwa [update_self, getElem?_append_left inside]
      · rwa [update_of_ne own]
  free x unowned' := by
    by_cases same : x = k
    · subst same
      rw [update_self] at unowned'
      cases unowned'
    · rw [update_of_ne same] at unowned' ⊢
      exact h.free x unowned'

theorem removeLast (owned : owner k = some a)
    (isLast : index k - 1 = (lists a).length - 1) :
    OwnerIndex (update lists a (lists a).dropLast) (update index k 0) (update owner k none) where
  held b i x found := by
    by_cases own : b = a
    · subst own
      rw [update_self, getElem?_dropLast] at found
      split at found
      next inside =>
        obtain ⟨owned', place⟩ := h.held b i x found
        have other : x ≠ k := by
          rintro rfl
          omega
        rw [update_of_ne other, update_of_ne other]
        exact ⟨owned', place⟩
      · cases found
    · rw [update_of_ne own] at found
      obtain ⟨owned', place⟩ := h.held b i x found
      have other : x ≠ k := by
        rintro rfl
        exact own (some.inj (owned'.symm.trans owned))
      rw [update_of_ne other, update_of_ne other]
      exact ⟨owned', place⟩
  placed x b owned' := by
    by_cases same : x = k
    · subst same
      rw [update_self] at owned'
      cases owned'
    · rw [update_of_ne same] at owned' ⊢
      obtain ⟨positive, found⟩ := h.placed x b owned'
      refine ⟨positive, ?_⟩
      by_cases own : b = a
      · subst own
        have inside := (List.getElem?_eq_some_iff.mp found).1
        have elsewhere : index x - 1 ≠ (lists b).length - 1 := by
          intro atEnd
          rw [atEnd, ← isLast, (h.placed k b owned).2] at found
          exact same (some.inj found).symm
        rwa [update_self, getElem?_dropLast, if_pos (by omega)]
      · rwa [update_of_ne own]
  free x unowned := by
    by_cases same : x = k
    · subst same
      rw [update_self]
    · rw [update_of_ne same] at unowned ⊢
      exact h.free x unowned

theorem swapWithLast
    (owned : owner k = some a) (ends : (lists a)[(lists a).length - 1]? = some last)
    (inner : index k - 1 ≠ (lists a).length - 1) :
    OwnerIndex (update lists a (((lists a).set (index k - 1) last).set ((lists a).length - 1) k))
      (update (update index last (index k)) k (index last)) owner := by
  obtain ⟨positive, found⟩ := h.placed k a owned
  obtain ⟨lastOwned, lastPlace⟩ := h.held a _ last ends
  have inside := (List.getElem?_eq_some_iff.mp found).1
  have different : last ≠ k := by
    rintro rfl
    omega
  constructor
  · intro b i x at'
    by_cases own : b = a
    · subst own
      rw [update_self, List.getElem?_set, List.length_set, List.getElem?_set] at at'
      by_cases atEnd : (lists b).length - 1 = i
      · rw [if_pos atEnd, if_pos (by omega)] at at'
        cases at'
        rw [update_self]
        exact ⟨owned, by omega⟩
      · rw [if_neg atEnd] at at'
        by_cases here : index k - 1 = i
        · rw [if_pos here, if_pos inside] at at'
          cases at'
          rw [update_of_ne different, update_self]
          exact ⟨lastOwned, by omega⟩
        · rw [if_neg here] at at'
          obtain ⟨owned', place⟩ := h.held b i x at'
          have notK : x ≠ k := by
            rintro rfl
            omega
          have notLast : x ≠ last := by
            rintro rfl
            omega
          rw [update_of_ne notK, update_of_ne notLast]
          exact ⟨owned', place⟩
    · rw [update_of_ne own] at at'
      obtain ⟨owned', place⟩ := h.held b i x at'
      have notK : x ≠ k := by
        rintro rfl
        exact own (Option.some.inj (owned'.symm.trans owned))
      have notLast : x ≠ last := by
        rintro rfl
        exact own (Option.some.inj (owned'.symm.trans lastOwned))
      rw [update_of_ne notK, update_of_ne notLast]
      exact ⟨owned', place⟩
  · intro x b owned'
    obtain ⟨positive', found'⟩ := h.placed x b owned'
    by_cases isK : x = k
    · subst isK
      have own : b = a := Option.some.inj (owned'.symm.trans owned)
      subst own
      rw [update_self, update_self, lastPlace]
      refine ⟨by omega, ?_⟩
      rw [List.getElem?_set, List.length_set, if_pos (by omega), if_pos (by omega)]
    · rw [update_of_ne isK]
      by_cases isLast : x = last
      · subst isLast
        have own : b = a := Option.some.inj (owned'.symm.trans lastOwned)
        subst own
        rw [update_self, update_self, List.getElem?_set, List.length_set, if_neg (Ne.symm inner),
          List.getElem?_set, if_pos rfl, if_pos inside]
        exact ⟨positive, rfl⟩
      · rw [update_of_ne isLast]
        refine ⟨positive', ?_⟩
        by_cases own : b = a
        · subst own
          have notEnd : (lists b).length - 1 ≠ index x - 1 := by
            intro atEnd
            rw [← atEnd, ends] at found'
            exact isLast (Option.some.inj found').symm
          have notHere : index k - 1 ≠ index x - 1 := by
            intro here
            rw [← here, found] at found'
            exact isK (Option.some.inj found').symm
          rwa [update_self, List.getElem?_set, List.length_set, if_neg notEnd, List.getElem?_set,
            if_neg notHere]
        · rwa [update_of_ne own]
  · intro x unowned
    have notK : x ≠ k := by
      rintro rfl
      rw [owned] at unowned
      cases unowned
    have notLast : x ≠ last := by
      rintro rfl
      rw [lastOwned] at unowned
      cases unowned
    rw [update_of_ne notK, update_of_ne notLast]
    exact h.free x unowned

theorem swapAndPop
    (owned : owner k = some a) (ends : (lists a)[(lists a).length - 1]? = some last)
    (inner : index k - 1 ≠ (lists a).length - 1) :
    OwnerIndex (update lists a ((lists a).set (index k - 1) last).dropLast)
      (update (update index last (index k)) k 0) (update owner k none) := by
  have swapped := h.swapWithLast owned ends inner
  have place := (h.held a _ last ends).2
  have removed := swapped.removeLast owned (by
    rw [update_self, update_self, length_set, length_set]
    omega)
  rw [update_self, Function.update_idem, Function.update_idem] at removed
  have cut : (((lists a).set (index k - 1) last).set ((lists a).length - 1) k).dropLast =
      ((lists a).set (index k - 1) last).dropLast := by
    rw [dropLast_eq_take, dropLast_eq_take, length_set, length_set,
      take_set_of_le (Nat.le_refl _)]
  rwa [cut] at removed

end

end Changes

end OwnerIndex

end Evm
