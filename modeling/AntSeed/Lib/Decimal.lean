import Mathlib.Data.List.Basic

/-! # Texts that end in a word

Numbers are written with digits only, and a text that ends in a separator and a word without it
determines both its parts.
-/

theorem toString_nat_inj {m n : Nat} : toString m = toString n ↔ m = n := by
  constructor
  · intro same
    have digits : Nat.toDigits 10 m = Nat.toDigits 10 n := by
      simpa [Nat.repr, String.ext_iff] using same
    have equal := congrArg (Nat.ofDigitChars 10 · 0) digits
    simpa only [Nat.ofDigitChars_toDigits (by decide : 1 < 10) (Nat.le_refl 10)] using equal
  · rintro rfl
    rfl

theorem isDigit_of_mem_toString {char : Char} {n : Nat} (member : char ∈ (toString n).toList) : char.isDigit :=
  Nat.isDigit_of_mem_toDigits (by decide : 0 < 10) (Nat.le_refl 10)
    (show char ∈ Nat.toDigits 10 n by simpa [Nat.repr] using member)

theorem List.append_cons_inj_of_notMem_back {α : Type} {front back front' back' : List α} {separator : α}
    (free : separator ∉ back) (free' : separator ∉ back')
    (same : front ++ separator :: back = front' ++ separator :: back') : front = front' ∧ back = back' := by
  -- a longer front has the separator of the other, and what it goes on with would be in the other's word
  have shorter : ∀ {front back front' back' : List α}, separator ∉ back →
      front ++ separator :: back = front' ++ separator :: back' → front.length ≤ front'.length →
        front = front' ∧ back = back' := by
    intro front back front' back' free equal shorter
    cases List.append_eq_append_iff.mp equal with
    | inl gap =>
      obtain ⟨middle, rfl, rest⟩ := gap
      cases middle with
      | nil => simpa using rest
      | cons =>
        have inside : separator ∈ back := by
          rw [(List.cons.inj rest).2]
          simp
        exact absurd inside free
    | inr gap =>
      obtain ⟨middle, rfl, rest⟩ := gap
      cases middle with
      | nil => simpa [eq_comm] using rest
      | cons =>
        rw [List.length_append, List.length_cons] at shorter
        omega
  cases Nat.le_total front.length front'.length with
  | inl le => exact shorter free same le
  | inr le => exact (shorter free' same.symm le).imp Eq.symm Eq.symm
