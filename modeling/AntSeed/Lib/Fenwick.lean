import AntSeed.Lib.Reverting
import Mathlib.Data.Nat.Factorization.Basic
import Mathlib.Tactic.Positivity
import Mathlib.Tactic.Ring

/-! # Fenwick trees

Node `k` of a Fenwick tree stands for the indices `k - lowbit k < i ≤ k`. An
update climbs from an index through all nodes that stand for it; a prefix query
descends through nodes that stand for disjoint stretches. The two loops are
written once over arbitrary node values, and their specifications meet in one
fact: of the nodes on the way down from `j`, exactly one stands for `i` when
`0 < i ≤ j`, and none otherwise.
-/

namespace Evm

open Nat

/-- The lowest set bit of a 256-bit word, `i & (~i + 1)`. -/
def lowbit (i : Nat) : Nat := i &&& (2 ^ 256 - i)

theorem lowbit_spec (small : 2 ^ a * (2 * x + 1) < 2 ^ 256) :
    lowbit (2 ^ a * (2 * x + 1)) = 2 ^ a := by
  have positive : 0 < 2 ^ a := by positivity
  have pred : 2 ^ a * (2 * x + 1) - 1 = 2 ^ a * (2 * x) + (2 ^ a - 1) := by
    have expand : 2 ^ a * (2 * x + 1) = 2 ^ a * (2 * x) + 2 ^ a := by ring
    omega
  have whole : 2 ^ 256 - 2 ^ a * (2 * x + 1) = 2 ^ 256 - ((2 ^ a * (2 * x + 1) - 1) + 1) := by
    have : 0 < 2 ^ a * (2 * x + 1) := by positivity
    omega
  apply eq_of_testBit_eq
  intro j
  rw [lowbit, whole, testBit_and, testBit_two_pow_sub_succ (by omega), pred,
    testBit_two_pow_mul, testBit_two_pow_mul_add _ (by omega), testBit_two_pow]
  rcases lt_trichotomy j a with below | rfl | above
  · have : ¬ a ≤ j := by omega
    simp [this]
    omega
  · have inside : j < 256 := by
      by_contra outside
      have big : 2 ^ 256 ≤ 2 ^ j := Nat.pow_le_pow_right (by decide) (by omega)
      have : 2 ^ j ≤ 2 ^ j * (2 * x + 1) := Nat.le_mul_of_pos_right _ (by omega)
      omega
    simp [inside, testBit_zero]
  · have low : ¬ j < a := by omega
    have shift : j - a = (j - a - 1) + 1 := by omega
    have different : ¬ a = j := by omega
    rw [shift, testBit_succ, testBit_succ]
    have half : (2 * x + 1) / 2 = x := by omega
    have half' : 2 * x / 2 = x := by omega
    simp only [low, different, half, half', if_false, decide_false]
    cases x.testBit (j - a - 1) with
    | true | false => simp

theorem exists_lowbit (positive : 0 < i) (small : i < 2 ^ 256) :
    ∃ a x, i = 2 ^ a * (2 * x + 1) ∧ lowbit i = 2 ^ a := by
  obtain ⟨a, m, ⟨x, rfl⟩, rfl⟩ := exists_eq_two_pow_mul_odd (ne_of_gt positive)
  exact ⟨a, x, rfl, lowbit_spec small⟩

theorem lowbit_pos (positive : 0 < i) (small : i < 2 ^ 256) : 0 < lowbit i := by
  obtain ⟨a, x, -, bit⟩ := exists_lowbit positive small
  rw [bit]
  positivity

namespace Fenwick

/-- Node `k` stands for index `i`. -/
def Covers (k i : Nat) : Prop := k - lowbit k < i ∧ i ≤ k

instance (k i : Nat) : Decidable (Covers k i) := by
  unfold Covers
  infer_instance

/-- The nodes standing for `i` are `i` itself and those standing for the next index of
    the climb. -/
theorem covers_iff (hi : 0 < i) (hk : 0 < k) (si : i < 2 ^ 256) (sk : k < 2 ^ 256) :
    Covers k i ↔ k = i ∨ Covers k (i + lowbit i) := by
  obtain ⟨a, x, rfl, bitI⟩ := exists_lowbit hi si
  obtain ⟨b, y, rfl, bitK⟩ := exists_lowbit hk sk
  unfold Covers
  rw [bitI, bitK]
  rcases lt_trichotomy a b with less | rfl | more
  · obtain ⟨c, rfl⟩ := Nat.exists_eq_add_of_lt less
    have scale : 2 ^ (a + c + 1) = 2 ^ a * (2 * 2 ^ c) := by rw [pow_succ, pow_add]; ring
    have p : 0 < 2 ^ a := by positivity
    have top : 2 ^ (a + c + 1) * (2 * y + 1) = 2 ^ a * (2 * (2 ^ c * (2 * y + 1))) := by
      rw [scale]; ring
    have bottom : 2 ^ (a + c + 1) * (2 * y + 1) - 2 ^ (a + c + 1) = 2 ^ a * (4 * (2 ^ c * y)) := by
      rw [scale]
      have : 2 ^ a * (2 * 2 ^ c) * (2 * y + 1) =
        2 ^ a * (4 * (2 ^ c * y)) + 2 ^ a * (2 * 2 ^ c) := by ring
      omega
    have next : 2 ^ a * (2 * x + 1) + 2 ^ a = 2 ^ a * (2 * x + 2) := by ring
    rw [bottom, top, next, Nat.mul_lt_mul_left p, Nat.mul_le_mul_left_iff p,
      Nat.mul_lt_mul_left p, Nat.mul_le_mul_left_iff p, Nat.mul_right_inj (by omega)]
    omega
  · have p : 0 < 2 ^ a := by positivity
    have bottom : 2 ^ a * (2 * y + 1) - 2 ^ a = 2 ^ a * (2 * y) := by
      have : 2 ^ a * (2 * y + 1) = 2 ^ a * (2 * y) + 2 ^ a := by ring
      omega
    have next : 2 ^ a * (2 * x + 1) + 2 ^ a = 2 ^ a * (2 * x + 2) := by ring
    rw [bottom, next, Nat.mul_lt_mul_left p, Nat.mul_le_mul_left_iff p, Nat.mul_lt_mul_left p,
      Nat.mul_le_mul_left_iff p, Nat.mul_right_inj (by omega)]
    omega
  · obtain ⟨c, rfl⟩ := Nat.exists_eq_add_of_lt more
    have p : 0 < 2 ^ b := by positivity
    have index : 2 ^ (b + c + 1) * (2 * x + 1) = 2 ^ b * (2 * (2 ^ c * (2 * x + 1))) := by
      rw [pow_succ, pow_add]; ring
    have next : 2 ^ b * (2 * (2 ^ c * (2 * x + 1))) + 2 ^ (b + c + 1) =
        2 ^ b * (2 * (2 ^ c * (2 * x + 2))) := by
      rw [pow_succ, pow_add]; ring
    have bottom : 2 ^ b * (2 * y + 1) - 2 ^ b = 2 ^ b * (2 * y) := by
      have : 2 ^ b * (2 * y + 1) = 2 ^ b * (2 * y) + 2 ^ b := by ring
      omega
    rw [index, next, bottom, Nat.mul_lt_mul_left p, Nat.mul_le_mul_left_iff p,
      Nat.mul_lt_mul_left p, Nat.mul_le_mul_left_iff p, Nat.mul_right_inj (by omega)]
    omega

section Loops

open Function

variable {ε V : Type}

/-- `while (i <= size) { values[i] = f(values[i]); i += lowbit(i); }` -/
def ascend (size : Nat) (f : V → Tx ε V) : (fuel i : Nat) → (Nat → V) → Tx ε (Nat → V)
  | 0, _, values => pure values
  | fuel + 1, i, values =>
    if i ≤ size then do
      let v ← f (values i)
      ascend size f fuel (i + lowbit i) (update values i v)
    else pure values

/-- `while (i != 0) { sum += value(i); i -= lowbit(i); }` -/
def descend {M : Type} [Add M] (value : Nat → M) : (fuel i : Nat) → M → M
  | 0, _, acc => acc
  | fuel + 1, i, acc =>
    if i = 0 then acc else descend value fuel (i - lowbit i) (acc + value i)

theorem ascend_spec {size : Nat} {f : V → Tx ε V} {fuel i : Nat} {values values' : Nat → V}
    (positive : 0 < i) (inside : size < 2 ^ 256) (enough : size < fuel + i)
    (h : ascend size f fuel i values = .ok values') (k : Nat) :
    if 0 < k ∧ k ≤ size ∧ Covers k i then f (values k) = .ok (values' k)
    else values' k = values k := by
  induction fuel generalizing i values with
  | zero =>
    cases h
    rw [if_neg]
    rintro ⟨-, small, covers⟩
    have := covers.2
    omega
  | succ fuel ih =>
    unfold ascend at h
    split at h
    next within =>
      obtain ⟨v, applied, h⟩ := ran h
      have bit := lowbit_pos positive (by omega)
      have rest := ih (by omega) (by omega) h
      by_cases here : k = i
      · subst here
        -- the climb has left this node for good
        have left : ¬ (0 < k ∧ k ≤ size ∧ Covers k (k + lowbit k)) := by
          rintro ⟨-, -, covers⟩
          have := covers.2
          omega
        rw [if_neg left, update_self] at rest
        rw [if_pos ⟨positive, within, by omega, le_refl k⟩, applied, rest]
      · by_cases node : 0 < k ∧ k ≤ size
        · have step := covers_iff positive node.1 (by omega) (by omega : k < 2 ^ 256)
          simp only [here, false_or] at step
          rw [update_of_ne here] at rest
          simpa only [step] using rest
        · rw [if_neg fun c => node ⟨c.1, c.2.1⟩, update_of_ne here] at rest
          rw [if_neg fun c => node ⟨c.1, c.2.1⟩, rest]
    · cases h
      rw [if_neg]
      rintro ⟨-, small, covers⟩
      have := covers.2
      omega

/-- The climb has work to do only where every node on its way takes the update. -/
theorem ascend_ok {size : Nat} {f : V → Tx ε V} {i : Nat} {values : Nat → V} (positive : 0 < i)
    (inside : size < 2 ^ 256) (each : ∀ k, 0 < k → k ≤ size → Covers k i → ∃ v, f (values k) = .ok v)
    (fuel : Nat) : ∃ values', ascend size f fuel i values = .ok values' := by
  induction fuel generalizing i values with
  | zero => exact ⟨_, rfl⟩
  | succ fuel ih =>
    unfold ascend
    split
    next within =>
      have bit := lowbit_pos positive (by omega)
      obtain ⟨v, applied⟩ := each i positive within ⟨by omega, le_refl i⟩
      rw [applied]
      refine ih (by omega) fun k some small covers => ?_
      have above := covers.2
      rw [update_of_ne (by omega)]
      exact each k some small ((covers_iff positive some (by omega) (by omega)).mpr (.inr covers))
    · exact ⟨_, rfl⟩

/-- The condition of the climbing loop fails before its fuel is spent. -/
theorem climb_ends {i size fuel : Nat} (positive : 0 < i) (inside : size < 2 ^ 256) (enough : size < fuel + i) :
    ∃ steps ≤ fuel, size < (fun k => k + lowbit k)^[steps] i := by
  induction fuel generalizing i with
  | zero => exact ⟨0, le_refl 0, by simpa using enough⟩
  | succ fuel ih =>
    by_cases past : size < i
    · exact ⟨0, zero_le _, past⟩
    · have bit := lowbit_pos positive (by omega)
      obtain ⟨steps, within, ends⟩ := ih (i := i + lowbit i) (by omega) (by omega)
      exact ⟨steps + 1, by omega, by rwa [Function.iterate_succ_apply]⟩

theorem descent_ends (small : i < 2 ^ 256) (enough : i ≤ fuel) :
    ∃ steps ≤ fuel, (fun k => k - lowbit k)^[steps] i = 0 := by
  induction fuel generalizing i with
  | zero => exact ⟨0, le_refl 0, by simpa using enough⟩
  | succ fuel ih =>
    by_cases none : i = 0
    · exact ⟨0, zero_le _, none⟩
    · have bit := lowbit_pos (pos_of_ne_zero none) small
      obtain ⟨steps, within, ends⟩ := ih (i := i - lowbit i) (by omega) (by omega)
      exact ⟨steps + 1, by omega, by rwa [Function.iterate_succ_apply]⟩

end Loops

section Prefix

variable {M : Type} [AddCommMonoid M]

theorem descend_acc (value : Nat → M) (fuel i : Nat) (acc : M) :
    descend value fuel i acc = acc + descend value fuel i 0 := by
  induction fuel generalizing i acc with
  | zero => simp [descend]
  | succ fuel ih =>
    unfold descend
    split
    · rw [add_zero]
    · rw [ih _ (acc + value i), ih _ (0 + value i), zero_add, add_assoc]

theorem descend_add_covered {value value' : Nat → M} {i : Nat} {d : M} (positive : 0 < i)
    {size : Nat} (inside : size < 2 ^ 256)
    (grown : ∀ k, 0 < k → k ≤ size → value' k = value k + if Covers k i then d else 0)
    {n j : Nat} (enough : j ≤ n) (within : j ≤ size) :
    descend value' n j 0 = descend value n j 0 + if i ≤ j then d else 0 := by
  induction n generalizing j with
  | zero =>
    have : ¬ i ≤ j := by omega
    simp [descend, this]
  | succ n ih =>
    unfold descend
    split
    next zero =>
      have : ¬ i ≤ j := by omega
      simp [this]
    next nonzero =>
      have bit := lowbit_pos (pos_of_ne_zero nonzero) (by omega)
      rw [descend_acc, descend_acc value, ih (by omega) (by omega), zero_add, zero_add,
        grown j (by omega) within]
      -- `i` is in the stretch of this node, in a later one, or above `j`
      by_cases here : Covers j i
      · have notLater : ¬ i ≤ j - lowbit j := by
          have := here.1
          omega
        rw [if_pos here, if_neg notLater, if_pos here.2, add_zero, add_right_comm]
      · have same : i ≤ j - lowbit j ↔ i ≤ j := by
          unfold Covers at here
          omega
        rw [if_neg here, add_zero, add_assoc]
        simp only [same]

end Prefix

end Fenwick

end Evm
