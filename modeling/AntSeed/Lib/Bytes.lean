import Mathlib.Algebra.Order.Ring.Int
import Mathlib.Data.List.Induction

/-! # Numbers as bytes

A number is written into a fixed number of bytes, the most significant first.
What does not fit is cut off without notice.
-/

namespace Bytes

/-- The last `width` bytes of a number. -/
def ofNat : Nat → Nat → List UInt8
  | 0, _ => []
  | width + 1, value => ofNat width (value / 256) ++ [UInt8.ofNat value]

/-- The number that some bytes write. -/
def toNat (bytes : List UInt8) : Nat := bytes.foldl (fun value byte => value * 256 + byte.toNat) 0

/-- An integer is written modulo what fits. -/
def ofInt (width : Nat) (value : Int) : List UInt8 := ofNat width (value % 256 ^ width).toNat

/-- The number in `width` bytes from an offset on; whether they are all there is asked elsewhere. -/
def numberAt (data : List UInt8) (offset width : Nat) : Nat := toNat ((data.drop offset).take width)

@[simp] theorem length_ofNat : (ofNat width value).length = width := by
  induction width generalizing value with
  | zero => rfl
  | succ width ih => simp [ofNat, ih]

@[simp] theorem length_ofInt {width : Nat} {value : Int} : (ofInt width value).length = width :=
  length_ofNat

@[simp] theorem toNat_concat :
    toNat (bytes ++ [byte]) = toNat bytes * 256 + byte.toNat := by
  simp [toNat, List.foldl_append]

@[simp] theorem toNat_ofNat : toNat (ofNat width value) = value % 256 ^ width := by
  induction width generalizing value with
  | zero => simp [ofNat, toNat, Nat.mod_one]
  | succ width ih =>
    rw [ofNat, toNat_concat, ih, UInt8.toNat_ofNat', pow_succ' 256 width, Nat.mod_mul]
    omega

theorem toNat_ofInt :
    (toNat (ofInt width value) : Int) = value % 256 ^ width := by
  have bound : (0 : Int) < 256 ^ width := pow_pos (by decide) width
  have least := Int.emod_nonneg value bound.ne'
  have most := Int.emod_lt_of_pos value bound
  have fits : (value % 256 ^ width).toNat < 256 ^ width := by
    rw [Int.toNat_lt least]
    exact_mod_cast most
  rw [ofInt, toNat_ofNat, Nat.mod_eq_of_lt fits, Int.toNat_of_nonneg least]

theorem numberAt_append {before after : List UInt8} {offset width : Nat} {value : Int}
    (here : before.length = offset) :
    (numberAt (before ++ ofInt width value ++ after) offset width : Int) = value % 256 ^ width := by
  subst here
  rw [numberAt, List.append_assoc, List.drop_left, List.take_left' length_ofInt, toNat_ofInt]

end Bytes
