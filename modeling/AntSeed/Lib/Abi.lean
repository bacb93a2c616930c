import AntSeed.Lib.Mapping
import AntSeed.Lib.Reverting

/-! # ABI encoding of static values

Static values are encoded word after word, each in 32 bytes with the most
significant one first. Decoding reverts if a word is missing or too large for its
type.
-/

namespace Evm.Abi

variable {ε : Type}

/-- A number as one word. -/
def encodeUint (value : Nat) : List UInt8 :=
  (List.range 32).map fun index => UInt8.ofNat (value / 256 ^ (31 - index))

/-- The `index`-th word of some encoded data. -/
def wordAt (data : List UInt8) (index : Nat) : Nat :=
  ((data.drop (32 * index)).take 32).foldl (fun value byte => value * 256 + byte.toNat) 0

/-- The data holds a number of words, at least. -/
def requireWords (data : List UInt8) (count : Nat) : Tx ε Unit :=
  if data.length < 32 * count then .error .calldata else .ok ()

def uintAt (bits : Nat) (data : List UInt8) (index : Nat) : Tx ε Nat := do
  decode bits (wordAt data index)
  pure (wordAt data index)

def addressAt (data : List UInt8) (index : Nat) : Tx ε Address := do
  let word ← uintAt 160 data index
  pure ⟨BitVec.ofNat 160 word⟩

def bytes32At (data : List UInt8) (index : Nat) : Word := ⟨BitVec.ofNat 256 (wordAt data index)⟩

variable {allowed : Revert ε → Prop}

theorem requireWords_meets (refused : allowed .calldata) :
    Meets (requireWords data count) allowed fun _ => 32 * count ≤ data.length := by
  unfold requireWords
  split
  · exact refused
  next enough => exact Nat.le_of_not_lt enough

theorem uintAt_meets (refused : allowed .calldata) :
    Meets (uintAt bits data index) allowed fun value => value < 2 ^ bits :=
  Meets.decode refused fun small => Meets.pure small

theorem addressAt_meets (refused : allowed .calldata) :
    Meets (addressAt data index) allowed fun _ => True :=
  Meets.bind (uintAt_meets refused) fun _ _ => Meets.pure trivial

end Evm.Abi
