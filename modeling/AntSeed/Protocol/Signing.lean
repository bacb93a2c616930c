import AntSeed.Lib.JsString
import AntSeed.Lib.Utf8

/-! # Signatures of peers

The bytes that a peer signs begin with a domain. A signature is compared with the
address that it was recovered for, and travels as hexadecimal digits.
-/

namespace AntSeed.Protocol

open JsString

def bytesToHex (bytes : List UInt8) : String :=
  String.ofList (bytes.flatMap fun byte =>
    [hexDigit (byte.toNat / 16), hexDigit (byte.toNat % 16)])

/-- What `parseInt` skips at the front of a text. -/
def isSpace (unit : UInt16) : Bool :=
  unit.toNat ∈ [0x09, 0x0A, 0x0B, 0x0C, 0x0D, 0x20, 0xA0, 0x1680, 0x2028, 0x2029, 0x202F, 0x205F, 0x3000, 0xFEFF] ∨
    0x2000 ≤ unit.toNat ∧ unit.toNat ≤ 0x200A

def hexUnit (unit : UInt16) : Option Nat := hexValue (Char.ofNat unit.toNat)

/-- `parseInt` of two units in base 16, as it is stored in a byte. What is not a number is stored as
    zero. -/
def parseByte (first second : UInt16) : UInt8 :=
  match hexUnit first, hexUnit second with
  | some high, some low => UInt8.ofNat (high * 16 + low)
  | some digit, none => UInt8.ofNat digit
  | none, some digit =>
    if first = 0x2D then UInt8.ofNat (256 - digit)
    else if first = 0x2B ∨ isSpace first then UInt8.ofNat digit
    else 0
  | none, none => 0

def parseBytes : JsString → Option (List UInt8)
  | [] => some []
  | [_] => none
  | first :: second :: rest => (parseByte first second :: ·) <$> parseBytes rest

/-- Throws for an odd number of digits. -/
def hexToBytes (hex : String) : Option (List UInt8) := parseBytes (ofString hex)

theorem hexToBytes_bytesToHex (bytes : List UInt8) : hexToBytes (bytesToHex bytes) = some bytes := by
  have digits : ∀ n < 16, units (hexDigit n) = [UInt16.ofNat (hexDigit n).toNat] ∧
      hexUnit (UInt16.ofNat (hexDigit n).toNat) = some n := by
    decide
  unfold hexToBytes bytesToHex ofString
  rw [String.toList_ofList]
  induction bytes with
  | nil => rfl
  | cons byte bytes ih =>
    have bound := byte.toNat_lt
    obtain ⟨high, highValue⟩ := digits (byte.toNat / 16) (by omega)
    obtain ⟨low, lowValue⟩ := digits (byte.toNat % 16) (by omega)
    have whole : byte.toNat / 16 * 16 + byte.toNat % 16 = byte.toNat := by omega
    simp only [List.flatMap_cons, high, low, List.cons_append, List.nil_append, parseBytes, parseByte,
      highValue, lowValue, whole, UInt8.ofNat_toNat]
    rw [ih]
    rfl

theorem bytesToHex_inj : bytesToHex bytes = bytesToHex other ↔ bytes = other := by
  constructor
  · intro same
    have back := hexToBytes_bytesToHex bytes
    rw [same, hexToBytes_bytesToHex] at back
    exact (Option.some.inj back).symm
  · rintro rfl
    rfl

/-- The scheme behind a wallet: its signature of a message, and the address that a message and a
    signature are recovered to, if they are to any. -/
structure Signatures (Wallet : Type) where
  sign : Wallet → List UInt8 → List UInt8
  verifyMessage : List UInt8 → List UInt8 → Option String

def DOMAIN_DATA : List UInt8 := Utf8.encode "antseed-data-v1:"

/-- A text without its first two letters. -/
def sliceTwo (text : String) : String := String.ofList (text.toList.drop 2)

variable {Wallet : Type} (signatures : Signatures Wallet)

def signData (wallet : Wallet) (data : List UInt8) : List UInt8 := signatures.sign wallet (DOMAIN_DATA ++ data)

def verifySignature (expectedAddress : String) (signature data : List UInt8) : Bool :=
  match signatures.verifyMessage (DOMAIN_DATA ++ data) signature with
  | some recovered => (sliceTwo recovered).toLower = expectedAddress.toLower
  | none => false

end AntSeed.Protocol
