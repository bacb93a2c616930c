import AntSeed.Lib.Abi
import AntSeed.Payments.Channels

/-! # Payment messages

What buyers send to a seller. Nothing in a message is trusted: hex strings,
numerals and signatures may each be malformed, and converting them then throws.
Signatures are ideal, as on the contracts' side: a `Signature` names who made it
and of what, and recovering the signer of another message finds some address
that is nobody's.
-/

namespace AntSeed.Seller

open Evm
open AntSeed.Payments (Auth Signature Deployment)
open Option

/-- A peer is named by the forty hex digits of its address. -/
structure PeerId where
  hex : BitVec 160
  deriving DecidableEq, Repr

def peerIdToAddress (peerId : PeerId) : Address := ⟨peerId.hex⟩

/-- A 32-byte hex string: the word its 64 digits write, whether its `0x` has a capital letter, and
    which mix of capital and small digits it is. Any other string has no digits and a number. -/
structure Hex where
  digits : Option Word
  capitalPrefix : Bool := false
  spelling : Nat := 0
  deriving DecidableEq, Repr

namespace Hex

/-- The empty string. -/
def empty : Hex := ⟨none, false, 0⟩

/-- How ethers writes a word. -/
def ofWord (word : Word) : Hex := ⟨some word, false, 0⟩

def toLowerCase (text : Hex) : Hex :=
  if text.digits.isSome then { text with capitalPrefix := false, spelling := 0 } else text

/-- What ethers reads; a hex string of its begins with a small `0x`. -/
def bytes32 (text : Hex) : Option Word :=
  if text.capitalPrefix then none else text.digits

@[simp] theorem bytes32_ofWord (word : Word) : (ofWord word).bytes32 = some word := rfl

theorem bytes32_of_toLowerCase {text : Hex} {word read : Word}
    (same : (ofWord word).toLowerCase = text.toLowerCase) (reads : text.bytes32 = some read) :
    read = word := by
  obtain ⟨digits, capital, spelling⟩ := text
  cases capital with
  | true => simp [bytes32] at reads
  | false =>
    cases digits with
    | none => simp [bytes32] at reads
    | some =>
      simp [bytes32] at reads
      simp [ofWord, toLowerCase] at same
      rw [← reads, ← same]

end Hex

/-- A string of hex-encoded bytes. -/
inductive HexData where
  | blank
  | bytes (data : List UInt8)
  | malformed
  deriving DecidableEq, Repr

/-- A string passed to `BigInt`. -/
inductive Numeral where
  | blank
  | integer (value : Int)
  | malformed
  deriving DecidableEq, Repr

/-- `BigInt(text)`; the empty string is zero. -/
def Numeral.toBigInt : Numeral → Option Int
  | .blank => some 0
  | .integer value => some value
  | .malformed => none

inductive JsonNumber where
  | integer (value : Int)
  | fractional
  deriving DecidableEq, Repr

def JsonNumber.toBigInt : JsonNumber → Option Int
  | .integer value => some value
  | .fractional => none

/-- What does not change while a seller runs. -/
structure Node where
  chain : Deployment
  /-- the seller's address on chain: its own, or that of the proxy it sells behind -/
  seller : Address
  settleOnDisconnect : Bool := true
  minSettleDelta : Int := 2000
  serveWhileClosePending : Bool := false
  /-- channel ids are hashes of their parties -/
  bindsBuyer : ∀ {buyer seller salt buyer' seller' salt'},
    chain.computeChannelId buyer seller salt = chain.computeChannelId buyer' seller' salt' →
      buyer = buyer'

/-- `encodeMetadata(ZERO_METADATA)`: version 4, six zero counters and an empty list. -/
def zeroMetadata : List UInt8 :=
  [4, 0, 0, 0, 0, 0, 0, 256, 0].flatMap Abi.encodeUint

/-- `metadata || encodeMetadata(ZERO_METADATA)`. -/
def HexData.orZeroMetadata : HexData → HexData
  | .blank => .bytes zeroMetadata
  | .bytes data => .bytes data
  | .malformed => .malformed

section Hashing

variable (node : Node)

/-- `keccak256(data)`; only hex-encoded bytes have a hash. -/
def keccak256 : HexData → Option Hex
  | .bytes data => some (Hex.ofWord (node.chain.keccak256 data))
  | .blank => none
  | .malformed => none

/-- The hash a SpendingAuth with this metadata is over. -/
def metadataHash (metadata : HexData) : Option Word :=
  (keccak256 node metadata.orZeroMetadata).bind Hex.bytes32

theorem keccak256_eq_some {hash : Hex}
    (hashes : keccak256 node metadata = some hash) : ∃ word, hash = Hex.ofWord word := by
  cases metadata with
  | bytes => exact ⟨_, (some.inj hashes).symm⟩
  | blank | malformed => cases hashes

theorem metadataHash_of_keccak256 {metadata : HexData} {hash : Hex}
    (hashes : keccak256 node metadata = some hash) :
    metadataHash node metadata = hash.bytes32 := by
  cases metadata with
  | bytes => simp [metadataHash, HexData.orZeroMetadata, hashes]
  | blank | malformed => cases hashes

end Hashing

/-- ethers refuses a number that its type cannot hold. -/
def toUint (bits : Nat) (value : Int) : Option Nat :=
  if 0 ≤ value ∧ value < 2 ^ bits then some value.toNat else none

def spendingAuthMessage (channelId : Hex) (cumulativeAmount : Int) (hash : Hex) : Option Auth := do
  let id ← channelId.bytes32
  let amount ← toUint 256 cumulativeAmount
  let word ← hash.bytes32
  pure (.spendingAuth id amount word)

def reserveAuthMessage (channelId : Hex) (maxAmount deadline : Int) : Option Auth := do
  let id ← channelId.bytes32
  let amount ← toUint 128 maxAmount
  let until_ ← toUint 256 deadline
  pure (.reserveAuth id amount until_)

/-- Whether `verifyTypedData` recovers this address; `none` when it throws. -/
def verifyTypedData (message : Option Auth) (sig : Option Signature) (expected : Address) :
    Option Bool := do
  let message ← message
  let sig ← sig
  pure (decide (sig = ⟨expected, message⟩))

theorem verifyTypedData_eq_true
    (verified : verifyTypedData message sig expected = some true) :
    ∃ auth, message = some auth ∧ sig = some ⟨expected, auth⟩ := by
  cases message with
  | none => cases verified
  | some auth =>
    cases sig with
    | none => cases verified
    | some sig =>
      have same : sig = ⟨expected, auth⟩ := by simpa [verifyTypedData] using verified
      exact ⟨auth, rfl, by rw [same]⟩

theorem spendingAuthMessage_eq_some {channelId hash : Hex} {cumulativeAmount : Int} {auth : Auth}
    (builds : spendingAuthMessage channelId cumulativeAmount hash = some auth) :
    ∃ id amount word, channelId.bytes32 = some id ∧ toUint 256 cumulativeAmount = some amount ∧
      hash.bytes32 = some word ∧ auth = .spendingAuth id amount word := by
  simp only [spendingAuthMessage, bind_eq_bind, bind_eq_some_iff, pure_def,
    some.injEq] at builds
  obtain ⟨id, reads, amount, fits, word, hashes, rfl⟩ := builds
  exact ⟨id, amount, word, reads, fits, hashes, rfl⟩

theorem reserveAuthMessage_eq_some {channelId : Hex} {maxAmount deadline : Int} {auth : Auth}
    (builds : reserveAuthMessage channelId maxAmount deadline = some auth) :
    ∃ id amount until_, channelId.bytes32 = some id ∧ auth = .reserveAuth id amount until_ := by
  simp only [reserveAuthMessage, bind_eq_bind, bind_eq_some_iff, pure_def,
    some.injEq] at builds
  obtain ⟨id, reads, amount, -, until_, -, rfl⟩ := builds
  exact ⟨id, amount, until_, reads, rfl⟩

/-- A threshold SpendingAuth and a larger ReserveAuth, sent along with an opening reserve. -/
structure ReserveBatch where
  cumulativeAmount : Numeral
  metadataHash : Hex
  metadata : HexData
  spendingAuthSig : Option Signature
  maxAmount : Numeral
  deadline : JsonNumber
  reserveAuthSig : Option Signature

structure SpendingAuthPayload where
  channelId : Hex
  cumulativeAmount : Numeral
  metadataHash : Hex
  metadata : HexData
  spendingAuthSig : Option Signature
  reserveSalt : Option Hex := none
  reserveMaxAmount : Option Numeral := none
  reserveDeadline : Option JsonNumber := none
  reserveBatch : Option ReserveBatch := none
  oneOffRequestId : Option String := none

/-- The SpendingAuth a close request may bring along. -/
structure CloseAuth where
  cumulativeAmount : Numeral
  metadataHash : Hex
  metadata : HexData
  spendingAuthSig : Option Signature

structure CloseChannelRequestPayload where
  channelId : Hex
  /-- the four fields are only used together -/
  auth : Option CloseAuth := none

def metadataMatchesHash (node : Node) (payload : SpendingAuthPayload) : Bool :=
  match keccak256 node payload.metadata.orZeroMetadata with
  | some hash => hash.toLowerCase = payload.metadataHash.toLowerCase
  | none => false

theorem metadataHash_of_matches {payload : SpendingAuthPayload} {word : Word}
    (fits : metadataMatchesHash node payload = true)
    (reads : payload.metadataHash.bytes32 = some word) :
    metadataHash node payload.metadata = some word := by
  unfold metadataMatchesHash at fits
  unfold metadataHash
  cases hashes : keccak256 node payload.metadata.orZeroMetadata with
  | none => simp [hashes] at fits
  | some =>
    obtain ⟨found, rfl⟩ := keccak256_eq_some node hashes
    have same : (Hex.ofWord found).toLowerCase = payload.metadataHash.toLowerCase := by
      simpa [hashes] using fits
    simp [Hex.bytes32_of_toLowerCase same reads]

end AntSeed.Seller
