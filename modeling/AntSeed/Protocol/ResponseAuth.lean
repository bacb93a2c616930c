import AntSeed.Protocol.Signing
import AntSeed.Protocol.Unambiguous

/-! # Receipts for responses

A seller signs which response it gave to which request. The buyer hashes the request and
the response itself and compares. A response is hashed whole; a download is hashed while it
passes by, with the length that was declared in front of it, or zero if none was.
-/

namespace AntSeed.Protocol

def RESPONSE_AUTH_DOMAIN : String := "antseed-response-auth-v1"
def ANTSEED_STREAMING_RESPONSE_HEADER : String := "x-antseed-streaming"
def VIDEO_DOWNLOAD_MAX_BYTES : Nat := 64 * 1024 * 1024

structure ResponseAuthInput where
  request : SerializedHttpRequest
  response : SerializedHttpResponse
  buyerPeerId : String
  sellerPeerId : String
  advertisedService : String
  provider : String
  responseStartedAt : Int
  responseCompletedAt : Int
  channelId : Option String

structure ResponseAuthVerificationExpected where
  request : SerializedHttpRequest
  response : SerializedHttpResponse
  buyerPeerId : String
  sellerPeerId : String
  advertisedService : String
  channelId : Option String

structure ResponseAuthVerificationResult where
  valid : Bool
  reason : Option String
  deriving DecidableEq, Repr

/-- A receipt without its signature. Those that are created and those that are decoded name no
    channel rather than an empty one. -/
structure UnsignedResponseAuth where
  version : Nat
  requestId : String
  channelId : Option {id : String // id ≠ ""}
  buyerPeerId : String
  sellerPeerId : String
  advertisedService : String
  provider : String
  statusCode : Int
  requestHash : String
  responseHash : String
  responseStartedAt : Int
  responseCompletedAt : Int

structure ResponseAuthPayload extends UnsignedResponseAuth where
  signature : String

/-- Peer ids are hexadecimal, so that their case is that of ASCII letters. -/
def normalizePeerId (peerId : String) : String :=
  if ['0', 'x'] <+: peerId.toList then (sliceTwo peerId).toLower else peerId.toLower

def stripStreamingHeader (response : SerializedHttpResponse) : SerializedHttpResponse :=
  if response.headers.get ANTSEED_STREAMING_RESPONSE_HEADER ≠ some "1" then response
  else { response with headers := response.headers.erase ANTSEED_STREAMING_RESPONSE_HEADER }

/-- The texts of a receipt, in the order in which they are signed. -/
def UnsignedResponseAuth.fields (payload : UnsignedResponseAuth) : List String :=
  [RESPONSE_AUTH_DOMAIN, toString payload.version, payload.requestId, (payload.channelId.map Subtype.val).getD "",
    normalizePeerId payload.buyerPeerId, normalizePeerId payload.sellerPeerId, payload.advertisedService,
    payload.provider, toString payload.statusCode, payload.requestHash, payload.responseHash,
    toString payload.responseStartedAt, toString payload.responseCompletedAt]

def encodeResponseAuthSigningPayload (payload : UnsignedResponseAuth) : List UInt8 :=
  payload.fields.flatMap (writeText 4)

variable (keccak256 : List UInt8 → List UInt8)

def keccak256Hex (data : List UInt8) : String := "0x" ++ bytesToHex (keccak256 data)

def hashRequest (request : SerializedHttpRequest) : String := keccak256Hex keccak256 (encodeHttpRequest request)

def hashResponse (response : SerializedHttpResponse) : String :=
  match response.streamedBody with
  | some streamedBody => streamedBody.responseHash
  | none => keccak256Hex keccak256 (encodeHttpResponse (stripStreamingHeader response))

/-- A positive numeral without leading zeros. -/
def isLength (text : String) : Bool :=
  match text.toList with
  | [] => false
  | first :: rest => '1' ≤ first ∧ first ≤ '9' ∧ rest.all fun char => '0' ≤ char ∧ char ≤ '9'

/-- `Number(text)` of such a numeral. -/
def numberOf (text : String) : Nat := Nat.ofDigitChars 10 text.toList 0

/-- A hash that is being made of a download. -/
structure StreamingResponseHash where
  byteLength : Option Nat
  /-- what the hash has been updated with -/
  hashed : List UInt8
  received : Nat := 0
  /-- what the inspector of the video has been given -/
  inspected : List (List UInt8) := []

/-- Throws for a length that is no numeral or too large. -/
def declaredLength (response : SerializedHttpResponse) : Option (Option Nat) :=
  match response.headers.get "content-length" with
  | none => some none
  | some rawLength =>
    if isLength rawLength = false ∨ ¬ numberOf rawLength < 2 ^ 53 ∨
        numberOf rawLength > VIDEO_DOWNLOAD_MAX_BYTES then none
    else some (some (numberOf rawLength))

def createStreamingResponseHash (response : SerializedHttpResponse) : Option StreamingResponseHash := do
  let byteLength ← declaredLength response
  let front ← encodeHttpResponsePrefix (stripStreamingHeader response) (byteLength.getD 0 : Nat)
  return { byteLength, hashed := front }

namespace StreamingResponseHash

/-- Throws for more bytes than there may be. -/
def update (hash : StreamingResponseHash) (data : List UInt8) : Option StreamingResponseHash :=
  let received := hash.received + data.length
  if received > VIDEO_DOWNLOAD_MAX_BYTES ∨ hash.byteLength.any (received > ·) then none
  else some { hash with received, hashed := hash.hashed ++ data, inspected := hash.inspected ++ [data] }

/-- Throws for fewer bytes than were declared. `inspect` finds out how long the video is. -/
def finish (inspect : List (List UInt8) → Option Int) (hash : StreamingResponseHash) : Option StreamedBody :=
  if hash.byteLength.any (hash.received ≠ ·) then none
  else some {
    byteLength := hash.received
    responseHash := "0x" ++ bytesToHex (keccak256 hash.hashed)
    videoDurationMs := inspect hash.inspected }

end StreamingResponseHash

/-- A download from its first chunk to its last. -/
def streamBody (inspect : List (List UInt8) → Option Int) (response : SerializedHttpResponse)
    (chunks : List (List UInt8)) : Option StreamedBody := do
  let hash ← createStreamingResponseHash response
  let hash ← chunks.foldlM StreamingResponseHash.update hash
  hash.finish keccak256 inspect

variable {Wallet : Type} (signatures : Signatures Wallet)

def unsignedResponseAuth (input : ResponseAuthInput) : UnsignedResponseAuth where
  version := 1
  requestId := input.request.requestId
  channelId :=
    match input.channelId with
    | some channelId => if some_ : channelId ≠ "" then some ⟨channelId, some_⟩ else none
    | none => none
  buyerPeerId := normalizePeerId input.buyerPeerId
  sellerPeerId := normalizePeerId input.sellerPeerId
  advertisedService := input.advertisedService
  provider := input.provider
  statusCode := input.response.statusCode
  requestHash := hashRequest keccak256 input.request
  responseHash := hashResponse keccak256 input.response
  responseStartedAt := input.responseStartedAt
  responseCompletedAt := input.responseCompletedAt

def createResponseAuthPayload (input : ResponseAuthInput) (signer : Wallet) : ResponseAuthPayload :=
  let payload := unsignedResponseAuth keccak256 input
  let signature := bytesToHex (signData signatures signer (encodeResponseAuthSigningPayload payload))
  { payload with signature }

/-- An expected channel, if one is, has to be the receipt's. -/
def channelAgrees (payload : ResponseAuthPayload) (expected : ResponseAuthVerificationExpected) : Prop :=
  match expected.channelId with
  | some channelId => channelId = "" ∨ payload.channelId.map Subtype.val = some channelId
  | none => True

instance (payload : ResponseAuthPayload) (expected : ResponseAuthVerificationExpected) :
    Decidable (channelAgrees payload expected) := by
  unfold channelAgrees
  split <;> infer_instance

/-- A signature that is no hexadecimal text is not valid. -/
def hasValidSignature (payload : ResponseAuthPayload) (expected : ResponseAuthVerificationExpected) : Bool :=
  match hexToBytes payload.signature with
  | some signature =>
    verifySignature signatures (normalizePeerId expected.sellerPeerId) signature
      (encodeResponseAuthSigningPayload payload.toUnsignedResponseAuth)
  | none => false

def verifyResponseAuth (payload : ResponseAuthPayload) (expected : ResponseAuthVerificationExpected) :
    ResponseAuthVerificationResult :=
  if payload.requestHash ≠ hashRequest keccak256 expected.request then ⟨false, some "request_hash_mismatch"⟩
  else if payload.responseHash ≠ hashResponse keccak256 expected.response then
    ⟨false, some "response_hash_mismatch"⟩
  else if payload.requestId ≠ expected.request.requestId then ⟨false, some "request_id_mismatch"⟩
  else if payload.statusCode ≠ expected.response.statusCode then ⟨false, some "status_code_mismatch"⟩
  else if normalizePeerId payload.buyerPeerId ≠ normalizePeerId expected.buyerPeerId then
    ⟨false, some "buyer_peer_mismatch"⟩
  else if normalizePeerId payload.sellerPeerId ≠ normalizePeerId expected.sellerPeerId then
    ⟨false, some "seller_peer_mismatch"⟩
  else if payload.advertisedService ≠ expected.advertisedService then
    ⟨false, some "advertised_service_mismatch"⟩
  else if ¬ channelAgrees payload expected then ⟨false, some "channel_id_mismatch"⟩
  else if hasValidSignature signatures payload expected = false then ⟨false, some "invalid_signature"⟩
  else ⟨true, none⟩

end AntSeed.Protocol
