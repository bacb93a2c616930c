import AntSeed.Protocol.ResponseAuth
import AntSeed.Lib.Decimal
import Mathlib

/-! # A receipt binds one exchange

Under an ideal hash equal hashes are hashes of the same bytes, and the bytes of messages
whose lengths fit tell the messages. What is signed tells the texts of the receipt.
-/

namespace AntSeed.Protocol

open UnsignedResponseAuth
open List

/-- A peer id in lower case, without `0x` in front of it. -/
def bareId (peerId : String) : List Char := bare (peerId.toList.map Char.toLower)
where
  bare : List Char → List Char
    | '0' :: 'x' :: rest => bare rest
    | letters => letters

def SamePeer (peerId other : String) : Prop := bareId peerId = bareId other

theorem bareId_normalizePeerId (peerId : String) : bareId (normalizePeerId peerId) = bareId peerId := by
  have lower : ∀ text : String, text.toLower.toList.map Char.toLower = text.toList.map Char.toLower := by
    intro text
    delta String.toLower
    simp
  unfold bareId normalizePeerId
  split
  next prefixed =>
    obtain ⟨rest, same⟩ := prefixed
    rw [lower, sliceTwo, String.toList_ofList, ← same]
    rfl
  · rw [lower]

theorem samePeer_of_normalized
    (same : normalizePeerId (normalizePeerId peerId) = normalizePeerId other) : SamePeer peerId other := by
  unfold SamePeer
  rw [← bareId_normalizePeerId peerId, ← bareId_normalizePeerId (normalizePeerId peerId), same,
    bareId_normalizePeerId]

section Hashes

variable {keccak256 : List UInt8 → List UInt8} {inspect : List (List UInt8) → Option Int}

theorem keccak256Hex_inj (ideal : keccak256.Injective)
    (same : keccak256Hex keccak256 data = keccak256Hex keccak256 other) : data = other := by
  unfold keccak256Hex at same
  have digits : bytesToHex (keccak256 data) = bytesToHex (keccak256 other) := by
    simpa [String.ext_iff] using same
  exact ideal (bytesToHex_inj.mp digits)

/-- The body that a response has been given with: in it, or after its start as a download. -/
inductive Delivers (keccak256 : List UInt8 → List UInt8) (inspect : List (List UInt8) → Option Int)
    (response : SerializedHttpResponse) : List UInt8 → Prop
  | whole (unstreamed : response.streamedBody = none) : Delivers keccak256 inspect response response.body
  | download (start : SerializedHttpResponse) (chunks : List (List UInt8)) (streamed : StreamedBody)
      (requestId : start.requestId = response.requestId) (statusCode : start.statusCode = response.statusCode)
      (headers : (stripStreamingHeader start).headers = (stripStreamingHeader response).headers)
      (hashed : streamBody keccak256 inspect start chunks = some streamed)
      (isStreamed : response.streamedBody = some streamed) : Delivers keccak256 inspect response chunks.flatten

theorem stripStreamingHeader_fields (response : SerializedHttpResponse) :
    (stripStreamingHeader response).requestId = response.requestId ∧
      (stripStreamingHeader response).statusCode = response.statusCode ∧
      (stripStreamingHeader response).body = response.body := by
  unfold stripStreamingHeader
  split <;> simp

theorem responseFields_congr (requestId : resp.requestId = resp'.requestId)
    (statusCode : resp.statusCode = resp'.statusCode) (headers : resp.headers = resp'.headers) :
    responseFields resp = responseFields resp' := by
  unfold responseFields
  rw [requestId, statusCode, headers]

theorem encodeHttpResponsePrefix_some {resp : SerializedHttpResponse} {length : Nat} {front : List UInt8}
    (encoded : encodeHttpResponsePrefix resp (length : Nat) = some front) :
    front = responseFields resp ++ Bytes.ofInt 4 length := by
  have general := @encodeHttpResponsePrefix_eq resp (replicate length 0)
  rw [length_replicate, encoded] at general
  split at general
  · exact Option.some.inj general
  · cases general

theorem update_spec {hash hash' : StreamingResponseHash} {chunks : List (List UInt8)}
    (updated : chunks.foldlM StreamingResponseHash.update hash = some hash') :
    hash'.hashed = hash.hashed ++ chunks.flatten := by
  induction chunks generalizing hash with
  | nil =>
    cases updated
    simp
  | cons chunk chunks ih =>
    rw [foldlM_cons, Option.bind_eq_bind, Option.bind_eq_some_iff] at updated
    obtain ⟨next, one, rest⟩ := updated
    have first : next.hashed = hash.hashed ++ chunk := by
      unfold StreamingResponseHash.update at one
      dsimp only at one
      split at one
      · cases one
      · cases one
        rfl
    rw [ih rest, first, flatten_cons, append_assoc]

theorem streamBody_spec {start : SerializedHttpResponse} {chunks : List (List UInt8)} {streamed : StreamedBody}
    (hashed : streamBody keccak256 inspect start chunks = some streamed) :
    ∃ length : Nat, streamed.responseHash = keccak256Hex keccak256
      (responseFields (stripStreamingHeader start) ++ Bytes.ofInt 4 length ++ chunks.flatten) := by
  unfold streamBody createStreamingResponseHash at hashed
  simp only [Option.bind_eq_bind, Option.bind_eq_some_iff, Option.pure_def] at hashed
  obtain ⟨_, ⟨byteLength, -, front, encoded, created⟩, hash, updated, finished⟩ := hashed
  cases created
  have all := update_spec updated
  rw [encodeHttpResponsePrefix_some encoded] at all
  refine ⟨byteLength.getD 0, ?_⟩
  unfold StreamingResponseHash.finish at finished
  split at finished
  · cases finished
  · cases finished
    unfold keccak256Hex
    rw [all]

theorem hashResponse_spec {response : SerializedHttpResponse} {body : List UInt8}
    (delivered : Delivers keccak256 inspect response body) :
    ∃ length : Nat, hashResponse keccak256 response = keccak256Hex keccak256
      (responseFields (stripStreamingHeader response) ++ Bytes.ofInt 4 length ++ body) := by
  unfold hashResponse
  cases delivered with
  | whole unstreamed =>
    obtain ⟨-, -, body⟩ := stripStreamingHeader_fields response
    refine ⟨response.body.length, ?_⟩
    rw [unstreamed]
    dsimp only
    rw [encodeHttpResponse, body, writeBytes, ← append_assoc]
    rfl
  | download start chunks streamed requestId statusCode headers hashed isStreamed =>
    obtain ⟨length, same⟩ := streamBody_spec hashed
    obtain ⟨startId, startStatus, -⟩ := stripStreamingHeader_fields start
    obtain ⟨responseId, responseStatus, -⟩ := stripStreamingHeader_fields response
    have fields : responseFields (stripStreamingHeader start) = responseFields (stripStreamingHeader response) :=
      responseFields_congr (by rw [startId, responseId, requestId])
        (by rw [startStatus, responseStatus, statusCode]) headers
    refine ⟨length, ?_⟩
    rw [isStreamed]
    dsimp only
    rw [same, fields]

end Hashes

section Fields

theorem minus_not_mem (n : Nat) : '-' ∉ (toString n).toList := by
  intro member
  cases isDigit_of_mem_toString member

theorem toString_int_inj {m n : Int} : toString m = toString n ↔ m = n := by
  constructor
  · intro same
    cases m with
    | ofNat m =>
      cases n with
      | ofNat => exact congrArg Int.ofNat (toString_nat_inj.mp same)
      | negSucc n =>
        have negative : toString (Int.negSucc n) = "-" ++ toString (n + 1) := rfl
        have minus : '-' ∈ (toString m).toList := by
          rw [show toString m = toString (Int.ofNat m) from rfl, same, negative]
          simp
        exact absurd minus (minus_not_mem m)
    | negSucc m =>
      have negative : ∀ k, toString (Int.negSucc k) = "-" ++ toString (k + 1) := fun _ => rfl
      cases n with
      | ofNat n =>
        have minus : '-' ∈ (toString n).toList := by
          rw [show toString n = toString (Int.ofNat n) from rfl, ← same, negative]
          simp
        exact absurd minus (minus_not_mem n)
      | negSucc n =>
        rw [negative, negative] at same
        have texts : toString (m + 1) = toString (n + 1) := by
          simpa [String.ext_iff] using same
        rw [Nat.succ.inj (toString_nat_inj.mp texts)]
  · rintro rfl
    rfl

namespace UnsignedResponseAuth

/-- Peer ids in the spelling in which they are signed. -/
def normalized (payload : UnsignedResponseAuth) : UnsignedResponseAuth :=
  { payload with
    buyerPeerId := normalizePeerId payload.buyerPeerId
    sellerPeerId := normalizePeerId payload.sellerPeerId }

def LengthsFit (payload : UnsignedResponseAuth) : Prop := ∀ text ∈ payload.fields, LengthFits 4 text

variable {payload other : UnsignedResponseAuth}

theorem fields_inj : payload.fields = other.fields ↔ payload.normalized = other.normalized := by
  obtain ⟨version, requestId, channelId, buyer, seller, service, provider, status, requestHash, responseHash,
    started, completed⟩ := payload
  obtain ⟨version', requestId', channelId', buyer', seller', service', provider', status', requestHash',
    responseHash', started', completed'⟩ := other
  have channels : (channelId.map Subtype.val).getD "" = (channelId'.map Subtype.val).getD "" ↔
      channelId = channelId' := by
    cases channelId with
    | none =>
      cases channelId' with
      | none => simp
      | some id => simp [Ne.symm id.property]
    | some id =>
      cases channelId' with
      | none => simp [id.property]
      | some => simp [Subtype.ext_iff]
  simp only [fields, normalized, cons.injEq, true_and, and_true, toString_nat_inj, toString_int_inj,
    mk.injEq, channels]

theorem encode_inj (fits : payload.LengthsFit) (fits' : other.LengthsFit) :
    encodeResponseAuthSigningPayload payload = encodeResponseAuthSigningPayload other ↔
      payload.normalized = other.normalized := by
  constructor
  · intro same
    have whole : payload.fields.flatMap (writeText 4) ++ [] = other.fields.flatMap (writeText 4) ++ [] := by
      rw [append_nil, append_nil]
      exact same
    exact fields_inj.mp (flatMap_append_inj writeText_append_inj fits fits' rfl whole).1
  · intro same
    unfold encodeResponseAuthSigningPayload
    rw [fields_inj.mpr same]

end UnsignedResponseAuth

end Fields

/-- Two exchanges are the same: one as it was signed, the other as it is expected. -/
structure Bound (input : ResponseAuthInput) (body : List UInt8) (expected : ResponseAuthVerificationExpected)
    (body' : List UInt8) : Prop where
  request : expected.request = input.request
  requestId : expected.response.requestId = input.response.requestId
  statusCode : expected.response.statusCode = input.response.statusCode
  headers : (stripStreamingHeader expected.response).headers = (stripStreamingHeader input.response).headers
  body : body' = body
  buyer : SamePeer input.buyerPeerId expected.buyerPeerId
  seller : SamePeer input.sellerPeerId expected.sellerPeerId
  service : expected.advertisedService = input.advertisedService

section Receipts

variable {keccak256 : List UInt8 → List UInt8} {inspect : List (List UInt8) → Option Int} {Wallet : Type}
  {signatures : Signatures Wallet} {input : ResponseAuthInput} {body body' : List UInt8}
  {payload : ResponseAuthPayload} {expected : ResponseAuthVerificationExpected}

theorem verifyResponseAuth_valid_iff : (verifyResponseAuth keccak256 signatures payload expected).valid = true ↔
    payload.requestHash = hashRequest keccak256 expected.request ∧
      payload.responseHash = hashResponse keccak256 expected.response ∧
      payload.requestId = expected.request.requestId ∧ payload.statusCode = expected.response.statusCode ∧
      normalizePeerId payload.buyerPeerId = normalizePeerId expected.buyerPeerId ∧
      normalizePeerId payload.sellerPeerId = normalizePeerId expected.sellerPeerId ∧
      payload.advertisedService = expected.advertisedService ∧ channelAgrees payload expected ∧
      hasValidSignature signatures payload expected = true := by
  unfold verifyResponseAuth
  split_ifs <;> simp_all

theorem lengthsFit_strip (fits : response.LengthsFit) :
    (stripStreamingHeader response).LengthsFit := by
  unfold stripStreamingHeader
  split
  · exact fits
  · refine ⟨fits.requestId, ?_, fun header member => ?_⟩
    · exact Nat.lt_of_le_of_lt (length_filter_le _ _) fits.headers.count
    · exact fits.headers.each header (mem_of_mem_filter member)

section

variable (ideal : keccak256.Injective) (delivered : Delivers keccak256 inspect input.response body)
  (delivered' : Delivers keccak256 inspect expected.response body') (request : input.request.LengthsFit)
  (request' : expected.request.LengthsFit) (response : input.response.LengthsFit)
  (response' : expected.response.LengthsFit)

include ideal delivered delivered' request request' response response'

theorem bound_of_hashes
    (requests : hashRequest keccak256 input.request = hashRequest keccak256 expected.request)
    (responses : hashResponse keccak256 input.response = hashResponse keccak256 expected.response)
    (statusCode : input.response.statusCode = expected.response.statusCode)
    (buyer : normalizePeerId (normalizePeerId input.buyerPeerId) = normalizePeerId expected.buyerPeerId)
    (seller : normalizePeerId (normalizePeerId input.sellerPeerId) = normalizePeerId expected.sellerPeerId)
    (service : input.advertisedService = expected.advertisedService) : Bound input body expected body' := by
  have sameRequest := encodeHttpRequest_inj request request' (keccak256Hex_inj ideal requests)
  obtain ⟨length, hashed⟩ := hashResponse_spec delivered
  obtain ⟨length', hashed'⟩ := hashResponse_spec delivered'
  rw [hashed, hashed'] at responses
  obtain ⟨requestId, headers, sameBody⟩ := responseFields_append_inj (lengthsFit_strip response)
    (lengthsFit_strip response') (keccak256Hex_inj ideal responses)
  rw [(stripStreamingHeader_fields _).1, (stripStreamingHeader_fields _).1] at requestId
  exact {
    request := sameRequest.symm
    requestId := requestId.symm
    statusCode := statusCode.symm
    headers := headers.symm
    body := sameBody.symm
    buyer := samePeer_of_normalized buyer
    seller := samePeer_of_normalized seller
    service := service.symm }

theorem bound_of_valid
    (signed : payload.toUnsignedResponseAuth.normalized = (unsignedResponseAuth keccak256 input).normalized)
    (valid : (verifyResponseAuth keccak256 signatures payload expected).valid = true) :
    Bound input body expected body' := by
  obtain ⟨requests, responses, -, statusCode, buyer, seller, service, -, -⟩ := verifyResponseAuth_valid_iff.mp valid
  have alike : ∀ {β : Type} (field : UnsignedResponseAuth → β),
      field payload.toUnsignedResponseAuth.normalized = field (unsignedResponseAuth keccak256 input).normalized :=
    fun field => congrArg field signed
  exact bound_of_hashes ideal delivered delivered' request request' response response'
    ((alike requestHash).symm.trans requests)
    ((alike responseHash).symm.trans responses)
    ((alike UnsignedResponseAuth.statusCode).symm.trans statusCode)
    ((alike buyerPeerId).symm.trans buyer)
    ((alike sellerPeerId).symm.trans seller)
    ((alike advertisedService).symm.trans service)

end

theorem created_valid
    (requests : hashRequest keccak256 input.request = hashRequest keccak256 expected.request)
    (responses : hashResponse keccak256 input.response = hashResponse keccak256 expected.response)
    (requestId : input.request.requestId = expected.request.requestId)
    (statusCode : input.response.statusCode = expected.response.statusCode)
    (buyer : normalizePeerId (normalizePeerId input.buyerPeerId) = normalizePeerId expected.buyerPeerId)
    (seller : normalizePeerId (normalizePeerId input.sellerPeerId) = normalizePeerId expected.sellerPeerId)
    (service : input.advertisedService = expected.advertisedService) (anyChannel : expected.channelId = none)
    (recovers : ∀ message, ∃ recovered, signatures.verifyMessage message (signatures.sign signer message) =
      some recovered ∧ (sliceTwo recovered).toLower = (normalizePeerId expected.sellerPeerId).toLower) :
    (verifyResponseAuth keccak256 signatures (createResponseAuthPayload keccak256 signatures input signer)
      expected).valid = true := by
  refine verifyResponseAuth_valid_iff.mpr
    ⟨requests, responses, requestId, statusCode, buyer, seller, service, ?_, ?_⟩
  · unfold channelAgrees
    rw [anyChannel]
    trivial
  · unfold hasValidSignature createResponseAuthPayload
    rw [hexToBytes_bytesToHex]
    obtain ⟨recovered, verified, same⟩ := recovers (DOMAIN_DATA ++
      encodeResponseAuthSigningPayload (unsignedResponseAuth keccak256 input))
    unfold verifySignature signData
    dsimp only
    rw [verified]
    exact decide_eq_true same

end Receipts

/-- As long as every text fits the field of its length, a receipt that a seller has signed for one
    exchange is accepted for no other one, whether it is as it was created or has been altered around
    its signature; and what is signed tells the receipt up to the spelling of peer ids. -/
theorem receipt_binds_exchange {Wallet : Type} (keccak256 : List UInt8 → List UInt8)
    (inspect : List (List UInt8) → Option Int) (signatures : Signatures Wallet) (ideal : keccak256.Injective)
    (input : ResponseAuthInput) (body : List UInt8) (expected : ResponseAuthVerificationExpected)
    (body' : List UInt8) (delivered : Delivers keccak256 inspect input.response body)
    (delivered' : Delivers keccak256 inspect expected.response body') (request : input.request.LengthsFit)
    (request' : expected.request.LengthsFit) (response : input.response.LengthsFit)
    (response' : expected.response.LengthsFit) :
    (∀ signer, (verifyResponseAuth keccak256 signatures
        (createResponseAuthPayload keccak256 signatures input signer) expected).valid = true →
      Bound input body expected body') ∧
    (∀ receipt : ResponseAuthPayload, receipt.toUnsignedResponseAuth.LengthsFit →
      (unsignedResponseAuth keccak256 input).LengthsFit →
      encodeResponseAuthSigningPayload receipt.toUnsignedResponseAuth =
        encodeResponseAuthSigningPayload (unsignedResponseAuth keccak256 input) →
      (verifyResponseAuth keccak256 signatures receipt expected).valid = true →
      Bound input body expected body') ∧
    ∀ receipt other : UnsignedResponseAuth, receipt.LengthsFit → other.LengthsFit →
      (encodeResponseAuthSigningPayload receipt = encodeResponseAuthSigningPayload other ↔
        receipt.normalized = other.normalized) := by
  refine ⟨fun signer valid => ?_, fun receipt fits fits' signed valid => ?_,
    fun receipt other fits fits' => encode_inj fits fits'⟩
  · exact bound_of_valid ideal delivered delivered' request request' response response' rfl valid
  · exact bound_of_valid ideal delivered delivered' request request' response response'
      ((encode_inj fits fits').mp signed) valid

/-- A scheme with one wallet, in which a message is its own signature. -/
def oneSeller : Signatures Unit where
  sign _ message := message
  verifyMessage message signature := if signature = message then some "0x5e" else none

theorem oneSeller_recovers (message : List UInt8) : ∃ recovered,
    oneSeller.verifyMessage message (oneSeller.sign () message) = some recovered ∧
      (sliceTwo recovered).toLower = (normalizePeerId "5e").toLower :=
  ⟨"0x5e", if_pos rfl, by decide +kernel⟩

def helloRequest : SerializedHttpRequest := ⟨"1", "GET", "/", .empty, []⟩

def oneHeader (text : String) (body : List UInt8) : SerializedHttpResponse :=
  ⟨"1", 200, ⟨[("a", text)], nodup_singleton _⟩, body, none⟩

def signedExchange (response : SerializedHttpResponse) : ResponseAuthInput :=
  ⟨helloRequest, response, "b0", "0x5E", "gpt-5", "openai", 100, 200, none⟩

def expectedExchange (response : SerializedHttpResponse) : ResponseAuthVerificationExpected :=
  ⟨helloRequest, response, "b0", "5e", "gpt-5", none⟩

theorem signedExchange_valid (responses : hashResponse id response = hashResponse id response')
    (statusCode : response.statusCode = response'.statusCode) :
    (verifyResponseAuth id oneSeller (createResponseAuthPayload id oneSeller (signedExchange response) ())
      (expectedExchange response')).valid = true := by
  have buyer : normalizePeerId (normalizePeerId "b0") = normalizePeerId "b0" := by decide +kernel
  have seller : normalizePeerId (normalizePeerId "0x5E") = normalizePeerId "5e" := by decide +kernel
  apply created_valid
  · rfl
  · exact responses
  · rfl
  · exact statusCode
  · exact buyer
  · exact seller
  · rfl
  · rfl
  · exact oneSeller_recovers

theorem helloRequest_fits : helloRequest.LengthsFit where
  requestId := by decide
  method := by decide
  path := by decide
  headers := ⟨by decide, by simp [helloRequest, Record.empty]⟩

theorem oneHeader_fits (fits : LengthFits 2 text) :
    (oneHeader text body).LengthsFit where
  requestId := show LengthFits 2 "1" by decide
  headers := by
    refine ⟨show 1 < 256 ^ 2 by decide, fun header member => ?_⟩
    cases mem_singleton.mp member
    exact ⟨show LengthFits 2 "a" by decide, fits⟩

/-- The receipt for a greeting. -/
theorem greeting_is_bound : Bound (signedExchange (oneHeader "b" [104, 105])) [104, 105]
    (expectedExchange (oneHeader "b" [104, 105])) [104, 105] :=
  (receipt_binds_exchange id (fun _ => none) oneSeller Function.injective_id _ _ _ _ (.whole rfl) (.whole rfl)
    helloRequest_fits helloRequest_fits (oneHeader_fits (by decide)) (oneHeader_fits (by decide))).1 ()
      (signedExchange_valid rfl rfl)

/-! The length of a header with 65536 bytes is cut off to zero, and what follows reads as the length of
a body and the body. The text is what a decoder makes of 4 bytes and 21844 malformed ones. -/

def overlong : String := String.ofList (['\x00', '\x01', '\x00', '\x00'] ++ replicate 21844 '\uFFFD')

/-- The bytes behind the first four of it, and the length of no body. -/
def overflow : List UInt8 := Utf8.encodeChars (replicate 21844 '\uFFFD') ++ [0, 0, 0, 0]

theorem length_replacements (n : Nat) : (Utf8.encodeChars (replicate n '\uFFFD')).length = 3 * n := by
  have letter : ('\uFFFD' : Char).utf8Size = 3 := by decide
  simp [Utf8.encodeChars, letter, Nat.mul_comm]

theorem encode_overlong : encodeHttpResponse (oneHeader "" overflow) = encodeHttpResponse (oneHeader overlong []) := by
  have many := length_replacements 21844
  have size : overflow.length = 65536 := by
    unfold overflow
    rw [length_append, many]
    rfl
  have letters : Utf8.encode overlong = [0, 1, 0, 0] ++ Utf8.encodeChars (replicate 21844 '\uFFFD') := by
    unfold Utf8.encode overlong
    rw [String.toList_ofList, Utf8.encodeChars, flatMap_append]
    rfl
  have size' : (Utf8.encode overlong).length = 65536 := by
    rw [letters, length_append, many]
    rfl
  have empty : writeText 2 "" = [0, 0] := by decide
  have cut : writeText 2 overlong = [0, 0] ++ Utf8.encode overlong := by
    unfold writeText writeBytes
    rw [size']
    rfl
  have text : writeBytes 4 overflow = [0, 1, 0, 0] ++ overflow := by
    unfold writeBytes
    rw [size]
    rfl
  have none : writeBytes 4 [] = [0, 0, 0, 0] := by decide
  simp only [encodeHttpResponse, oneHeader, writeHeaders, writeHeader, flatMap_cons, flatMap_nil,
    length_singleton, empty, cut, text, none, letters, append_assoc, append_nil]
  rw [overflow]

/-- The receipt for 65536 bytes is accepted for no body. -/
theorem overlong_header_reuses_receipt :
    Delivers id (fun _ => none) (oneHeader "" overflow) overflow ∧
      Delivers id (fun _ => none) (oneHeader overlong []) [] ∧
      (verifyResponseAuth id oneSeller
        (createResponseAuthPayload id oneSeller (signedExchange (oneHeader "" overflow)) ())
        (expectedExchange (oneHeader overlong []))).valid = true ∧
      ¬ Bound (signedExchange (oneHeader "" overflow)) overflow (expectedExchange (oneHeader overlong [])) [] := by
  have unmarked : ∀ text body, stripStreamingHeader (oneHeader text body) = oneHeader text body := by
    intro text body
    have absent : (oneHeader text body).headers.get ANTSEED_STREAMING_RESPONSE_HEADER = none := rfl
    unfold stripStreamingHeader
    rw [absent, if_pos nofun]
  refine ⟨.whole rfl, .whole rfl, signedExchange_valid ?_ (Eq.refl (200 : Int)), fun bound => ?_⟩
  · show keccak256Hex id (encodeHttpResponse (stripStreamingHeader (oneHeader "" overflow))) =
      keccak256Hex id (encodeHttpResponse (stripStreamingHeader (oneHeader overlong [])))
    rw [unmarked, unmarked, encode_overlong]
  · have none := congrArg length bound.body
    unfold overflow at none
    rw [length_append, length_replacements] at none
    cases none

end AntSeed.Protocol
