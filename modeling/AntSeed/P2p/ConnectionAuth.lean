import AntSeed.Lib.Json
import AntSeed.Lib.Machine
import Mathlib.Data.Rat.Floor

/-! # Signed envelopes of a connection

The first line of a connection and every SDP message carry a signed time and nonce. An envelope that is
far from the clock is refused, and a guard remembers the nonces that were seen for a while, at most some
of them, whether or not the signature turns out to be valid.
-/

namespace AntSeed.P2p

def INTRO_AUTH_MAX_SKEW_MS : Rat := 30000
def NONCE_LENGTH : Nat := 32
def SIG_HEX_LEN : Nat := 130

/-- Lower-case hexadecimal digits, as many as are expected. -/
def isHex (length : Nat) (text : String) : Bool :=
  text.toList.length = length ∧ text.toList.all fun char => '0' ≤ char ∧ char ≤ '9' ∨ 'a' ≤ char ∧ char ≤ 'f'

structure ConnectionAuthEnvelope where
  peerId : String
  ts : Rat
  nonce : String
  sig : String
  v : Option Rat := none
  deriving DecidableEq

structure NonceReplayGuard where
  ttlMs : Rat := INTRO_AUTH_MAX_SKEW_MS * 2
  maxEntries : Nat := 20000
  /-- The nonces and when they expire, the oldest first. -/
  seen : List (String × Rat) := []
  deriving DecidableEq

def buildReplayKey (peerId nonce : String) : String := peerId ++ ":" ++ nonce

namespace NonceReplayGuard

def evictExpired (guard : NonceReplayGuard) (nowMs : Rat) : NonceReplayGuard :=
  { guard with seen := guard.seen.filter (nowMs < ·.2) }

/-- An entry more. If these are too many, the oldest go. -/
def remember (guard : NonceReplayGuard) (key : String) (expiresAt : Rat) : NonceReplayGuard :=
  let seen := Keyed.set Prod.fst (key, expiresAt) guard.seen
  { guard with seen := seen.drop (seen.length - guard.maxEntries) }

/-- A nonce that is known and has not expired is refused. An expiry of zero counts as none. -/
def checkAndRemember (guard : NonceReplayGuard) (peerId nonce : String) (nowMs : Rat) :
    Bool × NonceReplayGuard :=
  let guard := guard.evictExpired nowMs
  let key := buildReplayKey peerId nonce
  match Keyed.get Prod.fst key guard.seen with
  | some (_, existingExpiry) =>
    if existingExpiry ≠ 0 ∧ existingExpiry > nowMs then (false, guard)
    else (true, guard.remember key (nowMs + guard.ttlMs))
  | none => (true, guard.remember key (nowMs + guard.ttlMs))

end NonceReplayGuard

inductive InitialWireType where
  | intro
  | hello
  deriving DecidableEq

def InitialWireType.text : InitialWireType → String
  | .intro => "intro"
  | .hello => "hello"

def buildConnectionAuthPayload (type : InitialWireType) (peerId : String) (ts : Int) (nonce : String) : String :=
  type.text ++ "|" ++ peerId ++ "|" ++ toString ts ++ "|" ++ nonce

/-- `JSON.stringify` of an array of texts. -/
def stringifyTexts (texts : List String) : String :=
  "[" ++ ",".intercalate (texts.map fun text => String.ofList (Json.quote (JsString.ofString text))) ++ "]"

def buildConnectionAuthPayloadV2 (type : InitialWireType) (peerId : String) (ts : Int) (nonce : String)
    (capabilities : List String) (encPub : Option String) : String :=
  buildConnectionAuthPayload type peerId ts nonce ++ "|caps=" ++ stringifyTexts capabilities ++ "|enc="
    ++ encPub.getD "-"

def buildSdpAuthPayload (peerId : String) (ts : Int) (nonce descriptionType sdpSha256Hex : String) : String :=
  "sdp|" ++ peerId ++ "|" ++ toString ts ++ "|" ++ nonce ++ "|" ++ descriptionType ++ "|" ++ sdpSha256Hex

/-- Code that is not in the repository. -/
structure Primitives where
  /-- The address that signed a message, unless the signature is malformed. -/
  verifyMessage : (message signature : String) → Option String
  sha256Hex : String → String

def MSG_SIGNING_DOMAIN : String := "antseed-msg-v1:"

variable (primitives : Primitives)

def verifyUtf8 (address message signatureHex : String) : Bool :=
  match primitives.verifyMessage (MSG_SIGNING_DOMAIN ++ message) ("0x" ++ signatureHex) with
  | none => false
  | some recovered => String.ofList ((recovered.toList.drop 2).map Char.toLower) = address.toLower

/-- Capabilities as they came: nothing, no array, or items some of which may be no texts. -/
inductive WireCapabilities where
  | absent
  | noArray
  | array (items : List (Option String))
  deriving DecidableEq

structure VerifyConnectionAuthOptions where
  type : InitialWireType
  auth : Option ConnectionAuthEnvelope
  wireCapabilities : WireCapabilities := .absent
  wireEncPub : Option String := none
  nowMs : Rat
  maxSkewMs : Option Rat := none

structure VerifySdpAuthOptions where
  auth : Option ConnectionAuthEnvelope
  expectedPeerId : String
  descriptionType : String
  sdp : String
  nowMs : Rat
  maxSkewMs : Option Rat := none

/-- What the two verifications share, and what they differ in. -/
structure Verification where
  auth : Option ConnectionAuthEnvelope
  nowMs : Rat
  maxSkewMs : Rat
  missing : String
  /-- The peer that an SDP message has to come from. -/
  expectedPeerId : Option String
  replayed : String
  /-- The message that has to be signed, or why there is none. -/
  payload : ConnectionAuthEnvelope → Except String String
  unverified : String

/-- Everything that is checked of an envelope before its nonce is remembered. -/
def Verification.precheck (verification : Verification) : Except String ConnectionAuthEnvelope :=
  match verification.auth with
  | none => .error verification.missing
  | some auth =>
    if ¬ isHex 40 auth.peerId then .error "invalid peerId"
    else if verification.expectedPeerId.any (· ≠ auth.peerId) then
      .error "sdp auth peerId does not match connection peer"
    else if ¬ auth.ts.isInt then .error "invalid timestamp"
    else if |verification.nowMs - auth.ts| > verification.maxSkewMs then
      .error "timestamp outside allowed skew"
    else if ¬ isHex NONCE_LENGTH auth.nonce then .error "invalid nonce format"
    else if ¬ isHex SIG_HEX_LEN auth.sig then .error "invalid signature format"
    else .ok auth

/-- Whether the signature is one of the peer over the payload. -/
def Verification.checkSignature (verification : Verification) (primitives : Primitives)
    (auth : ConnectionAuthEnvelope) : Except String String :=
  match verification.payload auth with
  | .error reason => .error reason
  | .ok payload =>
    if verifyUtf8 primitives auth.peerId payload auth.sig then .ok auth.peerId
    else .error verification.unverified

/-- The peer, or the reason why the envelope is refused. The nonce is remembered before the signature is
    looked at. -/
def Verification.run (verification : Verification) (primitives : Primitives) (replayGuard : NonceReplayGuard) :
    Except String String × NonceReplayGuard :=
  match verification.precheck with
  | .error reason => (.error reason, replayGuard)
  | .ok auth =>
    match replayGuard.checkAndRemember auth.peerId auth.nonce verification.nowMs with
    | (false, replayGuard) => (.error verification.replayed, replayGuard)
    | (true, replayGuard) => (verification.checkSignature primitives auth, replayGuard)

def connectionPayload (options : VerifyConnectionAuthOptions) (auth : ConnectionAuthEnvelope) :
    Except String String :=
  match auth.v with
  | none => .ok (buildConnectionAuthPayload options.type auth.peerId auth.ts.num auth.nonce)
  | some version =>
    if version ≠ 2 then .error "unsupported envelope version"
    else
      match options.wireCapabilities with
      | .noArray => .error "invalid capabilities for v2 envelope"
      | .absent =>
        .ok (buildConnectionAuthPayloadV2 options.type auth.peerId auth.ts.num auth.nonce [] options.wireEncPub)
      | .array items =>
        match items.mapM id with
        | none => .error "invalid capabilities for v2 envelope"
        | some capabilities =>
          .ok (buildConnectionAuthPayloadV2 options.type auth.peerId auth.ts.num auth.nonce capabilities
            options.wireEncPub)

def verifyConnectionAuthEnvelope (options : VerifyConnectionAuthOptions) : Verification where
  auth := options.auth
  nowMs := options.nowMs
  maxSkewMs := options.maxSkewMs.getD INTRO_AUTH_MAX_SKEW_MS
  missing := "missing auth envelope"
  expectedPeerId := none
  replayed := "replayed intro auth nonce"
  payload := connectionPayload options
  unverified := "signature verification failed"

def verifySdpAuthEnvelope (options : VerifySdpAuthOptions) : Verification where
  auth := options.auth
  nowMs := options.nowMs
  maxSkewMs := options.maxSkewMs.getD INTRO_AUTH_MAX_SKEW_MS
  missing := "missing sdp auth envelope"
  expectedPeerId := some options.expectedPeerId
  replayed := "replayed sdp auth nonce"
  payload := fun auth =>
    .ok (buildSdpAuthPayload auth.peerId auth.ts.num auth.nonce options.descriptionType
      (primitives.sha256Hex options.sdp))
  unverified := "sdp signature verification failed"

inductive Call where
  | connection (options : VerifyConnectionAuthOptions)
  | sdp (options : VerifySdpAuthOptions)

def Call.verification : Call → Verification
  | .connection options => verifyConnectionAuthEnvelope options
  | .sdp options => verifySdpAuthEnvelope primitives options

def Call.nowMs : Call → Rat
  | .connection options => options.nowMs
  | .sdp options => options.nowMs

/-- Calls that share a guard. -/
def guarded : Machine NonceReplayGuard Call Empty where
  step replayGuard call := .ok ((call.verification primitives).run primitives replayGuard).2

/-- The peer and the nonce of an envelope that is accepted. -/
def accepts (replayGuard : NonceReplayGuard) (call : Call) : List (String × String) :=
  let verification := call.verification primitives
  match verification.precheck, (verification.run primitives replayGuard).1 with
  | .ok auth, .ok peerId => [(peerId, auth.nonce)]
  | _, _ => []

end AntSeed.P2p
