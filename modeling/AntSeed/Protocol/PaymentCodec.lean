import AntSeed.Lib.Json
import AntSeed.Lib.Utf8

/-! # Payment messages

Payment messages travel as JSON. The encoders write the fields of a payload that are there;
each decoder asks for its own fields again and builds the payload from them.
-/

namespace AntSeed.Protocol.PaymentCodec

open JsString Json Prod

/-- 64KB -/
def MAX_PAYLOAD_SIZE : Nat := 65536

/-- What is wrong with the billing usage of a message. -/
inductive UsageFault where
  /-- `Unit billing usage report must be version 1` -/
  | notVersion1
  /-- `units must be an object` -/
  | unitsNotObject
  /-- `Unsupported billing unit "…"` -/
  | unsupported (unit : JsString)
  /-- `Unit "…" must be encoded as a string` -/
  | notText (unit : JsString)
  /-- `Unit "…" must be a canonical non-negative integer decimal string` -/
  | notCanonical (unit : JsString)
  /-- `Unit "…" exceeds the maximum safe integer` -/
  | tooMany (unit : JsString)
  deriving DecidableEq, Repr

inductive PaymentError where
  /-- `Payment payload too large: … bytes (max 65536)` -/
  | tooLarge (size : Nat)
  /-- what `JSON.parse` throws -/
  | malformed
  /-- `Expected JSON object` -/
  | notObject
  /-- `Missing or invalid string field: …` -/
  | missing (field : String)
  /-- `Payment payload field "…" must be a finite number` -/
  | notFinite (field : String)
  /-- `Payment payload field "status" must be "closed" or "rejected"` -/
  | invalidStatus
  /-- `NeedAuth billingUsage must be an object` -/
  | usageNotObject
  /-- `Invalid NeedAuth billingUsage: …` -/
  | invalidUsage (faults : List UsageFault)
  deriving DecidableEq, Repr

/-! ## Payloads -/

section Payloads

variable (ν : Type)

/-- Threshold SpendingAuth and final ReserveAuth executed together with a reserve change. -/
structure ReserveBatch where
  cumulativeAmount : JsString
  metadataHash : JsString
  metadata : JsString
  spendingAuthSig : JsString
  maxAmount : JsString
  deadline : ν
  reserveAuthSig : JsString

structure SpendingAuthPayload where
  channelId : JsString
  cumulativeAmount : JsString
  metadataHash : JsString
  metadata : JsString
  spendingAuthSig : JsString
  reserveSalt : Option JsString
  reserveMaxAmount : Option JsString
  reserveDeadline : Option ν
  reserveBatch : Option (ReserveBatch ν)
  oneOffRequestId : Option JsString

structure AuthAckPayload where
  channelId : JsString

structure FreeUsageOpenPayload where
  channelId : JsString
  salt : JsString
  deadline : ν
  openSig : JsString
  freeTierDelegations : Option JsString

structure FreeUsageAuthPayload where
  channelId : JsString
  cumulativeInputTokens : JsString
  cumulativeOutputTokens : JsString
  sequence : JsString
  metadataHash : JsString
  metadata : JsString
  deadline : ν
  usageSig : JsString

structure FreeUsageAckPayload where
  channelId : JsString
  acceptedSequence : Option JsString

structure NeedFreeUsageAuthPayload where
  channelId : JsString
  requiredSequence : JsString
  currentAcceptedSequence : JsString
  requestId : Option JsString
  inputTokens : Option JsString
  outputTokens : Option JsString
  service : Option JsString

inductive PaymentRequiredCode where
  | channelExhausted
  | oneOffChannelRequired
  deriving DecidableEq, Repr

structure OneOffChannelPlan where
  openingReserveAmount : JsString
  requiredCumulativeAmount : JsString
  requestCost : JsString
  deriving DecidableEq

structure PaymentRequiredPayload where
  minBudgetPerRequest : JsString
  suggestedAmount : JsString
  requestId : JsString
  inputUsdPerMillion : Option ν
  outputUsdPerMillion : Option ν
  cachedInputUsdPerMillion : Option ν
  requiredCumulativeAmount : Option JsString
  currentSpent : Option JsString
  currentAcceptedCumulative : Option JsString
  channelId : Option JsString
  reserveMaxAmount : Option JsString
  code : Option PaymentRequiredCode
  oneOffPlan : Option OneOffChannelPlan
  deriving DecidableEq

inductive UnitBillingUnitV1 where
  | outputImages
  | completedRequests
  | videoGenerations
  | videoSeconds
  deriving DecidableEq, Repr

/-- The counts of a report are decimal texts; its version is 1. -/
structure UnitBillingUsageReportV1 where
  units : UnitBillingUnitV1 → Option JsString

structure NeedAuthPayload where
  channelId : JsString
  requiredCumulativeAmount : JsString
  currentAcceptedCumulative : JsString
  deposit : JsString
  requestId : Option JsString
  lastRequestCost : Option JsString
  inputTokens : Option JsString
  outputTokens : Option JsString
  cachedInputTokens : Option JsString
  freshInputTokens : Option JsString
  service : Option JsString
  billingUsage : Option UnitBillingUsageReportV1

/-- Version 1. The last four travel together. -/
structure CloseChannelRequestPayload where
  channelId : JsString
  cumulativeAmount : Option JsString
  metadataHash : Option JsString
  metadata : Option JsString
  spendingAuthSig : Option JsString

inductive CloseChannelStatus where
  | closed
  | rejected
  deriving DecidableEq, Repr

inductive CloseChannelRejectCode where
  | busy
  | pendingAuth
  | noChannel
  | invalidAuth
  | closeFailed
  | unsupported
  deriving DecidableEq, Repr

/-- Version 1. -/
structure CloseChannelResultPayload where
  channelId : JsString
  status : CloseChannelStatus
  txHash : Option JsString
  finalAmount : Option JsString
  code : Option CloseChannelRejectCode
  reason : Option JsString
  retryAfterMs : Option ν
  requiredCumulativeAmount : Option JsString

inductive PaymentPayload where
  | spendingAuth (payload : SpendingAuthPayload ν)
  | authAck (payload : AuthAckPayload)
  | freeUsageOpen (payload : FreeUsageOpenPayload ν)
  | freeUsageAuth (payload : FreeUsageAuthPayload ν)
  | freeUsageAck (payload : FreeUsageAckPayload)
  | needFreeUsageAuth (payload : NeedFreeUsageAuthPayload)
  | paymentRequired (payload : PaymentRequiredPayload ν)
  | needAuth (payload : NeedAuthPayload)
  | closeChannelRequest (payload : CloseChannelRequestPayload)
  | closeChannelResult (payload : CloseChannelResultPayload ν)

end Payloads

/-! ### Texts of the enumerations -/

def PaymentRequiredCode.text : PaymentRequiredCode → String
  | .channelExhausted => "channel_exhausted"
  | .oneOffChannelRequired => "one_off_channel_required"

def PAYMENT_REQUIRED_CODES : List PaymentRequiredCode := [.channelExhausted, .oneOffChannelRequired]

def UnitBillingUnitV1.text : UnitBillingUnitV1 → String
  | .outputImages => "output_images"
  | .completedRequests => "completed_requests"
  | .videoGenerations => "video_generations"
  | .videoSeconds => "video_seconds"

def UNIT_BILLING_UNITS_V1 : List UnitBillingUnitV1 :=
  [.outputImages, .completedRequests, .videoGenerations, .videoSeconds]

def CloseChannelStatus.text : CloseChannelStatus → String
  | .closed => "closed"
  | .rejected => "rejected"

def CLOSE_CHANNEL_STATUSES : List CloseChannelStatus := [.closed, .rejected]

def CloseChannelRejectCode.text : CloseChannelRejectCode → String
  | .busy => "busy"
  | .pendingAuth => "pending_auth"
  | .noChannel => "no_channel"
  | .invalidAuth => "invalid_auth"
  | .closeFailed => "close_failed"
  | .unsupported => "unsupported"

def CLOSE_CHANNEL_REJECT_CODES : List CloseChannelRejectCode :=
  [.busy, .pendingAuth, .noChannel, .invalidAuth, .closeFailed, .unsupported]

def ofText {α : Type} (text : α → String) (values : List α) (read : JsString) : Option α :=
  values.find? fun value => ofString (text value) = read

/-! ## Encoders -/

section Encoders

variable {ν : Type} (numbers : JsNumbers ν)

abbrev Fields (ν : Type) : Type := List (String × Option (Json ν))

def required (text : JsString) : Option (Json ν) := some (.string text)
def optional (text : Option JsString) : Option (Json ν) := text.map .string
def version1 : Option (Json ν) := some (.ofNumber numbers numbers.one)

def ReserveBatch.fields (batch : ReserveBatch ν) : Fields ν :=
  [("cumulativeAmount", required batch.cumulativeAmount),
   ("metadataHash", required batch.metadataHash),
   ("metadata", required batch.metadata),
   ("spendingAuthSig", required batch.spendingAuthSig),
   ("maxAmount", required batch.maxAmount),
   ("deadline", some (.ofNumber numbers batch.deadline)),
   ("reserveAuthSig", required batch.reserveAuthSig)]

def SpendingAuthPayload.fields (payload : SpendingAuthPayload ν) : Fields ν :=
  [("channelId", required payload.channelId),
   ("cumulativeAmount", required payload.cumulativeAmount),
   ("metadataHash", required payload.metadataHash),
   ("metadata", required payload.metadata),
   ("spendingAuthSig", required payload.spendingAuthSig),
   ("reserveSalt", optional payload.reserveSalt),
   ("reserveMaxAmount", optional payload.reserveMaxAmount),
   ("reserveDeadline", payload.reserveDeadline.map (.ofNumber numbers)),
   ("reserveBatch", payload.reserveBatch.map fun batch => .object (present (batch.fields numbers))),
   ("oneOffRequestId", optional payload.oneOffRequestId)]

def AuthAckPayload.fields (payload : AuthAckPayload) : Fields ν := [("channelId", required payload.channelId)]

def FreeUsageOpenPayload.fields (payload : FreeUsageOpenPayload ν) : Fields ν :=
  [("channelId", required payload.channelId),
   ("salt", required payload.salt),
   ("deadline", some (.ofNumber numbers payload.deadline)),
   ("openSig", required payload.openSig),
   ("freeTierDelegations", optional payload.freeTierDelegations)]

def FreeUsageAuthPayload.fields (payload : FreeUsageAuthPayload ν) : Fields ν :=
  [("channelId", required payload.channelId),
   ("cumulativeInputTokens", required payload.cumulativeInputTokens),
   ("cumulativeOutputTokens", required payload.cumulativeOutputTokens),
   ("sequence", required payload.sequence),
   ("metadataHash", required payload.metadataHash),
   ("metadata", required payload.metadata),
   ("deadline", some (.ofNumber numbers payload.deadline)),
   ("usageSig", required payload.usageSig)]

def FreeUsageAckPayload.fields (payload : FreeUsageAckPayload) : Fields ν :=
  [("channelId", required payload.channelId), ("acceptedSequence", optional payload.acceptedSequence)]

def NeedFreeUsageAuthPayload.fields (payload : NeedFreeUsageAuthPayload) : Fields ν :=
  [("channelId", required payload.channelId),
   ("requiredSequence", required payload.requiredSequence),
   ("currentAcceptedSequence", required payload.currentAcceptedSequence),
   ("requestId", optional payload.requestId),
   ("inputTokens", optional payload.inputTokens),
   ("outputTokens", optional payload.outputTokens),
   ("service", optional payload.service)]

def OneOffChannelPlan.fields (plan : OneOffChannelPlan) : Fields ν :=
  [("openingReserveAmount", required plan.openingReserveAmount),
   ("requiredCumulativeAmount", required plan.requiredCumulativeAmount),
   ("requestCost", required plan.requestCost)]

def PaymentRequiredPayload.fields (payload : PaymentRequiredPayload ν) : Fields ν :=
  [("minBudgetPerRequest", required payload.minBudgetPerRequest),
   ("suggestedAmount", required payload.suggestedAmount),
   ("requestId", required payload.requestId),
   ("inputUsdPerMillion", payload.inputUsdPerMillion.map (.ofNumber numbers)),
   ("outputUsdPerMillion", payload.outputUsdPerMillion.map (.ofNumber numbers)),
   ("cachedInputUsdPerMillion", payload.cachedInputUsdPerMillion.map (.ofNumber numbers)),
   ("requiredCumulativeAmount", optional payload.requiredCumulativeAmount),
   ("currentSpent", optional payload.currentSpent),
   ("currentAcceptedCumulative", optional payload.currentAcceptedCumulative),
   ("channelId", optional payload.channelId),
   ("reserveMaxAmount", optional payload.reserveMaxAmount),
   ("code", optional (payload.code.map fun code => ofString code.text)),
   ("oneOffPlan", payload.oneOffPlan.map fun plan => .object (present plan.fields))]

def UnitBillingUsageReportV1.counts (report : UnitBillingUsageReportV1) : Fields ν :=
  UNIT_BILLING_UNITS_V1.map fun unit => (unit.text, optional (report.units unit))

def UnitBillingUsageReportV1.fields (report : UnitBillingUsageReportV1) : Fields ν :=
  [("version", version1 numbers), ("units", some (.object (present report.counts)))]

def NeedAuthPayload.fields (payload : NeedAuthPayload) : Fields ν :=
  [("channelId", required payload.channelId),
   ("requiredCumulativeAmount", required payload.requiredCumulativeAmount),
   ("currentAcceptedCumulative", required payload.currentAcceptedCumulative),
   ("deposit", required payload.deposit),
   ("requestId", optional payload.requestId),
   ("lastRequestCost", optional payload.lastRequestCost),
   ("inputTokens", optional payload.inputTokens),
   ("outputTokens", optional payload.outputTokens),
   ("cachedInputTokens", optional payload.cachedInputTokens),
   ("freshInputTokens", optional payload.freshInputTokens),
   ("service", optional payload.service),
   ("billingUsage", payload.billingUsage.map fun report => .object (present (report.fields numbers)))]

def CloseChannelRequestPayload.fields (payload : CloseChannelRequestPayload) : Fields ν :=
  [("version", version1 numbers),
   ("channelId", required payload.channelId),
   ("cumulativeAmount", optional payload.cumulativeAmount),
   ("metadataHash", optional payload.metadataHash),
   ("metadata", optional payload.metadata),
   ("spendingAuthSig", optional payload.spendingAuthSig)]

def CloseChannelResultPayload.fields (payload : CloseChannelResultPayload ν) : Fields ν :=
  [("version", version1 numbers),
   ("channelId", required payload.channelId),
   ("status", required (ofString payload.status.text)),
   ("txHash", optional payload.txHash),
   ("finalAmount", optional payload.finalAmount),
   ("code", optional (payload.code.map fun code => ofString code.text)),
   ("reason", optional payload.reason),
   ("retryAfterMs", payload.retryAfterMs.map (.ofNumber numbers)),
   ("requiredCumulativeAmount", optional payload.requiredCumulativeAmount)]

def PaymentPayload.fields : PaymentPayload ν → Fields ν
  | .spendingAuth payload => payload.fields numbers
  | .authAck payload => payload.fields
  | .freeUsageOpen payload => payload.fields numbers
  | .freeUsageAuth payload => payload.fields numbers
  | .freeUsageAck payload => payload.fields
  | .needFreeUsageAuth payload => payload.fields
  | .paymentRequired payload => payload.fields numbers
  | .needAuth payload => payload.fields numbers
  | .closeChannelRequest payload => payload.fields numbers
  | .closeChannelResult payload => payload.fields numbers

/-- `encoder.encode(JSON.stringify(payload))` -/
def encodeJson (fields : Fields ν) : List UInt8 :=
  Utf8.encodeChars (stringify numbers (.object (present fields)))

def encodePaymentJson (fields : Fields ν) : Except PaymentError (List UInt8) :=
  let bytes := encodeJson numbers fields
  if bytes.length > MAX_PAYLOAD_SIZE then .error (.tooLarge bytes.length) else .ok bytes

def encodeSpendingAuth (payload : SpendingAuthPayload ν) := encodePaymentJson numbers (payload.fields numbers)
def encodeAuthAck (payload : AuthAckPayload) := encodePaymentJson numbers payload.fields
def encodeFreeUsageOpen (payload : FreeUsageOpenPayload ν) := encodePaymentJson numbers (payload.fields numbers)
def encodeFreeUsageAuth (payload : FreeUsageAuthPayload ν) := encodePaymentJson numbers (payload.fields numbers)
def encodeFreeUsageAck (payload : FreeUsageAckPayload) := encodePaymentJson numbers payload.fields
def encodeNeedFreeUsageAuth (payload : NeedFreeUsageAuthPayload) := encodePaymentJson numbers payload.fields
def encodePaymentRequired (payload : PaymentRequiredPayload ν) := encodePaymentJson numbers (payload.fields numbers)
def encodeNeedAuth (payload : NeedAuthPayload) := encodePaymentJson numbers (payload.fields numbers)
def encodeCloseChannelRequest (payload : CloseChannelRequestPayload) :=
  encodePaymentJson numbers (payload.fields numbers)
def encodeCloseChannelResult (payload : CloseChannelResultPayload ν) :=
  encodePaymentJson numbers (payload.fields numbers)

def encode : PaymentPayload ν → Except PaymentError (List UInt8)
  | .spendingAuth payload => encodeSpendingAuth numbers payload
  | .authAck payload => encodeAuthAck numbers payload
  | .freeUsageOpen payload => encodeFreeUsageOpen numbers payload
  | .freeUsageAuth payload => encodeFreeUsageAuth numbers payload
  | .freeUsageAck payload => encodeFreeUsageAck numbers payload
  | .needFreeUsageAuth payload => encodeNeedFreeUsageAuth numbers payload
  | .paymentRequired payload => encodePaymentRequired numbers payload
  | .needAuth payload => encodeNeedAuth numbers payload
  | .closeChannelRequest payload => encodeCloseChannelRequest numbers payload
  | .closeChannelResult payload => encodeCloseChannelResult numbers payload

end Encoders

/-! ## Decoders -/

section Decoders

variable {ν : Type} (numbers : JsNumbers ν)

abbrev Members (ν : Type) : Type := List (JsString × Json ν)

def asString : Json ν → Option JsString
  | .string text => some text
  | _ => none

def asNumber : Json ν → Option ν
  | .number value => some value
  | _ => none

/-- The members of what `typeof` calls an object; an array has none with a name. -/
def asRecord : Json ν → Option (Members ν)
  | .object members => some members
  | .array _ => some []
  | _ => none

def parsePaymentJson (data : List UInt8) : Except PaymentError (Members ν) :=
  if data.length > MAX_PAYLOAD_SIZE then .error (.tooLarge data.length)
  else
    match parse numbers (Utf8.decode data).toList with
    | some (.object members) => .ok members
    | some _ => .error .notObject
    | none => .error .malformed

def nonempty (field : String) : Option JsString → Except PaymentError JsString
  | some text => if text = [] then .error (.missing field) else .ok text
  | none => .error (.missing field)

section

variable (obj : Members ν)

def requireStringField (field : String) : Except PaymentError JsString :=
  nonempty field ((get field obj).bind asString)

def requireFiniteNumberField (field : String) : Except PaymentError ν := do
  let value ← match (get field obj).bind asNumber with
    | some value => .ok value
    | none => numbers.ofText <$> requireStringField obj field
  if numbers.isFinite value then return value else .error (.notFinite field)

def optionalString (field : String) : Option JsString := (get field obj).bind asString
def optionalNumber (field : String) : Option ν := (get field obj).bind asNumber

def optionally {α β : Type} (read : α → Except PaymentError β) : Option α → Except PaymentError (Option β)
  | none => .ok none
  | some part => some <$> read part

def ReserveBatch.ofMembers (batch : Members ν) : Except PaymentError (ReserveBatch ν) := do
  return {
    cumulativeAmount := ← requireStringField batch "cumulativeAmount"
    metadataHash := ← requireStringField batch "metadataHash"
    metadata := ← requireStringField batch "metadata"
    spendingAuthSig := ← requireStringField batch "spendingAuthSig"
    maxAmount := ← requireStringField batch "maxAmount"
    deadline := ← requireFiniteNumberField numbers batch "deadline"
    reserveAuthSig := ← requireStringField batch "reserveAuthSig" }

def SpendingAuthPayload.ofMembers : Except PaymentError (SpendingAuthPayload ν) := do
  return {
    channelId := ← requireStringField obj "channelId"
    cumulativeAmount := ← requireStringField obj "cumulativeAmount"
    metadataHash := ← requireStringField obj "metadataHash"
    metadata := (optionalString obj "metadata").getD []
    spendingAuthSig := ← requireStringField obj "spendingAuthSig"
    reserveSalt := optionalString obj "reserveSalt"
    reserveMaxAmount := optionalString obj "reserveMaxAmount"
    reserveDeadline := optionalNumber obj "reserveDeadline"
    reserveBatch := ← optionally (ReserveBatch.ofMembers numbers) ((get "reserveBatch" obj).bind asRecord)
    oneOffRequestId := optionalString obj "oneOffRequestId" }

def AuthAckPayload.ofMembers : Except PaymentError AuthAckPayload := do
  return { channelId := ← requireStringField obj "channelId" }

def FreeUsageOpenPayload.ofMembers : Except PaymentError (FreeUsageOpenPayload ν) := do
  return {
    channelId := ← requireStringField obj "channelId"
    salt := ← requireStringField obj "salt"
    deadline := ← requireFiniteNumberField numbers obj "deadline"
    openSig := ← requireStringField obj "openSig"
    freeTierDelegations := optionalString obj "freeTierDelegations" }

def FreeUsageAuthPayload.ofMembers : Except PaymentError (FreeUsageAuthPayload ν) := do
  return {
    channelId := ← requireStringField obj "channelId"
    cumulativeInputTokens := ← requireStringField obj "cumulativeInputTokens"
    cumulativeOutputTokens := ← requireStringField obj "cumulativeOutputTokens"
    sequence := ← requireStringField obj "sequence"
    metadataHash := ← requireStringField obj "metadataHash"
    metadata := ← requireStringField obj "metadata"
    deadline := ← requireFiniteNumberField numbers obj "deadline"
    usageSig := ← requireStringField obj "usageSig" }

def FreeUsageAckPayload.ofMembers : Except PaymentError FreeUsageAckPayload := do
  return {
    channelId := ← requireStringField obj "channelId"
    acceptedSequence := optionalString obj "acceptedSequence" }

def NeedFreeUsageAuthPayload.ofMembers : Except PaymentError NeedFreeUsageAuthPayload := do
  return {
    channelId := ← requireStringField obj "channelId"
    requiredSequence := ← requireStringField obj "requiredSequence"
    currentAcceptedSequence := ← requireStringField obj "currentAcceptedSequence"
    requestId := optionalString obj "requestId"
    inputTokens := optionalString obj "inputTokens"
    outputTokens := optionalString obj "outputTokens"
    service := optionalString obj "service" }

def decodeOneOffChannelPlan (plan : Members ν) : Except PaymentError OneOffChannelPlan := do
  return {
    openingReserveAmount := ← requireStringField plan "openingReserveAmount"
    requiredCumulativeAmount := ← requireStringField plan "requiredCumulativeAmount"
    requestCost := ← requireStringField plan "requestCost" }

def PaymentRequiredPayload.ofMembers : Except PaymentError (PaymentRequiredPayload ν) := do
  return {
    minBudgetPerRequest := ← requireStringField obj "minBudgetPerRequest"
    suggestedAmount := ← requireStringField obj "suggestedAmount"
    requestId := ← requireStringField obj "requestId"
    inputUsdPerMillion := optionalNumber obj "inputUsdPerMillion"
    outputUsdPerMillion := optionalNumber obj "outputUsdPerMillion"
    cachedInputUsdPerMillion := optionalNumber obj "cachedInputUsdPerMillion"
    requiredCumulativeAmount := optionalString obj "requiredCumulativeAmount"
    currentSpent := optionalString obj "currentSpent"
    currentAcceptedCumulative := optionalString obj "currentAcceptedCumulative"
    channelId := optionalString obj "channelId"
    reserveMaxAmount := optionalString obj "reserveMaxAmount"
    code := (optionalString obj "code").bind (ofText PaymentRequiredCode.text PAYMENT_REQUIRED_CODES)
    oneOffPlan := ← optionally decodeOneOffChannelPlan ((get "oneOffPlan" obj).bind asRecord) }

/-! ### Billing usage -/

def isUnitBillingUnitV1 (unit : JsString) : Bool :=
  (ofText UnitBillingUnitV1.text UNIT_BILLING_UNITS_V1 unit).isSome

def isDigit (unit : UInt16) : Bool := 0x30 ≤ unit ∧ unit ≤ 0x39

/-- `/^(0|[1-9]\d*)$/` -/
def isCanonical : JsString → Bool
  | [] => false
  | first :: rest => (first = 0x30 ∧ rest = []) ∨ (first ≠ 0x30 ∧ isDigit first ∧ rest.all isDigit)

def decimal (text : JsString) : Nat := text.foldl (fun value digit => value * 10 + (digit.toNat - 0x30)) 0

def MAX_SAFE_INTEGER : Nat := 2 ^ 53 - 1

def parseUnitCount (text unit : JsString) : Except UsageFault Nat :=
  if ¬ isCanonical text then .error (.notCanonical unit)
  else if decimal text > MAX_SAFE_INTEGER then .error (.tooMany unit)
  else .ok (decimal text)

def countFaults (entry : JsString × Json ν) : List UsageFault :=
  (if isUnitBillingUnitV1 entry.1 then [] else [.unsupported entry.1]) ++
    match entry.2 with
    | .string text =>
      match parseUnitCount text entry.1 with
      | .error fault => [fault]
      | .ok _ => []
    | _ => [.notText entry.1]

def validateUnitBillingUsageReportV1 [DecidableEq ν] (report : Members ν) : List UsageFault :=
  if optionalNumber report "version" ≠ some numbers.one then [.notVersion1]
  else
    match get "units" report with
    | some (.object units) => units.flatMap countFaults
    | _ => [.unitsNotObject]

/-- The counts of a report that is in order. -/
def reportedUnits (report : Members ν) (unit : UnitBillingUnitV1) : Option JsString :=
  match get "units" report with
  | some (.object units) => optionalString units unit.text
  | _ => none

def UnitBillingUsageReportV1.ofMember [DecidableEq ν] : Json ν → Except PaymentError UnitBillingUsageReportV1
  | .object report =>
    match validateUnitBillingUsageReportV1 numbers report with
    | [] => .ok ⟨reportedUnits report⟩
    | faults => .error (.invalidUsage faults)
  | _ => .error .usageNotObject

def NeedAuthPayload.ofMembers [DecidableEq ν] (obj : Members ν) : Except PaymentError NeedAuthPayload := do
  return {
    channelId := ← requireStringField obj "channelId"
    requiredCumulativeAmount := ← requireStringField obj "requiredCumulativeAmount"
    currentAcceptedCumulative := ← requireStringField obj "currentAcceptedCumulative"
    deposit := ← requireStringField obj "deposit"
    requestId := optionalString obj "requestId"
    lastRequestCost := optionalString obj "lastRequestCost"
    inputTokens := optionalString obj "inputTokens"
    outputTokens := optionalString obj "outputTokens"
    cachedInputTokens := optionalString obj "cachedInputTokens"
    freshInputTokens := optionalString obj "freshInputTokens"
    service := optionalString obj "service"
    billingUsage := ← optionally (UnitBillingUsageReportV1.ofMember numbers) (get "billingUsage" obj) }

/-! ### Closing -/

def CloseChannelRequestPayload.ofMembers : Except PaymentError CloseChannelRequestPayload := do
  let channelId ← requireStringField obj "channelId"
  match optionalString obj "cumulativeAmount", optionalString obj "metadataHash", optionalString obj "metadata",
    optionalString obj "spendingAuthSig" with
  | some cumulativeAmount, some metadataHash, some metadata, some spendingAuthSig =>
    return ⟨channelId, some cumulativeAmount, some metadataHash, some metadata, some spendingAuthSig⟩
  -- a partial set would leave the seller unable to verify the signature
  | _, _, _, _ => return ⟨channelId, none, none, none, none⟩

def CloseChannelResultPayload.ofMembers : Except PaymentError (CloseChannelResultPayload ν) := do
  let status ← requireStringField obj "status"
  match ofText CloseChannelStatus.text CLOSE_CHANNEL_STATUSES status with
  | none => .error .invalidStatus
  | some status =>
    return {
      channelId := ← requireStringField obj "channelId"
      status
      txHash := optionalString obj "txHash"
      finalAmount := optionalString obj "finalAmount"
      code := (optionalString obj "code").bind (ofText CloseChannelRejectCode.text CLOSE_CHANNEL_REJECT_CODES)
      reason := optionalString obj "reason"
      retryAfterMs := (optionalNumber obj "retryAfterMs").filter numbers.isFinite
      requiredCumulativeAmount := optionalString obj "requiredCumulativeAmount" }

end

/-! ### From bytes -/

section

variable (data : List UInt8)

def decodeSpendingAuth := parsePaymentJson numbers data >>= SpendingAuthPayload.ofMembers numbers
def decodeAuthAck := parsePaymentJson numbers data >>= AuthAckPayload.ofMembers
def decodeFreeUsageOpen := parsePaymentJson numbers data >>= FreeUsageOpenPayload.ofMembers numbers
def decodeFreeUsageAuth := parsePaymentJson numbers data >>= FreeUsageAuthPayload.ofMembers numbers
def decodeFreeUsageAck := parsePaymentJson numbers data >>= FreeUsageAckPayload.ofMembers
def decodeNeedFreeUsageAuth :=
  parsePaymentJson numbers data >>= NeedFreeUsageAuthPayload.ofMembers
def decodePaymentRequired := parsePaymentJson numbers data >>= PaymentRequiredPayload.ofMembers
def decodeNeedAuth [DecidableEq ν] (data : List UInt8) :=
  parsePaymentJson numbers data >>= NeedAuthPayload.ofMembers numbers
def decodeCloseChannelRequest :=
  parsePaymentJson numbers data >>= CloseChannelRequestPayload.ofMembers
def decodeCloseChannelResult :=
  parsePaymentJson numbers data >>= CloseChannelResultPayload.ofMembers numbers

end

/-- Reads the message with the decoder of the payload's own type. -/
def decodeLike [DecidableEq ν] (data : List UInt8) : PaymentPayload ν → Except PaymentError (PaymentPayload ν)
  | .spendingAuth _ => .spendingAuth <$> decodeSpendingAuth numbers data
  | .authAck _ => .authAck <$> decodeAuthAck numbers data
  | .freeUsageOpen _ => .freeUsageOpen <$> decodeFreeUsageOpen numbers data
  | .freeUsageAuth _ => .freeUsageAuth <$> decodeFreeUsageAuth numbers data
  | .freeUsageAck _ => .freeUsageAck <$> decodeFreeUsageAck numbers data
  | .needFreeUsageAuth _ => .needFreeUsageAuth <$> decodeNeedFreeUsageAuth numbers data
  | .paymentRequired _ => .paymentRequired <$> decodePaymentRequired numbers data
  | .needAuth _ => .needAuth <$> decodeNeedAuth numbers data
  | .closeChannelRequest _ => .closeChannelRequest <$> decodeCloseChannelRequest numbers data
  | .closeChannelResult _ => .closeChannelResult <$> decodeCloseChannelResult numbers data

end Decoders

/-! ## What survives -/

section Fits

variable {ν : Type} (numbers : JsNumbers ν)

def Finite (x : Option ν) : Prop := ∀ value ∈ x, numbers.isFinite value

def ReserveBatch.Fits (batch : ReserveBatch ν) : Prop :=
  [] ∉ [batch.cumulativeAmount, batch.metadataHash, batch.metadata, batch.spendingAuthSig, batch.maxAmount,
    batch.reserveAuthSig] ∧ numbers.isFinite batch.deadline

def SpendingAuthPayload.Fits (payload : SpendingAuthPayload ν) : Prop :=
  [] ∉ [payload.channelId, payload.cumulativeAmount, payload.metadataHash, payload.spendingAuthSig] ∧
    Finite numbers payload.reserveDeadline ∧ ∀ batch ∈ payload.reserveBatch, batch.Fits numbers

def AuthAckPayload.Fits (payload : AuthAckPayload) : Prop := payload.channelId ≠ []

def FreeUsageOpenPayload.Fits (payload : FreeUsageOpenPayload ν) : Prop :=
  [] ∉ [payload.channelId, payload.salt, payload.openSig] ∧ numbers.isFinite payload.deadline

def FreeUsageAuthPayload.Fits (payload : FreeUsageAuthPayload ν) : Prop :=
  [] ∉ [payload.channelId, payload.cumulativeInputTokens, payload.cumulativeOutputTokens, payload.sequence,
    payload.metadataHash, payload.metadata, payload.usageSig] ∧ numbers.isFinite payload.deadline

def FreeUsageAckPayload.Fits (payload : FreeUsageAckPayload) : Prop := payload.channelId ≠ []

def NeedFreeUsageAuthPayload.Fits (payload : NeedFreeUsageAuthPayload) : Prop :=
  [] ∉ [payload.channelId, payload.requiredSequence, payload.currentAcceptedSequence]

def OneOffChannelPlan.Fits (plan : OneOffChannelPlan) : Prop :=
  [] ∉ [plan.openingReserveAmount, plan.requiredCumulativeAmount, plan.requestCost]

def PaymentRequiredPayload.Fits (payload : PaymentRequiredPayload ν) : Prop :=
  [] ∉ [payload.minBudgetPerRequest, payload.suggestedAmount, payload.requestId] ∧
    Finite numbers payload.inputUsdPerMillion ∧ Finite numbers payload.outputUsdPerMillion ∧
    Finite numbers payload.cachedInputUsdPerMillion ∧ ∀ plan ∈ payload.oneOffPlan, plan.Fits

def UnitBillingUsageReportV1.Fits (report : UnitBillingUsageReportV1) : Prop :=
  ∀ unit, ∀ text ∈ report.units unit, isCanonical text ∧ decimal text ≤ MAX_SAFE_INTEGER

def NeedAuthPayload.Fits (payload : NeedAuthPayload) : Prop :=
  [] ∉ [payload.channelId, payload.requiredCumulativeAmount, payload.currentAcceptedCumulative, payload.deposit] ∧
    ∀ report ∈ payload.billingUsage, report.Fits

/-- The parts of an authorization come all or none. -/
def CloseChannelRequestPayload.Fits (payload : CloseChannelRequestPayload) : Prop :=
  payload.channelId ≠ [] ∧
    (none ∉ [payload.cumulativeAmount, payload.metadataHash, payload.metadata, payload.spendingAuthSig] ∨
      [payload.cumulativeAmount, payload.metadataHash, payload.metadata, payload.spendingAuthSig]
        = [none, none, none, none])

def CloseChannelResultPayload.Fits (payload : CloseChannelResultPayload ν) : Prop :=
  payload.channelId ≠ [] ∧ Finite numbers payload.retryAfterMs

/-- The texts that a decoder requires are not empty, the numbers are finite, the counts of a billing report
are canonical and safe, and the parts of an authorization come all or none. -/
def PaymentPayload.Fits : PaymentPayload ν → Prop
  | .spendingAuth payload => payload.Fits numbers
  | .authAck payload => payload.Fits
  | .freeUsageOpen payload => payload.Fits numbers
  | .freeUsageAuth payload => payload.Fits numbers
  | .freeUsageAck payload => payload.Fits
  | .needFreeUsageAuth payload => payload.Fits
  | .paymentRequired payload => payload.Fits numbers
  | .needAuth payload => payload.Fits
  | .closeChannelRequest payload => payload.Fits
  | .closeChannelResult payload => payload.Fits numbers

end Fits

/-! ## Reading what was written -/

variable {status : CloseChannelStatus}

section Reading

variable {ν : Type} {numbers : JsNumbers ν}

section Field

variable {field : String} {fields : Fields ν} {text read : JsString} {x y : ν}

@[simp]
theorem bind_eq_ok {α β : Type} {part : Except PaymentError α} {next : α → Except PaymentError β} {result : β} :
    part >>= next = .ok result ↔ ∃ found, part = .ok found ∧ next found = .ok result := by
  cases part <;> simp [bind, Except.bind]

@[simp]
theorem nonempty_eq_ok : nonempty field (some text) = .ok read ↔ text ≠ [] ∧ text = read := by
  rw [nonempty]
  split
  next empty => simp [empty]
  next some_ => simp [some_]

@[simp]
theorem bind_required : (required text).bind (asString (ν := ν)) = some text := rfl

@[simp]
theorem bind_optional {text : Option JsString} : (optional text).bind (asString (ν := ν)) = text := by
  cases text <;> rfl

@[simp]
theorem asNumber_ofNumber : asNumber (.ofNumber numbers x) = if numbers.isFinite x then some x else none := by
  unfold ofNumber
  split <;> rfl

/-- A number that is not finite is gone. -/
@[simp]
theorem bind_ofNumber {x : Option ν} : (x.map (.ofNumber numbers)).bind asNumber = x.filter numbers.isFinite := by
  cases x with
  | none => rfl
  | some => simp [Option.filter]

theorem filter_eq_self {x : Option ν} : x.filter numbers.isFinite = x ↔ Finite numbers x := by
  cases x <;> simp [Finite]

theorem requireFiniteNumberField_eq_ok (field : String) (x : ν) (distinct : (fields.map fst).Nodup)
    (found : lookup field fields = some (.ofNumber numbers x)) :
    requireFiniteNumberField numbers (present fields) field = .ok y ↔ numbers.isFinite x ∧ x = y := by
  rw [requireFiniteNumberField, requireStringField, get_present distinct, found, ofNumber]
  by_cases finite : numbers.isFinite x
  · simp [finite, asNumber, bind, Except.bind, pure, Except.pure]
  · simp [finite, asNumber, asString, nonempty, bind, Except.bind]

theorem ofText_text {α : Type} {text : α → String} {values : List α} {value : α}
    (distinct : (values.map text).Nodup) (here : value ∈ values) :
    ofText text values (ofString (text value)) = some value := by
  unfold ofText
  have found := Keyed.get_of_mem distinct here
  simpa [Keyed.get, ofString_inj] using found

theorem optionally_eq_ok {α β : Type} {part : Option α} {write : α → β} {read : β → Except PaymentError α}
    {Good : α → Prop} (each : ∀ one, read (write one) = .ok one ↔ Good one) :
    optionally read (part.map write) = .ok part ↔ ∀ one ∈ part, Good one := by
  cases part with
  | none => simp [optionally]
  | some one =>
    simp only [Option.map_some, optionally, Option.mem_some_iff, forall_eq', ← each]
    cases read (write one) <;> simp [Functor.map, Except.map]

@[simp]
theorem bind_asRecord {α : Type} {part : Option α} {members : α → Members ν} :
    (part.map fun one => .object (members one)).bind asRecord = part.map members := by
  cases part <;> rfl

end Field

/-! ### Codes -/

@[simp]
theorem bind_paymentRequiredCode {code : Option PaymentRequiredCode} :
    (code.map fun code => ofString code.text).bind (ofText PaymentRequiredCode.text PAYMENT_REQUIRED_CODES)
      = code := by
  cases code with
  | none => rfl
  | some code => exact ofText_text (by decide) (by cases code <;> decide)

@[simp]
theorem bind_closeChannelRejectCode {code : Option CloseChannelRejectCode} :
    (code.map fun code => ofString code.text).bind
      (ofText CloseChannelRejectCode.text CLOSE_CHANNEL_REJECT_CODES) = code := by
  cases code with
  | none => rfl
  | some code => exact ofText_text (by decide) (by cases code <;> decide)

@[simp]
theorem ofText_closeChannelStatus :
    ofText CloseChannelStatus.text CLOSE_CHANNEL_STATUSES (ofString status.text) = some status :=
  ofText_text (by decide) (by cases status <;> decide)

theorem ofString_text_ne : ofString status.text ≠ [] := by
  cases status <;> decide

/-! ### Billing usage -/

section Usage

variable {report : UnitBillingUsageReportV1}

theorem mem_units (unit : UnitBillingUnitV1) : unit ∈ UNIT_BILLING_UNITS_V1 := by
  cases unit <;> decide

theorem distinct_counts : ((report.counts (ν := ν)).map fst).Nodup := by
  have texts : (report.counts (ν := ν)).map fst = UNIT_BILLING_UNITS_V1.map UnitBillingUnitV1.text := rfl
  rw [texts]
  decide

theorem distinct_report : ((report.fields numbers).map fst).Nodup := by simp [UnitBillingUsageReportV1.fields]

theorem reportedUnits_present : reportedUnits (present (report.fields numbers)) = report.units := by
  funext unit
  have found : lookup unit.text (report.counts (ν := ν)) = optional (report.units unit) := by cases unit <;> rfl
  rw [reportedUnits, get_present distinct_report]
  change optionalString (present report.counts) unit.text = _
  rw [optionalString, get_present distinct_counts, found, bind_optional]

theorem countFaults_eq_nil {unit : UnitBillingUnitV1} {text : JsString} :
    countFaults (ofString unit.text, (.string text : Json ν)) = []
      ↔ isCanonical text ∧ decimal text ≤ MAX_SAFE_INTEGER := by
  have known : isUnitBillingUnitV1 (ofString unit.text) := by
    rw [isUnitBillingUnitV1, ofText_text (by decide) (mem_units unit)]
    rfl
  simp only [countFaults, known, parseUnitCount]
  by_cases canonical : isCanonical text
  · by_cases small : decimal text ≤ MAX_SAFE_INTEGER
    · simp [canonical, small, Nat.not_lt.mpr small]
    · simp [canonical, small, Nat.lt_of_not_le small]
  · simp [canonical]

theorem validate_eq_nil [DecidableEq ν] (numbers : JsNumbers ν) :
    validateUnitBillingUsageReportV1 numbers (present (report.fields numbers)) = [] ↔ report.Fits := by
  have finite : numbers.isFinite numbers.one := by simp [JsNumbers.isFinite, numbers.text_one]
  have version : optionalNumber (present (report.fields numbers)) "version" = some numbers.one := by
    rw [optionalNumber, get_present distinct_report]
    change asNumber (.ofNumber numbers numbers.one) = _
    rw [asNumber_ofNumber, if_pos finite]
  have units : get "units" (present (report.fields numbers)) = some (.object (present report.counts)) :=
    get_present distinct_report
  rw [validateUnitBillingUsageReportV1, if_neg (by simp [version]), units]
  rw [List.flatMap_eq_nil_iff]
  constructor
  · intro faultless unit text here
    refine countFaults_eq_nil.mp (faultless _ (mem_present.mpr ⟨unit.text, .string text, ?_, rfl⟩))
    exact List.mem_map.mpr ⟨unit, mem_units unit, by rw [here]; rfl⟩
  · intro fits entry here
    obtain ⟨name, value, counted, rfl⟩ := mem_present.mp here
    obtain ⟨unit, -, same⟩ := List.mem_map.mp counted
    obtain ⟨rfl, written⟩ := mk.inj same
    obtain ⟨text, there, rfl⟩ := Option.map_eq_some_iff.mp written
    exact countFaults_eq_nil.mpr (fits unit text there)

theorem UnitBillingUsageReportV1.ofMember_present [DecidableEq ν] :
    ofMember numbers (.object (present (report.fields numbers))) = .ok report ↔ report.Fits := by
  rw [← validate_eq_nil numbers, ofMember, reportedUnits_present]
  split
  next faultless => simp [faultless]
  next faults => simpa using faults

end Usage

/-! ### Payloads -/

theorem ReserveBatch.ofMembers_present {batch : ReserveBatch ν} :
    ofMembers numbers (present (batch.fields numbers)) = .ok batch ↔ batch.Fits numbers := by
  have distinct : ((batch.fields numbers).map fst).Nodup := by simp [fields]
  have deadline (read : ν) := requireFiniteNumberField_eq_ok (y := read) "deadline" batch.deadline distinct rfl
  cases batch
  simp only [ofMembers, requireStringField, bind_eq_ok, deadline, get_present distinct]
  simp [fields, lookup, Fits, pure, Except.pure]
  tauto

theorem SpendingAuthPayload.ofMembers_present {payload : SpendingAuthPayload ν} :
    ofMembers numbers (present (payload.fields numbers)) = .ok payload ↔ payload.Fits numbers := by
  have distinct : ((payload.fields numbers).map fst).Nodup := by simp [fields]
  have batches (part : Option (ReserveBatch ν)) :
      optionally (ReserveBatch.ofMembers numbers) (part.map fun batch => present (batch.fields numbers))
        = .ok part ↔ ∀ batch ∈ part, batch.Fits numbers :=
    optionally_eq_ok fun _ => ReserveBatch.ofMembers_present
  cases payload
  simp only [ofMembers, requireStringField, optionalString, optionalNumber, get_present distinct]
  simp [fields, lookup, batches, filter_eq_self, Fits, pure, Except.pure]
  tauto

theorem AuthAckPayload.ofMembers_present {payload : AuthAckPayload} :
    ofMembers (present (payload.fields (ν := ν))) = .ok payload ↔ payload.Fits := by
  have distinct : ((payload.fields (ν := ν)).map fst).Nodup := by simp [fields]
  cases payload
  simp only [ofMembers, requireStringField, get_present distinct]
  simp [fields, lookup, Fits, pure, Except.pure]

theorem FreeUsageOpenPayload.ofMembers_present {payload : FreeUsageOpenPayload ν} :
    ofMembers numbers (present (payload.fields numbers)) = .ok payload ↔ payload.Fits numbers := by
  have distinct : ((payload.fields numbers).map fst).Nodup := by simp [fields]
  have deadline (read : ν) := requireFiniteNumberField_eq_ok (y := read) "deadline" payload.deadline distinct rfl
  cases payload
  simp only [ofMembers, requireStringField, optionalString, bind_eq_ok, deadline, get_present distinct]
  simp [fields, lookup, Fits, pure, Except.pure]
  tauto

theorem FreeUsageAuthPayload.ofMembers_present {payload : FreeUsageAuthPayload ν} :
    ofMembers numbers (present (payload.fields numbers)) = .ok payload ↔ payload.Fits numbers := by
  have distinct : ((payload.fields numbers).map fst).Nodup := by simp [fields]
  have deadline (read : ν) := requireFiniteNumberField_eq_ok (y := read) "deadline" payload.deadline distinct rfl
  cases payload
  simp only [ofMembers, requireStringField, bind_eq_ok, deadline, get_present distinct]
  simp [fields, lookup, Fits, pure, Except.pure]
  tauto

theorem FreeUsageAckPayload.ofMembers_present {payload : FreeUsageAckPayload} :
    ofMembers (present (payload.fields (ν := ν))) = .ok payload ↔ payload.Fits := by
  have distinct : ((payload.fields (ν := ν)).map fst).Nodup := by simp [fields]
  cases payload
  simp only [ofMembers, requireStringField, optionalString, get_present distinct]
  simp [fields, lookup, Fits, pure, Except.pure]

theorem NeedFreeUsageAuthPayload.ofMembers_present {payload : NeedFreeUsageAuthPayload} :
    ofMembers (present (payload.fields (ν := ν))) = .ok payload ↔ payload.Fits := by
  have distinct : ((payload.fields (ν := ν)).map fst).Nodup := by simp [fields]
  cases payload
  simp only [ofMembers, requireStringField, optionalString, get_present distinct]
  simp [fields, lookup, Fits, pure, Except.pure]

theorem OneOffChannelPlan.ofMembers_present {plan : OneOffChannelPlan} :
    decodeOneOffChannelPlan (present (plan.fields (ν := ν))) = .ok plan ↔ plan.Fits := by
  have distinct : ((plan.fields (ν := ν)).map fst).Nodup := by simp [fields]
  cases plan
  simp only [decodeOneOffChannelPlan, requireStringField, get_present distinct]
  simp [fields, lookup, Fits, pure, Except.pure]

theorem PaymentRequiredPayload.ofMembers_present {payload : PaymentRequiredPayload ν} :
    ofMembers (present (payload.fields numbers)) = .ok payload ↔ payload.Fits numbers := by
  have distinct : ((payload.fields numbers).map fst).Nodup := by simp [fields]
  have plans (part : Option OneOffChannelPlan) :
      optionally decodeOneOffChannelPlan (part.map fun plan => present (plan.fields (ν := ν)))
        = .ok part ↔ ∀ plan ∈ part, plan.Fits :=
    optionally_eq_ok fun _ => OneOffChannelPlan.ofMembers_present
  cases payload
  simp only [ofMembers, requireStringField, optionalString, optionalNumber, get_present distinct]
  simp [fields, lookup, plans, filter_eq_self, Fits, pure, Except.pure]
  tauto

theorem NeedAuthPayload.ofMembers_present [DecidableEq ν] {payload : NeedAuthPayload} :
    ofMembers numbers (present (payload.fields numbers)) = .ok payload ↔ payload.Fits := by
  have distinct : ((payload.fields numbers).map fst).Nodup := by simp [fields]
  have reports (part : Option UnitBillingUsageReportV1) :
      optionally (UnitBillingUsageReportV1.ofMember numbers)
        (part.map fun report => .object (present (report.fields numbers)))
        = .ok part ↔ ∀ report ∈ part, report.Fits :=
    optionally_eq_ok fun _ => UnitBillingUsageReportV1.ofMember_present
  cases payload
  simp only [ofMembers, requireStringField, optionalString, get_present distinct]
  simp [fields, lookup, reports, Fits, pure, Except.pure]
  tauto

theorem CloseChannelRequestPayload.ofMembers_present {payload : CloseChannelRequestPayload} :
    ofMembers (present (payload.fields numbers)) = .ok payload ↔ payload.Fits := by
  have distinct : ((payload.fields numbers).map fst).Nodup := by simp [fields]
  cases payload with
  | mk _ cumulativeAmount metadataHash metadata spendingAuthSig =>
    simp only [ofMembers, requireStringField, optionalString, get_present distinct]
    cases cumulativeAmount <;> cases metadataHash <;> cases metadata <;> cases spendingAuthSig <;>
      simp [fields, lookup, Fits, pure, Except.pure]

theorem CloseChannelResultPayload.ofMembers_present {payload : CloseChannelResultPayload ν} :
    ofMembers numbers (present (payload.fields numbers)) = .ok payload ↔ payload.Fits numbers := by
  have distinct : ((payload.fields numbers).map fst).Nodup := by simp [fields]
  cases payload
  simp only [ofMembers, requireStringField, optionalString, optionalNumber, get_present distinct]
  simp [fields, lookup, ofString_text_ne, filter_eq_self, Fits, pure, Except.pure]

/-! ### Messages -/

section Messages

variable {fields : Fields ν} {payload : PaymentPayload ν} {data : List UInt8}

/-- What stands in a field can be written. -/
def Writable (numbers : JsNumbers ν) (value : Option (Json ν)) : Prop := ∀ written ∈ value, Json.Sound numbers written

@[simp]
theorem writable_required : Writable numbers (required text) := by
  rintro _ ⟨⟩
  exact .string

@[simp]
theorem writable_optional : Writable numbers (optional text) := by
  intro written here
  obtain ⟨_, _, rfl⟩ := Option.map_eq_some_iff.mp here
  exact .string

@[simp]
theorem writable_number {x : Option ν} : Writable numbers (x.map (.ofNumber numbers)) := by
  intro written here
  obtain ⟨_, _, rfl⟩ := Option.map_eq_some_iff.mp here
  exact sound_ofNumber

@[simp]
theorem writable_some_number {x : ν} : Writable numbers (some (.ofNumber numbers x)) :=
  writable_number (x := some x)

theorem sound_fields (distinct : (fields.map fst).Nodup) (each : ∀ field ∈ fields, Writable numbers field.2) :
    Json.Sound numbers (.object (present fields)) :=
  sound_present distinct fun _ _ here => each _ here _ rfl

theorem writable_object {α : Type} {part : Option α} {parts : α → Fields ν}
    (distinct : ∀ one, ((parts one).map fst).Nodup)
    (each : ∀ one, ∀ field ∈ parts one, Writable numbers field.2) :
    Writable numbers (part.map fun one => .object (present (parts one))) := by
  intro written here
  obtain ⟨one, _, rfl⟩ := Option.map_eq_some_iff.mp here
  exact sound_fields (distinct one) (each one)

theorem writable_batch {part : Option (ReserveBatch ν)} :
    Writable numbers (part.map fun batch => .object (present (batch.fields numbers))) :=
  writable_object (fun _ => by simp [ReserveBatch.fields]) fun _ => by simp [ReserveBatch.fields]

theorem writable_plan {part : Option OneOffChannelPlan} :
    Writable numbers (part.map fun plan => .object (present plan.fields)) :=
  writable_object (fun _ => by simp [OneOffChannelPlan.fields]) fun _ => by simp [OneOffChannelPlan.fields]

theorem writable_report {part : Option UnitBillingUsageReportV1} :
    Writable numbers (part.map fun report => .object (present (report.fields numbers))) := by
  refine writable_object (fun _ => distinct_report) ?_
  intro report
  have counts : Writable numbers (some (.object (present report.counts))) := by
    rintro _ ⟨⟩
    exact sound_fields distinct_counts (by simp [UnitBillingUsageReportV1.counts])
  simp [UnitBillingUsageReportV1.fields, version1, counts]

theorem sound_payload : ((payload.fields numbers).map fst).Nodup ∧
    ∀ field ∈ payload.fields numbers, Writable numbers field.2 := by
  cases payload <;>
    simp [PaymentPayload.fields, SpendingAuthPayload.fields, AuthAckPayload.fields, FreeUsageOpenPayload.fields,
      FreeUsageAuthPayload.fields, FreeUsageAckPayload.fields, NeedFreeUsageAuthPayload.fields,
      PaymentRequiredPayload.fields, NeedAuthPayload.fields, CloseChannelRequestPayload.fields,
      CloseChannelResultPayload.fields, version1, writable_batch, writable_plan, writable_report]

theorem parsePaymentJson_encodeJson (small : (encodeJson numbers fields).length ≤ MAX_PAYLOAD_SIZE)
    (sound : Json.Sound numbers (.object (present fields))) :
    parsePaymentJson numbers (encodeJson numbers fields) = .ok (present fields) := by
  have text : (Utf8.decode (encodeJson numbers fields)).toList
      = stringify numbers (.object (present fields)) := by
    have unmarked : ¬ Utf8.IsMarked (String.ofList (stringify numbers (.object (present fields)))) := by
      rw [Utf8.IsMarked, String.toList_ofList, stringify]
      simp [Utf8.byteOrderMark]
    have read := Utf8.decode_encode unmarked
    rw [Utf8.encode, String.toList_ofList] at read
    rw [encodeJson, read, String.toList_ofList]
  rw [parsePaymentJson, if_neg (Nat.not_lt.mpr small), text, parse_stringify sound]

theorem map_eq_ok {α β : Type} {wrap : α → β} {part : Except PaymentError α} {one : α}
    (inj : ∀ {a b}, wrap a = wrap b → a = b) : wrap <$> part = .ok (wrap one) ↔ part = .ok one := by
  cases part with
  | error => simp [Functor.map, Except.map]
  | ok =>
    simp only [Functor.map, Except.map, Except.ok.injEq]
    exact ⟨inj, congrArg wrap⟩

theorem decodeLike_eq_ok [DecidableEq ν]
    (parsed : parsePaymentJson numbers data = .ok (present (payload.fields numbers))) :
    decodeLike numbers data payload = .ok payload ↔ payload.Fits numbers := by
  cases payload with
  | spendingAuth =>
    rw [decodeLike, decodeSpendingAuth, parsed, map_eq_ok PaymentPayload.spendingAuth.inj]
    exact SpendingAuthPayload.ofMembers_present
  | authAck =>
    rw [decodeLike, decodeAuthAck, parsed, map_eq_ok PaymentPayload.authAck.inj]
    exact AuthAckPayload.ofMembers_present
  | freeUsageOpen =>
    rw [decodeLike, decodeFreeUsageOpen, parsed, map_eq_ok PaymentPayload.freeUsageOpen.inj]
    exact FreeUsageOpenPayload.ofMembers_present
  | freeUsageAuth =>
    rw [decodeLike, decodeFreeUsageAuth, parsed, map_eq_ok PaymentPayload.freeUsageAuth.inj]
    exact FreeUsageAuthPayload.ofMembers_present
  | freeUsageAck =>
    rw [decodeLike, decodeFreeUsageAck, parsed, map_eq_ok PaymentPayload.freeUsageAck.inj]
    exact FreeUsageAckPayload.ofMembers_present
  | needFreeUsageAuth =>
    rw [decodeLike, decodeNeedFreeUsageAuth, parsed, map_eq_ok PaymentPayload.needFreeUsageAuth.inj]
    exact NeedFreeUsageAuthPayload.ofMembers_present
  | paymentRequired =>
    rw [decodeLike, decodePaymentRequired, parsed, map_eq_ok PaymentPayload.paymentRequired.inj]
    exact PaymentRequiredPayload.ofMembers_present
  | needAuth =>
    rw [decodeLike, decodeNeedAuth, parsed, map_eq_ok PaymentPayload.needAuth.inj]
    exact NeedAuthPayload.ofMembers_present
  | closeChannelRequest =>
    rw [decodeLike, decodeCloseChannelRequest, parsed, map_eq_ok PaymentPayload.closeChannelRequest.inj]
    exact CloseChannelRequestPayload.ofMembers_present
  | closeChannelResult =>
    rw [decodeLike, decodeCloseChannelResult, parsed, map_eq_ok PaymentPayload.closeChannelResult.inj]
    exact CloseChannelResultPayload.ofMembers_present

theorem encode_eq : encode numbers payload = encodePaymentJson numbers (payload.fields numbers) := by
  cases payload <;> rfl

/-- What is encoded is within the cap, and it is read back as it was if it fits; nothing else fails to be encoded
than what exceeds the cap. -/
theorem decode_encode_iff [DecidableEq ν] (payload : PaymentPayload ν) :
    match encode numbers payload with
    | .ok bytes =>
      bytes.length ≤ MAX_PAYLOAD_SIZE ∧ (decodeLike numbers bytes payload = .ok payload ↔ payload.Fits numbers)
    | .error _ => MAX_PAYLOAD_SIZE < (encodeJson numbers (payload.fields numbers)).length := by
  rw [encode_eq, encodePaymentJson]
  by_cases large : MAX_PAYLOAD_SIZE < (encodeJson numbers (payload.fields numbers)).length
  · simp only [gt_iff_lt, if_pos large]
    exact large
  · simp only [gt_iff_lt, if_neg large]
    have small := Nat.le_of_not_lt large
    exact ⟨small, decodeLike_eq_ok (parsePaymentJson_encodeJson small (sound_fields sound_payload.1 sound_payload.2))⟩

end Messages

end Reading

/-! ## A request without an id -/

/-- The numbers from 0 to 9, and `NaN` for all others. -/
def digits : JsNumbers (Option (Fin 10)) where
  text := Option.map fun digit => [hexDigit digit]
  ofLiteral chars := (List.finRange 10).find? fun digit => [hexDigit digit] = chars
  ofText text := (List.finRange 10).find? fun digit => units (hexDigit digit) = text
  one := some 1
  isLiteral_text := by
    intro x chars written
    obtain ⟨digit, rfl, rfl⟩ := Option.map_eq_some_iff.mp written
    revert digit
    decide
  ofLiteral_text := by
    intro x chars written
    obtain ⟨digit, rfl, rfl⟩ := Option.map_eq_some_iff.mp written
    revert digit
    decide
  text_one := by decide

/-- What the seller answers to a request with an empty id. -/
def withoutId : PaymentRequiredPayload (Option (Fin 10)) where
  minBudgetPerRequest := ofString "10000"
  suggestedAmount := ofString "100000"
  requestId := []
  inputUsdPerMillion := some (some 3)
  outputUsdPerMillion := none
  cachedInputUsdPerMillion := none
  requiredCumulativeAmount := none
  currentSpent := none
  currentAcceptedCumulative := none
  channelId := none
  reserveMaxAmount := none
  code := none
  oneOffPlan := none

/-- It is sent, and the buyer's decoder rejects it. -/
theorem withoutId_is_rejected : ∃ bytes, encodePaymentRequired digits withoutId = .ok bytes ∧
    bytes.length ≤ MAX_PAYLOAD_SIZE ∧ decodePaymentRequired digits bytes = .error (.missing "requestId") := by
  refine ⟨encodeJson digits (withoutId.fields digits), ?_⟩
  decide +kernel

end AntSeed.Protocol.PaymentCodec
