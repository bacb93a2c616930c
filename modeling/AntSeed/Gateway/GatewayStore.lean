import AntSeed.Gateway.Limits
import AntSeed.Lib.Keyed
import Mathlib.Algebra.Order.Group.Unbundled.Abs

/-! # The gateway's store

The keys, the request log, the ledger with the rollups that a trigger keeps, and the commitments of
accepted videos.
-/

namespace AntSeed.Gateway

open Keyed

def DEFAULT_BUYER_IDENTITY : String := "default"
def DEFAULT_WORKSPACE_ID : String := "ws_default"
def MAX_SAFE_INTEGER : Int := 2 ^ 53 - 1

inductive VideoProtocol where
  | veniceVideo
  | falVideo
  deriving DecidableEq, Repr

def VideoProtocol.name : VideoProtocol → String
  | .veniceVideo => "venice-video"
  | .falVideo => "fal-video"

def VENICE_CREATE_PATH : String := "/api/v1/video/queue"
def VENICE_DOWNLOAD_PATH : String := "/api/v1/video/retrieve"
def FAL_CREATE_PATH : String := "/fal/v1/video/queue"
def FAL_DOWNLOAD_PATH : String := "/fal/v1/video/retrieve"

def normalizedRequestPath (path : String) : String := String.ofList (path.toList.takeWhile (· ≠ '?'))

def detectNativeVideoProtocol (path : String) : Option VideoProtocol :=
  let path := normalizedRequestPath path
  if path = VENICE_CREATE_PATH ∨ path = VENICE_DOWNLOAD_PATH then some .veniceVideo
  else if path = FAL_CREATE_PATH ∨ path = FAL_DOWNLOAD_PATH then some .falVideo
  else none

def videoJobKey (protocol : VideoProtocol) (jobId : String) : String := protocol.name ++ "\n" ++ jobId

def videoReservationKey (tag : String) : String := "create\n" ++ tag

def isVideoReservationKey (key : String) : Bool := "create\n".toList.isPrefixOf key.toList

def reservedTag (key : String) : String := String.ofList (key.toList.drop (videoReservationKey "").length)

/-- The id that a job's key ends in. -/
def jobIdOf (job : String) : String := String.ofList ((job.toList.dropWhile (· ≠ '\n')).drop 1)

/-- The job that a logged request names. -/
def requestVideoJob (path : String) (jobId : Option String) : Option String :=
  (jobId.filter (· ≠ "")).bind fun jobId => (detectNativeVideoProtocol path).map fun protocol => videoJobKey protocol jobId

inductive VideoAction where
  | create
  | poll
  | delivery
  deriving DecidableEq, Repr

def isHexDigit (c : Char) : Bool := c.isDigit ∨ ('a' ≤ c ∧ c ≤ 'f') ∨ ('A' ≤ c ∧ c ≤ 'F')

def isLineEnd (c : Char) : Bool := c = '\n' ∨ c = '\r' ∨ c = '\u2028' ∨ c = '\u2029'

/-- A model that may be pinned to a seller, and that seller. -/
def splitPinnedModel (model : Option String) : Option String × Option String :=
  match model.filter (· ≠ "") with
  | none => (model, none)
  | some text =>
    let chars := text.toList
    let chars := if ['0', 'x'].isPrefixOf chars then chars.drop 2 else chars
    let peerId := chars.take 40
    match chars.drop 40 with
    | '@' :: rest =>
      if peerId.length = 40 ∧ peerId.all isHexDigit ∧ rest ≠ [] ∧ ¬ rest.any isLineEnd then
        (some (String.ofList rest), some (String.ofList peerId).toLower)
      else (model, none)
    | _ => (model, none)

inductive ApiKeyStatus where
  | active
  | revoked
  deriving DecidableEq, Repr

structure ApiKeyRecord where
  id : String
  status : ApiKeyStatus
  buyerIdentity : String
  workspaceId : String
  ownerMemberId : Option String
  limits : BudgetLimits
  ownerLimits : BudgetLimits
  deriving DecidableEq, Repr

structure MemberRecord where
  id : String
  limits : BudgetLimits
  deriving DecidableEq, Repr

structure WorkspaceRecord where
  id : String
  limits : BudgetLimits
  deriving DecidableEq, Repr

/-- What caps and rollups are about. -/
inductive BudgetScope where
  | key (keyId : String)
  | member (memberId : String)
  | workspace (workspaceId : String)
  deriving DecidableEq, Repr

/-- Whether something of a key, a member and a workspace counts against a scope. -/
def BudgetScope.covers (keyId : String) (memberId : Option String) (workspaceId : Option String) : BudgetScope → Bool
  | .key id => keyId = id
  | .member id => memberId = some id
  | .workspace id => workspaceId = some id

/-- A row of the request log. -/
structure GatewayRequest where
  tag : String
  keyId : String
  buyerIdentity : String
  path : String
  model : Option String
  startedAt : Int
  finishedAt : Option Int := none
  workspaceId : Option String
  memberId : Option String
  endUser : Option String
  videoAction : Option VideoAction := none
  videoJobId : Option String := none
  routerPeerId : Option String := none
  servedModel : Option String := none
  deriving DecidableEq, Repr

open GatewayRequest

inductive LedgerEntryKind where
  | spend
  | credit
  deriving DecidableEq, Repr

/-- A row of the ledger. Spend is negative. -/
structure LedgerEntry where
  kind : LedgerEntryKind
  keyId : String
  buyerIdentity : String
  amountUsdc : Int
  externalRef : String
  requestTag : Option String
  sellerPeerId : Option String
  inputTokens : Int
  cachedInputTokens : Int
  outputTokens : Int
  note : Option String
  createdAt : Int
  workspaceId : Option String
  memberId : Option String
  model : Option String
  endUser : Option String
  routingFee : Bool
  routerPeerId : Option String
  servedModel : Option String
  deriving DecidableEq, Repr

/-- An entry that is to be recorded. `memberId` is `none` where it is left out. -/
structure LedgerEntryInput where
  kind : LedgerEntryKind
  keyId : String
  buyerIdentity : String
  amountUsdc : Int
  externalRef : String
  requestTag : Option String := none
  sellerPeerId : Option String := none
  inputTokens : Option Int := none
  cachedInputTokens : Option Int := none
  outputTokens : Option Int := none
  note : Option String := none
  createdAt : Int
  workspaceId : Option String := none
  memberId : Option (Option String) := none
  model : Option String := none
  endUser : Option String := none
  routingFee : Bool := false
  deriving DecidableEq, Repr

structure VideoCommitmentRecord where
  job : String
  keyId : String
  memberId : Option String
  workspaceId : String
  amountUsdc : Int
  expiresAt : Int
  deliveredAt : Option Int
  deriving DecidableEq, Repr

structure SpendTotal where
  scope : BudgetScope
  totalUsdc : Int
  deriving DecidableEq, Repr

structure SpendDaily where
  scope : BudgetScope
  dayStart : Int
  amountUsdc : Int
  deriving DecidableEq, Repr

structure GatewayStore where
  keys : List ApiKeyRecord := []
  requests : List GatewayRequest := []
  ledger : List LedgerEntry := []
  spendTotals : List SpendTotal := []
  spendDaily : List SpendDaily := []
  videoCommitments : List VideoCommitmentRecord := []
  deriving DecidableEq, Repr

namespace GatewayStore

variable (store : GatewayStore)

def getKey (id : String) : Option ApiKeyRecord := get ApiKeyRecord.id id store.keys

structure GatewayRequestStart where
  tag : String
  keyId : String
  buyerIdentity : String
  path : String
  model : Option String
  startedAt : Int
  workspaceId : Option String := none
  memberId : Option String := none
  endUser : Option String := none
  video : Option (VideoAction × Option String) := none

def MAX_JOB_ID : Nat := 256
def MAX_SERVED_MODEL : Nat := 200

/-- `slice(0, length)` counts UTF-16 units; of a pair that it parts, U+FFFD is stored. -/
def sliceUnits : Nat → List Char → List Char
  | _, [] => []
  | length, char :: rest =>
    let units := if char.toNat < 0x10000 then 1 else 2
    if units ≤ length then char :: sliceUnits (length - units) rest
    else List.replicate length (Char.ofNat 0xFFFD)

def keptJobId (jobId : String) : String := String.ofList (sliceUnits MAX_JOB_ID jobId.toList)

def startRequest (input : GatewayRequestStart) : GatewayStore :=
  let key := store.getKey input.keyId
  { store with
    requests := store.requests ++ [{
      tag := input.tag
      keyId := input.keyId
      buyerIdentity := input.buyerIdentity
      path := input.path
      model := (splitPinnedModel input.model).1
      startedAt := input.startedAt
      workspaceId := input.workspaceId.or (key.map ApiKeyRecord.workspaceId)
      memberId := input.memberId.or (key.bind ApiKeyRecord.ownerMemberId)
      endUser := input.endUser
      videoAction := input.video.map Prod.fst
      videoJobId := (input.video.bind Prod.snd).map keptJobId }] }

def updateRequest (tag : String) (change : GatewayRequest → GatewayRequest) : GatewayStore :=
  { store with requests := store.requests.map fun row => if row.tag = tag then change row else row }

def finishRequest (tag : String) (now : Int) : GatewayStore :=
  store.updateRequest tag fun row => { row with finishedAt := some now }

/-- What an answer tells about its request. -/
structure RequestOutcome where
  endUser : Option String := none
  videoJobId : Option String := none
  videoDelivered : Bool := false
  routerPeerId : Option String := none
  servedModel : Option String := none

def keptServedModel (servedModel : String) : String := String.ofList (sliceUnits MAX_SERVED_MODEL servedModel.toList)

def recordRequestOutcome (tag : String) (outcome : RequestOutcome) : GatewayStore :=
  let routerPeerId := outcome.routerPeerId.map String.toLower
  let servedModel := outcome.servedModel.map keptServedModel
  let store := store.updateRequest tag fun row => { row with
    endUser := outcome.endUser.or row.endUser
    videoJobId := (outcome.videoJobId.map keptJobId).or row.videoJobId
    videoAction :=
      if outcome.videoDelivered ∧ row.videoAction = some .poll then some .delivery else row.videoAction
    routerPeerId := routerPeerId.or row.routerPeerId
    servedModel := servedModel.or row.servedModel }
  -- spend can reach the ledger before the answer names its router and the model it served
  { store with ledger := store.ledger.map fun entry =>
      if entry.requestTag = some tag then { entry with
        routerPeerId := entry.routerPeerId.or (routerPeerId.filter (· ≠ ""))
        servedModel := entry.servedModel.or
          (if entry.routingFee then none else servedModel.filter (· ≠ "")) }
      else entry }

def pruneRequests (before : Int) : GatewayStore :=
  { store with requests := store.requests.filter fun row => before ≤ row.startedAt }

def getRequest (tag : String) : Option GatewayRequest := get GatewayRequest.tag tag store.requests

end GatewayStore

/-- The job that a row names as a create, a poll or a delivery. -/
def GatewayRequest.videoJob (row : GatewayRequest) : Option String :=
  row.videoAction.bind fun _ => requestVideoJob row.path row.videoJobId

namespace GatewayStore

variable (store : GatewayStore)

def findRequest (tag : String) : Option GatewayRequest := store.getRequest tag

/-- The job that a logged create was accepted as. -/
def videoCreateJob (tag : String) : Option String :=
  ((store.getRequest tag).filter fun row => row.videoAction = some .create).bind fun row =>
    requestVideoJob row.path row.videoJobId

/-- Whether a request of a key names a job, whatever its protocol. -/
def namesJob (keyId jobId : String) (row : GatewayRequest) : Bool :=
  row.keyId = keyId ∧ row.videoJobId = some (keptJobId jobId)

def videoJobSpend (keyId jobId : String) : Int :=
  -((store.ledger.filter fun entry => entry.kind = .spend ∧
      (store.requests.filter (namesJob keyId jobId)).any fun row => entry.requestTag = some row.tag).map
    LedgerEntry.amountUsdc).sum

def videoJobDeliveredAt (keyId jobId : String) : Option Int :=
  ((store.requests.filter fun row => namesJob keyId jobId row ∧ row.videoAction = some .delivery).map fun row =>
    row.finishedAt.getD row.startedAt).min?

def spendForRequest (tag : String) : Int :=
  -((store.ledger.filter fun entry => entry.kind = .spend ∧ entry.requestTag = some tag).map LedgerEntry.amountUsdc).sum

/-- The scopes that an entry counts against. -/
def entryScopes (entry : LedgerEntry) : List BudgetScope :=
  .key entry.keyId :: (entry.memberId.map BudgetScope.member).toList ++
    (entry.workspaceId.map BudgetScope.workspace).toList

def addTotal (amountUsdc : Int) (totals : List SpendTotal) (scope : BudgetScope) : List SpendTotal :=
  let before := (get SpendTotal.scope scope totals).elim 0 SpendTotal.totalUsdc
  set SpendTotal.scope ⟨scope, before + amountUsdc⟩ totals

def addDaily (dayStart amountUsdc : Int) (daily : List SpendDaily) (scope : BudgetScope) : List SpendDaily :=
  let before := (get (fun row => (row.scope, row.dayStart)) (scope, dayStart) daily).elim 0 SpendDaily.amountUsdc
  set (fun row => (row.scope, row.dayStart)) ⟨scope, dayStart, before + amountUsdc⟩ daily

/-- The trigger on the ledger. -/
def rollUp (entry : LedgerEntry) : GatewayStore :=
  match entry.kind with
  | .credit => store
  | .spend => { store with
      spendTotals := (entryScopes entry).foldl (addTotal (-entry.amountUsdc)) store.spendTotals
      spendDaily := (entryScopes entry).foldl
        (addDaily (entry.createdAt.tdiv DAY_MS * DAY_MS) (-entry.amountUsdc)) store.spendDaily }

/-- The row that an input is recorded as. -/
def toEntry (input : LedgerEntryInput) : LedgerEntry :=
  let request := input.requestTag.bind store.findRequest
  let key := if request.isSome then none else store.getKey input.keyId
  {
    kind := input.kind
    keyId := input.keyId
    buyerIdentity := input.buyerIdentity
    amountUsdc := match input.kind with
      | .spend => -input.amountUsdc
      | .credit => input.amountUsdc
    externalRef := input.externalRef
    requestTag := input.requestTag
    sellerPeerId := input.sellerPeerId
    inputTokens := input.inputTokens.getD 0
    cachedInputTokens := input.cachedInputTokens.getD 0
    outputTokens := input.outputTokens.getD 0
    note := input.note
    createdAt := input.createdAt
    workspaceId := (input.workspaceId.or (request.bind workspaceId)).or (key.map ApiKeyRecord.workspaceId)
    memberId := input.memberId.getD (request.elim (key.bind ApiKeyRecord.ownerMemberId) memberId)
    model := (splitPinnedModel (input.model.or (request.bind model))).1
    endUser := input.endUser.or (request.bind endUser)
    routingFee := input.routingFee
    routerPeerId := (request.bind routerPeerId).or
      (if input.routingFee then input.sellerPeerId.map String.toLower else none)
    servedModel := if input.routingFee then none else request.bind servedModel }

inductive LedgerError where
  | notBaseUnits
  deriving DecidableEq, Repr

/-- Whether an entry is recorded: one with a reference that is known is not. -/
def recordLedgerEntry (input : LedgerEntryInput) : Except LedgerError (GatewayStore × Bool) :=
  if |input.amountUsdc| ≤ MAX_SAFE_INTEGER ∧ 0 ≤ input.amountUsdc then
    if store.ledger.any (·.externalRef = input.externalRef) then .ok (store, false)
    else
      let entry := store.toEntry input
      .ok (rollUp { store with ledger := store.ledger ++ [entry] } entry, true)
  else .error .notBaseUnits

def spendByPeriod (scope : BudgetScope) (now : Int) (periods : List BudgetPeriod) : BudgetSpend :=
  .of fun period =>
    if period ∉ periods then 0
    else match period with
      | .total => (get SpendTotal.scope scope store.spendTotals).elim 0 SpendTotal.totalUsdc
      | dated => ((store.spendDaily.filter fun row => row.scope = scope ∧ periodStart dated now ≤ row.dayStart).map
          SpendDaily.amountUsdc).sum

/-- Reading the commitments deletes those that have expired. -/
def dropExpiredCommitments (now : Int) : GatewayStore :=
  { store with videoCommitments := store.videoCommitments.filter fun record => now < record.expiresAt }

/-- A commitment takes the place of that of its job and, with `replaces`, of another. -/
def saveVideoCommitment (record : VideoCommitmentRecord) (replaces : Option String) : GatewayStore :=
  let kept := erase VideoCommitmentRecord.job record.job store.videoCommitments ++ [record]
  match replaces with
  | some replaced =>
    if replaced ≠ record.job then
      { store with videoCommitments := erase VideoCommitmentRecord.job replaced kept }
    else { store with videoCommitments := kept }
  | none => { store with videoCommitments := kept }

def deleteVideoCommitment (job : String) : GatewayStore :=
  { store with videoCommitments := erase VideoCommitmentRecord.job job store.videoCommitments }

end GatewayStore

end AntSeed.Gateway
