import AntSeed.Gateway.GatewayStore
import AntSeed.Gateway.SpendAttribution

/-! # Holds, commitments and the ledger

A request is admitted against the caps of its key, the key's owner and their workspace. What it may
cost is held until it is over, the price of an accepted video until it is charged, and what the
buyer reports goes into the ledger.
-/

namespace AntSeed.Gateway

open VideoCommitmentRecord

def DELIVERY_CHARGE_WAIT_MS : Int := 60 * 60 * 1000

structure GatewayAccountingOptions where
  holdUsdc : Int
  maxVideoRequestUsdc : Int := 5000000
  settleGraceMs : Int := 60000
  videoCommitmentMs : Int := 30 * 24 * 60 * 60000

structure Hold where
  keyId : String
  memberId : Option String
  workspaceId : String
  amountUsdc : Int
  finished : Bool := false
  /-- when it is deleted, once the response is over -/
  timer : Option Int := none
  reserved : Bool := false
  videoCreate : Bool := false
  videoJob : Option String := none
  deriving DecidableEq, Repr

/-- A write of a commitment that has failed, or of a deletion. -/
structure PendingVideoWrite where
  job : String
  record : Option VideoCommitmentRecord
  replaces : Option String
  deriving DecidableEq, Repr

/-- Which of the next accesses to the store fail, after which none does. -/
structure Faults where
  writes : List Bool := []
  unreadableKeys : List String := []
  unreadableSpend : Bool := false
  deriving DecidableEq, Repr

structure GatewayAccounting where
  store : GatewayStore
  faults : Faults := {}
  holds : List (String × Hold) := []
  videoCommitments : List VideoCommitmentRecord := []
  pendingVideoWrites : List PendingVideoWrite := []
  videoCommitmentsLoaded : Bool := false
  deriving DecidableEq, Repr

structure KeyContext where
  member : Option MemberRecord
  workspace : Option WorkspaceRecord

structure BudgetCheck where
  level : BudgetLevel
  limits : BudgetLimits
  scope : BudgetScope

inductive Refusal where
  | videoStorage
  | videoPricing
  deriving DecidableEq, Repr

inductive Admission where
  | ok (tag : String) (remainingUsdc : Option Int)
  | breach (breach : LimitBreach)
  | refused (reason : Refusal)
  deriving DecidableEq, Repr

structure AdmitOptions where
  videoCreate : Bool := false
  videoJob : Option String := none

/-- The stricter of two caps. -/
def lowerCap (a b : Option Int) : Option Int :=
  match a, b with
  | none, b => b
  | a, none => a
  | some a, some b => some (min a b)

def effectiveKeyLimits (key : ApiKeyRecord) : BudgetLimits :=
  .of fun period => lowerCap (key.limits.get period) (key.ownerLimits.get period)

namespace GatewayAccounting

section

variable (a : GatewayAccounting)

def getHold (tag : String) : Option Hold := (Keyed.get Prod.fst tag a.holds).map Prod.snd

def setHold (tag : String) (hold : Hold) : GatewayAccounting :=
  { a with holds := Keyed.set Prod.fst (tag, hold) a.holds }

def getCommitment (job : String) : Option VideoCommitmentRecord :=
  Keyed.get VideoCommitmentRecord.job job a.videoCommitments

def write (change : GatewayStore → GatewayStore) : GatewayAccounting × Bool :=
  match a.faults.writes with
  | true :: later => ({ a with faults.writes := later }, false)
  | false :: later => ({ a with faults.writes := later, store := change a.store }, true)
  | [] => ({ a with store := change a.store }, true)

def storing (job : String) (record : Option VideoCommitmentRecord) (replaces : Option String) (store : GatewayStore) :
    GatewayStore :=
  match record with
  | some record => store.saveVideoCommitment record replaces
  | none => store.deleteVideoCommitment job

/-- A write that fails is kept, to be tried again. -/
def storeVideo (job : String) (record : Option VideoCommitmentRecord)
    (replaces : Option String := none) : GatewayAccounting :=
  let a := { a with pendingVideoWrites := Keyed.erase PendingVideoWrite.job job a.pendingVideoWrites }
  let (a, stored) := a.write (storing job record replaces)
  if stored then a
  else { a with pendingVideoWrites := a.pendingVideoWrites ++ [⟨job, record, replaces⟩] }

def setVideoHeld (commitment : VideoCommitmentRecord) (amountUsdc : Int) : GatewayAccounting :=
  let commitment := { commitment with amountUsdc }
  storeVideo { a with videoCommitments := Keyed.set job commitment a.videoCommitments }
    commitment.job (some commitment)

def forgetVideo (job : String) : GatewayAccounting :=
  storeVideo { a with videoCommitments := Keyed.erase VideoCommitmentRecord.job job a.videoCommitments } job none

/-- A create that ended without a job. -/
def videoNotAccepted (tag : String) : GatewayAccounting :=
  match a.getHold tag with
  | some hold =>
    if hold.reserved then
      (a.setHold tag { hold with reserved := false, videoCreate := false }).storeVideo (videoReservationKey tag) none
    else a
  | none => a

/-- A create was accepted as a job of this price. -/
def commitVideo (o : GatewayAccountingOptions) (a : GatewayAccounting) (now : Int) (tag job : String)
    (amountUsdc : Int) : GatewayAccounting :=
  match a.getHold tag with
  | none => a
  | some hold =>
    -- the job of another key keeps its owner
    if (a.getCommitment job).any fun existing => existing.keyId ≠ hold.keyId ∧ now < existing.expiresAt then
      a.videoNotAccepted tag
    else
      let spent := if a.faults.unreadableSpend then 0 else a.store.spendForRequest tag
      let commitment : VideoCommitmentRecord := {
        job
        keyId := hold.keyId
        memberId := hold.memberId
        workspaceId := hold.workspaceId
        amountUsdc := max 0 (amountUsdc - spent)
        expiresAt := now + o.videoCommitmentMs
        deliveredAt := none }
      let a := { a with videoCommitments := Keyed.set VideoCommitmentRecord.job commitment a.videoCommitments }
      let a := a.storeVideo job (some commitment) (if hold.reserved then some (videoReservationKey tag) else none)
      a.setHold tag { hold with reserved := false, videoCreate := false }

def videoJobOwner (now : Int) (job : String) : Option String :=
  ((a.getCommitment job).filter fun commitment => now < commitment.expiresAt).map keyId

def videoJobHeldUsdc (job : String) : Int :=
  (a.getCommitment job).elim 0 amountUsdc

def dropVideo (job : String) : GatewayAccounting :=
  if (a.getCommitment job).isSome then a.forgetVideo job else a

def videoDelivered (now : Int) (job : String) : GatewayAccounting :=
  match (a.getCommitment job).filter fun commitment => commitment.deliveredAt.isNone with
  | some commitment =>
    let commitment := { commitment with deliveredAt := some now }
    storeVideo { a with videoCommitments := Keyed.set VideoCommitmentRecord.job commitment a.videoCommitments } job
      (some commitment)
  | none => a

def videoCharged (job : String) (amountUsdc : Int) : GatewayAccounting :=
  match (a.getCommitment job).filter fun commitment => commitment.amountUsdc ≠ 0 with
  | some commitment => a.setVideoHeld commitment (max 0 (commitment.amountUsdc - amountUsdc))
  | none => a

end

/-- One stored row: a commitment is taken over, a reservation becomes the commitment of the job that the
    request log names, or goes. False if a write fails. -/
def loadRow (stored : List String) (a : GatewayAccounting) (row : VideoCommitmentRecord) :
    GatewayAccounting × List String × Bool :=
  if isVideoReservationKey row.job = false then
    if (a.getCommitment row.job).isNone ∧ (Keyed.get PendingVideoWrite.job row.job a.pendingVideoWrites).isNone then
      ({ a with videoCommitments := a.videoCommitments ++ [row] }, stored, true)
    else (a, stored, true)
  else
    match (a.store.videoCreateJob (reservedTag row.job)).filter fun created =>
        created ∉ stored ∧ (a.getCommitment created).isNone with
    | none =>
      let (a, gone) := a.write (·.deleteVideoCommitment row.job)
      (a, stored, gone)
    | some created =>
      let jobId := jobIdOf created
      let recovered := { row with
        job := created
        amountUsdc := max 0 (row.amountUsdc - a.store.videoJobSpend row.keyId jobId)
        deliveredAt := a.store.videoJobDeliveredAt row.keyId jobId }
      let (a, saved) := a.write (·.saveVideoCommitment recovered (some row.job))
      if saved then ({ a with videoCommitments := a.videoCommitments ++ [recovered] }, created :: stored, true)
      else (a, stored, false)

/-- The rows until a write fails. -/
def loadRows : List String → GatewayAccounting → List VideoCommitmentRecord → GatewayAccounting × Bool
  | _, a, [] => (a, true)
  | stored, a, row :: rows =>
    match loadRow stored a row with
    | (a, stored, true) => loadRows stored a rows
    | (a, _, false) => (a, false)

section

variable (a : GatewayAccounting)

def loadVideoCommitments (now : Int) : GatewayAccounting :=
  let (a, listed) := a.write (·.dropExpiredCommitments now)
  if listed then
    let rows := a.store.videoCommitments
    let (a, all) := loadRows (rows.map job) a rows
    if all then { a with videoCommitmentsLoaded := true } else a
  else a

def construct (now : Int) (store : GatewayStore) (faults : Faults) : GatewayAccounting :=
  loadVideoCommitments { store, faults } now

/-- Whether all commitments are read and stored. A deletion that has failed does not count. -/
def videoCommitmentsReady (now : Int) : GatewayAccounting × Bool :=
  let a := if a.videoCommitmentsLoaded then a else a.loadVideoCommitments now
  let a := a.pendingVideoWrites.foldl (fun a pending => a.storeVideo pending.job pending.record pending.replaces) a
  (a, a.videoCommitmentsLoaded ∧ a.pendingVideoWrites.all fun pending => pending.record.isNone)

/-- Commitments that have expired go, and those that were delivered and not charged hold nothing. -/
def sweepVideo (now : Int) (a : GatewayAccounting) (commitment : VideoCommitmentRecord) : GatewayAccounting :=
  if commitment.expiresAt ≤ now then a.forgetVideo commitment.job
  else if 0 < commitment.amountUsdc ∧
      commitment.deliveredAt.any fun deliveredAt => DELIVERY_CHARGE_WAIT_MS ≤ now - deliveredAt then
    a.setVideoHeld commitment 0
  else a

def sweep (now : Int) : GatewayAccounting := a.videoCommitments.foldl (sweepVideo now) a

/-- A key that is revoked cannot retrieve its jobs any more. One that cannot be read counts as active. -/
def isActive (keyId : String) : Bool :=
  keyId ∈ a.faults.unreadableKeys ∨ ¬ (a.store.getKey keyId).any (·.status = .revoked)

def chargeable (commitment : VideoCommitmentRecord) : Bool :=
  commitment.deliveredAt.isSome ∨ a.holds.any fun entry => entry.2.videoJob = some commitment.job

def holdCounts (scope : BudgetScope) (withoutVideoCreates : Bool) (hold : Hold) : Bool :=
  scope.covers hold.keyId hold.memberId (some hold.workspaceId) ∧ ¬ (withoutVideoCreates ∧ hold.videoCreate)

def commitmentCounts (scope : BudgetScope) (excludeVideoJob : Option String)
    (commitment : VideoCommitmentRecord) : Bool :=
  some commitment.job ≠ excludeVideoJob ∧
    scope.covers commitment.keyId commitment.memberId (some commitment.workspaceId) ∧
    (a.isActive commitment.keyId ∨ a.chargeable commitment)

def heldOf (scope : BudgetScope) (excludeVideoJob : Option String) (withoutVideoCreates : Bool) :
    Int :=
  (((a.holds.map Prod.snd).filter (holdCounts scope withoutVideoCreates)).map Hold.amountUsdc).sum +
    ((a.videoCommitments.filter (a.commitmentCounts scope excludeVideoJob)).map amountUsdc).sum

def held (now : Int) (scope : BudgetScope) (excludeVideoJob : Option String)
    (withoutVideoCreates : Bool := false) : GatewayAccounting × Int :=
  let a := a.sweep now
  (a, a.heldOf scope excludeVideoJob withoutVideoCreates)

end

def budgetChecks (key : ApiKeyRecord) (context : KeyContext) : List BudgetCheck :=
  ⟨.key, effectiveKeyLimits key, .key key.id⟩ ::
    ((context.member.map fun member => ⟨.member, member.limits, .member member.id⟩).toList ++
      (context.workspace.map fun workspace => ⟨.workspace, workspace.limits, .workspace workspace.id⟩).toList)

/-- The least room that a level leaves. -/
def roomLeft (limits : BudgetLimits) (spent : BudgetSpend) (heldUsdc : Int) (periods : List BudgetPeriod)
    (remainingUsdc : Option Int) : Option Int :=
  periods.foldl (fun remainingUsdc period =>
    let room := (limits.get period).getD 0 - spent.get period - heldUsdc
    some (remainingUsdc.elim room (min · room))) remainingUsdc

/-- The levels one after the other: the room that is left, or why there is none. -/
def checkBudgets (now : Int) (excludeVideoJob : Option String) :
    GatewayAccounting → Option Int → List BudgetCheck → GatewayAccounting × Except Admission (Option Int)
  | a, remainingUsdc, [] => (a, .ok remainingUsdc)
  | a, remainingUsdc, check :: checks =>
    let periods := cappedPeriods check.limits
    if periods = [] then checkBudgets now excludeVideoJob a remainingUsdc checks
    else
      let spent := a.store.spendByPeriod check.scope now periods
      let (a, heldUsdc) := a.held now check.scope excludeVideoJob
      match findLimitBreach check.limits spent heldUsdc now with
      | some breach =>
        let (a, heldUsdc) := a.held now check.scope excludeVideoJob true
        -- the room that creates hold while they are priced comes back
        if (findLimitBreach check.limits spent heldUsdc now).isNone then (a, .error (.refused .videoPricing))
        else (a, .error (.breach { breach with level := some check.level }))
      | none => checkBudgets now excludeVideoJob a (roomLeft check.limits spent heldUsdc periods remainingUsdc) checks

/-- Whether the job is the key's own and still remembered. -/
def ownsJob (a : GatewayAccounting) (now : Int) (key : ApiKeyRecord) (videoJob : Option String) : Bool :=
  (videoJob.bind a.getCommitment).any fun own => own.keyId = key.id ∧ now < own.expiresAt

def admitRequest (o : GatewayAccountingOptions) (a : GatewayAccounting) (now : Int) (tag : String) (key : ApiKeyRecord)
    (context : KeyContext) (options : AdmitOptions) : GatewayAccounting × Admission :=
  if a.ownsJob now key options.videoJob then
    (a.setHold tag {
      keyId := key.id, memberId := key.ownerMemberId, workspaceId := key.workspaceId, amountUsdc := 0
      videoJob := options.videoJob }, .ok tag none)
  else
    match checkBudgets now options.videoJob a none (budgetChecks key context) with
    | (a, .error refusal) => (a, refusal)
    | (a, .ok remainingUsdc) =>
      let hold : Hold := {
        keyId := key.id, memberId := key.ownerMemberId, workspaceId := key.workspaceId, amountUsdc := o.holdUsdc }
      match if options.videoCreate then remainingUsdc else none with
      | none => (a.setHold tag hold, .ok tag remainingUsdc)
      | some room =>
        -- a create holds all the room that it is told about, and is stored before it is sent
        let allowance := min room o.maxVideoRequestUsdc
        let (a, stored) := a.write (·.saveVideoCommitment {
          job := videoReservationKey tag, keyId := key.id, memberId := key.ownerMemberId
          workspaceId := key.workspaceId, amountUsdc := allowance, expiresAt := now + o.videoCommitmentMs
          deliveredAt := none } none)
        if stored then
          (a.setHold tag { hold with amountUsdc := allowance, reserved := true, videoCreate := true },
            .ok tag (some allowance))
        else (a, .refused .videoStorage)

def release (a : GatewayAccounting) (tag : String) : GatewayAccounting :=
  { a with holds := Keyed.erase Prod.fst tag a.holds }

/-- The response is over; its hold is kept for spend that is signed late. -/
def finish (o : GatewayAccountingOptions) (a : GatewayAccounting) (now : Int) (tag : String) : GatewayAccounting :=
  match (a.getHold tag).filter fun hold => ¬ hold.finished with
  | some hold => a.setHold tag { hold with finished := true, timer := some (now + o.settleGraceMs) }
  | none => a

/-- A timer that is due goes off. -/
def timeout (a : GatewayAccounting) (now : Int) (tag : String) : GatewayAccounting :=
  if (a.getHold tag).any fun hold => hold.timer.any (· ≤ now) then a.release tag else a

section Ingest

-- `Number`, where it yields an integer
variable (number : String → Option Int)

def parseBaseUnits (value : String) : Int :=
  ((number value).filter fun amount => |amount| ≤ MAX_SAFE_INTEGER ∧ 0 ≤ amount).getD 0

def spendRef (bootId : String) (seq : Nat) : String := "spend:" ++ bootId ++ ":" ++ toString seq

def spendEntry (bootId : String) (event : AttributedSpendEvent) (request : GatewayRequest) : LedgerEntryInput where
  kind := .spend
  keyId := request.keyId
  buyerIdentity := request.buyerIdentity
  amountUsdc := parseBaseUnits number event.amountUsdc
  externalRef := spendRef bootId event.seq
  requestTag := some event.tag
  sellerPeerId := some event.sellerPeerId
  inputTokens := some (parseBaseUnits number event.inputTokens)
  cachedInputTokens := some (parseBaseUnits number event.cachedInputTokens)
  outputTokens := some (parseBaseUnits number event.outputTokens)
  createdAt := event.createdAt
  workspaceId := request.workspaceId
  memberId := some request.memberId
  model := request.model
  endUser := request.endUser
  routingFee := event.purpose = some .routing

/-- What an entry that was recorded changes: the commitment of its job and the hold of its request. -/
def settle (a : GatewayAccounting) (event : AttributedSpendEvent) (request : GatewayRequest) : GatewayAccounting :=
  let amountUsdc := parseBaseUnits number event.amountUsdc
  let a :=
    match request.videoJob with
    | some job => if event.requestId.isSome then a.videoCharged job amountUsdc else a
    | none => a
  match a.getHold event.tag with
  | some hold => a.setHold event.tag { hold with amountUsdc := max 0 (hold.amountUsdc - amountUsdc) }
  | none => a

/-- One event. False if its entry could not be written. -/
def ingestOne (bootId : String) (a : GatewayAccounting) (event : AttributedSpendEvent) : GatewayAccounting × Bool :=
  match (a.store.findRequest event.tag).filter fun request => request.buyerIdentity = event.buyerIdentity with
  | none => (a, true)
  | some request =>
    match a.store.recordLedgerEntry (spendEntry number bootId event request) with
    | .error _ => (a, false)
    | .ok (store, inserted) =>
      match a.write fun _ => store with
      | (a, false) => (a, false)
      | (a, true) => (if inserted then settle number a event request else a, true)

/-- The events until one could not be written. -/
def ingest (bootId : String) : GatewayAccounting → List AttributedSpendEvent → GatewayAccounting × Bool
  | a, [] => (a, true)
  | a, event :: events =>
    match ingestOne number bootId a event with
    | (a, true) => ingest bootId a events
    | (a, false) => (a, false)

end Ingest

end GatewayAccounting

end AntSeed.Gateway
