import AntSeed.Lib.Keyed
import AntSeed.Lib.Paused
import AntSeed.Protocol.OneOffPlan
import AntSeed.Buyer.Account

/-! # One-off channels of the buyer

A video is paid from a channel of its own. The manager keeps its channels, the
jobs they pay for and the requests that retrieve them in maps of their own,
and the channels and jobs in the store as well, where a new process finds them.

Messages to the seller, listeners and usage metadata are left out. A deed is
noted where it is done; no function of the source reads the notes.
-/

namespace AntSeed.Buyer.OneOff

open Async Protocol
open Keyed

/-- The parts of a video job's key; none of them holds the line feed that the source puts between them. -/
structure VideoJobKey where
  sellerPeerId : String
  protocol : String
  jobId : String
  deriving DecidableEq, Repr

def videoJobKey (sellerPeerId protocol jobId : String) : VideoJobKey := ⟨sellerPeerId.toLower, protocol, jobId⟩

inductive VideoAction where
  | create
  | retrieve
  deriving DecidableEq, Repr

structure NativeVideoFacts where
  protocol : String
  action : VideoAction
  duration : Option Nat
  deriving DecidableEq, Repr

inductive BillingRequestFacts where
  | video (video : NativeVideoFacts)
  /-- images and rankings -/
  | other
  deriving DecidableEq, Repr

/-- Counts by unit. -/
abbrev UnitBillingUsage := List (String × Nat)

def nativeVideoUnitUsage (video : NativeVideoFacts) : UnitBillingUsage :=
  if video.action = .create then [("video_generations", 1), ("video_seconds", video.duration.getD 0)] else []

/-- The units a seller reports, as texts. -/
abbrev UnitBillingUsageReport := List (String × String)

/-- A service's unit pricing for a request: whether a report is worth a cost, given what was delivered. -/
abbrev UnitPricing := UnitBillingUsageReport → UnitBillingUsage → Nat → Bool

/-- No positive cost is accepted before the buyer observed the delivery. -/
def validateUnitBillingUsage (pricing : UnitPricing) (report : UnitBillingUsageReport) (sellerCost : Nat) :
    Option UnitBillingUsage → Bool
  | some observedUsage => pricing report observedUsage sellerCost
  | none => sellerCost = 0

structure BuyerRequestBillingEntry where
  sellerPeerId : String
  requestFacts : Option BillingRequestFacts
  unitModel : Option UnitPricing
  /-- buyer-computed price of a video create -/
  estimatedCostUsdc : Option Nat
  observedUnitUsage : Option UnitBillingUsage := none

def BuyerRequestBillingEntry.videoFacts (entry : BuyerRequestBillingEntry) : Option NativeVideoFacts :=
  match entry.requestFacts with
  | some (.video video) => some video
  | some .other => none
  | none => none

def BuyerRequestBillingEntry.isVideoCreate (entry : BuyerRequestBillingEntry) : Bool :=
  entry.videoFacts.any (·.action = .create)

structure TrackedRequest where
  requestId : String
  entry : BuyerRequestBillingEntry
  /-- retrieves only: the one-off channel that pays for the job -/
  oneOffChannelId : Option String := none
  notDelivered : Bool := false

/-- An accepted job. -/
structure VideoJob where
  key : VideoJobKey
  entry : BuyerRequestBillingEntry
  oneOffChannelId : Option String

structure PersistedVideoJob where
  protocol : String
  jobId : String
  entry : BuyerRequestBillingEntry

structure OneOffChannelState where
  channelId : String
  sellerPeerId : String
  requestId : String
  price : Nat
  cumulative : Nat
  confirmed : Bool
  deriving DecidableEq, Repr

/-- A one-off row of the channel store. -/
structure StoredChannel where
  sessionId : String
  peerId : String
  oneOffRequestId : Option String
  authMax : Nat
  reserveMaxAmount : Nat
  active : Bool
  reserveAuthPending : Bool
  oneOffVideoJob : Option PersistedVideoJob

/-- A NeedAuth that waits for what was delivered. -/
structure Waiter where
  ticket : Nat
  requestId : String
  channelId : String
  deriving DecidableEq, Repr

/-- A channel as it was about to be opened. -/
structure Opening where
  channelId : String
  requestId : String
  plan : OneOffChannelPlan
  deriving DecidableEq, Repr

/-- What the buyer has done. -/
inductive Deed where
  /-- computed the price of a video create -/
  | priced (requestId : String) (price : Nat)
  /-- read the contract's limits -/
  | limits (firstSignCap topUpThresholdBps : Nat)
  | opening (opening : Opening)
  /-- kept a job as one that a channel pays for -/
  | bound (key : VideoJobKey) (channelId : String)
  /-- recorded that it received the finished video -/
  | received (key : VideoJobKey)
  /-- had the wallet sign -/
  | signed (message : Signed)
  deriving DecidableEq, Repr

structure State where
  requestBillingEntries : List TrackedRequest := []
  videoJobs : List VideoJob := []
  unsavedVideoDeliveries : List (VideoJobKey × String) := []
  oneOffChannels : List OneOffChannelState := []
  store : List StoredChannel := []
  waiters : List Waiter := []
  /-- waiters that were given an answer -/
  settled : List (Waiter × Option UnitBillingUsage) := []
  tickets : Nat := 0
  /-- the latest first -/
  deeds : List Deed := []

namespace State

variable (s : State)

section

variable (requestId : String)

def request : Option TrackedRequest :=
  get TrackedRequest.requestId requestId s.requestBillingEntries

def job (key : VideoJobKey) : Option VideoJob := get VideoJob.key key s.videoJobs

def channel (channelId : String) : Option OneOffChannelState :=
  get OneOffChannelState.channelId channelId s.oneOffChannels

/-- `_channelStore.getChannel` -/
def row (channelId : String) : Option StoredChannel := get StoredChannel.sessionId channelId s.store

def upsertChannel (row : StoredChannel) : State := { s with store := set StoredChannel.sessionId row s.store }

def note (deed : Deed) : State := { s with deeds := deed :: s.deeds }

def trackRequestBilling (entry : BuyerRequestBillingEntry) : State :=
  { s with requestBillingEntries :=
      Keyed.set TrackedRequest.requestId { requestId, entry } s.requestBillingEntries }

def clearRequestBilling : State :=
  { s with requestBillingEntries := s.requestBillingEntries.filter (·.requestId ≠ requestId) }

/-- Give all waiters of a request an answer. -/
def settle (usage : Option UnitBillingUsage) : State :=
  { s with
    waiters := s.waiters.filter (·.requestId ≠ requestId)
    settled := (s.waiters.filter (·.requestId = requestId)).map (·, usage) ++ s.settled }

def recordObservedUnitUsage (usage : UnitBillingUsage) : State :=
  let recorded := { s with requestBillingEntries := s.requestBillingEntries.map fun request : TrackedRequest =>
    if request.requestId = requestId then
      { request with entry := { request.entry with observedUnitUsage := some usage } }
    else request }
  recorded.settle requestId (some usage)

def noObservedUnitUsage : State :=
  let recorded := { s with requestBillingEntries := s.requestBillingEntries.map fun request : TrackedRequest =>
    if request.requestId = requestId then { request with notDelivered := true } else request }
  recorded.settle requestId none

end

def getOneOffChannelForRequest (sellerPeerId requestId : String) : Option String :=
  (s.oneOffChannels.find? fun state => state.sellerPeerId = sellerPeerId ∧ state.requestId = requestId).map
    (·.channelId)

def isOneOffChannelConfirmed (channelId : String) : Bool := (s.channel channelId).any (·.confirmed)

def retireOneOffChannel (channelId : String) : State :=
  match s.channel channelId with
  | none => s
  | some _ => { s with
      oneOffChannels := s.oneOffChannels.filter (·.channelId ≠ channelId)
      store := s.store.map fun row => if row.sessionId = channelId then { row with active := false } else row }

/-- `_persistVideoJob`, which may fail. -/
def persistVideoJob (channelId : String) (job : Option PersistedVideoJob) (saves : Bool) : State :=
  match s.row channelId with
  | none => s
  | some row => if saves then s.upsertChannel { row with oneOffVideoJob := job } else s

/-- Without the eviction of old jobs, which `forgetVideoJob` is for. -/
def trackVideoJob (sellerPeerId protocol jobId : String) (entry : BuyerRequestBillingEntry) (requestId : String)
    (saves : Bool) : State :=
  let oneOffChannelId := s.getOneOffChannelForRequest sellerPeerId requestId
  let key := videoJobKey sellerPeerId protocol jobId
  let tracked := { s with videoJobs := set VideoJob.key ⟨key, entry, oneOffChannelId⟩ s.videoJobs }
  match oneOffChannelId with
  | none => tracked
  | some channelId =>
    let bound := tracked.note (.bound key channelId)
    let stored := bound.persistVideoJob channelId (some ⟨protocol, jobId, entry⟩) saves
    match s.row channelId with
    | none => stored
    | some row => stored.note (.bound (videoJobKey row.peerId protocol jobId) channelId)

/-- A job grows too old, or there are too many; then its copy in the store goes too. -/
def forgetVideoJob (key : VideoJobKey) (saves : Bool) : State :=
  let forgotten := { s with videoJobs := s.videoJobs.filter (·.key ≠ key) }
  match (s.job key).bind (·.oneOffChannelId) with
  | none => forgotten
  | some channelId => forgotten.persistVideoJob channelId none saves

def trackVideoRetrieve (key : VideoJobKey) (requestId : String) : State :=
  match s.job key with
  | none => s
  | some job =>
    let tracked : TrackedRequest :=
      { requestId := requestId
        entry := { job.entry with observedUnitUsage := none }
        oneOffChannelId := job.oneOffChannelId }
    { s with requestBillingEntries := set TrackedRequest.requestId tracked s.requestBillingEntries }

def recordVideoDelivered (key : VideoJobKey) (requestId : String) (saves : Bool) : State :=
  match s.job key with
  | none => s.noObservedUnitUsage requestId
  | some job =>
    match job.entry.videoFacts with
    | none => s.noObservedUnitUsage requestId
    | some video =>
      let cleared :=
        match job.oneOffChannelId with
        | none => s
        | some channelId => s.persistVideoJob channelId none saves
      let tracked :=
        if (cleared.request requestId).isSome then cleared else cleared.trackVideoRetrieve key requestId
      let unsaved :=
        match job.oneOffChannelId with
        | none => tracked.unsavedVideoDeliveries
        | some channelId =>
          if (s.row channelId).isSome ∧ saves = false then
            set Prod.fst (key, channelId) tracked.unsavedVideoDeliveries
          else tracked.unsavedVideoDeliveries
      let delivered := { tracked with
        videoJobs := tracked.videoJobs.filter (·.key ≠ key)
        unsavedVideoDeliveries := unsaved }
      (delivered.note (.received key)).recordObservedUnitUsage requestId (nativeVideoUnitUsage video)

def videoDeliveryUnsaved (key : VideoJobKey) (saves : Bool) : State :=
  match get Prod.fst key s.unsavedVideoDeliveries with
  | none => s
  | some (_, channelId) =>
    let cleared := s.persistVideoJob channelId none saves
    if (s.row channelId).isSome ∧ saves = false then cleared
    else { cleared with unsavedVideoDeliveries := cleared.unsavedVideoDeliveries.filter (·.1 ≠ key) }

/-- A channel of the store, as `_hydrateFromStore` takes it up. -/
def hydrateChannel (row : StoredChannel) : Option OneOffChannelState :=
  row.oneOffRequestId.map fun requestId =>
    { channelId := row.sessionId
      sellerPeerId := row.peerId
      requestId := requestId
      price := row.reserveMaxAmount
      cumulative := row.authMax
      confirmed := !row.reserveAuthPending }

def restoreVideoJob (row : StoredChannel) : Option VideoJob :=
  row.oneOffVideoJob.map fun job =>
    ⟨videoJobKey row.peerId job.protocol job.jobId, job.entry, some row.sessionId⟩

/-- The process ends, and another starts from the store. -/
def restart : State :=
  let rows := s.store.filter fun row => row.active ∧ row.oneOffRequestId.isSome
  { oneOffChannels := rows.filterMap hydrateChannel
    videoJobs := ofList VideoJob.key (rows.filterMap restoreVideoJob)
    store := s.store
    deeds := s.deeds }

end State

end AntSeed.Buyer.OneOff
