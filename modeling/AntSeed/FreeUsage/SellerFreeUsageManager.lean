import AntSeed.FreeTier.Limiter
import AntSeed.FreeUsage.AntseedFreeUsage
import AntSeed.Seller.Messages
import Mathlib.Data.Rat.Floor

/-! # SellerFreeUsageManager

A seller's side of the channels for usage that is not charged, as far as one buyer is concerned. The buyer
signs what it has used so far whenever the seller asks; the last signed state waits until the seller sends
it to the contract, together with what came since, and closes the channel when the buyer has left.

Handlers and flushes go on at the same time. What one of them does up to its next await is one event.
A session stays in use by its timer and its flush when the map has forgotten it, so sessions are named by
the order in which they were made.
-/

namespace AntSeed.FreeUsage

open Evm
open Seller (Hex HexData JsonNumber Numeral toUint)

def trunc (value : ℚ) : Int := value.num.tdiv value.den

/-- A number that a provider reports; none when it is not finite. -/
def normalizeTokenCount : Option ℚ → Nat
  | none => 0
  | some value => if value ≤ 0 then 0 else (trunc value).toNat

structure SellerFreeUsageConfig where
  recordBatchSize : Option ℚ := none
  recordFlushIntervalMs : Option ℚ := none

def DEFAULT_RECORD_BATCH_SIZE : ℚ := 16
def DEFAULT_RECORD_FLUSH_INTERVAL_MS : ℚ := 15 * 60000
def FREE_USAGE_METADATA_VERSION : Nat := 1

structure ExpectedFreeUsage where
  cumulativeInputTokens : Nat := 0
  cumulativeOutputTokens : Nat := 0
  cumulativeRequestCount : Nat := 0
  deriving DecidableEq, Repr

structure FreeUsageOpenPayload where
  channelId : Hex
  salt : Hex
  deadline : JsonNumber
  openSig : Option Signature

structure FreeUsageAuthPayload where
  channelId : Hex
  cumulativeInputTokens : Numeral
  cumulativeOutputTokens : Numeral
  sequence : Numeral
  metadataHash : Hex
  metadata : HexData
  deadline : JsonNumber
  usageSig : Option Signature

structure NeedFreeUsageAuthPayload where
  channelId : Word
  requiredSequence : Nat
  currentAcceptedSequence : Nat
  requestId : Option String
  inputTokens : Nat
  outputTokens : Nat
  service : Option String
  deriving DecidableEq, Repr

/-- What a request has used. -/
structure Usage where
  requestId : Option String := none
  inputTokens : Option ℚ
  outputTokens : Option ℚ
  service : Option String := none

structure PendingFreeUsageRecord where
  sequence : Nat
  metadata : List UInt8
  deadline : Nat
  usageSig : Signature
  deriving DecidableEq, Repr

/-- `openPromise`. When the call to the contract has failed, the channel may be there nonetheless. -/
inductive OpenPromise where
  | opening | checking | opened | failed
  deriving DecidableEq, Repr

/-- What a flush waits for. -/
inductive FlushStage where
  | awaitsOpen
  | records
  | closes
  /-- the buyer left while the record was on its way -/
  | closesRecorded
  /-- `_doFlushPendingRecord` has returned -/
  | returned (flushed : Bool)
  deriving DecidableEq, Repr

/-- A flush under way, and how many disconnects wait for its end. -/
structure Flush where
  record : PendingFreeUsageRecord
  stage : FlushStage := .awaitsOpen
  waiting : Nat := 0
  deriving DecidableEq, Repr

/-- What the buyer has signed to open a channel. -/
structure FreeUsageOpening where
  channelId : Word
  salt : Word
  deadline : Nat
  openSig : Signature

structure SellerFreeUsageSession extends FreeUsageOpening where
  acceptedSequence : Nat := 0
  requestedSequence : Nat := 0
  requestedInputTokens : Nat := 0
  requestedOutputTokens : Nat := 0
  requestedRequestCount : Nat := 0
  expectedUsageBySequence : List (Nat × ExpectedFreeUsage) := []
  openPromise : OpenPromise := .opening
  pendingRecord : Option PendingFreeUsageRecord := none
  recordsSinceFlush : Nat := 0
  /-- the delay of the timer, if it is set -/
  flushTimer : Option Int := none
  flushPromise : Option Flush := none
  closeRequested : Bool := false
  /-- disconnects that have nothing left to wait for -/
  leaving : Nat := 0

/-- What does not change while a seller runs. -/
structure SellerFreeUsageManager where
  chain : Deployment
  /-- `peerIdToAddress(buyerPeerId)` -/
  buyer : Address
  seller : Address
  config : SellerFreeUsageConfig := {}
  /-- `AbiCoder.decode`: the version and the counters in front -/
  decode : List UInt8 → Option (Nat × ExpectedFreeUsage)

/-- How far a handler has come. -/
inductive Handler where
  | open_ (payload : FreeUsageOpenPayload)
  | auth (payload : FreeUsageAuthPayload)
  /-- it waits for the stake of the buyer, the message being in order -/
  | standing (opening : FreeUsageOpening)
  | awaitsOpen (session : Nat)

/-- A handler that has not finished. It starts when the one before it on its lock has finished. -/
structure HandlerTask where
  id : Nat
  after : Option Nat
  handler : Handler

/-- What a run leaves on record. -/
inductive Deed where
  | needed (session : Nat) (message : NeedFreeUsageAuthPayload)
  | accepted (session : Nat) (sequence : Nat) (usage : ExpectedFreeUsage)
  | acknowledged (session : Nat) (sequence : Nat)
  deriving DecidableEq, Repr

structure ManagerState where
  chain : State
  /-- every session that was made -/
  sessions : List SellerFreeUsageSession := []
  /-- `_sessions.get(buyerPeerId)` -/
  current : Option Nat := none
  /-- `_buyerLocks.get(buyerPeerId)`: the last handler on it -/
  buyerLock : Option Nat := none
  handlers : List HandlerTask := []
  nextHandler : Nat := 0
  /-- the newest first -/
  deeds : List Deed := []

inductive Event where
  | handleOpen (payload : FreeUsageOpenPayload)
  | handleAuth (payload : FreeUsageAuthPayload)
  /-- a handler gets the lock -/
  | start (handler : Nat) (nowMs : Nat) (sent : Bool)
  /-- `resolveStanding` and `check` of the limiter have answered -/
  | admitted (handler : Nat) (admission : Except String (Option FreeTier.FreeTierDecision))
  /-- `open` of the contract was called; without an answer it has failed -/
  | opened (session : Nat) (landed : Option External)
  /-- `getSession` of the contract was called -/
  | checked (session : Nat) (reached : Bool)
  /-- the handler of an open goes on -/
  | answered (handler : Nat) (sent : Bool)
  | onPeerDisconnect
  | flushAllPendingRecords
  | reportUsageRequest (usage : Usage) (sent : Bool)
  | timer (session : Nat)
  /-- a flush goes on after the open -/
  | flushStarts (session : Nat)
  /-- `record` or `close` of the contract was called -/
  | submitted (session : Nat) (landed : Option External)
  /-- the flush is over -/
  | flushEnds (session : Nat) (nowMs : Nat)
  /-- a disconnect goes on after its flush -/
  | left (session : Nat)
  /-- somebody else calls the contracts -/
  | chain (call : Call)

namespace SellerFreeUsageSession

variable (session : SellerFreeUsageSession)

def clearFlushTimer : SellerFreeUsageSession :=
  { session with flushTimer := none }

/-- `_flushPendingRecord`, up to its first await -/
def flushPendingRecord : SellerFreeUsageSession :=
  match session.pendingRecord, session.flushPromise with
  | some record, none => { session.clearFlushTimer with flushPromise := some { record } }
  | _, _ => session

def reportUsage (inputTokens outputTokens nextSequence : Nat) :
    SellerFreeUsageSession :=
  let requestedInputTokens := session.requestedInputTokens + inputTokens
  let requestedOutputTokens := session.requestedOutputTokens + outputTokens
  let requestedRequestCount := session.requestedRequestCount + 1
  { session with
    requestedSequence := nextSequence
    requestedInputTokens
    requestedOutputTokens
    requestedRequestCount
    expectedUsageBySequence := Keyed.set Prod.fst
      (nextSequence, ⟨requestedInputTokens, requestedOutputTokens, requestedRequestCount⟩)
      session.expectedUsageBySequence }

/-- The record is the last that was accepted, and an ack for it goes out. -/
def accept (record : PendingFreeUsageRecord) : SellerFreeUsageSession :=
  { session with
    pendingRecord := some record
    recordsSinceFlush := session.recordsSinceFlush + 1
    acceptedSequence := record.sequence
    expectedUsageBySequence :=
      session.expectedUsageBySequence.filter fun entry => ¬ entry.1 ≤ record.sequence }

def MAX_SAFE_INTEGER : Nat := 2 ^ 53 - 1

/-- `_doFlushPendingRecord`, after its record is on the chain -/
def reported (record : PendingFreeUsageRecord) : SellerFreeUsageSession :=
  match session.pendingRecord with
  | none => { session with pendingRecord := none, recordsSinceFlush := 0 }
  | some pending =>
    if pending.sequence ≤ record.sequence then { session with pendingRecord := none, recordsSinceFlush := 0 }
    else { session with recordsSinceFlush := min (pending.sequence - record.sequence) MAX_SAFE_INTEGER }

def setOpenPromise (openPromise : OpenPromise) : SellerFreeUsageSession :=
  { session with openPromise }

def setStage (stage : FlushStage) : SellerFreeUsageSession :=
  { session with flushPromise := session.flushPromise.map fun flush => { flush with stage } }

/-- `await session.openPromise` of a flush -/
def flushStarts : SellerFreeUsageSession :=
  match session.flushPromise.map Flush.stage, session.openPromise with
  | some .awaitsOpen, .opened => session.setStage (if session.closeRequested then .closes else .records)
  | some .awaitsOpen, .failed => session.setStage (.returned false)
  | _, _ => session

/-- The contract has done what the flush has asked for. -/
def landed (flush : Flush) : SellerFreeUsageSession :=
  if flush.stage = .records ∧ session.closeRequested then session.setStage .closesRecorded
  else (session.reported flush.record).setStage (.returned true)

def requestClose : SellerFreeUsageSession :=
  { session.clearFlushTimer with closeRequested := true }

/-- A disconnect waits for the flush, unless that has nothing left to report. -/
def awaitFlush : SellerFreeUsageSession :=
  match session.pendingRecord, session.flushPromise with
  | none, _ => { session with leaving := session.leaving + 1 }
  | some _, none => session
  | some _, some flush => { session with flushPromise := some { flush with waiting := flush.waiting + 1 } }

end SellerFreeUsageSession

/-- What `keccak256` reads; it throws on any other string. -/
def bytesOf : HexData → Option (List UInt8)
  | .bytes data => some data
  | .blank => none
  | .malformed => none

namespace SellerFreeUsageManager

variable (m : SellerFreeUsageManager)

def recordBatchSize : Int := max 1 (trunc (m.config.recordBatchSize.getD DEFAULT_RECORD_BATCH_SIZE))

def recordFlushIntervalMs : Int :=
  max 1 (trunc (m.config.recordFlushIntervalMs.getD DEFAULT_RECORD_FLUSH_INTERVAL_MS))

variable (session : SellerFreeUsageSession)

def scheduleRecordFlush (retry : Bool) (nowMs : Nat) :
    SellerFreeUsageSession :=
  if session.pendingRecord.isNone ∨ session.flushPromise.isSome then session
  else if retry ∧ session.deadline * 1000 ≤ nowMs then
    { session with pendingRecord := none, recordsSinceFlush := 0 }
  else if retry = false ∧ m.recordBatchSize ≤ session.recordsSinceFlush then
    session.clearFlushTimer.flushPendingRecord
  else if session.flushTimer.isSome then session
  else
    let untilDeadlineMs : Int := session.deadline * 1000 - nowMs - 60000
    { session with flushTimer := some (min m.recordFlushIntervalMs (max 1000 untilDeadlineMs)) }

/-- `verifyTypedData`, and whether it recovers the buyer -/
def verifyTypedData (message : Option Auth) (sig : Option Signature) : Option Signature := do
  let message ← message
  let sig ← sig
  if sig = ⟨m.buyer, message⟩ then pure sig else none

/-- `_handleOpenInner` up to its first await; none when it throws -/
def verifyOpen (payload : FreeUsageOpenPayload) (nowMs : Nat) : Option FreeUsageOpening := do
  let salt ← payload.salt.bytes32
  let expectedChannelId := Hex.ofWord (m.chain.computeChannelId m.buyer m.seller salt)
  if expectedChannelId.toLowerCase ≠ payload.channelId.toLowerCase then none
  else do
    let channelId ← payload.channelId.bytes32
    let seconds ← payload.deadline.toBigInt
    let deadline ← toUint 256 seconds
    if deadline ≤ nowMs / 1000 then none
    else do
      let openSig ← m.verifyTypedData (some (.freeUsageOpen channelId deadline)) payload.openSig
      pure ⟨channelId, salt, deadline, openSig⟩

def decodeFreeUsageMetadata (metadata : List UInt8) : Option ExpectedFreeUsage := do
  let (version, usage) ← m.decode metadata
  if version = FREE_USAGE_METADATA_VERSION then pure usage else none

/-- `_handleAuthInner` for a sequence that is new: what is accepted, unless it throws. -/
def verifyAuth (payload : FreeUsageAuthPayload) (sequence : Nat) :
    Option (PendingFreeUsageRecord × ExpectedFreeUsage) := do
  let metadata ← bytesOf payload.metadata
  let metadataHash := Hex.ofWord (m.chain.keccak256 metadata)
  if metadataHash.toLowerCase ≠ payload.metadataHash.toLowerCase then none
  else do
    let (_, expectedUsage) ← Keyed.get Prod.fst sequence session.expectedUsageBySequence
    let signedUsage ← m.decodeFreeUsageMetadata metadata
    let payloadInputTokens ← payload.cumulativeInputTokens.toBigInt
    let payloadOutputTokens ← payload.cumulativeOutputTokens.toBigInt
    if payloadInputTokens ≠ signedUsage.cumulativeInputTokens
        ∨ payloadOutputTokens ≠ signedUsage.cumulativeOutputTokens
        ∨ signedUsage.cumulativeInputTokens ≠ expectedUsage.cumulativeInputTokens
        ∨ signedUsage.cumulativeOutputTokens ≠ expectedUsage.cumulativeOutputTokens
        ∨ signedUsage.cumulativeRequestCount ≠ expectedUsage.cumulativeRequestCount then none
    else do
      let channelId ← payload.channelId.bytes32
      let hash ← payload.metadataHash.bytes32
      let seconds ← payload.deadline.toBigInt
      let deadline ← toUint 256 seconds
      let signed ← toUint 256 sequence
      let usageSig ← m.verifyTypedData (some (.freeUsageAuth channelId signed hash deadline)) payload.usageSig
      pure (⟨sequence, metadata, deadline, usageSig⟩, signedUsage)

end SellerFreeUsageManager

namespace ManagerState

variable (m : SellerFreeUsageManager) (s : ManagerState)

def setSession (id : Nat) (change : SellerFreeUsageSession → SellerFreeUsageSession) : ManagerState :=
  { s with sessions := s.sessions.modify id change }

def addSession (opening : FreeUsageOpening) : ManagerState :=
  { s with
    sessions := s.sessions ++ [{ toFreeUsageOpening := opening }]
    current := some s.sessions.length }

def note (deed : Deed) : ManagerState := { s with deeds := deed :: s.deeds }

/-- `handleOpen` and `handleAuth` put a handler on the lock. -/
def enqueue (handler : Handler) : ManagerState :=
  { s with
    handlers := s.handlers ++ [⟨s.nextHandler, s.buyerLock, handler⟩]
    nextHandler := s.nextHandler + 1
    buyerLock := some s.nextHandler }

def handlerOf (id : Nat) : Option HandlerTask := s.handlers.find? (·.id = id)

def setHandler (id : Nat) (handler : Handler) : ManagerState :=
  { s with handlers := s.handlers.map fun task => if task.id = id then { task with handler } else task }

def finish (id : Nat) : ManagerState := { s with handlers := s.handlers.filter (·.id ≠ id) }

def hasLock (task : HandlerTask) : Bool := task.after.all fun before => (s.handlerOf before).isNone

/-- The session that a message is for. -/
def sessionOf (payload : FreeUsageAuthPayload) : Option (Nat × SellerFreeUsageSession) := do
  let id ← s.current
  let session ← s.sessions[id]?
  if (Hex.ofWord session.channelId).toLowerCase = payload.channelId.toLowerCase then pure (id, session) else none

def handleAuthInner (payload : FreeUsageAuthPayload) (nowMs : Nat) (sent : Bool) : ManagerState :=
  match s.sessionOf payload, payload.sequence.toBigInt with
  | some (id, session), some sequence =>
    if sequence ≤ session.acceptedSequence then
      if sent then s.note (.acknowledged id session.acceptedSequence) else s
    else
      match m.verifyAuth session payload sequence.toNat with
      | none => s
      | some (record, usage) =>
        let s := (s.setSession id (·.accept record)).note (.accepted id record.sequence usage)
        -- an ack that cannot be sent ends the handler
        if sent then
          (s.note (.acknowledged id record.sequence)).setSession id
            (m.scheduleRecordFlush · false nowMs)
        else s
  | _, _ => s

def start (id nowMs : Nat) (sent : Bool) : ManagerState :=
  match s.handlerOf id with
  | none => s
  | some task =>
    if s.hasLock task = false then s
    else
      match task.handler with
      | .open_ payload =>
        match m.verifyOpen payload nowMs with
        | none => s.finish id
        | some opening => s.setHandler id (.standing opening)
      | .auth payload => (s.finish id).handleAuthInner m payload nowMs sent
      | .standing _ => s
      | .awaitsOpen _ => s

/-- A handler goes on with the session, unless the buyer's free requests are used up. -/
def admitted (id : Nat) (admission : Except String (Option FreeTier.FreeTierDecision)) : ManagerState :=
  match (s.handlerOf id).map HandlerTask.handler with
  | some (.standing opening) =>
    match admission with
    | .error _ => s.finish id
    | .ok decision =>
      if decision.any (! ·.consumption.allowed) then s.finish id
      else
        (s.addSession opening).setHandler id (.awaitsOpen s.sessions.length)
  | _ => s

/-- `_handleOpenInner` after `openPromise` -/
def answered (id : Nat) (sent : Bool) : ManagerState :=
  match (s.handlerOf id).map HandlerTask.handler with
  | some (.awaitsOpen session) =>
    match (s.sessions[session]?).map SellerFreeUsageSession.openPromise with
    | some .opened => if sent then (s.finish id).note (.acknowledged session 0) else s.finish id
    | some .failed =>
      { s.finish id with current := if s.current = some session then none else s.current }
    | _ => s
  | _ => s

def transact (landed : Option External) (op : Operation) : Option State :=
  landed.bind fun ext => (FreeUsage.step m.chain s.chain ⟨m.seller, ext, op⟩).toOption

/-- The transaction whose outcome an event is, if it is one. -/
def pendingCall : Event → Option (Option External × Operation)
  | .opened id landed => do
      let session ← s.sessions[id]?
      if session.openPromise = .opening then
        pure (landed, .open_ m.buyer session.salt session.deadline session.openSig)
      else none
  | .submitted id landed => do
      let session ← s.sessions[id]?
      let flush ← session.flushPromise
      let record := flush.record
      match flush.stage with
      | .records =>
        pure (landed, .record session.channelId record.sequence record.metadata record.deadline record.usageSig)
      | .closes =>
        pure (landed, .close session.channelId record.sequence record.metadata record.deadline record.usageSig)
      | .closesRecorded =>
        pure (landed, .close session.channelId record.sequence record.metadata record.deadline record.usageSig)
      | .awaitsOpen => none
      | .returned _ => none
  | _ => none

def opened (id : Nat) (landed : Option External) : ManagerState :=
  match s.pendingCall m (.opened id landed) with
  | none => s
  | some (landed, op) =>
    match s.transact m landed op with
    | none => s.setSession id (·.setOpenPromise .checking)
    | some chain => { s with chain }.setSession id (·.setOpenPromise .opened)

/-- `_openOnChain`: whether the channel is there nonetheless -/
def checked (id : Nat) (reached : Bool) : ManagerState :=
  s.setSession id fun session =>
    if session.openPromise = .checking then
      let existing := s.chain.channel session.channelId
      session.setOpenPromise
        (if reached ∧ existing.status = .active ∧ existing.buyer = m.buyer ∧ existing.seller = m.seller then .opened
        else .failed)
    else session

def submitted (id : Nat) (landed : Option External) : ManagerState :=
  match s.pendingCall m (.submitted id landed) with
  | none => s
  | some (landed, op) =>
    match s.transact m landed op with
    | none => s.setSession id (·.setStage (.returned false))
    | some chain =>
      { s with chain }.setSession id fun session => session.flushPromise.elim session session.landed

/-- `_flushPendingRecord` after its last await -/
def flushEnds (id nowMs : Nat) : ManagerState :=
  s.setSession id fun session =>
    match session.flushPromise with
    | some ⟨_, .returned flushed, waiting⟩ =>
      let session := { session with flushPromise := none, leaving := session.leaving + waiting }
      if session.pendingRecord.isSome ∧ session.closeRequested = false then
        m.scheduleRecordFlush session (! flushed) nowMs
      else session
    | _ => session

def onPeerDisconnect : ManagerState :=
  match s.current with
  | none => { s with buyerLock := none }
  | some id =>
    match s.sessions[id]? with
    | none => { s with buyerLock := none }
    | some session =>
      if session.pendingRecord.isSome ∨ session.flushPromise.isSome then
        { s.setSession id (·.requestClose.flushPendingRecord.awaitFlush) with buyerLock := none }
      else { s.setSession id (·.requestClose) with buyerLock := none, current := none }

/-- A disconnect forgets its session when the flush has ended. -/
def left (id : Nat) : ManagerState :=
  if (s.sessions[id]?).any (0 < ·.leaving) then
    { s.setSession id fun session => { session with leaving := session.leaving - 1 } with
      current := if s.current = some id then none else s.current }
  else s

def flushAllPendingRecords : ManagerState :=
  match s.current with
  | none => s
  | some id => s.setSession id fun session => session.clearFlushTimer.flushPendingRecord

def timer (id : Nat) : ManagerState :=
  s.setSession id fun session =>
    if session.flushTimer.isSome then session.clearFlushTimer.flushPendingRecord else session

def reportUsageRequest (usage : Usage) (sent : Bool) : ManagerState :=
  match s.current with
  | none => s
  | some id =>
    match s.sessions[id]? with
    | none => s
    | some session =>
      let nextSequence := max session.requestedSequence session.acceptedSequence + 1
      let inputTokens := normalizeTokenCount usage.inputTokens
      let outputTokens := normalizeTokenCount usage.outputTokens
      if sent then
        (s.setSession id (·.reportUsage inputTokens outputTokens nextSequence)).note
          (.needed id ⟨session.channelId, nextSequence, session.acceptedSequence, usage.requestId, inputTokens,
            outputTokens, usage.service⟩)
      else s

end ManagerState

namespace SellerFreeUsageManager

variable (m : SellerFreeUsageManager)

/-- What an event does; one that cannot happen now changes nothing. -/
def step (s : ManagerState) : Event → ManagerState
  | .handleOpen payload => s.enqueue (.open_ payload)
  | .handleAuth payload => s.enqueue (.auth payload)
  | .start handler nowMs sent => s.start m handler nowMs sent
  | .admitted handler admission => s.admitted handler admission
  | .opened session landed => s.opened m session landed
  | .checked session reached => s.checked m session reached
  | .answered handler sent => s.answered handler sent
  | .onPeerDisconnect => s.onPeerDisconnect
  | .flushAllPendingRecords => s.flushAllPendingRecords
  | .reportUsageRequest usage sent => s.reportUsageRequest usage sent
  | .timer session => s.timer session
  | .flushStarts session => s.setSession session (·.flushStarts)
  | .submitted session landed => s.submitted m session landed
  | .flushEnds session nowMs => s.flushEnds m session nowMs
  | .left session => s.left session
  | .chain call =>
    if call.sender = m.seller then s
    else { s with chain := (machine m.chain).exec s.chain call }

def machine : Machine ManagerState Event Empty where
  step s event := .ok (m.step s event)

end SellerFreeUsageManager

end AntSeed.FreeUsage
