import AntSeed.Protocol.PaymentCodec
import Mathlib.Data.List.Induction

/-! # The channel table

A channel is written with one statement that inserts a row or, when there is one,
updates it. The two lists of columns are not the same: whatever only the insert
lists stays as the first write of the channel had it.

A text column keeps every well-formed text, and a number column every finite
number. The recovery fields share one column, as JSON.
-/

namespace AntSeed.Storage

open Json
open Keyed

inductive ChannelStatus where
  | active | settled | timeout | ghost
  deriving DecidableEq

inductive ChannelKind where
  | paid | free | oneOff
  deriving DecidableEq

inductive ChannelRole where
  | buyer | seller
  deriving DecidableEq

variable {ν : Type}

abbrev Finite (numbers : JsNumbers ν) : Type := { x : ν // numbers.isFinite x = true }

/-- The fields of a channel that are kept in `payment_recovery`. Each may be absent, and all but one
    may be `null`. -/
structure PaymentRecovery (numbers : JsNumbers ν) where
  reserveSalt : Option (Option JsString) := none
  initialReserveAmount : Option (Option JsString) := none
  reserveMaxAmount : Option (Option JsString) := none
  latestReserveAuthSig : Option (Option JsString) := none
  latestReserveDeadline : Option (Option (Finite numbers)) := none
  reserveAuthPending : Option Bool := none
  confirmedReserveAmount : Option (Option JsString) := none
  oneOffVideoJob : Option (Option JsString) := none

structure StoredChannel (numbers : JsNumbers ν) extends PaymentRecovery numbers where
  sessionId : String
  peerId : String
  role : ChannelRole
  channelKind : Option ChannelKind
  sellerEvmAddr : String
  buyerEvmAddr : String
  nonce : Finite numbers
  authMax : String
  deadline : Finite numbers
  previousSessionId : String
  previousConsumption : String
  tokensDelivered : String
  requestCount : Finite numbers
  reservedAt : Finite numbers
  settledAt : Option (Finite numbers)
  settledAmount : Option String
  status : ChannelStatus
  latestBuyerSig : Option String
  latestSpendingAuthSig : Option String
  latestMetadata : Option String
  oneOffRequestId : Option (Option String) := none
  createdAt : Finite numbers
  updatedAt : Finite numbers

structure ChannelRow (numbers : JsNumbers ν) where
  paymentRecovery : Option (List Char)
  oneOffRequestId : Option String
  sessionId : String
  peerId : String
  role : ChannelRole
  channelKind : ChannelKind
  sellerEvmAddr : String
  buyerEvmAddr : String
  nonce : Finite numbers
  authMax : String
  deadline : Finite numbers
  previousSessionId : String
  previousConsumption : String
  tokensDelivered : String
  requestCount : Finite numbers
  reservedAt : Finite numbers
  settledAt : Option (Finite numbers)
  settledAmount : Option String
  status : ChannelStatus
  latestBuyerSig : Option String
  latestMetadataAuthSig : Option String
  latestMetadata : Option String
  createdAt : Finite numbers
  updatedAt : Finite numbers

open ChannelRow

namespace PaymentRecovery

/-- A field that is absent, `null` or has a value. -/
def field {α : Type} (write : α → Json ν) : Option (Option α) → Option (Json ν)
  | none => none
  | some none => some .null
  | some (some value) => some (write value)

variable {numbers : JsNumbers ν}

def fields (recovery : PaymentRecovery numbers) : List (String × Option (Json ν)) :=
  [("reserveSalt", field .string recovery.reserveSalt),
    ("initialReserveAmount", field .string recovery.initialReserveAmount),
    ("reserveMaxAmount", field .string recovery.reserveMaxAmount),
    ("latestReserveAuthSig", field .string recovery.latestReserveAuthSig),
    ("latestReserveDeadline", field (fun x => .number x.val) recovery.latestReserveDeadline),
    ("reserveAuthPending", recovery.reserveAuthPending.map .boolean),
    ("confirmedReserveAmount", field .string recovery.confirmedReserveAmount),
    ("oneOffVideoJob", field .string recovery.oneOffVideoJob)]

/-- `JSON.stringify` of the recovery fields -/
def stringify (recovery : PaymentRecovery numbers) : List Char :=
  Json.stringify numbers (.object (Json.present recovery.fields))

def readText : Option (Json ν) → Option (Option JsString)
  | some .null => some none
  | some (.string text) => some (some text)
  | _ => none

def readNumber (numbers : JsNumbers ν) : Option (Json ν) → Option (Option (Finite numbers))
  | some .null => some none
  | some (.number x) => if finite : numbers.isFinite x = true then some (some ⟨x, finite⟩) else none
  | _ => none

def readBoolean : Option (Json ν) → Option Bool
  | some (.boolean value) => some value
  | _ => none

/-- The members that the spread copies. A value of another type is never written. -/
def ofMembers (members : List (JsString × Json ν)) : PaymentRecovery numbers where
  reserveSalt := readText (get "reserveSalt" members)
  initialReserveAmount := readText (get "initialReserveAmount" members)
  reserveMaxAmount := readText (get "reserveMaxAmount" members)
  latestReserveAuthSig := readText (get "latestReserveAuthSig" members)
  latestReserveDeadline := readNumber numbers (get "latestReserveDeadline" members)
  reserveAuthPending := readBoolean (get "reserveAuthPending" members)
  confirmedReserveAmount := readText (get "confirmedReserveAmount" members)
  oneOffVideoJob := readText (get "oneOffVideoJob" members)

/-- The recovery fields of a row; a text that is not JSON throws. -/
def ofColumn (numbers : JsNumbers ν) : Option (List Char) → Option (PaymentRecovery numbers)
  | none | some [] => some (ofMembers [])
  | some text =>
    match parse numbers text with
    | none => none
    | some (.object members) => some (ofMembers members)
    | some _ => some (ofMembers [])

theorem readText_field (text : Option (Option JsString)) : readText (field (ν := ν) .string text) = text := by
  rcases text with - | - | text <;> rfl

theorem readNumber_field (x : Option (Option (Finite numbers))) :
    readNumber numbers (field (fun x => .number x.val) x) = x := by
  rcases x with - | - | ⟨x, finite⟩
  · rfl
  · rfl
  · simp [field, readNumber, finite]

theorem readBoolean_map (value : Option Bool) : readBoolean (value.map (boolean (ν := ν))) = value := by
  cases value <;> rfl

theorem sound_field {α : Type} {write : α → Json ν} (each : ∀ value, Json.Sound numbers (write value))
    {value : Option (Option α)} {written : Json ν} (here : field write value = some written) :
    Json.Sound numbers written := by
  rcases value with - | - | value
  · cases here
  · cases here
    exact .null
  · cases here
    exact each value

section

variable (recovery : PaymentRecovery numbers)

include recovery

theorem distinct_fields : (recovery.fields.map Prod.fst).Nodup := by
  simp only [fields, List.map_cons, List.map_nil]
  decide

theorem sound_fields : Json.Sound numbers (.object (present recovery.fields)) := by
  apply sound_present recovery.distinct_fields
  intro name value member
  have texts : ∀ text : JsString, Json.Sound numbers (.string text) := fun _ => .string
  have finites : ∀ x : Finite numbers, Json.Sound numbers (.number x.val) := fun x => .number x.property
  simp only [fields, List.mem_cons, Prod.mk.injEq, List.not_mem_nil, or_false] at member
  rcases member with ⟨-, same⟩ | ⟨-, same⟩ | ⟨-, same⟩ | ⟨-, same⟩ | ⟨-, same⟩ | ⟨-, same⟩ | ⟨-, same⟩ | ⟨-, same⟩
  case inr.inr.inr.inr.inl => exact sound_field finites same.symm
  case inr.inr.inr.inr.inr.inl =>
      obtain ⟨flag, -, rfl⟩ := Option.map_eq_some_iff.mp same.symm
      exact .boolean
  all_goals exact sound_field texts same.symm

theorem ofMembers_present : ofMembers (present recovery.fields) = recovery := by
  have read : ∀ name, get name (present recovery.fields) = lookup name recovery.fields :=
    fun name => get_present recovery.distinct_fields
  unfold ofMembers
  simp only [read]
  cases recovery
  simp [lookup, fields, readText_field, readNumber_field, readBoolean_map]

theorem ofColumn_stringify : ofColumn numbers (some recovery.stringify) = some recovery := by
  have parsed : parse numbers recovery.stringify = some (.object (present recovery.fields)) :=
    Json.parse_stringify recovery.sound_fields
  unfold ofColumn
  split
  next none => cases none
  next empty =>
    have empty : recovery.stringify = [] := Option.some.inj empty
    rw [empty] at parsed
    cases parsed
  next text _ same =>
    cases same
    rw [parsed]
    exact congrArg some recovery.ofMembers_present

end

end PaymentRecovery

variable {numbers : JsNumbers ν}

namespace ChannelRow

/-- The parameters of the upsert statement, as the row that an insert makes of them. -/
def ofChannel (channel : StoredChannel numbers) : ChannelRow numbers where
  paymentRecovery := some channel.toPaymentRecovery.stringify
  oneOffRequestId := channel.oneOffRequestId.getD none
  sessionId := channel.sessionId
  peerId := channel.peerId
  role := channel.role
  channelKind := channel.channelKind.getD .paid
  sellerEvmAddr := channel.sellerEvmAddr
  buyerEvmAddr := channel.buyerEvmAddr
  nonce := channel.nonce
  authMax := channel.authMax
  deadline := channel.deadline
  previousSessionId := channel.previousSessionId
  previousConsumption := channel.previousConsumption
  tokensDelivered := channel.tokensDelivered
  requestCount := channel.requestCount
  reservedAt := channel.reservedAt
  settledAt := channel.settledAt
  settledAmount := channel.settledAmount
  status := channel.status
  latestBuyerSig := channel.latestBuyerSig
  latestMetadataAuthSig := channel.latestSpendingAuthSig
  latestMetadata := channel.latestMetadata
  createdAt := channel.createdAt
  updatedAt := channel.updatedAt

/-- `ON CONFLICT(session_id) DO UPDATE SET` -/
def doUpdate (row params : ChannelRow numbers) : ChannelRow numbers :=
  { row with
    channelKind := params.channelKind
    authMax := params.authMax
    previousConsumption := params.previousConsumption
    tokensDelivered := params.tokensDelivered
    requestCount := params.requestCount
    settledAt := params.settledAt
    settledAmount := params.settledAmount
    status := params.status
    latestBuyerSig := params.latestBuyerSig
    latestMetadataAuthSig := params.latestMetadataAuthSig
    latestMetadata := params.latestMetadata
    paymentRecovery := params.paymentRecovery
    updatedAt := params.updatedAt }

/-- `...(row.one_off_request_id ? { oneOffRequestId: row.one_off_request_id } : {})` -/
def requestId : Option String → Option (Option String)
  | none => none
  | some text => if text = "" then none else some (some text)

/-- `rowToChannel`, or nothing when it throws -/
def toChannel (row : ChannelRow numbers) : Option (StoredChannel numbers) := do
  let recovery ← PaymentRecovery.ofColumn numbers row.paymentRecovery
  pure
    { toPaymentRecovery := recovery
      sessionId := row.sessionId
      peerId := row.peerId
      role := row.role
      channelKind := some row.channelKind
      sellerEvmAddr := row.sellerEvmAddr
      buyerEvmAddr := row.buyerEvmAddr
      nonce := row.nonce
      authMax := row.authMax
      deadline := row.deadline
      previousSessionId := row.previousSessionId
      previousConsumption := row.previousConsumption
      tokensDelivered := row.tokensDelivered
      requestCount := row.requestCount
      reservedAt := row.reservedAt
      settledAt := row.settledAt
      settledAmount := row.settledAmount
      status := row.status
      latestBuyerSig := row.latestBuyerSig
      latestSpendingAuthSig := row.latestMetadataAuthSig
      latestMetadata := row.latestMetadata
      oneOffRequestId := requestId row.oneOffRequestId
      createdAt := row.createdAt
      updatedAt := row.updatedAt }

theorem doUpdate_doUpdate (row first second : ChannelRow numbers) :
    (row.doUpdate first).doUpdate second = row.doUpdate second := rfl

theorem doUpdate_self (row : ChannelRow numbers) : row.doUpdate row = row := rfl

end ChannelRow

abbrev ChannelTable (numbers : JsNumbers ν) := List (ChannelRow numbers)

namespace ChannelTable

def empty : ChannelTable numbers := []

section

variable (table : ChannelTable numbers)

def getById (sessionId : String) : Option (ChannelRow numbers) :=
  get ChannelRow.sessionId sessionId table

def upsertChannel (channel : StoredChannel numbers) : ChannelTable numbers :=
  let params := ofChannel channel
  match table.getById channel.sessionId with
  | none => set sessionId params table
  | some row => set sessionId (row.doUpdate params) table

/-- The channel that is read, `null` without a row; or nothing when reading throws. -/
def getChannel (sessionId : String) : Option (Option (StoredChannel numbers)) :=
  match table.getById sessionId with
  | none => some none
  | some row => row.toChannel.map some

def written (writes : List (StoredChannel numbers)) : ChannelTable numbers := writes.foldl upsertChannel empty

theorem getById_upsertChannel (channel : StoredChannel numbers) (sessionId : String) :
    (table.upsertChannel channel).getById sessionId = if sessionId = channel.sessionId then
      some (match table.getById channel.sessionId with
        | none => ChannelRow.ofChannel channel
        | some row => row.doUpdate (ChannelRow.ofChannel channel))
    else table.getById sessionId := by
  unfold upsertChannel getById
  cases found : get ChannelRow.sessionId channel.sessionId table with
  | none =>
    show get ChannelRow.sessionId sessionId (set ChannelRow.sessionId _ table) = _
    exact get_set
  | some row =>
    have same : row.sessionId = channel.sessionId := (mem_of_get found).2
    let merged := row.doUpdate (ChannelRow.ofChannel channel)
    have set : get ChannelRow.sessionId sessionId (set ChannelRow.sessionId merged table) =
        if sessionId = merged.sessionId then some merged
        else get ChannelRow.sessionId sessionId table := get_set
    rw [← same]
    exact set

end

theorem getChannel_upsertChannel_of_ne {table : ChannelTable numbers} {channel : StoredChannel numbers}
    {sessionId : String} (other : channel.sessionId ≠ sessionId) :
    (table.upsertChannel channel).getChannel sessionId = table.getChannel sessionId := by
  unfold getChannel
  rw [getById_upsertChannel, if_neg (Ne.symm other)]

end ChannelTable

namespace StoredChannel

/-- A channel as it is read back: a kind that is not given is `paid`, and a request id that is `null`
    or empty is not there. -/
def filled (channel : StoredChannel numbers) : StoredChannel numbers :=
  { channel with
    channelKind := some (channel.channelKind.getD .paid)
    oneOffRequestId := requestId (channel.oneOffRequestId.getD none) }

end StoredChannel

/-- The fields that only the first write of a channel sets. -/
structure Opening (numbers : JsNumbers ν) where
  peerId : String
  role : ChannelRole
  sellerEvmAddr : String
  buyerEvmAddr : String
  nonce : Finite numbers
  deadline : Finite numbers
  previousSessionId : String
  reservedAt : Finite numbers
  oneOffRequestId : Option (Option String)
  createdAt : Finite numbers

namespace StoredChannel

def opening (channel : StoredChannel numbers) : Opening numbers where
  peerId := channel.peerId
  role := channel.role
  sellerEvmAddr := channel.sellerEvmAddr
  buyerEvmAddr := channel.buyerEvmAddr
  nonce := channel.nonce
  deadline := channel.deadline
  previousSessionId := channel.previousSessionId
  reservedAt := channel.reservedAt
  oneOffRequestId := channel.filled.oneOffRequestId
  createdAt := channel.createdAt

/-- The channel with the fields of another opening. -/
def reopened (channel : StoredChannel numbers) (opening : Opening numbers) : StoredChannel numbers :=
  { channel with
    peerId := opening.peerId
    role := opening.role
    sellerEvmAddr := opening.sellerEvmAddr
    buyerEvmAddr := opening.buyerEvmAddr
    nonce := opening.nonce
    deadline := opening.deadline
    previousSessionId := opening.previousSessionId
    reservedAt := opening.reservedAt
    oneOffRequestId := opening.oneOffRequestId
    createdAt := opening.createdAt }

theorem reopened_eq_iff {channel : StoredChannel numbers} {opening : Opening numbers} :
    channel.filled.reopened opening = channel.filled ↔ opening = channel.opening := by
  obtain ⟨⟩ := opening
  simp [reopened, StoredChannel.opening, filled]

/-- A row that two channels were written to reads as the later one with the opening of the earlier. -/
theorem toChannel_doUpdate {first last : StoredChannel numbers} (same : first.sessionId = last.sessionId) :
    ((ofChannel first).doUpdate (ofChannel last)).toChannel =
      some (last.filled.reopened first.opening) := by
  unfold toChannel
  have recovery : PaymentRecovery.ofColumn numbers ((ofChannel first).doUpdate
      (ofChannel last)).paymentRecovery = some last.toPaymentRecovery :=
    last.toPaymentRecovery.ofColumn_stringify
  rw [recovery]
  simp [doUpdate, ofChannel, filled, reopened, opening, same]

end StoredChannel

def firstWritten (sessionId : String) (writes : List (StoredChannel numbers)) : Option (StoredChannel numbers) :=
  writes.find? fun channel => channel.sessionId = sessionId

def lastWritten (sessionId : String) (writes : List (StoredChannel numbers)) : Option (StoredChannel numbers) :=
  writes.reverse.find? fun channel => channel.sessionId = sessionId

section Writes

variable {sessionId : String} {writes : List (StoredChannel numbers)} {channel first last : StoredChannel numbers}

theorem lastWritten_append :
    lastWritten sessionId (writes ++ [channel]) =
      if channel.sessionId = sessionId then some channel else lastWritten sessionId writes := by
  rw [lastWritten, List.reverse_concat, List.find?_cons]
  by_cases here : channel.sessionId = sessionId
  · simp [here]
  · simp [here, lastWritten]

theorem firstWritten_append :
    firstWritten sessionId (writes ++ [channel]) = (firstWritten sessionId writes).or
      (if channel.sessionId = sessionId then some channel else none) := by
  rw [firstWritten, List.find?_append]
  by_cases here : channel.sessionId = sessionId <;> simp [firstWritten, here]

theorem written_append (writes : List (StoredChannel numbers)) (channel : StoredChannel numbers) :
    ChannelTable.written (writes ++ [channel]) = (ChannelTable.written writes).upsertChannel channel :=
  List.foldl_concat _ _ _ _

/-- A channel has a first write if it has a last one, and both are of this channel. -/
inductive Written (sessionId : String) (writes : List (StoredChannel numbers)) : Prop where
  | never (first : firstWritten sessionId writes = none) (last : lastWritten sessionId writes = none)
      (row : (ChannelTable.written writes).getById sessionId = none)
  | since (first last : StoredChannel numbers) (isFirst : firstWritten sessionId writes = some first)
      (isLast : lastWritten sessionId writes = some last) (firstId : first.sessionId = sessionId)
      (lastId : last.sessionId = sessionId)
      (row : (ChannelTable.written writes).getById sessionId =
        some ((ofChannel first).doUpdate (ofChannel last)))

theorem written_of_writes (sessionId : String) (writes : List (StoredChannel numbers)) :
    Written sessionId writes := by
  induction writes using List.reverseRecOn with
  | nil => exact .never rfl rfl rfl
  | append_singleton writes channel ih =>
    have table := written_append writes channel
    by_cases here : channel.sessionId = sessionId
    · subst here
      cases ih with
      | never first last row =>
        refine .since channel channel ?_ ?_ rfl rfl ?_
        · simp [firstWritten_append, first]
        · simp [lastWritten_append]
        · simp [table, ChannelTable.getById_upsertChannel, row, ChannelRow.doUpdate_self]
      | since first last isFirst isLast firstId lastId row =>
        refine .since first channel ?_ ?_ firstId rfl ?_
        · simp [firstWritten_append, isFirst]
        · simp [lastWritten_append]
        · simp [table, ChannelTable.getById_upsertChannel, row, ChannelRow.doUpdate_doUpdate]
    · have row_eq : (ChannelTable.written (writes ++ [channel])).getById sessionId =
          (ChannelTable.written writes).getById sessionId := by
        rw [table, ChannelTable.getById_upsertChannel, if_neg (Ne.symm here)]
      cases ih with
      | never first last row =>
        refine .never ?_ ?_ (row_eq.trans row)
        · simp [firstWritten_append, first, here]
        · simp [lastWritten_append, last, here]
      | since first last isFirst isLast firstId lastId row =>
        refine .since first last ?_ ?_ firstId lastId (row_eq.trans row)
        · simp [firstWritten_append, isFirst]
        · simp [lastWritten_append, isLast, here]

theorem getChannel_written (sessionId : String) (writes : List (StoredChannel numbers)) :
    (ChannelTable.written writes).getChannel sessionId =
      some ((lastWritten sessionId writes).bind fun last =>
        (firstWritten sessionId writes).map fun first => last.filled.reopened first.opening) := by
  unfold ChannelTable.getChannel
  cases written_of_writes sessionId writes with
  | never first last row => simp [last, row]
  | since first last isFirst isLast firstId lastId row =>
    rw [row, isFirst, isLast]
    simp [StoredChannel.toChannel_doUpdate (firstId.trans lastId.symm)]

/-- After any writes, reading a channel gives its last write exactly if that agrees with the first write
    of the channel in all the columns that only an insert sets; and no write changes another channel. -/
theorem last_write_reads_back_iff (numbers : JsNumbers ν) (writes : List (StoredChannel numbers))
    (sessionId : String) :
    ((ChannelTable.written writes).getChannel sessionId =
        some ((lastWritten sessionId writes).map StoredChannel.filled) ↔
      (firstWritten sessionId writes).map StoredChannel.opening =
        (lastWritten sessionId writes).map StoredChannel.opening) ∧
    ∀ channel : StoredChannel numbers, channel.sessionId ≠ sessionId →
      (ChannelTable.written (writes ++ [channel])).getChannel sessionId =
        (ChannelTable.written writes).getChannel sessionId := by
  constructor
  · rw [getChannel_written]
    cases written_of_writes sessionId writes with
    | never first last => simp [first, last]
    | since first last isFirst isLast =>
      rw [isFirst, isLast]
      simp [StoredChannel.reopened_eq_iff]
  · intro channel other
    rw [written_append, ChannelTable.getChannel_upsertChannel_of_ne other]

end Writes

/-- What the seller writes when a top-up has gone through. -/
def StoredChannel.toppedUp (channel : StoredChannel numbers) (newMaxAmount : String)
    (topUpDeadline now : Finite numbers) : StoredChannel numbers :=
  { channel with previousConsumption := newMaxAmount, deadline := topUpDeadline, updatedAt := now }

open Protocol.PaymentCodec (digits)

def digit (n : Nat) : Finite digits := ⟨some ((List.finRange 10).getD n (Fin.last 9)), rfl⟩

def reservedChannel : StoredChannel digits where
  sessionId := "0xc1"
  peerId := "buyer"
  role := .seller
  channelKind := some .paid
  sellerEvmAddr := "0x51"
  buyerEvmAddr := "0xb1"
  nonce := digit 0
  authMax := "0"
  deadline := digit 3
  previousSessionId := ""
  previousConsumption := "100"
  tokensDelivered := "0"
  requestCount := digit 0
  reservedAt := digit 1
  settledAt := none
  settledAmount := none
  status := .active
  latestBuyerSig := none
  latestSpendingAuthSig := none
  latestMetadata := none
  createdAt := digit 1
  updatedAt := digit 1

/-- The deadline of a top-up is written and does not read back. -/
theorem topped_up_deadline_is_lost :
    (ChannelTable.written [reservedChannel, reservedChannel.toppedUp "200" (digit 7) (digit 2)]).getChannel "0xc1" ≠
      some (lastWritten "0xc1" [reservedChannel, reservedChannel.toppedUp "200" (digit 7) (digit 2)]) := by
  rw [getChannel_written]
  intro same
  have deadlines : digit 3 = digit 7 := congrArg StoredChannel.deadline (Option.some.inj (Option.some.inj same))
  have wrong : (3 : Fin 10) = 7 := Option.some.inj (congrArg Subtype.val deadlines)
  exact absurd wrong (by decide)

theorem top_up_at_the_same_deadline_reads_back :
    (ChannelTable.written [reservedChannel, reservedChannel.toppedUp "200" (digit 3) (digit 2)]).getChannel "0xc1" =
        some (some (reservedChannel.toppedUp "200" (digit 3) (digit 2))) ∧
      (ChannelTable.written ([reservedChannel] ++
        [{ reservedChannel with sessionId := "0xc2" }])).getChannel "0xc1" =
        (ChannelTable.written [reservedChannel]).getChannel "0xc1" :=
  ⟨(last_write_reads_back_iff digits [reservedChannel, reservedChannel.toppedUp "200" (digit 3) (digit 2)]
      "0xc1").1.mpr rfl,
    (last_write_reads_back_iff digits [reservedChannel] "0xc1").2 { reservedChannel with sessionId := "0xc2" }
      (by decide)⟩

end AntSeed.Storage
