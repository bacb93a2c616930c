import AntSeed.Seller.Messages

/-! # ChannelStore

The rows a seller keeps of its channels, in the database's order: the youngest
first. A row is never deleted. Writing a channel again overwrites what changes
over its life and keeps whose channel it is.

Rows of other roles and kinds share the table and are not read here. A row's
amounts are decimal strings; they stand for the numbers they write.
-/

namespace AntSeed.Seller

open Evm
open AntSeed.Payments (Signature)
open List

inductive ChannelStatus where
  | active | settled | timeout | ghost
  deriving DecidableEq, Repr

inductive ChannelKind where
  | paid | oneOff
  deriving DecidableEq, Repr

structure StoredChannel where
  sessionId : Hex
  peerId : PeerId
  channelKind : ChannelKind := .paid
  oneOffRequestId : Option String := none
  buyerEvmAddr : Address
  authMax : Int
  /-- holds the reserve's ceiling -/
  previousConsumption : Int
  deadline : Int
  /-- holds what was spent -/
  tokensDelivered : Int := 0
  requestCount : Nat := 0
  reservedAt : Nat
  /-- when a settlement was recorded -/
  settledAt : Option Nat := none
  settledAmount : Option Int := none
  status : ChannelStatus := .active
  latestSpendingAuthSig : Option Signature
  latestMetadata : HexData
  deriving DecidableEq, Repr

/-- The columns an upsert writes when the row is there already. -/
def StoredChannel.overwrite (row channel : StoredChannel) : StoredChannel :=
  { channel with
    sessionId := row.sessionId
    peerId := row.peerId
    oneOffRequestId := row.oneOffRequestId
    buyerEvmAddr := row.buyerEvmAddr
    deadline := row.deadline
    reservedAt := row.reservedAt }

abbrev ChannelStore := List StoredChannel

namespace ChannelStore

section

variable (store : ChannelStore)

variable (sessionId : Hex)

def getChannel : Option StoredChannel :=
  store.find? fun row => row.sessionId = sessionId

def updateChannel
    (change : StoredChannel → StoredChannel) : ChannelStore :=
  store.map fun row => if row.sessionId = sessionId then change row else row

def upsertChannel (channel : StoredChannel) : ChannelStore :=
  if (store.getChannel channel.sessionId).isSome then
    store.updateChannel channel.sessionId fun row => row.overwrite channel
  else channel :: store

/-- With an amount a settlement is recorded; without one what is recorded stays. -/
def updateChannelStatus (status : ChannelStatus) (settledAmount : Option Int) (now : Nat) :
    ChannelStore :=
  store.updateChannel sessionId fun row => { row with
    status := status
    settledAt := (settledAmount.map fun _ => now).or row.settledAt
    settledAmount := settledAmount.or row.settledAmount }

def updateTokensDelivered (tokens : Int)
    (requestCount : Nat) : ChannelStore :=
  store.updateChannel sessionId fun row =>
    { row with tokensDelivered := tokens, requestCount := requestCount }

def getActiveChannelByPeer (peerId : PeerId) : Option StoredChannel :=
  store.find? fun row => row.peerId = peerId ∧ row.channelKind = .paid ∧ row.status = .active

def getOneOffChannelByRequest (peerId : PeerId) (requestId : String) :
    Option StoredChannel :=
  store.find? fun row =>
    row.peerId = peerId ∧ row.oneOffRequestId = some requestId ∧ row.channelKind = .oneOff

/-- No settlement is recorded for these. -/
def getUnsettledChannelsByStatus (status : ChannelStatus) :
    List StoredChannel :=
  store.filter fun row => row.status = status ∧ row.settledAt = none

def getActiveChannels (channelKind : ChannelKind) : List StoredChannel :=
  store.filter fun row => row.channelKind = channelKind ∧ row.status = .active

def Stored : Prop :=
  ∃ row ∈ store, row.sessionId = sessionId

end

variable {store : ChannelStore} {row channel : StoredChannel} {sessionId : Hex}

theorem mem_of_getChannel (found : store.getChannel sessionId = some row) :
    row ∈ store ∧ row.sessionId = sessionId := by
  exact ⟨mem_of_find?_eq_some found, by simpa using find?_some found⟩

theorem stored_of_getChannel (found : store.getChannel sessionId = some row) : Stored store sessionId :=
  ⟨row, mem_of_getChannel found⟩

theorem getChannel_of_stored (stored : Stored store sessionId) :
    ∃ row, store.getChannel sessionId = some row := by
  obtain ⟨row, member, named⟩ := stored
  have found : (store.find? fun row => row.sessionId = sessionId).isSome := by
    rw [find?_isSome]
    exact ⟨row, member, by simpa using named⟩
  exact Option.isSome_iff_exists.mp found

variable {peerId : PeerId} {change : StoredChannel → StoredChannel} {other : Hex}

theorem mem_of_getActiveChannelByPeer (found : store.getActiveChannelByPeer peerId = some row) :
    row ∈ store ∧ row.peerId = peerId := by
  have holds := find?_some found
  simp only [decide_eq_true_eq] at holds
  exact ⟨mem_of_find?_eq_some found, holds.1⟩

theorem active_of_getActiveChannelByPeer (found : store.getActiveChannelByPeer peerId = some row) :
    row.channelKind = .paid ∧ row.status = .active := by
  have holds := find?_some found
  simp only [decide_eq_true_eq] at holds
  exact holds.2

theorem mem_of_getActiveChannels {channelKind : ChannelKind}
    (member : row ∈ store.getActiveChannels channelKind) : row ∈ store :=
  (mem_filter.mp member).1

theorem mem_updateChannel (member : row ∈ store.updateChannel sessionId change) :
    row ∈ store ∨ ∃ old ∈ store, old.sessionId = sessionId ∧ row = change old := by
  obtain ⟨old, inside, rfl⟩ := mem_map.mp member
  by_cases named : old.sessionId = sessionId
  · exact .inr ⟨old, inside, named, by simp [named]⟩
  · exact .inl (by simpa [named] using inside)

theorem forall_updateChannel {P : StoredChannel → Prop} (rows : ∀ row ∈ store, P row)
    (keeps : ∀ row, P row → P (change row)) :
    ∀ row ∈ store.updateChannel sessionId change, P row := by
  intro row member
  rcases mem_updateChannel member with old | ⟨old, inside, -, rfl⟩
  · exact rows row old
  · exact keeps old (rows old inside)

theorem stored_updateChannel (keeps : ∀ row, (change row).sessionId = row.sessionId)
    (stored : Stored store other) : Stored (store.updateChannel sessionId change) other := by
  obtain ⟨row, member, named⟩ := stored
  refine ⟨_, mem_map.mpr ⟨row, member, rfl⟩, ?_⟩
  split
  · rw [keeps, named]
  · exact named

theorem mem_upsertChannel (member : row ∈ store.upsertChannel channel) :
    row ∈ store ∨ row = channel ∨
      ∃ old ∈ store, old.sessionId = channel.sessionId ∧ row = old.overwrite channel := by
  unfold upsertChannel at member
  split at member
  · rcases mem_updateChannel member with inside | changed
    · exact .inl inside
    · exact .inr (.inr changed)
  · rcases mem_cons.mp member with rfl | inside
    · exact .inr (.inl rfl)
    · exact .inl inside

theorem forall_upsertChannel {P : StoredChannel → Prop} (rows : ∀ row ∈ store, P row)
    (fits : P channel) (keeps : ∀ old, P old → P (old.overwrite channel)) :
    ∀ row ∈ store.upsertChannel channel, P row := by
  intro row member
  rcases mem_upsertChannel member with old | rfl | ⟨old, inside, -, rfl⟩
  · exact rows row old
  · exact fits
  · exact keeps old (rows old inside)

theorem stored_upsertChannel_of_stored (stored : Stored store sessionId) :
    Stored (store.upsertChannel channel) sessionId := by
  unfold upsertChannel
  split
  · exact stored_updateChannel (fun _ => rfl) stored
  · obtain ⟨row, member, named⟩ := stored
    exact ⟨row, mem_cons_of_mem channel member, named⟩

theorem stored_upsertChannel : Stored (store.upsertChannel channel) channel.sessionId := by
  unfold upsertChannel
  split
  next found =>
    obtain ⟨row, known⟩ := Option.isSome_iff_exists.mp found
    exact stored_updateChannel (fun _ => rfl) (stored_of_getChannel known)
  · exact ⟨channel, mem_cons_self, rfl⟩

theorem getChannel_updateChannel (keeps : ∀ row, (change row).sessionId = row.sessionId) :
    (store.updateChannel sessionId change).getChannel other = (store.getChannel other).map fun row =>
      if row.sessionId = sessionId then change row else row := by
  unfold updateChannel getChannel
  rw [find?_map]
  congr 2
  funext row
  by_cases named : row.sessionId = sessionId <;> simp [named, keeps]

theorem getChannel_upsertChannel :
    (store.upsertChannel channel).getChannel other =
      if other = channel.sessionId then
        some (((store.getChannel other).map (·.overwrite channel)).getD channel)
      else store.getChannel other := by
  unfold upsertChannel
  by_cases here : other = channel.sessionId
  · subst here
    cases found : store.getChannel channel.sessionId with
    | none => simp [getChannel]
    | some row =>
      have named := (mem_of_getChannel found).2
      have overwritten := @getChannel_updateChannel store channel.sessionId
        (fun row => row.overwrite channel) channel.sessionId fun _ => rfl
      simp [overwritten, found, named]
  · rw [if_neg here]
    split
    · rw [@getChannel_updateChannel store channel.sessionId (fun row => row.overwrite channel) other
        fun _ => rfl]
      cases found : store.getChannel other with
      | none => rfl
      | some row =>
        have named : row.sessionId ≠ channel.sessionId := (mem_of_getChannel found).2 ▸ here
        simp [named]
    · have fresh : channel.sessionId ≠ other := fun same => here same.symm
      simp [getChannel, fresh]

end ChannelStore

end AntSeed.Seller
