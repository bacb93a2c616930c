import AntSeed.Seller.Upkeep

/-! # Claims are the buyer's own

What a seller keeps of a channel: the row names the buyer the channel's id was
made from, and every signature, in memory or in the row, is a SpendingAuth of
that buyer over the very amount and metadata it is kept with. Whoever changes
what is kept of a channel has to be its buyer, or the seller itself.
-/

namespace AntSeed.Seller

open Evm Async
open AntSeed.Payments (Signature Channel)
open Function
open ChannelStore (Stored)
open Manager ChannelStore
open Option

section Claims

variable (node : Node)

/-- A SpendingAuth over the channel, the amount and the hash of the metadata, by this buyer. -/
def IsSpendingAuth (buyer : Address) (channelId : Hex) (auth : LatestAuth) (sig : Signature) : Prop :=
  ∃ id amount hash, channelId.bytes32 = some id ∧ toUint 256 auth.cumulativeAmount = some amount ∧
    metadataHash node auth.metadata = some hash ∧ sig = ⟨buyer, .spendingAuth id amount hash⟩

/-- If there is a signature, it is the buyer's whose channel this is. -/
def Covers (channelId : Hex) (auth : LatestAuth) : Prop :=
  ∀ sig, auth.spendingAuthSig = some sig →
    ∃ buyer, Belongs node buyer channelId ∧ IsSpendingAuth node buyer channelId auth sig

structure RowFits (row : StoredChannel) : Prop where
  buyer : row.buyerEvmAddr = peerIdToAddress row.peerId
  belongs : Belongs node row.buyerEvmAddr row.sessionId
  covers : Covers node row.sessionId (persistedAuth row)

structure Fits (s : Manager) : Prop where
  rows : ∀ row ∈ s.store, RowFits node row
  auths : ∀ channelId auth, s.latestAuth channelId = some auth →
    Covers node channelId auth ∧ Stored s.store channelId
  accepted : ∀ channelId, s.acceptedCumulative channelId ≠ none → Stored s.store channelId

end Claims

/-- What is kept of a channel is the same in two states. -/
structure SameClaims (s s' : Manager) (channelId : Hex) : Prop where
  acceptedCumulative : s'.acceptedCumulative channelId = s.acceptedCumulative channelId
  latestAuth : s'.latestAuth channelId = s.latestAuth channelId
  reserveMax : s'.reserveMax channelId = s.reserveMax channelId
  pendingTopUp : s'.pendingTopUp channelId = s.pendingTopUp channelId
  blockedChannels : s'.blockedChannels channelId = s.blockedChannels channelId

/-- Rows stay. -/
def Lasts (s s' : Manager) : Prop := ∀ channelId, Stored s.store channelId → Stored s'.store channelId

section Owners

variable (node : Node) (owner : Option PeerId)

/-- The owner of a task may change what is kept of this channel; the seller may always. -/
def Mine (channelId : Hex) : Prop :=
  ∀ buyerPeerId, owner = some buyerPeerId → Belongs node (peerIdToAddress buyerPeerId) channelId

/-- What a task may change. -/
def Allows (s s' : Manager) : Prop :=
  Lasts s s' ∧ ∀ channelId, ¬ Mine node owner channelId → SameClaims s s' channelId

end Owners

/-! ## The condition

Two things go unchecked. A SpendingAuth for a session channel is verified
against its sender and not against the channel's buyer, and a close request's
auth is written beside the larger of its own amount and the row's.
-/

/-- The channel is somebody else's. -/
def Manager.isOfOther (s : Manager) (buyerPeerId : PeerId) (channelId : Hex) : Bool :=
  (s.store.getChannel channelId).any (·.buyerEvmAddr ≠ peerIdToAddress buyerPeerId)

/-- Going on from an await leads into neither of the two. -/
def Manager.heeds (node : Node) (s : Manager) : Wait → Bool
  | .lock buyerPeerId payload false =>
    !((s.acceptedCumulative payload.channelId).any (payload.passes node buyerPeerId) &&
      s.isOfOther buyerPeerId payload.channelId)
  | .closeAuth channelId amount => (s.store.getChannel channelId).all fun row =>
    decide (row.authMax ≤ amount) || s.holdsAtLeast channelId amount
  | _ => true

/-- What the tasks of an owner keep. -/
def contract (node : Node) (owner : Option PeerId) : Contract Manager Wait Reply where
  invariant := Fits node
  lasts := Lasts
  allows := Allows node owner
  asks _ _ _ := True
  resumes label _ s := s.heeds node label = true

section Basics

variable {node : Node} {owner : Option PeerId} {s s' s'' : Manager} {channelId : Hex}

theorem Belongs.unique (belongs : Belongs node buyer channelId)
    (belongs' : Belongs node other channelId) : buyer = other := by
  obtain ⟨seller, salt, made⟩ := belongs
  obtain ⟨seller', salt', made'⟩ := belongs'
  exact node.bindsBuyer (some.inj (made.symm.trans made'))

theorem Covers.of_none :
    Covers node channelId ⟨none, cumulativeAmount, metadata⟩ := nofun

theorem SameClaims.refl : SameClaims s s channelId := ⟨rfl, rfl, rfl, rfl, rfl⟩

theorem SameClaims.trans (first : SameClaims s s' channelId) (second : SameClaims s' s'' channelId) :
    SameClaims s s'' channelId where
  acceptedCumulative := second.acceptedCumulative.trans first.acceptedCumulative
  latestAuth := second.latestAuth.trans first.latestAuth
  reserveMax := second.reserveMax.trans first.reserveMax
  pendingTopUp := second.pendingTopUp.trans first.pendingTopUp
  blockedChannels := second.blockedChannels.trans first.blockedChannels

theorem Allows.refl : Allows node owner s s := ⟨fun _ stored => stored, fun _ _ => .refl⟩

theorem Allows.trans (first : Allows node owner s s') (second : Allows node owner s' s'') :
    Allows node owner s s'' :=
  ⟨fun id stored => second.1 id (first.1 id stored),
    fun id other => (first.2 id other).trans (second.2 id other)⟩

theorem contract_lawful : (contract node owner).Lawful where
  refl _ _ stored := stored
  trans first second id stored := second id (first id stored)
  idle _ := .refl
  andThen := Allows.trans
  within allowed := allowed.1

theorem contract_shared : Shared (contract node) (Fits node) Lasts where
  lawful _ := contract_lawful
  invariant _ := rfl
  lasts _ := rfl

theorem mine_none : Mine node none channelId := nofun

theorem RowFits.mine (fits : RowFits node row)
    (serves : Serves owner row.peerId) : Mine node owner row.sessionId := by
  intro buyerPeerId owned
  rw [serves buyerPeerId owned, ← fits.buyer]
  exact fits.belongs

theorem mine_of_belongs (belongs : Belongs node (peerIdToAddress buyerPeerId) channelId) :
    Mine node (some buyerPeerId) channelId := by
  intro other same
  obtain rfl := some.inj same
  exact belongs

end Basics

section Verified

variable {node : Node} {channelId : Hex} {buyerPeerId : PeerId} {payload : SpendingAuthPayload}
  {cumulativeAmount : Int}

theorem covers_of_verifyTypedData {hash : Hex} {sig : Option Signature}
    {metadata : HexData} (belongs : Belongs node buyer channelId)
    (hashes : ∀ word, hash.bytes32 = some word → metadataHash node metadata = some word)
    (verified : verifyTypedData (spendingAuthMessage channelId cumulativeAmount hash) sig buyer
      = some true) : Covers node channelId ⟨sig, cumulativeAmount, metadata⟩ := by
  intro held same
  obtain ⟨auth, builds, signed⟩ := verifyTypedData_eq_true verified
  obtain ⟨id, amount, word, reads, fits, hashed, rfl⟩ := spendingAuthMessage_eq_some builds
  refine ⟨buyer, belongs, id, amount, word, reads, fits, hashes word hashed, ?_⟩
  exact (some.inj (signed.symm.trans same)).symm

theorem covers_of_verifySpendingAuth (belongs : Belongs node (peerIdToAddress buyerPeerId) payload.channelId)
    (fits : metadataMatchesHash node payload = true)
    (verified : verifySpendingAuth buyerPeerId payload cumulativeAmount = some true) :
    Covers node payload.channelId (payload.latestAuth cumulativeAmount) :=
  covers_of_verifyTypedData belongs (fun _ => metadataHash_of_matches fits) verified

theorem metadataHash_of_readCloseAuth
    (reads : readCloseAuth node auth = some amount)
    (hashed : auth.metadataHash.bytes32 = some word) :
    metadataHash node auth.metadata = some word := by
  simp only [readCloseAuth, bind_eq_bind, bind_eq_some_iff] at reads
  obtain ⟨_, -, hash, hashes, met⟩ := reads
  split at met
  next holds =>
    obtain ⟨found, rfl⟩ := keccak256_eq_some node hashes
    rw [metadataHash_of_keccak256 node hashes, Hex.bytes32_ofWord,
      Hex.bytes32_of_toLowerCase holds.2 hashed]
  · cases met

theorem covers_of_verifyReserveBatch
    (belongs : Belongs node (peerIdToAddress buyerPeerId) payload.channelId)
    (verified : verifyReserveBatch node buyerPeerId payload batch openingReserve = some auth) :
    Covers node payload.channelId auth := by
  simp only [verifyReserveBatch, bind_eq_bind, bind_eq_some_iff] at verified
  obtain ⟨amount, -, _, -, _, -, signed, checked, _, -, met⟩ := verified
  split at met
  next holds =>
    obtain ⟨-, -, -, hashes, isSigned, -⟩ := holds
    obtain rfl := some.inj met
    rw [isSigned] at checked
    refine covers_of_verifyTypedData belongs (fun word reads => ?_) checked
    rw [metadataHash_of_keccak256 node hashes, reads]
  · cases met

theorem covers_of_oneOffTerms
    (belongs : Belongs node (peerIdToAddress buyerPeerId) payload.channelId)
    (agreed : oneOffTerms node buyerPeerId payload plan openingReserve reserveDeadline = some terms) :
    Covers node payload.channelId terms.latestAuth := by
  unfold oneOffTerms at agreed
  split at agreed
  · simp only [bind_eq_bind, bind_eq_some_iff] at agreed
    obtain ⟨batch, -, auth, verified, _, -, _, -, met⟩ := agreed
    split at met
    · obtain rfl := some.inj met
      exact covers_of_verifyReserveBatch belongs verified
    · cases met
  · split at agreed
    · cases agreed
    · obtain rfl := some.inj agreed
      exact .of_none

theorem belongs_of_heeds (fits : Fits node s)
    (heeded : s.heeds node (.lock buyerPeerId payload false) = true)
    (tracked : s.acceptedCumulative payload.channelId = some existing)
    (passes : payload.passes node buyerPeerId existing = true) :
    Belongs node (peerIdToAddress buyerPeerId) payload.channelId := by
  obtain ⟨row, found⟩ := getChannel_of_stored (fits.accepted payload.channelId (by simp [tracked]))
  obtain ⟨member, named⟩ := mem_of_getChannel found
  have buyer : row.buyerEvmAddr = peerIdToAddress buyerPeerId := by
    simpa [heeds, isOfOther, passes, tracked, found] using heeded
  rw [← buyer, ← named]
  exact (fits.rows row member).belongs

theorem Read.belongs
    (read : Read C node channelId onChain) (active : classifyOnChainChannel onChain = .active) :
    Belongs node onChain.buyer channelId := by
  obtain ⟨id, reply, reads, -, rfl, -⟩ := read.heard
  have isActive := isActive_of_classify active
  unfold storedAt at isActive ⊢
  split at isActive
  · cases isActive
  next fair =>
    rw [if_neg fair]
    simp only [isActive, true_and, not_not] at fair
    exact ⟨_, _, by rw [reads, fair]⟩

end Verified

/-- An update keeps the claims in order, and changes no claims that are not its owner's. -/
def Kept (node : Node) (owner : Option PeerId) (s s' : Manager) : Prop :=
  Fits node s' ∧ Allows node owner s s'

section Updates

variable {node : Node} {owner : Option PeerId} {s s' s'' : Manager} {channelId : Hex}
  {row : StoredChannel} {auth : LatestAuth}

theorem Kept.refl (fits : Fits node s) : Kept node owner s s := ⟨fits, .refl⟩

theorem Kept.trans (first : Kept node owner s s') (second : Fits node s' → Kept node owner s' s'') :
    Kept node owner s s'' :=
  ⟨(second first.1).1, first.2.trans (second first.1).2⟩

theorem kept_quiet (fits : Fits node s) (store : s'.store = s.store)
    (same : ∀ channelId, SameClaims s s' channelId) : Kept node owner s s' where
  left := {
    rows := by rw [store]; exact fits.rows
    auths := fun id auth held => by
      rw [store]
      exact fits.auths id auth ((same id).latestAuth.symm.trans held)
    accepted := fun id tracked => by
      rw [store]
      exact fits.accepted id ((same id).acceptedCumulative ▸ tracked) }
  right := ⟨fun id stored => by rwa [store], fun id _ => same id⟩

theorem kept_at (fits : Fits node s) (mine : Mine node owner channelId) (lasts : Lasts s s')
    (rows : ∀ row ∈ s'.store, RowFits node row)
    (others : ∀ id, id ≠ channelId → SameClaims s s' id)
    (auths : ∀ auth, s'.latestAuth channelId = some auth →
      s.latestAuth channelId = some auth ∨ Covers node channelId auth ∧ Stored s'.store channelId)
    (tracked : s'.acceptedCumulative channelId ≠ none →
      s.acceptedCumulative channelId ≠ none ∨ Stored s'.store channelId) :
    Kept node owner s s' where
  left := {
    rows := rows
    auths := fun id auth held => by
      by_cases here : id = channelId
      · subst here
        rcases auths auth held with old | new
        · exact ⟨(fits.auths id auth old).1, lasts id (fits.auths id auth old).2⟩
        · exact new
      · rw [(others id here).latestAuth] at held
        exact ⟨(fits.auths id auth held).1, lasts id (fits.auths id auth held).2⟩
    accepted := fun id found => by
      by_cases here : id = channelId
      · subst here
        rcases tracked found with old | new
        · exact lasts id (fits.accepted id old)
        · exact new
      · rw [(others id here).acceptedCumulative] at found
        exact lasts id (fits.accepted id found) }
  right := ⟨lasts, fun id other => others id fun here => other (here ▸ mine)⟩

theorem kept_rows (fits : Fits node s) (lasts : Lasts s s')
    (rows : ∀ row ∈ s'.store, RowFits node row) (same : ∀ channelId, SameClaims s s' channelId) :
    Kept node owner s s' where
  left := {
    rows := rows
    auths := fun id auth held => by
      rw [(same id).latestAuth] at held
      exact ⟨(fits.auths id auth held).1, lasts id (fits.auths id auth held).2⟩
    accepted := fun id found => by
      rw [(same id).acceptedCumulative] at found
      exact lasts id (fits.accepted id found) }
  right := ⟨lasts, fun id _ => same id⟩

variable {change : StoredChannel → StoredChannel} {settledAmount : Option Int}
  {status : ChannelStatus} {peerId : Option PeerId}

theorem rows_updateChannel (fits : Fits node s)
    (keeps : ∀ row, RowFits node row → RowFits node (change row)) :
    ∀ row ∈ s.store.updateChannel channelId change, RowFits node row := by
  intro row member
  rcases mem_updateChannel member with old | ⟨old, inside, -, rfl⟩
  · exact fits.rows row old
  · exact keeps old (fits.rows old inside)

theorem RowFits.overwrite (fits : RowFits node old) (fits' : RowFits node row)
    (same : old.sessionId = row.sessionId) : RowFits node (old.overwrite row) where
  buyer := fits.buyer
  belongs := fits.belongs
  covers sig held := by
    obtain ⟨buyer, belongs, signed⟩ := fits'.covers sig held
    rw [← same] at belongs signed
    exact ⟨buyer, belongs, signed⟩

section

variable (fits : Fits node s)

include fits

theorem rows_upsertChannel (fits' : RowFits node row) :
    ∀ other ∈ s.store.upsertChannel row, RowFits node other := by
  intro other member
  rcases mem_upsertChannel member with old | rfl | ⟨old, inside, same, rfl⟩
  · exact fits.rows other old
  · exact fits'
  · exact (fits.rows old inside).overwrite fits' same

theorem kept_upsertChannel (fits' : RowFits node row) :
    Kept node owner s { s with store := s.store.upsertChannel row } :=
  kept_rows fits (fun _ => stored_upsertChannel_of_stored)
    (rows_upsertChannel fits fits') fun _ => ⟨rfl, rfl, rfl, rfl, rfl⟩

theorem kept_setStatus : Kept node owner s (s.setStatus channelId status settledAmount) :=
  kept_rows fits (fun _ => stored_updateChannel fun _ => rfl)
    (rows_updateChannel fits fun _ old => ⟨old.buyer, old.belongs, old.covers⟩)
    fun _ => ⟨rfl, rfl, rfl, rfl, rfl⟩

theorem kept_recordSpend : Kept node owner s (s.recordSpend channelId costUsdc) := by
  unfold recordSpend
  split
  · exact .refl fits
  · exact kept_rows fits (fun _ => stored_updateChannel fun _ => rfl)
      (rows_updateChannel fits fun _ old => ⟨old.buyer, old.belongs, old.covers⟩)
      fun _ => ⟨rfl, rfl, rfl, rfl, rfl⟩

theorem kept_rewriteChannel
    (keeps : ∀ row, s.store.getChannel channelId = some row → RowFits node row →
      RowFits node (change row)) : Kept node owner s (s.rewriteChannel channelId change) := by
  unfold rewriteChannel
  split
  next row found =>
    exact kept_upsertChannel fits (keeps row found (fits.rows row (mem_of_getChannel found).1))
  · exact .refl fits

theorem kept_claimOneOffChannel : Kept node owner s (s.claimOneOffChannel channelId) := by
  unfold claimOneOffChannel
  split
  · exact .refl fits
  next row found =>
    split
    · have old := fits.rows row (mem_of_getChannel found).1
      exact kept_upsertChannel fits ⟨old.buyer, old.belongs, old.covers⟩
    · exact .refl fits

theorem kept_deactivateBuyerForChannel {peerId : PeerId} :
    Kept node owner s (s.deactivateBuyerForChannel peerId channelId) := by
  unfold deactivateBuyerForChannel
  split
  · exact kept_quiet fits rfl fun _ => ⟨rfl, rfl, rfl, rfl, rfl⟩
  · split
    · exact kept_quiet fits rfl fun _ => ⟨rfl, rfl, rfl, rfl, rfl⟩
    · exact .refl fits

theorem kept_releaseBuyer : Kept node owner s (s.releaseBuyer peerId channelId) := by
  unfold releaseBuyer
  split
  · exact kept_quiet fits rfl fun _ => ⟨rfl, rfl, rfl, rfl, rfl⟩
  · split
    · exact kept_deactivateBuyerForChannel fits
    · exact .refl fits

section

variable (mine : Mine node owner channelId)

include mine

theorem kept_deleteChannel : Kept node owner s (s.deleteChannel channelId) := by
  refine kept_at fits mine (fun _ stored => stored) fits.rows (fun id other => ?_) ?_ ?_
  · constructor <;> simp [deleteChannel, other]
  · simp [deleteChannel]
  · simp [deleteChannel]

theorem kept_evictStaleChannel {peerId : PeerId} :
    Kept node owner s (s.evictStaleChannel channelId peerId status) :=
  (kept_setStatus fits).trans fun fits => (kept_deleteChannel fits mine).trans kept_releaseBuyer

theorem kept_forgetChannel : Kept node owner s (s.forgetChannel channelId peerId) := by
  refine (kept_deleteChannel fits mine).trans fun fits => ?_
  have forgotten : Kept node owner (s.deleteChannel channelId) (s.forgetChannelState channelId) :=
    kept_quiet fits rfl fun _ => ⟨rfl, rfl, rfl, rfl, rfl⟩
  exact forgotten.trans kept_releaseBuyer

theorem kept_retire :
    Kept node owner s ((s.setStatus channelId status settledAmount).forgetChannel channelId peerId) :=
  (kept_setStatus fits).trans fun fits => kept_forgetChannel fits mine

end

section

variable (fits' : RowFits node row) (mine : Mine node owner row.sessionId)
  (covers : Covers node row.sessionId auth)

include fits' mine covers

theorem kept_activate
    (store : s'.store = s.store.upsertChannel row)
    (latestAuth : s'.latestAuth = update s.latestAuth row.sessionId (some auth))
    (others : ∀ id, id ≠ row.sessionId → SameClaims s s' id) : Kept node owner s s' := by
  have stored : Stored s'.store row.sessionId := store ▸ stored_upsertChannel
  refine kept_at fits mine (fun id old => ?_) ?_ others (fun held same => ?_) fun _ => .inr stored
  · rw [store]
    exact stored_upsertChannel_of_stored old
  · rw [store]
    exact rows_upsertChannel fits fits'
  · rw [latestAuth, Function.update_self] at same
    exact .inr ⟨some.inj same ▸ covers, stored⟩

theorem kept_activateSession {cumulativeAmount reserveMaxAmount spent : Int}
    :
    Kept node owner s
      (s.activateSession row buyerPeerId cumulativeAmount reserveMaxAmount spent auth) := by
  refine kept_activate fits fits' mine covers rfl rfl fun id other => ?_
  constructor <;> simp [activateSession, other]

theorem kept_activateOneOff :
    Kept node owner s (s.activateOneOff row auth) := by
  refine kept_activate fits fits' mine covers rfl rfl fun id other => ?_
  constructor <;> simp [Manager.activateOneOff, other]

end

theorem kept_restorePersistedSpendingAuth (fits' : RowFits node row)
    (mine : Mine node owner row.sessionId) (stored : Stored s.store row.sessionId) :
    Kept node owner s (s.restorePersistedSpendingAuth row) := by
  unfold restorePersistedSpendingAuth
  split
  · exact .refl fits
  · refine kept_at fits mine (fun _ stored => stored) fits.rows (fun id other => ?_)
      (fun held same => ?_) fun _ => .inr stored
    · constructor <;> simp [other]
      split <;> simp [other]
    · simp only [Function.update_self, some.injEq] at same
      subst same
      exact .inr ⟨fits'.covers, stored⟩

section

variable (mine : Mine node owner channelId)

include mine

theorem kept_recordSpendingAuth
    (covers : Covers node channelId auth) (stored : Stored s.store channelId) :
    Kept node owner s (s.recordSpendingAuth channelId auth) := by
  have held : Kept node owner s { s with
      acceptedCumulative := update s.acceptedCumulative channelId (some auth.cumulativeAmount)
      latestAuth := update s.latestAuth channelId (some auth) } := by
    refine kept_at fits mine (fun _ stored => stored) fits.rows (fun id other => ?_)
      (fun held same => ?_) fun _ => .inr stored
    · constructor <;> simp [other]
    · simp only [Function.update_self, some.injEq] at same
      subst same
      exact .inr ⟨covers, stored⟩
  refine held.trans fun fits => kept_rewriteChannel fits fun row found old => ?_
  refine ⟨old.buyer, old.belongs, ?_⟩
  rw [(mem_of_getChannel found).2]
  exact covers

theorem kept_recordTopUp :
    Kept node owner s (s.recordTopUp channelId newMaxAmount deadline) := by
  have raised : Kept node owner s { s with
      reserveMax := update s.reserveMax channelId (some newMaxAmount) } := by
    refine kept_at fits mine (fun _ stored => stored) fits.rows (fun id other => ?_) (fun _ => .inl) .inl
    constructor <;> simp [other]
  refine raised.trans fun fits => kept_rewriteChannel fits fun row _ old => ?_
  exact ⟨old.buyer, old.belongs, old.covers⟩

theorem kept_storePendingTopUp :
    Kept node owner s (s.storePendingTopUp channelId pending) := by
  unfold storePendingTopUp
  split
  · refine kept_at fits mine (fun _ stored => stored) fits.rows (fun id other => ?_) (fun _ => .inl) .inl
    constructor <;> simp [other]
  · exact .refl fits

theorem kept_deletePendingTopUp : Kept node owner s (s.deletePendingTopUp channelId) := by
  refine kept_at fits mine (fun _ stored => stored) fits.rows (fun id other => ?_) (fun _ => .inl) .inl
  constructor <;> simp [deletePendingTopUp, other]

theorem kept_blockChannel : Kept node owner s (s.blockChannel channelId) := by
  refine kept_at fits mine (fun _ stored => stored) fits.rows (fun id other => ?_) (fun _ => .inl) .inl
  constructor <;> simp [blockChannel, other]

theorem kept_trackUntopped :
    Kept node owner s (s.trackUntopped channelId openingReserve) := by
  refine kept_at fits mine (fun _ stored => stored) fits.rows (fun id other => ?_) (fun _ => .inl) .inl
  constructor <;> simp [trackUntopped, other]

theorem kept_reconcileSpent :
    Kept node owner s (s.reconcileSpent channelId onChainSettled) := by
  unfold reconcileSpent
  split
  · refine kept_at fits mine (fun _ stored => stored) fits.rows (fun id other => ?_)
      (fun held same => ?_) .inl
    · constructor <;> simp
      split <;> simp [other]
    · split at same
      · simp at same
      · exact .inl same
  · exact .refl fits

theorem kept_adoptBuyerCloseAuth
    (covers : Covers node channelId auth) (stored : Stored s.store channelId)
    (heeded : s.heeds node (.closeAuth channelId auth.cumulativeAmount) = true) :
    Kept node owner s (s.adoptBuyerCloseAuth channelId auth) := by
  unfold adoptBuyerCloseAuth
  split
  · exact .refl fits
  next fresh =>
    have held : Kept node owner s { s with
        latestAuth := update s.latestAuth channelId (some auth)
        acceptedCumulative :=
          if auth.cumulativeAmount > (s.acceptedCumulative channelId).getD 0 then
            update s.acceptedCumulative channelId (some auth.cumulativeAmount)
          else s.acceptedCumulative } := by
      refine kept_at fits mine (fun _ stored => stored) fits.rows (fun id other => ?_)
        (fun held same => ?_) fun _ => .inr stored
      · constructor <;> simp [other]
        split <;> simp [other]
      · simp only [Function.update_self, some.injEq] at same
        subst same
        exact .inr ⟨covers, stored⟩
    refine held.trans fun fits => kept_rewriteChannel fits fun row found old => ?_
    have below : row.authMax ≤ auth.cumulativeAmount := by
      simp only [heeds, Bool.eq_false_of_not_eq_true fresh, Bool.or_false] at heeded
      simpa [found] using heeded
    refine ⟨old.buyer, old.belongs, ?_⟩
    rw [(mem_of_getChannel found).2]
    simpa [persistedAuth, max_eq_left below] using covers

end

end

end Updates

variable {node : Node} {owner : Option PeerId} {s s' : Manager} {channelId : Hex}

theorem Works.mine (works : Works (contract node owner) node owner channelId) :
    Mine node owner channelId := by
  cases works with
  | seller own =>
    subst own
    exact mine_none
  | row row was serves named =>
    obtain ⟨s, fits, member⟩ := was
    subst named
    exact (fits.rows row member).mine serves
  | signed buyerPeerId payload existing own taken passes named =>
    obtain ⟨s, fits, tracked, _, heeded⟩ := taken
    subst own named
    exact mine_of_belongs (belongs_of_heeds fits heeded tracked passes)
  | belongs buyerPeerId own belongs =>
    subst own
    exact mine_of_belongs belongs

variable {C : Contract Manager Wait Reply} {buyerPeerId : PeerId} {payload : SpendingAuthPayload}
  {tx : ReserveTx}

theorem ReservedBy.belongs (reserved : ReservedBy C node buyerPeerId payload tx) :
    Belongs node (peerIdToAddress buyerPeerId) payload.channelId := by
  obtain ⟨-, signed, buyer, sig, verified⟩ := reserved
  obtain ⟨_, salt, maxAmount, deadline, _, request⟩ := tx
  subst buyer sig
  exact belongs_of_reserve verified signed

theorem kept_of_alike (fits : Fits node s) (alike : Alike s s') : Kept node owner s s' :=
  kept_quiet fits alike.store fun channelId => {
    acceptedCumulative := congrFun alike.acceptedCumulative channelId
    latestAuth := congrFun alike.latestAuth channelId
    reserveMax := congrFun alike.reserveMax channelId
    pendingTopUp := congrFun alike.pendingTopUp channelId
    blockedChannels := congrFun alike.blockedChannels channelId }

theorem ReservedBy.mine (reserved : ReservedBy C node buyerPeerId payload tx) :
    Mine node (some buyerPeerId) payload.channelId :=
  mine_of_belongs reserved.belongs

theorem kept_of_act (fits : Fits node s) (act : Act (contract node owner) node owner s s') :
    Kept node owner s s' := by
  cases act with
  | quiet alike => exact kept_of_alike fits alike
  | storePendingTopUp channelId pending works => exact kept_storePendingTopUp fits works.mine
  | deletePendingTopUp channelId works => exact kept_deletePendingTopUp fits works.mine
  | blockChannel channelId works => exact kept_blockChannel fits works.mine
  | beginClose | endClose | agree | keepOneOff | elapse => exact kept_quiet fits rfl fun _ => ⟨rfl, rfl, rfl, rfl, rfl⟩
  | retire channelId status settledAmount peerId works => exact kept_retire fits works.mine
  | evict channelId peerId status works => exact kept_evictStaleChannel fits works.mine
  | forget channelId buyerPeerId works => exact kept_forgetChannel fits works.mine
  | setStatus => exact kept_setStatus fits
  | restore row works since =>
    obtain ⟨s₀, fits₀, member, lasts⟩ := since
    exact kept_restorePersistedSpendingAuth fits (fits₀.rows row member) works.mine
      (lasts _ ⟨row, member, rfl⟩)
  | recover buyerPeerId payload cumulativeAmount onChain own taken matching read active parties verified =>
      subst own
      simp only [matchesChannelParties, decide_eq_true_eq] at parties
      have belongs := parties.1 ▸ read.belongs active
      have covers := covers_of_verifySpendingAuth belongs matching verified
      exact kept_activateSession fits ⟨rfl, belongs, covers⟩ (mine_of_belongs belongs) covers
  | reserve buyerPeerId payload cumulativeAmount tx now own taken named reserved =>
    subst own
    exact kept_activateSession fits ⟨rfl, reserved.belongs, .of_none⟩ reserved.mine .of_none
  | recordSpendingAuth buyerPeerId payload cumulativeAmount existing own since matching named verified more =>
      subst own
      obtain ⟨s₀, fits₀, ⟨tracked, _, heeded⟩, lasts⟩ := since
      have belongs := belongs_of_heeds fits₀ heeded tracked (passes_spending matching named more verified)
      have stored := fits₀.accepted payload.channelId (by simp [tracked])
      exact kept_recordSpendingAuth fits (mine_of_belongs belongs)
        (covers_of_verifySpendingAuth belongs matching verified) (lasts _ stored)
  | recordOneOffAuth buyerPeerId payload cumulativeAmount row own found peer oneOff matching verified =>
      subst own
      obtain ⟨member, named⟩ := mem_of_getChannel found
      have fitsRow := fits.rows row member
      have belongs : Belongs node (peerIdToAddress buyerPeerId) payload.channelId := by
        rw [← named, ← peer, ← fitsRow.buyer]
        exact fitsRow.belongs
      exact kept_recordSpendingAuth fits (mine_of_belongs belongs)
        (covers_of_verifySpendingAuth belongs matching verified)
        (stored_of_getChannel found)
  | recordTopUp channelId params pending works => exact kept_recordTopUp fits works.mine
  | adopt row auth amount serves since reads verified resumed =>
    obtain ⟨s₀, fits₀, ⟨member, -⟩, lasts⟩ := since
    obtain ⟨_, heeded⟩ := resumed
    have fitsRow := fits₀.rows row member
    have covers : Covers node row.sessionId ⟨auth.spendingAuthSig, amount, auth.metadata⟩ :=
      covers_of_verifyTypedData fitsRow.belongs
        (fun _ hashed => metadataHash_of_readCloseAuth reads hashed) (of_decide_eq_true verified)
    exact kept_adoptBuyerCloseAuth fits (fitsRow.mine serves) covers (lasts _ ⟨row, member, rfl⟩) heeded
  | reconcileSpent channelId onChain own =>
    subst own
    exact kept_reconcileSpent fits mine_none
  | recordOpening buyerPeerId payload requestId plan terms tx now own agreed reserved =>
    exact kept_upsertChannel fits ⟨rfl, reserved.belongs, .of_none⟩
  | activateOneOff buyerPeerId payload requestId plan terms tx now own agreed reserved =>
    subst own
    have covers := covers_of_oneOffTerms reserved.belongs agreed.terms
    exact kept_activateOneOff fits ⟨rfl, reserved.belongs, covers⟩ reserved.mine covers
  | trackUntopped buyerPeerId payload requestId plan terms tx own agreed reserved =>
    subst own
    exact kept_trackUntopped fits reserved.mine

theorem kept_of_serving {chore : Chore} {write : Manager → Manager} (fits : Fits node s)
    (serving : chore.serving = some write) : Kept node owner s (write s) := by
  cases chore with
  | recordSpend =>
    cases serving
    exact kept_recordSpend fits
  | beginBillableRequest | endBillableRequest | registerOneOffPlan =>
    cases serving
    exact kept_quiet fits rfl fun _ => ⟨rfl, rfl, rfl, rfl, rfl⟩
  | claimOneOffChannel =>
    cases serving
    exact kept_claimOneOffChannel fits
  | _ => cases serving

theorem contract_permits : Permits (contract node owner) node owner where
  lawful := contract_lawful
  acts fits act := kept_of_act fits act
  asks _ := trivial
  closes _ _ _ _ _ _ := trivial
  reserves _ _ _ _ := trivial

end AntSeed.Seller
