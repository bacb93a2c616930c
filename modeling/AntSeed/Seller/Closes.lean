import AntSeed.Seller.Runs

/-! # Closes and what is recorded of them

Whoever closes a channel finds the promise of a close that is under way and
waits for it, so a channel has one close at a time, and everybody who waits for
it hears the same. What a row records of a settlement was heard of the chain.
-/

namespace AntSeed.Seller.Closes

open Evm Async
open AntSeed.Payments (Channel)
open Function (update)
open ChannelStore (Stored)
open ChannelStore Manager
open Option List

/-! ## What is recorded -/

/-- What is recorded of a channel: the amount of a close that went through, or what the chain had when
    it was read and the channel was over, or zero if it had nothing. -/
inductive Justified (node : Node) (Seen : Wait → Reply → Prop) (channelId : Hex) : Int → Prop
  | closed (tx : CloseTx) (reply : Reply) (amount : Int) (seen : Seen (.close tx) reply)
      (named : tx.channelId = channelId) (result : tx.result reply = .closed amount) :
      Justified node Seen channelId amount
  | read (id : Word) (reply : Reply) (seen : Seen (.session channelId) reply)
      (found : channelId.bytes32 = some id) (answered : reply.error = none)
      (gone : classifyOnChainChannel (storedAt node id reply) = .settled ∨
        classifyOnChainChannel (storedAt node id reply) = .timeout) :
      Justified node Seen channelId (storedAt node id reply).settled
  | missing (id : Word) (reply : Reply) (seen : Seen (.session channelId) reply)
      (found : channelId.bytes32 = some id) (answered : reply.error = none)
      (gone : classifyOnChainChannel (storedAt node id reply) = .missing) :
      Justified node Seen channelId 0

/-- What the chain had settled of a channel when a returning buyer took it up again, open as it was. -/
structure Recovered (node : Node) (Seen : Wait → Reply → Prop) (channelId : Hex) (amount : Int) : Prop where
  positive : 0 < amount
  read : ∃ id reply, Seen (.session channelId) reply ∧ channelId.bytes32 = some id ∧ reply.error = none ∧
    classifyOnChainChannel (storedAt node id reply) = .active ∧ (storedAt node id reply).settled = amount

def Outcome (log : List (Wait × Reply)) (channelId : Hex) (operation : Nat) (result : CloseResult) : Prop :=
  ∃ tx reply, (.close tx, reply) ∈ log ∧ tx.channelId = channelId ∧ tx.operation = operation ∧
    tx.result reply = result

/-- The channel's row is among those whose close is tried again. -/
def IsGivenUp (s : Manager) (channelId : Hex) : Prop :=
  ∃ row ∈ s.store.getUnsettledChannelsByStatus .timeout, s.store.getChannel channelId = some row

def IsRecorded (s : Manager) (channelId : Hex) : Prop :=
  ∃ row, s.store.getChannel channelId = some row ∧ (row.status = .settled ∨ row.settledAt.isSome)

section Contract

variable (node : Node) (Seen : Wait → Reply → Prop)

/-- A settlement is recorded with its amount. An amount without one stands for what was settled while the
    channel was still open. -/
structure RowTruthful (row : StoredChannel) : Prop where
  status : row.status ≠ .ghost
  settled : row.settledAt.isSome →
    ∃ amount, row.settledAmount = some amount ∧ Justified node Seen row.sessionId amount
  unsettled : row.settledAt = none → ∀ amount ∈ row.settledAmount, Recovered node Seen row.sessionId amount

structure Truthful (s : Manager) : Prop where
  rows : ∀ row ∈ s.store, RowTruthful node Seen row
  results : ∀ channelId operation result, s.closeResults channelId operation = some result →
    ∃ tx reply, Seen (.close tx) reply ∧ tx.channelId = channelId ∧ tx.operation = operation ∧
      tx.result reply = result

def IsOver (store : ChannelStore) (channelId : Hex) : Prop :=
  ∃ row, store.getChannel channelId = some row ∧ row.status ≠ .active

/-- Rows stay, and only on a buyer's message does a channel become active again. -/
structure Rows (owner : Option PeerId) (store store' : ChannelStore) : Prop where
  stored : ∀ channelId, Stored store channelId → Stored store' channelId
  stays : owner = none → ∀ channelId, IsOver store channelId → IsOver store' channelId

/-- What a stretch may change: a promise goes once its close has an answer, and new ones get new
    numbers. -/
structure Allows (owner : Option PeerId) (s s' : Manager) : Prop where
  rows : Rows owner s.store s'.store
  closes : s.closes ≤ s'.closes
  closing : ∀ channelId operation, s.closingChannels channelId = some operation →
    s'.closingChannels channelId = some operation ∨
      ∃ tx reply, Seen (.close tx) reply ∧ tx.operation = operation

structure Promised (since : Manager) (tx : CloseTx) (s : Manager) : Prop where
  closing : s.closingChannels tx.channelId = some tx.operation
  new : since.closes ≤ tx.operation
  used : tx.operation < s.closes

/-- What tasks keep, given everything that is heard. -/
def contract (owner : Option PeerId) : Contract Manager Wait Reply where
  invariant := Truthful node Seen
  lasts _ _ := True
  allows := Allows Seen owner
  asks label since s := ∀ tx, label = .close tx → Promised since tx s
  resumes label reply _ := Seen label reply

end Contract

section Basics

variable {node : Node} {Seen : Wait → Reply → Prop} {owner : Option PeerId} {s s' s'' : Manager}
  {store store' store'' : ChannelStore} {channelId : Hex} {amount : Int}

theorem Rows.refl : Rows owner store store := ⟨fun _ stored => stored, fun _ _ gone => gone⟩

theorem Rows.trans (first : Rows owner store store') (second : Rows owner store' store'') :
    Rows owner store store'' where
  stored id stored := second.stored id (first.stored id stored)
  stays own id gone := second.stays own id (first.stays own id gone)

theorem Allows.trans (first : Allows Seen owner s s') (second : Allows Seen owner s' s'') :
    Allows Seen owner s s'' where
  rows := first.rows.trans second.rows
  closes := first.closes.trans second.closes
  closing id operation closing := by
    rcases first.closing id operation closing with still | answered
    · exact second.closing id operation still
    · exact .inr answered

theorem Allows.refl : Allows Seen owner s s := ⟨.refl, le_rfl, fun _ _ closing => .inl closing⟩

theorem contract_lawful : (contract node Seen owner).Lawful where
  refl _ := trivial
  trans _ _ := trivial
  idle _ := .refl
  andThen := Allows.trans
  within _ := trivial

theorem contract_shared : Shared (contract node Seen) (Truthful node Seen) fun _ _ => True where
  lawful _ := contract_lawful
  invariant _ := rfl
  lasts _ := rfl

theorem justified_of_closed (closed : Closed (contract node Seen owner) channelId amount) :
    Justified node Seen channelId amount := by
  cases closed with
  | own tx reply heard named result =>
    obtain ⟨_, -, seen⟩ := heard
    exact .closed tx reply amount seen named result
  | joined operation joined result =>
    obtain ⟨s, truthful, found⟩ := result
    obtain ⟨tx, reply, seen, named, -, result⟩ := truthful.results _ _ _ found
    exact .closed tx reply amount seen named result

theorem justified_of_verdict
    (verdict : Verdict (contract node Seen owner) node channelId status settledAmount) :
    (status = .settled ∨ status = .timeout) ∧
      ∀ amount ∈ settledAmount, Justified node Seen channelId amount := by
  cases verdict with
  | closed amount closed =>
    refine ⟨.inl rfl, fun a marked => ?_⟩
    rw [← mem_some.mp marked]
    exact justified_of_closed closed
  | closedAway | notOpen | notOurs => exact ⟨.inl rfl, nofun⟩
  | givenUp => exact ⟨.inr rfl, nofun⟩
  | readSettled onChain read settled =>
    obtain ⟨id, reply, found, answered, rfl, _, -, seen⟩ := read.heard
    refine ⟨.inl rfl, fun a marked => ?_⟩
    rw [← mem_some.mp marked]
    exact .read id reply seen found answered (.inl settled)
  | readTimeout onChain read timeout =>
    obtain ⟨id, reply, found, answered, rfl, _, -, seen⟩ := read.heard
    refine ⟨.inr rfl, fun a marked => ?_⟩
    rw [← mem_some.mp marked]
    exact .read id reply seen found answered (.inr timeout)
  | readMissing onChain read missing =>
    obtain ⟨id, reply, found, answered, rfl, _, -, seen⟩ := read.heard
    refine ⟨.inr rfl, fun a marked => ?_⟩
    rw [← mem_some.mp marked]
    exact .missing id reply seen found answered missing

end Basics

/-! ## Rows -/

/-- A row is of the same channel and records the same of it. -/
structure SameRecord (row row' : StoredChannel) : Prop where
  sessionId : row'.sessionId = row.sessionId
  status : row'.status = row.status
  settledAt : row'.settledAt = row.settledAt
  settledAmount : row'.settledAmount = row.settledAmount

/-- An update of rows keeps what they record justified. -/
def Keeps (node : Node) (Seen : Wait → Reply → Prop) (owner : Option PeerId)
    (store store' : ChannelStore) : Prop :=
  (∀ row ∈ store, RowTruthful node Seen row) →
    (∀ row ∈ store', RowTruthful node Seen row) ∧ Rows owner store store'

section Stores

variable {node : Node} {Seen : Wait → Reply → Prop} {owner : Option PeerId} {s s' : Manager}
  {store : ChannelStore} {channelId : Hex} {row : StoredChannel}

theorem Keeps.refl : Keeps node Seen owner store store := fun rows => ⟨rows, .refl⟩

theorem RowTruthful.same (old : RowTruthful node Seen row) (same : SameRecord row row') :
    RowTruthful node Seen row' := by
  obtain ⟨named, status, settledAt, settledAmount⟩ := same
  refine ⟨status ▸ old.status, ?_, ?_⟩
  · rw [named, settledAt, settledAmount]
    exact old.settled
  · rw [named, settledAt, settledAmount]
    exact old.unsettled

variable {change : StoredChannel → StoredChannel}

theorem keeps_updateChannel (keeps : ∀ row, row.sessionId = channelId → RowTruthful node Seen row →
      RowTruthful node Seen (change row)) (named : ∀ row, (change row).sessionId = row.sessionId)
    (stays : ∀ row, row.status ≠ .active → (change row).status ≠ .active) :
    Keeps node Seen owner store (store.updateChannel channelId change) := by
  refine fun rows => ⟨fun row member => ?_, fun id => stored_updateChannel named, fun _ id gone => ?_⟩
  · rcases mem_updateChannel member with old | ⟨old, inside, same, rfl⟩
    · exact rows row old
    · exact keeps old same (rows old inside)
  · obtain ⟨row, found, inactive⟩ := gone
    refine ⟨_, by rw [getChannel_updateChannel named, found]; rfl, ?_⟩
    dsimp only
    split
    · exact stays row inactive
    · exact inactive

theorem keeps_updateChannelStatus
    (verdict : Verdict (contract node Seen owner) node channelId status settledAmount) :
    Keeps node Seen owner store (store.updateChannelStatus channelId status settledAmount time) := by
  obtain ⟨marked, justified⟩ := justified_of_verdict verdict
  refine keeps_updateChannel (fun row named old => ?_) (fun _ => rfl) fun row _ => ?_
  · have notGhost : status ≠ .ghost := by rcases marked with rfl | rfl <;> simp
    cases settledAmount with
    | some amount => exact ⟨notGhost, fun _ => ⟨amount, rfl, named ▸ justified amount rfl⟩, nofun⟩
    | none => exact ⟨notGhost, old.settled, old.unsettled⟩
  · rcases marked with rfl | rfl <;> simp

theorem keeps_upsertChannel (own : owner = some buyerPeerId) (active : row.status = .active)
    (unsettled : row.settledAt = none)
    (recovered : ∀ amount ∈ row.settledAmount, Recovered node Seen row.sessionId amount) :
    Keeps node Seen owner store (store.upsertChannel row) := by
  refine fun rows => ⟨fun other inside => ?_, fun id => stored_upsertChannel_of_stored,
    fun none => by rw [own] at none; cases none⟩
  have fits : RowTruthful node Seen row := ⟨by simp [active], by simp [unsettled], fun _ => recovered⟩
  rcases mem_upsertChannel inside with old | rfl | ⟨old, -, same, rfl⟩
  · exact rows other old
  · exact fits
  · exact fits.same ⟨same, rfl, rfl, rfl⟩

theorem keeps_rewrite (found : store.getChannel channelId = some row) (same : SameRecord row row') :
    Keeps node Seen owner store (store.upsertChannel row') := by
  intro rows
  obtain ⟨member, here⟩ := mem_of_getChannel found
  have truthful := (rows row member).same same
  obtain ⟨named, status, -, -⟩ := same
  refine ⟨fun other inside => ?_, fun id => stored_upsertChannel_of_stored, fun _ id gone => ?_⟩
  · rcases mem_upsertChannel inside with old | rfl | ⟨old, -, same, rfl⟩
    · exact rows other old
    · exact truthful
    · exact truthful.same ⟨same, rfl, rfl, rfl⟩
  · obtain ⟨other, known, inactive⟩ := gone
    rw [IsOver, getChannel_upsertChannel]
    split
    next same =>
      rw [same, named, here, found] at known
      obtain rfl := some.inj known
      refine ⟨_, rfl, ?_⟩
      rw [same, named, here, found]
      show row'.status ≠ .active
      rw [status]
      exact inactive
    · exact ⟨other, known, inactive⟩

theorem keeps_rewriteChannel (same : ∀ row, SameRecord row (change row)) :
    Keeps node Seen owner s.store (s.rewriteChannel channelId change).store := by
  unfold rewriteChannel
  split
  next row found => exact keeps_rewrite found (same row)
  · exact .refl

end Stores

/-! ## Acts -/

section Acts

variable {node : Node} {Seen : Wait → Reply → Prop} {owner : Option PeerId} {s s' s'' : Manager}
  {channelId : Hex}

/-- An update keeps what is recorded true, and changes no more than is allowed. -/
def Kept (node : Node) (Seen : Wait → Reply → Prop) (owner : Option PeerId) (s s' : Manager) : Prop :=
  Truthful node Seen s' ∧ Allows Seen owner s s'

/-- The promises are as they were. -/
structure SamePromises (s s' : Manager) : Prop where
  closingChannels : s'.closingChannels = s.closingChannels
  closes : s'.closes = s.closes
  closeResults : s'.closeResults = s.closeResults

theorem SamePromises.allows (same : SamePromises s s') (rows : Rows owner s.store s'.store) :
    Allows Seen owner s s' where
  rows := rows
  closes := same.closes.ge
  closing id operation closing := .inl (by rw [same.closingChannels]; exact closing)

theorem kept_of_rows (truthful : Truthful node Seen s) (same : SamePromises s s')
    (keeps : Keeps node Seen owner s.store s'.store) : Kept node Seen owner s s' := by
  obtain ⟨rows, moved⟩ := keeps truthful.rows
  exact ⟨⟨rows, by rw [same.closeResults]; exact truthful.results⟩, same.allows moved⟩

theorem kept_quiet (truthful : Truthful node Seen s) (same : SamePromises s s')
    (store : s'.store = s.store) : Kept node Seen owner s s' :=
  kept_of_rows truthful same (by rw [store]; exact .refl)

variable {peerId : Option PeerId} {status : ChannelStatus}

theorem samePromises_releaseBuyer :
    SamePromises s (s.releaseBuyer peerId channelId) ∧
      (s.releaseBuyer peerId channelId).store = s.store := by
  rw [releaseBuyer_eq]
  exact ⟨⟨rfl, rfl, rfl⟩, rfl⟩

section

variable (truthful : Truthful node Seen s)

include truthful

theorem kept_retire (verdict : Verdict (contract node Seen owner) node channelId status settledAmount) :
    Kept node Seen owner s ((s.setStatus channelId status settledAmount).forgetChannel channelId peerId) := by
  obtain ⟨same, store⟩ := @samePromises_releaseBuyer
    ((s.setStatus channelId status settledAmount).forgetChannelState channelId) channelId peerId
  refine kept_of_rows truthful ⟨same.closingChannels, same.closes, same.closeResults⟩ ?_
  unfold forgetChannel
  rw [store]
  exact keeps_updateChannelStatus verdict

theorem kept_evict {peerId : PeerId}
    (verdict : Verdict (contract node Seen owner) node channelId status none) :
    Kept node Seen owner s (s.evictStaleChannel channelId peerId status) := by
  obtain ⟨same, store⟩ := @samePromises_releaseBuyer
    ((s.setStatus channelId status none).deleteChannel channelId) channelId (some peerId)
  refine kept_of_rows truthful ⟨same.closingChannels, same.closes, same.closeResults⟩ ?_
  unfold evictStaleChannel
  rw [store]
  exact keeps_updateChannelStatus verdict

theorem kept_forgetChannel : Kept node Seen owner s (s.forgetChannel channelId peerId) := by
  obtain ⟨same, store⟩ := @samePromises_releaseBuyer (s.forgetChannelState channelId) channelId peerId
  exact kept_quiet truthful ⟨same.closingChannels, same.closes, same.closeResults⟩ store

theorem kept_restore :
    Kept node Seen owner s (s.restorePersistedSpendingAuth row) := by
  unfold restorePersistedSpendingAuth
  split
  · exact kept_quiet truthful ⟨rfl, rfl, rfl⟩ rfl
  · exact kept_quiet truthful ⟨rfl, rfl, rfl⟩ rfl

theorem kept_rewriteChannel (same : SamePromises s s') (store : s'.store = s.store)
    (records : ∀ row, SameRecord row (change row)) :
    Kept node Seen owner s (s'.rewriteChannel channelId change) := by
  refine kept_of_rows truthful ?_ (store ▸ keeps_rewriteChannel records)
  rw [rewriteChannel_eq]
  exact ⟨same.closingChannels, same.closes, same.closeResults⟩

theorem kept_beginClose (free : s.closingChannels channelId = none) :
    Kept node Seen owner s (s.beginClose channelId) := by
  refine ⟨⟨truthful.rows, truthful.results⟩, .refl, Nat.le_succ _, fun id operation closing => .inl ?_⟩
  have other : id ≠ channelId := by
    rintro rfl
    rw [free] at closing
    cases closing
  simpa [beginClose, other] using closing

theorem kept_endClose (seen : Seen (.close tx) reply) :
    Kept node Seen owner s (s.endClose tx.channelId tx.operation (tx.result reply)) := by
  refine ⟨⟨truthful.rows, fun id operation result found => ?_⟩, .refl, le_rfl,
    fun id operation closing => ?_⟩
  · by_cases here : id = tx.channelId ∧ operation = tx.operation
    · obtain ⟨rfl, rfl⟩ := here
      simp only [endClose, Function.update_self] at found
      rcases or_eq_some_iff.mp found with old | ⟨-, new⟩
      · exact truthful.results _ _ _ old
      · exact ⟨tx, reply, seen, rfl, rfl, some.inj new⟩
    · refine truthful.results id operation result ?_
      rw [← found]
      simp only [endClose, Function.update_apply]
      split
      next same =>
        have other : operation ≠ tx.operation := fun same' => here ⟨same, same'⟩
        rw [same, Function.update_of_ne other]
      · rfl
  · simp only [endClose]
    split
    next promised =>
      by_cases here : id = tx.channelId
      · subst here
        exact .inr ⟨tx, reply, seen, some.inj (promised.symm.trans closing)⟩
      · exact .inl (by simpa [here] using closing)
    · exact .inl closing

theorem kept_of_act
    (act : Act (contract node Seen owner) node owner s s') : Kept node Seen owner s s' := by
  cases act with
  | quiet alike =>
    exact kept_quiet truthful ⟨alike.closingChannels, alike.closes, alike.closeResults⟩ alike.store
  | storePendingTopUp =>
    unfold storePendingTopUp
    split <;> exact kept_quiet truthful ⟨rfl, rfl, rfl⟩ rfl
  | deletePendingTopUp | blockChannel | agree | keepOneOff | elapse => exact kept_quiet truthful ⟨rfl, rfl, rfl⟩ rfl
  | beginClose channelId works free => exact kept_beginClose truthful free
  | endClose tx reply heard =>
    obtain ⟨_, -, seen⟩ := heard
    exact kept_endClose truthful seen
  | retire channelId status settledAmount peerId works verdict => exact kept_retire truthful verdict
  | evict channelId peerId status works verdict => exact kept_evict truthful verdict
  | forget => exact kept_forgetChannel truthful
  | setStatus channelId status settledAmount works verdict =>
    exact kept_of_rows truthful ⟨rfl, rfl, rfl⟩ (keeps_updateChannelStatus verdict)
  | restore => exact kept_restore truthful
  | recover buyerPeerId payload cumulativeAmount onChain own taken fits read active =>
    refine kept_of_rows truthful ⟨rfl, rfl, rfl⟩ (keeps_upsertChannel own rfl rfl fun amount kept => ?_)
    obtain ⟨id, reply, found, answered, rfl, _, -, seen⟩ := read.heard
    dsimp only [recoveredRow] at kept
    split at kept
    next positive =>
      obtain rfl := mem_some.mp kept
      exact ⟨by exact_mod_cast positive, id, reply, seen, found, answered, active, rfl⟩
    · cases kept
  | reserve buyerPeerId payload cumulativeAmount tx now own =>
    exact kept_of_rows truthful ⟨rfl, rfl, rfl⟩ (keeps_upsertChannel own rfl rfl nofun)
  | recordSpendingAuth | recordOneOffAuth | recordTopUp =>
    exact kept_rewriteChannel truthful ⟨rfl, rfl, rfl⟩ rfl fun _ => ⟨rfl, rfl, rfl, rfl⟩
  | adopt =>
    unfold adoptBuyerCloseAuth
    split
    · exact kept_quiet truthful ⟨rfl, rfl, rfl⟩ rfl
    · exact kept_rewriteChannel truthful ⟨rfl, rfl, rfl⟩ rfl fun _ => ⟨rfl, rfl, rfl, rfl⟩
  | reconcileSpent =>
    unfold reconcileSpent
    split <;> exact kept_quiet truthful ⟨rfl, rfl, rfl⟩ rfl
  | recordOpening buyerPeerId payload requestId plan terms tx now own =>
    exact kept_of_rows truthful ⟨rfl, rfl, rfl⟩ (keeps_upsertChannel own rfl rfl nofun)
  | activateOneOff buyerPeerId payload requestId plan terms tx now own =>
    exact kept_of_rows truthful ⟨rfl, rfl, rfl⟩ (keeps_upsertChannel own rfl rfl nofun)
  | trackUntopped =>
    exact kept_quiet truthful ⟨rfl, rfl, rfl⟩ rfl

theorem kept_recordSpend :
    Kept node Seen owner s (s.recordSpend channelId costUsdc) := by
  unfold recordSpend
  split
  · exact kept_quiet truthful ⟨rfl, rfl, rfl⟩ rfl
  · exact kept_of_rows truthful ⟨rfl, rfl, rfl⟩ (keeps_updateChannel
      (fun _ _ old => old.same ⟨rfl, rfl, rfl, rfl⟩) (fun _ => rfl) fun _ inactive => inactive)

theorem kept_claimOneOffChannel : Kept node Seen owner s (s.claimOneOffChannel channelId) := by
  unfold claimOneOffChannel
  split
  · exact kept_quiet truthful ⟨rfl, rfl, rfl⟩ rfl
  next row found =>
    split
    · exact kept_of_rows truthful ⟨rfl, rfl, rfl⟩ (keeps_rewrite found ⟨rfl, rfl, rfl, rfl⟩)
    · exact kept_quiet truthful ⟨rfl, rfl, rfl⟩ rfl

theorem kept_of_serving {chore : Chore} {write : Manager → Manager}
    (serving : chore.serving = some write) : Kept node Seen owner s (write s) := by
  cases chore with
  | recordSpend =>
    cases serving
    exact kept_recordSpend truthful
  | beginBillableRequest | endBillableRequest | registerOneOffPlan =>
    cases serving
    exact kept_quiet truthful ⟨rfl, rfl, rfl⟩ rfl
  | claimOneOffChannel =>
    cases serving
    exact kept_claimOneOffChannel truthful
  | _ => cases serving

end

theorem contract_permits : Permits (contract node Seen owner) node owner where
  lawful := contract_lawful
  acts truthful act := kept_of_act truthful act
  asks plain tx same := by
    subst same
    cases plain
  closes tx truthful allowed free operation _ := by
    rintro _ same
    obtain rfl := Wait.close.inj same
    refine ⟨by simp [beginClose, operation], operation ▸ allowed.closes, ?_⟩
    rw [operation]
    exact Nat.lt_succ_self _
  reserves tx _ _ _ _ same := by cases same

end Acts

/-! ## Closes in flight -/

/-- It is the close with this number that is waited for. -/
def sends (operation : Nat) : Wait → Bool
  | .close tx => tx.operation = operation
  | _ => false

def closesChannel (channelId : Hex) : Wait → Bool
  | .close tx => tx.channelId = channelId
  | _ => false

def inFlight (process : Process) (channelId : Hex) : Nat :=
  process.tasks.countP fun task => closesChannel channelId task.label

/-- How often the close with this number is waited for, or has been. -/
def sent (log : List (Wait × Reply)) (tasks : List (Task Manager Wait Reply (Option PeerId)))
    (operation : Nat) : Nat :=
  tasks.countP (fun task => sends operation task.label) + log.countP fun reply => sends operation reply.1

structure Numbered (log : List (Wait × Reply)) (process : Process) : Prop where
  promised : ∀ task ∈ process.tasks, ∀ tx, task.label = .close tx →
    process.state.closingChannels tx.channelId = some tx.operation
  once : ∀ operation, sent log process.tasks operation ≤ 1
  used : ∀ operation, process.state.closes ≤ operation → sent log process.tasks operation = 0

section InFlight

variable {node : Node} {Seen : Wait → Reply → Prop} {process process' : Process} {event : Event}
  {log : List (Wait × Reply)} {channelId : Hex} {owner : Option PeerId}

variable {task : Task Manager Wait Reply (Option PeerId)}

theorem mem_of_remaining (member : task ∈ process.remaining event) : task ∈ process.tasks := by
  cases event with
  | resume =>
    dsimp only [Process.remaining] at member
    split at member
    · exact mem_of_mem_eraseIdx member
    · exact member
  | restart => cases member
  | _ => exact member

theorem sent_remaining (operation : Nat) :
    sent (log ++ process.report event) (process.remaining event) operation
      ≤ sent log process.tasks operation := by
  simp only [sent, countP_append]
  cases event with
  | resume n =>
    simp only [Process.report, Process.remaining]
    split
    · by_cases inside : n < process.tasks.length
      · have moved := (getElem_cons_eraseIdx_perm inside).countP_eq
          fun task => sends operation task.label
        rw [countP_cons] at moved
        simp only [getElem?_eq_getElem inside, toList_some, map_cons, map_nil,
          countP_cons, countP_nil]
        omega
      · simp [getElem?_eq_none (not_lt.mp inside), eraseIdx_of_length_le (not_lt.mp inside)]
    · simp
  | restart | spendingAuth | closeChannelRequest | chore => simp [Process.report, Process.remaining]

section

variable (numbered : Numbered log process)

include numbered

theorem Numbered.not_heard
    (member : task ∈ process.remaining event) (label : task.label = .close tx)
    (seen : (.close tx', reply) ∈ log ++ process.report event) :
    tx'.operation ≠ tx.operation := by
  intro same
  have waits : 0 < (process.remaining event).countP fun task => sends tx.operation task.label :=
    countP_pos_iff.mpr ⟨task, member, by simp [label, sends]⟩
  have answered : 0 < (log ++ process.report event).countP fun reply => sends tx.operation reply.1 :=
    countP_pos_iff.mpr ⟨_, seen, by simp [sends, same]⟩
  have fewer : sent (log ++ process.report event) (process.remaining event) tx.operation
      ≤ sent log process.tasks tx.operation := sent_remaining _
  have once := fewer.trans (numbered.once tx.operation)
  unfold sent at once
  omega

theorem Numbered.stretch
    (stretch : Pool.Stretch { process with tasks := process.remaining event } process'
      (contract node (Logged (log ++ process.report event)) owner)) :
    Numbered (log ++ process.report event) process' := by
  have fewer : ∀ operation, sent (log ++ process.report event) (process.remaining event) operation
      ≤ sent log process.tasks operation := fun _ => sent_remaining _
  have stays : ∀ task ∈ process.remaining event, ∀ tx, task.label = .close tx →
      process'.state.closingChannels tx.channelId = some tx.operation := by
    intro task member tx label
    rcases stretch.allows.closing _ _ (numbered.promised task (mem_of_remaining member) tx label) with
      still | ⟨tx', reply, seen, same⟩
    · exact still
    · exact absurd same (numbered.not_heard member label seen)
  rcases stretch.tasks with none_new | ⟨task, new, asked⟩
  · refine ⟨?_, fun operation => ?_, fun operation unused => ?_⟩
    all_goals rw [none_new]
    · exact stays
    · exact (fewer operation).trans (numbered.once operation)
    · have before := numbered.used operation (stretch.allows.closes.trans unused)
      exact Nat.le_zero.mp ((fewer operation).trans before.le)
  · -- the new task counts for its own number only
    have counted : ∀ operation, sent (log ++ process.report event) process'.tasks operation
        = sent (log ++ process.report event) (process.remaining event) operation
          + if sends operation task.label then 1 else 0 := by
      intro operation
      simp only [sent, new, countP_append, countP_cons, countP_nil]
      omega
    have own : ∀ operation, sends operation task.label = true →
        ∃ tx, task.label = .close tx ∧ tx.operation = operation := by
      intro operation isOwn
      cases label : task.label with
      | close tx => exact ⟨tx, rfl, by simpa [label, sends] using isOwn⟩
      | _ => simp [label, sends] at isOwn
    refine ⟨fun other member tx label => ?_, fun operation => ?_, fun operation unused => ?_⟩
    · rw [new] at member
      rcases mem_append.mp member with old | last
      · exact stays other old tx label
      · rw [mem_singleton.mp last] at label
        exact (asked tx label).closing
    · rw [counted]
      split
      next isOwn =>
        obtain ⟨tx, label, rfl⟩ := own operation isOwn
        have fresh := numbered.used tx.operation (asked tx label).new
        have none_left := fewer tx.operation
        omega
      · exact (fewer operation).trans (numbered.once operation)
    · rw [counted, if_neg]
      · have before := numbered.used operation (stretch.allows.closes.trans unused)
        exact Nat.le_zero.mp ((fewer operation).trans before.le)
      · intro isOwn
        obtain ⟨tx, label, rfl⟩ := own operation isOwn
        exact absurd (asked tx label).used (not_lt.mpr unused)

theorem Numbered.unique
    (seen : (.close first, reply) ∈ log) (seen' : (.close second, reply') ∈ log)
    (same : first.operation = second.operation) : first = second ∧ reply = reply' := by
  have once := numbered.once first.operation
  unfold sent at once
  have few : (log.filter fun entry => sends first.operation entry.1).length ≤ 1 := by
    rw [← countP_eq_length_filter]
    omega
  have inside : (Wait.close first, reply) ∈ log.filter fun entry => sends first.operation entry.1 :=
    mem_filter.mpr ⟨seen, by simp [sends]⟩
  have inside' : (Wait.close second, reply') ∈ log.filter fun entry => sends first.operation entry.1 :=
    mem_filter.mpr ⟨seen', by simp [sends, same]⟩
  generalize log.filter (fun entry => sends first.operation entry.1) = answers at few inside inside'
  match answers with
  | [] => cases inside
  | [only] =>
    have equal := (mem_singleton.mp inside).trans (mem_singleton.mp inside').symm
    simpa using equal
  | _ :: _ :: rest => simp at few

end

end InFlight

/-! ## Runs -/

section Runs

variable {node : Node} {Seen : Wait → Reply → Prop} {process : Process} {event : Event}
  {log : List (Wait × Reply)}

theorem truthful_hydrate {store : ChannelStore} {now closes : Nat}
    (rows : ∀ row ∈ store, RowTruthful node Seen row) :
    Truthful node Seen { hydrate store now with closes := closes } := by
  have empty : (hydrate store now).closeResults = fun _ _ => none :=
    @hydrate_induction (fun s => s.closeResults = fun _ _ => none) store now rfl
      (fun _ _ _ same => same) fun _ _ _ same => same
  refine ⟨by rw [store_hydrate]; exact rows, fun id operation result found => ?_⟩
  have found : (hydrate store now).closeResults id operation = some result := found
  rw [empty] at found
  cases found

theorem step_keeps (sound : process.Sound (contract node Seen) (Truthful node Seen))
    (known : ∀ entry ∈ process.report event, Seen entry.1 entry.2) (on : event ≠ .restart) :
    (process.step node event).Sound (contract node Seen) (Truthful node Seen) ∧
      Pool.Stretch { process with tasks := process.remaining event } (process.step node event)
        (contract node Seen (event.sender process)) := by
  cases serves : event.isServing with
  | false =>
    exact Process.step_sound contract_shared (fun _ => contract_permits) sound
      (resumes_of_report fun _ => known) serves on
  | true =>
    cases event with
    | chore =>
      obtain ⟨write, serving⟩ := isSome_iff_exists.mp serves
      have kept : Kept node Seen none process.state (write process.state) :=
        kept_of_serving sound.holds serving
      rw [Process.step_serving serving]
      exact ⟨sound.write contract_shared kept.1 trivial, kept.2, .inl rfl⟩
    | _ => cases serves

/-- The manager is sound for whatever is known to be heard, and its closes are numbered. -/
def Faithful (node : Node) (log : List (Wait × Reply)) (process : Process) : Prop :=
  (∀ Seen : Wait → Reply → Prop, (∀ entry ∈ log, Seen entry.1 entry.2) →
    process.Sound (contract node Seen) (Truthful node Seen)) ∧ Numbered log process

theorem Faithful.step (faithful : Faithful node log process) :
    Faithful node (log ++ process.report event) (process.step node event) := by
  obtain ⟨sound, numbered⟩ := faithful
  have split : ∀ {Seen : Wait → Reply → Prop},
      (∀ entry ∈ log ++ process.report event, Seen entry.1 entry.2) →
      (∀ entry ∈ log, Seen entry.1 entry.2) ∧ ∀ entry ∈ process.report event, Seen entry.1 entry.2 :=
    fun known => forall_mem_append.mp known
  by_cases on : event = .restart
  · subst on
    refine ⟨fun Seen known => ⟨truthful_hydrate (sound Seen (split known).1).holds.rows,
      fun _ member => absurd member not_mem_nil⟩, fun _ member => absurd member not_mem_nil,
      fun operation => ?_, fun operation unused => ?_⟩
    · exact (sent_remaining operation).trans (numbered.once operation)
    · exact Nat.le_zero.mp ((sent_remaining operation).trans (numbered.used operation unused).le)
  · refine ⟨fun Seen known => (step_keeps (sound Seen (split known).1) (split known).2 on).1, ?_⟩
    have known := @split (Logged (log ++ process.report event)) fun _ member => member
    exact numbered.stretch (step_keeps (sound _ known.1) known.2 on).2

theorem Faithful.outcome (faithful : Faithful node log process)
    (waits : process.tasks[n]? = some task) (label : task.label = .closing channelId operation)
    (ready : process.ready n = true) :
    ∃ result, process.state.closeResults channelId operation = some result ∧
      Outcome log channelId operation result ∧
      ∀ other, Outcome log channelId operation other → other = result := by
  have answered : (process.state.closeResults channelId operation).isSome = true := by
    simpa [Process.ready, waits, label, answers] using ready
  obtain ⟨result, found⟩ := isSome_iff_exists.mp answered
  have truthful := (faithful.1 (Logged log) fun _ member => member).holds
  obtain ⟨tx, reply, seen, named, numbered, came⟩ := truthful.results _ _ _ found
  refine ⟨result, found, ⟨tx, reply, seen, named, numbered, came⟩, fun other outcome => ?_⟩
  obtain ⟨tx', reply', seen', -, numbered', came'⟩ := outcome
  obtain ⟨rfl, rfl⟩ := faithful.2.unique seen' seen (numbered'.trans numbered.symm)
  exact came'.symm.trans came

theorem Faithful.givenUp (faithful : Faithful node log process)
    (givenUp : IsGivenUp process.state channelId) :
    IsGivenUp (process.step node event).state channelId ∨
      IsRecorded (process.step node event).state channelId ∨
      (event.sender process).isSome ∧ ∃ row, (process.step node event).state.store.getChannel channelId
        = some row ∧ row.status = .active := by
  obtain ⟨row, unsettled, found⟩ := givenUp
  have status : row.status = .timeout := (of_decide_eq_true (mem_filter.mp unsettled).2).1
  by_cases on : event = .restart
  · subst on
    have same : (process.step node .restart).state.store = process.state.store := store_hydrate
    exact .inl ⟨row, by rw [same]; exact unsettled, by rw [same]; exact found⟩
  · have later := @Faithful.step node process event log faithful
    have sound := faithful.1 (Logged (log ++ process.report event))
      fun _ member => mem_append_left _ member
    have rows := (step_keeps sound (fun _ member => mem_append_right _ member) on).2.allows.rows
    obtain ⟨row', found'⟩ := getChannel_of_stored (rows.stored channelId (stored_of_getChannel found))
    have truthful := (later.1 (Logged (log ++ process.report event)) fun _ member => member).holds
    have member := (mem_of_getChannel found').1
    have notGhost := (truthful.rows row' member).status
    cases status' : row'.status with
    | ghost => exact absurd status' notGhost
    | settled => exact .inr (.inl ⟨row', found', .inl status'⟩)
    | timeout =>
      cases recorded : row'.settledAt with
      | some => exact .inr (.inl ⟨row', found', .inr (by simp [recorded])⟩)
      | none =>
        exact .inl ⟨row', mem_filter.mpr ⟨member, by simp [status', recorded]⟩, found'⟩
    | active =>
      refine .inr (.inr ⟨?_, row', found', status'⟩)
      by_contra nobody
      obtain ⟨other, found'', inactive⟩ := rows.stays (not_isSome_iff_eq_none.mp nobody)
        channelId ⟨row, found, by simp [status]⟩
      obtain rfl := some.inj (found'.symm.trans found'')
      exact inactive status'

end Runs

/-! ### Given up, and taken up again -/

def timedOutRead : Reply where
  channel := { (default : Channel) with
    buyer := peerIdToAddress alice
    seller := storefront.seller
    deposit := 100
    status := .timedOut }

def openRead : Reply where
  channel := { (default : Channel) with
    buyer := peerIdToAddress alice
    seller := storefront.seller
    deposit := 100
    settled := 2
    deadline := 3600
    status := .active }
  salt := ⟨7⟩

def settledRead : Reply := { openRead with channel := { openRead.channel with settled := 5, status := .settled } }

/-- Alice has signed for 5, and the close of her channel has failed three times. -/
def abandoned : List Event :=
  openingEvents 0 ++ .spendingAuth alice (fiveAuth alice) :: goOn 2 ++
    (replicate 3 ([.chore (.settleSession alice false false),
      .resume 0 { error := some .other }] : List Event)).flatten

/-- The timeout checker reads the chain while the channel is given up and its close is retried. -/
def overtaken : List Event :=
  openingEvents 0 ++ .chore (.checkTimeouts []) :: goOn 1 ++
    [.chore (.pollCloseRequested [aliceChannel]), .resume 1 {}, .resume 1 {},
      .chore (.checkTimeouts [aliceChannel]), .resume 1 {}, .resume 1 timedOutRead,
      .chore (.elapse 400000), .resume 0 timedOutRead]

/-- A settlement at this amount was heard of. -/
def settles (amount : Int) : Wait × Reply → Bool
  | (.close tx, reply) => tx.result reply = .closed amount
  | (_, reply) => classifyOnChainChannel (storedAt storefront aliceChannelId reply) = .settled ∧
      (storedAt storefront aliceChannelId reply).settled = amount

end AntSeed.Seller.Closes
