import AntSeed.FreeUsage.MeasuredUsage
import AntSeed.FreeUsage.Records

/-! # Accepted usage reaches the chain

A flush sends the record it has found when it began, and a session whose buyer has left gets no second
flush. So the last record of a session reaches the chain if no newer one was accepted between the two.
-/

namespace AntSeed.FreeUsage

open Evm Function Option SellerFreeUsageManager FreeUsage
open SellerFreeUsageSession ManagerState
open List

/-! ## Conditions on a run -/

/-- The flush under way, if there is one, carries the last record. -/
def SellerFreeUsageSession.flushesLatest (session : SellerFreeUsageSession) : Bool :=
  session.flushPromise.all fun flush =>
    session.pendingRecord.all fun record => record.sequence ≤ flush.record.sequence

namespace ManagerState

variable (m : SellerFreeUsageManager) (s : ManagerState)

/-- The transaction that an event ends, if it is one, has done what it had to do. -/
def succeeds (event : Event) : Bool :=
  (s.pendingCall m event).all fun call => (s.transact m call.1 call.2).isSome

/-- Whether a session takes one more record: no flush of it is under way that would end it, nor is it closed. -/
def takesRecords (session : SellerFreeUsageSession) : Bool :=
  session.closeRequested = false
    ∨ session.flushPromise.isNone ∧ (s.chain.channel session.channelId).status ≠ .closed

/-- No disconnect overtakes an accepted record, none is accepted after the flush that ends its session has
    begun, and the acks go out. -/
def timely (event : Event) : Bool :=
  match event with
  | .onPeerDisconnect => (s.current.bind (s.sessions[·]?)).all (·.flushesLatest)
  | .start _ _ sent =>
    (s.acceptedBy m event).all fun acceptance => sent ∧ (s.sessions[acceptance.1]?).all s.takesRecords
  | _ => true

end ManagerState

/-! ## The chain -/

section Chain

variable {r : Deployment} {c c' : State} {id : Word}

theorem step_foreign (taken : step r c call = .ok c') (there : (c.channel id).status ≠ .none)
    (foreign : call.sender ≠ (c.channel id).seller) : c'.channel id = c.channel id := by
  have effect := step_effect taken
  obtain ⟨sender, ext, op⟩ := call
  cases op with
  | open_ buyer salt =>
    obtain ⟨unused, channels, -⟩ := effect
    have other : id ≠ r.computeChannelId buyer sender salt := by
      rintro rfl
      exact there unused
    simp only [State.channel, channels]
    exact update_of_ne other _ _
  | record channelId =>
    obtain ⟨-, -, records, -⟩ := effect
    replace taken := rest_ok taken
    replace taken := rest_ok taken
    replace taken := rest_ok taken
    obtain ⟨_, allowed, -⟩ := ran taken
    have other : id ≠ channelId := by
      rintro rfl
      exact foreign (require_eq_ok.mp allowed)
    simp only [State.channel, records.channels]
    exact update_of_ne other _ _
  | close channelId =>
    obtain ⟨-, -, records, -⟩ := effect
    replace taken := rest_ok taken
    replace taken := rest_ok taken
    replace taken := rest_ok taken
    obtain ⟨_, allowed, -⟩ := ran taken
    have other : id ≠ channelId := by
      rintro rfl
      exact foreign (require_eq_ok.mp allowed)
    simp only [State.channel, records.channels]
    exact update_of_ne other _ _
  | set | recordMetadata | setWriter | sign | elapse => simp only [State.channel, effect.1]

variable {deadline : Nat} {ext : External} {sig : Signature} {metadata : List UInt8}
  {sender : Address}

theorem step_opens {sender buyer : Address} {salt : Word}
    (taken : step r c ⟨sender, ext, .open_ buyer salt deadline sig⟩ = .ok c') :
    let channelId := r.computeChannelId buyer sender salt
    (c.channel channelId).status = .none
      ∧ c'.channel channelId = { buyer, seller := sender, deadline, status := .active }
      ∧ ∀ other, other ≠ channelId → c'.channel other = c.channel other := by
  obtain ⟨unused, channels, -⟩ := step_effect taken
  simp only [State.channel, channels]
  exact ⟨unused, update_self _ _ _, fun other different => update_of_ne different _ _⟩

/-- What a record or a close makes of the chain. -/
structure Reports (c c' : State) (id : Word) (sequence : Nat) (closes : Bool) : Prop where
  active : (c.channel id).status = .active
  latest : (c'.channel id).latestSequence = sequence
  status : (c'.channel id).status = if closes then .closed else .active
  seller : (c'.channel id).seller = (c.channel id).seller
  others : ∀ other, other ≠ id → c'.channel other = c.channel other

theorem step_records {sequence : Nat}
    (taken : step r c ⟨sender, ext, .record id sequence metadata deadline sig⟩ = .ok c') :
    Reports c c' id sequence false := by
  obtain ⟨active, -, records, -⟩ := step_effect taken
  constructor <;> simp only [State.channel, records.channels]
  · exact active
  · rw [update_self]
    rfl
  · rw [update_self]
    exact active
  · rw [update_self]
    rfl
  · exact fun other different => update_of_ne different _ _

theorem step_records_closed {sequence : Nat}
    (taken : step r c ⟨sender, ext, .close id sequence metadata deadline sig⟩ = .ok c') :
    Reports c c' id sequence true := by
  obtain ⟨active, -, records, -⟩ := step_effect taken
  constructor <;> simp only [State.channel, records.channels]
  · exact active
  · rw [update_self]
    rfl
  · rw [update_self]
    rfl
  · rw [update_self]
    rfl
  · exact fun other different => update_of_ne different _ _

end Chain

/-! ## Sound sessions -/

structure SellerFreeUsageSession.Sound (m : SellerFreeUsageManager) (channel : Channel)
    (session : SellerFreeUsageSession) : Prop where
  named : session.channelId = m.chain.computeChannelId m.buyer m.seller session.salt
  open_ : session.openPromise = .opening ∨ session.openPromise = .opened
  latest : ∀ record ∈ session.pendingRecord, record.sequence = session.acceptedSequence
  snapshot : ∀ flush ∈ session.flushPromise, flush.record.sequence ≤ session.acceptedSequence
  unopened : session.openPromise = .opening → (session.pendingRecord = none → session.acceptedSequence = 0)
    ∧ ∀ flush ∈ session.flushPromise, flush.stage = .awaitsOpen
  ours : session.openPromise = .opened → channel.status ≠ .none ∧ channel.seller = m.seller
  recorded : session.openPromise = .opened → session.pendingRecord = none →
    channel.latestSequence = session.acceptedSequence
  carries : ∀ flush ∈ session.flushPromise, (∀ flushed, flush.stage ≠ .returned flushed) →
    session.pendingRecord.isSome
  returned : ∀ flush ∈ session.flushPromise, ∀ flushed, flush.stage = .returned flushed → flushed = true
    ∧ ∀ record ∈ session.pendingRecord, flush.record.sequence < record.sequence
  closing : ∀ flush ∈ session.flushPromise, flush.stage = .closes ∨ flush.stage = .closesRecorded →
    session.closeRequested = true
  leaving : session.closeRequested = true → session.flushesLatest = true
  closed : session.openPromise = .opened → channel.status = .closed →
    session.closeRequested = true ∧ session.pendingRecord = none

/-- A record that waits when its buyer has left is on its way, or a timer will send it. -/
def SellerFreeUsageSession.Scheduled (session : SellerFreeUsageSession) : Prop :=
  session.closeRequested = true → session.pendingRecord.isSome → session.flushPromise = none →
    session.flushTimer.isSome

namespace SellerFreeUsageSession

variable {m : SellerFreeUsageManager} {channel channel' : Channel} {session : SellerFreeUsageSession}

/-! ### Changes of a session -/

theorem Sound.clearFlushTimer (sound : session.Sound m channel) : session.clearFlushTimer.Sound m channel :=
  { sound with }

theorem Sound.flushPendingRecord (sound : session.Sound m channel) : session.flushPendingRecord.Sound m channel := by
  unfold SellerFreeUsageSession.flushPendingRecord
  split
  next record pending idle =>
    have last := sound.latest record pending
    refine { sound with
      snapshot := ?_, unopened := ?_, carries := ?_, returned := ?_, closing := ?_, leaving := ?_ }
    · rintro _ ⟨⟩
      exact last.le
    · intro opening
      exact ⟨(sound.unopened opening).1, by rintro _ ⟨⟩; rfl⟩
    · rintro _ ⟨⟩ -
      change session.pendingRecord.isSome
      simp [pending]
    · rintro _ ⟨⟩ flushed ⟨⟩
    · rintro _ ⟨⟩ (⟨⟨⟩⟩ | ⟨⟨⟩⟩)
    · intro _
      change (some _ : Option Flush).all _ = true
      simp [SellerFreeUsageSession.clearFlushTimer, pending]
  · exact sound

@[simp] theorem pendingRecord_flushPendingRecord :
    session.flushPendingRecord.pendingRecord = session.pendingRecord := by
  unfold flushPendingRecord
  split <;> rfl

theorem pendingRecord_of_idle (idle : session.flushPendingRecord.flushPromise = none) :
    session.pendingRecord = none := by
  unfold flushPendingRecord at idle
  cases pending : session.pendingRecord with
  | none => rfl
  | some =>
    cases flushing : session.flushPromise with
    | none | some => simp [pending, flushing] at idle

theorem scheduled_flushPendingRecord : session.flushPendingRecord.Scheduled := by
  intro _ waits idle
  rw [pendingRecord_flushPendingRecord, pendingRecord_of_idle idle] at waits
  cases waits

theorem Sound.scheduleRecordFlush (sound : session.Sound m channel) :
    (m.scheduleRecordFlush session false nowMs).Sound m channel := by
  unfold SellerFreeUsageManager.scheduleRecordFlush
  split
  · exact sound
  · split
    next late => cases late.1
    · split
      · exact sound.clearFlushTimer.flushPendingRecord
      · split
        · exact sound
        · exact { sound with }

theorem scheduled_scheduleRecordFlush : (m.scheduleRecordFlush session false nowMs).Scheduled := by
  unfold scheduleRecordFlush
  split
  next nothing =>
    intro _ waits idle
    rcases nothing with none | flushing
    · simp [isNone_iff_eq_none.mp none] at waits
    · simp [idle] at flushing
  · split
    next late => cases late.1
    · split
      · exact scheduled_flushPendingRecord
      · split
        next set => exact fun _ _ _ => set
        · exact fun _ _ _ => rfl

theorem Sound.requestClose (sound : session.Sound m channel) (flushesLatest : session.flushesLatest = true) :
    session.requestClose.Sound m channel :=
  { sound with
    closing := fun _ _ _ => rfl
    leaving := fun _ => flushesLatest
    closed := fun opened closed => ⟨rfl, (sound.closed opened closed).2⟩ }

theorem Sound.awaitFlush (sound : session.Sound m channel) : session.awaitFlush.Sound m channel := by
  unfold SellerFreeUsageSession.awaitFlush
  split
  · exact { sound with }
  · exact sound
  next record flush pending flushing =>
    refine { sound with
      snapshot := ?_, unopened := ?_, carries := ?_, returned := ?_, closing := ?_, leaving := ?_ }
    · rintro _ ⟨⟩
      exact sound.snapshot flush flushing
    · intro opening
      obtain ⟨none, stage⟩ := sound.unopened opening
      exact ⟨none, by rintro _ ⟨⟩; exact stage flush flushing⟩
    · rintro _ ⟨⟩ notReturned
      exact sound.carries flush flushing notReturned
    · rintro _ ⟨⟩ flushed stage
      exact sound.returned flush flushing flushed stage
    · rintro _ ⟨⟩ closes
      exact sound.closing flush flushing closes
    · intro left
      have latest := sound.leaving left
      simp only [flushesLatest, flushing] at latest
      exact latest

theorem scheduled_awaitFlush (scheduled : session.Scheduled) : session.awaitFlush.Scheduled := by
  unfold awaitFlush
  split
  · exact scheduled
  · exact scheduled
  · intro _ _ idle
    cases idle

theorem Sound.disconnect (sound : session.Sound m channel) (flushesLatest : session.flushesLatest = true) :
    (session.requestClose.flushPendingRecord.awaitFlush).Sound m channel
      ∧ (session.requestClose.flushPendingRecord.awaitFlush).Scheduled :=
  ⟨(sound.requestClose flushesLatest).flushPendingRecord.awaitFlush, scheduled_awaitFlush scheduled_flushPendingRecord⟩

theorem Sound.accept (sound : session.Sound m channel)
    (above : session.acceptedSequence < record.sequence)
    (takes : session.closeRequested = true → session.flushPromise = none ∧ channel.status ≠ .closed) :
    (session.accept record).Sound m channel :=
  { sound with
    latest := by
      rintro _ ⟨⟩
      rfl
    snapshot := fun flush flushing => (sound.snapshot flush flushing).trans above.le
    unopened := fun opening => ⟨nofun, (sound.unopened opening).2⟩
    recorded := nofun
    carries := fun _ _ _ => rfl
    returned := by
      intro flush flushing flushed stage
      refine ⟨(sound.returned flush flushing flushed stage).1, ?_⟩
      rintro _ ⟨⟩
      exact (sound.snapshot flush flushing).trans_lt above
    leaving := by
      intro left
      change session.flushPromise.all _ = true
      rw [(takes left).1]
      rfl
    closed := fun opened closed => absurd closed (takes (sound.closed opened closed).1).2 }

theorem Sound.reportUsage (inputTokens outputTokens nextSequence : Nat) (sound : session.Sound m channel) :
    (session.reportUsage inputTokens outputTokens nextSequence).Sound m channel :=
  { sound with }

variable {flush : Flush} {stage : FlushStage}

theorem Sound.setStage (sound : session.Sound m channel)
    (flushing : session.flushPromise = some flush) (opened : session.openPromise = .opened)
    (waits : session.pendingRecord.isSome) (goes : ∀ flushed, stage ≠ .returned flushed)
    (closing : stage = .closes ∨ stage = .closesRecorded → session.closeRequested = true) :
    (session.setStage stage).Sound m channel := by
  have after : (session.setStage stage).flushPromise = some { flush with stage } := by
    simp [SellerFreeUsageSession.setStage, flushing]
  refine { sound with
    snapshot := ?_, unopened := ?_, carries := ?_, returned := ?_, closing := ?_, leaving := ?_ }
  · rw [after]
    rintro _ ⟨⟩
    exact sound.snapshot flush flushing
  · intro opening
    change session.openPromise = _ at opening
    rw [opened] at opening
    cases opening
  · exact fun _ _ _ => waits
  · rw [after]
    rintro _ ⟨⟩ flushed returned
    exact absurd returned (goes flushed)
  · rw [after]
    rintro _ ⟨⟩ closes
    exact closing closes
  · intro left
    have latest := sound.leaving left
    simp only [flushesLatest, flushing] at latest
    simp only [flushesLatest, after]
    exact latest

theorem scheduled_setStage (scheduled : session.Scheduled) : (session.setStage stage).Scheduled :=
  fun left waits idle => scheduled left waits (map_eq_none_iff.mp idle)

theorem scheduled_flushStarts (scheduled : session.Scheduled) : session.flushStarts.Scheduled := by
  unfold flushStarts
  split
  · exact scheduled_setStage scheduled
  · exact scheduled_setStage scheduled
  · exact scheduled

section

variable (sound : session.Sound m channel)

include sound

theorem Sound.flushStarts : session.flushStarts.Sound m channel := by
  unfold SellerFreeUsageSession.flushStarts
  split
  next awaits opened =>
    cases flushing : session.flushPromise with
    | none => simp [flushing] at awaits
    | some flush =>
      have stage : flush.stage = .awaitsOpen := by simpa [flushing] using awaits
      refine sound.setStage flushing opened (sound.carries flush flushing (by simp [stage])) ?_ ?_
      · intro flushed
        split <;> nofun
      · intro closes
        split at closes
        · assumption
        · rcases closes with ⟨⟨⟩⟩ | ⟨⟨⟩⟩
  next awaits failed =>
    rcases sound.open_ with opening | opened
    · rw [opening] at failed
      cases failed
    · rw [opened] at failed
      cases failed
  · exact sound

section

variable (flushing : session.flushPromise = some flush) (opened : session.openPromise = .opened)
  (waits : session.pendingRecord.isSome) (seller : channel'.seller = channel.seller)
  (latest : channel'.latestSequence = flush.record.sequence)

include flushing opened waits seller latest

theorem Sound.returns
    (there : channel'.status ≠ .none)
    (closes : channel'.status = .closed → session.closeRequested = true) :
    ((session.reported flush.record).setStage (.returned true)).Sound m channel' := by
  obtain ⟨record, pending⟩ := isSome_iff_exists.mp waits
  have last := sound.latest record pending
  have carried := sound.snapshot flush flushing
  have ours : channel'.status ≠ .none ∧ channel'.seller = m.seller := ⟨there, seller.trans (sound.ours opened).2⟩
  have opened' : session.openPromise ≠ .opening := by rw [opened]; nofun
  unfold reported
  simp only [pending]
  split
  next covered =>
    refine {
      named := sound.named, open_ := sound.open_, latest := nofun, snapshot := ?_
      unopened := fun opening => absurd opening opened', ours := fun _ => ours
      recorded := fun _ _ => ?_, carries := ?_, returned := ?_, closing := ?_
      leaving := fun _ => ?_, closed := fun _ closed => ⟨closes closed, rfl⟩ }
    · simp only [flushing]
      rintro _ ⟨⟩
      exact carried
    · change channel'.latestSequence = session.acceptedSequence
      omega
    · simp only [flushing]
      rintro _ ⟨⟩ notReturned
      exact absurd rfl (notReturned true)
    · simp only [flushing]
      rintro _ ⟨⟩ flushed ⟨⟩
      exact ⟨rfl, nofun⟩
    · simp only [flushing]
      rintro _ ⟨⟩ (⟨⟨⟩⟩ | ⟨⟨⟩⟩)
    · simp [SellerFreeUsageSession.flushesLatest, SellerFreeUsageSession.setStage]
  next newer =>
    have stays : session.closeRequested = false := by
      cases left : session.closeRequested with
      | false => rfl
      | true =>
        have carries := sound.leaving left
        simp [flushesLatest, flushing, pending] at carries
        exact absurd carries newer
    refine {
      named := sound.named, open_ := sound.open_, latest := ?_, snapshot := ?_
      unopened := fun opening => absurd opening opened', ours := fun _ => ours
      recorded := nofun, carries := fun _ _ _ => rfl, returned := ?_, closing := ?_
      leaving := fun left => ?_, closed := fun _ closed => ?_ }
    · rintro _ ⟨⟩
      exact last
    · simp only [flushing]
      rintro _ ⟨⟩
      exact carried
    · simp only [flushing]
      rintro _ ⟨⟩ flushed ⟨⟩
      refine ⟨rfl, ?_⟩
      rintro _ ⟨⟩
      exact not_le.mp newer
    · simp only [flushing]
      rintro _ ⟨⟩ (⟨⟨⟩⟩ | ⟨⟨⟩⟩)
    · rw [stays] at left
      cases left
    · have left := closes closed
      rw [stays] at left
      cases left

theorem Sound.landed
    (outcome : flush.stage = .records ∧ channel'.status = .active
      ∨ (flush.stage = .closes ∨ flush.stage = .closesRecorded) ∧ channel'.status = .closed) :
    (session.landed flush).Sound m channel' := by
  have there : channel'.status ≠ .none := by rcases outcome with ⟨-, same⟩ | ⟨-, same⟩ <;> simp [same]
  unfold SellerFreeUsageSession.landed
  split
  next late =>
    obtain ⟨-, active⟩ : flush.stage = .records ∧ channel'.status = .active := by simpa [late.1] using outcome
    have recorded : session.Sound m channel' := { sound with
      ours := fun _ => ⟨there, seller.trans (sound.ours opened).2⟩
      recorded := fun _ none => by simp [none] at waits
      closed := fun _ closed => by simp [active] at closed }
    exact recorded.setStage flushing opened waits nofun fun _ => late.2
  · refine sound.returns flushing opened waits seller latest there fun closed => ?_
    rcases outcome with ⟨-, active⟩ | ⟨closes, -⟩
    · rw [active] at closed
      cases closed
    · exact sound.closing flush flushing closes

end

theorem Sound.flushEnds
    (flushing : session.flushPromise = some flush) (stage : flush.stage = .returned flushed)
    (leaving : Nat) :
    { session with flushPromise := none, leaving }.Sound m channel
      ∧ { session with flushPromise := none, leaving }.Scheduled := by
  obtain ⟨-, newer⟩ := sound.returned flush flushing flushed stage
  refine ⟨{ sound with
    snapshot := nofun
    unopened := fun opening => ⟨(sound.unopened opening).1, nofun⟩
    carries := nofun, returned := nofun, closing := nofun, leaving := fun _ => rfl }, ?_⟩
  intro left waits _
  obtain ⟨record, pending⟩ := isSome_iff_exists.mp waits
  have latest := sound.leaving left
  simp only [flushesLatest, flushing, all_some] at latest
  rw [show session.pendingRecord = some record from pending] at latest
  have covered : record.sequence ≤ flush.record.sequence := by simpa using latest
  have later := newer record pending
  omega

theorem Sound.opens (opening : session.openPromise = .opening)
    (active : channel'.status = .active) (seller : channel'.seller = m.seller) (fresh : channel'.latestSequence = 0) :
    (session.setOpenPromise .opened).Sound m channel' := by
  obtain ⟨nothing, awaits⟩ := sound.unopened opening
  exact { sound with
    open_ := .inr rfl
    unopened := nofun
    ours := fun _ => ⟨by simp [active], seller⟩
    recorded := fun _ none => fresh.trans (nothing none).symm
    closed := fun _ closed => by simp [active] at closed }

end

theorem sound_fresh
    (named : opening.channelId = m.chain.computeChannelId m.buyer m.seller opening.salt) :
    SellerFreeUsageSession.Sound m channel { toFreeUsageOpening := opening } where
  named := named
  open_ := .inl rfl
  latest := nofun
  snapshot := nofun
  unopened _ := ⟨fun _ => rfl, nofun⟩
  ours := nofun
  recorded := nofun
  carries := nofun
  returned := nofun
  closing := nofun
  leaving := nofun
  closed := nofun

/-- What happens to other channels does not matter, nor what happens to the own one before it is opened. -/
theorem Sound.elsewhere (sound : session.Sound m channel)
    (same : session.openPromise = .opened → channel' = channel) : session.Sound m channel' :=
  { sound with
    ours := fun opened => same opened ▸ sound.ours opened
    recorded := fun opened none => same opened ▸ sound.recorded opened none
    closed := fun opened closed => sound.closed opened (same opened ▸ closed) }

/-! ### What a flush leaves alone -/

/-- Which channel the session is for, and whether it is open. -/
def face (session : SellerFreeUsageSession) : FreeUsageOpening × OpenPromise :=
  (session.toFreeUsageOpening, session.openPromise)

@[simp] theorem face_clearFlushTimer : session.clearFlushTimer.face = session.face := rfl

@[simp] theorem face_flushPendingRecord : session.flushPendingRecord.face = session.face := by
  unfold flushPendingRecord
  split <;> rfl

@[simp] theorem face_setStage (stage : FlushStage) : (session.setStage stage).face = session.face := rfl

@[simp] theorem face_flushStarts : session.flushStarts.face = session.face := by
  unfold flushStarts
  split <;> rfl

@[simp] theorem face_reported (record : PendingFreeUsageRecord) : (session.reported record).face = session.face := by
  unfold reported
  split
  · rfl
  · split <;> rfl

@[simp] theorem face_landed (flush : Flush) : (session.landed flush).face = session.face := by
  unfold landed
  split <;> simp

@[simp] theorem face_requestClose : session.requestClose.face = session.face := rfl

@[simp] theorem face_awaitFlush : session.awaitFlush.face = session.face := by
  unfold awaitFlush
  split <;> rfl

@[simp] theorem face_scheduleRecordFlush (retry : Bool) (nowMs : Nat) :
    (m.scheduleRecordFlush session retry nowMs).face = session.face := by
  unfold scheduleRecordFlush
  split
  · rfl
  · split
    · rfl
    · split
      · simp
      · split <;> rfl

end SellerFreeUsageSession

/-! ## Sound states -/

namespace ManagerState

/-- Every session is sound, no two share a channel that is open, and what was accepted was acknowledged. -/
structure Sound (m : SellerFreeUsageManager) (s : ManagerState) : Prop where
  sound : ∀ (id : Nat) (session : SellerFreeUsageSession), s.sessions[id]? = some session →
    session.Sound m (s.chain.channel session.channelId) ∧ session.Scheduled
  unique : ∀ (id other : Nat) (session twin : SellerFreeUsageSession), s.sessions[id]? = some session →
    s.sessions[other]? = some twin → session.openPromise = .opened → twin.openPromise = .opened →
    session.channelId = twin.channelId → id = other
  standing : ∀ task ∈ s.handlers, ∀ opening, task.handler = .standing opening →
    opening.channelId = m.chain.computeChannelId m.buyer m.seller opening.salt
  acknowledged : ∀ (id : Nat) (session : SellerFreeUsageSession), s.sessions[id]? = some session →
    session.acceptedSequence = 0 ∨ .acknowledged id session.acceptedSequence ∈ s.deeds

section Frames

variable {m : SellerFreeUsageManager} {s s' : ManagerState} {id : Nat}
  {change : SellerFreeUsageSession → SellerFreeUsageSession}

theorem Sound.handling (sound : s.Sound m) (chain : s'.chain = s.chain) (sessions : s'.sessions = s.sessions)
    (deeds : s.deeds ⊆ s'.deeds)
    (standing : ∀ task ∈ s'.handlers, ∀ opening, task.handler = .standing opening →
      opening.channelId = m.chain.computeChannelId m.buyer m.seller opening.salt) : s'.Sound m where
  sound id session found := by
    rw [chain]
    exact sound.sound id session (sessions ▸ found)
  unique id other session twin found found' :=
    sound.unique id other session twin (sessions ▸ found) (sessions ▸ found')
  standing := standing
  acknowledged id session found :=
    (sound.acknowledged id session (sessions ▸ found)).imp_right fun here => deeds here

variable {session : SellerFreeUsageSession}

theorem found_modify {other : Nat} (found : (s.sessions.modify id change)[other]? = some session) :
    other ≠ id ∧ s.sessions[other]? = some session
      ∨ other = id ∧ ∃ old, s.sessions[id]? = some old ∧ session = change old := by
  rw [getElem?_modify] at found
  by_cases same : id = other
  · subst same
    rw [Option.map_eq_map, Option.map_eq_some_iff] at found
    obtain ⟨old, here, changed⟩ := found
    rw [if_pos rfl] at changed
    exact .inr ⟨rfl, old, here, changed.symm⟩
  · exact .inl ⟨Ne.symm same, by simpa [same] using found⟩

theorem face_modify (faces : ∀ session, (change session).face = session.face) {other : Nat}
    (found : (s.sessions.modify id change)[other]? = some session) :
    ∃ old, s.sessions[other]? = some old ∧ session.face = old.face := by
  rcases found_modify found with ⟨-, here⟩ | ⟨rfl, old, here, rfl⟩
  · exact ⟨session, here, rfl⟩
  · exact ⟨old, here, faces old⟩

theorem Sound.changing (sound : s.Sound m) (handlers : ∀ task ∈ s'.handlers, ∀ opening,
      task.handler = .standing opening → opening.channelId = m.chain.computeChannelId m.buyer m.seller opening.salt)
    (sessions : s'.sessions = s.sessions.modify id change) (deeds : s.deeds ⊆ s'.deeds)
    (faces : ∀ session, (change session).face = session.face)
    (changed : ∀ session : SellerFreeUsageSession, s.sessions[id]? = some session →
      (change session).Sound m (s'.chain.channel session.channelId) ∧ (change session).Scheduled
        ∧ ((change session).acceptedSequence = 0 ∨ .acknowledged id (change session).acceptedSequence ∈ s'.deeds))
    (elsewhere : ∀ (other : Nat) (session : SellerFreeUsageSession), other ≠ id → s.sessions[other]? = some session →
      session.openPromise = .opened → s'.chain.channel session.channelId = s.chain.channel session.channelId) :
    s'.Sound m := by
  constructor
  · intro other session found
    rcases found_modify (sessions ▸ found) with ⟨different, here⟩ | ⟨rfl, old, here, rfl⟩
    · obtain ⟨whole, scheduled⟩ := sound.sound other session here
      exact ⟨whole.elsewhere (elsewhere other session different here), scheduled⟩
    · have channelId : (change old).channelId = old.channelId :=
        congrArg (fun face : FreeUsageOpening × OpenPromise => face.1.channelId) (faces old)
      rw [channelId]
      exact ⟨(changed old here).1, (changed old here).2.1⟩
  · intro id other session twin found found' opened opened' same
    obtain ⟨old, here, face⟩ := face_modify faces (sessions ▸ found)
    obtain ⟨old', here', face'⟩ := face_modify faces (sessions ▸ found')
    simp only [SellerFreeUsageSession.face, Prod.mk.injEq] at face face'
    refine sound.unique id other old old' here here' ?_ ?_ ?_
    · rw [← face.2, opened]
    · rw [← face'.2, opened']
    · rw [← face.1, ← face'.1, same]
  · exact handlers
  · intro other session found
    rcases found_modify (sessions ▸ found) with ⟨-, here⟩ | ⟨rfl, old, here, rfl⟩
    · exact (sound.acknowledged other session here).imp_right fun there => deeds there
    · exact (changed old here).2.2

theorem Sound.setSession (sound : s.Sound m) (faces : ∀ session, (change session).face = session.face)
    (accounts : ∀ session, (change session).account = session.account)
    (changed : ∀ session : SellerFreeUsageSession, s.sessions[id]? = some session →
      session.Sound m (s.chain.channel session.channelId) → session.Scheduled →
      (change session).Sound m (s.chain.channel session.channelId) ∧ (change session).Scheduled) :
    (s.setSession id change).Sound m := by
  refine sound.changing sound.standing rfl (fun _ here => here) faces (fun session found => ?_) fun _ _ _ _ _ => rfl
  obtain ⟨whole, scheduled⟩ := sound.sound id session found
  obtain ⟨whole', scheduled'⟩ := changed session found whole scheduled
  have accepted : (change session).acceptedSequence = session.acceptedSequence :=
    congrArg UsageAccount.acceptedSequence (accounts session)
  refine ⟨whole', scheduled', ?_⟩
  rw [accepted]
  exact sound.acknowledged id session found

end Frames

/-! ## Events -/

section Events

variable {m : SellerFreeUsageManager} {s : ManagerState}

theorem verifyOpen_named
    (verified : m.verifyOpen payload nowMs = some opening) :
    opening.channelId = m.chain.computeChannelId m.buyer m.seller opening.salt := by
  simp only [verifyOpen, Option.bind_eq_bind, Option.bind_eq_some_iff, Option.pure_def,
    ite_none_left_eq_some, some.injEq, not_not] at verified
  obtain ⟨salt, -, same, channelId, reads, _, -, deadline, -, -, openSig, -, rfl⟩ := verified
  exact Seller.Hex.bytes32_of_toLowerCase same reads

theorem Sound.enqueue (sound : s.Sound m) (handler : Handler) (starts : ∀ opening, handler ≠ .standing opening) :
    (s.enqueue handler).Sound m := by
  refine sound.handling rfl rfl (fun _ here => here) fun task here opening standing => ?_
  simp only [ManagerState.enqueue, List.mem_append, List.mem_singleton] at here
  rcases here with old | rfl
  · exact sound.standing task old opening standing
  · exact absurd standing (starts opening)

theorem Sound.finish (sound : s.Sound m) (id : Nat) : (s.finish id).Sound m :=
  sound.handling rfl rfl (fun _ here => here) fun task here => sound.standing task (mem_of_mem_filter here)

variable {id : Nat} {op : Operation}

theorem Sound.setHandler (sound : s.Sound m)
    (named : ∀ opening, handler = .standing opening →
      opening.channelId = m.chain.computeChannelId m.buyer m.seller opening.salt) :
    (s.setHandler id handler).Sound m := by
  refine sound.handling rfl rfl (fun _ here => here) fun task here opening standing => ?_
  obtain ⟨old, there, rfl⟩ := mem_map.mp here
  split at standing
  · exact named opening standing
  next other =>
    rw [if_neg other] at *
    exact sound.standing old there opening standing

theorem handlers_handleAuthInner (payload : FreeUsageAuthPayload) (nowMs : Nat) (sent : Bool) :
    (s.handleAuthInner m payload nowMs sent).handlers = s.handlers := by
  unfold handleAuthInner
  split
  · split
    · split <;> rfl
    · split
      · rfl
      · split <;> rfl
  · rfl

section

variable (sound : s.Sound m)

include sound

theorem standing_start (id nowMs : Nat) (sent : Bool) :
    ∀ task ∈ (s.start m id nowMs sent).handlers, ∀ opening, task.handler = .standing opening →
      opening.channelId = m.chain.computeChannelId m.buyer m.seller opening.salt := by
  unfold start
  split
  · exact sound.standing
  · split
    · exact sound.standing
    · split
      · split
        · exact (sound.finish id).standing
        next opening verified =>
          refine (sound.setHandler fun standing same => ?_).standing
          cases same
          exact verifyOpen_named verified
      · rw [handlers_handleAuthInner]
        exact (sound.finish id).standing
      · exact sound.standing
      · exact sound.standing

theorem Sound.start (id nowMs : Nat) (sent : Bool)
    (timely : s.timely m (.start id nowMs sent)) : (s.start m id nowMs sent).Sound m := by
  have standing := standing_start sound id nowMs sent
  cases start_handled (m := m) (s := s) id nowMs sent with
  | idle chain sessions deeds => exact sound.handling chain sessions (deeds ▸ fun _ here => here) standing
  | answered _ session found chain sessions deeds =>
    exact sound.handling chain sessions (deeds ▸ subset_cons_self _ _) standing
  | accepted id' session found record usage brings above expected signed chain sessions deeds =>
    obtain ⟨rfl, takes⟩ : sent = true ∧ s.takesRecords session = true := by
      simpa [ManagerState.timely, brings, found] using timely
    simp only [if_true] at sessions deeds
    refine sound.changing standing sessions (deeds ▸ fun _ here => by simp [here]) (fun _ => ?_)
      (fun old here => ?_) fun _ _ _ _ _ => by rw [chain]
    · rw [face_scheduleRecordFlush]
      rfl
    · rw [found] at here
      cases here
      have takes : session.closeRequested = true → session.flushPromise = none
          ∧ (s.chain.channel session.channelId).status ≠ .closed := by
        intro left
        simpa [takesRecords, left] using takes
      have accepted := (sound.sound id' session found).1.accept above takes
      refine ⟨?_, scheduled_scheduleRecordFlush, .inr ?_⟩
      · rw [chain]
        exact accepted.scheduleRecordFlush
      · have same : (m.scheduleRecordFlush (session.accept record) false nowMs).acceptedSequence
            = record.sequence := congrArg UsageAccount.acceptedSequence
          (account_scheduleRecordFlush m (session.accept record) false nowMs)
        rw [same, deeds]
        exact mem_cons_self

theorem Sound.addSession
    (named : opening.channelId = m.chain.computeChannelId m.buyer m.seller opening.salt) :
    (s.addSession opening).Sound m := by
  have before : ∀ (id : Nat) (session : SellerFreeUsageSession), (s.addSession opening).sessions[id]? = some session →
      s.sessions[id]? = some session ∨ session = { toFreeUsageOpening := opening } := by
    intro id session found
    simp only [ManagerState.addSession, List.getElem?_append] at found
    split at found
    · exact .inl found
    · obtain ⟨_, rfl⟩ := List.getElem?_eq_some_iff.mp found
      exact .inr (by simp)
  refine ⟨fun id session found => ?_, fun id other session twin found found' opened opened' same => ?_,
    sound.standing, fun id session found => ?_⟩
  · rcases before id session found with old | rfl
    · exact sound.sound id session old
    · exact ⟨sound_fresh named, by rintro _ ⟨⟩⟩
  · rcases before id session found with old | rfl
    · rcases before other twin found' with old' | rfl
      · exact sound.unique id other session twin old old' opened opened' same
      · cases opened'
    · cases opened
  · rcases before id session found with old | rfl
    · exact sound.acknowledged id session old
    · exact .inl rfl

theorem Sound.admitted (id : Nat)
    (admission : Except String (Option FreeTier.FreeTierDecision)) : (s.admitted id admission).Sound m := by
  unfold ManagerState.admitted
  split
  next opening here =>
    split
    · exact sound.finish id
    · split
      · exact sound.finish id
      · obtain ⟨task, found, standing⟩ := map_eq_some_iff.mp here
        have named := sound.standing task (mem_of_find?_eq_some found) opening standing
        exact (sound.addSession named).setHandler nofun
  · exact sound

theorem Sound.answered (id : Nat) (sent : Bool) : (s.answered id sent).Sound m := by
  unfold ManagerState.answered
  split
  · split
    · split
      · exact (sound.finish id).handling rfl rfl (subset_cons_self _ _) (sound.finish id).standing
      · exact sound.finish id
    · exact (sound.finish id).handling rfl rfl (fun _ here => here) (sound.finish id).standing
    · exact sound
  · exact sound

end

theorem transact_eq_some {landed : Option External} {chain : State}
    (lands : s.transact m landed op = some chain) :
    ∃ ext, step m.chain s.chain ⟨m.seller, ext, op⟩ = .ok chain := by
  obtain ⟨ext, -, lands⟩ := bind_eq_some_iff.mp lands
  cases taken : step m.chain s.chain ⟨m.seller, ext, op⟩ with
  | error =>
    rw [taken] at lands
    cases lands
  | ok =>
    rw [taken] at lands
    cases lands
    exact ⟨ext, taken⟩

theorem Sound.opening {s' : ManagerState} {session : SellerFreeUsageSession} {ext : External}
    (sound : s.Sound m) (found : s.sessions[id]? = some session)
    (opening : session.openPromise = .opening) (taken : step m.chain s.chain
      ⟨m.seller, ext, .open_ m.buyer session.salt session.deadline session.openSig⟩ = .ok s'.chain)
    (sessions : s'.sessions = s.sessions.modify id (·.setOpenPromise .opened))
    (handlers : s'.handlers = s.handlers) (deeds : s'.deeds = s.deeds) : s'.Sound m := by
  obtain ⟨whole, scheduled⟩ := sound.sound id session found
  obtain ⟨unused, opened, others⟩ := step_opens taken
  rw [← whole.named] at unused opened others
  have before : ∀ (other : Nat) (twin : SellerFreeUsageSession), s'.sessions[other]? = some twin →
      other ≠ id ∧ s.sessions[other]? = some twin ∨ other = id ∧ twin = session.setOpenPromise .opened := by
    intro other twin there
    refine (found_modify (sessions ▸ there)).imp_right fun ⟨same, old, here, changed⟩ => ⟨same, ?_⟩
    rw [found] at here
    cases here
    exact changed
  have different : ∀ (other : Nat) (twin : SellerFreeUsageSession), s.sessions[other]? = some twin → twin.openPromise = .opened →
      twin.channelId ≠ session.channelId := by
    intro other twin there ready same
    exact ((sound.sound other twin there).1.ours ready).1 (same ▸ unused)
  refine ⟨fun other twin there => ?_, fun a b first second hereA hereB readyA readyB same => ?_,
    handlers ▸ sound.standing, fun other twin there => ?_⟩
  · rcases before other twin there with ⟨-, here⟩ | ⟨-, rfl⟩
    · obtain ⟨theirs, scheduled⟩ := sound.sound other twin here
      exact ⟨theirs.elsewhere fun ready => others _ (different other twin here ready), scheduled⟩
    · exact ⟨whole.opens opening (congrArg Channel.status opened) (congrArg Channel.seller opened)
        (congrArg Channel.latestSequence opened), scheduled⟩
  · rcases before a first hereA with ⟨-, hereA⟩ | ⟨sameA, rfl⟩
    · rcases before b second hereB with ⟨-, hereB⟩ | ⟨-, rfl⟩
      · exact sound.unique a b first second hereA hereB readyA readyB same
      · exact absurd same (different a first hereA readyA)
    · rcases before b second hereB with ⟨-, hereB⟩ | ⟨sameB, rfl⟩
      · exact absurd same.symm (different b second hereB readyB)
      · exact sameA.trans sameB.symm
  · rw [deeds]
    rcases before other twin there with ⟨-, here⟩ | ⟨rfl, rfl⟩
    · exact sound.acknowledged other twin here
    · exact sound.acknowledged other session found

theorem Sound.opened (sound : s.Sound m) (id : Nat) (landed : Option External)
    (succeeds : s.succeeds m (.opened id landed)) : (s.opened m id landed).Sound m := by
  unfold ManagerState.opened
  split
  · exact sound
  next landed op call =>
    simp only [ManagerState.succeeds, call, all_some] at succeeds
    obtain ⟨chain, lands⟩ := isSome_iff_exists.mp succeeds
    simp only [lands]
    simp only [ManagerState.pendingCall, Option.bind_eq_bind, Option.bind_eq_some_iff, Option.pure_def,
      ite_none_right_eq_some, some.injEq, Prod.mk.injEq] at call
    obtain ⟨session, found, opening, -, rfl⟩ := call
    obtain ⟨ext, taken⟩ := transact_eq_some lands
    exact sound.opening found opening taken rfl rfl rfl

theorem Sound.checked (sound : s.Sound m) (id : Nat) (reached : Bool) : (s.checked m id reached).Sound m := by
  have same : s.checked m id reached = s := by
    have untouched : s.sessions.modify id (fun session =>
        if session.openPromise = .checking then
          let existing := s.chain.channel session.channelId
          session.setOpenPromise
            (if reached ∧ existing.status = .active ∧ existing.buyer = m.buyer ∧ existing.seller = m.seller then .opened
            else .failed)
        else session) = s.sessions := by
      refine ext_getElem? fun other => ?_
      rw [getElem?_modify]
      split
      next here =>
        subst here
        cases found : s.sessions[id]? with
        | none => rfl
        | some session =>
          have settled : session.openPromise ≠ .checking := by
            rcases (sound.sound id session found).1.open_ with opening | opened
            · rw [opening]; nofun
            · rw [opened]; nofun
          simp [settled]
      · simp
    unfold ManagerState.checked ManagerState.setSession
    rw [untouched]
  rw [same]
  exact sound

theorem submitted_reports {landed landed' : Option External} {chain : State}
    (call : s.pendingCall m (.submitted id landed) = some (landed', op))
    (lands : s.transact m landed' op = some chain) :
    ∃ session flush closes, s.sessions[id]? = some session ∧ session.flushPromise = some flush
      ∧ Reports s.chain chain session.channelId flush.record.sequence closes
      ∧ (flush.stage = .records ∧ closes = false
        ∨ (flush.stage = .closes ∨ flush.stage = .closesRecorded) ∧ closes = true) := by
  simp only [pendingCall, Option.bind_eq_bind, Option.bind_eq_some_iff, Option.pure_def] at call
  obtain ⟨session, found, flush, flushing, call⟩ := call
  obtain ⟨ext, taken⟩ := transact_eq_some lands
  cases stage : flush.stage with
  | awaitsOpen | returned => simp [stage] at call
  | records =>
    simp only [stage, some.injEq, Prod.mk.injEq] at call
    obtain ⟨-, rfl⟩ := call
    exact ⟨session, flush, false, found, flushing, step_records taken, .inl ⟨stage, rfl⟩⟩
  | closes =>
    simp only [stage, some.injEq, Prod.mk.injEq] at call
    obtain ⟨-, rfl⟩ := call
    exact ⟨session, flush, true, found, flushing, step_records_closed taken, .inr ⟨.inl stage, rfl⟩⟩
  | closesRecorded =>
    simp only [stage, some.injEq, Prod.mk.injEq] at call
    obtain ⟨-, rfl⟩ := call
    exact ⟨session, flush, true, found, flushing, step_records_closed taken, .inr ⟨.inr stage, rfl⟩⟩

section

variable (sound : s.Sound m)

include sound

theorem Sound.submitted (id : Nat) (landed : Option External)
    (succeeds : s.succeeds m (.submitted id landed)) : (s.submitted m id landed).Sound m := by
  unfold ManagerState.submitted
  split
  · exact sound
  next landed op call =>
    simp only [ManagerState.succeeds, call, all_some] at succeeds
    obtain ⟨chain, lands⟩ := isSome_iff_exists.mp succeeds
    simp only [lands]
    obtain ⟨session, flush, closes, found, flushing, reports, stage⟩ := submitted_reports call lands
    obtain ⟨whole, -⟩ := sound.sound id session found
    have goesOn : ∀ flushed, flush.stage ≠ .returned flushed := by
      intro flushed returned
      simp [returned] at stage
    have begun : flush.stage ≠ .awaitsOpen := by
      intro awaits
      simp [awaits] at stage
    have waits := whole.carries flush flushing goesOn
    have opened : session.openPromise = .opened := by
      rcases whole.open_ with opening | opened
      · exact absurd ((whole.unopened opening).2 flush flushing) begun
      · exact opened
    refine sound.changing sound.standing rfl (fun _ here => here) (fun session => ?_) (fun old here => ?_)
      fun other twin apart here ready => ?_
    · cases session.flushPromise with
      | none => rfl
      | some flush => exact SellerFreeUsageSession.face_landed flush
    · rw [found] at here
      cases here
      simp only [flushing, elim_some]
      have outcome : flush.stage = .records ∧ (chain.channel session.channelId).status = .active
          ∨ (flush.stage = .closes ∨ flush.stage = .closesRecorded)
            ∧ (chain.channel session.channelId).status = .closed := by
        have status := reports.status
        rcases stage with ⟨records, rfl⟩ | ⟨ends, rfl⟩
        · exact .inl ⟨records, by simpa using status⟩
        · exact .inr ⟨ends, by simpa using status⟩
      refine ⟨whole.landed flushing opened waits reports.seller reports.latest outcome, ?_, ?_⟩
      · intro _ _ idle
        unfold SellerFreeUsageSession.landed SellerFreeUsageSession.setStage SellerFreeUsageSession.reported at idle
        split at idle
        · simp [flushing] at idle
        · split at idle
          · simp [flushing] at idle
          · split at idle <;> simp [flushing] at idle
      · have same : (session.landed flush).acceptedSequence = session.acceptedSequence :=
          congrArg UsageAccount.acceptedSequence (session.account_landed flush)
        rw [same]
        exact sound.acknowledged id session found
    · refine reports.others _ fun same => apart ?_
      exact sound.unique other id twin session here found ready opened same

theorem Sound.flushEnds (id nowMs : Nat) : (s.flushEnds m id nowMs).Sound m := by
  refine sound.setSession (fun session => ?_) (fun session => ?_) fun session found whole scheduled => ?_
  · split
    · extract_lets ended
      split
      · exact (face_scheduleRecordFlush _ nowMs).trans rfl
      · rfl
    · rfl
  · split
    · extract_lets ended
      split
      · exact (account_scheduleRecordFlush m ended _ nowMs).trans rfl
      · rfl
    · rfl
  · split
    next record flushed waiting flushing =>
      obtain ⟨ended, quiet⟩ := whole.flushEnds flushing rfl (session.leaving + waiting)
      obtain ⟨rfl, -⟩ := whole.returned _ flushing flushed rfl
      dsimp only
      split
      · exact ⟨ended.scheduleRecordFlush, scheduled_scheduleRecordFlush⟩
      · exact ⟨ended, quiet⟩
    · exact ⟨whole, scheduled⟩

theorem Sound.onPeerDisconnect (timely : s.timely m .onPeerDisconnect) : s.onPeerDisconnect.Sound m := by
  unfold ManagerState.onPeerDisconnect
  split
  · exact sound.handling rfl rfl (fun _ here => here) sound.standing
  next id current =>
    split
    · exact sound.handling rfl rfl (fun _ here => here) sound.standing
    next session found =>
      have latest : session.flushesLatest = true := by
        simpa [ManagerState.timely, current, found] using timely
      split
      · have next : (s.setSession id (·.requestClose.flushPendingRecord.awaitFlush)).Sound m := by
          refine sound.setSession (fun _ => by simp) (fun _ => by simp) fun old here whole _ => ?_
          rw [found] at here
          cases here
          exact whole.disconnect latest
        exact next.handling rfl rfl (fun _ here => here) next.standing
      next nothing =>
        have next : (s.setSession id (·.requestClose)).Sound m := by
          refine sound.setSession (fun _ => rfl) (fun _ => rfl) fun old here whole _ => ?_
          rw [found] at here
          cases here
          refine ⟨whole.requestClose latest, fun _ waits _ => ?_⟩
          exact absurd (.inl waits) nothing
        exact next.handling rfl rfl (fun _ here => here) next.standing

theorem Sound.left (id : Nat) : (s.left id).Sound m := by
  unfold ManagerState.left
  split
  · have next : (s.setSession id fun session => { session with leaving := session.leaving - 1 }).Sound m :=
      sound.setSession (fun _ => rfl) (fun _ => rfl) fun session _ whole scheduled => ⟨{ whole with }, scheduled⟩
    exact next.handling rfl rfl (fun _ here => here) next.standing
  · exact sound

theorem Sound.flushAllPendingRecords : s.flushAllPendingRecords.Sound m := by
  unfold ManagerState.flushAllPendingRecords
  split
  · exact sound
  · exact sound.setSession (fun _ => by simp) (fun _ => by simp) fun _ _ whole _ =>
      ⟨whole.clearFlushTimer.flushPendingRecord, scheduled_flushPendingRecord⟩

theorem Sound.timer (id : Nat) : (s.timer id).Sound m := by
  refine sound.setSession (fun _ => by split <;> simp) (fun _ => by split <;> simp) fun session _ whole scheduled => ?_
  split
  · exact ⟨whole.clearFlushTimer.flushPendingRecord, scheduled_flushPendingRecord⟩
  · exact ⟨whole, scheduled⟩

theorem Sound.reportUsageRequest (usage : Usage) (sent : Bool) :
    (s.reportUsageRequest usage sent).Sound m := by
  unfold ManagerState.reportUsageRequest
  split
  · exact sound
  next id _ =>
    split
    · exact sound
    next session found =>
      extract_lets nextSequence inputTokens outputTokens
      split
      · refine sound.changing sound.standing rfl (subset_cons_self _ _) (fun _ => rfl) (fun old here => ?_)
          fun _ _ _ _ _ => rfl
        obtain ⟨whole, scheduled⟩ := sound.sound id old here
        refine ⟨whole.reportUsage inputTokens outputTokens nextSequence, scheduled, ?_⟩
        exact (sound.acknowledged id old here).imp_right fun there => mem_cons_of_mem _ there
      · exact sound

theorem Sound.flushStarts (id : Nat) : (s.setSession id (·.flushStarts)).Sound m :=
  sound.setSession (fun _ => by simp) (fun _ => by simp) fun _ _ whole scheduled =>
    ⟨whole.flushStarts, scheduled_flushStarts scheduled⟩

theorem Sound.foreign (foreign : call.sender ≠ m.seller) :
    ManagerState.Sound m { s with chain := (machine m.chain).exec s.chain call } := by
  refine ⟨fun id session found => ?_, sound.unique, sound.standing, sound.acknowledged⟩
  obtain ⟨whole, scheduled⟩ := sound.sound id session found
  refine ⟨whole.elsewhere fun opened => ?_, scheduled⟩
  obtain ⟨there, seller⟩ := whole.ours opened
  rcases (machine m.chain).exec_cases s.chain call with taken | skipped
  · exact step_foreign taken there (seller ▸ foreign)
  · rw [skipped]

theorem sound_step (event : Event) (succeeds : s.succeeds m event) (timely : s.timely m event) :
    (m.step s event).Sound m := by
  cases event with
  | handleOpen | handleAuth => exact sound.enqueue _ nofun
  | start handler nowMs sent => exact sound.start handler nowMs sent timely
  | admitted handler admission => exact sound.admitted handler admission
  | opened session landed => exact sound.opened session landed succeeds
  | checked session reached => exact sound.checked session reached
  | answered handler sent => exact sound.answered handler sent
  | onPeerDisconnect => exact sound.onPeerDisconnect timely
  | flushAllPendingRecords => exact sound.flushAllPendingRecords
  | reportUsageRequest usage sent => exact sound.reportUsageRequest usage sent
  | timer session => exact sound.timer session
  | flushStarts session => exact sound.flushStarts session
  | submitted session landed => exact sound.submitted session landed succeeds
  | flushEnds session nowMs => exact sound.flushEnds session nowMs
  | left session => exact sound.left session
  | chain =>
    simp only [SellerFreeUsageManager.step]
    split
    · exact sound
    next foreign => exact sound.foreign foreign

end

end Events

end ManagerState

end AntSeed.FreeUsage
