import AntSeed.Lib.Chronicle
import AntSeed.Buyer.OneOffPayments

/-! # A video is paid on delivery

The maps of the manager and the rows of the store may disagree, and a seller may
send its messages at any time. But whatever is kept was done by the buyer
before: a channel was opened with a plan that the buyer computed, a job was
bound to its channel, and a request is observed only with its delivery.
-/

namespace AntSeed.Buyer.OneOff

open Async Protocol OneOff.Process
open List Keyed Option

/-! ## What the buyer's deeds justify -/

def Delivered (key : VideoJobKey) (channelId : String) (deeds : List Deed) : Prop :=
  Chronicle.Followed (.bound key channelId) (.received key) deeds

def Opened (channelId : String) (price : Nat) (deeds : List Deed) : Prop :=
  ∃ opening, .opening opening ∈ deeds ∧ opening.channelId = channelId ∧ opening.plan.requestCost = price

/-- What a message may be signed for: the reserves of the channel's plan, its fee, and its price on delivery. -/
def Justified (earlier : List Deed) (opening : Opening) : Signed → Prop
  | .reserveAuth channelId maxAmount _ => opening.channelId = channelId ∧
      (maxAmount = opening.plan.openingReserveAmount ∨ maxAmount = opening.plan.requestCost)
  | .spendingAuth channelId cumulativeAmount => opening.channelId = channelId ∧
      (cumulativeAmount = opening.plan.requiredCumulativeAmount ∧ 0 < opening.plan.requiredCumulativeAmount ∨
        cumulativeAmount = opening.plan.requestCost ∧ ∃ key, Delivered key channelId earlier)

/-- What must have been done before a deed. -/
def Proper (config : Config) (earlier : List Deed) : Deed → Prop
  | .priced _ price => 0 < price ∧ price ≤ config.maxVideoRequestUsdc
  | .limits firstSignCap topUpThresholdBps => 0 < firstSignCap ∧ 0 < topUpThresholdBps ∧ topUpThresholdBps ≤ 10000
  | .opening opening => (∃ requestId, .priced requestId opening.plan.requestCost ∈ earlier) ∧
      ∃ cap bps, .limits cap bps ∈ earlier ∧ opening.plan = computeOneOffChannelPlan opening.plan.requestCost cap bps
  | .bound _ _ => True
  | .received _ => True
  | .signed message => ∃ opening, .opening opening ∈ earlier ∧ Justified earlier opening message

/-! ## What is kept -/

section Kept

variable (config : Config) (retrieves : String → Option VideoJobKey) (deeds : List Deed)

def BuyerRequestBillingEntry.Priced (entry : BuyerRequestBillingEntry) : Prop :=
  ∀ cost ∈ entry.estimatedCostUsdc, ∃ requestId, .priced requestId cost ∈ deeds

/-- A request that a channel pays for retrieves a job bound to it, and is observed with the delivery. -/
structure TrackedRequest.Sound (request : TrackedRequest) : Prop where
  priced : request.entry.Priced deeds
  bound : ∀ channelId ∈ request.oneOffChannelId, ∃ key ∈ retrieves request.requestId, .bound key channelId ∈ deeds ∧
    (request.entry.observedUnitUsage.isSome → Delivered key channelId deeds)

structure VideoJob.Sound (job : VideoJob) : Prop where
  priced : job.entry.Priced deeds
  bound : ∀ channelId ∈ job.oneOffChannelId, .bound job.key channelId ∈ deeds

/-- A stored job is bound to the channel of its row. -/
structure PersistedVideoJob.Sound (peerId sessionId : String) (job : PersistedVideoJob) : Prop where
  priced : job.entry.Priced deeds
  bound : .bound (videoJobKey peerId job.protocol job.jobId) sessionId ∈ deeds

structure StoredChannel.Sound (row : StoredChannel) : Prop where
  opened : Opened row.sessionId row.reserveMaxAmount deeds
  job : ∀ job ∈ row.oneOffVideoJob, job.Sound deeds row.peerId row.sessionId

/-- A waiter's request is observed, if it is, with the delivery. -/
def Waiter.Sound (requests : List TrackedRequest) (waiter : Waiter) : Prop :=
  ∃ key ∈ retrieves waiter.requestId, .bound key waiter.channelId ∈ deeds ∧
    ∀ request ∈ requests, request.requestId = waiter.requestId →
      request.entry.observedUnitUsage.isSome → Delivered key waiter.channelId deeds

structure State.Sound (s : State) : Prop where
  deeds : Chronicle.Sound (Proper config) s.deeds
  distinct : (s.requestBillingEntries.map TrackedRequest.requestId).Nodup
  requests : ∀ request ∈ s.requestBillingEntries, request.Sound retrieves s.deeds
  jobs : ∀ job ∈ s.videoJobs, job.Sound s.deeds
  channels : ∀ state ∈ s.oneOffChannels, Opened state.channelId state.price s.deeds
  rows : ∀ row ∈ s.store, row.Sound s.deeds
  waiters : ∀ waiter ∈ s.waiters, waiter.Sound retrieves s.deeds s.requestBillingEntries
  settled : ∀ answer ∈ s.settled, answer.2.isSome → ∃ key, Delivered key answer.1.channelId s.deeds

/-- No deed is forgotten, and all is as it should be. -/
structure State.Kept (s s' : State) : Prop where
  sound : s'.Sound config retrieves
  grown : s.deeds <:+ s'.deeds

end Kept

section Grown

variable {config : Config} {retrieves : String → Option VideoJobKey} {deeds more : List Deed} {s s' s'' : State}
  {channelId : String} {price : Nat} {key : VideoJobKey}

theorem Opened.grown (opened : Opened channelId price deeds) (grown : deeds <:+ more) :
    Opened channelId price more := by
  obtain ⟨opening, done, same⟩ := opened
  exact ⟨opening, grown.subset done, same⟩

theorem Justified.grown {opening : Opening} {message : Signed} (justified : Justified deeds opening message)
    (grown : deeds <:+ more) : Justified more opening message := by
  cases message with
  | reserveAuth => exact justified
  | spendingAuth =>
    obtain ⟨same, fee | ⟨whole, key, delivered⟩⟩ := justified
    · exact ⟨same, .inl fee⟩
    · exact ⟨same, .inr ⟨whole, key, delivered.suffix grown⟩⟩

theorem Proper.grown {deed : Deed} (proper : Proper config deeds deed) (grown : deeds <:+ more) :
    Proper config more deed := by
  cases deed with
  | priced | limits => exact proper
  | opening =>
    obtain ⟨⟨requestId, priced⟩, cap, bps, limits, computed⟩ := proper
    exact ⟨⟨requestId, grown.subset priced⟩, cap, bps, grown.subset limits, computed⟩
  | bound | received => trivial
  | signed =>
    obtain ⟨opening, done, justified⟩ := proper
    exact ⟨opening, grown.subset done, justified.grown grown⟩

theorem State.Sound.proper (sound : s.Sound config retrieves) {deed : Deed} (done : deed ∈ s.deeds) :
    Proper config s.deeds deed :=
  sound.deeds.mem (fun proper => proper.grown (suffix_append _ _)) done

theorem BuyerRequestBillingEntry.Priced.grown {entry : BuyerRequestBillingEntry} (priced : entry.Priced deeds)
    (grown : deeds <:+ more) : entry.Priced more := by
  intro cost here
  obtain ⟨requestId, done⟩ := priced cost here
  exact ⟨requestId, grown.subset done⟩

theorem TrackedRequest.Sound.grown {request : TrackedRequest} (sound : request.Sound retrieves deeds)
    (grown : deeds <:+ more) : request.Sound retrieves more where
  priced := sound.priced.grown grown
  bound channelId pays := by
    obtain ⟨key, retrieved, bound, delivered⟩ := sound.bound channelId pays
    exact ⟨key, retrieved, grown.subset bound, fun observed => (delivered observed).suffix grown⟩

theorem VideoJob.Sound.grown {job : VideoJob} (sound : job.Sound deeds) (grown : deeds <:+ more) : job.Sound more :=
  ⟨sound.priced.grown grown, fun channelId pays => grown.subset (sound.bound channelId pays)⟩

theorem StoredChannel.Sound.grown {row : StoredChannel} (sound : row.Sound deeds) (grown : deeds <:+ more) :
    row.Sound more where
  opened := sound.opened.grown grown
  job job stored := ⟨(sound.job job stored).priced.grown grown, grown.subset (sound.job job stored).bound⟩

theorem Waiter.Sound.grown {requests : List TrackedRequest} {waiter : Waiter}
    (sound : waiter.Sound retrieves deeds requests) (grown : deeds <:+ more) :
    waiter.Sound retrieves more requests := by
  obtain ⟨key, retrieved, bound, delivered⟩ := sound
  exact ⟨key, retrieved, grown.subset bound, fun request here same observed =>
    (delivered request here same observed).suffix grown⟩

theorem State.Kept.refl (sound : s.Sound config retrieves) : s.Kept config retrieves s := ⟨sound, suffix_rfl⟩

theorem State.Kept.trans (first : s.Kept config retrieves s') (second : s'.Kept config retrieves s'') :
    s.Kept config retrieves s'' :=
  ⟨second.sound, first.grown.trans second.grown⟩

end Grown

/-! ## Changes -/

/-- The request is the same, unless the delivery of its job is observed now. -/
structure TrackedRequest.Observes (retrieves : String → Option VideoJobKey) (deeds : List Deed)
    (request after : TrackedRequest) : Prop where
  requestId : after.requestId = request.requestId
  channel : after.oneOffChannelId = request.oneOffChannelId
  cost : after.entry.estimatedCostUsdc = request.entry.estimatedCostUsdc
  observed : after.entry.observedUnitUsage.isSome → request.entry.observedUnitUsage.isSome ∨
    ∀ key ∈ retrieves request.requestId, ∀ channelId, .bound key channelId ∈ deeds → Delivered key channelId deeds

section Changes

variable {config : Config} {retrieves : String → Option VideoJobKey} {s : State} (sound : s.Sound config retrieves)
  {key : VideoJobKey} {requestId channelId sellerPeerId : String} {saves : Bool}

include sound

theorem note_kept (proper : Proper config s.deeds deed) : s.Kept config retrieves (s.note deed) := by
  have grown : s.deeds <:+ (s.note deed).deeds := suffix_cons deed s.deeds
  refine ⟨⟨⟨proper, sound.deeds⟩, sound.distinct, ?_, ?_, ?_, ?_, ?_, ?_⟩, grown⟩
  · exact fun request here => (sound.requests request here).grown grown
  · exact fun job here => (sound.jobs job here).grown grown
  · exact fun state here => (sound.channels state here).grown grown
  · exact fun row here => (sound.rows row here).grown grown
  · exact fun waiter here => (sound.waiters waiter here).grown grown
  · intro answer here given
    obtain ⟨key, delivered⟩ := sound.settled answer here given
    exact ⟨key, delivered.suffix grown⟩

variable {row : StoredChannel} {request : TrackedRequest} {job : Option PersistedVideoJob}
  {usage : UnitBillingUsage} {entry : BuyerRequestBillingEntry}

theorem upsertChannel_kept (proper : row.Sound s.deeds) :
    s.Kept config retrieves (s.upsertChannel row) := by
  refine ⟨{ sound with rows := fun other here => ?_ }, suffix_rfl⟩
  cases mem_of_mem_set here with
  | inl same => exact same ▸ proper
  | inr before => exact sound.rows other before

theorem row_sound (found : s.row channelId = some row) :
    row.Sound s.deeds ∧ row.sessionId = channelId := by
  obtain ⟨here, same⟩ := mem_of_get found
  exact ⟨sound.rows row here, same⟩

theorem channel_opened (found : s.channel channelId = some state) :
    Opened channelId state.price s.deeds := by
  obtain ⟨here, same⟩ := mem_of_get found
  exact same ▸ sound.channels state here

theorem job_sound {job : VideoJob} (found : s.job key = some job) : job.Sound s.deeds ∧ job.key = key := by
  obtain ⟨here, same⟩ := mem_of_get found
  exact ⟨sound.jobs job here, same⟩

theorem request_sound (found : s.request requestId = some request) :
    request.Sound retrieves s.deeds ∧ request.requestId = requestId := by
  obtain ⟨here, same⟩ := mem_of_get found
  exact ⟨sound.requests request here, same⟩

theorem changeChannels_kept
    (same : ∀ state, (change state).channelId = state.channelId ∧ (change state).price = state.price) :
    s.Kept config retrieves { s with oneOffChannels := s.oneOffChannels.map change } := by
  refine ⟨{ sound with channels := fun state here => ?_ }, suffix_rfl⟩
  obtain ⟨before, was, rfl⟩ := mem_map.mp here
  rw [(same before).1, (same before).2]
  exact sound.channels before was

theorem retireOneOffChannel_kept : s.Kept config retrieves (s.retireOneOffChannel channelId) := by
  rw [State.retireOneOffChannel]
  cases s.channel channelId with
  | none => exact .refl sound
  | some =>
    refine ⟨{ sound with channels := ?_, rows := ?_ }, suffix_rfl⟩
    · exact fun other here => sound.channels other (mem_of_mem_filter here)
    · intro row here
      obtain ⟨before, was, same⟩ := mem_map.mp here
      have stored := sound.rows before was
      subst same
      change StoredChannel.Sound s.deeds _
      split
      · exact ⟨stored.opened, stored.job⟩
      · exact stored

theorem persistVideoJob_kept
    (proper : ∀ stored ∈ job, ∀ row, s.row channelId = some row → stored.Sound s.deeds row.peerId channelId) :
    s.Kept config retrieves (s.persistVideoJob channelId job saves) := by
  rw [State.persistVideoJob]
  cases found : s.row channelId with
  | none => exact .refl sound
  | some row =>
    cases saves with
    | false => exact .refl sound
    | true =>
      obtain ⟨stored, same⟩ := row_sound sound found
      exact upsertChannel_kept sound ⟨stored.opened, fun job here => same ▸ proper job here row found⟩

omit sound in
theorem persistVideoJob_note :
    (s.persistVideoJob channelId job saves).note deed = (s.note deed).persistVideoJob channelId job saves := by
  have same : (s.note deed).row channelId = s.row channelId := rfl
  rw [State.persistVideoJob, State.persistVideoJob, same]
  cases s.row channelId with
  | none => rfl
  | some => cases saves <;> rfl

theorem settle_kept {usage : Option UnitBillingUsage}
    (proper : usage.isSome → ∀ waiter ∈ s.waiters, waiter.requestId = requestId →
      ∃ key, Delivered key waiter.channelId s.deeds) :
    s.Kept config retrieves (s.settle requestId usage) := by
  refine ⟨{ sound with waiters := ?_, settled := ?_ }, suffix_rfl⟩
  · exact fun waiter here => sound.waiters waiter (mem_of_mem_filter here)
  · intro answer here given
    cases mem_append.mp here with
    | inr before => exact sound.settled answer before given
    | inl new =>
      obtain ⟨waiter, waited, rfl⟩ := mem_map.mp new
      obtain ⟨waiting, same⟩ := mem_filter.mp waited
      exact proper given waiter waiting (of_decide_eq_true same)

theorem observe_kept {change : TrackedRequest → TrackedRequest}
    (observes : ∀ request : TrackedRequest, request.Observes retrieves s.deeds (change request)) :
    s.Kept config retrieves { s with requestBillingEntries := s.requestBillingEntries.map change } := by
  refine ⟨{ sound with distinct := ?_, requests := ?_, waiters := ?_ }, suffix_rfl⟩
  · have names : TrackedRequest.requestId ∘ change = TrackedRequest.requestId :=
      funext fun request => (observes request).requestId
    rw [List.map_map, names]
    exact sound.distinct
  · intro request here
    obtain ⟨before, was, rfl⟩ := mem_map.mp here
    have tracked := sound.requests before was
    have same := observes before
    refine ⟨?_, fun channelId pays => ?_⟩
    · rw [BuyerRequestBillingEntry.Priced, same.cost]
      exact tracked.priced
    · rw [same.channel] at pays
      obtain ⟨key, retrieved, bound, delivered⟩ := tracked.bound channelId pays
      refine ⟨key, same.requestId ▸ retrieved, bound, fun observed => ?_⟩
      exact (same.observed observed).elim delivered fun now => now key retrieved channelId bound
  · intro waiter here
    obtain ⟨key, retrieved, bound, delivered⟩ := sound.waiters waiter here
    refine ⟨key, retrieved, bound, fun request there name observed => ?_⟩
    obtain ⟨before, was, rfl⟩ := mem_map.mp there
    have same := observes before
    rw [same.requestId] at name
    refine (same.observed observed).elim (delivered before was name) fun now => ?_
    exact now key (name ▸ retrieved) waiter.channelId bound

theorem recordObservedUnitUsage_kept
    (recorded : ∀ key ∈ retrieves requestId, ∀ channelId, .bound key channelId ∈ s.deeds →
      Delivered key channelId s.deeds) :
    s.Kept config retrieves (s.recordObservedUnitUsage requestId usage) := by
  have now : s.Kept config retrieves { s with
      requestBillingEntries := s.requestBillingEntries.map fun request : TrackedRequest =>
        if request.requestId = requestId then
          { request with entry := { request.entry with observedUnitUsage := some usage } }
        else request } := by
    refine observe_kept sound fun request => ?_
    split
    next same => exact ⟨rfl, rfl, rfl, fun _ => .inr (same ▸ recorded)⟩
    · exact ⟨rfl, rfl, rfl, .inl⟩
  refine now.trans (settle_kept now.sound fun _ waiter here same => ?_)
  obtain ⟨key, retrieved, bound, -⟩ := sound.waiters waiter here
  exact ⟨key, recorded key (same ▸ retrieved) waiter.channelId bound⟩

theorem noObservedUnitUsage_kept : s.Kept config retrieves (s.noObservedUnitUsage requestId) := by
  have now : s.Kept config retrieves { s with
      requestBillingEntries := s.requestBillingEntries.map fun request : TrackedRequest =>
        if request.requestId = requestId then { request with notDelivered := true } else request } := by
    refine observe_kept sound fun request => ?_
    split
    · exact ⟨rfl, rfl, rfl, .inl⟩
    · exact ⟨rfl, rfl, rfl, .inl⟩
  refine now.trans (settle_kept now.sound fun given => ?_)
  cases given

theorem track_kept (proper : request.Sound retrieves s.deeds)
    (unobserved : request.entry.observedUnitUsage = none) : s.Kept config retrieves
      { s with requestBillingEntries := Keyed.set TrackedRequest.requestId request s.requestBillingEntries } := by
  have distinct := @Keyed.nodup_keys_set _ _ _ TrackedRequest.requestId request _ sound.distinct
  refine ⟨{ sound with distinct := distinct, requests := ?_, waiters := ?_ }, suffix_rfl⟩
  · intro other here
    cases mem_of_mem_set here with
    | inl same => exact same ▸ proper
    | inr before => exact sound.requests other before
  · intro waiter here
    obtain ⟨key, retrieved, bound, delivered⟩ := sound.waiters waiter here
    refine ⟨key, retrieved, bound, fun other there => ?_⟩
    cases mem_of_mem_set there with
    | inl same => simp [same, unobserved]
    | inr before => exact delivered other before

theorem trackRequestBilling_kept (priced : entry.Priced s.deeds)
    (unobserved : entry.observedUnitUsage = none) :
    s.Kept config retrieves (s.trackRequestBilling requestId entry) :=
  track_kept sound ⟨priced, nofun⟩ unobserved

theorem trackVideoRetrieve_kept (retrieved : key ∈ retrieves requestId) :
    s.Kept config retrieves (s.trackVideoRetrieve key requestId) := by
  rw [State.trackVideoRetrieve]
  cases found : s.job key with
  | none => exact .refl sound
  | some =>
    obtain ⟨known, same⟩ := job_sound sound found
    refine track_kept sound ⟨known.priced, fun channelId pays => ?_⟩ rfl
    exact ⟨key, retrieved, same ▸ known.bound channelId pays, nofun⟩

theorem clearRequestBilling_kept : s.Kept config retrieves (s.clearRequestBilling requestId) := by
  refine ⟨{ sound with distinct := ?_, requests := ?_, waiters := ?_ }, suffix_rfl⟩
  · exact sound.distinct.sublist (filter_sublist.map _)
  · exact fun request here => sound.requests request (mem_of_mem_filter here)
  · intro waiter here
    obtain ⟨key, retrieved, bound, delivered⟩ := sound.waiters waiter here
    exact ⟨key, retrieved, bound, fun request there => delivered request (mem_of_mem_filter there)⟩

theorem forgetVideoJob_kept : s.Kept config retrieves (s.forgetVideoJob key saves) := by
  have forgotten : s.Kept config retrieves { s with videoJobs := s.videoJobs.filter (·.key ≠ key) } :=
    ⟨{ sound with jobs := fun job here => sound.jobs job (mem_of_mem_filter here) }, suffix_rfl⟩
  rw [State.forgetVideoJob]
  cases (s.job key).bind (·.oneOffChannelId) with
  | none => exact forgotten
  | some => exact forgotten.trans (persistVideoJob_kept forgotten.sound nofun)

theorem trackVideoJob_kept (priced : entry.Priced s.deeds) :
    s.Kept config retrieves (s.trackVideoJob sellerPeerId protocol jobId entry requestId saves) := by
  have add : ∀ {s' : State} (job : VideoJob), s'.Sound config retrieves → job.Sound s'.deeds →
      s'.Kept config retrieves { s' with videoJobs := set VideoJob.key job s'.videoJobs } := by
    intro s' job sound proper
    refine ⟨{ sound with jobs := fun other here => ?_ }, suffix_rfl⟩
    exact (mem_of_mem_set here).elim (fun same => same ▸ proper) (sound.jobs other)
  rw [State.trackVideoJob]
  cases s.getOneOffChannelForRequest sellerPeerId requestId with
  | none => exact add _ sound ⟨priced, nofun⟩
  | some channelId =>
    have bound := @note_kept _ _ _ sound (.bound (videoJobKey sellerPeerId protocol jobId) channelId) trivial
    have tracked := bound.trans <| add ⟨videoJobKey sellerPeerId protocol jobId, entry, some channelId⟩ bound.sound
      ⟨priced.grown bound.grown, fun _ same => some.inj same ▸ mem_cons_self⟩
    dsimp only
    cases found : s.row channelId with
    | none =>
      refine tracked.trans (persistVideoJob_kept tracked.sound fun _ _ row here => ?_)
      exact absurd (found.symm.trans here) nofun
    | some row =>
      have again := tracked.trans <|
        @note_kept _ _ _ tracked.sound (.bound (videoJobKey row.peerId protocol jobId) channelId) trivial
      dsimp only
      rw [persistVideoJob_note]
      refine again.trans (persistVideoJob_kept again.sound fun stored same other here => ?_)
      cases some.inj same
      cases some.inj (found.symm.trans here)
      exact ⟨priced.grown again.grown, mem_cons_self⟩

theorem recordVideoDelivered_kept (retrieved : key ∈ retrieves requestId) :
    s.Kept config retrieves (s.recordVideoDelivered key requestId saves) := by
  have tracked : ∀ {s' : State}, s'.Sound config retrieves → s'.Kept config retrieves
      (if (s'.request requestId).isSome then s' else s'.trackVideoRetrieve key requestId) := by
    intro s' sound
    split
    · exact .refl sound
    · exact trackVideoRetrieve_kept sound retrieved
  have received : ∀ {s' : State} (unsaved : List (VideoJobKey × String)) (usage : UnitBillingUsage),
      s'.Sound config retrieves → s'.Kept config retrieves
        ((State.note { s' with
            videoJobs := s'.videoJobs.filter (·.key ≠ key)
            unsavedVideoDeliveries := unsaved } (.received key)).recordObservedUnitUsage requestId usage) := by
    intro s' unsaved usage sound
    have dropped : s'.Kept config retrieves { s' with
        videoJobs := s'.videoJobs.filter (·.key ≠ key)
        unsavedVideoDeliveries := unsaved } :=
      ⟨{ sound with jobs := fun job here => sound.jobs job (mem_of_mem_filter here) }, suffix_rfl⟩
    have noted := dropped.trans (@note_kept _ _ _ dropped.sound (.received key) trivial)
    refine noted.trans (recordObservedUnitUsage_kept noted.sound fun other retrieved' channelId bound => ?_)
    cases some.inj (Eq.trans (Eq.symm retrieved) retrieved')
    -- the job was bound before the delivery that is noted last
    exact Chronicle.followed_cons ((mem_cons.mp bound).resolve_left nofun)
  rw [State.recordVideoDelivered]
  cases s.job key with
  | none => exact noObservedUnitUsage_kept sound
  | some job =>
    dsimp only
    cases job.entry.videoFacts with
    | none => exact noObservedUnitUsage_kept sound
    | some =>
      cases job.oneOffChannelId with
      | none => exact (tracked sound).trans (received _ _ (tracked sound).sound)
      | some channelId =>
        have cleared := @persistVideoJob_kept _ _ _ sound channelId saves none nofun
        exact (cleared.trans (tracked cleared.sound)).trans (received _ _ (tracked cleared.sound).sound)

theorem videoDeliveryUnsaved_kept : s.Kept config retrieves (s.videoDeliveryUnsaved key saves) := by
  rw [State.videoDeliveryUnsaved]
  cases get Prod.fst key s.unsavedVideoDeliveries with
  | none => exact .refl sound
  | some found =>
    have cleared := @persistVideoJob_kept _ _ _ sound found.2 saves none nofun
    dsimp only
    split
    · exact cleared
    · exact cleared.trans ⟨{ cleared.sound with }, suffix_rfl⟩

theorem restart_kept : s.Kept config retrieves s.restart := by
  refine ⟨⟨sound.deeds, nodup_nil, forall_mem_nil _, ?_, ?_, sound.rows, forall_mem_nil _, forall_mem_nil _⟩, suffix_rfl⟩
  · intro job here
    obtain ⟨row, listed, restored⟩ := mem_filterMap.mp (mem_of_mem_ofList here)
    obtain ⟨stored, kept, rfl⟩ := map_eq_some_iff.mp restored
    have proper := (sound.rows row (mem_of_mem_filter listed)).job stored kept
    exact ⟨proper.priced, fun _ same => some.inj same ▸ proper.bound⟩
  · intro state here
    obtain ⟨row, listed, hydrated⟩ := mem_filterMap.mp here
    obtain ⟨requestId, -, rfl⟩ := map_eq_some_iff.mp hydrated
    exact (sound.rows row (mem_of_mem_filter listed)).opened

theorem trackRequestBillingContext_kept :
    s.Kept config retrieves
      (s.trackRequestBillingContext config requestId sellerPeerId facts unitModel cost) := by
  rw [State.trackRequestBillingContext]
  generalize (if facts ≠ .other ∧ unitModel.isSome then cost else 0) = estimatedCost
  split
  · exact .refl sound
  next affordable =>
    split
    next some =>
      have priced := @note_kept _ _ _ sound (.priced requestId _) ⟨some, not_lt.mp affordable⟩
      refine priced.trans (trackRequestBilling_kept priced.sound ?_ rfl)
      exact fun cost same => ⟨requestId, Option.some.inj same ▸ List.mem_cons_self⟩
    · exact trackRequestBilling_kept sound nofun rfl

theorem estimateCostFromResponse_kept (retrieved : retrieves requestId = none) :
    s.Kept config retrieves (s.estimateCostFromResponse sellerPeerId requestId jobId usage saves) := by
  rw [State.estimateCostFromResponse]
  cases found : s.request requestId with
  | none => exact .refl sound
  | some billing =>
    dsimp only
    cases billing.entry.videoFacts with
    | none =>
      refine recordObservedUnitUsage_kept sound fun key here => ?_
      exact absurd (retrieved.symm.trans here) nofun
    | some =>
      dsimp only
      split
      · cases jobId with
        | some => exact trackVideoJob_kept sound (request_sound sound found).1.priced
        | none =>
          dsimp only
          cases s.getOneOffChannelForRequest sellerPeerId requestId with
          | some => exact retireOneOffChannel_kept sound
          | none => exact .refl sound
      · exact .refl sound

theorem expire_kept : s.Kept config retrieves (s.expire waiter) := by
  rw [State.expire]
  split
  next here =>
    refine ⟨{ sound with waiters := ?_, settled := ?_ }, suffix_rfl⟩
    · exact fun other there => sound.waiters other (mem_of_mem_filter there)
    · intro answer there given
      cases mem_cons.mp there with
      | inr before => exact sound.settled answer before given
      | inl new =>
        subst new
        obtain ⟨usage, seen⟩ := isSome_iff_exists.mp given
        obtain ⟨request, found, observed⟩ := bind_eq_some_iff.mp seen
        obtain ⟨listed, name⟩ := mem_of_get found
        obtain ⟨key, -, -, delivered⟩ := sound.waiters waiter here
        exact ⟨key, delivered request listed name (observed ▸ rfl)⟩
  · exact .refl sound

end Changes

/-! ## Paths -/

/-- A path keeps the state sound, and no deed is forgotten while it waits. -/
def careful (config : Config) (retrieves : String → Option VideoJobKey) : Contract State Wait Reply where
  invariant := State.Sound config retrieves
  lasts s s' := s.deeds <:+ s'.deeds
  allows s s' := s.deeds <:+ s'.deeds
  asks _ _ _ := True
  resumes _ _ _ := True

theorem careful_lawful :
    (careful config retrieves).Lawful where
  refl _ := suffix_rfl
  trans := List.IsSuffix.trans
  idle _ := suffix_rfl
  andThen := List.IsSuffix.trans
  within := id

section Paths

variable {config : Config} {retrieves : String → Option VideoJobKey} {known : State} {α : Type}
  {requestId channelId sellerPeerId : String}

theorem safe_change (kept : ∀ s : State, s.Sound config retrieves → known.deeds <:+ s.deeds →
      s.Kept config retrieves (change s)) :
    Safe (careful config retrieves) known (modify change : Op Unit) fun _ => True :=
  safe_modify careful_lawful trivial fun s holds lasts => ⟨(kept s holds lasts).sound, (kept s holds lasts).grown⟩

theorem safe_reply : Safe (careful config retrieves) known (wait label : Op Reply) fun _ => True :=
  (safe_wait careful_lawful fun _ _ _ _ _ => trivial).weaken fun _ _ => trivial

theorem awaited_safe (safe : Safe (careful config retrieves) known x result) :
    Safe (careful config retrieves) known (awaited x) result := by
  refine .bind safe fun a proper => Safe.bind safe_reply fun _ _ => ?_
  exact safe_pure proper

theorem sign_safe (proper : Proper config known.deeds (.signed message)) :
    Safe (careful config retrieves) known (sign message) fun _ => True := by
  refine .bind (safe_change fun s holds lasts => note_kept holds (proper.grown lasts)) fun _ _ => ?_
  exact .bind safe_reply fun _ _ => safe_pure trivial

variable {row : StoredChannel} {plan : OneOffChannelPlan} {s : State} {charge : Charge}
  {payload : NeedAuthPayload} {state : OneOffChannelState}

theorem commitAuthorization_safe (proper : row.Sound known.deeds) :
    Safe (careful config retrieves) known (commitAuthorization row) fun _ => True := by
  refine .bind safe_reply fun reply _ => safe_ite (fun _ => ?_) fun _ => safe_pure trivial
  refine .bind (safe_change fun s holds lasts => upsertChannel_kept holds (proper.grown lasts)) fun _ _ => ?_
  exact .bind safe_reply fun _ _ => safe_pure trivial

theorem signAndCommitSpendingAuth_safe {amount : Nat} (stored : row.Sound known.deeds)
    (proper : Proper config known.deeds (.signed (.spendingAuth row.sessionId amount))) :
    Safe (careful config retrieves) known (signAndCommitSpendingAuth row amount) fun _ => True := by
  refine .bind (sign_safe proper) fun signed _ => safe_ite (fun _ => ?_) fun _ => safe_pure trivial
  exact awaited_safe (commitAuthorization_safe ⟨stored.opened, stored.job⟩)

theorem signReserveBatch_safe {deadline : Int}
    (opening : .opening ⟨channelId, requestId, plan⟩ ∈ known.deeds)
    (fee : 0 < plan.requiredCumulativeAmount) :
    Safe (careful config retrieves) known
      (signReserveBatch channelId plan.requiredCumulativeAmount plan.requestCost deadline) fun _ => True := by
  refine .bind (sign_safe ⟨_, opening, rfl, .inl ⟨rfl, fee⟩⟩) fun signed _ => ?_
  exact safe_ite (fun _ => sign_safe ⟨_, opening, rfl, .inr rfl⟩) fun _ => safe_pure trivial

theorem keepOneOffChannel_safe (opened : Opened channelId plan.requestCost known.deeds) :
    Safe (careful config retrieves) known (keepOneOffChannel sellerPeerId requestId plan channelId) fun _ => True := by
  refine .bind (awaited_safe (commitAuthorization_safe ⟨opened, nofun⟩)) fun committed _ => ?_
  refine safe_ite (fun _ => ?_) fun _ => safe_pure trivial
  refine .bind (safe_change fun s holds lasts => ?_) fun _ _ => safe_pure trivial
  refine ⟨{ holds with channels := fun state here => ?_ }, suffix_rfl⟩
  cases mem_of_mem_set here with
  | inl same =>
    subst same
    exact opened.grown lasts
  | inr before => exact holds.channels state before

theorem openWithTerms_safe
    (proper : Proper config known.deeds (.opening ⟨channelId, requestId, plan⟩)) :
    Safe (careful config retrieves) known (openWithTerms sellerPeerId requestId plan channelId deadline)
      fun _ => True := by
  refine safe_modify_bind careful_lawful (fun s holds lasts => ?_) fun s _ => ?_
  · have kept := note_kept holds (proper.grown lasts)
    exact ⟨kept.sound, kept.grown⟩
  have noted : .opening ⟨channelId, requestId, plan⟩ ∈ (s.note (.opening ⟨channelId, requestId, plan⟩)).deeds :=
    mem_cons_self
  generalize s.note (.opening ⟨channelId, requestId, plan⟩) = known at noted
  have keep : ∀ batched : Bool, Safe (careful config retrieves) known
      (if batched then keepOneOffChannel sellerPeerId requestId plan channelId else pure none) fun _ => True :=
    fun _ => safe_ite (fun _ => keepOneOffChannel_safe ⟨_, noted, rfl, rfl⟩) fun _ => safe_pure trivial
  refine .bind (sign_safe ⟨_, noted, rfl, .inl rfl⟩) fun signed _ => safe_ite (fun above => ?_) fun _ => keep signed
  exact .bind (awaited_safe (signReserveBatch_safe noted above.2)) fun batched _ => keep batched

theorem openOneOffChannel_safe (computed : ∃ cap bps, .limits cap bps ∈ known.deeds ∧
      plan = computeOneOffChannelPlan plan.requestCost cap bps) :
    Safe (careful config retrieves) known (openOneOffChannel config sellerPeerId requestId plan) fun _ => True := by
  refine safe_get careful_lawful fun s holds lasts => ?_
  cases found : s.request requestId with
  | none => exact safe_pure trivial
  | some =>
    refine safe_ite (fun _ => safe_pure trivial) fun tracked => ?_
    refine safe_ite (fun _ => safe_pure trivial) fun _ => ?_
    cases s.getOneOffChannelForRequest sellerPeerId requestId with
    | some => exact safe_pure trivial
    | none =>
      refine .bind safe_reply fun reply _ => ?_
      cases reply with
      | terms =>
        obtain ⟨cap, bps, limits, same⟩ := computed
        refine openWithTerms_safe ⟨?_, cap, bps, lasts.subset limits, same⟩
        have price := not_not.mp fun other => tracked (.inr (.inr other))
        exact (request_sound holds found).1.priced _ price
      | done | failed | value | session => exact safe_pure trivial

theorem confirmOneOffChannel_safe :
    Safe (careful config retrieves) known (confirmOneOffChannel channelId) fun _ => True := by
  have confirm : ∀ known : State, Safe (careful config retrieves) known (modify fun s => { s with
      oneOffChannels := s.oneOffChannels.map fun state : OneOffChannelState =>
        if state.channelId = channelId then { state with confirmed := true } else state } : Op Unit) fun _ => True := by
    intro known
    refine safe_change fun s holds _ => changeChannels_kept holds fun state => ?_
    split <;> exact ⟨rfl, rfl⟩
  refine safe_get careful_lawful fun s holds lasts => ?_
  cases s.channel channelId with
  | none => exact safe_pure trivial
  | some =>
    refine safe_ite (fun _ => safe_pure trivial) fun _ => ?_
    cases found : s.row channelId with
    | none => exact confirm s
    | some =>
      have stored := (row_sound holds found).1
      refine .bind (safe_change fun s holds lasts => ?_) fun _ _ => Safe.bind safe_reply fun _ _ => confirm s
      have later := stored.grown lasts
      exact upsertChannel_kept holds ⟨later.opened, later.job⟩

theorem confirmOneOffChannelOnChain_safe :
    Safe (careful config retrieves) known (confirmOneOffChannelOnChain channelId onChainDeposit) fun _ => True := by
  refine safe_get careful_lawful fun s _ _ => ?_
  exact safe_ite (fun _ => awaited_safe confirmOneOffChannel_safe) fun _ => safe_pure trivial

theorem handleAuthAck_safe :
    Safe (careful config retrieves) known (handleAuthAck sellerPeerId channelId) fun _ => True := by
  refine safe_get careful_lawful fun s _ _ => ?_
  exact safe_ite (fun _ => awaited_safe confirmOneOffChannel_safe) fun _ => safe_pure trivial

theorem waitForOneOffChannel_safe :
    Safe (careful config retrieves) known (waitForOneOffChannel channelId price polls) fun _ => True := by
  induction polls generalizing known with
  | zero => exact safe_pure trivial
  | succ polls ih =>
    refine .bind safe_reply fun acked _ => ?_
    refine safe_ite (fun _ => safe_pure trivial) fun _ => ?_
    refine .bind safe_reply fun reading _ => ?_
    refine safe_get careful_lawful fun s _ _ => ?_
    cases reading with
    | session =>
      refine safe_ite (fun _ => safe_pure trivial) fun _ => ?_
      refine safe_ite (fun _ => ?_) fun _ => ?_
      · exact safe_ite (fun _ => awaited_safe confirmOneOffChannelOnChain_safe) fun _ => ih
      · refine safe_ite (fun _ => ?_) fun _ => ih
        exact safe_change fun s holds _ => retireOneOffChannel_kept holds
    | done | failed | value | terms => exact ih

theorem openOneOffChannelForRequest_safe :
    Safe (careful config retrieves) known (openOneOffChannelForRequest config sellerPeerId requestId plan polls)
      fun _ => True := by
  refine safe_get careful_lawful fun s _ _ => ?_
  generalize s.getOneOffChannelForRequest sellerPeerId requestId = existing
  refine safe_ite (fun _ => safe_pure trivial) fun _ => ?_
  cases s.videoRequestCost sellerPeerId requestId plan with
  | none => exact safe_pure trivial
  | some price =>
    refine safe_ite (fun _ => safe_pure trivial) fun _ => ?_
    refine .bind safe_reply fun firstSignCap _ => Safe.bind safe_reply fun thresholdBps _ => ?_
    cases firstSignCap.asValue with
    | none => exact safe_pure trivial
    | some cap =>
      cases thresholdBps.asValue with
      | none => exact safe_pure trivial
      | some bps =>
        refine safe_ite (fun _ => safe_pure trivial) fun checked => ?_
        simp only [not_or, not_lt, ne_eq, Decidable.not_not] at checked
        obtain ⟨someCap, someShare, share, same⟩ := checked
        refine safe_modify_bind careful_lawful (fun s holds _ => ?_) fun s _ => ?_
        · have kept := @note_kept _ _ _ holds (.limits cap bps)
            ⟨Nat.pos_of_ne_zero someCap, Nat.pos_of_ne_zero someShare, share⟩
          exact ⟨kept.sound, kept.grown⟩
        generalize noted : s.note (.limits cap bps) = known
        have limits : .limits cap bps ∈ known.deeds := noted ▸ mem_cons_self
        cases existing with
        | some => exact waitForOneOffChannel_safe
        | none =>
          have computed : plan = computeOneOffChannelPlan plan.requestCost cap bps := by
            simp [same, computeOneOffChannelPlan]
          have opens := @openOneOffChannel_safe config retrieves _ requestId sellerPeerId plan
            ⟨cap, bps, limits, computed⟩
          refine .bind (awaited_safe opens) fun opened _ => ?_
          cases opened with
          | none => exact safe_pure trivial
          | some => exact waitForOneOffChannel_safe

/-- What is observed for a channel's request, while it waits, is the delivery of the channel's job. -/
theorem waitForObservedUnitUsage_learns (holds : s.Sound config retrieves)
    (retrieved : key ∈ retrieves requestId) (bound : .bound key channelId ∈ s.deeds)
    (unobserved : (s.request requestId).bind (·.entry.observedUnitUsage) = none) :
    LearnsAt (careful config retrieves) s (waitForObservedUnitUsage requestId channelId) fun observed seen =>
      observed.isSome → ∃ key, Delivered key channelId seen.deeds := by
  refine learnsAt_get ?_
  rw [unobserved]
  dsimp only
  split
  · exact learnsAt_pure careful_lawful holds nofun
  · have waiting : (Waiter.mk s.tickets requestId channelId).Sound retrieves s.deeds s.requestBillingEntries := by
      refine ⟨key, retrieved, bound, fun request here same observed => ?_⟩
      have name : request.requestId = requestId := same
      have found : s.request requestId = some request := name ▸ get_of_mem holds.distinct here
      simp [found] at unobserved
      simp [unobserved] at observed
    have waits : State.Sound config retrieves
        { s with waiters := ⟨s.tickets, requestId, channelId⟩ :: s.waiters, tickets := s.tickets + 1 } :=
      { holds with waiters := forall_mem_cons.mpr ⟨waiting, holds.waiters⟩ }
    refine learnsAt_modify careful_lawful suffix_rfl ?_
    refine learnsAt_wait careful_lawful waits (fun _ _ => trivial) fun s reply holds lasts _ => learnsAt_get ?_
    refine learnsAt_pure careful_lawful holds fun given => ?_
    obtain ⟨usage, answered⟩ := isSome_iff_exists.mp given
    obtain ⟨answer, found, same⟩ := bind_eq_some_iff.mp answered
    have whose := find?_some found
    rw [decide_eq_true_eq] at whose
    have delivered := holds.settled answer (mem_of_find?_eq_some found) (same ▸ rfl)
    rw [whose] at delivered
    exact delivered

theorem Opened.price_bounds (opened : Opened channelId price s.deeds)
    (holds : s.Sound config retrieves) : 0 < price ∧ price ≤ config.maxVideoRequestUsdc := by
  obtain ⟨opening, done, -, rfl⟩ := opened
  obtain ⟨⟨requestId, priced⟩, -⟩ := holds.proper done
  exact holds.proper priced

theorem charge_bound (charged : s.charge state payload = some charge) :
    ∃ request, s.request charge.requestId = some request ∧
      request.oneOffChannelId = some payload.channelId ∧
      request.entry.observedUnitUsage = charge.observedUnitUsage := by
  obtain ⟨requestId, -, charged⟩ := bind_eq_some_iff.mp charged
  obtain ⟨report, -, charged⟩ := bind_eq_some_iff.mp charged
  obtain ⟨request, found, charged⟩ := bind_eq_some_iff.mp charged
  obtain ⟨pricing, -, charged⟩ := bind_eq_some_iff.mp charged
  split at charged
  next agreed =>
    cases charged
    exact ⟨request, found, agreed.2.2.2, rfl⟩
  · cases charged

theorem signCharge_safe
    (opened : Opened channelId state.price known.deeds) (stored : channel.Sound known.deeds)
    (same : channel.sessionId = channelId) (positive : 0 < state.price)
    (delivered : observed.isSome → ∃ key, Delivered key channelId known.deeds) :
    Safe (careful config retrieves) known (signCharge state channel channelId charge observed) fun _ => True := by
  refine safe_ite (fun worth => ?_) fun _ => safe_pure trivial
  have given : observed.isSome := by
    cases observed with
    | some => rfl
    | none => exact absurd (of_decide_eq_true worth) positive.ne'
  obtain ⟨opening, done, whose, price⟩ := opened
  refine .bind (awaited_safe (signAndCommitSpendingAuth_safe stored ⟨opening, done, ?_⟩)) fun signed _ => ?_
  · exact ⟨whose.trans same.symm, .inr ⟨congrArg _ price.symm, same ▸ delivered given⟩⟩
  · refine safe_ite (fun _ => ?_) fun _ => safe_pure trivial
    refine safe_change fun s holds _ => ?_
    have paid : s.Kept config retrieves { s with
        oneOffChannels := s.oneOffChannels.map fun other : OneOffChannelState =>
          if other.channelId = channelId then { other with cumulative := state.price } else other } := by
      refine changeChannels_kept holds fun other => ?_
      split <;> exact ⟨rfl, rfl⟩
    have cleared := paid.trans (@clearRequestBilling_kept _ _ _ paid.sound charge.requestId)
    exact cleared.trans (retireOneOffChannel_kept cleared.sound)

theorem handleOneOffNeedAuth_safe :
    Safe (careful config retrieves) known (handleOneOffNeedAuth sellerPeerId payload) fun _ => True := by
  refine safe_get_at careful_lawful fun s holds _ => ?_
  cases channelFound : s.channel payload.channelId with
  | none => exact (safe_pure trivial).at careful_lawful holds
  | some state =>
    cases rowFound : s.row payload.channelId with
    | none => exact (safe_pure trivial).at careful_lawful holds
    | some channel =>
      refine safeAt_ite (fun _ => (safe_pure trivial).at careful_lawful holds) fun _ => ?_
      cases charged : s.charge state payload with
      | none => exact (safe_pure trivial).at careful_lawful holds
      | some charge =>
        obtain ⟨request, found, pays, observed⟩ := charge_bound charged
        obtain ⟨tracked, name⟩ := request_sound holds found
        obtain ⟨key, retrieved, bound, delivered⟩ := tracked.bound _ pays
        rw [name] at retrieved
        have opened := channel_opened holds channelFound
        obtain ⟨stored, same⟩ := row_sound holds rowFound
        have positive := (opened.price_bounds holds).1
        have sign : ∀ observed (seen : State), s.deeds <:+ seen.deeds →
            (observed.isSome → ∃ key, Delivered key payload.channelId seen.deeds) →
              Safe (careful config retrieves) seen
                (signCharge state channel payload.channelId charge observed) fun _ => True :=
          fun _ seen lasts => signCharge_safe (opened.grown lasts) (stored.grown lasts) same positive
        dsimp only
        cases seen : charge.observedUnitUsage with
        | some usage =>
          have already := delivered (by rw [observed, seen]; rfl)
          exact (sign (some usage) s suffix_rfl fun _ => ⟨key, already⟩).at careful_lawful holds
        | none =>
          have unobserved : (s.request charge.requestId).bind (·.entry.observedUnitUsage) = none := by
            rw [found, bind_some, observed, seen]
          have learns := waitForObservedUnitUsage_learns holds retrieved bound unobserved
          refine LearnsAt.bind careful_lawful (learns.andThen fun observed seen _ proper => ?_) sign
          exact .bind safe_reply fun _ _ => safe_pure proper

end Paths

/-! ## Runs -/

section Runs

variable {config : Config} {retrieves : String → Option VideoJobKey} {process : Process}

abbrev Process.Sound (config : Config) (retrieves : String → Option VideoJobKey) (process : Process) : Prop :=
  Pool.Sound (fun _ : Unit => careful config retrieves) (State.Sound config retrieves) process

theorem careful_shared : Shared (fun _ : Unit => careful config retrieves) (State.Sound config retrieves)
    (fun s s' => s.deeds <:+ s'.deeds) :=
  ⟨fun _ => careful_lawful, fun _ => rfl, fun _ => rfl⟩

theorem Process.Sound.act (sound : process.Sound config retrieves)
    (kept : process.state.Kept config retrieves (change process.state)) :
    (process.act change).Sound config retrieves :=
  Pool.Sound.write careful_shared sound kept.sound kept.grown

theorem Process.Sound.path (sound : process.Sound config retrieves) {path : Op Unit}
    (safe : ∀ s, Safe (careful config retrieves) s path fun _ => True) :
    Pool.Sound (fun _ : Unit => careful config retrieves) (State.Sound config retrieves) (process.advance () path) := by
  have runs : Runs (fun _ : Unit => careful config retrieves) () path process.state process.state :=
    (Safe.here careful_lawful (safe process.state) sound.holds suffix_rfl).mono
      fun _ _ _ done => ⟨done.1, done.2.1⟩
  exact (sound.advance careful_shared runs).1

theorem step_sound (event : Event) (sound : process.Sound config retrieves) :
    (process.step config retrieves event).Sound config retrieves := by
  cases event with
  | trackRequestBillingContext requestId =>
    rw [step]
    cases retrieves requestId with
    | some => exact sound
    | none => exact sound.act (trackRequestBillingContext_kept sound.holds)
  | openOneOffChannelForRequest =>
    rw [step]
    exact sound.path fun _ => openOneOffChannelForRequest_safe
  | handleNeedAuth =>
    rw [step]
    exact sound.path fun _ => handleOneOffNeedAuth_safe
  | handleAuthAck =>
    rw [step]
    exact sound.path fun _ => handleAuthAck_safe
  | estimateCostFromResponse sellerPeerId requestId =>
    rw [step]
    cases retrieved : retrieves requestId with
    | some => exact sound
    | none => exact sound.act (estimateCostFromResponse_kept sound.holds retrieved)
  | trackVideoRetrieve requestId =>
    rw [step]
    cases retrieved : retrieves requestId with
    | none => exact sound
    | some => exact sound.act (trackVideoRetrieve_kept sound.holds retrieved)
  | recordVideoDelivered requestId =>
    rw [step]
    cases retrieved : retrieves requestId with
    | none => exact sound
    | some => exact sound.act (recordVideoDelivered_kept sound.holds retrieved)
  | videoDeliveryUnsaved requestId =>
    rw [step]
    cases retrieves requestId with
    | none => exact sound
    | some => exact sound.act (videoDeliveryUnsaved_kept sound.holds)
  | forgetRequest =>
    rw [step]
    exact sound.act (clearRequestBilling_kept sound.holds)
  | forgetVideoJob =>
    rw [step]
    exact sound.act (forgetVideoJob_kept sound.holds)
  | expire =>
    rw [step]
    exact sound.act (expire_kept sound.holds)
  | resume n =>
    rw [step]
    cases found : process.tasks[n]? with
    | none =>
      rw [Pool.resume, found]
      exact sound
    | some => exact (sound.resume careful_shared found trivial).1
  | restart => exact ⟨(restart_kept sound.holds).sound, forall_mem_nil _⟩

theorem run_sound (events : List Event) :
    ((machine config retrieves).run ⟨{}, []⟩ events).Sound config retrieves := by
  have start : Sound config retrieves ⟨{}, []⟩ :=
    ⟨⟨trivial, nodup_nil, forall_mem_nil _, forall_mem_nil _, forall_mem_nil _, forall_mem_nil _, forall_mem_nil _,
      forall_mem_nil _⟩, forall_mem_nil _⟩
  refine (machine config retrieves).run_invariant (fun process event process' sound taken => ?_) start events
  cases taken
  exact step_sound event sound

end Runs

/-- A message for the channel stays within the price. It is for the fee of a price above the cap, or for the price;
    and for the price only once the channel's job is delivered. -/
def Opening.Permits (opening : Opening) (firstSignCap : Nat) (earlier : List Deed) : Signed → Prop
  | .reserveAuth channelId maxAmount _ => opening.channelId = channelId ∧ maxAmount ≤ opening.plan.requestCost
  | .spendingAuth channelId cumulativeAmount =>
    opening.channelId = channelId ∧ cumulativeAmount ≤ opening.plan.requestCost ∧
      (cumulativeAmount = opening.plan.requiredCumulativeAmount ∧ firstSignCap < opening.plan.requestCost ∨
        cumulativeAmount = opening.plan.requestCost) ∧
      (cumulativeAmount = opening.plan.requestCost → ∃ key, Delivered key channelId earlier)

theorem Justified.permits {opening : Opening} {earlier : List Deed} {message : Signed} {cap bps : Nat}
    (justified : Justified earlier opening message) (someCap : 0 < cap) (someShare : 0 < bps) (share : bps ≤ 10000)
    (computed : opening.plan = computeOneOffChannelPlan opening.plan.requestCost cap bps) :
    opening.Permits cap earlier message := by
  have least := @opening_eq_min opening.plan.requestCost cap bps
  have needed := @required_pos_iff opening.plan.requestCost cap bps someCap someShare
  have fee := @required_le_opening opening.plan.requestCost cap bps share
  rw [← computed] at least needed fee
  have first : opening.plan.openingReserveAmount ≤ opening.plan.requestCost := least.trans_le (min_le_left _ _)
  cases message with
  | reserveAuth =>
    obtain ⟨same, opened | whole⟩ := justified
    · exact ⟨same, opened.trans_le (Int.ofNat_le.mpr first)⟩
    · exact ⟨same, whole.le⟩
  | spendingAuth =>
    obtain ⟨same, ⟨started, positive⟩ | ⟨whole, delivered⟩⟩ := justified
    · have above := needed.mp positive
      have below : opening.plan.requiredCumulativeAmount < opening.plan.requestCost :=
        fee.trans_lt ((least.trans_le (min_le_right _ _)).trans_lt above)
      refine ⟨same, ?_, .inl ⟨started, above⟩, fun price => ?_⟩
      · rw [started]
        exact Int.ofNat_le.mpr below.le
      · exact absurd (started.symm.trans price) (Int.ofNat_lt.mpr below).ne
    · exact ⟨same, whole.le, .inr whole, fun _ => delivered⟩

def video : VideoJobKey := videoJobKey "" "runs" "job"

end AntSeed.Buyer.OneOff
