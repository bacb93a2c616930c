import AntSeed.FreeUsage.Records

/-! # Every run of AntseedFreeUsage

Messages may be replayed and reordered in any way. Over a whole run the counters
of a channel and of its agent only grow, a channel is counted once, and a closed
channel stays as it was closed.
-/

namespace AntSeed.FreeUsage

open Evm Function
open State
open Nat List

variable {r : Deployment} {s s' t : State} {call : Call}

/-- No counter is smaller than before, and closed channels are as they were. -/
structure State.Grows (s s' : State) : Prop where
  latestSequence : ∀ id, (s.channel id).latestSequence ≤ (s'.channel id).latestSequence
  channelCount : ∀ agent, (s.freeUsage.agentStats agent).channelCount ≤
    (s'.freeUsage.agentStats agent).channelCount
  stats : AntseedStats.Grows s.stats s'.stats
  closed : ∀ id, (s.channel id).status = .closed → s'.channel id = s.channel id

theorem State.Grows.refl (s : State) : s.Grows s :=
  ⟨fun _ => le_refl _, fun _ => le_refl _, .refl _, fun _ _ => rfl⟩

theorem State.Grows.trans (first : s.Grows t) (second : t.Grows s') : s.Grows s' where
  latestSequence id := le_trans (first.latestSequence id) (second.latestSequence id)
  channelCount agent := le_trans (first.channelCount agent) (second.channelCount agent)
  stats := first.stats.trans second.stats
  closed id shut := by
    have same := first.closed id shut
    rw [second.closed id (same ▸ shut), same]

/-- A channel nobody opened is empty. -/
def State.Unopened (s : State) : Prop := ∀ id, (s.channel id).status = .none → s.channel id = {}

variable {after : Channel} {id : Word} {sig : Signature}

theorem State.grows_channel (channels : s'.freeUsage.channels = update s.freeUsage.channels id after)
    (counts : ∀ agent, (s.freeUsage.agentStats agent).channelCount ≤
      (s'.freeUsage.agentStats agent).channelCount) (stats : AntseedStats.Grows s.stats s'.stats)
    (longer : (s.channel id).latestSequence ≤ after.latestSequence)
    (open_ : (s.channel id).status ≠ .closed) : s.Grows s' where
  latestSequence x := by
    unfold channel
    rw [channels]
    exact AntseedStats.le_update Channel.latestSequence longer x
  channelCount := counts
  stats := stats
  closed x shut := by
    have other : x ≠ id := fun same => open_ (same ▸ shut)
    unfold channel
    rw [channels, update_of_ne other]

theorem State.Records.grows {sequence : Nat} (h : s.Records s' ext id sequence used)
    (longer : (s.channel id).latestSequence ≤ used.latestSequence)
    (open_ : (s.channel id).status ≠ .closed) : s.Grows s' := by
  refine grows_channel h.channels (fun agent => ?_) h.stats longer open_
  rw [h.counts]
  exact le_add_right _ _

theorem step_grows (unopened : s.Unopened) (taken : step r s call = .ok s') : s.Grows s' := by
  have effect := step_effect taken
  obtain ⟨sender, ext, op⟩ := call
  cases op with
  | open_ =>
    obtain ⟨none, channels, -, counts, -, stats⟩ := effect
    refine grows_channel channels (fun agent => ?_) stats ?_ ?_
    · rw [counts]
    · rw [unopened _ none]
    · rw [none]
      nofun
  | record =>
    obtain ⟨active, later, records, -⟩ := effect
    exact records.grows (le_of_lt later) (by rw [active]; nofun)
  | close =>
    obtain ⟨active, later, records, -⟩ := effect
    exact records.grows later (by rw [active]; nofun)
  | set | recordMetadata | setWriter | sign | elapse =>
    obtain ⟨channels, -, counts, -, stats⟩ := effect
    have same : ∀ id, s'.channel id = s.channel id := fun id => congrFun channels id
    exact ⟨fun id => by rw [same], fun agent => by rw [counts], stats, fun id _ => same id⟩

/-- The channel and the agent it is counted for, if an accepted call counts one. -/
def counted (s : State) (call : Call) : List (Word × Word) :=
  match call.op with
  | .record id sequence _ _ _ | .close id sequence _ _ _ =>
    ((s.countedFor call.ext id sequence).map fun agent => (id, agent)).toList
  | _ => []

noncomputable def State.openChannels (s : State) (seller : Address) : Finset Word :=
  {id | (s.channel id).status = .active ∧ (s.channel id).seller = seller}

/-- What holds after any run, if it has counted these channels for these agents. -/
structure Kept (tallied : List (Word × Word)) (s : State) : Prop where
  started : 0 < s.now
  unopened : s.Unopened
  active : ∀ seller, s.freeUsage.activeChannelCount seller = (s.openChannels seller).card
  counts : ∀ agent, (s.freeUsage.agentStats agent).channelCount =
    tallied.countP fun entry => entry.2 = agent
  once : (tallied.map Prod.fst).Nodup
  used : ∀ entry ∈ tallied, (s.channel entry.1).updatedAt ≠ 0

theorem kept_deployed {now : Nat} (started : 0 < now) (owner statsOwner : Address) :
    Kept [] (deployed now owner statsOwner) where
  started := started
  unopened _ _ := rfl
  active seller := by simp [deployed, openChannels, channel]
  counts _ := rfl
  once := nodup_nil
  used := nofun

theorem State.card_openChannels
    (channels : s'.freeUsage.channels = update s.freeUsage.channels id after) (seller : Address) :
    (s'.openChannels seller).card +
        (if (s.channel id).status = .active ∧ (s.channel id).seller = seller then 1 else 0) =
      (s.openChannels seller).card +
        if after.status = .active ∧ after.seller = seller then 1 else 0 := by
  unfold openChannels channel
  rw [channels]
  exact card_update_add (fun c : Channel => c.status = .active ∧ c.seller = seller)
    s.freeUsage.channels after (Finset.mem_univ id)

section Steps

variable {tallied : List (Word × Word)}

theorem Kept.opened {id : Word} {after : Channel} {sender : Address} (kept : Kept tallied s)
    (none : (s.channel id).status = .none) (isActive : after.status = .active)
    (isSeller : after.seller = sender)
    (channels : s'.freeUsage.channels = update s.freeUsage.channels id after)
    (active : s'.freeUsage.activeChannelCount = update s.freeUsage.activeChannelCount sender
      (s.freeUsage.activeChannelCount sender + 1))
    (stats : s'.freeUsage.agentStats = s.freeUsage.agentStats) (now : s'.now = s.now) :
    Kept tallied s' where
  started := now ▸ kept.started
  unopened x unused := by
    unfold channel at unused ⊢
    rw [channels] at unused ⊢
    by_cases here : x = id
    · subst here
      rw [update_self, isActive] at unused
      cases unused
    · rw [update_of_ne here] at unused ⊢
      exact kept.unopened x unused
  active seller := by
    have moved := card_openChannels channels seller
    have before := kept.active seller
    rw [active]
    by_cases own : seller = sender
    · subst own
      simp only [none, isActive, isSeller, reduceCtorEq, false_and, if_false, true_and, if_true] at moved
      rw [update_self]
      omega
    · simp only [none, isSeller, reduceCtorEq, false_and, if_false, Ne.symm own, and_false] at moved
      rw [update_of_ne own]
      omega
  counts agent := by rw [stats, kept.counts]
  once := kept.once
  used entry member := by
    have other : entry.1 ≠ id := by
      intro same
      refine kept.used entry member ?_
      rw [same, kept.unopened id none]
    unfold channel
    rw [channels, update_of_ne other]
    exact kept.used entry member

theorem Kept.recorded {ext : External} {id : Word} {sequence : Nat} {used : Channel}
    (kept : Kept tallied s) (records : s.Records s' ext id sequence used)
    (isUsed : used.updatedAt = s.now) (opened : used.status ≠ .none)
    (active : ∀ seller, s'.freeUsage.activeChannelCount seller = (s'.openChannels seller).card) :
    Kept (tallied ++ ((s.countedFor ext id sequence).map fun agent => (id, agent)).toList) s' where
  started := records.now ▸ kept.started
  unopened x unused := by
    unfold channel at unused ⊢
    rw [records.channels] at unused ⊢
    by_cases here : x = id
    · subst here
      rw [update_self] at unused
      exact absurd unused opened
    · rw [update_of_ne here] at unused ⊢
      exact kept.unopened x unused
  active := active
  counts agent := by
    rw [records.counts, kept.counts, countP_append]
    congr 1
    cases isAgent : s.countedFor ext id sequence with
    | none => rfl
    | some => simp [countP_cons]
  once := by
    cases isAgent : s.countedFor ext id sequence with
    | none => simpa using kept.once
    | some =>
      have unused : (s.channel id).updatedAt = 0 := by
        unfold countedFor at isAgent
        split at isAgent
        next first => exact first.2.1
        · cases isAgent
      have fresh : id ∉ tallied.map Prod.fst := by
        intro member
        obtain ⟨entry, isEntry, isId⟩ := mem_map.mp member
        exact kept.used entry isEntry (isId ▸ unused)
      simp only [Option.map_some, Option.toList_some, map_append, map_cons, map_nil]
      exact nodup_append.mpr ⟨kept.once, nodup_singleton _, fun a inside b same => by
        rw [mem_singleton.mp same]
        exact fun equal => fresh (equal ▸ inside)⟩
  used entry member := by
    unfold channel
    rw [records.channels]
    by_cases here : entry.1 = id
    · rw [here, update_self, isUsed]
      exact ne_of_gt kept.started
    · rw [update_of_ne here]
      rcases mem_append.mp member with before | now
      · exact kept.used entry before
      · obtain ⟨agent, -, isEntry⟩ : ∃ agent, s.countedFor ext id sequence = some agent ∧
            (id, agent) = entry := by
          simpa using now
        exact absurd (congrArg Prod.fst isEntry).symm here

theorem step_kept (kept : Kept tallied s) (taken : step r s call = .ok s') :
    Kept (tallied ++ counted s call) s' := by
  have effect := step_effect taken
  obtain ⟨sender, ext, op⟩ := call
  cases op with
  | open_ =>
    obtain ⟨none, channels, active, counts, now, -⟩ := effect
    rw [counted, append_nil]
    exact kept.opened none rfl rfl channels active counts now
  | record id sequence metadata =>
    obtain ⟨isActive, -, records, active, -⟩ := effect
    have opened : (s.usedChannel id sequence (r.keccak256 metadata)).status ≠ .none := by
      rw [usedChannel, isActive]
      nofun
    refine kept.recorded records rfl opened fun seller => ?_
    have moved := card_openChannels records.channels seller
    rw [active, kept.active]
    exact (add_right_cancel moved).symm
  | close id =>
    obtain ⟨isActive, -, records, active, -⟩ := effect
    refine kept.recorded records rfl nofun fun seller => ?_
    have moved := card_openChannels records.channels seller
    have before := kept.active seller
    rw [active]
    by_cases own : seller = (s.channel id).seller
    · subst own
      simp only [isActive, true_and, if_true, reduceCtorEq, false_and, if_false] at moved
      rw [update_self]
      omega
    · simp only [isActive, true_and, reduceCtorEq, false_and, if_false, Ne.symm own] at moved
      rw [update_of_ne own]
      omega
  | set | recordMetadata | setWriter | sign | elapse =>
    obtain ⟨channels, active, counts, later, -⟩ := effect
    have same : ∀ id, s'.channel id = s.channel id := fun id => congrFun channels id
    rw [counted, append_nil]
    refine ⟨lt_of_lt_of_le kept.started later, fun id none => ?_, fun seller => ?_,
      fun agent => ?_, kept.once, fun entry member => ?_⟩
    · rw [same] at none ⊢
      exact kept.unopened id none
    · unfold openChannels
      simp only [same]
      rw [active]
      exact kept.active seller
    · rw [counts, kept.counts]
    · rw [same]
      exact kept.used entry member

end Steps

theorem run_kept (r : Deployment) {now : Nat} (started : 0 < now) (owner statsOwner : Address)
    (calls : List Call) :
    Kept ((machine r).log counted (deployed now owner statsOwner) calls)
      ((machine r).run (deployed now owner statsOwner) calls) :=
  (machine r).run_invariant_log (fun _ _ _ _ => step_kept) (kept_deployed started owner statsOwner) calls

/-- The signature an operation brings forward as a record. -/
def Call.records (sig : Signature) (call : Call) : Bool :=
  match call.op with
  | .record _ _ _ _ buyerSig => buyerSig = sig
  | _ => false

def Call.closes (id : Word) (call : Call) : Bool :=
  match call.op with
  | .close channelId _ _ _ _ => channelId = id
  | _ => false

def Call.channelId (r : Deployment) (call : Call) : Option Word :=
  match call.op with
  | .open_ buyer salt _ _ => some (r.computeChannelId buyer call.sender salt)
  | .record channelId _ _ _ _ | .close channelId _ _ _ _ => some channelId
  | _ => none

/-- The channel has moved on to the sequence of a signed record, or past it. -/
def Spent (sig : Signature) (s : State) : Prop :=
  match sig.message with
  | .freeUsageAuth id sequence _ _ => sequence ≤ (s.channel id).latestSequence
  | .freeUsageOpen _ _ => False

theorem Spent.stays (grows : s.Grows s') (spent : Spent sig s) : Spent sig s' := by
  unfold Spent at spent ⊢
  split at spent
  next id _ _ _ _ => exact le_trans spent (grows.latestSequence id)
  · exact spent

theorem step_unopened (unopened : s.Unopened) (taken : step r s call = .ok s') : s'.Unopened := by
  have effect := step_effect taken
  have touched : ∀ id after, s'.freeUsage.channels = update s.freeUsage.channels id after →
      after.status ≠ .none → s'.Unopened := by
    intro id after channels opened x none
    unfold channel at none ⊢
    rw [channels] at none ⊢
    by_cases here : x = id
    · subst here
      rw [update_self] at none
      exact absurd none opened
    · rw [update_of_ne here] at none ⊢
      exact unopened x none
  obtain ⟨sender, ext, op⟩ := call
  cases op with
  | open_ => exact touched _ _ effect.2.1 nofun
  | record =>
    obtain ⟨active, -, records, -⟩ := effect
    exact touched _ _ records.channels (by rw [usedChannel, active]; nofun)
  | close =>
    obtain ⟨-, -, records, -⟩ := effect
    exact touched _ _ records.channels nofun
  | set | recordMetadata | setWriter | sign | elapse =>
    intro id none
    have same : s'.channel id = s.channel id := congrFun effect.1 id
    rw [same] at none ⊢
    exact unopened id none

theorem step_spends (records : call.records sig = true) (taken : step r s call = .ok s') :
    ¬ Spent sig s ∧ Spent sig s' := by
  have effect := step_effect taken
  obtain ⟨sender, ext, op⟩ := call
  cases op with
  | record id sequence metadata deadline buyerSig =>
    obtain ⟨-, later, recorded, -, -, isSig⟩ := effect
    have same : buyerSig = sig := by simpa [Call.records] using records
    rw [← same, isSig]
    refine ⟨Nat.not_le_of_lt later, ?_⟩
    change sequence ≤ (s'.freeUsage.channels id).latestSequence
    rw [recorded.channels, update_self]
    exact le_refl _
  | open_ | close | set | recordMetadata | setWriter | sign | elapse => cases records

theorem step_open (about : call.channelId r = some id) (taken : step r s call = .ok s') :
    (s.channel id).status ≠ .closed := by
  have effect := step_effect taken
  obtain ⟨sender, ext, op⟩ := call
  cases op with
  | open_ buyer salt =>
    have isId : r.computeChannelId buyer sender salt = id := Option.some.inj about
    have none := effect.1
    rw [← isId, none]
    nofun
  | record channelId =>
    have isId : channelId = id := Option.some.inj about
    have active := effect.1
    rw [← isId, active]
    nofun
  | close channelId =>
    have isId : channelId = id := Option.some.inj about
    have active := effect.1
    rw [← isId, active]
    nofun
  | set | recordMetadata | setWriter | sign | elapse => cases about

theorem step_closes (closes : call.closes id = true) (taken : step r s call = .ok s') :
    (s'.channel id).status = .closed := by
  have effect := step_effect taken
  obtain ⟨sender, ext, op⟩ := call
  cases op with
  | close channelId =>
    obtain ⟨-, -, records, -⟩ := effect
    have isId : channelId = id := by simpa [Call.closes] using closes
    unfold channel
    rw [records.channels, isId, update_self]
  | open_ | record | set | recordMetadata | setWriter | sign | elapse => cases closes

theorem closes_channelId (closes : call.closes id = true) : call.channelId r = some id := by
  obtain ⟨sender, ext, op⟩ := call
  cases op with
  | close channelId =>
    have isId : channelId = id := by simpa [Call.closes] using closes
    exact congrArg some isId
  | open_ | record | set | recordMetadata | setWriter | sign | elapse => cases closes

section Accepted

variable (unopened : s.Unopened) (calls : List Call)

include unopened

theorem records_once (sig : Signature) :
    ((machine r).accepted s calls).countP (Call.records sig) ≤ 1 := by
  have grows : ∀ (s : State) (call : Call) (s' : State), s.Unopened →
      step r s call = .ok s' → s.Grows s' := fun _ _ _ => step_grows
  exact (machine r).accepted_once (Spent sig) (Q := fun _ => True) (fun _ _ _ _ => step_unopened)
    (fun s call s' _ records spent taken => (step_spends records taken).1 spent)
    (fun s call s' _ unopened spent taken => spent.stays (grows s call s' unopened taken))
    (fun s call s' _ records taken => (step_spends records taken).2) unopened fun _ _ => trivial

theorem closes_once (id : Word) : ((machine r).accepted s calls).countP (Call.closes id) ≤ 1 := by
  refine (machine r).accepted_once (fun s => (s.channel id).status = .closed) (Q := fun _ => True)
    (fun _ _ _ _ => step_unopened)
    (fun s call s' _ closes shut taken => step_open (closes_channelId closes) taken shut)
    (fun s call s' _ unopened shut taken => ?_)
    (fun s call s' _ closes taken => step_closes closes taken) unopened fun _ _ => trivial
  rw [(step_grows unopened taken).closed id shut]
  exact shut

theorem closed_accepts_none {id : Word} (shut : (s.channel id).status = .closed) :
    ((machine r).accepted s calls).countP (fun call => call.channelId r = some id) = 0 := by
  refine (machine r).accepted_none (fun s => (s.channel id).status = .closed) (Q := fun _ => True)
    (fun _ _ _ _ => step_unopened)
    (fun s call s' _ about shut taken => step_open (of_decide_eq_true about) taken shut)
    (fun s call s' _ unopened shut taken => ?_) unopened shut fun _ _ => trivial
  rw [(step_grows unopened taken).closed id shut]
  exact shut

theorem run_grows : s.Grows ((machine r).run s calls) :=
  (machine r).run_progress (R := State.Grows) .refl State.Grows.trans (fun _ _ _ => step_unopened)
    (fun _ _ _ => step_grows) unopened calls

end Accepted

/-- In every run that starts after time zero: an accepted record raises the sequence of
    its channel and an accepted close does not lower it, each to the sequence that was signed by the
    channel's buyer; no signed record is accepted twice by `record`, and a channel is closed once; no
    counter ever decreases; a closed channel accepts nothing and stays as it is; every channel is
    counted at most once, for one agent; and the active counts are those of the open channels. -/
theorem free_usage_not_replayed (r : Deployment) (now : Nat) (started : 0 < now)
    (owner statsOwner : Address) (calls : List Call) :
    let start := deployed now owner statsOwner
    let s := (machine r).run start calls
    (∀ sender ext id sequence metadata deadline buyerSig s',
      step r s ⟨sender, ext, .record id sequence metadata deadline buyerSig⟩ = .ok s' →
      (s.channel id).latestSequence < sequence ∧ (s'.channel id).latestSequence = sequence ∧
        ⟨(s.channel id).buyer, .freeUsageAuth id sequence (r.keccak256 metadata) deadline⟩ ∈ s.signed) ∧
    (∀ sender ext id sequence metadata deadline buyerSig s',
      step r s ⟨sender, ext, .close id sequence metadata deadline buyerSig⟩ = .ok s' →
      (s.channel id).latestSequence ≤ sequence ∧ (s'.channel id).latestSequence = sequence ∧
        (s'.channel id).status = .closed ∧
        ⟨(s.channel id).buyer, .freeUsageAuth id sequence (r.keccak256 metadata) deadline⟩ ∈ s.signed) ∧
    (∀ sig, ((machine r).accepted start calls).countP (Call.records sig) ≤ 1) ∧
    (∀ id, ((machine r).accepted start calls).countP (Call.closes id) ≤ 1) ∧
    (∀ later, s.Grows ((machine r).run s later)) ∧
    (∀ id, (s.channel id).status = .closed → ∀ later,
      ((machine r).accepted s later).countP (fun call => call.channelId r = some id) = 0 ∧
        ((machine r).run s later).channel id = s.channel id) ∧
    (((machine r).log counted start calls).map Prod.fst).Nodup ∧
    (∀ agent, (s.freeUsage.agentStats agent).channelCount =
      ((machine r).log counted start calls).countP fun entry => entry.2 = agent) ∧
    ∀ seller, s.freeUsage.activeChannelCount seller = (s.openChannels seller).card := by
  intro start s
  have kept := run_kept r started owner statsOwner calls
  have fresh : start.Unopened := (kept_deployed started owner statsOwner).unopened
  refine ⟨?_, ?_, records_once fresh calls, closes_once fresh calls,
    fun later => run_grows kept.unopened later, fun id shut later => ⟨?_, ?_⟩, kept.once,
    kept.counts, kept.active⟩
  · intro sender ext id sequence metadata deadline buyerSig s' taken
    obtain ⟨-, later, records, -, member, isSig⟩ := step_effect taken
    refine ⟨later, ?_, isSig ▸ member⟩
    unfold channel
    rw [records.channels, update_self]
    rfl
  · intro sender ext id sequence metadata deadline buyerSig s' taken
    obtain ⟨-, later, records, -, member, isSig⟩ := step_effect taken
    refine ⟨later, ?_, ?_, isSig ▸ member⟩
    · unfold channel
      rw [records.channels, update_self]
      rfl
    · unfold channel
      rw [records.channels, update_self]
  · exact closed_accepts_none kept.unopened later shut
  · exact (run_grows kept.unopened later).closed id shut

/-- A deployment in which every channel between two accounts has one name. -/
def sampleDeployment : Deployment := ⟨⟨100⟩, fun _ => ⟨1⟩, fun buyer _ _ => ⟨buyer.word.setWidth 256⟩⟩

/-- The record the buyer of `recordThenClose` signs. -/
def sampleRecord : Signature := ⟨⟨5⟩, .freeUsageAuth ⟨5⟩ 1 ⟨1⟩ 1000⟩

/-- A channel is opened, used once and closed with the record of that use. -/
def recordThenClose : List Call :=
  let ext : External := ⟨true, ⟨7⟩, false⟩
  [⟨⟨5⟩, ext, .sign (.freeUsageOpen ⟨5⟩ 1000)⟩, ⟨⟨5⟩, ext, .sign sampleRecord.message⟩,
    ⟨⟨6⟩, ext, .open_ ⟨5⟩ 0 1000 ⟨⟨5⟩, .freeUsageOpen ⟨5⟩ 1000⟩⟩,
    ⟨⟨6⟩, ext, .record ⟨5⟩ 1 [] 1000 sampleRecord⟩, ⟨⟨6⟩, ext, .record ⟨5⟩ 1 [] 1000 sampleRecord⟩,
    ⟨⟨6⟩, ext, .close ⟨5⟩ 1 [] 1000 sampleRecord⟩, ⟨⟨6⟩, ext, .close ⟨5⟩ 1 [] 1000 sampleRecord⟩]

/-- The record is accepted once by `record` however often it is sent, and counts the channel once. -/
theorem recordThenClose_counted : let start := deployed 1 ⟨9⟩ ⟨9⟩
    let s := (machine sampleDeployment).run start recordThenClose
    ((machine sampleDeployment).accepted start recordThenClose).countP (Call.records sampleRecord) = 1 ∧
      (s.freeUsage.agentStats ⟨7⟩).channelCount = 1 ∧ (s.channel ⟨5⟩).status = .closed ∧
      ∀ later, ((machine sampleDeployment).run s later).channel ⟨5⟩ = s.channel ⟨5⟩ := by
  obtain ⟨-, -, records, -, -, closed, -, -, -⟩ :=
    free_usage_not_replayed sampleDeployment 1 (by decide) ⟨9⟩ ⟨9⟩ recordThenClose
  have shut : (((machine sampleDeployment).run (deployed 1 ⟨9⟩ ⟨9⟩) recordThenClose).channel
      ⟨5⟩).status = .closed := by decide +kernel
  have some : 0 < ((machine sampleDeployment).accepted (deployed 1 ⟨9⟩ ⟨9⟩) recordThenClose).countP
      (Call.records sampleRecord) := by decide +kernel
  exact ⟨le_antisymm (records sampleRecord) some, by decide +kernel, shut,
    fun later => (closed ⟨5⟩ shut later).2⟩

/-- The same signed record is accepted twice: by `record`, and again by the `close` after it. -/
theorem recordThenClose_acceptedTwice :
    ((machine sampleDeployment).accepted (deployed 1 ⟨9⟩ ⟨9⟩) recordThenClose).countP
      (fun call => match call.op with
        | .record _ _ _ _ buyerSig | .close _ _ _ _ buyerSig => buyerSig = sampleRecord
        | _ => false) = 2 := by
  decide +kernel

end AntSeed.FreeUsage
