import AntSeed.FreeUsage.Flushes

/-! # Acknowledged usage reaches the chain

What holds of the sessions of one buyer over whole runs, and a run in which a buyer leaves while an older
record is on its way to the chain.
-/

namespace AntSeed.FreeUsage

open Evm

def acknowledgements (id : Nat) (deeds : List Deed) : List Nat :=
  deeds.filterMap fun
    | .acknowledged session sequence => if session = id then some sequence else none
    | .accepted _ _ _ => none
    | .needed _ _ => none

def highestAcknowledged (id : Nat) (deeds : List Deed) : Nat := (acknowledgements id deeds).foldr max 0

/-- Nothing of the session is on its way, nor waits for a timer. -/
def SellerFreeUsageSession.over (session : SellerFreeUsageSession) : Bool :=
  session.flushPromise.isNone ∧ session.flushTimer.isNone

/-- The sequence on the chain is the last that was accepted on the session, and that is the highest that was
    acknowledged. -/
def ManagerState.Recorded (s : ManagerState) (id : Nat) (session : SellerFreeUsageSession) : Prop :=
  (s.chain.channel session.channelId).latestSequence = session.acceptedSequence
    ∧ highestAcknowledged id s.deeds = session.acceptedSequence

/-- Every session that a disconnect has brought to its end, or that is closed on the chain, is recorded. -/
def ManagerState.AllRecorded (s : ManagerState) : Prop :=
  ∀ (id : Nat) (session : SellerFreeUsageSession), s.sessions[id]? = some session →
    session.openPromise = .opened → session.closeRequested = true →
    (session.over = true ∨ (s.chain.channel session.channelId).status = .closed) → s.Recorded id session

section Runs

variable {m : SellerFreeUsageManager} {s : ManagerState} {chain : State} {events : List Event}

theorem highestAcknowledged_eq {id sequence : Nat} {deeds : List Deed}
    (below : ∀ other, .acknowledged id other ∈ deeds → other ≤ sequence)
    (known : sequence = 0 ∨ .acknowledged id sequence ∈ deeds) : highestAcknowledged id deeds = sequence := by
  have members : ∀ other, other ∈ acknowledgements id deeds ↔ .acknowledged id other ∈ deeds := by
    intro other
    simp only [acknowledgements, List.mem_filterMap]
    constructor
    · rintro ⟨deed, here, same⟩
      cases deed with
      | acknowledged =>
        simp only [Option.ite_none_right_eq_some, Option.some.injEq] at same
        obtain ⟨rfl, rfl⟩ := same
        exact here
      | accepted | needed => cases same
    · exact fun here => ⟨_, here, by simp⟩
  have upper : ∀ acks : List Nat, (∀ other ∈ acks, other ≤ sequence) → acks.foldr max 0 ≤ sequence := by
    intro acks all
    induction acks with
    | nil => exact Nat.zero_le _
    | cons first acks ih =>
      exact max_le (all first List.mem_cons_self) (ih fun other here => all other (List.mem_cons_of_mem _ here))
  have lower : ∀ acks : List Nat, sequence ∈ acks → sequence ≤ acks.foldr max 0 := by
    intro acks here
    induction acks with
    | nil => cases here
    | cons first acks ih =>
      rcases List.mem_cons.mp here with rfl | later
      · exact le_max_left _ _
      · exact (ih later).trans (le_max_right _ _)
  refine Nat.le_antisymm (upper _ fun other here => below other ((members other).mp here)) ?_
  rcases known with rfl | here
  · exact Nat.zero_le _
  · exact lower _ ((members sequence).mpr here)

theorem recorded_of_sound (accountable : Accountable s) (sound : s.Sound m) : s.AllRecorded := by
  intro id session found opened left ends
  obtain ⟨whole, scheduled⟩ := sound.sound id session found
  have nothing : session.pendingRecord = none := by
    rcases ends with ended | closed
    · simp only [SellerFreeUsageSession.over, Option.isNone_iff_eq_none, decide_eq_true_eq] at ended
      cases waits : session.pendingRecord with
      | none => rfl
      | some =>
        have set := scheduled left (by simp [waits]) ended.1
        simp [ended.2] at set
    · exact (whole.closed opened closed).2
  have faithful := accountable.faithful id session.account (by simp [ManagerState.accounts, found])
  exact ⟨whole.recorded opened nothing, highestAcknowledged_eq faithful.acknowledged (sound.acknowledged id session found)⟩

theorem accountable_start (chain : State) : Accountable { chain } where
  faithful _ _ found := by simp [ManagerState.accounts] at found
  made _ _ := ⟨rfl, rfl, nofun⟩
  increasing _ := .nil
  exact := nofun

theorem sound_start (m : SellerFreeUsageManager) (chain : State) : ManagerState.Sound m { chain } where
  sound _ _ found := by simp at found
  unique _ _ _ _ found := by simp at found
  standing _ here := by simp at here
  acknowledged _ _ found := by simp at found

end Runs

/-- Whatever the order of the events: accepted sequences rise, and what is accepted is what was measured up to
    its sequence. If besides every transaction succeeds and no accepted record is overtaken, what is on the
    chain when a session has come to its end is what was acknowledged last. -/
theorem acknowledged_usage_reaches_chain (m : SellerFreeUsageManager) (chain : State) (events : List Event) :
    let s := m.machine.run { chain } events
    (∀ id, (acceptances id s.deeds).Pairwise (· > ·))
    ∧ (∀ id sequence usage, .accepted id sequence usage ∈ s.deeds → MeasuredUpTo id s.deeds sequence usage)
    ∧ (m.machine.Along (fun s event => s.succeeds m event ∧ s.timely m event) { chain } events → s.AllRecorded) := by
  intro s
  have accountable : Accountable s := by
    refine m.machine.run_invariant (fun _ event _ holds step => ?_) (accountable_start chain) events
    cases step
    exact accountable_step holds event
  refine ⟨accountable.increasing, accountable.exact, fun along => ?_⟩
  have sound : s.Sound m := by
    refine m.machine.run_invariant_along (fun _ event _ meets holds step => ?_) (sound_start m chain) along
    cases step
    exact ManagerState.sound_step holds event meets.1 meets.2
  exact recorded_of_sound accountable sound

/-- `encodeFreeUsageMetadata` without services. -/
def plainMetadata (usage : ExpectedFreeUsage) : List UInt8 :=
  [1, usage.cumulativeInputTokens, usage.cumulativeOutputTokens, usage.cumulativeRequestCount, 160, 0].flatMap
    Abi.encodeUint

def firstUsage : ExpectedFreeUsage := ⟨10, 5, 1⟩
def secondUsage : ExpectedFreeUsage := ⟨17, 9, 2⟩

def firstHash : Word := ⟨0x38846a2afb079572c1f7f95bc638bb5ef4054b0a220c255276a1c4cf157ba5cf⟩
def secondHash : Word := ⟨0x552639a30262d6018a65e1331777fee5b8f13ecd33417e6e6128e17915b41dce⟩
def knownChannel : Word := ⟨0x942e40d8c16bbd893f6873273b79b89b542011a0976b7dcbbcbcaf6d6815aca6⟩

/-- The hashes as far as the run below needs them. -/
def knownManager : SellerFreeUsageManager where
  chain := {
    self := ⟨100⟩
    keccak256 := fun data =>
      if data = plainMetadata firstUsage then firstHash
      else if data = plainMetadata secondUsage then secondHash
      else 0
    computeChannelId := fun buyer seller salt => if (buyer, seller, salt) = (⟨5⟩, ⟨6⟩, 0) then knownChannel else 0 }
  buyer := ⟨5⟩
  seller := ⟨6⟩
  decode data := some (Abi.wordAt data 0, ⟨Abi.wordAt data 1, Abi.wordAt data 2, Abi.wordAt data 3⟩)

def openSigned : Signature := ⟨⟨5⟩, .freeUsageOpen knownChannel 2000⟩
def firstSigned : Signature := ⟨⟨5⟩, .freeUsageAuth knownChannel 1 firstHash 2000⟩
def secondSigned : Signature := ⟨⟨5⟩, .freeUsageAuth knownChannel 2 secondHash 2000⟩

def knownChain : State := { deployed 1000 ⟨9⟩ ⟨9⟩ with signed := [openSigned, firstSigned, secondSigned] }

def staked : Option External := some ⟨true, ⟨7⟩, false⟩

def knownOpen : FreeUsageOpenPayload :=
  ⟨Seller.Hex.ofWord knownChannel, Seller.Hex.ofWord 0, .integer 2000, some openSigned⟩

def firstAuth : FreeUsageAuthPayload :=
  ⟨Seller.Hex.ofWord knownChannel, .integer 10, .integer 5, .integer 1, Seller.Hex.ofWord firstHash,
    .bytes (plainMetadata firstUsage), .integer 2000, some firstSigned⟩

def secondAuth : FreeUsageAuthPayload :=
  ⟨Seller.Hex.ofWord knownChannel, .integer 17, .integer 9, .integer 2, Seller.Hex.ofWord secondHash,
    .bytes (plainMetadata secondUsage), .integer 2000, some secondSigned⟩

def opensAndUses : List Event :=
  [.handleOpen knownOpen, .start 0 1000000 true, .admitted 0 (.ok none), .opened 0 staked, .answered 0 true,
    .reportUsageRequest ⟨none, some 10, some 5, none⟩ true, .handleAuth firstAuth, .start 1 1000000 true]

def usesAgain : List Event :=
  [.reportUsageRequest ⟨none, some 7, some 4, none⟩ true, .handleAuth secondAuth, .start 2 1000000 true]

/-- The timer sends the first record; before it has arrived, a second one is acknowledged and the buyer leaves. -/
def leavesTooSoon : List Event :=
  opensAndUses ++ [.timer 0, .flushStarts 0] ++ usesAgain ++ [.onPeerDisconnect, .submitted 0 staked,
    .submitted 0 staked, .flushEnds 0 1000000, .left 0]

/-- The buyer leaves when nothing is on its way. -/
def leavesInTime : List Event :=
  opensAndUses ++ usesAgain ++ [.onPeerDisconnect, .flushStarts 0, .submitted 0 staked, .flushEnds 0 1000000, .left 0]

/-- Every transaction succeeds, and the channel is closed with the record before the last. -/
theorem last_usage_is_lost :
    knownManager.machine.Along (fun s event => s.succeeds knownManager event) { chain := knownChain } leavesTooSoon
    ∧ ¬ (knownManager.machine.run { chain := knownChain } leavesTooSoon).AllRecorded := by
  refine ⟨by decide +kernel, fun recorded => ?_⟩
  have lost : ((knownManager.machine.run { chain := knownChain } leavesTooSoon).sessions[0]?).any (fun session =>
      let channel := (knownManager.machine.run { chain := knownChain } leavesTooSoon).chain.channel session.channelId
      session.openPromise = .opened ∧ session.closeRequested ∧ channel.status = .closed
        ∧ channel.latestSequence ≠ session.acceptedSequence) = true := by decide +kernel
  obtain ⟨session, found, wrong⟩ := (Option.any_eq_true _ _).mp lost
  obtain ⟨opened, left, closed, older⟩ := of_decide_eq_true wrong
  exact older (recorded 0 session found opened left (.inr closed)).1

theorem leavesInTime_recorded : let s := knownManager.machine.run { chain := knownChain } leavesInTime
    (s.chain.channel knownChannel).latestSequence = 2 ∧ s.AllRecorded :=
  ⟨by decide +kernel, (acknowledged_usage_reaches_chain knownManager knownChain leavesInTime).2.2 (by decide +kernel)⟩

end AntSeed.FreeUsage
