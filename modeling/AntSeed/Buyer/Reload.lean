import AntSeed.Buyer.BuyerPaymentManager

/-! # What a reload brings back

A process that ends leaves the row of its channel and nothing else. The row has
to cover whatever went out: the SpendingAuths by its `authMax`, the ReserveAuths
that no read of the chain has confirmed by its pending reserve.

Every path stores a whole row it has read before its awaits. So a path that goes
on after another one moved the row puts the old fields back; and a ReserveAuth
for less takes the place of the one that is pending.
-/

namespace AntSeed.Buyer

open Async
open Account
open Option

def Frame.reserved : Frame → Option Int
  | .reserveAuth _ _ pending => some pending.maxAmount
  | .spendingAuth _ _ _ => none
  | .closeRequest _ _ => none

structure Account.Reloads (s : Account) : Prop where
  signed : ∀ frame ∈ s.sent, ∀ amount ∈ frame.signedAmount,
    ∃ channel ∈ s.restart.session, amount ≤ channel.authMax
  reserved : ∀ frame ∈ s.sent, ∀ amount ∈ frame.reserved, s.depositSeen < amount →
    ∃ channel ∈ s.restart.session, channel.reserveAuthPending = some true ∧
      (∃ maxAmount ∈ channel.reserveMaxAmount, amount ≤ maxAmount) ∧
      ∃ pending ∈ s.restart.pendingReserveAuth, amount ≤ pending.maxAmount

/-- A reload of the row brings back a pending ReserveAuth for at least an amount. -/
structure StoredChannel.Holds (channel : StoredChannel) (amount : Int) : Prop where
  pending : channel.reserveAuthPending = some true
  covers : ∃ maxAmount ∈ channel.reserveMaxAmount, amount ≤ maxAmount
  signature : channel.latestReserveAuthSig.isSome
  salt : channel.reserveSalt.isSome
  deadline : channel.latestReserveDeadline.isSome

namespace StoredChannel.Holds

variable {channel : StoredChannel} {amount : Int}

theorem of_le (holds : channel.Holds amount) (le : less ≤ amount) : channel.Holds less := by
  obtain ⟨maxAmount, stored, covers⟩ := holds.covers
  exact { holds with covers := ⟨maxAmount, stored, le.trans covers⟩ }

theorem restored (holds : channel.Holds amount) :
    ∃ pending ∈ storedReserveAuth channel, amount ≤ pending.maxAmount := by
  obtain ⟨maxAmount, stored, covers⟩ := holds.covers
  obtain ⟨signature, signed⟩ := isSome_iff_exists.mp holds.signature
  obtain ⟨salt, salted⟩ := isSome_iff_exists.mp holds.salt
  obtain ⟨deadline, dated⟩ := isSome_iff_exists.mp holds.deadline
  rw [mem_def] at stored
  refine ⟨⟨signature, salt, maxAmount, deadline, (confirmedReserve channel).getD 0⟩, ?_, covers⟩
  simp [storedReserveAuth, signed, salted, dated, stored, holds.pending]

theorem of_restored {pending : PendingReserveAuthorization}
    (restored : pending ∈ storedReserveAuth channel) : channel.Holds pending.maxAmount := by
  rw [mem_def, storedReserveAuth] at restored
  split at restored
  next signature salt maxAmount deadline signed salted stored dated =>
    split at restored
    next isPending =>
      cases restored
      exact ⟨isPending, ⟨maxAmount, stored, le_rfl⟩, by simp [signed], by simp [salted],
        by simp [dated]⟩
    · simp at restored
  · simp at restored

end StoredChannel.Holds

/-- What the paths compare and overwrite. -/
structure Core where
  session : Option StoredChannel
  cumulativeAmount : Option Int
  pendingReserveAuth : Option PendingReserveAuthorization
  currentReserveCeiling : Option Int
  deriving DecidableEq

def Account.core (s : Account) : Core :=
  ⟨s.session, s.cumulativeAmount, s.pendingReserveAuth, s.currentReserveCeiling⟩

namespace Core

/-- The row is not behind memory. -/
structure Backed (k : Core) (channel : StoredChannel) (c : Int) : Prop where
  session : k.session = some channel
  amount : k.cumulativeAmount = some c
  below : c ≤ channel.authMax
  holds : ∀ pending ∈ k.pendingReserveAuth, channel.Holds pending.maxAmount

/-- Memory covers what a message asks of it. -/
structure Covers (k : Core) (frame : Frame) : Prop where
  signed : ∀ amount ∈ frame.signedAmount, ∃ c ∈ k.cumulativeAmount, amount ≤ c
  reserved : ∀ amount ∈ frame.reserved, ∃ pending ∈ k.pendingReserveAuth, amount ≤ pending.maxAmount

/-- Memory and row move on, and nothing gets less. -/
structure Grows (k k' : Core) : Prop where
  backed : ∃ channel c, k'.Backed channel c
  amount : ∀ c ∈ k.cumulativeAmount, ∃ c' ∈ k'.cumulativeAmount, c ≤ c'
  pending : ∀ pending ∈ k.pendingReserveAuth,
    ∃ pending' ∈ k'.pendingReserveAuth, pending.maxAmount ≤ pending'.maxAmount

end Core

/-- The row is not behind memory, nor memory behind what was sent. -/
structure Account.Kept (s : Account) : Prop where
  backed : ∃ channel c, s.core.Backed channel c
  signed : ∀ frame ∈ s.sent, ∀ amount ∈ frame.signedAmount,
    ∃ c ∈ s.cumulativeAmount, amount ≤ c
  reserved : ∀ frame ∈ s.sent, ∀ amount ∈ frame.reserved, amount ≤ s.depositSeen ∨
    ∃ pending ∈ s.pendingReserveAuth, amount ≤ pending.maxAmount

namespace Account

variable {s : Account}

theorem Kept.reloads (kept : s.Kept) : s.Reloads := by
  obtain ⟨channel, c, backed⟩ := kept.backed
  have session : s.session = some channel := backed.session
  refine ⟨fun frame member amount named => ?_, fun frame member amount named unseen => ?_⟩
  · obtain ⟨c', tracked, le⟩ := kept.signed frame member amount named
    cases backed.amount.symm.trans tracked
    exact ⟨channel, session, le.trans backed.below⟩
  · rcases kept.reserved frame member amount named with seen | ⟨pending, waits, le⟩
    · exact absurd seen (not_le.mpr unseen)
    · have holds := (backed.holds pending waits).of_le le
      refine ⟨channel, session, holds.pending, holds.covers, ?_⟩
      show ∃ pending ∈ s.session.bind storedReserveAuth, _
      rw [session]
      exact holds.restored

theorem Kept.restart (kept : s.Kept) : s.restart.Kept := by
  obtain ⟨channel, c, backed⟩ := kept.backed
  have session : s.session = some channel := backed.session
  have amount : s.restart.cumulativeAmount = some channel.authMax := by
    simp [Account.restart, hydrate, session]
  refine ⟨⟨channel, channel.authMax, ⟨session, amount, le_rfl, ?_⟩⟩, ?_, ?_⟩
  · intro pending restored
    refine .of_restored ?_
    simpa [core, Account.restart, hydrate, session] using restored
  · intro frame member amount' named
    obtain ⟨channel', stored, le⟩ := kept.reloads.signed frame member amount' named
    cases session.symm.trans stored
    exact ⟨_, amount, le⟩
  · intro frame member amount' named
    rcases le_or_gt amount' s.depositSeen with seen | unseen
    · exact .inl seen
    · obtain ⟨_, _, _, _, pending⟩ := kept.reloads.reserved frame member amount' named unseen
      exact .inr pending

theorem Begins.kept (begins : s.Begins) : s.Kept := by
  cases begins with
  | opened channelId salt maxAmount =>
    refine ⟨⟨_, 0, ⟨rfl, rfl, le_rfl, ?_⟩⟩, ?_, ?_⟩
    · rintro _ ⟨⟩
      exact ⟨rfl, ⟨maxAmount, rfl, le_rfl⟩, rfl, rfl, rfl⟩
    · intro frame member amount named
      cases List.mem_singleton.mp member
      cases named
    · intro frame member amount named
      cases List.mem_singleton.mp member
      cases named
      exact .inr ⟨_, rfl, le_rfl⟩
  | loaded channel =>
    refine ⟨⟨channel, channel.authMax, ⟨rfl, rfl, le_rfl, fun _ => .of_restored⟩⟩, ?_, ?_⟩
    · exact fun _ member => (nomatch member)
    · exact fun _ member => (nomatch member)

/-- A top-up would not ask for less than is pending. -/
def covers (config : BuyerPaymentConfig) (s : Account) : Bool :=
  s.pendingReserveAuth.all (·.maxAmount ≤ s.ceiling config + config.maxReserveAmountUsdc)

end Account

/-- What a path keeps while nobody else moves the row or what goes with it. -/
def kept (config : BuyerPaymentConfig) : Contract Account Wait Reply where
  invariant := Account.Kept
  lasts s s' := s'.core = s.core
  allows _ _ := True
  asks _ _ _ := True
  resumes label _ s := label = .balance → s.covers config

theorem kept_follows (config : BuyerPaymentConfig) : (kept config).Follows core where
  asks _ _ _ := trivial
  lasts same := same
  idle _ := trivial
  andThen _ _ := trivial

/-- What a program returns when memory and row are `k`, with what it leaves of them. -/
abbrev Stores {α : Type} (config : BuyerPaymentConfig) (k : Core) (x : Op α) (result : Core → α → Prop) :
    Prop :=
  Tracks (kept config) core k x result

section Rules

variable {α β : Type} {config : BuyerPaymentConfig} {k k' : Core} {result : Core → β → Prop}

theorem Stores.known {x : Op β} (stores : ∀ channel c, k.Backed channel c → Stores config k x result) :
    Stores config k x result := by
  intro since s holds allowed same
  obtain ⟨channel, c, backed⟩ := holds.backed
  rw [same] at backed
  exact stores channel c backed since s holds allowed same

theorem Stores.get {f : Account → Op β}
    (rest : ∀ s channel c, s.core = k → k.Backed channel c → Stores config k (f s) result) :
    Stores config k (get >>= f) result :=
  .known fun channel c backed => tracks_get fun s _ same => rest s channel c same backed

theorem Stores.wait (rest : ∀ reply, Stores config k (f reply) result) :
    Stores config k (wait label >>= f) result :=
  tracks_wait_bind (kept_follows config) fun reply _ _ _ _ => rest reply

theorem Stores.awaited {x : Op β} (stores : Stores config k x result) :
    Stores config k (awaited x) result :=
  Tracks.bind stores fun _ _ proper => Stores.wait fun _ => tracks_pure proper

variable {change : Account → Account}

theorem Stores.write (grows : k.Grows k')
    (covers : ∀ frame ∈ frames, k'.Covers frame) (core : ∀ s, s.core = k → (change s).core = k')
    (sent : ∀ s, (change s).sent = frames ++ s.sent)
    (deposit : ∀ s, (change s).depositSeen = s.depositSeen) :
    Stores config k (modify change : Op Unit) fun left _ => left = k' := by
  refine tracks_modify (kept_follows config) fun s holds same => ?_
  have moved := core s same
  subst same
  have amount : (change s).cumulativeAmount = k'.cumulativeAmount := congrArg Core.cumulativeAmount moved
  have pending : (change s).pendingReserveAuth = k'.pendingReserveAuth :=
    congrArg Core.pendingReserveAuth moved
  refine ⟨⟨by rw [moved]; exact grows.backed, ?_, ?_⟩, trivial, moved⟩
  · rw [sent, amount]
    intro frame member a named
    rcases List.mem_append.mp member with new | old
    · exact (covers frame new).signed a named
    · obtain ⟨c, tracked, le⟩ := holds.signed frame old a named
      obtain ⟨c', tracked', grown⟩ := grows.amount c tracked
      exact ⟨c', tracked', le.trans grown⟩
  · rw [sent, deposit, pending]
    intro frame member a named
    rcases List.mem_append.mp member with new | old
    · exact .inr ((covers frame new).reserved a named)
    · rcases holds.reserved frame old a named with seen | ⟨waiting, waits, le⟩
      · exact .inl seen
      · obtain ⟨waiting', waits', grown⟩ := grows.pending waiting waits
        exact .inr ⟨waiting', waits', le.trans grown⟩

theorem Stores.send (covers : k.Covers frame) :
    Stores config k (send frame) fun left _ => left = k := by
  refine .known fun channel c backed => ?_
  refine @Stores.write _ _ _ _ [frame] ⟨⟨channel, c, backed⟩, ?_, ?_⟩ ?_ (fun _ same => same)
    (fun _ => rfl) fun _ => rfl
  · exact fun c tracked => ⟨c, tracked, le_rfl⟩
  · exact fun pending waits => ⟨pending, waits, le_rfl⟩
  · intro other member
    cases List.mem_singleton.mp member
    exact covers

theorem Stores.note (core : ∀ s, (change s).core = s.core) (sent : ∀ s, (change s).sent = s.sent)
    (deposit : ∀ s, (change s).depositSeen = s.depositSeen) :
    Stores config k (modify change : Op Unit) fun left _ => left = k := by
  refine .known fun channel c backed => ?_
  refine @Stores.write _ _ _ _ [] ⟨⟨channel, c, backed⟩, ?_, ?_⟩ (fun _ member => (nomatch member))
    (fun s same => (core s).trans same) sent deposit
  · exact fun c tracked => ⟨c, tracked, le_rfl⟩
  · exact fun pending waits => ⟨pending, waits, le_rfl⟩

end Rules

section Paths

variable {config : BuyerPaymentConfig} {k : Core}

variable {amount c : Int} {channel : StoredChannel} {s : Account} {sig : Signed}
  {channelId : String} {stats : ResponseStats} {payload : NeedAuthPayload}

theorem session_of (same : s.core = k) (backed : k.Backed channel c) : s.session = some channel := by
  rw [← backed.session, ← same, core]

theorem amount_of (same : s.core = k) (backed : k.Backed channel c) : s.cumulativeAmount = some c := by
  rw [← backed.amount, ← same, core]

theorem commitAuthorization_stores (backed : Core.Backed { k with session := some channel } channel c) :
    Stores config k (commitAuthorization channel) fun left committed =>
      left = if committed then { k with session := some channel } else k := by
  refine .wait fun reply => tracks_ite (fun _ => ?_) fun _ => tracks_pure (by simp)
  have stored : Stores config k (modify fun s => { s with session := some channel } : Op Unit)
      fun left _ => left = { k with session := some channel } := by
    refine @Stores.write _ _ _ _ [] ⟨⟨channel, c, backed⟩, ?_, ?_⟩
      (fun _ member => (nomatch member)) ?_ (fun _ => rfl) fun _ => rfl
    · exact fun c tracked => ⟨c, tracked, le_rfl⟩
    · exact fun pending waits => ⟨pending, waits, le_rfl⟩
    · rintro s rfl
      rfl
  refine .bind stored fun left _ same => Stores.wait fun _ => tracks_pure ?_
  simpa using same

theorem sign_stores {message : Signed} {α : Type} {f : Option Signed → Op α}
    {result : Core → α → Prop} (refused : Stores config k (f none) result)
    (signed : Stores config k (f (some message)) result) :
    Stores config k (sign message >>= f) result := by
  refine .wait fun reply => ?_
  cases reply with
  | done => exact signed
  | failed | insufficient => exact refused

section

variable (backed : k.Backed channel c) (higher : c ≤ amount)

include backed higher

theorem Core.Backed.withSpendingAuth :
    Core.Backed { k with session := some (channel.withSpendingAuth amount sig) }
      (channel.withSpendingAuth amount sig) c :=
  ⟨rfl, backed.amount, higher, fun pending waits =>
    have holds := backed.holds pending waits
    ⟨holds.pending, holds.covers, holds.signature, holds.salt, holds.deadline⟩⟩

theorem Stores.raise {change : Account → Account}
    (core : ∀ s, (change s).core = { s.core with cumulativeAmount := some amount })
    (sent : ∀ s, (change s).sent = s.sent) (deposit : ∀ s, (change s).depositSeen = s.depositSeen) :
    Stores config { k with session := some (channel.withSpendingAuth amount sig) }
      (modify change : Op Unit) fun left _ => left.cumulativeAmount = some amount := by
  have stored : Core.Backed { k with session := some (channel.withSpendingAuth amount sig) }
      (channel.withSpendingAuth amount sig) c := backed.withSpendingAuth higher
  let left : Core :=
    { k with session := some (channel.withSpendingAuth amount sig), cumulativeAmount := some amount }
  have moved : Stores config { k with session := some (channel.withSpendingAuth amount sig) }
      (modify change : Op Unit) fun k' _ => k' = left := by
    refine @Stores.write _ _ _ _ [] ⟨⟨_, amount, rfl, rfl, le_rfl, stored.holds⟩, ?_, ?_⟩
      (fun _ member => (nomatch member)) ?_ sent deposit
    · intro before tracked
      cases backed.amount.symm.trans tracked
      exact ⟨amount, rfl, higher⟩
    · exact fun pending waits => ⟨pending, waits, le_rfl⟩
    · intro s same
      rw [core, same]
  refine moved.weaken ?_
  rintro _ _ rfl
  rfl

theorem commitUpdatedSpendingAuth_stores :
    Stores config k (commitUpdatedSpendingAuth channel amount) fun left signed =>
      signed.isSome → left.cumulativeAmount = some amount := by
  have committing : Stores config k (signAndCommitSpendingAuth channel amount) fun left signed =>
      ∀ sig ∈ signed, left = { k with session := some (channel.withSpendingAuth amount sig) } := by
    refine sign_stores (tracks_pure nofun) ?_
    refine .bind (commitAuthorization_stores (backed.withSpendingAuth higher)) ?_
    rintro _ committed rfl
    refine tracks_pure ?_
    cases committed with
    | false => exact nofun
    | true =>
      rintro _ ⟨⟩
      rfl
  refine .bind committing.awaited fun left signed stored => ?_
  cases signed with
  | none => exact tracks_pure nofun
  | some sig =>
    cases stored sig rfl
    refine .bind (Stores.raise backed higher (fun _ => rfl) (fun _ => rfl) fun _ => rfl) ?_
    exact fun left _ moved => tracks_pure fun _ => moved

end

theorem commitAndSendReserveAuth_stores {pending : PendingReserveAuthorization}
    {initialReserveAmount : Option Int} (backed : k.Backed channel c)
    (higher : ∀ before ∈ k.pendingReserveAuth, before.maxAmount ≤ pending.maxAmount) :
    Stores config k (commitAndSendReserveAuth channel pending amount initialReserveAmount) anything := by
  let row := channel.withReserveAuth pending initialReserveAmount
  have holds : row.Holds pending.maxAmount :=
    ⟨rfl, ⟨pending.maxAmount, rfl, le_rfl⟩, rfl, rfl, rfl⟩
  have stored : Core.Backed { k with session := some row } row c :=
    ⟨rfl, backed.amount, backed.below, fun before waits => holds.of_le (higher before waits)⟩
  refine .bind (commitAuthorization_stores stored) ?_
  rintro _ committed rfl
  refine tracks_ite (fun done => ?_) fun _ => tracks_pure trivial
  rw [if_pos done]
  let sent : Core :=
    ⟨some row, k.cumulativeAmount, some pending, some pending.maxAmount⟩
  have final : sent.Backed row c := by
    refine ⟨rfl, backed.amount, backed.below, ?_⟩
    rintro _ ⟨⟩
    exact holds
  refine .weaken (@Stores.write _ _ sent _ [.reserveAuth channel.sessionId amount pending]
    ⟨⟨row, c, final⟩, ?_, ?_⟩ ?_ ?_ (fun _ => rfl) fun _ => rfl) fun _ _ _ => trivial
  · exact fun c tracked => ⟨c, tracked, le_rfl⟩
  · exact fun before waits => ⟨pending, rfl, higher before waits⟩
  · intro frame member
    cases List.mem_singleton.mp member
    refine ⟨nofun, ?_⟩
    rintro _ ⟨⟩
    exact ⟨pending, rfl, le_rfl⟩
  · rintro s same
    have core := congrArg Core.cumulativeAmount same
    have session := congrArg Core.session same
    simp only [Account.core] at core session
    simp [Account.core, sent, row, core, session]

theorem topUpReserve_stores : Stores config k (topUpReserve config) anything := by
  refine .get fun s channel c same backed => ?_
  simp only [session_of same backed]
  refine tracks_wait_bind (kept_follows config) fun balance s' _ ready same' => ?_
  refine tracks_ite (fun _ => tracks_pure trivial) fun _ => sign_stores ?_ ?_
  · exact tracks_get fun _ _ _ => tracks_pure trivial
  · refine tracks_get fun _ _ _ => (commitAndSendReserveAuth_stores backed ?_).awaited
    have ceiling : s'.ceiling config = s.ceiling config := by
      have both := congrArg Core.currentReserveCeiling (same'.trans same.symm)
      simp only [core] at both
      rw [ceiling, both, ceiling]
    intro before waits
    rw [← same'] at waits
    have covered := (all_eq_true _ _).mp (ready rfl) before waits
    rw [ceiling] at covered
    simpa using covered

theorem topUpIf_stores {needed : Bool} :
    Stores config k (if needed then awaited (topUpReserve config) else pure ()) anything :=
  tracks_ite (fun _ => topUpReserve_stores.awaited) fun _ => tracks_pure trivial

theorem resendPendingReserveAuth_stores : Stores config k (resendPendingReserveAuth config) anything := by
  refine .get fun s channel c same backed => ?_
  have pending : s.pendingReserveAuth = k.pendingReserveAuth := congrArg Core.pendingReserveAuth same
  simp only [session_of same backed]
  cases waits : s.pendingReserveAuth with
  | none => exact tracks_pure trivial
  | some existing =>
    rw [pending] at waits
    have higher : ∀ before ∈ k.pendingReserveAuth, before.maxAmount ≤ existing.maxAmount := by
      intro before member
      rw [waits] at member
      cases member
      exact le_rfl
    refine tracks_ite (fun _ => ?_) fun _ => (commitAndSendReserveAuth_stores backed higher).awaited
    refine sign_stores (tracks_pure trivial) (commitAndSendReserveAuth_stores backed ?_).awaited
    exact higher

theorem resendReserveAuth_runs (holds : s.Kept)
    (ready : s.pendingReserveAuth.all (·.maxAmount ≤ s.replayAmount config)) :
    Runs (fun _ : Unit => kept config) () (resendReserveAuth config) s s := by
  obtain ⟨channel, c, backed⟩ := holds.backed
  have session : s.session = some channel := backed.session
  rw [Runs, resendReserveAuth, keeps_bind, keeps_get]
  simp only [session]
  refine Tracks.runs (kept_follows config) rfl (?_ : Stores config s.core _ anything) holds
  cases s.reserveSalt with
  | none => exact tracks_pure trivial
  | some =>
    refine sign_stores (tracks_pure trivial) (commitAndSendReserveAuth_stores backed ?_).awaited
    intro before waits
    simpa using (all_eq_true _ _).mp ready before waits

theorem reconcileReserveAmount_stores {onChainAmount : Int} :
    Stores config k (reconcileReserveAmount onChainAmount) anything := by
  refine .get fun s channel c same backed => ?_
  simp only [session_of same backed]
  let adopted : Core :=
    { k with
      pendingReserveAuth := k.pendingReserveAuth.filter (onChainAmount < ·.maxAmount)
      currentReserveCeiling := some onChainAmount }
  have backed' : adopted.Backed channel c :=
    ⟨backed.session, backed.amount, backed.below, fun pending waits =>
      backed.holds pending (mem_filter_iff.mp waits).1⟩
  have adopts : Stores config k (modify (·.adoptDeposit onChainAmount) : Op Unit)
      fun left _ => left = adopted := by
    refine tracks_modify (kept_follows config) fun s holds same => ?_
    have moved : (s.adoptDeposit onChainAmount).core = adopted := by
      simp [← same, adopted, core, adoptDeposit]
    refine ⟨⟨moved ▸ ⟨channel, c, backed'⟩, holds.signed, ?_⟩, trivial, moved⟩
    intro frame member amount named
    rcases holds.reserved frame member amount named with seen | ⟨pending, waits, le⟩
    · exact .inl (seen.trans (le_max_left _ _))
    · rcases le_or_gt pending.maxAmount onChainAmount with reached | waiting
      · exact .inl (le.trans (reached.trans (le_max_right _ _)))
      · refine .inr ⟨pending, ?_, le⟩
        simpa [adoptDeposit, waiting] using waits
  refine .bind adopts ?_
  rintro _ _ rfl
  refine .bind (commitAuthorization_stores (c := c) ⟨rfl, backed'.amount, backed'.below, ?_⟩)
    fun _ _ _ => tracks_pure trivial
  intro pending waits
  obtain ⟨member, waiting⟩ := mem_filter_iff.mp waits
  have holds := backed.holds pending member
  refine ⟨?_, holds.covers, holds.signature, holds.salt, holds.deadline⟩
  have same' : s.pendingReserveAuth = some pending := by
    rw [← mem_def.mp member, ← same, core]
  simp [same', waiting]

theorem Core.Backed.withLatestSig (backed : k.Backed channel c) :
    Core.Backed { k with session := some { channel with latestSpendingAuthSig := sig } }
      { channel with latestSpendingAuthSig := sig } c :=
  ⟨rfl, backed.amount, backed.below, fun pending waits =>
    have holds := backed.holds pending waits
    ⟨holds.pending, holds.covers, holds.signature, holds.salt, holds.deadline⟩⟩

theorem covers_amount (tracked : k.cumulativeAmount = some amount) :
    k.Covers (.spendingAuth channelId amount sig) := by
  refine ⟨?_, nofun⟩
  rintro _ ⟨⟩
  exact ⟨amount, tracked, le_rfl⟩

theorem resendCurrentSpendingAuth_stores : Stores config k resendCurrentSpendingAuth anything := by
  refine .get fun s channel c same backed => ?_
  simp only [session_of same backed, amount_of same backed, getD_some]
  refine sign_stores (tracks_pure trivial) ?_
  refine .bind (commitAuthorization_stores backed.withLatestSig) ?_
  rintro _ committed rfl
  refine tracks_ite (fun done => ?_) fun _ => tracks_pure trivial
  rw [if_pos done]
  exact .weaken (Stores.send (covers_amount backed.amount)) fun _ _ _ => trivial

theorem buildCloseChannelRequest_stores {includeAuth : Bool} :
    Stores config k (buildCloseChannelRequest includeAuth none) fun left payload =>
      ∀ channelId auth, payload = some (channelId, auth) → left.Covers (.closeRequest channelId auth) := by
  refine .get fun s channel c same backed => ?_
  simp only [session_of same backed, amount_of same backed, getD_some, map_none,
    getD_none, lt_irrefl, if_false]
  refine tracks_ite (fun _ => tracks_pure ?_) fun _ => sign_stores (tracks_pure nofun) ?_
  · rintro _ _ ⟨⟩
    exact ⟨nofun, nofun⟩
  · refine .bind (commitAuthorization_stores backed.withLatestSig) ?_
    rintro _ committed rfl
    refine tracks_pure ?_
    cases committed with
    | false => exact nofun
    | true =>
      rintro _ _ ⟨⟩
      refine ⟨?_, nofun⟩
      rintro _ ⟨⟩
      exact ⟨c, backed.amount, le_rfl⟩

theorem sendCloseChannelRequest_stores {includeAuth : Bool} :
    Stores config k (sendCloseChannelRequest includeAuth none) anything := by
  refine .bind buildCloseChannelRequest_stores.awaited fun left payload covers => ?_
  cases payload with
  | none => exact tracks_pure trivial
  | some payload =>
    obtain ⟨channelId, auth⟩ := payload
    exact .weaken (Stores.send (covers channelId auth rfl)) fun _ _ _ => trivial

theorem sendCommitted_stores
    (tracked : k.cumulativeAmount = some amount) (core : ∀ s, (record s).core = s.core)
    (sent : ∀ s, (record s).sent = s.sent) (deposit : ∀ s, (record s).depositSeen = s.depositSeen)
    (ends : Stores config k last anything) :
    Stores config k (do
      modify record
      send (.spendingAuth channelId amount sig)
      last) anything := by
  refine .bind (Stores.note core sent deposit) ?_
  rintro _ _ rfl
  refine .bind (Stores.send (covers_amount tracked)) ?_
  rintro _ _ rfl
  exact ends

theorem extendCurrentSpendingAuth_stores {minBudgetPerRequest : Int} {targetCumulative : Option Int}
    {inFlightRequests : Nat} :
    Stores config k
      (extendCurrentSpendingAuth config minBudgetPerRequest targetCumulative inFlightRequests)
      anything := by
  refine .get fun s channel c same backed => ?_
  simp only [session_of same backed, amount_of same backed, getD_some]
  refine tracks_ite (fun _ => topUpIf_stores) fun higher => ?_
  refine .bind (commitUpdatedSpendingAuth_stores backed (not_le.mp higher).le).awaited ?_
  intro left signed moved
  cases signed with
  | none => exact tracks_pure trivial
  | some =>
    exact sendCommitted_stores (moved rfl) (fun _ => rfl) (fun _ => rfl) (fun _ => rfl) topUpIf_stores

theorem signPerRequestAuth_stores :
    Stores config k (signPerRequestAuth config stats) fun left result =>
      ∀ payload topUpNeeded, result = some (payload, topUpNeeded) → left.Covers payload := by
  refine .get fun s channel c same backed => ?_
  simp only [session_of same backed, amount_of same backed, getD_some]
  refine sign_stores (tracks_pure nofun) ?_
  refine .bind (commitAuthorization_stores (backed.withSpendingAuth (le_max_left _ _))) ?_
  rintro _ committed rfl
  refine tracks_ite (fun done => ?_) fun _ => tracks_pure nofun
  rw [if_pos done]
  refine .bind (Stores.raise backed (le_max_left _ _) (fun _ => rfl) (fun _ => rfl)
    fun _ => rfl) fun left _ moved => ?_
  refine tracks_get fun _ _ _ => tracks_pure ?_
  rintro _ _ ⟨⟩
  exact covers_amount moved

theorem sendPerRequestAuth_stores : Stores config k (sendPerRequestAuth config stats) anything := by
  refine .bind signPerRequestAuth_stores.awaited fun left result covers => ?_
  cases result with
  | none => exact tracks_pure trivial
  | some result =>
    obtain ⟨payload, topUpNeeded⟩ := result
    refine .bind (Stores.send (covers payload topUpNeeded rfl)) ?_
    rintro _ _ rfl
    exact topUpIf_stores

theorem accept_stores {claim : Claim} : Stores config k (claim.accept config) fun left _ => left = k :=
  tracks_ite (fun _ => Stores.wait fun _ => tracks_pure rfl) fun _ => tracks_pure rfl

theorem answerNeedAuth_stores {c acceptedCost : Int} (backed : k.Backed channel c) :
    Stores config k (answerNeedAuth config payload channel c acceptedCost) anything := by
  refine tracks_get fun s _ _ => ?_
  cases s.answer config payload.requiredCumulativeAmount c acceptedCost with
  | none => exact tracks_pure trivial
  | some =>
    refine tracks_ite (fun _ => topUpIf_stores) fun higher => ?_
    refine .bind (commitUpdatedSpendingAuth_stores backed (not_le.mp higher).le).awaited ?_
    intro left signed moved
    cases signed with
    | none => exact tracks_pure trivial
    | some =>
      refine sendCommitted_stores (moved rfl) (fun _ => rfl) (fun _ => rfl) (fun _ => rfl) ?_
      refine tracks_get fun s _ _ => tracks_ite (fun _ => ?_) fun _ => tracks_pure trivial
      exact topUpReserve_stores.awaited

theorem handleNeedAuth_stores : Stores config k (handleNeedAuth config payload) anything := by
  refine .get fun s channel c same backed => ?_
  simp only [session_of same backed, amount_of same backed, getD_some]
  refine tracks_ite (fun _ => tracks_pure trivial) fun _ => ?_
  refine .bind accept_stores ?_
  rintro _ accepted rfl
  cases accepted with
  | none => exact tracks_pure trivial
  | some => exact answerNeedAuth_stores backed

/-- A replay of the initial reserve does not ask for less than is pending. -/
def Path.ready (config : BuyerPaymentConfig) (s : Account) : Path → Bool
  | .resendReserveAuth => s.pendingReserveAuth.all (·.maxAmount ≤ s.replayAmount config)
  | _ => true

theorem Path.runs {path : Path} (holds : s.Kept) (ready : path.ready config s) :
    Runs (fun _ : Unit => kept config) () (path.run config) s s := by
  have tracked : ∀ {x : Op Unit}, Stores config s.core x anything →
      Runs (fun _ : Unit => kept config) () x s s := fun stores =>
    stores.runs (kept_follows config) rfl holds
  cases path with
  | signPerRequestAuth => exact tracked sendPerRequestAuth_stores
  | handleNeedAuth => exact tracked handleNeedAuth_stores
  | extendCurrentSpendingAuth =>
    exact tracked extendCurrentSpendingAuth_stores
  | resendCurrentSpendingAuth => exact tracked resendCurrentSpendingAuth_stores
  | requestChannelClose => exact tracked sendCloseChannelRequest_stores
  | topUpReserve => exact tracked topUpReserve_stores
  | resendReserveAuth => exact resendReserveAuth_runs holds ready
  | resendPendingReserveAuth => exact tracked resendPendingReserveAuth_stores
  | reconcileReserveAmount => exact tracked reconcileReserveAmount_stores

end Paths

/-- A path that goes on, and not only to wait, finds the row and what goes with it as it left them, and
    no ReserveAuth is prepared for less than the one that is pending. -/
def Process.undisturbed (config : BuyerPaymentConfig) (process : Process) : Event → Bool
  | .path started => started.ready config process.state
  | .resume n reply => (process.tasks[n]?).all fun task =>
    task.owner.state.core = process.state.core ∧ (task.label = .balance → process.state.covers config) ∨
      (task.next reply).Idle
  | _ => true

section Runs

variable {config : BuyerPaymentConfig} {process : Process} {event : Event}

/-- What was sent is kept, and every path keeps it so from where it paused. -/
abbrev Process.Keeping (config : BuyerPaymentConfig) (process : Process) : Prop :=
  Pool.Steady (fun _ : Unit => kept config) Account.Kept process

theorem step_keeping (undisturbed : process.undisturbed config event)
    (sound : process.Keeping config) : (process.step config event).Keeping config := by
  cases event with
  | path => exact (sound.pause (fun _ => rfl) (Path.runs sound.holds undisturbed)).1
  | resume n reply =>
    show Pool.Steady _ _ (process.wake n reply)
    cases found : process.tasks[n]? with
    | none => simpa [Pool.wake, found] using sound
    | some =>
      simp only [Process.undisturbed, found, all_some, decide_eq_true_eq] at undisturbed
      rcases undisturbed with ⟨same, covers⟩ | idle
      · exact (sound.wake (fun _ => rfl) found same.symm covers).1
      · exact (sound.goOn (fun _ => rfl) found (idle.runs (kept_follows config) rfl sound.holds trivial)).1
  | count | elapse => exact ⟨⟨sound.holds.backed, sound.holds.signed, sound.holds.reserved⟩, sound.safe⟩
  | restart => exact ⟨sound.holds.restart, fun _ member => nomatch member⟩

theorem run_keeping (sound : process.Keeping config)
    (undisturbed : (machine config).Along (fun process event => process.undisturbed config event)
      process events) : ((machine config).run process events).Keeping config :=
  (machine config).run_invariant_along (fun process event process' undisturbed sound taken => by
    cases taken
    exact step_keeping undisturbed sound) sound undisturbed

/-- While every path that goes on, and not only to wait, finds the row as it left it, and no ReserveAuth asks
    for less than the pending one, whatever was sent is covered by what a reload finds. -/
theorem reload_covers_what_was_sent (config : BuyerPaymentConfig) (account : Account)
    (begins : account.Begins) (events : List Event)
    (undisturbed : (machine config).Along (fun process event => process.undisturbed config event)
      ⟨account, []⟩ events) :
    ((machine config).run ⟨account, []⟩ events).state.Reloads := by
  have start : Process.Keeping config ⟨account, []⟩ := ⟨begins.kept, fun _ member => nomatch member⟩
  exact (run_keeping start undisturbed).holds.reloads

end Runs

/-- A request costs at most 100, and a reserve grows by 1000. -/
def plainConfig : BuyerPaymentConfig := ⟨100, 1000, 3600, id⟩

def freshChannel : Account := .opened "channel" "salt" 1000 3600 0

/-- A response of cost 60, once the reserve is confirmed. -/
def paidResponse : List Event :=
  [.path (.reconcileReserveAmount 1000), .resume 0 .done, .resume 0 .done,
    .path (.signPerRequestAuth ⟨none, none, 60, 0, 60⟩),
    .resume 0 .done, .resume 0 .done, .resume 0 .done, .resume 0 .done]

/-- A top-up, and a crash. -/
def toppedUp : List Event :=
  paidResponse ++ [.path .topUpReserve, .resume 0 .done, .resume 0 .done, .resume 0 .done,
    .resume 0 .done, .restart]

theorem toppedUp_reloads : ((machine plainConfig).run ⟨freshChannel, []⟩ toppedUp).state.Reloads :=
  reload_covers_what_was_sent plainConfig freshChannel (.opened ..) toppedUp (by decide +kernel)

/-- A top-up reads the row before a response is paid for, and stores it after. -/
def overtakenTopUp : List Event :=
  [.path (.reconcileReserveAmount 1000), .resume 0 .done, .resume 0 .done, .path .topUpReserve,
    .path (.signPerRequestAuth ⟨none, none, 60, 0, 60⟩),
    .resume 1 .done, .resume 1 .done, .resume 1 .done, .resume 1 .done,
    .resume 0 .done, .resume 0 .done, .resume 0 .done]

/-- The initial reserve is replayed while a top-up is pending. -/
def replayedReserve : List Event :=
  toppedUp ++ [.path .resendReserveAuth, .resume 0 .done, .resume 0 .done, .resume 0 .done]

/-- The amount 60 is forgotten in one run, the ReserveAuth for 2000 in the other. -/
theorem overtaken_topUp_forgets :
    ¬ (∀ config (account : Account), account.Begins → ∀ events : List Event,
      ((machine config).run ⟨account, []⟩ events).state.Reloads) ∧
      ¬ ((machine plainConfig).run ⟨freshChannel, []⟩ overtakenTopUp).state.Reloads ∧
      ¬ ((machine plainConfig).run ⟨freshChannel, []⟩ replayedReserve).state.Reloads := by
  have forgets : ¬ ((machine plainConfig).run ⟨freshChannel, []⟩ overtakenTopUp).state.Reloads := by
    intro reloads
    have covered := reloads.signed (.spendingAuth "channel" 60 (.spendingAuth "channel" 60))
      (by decide +kernel) 60 rfl
    revert covered
    decide +kernel
  refine ⟨fun always => forgets (always plainConfig freshChannel (.opened ..) overtakenTopUp),
    forgets, fun reloads => ?_⟩
  have covered := reloads.reserved
    (.reserveAuth "channel" 60 ⟨.reserveAuth "channel" 2000 3600, "salt", 2000, 3600, 1000⟩)
    (by decide +kernel) 2000 rfl (by decide +kernel)
  revert covered
  decide +kernel

end AntSeed.Buyer
