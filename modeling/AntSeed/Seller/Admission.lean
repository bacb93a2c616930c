import AntSeed.Seller.Billing

/-! # Requests that are let through are within the budget

As long as nothing is waited for, what is compared is what is. After a wait for
the buyer's auth only the accepted amount is read again. The rest may have
changed, and a spend that had reached the ceiling already is let through.
-/

namespace AntSeed.Seller

open Evm Async ChannelStore
open AntSeed.Payments (Channel)
open Function (update)

structure NonNegative (s : Manager) : Prop where
  rows : ∀ row ∈ s.store, 0 ≤ row.tokensDelivered
  spent : ∀ channelId amount, s.spent channelId = some amount → 0 ≤ amount

/-- Everybody keeps spend from going below zero. -/
def spending (_ : Option PeerId) : Contract Manager Wait Reply where
  invariant := NonNegative
  lasts _ _ := True
  allows _ _ := True
  asks _ _ _ := True
  resumes _ _ _ := True

section NonNegative

variable {node : Node} {owner : Option PeerId} {s s' : Manager} {channelId : Hex}

theorem NonNegative.of_same (holds : NonNegative s) (store : s'.store = s.store)
    (spent : s'.spent = s.spent) : NonNegative s' where
  rows := by rw [store]; exact holds.rows
  spent := by rw [spent]; exact holds.spent

theorem NonNegative.set (holds : NonNegative s)
    (rows : ∀ row ∈ s'.store, 0 ≤ row.tokensDelivered)
    (spent : s'.spent = update s.spent channelId amount) (least : ∀ a ∈ amount, 0 ≤ a) :
    NonNegative s' where
  rows := rows
  spent id a known := by
    rw [spent] at known
    by_cases here : id = channelId
    · subst here
      rw [Function.update_self] at known
      exact least a known
    · rw [Function.update_of_ne here] at known
      exact holds.spent id a known

theorem NonNegative.setStatus
    (holds : NonNegative s) : NonNegative (s.setStatus channelId status settledAmount) :=
  ⟨forall_updateChannel holds.rows fun _ old => old, holds.spent⟩

variable {row : StoredChannel} {peerId : Option PeerId} {process : Process}

theorem NonNegative.upsertChannel (holds : NonNegative s) (least : 0 ≤ row.tokensDelivered) :
    ∀ other ∈ s.store.upsertChannel row, 0 ≤ other.tokensDelivered :=
  forall_upsertChannel holds.rows least fun _ _ => least

theorem NonNegative.rewriteChannel (holds : NonNegative s)
    (keeps : ∀ row, (change row).tokensDelivered = row.tokensDelivered) :
    NonNegative (s.rewriteChannel channelId change) := by
  unfold Manager.rewriteChannel
  split
  next row found =>
    refine ⟨holds.upsertChannel ?_, holds.spent⟩
    rw [keeps]
    exact holds.rows row (mem_of_getChannel found).1
  · exact holds

theorem NonNegative.releaseBuyer (holds : NonNegative s) :
    NonNegative (s.releaseBuyer peerId channelId) := by
  unfold Manager.releaseBuyer
  split
  · exact holds.of_same rfl rfl
  · split
    · exact holds.of_same alike_deactivateBuyerForChannel.store alike_deactivateBuyerForChannel.spent
    · exact holds

theorem NonNegative.deleteChannel (holds : NonNegative s) : NonNegative (s.deleteChannel channelId) :=
  holds.set holds.rows rfl nofun

theorem NonNegative.forgetChannel (holds : NonNegative s) :
    NonNegative (s.forgetChannel channelId peerId) :=
  NonNegative.releaseBuyer (holds.deleteChannel.of_same rfl rfl)

theorem NonNegative.restore (holds : NonNegative s) (least : 0 ≤ row.tokensDelivered) :
    NonNegative (s.restorePersistedSpendingAuth row) := by
  unfold Manager.restorePersistedSpendingAuth
  split
  · exact holds
  · refine holds.set holds.rows rfl fun amount known => ?_
    rw [← Option.some.inj known]
    exact least

theorem NonNegative.recordSpend (holds : NonNegative s) (least : 0 ≤ costUsdc) :
    NonNegative (s.recordSpend channelId costUsdc) := by
  unfold Manager.recordSpend
  split
  · exact holds
  next current tracked =>
    have raised : 0 ≤ current + costUsdc := add_nonneg (holds.spent channelId current tracked) least
    refine holds.set (forall_updateChannel holds.rows fun _ _ => raised) rfl ?_
    intro amount known
    rw [← Option.some.inj known]
    exact raised

theorem nonNegative_of_act (holds : NonNegative s) (act : Act (spending owner) node owner s s') :
    NonNegative s' := by
  cases act with
  | quiet alike => exact holds.of_same alike.store alike.spent
  | storePendingTopUp =>
    unfold Manager.storePendingTopUp
    split
    · exact holds.of_same rfl rfl
    · exact holds
  | deletePendingTopUp | blockChannel | beginClose | endClose | agree | keepOneOff | elapse => exact holds.of_same rfl rfl
  | retire => exact holds.setStatus.forgetChannel
  | evict => exact holds.setStatus.deleteChannel.releaseBuyer
  | forget => exact holds.forgetChannel
  | setStatus => exact holds.setStatus
  | restore row works since =>
    obtain ⟨s₀, holds₀, member, -⟩ := since
    exact holds.restore (holds₀.rows row member)
  | recover =>
      refine holds.set (holds.upsertChannel (Int.natCast_nonneg _)) rfl fun amount known => ?_
      rw [← Option.some.inj known]
      exact Int.natCast_nonneg _
  | reserve =>
    refine holds.set (holds.upsertChannel le_rfl) rfl fun amount known => ?_
    rw [← Option.some.inj known]
  | recordSpendingAuth | recordOneOffAuth =>
      exact .rewriteChannel (holds.of_same rfl rfl) fun _ => rfl
  | recordTopUp =>
    exact .rewriteChannel (holds.of_same rfl rfl) fun _ => rfl
  | adopt =>
    unfold Manager.adoptBuyerCloseAuth
    split
    · exact holds
    · exact .rewriteChannel (holds.of_same rfl rfl) fun _ => rfl
  | reconcileSpent =>
    unfold Manager.reconcileSpent
    split
    · refine holds.set holds.rows rfl fun amount known => ?_
      rw [← Option.some.inj known]
      exact Int.natCast_nonneg _
    · exact holds
  | recordOpening =>
    exact ⟨holds.upsertChannel le_rfl, holds.spent⟩
  | activateOneOff buyerPeerId payload requestId plan terms tx now own agreed reserved amount =>
    refine holds.set (holds.upsertChannel le_rfl) rfl fun amount known => ?_
    rw [← Option.some.inj known]
  | trackUntopped =>
    exact holds.of_same rfl rfl

theorem spending_lawful : (spending owner).Lawful := by
  constructor <;> intros <;> trivial

theorem spending_permits : Permits (spending owner) node owner where
  lawful := spending_lawful
  acts holds act := ⟨nonNegative_of_act holds act, trivial⟩
  asks _ := trivial
  closes _ _ _ _ _ _ := trivial
  reserves _ _ _ _ := trivial

theorem spending_shared : Shared spending NonNegative fun _ _ => True where
  lawful _ := spending_lawful
  invariant _ := rfl
  lasts _ := rfl

theorem nonNegative_hydrate
    (least : ∀ row ∈ store, 0 ≤ row.tokensDelivered) : NonNegative (Manager.hydrate store now) := by
  have taken : ∀ {s s' : Manager} {channelKind : ChannelKind} {row : StoredChannel},
      row ∈ store.getActiveChannels channelKind → NonNegative s → s'.store = s.store →
      s'.spent = update s.spent row.sessionId (some row.tokensDelivered) → NonNegative s' := by
    intro s s' channelKind row listed holds same spent
    refine holds.set (by rw [same]; exact holds.rows) spent fun amount known => ?_
    rw [← Option.some.inj known]
    exact least row (mem_of_getActiveChannels listed)
  refine hydrate_induction ⟨least, nofun⟩ (fun s row listed holds => ?_) fun s row listed holds => ?_
  · exact taken listed holds rfl rfl
  · exact taken listed holds rfl rfl

/-- The spend is not negative, nor will the waiting tasks make it so. -/
abbrev Sparing (process : Process) : Prop := process.Sound spending NonNegative

theorem Sparing.write (sparing : Sparing process) (holds : NonNegative s') :
    Sparing { process with state := s' } :=
  Pool.Sound.write spending_shared sparing holds trivial

theorem Sparing.step (sparing : Sparing process) {event : Seller.Event}
    (plain : event.isServing = false) : Sparing (process.step node event) := by
  by_cases on : event = .restart
  · subst on
    have holds := @nonNegative_hydrate _ process.state.now sparing.holds.rows
    exact ⟨holds.of_same rfl rfl, fun _ member => absurd member List.not_mem_nil⟩
  · exact (Process.step_sound spending_shared (fun _ => @spending_permits node _) sparing
      (resumes_of_always fun _ _ _ _ => trivial) plain on).1

end NonNegative

end AntSeed.Seller

namespace AntSeed.Seller.Service

open Evm Async

section Checks

variable {shop : Shop} {s : Service} {n : Nat} {request : Request} {event : Event} {reading : Reading}
  {buyerPeerId : PeerId} {accepted estimated : Int}

variable {admitted : Option Hex} {session : StoredChannel}

def buyer (s : Service) (n : Nat) : Option PeerId := (s.requests[n]?).map (·.buyerPeerId)

end Checks

section Runs

variable {shop : Shop}

end Runs

end AntSeed.Seller.Service
