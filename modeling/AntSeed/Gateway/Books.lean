import AntSeed.Gateway.GatewayAccounting

/-! # What is left alone

Accounting for videos writes to one table, and entering spend adds entries to the ledger.
-/

namespace AntSeed.Gateway

open GatewayStore

namespace GatewayAccounting

def Apart {β : Type} (part : GatewayStore → β) : Prop :=
  ∀ store videoCommitments, part { store with videoCommitments } = part store

def OnlyCommitments (change : GatewayStore → GatewayStore) : Prop :=
  ∀ store, ∃ videoCommitments, change store = { store with videoCommitments }

theorem onlyCommitments_storing (job : String) (record : Option VideoCommitmentRecord) (replaces : Option String) :
    OnlyCommitments (storing job record replaces) := by
  intro store
  cases record with
  | none => exact ⟨_, rfl⟩
  | some =>
    unfold storing saveVideoCommitment
    cases replaces with
    | none => exact ⟨_, rfl⟩
    | some =>
      dsimp only
      split <;> exact ⟨_, rfl⟩

theorem onlyCommitments_save (record : VideoCommitmentRecord) (replaces : Option String) :
    OnlyCommitments (·.saveVideoCommitment record replaces) :=
  onlyCommitments_storing record.job (some record) replaces

theorem onlyCommitments_delete (job : String) : OnlyCommitments (·.deleteVideoCommitment job) :=
  onlyCommitments_storing job none none

theorem onlyCommitments_dropExpired (now : Int) : OnlyCommitments (·.dropExpiredCommitments now) :=
  fun _ => ⟨_, rfl⟩

section Apart

variable {β : Type} {part : GatewayStore → β} (apart : Apart part) (a : GatewayAccounting)

include apart

theorem part_write (only : OnlyCommitments change) :
    part (a.write change).1.store = part a.store := by
  obtain ⟨_, changed⟩ := only a.store
  unfold write
  split
  · rfl
  · exact (congrArg part changed).trans (apart _ _)
  · exact (congrArg part changed).trans (apart _ _)

theorem part_storeVideo (job : String) (record : Option VideoCommitmentRecord) (replaces : Option String) :
    part (a.storeVideo job record replaces).store = part a.store := by
  have written := part_write apart
    { a with pendingVideoWrites := Keyed.erase PendingVideoWrite.job job a.pendingVideoWrites }
    (onlyCommitments_storing job record replaces)
  unfold storeVideo
  dsimp only
  split <;> exact written

theorem part_setVideoHeld (commitment : VideoCommitmentRecord) (amountUsdc : Int) :
    part (a.setVideoHeld commitment amountUsdc).store = part a.store :=
  part_storeVideo apart _ _ _ _

theorem part_videoCharged (job : String) (amountUsdc : Int) :
    part (a.videoCharged job amountUsdc).store = part a.store := by
  unfold videoCharged
  split
  · exact part_setVideoHeld apart _ _ _
  · rfl

theorem part_loadRow (stored : List String) (row : VideoCommitmentRecord) :
    part (loadRow stored a row).1.store = part a.store := by
  unfold loadRow
  by_cases reserved : isVideoReservationKey row.job = false
  · rw [if_pos reserved]
    split <;> rfl
  · rw [if_neg reserved]
    split
    · exact part_write apart a (onlyCommitments_delete row.job)
    · dsimp only
      split <;> exact part_write apart a (onlyCommitments_save _ _)

theorem part_loadRows (stored : List String) (rows : List VideoCommitmentRecord) :
    part (loadRows stored a rows).1.store = part a.store := by
  induction rows generalizing stored a with
  | nil => rfl
  | cons row rows ih =>
    have first := part_loadRow apart a stored row
    unfold loadRows
    split
    next a' stored' taken =>
      rw [taken] at first
      exact (ih a' stored').trans first
    next a' _ failed =>
      rw [failed] at first
      exact first

theorem part_load (now : Int) : part (a.loadVideoCommitments now).store = part a.store := by
  have listed := part_write apart a (onlyCommitments_dropExpired now)
  unfold loadVideoCommitments
  dsimp only
  split
  · split <;> exact (part_loadRows apart _ _ _).trans listed
  · exact listed

omit a in
theorem part_construct (now : Int) (store : GatewayStore) (faults : Faults) :
    part (construct now store faults).store = part store :=
  part_load apart _ now

end Apart

theorem apart_ledger : Apart ledger := fun _ _ => rfl

theorem apart_requests : Apart requests := fun _ _ => rfl

section Ledger

variable (number : String → Option Int) (bootId : String) (a : GatewayAccounting) (event : AttributedSpendEvent)

theorem part_settle {β : Type} {part : GatewayStore → β} (apart : Apart part) (request : GatewayRequest) :
    part (settle number a event request).store = part a.store := by
  unfold settle
  dsimp only
  split
  all_goals
    cases request.videoJob with
    | none => rfl
    | some =>
      cases event.requestId with
      | none => rfl
      | some => exact part_videoCharged apart a _ _

theorem parseBaseUnits_range (value : String) :
    |parseBaseUnits number value| ≤ MAX_SAFE_INTEGER ∧ 0 ≤ parseBaseUnits number value := by
  unfold parseBaseUnits
  cases read : (number value).filter fun amount => |amount| ≤ MAX_SAFE_INTEGER ∧ 0 ≤ amount with
  | none => exact ⟨by decide, le_rfl⟩
  | some => simpa using (Option.filter_eq_some_iff.mp read).2

def entryOfEvent (store : GatewayStore) (request : GatewayRequest) : LedgerEntry :=
  store.toEntry (spendEntry number bootId event request)

theorem recordLedgerEntry_spend (store : GatewayStore) (request : GatewayRequest) :
    store.recordLedgerEntry (spendEntry number bootId event request) =
      if store.ledger.any (·.externalRef = spendRef bootId event.seq) then .ok (store, false)
      else .ok (rollUp
        { store with ledger := store.ledger ++ [entryOfEvent number bootId event store request] }
        (entryOfEvent number bootId event store request), true) := by
  have range : |(spendEntry number bootId event request).amountUsdc| ≤ MAX_SAFE_INTEGER ∧
      0 ≤ (spendEntry number bootId event request).amountUsdc := parseBaseUnits_range number event.amountUsdc
  unfold recordLedgerEntry
  rw [if_pos range]
  rfl

theorem rollUp_ledger (store : GatewayStore) (entry : LedgerEntry) : (store.rollUp entry).ledger = store.ledger := by
  unfold rollUp
  split <;> rfl

theorem rollUp_requests (store : GatewayStore) (entry : LedgerEntry) :
    (store.rollUp entry).requests = store.requests := by
  unfold rollUp
  split <;> rfl

/-- What one event does to the ledger and to the log: nothing if it fails or if its request is not logged. -/
theorem ingestOne_books : (ingestOne number bootId a event).1.store.requests = a.store.requests ∧
    ((ingestOne number bootId a event).1.store.ledger = a.store.ledger ∧
        ((ingestOne number bootId a event).2 = true →
          (a.store.findRequest event.tag).any (·.buyerIdentity = event.buyerIdentity) →
            a.store.ledger.any (·.externalRef = spendRef bootId event.seq)) ∨
      ∃ request, a.store.findRequest event.tag = some request ∧ request.buyerIdentity = event.buyerIdentity ∧
        ¬ a.store.ledger.any (·.externalRef = spendRef bootId event.seq) ∧
        (ingestOne number bootId a event).1.store.ledger =
          a.store.ledger ++ [entryOfEvent number bootId event a.store request]) := by
  unfold ingestOne
  cases found : (a.store.findRequest event.tag).filter fun request => request.buyerIdentity = event.buyerIdentity with
  | none =>
    refine ⟨rfl, .inl ⟨rfl, fun _ logged => ?_⟩⟩
    cases known : a.store.findRequest event.tag with
    | none => simp [known] at logged
    | some => simp [known, Option.filter] at found logged; exact absurd logged found
  | some request =>
    obtain ⟨logged, identity⟩ := Option.filter_eq_some_iff.mp found
    have identity : request.buyerIdentity = event.buyerIdentity := by simpa using identity
    dsimp only
    rw [recordLedgerEntry_spend]
    by_cases known : a.store.ledger.any (·.externalRef = spendRef bootId event.seq)
    · rw [if_pos known]
      dsimp only
      unfold write
      cases a.faults.writes with
      | nil => exact ⟨rfl, .inl ⟨rfl, fun _ _ => known⟩⟩
      | cons fault => cases fault <;> exact ⟨rfl, .inl ⟨rfl, fun _ _ => known⟩⟩
    · rw [if_neg known]
      dsimp only
      unfold write
      cases a.faults.writes with
      | nil =>
        refine ⟨?_, .inr ⟨request, logged, identity, known, ?_⟩⟩
        · exact (part_settle number _ event apart_requests request).trans (rollUp_requests _ _)
        · exact (part_settle number _ event apart_ledger request).trans (rollUp_ledger _ _)
      | cons fault =>
        cases fault with
        | true => exact ⟨rfl, .inl ⟨rfl, by simp⟩⟩
        | false =>
          refine ⟨?_, .inr ⟨request, logged, identity, known, ?_⟩⟩
          · exact (part_settle number _ event apart_requests request).trans (rollUp_requests _ _)
          · exact (part_settle number _ event apart_ledger request).trans (rollUp_ledger _ _)

end Ledger

end GatewayAccounting

end AntSeed.Gateway
