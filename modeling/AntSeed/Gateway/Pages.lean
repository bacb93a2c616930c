import AntSeed.Gateway.Books
import AntSeed.Gateway.Owners
import AntSeed.Gateway.SpendFeed
import AntSeed.Lib.Decimal

/-! # What a page does

A page is entered event by event, each under a reference of its own, and the file of a feed loses
only what has expired.
-/

namespace AntSeed.Gateway

open GatewayAccounting (spendRef parseBaseUnits entryOfEvent)
open GatewayAccounting
open List

def HasEntry (ledger : List LedgerEntry) (bootId : String) (seq : Nat) : Prop :=
  ∃ entry ∈ ledger, entry.externalRef = spendRef bootId seq

theorem hasEntry_iff_any :
    ledger.any (·.externalRef = spendRef bootId seq) ↔ HasEntry ledger bootId seq := by
  simp [HasEntry]

def Enters (number : String → Option Int) (entry : LedgerEntry) (event : String × AttributedSpendEvent) : Prop :=
  entry.externalRef = spendRef event.1 event.2.seq ∧ entry.kind = .spend ∧ entry.requestTag = some event.2.tag ∧
    entry.buyerIdentity = event.2.buyerIdentity ∧ entry.amountUsdc = -parseBaseUnits number event.2.amountUsdc

theorem enters_entryOfEvent (number : String → Option Int) {bootId : String} {event : AttributedSpendEvent}
    {store : GatewayStore} {request : GatewayRequest} (identity : request.buyerIdentity = event.buyerIdentity) :
    Enters number (entryOfEvent number bootId event store request) (bootId, event) :=
  ⟨rfl, rfl, rfl, identity, rfl⟩

section Ingest

variable {number : String → Option Int} {bootId : String} {a : GatewayAccounting} {events : List AttributedSpendEvent}

theorem isLogged_congr {store store' : GatewayStore} (same : store'.requests = store.requests)
    (event : AttributedSpendEvent) : isLogged store' event = isLogged store event := by
  unfold isLogged GatewayStore.findRequest GatewayStore.getRequest
  rw [same]

theorem takenIn_isPart : takenIn number bootId a events <+: events := by
  induction events generalizing a with
  | nil => exact prefix_rfl
  | cons event events ih =>
    unfold takenIn
    split
    · exact cons_prefix_cons.mpr ⟨rfl, ih⟩
    · exact nil_prefix

/-- What is entered is added to the ledger, once, and everything gone through that the log has is there. -/
structure Entered (number : String → Option Int) (bootId : String) (a a' : GatewayAccounting)
    (events taken : List AttributedSpendEvent) : Prop where
  requests : a'.store.requests = a.store.requests
  kept : ∀ entry ∈ a.store.ledger, entry ∈ a'.store.ledger
  added : ∀ entry ∈ a'.store.ledger, entry ∈ a.store.ledger ∨ ∃ event ∈ events, Enters number entry (bootId, event)
  distinct : (a.store.ledger.map LedgerEntry.externalRef).Nodup → (a'.store.ledger.map LedgerEntry.externalRef).Nodup
  there : ∀ event ∈ taken, isLogged a.store event → HasEntry a'.store.ledger bootId event.seq

theorem entered_one (event : AttributedSpendEvent) :
    Entered number bootId a (ingestOne number bootId a event).1 [event]
      (if (ingestOne number bootId a event).2 then [event] else []) := by
  obtain ⟨requests, same | ⟨request, found, identity, new, ledger⟩⟩ := ingestOne_books number bootId a event
  · obtain ⟨ledger, known⟩ := same
    exact {
      requests
      kept := fun entry member => ledger ▸ member
      added := fun entry member => .inl (ledger ▸ member)
      distinct := fun distinct => ledger ▸ distinct
      there := by
        intro other taken logged
        cases done : (ingestOne number bootId a event).2 with
        | false => simp [done] at taken
        | true =>
          rw [done, if_pos rfl, mem_singleton] at taken
          rw [taken] at logged ⊢
          exact ledger ▸ hasEntry_iff_any.mp (known done logged) }
  · have mine := @enters_entryOfEvent number bootId event a.store request identity
    exact {
      requests
      kept := fun entry member => ledger ▸ mem_append_left _ member
      added := by
        intro entry member
        rw [ledger, mem_append, mem_singleton] at member
        cases member with
        | inl before => exact .inl before
        | inr same =>
          rw [same]
          exact .inr ⟨event, mem_singleton_self event, mine⟩
      distinct := by
        intro distinct
        rw [ledger, map_append, map_singleton, nodup_append]
        refine ⟨distinct, nodup_singleton _, ?_⟩
        intro ref member other this same
        obtain ⟨entry, here, isRef⟩ := mem_map.mp member
        rw [mem_singleton.mp this] at same
        exact new (hasEntry_iff_any.mpr ⟨entry, here, (isRef.trans same).trans mine.1⟩)
      there := by
        intro other taken _
        have same : other = event := by
          split at taken
          · exact mem_singleton.mp taken
          · cases taken
        rw [ledger, same]
        exact ⟨_, mem_append_right _ (mem_singleton_self _), mine.1⟩ }

theorem entered (a : GatewayAccounting) (events : List AttributedSpendEvent) :
    Entered number bootId a (ingest number bootId a events).1 events (takenIn number bootId a events) ∧
      ((ingest number bootId a events).2 = true → takenIn number bootId a events = events) := by
  induction events generalizing a with
  | nil =>
    exact ⟨⟨rfl, fun _ member => member, fun _ member => .inl member, id, fun _ member => absurd member not_mem_nil⟩,
      fun _ => rfl⟩
  | cons event events ih =>
    have one := @entered_one number bootId a event
    unfold ingest takenIn
    cases first : ingestOne number bootId a event with
    | mk a' done =>
      rw [first] at one
      cases done with
      | false =>
        refine ⟨{ one with added := ?_, there := fun _ member => absurd member not_mem_nil }, by simp⟩
        intro entry member
        exact (one.added entry member).imp id fun ⟨other, here, enters⟩ =>
          ⟨other, mem_cons.mpr (.inl (mem_singleton.mp here)), enters⟩
      | true =>
        obtain ⟨rest, whole⟩ := ih a'
        refine ⟨{
          requests := rest.requests.trans one.requests
          kept := fun entry member => rest.kept entry (one.kept entry member)
          added := ?_
          distinct := fun distinct => rest.distinct (one.distinct distinct)
          there := ?_ }, fun done => congrArg (event :: ·) (whole done)⟩
        · intro entry member
          rcases rest.added entry member with before | ⟨other, here, enters⟩
          · exact (one.added entry before).imp id fun ⟨other, here, enters⟩ =>
              ⟨other, mem_cons.mpr (.inl (mem_singleton.mp here)), enters⟩
          · exact .inr ⟨other, mem_cons_of_mem _ here, enters⟩
        · intro other taken logged
          cases mem_cons.mp taken with
          | inl same =>
            obtain ⟨entry, here, isRef⟩ := one.there other (by simp [same]) logged
            exact ⟨entry, rest.kept entry here, isRef⟩
          | inr later => exact rest.there other later (isLogged_congr one.requests other ▸ logged)

end Ingest

/-- A file after events that have expired were deleted from it. -/
structure Prunes (now : Int) (db db' : FeedDatabase) : Prop where
  feedId : db'.feedId = db.feedId
  lastSeq : db'.lastSeq = db.lastSeq
  ackedSeq : db'.ackedSeq = db.ackedSeq
  sublist : db'.events.Sublist db.events
  kept : ∀ event ∈ db.events, db.expired now event = false → event ∈ db'.events

/-- A file to which an event was added, after others were deleted. -/
structure Adds (now : Int) (db db' : FeedDatabase) (event : AttributedSpendEvent) : Prop where
  feedId : db'.feedId = db.feedId
  ackedSeq : db'.ackedSeq = db.ackedSeq
  lastSeq : db'.lastSeq = db.lastSeq + 1
  seq : event.seq = db.lastSeq + 1
  createdAt : event.createdAt = now
  events : ∃ kept : FeedDatabase, Prunes now db kept ∧ db'.events = kept.events ++ [event]

namespace SpendAttributionFeed

variable {feed : SpendAttributionFeed} {now : Int}

theorem prunes_prune (feed : SpendAttributionFeed) (now : Int) : Prunes now feed.db (feed.prune now).db := by
  unfold prune
  split
  · exact ⟨rfl, rfl, rfl, List.Sublist.refl _, fun _ member _ => member⟩
  · refine ⟨rfl, rfl, rfl, filter_sublist, fun event member fresh => ?_⟩
    exact mem_filter.mpr ⟨member, by simpa using fresh⟩

theorem isOpen_prune (feed : SpendAttributionFeed) (now : Int) : (feed.prune now).isOpen = feed.isOpen := by
  unfold prune
  split <;> rfl

section

variable (isOpen : feed.isOpen = true)

include isOpen

theorem track_frame (requestId tag : String) (purpose : Option SpendPurpose) :
    (feed.track now requestId tag purpose).isOpen = true ∧
      Prunes now feed.db (feed.track now requestId tag purpose).db := by
  have pruned := prunes_prune feed now
  have stillOpen := (isOpen_prune feed now).trans isOpen
  unfold track
  rw [if_pos isOpen]
  exact ⟨stillOpen, { pruned with }⟩

theorem record_attributed
    (attributed : feed.attribution now spend = some tag) :
    ∃ recents purpose, feed.record now spend =
      { prune { feed with recentTagsBySeller := recents } now with
        db := (prune { feed with recentTagsBySeller := recents } now).db.insert now tag spend purpose } := by
  unfold record
  rw [if_pos isOpen, attributed]
  exact ⟨_, _, rfl⟩

theorem record_cases (spend : Spend) :
    (feed.record now spend).isOpen = true ∧
    ((feed.record now spend).db = feed.db ∨ ∃ event, Adds now feed.db (feed.record now spend).db event) := by
  cases attributed : feed.attribution now spend with
  | none =>
    have forgets : feed.record now spend = feed.forget now (sellerKey spend) := by
      unfold record
      rw [if_pos isOpen, attributed]
    have frame := FeedRun.forget_frame feed now (sellerKey spend)
    rw [forgets]
    exact ⟨frame.2.1.trans isOpen, .inl frame.1⟩
  | some =>
    obtain ⟨recents, purpose, same⟩ := record_attributed isOpen attributed
    have prunes := prunes_prune { feed with recentTagsBySeller := recents } now
    have stillOpen := (isOpen_prune { feed with recentTagsBySeller := recents } now).trans isOpen
    rw [same]
    generalize prune { feed with recentTagsBySeller := recents } now = pruned at prunes stillOpen
    have next : pruned.db.lastSeq + 1 = feed.db.lastSeq + 1 := congrArg (· + 1) prunes.lastSeq
    exact ⟨stillOpen, .inr ⟨_, {
      events := ⟨pruned.db, prunes, rfl⟩
      feedId := prunes.feedId
      ackedSeq := prunes.ackedSeq
      lastSeq := next
      seq := next
      createdAt := rfl }⟩⟩

theorem page_frame (after : Nat) : (feed.page after true).1.isOpen = true ∧
    (feed.page after true).1.db.feedId = feed.db.feedId ∧
    (feed.page after true).1.db.lastSeq = feed.db.lastSeq ∧
    (feed.page after true).1.db.events = feed.db.events ∧
    ((feed.page after true).1.db.ackedSeq ≤ feed.db.ackedSeq ∨
      (feed.page after true).1.db.ackedSeq = after ∧ 0 < after ∧ after ≤ feed.db.lastSeq) ∧
    (feed.page after true).2.bootId = feed.db.feedId ∧
    (feed.page after true).2.events = (feed.db.events.filter (cursorIn after < ·.seq)).take MAX_EVENTS_PER_PAGE ∧
    (feed.page after true).2.cursor =
      ((feed.page after true).2.events.getLast?.map AttributedSpendEvent.seq).getD (cursorIn after) := by
  have cursor : 0 < cursorIn after → cursorIn after = after := by
    unfold cursorIn
    split <;> simp
  unfold page FeedDatabase.acknowledge
  rw [if_pos isOpen]
  split
  next acks =>
    split
    next known =>
      refine ⟨isOpen, rfl, rfl, rfl, ?_, rfl, rfl, rfl⟩
      rw [cursor acks.2] at known ⊢
      have positive := cursor acks.2 ▸ acks.2
      cases Nat.le_total after feed.db.ackedSeq with
      | inl old => exact .inl (Nat.max_le.mpr ⟨le_rfl, old⟩)
      | inr new => exact .inr ⟨Nat.max_eq_right new, positive, known⟩
    · exact ⟨isOpen, rfl, rfl, rfl, .inl le_rfl, rfl, rfl, rfl⟩
  · exact ⟨isOpen, rfl, rfl, rfl, .inl le_rfl, rfl, rfl, rfl⟩

end

end SpendAttributionFeed

end AntSeed.Gateway
