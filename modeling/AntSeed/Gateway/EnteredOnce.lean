import AntSeed.Gateway.Pages

/-! # Spend is entered once

Up to a number, everything recorded in the feed that there is has been taken in. The cursors of that
feed are up to this number, what is beyond it is still stored, and a page has all of it up to its
last event. So nothing is acknowledged or lost before it is in the ledger, as long as no poll reaches
the feed with the cursor of another that is ahead of this.
-/

namespace AntSeed.Gateway

open GatewayAccounting (spendRef)
open SpendAttributionFeed SpendRun GatewayAccounting
open List AttributedSpendEvent SpendFeedPoller

/-! ## What every run keeps -/

theorem length_filter_range' (read n : Nat) : ((range' 1 n).filter (read < ·)).length = n - read := by
  induction n with
  | zero => simp
  | succ n ih =>
    rw [range'_concat, filter_append, length_append, ih]
    by_cases beyond : read < 1 + 1 * n
    · rw [filter_cons_of_pos (by simpa using beyond), filter_nil, length_singleton]
      omega
    · rw [filter_cons_of_neg (by simpa using beyond), filter_nil, length_nil]
      omega

namespace SpendRun

/-- An event is in the ledger, or the gateway's log had no such request when it took it in. -/
def Accounted (s : SpendRun) (event : String × AttributedSpendEvent) : Prop :=
  HasEntry s.gateway.store.ledger event.1 event.2.seq ∨ (event.1, event.2.seq) ∈ s.unlogged

/-- The events of the feed have been numbered one after the other. What was not read is stored, and is no
    older than the last completed poll. -/
structure FeedKept (s : SpendRun) : Prop where
  isOpen : s.feed.isOpen = true
  numbered : s.current.map seq = range' 1 s.feed.db.lastSeq
  stored : s.feed.db.events.Sublist s.current
  unread : ∀ event ∈ s.current, s.read < event.seq → event ∈ s.feed.db.events
  recent : ∀ event ∈ s.current, s.read < event.seq → s.reportedAt ≤ event.createdAt
  past : s.reportedAt ≤ s.now
  readLe : s.read ≤ s.feed.db.lastSeq
  acked : s.feed.db.ackedSeq ≤ s.read
  listed : s.feed.db.feedId ∈ s.feedIds
  others : ∀ event ∈ s.earlier, event.1 ∈ s.feedIds ∧ event.1 ≠ s.feed.db.feedId

/-- A cursor of the feed is no further than what was read. -/
structure Covered (s : SpendRun) (request : PageRequest) : Prop where
  fresh : request.bootId = none → request.after = 0
  same : request.bootId = some s.feed.db.feedId → request.after ≤ s.read
  listed : ∀ bootId ∈ request.bootId, bootId ∈ s.feedIds

/-- A page of the feed has everything unread up to its last event, and if it has none everything is read. -/
structure Answered (s : SpendRun) (request : PageRequest) (answer : PageAnswer) : Prop where
  listed : answer.page.bootId ∈ s.feedIds
  cursor : answer.page.cursor = (answer.page.events.getLast?.map seq).getD
    (cursorIn request.after)
  recorded : ∀ event ∈ answer.page.events, (answer.page.bootId, event) ∈ s.recorded
  ordered : answer.page.events.Pairwise fun event later => event.seq < later.seq
  whole : request.after = 0 ∨ request.bootId = some answer.page.bootId → answer.page.bootId = s.feed.db.feedId →
    ∀ event ∈ s.current, s.read < event.seq → ∀ last ∈ answer.page.events, event.seq ≤ last.seq →
      event ∈ answer.page.events
  finished : request.after = 0 ∨ request.bootId = some answer.page.bootId → answer.page.events = [] →
    (∀ event ∈ answer.known, s.Accounted event) ∧
      ∀ event ∈ s.current, s.read < event.seq → answer.answeredAt ≤ event.createdAt
  past : answer.answeredAt ≤ s.now

structure Cursors (s : SpendRun) : Prop where
  poller : s.Covered ⟨s.poller.bootId, s.poller.after⟩
  abandoned : ∀ request ∈ s.abandoned, s.Covered request
  inFlight : ∀ sent ∈ s.inFlight, sent.1 = ⟨s.poller.bootId, s.poller.after⟩ ∧
    ∀ answer ∈ sent.2, s.Answered sent.1 answer

structure Books (number : String → Option Int) (s : SpendRun) : Prop where
  earlier : ∀ event ∈ s.earlier, s.Accounted event
  current : ∀ event ∈ s.current, event.seq ≤ s.read → s.Accounted (s.feed.db.feedId, event)
  distinct : (s.gateway.store.ledger.map LedgerEntry.externalRef).Nodup
  origin : ∀ entry ∈ s.gateway.store.ledger, ∃ event ∈ s.recorded, Enters number entry event
  reported : ∀ event ∈ s.reported, s.Accounted event

variable {number : String → Option Int} {s s' : SpendRun} {request : PageRequest} {answer : PageAnswer}
  {event : AttributedSpendEvent}

theorem FeedKept.seq_le (h : s.FeedKept) (member : event ∈ s.current) :
    1 ≤ event.seq ∧ event.seq ≤ s.feed.db.lastSeq := by
  have listed : event.seq ∈ s.current.map seq := mem_map_of_mem member
  rw [h.numbered, mem_range'_1] at listed
  omega

theorem FeedKept.ordered (h : s.FeedKept) : s.current.Pairwise fun event later => event.seq < later.seq := by
  have sorted : (s.current.map seq).Pairwise (· < ·) := by
    rw [h.numbered]
    exact pairwise_lt_range'
  exact pairwise_map.mp sorted

theorem FeedKept.waiting_length (h : s.FeedKept) : s.waiting.length = s.feed.db.lastSeq - s.read := by
  have seqs : (s.waiting.map seq) = (range' 1 s.feed.db.lastSeq).filter (s.read < ·) := by
    rw [← h.numbered, List.filter_map]
    rfl
  have lengths := congrArg length seqs
  rw [length_map, length_filter_range'] at lengths
  exact lengths

theorem FeedKept.fresh (h : s.FeedKept) (retained : s.Retained) (member : event ∈ s.current)
    (unread : s.read < event.seq) : s.feed.db.expired s.now event = false := by
  have recent := h.recent event member unread
  have few := h.waiting_length ▸ retained.2
  have inTime := retained.1
  have acked := h.acked
  unfold FeedDatabase.expired
  rw [decide_eq_false_iff_not]
  rintro (old | old | many)
  · omega
  · omega
  · omega

theorem Covered.mono (h : s.Covered request) (same : s'.feed.db.feedId = s.feed.db.feedId) (read : s.read ≤ s'.read)
    (ids : s'.feedIds = s.feedIds) : s'.Covered request where
  fresh := h.fresh
  same isSame := (h.same (same ▸ isSame)).trans read
  listed := ids ▸ h.listed

theorem Answered.mono (h : s.Answered request answer) (ids : ∀ id ∈ s.feedIds, id ∈ s'.feedIds)
    (recorded : ∀ event ∈ s.recorded, event ∈ s'.recorded) (accounted : ∀ event, s.Accounted event → s'.Accounted event)
    (now : s.now ≤ s'.now)
    (current : ∀ event ∈ s'.current, s'.read < event.seq →
      event ∈ s.current ∧ s.read < event.seq ∧ s'.feed.db.feedId = s.feed.db.feedId ∨
        answer.answeredAt ≤ event.createdAt ∧ (answer.page.bootId = s'.feed.db.feedId →
          ∀ last ∈ answer.page.events, last.seq < event.seq)) : s'.Answered request answer where
  listed := ids _ h.listed
  cursor := h.cursor
  recorded event member := recorded _ (h.recorded event member)
  ordered := h.ordered
  whole matches_ same event member unread last ofPage le := by
    rcases current event member unread with ⟨before, unread, sameFeed⟩ | ⟨-, later⟩
    · exact h.whole matches_ (same.trans sameFeed) event before unread last ofPage le
    · exact absurd (later same last ofPage) (not_lt.mpr le)
  finished matches_ empty := by
    obtain ⟨known, recent⟩ := h.finished matches_ empty
    refine ⟨fun event member => accounted event (known event member), fun event member unread => ?_⟩
    rcases current event member unread with ⟨before, unread, -⟩ | ⟨recent, -⟩
    · exact recent event before unread
    · exact recent
  past := h.past.trans now

theorem Cursors.mono (h : s.Cursors) (poller : s'.poller = s.poller) (abandoned : s'.abandoned = s.abandoned)
    (inFlight : s'.inFlight = s.inFlight) (covered : ∀ request, s.Covered request → s'.Covered request)
    (answered : ∀ request answer, s.Answered request answer → s'.Answered request answer) : s'.Cursors where
  poller := poller ▸ covered _ h.poller
  abandoned request member := covered request (h.abandoned request (abandoned ▸ member))
  inFlight sent member := by
    obtain ⟨asked, given⟩ := h.inFlight sent (inFlight ▸ member)
    exact ⟨poller ▸ asked, fun answer isAnswer => answered _ answer (given answer isAnswer)⟩

/-- The whole invariant. -/
structure Kept (number : String → Option Int) (s : SpendRun) : Prop where
  feed : s.FeedKept
  cursors : s.Cursors
  books : s.Books number

/-! ## Steps of the buyer -/

variable {feed : SpendAttributionFeed} {events taken : List AttributedSpendEvent}
  {gateway : GatewayAccounting} {page : AttributedSpendPage} {poller : SpendFeedPoller}

theorem Kept.withFeed (h : s.Kept number) (same : feed.db.feedId = s.feed.db.feedId)
    (kept : FeedKept { s with feed }) : Kept number { s with feed } := by
  have recorded : ∀ event ∈ s.recorded, event ∈ ({ s with feed } : SpendRun).recorded := by
    intro event member
    unfold recorded at member ⊢
    rw [same]
    exact member
  exact {
    feed := kept
    cursors := h.cursors.mono rfl rfl rfl (fun _ covered => covered.mono same le_rfl rfl) fun _ _ answered =>
      answered.mono (fun _ member => member) recorded (fun _ accounted => accounted) le_rfl
        fun event member unread => .inl ⟨member, unread, same⟩
    books := {
      earlier := h.books.earlier
      current := by
        intro event member read
        have accounted := h.books.current event member read
        rw [← same] at accounted
        exact accounted
      distinct := h.books.distinct
      origin := by
        intro entry member
        obtain ⟨event, here, enters⟩ := h.books.origin entry member
        exact ⟨event, recorded event here, enters⟩
      reported := h.books.reported } }

theorem FeedKept.pruned (h : s.FeedKept) (retained : s.Retained) (isOpen : feed.isOpen = true)
    (prunes : Prunes s.now s.feed.db feed.db) : FeedKept { s with feed } where
  isOpen := isOpen
  numbered := h.numbered.trans (by dsimp only; rw [prunes.lastSeq])
  stored := prunes.sublist.trans h.stored
  unread event member unread := prunes.kept event (h.unread event member unread) (h.fresh retained member unread)
  recent := h.recent
  past := h.past
  readLe := h.readLe.trans_eq prunes.lastSeq.symm
  acked := prunes.ackedSeq.trans_le h.acked
  listed := prunes.feedId ▸ h.listed
  others := prunes.feedId ▸ h.others

theorem FeedKept.mem_recorded (h : s.FeedKept) (member : (s.feed.db.feedId, event) ∈ s.recorded) : event ∈ s.current := by
  cases mem_append.mp member with
  | inl earlier => exact absurd rfl (h.others _ earlier).2
  | inr here =>
    obtain ⟨other, member, same⟩ := mem_map.mp here
    exact (Prod.mk.inj same).2 ▸ member

theorem Kept.added (h : s.Kept number) (retained : s.Retained) (isOpen : feed.isOpen = true)
    (adds : Adds s.now s.feed.db feed.db event) :
    Kept number { s with feed, current := s.current ++ [event] } := by
  obtain ⟨kept, prunes, events⟩ := adds.events
  have recorded : ∀ other ∈ s.recorded, other ∈ ({ s with feed, current := s.current ++ [event] } : SpendRun).recorded := by
    intro other member
    unfold recorded at member ⊢
    dsimp only
    rw [adds.feedId, map_append]
    cases mem_append.mp member with
    | inl earlier => exact mem_append_left _ earlier
    | inr here => exact mem_append_right _ (mem_append_left _ here)
  exact {
    feed := {
      isOpen
      numbered := by
        rw [map_append, h.feed.numbered, adds.lastSeq, range'_concat, map_singleton, adds.seq]
        simp [Nat.add_comm]
      stored := by
        rw [events]
        exact (prunes.sublist.trans h.feed.stored).append (List.Sublist.refl _)
      unread := by
        intro other member unread
        rw [events]
        cases mem_append.mp member with
        | inl before =>
          have stored := h.feed.unread other before unread
          exact mem_append_left _ (prunes.kept other stored (h.feed.fresh retained before unread))
        | inr new => exact mem_append_right _ new
      recent := by
        intro other member unread
        cases mem_append.mp member with
        | inl before => exact h.feed.recent other before unread
        | inr new =>
          rw [mem_singleton.mp new, adds.createdAt]
          exact h.feed.past
      past := h.feed.past
      readLe := h.feed.readLe.trans (by dsimp only; rw [adds.lastSeq]; exact Nat.le_succ _)
      acked := adds.ackedSeq.trans_le h.feed.acked
      listed := adds.feedId ▸ h.feed.listed
      others := adds.feedId ▸ h.feed.others }
    cursors := by
      refine h.cursors.mono rfl rfl rfl (fun _ covered => covered.mono adds.feedId le_rfl rfl) fun _ answer known => ?_
      refine known.mono (fun _ member => member) recorded (fun _ accounted => accounted) le_rfl ?_
      intro other member unread
      cases mem_append.mp member with
      | inl before => exact .inl ⟨before, unread, adds.feedId⟩
      | inr new =>
        rw [mem_singleton.mp new]
        refine .inr ⟨known.past.trans_eq adds.createdAt.symm, fun same last ofPage => ?_⟩
        have here := same.trans adds.feedId ▸ known.recorded last ofPage
        have le := (h.feed.seq_le (h.feed.mem_recorded here)).2
        rw [adds.seq]
        exact Nat.lt_succ_of_le le
    books := {
      earlier := h.books.earlier
      current := by
        intro other member read
        cases mem_append.mp member with
        | inl before =>
          have accounted := h.books.current other before read
          rw [← adds.feedId] at accounted
          exact accounted
        | inr new =>
          rw [mem_singleton.mp new, adds.seq] at read
          exact absurd h.feed.readLe (not_le.mpr read)
      distinct := h.books.distinct
      origin := by
        intro entry member
        obtain ⟨other, here, enters⟩ := h.books.origin entry member
        exact ⟨other, recorded other here, enters⟩
      reported := h.books.reported } }

theorem Kept.recording (h : s.Kept number) (retained : s.Retained) (spend : Spend) : Kept number (s.record spend) := by
  have old : ∀ events : List AttributedSpendEvent, events.Sublist s.current →
      events.filter (s.feed.db.lastSeq < ·.seq) = [] := by
    intro events sublist
    rw [filter_eq_nil_iff]
    intro event member
    simpa using (h.feed.seq_le (sublist.subset member)).2
  obtain ⟨isOpen, same | ⟨event, adds⟩⟩ := @SpendAttributionFeed.record_cases s.feed s.now h.feed.isOpen spend
  · have prunes : Prunes s.now s.feed.db (s.feed.record s.now spend).db := by
      rw [same]
      exact ⟨rfl, rfl, rfl, List.Sublist.refl _, fun _ member _ => member⟩
    have kept := h.withFeed prunes.feedId (h.feed.pruned retained isOpen prunes)
    have nothing : s.record spend = { s with feed := s.feed.record s.now spend } := by
      unfold record
      dsimp only
      rw [same, old _ h.feed.stored, append_nil]
    rw [nothing]
    exact kept
  · obtain ⟨kept, prunes, events⟩ := adds.events
    have one : s.record spend = { s with feed := s.feed.record s.now spend, current := s.current ++ [event] } := by
      have beyond : s.feed.db.lastSeq < event.seq := by
        rw [adds.seq]
        exact Nat.lt_succ_self _
      unfold record
      dsimp only
      rw [events, filter_append, old _ (prunes.sublist.trans h.feed.stored), nil_append,
        filter_cons_of_pos (by simpa using beyond), filter_nil]
    rw [one]
    exact h.added retained isOpen adds

theorem Kept.replaced (h : s.Kept number) (new : feedId ∉ s.feedIds) (read : s.waiting = []) :
    Kept number { s with
      feed := .construct s.now { feedId }
      feedIds := feedId :: s.feedIds
      earlier := s.recorded
      current := []
      read := 0 } := by
  have prunes := prunes_prune { db := { feedId } } s.now
  have isOpen := isOpen_prune { db := { feedId } } s.now
  have accounted : ∀ event ∈ s.recorded, s.Accounted event := by
    intro event member
    cases mem_append.mp member with
    | inl earlier => exact h.books.earlier event earlier
    | inr here =>
      obtain ⟨other, member, same⟩ := mem_map.mp here
      rw [← same]
      refine h.books.current other member (not_lt.mp fun unread => ?_)
      have waits : other ∈ s.waiting := mem_filter.mpr ⟨member, by simpa using unread⟩
      rw [read] at waits
      cases waits
  have covered : ∀ request, s.Covered request → ({ s with
      feed := .construct s.now { feedId }, feedIds := feedId :: s.feedIds, earlier := s.recorded, current := []
      read := 0 } : SpendRun).Covered request := by
    intro request covered
    refine ⟨covered.fresh, fun same => ?_, fun id isId => mem_cons_of_mem _ (covered.listed id isId)⟩
    have feedOf : request.bootId = some feedId := same.trans (congrArg some prunes.feedId)
    exact absurd (covered.listed feedId feedOf) new
  have none : ∀ event : AttributedSpendEvent, event ∉ ([] : List AttributedSpendEvent) := fun _ => not_mem_nil
  exact {
    feed := {
      isOpen
      numbered := by
        rw [show (construct s.now { feedId }).db.lastSeq = 0 from prunes.lastSeq]
        rfl
      stored := prunes.sublist
      unread := fun event member => absurd member (none event)
      recent := fun event member => absurd member (none event)
      past := h.feed.past
      readLe := Nat.zero_le _
      acked := prunes.ackedSeq.le
      listed := by
        rw [show (construct s.now { feedId }).db.feedId = feedId from prunes.feedId]
        exact mem_cons_self
      others := by
        intro event member
        have known : event.1 ∈ s.feedIds := by
          cases mem_append.mp member with
          | inl earlier => exact (h.feed.others event earlier).1
          | inr here =>
            obtain ⟨_, _, same⟩ := mem_map.mp here
            exact same ▸ h.feed.listed
        refine ⟨mem_cons_of_mem _ known, fun same => new ?_⟩
        rw [← show event.1 = feedId from same.trans prunes.feedId]
        exact known }
    cursors := h.cursors.mono rfl rfl rfl covered fun _ _ answered =>
      answered.mono (fun _ => mem_cons_of_mem _) (fun _ => mem_append_left _)
        (fun _ accounted => accounted) le_rfl fun event member => absurd member (none event)
    books := {
      earlier := accounted
      current := fun event member => absurd member (none event)
      distinct := h.books.distinct
      origin := by
        intro entry member
        obtain ⟨event, here, enters⟩ := h.books.origin entry member
        exact ⟨event, mem_append_left _ here, enters⟩
      reported := h.books.reported } }

theorem FeedKept.paged (h : s.FeedKept) (covered : s.Covered request) (sound : s.Sound request) :
    FeedKept { s with feed := (s.feed.page request.after true).1 } := by
  obtain ⟨isOpen, feedId, lastSeq, events, acked, -⟩ := page_frame h.isOpen request.after
  exact {
    isOpen
    numbered := h.numbered.trans (by dsimp only; rw [lastSeq])
    stored := by
      rw [events]
      exact h.stored
    unread := by
      rw [events]
      exact h.unread
    recent := h.recent
    past := h.past
    readLe := h.readLe.trans_eq lastSeq.symm
    acked := by
      rcases acked with before | ⟨now, positive, handedOut⟩
      · exact before.trans h.acked
      · rcases sound with same | before | beyond
        · exact now.trans_le (covered.same same)
        · exact now.trans_le before
        · omega
    listed := feedId ▸ h.listed
    others := feedId ▸ h.others }

theorem mem_take_of_le
    (ordered : events.Pairwise fun event later => event.seq < later.seq) (member : event ∈ events)
    (taken : last ∈ events.take n) (le : event.seq ≤ last.seq) :
    event ∈ events.take n := by
  rw [← take_append_drop n events] at ordered member
  cases mem_append.mp member with
  | inl here => exact here
  | inr later => exact absurd ((pairwise_append.mp ordered).2.2 last taken event later) (not_lt.mpr le)

theorem Kept.answered (h : s.Kept number) (covered : s.Covered request) :
    s.Answered request ⟨(s.feed.page request.after true).2, s.now, s.recorded⟩ := by
  obtain ⟨-, -, -, -, -, bootId, events, cursor⟩ := page_frame h.feed.isOpen request.after
  generalize (s.feed.page request.after true).2 = page at bootId events cursor
  have sublist : page.events.Sublist s.current := by
    rw [events]
    exact (take_sublist _ _).trans (filter_sublist.trans h.feed.stored)
  -- what is unread is beyond the cursor
  have beyond : request.after = 0 ∨ request.bootId = some page.bootId → ∀ event ∈ s.current, s.read < event.seq →
      event ∈ s.feed.db.events.filter (cursorIn request.after < ·.seq) := by
    intro matches_ event member unread
    have cursorLe : cursorIn request.after ≤ s.read := by
      have le : cursorIn request.after ≤ request.after := by
        unfold cursorIn
        split <;> simp
      rcases matches_ with zero | same
      · omega
      · exact le.trans (covered.same (same.trans (congrArg some bootId)))
    exact mem_filter.mpr ⟨h.feed.unread event member unread, by simpa using cursorLe.trans_lt unread⟩
  have ordered : (s.feed.db.events.filter (cursorIn request.after < ·.seq)).Pairwise
      fun event later => event.seq < later.seq :=
    h.feed.ordered.sublist (filter_sublist.trans h.feed.stored)
  exact {
    listed := bootId ▸ h.feed.listed
    cursor
    recorded := by
      intro event member
      rw [bootId]
      exact mem_append_right _ (mem_map_of_mem (sublist.subset member))
    ordered := h.feed.ordered.sublist sublist
    whole := by
      intro matches_ _ event member unread last ofPage le
      rw [events] at ofPage ⊢
      exact mem_take_of_le ordered (beyond matches_ event member unread) ofPage le
    finished := by
      intro matches_ empty
      have nothing : ∀ event ∈ s.current, ¬ s.read < event.seq := by
        intro event member unread
        have stored := beyond matches_ event member unread
        rw [events, take_eq_nil_iff] at empty
        rcases empty with limit | none
        · cases limit
        · rw [none] at stored
          cases stored
      refine ⟨fun event member => ?_, fun event member unread => absurd unread (nothing event member)⟩
      cases mem_append.mp member with
      | inl earlier => exact h.books.earlier event earlier
      | inr here =>
        obtain ⟨other, member, same⟩ := mem_map.mp here
        rw [← same]
        exact h.books.current other member (not_lt.mp (nothing other member))
    past := le_rfl }

theorem Kept.withGateway (h : s.Kept number) (same : gateway.store.ledger = s.gateway.store.ledger) :
    Kept number { s with gateway } := by
  have accounted : ∀ event, s.Accounted event → ({ s with gateway } : SpendRun).Accounted event := by
    intro event accounted
    unfold Accounted at accounted ⊢
    dsimp only
    rw [same]
    exact accounted
  exact {
    feed := { h.feed with }
    cursors := h.cursors.mono rfl rfl rfl (fun _ covered => { covered with }) fun _ _ answered =>
      answered.mono (fun _ member => member) (fun _ member => member) accounted le_rfl
        fun event member unread => .inl ⟨member, unread, rfl⟩
    books := {
      earlier := fun event member => accounted event (h.books.earlier event member)
      current := fun event member read => accounted _ (h.books.current event member read)
      distinct := by
        rw [same]
        exact h.books.distinct
      origin := by
        intro entry member
        rw [same] at member
        exact h.books.origin entry member
      reported := fun event member => accounted event (h.books.reported event member) } }

theorem Kept.gaveUp (h : s.Kept number) (poller : SpendFeedPoller) (same : s.Covered ⟨poller.bootId, poller.after⟩) :
    Kept number { s.giveUp with poller } where
  feed := { h.feed with }
  cursors := {
    poller := { same with }
    abandoned := by
      intro request member
      cases mem_append.mp member with
      | inr before => exact { h.cursors.abandoned request before with }
      | inl now =>
        obtain ⟨sent, isSent, isRequest⟩ := Option.map_eq_some_iff.mp (Option.mem_toList.mp now)
        have covered : s.Covered sent.1 := (h.cursors.inFlight sent isSent).1 ▸ h.cursors.poller
        exact { isRequest ▸ covered with }
    inFlight := by
      intro sent member
      cases member }
  books := { h.books with }

/-! ## Steps of the gateway -/

theorem le_foldl_max {read n : Nat} :
    n ≤ events.foldl (fun read event => max read event.seq) read ↔ n ≤ read ∨ ∃ event ∈ events, n ≤ event.seq := by
  induction events generalizing read with
  | nil => simp
  | cons event events ih => simp [ih, or_assoc]

def readAfter (s : SpendRun) (page : AttributedSpendPage) (taken : List AttributedSpendEvent) : Nat :=
  if page.bootId = s.feed.db.feedId then taken.foldl (fun read event => max read event.seq) s.read else s.read

theorem le_readAfter {n : Nat} :
    n ≤ s.readAfter page taken ↔ n ≤ s.read ∨ page.bootId = s.feed.db.feedId ∧ ∃ event ∈ taken, n ≤ event.seq := by
  unfold readAfter
  split
  next same => simp [le_foldl_max, same]
  next other => simp [other]

/-- The state after a page was taken in, up to the poll that it completes. -/
def took (s : SpendRun) (request : PageRequest) (page : AttributedSpendPage) (taken : List AttributedSpendEvent)
    (gateway : GatewayAccounting) (poller : SpendFeedPoller) : SpendRun :=
  { s with
    gateway, poller
    inFlight := none
    abandoned := request :: s.abandoned
    read := s.readAfter page taken
    unlogged := (taken.filter fun event => ¬ isLogged s.gateway.store event).map (fun event => (page.bootId, event.seq)) ++
      s.unlogged }

theorem Kept.took (h : s.Kept number) (covered : s.Covered request) (right : s.Answered request answer)
    (matches_ : request.after = 0 ∨ request.bootId = some answer.page.bootId)
    (part : taken <+: answer.page.events)
    (enters : Entered number answer.page.bootId s.gateway gateway answer.page.events taken)
    (cursor : poller.bootId = some answer.page.bootId ∧
      (poller.after = request.after ∨ poller.after = answer.page.cursor ∧ taken = answer.page.events)) :
    Kept number (s.took request answer.page taken gateway poller) ∧
      ∀ event, s.Accounted event → (s.took request answer.page taken gateway poller).Accounted event := by
  have grows : s.read ≤ s.readAfter answer.page taken := le_readAfter.mpr (.inl le_rfl)
  have mono : ∀ event, s.Accounted event → (s.took request answer.page taken gateway poller).Accounted event := by
    intro event accounted
    refine accounted.imp ?_ fun member => mem_append_right _ member
    rintro ⟨entry, here, isRef⟩
    exact ⟨entry, enters.kept entry here, isRef⟩
  have now : ∀ event ∈ taken,
      (s.took request answer.page taken gateway poller).Accounted (answer.page.bootId, event) := by
    intro event member
    cases logged : isLogged s.gateway.store event with
    | true => exact .inl (enters.there event member logged)
    | false =>
      refine .inr (mem_append_left _ (mem_map.mpr ⟨event, mem_filter.mpr ⟨member, ?_⟩, rfl⟩))
      simp [logged]
  have upTo : ∀ event ∈ s.current, event.seq ≤ s.readAfter answer.page taken →
      (s.took request answer.page taken gateway poller).Accounted (s.feed.db.feedId, event) := by
    intro event member le
    by_cases before : event.seq ≤ s.read
    · exact mono _ (h.books.current event member before)
    · obtain ⟨same, last, isTaken, le⟩ := (le_readAfter.mp le).resolve_left before
      -- the page has the event, and so has what was taken of it
      have ofPage := right.whole matches_ same event member (not_le.mp before) last (part.subset isTaken) le
      obtain ⟨rest, page⟩ := part
      rw [← page] at ofPage
      have ordered := page ▸ right.ordered
      rw [← same]
      cases mem_append.mp ofPage with
      | inl here => exact now event here
      | inr later => exact absurd ((pairwise_append.mp ordered).2.2 last isTaken event later) (not_lt.mpr le)
  have coveredThen : ∀ request', s.Covered request' →
      (s.took request answer.page taken gateway poller).Covered request' :=
    fun request' covered => covered.mono rfl grows rfl
  refine ⟨⟨?_, ?_, ?_⟩, mono⟩
  · exact { h.feed with
      unread := fun event member unread => h.feed.unread event member (grows.trans_lt unread)
      recent := fun event member unread => h.feed.recent event member (grows.trans_lt unread)
      readLe := by
        rcases le_readAfter.mp (le_refl (s.readAfter answer.page taken)) with before | ⟨same, last, isTaken, le⟩
        · exact before.trans h.feed.readLe
        · have here := same ▸ right.recorded last (part.subset isTaken)
          exact le.trans (h.feed.seq_le (h.feed.mem_recorded here)).2
      acked := h.feed.acked.trans grows }
  · refine { poller := ⟨fun none => ?_, fun same => ?_, fun id isId => ?_⟩, abandoned := ?_, inFlight := ?_ }
    · cases cursor.1.symm.trans none
    · have sameFeed : answer.page.bootId = s.feed.db.feedId := Option.some.inj (cursor.1.symm.trans same)
      change poller.after ≤ s.readAfter answer.page taken
      rcases cursor.2 with stays | ⟨goesOn, whole⟩
      · rw [stays]
        rcases matches_ with zero | ofPage
        · omega
        · exact (covered.same (ofPage.trans (congrArg some sameFeed))).trans grows
      · rw [goesOn, right.cursor]
        cases lastEvent : answer.page.events.getLast? with
        | none =>
          have le : cursorIn request.after ≤ request.after := by
            unfold cursorIn
            split <;> simp
          rcases matches_ with zero | ofPage
          · exact le.trans (zero ▸ Nat.zero_le _)
          · exact le.trans ((covered.same (ofPage.trans (congrArg some sameFeed))).trans grows)
        | some last =>
          have member : last ∈ taken := whole ▸ mem_of_getLast? lastEvent
          exact le_readAfter.mpr (.inr ⟨sameFeed, last, member, le_rfl⟩)
    · have isPage : id = answer.page.bootId := Option.some.inj ((Option.mem_def.mp isId).symm.trans cursor.1)
      exact isPage ▸ right.listed
    · intro request' member
      cases mem_cons.mp member with
      | inl same => exact same ▸ coveredThen request covered
      | inr before => exact coveredThen request' (h.cursors.abandoned request' before)
    · intro sent member
      cases member
  · exact {
      earlier := fun event member => mono event (h.books.earlier event member)
      current := upTo
      distinct := enters.distinct h.books.distinct
      origin := by
        intro entry member
        rcases enters.added entry member with before | ⟨event, ofPage, isEntry⟩
        · exact h.books.origin entry before
        · exact ⟨_, right.recorded event ofPage, isEntry⟩
      reported := fun event member => mono event (h.books.reported event member) }

theorem Kept.completed (h : s.Kept number) (past : answer.answeredAt ≤ s.now)
    (known : ∀ event ∈ answer.known, s.Accounted event)
    (recent : ∀ event ∈ s.current, s.read < event.seq → answer.answeredAt ≤ event.createdAt) :
    Kept number { s with reportedAt := answer.answeredAt, reported := answer.known } where
  feed := { h.feed with recent, past }
  cursors := h.cursors.mono rfl rfl rfl (fun _ covered => { covered with }) fun _ _ answered => { answered with }
  books := { h.books with reported := known }

theorem changed_eq_false :
    poller.changed page = false ↔ poller.bootId = some page.bootId ∨ poller.bootId = none ∧ poller.after = 0 := by
  unfold changed
  rw [decide_eq_false_iff_not]
  cases poller.bootId with
  | none | some => simp

theorem receive_changed (other : s.poller.changed answer.page = true) :
    ∃ poller : SpendFeedPoller, poller.bootId = some answer.page.bootId ∧ poller.after = 0 ∧
      s.receive number request answer =
        { s with poller, inFlight := none, abandoned := request :: s.abandoned } := by
  have reports : (s.poller.report answer.page).changed answer.page = true := other
  refine ⟨{ s.poller.report answer.page with bootId := some answer.page.bootId, after := 0 }, rfl, rfl, ?_⟩
  have idle : (s.takeIn number answer.page).complete answer = s := by
    unfold takeIn
    rw [if_pos other]
    unfold complete
    rw [if_neg fun both => both.1 other]
  unfold receive SpendFeedPoller.receive
  dsimp only
  rw [idle, if_pos reports]

theorem receive_unchanged (same : s.poller.changed answer.page = false) :
    ∃ poller : SpendFeedPoller, poller.bootId = some answer.page.bootId ∧
      (poller.after = s.poller.after ∨ poller.after = answer.page.cursor ∧
        (ingest number answer.page.bootId s.gateway answer.page.events).2 = true) ∧
      s.receive number request answer =
        let next := s.took request answer.page (takenIn number answer.page.bootId s.gateway answer.page.events)
          (ingest number answer.page.bootId s.gateway answer.page.events).1 poller
        if answer.page.events = [] then { next with reportedAt := answer.answeredAt, reported := answer.known }
        else next := by
  have reports : ¬ (s.poller.report answer.page).changed answer.page = true := ne_true_of_eq_false same
  have received : ∃ poller : SpendFeedPoller, poller.bootId = some answer.page.bootId ∧
      (poller.after = s.poller.after ∨ poller.after = answer.page.cursor ∧
        (ingest number answer.page.bootId s.gateway answer.page.events).2 = true) ∧
      s.poller.receive number s.gateway answer.page =
        (poller, (ingest number answer.page.bootId s.gateway answer.page.events).1) := by
    unfold SpendFeedPoller.receive
    dsimp only
    rw [if_neg reports]
    cases ingested : ingest number answer.page.bootId s.gateway answer.page.events with
    | mk gateway done =>
      cases done with
      | true =>
        exact ⟨⟨some answer.page.bootId, answer.page.cursor, _, _⟩, rfl, .inr ⟨rfl, rfl⟩, rfl⟩
      | false =>
        exact ⟨⟨some answer.page.bootId, s.poller.after, _, _⟩, rfl, .inl rfl, rfl⟩
  obtain ⟨poller, bootId, after, result⟩ := received
  refine ⟨poller, bootId, after, ?_⟩
  unfold receive takeIn complete
  rw [result, if_neg (ne_true_of_eq_false same)]
  by_cases empty : answer.page.events = []
  · rw [if_pos empty, if_pos ⟨ne_true_of_eq_false same, empty⟩]
    rfl
  · rw [if_neg empty, if_neg fun both => empty both.2]
    rfl

theorem Kept.received (h : s.Kept number) (sent : s.inFlight = some (request, some answer)) :
    Kept number (s.receive number request answer) := by
  obtain ⟨isRequest, answered⟩ := h.cursors.inFlight (request, some answer) sent
  have isRequest : request = ⟨s.poller.bootId, s.poller.after⟩ := isRequest
  have right := answered answer rfl
  cases changed : s.poller.changed answer.page with
  | true =>
    obtain ⟨poller, bootId, after, result⟩ := @receive_changed number s request answer changed
    have gaveUp := h.gaveUp poller {
      fresh := fun _ => after
      same := fun _ => after.trans_le (Nat.zero_le _)
      listed := by
        intro id isId
        have isPage : id = answer.page.bootId := Option.some.inj ((Option.mem_def.mp isId).symm.trans bootId)
        exact isPage ▸ right.listed }
    unfold giveUp at gaveUp
    rw [sent] at gaveUp
    rw [result]
    exact gaveUp
  | false =>
    obtain ⟨poller, bootId, after, result⟩ := @receive_unchanged number s request answer changed
    have matches_ : request.after = 0 ∨ request.bootId = some answer.page.bootId := by
      rw [isRequest]
      exact (changed_eq_false.mp changed).elim .inr fun fresh => .inl fresh.2
    obtain ⟨enters, whole⟩ := @entered number answer.page.bootId s.gateway answer.page.events
    have goesOn : poller.after = request.after ∨ poller.after = answer.page.cursor ∧
        takenIn number answer.page.bootId s.gateway answer.page.events = answer.page.events := by
      rw [isRequest]
      exact after.imp id fun goesOn => ⟨goesOn.1, whole goesOn.2⟩
    obtain ⟨kept, mono⟩ := h.took (isRequest ▸ h.cursors.poller) right matches_ takenIn_isPart enters ⟨bootId, goesOn⟩
    rw [result]
    by_cases empty : answer.page.events = []
    · rw [if_pos empty]
      obtain ⟨known, recent⟩ := right.finished matches_ empty
      refine kept.completed right.past (fun event member => mono event (known event member)) ?_
      intro event member unread
      exact recent event member (lt_of_le_of_lt (le_readAfter.mpr (.inl le_rfl)) unread)
    · rw [if_neg empty]
      exact kept

theorem Kept.delivered (h : s.Kept number) (faults : Faults) : Kept number (s.deliver number faults) := by
  have faulty : Kept number { s with gateway.faults := faults } := h.withGateway rfl
  unfold deliver
  split
  next request answer sent => exact faulty.received sent
  · exact h

/-! ## Runs -/

theorem kept_begin (feedId : String) (now : Int) (keys : List ApiKeyRecord) : Kept number (begin feedId now keys) := by
  have prunes := prunes_prune { db := { feedId } } now
  have isOpen := isOpen_prune { db := { feedId } } now
  have empty : (begin feedId now keys).gateway.store.ledger = [] :=
    part_construct apart_ledger now { keys } {}
  exact {
    feed := {
      isOpen
      numbered := by
        rw [show (begin feedId now keys).feed.db.lastSeq = 0 from prunes.lastSeq]
        rfl
      stored := prunes.sublist
      unread := fun _ member => absurd member not_mem_nil
      recent := fun _ member => absurd member not_mem_nil
      past := le_refl now
      readLe := Nat.zero_le _
      acked := prunes.ackedSeq.le
      listed := mem_singleton.mpr prunes.feedId
      others := fun _ member => absurd member not_mem_nil }
    cursors := {
      poller := ⟨fun _ => rfl, fun _ => Nat.zero_le _, fun _ isId => absurd isId (Option.not_mem_none _)⟩
      abandoned := fun _ member => absurd member not_mem_nil
      inFlight := fun _ member => absurd member (Option.not_mem_none _) }
    books := {
      earlier := fun _ member => absurd member not_mem_nil
      current := fun _ member => absurd member not_mem_nil
      distinct := by
        rw [empty]
        exact nodup_nil
      origin := by
        rw [empty]
        exact fun _ member => absurd member not_mem_nil
      reported := fun _ member => absurd member not_mem_nil } }

section

variable (h : s.Kept number)

include h

theorem Kept.elapsed (milliseconds : Nat) : Kept number { s with now := s.now + milliseconds } := by
  have later : s.now ≤ s.now + milliseconds := by omega
  exact {
    feed := { h.feed with past := h.feed.past.trans later }
    cursors := h.cursors.mono rfl rfl rfl (fun _ covered => { covered with }) fun _ _ answered =>
      { answered with past := answered.past.trans later }
    books := { h.books with } }

theorem Kept.polled : Kept number s.sendPoll := by
  unfold sendPoll
  split
  · exact {
      feed := { h.feed with }
      cursors := {
        poller := { h.cursors.poller with }
        abandoned := fun request member => { h.cursors.abandoned request member with }
        inFlight := by
          intro sent member
          cases member
          exact ⟨rfl, fun _ given => absurd given (Option.not_mem_none _)⟩ }
      books := { h.books with } }
  · exact h

theorem Kept.paged (covered : s.Covered request) (sound : s.Sound request) :
    Kept number { s with feed := (s.feed.page request.after true).1 } :=
  h.withFeed (page_frame h.feed.isOpen request.after).2.1 (h.feed.paged covered sound)

theorem Kept.answering (same : s.SameFeed .answer) : Kept number s.answerPoll := by
  unfold answerPoll
  split
  next request sent =>
    obtain ⟨asked, -⟩ := h.cursors.inFlight (request, none) sent
    have covered : s.Covered request := (show request = _ from asked) ▸ h.cursors.poller
    have feedId := (page_frame h.feed.isOpen request.after).2.1
    have paged := h.paged covered (same (request, none) sent rfl)
    have right : ({ s with feed := (s.feed.page request.after true).1 } : SpendRun).Answered request
        ⟨(s.feed.page request.after true).2, s.now, s.recorded⟩ := by
      refine (h.answered covered).mono (fun _ member => member) (fun event member => ?_) (fun _ accounted => accounted)
        le_rfl fun event member unread => .inl ⟨member, unread, feedId⟩
      unfold recorded at member ⊢
      dsimp only
      rw [feedId]
      exact member
    exact {
      feed := { paged.feed with }
      cursors := {
        poller := { paged.cursors.poller with }
        abandoned := fun request member => { paged.cursors.abandoned request member with }
        inFlight := by
          intro sent member
          cases member
          refine ⟨asked, fun answer given => ?_⟩
          cases given
          exact { right with } }
      books := { paged.books with } }
  · exact h

theorem Kept.apply {call : SpendCall} (provided : s.Provided call) (same : s.SameFeed call) :
    Kept number (s.apply number call) := by
  cases call with
  | elapse milliseconds => exact h.elapsed milliseconds
  | track requestId tag purpose =>
    obtain ⟨isOpen, prunes⟩ := @SpendAttributionFeed.track_frame s.feed s.now h.feed.isOpen requestId tag purpose
    exact h.withFeed prunes.feedId (h.feed.pruned provided isOpen prunes)
  | record spend => exact h.recording provided spend
  | restart =>
    have prunes := prunes_prune { db := s.feed.db } s.now
    have isOpen := isOpen_prune { db := s.feed.db } s.now
    exact h.withFeed prunes.feedId (h.feed.pruned provided isOpen { prunes with })
  | replace => exact h.replaced provided.1 provided.2
  | startRequest | pruneRequests => exact h.withGateway rfl
  | poll => exact h.polled
  | answer => exact h.answering same
  | answerLate request =>
    unfold SpendRun.apply
    dsimp only
    split
    next member => exact h.paged (h.cursors.abandoned request member) (same member)
    · exact h
  | deliver faults => exact h.delivered faults
  | fail failure =>
    have cursor : (s.poller.fail failure).bootId = s.poller.bootId ∧ (s.poller.fail failure).after = s.poller.after := by
      unfold fail
      split
      · exact ⟨rfl, rfl⟩
      · split
        · exact ⟨rfl, rfl⟩
        · split <;> exact ⟨rfl, rfl⟩
      · exact ⟨rfl, rfl⟩
    exact h.gaveUp _ (by rw [cursor.1, cursor.2]; exact h.cursors.poller)
  | restartGateway =>
    have fresh : s.Covered ⟨none, 0⟩ :=
      ⟨fun _ => rfl, fun _ => Nat.zero_le _, fun _ isId => absurd isId (Option.not_mem_none _)⟩
    exact (h.gaveUp {} fresh).withGateway (part_construct apart_ledger _ _ _)

end

/-- What was recorded is in the ledger once, or waits in the file, or had no request in the gateway's log when it was
    read. Nothing was acknowledged before, everything has been entered that a completed poll could know of,
    and nothing else is in the ledger. -/
structure EnteredOnce (number : String → Option Int) (s : SpendRun) : Prop where
  once : ∀ event ∈ s.recorded, s.entries event ≤ 1
  kept : ∀ event ∈ s.recorded, s.entries event = 1 ∨ (event.1, event.2.seq) ∈ s.unlogged ∨
    event.1 = s.feed.db.feedId ∧ event.2 ∈ s.waiting ∧ event.2 ∈ s.feed.db.events
  acknowledged : ∀ event ∈ s.acknowledged,
    s.entries (s.feed.db.feedId, event) = 1 ∨ (s.feed.db.feedId, event.seq) ∈ s.unlogged
  reported : ∀ event ∈ s.reported, s.entries event = 1 ∨ (event.1, event.2.seq) ∈ s.unlogged
  origin : ∀ entry ∈ s.gateway.store.ledger, ∃ event ∈ s.recorded, Enters number entry event

theorem Kept.enteredOnce (h : s.Kept number) : s.EnteredOnce number := by
  have once : ∀ event, s.entries event ≤ 1 := by
    intro event
    have count := nodup_iff_count_le_one.mp h.books.distinct (spendRef event.1 event.2.seq)
    rw [List.count, List.countP_map] at count
    exact count
  have settled : ∀ event, s.Accounted event → s.entries event = 1 ∨ (event.1, event.2.seq) ∈ s.unlogged := by
    intro event accounted
    refine accounted.imp_left fun ⟨entry, member, isRef⟩ => ?_
    have some_ : 0 < s.entries event := countP_pos_iff.mpr ⟨entry, member, by simpa using isRef⟩
    exact Nat.le_antisymm (once event) some_
  exact {
    once := fun event _ => once event
    kept := by
      intro event member
      cases mem_append.mp member with
      | inl earlier => exact (settled event (h.books.earlier event earlier)).imp_right .inl
      | inr here =>
        obtain ⟨other, member, same⟩ := mem_map.mp here
        rw [← same]
        by_cases read : other.seq ≤ s.read
        · exact (settled _ (h.books.current other member read)).imp_right .inl
        · have unread := not_le.mp read
          have waits : other ∈ s.waiting := mem_filter.mpr ⟨member, by simpa using unread⟩
          exact .inr (.inr ⟨rfl, waits, h.feed.unread other member unread⟩)
    acknowledged := by
      intro event acknowledged
      obtain ⟨member, acked⟩ := mem_filter.mp acknowledged
      have read : event.seq ≤ s.read := (by simpa using acked : event.seq ≤ s.feed.db.ackedSeq).trans h.feed.acked
      exact settled _ (h.books.current event member read)
    reported := fun event member => settled event (h.books.reported event member)
    origin := h.books.origin }

/-- Whatever the buyer and the gateway do in whatever order, with polls often enough and no feed replaced
    before it was read: as long as no poll reaches a feed with a cursor of another that is ahead of what was
    read, spend is entered exactly once, and nothing is acknowledged before. -/
theorem spend_is_entered_once (number : String → Option Int) (feedId : String) (now : Int) (keys : List ApiKeyRecord)
    {calls : List SpendCall}
    (along : (spendMachine number).Along (fun s call => s.Provided call ∧ s.SameFeed call) (begin feedId now keys) calls) :
    ((spendMachine number).run (begin feedId now keys) calls).EnteredOnce number := by
  have preserved : ∀ s call s', s.Provided call ∧ s.SameFeed call → Kept number s →
      (spendMachine number).step s call = .ok s' → Kept number s' := by
    intro s call s' condition kept step
    cases step
    exact kept.apply condition.1 condition.2
  exact ((spendMachine number).run_invariant_along preserved (kept_begin feedId now keys) along).enteredOnce

/-- `Number` of a text of digits. -/
def ofDigits (text : String) : Option Int :=
  if text.toList.all Char.isDigit then some (text.toList.foldl (fun value char => 10 * value + (char.toNat - 48 : Nat)) 0)
  else none

/-- A request is logged, its spend recorded and read, and the file is replaced by a fresh one. -/
def readAndReplaced : List SpendCall :=
  let spend : Spend := ⟨some "r1", none, "seller", "5", "1", "0", "1", "0"⟩
  [.startRequest ⟨"a", "key", DEFAULT_BUYER_IDENTITY, "/v1/chat/completions", none, 0, none, none, none, none⟩,
    .track "r1" "a" none, .record spend, .poll, .answer, .deliver {}, .poll, .answer, .deliver {}, .replace "second"]

/-- The gateway finds that the feed is another one and reads it from its start. -/
theorem first_of_two_feeds_is_entered :
    ((spendMachine ofDigits).run (begin "first" 0 [])
      (readAndReplaced ++ [.poll, .answer, .deliver {}, .poll, .answer, .deliver {}])).EnteredOnce ofDigits :=
  spend_is_entered_once ofDigits "first" 0 [] (by decide +kernel)

/-- Spend of the fresh feed is recorded before the gateway polls it with the old cursor, and the answer is lost. -/
def acknowledgedUnread : List SpendCall :=
  readAndReplaced ++ [.track "r1" "a" none, .record ⟨some "r1", none, "seller", "7", "1", "0", "1", "0"⟩, .poll, .answer,
    .fail .unreachable]

/-- The poll has acknowledged what no one has read, so that it is deleted within the day and never entered. -/
theorem acknowledged_unread_is_lost :
    let calls := acknowledgedUnread ++ [.elapse 7200000, .track "r2" "a" none, .poll, .answer, .deliver {}, .poll, .answer,
      .deliver {}]
    let acked := (spendMachine ofDigits).run (begin "first" 0 []) acknowledgedUnread
    let s := (spendMachine ofDigits).run (begin "first" 0 []) calls
    (spendMachine ofDigits).Along Provided (begin "first" 0 []) calls ∧
      acked.acknowledged.map (fun event => acked.entries ("second", event)) = [0] ∧
      s.reported.map s.entries = [1, 0] ∧ s.unlogged = [] ∧ s.feed.db.events = [] := by
  decide +kernel

end SpendRun

end AntSeed.Gateway
