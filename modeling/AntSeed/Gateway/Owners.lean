import AntSeed.Gateway.SpendAttribution
import AntSeed.Lib.Machine

/-! # Whose spend it is

The rows of the file and the map of recent tags are a memory of what was tracked and stored.
What they have forgotten is too old to be asked for, so a spend is attributed by what was
tracked in the last hour and stored in the last five minutes.
-/

namespace AntSeed.Gateway

open SpendAttributionFeed List Keyed
open RequestTag

section Memory

variable {α : Type} {limit limit' : Int} {time : α → Int} {kept last : Option α}

/-- What is kept is the last, unless that is from before a limit and has been forgotten. -/
def Kept (limit : Int) (time : α → Int) (kept last : Option α) : Prop :=
  kept = last ∨ kept = none ∧ ∀ a ∈ last, time a < limit

theorem Kept.mono (h : Kept limit time kept last) (le : limit ≤ limit') : Kept limit' time kept last := by
  cases h with
  | inl same => exact .inl same
  | inr gone => exact .inr ⟨gone.1, fun a isLast => lt_of_lt_of_le (gone.2 a isLast) le⟩

theorem Kept.filter (h : Kept limit time kept last) :
    kept.filter (limit ≤ time ·) = last.filter (limit ≤ time ·) := by
  cases h with
  | inl same => rw [same]
  | inr gone =>
    cases last with
    | none => rw [gone.1]
    | some a => simp [gone.1, Option.filter, not_le.mpr (gone.2 a rfl)]

theorem Kept.forget (h : Kept limit time kept last) : Kept limit time (kept.filter (limit ≤ time ·)) last := by
  rw [h.filter]
  cases last with
  | none => exact .inl rfl
  | some a =>
    by_cases fresh : limit ≤ time a
    · exact .inl (by simp [Option.filter, fresh])
    · refine .inr ⟨by simp [Option.filter, fresh], fun b same => ?_⟩
      cases same
      exact not_le.mp fresh

end Memory

/-- A spend that was stored, with the identity and seller it was for. -/
structure StoredSpend where
  key : String
  tag : String
  storedAt : Int

/-- A feed and what has happened to it, the last first: the requests that were ever tracked, those
    tracked in its file, and the spends stored since the buyer started. -/
structure FeedRun where
  feed : SpendAttributionFeed
  now : Int
  requests : List (String × String) := []
  tracks : List RequestTag := []
  stored : List StoredSpend := []

/-- Calls of a feed. A spend comes with the request it belongs to, its id and its tag. -/
inductive FeedCall where
  | elapse (milliseconds : Nat)
  | track (requestId tag : String) (purpose : Option SpendPurpose)
  | record (spend : Spend) (owner : String × String)
  | page (after : Int) (ack : Bool)
  | close
  /-- the buyer is started again over the same file -/
  | restart
  /-- the buyer is started with another file, or without one -/
  | replace (feedId : String)

namespace FeedRun

open SpendAttributionFeed (idOf sellerKey)

def begin (feedId : String) (now : Int) : FeedRun where
  feed := .construct now { feedId }
  now := now

variable (s : FeedRun)

def newEvents (spend : Spend) : List AttributedSpendEvent :=
  (s.feed.record s.now spend).db.events.filter (s.feed.db.lastSeq < ·.seq)

def tracked (requestId tag : String) (purpose : Option SpendPurpose) : FeedRun :=
  if s.feed.isOpen then
    { s with
      feed := s.feed.track s.now requestId tag purpose
      requests := (requestId, tag) :: s.requests
      tracks := ⟨requestId, tag, s.now⟩ :: s.tracks }
  else s

def recorded (spend : Spend) : FeedRun :=
  { s with
    feed := s.feed.record s.now spend
    stored := (s.newEvents spend).map (fun event => ⟨sellerKey spend, event.tag, s.now⟩) ++ s.stored }

def apply : FeedCall → FeedRun
  | .elapse milliseconds => { s with now := s.now + milliseconds }
  | .track requestId tag purpose => s.tracked requestId tag purpose
  | .record spend _ => s.recorded spend
  | .page after ack => { s with feed := (s.feed.page after ack).1 }
  | .close => { s with feed := s.feed.close }
  | .restart => { s with feed := .construct s.now s.feed.db, stored := [] }
  | .replace feedId => { s with feed := .construct s.now { feedId }, tracks := [], stored := [] }

end FeedRun

def feedMachine : Machine FeedRun FeedCall Empty where
  step s call := .ok (s.apply call)

namespace FeedRun

open SpendAttributionFeed (idOf sellerKey)

variable (s : FeedRun)

/-- A spend belongs to a request that was tracked, and names it if it names one. -/
def Owned : FeedCall → Prop
  | .record spend owner => owner ∈ s.requests ∧ ∀ requestId ∈ idOf spend, requestId = owner.1
  | _ => True

instance (s : FeedRun) : ∀ call, Decidable (s.Owned call)
  | .record spend owner =>
    inferInstanceAs (Decidable (owner ∈ s.requests ∧ ∀ requestId ∈ idOf spend, requestId = owner.1))
  | .elapse _ | .track .. | .page .. | .close | .restart | .replace _ => .isTrue trivial

/-- The request id was last tracked with this tag, within the hour. -/
def TrackedAs (requestId tag : String) : Prop :=
  ∃ row, s.tracks.find? (·.requestId = requestId) = some row ∧ s.now - TAG_RETENTION_MS ≤ row.trackedAt ∧
    row.tag = tag

/-- Of all tags, only this one had spend stored for the identity and the seller within five minutes. -/
def OnlyRecent (key tag : String) : Prop :=
  ∀ other, (∃ stored ∈ s.stored, stored.key = key ∧ stored.tag = other ∧
    s.now - UNTAGGED_SPEND_WINDOW_MS ≤ stored.storedAt) ↔ other = tag

def PointsTo (spend : Spend) (tag : String) : Prop :=
  match idOf spend with
  | some requestId => s.TrackedAs requestId tag
  | none => s.OnlyRecent (sellerKey spend) tag

def Unambiguous : FeedCall → Prop
  | .record spend owner => s.feed.isOpen = true → ∀ tag, tag ≠ "" → s.PointsTo spend tag → tag = owner.2
  | _ => True

/-- What is stored is stored under a tag that the run points to. -/
def Determined : FeedCall → Prop
  | .record spend _ => ∀ event ∈ s.newEvents spend, s.PointsTo spend event.tag
  | _ => True

def billed : FeedCall → List (String × String)
  | .record spend owner => (s.newEvents spend).map fun event => (event.tag, owner.2)
  | _ => []

end FeedRun

/-- When a tag of a list last had spend. -/
def entryOf (recents : List RecentTag) (tag : String) : Option Int :=
  (get Prod.fst tag recents).map Prod.snd

section Entries

variable {recents : List RecentTag} {limit : Int} {tag other : String}

theorem entryOf_filter (distinct : (recents.map Prod.fst).Nodup) :
    entryOf (recents.filter (limit ≤ ·.2)) tag = (entryOf recents tag).filter (limit ≤ ·) := by
  unfold entryOf
  rw [get_filter distinct]
  cases get Prod.fst tag recents with
  | none => rfl
  | some entry => by_cases fresh : limit ≤ entry.2 <;> simp [Option.filter, fresh]

theorem entryOf_set :
    entryOf (set Prod.fst (tag, now) recents) other = if other = tag then some now else entryOf recents other := by
  unfold entryOf
  rw [get_set]
  split <;> rfl

theorem eq_singleton_iff (distinct : (recents.map Prod.fst).Nodup) :
    (∃ time, recents = [(tag, time)]) ↔ ∀ other, (∃ time, entryOf recents other = some time) ↔ other = tag := by
  have present : ∀ other, (∃ time, entryOf recents other = some time) ↔ other ∈ recents.map Prod.fst := by
    intro other
    have absent := @Keyed.get_eq_none_iff _ _ _ Prod.fst recents other
    unfold entryOf
    cases found : get Prod.fst other recents with
    | none => simpa using absent.mp found
    | some =>
      have here : other ∈ recents.map Prod.fst := by
        by_contra missing
        cases found.symm.trans (absent.mpr missing)
      simpa using here
  simp only [present]
  constructor
  · rintro ⟨time, rfl⟩ other
    simp
  · intro only
    have names : (recents.map Prod.fst).Perm [tag] := by
      rw [perm_ext_iff_of_nodup distinct (nodup_singleton tag)]
      simpa using only
    obtain ⟨entry, same, name⟩ := map_eq_singleton_iff.mp (perm_singleton.mp names)
    exact ⟨entry.2, by rw [same, ← name]⟩

end Entries

namespace FeedRun

open SpendAttributionFeed (idOf sellerKey)

/-- When a tag last had spend stored for an identity and a seller. -/
def newest (s : FeedRun) (key tag : String) : Option Int :=
  (s.stored.find? fun stored => stored.key = key ∧ stored.tag = tag).map StoredSpend.storedAt

/-- The feed remembers what happened as long as it matters. -/
structure Faithful (s : FeedRun) : Prop where
  rows : ∀ id, Kept (s.now - TAG_RETENTION_MS) trackedAt
    (get requestId id s.feed.db.requestTags) (s.tracks.find? (·.requestId = id))
  recent : ∀ key tag, Kept (s.now - UNTAGGED_SPEND_WINDOW_MS) id (entryOf (s.feed.bySeller key) tag) (s.newest key tag)
  distinctRows : (s.feed.db.requestTags.map requestId).Nodup
  distinctRecent : ∀ key, ((s.feed.bySeller key).map Prod.fst).Nodup
  ordered : s.stored.Pairwise fun newer older => older.storedAt ≤ newer.storedAt
  past : ∀ stored ∈ s.stored, stored.storedAt ≤ s.now
  named : ∀ stored ∈ s.stored, stored.tag ≠ ""
  numbered : ∀ event ∈ s.feed.db.events, event.seq ≤ s.feed.db.lastSeq
  listed : ∀ row ∈ s.tracks, (row.requestId, row.tag) ∈ s.requests

variable {s : FeedRun} {spend : Spend} {owner : String × String} {requestId tag : String}

variable {key : String} {feed feed' : SpendAttributionFeed} {now : Int}

theorem Faithful.fresh_iff (h : s.Faithful) :
    (∃ time, (s.newest key tag).filter (limit ≤ ·) = some time) ↔
      ∃ stored ∈ s.stored, stored.key = key ∧ stored.tag = tag ∧ limit ≤ stored.storedAt := by
  unfold newest
  have ordered := h.ordered
  generalize s.stored = all at ordered
  induction all with
  | nil => simp
  | cons first rest ih =>
    rw [pairwise_cons] at ordered
    by_cases here : first.key = key ∧ first.tag = tag
    · rw [find?_cons_of_pos (by simpa using here)]
      by_cases fresh : limit ≤ first.storedAt
      · simp [Option.filter, fresh, here]
      · have older : ∀ stored ∈ rest, ¬ limit ≤ stored.storedAt := by
          intro stored member late
          exact fresh (late.trans (ordered.1 stored member))
        simp only [Option.map_some, Option.filter, fresh, decide_false, mem_cons]
        constructor
        · rintro ⟨_, ⟨⟩⟩
        · rintro ⟨stored, rfl | later, -, -, late⟩
          · exact absurd late fresh
          · exact absurd late (older stored later)
    · rw [find?_cons_of_neg (by simpa using here)]
      refine (ih ordered.2).trans ?_
      constructor
      · rintro ⟨stored, member, isKey, isTag, late⟩
        exact ⟨stored, mem_cons_of_mem _ member, isKey, isTag, late⟩
      · rintro ⟨stored, member, isKey, isTag, late⟩
        cases mem_cons.mp member with
        | inl same => exact absurd ⟨same ▸ isKey, same ▸ isTag⟩ here
        | inr later => exact ⟨stored, later, isKey, isTag, late⟩

theorem Faithful.attribution_named (h : s.Faithful) (named : idOf spend = some requestId) :
    s.feed.attribution s.now spend = some tag ↔ tag ≠ "" ∧ s.TrackedAs requestId tag := by
  unfold attribution TrackedAs
  rw [named]
  dsimp only
  rw [FeedDatabase.lookup, (h.rows requestId).filter, Option.filter_eq_some_iff]
  simp only [Option.map_eq_some_iff, Option.filter_eq_some_iff, decide_eq_true_eq]
  constructor
  · rintro ⟨⟨row, ⟨found, fresh⟩, same⟩, some_⟩
    exact ⟨some_, row, found, fresh, same⟩
  · rintro ⟨some_, row, found, fresh, same⟩
    exact ⟨⟨row, ⟨found, fresh⟩, same⟩, some_⟩

theorem Faithful.attribution_unnamed (h : s.Faithful) (unnamed : idOf spend = none) :
    s.feed.attribution s.now spend = some tag ↔ s.OnlyRecent (sellerKey spend) tag := by
  have distinct : ((s.feed.recentTags s.now (sellerKey spend)).map Prod.fst).Nodup :=
    (h.distinctRecent _).sublist (filter_sublist.map _)
  have entries : ∀ other, (∃ time, entryOf (s.feed.recentTags s.now (sellerKey spend)) other = some time) ↔
      ∃ stored ∈ s.stored, stored.key = sellerKey spend ∧ stored.tag = other ∧
        s.now - UNTAGGED_SPEND_WINDOW_MS ≤ stored.storedAt := by
    intro other
    have same := (h.recent (sellerKey spend) other).filter
    dsimp only [id] at same
    unfold recentTags
    rw [← h.fresh_iff, entryOf_filter (h.distinctRecent _), same]
  have single := @eq_singleton_iff _ tag distinct
  simp only [entries] at single
  unfold OnlyRecent
  rw [← single]
  unfold attribution
  rw [unnamed]
  dsimp only
  constructor
  · intro attributed
    obtain ⟨found, -⟩ := Option.filter_eq_some_iff.mp attributed
    split at found
    next recent same =>
      cases found
      exact ⟨recent.2, same⟩
    · cases found
  · rintro ⟨time, same⟩
    obtain ⟨stored, member, -, isTag, -⟩ := (single.mp ⟨time, same⟩ tag).mpr rfl
    have some_ : tag ≠ "" := isTag ▸ h.named stored member
    rw [same]
    simp [Option.filter, some_]

theorem Faithful.attribution_iff (h : s.Faithful) :
    s.feed.attribution s.now spend = some tag ↔ tag ≠ "" ∧ s.PointsTo spend tag := by
  unfold PointsTo
  cases names : idOf spend with
  | some => exact h.attribution_named names
  | none =>
    rw [h.attribution_unnamed names]
    dsimp only
    refine ⟨fun only => ⟨?_, only⟩, And.right⟩
    obtain ⟨stored, member, -, isTag, -⟩ := (only tag).mpr rfl
    exact isTag ▸ h.named stored member

theorem prune_db (feed : SpendAttributionFeed) (now : Int) :
    (feed.prune now).db = feed.db ∨ (feed.prune now).db = feed.db.prune now := by
  unfold prune
  split
  · exact .inl rfl
  · exact .inr rfl

theorem prune_frame (feed : SpendAttributionFeed) (now : Int) :
    (feed.prune now).recentTagsBySeller = feed.recentTagsBySeller ∧ (feed.prune now).isOpen = feed.isOpen ∧
      (feed.prune now).db.lastSeq = feed.db.lastSeq ∧
      (∀ event ∈ (feed.prune now).db.events, event ∈ feed.db.events) := by
  unfold prune
  split
  · exact ⟨rfl, rfl, rfl, fun _ member => member⟩
  · exact ⟨rfl, rfl, rfl, fun _ member => mem_of_mem_filter member⟩

theorem Kept.prune {id : String} {last : Option RequestTag}
    (distinct : (feed.db.requestTags.map RequestTag.requestId).Nodup)
    (h : Kept (now - TAG_RETENTION_MS) trackedAt
      (get RequestTag.requestId id feed.db.requestTags) last) :
    Kept (now - TAG_RETENTION_MS) trackedAt
      (get RequestTag.requestId id (feed.prune now).db.requestTags) last := by
  rcases prune_db feed now with same | pruned
  · rw [same]
    exact h
  · rw [pruned, FeedDatabase.prune, get_filter distinct]
    exact h.forget

theorem nodup_prune (distinct : (feed.db.requestTags.map RequestTag.requestId).Nodup) :
    ((feed.prune now).db.requestTags.map RequestTag.requestId).Nodup := by
  rcases prune_db feed now with same | pruned
  · rw [same]
    exact distinct
  · rw [pruned]
    exact distinct.sublist (filter_sublist.map _)

theorem bySeller_congr (same : feed'.recentTagsBySeller = feed.recentTagsBySeller) (key : String) :
    feed'.bySeller key = feed.bySeller key := by
  unfold bySeller
  rw [same]

theorem bySeller_set
    (set : feed'.recentTagsBySeller = set Prod.fst (key, recents) feed.recentTagsBySeller)
    (other : String) :
    feed'.bySeller other = if other = key then recents else feed.bySeller other := by
  unfold bySeller
  rw [set, get_set]
  split <;> rfl

theorem forget_frame (feed : SpendAttributionFeed) (now : Int) (key : String) :
    (feed.forget now key).db = feed.db ∧ (feed.forget now key).isOpen = feed.isOpen ∧
      ∀ other, (feed.forget now key).bySeller other =
        if other = key then feed.recentTags now key else feed.bySeller other := by
  unfold forget
  cases found : get Prod.fst key feed.recentTagsBySeller with
  | none =>
    refine ⟨rfl, rfl, fun other => ?_⟩
    have empty : feed.bySeller key = [] := by
      unfold bySeller
      rw [found]
      rfl
    by_cases same : other = key
    · rw [if_pos same, same, recentTags, empty]
      rfl
    · rw [if_neg same]
  | some => exact ⟨rfl, rfl, bySeller_set rfl⟩

theorem attribution_ne (attributed : feed.attribution now spend = some tag) : tag ≠ "" := by
  simpa using (Option.filter_eq_some_iff.mp attributed).2

/-- What is recorded is added to a file that has been pruned, and its tag to those of the seller. -/
theorem record_frame (isOpen : feed.isOpen = true) (attributed : feed.attribution now spend = some tag) :
    (feed.record now spend).db.requestTags = (feed.prune now).db.requestTags ∧
      (∀ other, (feed.record now spend).bySeller other =
        if other = sellerKey spend then set Prod.fst (tag, now) (feed.recentTags now (sellerKey spend))
        else feed.bySeller other) ∧
      (feed.record now spend).db.lastSeq = feed.db.lastSeq + 1 ∧
      ∀ event ∈ (feed.record now spend).db.events, event ∈ feed.db.events ∨ event.seq = feed.db.lastSeq + 1 := by
  have pruned : ∀ bySeller, ({ feed with recentTagsBySeller := bySeller } : SpendAttributionFeed).prune now =
      { feed.prune now with recentTagsBySeller := bySeller } := by
    intro bySeller
    unfold prune
    dsimp only
    split <;> rfl
  obtain ⟨-, -, lastSeq, known⟩ := prune_frame feed now
  unfold record
  rw [if_pos isOpen, attributed]
  dsimp only
  rw [pruned]
  refine ⟨rfl, bySeller_set rfl, congrArg (· + 1) lastSeq, ?_⟩
  intro event member
  cases mem_append.mp member with
  | inl old => exact .inl (known event old)
  | inr new =>
    cases mem_singleton.mp new
    exact .inr (congrArg (· + 1) lastSeq)

section

variable (numbered : ∀ event ∈ s.feed.db.events, event.seq ≤ s.feed.db.lastSeq)

include numbered

theorem newEvents_tags :
    (s.newEvents spend).map AttributedSpendEvent.tag =
      if s.feed.isOpen then (s.feed.attribution s.now spend).toList else [] := by
  have old : ∀ events : List AttributedSpendEvent, (∀ event ∈ events, event ∈ s.feed.db.events) →
      events.filter (s.feed.db.lastSeq < ·.seq) = [] := by
    intro events known
    rw [filter_eq_nil_iff]
    intro event member
    simpa using numbered event (known event member)
  unfold newEvents record
  cases isOpen : s.feed.isOpen with
  | false => simp [old _ fun _ member => member]
  | true =>
    cases attributed : s.feed.attribution s.now spend with
    | none => simp [(forget_frame s.feed s.now (sellerKey spend)).1, old _ fun _ member => member]
    | some =>
      simp only [if_true]
      generalize isFeed : (prune _ _) = feed
      obtain ⟨-, -, lastSeq, known⟩ := isFeed ▸ prune_frame _ _
      unfold FeedDatabase.insert
      dsimp only
      rw [filter_append, old _ known, lastSeq]
      simp

theorem mem_newEvents
    (new : event ∈ s.newEvents spend) :
    s.feed.isOpen = true ∧ s.feed.attribution s.now spend = some event.tag := by
  have tags : event.tag ∈ (s.newEvents spend).map AttributedSpendEvent.tag := mem_map_of_mem new
  rw [newEvents_tags numbered] at tags
  split at tags
  next isOpen => exact ⟨isOpen, Option.mem_toList.mp tags⟩
  · cases tags

end

theorem newest_cons (stored : StoredSpend) (key' tag' : String) :
    ({ s with stored := stored :: s.stored } : FeedRun).newest key' tag' =
      if stored.key = key' ∧ stored.tag = tag' then some stored.storedAt else s.newest key' tag' := by
  unfold newest
  dsimp only
  split
  next here => rw [find?_cons_of_pos (by simpa using here), Option.map_some]
  next other => rw [find?_cons_of_neg (by simpa using other)]

theorem stored_recorded (numbered : ∀ event ∈ s.feed.db.events, event.seq ≤ s.feed.db.lastSeq) :
    (s.recorded spend).stored =
      (if s.feed.isOpen then (s.feed.attribution s.now spend).toList else []).map
        (fun tag => ⟨sellerKey spend, tag, s.now⟩) ++ s.stored := by
  rw [← newEvents_tags numbered, map_map]
  rfl

theorem Faithful.elapse (h : s.Faithful) (milliseconds : Nat) :
    Faithful { s with now := s.now + milliseconds } where
  rows id := (h.rows id).mono (by dsimp only; omega)
  recent key tag := (h.recent key tag).mono (by dsimp only; omega)
  distinctRows := h.distinctRows
  distinctRecent := h.distinctRecent
  ordered := h.ordered
  past stored member := (h.past stored member).trans (by dsimp only; omega)
  named := h.named
  numbered := h.numbered
  listed := h.listed

theorem Faithful.tracked (h : s.Faithful) (requestId tag : String) (purpose : Option SpendPurpose) :
    (s.tracked requestId tag purpose).Faithful := by
  unfold FeedRun.tracked
  cases isOpen : s.feed.isOpen with
  | false => simpa using h
  | true =>
    obtain ⟨sameRecent, -, sameSeq, known⟩ := prune_frame s.feed s.now
    unfold SpendAttributionFeed.track
    simp only [isOpen, if_true]
    exact {
      rows := by
        intro id
        dsimp only [FeedDatabase.track]
        rw [get_set]
        by_cases same : id = requestId
        · rw [if_pos same, same, find?_cons_of_pos (by simp)]
          exact .inl rfl
        · rw [if_neg same, find?_cons_of_neg (by simpa using Ne.symm same)]
          exact Kept.prune h.distinctRows (h.rows id)
      recent := by
        intro key tag
        have same := h.recent key tag
        rw [← bySeller_congr sameRecent] at same
        exact same
      distinctRows := nodup_keys_set (nodup_prune h.distinctRows)
      distinctRecent := by
        intro key
        have same := h.distinctRecent key
        rw [← bySeller_congr sameRecent] at same
        exact same
      ordered := h.ordered
      past := h.past
      named := h.named
      numbered := by
        intro event member
        exact (h.numbered event (known event member)).trans_eq sameSeq.symm
      listed := by
        intro row member
        cases mem_cons.mp member with
        | inl same => exact mem_cons.mpr (.inl (by rw [same]))
        | inr earlier => exact mem_cons_of_mem _ (h.listed row earlier) }

theorem recorded_closed (h : s.Faithful) (closed : s.feed.isOpen = false) : s.recorded spend = s := by
  have same : s.feed.record s.now spend = s.feed := by simp [SpendAttributionFeed.record, closed]
  have stored := @stored_recorded s spend h.numbered
  simp only [closed, Bool.false_eq_true, if_false, map_nil, nil_append] at stored
  calc s.recorded spend
      = { s with feed := (s.recorded spend).feed, stored := (s.recorded spend).stored } := rfl
    _ = s := by
        rw [stored]
        exact congrArg (fun feed => { s with feed }) same

theorem Faithful.nodup_recentTags (h : s.Faithful) (seller : String) :
    ((s.feed.recentTags s.now seller).map Prod.fst).Nodup :=
  (h.distinctRecent _).sublist (filter_sublist.map _)

theorem Faithful.kept_recentTags (h : s.Faithful) (seller tag : String) :
    Kept (s.now - UNTAGGED_SPEND_WINDOW_MS) id (entryOf (s.feed.recentTags s.now seller) tag) (s.newest seller tag) := by
  unfold SpendAttributionFeed.recentTags
  rw [entryOf_filter (h.distinctRecent _)]
  exact (h.recent seller tag).forget

/-- Nothing is stored, and the seller's old tags are forgotten. -/
theorem Faithful.unattributed (h : s.Faithful) (isOpen : s.feed.isOpen = true)
    (attributed : s.feed.attribution s.now spend = none) : (s.recorded spend).Faithful := by
  have stored := @stored_recorded s spend h.numbered
  simp only [isOpen, if_true, attributed, Option.toList_none, map_nil, nil_append] at stored
  have forgets : (s.recorded spend).feed = s.feed.forget s.now (sellerKey spend) := by
    simp [FeedRun.recorded, SpendAttributionFeed.record, isOpen, attributed]
  obtain ⟨db, -, bySeller⟩ := forget_frame s.feed s.now (sellerKey spend)
  rw [← forgets] at db bySeller
  exact {
    rows := by rw [db]; exact h.rows
    recent := by
      intro key tag
      have same : (s.recorded spend).newest key tag = s.newest key tag := by
        unfold newest
        rw [stored]
      rw [bySeller, same]
      by_cases isKey : key = sellerKey spend
      · rw [if_pos isKey, isKey]
        exact h.kept_recentTags _ tag
      · rw [if_neg isKey]
        exact h.recent key tag
    distinctRows := by rw [db]; exact h.distinctRows
    distinctRecent := by
      intro key
      rw [bySeller]
      by_cases isKey : key = sellerKey spend
      · rw [if_pos isKey]
        exact h.nodup_recentTags _
      · rw [if_neg isKey]
        exact h.distinctRecent key
    ordered := by rw [stored]; exact h.ordered
    past := by rw [stored]; exact h.past
    named := by rw [stored]; exact h.named
    numbered := by rw [db]; exact h.numbered
    listed := h.listed }

section

variable (h : s.Faithful) (isOpen : s.feed.isOpen = true) (attributed : s.feed.attribution s.now spend = some tag)

include h isOpen attributed

theorem Faithful.stored_attributed : (s.recorded spend).stored = ⟨sellerKey spend, tag, s.now⟩ :: s.stored := by
  simp [stored_recorded h.numbered, isOpen, attributed]

theorem Faithful.newest_attributed (key other : String) : (s.recorded spend).newest key other =
    if sellerKey spend = key ∧ tag = other then some s.now else s.newest key other := by
  rw [← newest_cons (s := s) ⟨sellerKey spend, tag, s.now⟩]
  unfold newest
  rw [h.stored_attributed isOpen attributed]

/-- The tag of the spend becomes the seller's newest, and the others are kept as they were. -/
theorem Faithful.recent_attributed (key other : String) :
    Kept (s.now - UNTAGGED_SPEND_WINDOW_MS) id (entryOf ((s.recorded spend).feed.bySeller key) other)
      ((s.recorded spend).newest key other) := by
  obtain ⟨-, bySeller, -⟩ := record_frame isOpen attributed
  have entries := bySeller key
  rw [h.newest_attributed isOpen attributed]
  change Kept _ _ (entryOf ((s.feed.record s.now spend).bySeller key) other) _
  by_cases isKey : key = sellerKey spend
  · rw [if_pos isKey] at entries
    rw [entries, entryOf_set, isKey]
    by_cases isTag : other = tag
    · rw [if_pos isTag, if_pos ⟨rfl, isTag.symm⟩]
      exact .inl rfl
    · rw [if_neg isTag, if_neg fun both => isTag both.2.symm]
      exact h.kept_recentTags _ other
  · rw [if_neg isKey] at entries
    rw [entries, if_neg fun both => isKey both.1.symm]
    exact h.recent key other

theorem Faithful.stores : (s.recorded spend).Faithful := by
  have stored := h.stored_attributed isOpen attributed
  obtain ⟨rows, bySeller, lastSeq, events⟩ := record_frame isOpen attributed
  exact {
    rows := by
      intro id
      have kept := Kept.prune h.distinctRows (h.rows id)
      rw [← rows] at kept
      exact kept
    recent := h.recent_attributed isOpen attributed
    distinctRows := by
      have distinctRows := @nodup_prune _ s.now h.distinctRows
      rw [← rows] at distinctRows
      exact distinctRows
    distinctRecent := by
      intro key
      change (((s.feed.record s.now spend).bySeller key).map Prod.fst).Nodup
      rw [bySeller]
      by_cases isKey : key = sellerKey spend
      · rw [if_pos isKey]
        exact nodup_keys_set (h.nodup_recentTags _)
      · rw [if_neg isKey]
        exact h.distinctRecent key
    ordered := by
      rw [stored]
      exact pairwise_cons.mpr ⟨h.past, h.ordered⟩
    past := by
      rw [stored]
      exact forall_mem_cons.mpr ⟨le_rfl, h.past⟩
    named := by
      rw [stored]
      exact forall_mem_cons.mpr ⟨attribution_ne attributed, h.named⟩
    numbered := by
      intro event member
      change event.seq ≤ (s.feed.record s.now spend).db.lastSeq
      rw [lastSeq]
      rcases events event member with old | new
      · exact (h.numbered event old).trans (Nat.le_succ _)
      · exact new.le
    listed := h.listed }

end

theorem Faithful.recorded (h : s.Faithful) (spend : Spend) : (s.recorded spend).Faithful := by
  cases isOpen : s.feed.isOpen with
  | false =>
    rw [recorded_closed h isOpen]
    exact h
  | true =>
    cases attributed : s.feed.attribution s.now spend with
    | none => exact h.unattributed isOpen attributed
    | some => exact h.stores isOpen attributed

theorem Faithful.restarted (h : s.Faithful) :
    Faithful { s with feed := .construct s.now s.feed.db, stored := [] } := by
  obtain ⟨noRecent, -, lastSeq, known⟩ := prune_frame { db := s.feed.db } s.now
  have forgotten : ∀ key, (SpendAttributionFeed.construct s.now s.feed.db).bySeller key = [] :=
    fun key => bySeller_congr noRecent key
  exact {
    rows := fun id => @Kept.prune { db := s.feed.db } _ _ _ h.distinctRows (h.rows id)
    recent := fun key tag => .inl (by dsimp only; rw [forgotten]; rfl)
    distinctRows := @nodup_prune { db := s.feed.db } _ h.distinctRows
    distinctRecent := fun key => by dsimp only; rw [forgotten]; exact nodup_nil
    ordered := Pairwise.nil
    past := fun _ member => absurd member not_mem_nil
    named := fun _ member => absurd member not_mem_nil
    numbered := fun event member => (h.numbered event (known event member)).trans_eq lastSeq.symm
    listed := h.listed }

theorem faithful_construct (feedId : String) (now : Int) (requests : List (String × String)) :
    Faithful { feed := .construct now { feedId }, now, requests } :=
  Faithful.restarted (s := { feed := { db := { feedId } }, now, requests }) {
    rows := fun _ => .inl rfl
    recent := fun _ _ => .inl rfl
    distinctRows := nodup_nil
    distinctRecent := fun _ => nodup_nil
    ordered := Pairwise.nil
    past := fun _ member => absurd member not_mem_nil
    named := fun _ member => absurd member not_mem_nil
    numbered := fun _ member => absurd member not_mem_nil
    listed := fun _ member => absurd member not_mem_nil }

theorem Faithful.paged (h : s.Faithful) (after : Int) (ack : Bool) :
    Faithful { s with feed := (s.feed.page after ack).1 } := by
  have frame : (s.feed.page after ack).1.db.requestTags = s.feed.db.requestTags ∧
      (s.feed.page after ack).1.recentTagsBySeller = s.feed.recentTagsBySeller ∧
      (s.feed.page after ack).1.db.events = s.feed.db.events ∧
      (s.feed.page after ack).1.db.lastSeq = s.feed.db.lastSeq := by
    unfold page FeedDatabase.acknowledge
    split
    · dsimp only
      split
      · split <;> exact ⟨rfl, rfl, rfl, rfl⟩
      · exact ⟨rfl, rfl, rfl, rfl⟩
    · exact ⟨rfl, rfl, rfl, rfl⟩
  obtain ⟨rows, recent, events, lastSeq⟩ := frame
  exact {
    rows := by dsimp only; rw [rows]; exact h.rows
    recent := by
      intro key tag
      rw [bySeller_congr recent]
      exact h.recent key tag
    distinctRows := by dsimp only; rw [rows]; exact h.distinctRows
    distinctRecent := by
      intro key
      rw [bySeller_congr recent]
      exact h.distinctRecent key
    ordered := h.ordered
    past := h.past
    named := h.named
    numbered := by dsimp only; rw [events, lastSeq]; exact h.numbered
    listed := h.listed }

theorem Faithful.apply (h : s.Faithful) (call : FeedCall) : (s.apply call).Faithful := by
  cases call with
  | elapse milliseconds => exact h.elapse milliseconds
  | track requestId tag purpose => exact h.tracked requestId tag purpose
  | record spend => exact h.recorded spend
  | page after ack => exact h.paged after ack
  | close => exact { h with }
  | restart => exact h.restarted
  | replace feedId => exact faithful_construct feedId s.now s.requests

theorem Faithful.billed_iff (h : s.Faithful) (call : FeedCall) :
    (∀ entry ∈ s.billed call, entry.1 = entry.2) ↔ s.Unambiguous call := by
  cases call with
  | record spend owner =>
    have tags := @newEvents_tags s spend h.numbered
    have entries : s.billed (.record spend owner) =
        ((s.newEvents spend).map AttributedSpendEvent.tag).map (·, owner.2) := by
      rw [map_map]
      rfl
    rw [entries, tags]
    unfold Unambiguous
    cases s.feed.isOpen with
    | false => simp
    | true =>
      simp only [if_true, forall_mem_map, Option.mem_toList, forall_const]
      constructor
      · intro right tag some_ points
        exact right tag (h.attribution_iff.mpr ⟨some_, points⟩)
      · intro right tag attributed
        obtain ⟨some_, points⟩ := h.attribution_iff.mp attributed
        exact right tag some_ points
  | elapse | track | page | close | restart | replace => simp [billed, Unambiguous]

theorem Faithful.determined (h : s.Faithful) (call : FeedCall) : s.Determined call := by
  cases call with
  | record =>
    intro event new
    exact (h.attribution_iff.mp (mem_newEvents h.numbered new).2).2
  | elapse | track | page | close | restart | replace => trivial

theorem faithful_begin (feedId : String) (now : Int) : (begin feedId now).Faithful :=
  faithful_construct feedId now []

/-- Whatever is called in whatever order, spends are stored under the tags of their owners if and only
    if, whenever one is recorded, what was tracked and stored before points to no other tag; and what is
    stored is stored under a tag that was pointed to. -/
theorem spends_are_their_owners_iff (feedId : String) (now : Int) (calls : List FeedCall) :
    ((∀ entry ∈ feedMachine.log billed (begin feedId now) calls, entry.1 = entry.2) ↔
      feedMachine.Along Unambiguous (begin feedId now) calls) ∧
    feedMachine.Along Determined (begin feedId now) calls := by
  have holds := faithful_begin feedId now
  generalize begin feedId now = s at holds
  induction calls generalizing s with
  | nil => exact ⟨by simp [Machine.log, Machine.Along], trivial⟩
  | cons call calls ih =>
    obtain ⟨billedRight, determined⟩ := ih (s.apply call) (holds.apply call)
    refine ⟨?_, holds.determined call, determined⟩
    change (∀ entry ∈ s.billed call ++ feedMachine.log billed (s.apply call) calls, entry.1 = entry.2) ↔
      s.Unambiguous call ∧ feedMachine.Along Unambiguous (s.apply call) calls
    rw [← billedRight, ← holds.billed_iff, List.forall_mem_append]

/-- Two requests of one identity use a seller at the same time. The spend of the first names it, that of
    the second does not. -/
def atOnce : List FeedCall :=
  let spend : Spend := ⟨some "r1", none, "seller", "5", "1", "0", "1", "0"⟩
  [.track "r1" "a" none, .track "r2" "b" none, .record spend ("r1", "a"),
    .record { spend with requestId := none } ("r2", "b")]

/-- The spend of the second request is billed to the key of the first. -/
theorem unnamed_spend_of_another : feedMachine.Along Owned (begin "feed" 0) atOnce ∧
    feedMachine.log billed (begin "feed" 0) atOnce = [("a", "a"), ("a", "b")] := by
  decide +kernel

/-- The tag of what is stored for a spend that names its request, and that of its owner. -/
def billedByName (s : FeedRun) : FeedCall → List (String × String)
  | .record spend owner => if (idOf spend).isSome then s.billed (.record spend owner) else []
  | _ => []

/-- No request id was tracked under two tags. -/
def OneTagEach (s : FeedRun) : Prop :=
  ∀ one ∈ s.requests, ∀ other ∈ s.requests, one.1 = other.1 → one.2 = other.2

instance : Decidable s.OneTagEach :=
  inferInstanceAs (Decidable (∀ one ∈ s.requests, ∀ other ∈ s.requests, one.1 = other.1 → one.2 = other.2))

theorem Faithful.billed_by_name (h : s.Faithful) (owned : s.Owned call) (one : s.OneTagEach) :
    ∀ entry ∈ s.billedByName call, entry.1 = entry.2 := by
  cases call with
  | record spend owner =>
    unfold billedByName
    dsimp only
    cases names : idOf spend with
    | none => simp
    | some requestId =>
      rw [Option.isSome_some, if_pos rfl, h.billed_iff]
      intro _ tag _ points
      unfold PointsTo at points
      rw [names] at points
      obtain ⟨row, found, -, isTag⟩ := points
      have sameId : row.requestId = owner.1 := by
        have isRow : row.requestId = requestId := by simpa using find?_some found
        rw [isRow]
        exact owned.2 requestId names
      have listed := h.listed row (mem_of_find?_eq_some found)
      exact isTag ▸ one _ listed _ owned.1 sameId
  | elapse | track | page | close | restart | replace => simp [billedByName]

/-- As long as no request is tracked under two tags, a spend that names its request is stored for the
    key that made it, or not at all, whatever other requests do meanwhile. -/
theorem named_spends_are_their_owners (feedId : String) (now : Int)
    (along : feedMachine.Along (fun s call => s.Owned call ∧ s.OneTagEach) (begin feedId now) calls) :
    ∀ entry ∈ feedMachine.log billedByName (begin feedId now) calls, entry.1 = entry.2 := by
  have preserved : ∀ entries s call s', (s.Owned call ∧ s.OneTagEach) →
      (s.Faithful ∧ ∀ entry ∈ entries, entry.1 = entry.2) → feedMachine.step s call = .ok s' →
      (s'.Faithful ∧ ∀ entry ∈ entries ++ s.billedByName call, entry.1 = entry.2) := by
    intro entries s call s' condition holds step
    cases step
    refine ⟨holds.1.apply call, forall_mem_append.mpr ⟨holds.2, ?_⟩⟩
    exact holds.1.billed_by_name condition.1 condition.2
  have none : ∀ entry ∈ ([] : List (String × String)), entry.1 = entry.2 := fun _ member =>
    absurd member not_mem_nil
  exact (feedMachine.run_invariant_log_along preserved ⟨faithful_begin feedId now, none⟩ along).2

/-- The spend of `atOnce` that names its request stays with its key. -/
theorem named_spend_of_its_own : ∃ entry ∈ feedMachine.log billedByName (begin "feed" 0) atOnce,
    entry.1 = entry.2 := by
  have stored : ("a", "a") ∈ feedMachine.log billedByName (begin "feed" 0) atOnce := by decide +kernel
  exact ⟨_, stored, named_spends_are_their_owners "feed" 0 (by decide +kernel) _ stored⟩

end FeedRun

end AntSeed.Gateway
