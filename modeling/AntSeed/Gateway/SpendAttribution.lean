import AntSeed.Lib.Keyed
import Mathlib.Algebra.Order.Group.Unbundled.Abs
import Mathlib.Algebra.Order.Group.Int

/-! # The feed of attributed spend

The buyer remembers which tag a request came with and stores the signed spend of tagged
requests until a gateway has read it. The tables outlive the process; which tags had spend
lately is remembered in memory only.
-/

namespace AntSeed.Gateway

open Keyed

def MAX_STORED_EVENTS : Nat := 100000
def MAX_EVENTS_PER_PAGE : Nat := 1000
def TAG_RETENTION_MS : Int := 60 * 60 * 1000
def UNTAGGED_SPEND_WINDOW_MS : Int := 5 * 60 * 1000
def ACKED_RETENTION_MS : Int := 60 * 60 * 1000
def UNACKED_RETENTION_MS : Int := 7 * 24 * 60 * 60 * 1000
def PRUNE_INTERVAL_MS : Int := 60 * 1000

def VIDEO_BUDGET_CAPABILITY : String := "video-budget"

inductive SpendPurpose where
  | routing
  deriving DecidableEq, Repr

structure Spend where
  requestId : Option String
  buyerIdentity : Option String
  sellerPeerId : String
  amountUsdc : String
  inputTokens : String
  cachedInputTokens : String
  outputTokens : String
  outputImages : String
  deriving DecidableEq, Repr

structure AttributedSpendEvent where
  seq : Nat
  tag : String
  requestId : Option String
  buyerIdentity : String
  sellerPeerId : String
  amountUsdc : String
  inputTokens : String
  cachedInputTokens : String
  outputTokens : String
  outputImages : String
  createdAt : Int
  purpose : Option SpendPurpose
  deriving DecidableEq, Repr

/-- A row of `request_tags`. -/
structure RequestTag where
  requestId : String
  tag : String
  trackedAt : Int
  deriving DecidableEq, Repr

/-- A row of `request_purposes`. -/
structure RequestPurpose where
  requestId : String
  purpose : SpendPurpose
  trackedAt : Int
  deriving DecidableEq, Repr

/-- The file of a feed. `lastSeq` is the last number that was handed out. -/
structure FeedDatabase where
  feedId : String
  requestTags : List RequestTag := []
  requestPurposes : List RequestPurpose := []
  events : List AttributedSpendEvent := []
  lastSeq : Nat := 0
  ackedSeq : Nat := 0
  deriving DecidableEq, Repr

/-- A tag and when it last had spend. -/
abbrev RecentTag := String × Int

structure SpendAttributionFeed where
  db : FeedDatabase
  isOpen : Bool := true
  recentTagsBySeller : List (String × List RecentTag) := []
  lastPruneAt : Option Int := none
  deriving DecidableEq, Repr

structure AttributedSpendPage where
  bootId : String
  oldestSeq : Nat
  cursor : Nat
  events : List AttributedSpendEvent
  capabilities : List String := [VIDEO_BUDGET_CAPABILITY]
  deriving DecidableEq, Repr

namespace FeedDatabase

variable (db : FeedDatabase)

/-- An acknowledged event goes after an hour, any event after seven days, and the oldest if there are
    too many. -/
def expired (now : Int) (event : AttributedSpendEvent) : Bool :=
  event.seq ≤ db.ackedSeq ∧ event.createdAt < now - ACKED_RETENTION_MS ∨
    event.createdAt < now - UNACKED_RETENTION_MS ∨ (event.seq : Int) ≤ (db.lastSeq : Int) - MAX_STORED_EVENTS

def prune (now : Int) : FeedDatabase :=
  { db with
    requestTags := db.requestTags.filter fun row => now - TAG_RETENTION_MS ≤ row.trackedAt
    requestPurposes := db.requestPurposes.filter fun row => now - TAG_RETENTION_MS ≤ row.trackedAt
    events := db.events.filter fun event => ¬ db.expired now event }

def track (now : Int) (requestId tag : String) (purpose : Option SpendPurpose) : FeedDatabase :=
  { db with
    requestTags := set RequestTag.requestId ⟨requestId, tag, now⟩ db.requestTags
    requestPurposes :=
      match purpose with
      | some purpose => set RequestPurpose.requestId ⟨requestId, purpose, now⟩ db.requestPurposes
      | none => erase RequestPurpose.requestId requestId db.requestPurposes }

def lookup (now : Int) (requestId : String) : Option RequestTag :=
  (get RequestTag.requestId requestId db.requestTags).filter fun row => now - TAG_RETENTION_MS ≤ row.trackedAt

def purposeOf (requestId : String) : Option SpendPurpose :=
  (get RequestPurpose.requestId requestId db.requestPurposes).map RequestPurpose.purpose

def insert (now : Int) (tag : String) (spend : Spend) (purpose : Option SpendPurpose) :
    FeedDatabase :=
  let seq := db.lastSeq + 1
  let event : AttributedSpendEvent := {
    seq
    tag
    requestId := spend.requestId
    buyerIdentity := spend.buyerIdentity.getD "default"
    sellerPeerId := spend.sellerPeerId
    amountUsdc := spend.amountUsdc
    inputTokens := spend.inputTokens
    cachedInputTokens := spend.cachedInputTokens
    outputTokens := spend.outputTokens
    outputImages := spend.outputImages
    createdAt := now
    purpose }
  { db with lastSeq := seq, events := db.events ++ [event] }

/-- A number that was never handed out acknowledges nothing. -/
def acknowledge (seq : Nat) : FeedDatabase :=
  if seq ≤ db.lastSeq then { db with ackedSeq := max db.ackedSeq seq } else db

def oldest : Nat :=
  match db.events with
  | [] => db.lastSeq + 1
  | event :: _ => event.seq

end FeedDatabase

namespace SpendAttributionFeed

variable (feed : SpendAttributionFeed)

/-- The tables are pruned once a minute at most. -/
def prune (now : Int) : SpendAttributionFeed :=
  if feed.lastPruneAt.any (now - · < PRUNE_INTERVAL_MS) then feed
  else { feed with db := feed.db.prune now, lastPruneAt := some now }

/-- A process starts with the file of the last one. -/
def construct (now : Int) (db : FeedDatabase) : SpendAttributionFeed := prune { db } now

def track (now : Int) (requestId tag : String) (purpose : Option SpendPurpose) :
    SpendAttributionFeed :=
  if feed.isOpen then
    let feed := feed.prune now
    { feed with db := feed.db.track now requestId tag purpose }
  else feed

def close : SpendAttributionFeed := { feed with isOpen := false }

def idOf (spend : Spend) : Option String := spend.requestId.filter (· ≠ "")

def sellerKey (spend : Spend) : String := spend.buyerIdentity.getD "default" ++ ":" ++ spend.sellerPeerId

/-- What the map holds for a seller. -/
def bySeller (key : String) : List RecentTag :=
  (get Prod.fst key feed.recentTagsBySeller).elim [] Prod.snd

def recentTags (now : Int) (key : String) : List RecentTag :=
  (feed.bySeller key).filter fun recent => now - UNTAGGED_SPEND_WINDOW_MS ≤ recent.2

/-- What the map holds once the old tags of a seller have been deleted from it. -/
def forget (now : Int) (key : String) : SpendAttributionFeed :=
  match get Prod.fst key feed.recentTagsBySeller with
  | some _ => { feed with
      recentTagsBySeller := set Prod.fst (key, feed.recentTags now key) feed.recentTagsBySeller }
  | none => feed

/-- The tag that a spend is attributed to: that of its request or, if it names none, the only one that
    had spend lately. -/
def attribution (now : Int) (spend : Spend) : Option String :=
  let tag :=
    match idOf spend with
    | some requestId => (feed.db.lookup now requestId).map RequestTag.tag
    | none =>
      match feed.recentTags now (sellerKey spend) with
      | [recent] => some recent.1
      | _ => none
  tag.filter (· ≠ "")

def record (now : Int) (spend : Spend) : SpendAttributionFeed :=
  if feed.isOpen then
    match feed.attribution now spend with
    | none => feed.forget now (sellerKey spend)
    | some tag =>
      let purpose := (idOf spend).bind fun requestId =>
        (feed.db.lookup now requestId).bind fun row => feed.db.purposeOf row.requestId
      let recent := set Prod.fst (tag, now) (feed.recentTags now (sellerKey spend))
      let bySeller := set Prod.fst (sellerKey spend, recent) feed.recentTagsBySeller
      let feed := prune { feed with recentTagsBySeller := bySeller } now
      { feed with db := feed.db.insert now tag spend purpose }
  else feed

/-- `after` is a number that is read from the query; one that is no safe integer counts as zero. -/
def cursorIn (after : Int) : Nat := if |after| < 2 ^ 53 then after.toNat else 0

/-- The events after a number. An authenticated read acknowledges those up to it. -/
def page (after : Int) (ack : Bool) : SpendAttributionFeed × AttributedSpendPage :=
  let cursor := cursorIn after
  if feed.isOpen then
    let db := if ack = true ∧ 0 < cursor then feed.db.acknowledge cursor else feed.db
    let events := (db.events.filter (cursor < ·.seq)).take MAX_EVENTS_PER_PAGE
    ({ feed with db }, {
      bootId := db.feedId
      oldestSeq := db.oldest
      cursor := (events.getLast?.map AttributedSpendEvent.seq).getD cursor
      events })
  else (feed, { bootId := feed.db.feedId, oldestSeq := cursor + 1, cursor, events := [] })

end SpendAttributionFeed

end AntSeed.Gateway
