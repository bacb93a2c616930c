import AntSeed.Gateway.GatewayAccounting
import AntSeed.Lib.Machine

/-! # Reading the feed

The gateway polls the buyer for the events after its cursor and enters them in the ledger. The
cursor is also what it acknowledges. That the feed is another one shows in its answer only.
-/

namespace AntSeed.Gateway

inductive SpendFeedState where
  | reporting
  | unsupported
  | unauthorized
  | unreachable
  deriving DecidableEq, Repr

/-- How a poll fails. -/
inductive PollFailure where
  | unreachable
  | status (code : Nat)
  | malformed
  deriving DecidableEq, Repr

structure SpendFeedPoller where
  bootId : Option String := none
  after : Nat := 0
  state : SpendFeedState := .unreachable
  videoBudget : Bool := false
  deriving DecidableEq, Repr

namespace SpendFeedPoller

def fail (poller : SpendFeedPoller) : PollFailure → SpendFeedPoller
  | .unreachable => { poller with state := .unreachable }
  | .status code =>
    if code = 404 then { poller with state := .unsupported }
    else if code = 401 ∨ code = 403 then { poller with state := .unauthorized }
    else { poller with state := .unreachable }
  | .malformed => { poller with state := .unsupported }

/-- What an answer tells about the buyer. -/
def report (poller : SpendFeedPoller) (page : AttributedSpendPage) : SpendFeedPoller :=
  { poller with videoBudget := page.capabilities.contains VIDEO_BUDGET_CAPABILITY, state := .reporting }

/-- The page is of another feed than the cursor. -/
def changed (poller : SpendFeedPoller) (page : AttributedSpendPage) : Bool :=
  poller.bootId ≠ some page.bootId ∧ (poller.bootId.isSome ∨ 0 < poller.after)

/-- A page of another feed is read again from its start. Otherwise its events are recorded and, unless that
    fails, the cursor goes on. -/
def receive (number : String → Option Int) (poller : SpendFeedPoller) (accounting : GatewayAccounting)
    (page : AttributedSpendPage) : SpendFeedPoller × GatewayAccounting :=
  let poller := poller.report page
  if poller.changed page then ({ poller with bootId := some page.bootId, after := 0 }, accounting)
  else
    let poller := { poller with bootId := some page.bootId }
    match GatewayAccounting.ingest number page.bootId accounting page.events with
    | (accounting, true) => ({ poller with after := page.cursor }, accounting)
    | (accounting, false) => (poller, accounting)

end SpendFeedPoller

/-- A request for a page, with the feed that its cursor is of. -/
structure PageRequest where
  bootId : Option String
  after : Nat
  deriving DecidableEq, Repr

/-- An answer on its way, with what had been recorded when it was given. -/
structure PageAnswer where
  page : AttributedSpendPage
  answeredAt : Int
  known : List (String × AttributedSpendEvent)
  deriving DecidableEq, Repr

/-- A buyer, a gateway and what has happened between them. -/
structure SpendRun where
  now : Int
  feed : SpendAttributionFeed
  gateway : GatewayAccounting
  poller : SpendFeedPoller := {}
  /-- the request the gateway waits for, and its answer once there is one -/
  inFlight : Option (PageRequest × Option PageAnswer) := none
  /-- requests that the gateway has given up on -/
  abandoned : List PageRequest := []
  /-- the feeds there were, and what was recorded in those that are gone -/
  feedIds : List String
  earlier : List (String × AttributedSpendEvent) := []
  /-- what was recorded in the feed there is, in order, and the number up to which the gateway has taken it in -/
  current : List AttributedSpendEvent := []
  read : Nat := 0
  /-- what the gateway passed over, as its log had no such request -/
  unlogged : List (String × Nat) := []
  /-- the last answer that completed a poll, and what had been recorded by then -/
  reportedAt : Int
  reported : List (String × AttributedSpendEvent) := []

inductive SpendCall where
  | elapse (milliseconds : Nat)
  | track (requestId tag : String) (purpose : Option SpendPurpose)
  | record (spend : Spend)
  /-- the buyer is started again over the same file -/
  | restart
  /-- the file is replaced by a fresh one -/
  | replace (feedId : String)
  | startRequest (input : GatewayStore.GatewayRequestStart)
  | pruneRequests (before : Int)
  | poll
  | answer
  /-- a request that the gateway has given up on still reaches the buyer -/
  | answerLate (request : PageRequest)
  | deliver (faults : Faults)
  | fail (failure : PollFailure)
  | restartGateway (faults : Faults)

/-- Whether the log has the request of an event under its identity. -/
def isLogged (store : GatewayStore) (event : AttributedSpendEvent) : Bool :=
  (store.findRequest event.tag).any fun request => request.buyerIdentity = event.buyerIdentity

/-- The events that recording goes through until it fails. -/
def takenIn (number : String → Option Int) (bootId : String) :
    GatewayAccounting → List AttributedSpendEvent → List AttributedSpendEvent
  | _, [] => []
  | a, event :: events =>
    match GatewayAccounting.ingestOne number bootId a event with
    | (a, true) => event :: takenIn number bootId a events
    | (_, false) => []

namespace SpendRun

def begin (feedId : String) (now : Int) (keys : List ApiKeyRecord) : SpendRun where
  now := now
  feed := .construct now { feedId }
  gateway := .construct now { keys } {}
  feedIds := [feedId]
  reportedAt := now

section

variable (s : SpendRun)

def recorded : List (String × AttributedSpendEvent) :=
  s.earlier ++ s.current.map (s.feed.db.feedId, ·)

/-- The events that were recorded and not read. -/
def waiting : List AttributedSpendEvent := s.current.filter (s.read < ·.seq)

def acknowledged : List AttributedSpendEvent := s.current.filter (·.seq ≤ s.feed.db.ackedSeq)

/-- How often an event is in the ledger. -/
def entries (event : String × AttributedSpendEvent) : Nat :=
  s.gateway.store.ledger.countP (·.externalRef = GatewayAccounting.spendRef event.1 event.2.seq)

def record (spend : Spend) : SpendRun :=
  let feed := s.feed.record s.now spend
  { s with feed, current := s.current ++ feed.db.events.filter (s.feed.db.lastSeq < ·.seq) }

def sendPoll : SpendRun :=
  match s.inFlight with
  | none => { s with inFlight := some (⟨s.poller.bootId, s.poller.after⟩, none) }
  | some _ => s

def answerPoll : SpendRun :=
  match s.inFlight with
  | some (request, none) =>
    let (feed, page) := s.feed.page request.after true
    { s with feed, inFlight := some (request, some ⟨page, s.now, s.recorded⟩) }
  | _ => s

/-- The request is over; nothing that still comes of it reaches the gateway. -/
def giveUp : SpendRun :=
  { s with inFlight := none, abandoned := (s.inFlight.map Prod.fst).toList ++ s.abandoned }

end

section Deliver

variable (number : String → Option Int)

variable (s : SpendRun)

/-- A page that is not of another feed is taken in. -/
def takeIn (page : AttributedSpendPage) : SpendRun :=
  if s.poller.changed page then s
  else
    let events := takenIn number page.bootId s.gateway page.events
    { s with
      read :=
        if page.bootId = s.feed.db.feedId then events.foldl (fun read event => max read event.seq) s.read else s.read
      unlogged := (events.filter fun event => ¬ isLogged s.gateway.store event).map
        (fun event => (page.bootId, event.seq)) ++ s.unlogged }

/-- A page without events of the feed that is read completes a poll. -/
def complete (answer : PageAnswer) : SpendRun :=
  if ¬ s.poller.changed answer.page ∧ answer.page.events = [] then
    { s with reportedAt := answer.answeredAt, reported := answer.known }
  else s

def receive (request : PageRequest) (answer : PageAnswer) : SpendRun :=
  let received := s.poller.receive number s.gateway answer.page
  { (s.takeIn number answer.page).complete answer with
    poller := received.1
    gateway := received.2
    inFlight := none
    abandoned := request :: s.abandoned }

def deliver (faults : Faults) : SpendRun :=
  match s.inFlight with
  | some (request, some answer) => receive number { s with gateway.faults := faults } request answer
  | _ => s

def apply : SpendCall → SpendRun
  | .elapse milliseconds => { s with now := s.now + milliseconds }
  | .track requestId tag purpose => { s with feed := s.feed.track s.now requestId tag purpose }
  | .record spend => s.record spend
  | .restart => { s with feed := .construct s.now s.feed.db }
  | .replace feedId =>
    { s with
      feed := .construct s.now { feedId }
      feedIds := feedId :: s.feedIds
      earlier := s.recorded
      current := []
      read := 0 }
  | .startRequest input => { s with gateway.store := s.gateway.store.startRequest input }
  | .pruneRequests before => { s with gateway.store := s.gateway.store.pruneRequests before }
  | .poll => s.sendPoll
  | .answer => s.answerPoll
  | .answerLate request =>
    if request ∈ s.abandoned then { s with feed := (s.feed.page request.after true).1 } else s
  | .deliver faults => s.deliver number faults
  | .fail failure => { s.giveUp with poller := s.poller.fail failure }
  | .restartGateway faults =>
    { s.giveUp with gateway := .construct s.now s.gateway.store faults, poller := {} }

end Deliver

/-- A poll was completed in the last seven days, and no more events wait than are stored. -/
def Retained (s : SpendRun) : Prop :=
  s.now - UNACKED_RETENTION_MS ≤ s.reportedAt ∧ s.waiting.length < MAX_STORED_EVENTS

/-- Polls are often enough, and a feed is replaced by a fresh one, and only once it was read. -/
def Provided (s : SpendRun) : SpendCall → Prop
  | .track .. | .record _ | .restart => s.Retained
  | .replace feedId => feedId ∉ s.feedIds ∧ s.waiting = []
  | _ => True

/-- The cursor of a request is of the feed that is asked, or no number that it has handed out and that was not
    read yet. -/
def Sound (s : SpendRun) (request : PageRequest) : Prop :=
  request.bootId = some s.feed.db.feedId ∨ request.after ≤ s.read ∨ s.feed.db.lastSeq < request.after

/-- No poll reaches a feed with the cursor of another that goes beyond what was read. -/
def SameFeed (s : SpendRun) : SpendCall → Prop
  | .answer => ∀ sent ∈ s.inFlight, sent.2 = none → s.Sound sent.1
  | .answerLate request => request ∈ s.abandoned → s.Sound request
  | _ => True

instance (s : SpendRun) : Decidable s.Retained :=
  inferInstanceAs (Decidable (s.now - UNACKED_RETENTION_MS ≤ s.reportedAt ∧ s.waiting.length < MAX_STORED_EVENTS))

instance (s : SpendRun) : ∀ call, Decidable (s.Provided call)
  | .track .. | .record _ | .restart => inferInstanceAs (Decidable s.Retained)
  | .replace feedId => inferInstanceAs (Decidable (feedId ∉ s.feedIds ∧ s.waiting = []))
  | .elapse _ | .startRequest _ | .pruneRequests _ | .poll | .answer | .answerLate _ | .deliver _ | .fail _
  | .restartGateway _ => .isTrue trivial

instance (s : SpendRun) (request : PageRequest) : Decidable (s.Sound request) :=
  inferInstanceAs (Decidable (_ ∨ _ ∨ _))

instance (s : SpendRun) : ∀ call, Decidable (s.SameFeed call)
  | .answer => inferInstanceAs (Decidable (∀ sent ∈ s.inFlight, sent.2 = none → s.Sound sent.1))
  | .answerLate request => inferInstanceAs (Decidable (request ∈ s.abandoned → s.Sound request))
  | .elapse _ | .track .. | .record _ | .restart | .replace _ | .startRequest _ | .pruneRequests _ | .poll | .deliver _
  | .fail _ | .restartGateway _ => .isTrue trivial

end SpendRun

def spendMachine (number : String → Option Int) : Machine SpendRun SpendCall Empty where
  step s call := .ok (s.apply number call)

end AntSeed.Gateway
