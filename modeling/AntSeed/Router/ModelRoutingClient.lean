import AntSeed.Lib.Json
import AntSeed.Lib.Machine
import AntSeed.Protocol.ServiceMetadata
import Mathlib.Data.List.Dedup

/-! # The buyer side of routing services

`selectRoute` looks for the saved recommendation of a conversation, forgets it before the paid call
is awaited and saves the new one after it. What is bought twice or overwritten depends on how the
calls of one conversation interleave.
-/

namespace AntSeed.Router

open Keyed List

def maxCachedConversations : Nat := 500

/-- The user's latest text and the routing inputs that a recommendation was made for. -/
structure Turn where
  text : JsString
  fingerprint : List Char
  deriving DecidableEq

structure CachedRoute (ρ : Type) extends Turn where
  routes : ρ

section Request

variable {ν : Type}

def blockText : Json ν → JsString
  | .object members => match Json.get "text" members with
    | some (.string text) => text
    | _ => []
  | _ => []

def contentText : Option (Json ν) → JsString
  | some (.string text) => text
  | some (.array blocks) => (JsString.ofString "\n").intercalate (blocks.map blockText)
  | _ => []

/-- `!text.trim()` -/
def isBlank (text : JsString) : Bool :=
  text.all fun unit => Protocol.isWhitespace (Char.ofNat unit.toNat)

/-- The text of a message of the user, if it has any. -/
def userText : Json ν → Option JsString
  | .object members => match Json.get "role" members with
    | some (.string role) =>
      let text := contentText (Json.get "content" members)
      if role = JsString.ofString "user" ∧ isBlank text = false then some text else none
    | _ => none
  | _ => none

def latestUserText (body : List (JsString × Json ν)) : JsString :=
  let messages := match Json.get "messages" body, Json.get "input" body with
    | some (.array messages), _ => messages
    | _, some (.array input) => input
    | _, _ => []
  match messages.reverse.findSome? userText, Json.get "input" body with
  | some text, _ => text
  | none, some (.string input) => input
  | none, _ => []

/-- The request and the context of a call, with what other code makes of them. -/
structure RouteRequest (ν ρ : Type) where
  aborted : Bool := false
  /-- the validated options, unless the router is not found or an option is refused -/
  options : Option (List (JsString × Json ν)) := some []
  /-- the members of the decoded body, unless it cannot be decoded -/
  body : Option (List (JsString × Json ν))
  routingService : Json ν
  candidates : List (Json ν)
  conversationKey : Option JsString
  acceptRecommendations : ρ → Bool

variable {ρ : Type} (numbers : JsNumbers ν) (localeCompare : JsString → JsString → Int)

def RouteRequest.key (request : RouteRequest ν ρ) : Option JsString :=
  request.conversationKey.filter (· ≠ [])

def fingerprint (routingService : Json ν) (options : List (JsString × Json ν)) : List Char :=
  let sorted := options.mergeSort fun a b => localeCompare a.1 b.1 ≤ 0
  Json.stringify numbers
    (.array [routingService, .array (sorted.map fun option => .array [.string option.1, option.2])])

inductive SelectError where
  | aborted | router | body | noUserText | noCandidates | notRanking | noUsableRecommendation
  deriving DecidableEq, Repr

/-- What is checked before a recommendation is looked up. -/
def RouteRequest.turn (request : RouteRequest ν ρ) : Except SelectError Turn := do
  if request.aborted then throw .aborted
  let some options := request.options | throw .router
  let some body := request.body | throw .body
  if isBlank (latestUserText body) then throw .noUserText
  if request.candidates = [] then throw .noCandidates
  return ⟨latestUserText body, fingerprint numbers localeCompare request.routingService options⟩

end Request

/-- A call that awaits `adapter.rank`. -/
structure Ranking (ρ : Type) where
  call : Nat
  key : Option JsString
  turn : Turn
  acceptRecommendations : ρ → Bool

/-- What a call has returned, and whether its ranking was bought. -/
structure Answer (ρ : Type) where
  key : Option JsString
  turn : Turn
  routes : ρ
  bought : Bool
  deriving DecidableEq

/-- The client, the calls that wait and what the others have returned. -/
structure ModelRoutingClient (ρ : Type) where
  lastRoutes : List (JsString × CachedRoute ρ) := []
  calls : Nat := 0
  rankings : List (Ranking ρ) := []
  answers : List (Answer ρ) := []

inductive RouteEvent (ν ρ : Type) where
  | selectRoute (request : RouteRequest ν ρ)
  /-- `adapter.rank` succeeds, and its call goes on. -/
  | ranked (call : Nat) (routes : ρ)
  | rankFailed (call : Nat)

namespace ModelRoutingClient

variable {ν ρ : Type} (numbers : JsNumbers ν) (localeCompare : JsString → JsString → Int)
  (s : ModelRoutingClient ρ)

/-- The recommendation saved for a conversation. -/
def saved (key : Option JsString) : Option (CachedRoute ρ) :=
  key.bind fun key => (get Prod.fst key s.lastRoutes).map Prod.snd

/-- A call that finds its turn saved: nothing is bought. -/
def found (key : Option JsString) (cached : CachedRoute ρ) : ModelRoutingClient ρ :=
  { s with calls := s.calls + 1, answers := s.answers ++ [⟨key, cached.toTurn, cached.routes, false⟩] }

/-- One that does not: it goes on to await its ranking. -/
def missed (request : RouteRequest ν ρ) (turn : Turn) : ModelRoutingClient ρ :=
  { s with
    calls := s.calls + 1
    lastRoutes := request.key.elim s.lastRoutes fun key => erase Prod.fst key s.lastRoutes
    rankings := s.rankings ++ [⟨s.calls, request.key, turn, request.acceptRecommendations⟩] }

def selectRoute (request : RouteRequest ν ρ) : Except SelectError (ModelRoutingClient ρ) := do
  let turn ← request.turn numbers localeCompare
  match (s.saved request.key).filter fun cached =>
      cached.toTurn = turn ∧ request.acceptRecommendations cached.routes with
  | some cached => return s.found request.key cached
  | none => return s.missed request turn

def save (lastRoutes : List (JsString × CachedRoute ρ)) (key : JsString) (route : CachedRoute ρ) :
    List (JsString × CachedRoute ρ) :=
  let lastRoutes := set Prod.fst (key, route) lastRoutes
  if lastRoutes.length > maxCachedConversations then lastRoutes.tail else lastRoutes

def without (call : Nat) : ModelRoutingClient ρ :=
  { s with rankings := s.rankings.filter (·.call ≠ call) }

/-- An accepted ranking is saved for its conversation, if it has one, and returned. -/
def bought (ranking : Ranking ρ) (routes : ρ) : ModelRoutingClient ρ :=
  { s.without ranking.call with
    lastRoutes := ranking.key.elim s.lastRoutes fun key => save s.lastRoutes key ⟨ranking.turn, routes⟩
    answers := s.answers ++ [⟨ranking.key, ranking.turn, routes, true⟩] }

def ranked (call : Nat) (routes : ρ) : Except SelectError (ModelRoutingClient ρ) :=
  match s.rankings.find? (·.call = call) with
  | none => .error .notRanking
  | some ranking =>
    .ok (if ranking.acceptRecommendations routes then s.bought ranking routes else s.without call)

def step : RouteEvent ν ρ → Except SelectError (ModelRoutingClient ρ)
  | .selectRoute request => s.selectRoute numbers localeCompare request
  | .ranked call routes => s.ranked call routes
  | .rankFailed call => .ok (s.without call)

def machine : Machine (ModelRoutingClient ρ) (RouteEvent ν ρ) SelectError :=
  ⟨step numbers localeCompare⟩

/-- When a ranking succeeds, none of its conversation that was awaited beside it succeeds later. -/
def Unrivalled (s : ModelRoutingClient ρ) : List (RouteEvent ν ρ) → Prop
  | [] => True
  | event :: later =>
    (∀ call routes, event = .ranked call routes → ∀ ranking ∈ s.rankings, ∀ rival ∈ s.rankings,
      ranking.call = call → rival.call ≠ call → ranking.key ≠ none → rival.key = ranking.key →
      ∀ routes', .ranked rival.call routes' ∉ later) ∧
    Unrivalled ((machine numbers localeCompare).exec s event) later

/-- The calls of one conversation are about one turn. -/
def StaysIn (key : JsString) (turn : Turn) : RouteEvent ν ρ → Prop
  | .selectRoute request => request.key = some key →
    ∀ other, request.turn numbers localeCompare = .ok other → other = turn
  | _ => True

/-- What the calls of one turn of a conversation have returned, after the first answers. -/
def given (first : Nat) (key : JsString) (turn : Turn) : List (Answer ρ) :=
  (s.answers.drop first).filter fun answer => answer.key = some key ∧ answer.turn = turn

/-- The conversations that the calls of a run belong to. -/
def conversations (events : List (RouteEvent ν ρ)) : List JsString :=
  events.filterMap fun event => match event with
    | .selectRoute request => request.key
    | _ => none

/-- While a conversation stays in one turn at most one ranking is bought for it and every call returns
    the same; and a ranking that completes never replaces what is saved. -/
def PaysOnce (events : List (RouteEvent ν ρ)) : Prop :=
  let run := (machine numbers localeCompare).run
  (∀ before stretch later key turn, events = before ++ (stretch ++ later) →
    (∀ event ∈ stretch, StaysIn numbers localeCompare key turn event) →
    let answers := (run {} (before ++ stretch)).given (run {} before).answers.length key turn
    answers.countP (·.bought) ≤ 1 ∧ ∀ one ∈ answers, ∀ other ∈ answers, one.routes = other.routes) ∧
  ∀ before call routes later, events = before ++ .ranked call routes :: later →
    ∀ ranking ∈ (run {} before).rankings, ranking.call = call → (run {} before).saved ranking.key = none

variable {numbers : JsNumbers ν} {localeCompare : JsString → JsString → Int} {names : List JsString}
  {s s' : ModelRoutingClient ρ} {event : RouteEvent ν ρ} {later : List (RouteEvent ν ρ)}

section Effects

variable {request : RouteRequest ν ρ} {turn : Turn}

theorem selectRoute_cases (taken : s.selectRoute numbers localeCompare request = .ok s')
    (accepting : ∀ routes, request.acceptRecommendations routes) :
    ∃ turn, request.turn numbers localeCompare = .ok turn ∧
      ((∃ cached, s.saved request.key = some cached ∧ cached.toTurn = turn ∧
          s' = s.found request.key cached) ∨
        (∀ cached, s.saved request.key = some cached → cached.toTurn ≠ turn) ∧
          s' = s.missed request turn) := by
  unfold selectRoute at taken
  cases asked : request.turn numbers localeCompare with
  | error =>
    rw [asked] at taken
    cases taken
  | ok turn =>
    rw [asked] at taken
    refine ⟨turn, rfl, ?_⟩
    cases looked : (s.saved request.key).filter fun cached =>
        cached.toTurn = turn ∧ request.acceptRecommendations cached.routes with
    | some cached =>
      obtain ⟨isSaved, same⟩ := Option.filter_eq_some_iff.mp looked
      simp only [accepting, and_true, decide_eq_true_eq] at same
      refine .inl ⟨cached, isSaved, same, ?_⟩
      simp only [bind, Except.bind, looked, pure, Except.pure] at taken
      exact (Except.ok.inj taken).symm
    | none =>
      refine .inr ⟨fun cached isSaved same => ?_, ?_⟩
      · simp [isSaved, same, accepting, Option.filter] at looked
      · simp only [bind, Except.bind, looked, pure, Except.pure] at taken
        exact (Except.ok.inj taken).symm

theorem ranked_cases (taken : s.ranked call routes = .ok s')
    (accepting : ∀ ranking ∈ s.rankings, ∀ routes, ranking.acceptRecommendations routes) :
    ∃ ranking ∈ s.rankings, ranking.call = call ∧ s' = s.bought ranking routes := by
  unfold ranked at taken
  split at taken
  · cases taken
  next ranking isRanking =>
    have here := mem_of_find?_eq_some isRanking
    have same : ranking.call = call := by simpa using find?_some isRanking
    rw [if_pos (accepting ranking here routes)] at taken
    refine ⟨ranking, here, same, ?_⟩
    subst same
    exact (Except.ok.inj taken).symm

theorem saved_missed (key : JsString) : (s.missed request turn).saved (some key) =
    if request.key = some key then none else s.saved (some key) := by
  unfold missed saved
  cases asked : request.key with
  | none => simp
  | some other =>
    by_cases same : other = key
    · simp [get_erase, same]
    · simp [get_erase, same, Ne.symm same]

end Effects

/-- At most `names` are saved and asked for, and what is in flight beside a saved recommendation of its
    conversation does not succeed any more. -/
structure Kept (names : List JsString) (later : List (RouteEvent ν ρ)) (s : ModelRoutingClient ρ) :
    Prop where
  distinct : (s.lastRoutes.map Prod.fst).Nodup
  named : s.lastRoutes.map Prod.fst ⊆ names
  conversing : ∀ ranking ∈ s.rankings, ∀ key, ranking.key = some key → key ∈ names
  accepting : ∀ ranking ∈ s.rankings, ∀ routes, ranking.acceptRecommendations routes
  quiet : ∀ key cached, s.saved (some key) = some cached →
    ∀ ranking ∈ s.rankings, ranking.key = some key → ∀ routes, .ranked ranking.call routes ∉ later

/-- The calls of a run accept what is returned and belong to the conversations `names`. -/
def Proper (names : List JsString) : RouteEvent ν ρ → Prop
  | .selectRoute request => (∀ key, request.key = some key → key ∈ names) ∧
    ∀ routes, request.acceptRecommendations routes
  | _ => True

variable {first : Nat} {key : JsString} {turn : Turn} {ranking : Ranking ρ} {routes : ρ}
  {request : RouteRequest ν ρ}

section

variable (h : Kept names later s) (few : names.length ≤ maxCachedConversations)

include h few

theorem Kept.length
    (isName : key ∈ names) (route : CachedRoute ρ) :
    save s.lastRoutes key route = set Prod.fst (key, route) s.lastRoutes := by
  have subset : (set Prod.fst (key, route) s.lastRoutes).map Prod.fst ⊆ names := by
    rw [keys_set]
    split
    · exact h.named
    · exact append_subset.mpr ⟨h.named, by simpa using isName⟩
  have short := (subperm_of_subset (nodup_keys_set h.distinct) subset).length_le
  rw [length_map] at short
  exact if_neg (by omega)

theorem Kept.saved_bought
    (here : ranking ∈ s.rankings) (routes : ρ) (key : JsString) :
    (s.bought ranking routes).saved (some key) =
      if ranking.key = some key then some ⟨ranking.turn, routes⟩ else s.saved (some key) := by
  unfold bought saved
  cases keyed : ranking.key with
  | none => simp
  | some other =>
    simp only [Option.elim, Option.bind_some, get_set,
      h.length few (h.conversing ranking here other keyed)]
    by_cases same : other = key
    · simp [same]
    · simp [same, Ne.symm same]

end

theorem Kept.skip (h : Kept names (event :: later) s) : Kept names later s :=
  { h with quiet := fun key cached isSaved ranking here keyed routes again =>
      h.quiet key cached isSaved ranking here keyed routes (mem_cons_of_mem event again) }

theorem Kept.without (h : Kept names later s) (call : Nat) : Kept names later (s.without call) := by
  have fewer : (s.without call).rankings ⊆ s.rankings := filter_subset_self _
  exact ⟨h.distinct, h.named, fun ranking here => h.conversing ranking (fewer here),
    fun ranking here => h.accepting ranking (fewer here),
    fun key cached isSaved ranking here => h.quiet key cached isSaved ranking (fewer here)⟩

theorem Kept.missed (h : Kept names later s)
    (proper : Proper names (.selectRoute request : RouteEvent ν ρ)) :
    Kept names later (s.missed request turn) := by
  have fewer : (s.missed request turn).lastRoutes.Sublist s.lastRoutes := by
    unfold ModelRoutingClient.missed
    cases request.key with
    | none => exact .refl _
    | some => exact filter_sublist
  refine ⟨h.distinct.sublist (fewer.map _), fun key here => h.named ((fewer.map _).subset here), ?_,
    ?_, ?_⟩
  · intro ranking here key keyed
    cases mem_append.mp here with
    | inl old => exact h.conversing ranking old key keyed
    | inr new =>
      obtain rfl := mem_singleton.mp new
      exact proper.1 key keyed
  · intro ranking here
    cases mem_append.mp here with
    | inl old => exact h.accepting ranking old
    | inr new => exact mem_singleton.mp new ▸ proper.2
  · intro key cached isSaved ranking here keyed
    rw [saved_missed] at isSaved
    split at isSaved
    · cases isSaved
    next other =>
      cases mem_append.mp here with
      | inl old => exact h.quiet key cached isSaved ranking old keyed
      | inr new =>
        obtain rfl := mem_singleton.mp new
        exact absurd keyed other

theorem Kept.bought (h : Kept names (.ranked ranking.call routes :: later) s)
    (here : ranking ∈ s.rankings) (few : names.length ≤ maxCachedConversations)
    (unrivalled : ∀ rival ∈ s.rankings, rival.call ≠ ranking.call → ranking.key ≠ none →
      rival.key = ranking.key → ∀ routes', .ranked rival.call routes' ∉ later) :
    Kept names later (s.bought ranking routes) := by
  have rest := h.skip.without ranking.call
  have keys : (s.bought ranking routes).lastRoutes.map Prod.fst ⊆ names ∧
      ((s.bought ranking routes).lastRoutes.map Prod.fst).Nodup := by
    unfold ModelRoutingClient.bought
    cases keyed : ranking.key with
    | none => exact ⟨h.named, h.distinct⟩
    | some key =>
      have isName := h.conversing ranking here key keyed
      simp only [Option.elim, h.length few isName]
      refine ⟨fun other there => ?_, nodup_keys_set h.distinct⟩
      rw [keys_set] at there
      split at there
      · exact h.named there
      · cases mem_append.mp there with
        | inl old => exact h.named old
        | inr new => exact mem_singleton.mp new ▸ isName
  refine ⟨keys.2, keys.1, rest.conversing, rest.accepting, ?_⟩
  intro key cached isSaved rival there keyed
  obtain ⟨old, other⟩ := mem_filter.mp there
  rw [h.saved_bought few here] at isSaved
  split at isSaved
  next mine =>
    exact unrivalled rival old (by simpa using other) (by simp [mine]) (keyed.trans mine.symm)
  · exact rest.quiet key cached isSaved rival there keyed

theorem Kept.exec (h : Kept names (event :: later) s) (few : names.length ≤ maxCachedConversations)
    (proper : Proper names event) (unrivalled : s.Unrivalled numbers localeCompare (event :: later)) :
    Kept names later ((machine numbers localeCompare).exec s event) := by
  cases (machine numbers localeCompare).exec_cases s event with
  | inr same =>
    rw [same]
    exact h.skip
  | inl taken =>
    generalize (machine numbers localeCompare).exec s event = s' at taken
    cases event with
    | selectRoute request =>
      obtain ⟨turn, -, ⟨cached, -, -, rfl⟩ | ⟨-, rfl⟩⟩ := selectRoute_cases taken proper.2
      · exact { h.skip with }
      · exact h.skip.missed proper
    | ranked call routes =>
      obtain ⟨ranking, here, rfl, rfl⟩ := ranked_cases taken h.accepting
      exact h.bought here few fun rival there other =>
        unrivalled.1 _ _ rfl ranking here rival there rfl other
    | rankFailed call =>
      cases taken
      exact h.skip.without call

/-- Since the first answers, the conversation `key` has been in one turn. -/
structure InTurn (first : Nat) (key : JsString) (turn : Turn) (s : ModelRoutingClient ρ) : Prop where
  since : first ≤ s.answers.length
  once : (s.given first key turn).countP (·.bought) ≤ 1
  same : s.given first key turn = [] ∨
    ∃ cached, s.saved (some key) = some cached ∧ cached.toTurn = turn ∧
      ∀ answer ∈ s.given first key turn, answer.routes = cached.routes

theorem given_append (since : first ≤ s.answers.length)
    (appended : s'.answers = s.answers ++ [answer]) :
    s'.given first key turn = s.given first key turn ++
      if answer.key = some key ∧ answer.turn = turn then [answer] else [] := by
  unfold given
  rw [appended, drop_append_of_le_length since, filter_append]
  congr 1
  by_cases mine : answer.key = some key ∧ answer.turn = turn <;> simp [mine]

theorem InTurn.found {cached : CachedRoute ρ} {asked : Option JsString} (h : InTurn first key turn s)
    (isSaved : s.saved asked = some cached) : InTurn first key turn (s.found asked cached) := by
  have list : (s.found asked cached).given first key turn =
      s.given first key turn ++ if _ then [_] else [] := given_append h.since rfl
  have since : first ≤ (s.found asked cached).answers.length := by
    rw [ModelRoutingClient.found, length_append]
    exact h.since.trans (Nat.le_add_right _ _)
  by_cases mine : asked = some key ∧ cached.toTurn = turn
  · rw [if_pos mine] at list
    refine ⟨since, by simpa [list] using h.once,
      .inr ⟨cached, mine.1 ▸ isSaved, mine.2, fun answer here => ?_⟩⟩
    rw [list] at here
    cases mem_append.mp here with
    | inr new => exact mem_singleton.mp new ▸ rfl
    | inl old =>
      rcases h.same with nothing | ⟨known, isKnown, -, alike⟩
      · rw [nothing] at old
        cases old
      · cases isKnown.symm.trans (mine.1 ▸ isSaved)
        exact alike answer old
  · rw [if_neg mine, append_nil] at list
    exact ⟨since, list ▸ h.once, list ▸ h.same⟩

theorem InTurn.bought (h : InTurn first key turn s)
    (kept : Kept names (.ranked ranking.call routes :: later) s)
    (few : names.length ≤ maxCachedConversations) (here : ranking ∈ s.rankings) :
    InTurn first key turn (s.bought ranking routes) := by
  have list : (s.bought ranking routes).given first key turn =
      s.given first key turn ++ if _ then [_] else [] := given_append h.since rfl
  have since : first ≤ (s.bought ranking routes).answers.length := by
    rw [ModelRoutingClient.bought, length_append]
    exact h.since.trans (Nat.le_add_right _ _)
  have keeps := kept.saved_bought few here routes key
  by_cases mine : ranking.key = some key
  · have nothing : s.given first key turn = [] := h.same.resolve_right fun ⟨cached, isSaved, _⟩ =>
      kept.quiet key cached isSaved ranking here mine routes mem_cons_self
    rw [if_pos mine] at keeps
    rw [nothing, nil_append] at list
    by_cases isTurn : ranking.turn = turn
    · rw [if_pos ⟨mine, isTurn⟩] at list
      exact ⟨since, by simp [list], .inr ⟨_, keeps, isTurn, by simp [list]⟩⟩
    · rw [if_neg fun both => isTurn both.2] at list
      exact ⟨since, by simp [list], .inl list⟩
  · rw [if_neg mine] at keeps
    rw [if_neg fun both => mine both.1, append_nil] at list
    exact ⟨since, list ▸ h.once, by rw [list, keeps]; exact h.same⟩

theorem InTurn.exec (h : InTurn first key turn s) (kept : Kept names (event :: later) s)
    (few : names.length ≤ maxCachedConversations) (proper : Proper names event)
    (stays : StaysIn numbers localeCompare key turn event) :
    InTurn first key turn ((machine numbers localeCompare).exec s event) := by
  cases (machine numbers localeCompare).exec_cases s event with
  | inr same =>
    rw [same]
    exact h
  | inl taken =>
    generalize (machine numbers localeCompare).exec s event = s' at taken
    cases event with
    | selectRoute request =>
      obtain ⟨asked, isAsked, ⟨cached, isSaved, isTurn, rfl⟩ | ⟨fresh, rfl⟩⟩ :=
        selectRoute_cases taken proper.2
      · exact h.found isSaved
      · refine ⟨h.since, h.once, h.same.imp_right fun ⟨known, isKnown, isTurn, alike⟩ =>
          ⟨known, ?_, isTurn, alike⟩⟩
        rw [saved_missed]
        split
        next mine =>
          exact absurd (isTurn.trans (stays mine asked isAsked).symm) (fresh known (mine ▸ isKnown))
        · exact isKnown
    | ranked call routes =>
      obtain ⟨ranking, here, rfl, rfl⟩ := ranked_cases taken kept.accepting
      exact h.bought kept few here
    | rankFailed call =>
      cases taken
      exact ⟨h.since, h.once, h.same⟩

section Runs

variable {events before stretch : List (RouteEvent ν ρ)}

theorem Kept.run (h : Kept names (before ++ later) s) (few : names.length ≤ maxCachedConversations)
    (proper : ∀ event ∈ before, Proper names event)
    (unrivalled : s.Unrivalled numbers localeCompare (before ++ later)) :
    Kept names later ((machine numbers localeCompare).run s before) ∧
      ((machine numbers localeCompare).run s before).Unrivalled numbers localeCompare later := by
  induction before generalizing s with
  | nil => exact ⟨h, unrivalled⟩
  | cons event before ih =>
    exact ih (h.exec few (proper event mem_cons_self) unrivalled)
      (fun other here => proper other (mem_cons_of_mem event here)) unrivalled.2

theorem InTurn.run (h : InTurn first key turn s) (kept : Kept names (stretch ++ later) s)
    (few : names.length ≤ maxCachedConversations) (proper : ∀ event ∈ stretch, Proper names event)
    (unrivalled : s.Unrivalled numbers localeCompare (stretch ++ later))
    (stays : ∀ event ∈ stretch, StaysIn numbers localeCompare key turn event) :
    InTurn first key turn ((machine numbers localeCompare).run s stretch) := by
  induction stretch generalizing s with
  | nil => exact h
  | cons event stretch ih =>
    have here := proper event mem_cons_self
    exact ih (h.exec kept few here (stays event mem_cons_self)) (kept.exec few here unrivalled)
      (fun other there => proper other (mem_cons_of_mem event there)) unrivalled.2
      fun other there => stays other (mem_cons_of_mem event there)

theorem proper_of_mem
    (accepting : ∀ request, .selectRoute request ∈ events → ∀ routes, request.acceptRecommendations routes)
    (here : event ∈ events) : Proper (conversations events).dedup event := by
  cases event with
  | selectRoute request =>
    exact ⟨fun key keyed => mem_dedup.mpr (mem_filterMap.mpr ⟨_, here, keyed⟩),
      accepting request here⟩
  | ranked | rankFailed => trivial

/-- In a run in which the recommendations stay acceptable, of fewer conversations than the client saves
    and in which, of two rankings of one conversation that are awaited together, at most one succeeds:
    a turn is ranked once, all its calls return that ranking, and none replaces what is saved. -/
theorem turns_are_ranked_once (events : List (RouteEvent ν ρ))
    (accepting : ∀ request, .selectRoute request ∈ events → ∀ routes, request.acceptRecommendations routes)
    (few : (conversations events).dedup.length < maxCachedConversations)
    (unrivalled : Unrivalled numbers localeCompare {} events) : PaysOnce numbers localeCompare events := by
  have start : Kept (conversations events).dedup events {} := by constructor <;> simp [saved]
  constructor
  · rintro before stretch later key turn rfl stays
    have proper : ∀ event ∈ before ++ (stretch ++ later), Proper _ event := fun event here =>
      proper_of_mem accepting here
    obtain ⟨kept, rest⟩ := start.run few.le
      (fun event here => proper event (mem_append_left _ here)) unrivalled
    generalize reached : (machine numbers localeCompare).run {} before = s at kept rest
    have here : InTurn s.answers.length key turn s := by
      constructor <;> simp [given]
    have after := here.run kept few.le (fun event here =>
      proper event (mem_append_right _ (mem_append_left _ here))) rest stays
    simp only [Machine.run_append, reached]
    refine ⟨after.once, fun one here other there => ?_⟩
    rcases after.same with nothing | ⟨cached, -, -, alike⟩
    · rw [nothing] at here
      cases here
    · exact (alike one here).trans (alike other there).symm
  · rintro before call routes later rfl ranking here rfl
    obtain ⟨kept, -⟩ := start.run few.le
      (fun event here => proper_of_mem accepting (mem_append_left _ here)) unrivalled
    cases keyed : ranking.key with
    | none => rfl
    | some key =>
      cases isSaved : saved _ (some key) with
      | none => rfl
      | some cached =>
        exact absurd mem_cons_self (kept.quiet key cached isSaved ranking here keyed routes)

end Runs

open JsNumbers (oneNumber)

def hello : RouteRequest Unit Nat where
  body := some [(.ofString "messages", .array [.object
    [(.ofString "role", .string (.ofString "user")), (.ofString "content", .string (.ofString "hello"))]])]
  routingService := .null
  candidates := [.null]
  conversationKey := some (.ofString "chat")
  acceptRecommendations _ := true

def helloTurn : Turn := ⟨.ofString "hello", fingerprint oneNumber (fun _ _ => 0) .null []⟩

/-- Two calls of one turn, the second made while the first is being ranked. -/
def overlapping : List (RouteEvent Unit Nat) :=
  [.selectRoute hello, .selectRoute hello, .ranked 0 1, .ranked 1 2]

theorem overlapping_calls_pay_twice : (conversations overlapping).dedup.length < maxCachedConversations ∧
    (∀ request, .selectRoute request ∈ overlapping → ∀ routes, request.acceptRecommendations routes) ∧
    ¬ PaysOnce oneNumber (fun _ _ => 0) overlapping := by
  refine ⟨by decide, ?_, fun paysOnce => ?_⟩
  · intro request here routes
    simp [overlapping] at here
    simp [here, hello]
  · have stays : ∀ event ∈ overlapping,
        StaysIn oneNumber (fun _ _ => 0) (.ofString "chat") helloTurn event := by
      intro event here
      simp only [overlapping, mem_cons, not_mem_nil, or_false] at here
      rcases here with rfl | rfl | rfl | rfl
      · exact fun _ _ isTurn => (Except.ok.inj isTurn).symm
      · exact fun _ _ isTurn => (Except.ok.inj isTurn).symm
      · trivial
      · trivial
    exact absurd (paysOnce.1 [] overlapping [] _ helloTurn rfl stays).1 (by decide +kernel)

/-- A second call after the first has been answered. -/
def inTurn : List (RouteEvent Unit Nat) := [.selectRoute hello, .ranked 0 1, .selectRoute hello]

theorem inTurn_pays_once : PaysOnce oneNumber (fun _ _ => 0) inTurn := by
  refine turns_are_ranked_once inTurn ?_ (by decide) ?_
  · intro request here routes
    simp [inTurn] at here
    simp [here, hello]
  · refine ⟨nofun, fun _ _ _ _ _ _ _ _ _ _ _ _ => ?_, nofun, trivial⟩
    simp

end ModelRoutingClient

end AntSeed.Router
