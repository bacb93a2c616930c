import AntSeed.Buyer.BuyerPaymentManager

/-! # The signed amount never moves backward

A path reads the signed amount, signs, commits, and then writes the new amount
over whatever is there by now. So nothing holds of paths that overtake each
other. Where none goes on after the amount was moved behind its back, every
amount that is written or sent is at least the one before.
-/

namespace AntSeed.Buyer

open Async Account
open Option

namespace Account

def signedSoFar (s : Account) : Int := s.cumulativeAmount.getD 0

/-- No message names less than one sent before it. -/
def InOrder (s : Account) : Prop :=
  s.sent.Pairwise fun later earlier =>
    ∀ amount ∈ later.amount, ∀ before ∈ earlier.amount, before ≤ amount

structure Ordered (s : Account) : Prop where
  tracked : s.cumulativeAmount.isSome
  below : ∀ frame ∈ s.sent, ∀ amount ∈ frame.amount, amount ≤ s.signedSoFar
  inOrder : s.InOrder

end Account

theorem Account.Begins.ordered {s : Account} (begins : s.Begins) : s.Ordered := by
  cases begins with
  | opened =>
    refine ⟨rfl, fun frame member amount named => ?_, List.pairwise_singleton _ _⟩
    cases List.mem_singleton.mp member
    cases named
    exact le_rfl
  | loaded => exact ⟨rfl, fun _ member => (nomatch member), List.Pairwise.nil⟩

/-- What a path keeps while nobody else moves the amount. -/
def orderly : Contract Account Wait Reply where
  invariant := Ordered
  lasts s s' := s'.cumulativeAmount = s.cumulativeAmount
  allows s s' := s.signedSoFar ≤ s'.signedSoFar
  asks _ _ _ := True
  resumes _ _ _ := True

theorem orderly_follows : orderly.Follows cumulativeAmount where
  asks _ _ _ := trivial
  lasts same := same
  idle _ := le_rfl
  andThen := le_trans

/-- What a program returns when the amount is `c`, with the amount it leaves. -/
def Signs {α : Type} (c : Int) (x : Op α) (result : Int → α → Prop) : Prop :=
  Tracks orderly cumulativeAmount (some c) x fun left a => ∃ c', left = some c' ∧ result c' a

/-- The amount is left as it was. -/
def unmoved {α : Type} (c : Int) : Int → α → Prop := fun c' _ => c' = c

section Rules

variable {α β : Type} {c : Int} {mid : Int → α → Prop} {result result' : Int → β → Prop}

theorem Signs.pure {b : β} (proper : result c b) : Signs c (pure b : Op β) result :=
  tracks_pure ⟨c, rfl, proper⟩

theorem Signs.weaken (signs : Signs c x result')
    (weaker : ∀ c' b, result' c' b → result c' b) : Signs c x result :=
  Tracks.weaken signs fun _ b ⟨c', same, proper⟩ => ⟨c', same, weaker c' b proper⟩

theorem Signs.bind {x : Op α} {f : α → Op β} (first : Signs c x mid)
    (rest : ∀ c' a, mid c' a → Signs c' (f a) result) : Signs c (x >>= f) result := by
  refine Tracks.bind first fun left a ⟨c', same, proper⟩ => ?_
  subst same
  exact rest c' a proper

theorem Signs.get {f : Account → Op β} (rest : ∀ s, s.cumulativeAmount = some c → Signs c (f s) result) :
    Signs c (get >>= f) result :=
  tracks_get fun s _ amount => rest s amount

theorem Signs.wait : Signs c (wait label : Op Reply) (unmoved c) :=
  tracks_wait_bind orderly_follows fun _ _ _ _ _ => Signs.pure rfl

theorem Signs.ite {p : Prop} [Decidable p] {x y : Op β} (yes : p → Signs c x result)
    (no : ¬ p → Signs c y result) : Signs c (if p then x else y) result :=
  tracks_ite yes no

theorem Signs.awaited {x : Op β} (signs : Signs c x result) : Signs c (awaited x) result := by
  refine signs.bind fun c' b proper => Signs.wait.bind fun _ _ same => ?_
  subst same
  exact .pure proper

theorem Signs.change {c' : Int} {change : Account → Account} {frames : List Frame} (higher : c ≤ c')
    (names : ∀ frame ∈ frames, ∀ amount ∈ frame.amount, amount = c')
    (amount : ∀ s, s.cumulativeAmount = some c → (change s).cumulativeAmount = some c')
    (sent : ∀ s, (change s).sent = frames ++ s.sent) :
    Signs c (modify change : Op Unit) fun left _ => left = c' := by
  have tracks : Tracks orderly cumulativeAmount (some c) (modify change : Op Unit)
      fun left _ => left = some c' := by
    refine tracks_modify orderly_follows fun s ordered tracked => ?_
    have moved := amount s tracked
    have was : s.signedSoFar = c := by simp [signedSoFar, tracked]
    have is : (change s).signedSoFar = c' := by simp [signedSoFar, moved]
    have below : ∀ frame ∈ s.sent, ∀ a ∈ frame.amount, a ≤ c' := fun frame member a named =>
      (ordered.below frame member a named).trans (was.trans_le higher)
    refine ⟨⟨by simp [moved], ?_, ?_⟩, ?_, moved⟩
    · rw [sent, is]
      intro frame member a named
      rcases List.mem_append.mp member with new | old
      · exact (names frame new a named).le
      · exact below frame old a named
    · rw [InOrder, sent, List.pairwise_append]
      refine ⟨?_, ordered.inOrder, fun later new earlier old a named b before => ?_⟩
      · refine List.pairwise_of_forall_mem_list fun later inside earlier other a named b before => ?_
        rw [names later inside a named, names earlier other b before]
      · rw [names later new a named]
        exact below earlier old b before
    · show s.signedSoFar ≤ (change s).signedSoFar
      rw [was, is]
      exact higher
  exact tracks.weaken fun _ _ same => ⟨c', same, rfl⟩

theorem Signs.raise {c' : Int} {change : Account → Account} (higher : c ≤ c')
    (amount : ∀ s, s.cumulativeAmount = some c → (change s).cumulativeAmount = some c')
    (sent : ∀ s, (change s).sent = s.sent) :
    Signs c (modify change : Op Unit) fun left _ => left = c' :=
  @Signs.change _ _ _ [] higher (fun _ member => nomatch member) amount sent

theorem Signs.write {change : Account → Account}
    (amount : ∀ s, (change s).cumulativeAmount = s.cumulativeAmount)
    (sent : ∀ s, (change s).sent = s.sent) : Signs c (modify change : Op Unit) (unmoved c) :=
  .raise le_rfl (fun s tracked => (amount s).trans tracked) sent

theorem Signs.push {change : Account → Account}
    (names : ∀ amount ∈ frame.amount, amount = c)
    (amount : ∀ s, (change s).cumulativeAmount = s.cumulativeAmount)
    (sent : ∀ s, (change s).sent = frame :: s.sent) :
    Signs c (modify change : Op Unit) (unmoved c) :=
  @Signs.change _ _ _ [frame] le_rfl (by simpa using names)
    (fun s tracked => (amount s).trans tracked) sent

theorem Signs.send {frame : Frame} (names : ∀ amount ∈ frame.amount, amount = c) :
    Signs c (send frame) (unmoved c) :=
  .push names (fun _ => rfl) fun _ => rfl

end Rules

section Paths

variable {config : BuyerPaymentConfig} {c : Int}

theorem sign_signs : Signs c (sign message) (unmoved c) := by
  refine Signs.wait.bind fun _ _ same => ?_
  exact .pure same

variable {channel session : StoredChannel} {amount : Int} {stats : ResponseStats}
  {payload : NeedAuthPayload}

theorem commitAuthorization_signs : Signs c (commitAuthorization channel) (unmoved c) := by
  refine Signs.wait.bind fun _ reply same => ?_
  subst same
  refine .ite (fun _ => ?_) fun _ => .pure rfl
  refine Signs.bind (.write (fun _ => rfl) fun _ => rfl) fun _ _ same => ?_
  subst same
  refine Signs.wait.bind fun _ _ same => ?_
  exact .pure same

theorem signAndCommitSpendingAuth_signs :
    Signs c (signAndCommitSpendingAuth channel amount) (unmoved c) := by
  refine sign_signs.bind fun _ signed same => ?_
  subst same
  cases signed with
  | none => exact .pure rfl
  | some =>
    refine commitAuthorization_signs.bind fun _ _ same => ?_
    exact .pure same

theorem commitUpdatedSpendingAuth_signs (higher : c ≤ amount) :
    Signs c (commitUpdatedSpendingAuth session amount) fun left signed =>
      signed.isSome → left = amount := by
  refine signAndCommitSpendingAuth_signs.awaited.bind fun _ signed same => ?_
  subst same
  cases signed with
  | none => exact .pure (by simp)
  | some =>
    refine .bind (.raise higher (fun _ _ => rfl) fun _ => rfl) fun left _ moved => ?_
    exact .pure fun _ => moved

theorem commitAndSendReserveAuth_signs {pending : PendingReserveAuthorization}
    {initialReserveAmount : Option Int} :
    Signs c (commitAndSendReserveAuth session pending c initialReserveAmount) (unmoved c) := by
  refine commitAuthorization_signs.bind fun _ committed same => ?_
  subst same
  refine .ite (fun _ => ?_) fun _ => .pure rfl
  exact @Signs.push _ (.reserveAuth session.sessionId _ pending) _ (by simp [Frame.amount])
    (fun _ => rfl) fun _ => rfl

theorem topUpReserve_signs : Signs c (topUpReserve config) (unmoved c) := by
  refine Signs.get fun s _ => ?_
  cases s.session with
  | none => exact .pure rfl
  | some =>
    refine Signs.wait.bind fun _ balance same => ?_
    subst same
    refine .ite (fun _ => .pure rfl) fun _ => sign_signs.bind fun _ signed same => ?_
    subst same
    refine .get fun s amount => ?_
    cases signed with
    | none => exact .pure rfl
    | some =>
      rw [amount, getD_some]
      exact commitAndSendReserveAuth_signs.awaited

theorem topUpIf_signs {needed : Bool} :
    Signs c (if needed then awaited (topUpReserve config) else pure ()) anything := by
  refine .ite (fun _ => ?_) fun _ => .pure trivial
  exact topUpReserve_signs.awaited.weaken fun _ _ _ => trivial

theorem sendCommitted_signs {record : Account → Account} {last : Op Unit} {sig : Signed}
    (untouched : ∀ s, (record s).cumulativeAmount = s.cumulativeAmount)
    (silent : ∀ s, (record s).sent = s.sent) (ends : Signs amount last anything) :
    Signs amount (do
      modify record
      send (.spendingAuth session.sessionId amount sig)
      last) anything := by
  refine .bind (.write untouched silent) fun _ _ same => ?_
  subst same
  refine .bind (.send (by simp [Frame.amount])) fun _ _ same => ?_
  subst same
  exact ends

theorem resendCurrentSpendingAuth_signs : Signs c resendCurrentSpendingAuth anything := by
  refine .get fun s amount => ?_
  cases s.session with
  | none => exact .pure trivial
  | some =>
    simp only [amount, getD_some]
    refine sign_signs.bind fun _ signed same => ?_
    subst same
    cases signed with
    | none => exact .pure trivial
    | some =>
      refine commitAuthorization_signs.bind fun _ committed same => ?_
      subst same
      refine .ite (fun _ => ?_) fun _ => .pure trivial
      exact (Signs.send (by simp [Frame.amount])).weaken fun _ _ _ => trivial

theorem buildCloseChannelRequest_signs :
    Signs c (buildCloseChannelRequest includeAuth none) fun left payload =>
      ∀ channelId auth, payload = some (channelId, auth) → ∀ amount ∈ auth.map (·.1), amount = left := by
  refine .get fun s amount => ?_
  cases s.session with
  | none => exact .pure nofun
  | some =>
    simp only [amount, getD_some, map_none, getD_none, lt_irrefl, if_false]
    refine .ite (fun _ => .pure ?_) fun _ => ?_
    · rintro _ _ ⟨⟩
      simp
    · refine sign_signs.bind fun _ signed same => ?_
      subst same
      cases signed with
      | none => exact .pure nofun
      | some =>
        refine commitAuthorization_signs.bind fun _ committed same => .pure ?_
        rw [unmoved] at same
        cases committed with
        | false => exact nofun
        | true =>
          rintro _ _ ⟨⟩
          simp [same]

theorem sendCloseChannelRequest_signs :
    Signs c (sendCloseChannelRequest includeAuth none) anything := by
  refine buildCloseChannelRequest_signs.awaited.bind fun left payload names => ?_
  cases payload with
  | none => exact .pure trivial
  | some payload =>
    obtain ⟨channelId, auth⟩ := payload
    have sent := @Signs.send _ (.closeRequest channelId auth) (names channelId auth rfl)
    exact sent.weaken fun _ _ _ => trivial

theorem extendCurrentSpendingAuth_signs :
    Signs c (extendCurrentSpendingAuth config minBudgetPerRequest targetCumulative inFlightRequests)
      anything := by
  refine .get fun s amount => ?_
  cases s.session with
  | none => exact .pure trivial
  | some =>
    simp only [amount, getD_some]
    refine .ite (fun _ => topUpIf_signs) fun higher => ?_
    refine (commitUpdatedSpendingAuth_signs (not_le.mp higher).le).awaited.bind fun left signed moved => ?_
    cases signed with
    | none => exact .pure trivial
    | some =>
      rw [moved rfl]
      exact sendCommitted_signs (fun _ => rfl) (fun _ => rfl) topUpIf_signs

theorem signPerRequestAuth_signs :
    Signs c (signPerRequestAuth config stats) fun left result =>
      ∀ payload topUpNeeded, result = some (payload, topUpNeeded) →
        ∀ amount ∈ payload.amount, amount = left := by
  refine .get fun s amount => ?_
  cases s.session with
  | none => exact .pure nofun
  | some =>
    simp only [amount, getD_some]
    refine sign_signs.bind fun _ signed same => ?_
    subst same
    cases signed with
    | none => exact .pure nofun
    | some =>
      refine commitAuthorization_signs.bind fun _ committed same => ?_
      subst same
      refine .ite (fun _ => ?_) fun _ => .pure nofun
      refine .bind (.raise (le_max_left _ _) (fun _ _ => rfl) fun _ => rfl) fun left _ moved => ?_
      refine .get fun s _ => .pure ?_
      rintro _ _ ⟨⟩
      simp [Frame.amount, moved]

theorem sendPerRequestAuth_signs : Signs c (sendPerRequestAuth config stats) anything := by
  refine signPerRequestAuth_signs.awaited.bind fun left result names => ?_
  cases result with
  | none => exact .pure trivial
  | some result =>
    obtain ⟨payload, topUpNeeded⟩ := result
    refine .bind (.send (names payload topUpNeeded rfl)) fun _ _ same => ?_
    subst same
    exact topUpIf_signs

theorem accept_signs {claim : Claim} : Signs c (claim.accept config) (unmoved c) := by
  refine .ite (fun _ => ?_) fun _ => .pure rfl
  refine Signs.wait.bind fun _ _ same => ?_
  exact .pure same

theorem answerNeedAuth_signs {acceptedCost : Int} :
    Signs c (answerNeedAuth config payload session c acceptedCost) anything := by
  refine .get fun s _ => ?_
  cases s.answer config payload.requiredCumulativeAmount c acceptedCost with
  | none => exact .pure trivial
  | some =>
    refine .ite (fun _ => topUpIf_signs) fun higher => ?_
    refine (commitUpdatedSpendingAuth_signs (not_le.mp higher).le).awaited.bind fun left signed moved => ?_
    cases signed with
    | none => exact .pure trivial
    | some =>
      rw [moved rfl]
      refine sendCommitted_signs (fun _ => rfl) (fun _ => rfl) (Signs.get fun s _ => ?_)
      refine .ite (fun _ => ?_) fun _ => .pure trivial
      exact topUpReserve_signs.awaited.weaken fun _ _ _ => trivial

theorem handleNeedAuth_signs : Signs c (handleNeedAuth config payload) anything := by
  refine .get fun s amount => ?_
  cases s.session with
  | none => exact .pure trivial
  | some =>
    simp only [amount, getD_some]
    refine .ite (fun _ => .pure trivial) fun _ => accept_signs.bind fun _ accepted same => ?_
    subst same
    cases accepted with
    | none => exact .pure trivial
    | some => exact answerNeedAuth_signs

/-- The paths that authorize spending. -/
def Path.isSpending : Path → Bool
  | .signPerRequestAuth _ => true
  | .handleNeedAuth _ => true
  | .extendCurrentSpendingAuth _ _ _ => true
  | .resendCurrentSpendingAuth => true
  | .requestChannelClose _ => true
  | _ => false

theorem Path.run_signs {path : Path} (spending : path.isSpending) :
    Signs c (path.run config) anything := by
  cases path with
  | signPerRequestAuth => exact sendPerRequestAuth_signs
  | handleNeedAuth => exact handleNeedAuth_signs
  | extendCurrentSpendingAuth => exact extendCurrentSpendingAuth_signs
  | resendCurrentSpendingAuth => exact resendCurrentSpendingAuth_signs
  | requestChannelClose => exact sendCloseChannelRequest_signs
  | _ => simp [Path.isSpending] at spending

end Paths

section Runs

variable {config : BuyerPaymentConfig} {process : Process} {event : Event}

/-- Spending paths, and what goes on around them. -/
def Event.isSpending : Event → Bool
  | .path started => started.isSpending
  | .restart => false
  | _ => true

/-- A path that goes on, and not only to wait, finds the amount it paused with. -/
def Process.unmoved (process : Process) : Event → Bool
  | .resume n reply => (process.tasks[n]?).all fun task =>
    task.owner.state.cumulativeAmount = process.state.cumulativeAmount ∨ (task.next reply).Idle
  | _ => true

/-- Amounts are in order, and every path keeps them so from where it paused. -/
abbrev Process.Orderly (process : Process) : Prop :=
  Pool.Steady (fun _ : Unit => orderly) Ordered process

theorem step_orderly (spending : event.isSpending) (unmoved : process.unmoved event)
    (sound : process.Orderly) :
    (process.step config event).Orderly ∧
      process.state.signedSoFar ≤ (process.step config event).state.signedSoFar := by
  have quiet : ∀ change : Account → Account,
      (∀ s, (change s).cumulativeAmount = s.cumulativeAmount) → (∀ s, (change s).sent = s.sent) →
      Pool.Steady (fun _ : Unit => orderly) Ordered
        { process with state := change process.state } ∧
        process.state.signedSoFar ≤ (change process.state).signedSoFar := by
    intro change amount sent
    have same : (change process.state).signedSoFar = process.state.signedSoFar := by
      simp [signedSoFar, amount]
    refine ⟨⟨⟨?_, ?_, ?_⟩, sound.safe⟩, same.ge⟩
    · rw [amount]
      exact sound.holds.tracked
    · rw [sent, same]
      exact sound.holds.below
    · rw [InOrder, sent]
      exact sound.holds.inOrder
  cases event with
  | path path =>
    obtain ⟨c, amount⟩ := isSome_iff_exists.mp sound.holds.tracked
    have signs : Signs c (path.run config) anything := Path.run_signs spending
    rw [Signs, ← amount] at signs
    exact sound.pause (fun _ => rfl) (signs.runs orderly_follows rfl sound.holds)
  | resume n reply =>
    show Pool.Steady _ _ (process.wake n reply) ∧ _ ≤ (process.wake n reply).state.signedSoFar
    cases found : process.tasks[n]? with
    | none =>
      have stays : process.wake n reply = process := by simp [Pool.wake, found]
      rw [stays]
      exact ⟨sound, le_rfl⟩
    | some task =>
      simp only [Process.unmoved, found, all_some, decide_eq_true_eq] at unmoved
      rcases unmoved with same | idle
      · exact sound.wake (fun _ => rfl) found same.symm trivial
      · exact sound.goOn (fun _ => rfl) found (idle.runs orderly_follows rfl sound.holds le_rfl)
  | count tracker => exact quiet (fun s => { s with serviceTokensCounted := tracker }) (fun _ => rfl) fun _ => rfl
  | elapse seconds => exact quiet (fun s => { s with now := s.now + seconds }) (fun _ => rfl) fun _ => rfl
  | restart => simp [Event.isSpending] at spending

theorem run_orderly {events : List Event} (sound : process.Orderly)
    (spending : ∀ event ∈ events, event.isSpending)
    (unmoved : (machine config).Along (fun process event => process.unmoved event) process events) :
    ((machine config).run process events).Orderly ∧
      process.state.signedSoFar ≤ ((machine config).run process events).state.signedSoFar := by
  induction events generalizing process with
  | nil => exact ⟨sound, le_rfl⟩
  | cons event events ih =>
    obtain ⟨here, rest⟩ := unmoved
    obtain ⟨next, grown⟩ := step_orderly (spending event List.mem_cons_self) here sound
    obtain ⟨last, later⟩ := ih next
      (fun other member => spending other (List.mem_cons_of_mem event member)) rest
    exact ⟨last, grown.trans later⟩

end Runs

/-- While every path that goes on, and not only to wait, finds the amount it paused with, the amount never
    decreases, and every message names at least what each one before it named. -/
theorem signed_amount_never_moves_back (config : BuyerPaymentConfig) (account : Account)
    (begins : account.Begins) (before after : List Event)
    (spending : ∀ event ∈ before ++ after, event.isSpending)
    (unmoved : (machine config).Along (fun process event => process.unmoved event)
      ⟨account, []⟩ (before ++ after)) :
    ((machine config).run ⟨account, []⟩ before).state.signedSoFar ≤
        ((machine config).run ⟨account, []⟩ (before ++ after)).state.signedSoFar ∧
      ((machine config).run ⟨account, []⟩ (before ++ after)).state.InOrder := by
  have start : Process.Orderly ⟨account, []⟩ := ⟨begins.ordered, fun _ member => nomatch member⟩
  obtain ⟨earlier, later⟩ := (machine config).along_append.mp unmoved
  have first := run_orderly start (fun event member => spending event (List.mem_append_left _ member))
    earlier
  have second := run_orderly first.1 (fun event member => spending event (List.mem_append_right _ member))
    later
  rw [Machine.run_append]
  exact ⟨second.2, second.1.holds.inOrder⟩

def smallConfig : BuyerPaymentConfig := ⟨100, 1000, 3600, id⟩

/-- A channel with a reserve of 1000, 10 of which are signed for. -/
def openChannel : StoredChannel where
  sessionId := "channel"
  authMax := 10
  reserveMaxAmount := some 1000
  confirmedReserveAmount := some 1000

/-- A response whose cost the buyer estimates. -/
def responseOf (cost : Int) : Event := .path (.signPerRequestAuth ⟨none, none, cost, 0, cost⟩)

/-- One response after the other. -/
def inTurn : List Event :=
  [responseOf 5, .resume 0 .done, .resume 0 .done, .resume 0 .done, .resume 0 .done,
    responseOf 50, .resume 0 .done, .resume 0 .done, .resume 0 .done, .resume 0 .done]

theorem inTurn_in_order :
    ((machine smallConfig).run ⟨.hydrate (some openChannel), []⟩ inTurn).state.InOrder :=
  (signed_amount_never_moves_back smallConfig _ (.loaded openChannel) [] inTurn
    (by decide) (by decide +kernel)).2

/-- Both responses read the amount, and the second is signed first. -/
def overtaking : List Event :=
  [responseOf 5, responseOf 50, .resume 1 .done, .resume 1 .done, .resume 1 .done, .resume 1 .done]

def overtaken : List Event := List.replicate 4 (.resume 0 .done)

/-- The buyer signs for 60 and then for 15, and sends both. -/
theorem overtaken_response_moves_back :
    ¬ ∀ config (account : Account), account.Begins → ∀ before after : List Event,
      (∀ event ∈ before ++ after, event.isSpending) →
      ((machine config).run ⟨account, []⟩ before).state.signedSoFar ≤
          ((machine config).run ⟨account, []⟩ (before ++ after)).state.signedSoFar ∧
        ((machine config).run ⟨account, []⟩ (before ++ after)).state.InOrder := by
  intro always
  obtain ⟨grown, -⟩ := always smallConfig _ (.loaded openChannel) overtaking overtaken (by decide)
  revert grown
  decide +kernel

end AntSeed.Buyer
