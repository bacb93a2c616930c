import AntSeed.Seller.RequestHandler
import AntSeed.Seller.Runs

/-! # Requests are billed once, if to the right channel

A request goes through its stages once and in order, so there is one moment at
which its cost is recorded. The channel is looked up again at that moment.
-/

namespace AntSeed.Seller.Service

open Evm Async
open Function
open Option List

variable {buyerPeerId : PeerId} {costUsdc : Nat} {estimated opening required : Int}
  {job : Option (Resource × Nat)} {now : Stage} {requestId : String} {s : Manager}

section Stages

variable {shop : Shop} {s s' s'' : Service} {n m : Nat} {request : Request} {event : Event}

/-- The stage of the `n`-th request. -/
def stage (s : Service) (n : Nat) : Option Stage := (s.requests[n]?).map (·.stage)

theorem stage_of_found (found : s.requests[n]? = some request) : s.stage n = some request.stage := by
  simp [stage, found]

/-- At most one request has moved on. -/
def Only (m : Nat) (s s' : Service) : Prop := ∀ n, n ≠ m → s'.stage n = s.stage n

theorem Only.refl : Only m s s := fun _ _ => rfl

theorem Only.trans (first : Only m s s') (second : Only m s' s'') : Only m s s'' :=
  fun n other => (second n other).trans (first n other)

theorem only_of_requests (same : s'.requests = s.requests) : Only m s s' :=
  fun n _ => by simp [stage, same]

theorem only_setStage {next : Stage} : Only m s (s.setStage m next) := by
  intro n other
  simp [stage, setStage, Ne.symm other]

theorem stage_setStage {now next : Stage} (found : s.stage n = some now) :
    (s.setStage n next).stage n = some next := by
  obtain ⟨request, found, -⟩ := map_eq_some_iff.mp found
  simp [stage, setStage, found]

theorem only_forward : Only m s (s.forward m request admitted) := by
  unfold forward
  dsimp only
  split
  · exact only_setStage
  · split
    · exact (only_of_requests rfl).trans only_setStage
    · exact only_setStage

theorem only_checkBudget : Only m s (s.checkBudget shop m request reading) := by
  unfold checkBudget
  dsimp only
  split
  · split
    · exact only_setStage.trans (only_of_requests rfl)
    · exact only_setStage
  · exact only_forward

theorem only_startBudgetCheck : Only m s (s.startBudgetCheck shop m request) := by
  unfold startBudgetCheck
  split
  · exact only_setStage
  · dsimp only
    split
    · exact only_setStage
    · exact only_checkBudget

theorem only_bill :
    Only m s (s.bill m request isBillable costUsdc) := by
  refine .trans ?_ only_setStage
  apply only_of_requests
  cases isBillable <;> cases s.billedChannel request.buyerPeerId <;> rfl

theorem only_goOn : Only m s (s.goOn shop m request) := by
  unfold goOn
  split
  · exact only_startBudgetCheck
  · exact only_checkBudget
  · exact only_bill
  all_goals exact .refl

theorem only_complete : Only m s (s.complete m request costUsdc) := by
  unfold complete
  split
  · exact only_setStage
  all_goals exact .refl

theorem only_offer : Only m s (s.offer m request opening required) := by
  unfold offer
  split
  · exact (only_of_requests rfl).trans only_setStage
  all_goals exact .refl

theorem only_closeOneOffBestEffort : Only m s (s.closeOneOffBestEffort channelId) := by
  unfold closeOneOffBestEffort
  split
  · exact only_of_requests rfl
  · exact .refl

theorem only_recordAcceptedCreate :
    Only m s (s.recordAcceptedCreate charge) := by
  unfold recordAcceptedCreate
  split
  · exact .refl
  · exact only_of_requests rfl

theorem only_acceptVideoCreate :
    Only m s (s.acceptVideoCreate m request job) := by
  unfold acceptVideoCreate
  split
  · split
    · exact only_setStage.trans only_closeOneOffBestEffort
    · split
      · exact only_setStage.trans only_recordAcceptedCreate
      · exact only_setStage.trans only_closeOneOffBestEffort
  all_goals exact .refl

theorem only_received (appended : s'.requests = s.requests ++ [request]) :
    Only s.requests.length s s' := by
  intro n other
  simp only [stage, appended]
  rcases Nat.lt_or_gt_of_ne other with before | after
  · rw [getElem?_append_left before]
  · rw [getElem?_eq_none (by simp; omega), getElem?_eq_none (by omega)]

theorem only_receive :
    Only s.requests.length s (s.receive buyerPeerId requestId estimated) := by
  unfold receive
  dsimp only
  split
  · exact (only_received rfl).trans only_setStage
  · split
    · exact only_received rfl
    · exact (only_received rfl).trans only_forward

theorem only_receiveCreate :
    Only s.requests.length s (s.receiveCreate buyerPeerId requestId estimated) := by
  unfold receiveCreate
  dsimp only
  split
  · exact only_received rfl
  · split
    · exact (only_received rfl).trans only_setStage
    · split
      · exact .trans (only_received rfl) ((only_of_requests rfl).trans only_setStage)
      · exact (only_received rfl).trans only_setStage

theorem only_withRequest {f : Request → Service} (each : ∀ request, Only m s (f request)) :
    Only m s (s.withRequest m f) := by
  unfold withRequest
  split
  · exact .refl
  · exact each _

theorem requests_chargeDeliveredVideo {resource : Resource} :
    (s.chargeDeliveredVideo resource buyerPeerId).requests = s.requests := by
  unfold chargeDeliveredVideo
  split
  · rfl
  · split <;> rfl

theorem requests_runSeller {event : Seller.Event} :
    (s.runSeller shop event).requests = s.requests ∨
      (s.runSeller shop event).requests =
        s.requests.map fun request => { request with stage := .done } := by
  unfold runSeller
  split
  · exact .inl rfl
  · cases event with
    | restart => exact .inr rfl
    | _ => exact .inl rfl

theorem step_stage (other : event.request s ≠ some n) :
    (s.step shop event).stage n = s.stage n ∨
      (s.step shop event).stage n = (s.stage n).map fun _ => .done := by
  cases event with
  | seller event =>
    rcases @requests_runSeller shop s event with same | ended
    · exact .inl (by simp [stage, step, same])
    · exact .inr (by simp [stage, step, ended, Function.comp_def])
  | receive =>
    exact .inl (only_receive n fun same => other (congrArg some same.symm))
  | goOn => exact .inl (only_withRequest (fun _ => only_goOn) n fun same => other (congrArg some same.symm))
  | complete =>
    exact .inl (only_withRequest (fun _ => only_complete) n fun same => other (congrArg some same.symm))
  | receiveCreate =>
    exact .inl (only_receiveCreate n fun same => other (congrArg some same.symm))
  | offer =>
    exact .inl (only_withRequest (fun _ => only_offer) n fun same => other (congrArg some same.symm))
  | acceptVideoCreate =>
    exact .inl (only_withRequest (fun _ => only_acceptVideoCreate) n fun same =>
      other (congrArg some same.symm))
  | chargeDeliveredVideo =>
    exact .inl (by simp [stage, step, requests_chargeDeliveredVideo])

theorem step_of_done (done : s.stage n = some .done) (own : event.request s = some n) :
    s.step shop event = s := by
  obtain ⟨request, found, stage⟩ := map_eq_some_iff.mp done
  have before : n < s.requests.length := (List.getElem?_eq_some_iff.mp found).1
  cases event with
  | seller | chargeDeliveredVideo => cases own
  | receive | receiveCreate =>
    cases own
    exact absurd before (lt_irrefl _)
  | goOn =>
    cases own
    simp [step, withRequest, found, goOn, stage]
  | complete =>
    cases own
    simp [step, withRequest, found, complete, stage]
  | offer =>
    cases own
    simp [step, withRequest, found, offer, stage]
  | acceptVideoCreate =>
    cases own
    simp [step, withRequest, found, acceptVideoCreate, stage]

theorem stage_done (done : s.stage n = some .done) : (s.step shop event).stage n = some .done := by
  by_cases own : event.request s = some n
  · rw [step_of_done done own]
    exact done
  · rcases @step_stage shop s n event own with same | ended
    · rw [same]
      exact done
    · rw [ended, done]
      rfl

theorem run_done (done : s.stage n = some .done) (events : List Event) :
    ((machine shop).run s events).stage n = some .done := by
  induction events generalizing s with
  | nil => exact done
  | cons event events ih => exact ih (stage_done done)

end Stages

/-- A cost that is recorded for a request. -/
structure Bill where
  request : Nat
  channelId : Hex
  costUsdc : Nat
  deriving DecidableEq, Repr

section Bills

variable (s : Service)

/-- What a step records for its request; nothing is recorded on a channel that is not tracked. -/
def bills : Event → List Bill
  | .goOn n =>
    match s.requests[n]? with
    | some ⟨buyerPeerId, _, _, .recordMetering _ _ costUsdc⟩ =>
      match s.billedChannel buyerPeerId with
      | some sessionId =>
        if (s.manager.spent sessionId).isSome then [⟨n, sessionId, costUsdc⟩] else []
      | none => []
    | _ => []
  | _ => []

/-- The spend with some costs added. -/
def recorded (spent : Hex → Option Int) (bills : List Bill) : Hex → Option Int :=
  bills.foldl (fun spent bill =>
    update spent bill.channelId ((spent bill.channelId).map (· + (bill.costUsdc : Int)))) spent

/-- The buyer is served from this channel, and its spend is tracked. -/
def BillsTo (buyerPeerId : PeerId) (channelId : Hex) : Prop :=
  s.manager.hasSession buyerPeerId = true ∧
    (s.manager.getChannelByPeer buyerPeerId).map (·.sessionId) = some channelId ∧
      (s.manager.spent channelId).isSome = true

instance (buyerPeerId : PeerId) (channelId : Hex) : Decidable (s.BillsTo buyerPeerId channelId) :=
  inferInstanceAs (Decidable (_ ∧ _ ∧ _))

end Bills

section Runs

variable {shop : Shop} {s : Service} {n : Nat} {request : Request} {event : Event}

theorem spent_forward {admitted : Option Hex} :
    (s.forward n request admitted).manager.spent = s.manager.spent := by
  unfold forward
  dsimp only
  split
  · rfl
  · split <;> rfl

theorem checkBudget_cases {reading : Reading} {now : Stage} (found : s.stage n = some now) :
    (s.checkBudget shop n request reading).stage n = some .done ∨
      (s.checkBudget shop n request reading).manager.spent = s.manager.spent := by
  unfold checkBudget
  dsimp only
  split
  · refine .inl ?_
    split
    · exact stage_setStage found
    · exact stage_setStage found
  · exact .inr spent_forward

theorem startBudgetCheck_cases {now : Stage} (found : s.stage n = some now) :
    (s.startBudgetCheck shop n request).stage n = some .done ∨
      (s.startBudgetCheck shop n request).manager.spent = s.manager.spent := by
  unfold startBudgetCheck
  split
  · exact .inl (stage_setStage found)
  · dsimp only
    split
    · exact .inr rfl
    · exact checkBudget_cases found

theorem spent_claimOneOffChannel {channelId : Hex} {s : Manager} :
    (s.claimOneOffChannel channelId).spent = s.spent := by
  unfold Manager.claimOneOffChannel
  split
  · rfl
  · split <;> rfl

theorem stage_received (buyerPeerId : PeerId) (requestId : String) (estimated : Int) (now : Stage) :
    stage { s with requests := s.requests ++ [⟨buyerPeerId, requestId, estimated, now⟩] }
      s.requests.length = some now := by
  simp [stage]

theorem stage_closeOneOffBestEffort :
    (s.closeOneOffBestEffort channelId).stage n = s.stage n := by
  unfold closeOneOffBestEffort
  split <;> rfl

theorem stage_recordAcceptedCreate :
    (s.recordAcceptedCreate charge).stage n = s.stage n := by
  unfold recordAcceptedCreate
  split <;> rfl

theorem acceptVideoCreate_cases {job : Option (Resource × Nat)} (at_ : s.stage n = some request.stage) :
    (s.acceptVideoCreate n request job).stage n = some .done ∨
      s.acceptVideoCreate n request job = s := by
  obtain ⟨buyerPeerId, requestId, estimated, now⟩ := request
  cases now with
  | createVideo =>
    refine .inl ?_
    simp only [acceptVideoCreate]
    cases job with
    | none =>
      dsimp only
      rw [stage_closeOneOffBestEffort]
      exact stage_setStage at_
    | some =>
      dsimp only
      split
      · rw [stage_recordAcceptedCreate]
        exact stage_setStage at_
      · rw [stage_closeOneOffBestEffort]
        exact stage_setStage at_
  | waitForPendingAuths | awaitAccepted | executeRequest | recordMetering | buildOneOffPlan | done => exact .inr rfl

theorem offer_cases {opening required : Int} (at_ : s.stage n = some request.stage) :
    (s.offer n request opening required).stage n = some .done ∨
      s.offer n request opening required = s := by
  unfold offer
  split
  · refine .inl (@stage_setStage _ _ request.stage _ ?_)
    exact at_
  all_goals exact .inr rfl

theorem complete_cases {costUsdc : Nat} (at_ : s.stage n = some request.stage) :
    (∃ isBillable admitted, (s.complete n request costUsdc).stage n =
        some (.recordMetering isBillable admitted costUsdc) ∧
        (s.complete n request costUsdc).process = s.process) ∨
      s.complete n request costUsdc = s := by
  unfold complete
  split
  · exact .inl ⟨_, _, stage_setStage at_, rfl⟩
  all_goals exact .inr rfl

theorem step_spares (own : event.request s = some n) :
    (s.step shop event).stage n = some .done ∨
      (s.step shop event).manager.spent = s.manager.spent ∧ s.bills event = [] := by
  cases event with
  | seller | chargeDeliveredVideo => cases own
  | receive =>
    cases own
    simp only [step, receive]
    split
    · exact .inl (stage_setStage (stage_received _ _ _ _))
    · split
      · exact .inr ⟨rfl, rfl⟩
      · exact .inr ⟨spent_forward, rfl⟩
  | receiveCreate =>
    cases own
    simp only [step, receiveCreate]
    split
    · exact .inr ⟨rfl, rfl⟩
    · split
      · exact .inl (stage_setStage (stage_received _ _ _ _))
      · split
        · exact .inr ⟨spent_claimOneOffChannel, rfl⟩
        · exact .inl (stage_setStage (stage_received _ _ _ _))
  | goOn =>
    cases own
    simp only [step, withRequest, bills]
    cases found : s.requests[n]? with
    | none => exact .inr ⟨rfl, rfl⟩
    | some request =>
      obtain ⟨buyerPeerId, requestId, estimated, now⟩ := request
      have at_ := stage_of_found found
      cases now with
      | waitForPendingAuths => exact (startBudgetCheck_cases at_).imp_right fun same => ⟨same, rfl⟩
      | awaitAccepted => exact (checkBudget_cases at_).imp_right fun same => ⟨same, rfl⟩
      | recordMetering isBillable admitted costUsdc =>
        refine .inl ?_
        simp only [goOn, bill]
        refine @stage_setStage _ _ (.recordMetering isBillable admitted costUsdc) _ ?_
        cases isBillable <;> cases s.billedChannel buyerPeerId <;> exact at_
      | executeRequest => exact .inr ⟨rfl, rfl⟩
      | buildOneOffPlan => exact .inr ⟨rfl, rfl⟩
      | createVideo => exact .inr ⟨rfl, rfl⟩
      | done => exact .inr ⟨rfl, rfl⟩
  | complete m costUsdc =>
    cases own
    simp only [step, withRequest]
    cases found : s.requests[n]? with
    | none => exact .inr ⟨rfl, rfl⟩
    | some request =>
      rcases @complete_cases s n request costUsdc (stage_of_found found) with ⟨_, _, -, same⟩ | idle
      · exact .inr ⟨congrArg (fun process => process.state.spent) same, rfl⟩
      · exact .inr ⟨congrArg (fun s => s.manager.spent) idle, rfl⟩
  | offer =>
    cases own
    simp only [step, withRequest]
    cases found : s.requests[n]? with
    | none => exact .inr ⟨rfl, rfl⟩
    | some =>
      exact (offer_cases (stage_of_found found)).imp_right fun idle =>
        ⟨congrArg (fun s => s.manager.spent) idle, rfl⟩
  | acceptVideoCreate =>
    cases own
    simp only [step, withRequest]
    cases found : s.requests[n]? with
    | none => exact .inr ⟨rfl, rfl⟩
    | some =>
      exact (acceptVideoCreate_cases (stage_of_found found)).imp_right fun idle =>
        ⟨congrArg (fun s => s.manager.spent) idle, rfl⟩

/-- The spend changes by what the step records for the request, and in no other way. -/
def Records (shop : Shop) (n : Nat) (s : Service) (event : Event) : Prop :=
  event.request s = some n → (s.step shop event).manager.spent = recorded s.manager.spent (s.bills event)

theorem records_of_done (done : s.stage n = some .done) : Records shop n s event := by
  intro own
  have none : s.bills event = [] := by
    obtain ⟨request, found, stage⟩ := map_eq_some_iff.mp done
    unfold bills
    split
    · cases own
      rw [found]
      obtain ⟨buyerPeerId, requestId, estimated, now⟩ := request
      subst stage
      rfl
    · rfl
  rw [step_of_done done own, none]
  rfl

theorem request_of_bill {bill : Bill} (member : bill ∈ s.bills event) :
    event.request s = some bill.request := by
  unfold bills at member
  split at member
  · split at member
    · split at member
      · split at member
        · rw [mem_singleton.mp member]
          rfl
        · cases member
      · cases member
    · cases member
  · cases member

theorem bills_of_done (done : s.stage n = some .done) : (s.bills event).filter (·.request = n) = [] := by
  rw [filter_eq_nil_iff]
  intro bill member same
  have own := request_of_bill member
  rw [of_decide_eq_true same] at own
  unfold bills at member
  obtain ⟨request, found, stage⟩ := map_eq_some_iff.mp done
  split at member
  · cases own
    rw [found] at member
    obtain ⟨buyerPeerId, requestId, estimated, now⟩ := request
    subst stage
    cases member
  · cases member

theorem log_bills (events : List Event) : (machine shop).log bills s (event :: events) =
    s.bills event ++ (machine shop).log bills (s.step shop event) events := rfl

theorem run_of_done (done : s.stage n = some .done) (events : List Event) :
    (machine shop).Along (Records shop n) s events ∧
      ((machine shop).log bills s events).filter (·.request = n) = [] := by
  induction events generalizing s with
  | nil => exact ⟨trivial, rfl⟩
  | cons event events ih =>
    obtain ⟨along, nothing⟩ := ih (stage_done done)
    refine ⟨⟨records_of_done done, along⟩, ?_⟩
    rw [log_bills, filter_append, bills_of_done done]
    exact nothing

theorem run_unless_done (still : ((machine shop).run s events).stage n ≠ some .done) :
    (machine shop).Along (Records shop n) s events ∧
      ((machine shop).log bills s events).filter (·.request = n) = [] := by
  induction events generalizing s with
  | nil => exact ⟨trivial, rfl⟩
  | cons event events ih =>
    obtain ⟨along, nothing⟩ := ih still
    have next : (s.step shop event).stage n ≠ some .done := fun done => still (run_done done events)
    refine ⟨⟨fun own => ?_, along⟩, ?_⟩
    · obtain ⟨spared, none⟩ := (step_spares own).resolve_left next
      rw [spared, none]
      rfl
    · rw [log_bills, filter_append]
      refine append_eq_nil_iff.mpr ⟨?_, nothing⟩
      rw [filter_eq_nil_iff]
      intro bill member same
      have own := request_of_bill member
      rw [of_decide_eq_true same] at own
      rw [((step_spares own).resolve_left next).2] at member
      cases member

theorem recordSpend_spent {s : Manager} {sessionId : Hex} {costUsdc : Int} :
    (s.recordSpend sessionId costUsdc).spent =
      update s.spent sessionId ((s.spent sessionId).map (· + costUsdc)) := by
  unfold Manager.recordSpend
  split
  next tracked =>
    rw [tracked, map_none, ← tracked]
    exact (Function.update_eq_self sessionId s.spent).symm
  next current tracked => rw [tracked, map_some]

section Billed

variable {isBillable : Bool} {admitted : Option Hex} {costUsdc : Nat}
  (found : s.requests[n]? = some request) (waits : request.stage = .recordMetering isBillable admitted costUsdc)

include found waits

theorem bills_goOn : s.bills (.goOn n) = match s.billedChannel request.buyerPeerId with
    | some sessionId => if (s.manager.spent sessionId).isSome then [⟨n, sessionId, costUsdc⟩] else []
    | none => [] := by
  obtain ⟨buyerPeerId, requestId, estimated, now⟩ := request
  subst waits
  simp only [bills, found]

theorem step_goOn : s.step shop (.goOn n) = s.bill n request isBillable costUsdc := by
  simp [step, withRequest, found, goOn, waits]

theorem records_goOn : Records shop n s (.goOn n) := by
  intro _
  have ended : (s.bill n request isBillable costUsdc).manager.spent =
      (s.billedChannel request.buyerPeerId).elim s.manager.spent fun sessionId =>
        (s.manager.recordSpend sessionId costUsdc).spent := by
    simp only [bill]
    cases isBillable <;> cases s.billedChannel request.buyerPeerId <;> rfl
  rw [step_goOn found waits, ended, bills_goOn found waits]
  cases s.billedChannel request.buyerPeerId with
  | none => rfl
  | some sessionId =>
    dsimp only [Option.elim]
    rw [recordSpend_spent]
    cases tracked : s.manager.spent sessionId with
    | none =>
      have same := Function.update_eq_self sessionId s.manager.spent
      rw [tracked] at same
      simpa [recorded] using same
    | some => simp [recorded, tracked]

theorem stage_goOn : (s.step shop (.goOn n)).stage n = some .done := by
  rw [step_goOn found waits]
  have at_ := stage_of_found found
  simp only [bill]
  suffices kept : ∀ s' : Service, s'.stage n = s.stage n → (s'.setStage n .done).stage n = some .done by
    refine kept _ ?_
    cases isBillable <;> cases s.billedChannel request.buyerPeerId <;> rfl
  exact fun s' same => stage_setStage (same.trans at_)

theorem bills_iff :
    s.bills (.goOn n) = [⟨n, channelId, costUsdc⟩] ↔ s.BillsTo request.buyerPeerId channelId := by
  rw [bills_goOn found waits]
  unfold billedChannel BillsTo
  cases s.manager.hasSession request.buyerPeerId with
  | false => simp
  | true =>
    cases s.manager.getChannelByPeer request.buyerPeerId with
    | none => simp
    | some session =>
      by_cases tracked : (s.manager.spent session.sessionId).isSome = true
      · simp only [map_some, if_true, tracked, cons.injEq, Bill.mk.injEq, true_and,
          and_true, some.injEq]
        exact ⟨fun same => ⟨same, same ▸ tracked⟩, fun both => both.1⟩
      · simp only [map_some, if_true, if_neg tracked, true_and, some.injEq]
        exact ⟨nofun, fun both => absurd (both.1 ▸ both.2) tracked⟩

end Billed

/-- The state after some events. -/
def reached (shop : Shop) (events : List Event) : Service := (machine shop).run {} events

/-- A request whose cost is known is billed once, for that cost, and on the channel that admitted it,
    exactly if its buyer is still served from that channel when the cost is recorded. None of its steps
    changes any spend in another way. -/
theorem billed_once (shop : Shop) (before after : List Event) (n : Nat) (request : Request)
    (isBillable : Bool) (channelId : Hex) (costUsdc : Nat)
    (found : (reached shop before).requests[n]? = some request)
    (completed : request.stage = .recordMetering isBillable (some channelId) costUsdc) :
    let events := before ++ .goOn n :: after
    (((machine shop).log bills {} events).filter (·.request = n) = [⟨n, channelId, costUsdc⟩] ↔
        (reached shop before).BillsTo request.buyerPeerId channelId) ∧
      (machine shop).Along (Records shop n) {} events := by
  have still : (reached shop before).stage n ≠ some .done := by
    rw [stage_of_found found, completed]
    nofun
  have ended : ((reached shop before).step shop (.goOn n)).stage n = some .done :=
    stage_goOn found completed
  obtain ⟨along, nothing⟩ := run_unless_done still
  obtain ⟨along', nothing'⟩ := run_of_done ended after
  refine ⟨?_, (machine shop).along_append.mpr ⟨along, records_goOn found completed, along'⟩⟩
  have all : (machine shop).log bills {} (before ++ .goOn n :: after) =
      (machine shop).log bills {} before ++ ((reached shop before).bills (.goOn n) ++
        (machine shop).log bills ((reached shop before).step shop (.goOn n)) after) :=
    (machine shop).log_append bills {} before (.goOn n :: after)
  have own : ((reached shop before).bills (.goOn n)).filter (·.request = n) =
      (reached shop before).bills (.goOn n) := by
    refine filter_eq_self.mpr fun bill member => decide_eq_true ?_
    exact (some.inj (request_of_bill member)).symm
  rw [all, filter_append, nothing, nil_append, filter_append, nothing', append_nil,
    own]
  exact bills_iff found completed

end Runs

def counter : Shop := { node := storefront, reserveEstimateOverdraftUsdc := some 0 }

/-- Alice has reserved 100 and asks for something that may cost 10. -/
def asking : List Event :=
  (openingEvents 0).map .seller ++ [.receive alice "request" 10, .goOn 0]

def served : List Event := asking ++ [.complete 0 5]

/-- She disconnects while the provider is at work; nothing has been accepted yet. -/
def leaving : List Event :=
  asking ++ [.seller (.chore (.onBuyerDisconnect alice)), .complete 0 5]

def aliceRequest : Request :=
  ⟨alice, "request", 10, .recordMetering true (some aliceChannel) 5⟩

theorem billed_once_served :
    ((machine counter).log bills {} (served ++ .goOn 0 :: [])).filter (·.request = 0)
        = [⟨0, aliceChannel, 5⟩] ∧
      (machine counter).Along (Records counter 0) {} (served ++ .goOn 0 :: []) :=
  have once := billed_once counter served [] 0 aliceRequest true aliceChannel 5 (by decide +kernel) rfl
  ⟨once.1.mpr (by decide +kernel), once.2⟩

/-- The seller has served the request and records nothing. -/
theorem leaving_is_not_billed :
    (reached counter leaving).requests[0]? = some aliceRequest ∧
      ((machine counter).log bills {} (leaving ++ [.goOn 0])).filter (·.request = 0) = [] ∧
      (reached counter (leaving ++ [.goOn 0])).manager.spent aliceChannel = some 0 := by
  decide +kernel

end AntSeed.Seller.Service
