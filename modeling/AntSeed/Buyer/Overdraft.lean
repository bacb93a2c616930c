import AntSeed.Lib.Alone
import AntSeed.Buyer.SignedAmount
import Mathlib.Algebra.Order.Ring.Int

/-! # What the buyer signs ahead of what was delivered

One at a time, messages of the seller and delivered responses move the signed
amount and the verified cost. A message that comes with no evidence of a
delivery raises the amount by no more than a window of `maxPerRequestUsdc` for
each request in flight; but every message opens the window anew.
-/

namespace AntSeed.Buyer

open Async
open Account

def Frame.isSpendingAuth : Frame → Bool
  | .spendingAuth _ _ _ => true
  | .reserveAuth _ _ _ => false
  | .closeRequest _ _ => false

/-- The SpendingAuths that went out to the seller. -/
def Account.spendingAuths (s : Account) : Nat := s.sent.countP Frame.isSpendingAuth

/-- The amounts and the counted requests are the same. -/
structure Account.SameBooks (s s' : Account) : Prop where
  cumulativeAmount : s'.cumulativeAmount = s.cumulativeAmount
  verifiedCost : s'.verifiedCost = s.verifiedCost
  counted : s'.serviceTokensCounted = s.serviceTokensCounted

/-- No SpendingAuth goes out, and the books are as they were. -/
structure Account.Quiet (s s' : Account) : Prop extends s.SameBooks s' where
  auths : s'.spendingAuths = s.spendingAuths

/-- The books are written, and a SpendingAuth goes out. -/
structure Account.Authorized (s s' : Account) : Prop extends s.SameBooks s' where
  auths : s'.spendingAuths = s.spendingAuths + 1

section Alone

variable {α : Type} {config : BuyerPaymentConfig} {s s' : Account} {session : StoredChannel}

variable {s'' : Account} {amount : Int}

theorem Account.SameBooks.trans (first : s.SameBooks s') (second : s'.SameBooks s'') :
    s.SameBooks s'' where
  cumulativeAmount := second.cumulativeAmount.trans first.cumulativeAmount
  verifiedCost := second.verifiedCost.trans first.verifiedCost
  counted := second.counted.trans first.counted

theorem Account.Quiet.refl : s.Quiet s := ⟨⟨rfl, rfl, rfl⟩, rfl⟩

theorem Account.Quiet.trans (first : s.Quiet s') (second : s'.Quiet s'') : s.Quiet s'' :=
  ⟨first.toSameBooks.trans second.toSameBooks, second.auths.trans first.auths⟩

theorem Account.Authorized.trans (first : s.Authorized s') (second : s'.Quiet s'') : s.Authorized s'' :=
  ⟨first.toSameBooks.trans second.toSameBooks, second.auths.trans first.auths⟩

theorem sent_authorized (carries : frame.isSpendingAuth) :
    s.Authorized { s with sent := frame :: s.sent } :=
  ⟨⟨rfl, rfl, rfl⟩, List.countP_cons_of_pos carries⟩

theorem awaited_alone (alone : x.Alone post s) : (awaited x).Alone post s := by
  rw [awaited, alone_bind]
  refine alone.mono fun a s done => ?_
  simpa [alone_bind] using fun _ : Reply => done

theorem sign_alone : (sign message).Alone (fun _ s' => s.Quiet s') s := by
  simpa [sign, alone_bind] using fun _ : Reply => Account.Quiet.refl

theorem commitAuthorization_alone :
    (commitAuthorization channel).Alone (fun _ s' => s.Quiet s') s := by
  rw [commitAuthorization, alone_bind, alone_wait]
  intro reply
  split
  · rw [alone_bind]
    exact fun _ => ⟨⟨rfl, rfl, rfl⟩, rfl⟩
  · exact .refl

theorem signAndCommitSpendingAuth_alone :
    (signAndCommitSpendingAuth session amount).Alone (fun _ s' => s.Quiet s') s := by
  rw [signAndCommitSpendingAuth, alone_bind]
  refine sign_alone.mono fun signed s' same => ?_
  cases signed with
  | none => exact same
  | some =>
    rw [alone_bind]
    exact commitAuthorization_alone.mono fun _ _ later => same.trans later

theorem commitUpdatedSpendingAuth_alone :
    (commitUpdatedSpendingAuth session amount).Alone (fun committed s' =>
      if committed.isSome then Account.Quiet { s with cumulativeAmount := some amount } s' else s.Quiet s') s := by
  rw [commitUpdatedSpendingAuth, alone_bind]
  refine (awaited_alone signAndCommitSpendingAuth_alone).mono fun signed s' same => ?_
  cases signed with
  | none => exact same
  | some => exact ⟨⟨rfl, same.verifiedCost, same.counted⟩, same.auths⟩

theorem commitAndSendReserveAuth_alone {initialReserveAmount : Option Int} :
    (commitAndSendReserveAuth session pending amount initialReserveAmount).Alone (fun _ s' => s.Quiet s') s := by
  rw [commitAndSendReserveAuth, alone_bind]
  refine commitAuthorization_alone.mono fun committed s' same => ?_
  split
  · exact same.trans ⟨⟨rfl, rfl, rfl⟩, List.countP_cons_of_neg nofun⟩
  · exact same

theorem topUpReserve_alone : (topUpReserve config).Alone (fun _ s' => s.Quiet s') s := by
  rw [topUpReserve, alone_bind, alone_get]
  split
  · exact .refl
  · rw [alone_bind, alone_wait]
    intro reply
    split
    · exact .refl
    · rw [alone_bind]
      refine sign_alone.mono fun signed s' same => ?_
      rw [alone_bind, alone_get]
      cases signed with
      | none => exact same
      | some => exact awaited_alone (commitAndSendReserveAuth_alone.mono fun _ _ later => same.trans later)

theorem topUpIf_alone {needed : Prop} [Decidable needed] :
    (if needed then awaited (topUpReserve config) else pure () : Op Unit).Alone (fun _ s' => s.Quiet s') s :=
  alone_ite (fun _ => awaited_alone topUpReserve_alone) fun _ => Account.Quiet.refl

end Alone

/-! ## What a path comes to

The parts of the source between its awaits, for a path that nobody overtakes.
-/

section Effects

variable (config : BuyerPaymentConfig) (s : Account)

/-- `handleNeedAuth` for a claim that was accepted. -/
def Account.needAuth (payload : NeedAuthPayload) (acceptedCost : Int) : Account :=
  match s.answer config payload.requiredCumulativeAmount s.signedSoFar acceptedCost with
  | none => s
  | some answer =>
    let effectiveAmount := answer.effectiveAmount payload.requiredCumulativeAmount s.signedSoFar
    if effectiveAmount ≤ s.signedSoFar then s
    else recordNeedAuth { s with cumulativeAmount := some effectiveAmount } payload
      (s.serviceTokensCounted.has payload.requestId) answer.window.verifiedCost acceptedCost
      (effectiveAmount - s.signedSoFar)

/-- `extendCurrentSpendingAuth` -/
def Account.extend (currentCumulative minBudgetPerRequest : Int) (targetCumulative : Option Int)
    (inFlightRequests : Nat) : Account :=
  let extension := s.extension config currentCumulative minBudgetPerRequest targetCumulative inFlightRequests
  let nextCumulative := min extension.requestedAmount extension.window.maxSignable
  if nextCumulative ≤ currentCumulative then s
  else { s with cumulativeAmount := some nextCumulative, verifiedCost := some extension.window.verifiedCost }

def Account.responseAmount (stats : ResponseStats) : Int :=
  let alreadyCounted := s.serviceTokensCounted.has stats.requestId
  let acceptedCost := if alreadyCounted then s.serviceTokensCounted.unpaid stats.requestId else stats.acceptedCost
  let nextVerifiedCost := s.verifiedCost.getD 0 + (if alreadyCounted then 0 else stats.verifiedCostDelta)
  max s.signedSoFar (min (s.signedSoFar + acceptedCost) (s.maxSignableForVerified config nextVerifiedCost))

/-- `signPerRequestAuth` -/
def Account.respond (stats : ResponseStats) : Account :=
  let alreadyCounted := s.serviceTokensCounted.has stats.requestId
  let nextVerifiedCost := s.verifiedCost.getD 0 + (if alreadyCounted then 0 else stats.verifiedCostDelta)
  s.recordPerRequestAuth stats.requestId alreadyCounted (s.responseAmount config stats) nextVerifiedCost
    (s.responseAmount config stats - s.signedSoFar)

/-- The cost a NeedAuth claims. -/
def Claim.claimedCost : Claim → Int
  | .nothing => 0
  | .cost lastRequestCost _ _ _ => lastRequestCost
  | .usage lastRequestCost _ _ _ => lastRequestCost

variable {config s} {session : StoredChannel}

/-- A claim is accepted as it is, or refused. -/
theorem accepted_claims {claim : Claim} {cost : Int} (accepted : claim.accepted config = some cost) :
    cost = claim.claimedCost := by
  cases claim with
  | nothing => exact (Option.some.inj accepted).symm
  | cost =>
    unfold Claim.accepted at accepted
    dsimp only at accepted
    split at accepted
    · cases accepted
    · exact (Option.some.inj accepted).symm
  | usage =>
    obtain ⟨buyerEstimate, _, kept⟩ := Option.bind_eq_some_iff.mp accepted
    split at kept
    · cases kept
    · exact (Option.some.inj kept).symm

theorem accept_alone {claim : Claim} :
    (claim.accept config).Alone (fun accepted s' => s' = s ∧ accepted = claim.accepted config) s := by
  refine alone_ite (fun _ => ?_) fun _ => ⟨rfl, rfl⟩
  rw [alone_bind, alone_wait]
  exact fun _ => ⟨rfl, rfl⟩

theorem committed_alone {amount : Int} {channelId : String} (record : Account → Account) {rest : Op Unit}
    (records : ∀ {s s' : Account}, s.Quiet s' → (record s).Quiet (record s'))
    (later : ∀ s, rest.Alone (fun _ s' => s.Quiet s') s) :
    (do let committed ← awaited (commitUpdatedSpendingAuth session amount)
        match committed with
        | none => pure ()
        | some sig => do
            modify record
            send (.spendingAuth channelId amount sig)
            rest : Op Unit).Alone
      (fun _ s' => s.Quiet s' ∨ (record { s with cumulativeAmount := some amount }).Authorized s') s := by
  rw [alone_bind]
  refine (awaited_alone commitUpdatedSpendingAuth_alone).mono fun committed s' same => ?_
  cases committed with
  | none => exact .inl same
  | some =>
    rw [alone_bind, alone_modify, alone_bind, send, alone_modify]
    refine (later _).mono fun _ s'' last => .inr ?_
    have written := records same
    have went := (sent_authorized rfl).trans last
    exact ⟨written.toSameBooks.trans went.toSameBooks, went.auths.trans (congrArg (· + 1) written.auths)⟩

variable {payload : NeedAuthPayload}

theorem answerNeedAuth_alone {acceptedCost : Int} :
    (answerNeedAuth config payload session s.signedSoFar acceptedCost).Alone
      (fun _ s' => s.Quiet s' ∨ (s.needAuth config payload acceptedCost).Authorized s' ∧
        s.signedSoFar < s'.signedSoFar) s := by
  rw [answerNeedAuth, alone_bind, alone_get, needAuth]
  cases s.answer config payload.requiredCumulativeAmount s.signedSoFar acceptedCost with
  | none => exact .inl .refl
  | some answer =>
    by_cases spent : answer.effectiveAmount payload.requiredCumulativeAmount s.signedSoFar ≤ s.signedSoFar
    · simp only [if_pos spent]
      exact topUpIf_alone.mono fun _ _ same => .inl same
    · simp only [if_neg spent]
      refine (committed_alone _ ?_ ?_).mono fun _ s' done => done.imp_right fun went => ⟨went, ?_⟩
      · intro s s' same
        exact ⟨⟨same.cumulativeAmount, rfl, by simp [recordNeedAuth, same.counted]⟩, same.auths⟩
      · intro s
        rw [alone_bind, alone_get]
        exact topUpIf_alone
      · rw [signedSoFar.eq_def s', went.cumulativeAmount]
        exact not_le.mp spent

theorem handleNeedAuth_alone :
    (handleNeedAuth config payload).Alone (fun _ s' => s.Quiet s' ∨
      ∃ cost, payload.claim.accepted config = some cost ∧ (s.needAuth config payload cost).Authorized s' ∧
        s.signedSoFar < s'.signedSoFar) s := by
  rw [handleNeedAuth, alone_bind, alone_get]
  split
  · exact .inl .refl
  next session _ =>
    refine alone_ite (fun _ => .inl .refl) fun _ => ?_
    rw [alone_bind]
    refine accept_alone.mono ?_
    rintro accepted _ ⟨rfl, same⟩
    cases accepted with
    | none => exact .inl .refl
    | some cost =>
      exact answerNeedAuth_alone.mono fun _ _ done => done.imp_right fun went => ⟨cost, same.symm, went⟩

theorem sendPerRequestAuth_alone :
    (sendPerRequestAuth config stats).Alone
      (fun _ s' => s.Quiet s' ∨ (s.respond config stats).Authorized s') s := by
  have signs : (signPerRequestAuth config stats).Alone
      (fun result s' => match result with
        | none => s.Quiet s'
        | some message => message.1.isSpendingAuth ∧ (s.respond config stats).Quiet s') s := by
    rw [signPerRequestAuth, alone_bind, alone_get]
    split
    · exact .refl
    · rw [alone_bind]
      refine sign_alone.mono fun signed s' same => ?_
      cases signed with
      | none => exact same
      | some =>
        rw [alone_bind]
        refine commitAuthorization_alone.mono fun committed s'' later => ?_
        split
        · rw [alone_bind, alone_modify]
          refine ⟨rfl, ⟨rfl, rfl, ?_⟩, (same.trans later).auths⟩
          simp only [recordPerRequestAuth, (same.trans later).counted]
          rfl
        · exact same.trans later
  rw [sendPerRequestAuth, alone_bind]
  refine (awaited_alone signs).mono fun result s' done => ?_
  cases result with
  | none => exact .inl done
  | some =>
    obtain ⟨carries, written⟩ := done
    rw [alone_bind, send, alone_modify]
    refine topUpIf_alone.mono fun _ s'' last => .inr ?_
    have went := (sent_authorized carries).trans last
    exact ⟨written.toSameBooks.trans went.toSameBooks, went.auths.trans (congrArg (· + 1) written.auths)⟩

end Effects

/-- What the buyer handles: a message of the seller, or a response that was delivered. -/
inductive Turn where
  | needAuth (payload : NeedAuthPayload)
  /-- a 402, which asks for more on the channel -/
  | paymentRequired (minBudgetPerRequest : Int) (targetCumulative : Option Int) (inFlightRequests : Nat)
  /-- with the seller's claim, and the buyer's own estimate of its cost -/
  | response (requestId : Option String) (sellerClaimedCost : Option Int) (isVideo : Bool) (estimate : Int)

/-- The overdraft of one request. Amounts are natural numbers in every configuration. -/
def BuyerPaymentConfig.window (config : BuyerPaymentConfig) : Int := max config.maxPerRequestUsdc 0

section Turns

variable (config : BuyerPaymentConfig)

/-- A response whose claim is accepted up to the buyer's tolerance, and its estimate verified. -/
def responseStats (requestId : Option String) (sellerClaimedCost : Option Int) (isVideo : Bool) (estimate : Int) :
    ResponseStats :=
  ⟨requestId, sellerClaimedCost, estimate, config.maxAcceptable isVideo estimate, estimate⟩

def Turn.run : Turn → Op Unit
  | .needAuth payload => handleNeedAuth config payload
  | .paymentRequired minBudgetPerRequest targetCumulative inFlightRequests =>
    extendCurrentSpendingAuth config minBudgetPerRequest targetCumulative inFlightRequests
  | .response requestId sellerClaimedCost isVideo estimate =>
    sendPerRequestAuth config (responseStats config requestId sellerClaimedCost isVideo estimate)

/-- The cost that comes with it: what the buyer accepts of a NeedAuth, and for a response that is not counted
    yet the larger one of the cost it accepts and its own estimate. -/
def Turn.cost (s : Account) : Turn → Int
  | .needAuth payload => max ((payload.claim.accepted config).getD 0) 0
  | .paymentRequired _ _ _ => 0
  | .response requestId sellerClaimedCost isVideo estimate =>
    if s.serviceTokensCounted.has requestId then 0
    else max (max (responseStats config requestId sellerClaimedCost isVideo estimate).acceptedCost estimate) 0

def Turn.windows : Turn → Nat
  | .needAuth _ => 1
  | .paymentRequired _ _ inFlightRequests => max inFlightRequests 1
  | .response _ _ _ _ => 0

/-- Turns one after the other, the latest first, with the costs and the windows of those that were answered
    with a SpendingAuth. -/
inductive InTurn (s₀ : Account) : List Turn → Account → Int → Nat → Prop where
  | start : InTurn s₀ [] s₀ 0 0
  | quiet {turns s costs windows turn s'} : InTurn s₀ turns s costs windows → (turn.run config).Ends s () s' →
      s'.spendingAuths = s.spendingAuths → InTurn s₀ (turn :: turns) s' costs windows
  | answered {turns s costs windows turn s'} : InTurn s₀ turns s costs windows → (turn.run config).Ends s () s' →
      s'.spendingAuths ≠ s.spendingAuths →
      InTurn s₀ (turn :: turns) s' (costs + turn.cost config s) (windows + turn.windows)

end Turns

namespace CountedRequestTracker

/-- No counted request is owed anything. -/
def Settled (tracker : CountedRequestTracker) : Prop := ∀ entry ∈ tracker, entry.2 ≤ 0

variable {tracker : CountedRequestTracker} {requestId : Option String}

variable {amount : Int} {id : String}

theorem mem_of_lookup (found : tracker.lookup id = some amount) : (id, amount) ∈ tracker := by
  obtain ⟨before, after, same, _⟩ := List.lookup_eq_some_iff.mp found
  simp [same]

section

variable (settled : tracker.Settled)

include settled

theorem Settled.unpaid : tracker.unpaid requestId ≤ 0 := by
  rw [CountedRequestTracker.unpaid]
  cases found : requestId.bind fun id => if id = "" then none else tracker.lookup id with
  | none => exact le_rfl
  | some amount =>
    obtain ⟨id, _, there⟩ := Option.bind_eq_some_iff.mp found
    split at there
    · cases there
    · exact settled (id, amount) (mem_of_lookup there)

theorem Settled.set (none_ : amount ≤ 0) :
    (tracker.set id amount).Settled := by
  intro entry here
  rw [CountedRequestTracker.set] at here
  split at here
  · obtain ⟨old, there, rfl⟩ := List.mem_map.mp here
    split
    · exact none_
    · exact settled old there
  · cases List.mem_append.mp here with
    | inl there => exact settled entry there
    | inr new =>
      cases List.mem_singleton.mp new
      exact none_

theorem Settled.mark (none_ : amount ≤ 0) :
    (tracker.mark requestId amount).Settled := by
  have trimmed : tracker.trim.Settled := by
    intro entry here
    rw [CountedRequestTracker.trim] at here
    split at here
    · exact settled entry here
    · exact settled entry (List.mem_of_mem_tail here)
  unfold CountedRequestTracker.mark
  split
  · exact settled
  · split
    · exact settled
    · exact trimmed.set (max_le none_ le_rfl)

theorem Settled.pay : (tracker.pay requestId amount).Settled := by
  unfold CountedRequestTracker.pay
  split
  · exact settled
  · split
    · exact settled
    next id paid =>
      split
      · exact settled
      next remaining found =>
        have owed := settled (id, remaining) (mem_of_lookup found)
        simp only [not_or, not_le] at paid
        exact settled.set (by dsimp only at owed; omega)

end

end CountedRequestTracker

/-- Neither the amount nor the verified cost exceeds the bound, and what is still owed for a counted
    request lies below it. -/
structure Account.Within (config : BuyerPaymentConfig) (bound : Int) (s : Account) : Prop where
  tracked : s.cumulativeAmount.isSome
  signed : s.signedSoFar ≤ bound
  verified : s.verifiedCost.getD 0 ≤ bound
  owed : s.serviceTokensCounted.Settled ∨ s.verifiedCost.getD 0 + config.window ≤ bound

section Bound

variable {config : BuyerPaymentConfig} {s s' : Account} {bound more cost : Int}

theorem Account.Within.mono (within : s.Within config bound) (less : bound ≤ more) : s.Within config more where
  tracked := within.tracked
  signed := within.signed.trans less
  verified := within.verified.trans less
  owed := within.owed.imp_right fun below => below.trans less

theorem Account.Within.same (within : s.Within config bound) (same : s.SameBooks s') : s'.Within config bound where
  tracked := same.cumulativeAmount ▸ within.tracked
  signed := by simpa [signedSoFar, same.cumulativeAmount] using within.signed
  verified := same.verifiedCost ▸ within.verified
  owed := by simpa [same.verifiedCost, same.counted] using within.owed

theorem reopened_le (current verified : Int) :
    let window := s.reopenOverdraftWindowIfCollapsed config current (s.maxSignableForVerified config verified) verified
    window.verifiedCost ≤ max current verified ∧
      window.maxSignable ≤ window.verifiedCost + config.maxPerRequestUsdc := by
  unfold reopenOverdraftWindowIfCollapsed maxSignableForVerified
  split <;> dsimp only <;> omega

/-- The verified cost grows by the cost or is brought up to the signed amount, and one window opens above it. -/
theorem answer_le {required current : Int} {answer : Answer}
    (found : s.answer config required current cost = some answer) :
    answer.window.verifiedCost ≤ max current (s.verifiedCost.getD 0 + cost) ∧
      answer.window.maxSignable ≤ answer.window.verifiedCost + config.maxPerRequestUsdc := by
  unfold Account.answer at found
  dsimp only at found
  split_ifs at found <;> cases found
  · exact reopened_le current _
  · exact ⟨le_max_right _ _, min_le_left _ _⟩

theorem spendingAuths_needAuth :
    (s.needAuth config payload cost).spendingAuths = s.spendingAuths := by
  unfold needAuth
  cases s.answer config payload.requiredCumulativeAmount s.signedSoFar cost with
  | none => rfl
  | some =>
    dsimp only
    split <;> rfl

end Bound

def overdraftConfig : BuyerPaymentConfig := ⟨10000, 100000, 3600, (2 * ·)⟩

/-- A channel of which nothing is signed. -/
def untouchedChannel : Account := .opened "channel" "salt" 100000 3600 0

/-- After a turn, with everything granted. -/
def Account.granted (s : Account) (turn : Turn) : Account :=
  ((turn.run overdraftConfig).runWith (fun _ => .done) s).2

end AntSeed.Buyer
