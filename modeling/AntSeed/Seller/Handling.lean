import AntSeed.Seller.Acts

/-! # Every handler of a message does permitted acts

Between two awaits a handler does acts of the list, each for its reasons. What
it has verified stays true however the state has changed in the meantime; what
it has read may not, so an act that depends on a value comes before the next
await.
-/

namespace AntSeed.Seller

open Evm Async
open AntSeed.Payments (Signature Channel)
open Function
open ChannelStore

theorem isActive_of_classify (active : classifyOnChainChannel channel = .active) :
    channel.status = .active := by
  unfold classifyOnChainChannel at active
  split at active
  · cases active
  · split at active <;> simp_all

/-- The contract has taken the same ReserveAuth that was verified here, so it is about the channel
    the salt gives. -/
theorem belongs_of_reserve
    (verified : verifyReserveAuth buyerPeerId payload maxAmount deadline = some true)
    (signed : ReserveTx.isSigned node ⟨peerIdToAddress buyerPeerId, salt, maxAmount, deadline,
      payload.spendingAuthSig, oneOffRequestId⟩ = true) :
    Belongs node (peerIdToAddress buyerPeerId) payload.channelId := by
  unfold ReserveTx.isSigned at signed
  split at signed
  · cases signed
  next word _ =>
    obtain ⟨auth, builds, held⟩ := verifyTypedData_eq_true verified
    obtain ⟨auth', builds', held'⟩ := verifyTypedData_eq_true (of_decide_eq_true signed)
    obtain ⟨id, _, _, reads, rfl⟩ := reserveAuthMessage_eq_some builds
    obtain ⟨id', _, _, reads', rfl⟩ := reserveAuthMessage_eq_some builds'
    have same : id = id' := by
      have both := Option.some.inj (held.symm.trans held')
      simp only [Signature.mk.injEq, Payments.Auth.reserveAuth.injEq] at both
      exact both.2.1
    rw [Hex.bytes32_ofWord] at reads'
    exact ⟨node.seller, word, by rw [reads, same, ← reads']⟩

variable {C : Contract Manager Wait Reply} {node : Node} {owner : Option PeerId} {known s : Manager}
  {channelId : Hex} {α : Type} (permits : Permits C node owner)

theorem works_of_row (holds : C.invariant s) (member : row ∈ s.store)
    (serves : Serves owner row.peerId) : Works C node owner row.sessionId :=
  .row row ⟨s, holds, member⟩ serves rfl

theorem Since.later {P : Manager → Prop} {s' : Manager} (since : Since C P s) (lawful : C.Lawful)
    (lasts : C.lasts s s') : Since C P s' := by
  obtain ⟨s₀, holds, so, before⟩ := since
  exact ⟨s₀, holds, so, lawful.trans before lasts⟩

theorem serves_sender (own : owner = some buyerPeerId) :
    Serves owner buyerPeerId := by
  rintro other rfl
  exact Option.some.inj own

def Answers (C : Contract Manager Wait Reply) (label : Wait) (answer : Except ChainError Reply) : Prop :=
  ∀ reply, answer = .ok reply → reply.error = none ∧ Heard C label reply

variable {label : Wait} {f : Unit → Op α} {write : Manager → Manager} {tx : ReserveTx}
  {params : SettleParams} {status : ChannelStatus} {peerId : PeerId}

theorem Answers.wentThrough (answers : Answers C label (.ok reply)) :
    WentThrough C label :=
  ⟨reply, answers reply rfl⟩

/-! ## Steps -/

theorem safe_then {x : Op Unit} {result : α → Prop} (first : Safe C known x fun _ => True)
    (rest : Safe C known (f ()) result) :
    Safe C known (x >>= f) result :=
  Safe.bind first fun _ _ => rest

include permits

theorem safe_act (acts : ∀ s, C.invariant s → C.lasts known s → Act C node owner s (write s)) :
    Safe C known (modify write : Op Unit) fun _ => True :=
  safe_modify permits.lawful trivial fun s holds lasts => permits.acts holds (acts s holds lasts)

theorem safeAt_act (holds : C.invariant s) (acts : Act C node owner s (write s))
    (rest : Safe C s (f ()) result) :
    SafeAt C s (modify write >>= f) result :=
  safeAt_modify permits.lawful (permits.acts holds acts) rest

theorem safeAt_last (holds : C.invariant s) (acts : Act C node owner s (write s)) :
    SafeAt C s (modify write : Op Unit) fun _ => True :=
  safeAt_act permits holds acts (safe_pure trivial)

theorem safe_quiet (alike : ∀ s, Alike s (write s)) :
    Safe C known (modify write : Op Unit) fun _ => True :=
  safe_act permits fun _ _ _ => .quiet (alike _)

theorem safe_read {f : Manager → Op α} {result : α → Prop}
    (rest : ∀ s, C.invariant s → C.lasts known s → Safe C s (f s) result) :
    Safe C known (get >>= f) result :=
  safe_get permits.lawful rest

theorem safe_plain (plain : label.isPlain = true) :
    Safe C known (wait label : Op Reply) fun reply =>
      ∃ s, C.invariant s ∧ C.lasts known s ∧ C.resumes label reply s :=
  safe_wait permits.lawful fun _ _ _ _ _ => permits.asks plain

theorem safe_call (plain : label.isPlain = true) : Safe C known (call label) (Answers C label) := by
  refine .bind (safe_plain permits plain) fun reply heard => ?_
  obtain ⟨s, holds, -, resumes⟩ := heard
  cases error : reply.error with
  | some => exact safe_pure nofun
  | none =>
    refine safe_pure fun reply' same => ?_
    obtain rfl := Except.ok.inj same
    exact ⟨error, s, holds, resumes⟩

theorem safe_call_at (plain : label.isPlain = true) {f : Except ChainError Reply → Op α}
    {result : α → Prop} (failed : ∀ error known, Safe C known (f (.error error)) result)
    (answered : ∀ s reply, C.invariant s → C.lasts known s → C.resumes label reply s →
      SafeAt C s (f (.ok reply)) result) : Safe C known (call label >>= f) result := by
  refine safe_wait_at permits.lawful (fun _ _ _ _ _ => permits.asks plain)
    fun s reply holds lasts resumes => ?_
  dsimp only [Async.bind, bind]
  cases reply.error with
  | some error => exact (failed error s).at permits.lawful holds
  | none => exact answered s reply holds lasts resumes

theorem safe_awaited {x : Op α} {result : α → Prop} (safe : Safe C known x result) :
    Safe C known (awaited x) result :=
  Safe.bind safe fun _ proper => Safe.bind (safe_plain permits rfl) fun _ _ => safe_pure proper

/-! ## The chain -/

theorem getSession_safe : Safe C known (getSession node channelId) fun answer =>
    ∀ channel, answer = .ok channel → Read C node channelId channel := by
  refine .bind (safe_call permits rfl) fun answer answers => ?_
  cases answer with
  | error =>
    cases channelId.bytes32 with
    | none | some => exact safe_pure nofun
  | ok reply =>
    cases reads : channelId.bytes32 with
    | none => exact safe_pure nofun
    | some id =>
      refine safe_pure fun channel found => ?_
      obtain rfl := Except.ok.inj found
      obtain ⟨error, heard⟩ := answers reply rfl
      exact ⟨id, reply, reads, error, rfl, heard⟩

theorem getSession_safe_at {f : Except ChainError Channel → Op α} {result : α → Prop}
    (failed : ∀ error known, Safe C known (f (.error error)) result)
    (found : ∀ s reply channel, C.invariant s → C.lasts known s →
      C.resumes (.session channelId) reply s → Read C node channelId channel →
      SafeAt C s (f (.ok channel)) result) :
    Safe C known (getSession node channelId >>= f) result := by
  refine safe_wait_at permits.lawful (fun _ _ _ _ _ => permits.asks rfl)
    fun s reply holds lasts resumes => ?_
  have fails : ∀ error, SafeAt C s (f (.error error)) result :=
    fun error => (failed error s).at permits.lawful holds
  dsimp only [Async.bind, bind]
  cases answered : reply.error with
  | some error =>
    cases channelId.bytes32 with
    | none | some => exact fails error
  | none =>
    cases reads : channelId.bytes32 with
    | none => exact fails .other
    | some id =>
      exact found s reply _ holds lasts resumes ⟨id, reply, reads, answered, rfl, s, holds, resumes⟩

/-- What a reserve shows that does not fail. -/
def Reserved (C : Contract Manager Wait Reply) (node : Node) (tx : ReserveTx)
    (result : Except ChainError Unit) : Prop :=
  result = .ok () → WentThrough C (.reserve tx) ∧ tx.isSigned node = true

theorem submitReserve_safe (reserves : Reserves C node owner tx) :
    Safe C known (submitReserve node tx) (Reserved C node tx) := by
  have waits : Safe C known (call (.reserve tx)) (Answers C (.reserve tx)) := by
    refine .bind (safe_wait permits.lawful fun since s holds allowed _ =>
      permits.reserves tx holds allowed reserves) fun reply heard => ?_
    obtain ⟨s, holds, -, resumes⟩ := heard
    cases error : reply.error with
    | some => exact safe_pure nofun
    | none =>
      refine safe_pure fun reply' same => ?_
      obtain rfl := Except.ok.inj same
      exact ⟨error, s, holds, resumes⟩
  refine .bind waits fun answer answers => ?_
  cases answer with
  | error => exact safe_pure nofun
  | ok =>
    refine safe_pure fun succeeded => ⟨answers.wentThrough, ?_⟩
    by_contra unsigned
    simp [unsigned] at succeeded

theorem reserveWithBackpressureRetry_safe (reserves : Reserves C node owner tx) (retries : Nat) :
    Safe C known (reserveWithBackpressureRetry node tx retries) (Reserved C node tx) := by
  induction retries with
  | zero => exact submitReserve_safe permits reserves
  | succ retries ih =>
    refine .bind (submitReserve_safe permits reserves) fun result reserved => ?_
    split
    · exact .bind (safe_plain permits rfl) fun _ _ => ih
    · exact safe_pure reserved

theorem topUpUntilVisible_safe (retries : Nat) :
    Safe C known (topUpUntilVisible channelId params pending retries)
      (Answers C (.topUp channelId params pending)) := by
  induction retries with
  | zero => exact safe_call permits rfl
  | succ retries ih =>
    refine .bind (safe_call permits rfl) fun result answers => ?_
    split
    · exact .bind (safe_plain permits rfl) fun _ _ => ih
    · exact safe_pure answers

/-! ## Closing -/

theorem joinClose_safe (joined : Was C fun s => s.closingChannels channelId = some operation) :
    Safe C known (joinClose channelId operation) fun result =>
      ∀ amount, result = .closed amount → Closed C channelId amount := by
  refine .bind (safe_plain permits rfl) fun _ _ => safe_read permits fun s holds _ => ?_
  refine safe_pure fun amount closed => ?_
  cases found : s.closeResults channelId operation with
  | none => simp [found] at closed
  | some =>
    simp only [found, Option.getD_some] at closed
    exact .joined operation joined ⟨s, holds, closed ▸ found⟩

/-- Why a close is asked for. -/
def Asks (C : Contract Manager Wait Reply) (node : Node) (owner : Option PeerId)
    (requester : Option PeerId) (channelId : Hex) (params : SettleParams) (s : Manager) : Prop :=
  ∀ buyerPeerId ∈ requester,
    OnRequest C node owner ⟨channelId, params, s.closes, requester⟩ buyerPeerId s

theorem submitClose_safeAt {requester : Option PeerId} (holds : C.invariant s)
    (works : Works C node owner channelId) (asks : Asks C node owner requester channelId params s) :
    SafeAt C s (submitClose requester channelId params) fun result =>
      ∀ amount, result = .closed amount → Closed C channelId amount := by
  refine safeAt_get ?_
  cases free : s.closingChannels channelId with
  | some =>
    exact (joinClose_safe permits ⟨s, holds, free⟩).at permits.lawful holds
  | none =>
    intro since allowed
    obtain ⟨holds', begun⟩ := permits.acts holds (.beginClose channelId works free)
    refine ⟨holds', permits.lawful.andThen allowed begun,
      permits.closes ⟨channelId, params, s.closes, requester⟩ holds allowed free rfl asks,
      fun s' reply holds'' lasts heard => ?_⟩
    have later := permits.lawful.trans (permits.lawful.within begun) lasts
    refine Safe.here permits.lawful (safe_then (safe_act permits fun s _ _ =>
      .endClose ⟨channelId, params, _, requester⟩ reply ⟨s', holds'', heard⟩)
      (safe_pure fun amount closed => ?_)) holds'' later
    exact .own ⟨channelId, params, _, requester⟩ reply ⟨s', holds'', heard⟩ rfl closed

theorem submitClose_safe (works : Works C node owner channelId) :
    Safe C known (submitClose none channelId params) fun result =>
      ∀ amount, result = .closed amount → Closed C channelId amount :=
  fun since _ holds allowed lasts =>
    (submitClose_safeAt permits holds works (fun _ asked => absurd asked (Option.not_mem_none _)) since
      allowed).mono fun _ _ _ done =>
      ⟨done.1, done.2.1, permits.lawful.trans lasts done.2.2.1, done.2.2.2⟩

/-! ## Settling -/

theorem setLastSettled_safe :
    Safe C known (setLastSettled channelId amount) fun _ => True :=
  safe_quiet permits fun _ => .of_eq rfl ⟨0⟩ fun _ _ => rfl

theorem setCloseRetries_safe :
    Safe C known (setCloseRetries channelId retries) fun _ => True :=
  safe_quiet permits fun _ => .of_eq rfl ⟨0⟩ fun _ _ => rfl

theorem setPendingOneOffClose_safe : Safe C known (setPendingOneOffClose channelId) fun _ => True :=
  safe_quiet permits fun _ => .of_eq rfl ⟨0⟩ fun _ _ => rfl

theorem submitSettle_safe : Safe C known (submitSettle channelId params) fun _ => True := by
  refine .bind (safe_call permits rfl) fun answer _ => ?_
  cases answer with
  | ok => exact setLastSettled_safe permits
  | error => exact safe_pure trivial

theorem settleLatestAuth_safe :
    Safe C known (settleLatestAuth node channelId respectMinSettleDelta) fun _ => True := by
  refine safe_read permits fun s _ _ => safe_ite (fun _ => safe_pure trivial) fun _ => ?_
  refine safe_ite (fun _ => submitSettle_safe permits) fun _ => ?_
  refine safe_ite (fun _ => safe_pure trivial) fun _ => ?_
  refine .bind (getSession_safe permits) fun session _ => ?_
  refine safe_ite (fun _ => setLastSettled_safe permits) fun _ => ?_
  exact safe_ite (fun _ => setLastSettled_safe permits) fun _ => submitSettle_safe permits

theorem retire_safe {settledAmount : Option Int} {peerId : Manager → Option PeerId}
    (works : Works C node owner channelId) (verdict : Verdict C node channelId status settledAmount) :
    Safe C known (modify fun s =>
      (s.setStatus channelId status settledAmount).forgetChannel channelId (peerId s) : Op Unit)
      fun _ => True :=
  safe_act permits fun _ _ _ => .retire channelId status settledAmount _ works verdict

theorem evict_safe (works : Works C node owner channelId)
    (verdict : Verdict C node channelId status none) :
    Safe C known (modify fun s => s.evictStaleChannel channelId peerId status : Op Unit) fun _ => True :=
  safe_act permits fun _ _ _ => .evict channelId peerId status works verdict

theorem keepAfterFailure_safe :
    Safe C known (keepAfterFailure buyerPeerId channelId cleanupOnFailure) fun _ => True := by
  refine safe_ite (fun _ => ?_) fun _ => safe_pure trivial
  exact safe_quiet permits fun _ => alike_deactivateBuyerForChannel

theorem closeSession_safe (works : Works C node owner channelId) :
    Safe C known (closeSession buyerPeerId channelId cleanupOnFailure) fun _ => True := by
  refine safe_read permits fun s _ _ => ?_
  refine safe_ite (fun _ => retire_safe permits works .givenUp) fun _ => ?_
  refine .bind (submitClose_safe permits works) fun result closed => ?_
  split
  next amount => exact retire_safe permits works (.closed amount (closed amount rfl))
  · exact keepAfterFailure_safe permits
  · refine safe_then (setCloseRetries_safe permits) ?_
    exact safe_ite (fun _ => keepAfterFailure_safe permits) fun _ =>
      retire_safe permits works .givenUp

theorem settleSession_safe (serves : Serves owner buyerPeerId) :
    Safe C known (settleSession node buyerPeerId cleanupOnFailure settleOnly) fun _ => True := by
  refine safe_get_at permits.lawful fun s holds _ => ?_
  cases found : s.store.getActiveChannelByPeer buyerPeerId with
  | none => exact (safe_pure trivial).at permits.lawful holds
  | some session =>
    obtain ⟨member, named⟩ := mem_of_getActiveChannelByPeer found
    have works : Works C node owner session.sessionId := works_of_row holds member (named ▸ serves)
    refine safeAt_ite (fun nothing => ?_) fun _ => Safe.at permits.lawful ?_ holds
    · refine safeAt_ite (fun _ => (safe_pure trivial).at permits.lawful holds) fun _ => ?_
      exact safeAt_last permits holds
        (.forget session.sessionId buyerPeerId works (by simp [found]) nothing)
    · refine safe_ite (fun _ => safe_awaited permits (settleLatestAuth_safe permits)) fun _ => ?_
      exact closeSession_safe permits works

theorem closeWithoutAuth_safe (works : Works C node owner channelId) :
    Safe C known (closeWithoutAuth channelId peerId onChain) fun _ => True := by
  refine safe_read permits fun s _ _ => ?_
  refine safe_ite (fun _ => evict_safe permits works .givenUp) fun _ => ?_
  refine .bind (submitClose_safe permits works) fun result closed => ?_
  split
  next amount => exact evict_safe permits works (.closedAway amount (closed amount rfl))
  · exact safe_pure trivial
  · exact setCloseRetries_safe permits

theorem closeOneOffChannel_safe (works : Works C node owner channelId) :
    Safe C known (closeOneOffChannel channelId) fun _ => True := by
  refine safe_read permits fun s _ _ => ?_
  split
  · exact safe_pure trivial
  · refine safe_ite (fun _ => safe_pure trivial) fun _ => safe_ite (fun _ => ?_) fun _ => ?_
    · exact safe_then (retire_safe permits works .givenUp) (safe_pure trivial)
    · refine .bind (submitClose_safe permits works) fun result closed => ?_
      split
      next amount =>
        exact safe_then (retire_safe permits works (.closed amount (closed amount rfl)))
          (safe_pure trivial)
      · exact safe_then (setPendingOneOffClose_safe permits) (safe_pure trivial)
      · exact safe_then (setCloseRetries_safe permits)
          (safe_then (setPendingOneOffClose_safe permits) (safe_pure trivial))

/-! ## SpendingAuths of a session channel -/

section Sessions

omit permits

variable {buyerPeerId : PeerId} {payload : SpendingAuthPayload} {cumulativeAmount : Int}
  {row : StoredChannel}

theorem passes_spending (fits : metadataMatchesHash node payload = true)
    (named : payload.cumulativeAmount.toBigInt = some cumulativeAmount) (more : existing < cumulativeAmount)
    (verified : verifySpendingAuth buyerPeerId payload cumulativeAmount = some true) :
    payload.passes node buyerPeerId existing = true := by
  simp [SpendingAuthPayload.passes, fits, named, more, verified]

theorem passes_reserve (fits : metadataMatchesHash node payload = true)
    (verified : verifyReserveAuth buyerPeerId payload maxAmount deadline = some true) :
    payload.passes node buyerPeerId existing = true := by
  obtain ⟨auth, builds, signed⟩ := verifyTypedData_eq_true verified
  obtain ⟨id, amount, until_, -, rfl⟩ := reserveAuthMessage_eq_some builds
  simp [SpendingAuthPayload.passes, fits, signed, isReserveAuth]

include permits

theorem activateRecovered_safeAt (own : owner = some buyerPeerId)
    (holds : C.invariant s) (taken : Was C (TakenUp C buyerPeerId payload none))
    (fits : metadataMatchesHash node payload = true) (read : Read C node payload.channelId onChain)
    (active : classifyOnChainChannel onChain = .active)
    (parties : matchesChannelParties node onChain (peerIdToAddress buyerPeerId) = true)
    (resumed : ∃ reply, C.resumes (.recovering payload.channelId cumulativeAmount onChain) reply s) :
    SafeAt C s (activateRecovered buyerPeerId payload cumulativeAmount onChain) fun _ => True := by
  unfold activateRecovered
  split
  · exact (safe_pure trivial).at permits.lawful holds
  · exact (safe_pure trivial).at permits.lawful holds
  next verified =>
    refine safeAt_ite (fun _ => (safe_pure trivial).at permits.lawful holds) fun enough => ?_
    rw [not_lt] at enough
    exact safeAt_act permits holds (.recover buyerPeerId payload cumulativeAmount onChain own taken
      fits read active parties verified enough resumed) (safe_pure trivial)

theorem recoverOnChainSession_safe (own : owner = some buyerPeerId)
    (taken : Was C (TakenUp C buyerPeerId payload none))
    (fits : metadataMatchesHash node payload = true) :
    Safe C known (recoverOnChainSession node buyerPeerId payload cumulativeAmount) fun _ => True := by
  refine .bind (getSession_safe permits) fun session read => ?_
  cases session with
  | error => exact safe_pure trivial
  | ok onChain =>
    refine safe_call_at permits rfl (fun _ _ => safe_pure trivial) fun s reply holds _ resumes => ?_
    refine safeAt_ite (fun found => ?_) fun _ => (safe_pure trivial).at permits.lawful holds
    obtain ⟨active, parties, -⟩ := found
    exact activateRecovered_safeAt permits own holds taken fits (read onChain rfl) active parties
      ⟨reply, resumes⟩

theorem closeReplaced_safe (works : Works C node owner row.sessionId) :
    Safe C known (closeReplaced node row accepted) fun _ => True := by
  refine safe_read permits fun s _ _ => safe_ite (fun _ => ?_) fun _ => ?_
  · refine .bind (submitClose_safe permits works) fun result closed => ?_
    cases result with
    | failed => exact safe_pure trivial
    | closed amount =>
      exact safe_then (evict_safe permits works (.closedAway amount (closed amount rfl)))
        (safe_pure trivial)
  · refine .bind (getSession_safe permits) fun session read => ?_
    cases session with
    | error => exact safe_pure trivial
    | ok onChain =>
      refine safe_ite (fun gone => ?_) fun _ => ?_
      · exact safe_then (evict_safe permits works (.notOpen onChain (read onChain rfl) gone))
          (safe_pure trivial)
      · refine .bind (submitClose_safe permits works) fun result closed => ?_
        cases result with
        | failed => exact safe_pure trivial
        | closed amount =>
          exact safe_then (evict_safe permits works (.closedAway amount (closed amount rfl)))
            (safe_pure trivial)

theorem closeSupersededChannel_safe (works : Works C node owner row.sessionId)
    (since : Since C (fun s => row ∈ s.store) known) :
    Safe C known (closeSupersededChannel node row) fun _ => True := by
  refine safe_get_at permits.lawful fun s holds lasts => ?_
  refine safeAt_ite (fun _ => (safe_pure trivial).at permits.lawful holds) fun _ => ?_
  cases tracked : s.acceptedCumulative row.sessionId with
  | some => exact (closeReplaced_safe permits works).at permits.lawful holds
  | none =>
    obtain ⟨s₀, holds₀, member, before⟩ := since
    refine safeAt_act permits holds (.restore row works ⟨s₀, holds₀, member, ?_⟩ (by simp [tracked]))
      (closeReplaced_safe permits works)
    exact permits.lawful.trans before lasts

theorem closeSuperseded_safe (serves : Serves owner buyerPeerId) :
    Safe C known (closeSuperseded node buyerPeerId payload) fun _ => True := by
  refine safe_read permits fun s holds _ => ?_
  cases found : s.store.getActiveChannelByPeer buyerPeerId with
  | none => exact safe_pure trivial
  | some =>
    obtain ⟨member, named⟩ := mem_of_getActiveChannelByPeer found
    refine safe_ite (fun _ => safe_pure trivial) fun _ => safe_awaited permits ?_
    exact closeSupersededChannel_safe permits (works_of_row holds member (named ▸ serves))
      ⟨s, holds, member, permits.lawful.refl s⟩

section

variable (own : owner = some buyerPeerId) (taken : Was C (TakenUp C buyerPeerId payload none))

include own taken

theorem activateReserved_safe
    (named : payload.cumulativeAmount.toBigInt = some cumulativeAmount)
    (reserved : ReservedBy C node buyerPeerId payload tx) :
    Safe C known (activateReserved buyerPeerId payload cumulativeAmount tx.maxAmount tx.deadline)
      fun _ => True := by
  refine safe_read permits fun s₀ _ _ => ?_
  refine safe_call_at permits rfl (fun _ _ => safe_pure trivial) fun s reply holds _ resumes => ?_
  exact safeAt_act permits holds (.reserve buyerPeerId payload cumulativeAmount tx s₀.now own taken named
    reserved ⟨reply, resumes⟩) (safe_pure trivial)

theorem reserveSession_safe
    (named : payload.cumulativeAmount.toBigInt = some cumulativeAmount) :
    Safe C known (reserveSession node buyerPeerId payload cumulativeAmount) fun _ => True := by
  refine safe_read permits fun s _ _ => ?_
  split
  next reserveMaxAmount reserveDeadline _ _ =>
    refine safe_ite (fun verified => ?_) fun _ => safe_pure trivial
    refine .bind (closeSuperseded_safe permits (serves_sender own)) fun closed _ => ?_
    refine safe_ite (fun _ => safe_pure trivial) fun _ => ?_
    have reserves : Reserves C node owner
        { buyer := peerIdToAddress buyerPeerId
          salt := payload.reserveSalt.getD payload.channelId
          maxAmount := reserveMaxAmount
          deadline := reserveDeadline
          sig := payload.spendingAuthSig } :=
      .session buyerPeerId payload own rfl rfl verified rfl
    refine .bind (safe_awaited permits
      (reserveWithBackpressureRetry_safe permits reserves 5)) fun result reserved => ?_
    cases result with
    | error => exact safe_pure trivial
    | ok =>
      obtain ⟨through, signed⟩ := reserved rfl
      apply activateReserved_safe permits own taken named ⟨through, signed, rfl, rfl, verified⟩
  · exact safe_pure trivial
  · exact safe_pure trivial

theorem openSession_safe
    (fits : metadataMatchesHash node payload = true)
    (named : payload.cumulativeAmount.toBigInt = some cumulativeAmount) :
    Safe C known (openSession node buyerPeerId payload cumulativeAmount) fun _ => True := by
  refine safe_ite (fun _ => reserveSession_safe permits own taken named) fun _ => ?_
  refine .bind (safe_awaited permits (recoverOnChainSession_safe permits own taken fits))
    fun recovered _ => ?_
  split
  · exact safe_pure trivial
  · exact safe_pure trivial
  · exact reserveSession_safe permits own taken named

end

variable {params : SettleParams} {pending : PendingTopUp} {disconnectMarker : Option Nat}

section

variable (works : Works C node owner channelId)

include works

theorem recordTopUp_safe (through : WentThrough C (.topUp channelId params pending)) :
    Safe C known (modify fun s =>
      s.recordTopUp channelId pending.newMaxAmount pending.deadline : Op Unit) fun _ => True :=
  safe_act permits fun _ _ _ => .recordTopUp channelId params pending works through

theorem storePendingTopUp_safe :
    Safe C known (modify fun s => s.storePendingTopUp channelId pending : Op Unit) fun _ => True :=
  safe_act permits fun _ _ _ => .storePendingTopUp channelId pending works

theorem deletePendingTopUp_safe :
    Safe C known (modify fun s => s.deletePendingTopUp channelId : Op Unit) fun _ => True :=
  safe_act permits fun _ _ _ => .deletePendingTopUp channelId works

theorem blockChannel_safe :
    Safe C known (modify fun s => s.blockChannel channelId : Op Unit) fun _ => True :=
  safe_act permits fun _ _ _ => .blockChannel channelId works

end

theorem extendReserve_safe (own : owner = some buyerPeerId)
    (taken : Was C (TakenUp C buyerPeerId payload (some existing)))
    (fits : metadataMatchesHash node payload = true) :
    Safe C known (extendReserve node buyerPeerId payload newMaxAmount) fun _ => True := by
  refine safe_read permits fun s _ _ => ?_
  split
  · exact safe_pure trivial
  next topUpDeadline _ =>
  refine safe_ite (fun verified => ?_) fun _ => safe_pure trivial
  have works : Works C node owner payload.channelId :=
    .signed buyerPeerId payload existing own taken (passes_reserve fits verified) rfl
  refine .bind (safe_call permits rfl) fun result answers => ?_
  cases result with
  | ok =>
    refine safe_then (safe_quiet permits fun _ => .of_eq rfl ⟨0⟩ fun _ _ => rfl) ?_
    exact safe_then (recordTopUp_safe permits works answers.wentThrough) (safe_pure trivial)
  | error =>
    refine safe_ite (fun _ => ?_) fun _ => ?_
    · exact safe_then (storePendingTopUp_safe permits works) (safe_pure trivial)
    · refine safe_then ?_ (safe_then (safe_awaited permits (settleSession_safe permits
        (serves_sender own))) (safe_pure trivial))
      refine safe_modify permits.lawful trivial fun s holds _ => ?_
      obtain ⟨holds', first⟩ := permits.acts holds (.deletePendingTopUp payload.channelId works)
      obtain ⟨holds'', second⟩ := permits.acts holds' (.blockChannel payload.channelId works)
      exact ⟨holds'', permits.lawful.andThen first second⟩

theorem retryPendingTopUp_safe (serves : Serves owner buyerPeerId)
    (works : Works C node owner channelId) :
    Safe C known (retryPendingTopUp node buyerPeerId channelId pending params) fun _ => True := by
  refine safe_then (deletePendingTopUp_safe permits works) ?_
  refine .bind (safe_call permits rfl) fun result answers => ?_
  cases result with
  | ok => exact recordTopUp_safe permits works answers.wentThrough
  | error =>
    refine safe_ite (fun _ => storePendingTopUp_safe permits works) fun _ => ?_
    refine safe_then (blockChannel_safe permits works) ?_
    exact safe_awaited permits (settleSession_safe permits serves)

theorem retryDeferredTopUp_safe (serves : Serves owner buyerPeerId)
    (works : Works C node owner channelId) :
    Safe C known (retryDeferredTopUp node buyerPeerId channelId) fun _ => True := by
  refine safe_read permits fun s _ _ => ?_
  split
  · exact safe_pure trivial
  · exact safe_awaited permits (retryPendingTopUp_safe permits serves works)

theorem acknowledge_safe :
    Safe C known (modify fun s =>
      s.acknowledgeRetainedChannel buyerPeerId channelId disconnectMarker : Op Unit) fun _ => True :=
  safe_quiet permits fun _ => alike_acknowledgeRetainedChannel

theorem validateRetainedChannel_safe :
    Safe C known (validateRetainedChannel node buyerPeerId channelId cumulativeAmount disconnectMarker)
      fun _ => True := by
  refine safe_read permits fun s _ _ => safe_ite (fun _ => safe_pure trivial) fun _ => ?_
  refine .bind (getSession_safe permits) fun session _ => ?_
  cases session with
  | error => exact safe_pure trivial
  | ok =>
    refine .bind (safe_call permits rfl) fun resolved _ => safe_read permits fun s _ _ => ?_
    cases resolved with
    | error | ok => exact safe_pure trivial

theorem reactivate_safe :
    Safe C known (reactivate node buyerPeerId channelId cumulativeAmount disconnectMarker)
      fun _ => True := by
  refine .bind (safe_awaited permits (validateRetainedChannel_safe permits)) fun valid _ => ?_
  refine safe_ite (fun _ => ?_) fun _ => safe_pure trivial
  exact safe_then (acknowledge_safe permits) (safe_pure trivial)

section

variable (own : owner = some buyerPeerId) (holds : C.invariant s)
  (since : Since C (TakenUp C buyerPeerId payload (some existing)) s)
  (fits : metadataMatchesHash node payload = true)
  (named : payload.cumulativeAmount.toBigInt = some cumulativeAmount)
  (resumed : ∃ reply, C.resumes (.checked payload.channelId (some existing)) reply s)

include own holds since fits named resumed

theorem acceptSpendingAuth_safeAt :
    SafeAt C s (acceptSpendingAuth node buyerPeerId payload cumulativeAmount existing disconnectMarker)
      fun _ => True := by
  have done : ∀ outcome, SafeAt C s (pure outcome : Op Outcome) fun _ => True :=
    fun _ => (safe_pure trivial).at permits.lawful holds
  have again : ∀ (known : Manager) (outcome : Bool → Outcome), Safe C known (do
      let reactivated ← reactivate node buyerPeerId payload.channelId cumulativeAmount disconnectMarker
      pure (outcome reactivated)) fun _ => True :=
    fun _ _ => Safe.bind (reactivate_safe permits) fun _ _ => safe_pure trivial
  refine safeAt_get (safeAt_ite (fun _ => done _) fun verified => ?_)
  rw [not_not] at verified
  refine safeAt_ite (fun _ => done _) fun least => safeAt_ite (fun _ => ?_) fun other => ?_
  · refine safeAt_ite (fun _ => (again s _).at permits.lawful holds) fun _ => ?_
    exact Safe.at permits.lawful (safe_then (acknowledge_safe permits) (safe_pure trivial)) holds
  · have more : existing < cumulativeAmount := lt_of_le_of_ne (not_lt.mp least) (Ne.symm other)
    have works : Works C node owner payload.channelId := by
      obtain ⟨s₀, holds₀, taken, -⟩ := since
      exact .signed buyerPeerId payload existing own ⟨s₀, holds₀, taken⟩
        (passes_spending fits named more verified) rfl
    refine safeAt_ite (fun _ => done _) fun spent => safeAt_ite (fun _ => done _) fun fitting => ?_
    refine safeAt_act permits holds (.recordSpendingAuth buyerPeerId payload cumulativeAmount existing
      own since fits named verified more (not_lt.mp spent) ?_ resumed) ?_
    · exact fun known => not_lt.mp fun above => fitting ⟨known, above⟩
    · refine safe_then (retryDeferredTopUp_safe permits (serves_sender own) works) ?_
      exact safe_ite (fun _ => again s _) fun _ => safe_pure trivial

theorem updateSession_safeAt :
    SafeAt C s (updateSession node buyerPeerId payload cumulativeAmount existing disconnectMarker)
      fun _ => True := by
  have accept : SafeAt C s (acceptSpendingAuth node buyerPeerId payload cumulativeAmount existing
      disconnectMarker) fun _ => True :=
    acceptSpendingAuth_safeAt permits own holds since fits named resumed
  refine safeAt_get ?_
  split
  · refine safeAt_ite (fun _ => ?_) fun _ => accept
    obtain ⟨s₀, holds₀, taken, -⟩ := since
    exact Safe.at permits.lawful (extendReserve_safe permits own ⟨s₀, holds₀, taken⟩ fits) holds
  · exact (safe_pure trivial).at permits.lawful holds
  · exact accept
  · exact accept

end

theorem handleSpendingAuthInner_safeAt (own : owner = some buyerPeerId) (holds : C.invariant s)
    (resumed : ∃ reply, C.resumes (.lock buyerPeerId payload false) reply s) :
    SafeAt C s (handleSpendingAuthInner node buyerPeerId payload disconnectMarker) fun _ => True := by
  refine safeAt_get (Safe.at permits.lawful ?_ holds)
  cases named : payload.cumulativeAmount.toBigInt with
  | none => exact safe_pure trivial
  | some =>
    refine safe_ite (fun _ => safe_pure trivial) fun matching => ?_
    rw [Bool.not_eq_false] at matching
    cases tracked : s.acceptedCumulative payload.channelId with
    | none =>
      refine .bind (safe_call permits rfl) fun resolved _ => ?_
      cases resolved with
      | error => exact safe_pure trivial
      | ok => exact openSession_safe permits own ⟨s, holds, tracked, resumed⟩ matching named
    | some =>
      refine safe_call_at permits rfl (fun _ _ => safe_pure trivial)
        fun s' reply holds' lasts resumes => ?_
      exact updateSession_safeAt permits own holds' ⟨s, holds, ⟨tracked, resumed⟩, lasts⟩ matching named
        ⟨reply, resumes⟩

end Sessions

/-! ## One-off channels -/

section OneOff

variable {buyerPeerId : PeerId} {payload : SpendingAuthPayload}

variable {plan : PendingOneOffPlan} {requestId : String}

section

variable (own : owner = some buyerPeerId)

include own

theorem activateOneOff_safe
    (agreed : Agreed C node buyerPeerId payload requestId plan tx.deadline terms)
    (reserved : ReservedBy C node buyerPeerId payload tx)
    (amount : tx.maxAmount = plan.openingReserveAmount)
    (request : tx.oneOffRequestId = some requestId) (works : Works C node owner payload.channelId) :
    Safe C known
      (activateOneOff buyerPeerId payload requestId terms plan.openingReserveAmount tx.deadline)
      fun _ => True := by
  refine safe_read permits fun s _ _ => Safe.bind (safe_call permits rfl) fun resolved _ => ?_
  have activate : ∀ known : Manager, (∀ pending ∈ terms.topUp,
      ∃ params, WentThrough C (.topUp payload.channelId params pending)) →
      Safe C known (modify (·.activateOneOff (oneOffRow buyerPeerId payload requestId terms.latestAuth
        terms.finalReserve terms.finalDeadline s.now) terms.latestAuth) : Op Unit) fun _ => True :=
    fun _ through => safe_act permits fun _ _ _ => .activateOneOff buyerPeerId payload requestId plan
      terms tx s.now own agreed reserved amount request through
  cases resolved with
  | error => exact safe_pure trivial
  | ok =>
    cases topped : terms.topUp with
    | none => exact safe_then (activate s (by simp [topped])) (safe_pure trivial)
    | some =>
      refine safe_then (safe_act permits fun _ _ _ => .recordOpening buyerPeerId payload requestId
        plan terms tx s.now own agreed reserved amount request) ?_
      refine .bind (safe_awaited permits (topUpUntilVisible_safe permits 4)) fun result answers => ?_
      cases result with
      | ok =>
        refine safe_then (activate s fun pending asked => ?_) (safe_pure trivial)
        obtain rfl := Option.some.inj (topped.symm.trans asked)
        exact ⟨_, answers.wentThrough⟩
      | error =>
        refine safe_then (safe_act permits fun _ _ _ => .trackUntopped buyerPeerId payload
          requestId plan terms tx own agreed reserved amount request) ?_
        exact .bind (safe_awaited permits (closeOneOffChannel_safe permits works))
          fun _ _ => safe_pure trivial

theorem reserveOneOff_safe (was : Was C fun s =>
      s.pendingOneOffPlans (buyerPeerId, requestId) = some plan ∧ s.now < plan.expiresAt)
    (named : payload.oneOffRequestId = some requestId) :
    Safe C known
      (reserveOneOff node buyerPeerId payload requestId salt plan plan.openingReserveAmount reserveDeadline)
      fun _ => True := by
  refine safe_ite (fun verified => ?_) fun _ => safe_pure trivial
  split
  · exact safe_pure trivial
  next terms agrees =>
    have agreed : Agreed C node buyerPeerId payload requestId plan reserveDeadline terms :=
      ⟨was, named, verified, agrees⟩
    refine safe_then (safe_act permits fun _ _ _ => .agree buyerPeerId requestId own) ?_
    have reserves : Reserves C node owner
        { buyer := peerIdToAddress buyerPeerId
          salt := salt
          maxAmount := plan.openingReserveAmount
          deadline := reserveDeadline
          sig := payload.spendingAuthSig
          oneOffRequestId := some requestId } :=
      .oneOff buyerPeerId payload requestId plan terms own rfl rfl agreed rfl rfl
    refine .bind (safe_awaited permits
      (reserveWithBackpressureRetry_safe permits reserves 5)) fun result reserved => ?_
    cases result with
    | error => exact safe_pure trivial
    | ok =>
      obtain ⟨through, signed⟩ := reserved rfl
      have reserved : ReservedBy C node buyerPeerId payload _ := ⟨through, signed, rfl, rfl, verified⟩
      apply activateOneOff_safe permits own agreed reserved rfl rfl
      exact .belongs buyerPeerId own (belongs_of_reserve verified signed)

theorem openOneOffChannel_safe :
    Safe C known (openOneOffChannel node buyerPeerId payload) fun _ => True := by
  refine safe_read permits fun s holds _ => ?_
  split
  next requestId salt openingReserve reserveDeadline named _ _ _ =>
    split
    · exact safe_pure trivial
    next plan planned =>
      refine safe_ite (fun _ => safe_pure trivial) fun fitting => ?_
      simp only [ne_eq, not_or, not_le, not_not] at fitting
      obtain ⟨-, -, fresh, -, rfl⟩ := fitting
      exact reserveOneOff_safe permits own ⟨s, holds, planned, fresh⟩ named
  · exact safe_pure trivial

theorem acceptOneOffSpendingAuth_safeAt (holds : C.invariant s)
    (oneOff : s.oneOffChannelIds payload.channelId = true)
    (fits : metadataMatchesHash node payload = true) :
    SafeAt C s (acceptOneOffSpendingAuth buyerPeerId payload) fun _ => True := by
  have done : ∀ outcome, SafeAt C s (pure outcome : Op Outcome) fun _ => True :=
    fun _ => (safe_pure trivial).at permits.lawful holds
  refine safeAt_get ?_
  dsimp only
  split
  next cumulativeAmount row _ found =>
    obtain ⟨member, named⟩ := mem_of_getChannel found
    refine safeAt_ite (fun _ => done _) fun sender => ?_
    refine safeAt_ite (fun _ => done _) fun verified => ?_
    refine safeAt_ite (fun _ => done _) fun bounds => ?_
    rw [not_not] at verified
    simp only [ne_eq, not_or, not_not] at sender
    simp only [gt_iff_lt, not_or, not_lt] at bounds
    obtain ⟨-, spent, ceiling⟩ := bounds
    have works : Works C node owner payload.channelId :=
      named ▸ works_of_row holds member (sender.1 ▸ serves_sender own)
    refine safeAt_modify permits.lawful ?_ (safe_ite (fun _ => ?_) fun _ => safe_pure trivial)
    · split
      next more =>
        exact permits.acts holds (.recordOneOffAuth buyerPeerId payload cumulativeAmount row own found
          sender.1 oneOff fits verified more spent ceiling)
      · exact ⟨holds, permits.lawful.idle s⟩
    · exact .bind (safe_awaited permits (closeOneOffChannel_safe permits works)) fun _ _ =>
        safe_pure trivial
  · exact done _
  · exact done _

theorem handleOneOffSpendingAuth_safe :
    Safe C known (handleOneOffSpendingAuth node buyerPeerId payload) fun _ => True := by
  refine safe_ite (fun _ => safe_pure trivial) fun matching => ?_
  rw [Bool.not_eq_false] at matching
  refine .bind (safe_call permits rfl) fun resolved _ =>
    safe_get_at permits.lawful fun s holds _ => ?_
  cases resolved with
  | error => exact (safe_pure trivial).at permits.lawful holds
  | ok =>
    refine safeAt_ite (fun oneOff => acceptOneOffSpendingAuth_safeAt permits own holds oneOff matching)
      fun _ => ?_
    exact (openOneOffChannel_safe permits own).at permits.lawful holds

theorem handleSpendingAuth_safe :
    Safe C known (handleSpendingAuth node buyerPeerId payload) fun _ => True := by
  refine safe_read permits fun s _ _ => ?_
  generalize (payload.oneOffRequestId.isSome || s.oneOffChannelIds payload.channelId) = isOneOff
  refine safe_wait_at permits.lawful (fun _ _ _ _ _ => permits.asks rfl)
    fun s' reply holds _ resumes => ?_
  cases isOneOff with
  | true => exact (handleOneOffSpendingAuth_safe permits own).at permits.lawful holds
  | false => exact handleSpendingAuthInner_safeAt permits own holds ⟨reply, resumes⟩

end

end OneOff

/-! ## Buyer-requested closes -/

section CloseRequests

variable {buyerPeerId : PeerId} {row : StoredChannel}

variable {auth : Option CloseAuth}

theorem takeCloseAuth_safe (serves : Serves owner row.peerId)
    (since : Since C (fun s => row ∈ s.store ∧ row.channelKind = .paid) known) :
    Safe C known (takeCloseAuth node row auth) fun _ => True := by
  have returns : ∀ (taken : Bool) known, Safe C known (awaited (pure taken)) fun _ => True :=
    fun _ _ => safe_awaited permits (safe_pure trivial)
  cases auth with
  | none => exact returns true known
  | some auth =>
    dsimp only [takeCloseAuth]
    cases reads : readCloseAuth node auth with
    | none => exact returns false known
    | some amount =>
      refine .bind (safe_call permits rfl) fun resolved _ => ?_
      cases resolved with
      | error => exact returns false _
      | ok =>
        refine safe_ite (fun verified => ?_) fun _ => returns false _
        refine safe_wait_at permits.lawful (fun _ _ _ _ _ => permits.asks rfl)
          fun s reply holds lasts resumes => ?_
        obtain ⟨s₀, holds₀, was, before⟩ := since
        exact safeAt_act permits holds (.adopt row auth amount serves
          ⟨s₀, holds₀, was, permits.lawful.trans before lasts⟩ reads verified ⟨reply, resumes⟩)
          (safe_pure trivial)

theorem closeOnRequest_safe (own : owner = some buyerPeerId) (works : Works C node owner channelId)
    (active : ∃ row, row.sessionId = channelId ∧
      Since C (fun s => s.store.getActiveChannelByPeer buyerPeerId = some row) known) :
    Safe C known (closeOnRequest node buyerPeerId channelId) fun _ => True := by
  refine getSession_safe_at permits (fun _ _ => safe_pure trivial)
    fun s reply onChain holds lasts resumes read => safeAt_get ?_
  refine safeAt_ite (fun _ => (safe_pure trivial).at permits.lawful holds) fun idle => ?_
  refine safeAt_ite (fun _ => (safe_pure trivial).at permits.lawful holds) fun signed => ?_
  rw [Bool.not_eq_true] at idle signed
  refine .bind (submitClose_safeAt permits holds works fun asker asked => ?_) fun result closed => ?_
  · obtain rfl := Option.some.inj asked
    obtain ⟨row, named, since⟩ := active
    exact ⟨own, idle, signed, ⟨onChain, read, rfl⟩, ⟨row, named, since.later permits.lawful lasts⟩,
      ⟨reply, resumes⟩⟩
  · cases result with
    | failed => exact safe_pure trivial
    | closed amount =>
      exact safe_then (retire_safe permits works (.closed amount (closed amount rfl)))
        (safe_pure trivial)

theorem awaitCatchUp_safe : Safe C known (awaitCatchUp channelId) fun _ => True := by
  refine safe_read permits fun s _ _ => safe_ite (fun _ => ?_) fun _ => safe_pure trivial
  exact .bind (safe_plain permits rfl) fun _ _ => safe_pure trivial

theorem closeOwnSession_safe (own : owner = some buyerPeerId) :
    Safe C known (closeOwnSession node buyerPeerId channelId auth) fun _ => True := by
  refine .bind (safe_plain permits rfl) fun _ _ => safe_read permits fun s holds _ => ?_
  cases found : s.store.getActiveChannelByPeer buyerPeerId with
  | none => exact safe_pure trivial
  | some session =>
    obtain ⟨member, named⟩ := mem_of_getActiveChannelByPeer found
    have serves : Serves owner session.peerId := named ▸ serves_sender own
    refine safe_ite (fun _ => safe_pure trivial) fun same => ?_
    rw [not_not] at same
    subst same
    have since : Since C (fun s => session ∈ s.store ∧ session.channelKind = .paid) s :=
      ⟨s, holds, ⟨member, (active_of_getActiveChannelByPeer found).1⟩, permits.lawful.refl s⟩
    refine .bind (takeCloseAuth_safe permits serves since) fun taken _ => ?_
    refine safe_ite (fun _ => safe_pure trivial) fun _ => safe_then (awaitCatchUp_safe permits) ?_
    refine safe_read permits fun s' _ lasts => safe_ite (fun _ => safe_pure trivial) fun _ => ?_
    exact closeOnRequest_safe permits own (works_of_row holds member serves)
      ⟨session, rfl, s, holds, found, lasts⟩

theorem handleCloseChannelRequest_safe (own : owner = some buyerPeerId) :
    Safe C known (handleCloseChannelRequest node buyerPeerId payload) fun _ => True := by
  refine safe_read permits fun s _ _ => ?_
  split
  · exact safe_pure trivial
  · refine safe_ite (fun _ => safe_pure trivial) fun _ => ?_
    exact safe_ite (fun _ => safe_pure trivial) fun _ => closeOwnSession_safe permits own

end CloseRequests

end AntSeed.Seller
