import AntSeed.FreeUsage.SellerFreeUsageManager

/-! # What a free-usage session accounts for

The counters of a session and what it asks its buyer to sign. No flush and no disconnect touches them, so
every accepted state is what the seller has measured, whatever goes on besides.
-/

namespace AntSeed.FreeUsage

open Seller (Hex)
open ManagerState
open SellerFreeUsageSession List

/-- The part of a session that handlers and reports share. -/
structure UsageAccount where
  acceptedSequence : Nat := 0
  requestedSequence : Nat := 0
  requestedInputTokens : Nat := 0
  requestedOutputTokens : Nat := 0
  requestedRequestCount : Nat := 0
  expectedUsageBySequence : List (Nat × ExpectedFreeUsage) := []

namespace UsageAccount

def accept (account : UsageAccount) (sequence : Nat) : UsageAccount :=
  { account with
    acceptedSequence := sequence
    expectedUsageBySequence := account.expectedUsageBySequence.filter fun entry => ¬ entry.1 ≤ sequence }

def reportUsage (account : UsageAccount) (inputTokens outputTokens nextSequence : Nat) : UsageAccount :=
  { account with
    requestedSequence := nextSequence
    requestedInputTokens := account.requestedInputTokens + inputTokens
    requestedOutputTokens := account.requestedOutputTokens + outputTokens
    requestedRequestCount := account.requestedRequestCount + 1
    expectedUsageBySequence := Keyed.set Prod.fst
      (nextSequence, ⟨account.requestedInputTokens + inputTokens, account.requestedOutputTokens + outputTokens,
        account.requestedRequestCount + 1⟩) account.expectedUsageBySequence }

end UsageAccount

namespace SellerFreeUsageSession

variable (m : SellerFreeUsageManager) (session : SellerFreeUsageSession)

def account : UsageAccount where
  acceptedSequence := session.acceptedSequence
  requestedSequence := session.requestedSequence
  requestedInputTokens := session.requestedInputTokens
  requestedOutputTokens := session.requestedOutputTokens
  requestedRequestCount := session.requestedRequestCount
  expectedUsageBySequence := session.expectedUsageBySequence

@[simp] theorem account_clearFlushTimer : session.clearFlushTimer.account = session.account := rfl

@[simp] theorem account_flushPendingRecord : session.flushPendingRecord.account = session.account := by
  unfold flushPendingRecord
  split <;> rfl

@[simp] theorem account_setOpenPromise {openPromise : OpenPromise} :
    (session.setOpenPromise openPromise).account = session.account := rfl

@[simp] theorem account_setStage (stage : FlushStage) : (session.setStage stage).account = session.account := rfl

@[simp] theorem account_flushStarts : session.flushStarts.account = session.account := by
  unfold flushStarts
  split <;> rfl

@[simp] theorem account_reported (record : PendingFreeUsageRecord) :
    (session.reported record).account = session.account := by
  unfold reported
  split
  · rfl
  · split <;> rfl

@[simp] theorem account_landed (flush : Flush) : (session.landed flush).account = session.account := by
  unfold landed
  split <;> simp

@[simp] theorem account_requestClose : session.requestClose.account = session.account := rfl

@[simp] theorem account_awaitFlush : session.awaitFlush.account = session.account := by
  unfold awaitFlush
  split <;> rfl

@[simp] theorem account_scheduleRecordFlush (retry : Bool) (nowMs : Nat) :
    (m.scheduleRecordFlush session retry nowMs).account = session.account := by
  unfold SellerFreeUsageManager.scheduleRecordFlush
  split
  · rfl
  · split
    · rfl
    · split
      · simp
      · split <;> rfl

end SellerFreeUsageSession

namespace ManagerState

variable {s : ManagerState}

def accounts (s : ManagerState) : List UsageAccount := s.sessions.map account

theorem accounts_setSession {id : Nat} {change : SellerFreeUsageSession → SellerFreeUsageSession}
    {bill : UsageAccount → UsageAccount} (bills : ∀ session, (change session).account = bill session.account) :
    (s.setSession id change).accounts = s.accounts.modify id bill := by
  unfold accounts setSession
  apply ext_getElem?
  intro i
  simp only [getElem?_map, getElem?_modify]
  split
  · cases s.sessions[i]? <;> simp [bills]
  · simp

theorem accounts_kept {id : Nat} {change : SellerFreeUsageSession → SellerFreeUsageSession}
    (keeps : ∀ session, (change session).account = session.account) :
    (s.setSession id change).accounts = s.accounts := by
  rw [@accounts_setSession s id change (fun account => account) keeps]
  exact modify_id id _

end ManagerState

/-- What `_handleAuthInner` accepts, if it accepts anything. -/
def ManagerState.acceptance (m : SellerFreeUsageManager) (s : ManagerState) (payload : FreeUsageAuthPayload) :
    Option (Nat × PendingFreeUsageRecord × ExpectedFreeUsage) := do
  let (id, session) ← s.sessionOf payload
  let sequence ← payload.sequence.toBigInt
  if sequence ≤ session.acceptedSequence then none
  else do
    let (record, usage) ← m.verifyAuth session payload sequence.toNat
    pure (id, record, usage)

def ManagerState.acceptedBy (m : SellerFreeUsageManager) (s : ManagerState) :
    Event → Option (Nat × PendingFreeUsageRecord × ExpectedFreeUsage)
  | .start handler _ _ => do
      let task ← s.handlerOf handler
      if s.hasLock task = false then none
      else
        match task.handler with
        | .auth payload => s.acceptance m payload
        | _ => none
  | _ => none

section Acceptances

variable {m : SellerFreeUsageManager} {s t s' : ManagerState} {session : SellerFreeUsageSession}
  {payload : FreeUsageAuthPayload} {sequence : Nat} {record : PendingFreeUsageRecord} {usage : ExpectedFreeUsage}

theorem verifyAuth_eq_some (accepts : m.verifyAuth session payload sequence = some (record, usage)) :
    record.sequence = sequence ∧ (sequence, usage) ∈ session.expectedUsageBySequence
      ∧ m.decodeFreeUsageMetadata record.metadata = some usage := by
  simp only [SellerFreeUsageManager.verifyAuth, Option.bind_eq_bind, Option.bind_eq_some_iff, Option.pure_def,
    Option.ite_none_left_eq_some, Option.some.injEq, Prod.mk.injEq, Prod.exists, not_or, not_not] at accepts
  obtain ⟨metadata, -, -, expected, expectedUsage, found, signed, decoded, payloadInput, -, payloadOutput, -, same, -, -,
    -, -, -, -, deadline, -, -, -, usageSig, -, rfl, rfl⟩ := accepts
  obtain ⟨here, named⟩ := Keyed.mem_of_get found
  have usages : signed = expectedUsage := by
    cases signed
    cases expectedUsage
    simp_all
  exact ⟨rfl, by rwa [usages, ← named], decoded⟩

theorem sessionOf_eq_some {id : Nat} (found : s.sessionOf payload = some (id, session)) :
    s.current = some id ∧ s.sessions[id]? = some session := by
  simp only [sessionOf, Option.bind_eq_bind, Option.bind_eq_some_iff, Option.pure_def,
    Option.ite_none_right_eq_some, Option.some.injEq, Prod.mk.injEq] at found
  obtain ⟨_, current, _, here, -, rfl, rfl⟩ := found
  exact ⟨current, here⟩

/-- What a handler of an auth does. -/
inductive Handled (m : SellerFreeUsageManager) (s : ManagerState) (accepted :
    Option (Nat × PendingFreeUsageRecord × ExpectedFreeUsage)) (nowMs : Nat) (sent : Bool) (s' : ManagerState) : Prop
  | idle (chain : s'.chain = s.chain) (sessions : s'.sessions = s.sessions) (deeds : s'.deeds = s.deeds)
  | answered (id : Nat) (session : SellerFreeUsageSession) (found : s.sessions[id]? = some session)
      (chain : s'.chain = s.chain) (sessions : s'.sessions = s.sessions)
      (deeds : s'.deeds = .acknowledged id session.acceptedSequence :: s.deeds)
  | accepted (id : Nat) (session : SellerFreeUsageSession) (found : s.sessions[id]? = some session)
      (record : PendingFreeUsageRecord) (usage : ExpectedFreeUsage) (brings : accepted = some (id, record, usage))
      (above : session.acceptedSequence < record.sequence)
      (expected : (record.sequence, usage) ∈ session.expectedUsageBySequence)
      (signed : m.decodeFreeUsageMetadata record.metadata = some usage) (chain : s'.chain = s.chain)
      (sessions : s'.sessions = s.sessions.modify id fun session =>
        if sent then m.scheduleRecordFlush (session.accept record) false nowMs else session.accept record)
      (deeds : s'.deeds = (if sent then [.acknowledged id record.sequence] else [])
        ++ .accepted id record.sequence usage :: s.deeds)

theorem handleAuthInner_handled (payload : FreeUsageAuthPayload) (nowMs : Nat) (sent : Bool) :
    Handled m s (s.acceptance m payload) nowMs sent (s.handleAuthInner m payload nowMs sent) := by
  unfold handleAuthInner
  split
  next id session sequence found read =>
    obtain ⟨-, here⟩ := sessionOf_eq_some found
    split
    · split
      · exact .answered id session here rfl rfl rfl
      · exact .idle rfl rfl rfl
    next above =>
      split
      · exact .idle rfl rfl rfl
      next record usage accepts =>
        obtain ⟨same, expected, signed⟩ := verifyAuth_eq_some accepts
        refine .accepted id session here record usage ?_ (by omega) (same ▸ expected) signed ?_ ?_ ?_
        · simp [acceptance, found, read, above, accepts]
        · split <;> rfl
        · split
          · simp [setSession, note, modify_modify_eq, Function.comp_def]
          · simp [setSession, note]
        · split <;> rfl
  · exact .idle rfl rfl rfl

theorem start_handled (id nowMs : Nat) (sent : Bool) :
    Handled m s (s.acceptedBy m (.start id nowMs sent)) nowMs sent (s.start m id nowMs sent) := by
  unfold start
  split
  · exact .idle rfl rfl rfl
  next task here =>
    split
    · exact .idle rfl rfl rfl
    next free =>
      split
      · split <;> exact .idle rfl rfl rfl
      next payload auth =>
        have same : s.acceptedBy m (.start id nowMs sent) = s.acceptance m payload := by
          simp [acceptedBy, here, free, auth]
        rw [same]
        cases handleAuthInner_handled (m := m) (s := s.finish id) payload nowMs sent with
        | idle chain sessions deeds => exact .idle chain sessions deeds
        | answered id session found chain sessions deeds => exact .answered id session found chain sessions deeds
        | accepted id session found record usage brings above expected signed chain sessions deeds =>
          exact .accepted id session found record usage brings above expected signed chain sessions deeds
      · exact .idle rfl rfl rfl
      · exact .idle rfl rfl rfl

end Acceptances

/-- What a step does to the accounts and to the record. -/
inductive Accounted (m : SellerFreeUsageManager) (s s' : ManagerState) : Prop
  | idle (accounts : s'.accounts = s.accounts) (deeds : s'.deeds = s.deeds)
  | made (accounts : s'.accounts = s.accounts ++ [({} : UsageAccount)]) (deeds : s'.deeds = s.deeds)
  | measured (id : Nat) (account : UsageAccount) (found : s.accounts[id]? = some account)
      (message : NeedFreeUsageAuthPayload)
      (next : message.requiredSequence = max account.requestedSequence account.acceptedSequence + 1)
      (accounts : s'.accounts = s.accounts.modify id
        (·.reportUsage message.inputTokens message.outputTokens message.requiredSequence))
      (deeds : s'.deeds = .needed id message :: s.deeds)
  | answered (id : Nat) (sequence : Nat)
      (known : sequence = 0 ∨ ∃ account, s.accounts[id]? = some account ∧ sequence = account.acceptedSequence)
      (accounts : s'.accounts = s.accounts) (deeds : s'.deeds = .acknowledged id sequence :: s.deeds)
  | accepted (id : Nat) (account : UsageAccount) (found : s.accounts[id]? = some account)
      (record : PendingFreeUsageRecord) (usage : ExpectedFreeUsage) (above : account.acceptedSequence < record.sequence)
      (expected : (record.sequence, usage) ∈ account.expectedUsageBySequence)
      (signed : m.decodeFreeUsageMetadata record.metadata = some usage)
      (accounts : s'.accounts = s.accounts.modify id (·.accept record.sequence))
      (deeds : s'.deeds = .accepted id record.sequence usage :: s.deeds
        ∨ s'.deeds = .acknowledged id record.sequence :: .accepted id record.sequence usage :: s.deeds)

theorem Accounted.after (accounted : Accounted m t s')
    (accounts : t.accounts = s.accounts) (deeds : t.deeds = s.deeds) : Accounted m s s' := by
  cases accounted with
  | idle a d => exact .idle (a.trans accounts) (d.trans deeds)
  | made a d => exact .made (by rw [a, accounts]) (d.trans deeds)
  | measured id account found message next a d =>
    exact .measured id account (accounts ▸ found) message next (by rw [a, accounts]) (by rw [d, deeds])
  | answered id sequence known a d =>
    exact .answered id sequence (accounts ▸ known) (a.trans accounts) (by rw [d, deeds])
  | accepted id account found record usage above expected signed a d =>
    exact .accepted id account (accounts ▸ found) record usage above expected signed (by rw [a, accounts])
      (deeds ▸ d)

section Steps

variable {m : SellerFreeUsageManager} {s : ManagerState}

theorem start_accounted (id nowMs : Nat) (sent : Bool) : Accounted m s (s.start m id nowMs sent) := by
  cases start_handled (m := m) (s := s) id nowMs sent with
  | idle chain sessions deeds => exact .idle (by rw [accounts, sessions]; rfl) deeds
  | answered id session found chain sessions deeds =>
    have account : s.accounts[id]? = some session.account := by simp [accounts, found]
    exact .answered id session.acceptedSequence (.inr ⟨_, account, rfl⟩)
      (by rw [accounts, sessions]; rfl) deeds
  | accepted id session found record usage brings above expected signed chain sessions deeds =>
    have account : s.accounts[id]? = some session.account := by simp [accounts, found]
    refine .accepted id _ account record usage above expected signed ?_ ?_
    · rw [accounts, sessions]
      refine @ManagerState.accounts_setSession s id _ (·.accept record.sequence) fun session => ?_
      split
      · rw [account_scheduleRecordFlush]
        rfl
      · rfl
    · cases sent with
      | false => exact .inl deeds
      | true => exact .inr deeds

theorem admitted_accounted (id : Nat) (admission : Except String (Option FreeTier.FreeTierDecision)) :
    Accounted m s (s.admitted id admission) := by
  unfold admitted
  split
  · split
    · exact .idle rfl rfl
    · split
      · exact .idle rfl rfl
      · exact .made (by simp [accounts, setHandler, addSession, account]) rfl
  · exact .idle rfl rfl

theorem answered_accounted (id : Nat) (sent : Bool) : Accounted m s (s.answered id sent) := by
  unfold answered
  split
  next session _ =>
    split
    · split
      · exact .answered session 0 (.inl rfl) rfl rfl
      · exact .idle rfl rfl
    · exact .idle rfl rfl
    · exact .idle rfl rfl
  · exact .idle rfl rfl

theorem setSession_accounted {id : Nat} {change : SellerFreeUsageSession → SellerFreeUsageSession}
    (keeps : ∀ session, (change session).account = session.account) : Accounted m s (s.setSession id change) :=
  .idle (accounts_kept keeps) rfl

theorem opened_accounted (id : Nat) (landed : Option External) : Accounted m s (s.opened m id landed) := by
  unfold opened
  split
  · exact .idle rfl rfl
  · split
    · exact setSession_accounted fun _ => rfl
    · exact (setSession_accounted fun session => session.account_setOpenPromise).after rfl rfl

theorem submitted_accounted (id : Nat) (landed : Option External) : Accounted m s (s.submitted m id landed) := by
  unfold submitted
  split
  · exact .idle rfl rfl
  · split
    · exact setSession_accounted fun _ => rfl
    · refine (setSession_accounted fun session => ?_).after rfl rfl
      cases session.flushPromise with
      | none => rfl
      | some flush => exact session.account_landed flush

theorem onPeerDisconnect_accounted : Accounted m s s.onPeerDisconnect := by
  unfold onPeerDisconnect
  split
  · exact .idle rfl rfl
  · split
    · exact .idle rfl rfl
    · split
      · exact .idle (accounts_kept fun _ => by simp) rfl
      · exact .idle (accounts_kept fun _ => rfl) rfl

theorem reportUsageRequest_accounted (usage : Usage) (sent : Bool) :
    Accounted m s (s.reportUsageRequest usage sent) := by
  unfold reportUsageRequest
  split
  · exact .idle rfl rfl
  next id _ =>
    split
    · exact .idle rfl rfl
    next session here =>
      extract_lets nextSequence inputTokens outputTokens
      split
      · refine .measured id session.account (by simp [accounts, here]) _ rfl ?_ rfl
        exact accounts_setSession fun _ => rfl
      · exact .idle rfl rfl

theorem step_accounted (event : Event) : Accounted m s (m.step s event) := by
  cases event with
  | handleOpen | handleAuth => exact .idle rfl rfl
  | start handler nowMs sent => exact start_accounted handler nowMs sent
  | admitted handler admission => exact admitted_accounted handler admission
  | opened session landed => exact opened_accounted session landed
  | checked session => exact setSession_accounted fun session => by dsimp only; split <;> rfl
  | answered handler sent => exact answered_accounted handler sent
  | onPeerDisconnect => exact onPeerDisconnect_accounted
  | flushAllPendingRecords =>
    unfold SellerFreeUsageManager.step flushAllPendingRecords
    dsimp only
    split
    · exact .idle rfl rfl
    · exact setSession_accounted fun _ => by simp
  | reportUsageRequest usage sent => exact reportUsageRequest_accounted usage sent
  | timer session => exact setSession_accounted fun session => by split <;> simp
  | flushStarts => exact setSession_accounted fun _ => by simp
  | submitted session landed => exact submitted_accounted session landed
  | flushEnds session nowMs =>
    refine setSession_accounted fun session => ?_
    split
    · extract_lets ended
      split
      · exact account_scheduleRecordFlush m ended _ nowMs
      · rfl
    · rfl
  | left =>
    unfold SellerFreeUsageManager.step left
    dsimp only
    split
    · exact .idle (accounts_kept fun _ => rfl) rfl
    · exact .idle rfl rfl
  | chain =>
    unfold SellerFreeUsageManager.step
    dsimp only
    split <;> exact .idle rfl rfl

end Steps

/-- What the seller has asked a buyer to sign on a session, in order. -/
def measured (id : Nat) (deeds : List Deed) : List NeedFreeUsageAuthPayload :=
  deeds.reverse.filterMap fun
    | .needed session message => if session = id then some message else none
    | .accepted _ _ _ => none
    | .acknowledged _ _ => none

/-- The sequences that were accepted on a session, the newest first. -/
def acceptances (id : Nat) (deeds : List Deed) : List Nat :=
  deeds.filterMap fun
    | .accepted session sequence _ => if session = id then some sequence else none
    | .needed _ _ => none
    | .acknowledged _ _ => none

/-- The totals of some requests. -/
def totals (messages : List NeedFreeUsageAuthPayload) : ExpectedFreeUsage where
  cumulativeInputTokens := (messages.map (·.inputTokens)).sum
  cumulativeOutputTokens := (messages.map (·.outputTokens)).sum
  cumulativeRequestCount := messages.length

def MeasuredUpTo (id : Nat) (deeds : List Deed) (sequence : Nat) (usage : ExpectedFreeUsage) : Prop :=
  sequence ≤ (measured id deeds).length ∧ usage = totals ((measured id deeds).take sequence)

/-- The account of a session agrees with what is on record. -/
structure Faithful (id : Nat) (account : UsageAccount) (deeds : List Deed) : Prop where
  requested : account.requestedSequence = (measured id deeds).length
  counters : (⟨account.requestedInputTokens, account.requestedOutputTokens, account.requestedRequestCount⟩ :
    ExpectedFreeUsage) = totals (measured id deeds)
  within : account.acceptedSequence ≤ account.requestedSequence
  expected : ∀ entry ∈ account.expectedUsageBySequence, MeasuredUpTo id deeds entry.1 entry.2
  below : ∀ sequence ∈ acceptances id deeds, sequence ≤ account.acceptedSequence
  acknowledged : ∀ sequence, .acknowledged id sequence ∈ deeds → sequence ≤ account.acceptedSequence

/-- Every account agrees with the record, and the record holds what it has to. -/
structure Accountable (s : ManagerState) : Prop where
  faithful : ∀ id account, s.accounts[id]? = some account → Faithful id account s.deeds
  made : ∀ id, s.accounts[id]? = none → measured id s.deeds = [] ∧ acceptances id s.deeds = []
    ∧ ∀ sequence, .acknowledged id sequence ∈ s.deeds → sequence = 0
  increasing : ∀ id, (acceptances id s.deeds).Pairwise (· > ·)
  exact : ∀ id sequence usage, .accepted id sequence usage ∈ s.deeds → MeasuredUpTo id s.deeds sequence usage

section Record

variable {id session sequence : Nat} {deeds : List Deed} {message : NeedFreeUsageAuthPayload}
  {usage : ExpectedFreeUsage}

@[simp] theorem measured_needed : measured id (.needed session message :: deeds)
    = if session = id then measured id deeds ++ [message] else measured id deeds := by
  by_cases same : session = id <;> simp [measured, same]

@[simp] theorem measured_accepted : measured id (.accepted session sequence usage :: deeds) = measured id deeds := by
  simp [measured]

@[simp] theorem measured_acknowledged : measured id (.acknowledged session sequence :: deeds) = measured id deeds := by
  simp [measured]

@[simp] theorem acceptances_needed : acceptances id (.needed session message :: deeds) = acceptances id deeds := rfl

@[simp] theorem acceptances_accepted : acceptances id (.accepted session sequence usage :: deeds)
    = if session = id then sequence :: acceptances id deeds else acceptances id deeds := by
  by_cases same : session = id <;> simp [acceptances, same]

@[simp] theorem acceptances_acknowledged :
    acceptances id (.acknowledged session sequence :: deeds) = acceptances id deeds := rfl

theorem MeasuredUpTo.later (upTo : MeasuredUpTo id deeds sequence usage) :
    MeasuredUpTo id (.needed session message :: deeds) sequence usage := by
  obtain ⟨within, same⟩ := upTo
  unfold MeasuredUpTo
  rw [measured_needed]
  split
  · refine ⟨by simp; omega, ?_⟩
    rw [take_append_of_le_length within]
    exact same
  · exact ⟨within, same⟩

variable {account : UsageAccount}

section

variable (faithful : Faithful id account deeds)

include faithful

theorem measuredUpTo_all :
    MeasuredUpTo id (.needed id message :: deeds) (account.requestedSequence + 1)
      ⟨account.requestedInputTokens + message.inputTokens, account.requestedOutputTokens + message.outputTokens,
        account.requestedRequestCount + 1⟩ := by
  have counters := faithful.counters
  simp only [totals, ExpectedFreeUsage.mk.injEq] at counters
  simp [MeasuredUpTo, faithful.requested, totals, counters]

theorem Faithful.needed
    (next : message.requiredSequence = max account.requestedSequence account.acceptedSequence + 1) :
    Faithful id (account.reportUsage message.inputTokens message.outputTokens message.requiredSequence)
      (.needed id message :: deeds) := by
  have next : message.requiredSequence = account.requestedSequence + 1 := by
    rw [next, max_eq_left faithful.within]
  have counters := faithful.counters
  simp only [totals, ExpectedFreeUsage.mk.injEq] at counters
  refine ⟨?_, ?_, ?_, ?_, faithful.below, ?_⟩
  · simp [UsageAccount.reportUsage, next, faithful.requested]
  · simp [UsageAccount.reportUsage, totals, counters]
  · simp only [UsageAccount.reportUsage, next]
    omega
  · intro entry here
    rcases Keyed.mem_of_mem_set here with rfl | old
    · rw [next]
      exact measuredUpTo_all faithful
    · exact (faithful.expected entry old).later
  · simpa [UsageAccount.reportUsage] using faithful.acknowledged

theorem Faithful.accepted
    (above : account.acceptedSequence < sequence) (expected : (sequence, usage) ∈ account.expectedUsageBySequence) :
    Faithful id (account.accept sequence) (.accepted id sequence usage :: deeds) where
  requested := by simpa [UsageAccount.accept] using faithful.requested
  counters := by simpa [UsageAccount.accept] using faithful.counters
  within := by
    have within := (faithful.expected _ expected).1
    rw [← faithful.requested] at within
    exact within
  expected entry here := by
    have upTo := faithful.expected entry (mem_of_mem_filter here)
    simpa [MeasuredUpTo] using upTo
  below := by
    intro old here
    simp only [acceptances_accepted, if_true, mem_cons] at here
    rcases here with rfl | earlier
    · exact Nat.le_refl _
    · exact (faithful.below old earlier).trans above.le
  acknowledged old here := by
    simp only [mem_cons, reduceCtorEq, false_or] at here
    exact (faithful.acknowledged old here).trans above.le

theorem Faithful.acknowledging
    (within : session = id → sequence ≤ account.acceptedSequence) :
    Faithful id account (.acknowledged session sequence :: deeds) where
  requested := by simpa using faithful.requested
  counters := by simpa using faithful.counters
  within := faithful.within
  expected entry here := by simpa [MeasuredUpTo] using faithful.expected entry here
  below := by simpa using faithful.below
  acknowledged old here := by
    simp only [mem_cons, Deed.acknowledged.injEq] at here
    rcases here with ⟨same, rfl⟩ | earlier
    · exact within same.symm
    · exact faithful.acknowledged old earlier

theorem Faithful.other (other : session ≠ id) (deed : Deed)
    (theirs : (∃ message, deed = .needed session message) ∨ ∃ sequence usage, deed = .accepted session sequence usage) :
    Faithful id account (deed :: deeds) := by
  rcases theirs with ⟨message, rfl⟩ | ⟨sequence, usage, rfl⟩
  · refine ⟨?_, ?_, faithful.within, fun entry here => (faithful.expected entry here).later, faithful.below, ?_⟩
    · simpa [other] using faithful.requested
    · simpa [other] using faithful.counters
    · simpa using faithful.acknowledged
  · refine ⟨?_, ?_, faithful.within, ?_, ?_, ?_⟩
    · simpa using faithful.requested
    · simpa using faithful.counters
    · simpa [MeasuredUpTo] using faithful.expected
    · simpa [other] using faithful.below
    · simpa using faithful.acknowledged

end

end Record

variable {m : SellerFreeUsageManager} {s s' : ManagerState} {id sequence : Nat} {account : UsageAccount}

variable (accountable : Accountable s)

include accountable

theorem Accountable.acknowledging
    (known : sequence = 0 ∨ ∃ account, s.accounts[id]? = some account ∧ sequence = account.acceptedSequence)
    (accounts : s'.accounts = s.accounts) (deeds : s'.deeds = .acknowledged id sequence :: s.deeds) :
    Accountable s' where
  faithful other account found := by
    rw [accounts] at found
    rw [deeds]
    refine (accountable.faithful other account found).acknowledging fun same => ?_
    subst same
    rcases known with rfl | ⟨_, here, rfl⟩
    · exact Nat.zero_le _
    · rw [found] at here
      cases here
      exact Nat.le_refl _
  made other absent := by
    rw [accounts] at absent
    rw [deeds]
    obtain ⟨nothing, none, acks⟩ := accountable.made other absent
    refine ⟨by simpa using nothing, by simpa using none, fun old here => ?_⟩
    simp only [mem_cons, Deed.acknowledged.injEq] at here
    rcases here with ⟨rfl, rfl⟩ | earlier
    · rcases known with rfl | ⟨_, here, -⟩
      · rfl
      · rw [absent] at here
        cases here
    · exact acks old earlier
  increasing other := by simpa [deeds] using accountable.increasing other
  exact other sequence usage here := by
    rw [deeds] at here ⊢
    simp only [mem_cons, reduceCtorEq, false_or] at here
    simpa [MeasuredUpTo] using accountable.exact other sequence usage here

theorem Accountable.measuring
    (found : s.accounts[id]? = some account)
    (next : message.requiredSequence = max account.requestedSequence account.acceptedSequence + 1)
    (accounts : s'.accounts = s.accounts.modify id
      (·.reportUsage message.inputTokens message.outputTokens message.requiredSequence))
    (deeds : s'.deeds = .needed id message :: s.deeds) : Accountable s' where
  faithful other their theirs := by
    rw [accounts, getElem?_modify] at theirs
    rw [deeds]
    split at theirs
    next same =>
      subst same
      rw [found] at theirs
      cases theirs
      exact (accountable.faithful id account found).needed next
    next different =>
      simp only [Option.map_eq_map, id_eq, Option.map_id_fun'] at theirs
      exact (accountable.faithful other their theirs).other different _ (.inl ⟨message, rfl⟩)
  made other absent := by
    have absent : s.accounts[other]? = none := by simpa [accounts] using absent
    have different : id ≠ other := by
      rintro rfl
      rw [found] at absent
      cases absent
    simpa [deeds, different] using accountable.made other absent
  increasing other := by simpa [deeds] using accountable.increasing other
  exact other sequence usage here := by
    rw [deeds] at here ⊢
    simp only [mem_cons, reduceCtorEq, false_or] at here
    exact (accountable.exact other sequence usage here).later

theorem Accountable.accepting
    (found : s.accounts[id]? = some account) (above : account.acceptedSequence < sequence)
    (expected : (sequence, usage) ∈ account.expectedUsageBySequence)
    (accounts : s'.accounts = s.accounts.modify id (·.accept sequence))
    (deeds : s'.deeds = .accepted id sequence usage :: s.deeds) : Accountable s' where
  faithful other their theirs := by
    rw [accounts, getElem?_modify] at theirs
    rw [deeds]
    split at theirs
    next same =>
      subst same
      rw [found] at theirs
      cases theirs
      exact (accountable.faithful id account found).accepted above expected
    next different =>
      simp only [Option.map_eq_map, id_eq, Option.map_id_fun'] at theirs
      exact (accountable.faithful other their theirs).other different _ (.inr ⟨sequence, usage, rfl⟩)
  made other absent := by
    have absent : s.accounts[other]? = none := by simpa [accounts] using absent
    have different : id ≠ other := by
      rintro rfl
      rw [found] at absent
      cases absent
    simpa [deeds, different] using accountable.made other absent
  increasing other := by
    rw [deeds, acceptances_accepted]
    split
    next same =>
      subst same
      refine pairwise_cons.mpr ⟨fun old here => ?_, accountable.increasing id⟩
      exact ((accountable.faithful id account found).below old here).trans_lt above
    · exact accountable.increasing other
  exact other sequence usage here := by
    rw [deeds] at here ⊢
    simp only [mem_cons, Deed.accepted.injEq] at here
    simp only [MeasuredUpTo, measured_accepted]
    rcases here with ⟨rfl, rfl, rfl⟩ | earlier
    · exact (accountable.faithful _ account found).expected _ expected
    · exact accountable.exact other sequence usage earlier

theorem accountable_step (event : Event) : Accountable (m.step s event) := by
  cases step_accounted (m := m) (s := s) event with
  | idle accounts deeds =>
    constructor <;> rw [deeds]
    · rw [accounts]
      exact accountable.faithful
    · rw [accounts]
      exact accountable.made
    · exact accountable.increasing
    · exact accountable.exact
  | made accounts deeds =>
    constructor <;> rw [deeds]
    · intro id account found
      rw [accounts, List.getElem?_append] at found
      split at found
      · exact accountable.faithful id account found
      next beyond =>
        obtain ⟨nothing, none, acks⟩ := accountable.made id (by simpa using beyond)
        obtain ⟨-, rfl⟩ := List.getElem?_eq_some_iff.mp found
        have fresh : [({} : UsageAccount)][id - s.accounts.length] = {} := by simp
        rw [fresh]
        exact ⟨by simp [nothing], by simp [nothing, totals], Nat.le_refl 0, nofun, by simp [none],
          fun sequence here => (acks sequence here).le⟩
    · intro id absent
      refine accountable.made id ?_
      simp only [accounts, List.getElem?_eq_none_iff, List.length_append, List.length_singleton] at absent ⊢
      omega
    · exact accountable.increasing
    · exact accountable.exact
  | measured id account found message next accounts deeds => exact accountable.measuring found next accounts deeds
  | answered id sequence known accounts deeds => exact accountable.acknowledging known accounts deeds
  | accepted id account found record usage above expected signed accounts deeds =>
    rcases deeds with deeds | deeds
    · exact accountable.accepting found above expected accounts deeds
    · -- the ack comes after the acceptance
      let between : ManagerState := { m.step s event with deeds := .accepted id record.sequence usage :: s.deeds }
      have accepted : Accountable between := accountable.accepting found above expected accounts rfl
      have known : (m.step s event).accounts[id]? = some (account.accept record.sequence) := by
        simp [accounts, found]
      exact accepted.acknowledging (.inr ⟨account.accept record.sequence, known, rfl⟩) rfl deeds

end AntSeed.FreeUsage
