import AntSeed.Seller.Closes

/-! # What is accepted is backed by a signature

In memory an amount comes with the SpendingAuth it was accepted for. On disk a
row's amount does if the row has a signature; a session that was only reserved
has none, and the amount beside its ReserveAuth is nobody's word.
-/

namespace AntSeed.Seller.Backing

open Evm Async
open AntSeed.Payments (Signature Channel)
open Function (update)
open ChannelStore (Stored)
open Manager
open ChannelStore Option

section Backed

variable (node : Node) (Seen : Wait → Reply → Prop)

/-- The chain was read, and had settled this much on the channel. -/
def HasSettled (channelId : Hex) (amount : Int) : Prop :=
  ∃ id reply, channelId.bytes32 = some id ∧ reply.error = none ∧ Seen (.session channelId) reply ∧
    amount ≤ (storedAt node id reply).settled

/-- The seller holds a signature for this very amount. -/
def HoldsExactly (s : Manager) (channelId : Hex) (amount : Int) : Prop :=
  ∃ auth, s.latestAuth channelId = some auth ∧ auth.spendingAuthSig ≠ none ∧
    auth.cumulativeAmount = amount

structure Backed (s : Manager) : Prop where
  fits : Fits node s
  accepted : ∀ channelId amount, s.acceptedCumulative channelId = some amount → 0 < amount →
    HoldsExactly s channelId amount ∨ HasSettled node Seen channelId amount

end Backed

/-- A row without a signature is worth nothing. -/
abbrev RowSigned (row : StoredChannel) : Prop :=
  row.latestSpendingAuthSig = none → row.authMax ≤ 0

/-- The step leads into neither of the two unchecked branches, and none of the rows that a restart credits
    has an amount that nobody signed. -/
def isSigned (node : Node) (process : Process) (event : Event) : Bool :=
  process.heeds node event && (match event with
    | .restart => process.state.store.all fun row => row.status = .active → RowSigned row
    | _ => true)

def contract (node : Node) (Seen : Wait → Reply → Prop) (_ : Option PeerId) :
    Contract Manager Wait Reply where
  invariant := Backed node Seen
  lasts := Lasts
  allows := Lasts
  asks _ _ _ := True
  resumes label reply s := s.heeds node label = true ∧ Seen label reply

section Basics

variable {node : Node} {Seen : Wait → Reply → Prop} {owner : Option PeerId} {s s' : Manager}
  {channelId : Hex} {amount : Int} {row : StoredChannel}

theorem contract_lawful : (contract node Seen owner).Lawful where
  refl _ _ stored := stored
  trans first second id stored := second id (first id stored)
  idle _ _ stored := stored
  andThen first second id stored := second id (first id stored)
  within lasts := lasts

theorem contract_shared : Shared (contract node Seen) (Backed node Seen) Lasts where
  lawful _ := contract_lawful
  invariant _ := rfl
  lasts _ := rfl

theorem implies_ownClaims : Implies (contract node Seen owner) (Seller.contract node owner) where
  invariant backed := backed.fits
  lasts lasts := lasts
  resumes resumes := resumes.1

section

variable (backed : Backed node Seen s)

include backed

theorem Backed.of_same (fits : Fits node s')
    (acceptedCumulative : s'.acceptedCumulative = s.acceptedCumulative)
    (latestAuth : s'.latestAuth = s.latestAuth) : Backed node Seen s' where
  fits := fits
  accepted id amount known more := by
    rw [acceptedCumulative] at known
    rcases backed.accepted id amount known more with held | settled
    · refine .inl ?_
      unfold HoldsExactly
      rw [latestAuth]
      exact held
    · exact .inr settled

theorem Backed.at (channelId : Hex) (acceptedAmount : Option Int)
    (auth : Option LatestAuth) (fits : Fits node s')
    (acceptedCumulative : s'.acceptedCumulative = update s.acceptedCumulative channelId acceptedAmount)
    (latestAuth : s'.latestAuth = update s.latestAuth channelId auth)
    (here : ∀ amount ∈ acceptedAmount, 0 < amount →
      (∃ held ∈ auth, held.spendingAuthSig ≠ none ∧ held.cumulativeAmount = amount) ∨
        HasSettled node Seen channelId amount) : Backed node Seen s' where
  fits := fits
  accepted id amount known more := by
    unfold HoldsExactly
    rw [acceptedCumulative] at known
    rw [latestAuth]
    by_cases same : id = channelId
    · subst same
      rw [Function.update_self] at known ⊢
      exact here amount known more
    · rw [Function.update_of_ne same] at known ⊢
      exact backed.accepted id amount known more

end

theorem signed_of_verifyTypedData
    (verified : verifyTypedData message sig buyer = some true) : sig ≠ none := by
  obtain ⟨auth, -, signed⟩ := verifyTypedData_eq_true verified
  simp [signed]

theorem signed_of_oneOffTerms
    (agreed : oneOffTerms node buyerPeerId payload plan openingReserve reserveDeadline = some terms) :
    terms.latestAuth.spendingAuthSig ≠ none ∨ terms.latestAuth.cumulativeAmount = 0 := by
  unfold oneOffTerms at agreed
  split at agreed
  · simp only [bind_eq_bind, bind_eq_some_iff] at agreed
    obtain ⟨batch, -, auth, verified, _, -, _, -, met⟩ := agreed
    simp only [verifyReserveBatch, bind_eq_bind, bind_eq_some_iff] at verified
    obtain ⟨_, -, _, -, _, -, signed, checked, _, -, held⟩ := verified
    split at met
    · obtain rfl := some.inj met
      split at held
      next holds =>
        obtain ⟨-, -, -, -, isSigned, -⟩ := holds
        obtain rfl := some.inj held
        rw [isSigned] at checked
        exact .inl (signed_of_verifyTypedData checked)
      · cases held
    · cases met
  · split at agreed
    · cases agreed
    · obtain rfl := some.inj agreed
      exact .inr rfl

section

variable (backed : Backed node Seen s)

include backed

theorem Backed.forget (fits : Fits node s')
    (acceptedCumulative : s'.acceptedCumulative = update s.acceptedCumulative channelId none)
    (latestAuth : s'.latestAuth = update s.latestAuth channelId none) : Backed node Seen s' :=
  backed.at channelId none none fits acceptedCumulative latestAuth nofun

theorem Backed.restore (fits : Fits node (s.restorePersistedSpendingAuth row)) :
    Backed node Seen (s.restorePersistedSpendingAuth row) := by
  unfold restorePersistedSpendingAuth at fits ⊢
  cases kept : persistedCumulative row with
  | none => exact backed
  | some cumulativeAmount =>
    rw [kept] at fits
    refine backed.at row.sessionId (some cumulativeAmount) (some (persistedAuth row)) fits
      rfl rfl fun amount known _ => .inl ⟨_, rfl, ?_⟩
    unfold persistedCumulative at kept
    split at kept
    · cases kept
    next worth =>
      rw [not_or] at worth
      exact ⟨worth.2, (some.inj kept).trans (some.inj known)⟩

theorem Backed.record
    (fits : Fits node (s.recordSpendingAuth channelId auth)) (signed : auth.spendingAuthSig ≠ none) :
    Backed node Seen (s.recordSpendingAuth channelId auth) :=
  backed.at channelId (some auth.cumulativeAmount) (some auth) fits
    (congrArg acceptedCumulative rewriteChannel_eq)
    (congrArg latestAuth rewriteChannel_eq)
    fun _ known _ => .inl ⟨auth, rfl, signed, some.inj known⟩

/-- The auth of a close request replaces a smaller one; beside a larger one that was dropped, what is
    accepted stays, and has been settled. -/
theorem Backed.adopt
    (fits : Fits node (s.adoptBuyerCloseAuth channelId auth)) (signed : auth.spendingAuthSig ≠ none) :
    Backed node Seen (s.adoptBuyerCloseAuth channelId auth) := by
  unfold adoptBuyerCloseAuth at fits ⊢
  split
  · exact backed
  next fresh =>
    rw [if_neg fresh] at fits
    refine backed.at channelId (if auth.cumulativeAmount > (s.acceptedCumulative channelId).getD 0 then
      some auth.cumulativeAmount else s.acceptedCumulative channelId) (some auth) fits ?_
      (congrArg latestAuth rewriteChannel_eq) fun amount known more => ?_
    · refine (congrArg acceptedCumulative rewriteChannel_eq).trans ?_
      split <;> simp
    · split at known
      · exact .inl ⟨auth, rfl, signed, some.inj known⟩
      next low =>
        rcases backed.accepted channelId amount known more with ⟨held, found, isSigned, same⟩ | settled
        · refine absurd ?_ fresh
          rw [mem_def.mp known, getD_some, not_lt] at low
          simp [holdsAtLeast, found, isSome_iff_ne_none, isSigned, same, low]
        · exact .inr settled

theorem Backed.reconcile (fits : Fits node (s.reconcileSpent channelId onChainSettled))
    (settled : HasSettled node Seen channelId onChainSettled) :
    Backed node Seen (s.reconcileSpent channelId onChainSettled) := by
  unfold reconcileSpent at fits ⊢
  split
  next above =>
    rw [if_pos above] at fits
    refine backed.at channelId (s.acceptedCumulative channelId)
      (if (s.latestAuth channelId).any fun auth => decide (auth.cumulativeAmount ≤ onChainSettled)
        then none else s.latestAuth channelId) fits (Function.update_eq_self _ _).symm ?_
      fun amount known more => ?_
    · split <;> simp
    · rcases backed.accepted channelId amount known more with ⟨held, found, isSigned, same⟩ | before
      · split
        next used =>
          obtain ⟨id, reply, reads, answered, seen, least⟩ := settled
          rw [found, any_some, decide_eq_true_eq, same] at used
          exact .inr ⟨id, reply, reads, answered, seen, used.trans least⟩
        · exact .inl ⟨held, found, isSigned, same⟩
      · exact .inr before
  · exact backed

theorem backed_of_act
    (act : Act (contract node Seen owner) node owner s s') : Backed node Seen s' := by
  have fits : Fits node s' := (Seller.kept_of_act backed.fits (act.mono implies_ownClaims)).1
  cases act with
  | quiet alike => exact backed.of_same fits alike.acceptedCumulative alike.latestAuth
  | storePendingTopUp =>
    unfold storePendingTopUp at fits ⊢
    split
    next larger =>
      rw [if_pos larger] at fits
      exact backed.of_same fits rfl rfl
    · exact backed
  | deletePendingTopUp | blockChannel | beginClose | endClose | agree | keepOneOff | elapse | setStatus
  | recordOpening | trackUntopped =>
    exact backed.of_same fits rfl rfl
  | retire =>
    unfold forgetChannel at fits ⊢
    rw [releaseBuyer_eq] at fits ⊢
    exact backed.forget fits rfl rfl
  | evict =>
    unfold evictStaleChannel at fits ⊢
    rw [releaseBuyer_eq] at fits ⊢
    exact backed.forget fits rfl rfl
  | forget =>
    unfold forgetChannel at fits ⊢
    rw [releaseBuyer_eq] at fits ⊢
    exact backed.forget fits rfl rfl
  | restore => exact backed.restore fits
  | recover buyerPeerId payload cumulativeAmount onChain own taken matching read active parties verified =>
      have signed := signed_of_verifyTypedData verified
      exact backed.at _ (some cumulativeAmount) (some (payload.latestAuth cumulativeAmount)) fits rfl rfl
        fun _ known _ => .inl ⟨_, rfl, signed, some.inj known⟩
  | reserve buyerPeerId payload =>
    refine backed.at payload.channelId (some 0) _ fits rfl rfl fun amount known more => ?_
    rw [← mem_some.mp known] at more
    exact absurd more (lt_irrefl 0)
  | recordSpendingAuth buyerPeerId payload cumulativeAmount existing own since matching named verified =>
    exact backed.record fits (signed_of_verifyTypedData verified)
  | recordOneOffAuth buyerPeerId payload cumulativeAmount row own found peer oneOff matching verified =>
    exact backed.record fits (signed_of_verifyTypedData verified)
  | recordTopUp =>
    refine backed.of_same fits ?_ ?_
    all_goals
      unfold recordTopUp
      rw [rewriteChannel_eq]
  | adopt row auth amount serves since reads verified =>
    exact backed.adopt fits (signed_of_verifyTypedData (of_decide_eq_true verified))
  | reconcileSpent channelId onChain own read =>
    obtain ⟨id, reply, found, answered, rfl, _, -, -, seen⟩ := read.heard
    exact backed.reconcile fits ⟨id, reply, found, answered, seen, le_rfl⟩
  | activateOneOff buyerPeerId payload requestId plan terms tx now own agreed reserved amount =>
    have signed := signed_of_oneOffTerms agreed.terms
    refine backed.at payload.channelId (some terms.latestAuth.cumulativeAmount) (some terms.latestAuth)
      fits rfl rfl fun amount known more => ?_
    rcases signed with isSigned | nothing
    · exact .inl ⟨_, rfl, isSigned, some.inj known⟩
    · rw [← mem_some.mp known, nothing] at more
      exact absurd more (lt_irrefl 0)

theorem backed_recordSpend : Backed node Seen (s.recordSpend channelId costUsdc) := by
  have fits := (@Seller.kept_recordSpend node none s channelId backed.fits costUsdc).1
  unfold recordSpend at fits ⊢
  cases tracked : s.spent channelId with
  | none => exact backed
  | some =>
    rw [tracked] at fits
    exact backed.of_same fits rfl rfl

theorem backed_claimOneOffChannel : Backed node Seen (s.claimOneOffChannel channelId) := by
  have fits := (@Seller.kept_claimOneOffChannel node none s channelId backed.fits).1
  unfold claimOneOffChannel at fits ⊢
  cases found : s.store.getChannel channelId with
  | none => exact backed
  | some row =>
    rw [found] at fits
    dsimp only at fits ⊢
    split
    next free =>
      rw [if_pos free] at fits
      exact backed.of_same fits rfl rfl
    · exact backed

theorem backed_of_serving {chore : Chore} {write : Manager → Manager}
    (serving : chore.serving = some write) : Backed node Seen (write s) := by
  cases chore with
  | recordSpend =>
    cases serving
    exact backed_recordSpend backed
  | beginBillableRequest | endBillableRequest | registerOneOffPlan =>
    cases serving
    exact ⟨⟨backed.fits.rows, backed.fits.auths, backed.fits.accepted⟩, backed.accepted⟩
  | claimOneOffChannel =>
    cases serving
    exact backed_claimOneOffChannel backed
  | _ => cases serving

end

theorem contract_permits : Permits (contract node Seen owner) node owner where
  lawful := contract_lawful
  acts backed act :=
    ⟨backed_of_act backed act, (Seller.kept_of_act backed.fits (act.mono implies_ownClaims)).2.1⟩
  asks _ := trivial
  closes _ _ _ _ _ _ := trivial
  reserves _ _ _ _ := trivial

end Basics

section Runs

variable {node : Node} {Seen : Wait → Reply → Prop} {process : Process} {event : Event}
  {log : List (Wait × Reply)} {s : Manager} {row : StoredChannel}

theorem Backed.hydrate (backed : Backed node Seen s) (fits : Fits node s')
    (signed : RowSigned row)
    (acceptedCumulative : s'.acceptedCumulative = update s.acceptedCumulative row.sessionId (some row.authMax))
    (latestAuth : s'.latestAuth = if row.latestSpendingAuthSig.isSome then
      update s.latestAuth row.sessionId (some (persistedAuth row)) else s.latestAuth) :
    Backed node Seen s' := by
  cases kept : row.latestSpendingAuthSig with
  | none =>
    rw [kept, isSome_none, if_neg Bool.false_ne_true] at latestAuth
    refine backed.at row.sessionId (some row.authMax) (s.latestAuth row.sessionId) fits
      acceptedCumulative (by rw [latestAuth, Function.update_eq_self]) fun amount known more => ?_
    rw [← mem_some.mp known] at more
    exact absurd (signed kept) (not_le.mpr more)
  | some =>
    rw [kept, isSome_some, if_pos rfl] at latestAuth
    refine backed.at row.sessionId (some row.authMax) (some (persistedAuth row)) fits
      acceptedCumulative latestAuth fun amount known _ => ?_
    exact .inl ⟨_, rfl, by simp [persistedAuth, kept], some.inj known⟩

theorem backed_hydrate {store : ChannelStore} {now : Nat} (fits : ∀ row ∈ store, RowFits node row)
    (rows : ∀ row ∈ store, row.status = .active → RowSigned row) : Backed node Seen (hydrate store now) := by
  have member : ∀ {s : Manager} {channelKind : ChannelKind} {row : StoredChannel},
      row ∈ store.getActiveChannels channelKind → s.store = store → row ∈ s.store ∧ RowSigned row := by
    intro s channelKind row listed same
    have active := of_decide_eq_true (List.mem_filter.mp listed).2
    rw [same]
    exact ⟨mem_of_getActiveChannels listed, rows row (mem_of_getActiveChannels listed) active.2⟩
  refine (@hydrate_induction (fun s => Backed node Seen s ∧ s.store = store) store now
    ⟨⟨⟨fits, nofun, nofun⟩, nofun⟩, rfl⟩ (fun s row listed holds => ?_)
    fun s row listed holds => ?_).1
  · obtain ⟨inside, signed⟩ := member listed holds.2
    exact ⟨holds.1.hydrate (kept_hydrateSession holds.1.fits inside).1 signed rfl rfl, holds.2⟩
  · obtain ⟨inside, signed⟩ := member listed holds.2
    exact ⟨holds.1.hydrate (kept_hydrateOneOff holds.1.fits inside).1 signed rfl rfl, holds.2⟩

theorem step_backed (sound : process.Sound (contract node Seen) (Backed node Seen))
    (signed : isSigned node process event = true)
    (known : ∀ entry ∈ process.report event, Seen entry.1 entry.2) :
    (process.step node event).Sound (contract node Seen) (Backed node Seen) := by
  cases serves : event.isServing with
  | true =>
    cases event with
    | chore =>
      obtain ⟨write, serving⟩ := isSome_iff_exists.mp serves
      rw [Process.step_serving serving]
      exact sound.write contract_shared (backed_of_serving sound.holds serving)
        (@Seller.kept_of_serving node none _ _ _ sound.holds.fits serving).2.1
    | _ => cases serves
  | false =>
    by_cases on : event = .restart
    · subst on
      have rows : ∀ row ∈ process.state.store, row.status = .active → RowSigned row := by
        intro row member
        exact of_decide_eq_true (List.all_eq_true.mp (Bool.and_eq_true_iff.mp signed).2 row member)
      have backed := @backed_hydrate node Seen _ process.state.now sound.holds.fits.rows rows
      exact ⟨⟨⟨backed.fits.rows, backed.fits.auths, backed.fits.accepted⟩, backed.accepted⟩,
        fun _ member => absurd member List.not_mem_nil⟩
    · refine (Process.step_sound contract_shared (fun _ => contract_permits) sound
        (resumes_of_report fun owner entry reported => ?_) serves on).1
      obtain ⟨n, task, rfl, found, label⟩ := task_of_report reported
      simp only [isSigned, Process.heeds, found, all_some, Bool.and_eq_true] at signed
      rw [label]
      exact ⟨signed.1, label ▸ known entry reported⟩

/-- The manager's amounts are backed, given whatever is known to be heard. -/
def AllBacked (node : Node) (log : List (Wait × Reply)) (process : Process) : Prop :=
  ∀ Seen : Wait → Reply → Prop, (∀ entry ∈ log, Seen entry.1 entry.2) →
    process.Sound (contract node Seen) (Backed node Seen)

theorem run_backed
    (signed : (machine node).Along (fun process event => isSigned node process event = true) .start events) :
    AllBacked node (heard node events) ((machine node).run .start events) := by
  have started : AllBacked node [] .start := fun _ _ =>
    ⟨backed_hydrate (fun _ member => absurd member List.not_mem_nil)
      fun _ member => absurd member List.not_mem_nil, fun _ member => absurd member List.not_mem_nil⟩
  refine (machine node).run_invariant_log_along
    (fun log process event next signed backed taken => ?_) started signed
  obtain rfl := Except.ok.inj taken
  intro Seen known
  rw [List.forall_mem_append] at known
  exact step_backed (backed Seen known.1) signed known.2

/-- The channel's buyer has signed a SpendingAuth for this very amount, and the seller holds it. -/
def SignedFor (node : Node) (s : Manager) (channelId : Hex) (amount : Int) : Prop :=
  ∃ auth sig row, s.latestAuth channelId = some auth ∧ auth.spendingAuthSig = some sig ∧
    auth.cumulativeAmount = amount ∧ s.store.getChannel channelId = some row ∧
    IsSpendingAuth node row.buyerEvmAddr channelId auth sig

/-- As long as no restart finds an amount in an active row that has no signature, nor one of the two unchecked
    branches is taken, whatever is accepted is signed for, or settled already. -/
theorem accepted_is_backed (node : Node) (events : List Event)
    (signed : (machine node).Along (fun process event => isSigned node process event = true) .start events) :
    let s := ((machine node).run .start events).state
    ∀ channelId amount, s.acceptedCumulative channelId = some amount → 0 < amount →
      SignedFor node s channelId amount ∨
        HasSettled node (Logged (heard node events)) channelId amount := by
  have backed := (run_backed signed (Logged (heard node events)) fun _ member => member).holds
  intro s channelId amount accepted more
  rcases backed.accepted channelId amount accepted more with ⟨auth, held, isSigned, same⟩ | settled
  · obtain ⟨sig, signature⟩ := ne_none_iff_exists'.mp isSigned
    obtain ⟨row, found, isAuth⟩ := backed.fits.holdsOwnClaims channelId auth sig held signature
    exact .inl ⟨auth, sig, row, held, signature, same, found, isAuth⟩
  · exact .inr settled

end Runs

/-- The chain has Alice's channel open, with her 5 settled. -/
def settledRead : Reply where
  channel := { (default : Channel) with
    buyer := peerIdToAddress alice
    seller := storefront.seller
    deposit := 100
    settled := 5
    deadline := 3600
    status := .active }
  salt := ⟨7⟩

def resumed : List Event := openingEvents 0 ++ .spendingAuth alice (fiveAuth alice) :: goOn 2 ++ [.restart]

/-- The restarted seller finds her 5 settled on chain, of which it has no record. -/
def reconciled : List Event :=
  resumed ++ .chore .validateHydratedChannels :: goOn 2 ++ [.resume 0 settledRead]

theorem accepted_is_backed_reconciled : let s := (reached reconciled).state
    ∀ channelId amount, s.acceptedCumulative channelId = some amount → 0 < amount →
      SignedFor storefront s channelId amount ∨
        HasSettled storefront (Logged (heard storefront reconciled)) channelId amount :=
  accepted_is_backed storefront reconciled (by decide +kernel)

/-- The amount beside Alice's ReserveAuth is accepted once the seller restarts. -/
def unsigned : List Event := openingEvents 100 ++ [.restart]

/-- After a restart the seller accepts what nobody has signed for, and keeps accepting what the chain
    has settled, without its signature. -/
theorem accepted_without_signature :
    ((reached reconciled).state.acceptedCumulative aliceChannel = some 5 ∧
      ¬ SignedFor storefront (reached reconciled).state aliceChannel 5) ∧
    (reached unsigned).state.acceptedCumulative aliceChannel = some 100 ∧
      ¬ SignedFor storefront (reached unsigned).state aliceChannel 100 := by
  have dropped : (reached reconciled).state.latestAuth aliceChannel = none := by decide +kernel
  have never : (reached unsigned).state.latestAuth aliceChannel = none := by decide +kernel
  refine ⟨⟨by decide +kernel, ?_⟩, by decide +kernel, ?_⟩
  · rintro ⟨auth, _, _, held, -⟩
    rw [dropped] at held
    cases held
  · rintro ⟨auth, _, _, held, -⟩
    rw [never] at held
    cases held

end AntSeed.Seller.Backing
