import AntSeed.Gateway.Books
import AntSeed.Lib.Machine
import Mathlib.Data.Set.Basic

/-! # Retired jobs

A job that was dropped or has expired is deleted in memory and in the store. The create that it came from
reserved its price under a key of its own, which goes with the first write of the job, if that does not fail.
-/

namespace AntSeed.Gateway

open Keyed
open List

/-- A gateway and the time. -/
structure VideoRun where
  now : Int
  gateway : GatewayAccounting

inductive VideoCall where
  | elapse (milliseconds : Nat)
  /-- which of the next accesses to the store fail -/
  | fault (faults : Faults)
  | administer (keys : List ApiKeyRecord)
  | startRequest (input : GatewayStore.GatewayRequestStart)
  | recordRequestOutcome (tag : String) (outcome : GatewayStore.RequestOutcome)
  | finishRequest (tag : String)
  | pruneRequests (before : Int)
  | admitRequest (tag : String) (key : ApiKeyRecord) (context : KeyContext) (options : AdmitOptions)
  | held (scope : BudgetScope) (excludeVideoJob : Option String) (withoutVideoCreates : Bool)
  | videoCommitmentsReady
  | commitVideo (tag job : String) (amountUsdc : Int)
  | videoNotAccepted (tag : String)
  | dropVideo (job : String)
  | videoDelivered (job : String)
  | ingest (bootId : String) (events : List AttributedSpendEvent)
  | release (tag : String)
  | finish (tag : String)
  | timeout (tag : String)
  /-- the gateway is started again on the same store -/
  | restart (faults : Faults)

namespace VideoRun

variable (o : GatewayAccountingOptions) (number : String → Option Int)

def apply (s : VideoRun) : VideoCall → VideoRun
  | .elapse milliseconds => { s with now := s.now + milliseconds }
  | .fault faults => { s with gateway.faults := faults }
  | .administer keys => { s with gateway.store := { s.gateway.store with keys } }
  | .startRequest input => { s with gateway.store := s.gateway.store.startRequest input }
  | .recordRequestOutcome tag outcome =>
    { s with gateway.store := s.gateway.store.recordRequestOutcome tag outcome }
  | .finishRequest tag => { s with gateway.store := s.gateway.store.finishRequest tag s.now }
  | .pruneRequests before => { s with gateway.store := s.gateway.store.pruneRequests before }
  | .admitRequest tag key context options =>
    { s with gateway := (s.gateway.admitRequest o s.now tag key context options).1 }
  | .held scope excludeVideoJob withoutVideoCreates =>
    { s with gateway := (s.gateway.held s.now scope excludeVideoJob withoutVideoCreates).1 }
  | .videoCommitmentsReady => { s with gateway := (s.gateway.videoCommitmentsReady s.now).1 }
  | .commitVideo tag job amountUsdc => { s with gateway := s.gateway.commitVideo o s.now tag job amountUsdc }
  | .videoNotAccepted tag => { s with gateway := s.gateway.videoNotAccepted tag }
  | .dropVideo job => { s with gateway := s.gateway.dropVideo job }
  | .videoDelivered job => { s with gateway := s.gateway.videoDelivered s.now job }
  | .ingest bootId events => { s with gateway := (GatewayAccounting.ingest number bootId s.gateway events).1 }
  | .release tag => { s with gateway := s.gateway.release tag }
  | .finish tag => { s with gateway := s.gateway.finish o s.now tag }
  | .timeout tag => { s with gateway := s.gateway.timeout s.now tag }
  | .restart faults => { s with gateway := .construct s.now s.gateway.store faults }

def begin (now : Int) (store : GatewayStore) (faults : Faults) : VideoRun := ⟨now, .construct now store faults⟩

def Remembers (s : VideoRun) (job : String) : Prop := (s.gateway.getCommitment job).isSome

instance (s : VideoRun) (job : String) : Decidable (s.Remembers job) :=
  inferInstanceAs (Decidable (s.gateway.getCommitment job).isSome)

/-- Nobody owns the job, and leaving it out makes no difference to what is held. -/
def Retired (s : VideoRun) (job : String) : Prop :=
  s.gateway.videoJobOwner s.now job = none ∧ s.gateway.videoJobHeldUsdc job = 0 ∧
    ∀ scope withoutVideoCreates,
      s.gateway.heldOf scope none withoutVideoCreates = s.gateway.heldOf scope (some job) withoutVideoCreates

/-- The job goes with this call: it is dropped, or has expired and what is held is read. -/
def Retires (s : VideoRun) (job : String) (call : VideoCall) : Prop :=
  s.Remembers job ∧ ¬ (s.apply o number call).Remembers job ∧
    match call with
    | .dropVideo dropped => dropped = job
    | .held .. | .admitRequest .. =>
      ∀ commitment ∈ s.gateway.videoCommitments, commitment.job = job → commitment.expiresAt ≤ s.now
    | _ => False

def Reserved (s : VideoRun) (job : String) : Prop :=
  ∃ row ∈ s.gateway.store.videoCommitments, isVideoReservationKey row.job ∧ s.now < row.expiresAt ∧
    s.gateway.store.videoCreateJob (reservedTag row.job) = some job

/-- No create is accepted as the job, and it has no reservation when commitments are read. -/
def Allowed (s : VideoRun) (job : String) : VideoCall → Prop
  | .commitVideo tag accepted _ => accepted = job → s.gateway.getHold tag = none
  | .restart _ => ¬ s.Reserved job
  | .videoCommitmentsReady => s.gateway.videoCommitmentsLoaded = false → ¬ s.Reserved job
  | _ => True

def isRestart : VideoCall → Bool
  | .restart _ => true
  | _ => false

end VideoRun

def videoMachine (o : GatewayAccountingOptions) (number : String → Option Int) : Machine VideoRun VideoCall Empty where
  step s call := .ok (s.apply o number call)

/-! ## Jobs that are away -/

namespace GatewayAccounting

/-- Jobs are not in memory and are not saved again. A row of theirs waits for its deletion, if any may. -/
structure Away (jobs : Set String) (waits : Bool) (a : GatewayAccounting) : Prop where
  matched : ∀ pending ∈ a.pendingVideoWrites, ∀ record ∈ pending.record, record.job = pending.job
  memory : ∀ commitment ∈ a.videoCommitments, commitment.job ∉ jobs
  pending : ∀ pending ∈ a.pendingVideoWrites, pending.record.isSome → pending.job ∉ jobs
  rows : ∀ row ∈ a.store.videoCommitments, row.job ∈ jobs →
    waits = true ∧ ∃ pending ∈ a.pendingVideoWrites, pending.job = row.job

variable {jobs : Set String} {waits : Bool} {a a' : GatewayAccounting} {job : String} {now : Int}
  {record : Option VideoCommitmentRecord} {replaces : Option String} {commitment : VideoCommitmentRecord}

section

variable (h : a.Away jobs waits) (pending : a'.pendingVideoWrites = a.pendingVideoWrites)
  (memory : a'.videoCommitments = a.videoCommitments)

include h pending memory

/-- Rows may go, and others be added. -/
theorem Away.congr
    (rows : ∀ row ∈ a'.store.videoCommitments, row.job ∈ jobs → row ∈ a.store.videoCommitments) :
    a'.Away jobs waits where
  matched := pending ▸ h.matched
  memory := memory ▸ h.memory
  pending := pending ▸ h.pending
  rows row here away := pending ▸ h.rows row (rows row here away) away

theorem Away.sameVideo
    (rows : a'.store.videoCommitments = a.store.videoCommitments) : a'.Away jobs waits :=
  h.congr pending memory fun _ here _ => rows ▸ here

end

theorem write_frame {change : GatewayStore → GatewayStore} :
    (a.write change).1.pendingVideoWrites = a.pendingVideoWrites ∧
    (a.write change).1.videoCommitments = a.videoCommitments ∧
    ((a.write change).2 = true ∧ (a.write change).1.store = change a.store ∨
      (a.write change).2 = false ∧ (a.write change).1.store = a.store) := by
  unfold write
  split <;> simp

theorem Away.write (h : a.Away jobs waits) {change : GatewayStore → GatewayStore}
    (keeps : ∀ row ∈ (change a.store).videoCommitments, row.job ∈ jobs → row ∈ a.store.videoCommitments) :
    (a.write change).1.Away jobs waits := by
  obtain ⟨pending, memory, stored⟩ := @write_frame a change
  refine h.congr pending memory fun row here away => ?_
  cases stored with
  | inl stored => exact keeps row (stored.2 ▸ here) away
  | inr failed => exact failed.2 ▸ here

theorem mem_save {store : GatewayStore} {row : VideoCommitmentRecord}
    (here : row ∈ (store.saveVideoCommitment commitment replaces).videoCommitments) :
    row = commitment ∨ row ∈ store.videoCommitments ∧ row.job ≠ commitment.job := by
  have kept : row ∈ erase VideoCommitmentRecord.job commitment.job store.videoCommitments ++ [commitment] := by
    unfold GatewayStore.saveVideoCommitment at here
    cases replaces with
    | none => exact here
    | some replaced =>
      dsimp only at here
      split at here
      · exact mem_of_mem_filter here
      · exact here
  cases mem_append.mp kept with
  | inl old => exact .inr (by simpa [erase] using old)
  | inr new => exact .inl (mem_singleton.mp new)

/-- What a write about a job leaves stored of others, and of the job if it is saved. -/
theorem mem_storing {store : GatewayStore} {row : VideoCommitmentRecord} (named : ∀ saved ∈ record, saved.job = job)
    (here : row ∈ (storing job record replaces store).videoCommitments) :
    row.job = job ∧ record.isSome ∨ row ∈ store.videoCommitments ∧ row.job ≠ job := by
  cases record with
  | none => exact .inr (by simpa [storing, GatewayStore.deleteVideoCommitment, erase] using here)
  | some saved =>
    have saved_job := named saved rfl
    cases mem_save here with
    | inl new => exact .inl ⟨new ▸ saved_job, rfl⟩
    | inr old => exact .inr (saved_job ▸ old)

theorem storeVideo_cases : (a.storeVideo job record replaces).videoCommitments = a.videoCommitments ∧
    ((a.storeVideo job record replaces).pendingVideoWrites =
        erase PendingVideoWrite.job job a.pendingVideoWrites ∧
      (a.storeVideo job record replaces).store = storing job record replaces a.store ∨
    (a.storeVideo job record replaces).pendingVideoWrites =
        erase PendingVideoWrite.job job a.pendingVideoWrites ++ [⟨job, record, replaces⟩] ∧
      (a.storeVideo job record replaces).store = a.store) := by
  obtain ⟨pending, memory, stored⟩ := @write_frame
    { a with pendingVideoWrites := erase PendingVideoWrite.job job a.pendingVideoWrites }
    (storing job record replaces)
  unfold storeVideo
  dsimp only at pending memory stored ⊢
  cases stored with
  | inl stored => simp [stored.1, pending, memory, stored.2]
  | inr failed => simp [failed.1, pending, memory, failed.2]

/-- A write about a job, where the others are away already. -/
theorem Away.write_about (h : a.Away (jobs \ {job}) waits)
    (memory : ∀ commitment ∈ a.videoCommitments, commitment.job ∉ jobs) (named : ∀ saved ∈ record, saved.job = job)
    (other : record.isSome → job ∉ jobs)
    (row : ∀ row ∈ a.store.videoCommitments, row.job = job → job ∈ jobs → waits = true) :
    (a.storeVideo job record replaces).Away jobs waits := by
  have older : ∀ {pending}, pending ∈ erase PendingVideoWrite.job job a.pendingVideoWrites →
      pending ∈ a.pendingVideoWrites ∧ pending.job ≠ job := by
    simp [erase]
  have saves : ∀ {pending}, pending ∈ erase PendingVideoWrite.job job a.pendingVideoWrites →
      pending.record.isSome → pending.job ∉ jobs := fun here saved away =>
    h.pending _ (older here).1 saved ⟨away, (older here).2⟩
  obtain ⟨same, stored | failed⟩ := @storeVideo_cases a job record replaces
  · obtain ⟨pending, store⟩ := stored
    refine ⟨?_, same ▸ memory, fun w here => saves (pending ▸ here), fun row here away => ?_⟩
    · exact fun w here => h.matched w (older (pending ▸ here)).1
    · rw [store] at here
      cases mem_storing named here with
      | inl new => exact absurd (new.1 ▸ away) (other new.2)
      | inr old =>
        obtain ⟨waiting, w, known, named⟩ := h.rows row old.1 ⟨away, old.2⟩
        exact ⟨waiting, w, pending ▸ by simp [erase, known, named, old.2], named⟩
  · obtain ⟨pending, store⟩ := failed
    refine ⟨fun w here => ?_, same ▸ memory, fun w here => ?_, fun stored here away => ?_⟩
    · rw [pending] at here
      cases List.mem_append.mp here with
      | inl old => exact h.matched w (older old).1
      | inr new => exact List.mem_singleton.mp new ▸ named
    · rw [pending] at here
      cases List.mem_append.mp here with
      | inl old => exact saves old
      | inr new => exact List.mem_singleton.mp new ▸ other
    · rw [store] at here
      by_cases again : stored.job = job
      · exact ⟨row stored here again (again ▸ away), ⟨job, record, replaces⟩, by simp [pending], again.symm⟩
      · obtain ⟨waiting, w, known, named⟩ := h.rows stored here ⟨away, again⟩
        exact ⟨waiting, w, pending ▸ by simp [erase, known, named, again], named⟩

theorem Away.mono {fewer : Set String} (h : a.Away jobs waits) (subset : fewer ⊆ jobs) : a.Away fewer waits where
  matched := h.matched
  memory known here away := h.memory known here (subset away)
  pending w here saved away := h.pending w here saved (subset away)
  rows row here away := h.rows row here (subset away)

theorem Away.storeVideo (h : a.Away jobs waits) (named : ∀ saved ∈ record, saved.job = job)
    (other : record.isSome → job ∉ jobs) : (a.storeVideo job record replaces).Away jobs waits :=
  (h.mono fun _ away => away.1).write_about h.memory named other fun row here same away =>
    (h.rows row here (same ▸ away)).1

/-- Another job is remembered and stored. -/
theorem Away.commit (h : a.Away jobs waits) (other : commitment.job ∉ jobs) :
    (GatewayAccounting.storeVideo
      { a with videoCommitments := Keyed.set VideoCommitmentRecord.job commitment a.videoCommitments }
      commitment.job (some commitment) replaces).Away jobs waits := by
  refine .storeVideo ⟨h.matched, fun known here => ?_, h.pending, h.rows⟩ (by simp) fun _ => other
  cases Keyed.mem_of_mem_set here with
  | inl same => exact same ▸ other
  | inr old => exact h.memory known old

theorem Away.setVideoHeld (h : a.Away jobs waits) (other : commitment.job ∉ jobs) (amountUsdc : Int) :
    (a.setVideoHeld commitment amountUsdc).Away jobs waits :=
  @Away.commit jobs waits a none { commitment with amountUsdc } h other

theorem Away.forgetVideo (h : a.Away jobs waits) (job : String) : (a.forgetVideo job).Away jobs waits :=
  @Away.storeVideo _ _ { a with videoCommitments := erase VideoCommitmentRecord.job job a.videoCommitments } _ _ _
    ⟨h.matched, fun known here => h.memory known (List.mem_of_mem_filter here), h.pending, h.rows⟩ (by simp) (by simp)

/-- A job that is forgotten is away from then on. -/
theorem Away.retire (h : a.Away jobs true) (job : String) : (a.forgetVideo job).Away (insert job jobs) true := by
  have others : insert job jobs \ {job} ⊆ jobs := fun name away => away.1.resolve_left away.2
  refine @Away.write_about _ _
    { a with videoCommitments := erase VideoCommitmentRecord.job job a.videoCommitments } _ _ _
    (Away.mono ⟨h.matched, fun known here => h.memory known (List.mem_of_mem_filter here), h.pending, h.rows⟩ others)
    (fun known here away => ?_) (by simp) (by simp) fun _ _ _ _ => rfl
  obtain ⟨old, differs⟩ := List.mem_filter.mp here
  exact h.memory known old (away.resolve_left (by simpa using differs))

/-! ## What is read and paid -/

theorem reserved_key (tag : String) : isVideoReservationKey (videoReservationKey tag) = true := by
  simp [isVideoReservationKey, videoReservationKey]

theorem Away.sweepVideo (h : a.Away jobs waits) (old : commitment.job ∈ jobs → commitment.expiresAt ≤ now) :
    (sweepVideo now a commitment).Away jobs waits := by
  unfold GatewayAccounting.sweepVideo
  split
  · exact h.forgetVideo commitment.job
  next fresh =>
    split
    · exact h.setVideoHeld (fun away => fresh (old away)) 0
    · exact h

theorem Away.sweeps {commitments : List VideoCommitmentRecord} (h : a.Away jobs waits)
    (old : ∀ commitment ∈ commitments, commitment.job ∈ jobs → commitment.expiresAt ≤ now) :
    (commitments.foldl (GatewayAccounting.sweepVideo now) a).Away jobs waits := by
  induction commitments generalizing a with
  | nil => exact h
  | cons commitment rest ih =>
    exact ih (h.sweepVideo (old commitment mem_cons_self)) fun other here => old other (mem_cons_of_mem _ here)

theorem Away.sweep (h : a.Away jobs waits) : (a.sweep now).Away jobs waits :=
  h.sweeps fun commitment here away => absurd away (h.memory commitment here)

/-- Sweeping forgets a job whose commitments have expired. -/
theorem Away.expire {commitments : List VideoCommitmentRecord} (h : a.Away jobs true)
    (other : ∀ commitment ∈ commitments, commitment.job ∈ insert job jobs → commitment.expiresAt ≤ now)
    (known : ∃ commitment ∈ commitments, commitment.job = job) :
    (commitments.foldl (GatewayAccounting.sweepVideo now) a).Away (insert job jobs) true := by
  induction commitments generalizing a with
  | nil => simp at known
  | cons commitment rest ih =>
    have later := fun other_ here => other other_ (mem_cons_of_mem commitment here)
    have first := other commitment mem_cons_self
    by_cases same : commitment.job = job
    · have expired : commitment.expiresAt ≤ now := first (.inl same)
      have gone : (GatewayAccounting.sweepVideo now a commitment).Away (insert job jobs) true := by
        rw [GatewayAccounting.sweepVideo, if_pos expired]
        exact same ▸ h.retire commitment.job
      exact gone.sweeps later
    · refine ih (h.sweepVideo fun away => first (.inr away)) later ?_
      simpa [same] using known

theorem Away.checkBudgets (h : a.Away jobs waits) (videoJob : Option String) (remaining : Option Int)
    (checks : List BudgetCheck) : (checkBudgets now videoJob a remaining checks).1.Away jobs waits := by
  induction checks generalizing a remaining with
  | nil => exact h
  | cons check checks ih =>
    unfold GatewayAccounting.checkBudgets
    dsimp only [held]
    split
    · exact ih h remaining
    · split
      · split <;> exact h.sweep.sweep
      · exact ih h.sweep _

/-- Reading the budgets changes nothing or forgets a job whose commitments have expired. -/
theorem Away.checkBudgets_expire (h : a.Away jobs true) (away : ∀ commitment ∈ a.videoCommitments,
      commitment.job ∈ insert job jobs → commitment.expiresAt ≤ now)
    (known : ∃ commitment ∈ a.videoCommitments, commitment.job = job) (videoJob : Option String)
    (remaining : Option Int) (checks : List BudgetCheck) :
    (GatewayAccounting.checkBudgets now videoJob a remaining checks).1 = a ∨
      (GatewayAccounting.checkBudgets now videoJob a remaining checks).1.Away (insert job jobs) true := by
  induction checks generalizing remaining with
  | nil => exact .inl rfl
  | cons check checks ih =>
    have swept : (a.sweep now).Away (insert job jobs) true := h.expire away known
    unfold GatewayAccounting.checkBudgets
    dsimp only [held]
    split
    · exact ih remaining
    · refine .inr ?_
      split
      · split <;> exact swept.sweep
      · exact swept.checkBudgets videoJob _ checks

section Admit

variable (o : GatewayAccountingOptions) (tag : String) (key : ApiKeyRecord) (context : KeyContext)
  (options : AdmitOptions)

theorem Away.admitRequest (plain : ∀ job ∈ jobs, isVideoReservationKey job = false)
    (owned : a.ownsJob now key options.videoJob = true → a.Away jobs waits)
    (checked : (GatewayAccounting.checkBudgets now options.videoJob a none (budgetChecks key context)).1.Away jobs waits) :
    (a.admitRequest o now tag key context options).1.Away jobs waits := by
  unfold GatewayAccounting.admitRequest
  split
  next owns => exact (owned owns).sameVideo rfl rfl rfl
  · cases outcome : GatewayAccounting.checkBudgets now options.videoJob a none (budgetChecks key context) with
    | mk a' result =>
    rw [outcome] at checked
    cases result with
    | error => exact checked
    | ok remaining =>
      dsimp only
      split
      · exact checked.sameVideo rfl rfl rfl
      next room _ =>
        have reserved := @Away.write jobs waits a' checked (·.saveVideoCommitment {
          job := videoReservationKey tag, keyId := key.id, memberId := key.ownerMemberId
          workspaceId := key.workspaceId, amountUsdc := min room o.maxVideoRequestUsdc
          expiresAt := now + o.videoCommitmentMs, deliveredAt := none } none) fun row here away => by
            cases mem_save here with
            | inl new => exact absurd (plain _ (new ▸ away)) (by simp [reserved_key])
            | inr old => exact old.1
        split
        · exact reserved.sameVideo rfl rfl rfl
        · exact reserved

theorem admitRequest_memory : (a.admitRequest o now tag key context options).1.videoCommitments =
    if a.ownsJob now key options.videoJob then a.videoCommitments
    else (checkBudgets now options.videoJob a none (budgetChecks key context)).1.videoCommitments := by
  unfold admitRequest
  split
  · rfl
  · cases checkBudgets now options.videoJob a none (budgetChecks key context) with
    | mk a' result =>
    cases result with
    | error => rfl
    | ok remaining =>
      dsimp only
      split
      · rfl
      · split <;> exact write_frame.2.1

end Admit

section

variable (h : a.Away jobs waits)

include h

theorem Away.videoNotAccepted (tag : String) : (a.videoNotAccepted tag).Away jobs waits := by
  unfold GatewayAccounting.videoNotAccepted
  split
  · split
    · exact .storeVideo (h.sameVideo rfl rfl rfl) (by simp) (by simp)
    · exact h
  · exact h

theorem Away.commitVideo (o : GatewayAccountingOptions) (amountUsdc : Int)
    (other : job ∈ jobs → a.getHold tag = none) : (a.commitVideo o now tag job amountUsdc).Away jobs waits := by
  unfold GatewayAccounting.commitVideo
  split
  · exact h
  next held =>
    split
    · exact h.videoNotAccepted tag
    · refine .sameVideo (Away.commit h fun away => ?_) rfl rfl rfl
      simp [other away] at held

theorem Away.get {p : VideoCommitmentRecord → Bool}
    (found : (a.getCommitment job).filter p = some commitment) : commitment.job = job ∧ commitment.job ∉ jobs := by
  obtain ⟨known, named⟩ := mem_of_get (Option.filter_eq_some_iff.mp found).1
  exact ⟨named, h.memory commitment known⟩

theorem Away.videoDelivered (job : String) : (a.videoDelivered now job).Away jobs waits := by
  unfold GatewayAccounting.videoDelivered
  split
  next commitment found =>
    obtain ⟨rfl, other⟩ := h.get found
    exact @Away.commit jobs waits a none { commitment with deliveredAt := some now } h other
  · exact h

theorem Away.videoCharged (job : String) (amountUsdc : Int) :
    (a.videoCharged job amountUsdc).Away jobs waits := by
  unfold GatewayAccounting.videoCharged
  split
  next found => exact h.setVideoHeld (h.get found).2 _
  · exact h

end

section Ingest

variable (number : String → Option Int) (bootId : String)

theorem Away.settle (h : a.Away jobs waits) (event : AttributedSpendEvent) (request : GatewayRequest) :
    (settle number a event request).Away jobs waits := by
  unfold GatewayAccounting.settle
  cases request.videoJob with
  | none =>
    dsimp only
    split
    · exact h.sameVideo rfl rfl rfl
    · exact h
  | some job =>
    have charged := h.videoCharged job (parseBaseUnits number event.amountUsdc)
    cases event.requestId with
    | none =>
      dsimp only [Option.isSome_none]
      split
      · exact h.sameVideo rfl rfl rfl
      · exact h
    | some =>
      dsimp only [Option.isSome_some]
      split
      · exact charged.sameVideo rfl rfl rfl
      · exact charged

theorem rollUp_videoCommitments (store : GatewayStore) (entry : LedgerEntry) :
    (store.rollUp entry).videoCommitments = store.videoCommitments := by
  unfold GatewayStore.rollUp
  split <;> rfl

theorem Away.ingestOne (h : a.Away jobs waits) (event : AttributedSpendEvent) :
    (ingestOne number bootId a event).1.Away jobs waits := by
  unfold GatewayAccounting.ingestOne
  split
  · exact h
  next request _ =>
    have written : ∀ store inserted,
        a.store.recordLedgerEntry (spendEntry number bootId event request) = .ok (store, inserted) →
        (a.write fun _ => store).1.Away jobs waits := by
      intro store inserted recorded
      refine h.write fun row here _ => ?_
      rw [recordLedgerEntry_spend] at recorded
      split at recorded
      · cases recorded
        exact here
      · cases recorded
        rw [rollUp_videoCommitments] at here
        exact here
    split
    · exact h
    next store inserted recorded =>
      have written := written store inserted recorded
      split
      next failed => exact failed ▸ written
      next taken =>
        rw [taken] at written
        split
        · exact written.settle number event request
        · exact written

theorem Away.ingest (h : a.Away jobs waits) (events : List AttributedSpendEvent) :
    (ingest number bootId a events).1.Away jobs waits := by
  induction events generalizing a with
  | nil => exact h
  | cons event events ih =>
    have first := h.ingestOne number bootId event
    unfold GatewayAccounting.ingest
    split
    next taken =>
      rw [taken] at first
      exact ih first
    next failed =>
      rw [failed] at first
      exact first

end Ingest

/-! ## What is loaded -/

def Unreserved (jobs : Set String) (store : GatewayStore) (rows : List VideoCommitmentRecord) : Prop :=
  ∀ row ∈ rows, isVideoReservationKey row.job → ∀ created, store.videoCreateJob (reservedTag row.job) = some created →
    created ∉ jobs

theorem loadRow_pending (stored : List String) (row : VideoCommitmentRecord) :
    (loadRow stored a row).1.pendingVideoWrites = a.pendingVideoWrites := by
  unfold loadRow
  split
  · split <;> rfl
  · split
    · exact write_frame.1
    · dsimp only
      split <;> exact write_frame.1

section

variable (h : a.Away jobs waits)

include h

theorem Away.loadRow (stored : List String) {row : VideoCommitmentRecord}
    (waiting : row.job ∈ jobs → ∃ pending ∈ a.pendingVideoWrites, pending.job = row.job)
    (unreserved : Unreserved jobs a.store [row]) : (loadRow stored a row).1.Away jobs waits := by
  have added : ∀ {a' : GatewayAccounting}, a'.Away jobs waits → ∀ {taken : VideoCommitmentRecord}, taken.job ∉ jobs →
      Away jobs waits { a' with videoCommitments := a'.videoCommitments ++ [taken] } := by
    intro a' h taken other
    refine ⟨h.matched, fun known here => ?_, h.pending, h.rows⟩
    cases mem_append.mp here with
    | inl old => exact h.memory known old
    | inr new => exact mem_singleton.mp new ▸ other
  unfold GatewayAccounting.loadRow
  split
  · split
    next free =>
      refine added h fun away => ?_
      obtain ⟨pending, here, same⟩ := waiting away
      exact get_eq_none_iff.mp (Option.isNone_iff_eq_none.mp free.2) (same ▸ mem_map_of_mem here)
    · exact h
  next reserved =>
    split
    · exact h.write fun _ here _ => mem_of_mem_filter here
    next created found =>
      have logged := (Option.filter_eq_some_iff.mp found).1
      have other := unreserved row (mem_singleton_self row) (by simpa using reserved) created logged
      have saved := @Away.write jobs waits a h (·.saveVideoCommitment { row with
        job := created
        amountUsdc := max 0 (row.amountUsdc - a.store.videoJobSpend row.keyId (jobIdOf created))
        deliveredAt := a.store.videoJobDeliveredAt row.keyId (jobIdOf created) } (some row.job))
        fun taken here away => by
          cases mem_save here with
          | inl new =>
            subst new
            exact absurd away other
          | inr old => exact old.1
      dsimp only
      split
      · exact added saved other
      · exact saved

theorem Away.loadRows {rows : List VideoCommitmentRecord} (stored : List String)
    (waiting : ∀ row ∈ rows, row.job ∈ jobs → ∃ pending ∈ a.pendingVideoWrites, pending.job = row.job)
    (unreserved : Unreserved jobs a.store rows) : (loadRows stored a rows).1.Away jobs waits := by
  induction rows generalizing a stored with
  | nil => exact h
  | cons row rows ih =>
    have first := h.loadRow stored (waiting row mem_cons_self) fun other here =>
      unreserved other (mem_singleton.mp here ▸ mem_cons_self)
    have pending := @loadRow_pending a stored row
    have log : ∀ tag, (GatewayAccounting.loadRow stored a row).1.store.videoCreateJob tag = a.store.videoCreateJob tag :=
      fun tag => @part_loadRow _ (·.videoCreateJob tag) (fun _ _ => rfl) a stored row
    have rest := @ih (GatewayAccounting.loadRow stored a row).1 first
    unfold GatewayAccounting.loadRows
    split
    next a' stored' taken =>
      rw [taken] at rest pending log
      refine rest stored' (fun other here => pending ▸ waiting other (mem_cons_of_mem row here)) ?_
      intro other here reserved created logged
      exact unreserved other (mem_cons_of_mem row here) reserved created ((log _).symm.trans logged)
    next failed =>
      rw [failed] at first
      exact first

theorem Away.load
    (unreserved : Unreserved jobs a.store (a.store.videoCommitments.filter fun row => now < row.expiresAt)) :
    (a.loadVideoCommitments now).Away jobs waits := by
  have listed := @Away.write _ _ a h (·.dropExpiredCommitments now) fun _ here _ => mem_of_mem_filter here
  obtain ⟨-, -, stored⟩ := @write_frame a (·.dropExpiredCommitments now)
  unfold GatewayAccounting.loadVideoCommitments
  dsimp only
  split
  next done =>
    have store := (stored.resolve_right fun failed => by simp [failed.1] at done).2
    have loaded := listed.loadRows ((a.write (·.dropExpiredCommitments now)).1.store.videoCommitments.map
      VideoCommitmentRecord.job) (fun row here away => (listed.rows row here away).2) (store ▸ unreserved)
    split
    · exact loaded.sameVideo rfl rfl rfl
    · exact loaded
  · exact listed

theorem Away.ready
    (unreserved : a.videoCommitmentsLoaded = false →
      Unreserved jobs a.store (a.store.videoCommitments.filter fun row => now < row.expiresAt)) :
    (a.videoCommitmentsReady now).1.Away jobs waits := by
  have retried : ∀ (writes : List PendingVideoWrite) {a : GatewayAccounting}, a.Away jobs waits →
      (∀ pending ∈ writes, (∀ record ∈ pending.record, record.job = pending.job) ∧
        (pending.record.isSome → pending.job ∉ jobs)) →
      (writes.foldl (fun a pending => a.storeVideo pending.job pending.record pending.replaces) a).Away jobs waits := by
    intro writes
    induction writes with
    | nil => exact fun h _ => h
    | cons pending rest ih =>
      intro a h sound
      obtain ⟨named, other⟩ := sound pending mem_cons_self
      exact ih (h.storeVideo named other) fun later here => sound later (mem_cons_of_mem pending here)
  have loaded : (if a.videoCommitmentsLoaded then a else a.loadVideoCommitments now).Away jobs waits := by
    split
    · exact h
    next unread => exact h.load (unreserved (by simpa using unread))
  exact retried _ loaded fun pending here => ⟨loaded.matched pending here, loaded.pending pending here⟩

end

end GatewayAccounting

/-! ## Runs -/

namespace VideoRun

variable {o : GatewayAccountingOptions} {number : String → Option Int} {s : VideoRun} {jobs : Set String} {waits : Bool}
  {job : String} {call : VideoCall}

theorem unreserved (allowed : ∀ job ∈ jobs, ¬ s.Reserved job) : GatewayAccounting.Unreserved jobs s.gateway.store
    (s.gateway.store.videoCommitments.filter fun row => s.now < row.expiresAt) := by
  intro row here reserved created logged away
  obtain ⟨stored, fresh⟩ := mem_filter.mp here
  exact allowed created away ⟨row, stored, reserved, by simpa using fresh, logged⟩

theorem away_restart (unreserved : GatewayAccounting.Unreserved jobs s.gateway.store
      (s.gateway.store.videoCommitments.filter fun row => s.now < row.expiresAt))
    (gone : ∀ row ∈ s.gateway.store.videoCommitments, row.job ∉ jobs) :
    (GatewayAccounting.construct s.now s.gateway.store faults).Away jobs waits := by
  refine GatewayAccounting.Away.load (a := { store := s.gateway.store, faults }) ?_ unreserved
  exact ⟨by simp, by simp, by simp, fun row here away => absurd away (gone row here)⟩

/-- Jobs that are away stay away, with no create accepted as one of them and none reserved where rows are read. -/
theorem away_step (plain : ∀ job ∈ jobs, isVideoReservationKey job = false) (h : s.gateway.Away jobs waits)
    (allowed : ∀ job ∈ jobs, s.Allowed job call) (settled : isRestart call → waits = true → jobs = ∅) :
    (s.apply o number call).gateway.Away jobs waits := by
  cases call with
  | admitRequest => exact .admitRequest _ _ _ _ _ plain (fun _ => h) (h.checkBudgets _ _ _)
  | held => exact h.sweep
  | videoCommitmentsReady => exact h.ready fun unread => unreserved fun job away => allowed job away unread
  | commitVideo => exact h.commitVideo o _ fun away => allowed _ away rfl
  | videoNotAccepted tag => exact h.videoNotAccepted tag
  | dropVideo job =>
    unfold apply GatewayAccounting.dropVideo
    dsimp only
    split
    · exact h.forgetVideo job
    · exact h
  | videoDelivered job => exact h.videoDelivered job
  | ingest bootId events => exact h.ingest number bootId events
  | finish tag =>
    unfold apply GatewayAccounting.finish
    dsimp only
    split
    · exact h.sameVideo rfl rfl rfl
    · exact h
  | timeout tag =>
    unfold apply GatewayAccounting.timeout
    dsimp only
    split
    · exact h.sameVideo rfl rfl rfl
    · exact h
  | restart =>
    refine away_restart (unreserved allowed) fun row here away => ?_
    have empty := settled rfl (h.rows row here away).1
    exact absurd (empty ▸ away) (Set.notMem_empty row.job)
  | elapse | fault | administer | startRequest | recordRequestOutcome | finishRequest | pruneRequests | release =>
    exact h.sameVideo rfl rfl rfl

theorem reachable (now : Int) (store : GatewayStore) (faults : Faults) (calls : List VideoCall) :
    ((videoMachine o number).run (begin now store faults) calls).gateway.Away ∅ true := by
  refine (videoMachine o number).run_invariant (I := (·.gateway.Away ∅ true)) (fun s call s' h taken => ?_) ?_ calls
  · cases taken
    exact away_step (fun _ => False.elim) h (fun _ => False.elim) fun _ _ => rfl
  · exact away_restart (s := ⟨now, { store }⟩) (by simp [GatewayAccounting.Unreserved]) (by simp)

theorem away_retire (plain : isVideoReservationKey job = false) (h : s.gateway.Away ∅ true)
    (retires : s.Retires o number job call) :
    (s.apply o number call).gateway.Away {job} true := by
  obtain ⟨known, gone, retired⟩ := retires
  have one : ∀ {a : GatewayAccounting}, a.Away (insert job ∅) true → a.Away {job} true :=
    fun away => away.mono fun name same => .inl same
  have remembered : ∃ commitment ∈ s.gateway.videoCommitments, commitment.job = job := by
    obtain ⟨commitment, found⟩ := Option.isSome_iff_exists.mp known
    exact ⟨commitment, Keyed.mem_of_get found⟩
  have swept : (∀ commitment ∈ s.gateway.videoCommitments, commitment.job = job → commitment.expiresAt ≤ s.now) →
      (s.gateway.sweep s.now).Away {job} true := fun expired =>
    one (h.expire (fun commitment here same => expired commitment here (same.resolve_right id)) remembered)
  cases call with
  | dropVideo dropped =>
    cases retired
    have dropped : s.gateway.dropVideo job = s.gateway.forgetVideo job := if_pos known
    change (s.gateway.dropVideo job).Away {job} true
    rw [dropped]
    exact one (h.retire job)
  | held => exact swept retired
  | admitRequest tag key context options =>
    have memory := @GatewayAccounting.admitRequest_memory s.gateway s.now o tag key context options
    have kept : (s.gateway.admitRequest o s.now tag key context options).1.videoCommitments ≠
        s.gateway.videoCommitments := fun same => gone (by
      unfold Remembers GatewayAccounting.getCommitment at known ⊢
      exact same ▸ known)
    have expired := @GatewayAccounting.Away.checkBudgets_expire _ _ _ s.now h
      (fun known here same => retired known here (same.resolve_right id)) remembered options.videoJob none
      (GatewayAccounting.budgetChecks key context)
    refine .admitRequest o tag key context options (fun _ same => same ▸ plain) (fun owned => ?_) ?_
    · exact absurd (memory.trans (if_pos owned)) kept
    · cases expired with
      | inr away => exact one away
      | inl same =>
        refine absurd (memory.trans ?_) kept
        split
        · rfl
        · rw [same]
  | _ => exact retired.elim

theorem Retired.of_away (h : s.gateway.Away {job} waits) : s.Retired job := by
  have absent : s.gateway.getCommitment job = none := get_eq_none_iff.mpr fun here => by
    obtain ⟨commitment, known, same⟩ := mem_map.mp here
    exact h.memory commitment known same
  refine ⟨by simp [GatewayAccounting.videoJobOwner, absent], by simp [GatewayAccounting.videoJobHeldUsdc, absent], ?_⟩
  intro scope withoutVideoCreates
  refine congrArg (_ + ·) (congrArg (fun rows => (map _ rows).sum) (filter_congr fun commitment here => ?_))
  have other : commitment.job ≠ job := h.memory commitment here
  simp [GatewayAccounting.commitmentCounts, other]

theorem plain_videoJobKey (protocol : VideoProtocol) (jobId : String) :
    isVideoReservationKey (videoJobKey protocol jobId) = false := by
  cases protocol <;> simp [isVideoReservationKey, videoJobKey, VideoProtocol.name, isPrefixOf]

/-- A job is dropped or expires, and its deletion is tried until it succeeds. Where no create is accepted as the job
    and it has no reservation when commitments are read, it is retired in every later state, restarts included. -/
theorem retired_jobs_stay_retired (o : GatewayAccountingOptions) (number : String → Option Int)
    (protocol : VideoProtocol) (jobId : String) (now : Int) (store : GatewayStore) (faults : Faults)
    (before waiting later : List VideoCall) (call : VideoCall) :
    let M := videoMachine o number
    let job := videoJobKey protocol jobId
    let s := M.run (begin now store faults) before
    s.Retires o number job call →
    M.Along (fun s call => s.Allowed job call ∧ isRestart call = false) (s.apply o number call) waiting →
    let deleted := M.run (s.apply o number call) waiting
    (∀ pending ∈ deleted.gateway.pendingVideoWrites, pending.job ≠ job) →
    M.Along (fun s => s.Allowed job) deleted later →
    (M.run deleted later).Retired job := by
  intro M job s retires running deleted gone allowed
  have plain := plain_videoJobKey protocol jobId
  have waited : deleted.gateway.Away {job} true := by
    refine M.run_invariant_along (I := (·.gateway.Away {job} true)) (fun s call s' here h taken => ?_)
      (away_retire plain (reachable now store faults before) retires) running
    cases taken
    exact away_step (fun _ same => same ▸ plain) h (fun _ same => same ▸ here.1) fun restarts =>
      absurd here.2 (by simp [restarts])
  have settled : deleted.gateway.Away {job} false := by
    refine ⟨waited.matched, waited.memory, waited.pending, fun row here same => ?_⟩
    obtain ⟨-, pending, known, named⟩ := waited.rows row here same
    exact absurd (named.trans same) (gone pending known)
  refine .of_away (M.run_invariant_along (I := (·.gateway.Away {job} false)) (fun s call s' here h taken => ?_) settled
    allowed)
  cases taken
  exact away_step (fun _ same => same ▸ plain) h (fun _ same => same ▸ here) fun _ impossible => by cases impossible

section Example

def options : GatewayAccountingOptions where
  holdUsdc := 1

/-- A key that may spend ten. -/
def capped : ApiKeyRecord :=
  ⟨"k", .active, "default", "", none, { NO_BUDGET_LIMITS with total := some 10 }, NO_BUDGET_LIMITS⟩

def unread (_ : String) : Option Int := none

def queued : String := videoJobKey .veniceVideo "j"

/-- A create is admitted and accepted as a job, and the writes after that fail as they are told to. -/
def accepted (writes : List Bool) : List VideoCall :=
  [ .admitRequest "t" capped ⟨none, none⟩ { videoCreate := true },
    .startRequest ⟨"t", "k", "default", VENICE_CREATE_PATH, none, 0, none, none, none, some (.create, none)⟩,
    .recordRequestOutcome "t" { videoJobId := some "j" },
    .fault { writes },
    .commitVideo "t" queued 5 ]

/-- The state after the create and some calls more. -/
def after (writes : List Bool) (calls : List VideoCall) : VideoRun :=
  (videoMachine options unread).run (begin 0 {} {}) (accepted writes ++ calls)

theorem stored_job_stays_retired : (after [] [.dropVideo queued, .restart {}]).Retired queued := by
  refine retired_jobs_stay_retired options unread .veniceVideo "j" 0 {} {} (accepted []) [] [.restart {}]
    (.dropVideo queued) ⟨by decide +kernel, by decide +kernel, rfl⟩ trivial (by decide +kernel) ⟨?_, trivial⟩
  have stored : (after [] [.dropVideo queued]).gateway.store.videoCommitments = [] := by decide +kernel
  rintro ⟨row, here, -⟩
  exact absurd (stored ▸ here) List.not_mem_nil

/-- A job whose commitment was never saved comes back: its create's reservation is still there. -/
theorem unsaved_job_comes_back : (after [true] []).Retires options unread queued (.dropVideo queued) ∧
    (after [true] [.dropVideo queued]).gateway.pendingVideoWrites = [] ∧
    (after [true] [.dropVideo queued, .restart {}]).gateway.videoJobOwner 0 queued = some "k" :=
  ⟨⟨by decide +kernel, by decide +kernel, rfl⟩, by decide +kernel, by decide +kernel⟩

end Example

end VideoRun

end AntSeed.Gateway
