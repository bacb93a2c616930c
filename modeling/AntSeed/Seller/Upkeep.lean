import AntSeed.Seller.Handling

/-! # So does the seller's upkeep

What the node does by itself works for no buyer, and may work on any channel.
-/

namespace AntSeed.Seller

open Evm Async
open AntSeed.Payments (Signature Channel)
open Function (update)

section Upkeep

variable {C : Contract Manager Wait Reply} {node : Node} {known s : Manager} {channelId : Hex}
  {row : StoredChannel} {buyerPeerId : PeerId} (permits : Permits C node none)

theorem serves_none : Serves none buyerPeerId := nofun

theorem works_none : Works C node none channelId := .seller rfl

theorem not_active_of_isGone {status : OnChainStatus} (gone : status.isGone = true) :
    status ≠ .active := by
  rintro rfl
  simp [OnChainStatus.isGone] at gone

include permits

theorem onBuyerDisconnect_safe : Safe C known (onBuyerDisconnect node buyerPeerId) fun _ => True := by
  refine safe_read permits fun s _ _ => ?_
  split
  · exact safe_pure trivial
  · refine safe_then (safe_quiet permits fun _ => alike_markDisconnect) ?_
    refine safe_ite (fun _ => settleSession_safe permits serves_none) fun _ => ?_
    exact safe_quiet permits fun _ => alike_deactivateBuyer

theorem handleCloseRequested_safe : Safe C known (handleCloseRequested channelId) fun _ => True := by
  refine safe_read permits fun s _ _ => safe_ite (fun _ => ?_) fun _ =>
    retire_safe permits works_none .givenUp
  refine .bind (submitClose_safe permits works_none) fun result closed => ?_
  cases result with
  | failed => exact safe_pure trivial
  | closed amount => exact retire_safe permits works_none (.closed amount (closed amount rfl))

theorem pollCloseRequested_safe {channelIds : List Hex} :
    Safe C known (pollCloseRequested channelIds) fun _ => True := by
  refine .bind (safe_call permits rfl) fun answer _ => ?_
  cases answer with
  | error => exact safe_pure trivial
  | ok =>
    refine safe_forEach fun channelId _ => safe_read permits fun s _ _ => ?_
    exact safe_ite (fun _ => safe_awaited permits (handleCloseRequested_safe permits)) fun _ =>
      safe_pure trivial

theorem checkOneOffChannel_safe {now : Nat}
    (was : Was C fun s => row ∈ s.store ∧ row.channelKind = .oneOff) :
    Safe C known (checkOneOffChannel node now row) fun _ => True := by
  refine .bind (getSession_safe permits) fun session read => safe_read permits fun s _ _ => ?_
  cases session with
  | error => exact safe_pure trivial
  | ok onChain =>
    refine safe_ite (fun _ => safe_pure trivial) fun _ => safe_ite (fun gone => ?_) fun _ => ?_
    · exact evict_safe permits works_none
        (.notOpen onChain (read onChain rfl) (not_active_of_isGone gone))
    · refine safe_then (safe_act permits fun _ _ _ => .keepOneOff row rfl was) ?_
      refine safe_ite (fun _ => ?_) fun _ => safe_pure trivial
      exact .bind (safe_awaited permits (closeOneOffChannel_safe permits works_none))
        fun _ _ => safe_pure trivial

theorem checkOneOffChannels_safe : Safe C known (checkOneOffChannels node) fun _ => True := by
  refine safe_read permits fun s holds _ => safe_forEach fun row listed => ?_
  have ⟨member, kept⟩ := List.mem_filter.mp listed
  exact checkOneOffChannel_safe permits ⟨s, holds, member, (of_decide_eq_true kept).1⟩

theorem validateHydratedChannel_safe (was : Was C fun s => row ∈ s.store) :
    Safe C known (validateHydratedChannel node row) fun _ => True := by
  refine .bind (getSession_safe permits) fun session read => safe_read permits fun s _ _ => ?_
  cases session with
  | error => exact safe_pure trivial
  | ok onChain =>
    have read := read onChain rfl
    refine safe_ite (fun _ => safe_pure trivial) fun _ => safe_ite (fun out => ?_) fun _ => ?_
    · rcases out with gone | other
      · exact evict_safe permits works_none (.notOpen onChain read (not_active_of_isGone gone))
      · exact evict_safe permits works_none (.notOurs row onChain read was rfl other)
    · refine safe_ite (fun _ => safe_awaited permits (handleCloseRequested_safe permits)) fun _ => ?_
      exact safe_act permits fun _ _ _ => .reconcileSpent row.sessionId onChain rfl read

theorem validateHydratedChannels_safe : Safe C known (validateHydratedChannels node) fun _ => True := by
  refine safe_then (safe_awaited permits (checkOneOffChannels_safe permits)) ?_
  refine safe_read permits fun s holds _ => Safe.bind (safe_call permits rfl) fun resolved _ => ?_
  cases resolved with
  | error => exact safe_pure trivial
  | ok =>
    refine safe_forEach fun row listed => validateHydratedChannel_safe permits ?_
    exact ⟨s, holds, ChannelStore.mem_of_getActiveChannels listed⟩

theorem checkTimeout_safe {nowSecs accepted : Int} :
    Safe C known (checkTimeout node nowSecs row accepted) fun _ => True := by
  refine .bind (getSession_safe permits) fun session read => safe_read permits fun s _ _ => ?_
  cases session with
  | error => exact safe_pure trivial
  | ok onChain =>
    refine safe_ite (fun _ => safe_pure trivial) fun _ => safe_ite (fun gone => ?_) fun _ => ?_
    · exact evict_safe permits works_none
        (.notOpen onChain (read onChain rfl) (not_active_of_isGone gone))
    · refine safe_ite (fun _ => safe_awaited permits (settleSession_safe permits serves_none))
        fun _ => safe_ite (fun _ => ?_) fun _ => safe_pure trivial
      refine safe_ite (fun _ => ?_) fun _ => evict_safe permits works_none .givenUp
      exact safe_awaited permits (closeWithoutAuth_safe permits works_none)

theorem checkTimeoutRestored_safe (since : Since C (fun s => row ∈ s.store) known) :
    Safe C known (checkTimeoutRestored node nowSecs row) fun _ => True := by
  refine safe_get_at permits.lawful fun s holds lasts => ?_
  refine safeAt_ite (fun nothing => ?_) fun _ => (checkTimeout_safe permits).at permits.lawful holds
  obtain ⟨s₀, holds₀, member, before⟩ := since
  exact safeAt_act permits holds (.restore row works_none
    ⟨s₀, holds₀, member, permits.lawful.trans before lasts⟩ nothing) (checkTimeout_safe permits)

theorem setStatus_safe
    (verdict : Verdict C node channelId status settledAmount) :
    Safe C known (modify (·.setStatus channelId status settledAmount) : Op Unit) fun _ => True :=
  safe_act permits fun _ _ _ => .setStatus channelId status settledAmount works_none verdict

theorem setTimedOutAttempts_safe :
    Safe C known (setTimedOutAttempts channelId attempts) fun _ => True :=
  safe_quiet permits fun _ => .of_eq rfl ⟨0⟩ fun _ _ => rfl

theorem retryTimedOutClose_safe : Safe C known (retryTimedOutClose node row) fun _ => True := by
  refine safe_read permits fun s _ _ => safe_ite (fun _ => safe_pure trivial) fun _ => ?_
  refine .bind (getSession_safe permits) fun session read => safe_read permits fun s _ _ => ?_
  cases session with
  | error => exact setStatus_safe permits .givenUp
  | ok onChain =>
    have read := read onChain rfl
    dsimp only
    split
    next settled =>
      exact safe_then (setStatus_safe permits (.readSettled onChain read settled))
        (setTimedOutAttempts_safe permits)
    next missing =>
      exact safe_then (setStatus_safe permits (.readMissing onChain read missing))
        (setTimedOutAttempts_safe permits)
    next timeout =>
      exact safe_then (setStatus_safe permits (.readTimeout onChain read timeout))
        (setTimedOutAttempts_safe permits)
    · exact setStatus_safe permits .givenUp
    · refine .bind (submitClose_safe permits works_none) fun result closed => ?_
      cases result with
      | closed amount =>
        exact safe_then (setStatus_safe permits (.closed amount (closed amount rfl)))
          (setTimedOutAttempts_safe permits)
      | failed =>
        refine safe_then ?_ (setStatus_safe permits .givenUp)
        exact safe_ite (fun _ => setTimedOutAttempts_safe permits) fun _ => safe_pure trivial

theorem checkTimeouts_safe {batch : List Hex} :
    Safe C known (checkTimeouts node batch) fun _ => True := by
  refine safe_then (safe_awaited permits (checkOneOffChannels_safe permits)) ?_
  refine safe_read permits fun s holds _ => safe_then ?_ ?_
  · refine safe_forEach fun row listed => checkTimeoutRestored_safe permits ?_
    exact ⟨s, holds, ChannelStore.mem_of_getActiveChannels listed, permits.lawful.refl s⟩
  · exact safe_read permits fun _ _ _ => safe_forEach fun _ _ => retryTimedOutClose_safe permits

theorem drainRequests_safe {drainDeadline : Nat} (polls : Nat) :
    Safe C known (drainRequests buyerPeerId drainDeadline polls) fun _ => True := by
  induction polls generalizing known with
  | zero => exact safe_pure trivial
  | succ polls ih =>
    refine safe_read permits fun s _ _ => safe_ite (fun _ => ?_) fun _ => safe_pure trivial
    exact .bind (safe_plain permits rfl) fun _ _ => ih

theorem closeIdleSession_safe :
    Safe C known (closeIdleSession node buyerPeerId channelId) fun _ => True := by
  refine safe_read permits fun s _ _ => safe_ite (fun _ => safe_pure trivial) fun _ => ?_
  refine safe_ite (fun _ => safe_awaited permits (settleSession_safe permits serves_none)) fun _ => ?_
  refine .bind (getSession_safe permits) fun session _ => ?_
  cases session with
  | error => exact safe_pure trivial
  | ok =>
    refine safe_ite (fun _ => ?_) fun _ => safe_pure trivial
    exact safe_awaited permits (closeWithoutAuth_safe permits works_none)

theorem setIdleClose_safe :
    Safe C known (setIdleClose channelId pending) fun _ => True :=
  safe_quiet permits fun _ => .of_eq rfl ⟨0⟩ fun _ _ => rfl

theorem closeSessionWhenIdle_safe :
    Safe C known (closeSessionWhenIdle node buyerPeerId) fun _ => True := by
  refine safe_read permits fun s _ _ => ?_
  split
  · exact safe_pure trivial
  · refine safe_ite (fun _ => safe_pure trivial) fun _ => safe_then (setIdleClose_safe permits) ?_
    exact safe_then (drainRequests_safe permits 3600)
      (safe_then (closeIdleSession_safe permits) (setIdleClose_safe permits))

theorem blockChannelForBuyer_safe :
    Safe C known (blockChannelForBuyer node buyerPeerId) fun _ => True := by
  refine safe_read permits fun s _ _ => ?_
  split
  · exact safe_pure trivial
  · refine safe_ite (fun _ => safe_pure trivial) fun _ => ?_
    exact safe_then (blockChannel_safe permits works_none) (closeSessionWhenIdle_safe permits)

theorem chore_safe {chore : Chore} (plain : chore.serving = none) :
    Safe C known (chore.run node) fun _ => True := by
  cases chore with
  | recordSpend | beginBillableRequest | endBillableRequest | registerOneOffPlan | claimOneOffChannel => cases plain
  | closeOneOffChannel =>
    exact .bind (closeOneOffChannel_safe permits works_none) fun _ _ => safe_pure trivial
  | settleSession =>
    exact settleSession_safe permits serves_none
  | onBuyerDisconnect => exact onBuyerDisconnect_safe permits
  | blockChannelForBuyer => exact blockChannelForBuyer_safe permits
  | closeSessionWhenIdle => exact closeSessionWhenIdle_safe permits
  | validateHydratedChannels => exact validateHydratedChannels_safe permits
  | checkTimeouts => exact checkTimeouts_safe permits
  | pollCloseRequested => exact pollCloseRequested_safe permits
  | elapse ms => exact safe_act permits fun _ _ _ => .elapse ms rfl

end Upkeep

section Restarting

theorem foldl_induction {I : Manager → Prop} {load : Manager → StoredChannel → Manager}
    {rows : List StoredChannel} (loads : ∀ s, ∀ row ∈ rows, I s → I (load s row)) {s : Manager}
    (holds : I s) : I (rows.foldl load s) := by
  induction rows generalizing s with
  | nil => exact holds
  | cons row rows ih =>
    exact ih (fun s later member => loads s later (List.mem_cons_of_mem row member))
      (loads s row List.mem_cons_self holds)

/-- What holds of a manager that has only its rows, and is kept as each row is taken over, holds of a
    manager that has started. -/
theorem hydrate_induction {I : Manager → Prop} {store : ChannelStore} {now : Nat}
    (opened : I { store := store, now := now })
    (session : ∀ s row, row ∈ store.getActiveChannels .paid → I s → I (s.hydrateSession row))
    (oneOff : ∀ s row, row ∈ store.getActiveChannels .oneOff → I s → I (s.hydrateOneOff row)) :
    I (Manager.hydrate store now) :=
  foldl_induction (fun s row member => oneOff s row member)
    (foldl_induction (fun s row member => session s row member) opened)

theorem store_hydrate {store : ChannelStore} {now : Nat} : (Manager.hydrate store now).store = store :=
  @hydrate_induction (fun s => s.store = store) store now rfl (fun _ _ _ same => same)
    fun _ _ _ same => same

end Restarting

variable {node : Node} {contract : Option PeerId → Contract Manager Wait Reply}
  {invariant : Manager → Prop} {lasts : Manager → Manager → Prop} {process : Process} {event : Event}

/-- The step goes on only from what its await promises. -/
def Process.Resumes (contract : Option PeerId → Contract Manager Wait Reply) (process : Process) :
    Event → Prop
  | .resume n reply => ∀ task ∈ process.tasks[n]?, process.state.answers task.label = true →
      (contract task.owner).resumes task.label reply process.state
  | .spendingAuth _ _ => True
  | .closeChannelRequest _ _ => True
  | .chore _ => True
  | .restart => True

theorem resumes_of_always (always : ∀ owner label reply s, (contract owner).resumes label reply s) :
    process.Resumes contract event := by
  cases event with
  | resume n reply => exact fun task _ _ => always task.owner task.label reply process.state
  | spendingAuth | closeChannelRequest | chore | restart => trivial

/-- The tasks that are left when a step takes one out to go on. -/
def Process.remaining (process : Process) : Event → List (Task Manager Wait Reply (Option PeerId))
  | .resume n _ => if process.ready n then process.tasks.eraseIdx n else process.tasks
  | .spendingAuth _ _ => process.tasks
  | .closeChannelRequest _ _ => process.tasks
  | .chore _ => process.tasks
  | .restart => []

/-- The reply a step goes on with, and what was waited for. -/
def Process.report (process : Process) : Event → List (Wait × Reply)
  | .resume n reply =>
    if process.ready n then (process.tasks[n]?).toList.map fun task => (task.label, reply) else []
  | .spendingAuth _ _ => []
  | .closeChannelRequest _ _ => []
  | .chore _ => []
  | .restart => []

/-- Everything a run has heard. -/
def heard (node : Node) (events : List Event) : List (Wait × Reply) :=
  (machine node).log Process.report .start events

/-- It was waited for this, and this came back. -/
abbrev Logged (log : List (Wait × Reply)) (label : Wait) (reply : Reply) : Prop := (label, reply) ∈ log

theorem task_of_report {entry : Wait × Reply} (reported : entry ∈ process.report event) :
    ∃ n task, event = .resume n entry.2 ∧ process.tasks[n]? = some task ∧ entry.1 = task.label := by
  cases event with
  | resume n =>
    dsimp only [Process.report] at reported
    split at reported
    · obtain ⟨task, found, rfl⟩ := List.mem_map.mp reported
      exact ⟨n, task, rfl, Option.mem_toList.mp found, rfl⟩
    · cases reported
  | spendingAuth | closeChannelRequest | chore | restart => cases reported

theorem resumes_of_report
    (known : ∀ owner, ∀ entry ∈ process.report event,
      (contract owner).resumes entry.1 entry.2 process.state) : process.Resumes contract event := by
  cases event with
  | resume n reply =>
    intro task found answered
    refine known task.owner (task.label, reply) ?_
    have ready : process.ready n = true := by
      simpa [Process.ready, Option.mem_def.mp found] using answered
    simp [Process.report, ready, Option.mem_def.mp found]
  | spendingAuth | closeChannelRequest | chore | restart => trivial

theorem runs_of_safe {owner : Option PeerId} {x : Op Unit} {s : Manager}
    (lawful : (contract owner).Lawful) (holds : (contract owner).invariant s)
    (safe : Safe (contract owner) s x fun _ => True) : Runs contract owner x s s :=
  (safe s s holds (lawful.idle s) (lawful.refl s)).mono fun _ _ _ done => ⟨done.1, done.2.1⟩

theorem Process.step_serving (serving : chore.serving = some write) :
    process.step node (.chore chore) = { process with state := write process.state } := by
  cases chore with
  | recordSpend | beginBillableRequest | endBillableRequest | registerOneOffPlan | claimOneOffChannel => cases serving; rfl
  | _ => cases serving

theorem Process.step_sound (shared : Shared contract invariant lasts)
    (permits : ∀ owner, Permits (contract owner) node owner)
    (sound : process.Sound contract invariant) (resumes : process.Resumes contract event)
    (plain : event.isServing = false) (on : event ≠ .restart) :
    (process.step node event).Sound contract invariant ∧
      Pool.Stretch { process with tasks := process.remaining event } (process.step node event)
        (contract (event.sender process)) := by
  have holds : ∀ owner, (contract owner).invariant process.state := fun owner => by
    rw [shared.invariant]
    exact sound.holds
  cases event with
  | spendingAuth =>
    dsimp only [Process.step, Event.sender, Process.remaining]
    refine sound.advance shared (runs_of_safe (shared.lawful _) (holds _) ?_)
    exact .bind (handleSpendingAuth_safe (permits _) rfl) fun _ _ => safe_pure trivial
  | closeChannelRequest =>
    refine sound.advance shared (runs_of_safe (shared.lawful _) (holds _) ?_)
    exact .bind (handleCloseChannelRequest_safe (permits _) rfl) fun _ _ => safe_pure trivial
  | chore =>
    rw [Event.isServing, Option.isSome_eq_false_iff, Option.isNone_iff_eq_none] at plain
    exact sound.advance shared (runs_of_safe (shared.lawful _) (holds _) (chore_safe (permits _) plain))
  | resume n reply =>
    simp only [Process.remaining, Process.step, Event.sender]
    cases found : process.tasks[n]? with
    | none =>
      have idle : process.resume n reply = process := by simp [Pool.resume, found]
      have none_left : process.tasks.eraseIdx n = process.tasks :=
        List.eraseIdx_of_length_le (List.getElem?_eq_none_iff.mp found)
      simp only [idle, none_left, ite_self]
      exact ⟨sound, (shared.lawful _).idle _, .inl rfl⟩
    | some task =>
      have ready : process.ready n = process.state.answers task.label := by
        simp [Process.ready, found]
      rw [ready]
      cases answered : process.state.answers task.label with
      | false => exact ⟨sound, (shared.lawful _).idle _, .inl rfl⟩
      | true => exact sound.resume shared found (resumes task found answered)
  | restart => exact absurd rfl on

end AntSeed.Seller
