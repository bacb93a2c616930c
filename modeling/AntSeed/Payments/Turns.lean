import AntSeed.Payments.Lifecycle

/-! # The life of a channel

Every call changes a channel by a few kinds of turn: it is opened, spends, gets a
higher ceiling, is asked to close, and ends. What a turn cannot do, no run does:
parties never change, an ended channel is never touched again, and an id is
opened only once.
-/

namespace AntSeed.Payments

open Evm
open Relation (ReflTransGen)
open Function

/-- One change of a channel, made by `sender` at time `now`. -/
inductive Turn (now : Nat) (sender : Address) : Channel → Channel → Prop where
  /-- `reserve` on an id without a channel -/
  | opened {c : Channel} (buyer : Address) (deposit deadline : Nat) : c.status = .none →
      deposit < 2 ^ 128 → Turn now sender c {
        buyer := buyer, seller := sender, deposit := deposit, settled := 0, metadataHash := 0,
        deadline := deadline, settledAt := 0, closeRequestedAt := 0, status := .active }
  /-- the delta of `settle`, `close` or `topUp` -/
  | spent {c : Channel} (amount : Nat) (hash : Word) : c.status = .active → sender = c.seller →
      c.settled < amount → amount ≤ c.deposit →
      Turn now sender c { c with settled := amount, metadataHash := hash, settledAt := now }
  /-- the new ceiling of `topUp` -/
  | raised {c : Channel} (deposit deadline : Nat) : c.status = .active → sender = c.seller →
      c.closeRequestedAt = 0 → c.deposit < deposit → deposit < 2 ^ 128 →
      Turn now sender c { c with deposit := deposit, deadline := deadline }
  /-- `requestClose` -/
  | requested {c : Channel} : c.status = .active → c.closeRequestedAt = 0 →
      Turn now sender c { c with closeRequestedAt := now }
  /-- the end, by `close` or by `withdraw` -/
  | finished {c : Channel} (status : ChannelStatus) : c.status = .active →
      status = .settled ∨ status = .timedOut → Turn now sender c { c with status := status }

/-- What one call does to one channel. -/
abbrev Turns (now : Nat) (sender : Address) : Channel → Channel → Prop :=
  ReflTransGen (Turn now sender)

namespace State

variable {r : Deployment} {s : State} {ext : External} {sender : Address} {id : Word}

/-- Any revert: for lemmas that are only about results. -/
abbrev Anything (_ : Revert Error) : Prop := True

variable {amount : Nat} {metadata : List UInt8} {sig : Signature}

theorem settleSpend_channel (above : (s.channel id).settled < amount) :
    Meets (s.settleSpend r ext id amount metadata sig) Anything fun s' =>
      s'.channel id = { s.channel id with
        settled := amount, metadataHash := r.keccak256 metadata, settledAt := s.now } := by
  apply Meets.check trivial
  refine .sub (Nat.le_of_lt above) ?_
  refine .ite (fun none => by omega) fun _ => ?_
  apply Meets.uint trivial
  intro _
  refine .bind (recordVolume_meets.weaken fun _ _ => trivial) fun s' recorded => ?_
  obtain ⟨stats, rfl⟩ := recorded
  refine .external trivial ?_
  refine .bind (Q := fun _ => True) ?_ fun _ _ => ?_
  · cases Deposits.chargeAndCreditPayouts r _ _ _ _ _ _ _ _ _ <;> trivial
  · exact .pure (by simp [channel, setChannel])

theorem settleSpend_turns (active : (s.channel id).status = .active)
    (mine : sender = (s.channel id).seller) (above : (s.channel id).settled < amount)
    (within : amount ≤ (s.channel id).deposit) :
    Meets (s.settleSpend r ext id amount metadata sig) Anything fun s' =>
      Turn s.now sender (s.channel id) (s'.channel id) := by
  refine (settleSpend_channel above).mono fun s' written => ?_
  rw [written]
  exact .spent amount _ active mine above within

theorem finish_channel :
    Meets (s.finish r ext id status ghost remaining) Anything fun s' =>
      s'.channel id = { s.channel id with status := status } := by
  refine .bind (Q := fun _ => True) ?_ fun count _ => ?_
  · cases sub (ε := Error) _ 1 <;> trivial
  refine .bind (recordFinish_meets.weaken fun _ _ => trivial) fun s' recorded => ?_
  obtain ⟨stats, rfl⟩ := recorded
  refine .ite (fun _ => ?_) fun _ => Meets.pure (by simp [channel, setChannel, setActiveCount])
  refine .bind (Q := fun _ => True) ?_ fun _ _ => ?_
  · cases Deposits.releaseLock r _ _ _ _ <;> trivial
  · exact .pure (by simp [channel, setChannel, setActiveCount])

theorem reserve_turns
    (named : r.computeChannelId buyer sender salt = id) :
    Meets (s.reserve r ext sender buyer salt maxAmount deadline sig) Anything fun s' =>
      Turns s.now sender (s.channel id) (s'.channel id) := by
  subst named
  apply Meets.decode trivial
  intro fits
  apply Meets.check trivial
  apply Meets.check trivial
  apply Meets.check trivial
  apply Meets.check trivial
  apply Meets.require trivial
  intro fresh
  apply Meets.check trivial
  apply Meets.check trivial
  apply Meets.uint trivial
  intro _
  refine .bind (Q := fun _ => True) ?_ fun deposits _ => Meets.pure ?_
  · cases Deposits.lockForChannel r _ _ _ _ _ <;> trivial
  · have turn : Turn s.now sender _ _ := .opened buyer maxAmount deadline fresh fits
    exact .single (by simpa [channel, setChannel, setActiveCount] using turn)

theorem topUp_turns :
    Meets (s.topUp r ext sender id amount metadata spendingSig newMaxAmount deadline reserveSig)
      Anything fun s' => Turns s.now sender (s.channel id) (s'.channel id) := by
  apply Meets.decode trivial
  intro _
  apply Meets.decode trivial
  intro fits
  apply Meets.check trivial
  apply Meets.require trivial
  intro active
  apply Meets.require trivial
  intro mine
  apply Meets.require trivial
  intro notRequested
  apply Meets.check trivial
  apply Meets.require trivial
  intro higher
  -- a turn of the settlement leaves everything the raise reads as it was
  refine .bind (Q := fun s' => Turns s.now sender (s.channel id) (s'.channel id) ∧
    (s'.channel id).status = .active ∧ sender = (s'.channel id).seller ∧
    (s'.channel id).closeRequestedAt = 0 ∧ (s'.channel id).deposit < newMaxAmount) ?_ ?_
  · refine .ite (fun above => ?_) fun _ =>
      Meets.pure ⟨.refl, active, mine, notRequested, higher⟩
    apply Meets.require trivial
    intro within
    refine (settleSpend_channel above).mono fun s' written => ?_
    rw [written]
    exact ⟨.single (.spent amount _ active mine above within), active, mine, notRequested, higher⟩
  · rintro s' ⟨turns, active, mine, notRequested, higher⟩
    apply Meets.uint trivial
    intro _
    apply Meets.check trivial
    apply Meets.check trivial
    refine .sub (Nat.le_of_lt higher) ?_
    refine .bind (Q := fun _ => True) ?_ fun deposits _ => Meets.pure ?_
    · cases Deposits.lockForChannel r _ _ _ _ _ <;> trivial
    · rw [setChannel_channel]
      exact turns.tail (.raised newMaxAmount deadline active mine notRequested higher fits)

theorem settle_turns :
    Meets (s.settle r ext sender id amount metadata sig) Anything fun s' =>
      Turns s.now sender (s.channel id) (s'.channel id) := by
  apply Meets.decode trivial
  intro _
  apply Meets.check trivial
  apply Meets.require trivial
  intro active
  apply Meets.require trivial
  intro mine
  apply Meets.require trivial
  intro above
  apply Meets.require trivial
  intro within
  exact (settleSpend_turns active mine above within).mono fun s' turn => .single turn

theorem close_turns :
    Meets (s.close r ext sender id amount metadata sig) Anything fun s' =>
      Turns s.now sender (s.channel id) (s'.channel id) := by
  apply Meets.decode trivial
  intro _
  apply Meets.check trivial
  apply Meets.require trivial
  intro active
  apply Meets.require trivial
  intro mine
  apply Meets.check trivial
  apply Meets.require trivial
  intro within
  refine .bind (Q := fun s' => Turns s.now sender (s.channel id) (s'.channel id) ∧
    (s'.channel id).status = .active) ?_ ?_
  · refine .ite (fun above => ?_) fun _ => Meets.pure ⟨.refl, active⟩
    refine (settleSpend_channel above).mono fun s' written => ?_
    rw [written]
    exact ⟨.single (.spent amount _ active mine above within), active⟩
  · rintro s' ⟨turns, active⟩
    refine .bind (Q := fun _ => True) ?_ fun unsettled _ => ?_
    · cases sub (ε := Error) _ _ <;> trivial
    · refine finish_channel.mono fun s'' written => ?_
      rw [written]
      exact turns.tail (.finished .settled active (.inl rfl))

theorem requestClose_turns :
    Meets (s.requestClose sender id) Anything fun s' =>
      Turns s.now sender (s.channel id) (s'.channel id) := by
  apply Meets.require trivial
  intro active
  apply Meets.check trivial
  apply Meets.require trivial
  intro notRequested
  apply Meets.uint trivial
  intro _
  refine .pure ?_
  rw [setChannel_channel]
  exact .single (.requested active notRequested)

theorem withdraw_turns :
    Meets (s.withdraw r ext sender id) Anything fun s' =>
      Turns s.now sender (s.channel id) (s'.channel id) := by
  apply Meets.require trivial
  intro active
  apply Meets.check trivial
  apply Meets.check trivial
  apply Meets.uint trivial
  intro _
  apply Meets.check trivial
  refine .bind (Q := fun _ => True) ?_ fun remaining _ => ?_
  · cases sub (ε := Error) _ _ <;> trivial
  · refine finish_channel.mono fun s' written => ?_
    rw [written]
    exact .single (.finished .timedOut active (.inr rfl))

end State

theorem step_turns (sound : s.Sound)
    (taken : step r s call = .ok s') (id : Word) :
    Turns s.now call.sender (s.channel id) (s'.channel id) := by
  have effect := ((step_meets sound call).result taken).2
  unfold Effect at effect
  split at effect
  next x about =>
    obtain ⟨spent, moved⟩ := effect
    by_cases h : id = x
    · subst h
      obtain ⟨-, -, taken⟩ := ran taken
      obtain ⟨sender, ext, op⟩ := call
      cases op with
      | reserve =>
        exact (State.reserve_turns (Option.some.inj about)).result taken
      | topUp =>
        cases about
        exact State.topUp_turns.result taken
      | settle =>
        cases about
        exact State.settle_turns.result taken
      | close =>
        cases about
        exact State.close_turns.result taken
      | requestClose =>
        cases about
        exact State.requestClose_turns.result taken
      | withdraw =>
        cases about
        exact State.withdraw_turns.result taken
      | _ => cases about
    · rw [moved.others id h]
  · have same : s'.channel id = s.channel id := congrFun effect.1 id
    rw [same]

/-- A channel that may come after another one under the same id. -/
structure Channel.Before (c c' : Channel) : Prop where
  /-- once opened, always opened, by the same two parties -/
  parties : c.status ≠ .none → c'.status ≠ .none ∧ c'.buyer = c.buyer ∧ c'.seller = c.seller
  /-- the end is the end -/
  ended : c.status = .settled ∨ c.status = .timedOut → c' = c

namespace Channel.Before

variable {c c' c'' : Channel}

theorem refl (c : Channel) : c.Before c := ⟨fun opened => ⟨opened, rfl, rfl⟩, fun _ => rfl⟩

theorem trans (first : c.Before c') (second : c'.Before c'') : c.Before c'' := by
  constructor
  · intro opened
    obtain ⟨opened', buyer, seller⟩ := first.parties opened
    obtain ⟨opened'', buyer', seller'⟩ := second.parties opened'
    exact ⟨opened'', buyer'.trans buyer, seller'.trans seller⟩
  · intro ended
    have same := first.ended ended
    subst same
    exact second.ended ended

variable {sender : Address}

theorem of_turn (turn : Turn now sender c c') : c.Before c' := by
  cases turn with
  | opened buyer deposit deadline fresh => constructor <;> simp [fresh]
  | spent amount hash active => constructor <;> simp [active]
  | raised deposit deadline active => constructor <;> simp [active]
  | requested active => constructor <;> simp [active]
  | finished status active ends => constructor <;> rcases ends with rfl | rfl <;> simp [active]

theorem of_turns (turns : Turns now sender c c') : c.Before c' := by
  induction turns with
  | refl => exact refl c
  | tail _ turn ih => exact ih.trans (of_turn turn)

end Channel.Before

theorem before_run {r : Deployment} {s : State} (sound : s.Sound) (id : Word) (calls : List Call) :
    (s.channel id).Before (((machine r).run s calls).channel id) :=
  (machine r).run_progress (R := fun s s' => (s.channel id).Before (s'.channel id))
    (fun _ => .refl _) .trans (fun _ _ _ sound taken => step_sound sound taken)
    (fun _ _ _ sound taken => .of_turns (step_turns sound taken id)) sound calls

theorem reserve_refused {r : Deployment} {s : State} {buyer sender : Address} {salt : Word}
    (opened : (s.channel (r.computeChannelId buyer sender salt)).status ≠ .none) (ext : External)
    (maxAmount deadline : Nat) (sig : Signature) (s' : State) :
    step r s ⟨sender, ext, .reserve buyer salt maxAmount deadline sig⟩ ≠ .ok s' := by
  intro taken
  have refused : Meets (step r s ⟨sender, ext, .reserve buyer salt maxAmount deadline sig⟩)
      State.Anything fun _ => False := by
    apply Meets.check trivial
    apply Meets.decode trivial
    intro _
    apply Meets.check trivial
    apply Meets.check trivial
    apply Meets.check trivial
    apply Meets.check trivial
    exact .require trivial fun fresh => absurd fresh opened
  exact refused.result taken

/-- For every run and every channel: from the reserve that created it on its parties stay
    and its id cannot be reserved again; once it has ended no field of it ever changes, its
    status and its money included; and every seller's count of active channels is the
    number of them, so no call fails for an underflow. -/
theorem channel_lifecycle (r : Deployment) (now : Nat) (calls later : List Call) :
    (∀ id, ((run r now calls).channel id).status ≠ .none →
      ((run r now (calls ++ later)).channel id).status ≠ .none ∧
      ((run r now (calls ++ later)).channel id).buyer = ((run r now calls).channel id).buyer ∧
      ((run r now (calls ++ later)).channel id).seller = ((run r now calls).channel id).seller ∧
      ∀ buyer sender salt ext maxAmount deadline sig s', r.computeChannelId buyer sender salt = id →
        step r (run r now (calls ++ later))
          ⟨sender, ext, .reserve buyer salt maxAmount deadline sig⟩ ≠ .ok s') ∧
    (∀ id, ((run r now calls).channel id).status = .settled ∨
        ((run r now calls).channel id).status = .timedOut →
      (run r now (calls ++ later)).channel id = (run r now calls).channel id) ∧
    (∀ seller, (run r now calls).channels.activeChannelCount seller =
      (Finset.univ.filter fun id => ((run r now calls).channel id).status = .active ∧
        ((run r now calls).channel id).seller = seller).card) ∧
    ∀ call, step r (run r now calls) call ≠ .error .underflow := by
  have sound := run_sound r now calls
  have longer : run r now (calls ++ later) = (machine r).run (run r now calls) later :=
    (machine r).run_append _ _ _
  have before : ∀ id, ((run r now calls).channel id).Before
      ((run r now (calls ++ later)).channel id) := by
    intro id
    rw [longer]
    exact before_run sound id later
  refine ⟨fun id opened => ?_, fun id => (before id).ended, fun seller => ?_, fun call failed => ?_⟩
  · obtain ⟨still, buyer, seller⟩ := (before id).parties opened
    refine ⟨still, buyer, seller, ?_⟩
    rintro buyer sender salt ext maxAmount deadline sig s' rfl
    exact reserve_refused still ext maxAmount deadline sig s'
  · rw [Finset.card_filter]
    exact sound.locked.counted seller
  · exact (step_meets sound call).reason failed rfl

end AntSeed.Payments
