import AntSeed.Pools.Slashes

/-! # The quoted exit penalty

The view reads the end of the lock in the record of the position, a withdrawal in
its history. The two agree whenever a withdrawal can succeed, and as long as nobody
touches a position its penalty can only shrink.
-/

namespace AntSeed.Pools

open Evm Function Nat

theorem windowSlashBps_antitone (later : epoch ≤ epoch') :
    windowSlashBps maxSlashBps minSlashBps begins ends epoch' ≤
      windowSlashBps maxSlashBps minSlashBps begins ends epoch := by
  unfold windowSlashBps
  split
  · exact zero_le _
  next running =>
    rw [if_neg (by omega)]
    apply max_le_max (le_refl _)
    exact Nat.div_le_div_right (Nat.mul_le_mul_left _ (by omega))

theorem windowSlashBps_le {maxSlashBps minSlashBps begins ends epoch : Nat}
    (least : minSlashBps ≤ maxSlashBps) (begun : begins ≤ epoch) :
    windowSlashBps maxSlashBps minSlashBps begins ends epoch ≤ maxSlashBps := by
  unfold windowSlashBps
  split
  · exact zero_le _
  · apply max_le least
    exact Nat.div_le_of_le_mul (Nat.mul_comm _ _ ▸ Nat.mul_le_mul_right _ (by omega))

namespace SellerPools

variable {c first : Nat} {s s' : SellerPools}

def Dated (s : SellerPools) : Prop :=
  ∀ q, (s.positionNormalEndEpoch q).latest ≠ 0 →
    (s.positions q).stakeEndEpoch = (s.positionNormalEndEpoch q).latest

variable {epoch q : Nat} {amounts : Nat × Nat} {staker : Address}

theorem Rewritten.dated {position : Position} {ends locks : Trace}
    (rewritten : Rewritten s s' q position ends locks) (dated : s.Dated)
    (recorded : ends.latest ≠ 0 → position.stakeEndEpoch = ends.latest) : s'.Dated := by
  intro x
  rw [rewritten.positions, rewritten.ends]
  by_cases here : x = q
  · subst here
    rwa [update_self, update_self]
  · rw [update_of_ne here, update_of_ne here]
    exact dated x

theorem Change.dated (change : Change c first s s') (dated : s.Dated) : s'.Dated := by
  cases change
  case quiet quiet =>
    intro x
    obtain ⟨owner, same⟩ := quiet.terms x
    rw [quiet.ends, same]
    exact dated x
  case opened pushed rewritten _ _ _ _ _ _ _ recorded =>
    exact rewritten.dated dated fun _ => by rw [recorded, Trace.latest_push pushed]
  case closed rewritten _ _ _ =>
    exact rewritten.dated dated (dated _)
  case extended inside pushed rewritten _ _ _ =>
    apply rewritten.dated dated
    rw [Trace.latest_push pushed]
    exact fun _ => mod_of_inside inside
  case enabled pushedEnd _ rewritten _ _ _ =>
    apply rewritten.dated dated
    rw [Trace.latest_push pushedEnd]
    exact fun some => absurd rfl some
  case disabled inside pushedEnd _ rewritten _ _ _ =>
    apply rewritten.dated dated
    rw [Trace.latest_push pushedEnd]
    exact fun _ => mod_of_inside inside

theorem Changes.dated (changes : Changes c first s s') (dated : s.Dated) : s'.Dated := by
  induction changes with
  | refl => exact dated
  | tail _ last ih => exact last.dated ih

theorem withdrawPosition_settled (h : s.withdrawPosition q staker epoch = .ok (s', amounts)) :
    let closeEpoch := max epoch (s.positions q).stakeStartEpoch
    (s.positions q).owner ≠ 0 ∧
    (s.positionMaxLockPower q).upperLookupRecent closeEpoch = 0 ∧
    (s.positionNormalEndEpoch q).upperLookupRecent (closeEpoch + 1) =
      (s.positionNormalEndEpoch q).upperLookupRecent closeEpoch := by
  obtain ⟨_, isOwner, h⟩ := ran h
  replace h := rest_ok h
  replace h := rest_ok h
  replace h := rest_ok h
  obtain ⟨_, unlocked, h⟩ := ran h
  replace h := uint_rest h
  replace h := rest_ok h
  replace h := rest_ok h
  obtain ⟨_, settled, -⟩ := ran h
  rw [require_eq_ok] at unlocked settled
  have close : (if epoch < (s.positions q).stakeStartEpoch then (s.positions q).stakeStartEpoch
      else epoch) = max epoch (s.positions q).stakeStartEpoch := by
    split <;> omega
  rw [close] at unlocked settled
  exact ⟨(requirePositionOwner_eq_ok isOwner).1, unlocked, settled⟩

theorem latest_of_settled (timed : Timed c s) (present : c ≤ epoch)
    (reached : (s.positions q).stakeStartEpoch ≤ epoch)
    (settled : (s.positionNormalEndEpoch q).upperLookupRecent (epoch + 1) =
      (s.positionNormalEndEpoch q).upperLookupRecent epoch) {k : Nat} (later : epoch ≤ k) :
    (s.positionNormalEndEpoch q).upperLookupRecent k = (s.positionNormalEndEpoch q).latest := by
  have known := (timed q).endsKnown
  rcases eq_or_lt_of_le later with rfl | after
  · rw [← settled]
    exact Trace.lookup_of_within known (by omega)
  · exact Trace.lookup_of_within known (by omega)

theorem earlyExitSlashBps_eq (timed : Timed epoch s) (dated : s.Dated)
    (h : s.withdrawPosition q staker epoch = .ok (s', amounts)) :
    s.earlyExitSlashBps epoch q = s.exitSlashBps q epoch := by
  obtain ⟨present, unlocked, settled⟩ := withdrawPosition_settled h
  obtain ⟨due, ending, -⟩ := withdrawPosition_slash h
  have latest := latest_of_settled timed (le_max_left _ _) (le_max_right _ _) settled
    (le_refl _)
  have recorded : (s.positions q).stakeEndEpoch =
      (s.positionNormalEndEpoch q).upperLookupRecent (max epoch (s.positions q).stakeStartEpoch) := by
    rw [latest]
    exact dated q (latest ▸ ending)
  have close : (if epoch < (s.positions q).stakeStartEpoch then (s.positions q).stakeStartEpoch
      else epoch) = max epoch (s.positions q).stakeStartEpoch := by
    split <;> omega
  unfold earlyExitSlashBps exitSlashBps
  dsimp only
  rw [close, recorded, (require_eq_ok (u := ())).mpr present, ok_bind,
    (require_eq_ok (u := ())).mpr due, ok_bind, if_neg (fun locked => locked unlocked)]
  by_cases spent : (s.positionNormalEndEpoch q).upperLookupRecent
      (max epoch (s.positions q).stakeStartEpoch) ≤ max epoch (s.positions q).stakeStartEpoch
  · rw [if_pos spent, if_neg (not_lt.mpr spent)]
  · rw [if_neg spent, if_pos (Nat.lt_of_not_le spent)]

/-- Nothing that the exit of a position depends on has changed. -/
structure Untouched (s s' : SellerPools) (q : Nat) : Prop where
  amount : (s'.positions q).amount = (s.positions q).amount
  start : (s'.positions q).stakeStartEpoch = (s.positions q).stakeStartEpoch
  starts : s'.positionNormalStartEpoch q = s.positionNormalStartEpoch q
  ends : s'.positionNormalEndEpoch q = s.positionNormalEndEpoch q
  most : s'.maxSlashBps = s.maxSlashBps
  least : s'.minEarlyExitSlashBps = s.minEarlyExitSlashBps

theorem Untouched.of_same (same : s' = s) : Untouched s s' q := by
  rw [same]
  exact ⟨rfl, rfl, rfl, rfl, rfl, rfl⟩

/-- The slash of the window of a position, as an exit in the given epoch reads it. -/
def quotedSlashBps (s : SellerPools) (q epoch : Nat) : Nat :=
  let closeEpoch := max epoch (s.positions q).stakeStartEpoch
  windowSlashBps s.maxSlashBps s.minEarlyExitSlashBps
    ((s.positionNormalStartEpoch q).upperLookupRecent closeEpoch)
    ((s.positionNormalEndEpoch q).upperLookupRecent closeEpoch) closeEpoch

theorem Untouched.quotedSlashBps (untouched : Untouched s s' q) (epoch : Nat) :
    s'.quotedSlashBps q epoch = s.quotedSlashBps q epoch := by
  unfold SellerPools.quotedSlashBps
  rw [untouched.start, untouched.starts, untouched.ends, untouched.most, untouched.least]

/-- Waiting never makes the exit of a position without pending changes dearer: from the next epoch
    on its lock either began when it did before, has gone, or was renewed in full, and the last would
    show in the end of the lock. -/
theorem quotedSlashBps_antitone {q epoch epoch' : Nat} (timed : Timed epoch s)
    (settled : (s.positionNormalEndEpoch q).upperLookupRecent
        (max epoch (s.positions q).stakeStartEpoch + 1) =
      (s.positionNormalEndEpoch q).upperLookupRecent (max epoch (s.positions q).stakeStartEpoch))
    (later : epoch ≤ epoch') : s.quotedSlashBps q epoch' ≤ s.quotedSlashBps q epoch := by
  unfold quotedSlashBps
  dsimp only
  have reached : (s.positions q).stakeStartEpoch ≤ max epoch (s.positions q).stakeStartEpoch :=
    le_max_right _ _
  have present : epoch ≤ max epoch (s.positions q).stakeStartEpoch := le_max_left _ _
  have after : max epoch (s.positions q).stakeStartEpoch ≤ max epoch' (s.positions q).stakeStartEpoch :=
    by omega
  generalize max epoch (s.positions q).stakeStartEpoch = close at *
  generalize max epoch' (s.positions q).stakeStartEpoch = close' at *
  have end_eq : (s.positionNormalEndEpoch q).upperLookupRecent close' =
      (s.positionNormalEndEpoch q).upperLookupRecent close := by
    rw [latest_of_settled timed present reached settled after,
      latest_of_settled timed present reached settled (le_refl _)]
  rw [end_eq]
  rcases eq_or_lt_of_le after with rfl | waited
  · exact le_refl _
  · have start_eq : (s.positionNormalStartEpoch q).upperLookupRecent close' =
        (s.positionNormalStartEpoch q).upperLookupRecent (close + 1) :=
      Trace.lookup_const ((timed q).startsKnown.mono (by omega)) (by omega)
    have bound := (timed q).bound close reached
    rw [start_eq]
    rcases (timed q).renewed close reached with same | gone | renewed
    · rw [same]
      exact windowSlashBps_antitone after
    · rw [gone]
      unfold windowSlashBps
      rw [if_pos (.inl rfl)]
      exact zero_le _
    · omega

end SellerPools

/-- What holds of every reachable state, with the recorded ends. -/
structure Quoted (s : State) : Prop extends Intact s where
  dated : s.pools.Dated

theorem step_quoted (quoted : Quoted s)
    (taken : step self s event = .ok s') : Quoted s' := by
  refine ⟨(step_intact quoted.toIntact taken).1, ?_⟩
  rcases step_changes quoted.sound taken with ⟨call, -, -, changes⟩ | ⟨same, -, -⟩
  · exact changes.dated quoted.dated
  · rw [same]
    exact quoted.dated

theorem run_quoted (self : Address) {s : State} (quoted : Quoted s) (events : List Event) :
    Quoted ((machine self).run s events) :=
  (machine self).run_invariant (fun _ _ _ quoted taken => step_quoted quoted taken) quoted events

theorem quoted_deployed (owner stakingSource : Address) : Quoted (deployed owner stakingSource) where
  toIntact := intact_deployed owner stakingSource
  dated _ some := absurd rfl some

theorem Quoted.slash {s : State} (quoted : Quoted s) {q : Nat} {staker : Address}
    {closed : SellerPools} {amounts : Nat × Nat}
    (withdrawn : s.pools.withdrawPosition q staker s.epoch = .ok (closed, amounts)) :
    s.pools.exitSlashBps q s.epoch = .ok (s.pools.quotedSlashBps q s.epoch) ∧
      amounts.2 = (s.pools.positions q).amount * s.pools.quotedSlashBps q s.epoch / bpsDenominator := by
  have slash := SellerPools.exitSlashBps_eq quoted.tidy quoted.timed q s.epoch
    quoted.sound.timely (quoted.sound.pools.stamped q)
  obtain ⟨-, -, slashBps, applied, amount⟩ := SellerPools.withdrawPosition_slash withdrawn
  rw [slash] at applied
  cases applied
  exact ⟨slash, amount⟩

theorem withdrawPosition_of_withdrawStake {s : SellerPools} {ants : Erc20} {ctx : Context} {q : Nat}
    {result : SellerPools × Erc20} (h : s.withdrawStake ants ctx q = .ok result) :
    ∃ closed amounts, s.withdrawPosition q ctx.sender ctx.epoch = .ok (closed, amounts) := by
  obtain ⟨⟨closed, amounts⟩, withdrawn, -⟩ := ran h
  exact ⟨closed, amounts, withdrawn⟩

/-- Whenever a position can be withdrawn, the view in the same state quotes what the withdrawal
    slashes. The slash is a part of the principal, nothing once the lock has ended, and never more
    when the same position is withdrawn later under the same settings. -/
theorem quoted_exit_penalty_is_charged (self owner stakingSource : Address) (before : List Event)
    (q : Nat) (ctx : Context) (result : SellerPools × Erc20) :
    let s := run self owner stakingSource before
    ctx.epoch = s.epoch → s.pools.withdrawStake s.ants ctx q = .ok result →
    ∃ closed returned slashed slashBps,
      s.pools.withdrawPosition q ctx.sender s.epoch = .ok (closed, returned, slashed) ∧
      s.pools.earlyExitSlashBps s.epoch q = .ok slashBps ∧
      slashed = (s.pools.positions q).amount * slashBps / bpsDenominator ∧
      slashed ≤ (s.pools.positions q).amount ∧
      ((s.pools.positions q).stakeEndEpoch ≤ s.epoch → slashed = 0) ∧
      ∀ after ctx' result', let s' := (machine self).run s after
        s.pools.Untouched s'.pools q → ctx'.epoch = s'.epoch →
        s'.pools.withdrawStake s'.ants ctx' q = .ok result' →
        ∃ closed' returned' slashed',
          s'.pools.withdrawPosition q ctx'.sender s'.epoch = .ok (closed', returned', slashed') ∧
          slashed' ≤ slashed := by
  intro s sameEpoch withdrawal
  have quoted : Quoted s := run_quoted self (quoted_deployed owner stakingSource) before
  obtain ⟨closed, ⟨returned, slashed⟩, withdrawn⟩ := withdrawPosition_of_withdrawStake withdrawal
  rw [sameEpoch] at withdrawn
  obtain ⟨slash, amount⟩ := quoted.slash withdrawn
  have view := SellerPools.earlyExitSlashBps_eq quoted.timed quoted.dated withdrawn
  obtain ⟨-, -, settled⟩ := SellerPools.withdrawPosition_settled withdrawn
  refine ⟨closed, returned, slashed, _, withdrawn, view.trans slash, amount, ?_, ?_, ?_⟩
  · have most : s.pools.quotedSlashBps q s.epoch ≤ bpsDenominator :=
      (windowSlashBps_le quoted.tidy.bounded.least (quoted.tidy.begun q _)).trans
        quoted.tidy.bounded.slash
    calc slashed = (s.pools.positions q).amount * s.pools.quotedSlashBps q s.epoch / bpsDenominator :=
          amount
      _ ≤ (s.pools.positions q).amount :=
          Nat.div_le_of_le_mul (Nat.mul_comm _ _ ▸ Nat.mul_le_mul_right _ most)
  · intro ended
    obtain ⟨-, ending, -⟩ := SellerPools.withdrawPosition_slash withdrawn
    have latest := SellerPools.latest_of_settled quoted.timed (Nat.le_max_left _ _)
      (Nat.le_max_right _ _) settled (Nat.le_refl _)
    have recorded := quoted.dated q (latest ▸ ending)
    have nothing : s.pools.quotedSlashBps q s.epoch = 0 := by
      exact if_pos (.inr (by omega))
    calc slashed = (s.pools.positions q).amount * s.pools.quotedSlashBps q s.epoch /
          bpsDenominator := amount
      _ = 0 := by rw [nothing, Nat.mul_zero, Nat.zero_div]
  · intro after ctx' result' s' untouched sameEpoch' withdrawal'
    have quoted' : Quoted s' := run_quoted self quoted after
    have later : s.epoch ≤ s'.epoch := (run_lasting self quoted.toIntact after).1
    obtain ⟨closed', ⟨returned', slashed'⟩, withdrawn'⟩ :=
      withdrawPosition_of_withdrawStake withdrawal'
    rw [sameEpoch'] at withdrawn'
    obtain ⟨-, amount'⟩ := quoted'.slash withdrawn'
    refine ⟨closed', returned', slashed', withdrawn', ?_⟩
    calc slashed' = (s.pools.positions q).amount * s.pools.quotedSlashBps q s'.epoch /
          bpsDenominator := by
          rw [← untouched.amount, ← untouched.quotedSlashBps]
          exact amount'
      _ ≤ (s.pools.positions q).amount * s.pools.quotedSlashBps q s.epoch / bpsDenominator :=
          Nat.div_le_div_right (Nat.mul_le_mul_left _
            (SellerPools.quotedSlashBps_antitone quoted.timed settled later))
      _ = slashed := amount.symm

theorem ok_of_toBool {ε α : Type} {x : Except ε α} (h : x.toBool = true) : ∃ a, x = .ok a := by
  cases x with
  | error => cases h
  | ok a => exact ⟨a, rfl⟩

theorem elapse_pools (self : Address) (s : State) (epochs : Nat) :
    ((machine self).run s [.elapse epochs]).pools = s.pools := by
  rcases (machine self).exec_cases s (.elapse epochs) with taken | skipped
  · have moved := rest_ok taken
    have after : { s with epoch := s.epoch + epochs } = (machine self).exec s (.elapse epochs) :=
      Except.ok.inj moved
    rw [Machine.run_cons, Machine.run_nil, ← after]
  · exact congrArg State.pools skipped

/-- A call of one account, under which the seller registered. -/
def callOf (op : Operation) : Call where
  sender := ⟨7⟩
  identityOwnerOf := fun _ => some ⟨7⟩
  stakingAgentId := fun _ _ => some ⟨1⟩
  onERC721Received := fun _ => some []
  op := op

/-- A run in which an account stakes for ten epochs and waits. -/
def stakeThenWait : List Event :=
  [.antsMint ⟨7⟩ 1000, .antsApprove ⟨7⟩ ⟨5⟩ 1000, .call (callOf (.stakeFor ⟨7⟩ ⟨1⟩ 1000 10)),
    .elapse 3]

theorem stakeThenWait_quoted :
    ∃ slashBps returned slashed returned' slashed', let s := run ⟨5⟩ ⟨9⟩ ⟨8⟩ stakeThenWait
      let s' := (machine ⟨5⟩).run s [.elapse 2]
      s.pools.earlyExitSlashBps s.epoch 1 = .ok slashBps ∧
      (s.pools.withdrawPosition 1 ⟨7⟩ s.epoch).map Prod.snd = .ok (returned, slashed) ∧
      slashed = (s.pools.positions 1).amount * slashBps / bpsDenominator ∧
      (s'.pools.withdrawPosition 1 ⟨7⟩ s'.epoch).map Prod.snd = .ok (returned', slashed') ∧
      slashed' ≤ slashed := by
  have some : ((run ⟨5⟩ ⟨9⟩ ⟨8⟩ stakeThenWait).pools.withdrawStake
      (run ⟨5⟩ ⟨9⟩ ⟨8⟩ stakeThenWait).ants ((callOf (.withdrawStake 1)).context ⟨5⟩
        (run ⟨5⟩ ⟨9⟩ ⟨8⟩ stakeThenWait).epoch) 1).toBool = true := by decide +kernel
  have some' : (((machine ⟨5⟩).run (run ⟨5⟩ ⟨9⟩ ⟨8⟩ stakeThenWait) [.elapse 2]).pools.withdrawStake
      ((machine ⟨5⟩).run (run ⟨5⟩ ⟨9⟩ ⟨8⟩ stakeThenWait) [.elapse 2]).ants
      ((callOf (.withdrawStake 1)).context ⟨5⟩
        ((machine ⟨5⟩).run (run ⟨5⟩ ⟨9⟩ ⟨8⟩ stakeThenWait) [.elapse 2]).epoch) 1).toBool = true := by
    decide +kernel
  obtain ⟨result, withdrawal⟩ := ok_of_toBool some
  obtain ⟨result', withdrawal'⟩ := ok_of_toBool some'
  obtain ⟨closed, returned, slashed, slashBps, withdrawn, quote, charged, -, -, later⟩ :=
    quoted_exit_penalty_is_charged ⟨5⟩ ⟨9⟩ ⟨8⟩ stakeThenWait 1 _ result rfl withdrawal
  obtain ⟨closed', returned', slashed', withdrawn', le⟩ :=
    later [.elapse 2] _ result' (.of_same (elapse_pools _ _ _)) rfl withdrawal'
  exact ⟨slashBps, returned, slashed, returned', slashed', quote,
    congrArg (Except.map Prod.snd) withdrawn, charged, congrArg (Except.map Prod.snd) withdrawn', le⟩

end AntSeed.Pools
