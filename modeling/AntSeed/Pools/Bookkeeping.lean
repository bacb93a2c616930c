import AntSeed.Pools.Portfolio

/-! # Opening and closing keep the books

The two primitive operations on positions, with everything later results read of
them: what they write, that they keep the records in agreement, and that no
bookkeeping stops them.
-/

namespace AntSeed.Pools

open Evm Function SellerPools
open Meets

theorem orderly_custom (error : Error) : Orderly (.custom error) := ⟨nofun, nofun⟩

theorem orderly_overflow : Orderly .overflow := ⟨nofun, nofun⟩

theorem int_neg_meets (small : value ≤ 2 ^ 255) :
    Meets (int 256 (-value) : Tx Error Int) Orderly fun n => n = -value ∧ n < 2 ^ 255 := by
  refine .ite (fun fits => ⟨rfl, fits.2⟩) fun wide => ?_
  refine .ite (fun negative => ?_) fun _ => orderly_overflow
  omega

theorem toInt_le (n : Nat) : (BitVec.ofNat 256 n).toInt ≤ 2 ^ 255 := by
  have := BitVec.toInt_lt (x := BitVec.ofNat 256 n)
  omega

theorem signedAmount_meets (amount : Nat) (add : Bool) :
    Meets (signedAmount amount add) Orderly fun signed =>
      signed ≤ 2 ^ 255 := by
  cases add with
  | true => exact .pure (toInt_le amount)
  | false => exact (int_neg_meets (toInt_le amount)).mono fun n ⟨_, small⟩ => by omega

theorem toInt128_meets (value : Int) :
    Meets (FenwickTree.toInt128 value) Orderly fun _ => True :=
  require (orderly_custom _) fun _ => trivial

theorem ascend_meets (each : ∀ v, Meets (f v) Orderly fun _ => True) (fuel i : Nat)
    (values : Nat → BitVec 256) :
    Meets (Fenwick.ascend fenwickSize f fuel i values) Orderly fun _ => True := by
  induction fuel generalizing i values with
  | zero => trivial
  | succ fuel ih =>
    exact .ite (fun _ => bind (each _) fun v _ => ih _ _) fun _ => trivial

theorem fenwickAdd_meets (tree : FenwickTree) (epoch : Nat) (amountDelta weightedEndDelta : Int) :
    Meets (tree.fenwickAdd epoch amountDelta weightedEndDelta) Orderly fun _ => True := by
  refine .bind (Q := fun _ => True) ?_ fun index _ => ?_
  · exact .uint orderly_overflow fun _ => require (orderly_custom _) fun _ => trivial
  refine .bind (toInt128_meets _) fun _ _ => ?_
  refine .bind (toInt128_meets _) fun _ _ => ?_
  refine .bind (ascend_meets (fun value => ?_) _ _ _) fun _ _ => trivial
  exact .bind (toInt128_meets _) fun _ _ => bind (toInt128_meets _) fun _ _ => trivial

theorem applyRangeDelta_meets (tree : FenwickTree) (startEpoch stakeEndEpoch : Nat)
    (amount : amountDelta ≤ 2 ^ 255)
    (weightedEnd : weightedEndDelta ≤ 2 ^ 255) :
    Meets (tree.applyRangeDelta startEpoch stakeEndEpoch amountDelta weightedEndDelta)
      Orderly fun _ => True := by
  refine .bind (fenwickAdd_meets _ _ _ _) fun _ _ => ?_
  refine .bind (int_neg_meets amount) fun _ _ => ?_
  exact .bind (int_neg_meets weightedEnd) fun _ _ => fenwickAdd_meets _ _ _ _

theorem push_meets (trace : Trace) (key value : Nat) :
    Meets (trace.push key value : Tx Error Trace) Orderly fun trace' =>
      (trace.push key value : Tx Error Trace) = .ok trace' :=
  Trace.push_meets ⟨nofun, nofun⟩ trace key value

namespace SellerPools

variable {s s' s'' : SellerPools}

theorem applyPowerRange_meets (agentId : Word) (startEpoch stakeEndEpoch amount : Nat) (add : Bool) :
    Meets (s.applyPowerRange agentId startEpoch stakeEndEpoch amount add) Orderly fun s' =>
      startEpoch < fenwickSize ∧ stakeEndEpoch < fenwickSize ∧ OnlyTrees s s' := by
  have orderly : Meets (s.applyPowerRange agentId startEpoch stakeEndEpoch amount add) Orderly
      fun _ => True := by
    refine .bind (signedAmount_meets _ _) fun signed small => ?_
    apply uint orderly_overflow
    intro _
    refine .bind (signedAmount_meets _ _) fun weighted smallEnd => ?_
    refine .bind (applyRangeDelta_meets _ _ _ small smallEnd) fun _ _ => ?_
    exact .bind (applyRangeDelta_meets _ _ _ small smallEnd) fun _ _ => trivial
  refine orderly.strengthen fun s' returned _ => ?_
  obtain ⟨startInside, endInside, only, -⟩ := applyPowerRange_spec returned
  exact ⟨startInside, endInside, only⟩

theorem OnlyTrees.sameTerms (only : OnlyTrees s s') : SameTerms s s' := by
  rw [only]
  exact ⟨⟨rfl, rfl, rfl, rfl⟩, rfl, fun b => b.congr⟩

theorem OnlyTrees.sameOwners (only : OnlyTrees s s') : SameOwners s s' := by
  rw [only]
  exact ⟨rfl, rfl, id, rfl, rfl, rfl, rfl⟩

/-- The records agree, the settings are in their bounds, and no lock starts after the
    epoch it is looked up in. -/
structure Tidy (s : SellerPools) : Prop where
  portfolio : s.Portfolio
  bounded : s.Bounded
  begun : ∀ q k, (s.positionNormalStartEpoch q).upperLookupRecent k ≤ k

theorem Trade.tidy (trade : Trade s s') (tidy : s.Tidy) (portfolio : s'.Portfolio) : s'.Tidy :=
  ⟨portfolio, trade.bounded tidy.bounded, trade.starts ▸ tidy.begun⟩

theorem begun_push {trace trace' : Trace} {key value : Nat}
    (pushed : (trace.push key value : Tx Error Trace) = .ok trace') (past : value ≤ key)
    (before : ∀ k, trace.upperLookupRecent k ≤ k) (k : Nat) : trace'.upperLookupRecent k ≤ k := by
  rw [Trace.lookup_push pushed]
  split
  · omega
  · exact before k

/-- A new position and its histories. -/
structure Recorded (s s' : SellerPools) (position : Position)
    (startEpoch normalStartEpoch stakeEndEpoch : Nat) : Prop where
  next : s'.nextPositionId = s.nextPositionId + 1
  positions : s'.positions = update s.positions s.nextPositionId position
  starts : ∃ trace, (s.positionNormalStartEpoch s.nextPositionId).push startEpoch normalStartEpoch =
      (.ok trace : Tx Error Trace) ∧
    s'.positionNormalStartEpoch = update s.positionNormalStartEpoch s.nextPositionId trace
  ends : ∃ trace, (s.positionNormalEndEpoch s.nextPositionId).push startEpoch stakeEndEpoch =
      (.ok trace : Tx Error Trace) ∧
    s'.positionNormalEndEpoch = update s.positionNormalEndEpoch s.nextPositionId trace
  locks : s'.positionMaxLockPower = s.positionMaxLockPower
  withdrawable : s'.positionWithdrawableEpoch = s.positionWithdrawableEpoch
  bounded : s.Bounded → s'.Bounded

/-- A new position, with its token and its histories. -/
structure Opened (s s' : SellerPools) (position : Position) (startEpoch normalStartEpoch stakeEndEpoch : Nat) :
    Prop extends Recorded s s' position startEpoch normalStartEpoch stakeEndEpoch where
  owners : s'.nft.owners = update s.nft.owners s.nextPositionId position.owner
  start : position.stakeStartEpoch = startEpoch

theorem handOver_mints (proper : s.nft.Proper)
    (unowned : s.nft.owners q = 0) (free : holders q = none)
    (index : OwnerIndex s.stakerPositionIds s.stakerPositionIndex holders) :
    Meets (s.handOver target q 0) Orderly fun out => out.2 = 0 ∧ out.1.nft.Proper ∧
      out.1.nft.owners = update s.nft.owners q target ∧
      Booked { s with nft := out.1.nft } out.1 ∧
      out.1.stakerTotalActiveStake = s.stakerTotalActiveStake ∧
      out.1.stakerAgentActiveStake = s.stakerAgentActiveStake ∧
      OwnerIndex out.1.stakerPositionIds out.1.stakerPositionIndex (update holders q (some target)) := by
  refine .bind (Erc721.handOver_meets fun _ => ⟨nofun, nofun⟩) ?_
  rintro ⟨nft, source⟩ ⟨isOwner, owners, proper', -⟩
  dsimp only at isOwner owners proper' ⊢
  rw [isOwner, unowned, if_pos rfl]
  exact .pure ⟨rfl, proper' proper, owners, rfl, rfl, rfl, index.add free target⟩

/-- The state in which the token of a new position is minted. -/
structure Drafted (s s' : SellerPools) (position : Position) (startEpoch normalStartEpoch stakeEndEpoch : Nat) :
    Prop extends Recorded s s' position startEpoch normalStartEpoch stakeEndEpoch where
  nft : s'.nft = s.nft
  ids : s'.stakerPositionIds = s.stakerPositionIds
  index : s'.stakerPositionIndex = s.stakerPositionIndex
  total : s'.stakerTotalActiveStake = update s.stakerTotalActiveStake position.owner
    (s.stakerTotalActiveStake position.owner + position.amount)
  agent : ∀ x g, s'.stakerAgentActiveStake x g =
    s.stakerAgentActiveStake x g + if position.owner = x then amountIn g position else 0

/-- The record `createWeightedPosition` writes. -/
def newPosition (owner : Address) (agentId : Word)
    (amount weightAmount startEpoch stakeEndEpoch : Nat) : Position where
  owner := owner
  agentId := agentId
  amount := amount
  weightAmount := weightAmount
  stakeStartEpoch := startEpoch % 2 ^ 64
  stakeEndEpoch := stakeEndEpoch % 2 ^ 64
  closedAtEpoch := 0
  withdrawn := false

variable {amount normalStartEpoch stakeEndEpoch startEpoch weightAmount : Nat} {owner : Address}

theorem Restaked.drafted {recorded booked : SellerPools} {agentId : Word}
    {starts ends : Trace}
    (pushedStart : (s.positionNormalStartEpoch s.nextPositionId).push startEpoch normalStartEpoch =
      (.ok starts : Tx Error Trace))
    (pushedEnd : (s.positionNormalEndEpoch s.nextPositionId).push startEpoch stakeEndEpoch =
      (.ok ends : Tx Error Trace))
    (only : OnlyTrees { s with
      nextPositionId := s.nextPositionId + 1
      positions := update s.positions s.nextPositionId
        (newPosition owner agentId amount weightAmount startEpoch stakeEndEpoch)
      positionNormalStartEpoch := update s.positionNormalStartEpoch s.nextPositionId starts
      positionNormalEndEpoch := update s.positionNormalEndEpoch s.nextPositionId ends } recorded)
    (restaked : Restaked recorded booked owner agentId (recorded.stakerTotalActiveStake owner + amount)
      (recorded.stakerAgentActiveStake owner agentId + amount)) :
    Drafted s booked (newPosition owner agentId amount weightAmount startEpoch stakeEndEpoch)
      startEpoch normalStartEpoch stakeEndEpoch where
  nft := by rw [restaked.booked, only]
  ids := by rw [restaked.ids, only]
  index := by rw [restaked.index, only]
  total := by rw [restaked.total, only]; rfl
  agent x g := by
    rw [restaked.agent_apply, only]
    unfold amountIn newPosition
    by_cases own : x = owner
    · subst own
      by_cases pool : g = agentId
      · subst pool
        simp
      · simp [pool, Ne.symm pool]
    · simp [own, Ne.symm own]
  next := by rw [restaked.booked, only]
  positions := by rw [restaked.booked, only]
  starts := ⟨starts, pushedStart, by rw [restaked.booked, only]⟩
  ends := ⟨ends, pushedEnd, by rw [restaked.booked, only]⟩
  locks := by rw [restaked.booked, only]
  withdrawable := by rw [restaked.booked, only]
  bounded b := by
    rw [restaked.booked, only]
    exact b.congr

theorem Drafted.opened {draft : SellerPools} {position : Position}
    (tidy : s.Tidy)
    (drafted : Drafted s draft position startEpoch normalStartEpoch stakeEndEpoch)
    (somebody : position.owner ≠ 0)
    (isOpen : position.closedAtEpoch = 0 ∧ position.withdrawn = false)
    (positive : 0 < startEpoch) (inside : startEpoch < fenwickSize)
    (start : position.stakeStartEpoch = startEpoch) (begun : normalStartEpoch ≤ startEpoch)
    (proper : s'.nft.Proper)
    (owners : s'.nft.owners = update draft.nft.owners s.nextPositionId position.owner)
    (booked : Booked { draft with nft := s'.nft } s')
    (total : s'.stakerTotalActiveStake = draft.stakerTotalActiveStake)
    (agent : s'.stakerAgentActiveStake = draft.stakerAgentActiveStake)
    (index : OwnerIndex s'.stakerPositionIds s'.stakerPositionIndex
      (update s.holder s.nextPositionId (some position.owner))) :
    Opened s s' position startEpoch normalStartEpoch stakeEndEpoch ∧ s'.Tidy := by
  have opened : Opened s s' position startEpoch normalStartEpoch stakeEndEpoch := by
    refine ⟨?_, drafted.nft ▸ owners, start⟩
    obtain ⟨next, positions, starts, ends, locks, withdrawable, bounded⟩ := drafted.toRecorded
    rw [booked]
    exact ⟨next, positions, starts, ends, locks, withdrawable, fun b => (bounded b).congr⟩
  refine ⟨opened, ?_, opened.bounded tidy.bounded, fun q => ?_⟩
  · refine tidy.portfolio.opened somebody isOpen ?_ proper opened.next opened.owners
      opened.positions index (fun x => ?_) fun x g => ?_
    · rw [start]
      unfold fenwickSize at inside
      omega
    · rw [total, drafted.total, Function.update_apply]
      by_cases own : x = position.owner
      · subst own
        simp
      · simp [own, Ne.symm own]
    · rw [agent]
      exact drafted.agent x g
  · obtain ⟨trace, pushed, written⟩ := opened.starts
    rw [written]
    by_cases here : q = s.nextPositionId
    · subst here
      rw [update_self]
      exact begun_push pushed begun (tidy.begun _)
    · rw [update_of_ne here]
      exact tidy.begun q

theorem createWeightedPosition_meets (tidy : s.Tidy) {ctx : Context}
    (somebody : owner ≠ 0) (positive : 0 < startEpoch) (begun : normalStartEpoch ≤ startEpoch) :
    Meets (s.createWeightedPosition ctx owner agentId amount weightAmount startEpoch
      normalStartEpoch stakeEndEpoch) Orderly fun out => out.1.Tidy ∧
        out.2 = s.nextPositionId ∧ ∃ opened, Opened s opened
          (newPosition owner agentId amount weightAmount startEpoch stakeEndEpoch) startEpoch
          normalStartEpoch stakeEndEpoch ∧ Trade opened out.1 := by
  apply uint orderly_overflow
  intro _
  refine .bind (Q := fun s1 => ∃ starts, (s.positionNormalStartEpoch s.nextPositionId).push
    startEpoch normalStartEpoch = (.ok starts : Tx Error Trace) ∧ s1 = { s with
      nextPositionId := s.nextPositionId + 1
      positions := update s.positions s.nextPositionId
        (newPosition owner agentId amount weightAmount startEpoch stakeEndEpoch)
      positionNormalStartEpoch := update s.positionNormalStartEpoch s.nextPositionId starts }) ?_ ?_
  · exact .bind (push_meets _ _ _) fun starts pushed => pure ⟨starts, pushed, rfl⟩
  rintro s1 ⟨starts, pushedStart, rfl⟩
  refine .bind (Q := fun s2 => ∃ ends, (s.positionNormalEndEpoch s.nextPositionId).push
    startEpoch stakeEndEpoch = (.ok ends : Tx Error Trace) ∧ s2 = { s with
      nextPositionId := s.nextPositionId + 1
      positions := update s.positions s.nextPositionId
        (newPosition owner agentId amount weightAmount startEpoch stakeEndEpoch)
      positionNormalStartEpoch := update s.positionNormalStartEpoch s.nextPositionId starts
      positionNormalEndEpoch := update s.positionNormalEndEpoch s.nextPositionId ends }) ?_ ?_
  · exact .bind (push_meets _ _ _) fun ends pushed => pure ⟨ends, pushed, rfl⟩
  rintro s2 ⟨ends, pushedEnd, rfl⟩
  refine .bind (applyPowerRange_meets _ _ _ _ _) fun s3 ⟨inside, _, only⟩ => ?_
  refine .bind increaseActiveStake_meets fun s4 restaked => ?_
  have drafted := restaked.drafted pushedStart pushedEnd only
  have start : (newPosition owner agentId amount weightAmount startEpoch
      stakeEndEpoch).stakeStartEpoch = startEpoch := mod_of_inside inside
  have free : s.nft.owners s.nextPositionId = 0 := tidy.portfolio.fresh _ (Nat.le_refl _)
  have index : OwnerIndex s4.stakerPositionIds s4.stakerPositionIndex s.holder := by
    rw [drafted.ids, drafted.index]
    exact tidy.portfolio.index
  refine .bind (Q := fun out => out.Tidy ∧ ∃ opened, Opened s opened
      (newPosition owner agentId amount weightAmount startEpoch stakeEndEpoch) startEpoch
      normalStartEpoch stakeEndEpoch ∧ Trade opened out) ?_ fun out ⟨tidy', result⟩ =>
    pure ⟨tidy', rfl, result⟩
  unfold safeMint
  rw [if_neg somebody]
  refine .bind (handOver_mints (by rw [drafted.nft]; exact tidy.portfolio.proper)
    (by rw [drafted.nft]; exact free) (if_pos free : s.holder s.nextPositionId = none) index) ?_
  rintro ⟨minted, previous⟩ ⟨nobody, proper, owners, booked, total, agent, index'⟩
  dsimp only at nobody proper owners booked total agent index' ⊢
  rw [if_pos nobody]
  obtain ⟨opened, tidy'⟩ := drafted.opened tidy somebody ⟨rfl, rfl⟩ positive inside start begun
    proper owners booked total agent index'
  exact (checkOnERC721Received_trades tidy'.portfolio).mono fun out ⟨portfolio, trade⟩ =>
    ⟨trade.tidy tidy' portfolio, minted, opened, trade⟩

/-- A live position has ended: closed, and its token burned. -/
structure Ended (s s' : SellerPools) (q epoch : Nat) (withdrawn : Bool) : Prop where
  owned : s.nft.owners q ≠ 0
  known : q < s.nextPositionId
  wasOpen : (s.positions q).closedAtEpoch = 0
  same : SameTerms s s'
  positions : s'.positions = update s.positions q
    { s.positions q with closedAtEpoch := epoch, withdrawn := withdrawn }
  owners : s'.nft.owners = update s.nft.owners q 0
  closed : epoch ≠ 0

theorem burn_meets (holders : Nat → Option Address) (proper : s.nft.Proper)
    (owned : s.nft.owners q ≠ 0) (held : holders q = some (s.nft.owners q))
    (index : OwnerIndex s.stakerPositionIds s.stakerPositionIndex holders) :
    Meets (s.burn q) Orderly fun s' => s'.nft.Proper ∧
      s'.nft.owners = update s.nft.owners q 0 ∧ Booked { s with nft := s'.nft } s' ∧
      s'.stakerTotalActiveStake = s.stakerTotalActiveStake ∧
      s'.stakerAgentActiveStake = s.stakerAgentActiveStake ∧
      OwnerIndex s'.stakerPositionIds s'.stakerPositionIndex (update holders q none) := by
  refine .bind (Q := fun out => out.2 = s.nft.owners q ∧ out.1.nft.Proper ∧
      out.1.nft.owners = update s.nft.owners q 0 ∧ Booked { s with nft := out.1.nft } out.1 ∧
      out.1.stakerTotalActiveStake = s.stakerTotalActiveStake ∧
      out.1.stakerAgentActiveStake = s.stakerAgentActiveStake ∧
      OwnerIndex out.1.stakerPositionIds out.1.stakerPositionIndex (update holders q none)) ?_ ?_
  · refine .bind (Erc721.handOver_meets fun _ => ⟨nofun, nofun⟩) ?_
    rintro ⟨nft, source⟩ ⟨isOwner, owners, proper', -⟩
    dsimp only at isOwner owners proper' ⊢
    rw [isOwner, if_neg owned, if_pos rfl]
    refine .bind (removeStakerPosition_meets index held) ?_
    rintro removed ⟨booked, total, agent, index'⟩
    have kept : removed.nft = nft := by rw [booked]
    refine .pure ⟨rfl, ?_, ?_, ?_, total, agent, index'⟩
    · rw [kept]
      exact proper' proper
    · rw [kept, owners]
    · rw [kept]
      exact booked
  · rintro ⟨burned, previous⟩ ⟨isOwner, rest⟩
    dsimp only at isOwner rest ⊢
    rw [isOwner, if_neg owned]
    exact .pure rest

/-- The state in which the token of a position that ends is burned. -/
structure Retired (s s' : SellerPools) (q epoch : Nat) (withdrawn : Bool) : Prop where
  nft : s'.nft = s.nft
  ids : s'.stakerPositionIds = s.stakerPositionIds
  index : s'.stakerPositionIndex = s.stakerPositionIndex
  same : SameTerms s s'
  positions : s'.positions = update s.positions q
    { s.positions q with closedAtEpoch := epoch, withdrawn := withdrawn }
  total : ∀ x, s'.stakerTotalActiveStake x +
    (if x = s.nft.owners q then (s.positions q).amount else 0) = s.stakerTotalActiveStake x
  agent : ∀ x g, s'.stakerAgentActiveStake x g +
      (if x = s.nft.owners q ∧ g = (s.positions q).agentId then (s.positions q).amount else 0) =
    s.stakerAgentActiveStake x g

theorem decreaseActiveStake_retires (inv : s.Portfolio)
    (epoch : Nat) (withdrawn : Bool) (owned : s.nft.owners q ≠ 0) (same : SameTerms s recorded)
    (positions : recorded.positions = update s.positions q
      { s.positions q with closedAtEpoch := epoch, withdrawn := withdrawn })
    (nft : recorded.nft = s.nft) (ids : recorded.stakerPositionIds = s.stakerPositionIds)
    (index : recorded.stakerPositionIndex = s.stakerPositionIndex)
    (total : recorded.stakerTotalActiveStake = s.stakerTotalActiveStake)
    (agent : recorded.stakerAgentActiveStake = s.stakerAgentActiveStake) :
    Meets (recorded.decreaseActiveStake (s.nft.owners q) (s.positions q).agentId
      (s.positions q).amount) Orderly fun s' => Retired s s' q epoch withdrawn := by
  have enough := amount_le_total inv owned
  have enoughAgent := amount_le_agent inv owned
  refine (decreaseActiveStake_meets (by rw [total]; exact enough)
    (by rw [agent]; exact enoughAgent)).mono fun s' restaked => ?_
  refine ⟨?_, restaked.ids.trans ids, restaked.index.trans index,
    same.trans restaked.booked.sameTerms, ?_, fun x => ?_, fun x g => ?_⟩
  · rw [restaked.booked]
    exact nft
  · rw [restaked.booked]
    exact positions
  · rw [restaked.total, total, Function.update_apply]
    by_cases own : x = s.nft.owners q
    · subst own
      simp only [if_true]
      omega
    · simp [own]
  · rw [restaked.agent_apply, agent]
    by_cases own : x = s.nft.owners q ∧ g = (s.positions q).agentId
    · obtain ⟨rfl, rfl⟩ := own
      simp only [and_self, if_true]
      omega
    · simp [own]

theorem Retired.burn (tidy : s.Tidy)
    (h : Retired s retired q epoch withdrawn) (owned : s.nft.owners q ≠ 0) (closed : epoch ≠ 0) :
    Meets (retired.burn q) Orderly fun s' => s'.Tidy ∧ Ended s s' q epoch withdrawn := by
  refine (burn_meets s.holder (by rw [h.nft]; exact tidy.portfolio.proper)
    (by rw [h.nft]; exact owned) (by rw [h.nft]; exact holder_of_owned owned)
    (by rw [h.ids, h.index]; exact tidy.portfolio.index)).mono fun s' result => ?_
  obtain ⟨proper, owners, booked, total, agent, index⟩ := result
  rw [h.nft] at owners
  have same : SameTerms s s' := (h.same.trans (sameTerms_of_nft retired s'.nft
    retired.positions)).trans booked.sameTerms
  have positions : s'.positions = update s.positions q
      { s.positions q with closedAtEpoch := epoch, withdrawn := withdrawn } := by
    rw [booked]
    exact h.positions
  refine ⟨⟨?_, same.bounded tidy.bounded, same.starts ▸ tidy.begun⟩, owned, tidy.portfolio.known owned,
    (tidy.portfolio.unclosed q owned).1, same, positions, owners, closed⟩
  exact tidy.portfolio.gone { s.positions q with closedAtEpoch := epoch, withdrawn := withdrawn }
    owned rfl rfl closed proper same.next owners positions index (fun x => total ▸ h.total x)
    fun x => agent ▸ h.agent x

end SellerPools

end AntSeed.Pools
