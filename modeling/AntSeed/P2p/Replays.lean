import AntSeed.P2p.ConnectionAuth

/-! # An envelope is accepted once

An envelope that was accepted either has its nonce in the guard until after its time has left the allowed
skew, or its time has left it already. The guard and the skew check meet at one instant: at the very edge
of the skew the check still passes while the guard forgets.
-/

namespace AntSeed.P2p

open List Keyed NonceReplayGuard

section Precheck

variable {primitives : Primitives} {verification : Verification} {replayGuard : NonceReplayGuard}
  {auth : ConnectionAuthEnvelope} {peerId : String}

theorem precheck_near (passed : verification.precheck = .ok auth) :
    |verification.nowMs - auth.ts| ≤ verification.maxSkewMs := by
  unfold Verification.precheck at passed
  cases given : verification.auth with
  | none => simp [given] at passed
  | some =>
    simp only [given] at passed
    repeat' split at passed
    all_goals cases passed
    next near _ _ => exact not_lt.mp near

theorem signature_of_peer (signed : verification.checkSignature primitives auth = .ok peerId) :
    peerId = auth.peerId := by
  unfold Verification.checkSignature at signed
  cases payload : verification.payload auth with
  | error => simp [payload] at signed
  | ok =>
    simp only [payload] at signed
    split at signed
    · cases signed
      rfl
    · cases signed

theorem run_accepted (accepted : (verification.run primitives replayGuard).1 = .ok peerId) :
    ∃ auth, verification.precheck = .ok auth
      ∧ (replayGuard.checkAndRemember auth.peerId auth.nonce verification.nowMs).1 = true
      ∧ verification.checkSignature primitives auth = .ok peerId := by
  unfold Verification.run at accepted
  cases passed : verification.precheck with
  | error => simp [passed] at accepted
  | ok auth =>
    refine ⟨auth, rfl, ?_⟩
    simp only [passed] at accepted
    split at accepted
    · cases accepted
    next fresh => exact ⟨by simp [fresh], accepted⟩

theorem run_guard : (verification.run primitives replayGuard).2 = match verification.precheck with
    | .error _ => replayGuard
    | .ok auth => (replayGuard.checkAndRemember auth.peerId auth.nonce verification.nowMs).2 := by
  unfold Verification.run
  cases verification.precheck with
  | error => rfl
  | ok auth =>
    cases remembered : replayGuard.checkAndRemember auth.peerId auth.nonce verification.nowMs with
    | mk fresh => cases fresh <;> simp [remembered]

end Precheck

namespace NonceReplayGuard

/-- One expiry for each nonce, no more than there is room for, each for as long as by default. -/
structure Sound (replayGuard : NonceReplayGuard) : Prop where
  distinct : (replayGuard.seen.map Prod.fst).Nodup
  fits : replayGuard.seen.length ≤ replayGuard.maxEntries
  lasting : replayGuard.ttlMs = INTRO_AUTH_MAX_SKEW_MS * 2

/-- An accepted envelope is remembered for longer than its time is near, or its time has passed. -/
def Settled (replayGuard : NonceReplayGuard) (nowMs : Rat) (key : String) (ts : Rat) : Prop :=
  (∃ expiresAt, (key, expiresAt) ∈ replayGuard.seen ∧ ts + INTRO_AUTH_MAX_SKEW_MS < expiresAt ∧ expiresAt ≠ 0)
    ∨ ts + INTRO_AUTH_MAX_SKEW_MS < nowMs

/-- Nothing has to go to make room for one more nonce. -/
def Room (replayGuard : NonceReplayGuard) (key : String) : Prop :=
  key ∉ replayGuard.seen.map Prod.fst → replayGuard.seen.length < replayGuard.maxEntries

instance {replayGuard : NonceReplayGuard} {key : String} : Decidable (replayGuard.Room key) :=
  inferInstanceAs (Decidable (_ → _))

variable {replayGuard : NonceReplayGuard} {nowMs later ts expiresAt : Rat} {peerId nonce key name : String}

theorem settled_later (settled : replayGuard.Settled nowMs key ts) (inOrder : nowMs ≤ later) :
    replayGuard.Settled later key ts :=
  settled.imp_right fun passed => lt_of_lt_of_le passed inOrder

theorem sound_evictExpired (sound : replayGuard.Sound) : (replayGuard.evictExpired nowMs).Sound where
  distinct := sound.distinct.sublist (filter_sublist.map Prod.fst)
  fits := (length_filter_le _ _).trans sound.fits
  lasting := sound.lasting

theorem sound_remember (sound : replayGuard.Sound) : (replayGuard.remember key expiresAt).Sound where
  distinct := (nodup_keys_set sound.distinct).sublist ((drop_sublist _ _).map Prod.fst)
  fits := by
    simp only [remember, length_drop]
    omega
  lasting := sound.lasting

theorem settled_evictExpired (settled : replayGuard.Settled nowMs key ts) :
    (replayGuard.evictExpired nowMs).Settled nowMs key ts := by
  cases settled with
  | inr passed => exact .inr passed
  | inl remembered =>
    obtain ⟨expiresAt, here, covers, nonzero⟩ := remembered
    cases lt_or_ge nowMs expiresAt with
    | inl alive => exact .inl ⟨expiresAt, mem_filter.mpr ⟨here, decide_eq_true alive⟩, covers, nonzero⟩
    | inr expired => exact .inr (lt_of_lt_of_le covers expired)

section

variable (sound : replayGuard.Sound)

include sound

theorem seen_remember (room : replayGuard.Room key) :
    (replayGuard.remember key expiresAt).seen = set Prod.fst (key, expiresAt) replayGuard.seen := by
  have bound : (set Prod.fst (key, expiresAt) replayGuard.seen).length ≤ replayGuard.maxEntries := by
    rw [Keyed.length_set]
    split
    · exact sound.fits
    next absent => exact room absent
  simp [remember, Nat.sub_eq_zero_of_le bound]

theorem settled_remember (room : replayGuard.Room key) (other : name ≠ key)
    (settled : replayGuard.Settled nowMs name ts) : (replayGuard.remember key expiresAt).Settled nowMs name ts := by
  refine settled.imp_left fun remembered => ?_
  obtain ⟨until_, here, covers, nonzero⟩ := remembered
  refine ⟨until_, ?_, covers, nonzero⟩
  rw [seen_remember sound room]
  exact mem_set_of_ne here other

theorem checkAndRemember_cases (peerId nonce : String) (nowMs : Rat) :
    let evicted := replayGuard.evictExpired nowMs
    let key := buildReplayKey peerId nonce
    (replayGuard.checkAndRemember peerId nonce nowMs = (false, evicted))
      ∨ (replayGuard.checkAndRemember peerId nonce nowMs = (true, evicted.remember key (nowMs + replayGuard.ttlMs))
        ∧ ∀ expiresAt, (key, expiresAt) ∈ evicted.seen → expiresAt = 0) := by
  intro evicted key
  have evictedSound : evicted.Sound := sound_evictExpired sound
  simp only [checkAndRemember]
  cases found : get Prod.fst key evicted.seen with
  | none =>
    refine .inr ⟨rfl, fun expiresAt here => ?_⟩
    exact absurd (mem_map_of_mem here) (get_eq_none_iff.mp found)
  | some entry =>
    have here := (mem_of_get found).1
    have alive : nowMs < entry.2 := by simpa using (mem_filter.mp here).2
    simp only
    split
    · exact .inl rfl
    next zero =>
      refine .inr ⟨rfl, fun expiresAt there => ?_⟩
      have same := get_of_mem evictedSound.distinct there
      rw [found, Option.some.injEq] at same
      subst same
      by_contra nonzero
      exact zero ⟨nonzero, alive⟩

theorem sound_checkAndRemember : (replayGuard.checkAndRemember peerId nonce nowMs).2.Sound := by
  cases checkAndRemember_cases sound peerId nonce nowMs with
  | inl refused => exact refused ▸ sound_evictExpired sound
  | inr fresh => exact fresh.1 ▸ sound_remember (sound_evictExpired sound)

section

variable (room : (replayGuard.evictExpired nowMs).Room (buildReplayKey peerId nonce))

include room

theorem settled_checkAndRemember
    (settled : replayGuard.Settled nowMs key ts) :
    (replayGuard.checkAndRemember peerId nonce nowMs).2.Settled nowMs key ts := by
  have evicted := settled_evictExpired settled
  cases checkAndRemember_cases sound peerId nonce nowMs with
  | inl refused => exact refused ▸ evicted
  | inr fresh =>
    rw [fresh.1]
    by_cases same : key = buildReplayKey peerId nonce
    · -- A nonce that is still remembered would have been refused.
      cases evicted with
      | inr passed => exact .inr passed
      | inl remembered =>
        obtain ⟨expiresAt, here, _, nonzero⟩ := remembered
        exact absurd (fresh.2 expiresAt (same ▸ here)) nonzero
    · exact settled_remember (sound_evictExpired sound) room same evicted

theorem settled_fresh
    (fresh : (replayGuard.checkAndRemember peerId nonce nowMs).1 = true) (early : ts < nowMs + INTRO_AUTH_MAX_SKEW_MS)
    (nonzero : nowMs + replayGuard.ttlMs ≠ 0) :
    (replayGuard.checkAndRemember peerId nonce nowMs).2.Settled nowMs (buildReplayKey peerId nonce) ts := by
  cases checkAndRemember_cases sound peerId nonce nowMs with
  | inl refused => simp [refused] at fresh
  | inr remembered =>
    rw [remembered.1]
    refine .inl ⟨nowMs + replayGuard.ttlMs, ?_, ?_, nonzero⟩
    · rw [seen_remember (sound_evictExpired sound) room]
      exact mem_set_self
    · have lasting := sound.lasting
      linarith

end

theorem passed_of_fresh (settled : replayGuard.Settled nowMs (buildReplayKey peerId nonce) ts)
    (fresh : (replayGuard.checkAndRemember peerId nonce nowMs).1 = true) : ts + INTRO_AUTH_MAX_SKEW_MS < nowMs := by
  cases settled_evictExpired settled with
  | inr passed => exact passed
  | inl remembered =>
    obtain ⟨expiresAt, here, _, nonzero⟩ := remembered
    cases checkAndRemember_cases sound peerId nonce nowMs with
    | inl refused => simp [refused] at fresh
    | inr fresh => exact absurd (fresh.2 expiresAt here) nonzero

end

end NonceReplayGuard

/-- The envelope, if its nonce is looked up in the guard. -/
def Verification.checked (verification : Verification) : Option ConnectionAuthEnvelope :=
  verification.precheck.toOption

/-- A peer signs a nonce for one time only. -/
def SignedOnce (primitives : Primitives) (calls : List Call) : Prop :=
  ∀ one ∈ calls, ∀ other ∈ calls, ∀ auth ∈ (one.verification primitives).checked,
    ∀ auth' ∈ (other.verification primitives).checked, auth.peerId = auth'.peerId → auth.nonce = auth'.nonce →
      (one.verification primitives).checkSignature primitives auth = .ok auth.peerId →
        (other.verification primitives).checkSignature primitives auth' = .ok auth'.peerId → auth.ts = auth'.ts

/-- A call that asks for no more skew than by default, with an envelope that is not at the very edge of it,
    and for whose nonce nothing has to be forgotten before its time; or one that does not reach the guard. -/
structure Unhurried (primitives : Primitives) (replayGuard : NonceReplayGuard) (call : Call) : Prop where
  usual : (call.verification primitives).checked.isSome →
    (call.verification primitives).maxSkewMs ≤ INTRO_AUTH_MAX_SKEW_MS
  early : ∀ auth ∈ (call.verification primitives).checked, auth.ts < call.nowMs + INTRO_AUTH_MAX_SKEW_MS
  nonzero : (call.verification primitives).checked.isSome → call.nowMs + replayGuard.ttlMs ≠ 0
  room : ∀ auth ∈ (call.verification primitives).checked,
    (replayGuard.evictExpired call.nowMs).Room (buildReplayKey auth.peerId auth.nonce)

instance {primitives : Primitives} {replayGuard : NonceReplayGuard} {call : Call} :
    Decidable (Unhurried primitives replayGuard call) :=
  decidable_of_iff (_ ∧ _ ∧ _ ∧ _)
    ⟨fun ⟨usual, early, nonzero, room⟩ => ⟨usual, early, nonzero, room⟩,
      fun ⟨usual, early, nonzero, room⟩ => ⟨usual, early, nonzero, room⟩⟩

instance {primitives : Primitives} {calls : List Call} : Decidable (SignedOnce primitives calls) :=
  inferInstanceAs (Decidable (∀ one ∈ calls, ∀ other ∈ calls, ∀ auth ∈ _, ∀ auth' ∈ _, _))

/-- Every envelope that was accepted is settled. -/
structure Accepted (primitives : Primitives) (known : List Call) (nowMs : Rat) (replayGuard : NonceReplayGuard)
    (accepted : List (String × String)) : Prop where
  sound : replayGuard.Sound
  once : accepted.Nodup
  settled : ∀ peerId nonce, (peerId, nonce) ∈ accepted →
    ∃ call ∈ known, ∃ auth ∈ (call.verification primitives).checked, auth.peerId = peerId ∧ auth.nonce = nonce
      ∧ (call.verification primitives).checkSignature primitives auth = .ok peerId
      ∧ replayGuard.Settled nowMs (buildReplayKey peerId nonce) auth.ts

section Runs

variable {primitives : Primitives} {replayGuard : NonceReplayGuard} {call : Call} {known calls : List Call}
  {nowMs : Rat} {accepted : List (String × String)}

theorem nowMs_verification : (call.verification primitives).nowMs = call.nowMs := by
  cases call <;> rfl

theorem call_cases (primitives : Primitives) (call : Call) (sound : replayGuard.Sound) :
    (((guarded primitives).exec replayGuard call).Sound ∧ accepts primitives replayGuard call = []
        ∧ (guarded primitives).exec replayGuard call = replayGuard)
      ∨ ∃ auth ∈ (call.verification primitives).checked,
        |call.nowMs - auth.ts| ≤ (call.verification primitives).maxSkewMs
        ∧ (guarded primitives).exec replayGuard call
          = (replayGuard.checkAndRemember auth.peerId auth.nonce call.nowMs).2
        ∧ (accepts primitives replayGuard call = []
          ∨ accepts primitives replayGuard call = [(auth.peerId, auth.nonce)]
            ∧ (replayGuard.checkAndRemember auth.peerId auth.nonce call.nowMs).1 = true
            ∧ (call.verification primitives).checkSignature primitives auth = .ok auth.peerId) := by
  have exec : (guarded primitives).exec replayGuard call
      = ((call.verification primitives).run primitives replayGuard).2 := rfl
  rw [exec, run_guard]
  cases passed : (call.verification primitives).precheck with
  | error => exact .inl ⟨sound, by simp [accepts, passed], rfl⟩
  | ok auth =>
    have near := precheck_near passed
    rw [nowMs_verification] at near ⊢
    refine .inr ⟨auth, by simp [Verification.checked, passed, Except.toOption], near, rfl, ?_⟩
    cases verdict : ((call.verification primitives).run primitives replayGuard).1 with
    | error => exact .inl (by simp [accepts, passed, verdict])
    | ok =>
      obtain ⟨auth', passed', fresh, signed⟩ := run_accepted verdict
      rw [passed, Except.ok.injEq] at passed'
      subst passed'
      have peer := signature_of_peer signed
      subst peer
      rw [nowMs_verification] at fresh
      exact .inr ⟨by simp [accepts, passed, verdict], fresh, signed⟩

theorem Accepted.later (holds : Accepted primitives known nowMs replayGuard accepted) {later : Rat}
    (inOrder : nowMs ≤ later) : Accepted primitives known later replayGuard accepted where
  sound := holds.sound
  once := holds.once
  settled peerId nonce here := by
    obtain ⟨call, member, auth, given, peer, same, signed, settled⟩ := holds.settled peerId nonce here
    exact ⟨call, member, auth, given, peer, same, signed, settled_later settled inOrder⟩

theorem Accepted.step (signedOnce : SignedOnce primitives known) (member : call ∈ known)
    (unhurried : Unhurried primitives replayGuard call)
    (holds : Accepted primitives known call.nowMs replayGuard accepted) :
    Accepted primitives known call.nowMs ((guarded primitives).exec replayGuard call)
      (accepted ++ accepts primitives replayGuard call) := by
  cases call_cases primitives call holds.sound with
  | inl idle =>
    rw [idle.2.1, idle.2.2, append_nil]
    exact holds
  | inr checked =>
    obtain ⟨auth, given, near, exec, reported⟩ := checked
    have room := unhurried.room auth given
    have settled : ∀ peerId nonce, (peerId, nonce) ∈ accepted →
        ∃ call' ∈ known, ∃ auth' ∈ (call'.verification primitives).checked, auth'.peerId = peerId
          ∧ auth'.nonce = nonce ∧ (call'.verification primitives).checkSignature primitives auth' = .ok peerId
          ∧ ((guarded primitives).exec replayGuard call).Settled call.nowMs (buildReplayKey peerId nonce)
            auth'.ts := by
      intro peerId nonce here
      obtain ⟨call', member', auth', given', peer, same, signed, before⟩ := holds.settled peerId nonce here
      rw [exec]
      exact ⟨call', member', auth', given', peer, same, signed,
        settled_checkAndRemember holds.sound room before⟩
    have sound : ((guarded primitives).exec replayGuard call).Sound := by
      rw [exec]
      exact sound_checkAndRemember holds.sound
    cases reported with
    | inl nothing =>
      rw [nothing, append_nil]
      exact ⟨sound, holds.once, settled⟩
    | inr accepting =>
      obtain ⟨reported, fresh, signed⟩ := accepting
      rw [reported]
      refine ⟨sound, ?_, ?_⟩
      · -- The same nonce from the same peer would be the same envelope, whose time has passed.
        have unseen : (auth.peerId, auth.nonce) ∉ accepted := by
          intro again
          obtain ⟨call', member', auth', given', peer, same, signed', before⟩ := holds.settled _ _ again
          have ts : auth'.ts = auth.ts :=
            signedOnce call' member' call member auth' given' auth given peer same (peer ▸ signed') signed
          have passed := passed_of_fresh holds.sound before fresh
          have recent := (abs_le.mp (near.trans (unhurried.usual (Option.isSome_of_mem given)))).2
          linarith
        rw [nodup_append]
        refine ⟨holds.once, nodup_singleton _, ?_⟩
        intro one here other there same
        rw [mem_singleton.mp there] at same
        exact unseen (same ▸ here)
      · intro peerId nonce here
        cases mem_append.mp here with
        | inl before => exact settled peerId nonce before
        | inr new =>
          cases mem_singleton.mp new
          refine ⟨call, member, auth, given, rfl, rfl, signed, ?_⟩
          rw [exec]
          exact settled_fresh holds.sound room fresh (unhurried.early auth given)
            (unhurried.nonzero (Option.isSome_of_mem given))

theorem Accepted.run (signedOnce : SignedOnce primitives known) (all : ∀ call ∈ calls, call ∈ known)
    (inOrder : (nowMs :: calls.map Call.nowMs).Pairwise (· ≤ ·))
    (unhurried : (guarded primitives).Along (Unhurried primitives) replayGuard calls)
    (holds : Accepted primitives known nowMs replayGuard accepted) :
    (accepted ++ (guarded primitives).log (accepts primitives) replayGuard calls).Nodup := by
  induction calls generalizing nowMs replayGuard accepted with
  | nil => simpa [Machine.log] using holds.once
  | cons call calls ih =>
    rw [map_cons, pairwise_cons] at inOrder
    have next := (holds.later (inOrder.1 call.nowMs mem_cons_self)).step signedOnce
      (all call mem_cons_self) unhurried.1
    have rest := ih (fun other there => all other (mem_cons_of_mem call there)) inOrder.2 unhurried.2 next
    rw [append_assoc] at rest
    exact rest

theorem Accepted.start : Accepted primitives known nowMs {} [] where
  sound := ⟨nodup_nil, Nat.zero_le _, rfl⟩
  once := nodup_nil
  settled _ _ here := absurd here not_mem_nil

end Runs

/-- Calls whose clock does not go back accept no nonce of a peer twice, whatever other envelopes come in
    between. -/
theorem nonce_accepted_once (primitives : Primitives) (calls : List Call)
    (inOrder : (calls.map Call.nowMs).Pairwise (· ≤ ·)) (signedOnce : SignedOnce primitives calls)
    (unhurried : (guarded primitives).Along (Unhurried primitives) {} calls) :
    ((guarded primitives).log (accepts primitives) {} calls).Nodup := by
  cases calls with
  | nil => exact nodup_nil
  | cons call calls =>
    have ordered : (call.nowMs :: (call :: calls).map Call.nowMs).Pairwise (· ≤ ·) := by
      rw [map_cons, pairwise_cons] at inOrder ⊢
      refine ⟨?_, pairwise_cons.mpr inOrder⟩
      intro later member
      cases mem_cons.mp member with
      | inl same => exact same ▸ le_refl _
      | inr rest => exact inOrder.1 later rest
    simpa using Accepted.start.run signedOnce (fun _ member => member) ordered unhurried

def knownPeer : String := "7e5f4552091a69125d5dfcb7b8c2659029395bdf"
def knownNonce : String := "77777777777777777777777777777777"

def firstSig : String :=
  "c4496acedc5318449bef5b1b9cd885a72356571d0cfd56377d63f852c0ef8e00"
    ++ "0db506cbebdb4294dffbfc40ac85c45e5923b31816846b3a905284e3e614537c1c"

def edgeSig : String :=
  "d713c0b9a51afef7c20f7a1d1df14a67e4ae53857b88a496e5d2aa12fbd550aa"
    ++ "41af0caffa965dff923e583a0f14b57d04cce8583ab92619cd4692c8a743d46c1b"

/-- The peer's signatures over two intros. -/
def knownSignatures : Primitives where
  verifyMessage message signature :=
    if (message, signature) ∈
      [(MSG_SIGNING_DOMAIN ++ buildConnectionAuthPayload .intro knownPeer 1000000 knownNonce, "0x" ++ firstSig),
        (MSG_SIGNING_DOMAIN ++ buildConnectionAuthPayload .intro knownPeer 1030000 knownNonce, "0x" ++ edgeSig)] then
      some "0x7E5F4552091A69125d5DfCb7b8C2659029395Bdf"
    else none
  sha256Hex text := text

def knownIntro (ts : Rat) (sig : String) (nowMs : Rat) : Call :=
  .connection { type := .intro, auth := some { peerId := knownPeer, ts, nonce := knownNonce, sig }, nowMs }

theorem intro_accepted_once :
    (guarded knownSignatures).log (accepts knownSignatures) {} [knownIntro 1000000 firstSig 990000]
      = [(knownPeer, knownNonce)] ∧
    ((guarded knownSignatures).log (accepts knownSignatures) {}
      ([990000, 1029999, 1030000, 1050000].map (knownIntro 1000000 firstSig))).Nodup :=
  ⟨by decide +kernel, nonce_accepted_once _ _ (by decide +kernel) (by decide +kernel) (by decide +kernel)⟩

/-- An intro from the very edge of the allowed skew is accepted again a minute later, when its nonce has
    just been forgotten. -/
theorem edge_intro_is_replayed :
    SignedOnce knownSignatures ([1000000, 1060000].map (knownIntro 1030000 edgeSig)) ∧
    (guarded knownSignatures).log (accepts knownSignatures) {} ([1000000, 1060000].map (knownIntro 1030000 edgeSig))
      = [(knownPeer, knownNonce), (knownPeer, knownNonce)] := by
  decide +kernel

end AntSeed.P2p
