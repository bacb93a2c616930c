import AntSeed.Seller.OwnClaims

/-! # Runs of a seller

A restart keeps claims in order as well. Hence every run does in which no step
leads into one of the two unchecked branches: each claim that is held is its
channel's buyer's own, and a buyer's message changes no other buyer's claims.
-/

namespace AntSeed.Seller

open Evm Async
open AntSeed.Payments (Signature Channel)
open Function (update)
open ChannelStore (Stored)

section Restarting

variable {node : Node} {s : Manager} {row : StoredChannel}

section

variable (fits : Fits node s) (member : row ∈ s.store)

include fits member

theorem kept_hydrate
    (store : s'.store = s.store)
    (others : ∀ id, id ≠ row.sessionId → SameClaims s s' id)
    (latestAuth : s'.latestAuth = if row.latestSpendingAuthSig.isSome then
      update s.latestAuth row.sessionId (some (Manager.persistedAuth row)) else s.latestAuth) :
    Kept node none s s' := by
  have stored : Stored s'.store row.sessionId := ⟨row, by rwa [store], rfl⟩
  refine kept_at fits mine_none (fun id old => by rwa [store]) (by rw [store]; exact fits.rows)
    others (fun held same => ?_) fun _ => .inr stored
  rw [latestAuth] at same
  split at same
  · rw [Function.update_self] at same
    obtain rfl := Option.some.inj same
    exact .inr ⟨(fits.rows row member).covers, stored⟩
  · exact .inl same

theorem kept_hydrateSession :
    Kept node none s (s.hydrateSession row) := by
  refine kept_hydrate fits member rfl (fun id other => ?_) rfl
  constructor <;> simp [Manager.hydrateSession, other] <;> split <;> simp [other]

theorem kept_hydrateOneOff :
    Kept node none s (s.hydrateOneOff row) := by
  refine kept_hydrate fits member rfl (fun id other => ?_) rfl
  constructor <;> simp [Manager.hydrateOneOff, other]
  split <;> simp [other]

end

theorem fits_hydrate (fits : ∀ row ∈ store, RowFits node row) :
    Fits node (Manager.hydrate store now) := by
  have member : ∀ {s : Manager} {channelKind : ChannelKind} {row : StoredChannel},
      row ∈ store.getActiveChannels channelKind → s.store = store → row ∈ s.store := by
    intro s channelKind row listed same
    rw [same]
    exact ChannelStore.mem_of_getActiveChannels listed
  refine (@hydrate_induction (fun s => Fits node s ∧ s.store = store) store now
    ⟨⟨fits, nofun, nofun⟩, rfl⟩ (fun s row listed holds => ?_) fun s row listed holds => ?_).1
  · exact ⟨(kept_hydrateSession holds.1 (member listed holds.2)).1, holds.2⟩
  · exact ⟨(kept_hydrateOneOff holds.1 (member listed holds.2)).1, holds.2⟩

end Restarting

/-- The step leads into neither of the two unchecked branches. -/
def Process.heeds (node : Node) (process : Process) : Event → Bool
  | .resume n _ => process.tasks[n]?.all fun task => process.state.heeds node task.label
  | .spendingAuth _ _ => true
  | .closeChannelRequest _ _ => true
  | .chore _ => true
  | .restart => true

section Runs

variable {node : Node} {process : Process} {event : Event}

theorem resumes_of_heeds (heeded : process.heeds node event = true) :
    process.Resumes (contract node) event := by
  cases event with
  | resume =>
    intro task found _
    simp only [Process.heeds, Option.mem_def.mp found, Option.all_some] at heeded
    exact heeded
  | spendingAuth | closeChannelRequest | chore | restart => trivial

theorem step_sound (sound : process.Sound (contract node) (Fits node))
    (heeded : process.heeds node event = true) :
    (process.step node event).Sound (contract node) (Fits node) ∧
      Allows node (event.sender process) process.state (process.step node event).state := by
  cases serves : event.isServing with
  | true =>
    cases event with
    | chore =>
      obtain ⟨write, serving⟩ := Option.isSome_iff_exists.mp serves
      have kept : Kept node none process.state (write process.state) :=
        kept_of_serving sound.holds serving
      rw [Process.step_serving serving]
      exact ⟨sound.write contract_shared kept.1 kept.2.1, kept.2⟩
    | _ => cases serves
  | false =>
    by_cases on : event = .restart
    · subst on
      have fits := @fits_hydrate node _ process.state.now sound.holds.rows
      refine ⟨⟨⟨fits.rows, fits.auths, fits.accepted⟩, fun _ member => absurd member List.not_mem_nil⟩,
        fun id stored => ?_, fun id other => (other mine_none).elim⟩
      show Stored (Manager.hydrate process.state.store process.state.now).store id
      rw [store_hydrate]
      exact stored
    · obtain ⟨sound', stretch⟩ := Process.step_sound contract_shared (fun _ => contract_permits) sound
        (resumes_of_heeds heeded) serves on
      exact ⟨sound', stretch.allows⟩

theorem start_sound : Process.start.Sound (contract node) (Fits node) :=
  ⟨fits_hydrate fun _ member => absurd member List.not_mem_nil,
    fun _ member => absurd member List.not_mem_nil⟩

theorem run_sound
    (heeded : (machine node).Along (fun process event => process.heeds node event = true) .start events) :
    ((machine node).run .start events).Sound (contract node) (Fits node) := by
  refine (machine node).run_invariant_along (fun process event next heeded sound taken => ?_)
    start_sound heeded
  obtain rfl := Except.ok.inj taken
  exact (step_sound sound heeded).1

/-- Every signature that is held is a SpendingAuth by the buyer stored for its channel. -/
def HoldsOwnClaims (node : Node) (s : Manager) : Prop :=
  ∀ channelId auth sig, s.latestAuth channelId = some auth → auth.spendingAuthSig = some sig →
    ∃ row, s.store.getChannel channelId = some row ∧
      IsSpendingAuth node row.buyerEvmAddr channelId auth sig

/-- Handling a buyer's message leaves alone what is kept of other buyers' channels. -/
def SparesOthers (node : Node) (process : Process) (event : Event) : Prop :=
  ∀ buyerPeerId, event.sender process = some buyerPeerId →
    ∀ channelId row, process.state.store.getChannel channelId = some row →
      row.buyerEvmAddr ≠ peerIdToAddress buyerPeerId →
        SameClaims process.state ((machine node).exec process event).state channelId

theorem Fits.holdsOwnClaims (fits : Fits node s) : HoldsOwnClaims node s := by
  intro channelId auth sig held signed
  obtain ⟨covers, stored⟩ := fits.auths channelId auth held
  obtain ⟨buyer, belongs, isAuth⟩ := covers sig signed
  obtain ⟨row, found⟩ := ChannelStore.getChannel_of_stored stored
  obtain ⟨member, named⟩ := ChannelStore.mem_of_getChannel found
  have belongs' := (fits.rows row member).belongs
  rw [named] at belongs'
  exact ⟨row, found, belongs'.unique belongs ▸ isAuth⟩

theorem sparesOthers (sound : process.Sound (contract node) (Fits node))
    (heeded : process.heeds node event = true) : SparesOthers node process event := by
  intro buyerPeerId sent channelId row found other
  obtain ⟨member, named⟩ := ChannelStore.mem_of_getChannel found
  refine (step_sound sound heeded).2.2 channelId fun mine => other ?_
  have belongs := (sound.holds.rows row member).belongs
  rw [named] at belongs
  exact belongs.unique (mine buyerPeerId sent)

/-- As long as no session channel's SpendingAuth names a channel tracked for another buyer, and no
    close auth is taken below the amount its row has, claims are the buyers' own. -/
theorem claims_are_the_buyers_own (node : Node) (events : List Event)
    (heeded : (machine node).Along (fun process event => process.heeds node event = true) .start events) :
    let process := (machine node).run .start events
    HoldsOwnClaims node process.state ∧
      ∀ event, process.heeds node event = true → SparesOthers node process event :=
  ⟨(run_sound heeded).holds.holdsOwnClaims, fun _ next => sparesOthers (run_sound heeded) next⟩

end Runs

/-- A channel id is the buyer's address and the end of the salt. -/
def storefront : Node where
  chain := {
    deposits := ⟨1⟩
    channels := ⟨2⟩
    owner := ⟨3⟩
    keccak256 := fun data => ⟨BitVec.ofNat 256 (data.length + 1)⟩
    computeChannelId := fun buyer _ salt => ⟨buyer.word ++ salt.word.setWidth 96⟩ }
  seller := ⟨4⟩
  bindsBuyer := by
    rintro ⟨buyer⟩ _ salt ⟨buyer'⟩ _ salt' same
    have words := congrArg (fun id : Word => id.word.extractLsb' 96 160) same
    dsimp only at words
    rw [BitVec.extractLsb'_append_eq_left, BitVec.extractLsb'_append_eq_left] at words
    rw [words]

def alice : PeerId := ⟨10⟩
def mallory : PeerId := ⟨11⟩

def aliceSalt : Hex := .ofWord ⟨7⟩

def aliceChannelId : Word := storefront.chain.computeChannelId (peerIdToAddress alice) storefront.seller ⟨7⟩

def aliceChannel : Hex := .ofWord aliceChannelId

/-- The hash of no bytes. -/
def noUsage : Word := storefront.chain.keccak256 []

/-- Alice reserves 100; the amount beside her ReserveAuth is not signed. -/
def openingAuth (cumulativeAmount : Int) : SpendingAuthPayload where
  channelId := aliceChannel
  cumulativeAmount := .integer cumulativeAmount
  metadataHash := .ofWord noUsage
  metadata := .bytes []
  spendingAuthSig := some ⟨peerIdToAddress alice, .reserveAuth aliceChannelId 100 3600⟩
  reserveSalt := some aliceSalt
  reserveMaxAmount := some (.integer 100)
  reserveDeadline := some (.integer 3600)

def spendingAuthOf (signer : PeerId) (amount : Nat) : Signature :=
  ⟨peerIdToAddress signer, .spendingAuth aliceChannelId amount noUsage⟩

def fiveAuth (signer : PeerId) : SpendingAuthPayload where
  channelId := aliceChannel
  cumulativeAmount := .integer 5
  metadataHash := .ofWord noUsage
  metadata := .bytes []
  spendingAuthSig := some (spendingAuthOf signer 5)

/-- The oldest waiting task goes on, a number of times, and nothing fails. -/
def goOn (times : Nat) : List Event := List.replicate times (.resume 0 {})

def openingEvents (cumulativeAmount : Int) : List Event :=
  .spendingAuth alice (openingAuth cumulativeAmount) :: goOn 5

def reached (events : List Event) : Process := (machine storefront).run .start events

/-- Mallory signs for Alice's channel; her message has yet to be checked. -/
def hijack : List Event := openingEvents 0 ++ .spendingAuth mallory (fiveAuth mallory) :: goOn 1

/-- Alice asks for a close with an auth below the amount of her opening message, and the seller
    restarts. -/
def understated : List Event :=
  openingEvents 100 ++ .closeChannelRequest alice { channelId := aliceChannel, auth := some {
    cumulativeAmount := .integer 5
    metadataHash := .ofWord noUsage
    metadata := .bytes []
    spendingAuthSig := some (spendingAuthOf alice 5) } } :: goOn 3 ++ [.restart]

theorem hijack_reaches : (Event.resume 0 {}).sender (reached hijack) = some mallory ∧
    ((reached hijack).state.store.getChannel aliceChannel).map (·.buyerEvmAddr)
      = some (peerIdToAddress alice) ∧
    (reached hijack).state.acceptedCumulative aliceChannel = some 0 ∧
    (reached (hijack ++ goOn 1)).state.acceptedCumulative aliceChannel = some 5 ∧
    (reached (hijack ++ goOn 1)).state.latestAuth aliceChannel
      = some ⟨some (spendingAuthOf mallory 5), 5, .bytes []⟩ ∧
    ((reached (hijack ++ goOn 1)).state.store.getChannel aliceChannel).map (·.buyerEvmAddr)
      = some (peerIdToAddress alice) := by
  decide +kernel

theorem understated_reaches :
    (reached understated).state.latestAuth aliceChannel
      = some ⟨some (spendingAuthOf alice 5), 100, .bytes []⟩ := by
  decide +kernel

/-- A stranger's signature replaces what the seller holds of Alice's channel, and the restarted
    seller keeps a signature of 5 as one of 100. -/
theorem claims_of_strangers :
    ¬ HoldsOwnClaims storefront (reached (hijack ++ goOn 1)).state ∧
      ¬ SparesOthers storefront (reached hijack) (.resume 0 {}) ∧
      ¬ HoldsOwnClaims storefront (reached understated).state := by
  obtain ⟨sent, owned, before, after, held, owned'⟩ := hijack_reaches
  refine ⟨fun holds => ?_, fun spares => ?_, fun holds => ?_⟩
  · obtain ⟨row, found, _, _, _, -, -, -, signed⟩ := holds _ _ _ held rfl
    rw [found] at owned'
    have isAlice : row.buyerEvmAddr = peerIdToAddress alice := Option.some.inj owned'
    have signers : peerIdToAddress mallory = row.buyerEvmAddr := congrArg Signature.signer signed
    rw [isAlice] at signers
    revert signers
    decide
  · obtain ⟨row, found, isAlice⟩ := Option.map_eq_some_iff.mp owned
    have same := (spares mallory sent aliceChannel row found (by rw [isAlice]; decide)).acceptedCumulative
    have next : (machine storefront).exec (reached hijack) (.resume 0 {}) = reached (hijack ++ goOn 1) :=
      ((machine storefront).run_concat _ _ _).symm
    rw [next, before, after] at same
    cases same
  · obtain ⟨row, -, id, amount, hash, -, fits, -, signed⟩ := holds _ _ _ understated_reaches rfl
    have amounts := congrArg Signature.message signed
    simp only [spendingAuthOf, Payments.Auth.spendingAuth.injEq] at amounts
    rw [← amounts.2.1] at fits
    revert fits
    decide

/-- Alice pays, and Mallory sends Alice's own signature along as hers. -/
def paying : List Event :=
  openingEvents 0 ++ .spendingAuth alice (fiveAuth alice) :: goOn 2 ++
    .spendingAuth mallory (fiveAuth alice) :: goOn 1

theorem paying_heeded :
    (machine storefront).Along (fun process event => process.heeds storefront event = true) .start paying := by
  decide +kernel

theorem paying_holds :
    (reached paying).state.latestAuth aliceChannel = some ⟨some (spendingAuthOf alice 5), 5, .bytes []⟩ ∧
      HoldsOwnClaims storefront (reached paying).state ∧
      SparesOthers storefront (reached paying) (.resume 0 {}) :=
  have own := claims_are_the_buyers_own storefront paying paying_heeded
  ⟨by decide +kernel, own.1, own.2 (.resume 0 {}) (by decide +kernel)⟩

end AntSeed.Seller
