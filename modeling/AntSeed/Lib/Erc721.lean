import AntSeed.Lib.Reverting
import AntSeed.Lib.Mapping

/-! # A standard ERC-721 ledger

Owners and approvals of numbered tokens. `update` is the one place where an
owner changes: minting, burning and transferring are `update` with a check of
the previous owner.
-/

namespace Evm

open Function

structure Erc721 where
  owners : Nat → Address := fun _ => 0
  tokenApprovals : Nat → Address := fun _ => 0
  operatorApprovals : Address → Address → Bool := fun _ _ => false

namespace Erc721

variable {ε : Type}

def requireOwned (t : Erc721) (tokenId : Nat) : Tx ε Address :=
  if t.owners tokenId = 0 then .error (.erc721 .nonexistentToken) else .ok (t.owners tokenId)

def isAuthorized (t : Erc721) (owner spender : Address) (tokenId : Nat) : Prop :=
  spender ≠ 0 ∧
    (owner = spender ∨ t.operatorApprovals owner spender = true ∨ t.tokenApprovals tokenId = spender)

instance (t : Erc721) (owner spender : Address) (tokenId : Nat) :
    Decidable (t.isAuthorized owner spender tokenId) := by
  unfold isAuthorized
  infer_instance

def checkAuthorized (t : Erc721) (owner spender : Address) (tokenId : Nat) : Tx ε Unit :=
  if t.isAuthorized owner spender tokenId then .ok ()
  else if owner = 0 then .error (.erc721 .nonexistentToken)
  else .error (.erc721 .insufficientApproval)

/-- `_update`: hand a token over and drop its approval; the zero address as `auth`
    skips the check. Returns the previous owner. -/
def handOver (t : Erc721) (target : Address) (tokenId : Nat) (auth : Address) :
    Tx ε (Erc721 × Address) := do
  let source := t.owners tokenId
  (if auth = 0 then pure () else t.checkAuthorized source auth tokenId)
  pure ({ t with
    tokenApprovals := if source = 0 then t.tokenApprovals else update t.tokenApprovals tokenId 0
    owners := update t.owners tokenId target }, source)

def approve (t : Erc721) (sender target : Address) (tokenId : Nat) : Tx ε Erc721 := do
  let owner ← t.requireOwned tokenId
  if sender ≠ 0 ∧ owner ≠ sender ∧ t.operatorApprovals owner sender = false then
    .error (.erc721 .invalidApprover)
  else .ok { t with tokenApprovals := update t.tokenApprovals tokenId target }

def setApprovalForAll (t : Erc721) (sender operator : Address) (approved : Bool) : Tx ε Erc721 :=
  if operator = 0 then .error (.erc721 .invalidOperator)
  else .ok { t with
    operatorApprovals := update t.operatorApprovals sender
      (update (t.operatorApprovals sender) operator approved) }

variable {t t' : Erc721} {tokenId : Nat} {auth source target : Address}

theorem requireOwned_eq_ok :
    (t.requireOwned tokenId : Tx ε Address) = .ok owner ↔ t.owners tokenId = owner ∧ owner ≠ 0 := by
  unfold requireOwned
  split
  next none => simp +contextual [none, eq_comm]
  next some =>
    constructor
    · intro h
      cases h
      exact ⟨rfl, some⟩
    · rintro ⟨rfl, -⟩
      rfl

/-- Nobody approves for the zero address, and tokens without an owner have no approval. -/
structure Proper (t : Erc721) : Prop where
  operators : ∀ operator, t.operatorApprovals 0 operator = false
  approvals : ∀ tokenId, t.owners tokenId = 0 → t.tokenApprovals tokenId = 0

theorem handOver_eq_ok
    (h : (t.handOver target tokenId auth : Tx ε (Erc721 × Address)) = .ok (t', source)) :
    source = t.owners tokenId ∧ t'.owners = update t.owners tokenId target := by
  obtain ⟨-, -, h⟩ := ran h
  cases h
  exact ⟨rfl, rfl⟩

theorem owned_of_handOver (proper : t.Proper) (somebody : auth ≠ 0)
    (h : (t.handOver target tokenId auth : Tx ε (Erc721 × Address)) = .ok (t', source)) :
    source ≠ 0 := by
  obtain ⟨_, checked, h⟩ := ran h
  cases h
  rw [if_neg somebody] at checked
  intro unowned
  unfold checkAuthorized at checked
  split at checked
  next authorized =>
    obtain ⟨-, isOwner | isOperator | isApproved⟩ := authorized
    · exact somebody (isOwner ▸ unowned)
    · rw [unowned, proper.operators] at isOperator
      cases isOperator
    · rw [proper.approvals tokenId unowned] at isApproved
      exact somebody isApproved.symm
  · cases checked

theorem Proper.handOver (proper : t.Proper)
    (h : (t.handOver target tokenId auth : Tx ε (Erc721 × Address)) = .ok (t', source)) :
    t'.Proper := by
  obtain ⟨-, -, h⟩ := ran h
  cases h
  refine ⟨proper.operators, fun id unowned => ?_⟩
  by_cases same : id = tokenId
  · subst same
    by_cases fresh : t.owners id = 0
    · simpa [fresh] using proper.approvals id fresh
    · simp [fresh]
  · have before : t.tokenApprovals id = 0 := proper.approvals id (by simpa [same] using unowned)
    by_cases fresh : t.owners tokenId = 0
    · simpa [fresh] using before
    · simpa [fresh, same] using before

theorem handOver_meets (token : ∀ e, allowed (.erc721 e)) :
    Meets (t.handOver target tokenId auth : Tx ε (Erc721 × Address)) allowed fun out =>
      out.2 = t.owners tokenId ∧ out.1.owners = update t.owners tokenId target ∧
        (t.Proper → out.1.Proper) ∧ (t.Proper → auth ≠ 0 → out.2 ≠ 0) := by
  have refused : Meets (t.handOver target tokenId auth : Tx ε (Erc721 × Address)) allowed
      fun _ => True := by
    refine .bind (Q := fun _ => True) ?_ fun _ _ => trivial
    refine .ite (fun _ => trivial) fun _ => Meets.ite (fun _ => trivial) fun _ => ?_
    exact .ite (fun _ => token _) fun _ => token _
  refine refused.strengthen fun out returned _ => ?_
  obtain ⟨source, owners⟩ := handOver_eq_ok returned
  exact ⟨source, owners, fun proper => proper.handOver returned,
    fun proper somebody => owned_of_handOver proper somebody returned⟩

theorem Proper.approve (proper : t.Proper)
    (h : (t.approve sender target tokenId : Tx ε Erc721) = .ok t') :
    t'.Proper ∧ t'.owners = t.owners := by
  obtain ⟨owner, owned, h⟩ := ran h
  obtain ⟨rfl, somebody⟩ := requireOwned_eq_ok.mp owned
  split at h
  · cases h
  · cases h
    refine ⟨⟨proper.operators, fun id unowned => ?_⟩, rfl⟩
    have different : id ≠ tokenId := by
      rintro rfl
      exact somebody unowned
    simpa [different] using proper.approvals id unowned

theorem Proper.setApprovalForAll (proper : t.Proper)
    (somebody : sender ≠ 0)
    (h : (t.setApprovalForAll sender operator approved : Tx ε Erc721) = .ok t') :
    t'.Proper ∧ t'.owners = t.owners := by
  unfold Erc721.setApprovalForAll at h
  split at h
  · cases h
  · cases h
    refine ⟨⟨fun other => ?_, proper.approvals⟩, rfl⟩
    simpa [Function.update_of_ne somebody.symm] using proper.operators other

end Erc721

end Evm
