import AntSeed.Lib.Mapping
import AntSeed.Lib.Reverting

/-! # Ownership in two steps, and pausing

The administration a contract inherits from `Ownable2Step` and `Pausable`.
-/

namespace Evm

inductive AdminError where
  | ownableUnauthorizedAccount | enforcedPause | expectedPause
  deriving DecidableEq, Repr

structure Admin where
  owner : Address
  pendingOwner : Address := 0
  paused : Bool := false
  deriving DecidableEq, Repr

inductive AdminCall where
  | transferOwnership (newOwner : Address)
  | acceptOwnership
  | renounceOwnership
  | pause
  | unpause

namespace Admin

/-- `onlyOwner` -/
def requireOwner (a : Admin) (sender : Address) : Tx AdminError Unit :=
  require (sender = a.owner) .ownableUnauthorizedAccount

/-- `whenNotPaused` -/
def requireNotPaused (a : Admin) : Tx AdminError Unit :=
  require (a.paused = false) .enforcedPause

def perform (a : Admin) (sender : Address) : AdminCall → Tx AdminError Admin
  | .transferOwnership newOwner => do
      a.requireOwner sender
      pure { a with pendingOwner := newOwner }
  | .acceptOwnership => do
      require (sender = a.pendingOwner) .ownableUnauthorizedAccount
      pure { a with owner := sender, pendingOwner := 0 }
  | .renounceOwnership => do
      a.requireOwner sender
      pure { a with owner := 0, pendingOwner := 0 }
  | .pause => do
      a.requireOwner sender
      require (a.paused = false) .enforcedPause
      pure { a with paused := true }
  | .unpause => do
      a.requireOwner sender
      require (a.paused = true) .expectedPause
      pure { a with paused := false }

end Admin

end Evm
