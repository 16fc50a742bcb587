import TxnLiveness.Fault
/-!
# The delegation tracker

A shard that is not the home shard leaves liveness to the home shard, but only once it knows that
the home shard is aware of the transaction.
-/

namespace TxnLiveness

structure Delegation where
  status : DelegationStatus
  generation : Nat := 0
deriving DecidableEq

namespace Delegation

/-- Adopts a status that is above the present one. -/
def raise (d : Delegation) (status : DelegationStatus) : Delegation :=
  if d.status < status then { d with status } else d

def audit (d : Delegation) (txn : TxnId) (cmd : Command) (homeKey : Option Key) :
    Delegation × Except Fault (Option Dispatch) :=
  match d.status with
  | .safe | .investigating => (d, .ok none)
  | .atRisk => ({ d with status := .stillAtRisk }, .ok none)
  | .stillAtRisk =>
    let d := { d with status := .investigating }
    match homeKey.or cmd.homeKey with
    | none => (d, .error (.informWithoutHome txn))
    | some key =>
      let generation := d.generation + 1
      ({ d with generation }, .ok (some ⟨txn, ⟨.delegation, generation⟩, .informHome key⟩))

/-- An attempt to inform the home shard ended. -/
def informed (d : Delegation) (tag : Tag) (result : Except RemoteFault Unit) :
    Delegation × Resolution Unit :=
  if d.status ≠ .investigating ∨ d.generation ≠ tag.generation then (d, .stale)
  else
    match result with
    | .ok () => ({ d with status := .safe }, .resolved ())
    | .error _ => ({ d with status := .atRisk }, .resolved ())

end Delegation

end TxnLiveness
