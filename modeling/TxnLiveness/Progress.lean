import TxnLiveness.Chain
/-!
# Progress

Whether a tracker expects something to advance its transaction, and the statuses that the trackers
keep. A quiet audit turns `expected` into `noProgress` and only the next one escalates, so one
period of silence is tolerated.
-/

namespace TxnLiveness

inductive Progress
  | noneExpected
  | expected
  | noProgress
  | investigating
  | done
deriving DecidableEq

namespace Progress

/-- The transition of an audit that does not escalate. -/
def advance : Progress → Progress
  | expected | noProgress => noProgress
  | p => p

theorem eq_of_advance {p q : Progress} (h : p.advance = q) (hq : q ≠ noProgress) : p = q := by
  cases p <;> simp_all [advance]

def name : Progress → String
  | noneExpected => "NoneExpected"
  | expected => "Expected"
  | noProgress => "NoProgress"
  | investigating => "Investigating"
  | done => "Done"

end Progress

/-- What a shard is to a transaction. -/
inductive Role
  /-- Owns the home key and with it the transaction's liveness. -/
  | home
  /-- Takes part, but relies on the home shard for liveness. -/
  | nonHome
  /-- Cannot yet tell which of the two it is. -/
  | indeterminate
deriving DecidableEq

namespace Role

def isHome (r : Role) : Bool := r = home

def isProgress (r : Role) : Bool := r ≠ indeterminate

def name : Role → String
  | home => "Home"
  | nonHome => "NonHome"
  | indeterminate => "Indeterminate"

end Role

/-! ## Statuses -/

/-- The home shard's view of how far the transaction's coordinator got. -/
inductive CoordinateStatus
  | notWitnessed
  | uncommitted
  | committed
  | readyToExecute
  | done
deriving DecidableEq

namespace CoordinateStatus

instance : Chain CoordinateStatus where
  rank := CoordinateStatus.ctorIdx
  rank_inj a b := by cases a <;> cases b <;> decide

def name : CoordinateStatus → String
  | notWitnessed => "NotWitnessed"
  | uncommitted => "Uncommitted"
  | committed => "Committed"
  | readyToExecute => "ReadyToExecute"
  | done => "Done"

end CoordinateStatus

/-- The home shard's view of whether every replica knows the outcome to be durable. -/
inductive DisseminateStatus
  | notExecuted
  | durable
  | done
deriving DecidableEq

namespace DisseminateStatus

instance : Chain DisseminateStatus where
  rank := DisseminateStatus.ctorIdx
  rank_inj a b := by cases a <;> cases b <;> decide

def name : DisseminateStatus → String
  | notExecuted => "NotExecuted"
  | durable => "Durable"
  | done => "Done"

end DisseminateStatus

/-- Another shard's view of whether the home shard is known to track the transaction. -/
inductive DelegationStatus
  | atRisk
  | stillAtRisk
  | investigating
  | safe
deriving DecidableEq

namespace DelegationStatus

/-- Investigating and safe share a level: neither is above the other. -/
def level : DelegationStatus → Nat
  | atRisk => 0
  | stillAtRisk => 1
  | investigating | safe => 2

instance : LT DelegationStatus := ⟨fun a b => a.level < b.level⟩

instance (a b : DelegationStatus) : Decidable (a < b) :=
  inferInstanceAs (Decidable (a.level < b.level))

/-- Compares two statuses, unless they are different and of one level. -/
def compare? (a b : DelegationStatus) : Option Ordering :=
  if a = b then some .eq else if a < b then some .lt else if b < a then some .gt else none

def name : DelegationStatus → String
  | atRisk => "Unsafe"
  | stillAtRisk => "StillUnsafe"
  | investigating => "Investigating"
  | safe => "Safe"

end DelegationStatus

end TxnLiveness
