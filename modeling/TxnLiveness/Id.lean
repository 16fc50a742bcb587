/-!
# Identifiers, timestamps and ballots

Transactions are identified by the epoch they were proposed in, a clock reading and the node that
proposed them, and ordered by these in turn. Ballots order competing recovery attempts.
-/

namespace TxnLiveness

abbrev NodeId := Nat

/-- The identifier of one command store on a node. -/
abbrev ShardId := Nat

/-- The number of a cluster configuration. -/
abbrev Epoch := Nat

/-! ## Timestamps -/

/-- A hybrid-logical timestamp, ordered by epoch, clock, then node. -/
structure Timestamp where
  epoch : Epoch
  hlc : Nat
  node : NodeId
deriving DecidableEq

namespace Timestamp

def cmp : Timestamp → Timestamp → Ordering :=
  compareLex (compareOn epoch) (compareLex (compareOn hlc) (compareOn node))

instance : Ord Timestamp := ⟨cmp⟩

end Timestamp

/-! ## Transactions -/

/-- The identifier of a transaction, assigned by the node that proposed it. -/
structure TxnId where
  epoch : Epoch
  hlc : Nat
  node : NodeId
deriving DecidableEq

namespace TxnId

def cmp : TxnId → TxnId → Ordering :=
  compareLex (compareOn epoch) (compareLex (compareOn hlc) (compareOn node))

instance : Ord TxnId := ⟨cmp⟩

instance : Std.TransOrd TxnId :=
  inferInstanceAs (Std.TransCmp
    (compareLex (compareOn epoch) (compareLex (compareOn hlc) (compareOn node))))

instance : Std.LawfulEqOrd TxnId where
  eq_of_compare {a b} h := by
    change cmp a b = .eq at h
    simp only [cmp, compareLex, compareOn, Ordering.then_eq_eq, Nat.compare_eq_eq] at h
    cases a
    cases b
    simp_all

def toTimestamp (t : TxnId) : Timestamp := ⟨t.epoch, t.hlc, t.node⟩

instance : ToString TxnId := ⟨fun t => s!"{t.epoch}:{t.hlc}:{t.node}"⟩

end TxnId

/-! ## Ballots -/

/-- The number of a recovery attempt, ordered by counter, then node. -/
structure Ballot where
  counter : Nat
  node : NodeId
deriving DecidableEq

namespace Ballot

def zero : Ballot := ⟨0, 0⟩

instance : Inhabited Ballot := ⟨zero⟩

def cmp : Ballot → Ballot → Ordering :=
  compareLex (compareOn counter) (compareOn node)

instance : Ord Ballot := ⟨cmp⟩

instance : LE Ballot := leOfOrd

instance : Max Ballot := maxOfLe

end Ballot

end TxnLiveness
