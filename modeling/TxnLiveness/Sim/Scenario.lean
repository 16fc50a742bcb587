import TxnLiveness.Sim.Cluster
/-!
# Stalled transactions

The transactions that a simulation starts from, each stalled in one of five phases.
-/

namespace TxnLiveness.Sim

/-- How a transaction stalled. -/
inductive Stall
  /-- The coordinator went quiet after pre-accept. -/
  | coordinator
  /-- A shard that is not the home shard has not heard from the home shard. -/
  | unheard
  /-- The outcome is durable and nobody has been told. -/
  | untold
  /-- Something here depends on a transaction of which nothing is known. -/
  | dependency
  /-- Durable, but never applied here. -/
  | unapplied
deriving DecidableEq

/-- The stalls take turns. -/
def Stall.ofIndex (i : Nat) : Stall :=
  match i % 5 with
  | 0 => .coordinator
  | 1 => .unheard
  | 2 => .untold
  | 3 => .dependency
  | _ => .unapplied

/-- The identifier of a shard's transaction. -/
def stalledTxn (shard i : Nat) : TxnId := ⟨epoch, shard * 1_000_000 + i + 1, localNode⟩

def stalledHome (shard i : Nat) : Key := .ofString s!"home-{shard}-{i}"

def stalledKey (shard i : Nat) : Key := .ofString s!"key-{shard}-{i}"

/-- The command of a stalled transaction as far as all stalls agree. -/
def stalledCommand (shard i : Nat) : Command where
  txn := stalledTxn shard i
  homeKey := some (stalledHome shard i)
  route := some (.full (stalledHome shard i) (.ofKeys [stalledKey shard i]))

/-- The changes that bring a replica to a stalled transaction. -/
def stall (shard i : Nat) : List Edit :=
  let base := stalledCommand shard i
  let time : Timestamp := ⟨epoch, base.txn.hlc + 1, localNode⟩
  match Stall.ofIndex i with
  | .coordinator =>
    let cmd := { base with status := .preAccepted }
    [.put cmd, .record .home (.preAccepted cmd)]
  | .unheard =>
    let cmd := { base with status := .preAccepted }
    [.put cmd, .record .nonHome (.preAccepted cmd)]
  | .untold =>
    let cmd := { base with status := .applied, durability := .durable, executeAt := some time }
    [.put cmd, .record .home (.executed cmd),
      .record .home (.durableGlobally cmd (some (.ofList [localNode])))]
  | .dependency =>
    [.record .nonHome (.waitingOn base.txn .preApplied (.ofKeys [stalledKey shard i]))]
  | .unapplied =>
    let cmd :=
      { base with status := .readyToExecute, durability := .durable, executeAt := some time }
    [.put cmd, .record .home (.readyToExecute cmd)]

/-- Adds a store with its stalled transactions to a node and has it audited. -/
def addShard (txns : Nat) (n : Node) (shard : ShardId) : Node :=
  let (n, i) := n.spawn shard
  (List.range txns).foldl (fun n k => n.enqueue i (.work (stall shard k) .returned)) (n.register i)

end TxnLiveness.Sim
