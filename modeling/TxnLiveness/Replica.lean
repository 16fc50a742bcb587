import TxnLiveness.ShardLog
/-!
# Replicas

What one shard keeps: its table of commands and its progress log. Audits and completions read the
command that is stored at that moment.
-/

namespace TxnLiveness

structure Replica where
  commands : SortedMap TxnId Command := ∅
  log : ShardLog

/-- A change that a task makes to a replica. -/
inductive Edit
  | put (cmd : Command)
  | alter (txn : TxnId) (change : Command → Command)
  | record (role : Role) (event : Event)
  /-- Records an event and passes over a refusal. -/
  | attempt (role : Role) (event : Event)

namespace Replica

/-- The stored command, or one that has not been witnessed. -/
def command (r : Replica) (txn : TxnId) : Command := (r.commands.get? txn).getD { txn }

/-- Stores a command in place of an earlier one. -/
def put (r : Replica) (cmd : Command) : Replica :=
  { r with commands := r.commands.insert cmd.txn cmd }

/-- Changes the stored command, which is created if there is none. -/
def alter (r : Replica) (txn : TxnId) (change : Command → Command) : Replica :=
  { r with commands := r.commands.insert txn (change (r.command txn)) }

def edit (r : Replica) (topology : Topology) : Edit → Replica × Except Fault Unit
  | .put cmd => (r.put cmd, .ok ())
  | .alter txn change => (r.alter txn change, .ok ())
  | .record role event =>
    let (log, result) := r.log.record topology role event
    ({ r with log }, result)
  | .attempt role event => ({ r with log := (r.log.record topology role event).1 }, .ok ())

/-- Makes changes one after the other up to the first that is refused. -/
def editAll (r : Replica) (topology : Topology) : List Edit → Replica × Except Fault Unit
  | [] => (r, .ok ())
  | e :: l =>
    match r.edit topology e with
    | (r, .ok ()) => r.editAll topology l
    | (r, .error fault) => (r, .error fault)

/-- Audits a transaction against its stored command. -/
def audit (r : Replica) (topology : Topology) (txn : TxnId) : Replica × Except Fault Audit :=
  let (log, result) := r.log.audit topology (r.command txn)
  ({ r with log }, result)

/-- Applies a completion. If a recovery found the transaction durable, that is recorded on the
stored command and with the log: only the home shard recovers, so this is the home shard. Resolves
to the remediation to follow. -/
def complete (r : Replica) (topology : Topology) (txn : TxnId) (tag : Tag)
    (completion : Completion) : Replica × Except Fault (Resolution (Option Dispatch)) :=
  match r.log.complete txn tag completion with
  | (log, .error fault) => ({ r with log }, .error fault)
  | (log, .ok .stale) => ({ r with log }, .ok .stale)
  | (log, .ok (.resolved sequel)) =>
    let r := { r with log }
    match sequel.durable with
    | none => (r, .ok (.resolved sequel.followup))
    | some durability =>
      let r := r.alter txn (·.raiseDurability durability)
      match r.log.durableGlobally topology (r.command txn) none .home with
      | (log, .error fault) => ({ r with log }, .error fault)
      | (log, .ok ()) => ({ r with log }, .ok (.resolved sequel.followup))

end Replica

end TxnLiveness
