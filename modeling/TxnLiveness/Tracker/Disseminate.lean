import TxnLiveness.Fault
import TxnLiveness.Topology
/-!
# The disseminate tracker

Once a transaction is durable, every replica from its proposal to its execution should learn so.
Who they are can be told only once the command is pre-committed with a full route and the execution
epoch is known here. What is recorded before that waits.
-/

namespace TxnLiveness

/-- The replicas that still lack something. -/
structure Lacking where
  /-- Not known to be aware that the transaction is durable. -/
  awareness : SortedSet NodeId
  /-- Not known to have persisted it. -/
  outcome : SortedSet NodeId
deriving DecidableEq

/-- Drops replicas that have persisted the transaction, which makes them aware as well. -/
def Lacking.persisted (l : Lacking) (nodes : SortedSet NodeId) : Lacking :=
  ⟨l.awareness.diff nodes, l.outcome.diff nodes⟩

structure Disseminate where
  status : DisseminateStatus := .notExecuted
  progress : Progress := .noneExpected
  /-- The replicas that still lack something, once it can be told who they are. -/
  lacking : Option Lacking := none
  /-- Who has persisted the transaction, recorded before the replicas could be told. -/
  deferred : List (SortedSet NodeId) := []
  generation : Nat := 0
deriving DecidableEq

namespace Disseminate

def isReady (d : Disseminate) : Bool := d.lacking.isSome

/-- Done as soon as nobody is unaware. -/
def settle (d : Disseminate) : Disseminate :=
  match d.lacking with
  | some l => if l.awareness.isEmpty then { d with status := .done, progress := .done } else d
  | none => d

/-- Records who has persisted the transaction, now that it can be told who has not. -/
def persisted (d : Disseminate) (nodes : SortedSet NodeId) : Disseminate :=
  match d.lacking with
  | some l => { d with lacking := some (l.persisted nodes) }.settle
  | none => d

/-- The replicas to inform, if command and topology allow to tell. -/
def replicas? (cmd : Command) (topology : Topology) : Option (SortedSet NodeId) :=
  match cmd.route, cmd.executeAt with
  | some route, some time =>
    if cmd.hasBeen .preCommitted && route.isFull && topology.hasEpoch time.epoch then
      some (topology.nodes route cmd.txn.epoch time.epoch)
    else none
  | _, _ => none

/-- Finds out who is to be informed, if that can be told now, and catches up on what waited. -/
def ready (d : Disseminate) (cmd : Command) (topology : Topology) : Disseminate :=
  match d.lacking with
  | some _ => d
  | none =>
    match replicas? cmd topology with
    | none => d
    | some nodes =>
      d.deferred.foldl persisted { d with lacking := some ⟨nodes, nodes⟩, deferred := [] }

/-- Records who has persisted the transaction, or has it wait. -/
def persistedWhenReady (d : Disseminate) (nodes : SortedSet NodeId) : Disseminate :=
  if d.isReady then d.persisted nodes else { d with deferred := d.deferred ++ [nodes] }

/-- The transaction is durable, and `nodes`, where given, have persisted it. -/
def durableGlobally (d : Disseminate) (cmd : Command) (topology : Topology)
    (nodes : Option (SortedSet NodeId)) : Disseminate :=
  if d.status = .done then d
  else
    let d := { d with status := .durable, progress := .expected }
    match nodes with
    | none => d
    | some nodes => (d.ready cmd topology).persistedWhenReady nodes

/-- The transaction has been persisted on this node. -/
def durableLocally (d : Disseminate) (node : NodeId) : Disseminate :=
  if d.status = .done then d
  else { d with status := .durable, progress := .expected }.persistedWhenReady (.ofList [node])

def audit (d : Disseminate) (txn : TxnId) (cmd : Command) (topology : Topology) :
    Disseminate × Except Fault (Option Dispatch) :=
  if d.status ≠ .durable then (d, .ok none)
  else
    let d := d.ready cmd topology
    match d.lacking with
    | none => (d, .ok none)
    | some l =>
      if d.progress ≠ .noProgress then ({ d with progress := d.progress.advance }, .ok none)
      else if l.awareness.isEmpty then ({ d with status := .done, progress := .done }, .ok none)
      else
        let d := { d with progress := .investigating }
        match cmd.route, cmd.executeAt with
        | none, _ => (d, .error (.readyWithoutRoute txn))
        | some _, none => (d, .error (.readyWithoutExecuteAt txn))
        | some route, some time =>
          let generation := d.generation + 1
          ({ d with generation }, .ok (some ⟨txn, ⟨.disseminate, generation⟩,
            .announceDurable l.awareness ⟨txn, route, time, .durable⟩⟩))

/-- A replica confirmed that it knows. That holds whichever round it answers. -/
def acknowledged (d : Disseminate) (node : NodeId) : Disseminate × Resolution Unit :=
  if d.status = .done then (d, .stale)
  else
    match d.lacking with
    | none => (d, .stale)
    | some l =>
      ({ d with lacking := some { l with awareness := l.awareness.erase node } }.settle,
        .resolved ())

/-- Every call of a round has ended. Whoever is still unaware is told again after a quiet period. -/
def roundFinished (d : Disseminate) (tag : Tag) : Disseminate × Resolution Unit :=
  if d.progress = .investigating ∧ d.generation = tag.generation then
    ({ d with progress := .expected }, .resolved ())
  else (d, .stale)

end Disseminate

end TxnLiveness
