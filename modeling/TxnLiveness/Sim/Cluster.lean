import TxnLiveness.Node.Timeline
import TxnLiveness.Text.Duration
/-!
# The simulated cluster

A cluster of one epoch in which every transaction concerns every node. A remote call takes a round
trip and fails by chance. Where chance comes from is left open.
-/

namespace TxnLiveness.Sim

/-- The node that is simulated in full. -/
def localNode : NodeId := 1

def epoch : Epoch := 1

/-- Every node takes part in everything. -/
def topology (nodes : Nat) : Topology where
  current := epoch
  hasEpoch e := e ≤ epoch
  nodes _ _ _ := .ofList (List.range' 1 (max nodes 1))

/-- What a recovery finds: every second one finds the transaction applied elsewhere. -/
def recovery (found : Bool) (seed : Token) : Token :=
  let ballot : Ballot := ⟨seed.promised.counter + 1, localNode⟩
  let outcome : Token :=
    if found then ⟨.durable, .applied, ballot, ballot⟩
    else ⟨.notDurable, .committed, ballot, ballot⟩
  outcome.merge seed

/-- What a fetch brings back, which once in a while is that no replica saw the definition. -/
def fetchedKnowledge (lost : Bool) (required : Known) : Known :=
  if lost then .nothing else required.merge .defined

/-- What an invalidation comes to. -/
def invalidation : Token := ⟨.durable, .invalidated, ⟨1, localNode⟩, ⟨1, localNode⟩⟩

/-- A source of chance: whether an event of so many in a hundred happens. -/
abbrev Roll (σ : Type) := σ → Nat → Bool × σ

section Calls

variable {σ : Type} (roll : Roll σ)

/-- How a call ends that does not fail. -/
def succeed (dice : σ) : Call → Reply × σ
  | .recover _ _ _ seed =>
    let (found, dice) := roll dice 50
    (.token (recovery found seed), dice)
  | .fetch _ required _ _ _ =>
    let (lost, dice) := roll dice 10
    (.known (fetchedKnowledge lost required), dice)
  | .invalidate .. => (.token invalidation, dice)
  | .informHome .. | .informDurable .. => (.done, dice)

/-- How a call ends, which fails `failurePct` times in a hundred. -/
def finish (failurePct : Nat) (call : Call) (dice : σ) : Answer × σ :=
  let (failed, dice) := roll dice failurePct
  if failed then
    (.error (.refused ("simulated " ++ " ".intercalate call.words ++ " failure")), dice)
  else
    let (reply, dice) := succeed roll dice call
    (.ok reply, dice)

/-- A remote whose calls take a round trip. They break down if that takes longer than can be
counted. -/
def cluster (latency failurePct : Nat) : Remote σ where
  call _ call :=
    if 2 * latency < Text.durationBound then some (2 * latency, finish roll failurePct call)
    else none

end Calls

end TxnLiveness.Sim
