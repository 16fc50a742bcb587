import TxnLiveness.Topology
/-!
# Remediations in flight

A launched remediation first makes sure that its epoch is known and then makes its call. An
announcement makes one call for each target, a limited number of them at a time, and has ended once
all of its calls have.
-/

namespace TxnLiveness

/-- A call on another node. -/
inductive Call
  | recover (txn : TxnId) (homeKey : Key) (route : Option Route) (seed : Token)
  | fetch (txn : TxnId) (required : Known) (participants : Participants)
      (executeAt : Option Timestamp) (epoch : Epoch)
  | invalidate (txn : TxnId) (participants : Participants)
  | informHome (txn : TxnId) (homeKey : Key)
  | informDurable (target : NodeId) (notice : DurableNotice)
deriving DecidableEq

/-- The words that name the operation. -/
def Call.words : Call → List String
  | .recover .. => ["recover"]
  | .fetch .. => ["fetch"]
  | .invalidate .. => ["invalidate"]
  | .informHome .. => ["inform", "home"]
  | .informDurable .. => ["inform", "durable"]

/-- What a call brings back. -/
inductive Reply
  | token (t : Token)
  | known (k : Known)
  | done
deriving DecidableEq

/-- How a call ends. -/
abbrev Answer := Except RemoteFault Reply

/-- The completion that an answer makes of a call, if the answer is of the kind asked for. Single
announcements are not completions of their own. -/
def Call.completion? : Call → Answer → Option Completion
  | .recover .., .ok (.token t) => some (.recovered (.ok t))
  | .recover .., .error e => some (.recovered (.error e))
  | .fetch .., .ok (.known k) => some (.fetched (.ok k))
  | .fetch .., .error e => some (.fetched (.error e))
  | .invalidate .., .ok (.token t) => some (.invalidated (.ok t))
  | .invalidate .., .error e => some (.invalidated (.error e))
  | .informHome .., .ok .done => some (.informedHome (.ok ()))
  | .informHome .., .error e => some (.informedHome (.error e))
  | _, _ => none

/-- The calls of an announcement. -/
structure Round where
  notice : DurableNotice
  /-- The targets not called yet. -/
  waiting : List NodeId
  /-- The targets called and not heard of. -/
  active : List NodeId := []
deriving DecidableEq

namespace Round

/-- Calls waiting targets as far as the limit allows. A limit of nothing allows one. -/
def refill (r : Round) (limit : Nat) : Round × List Call :=
  let room := max limit 1 - r.active.length
  let next := r.waiting.take room
  ({ r with waiting := r.waiting.drop room, active := r.active ++ next },
    next.map (.informDurable · r.notice))

def isOver (r : Round) : Bool := r.active.isEmpty

end Round

/-- How far a launched remediation has come. -/
inductive Stage
  | launched (remediation : Remediation)
  | calling (call : Call)
  | announcing (round : Round)
deriving DecidableEq

/-- How many calls there are still to make or to hear of, once underway. -/
def Stage.openCalls : Stage → Nat
  | .launched _ => 0
  | .calling _ => 1
  | .announcing round => round.waiting.length + round.active.length

/-- A remediation in flight. It keeps the store that launched it alive. -/
structure Flight where
  id : Nat
  /-- The store that launched it, by its place among the node's stores. -/
  store : Nat
  txn : TxnId
  tag : Tag
  stage : Stage
deriving DecidableEq

/-- What a remediation sets out to do: a single call, after its epoch is known where it names one,
or a round of announcements. -/
inductive Errand
  | single (epoch : Option Epoch) (call : Call)
  | round (r : Round)

def Remediation.errand (txn : TxnId) : Remediation → Errand
  | .recover homeKey route token => .single (some txn.epoch) (.recover txn homeKey route token)
  | .fetchToApply required route executeAt epoch =>
    .single (some epoch) (.fetch txn required (.route route) (some executeAt) epoch)
  | .fetchKnowledge required participants executeAt epoch =>
    .single (some epoch) (.fetch txn required participants executeAt epoch)
  | .invalidate participants => .single none (.invalidate txn participants)
  | .informHome homeKey => .single none (.informHome txn homeKey)
  | .announceDurable targets notice => .round { notice, waiting := targets.toList }

end TxnLiveness
