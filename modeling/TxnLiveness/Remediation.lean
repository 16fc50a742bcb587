import TxnLiveness.Command
import TxnLiveness.Text.Duration
/-!
# Remediations

Trackers never talk to other nodes. An audit plans dispatches; whoever carries one out hands its
completion back under the tag it was dispatched with.
-/

namespace TxnLiveness

/-! ## Tags -/

inductive TrackerKind
  | blocking
  | coordinate
  | disseminate
  | delegation
deriving DecidableEq

def TrackerKind.name : TrackerKind → String
  | .blocking => "Blocking"
  | .coordinate => "Coordinate"
  | .disseminate => "Disseminate"
  | .delegation => "Delegation"

/-- Names the investigation that a remediation belongs to. -/
structure Tag where
  tracker : TrackerKind
  generation : Nat
deriving DecidableEq

/-! ## Dispatches -/

/-- The announcement that a transaction is durable. -/
structure DurableNotice where
  txn : TxnId
  route : Route
  executeAt : Timestamp
  durability : Durability
deriving DecidableEq

/-- A remote step that a tracker wants taken. -/
inductive Remediation
  /-- A consensus round at a higher ballot, seeded with everything observed so far. -/
  | recover (homeKey : Key) (route : Option Route) (token : Token)
  /-- Fetches enough to apply a transaction that is known durable. -/
  | fetchToApply (required : Known) (route : Route) (executeAt : Timestamp) (epoch : Epoch)
  /-- Tells each listed replica that the transaction is durable. -/
  | announceDurable (targets : SortedSet NodeId) (notice : DurableNotice)
  /-- Fetches knowledge that a local dependent is blocked on. -/
  | fetchKnowledge (required : Known) (participants : Participants)
      (executeAt : Option Timestamp) (epoch : Epoch)
  | invalidate (participants : Participants)
  | informHome (homeKey : Key)
deriving DecidableEq

structure Dispatch where
  txn : TxnId
  tag : Tag
  remediation : Remediation
deriving DecidableEq

/-! ## Completions -/

/-- Why a remote operation failed. -/
inductive RemoteFault
  | epochUnknown (epoch : Epoch)
  /-- An operation was given up after so many nanoseconds. -/
  | timedOut (operation : String) (limit : Nat)
  | refused (reason : String)
deriving DecidableEq

def RemoteFault.message : RemoteFault → String
  | .epochUnknown e => s!"epoch {e} is not known locally"
  | .timedOut operation limit => s!"{operation} timed out after {Text.describeDuration limit}"
  | .refused reason => reason

/-- The result of a remediation, delivered back to the shard that dispatched it. -/
inductive Completion
  | recovered (result : Except RemoteFault Token)
  | fetched (result : Except RemoteFault Known)
  | invalidated (result : Except RemoteFault Token)
  | informedHome (result : Except RemoteFault Unit)
  /-- A replica confirmed that it knows the transaction to be durable. -/
  | acknowledged (node : NodeId)
  /-- Every call of an announcement round has ended. -/
  | roundFinished

namespace Completion

def isFailure : Completion → Bool
  | recovered (.error _) | fetched (.error _) | invalidated (.error _) | informedHome (.error _) =>
    true
  | _ => false

/-- A record written with its name and fields. -/
def describeRecord (name : String) (fields : List (String × String)) : String :=
  name ++ " \x7b " ++ ", ".intercalate (fields.map fun f => f.1 ++ ": " ++ f.2) ++ " \x7d"

def describeBallot (b : Ballot) : String :=
  describeRecord "Ballot" [("counter", toString b.counter), ("node_id", toString b.node)]

def describeToken (t : Token) : String :=
  describeRecord "ProgressToken"
    [("durability", t.durability.name), ("status", t.status.name),
      ("promised", describeBallot t.promised), ("accepted", describeBallot t.accepted)]

def describeKnown (k : Known) : String :=
  describeRecord "Known"
    [("definition", k.definition.name), ("execute_at", k.executeAt.name), ("deps", k.deps.name),
      ("outcome", k.outcome.name)]

def describeResult {α : Type} (describe : α → String) : Except RemoteFault α → String
  | .ok a => "Ok(" ++ describe a ++ ")"
  | .error e => "Err(" ++ e.message ++ ")"

/-- The completion as messages show it. -/
def describe : Completion → String
  | recovered r => "Recovered(" ++ describeResult describeToken r ++ ")"
  | fetched r => "Fetched(" ++ describeResult describeKnown r ++ ")"
  | invalidated r => "Invalidated(" ++ describeResult describeToken r ++ ")"
  | informedHome r => "InformedHome(" ++ describeResult (fun _ => "()") r ++ ")"
  | acknowledged n => "DurabilityAcknowledged(" ++ toString n ++ ")"
  | roundFinished => "AnnouncementRoundFinished"

end Completion

/-- What became of a completion. -/
inductive Resolution (α : Type)
  /-- The tracker moved on since the dispatch and nothing changed. -/
  | stale
  | resolved (a : α)
deriving DecidableEq

end TxnLiveness
