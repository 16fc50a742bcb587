import TxnLiveness.Id
import TxnLiveness.Known
import TxnLiveness.Route
/-!
# Commands

A command is a replica's record of one transaction. Trackers read it and never change it. A token
is the part of it that recovery attempts hand on from one to the next.
-/

namespace TxnLiveness

/-- The phase of a command, in protocol order. -/
inductive Status
  | notWitnessed
  | preAccepted
  | acceptedInvalidate
  | accepted
  | preCommitted
  | committed
  | readyToExecute
  | preApplied
  | applied
  | invalidated
deriving DecidableEq

namespace Status

instance : Chain Status where
  rank := Status.ctorIdx
  rank_inj a b := by cases a <;> cases b <;> decide

def name : Status → String
  | notWitnessed => "NotWitnessed"
  | preAccepted => "PreAccepted"
  | acceptedInvalidate => "AcceptedInvalidate"
  | accepted => "Accepted"
  | preCommitted => "PreCommitted"
  | committed => "Committed"
  | readyToExecute => "ReadyToExecute"
  | preApplied => "PreApplied"
  | applied => "Applied"
  | invalidated => "Invalidated"

/-- What a replica knows once it has reached a phase. -/
def known : Status → Known
  | notWitnessed | acceptedInvalidate => .nothing
  | preAccepted | accepted => .proposed
  | preCommitted => .timed
  | committed | readyToExecute => .committed
  | preApplied | applied => .preApplied
  | invalidated => .invalidated

end Status

inductive Durability
  | notDurable
  /-- Persisted by this replica alone. -/
  | locally
  /-- Persisted by a quorum of every shard involved. -/
  | durable
deriving DecidableEq

namespace Durability

instance : Chain Durability where
  rank := Durability.ctorIdx
  rank_inj a b := by cases a <;> cases b <;> decide

def name : Durability → String
  | notDurable => "NotDurable"
  | locally => "Local"
  | durable => "Durable"

end Durability

/-- What recovery attempts have observed, merged so that a later attempt loses nothing. -/
structure Token where
  durability : Durability := .notDurable
  status : Status := .notWitnessed
  promised : Ballot := .zero
  accepted : Ballot := .zero
deriving DecidableEq

namespace Token

def none : Token := {}

/-- The larger of two in every component. -/
def merge (a b : Token) : Token where
  durability := max a.durability b.durability
  status := max a.status b.status
  promised := max a.promised b.promised
  accepted := max a.accepted b.accepted

end Token

/-- A replica's record of one transaction. -/
structure Command where
  txn : TxnId
  status : Status := .notWitnessed
  durability : Durability := .notDurable
  route : Option Route := .none
  homeKey : Option Key := .none
  executeAt : Option Timestamp := .none
  promised : Ballot := .zero
  accepted : Ballot := .zero
deriving DecidableEq

namespace Command

def notWitnessed (txn : TxnId) : Command := { txn }

/-- Whether the command has reached a phase. -/
def hasBeen (c : Command) (s : Status) : Bool := s ≤ c.status

def known (c : Command) : Known := c.status.known

def token (c : Command) : Token := ⟨c.durability, c.status, c.promised, c.accepted⟩

/-- Durability only ever increases. -/
def raiseDurability (c : Command) (d : Durability) : Command :=
  { c with durability := max c.durability d }

/-- The widest footprint known for the command. -/
def footprint (c : Command) : Footprint :=
  match c.route, c.homeKey with
  | some r, _ => r.participants
  | .none, some k => .ofKeys [k]
  | .none, .none => ∅

end Command

end TxnLiveness
