import TxnLiveness.Tracker.Blocking
import TxnLiveness.Tracker.Coordinate
import TxnLiveness.Tracker.Delegation
import TxnLiveness.Tracker.Disseminate
/-!
# The state of one transaction

The trackers of one transaction on one shard. A tracker is created when it is first used and never
removed.
-/

namespace TxnLiveness

structure TxnState where
  txn : TxnId
  homeKey : Option Key := none
  coordinate : Option Coordinate := none
  disseminate : Option Disseminate := none
  blocking : Option Blocking := none
  delegation : Option Delegation := none
deriving DecidableEq

/-- What an audit plans, and the faults of the trackers that could not plan. -/
structure Audit where
  dispatches : List Dispatch := []
  faults : List Fault := []

namespace Audit

/-- Adds what one tracker planned. -/
def add (a : Audit) : Except Fault (Option Dispatch) → Audit
  | .ok none => a
  | .ok (some dispatch) => { a with dispatches := a.dispatches ++ [dispatch] }
  | .error fault => { a with faults := a.faults ++ [fault] }

end Audit

/-- What has to follow once a completion has been applied. -/
structure Sequel where
  /-- A further remediation, such as an invalidation after a fruitless fetch. -/
  followup : Option Dispatch := none
  /-- Recovery found the transaction durable, which is to be recorded here. -/
  durable : Option Durability := none
deriving DecidableEq

namespace TxnState

/-- Keeps the first home key that is heard of. -/
def rememberHome (s : TxnState) (key : Option Key) : TxnState :=
  { s with homeKey := s.homeKey.or key }

/-! ## Trackers, created on first use -/

def coordinateD (s : TxnState) : Coordinate := s.coordinate.getD {}

def disseminateD (s : TxnState) : Disseminate := s.disseminate.getD {}

def blockingD (s : TxnState) : Blocking := s.blocking.getD {}

/-- The delegation tracker, raised to at least `status`. -/
def delegationD (s : TxnState) (status : DelegationStatus) : Delegation :=
  (s.delegation.getD { status }).raise status

def withCoordinate (s : TxnState) (c : Coordinate) : TxnState := { s with coordinate := some c }

def withDisseminate (s : TxnState) (d : Disseminate) : TxnState := { s with disseminate := some d }

def withBlocking (s : TxnState) (b : Blocking) : TxnState := { s with blocking := some b }

def withDelegation (s : TxnState) (d : Delegation) : TxnState := { s with delegation := some d }

/-! ## Audits -/

def auditBlocking (s : TxnState) (cmd : Command) (topology : Topology) (a : Audit) :
    TxnState × Audit :=
  match s.blocking with
  | none => (s, a)
  | some b =>
    let (b, planned) := b.audit s.txn cmd topology
    (s.withBlocking b, a.add planned)

def auditCoordinate (s : TxnState) (cmd : Command) (a : Audit) : TxnState × Audit :=
  match s.coordinate with
  | none => (s, a)
  | some c =>
    let (c, planned) := c.audit s.txn cmd s.homeKey
    (s.withCoordinate c, a.add planned)

def auditDisseminate (s : TxnState) (cmd : Command) (topology : Topology) (a : Audit) :
    TxnState × Audit :=
  match s.disseminate with
  | none => (s, a)
  | some d =>
    let (d, planned) := d.audit s.txn cmd topology
    (s.withDisseminate d, a.add planned)

def auditDelegation (s : TxnState) (cmd : Command) (a : Audit) : TxnState × Audit :=
  match s.delegation with
  | none => (s, a)
  | some d =>
    let (d, planned) := d.audit s.txn cmd s.homeKey
    (s.withDelegation d, a.add planned)

/-- Looks at every tracker in a fixed order. One that fails does not keep the others from being
looked at. -/
def audit (s : TxnState) (cmd : Command) (topology : Topology) : TxnState × Except Fault Audit :=
  if cmd.txn ≠ s.txn then (s, .error (.wrongTransaction cmd.txn s.txn))
  else
    let (s, a) := s.auditBlocking cmd topology {}
    let (s, a) := s.auditCoordinate cmd a
    let (s, a) := s.auditDisseminate cmd topology a
    let (s, a) := s.auditDelegation cmd a
    (s, .ok a)

/-! ## Completions -/

/-- The resolution of a tracker that has nothing further to ask for. -/
def plain : Resolution Unit → Resolution Sequel
  | .stale => .stale
  | .resolved () => .resolved {}

/-- Hands a completion to the tracker that its tag names. -/
def complete (s : TxnState) (tag : Tag) (completion : Completion) :
    TxnState × Except Fault (Resolution Sequel) :=
  match tag.tracker, completion with
  | .coordinate, .recovered result =>
    match s.coordinate with
    | none => (s, .ok .stale)
    | some c =>
      match c.recovered tag result with
      | (c, .stale) => (s.withCoordinate c, .ok .stale)
      | (c, .resolved durable) => (s.withCoordinate c, .ok (.resolved { durable }))
  | .coordinate, .fetched _ =>
    match s.coordinate with
    | none => (s, .ok .stale)
    | some c =>
      let (c, r) := c.fetched tag
      (s.withCoordinate c, .ok (plain r))
  | .blocking, .fetched result =>
    match s.blocking with
    | none => (s, .ok .stale)
    | some b =>
      match b.fetched s.txn tag result with
      | (b, .error fault) => (s.withBlocking b, .error fault)
      | (b, .ok .stale) => (s.withBlocking b, .ok .stale)
      | (b, .ok (.resolved followup)) => (s.withBlocking b, .ok (.resolved { followup }))
  | .blocking, .invalidated result =>
    match s.blocking with
    | none => (s, .ok .stale)
    | some b =>
      let (b, r) := b.invalidated tag result
      (s.withBlocking b, .ok (plain r))
  | .disseminate, .acknowledged node =>
    match s.disseminate with
    | none => (s, .ok .stale)
    | some d =>
      let (d, r) := d.acknowledged node
      (s.withDisseminate d, .ok (plain r))
  | .disseminate, .roundFinished =>
    match s.disseminate with
    | none => (s, .ok .stale)
    | some d =>
      let (d, r) := d.roundFinished tag
      (s.withDisseminate d, .ok (plain r))
  | .delegation, .informedHome result =>
    match s.delegation with
    | none => (s, .ok .stale)
    | some d =>
      let (d, r) := d.informed tag result
      (s.withDelegation d, .ok (plain r))
  | tracker, completion => (s, .error (.wrongCompletion tracker s.txn completion))

end TxnState

end TxnLiveness
