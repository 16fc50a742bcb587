import TxnLiveness.Ascending.Map
import TxnLiveness.TxnState
/-!
# The progress log of a shard

A shard records what it learns of its transactions through events. Only an audit ever starts a
remediation. Each operation returns the log it leaves, also where it fails.
-/

namespace TxnLiveness

structure ShardLog where
  shard : ShardId
  node : NodeId
  states : SortedMap TxnId TxnState := ∅

/-- What a shard can learn of a transaction. -/
inductive Event
  | witnessed (txn : TxnId) (homeKey : Key)
  | preAccepted (cmd : Command)
  | accepted (cmd : Command)
  | committed (cmd : Command)
  | readyToExecute (cmd : Command)
  | executed (cmd : Command)
  | invalidated (cmd : Command)
  | durableLocally (txn : TxnId)
  /-- Durable across the cluster, with the replicas known to have persisted it, if told. -/
  | durableGlobally (cmd : Command) (persistedOn : Option (SortedSet NodeId))
  /-- Another replica reported the transaction durable. -/
  | durableElsewhere (txn : TxnId) (keys : Footprint)
  /-- Something here cannot execute until `txn` is known to at least `required` over `keys`. -/
  | waitingOn (txn : TxnId) (required : Known) (keys : Footprint)

namespace ShardLog

def get? (log : ShardLog) (txn : TxnId) : Option TxnState := log.states.get? txn

/-- The state of a transaction, which is a fresh one if it is not tracked. -/
def stateD (log : ShardLog) (txn : TxnId) : TxnState := (log.get? txn).getD { txn }

def withState (log : ShardLog) (txn : TxnId) (s : TxnState) : ShardLog :=
  { log with states := log.states.insert txn s }

@[simp] theorem get?_withState (log : ShardLog) (txn x : TxnId) (s : TxnState) :
    (log.withState txn s).get? x = if x = txn then some s else log.get? x :=
  SortedMap.get?_insert log.states txn x s

/-- The tracked transactions, ascending. -/
def txns (log : ShardLog) : List TxnId := log.states.keys

/-- Hands knowledge to the blocking tracker of a transaction, if there is one. -/
def learn (log : ShardLog) (txn : TxnId) (known : Known) : ShardLog :=
  match log.get? txn with
  | some s =>
    match s.blocking with
    | some b => log.withState txn (s.withBlocking (b.learn known))
    | none => log
  | none => log

/-- Records a block, which has to name a key. -/
def block (log : ShardLog) (txn : TxnId) (required : Known) (keys : Footprint) :
    ShardLog × Except Fault Unit :=
  if keys.isEmpty then (log, .error (.emptyKeySet txn))
  else
    let s := log.stateD txn
    let (b, r) := s.blockingD.block required keys
    (log.withState txn (s.withBlocking b), r)

/-! ## Status events -/

def witnessed (log : ShardLog) (txn : TxnId) (homeKey : Key) (role : Role) : ShardLog :=
  if role.isHome then
    let s := (log.stateD txn).rememberHome (some homeKey)
    log.withState txn (s.withCoordinate (s.coordinateD.reach .uncommitted .expected))
  else log

def preAccepted (log : ShardLog) (cmd : Command) (role : Role) : ShardLog × Except Fault Unit :=
  if !role.isProgress then (log, .error (.indeterminatePreAccept cmd.txn))
  else
    let s := (log.stateD cmd.txn).rememberHome cmd.homeKey
    let s :=
      if role.isHome then s.withCoordinate (s.coordinateD.reachFor cmd .uncommitted .expected)
      else s.withDelegation (s.delegationD .atRisk)
    (log.withState cmd.txn s, .ok ())

/-- The transaction moved on: the home shard follows it and any other shard is safe. -/
def movedOn (log : ShardLog) (cmd : Command) (role : Role) (status : CoordinateStatus)
    (progress : Progress) : ShardLog × Except Fault Unit :=
  if !role.isProgress then (log, .error (.indeterminateStatus status cmd.txn))
  else
    let log := if .committed ≤ status then log.learn cmd.txn .committed else log
    let s := (log.stateD cmd.txn).rememberHome cmd.homeKey
    let s :=
      if role.isHome then s.withCoordinate (s.coordinateD.reachFor cmd status progress)
      else s.withDelegation (s.delegationD .safe)
    (log.withState cmd.txn s, .ok ())

def accepted (log : ShardLog) (cmd : Command) (role : Role) : ShardLog × Except Fault Unit :=
  log.movedOn cmd role .uncommitted .expected

def committed (log : ShardLog) (cmd : Command) (role : Role) : ShardLog × Except Fault Unit :=
  log.movedOn cmd role .committed .noneExpected

def readyToExecute (log : ShardLog) (cmd : Command) (role : Role) : ShardLog × Except Fault Unit :=
  log.movedOn cmd role .readyToExecute .expected

/-- Executed here, which does not yet make it durable everywhere. -/
def executed (log : ShardLog) (cmd : Command) (role : Role) : ShardLog × Except Fault Unit :=
  (log.learn cmd.txn .preApplied).movedOn cmd role .readyToExecute .expected

/-- Unlike the other status events this one is accepted of a shard that cannot tell its role. -/
def invalidated (log : ShardLog) (cmd : Command) (role : Role) : ShardLog × Except Fault Unit :=
  let log := log.learn cmd.txn .invalidated
  if !role.isHome && ((log.get? cmd.txn).bind (·.coordinate)).isSome then
    (log, .error (.coordinatedElsewhere cmd.txn role))
  else if !role.isProgress then (log, .ok ())
  else
    let s := log.stateD cmd.txn
    let s :=
      if role.isHome then s.withCoordinate (s.coordinateD.reachFor cmd .done .done)
      else s.withDelegation (s.delegationD .safe)
    (log.withState cmd.txn s, .ok ())

/-! ## Durability -/

/-- Only the home shard disseminates. -/
def durableLocally (log : ShardLog) (txn : TxnId) (role : Role) : ShardLog :=
  if role.isHome then
    let s := log.stateD txn
    log.withState txn (s.withDisseminate (s.disseminateD.durableLocally log.node))
  else log

/-- The keys to learn a durable outcome by: the command's, or else the remembered home key. -/
def outcomeKeys (log : ShardLog) (cmd : Command) : Footprint :=
  if cmd.footprint.isEmpty then
    match (log.get? cmd.txn).bind (·.homeKey) with
    | some key => cmd.footprint.withKey key
    | none => cmd.footprint
  else cmd.footprint

/-- Every shard that has not applied the transaction has to learn its outcome. The home shard
moreover stops coordinating and starts announcing. -/
def durableGlobally (log : ShardLog) (topology : Topology) (cmd : Command)
    (persistedOn : Option (SortedSet NodeId)) (role : Role) : ShardLog × Except Fault Unit :=
  let blocked :=
    if cmd.hasBeen .preApplied then (log, .ok ())
    else log.block cmd.txn .preApplied (log.outcomeKeys cmd)
  match blocked with
  | (log, .error fault) => (log, .error fault)
  | (log, .ok ()) =>
    if !role.isHome then (log, .ok ())
    else
      let s := log.stateD cmd.txn
      let s := s.withCoordinate s.coordinateD.durableGlobally
      let s := s.withDisseminate (s.disseminateD.durableGlobally cmd topology persistedOn)
      (log.withState cmd.txn s, .ok ())

/-! ## All events -/

/-- Records what a shard of the given role has learned. -/
def record (log : ShardLog) (topology : Topology) (role : Role) :
    Event → ShardLog × Except Fault Unit
  | .witnessed txn homeKey => (log.witnessed txn homeKey role, .ok ())
  | .preAccepted cmd => log.preAccepted cmd role
  | .accepted cmd => log.accepted cmd role
  | .committed cmd => log.committed cmd role
  | .readyToExecute cmd => log.readyToExecute cmd role
  | .executed cmd => log.executed cmd role
  | .invalidated cmd => log.invalidated cmd role
  | .durableLocally txn => (log.durableLocally txn role, .ok ())
  | .durableGlobally cmd persistedOn => log.durableGlobally topology cmd persistedOn role
  | .durableElsewhere txn keys => log.block txn .preApplied keys
  | .waitingOn txn required keys => log.block txn required keys

/-! ## Audits and completions -/

/-- Audits one transaction. One that is not tracked plans nothing. -/
def audit (log : ShardLog) (topology : Topology) (cmd : Command) : ShardLog × Except Fault Audit :=
  match log.get? cmd.txn with
  | none => (log, .ok {})
  | some s =>
    let (s, r) := s.audit cmd topology
    (log.withState cmd.txn s, r)

def complete (log : ShardLog) (txn : TxnId) (tag : Tag) (completion : Completion) :
    ShardLog × Except Fault (Resolution Sequel) :=
  match log.get? txn with
  | none => (log, .ok .stale)
  | some s =>
    let (s, r) := s.complete tag completion
    (log.withState txn s, r)

end ShardLog

end TxnLiveness
